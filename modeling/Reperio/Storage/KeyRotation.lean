import Reperio.Python.JsonPrefix
import Reperio.Python.LoadedText
import Reperio.Storage.SecretCipher
import Reperio.Storage.TornWrites

/-!
# Rotating the master key

`rotate_master_key` of `shared/secret_store.py` writes the new key over the old one
and then every record over itself. Stopped anywhere in between it leaves records
that no key in the directory opens (`rotation_safe_iff`).
-/

namespace Reperio.Storage

open Python

variable {secretRef : SecretRef}

namespace SecretStore

def keyBytes : ℕ := 32

/-- The files of the store. -/
inductive SecretPath where
  | masterKey
  | record (name : PyStr)
  deriving DecidableEq

/-- The key file and the records of a store. -/
structure SecretDisk where
  key : Option (List UInt8)
  records : SecretDirectory
  distinct : records.Distinct

def SecretFile.content : SecretFile → Option (List UInt8)
  | .bytes content => some content
  | .unreadable => none

def secretFiles : FileAccess SecretDisk SecretPath (List UInt8) where
  read disk path := match path with
    | .masterKey => disk.key
    | .record name => (disk.records.read name).bind SecretFile.content
  put disk path content := match path with
    | .masterKey => { disk with key := some content }
    | .record name =>
      { disk with
        records := disk.records.write name (.bytes content)
        distinct := disk.distinct.write name _ }
  read_put_self disk path content := by
    cases path with
    | masterKey => rfl
    | record name =>
      dsimp only
      rw [Directory.read_write_self]
      rfl
  read_put_of_ne {path other} disk content different := by
    cases path with
    | masterKey =>
      cases other with
      | masterKey => exact absurd rfl different
      | record name => rfl
    | record name =>
      cases other with
      | masterKey => rfl
      | record other =>
        have others : other ≠ name := fun same => different (congrArg SecretPath.record same)
        dsimp only
        rw [Directory.read_write_of_ne others]

/-- `_load_or_create_key`, with the key that is made where there is none. -/
def loadOrCreateKey (created : List UInt8) (disk : SecretDisk) : Except SecretError (List UInt8) :=
  match disk.key with
  | none => .ok created
  | some key =>
    if key.length ≠ keyBytes then .error (.secretStoreError "master key has invalid length")
    else .ok key

def refOf (name : PyStr) : PyStr := .ofString "vault:" ++ name

/-- What is known of a record before the new key is made. -/
structure Decrypted where
  name : PyStr
  metadata : SecretMetadata
  value : PyStr

section

variable (aead : Aead) (limit : ℕ)

def decryptRecord (directory : SecretDirectory) (key : List UInt8) (name : PyStr) :
    Except SecretError Decrypted := do
  let metadata ← metadata limit directory (refOf name)
  let value ← get aead limit directory key (refOf name)
  return { name, metadata, value }

variable (newKey : List UInt8) (nonceOf : PyStr → List UInt8)

/-- The record files that are written, until a record cannot be encrypted. -/
def recordWrites : List Decrypted → List (SecretPath × List UInt8) × Except SecretError Unit
  | [] => ([], .ok ())
  | entry :: entries =>
    match payloadBytes aead limit newKey (nonceOf entry.name) entry.metadata.label entry.value
      (entry.metadata.keyVersion + 1) with
    | .error error => ([], .error (.raised error))
    | .ok content =>
      let (writes, result) := recordWrites entries
      ((.record entry.name, content) :: writes, result)

/-- `rotate_master_key`: the files that are written, in order, and whether it returns. -/
def rotateMasterKey (disk : SecretDisk) (key : List UInt8) :
    List (SecretPath × List UInt8) × Except SecretError Unit :=
  match disk.records.mapM fun entry => decryptRecord aead limit disk.records key entry.1 with
  | .error error => ([], .error error)
  | .ok decrypted =>
    let (writes, result) := recordWrites aead limit newKey nonceOf decrypted
    ((.masterKey, newKey) :: writes, result)

/-- The steps of a rotation: every file is opened, and then written byte by byte. -/
def rotationSteps (disk : SecretDisk) (key : List UInt8) : List (SecretPath × List UInt8) :=
  FileAccess.stepsOf id (rotateMasterKey aead limit newKey nonceOf disk key).1

/-- The disk where a rotation is stopped after so many steps. -/
def rotatedUntil (disk : SecretDisk) (key : List UInt8) (count : ℕ) : SecretDisk :=
  secretFiles.after disk ((rotationSteps aead limit newKey nonceOf disk key).take count)

/-- It is not stopped before its end. -/
def Completes (disk : SecretDisk) (key : List UInt8) (count : ℕ) : Prop :=
  (rotationSteps aead limit newKey nonceOf disk key).length ≤ count ∧
    (rotateMasterKey aead limit newKey nonceOf disk key).2 = .ok ()

/-- A store that is opened on the disk reads the value. -/
def CanGet (created : List UInt8) (disk : SecretDisk) (ref value : PyStr) : Prop :=
  ∃ key, loadOrCreateKey created disk = .ok key ∧ get aead limit disk.records key ref = .ok value

def KeepsSecrets (created : List UInt8) (before after : SecretDisk) : Prop :=
  ∀ ref value, CanGet aead limit created before ref value →
    CanGet aead limit created after ref value

/-- Every record is there with its label, under the next version. -/
def NextVersions (before after : SecretDisk) : Prop :=
  ∀ ref payload, metadata limit before.records ref = .ok payload →
    metadata limit after.records ref = .ok { payload with keyVersion := payload.keyVersion + 1 }

end

variable {aead : Aead} {limit : ℕ} {disk after : SecretDisk} {key newKey created : List UInt8}
variable {nonceOf : PyStr → List UInt8} {entry : Decrypted} {entries decrypted : List Decrypted}
variable {writes : List (SecretPath × List UInt8)} {result : Except SecretError Unit}
variable {directory other : SecretDirectory} {ref value name : PyStr} {payload : SecretMetadata}
variable {count : ℕ} {content : List UInt8}

/-! ## References -/

theorem exists_secretRef (isPath : pathForRef ref = .ok name) :
    ∃ secretRef : SecretRef, secretRef.text = ref ∧ secretRef.name = name := by
  unfold pathForRef at isPath
  split at isPath
  · cases isPath
  rename_i starts
  dsimp only at isPath
  split at isPath
  · cases isPath
  rename_i shape
  rw [not_or, not_not] at shape
  have isRef : isSecretRef ref = true := by
    have isHex : List.all (ref.drop 6) isHex = true := by simpa using shape.2
    rw [isSecretRef, Bool.and_eq_true, Bool.and_eq_true, decide_eq_true_iff]
    exact ⟨⟨by simpa using starts, shape.1⟩, isHex⟩
  exact ⟨⟨ref, isRef⟩, rfl, Except.ok.inj isPath⟩

theorem SecretRef.text_eq (ref : SecretRef) : ref.text = refOf ref.name := by
  have shape := ref.opaqueRef
  rw [isSecretRef, Bool.and_eq_true, Bool.and_eq_true] at shape
  obtain ⟨rest, isText⟩ := List.isPrefixOf_iff_prefix.mp shape.1.1
  rw [SecretRef.name, ← isText]
  rfl

theorem exists_ref_of_readPayload {record : SecretRecord}
    (read : readPayload limit directory ref = .ok record) :
    ∃ secretRef : SecretRef, secretRef.text = ref := by
  obtain ⟨name, isPath, -⟩ := bind_eq_ok read
  obtain ⟨secretRef, isText, -⟩ := exists_secretRef isPath
  exact ⟨secretRef, isText⟩

theorem name_of_text (isText : secretRef.text = refOf name) : secretRef.name = name := by
  rw [SecretRef.name, isText]
  rfl

/-! ## What is read of a record -/

/-- Two directories hold the same file under a name. -/
theorem readPayload_congr (same : directory.read secretRef.name = other.read secretRef.name) :
    readPayload limit directory secretRef.text = readPayload limit other secretRef.text := by
  unfold readPayload
  rw [pathForRef_ref]
  dsimp only [bind, Except.bind]
  rw [same]

theorem get_congr (same : directory.read secretRef.name = other.read secretRef.name) :
    get aead limit directory key secretRef.text = get aead limit other key secretRef.text := by
  unfold get
  rw [readPayload_congr same]

/-- No other key opens a record. -/
theorem get_ne_ok_of_ne (lawful : aead.IsLawful) (different : newKey ≠ key)
    (opened : get aead limit directory key ref = .ok value) :
    ∀ other, get aead limit directory newKey ref ≠ .ok other := by
  intro other
  obtain ⟨payload, isPayload, opened⟩ := bind_eq_ok opened
  obtain ⟨nonce, isNonce, opened⟩ := bind_eq_ok opened
  obtain ⟨ciphertext, isCiphertext, opened⟩ := bind_eq_ok opened
  obtain ⟨associated, isAssociated, opened⟩ := bind_eq_ok opened
  rw [get, isPayload]
  dsimp only [bind, Except.bind]
  rw [isNonce]
  dsimp only
  rw [isCiphertext]
  dsimp only
  rw [isAssociated]
  dsimp only
  split at opened
  · cases opened
  · rename_i plaintext decrypted
    rw [lawful.onlyKey decrypted different]
    intro isOk
    cases isOk

/-- What was cut off is no record. -/
theorem readPayload_ne_ok_of_cut {nonce : List UInt8} {label : PyStr} {keyVersion : ℤ} {size : ℕ}
    {record : SecretRecord}
    (written : payloadBytes aead limit key nonce label value keyVersion = .ok content)
    (isCut : size < content.length)
    (stored : directory.read secretRef.name = some (.bytes (content.take size))) :
    readPayload limit directory secretRef.text ≠ .ok record := by
  intro read
  obtain ⟨found, text, items, isFound, decoded, loaded, -⟩ := readPayload_eq_ok.mp read
  obtain rfl : content.take size = found :=
    SecretFile.bytes.inj (Option.some.inj (stored.symm.trans isFound))
  obtain ⟨_, -, isContent⟩ := bind_eq_ok written
  obtain ⟨whole, isWhole, isContent⟩ := bind_eq_ok isContent
  cases isContent
  exact not_loads_of_cut isWhole isCut decoded loaded

theorem label_joined (read : metadata limit directory ref = .ok payload) :
    payload.label.joined = payload.label := by
  obtain ⟨record, isRecord, read⟩ := bind_eq_ok read
  cases read
  obtain ⟨secretRef, rfl⟩ := exists_ref_of_readPayload isRecord
  obtain ⟨_, text, items, -, -, loaded, wellFormed⟩ := readPayload_eq_ok.mp isRecord
  have isJoined := @PyDict.everywhere_get PyValue.JoinedText items "label" trivial
    (joinedText_of_loads loaded)
  rw [wellFormed.label] at isJoined
  exact isJoined

theorem value_joined (opened : get aead limit directory key ref = .ok value) :
    value.joined = value := by
  obtain ⟨_, -, opened⟩ := bind_eq_ok opened
  obtain ⟨_, -, opened⟩ := bind_eq_ok opened
  obtain ⟨_, -, opened⟩ := bind_eq_ok opened
  obtain ⟨_, -, opened⟩ := bind_eq_ok opened
  split at opened
  · cases opened
  unfold readPlaintext at opened
  dsimp only at opened
  split at opened
  · cases opened
  split at opened
  · cases opened
  · cases opened
  · rename_i items loaded
    split at opened
    · rename_i found isValue
      cases opened
      have isJoined := @PyDict.everywhere_get PyValue.JoinedText items "value" trivial
        (joinedText_of_loads loaded)
      rw [isValue] at isJoined
      exact isJoined
    · cases opened
  · cases opened

/-! ## The writes -/

/-- The record and the value that a rotation found under a name. -/
structure IsDecrypted (aead : Aead) (limit : ℕ) (directory : SecretDirectory) (key : List UInt8)
    (entry : Decrypted) : Prop where
  isMetadata : metadata limit directory (refOf entry.name) = .ok entry.metadata
  isValue : get aead limit directory key (refOf entry.name) = .ok entry.value

theorem isDecrypted_of_decryptRecord
    (found : decryptRecord aead limit directory key name = .ok entry) :
    entry.name = name ∧ IsDecrypted aead limit directory key entry := by
  obtain ⟨metadata, isMetadata, found⟩ := bind_eq_ok found
  obtain ⟨value, isValue, found⟩ := bind_eq_ok found
  cases found
  exact ⟨rfl, isMetadata, isValue⟩

theorem isDecrypted_of_mapM
    (found : directory.mapM (fun entry => decryptRecord aead limit directory key entry.1) =
      .ok decrypted) :
    decrypted.map Decrypted.name = directory.map Prod.fst ∧
      ∀ entry ∈ decrypted, IsDecrypted aead limit directory key entry := by
  have each := forall₂_of_mapM_ok found
  constructor
  · refine map_eq_map_of_forall₂ each fun record _ entry isEntry => ?_
    exact (isDecrypted_of_decryptRecord isEntry).1
  · intro entry isEntry
    obtain ⟨record, -, isFound⟩ := exists_of_mapM_ok found entry isEntry
    exact (isDecrypted_of_decryptRecord isFound).2

/-- What a write is of. -/
def Writes (aead : Aead) (limit : ℕ) (newKey : List UInt8) (nonceOf : PyStr → List UInt8)
    (entry : Decrypted) (write : SecretPath × List UInt8) : Prop :=
  write.1 = .record entry.name ∧
    payloadBytes aead limit newKey (nonceOf entry.name) entry.metadata.label entry.value
      (entry.metadata.keyVersion + 1) = .ok write.2

/-- The records are written up to the first that cannot be encrypted. -/
theorem recordWrites_eq
    (isWrites : recordWrites aead limit newKey nonceOf entries = (writes, result)) :
    ∃ done rest, entries = done ++ rest ∧
      List.Forall₂ (Writes aead limit newKey nonceOf) done writes ∧
        (result = .ok () ↔ rest = []) := by
  induction entries generalizing writes result with
  | nil =>
    cases isWrites
    exact ⟨[], [], rfl, .nil, by simp⟩
  | cons entry entries ih =>
    unfold recordWrites at isWrites
    split at isWrites
    · cases isWrites
      exact ⟨[], _, rfl, .nil, by simp⟩
    · rename_i content isContent
      rcases isRest : recordWrites aead limit newKey nonceOf entries with ⟨others, outcome⟩
      rw [isRest] at isWrites
      cases isWrites
      obtain ⟨done, rest, isEntries, written, returns⟩ := ih isRest
      exact ⟨entry :: done, rest, congrArg (entry :: ·) isEntries, .cons ⟨rfl, isContent⟩ written,
        returns⟩

/-- What is known of a record that was written under the key. -/
theorem decryptRecord_of_written {nonce : List UInt8} {label : PyStr} {keyVersion : ℤ}
    (lawful : aead.IsLawful) (nonceLength : nonce.length = nonceBytes) (positive : 1 ≤ keyVersion)
    (written : payloadBytes aead limit key nonce label value keyVersion = .ok content)
    (stored : directory.read secretRef.name = some (.bytes content)) :
    decryptRecord aead limit directory key secretRef.name =
      .ok ⟨secretRef.name, ⟨secretRef.text, label.joined, keyVersion⟩, value.joined⟩ := by
  obtain ⟨record, encrypts, read⟩ :=
    readPayload_of_written lawful nonceLength positive written stored
  have opened := @get_of_written aead limit key key nonce content label value keyVersion directory
    secretRef lawful nonceLength positive written stored
  rw [if_pos rfl] at opened
  rw [decryptRecord, ← secretRef.text_eq, metadata, read, opened]
  dsimp only [bind, Except.bind, pure, Except.pure]
  rw [encrypts.isVersion]

theorem paths_of_writes (written : List.Forall₂ (Writes aead limit newKey nonceOf) entries writes) :
    writes.map Prod.fst = entries.map fun entry => SecretPath.record entry.name :=
  map_eq_map_of_forall₂ written fun _ _ _ isWrite => isWrite.1

/-! ## Stopping between the writes -/

theorem loadOrCreateKey_of_length (isKey : disk.key = some key) (length : key.length = keyBytes) :
    loadOrCreateKey created disk = .ok key := by
  rw [loadOrCreateKey, isKey]
  exact if_neg (not_not.mpr length)

theorem canGet_iff (isKey : disk.key = some key) (length : key.length = keyBytes) :
    CanGet aead limit created disk ref value ↔ get aead limit disk.records key ref = .ok value := by
  rw [CanGet, loadOrCreateKey_of_length isKey length]
  constructor
  · rintro ⟨_, same, opened⟩
    cases same
    exact opened
  · exact fun opened => ⟨key, rfl, opened⟩

theorem read_of_content (found : secretFiles.read disk (.record secretRef.name) = some content) :
    disk.records.read secretRef.name = some (.bytes content) := by
  obtain ⟨file, isFile, isContent⟩ := Option.bind_eq_some_iff.mp found
  cases file with
  | bytes bytes =>
    obtain rfl := Option.some.inj isContent
    exact isFile
  | unreadable => cases isContent

section

variable (lawful : aead.IsLawful) (isKey : disk.key = some key) (length : key.length = keyBytes)
variable (newLength : newKey.length = keyBytes) (fresh : newKey ≠ key)
variable (nonceLength : ∀ name, (nonceOf name).length = nonceBytes)
variable (found : disk.records.mapM
  (fun entry => decryptRecord aead limit disk.records key entry.1) = .ok decrypted)

include found

theorem nodup_names : (decrypted.map Decrypted.name).Nodup := by
  rw [(isDecrypted_of_mapM found).1]
  exact disk.distinct

theorem rotateMasterKey_eq : ∃ done rest writes, decrypted = done ++ rest ∧
    List.Forall₂ (Writes aead limit newKey nonceOf) done writes ∧
    rotationSteps aead limit newKey nonceOf disk key =
      FileAccess.stepsOf id ((.masterKey, newKey) :: writes) ∧
    ((.masterKey :: writes.map Prod.fst).Nodup) ∧
    ((rotateMasterKey aead limit newKey nonceOf disk key).2 = .ok () ↔ rest = []) := by
  rcases isWrites : recordWrites aead limit newKey nonceOf decrypted with ⟨writes, result⟩
  obtain ⟨done, rest, isDecrypted, written, returns⟩ := recordWrites_eq isWrites
  have rotated : rotateMasterKey aead limit newKey nonceOf disk key =
      ((.masterKey, newKey) :: writes, result) := by
    unfold rotateMasterKey
    rw [found]
    dsimp only
    rw [isWrites]
  refine ⟨done, rest, writes, isDecrypted, written, ?_, ?_, ?_⟩
  · rw [rotationSteps, rotated]
  · rw [paths_of_writes written, List.nodup_cons]
    constructor
    · intro isPath
      obtain ⟨entry, -, same⟩ := List.mem_map.mp isPath
      cases same
    · have names := nodup_names found
      rw [isDecrypted, List.map_append] at names
      have names := (List.nodup_append.mp names).1
      have mapped := names.map fun _ _ same => SecretPath.record.inj same
      rwa [List.map_map] at mapped
  · rw [rotated]
    exact returns

/-- What is left of a record where a rotation did not finish with it. -/
def Unfinished (aead : Aead) (limit : ℕ) (newKey : List UInt8) (nonceOf : PyStr → List UInt8)
    (before after : SecretDisk) (entry : Decrypted) : Prop :=
  secretFiles.read after (.record entry.name) = secretFiles.read before (.record entry.name) ∨
    ∃ content size, payloadBytes aead limit newKey (nonceOf entry.name) entry.metadata.label
      entry.value (entry.metadata.keyVersion + 1) = .ok content ∧ size < content.length ∧
      secretFiles.read after (.record entry.name) = some (content.take size)

include newLength

/-- Once the key is written, a rotation that is stopped has not finished with some record. -/
theorem exists_unfinished_record (keyWritten : keyBytes < count)
    (stopped : ¬ Completes aead limit newKey nonceOf disk key count) :
    secretFiles.read (rotatedUntil aead limit newKey nonceOf disk key count) .masterKey =
      some newKey ∧ ∃ entry ∈ decrypted, Unfinished aead limit newKey nonceOf disk
        (rotatedUntil aead limit newKey nonceOf disk key count) entry := by
  obtain ⟨done, rest, writes, rfl, written, isSteps, distinct, returns⟩ :=
    @rotateMasterKey_eq aead limit disk key newKey nonceOf decrypted found
  rw [List.nodup_cons] at distinct
  have keyLength : (FileAccess.writeSteps id SecretPath.masterKey newKey).length = keyBytes +
    1 := by
    rw [FileAccess.length_writeSteps, newLength]
  have isAfter : rotatedUntil aead limit newKey nonceOf disk key count = secretFiles.after
      (secretFiles.after disk (FileAccess.writeSteps id .masterKey newKey))
      ((FileAccess.stepsOf id writes).take (count - (keyBytes + 1))) := by
    have inKey : (FileAccess.writeSteps id SecretPath.masterKey newKey).length ≤ count := by omega
    rw [rotatedUntil, isSteps, FileAccess.stepsOf, List.flatMap_cons, List.take_append, keyLength,
      List.take_of_length_le inKey, FileAccess.after_append]
    rfl
  have isStep : ∀ path, path ∉ writes.map Prod.fst →
      ∀ step ∈ (FileAccess.stepsOf id writes).take (count - (keyBytes + 1)), path ≠ step.1 := by
    rintro path noPath step isStep rfl
    exact noPath (FileAccess.mem_paths_of_mem_stepsOf (List.mem_of_mem_take isStep))
  have recordKept : ∀ name, secretFiles.read
      (secretFiles.after disk (FileAccess.writeSteps id .masterKey newKey)) (.record name) =
        secretFiles.read disk (.record name) := by
    intro name
    refine FileAccess.read_after_of_forall_ne fun step isStep same => ?_
    rw [FileAccess.path_of_mem_writeSteps isStep] at same
    cases same
  rw [isAfter]
  constructor
  · rw [FileAccess.read_after_of_forall_ne (isStep _ distinct.1)]
    exact FileAccess.read_after_writeSteps
  · by_cases inRecords : count - (keyBytes + 1) < (FileAccess.stepsOf id writes).length
    · obtain ⟨write, isWrite, unfinished⟩ := FileAccess.exists_unfinished distinct.2 inRecords
      have isOf : ∀ write ∈ writes, ∃ entry ∈ done,
        Writes aead limit newKey nonceOf entry write := by
        refine forall_mem_of_forall₂ written fun entry isEntry write isWrite => ?_
        exact ⟨entry, isEntry, isWrite⟩
      obtain ⟨entry, isEntry, isPath, isContent⟩ := isOf write isWrite
      refine ⟨entry, List.mem_append_left _ isEntry, ?_⟩
      rw [isPath] at unfinished
      cases unfinished with
      | inl same => exact .inl (same.trans (recordKept _))
      | inr cut =>
        obtain ⟨size, isCut, isRead⟩ := cut
        exact .inr ⟨write.2, size, isContent, isCut, isRead⟩
    · have notReturned : rest ≠ [] := by
        intro nothing
        refine stopped ⟨?_, returns.mpr nothing⟩
        rw [isSteps, FileAccess.stepsOf, List.flatMap_cons, List.length_append, keyLength]
        rw [FileAccess.stepsOf] at inRecords
        omega
      obtain ⟨entry, isEntry⟩ := List.exists_mem_of_ne_nil _ notReturned
      refine ⟨entry, List.mem_append_right _ isEntry, .inl ?_⟩
      have notWritten : SecretPath.record entry.name ∉ writes.map Prod.fst := by
        rw [paths_of_writes written]
        intro isPath
        obtain ⟨other, isOther, same⟩ := List.mem_map.mp isPath
        have names := nodup_names found
        rw [List.map_append, List.nodup_append] at names
        exact names.2.2 _ (List.mem_map_of_mem isOther) _ (List.mem_map_of_mem isEntry)
          (SecretPath.record.inj same)
      rw [FileAccess.read_after_of_forall_ne (isStep _ notWritten), recordKept]

include lawful isKey length fresh

/-- What is stopped behind its first step and before its end loses a secret. -/
theorem not_keepsSecrets (notEmpty : disk.records ≠ [])
    (started : (rotationSteps aead limit newKey nonceOf disk key).take count ≠ [])
    (stopped : ¬ Completes aead limit newKey nonceOf disk key count) :
    ¬ KeepsSecrets aead limit created disk
      (rotatedUntil aead limit newKey nonceOf disk key count) := by
  intro keeps
  obtain ⟨names, areDecrypted⟩ := isDecrypted_of_mapM found
  have canGet : ∀ entry ∈ decrypted, CanGet aead limit created
      (rotatedUntil aead limit newKey nonceOf disk key count) (refOf entry.name) entry.value :=
    fun entry isEntry =>
      keeps _ _ ((canGet_iff isKey length).mpr (areDecrypted entry isEntry).isValue)
  by_cases keyWritten : keyBytes < count
  · obtain ⟨isNewKey, entry, isEntry, unfinished⟩ :=
      exists_unfinished_record newLength found keyWritten stopped
    have opened := (canGet_iff isNewKey newLength).mp (canGet entry isEntry)
    have before := (areDecrypted entry isEntry).isValue
    obtain ⟨payload, isPayload, -⟩ := bind_eq_ok before
    obtain ⟨secretRef, isText⟩ := exists_ref_of_readPayload isPayload
    have isName := name_of_text isText
    unfold Unfinished at unfinished
    rw [← isName] at unfinished
    rw [← isText] at opened before isPayload
    cases unfinished with
    | inl same =>
      obtain ⟨content, -, -, stored, -⟩ := readPayload_eq_ok.mp isPayload
      have kept : secretFiles.read disk (.record secretRef.name) = some content := by
        change (disk.records.read secretRef.name).bind SecretFile.content = some content
        rw [stored]
        rfl
      rw [kept] at same
      rw [get_congr ((read_of_content same).trans stored.symm)] at opened
      exact get_ne_ok_of_ne lawful fresh before _ opened
    | inr cut =>
      obtain ⟨content, size, written, isCut, isRead⟩ := cut
      obtain ⟨_, isRecord, -⟩ := bind_eq_ok opened
      exact readPayload_ne_ok_of_cut written isCut (read_of_content isRead) isRecord
  · obtain ⟨entry, isEntry⟩ : ∃ entry, entry ∈ decrypted := by
      refine List.exists_mem_of_ne_nil _ fun nothing => notEmpty ?_
      rw [nothing] at names
      exact List.map_eq_nil_iff.mp names.symm
    obtain ⟨done, rest, writes, -, -, isSteps, -, -⟩ :=
      @rotateMasterKey_eq aead limit disk key newKey nonceOf decrypted found
    have keyLength : (FileAccess.writeSteps id SecretPath.masterKey newKey).length = keyBytes +
      1 := by
      rw [FileAccess.length_writeSteps, newLength]
    cases count with
    | zero => exact started (List.take_zero)
    | succ size =>
      have isAfter : rotatedUntil aead limit newKey nonceOf disk key (size + 1) =
          secretFiles.after disk
            ((FileAccess.writeSteps id .masterKey newKey).take (size + 1)) := by
        have inKey : size + 1 ≤ (FileAccess.writeSteps id SecretPath.masterKey newKey).length := by
          omega
        rw [rotatedUntil, isSteps, FileAccess.stepsOf, List.flatMap_cons,
          List.take_append_of_le_length inKey]
      have isKey : (rotatedUntil aead limit newKey nonceOf disk key (size + 1)).key =
          some (newKey.take size) := by
        have inside : size ≤ newKey.length := by omega
        rw [isAfter]
        exact @FileAccess.read_after_take_writeSteps _ _ _ _ secretFiles id disk .masterKey newKey
          size inside
      obtain ⟨_, opened, -⟩ := canGet entry isEntry
      rw [loadOrCreateKey, isKey] at opened
      dsimp only at opened
      rw [if_pos (by rw [List.length_take]; omega)] at opened
      cases opened

include nonceLength

omit fresh in
/-- At its end every record is written under the new key, with its label and its value. -/
theorem safe_of_completes (completes : Completes aead limit newKey nonceOf disk key count) :
    KeepsSecrets aead limit created disk (rotatedUntil aead limit newKey nonceOf disk key count) ∧
      NextVersions limit disk (rotatedUntil aead limit newKey nonceOf disk key count) := by
  obtain ⟨names, areDecrypted⟩ := isDecrypted_of_mapM found
  obtain ⟨done, rest, writes, isAll, written, isSteps, distinct, returns⟩ :=
    @rotateMasterKey_eq aead limit disk key newKey nonceOf decrypted found
  obtain rfl := returns.mp completes.2
  rw [List.append_nil] at isAll
  subst isAll
  have isAfter : rotatedUntil aead limit newKey nonceOf disk key count =
      secretFiles.after disk (FileAccess.stepsOf id ((.masterKey, newKey) :: writes)) := by
    rw [rotatedUntil, List.take_of_length_le completes.1, isSteps]
  have whole := @FileAccess.read_after_stepsOf _ _ _ _ secretFiles id disk
    ((.masterKey, newKey) :: writes) distinct
  rw [← isAfter, List.forall_mem_cons] at whole
  have isNewKey : (rotatedUntil aead limit newKey nonceOf disk key count).key = some newKey :=
    whole.1
  have flipped : List.Forall₂ (fun write entry => Writes aead limit newKey nonceOf entry write)
    writes decrypted := written.flip
  have isWritten : ∀ entry ∈ decrypted, ∃ write ∈ writes,
    Writes aead limit newKey nonceOf entry write := by
    refine forall_mem_of_forall₂ flipped fun write isWrite entry isOf => ?_
    exact ⟨write, isWrite, isOf⟩
  -- a record that was there is in the list, and its file holds what was written of it
  have isRewritten : ∀ {secretRef : SecretRef} {record : SecretRecord},
      readPayload limit disk.records secretRef.text = .ok record → ∃ entry ∈ decrypted,
        entry.name = secretRef.name ∧ 1 ≤ entry.metadata.keyVersion ∧ ∃ content,
          payloadBytes aead limit newKey (nonceOf entry.name) entry.metadata.label entry.value
            (entry.metadata.keyVersion + 1) = .ok content ∧
          (rotatedUntil aead limit newKey nonceOf disk key count).records.read secretRef.name =
            some (.bytes content) := by
    intro secretRef record isRecord
    obtain ⟨_, _, _, stored, -, -, wellFormed⟩ := readPayload_eq_ok.mp isRecord
    have isName : secretRef.name ∈ decrypted.map Decrypted.name := by
      rw [names]
      exact List.mem_map_of_mem (Directory.mem_of_read stored)
    obtain ⟨entry, isEntry, isName⟩ := List.mem_map.mp isName
    obtain ⟨write, isWrite, isPath, isContent⟩ := isWritten entry isEntry
    have isRead := whole.2 write isWrite
    rw [isPath, isName] at isRead
    have isMetadata := (areDecrypted entry isEntry).isMetadata
    rw [isName, ← secretRef.text_eq, metadata, isRecord] at isMetadata
    have isVersion : record.keyVersion = entry.metadata.keyVersion :=
      congrArg SecretMetadata.keyVersion (Except.ok.inj isMetadata)
    exact ⟨entry, isEntry, isName, isVersion ▸ wellFormed.positive, write.2, isContent,
      read_of_content isRead⟩
  constructor
  · intro ref value before
    rw [canGet_iff isKey length] at before
    rw [canGet_iff isNewKey newLength]
    obtain ⟨record, isRecord, -⟩ := bind_eq_ok before
    obtain ⟨secretRef, rfl⟩ := exists_ref_of_readPayload isRecord
    obtain ⟨entry, isEntry, isName, positive, content, isContent, stored⟩ := isRewritten isRecord
    have isValue := (areDecrypted entry isEntry).isValue
    rw [isName, ← secretRef.text_eq, before] at isValue
    obtain rfl := Except.ok.inj isValue
    rw [get_of_written lawful (nonceLength _) (by omega) isContent stored, if_pos rfl,
      value_joined before]
  · intro ref payload before
    obtain ⟨record, isRecord, isPayload⟩ := bind_eq_ok before
    obtain ⟨secretRef, rfl⟩ := exists_ref_of_readPayload isRecord
    obtain ⟨entry, isEntry, isName, positive, content, isContent, stored⟩ := isRewritten isRecord
    have isMetadata := (areDecrypted entry isEntry).isMetadata
    rw [isName, ← secretRef.text_eq, before] at isMetadata
    obtain rfl := Except.ok.inj isMetadata
    obtain ⟨written, encrypts, isWritten⟩ :=
      readPayload_of_written lawful (nonceLength _) (by omega) isContent stored
    rw [metadata, isWritten, label_joined before]
    have isRef : secretRef.text = entry.metadata.ref :=
      congrArg SecretMetadata.ref (Except.ok.inj isPayload)
    change Except.ok (SecretMetadata.mk _ _ written.keyVersion) = _
    rw [encrypts.isVersion, isRef]

end

/-- A rotation that may be stopped anywhere is safe exactly when nothing is stored, when it is
stopped before its first step, and when it gets to its end. -/
theorem rotation_safe_iff (lawful : aead.IsLawful) (isKey : disk.key = some key)
    (length : key.length = keyBytes) (newLength : newKey.length = keyBytes) (fresh : newKey ≠ key)
    (nonceLength : ∀ name, (nonceOf name).length = nonceBytes) :
    KeepsSecrets aead limit created disk (rotatedUntil aead limit newKey nonceOf disk key count) ∧
      (Completes aead limit newKey nonceOf disk key count →
        NextVersions limit disk (rotatedUntil aead limit newKey nonceOf disk key count)) ↔
    disk.records = [] ∨ (rotationSteps aead limit newKey nonceOf disk key).take count = [] ∨
      Completes aead limit newKey nonceOf disk key count := by
  have keepsAll : KeepsSecrets aead limit created disk disk := fun _ _ before => before
  cases found : disk.records.mapM fun entry =>
    decryptRecord aead limit disk.records key entry.1 with
  | error error =>
    have rotated : rotateMasterKey aead limit newKey nonceOf disk key = ([], .error error) := by
      rw [rotateMasterKey, found]
    have noSteps : rotationSteps aead limit newKey nonceOf disk key = [] := by
      rw [rotationSteps, rotated]
      rfl
    have isDisk : rotatedUntil aead limit newKey nonceOf disk key count = disk := by
      rw [rotatedUntil, noSteps, List.take_nil]
      rfl
    have raises : ¬ Completes aead limit newKey nonceOf disk key count := by
      rintro ⟨-, returned⟩
      rw [rotated] at returned
      cases returned
    rw [isDisk, noSteps, List.take_nil]
    exact iff_of_true ⟨keepsAll, fun completes => absurd completes raises⟩ (.inr (.inl rfl))
  | ok decrypted =>
    by_cases completes : Completes aead limit newKey nonceOf disk key count
    · have safe :=
        @safe_of_completes aead limit disk key newKey created nonceOf decrypted count lawful
        isKey length newLength nonceLength found completes
      exact iff_of_true ⟨safe.1, fun _ => safe.2⟩ (.inr (.inr completes))
    · constructor
      · rintro ⟨keeps, -⟩
        by_contra notSafe
        rw [not_or, not_or] at notSafe
        exact not_keepsSecrets lawful isKey length newLength fresh found notSafe.1 notSafe.2.1
          completes keeps
      · intro safe
        refine ⟨?_, fun completed => absurd completed completes⟩
        rcases safe with nothing | notStarted | completed
        · rintro ref value before
          rw [canGet_iff isKey length] at before
          obtain ⟨record, isRecord, -⟩ := bind_eq_ok before
          obtain ⟨secretRef, rfl⟩ := exists_ref_of_readPayload isRecord
          obtain ⟨_, _, _, stored, -⟩ := readPayload_eq_ok.mp isRecord
          rw [nothing] at stored
          cases stored
        · rw [rotatedUntil, notStarted]
          exact keepsAll
        · exact absurd completed completes

/-! ## One secret -/

theorem sampleRef_isSecretRef : isSecretRef (refOf (List.replicate 32 48)) = true := by decide

def sampleRef : SecretRef where
  text := refOf (List.replicate 32 48)
  opaqueRef := sampleRef_isSecretRef

def sampleKey (byte : UInt8) : List UInt8 := List.replicate keyBytes byte

def sampleNonce (_ : PyStr) : List UInt8 := List.replicate nonceBytes 0

def sampleDisk (content : List UInt8) : SecretDisk where
  key := some (sampleKey 1)
  records := [(sampleRef.name, .bytes content)]
  distinct := List.nodup_singleton _

/-- The content of a record of one secret, and what a rotation knows of it. -/
theorem exists_sampleContent : ∃ content, (sampleDisk content).records.mapM (fun entry =>
    decryptRecord openCipher 4 (sampleDisk content).records (sampleKey 1) entry.1) =
      .ok [⟨sampleRef.name, ⟨sampleRef.text, .ofString "mail", 1⟩, .ofString "pass"⟩] := by
  obtain ⟨content, written⟩ := @exists_payloadBytes openCipher 4 (sampleKey 1) (sampleNonce [])
    (.ofString "mail") (.ofString "pass") 1 (by decide) rfl
  refine ⟨content, ?_⟩
  have stored : (sampleDisk content).records.read sampleRef.name = some (.bytes content) := by
    rw [sampleDisk, Directory.read_cons, if_pos rfl]
  have found := decryptRecord_of_written openCipher_isLawful rfl le_rfl written stored
  rw [PyStr.joined_ofString, PyStr.joined_ofString] at found
  rw [sampleDisk, List.mapM_cons, List.mapM_nil]
  rw [sampleDisk] at found
  rw [found]
  rfl

theorem sampleKey_ne : sampleKey 2 ≠ sampleKey 1 := by decide

theorem rotation_safe_sample : ∃ content, (sampleDisk content).records ≠ [] ∧
    KeepsSecrets openCipher 4 [] (sampleDisk content)
      (rotatedUntil openCipher 4 (sampleKey 2) sampleNonce (sampleDisk content) (sampleKey 1)
      (rotationSteps openCipher 4 (sampleKey 2) sampleNonce (sampleDisk content)
        (sampleKey 1)).length) := by
  obtain ⟨content, found⟩ := exists_sampleContent
  refine ⟨content, List.cons_ne_nil _ _, ?_⟩
  have returned : (rotateMasterKey openCipher 4 (sampleKey 2) sampleNonce (sampleDisk content)
      (sampleKey 1)).2 = .ok () := by
    obtain ⟨rewritten, isRewritten⟩ := @exists_payloadBytes openCipher 4 (sampleKey 2)
      (sampleNonce sampleRef.name) (.ofString "mail") (.ofString "pass") 2 (by decide) rfl
    unfold rotateMasterKey
    rw [found]
    dsimp only [recordWrites]
    rw [show (1 + 1 : ℤ) = 2 from rfl, isRewritten]
  exact ((rotation_safe_iff openCipher_isLawful rfl (List.length_replicate) (List.length_replicate)
    sampleKey_ne fun _ => List.length_replicate).mpr (.inr (.inr ⟨le_rfl, returned⟩))).1

/-- Stopped behind the write of the key, a rotation loses the secret. -/
theorem stoppedRotation_loses_secret :
    ∃ content, ¬ KeepsSecrets openCipher 4 [] (sampleDisk content)
    (rotatedUntil openCipher 4 (sampleKey 2) sampleNonce (sampleDisk content) (sampleKey 1)
      (keyBytes + 1)) := by
  obtain ⟨content, found⟩ := exists_sampleContent
  obtain ⟨done, rest, writes, isAll, written, isSteps, -, returns⟩ :=
    @rotateMasterKey_eq openCipher 4 (sampleDisk content) (sampleKey 1) (sampleKey 2) sampleNonce _
      found
  have keyLength : (FileAccess.writeSteps id SecretPath.masterKey (sampleKey 2)).length =
      keyBytes + 1 := by
    rw [FileAccess.length_writeSteps, sampleKey, List.length_replicate]
  refine ⟨content, not_keepsSecrets openCipher_isLawful rfl List.length_replicate
    List.length_replicate sampleKey_ne found (List.cons_ne_nil _ _) ?_ ?_⟩
  · rw [isSteps, FileAccess.stepsOf, List.flatMap_cons, List.take_append_of_le_length keyLength.ge]
    intro nothing
    have length := congrArg List.length nothing
    rw [List.length_take, keyLength] at length
    cases length
  · rintro ⟨short, returned⟩
    rw [returns.mp returned, List.append_nil] at isAll
    subst isAll
    cases written with
    | cons first others =>
      rw [isSteps, FileAccess.stepsOf, List.flatMap_cons, List.flatMap_cons, List.length_append,
        List.length_append, keyLength, FileAccess.length_writeSteps] at short
      omega

end SecretStore

end Reperio.Storage
