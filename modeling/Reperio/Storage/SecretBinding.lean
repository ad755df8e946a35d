import Mathlib.Logic.Relation
import Reperio.Storage.KeyRotation

/-!
# What a reference opens

The operations of `SecretStore`, and record files that are moved about afterwards.
The associated data of a record names its label, its version and its nonce, and
not its reference. So a record opens under every reference that its file is given
(`binds_iff`).
-/

namespace Reperio.Storage

open Python Relation

namespace SecretStore

abbrev Nonce := { bytes : List UInt8 // bytes.length = nonceBytes }

/-- A store with its files, with what was put and with every record that was ever written. -/
structure Vault where
  key : List UInt8
  disk : SecretDisk
  puts : List (PyStr × PyStr)
  written : List (List UInt8)

def newVault (key : List UInt8) : Vault where
  key := key
  disk := { key := some key, records := [], distinct := List.nodup_nil }
  puts := []
  written := []

def SecretDisk.remove (disk : SecretDisk) (name : PyStr) : SecretDisk where
  key := disk.key
  records := disk.records.remove name
  distinct := disk.distinct.remove name

def recordOf : SecretPath × List UInt8 → Option (List UInt8)
  | (.masterKey, _) => none
  | (.record _, content) => some content

section

variable (aead : Aead) (limit : ℕ) (vault : Vault)

/-- `put`, with the reference and the nonce that it draws. -/
def put (ref : SecretRef) (nonce : Nonce) (label value : PyStr) :
    Except PyError (SecretMetadata × Vault) := do
  let content ← payloadBytes aead limit vault.key nonce.val label value 1
  return (⟨ref.text, label, 1⟩, { vault with
    disk := secretFiles.put vault.disk (.record ref.name) content
    puts := (ref.text, value) :: vault.puts
    written := content :: vault.written })

def delete (ref : PyStr) : Except SecretError Vault := do
  let name ← pathForRef ref
  return { vault with disk := vault.disk.remove name }

/-- `rotate_master_key`, with the order in which `glob` finds the records. -/
def rotate (listing : SecretDisk) (newKey : List UInt8) (nonceOf : PyStr → Nonce) : Vault :=
  let writes :=
    (rotateMasterKey aead limit newKey (fun name => (nonceOf name).val) listing vault.key).1
  { vault with
    -- the key is only replaced where every record could be decrypted
    key := if writes.isEmpty then vault.key else newKey
    disk := secretFiles.after listing writes
    written := writes.filterMap recordOf ++ vault.written }

/-- An operation that raises before it has written anything leaves the store as it is. -/
inductive Operates : Vault → Vault → Prop
  | put {vault next : Vault} (ref : SecretRef) (nonce : Nonce) (label value : PyStr)
      {metadata : SecretMetadata}
      (returned : put aead limit vault ref nonce label value = .ok (metadata, next)) :
      Operates vault next
  | delete {vault next : Vault} (ref : PyStr) (returned : delete vault ref = .ok next) :
      Operates vault next
  | rotate {vault : Vault} (listing : SecretDisk) (newKey : List UInt8) (nonceOf : PyStr → Nonce)
      (isListing : listing.records.Perm vault.disk.records) :
      Operates vault (rotate aead limit vault listing newKey nonceOf)

/-- Some file that the store has written, under any names. -/
def IsArrangement (directory : SecretDirectory) : Prop :=
  ∀ name file, directory.read name = some file → ∃ content ∈ vault.written, file = .bytes content

/-- A reference gives a value that was put under it, or an error of the store. -/
def BindsReferences (directory : SecretDirectory) : Prop :=
  ∀ ref, match get aead limit directory vault.key ref with
    | .ok value => (ref, value) ∈ vault.puts
    | .error error => ∃ message, error = .secretStoreError message

/-- The content of a record of a value under a key. -/
def IsRecordOf (key : List UInt8) (value : PyStr) (content : List UInt8) : Prop :=
  ∃ nonce label keyVersion, nonce.length = nonceBytes ∧ 1 ≤ keyVersion ∧
    payloadBytes aead limit key nonce label value keyVersion = .ok content

/-- What the present key opens of a record that stands under a reference was put under it. -/
def OwnRecords (directory : SecretDirectory) : Prop :=
  ∀ (ref : SecretRef) content value, directory.read ref.name = some (.bytes content) →
    IsRecordOf aead limit vault.key value content → (ref.text, value.joined) ∈ vault.puts

/-- A record of the store is one of a value that was put under its reference. -/
def IsPlaced (entry : PyStr × SecretFile) : Prop :=
  ∃ content ∈ vault.written, entry.2 = .bytes content ∧ ∃ key value put,
    IsRecordOf aead limit key value content ∧ (refOf entry.1, put) ∈ vault.puts ∧
      value.joined = put.joined

/-- Every record was written by the store, in its place. -/
structure IsKept : Prop where
  areRecords : ∀ content ∈ vault.written, ∃ key value, IsRecordOf aead limit key value content
  arePlaced : ∀ entry ∈ vault.disk.records, IsPlaced aead limit vault entry

end

variable {aead : Aead} {limit : ℕ} {vault next : Vault} {directory : SecretDirectory}
variable {ref : SecretRef} {key other content : List UInt8} {value : PyStr}
variable {entry : PyStr × SecretFile}

/-! ## Records -/

theorem get_of_isRecordOf (lawful : aead.IsLawful)
    (isRecord : IsRecordOf aead limit key value content)
    (stored : directory.read ref.name = some (.bytes content)) :
    get aead limit directory other ref.text = if other = key then .ok value.joined
      else .error (.secretStoreError "secret cannot be decrypted with this master key") := by
  obtain ⟨nonce, label, keyVersion, length, positive, written⟩ := isRecord
  exact get_of_written lawful length positive written stored

/-- A key finds one value in a record. -/
theorem joined_unique {second : PyStr} (lawful : aead.IsLawful)
    (isRecord : IsRecordOf aead limit key value content)
    (isOther : IsRecordOf aead limit other second content)
    (stored : directory.read ref.name = some (.bytes content)) : value.joined = second.joined := by
  have opened :=
    @get_of_isRecordOf aead limit directory ref key key content value lawful isRecord stored
  rw [get_of_isRecordOf lawful isOther stored, if_pos rfl] at opened
  split at opened
  · exact (Except.ok.inj opened).symm
  · cases opened

/-! ## One operation -/

theorem IsPlaced.mono {later : Vault} (placed : IsPlaced aead limit vault entry)
    (puts : vault.puts ⊆ later.puts) (written : vault.written ⊆ later.written) :
    IsPlaced aead limit later entry := by
  obtain ⟨content, isWritten, isFile, key, value, put, isRecord, isPut, same⟩ := placed
  exact ⟨content, written isWritten, isFile, key, value, put, isRecord, puts isPut, same⟩

theorem mem_records_after {steps : List (SecretPath × List UInt8)} {disk : SecretDisk}
    (isEntry : entry ∈ (secretFiles.after disk steps).records) :
    entry ∈ disk.records ∨ ∃ step ∈ steps, step.1 = .record entry.1 ∧ entry.2 = .bytes step.2 := by
  induction steps generalizing disk with
  | nil => exact .inl isEntry
  | cons step steps ih =>
    cases ih isEntry with
    | inr later =>
      obtain ⟨other, isStep, same⟩ := later
      exact .inr ⟨other, List.mem_cons_of_mem _ isStep, same⟩
    | inl isEntry =>
      obtain ⟨path, content⟩ := step
      cases path with
      | masterKey => exact .inl isEntry
      | record name =>
        cases isEntry with
        | head => exact .inr ⟨_, List.mem_cons_self, rfl, rfl⟩
        | tail _ isEntry => exact .inl (List.mem_of_mem_filter isEntry)

/-- Every record that is written in a rotation was decrypted before. -/
theorem writes_of_mem_rotateMasterKey {disk : SecretDisk} {newKey : List UInt8}
    {nonceOf : PyStr → List UInt8} {write : SecretPath × List UInt8} {name : PyStr}
    (isWrite : write ∈ (rotateMasterKey aead limit newKey nonceOf disk key).1)
    (isPath : write.1 = .record name) :
    ∃ entry, IsDecrypted aead limit disk.records key entry ∧
      Writes aead limit newKey nonceOf entry write := by
  unfold rotateMasterKey at isWrite
  split at isWrite
  · exact (List.not_mem_nil isWrite).elim
  · rename_i decrypted found
    rcases isWrites : recordWrites aead limit newKey nonceOf decrypted with ⟨writes, result⟩
    rw [isWrites] at isWrite
    obtain ⟨done, rest, rfl, written, -⟩ := recordWrites_eq isWrites
    cases isWrite with
    | head => cases isPath
    | tail _ isWrite =>
      have isOf : ∀ write ∈ writes, ∃ entry ∈ done,
        Writes aead limit newKey nonceOf entry write := by
        refine forall_mem_of_forall₂ written fun entry isEntry write isWrite => ?_
        exact ⟨entry, isEntry, isWrite⟩
      obtain ⟨entry, isEntry, isWrite⟩ := isOf write isWrite
      exact ⟨entry, (isDecrypted_of_mapM found).2 entry (List.mem_append_left _ isEntry), isWrite⟩

theorem isRecordOf_of_writes {newKey : List UInt8} {nonceOf : PyStr → Nonce} {entry : Decrypted}
    {write : SecretPath × List UInt8} (isDecrypted : IsDecrypted aead limit directory key entry)
    (isWrite : Writes aead limit newKey (fun name => (nonceOf name).val) entry write) :
    IsRecordOf aead limit newKey entry.value write.2 := by
  obtain ⟨record, isRecord, isMetadata⟩ := bind_eq_ok isDecrypted.isMetadata
  obtain ⟨secretRef, isText⟩ := exists_ref_of_readPayload isRecord
  rw [← isText] at isRecord
  obtain ⟨_, _, _, -, -, -, wellFormed⟩ := readPayload_eq_ok.mp isRecord
  have isVersion : record.keyVersion = entry.metadata.keyVersion :=
    congrArg SecretMetadata.keyVersion (Except.ok.inj isMetadata)
  have positive := wellFormed.positive
  exact ⟨_, _, _, (nonceOf entry.name).property, by omega, isWrite.2⟩

/-- What is decrypted of a record that is in its place was put there. -/
theorem exists_put_of_isDecrypted {entry : Decrypted} (lawful : aead.IsLawful)
    (placed : ∀ entry ∈ directory, IsPlaced aead limit vault entry)
    (isDecrypted : IsDecrypted aead limit directory vault.key entry) :
    ∃ put, (refOf entry.name, put) ∈ vault.puts ∧ entry.value.joined = put.joined := by
  have opened := isDecrypted.isValue
  obtain ⟨record, isRecord, -⟩ := bind_eq_ok opened
  obtain ⟨secretRef, isText⟩ := exists_ref_of_readPayload isRecord
  have isName := name_of_text isText
  rw [← isText] at isRecord opened
  obtain ⟨content, _, _, stored, -⟩ := readPayload_eq_ok.mp isRecord
  obtain ⟨found, -, isFile, key, value, put, isRecordOf, isPut, same⟩ :=
    placed _ (Directory.mem_of_read stored)
  obtain rfl : content = found := SecretFile.bytes.inj isFile
  rw [isName] at isPut
  refine ⟨put, isPut, ?_⟩
  rw [value_joined opened]
  rw [get_of_isRecordOf lawful isRecordOf stored] at opened
  split at opened
  · exact (Except.ok.inj opened).symm.trans same
  · cases opened

theorem isKept_of_operates (lawful : aead.IsLawful) (kept : IsKept aead limit vault)
    (operates : Operates aead limit vault next) : IsKept aead limit next := by
  cases operates with
  | put ref nonce label value returned =>
    obtain ⟨content, isContent, returned⟩ := bind_eq_ok returned
    cases returned
    have isRecord : IsRecordOf aead limit vault.key value content :=
      ⟨nonce.val, label, 1, nonce.property, le_rfl, isContent⟩
    constructor
    · rw [List.forall_mem_cons]
      exact ⟨⟨_, _, isRecord⟩, kept.areRecords⟩
    · intro entry isEntry
      cases isEntry with
      | head =>
        have isPut : (refOf ref.name, value) ∈ (ref.text, value) :: vault.puts := by
          rw [ref.text_eq]
          exact List.mem_cons_self
        exact ⟨content, List.mem_cons_self, rfl, _, _, value, isRecord, isPut, rfl⟩
      | tail _ isEntry =>
        exact (kept.arePlaced entry (List.mem_of_mem_filter isEntry)).mono
          (List.subset_cons_self _ _) (List.subset_cons_self _ _)
  | delete ref returned =>
    obtain ⟨name, -, returned⟩ := bind_eq_ok returned
    cases returned
    refine ⟨kept.areRecords, fun entry isEntry => ?_⟩
    exact (kept.arePlaced entry (List.mem_of_mem_filter isEntry)).mono (List.Subset.refl _)
      (List.Subset.refl _)
  | rotate listing newKey nonceOf isListing =>
    have placed : ∀ entry ∈ listing.records, IsPlaced aead limit vault entry :=
      fun entry isEntry => kept.arePlaced entry (isListing.mem_iff.mp isEntry)
    constructor
    · intro content isContent
      cases List.mem_append.mp isContent with
      | inr isOld => exact kept.areRecords content isOld
      | inl isNew =>
        obtain ⟨⟨path, _⟩, isWrite, isRecord⟩ := List.mem_filterMap.mp isNew
        cases path with
        | masterKey => cases isRecord
        | record name =>
          cases isRecord
          obtain ⟨entry, isDecrypted, isOf⟩ := writes_of_mem_rotateMasterKey isWrite rfl
          exact ⟨_, _, isRecordOf_of_writes isDecrypted isOf⟩
    · intro entry isEntry
      cases mem_records_after isEntry with
      | inl isOld =>
        exact (placed entry isOld).mono (List.Subset.refl _) (List.subset_append_right _ _)
      | inr isNew =>
        obtain ⟨write, isWrite, isPath, isFile⟩ := isNew
        obtain ⟨decrypted, isDecrypted, isOf⟩ := writes_of_mem_rotateMasterKey isWrite isPath
        obtain ⟨put, isPut, same⟩ := exists_put_of_isDecrypted lawful placed isDecrypted
        have isName : decrypted.name = entry.1 := SecretPath.record.inj (isOf.1.symm.trans isPath)
        have isWritten : write.2 ∈ (rotate aead limit vault listing newKey nonceOf).written := by
          refine List.mem_append_left _ (List.mem_filterMap.mpr ⟨write, isWrite, ?_⟩)
          obtain ⟨path, content⟩ := write
          cases isPath
          rfl
        rw [isName] at isPut
        exact ⟨write.2, isWritten, isFile, newKey, decrypted.value, put,
          isRecordOf_of_writes isDecrypted isOf, isPut, same⟩

/-! ## Runs -/

theorem isKept_of_run (lawful : aead.IsLawful)
    (run : ReflTransGen (Operates aead limit) (newVault key) vault) : IsKept aead limit vault := by
  induction run with
  | refl =>
    exact ⟨fun _ isWritten => (List.not_mem_nil isWritten).elim,
      fun _ isEntry => (List.not_mem_nil isEntry).elim⟩
  | tail _ operates ih => exact isKept_of_operates lawful ih operates

/-- Whatever is not a record of the store raises one of its errors. -/
theorem get_eq_error {text : PyStr} (noRecord : ∀ ref : SecretRef, ref.text = text →
    directory.read ref.name = none) :
    ∃ message, get aead limit directory key text = .error (.secretStoreError message) := by
  unfold get readPayload
  cases isPath : pathForRef text with
  | error error =>
    unfold pathForRef at isPath
    split at isPath
    · cases isPath
      exact ⟨_, rfl⟩
    · dsimp only at isPath
      split at isPath
      · cases isPath
        exact ⟨_, rfl⟩
      · cases isPath
  | ok name =>
    obtain ⟨ref, isText, rfl⟩ := exists_secretRef isPath
    dsimp only [bind, Except.bind]
    rw [noRecord ref isText]
    exact ⟨_, rfl⟩

theorem binds_of_ownRecords (lawful : aead.IsLawful) (kept : IsKept aead limit vault)
    (arranged : IsArrangement vault directory) (own : OwnRecords aead limit vault directory) :
    BindsReferences aead limit vault directory := by
  intro text
  by_cases isRecord : ∃ ref : SecretRef, ref.text = text ∧
    ∃ file, directory.read ref.name = some file
  · obtain ⟨ref, rfl, file, stored⟩ := isRecord
    obtain ⟨content, isWritten, rfl⟩ := arranged ref.name file stored
    obtain ⟨key, value, isRecord⟩ := kept.areRecords content isWritten
    rw [get_of_isRecordOf lawful isRecord stored]
    by_cases same : vault.key = key
    · rw [if_pos same]
      exact own ref content value stored (same ▸ isRecord)
    · rw [if_neg same]
      exact ⟨_, rfl⟩
  · have noRecord : ∀ ref : SecretRef, ref.text = text → directory.read ref.name = none := by
      intro ref isText
      refine Option.eq_none_iff_forall_ne_some.mpr fun file stored => ?_
      exact isRecord ⟨ref, isText, file, stored⟩
    obtain ⟨message, raised⟩ := @get_eq_error aead limit directory vault.key text noRecord
    rw [raised]
    exact ⟨message, rfl⟩

/-- The files as the store has left them are an arrangement, and a reference opens what was put
under it, as far as no value has surrogates that form a pair. -/
theorem undisturbed_binds (lawful : aead.IsLawful)
    (run : ReflTransGen (Operates aead limit) (newVault key) vault)
    (joined : ∀ put ∈ vault.puts, put.2.joined = put.2) :
    IsArrangement vault vault.disk.records ∧
      BindsReferences aead limit vault vault.disk.records := by
  have kept := isKept_of_run lawful run
  have arranged : IsArrangement vault vault.disk.records := by
    intro name file stored
    obtain ⟨content, isWritten, isFile, -⟩ := kept.arePlaced _ (Directory.mem_of_read stored)
    exact ⟨content, isWritten, isFile⟩
  refine ⟨arranged, binds_of_ownRecords lawful kept arranged fun ref content value stored
    isRecord => ?_⟩
  obtain ⟨found, -, isFile, key, placed, put, isPlaced, isPut, same⟩ :=
    kept.arePlaced _ (Directory.mem_of_read stored)
  obtain rfl : content = found := SecretFile.bytes.inj isFile
  rw [joined_unique lawful isRecord isPlaced stored, same, joined _ isPut, ref.text_eq]
  exact isPut

/-- However the files that were ever written are moved about, references open what was put under
them exactly when every record that the present key opens stands under a reference of its value. -/
theorem binds_iff (lawful : aead.IsLawful)
    (run : ReflTransGen (Operates aead limit) (newVault key) vault)
    (arranged : IsArrangement vault directory) :
    BindsReferences aead limit vault directory ↔ OwnRecords aead limit vault directory := by
  constructor
  · intro binds ref content value stored isRecord
    have bound := binds ref.text
    rw [get_of_isRecordOf lawful isRecord stored, if_pos rfl] at bound
    exact bound
  · exact binds_of_ownRecords lawful (isKept_of_run lawful run) arranged

def sampleVault (content : List UInt8) : Vault where
  key := sampleKey 1
  disk := sampleDisk content
  puts := [(sampleRef.text, .ofString "pass")]
  written := [content]

theorem exists_sampleVault : ∃ content,
    IsRecordOf openCipher 4 (sampleKey 1) (.ofString "pass") content ∧
      Operates openCipher 4 (newVault (sampleKey 1)) (sampleVault content) := by
  obtain ⟨content, written⟩ := @exists_payloadBytes openCipher 4 (sampleKey 1) (sampleNonce [])
    (.ofString "mail") (.ofString "pass") 1 (by decide) rfl
  have returned : put openCipher 4 (newVault (sampleKey 1)) sampleRef
      ⟨sampleNonce [], List.length_replicate⟩ (.ofString "mail") (.ofString "pass") =
        .ok (⟨sampleRef.text, .ofString "mail", 1⟩, sampleVault content) := by
    rw [put, newVault, written]
    rfl
  exact ⟨content, ⟨_, _, _, List.length_replicate, le_rfl, written⟩, .put sampleRef _ _ _ returned⟩

theorem undisturbed_binds_sample : ∃ vault, vault.puts ≠ [] ∧
    BindsReferences openCipher 4 vault vault.disk.records := by
  obtain ⟨content, -, operates⟩ := exists_sampleVault
  refine ⟨_, List.cons_ne_nil _ _, (undisturbed_binds openCipher_isLawful (.single operates) ?_).2⟩
  intro put isPut
  rw [List.mem_singleton.mp isPut]
  exact PyStr.joined_ofString _

theorem binds_sample : ∃ vault directory,
    ReflTransGen (Operates openCipher 4) (newVault (sampleKey 1)) vault ∧
      IsArrangement vault directory ∧ directory ≠ [] ∧
        BindsReferences openCipher 4 vault directory := by
  obtain ⟨content, isRecord, operates⟩ := exists_sampleVault
  have onlyFile : ∀ name file, (sampleDisk content).records.read name = some file →
      sampleRef.name = name ∧ file = .bytes content := by
    intro name file stored
    rw [sampleDisk, Directory.read_cons] at stored
    split at stored
    · rename_i same
      exact ⟨same, (Option.some.inj stored).symm⟩
    · cases stored
  have arranged : IsArrangement (sampleVault content) (sampleDisk content).records :=
    fun name file stored => ⟨content, List.mem_cons_self, (onlyFile name file stored).2⟩
  refine ⟨_, _, .single operates, arranged, List.cons_ne_nil _ _,
    (binds_iff openCipher_isLawful (.single operates) arranged).mpr fun ref found value stored
      isOf => ?_⟩
  obtain ⟨isName, isFile⟩ := onlyFile _ _ stored
  obtain rfl := SecretFile.bytes.inj isFile
  rw [joined_unique openCipher_isLawful isOf isRecord stored, PyStr.joined_ofString, ref.text_eq,
    ← isName, ← sampleRef.text_eq]
  exact List.mem_cons_self

theorem otherRef_isSecretRef : isSecretRef (refOf (List.replicate 32 49)) = true := by decide

def otherRef : SecretRef where
  text := refOf (List.replicate 32 49)
  opaqueRef := otherRef_isSecretRef

/-- A record that stands under the reference of another opens there. -/
theorem swapped_not_binds : ∃ vault directory,
    ReflTransGen (Operates openCipher 4) (newVault (sampleKey 1)) vault ∧
      IsArrangement vault directory ∧ ¬ BindsReferences openCipher 4 vault directory := by
  obtain ⟨content, isRecord, operates⟩ := exists_sampleVault
  obtain ⟨second, isSecond⟩ := @exists_payloadBytes openCipher 4 (sampleKey 1) (sampleNonce [])
    (.ofString "bank") (.ofString "word") 1 (by decide) rfl
  have returned : put openCipher 4 (sampleVault content) otherRef
      ⟨sampleNonce [], List.length_replicate⟩ (.ofString "bank") (.ofString "word") =
        .ok (⟨otherRef.text, .ofString "bank", 1⟩, { sampleVault content with
          disk := secretFiles.put (sampleDisk content) (.record otherRef.name) second
          puts := (otherRef.text, .ofString "word") :: (sampleVault content).puts
          written := second :: (sampleVault content).written }) := by
    rw [put, sampleVault, isSecond]
    rfl
  refine ⟨_, [(otherRef.name, .bytes content)], (ReflTransGen.single operates).tail
    (.put otherRef _ _ _ returned), ?_, fun binds => ?_⟩
  · intro name file stored
    rw [Directory.read_cons] at stored
    split at stored
    · exact ⟨content, List.mem_cons_of_mem _ List.mem_cons_self, (Option.some.inj stored).symm⟩
    · cases stored
  · have stored : Directory.read [(otherRef.name, SecretFile.bytes content)] otherRef.name =
        some (.bytes content) := by
      rw [Directory.read_cons, if_pos rfl]
    have notPut : (otherRef.text, PyStr.ofString "pass") ∉
        [(otherRef.text, PyStr.ofString "word"), (sampleRef.text, PyStr.ofString "pass")] := by
      decide
    have bound := binds otherRef.text
    rw [sampleVault, get_of_isRecordOf openCipher_isLawful isRecord stored, if_pos rfl,
      PyStr.joined_ofString] at bound
    exact notPut bound

end SecretStore

end Reperio.Storage
