import Reperio.Python.JsonLayout
import Reperio.Storage.SecretStore

/-!
# Encrypted records

The encryption of `shared/secret_store.py`. A record is encrypted with its label,
its version and its nonce as associated data, and what is written under a key is
what is read with it, except that surrogates that form a pair become one character
(`get_of_written`).
-/

namespace Reperio.Storage

open Python Encoding

/-- `AESGCM`, of `cryptography`. -/
structure Aead where
  encrypt (key nonce plaintext associated : List UInt8) : List UInt8
  decrypt (key nonce ciphertext associated : List UInt8) : Option (List UInt8)

/-- The right key opens, no other key does, and a tag of 16 bytes is part of every ciphertext. -/
structure Aead.IsLawful (aead : Aead) : Prop where
  opens (key nonce plaintext associated : List UInt8) :
    aead.decrypt key nonce (aead.encrypt key nonce plaintext associated) associated = some plaintext
  onlyKey {key other nonce ciphertext associated plaintext : List UInt8}
    (opened : aead.decrypt key nonce ciphertext associated = some plaintext)
    (different : other ≠ key) :
    aead.decrypt other nonce ciphertext associated = none
  tag (key nonce plaintext associated : List UInt8) :
    16 ≤ (aead.encrypt key nonce plaintext associated).length

namespace SecretStore

def encode (value : List UInt8) : PyStr :=
  (Base64.encode value).map fun byte => Fin.ofNat 0x110000 byte.toNat

section

variable (aead : Aead) (limit : ℕ)

def associatedData (label : PyStr) (keyVersion : ℤ) (nonce : PyStr) :
    Except PyError (List UInt8) := do
  return utf8 (← dumps true limit (.dict [(.str "key_version", .int keyVersion),
    (.str "label", .text label), (.str "nonce", .text nonce)]))

def plaintextOf (value : PyStr) : Except PyError (List UInt8) := do
  return utf8 (← dumps true limit (.dict [(.str "value", .text value)]))

def encryptPayload (key nonce : List UInt8) (label value : PyStr) (keyVersion : ℤ) :
    Except PyError SecretRecord := do
  let plaintext ← plaintextOf limit value
  let associated ← associatedData limit label keyVersion (encode nonce)
  return ⟨label, keyVersion, encode nonce, encode (aead.encrypt key nonce plaintext associated)⟩

/-- What `_write_private_json` writes of a record. -/
def recordBytes (record : SecretRecord) : Except PyError (List UInt8) := do
  return utf8 (← dumpsSpaced true limit (.dict [(.str "label", .text record.label),
    (.str "key_version", .int record.keyVersion), (.str "nonce", .text record.nonce),
    (.str "ciphertext", .text record.ciphertext)]))

def payloadBytes (key nonce : List UInt8) (label value : PyStr) (keyVersion : ℤ) :
    Except PyError (List UInt8) := do
  recordBytes limit (← encryptPayload aead limit key nonce label value keyVersion)

/-- The value in a plaintext. -/
def readPlaintext (plaintext : List UInt8) : Except SecretError PyStr :=
  let malformed := .error (.secretStoreError "secret record plaintext is malformed")
  match utf8Decode plaintext with
  | none => malformed
  | some text =>
    match loads limit text with
    | .error .jsonDecodeError => malformed
    | .error error => .error (.raised error)
    | .ok (.dict items) =>
      match PyDict.get items "value" with
      | .text value => .ok value
      | _ => malformed
    | .ok _ => malformed

def get (directory : SecretDirectory) (key : List UInt8) (ref : PyStr) :
    Except SecretError PyStr := do
  let payload ← readPayload limit directory ref
  let nonce ← decodeField payload.nonce
  let ciphertext ← decodeField payload.ciphertext
  let associated ←
    (associatedData limit payload.label payload.keyVersion payload.nonce).mapError .raised
  match aead.decrypt key nonce ciphertext associated with
  | none => .error (.secretStoreError "secret cannot be decrypted with this master key")
  | some plaintext => readPlaintext limit plaintext

end

variable {aead : Aead} {limit : ℕ} {key other nonce content : List UInt8} {label value : PyStr}
variable {keyVersion : ℤ} {record : SecretRecord} {directory : SecretDirectory} {ref : SecretRef}

/-! ## Fields -/

theorem val_ofByte (byte : UInt8) : (Fin.ofNat 0x110000 byte.toNat).val = byte.toNat :=
  Nat.mod_eq_of_lt (lt_trans byte.toNat_lt (by decide))

theorem encodeAscii_encode (value : List UInt8) :
    encodeAscii (encode value) = some (Base64.encode value) := by
  have ascii : (encode value).all (fun point => decide (point.val < 128)) = true := by
    rw [encode, List.all_map, List.all_eq_true]
    intro byte isByte
    rw [Function.comp_apply, val_ofByte]
    exact decide_eq_true (Base64.ascii_encode value byte isByte)
  rw [encodeAscii, if_pos ascii, encode, List.map_map]
  refine congrArg some (List.map_id'' (fun byte => ?_) _)
  rw [Function.comp_apply, val_ofByte]
  exact UInt8.ofNat_toNat

theorem decodeField_encode (value : List UInt8) : decodeField (encode value) = .ok value := by
  have noPadding : (4 - (Base64.encode value).length % 4) % 4 = 0 := by
    rw [Base64.length_encode]
    omega
  rw [decodeField, encodeAscii_encode]
  dsimp only
  rw [noPadding, List.replicate_zero, List.append_nil, Base64.decode_encode]

theorem joined_encode (value : List UInt8) : (encode value).joined = encode value := by
  apply PyStr.joined_of_scalar
  intro point isPoint
  obtain ⟨byte, -, rfl⟩ := List.mem_map.mp isPoint
  refine .inl ?_
  rw [val_ofByte]
  exact lt_trans byte.toNat_lt (by decide)

/-! ## Texts -/

def associatedJson (label : PyStr) (keyVersion : ℤ) (nonce : PyStr) : Json :=
  .object [(.ofString "key_version", .int keyVersion), (.ofString "label", .text label),
    (.ofString "nonce", .text nonce)]

def recordJson (record : SecretRecord) : Json :=
  .object [(.ofString "ciphertext", .text record.ciphertext),
    (.ofString "key_version", .int record.keyVersion), (.ofString "label", .text record.label),
    (.ofString "nonce", .text record.nonce)]

theorem toJson_associated {nonce : PyStr} :
    toJson true (limit + 1)
      (.dict [(.str "key_version", .int keyVersion), (.str "label", .text label),
      (.str "nonce", .text nonce)]) =
        do return associatedJson label (← checkInt keyVersion) nonce := by
  have ofInt : toJson true limit (.int keyVersion) = do return .int (← checkInt keyVersion) := rfl
  rw [toJson]
  simp only [toJsonValues]
  rw [ofInt]
  cases checkInt keyVersion with
  | error error => rfl
  | ok version => rfl

theorem toJson_record : toJson true (limit + 1) (.dict [(.str "label", .text record.label),
      (.str "key_version", .int record.keyVersion), (.str "nonce", .text record.nonce),
      (.str "ciphertext", .text record.ciphertext)]) =
        do return recordJson { record with keyVersion := ← checkInt record.keyVersion } := by
  have ofInt : toJson true limit (.int record.keyVersion) = do
      return .int (← checkInt record.keyVersion) := rfl
  rw [toJson]
  simp only [toJsonValues]
  rw [ofInt]
  cases checkInt record.keyVersion with
  | error error => rfl
  | ok version => rfl

theorem eq_of_checkInt {value checked : ℤ} (isChecked : checkInt value = .ok checked) :
    checked = value := by
  unfold checkInt at isChecked
  split at isChecked
  · exact (Except.ok.inj isChecked).symm
  · cases isChecked

/-- The associated data names the version, the label and the nonce. -/
theorem associatedData_eq_ok_iff {nonce : PyStr} :
    associatedData limit label keyVersion nonce = .ok content ↔
      0 < limit ∧ checkInt keyVersion = .ok keyVersion ∧
        content = utf8 (String.ofList (associatedJson label keyVersion nonce).render) := by
  cases limit with
  | zero =>
    refine iff_of_false ?_ fun both => absurd both.1 (lt_irrefl 0)
    intro written
    cases written
  | succ limit =>
    unfold associatedData dumps
    rw [toJson_associated]
    constructor
    · intro written
      obtain ⟨text, isText, isContent⟩ := bind_eq_ok written
      obtain ⟨json, isJson, isText⟩ := bind_eq_ok isText
      obtain ⟨version, isVersion, isJson⟩ := bind_eq_ok isJson
      cases isJson
      cases isText
      cases isContent
      obtain rfl := eq_of_checkInt isVersion
      exact ⟨Nat.succ_pos _, isVersion, rfl⟩
    · rintro ⟨-, isVersion, rfl⟩
      rw [isVersion]
      rfl

/-- Surrogates that form a pair are written as the character that they stand for. -/
theorem associatedData_joined {nonce : PyStr} : associatedData limit label.joined keyVersion nonce =
      associatedData limit label keyVersion nonce := by
  have render : ∀ keyVersion, (associatedJson label.joined keyVersion nonce).render =
      (associatedJson label keyVersion nonce).render := by
    intro keyVersion
    simp only [associatedJson, Json.render, Json.renderMembers, quote_joined]
  cases limit with
  | zero => rfl
  | succ limit =>
    unfold associatedData dumps
    rw [toJson_associated, toJson_associated]
    cases checkInt keyVersion with
    | error error => rfl
    | ok version =>
      exact congrArg (fun chars => Except.ok (utf8 (String.ofList chars))) (render version)

/-! ## Reading back -/

/-- The items of a record as they are read. -/
def recordItems (record : SecretRecord) : PyDict :=
  [(.str "ciphertext", .text record.ciphertext), (.str "key_version", .int record.keyVersion),
    (.str "label", .text record.label), (.str "nonce", .text record.nonce)]

theorem ofJson_recordJson (cipherJoined : record.ciphertext.joined = record.ciphertext)
    (nonceJoined : record.nonce.joined = record.nonce) :
    ofJson (recordJson record).joined =
      .dict (recordItems { record with label := record.label.joined }) := by
  simp only [recordJson, Json.joined, Json.joinedMembers, PyStr.joined_ofString, cipherJoined,
    nonceJoined]
  rfl

/-- What `_write_private_json` has written. -/
theorem recordBytes_eq_ok (written : recordBytes limit record = .ok content) :
    ∃ text, content = utf8 text ∧ checkInt record.keyVersion = .ok record.keyVersion ∧
      loads limit text = .ok (ofJson (recordJson record).joined) := by
  obtain ⟨text, isText, isContent⟩ := bind_eq_ok written
  cases isContent
  obtain ⟨json, isJson, read⟩ := loads_dumpsSpaced isText
  cases limit with
  | zero => cases isJson
  | succ limit =>
    rw [toJson_record] at isJson
    obtain ⟨version, isVersion, isJson⟩ := bind_eq_ok isJson
    cases isJson
    obtain rfl := eq_of_checkInt isVersion
    exact ⟨text, rfl, isVersion, read⟩

theorem plaintextOf_eq_ok (written : plaintextOf limit value = .ok content) :
    readPlaintext limit content = .ok value.joined := by
  obtain ⟨text, isText, isContent⟩ := bind_eq_ok written
  cases isContent
  obtain ⟨json, isJson, isText⟩ := bind_eq_ok isText
  cases isText
  have fits := fits_toJson _ isJson
  cases limit with
  | zero => cases isJson
  | succ limit =>
    obtain rfl : Json.object [(.ofString "value", .text value)] = json := Except.ok.inj isJson
    unfold readPlaintext
    rw [utf8Decode_utf8]
    dsimp only
    rw [loads_render fits]
    simp only [Json.joined, Json.joinedMembers, PyStr.joined_ofString]
    rfl

/-- What a record was encrypted from, and with what. -/
structure Encrypts (aead : Aead) (limit : ℕ) (key nonce : List UInt8) (label value : PyStr)
    (keyVersion : ℤ) (record : SecretRecord) : Prop where
  isLabel : record.label = label
  isVersion : record.keyVersion = keyVersion
  isNonce : record.nonce = encode nonce
  isCiphertext : ∃ plaintext associated, plaintextOf limit value = .ok plaintext ∧
    associatedData limit label keyVersion (encode nonce) = .ok associated ∧
    record.ciphertext = encode (aead.encrypt key nonce plaintext associated)

theorem encrypts_of_encryptPayload
    (encrypted : encryptPayload aead limit key nonce label value keyVersion = .ok record) :
    Encrypts aead limit key nonce label value keyVersion record := by
  obtain ⟨plaintext, isPlaintext, encrypted⟩ := bind_eq_ok encrypted
  obtain ⟨associated, isAssociated, encrypted⟩ := bind_eq_ok encrypted
  cases encrypted
  exact ⟨rfl, rfl, rfl, plaintext, associated, isPlaintext, isAssociated, rfl⟩

/-- A record can be written wherever its version can. -/
theorem exists_payloadBytes (nested : 0 < limit)
    (isVersion : checkInt keyVersion = .ok keyVersion) :
    ∃ content, payloadBytes aead limit key nonce label value keyVersion = .ok content := by
  obtain ⟨plaintext, isPlaintext⟩ : ∃ plaintext, plaintextOf limit value = .ok plaintext := by
    cases limit with
    | zero => exact absurd nested (lt_irrefl 0)
    | succ limit => exact ⟨_, rfl⟩
  have isAssociated : associatedData limit label keyVersion (encode nonce) = .ok _ :=
    associatedData_eq_ok_iff.mpr ⟨nested, isVersion, rfl⟩
  rw [payloadBytes, encryptPayload, isPlaintext]
  dsimp only [bind, Except.bind]
  rw [isAssociated]
  dsimp only [pure, Except.pure]
  rw [recordBytes, dumpsSpaced]
  cases limit with
  | zero => exact absurd nested (lt_irrefl 0)
  | succ limit =>
    rw [toJson_record, isVersion]
    exact ⟨_, rfl⟩

section

variable (lawful : aead.IsLawful) (nonceLength : nonce.length = nonceBytes)
  (positive : 1 ≤ keyVersion)
variable (written : payloadBytes aead limit key nonce label value keyVersion = .ok content)
variable (stored : directory.read ref.name = some (.bytes content))

include lawful nonceLength positive written stored

theorem readPayload_of_written : ∃ record,
    Encrypts aead limit key nonce label value keyVersion record ∧
    readPayload limit directory ref.text = .ok { record with label := label.joined } := by
  obtain ⟨record, isRecord, isContent⟩ := bind_eq_ok written
  have encrypts := encrypts_of_encryptPayload isRecord
  obtain ⟨text, rfl, -, read⟩ := recordBytes_eq_ok isContent
  refine ⟨record, encrypts, readPayload_eq_ok.mpr ?_⟩
  obtain ⟨plaintext, associated, -, -, isCipher⟩ := encrypts.isCiphertext
  rw [ofJson_recordJson (isCipher ▸ joined_encode _) (encrypts.isNonce ▸ joined_encode _)] at read
  refine ⟨_, text, _, stored, utf8Decode_utf8 text, read, ?_⟩
  have label := encrypts.isLabel
  constructor
  · rw [← label]
    rfl
  · rfl
  · rw [← encrypts.isVersion] at positive
    exact positive
  · rfl
  · rfl
  · exact ⟨nonce, encrypts.isNonce ▸ decodeField_encode nonce, nonceLength⟩
  · exact ⟨_, isCipher ▸ decodeField_encode _, lawful.tag _ _ _ _⟩

/-- With the key of a record its value is read, and with no other key. -/
theorem get_of_written : get aead limit directory other ref.text =
    if other = key then .ok value.joined
    else .error (.secretStoreError "secret cannot be decrypted with this master key") := by
  obtain ⟨record, encrypts, read⟩ :=
    readPayload_of_written lawful nonceLength positive written stored
  obtain ⟨plaintext, associated, isPlaintext, isAssociated, isCipher⟩ := encrypts.isCiphertext
  rw [get, read]
  dsimp only [bind, Except.bind]
  rw [encrypts.isNonce, decodeField_encode]
  dsimp only
  rw [isCipher, decodeField_encode]
  dsimp only
  rw [encrypts.isVersion, associatedData_joined, isAssociated]
  dsimp only [Except.mapError]
  have opened := lawful.opens key nonce plaintext associated
  by_cases same : other = key
  · rw [if_pos same, same, opened]
    exact plaintextOf_eq_ok isPlaintext
  · rw [if_neg same, lawful.onlyKey opened same]

end

end SecretStore

/-! ## A cipher that hides nothing -/

def field (bytes : List UInt8) : List UInt8 := bytes.flatMap (fun byte => [1, byte]) ++ [0]

def readField : List UInt8 → Option (List UInt8 × List UInt8)
  | 0 :: rest => some ([], rest)
  | 1 :: byte :: rest => (readField rest).map fun read => (byte :: read.1, read.2)
  | _ => none

theorem readField_field (bytes rest : List UInt8) :
    readField (field bytes ++ rest) = some (bytes, rest) := by
  induction bytes with
  | nil => rfl
  | cons byte bytes ih =>
    have split : field (byte :: bytes) ++ rest = 1 :: byte :: (field bytes ++ rest) := rfl
    rw [split, readField, ih]
    rfl

/-- Before the plaintext stands everything that is needed to open it. -/
def openCipher : Aead where
  encrypt key nonce plaintext associated :=
    List.replicate 16 0 ++ (field key ++ (field nonce ++ (field associated ++ plaintext)))
  decrypt key nonce ciphertext associated := do
    let (isKey, rest) ← readField (ciphertext.drop 16)
    let (isNonce, rest) ← readField rest
    let (isAssociated, plaintext) ← readField rest
    if isKey = key ∧ isNonce = nonce ∧ isAssociated = associated then some plaintext else none

theorem openCipher_isLawful : openCipher.IsLawful := by
  constructor
  · intro key nonce plaintext associated
    dsimp only [openCipher, bind, Option.bind]
    rw [List.drop_left' List.length_replicate, readField_field]
    dsimp only
    rw [readField_field]
    dsimp only
    rw [readField_field]
    exact if_pos ⟨rfl, rfl, rfl⟩
  · intro key other nonce ciphertext associated plaintext opened different
    dsimp only [openCipher] at opened ⊢
    obtain ⟨⟨isKey, afterKey⟩, readKey, opened⟩ := Option.bind_eq_some_iff.mp opened
    obtain ⟨⟨isNonce, afterNonce⟩, readNonce, opened⟩ := Option.bind_eq_some_iff.mp opened
    obtain ⟨⟨isAssociated, rest⟩, readAssociated, opened⟩ := Option.bind_eq_some_iff.mp opened
    rw [readKey, Option.bind_eq_bind, Option.bind_some, readNonce, Option.bind_some, readAssociated,
      Option.bind_some]
    dsimp only at opened ⊢
    split at opened
    · rename_i same
      exact if_neg fun others => different (others.1.symm.trans same.1)
    · cases opened
  · intro key nonce plaintext associated
    dsimp only [openCipher]
    rw [List.length_append, List.length_replicate]
    exact Nat.le_add_right _ _

end Reperio.Storage
