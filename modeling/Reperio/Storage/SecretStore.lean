import Reperio.Encoding.Base64
import Reperio.Python.Json
import Reperio.Python.Operators
import Reperio.Python.Utf8
import Reperio.Storage.Directory

/-!
# The secret store

`shared/secret_store.py`: secrets encrypted in one file each, under references
that say nothing. This module holds what reading a record checks before
anything is decrypted.
-/

namespace Reperio.Storage

open Python Encoding

/-- What the store raises: errors of its own, and what it lets through. -/
inductive SecretError where
  | secretStoreError (message : String)
  | raised (error : PyError)
  deriving DecidableEq

/-- What stands under a name in the directory of the records: a file, or something that cannot be
read. -/
inductive SecretFile where
  | bytes (content : List UInt8)
  | unreadable

abbrev SecretDirectory := Directory PyStr SecretFile

/-- A record as its file holds it. -/
structure SecretRecord where
  label : PyStr
  keyVersion : ℤ
  nonce : PyStr
  ciphertext : PyStr
  deriving DecidableEq

/-- What may be shown of a record. -/
structure SecretMetadata where
  ref : PyStr
  label : PyStr
  keyVersion : ℤ
  deriving DecidableEq

namespace SecretStore

def nonceBytes : ℕ := 12

def isHex (point : CodePoint) : Bool := decide (point ∈ PyStr.ofString "0123456789abcdef")

/-- The name of the file of a reference, without `.json`. -/
def pathForRef (ref : PyStr) : Except SecretError PyStr := if !ref.startsWith "vault:" then
    .error (.secretStoreError "secret reference must be opaque vault reference")
  else
    let name := ref.drop 6
    if name.length ≠ 32 ∨ !name.all isHex then
      .error (.secretStoreError "secret reference is malformed")
    else .ok name

/-- `value.encode("ascii")`. -/
def encodeAscii (value : PyStr) : Option (List UInt8) :=
  if value.all fun point => decide (point.val < 128) then
    some (value.map fun point => UInt8.ofNat point.val)
  else none

def decodeField (value : PyStr) : Except SecretError (List UInt8) :=
  let invalid := .error (.secretStoreError "secret record contains invalid encoded field")
  match encodeAscii value with
  | none => invalid
  | some encoded =>
    let padded := encoded ++ List.replicate ((4 - encoded.length % 4) % 4) Base64.padding
    match Base64.decode padded with
    | none => invalid
    | some decoded => .ok decoded

/-- The checks of `_read_payload` on what the file holds. -/
def checkRecord (data : PyValue) : Except SecretError SecretRecord :=
  let malformed := .error (.secretStoreError "secret record is malformed")
  match data with
  | .dict items =>
    match PyDict.get items "label", PyDict.get items "key_version", PyDict.get items "nonce",
        PyDict.get items "ciphertext" with
    | .text label, .int keyVersion, .text nonce, .text ciphertext =>
      if keyVersion < 1 then malformed
      else do
        let nonceData ← decodeField nonce
        let cipherData ← decodeField ciphertext
        if nonceData.length ≠ nonceBytes ∨ cipherData.length < 16 then
          .error (.secretStoreError "secret record contains invalid encrypted data")
        else .ok ⟨label, keyVersion, nonce, ciphertext⟩
    | _, _, _, _ => malformed
  | _ => malformed

section

variable (limit : ℕ) (directory : SecretDirectory)

/-- `read_text` also makes `\n` of every line end, which is blank between the parts of a JSON text
and invalid within them, as any other line end is. -/
def readPayload (ref : PyStr) : Except SecretError SecretRecord := do
  let name ← pathForRef ref
  match directory.read name with
  | none => .error (.secretStoreError "secret reference cannot be read")
  | some .unreadable => .error (.secretStoreError "secret reference cannot be read")
  | some (.bytes content) =>
    match utf8Decode content with
    -- `UnicodeDecodeError`
    | none => .error (.raised .valueError)
    | some text =>
      match loads limit text with
      | .error .jsonDecodeError =>
        .error (.secretStoreError "secret reference cannot be read")
      | .error error => .error (.raised error)
      | .ok data => checkRecord data

def metadata (ref : PyStr) : Except SecretError SecretMetadata := do
  let payload ← readPayload limit directory ref
  return ⟨ref, payload.label, payload.keyVersion⟩

end

/-! ## References -/

/-- `SECRET_REF_RE`. -/
def isSecretRef (text : PyStr) : Bool :=
  text.startsWith "vault:" && decide ((text.drop 6).length = 32) && (text.drop 6).all isHex

/-- An opaque reference, as every audit target has one. -/
structure SecretRef where
  text : PyStr
  opaqueRef : isSecretRef text = true

def SecretRef.name (ref : SecretRef) : PyStr := ref.text.drop 6

theorem pathForRef_ref (ref : SecretRef) : pathForRef ref.text = .ok ref.name := by
  have shape := ref.opaqueRef
  unfold isSecretRef at shape
  rw [Bool.and_eq_true, Bool.and_eq_true, decide_eq_true_iff] at shape
  rcases shape with ⟨⟨starts, length⟩, hex⟩
  unfold pathForRef
  rw [starts, if_neg (by decide)]
  dsimp only
  rw [length, hex, if_neg (by decide)]
  rfl

/-! ## Readable records -/

/-- The fields of a record, as the store wants them. -/
structure WellFormed (items : PyDict) (record : SecretRecord) : Prop where
  label : items.get "label" = .text record.label
  keyVersion : items.get "key_version" = .int record.keyVersion
  positive : 1 ≤ record.keyVersion
  nonce : items.get "nonce" = .text record.nonce
  ciphertext : items.get "ciphertext" = .text record.ciphertext
  nonceLength : ∃ data, decodeField record.nonce = .ok data ∧ data.length = nonceBytes
  cipherLength : ∃ data, decodeField record.ciphertext = .ok data ∧ 16 ≤ data.length

theorem checkRecord_eq_ok {data : PyValue} {record : SecretRecord} :
    checkRecord data = .ok record ↔ ∃ items, data = .dict items ∧ WellFormed items record := by
  constructor
  · intro checked
    unfold checkRecord at checked
    dsimp only at checked
    split at checked
    · rename_i items
      split at checked
      · rename_i label keyVersion nonce ciphertext isLabel isVersion isNonce isCiphertext
        split at checked
        · cases checked
        rename_i positive
        rcases bind_eq_ok checked with ⟨nonceData, decodedNonce, checked⟩
        rcases bind_eq_ok checked with ⟨cipherData, decodedCipher, checked⟩
        split at checked
        · cases checked
        rename_i lengths
        rw [not_or, not_not, not_lt] at lengths
        cases checked
        exact ⟨items, rfl, isLabel, isVersion, not_lt.mp positive, isNonce, isCiphertext,
          ⟨nonceData, decodedNonce, lengths.1⟩, ⟨cipherData, decodedCipher, lengths.2⟩⟩
      · cases checked
    · cases checked
  · rintro ⟨items, rfl, wellFormed⟩
    rcases wellFormed.nonceLength with ⟨nonceData, decodedNonce, nonceLength⟩
    rcases wellFormed.cipherLength with ⟨cipherData, decodedCipher, cipherLength⟩
    unfold checkRecord
    simp only [wellFormed.label, wellFormed.keyVersion, wellFormed.nonce, wellFormed.ciphertext]
    rw [if_neg (not_lt.mpr wellFormed.positive), decodedNonce, decodedCipher]
    dsimp only [bind, Except.bind]
    rw [if_neg (by omega)]

/-- The file of a reference holds a record that the store reads. -/
def Readable (limit : ℕ) (directory : SecretDirectory) (ref : SecretRef) (record : SecretRecord) :
    Prop :=
  ∃ content text items, directory.read ref.name = some (.bytes content) ∧
    utf8Decode content = some text ∧ loads limit text = .ok (.dict items) ∧ WellFormed items record

theorem readPayload_eq_ok {limit : ℕ} {directory : SecretDirectory} {ref : SecretRef}
    {record : SecretRecord} :
    readPayload limit directory ref.text = .ok record ↔ Readable limit directory ref record := by
  unfold readPayload Readable
  rw [pathForRef_ref]
  dsimp only [bind, Except.bind]
  constructor
  · intro returned
    split at returned
    · cases returned
    · cases returned
    rename_i content stored
    split at returned
    · cases returned
    rename_i text decoded
    split at returned
    · cases returned
    · cases returned
    rename_i data loaded
    rcases checkRecord_eq_ok.mp returned with ⟨items, rfl, wellFormed⟩
    exact ⟨content, text, items, stored, decoded, loaded, wellFormed⟩
  · rintro ⟨content, text, items, stored, decoded, loaded, wellFormed⟩
    rw [stored]
    dsimp only
    rw [decoded]
    dsimp only
    rw [loaded]
    exact checkRecord_eq_ok.mpr ⟨items, rfl, wellFormed⟩

end SecretStore

end Reperio.Storage
