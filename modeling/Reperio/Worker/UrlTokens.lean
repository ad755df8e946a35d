import Reperio.Python.JsonSameText
import Reperio.Python.ReprWithin
import Reperio.Storage.SecretCipher

/-!
# Tokens in URLs

The state that the pages of `worker` keep in their URLs: JSON in URL-safe Base64. What is
read from a token is what was written, with the items of its dictionaries in the order of
their keys and its surrogates joined (`decodeToken_encodeToken`).
-/

namespace Reperio.Worker

open Python Encoding

/-- `base64.urlsafe_b64encode(json.dumps(…).encode("utf-8")).decode("ascii")`. -/
def encodeToken (limit : ℕ) (value : PyValue) : Except PyError PyStr := do
  return Storage.SecretStore.encode (utf8 (← dumps true limit value))

/-- `json.loads(base64.urlsafe_b64decode(token.encode("ascii")).decode("utf-8"))`. -/
def decodeToken (limit : ℕ) (token : PyStr) : Except PyError PyValue :=
  match Storage.SecretStore.encodeAscii token with
  | none => .error .valueError
  | some text =>
    match (Base64.urlsafeDecode text).bind utf8Decode with
    | none => .error .valueError
    | some json => loads limit json

/-- What `except (ValueError, UnicodeDecodeError)` catches of what reading a token raises. -/
def isValueError : PyError → Bool
  | .valueError => true
  | .jsonDecodeError => true
  | _ => false

variable {limit : ℕ} {value : PyValue} {token : PyStr} {items : PyDict}

theorem decodeToken_encodeToken (plain : value.Everywhere PyValue.PlainKeys)
    (encoded : encodeToken limit value = .ok token) :
    decodeToken limit token = .ok value.joinText.inKeyOrder := by
  obtain ⟨text, isText, isToken⟩ := bind_eq_ok encoded
  cases isToken
  obtain ⟨json, isJson, isText⟩ := bind_eq_ok isText
  cases isText
  rw [decodeToken, Storage.SecretStore.encodeAscii_encode]
  dsimp only
  rw [Base64.urlsafeDecode_encode, Option.bind_some, utf8Decode_utf8]
  dsimp only
  rw [loads_render (fits_toJson _ isJson), (read_toJson plain isJson).1]

/-! ## What can be written -/

theorem exists_encodeToken_iff :
    (∃ token, encodeToken limit value = .ok token) ↔
      ∃ json, toJson true limit value = .ok json := by
  rw [encodeToken, exists_map_iff, dumps, exists_map_iff]

theorem exists_toJson_int_iff {number : ℤ} : (∃ json, toJson true limit (.int number) = .ok json) ↔
    (Nat.toDigits 10 number.natAbs).length ≤ intMaxStrDigits := by
  rw [toJson, exists_map_iff, checkInt]
  split
  · exact iff_of_true ⟨_, rfl⟩ ‹_›
  · exact iff_of_false nofun ‹_›

theorem exists_toJson_float (number : PyFloat) :
    ∃ json, toJson true limit (.float number) = .ok json := by
  have allowed : number.allowed true = true := by
    unfold PyFloat.allowed
    split
    · rfl
    · rfl
  rw [toJson, exists_map_iff, checkFloat, if_pos allowed]
  exact ⟨number, rfl⟩

theorem exists_toJson_texts (texts : List PyStr) :
    ∃ json, toJson true (limit + 1) (.list (texts.map PyValue.text)) = .ok json := by
  rw [toJson, exists_map_iff]
  induction texts with
  | nil => exact ⟨[], rfl⟩
  | cons text texts ih =>
    obtain ⟨jsons, areJsons⟩ := ih
    exact ⟨.text text :: jsons, by rw [List.map_cons, toJsonItems, areJsons]; rfl⟩

theorem exists_toJson_dict_iff (textKeys : ∀ item ∈ items, ∃ points, item.1 = .text points) :
    (∃ json, toJson true (limit + 1) (.dict items) = .ok json) ↔
      ∀ item ∈ items, ∃ json, toJson true limit item.2 = .ok json := by
  rw [toJson, exists_map_iff, toJsonMembers_of_text textKeys, exists_mapM_iff]
  refine forall_congr' fun item => ?_
  rw [List.mem_insertionSort]
  refine forall_congr' fun isItem => ?_
  obtain ⟨points, isText⟩ := textKeys item isItem
  rw [isText]
  exact exists_map_iff

/-! ## What is read -/

theorem plainKeys_of_names (names : List String) (areKeys : items.map Prod.fst = names.map .str)
    (distinct : names.Nodup) : (PyValue.dict items).PlainKeys := by
  refine ⟨fun item isItem => ?_, areKeys ▸ distinct.map PyValue.str_injective⟩
  have isKey : item.1 ∈ names.map PyValue.str := areKeys ▸ List.mem_map_of_mem isItem
  obtain ⟨name, -, isName⟩ := List.mem_map.mp isKey
  exact ⟨.ofString name, isName.symm, PyStr.joined_ofString name⟩

/-- What is read of a dictionary has the same keys, and what is read of their values. -/
theorem exists_read_dict (plain : (PyValue.dict items).PlainKeys) :
    ∃ loaded : PyDict, (PyValue.dict items).joinText.inKeyOrder = .dict loaded ∧
      ∀ name, loaded.get name = (items.get name).joinText.inKeyOrder := by
  refine ⟨_, PyValue.joinText_inKeyOrder_dict plain, fun name => ?_⟩
  have found := PyDict.get?_map (fun value => value.joinText.inKeyOrder)
    (items.insertionSort PyValue.KeyLe) name
  rw [PyDict.get?_of_perm (List.perm_insertionSort PyValue.KeyLe items)
    (((List.perm_insertionSort _ _).map _).nodup_iff.mpr plain.2)] at found
  rw [PyDict.get, PyDict.get]
  refine (congrArg (Option.getD · PyValue.none) found).trans ?_
  cases items.get? name with
  | none => rfl
  | some value => rfl

end Reperio.Worker
