import Reperio.Python.JsonCanonical

/-!
# JSON texts with blanks

The encoder puts blanks after the separators and, with `indent`, lays the items
out in lines. Whatever the layout, the decoder skips the blanks and reads back the
same value as from the compact text.
-/

namespace Reperio.Python

/-! ## Lines -/

/-- The layout of `indent=width`. -/
def Layout.indented (width : ℕ) : Layout where
  first level := '\n' :: List.replicate (width * level) ' '
  next level := '\n' :: List.replicate (width * level) ' '
  last level := '\n' :: List.replicate (width * (level - 1)) ' '
  colon := [' ']
  areBlank level := by
    intro char isChar
    simp only [List.mem_append, List.mem_cons, List.mem_replicate, List.not_mem_nil,
      or_false] at isChar
    simp only [blanks, List.mem_cons, List.not_mem_nil, or_false]
    tauto

/-- `json.dumps(value, allow_nan=allowNan, sort_keys=True, indent=width)`. -/
def dumpsIndented (width : ℕ) (allowNan : Bool) (limit : ℕ) (value : PyValue) :
    Except PyError String := do
  return String.ofList ((← toJson allowNan limit value).renderLaid (.indented width) 0)

theorem loads_dumpsIndented {width : ℕ} {allowNan : Bool} {limit : ℕ} {value : PyValue}
    {text : String} (written : dumpsIndented width allowNan limit value = .ok text) :
    ∃ json, toJson allowNan limit value = .ok json ∧
      loads limit text = .ok (ofJson json.joined) := by
  rcases bind_eq_ok written with ⟨json, isJson, isText⟩
  cases isText
  refine ⟨json, isJson, ?_⟩
  rw [loads, String.toList_ofList, Json.parse_renderLaid (fits_toJson value isJson)]

/-! ## Blanks behind separators -/

namespace Json

mutual

def renderSpaced : Json → List Char
  | list items => '[' :: renderSpacedItems items
  | object members => '{' :: renderSpacedMembers members
  | json => json.render

/-- The items of an array up to its end. -/
def renderSpacedItems : List Json → List Char
  | [] => [']']
  | [item] => renderSpaced item ++ [']']
  | item :: other :: items => renderSpaced item ++ ',' :: ' ' :: renderSpacedItems (other :: items)

/-- The members of an object up to its end. -/
def renderSpacedMembers : List (PyStr × Json) → List Char
  | [] => ['}']
  | [(key, value)] => quote key ++ ':' :: ' ' :: (renderSpaced value ++ ['}'])
  | (key, value) :: other :: members =>
    quote key ++ ':' :: ' ' ::
      (renderSpaced value ++ ',' :: ' ' :: renderSpacedMembers (other :: members))

end

end Json

/-- `json.dumps(value, allow_nan=allowNan, sort_keys=True)`. -/
def dumpsSpaced (allowNan : Bool) (limit : ℕ) (value : PyValue) : Except PyError String := do
  return String.ofList (← toJson allowNan limit value).renderSpaced

def Layout.spaced : Layout where
  first _ := []
  next _ := [' ']
  last _ := []
  colon := [' ']
  areBlank _ := by decide

namespace Json

mutual

theorem renderSpaced_eq (json : Json) (level : ℕ) :
    json.renderSpaced = json.renderLaid .spaced level := by
  match json with
  | null | bool value | int value | float value | text points => rfl
  | list items =>
    rw [renderSpaced, renderLaid, renderSpacedItems_eq items (level + 1)]
    cases items <;> rfl
  | object members =>
    rw [renderSpaced, renderLaid, renderSpacedMembers_eq members (level + 1)]
    cases members <;> rfl

theorem renderSpacedItems_eq (items : List Json) (level : ℕ) :
    renderSpacedItems items = renderLaidItems .spaced level items := by
  match items with
  | [] => rfl
  | [item] =>
    rw [renderSpacedItems, renderLaidItems, renderSpaced_eq item level]
    rfl
  | item :: other :: items =>
    rw [renderSpacedItems, renderLaidItems, renderSpaced_eq item level,
      renderSpacedItems_eq (other :: items) level]
    rfl

theorem renderSpacedMembers_eq (members : List (PyStr × Json)) (level : ℕ) :
    renderSpacedMembers members = renderLaidMembers .spaced level members := by
  match members with
  | [] => rfl
  | [(key, value)] =>
    rw [renderSpacedMembers, renderLaidMembers, renderSpaced_eq value level]
    rfl
  | (key, value) :: other :: members =>
    rw [renderSpacedMembers, renderLaidMembers, renderSpaced_eq value level,
      renderSpacedMembers_eq (other :: members) level]
    rfl

end

/-- The decoder reads back what the encoder wrote. -/
theorem parse_renderSpaced {allowNan : Bool} {json : Json} {limit : ℕ}
    (fits : Fits allowNan limit json) : parse limit json.renderSpaced = .ok json.joined :=
  renderSpaced_eq json 0 ▸ parse_renderLaid fits

end Json

theorem loads_dumpsSpaced {allowNan : Bool} {limit : ℕ} {value : PyValue} {text : String}
    (written : dumpsSpaced allowNan limit value = .ok text) :
    ∃ json, toJson allowNan limit value = .ok json ∧
      loads limit text = .ok (ofJson json.joined) := by
  rcases bind_eq_ok written with ⟨json, isJson, isText⟩
  cases isText
  refine ⟨json, isJson, ?_⟩
  rw [loads, String.toList_ofList, Json.parse_renderSpaced (fits_toJson value isJson)]

end Reperio.Python
