import Reperio.Python.Json

/-!
# Operators on Python values

Truth, equality and the tests that the modelled code makes on values of
unknown type.
-/

namespace Reperio.Python

namespace PyValue

/-- `bool(value)`. -/
def truthy : PyValue → Bool
  | none => false
  | bool value => value
  | int value => value != 0
  | float value =>
    match value.val with
    | .finite _ digits _ => digits != 0
    | _ => true
  | text points => !points.isEmpty
  | list items => !items.isEmpty
  | dict items => !items.isEmpty
  | other => true

/-- `first or second`. -/
def orElse (first second : PyValue) : PyValue := if first.truthy then first else second

/-- `isinstance(value, int)`: a boolean is an integer. -/
def int? : PyValue → Option ℤ
  | bool value => some (if value then 1 else 0)
  | int value => some value
  | _ => Option.none

/-- A list or a dictionary cannot be looked up in a set or a dictionary. -/
def hashable : PyValue → Bool
  | list _ => false
  | dict _ => false
  | _ => true

mutual

/-- `first == second`: numbers of all types compare by value, dictionaries without regard to order.
-/
def eq : PyValue → PyValue → Bool
  | none, none => true
  | text first, text second => decide (first = second)
  | list first, list second => eqItems first second
  | dict first, dict second => decide (first.length = second.length) && eqPairs first second
  | first, second =>
    match first.sortKey, second.sortKey with
    | .number first, .number second => decide (first = second)
    | _, _ => false

def eqItems : List PyValue → List PyValue → Bool
  | [], [] => true
  | first :: firsts, second :: seconds => eq first second && eqItems firsts seconds
  | _, _ => false

def eqPairs : List (PyValue × PyValue) → PyDict → Bool
  | [], _ => true
  | (key, value) :: items, seconds =>
    (seconds.any fun item => eq key item.1 && eq value item.2) && eqPairs items seconds

end

end PyValue

/-- `str.isspace` for one character. -/
def CodePoint.isSpace (point : CodePoint) : Bool :=
  decide
    (point.val ∈ [9, 10, 11, 12, 13, 28, 29, 30, 31, 32, 133, 160, 5760, 8232, 8233, 8239, 8287,
    12288]) || decide (8192 ≤ point.val) && decide (point.val ≤ 8202)

/-- `text.strip()`. -/
def PyStr.strip (points : PyStr) : PyStr :=
  ((points.dropWhile CodePoint.isSpace).reverse.dropWhile CodePoint.isSpace).reverse

/-- `text.startswith(start)`. -/
def PyStr.startsWith (points : PyStr) (start : String) : Bool :=
  (PyStr.ofString start).isPrefixOf points

/-- `mapping[key] = value` for any key. -/
def PyDict.setKey : PyDict → PyValue → PyValue → PyDict
  | [], key, value => [(key, value)]
  | (present, old) :: items, key, value =>
    if present.eq key then (present, value) :: items else (present, old) :: setKey items key value

/-- The key and the value that one element gives to `dict(elements)`. -/
def pairOf : PyValue → Except PyError (PyValue × PyValue)
  | .list [key, value] => if key.hashable then .ok (key, value) else .error .typeError
  | .list _ => .error .valueError
  | .text [first, second] => .ok (.text [first], .text [second])
  | .text _ => .error .valueError
  | .dict [(first, _), (second, _)] => .ok (first, second)
  | .dict _ => .error .valueError
  | _ => .error .typeError

/-- `dict(value)`. -/
def dictOf : PyValue → Except PyError PyDict
  | .dict items => .ok items
  | .list elements =>
    elements.foldlM (fun items element => do
      let (key, value) ← pairOf element
      return PyDict.setKey items key value) []
  | .text [] => .ok []
  | .text _ => .error .valueError
  | _ => .error .typeError

namespace PyDict

theorem get?_set_self (items : PyDict) (name : String) (value : PyValue) :
    (PyDict.set items name value).get? name = some value := by
  induction items with
  | nil => simp [set, get?, PyValue.str]
  | cons item items ih =>
    rcases item with ⟨key, old⟩
    cases key with
    | text points =>
      rw [set]
      split
      · rename_i same
        rw [get?, if_pos same]
      · rename_i different
        rw [get?, if_neg different, ih]
    | _ => exact ih

theorem get?_set_of_ne (items : PyDict) {name other : String} (value : PyValue)
    (different : PyStr.ofString name ≠ .ofString other) :
    (PyDict.set items name value).get? other = items.get? other := by
  induction items with
  | nil => simp [set, get?, PyValue.str, different]
  | cons item items ih =>
    rcases item with ⟨key, old⟩
    cases key with
    | text points =>
      rw [set]
      split
      · rename_i same
        rw [get?, get?, same, if_neg different, if_neg different]
      · rw [get?, get?, ih]
    | _ => exact ih

@[simp]
theorem get_set_self (items : PyDict) (name : String) (value : PyValue) :
    (PyDict.set items name value).get name = value := by
  rw [get, get?_set_self]
  rfl

theorem get_set_of_ne (items : PyDict) {name other : String} (value : PyValue)
    (different : PyStr.ofString name ≠ .ofString other) :
    (PyDict.set items name value).get other = items.get other := by
  rw [get, get, get?_set_of_ne items value different]

end PyDict

end Reperio.Python
