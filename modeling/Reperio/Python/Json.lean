import Mathlib.Data.List.Lex
import Mathlib.Order.WithBot
import Reperio.Python.JsonText

/-!
# `json.dumps` and `json.loads`

The serialisation that all catalog modules use,
`json.dumps(payload, sort_keys=True, separators=(",", ":"))` with and without
`allow_nan=False`, and `json.loads`. `toJson` turns a Python value into the
JSON value that is written: keys become strings, sorted as Python sorts the
keys themselves. The recursion limit of the interpreter is a parameter.
-/

namespace Reperio.Python

/-! ## Keys -/

/-- What `sort_keys` compares: numbers with numbers and strings with strings. -/
inductive SortKey where
  | number (value : WithBot (WithTop ℚ))
  -- not a number: compares with every number, and is never smaller
  | nan
  | text (points : PyStr)
  -- `None`: comparable with nothing
  | lone

def FloatText.sortKey : FloatText → SortKey
  | .nan => .nan
  | .infinity false => .number (some ⊤)
  | .infinity true => .number ⊥
  | .finite negative digits exponent =>
    .number (some (some ((if negative then -1 else 1) * (digits : ℚ) * (10 : ℚ) ^ exponent)))

def PyValue.sortKey : PyValue → SortKey
  | .bool value => .number (some (some (if value then 1 else 0)))
  | .int value => .number (some (some value))
  | .float value => value.val.sortKey
  | .text points => .text points
  | _ => .lone

def SortKey.comparable : SortKey → SortKey → Bool
  | .text _, .text _ => true
  | .text _, _ => false
  | _, .text _ => false
  | .lone, _ => false
  | _, .lone => false
  | _, _ => true

/-- Where `sort_keys` keeps two items in order. Beside keys that are not a number the order depends
on the sorting algorithm. -/
def SortKey.le : SortKey → SortKey → Bool
  | .number first, .number second => decide (first ≤ second)
  | .text first, .text second => decide (first ≤ second)
  | _, _ => true

/-! ## Serialisation -/

def checkInt (value : ℤ) : Except PyError ℤ :=
  if (Nat.toDigits 10 value.natAbs).length ≤ intMaxStrDigits then .ok value else .error .valueError

def checkFloat (allowNan : Bool) (value : PyFloat) : Except PyError PyFloat :=
  if value.allowed allowNan then .ok value else .error .valueError

/-- Only strings, numbers, booleans and `None` become keys of a JSON object. -/
def keyText (allowNan : Bool) : PyValue → Except PyError PyStr
  | .text points => .ok points
  | .bool value => .ok (.ofString (if value then "true" else "false"))
  | .none => .ok (.ofString "null")
  | .int value => do return .ofChars (renderInt (← checkInt value))
  | .float value => do return .ofChars (renderFloat (← checkFloat allowNan value).val)
  | _ => .error .typeError

/-- The members of an object, given what becomes of each value. Sorting the items raises as soon as
two keys cannot be compared; otherwise the first failing member in key order raises. -/
def toJsonMembers (allowNan : Bool) (members : List (PyValue × Except PyError Json)) :
    Except PyError (List (PyStr × Json)) :=
  if members.Pairwise fun first second =>
      first.1.sortKey.comparable second.1.sortKey = true then
    (members.insertionSort fun first second =>
      first.1.sortKey.le second.1.sortKey = true).mapM fun member => do
        let key ← keyText allowNan member.1
        let value ← member.2
        return (key, value)
  else .error .typeError

mutual

/-- What `json.dumps(value, allow_nan=allowNan, sort_keys=True)` writes with `limit` levels of
recursion left. -/
def toJson (allowNan : Bool) : ℕ → PyValue → Except PyError Json
  | _, .none => .ok .null
  | _, .bool value => .ok (.bool value)
  | _, .int value => do return .int (← checkInt value)
  | _, .float value => do return .float (← checkFloat allowNan value)
  | _, .text points => .ok (.text points)
  | 0, .list _ => .error .recursionError
  | limit + 1, .list items => do return .list (← toJsonItems allowNan limit items)
  | 0, .dict _ => .error .recursionError
  | limit + 1, .dict items => do
      return .object (← toJsonMembers allowNan (toJsonValues allowNan limit items))
  | _, .other => .error .typeError

def toJsonItems (allowNan : Bool) : ℕ → List PyValue → Except PyError (List Json)
  | _, [] => .ok []
  | limit, item :: items => do
      let json ← toJson allowNan limit item
      let jsons ← toJsonItems allowNan limit items
      return json :: jsons

def toJsonValues (allowNan : Bool) :
    ℕ → List (PyValue × PyValue) → List (PyValue × Except PyError Json)
  | _, [] => []
  | limit, (key, value) :: items =>
    (key, toJson allowNan limit value) :: toJsonValues allowNan limit items

end

/-- `json.dumps(value, allow_nan=allowNan, sort_keys=True, separators=(",", ":"))`. -/
def dumps (allowNan : Bool) (limit : ℕ) (value : PyValue) : Except PyError String := do
  return String.ofList (← toJson allowNan limit value).render

/-! ## Deserialisation -/

/-- `mapping[key] = value`: a key that is there keeps its place. -/
def setItem {α : Type} : List (PyStr × α) → PyStr → α → List (PyStr × α)
  | [], key, value => [(key, value)]
  | (other, old) :: items, key, value =>
    if other = key then (other, value) :: items else (other, old) :: setItem items key value

/-- The pairs of an object as the items of a dictionary. -/
def collectItems {α : Type} (pairs : List (PyStr × α)) : List (PyStr × α) :=
  pairs.foldl (fun items pair => setItem items pair.1 pair.2) []

mutual

def ofJson : Json → PyValue
  | .null => .none
  | .bool value => .bool value
  | .int value => .int value
  | .float value => .float value
  | .text points => .text points
  | .list items => .list (ofJsonItems items)
  | .object members =>
    .dict ((collectItems (ofJsonMembers members)).map fun item => (.text item.1, item.2))

def ofJsonItems : List Json → List PyValue
  | [] => []
  | item :: items => ofJson item :: ofJsonItems items

def ofJsonMembers : List (PyStr × Json) → List (PyStr × PyValue)
  | [] => []
  | (key, value) :: members => (key, ofJson value) :: ofJsonMembers members

end

def ParseError.toPyError : ParseError → PyError
  | .malformed => .jsonDecodeError
  | .tooManyDigits => .valueError
  | .tooDeep => .recursionError

/-- `json.loads(text)`. -/
def loads (limit : ℕ) (text : String) : Except PyError PyValue :=
  match Json.parse limit text.toList with
  | .ok json => .ok (ofJson json)
  | .error error => .error error.toPyError

end Reperio.Python
