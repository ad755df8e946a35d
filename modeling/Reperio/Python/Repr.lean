import Reperio.Python.Operators

/-!
# `repr`, `sorted` and `list`

The built-in functions that the identity of a host's devices is computed with.
Which characters `repr` shows as they are, and how it shows an object of
another type, are parameters.
-/

namespace Reperio.Python

/-- What `repr` takes from the interpreter. -/
structure Display where
  isPrintable : CodePoint → Bool
  other : PyStr

/-! ## `repr` -/

def hexEscape (kind : Char) (width value : ℕ) : PyStr :=
  .ofChars ('\\' :: kind :: (List.range width).reverse.map fun place =>
    hexDigit (value / 16 ^ place % 16))

def reprPoint (display : Display) (quoteMark point : CodePoint) : PyStr :=
  if point = quoteMark ∨ point = .ofChar '\\' then [.ofChar '\\', point]
  else if point.val = 9 then .ofString "\\t"
  else if point.val = 10 then .ofString "\\n"
  else if point.val = 13 then .ofString "\\r"
  else if point.val < 32 ∨ point.val = 127 then hexEscape 'x' 2 point
  else if point.val < 127 ∨ display.isPrintable point then [point]
  else if point.val < 256 then hexEscape 'x' 2 point
  else if point.val < 65536 then hexEscape 'u' 4 point
  else hexEscape 'U' 8 point

/-- Double quotes only when they save escapes. -/
def reprText (display : Display) (points : PyStr) : PyStr :=
  let quoteMark : CodePoint :=
    if .ofChar '\'' ∈ points ∧ .ofChar '"' ∉ points then .ofChar '"' else .ofChar '\''
  quoteMark :: (points.flatMap (reprPoint display quoteMark) ++ [quoteMark])

def reprFloat : FloatText → List Char
  | .finite negative digits exponent => reprFinite negative digits exponent
  | .nan => ['n', 'a', 'n']
  | .infinity false => ['i', 'n', 'f']
  | .infinity true => ['-', 'i', 'n', 'f']

mutual

/-- `repr(value)`. -/
def reprValue (display : Display) : PyValue → Except PyError PyStr
  | .none => .ok (.ofString "None")
  | .bool value => .ok (.ofString (if value then "True" else "False"))
  | .int value => do return .ofChars (renderInt (← checkInt value))
  | .float value => .ok (.ofChars (reprFloat value.val))
  | .text points => .ok (reprText display points)
  | .list items => do
      return PyStr.ofString "[" ++ (← reprItems display items) ++ PyStr.ofString "]"
  | .dict items => do
      return PyStr.ofString "\x7b" ++ (← reprPairs display items) ++ PyStr.ofString "\x7d"
  | .other => .ok display.other

def reprItems (display : Display) : List PyValue → Except PyError PyStr
  | [] => .ok []
  | [item] => reprValue display item
  | item :: items => do
      let first ← reprValue display item
      return first ++ PyStr.ofString ", " ++ (← reprItems display items)

def reprPairs (display : Display) : List (PyValue × PyValue) → Except PyError PyStr
  | [] => .ok []
  | [(key, value)] => do
      return (← reprValue display key) ++ PyStr.ofString ": " ++ (← reprValue display value)
  | (key, value) :: items => do
      let first ← reprValue display key
      let second ← reprValue display value
      return first ++ PyStr.ofString ": " ++ second ++ PyStr.ofString ", " ++
        (← reprPairs display items)

end

section

variable (display : Display)

/-- `str(value)`. -/
def textOf : PyValue → Except PyError PyStr
  | .text points => .ok points
  | value => reprValue display value

/-- `str(value or "")`. -/
def textOrEmpty (value : PyValue) : Except PyError PyStr :=
  if value.truthy then textOf display value else .ok []

end

/-! ## Order -/

mutual

/-- `first < second`, or nothing where the comparison raises. -/
def PyValue.lt? : PyValue → PyValue → Option Bool
  | .text first, .text second => some (decide (first < second))
  | .list first, .list second => lt?Items first second
  | first, second =>
    match first.sortKey, second.sortKey with
    | .number first, .number second => some (decide (first < second))
    | .number _, .nan => some false
    | .nan, .number _ => some false
    | .nan, .nan => some false
    | _, _ => Option.none

def PyValue.lt?Items : List PyValue → List PyValue → Option Bool
  | [], second => some (!second.isEmpty)
  | _ :: _, [] => some false
  | first :: firsts, second :: seconds =>
    if first.eq second then lt?Items firsts seconds else lt? first second

end

/-- `sorted(items, key=key)`: raises as soon as two keys cannot be compared. Beside keys that are
not a number the order depends on the sorting algorithm. -/
def sortedOn {α β : Type} (lt? : β → β → Option Bool) (key : α → β) (items : List α) :
    Except PyError (List α) :=
  if items.Pairwise fun first second =>
      (lt? (key first) (key second)).isSome = true ∧
        (lt? (key second) (key first)).isSome = true then
    .ok (items.insertionSort fun first second => lt? (key second) (key first) ≠ some true)
  else .error .typeError

/-! ## Iteration -/

/-- `list(value)`. -/
def listOf : PyValue → Except PyError (List PyValue)
  | .list items => .ok items
  | .text points => .ok (points.map fun point => .text [point])
  | .dict items => .ok (items.map Prod.fst)
  | _ => .error .typeError

/-- `list(dict.fromkeys(values))`. -/
def fromKeys (values : List PyValue) : Except PyError (List PyValue) :=
  if values.all PyValue.hashable then
    .ok (values.foldl (fun kept value => if kept.any value.eq then kept else kept ++ [value]) [])
  else .error .typeError

end Reperio.Python
