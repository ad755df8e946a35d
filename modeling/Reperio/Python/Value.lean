import Mathlib.Data.List.Sort
import Reperio.Python.Float

/-!
# Python values

The dynamically typed values that callers hand to the modelled modules, and
the exceptions these raise.

A Python string is a sequence of code points, lone surrogates included; only
some of them are texts that can be encoded. Values are finite trees: circular
references cannot be built.
-/

namespace Reperio.Python

/-- The exceptions the modelled code raises or lets through. Texts are those of the source;
exceptions of the interpreter and of SQLite carry none. -/
inductive PyError where
  | jobStateError (message : String)
  | eventOutboxError (message : String)
  | checkpointError (message : String) (restartStage : Bool)
  | mediaCheckpointError (message : String) (offersNewCase : Bool)
  | integrityError
  | operationalError
  | overflowError
  | valueError
  | jsonDecodeError
  | typeError
  | attributeError
  | recursionError
  | runtimeError (message : String)
  | identityCollisionError (message : List (Fin 0x110000))
  deriving DecidableEq, Repr

variable {ε α : Type}

theorem eq_ok_of_toOption {result : Except ε α} {value : α}
    (isSome : result.toOption = some value) : result = .ok value := by
  cases result with
  | error error => cases isSome
  | ok other => exact congrArg _ (Option.some.inj isSome)

theorem bind_eq_ok {β : Type} {value : Except ε α} {next : α → Except ε β} {result : β}
    (returned : (value >>= next) = .ok result) :
    ∃ inner, value = .ok inner ∧ next inner = .ok result := by
  cases value with
  | error error => cases returned
  | ok inner => exact ⟨inner, rfl, returned⟩

theorem mapError_eq_ok {ε' : Type} {value : Except ε α} {convert : ε → ε'} {result : α} :
    value.mapError convert = .ok result ↔ value = .ok result := by
  cases value <;> simp [Except.mapError]

theorem mapError_eq_error {ε' : Type} {value : Except ε α} {convert : ε → ε'} {error : ε'}
    (mapped : value.mapError convert = .error error) :
    ∃ original, value = .error original ∧ convert original = error := by
  cases value with
  | ok result => cases mapped
  | error original => exact ⟨original, rfl, Except.error.inj mapped⟩

theorem bind_eq_error {β : Type} {value : Except ε α} {next : α → Except ε β} {error : ε}
    (raised : (value >>= next) = .error error) :
    value = .error error ∨ ∃ inner, value = .ok inner ∧ next inner = .error error := by
  cases value with
  | error other => exact Or.inl (congrArg _ (Except.error.inj raised))
  | ok inner => exact Or.inr ⟨inner, rfl, raised⟩

/-! ## Strings -/

abbrev CodePoint := Fin 0x110000

abbrev PyStr := List CodePoint

instance CodePoint.neZero : NeZero (0x110000 : ℕ) := ⟨by decide⟩

instance : LawfulBEq CodePoint := inferInstance

instance : LawfulBEq PyStr := inferInstance

def CodePoint.ofChar (char : Char) : CodePoint := Fin.ofNat 0x110000 char.toNat

def PyStr.ofChars (chars : List Char) : PyStr := chars.map CodePoint.ofChar

def PyStr.ofString (text : String) : PyStr := .ofChars text.toList

/-- The text of a string that can be encoded: none when it holds a surrogate. -/
def PyStr.toString? (points : PyStr) : Option String :=
  if points.all fun point => decide (point.val < 0xD800 ∨ 0xE000 ≤ point.val) then
    some (String.ofList (points.map fun point => Char.ofNat point.val))
  else none

/-! ## Values -/

/-- `json.dumps` writes the special values only under `allow_nan`. -/
def PyFloat.allowed (allowNan : Bool) (value : PyFloat) : Bool := match value.val with
  | .finite .. => true
  | _ => allowNan

/-- The values of the interpreter: those that JSON can spell, and any other. -/
inductive PyValue where
  | none
  | bool (value : Bool)
  | int (value : ℤ)
  | float (value : PyFloat)
  | text (points : PyStr)
  | list (items : List PyValue)
  | dict (items : List (PyValue × PyValue))
  -- any object that `json` cannot serialise
  | other

def PyValue.str (text : String) : PyValue := .text (.ofString text)

/-- The items of a `dict` in insertion order. -/
abbrev PyDict := List (PyValue × PyValue)

namespace PyDict

/-- `mapping.get(name)` for a string key; `none` when the key is absent. -/
def get? : PyDict → String → Option PyValue
  | [], _ => .none
  | (.text key, value) :: rest, name => if key = .ofString name then some value else get? rest name
  | _ :: rest, name => get? rest name

/-- `mapping.get(name)` with Python's default `None`. -/
def get (items : PyDict) (name : String) : PyValue := (items.get? name).getD .none

/-- `mapping.setdefault(name, value)` on a fresh copy. -/
def setdefault (items : PyDict) (name : String) (value : PyValue) : PyDict :=
  match items.get? name with
  | some _ => items
  | .none => items ++ [(.str name, value)]

/-- `mapping[name] = value` for a string key. -/
def set : PyDict → String → PyValue → PyDict
  | [], name, value => [(.str name, value)]
  | (.text key, old) :: rest, name, value =>
    if key = .ofString name then (.text key, value) :: rest
    else (.text key, old) :: set rest name value
  | item :: rest, name, value => item :: set rest name value

end PyDict

end Reperio.Python
