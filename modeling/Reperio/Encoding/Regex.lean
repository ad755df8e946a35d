import Mathlib.Data.List.Basic
import Mathlib.Data.List.Infix

/-!
# Regular expressions

Patterns of single characters, sequences, alternatives and greedy repetitions of one
class of characters, matched as a backtracking matcher does: all ways to match, the
preferred one first. A text is read from left to right as matches that do not overlap
and the characters between them.
-/

namespace Reperio.Encoding

/-- Patterns over classes of characters. -/
inductive Regex (α : Type) where
  | nothing
  | one (isClass : α → Bool)
  | seq (first second : Regex α)
  | alt (first second : Regex α)
  /-- At least so many characters of a class, and as many as there are. -/
  | many (isClass : α → Bool) (least : ℕ)

namespace Regex

variable {α : Type}

/-- One after the other. -/
def all (patterns : List (Regex α)) : Regex α := patterns.foldr seq nothing

/-- A pattern that may be left out. -/
def optional (pattern : Regex α) : Regex α := alt pattern nothing

/-- Exactly so many characters of a class. -/
def times (isClass : α → Bool) (count : ℕ) : Regex α := all (List.replicate count (one isClass))

/-- How many characters the matches at the beginning of the text have, in order of preference. -/
def lengths : Regex α → List α → List ℕ
  | nothing, _ => [0]
  | one _, [] => []
  | one isClass, char :: _ => if isClass char then [1] else []
  | seq first second, text => (lengths first text).flatMap fun length =>
    (lengths second (text.drop length)).map (length + ·)
  | alt first second, text => lengths first text ++ lengths second text
  | many isClass least, text =>
    ((List.range ((text.takeWhile isClass).length + 1)).reverse).filter (least ≤ ·)

/-- How long the match at the beginning of the text is. -/
def matchLength (pattern : Regex α) (text : List α) : Option ℕ := (pattern.lengths text).head?

end Regex

/-- A part of a text that was searched: a match, or a character that is in none. -/
inductive Piece (α : Type) where
  | found (text : List α)
  | left (char : α)
  deriving DecidableEq, Repr

namespace Regex

variable {α : Type}

/-- The pieces of the text behind the characters that are skipped. -/
def piecesFrom (pattern : Regex α) : ℕ → List α → List (Piece α)
  | _, [] => []
  | skip + 1, _ :: text => piecesFrom pattern skip text
  | 0, char :: text =>
    match pattern.matchLength (char :: text) with
    | some (length + 1) =>
      .found ((char :: text).take (length + 1)) :: piecesFrom pattern length text
    | _ => .left char :: piecesFrom pattern 0 text

/-- The text as `re.finditer` reads it, for a pattern that does not match the empty text. -/
def pieces (pattern : Regex α) (text : List α) : List (Piece α) := pattern.piecesFrom 0 text

/-- `pattern.search(text)`, as a truth value. -/
def occursIn (pattern : Regex α) (text : List α) : Bool :=
  (pattern.pieces text).any fun piece => match piece with
    | .found _ => true
    | .left _ => false

/-- `pattern.sub(replacement, text)`. -/
def sub (pattern : Regex α) (replacement text : List α) : List α :=
  (pattern.pieces text).flatMap fun piece => match piece with
    | .found _ => replacement
    | .left char => [char]

/-- `pattern.sub(replace, text)` for a function of the match. -/
def subM {ε : Type} (pattern : Regex α) (replace : List α → Except ε (List α)) (text : List α) :
    Except ε (List α) := do
  let parts ← (pattern.pieces text).mapM fun piece => match piece with
    | .found text => replace text
    | .left char => pure [char]
  return parts.flatten

end Regex

end Reperio.Encoding
