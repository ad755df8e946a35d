import Reperio.Encoding.Regex
import Reperio.Python.Operators

/-!
# Patterns of characters

The classes and the keywords that the patterns of the source are made of, with case
ignored where they say so, and the patterns of secrets that several modules look for.
-/

namespace Reperio.Python

open Encoding

def isChar (char : Char) (point : CodePoint) : Bool := point = .ofChar char

/-- The small letter that a letter is when case is ignored: four letters beyond ASCII count as one.
-/
def foldCase (point : CodePoint) : CodePoint :=
  if 0x41 ≤ point.val ∧ point.val ≤ 0x5A then point + 32
  else if point = 0x130 ∨ point = 0x131 then .ofChar 'i'
  else if point = 0x17F then .ofChar 's'
  else if point = 0x212A then .ofChar 'k'
  else point

def isSmallLetter (point : CodePoint) : Bool :=
  decide (0x61 ≤ point.val) && decide (point.val ≤ 0x7A)

def isDigit (point : CodePoint) : Bool := decide (0x30 ≤ point.val) && decide (point.val ≤ 0x39)

def isNotSpace (point : CodePoint) : Bool := !point.isSpace

/-- `[=:]`. -/
def isSeparator (point : CodePoint) : Bool := isChar '=' point || isChar ':' point

/-- `[_-]`. -/
def isJoiner (point : CodePoint) : Bool := isChar '_' point || isChar '-' point

/-- A text as it stands. -/
def literal (text : String) : Regex CodePoint :=
  .all (text.toList.map fun char => .one (isChar char))

/-- A text when case is ignored. -/
def word (text : String) : Regex CodePoint :=
  .all (text.toList.map fun char => .one (isChar char ∘ foldCase))

def spaces : Regex CodePoint := .many CodePoint.isSpace 0

/-- A keyword, a separator and a value of at least so many characters. -/
def assignment (keyword : Regex CodePoint) (least : ℕ) : Regex CodePoint :=
  .all [keyword, spaces, .one isSeparator, spaces, .many isNotSpace least]

def privateKey : Regex CodePoint := .all [literal "-----BEGIN ",
    .optional (.alt (literal "RSA ") (.alt (literal "EC ") (literal "OPENSSH "))),
    literal "PRIVATE KEY-----"]

def apiKey : Regex CodePoint :=
  assignment (.all [word "api", .optional (.one isJoiner), word "key"]) 8

def bearer : Regex CodePoint := .all [word "bearer", .many CodePoint.isSpace 1,
    .many (fun point => isSmallLetter (foldCase point) || isDigit point ||
      decide (point ∈ PyStr.ofString "._~+/-")) 16]

end Reperio.Python
