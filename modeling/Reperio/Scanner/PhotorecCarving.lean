import Mathlib.Data.List.Sort
import Reperio.Python.JsonText
import Reperio.Storage.FileSystem

/-!
# PhotoRec commands

`scanner/photorec_carving.py`: the command that carves ranges of a device with
PhotoRec, how it is built and what is checked on it before it is run.
-/

namespace Reperio.Scanner.Photorec

open Python Storage

def photorecVersion : PyStr := .ofString "7.2"
def allowedSignatures : List PyStr := ["jpg", "pdf", "zip"].map PyStr.ofString
def maxRanges : ℕ := 4096
def maxRangeValue : ℕ := 2 ^ 63 - 1
def maxPathChars : ℕ := 4096

/-- What the functions of both modules raise: `PhotoRecCarvingError` and `PhotoRecResumeError` with
their codes and messages, or what they let through. -/
inductive PhotorecError where
  | carving (code message : String)
  | resume (code message : String)
  | osError
  | valueError
  deriving DecidableEq

/-! ## Digits -/

/-- What the interpreter knows about digits. -/
structure Digits where
  -- `char.isdigit()`
  isDigit : CodePoint → Bool
  -- the value of a digit that `int` reads
  value? : CodePoint → Option ℕ
  ascii : ∀ point : CodePoint, 48 ≤ point.val → point.val ≤ 57 →
    isDigit point = true ∧ value? point = some (point.val - 48)

/-- `str(number)`. -/
def decimal (number : ℕ) : PyStr := .ofChars (Nat.toDigits 10 number)

/-- `text.partition(mark)`, without the mark; nothing when it is not there. -/
def partition (mark : Char) (text : PyStr) : Option (PyStr × PyStr) :=
  match text.dropWhile fun point => point ≠ .ofChar mark with
  | [] => none
  | _ :: rest => some (text.takeWhile fun point => point ≠ .ofChar mark, rest)

/-! ## Ranges and commands -/

/-- A range of the source that is carved. -/
structure CarveRange where
  offsetBytes : ℕ
  lengthBytes : ℕ
  positive : 0 < lengthBytes
  bounded : offsetBytes + lengthBytes ≤ maxRangeValue
  deriving DecidableEq

/-- `CarveRange(offset, length)`, which validates the values. -/
def carveRange (offset length : ℕ) : Except PhotorecError CarveRange :=
  if valid : 0 < length ∧ offset + length ≤ maxRangeValue then
    .ok { offsetBytes := offset, lengthBytes := length, positive := valid.1, bounded := valid.2 }
  else .error (.carving "invalid_range" "carve ranges must be bounded positive integers")

/-! ## Paths -/

def devPath : PurePath := .ofText (.ofString "/dev")

def rootPath : PurePath := .ofText (.ofString "/")

/-- The characters of a text are none of `"\x00\n\r"`. -/
def isPlainText (text : PyStr) : Bool := text.all fun point => decide (point.val ∉ [0, 10, 13])

/-- A path that is too long, has forbidden characters or leads through `..`. -/
def isUnsafe (path : PurePath) : Bool :=
  decide (maxPathChars < path.text.length) || !isPlainText path.text ||
    path.allParts.any fun part => decide (part ∈ [PyStr.ofString ".", PyStr.ofString ".."])

/-- `path.is_symlink()`. -/
def isSymlink (fileSystem : FileSystem) (path : PurePath) : Except PhotorecError Bool :=
  match fileSystem.node path with
  | .ok (some .symlink) => .ok true
  | .ok _ => .ok false
  | .error () => .error .osError

/-- What stands at a path that is no link, as `path.exists()` and `path.stat()` see it. -/
def nodeAt (fileSystem : FileSystem) (path : PurePath) : Except PhotorecError (Option Node) :=
  match fileSystem.node path with
  | .ok node => .ok node
  | .error () => .error .osError

/-- The path is the root, the directory of devices or something in it. -/
def isUnderDev (path : PurePath) : Bool :=
  decide (path = rootPath) || decide (path = devPath) || decide (devPath ∈ path.parents)

/-! ## Signatures and options -/

/-- `signature.lower()`, as far as that can be an allowed signature: no character beside those of
ASCII becomes one of their letters. -/
def lowered (signature : PyStr) : PyStr := signature.map fun point =>
    if 65 ≤ point.val ∧ point.val ≤ 90 then Fin.ofNat 0x110000 (point.val + 32) else point

/-- The check on one signature, and its normal form. -/
def normalizeSignature (signature : PyStr) : Option PyStr :=
  if signature.isEmpty || decide (32 < signature.length) ||
      (signature.any fun point => decide (point.val ∈ [0, 10, 13, 44, 32])) ||
      decide (lowered signature ∉ allowedSignatures) then
    none
  else some (lowered signature)

/-- `tuple(sorted(set(normalized)))`. -/
def sortedSet (texts : List PyStr) : List PyStr :=
  texts.dedup.insertionSort fun first second => first ≤ second

end Reperio.Scanner.Photorec
