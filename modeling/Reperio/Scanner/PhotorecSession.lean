import Reperio.Python.Operators
import Reperio.Python.Utf8
import Reperio.Scanner.PhotorecCarving

/-!
# PhotoRec sessions

`scanner/photorec_resume.py`: the file in which PhotoRec keeps a session, the
binding of a session to a source and a command, and the command that resumes it.
Bindings and backups are validated when they are made, so they carry what that says.
-/

namespace Reperio.Scanner.Photorec

open Python Storage

def sessionMaxBytes : ℕ := 40960
def maxBindingText : ℕ := 128
def maxProgressValue : ℕ := maxRangeValue

/-- What the interpreter knows: about digits, and how `hashlib` hashes. -/
structure Interpreter extends Digits where
  sha256Hex : List UInt8 → PyStr
  isHex : ∀ bytes, (sha256Hex bytes).length = 64 ∧
    ∀ point ∈ sha256Hex bytes, point ∈ PyStr.ofString "0123456789abcdef"

/-- `SHA256_RE`. -/
def isSha256 (text : PyStr) : Bool :=
  decide (text.length = 64) && text.all fun point =>
    decide (point ∈ PyStr.ofString "0123456789abcdef")

theorem isSha256_sha256Hex (interpreter : Interpreter) (bytes : List UInt8) :
    isSha256 (interpreter.sha256Hex bytes) = true := by
  rcases interpreter.isHex bytes with ⟨length, isHex⟩
  rw [isSha256, Bool.and_eq_true, decide_eq_true_iff, List.all_eq_true]
  exact ⟨length, fun point isPoint => decide_eq_true (isHex point isPoint)⟩

/-! ## Session files -/

/-- A carriage return before a line feed is no break of its own. -/
def joinBreaks : PyStr → PyStr
  | [] => []
  | point :: rest =>
    if point.val = 13 ∧ rest.head?.any (fun next => next.val = 10) = true then joinBreaks rest
    else point :: joinBreaks rest

def isLineBreak (point : CodePoint) : Bool :=
  decide (point.val ∈ [10, 11, 12, 13, 28, 29, 30, 133, 8232, 8233])

def splitAtBreaks : PyStr → List PyStr
  | [] => []
  | point :: rest =>
    if isLineBreak point then [] :: splitAtBreaks rest
    else
      match splitAtBreaks rest with
      | [] => [[point]]
      | line :: lines => (point :: line) :: lines

/-- `text.splitlines()`. -/
def splitLines (text : PyStr) : List PyStr := splitAtBreaks (joinBreaks text)

/-- `data.rstrip(b"\x00")`. -/
def stripNul (data : List UInt8) : List UInt8 :=
  (data.reverse.dropWhile fun byte => byte = 0).reverse

def isAsciiDigit (point : CodePoint) : Bool := decide (48 ≤ point.val) && decide (point.val ≤ 57)

/-- `int(digits)` of a text that `[0-9]+` matches. -/
def numberOf (digits : PyStr) : ℕ :=
  digits.foldl (fun number point => 10 * number + (point.val - 48)) 0

/-- `SESSION_TIMESTAMP_RE`. -/
def isTimestamp : PyStr → Bool
  | [] => false
  | point :: digits =>
    decide (point = .ofChar '#') && decide (1 ≤ digits.length) && decide (digits.length ≤ 20) &&
      digits.all isAsciiDigit

/-- `SESSION_RANGE_RE`, with the start and the end of the range. -/
def sessionRange? (line : PyStr) : Option (ℕ × ℕ) := do
  let (start, stop) ← partition '-' line
  if start.isEmpty || stop.isEmpty || !start.all isAsciiDigit || !stop.all isAsciiDigit then none
  else return (numberOf start, numberOf stop)

/-- `line.split(" ", 1)[0]`. -/
def firstWord (line : PyStr) : PyStr := line.takeWhile fun point => point ≠ .ofChar ' '

def corrupt (message : String) : PhotorecError := .resume "corrupt_session" message

def validateSessionRanges : List PyStr → Except PhotorecError Unit
  | [] => .ok ()
  | line :: lines => do
      match sessionRange? line with
      | none => throw (corrupt "PhotoRec session range is malformed")
      | some (start, stop) =>
        if stop < start ∨ maxRangeValue < stop then
          throw (corrupt "PhotoRec session range is invalid")
        else validateSessionRanges lines

/-- The text of a session without the padding at its end. -/
def sessionText (data : List UInt8) : Except PhotorecError PyStr :=
  if data.isEmpty || decide (sessionMaxBytes < data.length) then
    .error (corrupt "PhotoRec session size is invalid")
  else if (stripNul data).isEmpty || decide (0 ∈ stripNul data) then
    .error (corrupt "PhotoRec session contains invalid bytes")
  else
    match utf8Decode (stripNul data) with
    | none => .error (corrupt "PhotoRec session is not valid text")
    | some text => .ok (.ofString text)

/-- The checks on the text, with the line that names the source. -/
def validateSessionText (text : PyStr) : Except PhotorecError PyStr := do
  match splitLines text with
  | timestamp :: source :: command :: ranges =>
    if !isTimestamp timestamp then throw (corrupt "PhotoRec session header is invalid")
    else if decide (.ofChar ' ' ∉ source) || (firstWord source).isEmpty then
      throw (corrupt "PhotoRec session source is missing")
    else if command.strip.isEmpty then throw (corrupt "PhotoRec session command is missing")
    else if text.any fun point => decide (point.val < 32) && decide (point.val ∉ [9, 10, 13]) then
      throw (corrupt "PhotoRec session contains control characters")
    else if (splitLines text).any fun line => decide (maxPathChars < line.length) then
      throw (corrupt "PhotoRec session line is too long")
    else
      validateSessionRanges ranges
      if ranges.isEmpty then throw (corrupt "PhotoRec session has no resumable ranges")
      else return source
  | _ => throw (corrupt "PhotoRec session header is invalid")

/-- `_session_source`, which validates the data as `_validate_session_data` does. -/
def sessionSource (data : List UInt8) : Except PhotorecError PyStr := do
  return firstWord (← validateSessionText (← sessionText data))

def validateSessionData (data : List UInt8) : Except PhotorecError Unit := do
  let _ ← validateSessionText (← sessionText data)

/-! ## Bindings -/

def isToolVersion (value : PyStr) : Bool :=
  !value.isEmpty && decide (value.length ≤ maxBindingText) &&
    value.all fun point => decide (32 ≤ point.val) && decide (point.val ≠ 127)

/-- `_normalize_signatures` of the resume module accepts normal forms only. -/
def areCanonical (signatures : List PyStr) : Bool :=
  !signatures.isEmpty &&
    decide ((signatures.mapM normalizeSignature).map sortedSet = some signatures)

/-- `SessionBinding`, of which `_validate_binding_shape` is true. -/
structure SessionBinding where
  sourceFingerprint : PyStr
  toolVersion : PyStr
  signatures : List PyStr
  ranges : List CarveRange
  commandHash : PyStr
  isFingerprint : isSha256 sourceFingerprint = true
  isVersion : isToolVersion toolVersion = true
  canonical : areCanonical signatures = true
  someRanges : ranges ≠ [] ∧ ranges.length ≤ maxRanges
  isHash : isSha256 commandHash = true
  deriving DecidableEq

def invalidBinding (message : String) : PhotorecError := .resume "invalid_binding" message

/-- `SessionBinding(…)`. -/
def sessionBinding (sourceFingerprint toolVersion : PyStr) (signatures : List PyStr)
    (ranges : List CarveRange) (commandHash : PyStr) : Except PhotorecError SessionBinding :=
  if isFingerprint : isSha256 sourceFingerprint = true then
    if isVersion : isToolVersion toolVersion = true then
      if canonical : areCanonical signatures = true then
        if someRanges : ranges ≠ [] ∧ ranges.length ≤ maxRanges then
          if isHash : isSha256 commandHash = true then
            .ok {
              sourceFingerprint, toolVersion, signatures, ranges, commandHash
              isFingerprint, isVersion, canonical, someRanges, isHash }
          else .error (invalidBinding "PhotoRec command hash is invalid")
        else .error (invalidBinding "PhotoRec ranges are malformed")
      else .error (invalidBinding "PhotoRec signatures are not canonical")
    else .error (invalidBinding "PhotoRec tool version is invalid")
  else .error (invalidBinding "PhotoRec source fingerprint is invalid")

/-! ## Backups -/

/-- What `_normalize_progress` accepts: counters that are there or not. -/
structure Progress where
  recoveredCount : Option (Fin (maxProgressValue + 1))
  lastSector : Option (Fin (maxProgressValue + 1))
  deriving DecidableEq

/-- `SESSION_BACKUP_RE`: the digest in the name of a backup. -/
def backupDigest? (name : PyStr) : Option PyStr := let digest := (name.drop 9).take 64
  if name = .ofString "photorec-" ++ digest ++ .ofString ".ses" ∧
    isSha256 digest = true then some digest
  else none

/-- `_validate_backup_path`. -/
def isBackupPath (path : PurePath) : Bool :=
  path.isAbsolute && !isUnsafe path && (backupDigest? path.name).isSome

/-- `SessionBackup`, validated when it is made. -/
structure SessionBackup where
  sessionSha256 : PyStr
  backupPath : PurePath
  binding : SessionBinding
  progress : Progress
  completed : Bool := false
  isDigest : isSha256 sessionSha256 = true
  isPath : isBackupPath backupPath = true
  deriving DecidableEq

/-- `_read_bounded_file` of a path, with the access that it needs. -/
def readBoundedFile (fileSystem : FileSystem) (path : PurePath) (maximum : ℕ) (code : String)
    (isPrivate : Bool) : Except PhotorecError (List UInt8) :=
  match fileSystem.node path with
  | .ok (some (.file mode links content)) =>
    if links ≠ 1 then
      .error (.resume code "PhotoRec state file is not a private regular file")
    else if isPrivate && decide (mode &&& 0o077 ≠ 0) then
      .error (.resume code "PhotoRec state file permissions are too broad")
    else if maximum < content.length then
      .error (.resume code "PhotoRec state file exceeds the bounded limit")
    else .ok content
  | .ok none => .error (.resume code "PhotoRec state file cannot be read safely")
  | .ok (some .symlink) => .error (.resume code "PhotoRec state file cannot be read safely")
  | .ok (some _) => .error (.resume code "PhotoRec state file is not a private regular file")
  | .error () => .error (.resume code "PhotoRec state file cannot be read safely")

/-! ## The command that resumes -/

def backupName (digest : PyStr) : PyStr := .ofString "photorec-" ++ digest ++ .ofString ".ses"

end Reperio.Scanner.Photorec
