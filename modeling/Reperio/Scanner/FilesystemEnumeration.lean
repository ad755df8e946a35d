import Reperio.Scanner.ToolText

/-!
# Entries of a file system

`scanner/filesystem_enumeration.py`, for what `fls` prints: how its lines are read and
which entries are made of them. The identity of an entry is that of its volume and its
metadata address, so entries are told apart exactly as far as their addresses are
(`entryIds_nodup_iff`).
-/

namespace Reperio.Scanner.SleuthKit

open Python Photorec

/-- `MAX_BATCH_SIZE`. -/
def maxBatchSize : ℕ := 4096

/-- An entry that `fls` lists. -/
structure FilesystemEntry where
  volumeId : PyStr
  objectId : PyStr
  parentObjectId : Option PyStr
  entryId : PyStr
  name : PyStr
  entryType : PyStr
  allocated : Bool
  path : PyStr
  deriving DecidableEq

/-! ## Lines -/

/-- The groups of `FLS_LINE`. -/
structure FlsMatch where
  kind : CodePoint
  alloc : CodePoint
  objectId : PyStr
  name : PyStr
  deriving DecidableEq

def isAddressChar (point : CodePoint) : Bool := isDecimal point || decide (point = .ofChar '-')

/-- `\d+(?:-\d+)*`. -/
def isAddress (text : PyStr) : Bool :=
  (text.splitOn (.ofChar '-')).all fun number => decide (number ≠ []) && number.all isDecimal

/-- `FLS_LINE.match(line)` of a text without newlines. Neither an address nor the blanks around
it can be taken shorter, since what follows them is none of their characters. -/
def flsLine? : PyStr → Option FlsMatch
  | kind :: divider :: alloc :: blank :: rest =>
    if Hostd.isOneOf "drlv-" kind && decide (divider = .ofChar '/') && Hostd.isOneOf "*-" alloc &&
        blank.isSpace then
      let addressed := rest.dropWhile CodePoint.isSpace
      let objectId := addressed.takeWhile isAddressChar
      match (addressed.dropWhile isAddressChar).dropWhile CodePoint.isSpace with
      | colon :: name =>
        if isAddress objectId && decide (colon = .ofChar ':') then
          some { kind, alloc, objectId, name := name.dropWhile CodePoint.isSpace }
        else none
      | [] => none
    else none
  | _ => none

/-- `_bounded_lines`. -/
def boundedLines (value : PyStr) (limit : ℕ) : List PyStr :=
  ((splitLines value).filter fun line => line.strip ≠ []).take limit

/-! ## Entries -/

def notSlash (point : CodePoint) : Bool := decide (point ≠ slash)

/-- `path.rsplit("/", 1)[0]`, of a path with a slash. -/
def parentPath (path : PyStr) : PyStr := (path.reverse.dropWhile notSlash).tail.reverse

/-- `path.rsplit("/", 1)[-1]`. -/
def lastName (path : PyStr) : PyStr := (path.reverse.takeWhile notSlash).reverse

/-- `_normalize_path`. -/
def normalizePath (value : PyStr) : PyStr :=
  let path := stripWhile (fun point => decide (point = slash))
    (PyStr.strip (value.map fun point => if point = .ofChar '\\' then slash else point))
  if path = [] then .ofString "." else path

/-- `_parent_id`. -/
def parentId (path : PyStr) (entries : List FilesystemEntry) : Option PyStr := if slash ∈ path then
    (entries.reverse.find? fun entry => entry.path = parentPath path).map (·.objectId)
  else none

/-- `_entry_type`. -/
def entryType (kind : CodePoint) : PyStr :=
  .ofString (if kind = .ofChar 'd' then "directory" else if kind = .ofChar 'r' then "file"
    else if kind = .ofChar 'l' then "symlink" else if kind = .ofChar 'v' then "virtual"
    else "unknown")

def entryIdOf (volumeId objectId : PyStr) : PyStr :=
  .ofString "entry-" ++ volumeId ++ .ofString "-" ++ objectId

def entryOf (volumeId : PyStr) (entries : List FilesystemEntry) (line : FlsMatch) :
    FilesystemEntry where
  volumeId := volumeId
  objectId := line.objectId
  parentObjectId := parentId (normalizePath line.name) entries
  entryId := entryIdOf volumeId line.objectId
  name := lastName (normalizePath line.name)
  entryType := entryType line.kind
  allocated := decide (line.alloc = .ofChar '-')
  path := normalizePath line.name

def unparsedLine : PyStr := .ofString "fls_unparsed_line"

def batchTruncated : PyStr := .ofString "fls_batch_truncated"

/-- The loop over the lines, with the entries found before them. -/
def parseLines (volumeId : PyStr) :
    List FilesystemEntry → List PyStr → List FilesystemEntry × List PyStr
  | entries, [] => (entries, [])
  | entries, line :: lines =>
    match flsLine? line.strip with
    | none =>
      let (entries, warnings) := parseLines volumeId entries lines
      (entries, unparsedLine :: warnings)
    | some found => parseLines volumeId (entries ++ [entryOf volumeId entries found]) lines

/-- The warnings after those of the loop. -/
def flsWarnings (stdout stderr : PyStr) (returncode : ℤ) (limit : ℕ) : List PyStr :=
  (if limit < (splitLines stdout).length then [batchTruncated] else []) ++
    (if returncode ≠ 0 then [.ofString "fls_exit:" ++ .ofChars (renderInt returncode)] else []) ++
    if sanitizeText stderr ≠ [] then [.ofString "fls_stderr:" ++ sanitizeText stderr] else []

def parseFlsOutput (stdout stderr : PyStr) (returncode : ℤ) (volumeId : PyStr)
    (batchSize : PyValue) : Except ToolError (List FilesystemEntry × List PyStr) :=
  match positiveInt? batchSize (some maxBatchSize) with
  | none => .error (.refused "invalid_batch_size" "batch size must be positive")
  | some limit =>
    if maxToolOutputChars < stdout.length ∨ maxToolOutputChars < stderr.length then
      .error (.refused "filesystem_output_too_large" "filesystem tool output is too large")
    else
      let (entries, warnings) := parseLines volumeId [] (boundedLines stdout limit)
      .ok (entries, (warnings ++ flsWarnings stdout stderr returncode limit).eraseDups)

/-! ## Identities -/

/-- What is read of the lines, the lines that are not read left out. -/
def readings (lines : List PyStr) : List FlsMatch := lines.filterMap fun line => flsLine? line.strip

/-- The metadata addresses that a listing names on the lines that are read, in its order. -/
def namedAddresses (stdout : PyStr) (limit : ℕ) : List PyStr :=
  (readings (boundedLines stdout limit)).map (·.objectId)

theorem entryIdOf_injective (volumeId : PyStr) : Function.Injective (entryIdOf volumeId) :=
  fun _ _ same => List.append_cancel_left same

/-- What the loop adds to the entries, as far as it does not depend on them, comes line by line. -/
theorem map_parseLines {α : Type} (view : FilesystemEntry → α) (reading : FlsMatch → α)
    (volumeId : PyStr)
    (agrees : ∀ entries found, view (entryOf volumeId entries found) = reading found)
    (entries : List FilesystemEntry) (lines : List PyStr) :
    (parseLines volumeId entries lines).1.map view =
      entries.map view ++ (readings lines).map reading := by
  induction lines generalizing entries with
  | nil => simp [parseLines, readings]
  | cons line lines ih =>
    rw [parseLines]
    cases found : flsLine? line.strip with
    | none => simpa [readings, List.filterMap_cons, found] using ih entries
    | some groups =>
      have added := ih (entries ++ [entryOf volumeId entries groups])
      simpa [readings, List.filterMap_cons, found, agrees] using added

theorem exists_limit_of_parseFlsOutput {stdout stderr : PyStr} {returncode : ℤ} {volumeId : PyStr}
    {batchSize : PyValue} {result : List FilesystemEntry × List PyStr}
    (accepted : parseFlsOutput stdout stderr returncode volumeId batchSize = .ok result) :
    ∃ limit, positiveInt? batchSize (some maxBatchSize) = some limit ∧
      (stdout.length ≤ maxToolOutputChars ∧ stderr.length ≤ maxToolOutputChars) ∧
      result.1 = (parseLines volumeId [] (boundedLines stdout limit)).1 ∧
      result.2 = ((parseLines volumeId [] (boundedLines stdout limit)).2 ++
        flsWarnings stdout stderr returncode limit).eraseDups := by
  rw [parseFlsOutput] at accepted
  cases isLimit : positiveInt? batchSize (some maxBatchSize) with
  | none =>
    rw [isLimit] at accepted
    cases accepted
  | some limit =>
    rw [isLimit] at accepted
    simp only at accepted
    split at accepted
    · cases accepted
    · rename_i bounded
      rw [not_or, Nat.not_lt, Nat.not_lt] at bounded
      cases accepted
      exact ⟨limit, rfl, bounded, rfl, rfl⟩

/-- The identities of the entries of a listing are distinct if and only if no metadata address is
named twice on its lines. -/
theorem entryIds_nodup_iff (stdout stderr : PyStr) (returncode : ℤ) (volumeId : PyStr)
    (batchSize : PyValue) (entries : List FilesystemEntry) (warnings : List PyStr)
    (accepted : parseFlsOutput stdout stderr returncode volumeId batchSize =
      .ok (entries, warnings)) :
    ∃ limit, positiveInt? batchSize (some maxBatchSize) = some limit ∧
      ((entries.map (·.entryId)).Nodup ↔ (namedAddresses stdout limit).Nodup) := by
  rcases exists_limit_of_parseFlsOutput accepted with ⟨limit, isLimit, _, isEntries, _⟩
  refine ⟨limit, isLimit, ?_⟩
  change entries = _ at isEntries
  have ids : entries.map (·.entryId) = (namedAddresses stdout limit).map (entryIdOf volumeId) := by
    rw [isEntries, map_parseLines (·.entryId) (fun found => entryIdOf volumeId found.objectId)
      volumeId (fun _ _ => rfl), List.map_nil, List.nil_append, namedAddresses, List.map_map]
    rfl
  rw [ids]
  exact List.nodup_map_iff (entryIdOf_injective volumeId)

/-- A file with two names. -/
def linkedListing : PyStr := .ofString "r/- 5: a\nr/- 5: b"

def linkedEntries : List FilesystemEntry × List PyStr :=
  ((parseFlsOutput linkedListing [] 0 [] (.int 2)).toOption).getD ([], [])

theorem parseFlsOutput_linkedListing :
    parseFlsOutput linkedListing [] 0 [] (.int 2) = .ok linkedEntries :=
  eq_ok_of_toOption (by decide)

theorem entryIds_nodup_iff_linked :
    ∃ limit, positiveInt? (.int 2) (some maxBatchSize) = some limit ∧
      ((linkedEntries.1.map (·.entryId)).Nodup ↔ (namedAddresses linkedListing limit).Nodup) :=
  entryIds_nodup_iff linkedListing [] 0 [] (.int 2) linkedEntries.1 linkedEntries.2
    parseFlsOutput_linkedListing

theorem linked_share_identity :
    ¬∀ (stdout stderr : PyStr) (returncode : ℤ) (volumeId : PyStr) (batchSize : PyValue)
      (entries : List FilesystemEntry) (warnings : List PyStr),
      parseFlsOutput stdout stderr returncode volumeId batchSize = .ok (entries, warnings) →
        (entries.map (·.entryId)).Nodup := by
  intro distinct
  have repeats : ¬(linkedEntries.1.map (·.entryId)).Nodup := by decide
  exact repeats (distinct _ _ _ _ _ _ _ parseFlsOutput_linkedListing)

end Reperio.Scanner.SleuthKit
