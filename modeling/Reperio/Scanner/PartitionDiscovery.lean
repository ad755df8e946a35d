import Mathlib.Data.List.Sort
import Mathlib.Data.Prod.Lex
import Reperio.Scanner.ToolText

/-!
# Partitions of a medium

`scanner/partition_discovery.py`, for what `mmls` prints: how its lines are read, the
partition of each slot, and the warnings about the table as a whole.
-/

namespace Reperio.Scanner.SleuthKit

open Python Photorec

/-- `SUPPORTED_TABLES`. -/
def supportedTables : List PyStr :=
  ["DOS Partition Table", "GUID Partition Table"].map PyStr.ofString

/-- `MAX_DESCRIPTION_CHARS`. -/
def maxDescriptionChars : ℕ := 1024

/-- A partition that `mmls` lists. -/
structure PartitionEntry where
  slot : PyStr
  offsetBytes : ℕ
  lengthBytes : ℕ
  startSector : ℕ
  endSector : ℕ
  sectorCount : ℕ
  description : PyStr
  partitionType : Option PyStr
  label : Option PyStr
  allocated : Bool
  warnings : List PyStr
  deriving DecidableEq

/-- What reading the output of `mmls` gives. -/
structure PartitionDiscoveryResult where
  sourceId : PyStr
  tableType : Option PyStr
  sectorSize : ℕ
  partitions : List PartitionEntry
  warnings : List PyStr
  deriving DecidableEq

/-! ## Lines -/

/-- The groups of `MMLS_LINE`. -/
structure MmlsMatch where
  slot : PyStr
  kind : PyStr
  first : PyStr
  last : PyStr
  length : PyStr
  description : PyStr
  deriving DecidableEq

/-- `\s+`, and what follows. -/
def blanks? : PyStr → Option PyStr
  | point :: rest => if point.isSpace then some (rest.dropWhile CodePoint.isSpace) else none
  | [] => none

/-- `(\d+)\s+`, and what follows. -/
def number? (text : PyStr) : Option (PyStr × PyStr) := do
  let digits := text.takeWhile isDecimal
  if digits = [] then none else return (digits, ← blanks? (text.dropWhile isDecimal))

/-- `(\d{3}:)\s+`, and what follows. -/
def slot? : PyStr → Option (PyStr × PyStr)
  | first :: second :: third :: colon :: rest =>
    if isDecimal first && isDecimal second && isDecimal third && decide (colon = .ofChar ':') then
      (blanks? rest).map fun rest => ([first, second, third, colon], rest)
    else none
  | _ => none

/-- `(Meta|-----)\s+`, and what follows. -/
def kind? (text : PyStr) : Option (PyStr × PyStr) :=
  let kind := if text.startsWith "Meta" then .ofString "Meta" else PyStr.ofString "-----"
  if kind.isPrefixOf text then (blanks? (text.drop kind.length)).map fun rest => (kind, rest)
  else none

/-- `(.+?)\s*$`, behind blanks that may leave their last one to it: what they leave has no blank at
its end. -/
def description? (blanks rest : PyStr) : Option PyStr := if rest = [] then
    match blanks.reverse with
    | last :: _ :: _ => some [last]
    | _ => none
  else some (rest.reverse.dropWhile CodePoint.isSpace).reverse

/-- `(\d+)\s+(.+?)\s*$`. -/
def lengthAndDescription? (text : PyStr) : Option (PyStr × PyStr) := do
  let digits := text.takeWhile isDecimal
  let rest := text.dropWhile isDecimal
  if digits = [] then none
  else if (rest.takeWhile CodePoint.isSpace) = [] then none
  else
    return (digits, ← description? (rest.takeWhile CodePoint.isSpace)
      (rest.dropWhile CodePoint.isSpace))

/-- `MMLS_LINE.match(line)` of a text without newlines. No group can be taken shorter but for the
blanks before the description. -/
def mmlsLine? (line : PyStr) : Option MmlsMatch := do
  let (slot, rest) ← slot? (line.dropWhile CodePoint.isSpace)
  let (kind, rest) ← kind? rest
  let (first, rest) ← number? rest
  let (last, rest) ← number? rest
  let (length, description) ← lengthAndDescription? rest
  return { slot, kind, first, last, length, description }

/-! ## Partitions -/

/-- The text before the first mark, or all of it. -/
def beforeMark (mark : Char) (text : PyStr) : PyStr :=
  text.takeWhile fun point => point ≠ .ofChar mark

/-- `text.split(mark, 1)[1]`, of a text with the mark. -/
def behindMark (mark : Char) (text : PyStr) : PyStr :=
  (text.dropWhile fun point => point ≠ .ofChar mark).tail

/-- `text or None`. -/
def textOrNone (text : PyStr) : Option PyStr := if text = [] then none else some text

/-- `_partition_type`. -/
def partitionType (description : PyStr) : Option PyStr :=
  if .ofChar ',' ∈ description then textOrNone (PyStr.strip (beforeMark ',' description))
  else if .ofChar '(' ∈ description then textOrNone (PyStr.strip (beforeMark '(' description))
  else textOrNone description

/-- `_partition_label`. -/
def partitionLabel (description : PyStr) : Option PyStr :=
  if .ofChar '(' ∈ description ∧ .ofChar ')' ∈ description then
    textOrNone (PyStr.strip (beforeMark ')' (behindMark '(' description)))
  else none

/-- The description that a partition keeps. -/
def keptDescription (description : PyStr) : PyStr :=
  (PyStr.strip description).take maxDescriptionChars

/-- `"Primary Table" in description or "Unallocated" in description`. -/
def isUnused (description : PyStr) : Bool :=
  decide (PyStr.ofString "Primary Table" <:+: description) ||
    decide (PyStr.ofString "Unallocated" <:+: description)

/-- `_entry_from_match`. -/
def entryFromMatch (line : MmlsMatch) (sectorSize : ℕ) : Except ToolError PartitionEntry := do
  let startSector ← intOf line.first
  let endSector ← intOf line.last
  let sectorCount ← intOf line.length
  let description := keptDescription line.description
  return {
    slot := line.slot
    offsetBytes := startSector * sectorSize
    lengthBytes := sectorCount * sectorSize
    startSector, endSector, sectorCount, description
    partitionType := partitionType description
    label := partitionLabel description
    allocated := decide (line.kind = .ofString "Meta") &&
      !(decide (endSector < startSector) || decide (sectorCount = 0)) && !isUnused description
    warnings := (if maxDescriptionChars < (PyStr.strip line.description).length then
        [.ofString "description_truncated:" ++ line.slot] else []) ++
      -- the subtraction does not go below zero, as `max` sees to it in the source
      (if sectorCount ≠ endSector + 1 - startSector then
        [.ofString "length_mismatch:" ++ line.slot] else []) ++
      if endSector < startSector ∨ sectorCount = 0 then
        [.ofString "invalid_extent:" ++ line.slot] else [] }

/-! ## The table -/

/-- What is known after some of the lines. -/
structure TableScan where
  warnings : List PyStr := []
  tableType : Option PyStr := none
  partitions : List PartitionEntry := []
  unrecognizedLine : Bool := false

/-- One line of the loop. -/
def scanLine (sectorSize : ℕ) (scan : TableScan) (line : PyStr) : Except ToolError TableScan := do
  if PyStr.strip line = [] then return scan
  else if (PyStr.strip line).startsWith "Partition Table:" then
    let tableType := textOrNone (PyStr.strip (behindMark ':' (PyStr.strip line)))
    let unsupported := (tableType.filter fun table => table ∉ supportedTables).toList.map
      fun table => .ofString "unsupported_table:" ++ table
    return { scan with tableType, warnings := scan.warnings ++ unsupported }
  else
    match mmlsLine? line with
    | none => return { scan with unrecognizedLine := true }
    | some found =>
      let entry ← entryFromMatch found sectorSize
      return { scan with
        partitions := scan.partitions ++ [entry]
        warnings := scan.warnings ++ entry.warnings }

/-- An extent starts before the end of the one before it. -/
def overlapsFrom : Option ℕ → List (ℕ × ℕ) → Bool
  | _, [] => false
  | previousEnd, (start, stop) :: extents =>
    previousEnd.any (fun previous => decide (start ≤ previous)) || overlapsFrom (some stop) extents

/-- `_has_overlap`. -/
def hasOverlap (partitions : List PartitionEntry) : Bool := overlapsFrom none
    (((partitions.filter (·.allocated)).map fun entry =>
      (entry.startSector, entry.endSector)).insertionSort
      fun first second => toLex first ≤ toLex second)

def tableWarnings (scan : TableScan) (stderr : PyStr) (returncode : ℤ) : List PyStr :=
  (if returncode ≠ 0 then [.ofString "mmls_exit:" ++ .ofChars (renderInt returncode)] else []) ++
    (if sanitizeText stderr ≠ [] then [.ofString "mmls_stderr:" ++ sanitizeText stderr] else []) ++
    (if scan.tableType = none then [.ofString "partition_table_missing"] else []) ++
    (if scan.unrecognizedLine then [.ofString "unrecognized_partition_output"] else []) ++
    (if scan.partitions = [] then [.ofString "no_partitions"] else []) ++
    if hasOverlap scan.partitions then [.ofString "overlapping_partitions"] else []

def parseMmlsOutput (stdout stderr : PyStr) (returncode : ℤ) (sourceId : PyStr)
    (sectorSize : PyValue) : Except ToolError PartitionDiscoveryResult := do
  match positiveInt? sectorSize none with
  | none => throw (.refused "invalid_sector_size" "sector size must be positive")
  | some sectorSize =>
    if maxToolOutputChars < stdout.length ∨ maxToolOutputChars < stderr.length then
      throw (.refused "partition_output_too_large" "partition tool output is too large")
    else
      let scan ← (splitLines stdout).foldlM (scanLine sectorSize) {}
      return {
        sourceId, sectorSize
        tableType := scan.tableType
        partitions := scan.partitions
        warnings := (scan.warnings ++ tableWarnings scan stderr returncode).eraseDups }

end Reperio.Scanner.SleuthKit
