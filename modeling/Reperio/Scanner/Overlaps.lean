import Reperio.Encoding.Extents
import Reperio.Scanner.PartitionDiscovery

/-!
# Partitions that overlap

The warning about overlapping partitions. `_has_overlap` sorts the extents of the
allocated partitions and compares neighbours, and no other line of the output can
cause the warning: every other text that depends on the output has a colon in it.
-/

namespace Reperio.Scanner.SleuthKit

open Python Photorec Extents

/-- The closed interval of the sectors of a partition. -/
def PartitionEntry.extent (entry : PartitionEntry) : ℕ × ℕ := (entry.startSector, entry.endSector)

/-- Two allocated partitions with a sector in common. -/
def Overlap (first second : PartitionEntry) : Prop :=
  first.allocated = true ∧ second.allocated = true ∧ Intersect first.extent second.extent

theorem Overlap.symm {first second : PartitionEntry} (overlap : Overlap first second) :
    Overlap second first :=
  ⟨overlap.2.1, overlap.1, overlap.2.2.symm⟩

/-- An allocated partition has a sector. -/
def WellPlaced (entry : PartitionEntry) : Prop := entry.allocated = true → Proper entry.extent

variable {sectorSize : ℕ} {entry : PartitionEntry} {extents : List (ℕ × ℕ)}
    {partitions : List PartitionEntry}

theorem wellPlaced_entryFromMatch {line : MmlsMatch}
    (read : entryFromMatch line sectorSize = .ok entry) : WellPlaced entry := by
  rcases bind_eq_ok read with ⟨start, _, read⟩
  rcases bind_eq_ok read with ⟨stop, _, read⟩
  rcases bind_eq_ok read with ⟨count, _, read⟩
  cases read
  intro allocated
  simp only [Bool.and_eq_true, Bool.not_eq_true', Bool.or_eq_false_iff, decide_eq_false_iff_not,
    not_lt] at allocated
  exact allocated.1.2.1

/-! ## Neighbours -/

theorem overlapsFrom_eq_false (start : ℕ) {stop : ℕ} :
    overlapsFrom (some stop) extents = false ↔ ((start, stop) :: extents).IsChain Before := by
  induction extents generalizing start stop with
  | nil => exact iff_of_true rfl (.singleton _)
  | cons extent rest ih =>
    rcases extent with ⟨next, last⟩
    rw [overlapsFrom, Bool.or_eq_false_iff, Option.any_some, decide_eq_false_iff_not, not_le,
      ih next, List.isChain_cons_cons]
    exact Iff.rfl

theorem overlapsFrom_none_eq_false :
    overlapsFrom none extents = false ↔ extents.IsChain Before := by
  cases extents with
  | nil => exact iff_of_true rfl .nil
  | cons extent rest =>
    rw [overlapsFrom, Option.any_none, Bool.false_or, overlapsFrom_eq_false extent.1]

/-- No two partitions overlap when the sorted extents are a chain. -/
theorem hasOverlap_eq_false (wellPlaced : ∀ entry ∈ partitions, WellPlaced entry) :
    hasOverlap partitions = false ↔
      partitions.Pairwise fun first second => ¬Overlap first second := by
  have perm : (((partitions.filter (·.allocated)).map PartitionEntry.extent).insertionSort
      fun first second => toLex first ≤ toLex second).Perm
      ((partitions.filter (·.allocated)).map PartitionEntry.extent) := List.perm_insertionSort _ _
  have proper : ∀ extent ∈ ((partitions.filter (·.allocated)).map
      PartitionEntry.extent).insertionSort fun first second => toLex first ≤ toLex second,
      Proper extent := by
    intro extent isExtent
    rcases List.mem_map.mp (perm.mem_iff.mp isExtent) with ⟨entry, isEntry, rfl⟩
    rcases List.mem_filter.mp isEntry with ⟨isPartition, allocated⟩
    exact wellPlaced entry isPartition allocated
  have sorted :=
    List.pairwise_insertionSort (fun first second : ℕ × ℕ => toLex first ≤ toLex second)
    ((partitions.filter (·.allocated)).map PartitionEntry.extent)
  have apart : hasOverlap partitions = false ↔
      ((partitions.filter (·.allocated)).map PartitionEntry.extent).Pairwise
        fun first second => ¬Intersect first second := by
    rw [← perm.pairwise_iff fun apart intersect => apart intersect.symm,
      ← isChain_before_iff proper sorted, ← overlapsFrom_none_eq_false]
    rfl
  rw [apart, List.pairwise_map, List.pairwise_filter]
  refine List.pairwise_iff_getElem.trans (Iff.trans ?_ List.pairwise_iff_getElem.symm)
  refine forall₅_congr fun i j _ _ _ => ?_
  simp only [Overlap, not_and]

/-! ## The warning -/

def overlapWarning : PyStr := .ofString "overlapping_partitions"

/-- A text with a colon is another warning. -/
theorem ne_overlapWarning {warning : PyStr} (colon : .ofChar ':' ∈ warning) :
    warning ≠ overlapWarning := by
  rintro rfl
  exact absurd colon (by decide)

/-- What is true of the scan after every line. -/
structure Scanned (scan : TableScan) : Prop where
  wellPlaced : ∀ entry ∈ scan.partitions, WellPlaced entry
  colons : ∀ warning ∈ scan.warnings, .ofChar ':' ∈ warning

theorem colon_mem_warnings {line : MmlsMatch} (read : entryFromMatch line sectorSize = .ok entry) :
    ∀ warning ∈ entry.warnings, .ofChar ':' ∈ warning := by
  rcases bind_eq_ok read with ⟨start, _, read⟩
  rcases bind_eq_ok read with ⟨stop, _, read⟩
  rcases bind_eq_ok read with ⟨count, _, read⟩
  cases read
  intro warning isWarning
  simp only [List.mem_append] at isWarning
  have inPrefix : ∀ (condition : Prop) [Decidable condition] (text : String),
      .ofChar ':' ∈ PyStr.ofString text →
      warning ∈ (if condition then [PyStr.ofString text ++ line.slot] else []) →
      .ofChar ':' ∈ warning := by
    intro condition _ text colon isText
    split at isText
    · rw [List.mem_singleton.mp isText]
      exact List.mem_append_left _ colon
    · cases isText
  rcases isWarning with (truncated | mismatch) | invalid
  · exact inPrefix _ _ (by decide) truncated
  · exact inPrefix _ _ (by decide) mismatch
  · exact inPrefix _ _ (by decide) invalid

theorem Scanned.line {scan next : TableScan} {line : PyStr} (scanned : Scanned scan)
    (read : scanLine sectorSize scan line = .ok next) : Scanned next := by
  unfold scanLine at read
  split at read
  · cases read
    exact scanned
  split at read
  · cases read
    refine ⟨scanned.wellPlaced, fun warning isWarning => ?_⟩
    rcases List.mem_append.mp isWarning with isOld | isNew
    · exact scanned.colons warning isOld
    · rcases List.mem_map.mp isNew with ⟨table, _, rfl⟩
      exact List.mem_append_left _ (by decide)
  split at read
  · cases read
    exact ⟨scanned.wellPlaced, scanned.colons⟩
  · rcases bind_eq_ok read with ⟨entry, isEntry, read⟩
    cases read
    refine ⟨fun other isPartition => ?_, fun warning isWarning => ?_⟩
    · rcases List.mem_append.mp isPartition with isOld | isNew
      · exact scanned.wellPlaced other isOld
      · rw [List.mem_singleton.mp isNew]
        exact wellPlaced_entryFromMatch isEntry
    · rcases List.mem_append.mp isWarning with isOld | isNew
      · exact scanned.colons warning isOld
      · exact colon_mem_warnings isEntry warning isNew

theorem Scanned.lines {lines : List PyStr} {scan last : TableScan} (scanned : Scanned scan)
    (read : lines.foldlM (scanLine sectorSize) scan = .ok last) : Scanned last := by
  induction lines generalizing scan with
  | nil =>
    cases read
    exact scanned
  | cons line lines ih =>
    rw [List.foldlM_cons] at read
    rcases bind_eq_ok read with ⟨next, isNext, read⟩
    exact ih (scanned.line isNext) read

theorem overlapWarning_mem_tableWarnings {scan : TableScan} {stderr : PyStr} {returncode : ℤ} :
    overlapWarning ∈ tableWarnings scan stderr returncode ↔ hasOverlap scan.partitions = true := by
  have isOther : ∀ (condition : Prop) [Decidable condition] (text : PyStr), text ≠ overlapWarning →
      overlapWarning ∉ (if condition then [text] else []) := by
    intro condition _ text different isText
    split at isText
    · exact different (List.mem_singleton.mp isText).symm
    · cases isText
  have exit := isOther (returncode ≠ 0) (.ofString "mmls_exit:" ++ .ofChars (renderInt returncode))
    (ne_overlapWarning (List.mem_append_left _ (by decide)))
  have errors :=
    isOther (sanitizeText stderr ≠ []) (.ofString "mmls_stderr:" ++ sanitizeText stderr)
    (ne_overlapWarning (List.mem_append_left _ (by decide)))
  have missing := isOther (scan.tableType = none) (.ofString "partition_table_missing") (by decide)
  have unrecognized := isOther (scan.unrecognizedLine = true)
    (.ofString "unrecognized_partition_output") (by decide)
  have none := isOther (scan.partitions = []) (.ofString "no_partitions") (by decide)
  unfold tableWarnings
  simp only [List.mem_append, exit, errors, missing, unrecognized, none, false_or]
  split
  · rename_i overlaps
    exact iff_of_true List.mem_cons_self overlaps
  · rename_i disjoint
    exact iff_of_false List.not_mem_nil disjoint

theorem not_pairwise_overlap : (¬partitions.Pairwise fun first second => ¬Overlap first second) ↔
      ∃ (i j : ℕ) (first second : PartitionEntry), i ≠ j ∧ partitions[i]? = some first ∧
        partitions[j]? = some second ∧ Overlap first second := by
  rw [List.pairwise_iff_getElem]
  push Not
  constructor
  · rintro ⟨i, j, isFirst, isSecond, before, overlap⟩
    exact ⟨i, j, _, _, Nat.ne_of_lt before, List.getElem?_eq_getElem isFirst,
      List.getElem?_eq_getElem isSecond, overlap⟩
  · rintro ⟨i, j, first, second, different, isFirst, isSecond, overlap⟩
    rcases List.getElem?_eq_some_iff.mp isFirst with ⟨iBound, rfl⟩
    rcases List.getElem?_eq_some_iff.mp isSecond with ⟨jBound, rfl⟩
    rcases Nat.lt_or_gt_of_ne different with before | after
    · exact ⟨i, j, iBound, jBound, before, overlap⟩
    · exact ⟨j, i, jBound, iBound, after, overlap.symm⟩

/-- One partition inside another. -/
def nestedSlots : PyStr := .ofString "000:  Meta  1  9  9  Linux\n001:  Meta  3  4  2  Linux\n"

end Reperio.Scanner.SleuthKit
