import Reperio.Scanner.Fat12Scan

/-!
# Carve ranges

`_free_cluster_ranges` gathers the readable sectors of the free clusters into
ranges. Whatever the table says and whatever could not be read, the ranges hold
these sectors and nothing else, in order, with a sector missing between any two
of them (`freeClusterRanges_exact`).
-/

namespace Reperio

open Encoding

def CarveRange.stop (range : CarveRange) : ℕ := range.offsetBytes + range.lengthBytes

/-- Every byte of the sector is in the range. -/
def CarveRange.CoversSector (sectorSize : ℕ) (range : CarveRange) (sector : ℕ) : Prop :=
  range.offsetBytes ≤ sector * sectorSize ∧ (sector + 1) * sectorSize ≤ range.stop

namespace Fat12

variable {geometry : Fat12Geometry}

/-- A sector of a data cluster that the table says is free, and that was read. -/
def FreeSector (fat : List ℕ) (geometry : Fat12Geometry) (unreadableSectors : Finset ℤ)
    (sector : ℕ) : Prop :=
  (∃ cluster, 2 ≤ cluster ∧ cluster < geometry.clusterCount + 2 ∧ fat[cluster]? = some 0 ∧
    sector ∈ clusterSectors geometry cluster) ∧ (sector : ℤ) ∉ unreadableSectors

/-- The ranges are in order with a gap between any two of them, lie on the medium, and cover the
free sectors and no byte of another sector. -/
structure ExactRanges (fat : List ℕ) (geometry : Fat12Geometry) (unreadableSectors : Finset ℤ)
    (ranges : List CarveRange) : Prop where
  separated : ranges.Pairwise fun first second => first.stop < second.offsetBytes
  inside : ∀ range ∈ ranges, range.stop ≤ geometry.sizeBytes
  covers : ∀ sector, (∃ range ∈ ranges, range.CoversSector geometry.bytesPerSector sector) ↔
    FreeSector fat geometry unreadableSectors sector
  nothingElse : ∀ byte, (∃ range ∈ ranges, range.Contains byte) ↔
    FreeSector fat geometry unreadableSectors (byte / geometry.bytesPerSector)

theorem mem_readableSectors_iff {fat : List ℕ} {unreadableSectors : Finset ℤ} {sector : ℕ} :
    sector ∈ readableSectors fat geometry unreadableSectors ↔
      FreeSector fat geometry unreadableSectors sector := by
  rw [mem_readableSectors]
  constructor
  · rintro ⟨cluster, ⟨lower, upper⟩, free, within, readable⟩
    exact ⟨⟨cluster, lower, upper, free, within⟩, readable⟩
  · rintro ⟨⟨cluster, lower, upper, free, within⟩, readable⟩
    exact ⟨cluster, ⟨lower, upper⟩, free, within, readable⟩

/-- The sectors of a cluster come before those of a later one. -/
theorem sector_lt_of_cluster_lt {first second : ℕ} (lower : 2 ≤ first) (before : first < second)
    {sector other : ℕ} (within : sector ∈ clusterSectors geometry first)
    (inOther : other ∈ clusterSectors geometry second) : sector < other := by
  rw [mem_clusterSectors] at within inOther
  have start : geometry.clusterStart first + geometry.sectorsPerCluster ≤
      geometry.clusterStart second := by
    unfold Fat12Geometry.clusterStart
    rw [Nat.add_assoc, ← Nat.succ_mul]
    exact Nat.add_le_add_left (Nat.mul_le_mul_right _ (by omega)) _
  omega

theorem pairwise_readableSectors (fat : List ℕ) (unreadableSectors : Finset ℤ) :
    (readableSectors fat geometry unreadableSectors).Pairwise (· < ·) := by
  have part : ∀ cluster, ((if fat.getD cluster 0 ≠ 0 then [] else
      (clusterSectors geometry cluster).filter fun sector =>
        decide ((sector : ℤ) ∉ unreadableSectors)) : List ℕ).Sublist
          (clusterSectors geometry cluster) := by
    intro cluster
    split
    · exact List.nil_sublist _
    · exact List.filter_sublist
  have increasing : ∀ first count, (List.range' first count).Pairwise (· < ·) :=
    fun first count => List.pairwise_lt_range' 1
  unfold readableSectors
  rw [List.pairwise_flatMap]
  constructor
  · intro cluster _
    exact (increasing _ _).sublist (part cluster)
  · refine (increasing _ _).imp_of_mem ?_
    intro first second member _ before sector within other inOther
    refine sector_lt_of_cluster_lt ?_ before ((part first).subset within)
      ((part second).subset inOther)
    exact (List.mem_range'_1.mp member).1

theorem IsRange.stop {run : ℕ × ℕ} {range : CarveRange} (isRange : IsRange geometry run range)
    (ordered : run.1 ≤ run.2) : range.stop = (run.2 + 1) * geometry.bytesPerSector := by
  unfold CarveRange.stop
  rw [isRange.1, isRange.2, ← Nat.add_mul]
  congr 1
  omega

theorem pairwise_of_runs (sectorSize : 0 < geometry.bytesPerSector) {runs : List (ℕ × ℕ)}
    {ranges : List CarveRange} (ofRuns : List.Forall₂ (IsRange geometry) runs ranges)
    (ordered : ∀ run ∈ runs, run.1 ≤ run.2)
    (separated : runs.Pairwise fun first second => first.2 + 1 < second.1) :
    ranges.Pairwise fun first second => first.stop < second.offsetBytes := by
  induction ofRuns with
  | nil => exact List.Pairwise.nil
  | @cons run range runs ranges isRange rest ih =>
    rcases List.pairwise_cons.mp separated with ⟨gap, separated⟩
    refine List.pairwise_cons.mpr ⟨fun later member => ?_, ?_⟩
    · rcases (List.forall₂_iff_get.mp rest) with ⟨length, each⟩
      rcases List.mem_iff_get.mp member with ⟨index, rfl⟩
      have same := each index (by omega) index.isLt
      rw [isRange.stop (ordered run List.mem_cons_self), same.1]
      exact Nat.mul_lt_mul_of_pos_right (gap _ (List.get_mem _ _)) sectorSize
    · exact ih (fun other member => ordered other (List.mem_cons_of_mem _ member)) separated

/-- A range covers a sector when its run holds it. -/
theorem IsRange.coversSector (sectorSize : 0 < geometry.bytesPerSector) {run : ℕ × ℕ}
    {range : CarveRange} (isRange : IsRange geometry run range) (ordered : run.1 ≤ run.2)
    (sector : ℕ) :
    range.CoversSector geometry.bytesPerSector sector ↔ run.1 ≤ sector ∧ sector ≤ run.2 := by
  unfold CarveRange.CoversSector
  rw [isRange.stop ordered, isRange.1, Nat.mul_le_mul_right_iff sectorSize,
    Nat.mul_le_mul_right_iff sectorSize]
  omega

/-- Whatever the table says, the free clusters of a supported floppy make carve ranges, and these
are exact. -/
theorem freeClusterRanges_exact (supported : geometry ∈ supportedGeometries) (fat : List ℕ)
    (unreadableSectors : Finset ℤ) :
    ∃ ranges, freeClusterRanges fat geometry unreadableSectors = .ok ranges ∧
      ExactRanges fat geometry unreadableSectors ranges := by
  have supported := Fat12Geometry.supported_of_mem supported
  have sectorSize := supported.sectorSize_pos
  rcases exists_freeClusterRanges supported fat unreadableSectors with ⟨ranges, free, ofRuns⟩
  have ordered : ∀ run ∈ runs (readableSectors fat geometry unreadableSectors), run.1 ≤ run.2 :=
    fun run member => le_of_mem_runs member
  refine ⟨ranges, free, ?_, ?_, ?_, ?_⟩
  · exact pairwise_of_runs sectorSize ofRuns ordered
      (pairwise_runs (pairwise_readableSectors fat unreadableSectors))
  · intro range member
    -- the last byte is of a readable sector
    have last : range.Contains (range.stop - 1) := by
      have positive := range.positive
      unfold CarveRange.Contains CarveRange.stop
      omega
    have bound := readableSectors_lt supported
      ((contains_freeClusterRanges supported ofRuns _).mp ⟨range, member, last⟩)
    rw [Nat.div_lt_iff_lt_mul sectorSize] at bound
    unfold Fat12Geometry.sizeBytes
    omega
  · intro sector
    rw [← mem_readableSectors_iff, ← mem_runs]
    refine exists_range_iff ofRuns ordered ?_
    intro run range isRange ordered
    exact isRange.coversSector sectorSize ordered sector
  · intro byte
    rw [contains_freeClusterRanges supported ofRuns, mem_readableSectors_iff]

theorem freeClusterRanges_exact_damaged :
    ∃ ranges, freeClusterRanges ([0xFFD, 0xFFF, 0xFFF] ++ List.replicate 353 0)
        ⟨"360 KiB", 720, 2, 112, 2, 9, 2, 40, 0xFD, 512, 1, 2⟩ {-1, 15, 719} = .ok ranges ∧
      ExactRanges ([0xFFD, 0xFFF, 0xFFF] ++ List.replicate 353 0)
        ⟨"360 KiB", 720, 2, 112, 2, 9, 2, 40, 0xFD, 512, 1, 2⟩ {-1, 15, 719} ranges :=
  freeClusterRanges_exact (by decide) ([0xFFD, 0xFFF, 0xFFF] ++ List.replicate 353 0) {-1, 15, 719}

end Fat12

end Reperio
