import Reperio.Scanner.Fat12

/-!
# Scans of hostile floppies

Whatever the sectors of a floppy hold and however reading them fails, a scan of
a supported geometry returns, and its chains, extents and carve ranges fit
together: chains stay within the clusters of the floppy and do not repeat,
what an intact file occupies is never carved, and what a deleted file is
supposed to have occupied is carved completely.
-/

namespace Reperio

open Encoding Python

/-! ## Ranges of bytes -/

def Extent.Contains (extent : Extent) (byte : ℕ) : Prop :=
  extent.offsetBytes ≤ byte ∧ byte < extent.offsetBytes + extent.lengthBytes

def CarveRange.Contains (range : CarveRange) (byte : ℕ) : Prop :=
  range.offsetBytes ≤ byte ∧ byte < range.offsetBytes + range.lengthBytes

/-- A byte lies in a range of whole sectors when its sector does. -/
theorem contains_sectors {first count size byte : ℕ} (positive : 0 < size) :
    (first * size ≤ byte ∧ byte < first * size + count * size) ↔
      (first ≤ byte / size ∧ byte / size < first + count) := by
  rw [Nat.le_div_iff_mul_le positive, Nat.div_lt_iff_lt_mul positive, Nat.add_mul]

/-! ## Supported geometries -/

variable {cluster sector : ℕ} {unreadableSectors : Finset ℤ} {ranges : List CarveRange}

namespace Fat12Geometry

/-- What the supported geometries have in common. -/
structure Supported (geometry : Fat12Geometry) : Prop where
  sectorSize : geometry.bytesPerSector = 512
  clusters : 0 < geometry.sectorsPerCluster
  dataArea : geometry.firstDataSector ≤ geometry.totalSectors
  large : 512 ≤ geometry.sizeBytes
  small : geometry.sizeBytes ≤ maxRangeValue

theorem supported_of_mem {geometry : Fat12Geometry} (member : geometry ∈ supportedGeometries) :
    geometry.Supported := by
  have facts : ∀ geometry ∈ supportedGeometries, geometry.bytesPerSector = 512 ∧
      0 < geometry.sectorsPerCluster ∧ geometry.firstDataSector ≤ geometry.totalSectors ∧
      512 ≤ geometry.sizeBytes ∧ geometry.sizeBytes ≤ maxRangeValue := by
    decide
  rcases facts geometry member with ⟨sectorSize, clusters, dataArea, large, small⟩
  exact ⟨sectorSize, clusters, dataArea, large, small⟩

variable {geometry : Fat12Geometry}

theorem Supported.sectorSize_pos (supported : geometry.Supported) :
    0 < geometry.bytesPerSector := by
  rw [supported.sectorSize]
  decide

/-- The clusters of the floppy lie within it. -/
theorem Supported.clusterStart_le (supported : geometry.Supported) (lower : 2 ≤ cluster)
    (upper : cluster < geometry.clusterCount + 2) :
    geometry.clusterStart cluster + geometry.sectorsPerCluster ≤ geometry.totalSectors := by
  have whole : geometry.clusterCount * geometry.sectorsPerCluster ≤
      geometry.totalSectors - geometry.firstDataSector := Nat.div_mul_le_self _ _
  have last : (cluster - 2 + 1) * geometry.sectorsPerCluster ≤
      geometry.clusterCount * geometry.sectorsPerCluster :=
    Nat.mul_le_mul_right _ (by omega)
  rw [Nat.add_mul, Nat.one_mul] at last
  have dataArea := supported.dataArea
  unfold clusterStart
  omega

/-- The cluster of a sector. -/
theorem cluster_eq (lower : 2 ≤ cluster) (start : geometry.clusterStart cluster ≤ sector)
    (stop : sector < geometry.clusterStart cluster + geometry.sectorsPerCluster) :
    cluster = (sector - geometry.firstDataSector) / geometry.sectorsPerCluster + 2 := by
  have quotient : (sector - geometry.firstDataSector) / geometry.sectorsPerCluster =
    cluster - 2 := by
    refine Nat.div_eq_of_lt_le ?_ ?_
    · unfold clusterStart at start
      omega
    · unfold clusterStart at stop start
      rw [Nat.succ_mul]
      omega
  omega

end Fat12Geometry

namespace Fat12

variable {geometry : Fat12Geometry}

theorem detectGeometry_eq_ok {boot : List UInt8} {sourceSizeBytes : ℤ}
    (accepted : detectGeometry boot sourceSizeBytes = .ok geometry) :
    geometry ∈ supportedGeometries ∧ (geometry.sizeBytes : ℤ) = sourceSizeBytes := by
  unfold detectGeometry at accepted
  split at accepted
  · cases accepted
  split at accepted
  · cases accepted
  split at accepted
  · cases accepted
  dsimp only at accepted
  split at accepted
  · cases accepted
  split at accepted
  · rename_i only isOnly
    split at accepted
    · cases accepted
    cases accepted
    have member : geometry ∈ [geometry] := List.mem_singleton_self _
    rw [← isOnly] at member
    rcases List.mem_filter.mp (List.mem_filter.mp member).1 with ⟨supported, size⟩
    exact ⟨supported, of_decide_eq_true size⟩
  · cases accepted

/-! ## Allocation tables -/

theorem length_selectFat (copies : List (List UInt8)) (geometry : Fat12Geometry) :
    (selectFat copies geometry).1.length = geometry.clusterCount + 2 := by
  unfold selectFat
  dsimp only
  split
  · simp
  · rename_i fat others valid
    have member : fat ∈ fat :: others := List.mem_cons_self
    rw [← valid] at member
    rcases List.mem_map.mp (List.mem_filter.mp member).1 with ⟨copy, _, rfl⟩
    simp [decodeFat]

/-! ## Chains -/

/-- The clusters are of the table and do not repeat. -/
structure ValidChain (fat chain : List ℕ) : Prop where
  nodup : chain.Nodup
  inside : ∀ cluster ∈ chain, 2 ≤ cluster ∧ cluster < fat.length

/-- No cluster of the chain is free. -/
def Occupied (fat chain : List ℕ) : Prop := ∀ cluster ∈ chain, fat.getD cluster 0 ≠ 0

theorem ValidChain.append {fat chain : List ℕ} (valid : ValidChain fat chain) {cursor : ℕ}
    (inside : 2 ≤ cursor ∧ cursor < fat.length) (fresh : cursor ∉ chain) :
    ValidChain fat (chain ++ [cursor]) where
  nodup := by
    rw [← List.concat_eq_append]
    exact valid.nodup.concat fresh
  inside := by
    intro cluster member
    rcases List.mem_append.mp member with old | new
    · exact valid.inside cluster old
    · rw [List.mem_singleton.mp new]
      exact inside

theorem Occupied.append {fat chain : List ℕ} (occupied : Occupied fat chain) {cursor : ℕ}
    (taken : fat.getD cursor 0 ≠ 0) : Occupied fat (chain ++ [cursor]) := by
  intro cluster member
  rcases List.mem_append.mp member with old | new
  · exact occupied cluster old
  · rw [List.mem_singleton.mp new]
    exact taken

theorem ValidChain.take {fat chain : List ℕ} (valid : ValidChain fat chain) (count : ℕ) :
    ValidChain fat (chain.take count) :=
  ⟨valid.nodup.sublist (List.take_sublist _ _),
    fun cluster member => valid.inside cluster (List.mem_of_mem_take member)⟩

theorem validChain_nil {fat : List ℕ} : ValidChain fat [] := ⟨List.nodup_nil, nofun⟩

/-- The states of an entry whose chain is complete. -/
def RecoveryState.IsWhole (state : RecoveryState) : Prop :=
  state = .allocatedIntact ∨ state = .allocatedFragmented

/-- The chain is valid, and unless it is reported as incomplete, every cluster is occupied. -/
structure Followed.Sound (fat : List ℕ) (followed : Followed) : Prop where
  valid : ValidChain fat followed.clusters
  status : RecoveryState.IsWhole followed.status ∧ Occupied fat followed.clusters ∨
    followed.status.isPartial = true

theorem followChain_sound {fat : List ℕ} {steps cursor : ℕ} {chain : List ℕ}
    (valid : ValidChain fat chain) (occupied : Occupied fat chain) :
    (followChain fat steps cursor chain).Sound fat := by
  induction steps generalizing cursor chain with
  | zero => exact ⟨valid, Or.inl ⟨Or.inl rfl, occupied⟩⟩
  | succ steps ih =>
    rw [followChain]
    split
    · exact ⟨valid, Or.inl ⟨Or.inl rfl, occupied⟩⟩
    rename_i inside
    rw [not_not] at inside
    split
    · exact ⟨valid, Or.inr rfl⟩
    rename_i fresh
    have longer := valid.append inside fresh
    dsimp only
    split
    · rename_i ends
      refine ⟨longer, Or.inl ⟨Or.inl rfl, occupied.append ?_⟩⟩
      intro free
      rw [free] at ends
      exact absurd ends (by decide)
    split
    · exact ⟨longer, Or.inr rfl⟩
    split
    · exact ⟨longer, Or.inr rfl⟩
    rename_i taken
    split
    · exact ⟨longer, Or.inr rfl⟩
    · exact ih longer (occupied.append taken)

theorem Followed.Sound.checkLength {fat : List ℕ} {followed : Followed}
    (sound : followed.Sound fat) (expected : ℕ) : (followed.checkLength expected).Sound fat := by
  unfold Followed.checkLength
  split
  · exact ⟨sound.valid, Or.inr rfl⟩
  split
  · refine ⟨sound.valid.take expected, sound.status.imp_left fun whole => ⟨whole.1, ?_⟩⟩
    exact fun cluster member => whole.2 cluster (List.mem_of_mem_take member)
  · exact sound

theorem Followed.Sound.checkOrder {fat : List ℕ} {followed : Followed}
    (sound : followed.Sound fat) : followed.checkOrder.Sound fat := by
  unfold Followed.checkOrder
  split
  · rename_i intact
    rcases sound.status with whole | isPartial
    · exact ⟨sound.valid, Or.inl ⟨Or.inr rfl, whole.2⟩⟩
    · rw [intact.1] at isPartial
      cases isPartial
  · exact sound

/-- The chain of an entry is valid, occupied when the entry is whole, and free when it is a deleted
candidate. -/
structure ClusterChain.Sound (fat : List ℕ) (chain : ClusterChain) : Prop where
  valid : ValidChain fat chain.clusters
  occupied : RecoveryState.IsWhole chain.state → Occupied fat chain.clusters
  free : chain.state = .deletedContiguousCandidate →
    ∀ cluster ∈ chain.clusters, fat.getD cluster 0 = 0

theorem allocatedChain_sound (firstCluster sizeBytes : ℕ) (fat : List ℕ)
    (geometry : Fat12Geometry) : (allocatedChain firstCluster sizeBytes fat geometry).Sound
      fat := by
  unfold allocatedChain
  split
  · exact ⟨validChain_nil, fun _ => nofun, nofun⟩
  split
  · exact ⟨validChain_nil, fun _ => nofun, nofun⟩
  have sound := ((@followChain_sound fat (geometry.clusterCount + 1) firstCluster [] validChain_nil
    nofun).checkLength (clustersForSize sizeBytes geometry)).checkOrder
  refine ⟨sound.valid, fun whole => ?_, fun candidate => ?_⟩
  · dsimp only at whole ⊢
    rcases sound.status with occupied | isPartial
    · exact occupied.2
    · rcases whole with intact | fragmented
      · rw [intact] at isPartial
        cases isPartial
      · rw [fragmented] at isPartial
        cases isPartial
  · dsimp only at candidate
    rcases sound.status with whole | isPartial
    · rw [candidate] at whole
      rcases whole.1 with intact | fragmented
      · cases intact
      · cases fragmented
    · rw [candidate] at isPartial
      cases isPartial

theorem deletedChain_sound (firstCluster sizeBytes : ℕ) (fat : List ℕ)
    (geometry : Fat12Geometry) : (deletedChain firstCluster sizeBytes fat geometry).Sound fat := by
  have notWhole : ∀ {state : RecoveryState}, state ≠ .allocatedIntact →
      state ≠ .allocatedFragmented → ¬RecoveryState.IsWhole state :=
    fun intact fragmented whole => whole.elim intact fragmented
  unfold deletedChain
  dsimp only
  split
  · exact ⟨validChain_nil, fun _ => nofun, nofun⟩
  rename_i present
  split
  · exact ⟨validChain_nil, fun _ => nofun, nofun⟩
  rename_i inside
  split
  · exact ⟨validChain_nil, fun _ => nofun, nofun⟩
  rename_i free
  refine ⟨⟨List.nodup_range', ?_⟩, fun whole => absurd whole (notWhole nofun nofun),
    fun _ cluster member => ?_⟩
  · intro cluster member
    rw [List.mem_range'_1] at member
    omega
  · by_contra taken
    exact free (List.any_eq_true.mpr ⟨cluster, member, decide_eq_true taken⟩)

/-! ## Entries -/

theorem exists_of_mem_parseEntries {root : List UInt8} {fat : List ℕ} {indices : List ℕ}
    {pendingLfn : List (List UInt8)} {entry : Fat12Entry}
    (member : entry ∈ parseEntries root geometry fat unreadableSectors indices pendingLfn) :
    ∃ index raw pending, entry = parseEntry index raw pending geometry fat unreadableSectors := by
  induction indices generalizing pendingLfn with
  | nil => cases member
  | cons index rest ih =>
    rw [parseEntries] at member
    split at member
    · cases member
    split at member
    · exact ih member
    split at member
    · exact ih member
    rcases List.mem_cons.mp member with first | later
    · exact ⟨_, _, _, first⟩
    · exact ih later

/-- The clusters of an entry against the table and the sectors that could not be read. -/
structure Entry.Sound (geometry : Fat12Geometry) (fat : List ℕ) (unreadableSectors : Finset ℤ)
    (entry : Fat12Entry) : Prop where
  valid : ValidChain fat entry.clusterChain
  extents : entry.extents = clusterExtents entry.clusterChain geometry
  occupied : RecoveryState.IsWhole entry.recoveryState → Occupied fat entry.clusterChain
  free : entry.recoveryState = .deletedContiguousCandidate → ∀ cluster ∈ entry.clusterChain,
    fat.getD cluster 0 = 0 ∧
      ∀ sector ∈ clusterSectors geometry cluster, (sector : ℤ) ∉ unreadableSectors

theorem parseEntry_sound (index : ℕ) (raw : List UInt8) (pendingLfn : List (List UInt8))
    (geometry : Fat12Geometry) (fat : List ℕ) (unreadableSectors : Finset ℤ) :
    Entry.Sound geometry fat unreadableSectors
      (parseEntry index raw pendingLfn geometry fat unreadableSectors) := by
  unfold parseEntry
  dsimp only
  generalize isChain : (if byteAt raw 0 = 0xE5 then
    deletedChain (wordAt raw 26) (longAt raw 28) fat geometry
    else allocatedChain (wordAt raw 26) (longAt raw 28) fat geometry) = chain
  have sound : chain.Sound fat := by
    rw [← isChain]
    split
    · exact deletedChain_sound _ _ _ _
    · exact allocatedChain_sound _ _ _ _
  refine ⟨sound.valid, rfl, fun whole => ?_, fun candidate cluster member => ?_⟩
  · dsimp only at whole ⊢
    split at whole
    · rcases whole with intact | fragmented
      · cases intact
      · cases fragmented
    · exact sound.occupied whole
  · dsimp only at candidate member
    split at candidate
    · cases candidate
    rename_i readable
    refine ⟨sound.free candidate cluster member, fun sector within unreadable => readable ?_⟩
    exact List.any_eq_true.mpr ⟨cluster, member,
      List.any_eq_true.mpr ⟨sector, within, decide_eq_true unreadable⟩⟩

/-! ## Free clusters -/

theorem mem_clusterSectors : sector ∈ clusterSectors geometry cluster ↔
      geometry.clusterStart cluster ≤ sector ∧
        sector < geometry.clusterStart cluster + geometry.sectorsPerCluster := by
  rw [clusterSectors, List.mem_range'_1]

theorem getElem?_eq_some_zero {fat : List ℕ} (inTable : cluster < fat.length) :
    fat[cluster]? = some 0 ↔ fat.getD cluster 0 = 0 := by
  rw [List.getD_eq_getElem?_getD, List.getElem?_eq_getElem inTable, Option.getD_some,
    Option.some_inj]

theorem mem_readableSectors {fat : List ℕ} :
    sector ∈ readableSectors fat geometry unreadableSectors ↔
      ∃ cluster, (2 ≤ cluster ∧ cluster < geometry.clusterCount + 2) ∧ fat[cluster]? = some 0 ∧
        sector ∈ clusterSectors geometry cluster ∧ (sector : ℤ) ∉ unreadableSectors := by
  unfold readableSectors
  simp only [List.mem_flatMap, List.mem_range'_1]
  refine exists_congr fun cluster => ?_
  by_cases inTable : cluster < fat.length
  · rw [getElem?_eq_some_zero inTable]
    refine and_congr (by omega) ?_
    split
    · rename_i taken
      exact ⟨nofun, fun free => absurd free.1 taken⟩
    · rename_i free
      rw [not_not] at free
      rw [List.mem_filter, decide_eq_true_iff, and_iff_right free]
  · rw [List.getElem?_eq_none (Nat.le_of_not_lt inTable)]
    refine iff_of_false ?_ ?_
    · rintro ⟨within, _⟩
      omega
    · rintro ⟨_, free, _⟩
      cases free

theorem readableSectors_lt (supported : geometry.Supported) {fat : List ℕ}
    (member : sector ∈ readableSectors fat geometry unreadableSectors) :
    sector < geometry.totalSectors := by
  rcases mem_readableSectors.mp member with ⟨cluster, inside, _, within, _⟩
  have stop := (mem_clusterSectors.mp within).2
  have bound := supported.clusterStart_le inside.1 inside.2
  omega

/-- A list is mapped completely when each of its members is. -/
theorem exists_mapM_ok {Input Output Error : Type} {convert : Input → Except Error Output}
    {Holds : Input → Output → Prop} {inputs : List Input}
    (each : ∀ input ∈ inputs, ∃ output, convert input = .ok output ∧ Holds input output) :
    ∃ outputs, inputs.mapM convert = .ok outputs ∧ List.Forall₂ Holds inputs outputs := by
  induction inputs with
  | nil => exact ⟨[], rfl, List.Forall₂.nil⟩
  | cons input inputs ih =>
    rcases each input List.mem_cons_self with ⟨output, converted, holds⟩
    rcases ih (fun other member => each other (List.mem_cons_of_mem _ member)) with
      ⟨outputs, rest, all⟩
    refine ⟨output :: outputs, ?_, List.Forall₂.cons holds all⟩
    rw [List.mapM_cons, converted]
    change (inputs.mapM convert >>= fun outputs => pure (output :: outputs)) = _
    rw [rest]
    rfl

/-- A range is the bytes of a run of sectors. -/
def IsRange (geometry : Fat12Geometry) (run : ℕ × ℕ) (range : CarveRange) : Prop :=
  range.offsetBytes = run.1 * geometry.bytesPerSector ∧
    range.lengthBytes = (run.2 - run.1 + 1) * geometry.bytesPerSector

/-- The free clusters of a supported floppy make carve ranges, one for each run of readable
sectors. -/
theorem exists_freeClusterRanges (supported : geometry.Supported) (fat : List ℕ)
    (unreadableSectors : Finset ℤ) :
    ∃ ranges, freeClusterRanges fat geometry unreadableSectors = .ok ranges ∧
      List.Forall₂ (IsRange geometry) (runs (readableSectors fat geometry unreadableSectors))
        ranges := by
  refine exists_mapM_ok fun run member => ?_
  have ordered := le_of_mem_runs member
  have last : run.2 < geometry.totalSectors := by
    refine readableSectors_lt supported
      ((mem_runs run.2).mp ⟨run, member, ordered, Nat.le_refl _⟩)
  have stop : run.1 * geometry.bytesPerSector +
      (run.2 - run.1 + 1) * geometry.bytesPerSector ≤ maxRangeValue := by
    refine le_trans ?_ supported.small
    rw [← Nat.add_mul]
    exact Nat.mul_le_mul_right _ (by omega)
  have length : 0 < (run.2 - run.1 + 1) * geometry.bytesPerSector :=
    Nat.mul_pos (Nat.succ_pos _) supported.sectorSize_pos
  refine ⟨⟨_, _, length, stop⟩, ?_, rfl, rfl⟩
  rw [sectorRange, CarveRange.of, dif_pos ⟨length, stop⟩]

theorem IsRange.contains_iff (sectorSize : 0 < geometry.bytesPerSector) {run : ℕ × ℕ}
    {range : CarveRange} (isRange : IsRange geometry run range) (ordered : run.1 ≤ run.2)
    (byte : ℕ) :
    range.Contains byte ↔
      run.1 ≤ byte / geometry.bytesPerSector ∧ byte / geometry.bytesPerSector ≤ run.2 := by
  unfold CarveRange.Contains
  rw [isRange.1, isRange.2, contains_sectors sectorSize]
  omega

/-- What a range has when its run has it, some range has when some run has it. -/
theorem exists_range_iff {runs : List (ℕ × ℕ)}
    (ofRuns : List.Forall₂ (IsRange geometry) runs ranges) (ordered : ∀ run ∈ runs, run.1 ≤ run.2)
    {OfRange : CarveRange → Prop} {OfRun : ℕ × ℕ → Prop}
    (same : ∀ {run range}, IsRange geometry run range → run.1 ≤ run.2 →
      (OfRange range ↔ OfRun run)) :
    (∃ range ∈ ranges, OfRange range) ↔ ∃ run ∈ runs, OfRun run := by
  induction ofRuns with
  | nil => simp
  | @cons run range runs ranges isRange _ ih =>
    have rest := ih fun other member => ordered other (List.mem_cons_of_mem _ member)
    rw [List.exists_mem_cons_iff, List.exists_mem_cons_iff, rest,
      same isRange (ordered run List.mem_cons_self)]

/-- The carve ranges hold the bytes of the readable sectors. -/
theorem contains_freeClusterRanges (supported : geometry.Supported) {fat : List ℕ}
    (ofRuns : List.Forall₂ (IsRange geometry)
      (runs (readableSectors fat geometry unreadableSectors)) ranges) (byte : ℕ) :
    (∃ range ∈ ranges, range.Contains byte) ↔
      byte / geometry.bytesPerSector ∈ readableSectors fat geometry unreadableSectors := by
  rw [← mem_runs]
  refine exists_range_iff ofRuns (fun run member => le_of_mem_runs member) ?_
  intro run range isRange ordered
  exact isRange.contains_iff supported.sectorSize_pos ordered byte

/-! ## Scans -/

/-- What the chains, the extents and the carve ranges of a scan have to do with each other. -/
structure ScanResult.Sound (sourceSizeBytes : ℤ) (result : Fat12ScanResult) : Prop where
  chains : ∀ entry ∈ result.entries, entry.clusterChain.Nodup ∧
    ∀ cluster ∈ entry.clusterChain, 2 ≤ cluster ∧ cluster ≤ result.geometry.clusterCount + 1
  inside : ∀ entry ∈ result.entries, ∀ extent ∈ entry.extents,
    ((extent.offsetBytes + extent.lengthBytes : ℕ) : ℤ) ≤ sourceSizeBytes
  disjoint : ∀ entry ∈ result.entries, entry.allocated = true →
    RecoveryState.IsWhole entry.recoveryState → ∀ extent ∈ entry.extents,
      ∀ range ∈ result.carveRanges, ∀ byte, extent.Contains byte → ¬range.Contains byte
  covered : ∀ entry ∈ result.entries, entry.recoveryState = .deletedContiguousCandidate →
    ∀ extent ∈ entry.extents, ∀ byte, extent.Contains byte →
      ∃ range ∈ result.carveRanges, range.Contains byte

/-- The sector of a byte of an extent is one of its cluster. -/
theorem exists_cluster_of_contains (supported : geometry.Supported) {chain : List ℕ}
    {extent : Extent} (member : extent ∈ clusterExtents chain geometry) :
    ∃ cluster ∈ chain,
      extent.offsetBytes = geometry.clusterStart cluster * geometry.bytesPerSector ∧
        extent.lengthBytes = geometry.sectorsPerCluster * geometry.bytesPerSector ∧
          ∀ byte, extent.Contains byte →
            byte / geometry.bytesPerSector ∈ clusterSectors geometry cluster := by
  rcases List.mem_map.mp member with ⟨cluster, inside, rfl⟩
  refine ⟨cluster, inside, rfl, rfl, fun byte within => ?_⟩
  exact mem_clusterSectors.mpr ((contains_sectors supported.sectorSize_pos).mp within)

/-- Entries that fit the table fit the ranges that are left to carve. -/
theorem scanResult_sound (supported : geometry.Supported) {fat : List ℕ}
    (size : fat.length = geometry.clusterCount + 2) {entries : List Fat12Entry}
    {unreadable : List ℤ} {warnings : List String}
    (sound : ∀ entry ∈ entries, Entry.Sound geometry fat unreadableSectors entry)
    (carved : ∀ byte, (∃ range ∈ ranges, range.Contains byte) ↔
      byte / geometry.bytesPerSector ∈ readableSectors fat geometry unreadableSectors) :
    ScanResult.Sound geometry.sizeBytes ⟨geometry, entries, ranges, unreadable, warnings⟩ := by
  have clusters : ∀ entry ∈ entries, ∀ cluster ∈ entry.clusterChain,
      2 ≤ cluster ∧ cluster < geometry.clusterCount + 2 := by
    intro entry member cluster within
    rw [← size]
    exact (sound entry member).valid.inside cluster within
  refine ⟨fun entry member => ⟨(sound entry member).valid.nodup, fun cluster within => ?_⟩,
    fun entry member extent part => ?_, fun entry member _ whole extent part range inRanges byte
      within carves => ?_, fun entry member candidate extent part byte within => ?_⟩
  · exact ⟨(clusters entry member cluster within).1,
      Nat.le_of_lt_succ (clusters entry member cluster within).2⟩
  · rw [(sound entry member).extents] at part
    rcases exists_cluster_of_contains supported part with ⟨cluster, chained, start, length, _⟩
    have bound := clusters entry member cluster chained
    rw [start, length, ← Nat.add_mul]
    exact Int.ofNat_le.mpr (Nat.mul_le_mul_right _ (supported.clusterStart_le bound.1 bound.2))
  · rw [(sound entry member).extents] at part
    rcases exists_cluster_of_contains supported part with ⟨cluster, chained, _, _, sectors⟩
    rcases mem_readableSectors.mp ((carved byte).mp ⟨range, inRanges, carves⟩) with
      ⟨other, bound, free, otherSector, _⟩
    -- a sector is of one cluster only
    have same : cluster = other := by
      have sector := mem_clusterSectors.mp (sectors byte within)
      rw [mem_clusterSectors] at otherSector
      rw [Fat12Geometry.cluster_eq (clusters entry member cluster chained).1 sector.1 sector.2,
        Fat12Geometry.cluster_eq bound.1 otherSector.1 otherSector.2]
    rw [← same] at free
    exact (sound entry member).occupied whole cluster chained
      ((getElem?_eq_some_zero ((sound entry member).valid.inside cluster chained).2).mp free)
  · rw [(sound entry member).extents] at part
    rcases exists_cluster_of_contains supported part with ⟨cluster, chained, _, _, sectors⟩
    rcases (sound entry member).free candidate cluster chained with ⟨free, readable⟩
    refine (carved byte).mpr (mem_readableSectors.mpr ⟨cluster, ?_, ?_, ?_, ?_⟩)
    · exact clusters entry member cluster chained
    · exact (getElem?_eq_some_zero ((sound entry member).valid.inside cluster chained).2).mpr free
    · exact sectors byte within
    · exact readable _ (sectors byte within)

section Scan

variable {State : Type} (reader : Fat12Reader State)

/-- Once the boot sector is accepted, the scan returns whatever is read afterwards: the entries and
the carve ranges that the table and the root directory make up. -/
theorem exists_scanFat12 (initial : State) (sourceSizeBytes : ℤ) (knownBadSectors : List ℤ)
    {boot : List UInt8} {state : State} (read : reader.readAt 0 512 initial = (some boot, state))
    (whole : boot.length = 512) (accepted : detectGeometry boot sourceSizeBytes = .ok geometry)
    {copies : List (List UInt8) × ReadState State} {root : List UInt8 × ReadState State}
    (readCopies : readFatCopies reader knownBadSectors.toFinset geometry geometry.fatCount
      ⟨state, knownBadSectors.toFinset⟩ = copies)
    (readRoot : readSectors reader knownBadSectors.toFinset geometry.bytesPerSector
      geometry.rootStart geometry.rootDirectorySectors copies.2 = root) :
    ∃ result, scanFat12 reader initial sourceSizeBytes knownBadSectors = .ok result ∧
      result.geometry = geometry ∧
      result.entries = parseRootDirectory root.1 geometry (selectFat copies.1 geometry).1
        root.2.unreadableSectors ∧
      freeClusterRanges (selectFat copies.1 geometry).1 geometry root.2.unreadableSectors =
        .ok result.carveRanges := by
  rcases detectGeometry_eq_ok accepted with ⟨member, rfl⟩
  have supported := Fat12Geometry.supported_of_mem member
  have large : ¬(geometry.sizeBytes : ℤ) < 512 := by
    have large := supported.large
    omega
  unfold scanFat12
  rw [if_neg large, read]
  dsimp only
  rw [if_neg (not_not.mpr whole), accepted]
  dsimp only [bind, Except.bind, pure, Except.pure]
  rw [readCopies, readRoot]
  rcases exists_freeClusterRanges supported (selectFat copies.1 geometry).1
    root.2.unreadableSectors with ⟨ranges, free, _⟩
  rw [free]
  exact ⟨_, rfl, rfl, rfl, rfl⟩

/-- What a scan returns is sound. -/
theorem scanFat12_sound (initial : State) (sourceSizeBytes : ℤ) (knownBadSectors : List ℤ)
    {boot : List UInt8} {state : State} (read : reader.readAt 0 512 initial = (some boot, state))
    (whole : boot.length = 512)
    (accepted : detectGeometry boot sourceSizeBytes = .ok geometry) :
    ∃ result, scanFat12 reader initial sourceSizeBytes knownBadSectors = .ok result ∧
      result.geometry = geometry ∧ ScanResult.Sound sourceSizeBytes result := by
  rcases exists_scanFat12 reader initial sourceSizeBytes knownBadSectors read whole accepted rfl rfl
    with ⟨⟨_, entries, carved, unreadable, warnings⟩, returned, rfl, isEntries, free⟩
  refine ⟨_, returned, rfl, ?_⟩
  rcases detectGeometry_eq_ok accepted with ⟨member, rfl⟩
  have supported := Fat12Geometry.supported_of_mem member
  dsimp only at isEntries free
  generalize readFatCopies reader knownBadSectors.toFinset _ _ _ = copies at isEntries free
  generalize readSectors reader knownBadSectors.toFinset _ _ _ copies.2 = root at isEntries free
  rcases exists_freeClusterRanges supported (selectFat copies.1 _).1
    root.2.unreadableSectors with ⟨ranges, same, ofRuns⟩
  rw [free] at same
  cases same
  refine scanResult_sound supported (length_selectFat copies.1 _) (fun entry member => ?_)
    (contains_freeClusterRanges supported ofRuns)
  rw [isEntries] at member
  rcases exists_of_mem_parseEntries member with ⟨index, raw, pending, rfl⟩
  exact parseEntry_sound index raw pending _ _ _

end Scan

/-- The boot sector of a floppy of 360 KiB. -/
def bootSector : List UInt8 := [0xEB, 0x3C, 0x90] ++ List.replicate 8 0x20 ++
    [0x00, 0x02, 2, 1, 0, 2, 112, 0, 0xD0, 0x02, 0xFD, 2, 0, 9, 0, 2, 0] ++ List.replicate 26 0 ++
    [0x46, 0x41, 0x54, 0x31, 0x32, 0x20, 0x20, 0x20] ++ List.replicate 448 0 ++ [0x55, 0xAA]

/-- The first sector of an allocation table: two clusters of one file, and no others. -/
def fatSector : List UInt8 := [0xFD, 0xFF, 0xFF, 0x03, 0xF0, 0xFF] ++ List.replicate 506 0

/-- A directory of a file of 1500 bytes and of a deleted one of 600. -/
def directorySector : List UInt8 :=
  [0x4B, 0x45, 0x50, 0x54, 0x20, 0x20, 0x20, 0x20, 0x54, 0x58, 0x54, 0x20] ++
    List.replicate 14 0 ++ [2, 0, 0xDC, 0x05, 0, 0] ++
    [0xE5, 0x4F, 0x4E, 0x45, 0x20, 0x20, 0x20, 0x20, 0x54, 0x58, 0x54, 0x20] ++
    List.replicate 14 0 ++ [4, 0, 0x58, 0x02, 0, 0] ++ List.replicate 448 0

/-- A floppy of which the second half of the tables and most of the directory cannot be read. -/
def damagedFloppy : Fat12Reader Unit where
  readAt offset _ state := (([(0, bootSector), (512, fatSector), (1536, fatSector),
    (2560, directorySector)] : List (ℕ × List UInt8)).lookup offset, state)

theorem scanFat12_sound_damagedFloppy :
    ∃ result, scanFat12 damagedFloppy () 368640 [-1, 3, 719] = .ok result ∧
      result.geometry = ⟨"360 KiB", 720, 2, 112, 2, 9, 2, 40, 0xFD, 512, 1, 2⟩ ∧
        ScanResult.Sound 368640 result ∧
          result.entries.map (fun entry => (entry.recoveryState, entry.clusterChain)) =
            [(.allocatedIntact, [2, 3]), (.deletedContiguousCandidate, [4])] := by
  have read : damagedFloppy.readAt 0 512 () = (some bootSector, ()) := rfl
  have whole : bootSector.length = 512 := by decide +kernel
  have accepted : detectGeometry bootSector 368640 =
      .ok ⟨"360 KiB", 720, 2, 112, 2, 9, 2, 40, 0xFD, 512, 1, 2⟩ :=
    eq_ok_of_toOption (by decide +kernel)
  rcases scanFat12_sound damagedFloppy () 368640 [-1, 3, 719] read whole accepted with
    ⟨result, returned, isGeometry, sound⟩
  rcases exists_scanFat12 damagedFloppy () 368640 [-1, 3, 719] read whole accepted rfl rfl with
    ⟨_, same, _, entries, _⟩
  cases returned.symm.trans same
  refine ⟨_, returned, isGeometry, sound, ?_⟩
  rw [entries]
  decide +kernel

end Fat12

end Reperio
