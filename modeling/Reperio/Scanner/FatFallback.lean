import Reperio.Scanner.Fat12Scan

/-!
# Damaged allocation tables

A floppy with two copies of its table, of which one cannot be read completely. A
scan fills what it could not read with zeros and takes the first copy whose
header is valid, so that damage behind the header of the first copy goes
unnoticed although the second copy is intact. The table of the floppy is used
exactly when the first copy, as it was read, has no valid header or says the
same as the copy on the floppy (`fallsBack_iff`).
-/

namespace Reperio.Fat12

open Python

/-! ## Floppies -/

/-- A floppy of a supported geometry whose two copies of the table agree and have a valid header,
by its sectors. -/
structure Floppy where
  geometry : Fat12Geometry
  sectors : ℕ → List UInt8
  sectorSize : ∀ sector, (sectors sector).length = 512
  accepted : detectGeometry (sectors 0) geometry.sizeBytes = .ok geometry
  identical : (List.range' geometry.reservedSectors geometry.sectorsPerFat).flatMap sectors =
    (List.range' (geometry.reservedSectors + geometry.sectorsPerFat)
      geometry.sectorsPerFat).flatMap sectors
  headerValid : fatHeaderValid (decodeFat
    ((List.range' geometry.reservedSectors geometry.sectorsPerFat).flatMap sectors)
      (geometry.clusterCount + 2)) geometry.mediaDescriptor = true

/-- The sectors of a copy of the table. -/
def Fat12Geometry.fatSectors (geometry : Fat12Geometry) (index : ℕ) : List ℕ :=
  List.range' (geometry.reservedSectors + index * geometry.sectorsPerFat) geometry.sectorsPerFat

/-- The table as it is on the floppy. -/
def Floppy.fat (floppy : Floppy) : List ℕ :=
  decodeFat ((Fat12Geometry.fatSectors floppy.geometry 0).flatMap floppy.sectors)
    (floppy.geometry.clusterCount + 2)

/-- What is known about the sectors of a floppy before it is scanned, and what reading each of them
answers. A read that returns a whole sector returns the right one. -/
structure Reading (floppy : Floppy) where
  knownBadSectors : List ℕ
  answer : ℕ → Option (List UInt8)
  faithful : ∀ sector, ((answer sector).getD []).length = 512 →
    answer sector = some (floppy.sectors sector)

namespace Reading

variable {floppy : Floppy} (reading : Reading floppy)

def Unreadable (sector : ℕ) : Prop :=
  sector ∈ reading.knownBadSectors ∨ ((reading.answer sector).getD []).length ≠ 512

/-- All sectors that cannot be read are of one copy of the table. -/
def TouchesOnly (index : ℕ) : Prop :=
  ∀ sector, reading.Unreadable sector → sector ∈ Fat12Geometry.fatSectors floppy.geometry index

def reader : Fat12Reader Unit where
  readAt offset _ state := (reading.answer (offset / 512), state)

def known : Finset ℤ := (reading.knownBadSectors.map fun sector : ℕ => (sector : ℤ)).toFinset

/-- What a scan takes a sector to hold. -/
def chunk (sector : ℕ) : List UInt8 := if sector ∈ reading.knownBadSectors then List.replicate 512 0
  else
    let data := (reading.answer sector).getD []
    if data.length = 512 then data
    else data.take 512 ++ List.replicate (512 - data.length) 0

/-- A copy of the table as it was read. -/
def fatCopy (index : ℕ) : List ℕ :=
  decodeFat ((Fat12Geometry.fatSectors floppy.geometry index).flatMap reading.chunk)
    (floppy.geometry.clusterCount + 2)

def scan : Except ScanError Fat12ScanResult := scanFat12 reading.reader () floppy.geometry.sizeBytes
    (reading.knownBadSectors.map fun sector : ℕ => (sector : ℤ))

/-- The table that the scan uses. -/
def usedFat : List ℕ :=
  (selectFat (readFatCopies reading.reader reading.known floppy.geometry floppy.geometry.fatCount
    ⟨(), reading.known⟩).1 floppy.geometry).1

end Reading

/-- Every sector of the floppy is read. -/
def Floppy.readable (floppy : Floppy) : Reading floppy where
  knownBadSectors := []
  answer sector := some (floppy.sectors sector)
  faithful _ _ := rfl

/-- The damage changes nothing: the table that is used is the one on the floppy, and the scan finds
the entries and the carve ranges that it finds on the readable floppy. -/
structure Reading.FallsBack {floppy : Floppy} (reading : Reading floppy) : Prop where
  table : reading.usedFat = floppy.fat
  same : ∃ result complete, reading.scan = .ok result ∧ floppy.readable.scan = .ok complete ∧
    result.entries = complete.entries ∧ result.carveRanges = complete.carveRanges

/-- The header of the first copy, as it was read, is invalid, or the copy still says what it says on
the floppy. -/
def Reading.FirstCopyTells {floppy : Floppy} (reading : Reading floppy) : Prop :=
  fatHeaderValid (reading.fatCopy 0) floppy.geometry.mediaDescriptor = true →
    reading.fatCopy 0 = floppy.fat

/-! ## Reading sectors -/

variable {sector : ℕ} {state : ReadState Unit}

section

variable {floppy : Floppy} {reading : Reading floppy}

theorem Reading.chunk_of_readable (readable : ¬reading.Unreadable sector) :
    reading.chunk sector = floppy.sectors sector := by
  unfold Reading.Unreadable at readable
  rw [not_or, not_not] at readable
  rcases readable with ⟨notKnown, whole⟩
  unfold Reading.chunk
  dsimp only
  rw [if_neg notKnown, if_pos whole, reading.faithful sector whole, Option.getD_some]

theorem Reading.mem_known {sector : ℤ} :
    sector ∈ reading.known ↔ ∃ known ∈ reading.knownBadSectors, (known : ℤ) = sector := by
  unfold Reading.known
  rw [List.mem_toFinset, List.mem_map]

theorem Reading.readSector_eq (sector : ℕ) (state : ReadState Unit) :
    (readSector reading.reader reading.known 512 sector state).1 = reading.chunk sector := by
  have known : (sector : ℤ) ∈ reading.known ↔ sector ∈ reading.knownBadSectors := by
    rw [Reading.mem_known]
    constructor
    · rintro ⟨other, member, same⟩
      rw [Int.ofNat_inj] at same
      rwa [← same]
    · intro member
      exact ⟨sector, member, rfl⟩
  have place : sector * 512 / 512 = sector := Nat.mul_div_cancel sector (by decide)
  unfold readSector Reading.chunk Reading.reader
  dsimp only
  rw [place]
  by_cases isKnown : sector ∈ reading.knownBadSectors
  · rw [if_pos (known.mpr isKnown), if_pos isKnown]
  · rw [if_neg (fun member => isKnown (known.mp member)), if_neg isKnown]
    split
    · rfl
    · rfl

/-- All sectors that are noted as unreadable are. -/
def Reading.Noted (reading : Reading floppy) (state : ReadState Unit) : Prop :=
  ∀ sector ∈ state.unreadableSectors, ∃ number : ℕ, sector = number ∧ reading.Unreadable number

theorem Reading.noted_initial : reading.Noted ⟨(), reading.known⟩ := by
  intro sector member
  rcases Reading.mem_known.mp member with ⟨number, isKnown, rfl⟩
  exact ⟨number, rfl, Or.inl isKnown⟩

theorem Reading.Noted.insert {state : ReadState Unit} (noted : reading.Noted state) {sector : ℕ}
    (unreadable : reading.Unreadable sector) (next : Unit) :
    reading.Noted ⟨next, Insert.insert (sector : ℤ) state.unreadableSectors⟩ := by
  intro other member
  rcases Finset.mem_insert.mp member with rfl | before
  · exact ⟨sector, rfl, unreadable⟩
  · exact noted other before

theorem Reading.Noted.readSector (noted : reading.Noted state) (sector : ℕ) :
    reading.Noted (Fat12.readSector reading.reader reading.known 512 sector state).2 := by
  have place : sector * 512 / 512 = sector := Nat.mul_div_cancel sector (by decide)
  unfold Fat12.readSector Reading.reader
  dsimp only
  rw [place]
  split
  · rename_i isKnown
    rcases Reading.mem_known.mp isKnown with ⟨number, member, same⟩
    rw [Int.ofNat_inj] at same
    exact noted.insert (Or.inl (same ▸ member)) _
  split
  · exact noted
  · rename_i short
    exact noted.insert (Or.inr short) _

theorem Reading.readSectors_eq (start count : ℕ) (state : ReadState Unit) :
    (readSectors reading.reader reading.known 512 start count state).1 =
      (List.range' start count).flatMap reading.chunk := by
  induction count generalizing start state with
  | zero => rfl
  | succ count ih =>
    rw [readSectors, List.range'_succ, List.flatMap_cons, ← Reading.readSector_eq start state, ← ih]

theorem Reading.Noted.readSectors (noted : reading.Noted state) (start count : ℕ) :
    reading.Noted (Fat12.readSectors reading.reader reading.known 512 start count state).2 := by
  induction count generalizing start state with
  | zero => exact noted
  | succ count ih => exact ih (noted.readSector start) (start + 1)

end

/-! ## Copies of the table -/

theorem counts_of_mem {geometry : Fat12Geometry} (member : geometry ∈ supportedGeometries) :
    geometry.fatCount = 2 ∧ geometry.reservedSectors = 1 := by
  have all : ∀ geometry ∈ supportedGeometries,
      geometry.fatCount = 2 ∧ geometry.reservedSectors = 1 := by
    decide
  exact all geometry member

namespace Floppy

variable (floppy : Floppy)

theorem supported : floppy.geometry ∈ supportedGeometries :=
  (detectGeometry_eq_ok floppy.accepted).1

theorem bytesPerSector : floppy.geometry.bytesPerSector = 512 :=
  (Fat12Geometry.supported_of_mem floppy.supported).sectorSize

/-- Both copies hold the table. -/
theorem fat_eq {index : ℕ} (isCopy : index < 2) :
    decodeFat ((Fat12Geometry.fatSectors floppy.geometry index).flatMap floppy.sectors)
      (floppy.geometry.clusterCount + 2) = floppy.fat := by
  have identical := floppy.identical
  unfold Floppy.fat Fat12Geometry.fatSectors
  match index with
  | 0 => rfl
  | 1 =>
    rw [Nat.zero_mul, Nat.one_mul]
    exact congrArg (fun raw => decodeFat raw _) identical.symm

theorem fat_valid : fatHeaderValid floppy.fat floppy.geometry.mediaDescriptor = true := by
  have valid := floppy.headerValid
  unfold Floppy.fat Fat12Geometry.fatSectors
  rwa [Nat.zero_mul, Nat.add_zero]

end Floppy

section

variable {floppy : Floppy} {reading : Reading floppy}

/-- The sectors of the copies are none of the boot sector, the root directory and the clusters. -/
theorem Reading.TouchesOnly.inTable {index : ℕ} (touches : reading.TouchesOnly index)
    (isCopy : index < 2) (unreadable : reading.Unreadable sector) :
    0 < sector ∧ sector < floppy.geometry.rootStart := by
  have within := touches sector unreadable
  unfold Fat12Geometry.fatSectors at within
  rw [List.mem_range'_1] at within
  rcases counts_of_mem floppy.supported with ⟨count, reserved⟩
  have last : index * floppy.geometry.sectorsPerFat ≤ 1 * floppy.geometry.sectorsPerFat :=
    Nat.mul_le_mul_right _ (by omega)
  unfold Fat12Geometry.rootStart
  rw [count]
  omega

theorem Reading.TouchesOnly.disjoint {index other : ℕ} (touches : reading.TouchesOnly index)
    (different : index ≠ other) (within : sector ∈ Fat12Geometry.fatSectors floppy.geometry other) :
    ¬reading.Unreadable sector := by
  intro unreadable
  have inCopy := touches sector unreadable
  unfold Fat12Geometry.fatSectors at inCopy within
  rw [List.mem_range'_1] at inCopy within
  rcases Nat.lt_or_gt_of_ne different with before | after
  · have apart : (index + 1) * floppy.geometry.sectorsPerFat ≤
        other * floppy.geometry.sectorsPerFat := Nat.mul_le_mul_right _ before
    rw [Nat.add_mul, Nat.one_mul] at apart
    omega
  · have apart : (other + 1) * floppy.geometry.sectorsPerFat ≤
        index * floppy.geometry.sectorsPerFat := Nat.mul_le_mul_right _ after
    rw [Nat.add_mul, Nat.one_mul] at apart
    omega

theorem Reading.flatMap_chunk {sectors : List ℕ}
    (readable : ∀ sector ∈ sectors, ¬reading.Unreadable sector) :
    sectors.flatMap reading.chunk = sectors.flatMap floppy.sectors :=
  List.flatMap_congr fun sector member => Reading.chunk_of_readable (readable sector member)

/-- The copy that is not touched is read as it is. -/
theorem Reading.TouchesOnly.fatCopy {index other : ℕ} (touches : reading.TouchesOnly index)
    (different : index ≠ other) (isCopy : other < 2) : reading.fatCopy other = floppy.fat := by
  unfold Reading.fatCopy
  rw [Reading.flatMap_chunk fun sector member => touches.disjoint different member,
    floppy.fat_eq isCopy]

theorem Reading.readFatCopies_eq :
    (readFatCopies reading.reader reading.known floppy.geometry floppy.geometry.fatCount
      ⟨(), reading.known⟩).1 = [(Fat12Geometry.fatSectors floppy.geometry 0).flatMap reading.chunk,
          (Fat12Geometry.fatSectors floppy.geometry 1).flatMap reading.chunk] := by
  rw [(counts_of_mem floppy.supported).1]
  unfold readFatCopies readFatCopies readFatCopies
  dsimp only
  rw [(counts_of_mem floppy.supported).1, floppy.bytesPerSector, Reading.readSectors_eq,
    Reading.readSectors_eq]
  rfl

theorem Reading.noted_readFatCopies :
    reading.Noted (readFatCopies reading.reader reading.known floppy.geometry
      floppy.geometry.fatCount ⟨(), reading.known⟩).2 := by
  have noted : ∀ left (state : ReadState Unit), reading.Noted state →
      reading.Noted (readFatCopies reading.reader reading.known floppy.geometry left state).2 := by
    intro left
    induction left with
    | zero => exact fun state noted => noted
    | succ left ih =>
      intro state noted
      rw [readFatCopies]
      rw [floppy.bytesPerSector]
      exact ih _ (noted.readSectors _ _)
  exact noted _ _ Reading.noted_initial

/-- The first copy is used when its header is valid, and the second one otherwise. -/
theorem Reading.usedFat_eq
    (valid : fatHeaderValid (reading.fatCopy 0) floppy.geometry.mediaDescriptor = true ∨
      fatHeaderValid (reading.fatCopy 1) floppy.geometry.mediaDescriptor = true) :
    reading.usedFat = if fatHeaderValid (reading.fatCopy 0) floppy.geometry.mediaDescriptor then
      reading.fatCopy 0 else reading.fatCopy 1 := by
  unfold Reading.usedFat
  rw [Reading.readFatCopies_eq]
  unfold selectFat
  rw [List.map_cons, List.map_cons, List.map_nil]
  dsimp only
  by_cases first : fatHeaderValid (reading.fatCopy 0) floppy.geometry.mediaDescriptor = true
  · rw [if_pos first]
    unfold Reading.fatCopy at first ⊢
    rw [List.filter_cons_of_pos (by exact first)]
  · rw [if_neg first]
    have second := valid.resolve_left first
    unfold Reading.fatCopy at first second ⊢
    rw [List.filter_cons_of_neg (by exact first), List.filter_cons_of_pos (by exact second)]

end

/-! ## Scans -/

section

variable {geometry : Fat12Geometry} {unreadableSectors : Finset ℤ}

theorem clusterSectors_readable
    (outside : ∀ sector ∈ unreadableSectors, sector < geometry.firstDataSector) {cluster : ℕ}
    (within : sector ∈ clusterSectors geometry cluster) : (sector : ℤ) ∉ unreadableSectors := by
  intro unreadable
  have before := outside _ unreadable
  rw [mem_clusterSectors] at within
  unfold Fat12Geometry.clusterStart at within
  omega

theorem chainHasBadSector_of_outside (outside : ∀ sector ∈ unreadableSectors,
    sector < geometry.firstDataSector) (chain : List ℕ) :
    chainHasBadSector chain geometry unreadableSectors = false := by
  unfold chainHasBadSector
  rw [List.any_eq_false]
  intro cluster _
  rw [List.any_eq_true]
  rintro ⟨sector, within, unreadable⟩
  exact clusterSectors_readable outside within (of_decide_eq_true unreadable)

theorem parseEntries_of_outside (outside : ∀ sector ∈ unreadableSectors,
    sector < geometry.firstDataSector) (root : List UInt8) (fat indices : List ℕ)
    (pendingLfn : List (List UInt8)) :
    parseEntries root geometry fat unreadableSectors indices pendingLfn =
      parseEntries root geometry fat ∅ indices pendingLfn := by
  have entry : ∀ index raw pending, parseEntry index raw pending geometry fat unreadableSectors =
      parseEntry index raw pending geometry fat ∅ := by
    intro index raw pending
    have none : ∀ sector ∈ (∅ : Finset ℤ), sector < (geometry.firstDataSector : ℤ) := fun _ => nofun
    unfold parseEntry
    simp only [chainHasBadSector_of_outside outside, chainHasBadSector_of_outside none]
  induction indices generalizing pendingLfn with
  | nil => rfl
  | cons index rest ih =>
    rw [parseEntries, parseEntries]
    simp only [ih, entry]

theorem readableSectors_of_outside (outside : ∀ sector ∈ unreadableSectors,
    sector < geometry.firstDataSector) (fat : List ℕ) :
    readableSectors fat geometry unreadableSectors = readableSectors fat geometry ∅ := by
  unfold readableSectors
  refine List.flatMap_congr fun cluster _ => ?_
  split
  · rfl
  · refine List.filter_congr fun sector within => ?_
    rw [decide_eq_decide]
    exact iff_of_true (clusterSectors_readable outside within) (Finset.notMem_empty _)

end

section

variable {floppy : Floppy} {reading : Reading floppy}

/-- A scan of a floppy of which only the tables are damaged finds what the table that it uses and
the root directory say. -/
theorem Reading.scan_eq
    (inTable : ∀ sector, reading.Unreadable sector → 0 < sector ∧
      sector < floppy.geometry.rootStart) :
    ∃ result, reading.scan = .ok result ∧
      result.entries = parseRootDirectory ((List.range' floppy.geometry.rootStart
        floppy.geometry.rootDirectorySectors).flatMap floppy.sectors) floppy.geometry
          reading.usedFat ∅ ∧
      freeClusterRanges reading.usedFat floppy.geometry ∅ = .ok result.carveRanges := by
  have bootReadable : ¬reading.Unreadable 0 := fun unreadable =>
    absurd (inTable 0 unreadable).1 (Nat.lt_irrefl 0)
  have boot : reading.reader.readAt 0 512 () = (some (floppy.sectors 0), ()) := by
    unfold Reading.Unreadable at bootReadable
    rw [not_or, not_not] at bootReadable
    rw [← reading.faithful 0 bootReadable.2]
    rfl
  have rootSectors : ∀ sector ∈ List.range' floppy.geometry.rootStart
      floppy.geometry.rootDirectorySectors, ¬reading.Unreadable sector := by
    intro sector member unreadable
    rw [List.mem_range'_1] at member
    have before := inTable sector unreadable
    omega
  rcases isCopies : readFatCopies reading.reader reading.known floppy.geometry
    floppy.geometry.fatCount ⟨(), reading.known⟩ with ⟨copies, state⟩
  rcases isRoot : readSectors reading.reader reading.known floppy.geometry.bytesPerSector
    floppy.geometry.rootStart floppy.geometry.rootDirectorySectors state with ⟨root, last⟩
  rcases exists_scanFat12 reading.reader () floppy.geometry.sizeBytes
    (reading.knownBadSectors.map fun sector : ℕ => (sector : ℤ)) boot (floppy.sectorSize 0)
    floppy.accepted isCopies isRoot with ⟨result, returned, _, entries, free⟩
  have used : reading.usedFat = (selectFat copies floppy.geometry).1 := by
    unfold Reading.usedFat
    rw [isCopies]
  have noted := @Reading.noted_readFatCopies floppy reading
  rw [isCopies] at noted
  have lastNoted := noted.readSectors floppy.geometry.rootStart floppy.geometry.rootDirectorySectors
  have rootRead := @Reading.readSectors_eq floppy reading floppy.geometry.rootStart
    floppy.geometry.rootDirectorySectors state
  rw [floppy.bytesPerSector] at isRoot
  rw [isRoot] at lastNoted rootRead
  dsimp only at entries free lastNoted rootRead
  have before : ∀ sector ∈ last.unreadableSectors, sector < floppy.geometry.firstDataSector := by
    intro sector member
    rcases lastNoted sector member with ⟨number, rfl, unreadable⟩
    have bound := (inTable number unreadable).2
    unfold Fat12Geometry.firstDataSector
    omega
  refine ⟨result, returned, ?_, ?_⟩
  · rw [entries, rootRead, Reading.flatMap_chunk rootSectors, used]
    exact parseEntries_of_outside before _ _ _ _
  · unfold freeClusterRanges at free ⊢
    rw [readableSectors_of_outside before] at free
    rw [used, free]

/-- A floppy of which one copy of the table is damaged is scanned as if it were readable exactly
when the first copy, as it was read, has no valid header or says what the table says. -/
theorem Reading.fallsBack_iff (reading : Reading floppy) {index : ℕ} (isCopy : index < 2)
    (touches : reading.TouchesOnly index) : reading.FallsBack ↔ reading.FirstCopyTells := by
  have used : reading.usedFat =
      if fatHeaderValid (reading.fatCopy 0) floppy.geometry.mediaDescriptor then
        reading.fatCopy 0 else floppy.fat := by
    by_cases first : index = 0
    · have second := touches.fatCopy (by omega : index ≠ 1) (by decide)
      rw [Reading.usedFat_eq (Or.inr (by rw [second, floppy.fat_valid])), second]
    · have whole := touches.fatCopy first (by decide)
      have valid : fatHeaderValid (reading.fatCopy 0) floppy.geometry.mediaDescriptor = true := by
        rw [whole, floppy.fat_valid]
      rw [Reading.usedFat_eq (Or.inl valid), if_pos valid, if_pos valid]
  have table : reading.usedFat = floppy.fat ↔ reading.FirstCopyTells := by
    rw [used]
    unfold Reading.FirstCopyTells
    split
    · rename_i valid
      exact ⟨fun same _ => same, fun same => same valid⟩
    · rename_i broken
      exact ⟨fun _ valid => absurd valid broken, fun _ => rfl⟩
  constructor
  · intro falls
    exact table.mp falls.table
  · intro tells
    have isTable := table.mpr tells
    have readable : ∀ sector, ¬floppy.readable.Unreadable sector := by
      rintro sector (known | short)
      · cases known
      · exact short (floppy.sectorSize sector)
    rcases reading.scan_eq (fun sector => touches.inTable isCopy) with
      ⟨result, returned, entries, free⟩
    rcases floppy.readable.scan_eq (fun sector unreadable => absurd unreadable (readable sector))
      with ⟨complete, returnedToo, entriesToo, freeToo⟩
    have completeTable : floppy.readable.usedFat = floppy.fat := by
      have whole : ∀ copy < 2, floppy.readable.fatCopy copy = floppy.fat := by
        intro copy isCopy
        unfold Reading.fatCopy
        rw [Reading.flatMap_chunk fun sector _ => readable sector, floppy.fat_eq isCopy]
      have valid : fatHeaderValid (floppy.readable.fatCopy 0) floppy.geometry.mediaDescriptor =
          true := by
        rw [whole 0 (by decide), floppy.fat_valid]
      rw [Reading.usedFat_eq (Or.inl valid), if_pos valid, whole 0 (by decide)]
    refine ⟨isTable, result, complete, returned, returnedToo, ?_, ?_⟩
    · rw [entries, entriesToo, isTable, completeTable]
    · rw [isTable] at free
      rw [completeTable, free] at freeToo
      exact Except.ok.inj freeToo

end

/-! ## Damage behind the header -/

/-- The sectors of a floppy of 360 KiB with one file, in cluster 342. -/
def exampleSectors : ℕ → List UInt8
  | 0 => bootSector
  | 1 => [0xFD, 0xFF, 0xFF] ++ List.replicate 509 0
  | 2 => [0x00, 0xFF, 0x0F] ++ List.replicate 509 0
  | 3 => [0xFD, 0xFF, 0xFF] ++ List.replicate 509 0
  | 4 => [0x00, 0xFF, 0x0F] ++ List.replicate 509 0
  | _ => List.replicate 512 0

def exampleFloppy : Floppy where
  geometry := ⟨"360 KiB", 720, 2, 112, 2, 9, 2, 40, 0xFD, 512, 1, 2⟩
  sectors := exampleSectors
  sectorSize sector := by
    unfold exampleSectors
    split
    all_goals decide +kernel
  accepted := eq_ok_of_toOption (by decide +kernel)
  identical := rfl
  headerValid := by decide +kernel

/-- The sector cannot be read. -/
def exampleReading (bad : ℕ) : Reading exampleFloppy where
  knownBadSectors := []
  answer sector := if sector = bad then none else some (exampleSectors sector)
  faithful sector whole := by
    split at whole
    · cases whole
    · rename_i other
      rw [if_neg other]
      rfl

theorem exampleReading_touchesOnly {bad index : ℕ}
    (within : bad ∈ Fat12Geometry.fatSectors exampleFloppy.geometry index) :
    (exampleReading bad).TouchesOnly index := by
  rintro sector (known | short)
  · cases known
  · by_cases isBad : sector = bad
    · rwa [isBad]
    · refine absurd ?_ short
      unfold exampleReading
      dsimp only
      rw [if_neg isBad]
      exact exampleFloppy.sectorSize sector

/-- The second sector of the first copy is lost, and the file with it, although the second copy is
whole. -/
theorem exampleReading_not_fallsBack :
    (exampleReading 2).TouchesOnly 0 ∧ ¬(exampleReading 2).FallsBack := by
  refine ⟨exampleReading_touchesOnly (by decide), fun falls => ?_⟩
  have entry : (exampleReading 2).usedFat[342]? = exampleFloppy.fat[342]? := by rw [falls.table]
  exact absurd entry (by decide +kernel)

theorem exampleReading_fallsBack_iff :
    (exampleReading 1).FallsBack ↔ (exampleReading 1).FirstCopyTells :=
  Reading.fallsBack_iff (exampleReading 1) (by decide : 0 < 2)
    (exampleReading_touchesOnly (by decide))

end Reperio.Fat12
