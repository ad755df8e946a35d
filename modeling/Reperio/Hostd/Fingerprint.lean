import Reperio.Hostd.Identity
import Reperio.Python.Json

/-!
# Sampled fingerprints

`hostd/fingerprint.py`: a source is told from another by its immutable facts and by
the digests of up to three of its sectors, the first, the middle and the last. There
is a fingerprint only when all of them could be read.
-/

namespace Reperio.Hostd.Fingerprint

open Python

def fingerprintSchemaVersion : ℕ := 2

def fingerprintAlgorithm : String := "reperio-sampled-sector-sha256-v2"

def maxSamples : ℕ := 3

def maxSectorSize : ℕ := 16 * 1024 * 1024

/-- An exception: one of the module's own, or one of the interpreter. -/
inductive FingerprintError where
  | valueError (message : String)
  | typeError (message : String)
  | python (error : PyError)
  deriving DecidableEq, Repr

/-! ## Planning -/

/-- An integer of at least the bound, `bool` not counted. -/
def checkedInt (least : ℤ) (message : String) : PyValue → Except FingerprintError ℕ
  | .int value => if value < least then .error (.valueError message) else .ok value.toNat
  | _ => .error (.valueError message)

/-- `_validate_dimensions`: the size and the size of a sector. -/
def validateDimensions (sizeBytes sectorSize : PyValue) : Except FingerprintError (ℕ × ℕ) := do
  let size ← checkedInt 0 "size_bytes must be a non-negative integer" sizeBytes
  let sector ← checkedInt 1 "sector_size must be a positive integer" sectorSize
  if maxSectorSize < sector then throw (.valueError "sector_size exceeds the supported bound")
  else return (size, sector)

def sectorCount (size sector : ℕ) : ℕ := (size + sector - 1) / sector

def sectorIndexes (count : ℕ) : List ℕ :=
  (([0, count / 2, count - 1].dedup).insertionSort (· ≤ ·)).take maxSamples

/-- One sector is added to the ranges so far and their bytes, unless all bytes would be sampled. -/
def planSector (size sector : ℕ) (planned : List (ℕ × ℕ) × ℕ) (index : ℕ) : List (ℕ × ℕ) × ℕ :=
  let offset := index * sector
  let length := min sector (size - offset)
  if 0 < length ∧ planned.2 + length < size then
    (planned.1 ++ [(offset, length)], planned.2 + length)
  else planned

def planRanges (size sector : ℕ) : List (ℕ × ℕ) := if size = 0 then []
  else ((sectorIndexes (sectorCount size sector)).foldl (planSector size sector) ([], 0)).1

def samplePlan (sizeBytes sectorSize : PyValue) : Except FingerprintError (List (ℕ × ℕ)) := do
  let (size, sector) ← validateDimensions sizeBytes sectorSize
  return planRanges size sector

/-! ## Samples -/

/-- What `read_at` does: an `OSError` of a class, bytes, or a value of another type. Another
exception ends the function. -/
inductive ReadResult where
  | raised (error : String)
  | bytes (data : List UInt8)
  | other
  deriving DecidableEq, Repr

/-- What reading one range has given. -/
inductive Sample where
  | unreadable (offset length : ℕ) (error : String)
  | invalidReadResult (offset length : ℕ)
  | overlong (offset length readLength : ℕ)
  | truncated (offset length readLength : ℕ) (sha256 : String)
  | ok (offset length : ℕ) (sha256 : String)
  deriving DecidableEq, Repr

namespace Sample

def isOk : Sample → Bool
  | ok .. => true
  | _ => false

def toDict : Sample → PyDict
  | unreadable offset length error =>
    [(.str "offset", .int offset), (.str "length", .int length), (.str "status", .str "unreadable"),
      (.str "error", .str error)]
  | invalidReadResult offset length =>
    [(.str "offset", .int offset), (.str "length", .int length),
      (.str "status", .str "invalid_read_result")]
  | overlong offset length readLength =>
    [(.str "offset", .int offset), (.str "length", .int length), (.str "status", .str "overlong"),
      (.str "read_length", .int readLength)]
  | truncated offset length readLength sha256 =>
    [(.str "offset", .int offset), (.str "length", .int length), (.str "status", .str "truncated"),
      (.str "read_length", .int readLength), (.str "sha256", .str sha256)]
  | ok offset length sha256 =>
    [(.str "offset", .int offset), (.str "length", .int length), (.str "status", .str "ok"),
      (.str "sha256", .str sha256)]

end Sample

def readSample (runtime : Runtime) (readAt : ℕ → ℕ → ReadResult) (offset length : ℕ) : Sample :=
  match readAt offset length with
  | .raised error => .unreadable offset length error
  | .other => .invalidReadResult offset length
  | .bytes data =>
    if length < data.length then .overlong offset length data.length
    else if data.length ≠ length then
      .truncated offset length data.length (runtime.sha256Hex data)
    else .ok offset length (runtime.sha256Hex data)

/-! ## Fingerprints -/

def immutableFactKeys : List String :=
  ["source_id", "identity_strength", "by_id_name", "vendor", "model", "serial", "wwn", "transport",
    "device_type", "physical_block_size", "removable"]

/-- `_normalize`, the same function as that of the identities. -/
def normalizeFacts (runtime : Runtime) (value : PyValue) : Except FingerprintError PyValue :=
  (normalize runtime.recursionLimit value).mapError .python

/-- The facts that the mapping has, and the two sizes. -/
def chosenFacts (identityFacts : PyDict) (size sector : ℕ) : PyDict :=
  (immutableFactKeys.filterMap fun key =>
      (identityFacts.get? key).map fun value => (PyValue.str key, value)) ++
    [(.str "size_bytes", .int size), (.str "logical_block_size", .int sector)]

def immutableFacts (runtime : Runtime) (identityFacts : PyDict) (size sector : ℕ) :
    Except FingerprintError PyDict := do
  match ← normalizeFacts runtime (.dict (chosenFacts identityFacts size sector)) with
  | .dict facts => return facts
  | _ => throw (.typeError "immutable facts must normalize to an object")

def digestOf (runtime : Runtime) (value : PyValue) : Except FingerprintError String := do
  let normalized ← normalizeFacts runtime value
  let canonical ← (dumps false runtime.recursionLimit normalized).mapError .python
  return runtime.sha256Hex (utf8 canonical)

/-- What the hash is about. -/
def hashedValue (facts : PyDict) (samples : List Sample) : PyValue :=
  .dict [(.str "algorithm", .str fingerprintAlgorithm), (.str "facts", .dict facts),
    (.str "samples", .list (samples.map fun sample => .dict sample.toDict))]

def isComplete (samples : List Sample) : Bool := !samples.isEmpty && samples.all Sample.isOk

def hashOf (runtime : Runtime) (facts : PyDict) (samples : List Sample) :
    Except FingerprintError (Option String) :=
  if isComplete samples then some <$> digestOf runtime (hashedValue facts samples) else pure none

/-- The facts and the hash of a source. -/
structure SampledFingerprint where
  schemaVersion : ℕ := fingerprintSchemaVersion
  algorithm : String := fingerprintAlgorithm
  sizeBytes : ℕ
  sectorSize : ℕ
  sampleCount : ℕ
  complete : Bool
  samples : List Sample
  immutableFacts : PyDict
  fingerprintHash : Option String

/-- The arguments of `fingerprint_from_reader`. -/
structure Source where
  readAt : ℕ → ℕ → ReadResult
  sizeBytes : PyValue
  sectorSize : PyValue
  identityFacts : PyDict

def fingerprintFromReader (runtime : Runtime) (source : Source) :
    Except FingerprintError SampledFingerprint := do
  let (size, sector) ← validateDimensions source.sizeBytes source.sectorSize
  let plan ← samplePlan source.sizeBytes source.sectorSize
  let samples := plan.map fun range => readSample runtime source.readAt range.1 range.2
  let facts ← immutableFacts runtime source.identityFacts size sector
  let fingerprintHash ← hashOf runtime facts samples
  return {
    sizeBytes := size, sectorSize := sector, sampleCount := samples.length
    complete := isComplete samples, samples, immutableFacts := facts, fingerprintHash }

/-! ## The plan -/

variable {size sector : ℕ}

/-- Up to three different sectors or parts of them, in order, that are not the whole source. From
four sectors on they are the first, the middle and the last one. -/
structure IsSamplePlan (size sector : ℕ) (plan : List (ℕ × ℕ)) : Prop where
  atMostThree : plan.length ≤ 3
  inBounds : ∀ range ∈ plan, 0 < range.2 ∧ range.2 ≤ sector ∧ range.1 + range.2 ≤ size
  increasing : plan.Pairwise fun first second => first.1 < second.1 ∧ first.1 + first.2 ≤ second.1
  notWhole : size ≠ 0 → (plan.map Prod.snd).sum < size
  empty : size = 0 → plan = []
  ends : 4 ≤ sectorCount size sector →
    plan = [(0, sector), (sectorCount size sector / 2 * sector, sector),
      ((sectorCount size sector - 1) * sector, size - (sectorCount size sector - 1) * sector)]

/-- What holds while sectors below the bound have been considered. -/
structure Planned (size sector bound : ℕ) (planned : List (ℕ × ℕ) × ℕ) : Prop where
  inBounds : ∀ range ∈ planned.1, 0 < range.2 ∧ range.2 ≤ sector ∧ range.1 + range.2 ≤ size
  below : ∀ range ∈ planned.1, range.1 + range.2 ≤ bound * sector
  increasing : planned.1.Pairwise fun first second =>
    first.1 < second.1 ∧ first.1 + first.2 ≤ second.1
  bytes : (planned.1.map Prod.snd).sum = planned.2
  notWhole : planned.2 < size

theorem Planned.step {bound index : ℕ} {planned : List (ℕ × ℕ) × ℕ}
    (isPlanned : Planned size sector bound planned) (reached : bound ≤ index) :
    Planned size sector (index + 1) (planSector size sector planned index) := by
  have start : bound * sector ≤ index * sector := Nat.mul_le_mul_right sector reached
  have next : (index + 1) * sector = index * sector + sector := Nat.succ_mul index sector
  unfold planSector
  dsimp only
  split
  · rename_i added
    refine ⟨?_, ?_, ?_, ?_, added.2⟩
    · refine List.forall_mem_append.mpr ⟨isPlanned.inBounds, List.forall_mem_singleton.mpr ?_⟩
      dsimp only
      omega
    · refine List.forall_mem_append.mpr ⟨fun range member => ?_, List.forall_mem_singleton.mpr ?_⟩
      · have := isPlanned.below range member
        omega
      · dsimp only
        omega
    · refine List.pairwise_append.mpr ⟨isPlanned.increasing, List.pairwise_singleton _ _, ?_⟩
      rintro range member last isLast
      obtain rfl := List.mem_singleton.mp isLast
      have := isPlanned.below range member
      have := isPlanned.inBounds range member
      dsimp only
      omega
    · rw [List.map_append, List.sum_append, isPlanned.bytes]
      simp
  · refine ⟨isPlanned.inBounds, fun range member => ?_, isPlanned.increasing, isPlanned.bytes,
      isPlanned.notWhole⟩
    have := isPlanned.below range member
    omega

variable {planned : List (ℕ × ℕ) × ℕ}

theorem Planned.run {bound : ℕ} (isPlanned : Planned size sector bound planned) {indexes : List ℕ}
    (increasing : indexes.Pairwise (· < ·)) (reached : ∀ index ∈ indexes, bound ≤ index) :
    ∃ last, Planned size sector last (indexes.foldl (planSector size sector) planned) := by
  induction indexes generalizing bound planned with
  | nil => exact ⟨bound, isPlanned⟩
  | cons index indexes ih =>
    rw [List.pairwise_cons] at increasing
    exact ih (isPlanned.step (reached index List.mem_cons_self)) increasing.2 increasing.1

theorem length_planSectors (size sector : ℕ) (indexes : List ℕ) (planned : List (ℕ × ℕ) × ℕ) :
    (indexes.foldl (planSector size sector) planned).1.length ≤ planned.1.length + indexes.length :=
    by
  induction indexes generalizing planned with
  | nil => exact Nat.le_refl _
  | cons index indexes ih =>
    have short : (planSector size sector planned index).1.length ≤ planned.1.length + 1 := by
      unfold planSector
      dsimp only
      split
      · simp
      · omega
    have := ih (planSector size sector planned index)
    rw [List.foldl_cons, List.length_cons]
    omega

theorem pairwise_sectorIndexes (count : ℕ) : (sectorIndexes count).Pairwise (· < ·) := by
  refine List.Pairwise.sublist (List.take_sublist _ _) ?_
  have distinct : (([0, count / 2, count - 1].dedup).insertionSort (· ≤ ·)).Nodup :=
    (List.perm_insertionSort _ _).nodup_iff.mpr (List.nodup_dedup _)
  exact (List.sortedLE_insertionSort.sortedLT_of_nodup distinct).pairwise

theorem sectorIndexes_of_four {count : ℕ} (four : 4 ≤ count) :
    sectorIndexes count = [0, count / 2, count - 1] := by
  have low : 0 < count / 2 := by omega
  have high : count / 2 < count - 1 := by omega
  have distinct : [0, count / 2, count - 1].Nodup := by
    simp only [List.nodup_cons, List.mem_cons, List.not_mem_nil, or_false, not_false_eq_true,
      List.nodup_nil, and_true]
    omega
  have ordered : [0, count / 2, count - 1].Pairwise (· ≤ ·) := by
    simp only [List.pairwise_cons, List.mem_cons, List.not_mem_nil, or_false, forall_eq_or_imp,
      forall_eq, IsEmpty.forall_iff, implies_true, List.Pairwise.nil, and_true]
    omega
  rw [sectorIndexes, List.Nodup.dedup distinct, List.Pairwise.insertionSort_eq ordered]
  rfl

theorem planSector_of_fits {index length : ℕ}
    (isLength : min sector (size - index * sector) = length) (some : 0 < length)
    (fits : planned.2 + length < size) :
    planSector size sector planned index =
      (planned.1 ++ [(index * sector, length)], planned.2 + length) := by
  rw [planSector, isLength, if_pos ⟨some, fits⟩]

/-- From four sectors on, the first, the middle and the last one are planned. -/
theorem planRanges_of_four (positive : 0 < sector) (four : 4 ≤ sectorCount size sector) :
    planRanges size sector = [(0, sector), (sectorCount size sector / 2 * sector, sector),
      ((sectorCount size sector - 1) * sector, size - (sectorCount size sector - 1) * sector)] := by
  have upper : sectorCount size sector * sector ≤ size + sector - 1 := Nat.div_mul_le_self _ _
  have lower : size + sector - 1 < sectorCount size sector * sector + sector :=
    Nat.lt_div_mul_add positive
  have indexes := sectorIndexes_of_four four
  rw [planRanges, indexes]
  generalize sectorCount size sector = count at *
  rcases Nat.exists_eq_add_of_le four with ⟨more, rfl⟩
  have whole : (4 + more) * sector = 3 * sector + more * sector + sector := by ring
  have last : (4 + more - 1) * sector = 3 * sector + more * sector := by
    rw [show 4 + more - 1 = 3 + more by omega]
    ring
  have middle : (4 + more) / 2 * sector + sector ≤ 3 * sector + more * sector := by
    have := Nat.mul_le_mul_right sector (show (4 + more) / 2 + 1 ≤ 3 + more by omega)
    rw [Nat.add_mul, Nat.add_mul] at this
    omega
  rw [if_neg (by omega), List.foldl_cons, List.foldl_cons, List.foldl_cons, List.foldl_nil,
    planSector_of_fits (by omega : min sector (size - 0 * sector) = sector) positive
    (by dsimp only; omega),
    planSector_of_fits (by omega : min sector (size - (4 + more) / 2 * sector) = sector) positive
      (by dsimp only; omega),
    planSector_of_fits (by omega : min sector (size - (4 + more - 1) * sector) =
      size - (4 + more - 1) * sector) (by omega) (by dsimp only; omega), Nat.zero_mul]
  rfl

theorem isSamplePlan_planRanges (positive : 0 < sector) :
    IsSamplePlan size sector (planRanges size sector) := by
  by_cases isEmpty : size = 0
  · subst isEmpty
    have none : planRanges 0 sector = [] := if_pos rfl
    rw [none]
    refine ⟨Nat.zero_le 3, fun range member => absurd member List.not_mem_nil, .nil,
      fun notEmpty => absurd rfl notEmpty, fun _ => rfl, fun four => ?_⟩
    rw [← planRanges_of_four positive four, none]
  · have start : Planned size sector 0 ([], 0) := by
      refine ⟨fun range member => absurd member List.not_mem_nil,
        fun range member => absurd member List.not_mem_nil, .nil, rfl, Nat.pos_of_ne_zero isEmpty⟩
    rcases start.run (pairwise_sectorIndexes (sectorCount size sector)) fun index _ => Nat.zero_le
        index
      with ⟨last, isPlanned⟩
    have ranges : planRanges size sector = ((sectorIndexes (sectorCount size sector)).foldl
        (planSector size sector) ([], 0)).1 := if_neg isEmpty
    refine ⟨?_, ?_, ?_, fun _ => ?_, fun isZero => absurd isZero isEmpty,
      planRanges_of_four positive⟩
    · have short := length_planSectors size sector (sectorIndexes (sectorCount size sector)) ([], 0)
      have few : (sectorIndexes (sectorCount size sector)).length ≤ maxSamples :=
          List.length_take_le _ _
      rw [ranges]
      exact short.trans (by rw [List.length_nil, Nat.zero_add]; exact few)
    · rw [ranges]
      exact isPlanned.inBounds
    · rw [ranges]
      exact isPlanned.increasing
    · rw [ranges, isPlanned.bytes]
      exact isPlanned.notWhole

end Reperio.Hostd.Fingerprint
