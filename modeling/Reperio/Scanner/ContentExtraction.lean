import Mathlib.Algebra.Order.Group.Nat
import Reperio.Encoding.Chunks
import Reperio.Scanner.FatEntries
import Reperio.Scanner.ReadErrors

/-!
# Extraction of contents

`scanner/content_extraction.py`: what is decided about an entry before its
contents are read, and what is reported of it. The entry names its size and its
extents; they have to agree, as they do for the extents that are made of a FAT
chain that is long enough.
-/

namespace Reperio

open Python Encoding

/-! ## Results -/

/-- What can be said against an extraction. -/
inductive ExtractionWarning where
  | notAllocated
  | metadataOnly
  | extentSizeMismatch
  | sizeLimitExceeded
  | ioError
  | sparseZeroFilled
  -- a warning of the reader
  | read (code : String)
  deriving DecidableEq, Repr

/-- Why an extraction is skipped. -/
inductive ExtractionErrorCode where
  | extentSizeMismatch
  -- the code of a `ScratchStoreError`
  | scratch (code : String)
  -- the name of the class of an `OSError`
  | osError (name : String)
  deriving DecidableEq, Repr

/-- How an extraction ends. -/
inductive ExtractionStatus where
  | complete
  | resumed
  | incomplete
  | skipped
  deriving DecidableEq, Repr

/-- What is reported while content is extracted. -/
inductive ExtractionCheckpoint where
  | status (entryId : PyStr) (status : ExtractionWarning)
  | extent (entryId : PyStr) (extentIndex : ℕ)

/-- What is known of contents that are in the scratch store. -/
structure StoredContent where
  sizeBytes : ℤ
  sha256 : PyStr

/-- What an extraction returns. -/
structure ExtractionResult where
  entryId : PyStr
  status : ExtractionStatus
  sizeBytes : ℤ
  sha256 : Option PyStr
  scratchObject : Option StoredContent
  warnings : List ExtractionWarning := []
  errorCode : Option ExtractionErrorCode := none
  checkpoint : Option ExtractionCheckpoint := none
  readCounters : Option ReadCounters := none

/-! ## Extraction -/

/-- Where stored content comes from. -/
structure Provenance where
  entryId : PyStr
  volumeId : PyStr
  objectId : PyStr
  pathSha256 : String

/-- What the scratch store raises. -/
inductive StoreError where
  | scratchStoreError (code : String)
  | osError (name : String)
  -- what nothing catches
  | raised (error : PyError)

/-- What an extraction raises. -/
inductive ExtractionError where
  | contentExtractionError (code message : String)
  | raised (error : PyError)
  | store (error : StoreError)

/-- What the extraction works with: the store takes the contents of extents as the reader gives
them, and a resilient reader tells in the end how it went. -/
structure ExtractionTools (State : Type) where
  putBytes : List Extent → Provenance → ℕ → State → Except StoreError StoredContent × State
  readReport : Option (State → ReadCounters × List String)
  sha256Hex : List UInt8 → String

namespace ExtractionTools

variable {State : Type} (tools : ExtractionTools State)

def readCounters (state : State) : Option ReadCounters :=
  tools.readReport.map fun report => (report state).1

def readWarnings (state : State) : List ExtractionWarning :=
  (tools.readReport.elim [] fun report => (report state).2).map .read

def provenance (entry : NormalizedEntry) : Provenance where
  entryId := entry.entryId
  volumeId := entry.volumeId
  objectId := entry.objectId
  pathSha256 := tools.sha256Hex entry.rawPathBytes

end ExtractionTools

def sumExtentLengths (extents : List Extent) : ℕ := (extents.map Extent.lengthBytes).sum

def skipped (entry : NormalizedEntry) (code : ExtractionWarning) : ExtractionResult where
  entryId := entry.entryId
  status := .skipped
  sizeBytes := 0
  sha256 := none
  scratchObject := none
  warnings := [code]
  checkpoint := some (.status entry.entryId code)

def sparseWarnings (extents : List Extent) : List ExtractionWarning :=
  if extents.any Extent.sparse then [.sparseZeroFilled] else []

/-- `(resume_checkpoint or {}).get("extent_index", 0)`. -/
def resumeIndex (entry : NormalizedEntry) (resumeCheckpoint : PyDict) : Except ExtractionError ℕ :=
  match (PyDict.get? resumeCheckpoint "extent_index").getD (.int 0) with
  | .int (.ofNat index) =>
    if index < entry.extents.length then .ok index
    else .error (.contentExtractionError "invalid_checkpoint" "resume extent checkpoint is invalid")
  | _ => .error (.contentExtractionError "invalid_checkpoint" "resume extent checkpoint is invalid")

section Extraction

variable {State : Type} (tools : ExtractionTools State) (entry : NormalizedEntry)

/-- The contents are stored, from the extent of the checkpoint on. -/
def storeExtents (expectedSize startExtent : ℕ) (state : State) :
    Except ExtractionError ExtractionResult × State :=
  let (answer, state) := tools.putBytes (entry.extents.drop startExtent) (tools.provenance entry)
    (expectedSize - sumExtentLengths (entry.extents.take startExtent)) state
  let failed (code : ExtractionErrorCode) : ExtractionResult :=
    { entryId := entry.entryId
      status := .incomplete
      sizeBytes := 0
      sha256 := none
      scratchObject := none
      warnings := [.ioError]
      errorCode := some code
      checkpoint := some (.extent entry.entryId startExtent)
      readCounters := tools.readCounters state }
  match answer with
  | .ok content =>
    (.ok {
      entryId := entry.entryId
      status := if startExtent = 0 then .complete else .resumed
      sizeBytes := content.sizeBytes
      sha256 := some content.sha256
      scratchObject := some content
      warnings := sparseWarnings entry.extents ++ tools.readWarnings state
      readCounters := tools.readCounters state }, state)
  | .error (.scratchStoreError code) => (.ok (failed (.scratch code)), state)
  | .error (.osError name) => (.ok (failed (.osError name)), state)
  | .error (.raised error) => (.error (.raised error), state)

/-- An entry with nothing to read is stored as it is. -/
def storeNothing (state : State) : Except ExtractionError ExtractionResult × State :=
  let (answer, state) := tools.putBytes [] (tools.provenance entry) 0 state
  match answer with
  | .ok content =>
    (.ok {
      entryId := entry.entryId
      status := .complete
      sizeBytes := 0
      sha256 := some content.sha256
      scratchObject := some content }, state)
  | .error error => (.error (.store error), state)

def extractAllocatedContent (maxSizeBytes : PyValue) (resumeCheckpoint : PyDict) (state : State) :
    Except ExtractionError ExtractionResult × State :=
  match maxSizeBytes with
  | .int limit =>
    if limit ≤ 0 then
      (.error (.contentExtractionError "invalid_limit" "maximum extraction size must be positive"),
        state)
    else if !entry.allocated then (.ok (skipped entry .notAllocated), state)
    else if entry.entryType ∉ [.file, .deleted] then (.ok (skipped entry .metadataOnly), state)
    else if entry.sizeBytes = some 0 then storeNothing tools entry state
    else if entry.extents.isEmpty then (.ok (skipped entry .metadataOnly), state)
    else
      let extentSize := sumExtentLengths entry.extents
      let expectedSize := entry.sizeBytes.getD extentSize
      if expectedSize ≠ extentSize then
        (.ok {
          entryId := entry.entryId
          status := .incomplete
          sizeBytes := 0
          sha256 := none
          scratchObject := none
          warnings := [.extentSizeMismatch]
          errorCode := some .extentSizeMismatch
          checkpoint := some (.status entry.entryId .extentSizeMismatch) }, state)
      else if limit < expectedSize then (.ok (skipped entry .sizeLimitExceeded), state)
      else
        match resumeIndex entry resumeCheckpoint with
        | .ok startExtent => storeExtents tools entry expectedSize startExtent state
        | .error error => (.error error, state)
  | _ =>
    (.error (.contentExtractionError "invalid_limit" "maximum extraction size must be positive"),
      state)

end Extraction

/-! ## Extents of a chain -/

/-- The bytes of the source that an extent stands for. -/
def Extent.positions (extent : Extent) : List ℕ := List.range' extent.offsetBytes extent.lengthBytes

variable {chain : List ℕ} {entry : NormalizedEntry}

namespace FatEntries

/-- The bytes of the source that are the clusters of a chain, one after the other. -/
def chainPositions (clusterSize dataOffset : ℕ) (chain : List ℕ) : List ℕ :=
  chain.flatMap fun cluster => List.range' (dataOffset + (cluster - 2) * clusterSize) clusterSize

/-- The extents are the first bytes of the chain, all of them where the size is not known. -/
structure Covers (clusterSize dataOffset : ℕ) (chain : List ℕ) (size : Option ℕ)
    (extents : List Extent) : Prop where
  nonempty : ∀ extent ∈ extents, 0 < extent.lengthBytes
  inOrder : extents.flatMap Extent.positions =
    size.elim (chainPositions clusterSize dataOffset chain) fun size =>
      (chainPositions clusterSize dataOffset chain).take size
  total : sumExtentLengths extents =
    size.elim (chain.length * clusterSize) fun size => min size (chain.length * clusterSize)

def sizeValue (size : Option ℕ) : PyValue := size.elim .none fun size => .int size

section Covers

variable {clusterSize : ℕ} (dataOffset : ℕ) (positive : 0 < clusterSize)
include positive

/-- The extent of the first cluster, as long as bytes remain. -/
theorem Covers.cons {chain : List ℕ} {size : Option ℕ} {extents : List Extent} (cluster : ℕ)
    (remains : size ≠ some 0)
    (covers : Covers clusterSize dataOffset chain
      (size.map fun left => left - size.elim clusterSize fun left => min clusterSize left)
        extents) :
    Covers clusterSize dataOffset (cluster :: chain) size
      ({ offsetBytes := dataOffset + (cluster - 2) * clusterSize
         lengthBytes := size.elim clusterSize fun left => min clusterSize left } :: extents) := by
  cases size with
  | none =>
    refine ⟨List.forall_mem_cons.mpr ⟨positive, covers.nonempty⟩, ?_, ?_⟩
    · have later := covers.inOrder
      simp only [Option.map_none, Option.elim_none] at later ⊢
      rw [List.flatMap_cons, later, chainPositions, chainPositions, List.flatMap_cons]
      rfl
    · have later := covers.total
      simp only [Option.map_none, Option.elim_none, sumExtentLengths] at later ⊢
      rw [List.map_cons, List.sum_cons, later, List.length_cons, Nat.succ_mul, Nat.add_comm]
  | some left =>
    have some_left : left ≠ 0 := fun isZero => remains (congrArg some isZero)
    simp only [Option.map_some, Option.elim_some] at covers ⊢
    refine ⟨List.forall_mem_cons.mpr ⟨?_, covers.nonempty⟩, ?_, ?_⟩
    · change 0 < min clusterSize left
      omega
    · have later := covers.inOrder
      have rest : left - min clusterSize left = left - clusterSize := by omega
      simp only [Option.elim_some] at later ⊢
      rw [List.flatMap_cons, later, chainPositions, chainPositions, List.flatMap_cons,
        List.take_append, List.length_range', rest]
      congr 1
      change List.range' _ (min clusterSize left) = _
      rcases Nat.le_total clusterSize left with whole | part
      · rw [Nat.min_eq_left whole, List.take_range'_of_length_le whole]
      · rw [Nat.min_eq_right part, List.take_range'_of_length_ge part]
    · have later := covers.total
      simp only [Option.elim_some, sumExtentLengths] at later ⊢
      rw [List.map_cons, List.sum_cons, later, List.length_cons, Nat.succ_mul]
      change min clusterSize left + _ = _
      omega

theorem extentsFrom_covers (clusters : ∀ cluster ∈ chain, 2 ≤ cluster) (size : Option ℕ) :
    ∃ extents, extentsFrom clusterSize dataOffset size (linksOf chain) = .ok extents ∧
      Covers clusterSize dataOffset chain size extents := by
  induction chain generalizing size with
  | nil =>
    refine ⟨[], rfl, nofun, ?_, ?_⟩
    · cases size <;> simp [chainPositions]
    · cases size <;> simp [sumExtentLengths]
  | cons cluster chain ih =>
    rcases List.forall_mem_cons.mp clusters with ⟨isCluster, clusters⟩
    have inData : ¬(cluster : ℤ) < 2 := by omega
    by_cases remains : size = some 0
    · refine ⟨[], ?_, nofun, ?_, ?_⟩
      · rw [linksOf, List.map_cons, extentsFrom, if_neg inData, if_pos remains]
      · simp [remains]
      · simp [remains, sumExtentLengths]
    · rcases ih clusters
        (size.map fun left => left - size.elim clusterSize fun left => min clusterSize left) with
        ⟨extents, areExtents, covers⟩
      refine ⟨_, ?_, covers.cons dataOffset positive cluster remains⟩
      rw [linksOf] at areExtents
      rw [linksOf, List.map_cons, extentsFrom, if_neg inData, if_neg remains]
      dsimp only
      rw [areExtents]
      rfl

theorem clusterExtents_covers (clusters : ∀ cluster ∈ chain, 2 ≤ cluster) (size : Option ℕ) :
    ∃ extents, clusterExtents (linksOf chain) (.int clusterSize) (.int dataOffset)
        (sizeValue size) = .ok extents ∧ Covers clusterSize dataOffset chain size extents := by
  have geometry : fatGeometry? (.int clusterSize) (.int dataOffset) (sizeValue size) =
      some ⟨clusterSize, dataOffset, size, positive⟩ := by
    cases size <;> exact dif_pos positive
  rw [clusterExtents, geometry]
  exact extentsFrom_covers dataOffset positive clusters size

/-- A chain with the clusters for a size is covered up to that size. -/
theorem Covers.total_eq {size : ℕ} {extents : List Extent}
    (covers : Covers clusterSize dataOffset chain (some size) extents)
    (enough : chunkCount clusterSize size ≤ chain.length) : sumExtentLengths extents = size := by
  have total := covers.total
  rw [chunkCount_le_iff positive] at enough
  rw [Option.elim_some] at total
  omega

end Covers

end FatEntries

/-! ## Sizes that agree -/

/-- Whatever it is extracted with, no entry like this is found to contradict itself. -/
def NeverMismatches (entry : NormalizedEntry) : Prop :=
  ∀ (State : Type) (tools : ExtractionTools State) (maxSizeBytes : PyValue)
    (resumeCheckpoint : PyDict) (state : State) (result : ExtractionResult),
    (extractAllocatedContent tools entry maxSizeBytes resumeCheckpoint state).1 = .ok result →
      result.errorCode ≠ some .extentSizeMismatch ∧ .extentSizeMismatch ∉ result.warnings

theorem storeExtents_mismatch {State : Type} (tools : ExtractionTools State)
    (entry : NormalizedEntry) (expectedSize startExtent : ℕ) (state : State)
    {result : ExtractionResult}
    (returned : (storeExtents tools entry expectedSize startExtent state).1 = .ok result) :
    result.errorCode ≠ some .extentSizeMismatch ∧ .extentSizeMismatch ∉ result.warnings := by
  unfold storeExtents at returned
  dsimp only at returned
  split at returned
  · rw [← Except.ok.inj returned]
    refine ⟨nofun, ?_⟩
    rw [List.mem_append, not_or, sparseWarnings, ExtractionTools.readWarnings]
    constructor
    · split <;> simp
    · simp
  · rw [← Except.ok.inj returned]
    exact ⟨by simp, by simp⟩
  · rw [← Except.ok.inj returned]
    exact ⟨by simp, by simp⟩
  · cases returned

theorem neverMismatches_of_virtual (isVirtual : entry.entryType = .virtualEntry) :
    NeverMismatches entry := by
  intro State tools maxSizeBytes resumeCheckpoint state result returned
  unfold extractAllocatedContent at returned
  split at returned
  · split at returned
    · cases returned
    split at returned
    · cases returned
      exact ⟨nofun, by simp [skipped]⟩
    · rw [if_pos (by simp [isVirtual])] at returned
      cases returned
      exact ⟨nofun, by simp [skipped]⟩
  · cases returned

/-- An entry whose extents are as long as its size says does not contradict itself. -/
theorem neverMismatches_of_total
    (agree : ∀ size, entry.sizeBytes = some size → sumExtentLengths entry.extents = size) :
    NeverMismatches entry := by
  have same : entry.sizeBytes.getD (sumExtentLengths entry.extents) =
      sumExtentLengths entry.extents := by
    cases isSize : entry.sizeBytes with
    | none => rfl
    | some size => exact (agree size isSize).symm
  intro State tools maxSizeBytes resumeCheckpoint state result returned
  unfold extractAllocatedContent at returned
  split at returned
  · split at returned
    · cases returned
    split at returned
    · cases returned
      exact ⟨nofun, by simp [skipped]⟩
    split at returned
    · cases returned
      exact ⟨nofun, by simp [skipped]⟩
    split at returned
    · unfold storeNothing at returned
      dsimp only at returned
      split at returned
      · cases returned
        exact ⟨nofun, nofun⟩
      · cases returned
    split at returned
    · cases returned
      exact ⟨nofun, by simp [skipped]⟩
    · dsimp only at returned
      rw [same, if_neg (not_not_intro rfl)] at returned
      split at returned
      · cases returned
        exact ⟨nofun, by simp [skipped]⟩
      · split at returned
        · exact storeExtents_mismatch tools entry _ _ state returned
        · cases returned
  · cases returned

namespace FatEntries

/-- The entry was enriched with the chain, in clusters of the given size and place. -/
def IsEnrichedWith (clusterSize dataOffset : ℕ) (chain : List ℕ) (size : Option ℕ)
    (enriched : NormalizedEntry) : Prop :=
  ∃ entry facts details, enrichFatEntry entry facts = .ok (enriched, details) ∧
    details.clusterChain = chain ∧ entry.sizeBytes = size ∧
    facts.clusterSizeBytes = .int clusterSize ∧ facts.dataOffsetBytes = .int dataOffset

/-- The extents of a chain are its first bytes, and they agree with the size of an entry that is
enriched with them when the chain has the clusters for it. -/
theorem fatExtents_agree {clusterSize : ℕ} (positive : 0 < clusterSize) (dataOffset : ℕ)
    {chain : List ℕ} (clusters : ∀ cluster ∈ chain, 2 ≤ cluster) (size : Option ℕ) :
    ∃ extents, clusterExtents (linksOf chain) (.int clusterSize) (.int dataOffset)
        (sizeValue size) = .ok extents ∧
      Covers clusterSize dataOffset chain size extents ∧
      ((∀ bytes, size = some bytes → chunkCount clusterSize bytes ≤ chain.length) →
        (∀ entry : NormalizedEntry, entry.extents = extents → entry.sizeBytes = size →
          NeverMismatches entry) ∧
        ∀ enriched, IsEnrichedWith clusterSize dataOffset chain size enriched →
          NeverMismatches enriched) := by
  rcases clusterExtents_covers dataOffset positive clusters size with ⟨extents, areExtents, covers⟩
  refine ⟨extents, areExtents, covers, fun enough => ?_⟩
  have agree (entry : NormalizedEntry) (hasExtents : entry.extents = extents)
      (hasSize : entry.sizeBytes = size) : NeverMismatches entry := by
    apply neverMismatches_of_total
    intro bytes isSize
    have isBytes := hasSize.symm.trans isSize
    rw [isBytes] at covers
    rw [hasExtents]
    exact covers.total_eq dataOffset positive (enough bytes isBytes)
  refine ⟨agree, ?_⟩
  rintro enriched ⟨entry, facts, details, returned, isChain, hasSize, isClusterSize, isDataOffset⟩
  rcases enrichFatEntry_eq_ok returned with
    ⟨normalized, _, clusterChain, _, areFacts, sameSize, sameType⟩
  cases label : cleanName facts.volumeLabel with
  | none =>
    rw [factExtents, label, Option.isSome_none, if_neg Bool.false_ne_true, ← clusterChain, isChain,
      isClusterSize, isDataOffset, hasSize] at areFacts
    have same := areExtents.symm.trans areFacts
    exact agree enriched (Except.ok.inj same).symm (sameSize.trans hasSize)
  | some name =>
    apply neverMismatches_of_virtual
    rw [sameType, if_pos]
    cases isLabel : facts.volumeLabel with
    | none =>
      rw [isLabel] at label
      cases label
    | some text =>
      rw [isLabel] at label
      cases text with
      | nil => cases label
      | cons point text => rfl

/-- A file of 700 bytes in two clusters. -/
theorem fatExtents_agree_sample :
    ∃ extents, clusterExtents (linksOf [2, 3]) (.int 512) (.int 4096) (sizeValue (some 700)) =
        .ok extents ∧
      Covers 512 4096 [2, 3] (some 700) extents ∧
      ∀ entry : NormalizedEntry, entry.extents = extents → entry.sizeBytes = some 700 →
        NeverMismatches entry := by
  rcases fatExtents_agree (by decide : 0 < 512) 4096
      (by decide : ∀ cluster ∈ [2, 3], 2 ≤ cluster) (some 700) with
    ⟨extents, areExtents, covers, agree⟩
  refine ⟨extents, areExtents, covers, (agree ?_).left⟩
  intro bytes isSize
  rw [← Option.some.inj isSize]
  decide

end FatEntries

end Reperio
