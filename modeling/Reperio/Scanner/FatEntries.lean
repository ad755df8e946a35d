import Reperio.Hostd.StorageInspection
import Reperio.Scanner.Fat12

/-!
# FAT entries

`scanner/fat_entries.py`: what is known of an entry of a FAT12, FAT32 or exFAT
file system is added to it, with the clusters of its contents. One routine reads
the chains of all three, whose entries are of different widths.
-/

namespace Reperio

open Python

/-! ## Normalized entries -/

/-- The types of directory entries. -/
inductive EntryType where
  | file
  | directory
  | symlink
  -- `virtual`
  | virtualEntry
  | unknown
  | deleted
  deriving DecidableEq, Repr

/-- A time as the entry holds it. -/
structure RawTimestamp where
  value : Option PyStr
  timezoneState : String

/-- `NormalizedEntry` of `scanner/entry_normalization.py`, which refuses negative sizes and extents.
-/
structure NormalizedEntry where
  entryId : PyStr
  volumeId : PyStr
  objectId : PyStr
  rawPathBytes : List UInt8
  displayPath : PyStr
  displayName : PyStr
  entryType : EntryType
  attributes : List String
  sizeBytes : Option ℕ
  allocated : Bool
  rawTimestamps : List (PyStr × RawTimestamp)
  extents : List Extent
  warnings : List String

variable {maxClusters : ℕ} {normalized : List ℕ}

namespace FatEntries

/-- The supported filesystems. -/
inductive FatFilesystem where
  | fat12
  | fat32
  | exfat
  deriving DecidableEq, Repr

def FatFilesystem.name : FatFilesystem → String
  | .fat12 => "fat12"
  | .fat32 => "fat32"
  | .exfat => "exfat"

def fatFilesystem? : PyValue → Option FatFilesystem
  | .text points =>
    [FatFilesystem.fat12, .fat32, .exfat].find? fun filesystem =>
      points = .ofString filesystem.name
  | _ => none

/-! ## Chains -/

/-- How a chain ends. -/
inductive ChainStatus where
  | empty
  | complete
  | corrupt
  | truncated
  deriving DecidableEq, Repr

def ChainStatus.name : ChainStatus → String
  | .empty => "empty"
  | .complete => "complete"
  | .corrupt => "corrupt"
  | .truncated => "truncated"

/-- A chain up to where it can be followed. -/
structure NormalizedChain where
  clusters : List ℕ
  status : ChainStatus
  warnings : List String
  deriving DecidableEq, Repr

/-- `cluster in END_OF_CHAIN`. -/
def isEndOfChain (cluster : ℤ) : Bool :=
  decide (0xFF8 ≤ cluster ∧ cluster < 0x1000 ∨ 0x0FFFFFF8 ≤ cluster ∧ cluster < 0x10000000 ∨
    cluster = 0xFFFFFFFF)

/-- `cluster in BAD_CLUSTER`. -/
def isBadCluster (cluster : ℤ) : Bool :=
  decide (cluster = 0xFF7 ∨ cluster = 0x0FFFFFF7 ∨ cluster = 0xFFFFFFF7)

/-- The loop of `normalize_cluster_chain`, with the clusters found so far. -/
def normalizeLinks (maxClusters : ℕ) : List ℕ → List PyValue → NormalizedChain
  | normalized, [] =>
    if normalized.isEmpty then ⟨[], .empty, []⟩
    else ⟨normalized, .complete, ["fat_chain_end_unknown"]⟩
  | normalized, .int cluster :: links =>
    if isEndOfChain cluster then ⟨normalized, .complete, []⟩
    else if isBadCluster cluster ∨ cluster < 2 then ⟨normalized, .corrupt, ["fat_bad_cluster"]⟩
    else if cluster.toNat ∈ normalized then
      ⟨normalized, .corrupt, ["fat_cluster_loop_bounded"]⟩
    else if maxClusters ≤ normalized.length then
      ⟨normalized, .truncated, ["fat_cluster_chain_bounded"]⟩
    else normalizeLinks maxClusters (normalized ++ [cluster.toNat]) links
  | normalized, _ :: _ => ⟨normalized, .corrupt, ["fat_invalid_cluster"]⟩

def normalizeClusterChain (chain maxClusters : PyValue) : Except PyError NormalizedChain :=
  match maxClusters with
  | .int limit =>
    if limit ≤ 0 then .error .valueError
    else
      match chain with
      | .list links => .ok (normalizeLinks limit.toNat [] links)
      | _ => .ok ⟨[], .corrupt, ["fat_malformed_cluster_chain"]⟩
  | _ => .error .valueError

/-! ## Extents -/

/-- Where clusters lie. -/
structure FatGeometry where
  clusterSizeBytes : ℕ
  dataOffsetBytes : ℕ
  sizeBytes : Option ℕ
  positive : 0 < clusterSizeBytes

def fatGeometry? (clusterSizeBytes dataOffsetBytes sizeBytes : PyValue) : Option FatGeometry :=
  match clusterSizeBytes, dataOffsetBytes with
  | .int (.ofNat clusterSize), .int (.ofNat dataOffset) =>
    if positive : 0 < clusterSize then
      match sizeBytes with
      | .none => some ⟨clusterSize, dataOffset, none, positive⟩
      | .int (.ofNat size) => some ⟨clusterSize, dataOffset, some size, positive⟩
      | _ => none
    else none
  | _, _ => none

/-- The loop of `cluster_extents`, with the bytes that remain if the size is known. -/
def extentsFrom (clusterSizeBytes dataOffsetBytes : ℕ) :
    Option ℕ → List PyValue → Except PyError (List Extent)
  | _, [] => .ok []
  | remaining, .int cluster :: chain =>
    if cluster < 2 then .error .valueError
    else if remaining = some 0 then .ok []
    else do
      let length := remaining.elim clusterSizeBytes fun left => min clusterSizeBytes left
      let later ← extentsFrom clusterSizeBytes dataOffsetBytes
        (remaining.map fun left => left - length) chain
      return { offsetBytes := dataOffsetBytes + (cluster.toNat - 2) * clusterSizeBytes
               lengthBytes := length } :: later
  | _, _ :: _ => .error .valueError

def clusterExtents (chain : List PyValue)
    (clusterSizeBytes dataOffsetBytes sizeBytes : PyValue) : Except PyError (List Extent) :=
  match fatGeometry? clusterSizeBytes dataOffsetBytes sizeBytes with
  | some geometry =>
    extentsFrom geometry.clusterSizeBytes geometry.dataOffsetBytes geometry.sizeBytes chain
  | none => .error .valueError

/-! ## Names and times -/

/-- `_clean_name`: single blanks between words, 255 characters at most. -/
def cleanName (value : Option PyStr) : Option PyStr := do
  let cleaned := [CodePoint.ofChar ' '].intercalate (Hostd.words ((← value).filter fun point =>
    point.val ≠ 0))
  if cleaned.isEmpty then none else some (cleaned.take 255)

def cleanFirstCluster : PyValue → Option ℕ × List String
  | .none => (none, [])
  | .int (.ofNat cluster) => (some cluster, [])
  | _ => (none, ["fat_invalid_first_cluster"])

/-- One item of `timestamp_fields`. -/
def cleanTimestamp : PyValue × PyValue → Option (PyStr × PyStr)
  | (.text name, .text value) => some (name, value)
  | _ => none

def cleanTimestamps : PyValue → List (PyStr × PyStr) × List String
  | .none => ([], [])
  | .dict fields =>
    (fields.filterMap cleanTimestamp,
      if fields.all fun field => (cleanTimestamp field).isSome then []
      else ["fat_malformed_timestamp_fields"])
  | _ => ([], ["fat_malformed_timestamp_fields"])

def fatTimestamps (fields : List (PyStr × PyStr)) : List (PyStr × RawTimestamp) :=
  fields.map fun field => (field.1, ⟨some field.2, "local_ambiguous"⟩)

/-- `{**existing, **added}`. -/
def mergeTimestamps (existing added : List (PyStr × RawTimestamp)) : List (PyStr × RawTimestamp) :=
  existing.map (fun field => (field.1, (added.lookup field.1).getD field.2)) ++
    added.filter fun field => (existing.lookup field.1).isNone

def timezoneState (existing : List (PyStr × RawTimestamp)) (fields : List (PyStr × PyStr)) :
    String :=
  if !fields.isEmpty then "local_ambiguous"
  else (existing.head?.map fun field => field.2.timezoneState).getD "missing"

def isFragmented (chain : List ℕ) : Bool :=
  (chain.zip chain.tail).any fun pair => pair.2 ≠ pair.1 + 1

/-- The path with another last component. -/
def displayPathWithName (path : PyStr) : Option PyStr → PyStr
  | none => path
  | some name =>
    let slash := CodePoint.ofChar '/'
    if slash ∈ path then (path.reverse.dropWhile fun point => point ≠ slash).reverse ++ name
    else name

/-! ## Entries -/

/-- What is told of an entry beside its name. -/
structure FatEntryDetails where
  filesystem : FatFilesystem
  shortName : Option PyStr
  longName : Option PyStr
  volumeLabel : Option PyStr
  firstCluster : Option ℕ
  clusterChain : List ℕ
  chainStatus : ChainStatus
  timezoneState : String
  warnings : List String

/-- The keyword arguments of `enrich_fat_entry`. -/
structure FatFacts where
  filesystem : PyValue
  shortName : Option PyStr := none
  longName : Option PyStr := none
  volumeLabel : Option PyStr := none
  firstCluster : PyValue := .none
  clusterChain : PyValue := .list []
  clusterSizeBytes : PyValue := .int 4096
  dataOffsetBytes : PyValue := .int 0
  maxClusters : PyValue := .int 4096
  timestampFields : PyValue := .none

def linksOf (clusters : List ℕ) : List PyValue := clusters.map fun cluster : ℕ => .int cluster

/-- A label has no contents. -/
def factExtents (entry : NormalizedEntry) (facts : FatFacts) (chain : List ℕ) :
    Except PyError (List Extent) :=
  if (cleanName facts.volumeLabel).isSome then .ok []
  else clusterExtents (linksOf chain) facts.clusterSizeBytes
    facts.dataOffsetBytes (entry.sizeBytes.elim .none fun size => .int size)

def fatAttributes (entry : NormalizedEntry) (facts : FatFacts) (filesystem : FatFilesystem)
    (chain : NormalizedChain) : List String :=
  entry.attributes ++ [filesystem.name] ++ (if entry.allocated then [] else ["deleted_entry"]) ++
    (if (cleanName facts.longName).any fun name => name ≠ entry.displayName then ["fat_long_name"]
      else []) ++
    (if (cleanName facts.shortName).isSome then ["fat_short_name"] else []) ++
    (if (cleanName facts.volumeLabel).isSome then ["volume_label"] else []) ++
    (if chain.status = .empty then [] else ["cluster_chain:" ++ chain.status.name]) ++
    if isFragmented chain.clusters then ["cluster_chain:fragmented"] else []

def enrichFatEntry (entry : NormalizedEntry) (facts : FatFacts) :
    Except PyError (NormalizedEntry × FatEntryDetails) := do
  match fatFilesystem? facts.filesystem with
  | none => throw .valueError
  | some filesystem =>
    let chain ← normalizeClusterChain facts.clusterChain facts.maxClusters
    let longName := cleanName facts.longName
    let (firstCluster, clusterWarnings) := cleanFirstCluster facts.firstCluster
    let (timestamps, timestampWarnings) := cleanTimestamps facts.timestampFields
    let ambiguous := if timestamps.isEmpty then [] else ["fat_timestamp_timezone_ambiguous"]
    let extents ← factExtents entry facts chain.clusters
    let mismatch := !chain.clusters.isEmpty && entry.sizeBytes.any fun size =>
      decide ((extents.map Extent.lengthBytes).sum ≠ size)
    return (
      { entry with
        displayPath := displayPathWithName entry.displayPath longName
        displayName := longName.getD entry.displayName
        entryType := if facts.volumeLabel.any fun label => !label.isEmpty then .virtualEntry
          else entry.entryType
        attributes := (fatAttributes entry facts filesystem chain).eraseDups
        rawTimestamps := mergeTimestamps entry.rawTimestamps (fatTimestamps timestamps)
        extents
        warnings := (entry.warnings ++ chain.warnings ++ clusterWarnings ++ timestampWarnings ++
          ambiguous ++
          (if isFragmented chain.clusters then ["fat_cluster_chain_fragmented"] else []) ++
          if mismatch then ["fat_extent_size_mismatch"] else []).eraseDups },
      { filesystem
        shortName := cleanName facts.shortName
        longName
        volumeLabel := cleanName facts.volumeLabel
        firstCluster
        clusterChain := chain.clusters
        chainStatus := chain.status
        timezoneState := FatEntries.timezoneState entry.rawTimestamps timestamps
        warnings := (chain.warnings ++ timestampWarnings ++ ambiguous).eraseDups })

/-- The chain that an entry is given is the normalized one, whatever the file system. -/
theorem enrichFatEntry_eq_ok {entry enriched : NormalizedEntry} {facts : FatFacts}
    {details : FatEntryDetails} (returned : enrichFatEntry entry facts = .ok (enriched, details)) :
    ∃ chain, normalizeClusterChain facts.clusterChain facts.maxClusters = .ok chain ∧
      details.clusterChain = chain.clusters ∧ details.chainStatus = chain.status ∧
      factExtents entry facts chain.clusters = .ok enriched.extents ∧
      enriched.sizeBytes = entry.sizeBytes ∧
      enriched.entryType = if facts.volumeLabel.any fun label => !label.isEmpty then .virtualEntry
        else entry.entryType := by
  unfold enrichFatEntry at returned
  split at returned
  · cases returned
  rcases bind_eq_ok returned with ⟨chain, isChain, returned⟩
  rcases bind_eq_ok returned with ⟨extents, areExtents, returned⟩
  cases returned
  exact ⟨chain, isChain, rfl, rfl, areExtents, rfl, rfl⟩

/-! ## Chains of ordinary clusters -/

/-- Distinct clusters of the data area, as many as are read at most. -/
structure IsChain (maxClusters : ℕ) (clusters : List ℕ) : Prop where
  inRange : ∀ cluster ∈ clusters, 2 ≤ cluster ∧ cluster ≤ 0x0FFFFFF6
  distinct : clusters.Nodup
  bounded : clusters.length ≤ maxClusters

/-- The number is a marker of FAT12. -/
def IsFat12Marker (cluster : ℕ) : Prop := 0xFF7 ≤ cluster ∧ cluster ≤ 0xFFF

instance (cluster : ℕ) : Decidable (IsFat12Marker cluster) := inferInstanceAs (Decidable (_ ∧ _))

theorem normalizeLinks_ordinary {cluster : ℕ} (inRange : 2 ≤ cluster ∧ cluster ≤ 0x0FFFFFF6)
    (ordinary : ¬IsFat12Marker cluster) (isNew : cluster ∉ normalized)
    (room : normalized.length < maxClusters) (links : List PyValue) :
    normalizeLinks maxClusters normalized (.int cluster :: links) =
      normalizeLinks maxClusters (normalized ++ [cluster]) links := by
  rw [IsFat12Marker] at ordinary
  have notEnd : ¬isEndOfChain cluster = true := by
    rw [isEndOfChain, decide_eq_true_eq]
    omega
  have notBad : ¬(isBadCluster cluster = true ∨ (cluster : ℤ) < 2) := by
    rw [isBadCluster, decide_eq_true_eq]
    omega
  rw [normalizeLinks, if_neg notEnd, if_neg notBad, Int.toNat_natCast, if_neg isNew,
    if_neg (Nat.not_le.mpr room)]

/-- Ordinary clusters are taken over one after the other. -/
theorem normalizeLinks_append {clusters : List ℕ}
    (isChain : IsChain maxClusters (normalized ++ clusters))
    (ordinary : ∀ cluster ∈ clusters, ¬IsFat12Marker cluster) (links : List PyValue) :
    normalizeLinks maxClusters normalized (linksOf clusters ++ links) =
      normalizeLinks maxClusters (normalized ++ clusters) links := by
  induction clusters generalizing normalized with
  | nil => simp [linksOf]
  | cons cluster clusters ih =>
    rcases List.forall_mem_cons.mp ordinary with ⟨isOrdinary, others⟩
    have isCluster : cluster ∈ normalized ++ cluster :: clusters :=
      List.mem_append_right _ List.mem_cons_self
    have isNew : cluster ∉ normalized := fun earlier =>
      (List.nodup_append.mp isChain.distinct).2.2 cluster earlier cluster List.mem_cons_self rfl
    have room : normalized.length < maxClusters := by
      have bounded := isChain.bounded
      rw [List.length_append, List.length_cons] at bounded
      omega
    rw [linksOf, List.map_cons, List.cons_append,
      normalizeLinks_ordinary (isChain.inRange cluster isCluster) isOrdinary isNew room]
    rw [List.append_cons] at isChain
    have later := ih isChain others
    rw [← List.append_cons] at later
    exact later

/-- At a marker of FAT12 the chain ends. -/
theorem normalizeLinks_marker {cluster : ℕ} (isMarker : IsFat12Marker cluster) (normalized : List ℕ)
    (links : List PyValue) :
    (normalizeLinks maxClusters normalized (.int cluster :: links)).clusters = normalized := by
  rw [IsFat12Marker] at isMarker
  rw [normalizeLinks]
  split
  · rfl
  · rename_i notEnd
    rw [isEndOfChain, decide_eq_true_eq] at notEnd
    have isBad : isBadCluster cluster = true ∨ (cluster : ℤ) < 2 := by
      rw [isBadCluster, decide_eq_true_eq]
      omega
    rw [if_pos isBad]

theorem normalizeLinks_end {marker : ℕ} (isEnd : 0x0FFFFFF8 ≤ marker ∧ marker ≤ 0x0FFFFFFF)
    (normalized : List ℕ) :
    normalizeLinks maxClusters normalized [.int marker] = ⟨normalized, .complete, []⟩ := by
  have ends : isEndOfChain marker = true := by
    rw [isEndOfChain, decide_eq_true_eq]
    omega
  rw [normalizeLinks, if_pos ends]

section Chain

variable {clusters : List ℕ} {maxClusters marker : ℕ} (isChain : IsChain maxClusters clusters)
include isChain

/-- A chain with a marker of FAT12 among its clusters is cut. -/
theorem normalizeLinks_cut (marked : ∃ cluster ∈ clusters, IsFat12Marker cluster) :
    (normalizeLinks maxClusters [] (linksOf clusters ++ [.int marker])).clusters ≠ clusters := by
  have isFound : (clusters.find? fun cluster => IsFat12Marker cluster).isSome = true := by
    rw [List.find?_isSome]
    simpa using marked
  rcases Option.isSome_iff_exists.mp isFound with ⟨cluster, found⟩
  rcases List.find?_eq_some_iff_append.mp found with ⟨isMarker, front, back, rfl, ordinary⟩
  have isFront : IsChain maxClusters ([] ++ front) := by
    refine ⟨fun cluster member => isChain.inRange cluster (List.mem_append_left _ member),
      (List.nodup_append.mp isChain.distinct).1, ?_⟩
    have bounded := isChain.bounded
    rw [List.length_append] at bounded
    exact Nat.le_trans (Nat.le_add_right _ _) bounded
  have cut : linksOf (front ++ cluster :: back) ++ [.int marker] =
      linksOf front ++ .int cluster :: (linksOf back ++ [.int marker]) := by
    simp [linksOf]
  rw [cut, normalizeLinks_append isFront (by simpa using ordinary), List.nil_append,
    normalizeLinks_marker (by simpa using isMarker)]
  simp

variable (isEnd : 0x0FFFFFF8 ≤ marker ∧ marker ≤ 0x0FFFFFFF)
include isEnd

theorem normalizeLinks_complete (ordinary : ∀ cluster ∈ clusters, ¬IsFat12Marker cluster) :
    normalizeLinks maxClusters [] (linksOf clusters ++ [.int marker]) =
      ⟨clusters, .complete, []⟩ := by
  rw [← List.nil_append clusters] at isChain
  rw [normalizeLinks_append isChain ordinary, List.nil_append, normalizeLinks_end isEnd]

/-- The whole chain is kept exactly when no cluster has the number of a FAT12 marker. -/
theorem normalizeLinks_iff : normalizeLinks maxClusters [] (linksOf clusters ++ [.int marker]) =
        ⟨clusters, .complete, []⟩ ↔
      ∀ cluster ∈ clusters, ¬IsFat12Marker cluster := by
  constructor
  · intro kept
    by_contra marked
    push Not at marked
    exact normalizeLinks_cut isChain marked (congrArg NormalizedChain.clusters kept)
  · exact normalizeLinks_complete isChain isEnd

end Chain

/-- The facts are those of a file system with wide clusters: a chain of its data area that ends as
chains of FAT32 do. -/
structure ReadsChain (facts : FatFacts) (clusters : List ℕ) : Prop where
  wide : facts.filesystem = .str "fat32" ∨ facts.filesystem = .str "exfat"
  links : ∃ marker : ℕ, (0x0FFFFFF8 ≤ marker ∧ marker ≤ 0x0FFFFFFF) ∧
    facts.clusterChain = .list (linksOf clusters ++ [.int marker])
  limited : ∃ maxClusters : ℕ, 0 < maxClusters ∧ facts.maxClusters = .int maxClusters ∧
    IsChain maxClusters clusters

/-- A chain of such a file system is kept exactly when no cluster of it has a number that marks
something in a table of FAT12. -/
theorem chain_kept_iff {facts : FatFacts} {clusters : List ℕ} (reads : ReadsChain facts clusters)
    (entry : NormalizedEntry) :
    (normalizeClusterChain facts.clusterChain facts.maxClusters = .ok ⟨clusters, .complete, []⟩ ↔
        ∀ cluster ∈ clusters, ¬IsFat12Marker cluster) ∧
      ∀ enriched details, enrichFatEntry entry facts = .ok (enriched, details) →
        (details.clusterChain = clusters ∧ details.chainStatus = .complete ↔
          ∀ cluster ∈ clusters, ¬IsFat12Marker cluster) := by
  rcases reads.links with ⟨marker, isEnd, isLinks⟩
  rcases reads.limited with ⟨maxClusters, positive, isLimit, isChain⟩
  have normalized : normalizeClusterChain facts.clusterChain facts.maxClusters =
      .ok (normalizeLinks maxClusters [] (linksOf clusters ++ [.int marker])) := by
    rw [isLinks, isLimit, normalizeClusterChain, if_neg (by omega)]
    rfl
  constructor
  · rw [normalized, Except.ok.injEq]
    exact normalizeLinks_iff isChain isEnd
  · intro enriched details returned
    rcases enrichFatEntry_eq_ok returned with ⟨chain, isNormalized, clusterChain, status, _⟩
    rw [normalized] at isNormalized
    rw [clusterChain, status, ← Except.ok.inj isNormalized]
    constructor
    · rintro ⟨kept, _⟩
      by_contra marked
      push Not at marked
      exact normalizeLinks_cut isChain marked kept
    · intro ordinary
      rw [normalizeLinks_complete isChain isEnd ordinary]
      exact ⟨rfl, rfl⟩

/-- The facts of a file that fills the clusters. -/
def fileFacts (clusters : List ℕ) : FatFacts where
  filesystem := .str "fat32"
  clusterChain := .list (linksOf clusters ++ [.int 0x0FFFFFFF])

theorem fileFacts_readsChain {clusters : List ℕ} (isChain : IsChain 4096 clusters) :
    ReadsChain (fileFacts clusters) clusters where
  wide := Or.inl rfl
  links := ⟨0x0FFFFFFF, by omega, rfl⟩
  limited := ⟨4096, by omega, rfl, isChain⟩

def plainFile : NormalizedEntry where
  entryId := .ofString "entry_1"
  volumeId := .ofString "volume_1"
  objectId := .ofString "5"
  rawPathBytes := [97]
  displayPath := .ofString "a"
  displayName := .ofString "a"
  entryType := .file
  attributes := []
  sizeBytes := none
  allocated := true
  rawTimestamps := []
  extents := []
  warnings := []

theorem lowChain : IsChain 4096 [5, 9] := by
  refine ⟨?_, ?_, ?_⟩ <;> decide

theorem chain_kept_sample :
    (normalizeClusterChain (fileFacts [5, 9]).clusterChain (fileFacts [5, 9]).maxClusters =
          .ok ⟨[5, 9], .complete, []⟩ ↔ ∀ cluster ∈ [5, 9], ¬IsFat12Marker cluster) ∧
      ∀ enriched details, enrichFatEntry plainFile (fileFacts [5, 9]) = .ok (enriched, details) →
        (details.clusterChain = [5, 9] ∧ details.chainStatus = .complete ↔
          ∀ cluster ∈ [5, 9], ¬IsFat12Marker cluster) :=
  chain_kept_iff (fileFacts_readsChain lowChain) plainFile

theorem highChain : IsChain 4096 [4094, 4095, 4096] := by
  refine ⟨?_, ?_, ?_⟩ <;> decide

/-- A file in the clusters 4094 to 4096 of a FAT32 volume is taken to be empty. -/
theorem highChain_lost : ReadsChain (fileFacts [4094, 4095, 4096]) [4094, 4095, 4096] ∧
      normalizeClusterChain (fileFacts [4094, 4095, 4096]).clusterChain
        (fileFacts [4094, 4095, 4096]).maxClusters = .ok ⟨[], .complete, []⟩ :=
  ⟨fileFacts_readsChain highChain, rfl⟩

end FatEntries

end Reperio
