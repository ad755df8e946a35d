import Mathlib.Data.Finset.Sort
import Mathlib.Data.List.Intervals
import Mathlib.Order.Interval.Finset.Nat
import Reperio.Encoding.Runs
import Reperio.Python.Timestamp

/-!
# FAT12 floppies

`scanner/fat12_parser.py`: the directory entries of a floppy, allocated and
deleted, with the clusters of their contents, and the ranges of free clusters
that are left to carve. The reader may return any bytes for a sector, too few,
too many or none.
-/

namespace Reperio

open Python

/-! ## Geometries -/

/-- What the boot sector says about a floppy. -/
structure Fat12Geometry where
  label : String
  totalSectors : ℕ
  sectorsPerCluster : ℕ
  rootEntries : ℕ
  sectorsPerFat : ℕ
  sectorsPerTrack : ℕ
  heads : ℕ
  cylinders : ℕ
  mediaDescriptor : ℕ
  bytesPerSector : ℕ := 512
  reservedSectors : ℕ := 1
  fatCount : ℕ := 2
  deriving DecidableEq

/-- From here on a mark ends the chain. -/
def fat12EocMin : ℕ := 0xFF8

/-- The mark of a bad cluster. -/
def fat12BadCluster : ℕ := 0xFF7

/-- From here on a mark is reserved. -/
def fat12ReservedMin : ℕ := 0xFF0

def directoryEntrySize : ℕ := 32

namespace Fat12Geometry

variable (geometry : Fat12Geometry)

/-- The size of the medium. -/
def sizeBytes : ℕ := geometry.totalSectors * geometry.bytesPerSector

/-- The length of the root directory. -/
def rootDirectorySectors : ℕ :=
  (geometry.rootEntries * directoryEntrySize + geometry.bytesPerSector - 1) /
    geometry.bytesPerSector

/-- The first sector of the root directory. -/
def rootStart : ℕ := geometry.reservedSectors + geometry.fatCount * geometry.sectorsPerFat

/-- The first sector behind the root directory. -/
def firstDataSector : ℕ := geometry.rootStart + geometry.rootDirectorySectors

/-- How many clusters there are. -/
def clusterCount : ℕ :=
  (geometry.totalSectors - geometry.firstDataSector) / geometry.sectorsPerCluster

def clusterSize : ℕ := geometry.sectorsPerCluster * geometry.bytesPerSector

/-- The first sector of a cluster. -/
def clusterStart (cluster : ℕ) : ℕ :=
  geometry.firstDataSector + (cluster - 2) * geometry.sectorsPerCluster

end Fat12Geometry

/-- `SUPPORTED_GEOMETRIES`. -/
def supportedGeometries : List Fat12Geometry :=
  [⟨"360 KiB", 720, 2, 112, 2, 9, 2, 40, 0xFD, 512, 1, 2⟩,
    ⟨"720 KiB", 1440, 2, 112, 3, 9, 2, 80, 0xF9, 512, 1, 2⟩,
    ⟨"1.2 MiB", 2400, 1, 224, 7, 15, 2, 80, 0xF9, 512, 1, 2⟩,
    ⟨"1.44 MiB", 2880, 1, 224, 9, 18, 2, 80, 0xF0, 512, 1, 2⟩]

/-! ## Results -/

/-- A stretch of the source. -/
structure Extent where
  offsetBytes : ℕ
  lengthBytes : ℕ
  sparse : Bool := false
  deriving DecidableEq

def maxRangeValue : ℕ := 2 ^ 63 - 1

/-- `CarveRange` of `scanner/photorec_carving.py`. -/
structure CarveRange where
  offsetBytes : ℕ
  lengthBytes : ℕ
  positive : 0 < lengthBytes
  bounded : offsetBytes + lengthBytes ≤ maxRangeValue

/-- How a scan fails. -/
inductive ScanError where
  | fat12Error (code message : String)
  | photoRecCarvingError (code message : String)
  deriving DecidableEq

/-- `CarveRange(...)`, which checks its bounds. -/
def CarveRange.of (offsetBytes lengthBytes : ℕ) : Except ScanError CarveRange :=
  if valid : 0 < lengthBytes ∧ offsetBytes + lengthBytes ≤ maxRangeValue then
    .ok ⟨offsetBytes, lengthBytes, valid.1, valid.2⟩
  else
    .error (.photoRecCarvingError "invalid_range" "carve ranges must be bounded positive integers")

/-- How far the chain of an entry is trusted. -/
inductive ChainConfidence where
  | certain
  | high
  | medium
  | low
  | unknown
  deriving DecidableEq

/-- What can be recovered of an entry. -/
inductive RecoveryState where
  | allocatedIntact
  | allocatedFragmented
  -- `partial`
  | incomplete
  -- `partial_bad_sector`
  | incompleteBadSector
  | deletedMetadataOnly
  | deletedPartial
  | deletedReused
  | deletedContiguousCandidate
  deriving DecidableEq

/-- `status.startswith("partial")`. -/
def RecoveryState.isPartial : RecoveryState → Bool
  | .incomplete => true
  | .incompleteBadSector => true
  | _ => false

/-- An entry of the root directory. -/
structure Fat12Entry where
  entryIndex : ℕ
  name : String
  shortName : String
  rawShortName : List UInt8
  isDirectory : Bool
  attributes : List String
  allocated : Bool
  sizeBytes : ℕ
  firstCluster : Option ℕ
  clusterChain : List ℕ
  chainConfidence : ChainConfidence
  recoveryState : RecoveryState
  timestamps : List (String × String)
  extents : List Extent
  warnings : List String
  deriving DecidableEq

/-- What a scan returns. -/
structure Fat12ScanResult where
  geometry : Fat12Geometry
  entries : List Fat12Entry
  carveRanges : List CarveRange
  unreadableSectors : List ℤ
  warnings : List String

namespace Fat12

/-! ## Bytes -/

/-- `data[start : start + length]`. -/
def slice (data : List UInt8) (start length : ℕ) : List UInt8 := (data.drop start).take length

/-- The byte, zero beyond the end. -/
def byteAt (data : List UInt8) (offset : ℕ) : ℕ := (data.getD offset 0).toNat

/-- `struct.unpack_from("<H", data, offset)[0]`. -/
def wordAt (data : List UInt8) (offset : ℕ) : ℕ :=
  byteAt data offset + 256 * byteAt data (offset + 1)

/-- `struct.unpack_from("<I", data, offset)[0]`. -/
def longAt (data : List UInt8) (offset : ℕ) : ℕ :=
  wordAt data offset + 65536 * wordAt data (offset + 2)

/-- `data.rstrip(stripped)`. -/
def rstrip (stripped data : List UInt8) : List UInt8 :=
  (data.reverse.dropWhile fun byte => byte ∈ stripped).reverse

/-- `data.upper()`. -/
def upper (data : List UInt8) : List UInt8 :=
  data.map fun byte => if 97 ≤ byte ∧ byte ≤ 122 then byte - 32 else byte

/-- `data.decode("latin-1")`. -/
def decodeLatin1 (data : List UInt8) : String :=
  String.ofList (data.map fun byte => Char.ofNat byte.toNat)

/-- `units.decode("utf-16le")`, nothing when a surrogate stands alone. -/
def decodeUtf16 : List ℕ → Option (List Char)
  | [] => some []
  | unit :: units =>
    if 0xD800 ≤ unit ∧ unit < 0xDC00 then
      match units with
      | low :: units =>
        if 0xDC00 ≤ low ∧ low < 0xE000 then
          (decodeUtf16 units).map fun chars =>
            Char.ofNat (0x10000 + (unit - 0xD800) * 1024 + (low - 0xDC00)) :: chars
        else none
      | [] => none
    else if 0xDC00 ≤ unit ∧ unit < 0xE000 then none
    else (decodeUtf16 units).map fun chars => Char.ofNat unit :: chars

/-! ## Boot sector -/

/-- The boot sector describes the geometry. -/
def geometryMatches (geometry : Fat12Geometry) (boot : List UInt8) : Bool :=
  let totalSectors := if wordAt boot 19 ≠ 0 then wordAt boot 19 else longAt boot 32
  decide (wordAt boot 11 = geometry.bytesPerSector ∧ byteAt boot 13 = geometry.sectorsPerCluster ∧
    wordAt boot 14 = geometry.reservedSectors ∧ byteAt boot 16 = geometry.fatCount ∧
    wordAt boot 17 = geometry.rootEntries ∧ totalSectors = geometry.totalSectors ∧
    byteAt boot 21 = geometry.mediaDescriptor ∧ wordAt boot 22 = geometry.sectorsPerFat ∧
    wordAt boot 24 = geometry.sectorsPerTrack ∧ wordAt boot 26 = geometry.heads)

/-- The one geometry of that size and boot sector. -/
def detectGeometry (boot : List UInt8) (sourceSizeBytes : ℤ) : Except ScanError Fat12Geometry :=
  if boot.length < 512 then
    .error (.fat12Error "boot_sector_unreadable" "FAT12 boot sector was truncated")
  else if byteAt boot 0 ∉ [0xE9, 0xEB] ∨ slice boot 510 2 ≠ [0x55, 0xAA] then
    .error (.fat12Error "non_dos_signature" "source lacks a supported DOS boot signature")
  else if upper (rstrip [32, 0] (slice boot 54 8)) ≠ [70, 65, 84, 49, 50] then
    .error (.fat12Error "non_dos_signature" "source does not identify as DOS FAT12")
  else
    let candidates := supportedGeometries.filter fun geometry =>
      decide ((geometry.sizeBytes : ℤ) = sourceSizeBytes)
    if candidates.isEmpty then
      .error (.fat12Error "unsupported_geometry"
        "source capacity is not an advertised FAT12 floppy geometry")
    else
      match candidates.filter fun geometry => geometryMatches geometry boot with
      | [geometry] =>
        if 4085 ≤ geometry.clusterCount then
          .error (.fat12Error "not_fat12" "BPB cluster count exceeds FAT12 limits")
        else .ok geometry
      | _ => .error (.fat12Error "ambiguous_geometry"
          ("boot geometry does not exactly match the supported capacity; " ++
            "geometry was not guessed"))

/-! ## Reading sectors -/

/-- What answers reads of a range of bytes, in any state: nothing stands for an `OSError`. -/
structure Fat12Reader (State : Type) where
  readAt : ℕ → ℕ → State → Option (List UInt8) × State

/-- The state of the reader and the sectors that could not be read. -/
structure ReadState (State : Type) where
  reader : State
  unreadableSectors : Finset ℤ

section Reading

variable {State : Type} (reader : Fat12Reader State) (knownBadSectors : Finset ℤ)
  (sectorSize : ℕ)

/-- A sector, with zeros for what cannot be read. -/
def readSector (sector : ℕ) (state : ReadState State) : List UInt8 × ReadState State :=
  if (sector : ℤ) ∈ knownBadSectors then
    (List.replicate sectorSize 0,
      { state with unreadableSectors := insert (sector : ℤ) state.unreadableSectors })
  else
    let (answer, next) := reader.readAt (sector * sectorSize) sectorSize state.reader
    let data := answer.getD []
    if data.length = sectorSize then (data, { state with reader := next })
    else
      (data.take sectorSize ++ List.replicate (sectorSize - data.length) 0,
        { reader := next
          unreadableSectors := insert (sector : ℤ) state.unreadableSectors })

/-- So many sectors, one after the other. -/
def readSectors : ℕ → ℕ → ReadState State → List UInt8 × ReadState State
  | _, 0, state => ([], state)
  | startSector, count + 1, state =>
    let (chunk, state) := readSector reader knownBadSectors sectorSize startSector state
    let (chunks, state) := readSectors (startSector + 1) count state
    (chunk ++ chunks, state)

end Reading

/-! ## Allocation tables -/

/-- The FAT entries of a copy: twelve bits each, zero beyond the end of the copy. -/
def decodeFat (raw : List UInt8) (count : ℕ) : List ℕ :=
  (List.range count).map fun index =>
    let offset := index + index / 2
    if raw.length ≤ offset + 1 then 0
    else if index % 2 = 1 then wordAt raw offset / 16 % 4096
    else wordAt raw offset % 4096

/-- The first two entries are as they must be. -/
def fatHeaderValid (fat : List ℕ) (mediaDescriptor : ℕ) : Bool :=
  decide (2 ≤ fat.length ∧ fat.getD 0 0 = 0xF00 ||| mediaDescriptor ∧ fat12EocMin ≤ fat.getD 1 0)

/-- The first valid copy, or a table of free clusters. -/
def selectFat (copies : List (List UInt8)) (geometry : Fat12Geometry) : List ℕ × List String :=
  let decoded := copies.map fun copy => decodeFat copy (geometry.clusterCount + 2)
  match decoded.filter fun fat => fatHeaderValid fat geometry.mediaDescriptor with
  | [] => (List.replicate (geometry.clusterCount + 2) 0, ["fat_copies_corrupt"])
  | fat :: others =>
    (fat, (if others.length + 1 ≠ decoded.length then ["fat_copy_corrupt"] else []) ++
      if others.any fun other => other ≠ fat then ["fat_copies_disagree"] else [])

/-! ## Clusters -/

/-- How many clusters the size asks for. -/
def clustersForSize (sizeBytes : ℕ) (geometry : Fat12Geometry) : ℕ :=
  if sizeBytes = 0 then 0
  else (sizeBytes + geometry.clusterSize - 1) / geometry.clusterSize

/-- What is known of the clusters of an entry. -/
structure ClusterChain where
  clusters : List ℕ
  confidence : ChainConfidence
  state : RecoveryState
  warnings : List String
  deriving DecidableEq

/-- What following links has found. -/
structure Followed where
  clusters : List ℕ
  status : RecoveryState
  warnings : List String := []

/-- The loop of `_allocated_chain`: the links of the table are followed until one is not a cluster.
The loop may take as many steps as are left. -/
def followChain (fat : List ℕ) : ℕ → ℕ → List ℕ → Followed
  | 0, _, chain => ⟨chain, .allocatedIntact, []⟩
  | steps + 1, cursor, chain =>
    if ¬(2 ≤ cursor ∧ cursor < fat.length) then ⟨chain, .allocatedIntact, []⟩
    else if cursor ∈ chain then ⟨chain, .incomplete, ["fat12_cluster_loop"]⟩
    else
      let next := fat.getD cursor 0
      if fat12EocMin ≤ next then ⟨chain ++ [cursor], .allocatedIntact, []⟩
      else if next = fat12BadCluster then
        ⟨chain ++ [cursor], .incompleteBadSector, ["fat12_bad_cluster_marker"]⟩
      else if next = 0 then
        ⟨chain ++ [cursor], .incomplete, ["fat12_chain_terminated_free"]⟩
      else if fat12ReservedMin ≤ next ∨ next < 2 then
        ⟨chain ++ [cursor], .incomplete, ["fat12_reserved_cluster_marker"]⟩
      else followChain fat steps next (chain ++ [cursor])

/-- The chain against the clusters that the size asks for. -/
def Followed.checkLength (followed : Followed) (expected : ℕ) : Followed :=
  if followed.clusters.length < expected then
    { followed with
      status := .incomplete
      warnings := followed.warnings ++ ["fat12_cluster_chain_short"] }
  else if expected < followed.clusters.length ∧ 0 < expected then
    { followed with
      clusters := followed.clusters.take expected
      warnings := followed.warnings ++ ["fat12_cluster_chain_long"] }
  else followed

/-- Every cluster is the one after the cluster before it. -/
def isContiguous (chain : List ℕ) : Bool :=
  (chain.zip chain.tail).all fun pair => pair.2 = pair.1 + 1

/-- A chain that is not contiguous is fragmented. -/
def Followed.checkOrder (followed : Followed) : Followed :=
  if followed.status = .allocatedIntact ∧ !isContiguous followed.clusters then
    { followed with
      status := .allocatedFragmented
      warnings := followed.warnings ++ ["fat12_fragmented_chain"] }
  else followed

/-- How far the chain is trusted. -/
def Followed.confidence (followed : Followed) : ChainConfidence :=
  if followed.status.isPartial then .low
  else if followed.status = .allocatedIntact ∧ followed.warnings.isEmpty then .certain
  else .high

/-- The clusters of a file that is there. -/
def allocatedChain (firstCluster sizeBytes : ℕ) (fat : List ℕ) (geometry : Fat12Geometry) :
    ClusterChain :=
  if sizeBytes = 0 ∧ firstCluster < 2 then ⟨[], .certain, .allocatedIntact, []⟩
  else if firstCluster < 2 ∨ fat.length ≤ firstCluster then
    ⟨[], .low, .incomplete, ["fat12_missing_first_cluster"]⟩
  else
    let followed := ((followChain fat (geometry.clusterCount + 1) firstCluster []).checkLength
      (clustersForSize sizeBytes geometry)).checkOrder
    ⟨followed.clusters, followed.confidence, followed.status, followed.warnings⟩

/-- The clusters that a deleted file may have had. -/
def deletedChain (firstCluster sizeBytes : ℕ) (fat : List ℕ) (geometry : Fat12Geometry) :
    ClusterChain :=
  let count := clustersForSize sizeBytes geometry
  if firstCluster < 2 ∨ count = 0 then
    ⟨[], .unknown, .deletedMetadataOnly, ["fat12_deleted_chain_missing"]⟩
  else if fat.length ≤ firstCluster + count - 1 then
    ⟨[], .low, .deletedPartial, ["fat12_deleted_chain_out_of_range"]⟩
  else
    let candidate := List.range' firstCluster count
    if candidate.any fun cluster => fat.getD cluster 0 ≠ 0 then
      ⟨[], .low, .deletedReused, ["fat12_deleted_cluster_reused"]⟩
    else
      ⟨candidate, .medium, .deletedContiguousCandidate, "fat12_deleted_chain_inferred_contiguous" ::
        if 1 < count then ["fat12_deleted_fragmentation_unknown"] else []⟩

/-- Where the clusters lie. -/
def clusterExtents (chain : List ℕ) (geometry : Fat12Geometry) : List Extent :=
  chain.map fun cluster =>
    { offsetBytes := geometry.clusterStart cluster * geometry.bytesPerSector
      lengthBytes := geometry.clusterSize }

/-- The sectors of a cluster. -/
def clusterSectors (geometry : Fat12Geometry) (cluster : ℕ) : List ℕ :=
  List.range' (geometry.clusterStart cluster) geometry.sectorsPerCluster

/-- A sector of the chain could not be read. -/
def chainHasBadSector (chain : List ℕ) (geometry : Fat12Geometry)
    (unreadableSectors : Finset ℤ) : Bool :=
  chain.any fun cluster => (clusterSectors geometry cluster).any fun sector =>
    decide ((sector : ℤ) ∈ unreadableSectors)

/-! ## Free clusters -/

/-- The readable sectors of the free clusters, in order. -/
def readableSectors (fat : List ℕ) (geometry : Fat12Geometry) (unreadableSectors : Finset ℤ) :
    List ℕ :=
  (List.range' 2 (min fat.length (geometry.clusterCount + 2) - 2)).flatMap fun cluster =>
    if fat.getD cluster 0 ≠ 0 then []
    else (clusterSectors geometry cluster).filter fun sector =>
      decide ((sector : ℤ) ∉ unreadableSectors)

/-- The range of a run of sectors. -/
def sectorRange (sectorSize : ℕ) (run : ℕ × ℕ) : Except ScanError CarveRange :=
  CarveRange.of (run.1 * sectorSize) ((run.2 - run.1 + 1) * sectorSize)

/-- The ranges that are left to carve. -/
def freeClusterRanges (fat : List ℕ) (geometry : Fat12Geometry) (unreadableSectors : Finset ℤ) :
    Except ScanError (List CarveRange) :=
  (Encoding.runs (readableSectors fat geometry unreadableSectors)).mapM
    (sectorRange geometry.bytesPerSector)

/-! ## Names -/

/-- The name and extension of an entry. -/
def decodeShortName (raw : List UInt8) (deleted : Bool) : String :=
  let name := raw.take 8
  let name := if deleted then name.set 0 63 else name
  let base := decodeLatin1 (rstrip [32] name)
  let base := if base.isEmpty then "?" else base
  let extension := decodeLatin1 (rstrip [32] (slice raw 8 3))
  if extension.isEmpty then base else base ++ "." ++ extension

/-- The checksum that ties a long name to a short one. -/
def lfnChecksum (shortName : List UInt8) : UInt8 :=
  shortName.foldl (fun checksum value => (((checksum &&& 1) <<< 7) ||| (checksum >>> 1)) + value) 0

/-- The parts of a long name by their number, and the number of the last one. -/
structure LongName where
  expectedCount : Option ℕ
  ordered : List (ℕ × List ℕ)

/-- One part is added, nothing when it is invalid. -/
def LongName.add (checksum : UInt8) (parts : LongName) (raw : List UInt8) : Option LongName :=
  let order := byteAt raw 0
  let sequence := order % 32
  let expectedCount := if order / 64 % 2 = 1 then some sequence else parts.expectedCount
  if sequence = 0 ∨ raw.getD 13 0 ≠ checksum then none
  else
    let units := slice raw 1 10 ++ slice raw 14 12 ++ slice raw 28 4
    some
      { expectedCount
        ordered :=
          (sequence, (List.range (units.length / 2)).map fun index => wordAt units (2 * index))
          :: parts.ordered.filter fun part => part.1 ≠ sequence }

/-- The name that the pending parts make up, if any, and a warning. -/
def decodeLfn (entries : List (List UInt8)) (shortName : List UInt8) (deleted : Bool) :
    Option String × Option String :=
  if entries.isEmpty ∨ deleted then (none, none)
  else
    let invalid := (none, some "fat12_lfn_invalid")
    match entries.foldlM (LongName.add (lfnChecksum shortName)) ⟨none, []⟩ with
    | none => invalid
    | some ⟨none, _⟩ => invalid
    | some ⟨some count, ordered⟩ =>
      if (ordered.map Prod.fst).toFinset ≠ Finset.Icc 1 count then invalid
      else
        let units := (List.range' 1 count).flatMap fun index => (ordered.lookup index).getD []
        match decodeUtf16 (units.filter fun unit => unit ≠ 0 ∧ unit ≠ 0xFFFF) with
        | none => invalid
        | some chars => (some (String.ofList chars), none)

/-! ## Attributes and times -/

/-- The names of the bits that are set. -/
def attributeNames (value : UInt8) : List String :=
  ([(0x01, "read_only"), (0x02, "hidden"), (0x04, "system"), (0x10, "directory"),
    (0x20, "archive")] : List (UInt8 × String)).filterMap fun name =>
      if value &&& name.1 ≠ 0 then some name.2 else none

/-- A date with its time, if it is one. -/
def fatDatetime (dateBits : ℕ) (timeBits : Option ℕ) : Option String :=
  let day := dateBits % 32
  let month := dateBits / 32 % 16
  let year := 1980 + dateBits / 512 % 128
  if day = 0 ∨ month = 0 then none
  else
    let second := timeBits.elim 0 fun bits => bits % 32 * 2
    let minute := timeBits.elim 0 fun bits => bits / 32 % 64
    let hour := timeBits.elim 0 fun bits => bits / 2048 % 32
    match DateTime.of year month day hour minute second with
    -- `isoformat` is without the final `Z`
    | .ok instant => some (String.ofList (strftimeChars instant).dropLast)
    | .error _ => none

/-- The times of an entry that are set. -/
def timestamps (raw : List UInt8) : List (String × String) :=
  [("created", wordAt raw 16, some (wordAt raw 14)), ("accessed", wordAt raw 18, none),
    ("modified", wordAt raw 24, some (wordAt raw 22))].filterMap fun value =>
      (fatDatetime value.2.1 value.2.2).map fun text => (value.1, text)

/-! ## The root directory -/

/-- An entry that is neither the end of the directory, nor a part of a long name, nor a label. -/
def parseEntry (index : ℕ) (raw : List UInt8) (pendingLfn : List (List UInt8))
    (geometry : Fat12Geometry) (fat : List ℕ) (unreadableSectors : Finset ℤ) : Fat12Entry :=
  let attributes := raw.getD 11 0
  let deleted := byteAt raw 0 = 0xE5
  let shortName := decodeShortName (raw.take 11) deleted
  let (longName, lfnWarning) := decodeLfn pendingLfn (raw.take 11) deleted
  let firstCluster := wordAt raw 26
  let sizeBytes := longAt raw 28
  let chain :=
    if deleted then deletedChain firstCluster sizeBytes fat geometry
    else allocatedChain firstCluster sizeBytes fat geometry
  let badSector := chainHasBadSector chain.clusters geometry unreadableSectors
  { entryIndex := index
    name := match longName with
      | some name => if name.isEmpty then shortName else name
      | none => shortName
    shortName
    rawShortName := raw.take 11
    isDirectory := attributes &&& 0x10 ≠ 0
    attributes := attributeNames attributes
    allocated := !deleted
    sizeBytes
    firstCluster := if 2 ≤ firstCluster then some firstCluster else none
    clusterChain := chain.clusters
    chainConfidence := if badSector then .low else chain.confidence
    recoveryState := if badSector then .incompleteBadSector else chain.state
    timestamps := timestamps raw
    extents := clusterExtents chain.clusters geometry
    warnings := (lfnWarning.toList ++ chain.warnings ++
      if badSector then ["fat12_bad_sector_in_content"] else []).eraseDups }

/-- The entries up to the end mark. -/
def parseEntries (root : List UInt8) (geometry : Fat12Geometry) (fat : List ℕ)
    (unreadableSectors : Finset ℤ) : List ℕ → List (List UInt8) → List Fat12Entry
  | [], _ => []
  | index :: rest, pendingLfn =>
    let raw := slice root (index * directoryEntrySize) directoryEntrySize
    let attributes := raw.getD 11 0
    if raw.length ≠ directoryEntrySize ∨ byteAt raw 0 = 0 then []
    else if attributes = 0x0F then
      parseEntries root geometry fat unreadableSectors rest (pendingLfn ++ [raw])
    else if attributes &&& 0x08 ≠ 0 then
      parseEntries root geometry fat unreadableSectors rest []
    else
      parseEntry index raw pendingLfn geometry fat unreadableSectors ::
        parseEntries root geometry fat unreadableSectors rest []

/-- The entries of the root directory. -/
def parseRootDirectory (root : List UInt8) (geometry : Fat12Geometry) (fat : List ℕ)
    (unreadableSectors : Finset ℤ) : List Fat12Entry :=
  parseEntries root geometry fat unreadableSectors (List.range geometry.rootEntries) []

/-! ## Scans -/

section Scan

variable {State : Type} (reader : Fat12Reader State)

/-- The copies that are left to read. -/
def readFatCopies (knownBadSectors : Finset ℤ) (geometry : Fat12Geometry) :
    ℕ → ReadState State → List (List UInt8) × ReadState State
  | 0, state => ([], state)
  | left + 1, state =>
    let start :=
      geometry.reservedSectors + (geometry.fatCount - (left + 1)) * geometry.sectorsPerFat
    let (copy, state) := readSectors reader knownBadSectors geometry.bytesPerSector start
      geometry.sectorsPerFat state
    let (copies, state) := readFatCopies knownBadSectors geometry left state
    (copy :: copies, state)

/-- The scan of a floppy. -/
def scanFat12 (initial : State) (sourceSizeBytes : ℤ) (knownBadSectors : List ℤ) :
    Except ScanError Fat12ScanResult := do
  if sourceSizeBytes < 512 then
    throw (.fat12Error "source_too_small" "source is too small for a DOS FAT boot sector")
  else
    match reader.readAt 0 512 initial with
    | (none, _) =>
      throw (.fat12Error "boot_sector_unreadable" "FAT12 boot sector could not be read")
    | (some boot, state) =>
      if boot.length ≠ 512 then
        throw (.fat12Error "boot_sector_unreadable" "FAT12 boot sector was truncated")
      else
        let geometry ← detectGeometry boot sourceSizeBytes
        let badSectors := knownBadSectors.toFinset
        let (copies, state) := readFatCopies reader badSectors geometry geometry.fatCount
          ⟨state, badSectors⟩
        let (fat, fatWarnings) := selectFat copies geometry
        let (root, state) := readSectors reader badSectors geometry.bytesPerSector
          geometry.rootStart geometry.rootDirectorySectors state
        let unreadable := state.unreadableSectors
        let entries := parseRootDirectory root geometry fat unreadable
        let carveRanges ← freeClusterRanges fat geometry unreadable
        let rootGap := (List.range' geometry.rootStart geometry.rootDirectorySectors).any
          fun sector => decide ((sector : ℤ) ∈ unreadable)
        return {
          geometry, entries, carveRanges
          unreadableSectors := unreadable.sort (· ≤ ·)
          warnings := (fatWarnings ++ (if rootGap then ["root_directory_read_gap"] else []) ++
            if unreadable = ∅ then [] else ["source_read_gaps"]).eraseDups }

end Scan

end Fat12

end Reperio
