import Reperio.Hostd.Topology

/-!
# Inspection of mounts and holders

`hostd/storage_inspection.py`, on facts that are given: which mounts and holders
a source has, on its own devices and on all that are stacked on them, and whether
it may be prepared. Both traversals of the holders are worklists.
-/

namespace Reperio.Hostd

open Python

/-! ## Paths and names -/

/-- `value.split(",")` and the like. -/
def splitAt (separator : Char) (value : PyStr) : List PyStr := value.splitOn (.ofChar separator)

/-- `value.split()`. -/
def words (value : PyStr) : List PyStr :=
  (value.splitOnP CodePoint.isSpace).filter fun word => word ≠ []

/-- The components of an absolute path, where `..` at the root leads nowhere. -/
def normalComponents (components : List PyStr) : List PyStr :=
  components.foldl (fun kept component =>
    if component = [] ∨ component = PyStr.ofString "." then kept
    else if component = PyStr.ofString ".." then kept.dropLast
    else kept ++ [component]) []

/-- `posixpath.normpath(path)` of a path that starts with a slash. -/
def normpath (path : PyStr) : PyStr :=
  let slashes := if path.startsWith "//" && !path.startsWith "///" then "//" else "/"
  .ofString slashes ++ ((normalComponents (splitAt '/' path)).intersperse (.ofString "/")).flatten

/-- `_normalize_path`. -/
def normalizePath (value : PyStr) : Option PyStr :=
  if value.startsWith "/" && decide (value.length ≤ 4096) &&
      value.all fun point => decide (32 ≤ point.val) then
    some (normpath value)
  else none

def hasPart (value : PyStr) (part : String) : Bool := decide (PyStr.ofString part <:+: value)

def safeName (value : PyStr) : PyStr := let parts := words (value.filter fun point => point.val ≠ 0)
  let cleaned := (parts.intersperse (.ofString " ")).flatten
  if cleaned = [] ∨ hasPart cleaned "/" ∨ hasPart cleaned ".." then .ofString "unsupported-holder"
  else cleaned.take 128

/-- `SAFE_TYPE_RE`. -/
def isSafeType : PyStr → Bool :=
  matchesName isLower (fun point => isLower point || isDigit point || isOneOf "_" point) 63

def safeType (value : PyStr) : PyStr := if isSafeType value then value else .ofString "unsupported"

def supportedHolderTypes : List PyStr := ["device_mapper", "lvm", "mdraid"].map PyStr.ofString

/-! ## Mounts -/

/-- How a device is mounted. -/
inductive MountMode where
  | readOnly
  | readWrite
  deriving DecidableEq

/-- A mount of a device that is inspected. -/
structure StorageMount where
  majorMinor : PyStr
  mountPoint : PyStr
  mode : MountMode
  deriving DecidableEq

/-- The options of a mount record, as a set. -/
def optionSet (strings : Strings) : PyValue → List PyStr
  | .text options => (splitAt ',' options).map PyStr.strip
  | .list options => options.map fun option => (strings.str option).strip
  | _ => []

def mountMode (strings : Strings) (mount : PyDict) : MountMode :=
  let options := optionSet strings (mount.get "options")
  let writable := decide (PyStr.ofString "rw" ∈ options)
  let optionsMode :=
    if PyStr.ofString "ro" ∈ options ∧ writable = false then MountMode.readOnly else .readWrite
  match mount.get "read_only" with
  | .bool true => if writable then optionsMode else .readOnly
  | .bool false => .readWrite
  | _ => optionsMode

def normalizeMount (strings : Strings) (mount : PyDict) : Option StorageMount :=
  let majorMinor := strings.field mount "major_minor"
  match normalizePath (strings.field mount "mount_point") with
  | none => none
  | some mountPoint =>
    if validMajorMinor majorMinor then
      some { majorMinor := majorMinor, mountPoint := mountPoint, mode := mountMode strings mount }
    else none

/-! ## Holders -/

/-- A device that is made of another one. -/
structure Holder where
  majorMinor : PyStr
  holderType : PyStr
  holderName : PyStr
  parentMajorMinor : PyStr
  deriving DecidableEq

/-- The sanitized facts of a record. -/
def holderOf (parent : PyStr) (record : TextDict) : Holder := let majorMinor := childOf record
  { majorMinor := majorMinor
    holderType := safeType (record.get "holder_type" (.ofString "unsupported"))
    holderName := safeName (record.get "holder_name" majorMinor)
    parentMajorMinor := parent }

/-- What is left of a holder that is recorded with different facts. -/
def Holder.ambiguous (holder : Holder) : Holder := { holder with
    holderType := .ofString "unsupported"
    holderName := .ofString "ambiguous-holder" }

/-- A holder that is there keeps its place. -/
def addHolder : List Holder → Holder → List Holder
  | [], holder => [holder]
  | existing :: rest, holder =>
    if existing.majorMinor = holder.majorMinor then
      (if existing = holder then existing else existing.ambiguous) :: rest
    else existing :: addHolder rest holder

/-- `_normalize_holders`. -/
def holderGraph (holders : Holders) : FiniteGraph PyStr Holder :=
  graphOf
    (((validRecords holders).map fun (parent, record) => (parent, holderOf parent record)).foldl
    (fun normalized pair => update normalized pair.1 fun edges => addHolder edges pair.2) [])

/-- `_with_descendants`. -/
def withDescendants (sources : List PyStr) (graph : FiniteGraph PyStr Holder) : List PyStr :=
  (graph.traverse Holder.majorMinor Holder.majorMinor ⟨sources, [], sources⟩).seen

/-- The edge that a holder stands for. -/
def Holder.edge (holder : Holder) : PyStr × PyStr := (holder.parentMajorMinor, holder.majorMinor)

/-- `_related_holders`, with the key of the sorting. -/
def relatedHolders (sources : List PyStr) (graph : FiniteGraph PyStr Holder) : List Holder :=
  (graph.traverse Holder.edge Holder.majorMinor ⟨[], [], sources⟩).taken.insertionSort
    fun first second =>
      toLex (majorMinorKey first.parentMajorMinor, majorMinorKey first.majorMinor) ≤
        toLex (majorMinorKey second.parentMajorMinor, majorMinorKey second.majorMinor)

/-! ## The inspection -/

/-- A reason against preparing a source. -/
structure StorageBlocker where
  reason : String
  majorMinor : PyStr
  detail : PyStr
  deriving DecidableEq

/-- A device and one that is below it. -/
structure RelationshipEdge where
  parentMajorMinor : PyStr
  childMajorMinor : PyStr
  relationshipType : PyStr
  deriving DecidableEq

/-- What the inspection of a source returns. -/
structure StorageState where
  sourceId : PyValue
  kernelName : PyValue
  safeForPreparation : Bool
  blockers : List StorageBlocker
  mounts : List StorageMount
  holders : List Holder
  relationships : List PyStr
  relationshipEdges : List RelationshipEdge
  inspectionComplete : Bool

def relationshipEdges (device : PyDict) (holders : List Holder) : List RelationshipEdge :=
  (match majorMinorOf device with
    | some parent =>
      ((deviceTree device).tail.filterMap majorMinorOf).map fun child =>
        { parentMajorMinor := parent
          childMajorMinor := child
          relationshipType := .ofString "partition" }
    | none => []) ++
  holders.map fun holder =>
    { parentMajorMinor := holder.parentMajorMinor
      childMajorMinor := holder.majorMinor
      relationshipType := holder.holderType }

/-- The mounts on the related devices. -/
def relatedMounts (strings : Strings) (related : List PyStr) (mounts : List PyDict) :
    List StorageMount :=
  (mounts.filterMap (normalizeMount strings)).filter fun mount => mount.majorMinor ∈ related

def topologyBlockers (sources : List PyStr) : List StorageBlocker := if sources.isEmpty then
    [{ reason := "missing_source_topology"
       majorMinor := .ofString "unknown"
       detail := .ofString "source has no valid major:minor identity" }]
  else []

def mountBlockers (mounts : List StorageMount) : List StorageBlocker :=
  (mounts.filter fun mount => mount.mode = .readWrite).map fun mount =>
    { reason := "source_mounted_read_write"
      majorMinor := mount.majorMinor
      detail := mount.mountPoint }

def holderBlockers (holders : List Holder) : List StorageBlocker :=
  (holders.filter fun holder => holder.holderType ∉ supportedHolderTypes).map fun holder =>
    { reason := "unsupported_holder"
      majorMinor := holder.majorMinor
      detail := holder.holderName }

def inspectStorageState (strings : Strings) (device : PyDict) (mounts : List PyDict)
    (holders : Option Holders) : StorageState :=
  let sources := sourceMajorMinors device
  let graph := holderGraph (holders.getD [])
  let related := withDescendants sources graph
  let mounts := relatedMounts strings related mounts
  let held := relatedHolders sources graph
  let blockers := topologyBlockers sources ++ mountBlockers mounts ++ holderBlockers held
  { sourceId := device.get "source_id"
    kernelName := device.get "kernel_name"
    safeForPreparation := blockers.isEmpty
    blockers := blockers
    mounts := mounts
    holders := held
    relationships := sortedNodes related
    relationshipEdges := relationshipEdges device held
    inspectionComplete := true }

/-! ## Holders that are recorded more than once -/

/-- What the records of one holder come to. -/
def summary : List Holder → Option Holder
  | [] => none
  | first :: rest => some (if rest.all fun holder => holder = first then first else first.ambiguous)

theorem find?_addHolder (holders : List Holder) (holder : Holder) (child : PyStr) :
    (addHolder holders holder).find? (fun other => other.majorMinor = child) =
      if holder.majorMinor = child then
        some (match holders.find? fun other => other.majorMinor = child with
          | none => holder
          | some existing => if existing = holder then existing else existing.ambiguous)
      else holders.find? fun other => other.majorMinor = child := by
  induction holders with
  | nil =>
    rw [addHolder, List.find?_cons]
    by_cases same : holder.majorMinor = child
    · simp [same]
    · simp [same]
  | cons existing rest ih =>
    rw [addHolder]
    by_cases same : existing.majorMinor = holder.majorMinor
    · have unchanged : (if existing = holder then existing else existing.ambiguous).majorMinor =
          holder.majorMinor := by
        split
        · exact same
        · exact same
      rw [if_pos same, List.find?_cons, List.find?_cons, unchanged, same]
      by_cases isChild : holder.majorMinor = child
      · simp [isChild]
      · simp [isChild]
    · rw [if_neg same, List.find?_cons, List.find?_cons, ih]
      by_cases isChild : existing.majorMinor = child
      · have different : holder.majorMinor ≠ child := fun equal => same (isChild.trans equal.symm)
        simp [isChild, different]
      · simp [isChild]

theorem summary_append (holders : List Holder) (holder : Holder) :
    summary (holders ++ [holder]) = some (match summary holders with
      | none => holder
      | some existing => if existing = holder then existing else existing.ambiguous) := by
  cases holders with
  | nil => rfl
  | cons first rest =>
    rw [List.cons_append, summary, summary, List.all_append]
    by_cases same : rest.all fun other => other = first
    · by_cases isFirst : holder = first
      · simp [same, isFirst]
      · simp [same, isFirst, Ne.symm isFirst]
    · rw [Bool.not_eq_true] at same
      have idempotent : first.ambiguous.ambiguous = first.ambiguous := rfl
      simp [same, idempotent]

theorem find?_foldl_addHolder (records : List Holder) (child : PyStr) :
    (records.foldl addHolder []).find? (fun other => other.majorMinor = child) =
      summary (records.filter fun holder => holder.majorMinor = child) := by
  induction records using List.reverseRecOn with
  | nil => rfl
  | append_singleton records holder ih =>
    rw [List.foldl_append, List.foldl_cons, List.foldl_nil, find?_addHolder, ih, List.filter_append]
    by_cases isChild : holder.majorMinor = child
    · rw [if_pos isChild, List.filter_cons, if_pos (decide_eq_true isChild), List.filter_nil,
        summary_append]
    · rw [if_neg isChild, List.filter_cons, if_neg (by simp [isChild]), List.filter_nil,
        List.append_nil]

theorem nodup_addHolder {holders : List Holder} (distinct : (holders.map Holder.majorMinor).Nodup)
    (holder : Holder) : ((addHolder holders holder).map Holder.majorMinor).Nodup := by
  have kept : ∀ holders : List Holder, (addHolder holders holder).map Holder.majorMinor =
      if holder.majorMinor ∈ holders.map Holder.majorMinor then holders.map Holder.majorMinor
      else holders.map Holder.majorMinor ++ [holder.majorMinor] := by
    intro holders
    induction holders with
    | nil => rfl
    | cons existing rest ih =>
      rw [addHolder]
      by_cases same : existing.majorMinor = holder.majorMinor
      · rw [if_pos same, if_pos (List.mem_map.mpr ⟨existing, List.mem_cons_self, same⟩)]
        split
        · rfl
        · rfl
      · rw [if_neg same, List.map_cons, ih, List.map_cons]
        by_cases later : holder.majorMinor ∈ rest.map Holder.majorMinor
        · rw [if_pos later, if_pos (List.mem_cons_of_mem _ later)]
        · rw [if_neg later, if_neg]
          · rfl
          · exact List.not_mem_cons_of_ne_of_not_mem (Ne.symm same) later
  rw [kept]
  split
  · exact distinct
  · rename_i new
    refine List.nodup_append.mpr ⟨distinct, by simp, ?_⟩
    rintro _ isOld _ isNew rfl
    rw [List.mem_singleton.mp isNew] at isOld
    exact new isOld

end Reperio.Hostd
