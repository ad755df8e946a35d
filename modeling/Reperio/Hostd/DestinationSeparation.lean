import Mathlib.Data.List.MinMax
import Reperio.Hostd.Topology

/-!
# Separation of the destination from the source

`hostd/destination_separation.py`: recovered files may not be written to a disk
that the source is on, itself or through devices that are stacked on it. A path
that is resolved is the list of its components.
-/

namespace Reperio.Hostd

open Python

/-- The components of an absolute path below the root. -/
abbrev AbsolutePath := List PyStr

namespace AbsolutePath

/-- `str(path)`. -/
def text (path : AbsolutePath) : PyStr := .ofChar '/' :: (path.intersperse [.ofChar '/']).flatten

/-- `path == mount_point or mount_point in path.parents`. -/
def isBelow (path mountPoint : AbsolutePath) : Bool := mountPoint.isPrefixOf path

end AbsolutePath

/-- The file system that paths are resolved in. An error is the name of an `OSError` or of a
`RuntimeError`. -/
structure PathResolver where
  strings : Strings
  resolve : PyStr → Except PyStr AbsolutePath

/-- `destination_path`, and what the file system says about it. -/
structure Destination where
  path : PyStr
  resolved : Except PyStr AbsolutePath
  absolute : AbsolutePath
  isThere : Bool

/-- The mount that a destination is on. -/
structure DestinationMount where
  mountPoint : AbsolutePath
  majorMinor : PyStr
  fstype : PyStr
  deriving DecidableEq

/-- A reason against a destination. -/
structure Blocker where
  reason : String
  detail : PyStr
  deriving DecidableEq

/-- What an evaluation of a destination finds. -/
structure SeparationResult where
  requestedPath : PyStr
  resolvedPath : PyStr
  blockers : List Blocker
  warnings : List String
  mount : Option DestinationMount
  destinationAncestry : List PyStr
  sourceAncestry : List PyStr := []

/-- `separate`: nothing speaks against the destination. -/
def SeparationResult.separate (result : SeparationResult) : Bool := result.blockers.isEmpty

variable {holders : Option Holders}

namespace DestinationSeparation

def networkFilesystems : List String := ["nfs", "nfs4", "cifs", "smb3", "sshfs", "fuse.sshfs"]

def isNetwork (fstype : PyStr) : Bool := networkFilesystems.any fun name => fstype = .ofString name

/-! ## Mounts -/

/-- `FSTYPE_RE`. -/
def isFstype : PyStr → Bool := matchesName (fun point => isLower point || isDigit point)
    (fun point => isLower point || isDigit point || isOneOf "._-" point) 63

/-- A mount point that is accepted before it is resolved. -/
def acceptsMountPoint (mountPoint : PyStr) : Bool :=
  mountPoint.startsWith "/" && decide (mountPoint.length ≤ 4096) &&
    mountPoint.all fun point => decide (32 ≤ point.val)

def fstypeOf (strings : Strings) (mount : PyDict) : PyStr :=
  let fstype := strings.lower (strings.field mount "fstype")
  if isFstype fstype then fstype else .ofString "unknown"

def normalizeMount (resolver : PathResolver) (mount : PyDict) : Option DestinationMount :=
  let mountPoint := resolver.strings.field mount "mount_point"
  let majorMinor := resolver.strings.field mount "major_minor"
  if acceptsMountPoint mountPoint && validMajorMinor majorMinor then
    match resolver.resolve mountPoint with
    | .error _ => none
    | .ok resolved =>
      some {
        mountPoint := resolved
        majorMinor := majorMinor
        fstype := fstypeOf resolver.strings mount }
  else none

/-- The first of the longest mount points. -/
def findMount (resolver : PathResolver) (path : AbsolutePath) (mounts : List PyDict) :
    Option DestinationMount :=
  ((mounts.filterMap (normalizeMount resolver)).filter fun mount =>
    path.isBelow mount.mountPoint).argmax fun mount => mount.mountPoint.length

/-! ## Ancestry -/

/-- The parents of each device. -/
def normalizeHolders (holders : Holders) : List (PyStr × List PyStr) :=
  ((validRecords holders).map fun (parent, record) => (childOf record, parent)).foldl
    (fun normalized pair => update normalized pair.1 fun parents => parents ++ [pair.2]) []

def expandAncestry (parentByChild : List (PyStr × List PyStr)) : List (PyStr × List PyStr) :=
  expanded (graphOf parentByChild) (parentByChild.map Prod.fst)

/-- The devices themselves and all their ancestors. -/
def withAncestors (ancestry : List (PyStr × List PyStr)) (nodes : List PyStr) : List PyStr :=
  (nodes ++ nodes.flatMap fun node => (ancestry.lookup node).getD []).dedup

/-! ## The decision -/

def sharesDisk : String := "destination_shares_source_physical_disk"

/-- `",".join(nodes)`. -/
def joined (nodes : List PyStr) : PyStr := (nodes.intersperse (.ofString ",")).flatten

/-- The destination shares a device with the source. -/
def overlapBlockers (sourceAncestry destinationAncestry : List PyStr) : List Blocker :=
  let overlap := sortedNodes (sourceAncestry.filter fun node => node ∈ destinationAncestry)
  if overlap.isEmpty then [] else [{ reason := sharesDisk, detail := joined overlap }]

/-- What is found before the mounts are looked at. -/
def pathBlockers (source : PyDict) (destination : Destination) : List Blocker :=
  (match destination.resolved with
    | .error name => [{ reason := "destination_path_unresolvable", detail := name }]
    | .ok _ => []) ++
  (if destination.isThere then []
    else [{ reason := "destination_path_missing", detail := destination.path }]) ++
  if (sourceMajorMinors source).isEmpty then
    [{ reason := "missing_source_topology", detail := .ofString "no valid major:minor" }]
  else []

def resolvedPath (destination : Destination) : AbsolutePath := match destination.resolved with
  | .error _ => destination.absolute
  | .ok resolved => resolved

/-- The result where no mount is found. -/
def unmounted (source : PyDict) (destination : Destination) : SeparationResult where
  requestedPath := destination.path
  resolvedPath := (resolvedPath destination).text
  blockers := pathBlockers source destination ++
    [{ reason := "destination_not_mounted", detail := (resolvedPath destination).text }]
  warnings := []
  mount := none
  destinationAncestry := []

/-- The result on a network file system. -/
def remote (source : PyDict) (destination : Destination) (mount : DestinationMount) :
    SeparationResult where
  requestedPath := destination.path
  resolvedPath := (resolvedPath destination).text
  blockers := pathBlockers source destination
  warnings := ["network_filesystem_physical_separation_not_locally_provable"]
  mount := some mount
  destinationAncestry := [mount.majorMinor]

/-- The result on a local file system. -/
def compared (source : PyDict) (destination : Destination) (mount : DestinationMount)
    (ancestry : List (PyStr × List PyStr)) : SeparationResult :=
  let sourceAncestry := withAncestors ancestry (sourceMajorMinors source)
  let destinationAncestry := withAncestors ancestry [mount.majorMinor]
  { requestedPath := destination.path
    resolvedPath := (resolvedPath destination).text
    blockers :=
      pathBlockers source destination ++ overlapBlockers sourceAncestry destinationAncestry
    warnings := []
    mount := some mount
    destinationAncestry := sortedNodes destinationAncestry
    sourceAncestry := sortedNodes sourceAncestry }

/-- `evaluate_destination_separation` on a stack without end. -/
def evaluateDestinationSeparation (resolver : PathResolver) (source : PyDict)
    (destination : Destination) (mounts : List PyDict) (holders : Option Holders) :
    SeparationResult :=
  match findMount resolver (resolvedPath destination) mounts with
  | none => unmounted source destination
  | some mount =>
    if isNetwork mount.fstype then remote source destination mount
    else compared source destination mount (expandAncestry (normalizeHolders (holders.getD [])))

/-- `evaluate_destination_separation` where the interpreter nests so many calls of `visit`. -/
def evaluateWithin (frames : ℕ) (resolver : PathResolver) (source : PyDict)
    (destination : Destination) (mounts : List PyDict) (holders : Option Holders) :
    Except PyError SeparationResult :=
  match findMount resolver (resolvedPath destination) mounts with
  | none => .ok (unmounted source destination)
  | some mount =>
    if isNetwork mount.fstype then .ok (remote source destination mount)
    else
      let parentByChild := normalizeHolders (holders.getD [])
      match expandedWithin frames (graphOf parentByChild) (parentByChild.map Prod.fst) with
      | none => .error .recursionError
      | some ancestry => .ok (compared source destination mount ancestry)

/-! ## Ancestry as a relation -/

/-- A device, or one that it is made of. -/
def Ancestor (holders : Option Holders) (node ancestor : PyStr) : Prop :=
  Relation.ReflTransGen (Holds holders) node ancestor

theorem foldl_append_singleton {α : Type} (values first : List α) :
    values.foldl (fun all value => all ++ [value]) first = first ++ values := by
  induction values generalizing first with
  | nil => rw [List.foldl_nil, List.append_nil]
  | cons value values ih => rw [List.foldl_cons, ih, List.append_assoc, List.singleton_append]

theorem mem_next_normalizeHolders {child parent : PyStr} :
    parent ∈ (graphOf (normalizeHolders (holders.getD []))).next child ↔
      Holds holders child parent := by
  rw [normalizeHolders, next_foldl_update (fun parents parent => parents ++ [parent]),
    next_graphOf_nil, foldl_append_singleton, List.nil_append, List.mem_map]
  constructor
  · rintro ⟨⟨node, other⟩, isPair, rfl⟩
    rcases List.mem_filter.mp isPair with ⟨isHeld, same⟩
    obtain rfl : node = child := of_decide_eq_true same
    rcases List.mem_map.mp isHeld with ⟨⟨first, record⟩, isRecord, isSame⟩
    cases isSame
    exact ⟨record, mem_validRecords.mp isRecord, rfl⟩
  · rintro ⟨record, isRecorded, rfl⟩
    refine ⟨(childOf record, parent), List.mem_filter.mpr ⟨?_, decide_eq_true rfl⟩, rfl⟩
    exact List.mem_map.mpr ⟨(parent, record), mem_validRecords.mpr isRecorded, rfl⟩

theorem mem_withAncestors {nodes : List PyStr} {ancestor : PyStr} :
    ancestor ∈ withAncestors (expandAncestry (normalizeHolders (holders.getD []))) nodes ↔
      ∃ node ∈ nodes, Ancestor holders node ancestor := by
  have ancestors : ∀ node, ancestor ∈
      ((expandAncestry (normalizeHolders (holders.getD []))).lookup node).getD [] ↔
        Relation.TransGen (Holds holders) node ancestor := by
    intro node
    have found := @mem_lookup_expanded _ _ node ancestor
      ((graphOf (normalizeHolders (holders.getD []))).listed node)
    simp only [mem_next_normalizeHolders] at found
    exact found
  rw [withAncestors, List.mem_dedup, List.mem_append, List.mem_flatMap]
  constructor
  · rintro (isNode | ⟨node, isNode, found⟩)
    · exact ⟨ancestor, isNode, Relation.ReflTransGen.refl⟩
    · exact ⟨node, isNode, ((ancestors node).mp found).to_reflTransGen⟩
  · rintro ⟨node, isNode, path⟩
    rcases Relation.reflTransGen_iff_eq_or_transGen.mp path with rfl | path
    · exact Or.inl isNode
    · exact Or.inr ⟨node, isNode, (ancestors node).mpr path⟩

/-- A device shares another, or itself, with the source. -/
def Shares (holders : Option Holders) (source : PyDict) (majorMinor : PyStr) : Prop :=
  ∃ common, (∃ node ∈ sourceMajorMinors source, Ancestor holders node common) ∧
    Ancestor holders majorMinor common

/-- The blockers of the ancestries, when there are any. -/
theorem overlapBlockers_cases (holders : Option Holders) (source : PyDict) (majorMinor : PyStr) :
    (¬Shares holders source majorMinor ∧ overlapBlockers
        (withAncestors (expandAncestry (normalizeHolders (holders.getD [])))
          (sourceMajorMinors source))
        (withAncestors (expandAncestry (normalizeHolders (holders.getD []))) [majorMinor]) = []) ∨
    (Shares holders source majorMinor ∧ ∃ detail, overlapBlockers
        (withAncestors (expandAncestry (normalizeHolders (holders.getD [])))
          (sourceMajorMinors source))
        (withAncestors (expandAncestry (normalizeHolders (holders.getD []))) [majorMinor]) =
          [{ reason := sharesDisk, detail := detail }]) := by
  have overlaps : ∀ common,
      (common ∈ withAncestors (expandAncestry (normalizeHolders (holders.getD [])))
          (sourceMajorMinors source) ∧
        common ∈ withAncestors (expandAncestry (normalizeHolders (holders.getD []))) [majorMinor]) ↔
      (∃ node ∈ sourceMajorMinors source, Ancestor holders node common) ∧
        Ancestor holders majorMinor common := by
    intro common
    rw [mem_withAncestors, mem_withAncestors]
    simp
  unfold overlapBlockers
  dsimp only
  split
  · rename_i empty
    refine Or.inl ⟨?_, rfl⟩
    rintro ⟨common, shared⟩
    rcases (overlaps common).mpr shared with ⟨ofSource, ofDestination⟩
    rw [← Bool.not_eq_false, List.isEmpty_eq_false_iff_exists_mem] at empty
    exact empty ⟨common, mem_sortedNodes.mpr
      (List.mem_filter.mpr ⟨ofSource, decide_eq_true ofDestination⟩)⟩
  · rename_i some
    refine Or.inr ⟨?_, _, rfl⟩
    rw [Bool.not_eq_true, List.isEmpty_eq_false_iff_exists_mem] at some
    rcases some with ⟨common, member⟩
    rcases List.mem_filter.mp (mem_sortedNodes.mp member) with ⟨ofSource, ofDestination⟩
    exact ⟨common, (overlaps common).mp ⟨ofSource, of_decide_eq_true ofDestination⟩⟩

theorem reason_pathBlockers (source : PyDict) (destination : Destination) :
    ∀ blocker ∈ pathBlockers source destination, blocker.reason ≠ sharesDisk := by
  unfold pathBlockers
  intro blocker isBlocker
  simp only [List.mem_append] at isBlocker
  rcases isBlocker with (ofPath | missing) | noTopology
  · split at ofPath
    · obtain rfl := List.mem_singleton.mp ofPath
      change "destination_path_unresolvable" ≠ sharesDisk
      decide
    · cases ofPath
  · split at missing
    · cases missing
    · obtain rfl := List.mem_singleton.mp missing
      change "destination_path_missing" ≠ sharesDisk
      decide
  · split at noTopology
    · obtain rfl := List.mem_singleton.mp noTopology
      decide
    · cases noTopology

theorem pathBlockers_eq_nil_iff {source : PyDict} {destination : Destination} :
    pathBlockers source destination = [] ↔
      (∃ path, destination.resolved = .ok path) ∧ destination.isThere = true ∧
        sourceMajorMinors source ≠ [] := by
  unfold pathBlockers
  rw [List.append_eq_nil_iff, List.append_eq_nil_iff]
  cases destination.resolved with
  | error name => simp
  | ok path => simp

section Evaluate

variable {resolver : PathResolver} {source : PyDict} {destination : Destination}
  {mounts : List PyDict} {holders : Option Holders} {mount : DestinationMount}

theorem blockers_of_local
    (found : findMount resolver (resolvedPath destination) mounts = some mount)
    (isLocal : isNetwork mount.fstype = false) :
    (evaluateDestinationSeparation resolver source destination mounts holders).blockers =
      pathBlockers source destination ++ overlapBlockers
        (withAncestors (expandAncestry (normalizeHolders (holders.getD [])))
          (sourceMajorMinors source))
        (withAncestors (expandAncestry (normalizeHolders (holders.getD [])))
          [mount.majorMinor]) := by
  unfold evaluateDestinationSeparation
  rw [found]
  dsimp only
  rw [isLocal]
  rfl

/-- On a stack the evaluation ends as without, unless devices are stacked as deep as it is. -/
theorem evaluateWithin_cases (frames : ℕ)
    (found : findMount resolver (resolvedPath destination) mounts = some mount)
    (isLocal : isNetwork mount.fstype = false) :
    (evaluateWithin (frames + 1) resolver source destination mounts holders =
        .ok (evaluateDestinationSeparation resolver source destination mounts holders) ∧
      ¬∃ device, FiniteGraph.HasPath (Holds holders) (frames + 1) device []) ∨
    (evaluateWithin (frames + 1) resolver source destination mounts holders =
        .error .recursionError ∧
      ∃ device, FiniteGraph.HasPath (Holds holders) (frames + 1) device []) := by
  have edges : (fun first second =>
      second ∈ (graphOf (normalizeHolders (holders.getD []))).next first) = Holds holders := by
    funext first second
    exact propext mem_next_normalizeHolders
  have isKey : ∀ device, FiniteGraph.HasPath (Holds holders) (frames + 1) device [] →
      device ∈ (normalizeHolders (holders.getD [])).map Prod.fst := by
    intro device path
    rcases (FiniteGraph.hasPath_succ_iff.mp path).2 with ⟨next, holds, _⟩
    exact (graphOf (normalizeHolders (holders.getD []))).listed device
      (List.ne_nil_of_mem (mem_next_normalizeHolders.mpr holds))
  have expands := expandedWithin_cases (frames + 1) (graphOf (normalizeHolders (holders.getD [])))
    ((normalizeHolders (holders.getD [])).map Prod.fst)
  rw [edges] at expands
  rw [evaluateWithin, evaluateDestinationSeparation, found]
  dsimp only
  rw [isLocal]
  rcases expands with ⟨expands, short⟩ | ⟨overflows, long⟩
  · rw [expands]
    exact Or.inl ⟨rfl, fun ⟨device, path⟩ => short ⟨device, isKey device path, path⟩⟩
  · rw [overflows]
    exact Or.inr ⟨rfl, long.imp fun _ => And.right⟩

/-- A shared device is reported exactly if the closures of the two sides meet. -/
theorem sharesDisk_iff (found : findMount resolver (resolvedPath destination) mounts = some mount)
    (isLocal : isNetwork mount.fstype = false) :
    (∃ blocker ∈
      (evaluateDestinationSeparation resolver source destination mounts holders).blockers,
      blocker.reason = sharesDisk) ↔ Shares holders source mount.majorMinor := by
  rw [blockers_of_local found isLocal]
  rcases overlapBlockers_cases holders source
    mount.majorMinor with ⟨apart, none⟩ | ⟨shared, detail, one⟩
  · rw [none, List.append_nil]
    refine iff_of_false ?_ apart
    rintro ⟨blocker, isBlocker, isReason⟩
    exact reason_pathBlockers source destination blocker isBlocker isReason
  · rw [one]
    exact iff_of_true ⟨_, List.mem_append_right _ (List.mem_singleton.mpr rfl), rfl⟩ shared

theorem separate_of_local_iff
    (found : findMount resolver (resolvedPath destination) mounts = some mount)
    (isLocal : isNetwork mount.fstype = false) :
    (evaluateDestinationSeparation resolver source destination mounts holders).separate = true ↔
      pathBlockers source destination = [] ∧ ¬Shares holders source mount.majorMinor := by
  rw [SeparationResult.separate, blockers_of_local found isLocal, List.isEmpty_iff,
    List.append_eq_nil_iff]
  rcases overlapBlockers_cases holders source
    mount.majorMinor with ⟨apart, none⟩ | ⟨shared, detail, one⟩
  · simp [none, apart]
  · simp [one, shared]

theorem separate_of_network_iff
    (found : findMount resolver (resolvedPath destination) mounts = some mount)
    (isNetworkMount : isNetwork mount.fstype = true) :
    (evaluateDestinationSeparation resolver source destination mounts holders).separate = true ↔
      pathBlockers source destination = [] := by
  unfold evaluateDestinationSeparation
  rw [found]
  dsimp only
  rw [isNetworkMount, SeparationResult.separate, List.isEmpty_iff]
  rfl

theorem not_separate_of_unmounted
    (notFound : findMount resolver (resolvedPath destination) mounts = none) :
    (evaluateDestinationSeparation resolver source destination mounts holders).separate =
      false := by
  unfold evaluateDestinationSeparation
  rw [notFound, SeparationResult.separate, List.isEmpty_eq_false_iff_exists_mem]
  exact ⟨_, List.mem_append_right _ (List.mem_singleton.mpr rfl)⟩

end Evaluate

end DestinationSeparation

end Reperio.Hostd
