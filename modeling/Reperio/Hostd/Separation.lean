import Reperio.Hostd.DestinationSeparation
import Reperio.Hostd.SystemDisks

/-!
# What decides separation

Both evaluations decide by the full closure of a graph of devices, with any
cycles. The mount that the destination is judged by is the first one in the table
with the longest mount point, though the last one is what is visible there.
-/

namespace Reperio.Hostd

open Python

namespace DestinationSeparation

/-! ## Closures -/

/-- A device shared with the source is reported, and a source of the running system is denied,
exactly if the closures say so, unless devices are stacked so deep that the recursion overflows the
stack. -/
theorem closures_decide_iff (frames : ℕ) :
    (∀ (resolver : PathResolver) (source : PyDict) (destination : Destination)
      (mounts : List PyDict) (holders : Option Holders) (mount : DestinationMount),
      findMount resolver (resolvedPath destination) mounts = some mount →
        isNetwork mount.fstype = false → ((∃ result,
            evaluateWithin (frames + 1) resolver source destination mounts holders = .ok result ∧
              ((∃ blocker ∈ result.blockers,
                blocker.reason = "destination_shares_source_physical_disk") ↔
              ∃ common, (∃ node ∈ sourceMajorMinors source,
                  Relation.ReflTransGen (Holds holders) node common) ∧
                Relation.ReflTransGen (Holds holders) mount.majorMinor common)) ↔
            ¬∃ device, FiniteGraph.HasPath (Holds holders) (frames + 1) device [])) ∧
    ∀ (device : PyDict) (protectedUses : List TextDict) (ancestry : List (PyStr × List PyStr)),
      (∃ evaluation, SystemDisks.evaluateSystemDiskDenial (frames + 1) device protectedUses
        ancestry = .ok evaluation ∧
        (evaluation.deniedByDefault = true ↔
          ∃ use ∈ protectedUses, validMajorMinor (use.get "major_minor" []) = true ∧
            ∃ node ∈ sourceMajorMinors device,
              Relation.ReflTransGen (SystemDisks.MadeOf ancestry) (use.get "major_minor" [])
                node)) ↔
        ¬∃ node, validMajorMinor node = true ∧
          FiniteGraph.HasPath (SystemDisks.MadeOf ancestry) (frames + 1) node [] := by
  refine ⟨?_, ?_⟩
  · intro resolver source destination mounts holders mount found isLocal
    rcases @evaluateWithin_cases resolver source destination mounts holders mount frames found
      isLocal with ⟨evaluated, shallow⟩ | ⟨raised, deep⟩
    · exact iff_of_true ⟨_, evaluated, sharesDisk_iff found isLocal⟩ shallow
    · refine iff_of_false ?_ (not_not.mpr deep)
      rintro ⟨result, returned, _⟩
      rw [raised] at returned
      cases returned
  · intro device protectedUses ancestry
    rcases SystemDisks.evaluateSystemDiskDenial_cases frames device protectedUses ancestry with
      ⟨evaluated, shallow⟩ | ⟨raised, deep⟩
    · exact iff_of_true ⟨_, evaluated, SystemDisks.deniedByDefault_iff _ _ _⟩ shallow
    · refine iff_of_false ?_ (not_not.mpr deep)
      rintro ⟨evaluation, returned, _⟩
      rw [raised] at returned
      cases returned

/-! A disk with one partition, and a file system on a device that is made of the partition. -/

def plainResolver : PathResolver where
  strings := { shown := fun _ => [], lower := id }
  resolve text := .ok ((text.splitOn (.ofChar '/')).filter fun part => part ≠ [])

def diskWithPartition : PyDict := [(.str "major_minor", .str "8:16"),
    (.str "children", .list [.dict [(.str "major_minor", .str "8:17")]])]

def mountedAt (majorMinor : String) : PyDict :=
  [(.str "mount_point", .str "/mnt/out"), (.str "major_minor", .str majorMinor),
    (.str "fstype", .str "ext4")]

def mountOn (majorMinor : String) : DestinationMount where
  mountPoint := [.ofString "mnt", .ofString "out"]
  majorMinor := .ofString majorMinor
  fstype := .ofString "ext4"

def mountedDestination : Destination where
  path := .ofString "/mnt/out"
  resolved := .ok [.ofString "mnt", .ofString "out"]
  absolute := [.ofString "mnt", .ofString "out"]
  isThere := true

/-- The device holds the partition, and itself. -/
def cyclicHolders : Holders :=
  [(.ofString "8:17", [[(.ofString "major_minor", .ofString "253:0")]]),
    (.ofString "253:0", [[(.ofString "major_minor", .ofString "253:0")]])]

theorem closures_decide_iff_stacked :
    (∃ result, evaluateWithin 1000 plainResolver diskWithPartition mountedDestination
        [mountedAt "253:0"] (some cyclicHolders) = .ok result ∧
      ((∃ blocker ∈ result.blockers, blocker.reason = "destination_shares_source_physical_disk") ↔
        ∃ common, (∃ node ∈ sourceMajorMinors diskWithPartition,
            Relation.ReflTransGen (Holds (some cyclicHolders)) node common) ∧
          Relation.ReflTransGen (Holds (some cyclicHolders)) (mountOn "253:0").majorMinor common)) ↔
      ¬∃ device, FiniteGraph.HasPath (Holds (some cyclicHolders)) 1000 device [] :=
  (closures_decide_iff 999).1 plainResolver diskWithPartition mountedDestination [mountedAt "253:0"]
    (some cyclicHolders) (mountOn "253:0") (by decide) (by decide)

/-! Devices that are stacked on each other, in a chain without end. -/

/-- The number `11…1:0`. -/
def deviceAt (index : ℕ) : PyStr :=
  [.ofChar ':'].intercalate [List.replicate (index + 1) (.ofChar '1'), [.ofChar '0']]

theorem validMajorMinor_deviceAt (index : ℕ) : validMajorMinor (deviceAt index) = true := by
  have pieces : (deviceAt index).splitOn (.ofChar ':') =
      [List.replicate (index + 1) (.ofChar '1'), [.ofChar '0']] := by
    apply List.splitOn_intercalate
    · intro piece isPiece
      rcases List.mem_pair.mp isPiece with rfl | rfl
      · exact fun member => absurd (List.eq_of_mem_replicate member) (by decide)
      · decide
    · exact List.cons_ne_nil _ _
  have isMajor : isNumber (List.replicate (index + 1) (.ofChar '1')) = true := by
    cases index with
    | zero => decide
    | succ index =>
      have digits : (List.replicate (index + 1) (CodePoint.ofChar '1')).all isDigit = true :=
        List.all_eq_true.mpr fun point member => List.eq_of_mem_replicate member ▸ by decide
      rw [List.replicate_succ, List.replicate_succ, isNumber, ← List.replicate_succ, digits]
      · decide
      · exact List.cons_ne_nil _ _
  rw [validMajorMinor, pieces]
  exact Bool.and_eq_true_iff.mpr ⟨isMajor, by decide⟩

def stackedHolders (count : ℕ) : Holders := (List.range count).map fun index =>
    (deviceAt (index + 1), [[(.ofString "major_minor", deviceAt index)]])

theorem holds_stacked {count index : ℕ} (isBelow : index < count) :
    Holds (some (stackedHolders count)) (deviceAt index) (deviceAt (index + 1)) := by
  refine ⟨[(.ofString "major_minor", deviceAt index)], ⟨⟨_, List.mem_map.mpr
    ⟨index, List.mem_range.mpr isBelow, rfl⟩, List.mem_cons_self⟩, validMajorMinor_deviceAt _, ?_⟩,
      rfl⟩
  exact validMajorMinor_deviceAt index

theorem hasPath_stacked (count : ℕ) :
    FiniteGraph.HasPath (Holds (some (stackedHolders count))) count (deviceAt 0) [] := by
  have path : (deviceAt 0 :: (List.range count).map fun index => deviceAt (index + 1)) =
      (List.range (count + 1)).map deviceAt := by
    rw [List.range_succ_eq_map, List.map_cons, List.map_map]
    rfl
  have apart : Function.Injective deviceAt := by
    intro first second same
    have lengths := congrArg List.length same
    simpa [deviceAt] using lengths
  refine ⟨(List.range count).map fun index => deviceAt (index + 1), ?_, ?_, ?_,
    fun _ _ => List.not_mem_nil⟩
  · rw [List.length_map, List.length_range]
  · rw [path, List.isChain_map, List.isChain_range_succ]
    exact fun index isBelow => holds_stacked isBelow
  · rw [path]
    exact (List.nodup_range.map apart).sublist (List.dropLast_sublist _)

/-- A thousand stacked devices are too many for the recursion limit of the interpreter. -/
theorem stackedDevices_raise :
    findMount plainResolver (resolvedPath mountedDestination) [mountedAt "253:0"] =
        some (mountOn "253:0") ∧ isNetwork (mountOn "253:0").fstype = false ∧
      ¬∃ result, evaluateWithin 1000 plainResolver diskWithPartition mountedDestination
        [mountedAt "253:0"] (some (stackedHolders 1000)) = .ok result := by
  have found : findMount plainResolver (resolvedPath mountedDestination) [mountedAt "253:0"] =
      some (mountOn "253:0") := by decide
  refine ⟨found, by decide, ?_⟩
  rintro ⟨result, returned⟩
  rcases @evaluateWithin_cases plainResolver diskWithPartition mountedDestination _
    (some (stackedHolders 1000)) _ 999 found (by decide) with ⟨_, shallow⟩ | ⟨raised, _⟩
  · exact shallow ⟨_, hasPath_stacked 1000⟩
  · rw [raised] at returned
    cases returned

/-! ## The first of the longest -/

section First

variable {α : Type} {key : α → ℕ}

theorem argmax_append {best : α} {before after : List α}
    (shorter : ∀ other ∈ before, key other < key best)
    (notLonger : ∀ other ∈ after, key other ≤ key best) :
    (before ++ best :: after).argmax key = some best := by
  induction before with
  | nil =>
    rw [List.nil_append, List.argmax_cons]
    cases found : after.argmax key with
    | none => rfl
    | some other =>
      exact if_neg (Nat.not_lt.mpr (notLonger other (List.argmax_mem found)))
  | cons first before ih =>
    rw [List.cons_append, List.argmax_cons,
      ih fun other isBefore => shorter other (List.mem_cons_of_mem _ isBefore)]
    exact if_pos (shorter first List.mem_cons_self)

theorem exists_append_of_argmax {best : α} {values : List α}
    (found : values.argmax key = some best) :
    ∃ before after, values = before ++ best :: after ∧ (∀ other ∈ before, key other < key best) ∧
      ∀ other ∈ after, key other ≤ key best := by
  induction values with
  | nil => cases found
  | cons first values ih =>
    rw [List.argmax_cons] at found
    cases rest : values.argmax key with
    | none =>
      rw [rest] at found
      obtain rfl := Option.some.inj found
      rw [List.argmax_eq_none.mp rest]
      exact ⟨[], [], rfl, nofun, nofun⟩
    | some other =>
      rw [rest] at found
      dsimp only at found
      split at found
      · rename_i longer
        obtain rfl := Option.some.inj found
        rcases ih rest with ⟨before, after, rfl, shorter, notLonger⟩
        exact ⟨first :: before, after, rfl, List.forall_mem_cons.mpr ⟨longer, shorter⟩, notLonger⟩
      · rename_i notLonger
        obtain rfl := Option.some.inj found
        refine ⟨[], values, rfl, nofun, fun value isValue => ?_⟩
        exact (List.le_of_mem_argmax isValue rest).trans (Nat.not_lt.mp notLonger)

end First

variable (resolver : PathResolver) (path : AbsolutePath)

/-- The record is accepted and its mount point is the path or above it. -/
def candidate (mount : PyDict) : Option DestinationMount :=
  (normalizeMount resolver mount).filter fun normalized => path.isBelow normalized.mountPoint

/-- The first of the accepted records whose mount points match the path best. -/
def IsFirst (mounts : List PyDict) (mount : DestinationMount) : Prop :=
  ∃ before record after, mounts = before ++ record :: after ∧
    candidate resolver path record = some mount ∧
    (∀ other ∈ before, ∀ hidden, candidate resolver path other = some hidden →
      hidden.mountPoint.length < mount.mountPoint.length) ∧
    ∀ other ∈ after, ∀ hidden, candidate resolver path other = some hidden →
      hidden.mountPoint.length ≤ mount.mountPoint.length

theorem findMount_eq_some_iff {mounts : List PyDict} {mount : DestinationMount} :
    findMount resolver path mounts = some mount ↔ IsFirst resolver path mounts mount := by
  have asCandidates : findMount resolver path mounts =
      (mounts.filterMap (candidate resolver path)).argmax fun mount => mount.mountPoint.length := by
    rw [findMount, List.filter_filterMap]
    rfl
  rw [asCandidates]
  constructor
  · intro found
    rcases exists_append_of_argmax found with ⟨before, after, split, shorter, notLonger⟩
    rcases List.filterMap_eq_append_iff.mp split with ⟨front, back, rfl, rfl, isBack⟩
    rcases List.filterMap_eq_cons_iff.mp isBack
      with ⟨skipped, record, rest, rfl, none, isMount, rfl⟩
    refine ⟨front ++ skipped, record, rest, by simp, isMount, ?_, ?_⟩
    · intro other isOther hidden isHidden
      rcases List.mem_append.mp isOther with isFront | isSkipped
      · exact shorter hidden (List.mem_filterMap.mpr ⟨other, isFront, isHidden⟩)
      · rw [none other isSkipped] at isHidden
        cases isHidden
    · intro other isOther hidden isHidden
      exact notLonger hidden (List.mem_filterMap.mpr ⟨other, isOther, isHidden⟩)
  · rintro ⟨before, record, after, rfl, isMount, shorter, notLonger⟩
    rw [List.filterMap_append, List.filterMap_cons, isMount]
    refine argmax_append ?_ ?_
    · intro hidden isHidden
      rcases List.mem_filterMap.mp isHidden with ⟨other, isOther, isHidden⟩
      exact shorter other isOther hidden isHidden
    · intro hidden isHidden
      rcases List.mem_filterMap.mp isHidden with ⟨other, isOther, isHidden⟩
      exact notLonger other isOther hidden isHidden

/-! ## The visible mount -/

/-- Where a record is mounted. -/
def mountPointOf (mount : PyDict) : Option AbsolutePath :=
  let mountPoint := resolver.strings.field mount "mount_point"
  if mountPoint.startsWith "/" then (resolver.resolve mountPoint).toOption else none

/-- The record is mounted at the path or above it. -/
def covers (mount : PyDict) : Option AbsolutePath :=
  (mountPointOf resolver mount).filter fun mountPoint => path.isBelow mountPoint

/-- The last record of the table among those with the longest mount point. -/
def IsVisible (mounts : List PyDict) (mount : PyDict) : Prop :=
  ∃ before after, mounts = before ++ mount :: after ∧
    ∃ mountPoint, covers resolver path mount = some mountPoint ∧
      (∀ other ∈ before, ∀ hidden, covers resolver path other = some hidden →
        hidden.length ≤ mountPoint.length) ∧
      ∀ other ∈ after, ∀ hidden, covers resolver path other = some hidden →
        hidden.length < mountPoint.length

/-- A local file system on a device that shares a disk with the source. -/
def IsUnsafe (source : PyDict) (holders : Option Holders) (fstype majorMinor : PyStr) : Prop :=
  isNetwork fstype = false ∧ Shares holders source majorMinor

/-- Some visible record is unsafe. -/
def VisibleIsUnsafe (source : PyDict) (mounts : List PyDict) (holders : Option Holders) : Prop :=
  ∃ mount, IsVisible resolver path mounts mount ∧
    IsUnsafe source holders (fstypeOf resolver.strings mount)
      (resolver.strings.field mount "major_minor")

/-- The visible mount decides, exactly if the first record with the longest mount point that is
accepted is unsafe whenever the visible one is. -/
theorem visible_decides_iff (resolver : PathResolver) (source : PyDict) (destination : Destination)
    (mounts : List PyDict) (holders : Option Holders) :
    (destination.isThere = true →
      VisibleIsUnsafe resolver (resolvedPath destination) source mounts holders →
        (evaluateDestinationSeparation resolver source destination mounts holders).separate ≠
          true) ↔
    (destination.isThere = true → (∃ path, destination.resolved = .ok path) →
      VisibleIsUnsafe resolver (resolvedPath destination) source mounts holders →
        ∀ mount, IsFirst resolver (resolvedPath destination) mounts mount →
          IsUnsafe source holders mount.fstype mount.majorMinor) := by
  constructor
  · intro decides isThere resolved isUnsafe mount isFirst
    have notSeparate := decides isThere isUnsafe
    have found := (findMount_eq_some_iff resolver _).mpr isFirst
    have noBlockers : pathBlockers source destination = [] := by
      rcases isUnsafe with ⟨_, _, _, _, ⟨node, isSource, _⟩, _⟩
      exact pathBlockers_eq_nil_iff.mpr ⟨resolved, isThere, List.ne_nil_of_mem isSource⟩
    cases isLocal : isNetwork mount.fstype with
    | true => exact absurd ((separate_of_network_iff found isLocal).mpr noBlockers) notSeparate
    | false =>
      refine ⟨isLocal, ?_⟩
      by_contra apart
      exact notSeparate ((separate_of_local_iff found isLocal).mpr ⟨noBlockers, apart⟩)
  · intro first isThere isUnsafe separate
    cases found : findMount resolver (resolvedPath destination) mounts with
    | none =>
      rw [not_separate_of_unmounted found] at separate
      cases separate
    | some mount =>
      have isFirst := (findMount_eq_some_iff resolver _).mp found
      cases isLocal : isNetwork mount.fstype with
      | true =>
        have noBlockers := (separate_of_network_iff found isLocal).mp separate
        have resolved := (pathBlockers_eq_nil_iff.mp noBlockers).1
        have isNotNetwork := (first isThere resolved isUnsafe mount isFirst).1
        rw [isLocal] at isNotNetwork
        cases isNotNetwork
      | false =>
        rcases (separate_of_local_iff found isLocal).mp separate with ⟨noBlockers, apart⟩
        have resolved := (pathBlockers_eq_nil_iff.mp noBlockers).1
        exact apart (first isThere resolved isUnsafe mount isFirst).2

/-! Two mounts on one mount point: what is visible there is the partition of the source. -/

theorem eq_of_ancestor_none {node ancestor : PyStr} (path : Ancestor none node ancestor) :
    node = ancestor := by
  induction path with
  | refl => rfl
  | tail _ step _ =>
    rcases step with ⟨_, ⟨⟨_, isItem, _⟩, _⟩, _⟩
    cases isItem

theorem hidden_mount_decides :
    ¬∀ (resolver : PathResolver) (source : PyDict) (destination : Destination)
      (mounts : List PyDict) (holders : Option Holders), destination.isThere = true →
        VisibleIsUnsafe resolver (resolvedPath destination) source mounts holders →
          (evaluateDestinationSeparation resolver source destination mounts holders).separate ≠
            true := by
  intro decides
  refine decides plainResolver diskWithPartition mountedDestination
    [mountedAt "8:33", mountedAt "8:17"] none rfl ?_ ?_
  · have covered : ∀ majorMinor ∈ ["8:33", "8:17"],
        covers plainResolver (resolvedPath mountedDestination) (mountedAt majorMinor) =
          some [.ofString "mnt", .ofString "out"] := by
      decide
    refine ⟨mountedAt "8:17",
      ⟨[mountedAt "8:33"], [], rfl, _, covered "8:17" (by decide), ?_, nofun⟩,
      by decide, .ofString "8:17", ⟨.ofString "8:17", by decide, .refl⟩, .refl⟩
    intro other isOther hidden isHidden
    obtain rfl := List.mem_singleton.mp isOther
    rw [covered "8:33" (by decide)] at isHidden
    cases isHidden
    exact le_refl _
  · refine (@separate_of_local_iff _ _ _ _ _ (mountOn "8:33") (by decide)
      (by decide)).mpr ⟨by decide, ?_⟩
    rintro ⟨common, ⟨node, isSource, ofSource⟩, ofDestination⟩
    obtain rfl := eq_of_ancestor_none ofSource
    obtain rfl := eq_of_ancestor_none ofDestination
    revert isSource
    decide

end DestinationSeparation

end Reperio.Hostd
