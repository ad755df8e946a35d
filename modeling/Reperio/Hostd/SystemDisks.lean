import Reperio.Hostd.Topology

/-!
# Denial of system disks

`hostd/system_disks.py`: a source that the running system uses, itself or through
devices that are stacked on it, is not scanned by default.
-/

namespace Reperio.Hostd

open Python

/-- A protected use that a device serves. -/
structure DenialReason where
  reason : PyStr
  protectedMajorMinor : PyStr
  detail : PyStr

/-- Whether a device is denied, and for which uses. -/
structure SystemDiskEvaluation where
  sourceId : PyValue
  kernelName : PyValue
  deniedByDefault : Bool
  overrideRequired : Bool
  denialReasons : List DenialReason

namespace SystemDisks

/-- The devices that each device is made of, with the valid numbers only. -/
def parentGraph (ancestry : List (PyStr × List PyStr)) : FiniteGraph PyStr PyStr :=
  graphOf (ancestry.map fun item => (item.1, item.2.filter fun parent => validMajorMinor parent))

def expandAncestry (ancestry : List (PyStr × List PyStr)) : List (PyStr × List PyStr) :=
  expanded (parentGraph ancestry) ((ancestry.map Prod.fst).filter fun node => validMajorMinor node)

def matchesSource (sourceMajorMinors : List PyStr) (protectedMajorMinor : PyStr)
    (ancestry : List (PyStr × List PyStr)) : Bool :=
  decide (protectedMajorMinor ∈ sourceMajorMinors) ||
    ((ancestry.lookup protectedMajorMinor).getD []).any fun ancestor =>
      decide (ancestor ∈ sourceMajorMinors)

/-- Why a protected use denies a source. -/
def denialReason (use : TextDict) : DenialReason :=
  let reason := use.get "reason" (.ofString "protected_system_use")
  { reason := reason
    protectedMajorMinor := use.get "major_minor" []
    detail := use.get "mount_point" reason }

/-- The result, once the ancestry is expanded. -/
def evaluated (device : PyDict) (protectedUses : List TextDict)
    (ancestry : List (PyStr × List PyStr)) : SystemDiskEvaluation :=
  let reasons := protectedUses.filterMap fun use =>
    let protectedMajorMinor := use.get "major_minor" []
    if validMajorMinor protectedMajorMinor &&
        matchesSource (sourceMajorMinors device) protectedMajorMinor ancestry then
      some (denialReason use)
    else none
  { sourceId := device.get "source_id"
    kernelName := device.get "kernel_name"
    deniedByDefault := !reasons.isEmpty
    overrideRequired := !reasons.isEmpty
    denialReasons := reasons }

/-- `evaluate_system_disk_denial` where the interpreter nests so many calls of `visit`. -/
def evaluateSystemDiskDenial (frames : ℕ) (device : PyDict) (protectedUses : List TextDict)
    (ancestry : List (PyStr × List PyStr)) : Except PyError SystemDiskEvaluation :=
  match expandedWithin frames (parentGraph ancestry)
      ((ancestry.map Prod.fst).filter fun node => validMajorMinor node) with
  | none => .error .recursionError
  | some expanded => .ok (evaluated device protectedUses expanded)

/-! ## What it decides -/

/-- A device is made of another. -/
def MadeOf (ancestry : List (PyStr × List PyStr)) (node parent : PyStr) : Prop :=
  parent ∈ (parentGraph ancestry).next node

/-- A valid device that is made of others is expanded. -/
theorem mem_keys {ancestry : List (PyStr × List PyStr)} {node : PyStr}
    (valid : validMajorMinor node = true) (some : (parentGraph ancestry).next node ≠ []) :
    node ∈ (ancestry.map Prod.fst).filter fun node => validMajorMinor node := by
  have isListed := (parentGraph ancestry).listed node some
  change node ∈ (ancestry.map _).map Prod.fst at isListed
  rw [List.map_map] at isListed
  exact List.mem_filter.mpr ⟨isListed, valid⟩

theorem mem_expandAncestry {ancestry : List (PyStr × List PyStr)} {node ancestor : PyStr}
    (valid : validMajorMinor node = true) :
    ancestor ∈ ((expandAncestry ancestry).lookup node).getD [] ↔
      Relation.TransGen (MadeOf ancestry) node ancestor := by
  exact mem_lookup_expanded (mem_keys valid)

/-- A source is denied exactly if some protected device is a source device or made of one. -/
theorem deniedByDefault_iff (device : PyDict) (protectedUses : List TextDict)
    (ancestry : List (PyStr × List PyStr)) :
    (evaluated device protectedUses (expandAncestry ancestry)).deniedByDefault = true ↔
      ∃ use ∈ protectedUses, validMajorMinor (use.get "major_minor" []) = true ∧
        ∃ node ∈ sourceMajorMinors device,
          Relation.ReflTransGen (MadeOf ancestry) (use.get "major_minor" []) node := by
  have each : ∀ node, validMajorMinor node = true →
      (matchesSource (sourceMajorMinors device) node (expandAncestry ancestry) = true ↔
        ∃ other ∈ sourceMajorMinors device,
          Relation.ReflTransGen (MadeOf ancestry) node other) := by
    intro node valid
    rw [matchesSource, Bool.or_eq_true, decide_eq_true_iff, List.any_eq_true]
    constructor
    · rintro (isSource | ⟨ancestor, found, isSource⟩)
      · exact ⟨node, isSource, Relation.ReflTransGen.refl⟩
      · exact ⟨ancestor, of_decide_eq_true isSource,
          ((mem_expandAncestry valid).mp found).to_reflTransGen⟩
    · rintro ⟨other, isSource, path⟩
      rcases Relation.reflTransGen_iff_eq_or_transGen.mp path with rfl | path
      · exact Or.inl isSource
      · exact Or.inr ⟨other, (mem_expandAncestry valid).mpr path, decide_eq_true isSource⟩
  unfold evaluated
  rw [Bool.not_eq_true', List.isEmpty_eq_false_iff_exists_mem]
  simp only [List.mem_filterMap]
  constructor
  · rintro ⟨reason, use, isUse, found⟩
    split at found
    · rename_i both
      rcases Bool.and_eq_true_iff.mp both with ⟨valid, isMatch⟩
      exact ⟨use, isUse, valid, (each _ valid).mp isMatch⟩
    · cases found
  · rintro ⟨use, isUse, valid, path⟩
    refine ⟨denialReason use, use, isUse, ?_⟩
    rw [valid, (each _ valid).mpr path]
    rfl

/-- The evaluation raises exactly if devices are stacked as deep as the stack is. -/
theorem evaluateSystemDiskDenial_cases (frames : ℕ) (device : PyDict)
    (protectedUses : List TextDict) (ancestry : List (PyStr × List PyStr)) :
    (evaluateSystemDiskDenial (frames + 1) device protectedUses ancestry =
        .ok (evaluated device protectedUses (expandAncestry ancestry)) ∧
      ¬∃ node, validMajorMinor node = true ∧
        FiniteGraph.HasPath (MadeOf ancestry) (frames + 1) node []) ∨
    (evaluateSystemDiskDenial (frames + 1) device protectedUses ancestry = .error .recursionError ∧
      ∃ node, validMajorMinor node = true ∧
        FiniteGraph.HasPath (MadeOf ancestry) (frames + 1) node []) := by
  have isKey : ∀ node, validMajorMinor node = true →
      FiniteGraph.HasPath (MadeOf ancestry) (frames + 1) node [] →
        node ∈ (ancestry.map Prod.fst).filter fun node => validMajorMinor node := by
    intro node valid path
    rcases (FiniteGraph.hasPath_succ_iff.mp path).2 with ⟨next, made, _⟩
    exact mem_keys valid (List.ne_nil_of_mem made)
  rw [evaluateSystemDiskDenial]
  rcases expandedWithin_cases (frames + 1) (parentGraph ancestry)
      ((ancestry.map Prod.fst).filter fun node => validMajorMinor node) with
    ⟨expands, short⟩ | ⟨overflows, node, isListed, long⟩
  · rw [expands]
    exact Or.inl ⟨rfl, fun ⟨node, valid, path⟩ => short ⟨node, isKey node valid path, path⟩⟩
  · rw [overflows]
    exact Or.inr ⟨rfl, node, (List.mem_filter.mp isListed).2, long⟩

end SystemDisks

end Reperio.Hostd
