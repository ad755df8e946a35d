import Reperio.Hostd.StorageInspection
import Reperio.Python.Repr

/-!
# Kernel read-only preparation

`hostd/read_only.py`: a source and all its children are set read-only in the
kernel and verified, one after the other. What the kernel does is a parameter:
each operation may succeed or raise, on each target alone.
-/

namespace Reperio.Hostd

open Python

/-- A device that is to be read-only. -/
structure Target where
  kernelName : PyStr
  majorMinor : PyStr
  deriving DecidableEq

/-- An operation that raises `OSError` gives the name of its class. -/
structure ReadOnlyOps where
  setReadOnly : Target → Except PyStr Unit
  verifyReadOnly : Target → Except PyStr Bool

/-- A reason why the preparation stopped. -/
structure ReadOnlyBlocker where
  reason : String
  majorMinor : Option PyStr := none
  detail : PyStr
  deriving DecidableEq

/-- What was done to one device. -/
structure TargetResult where
  kernelName : PyStr
  majorMinor : PyStr
  setReadOnly : Bool := false
  verifiedReadOnly : Bool := false

/-- The audit record of a preparation. -/
structure ReadOnlyAudit where
  event : String := "kernel_read_only_preparation"
  sourceId : PyValue
  prepared : Bool
  targetCount : ℕ
  verifiedMajorMinors : List PyStr

/-- What a preparation returns. -/
structure ReadOnlyResult where
  sourceId : PyValue
  prepared : Bool
  targets : List TargetResult
  blockers : List ReadOnlyBlocker
  audit : ReadOnlyAudit

/-! ## Targets -/

/-- `KERNEL_NAME_RE`, and no `..`. -/
def validKernelName (value : PyStr) : Bool :=
  let isAlphanumeric := fun point => isUpper point || isLower point || isDigit point
  matchesName isAlphanumeric (fun point => isAlphanumeric point || isOneOf "._+-" point) 127
    value && !hasPart value ".."

def targetOf (item : PyDict) : Option Target :=
  match item.get "kernel_name", item.get "major_minor" with
  | .text kernelName, .text majorMinor =>
    if validKernelName kernelName && validMajorMinor majorMinor then
      some { kernelName, majorMinor }
    else none
  | _, _ => none

/-- `_targets`. -/
def targetsOf (device : PyDict) : List Target := (deviceTree device).filterMap targetOf

def targetBlockers (device : PyDict) (targets : List Target) : List ReadOnlyBlocker :=
  match device.get "children" with
  | .list children =>
    if targets.length ≠ 1 + children.length then
      [{ reason := "invalid_source_target", detail := .ofString "target facts are incomplete" }]
    -- a set is as long as the list it is made of, if all elements differ
    else if ¬(targets.map Target.kernelName).Nodup ∨ ¬(targets.map Target.majorMinor).Nodup then
      [{ reason := "duplicate_source_target", detail := .ofString "target facts are ambiguous" }]
    else []
  | _ => [{ reason := "invalid_source_topology", detail := .ofString "children must be a list" }]

/-! ## Preparation -/

def auditOf (device : PyDict) (targets : List TargetResult) (prepared : Bool) : ReadOnlyAudit where
  sourceId := device.get "source_id"
  prepared := prepared
  targetCount := targets.length
  verifiedMajorMinors :=
    (targets.filter fun target => target.verifiedReadOnly).map TargetResult.majorMinor

/-- `value is True`. -/
def isTrue : PyValue → Bool
  | .bool value => value
  | _ => false

def reasonItem (reason : String) : PyValue := .dict [(.str "reason", .str reason)]

def storageBlockers (storageState : Option PyDict) : Except PyError (List PyValue) := do
  let blockers ← listOf ((PyDict.get? (storageState.getD []) "blockers").getD (.list []))
  match storageState with
  | none => return blockers ++ [reasonItem "storage_inspection_required"]
  | some state =>
    if !isTrue (state.get "inspection_complete") then
      return blockers ++ [reasonItem "storage_inspection_incomplete"]
    else if !isTrue (state.get "safe_for_preparation") then
      return blockers ++ [reasonItem "storage_state_not_safe"]
    else return blockers

/-- What one target comes to, and what blocks it. -/
def prepareTarget (ops : ReadOnlyOps) (target : Target) : TargetResult × List ReadOnlyBlocker :=
  let result : TargetResult := { kernelName := target.kernelName, majorMinor := target.majorMinor }
  let blocker := fun reason detail =>
    ({ reason, majorMinor := some target.majorMinor, detail } : ReadOnlyBlocker)
  match ops.setReadOnly target with
  | .error name => (result, [blocker "read_only_set_failed" name])
  | .ok () =>
    let result := { result with setReadOnly := true }
    match ops.verifyReadOnly target with
    | .error name => (result, [blocker "read_only_verify_failed" name])
    | .ok true => ({ result with verifiedReadOnly := true }, [])
    | .ok false => (result, [blocker "read_only_verify_false" target.kernelName])

/-- The result of a source of which no target is touched. -/
def untouched (device : PyDict) (blockers : List ReadOnlyBlocker) : ReadOnlyResult where
  sourceId := device.get "source_id"
  prepared := false
  targets := []
  blockers := blockers
  audit := auditOf device [] false

def prepareTargets (ops : ReadOnlyOps) (device : PyDict) (targets : List Target) : ReadOnlyResult :=
  let results := targets.map fun target => (prepareTarget ops target).1
  let blockers := targets.flatMap fun target => (prepareTarget ops target).2
  let prepared := !targets.isEmpty && blockers.isEmpty && results.all TargetResult.verifiedReadOnly
  { sourceId := device.get "source_id"
    prepared := prepared
    targets := results
    blockers := blockers
    audit := auditOf device results prepared }

def prepareReadOnly (strings : Strings) (device : PyDict) (ops : ReadOnlyOps)
    (storageState : Option PyDict) : Except PyError ReadOnlyResult := do
  let stateBlockers ← storageBlockers storageState
  if !stateBlockers.isEmpty then
    return untouched device (stateBlockers.map fun blocker =>
      { reason := "storage_state_blocked", detail := strings.str blocker })
  else
    let targets := targetsOf device
    let blockers := targetBlockers device targets
    if !blockers.isEmpty then return untouched device blockers
    else return prepareTargets ops device targets

/-! ## When a source is prepared -/

/-- The value is a device with a kernel name and a device number. -/
def IsTarget (value : PyValue) (target : Target) : Prop :=
  ∃ item, value = .dict item ∧ PyDict.get item "kernel_name" = .text target.kernelName ∧
    validKernelName target.kernelName = true ∧
    PyDict.get item "major_minor" = .text target.majorMinor ∧
    validMajorMinor target.majorMinor = true

/-- Every device of the source is one target, and no two have a name or a number in common. -/
structure HasTargets (device : PyDict) (targets : List Target) : Prop where
  listed : ∃ children, device.get "children" = .list children ∧
    List.Forall₂ IsTarget (.dict device :: children) targets
  namesDiffer : (targets.map Target.kernelName).Nodup
  numbersDiffer : (targets.map Target.majorMinor).Nodup

/-- The target is set read-only, and that is verified. -/
def Verified (ops : ReadOnlyOps) (target : Target) : Prop :=
  ops.setReadOnly target = .ok () ∧ ops.verifyReadOnly target = .ok true

/-- The inspection is complete, found the state safe and names nothing that blocks it. -/
def IsClear (state : PyDict) : Prop :=
  state.get "inspection_complete" = .bool true ∧ state.get "safe_for_preparation" = .bool true ∧
    listOf ((state.get? "blockers").getD (.list [])) = .ok []

theorem isTrue_iff {value : PyValue} : isTrue value = true ↔ value = .bool true := by
  cases value with
  | bool value =>
    cases value with
    | false => simp [isTrue]
    | true => simp [isTrue]
  | _ => simp [isTrue]

variable {storageState : Option PyDict} {device : PyDict} {ops : ReadOnlyOps}

theorem storageBlockers_eq_nil_iff :
    storageBlockers storageState = .ok [] ↔ ∃ state, storageState = some state ∧ IsClear state := by
  constructor
  · intro noBlockers
    rcases bind_eq_ok noBlockers with ⟨blockers, listed, returned⟩
    cases storageState with
    | none => simp [pure, Except.pure] at returned
    | some state =>
      refine ⟨state, rfl, ?_⟩
      dsimp only at returned
      split at returned
      · simp [pure, Except.pure] at returned
      · rename_i complete
        split at returned
        · simp [pure, Except.pure] at returned
        · rename_i safe
          rw [Bool.not_eq_true, Bool.not_eq_false'] at complete safe
          obtain rfl := Except.ok.inj returned
          exact ⟨isTrue_iff.mp complete, isTrue_iff.mp safe, listed⟩
  · rintro ⟨state, rfl, complete, safe, listed⟩
    unfold storageBlockers
    rw [Option.getD_some, listed]
    simp only [complete, safe]
    rfl

theorem targetOf_eq_some_iff {item : PyDict} {target : Target} :
    targetOf item = some target ↔ IsTarget (.dict item) target := by
  unfold targetOf
  constructor
  · intro found
    split at found
    · rename_i kernelName majorMinor isName isNumber
      split at found
      · rename_i valid
        rw [Bool.and_eq_true] at valid
        obtain rfl := Option.some.inj found
        exact ⟨item, rfl, isName, valid.1, isNumber, valid.2⟩
      · cases found
    · cases found
  · rintro ⟨other, same, isName, validName, isNumber, validNumber⟩
    obtain rfl := PyValue.dict.inj same
    rw [isName, isNumber]
    dsimp only
    rw [validName, validNumber, Bool.and_self, if_pos rfl]

/-- The children that are targets are as many as there are children, only if all of them are. -/
theorem forall₂_iff_filterMap {α β : Type} {parse : α → Option β} {items : List α}
    {results : List β} :
    List.Forall₂ (fun item result => parse item = some result) items results ↔
      items.filterMap parse = results ∧ results.length = items.length := by
  induction items generalizing results with
  | nil =>
    rw [List.forall₂_nil_left_iff, List.filterMap_nil]
    constructor
    · rintro rfl
      exact ⟨rfl, rfl⟩
    · rintro ⟨rfl, _⟩
      rfl
  | cons item items ih =>
    constructor
    · rintro (_ | ⟨found, rest⟩)
      rcases ih.mp rest with ⟨rfl, length⟩
      rw [List.filterMap_cons_some found]
      exact ⟨rfl, congrArg (· + 1) length⟩
    · rintro ⟨rfl, length⟩
      cases found : parse item with
      | none =>
        rw [List.filterMap_cons_none found] at length
        have bound := List.length_filterMap_le parse items
        rw [length, List.length_cons] at bound
        exact absurd bound (Nat.not_succ_le_self _)
      | some result =>
        rw [List.filterMap_cons_some found] at length ⊢
        exact .cons found (ih.mpr ⟨rfl, Nat.succ.inj length⟩)

/-- The target of any value; only a dictionary has one. -/
def valueTarget : PyValue → Option Target
  | .dict item => targetOf item
  | _ => none

theorem valueTarget_eq_some_iff {value : PyValue} {target : Target} :
    valueTarget value = some target ↔ IsTarget value target := by
  cases value with
  | dict item => exact targetOf_eq_some_iff
  | _ => simp [valueTarget, IsTarget]

theorem targetsOf_eq {children : List PyValue} (isList : device.get "children" = .list children) :
    targetsOf device = (PyValue.dict device :: children).filterMap valueTarget := by
  unfold targetsOf deviceTree
  rw [isList]
  dsimp only
  rw [List.filterMap_cons, List.filterMap_cons, List.filterMap_filterMap]
  rw [List.filterMap_congr (g := valueTarget)]
  · rfl
  · intro child _
    cases child with
    | _ => rfl

theorem forall₂_isTarget_iff {values : List PyValue} {targets : List Target} :
    List.Forall₂ IsTarget values targets ↔
      values.filterMap valueTarget = targets ∧ targets.length = values.length := by
  rw [← forall₂_iff_filterMap]
  simp only [valueTarget_eq_some_iff]

theorem targetBlockers_eq_nil_iff :
    targetBlockers device (targetsOf device) = [] ↔ HasTargets device (targetsOf device) := by
  unfold targetBlockers
  constructor
  · intro noBlockers
    split at noBlockers
    · rename_i children isList
      split at noBlockers
      · cases noBlockers
      · rename_i complete
        split at noBlockers
        · cases noBlockers
        · rename_i differ
          rw [not_or, not_not, not_not] at differ
          refine ⟨⟨children, isList, ?_⟩, differ.1, differ.2⟩
          rw [ne_eq, not_not, Nat.add_comm] at complete
          exact forall₂_isTarget_iff.mpr ⟨(targetsOf_eq isList).symm, complete⟩
    · cases noBlockers
  · rintro ⟨⟨children, isList, targets⟩, namesDiffer, numbersDiffer⟩
    have complete := targets.length_eq
    rw [List.length_cons] at complete
    rw [isList]
    dsimp only
    rw [if_neg (by omega), if_neg (by simp [namesDiffer, numbersDiffer])]

theorem hasTargets_unique {targets : List Target} (hasTargets : HasTargets device targets) :
    targets = targetsOf device := by
  rcases hasTargets.listed with ⟨children, isList, isTarget⟩
  rw [targetsOf_eq isList]
  exact (forall₂_isTarget_iff.mp isTarget).1.symm

theorem prepareTarget_cases (ops : ReadOnlyOps) (target : Target) :
    (Verified ops target ∧ (prepareTarget ops target).2 = [] ∧
      (prepareTarget ops target).1.verifiedReadOnly = true) ∨
    (¬Verified ops target ∧ (prepareTarget ops target).2 ≠ []) := by
  unfold prepareTarget Verified
  cases ops.setReadOnly target with
  | error name => exact Or.inr ⟨nofun, List.cons_ne_nil _ _⟩
  | ok _ =>
    cases ops.verifyReadOnly target with
    | error name => exact Or.inr ⟨nofun, List.cons_ne_nil _ _⟩
    | ok verified =>
      cases verified with
      | false => exact Or.inr ⟨nofun, List.cons_ne_nil _ _⟩
      | true => exact Or.inl ⟨⟨rfl, rfl⟩, rfl, rfl⟩

theorem prepareTarget_eq_nil_iff {target : Target} :
    (prepareTarget ops target).2 = [] ↔ Verified ops target := by
  rcases prepareTarget_cases ops target with ⟨verified, noBlockers, _⟩ | ⟨unverified, blockers⟩
  · exact iff_of_true noBlockers verified
  · exact iff_of_false blockers unverified

theorem blockers_prepareTargets_iff {ops : ReadOnlyOps} {device : PyDict} {targets : List Target} :
    (prepareTargets ops device targets).blockers = [] ↔
      ∀ target ∈ targets, Verified ops target := by
  change targets.flatMap _ = [] ↔ _
  rw [List.flatMap_eq_nil_iff]
  exact forall₂_congr fun target _ => prepareTarget_eq_nil_iff

theorem prepared_prepareTargets_iff {targets : List Target} (isSome : targets ≠ []) :
    (prepareTargets ops device targets).prepared = true ↔
      ∀ target ∈ targets, Verified ops target := by
  rw [← @blockers_prepareTargets_iff ops device]
  change (!targets.isEmpty && List.isEmpty _ && List.all _ _) = true ↔ _
  rw [Bool.and_eq_true, Bool.and_eq_true, List.isEmpty_iff, and_assoc]
  constructor
  · intro prepared
    exact prepared.2.1
  · intro noBlockers
    refine ⟨by simp [isSome], noBlockers, ?_⟩
    rw [List.all_map, List.all_eq_true]
    intro target isTarget
    have verified := blockers_prepareTargets_iff.mp noBlockers target isTarget
    rcases prepareTarget_cases ops target with ⟨_, _, isVerified⟩ | ⟨unverified, _⟩
    · exact isVerified
    · exact absurd verified unverified

/-- The state is clear, and all targets of the source are verified. -/
def IsPrepared (ops : ReadOnlyOps) (device : PyDict) (storageState : Option PyDict) : Prop :=
  (∃ state, storageState = some state ∧ IsClear state) ∧
    ∃ targets, HasTargets device targets ∧ ∀ target ∈ targets, Verified ops target

/-- A result says that the source is prepared exactly if it is, and otherwise names what blocks it.
-/
theorem prepareReadOnly_spec {strings : Strings} {result : ReadOnlyResult}
    (returned : prepareReadOnly strings device ops storageState = .ok result) :
    (result.prepared = true ↔ IsPrepared ops device storageState) ∧
    (result.blockers = [] ↔ result.prepared = true) := by
  rcases bind_eq_ok returned with ⟨stateBlockers, isState, returned⟩
  have untouchedCase : ∀ blockers : List ReadOnlyBlocker, blockers ≠ [] →
      ¬IsPrepared ops device storageState → result = untouched device blockers →
      (result.prepared = true ↔ IsPrepared ops device storageState) ∧
        (result.blockers = [] ↔ result.prepared = true) := by
    rintro blockers isBlocked unprepared rfl
    exact ⟨iff_of_false Bool.false_ne_true unprepared, iff_of_false isBlocked Bool.false_ne_true⟩
  cases stateBlockers with
  | cons blocker others =>
    refine untouchedCase _ (List.cons_ne_nil _ _) ?_ (Except.ok.inj returned).symm
    rintro ⟨isClear, _⟩
    rw [storageBlockers_eq_nil_iff.mpr isClear] at isState
    cases isState
  | nil =>
    have isClear := storageBlockers_eq_nil_iff.mp isState
    cases noTargets : targetBlockers device (targetsOf device) with
    | cons blocker others =>
      refine untouchedCase (blocker :: others) (List.cons_ne_nil _ _) ?_ ?_
      · rintro ⟨_, targets, hasTargets, _⟩
        obtain rfl := hasTargets_unique hasTargets
        rw [targetBlockers_eq_nil_iff.mpr hasTargets] at noTargets
        cases noTargets
      · simp only [noTargets] at returned
        exact (Except.ok.inj returned).symm
    | nil =>
      have hasTargets := targetBlockers_eq_nil_iff.mp noTargets
      have isSome : targetsOf device ≠ [] := by
        rcases hasTargets.listed with ⟨children, _, isTarget⟩
        intro isEmpty
        rw [isEmpty] at isTarget
        cases isTarget
      simp only [noTargets] at returned
      obtain rfl := Except.ok.inj returned
      rw [prepared_prepareTargets_iff isSome, blockers_prepareTargets_iff]
      refine ⟨⟨fun verified => ⟨isClear, _, hasTargets, verified⟩, ?_⟩, Iff.rfl⟩
      rintro ⟨_, targets, others, verified⟩
      obtain rfl := hasTargets_unique others
      exact verified

end Reperio.Hostd
