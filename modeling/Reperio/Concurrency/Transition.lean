import Mathlib.Logic.Basic
import Mathlib.Tactic.Basic
import Mathlib.Data.List.Induction

/-!
# Runs of a deterministic transition system

A system is a partial function from a state and an action to the next state,
and a run is a list of actions. Two kinds of facts are stated about runs:
conditions that every action meets in the state where it is taken
(`EveryStep`), and relations between any two states that the run passes
through (`EverySegment`, `EveryState`). The rules of this file reduce the
second kind to the first, so that what is left to prove of a concrete system
is always about one action.
-/

namespace Reperio.Concurrency

variable {State Action : Type*} (step : State → Action → Option State)

/-- The state that a list of actions leads to, if every action is enabled where it is taken. -/
def runFrom : State → List Action → Option State
  | state, [] => some state
  | state, action :: actions =>
    match step state action with
    | some next => runFrom next actions
    | none => none

/-- Every action of the list meets the condition in the state where it is taken. -/
def EveryStep (condition : State → Action → Prop) : State → List Action → Prop
  | _, [] => True
  | state, action :: actions =>
    condition state action ∧
      ∀ next, step state action = some next → EveryStep condition next actions

instance decidableEveryStep {condition : State → Action → Prop}
    [∀ state action, Decidable (condition state action)] :
    ∀ start actions, Decidable (EveryStep step condition start actions)
  | _, [] => isTrue trivial
  | start, action :: actions =>
    match stepped : step start action with
    | none =>
      decidable_of_iff (condition start action) (by simp [EveryStep, stepped])
    | some next =>
      have : Decidable (EveryStep step condition next actions) := decidableEveryStep next actions
      decidable_of_iff (condition start action ∧ EveryStep step condition next actions)
        (by simp [EveryStep, stepped])

/-- Any two states that the run passes through, one before the other, are related. -/
def EverySegment (related : State → State → Prop) (start : State) (actions : List Action) : Prop :=
  ∀ before segment after, actions = before ++ segment ++ after →
    ∀ first last, runFrom step start before = some first →
      runFrom step first segment = some last → related first last

/-- Every state that the run passes through, the first and the last included, has the property. -/
def EveryState (property : State → Prop) (start : State) (actions : List Action) : Prop :=
  ∀ before after, actions = before ++ after →
    ∀ state, runFrom step start before = some state → property state

/-- The number of actions of a run that are hits in the state where they are taken. -/
def countSteps (hit : State → Action → Bool) : State → List Action → ℕ
  | _, [] => 0
  | state, action :: actions =>
    (if hit state action then 1 else 0) +
      match step state action with
      | some next => countSteps hit next actions
      | none => 0

variable {step}

@[simp]
theorem runFrom_nil (start : State) : runFrom step start [] = some start := rfl

variable {action : Action} {actions : List Action} {invariant : State → Prop}
    {condition other : State → Action → Prop} {property : State → Prop}

theorem runFrom_cons {start : State} {last : State} :
    runFrom step start (action :: actions) = some last ↔
      ∃ next, step start action = some next ∧ runFrom step next actions = some last := by
  simp only [runFrom]
  cases step start action with
  | none => simp
  | some next => simp

theorem runFrom_append {start : State} {before after : List Action} {last : State} :
    runFrom step start (before ++ after) = some last ↔
      ∃ middle, runFrom step start before = some middle ∧
        runFrom step middle after = some last := by
  induction before generalizing start with
  | nil => simp
  | cons action before ih =>
    simp only [List.cons_append, runFrom_cons, ih]
    constructor
    · rintro ⟨next, stepped, middle, ran, rest⟩
      exact ⟨middle, ⟨next, stepped, ran⟩, rest⟩
    · rintro ⟨middle, ⟨next, stepped, ran⟩, rest⟩
      exact ⟨next, stepped, middle, ran, rest⟩

/-- Induction over a run with its past: the action that comes last is peeled off. -/
@[elab_as_elim]
theorem runFrom_induction {start last : State} {motive : List Action → State → Prop}
    (nil : motive [] start)
    (snoc : ∀ past state action next, runFrom step start past = some state → motive past state →
      step state action = some next → motive (past ++ [action]) next)
    (ran : runFrom step start actions = some last) : motive actions last := by
  induction actions using List.reverseRecOn generalizing last with
  | nil =>
    obtain rfl : start = last := Option.some.inj ran
    exact nil
  | append_singleton past action ih =>
    rcases runFrom_append.mp ran with ⟨state, reached, lastStep⟩
    rcases runFrom_cons.mp lastStep with ⟨next, stepped, isLast⟩
    obtain rfl : next = last := Option.some.inj isLast
    exact snoc past state action next reached (ih reached) stepped

theorem countSteps_snoc {hit : State → Action → Bool} {start state next : State}
    {past : List Action} (reached : runFrom step start past = some state)
    (stepped : step state action = some next) :
    countSteps step hit start (past ++ [action]) =
      countSteps step hit start past + if hit state action then 1 else 0 := by
  induction past generalizing start with
  | nil =>
    obtain rfl : start = state := Option.some.inj reached
    simp [countSteps, stepped]
  | cons first past ih =>
    rcases runFrom_cons.mp reached with ⟨middle, firstStepped, rest⟩
    simp only [List.cons_append, countSteps, firstStepped, ih rest]
    exact (Nat.add_assoc _ _ _).symm

/-- An invariant of every enabled action holds in every state of every run. -/
theorem invariant_of_runFrom
    (preserved : ∀ state action next, invariant state → step state action = some next →
      invariant next) {start last : State} (initially : invariant start)
    (ran : runFrom step start actions = some last) : invariant last := by
  induction actions generalizing start with
  | nil =>
    simp only [runFrom_nil, Option.some.injEq] at ran
    exact ran ▸ initially
  | cons action actions ih =>
    rcases runFrom_cons.mp ran with ⟨next, stepped, rest⟩
    exact ih (preserved start action next initially stepped) rest

/-- Conditions that agree wherever an invariant holds are met by the same runs. -/
theorem everyStep_congr
    (preserved : ∀ state action next, invariant state → step state action = some next →
      invariant next)
    (agree : ∀ state action, invariant state → (condition state action ↔ other state action))
    {start : State} (initially : invariant start) :
    EveryStep step condition start actions ↔ EveryStep step other start actions := by
  induction actions generalizing start with
  | nil => exact Iff.rfl
  | cons action actions ih =>
    simp only [EveryStep]
    apply and_congr (agree start action initially)
    apply forall_congr'
    intro next
    apply imp_congr_right
    intro stepped
    exact ih (preserved start action next initially stepped)

theorem everyStep_of_forall (always : ∀ state action, condition state action) (start : State)
    (actions : List Action) : EveryStep step condition start actions := by
  induction actions generalizing start with
  | nil => trivial
  | cons action actions ih => exact ⟨always start action, fun next _ => ih next⟩

theorem everyStep_and {start : State} :
    EveryStep step (fun state action => condition state action ∧ other state action) start actions ↔
      EveryStep step condition start actions ∧ EveryStep step other start actions := by
  induction actions generalizing start with
  | nil => simp only [EveryStep, and_self]
  | cons action actions ih =>
    simp only [EveryStep, ih]
    constructor
    · rintro ⟨⟨first, second⟩, rest⟩
      exact ⟨⟨first, fun next stepped => (rest next stepped).1⟩,
        second, fun next stepped => (rest next stepped).2⟩
    · rintro ⟨⟨first, firstRest⟩, second, secondRest⟩
      exact ⟨⟨first, second⟩, fun next stepped =>
        ⟨firstRest next stepped, secondRest next stepped⟩⟩

/-- A system whose actions are always enabled takes any list of them. -/
theorem exists_runFrom (enabled : ∀ state action, ∃ next, step state action = some next)
    (start : State) (actions : List Action) : ∃ last, runFrom step start actions = some last := by
  induction actions generalizing start with
  | nil => exact ⟨start, rfl⟩
  | cons action actions ih =>
    rcases enabled start action with ⟨next, stepped⟩
    rcases ih next with ⟨last, ran⟩
    exact ⟨last, runFrom_cons.mpr ⟨next, stepped, ran⟩⟩

/-- The action at any position of a run meets the condition there. -/
theorem EveryStep.at {start middle : State} {before after : List Action}
    (every : EveryStep step condition start (before ++ action :: after))
    (ran : runFrom step start before = some middle) : condition middle action := by
  induction before generalizing start with
  | nil =>
    simp only [runFrom_nil, Option.some.injEq] at ran
    subst ran
    exact every.1
  | cons first before ih =>
    rcases runFrom_cons.mp ran with ⟨next, stepped, rest⟩
    exact ih (every.2 next stepped) rest

/-- A condition on every step is one on every position of the run. -/
theorem everyStep_iff_at {start : State} : EveryStep step condition start actions ↔
      ∀ past action later, actions = past ++ action :: later →
        ∀ state, runFrom step start past = some state → condition state action := by
  constructor
  · rintro every past action later rfl state reached
    exact every.at reached
  · intro everywhere
    induction actions generalizing start with
    | nil => trivial
    | cons action actions ih =>
      refine ⟨everywhere [] action actions rfl start rfl, ?_⟩
      intro next stepped
      apply ih
      rintro past later rest rfl state reached
      exact everywhere (action :: past) later rest rfl state
        (runFrom_cons.mpr ⟨next, stepped, reached⟩)

/-- A reflexive and transitive relation that every action of a run keeps relates its ends. -/
theorem EveryStep.related {related : State → State → Prop} (refl : ∀ state, related state state)
    (trans : ∀ first second third, related first second → related second third →
      related first third) {start last : State}
    (every : EveryStep step (fun state action =>
      ∀ next, step state action = some next → related state next) start actions)
    (ran : runFrom step start actions = some last) : related start last := by
  induction actions generalizing start with
  | nil =>
    simp only [runFrom_nil, Option.some.injEq] at ran
    exact ran ▸ refl start
  | cons action actions ih =>
    rcases runFrom_cons.mp ran with ⟨next, stepped, rest⟩
    exact trans start next last (every.1 next stepped) (ih (every.2 next stepped) rest)

theorem EveryStep.drop {start middle : State} {before after : List Action}
    (every : EveryStep step condition start (before ++ after))
    (ran : runFrom step start before = some middle) : EveryStep step condition middle after := by
  induction before generalizing start with
  | nil =>
    simp only [runFrom_nil, Option.some.injEq] at ran
    subst ran
    exact every
  | cons first before ih =>
    rcases runFrom_cons.mp ran with ⟨next, stepped, rest⟩
    exact ih (every.2 next stepped) rest

theorem EveryStep.take {start : State} {before after : List Action}
    (every : EveryStep step condition start (before ++ after)) :
    EveryStep step condition start before := by
  induction before generalizing start with
  | nil => trivial
  | cons first before ih => exact ⟨every.1, fun next stepped => ih (every.2 next stepped)⟩

theorem EverySegment.tail {related : State → State → Prop} {start next : State}
    {action : Action} {actions : List Action}
    (segments : EverySegment step related start (action :: actions))
    (stepped : step start action = some next) : EverySegment step related next actions := by
  intro before segment after split first last reached ran
  refine segments (action :: before) segment after ?_ first last ?_ ran
  · simp [split]
  · exact runFrom_cons.mpr ⟨next, stepped, reached⟩

theorem EveryState.tail {property : State → Prop} {start next : State} {action : Action}
    {actions : List Action} (states : EveryState step property start (action :: actions))
    (stepped : step start action = some next) : EveryState step property next actions := by
  intro before after split state reached
  exact states (action :: before) after (by simp [split]) state
    (runFrom_cons.mpr ⟨next, stepped, reached⟩)

theorem EveryState.last {start last : State} (states : EveryState step property start actions)
    (ran : runFrom step start actions = some last) : property last :=
  states actions [] (by simp) last ran

/-- For a reflexive and transitive relation, segments are decided by single actions. -/
theorem everySegment_iff_everyStep {related : State → State → Prop}
    (refl : ∀ state, related state state)
    (trans : ∀ first second third, related first second → related second third →
      related first third) {start : State} :
    EverySegment step related start actions ↔ EveryStep step (fun state action =>
        ∀ next, step state action = some next → related state next) start actions := by
  constructor
  · intro segments
    induction actions generalizing start with
    | nil => trivial
    | cons action actions ih =>
      refine ⟨?_, fun next stepped => ih (segments.tail stepped)⟩
      intro next stepped
      exact segments [] [action] actions rfl start next rfl
        (runFrom_cons.mpr ⟨next, stepped, rfl⟩)
  · rintro every before segment after rfl first last reached ran
    rw [List.append_assoc] at every
    exact (every.drop reached).take.related refl trans ran

variable (step) in
/-- The check of a property in every state of a run, for concrete runs. -/
def checkStates (check : State → Bool) : State → List Action → Bool
  | state, [] => check state
  | state, action :: actions =>
    check state &&
      match step state action with
      | some next => checkStates check next actions
      | none => true

theorem everyState_of_checkStates {check : State → Bool}
    (sound : ∀ state, check state = true → property state) {start : State}
    (checked : checkStates step check start actions = true) :
    EveryState step property start actions := by
  intro before after split state reached
  induction before generalizing start actions with
  | nil =>
    obtain rfl : start = state := Option.some.inj reached
    apply sound
    cases actions with
    | nil => exact checked
    | cons action actions => exact (Bool.and_eq_true_iff.mp checked).1
  | cons action before ih =>
    subst split
    rcases runFrom_cons.mp reached with ⟨next, stepped, rest⟩
    simp only [List.cons_append, checkStates, Bool.and_eq_true, stepped] at checked
    exact ih checked.2 rfl rest

/-- A run refutes a relation when what is observed at two of its states rules the relation out. -/
theorem not_everySegment_of_observed {Observed : Type*} {related : State → State → Prop}
    (observe : State → Observed) {start : State} {before segment : List Action}
    {earlier later : Observed}
    (seenEarlier : (runFrom step start before).map observe = some earlier)
    (seenLater : (runFrom step start (before ++ segment)).map observe = some later)
    (excluded : ∀ first last, observe first = earlier → observe last = later →
      ¬related first last) :
    ¬EverySegment step related start (before ++ segment) := by
  intro segments
  rcases Option.map_eq_some_iff.mp seenEarlier with ⟨first, reached, firstSeen⟩
  rcases Option.map_eq_some_iff.mp seenLater with ⟨last, ran, lastSeen⟩
  rcases runFrom_append.mp ran with ⟨middle, middleReached, rest⟩
  obtain rfl : first = middle := Option.some.inj (reached.symm.trans middleReached)
  exact excluded first last firstSeen lastSeen
    (segments before segment [] (by simp) first last reached rest)

theorem not_everyState_of_observed {Observed : Type*} {property : State → Prop}
    (observe : State → Observed) {start : State} {actions : List Action} {seen : Observed}
    (observed : (runFrom step start actions).map observe = some seen)
    (excluded : ∀ state, observe state = seen → ¬property state) :
    ¬EveryState step property start actions := by
  intro states
  rcases Option.map_eq_some_iff.mp observed with ⟨state, reached, isSeen⟩
  exact excluded state isSeen (states.last reached)

/-- When an action keeps a property exactly under some condition on the state before it, the
property holds all along a run exactly when every action meets the condition. -/
theorem everyState_iff_everyStep {invariant property : State → Prop}
    {condition : State → Action → Prop}
    (preserved : ∀ state action next, invariant state → step state action = some next →
      invariant next)
    (keeps : ∀ state action next, invariant state → property state →
      step state action = some next → (property next ↔ condition state action))
    {start last : State} {actions : List Action} (initially : invariant start)
    (holds : property start) (ran : runFrom step start actions = some last) :
    EveryState step property start actions ↔ EveryStep step condition start actions := by
  induction actions generalizing start with
  | nil =>
    refine ⟨fun _ => trivial, ?_⟩
    intro _ before after split state reached
    obtain ⟨rfl, rfl⟩ : before = [] ∧ after = [] := by simpa using split.symm
    simp only [runFrom_nil, Option.some.injEq] at reached
    exact reached ▸ holds
  | cons action actions ih =>
    rcases runFrom_cons.mp ran with ⟨next, stepped, rest⟩
    have step_iff := keeps start action next initially holds stepped
    have kept := preserved start action next initially stepped
    constructor
    · intro states
      have nextHolds : property next :=
        states [action] actions rfl next (runFrom_cons.mpr ⟨next, stepped, rfl⟩)
      refine ⟨step_iff.mp nextHolds, ?_⟩
      intro other otherStepped
      obtain rfl : next = other := Option.some.inj (stepped.symm.trans otherStepped)
      exact (ih kept nextHolds rest).mp (states.tail stepped)
    · rintro ⟨met, every⟩ before after split state reached
      have nextHolds := step_iff.mpr met
      cases before with
      | nil =>
        simp only [runFrom_nil, Option.some.injEq] at reached
        exact reached ▸ holds
      | cons head before =>
        simp only [List.cons_append, List.cons.injEq] at split
        obtain ⟨rfl, split⟩ := split
        rcases runFrom_cons.mp reached with ⟨other, otherStepped, reachedRest⟩
        obtain rfl : next = other := Option.some.inj (stepped.symm.trans otherStepped)
        exact (ih kept nextHolds rest).mpr (every next stepped) before after split state
          reachedRest

end Reperio.Concurrency
