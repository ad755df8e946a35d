import Mathlib.Logic.Function.Basic
import Reperio.Concurrency.Transition
import Reperio.Scanner.Scheduler

/-!
# Runs of the stages

What becomes of the stages when runnable ones are started, end or fail in any order, and
the scan is paused and restarted.
-/

namespace Reperio.Scanner

open Python Concurrency

/-! ## Failures and pauses -/

section

variable (statuses : Statuses)

def pauseAll : Statuses := fun stage =>
  if statuses stage ∈ [.pending, .running] then .paused else statuses stage

def hasFailedDependency (isMandatory : Bool) (stage : Stage) : Bool :=
  stage.definition.dependencies.any fun dependency =>
    decide (statuses dependency = .failed) && dependency.definition.isMandatory == isMandatory

def hasFailedMandatoryDependency : Stage → Bool := hasFailedDependency statuses true

def hasFailedOptionalDependency : Stage → Bool := hasFailedDependency statuses false

end

/-- What a failure means for one stage, and for the scan. -/
def propagate (update : Statuses × Bool) (stage : Stage) : Statuses × Bool :=
  if update.1 stage ≠ .pending then update
  else if hasFailedMandatoryDependency update.1 stage then
    (Function.update update.1 stage .failed, true)
  else if stage ≠ .finalization ∧ hasFailedOptionalDependency update.1 stage then
    (Function.update update.1 stage .skipped, update.2)
  else update

def applyStageFailure (statuses : Statuses) (failedStage : Stage) :
    Except SchedulerError (Statuses × Bool) := do
  let order ← stageOrder
  return order.foldl propagate
    (Function.update statuses failedStage .failed, failedStage.definition.isMandatory)

/-! ## Runs -/

/-- A start takes a stage of the plan. -/
inductive StageAction where
  | start (stage : Stage)
  | finish (stage : Stage)
  | fail (stage : Stage)
  | pause
  | restart

def completedStages (statuses : Statuses) : List Stage :=
  Stage.all.filter fun stage => statuses stage = .completed

def StageAction.step (config : SchedulerConfig) (statuses : Statuses) :
    StageAction → Option Statuses
  | start stage =>
    match runnableStages statuses config with
    | .ok plan =>
      if stage ∈ plan.runnable then some (Function.update statuses stage .running) else none
    | .error _ => none
  | finish stage =>
    if statuses stage = .running then some (Function.update statuses stage .completed) else none
  | fail stage =>
    if statuses stage = .running then
      match applyStageFailure statuses stage with
      | .ok (updated, _) => some updated
      | .error _ => none
    else none
  | pause => some (pauseAll statuses)
  | restart =>
    let completed := completedStages statuses
    match restartPlan (completed.map fun stage => .ofString stage.name) config with
    | .ok _ => some (restartStatuses completed)
    | .error _ => none

/-- The configuration with these limits. No other ones are valid. -/
def StageLimits.config (limits : StageLimits) : SchedulerConfig where
  maxIoCost := .inl limits.maxIoCost
  enableEnrichment := .bool limits.enableEnrichment
  enableCarving := .bool limits.enableCarving

variable {limits : StageLimits} {statuses next : Statuses} {stage : Stage}

@[simp]
theorem validateConfig_config (limits : StageLimits) : validateConfig limits.config = .ok limits :=
  dif_pos limits.positive

/-! ## What a failure does -/

/-- A pending stage waits for nothing that has failed: it would have been settled with it. -/
def IsSpared (statuses : Statuses) (stage : Stage) : Prop :=
  ∀ dependency ∈ stage.definition.dependencies, statuses stage = .pending →
    statuses dependency = .failed →
      stage = .finalization ∧ dependency.definition.isMandatory = false

/-- Some pending stages are settled. Only enrichment has an optional stage before it. -/
def Settles (statuses next : Statuses) : Prop :=
  ∀ stage, next stage = statuses stage ∨ statuses stage = .pending ∧
    (next stage = .failed ∨ stage = .enrichment ∧ next stage = .skipped)

theorem Settles.trans {last : Statuses} (first : Settles statuses next)
    (second : Settles next last) : Settles statuses last := by
  intro stage
  have before := first stage
  have after := second stage
  grind

theorem propagate_of_ne {update : Statuses × Bool} {other : Stage} (different : other ≠ stage) :
    (propagate update stage).1 other = update.1 other := by
  unfold propagate
  split_ifs <;> simp [different]

theorem propagate_spec (update : Statuses × Bool) (stage : Stage) :
    IsSpared (propagate update stage).1 stage ∧ Settles update.1 (propagate update stage).1 := by
  have optional : ∀ dependency ∈ stage.definition.dependencies,
      dependency.definition.isMandatory = false → stage = .enrichment ∨ stage = .finalization := by
    cases stage <;> simp [Stage.definition]
  unfold propagate IsSpared Settles hasFailedMandatoryDependency hasFailedOptionalDependency
  simp only [hasFailedDependency, List.any_eq_true, Bool.and_eq_true, beq_iff_eq]
  split_ifs <;> simp only [Function.update_apply] <;> grind

theorem settles_foldl (order : List Stage) (update : Statuses × Bool) :
    Settles update.1 (order.foldl propagate update).1 := by
  induction order generalizing update with
  | nil => exact fun _ => .inl rfl
  | cons stage order ih => exact (propagate_spec update stage).2.trans (ih _)

/-- Every stage is looked at after those that it depends on. -/
theorem isSpared_foldl {order : List Stage} {update : Statuses × Bool}
    (sorted : order.Pairwise fun first second =>
      second ≠ first ∧ second ∉ first.definition.dependencies)
    (isStage : stage ∈ order ∨ IsSpared update.1 stage ∧
      ∀ second ∈ order, second ≠ stage ∧ second ∉ stage.definition.dependencies) :
    IsSpared (order.foldl propagate update).1 stage := by
  induction order generalizing update with
  | nil => exact (isStage.resolve_left List.not_mem_nil).1
  | cons first order ih =>
    rw [List.pairwise_cons] at sorted
    apply ih sorted.2
    rcases isStage with isStage | ⟨spared, behind⟩
    · rcases List.mem_cons.mp isStage with rfl | later
      · exact .inr ⟨(propagate_spec update stage).1, sorted.1⟩
      · exact .inl later
    · exact .inr ⟨by grind [IsSpared, propagate_of_ne], by grind⟩

/-- A failure settles the stage and pending ones, and spares all others. -/
theorem applyStageFailure_spec {result : Statuses × Bool}
    (applied : applyStageFailure statuses stage = .ok result) :
    (∀ stage, IsSpared result.1 stage) ∧
      Settles (Function.update statuses stage .failed) result.1 := by
  rw [applyStageFailure, stageOrder_eq] at applied
  rw [← Except.ok.inj applied]
  exact ⟨fun other => isSpared_foldl (by decide) (.inl (by cases other <;> decide)),
    settles_foldl _ _⟩

/-! ## What a run keeps -/

/-- What holds of the statuses at any time. -/
structure IsSound (limits : StageLimits) (statuses : Statuses) : Prop where
  affordable : activeIo statuses ≤ limits.maxIoCost
  started : ∀ stage, statuses stage = .running ∨ statuses stage = .completed →
    limits.enabled stage = true ∧ dependenciesSatisfied limits statuses stage = true
  spared : ∀ stage, IsSpared statuses stage
  skipped : ∀ stage, statuses stage = .skipped → stage = .enrichment

theorem activeIo_eq (statuses : Statuses) :
    activeIo statuses = Stage.all.countP fun stage => statuses stage = .running := by
  simp [activeIo, Stage.ioCost_eq_one, List.countP_eq_length_filter]

theorem activeIo_le (isRunning : ∀ stage, next stage = .running → statuses stage = .running) :
    activeIo next ≤ activeIo statuses := by
  rw [activeIo_eq, activeIo_eq]
  exact List.countP_mono_left (by grind)

theorem activeIo_eq_zero (idle : ∀ stage, statuses stage ≠ .running) : activeIo statuses = 0 := by
  rw [activeIo_eq, List.countP_eq_zero]
  grind

theorem activeIo_update_le (statuses : Statuses) (stage : Stage) :
    activeIo (Function.update statuses stage .running) ≤ activeIo statuses + 1 := by
  rw [activeIo_eq, activeIo_eq]
  cases stage <;> simp only [Stage.all, List.countP_cons, Function.update_apply] <;> grind

/-- What a stage waits for stays satisfied, as what is settled stays as it is. -/
theorem dependenciesSatisfied_mono
    (keeps : ∀ stage, statuses stage ∈ [.completed, .failed, .skipped] →
      next stage = statuses stage)
    (satisfied : dependenciesSatisfied limits statuses stage = true) :
    dependenciesSatisfied limits next stage = true := by
  cases stage <;> simp [dependenciesSatisfied, Stage.definition, isDone] at satisfied ⊢ <;> grind

theorem isReady_iff : isReady limits statuses stage = true ↔ statuses stage = .pending ∧
    limits.enabled stage = true ∧ dependenciesSatisfied limits statuses stage = true := by
  simp [isReady, and_assoc]

theorem IsSound.of_moves (sound : IsSound limits statuses)
    (affordable : activeIo next ≤ limits.maxIoCost)
    (moves : ∀ stage, next stage = statuses stage ∨
      isReady limits statuses stage = true ∧ next stage = .running ∨
      statuses stage = .running ∧ next stage = .completed ∨
      statuses stage ∈ [.pending, .running] ∧ (next stage = .paused ∨ next stage = .failed ∨
        stage = .enrichment ∧ next stage = .skipped))
    (spared : ∀ stage, IsSpared statuses stage → IsSpared next stage) : IsSound limits next where
  affordable := affordable
  started stage isStarted := by
    have keeps : ∀ stage, statuses stage ∈ [.completed, .failed, .skipped] →
        next stage = statuses stage := by
      grind [isReady_iff]
    have before := sound.started stage
    have ready := @isReady_iff limits statuses stage
    exact ⟨by grind, dependenciesSatisfied_mono keeps (by grind)⟩
  spared stage := spared stage (sound.spared stage)
  skipped := by grind [sound.skipped]

/-- The plan: stages that are ready, in order and within the budget. -/
theorem runnableStages_eq (limits : StageLimits) (statuses : Statuses) :
    ∃ plan, runnableStages statuses limits.config = .ok plan ∧ plan.runnable =
      (orderedStages.filter (isReady limits statuses)).take
        (limits.maxIoCost - activeIo statuses) := by
  rw [runnableStages, validateConfig_config, stageOrder_eq]
  exact ⟨_, rfl, by rw [foldl_selectStage, List.nil_append]⟩

theorem mapM_ofName? (stages : List Stage) :
    (stages.map fun stage => PyStr.ofString stage.name).mapM Stage.ofName? = some stages := by
  have isStage : ∀ stage : Stage, Stage.ofName? (.ofString stage.name) = some stage := by
    intro stage
    cases stage <;> decide
  induction stages <;> simp_all [List.mapM_cons]

/-- What a restart asks of the stages that are completed. -/
def MayRestart (limits : StageLimits) (statuses : Statuses) : Prop :=
  ∀ stage, statuses stage = .completed → ∀ dependency ∈ stage.definition.dependencies,
    statuses dependency = .completed ∨ limits.enabled dependency = false

theorem restart_step (limits : StageLimits) (statuses : Statuses) :
    MayRestart limits statuses ∧ (StageAction.restart.step limits.config statuses =
        some fun stage => if statuses stage = .completed then .completed else .pending) ∨
      ¬MayRestart limits statuses ∧ StageAction.restart.step limits.config statuses = none := by
  have isCompleted : ∀ stage, stage ∈ completedStages statuses ↔ statuses stage = .completed := by
    simp [completedStages, Stage.mem_all]
  rcases runnableStages_eq limits (restartStatuses (completedStages statuses)) with
    ⟨plan, isPlan, -⟩
  simp only [StageAction.step, restartPlan, validateConfig_config, bind, Except.bind, mapM_ofName?]
  split_ifs with allowed <;>
    simp only [List.all_eq_true, isCompleted, Bool.or_eq_true, decide_eq_true_eq,
      Bool.not_eq_true'] at allowed
  · refine .inl ⟨allowed, ?_⟩
    simp only [isPlan, Option.some.injEq]
    funext stage
    simp only [restartStatuses, isCompleted]
  · exact .inr ⟨allowed, rfl⟩

theorem IsSound.step {action : StageAction} (sound : IsSound limits statuses)
    (stepped : action.step limits.config statuses = some next) : IsSound limits next := by
  cases action with
  | start stage =>
    rcases runnableStages_eq limits statuses with ⟨plan, isPlan, runnable⟩
    simp only [StageAction.step, isPlan, runnable, Option.ite_none_right_eq_some] at stepped
    rcases stepped with ⟨isRunnable, isNext⟩
    have ready := (List.mem_filter.mp (List.mem_of_mem_take isRunnable)).2
    have short := (List.length_pos_of_mem isRunnable).trans_le (List.length_take_le _ _)
    rw [← Option.some.inj isNext]
    refine sound.of_moves ((activeIo_update_le statuses stage).trans (by omega)) ?_ ?_
    all_goals grind [Function.update_apply, IsSpared, isReady_iff]
  | finish stage =>
    simp only [StageAction.step, Option.ite_none_right_eq_some] at stepped
    rw [← Option.some.inj stepped.2]
    refine sound.of_moves ((activeIo_le ?_).trans sound.affordable) ?_ ?_
    all_goals grind [Function.update_apply, IsSpared]
  | fail failed =>
    simp only [StageAction.step, Option.ite_none_right_eq_some] at stepped
    rcases stepped with ⟨isRunning, failing⟩
    split at failing
    · rename_i applied
      obtain ⟨spared, settles⟩ := applyStageFailure_spec applied
      rw [← Option.some.inj failing]
      simp only [Settles, Function.update_apply] at settles
      refine sound.of_moves ((activeIo_le ?_).trans sound.affordable) ?_ fun stage _ =>
        spared stage
      all_goals grind
    · cases failing
  | pause =>
    rw [← Option.some.inj stepped]
    refine sound.of_moves ((activeIo_le ?_).trans sound.affordable) ?_ ?_
    all_goals grind [pauseAll, IsSpared]
  | restart =>
    rcases restart_step limits statuses with ⟨allowed, isNext⟩ | ⟨-, refused⟩
    · rw [← Option.some.inj (isNext.symm.trans stepped)]
      refine ⟨?_, fun stage isStarted => ?_, by grind [IsSpared], by grind⟩
      · rw [activeIo_eq_zero (by grind)]
        exact Nat.zero_le _
      · have isCompleted : statuses stage = .completed := by grind
        have behind := allowed stage isCompleted
        refine ⟨(sound.started stage (.inr isCompleted)).1, ?_⟩
        cases stage <;> simp [Stage.definition, StageLimits.enabled, dependenciesSatisfied,
          isDone] at behind ⊢ <;> grind
    · cases refused.symm.trans stepped

theorem isSound_of_runFrom {actions : List StageAction}
    (ran : runFrom (StageAction.step limits.config) initialStatuses actions = some statuses) :
    IsSound limits statuses := by
  refine invariant_of_runFrom (fun _ _ _ => IsSound.step) ⟨Nat.zero_le _, ?_, ?_, ?_⟩ ran
  all_goals simp [initialStatuses, IsSpared]

/-- Whatever is started, ends, fails, pauses and restarts, and in whatever order: the budget is
kept, a stage runs only when it is enabled and all that it depends on is done, and what waits can
still run. -/
theorem stages_sound (limits : StageLimits) (actions : List StageAction) :
    EveryState (StageAction.step limits.config) (IsSound limits) initialStatuses actions :=
  fun _ _ _ _ ran => isSound_of_runFrom ran

/-! ## How a scan ends -/

theorem IsSound.settled_of (sound : IsSound limits statuses)
    (idle : ∀ stage, statuses stage ≠ .running ∧ statuses stage ≠ .paused)
    (stuck : ∀ stage, isReady limits statuses stage = false) (stage : Stage)
    (isEnabled : limits.enabled stage = true)
    (behind : ∀ dependency ∈ stage.definition.dependencies, limits.enabled dependency = true →
      statuses dependency ∈ [.completed, .failed, .skipped]) :
    statuses stage ∈ [.completed, .failed, .skipped] := by
  by_contra unsettled
  have isPending : statuses stage = .pending := by
    cases status : statuses stage <;> grind
  have skipped := sound.skipped
  have spared := sound.spared stage
  have stuck := stuck stage
  simp only [isReady, dependenciesSatisfied, isEnabled, isPending] at stuck
  unfold IsSpared at spared
  clear sound
  cases enrichment : limits.enableEnrichment <;> cases carving : limits.enableCarving <;>
    cases stage <;>
    simp [Stage.definition, StageLimits.enabled, isDone, enrichment, carving] at * <;> grind

/-- When nothing runs or is paused, there is a stage to start, or every enabled one is settled. -/
theorem stages_settle (limits : StageLimits) (actions : List StageAction) :
    EveryState (StageAction.step limits.config) (fun statuses =>
      (∀ stage, statuses stage ≠ .running ∧ statuses stage ≠ .paused) →
      (∀ stage, (StageAction.start stage).step limits.config statuses = none) →
        statuses .finalization ∈ [.completed, .failed] ∧
          ∀ stage, limits.enabled stage = true → statuses stage ∈ [.completed, .failed, .skipped])
      initialStatuses actions := by
  intro _ _ _ statuses ran idle noStart
  have sound := isSound_of_runFrom ran
  rcases runnableStages_eq limits statuses with ⟨plan, isPlan, runnable⟩
  have noneRunnable : plan.runnable = [] := by
    apply List.eq_nil_iff_forall_not_mem.mpr
    simpa [StageAction.step, isPlan] using noStart
  have stuck : ∀ stage, isReady limits statuses stage = false := by
    intro stage
    have isOrdered : stage ∈ orderedStages := by cases stage <;> decide
    have positive := limits.positive
    rw [noneRunnable, activeIo_eq_zero fun stage => (idle stage).1, eq_comm, List.take_eq_nil_iff,
      List.filter_eq_nil_iff] at runnable
    grind
  have settled := sound.settled_of idle stuck
  have validation := settled .validation rfl (by simp [Stage.definition])
  have volumes := settled .volumes rfl (by simp [Stage.definition]; grind)
  have enumeration := settled .enumeration rfl (by simp [Stage.definition]; grind)
  have artifacts := settled .artifacts rfl (by simp [Stage.definition]; grind)
  have enrichment := fun enabled => settled .enrichment enabled (by simp [Stage.definition]; grind)
  have carving := fun enabled => settled .carving enabled (by simp [Stage.definition]; grind)
  have finalization := settled .finalization rfl (by simp [Stage.definition]; grind)
  refine ⟨by grind [sound.skipped .finalization], fun stage isEnabled => ?_⟩
  cases stage <;> grind

/-- A scan cannot be restarted once it ended without one of its optional stages, and only then. -/
theorem restart_refused_iff (limits : StageLimits) (actions : List StageAction) :
    EveryState (StageAction.step limits.config) (fun statuses =>
      StageAction.restart.step limits.config statuses = none ↔
        statuses .finalization = .completed ∧ ∃ stage, stage.definition.isMandatory = false ∧
          limits.enabled stage = true ∧ statuses stage ≠ .completed) initialStatuses actions := by
  intro _ _ _ statuses ran
  have sound := isSound_of_runFrom ran
  have mayRestart : MayRestart limits statuses ↔ (statuses .finalization = .completed →
      ∀ stage, stage.definition.isMandatory = false → limits.enabled stage = true →
        statuses stage = .completed) := by
    constructor
    · intro allowed isFinal stage
      have behind := allowed .finalization isFinal stage
      cases stage <;> simp [Stage.definition] at * <;> grind
    · intro allowed stage isCompleted
      have satisfied := (sound.started stage (.inr isCompleted)).2
      have skipped := sound.skipped
      cases stage <;> simp [Stage.definition, dependenciesSatisfied, isDone,
        StageLimits.enabled] at satisfied allowed ⊢ <;> grind
  rcases restart_step limits statuses with ⟨allowed, isNext⟩ | ⟨refused, isNext⟩
  all_goals
    rw [isNext]
    grind

end Reperio.Scanner
