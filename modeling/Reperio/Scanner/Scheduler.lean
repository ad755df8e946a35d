import Mathlib.Data.List.Sort
import Reperio.Python.Operators

/-!
# The scheduler of stages

`scanner/scheduler.py`: the stages of a scan, what each depends on, and which of
them may run next. A stage is runnable when it is pending, what it depends on is
done, and the stages before it in the order leave enough of the I/O budget.
-/

namespace Reperio.Scanner

open Python

/-! ## Stages -/

/-- The stages of a scan. -/
inductive Stage where
  | validation
  | volumes
  | enumeration
  | artifacts
  | enrichment
  | carving
  | finalization
  deriving DecidableEq, Repr

/-- How far a stage has come. -/
inductive StageStatus where
  | pending
  | running
  | paused
  | completed
  | failed
  | skipped
  deriving DecidableEq, Repr

/-- What a stage waits for and costs. -/
structure StageDefinition where
  dependencies : List Stage
  ioCost : ℕ
  isMandatory : Bool := true

namespace Stage

def name : Stage → String
  | validation => "validation"
  | volumes => "volumes"
  | enumeration => "enumeration"
  | artifacts => "artifacts"
  | enrichment => "enrichment"
  | carving => "carving"
  | finalization => "finalization"

/-- `STAGES`. -/
def all : List Stage :=
  [validation, volumes, enumeration, artifacts, enrichment, carving, finalization]

/-- `STAGES[stage]`. -/
def definition : Stage → StageDefinition
  | validation => ⟨[], 1, true⟩
  | volumes => ⟨[validation], 1, true⟩
  | enumeration => ⟨[volumes], 1, true⟩
  | artifacts => ⟨[enumeration], 1, false⟩
  | enrichment => ⟨[artifacts], 1, false⟩
  | carving => ⟨[validation, volumes, enumeration], 1, false⟩
  | finalization => ⟨[enumeration, artifacts, enrichment, carving], 1, true⟩

def ofName? (text : PyStr) : Option Stage := all.find? fun stage => text = .ofString stage.name

theorem mem_all (stage : Stage) : stage ∈ all := by cases stage <;> decide

theorem ioCost_eq_one (stage : Stage) : stage.definition.ioCost = 1 := by cases stage <;> rfl

end Stage

/-- How planning fails. -/
inductive SchedulerError where
  | schedulerError (message : String)
  | raised (error : PyError)
  deriving DecidableEq, Repr

/-- The stages that follow the completed ones, by their names. -/
def readyStages (remaining completed : List Stage) : List Stage :=
  (remaining.filter fun stage => stage.definition.dependencies.all (· ∈ completed)).insertionSort
    fun first second => first.name ≤ second.name

/-- The loop of `stage_order`, which takes at least one stage in every round. -/
def stageOrderFrom : ℕ → List Stage → List Stage → Except SchedulerError (List Stage)
  | _, [], order => .ok order
  | 0, _ :: _, _ => .error (.schedulerError "stage graph contains a dependency cycle")
  | rounds + 1, remaining, order =>
    let ready := readyStages remaining order
    if ready.isEmpty then .error (.schedulerError "stage graph contains a dependency cycle")
    else stageOrderFrom rounds (remaining.filter (· ∉ ready)) (order ++ ready)

def stageOrder : Except SchedulerError (List Stage) := stageOrderFrom Stage.all.length Stage.all []

def orderedStages : List Stage :=
  [.validation, .volumes, .enumeration, .artifacts, .carving, .enrichment, .finalization]

theorem stageOrder_eq : stageOrder = .ok orderedStages := by decide

/-! ## Configurations -/

/-- `SchedulerConfig`. The budget is an `int`, which a boolean is too. -/
structure SchedulerConfig where
  maxIoCost : ℤ ⊕ Bool := .inl 1
  enableEnrichment : PyValue := .bool true
  enableCarving : PyValue := .bool true

/-- What `_validate_config` lets pass. -/
structure StageLimits where
  maxIoCost : ℕ
  enableEnrichment : Bool
  enableCarving : Bool
  positive : 0 < maxIoCost

def validateConfig (config : SchedulerConfig) : Except SchedulerError StageLimits :=
  match config.maxIoCost with
  | .inr _ => .error (.schedulerError "max_io_cost must be positive")
  | .inl maxIoCost =>
    if positive : 0 < maxIoCost.toNat then
      match config.enableEnrichment, config.enableCarving with
      | .bool enableEnrichment, .bool enableCarving =>
        .ok { maxIoCost := maxIoCost.toNat, enableEnrichment, enableCarving, positive }
      | _, _ => .error (.schedulerError "stage enable flags must be boolean")
    else .error (.schedulerError "max_io_cost must be positive")

def StageLimits.enabled (limits : StageLimits) (stage : Stage) : Bool :=
  !(decide (stage = .enrichment) && !limits.enableEnrichment ||
    decide (stage = .carving) && !limits.enableCarving)

/-! ## Runnable stages -/

/-- The statuses of exactly the known stages. -/
abbrev Statuses := Stage → StageStatus

/-- The stages to run now, and those that wait. -/
structure StagePlan where
  runnable : List Stage
  blocked : List Stage
  deriving DecidableEq, Repr

def initialStatuses : Statuses := fun _ => .pending

section Runnable

variable (limits : StageLimits) (statuses : Statuses)

def isDone (stage : Stage) : Bool := decide (statuses stage ∈ [.completed, .skipped])

def dependenciesSatisfied (stage : Stage) : Bool :=
  let dependencies := stage.definition.dependencies
  if stage = .finalization then
    let optionalReady := (dependencies.filter fun dependency =>
        !dependency.definition.isMandatory).all fun dependency =>
      isDone statuses dependency || decide (statuses dependency ∈ [.failed, .skipped]) ||
        !limits.enabled dependency
    let mandatoryReady := (dependencies.filter fun dependency =>
        dependency.definition.isMandatory).all (isDone statuses)
    optionalReady && mandatoryReady
  else dependencies.all (isDone statuses)

def activeIo : ℕ := ((Stage.all.filter fun stage => statuses stage = .running).map fun stage =>
    stage.definition.ioCost).sum

/-- The state of the loop over the stages. -/
structure Selection where
  availableIo : ℕ
  runnable : List Stage := []
  blocked : List Stage := []

def selectStage (selection : Selection) (stage : Stage) : Selection :=
  if statuses stage ≠ .pending then selection
  else if !limits.enabled stage then selection
  else if !dependenciesSatisfied limits statuses stage then
    { selection with blocked := selection.blocked ++ [stage] }
  else
    let cost := stage.definition.ioCost
    if cost ≤ selection.availableIo then
      { selection with
        runnable := selection.runnable ++ [stage]
        availableIo := selection.availableIo - cost }
    else { selection with blocked := selection.blocked ++ [stage] }

end Runnable

def runnableStages (statuses : Statuses) (config : SchedulerConfig) :
    Except SchedulerError StagePlan := do
  let limits ← validateConfig config
  let order ← stageOrder
  let selection := order.foldl (selectStage limits statuses)
    { availableIo := limits.maxIoCost - activeIo statuses }
  return { runnable := selection.runnable, blocked := selection.blocked }

/-! ## Restarts -/

/-- The named stages are completed, all others are pending. -/
def restartStatuses (completed : List Stage) : Statuses := fun stage =>
  if stage ∈ completed then .completed else .pending

def restartPlan (completedStages : List PyStr) (config : SchedulerConfig) :
    Except SchedulerError StagePlan := do
  let limits ← validateConfig config
  match completedStages.mapM Stage.ofName? with
  | none => throw (.schedulerError "unknown completed stage")
  | some completed =>
    if completed.all fun stage => stage.definition.dependencies.all fun dependency =>
        decide (dependency ∈ completed) || !limits.enabled dependency then
      runnableStages (restartStatuses completed) config
    else throw (.schedulerError "completed stage has incomplete dependencies")

/-! ## Which stages are runnable -/

/-- Pending, enabled and with all that it depends on: only the budget may keep it from running. -/
def isReady (limits : StageLimits) (statuses : Statuses) (stage : Stage) : Bool :=
  decide (statuses stage = .pending) && limits.enabled stage &&
    dependenciesSatisfied limits statuses stage

theorem selectStage_runnable (limits : StageLimits) (statuses : Statuses) (selection : Selection)
    (stage : Stage) :
    (selectStage limits statuses selection stage).runnable =
        selection.runnable ++ ([stage].filter (isReady limits statuses)).take
          selection.availableIo ∧
      (selectStage limits statuses selection stage).availableIo =
        selection.availableIo - ([stage].filter (isReady limits statuses)).length := by
  unfold selectStage
  split
  · rename_i notPending
    simp [isReady, notPending]
  rename_i isPending
  rw [not_ne_iff] at isPending
  split
  · rename_i disabled
    rw [Bool.not_eq_true'] at disabled
    simp [isReady, disabled]
  rename_i isEnabled
  rw [Bool.not_eq_true, Bool.not_eq_false'] at isEnabled
  split
  · rename_i unsatisfied
    rw [Bool.not_eq_true'] at unsatisfied
    simp [isReady, unsatisfied]
  rename_i satisfied
  rw [Bool.not_eq_true, Bool.not_eq_false'] at satisfied
  have ready : isReady limits statuses stage = true := by
    rw [isReady, isEnabled, satisfied, isPending]
    rfl
  rw [List.filter_cons_of_pos ready, List.filter_nil]
  dsimp only
  rw [Stage.ioCost_eq_one]
  split
  · rename_i affordable
    rw [List.take_of_length_le affordable]
    exact ⟨rfl, rfl⟩
  · rename_i short
    have spent : selection.availableIo = 0 := by omega
    rw [spent, List.take_zero, List.append_nil]
    exact ⟨rfl, (Nat.zero_sub _).symm⟩

/-- The loop takes ready stages in order, as many as the budget is large. -/
theorem foldl_selectStage (limits : StageLimits) (statuses : Statuses) (order : List Stage)
    (selection : Selection) :
    (order.foldl (selectStage limits statuses) selection).runnable = selection.runnable ++
      (order.filter (isReady limits statuses)).take selection.availableIo := by
  induction order generalizing selection with
  | nil => simp
  | cons stage order ih =>
    rcases selectStage_runnable limits statuses selection stage with ⟨runnable, availableIo⟩
    have split : (stage :: order).filter (isReady limits statuses) =
        [stage].filter (isReady limits statuses) ++ order.filter (isReady limits statuses) := by
      rw [← List.filter_append, List.singleton_append]
    rw [List.foldl_cons, ih, runnable, availableIo, List.append_assoc, split, List.take_append]

/-- The stages before the given one that are ready to run as well. -/
def readyBefore (limits : StageLimits) (statuses : Statuses) (stage : Stage) : List Stage :=
  (orderedStages.takeWhile (· ≠ stage)).filter (isReady limits statuses)

theorem mem_take_filter_iff {α : Type} [DecidableEq α] {keep : α → Bool} {items : List α} {item : α}
    (distinct : items.Nodup) (isItem : item ∈ items) (count : ℕ) :
    item ∈ (items.filter keep).take count ↔
      keep item = true ∧ ((items.takeWhile (· ≠ item)).filter keep).length < count := by
  induction items generalizing count with
  | nil => cases isItem
  | cons first items ih =>
    rw [List.nodup_cons] at distinct
    by_cases isFirst : first = item
    · subst isFirst
      rw [List.takeWhile_cons_of_neg (by simp), List.filter_nil, List.length_nil]
      cases kept : keep first with
      | false =>
        have notKept : first ∉ (items.filter keep).take count := fun member =>
          distinct.1 (List.mem_of_mem_filter (List.mem_of_mem_take member))
        rw [List.filter_cons_of_neg (by simp [kept])]
        simp [notKept]
      | true =>
        rw [List.filter_cons_of_pos kept]
        cases count with
        | zero => simp
        | succ count => simp
    · have later := (List.mem_cons.mp isItem).resolve_left (Ne.symm isFirst)
      rw [List.takeWhile_cons_of_pos (by simpa using isFirst)]
      cases kept : keep first with
      | false =>
        rw [List.filter_cons_of_neg (by simp [kept]), List.filter_cons_of_neg (by simp [kept])]
        exact ih distinct.2 later count
      | true =>
        rw [List.filter_cons_of_pos kept, List.filter_cons_of_pos kept]
        cases count with
        | zero => simp
        | succ count =>
          rw [List.take_succ_cons, List.mem_cons, or_iff_right (Ne.symm isFirst),
            ih distinct.2 later, List.length_cons, Nat.succ_lt_succ_iff]

/-- What a restart runs: the stages that are ready, within the budget. -/
theorem restartPlan_runnable {completedStages : List PyStr} {config : SchedulerConfig}
    {plan : StagePlan} (planned : restartPlan completedStages config = .ok plan) :
    ∃ limits completed, validateConfig config = .ok limits ∧
      completedStages.mapM Stage.ofName? = some completed ∧
      ∀ stage, stage ∈ plan.runnable ↔ isReady limits (restartStatuses completed) stage = true ∧
        (readyBefore limits (restartStatuses completed) stage).length < limits.maxIoCost := by
  rcases bind_eq_ok planned with ⟨limits, areLimits, planned⟩
  cases isCompleted : completedStages.mapM Stage.ofName? with
  | none =>
    rw [isCompleted] at planned
    cases planned
  | some completed =>
    rw [isCompleted] at planned
    dsimp only at planned
    split at planned
    · refine ⟨limits, completed, areLimits, rfl, fun stage => ?_⟩
      rw [runnableStages, areLimits, stageOrder_eq] at planned
      have isPlan := Except.ok.inj planned
      have noneRunning : activeIo (restartStatuses completed) = 0 := by
        rw [activeIo, List.filter_eq_nil_iff.mpr]
        · rfl
        · intro stage _
          unfold restartStatuses
          split <;> decide
      rw [← isPlan, foldl_selectStage, noneRunning, Nat.sub_zero, List.nil_append]
      apply mem_take_filter_iff (by decide)
      cases stage <;> decide
    · cases planned

end Reperio.Scanner
