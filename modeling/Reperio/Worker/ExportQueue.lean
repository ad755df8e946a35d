import Mathlib.Data.List.Forall2
import Reperio.Concurrency.Transition
import Reperio.Python.Value

/-!
# The export queue

`worker/export_queue.py`. A step of the queue takes a snapshot of what is ready,
what the exporter did and what was dismissed, and moves every item on its own.
One counter of attempts is shared by the two phases of an item, with a bound of
its own for each.

The states are those of `QUEUE_STATES`, so that `build_completion_report` finds
no other, and delays are whole numbers of seconds.
-/

namespace Reperio.Worker

open Python Concurrency

/-! ## Items -/

/-- How the queue fails. -/
inductive QueueError where
  | exportQueueError (code message : String)
  | overflowError
  deriving DecidableEq, Repr

/-- `QUEUE_STATES`. -/
inductive QueueState where
  | ready
  | waiting
  | exported
  | failed
  | skipped
  deriving DecidableEq, Repr

def QueueState.isTerminal : QueueState → Bool
  | ready => false
  | waiting => false
  | exported => true
  | failed => true
  | skipped => true

/-- An item with what was tried. -/
structure QueueItem where
  exportItemId : PyStr
  state : QueueState
  attempts : ℤ := 0
  error : Option String := none
  destinationPath : Option PyStr := none
  verified : Bool := false
  deriving DecidableEq, Repr

/-- A move of an item. -/
structure QueueStep where
  itemId : PyStr
  before : QueueState
  after : QueueState
  attempts : ℤ
  delaySeconds : Option ℕ := none
  error : Option String := none
  deriving DecidableEq, Repr

/-- How many items are in which state. -/
structure CompletionReport where
  ready : ℕ
  exported : ℕ
  waiting : ℕ
  failed : ℕ
  skipped : ℕ
  deriving DecidableEq, Repr

def CompletionReport.total (report : CompletionReport) : ℕ :=
  report.ready + report.exported + report.waiting + report.failed + report.skipped

/-! ## A step -/

def maxWaitRetries : ℤ := 5

/-- The power is an integer that becomes a float in the product. -/
def retryDelaySeconds (attempt : ℤ) : Except QueueError ℕ :=
  if attempt < 1 then .error (.exportQueueError "invalid_attempt" "attempt must be positive")
  else if 1024 < attempt then .error .overflowError
  else .ok (min (2 * 2 ^ (attempt - 1).toNat) 60)

/-- The arguments of `step_queue` beside the items: what is found in each mapping. -/
structure Snapshot where
  readinessOf : PyStr → Option Bool
  exporterResults : PyStr → Option Bool
  dismissed : PyStr → Option Bool := fun _ => none

/-- The variables of the loop: `after`, `attempts`, `error` and `delay`. -/
structure Move where
  after : QueueState
  attempts : ℤ
  error : Option String
  delay : Option ℕ := none

/-- The two phases. -/
def advance (snapshot : Snapshot) (item : QueueItem) : Except QueueError Move :=
  match item.state with
  | .waiting =>
    let attempts := item.attempts + 1
    if (snapshot.readinessOf item.exportItemId).getD false then
      return { after := .ready, attempts, error := none }
    else if maxWaitRetries < attempts then
      return { after := .failed, attempts, error := some "extraction_timeout" }
    else return { after := .waiting, attempts, error := item.error,
                  delay := ← retryDelaySeconds attempts }
  | .ready =>
    if (snapshot.exporterResults item.exportItemId).getD false then
      return { after := .exported, attempts := item.attempts, error := none }
    else if maxWaitRetries ≤ item.attempts then
      return { after := .failed, attempts := item.attempts, error := some "export_failed" }
    else
      let attempts := item.attempts + 1
      return { after := .ready, attempts, error := item.error,
               delay := ← retryDelaySeconds attempts }
  | state => return { after := state, attempts := item.attempts, error := item.error }

/-- The body of the loop of `step_queue`. -/
def stepItem (snapshot : Snapshot) (item : QueueItem) :
    Except QueueError (QueueItem × Option QueueStep) := do
  if item.state.isTerminal then return (item, none)
  else if (snapshot.dismissed item.exportItemId).getD false then
    return ({ exportItemId := item.exportItemId, state := .skipped, attempts := item.attempts },
      some { itemId := item.exportItemId, before := item.state, after := .skipped,
             attempts := item.attempts })
  else
    let move ← advance snapshot item
    if move.after ≠ item.state ∨ move.delay.isSome ∨ move.error ≠ item.error then
      return ({ exportItemId := item.exportItemId, state := move.after, attempts := move.attempts,
                error := move.error,
                destinationPath := if move.after = .exported then item.destinationPath else none,
                verified := move.after = .exported },
        some { itemId := item.exportItemId, before := item.state, after := move.after,
               attempts := move.attempts, delaySeconds := move.delay, error := move.error })
    else return (item, none)

def stepQueue (items : List QueueItem) (snapshot : Snapshot) :
    Except QueueError (List QueueItem × List QueueStep) := do
  let results ← items.mapM (stepItem snapshot)
  return (results.map Prod.fst, results.filterMap Prod.snd)

/-- The counts of `build_completion_report` after some items. -/
def countStates (items : List QueueItem) : QueueState → ℕ := items.foldl (fun counts item state =>
    if state = item.state then counts state + 1 else counts state) fun _ => 0

def buildCompletionReport (items : List QueueItem) : CompletionReport :=
  let counts := countStates items
  { ready := counts .ready, exported := counts .exported, waiting := counts .waiting,
    failed := counts .failed, skipped := counts .skipped }

/-! ## One item -/

/-- What a step does to an item. -/
structure Follows (snapshot : Snapshot) (item next : QueueItem) : Prop where
  exportItemId : next.exportItemId = item.exportItemId
  kept : item.state.isTerminal = true → next = item
  exported : next.state = .exported → item.state = .exported ∨
    snapshot.exporterResults item.exportItemId = some true

/-- How many steps an item in a state can still take. -/
def stepsLeft : QueueState → ℤ → ℕ
  | .waiting, attempts => max 2 (maxWaitRetries + 2 - attempts).toNat
  | .ready, attempts => max 1 (maxWaitRetries + 1 - attempts).toNat
  | _, _ => 0

def QueueItem.remaining (item : QueueItem) : ℕ := stepsLeft item.state item.attempts

@[simp]
theorem stepsLeft_waiting (attempts : ℤ) :
    stepsLeft .waiting attempts = max 2 (7 - attempts).toNat := rfl

@[simp]
theorem stepsLeft_ready (attempts : ℤ) :
    stepsLeft .ready attempts = max 1 (6 - attempts).toNat := rfl

theorem stepsLeft_eq_zero {state : QueueState} {attempts : ℤ} :
    stepsLeft state attempts = 0 ↔ state.isTerminal = true := by
  cases state <;> simp [QueueState.isTerminal, stepsLeft]

theorem stepsLeft_le {attempts : ℤ} (nonneg : 0 ≤ attempts) (state : QueueState) :
    stepsLeft state attempts ≤ maxWaitRetries.toNat + 2 := by
  cases state with
  | waiting => rw [stepsLeft_waiting, maxWaitRetries]; omega
  | ready => rw [stepsLeft_ready, maxWaitRetries]; omega
  | exported => exact Nat.zero_le _
  | failed => exact Nat.zero_le _
  | skipped => exact Nat.zero_le _

theorem retryDelaySeconds_eq_ok {attempt : ℤ} (positive : 1 ≤ attempt)
    (few : attempt ≤ maxWaitRetries) :
    retryDelaySeconds attempt = .ok (min (2 * 2 ^ (attempt - 1).toNat) 60) := by
  unfold maxWaitRetries at few
  rw [retryDelaySeconds, if_neg (by omega), if_neg (by omega)]

/-- What a phase does to an item that is in it. -/
structure Advances (snapshot : Snapshot) (item : QueueItem) (move : Move) : Prop where
  attempts : item.attempts ≤ move.attempts
  exported : move.after = .exported → snapshot.exporterResults item.exportItemId = some true
  stepsLeft : stepsLeft move.after move.attempts + 1 ≤ item.remaining
  changed : move.after ≠ item.state ∨ move.delay.isSome

theorem getD_false {answer : Option Bool} : answer.getD false = true ↔ answer = some true := by
  cases answer <;> simp

/-- Each phase ends, fails or spends an attempt that it still has. -/
theorem advance_spec (snapshot : Snapshot) {item : QueueItem} (nonneg : 0 ≤ item.attempts)
    (pending : item.state.isTerminal = false) :
    ∃ move, advance snapshot item = .ok move ∧ Advances snapshot item move := by
  unfold advance
  cases isState : item.state with
  | waiting =>
    have left : item.remaining = max 2 (7 - item.attempts).toNat := by
      rw [QueueItem.remaining, isState, stepsLeft_waiting]
    dsimp only
    split
    · refine ⟨_, rfl, ⟨by simp, by simp, ?_, Or.inl (by simp [isState])⟩⟩
      rw [left, stepsLeft_ready]
      dsimp only
      omega
    · split
      · refine ⟨_, rfl, ⟨by simp, by simp, ?_, Or.inl (by simp [isState])⟩⟩
        rw [left, stepsLeft_eq_zero.mpr rfl]
        omega
      · rename_i few
        rw [retryDelaySeconds_eq_ok (by omega) (by omega)]
        refine ⟨_, rfl, ⟨by simp, by simp, ?_, Or.inr rfl⟩⟩
        unfold maxWaitRetries at few
        rw [left, stepsLeft_waiting]
        dsimp only
        omega
  | ready =>
    have left : item.remaining = max 1 (6 - item.attempts).toNat := by
      rw [QueueItem.remaining, isState, stepsLeft_ready]
    dsimp only
    split
    · rename_i result
      refine ⟨_, rfl, ⟨le_rfl, fun _ => getD_false.mp result, ?_, Or.inl (by simp [isState])⟩⟩
      rw [left, stepsLeft_eq_zero.mpr rfl]
      omega
    · split
      · refine ⟨_, rfl, ⟨le_rfl, by simp, ?_, Or.inl (by simp [isState])⟩⟩
        rw [left, stepsLeft_eq_zero.mpr rfl]
        omega
      · rename_i few
        rw [retryDelaySeconds_eq_ok (by omega) (by omega)]
        refine ⟨_, rfl, ⟨by simp, by simp, ?_, Or.inr rfl⟩⟩
        unfold maxWaitRetries at few
        rw [left, stepsLeft_ready]
        dsimp only
        omega
  | exported => rw [isState] at pending; cases pending
  | failed => rw [isState] at pending; cases pending
  | skipped => rw [isState] at pending; cases pending

/-- A step of one item uses up one of the steps that it can still take. -/
theorem stepItem_spec (snapshot : Snapshot) {item : QueueItem} (nonneg : 0 ≤ item.attempts) :
    ∃ next move, stepItem snapshot item = .ok (next, move) ∧ Follows snapshot item next ∧
      0 ≤ next.attempts ∧ next.remaining ≤ item.remaining - 1 := by
  unfold stepItem
  split
  · rename_i terminal
    refine ⟨item, none, rfl, ⟨rfl, fun _ => rfl, Or.inl⟩, nonneg, ?_⟩
    rw [QueueItem.remaining, stepsLeft_eq_zero.mpr terminal]
  · rename_i pending
    rw [Bool.not_eq_true] at pending
    split
    · refine ⟨_, _, rfl, ⟨rfl, ?_, by simp⟩, nonneg, ?_⟩
      swap
      · rw [QueueItem.remaining, stepsLeft_eq_zero.mpr rfl]
        exact Nat.zero_le _
      rw [pending]
      exact nofun
    · rcases advance_spec snapshot nonneg pending with ⟨move, isMove, advances⟩
      have changed : move.after ≠ item.state ∨ move.delay.isSome ∨ move.error ≠ item.error :=
        advances.changed.imp_right Or.inl
      rw [isMove]
      dsimp only [bind, Except.bind]
      rw [if_pos changed]
      refine ⟨_, _, rfl, ⟨rfl, ?_, fun isExported => Or.inr (advances.exported isExported)⟩,
        le_trans nonneg advances.attempts, ?_⟩
      · rw [pending]
        exact nofun
      · have left := advances.stepsLeft
        change stepsLeft move.after move.attempts ≤ _
        omega

/-! ## The queue -/

theorem stepQueue_spec (snapshot : Snapshot) {items : List QueueItem}
    (nonneg : ∀ item ∈ items, 0 ≤ item.attempts) :
    ∃ next moves, stepQueue items snapshot = .ok (next, moves) ∧
      List.Forall₂ (fun item after => Follows snapshot item after ∧ 0 ≤ after.attempts ∧
        after.remaining ≤ item.remaining - 1) items next := by
  have each : ∃ results, items.mapM (stepItem snapshot) = .ok results ∧
      List.Forall₂ (fun item (result : QueueItem × Option QueueStep) =>
        Follows snapshot item result.1 ∧ 0 ≤ result.1.attempts ∧
          result.1.remaining ≤ item.remaining - 1) items results := by
    induction items with
    | nil => exact ⟨[], rfl, .nil⟩
    | cons item items ih =>
      rcases List.forall_mem_cons.mp nonneg with ⟨first, rest⟩
      rcases stepItem_spec snapshot first with ⟨next, move, stepped, follows⟩
      rcases ih rest with ⟨results, areResults, all⟩
      refine ⟨(next, move) :: results, ?_, .cons follows all⟩
      rw [List.mapM_cons, stepped, areResults]
      rfl
  rcases each with ⟨results, areResults, all⟩
  refine ⟨results.map Prod.fst, results.filterMap Prod.snd, ?_, List.forall₂_map_right_iff.mpr all⟩
  rw [stepQueue, areResults]
  rfl

/-- The queue after one snapshot. -/
def queueAfter (items : List QueueItem) (snapshot : Snapshot) : Option (List QueueItem) :=
  (stepQueue items snapshot).toOption.map Prod.fst

theorem queueAfter_spec (snapshot : Snapshot) {items : List QueueItem}
    (nonneg : ∀ item ∈ items, 0 ≤ item.attempts) :
    ∃ next, queueAfter items snapshot = some next ∧
      List.Forall₂ (fun item after => 0 ≤ after.attempts ∧ after.remaining ≤ item.remaining - 1)
        items next := by
  rcases stepQueue_spec snapshot nonneg with ⟨next, moves, stepped, all⟩
  refine ⟨next, ?_, all.imp fun _ _ step => step.2⟩
  rw [queueAfter, stepped]
  rfl

theorem nonneg_of_forall₂ {items next : List QueueItem}
    (all : List.Forall₂ (fun item after => 0 ≤ after.attempts ∧
      after.remaining ≤ item.remaining - 1) items next) : ∀ item ∈ next, 0 ≤ item.attempts := by
  induction all with
  | nil => exact fun _ member => absurd member List.not_mem_nil
  | cons step _ ih => exact List.forall_mem_cons.mpr ⟨step.1, ih⟩

/-- A bound on the steps left to every item goes down with each snapshot. -/
theorem exists_runFrom_queueAfter {items : List QueueItem} {bound : ℕ}
    (nonneg : ∀ item ∈ items, 0 ≤ item.attempts) (bounded : ∀ item ∈ items, item.remaining ≤ bound)
    (snapshots : List Snapshot) :
    ∃ last, runFrom queueAfter items snapshots = some last ∧
      ∀ item ∈ last, item.remaining ≤ bound - snapshots.length := by
  induction snapshots generalizing items bound with
  | nil => exact ⟨items, rfl, bounded⟩
  | cons snapshot snapshots ih =>
    rcases queueAfter_spec snapshot nonneg with ⟨next, stepped, all⟩
    have smaller : ∀ item ∈ next, item.remaining ≤ bound - 1 := by
      clear stepped
      induction all with
      | nil => exact fun _ member => absurd member List.not_mem_nil
      | cons step _ rest =>
        rw [List.forall_mem_cons] at nonneg bounded
        exact List.forall_mem_cons.mpr ⟨by omega, rest nonneg.2 bounded.2⟩
    rcases ih (nonneg_of_forall₂ all) smaller with ⟨last, ran, left⟩
    refine ⟨last, runFrom_cons.mpr ⟨next, stepped, ran⟩, fun item member => ?_⟩
    have := left item member
    rw [List.length_cons]
    omega

theorem everyStep_follows {items : List QueueItem} (nonneg : ∀ item ∈ items, 0 ≤ item.attempts)
    (snapshots : List Snapshot) :
    EveryStep queueAfter (fun current snapshot => ∃ next moves,
      stepQueue current snapshot = .ok (next, moves) ∧
        next.map QueueItem.exportItemId = current.map QueueItem.exportItemId ∧
        List.Forall₂ (Follows snapshot) current next) items snapshots := by
  induction snapshots generalizing items with
  | nil => trivial
  | cons snapshot snapshots ih =>
    rcases stepQueue_spec snapshot nonneg with ⟨next, moves, stepped, all⟩
    have follows := all.imp fun _ _ step => step.1
    refine ⟨⟨next, moves, stepped, ?_, follows⟩, fun other otherStepped => ih ?_⟩
    · clear stepped all
      induction follows with
      | nil => rfl
      | cons step _ rest =>
        rw [List.forall_mem_cons] at nonneg
        rw [List.map_cons, List.map_cons, step.exportItemId, rest nonneg.2]
    · rw [queueAfter, stepped] at otherStepped
      obtain rfl : next = other := Option.some.inj otherStepped
      exact nonneg_of_forall₂ (all.imp fun _ _ step => step.2)

/-! ## The report -/

theorem foldl_countStates (items : List QueueItem) (counts : QueueState → ℕ) (state : QueueState) :
    items.foldl (fun counts item state =>
        if state = item.state then counts state + 1 else counts state) counts state =
      counts state + items.countP fun item => item.state = state := by
  induction items generalizing counts with
  | nil => rfl
  | cons item items ih =>
    rw [List.foldl_cons, ih, List.countP_cons]
    by_cases same : state = item.state
    · simp [same, Nat.add_assoc, Nat.add_comm]
    · simp [same, Ne.symm same]

theorem countStates_eq (items : List QueueItem) (state : QueueState) :
    countStates items state = items.countP fun item => item.state = state := by
  rw [countStates, foldl_countStates, Nat.zero_add]

theorem total_buildCompletionReport (items : List QueueItem) :
    (buildCompletionReport items).total = items.length := by
  simp only [buildCompletionReport, CompletionReport.total, countStates_eq]
  induction items with
  | nil => rfl
  | cons item items ih =>
    simp only [List.countP_cons, List.length_cons]
    cases item.state <;> simp <;> omega

/-! ## Every queue settles -/

/-- Every step follows its snapshot, and after seven snapshots nothing is left to do. -/
theorem queue_settles {items : List QueueItem} (nonneg : ∀ item ∈ items, 0 ≤ item.attempts)
    (snapshots : List Snapshot) :
    EveryStep queueAfter (fun current snapshot => ∃ next moves,
        stepQueue current snapshot = .ok (next, moves) ∧
          next.map QueueItem.exportItemId = current.map QueueItem.exportItemId ∧
          List.Forall₂ (Follows snapshot) current next) items snapshots ∧
      (∃ last, runFrom queueAfter items snapshots = some last ∧
        (maxWaitRetries.toNat + 2 ≤ snapshots.length →
          ∀ item ∈ last, item.state.isTerminal = true)) ∧
      ∀ queue : List QueueItem, (buildCompletionReport queue).total = queue.length := by
  refine ⟨everyStep_follows nonneg snapshots, ?_, total_buildCompletionReport⟩
  rcases exists_runFrom_queueAfter nonneg
    (fun item member => stepsLeft_le (nonneg item member) item.state)
    snapshots with ⟨last, ran, left⟩
  refine ⟨last, ran, fun enough item member => ?_⟩
  have settled : item.remaining = 0 := by
    have := left item member
    omega
  exact stepsLeft_eq_zero.mp settled

def sampleItems : List QueueItem := [{ exportItemId := .ofString "i1", state := .waiting },
    { exportItemId := .ofString "i2", state := .ready }]

/-- The second item becomes ready with the last attempt it has, and its copy never succeeds. -/
def sampleSnapshots : List Snapshot :=
  List.replicate 5 ⟨fun _ => none, fun _ => some false, fun _ => none⟩ ++
    List.replicate 2 ⟨fun _ => some true, fun _ => none, fun _ => none⟩

theorem queue_settles_sample : ∃ last, runFrom queueAfter sampleItems sampleSnapshots = some last ∧
      ∀ item ∈ last, item.state.isTerminal = true := by
  rcases (queue_settles (by decide : ∀ item ∈ sampleItems, 0 ≤ item.attempts)
    sampleSnapshots).2.1 with ⟨last, ran, settled⟩
  exact ⟨last, ran, settled (by decide)⟩

end Reperio.Worker
