import Reperio.Worker.ExportQueue

/-!
# Attempts to export

What an item of the queue goes through from its first snapshot on. A snapshot without a
result of the exporter is counted like a failed copy, and what an item has waited is taken
from the attempts to copy it. The path of an item is kept by the export only, not by the
steps before it.
-/

namespace Reperio.Worker

open Python Concurrency

/-! ## One item over many snapshots -/

/-- The item after one snapshot. -/
def itemAfter (item : QueueItem) (snapshot : Snapshot) : Option QueueItem :=
  (stepItem snapshot item).toOption.map Prod.fst

/-- The exporter has no result for the item, or `False`. -/
def Refused (id : PyStr) (snapshot : Snapshot) : Prop :=
  snapshot.dismissed id ≠ some true ∧ snapshot.exporterResults id ≠ some true

/-- The exporter has copied the item. -/
def Delivered (id : PyStr) (snapshot : Snapshot) : Prop :=
  snapshot.dismissed id ≠ some true ∧ snapshot.exporterResults id = some true

/-- The content of the item is not ready. -/
def Held (id : PyStr) (snapshot : Snapshot) : Prop :=
  snapshot.dismissed id ≠ some true ∧ snapshot.readinessOf id ≠ some true

/-- The content of the item is ready. -/
def Released (id : PyStr) (snapshot : Snapshot) : Prop :=
  snapshot.dismissed id ≠ some true ∧ snapshot.readinessOf id = some true

variable {item next last : QueueItem} {snapshot : Snapshot} {snapshots : List Snapshot}

theorem itemAfter_of_isTerminal (terminal : item.state.isTerminal = true) :
    itemAfter item snapshot = some item := by
  rw [itemAfter, stepItem, if_pos terminal]
  rfl

theorem itemAfter_of_dismissed (pending : item.state.isTerminal = false)
    (isDismissed : snapshot.dismissed item.exportItemId = some true) :
    itemAfter item snapshot = some
      { exportItemId := item.exportItemId, state := .skipped, attempts := item.attempts } := by
  rw [itemAfter, stepItem, if_neg (by simp [pending]), if_pos (getD_false.mpr isDismissed)]
  rfl

/-- A pending item that is not dismissed is rebuilt by the move of its phase. -/
theorem itemAfter_of_advance {move : Move} (pending : item.state.isTerminal = false)
    (notDismissed : snapshot.dismissed item.exportItemId ≠ some true)
    (isMove : advance snapshot item = .ok move) (changed : move.after ≠ item.state ∨
      move.delay.isSome) :
    itemAfter item snapshot = some
      { exportItemId := item.exportItemId, state := move.after, attempts := move.attempts,
        error := move.error,
        destinationPath := if move.after = .exported then item.destinationPath else none,
        verified := move.after = .exported } := by
  rw [itemAfter, stepItem, if_neg (by simp [pending]), if_neg (fun dismissed =>
    notDismissed (getD_false.mp dismissed)), isMove]
  dsimp only [bind, Except.bind]
  rw [if_pos (changed.imp_right Or.inl)]
  rfl

/-- A ready item with some attempts behind it, as it is after a step. -/
def readyItem (id : PyStr) (attempts : ℤ) (error : Option String) : QueueItem where
  exportItemId := id
  state := .ready
  attempts := attempts
  error := error

/-- A waiting item with some attempts behind it, as it is after a step. -/
def waitingItem (id : PyStr) (attempts : ℤ) (error : Option String) : QueueItem :=
  { readyItem id attempts error with state := .waiting }

theorem itemAfter_ready_delivered (ready : item.state = .ready)
    (delivered : Delivered item.exportItemId snapshot) :
    itemAfter item snapshot = some
      { exportItemId := item.exportItemId, state := .exported, attempts := item.attempts,
        destinationPath := item.destinationPath, verified := true } := by
  have isMove : advance snapshot item =
      .ok { after := .exported, attempts := item.attempts, error := none } := by
    unfold advance
    rw [ready]
    dsimp only
    rw [if_pos (getD_false.mpr delivered.2)]
    rfl
  rw [itemAfter_of_advance (by rw [ready]; rfl) delivered.1 isMove (Or.inl (by simp [ready]))]
  rfl

theorem itemAfter_ready_last (ready : item.state = .ready) (spent : maxWaitRetries ≤ item.attempts)
    (refused : Refused item.exportItemId snapshot) :
    itemAfter item snapshot = some
      { exportItemId := item.exportItemId, state := .failed, attempts := item.attempts,
        error := some "export_failed" } := by
  have isMove : advance snapshot item =
      .ok { after := .failed, attempts := item.attempts, error := some "export_failed" } := by
    unfold advance
    rw [ready]
    dsimp only
    rw [if_neg (fun result => refused.2 (getD_false.mp result)), if_pos spent]
    rfl
  rw [itemAfter_of_advance (by rw [ready]; rfl) refused.1 isMove (Or.inl (by simp [ready]))]
  rfl

theorem itemAfter_ready_refused (ready : item.state = .ready) (nonneg : 0 ≤ item.attempts)
    (few : item.attempts < maxWaitRetries) (refused : Refused item.exportItemId snapshot) :
    itemAfter item snapshot =
      some (readyItem item.exportItemId (item.attempts + 1) item.error) := by
  have isMove : advance snapshot item =
      .ok { after := .ready, attempts := item.attempts + 1, error := item.error,
            delay := some (min (2 * 2 ^ (item.attempts + 1 - 1).toNat) 60) } := by
    unfold advance
    rw [ready]
    dsimp only
    rw [if_neg (fun result => refused.2 (getD_false.mp result)), if_neg (not_le.mpr few),
      retryDelaySeconds_eq_ok (by omega) (by omega)]
    rfl
  rw [itemAfter_of_advance (by rw [ready]; rfl) refused.1 isMove (Or.inr rfl)]
  rfl

theorem itemAfter_waiting_released (waiting : item.state = .waiting)
    (released : Released item.exportItemId snapshot) :
    itemAfter item snapshot = some (readyItem item.exportItemId (item.attempts + 1) none) := by
  have isMove : advance snapshot item =
      .ok { after := .ready, attempts := item.attempts + 1, error := none } := by
    unfold advance
    rw [waiting]
    dsimp only
    rw [if_pos (getD_false.mpr released.2)]
    rfl
  rw [itemAfter_of_advance (by rw [waiting]; rfl) released.1 isMove (Or.inl (by simp [waiting]))]
  rfl

theorem itemAfter_waiting_last (waiting : item.state = .waiting)
    (spent : maxWaitRetries ≤ item.attempts) (held : Held item.exportItemId snapshot) :
    itemAfter item snapshot = some
      { exportItemId := item.exportItemId, state := .failed, attempts := item.attempts + 1,
        error := some "extraction_timeout" } := by
  have isMove : advance snapshot item =
      .ok { after := .failed, attempts := item.attempts + 1, error :=
        some "extraction_timeout" } := by
    unfold advance
    rw [waiting]
    dsimp only
    rw [if_neg (fun ready => held.2 (getD_false.mp ready)), if_pos (by omega)]
    rfl
  rw [itemAfter_of_advance (by rw [waiting]; rfl) held.1 isMove (Or.inl (by simp [waiting]))]
  rfl

theorem itemAfter_waiting_held (waiting : item.state = .waiting) (nonneg : 0 ≤ item.attempts)
    (few : item.attempts < maxWaitRetries) (held : Held item.exportItemId snapshot) :
    itemAfter item snapshot =
      some (waitingItem item.exportItemId (item.attempts + 1) item.error) := by
  have isMove : advance snapshot item =
      .ok { after := .waiting, attempts := item.attempts + 1, error := item.error,
            delay := some (min (2 * 2 ^ (item.attempts + 1 - 1).toNat) 60) } := by
    unfold advance
    rw [waiting]
    dsimp only
    rw [if_neg (fun ready => held.2 (getD_false.mp ready)), if_neg (by omega),
      retryDelaySeconds_eq_ok (by omega) (by omega)]
    rfl
  rw [itemAfter_of_advance (by rw [waiting]; rfl) held.1 isMove (Or.inr rfl)]
  rfl

/-! ## Whole runs of one item -/

/-- The exporter's result for a ready item is `False`. -/
def copyFailed (item : QueueItem) (snapshot : Snapshot) : Bool :=
  item.state = .ready && snapshot.exporterResults item.exportItemId = some false

def ExportFailed (item : QueueItem) : Prop :=
  item.state = .failed ∧ item.error = some "export_failed"

/-- The first snapshots, so many of them, all refuse the item. -/
def RefusedFor (id : PyStr) (count : ℕ) (snapshots : List Snapshot) : Prop :=
  ∃ refusals later, snapshots = refusals ++ later ∧ refusals.length = count ∧
    ∀ snapshot ∈ refusals, Refused id snapshot

/-- The item is delivered after fewer refusals. -/
def DeliveredWithin (id : PyStr) (count : ℕ) (snapshots : List Snapshot) : Prop :=
  ∃ refusals snapshot later, snapshots = refusals ++ snapshot :: later ∧ refusals.length < count ∧
    (∀ refusal ∈ refusals, Refused id refusal) ∧ Delivered id snapshot

/-- After so many snapshots without its content the item is ready, and there is a rest. -/
def ReleasedAfter (id : PyStr) (count : ℕ) (snapshots rest : List Snapshot) : Prop :=
  ∃ waits snapshot, snapshots = waits ++ snapshot :: rest ∧ waits.length = count ∧
    (∀ wait ∈ waits, Held id wait) ∧ Released id snapshot

variable {id : PyStr}

theorem refusedFor_succ {count : ℕ} : RefusedFor id (count + 1) (snapshot :: snapshots) ↔
      Refused id snapshot ∧ RefusedFor id count snapshots := by
  constructor
  · rintro ⟨refusals, later, split, length, refused⟩
    cases refusals with
    | nil => cases length
    | cons refusal refusals =>
      rw [List.cons_append, List.cons.injEq] at split
      rcases split with ⟨rfl, rfl⟩
      rcases List.forall_mem_cons.mp refused with ⟨first, others⟩
      exact ⟨first, refusals, later, rfl, Nat.succ.inj length, others⟩
  · rintro ⟨first, refusals, later, rfl, rfl, others⟩
    exact ⟨snapshot :: refusals, later, rfl, rfl, List.forall_mem_cons.mpr ⟨first, others⟩⟩

theorem refusedFor_zero (id : PyStr) (snapshots : List Snapshot) : RefusedFor id 0 snapshots :=
  ⟨[], snapshots, rfl, rfl, fun _ member => absurd member List.not_mem_nil⟩

theorem not_refusedFor_nil {count : ℕ} (positive : 0 < count) : ¬RefusedFor id count [] := by
  rintro ⟨refusals, later, split, rfl, -⟩
  rw [List.nil_eq_append_iff] at split
  rw [split.1] at positive
  exact absurd positive (lt_irrefl 0)

theorem deliveredWithin_succ {count : ℕ} : DeliveredWithin id (count + 1) (snapshot :: snapshots) ↔
      Delivered id snapshot ∨ Refused id snapshot ∧ DeliveredWithin id count snapshots := by
  constructor
  · rintro ⟨refusals, delivery, later, split, length, refused, delivered⟩
    cases refusals with
    | nil =>
      rw [List.nil_append, List.cons.injEq] at split
      rw [split.1]
      exact Or.inl delivered
    | cons refusal refusals =>
      rw [List.cons_append, List.cons.injEq] at split
      rcases split with ⟨rfl, rfl⟩
      rcases List.forall_mem_cons.mp refused with ⟨first, others⟩
      exact Or.inr ⟨first, refusals, delivery, later, rfl, Nat.lt_of_succ_lt_succ length, others,
        delivered⟩
  · rintro (delivered | ⟨first, refusals, delivery, later, rfl, length, others, delivered⟩)
    · exact ⟨[], snapshot, snapshots, rfl, Nat.succ_pos count,
        fun _ member => absurd member List.not_mem_nil, delivered⟩
    · exact ⟨snapshot :: refusals, delivery, later, rfl, Nat.succ_lt_succ length,
        List.forall_mem_cons.mpr ⟨first, others⟩, delivered⟩

theorem not_deliveredWithin_zero (id : PyStr) (snapshots : List Snapshot) :
    ¬DeliveredWithin id 0 snapshots := by
  rintro ⟨refusals, _, _, _, length, _⟩
  exact absurd length (Nat.not_lt_zero _)

theorem not_deliveredWithin_nil (id : PyStr) (count : ℕ) : ¬DeliveredWithin id count [] := by
  rintro ⟨refusals, delivery, later, split, -⟩
  rw [List.nil_eq_append_iff] at split
  cases split.2

theorem delivered_or_refused (notDismissed : snapshot.dismissed id ≠ some true) :
    Delivered id snapshot ∨ Refused id snapshot := by
  by_cases result : snapshot.exporterResults id = some true
  · exact Or.inl ⟨notDismissed, result⟩
  · exact Or.inr ⟨notDismissed, result⟩

theorem runFrom_of_isTerminal (terminal : item.state.isTerminal = true)
    (ran : runFrom itemAfter item snapshots = some last) : last = item := by
  induction snapshots with
  | nil => exact (Option.some.inj ran).symm
  | cons snapshot snapshots ih =>
    rcases runFrom_cons.mp ran with ⟨next, stepped, rest⟩
    rw [itemAfter_of_isTerminal terminal] at stepped
    cases stepped
    exact ih rest

theorem countSteps_of_isTerminal (terminal : item.state.isTerminal = true)
    (snapshots : List Snapshot) : countSteps itemAfter copyFailed item snapshots = 0 := by
  have notReady : item.state ≠ .ready := by
    intro ready
    rw [ready] at terminal
    cases terminal
  induction snapshots with
  | nil => rfl
  | cons snapshot snapshots ih =>
    rw [countSteps, itemAfter_of_isTerminal terminal]
    dsimp only
    rw [ih]
    simp [copyFailed, notReady]

/-- What becomes of an item that is dismissed. -/
theorem skipped_of_dismissed (pending : item.state.isTerminal = false)
    (isDismissed : snapshot.dismissed item.exportItemId = some true)
    (ran : runFrom itemAfter item (snapshot :: snapshots) = some last) : last.state = .skipped := by
  rcases runFrom_cons.mp ran with ⟨next, stepped, rest⟩
  rw [itemAfter_of_dismissed pending isDismissed] at stepped
  cases stepped
  rw [runFrom_of_isTerminal rfl rest]

theorem remaining_readyItem (id : PyStr) (attempts : ℤ) (error : Option String) :
    (readyItem id attempts error).remaining = max 1 (6 - attempts).toNat := rfl

theorem remaining_ready (ready : item.state = .ready) :
    item.remaining = max 1 (6 - item.attempts).toNat := by
  rw [QueueItem.remaining, ready, stepsLeft_ready]

/-! ### Ready items -/

/-- A ready item fails after as many refusals as it has attempts left, and the failed copies are
those that are `False` among them. -/
theorem ready_fails {refusals later : List Snapshot} (ready : item.state = .ready)
    (nonneg : 0 ≤ item.attempts) (count : refusals.length = item.remaining)
    (refused : ∀ snapshot ∈ refusals, Refused item.exportItemId snapshot)
    (ran : runFrom itemAfter item (refusals ++ later) = some last) :
    ExportFailed last ∧ countSteps itemAfter copyFailed item (refusals ++ later) =
      refusals.countP fun snapshot => snapshot.exporterResults item.exportItemId = some false := by
  induction refusals generalizing item with
  | nil =>
    rw [remaining_ready ready, List.length_nil] at count
    omega
  | cons refusal refusals ih =>
    rcases List.forall_mem_cons.mp refused with ⟨first, others⟩
    rcases runFrom_cons.mp ran with ⟨next, stepped, rest⟩
    rw [List.cons_append, countSteps, stepped, List.countP_cons, Nat.add_comm]
    have hit : (if copyFailed item refusal = true then 1 else 0) =
        if decide (refusal.exporterResults item.exportItemId = some false) = true then 1
        else 0 := by
      simp [copyFailed, ready]
    rw [hit]
    rw [remaining_ready ready, List.length_cons] at count
    by_cases few : item.attempts < maxWaitRetries
    · rw [itemAfter_ready_refused ready nonneg few first] at stepped
      cases stepped
      unfold maxWaitRetries at few
      have left : refusals.length =
          (readyItem item.exportItemId (item.attempts + 1) item.error).remaining := by
        rw [remaining_readyItem]
        omega
      rcases ih rfl (Int.add_nonneg nonneg one_pos.le) left others rest with ⟨failed, counted⟩
      exact ⟨failed, congrArg (· + _) counted⟩
    · rw [itemAfter_ready_last ready (not_lt.mp few) first] at stepped
      cases stepped
      unfold maxWaitRetries at few
      obtain rfl : refusals = [] := by
        rw [← List.length_eq_zero_iff]
        omega
      rw [runFrom_of_isTerminal rfl rest, List.nil_append]
      refine ⟨⟨rfl, rfl⟩, congrArg (· + _) ?_⟩
      exact countSteps_of_isTerminal rfl later

/-- How a run of a ready item ends. -/
theorem ready_ends (ready : item.state = .ready) (nonneg : 0 ≤ item.attempts)
    (ran : runFrom itemAfter item snapshots = some last) :
    (ExportFailed last ↔ RefusedFor item.exportItemId item.remaining snapshots) ∧
      (last.state = .exported ↔ DeliveredWithin item.exportItemId item.remaining snapshots) := by
  induction snapshots generalizing item with
  | nil =>
    obtain rfl : item = last := Option.some.inj ran
    have positive : 0 < item.remaining := by
      rw [remaining_ready ready]
      omega
    refine ⟨iff_of_false ?_ (not_refusedFor_nil positive),
      iff_of_false ?_ (not_deliveredWithin_nil _ _)⟩
    · rintro ⟨failed, -⟩
      rw [ready] at failed
      cases failed
    · rw [ready]
      decide
  | cons snapshot snapshots ih =>
    have hasLeft : ∃ left, item.remaining = left + 1 := by
      rw [remaining_ready ready]
      exact ⟨max 1 (6 - item.attempts).toNat - 1, by omega⟩
    rcases hasLeft with ⟨left, hasLeft⟩
    rw [hasLeft, refusedFor_succ, deliveredWithin_succ]
    rw [remaining_ready ready] at hasLeft
    by_cases isDismissed : snapshot.dismissed item.exportItemId = some true
    · have skipped := skipped_of_dismissed (by rw [ready]; rfl) isDismissed ran
      simp [ExportFailed, skipped, Refused, Delivered, isDismissed]
    · rcases runFrom_cons.mp ran with ⟨next, stepped, rest⟩
      rcases delivered_or_refused isDismissed with delivered | refused
      · rw [itemAfter_ready_delivered ready delivered] at stepped
        cases stepped
        rw [runFrom_of_isTerminal rfl rest]
        simp [ExportFailed, Refused, delivered, delivered.2]
      · have notDelivered : ¬Delivered item.exportItemId snapshot :=
          fun delivered => refused.2 delivered.2
        simp only [refused, true_and, notDelivered, false_or]
        by_cases few : item.attempts < maxWaitRetries
        · rw [itemAfter_ready_refused ready nonneg few refused] at stepped
          cases stepped
          unfold maxWaitRetries at few
          obtain rfl : left =
            (readyItem item.exportItemId (item.attempts + 1) item.error).remaining := by
            rw [remaining_readyItem]
            omega
          exact ih rfl (Int.add_nonneg nonneg one_pos.le) rest
        · rw [itemAfter_ready_last ready (not_lt.mp few) refused] at stepped
          cases stepped
          unfold maxWaitRetries at few
          obtain rfl : left = 0 := by omega
          rw [runFrom_of_isTerminal rfl rest]
          exact ⟨iff_of_true ⟨rfl, rfl⟩ (refusedFor_zero _ _),
            iff_of_false (by simp) (not_deliveredWithin_zero _ _)⟩

/-! ### Paths -/

theorem destinationPath_itemAfter (stepped : itemAfter item snapshot = some next) :
    next.destinationPath = item.destinationPath ∨ next.destinationPath = none := by
  rw [itemAfter, Option.map_eq_some_iff] at stepped
  rcases stepped with ⟨result, isResult, rfl⟩
  have stepped := eq_ok_of_toOption isResult
  unfold stepItem at stepped
  split at stepped
  · cases stepped
    exact Or.inl rfl
  · split at stepped
    · cases stepped
      exact Or.inr rfl
    · rcases bind_eq_ok stepped with ⟨move, -, moved⟩
      split at moved
      · cases moved
        dsimp only
        split
        · exact Or.inl rfl
        · exact Or.inr rfl
      · cases moved
        exact Or.inl rfl

/-- A path that is lost does not come back. -/
theorem destinationPath_runFrom (lost : item.destinationPath = none)
    (ran : runFrom itemAfter item snapshots = some last) : last.destinationPath = none := by
  have kept : ∀ current snapshot next, current.destinationPath = none →
      itemAfter current snapshot = some next → next.destinationPath = none := by
    intro current snapshot next none stepped
    rcases destinationPath_itemAfter stepped with same | gone
    · exact same.trans none
    · exact gone
  exact invariant_of_runFrom kept lost ran

/-! ### Waiting items -/

/-- What an item has waited is spent when it becomes ready, and its path is gone. -/
theorem waiting_released {waits rest : List Snapshot} (waiting : item.state = .waiting)
    (nonneg : 0 ≤ item.attempts) (few : item.attempts + waits.length ≤ maxWaitRetries)
    (held : ∀ wait ∈ waits, Held item.exportItemId wait)
    (released : Released item.exportItemId snapshot)
    (ran : runFrom itemAfter item (waits ++ snapshot :: rest) = some last) :
    runFrom itemAfter (readyItem item.exportItemId (item.attempts + waits.length + 1) none) rest =
        some last ∧
      countSteps itemAfter copyFailed item (waits ++ snapshot :: rest) =
        countSteps itemAfter copyFailed
        (readyItem item.exportItemId (item.attempts + waits.length + 1) none) rest := by
  have noHit : ∀ snapshot, copyFailed item snapshot = false := by
    simp [copyFailed, waiting]
  induction waits generalizing item with
  | nil =>
    rcases runFrom_cons.mp ran with ⟨next, stepped, ran⟩
    rw [List.nil_append, countSteps, stepped, noHit]
    rw [itemAfter_waiting_released waiting released] at stepped
    cases stepped
    rw [List.length_nil, Nat.cast_zero, Int.add_zero]
    exact ⟨ran, Nat.zero_add _⟩
  | cons wait waits ih =>
    rcases List.forall_mem_cons.mp held with ⟨first, others⟩
    rcases runFrom_cons.mp ran with ⟨next, stepped, ran⟩
    rw [List.cons_append, countSteps, stepped, noHit]
    rw [List.length_cons, Nat.cast_succ] at few ⊢
    rw [itemAfter_waiting_held waiting nonneg (by omega) first] at stepped
    cases stepped
    have soon : item.attempts + 1 + (waits.length : ℤ) ≤ maxWaitRetries := by omega
    rcases @ih (waitingItem item.exportItemId (item.attempts + 1) item.error) rfl
      (Int.add_nonneg nonneg one_pos.le) soon others released ran
        (fun _ => rfl) with ⟨rests, counted⟩
    have attempts : item.attempts + 1 + waits.length + 1 = item.attempts + (waits.length + 1) +
      1 := by
      omega
    rw [← attempts]
    exact ⟨rests, (Nat.zero_add _).trans counted⟩

/-- A waiting item that is exported or whose copy fails has become ready before. -/
theorem exists_releasedAfter (waiting : item.state = .waiting) (nonneg : 0 ≤ item.attempts)
    (few : item.attempts ≤ maxWaitRetries) (ran : runFrom itemAfter item snapshots = some last)
    (copied : ExportFailed last ∨ last.state = .exported) :
    ∃ count rest, item.attempts + (count : ℕ) ≤ maxWaitRetries ∧
      ReleasedAfter item.exportItemId count snapshots rest := by
  induction snapshots generalizing item with
  | nil =>
    obtain rfl : item = last := Option.some.inj ran
    simp [ExportFailed, waiting] at copied
  | cons snapshot snapshots ih =>
    by_cases isDismissed : snapshot.dismissed item.exportItemId = some true
    · have skipped := skipped_of_dismissed (by rw [waiting]; rfl) isDismissed ran
      simp [ExportFailed, skipped] at copied
    · by_cases isReady : snapshot.readinessOf item.exportItemId = some true
      · exact ⟨0, snapshots, by simpa using few, [], snapshot, rfl, rfl,
          fun _ member => absurd member List.not_mem_nil, isDismissed, isReady⟩
      · have held : Held item.exportItemId snapshot := ⟨isDismissed, isReady⟩
        rcases runFrom_cons.mp ran with ⟨next, stepped, rests⟩
        by_cases more : item.attempts < maxWaitRetries
        · rw [itemAfter_waiting_held waiting nonneg more held] at stepped
          cases stepped
          rcases @ih (waitingItem item.exportItemId (item.attempts + 1) item.error) rfl
            (Int.add_nonneg nonneg one_pos.le) more rests with
            ⟨count, rest, bounded, waits, release, rfl, rfl, others, released⟩
          refine ⟨waits.length + 1, rest, ?_, snapshot :: waits, release, rfl, rfl,
            List.forall_mem_cons.mpr ⟨held, others⟩, released⟩
          have bounded : item.attempts + 1 + (waits.length : ℤ) ≤ maxWaitRetries := bounded
          omega
        · rw [itemAfter_waiting_last waiting (not_lt.mp more) held] at stepped
          cases stepped
          rw [runFrom_of_isTerminal rfl rests] at copied
          simp [ExportFailed] at copied

/-! ## Fair runs of one item -/

/-- What the export of one item needs of the snapshots. An item that is queued ready and refused as
often as it has attempts is refused by `False` each time, and one that has been waiting is not
refused that often. An item with a path is exported at its first snapshot. -/
def Fair (item : QueueItem) (snapshots : List Snapshot) : Prop := match item.state with
  | .ready =>
    (RefusedFor item.exportItemId (maxWaitRetries.toNat + 1) snapshots →
      ∀ snapshot ∈ snapshots.take (maxWaitRetries.toNat + 1),
        snapshot.exporterResults item.exportItemId = some false) ∧
    (item.destinationPath ≠ none → ∀ first later, snapshots = first :: later →
      Refused item.exportItemId first →
      ¬DeliveredWithin item.exportItemId maxWaitRetries.toNat later)
  | .waiting =>
    ∀ waits rest, waits ≤ maxWaitRetries.toNat →
      ReleasedAfter item.exportItemId waits snapshots rest →
      ¬RefusedFor item.exportItemId (max 1 (maxWaitRetries.toNat - waits)) rest ∧
        (item.destinationPath ≠ none →
          ¬DeliveredWithin item.exportItemId (max 1 (maxWaitRetries.toNat - waits)) rest)
  | _ => True

/-- An item as it is put into the queue. -/
structure Queued (item : QueueItem) : Prop where
  attempts : item.attempts = 0
  unfinished : item.state ≠ .failed ∧ item.state ≠ .exported

/-- Failures are earned and the path is kept, by one item. -/
def Justified (item last : QueueItem) (snapshots : List Snapshot) : Prop := (ExportFailed last →
    maxWaitRetries.toNat + 1 ≤ countSteps itemAfter copyFailed item snapshots) ∧
  (last.state = .exported → last.destinationPath = item.destinationPath)

theorem ready_earned_iff (ready : item.state = .ready) (fresh : item.attempts = 0)
    (ran : runFrom itemAfter item snapshots = some last) :
    (ExportFailed last →
        maxWaitRetries.toNat + 1 ≤ countSteps itemAfter copyFailed item snapshots) ↔
      (RefusedFor item.exportItemId (maxWaitRetries.toNat + 1) snapshots →
        ∀ snapshot ∈ snapshots.take (maxWaitRetries.toNat + 1),
          snapshot.exporterResults item.exportItemId = some false) := by
  have nonneg : 0 ≤ item.attempts := fresh.ge
  have left : item.remaining = maxWaitRetries.toNat + 1 := by
    rw [remaining_ready ready, fresh]
    rfl
  rw [(ready_ends ready nonneg ran).1, left]
  refine imp_congr_right ?_
  rintro ⟨refusals, later, rfl, length, refused⟩
  rw [(ready_fails ready nonneg (length.trans left.symm) refused ran).2, ← length, List.take_left]
  constructor
  · intro all snapshot member
    have full := le_antisymm List.countP_le_length all
    exact of_decide_eq_true (List.countP_eq_length.mp full snapshot member)
  · intro all
    exact (List.countP_eq_length.mpr fun snapshot member => decide_eq_true (all snapshot member)).ge

theorem ready_kept_iff (ready : item.state = .ready) (fresh : item.attempts = 0)
    (ran : runFrom itemAfter item snapshots = some last) :
    (last.state = .exported → last.destinationPath = item.destinationPath) ↔
      (item.destinationPath ≠ none → ∀ first later, snapshots = first :: later →
        Refused item.exportItemId first →
        ¬DeliveredWithin item.exportItemId maxWaitRetries.toNat later) := by
  have nonneg : 0 ≤ item.attempts := fresh.ge
  have left : item.remaining = maxWaitRetries.toNat + 1 := by
    rw [remaining_ready ready, fresh]
    rfl
  rw [(ready_ends ready nonneg ran).2, left]
  cases snapshots with
  | nil => simp [not_deliveredWithin_nil]
  | cons first later =>
    rw [deliveredWithin_succ]
    rcases runFrom_cons.mp ran with ⟨next, stepped, rest⟩
    constructor
    · rintro kept hasPath _ _ same refused delivered
      cases same
      rw [itemAfter_ready_refused ready nonneg (by rw [fresh]; decide) refused] at stepped
      cases stepped
      rw [← kept (Or.inr ⟨refused, delivered⟩)] at hasPath
      exact hasPath (destinationPath_runFrom rfl rest)
    · rintro never (delivered | ⟨refused, delivered⟩)
      · rw [itemAfter_ready_delivered ready delivered] at stepped
        cases stepped
        rw [runFrom_of_isTerminal rfl rest]
      · by_cases hasPath : item.destinationPath = none
        · rw [hasPath]
          exact destinationPath_runFrom hasPath ran
        · exact absurd delivered (never hasPath first later rfl refused)

theorem waiting_justified_iff (waiting : item.state = .waiting) (fresh : item.attempts = 0)
    (ran : runFrom itemAfter item snapshots = some last) :
    Justified item last snapshots ↔ ∀ waits rest, waits ≤ maxWaitRetries.toNat →
        ReleasedAfter item.exportItemId waits snapshots rest →
        ¬RefusedFor item.exportItemId (max 1 (maxWaitRetries.toNat - waits)) rest ∧
          (item.destinationPath ≠ none →
            ¬DeliveredWithin item.exportItemId (max 1 (maxWaitRetries.toNat - waits)) rest) := by
  have nonneg : 0 ≤ item.attempts := fresh.ge
  have fivefold : maxWaitRetries = 5 := rfl
  -- how the rest of the run ends, behind some waits
  have behind : ∀ waits rest, waits ≤ maxWaitRetries.toNat →
      ReleasedAfter item.exportItemId waits snapshots rest →
      ∃ ready : QueueItem, ready.state = .ready ∧ 0 ≤ ready.attempts ∧
        ready.destinationPath = none ∧ ready.exportItemId = item.exportItemId ∧
        ready.remaining = max 1 (maxWaitRetries.toNat - waits) ∧
        runFrom itemAfter ready rest = some last ∧
        countSteps itemAfter copyFailed item snapshots =
          countSteps itemAfter copyFailed ready rest := by
    rintro _ rest few ⟨waits, release, rfl, rfl, held, released⟩
    rcases waiting_released waiting nonneg (by omega) held released ran with ⟨rests, counted⟩
    refine ⟨readyItem item.exportItemId (item.attempts + waits.length + 1) none, rfl, ?_, rfl, rfl,
      ?_, rests, counted⟩
    · change 0 ≤ item.attempts + waits.length + 1
      omega
    · rw [remaining_readyItem]
      omega
  constructor
  · rintro ⟨earned, kept⟩ waits rest few released
    rcases behind waits rest few released with
      ⟨ready, isReady, readyNonneg, noPath, sameId, left, rests, counted⟩
    have ends := ready_ends isReady readyNonneg rests
    rw [sameId, left] at ends
    refine ⟨fun refused => ?_, fun hasPath delivered => hasPath ?_⟩
    · have enough := earned (ends.1.mpr refused)
      rcases refused with ⟨refusals, later, rfl, length, refused⟩
      rw [← sameId] at refused
      rw [counted,
        (ready_fails isReady readyNonneg (length.trans left.symm) refused rests).2] at enough
      have bounded := enough.trans List.countP_le_length
      omega
    · rw [← kept (ends.2.mpr delivered)]
      exact destinationPath_runFrom noPath rests
  · intro fair
    constructor
    · intro failed
      rcases exists_releasedAfter waiting nonneg (by omega) ran (Or.inl failed) with
        ⟨waits, rest, few, released⟩
      have few : waits ≤ maxWaitRetries.toNat := by omega
      rcases behind waits rest few released with
        ⟨ready, isReady, readyNonneg, noPath, sameId, left, rests, counted⟩
      have ends := ready_ends isReady readyNonneg rests
      rw [sameId, left] at ends
      exact absurd (ends.1.mp failed) (fair waits rest few released).1
    · intro exported
      rcases exists_releasedAfter waiting nonneg (by omega) ran (Or.inr exported) with
        ⟨waits, rest, few, released⟩
      have few : waits ≤ maxWaitRetries.toNat := by omega
      rcases behind waits rest few released with
        ⟨ready, isReady, readyNonneg, noPath, sameId, left, rests, counted⟩
      have ends := ready_ends isReady readyNonneg rests
      rw [sameId, left] at ends
      by_cases hasPath : item.destinationPath = none
      · rw [hasPath]
        exact destinationPath_runFrom hasPath ran
      · exact absurd (ends.2.mp exported) ((fair waits rest few released).2 hasPath)

theorem justified_item_iff (queued : Queued item)
    (ran : runFrom itemAfter item snapshots = some last) :
    Justified item last snapshots ↔ Fair item snapshots := by
  unfold Fair
  cases isState : item.state with
  | ready =>
    exact and_congr (ready_earned_iff isState queued.attempts ran)
      (ready_kept_iff isState queued.attempts ran)
  | waiting => exact waiting_justified_iff isState queued.attempts ran
  | skipped =>
    have same := runFrom_of_isTerminal (by rw [isState]; rfl) ran
    subst same
    refine iff_of_true ⟨?_, fun _ => rfl⟩ trivial
    rintro ⟨failed, -⟩
    rw [isState] at failed
    cases failed
  | failed => exact absurd isState queued.unfinished.1
  | exported => exact absurd isState queued.unfinished.2

/-! ## Fair runs of the queue -/

/-- How often the exporter's result for the item at that place is `False` when it is ready. -/
def failedCopies (items : List QueueItem) (snapshots : List Snapshot) (index : ℕ) : ℕ :=
  countSteps queueAfter
    (fun queue snapshot => (queue[index]?).any fun item => copyFailed item snapshot) items snapshots

/-- Each item of the last queue that has failed or is exported is so with good reason. -/
def FailuresEarned (items last : List QueueItem) (snapshots : List Snapshot) : Prop :=
  ∀ index item final, items[index]? = some item → last[index]? = some final →
    (ExportFailed final → maxWaitRetries.toNat + 1 ≤ failedCopies items snapshots index) ∧
    (final.state = .exported → final.destinationPath = item.destinationPath)

theorem exists_of_queueAfter {items after : List QueueItem} {index : ℕ}
    (stepped : queueAfter items snapshot = some after) (isItem : items[index]? = some item) :
    ∃ next, after[index]? = some next ∧ itemAfter item snapshot = some next := by
  rw [queueAfter, Option.map_eq_some_iff] at stepped
  rcases stepped with ⟨result, isResult, rfl⟩
  rcases bind_eq_ok (eq_ok_of_toOption isResult) with ⟨results, areResults, same⟩
  cases same
  clear isResult
  induction items generalizing index results with
  | nil => cases isItem
  | cons first items ih =>
    rw [List.mapM_cons] at areResults
    rcases bind_eq_ok areResults with ⟨head, isHead, areResults⟩
    rcases bind_eq_ok areResults with ⟨tail, isTail, same⟩
    cases same
    cases index with
    | zero =>
      cases isItem
      exact ⟨head.1, rfl, by rw [itemAfter, isHead]; rfl⟩
    | succ index => exact ih isItem tail isTail

/-- The items of a queue take their steps on their own. -/
theorem exists_of_runFrom {items last : List QueueItem} {index : ℕ}
    (ran : runFrom queueAfter items snapshots = some last) (isItem : items[index]? = some item) :
    ∃ final, last[index]? = some final ∧ runFrom itemAfter item snapshots = some final ∧
      failedCopies items snapshots index = countSteps itemAfter copyFailed item snapshots := by
  induction snapshots generalizing items item with
  | nil =>
    cases ran
    exact ⟨item, isItem, rfl, rfl⟩
  | cons snapshot snapshots ih =>
    rcases runFrom_cons.mp ran with ⟨after, stepped, rest⟩
    rcases exists_of_queueAfter stepped isItem with ⟨next, isNext, nextStepped⟩
    rcases ih rest isNext with ⟨final, isFinal, finalRan, counted⟩
    refine ⟨final, isFinal, runFrom_cons.mpr ⟨next, nextStepped, finalRan⟩, ?_⟩
    rw [failedCopies, countSteps, countSteps, stepped, nextStepped, isItem, Option.any_some]
    exact congrArg (_ + ·) counted

/-- In a run of a queue failures are earned and paths are kept if and only if the run is fair to
every item. -/
theorem failuresEarned_iff {items last : List QueueItem} (queued : ∀ item ∈ items, Queued item)
    (ran : runFrom queueAfter items snapshots = some last) :
    FailuresEarned items last snapshots ↔ ∀ item ∈ items, Fair item snapshots := by
  constructor
  · intro earned item member
    rcases List.mem_iff_getElem?.mp member with ⟨index, isItem⟩
    rcases exists_of_runFrom ran isItem with ⟨final, isFinal, finalRan, counted⟩
    have justified := earned index item final isItem isFinal
    rw [counted] at justified
    exact (justified_item_iff (queued item member) finalRan).mp justified
  · intro fair index item final isItem isFinal
    have member := List.mem_of_getElem? isItem
    rcases exists_of_runFrom ran isItem with ⟨other, isOther, finalRan, counted⟩
    obtain rfl : final = other := Option.some.inj (isFinal.symm.trans isOther)
    rw [counted]
    exact (justified_item_iff (queued item member) finalRan).mpr (fair item member)

/-- An item with a path whose content is ready and copied at once, and one that is ready and never
copied. -/
def pathItems : List QueueItem :=
  [{ exportItemId := .ofString "i1", state := .ready, destinationPath := some (.ofString "/d") },
    { exportItemId := .ofString "i2", state := .ready }]

/-- The exporter has a result for the first item only. -/
def pathSnapshot : Snapshot where
  readinessOf _ := none
  exporterResults id := if id = .ofString "i1" then some true else none

def pathItemsLast : List QueueItem :=
  [{ exportItemId := .ofString "i1", state := .exported, destinationPath := some (.ofString "/d"),
     verified := true },
    { exportItemId := .ofString "i2", state := .failed, attempts := 5, error :=
      some "export_failed" }]

theorem failuresEarned_iff_pathItems :
    FailuresEarned pathItems pathItemsLast (List.replicate 6 pathSnapshot) ↔
      ∀ item ∈ pathItems, Fair item (List.replicate 6 pathSnapshot) :=
  failuresEarned_iff (List.forall_mem_cons.mpr ⟨⟨rfl, by decide⟩,
    List.forall_mem_singleton.mpr ⟨rfl, by decide⟩⟩) (by decide)

theorem failures_not_earned :
    ¬∀ (items last : List QueueItem) (snapshots : List Snapshot), (∀ item ∈ items, Queued item) →
      runFrom queueAfter items snapshots = some last → FailuresEarned items last snapshots := by
  intro earned
  have queued : ∀ item ∈ pathItems, Queued item := List.forall_mem_cons.mpr
    ⟨⟨rfl, by decide⟩, List.forall_mem_singleton.mpr ⟨rfl, by decide⟩⟩
  have failed :=
    (earned pathItems pathItemsLast (List.replicate 6 pathSnapshot) queued (by decide) 1 _ _
    rfl rfl).1 ⟨rfl, rfl⟩
  exact absurd failed (by decide)

end Reperio.Worker
