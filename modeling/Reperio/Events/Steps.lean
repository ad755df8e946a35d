import Mathlib.Data.List.MinMax
import Reperio.Events.Outbox
import Reperio.Jobs.Steps

/-!
# What one statement does to the events

An event is inserted with the next number of its case, marked as published at
some later time, and possibly deleted. The mark is the only column that
changes, so `Event.unpublished` is what the history of an event is told with.
-/

namespace Reperio

open Python Relational Concurrency

/-- The event as it was inserted. -/
def Event.unpublished (event : Event) : Event := { event with publishedAt := none }

@[simp]
theorem Event.unpublished_eventId (event : Event) : event.unpublished.eventId = event.eventId := rfl

@[simp]
theorem Event.unpublished_caseId (event : Event) : event.unpublished.caseId = event.caseId := rfl

@[simp]
theorem Event.unpublished_sequence (event : Event) :
    event.unpublished.sequence = event.sequence := rfl

namespace OutboxStatement

variable {runtime : Runtime}

/-! ## Sequence numbers -/

variable {catalog : Catalog runtime}

theorem sequence_lt_nextSequence {event : Event} {caseId : String}
    (member : event ∈ catalog.events.rows) (isCase : event.caseId = some caseId) :
    event.sequence < nextSequence catalog caseId := by
  have inCase : event.sequence ∈ (catalog.events.rows.filter fun event =>
      decide (event.caseId = some caseId)).map Event.sequence :=
    List.mem_map.mpr ⟨event, List.mem_filter.mpr ⟨member, by simpa using isCase⟩, rfl⟩
  exact Nat.lt_succ_of_le (List.le_max_of_le' 0 inCase (le_refl _))

theorem nextSequence_pos (catalog : Catalog runtime) (caseId : String) :
    0 < nextSequence catalog caseId := Nat.succ_pos _

/-- The next number is the least one above those of the stored events. -/
theorem nextSequence_le {caseId : String} {bound : ℕ} (positive : 0 < bound)
    (below : ∀ event ∈ catalog.events.rows, event.caseId = some caseId → event.sequence < bound) :
    nextSequence catalog caseId ≤ bound := by
  apply Nat.succ_le_of_lt
  refine lt_of_le_of_lt (List.max_le_of_forall_le _ (bound - 1) ?_) (Nat.sub_one_lt_of_lt positive)
  intro sequence member
  rcases List.mem_map.mp member with ⟨event, inCase, rfl⟩
  rcases List.mem_filter.mp inCase with ⟨stored, isCase⟩
  exact Nat.le_sub_one_of_lt (below event stored (by simpa using isCase))

theorem nextSequence_mono {first second : Catalog runtime}
    (subset : first.events.rows.map Event.unpublished ⊆ second.events.rows.map Event.unpublished)
    (caseId : String) : nextSequence first caseId ≤ nextSequence second caseId := by
  refine nextSequence_le (nextSequence_pos second caseId) ?_
  intro event member isCase
  rcases List.mem_map.mp (subset (List.mem_map_of_mem member)) with ⟨later, laterMem, same⟩
  have sameCase : later.caseId = event.caseId := by simpa using congrArg Event.caseId same
  have sameNumber : later.sequence = event.sequence := by simpa using congrArg Event.sequence same
  rw [← sameNumber]
  exact sequence_lt_nextSequence laterMem (sameCase.trans isCase)

/-! ## Statements -/

def inserts : OutboxStatement → Bool
  | insertEvent .. => true
  | _ => false

def deletes : OutboxStatement → Bool
  | deletePublished .. => true
  | _ => false

/-- Neither inserts nor deletes an event. -/
def Quiet (statement : OutboxStatement) : Prop :=
  statement.inserts = false ∧ statement.deletes = false

theorem setPublished_rows (catalog : Catalog runtime) (publishedAt : String)
    (eventIds : List String) :
    (setPublished catalog publishedAt eventIds).1.events.rows.map Event.unpublished =
      catalog.events.rows.map Event.unpublished := by
  rw [setPublished]
  split
  · rename_i events count updated
    rw [(Table.update_eq_some.mp updated).1, Table.updated, List.map_map]
    refine List.map_congr_left ?_
    intro event _
    simp only [Function.comp_apply]
    split <;> rfl
  · rfl

/-- Quiet statements keep the events in their order. -/
theorem perform_rows_of_quiet {statement : OutboxStatement} (quiet : statement.Quiet)
    (catalog : Catalog runtime) :
    (statement.perform catalog).1.events.rows.map Event.unpublished =
      catalog.events.rows.map Event.unpublished := by
  cases statement with
  | job statement => simp only [perform, JobStatement.perform_events]
  | selectNextSequence caseId => rfl
  | insertEvent eventId caseId sequence jobId eventType payloadJson now => cases quiet.1
  | selectEvent eventId => rfl
  | selectAfter caseId afterSequence limit => rfl
  | markPublished publishedAt eventIds => exact setPublished_rows catalog publishedAt eventIds
  | deletePublished beforeCreatedAt limit => cases quiet.2

theorem perform_rows_subset {statement : OutboxStatement} (noInsert : statement.inserts = false)
    (catalog : Catalog runtime) :
    (statement.perform catalog).1.events.rows.map Event.unpublished ⊆
      catalog.events.rows.map Event.unpublished := by
  by_cases noDelete : statement.deletes = false
  · rw [perform_rows_of_quiet ⟨noInsert, noDelete⟩ catalog]
    exact List.Subset.refl _
  · cases statement with
    | deletePublished beforeCreatedAt limit => exact List.map_subset _ (List.filter_subset_self _)
    | _ => exact absurd rfl noDelete

theorem insertRow_cases (catalog : Catalog runtime) (row : Event) :
    (∃ events, (∀ case, row.caseId = some case → case ∈ catalog.scanCases) ∧
      (∀ job, row.jobId = some job → (catalog.jobs.lookup job).isSome = true) ∧
      catalog.events.insert row = some events ∧
      insertRow catalog row = ({ catalog with events }, .ok 1)) ∨
    (((∀ case, row.caseId = some case → case ∈ catalog.scanCases) →
      (∀ job, row.jobId = some job → (catalog.jobs.lookup job).isSome = true) →
      ¬∃ events, catalog.events.insert row = some events) ∧
      insertRow catalog row = (catalog, .error .integrityError)) := by
  have keys : ((row.caseId.all fun case => decide (case ∈ catalog.scanCases)) &&
      row.jobId.all fun job => (catalog.jobs.lookup job).isSome) = true ↔
      (∀ case, row.caseId = some case → case ∈ catalog.scanCases) ∧
      (∀ job, row.jobId = some job → (catalog.jobs.lookup job).isSome = true) := by
    simp only [Bool.and_eq_true, Option.all_eq_true, decide_eq_true_eq]
  simp only [insertRow]
  split
  · rename_i refers
    rcases keys.mp refers with ⟨isCase, isJob⟩
    cases inserted : catalog.events.insert row with
    | some events => exact Or.inl ⟨events, isCase, isJob, rfl, rfl⟩
    | none => exact Or.inr ⟨fun _ _ => by simp, rfl⟩
  · rename_i dangles
    exact Or.inr ⟨fun isCase isJob => absurd (keys.mpr ⟨isCase, isJob⟩) dangles, rfl⟩

/-! ## What becomes of an event -/

/-- An event stays as it is until it is marked. -/
theorem perform_unmarked (statement : OutboxStatement) {event : Event}
    (stored : event ∈ catalog.events.rows) (unmarked : event.publishedAt = none) :
    event ∈ (statement.perform catalog).1.events.rows ∨ ∃ publishedAt,
      { event with publishedAt := some publishedAt } ∈
        (statement.perform catalog).1.events.rows := by
  cases statement with
  | job statement => exact .inl (by rwa [perform, JobStatement.perform_events])
  | insertEvent eventId caseId sequence jobId eventType payloadJson now =>
    left
    rw [perform]
    rcases insertRow_cases catalog _ with ⟨events, -, -, inserted, result⟩ | ⟨-, result⟩
    · rw [result]
      exact (Table.insert_eq_some.mp inserted).2.2 ▸ List.mem_append_left _ stored
    · rwa [result]
  | markPublished publishedAt eventIds =>
    rw [perform, setPublished]
    split
    · rename_i events count updated
      simp only [(Table.update_eq_some.mp updated).1, Table.updated, List.mem_map]
      by_cases selected : event.eventId ∈ eventIds
      · exact .inr ⟨publishedAt, event, stored, by simp [selected, unmarked]⟩
      · exact .inl ⟨event, stored, by simp [selected]⟩
    · exact .inl stored
  | deletePublished beforeCreatedAt limit =>
    left
    refine List.mem_filter.mpr ⟨stored, ?_⟩
    simp only [oldPublished, List.mem_map, Bool.not_eq_true', decide_eq_false_iff_not]
    rintro ⟨old, isOld, sameId⟩
    rcases List.mem_filter.mp (mem_of_mem_orderLimit isOld) with ⟨isStored, isMarked⟩
    rw [catalog.events.eq_of_key_eq isStored stored sameId, unmarked] at isMarked
    cases isMarked
  | _ => exact .inl stored

end OutboxStatement

/-- Every event that is stored at the start is stored at the end, or it was stored with a mark
in between. -/
def LosesNoEvent {Conn : Type} [DecidableEq Conn] {runtime : Runtime}
    (first : (outboxService runtime).System Conn)
    (actions : List ((outboxService runtime).Action Conn)) : Prop :=
  ∀ last, runFrom Service.step first actions = some last → ∀ event ∈ first.state.events.rows,
    event ∈ last.state.events.rows ∨ ∃ before after middle publishedAt, actions = before ++ after ∧
      runFrom Service.step first before = some middle ∧
        { event with publishedAt := some publishedAt } ∈ middle.state.events.rows

/-- However the statements of calls are interleaved, no event is lost before it is published. -/
theorem loses_no_event {Conn : Type} [DecidableEq Conn] {runtime : Runtime}
    (first : (outboxService runtime).System Conn)
    (actions : List ((outboxService runtime).Action Conn)) : LosesNoEvent first actions := by
  intro last ran event stored
  cases isMark : event.publishedAt with
  | some publishedAt => exact .inr ⟨[], actions, first, publishedAt, rfl, rfl, isMark ▸ stored⟩
  | none =>
    refine runFrom_induction (.inl stored) (fun past state action next reached ih stepped => ?_) ran
    rcases ih with still | ⟨before, after, middle, publishedAt, rfl, marked⟩
    · rcases Service.step_cases stepped with ⟨_, _, _, same, _⟩ | ⟨_, _, _, query, _, _, _, same, _⟩
      · exact .inl (same ▸ still)
      · rcases query.perform_unmarked still isMark with kept | ⟨publishedAt, marked⟩
        · exact .inl (same ▸ kept)
        · refine .inr ⟨past ++ [action], [], next, publishedAt, by simp, ?_, same ▸ marked⟩
          exact runFrom_append.mpr ⟨state, reached, runFrom_cons.mpr ⟨next, stepped, rfl⟩⟩
    · exact .inr ⟨before, after ++ [action], middle, publishedAt, by simp, marked⟩

end Reperio
