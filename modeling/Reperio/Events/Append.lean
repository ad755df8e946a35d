import Reperio.Events.Steps
import Reperio.Jobs.Serial

/-!
# What `append_event` and the other outbox functions do when run alone

`append_event` stores one row or raises and stores nothing, and `AcceptsEvent`
says on its arguments and the catalog which of the two happens.
-/

namespace Reperio

open Python Relational Concurrency

namespace Events

variable {runtime : Runtime} {α β : Type}

theorem run_issue_bind (statement : OutboxStatement) (rest : statement.Reply → OutboxProgram α)
    (catalog : Catalog runtime) :
    (issue statement >>= rest).run OutboxStatement.perform catalog =
      (rest (statement.perform catalog).2).run OutboxStatement.perform
        (statement.perform catalog).1 := rfl

theorem run_ofJobProgram (program : JobProgram α) (catalog : Catalog runtime) :
    (ofJobProgram program).run OutboxStatement.perform catalog =
      program.run JobStatement.perform catalog := by
  induction program generalizing catalog with
  | done result => rfl
  | raise error => rfl
  | execute statement next ih => exact ih _ _

/-! ## Appending -/

/-- The row that `append_event` stores. -/
def eventRow (catalog : Catalog runtime) (new : NewEvent) (payloadJson : String) : Event where
  eventId := new.eventId
  caseId := some new.caseId
  sequence := OutboxStatement.nextSequence catalog new.caseId
  jobId := new.jobId
  eventType := new.eventType
  payloadJson
  publishedAt := none
  createdAt := new.now

/-- The arguments and the catalog for which `append_event` succeeds. -/
structure AcceptsEvent (catalog : Catalog runtime) (new : NewEvent) : Prop where
  eventId : isPublicId new.eventId = true
  caseId : isPublicId new.caseId = true
  jobId : ∀ jobId, new.jobId = some jobId → isPublicId jobId = true
  eventType : isEventType new.eventType = true
  payload : ∃ payloadJson, canonicalJson runtime new.payload = .ok payloadJson ∧
    runtime.jsonValid payloadJson = true
  sequence : OutboxStatement.nextSequence catalog new.caseId ≤ 9223372036854775807
  created : timestampCheck new.now = true
  case : new.caseId ∈ catalog.scanCases
  job : ∀ jobId, new.jobId = some jobId → (catalog.jobs.lookup jobId).isSome = true
  fresh : catalog.events.lookup new.eventId = none

theorem validatePublicId_eq_ok {label value : String} :
    validatePublicId label value = .ok () ↔ isPublicId value = true := by
  unfold validatePublicId
  split <;> simp_all

theorem validateJobId_eq_ok {jobId : Option String} :
    validateJobId jobId = .ok () ↔ ∀ value, jobId = some value → isPublicId value = true := by
  cases jobId with
  | none => simp [validateJobId]
  | some value => simp [validateJobId, validatePublicId_eq_ok]

theorem validateEventType_eq_ok {value : String} :
    validateEventType value = .ok () ↔ isEventType value = true := by
  unfold validateEventType
  split <;> simp_all

theorem bindInteger_natCast_eq_ok {value : ℕ} :
    Jobs.bindInteger value = .ok () ↔ value ≤ 9223372036854775807 := by
  unfold Jobs.bindInteger
  split
  · simp only [true_iff]
    omega
  · simp only [reduceCtorEq, false_iff]
    omega

/-- The next number is free, so only the event's identifier can be taken. -/
theorem insert_eventRow_iff {catalog : Catalog runtime} {new : NewEvent} {payloadJson : String} :
    (∃ events, catalog.events.insert (eventRow catalog new payloadJson) = some events) ↔
      runtime.jsonValid payloadJson = true ∧ timestampCheck new.now = true ∧
        catalog.events.lookup new.eventId = none := by
  have checks : (eventRow catalog new payloadJson).check runtime = true ↔
      runtime.jsonValid payloadJson = true ∧ timestampCheck new.now = true := by
    simp [Event.check, eventRow, OutboxStatement.nextSequence]
  have apart : (∀ old ∈ catalog.events.rows,
      ¬(eventsSchema runtime).Clash old (eventRow catalog new payloadJson)) ↔
      catalog.events.lookup new.eventId = none := by
    rw [Table.lookup_eq_none]
    apply forall_congr'
    intro old
    apply imp_congr_right
    intro member
    refine not_congr ⟨?_, Or.inl⟩
    rintro (sameId | ⟨_, sameCase, sameSequence⟩)
    · exact sameId
    · have before := OutboxStatement.sequence_lt_nextSequence member sameCase
      exact absurd sameSequence before.ne
  constructor
  · rintro ⟨events, inserted⟩
    rcases Table.insert_eq_some.mp inserted with ⟨passes, noClash, _⟩
    rcases checks.mp passes with ⟨json, created⟩
    exact ⟨json, created, apart.mp noClash⟩
  · rintro ⟨json, created, fresh⟩
    cases inserted : catalog.events.insert (eventRow catalog new payloadJson) with
    | some events => exact ⟨events, rfl⟩
    | none =>
      exact absurd ⟨checks.mpr ⟨json, created⟩, apart.mpr fresh⟩ (Table.insert_eq_none.mp inserted)

/-- `append_event` run alone stores its row, or raises and stores nothing. -/
theorem run_appendEvent (new : NewEvent) (catalog : Catalog runtime) :
    (AcceptsEvent catalog new ∧ ∃ payloadJson events,
      canonicalJson runtime new.payload = .ok payloadJson ∧
      catalog.events.insert (eventRow catalog new payloadJson) = some events ∧
      (appendEvent runtime new).run OutboxStatement.perform catalog =
        ({ catalog with events }, .ok (eventRow catalog new payloadJson))) ∨
    (¬AcceptsEvent catalog new ∧ ∃ error,
      (appendEvent runtime new).run OutboxStatement.perform catalog = (catalog, .error error)) := by
  have rejects : ∀ {value : Except PyError Unit} {error : PyError}, value = .error error →
      (AcceptsEvent catalog new → value = .ok ()) → ¬AcceptsEvent catalog new := by
    intro value error failed needed accepts
    rw [needed accepts] at failed
    cases failed
  simp only [appendEvent, Program.run_ofExcept_bind]
  cases eventId : validatePublicId "event_id" new.eventId with
  | error error =>
    exact Or.inr ⟨rejects eventId fun accepts => validatePublicId_eq_ok.mpr accepts.eventId, error,
      rfl⟩
  | ok _ =>
  cases caseId : validatePublicId "case_id" new.caseId with
  | error error =>
    exact Or.inr ⟨rejects caseId fun accepts => validatePublicId_eq_ok.mpr accepts.caseId, error,
      rfl⟩
  | ok _ =>
  cases jobId : validateJobId new.jobId with
  | error error =>
    exact Or.inr ⟨rejects jobId fun accepts => validateJobId_eq_ok.mpr accepts.jobId, error, rfl⟩
  | ok _ =>
  cases eventType : validateEventType new.eventType with
  | error error =>
    exact Or.inr ⟨rejects eventType fun accepts => validateEventType_eq_ok.mpr accepts.eventType,
      error, rfl⟩
  | ok _ =>
  dsimp only
  have reads : (OutboxStatement.selectNextSequence new.caseId).perform catalog =
      (catalog, OutboxStatement.nextSequence catalog new.caseId) := rfl
  rw [run_issue_bind (.selectNextSequence new.caseId), reads]
  rw [Program.run_ofExcept_bind]
  cases payload : canonicalJson runtime new.payload with
  | error error =>
    refine Or.inr ⟨?_, error, rfl⟩
    intro accepts
    rcases accepts.payload with ⟨payloadJson, isJson, _⟩
    rw [payload] at isJson
    cases isJson
  | ok payloadJson =>
  dsimp only
  rw [Program.run_ofExcept_bind]
  cases sequence : Jobs.bindInteger (OutboxStatement.nextSequence catalog new.caseId) with
  | error error =>
    refine Or.inr ⟨rejects sequence fun accepts => ?_, error, rfl⟩
    exact bindInteger_natCast_eq_ok.mpr accepts.sequence
  | ok _ =>
  dsimp only
  have inserts : (OutboxStatement.insertEvent new.eventId new.caseId
      (OutboxStatement.nextSequence catalog new.caseId) new.jobId new.eventType payloadJson
      new.now).perform catalog =
      OutboxStatement.insertRow catalog (eventRow catalog new payloadJson) := rfl
  rw [run_issue_bind (.insertEvent new.eventId new.caseId
    (OutboxStatement.nextSequence catalog new.caseId) new.jobId new.eventType payloadJson
    new.now), inserts]
  rcases OutboxStatement.insertRow_cases catalog (eventRow catalog new payloadJson) with
    ⟨events, isCase, isJob, inserted, result⟩ | ⟨refused, result⟩
  · left
    have stored := insert_eventRow_iff.mp ⟨events, inserted⟩
    refine ⟨?_, payloadJson, events, rfl, inserted, ?_⟩
    · exact ⟨validatePublicId_eq_ok.mp eventId, validatePublicId_eq_ok.mp caseId,
        validateJobId_eq_ok.mp jobId, validateEventType_eq_ok.mp eventType,
        ⟨payloadJson, payload, stored.1⟩, bindInteger_natCast_eq_ok.mp sequence, stored.2.1,
        isCase _ rfl, isJob, stored.2.2⟩
    · have found : events.lookup new.eventId = some (eventRow catalog new payloadJson) :=
        (Table.lookup_insert inserted new.eventId).trans (if_pos rfl)
      rw [result, Program.run_ofExcept_bind]
      dsimp only
      rw [getEvent, Program.run_ofExcept_bind, eventId]
      dsimp only
      rw [run_issue_bind (.selectEvent new.eventId)]
      simp only [OutboxStatement.perform, found]
      rfl
  · right
    refine ⟨?_, .integrityError, ?_⟩
    · intro accepts
      rcases accepts.payload with ⟨other, isJson, valid⟩
      obtain rfl : payloadJson = other := Except.ok.inj (payload.symm.trans isJson)
      refine refused ?_ accepts.job
        (insert_eventRow_iff.mpr ⟨valid, accepts.created, accepts.fresh⟩)
      rintro _ ⟨⟩
      exact accepts.case
    · rw [result]
      rfl

/-! ## A transition with its event -/

/-- The event that goes with the transition of a job of this case. -/
def Transition.newEvent (arguments : Transition) (caseId : String) : NewEvent where
  eventId := arguments.eventId
  caseId
  eventType := arguments.eventType
  payload := arguments.eventPayload
  now := arguments.now
  jobId := some arguments.jobId

/-- The job has a case, and its transition passes every check of `transition_job` and of the
schema. -/
def AcceptsTransition (catalog : Catalog runtime) (arguments : Transition) (job : Job) : Prop :=
  catalog.jobs.lookup arguments.jobId = some job ∧ job.caseId.getD "" ≠ "" ∧
    ∃ statement, Jobs.transitionStatement runtime arguments.toState arguments.now arguments.error
        job = .ok statement ∧
      (statement.sets job).check runtime = true

theorem transition_accepted_or_rejected (catalog : Catalog runtime) (arguments : Transition) :
    (∃ job jobs statement, AcceptsTransition catalog arguments job ∧
      Jobs.transitionStatement runtime arguments.toState arguments.now arguments.error job =
        .ok statement ∧
      (∀ id, jobs.lookup id =
        if id = arguments.jobId then some (statement.sets job) else catalog.jobs.lookup id) ∧
      (transitionJobAndAppendEvent runtime arguments).run OutboxStatement.perform catalog =
        (appendEvent runtime (arguments.newEvent (job.caseId.getD ""))).run OutboxStatement.perform
          { catalog with jobs }) ∨
    ((∀ job, ¬AcceptsTransition catalog arguments job) ∧ ∃ error,
      (transitionJobAndAppendEvent runtime arguments).run OutboxStatement.perform catalog =
        (catalog, .error error)) := by
  rw [transitionJobAndAppendEvent, Program.run_bind, run_ofJobProgram, Jobs.run_getJob]
  cases found : catalog.jobs.lookup arguments.jobId with
  | none =>
    refine Or.inr ⟨?_, _, rfl⟩
    rintro job ⟨isJob, _⟩
    rw [found] at isJob
    cases isJob
  | some job =>
    dsimp only
    by_cases noCase : (job.caseId.getD "").isEmpty = true
    · refine Or.inr ⟨?_, _, by rw [if_pos noCase]; rfl⟩
      rintro other ⟨isJob, hasCase, _⟩
      obtain rfl : job = other := Option.some.inj (found.symm.trans isJob)
      exact hasCase (String.isEmpty_iff.mp noCase)
    · have hasCase : job.caseId.getD "" ≠ "" := fun none => noCase (String.isEmpty_iff.mpr none)
      rw [if_neg noCase, Program.run_bind, run_ofJobProgram]
      rcases Jobs.transitionJob_cases arguments.jobId arguments.toState arguments.now
        arguments.error catalog with
        ⟨other, statement, jobs, isJob, ready, passes, result, written⟩ | ⟨raised, result, fails⟩
      · obtain rfl : job = other := Option.some.inj (found.symm.trans isJob)
        left
        refine ⟨job, jobs, statement, ⟨found, hasCase, statement, ready, passes⟩, ready, written,
          ?_⟩
        rw [result]
        rfl
      · right
        refine ⟨?_, raised, by rw [result]⟩
        rintro other ⟨isJob, _, statement, ready, passes⟩
        rw [fails other statement isJob ready] at passes
        cases passes

/-! ## The other functions -/

theorem run_rows_subset {program : OutboxProgram α}
    (issues : program.Issues fun statement => statement.inserts = false)
    (catalog : Catalog runtime) :
    (program.run OutboxStatement.perform catalog).1.events.rows.map Event.unpublished ⊆
      catalog.events.rows.map Event.unpublished := by
  have preserved : ∀ (statement : OutboxStatement) (state : Catalog runtime),
      statement.inserts = false →
      state.events.rows.map Event.unpublished ⊆ catalog.events.rows.map Event.unpublished →
      (statement.perform state).1.events.rows.map Event.unpublished ⊆
        catalog.events.rows.map Event.unpublished := by
    intro statement state noInsert subset
    exact List.Subset.trans (OutboxStatement.perform_rows_subset noInsert state) subset
  exact issues.run_preserves preserved (List.Subset.refl _)

theorem markPublished_issues (eventIds : List String) (publishedAt : String) :
    (markPublished runtime eventIds publishedAt).Issues OutboxStatement.Quiet := by
  unfold markPublished
  split
  · exact Program.issues_done _
  · refine Program.issues_ofExcept_bind.mpr fun _ _ => ?_
    split
    · exact Program.issues_raise _
    · refine Program.issues_query_bind.mpr ⟨⟨rfl, rfl⟩, fun reply => ?_⟩
      cases reply with
      | ok count => exact Program.issues_done _
      | error error => exact Program.issues_raise _

theorem compactPublishedEvents_issues (beforeCreatedAt : String) (limit : PyValue) :
    (compactPublishedEvents beforeCreatedAt limit).Issues fun statement =>
      statement.inserts = false :=
  Program.issues_ofExcept_bind.mpr fun _ _ => ⟨rfl, fun _ => Program.issues_done _⟩

theorem listEvents_issues (caseId : String) (afterSequence limit : PyValue) :
    (listEvents caseId afterSequence limit).Issues OutboxStatement.Quiet :=
  Program.issues_ofExcept_bind.mpr fun _ _ => Program.issues_ofExcept_bind.mpr fun _ _ =>
    Program.issues_ofExcept_bind.mpr fun _ _ => Program.issues_ofExcept_bind.mpr fun _ _ =>
      ⟨⟨rfl, rfl⟩, fun _ => Program.issues_done _⟩

theorem getEvent_issues (eventId : String) : (getEvent eventId).Issues OutboxStatement.Quiet := by
  refine Program.issues_ofExcept_bind.mpr fun _ _ => ⟨⟨rfl, rfl⟩, fun found => ?_⟩
  cases found with
  | none => exact Program.issues_raise _
  | some event => exact Program.issues_done _

theorem ofJobProgram_issues (program : JobProgram α) :
    (ofJobProgram program).Issues OutboxStatement.Quiet := by
  induction program with
  | done result => trivial
  | raise error => trivial
  | execute statement next ih => exact ⟨⟨rfl, rfl⟩, ih⟩

/-- A page: the first rows of the case after the given number, at least one if there are any. -/
theorem run_listEvents (caseId : String) (afterSequence : ℕ) (limit : PyValue)
    (catalog : Catalog runtime) :
    (∃ count, 0 < count ∧
      (listEvents caseId (.int afterSequence) limit).run OutboxStatement.perform catalog =
        (catalog, .ok (orderLimit Event.sequence count (catalog.events.rows.filter fun event =>
          decide (event.caseId = some caseId) && decide (afterSequence < event.sequence))))) ∨
    ∃ error, (listEvents caseId (.int afterSequence) limit).run OutboxStatement.perform catalog =
      (catalog, .error error) := by
  simp only [listEvents, Program.run_ofExcept_bind]
  cases validatePublicId "case_id" caseId with
  | error error => exact Or.inr ⟨error, rfl⟩
  | ok _ =>
  have after : validateAfterSequence (.int afterSequence) = .ok (afterSequence : ℤ) := by
    simp [validateAfterSequence]
  rw [after]
  dsimp only
  cases validateLimit limit with
  | error error => exact Or.inr ⟨error, rfl⟩
  | ok bound =>
  cases Jobs.bindInteger (afterSequence : ℤ) with
  | error error => exact Or.inr ⟨error, rfl⟩
  | ok _ =>
  refine Or.inl ⟨(min (max bound 1) maxPollLimit).toNat, ?_, ?_⟩
  · simp only [maxPollLimit]
    omega
  · simp only [issue, Program.query, Program.run_execute, Program.run_done,
      OutboxStatement.perform, Nat.cast_lt]

end Events

end Reperio
