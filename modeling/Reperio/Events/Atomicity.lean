import Reperio.Events.Append

/-!
# A transition and its event

`transition_job_and_append_event` promises one transaction. On a catalog
connection there is none: the `UPDATE` of the transition has committed when the
event is checked, numbered and inserted, so the call is all or nothing exactly
when a transition that is accepted finds an event that is accepted too.
-/

namespace Reperio

open Python Relational Concurrency

namespace Events

variable {runtime : Runtime}

/-- After an exception both tables are as before; after a return the transition is in the row of the
job, all other jobs are as before, and the event that is returned is the only new one. -/
def StoresBothOrNothing (catalog : Catalog runtime) (arguments : Transition) : Prop :=
  match (transitionJobAndAppendEvent runtime arguments).run OutboxStatement.perform catalog with
  | (next, .error _) => next.jobs = catalog.jobs ∧ next.events = catalog.events
  | (next, .ok event) =>
    (∃ job statement, catalog.jobs.lookup arguments.jobId = some job ∧
      Jobs.transitionStatement runtime arguments.toState arguments.now arguments.error job =
        .ok statement ∧
      ∀ id, next.jobs.lookup id =
        if id = arguments.jobId then some (statement.sets job) else catalog.jobs.lookup id) ∧
    event.eventId = arguments.eventId ∧ next.events.rows = catalog.events.rows ++ [event]

/-- The transition changes nothing that the event is checked against. -/
theorem acceptsEvent_with_jobs_iff {catalog : Catalog runtime} {jobs : Table (jobsSchema runtime)}
    {new : NewEvent}
    (sameJobs : ∀ id, (jobs.lookup id).isSome = (catalog.jobs.lookup id).isSome) :
    AcceptsEvent { catalog with jobs } new ↔ AcceptsEvent catalog new := by
  constructor
  · intro accepts
    exact ⟨accepts.eventId, accepts.caseId, accepts.jobId, accepts.eventType, accepts.payload,
      accepts.sequence, accepts.created, accepts.case,
      fun jobId isJob => (sameJobs jobId).symm.trans (accepts.job jobId isJob), accepts.fresh⟩
  · intro accepts
    exact ⟨accepts.eventId, accepts.caseId, accepts.jobId, accepts.eventType, accepts.payload,
      accepts.sequence, accepts.created, accepts.case,
      fun jobId isJob => (sameJobs jobId).trans (accepts.job jobId isJob), accepts.fresh⟩

/-- The call stores both or nothing exactly when an accepted transition comes with an accepted
event. -/
theorem stores_both_or_nothing_iff (catalog : Catalog runtime) (arguments : Transition) :
    StoresBothOrNothing catalog arguments ↔ ∀ job, AcceptsTransition catalog arguments job →
        AcceptsEvent catalog (arguments.newEvent (job.caseId.getD "")) := by
  rcases transition_accepted_or_rejected catalog arguments with
    ⟨job, jobs, statement, accepted, ready, written, ran⟩ | ⟨rejected, error, ran⟩
  · have onlyJob : ∀ other, AcceptsTransition catalog arguments other → other = job :=
      fun other alsoAccepted => Option.some.inj (alsoAccepted.1.symm.trans accepted.1)
    have sameJobs : ∀ id, (jobs.lookup id).isSome = (catalog.jobs.lookup id).isSome := by
      intro id
      rw [written]
      split
      · rename_i isJob
        rw [isJob, accepted.1]
        rfl
      · rfl
    simp only [StoresBothOrNothing, ran]
    rcases run_appendEvent (arguments.newEvent (job.caseId.getD "")) { catalog with jobs } with
      ⟨accepts, payloadJson, events, _, inserted, result⟩ | ⟨refuses, error, result⟩
    · rw [result]
      refine iff_of_true ⟨⟨job, statement, accepted.1, ready, written⟩, rfl,
        (Table.insert_eq_some.mp inserted).2.2⟩ ?_
      intro other alsoAccepted
      rw [onlyJob other alsoAccepted]
      exact (acceptsEvent_with_jobs_iff sameJobs).mp accepts
    · rw [result]
      refine iff_of_false ?_ ?_
      · rintro ⟨unchanged, _⟩
        have sameTable : jobs = catalog.jobs := unchanged
        have state := written arguments.jobId
        rw [sameTable, if_pos rfl, accepted.1, Option.some.injEq] at state
        rcases Jobs.transitionStatement_eq_ok ready with ⟨target, errorJson, valid, _, rfl⟩
        exact ne_of_mem_allowedTransitions (JobCall.validateTransition_edge valid)
          (congrArg Job.state state).symm
      · intro needed
        exact refuses ((acceptsEvent_with_jobs_iff sameJobs).mpr (needed job accepted))
  · simp only [StoresBothOrNothing, ran]
    exact iff_of_true ⟨trivial, trivial⟩ fun job accepted => absurd accepted (rejected job)

/-- The sample job of a case, leased by a worker. -/
def leasedCatalog : Catalog .sample :=
  (runFrom (jobService .sample).serial (.initial .sample ["case-1"])
    [.createJob { Jobs.NewJob.sample with caseId := some "case-1" },
      .claimNextJob "worker-a" "2026-08-11T14:40:00Z" (.int 30)]).getD (.initial .sample [])

/-- A transition whose payload holds an object that is not JSON. -/
def unserializable : Transition where
  jobId := "job-1"
  toState := "running"
  eventId := "event-1"
  eventType := "job.state"
  now := "2026-08-11T14:41:00Z"
  payload := some [(.str "bad", .other)]

/-- The call raises `TypeError`, and the job runs all the same. -/
theorem transition_stored_without_event : ¬StoresBothOrNothing leasedCatalog unserializable := by
  have raised : ((transitionJobAndAppendEvent .sample unserializable).run OutboxStatement.perform
      leasedCatalog).2.toOption = none := by decide +kernel
  have after : (((transitionJobAndAppendEvent .sample unserializable).run OutboxStatement.perform
      leasedCatalog).1.jobs.lookup "job-1").map Job.state = some .running := by decide +kernel
  have before : (leasedCatalog.jobs.lookup "job-1").map Job.state = some .leased := by
    decide
  rw [StoresBothOrNothing]
  generalize (transitionJobAndAppendEvent .sample unserializable).run OutboxStatement.perform
    leasedCatalog = outcome at raised after
  rcases outcome with ⟨next, result⟩
  cases result with
  | ok event => cases raised
  | error error =>
    rintro ⟨unchanged, _⟩
    have stale : (next.jobs.lookup "job-1").map Job.state = some .running := after
    rw [unchanged, before] at stale
    cases stale

end Events

end Reperio
