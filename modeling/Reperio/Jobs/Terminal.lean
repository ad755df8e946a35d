import Reperio.Jobs.Steps

/-!
# Terminal states

`completed`, `completed-warning`, `failed` and `cancelled` have no outgoing
edge in the transition table, and every `UPDATE` of the module but one repeats
in its `WHERE` clause what it knows about the state of the row. The `UPDATE` of
`finish_attempt` is the exception: it is keyed by `job_id` alone, so whether a
finished job stays finished depends on what happened since that call read the
row.
-/

namespace Reperio

open Python Relational Concurrency

variable {runtime : Runtime} {Conn : Type}

/-- A job in a terminal state is still there, in the same state. -/
def TerminalStays (first last : (jobService runtime).System Conn) : Prop :=
  ∀ id job, first.state.jobs.lookup id = some job → job.state.isTerminal = true →
    ∃ later, last.state.jobs.lookup id = some later ∧ later.state = job.state

/-- When the `UPDATE` of `finish_attempt` is next, its job is not in a terminal state, or is already
in the one to be written, or the row to be written fails a `CHECK`. -/
def FinishMeetsOpenJob (system : (jobService runtime).System Conn)
    (action : (jobService runtime).Action Conn) : Prop :=
  ∀ conn call nextState retryAfterAt errorJson now jobId job, action = .advance conn →
    system.Pending conn call (.finish nextState retryAfterAt errorJson now jobId) →
    system.state.jobs.lookup jobId = some job →
      job.state.isTerminal = false ∨ job.state = nextState ∨
        ((JobStatement.finish nextState retryAfterAt errorJson now jobId).sets job).check
          runtime = false

theorem TerminalStays.refl (system : (jobService runtime).System Conn) :
    TerminalStays system system :=
  fun _ job found _ => ⟨job, found, rfl⟩

theorem TerminalStays.trans {first second third : (jobService runtime).System Conn}
    (one : TerminalStays first second) (two : TerminalStays second third) :
    TerminalStays first third := by
  intro id job found terminal
  rcases one id job found terminal with ⟨middle, middleFound, middleState⟩
  rcases two id middle middleFound (middleState ▸ terminal) with ⟨last, lastFound, lastState⟩
  exact ⟨last, lastFound, lastState.trans middleState⟩

theorem allowedTransitions_terminal {state : JobState} (terminal : state.isTerminal = true) :
    allowedTransitions state = [] := by
  cases state <;> first | rfl | cases terminal

/-- The only statement a call may issue that rewrites a terminal row is that of `finish_attempt`. -/
theorem isFinish_of_selects_terminal {call : JobCall} {statement : JobStatement} {job : Job}
    (allowed : call.Allows runtime statement) (selected : statement.selects job = true)
    (terminal : job.state.isTerminal = true) :
    ∃ nextState retryAfterAt errorJson now jobId,
      statement = .finish nextState retryAfterAt errorJson now jobId := by
  cases allowed with
  | finish jobId now errorClass retryPolicy nextState retryAfterAt errorJson retries =>
    exact ⟨nextState, retryAfterAt, some errorJson, now, jobId, rfl⟩
  | transition _ toState fromState errorJson leaseOwner now jobId moves edge =>
    rw [← (JobStatement.transition_selects_iff.mp selected).2,
      allowedTransitions_terminal terminal] at edge
    cases edge
  | claimPending =>
    rw [(JobStatement.claimPending_selects_iff.mp selected).2.1] at terminal
    cases terminal
  | claimNext =>
    rcases Job.runnable_iff.mp (JobStatement.claimNext_selects_iff.mp selected).2.2 with
      state | ⟨state, _⟩ | ⟨state | state, _⟩ <;>
    · rw [state] at terminal
      cases terminal
  | heartbeat =>
    rcases (JobStatement.heartbeat_selects_iff.mp selected).2.2.1 with state | state <;>
    · rw [state] at terminal
      cases terminal
  | _ => cases selected

variable [DecidableEq Conn]

/-- One action leaves terminal jobs alone exactly when it is no late `UPDATE` of `finish_attempt`.
-/
theorem step_terminalStays_iff {system : (jobService runtime).System Conn}
    {action : (jobService runtime).Action Conn}
    (follows : system.Follows (JobCall.Allows runtime)) :
    (∀ next, Service.step system action = some next → TerminalStays system next) ↔
      FinishMeetsOpenJob system action := by
  constructor
  · rintro stays conn call nextState retryAfterAt errorJson now jobId job rfl pending found
    rcases Service.exists_step_of_pending pending with ⟨next, stepped⟩
    have state := Service.step_advance_of_pending pending stepped
    cases terminal : job.state.isTerminal with
    | false => exact Or.inl rfl
    | true =>
      right
      rcases stays next stepped jobId job found terminal with ⟨later, laterFound, same⟩
      rw [state] at laterFound
      simp only [jobService, JobStatement.perform] at laterFound
      rw [JobStatement.lookup_updateRows, found, Option.map_some] at laterFound
      have selected : (JobStatement.finish nextState retryAfterAt errorJson now jobId).selects
          job = true := by
        have isTarget : job.jobId = jobId := (Table.lookup_eq_some.mp found).2
        simpa [JobStatement.selects] using isTarget
      cases passes : ((JobStatement.finish nextState retryAfterAt errorJson now jobId).sets
          job).check runtime with
      | false => exact Or.inr rfl
      | true =>
        left
        rw [if_pos ⟨selected, passes⟩, Option.some.injEq] at laterFound
        rw [← same, ← laterFound]
        rfl
  · intro meets next stepped id job found terminal
    rcases follows.state_cases stepped with same |
      ⟨conn, call, statement, isAdvance, pending, allowed, performed⟩
    · exact ⟨job, by rw [same, found], rfl⟩
    · rw [performed]
      rcases JobStatement.lookup_perform statement system.state id with
        same | ⟨old, oldFound, selected, changed⟩ | ⟨isNew, _⟩
      · exact ⟨job, same.trans found, rfl⟩
      · obtain rfl : job = old := Option.some.inj (found.symm.trans oldFound)
        rcases isFinish_of_selects_terminal allowed selected terminal with
          ⟨nextState, retryAfterAt, errorJson, now, jobId, rfl⟩
        refine ⟨_, changed, ?_⟩
        have isTarget : id = jobId :=
          (Table.lookup_eq_some.mp found).2.symm.trans (JobStatement.target_of_selects selected)
        subst isTarget
        have passes := (Table.lookup_eq_some.mp changed).1
        rcases meets conn call nextState retryAfterAt errorJson now id job isAdvance pending found
          with isOpen | already | fails
        · rw [terminal] at isOpen
          cases isOpen
        · exact already.symm
        · have checked : ((JobStatement.finish nextState retryAfterAt errorJson now id).sets
              job).check runtime = true := Table.checked _ _ passes
          rw [fails] at checked
          cases checked
      · rw [found] at isNew
        cases isNew

/-- Over every interleaving, finished jobs stay as they are exactly when no `UPDATE` of
`finish_attempt` comes after its job was finished otherwise. -/
theorem terminal_stays_iff_finish_meets_open_job (catalog : Catalog runtime)
    (actions : List ((jobService runtime).Action Conn)) :
    EverySegment Service.step TerminalStays ((jobService runtime).idle Conn catalog) actions ↔
      EveryStep Service.step FinishMeetsOpenJob ((jobService runtime).idle Conn catalog)
        actions := by
  rw [everySegment_iff_everyStep TerminalStays.refl fun _ _ _ => TerminalStays.trans]
  apply everyStep_congr fun _ _ _ => JobCall.follows_step
  · intro state action follows
    exact step_terminalStays_iff follows
  · exact Service.follows_idle _ _

/-! ## A job that comes back -/

def lateFinishRun : List ((jobService .sample).Action ℕ) :=
  [.start 0 (.createJob .sample), .advance 0,
    .start 0 (.claimNextJob "worker-a" "2026-08-11T14:40:00Z" (.int 30)),
    .advance 0, .advance 0, .advance 0,
    .start 0 (.transitionJob "job-1" "running" "2026-08-11T14:40:01Z" none),
    .advance 0, .advance 0,
    -- `finish_attempt` has read the running job and not yet written
    .start 1 (.finishAttempt "job-1" "2026-08-11T14:40:02Z" "transient" .standard),
    .advance 1,
    .start 0 (.transitionJob "job-1" "completed" "2026-08-11T14:40:03Z" none),
    .advance 0, .advance 0]

/-- The job was `completed` and is `retrying` again after the pending `UPDATE`. -/
theorem completed_job_retried_by_late_finish : ¬EverySegment Service.step TerminalStays
      ((jobService .sample).idle ℕ (.initial .sample [])) (lateFinishRun ++ [.advance 1]) := by
  apply not_everySegment_of_observed
    fun system => (system.state.jobs.lookup "job-1").map Job.state
  · show _ = some (some JobState.completed)
    decide
  · show _ = some (some JobState.retrying)
    decide +kernel
  · intro first last completed retrying stays
    rcases Option.map_eq_some_iff.mp completed with ⟨job, found, isCompleted⟩
    rcases stays "job-1" job found (by rw [isCompleted]; rfl) with ⟨later, laterFound, same⟩
    rw [laterFound, Option.map_some, same, isCompleted] at retrying
    cases retrying

end Reperio
