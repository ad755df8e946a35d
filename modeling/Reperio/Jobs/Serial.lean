import Reperio.Jobs.Steps

/-!
# Calls that nobody interferes with

The result of the job functions, run from their first statement to their last
on one catalog. A function that raises leaves the catalog as it found it.
-/

namespace Reperio
open Python Relational Concurrency

variable {toState now : String} {error : Option PyDict}

namespace Jobs

variable {runtime : Runtime} {α : Type}

theorem run_issue_bind (statement : JobStatement) (rest : statement.Reply → JobProgram α)
    (catalog : Catalog runtime) :
    (issue statement >>= rest).run JobStatement.perform catalog =
      (rest (statement.perform catalog).2).run JobStatement.perform
        (statement.perform catalog).1 := rfl

theorem run_getJob (jobId : String) (catalog : Catalog runtime) :
    (getJob jobId).run JobStatement.perform catalog = (catalog, match catalog.jobs.lookup jobId with
        | some job => .ok job
        | none => .error (.jobStateError ("unknown job " ++ jobId))) := by
  rw [getJob, run_issue_bind (.selectJob jobId)]
  simp only [JobStatement.perform]
  cases catalog.jobs.lookup jobId with
  | none => rfl
  | some job => rfl

theorem run_getJob_bind (jobId : String) (rest : Job → JobProgram α) (catalog : Catalog runtime) :
    (getJob jobId >>= rest).run JobStatement.perform catalog = match catalog.jobs.lookup jobId with
      | some job => (rest job).run JobStatement.perform catalog
      | none => (catalog, .error (.jobStateError ("unknown job " ++ jobId))) := by
  rw [Program.run_bind, run_getJob]
  cases catalog.jobs.lookup jobId with
  | none => rfl
  | some job => rfl

/-- The `UPDATE` that `transition_job` issues for the row it has read. -/
def transitionStatement (runtime : Runtime) (toState now : String) (error : Option PyDict)
    (job : Job) : Except PyError JobStatement :=
  match validateTransition job.state toState, errorText runtime error with
  | .ok target, .ok errorJson =>
    .ok (.transition target errorJson (if target ≠ .leased then none else job.leaseOwner) now
      job.jobId job.state)
  | .ok _, .error error => .error error
  | .error error, _ => .error error

theorem transitionStatement_eq_ok {job : Job} {statement : JobStatement}
    (ready : transitionStatement runtime toState now error job = .ok statement) :
    ∃ target errorJson, validateTransition job.state toState = .ok target ∧
      errorText runtime error = .ok errorJson ∧
      statement = .transition target errorJson (if target ≠ .leased then none else job.leaseOwner)
        now job.jobId job.state := by
  simp only [transitionStatement] at ready
  split at ready
  · rename_i target errorJson valid text
    cases ready
    exact ⟨target, errorJson, valid, text, rfl⟩
  · cases ready
  · cases ready

theorem transitionStatement_selects {job : Job} {statement : JobStatement}
    (ready : transitionStatement runtime toState now error job = .ok statement) :
    statement.selects job = true ∧ statement.target = job.jobId := by
  rcases transitionStatement_eq_ok ready with ⟨target, errorJson, _, _, rfl⟩
  simp [JobStatement.selects, JobStatement.target]

/-- `transition_job` run alone: it writes the row of its statement, or raises. -/
theorem run_transitionJob (jobId toState now : String) (error : Option PyDict)
    (catalog : Catalog runtime) :
    (transitionJob runtime jobId toState now error).run JobStatement.perform catalog =
      match catalog.jobs.lookup jobId with
      | none => (catalog, .error (.jobStateError ("unknown job " ++ jobId)))
      | some job =>
        match transitionStatement runtime toState now error job with
        | .error error => (catalog, .error error)
        | .ok statement =>
          ((statement.updateRows catalog).1,
            if (statement.sets job).check runtime then .ok () else .error .integrityError) := by
  rw [transitionJob, run_getJob_bind]
  cases found : catalog.jobs.lookup jobId with
  | none => rfl
  | some job =>
    obtain rfl : job.jobId = jobId := (Table.lookup_eq_some.mp found).2
    simp only [transitionStatement, Program.run_ofExcept_bind]
    cases validateTransition job.state toState with
    | error error => rfl
    | ok target =>
      cases errorText runtime error with
      | error error => rfl
      | ok errorJson =>
        have selected : (JobStatement.transition target errorJson
            (if target ≠ .leased then none else job.leaseOwner) now job.jobId
            job.state).selects job = true := by
          simp [JobStatement.selects]
        dsimp only
        rw [run_issue_bind (.transition target errorJson _ now job.jobId job.state)]
        simp only [JobStatement.perform]
        rcases JobStatement.updateRows_of_selects found selected with
          ⟨passes, jobs, result, _⟩ | ⟨fails, result⟩
        · rw [result, if_pos passes]
          rfl
        · rw [result, fails]
          rfl

/-- `transition_job` run alone writes one row, or raises and changes nothing. -/
theorem transitionJob_cases (jobId toState now : String) (error : Option PyDict)
    (catalog : Catalog runtime) :
    (∃ job statement jobs, catalog.jobs.lookup jobId = some job ∧
      transitionStatement runtime toState now error job = .ok statement ∧
      (statement.sets job).check runtime = true ∧
      (transitionJob runtime jobId toState now error).run JobStatement.perform catalog =
        ({ catalog with jobs }, .ok ()) ∧
      ∀ id, jobs.lookup id =
        if id = jobId then some (statement.sets job) else catalog.jobs.lookup id) ∨
    (∃ raised, (transitionJob runtime jobId toState now error).run JobStatement.perform catalog =
        (catalog, .error raised) ∧
      ∀ job statement, catalog.jobs.lookup jobId = some job →
        transitionStatement runtime toState now error job = .ok statement →
        (statement.sets job).check runtime = false) := by
  rw [run_transitionJob]
  cases found : catalog.jobs.lookup jobId with
  | none => exact Or.inr ⟨_, rfl, fun job statement isJob => by cases isJob⟩
  | some job =>
    obtain rfl : job.jobId = jobId := (Table.lookup_eq_some.mp found).2
    cases ready : transitionStatement runtime toState now error job with
    | error raised =>
      refine Or.inr ⟨raised, by simp only [ready], ?_⟩
      rintro other statement ⟨⟩ isReady
      rw [ready] at isReady
      cases isReady
    | ok statement =>
      simp only [ready]
      rcases transitionStatement_selects ready with ⟨selected, isTarget⟩
      rw [← isTarget] at found
      rcases JobStatement.updateRows_of_selects found selected with
        ⟨passes, jobs, result, looked⟩ | ⟨fails, result⟩
      · left
        rw [isTarget] at looked
        exact ⟨job, statement, jobs, rfl, ready, passes, by rw [result, if_pos passes], looked⟩
      · right
        refine ⟨.integrityError, by rw [result, fails]; rfl, ?_⟩
        rintro other otherStatement ⟨⟩ isReady
        rw [ready, Except.ok.injEq] at isReady
        exact isReady ▸ fails

variable {catalog : Catalog runtime}

/-- A transition that succeeds writes one row. -/
theorem transitionJob_ok {jobId : String} {next : Catalog runtime}
    (ran : (transitionJob runtime jobId toState now error).run JobStatement.perform catalog =
      (next, .ok ())) :
    ∃ job statement, catalog.jobs.lookup jobId = some job ∧
      transitionStatement runtime toState now error job = .ok statement ∧
      ∀ id, next.jobs.lookup id =
        if id = jobId then some (statement.sets job) else catalog.jobs.lookup id := by
  rcases transitionJob_cases jobId toState now error catalog with
    ⟨job, statement, jobs, found, ready, _, result, looked⟩ | ⟨raised, result, _⟩
  · rw [result, Prod.mk.injEq] at ran
    rw [← ran.1]
    exact ⟨job, statement, found, ready, looked⟩
  · rw [result, Prod.mk.injEq] at ran
    cases ran.2

theorem claimPendingJob_ok {jobId owner : String} {next : Catalog runtime} {claimed : Bool}
    (ran : (claimPendingJob jobId owner now).run JobStatement.perform catalog =
      (next, .ok claimed)) :
    (∃ job, catalog.jobs.lookup jobId = some job ∧
      (JobStatement.claimPending owner now jobId).selects job = true ∧
      ∀ id, next.jobs.lookup id =
        if id = jobId then some ((JobStatement.claimPending owner now jobId).sets job)
        else catalog.jobs.lookup id) ∨
    (next = catalog ∧ ∀ job, catalog.jobs.lookup jobId = some job →
      (JobStatement.claimPending owner now jobId).selects job = false) := by
  rw [claimPendingJob, run_issue_bind (.claimPending owner now jobId)] at ran
  simp only [JobStatement.perform, Program.run_ofExcept_bind] at ran
  by_cases hit : ∃ job, catalog.jobs.lookup jobId = some job ∧
      (JobStatement.claimPending owner now jobId).selects job = true
  · rcases hit with ⟨job, found, selected⟩
    rcases JobStatement.updateRows_of_selects found selected with
      ⟨_, jobs, result, looked⟩ | ⟨_, result⟩
    · left
      rw [result] at ran
      obtain rfl : { catalog with jobs } = next := (Prod.mk.inj ran).1
      exact ⟨job, found, selected, looked⟩
    · rw [result] at ran
      simp at ran
  · right
    have missed : ∀ job, catalog.jobs.lookup jobId = some job →
        (JobStatement.claimPending owner now jobId).selects job = false := by
      intro job found
      by_contra selected
      exact hit ⟨job, found, by simpa using selected⟩
    rw [JobStatement.updateRows_of_not_selects missed] at ran
    exact ⟨(Prod.mk.inj ran).1.symm, missed⟩

/-- A process death that is recorded is a transition to `retrying` or `failed`. -/
theorem recordProcessDeath_ok {jobId : String} {next : Catalog runtime} {state : JobState}
    (ran : (recordProcessDeath runtime jobId now).run JobStatement.perform catalog =
      (next, .ok state)) :
    ∃ job error, catalog.jobs.lookup jobId = some job ∧ (transitionJob runtime jobId
        (if job.attempts < job.maxAttempts then JobState.retrying else .failed).text now
        error).run JobStatement.perform catalog = (next, .ok ()) := by
  rw [recordProcessDeath, run_getJob_bind] at ran
  cases found : catalog.jobs.lookup jobId with
  | none => simp [found] at ran
  | some job =>
    refine ⟨job, some
      [(.str "kind", .str "process-death"),
        (.str "retryable", .bool (decide ((if job.attempts < job.maxAttempts then
          JobState.retrying else .failed) = .retrying))),
        (.str "attempts", .int job.attempts), (.str "max_attempts", .int job.maxAttempts)], rfl, ?_⟩
    simp only [found] at ran
    split at ran
    · simp at ran
    · rw [Program.run_bind] at ran
      split at ran
      · rename_i after result transitioned
        obtain rfl : after = next := (Prod.mk.inj ran).1
        exact transitioned
      · simp at ran

end Jobs
end Reperio
