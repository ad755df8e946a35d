import Reperio.Jobs.Operations

/-!
# What a job statement does, and which statements a call issues

Everything that is proved about jobs rests on two facts. `lookup_perform` says
what one statement can do to one row: leave it, rewrite it by the `SET` clause
when the `WHERE` clause selects it, or insert it. `program_issues` says which
statements a call can issue at all, whatever the catalog replies: a transition
is always an edge of the transition table, a lease always ends at the canonical
timestamp of `now + lease_seconds`.
-/

namespace Reperio

open Python Relational Concurrency

/-- The columns that no operation changes after `create_job`. -/
structure Job.SameOrigin (first second : Job) : Prop where
  jobId : second.jobId = first.jobId
  caseId : second.caseId = first.caseId
  jobType : second.jobType = first.jobType
  inputJson : second.inputJson = first.inputJson
  idempotencyKey : second.idempotencyKey = first.idempotencyKey
  maxAttempts : second.maxAttempts = first.maxAttempts
  createdAt : second.createdAt = first.createdAt

theorem Job.SameOrigin.refl (job : Job) : job.SameOrigin job := ⟨rfl, rfl, rfl, rfl, rfl, rfl, rfl⟩

theorem Job.SameOrigin.trans {first second third : Job} (one : first.SameOrigin second)
    (two : second.SameOrigin third) : first.SameOrigin third :=
  ⟨two.jobId.trans one.jobId, two.caseId.trans one.caseId, two.jobType.trans one.jobType,
    two.inputJson.trans one.inputJson, two.idempotencyKey.trans one.idempotencyKey,
    two.maxAttempts.trans one.maxAttempts, two.createdAt.trans one.createdAt⟩

theorem any_decide_eq_true {time : Option String} {holds : String → Prop} [DecidablePred holds] :
    time.any (fun value => decide (holds value)) = true ↔ ∃ value, time = some value ∧
      holds value := by
  cases time with
  | none => simp only [Option.any_none, Bool.false_eq_true, reduceCtorEq, false_and, exists_false]
  | some value => simp only [Option.any_some, decide_eq_true_eq, Option.some.injEq, exists_eq_left']

variable {now : String} {job : Job} {owner leaseExpiresAt : String} {fromState : JobState}
    {errorJson retryAfterAt : Option String} {instant : DateTime}

theorem Job.runnable_iff : job.runnable now = true ↔ job.state = .pending ∨
      (job.state = .retrying ∧ ∃ time, job.retryAfterAt = some time ∧ time ≤ now) ∨
      ((job.state = .leased ∨ job.state = .running) ∧
        ∃ time, job.leaseExpiresAt = some time ∧ time < now) := by
  simp only [Job.runnable, Bool.or_eq_true, Bool.and_eq_true, decide_eq_true_eq,
    any_decide_eq_true, or_assoc]

namespace JobStatement

theorem claimNext_selects_iff {jobId : String} :
    (claimNext owner leaseExpiresAt now jobId).selects job = true ↔
      job.jobId = jobId ∧ job.attempts < job.maxAttempts ∧ job.runnable now = true := by
  simp only [selects, Bool.and_eq_true, decide_eq_true_eq, and_assoc]

theorem claimPending_selects_iff {jobId : String} :
    (claimPending owner now jobId).selects job = true ↔
      job.jobId = jobId ∧ job.state = .pending ∧ job.attempts < job.maxAttempts := by
  simp only [selects, Bool.and_eq_true, decide_eq_true_eq, and_assoc]

theorem heartbeat_selects_iff {jobId : String} :
    (heartbeat leaseExpiresAt now jobId owner).selects job = true ↔
      job.jobId = jobId ∧ job.leaseOwner = some owner ∧
        (job.state = .leased ∨ job.state = .running) ∧
        ∃ time, job.leaseExpiresAt = some time ∧ now ≤ time := by
  simp only [selects, Bool.and_eq_true, Bool.or_eq_true, decide_eq_true_eq, any_decide_eq_true,
    and_assoc]

theorem transition_selects_iff {toState : JobState} {leaseOwner : Option String} {jobId : String} :
    (transition toState errorJson leaseOwner now jobId fromState).selects job = true ↔
      job.jobId = jobId ∧ job.state = fromState := by
  simp only [selects, Bool.and_eq_true, decide_eq_true_eq]

theorem finish_selects_iff {nextState : JobState} {jobId : String} :
    (finish nextState retryAfterAt errorJson now jobId).selects job = true ↔ job.jobId = jobId := by
  simp only [selects, decide_eq_true_eq]

/-- The job an `UPDATE` addresses. -/
def target : JobStatement → String
  | claimPending _ _ jobId => jobId
  | claimNext _ _ _ jobId => jobId
  | heartbeat _ _ jobId _ => jobId
  | transition _ _ _ _ jobId _ => jobId
  | finish _ _ _ _ jobId => jobId
  | _ => ""

theorem target_of_selects {statement : JobStatement} (selected : statement.selects job = true) :
    job.jobId = statement.target := by
  cases statement with
  | claimPending owner now jobId => exact (claimPending_selects_iff.mp selected).1
  | claimNext owner leaseExpiresAt now jobId => exact (claimNext_selects_iff.mp selected).1
  | heartbeat leaseExpiresAt now jobId owner => exact (heartbeat_selects_iff.mp selected).1
  | transition toState errorJson leaseOwner now jobId fromState =>
    exact (transition_selects_iff.mp selected).1
  | finish nextState retryAfterAt errorJson now jobId => exact finish_selects_iff.mp selected
  | _ => cases selected

theorem sets_sameOrigin (statement : JobStatement) (job : Job) :
    job.SameOrigin (statement.sets job) := by
  cases statement <;> exact ⟨rfl, rfl, rfl, rfl, rfl, rfl, rfl⟩

variable {runtime : Runtime}

/-- An `UPDATE` hits the job it addresses and that alone, or fails because the new row would
break a check and then changes nothing. -/
theorem updateRows_cases (statement : JobStatement) (catalog : Catalog runtime) :
    (∃ jobs, updateRows catalog statement = ({ catalog with jobs },
        .ok (if ∃ job, catalog.jobs.lookup statement.target = some job ∧ statement.selects job
          then 1 else 0)) ∧
      ∀ id, jobs.lookup id = (catalog.jobs.lookup id).map fun job =>
        if statement.selects job then statement.sets job else job) ∨
    (updateRows catalog statement = (catalog, .error .integrityError) ∧
      ∃ job, catalog.jobs.lookup statement.target = some job ∧ statement.selects job = true ∧
        (statement.sets job).check runtime = false) := by
  have apart : ∀ first second : Job, (jobsSchema runtime).Clash
        (if statement.selects first then statement.sets first else first)
        (if statement.selects second then statement.sets second else second) →
      (jobsSchema runtime).Clash first second := by
    intro first second
    have firstOrigin := sets_sameOrigin statement first
    have secondOrigin := sets_sameOrigin statement second
    simp only [jobsSchema]
    split <;> split <;>
      simp only [firstOrigin.jobId, firstOrigin.idempotencyKey, secondOrigin.jobId,
        secondOrigin.idempotencyKey, imp_self]
  have succeeds := @Table.update_isSome _ _ _ catalog.jobs statement.selects statement.sets apart
  cases updated : catalog.jobs.update statement.selects statement.sets with
  | some result =>
    rcases result with ⟨jobs, count⟩
    left
    refine ⟨jobs, ?_, ?_⟩
    · have counted := (Table.update_eq_some.mp updated).2
      rw [Table.countP_of_key fun row selected => target_of_selects selected] at counted
      simp only [updateRows, updated, counted]
    · exact Table.lookup_update (fun row => (sets_sameOrigin statement row).jobId) updated
  | none =>
    right
    refine ⟨by simp only [updateRows, updated], ?_⟩
    rw [updated] at succeeds
    simp only [Option.isSome_none, Bool.false_eq_true, false_iff, not_forall] at succeeds
    rcases succeeds with ⟨job, member, selected, fails⟩
    refine ⟨job, Table.lookup_eq_some.mpr ⟨member, target_of_selects selected⟩, selected, ?_⟩
    simpa [jobsSchema] using fails

/-- An `UPDATE` rewrites the row that its `WHERE` clause selects if the new row passes its checks.
-/
theorem lookup_updateRows (statement : JobStatement) (catalog : Catalog runtime) (id : String) :
    (updateRows catalog statement).1.jobs.lookup id = (catalog.jobs.lookup id).map fun job =>
        if statement.selects job = true ∧ (statement.sets job).check runtime = true
        then statement.sets job else job := by
  rcases updateRows_cases statement catalog with
    ⟨jobs, result, looked⟩ | ⟨result, target, targetFound, selected, fails⟩
  · rw [result]
    simp only [looked id]
    cases found : catalog.jobs.lookup id with
    | none => rfl
    | some job =>
      by_cases selected : statement.selects job = true
      · have after : jobs.lookup id = some (statement.sets job) := by
          rw [looked id, found]
          simp [selected]
        have checked := jobs.checked _ (Table.lookup_eq_some.mp after).1
        have passes : (statement.sets job).check runtime = true := checked
        simp [selected, passes]
      · simp [selected]
  · rw [result]
    cases found : catalog.jobs.lookup id with
    | none => rfl
    | some job =>
      have noChange : ¬(statement.selects job = true ∧
          (statement.sets job).check runtime = true) := by
        rintro ⟨alsoSelected, passes⟩
        have isTarget : id = statement.target :=
          (Table.lookup_eq_some.mp found).2.symm.trans (target_of_selects alsoSelected)
        rw [isTarget, targetFound, Option.some.injEq] at found
        rw [found, passes] at fails
        cases fails
      simp [noChange]

variable {catalog : Catalog runtime}

theorem lookup_updateRows_of_written {statement : JobStatement} {id : String}
    (found : catalog.jobs.lookup id = some job)
    (written : statement.selects job = true ∧ (statement.sets job).check runtime = true) :
    (updateRows catalog statement).1.jobs.lookup id = some (statement.sets job) := by
  rw [lookup_updateRows, found, Option.map_some, if_pos written]

/-- What happens when the `WHERE` clause selects the addressed job. -/
theorem updateRows_of_selects {statement : JobStatement}
    (found : catalog.jobs.lookup statement.target = some job)
    (selected : statement.selects job = true) :
    ((statement.sets job).check runtime = true ∧
      ∃ jobs, updateRows catalog statement = ({ catalog with jobs }, .ok 1) ∧ ∀ id, jobs.lookup id =
          if id = statement.target then some (statement.sets job) else catalog.jobs.lookup id) ∨
    ((statement.sets job).check runtime = false ∧
      updateRows catalog statement = (catalog, .error .integrityError)) := by
  rcases updateRows_cases statement catalog with
    ⟨jobs, result, looked⟩ | ⟨result, other, otherFound, _, fails⟩
  · left
    have after : jobs.lookup statement.target = some (statement.sets job) := by
      rw [looked, found]
      simp [selected]
    refine ⟨jobs.checked _ (Table.lookup_eq_some.mp after).1, jobs, ?_, ?_⟩
    · rw [result, if_pos ⟨job, found, selected⟩]
    · intro id
      by_cases isTarget : id = statement.target
      · rw [if_pos isTarget, isTarget, after]
      · rw [if_neg isTarget, looked id]
        cases elsewhere : catalog.jobs.lookup id with
        | none => rfl
        | some row =>
          have notSelected : ¬statement.selects row = true := by
            intro alsoSelected
            exact isTarget ((Table.lookup_eq_some.mp elsewhere).2.symm.trans
              (target_of_selects alsoSelected))
          simp [notSelected]
  · right
    obtain rfl : job = other := Option.some.inj (found.symm.trans otherFound)
    exact ⟨fails, result⟩

/-- What happens when the `WHERE` clause does not select the addressed job. -/
theorem updateRows_of_not_selects {statement : JobStatement}
    (missed : ∀ job, catalog.jobs.lookup statement.target = some job →
      statement.selects job = false) : updateRows catalog statement = (catalog, .ok 0) := by
  have noRow : ∀ row ∈ catalog.jobs.rows, statement.selects row = false := by
    intro row member
    by_contra selected
    simp only [Bool.not_eq_false] at selected
    have found := Table.lookup_of_mem member
    have isTarget : (jobsSchema runtime).key row = statement.target := target_of_selects selected
    rw [isTarget] at found
    rw [missed row found] at selected
    cases selected
  simp only [updateRows, Table.update_of_not_selected noRow]

/-- An `UPDATE` reports one changed row exactly when it rewrites the addressed job. -/
theorem updateRows_reply_eq_one {statement : JobStatement} :
    (updateRows catalog statement).2 = .ok 1 ↔
      ∃ row, catalog.jobs.lookup statement.target = some row ∧ statement.selects row = true ∧
        (statement.sets row).check runtime = true := by
  constructor
  · intro hit
    by_contra missed
    have notWritten : ∀ row, catalog.jobs.lookup statement.target = some row →
        statement.selects row = true → (statement.sets row).check runtime = false := by
      intro row found selected
      by_contra passes
      exact missed ⟨row, found, selected, by simpa using passes⟩
    by_cases selected : ∃ row, catalog.jobs.lookup statement.target = some row ∧
        statement.selects row = true
    · rcases selected with ⟨row, found, selected⟩
      rcases updateRows_of_selects found selected with ⟨passes, _⟩ | ⟨_, result⟩
      · rw [notWritten row found selected] at passes
        cases passes
      · rw [result] at hit
        cases hit
    · rw [updateRows_of_not_selects fun row found => by
        simpa using fun selects => selected ⟨row, found, selects⟩] at hit
      cases hit
  · rintro ⟨row, found, selected, passes⟩
    rcases updateRows_of_selects found selected with ⟨_, jobs, result, _⟩ | ⟨fails, _⟩
    · rw [result]
    · rw [passes] at fails
      cases fails

/-- The row an `INSERT` adds when it succeeds. -/
def Inserts (catalog : Catalog runtime) (statement : JobStatement) (job : Job) : Prop :=
  ∃ jobId caseId jobType inputJson idempotencyKey maxAttempts now,
    statement = insertJob jobId caseId jobType inputJson idempotencyKey maxAttempts now ∧
    newRow? jobId caseId jobType inputJson idempotencyKey maxAttempts now = some job ∧
    job.check runtime = true ∧ ∀ old ∈ catalog.jobs.rows, ¬(jobsSchema runtime).Clash old job

theorem insertRow_cases (catalog : Catalog runtime) (row : Option Job) :
    insertRow catalog row = (catalog, .error .integrityError) ∨
    ∃ job jobs, row = some job ∧ catalog.jobs.insert job = some jobs ∧
      insertRow catalog row = ({ catalog with jobs }, .ok 1) := by
  cases row with
  | none => exact Or.inl rfl
  | some job =>
    simp only [insertRow]
    split
    · cases inserted : catalog.jobs.insert job with
      | none => exact Or.inl rfl
      | some jobs => exact Or.inr ⟨job, jobs, rfl, inserted, rfl⟩
    · exact Or.inl rfl

/-- Everything one statement can do to the row of one job. -/
theorem lookup_perform (statement : JobStatement) (catalog : Catalog runtime) (id : String) :
    (perform statement catalog).1.jobs.lookup id = catalog.jobs.lookup id ∨
    (∃ job, catalog.jobs.lookup id = some job ∧ statement.selects job = true ∧
      (perform statement catalog).1.jobs.lookup id = some (statement.sets job)) ∨
    (catalog.jobs.lookup id = none ∧ ∃ job, Inserts catalog statement job ∧ job.jobId = id ∧
      (perform statement catalog).1.jobs.lookup id = some job) := by
  have ofUpdate : ∀ update : JobStatement,
      (updateRows catalog update).1.jobs.lookup id = catalog.jobs.lookup id ∨
      (∃ job, catalog.jobs.lookup id = some job ∧ update.selects job = true ∧
        (updateRows catalog update).1.jobs.lookup id = some (update.sets job)) := by
    intro update
    rw [lookup_updateRows]
    cases found : catalog.jobs.lookup id with
    | none => exact Or.inl rfl
    | some job =>
      by_cases selected : update.selects job = true ∧ (update.sets job).check runtime = true
      · exact Or.inr ⟨job, rfl, selected.1, by simp [selected]⟩
      · exact Or.inl (by simp [selected])
  cases statement with
  | insertJob jobId caseId jobType inputJson idempotencyKey maxAttempts now =>
    simp only [perform]
    rcases insertRow_cases catalog
      (newRow? jobId caseId jobType inputJson idempotencyKey maxAttempts now) with
      failed | ⟨job, jobs, isNew, inserted, result⟩
    · rw [failed]
      exact Or.inl rfl
    · rw [result]
      have looked : jobs.lookup id = if id = job.jobId then some job else catalog.jobs.lookup id :=
        Table.lookup_insert inserted id
      rcases Table.insert_eq_some.mp inserted with ⟨checked, noClash, _⟩
      by_cases same : id = job.jobId
      · right
        right
        refine ⟨?_, job, ⟨jobId, caseId, jobType, inputJson, idempotencyKey, maxAttempts, now, rfl,
          isNew, checked, noClash⟩, same.symm, by rw [looked, if_pos same]⟩
        refine Table.lookup_eq_none.mpr ?_
        intro old member sameKey
        exact noClash old member (Or.inl (sameKey.trans same))
      · left
        rw [looked, if_neg same]
  | selectJob jobId => exact Or.inl rfl
  | selectJobIdByKey idempotencyKey => exact Or.inl rfl
  | selectNext now => exact Or.inl rfl
  | claimPending owner now jobId => exact (ofUpdate _).imp_right Or.inl
  | claimNext owner leaseExpiresAt now jobId => exact (ofUpdate _).imp_right Or.inl
  | heartbeat leaseExpiresAt now jobId owner => exact (ofUpdate _).imp_right Or.inl
  | transition toState errorJson leaseOwner now jobId fromState =>
    exact (ofUpdate _).imp_right Or.inl
  | finish nextState retryAfterAt errorJson now jobId => exact (ofUpdate _).imp_right Or.inl

/-- A property of rows that the `SET` clause keeps and that an inserted row has. -/
theorem perform_forall {property : Job → Prop} {statement : JobStatement}
    (holds : ∀ id job, catalog.jobs.lookup id = some job → property job)
    (updates : ∀ job, property job → statement.selects job = true → property (statement.sets job))
    (inserts : ∀ job, Inserts catalog statement job → property job) (id : String) (job : Job)
    (found : (perform statement catalog).1.jobs.lookup id = some job) : property job := by
  rcases lookup_perform statement catalog id with
    same | ⟨old, oldFound, selected, changed⟩ | ⟨_, new, inserted, _, isNew⟩
  · exact holds id job (same.symm.trans found)
  · obtain rfl : statement.sets old = job := Option.some.inj (changed.symm.trans found)
    exact updates old (holds id old oldFound) selected
  · obtain rfl : new = job := Option.some.inj (isNew.symm.trans found)
    exact inserts new inserted

/-- No statement on jobs touches the events. -/
theorem perform_events (statement : JobStatement) (catalog : Catalog runtime) :
    (perform statement catalog).1.events = catalog.events := by
  have ofUpdate : ∀ update : JobStatement,
      (updateRows catalog update).1.events = catalog.events := by
    intro update
    rw [updateRows]
    split <;> rfl
  cases statement with
  | insertJob jobId caseId jobType inputJson idempotencyKey maxAttempts now =>
    simp only [perform]
    rcases insertRow_cases catalog
      (newRow? jobId caseId jobType inputJson idempotencyKey maxAttempts now) with
      failed | ⟨job, jobs, _, _, result⟩
    · rw [failed]
    · rw [result]
  | selectJob jobId => rfl
  | selectJobIdByKey idempotencyKey => rfl
  | selectNext now => rfl
  | claimPending owner now jobId => exact ofUpdate _
  | claimNext owner leaseExpiresAt now jobId => exact ofUpdate _
  | heartbeat leaseExpiresAt now jobId owner => exact ofUpdate _
  | transition toState errorJson leaseOwner now jobId fromState => exact ofUpdate _
  | finish nextState retryAfterAt errorJson now jobId => exact ofUpdate _

end JobStatement

/-! ## The statements of a call -/

theorem isCanonical_of_addSeconds {time : String} {seconds : ℤ}
    (added : Jobs.addSeconds now seconds = .ok time) : IsCanonical time := by
  simp only [Jobs.addSeconds, bind, Except.bind] at added
  split at added
  · cases added
  · split at added
    · cases added
    · cases added
      exact ⟨_, rfl⟩

/-! ## Arguments -/

theorem ne_of_mem_allowedTransitions {toState : JobState}
    (edge : toState ∈ allowedTransitions fromState) : toState ≠ fromState := by
  rintro rfl
  cases toState <;> simp [allowedTransitions] at edge

theorem Jobs.addSeconds_strftime_eq_ok {seconds : ℤ} (nonneg : 0 ≤ seconds)
    (inRange : instant.seconds + seconds ≤ DateTime.maxSeconds) :
    ∃ later : DateTime, Jobs.addSeconds (strftime instant) seconds = .ok (strftime later) ∧
      (later.seconds : ℤ) = instant.seconds + seconds := by
  rcases DateTime.exists_add_eq_ok instant seconds nonneg inRange with ⟨later, added, value⟩
  refine ⟨later, ?_, value⟩
  simp only [Jobs.addSeconds, strptime_strftime, bind, Except.bind, added]
  rfl

theorem Jobs.addSeconds_strftime_eq_error {seconds : ℤ}
    (tooLate : DateTime.maxSeconds < instant.seconds + seconds) :
    Jobs.addSeconds (strftime instant) seconds = .error .overflowError := by
  simp only [Jobs.addSeconds, strptime_strftime, bind, Except.bind, DateTime.add_eq_error tooLate]

theorem Jobs.addSeconds_strftime {seconds : ℤ} {time : String} (nonneg : 0 ≤ seconds)
    (added : Jobs.addSeconds (strftime instant) seconds = .ok time) :
    ∃ later : DateTime, strftime later = time ∧
      (later.seconds : ℤ) = instant.seconds + seconds := by
  by_cases inRange : instant.seconds + seconds ≤ DateTime.maxSeconds
  · rcases Jobs.addSeconds_strftime_eq_ok nonneg inRange with ⟨later, isLater, value⟩
    exact ⟨later, Except.ok.inj (isLater.symm.trans added), value⟩
  · rw [Jobs.addSeconds_strftime_eq_error (not_le.mp inRange)] at added
    cases added

theorem Jobs.validateLeaseSeconds_pos {leaseSeconds : PyValue} {seconds : ℤ}
    (valid : validateLeaseSeconds leaseSeconds = .ok seconds) : 0 < seconds := by
  cases leaseSeconds with
  | int value =>
    simp only [validateLeaseSeconds] at valid
    split at valid
    · rename_i bounds
      cases valid
      exact bounds.1
    · cases valid
  | _ => cases valid

namespace JobCall

/-- The calls that end in the guarded `UPDATE` of `transition_job`. -/
def transitions : JobCall → Bool
  | transitionJob .. => true
  | safeStopJob .. => true
  | recordProcessDeath .. => true
  | releaseForRetry .. => true
  | _ => false

/-- The statements a call may issue, with what the code established before issuing them. -/
inductive Allows (runtime : Runtime) : JobCall → JobStatement → Prop where
  | read (call : JobCall) (jobId : String) : Allows runtime call (.selectJob jobId)
  | create (new : Jobs.NewJob) (inputJson : String)
      (canonical : Jobs.canonicalJson runtime new.inputPayload = .ok inputJson) :
      Allows runtime (.createJob new) (.insertJob new.jobId new.caseId new.jobType inputJson
        new.idempotencyKey new.maxAttempts new.now)
  | createOrGet (new : Jobs.NewJob) (inputJson : String)
      (canonical : Jobs.canonicalJson runtime new.inputPayload = .ok inputJson) :
      Allows runtime (.createOrGetJob new) (.insertJob new.jobId new.caseId new.jobType inputJson
        new.idempotencyKey new.maxAttempts new.now)
  | findKey (new : Jobs.NewJob) :
      Allows runtime (.createOrGetJob new) (.selectJobIdByKey new.idempotencyKey)
  | claimPending (jobId owner now : String) :
      Allows runtime (.claimPendingJob jobId owner now) (.claimPending owner now jobId)
  | findNext (owner now : String) (leaseSeconds : PyValue) :
      Allows runtime (.claimNextJob owner now leaseSeconds) (.selectNext now)
  | claimNext (owner now : String) (leaseSeconds : PyValue) (seconds : ℤ)
      (leaseExpiresAt jobId : String)
      (valid : Jobs.validateLeaseSeconds leaseSeconds = .ok seconds)
      (expires : Jobs.addSeconds now seconds = .ok leaseExpiresAt) :
      Allows runtime (.claimNextJob owner now leaseSeconds)
        (.claimNext owner leaseExpiresAt now jobId)
  | heartbeat (jobId owner now : String) (leaseSeconds : PyValue) (seconds : ℤ)
      (leaseExpiresAt : String)
      (valid : Jobs.validateLeaseSeconds leaseSeconds = .ok seconds)
      (expires : Jobs.addSeconds now seconds = .ok leaseExpiresAt) :
      Allows runtime (.heartbeatJob jobId owner now leaseSeconds)
        (.heartbeat leaseExpiresAt now jobId owner)
  | transition (call : JobCall) (toState fromState : JobState)
      (errorJson leaseOwner : Option String) (now jobId : String)
      (moves : call.transitions = true) (edge : toState ∈ allowedTransitions fromState) :
      Allows runtime call (.transition toState errorJson leaseOwner now jobId fromState)
  | finish (jobId now errorClass : String) (retryPolicy : RetryPolicy) (nextState : JobState)
      (retryAfterAt : Option String) (errorJson : String)
      (retries : nextState = .failed ∧ retryAfterAt = none ∨
        nextState = .retrying ∧ ∃ delay time, Jobs.addSeconds now delay = .ok time ∧
          retryAfterAt = some time) :
      Allows runtime (.finishAttempt jobId now errorClass retryPolicy)
        (.finish nextState retryAfterAt (some errorJson) now jobId)

variable {runtime : Runtime} {allowed : JobStatement → Prop} {α : Type}

theorem issues_issue_bind {statement : JobStatement} {rest : statement.Reply → JobProgram α}
    (allows : allowed statement) (restIssues : ∀ reply, (rest reply).Issues allowed) :
    (Jobs.issue statement >>= rest).Issues allowed := ⟨allows, restIssues⟩

theorem issues_getJob_bind {jobId : String} {rest : Job → JobProgram α}
    (reads : allowed (.selectJob jobId)) (restIssues : ∀ job, (rest job).Issues allowed) :
    (Jobs.getJob jobId >>= rest).Issues allowed := by
  refine ⟨reads, fun reply => ?_⟩
  cases reply with
  | none => trivial
  | some job => exact restIssues job

theorem validateTransition_edge {target : JobState} {toState : String}
    (valid : Jobs.validateTransition fromState toState = .ok target) :
    target ∈ allowedTransitions fromState := by
  simp only [Jobs.validateTransition] at valid
  split at valid
  · cases valid
  · split at valid
    · cases valid
      assumption
    · cases valid

theorem validateTransition_text {target : JobState} {toState : String}
    (valid : Jobs.validateTransition fromState toState = .ok target) : toState = target.text := by
  simp only [Jobs.validateTransition] at valid
  split at valid
  · cases valid
  · rename_i found
    split at valid
    · cases valid
      exact (JobState.text_of_ofText? found).symm
    · cases valid

theorem transitionJob_issues {call : JobCall} (moves : call.transitions = true)
    (jobId toState now : String) (error : Option PyDict) :
    (Jobs.transitionJob runtime jobId toState now error).Issues (call.Allows runtime) := by
  apply issues_getJob_bind (.read call jobId)
  intro job
  simp only [Program.issues_ofExcept_bind]
  intro target valid errorJson _
  apply issues_issue_bind
    (.transition call target job.state _ _ now jobId moves (validateTransition_edge valid))
  intro reply
  simp only [Program.issues_ofExcept_bind]
  intro rowcount _
  split <;> trivial

theorem createJob_issues {call : JobCall} {new : Jobs.NewJob}
    (inserts : ∀ inputJson, Jobs.canonicalJson runtime new.inputPayload = .ok inputJson →
      call.Allows runtime (.insertJob new.jobId new.caseId new.jobType inputJson
        new.idempotencyKey new.maxAttempts new.now)) :
    (Jobs.createJob runtime new).Issues (call.Allows runtime) := by
  simp only [Jobs.createJob, Program.issues_ofExcept_bind]
  intro inputJson canonical _ _
  apply issues_issue_bind (inserts inputJson canonical)
  intro reply
  simp only [Program.issues_ofExcept_bind]
  intro _ _
  trivial

theorem getExisting_issues (new : Jobs.NewJob) (inputJson : String) (error : PyError) :
    (Jobs.getExisting new inputJson error).Issues
      ((JobCall.createOrGetJob new).Allows runtime) := by
  cases error with
  | integrityError =>
    refine ⟨.findKey new, ?_⟩
    intro reply
    cases reply with
    | none => trivial
    | some existing =>
      apply issues_getJob_bind (.read _ existing)
      intro job
      split <;> trivial
  | _ => trivial

/-- `finish_attempt` writes a retry time exactly when it writes `retrying`. -/
theorem finish_retries {retryable : Bool} {delay : ℤ}
    (delayed : (if retryable = true then (Jobs.addSeconds now delay).map some else .ok none) =
      .ok retryAfterAt) :
    (if retryable = true then JobState.retrying else .failed) = .failed ∧ retryAfterAt = none ∨
      (if retryable = true then JobState.retrying else .failed) = .retrying ∧
        ∃ delay time, Jobs.addSeconds now delay = .ok time ∧ retryAfterAt = some time := by
  cases retryable with
  | false =>
    cases delayed
    exact Or.inl ⟨rfl, rfl⟩
  | true =>
    right
    refine ⟨rfl, delay, ?_⟩
    cases added : Jobs.addSeconds now delay with
    | error error => simp [added, Except.map] at delayed
    | ok time =>
      simp only [added, Except.map, if_true, Except.ok.injEq] at delayed
      exact ⟨time, rfl, delayed.symm⟩

theorem program_issues (call : JobCall) : (call.program runtime).Issues (call.Allows runtime) := by
  cases call with
  | createJob new =>
    exact createJob_issues fun inputJson canonical => .create new inputJson canonical
  | createOrGetJob new =>
    simp only [program, Jobs.createOrGetJob, Program.issues_ofExcept_bind]
    intro inputJson _
    apply Program.Issues.handle
    · apply Program.Issues.bind
      · exact createJob_issues fun inputJson canonical => .createOrGet new inputJson canonical
      · intro _
        refine ⟨.read _ new.jobId, fun reply => ?_⟩
        cases reply <;> trivial
    · exact getExisting_issues new inputJson
  | claimPendingJob jobId owner now =>
    simp only [program, Jobs.claimPendingJob]
    apply issues_issue_bind (.claimPending jobId owner now)
    intro reply
    simp only [Program.issues_ofExcept_bind]
    intro _ _
    trivial
  | claimNextJob owner now leaseSeconds =>
    simp only [program, Jobs.claimNextJob, Program.issues_ofExcept_bind]
    intro seconds valid leaseExpiresAt expires
    apply issues_issue_bind (.findNext owner now leaseSeconds)
    intro reply
    cases reply with
    | none => trivial
    | some found =>
      apply issues_issue_bind
        (.claimNext owner now leaseSeconds seconds leaseExpiresAt found.1 valid expires)
      intro reply
      simp only [Program.issues_ofExcept_bind]
      intro rowcount _
      split
      · trivial
      · exact issues_getJob_bind (.read _ found.1) fun _ => trivial
  | heartbeatJob jobId owner now leaseSeconds =>
    simp only [program, Jobs.heartbeatJob, Program.issues_ofExcept_bind]
    intro seconds valid leaseExpiresAt expires
    apply issues_issue_bind
      (.heartbeat jobId owner now leaseSeconds seconds leaseExpiresAt valid expires)
    intro reply
    simp only [Program.issues_ofExcept_bind]
    intro _ _
    trivial
  | transitionJob jobId toState now error => exact transitionJob_issues rfl jobId toState now error
  | safeStopJob jobId now => exact transitionJob_issues rfl jobId _ now _
  | recordProcessDeath jobId now =>
    apply issues_getJob_bind (.read _ jobId)
    intro job
    split
    · trivial
    · apply Program.Issues.bind
      · exact transitionJob_issues rfl jobId _ now _
      · intro _
        trivial
  | releaseForRetry jobId now => exact transitionJob_issues rfl jobId _ now _
  | finishAttempt jobId now errorClass retryPolicy =>
    simp only [program, Jobs.finishAttempt]
    split
    · trivial
    · apply issues_getJob_bind (.read _ jobId)
      intro job
      split
      · trivial
      · simp only [Program.issues_ofExcept_bind]
        intro retryAfterAt delayed errorJson _
        apply issues_issue_bind
          (.finish jobId now errorClass retryPolicy _ retryAfterAt errorJson
            (finish_retries delayed))
        intro reply
        simp only [Program.issues_ofExcept_bind]
        intro _ _
        trivial

theorem follows_step {Conn : Type} [DecidableEq Conn]
    {system next : (jobService runtime).System Conn}
    {action : (jobService runtime).Action Conn} (follows : system.Follows (Allows runtime))
    (stepped : Service.step system action = some next) : next.Follows (Allows runtime) :=
  follows.step program_issues stepped

end JobCall

section NextStatement

variable {runtime : Runtime} {Conn : Type}

/-- The next statement of the connection, if it belongs to a call of the given kind. -/
def nextStatement (ofKind : JobCall → Bool) (system : (jobService runtime).System Conn)
    (conn : Conn) : Option JobStatement :=
  match system.threads conn with
  | some ⟨call, _, .execute statement _⟩ => if ofKind call then some statement else none
  | _ => none

theorem nextStatement_eq_some {ofKind : JobCall → Bool} {system : (jobService runtime).System Conn}
    {conn : Conn} {statement : JobStatement}
    (isNext : nextStatement ofKind system conn = some statement) :
    ∃ call, ofKind call = true ∧ system.Pending conn call statement := by
  simp only [nextStatement] at isNext
  split at isNext
  · rename_i call history query rest found
    split at isNext
    · rename_i kind
      cases isNext
      exact ⟨call, kind, history, rest, found⟩
    · cases isNext
  · cases isNext

end NextStatement

end Reperio
