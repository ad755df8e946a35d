import Reperio.Jobs.Serial

/-!
# Jobs that nobody can claim any more

`claim_next_job` finds a waiting or abandoned job by two nullable columns: a
retry needs its `retry_after_at`, an expired lease needs its
`lease_expires_at`. A job with attempts left that lacks the column of its state
is stranded: a comparison with `NULL` is not true at any time.

`claim_next_job` and `finish_attempt` write both. `claim_pending_job` and
`transition_job` do not, and this module says when that strands a job.
-/

namespace Reperio

open Python Relational Concurrency

/-- A job that waits for a worker or is held by one. -/
def JobState.isActive (state : JobState) : Bool :=
  decide (state ∈ [JobState.pending, .retrying, .leased, .running])

/-- From some time on, `claim_next_job` would take the job if it has attempts left. -/
def Job.EventuallyRunnable (job : Job) : Prop :=
  job.state.isActive = true → job.attempts < job.maxAttempts →
    ∃ bound, ∀ now, strftime bound < now → job.runnable now = true

def NoneStranded {runtime : Runtime} (catalog : Catalog runtime) : Prop :=
  ∀ id job, catalog.jobs.lookup id = some job → job.EventuallyRunnable

/-- A call that leaves every job with attempts left claimable: it is no `claim_pending_job` of a job
that has another attempt after this one, no transition to `leased` or `running`, and no transition
to `retrying` of a job without a retry time. -/
def KeepsClaimable {runtime : Runtime} (catalog : Catalog runtime) : JobCall → Prop
  | .claimPendingJob jobId _ _ =>
    ∀ job, catalog.jobs.lookup jobId = some job → job.state = .pending →
      job.maxAttempts ≤ job.attempts + 1
  | .transitionJob jobId toState _ _ =>
    ∀ job, catalog.jobs.lookup jobId = some job → job.attempts < job.maxAttempts →
      toState ≠ "leased" ∧ toState ≠ "running" ∧ (toState = "retrying" → job.retryAfterAt ≠ none)
  | .recordProcessDeath jobId _ =>
    ∀ job, catalog.jobs.lookup jobId = some job → job.attempts < job.maxAttempts →
      job.retryAfterAt ≠ none
  | _ => True

/-- What every row that the module wrote satisfies: its times are canonical, and a pending job has
no lease. -/
structure Job.Regular (job : Job) : Prop where
  lease : ∀ time, job.leaseExpiresAt = some time → IsCanonical time
  retry : ∀ time, job.retryAfterAt = some time → IsCanonical time
  pending : job.state = .pending → job.leaseExpiresAt = none

/-- The column that `claim_next_job` compares for the state of the job is set. -/
def Job.HasDeadline (job : Job) : Prop := (job.state = .retrying → job.retryAfterAt ≠ none) ∧
    (job.state = .leased ∨ job.state = .running → job.leaseExpiresAt ≠ none)

variable {job : Job} {call : JobCall} {now : String}

theorem Job.eventuallyRunnable_iff (regular : job.Regular) :
    job.EventuallyRunnable ↔ (job.attempts < job.maxAttempts → job.HasDeadline) := by
  constructor
  · intro eventually left
    have runs : job.state.isActive = true → ∃ now, job.runnable now = true := by
      intro active
      rcases eventually active left with ⟨bound, later⟩
      exact ⟨_, later _ (lt_append_zero _)⟩
    refine ⟨?_, ?_⟩
    · intro retrying noTime
      rcases runs (by rw [retrying]; rfl) with ⟨now, runnable⟩
      simp [Job.runnable_iff, retrying, noTime] at runnable
    · intro held noTime
      have active : job.state.isActive = true := by
        rcases held with held | held <;>
        · rw [held]
          rfl
      rcases runs active with ⟨now, runnable⟩
      rcases held with held | held <;> simp [Job.runnable_iff, held, noTime] at runnable
  · intro deadline active left
    rcases deadline left with ⟨retry, lease⟩
    have leased : job.state = .leased ∨ job.state = .running →
        ∃ bound, ∀ now, strftime bound < now → job.runnable now = true := by
      intro held
      rcases Option.ne_none_iff_exists'.mp (lease held) with ⟨time, isTime⟩
      rcases regular.lease time isTime with ⟨bound, rfl⟩
      exact ⟨bound, fun now after => Job.runnable_iff.mpr
        (Or.inr (Or.inr ⟨held, _, isTime, after⟩))⟩
    cases state : job.state with
    | pending => exact ⟨.min, fun now _ => Job.runnable_iff.mpr (Or.inl state)⟩
    | retrying =>
      rcases Option.ne_none_iff_exists'.mp (retry state) with ⟨time, isTime⟩
      rcases regular.retry time isTime with ⟨bound, rfl⟩
      exact ⟨bound, fun now after =>
        Job.runnable_iff.mpr (Or.inr (Or.inl ⟨state, _, isTime, after.le⟩))⟩
    | leased => exact leased (Or.inl state)
    | running => exact leased (Or.inr state)
    | _ =>
      rw [state] at active
      cases active

/-! ## Rows stay regular -/

variable {runtime : Runtime}

theorem Job.Regular.sets {statement : JobStatement} (regular : job.Regular)
    (allowed : call.Allows runtime statement) (selected : statement.selects job = true) :
    (statement.sets job).Regular := by
  cases allowed with
  | claimPending jobId owner now =>
    exact ⟨regular.lease, regular.retry, fun isPending => by cases isPending⟩
  | claimNext owner now leaseSeconds seconds leaseExpiresAt jobId valid expires =>
    refine ⟨?_, fun _ isTime => (by cases isTime), fun isPending => by cases isPending⟩
    rintro time ⟨⟩
    exact isCanonical_of_addSeconds expires
  | heartbeat jobId owner now leaseSeconds seconds leaseExpiresAt valid expires =>
    refine ⟨?_, regular.retry, ?_⟩
    · rintro time ⟨⟩
      exact isCanonical_of_addSeconds expires
    · intro isPending
      have state : job.state = .pending := isPending
      rcases (JobStatement.heartbeat_selects_iff.mp selected).2.2.1 with held | held <;>
      · rw [state] at held
        cases held
  | transition _ toState fromState errorJson leaseOwner now jobId moves edge =>
    exact ⟨fun _ isTime => (by cases isTime), regular.retry, fun _ => rfl⟩
  | finish jobId now errorClass retryPolicy nextState retryAfterAt errorJson retries =>
    refine ⟨fun _ isTime => (by cases isTime), ?_, fun _ => rfl⟩
    intro time isTime
    have isRetry : retryAfterAt = some time := isTime
    rcases retries with ⟨_, noTime⟩ | ⟨_, delay, retryTime, added, isSome⟩
    · rw [noTime] at isRetry
      cases isRetry
    · rw [isSome, Option.some.injEq] at isRetry
      exact isRetry ▸ isCanonical_of_addSeconds added
  | _ => exact regular

variable {catalog : Catalog runtime}

theorem JobStatement.Inserts.regular {statement : JobStatement}
    (inserted : Inserts catalog statement job) : job.Regular := by
  rcases inserted with ⟨jobId, caseId, jobType, inputJson, idempotencyKey, maxAttempts, now, _,
    isNew, _⟩
  rcases Option.map_eq_some_iff.mp isNew with ⟨jobType, _, rfl⟩
  exact ⟨fun _ isTime => (by cases isTime), fun _ isTime => (by cases isTime), fun _ => rfl⟩

def AllRegular (catalog : Catalog runtime) : Prop :=
  ∀ id job, catalog.jobs.lookup id = some job → job.Regular

def AllHaveDeadline (catalog : Catalog runtime) : Prop :=
  ∀ id job, catalog.jobs.lookup id = some job → job.attempts < job.maxAttempts → job.HasDeadline

theorem noneStranded_iff (regular : AllRegular catalog) :
    NoneStranded catalog ↔ AllHaveDeadline catalog := by
  apply forall_congr'
  intro id
  apply forall_congr'
  intro job
  apply imp_congr_right
  intro found
  exact Job.eventuallyRunnable_iff (regular id job found)

theorem AllRegular.run (regular : AllRegular catalog) (call : JobCall) :
    AllRegular ((call.program runtime).run JobStatement.perform catalog).1 := by
  refine (JobCall.program_issues call).run_preserves ?_ regular
  intro statement state allowed holds
  exact JobStatement.perform_forall holds
    (fun job isRegular selected => isRegular.sets allowed selected)
    (fun job inserted => inserted.regular)

theorem AllRegular.serial {next : Catalog runtime} (regular : AllRegular catalog)
    (ran : (jobService runtime).serial catalog call = some next) : AllRegular next := by
  rcases Service.serial_eq_some.mp ran with ⟨result, isRun⟩
  have kept := regular.run call
  simp only [jobService] at isRun
  rw [isRun] at kept
  exact kept

/-! ## What each call does to the deadlines -/

/-- The calls that set the column they need, or leave jobs alone. -/
def JobCall.setsDeadline : JobCall → Bool
  | .claimPendingJob .. => false
  | call => !call.transitions

theorem hasDeadline_sets {statement : JobStatement} (allowed : call.Allows runtime statement)
    (safe : call.setsDeadline = true) (selected : statement.selects job = true) :
    (statement.sets job).HasDeadline := by
  cases allowed with
  | claimNext owner now leaseSeconds seconds leaseExpiresAt jobId valid expires =>
    exact ⟨fun retrying => (by cases retrying), fun _ noTime => by cases noTime⟩
  | heartbeat jobId owner now leaseSeconds seconds leaseExpiresAt valid expires =>
    refine ⟨?_, fun _ noTime => by cases noTime⟩
    intro retrying
    have state : job.state = .retrying := retrying
    rcases (JobStatement.heartbeat_selects_iff.mp selected).2.2.1 with held | held <;>
    · rw [state] at held
      cases held
  | finish jobId now errorClass retryPolicy nextState retryAfterAt errorJson retries =>
    rcases retries with ⟨rfl, _⟩ | ⟨rfl, delay, time, added, rfl⟩
    · exact ⟨fun retrying => (by cases retrying),
        fun held => by rcases held with held | held <;> cases held⟩
    · exact ⟨fun _ noTime => (by cases noTime),
        fun held => by rcases held with held | held <;> cases held⟩
  | transition _ toState fromState errorJson leaseOwner now jobId moves edge =>
    cases call <;> simp_all [JobCall.setsDeadline, JobCall.transitions]
  | claimPending => cases safe
  | _ => cases selected

theorem AllHaveDeadline.run_of_setsDeadline (deadlines : AllHaveDeadline catalog)
    (safe : call.setsDeadline = true) :
    AllHaveDeadline ((call.program runtime).run JobStatement.perform catalog).1 := by
  refine (JobCall.program_issues call).run_preserves ?_ deadlines
  intro statement state allowed holds
  refine JobStatement.perform_forall holds ?_ ?_
  · intro job _ selected _
    exact hasDeadline_sets allowed safe selected
  · rintro job ⟨jobId, caseId, jobType, inputJson, key, maxAttempts, now, _, isNew, _⟩ _
    rcases Option.map_eq_some_iff.mp isNew with ⟨jobType, _, rfl⟩
    exact ⟨fun retrying => (by cases retrying),
      fun held => by rcases held with held | held <;> cases held⟩

/-- After one row was written, only that row can lack its deadline. -/
theorem AllHaveDeadline.written {next : Catalog runtime} {jobId : String} {row : Job}
    (deadlines : AllHaveDeadline catalog)
    (written : ∀ id, next.jobs.lookup id =
      if id = jobId then some row else catalog.jobs.lookup id) :
    AllHaveDeadline next ↔ (row.attempts < row.maxAttempts → row.HasDeadline) := by
  constructor
  · intro all left
    exact all jobId row (by rw [written, if_pos rfl]) left
  · intro deadline id job found left
    rw [written] at found
    split at found
    · obtain rfl : row = job := Option.some.inj found
      exact deadline left
    · exact deadlines id job found left

theorem claimPendingJob_allHaveDeadline_iff {next : Catalog runtime} {jobId owner : String}
    {claimed : Bool} (regular : AllRegular catalog) (deadlines : AllHaveDeadline catalog)
    (ran : (Jobs.claimPendingJob jobId owner now).run JobStatement.perform catalog =
      (next, .ok claimed)) :
    AllHaveDeadline next ↔ KeepsClaimable catalog (.claimPendingJob jobId owner now) := by
  rcases Jobs.claimPendingJob_ok ran with ⟨job, found, selected, written⟩ | ⟨rfl, missed⟩
  · rcases JobStatement.claimPending_selects_iff.mp selected with ⟨_, state, left⟩
    have noLease := (regular jobId job found).pending state
    rw [deadlines.written written]
    simp only [JobStatement.sets, Job.HasDeadline, KeepsClaimable, found, noLease]
    constructor
    · intro deadline other isJob _
      obtain rfl : job = other := Option.some.inj isJob
      by_contra more
      exact (deadline (by omega)).2 (Or.inl trivial) rfl
    · intro last more
      have := last job rfl state
      omega
  · refine iff_of_true deadlines ?_
    intro job found state
    by_contra more
    have selected : (JobStatement.claimPending owner now jobId).selects job = true :=
      JobStatement.claimPending_selects_iff.mpr
        ⟨(Table.lookup_eq_some.mp found).2, state, by omega⟩
    rw [missed job found] at selected
    cases selected

theorem transitionJob_allHaveDeadline_iff {next : Catalog runtime} {jobId toState : String}
    {error : Option PyDict} (deadlines : AllHaveDeadline catalog)
    (ran : (Jobs.transitionJob runtime jobId toState now error).run JobStatement.perform catalog =
      (next, .ok ())) :
    AllHaveDeadline next ↔ KeepsClaimable catalog (.transitionJob jobId toState now error) := by
  rcases Jobs.transitionJob_ok ran with ⟨job, statement, found, ready, written⟩
  rcases Jobs.transitionStatement_eq_ok ready with ⟨target, errorJson, valid, _, rfl⟩
  obtain rfl : toState = target.text := JobCall.validateTransition_text valid
  have differs : ∀ state : JobState, target.text ≠ state.text ↔ target ≠ state :=
    fun state => not_congr ⟨JobState.text_injective, fun same => by rw [same]⟩
  rw [deadlines.written written]
  simp only [JobStatement.sets, Job.HasDeadline, KeepsClaimable, found, Option.some.injEq,
    forall_eq']
  apply imp_congr_right
  intro left
  rw [show target.text ≠ "leased" ↔ target ≠ .leased from differs .leased,
    show target.text ≠ "running" ↔ target ≠ .running from differs .running,
    show target.text = "retrying" ↔ target = .retrying from not_iff_not.mp (differs .retrying)]
  cases target <;> simp

theorem recordProcessDeath_allHaveDeadline_iff {next : Catalog runtime} {jobId : String}
    {state : JobState} (deadlines : AllHaveDeadline catalog)
    (ran : (Jobs.recordProcessDeath runtime jobId now).run JobStatement.perform catalog =
      (next, .ok state)) :
    AllHaveDeadline next ↔ KeepsClaimable catalog (.recordProcessDeath jobId now) := by
  rcases Jobs.recordProcessDeath_ok ran with ⟨job, error, found, transitioned⟩
  rw [transitionJob_allHaveDeadline_iff deadlines transitioned]
  simp only [KeepsClaimable, found, Option.some.injEq, forall_eq']
  apply imp_congr_right
  intro left
  rw [if_pos left]
  simp [JobState.text]

/-- A successful call strands no job exactly when it is one of those that keep jobs claimable. -/
theorem serial_noneStranded_iff {next : Catalog runtime} (regular : AllRegular catalog)
    (none : NoneStranded catalog) (ran : (jobService runtime).serial catalog call = some next) :
    NoneStranded next ↔ KeepsClaimable catalog call := by
  have nextRegular := regular.serial ran
  rw [noneStranded_iff nextRegular]
  have deadlines := (noneStranded_iff regular).mp none
  rcases Service.serial_eq_some.mp ran with ⟨result, isRun⟩
  have ofSafe : call.setsDeadline = true → AllHaveDeadline next := by
    intro safe
    have kept := deadlines.run_of_setsDeadline safe
    simp only [jobService] at isRun
    rw [isRun] at kept
    exact kept
  cases call with
  | claimPendingJob jobId owner now =>
    exact claimPendingJob_allHaveDeadline_iff regular deadlines isRun
  | transitionJob jobId toState now error =>
    exact transitionJob_allHaveDeadline_iff deadlines isRun
  | recordProcessDeath jobId now => exact recordProcessDeath_allHaveDeadline_iff deadlines isRun
  | safeStopJob jobId now =>
    have transitioned := transitionJob_allHaveDeadline_iff deadlines isRun
    simpa [KeepsClaimable] using transitioned
  | releaseForRetry jobId now =>
    have transitioned := transitionJob_allHaveDeadline_iff deadlines isRun
    simpa [KeepsClaimable] using transitioned
  | _ => exact iff_of_true (ofSafe rfl) trivial

/-- In a run of successful calls from an empty table, no job is stranded in any state exactly when
every call keeps the jobs claimable. -/
theorem none_stranded_iff_calls_keep_claimable (catalog : Catalog runtime)
    (noJobs : catalog.jobs.rows = []) (calls : List JobCall) (last : Catalog runtime)
    (ran : runFrom (jobService runtime).serial catalog calls = some last) :
    EveryState (jobService runtime).serial NoneStranded catalog calls ↔
      EveryStep (jobService runtime).serial KeepsClaimable catalog calls := by
  have noLookup : ∀ id job, catalog.jobs.lookup id ≠ some job := by
    intro id job found
    have member := (Table.lookup_eq_some.mp found).1
    rw [noJobs] at member
    cases member
  have regular : AllRegular catalog := fun id job found => absurd found (noLookup id job)
  refine everyState_iff_everyStep ?_ ?_ regular ?_ ran
  · intro state call next isRegular stepped
    exact isRegular.serial stepped
  · intro state call next isRegular none stepped
    exact serial_noneStranded_iff isRegular none stepped
  · exact fun id job found => absurd found (noLookup id job)

/-- A worker takes the job, keeps its lease and fails; the job is claimable all along. -/
theorem none_stranded_in_failed_attempt :
    EveryState (jobService .sample).serial NoneStranded (.initial .sample [])
      [.createJob .sample, .claimNextJob "worker-a" "2026-08-11T14:40:00Z" (.int 30),
        .heartbeatJob "job-1" "worker-a" "2026-08-11T14:40:20Z" (.int 30),
        .finishAttempt "job-1" "2026-08-11T14:40:40Z" "transient" .standard] :=
  (none_stranded_iff_calls_keep_claimable (.initial .sample []) rfl _ _
    (Option.some_get (by decide +kernel)).symm).mpr
    ⟨trivial, fun _ _ => ⟨trivial, fun _ _ => ⟨trivial, fun _ _ => ⟨trivial, fun _ _ => trivial⟩⟩⟩⟩

/-- `claim_pending_job` leases the job without an expiry: if the worker dies, nobody takes over. -/
theorem claimed_pending_job_is_stranded :
    ¬EveryState (jobService .sample).serial NoneStranded (.initial .sample [])
      [.createJob .sample, .claimPendingJob "job-1" "worker-a" "2026-08-11T14:40:00Z"] := by
  apply not_everyState_of_observed fun catalog => (catalog.jobs.lookup "job-1").map fun job =>
    (job.state, job.leaseExpiresAt, job.attempts, job.maxAttempts)
  · show _ = some (some (JobState.leased, (none : Option String), (1 : ℤ), (3 : ℤ)))
    decide
  · intro catalog seen noneStranded
    rcases Option.map_eq_some_iff.mp seen with ⟨job, found, columns⟩
    simp only [Prod.mk.injEq] at columns
    rcases columns with ⟨state, lease, attempts, maxAttempts⟩
    rcases noneStranded "job-1" job found (by rw [state]; rfl) (by omega) with ⟨bound, runs⟩
    have runnable := runs _ (lt_append_zero _)
    simp [Job.runnable_iff, state, lease] at runnable

end Reperio
