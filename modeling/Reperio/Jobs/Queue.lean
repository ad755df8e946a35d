import Reperio.Jobs.Serial

/-!
# Which job `claim_next_job` takes

The `SELECT` of `claim_next_job` picks the first runnable row by creation time
and identifier whatever its attempts, and only the `UPDATE` asks for attempts
left. A runnable job that has used up its attempts therefore blocks every job
behind it.
-/

namespace Reperio

open Python Relational Concurrency

/-- The eligibility that the `UPDATE` of `claim_next_job` asks for. -/
def Job.claimable (now : String) (job : Job) : Bool :=
  decide (job.attempts < job.maxAttempts) && job.runnable now

/-- `ORDER BY created_at, job_id`. -/
def Job.queueKey (job : Job) : String ×ₗ String := toLex (job.createdAt, job.jobId)

variable {runtime : Runtime}

/-- The outcome of `claim_next_job` is the first claimable job, and nothing only if there is
none. -/
structure TakesFirstClaimable (catalog : Catalog runtime) (now : String)
    (outcome : Except PyError (Option Job)) : Prop where
  takes : (∃ job ∈ catalog.jobs.rows, job.claimable now = true) →
    ∃ taken, outcome = .ok (some taken)
  first : ∀ taken, outcome = .ok (some taken) →
    ∃ job ∈ catalog.jobs.rows, job.claimable now = true ∧ job.SameOrigin taken ∧
      ∀ other ∈ catalog.jobs.rows, other.claimable now = true → job.queueKey ≤ other.queueKey
  nothing : outcome = .ok none → ∀ job ∈ catalog.jobs.rows, job.claimable now = false

variable {now : String} {catalog : Catalog runtime} {leaseExpiresAt : String}

theorem Job.claimable_iff {job : Job} :
    job.claimable now = true ↔ job.attempts < job.maxAttempts ∧ job.runnable now = true := by
  simp only [Job.claimable, Bool.and_eq_true, decide_eq_true_eq]

/-! ## The row that is selected -/

/-- The row that the `SELECT` finds. -/
def firstRunnable (catalog : Catalog runtime) (now : String) : Option Job :=
  (orderLimit Job.queueKey 1 (catalog.jobs.rows.filter (Job.runnable now))).head?

theorem firstRunnable_eq_some {job : Job} (isFirst : firstRunnable catalog now = some job) :
    job ∈ catalog.jobs.rows ∧ job.runnable now = true ∧
      ∀ other ∈ catalog.jobs.rows, other.runnable now = true → job.queueKey ≤ other.queueKey := by
  have member := mem_of_mem_orderLimit (List.mem_of_mem_head? isFirst)
  rcases List.mem_filter.mp member with ⟨inTable, runnable⟩
  refine ⟨inTable, runnable, ?_⟩
  intro other otherMem otherRunnable
  exact head_orderLimit_le isFirst (List.mem_filter.mpr ⟨otherMem, otherRunnable⟩)

theorem firstRunnable_eq_none (noFirst : firstRunnable catalog now = none) :
    ∀ job ∈ catalog.jobs.rows, job.runnable now = false := by
  intro job member
  rw [firstRunnable, List.head?_eq_none_iff, orderLimit_one_eq_nil, List.filter_eq_nil_iff]
    at noFirst
  simpa using noFirst job member

theorem Job.eq_of_queueKey_eq {first second : Job} (firstMem : first ∈ catalog.jobs.rows)
    (secondMem : second ∈ catalog.jobs.rows) (same : first.queueKey = second.queueKey) :
    first = second := by
  refine catalog.jobs.eq_of_key_eq firstMem secondMem ?_
  have pair : (first.createdAt, first.jobId) = (second.createdAt, second.jobId) :=
    toLex.injective same
  exact (Prod.mk.inj pair).2

/-! ## The whole call -/

theorem claimNext_sets_check {job : Job} {owner jobId : String} (checked : job.check runtime = true)
    (expiryCheck : timestampCheck leaseExpiresAt = true) (nowCheck : timestampCheck now = true) :
    ((JobStatement.claimNext owner leaseExpiresAt now jobId).sets job).check runtime = true := by
  rcases Job.check_iff.mp checked with
    ⟨input, attempts, maximum, _, _, error, created, _⟩
  refine Job.check_iff.mpr ⟨input, ?_, maximum, expiryCheck, rfl, error, created, nowCheck⟩
  show 0 ≤ job.attempts + 1
  omega

/-- `claim_next_job` run alone, once its arguments were accepted. -/
theorem Jobs.run_claimNextJob {owner : String} {leaseSeconds : PyValue} {seconds : ℤ}
    (valid : validateLeaseSeconds leaseSeconds = .ok seconds)
    (expires : addSeconds now seconds = .ok leaseExpiresAt)
    (expiryCheck : timestampCheck leaseExpiresAt = true) (nowCheck : timestampCheck now = true)
    (catalog : Catalog runtime) :
    ((claimNextJob owner now leaseSeconds).run JobStatement.perform catalog).2 =
      match firstRunnable catalog now with
      | none => .ok none
      | some job =>
        if job.attempts < job.maxAttempts then
          .ok (some ((JobStatement.claimNext owner leaseExpiresAt now job.jobId).sets job))
        else .ok none := by
  simp only [claimNextJob, Program.run_ofExcept_bind, valid, expires]
  rw [run_issue_bind (.selectNext now)]
  have selected : (JobStatement.selectNext now).perform catalog =
      (catalog, (firstRunnable catalog now).map fun job => (job.jobId, job.state)) := rfl
  rw [selected]
  cases isFirst : firstRunnable catalog now with
  | none => rfl
  | some job =>
    rcases firstRunnable_eq_some isFirst with ⟨member, runnable, _⟩
    have found : catalog.jobs.lookup job.jobId = some job := Table.lookup_of_mem member
    simp only [Option.map_some]
    rw [run_issue_bind (.claimNext owner leaseExpiresAt now job.jobId)]
    simp only [JobStatement.perform]
    by_cases left : job.attempts < job.maxAttempts
    · have hits : (JobStatement.claimNext owner leaseExpiresAt now job.jobId).selects job =
          true := JobStatement.claimNext_selects_iff.mpr ⟨rfl, left, runnable⟩
      rcases JobStatement.updateRows_of_selects found hits with
        ⟨_, jobs, result, looked⟩ | ⟨fails, _⟩
      · have after : jobs.lookup job.jobId =
            some ((JobStatement.claimNext owner leaseExpiresAt now job.jobId).sets job) := by
          rw [looked]
          exact if_pos rfl
        rw [result, if_pos left]
        simp only [Program.run_ofExcept_bind, ne_eq, not_true_eq_false, if_false]
        rw [run_getJob_bind]
        simp only [after]
        rfl
      · rw [claimNext_sets_check (catalog.jobs.checked job member) expiryCheck nowCheck] at fails
        cases fails
    · have missed : ∀ row, catalog.jobs.lookup job.jobId = some row →
          (JobStatement.claimNext owner leaseExpiresAt now job.jobId).selects row = false := by
        intro row rowFound
        obtain rfl : job = row := Option.some.inj (found.symm.trans rowFound)
        by_contra hits
        exact left (JobStatement.claimNext_selects_iff.mp (by simpa using hits)).2.1
      rw [JobStatement.updateRows_of_not_selects missed, if_neg left]
      rfl

theorem TakesFirstClaimable.of_none_claimable {outcome : Except PyError (Option Job)}
    (noneClaimable : ∀ job ∈ catalog.jobs.rows, job.claimable now = false)
    (noneTaken : ∀ taken, outcome ≠ .ok (some taken)) :
    TakesFirstClaimable catalog now outcome := by
  refine ⟨?_, fun taken isTaken => absurd isTaken (noneTaken taken), fun _ => noneClaimable⟩
  rintro ⟨job, member, claimable⟩
  rw [noneClaimable job member] at claimable
  cases claimable

/-- The call takes the first claimable job exactly when no job is claimable, or the first runnable
job has attempts left and the lease ends before the year 10000. -/
theorem claimNextJob_takes_first_iff (catalog : Catalog runtime) (owner : String)
    (instant : DateTime) (leaseSeconds : PyValue) (seconds : ℤ)
    (valid : Jobs.validateLeaseSeconds leaseSeconds = .ok seconds) :
    TakesFirstClaimable catalog (strftime instant)
        ((Jobs.claimNextJob owner (strftime instant) leaseSeconds).run JobStatement.perform
          catalog).2 ↔
      (∀ job ∈ catalog.jobs.rows, job.claimable (strftime instant) = false) ∨
      instant.seconds + seconds ≤ DateTime.maxSeconds ∧
        ∃ job ∈ catalog.jobs.rows, job.claimable (strftime instant) = true ∧
          ∀ other ∈ catalog.jobs.rows, other.runnable (strftime instant) = true →
            job.queueKey ≤ other.queueKey := by
  have positive := Jobs.validateLeaseSeconds_pos valid
  by_cases inRange : instant.seconds + seconds ≤ DateTime.maxSeconds
  · rcases Jobs.addSeconds_strftime_eq_ok (by omega) inRange with ⟨later, expires, _⟩
    rw [Jobs.run_claimNextJob valid expires (timestampCheck_strftime later)
      (timestampCheck_strftime instant) catalog]
    cases isFirst : firstRunnable catalog (strftime instant) with
    | none =>
      have noneClaimable : ∀ job ∈ catalog.jobs.rows, job.claimable (strftime instant) = false := by
        intro job member
        simp [Job.claimable, firstRunnable_eq_none isFirst job member]
      exact iff_of_true (.of_none_claimable noneClaimable fun taken => by simp)
        (Or.inl noneClaimable)
    | some head =>
      rcases firstRunnable_eq_some isFirst with ⟨headMem, headRuns, headFirst⟩
      by_cases left : head.attempts < head.maxAttempts
      · have claimable : head.claimable (strftime instant) = true :=
          Job.claimable_iff.mpr ⟨left, headRuns⟩
        simp only [if_pos left]
        refine iff_of_true ⟨fun _ => ⟨_, rfl⟩, ?_, fun nothing => ?_⟩
          (Or.inr ⟨inRange, head, headMem, claimable, headFirst⟩)
        · rintro taken ⟨⟩
          refine ⟨head, headMem, claimable, JobStatement.sets_sameOrigin _ head, ?_⟩
          intro other otherMem otherClaimable
          exact headFirst other otherMem (Job.claimable_iff.mp otherClaimable).2
        · cases nothing
      · simp only [if_neg left]
        constructor
        · intro takes
          exact Or.inl (takes.nothing rfl)
        · rintro (noneClaimable | ⟨_, job, member, claimable, first⟩)
          · exact .of_none_claimable noneClaimable fun taken => by simp
          · rcases Job.claimable_iff.mp claimable with ⟨jobLeft, runs⟩
            have same : job = head := Job.eq_of_queueKey_eq member headMem
              (le_antisymm (first head headMem headRuns) (headFirst job member runs))
            rw [same] at jobLeft
            exact absurd jobLeft left
  · have raises : ((Jobs.claimNextJob owner (strftime instant) leaseSeconds).run
        JobStatement.perform catalog).2 = .error .overflowError := by
      simp only [Jobs.claimNextJob, Program.run_ofExcept_bind, valid,
        Jobs.addSeconds_strftime_eq_error (not_le.mp inRange)]
    rw [raises]
    constructor
    · intro takes
      left
      intro job member
      by_contra claimable
      rcases takes.takes ⟨job, member, by simpa using claimable⟩ with ⟨taken, isTaken⟩
      cases isTaken
    · rintro (noneClaimable | ⟨fits, _⟩)
      · exact .of_none_claimable noneClaimable fun taken => by simp
      · exact absurd fits inRange

/-- `2026-08-11T14:42:00Z`. -/
def sampleInstant : DateTime := sampleMoment 42 0

/-- The sample job waits for its first attempt. -/
def waitingCatalog : Catalog .sample :=
  (runFrom (jobService .sample).serial (.initial .sample []) [.createJob .sample]).getD
    (.initial .sample [])

theorem waiting_job_taken_first : TakesFirstClaimable waitingCatalog (strftime sampleInstant)
      ((Jobs.claimNextJob "worker-a" (strftime sampleInstant) (.int 30)).run JobStatement.perform
        waitingCatalog).2 :=
  (claimNextJob_takes_first_iff waitingCatalog "worker-a" sampleInstant (.int 30) 30 rfl).mpr
    (Or.inr ⟨by decide, by decide⟩)

/-- The only attempt of `job-1` has expired, and `job-2` waits behind it. -/
def blockedCatalog : Catalog .sample := (runFrom (jobService .sample).serial (.initial .sample [])
    [.createJob { Jobs.NewJob.sample with maxAttempts := 1 },
      .claimNextJob "worker-a" "2026-08-11T14:40:00Z" (.int 30),
      .createJob
        { Jobs.NewJob.sample with
          jobId := "job-2", idempotencyKey := "key-2", now := "2026-08-11T14:41:00Z" }]).getD
    (.initial .sample [])

/-- `job-2` is claimable and is not taken. -/
theorem exhausted_job_blocks_queue : ¬TakesFirstClaimable blockedCatalog (strftime sampleInstant)
      ((Jobs.claimNextJob "worker-b" (strftime sampleInstant) (.int 30)).run JobStatement.perform
        blockedCatalog).2 := by
  intro takesFirst
  have nothing : ((Jobs.claimNextJob "worker-b" (strftime sampleInstant) (.int 30)).run
      JobStatement.perform blockedCatalog).2.toOption = some none := by decide
  have waiting : ∃ job ∈ blockedCatalog.jobs.rows,
      job.claimable (strftime sampleInstant) = true := by decide
  rcases takesFirst.takes waiting with ⟨taken, isTaken⟩
  rw [isTaken] at nothing
  cases nothing

end Reperio
