import Reperio.Jobs.Steps

/-!
# Job records over whole runs

What a row of the jobs table says about the past of any interleaved run that
began with an empty table: its attempts are the claims that succeeded, its
immutable columns are the arguments of the `create_job` that inserted it, and
its idempotency key never belonged to another job. Duplicate submissions are
settled against those columns: whatever other connections do meanwhile,
`create_or_get_job` returns the job of its key or raises without a trace.
-/

namespace Reperio

open Python Relational Concurrency

variable {runtime : Runtime}

/-! ## Attempts -/

def succeeded : Except PyError ℕ → Bool
  | .ok count => decide (count = 1)
  | .error _ => false

/-- The statement is the `UPDATE` of a claim on the job, and it succeeds. -/
def JobStatement.claims (catalog : Catalog runtime) (jobId : String) : JobStatement → Bool
  | claimPending owner now target =>
    decide (target = jobId) && succeeded (perform (claimPending owner now target) catalog).2
  | claimNext owner leaseExpiresAt now target =>
    decide (target = jobId) &&
      succeeded (perform (claimNext owner leaseExpiresAt now target) catalog).2
  | _ => false

/-- The action is a successful claim on the job. -/
def isClaim {Conn : Type} (jobId : String) (system : (jobService runtime).System Conn) :
    (jobService runtime).Action Conn → Bool
  | .start _ _ => false
  | .advance conn =>
    match nextStatement (fun _ => true) system conn with
    | some statement => statement.claims system.state jobId
    | none => false

def attemptsOf (catalog : Catalog runtime) (jobId : String) : ℤ :=
  match catalog.jobs.lookup jobId with
  | some job => job.attempts
  | none => 0

theorem succeeded_iff {reply : Except PyError ℕ} : succeeded reply = true ↔ reply = .ok 1 := by
  cases reply with
  | ok count => simp [succeeded]
  | error error => simp [succeeded]

theorem attemptsOf_updateRows (statement : JobStatement) (catalog : Catalog runtime)
    (jobId : String) {added : ℤ}
    (adds : ∀ job, (statement.sets job).attempts = job.attempts + added) :
    attemptsOf (statement.updateRows catalog).1 jobId = attemptsOf catalog jobId +
      if (decide (statement.target = jobId) && succeeded (statement.updateRows catalog).2) = true
        then added else 0 := by
  have hits : (decide (statement.target = jobId) && succeeded (statement.updateRows catalog).2) =
      true ↔ statement.target = jobId ∧ ∃ row, catalog.jobs.lookup statement.target = some row ∧
        statement.selects row = true ∧ (statement.sets row).check runtime = true := by
    rw [Bool.and_eq_true, decide_eq_true_eq, succeeded_iff, JobStatement.updateRows_reply_eq_one]
  simp only [attemptsOf, JobStatement.lookup_updateRows]
  cases found : catalog.jobs.lookup jobId with
  | none =>
    rw [if_neg]
    · rfl
    · intro hit
      rcases hits.mp hit with ⟨rfl, row, rowFound, _⟩
      rw [found] at rowFound
      cases rowFound
  | some job =>
    simp only [Option.map_some]
    by_cases written : statement.selects job = true ∧ (statement.sets job).check runtime = true
    · have isTarget : statement.target = jobId :=
        (JobStatement.target_of_selects written.1).symm.trans (Table.lookup_eq_some.mp found).2
      rw [if_pos written, if_pos (hits.mpr ⟨isTarget, job, by rw [isTarget, found], written⟩), adds]
    · rw [if_neg written, if_neg, Int.add_zero]
      intro hit
      rcases hits.mp hit with ⟨rfl, row, rowFound, rowWritten⟩
      obtain rfl : job = row := Option.some.inj (found.symm.trans rowFound)
      exact written rowWritten

variable {catalog : Catalog runtime}

theorem JobStatement.Inserts.attempts {statement : JobStatement} {job : Job}
    (inserted : Inserts catalog statement job) : job.attempts = 0 := by
  rcases inserted with ⟨_, _, _, _, _, _, _, _, isNew, _⟩
  rcases Option.map_eq_some_iff.mp isNew with ⟨jobType, _, rfl⟩
  rfl

/-- One statement adds to the attempts of a job exactly when it is a successful claim on it. -/
theorem attemptsOf_perform (statement : JobStatement) (catalog : Catalog runtime)
    (jobId : String) :
    attemptsOf (statement.perform catalog).1 jobId = attemptsOf catalog jobId +
      if statement.claims catalog jobId then 1 else 0 := by
  have unclaimed : ∀ update : JobStatement, (∀ job, (update.sets job).attempts = job.attempts + 0) →
      attemptsOf (update.updateRows catalog).1 jobId = attemptsOf catalog jobId + 0 := by
    intro update adds
    rw [attemptsOf_updateRows update catalog jobId adds, ite_self]
  cases statement with
  | claimPending owner now target =>
    have one : ∀ job, ((JobStatement.claimPending owner now target).sets job).attempts =
        job.attempts + 1 := fun _ => rfl
    exact attemptsOf_updateRows _ catalog jobId one
  | claimNext owner leaseExpiresAt now target =>
    have one : ∀ job, ((JobStatement.claimNext owner leaseExpiresAt now target).sets
        job).attempts = job.attempts + 1 := fun _ => rfl
    exact attemptsOf_updateRows _ catalog jobId one
  | insertJob id caseId jobType inputJson idempotencyKey maxAttempts now =>
    simp only [JobStatement.claims, Bool.false_eq_true, if_false, Int.add_zero, attemptsOf]
    rcases JobStatement.lookup_perform
      (.insertJob id caseId jobType inputJson idempotencyKey maxAttempts now) catalog jobId with
      same | ⟨job, _, selected, _⟩ | ⟨noRow, job, inserted, _, isNew⟩
    · rw [same]
    · cases selected
    · rw [isNew, noRow]
      exact inserted.attempts
  | heartbeat leaseExpiresAt now target owner => exact unclaimed _ fun job => (Int.add_zero _).symm
  | transition toState errorJson leaseOwner now target fromState =>
    exact unclaimed _ fun job => (Int.add_zero _).symm
  | finish nextState retryAfterAt errorJson now target =>
    exact unclaimed _ fun job => (Int.add_zero _).symm
  | selectJob target => exact (Int.add_zero _).symm
  | selectJobIdByKey key => exact (Int.add_zero _).symm
  | selectNext now => exact (Int.add_zero _).symm

theorem attempts_le_maxAttempts_perform {statement : JobStatement}
    (bounded : ∀ id job, catalog.jobs.lookup id = some job → job.attempts ≤ job.maxAttempts)
    (id : String) (job : Job) (found : (statement.perform catalog).1.jobs.lookup id = some job) :
    job.attempts ≤ job.maxAttempts := by
  refine JobStatement.perform_forall bounded ?_ ?_ id job found
  · intro old oldBounded selected
    cases statement with
    | claimPending owner now target =>
      exact Int.add_one_le_iff.mpr (JobStatement.claimPending_selects_iff.mp selected).2.2
    | claimNext owner leaseExpiresAt now target =>
      exact Int.add_one_le_iff.mpr (JobStatement.claimNext_selects_iff.mp selected).2.1
    | _ => exact oldBounded
  · intro new inserted
    rw [inserted.attempts]
    rcases inserted with ⟨_, _, _, _, _, _, _, _, _, checked, _⟩
    have positive := (Job.check_iff.mp checked).2.2.1
    omega

section Runs

variable {Conn : Type} [DecidableEq Conn]

theorem attemptsOf_step {system next : (jobService runtime).System Conn}
    {action : (jobService runtime).Action Conn} (jobId : String)
    (stepped : Service.step system action = some next) :
    attemptsOf next.state jobId =
      attemptsOf system.state jobId + if isClaim jobId system action then 1 else 0 := by
  rcases Service.step_cases stepped with ⟨conn, call, rfl, same, _⟩ |
    ⟨conn, call, history, statement, rest, rfl, running, state, _⟩
  · rw [same]
    simp [isClaim]
  · have isNext : nextStatement (fun _ => true) system conn = some statement := by
      simp [nextStatement, running]
    rw [state]
    simp only [isClaim, isNext]
    exact attemptsOf_perform statement system.state jobId

/-- The attempts of a job are the claims on it that succeeded. -/
theorem attemptsOf_eq_countSteps {start last : (jobService runtime).System Conn}
    {actions : List ((jobService runtime).Action Conn)} (jobId : String)
    (ran : runFrom Service.step start actions = some last) :
    attemptsOf last.state jobId =
      attemptsOf start.state jobId + countSteps Service.step (isClaim jobId) start actions := by
  refine runFrom_induction ?_ ?_ ran
  · simp [countSteps]
  · intro past state action next reached counted stepped
    rw [attemptsOf_step jobId stepped, counted, countSteps_snoc reached stepped]
    split <;> simp [Int.add_assoc]

end Runs

/-! ## Origins -/

/-- The immutable columns of the row are the arguments of `create_job`. -/
structure CreatedFrom (runtime : Runtime) (new : Jobs.NewJob) (row : Job) : Prop where
  jobId : row.jobId = new.jobId
  caseId : row.caseId = new.caseId
  jobType : row.jobType.text = new.jobType
  inputJson : Jobs.canonicalJson runtime new.inputPayload = .ok row.inputJson
  idempotencyKey : row.idempotencyKey = new.idempotencyKey
  maxAttempts : row.maxAttempts = new.maxAttempts
  createdAt : row.createdAt = new.now

theorem CreatedFrom.sameOrigin {new : Jobs.NewJob} {row later : Job}
    (created : CreatedFrom runtime new row) (same : row.SameOrigin later) :
    CreatedFrom runtime new later where
  jobId := same.jobId.trans created.jobId
  caseId := same.caseId.trans created.caseId
  jobType := (congrArg JobType.text same.jobType).trans created.jobType
  inputJson := by rw [same.inputJson]; exact created.inputJson
  idempotencyKey := same.idempotencyKey.trans created.idempotencyKey
  maxAttempts := same.maxAttempts.trans created.maxAttempts
  createdAt := same.createdAt.trans created.createdAt

theorem JobStatement.Inserts.createdFrom {statement : JobStatement} {call : JobCall} {job : Job}
    (inserted : Inserts catalog statement job) (allowed : call.Allows runtime statement) :
    ∃ new, (call = .createJob new ∨ call = .createOrGetJob new) ∧ CreatedFrom runtime new job := by
  rcases inserted with ⟨jobId, caseId, jobType, inputJson, key, maxAttempts, now, rfl, isNew, _⟩
  rcases Option.map_eq_some_iff.mp isNew with ⟨kind, isKind, rfl⟩
  cases allowed with
  | create new _ canonical =>
    exact ⟨new, Or.inl rfl, rfl, rfl, JobType.text_of_ofText? isKind, canonical, rfl, rfl, rfl⟩
  | createOrGet new _ canonical =>
    exact ⟨new, Or.inr rfl, rfl, rfl, JobType.text_of_ofText? isKind, canonical, rfl, rfl, rfl⟩

/-- Rows stay in the table, with their immutable columns. -/
def RowsPersist (first last : Catalog runtime) : Prop := ∀ id row, first.jobs.lookup id = some row →
    ∃ later, last.jobs.lookup id = some later ∧ row.SameOrigin later

theorem RowsPersist.refl (catalog : Catalog runtime) : RowsPersist catalog catalog :=
  fun _ row found => ⟨row, found, .refl row⟩

theorem RowsPersist.trans {first second third : Catalog runtime} (one : RowsPersist first second)
    (two : RowsPersist second third) : RowsPersist first third := by
  intro id row found
  rcases one id row found with ⟨middle, middleFound, same⟩
  rcases two id middle middleFound with ⟨last, lastFound, stillSame⟩
  exact ⟨last, lastFound, same.trans stillSame⟩

theorem RowsPersist.perform (statement : JobStatement) (catalog : Catalog runtime) :
    RowsPersist catalog (statement.perform catalog).1 := by
  intro id row found
  rcases JobStatement.lookup_perform statement catalog id with
    same | ⟨job, jobFound, _, changed⟩ | ⟨noRow, _⟩
  · exact ⟨row, same.trans found, .refl row⟩
  · obtain rfl : row = job := Option.some.inj (found.symm.trans jobFound)
    exact ⟨_, changed, JobStatement.sets_sameOrigin statement row⟩
  · rw [found] at noRow
    cases noRow

section Runs

variable {Conn : Type} [DecidableEq Conn]

theorem RowsPersist.step {system next : (jobService runtime).System Conn}
    {action : (jobService runtime).Action Conn}
    (stepped : Service.step system action = some next) : RowsPersist system.state next.state := by
  rcases Service.step_cases stepped with ⟨_, _, _, same, _⟩ |
    ⟨_, _, _, statement, _, _, _, state, _⟩
  · rw [same]
    exact .refl _
  · rw [state]
    exact .perform statement system.state

variable {first : (jobService runtime).System Conn}
    {actions : List ((jobService runtime).Action Conn)}

theorem RowsPersist.run {last : (jobService runtime).System Conn}
    (ran : runFrom Service.step first actions = some last) : RowsPersist first.state last.state :=
  runFrom_induction (.refl _) (fun _ _ _ _ _ kept stepped => kept.trans (.step stepped)) ran

/-- Among the actions of a run is the `INSERT` of a `create_job` or `create_or_get_job` that put the
job into the table, and the columns of the row are its arguments. -/
def Created (start : (jobService runtime).System Conn)
    (actions : List ((jobService runtime).Action Conn)) (row : Job) : Prop :=
  ∃ past future conn call statement new system next,
    actions = past ++ .advance conn :: future ∧ runFrom Service.step start past = some system ∧
    system.Pending conn call statement ∧ (call = .createJob new ∨ call = .createOrGetJob new) ∧
    Service.step system (.advance conn) = some next ∧
    system.state.jobs.lookup row.jobId = none ∧
    (next.state.jobs.lookup row.jobId).isSome = true ∧ CreatedFrom runtime new row

theorem Created.snoc {start : (jobService runtime).System Conn}
    {actions : List ((jobService runtime).Action Conn)} {row later : Job}
    (created : Created start actions row) (same : row.SameOrigin later)
    (action : (jobService runtime).Action Conn) : Created start (actions ++ [action]) later := by
  rcases created with ⟨past, future, conn, call, statement, new, system, next, rfl, reached,
    pending, isCreate, stepped, noRow, isRow, from_⟩
  refine ⟨past, future ++ [action], conn, call, statement, new, system, next, by simp, reached,
    pending, isCreate, stepped, ?_, ?_, from_.sameOrigin same⟩
  · rw [same.jobId, noRow]
  · rw [same.jobId, isRow]

/-- Every row of a table that was empty at the start was put there by a `create_job`. -/
theorem created_of_runFrom (noJobs : catalog.jobs.rows = [])
    {last : (jobService runtime).System Conn}
    (ran : runFrom Service.step ((jobService runtime).idle Conn catalog) actions = some last) :
    ∀ id row, last.state.jobs.lookup id = some row →
      Created ((jobService runtime).idle Conn catalog) actions row := by
  refine runFrom_induction ?_ ?_ ran
  · intro id row found
    have member := (Table.lookup_eq_some.mp found).1
    simp only [Service.idle, noJobs] at member
    cases member
  · intro past system action next reached created stepped id row found
    have follows : system.Follows (JobCall.Allows runtime) :=
      invariant_of_runFrom (fun _ _ _ => JobCall.follows_step) (Service.follows_idle _ _) reached
    rcases follows.state_cases stepped with same |
      ⟨conn, call, statement, rfl, pending, allowed, performed⟩
    · rw [same] at found
      exact (created id row found).snoc (.refl row) action
    · have rowId : row.jobId = id := (Table.lookup_eq_some.mp found).2
      have inNext := found
      rw [performed] at found
      rcases JobStatement.lookup_perform statement system.state id with
        same | ⟨old, oldFound, _, written⟩ | ⟨noRow, new, inserted, _, isNew⟩
      · exact (created id row (same.symm.trans found)).snoc (.refl row) _
      · obtain rfl : statement.sets old = row := Option.some.inj (written.symm.trans found)
        exact (created id old oldFound).snoc (JobStatement.sets_sameOrigin statement old) _
      · obtain rfl : new = row := Option.some.inj (isNew.symm.trans found)
        rcases inserted.createdFrom allowed with ⟨arguments, isCreate, from_⟩
        refine ⟨past, [], conn, call, statement, arguments, system, next, rfl, reached, pending,
          isCreate, stepped, ?_, ?_, from_⟩
        · rw [rowId, noRow]
        · rw [rowId, inNext]
          rfl

/-- Two jobs with one idempotency key, at any two times of a run, are the same job. -/
theorem sameOrigin_of_idempotencyKey {last : (jobService runtime).System Conn}
    (ran : runFrom Service.step first actions = some last) {one two : Job}
    (oneMem : one ∈ first.state.jobs.rows) (twoMem : two ∈ last.state.jobs.rows)
    (sameKey : one.idempotencyKey = two.idempotencyKey) : one.SameOrigin two := by
  rcases RowsPersist.run ran one.jobId one (Table.lookup_of_mem oneMem) with ⟨later, found, same⟩
  have key : later.idempotencyKey = two.idempotencyKey := same.idempotencyKey.trans sameKey
  have isTwo : later = two :=
    last.state.jobs.eq_of_clash (Table.lookup_eq_some.mp found).1 twoMem (Or.inr key)
      (Or.inr key.symm)
  exact isTwo ▸ same

end Runs

/-! ## Duplicate submissions -/

/-- How `create_or_get_job` ends: with the job of its key, which matches the submission, or with an
exception after statements that changed nothing. -/
def SettlesSubmission (runtime : Runtime) : (call : JobCall) →
    List (Catalog runtime × Catalog runtime) → Except PyError call.Result → Catalog runtime → Prop
  | .createOrGetJob new, _, .ok job, catalog =>
    job.idempotencyKey = new.idempotencyKey ∧ job.jobType.text = new.jobType ∧
      job.caseId = new.caseId ∧
      Jobs.canonicalJson runtime new.inputPayload = .ok job.inputJson ∧
      ∃ row, catalog.jobs.lookup job.jobId = some row ∧ job.SameOrigin row
  | .createOrGetJob _, history, .error _, _ => ∀ effect ∈ history, effect.2 = effect.1
  | _, _, _, _ => True

section Ensures

variable {α : Type}
  {post : List (Catalog runtime × Catalog runtime) → Except PyError α → Catalog runtime → Prop}

variable {history : List (Catalog runtime × Catalog runtime)}

theorem ensures_issue_bind (statement : JobStatement) {rest : statement.Reply → JobProgram α}
    {catalog : Catalog runtime}
    (ensures : ∀ later, RowsPersist catalog later →
      (jobService runtime).Ensures RowsPersist post (rest (statement.perform later).2)
        ((later, (statement.perform later).1) :: history) (statement.perform later).1) :
    (jobService runtime).Ensures RowsPersist post (Jobs.issue statement >>= rest) history catalog :=
  ensures

/-- `get_job` changes nothing; it goes on with the row or raises. -/
theorem ensures_getJob_bind {jobId : String} {rest : Job → JobProgram α} {catalog : Catalog runtime}
    (finds : ∀ later job, RowsPersist catalog later → later.jobs.lookup jobId = some job →
      (jobService runtime).Ensures RowsPersist post (rest job) ((later, later) :: history) later)
    (misses : ∀ later error last, RowsPersist catalog later → later.jobs.lookup jobId = none →
      post ((later, later) :: history) (.error error) last) :
    (jobService runtime).Ensures RowsPersist post (Jobs.getJob jobId >>= rest) history catalog := by
  intro later moved
  have read : (jobService runtime).perform (.selectJob jobId) later =
      (later, later.jobs.lookup jobId) := rfl
  rw [read]
  cases found : later.jobs.lookup jobId with
  | none => exact fun last _ => misses later _ last moved found
  | some job => exact finds later job moved found

end Ensures

theorem getExisting_ensures {new : Jobs.NewJob} {inputJson : String} (error : PyError)
    (canonical : Jobs.canonicalJson runtime new.inputPayload = .ok inputJson)
    {history : List (Catalog runtime × Catalog runtime)}
    (unchanged : ∀ effect ∈ history, effect.2 = effect.1) (catalog : Catalog runtime) :
    (jobService runtime).Ensures RowsPersist (SettlesSubmission runtime (.createOrGetJob new))
      (Jobs.getExisting new inputJson error) history catalog := by
  have still : ∀ (later : Catalog runtime) (past : List (Catalog runtime × Catalog runtime)),
      (∀ effect ∈ past, effect.2 = effect.1) →
      ∀ effect ∈ (later, later) :: past, effect.2 = effect.1 := by
    intro later past same effect member
    rcases List.mem_cons.mp member with rfl | older
    · rfl
    · exact same effect older
  cases error with
  | integrityError =>
    apply ensures_issue_bind (.selectJobIdByKey new.idempotencyKey)
    intro later _
    have read : JobStatement.perform (.selectJobIdByKey new.idempotencyKey) later = (later,
        (later.jobs.rows.find? fun job =>
          decide (job.idempotencyKey = new.idempotencyKey)).map Job.jobId) := rfl
    rw [read]
    cases holder : later.jobs.rows.find? fun job =>
        decide (job.idempotencyKey = new.idempotencyKey) with
    | none => exact fun last _ => still later history unchanged
    | some existing =>
      have isHolder : existing.idempotencyKey = new.idempotencyKey := by
        simpa using List.find?_some holder
      have found : later.jobs.lookup existing.jobId = some existing :=
        Table.lookup_of_mem (List.mem_of_find?_eq_some holder)
      apply ensures_getJob_bind
      · intro evenLater job moved jobFound
        rcases moved existing.jobId existing found with ⟨row, rowFound, same⟩
        obtain rfl : row = job := Option.some.inj (rowFound.symm.trans jobFound)
        split
        · exact fun last _ => still evenLater _ (still later history unchanged)
        · rename_i matching
          push Not at matching
          rcases matching with ⟨jobType, caseId, input⟩
          intro last persists
          rcases persists _ _ rowFound with ⟨lastRow, lastFound, lastSame⟩
          refine ⟨same.idempotencyKey.trans isHolder, jobType, caseId, by rw [input, canonical],
            lastRow, ?_, lastSame⟩
          rw [same.jobId, lastFound]
      · intro evenLater error last _ _
        exact still evenLater _ (still later history unchanged)
  | _ => exact fun later _ => unchanged

theorem createOrGetJob_ensures (new : Jobs.NewJob) (catalog : Catalog runtime) :
    (jobService runtime).Ensures RowsPersist (SettlesSubmission runtime (.createOrGetJob new))
      (Jobs.createOrGetJob runtime new) [] catalog := by
  rw [Jobs.createOrGetJob]
  cases canonical : Jobs.canonicalJson runtime new.inputPayload with
  | error error => exact fun _ _ _ member => by cases member
  | ok inputJson =>
    simp only [Program.ofExcept, Program.done_bind, Jobs.createJob, canonical]
    cases Jobs.bindInteger new.maxAttempts with
    | error error => exact getExisting_ensures error canonical (by simp) catalog
    | ok _ =>
      intro later _
      have inserts : (jobService runtime).perform (.insertJob new.jobId new.caseId new.jobType
          inputJson new.idempotencyKey new.maxAttempts new.now) later =
          JobStatement.insertRow later (JobStatement.newRow? new.jobId new.caseId new.jobType
            inputJson new.idempotencyKey new.maxAttempts new.now) := rfl
      rw [inserts]
      rcases JobStatement.insertRow_cases later (JobStatement.newRow? new.jobId new.caseId
        new.jobType inputJson new.idempotencyKey new.maxAttempts new.now) with
        failed | ⟨job, jobs, isNew, inserted, result⟩
      · rw [failed]
        exact getExisting_ensures .integrityError canonical (by simp) later
      · rw [result]
        rcases Option.map_eq_some_iff.mp isNew with ⟨jobType, isType, rfl⟩
        have found : jobs.lookup new.jobId = some _ :=
          (Table.lookup_insert inserted new.jobId).trans (if_pos rfl)
        -- `get_job` finds the new row, however far others have moved the job on
        intro evenLater moved
        have read : (jobService runtime).perform (.selectJob new.jobId) evenLater =
            (evenLater, evenLater.jobs.lookup new.jobId) := rfl
        rw [read]
        rcases moved new.jobId _ found with ⟨row, rowFound, same⟩
        rw [rowFound]
        intro last persists
        rcases persists _ _ rowFound with ⟨lastRow, lastFound, lastSame⟩
        refine ⟨same.idempotencyKey, ?_, same.caseId, ?_, lastRow, ?_, lastSame⟩
        · rw [same.jobType]
          exact JobType.text_of_ofText? isType
        · rw [canonical, same.inputJson]
        · rw [same.jobId]
          exact lastFound

section Runs

variable {Conn : Type} [DecidableEq Conn]

/-- In every state of every run, all submissions that have ended are settled. -/
theorem ensuring_of_runFrom {actions : List ((jobService runtime).Action Conn)}
    {last : (jobService runtime).System Conn}
    (ran : runFrom Service.step ((jobService runtime).idle Conn catalog) actions = some last) :
    last.Ensuring RowsPersist (SettlesSubmission runtime) := by
  refine invariant_of_runFrom ?_ ?_ ran
  · intro system action next ensuring stepped
    have trans : ∀ first second third : Catalog runtime, RowsPersist first second →
        RowsPersist second third → RowsPersist first third := fun _ _ _ => RowsPersist.trans
    refine ensuring.step RowsPersist.refl trans RowsPersist.perform ?_ stepped
    intro call
    cases call with
    | createOrGetJob new => exact createOrGetJob_ensures new system.state
    | _ => exact Service.ensures_of_forall (fun _ _ _ => trivial) _ _ _
  · intro conn thread found
    cases found

/-- In every state of every interleaved run from an empty table: attempts are bounded and count the
successful claims, rows are as they were created, an idempotency key belongs to one job for ever,
and `create_or_get_job` has returned the job of its key or raised without changing a row. -/
theorem job_records_sound (catalog : Catalog runtime) (noJobs : catalog.jobs.rows = [])
    (actions : List ((jobService runtime).Action Conn)) (last : (jobService runtime).System Conn)
    (ran : runFrom Service.step ((jobService runtime).idle Conn catalog) actions = some last) :
    (∀ row ∈ last.state.jobs.rows, row.attempts ≤ row.maxAttempts ∧
      row.attempts = countSteps Service.step (isClaim row.jobId)
        ((jobService runtime).idle Conn catalog) actions ∧
      Created ((jobService runtime).idle Conn catalog) actions row) ∧
    (∀ past future system, actions = past ++ future →
      runFrom Service.step ((jobService runtime).idle Conn catalog) past = some system →
      ∀ one ∈ system.state.jobs.rows, ∀ two ∈ last.state.jobs.rows,
        one.idempotencyKey = two.idempotencyKey → one.SameOrigin two) ∧
    (∀ conn new history job, last.threads conn = some ⟨.createOrGetJob new, history, .done job⟩ →
        job.idempotencyKey = new.idempotencyKey ∧ job.jobType.text = new.jobType ∧
        job.caseId = new.caseId ∧
        Jobs.canonicalJson runtime new.inputPayload = .ok job.inputJson ∧
        ∃ row, last.state.jobs.lookup job.jobId = some row ∧ job.SameOrigin row) ∧
    (∀ conn new history error,
      last.threads conn = some ⟨.createOrGetJob new, history, .raise error⟩ →
        ∀ effect ∈ history, effect.2 = effect.1) := by
  have ensuring := ensuring_of_runFrom ran
  have noLookup : ∀ id, catalog.jobs.lookup id = none := by
    intro id
    simp [Table.lookup, noJobs]
  refine ⟨?_, ?_, ?_, ?_⟩
  · intro row member
    have found := Table.lookup_of_mem member
    refine ⟨?_, ?_, created_of_runFrom noJobs ran _ row found⟩
    · have bounded : ∀ id job, last.state.jobs.lookup id = some job →
          job.attempts ≤ job.maxAttempts := by
        refine runFrom_induction ?_ ?_ ran
        · intro id job isRow
          rw [show (Service.idle (jobService runtime) Conn catalog).state.jobs.lookup id = none from
            noLookup id] at isRow
          cases isRow
        · intro past system action next reached bounded stepped id job isRow
          rcases Service.step_cases stepped with ⟨_, _, _, same, _⟩ |
            ⟨_, _, _, statement, _, _, _, state, _⟩
          · rw [same] at isRow
            exact bounded id job isRow
          · rw [state] at isRow
            exact attempts_le_maxAttempts_perform bounded id job isRow
      exact bounded _ row found
    · have counted := attemptsOf_eq_countSteps row.jobId ran
      have atStart : attemptsOf (Service.idle (jobService runtime) Conn catalog).state row.jobId =
          0 := by
        simp only [Service.idle, attemptsOf, noLookup]
      have atEnd : attemptsOf last.state row.jobId = row.attempts := by
        have isRow : last.state.jobs.lookup row.jobId = some row := found
        simp only [attemptsOf, isRow]
      rw [atEnd, atStart, Int.zero_add] at counted
      exact counted
  · rintro past future system rfl reached one oneMem two twoMem sameKey
    rcases runFrom_append.mp ran with ⟨middle, middleReached, rest⟩
    obtain rfl : system = middle := Option.some.inj (reached.symm.trans middleReached)
    exact sameOrigin_of_idempotencyKey rest oneMem twoMem sameKey
  · intro conn new history job isDone
    exact ensuring conn _ isDone last.state (.refl _)
  · intro conn new history error isRaised
    exact ensuring conn _ isRaised last.state (.refl _)

end Runs

/-- A job is submitted twice from two connections and claimed in between. -/
def duplicateSubmission : List ((jobService .sample).Action ℕ) :=
  [.start 0 (.createOrGetJob .sample), .start 1 (.createOrGetJob .sample), .advance 0, .advance 1,
    .start 2 (.claimNextJob "worker-a" "2026-08-11T14:40:00Z" (.int 30)), .advance 2, .advance 2,
    .advance 0, .advance 1, .advance 1]

theorem duplicate_submission_counted_once :
    ∃ last, runFrom Service.step ((jobService .sample).idle ℕ (.initial .sample []))
        duplicateSubmission = some last ∧
      last.state.jobs.rows.map Job.attempts = [1] ∧
      ∀ row ∈ last.state.jobs.rows, row.attempts = countSteps Service.step (isClaim row.jobId)
        ((jobService .sample).idle ℕ (.initial .sample [])) duplicateSubmission := by
  refine ⟨_, (Option.some_get (by decide)).symm, by decide, fun row member => ?_⟩
  exact ((job_records_sound (.initial .sample []) rfl duplicateSubmission _
    (Option.some_get (by decide)).symm).1 row member).2.1

end Reperio
