import Mathlib.Data.Prod.Lex
import Reperio.Catalog.Schema
import Reperio.Concurrency.Interleaving

/-!
# The durable job state machine

`job_state.py`: every SQL statement the module issues, as one atomic query on
the catalog, and every function of the module as the program of its
statements. Catalog connections run in autocommit, so a statement commits on
its own, `with connection` groups nothing, and the statements of a function
may be separated by those of other connections.

A `SELECT` cannot fail. An `INSERT` or `UPDATE` that breaks a constraint
raises `IntegrityError` and changes nothing.
-/

namespace Reperio

open Python Relational Concurrency

/-- `TERMINAL_STATES`. -/
def terminalStates : List JobState := [.completed, .completedWarning, .failed, .cancelled]

/-- The job has ended. -/
def JobState.isTerminal (state : JobState) : Bool := decide (state ∈ terminalStates)

/-- `MAX_LEASE_SECONDS`. -/
def maxLeaseSeconds : ℤ := 24 * 60 * 60

/-- `ALLOWED_TRANSITIONS`. -/
def allowedTransitions : JobState → List JobState
  | .pending => [.leased, .cancelled]
  | .leased => [.running, .pending, .retrying, .failed, .cancelled]
  | .running => [.paused, .retrying, .completed, .completedWarning, .failed, .cancelled]
  | .paused => [.running, .cancelled]
  | .retrying => [.pending, .failed, .cancelled]
  | .completed => []
  | .completedWarning => []
  | .failed => []
  | .cancelled => []

/-- `RetryPolicy`: the bounds that `__post_init__` enforces are part of the type. -/
structure RetryPolicy where
  baseDelaySeconds : ℤ := 30
  maxDelaySeconds : ℤ := 300
  base_pos : 0 < baseDelaySeconds := by decide
  base_le_max : baseDelaySeconds ≤ maxDelaySeconds := by decide

instance neZero_sixty : NeZero (60 : ℕ) := ⟨by decide⟩

/-- A moment of `2026-08-11T14`, for concrete runs. -/
def sampleMoment (minute second : Fin 60) : DateTime :=
  ⟨2026, 8, 11, 14, minute, second, by decide, by decide, by decide, by decide, by decide,
    by decide, by decide, minute.isLt, second.isLt⟩

/-- `RetryPolicy()`. -/
def RetryPolicy.standard : RetryPolicy := {}

/-! ## Statements -/

/-- The condition under which `claim_next_job` takes a job, except for the number of attempts.
A comparison with `NULL` is not true. -/
def Job.runnable (now : String) (job : Job) : Bool := decide (job.state = .pending) ||
    decide (job.state = .retrying) && job.retryAfterAt.any (fun time => decide (time ≤ now)) ||
    (decide (job.state = .leased) || decide (job.state = .running)) &&
      job.leaseExpiresAt.any (fun time => decide (time < now))

/-- The statements that the job service issues. -/
inductive JobStatement where
  | insertJob (jobId : String) (caseId : Option String) (jobType inputJson idempotencyKey : String)
      (maxAttempts : ℤ) (now : String)
  | selectJob (jobId : String)
  | selectJobIdByKey (idempotencyKey : String)
  | claimPending (owner now jobId : String)
  | selectNext (now : String)
  | claimNext (owner leaseExpiresAt now jobId : String)
  | heartbeat (leaseExpiresAt now jobId owner : String)
  | transition (toState : JobState) (errorJson leaseOwner : Option String) (now jobId : String)
      (fromState : JobState)
  | finish (nextState : JobState) (retryAfterAt errorJson : Option String) (now jobId : String)
  deriving DecidableEq

namespace JobStatement

/-- Rows for a `SELECT`, the number of changed rows or an error for the others. -/
@[reducible]
def Reply : JobStatement → Type
  | insertJob .. => Except PyError ℕ
  | selectJob .. => Option Job
  | selectJobIdByKey .. => Option String
  | claimPending .. => Except PyError ℕ
  | selectNext .. => Option (String × JobState)
  | claimNext .. => Except PyError ℕ
  | heartbeat .. => Except PyError ℕ
  | transition .. => Except PyError ℕ
  | finish .. => Except PyError ℕ

/-- The `WHERE` clause of an `UPDATE`; the other statements select no row to change. -/
def selects : JobStatement → Job → Bool
  | claimPending _ _ jobId, job =>
    decide (job.jobId = jobId) && decide (job.state = .pending) &&
      decide (job.attempts < job.maxAttempts)
  | claimNext _ _ now jobId, job =>
    decide (job.jobId = jobId) && decide (job.attempts < job.maxAttempts) && job.runnable now
  | heartbeat _ now jobId owner, job =>
    decide (job.jobId = jobId) && decide (job.leaseOwner = some owner) &&
      (decide (job.state = .leased) || decide (job.state = .running)) &&
      job.leaseExpiresAt.any (fun time => decide (now ≤ time))
  | transition _ _ _ _ jobId fromState, job =>
    decide (job.jobId = jobId) && decide (job.state = fromState)
  | finish _ _ _ _ jobId, job => decide (job.jobId = jobId)
  | _, _ => false

/-- The `SET` clause of an `UPDATE`. -/
def sets : JobStatement → Job → Job
  | claimPending owner now _, job =>
    { job with
      state := .leased, leaseOwner := some owner, attempts := job.attempts + 1,
      updatedAt := now }
  | claimNext owner leaseExpiresAt now _, job =>
    { job with
      state := .leased, leaseOwner := some owner, leaseExpiresAt := some leaseExpiresAt,
      retryAfterAt := none, attempts := job.attempts + 1, updatedAt := now }
  | heartbeat leaseExpiresAt now _ _, job =>
    { job with leaseExpiresAt := some leaseExpiresAt, updatedAt := now }
  | transition toState errorJson leaseOwner now _ _, job =>
    { job with
      state := toState, errorJson, leaseOwner, leaseExpiresAt := none, updatedAt := now }
  | finish nextState retryAfterAt errorJson now _, job =>
    { job with
      state := nextState, leaseOwner := none, leaseExpiresAt := none, retryAfterAt, errorJson,
      updatedAt := now }
  | _, job => job

/-- The row of `create_job`'s `INSERT`; `None` when the job type is not one of the enumeration. -/
def newRow? (jobId : String) (caseId : Option String) (jobType inputJson idempotencyKey : String)
    (maxAttempts : ℤ) (now : String) : Option Job :=
  (JobType.ofText? jobType).map fun jobType =>
    { jobId, caseId, jobType, state := .pending, inputJson, idempotencyKey, attempts := 0,
      maxAttempts, leaseOwner := none, leaseExpiresAt := none, retryAfterAt := none,
      errorJson := none, createdAt := now, updatedAt := now }

variable {runtime : Runtime}

/-- `INSERT` with the foreign key of `case_id`. -/
def insertRow (catalog : Catalog runtime) (row : Option Job) : Catalog runtime × Except PyError ℕ :=
  match row with
  | none => (catalog, .error .integrityError)
  | some row =>
    if row.caseId.all fun case => decide (case ∈ catalog.scanCases) then
      match catalog.jobs.insert row with
      | some jobs => ({ catalog with jobs }, .ok 1)
      | none => (catalog, .error .integrityError)
    else (catalog, .error .integrityError)

/-- An update with its row count. -/
def updateRows (catalog : Catalog runtime) (statement : JobStatement) :
    Catalog runtime × Except PyError ℕ :=
  match catalog.jobs.update statement.selects statement.sets with
  | some (jobs, count) => ({ catalog with jobs }, .ok count)
  | none => (catalog, .error .integrityError)

/-- What a statement does to the tables. -/
def perform : (statement : JobStatement) → Catalog runtime → Catalog runtime × statement.Reply
  | insertJob jobId caseId jobType inputJson idempotencyKey maxAttempts now, catalog =>
    insertRow catalog
      (newRow? jobId caseId jobType inputJson idempotencyKey maxAttempts now)
  | selectJob jobId, catalog => (catalog, catalog.jobs.lookup jobId)
  | selectJobIdByKey idempotencyKey, catalog =>
    (catalog, (catalog.jobs.rows.find? fun job =>
      decide (job.idempotencyKey = idempotencyKey)).map Job.jobId)
  | selectNext now, catalog =>
    (catalog, ((orderLimit (fun job : Job => toLex (job.createdAt, job.jobId)) 1
      (catalog.jobs.rows.filter (Job.runnable now))).head?).map
        fun job => (job.jobId, job.state))
  | claimPending owner now jobId, catalog => updateRows catalog (claimPending owner now jobId)
  | claimNext owner leaseExpiresAt now jobId, catalog =>
    updateRows catalog (claimNext owner leaseExpiresAt now jobId)
  | heartbeat leaseExpiresAt now jobId owner, catalog =>
    updateRows catalog (heartbeat leaseExpiresAt now jobId owner)
  | transition toState errorJson leaseOwner now jobId fromState, catalog =>
    updateRows catalog (transition toState errorJson leaseOwner now jobId fromState)
  | finish nextState retryAfterAt errorJson now jobId, catalog =>
    updateRows catalog (finish nextState retryAfterAt errorJson now jobId)

end JobStatement

/-! ## Functions -/

/-- A call as the statements it issues. -/
abbrev JobProgram := Program JobStatement JobStatement.Reply PyError

namespace Jobs

/-- One statement. -/
def issue (statement : JobStatement) : JobProgram statement.Reply := Program.query statement

/-- `_canonical_json` of this module: what `json.dumps` refuses becomes a `JobStateError`. -/
def canonicalJson (runtime : Runtime) (payload : PyDict) : Except PyError String :=
  match dumps false runtime.recursionLimit (.dict payload) with
  | .ok text => .ok text
  | .error _ => .error (.jobStateError "job payload is not canonical JSON")

/-- The time so many seconds later. -/
def addSeconds (timestamp : String) (seconds : ℤ) : Except PyError String := do
  let parsed ← strptime timestamp
  let later ← parsed.add seconds
  return strftime later

/-- How long a retry waits. -/
def retryDelaySeconds (attempts : ℤ) (retryPolicy : RetryPolicy) : ℤ :=
  min (retryPolicy.baseDelaySeconds * 2 ^ (max (attempts - 1) 0).toNat)
    retryPolicy.maxDelaySeconds

/-- A length of a lease, or an error. -/
def validateLeaseSeconds : PyValue → Except PyError ℤ
  | .int value =>
    if 0 < value ∧ value ≤ maxLeaseSeconds then .ok value
    else .error (.jobStateError "lease_seconds is outside the supported bound")
  | _ => .error (.jobStateError "lease_seconds is outside the supported bound")

/-- The target, if it may be reached. -/
def validateTransition (fromState : JobState) (toState : String) : Except PyError JobState :=
  match JobState.ofText? toState with
  | none => .error (.jobStateError ("unknown target state " ++ toState))
  | some target =>
    if target ∈ allowedTransitions fromState then .ok target
    else .error (.jobStateError
      ("invalid job transition " ++ fromState.text ++ " -> " ++ toState))

/-- SQLite's `INTEGER` is a signed 64-bit number; binding a larger one raises. -/
def bindInteger (value : ℤ) : Except PyError Unit :=
  if value.toNat ≤ 9223372036854775807 ∧ (-value).toNat ≤ 9223372036854775808 then .ok ()
  else .error .overflowError

/-- The job with this id. -/
def getJob (jobId : String) : JobProgram Job := do
  match ← issue (.selectJob jobId) with
  | none => throw (.jobStateError ("unknown job " ++ jobId))
  | some job => return job

/-- The arguments of `create_job` and `create_or_get_job`. -/
structure NewJob where
  jobId : String
  jobType : String
  inputPayload : PyDict
  idempotencyKey : String
  now : String
  caseId : Option String := none
  maxAttempts : ℤ := 1

variable (runtime : Runtime)

/-- A new job is stored. -/
def createJob (new : NewJob) : JobProgram Unit := do
  let inputJson ← Program.ofExcept (canonicalJson runtime new.inputPayload)
  Program.ofExcept (bindInteger new.maxAttempts)
  let _ ← Program.ofExcept (← issue (.insertJob new.jobId new.caseId new.jobType inputJson
    new.idempotencyKey new.maxAttempts new.now))

/-- The handler of `create_or_get_job`: the key may be taken by a job that matches. -/
def getExisting (new : NewJob) (inputJson : String) : PyError → JobProgram Job
  | .integrityError => do
      match ← issue (.selectJobIdByKey new.idempotencyKey) with
      | none => throw .integrityError
      | some existing => do
          let job ← getJob existing
          if job.jobType.text ≠ new.jobType ∨ job.caseId ≠ new.caseId ∨
              job.inputJson ≠ inputJson then
            throw (.jobStateError "idempotency key reused for different job input")
          else return job
  | error => throw error

/-- A new job, or the one with its key. -/
def createOrGetJob (new : NewJob) : JobProgram Job := do
  let inputJson ← Program.ofExcept (canonicalJson runtime new.inputPayload)
  tryCatch
    (do
      createJob runtime new
      getJob new.jobId)
    (getExisting new inputJson)

/-- A pending job is leased, if it can be. -/
def claimPendingJob (jobId owner now : String) : JobProgram Bool := do
  let rowcount ← Program.ofExcept (← issue (.claimPending owner now jobId))
  return decide (rowcount = 1)

/-- The next job that can be run is leased. -/
def claimNextJob (owner now : String) (leaseSeconds : PyValue) : JobProgram (Option Job) := do
  let seconds ← Program.ofExcept (validateLeaseSeconds leaseSeconds)
  let leaseExpiresAt ← Program.ofExcept (addSeconds now seconds)
  match ← issue (.selectNext now) with
  | none => return none
  | some (jobId, _) => do
      let rowcount ← Program.ofExcept
        (← issue (.claimNext owner leaseExpiresAt now jobId))
      if rowcount ≠ 1 then return none
      else return some (← getJob jobId)

/-- The holder renews its lease. -/
def heartbeatJob (jobId owner now : String) (leaseSeconds : PyValue) : JobProgram Bool := do
  let seconds ← Program.ofExcept (validateLeaseSeconds leaseSeconds)
  let leaseExpiresAt ← Program.ofExcept (addSeconds now seconds)
  let rowcount ← Program.ofExcept
    (← issue (.heartbeat leaseExpiresAt now jobId owner))
  return decide (rowcount = 1)

/-- The error as it is stored. -/
def errorText : Option PyDict → Except PyError (Option String)
  | none => .ok none
  | some error => (canonicalJson runtime error).map some

/-- The job is moved to another state. -/
def transitionJob (jobId toState now : String) (error : Option PyDict) : JobProgram Unit := do
  let job ← getJob jobId
  let target ← Program.ofExcept (validateTransition job.state toState)
  let errorJson ← Program.ofExcept (errorText runtime error)
  let leaseOwner := if target ≠ .leased then none else job.leaseOwner
  let rowcount ← Program.ofExcept
    (← issue (.transition target errorJson leaseOwner now jobId job.state))
  if rowcount ≠ 1 then
    throw (.jobStateError "job state changed before transition could be committed")

/-- The job is paused. -/
def safeStopJob (jobId now : String) : JobProgram Unit := transitionJob runtime jobId "paused" now
    (some [(.str "kind", .str "safe-stop"), (.str "retryable", .bool true)])

/-- The job is retried, or fails for good. -/
def recordProcessDeath (jobId now : String) : JobProgram JobState := do
  let job ← getJob jobId
  if job.state ≠ .leased ∧ job.state ≠ .running then
    throw (.jobStateError ("process death cannot be recorded from " ++ job.state.text))
  else do
    let nextState := if job.attempts < job.maxAttempts then JobState.retrying else .failed
    transitionJob runtime jobId nextState.text now
      (some [(.str "kind", .str "process-death"),
        (.str "retryable", .bool (decide (nextState = .retrying))),
        (.str "attempts", .int job.attempts), (.str "max_attempts", .int job.maxAttempts)])
    return nextState

/-- A job that waits is pending again. -/
def releaseForRetry (jobId now : String) : JobProgram Unit :=
  transitionJob runtime jobId "pending" now none

/-- An attempt fails, for now or for good. -/
def finishAttempt (jobId now errorClass : String) (retryPolicy : RetryPolicy) :
    JobProgram JobState := do
  if errorClass ≠ "transient" ∧ errorClass ≠ "permanent" then
    throw (.jobStateError ("unknown error class " ++ errorClass))
  else do
    let job ← getJob jobId
    if job.state ≠ .leased ∧ job.state ≠ .running then
      throw (.jobStateError ("attempt cannot finish from " ++ job.state.text))
    else do
      let retryable := decide (errorClass = "transient" ∧ job.attempts < job.maxAttempts)
      let nextState := if retryable then JobState.retrying else .failed
      let retryAfterAt ← Program.ofExcept
        (if retryable then
          (addSeconds now (retryDelaySeconds job.attempts retryPolicy)).map some
        else .ok none)
      let errorJson ← Program.ofExcept (canonicalJson runtime
        [(.str "attempts", .int job.attempts), (.str "class", .str errorClass),
          (.str "kind", .str "attempt-failed"), (.str "retryable", .bool retryable)])
      let _ ← Program.ofExcept
        (← issue (.finish nextState retryAfterAt (some errorJson) now jobId))
      return nextState

end Jobs

/-! ## The service -/

open Jobs in
/-- The calls of the job service. -/
inductive JobCall where
  | createJob (new : NewJob)
  | createOrGetJob (new : NewJob)
  | claimPendingJob (jobId owner now : String)
  | claimNextJob (owner now : String) (leaseSeconds : PyValue)
  | heartbeatJob (jobId owner now : String) (leaseSeconds : PyValue)
  | transitionJob (jobId toState now : String) (error : Option PyDict)
  | safeStopJob (jobId now : String)
  | recordProcessDeath (jobId now : String)
  | releaseForRetry (jobId now : String)
  | finishAttempt (jobId now errorClass : String) (retryPolicy : RetryPolicy)

namespace JobCall

/-- What a call returns. -/
@[reducible]
def Result : JobCall → Type
  | createJob .. => Unit
  | createOrGetJob .. => Job
  | claimPendingJob .. => Bool
  | claimNextJob .. => Option Job
  | heartbeatJob .. => Bool
  | transitionJob .. => Unit
  | safeStopJob .. => Unit
  | recordProcessDeath .. => JobState
  | releaseForRetry .. => Unit
  | finishAttempt .. => JobState

/-- The statements of a call. -/
def program (runtime : Runtime) : (call : JobCall) → JobProgram call.Result
  | createJob new => Jobs.createJob runtime new
  | createOrGetJob new => Jobs.createOrGetJob runtime new
  | claimPendingJob jobId owner now => Jobs.claimPendingJob jobId owner now
  | claimNextJob owner now leaseSeconds => Jobs.claimNextJob owner now leaseSeconds
  | heartbeatJob jobId owner now leaseSeconds =>
    Jobs.heartbeatJob jobId owner now leaseSeconds
  | transitionJob jobId toState now error =>
    Jobs.transitionJob runtime jobId toState now error
  | safeStopJob jobId now => Jobs.safeStopJob runtime jobId now
  | recordProcessDeath jobId now => Jobs.recordProcessDeath runtime jobId now
  | releaseForRetry jobId now => Jobs.releaseForRetry runtime jobId now
  | finishAttempt jobId now errorClass retryPolicy =>
    Jobs.finishAttempt runtime jobId now errorClass retryPolicy

end JobCall

/-- A job for concrete runs. -/
def Jobs.NewJob.sample : Jobs.NewJob where
  jobId := "job-1"
  jobType := "scan"
  inputPayload := []
  idempotencyKey := "key-1"
  now := "2026-08-11T14:40:00Z"
  maxAttempts := 3

/-- The functions of `job_state.py` on a shared catalog. -/
@[reducible]
def jobService (runtime : Runtime) : Service where
  Call := JobCall
  Query := JobStatement
  Error := PyError
  State := Catalog runtime
  Reply := JobStatement.Reply
  Result := JobCall.Result
  program := JobCall.program runtime
  perform := JobStatement.perform

end Reperio
