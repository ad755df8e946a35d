import Reperio.Jobs.Steps

/-!
# Workers that lost their lease

A worker whose lease expired may still be alive and report the end of its
attempt after another worker took the job over. `heartbeat_job` asks for the
owner of the lease; `finish_attempt`, `record_process_death` and
`transition_job` do not. This module says which late reports of a superseded
worker leave the job of its successor alone: those whose `UPDATE` would fail
for another reason.
-/

namespace Reperio

open Python Relational Concurrency

namespace JobCall

/-- The calls by which a worker reports on its attempt. -/
def endsAttempt : JobCall → Bool
  | finishAttempt .. => true
  | recordProcessDeath .. => true
  | transitionJob .. => true
  | _ => false

def claimsNext : JobCall → Bool
  | claimNextJob .. => true
  | _ => false

end JobCall

variable {runtime : Runtime} {Conn : Type}

/-- The connection is about to lease the job to its worker by `claim_next_job`. -/
structure Leases (worker : Conn → String) (system : (jobService runtime).System Conn) (conn : Conn)
    (jobId now : String) (row : Job) : Prop where
  claims : ∃ leaseExpiresAt, nextStatement JobCall.claimsNext system conn =
      some (.claimNext (worker conn) leaseExpiresAt now jobId) ∧
    ((JobStatement.claimNext (worker conn) leaseExpiresAt now jobId).sets row).check runtime = true
  found : system.state.jobs.lookup jobId = some row
  left : row.attempts < row.maxAttempts
  runnable : row.runnable now = true

variable [DecidableEq Conn] (worker : Conn → String)

/-- In the past of a run, the first worker leased the job, its lease expired, and the second one
leased the job after that. -/
def TakenOver (start : (jobService runtime).System Conn)
    (past : List ((jobService runtime).Action Conn)) (jobId : String) (first second : Conn) :
    Prop :=
  ∃ before between after earlier later firstNow secondNow firstRow secondRow expiry,
    past = before ++ .advance first :: (between ++ .advance second :: after) ∧
    runFrom Service.step start before = some earlier ∧
    Leases worker earlier first jobId firstNow firstRow ∧
    runFrom Service.step start (before ++ .advance first :: between) = some later ∧
    Leases worker later second jobId secondNow secondRow ∧
    worker first ≠ worker second ∧ secondRow.leaseOwner = some (worker first) ∧
    secondRow.leaseExpiresAt = some expiry ∧ expiry < secondNow

/-- What holds whenever the superseded worker is about to issue a statement of a late report on the
job, while the worker that took it over holds the lease. -/
def AtLateReports (start : (jobService runtime).System Conn)
    (actions : List ((jobService runtime).Action Conn))
    (holds : (jobService runtime).System Conn → Conn → JobStatement → Job → Prop) : Prop :=
  ∀ past future conn first second jobId system statement row,
    actions = past ++ .advance conn :: future →
    runFrom Service.step start past = some system →
    TakenOver worker start past jobId first second → worker conn = worker first →
    nextStatement JobCall.endsAttempt system conn = some statement → statement.target = jobId →
    system.state.jobs.lookup jobId = some row → row.leaseOwner = some (worker second) →
      holds system conn statement row

/-- The statement leaves the state, the lease and the error of the job as they are. -/
def LeavesJob (system : (jobService runtime).System Conn) (conn : Conn) (_ : JobStatement)
    (row : Job) : Prop :=
  ∀ next, Service.step system (.advance conn) = some next →
    ∃ later, next.state.jobs.lookup row.jobId = some later ∧ later.state = row.state ∧
      later.leaseOwner = row.leaseOwner ∧ later.leaseExpiresAt = row.leaseExpiresAt ∧
      later.errorJson = row.errorJson

/-- The `UPDATE` of a late report fails for a reason of its own: `now` is no timestamp, the error is
no JSON, or the state that `transition_job` has read is not that of the row any more. -/
def Misses (runtime : Runtime) (row : Job) : JobStatement → Prop
  | .finish _ _ errorJson now _ =>
    timestampCheck now = false ∨ errorJson.all runtime.jsonValid = false
  | .transition _ errorJson _ now _ fromState =>
    row.state ≠ fromState ∨ timestampCheck now = false ∨ errorJson.all runtime.jsonValid = false
  | _ => True

/-! ## One late statement -/

omit [DecidableEq Conn] in
theorem transition_sets_check_iff {row : Job} {toState fromState : JobState}
    {errorJson leaseOwner : Option String} {now jobId : String}
    (checked : row.check runtime = true) :
    ((JobStatement.transition toState errorJson leaseOwner now jobId fromState).sets row).check
        runtime = true ↔
      errorJson.all runtime.jsonValid = true ∧ timestampCheck now = true := by
  rcases Job.check_iff.mp checked with ⟨input, attempts, maximum, _, retry, _, created, _⟩
  constructor
  · intro passes
    rcases Job.check_iff.mp passes with ⟨_, _, _, _, _, error, _, updated⟩
    exact ⟨error, updated⟩
  · rintro ⟨error, updated⟩
    exact Job.check_iff.mpr ⟨input, attempts, maximum, rfl, retry, error, created, updated⟩

omit [DecidableEq Conn] in
theorem finish_sets_check_iff {row : Job} {nextState : JobState}
    {retryAfterAt errorJson : Option String} {now jobId : String}
    (checked : row.check runtime = true) (retryCheck : retryAfterAt.all timestampCheck = true) :
    ((JobStatement.finish nextState retryAfterAt errorJson now jobId).sets row).check runtime =
        true ↔
      errorJson.all runtime.jsonValid = true ∧ timestampCheck now = true := by
  rcases Job.check_iff.mp checked with ⟨input, attempts, maximum, _, _, _, created, _⟩
  constructor
  · intro passes
    rcases Job.check_iff.mp passes with ⟨_, _, _, _, _, error, _, updated⟩
    exact ⟨error, updated⟩
  · rintro ⟨error, updated⟩
    exact Job.check_iff.mpr ⟨input, attempts, maximum, rfl, retryCheck, error, created, updated⟩

/-- An `UPDATE` leaves the job exactly when its new row is as the old one or is not written. -/
theorem leavesJob_update_iff {system : (jobService runtime).System Conn} {conn : Conn}
    {call : JobCall} {statement : JobStatement} {row : Job}
    (pending : system.Pending conn call statement)
    (updates : (statement.perform system.state).1 = (statement.updateRows system.state).1)
    (found : system.state.jobs.lookup row.jobId = some row)
    (differs : (statement.sets row).state ≠ row.state ∨
      (statement.sets row).leaseOwner ≠ row.leaseOwner) :
    LeavesJob system conn statement row ↔
      ¬(statement.selects row = true ∧ (statement.sets row).check runtime = true) := by
  rcases Service.exists_step_of_pending pending with ⟨next, stepped⟩
  have after : next.state.jobs.lookup row.jobId =
      some (if statement.selects row = true ∧ (statement.sets row).check runtime = true
        then statement.sets row else row) := by
    rw [Service.step_advance_of_pending pending stepped]
    simp only [jobService]
    rw [updates, JobStatement.lookup_updateRows, found, Option.map_some]
  constructor
  · intro leaves written
    rcases leaves next stepped with ⟨later, laterFound, state, owner, _⟩
    rw [after, if_pos written, Option.some.injEq] at laterFound
    rw [laterFound] at differs
    exact differs.elim (fun other => other state) (fun other => other owner)
  · intro notWritten other otherStepped
    obtain rfl : next = other := Option.some.inj (stepped.symm.trans otherStepped)
    rw [if_neg notWritten] at after
    exact ⟨row, after, rfl, rfl, rfl, rfl⟩

/-- A late report leaves the job of the new holder alone exactly when it fails by itself. -/
theorem leavesJob_iff_misses {system : (jobService runtime).System Conn} {conn : Conn}
    {call : JobCall} {statement : JobStatement} {row : Job} {holder : String}
    (follows : system.Follows (JobCall.Allows runtime))
    (pending : system.Pending conn call statement) (ends : call.endsAttempt = true)
    (found : system.state.jobs.lookup row.jobId = some row)
    (target : statement.target = row.jobId) (held : row.leaseOwner = some holder) :
    LeavesJob system conn statement row ↔ Misses runtime row statement := by
  have checked : row.check runtime = true :=
    system.state.jobs.checked row (Table.lookup_eq_some.mp found).1
  cases follows.pending pending with
  | read =>
    refine iff_of_true ?_ trivial
    intro next stepped
    have same := Service.step_advance_of_pending pending stepped
    exact ⟨row, by rw [same]; exact found, rfl, rfl, rfl, rfl⟩
  | transition _ toState fromState errorJson leaseOwner now jobId moves edge =>
    by_cases isState : row.state = fromState
    · have differs : ((JobStatement.transition toState errorJson leaseOwner now jobId
          fromState).sets row).state ≠ row.state := by
        rw [isState]
        exact ne_of_mem_allowedTransitions edge
      rw [leavesJob_update_iff pending rfl found (Or.inl differs),
        transition_sets_check_iff checked, JobStatement.transition_selects_iff]
      have isTarget : row.jobId = jobId := target.symm
      simp only [isTarget, isState, true_and, not_and, Bool.not_eq_true, Misses, ne_eq,
        not_true_eq_false, false_or]
      cases timestampCheck now <;> simp
    · refine iff_of_true ?_ (Or.inl isState)
      intro next stepped
      have after := Service.step_advance_of_pending pending stepped
      simp only [jobService, JobStatement.perform] at after
      refine ⟨row, ?_, rfl, rfl, rfl, rfl⟩
      rw [after, JobStatement.lookup_updateRows, found, Option.map_some, if_neg]
      rintro ⟨selected, _⟩
      exact isState (JobStatement.transition_selects_iff.mp selected).2
  | finish jobId now errorClass retryPolicy nextState retryAfterAt errorJson retries =>
    have differs : ((JobStatement.finish nextState retryAfterAt (some errorJson) now jobId).sets
        row).leaseOwner ≠ row.leaseOwner := by
      rw [held]
      exact fun same => by cases same
    have retryCheck : retryAfterAt.all timestampCheck = true := by
      rcases retries with ⟨_, rfl⟩ | ⟨_, delay, time, added, rfl⟩
      · rfl
      · rcases isCanonical_of_addSeconds added with ⟨instant, rfl⟩
        exact timestampCheck_strftime instant
    have isTarget : row.jobId = jobId := target.symm
    rw [leavesJob_update_iff pending rfl found (Or.inr differs),
      finish_sets_check_iff checked retryCheck, JobStatement.finish_selects_iff]
    simp only [isTarget, true_and, not_and, Bool.not_eq_true, Misses]
    cases timestampCheck now <;> simp
  | _ => cases ends

/-- Over every interleaving, a superseded worker changes nothing of the job that its successor
holds exactly when every late `UPDATE` fails by itself: there is no fence. -/
theorem superseded_worker_fenced_iff_updates_miss (catalog : Catalog runtime)
    (actions : List ((jobService runtime).Action Conn)) :
    AtLateReports worker ((jobService runtime).idle Conn catalog) actions LeavesJob ↔
      AtLateReports worker ((jobService runtime).idle Conn catalog) actions
        fun _ _ statement row => Misses runtime row statement := by
  have agree : ∀ past (system : (jobService runtime).System Conn) conn statement row jobId holder,
      runFrom Service.step ((jobService runtime).idle Conn catalog) past = some system →
      nextStatement JobCall.endsAttempt system conn = some statement → statement.target = jobId →
      system.state.jobs.lookup jobId = some row → row.leaseOwner = some holder →
      (LeavesJob system conn statement row ↔ Misses runtime row statement) := by
    intro past system conn statement row jobId holder ran isNext target found held
    have follows : system.Follows (JobCall.Allows runtime) :=
      invariant_of_runFrom (fun _ _ _ => JobCall.follows_step) (Service.follows_idle _ _) ran
    rcases nextStatement_eq_some isNext with ⟨call, ends, pending⟩
    obtain rfl : row.jobId = jobId := (Table.lookup_eq_some.mp found).2
    exact leavesJob_iff_misses follows pending ends found target held
  constructor
  · intro leaves past future conn first second jobId system statement row split ran takenOver same
      isNext target found held
    exact (agree past system conn statement row jobId _ ran isNext target found held).mp
      (leaves past future conn first second jobId system statement row split ran takenOver same
        isNext target found held)
  · intro misses past future conn first second jobId system statement row split ran takenOver same
      isNext target found held
    exact (agree past system conn statement row jobId _ ran isNext target found held).mpr
      (misses past future conn first second jobId system statement row split ran takenOver same
        isNext target found held)

/-! ## A late report that ends another worker's attempt -/

/-- The worker of connection 0 is about to lease the job. -/
def firstClaim : List ((jobService .sample).Action ℕ) := [.start 0 (.createJob .sample), .advance 0,
    .start 0 (.claimNextJob "worker-0" "2026-08-11T14:40:00Z" (.int 30)), .advance 0]

/-- Its lease of 30 seconds is over, and the worker of connection 1 is about to take the job. -/
def secondClaim : List ((jobService .sample).Action ℕ) :=
  [.advance 0, .start 1 (.claimNextJob "worker-1" "2026-08-11T14:41:00Z" (.int 30)), .advance 1]

/-- The first worker reports the failure of its attempt and has read the row. -/
def lateReport : List ((jobService .sample).Action ℕ) :=
  [.advance 1, .start 0 (.finishAttempt "job-1" "2026-08-11T14:41:05Z" "transient" .standard),
    .advance 0]

def sampleWorker (conn : ℕ) : String := if conn = 0 then "worker-0" else "worker-1"

/-- The row of the sample job and the next statement of a connection, for calls of one kind. -/
def observeJob (ofKind : JobCall → Bool) (conn : ℕ) (system : (jobService .sample).System ℕ) :
    Option Job × Option JobStatement :=
  (system.state.jobs.lookup "job-1", nextStatement ofKind system conn)

def sampleRow : Job where
  jobId := "job-1"
  caseId := none
  jobType := .scan
  state := .pending
  inputJson := "\x7b\x7d"
  idempotencyKey := "key-1"
  attempts := 0
  maxAttempts := 3
  leaseOwner := none
  leaseExpiresAt := none
  retryAfterAt := none
  errorJson := none
  createdAt := "2026-08-11T14:40:00Z"
  updatedAt := "2026-08-11T14:40:00Z"

/-- The sample job in its first attempt. -/
def firstAttemptRow : Job := { sampleRow with
    state := .leased, attempts := 1, leaseOwner := some "worker-0",
    leaseExpiresAt := some "2026-08-11T14:40:30Z" }

/-- The sample job in its second attempt. -/
def secondAttemptRow : Job := { sampleRow with
    state := .leased, attempts := 2, leaseOwner := some "worker-1",
    leaseExpiresAt := some "2026-08-11T14:41:30Z", updatedAt := "2026-08-11T14:41:00Z" }

/-- The first report about its own attempt ends the second worker's. -/
theorem late_finish_ends_attempt_of_successor :
    ¬AtLateReports sampleWorker ((jobService .sample).idle ℕ (.initial .sample []))
      (firstClaim ++ .advance 0 :: (secondClaim ++ .advance 1 :: lateReport) ++ [.advance 0])
      LeavesJob := by
  intro fenced
  have firstSeen : (runFrom Service.step ((jobService .sample).idle ℕ (.initial .sample []))
      firstClaim).map (observeJob JobCall.claimsNext 0) =
      some (some sampleRow, some (.claimNext "worker-0" "2026-08-11T14:40:30Z"
        "2026-08-11T14:40:00Z" "job-1")) := by decide
  have secondSeen : (runFrom Service.step ((jobService .sample).idle ℕ (.initial .sample []))
      (firstClaim ++ .advance 0 :: secondClaim)).map (observeJob JobCall.claimsNext 1) =
      some (some firstAttemptRow, some (.claimNext "worker-1" "2026-08-11T14:41:30Z"
        "2026-08-11T14:41:00Z" "job-1")) := by decide
  have lateSeen : (runFrom Service.step ((jobService .sample).idle ℕ (.initial .sample []))
      (firstClaim ++ .advance 0 :: (secondClaim ++ .advance 1 :: lateReport))).map
        (observeJob JobCall.endsAttempt 0) =
      some (some secondAttemptRow, some (.finish .retrying (some "2026-08-11T14:42:05Z")
        (some ("\x7b\"attempts\":2,\"class\":\"transient\"," ++
          "\"kind\":\"attempt-failed\",\"retryable\":true\x7d"))
        "2026-08-11T14:41:05Z" "job-1")) := by decide +kernel
  have endSeen : (runFrom Service.step ((jobService .sample).idle ℕ (.initial .sample []))
      (firstClaim ++ .advance 0 :: (secondClaim ++ .advance 1 :: lateReport) ++
        [.advance 0])).map (fun system => (system.state.jobs.lookup "job-1").map Job.state) =
      some (some .retrying) := by decide +kernel
  rcases Option.map_eq_some_iff.mp firstSeen with ⟨earlier, earlierRan, isEarlier⟩
  rcases Option.map_eq_some_iff.mp secondSeen with ⟨later, laterRan, isLater⟩
  rcases Option.map_eq_some_iff.mp lateSeen with ⟨late, lateRan, isLate⟩
  rcases Option.map_eq_some_iff.mp endSeen with ⟨last, lastRan, isLast⟩
  rcases Prod.mk.inj isEarlier with ⟨earlierRow, earlierNext⟩
  rcases Prod.mk.inj isLater with ⟨laterRow, laterNext⟩
  rcases Prod.mk.inj isLate with ⟨lateRow, lateNext⟩
  have takenOver : TakenOver sampleWorker ((jobService .sample).idle ℕ (.initial .sample []))
      (firstClaim ++ .advance 0 :: (secondClaim ++ .advance 1 :: lateReport)) "job-1" 0 1 :=
    ⟨firstClaim, secondClaim, lateReport, earlier, later, "2026-08-11T14:40:00Z",
      "2026-08-11T14:41:00Z", sampleRow, firstAttemptRow, "2026-08-11T14:40:30Z", rfl, earlierRan,
      ⟨⟨_, earlierNext, by decide⟩, earlierRow, by decide, by decide⟩, laterRan,
      ⟨⟨_, laterNext, by decide⟩, laterRow, by decide, by decide⟩,
      by decide, rfl, rfl, by decide⟩
  rcases runFrom_append.mp lastRan with ⟨middle, middleRan, lastStep⟩
  obtain rfl : late = middle := Option.some.inj (lateRan.symm.trans middleRan)
  rcases runFrom_cons.mp lastStep with ⟨next, stepped, isNext⟩
  obtain rfl : next = last := Option.some.inj isNext
  have leaves := fenced _ [] 0 0 1 "job-1" late _ secondAttemptRow rfl lateRan takenOver rfl
    lateNext rfl lateRow rfl
  rcases leaves next stepped with ⟨after, afterFound, state, _⟩
  have retried : (next.state.jobs.lookup "job-1").map Job.state = some .retrying := isLast
  rw [show next.state.jobs.lookup "job-1" = some after from afterFound, Option.map_some,
    state] at retried
  cases retried

end Reperio
