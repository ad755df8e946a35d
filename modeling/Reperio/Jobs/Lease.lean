import Reperio.Jobs.Steps

/-!
# Exclusive leases

`claim_next_job` takes an expired job when `lease_expires_at < now`, and
`heartbeat_job` renews a lease when `now <= lease_expires_at`. On canonical
timestamps the order of text is the order in time, so a lease that was granted
at `t` for `s` seconds keeps every other worker away up to `t + s` included,
unless its own holder renews it for a shorter time.
-/

namespace Reperio

open Python Relational Concurrency

variable {runtime : Runtime} {Conn : Type}

/-- The connection is about to lease the job to the owner for some seconds from `now` on, by the
`UPDATE` of `claim_next_job` or of `heartbeat_job`, and the `UPDATE` will hit the row. -/
structure Grants (system : (jobService runtime).System Conn) (conn : Conn)
    (owner now jobId leaseExpiresAt : String) (seconds : ℤ) : Prop where
  expires : Jobs.addSeconds now seconds = .ok leaseExpiresAt
  succeeds : ∃ leaseSeconds, Jobs.validateLeaseSeconds leaseSeconds = .ok seconds ∧
    (system.Pending conn (.claimNextJob owner now leaseSeconds)
        (.claimNext owner leaseExpiresAt now jobId) ∧
      (JobStatement.perform (.claimNext owner leaseExpiresAt now jobId) system.state).2 = .ok 1 ∨
    system.Pending conn (.heartbeatJob jobId owner now leaseSeconds)
        (.heartbeat leaseExpiresAt now jobId owner) ∧
      (JobStatement.perform (.heartbeat leaseExpiresAt now jobId owner) system.state).2 = .ok 1)

def InProgress (jobId : String) (system : (jobService runtime).System Conn) : Prop :=
  ∀ row, system.state.jobs.lookup jobId = some row → row.state = .leased ∨ row.state = .running

/-- Any other lease that is granted now goes to the same owner and ends no earlier. -/
def KeepsLease (owner jobId bound : String) (system : (jobService runtime).System Conn)
    (action : (jobService runtime).Action Conn) : Prop :=
  ∀ conn other now leaseExpiresAt seconds, action = .advance conn →
    Grants system conn other now jobId leaseExpiresAt seconds →
      other = owner ∧ bound ≤ leaseExpiresAt

variable [DecidableEq Conn]

/-- After a worker was granted a lease at `time` for some seconds, while the job stays in progress
and every action in between meets the condition, a different worker is granted a lease only at an
instant with the given property. -/
def NextGrant
    (between : String → String → String → (jobService runtime).System Conn →
      (jobService runtime).Action Conn → Prop)
    (allowed : DateTime → ℤ → DateTime → Prop) (start : (jobService runtime).System Conn)
    (actions : List ((jobService runtime).Action Conn)) : Prop :=
  ∀ past during future conn otherConn owner other jobId leaseExpiresAt otherExpiresAt time otherTime
    seconds otherSeconds system granted later,
    actions = past ++ .advance conn :: (during ++ .advance otherConn :: future) →
    runFrom Service.step start past = some system →
    Grants system conn owner (strftime time) jobId leaseExpiresAt seconds →
    Service.step system (.advance conn) = some granted →
    runFrom Service.step granted during = some later →
    EveryState Service.step (InProgress jobId) granted during →
    EveryStep Service.step (between owner jobId leaseExpiresAt) granted during →
    Grants later otherConn other (strftime otherTime) jobId otherExpiresAt otherSeconds →
    other ≠ owner → allowed time seconds otherTime

variable {actions : List ((jobService runtime).Action Conn)}

theorem NextGrant.mono
    {between : String → String → String → (jobService runtime).System Conn →
      (jobService runtime).Action Conn → Prop}
    {allowed wider : DateTime → ℤ → DateTime → Prop} {start : (jobService runtime).System Conn}
    (next : NextGrant between allowed start actions)
    (implies : ∀ time seconds otherTime, allowed time seconds otherTime →
      wider time seconds otherTime) : NextGrant between wider start actions := by
  intro past during future conn otherConn owner other jobId leaseExpiresAt otherExpiresAt time
    otherTime seconds otherSeconds system granted later split reached grants stepped ran inProgress
    keeps otherGrants different
  exact implies _ _ _ (next past during future conn otherConn owner other jobId leaseExpiresAt
    otherExpiresAt time otherTime seconds otherSeconds system granted later split reached grants
    stepped ran inProgress keeps otherGrants different)

/-! ## A successful grant -/

section Grants

variable {system next : (jobService runtime).System Conn} {conn : Conn}
  {owner now jobId leaseExpiresAt : String} {seconds : ℤ}

/-- A granted lease is in the row. -/
theorem Grants.written (grants : Grants system conn owner now jobId leaseExpiresAt seconds)
    (stepped : Service.step system (.advance conn) = some next) :
    ∃ row, next.state.jobs.lookup jobId = some row ∧ row.leaseOwner = some owner ∧
      row.leaseExpiresAt = some leaseExpiresAt := by
  rcases grants.succeeds with ⟨leaseSeconds, _, ⟨pending, hit⟩ | ⟨pending, hit⟩⟩
  · rcases JobStatement.updateRows_reply_eq_one.mp hit with ⟨row, found, written⟩
    rw [Service.step_advance_of_pending pending stepped]
    exact ⟨_, JobStatement.lookup_updateRows_of_written found written, rfl, rfl⟩
  · rcases JobStatement.updateRows_reply_eq_one.mp hit with ⟨row, found, written⟩
    rw [Service.step_advance_of_pending pending stepped]
    exact ⟨_, JobStatement.lookup_updateRows_of_written found written,
      (JobStatement.heartbeat_selects_iff.mp written.1).2.1, rfl⟩

omit [DecidableEq Conn] in
/-- What a grant asks of the row before it. -/
theorem Grants.asks (grants : Grants system conn owner now jobId leaseExpiresAt seconds) :
    ∃ row, system.state.jobs.lookup jobId = some row ∧
      (row.runnable now = true ∨ row.leaseOwner = some owner ∧ row.leaseExpiresAt ≠ none) := by
  rcases grants.succeeds with ⟨leaseSeconds, _, ⟨_, hit⟩ | ⟨_, hit⟩⟩
  · rcases JobStatement.updateRows_reply_eq_one.mp hit with ⟨row, found, selected, _⟩
    exact ⟨row, found, Or.inl (JobStatement.claimNext_selects_iff.mp selected).2.2⟩
  · rcases JobStatement.updateRows_reply_eq_one.mp hit with ⟨row, found, selected, _⟩
    rcases JobStatement.heartbeat_selects_iff.mp selected with ⟨_, owned, _, time, isTime, _⟩
    exact ⟨row, found, Or.inr ⟨owned, by rw [isTime]; simp⟩⟩

/-- The job has no lease, or the owner has one that lasts at least to the bound. -/
def LeaseKept (owner jobId bound : String) (system : (jobService runtime).System Conn) : Prop :=
  ∀ row, system.state.jobs.lookup jobId = some row → row.leaseExpiresAt = none ∨
      row.leaseOwner = some owner ∧ ∃ time, row.leaseExpiresAt = some time ∧ bound ≤ time

theorem LeaseKept.step {bound : String} {action : (jobService runtime).Action Conn}
    (kept : LeaseKept owner jobId bound system)
    (follows : system.Follows (JobCall.Allows runtime)) (inProgress : InProgress jobId system)
    (keeps : KeepsLease owner jobId bound system action)
    (stepped : Service.step system action = some next) : LeaseKept owner jobId bound next := by
  intro row found
  rcases follows.state_cases stepped with same |
    ⟨conn, call, statement, isAdvance, pending, allowed, performed⟩
  · rw [same] at found
    exact kept row found
  rw [performed] at found
  rcases JobStatement.lookup_perform statement system.state jobId with
    same | ⟨old, oldFound, selected, written⟩ | ⟨_, new, inserted, _, isNew⟩
  · exact kept row (same.symm.trans found)
  · obtain rfl : statement.sets old = row := Option.some.inj (written.symm.trans found)
    obtain rfl : jobId = statement.target :=
      (Table.lookup_eq_some.mp oldFound).2.symm.trans (JobStatement.target_of_selects selected)
    have passes : (statement.sets old).check runtime = true :=
      Table.checked _ _ (Table.lookup_eq_some.mp written).1
    cases allowed with
    | claimPending target claimer now =>
      have isPending := (JobStatement.claimPending_selects_iff.mp selected).2.1
      rcases inProgress old oldFound with state | state <;>
      · rw [isPending] at state
        cases state
    | claimNext claimer now leaseSeconds seconds leaseExpiresAt target valid expires =>
      have grants : Grants system conn claimer now target leaseExpiresAt seconds :=
        ⟨expires, leaseSeconds, valid, Or.inl
          ⟨pending, JobStatement.updateRows_reply_eq_one.mpr ⟨old, oldFound, selected, passes⟩⟩⟩
      rcases keeps conn claimer now leaseExpiresAt seconds isAdvance grants with ⟨rfl, later⟩
      exact Or.inr ⟨rfl, leaseExpiresAt, rfl, later⟩
    | heartbeat target holder now leaseSeconds seconds leaseExpiresAt valid expires =>
      have grants : Grants system conn holder now target leaseExpiresAt seconds :=
        ⟨expires, leaseSeconds, valid, Or.inr
          ⟨pending, JobStatement.updateRows_reply_eq_one.mpr ⟨old, oldFound, selected, passes⟩⟩⟩
      rcases keeps conn holder now leaseExpiresAt seconds isAdvance grants with ⟨rfl, later⟩
      exact Or.inr ⟨(JobStatement.heartbeat_selects_iff.mp selected).2.1, leaseExpiresAt, rfl,
        later⟩
    | transition => exact Or.inl rfl
    | finish => exact Or.inl rfl
    | _ => cases selected
  · obtain rfl : new = row := Option.some.inj (isNew.symm.trans found)
    rcases inserted with ⟨_, _, _, _, _, _, _, _, isRow, _⟩
    rcases Option.map_eq_some_iff.mp isRow with ⟨jobType, _, rfl⟩
    exact Or.inl rfl

end Grants

/-- While the job stays in progress and nobody else shortens or moves the lease, it is kept. -/
theorem leaseKept_of_runFrom {owner jobId bound : String}
    {first last : (jobService runtime).System Conn} (kept : LeaseKept owner jobId bound first)
    (follows : first.Follows (JobCall.Allows runtime))
    (inProgress : EveryState Service.step (InProgress jobId) first actions)
    (keeps : EveryStep Service.step (KeepsLease owner jobId bound) first actions)
    (ran : runFrom Service.step first actions = some last) : LeaseKept owner jobId bound last := by
  induction actions generalizing first with
  | nil =>
    obtain rfl : first = last := Option.some.inj ran
    exact kept
  | cons action actions ih =>
    rcases runFrom_cons.mp ran with ⟨next, stepped, rest⟩
    have now : InProgress jobId first := inProgress [] (action :: actions) rfl first rfl
    exact ih (kept.step follows now keeps.1 stepped) (JobCall.follows_step follows stepped)
      (inProgress.tail stepped) (keeps.2 next stepped) rest

/-- Over every interleaving, and while the holder does not shorten its lease, the next worker is
granted the job only after the lease, and two workers never at one instant. -/
theorem next_grant_after_lease (catalog : Catalog runtime)
    (actions : List ((jobService runtime).Action Conn)) :
    NextGrant KeepsLease
        (fun time seconds otherTime => time.seconds + seconds < otherTime.seconds)
        ((jobService runtime).idle Conn catalog) actions ∧
      NextGrant KeepsLease (fun time _ otherTime => otherTime ≠ time)
        ((jobService runtime).idle Conn catalog) actions := by
  have after : NextGrant KeepsLease
      (fun time seconds otherTime => 0 < seconds ∧ time.seconds + seconds < otherTime.seconds)
      ((jobService runtime).idle Conn catalog) actions := by
    intro past during future conn otherConn owner other jobId leaseExpiresAt otherExpiresAt time
      otherTime seconds otherSeconds system granted later _ reached grants stepped ran inProgress
      keeps otherGrants different
    have follows : granted.Follows (JobCall.Allows runtime) :=
      JobCall.follows_step (invariant_of_runFrom (fun _ _ _ => JobCall.follows_step)
        (Service.follows_idle _ _) reached) stepped
    have kept : LeaseKept owner jobId leaseExpiresAt granted := by
      intro row found
      rcases grants.written stepped with ⟨written, writtenFound, owned, expires⟩
      obtain rfl : written = row := Option.some.inj (writtenFound.symm.trans found)
      exact Or.inr ⟨owned, leaseExpiresAt, expires, le_refl _⟩
    have stillKept := leaseKept_of_runFrom kept follows inProgress keeps ran
    rcases grants.succeeds with ⟨leaseSeconds, valid, _⟩
    have positive := Jobs.validateLeaseSeconds_pos valid
    refine ⟨positive, ?_⟩
    rcases Jobs.addSeconds_strftime positive.le grants.expires with ⟨expiry, rfl, value⟩
    rcases otherGrants.asks with ⟨row, found, runnable | ⟨owned, leased⟩⟩
    · have expired : ∃ time, row.leaseExpiresAt = some time ∧ time < strftime otherTime := by
        rcases inProgress.last ran row found with state | state <;>
        · simpa [Job.runnable_iff, state] using runnable
      rcases expired with ⟨oldExpiry, isExpiry, before⟩
      rcases stillKept row found with noLease | ⟨_, keptExpiry, isKept, bound⟩
      · rw [isExpiry] at noLease
        cases noLease
      · rw [isExpiry, Option.some.injEq] at isKept
        subst isKept
        have later := strftime_lt_iff.mp (lt_of_le_of_lt bound before)
        omega
    · rcases stillKept row found with noLease | ⟨ownedByHolder, _⟩
      · exact absurd noLease leased
      · rw [owned, Option.some.injEq] at ownedByHolder
        exact absurd ownedByHolder different
  refine ⟨after.mono fun _ _ _ both => both.2, after.mono ?_⟩
  rintro time seconds otherTime ⟨positive, later⟩ same
  rw [same] at later
  omega

/-! ## A holder that shortens its lease -/

/-- `claim_next_job` with these arguments. -/
def JobCall.claimsNextFor (owner now : String) (seconds : ℤ) : JobCall → Bool
  | .claimNextJob callOwner callNow (.int callSeconds) =>
    decide (callOwner = owner) && decide (callNow = now) && decide (callSeconds = seconds)
  | _ => false

theorem JobCall.eq_of_claimsNextFor {owner now : String} {seconds : ℤ} {call : JobCall}
    (isClaim : claimsNextFor owner now seconds call = true) :
    call = .claimNextJob owner now (.int seconds) := by
  simp only [claimsNextFor] at isClaim
  split at isClaim
  · simp only [Bool.and_eq_true, decide_eq_true_eq] at isClaim
    rw [isClaim.1.1, isClaim.1.2, isClaim.2]
  · cases isClaim

omit [DecidableEq Conn] in
theorem grants_of_nextStatement {system : (jobService runtime).System Conn} {conn : Conn}
    {owner now jobId leaseExpiresAt : String} {seconds : ℤ}
    (valid : Jobs.validateLeaseSeconds (.int seconds) = .ok seconds)
    (expires : (Jobs.addSeconds now seconds).toOption = some leaseExpiresAt)
    (isNext : nextStatement (JobCall.claimsNextFor owner now seconds) system conn =
      some (.claimNext owner leaseExpiresAt now jobId))
    (hit : (JobStatement.updateRows system.state
      (.claimNext owner leaseExpiresAt now jobId)).2.toOption = some 1) :
    Grants system conn owner now jobId leaseExpiresAt seconds := by
  rcases nextStatement_eq_some isNext with ⟨call, isClaim, pending⟩
  obtain rfl := JobCall.eq_of_claimsNextFor isClaim
  exact ⟨eq_ok_of_toOption expires, .int seconds, valid, Or.inl ⟨pending, eq_ok_of_toOption hit⟩⟩

/-- `2026-08-11T14:40:00Z` and some seconds. -/
def sampleTime (second : Fin 60) : DateTime := sampleMoment 40 second

/-- The worker of connection 0 is about to lease the job for a minute. -/
def minuteLease : List ((jobService .sample).Action ℕ) :=
  [.start 0 (.createJob .sample), .advance 0,
    .start 0 (.claimNextJob "worker-0" (strftime (sampleTime 0)) (.int 60)), .advance 0]

/-- It renews its lease after 10 seconds for 5 more, and another worker comes after 20. -/
def shorterLease : List ((jobService .sample).Action ℕ) := [.advance 0,
    .start 0 (.heartbeatJob "job-1" "worker-0" (strftime (sampleTime 10)) (.int 5)), .advance 0,
    .start 1 (.claimNextJob "worker-1" (strftime (sampleTime 20)) (.int 60)), .advance 1]

/-- The other worker gets the job 40 seconds before the end of the first lease. -/
theorem shortened_lease_taken_over : ¬NextGrant (fun _ _ _ _ _ => True)
      (fun time seconds otherTime => time.seconds + seconds < otherTime.seconds)
      ((jobService .sample).idle ℕ (.initial .sample []))
      (minuteLease ++ .advance 0 :: (shorterLease ++ [.advance 1])) := by
  intro exclusive
  have firstSeen : (runFrom Service.step ((jobService .sample).idle ℕ (.initial .sample []))
      minuteLease).map (fun system =>
        (nextStatement (JobCall.claimsNextFor "worker-0" (strftime (sampleTime 0)) 60) system 0,
          (JobStatement.updateRows system.state (.claimNext "worker-0" "2026-08-11T14:41:00Z"
            (strftime (sampleTime 0)) "job-1")).2.toOption)) =
      some (some (.claimNext "worker-0" "2026-08-11T14:41:00Z" (strftime (sampleTime 0)) "job-1"),
        some 1) := by decide
  have grantedSeen : (runFrom Service.step ((jobService .sample).idle ℕ (.initial .sample []))
      (minuteLease ++ [.advance 0])).map (fun system =>
        checkStates Service.step (fun system => (system.state.jobs.lookup "job-1").all fun row =>
          decide (row.state = .leased ∨ row.state = .running)) system shorterLease) =
      some true := by decide
  have secondSeen : (runFrom Service.step ((jobService .sample).idle ℕ (.initial .sample []))
      (minuteLease ++ [.advance 0] ++ shorterLease)).map (fun system =>
        (nextStatement (JobCall.claimsNextFor "worker-1" (strftime (sampleTime 20)) 60) system 1,
          (JobStatement.updateRows system.state (.claimNext "worker-1" "2026-08-11T14:41:20Z"
            (strftime (sampleTime 20)) "job-1")).2.toOption)) =
      some (some (.claimNext "worker-1" "2026-08-11T14:41:20Z" (strftime (sampleTime 20)) "job-1"),
        some 1) := by decide
  rcases Option.map_eq_some_iff.mp firstSeen with ⟨system, reached, isFirst⟩
  rcases Option.map_eq_some_iff.mp grantedSeen with ⟨granted, grantedRan, inProgress⟩
  rcases Option.map_eq_some_iff.mp secondSeen with ⟨later, laterRan, isSecond⟩
  rcases runFrom_append.mp grantedRan with ⟨before, beforeRan, lastStep⟩
  obtain rfl : system = before := Option.some.inj (reached.symm.trans beforeRan)
  rcases runFrom_cons.mp lastStep with ⟨next, stepped, isNext⟩
  obtain rfl : next = granted := Option.some.inj isNext
  rcases runFrom_append.mp laterRan with ⟨middle, middleRan, during⟩
  obtain rfl : next = middle := Option.some.inj (grantedRan.symm.trans middleRan)
  have tooEarly := exclusive minuteLease shorterLease [] 0 1 "worker-0" "worker-1" "job-1"
    "2026-08-11T14:41:00Z" "2026-08-11T14:41:20Z" (sampleTime 0) (sampleTime 20) 60 60 system next
    later rfl reached
    (grants_of_nextStatement rfl (by decide) (Prod.mk.inj isFirst).1
      (Prod.mk.inj isFirst).2)
    stepped during
    (everyState_of_checkStates (fun state checked row found => by simpa [found] using checked)
      inProgress)
    (everyStep_of_forall (fun _ _ => trivial) _ _)
    (grants_of_nextStatement rfl (by decide) (Prod.mk.inj isSecond).1
      (Prod.mk.inj isSecond).2)
    (by decide)
  revert tooEarly
  decide

end Reperio
