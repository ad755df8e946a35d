import Reperio.Python.Operators

/-!
# Stopping a process

`safe_stop_process` of `scanner/lifecycle.py`: a signal that asks the process to
end, a wait, and only when the wait times out and a checkpoint is preserved a
second signal. A process answers each call as it likes, by all that was asked
of it before; what it was asked and what it answered is the history of a stop.
-/

namespace Reperio.Scanner

open Python

/-- The signals that a policy may name. -/
inductive StopSignal where
  | term
  | kill
  deriving DecidableEq, Repr

def StopSignal.name : StopSignal → String
  | .term => "TERM"
  | .kill => "KILL"

/-- An error with its code. -/
structure LifecycleError where
  code : String
  message : String
  deriving DecidableEq, Repr

/-- What ends a stop early: an error of its own, or one that the process raises. -/
inductive StopError where
  | lifecycle (error : LifecycleError)
  | raised (error : PyError)
  deriving DecidableEq, Repr

def maxStopTimeoutSeconds : ℕ := 300
def forceWaitSeconds : ℕ := 1

/-! ## Policies -/

/-- A policy that its constructor accepts. -/
structure StopPolicy where
  gracefulSignal : StopSignal
  forceSignal : StopSignal
  timeoutSeconds : ℕ
  distinct : gracefulSignal ≠ forceSignal
  positive : 0 < timeoutSeconds
  bounded : timeoutSeconds ≤ maxStopTimeoutSeconds

def allowedStopSignal? : PyValue → Option StopSignal
  | .text points => [StopSignal.term, .kill].find? fun signal => points = .ofString signal.name
  | _ => none

def invalidStopPolicy : LifecycleError where
  code := "invalid_stop_policy"
  message := "stop policy signals or timeout are out of bounds"

/-- `StopPolicy(graceful_signal, force_signal, timeout_seconds)`. -/
def stopPolicy (gracefulSignal forceSignal timeoutSeconds : PyValue) :
    Except LifecycleError StopPolicy :=
  match allowedStopSignal? gracefulSignal, allowedStopSignal? forceSignal, timeoutSeconds with
  | some graceful, some force, .int (.ofNat seconds) =>
    if accepted : graceful ≠ force ∧ 0 < seconds ∧ seconds ≤ maxStopTimeoutSeconds then
      .ok {
        gracefulSignal := graceful, forceSignal := force, timeoutSeconds := seconds
        distinct := accepted.1, positive := accepted.2.1, bounded := accepted.2.2 }
    else .error invalidStopPolicy
  | _, _, _ => .error invalidStopPolicy

theorem allowedStopSignal?_name (signal : StopSignal) :
    allowedStopSignal? (.str signal.name) = some signal := by
  cases signal <;> decide +kernel

/-- Every policy is one that the constructor returns. -/
theorem stopPolicy_fields (policy : StopPolicy) :
    stopPolicy (.str policy.gracefulSignal.name) (.str policy.forceSignal.name)
      (.int policy.timeoutSeconds) = .ok policy := by
  simp [stopPolicy, allowedStopSignal?_name, policy.distinct, policy.positive, policy.bounded]

/-! ## Processes -/

/-- How sending a signal ends. -/
inductive SendOutcome where
  | sent
  -- `ProcessLookupError`
  | processGone
  | osError
  | raised (error : PyError)

/-- How waiting for the process ends. -/
inductive WaitOutcome where
  | returned (value : PyValue)
  -- `TimeoutExpired` or `TimeoutError`
  | timedOut
  | osError
  | raised (error : PyError)

/-- What is done to a process. -/
inductive StopEvent where
  | signalled (signal : StopSignal) (outcome : SendOutcome)
  | waited (timeoutSeconds : ℕ) (outcome : WaitOutcome)

/-- A process answers by what was asked of it before. -/
structure StageProcess where
  sendSignal : List StopEvent → StopSignal → SendOutcome
  wait : List StopEvent → ℕ → WaitOutcome

/-- What waiting has shown. -/
structure WaitResult where
  exited : Bool
  timedOut : Bool

/-- `_wait_for_exit`, once the process has answered. -/
def waitForExit : WaitOutcome → Except StopError WaitResult
  | .timedOut => .ok ⟨false, true⟩
  | .osError => .ok ⟨false, false⟩
  | .returned (.bool exited) => .ok ⟨exited, !exited⟩
  | .returned (.int _) => .ok ⟨true, false⟩
  | .returned _ => .error (.lifecycle
      { code := "invalid_process_status"
        message := "stage process returned an invalid wait status" })
  | .raised error => .error (.raised error)

/-! ## Stops -/

/-- How a stop ends. -/
inductive StopStatus where
  | alreadyStopped
  | stopFailed
  | stopped
  | forceBlocked
  | forceFailed
  | forceStopped
  | forceStopTimeout
  deriving DecidableEq, Repr

/-- What a stop returns. -/
structure StopResult where
  status : StopStatus
  signalSent : String
  forceSignalSent : Option String
  checkpointPreserved : Bool
  reason : String
  deriving DecidableEq, Repr

/-- How a stop ends, and what was done until then. -/
structure Stop where
  outcome : Except StopError StopResult
  history : List StopEvent

def forceWaitResult (policy : StopPolicy) (forceWait : WaitResult) : StopResult :=
  if forceWait.exited then
    { status := .forceStopped
      signalSent := policy.gracefulSignal.name
      forceSignalSent := some policy.forceSignal.name
      checkpointPreserved := true
      reason := "graceful stop timed out; force signal sent after checkpoint preservation" }
  else
    { status := if forceWait.timedOut then .forceStopTimeout else .forceFailed
      signalSent := policy.gracefulSignal.name
      forceSignalSent := some policy.forceSignal.name
      checkpointPreserved := true
      reason := "force signal sent but process exit could not be verified" }

/-- The second signal, once the wait for the first has timed out with a checkpoint preserved. -/
def forceStop (process : StageProcess) (policy : StopPolicy) (history : List StopEvent) : Stop :=
  let answer := process.sendSignal history policy.forceSignal
  let signalled := history ++ [.signalled policy.forceSignal answer]
  match answer with
  | .processGone =>
    { outcome := .ok {
        status := .stopped
        signalSent := policy.gracefulSignal.name
        forceSignalSent := none
        checkpointPreserved := true
        reason := "process exited before force signal was needed" }
      history := signalled }
  | .osError =>
    { outcome := .ok {
        status := .forceFailed
        signalSent := policy.gracefulSignal.name
        forceSignalSent := none
        checkpointPreserved := true
        reason := "graceful stop timed out; force signal could not be sent" }
      history := signalled }
  | .raised error => { outcome := .error (.raised error), history := signalled }
  | .sent =>
    let outcome := process.wait signalled forceWaitSeconds
    { outcome := (waitForExit outcome).map (forceWaitResult policy)
      history := signalled ++ [.waited forceWaitSeconds outcome] }

/-- What follows the wait for the first signal. -/
def stopAfterWait (process : StageProcess) (policy : StopPolicy) (preserved : Bool)
    (history : List StopEvent) (gracefulWait : WaitResult) : Stop :=
  if gracefulWait.exited then
    { outcome := .ok {
        status := .stopped
        signalSent := policy.gracefulSignal.name
        forceSignalSent := none
        checkpointPreserved := preserved
        reason := "graceful stop completed" }
      history }
  else if !gracefulWait.timedOut then
    { outcome := .ok {
        status := .stopFailed
        signalSent := policy.gracefulSignal.name
        forceSignalSent := none
        checkpointPreserved := preserved
        reason := "graceful stop status could not be verified" }
      history }
  else if !preserved then
    { outcome := .ok {
        status := .forceBlocked
        signalSent := policy.gracefulSignal.name
        forceSignalSent := none
        checkpointPreserved := false
        reason := "graceful stop timed out; force signal withheld until checkpoint preservation" }
      history }
  else forceStop process policy history

def gracefulStop (process : StageProcess) (policy : StopPolicy) (preserved : Bool) : Stop :=
  let answer := process.sendSignal [] policy.gracefulSignal
  let signalled := [.signalled policy.gracefulSignal answer]
  match answer with
  | .processGone =>
    { outcome := .ok {
        status := .alreadyStopped
        signalSent := ""
        forceSignalSent := none
        checkpointPreserved := preserved
        reason := "process already exited" }
      history := signalled }
  | .osError =>
    { outcome := .ok {
        status := .stopFailed
        signalSent := ""
        forceSignalSent := none
        checkpointPreserved := preserved
        reason := "graceful stop signal could not be sent" }
      history := signalled }
  | .raised error => { outcome := .error (.raised error), history := signalled }
  | .sent =>
    let outcome := process.wait signalled policy.timeoutSeconds
    let waited := signalled ++ [.waited policy.timeoutSeconds outcome]
    match waitForExit outcome with
    | .error error => { outcome := .error error, history := waited }
    | .ok gracefulWait => stopAfterWait process policy preserved waited gracefulWait

/-- `safe_stop_process`. -/
def safeStopProcess (process : StageProcess) (policy : StopPolicy) (checkpointPreserved : PyValue) :
    Stop :=
  match checkpointPreserved with
  | .bool preserved => gracefulStop process policy preserved
  | _ =>
    { outcome := .error (.lifecycle
        { code := "invalid_stop_request"
          message := "checkpoint preservation flag must be boolean" })
      history := [] }

/-! ## What a stop may do -/

/-- The wait timed out: an exception, or a process that still runs. -/
def WaitOutcome.IsTimeout (outcome : WaitOutcome) : Prop :=
  outcome = .timedOut ∨ outcome = .returned (.bool false)

/-- The process was asked to end, and the wait for it timed out. -/
def TimedOutGracefully (policy : StopPolicy) (history : List StopEvent) : Prop :=
  ∃ outcome : WaitOutcome, outcome.IsTimeout ∧
    [.signalled policy.gracefulSignal .sent, .waited policy.timeoutSeconds outcome] <:+: history

/-- Nothing is killed before its checkpoint is preserved and it has refused to end. -/
def KillsSafely (policy : StopPolicy) (checkpointPreserved : PyValue) (history : List StopEvent) :
    Prop :=
  ∀ before outcome after, history = before ++ .signalled .kill outcome :: after →
    checkpointPreserved = .bool true ∧ TimedOutGracefully policy before

/-- The process was seen to be gone. -/
def StopEvent.ShowsExit : StopEvent → Prop
  | .signalled _ outcome => outcome = .processGone
  | .waited _ outcome => outcome = .returned (.bool true) ∨ ∃ code, outcome = .returned (.int code)

def StopStatus.IsStopped (status : StopStatus) : Prop :=
  status ∈ [.alreadyStopped, .stopped, .forceStopped]

/-- A process that is said to have stopped was seen to be gone. -/
def ReportsExit (stop : Stop) : Prop :=
  ∀ result, stop.outcome = .ok result → result.status.IsStopped →
    ∃ event ∈ stop.history, event.ShowsExit

/-- Nothing is killed too soon, and an exit is not made up. -/
structure StopsSafely (policy : StopPolicy) (checkpointPreserved : PyValue) (stop : Stop) :
    Prop where
  killsSafely : KillsSafely policy checkpointPreserved stop.history
  reportsExit : ReportsExit stop

section

variable {policy : StopPolicy} {checkpointPreserved : PyValue} {history : List StopEvent}

theorem KillsSafely.nil : KillsSafely policy checkpointPreserved [] := by
  intro before outcome after isHistory
  simp at isHistory

/-- One more event is safe if it is no kill, or one that is allowed by now. -/
theorem KillsSafely.concat {event : StopEvent}
    (safe : KillsSafely policy checkpointPreserved history)
    (allowed : ∀ outcome, event = .signalled .kill outcome →
      checkpointPreserved = .bool true ∧ TimedOutGracefully policy history) :
    KillsSafely policy checkpointPreserved (history ++ [event]) := by
  intro before outcome after isHistory
  rcases List.eq_nil_or_concat after with isNil | ⟨others, last, isConcat⟩
  · rw [isNil] at isHistory
    rcases List.append_inj' isHistory rfl with ⟨isBefore, isEvent⟩
    rw [← isBefore]
    exact allowed outcome (List.singleton_inj.mp isEvent)
  · rw [isConcat, List.concat_eq_append, ← List.cons_append, ← List.append_assoc] at isHistory
    exact safe before outcome others (List.append_inj' isHistory rfl).1

theorem KillsSafely.signalled {signal : StopSignal} {outcome : SendOutcome}
    (safe : KillsSafely policy checkpointPreserved history)
    (allowed : signal = .kill →
      checkpointPreserved = .bool true ∧ TimedOutGracefully policy history) :
    KillsSafely policy checkpointPreserved (history ++ [.signalled signal outcome]) := by
  apply safe.concat
  intro other isKill
  exact allowed (StopEvent.signalled.inj isKill).1

theorem KillsSafely.waited {timeoutSeconds : ℕ} {outcome : WaitOutcome}
    (safe : KillsSafely policy checkpointPreserved history) :
    KillsSafely policy checkpointPreserved (history ++ [.waited timeoutSeconds outcome]) := by
  apply safe.concat
  intro other isKill
  cases isKill

end

/-- An exit is reported only for a process that has shown it. -/
theorem waitForExit_exited {outcome : WaitOutcome} {result : WaitResult}
    (waited : waitForExit outcome = .ok result) (exited : result.exited = true)
    (timeoutSeconds : ℕ) : (StopEvent.waited timeoutSeconds outcome).ShowsExit := by
  unfold waitForExit at waited
  split at waited <;> cases waited
  · cases exited
  · cases exited
  · exact Or.inl (congrArg (fun flag => WaitOutcome.returned (.bool flag)) exited)
  · exact Or.inr ⟨_, rfl⟩

theorem waitForExit_timedOut {outcome : WaitOutcome} {result : WaitResult}
    (waited : waitForExit outcome = .ok result) (timedOut : result.timedOut = true) :
    outcome.IsTimeout := by
  unfold waitForExit at waited
  split at waited <;> cases waited
  · exact Or.inl rfl
  · cases timedOut
  · rw [Bool.not_eq_true'] at timedOut
    exact Or.inr (congrArg (fun flag => WaitOutcome.returned (.bool flag)) timedOut)
  · cases timedOut

theorem forceWaitResult_isStopped {policy : StopPolicy} {forceWait : WaitResult}
    (isStopped : (forceWaitResult policy forceWait).status.IsStopped) : forceWait.exited =
      true := by
  by_contra running
  rw [forceWaitResult, if_neg running] at isStopped
  cases timedOut : forceWait.timedOut <;> simp [timedOut, StopStatus.IsStopped] at isStopped

/-! ## Stops that ask first -/

variable {history : List StopEvent}

section

variable {policy : StopPolicy} (process : StageProcess)

/-- The second signal is safe: the checkpoint is preserved and the process has refused to end. -/
theorem forceStop_safe (safe : KillsSafely policy (.bool true) history)
    (timedOut : TimedOutGracefully policy history) :
    StopsSafely policy (.bool true) (forceStop process policy history) := by
  have signalled {outcome : SendOutcome} :
      KillsSafely policy (.bool true) (history ++ [.signalled policy.forceSignal outcome]) :=
    safe.signalled fun _ => ⟨rfl, timedOut⟩
  rw [forceStop]
  cases answer : process.sendSignal history policy.forceSignal with
  | processGone =>
    refine ⟨signalled, ?_⟩
    intro _ _ _
    exact ⟨_, List.mem_append_right _ (List.mem_singleton_self _), rfl⟩
  | osError =>
    refine ⟨signalled, ?_⟩
    intro result isResult isStopped
    rw [← Except.ok.inj isResult] at isStopped
    simp [StopStatus.IsStopped] at isStopped
  | raised error =>
    refine ⟨signalled, ?_⟩
    intro result isResult
    cases isResult
  | sent =>
    dsimp only
    refine ⟨signalled.waited, ?_⟩
    intro result isResult isStopped
    refine ⟨_, List.mem_append_right _ (List.mem_singleton_self _), ?_⟩
    cases waited : waitForExit (process.wait (history ++ [.signalled policy.forceSignal .sent])
        forceWaitSeconds) with
    | error error =>
      simp only [waited] at isResult
      cases isResult
    | ok forceWait =>
      simp only [waited] at isResult
      rw [← Except.ok.inj isResult] at isStopped
      exact waitForExit_exited waited (forceWaitResult_isStopped isStopped) forceWaitSeconds

/-- After the wait nothing is killed yet, and what follows is safe. -/
theorem stopAfterWait_safe (preserved : Bool) {outcome : WaitOutcome} {gracefulWait : WaitResult}
    (waited : waitForExit outcome = .ok gracefulWait)
    (isHistory : history = [.signalled policy.gracefulSignal .sent,
      .waited policy.timeoutSeconds outcome])
        (safe : KillsSafely policy (.bool preserved) history) :
    StopsSafely policy (.bool preserved)
      (stopAfterWait process policy preserved history gracefulWait) := by
  rw [stopAfterWait]
  split
  · rename_i exited
    refine ⟨safe, ?_⟩
    intro _ _ _
    refine ⟨.waited policy.timeoutSeconds outcome, ?_, waitForExit_exited waited exited _⟩
    rw [isHistory]
    exact List.mem_cons_of_mem _ (List.mem_singleton_self _)
  · split
    · refine ⟨safe, ?_⟩
      intro result isResult isStopped
      rw [← Except.ok.inj isResult] at isStopped
      simp [StopStatus.IsStopped] at isStopped
    · rename_i timedOut
      rw [Bool.not_eq_true, Bool.not_eq_false'] at timedOut
      split
      · refine ⟨safe, ?_⟩
        intro result isResult isStopped
        rw [← Except.ok.inj isResult] at isStopped
        simp [StopStatus.IsStopped] at isStopped
      · rename_i isPreserved
        rw [Bool.not_eq_true, Bool.not_eq_false'] at isPreserved
        rw [isPreserved] at safe ⊢
        refine forceStop_safe process safe ⟨outcome, waitForExit_timedOut waited timedOut, ?_⟩
        rw [isHistory]

/-- A process that is first asked to end is stopped safely. -/
theorem gracefulStop_safe (asks : policy.gracefulSignal = .term) (preserved : Bool) :
    StopsSafely policy (.bool preserved) (gracefulStop process policy preserved) := by
  have signalled {outcome : SendOutcome} : KillsSafely policy (.bool preserved)
      [.signalled policy.gracefulSignal outcome] := by
    refine KillsSafely.nil.signalled ?_
    intro isKill
    rw [asks] at isKill
    cases isKill
  rw [gracefulStop]
  cases answer : process.sendSignal [] policy.gracefulSignal with
  | processGone =>
    refine ⟨signalled, ?_⟩
    intro _ _ _
    exact ⟨_, List.mem_singleton_self _, rfl⟩
  | osError =>
    refine ⟨signalled, ?_⟩
    intro result isResult isStopped
    rw [← Except.ok.inj isResult] at isStopped
    simp [StopStatus.IsStopped] at isStopped
  | raised error =>
    refine ⟨signalled, ?_⟩
    intro result isResult
    cases isResult
  | sent =>
    dsimp only
    split
    · refine ⟨signalled.waited, ?_⟩
      intro result isResult
      cases isResult
    · rename_i gracefulWait waited
      exact stopAfterWait_safe process preserved waited rfl signalled.waited

theorem forceStop_history (history : List StopEvent) :
    history <+: (forceStop process policy history).history := by
  rw [forceStop]
  dsimp only
  split
  · exact List.prefix_append _ _
  · exact List.prefix_append _ _
  · exact List.prefix_append _ _
  · exact (List.prefix_append _ _).trans (List.prefix_append _ _)

theorem stopAfterWait_history (preserved : Bool) (history : List StopEvent)
    (gracefulWait : WaitResult) :
    history <+: (stopAfterWait process policy preserved history gracefulWait).history := by
  rw [stopAfterWait]
  split
  · exact List.prefix_refl history
  · split
    · exact List.prefix_refl history
    · split
      · exact List.prefix_refl history
      · exact forceStop_history process history

/-- The first thing a process is asked is to heed the signal that the policy calls graceful. -/
theorem gracefulStop_history (policy : StopPolicy) (process : StageProcess) (preserved : Bool) :
    ∃ outcome, [.signalled policy.gracefulSignal outcome] <+:
      (gracefulStop process policy preserved).history := by
  refine ⟨process.sendSignal [] policy.gracefulSignal, ?_⟩
  rw [gracefulStop]
  cases process.sendSignal [] policy.gracefulSignal with
  | sent =>
    dsimp only
    split
    · exact List.prefix_append _ _
    · exact (List.prefix_append _ _).trans (stopAfterWait_history process preserved _ _)
  | _ => exact List.prefix_refl _

/-- A policy that kills at once does so before anything else. -/
theorem gracefulStop_not_safe (kills : policy.gracefulSignal = .kill) (preserved : Bool) :
    ¬StopsSafely policy (.bool preserved) (gracefulStop process policy preserved) := by
  intro safe
  rcases gracefulStop_history policy process preserved with ⟨outcome, after, isHistory⟩
  rw [kills] at isHistory
  rcases safe.killsSafely [] outcome after isHistory.symm with ⟨_, _, _, isInfix⟩
  cases List.eq_nil_of_infix_nil isInfix

end

/-! ## Policies that stop safely -/

/-- A stop is safe exactly when its policy asks first, or when it is refused for its flag. -/
theorem safeStop_iff (process : StageProcess) (policy : StopPolicy)
    (checkpointPreserved : PyValue) :
    StopsSafely policy checkpointPreserved (safeStopProcess process policy checkpointPreserved) ↔
      (policy.gracefulSignal = .term ∨ ∀ preserved, checkpointPreserved ≠ .bool preserved) := by
  cases checkpointPreserved with
  | bool preserved =>
    cases asks : policy.gracefulSignal with
    | term => exact iff_of_true (gracefulStop_safe process asks preserved) (Or.inl rfl)
    | kill =>
      refine iff_of_false (gracefulStop_not_safe process asks preserved) ?_
      rintro (isTerm | noFlag)
      · cases isTerm
      · exact noFlag preserved rfl
  | _ =>
    refine iff_of_true ⟨KillsSafely.nil, ?_⟩ (Or.inr nofun)
    intro result isResult
    cases isResult

/-- A policy with the two signals the wrong way round, which the constructor accepts. -/
def killFirst : StopPolicy where
  gracefulSignal := .kill
  forceSignal := .term
  timeoutSeconds := 10
  distinct := by decide
  positive := by decide
  bounded := by decide

/-- A process that ends on any signal. -/
def obedientProcess : StageProcess where
  sendSignal _ _ := .sent
  wait _ _ := .returned (.bool true)

/-- It is killed at once, without a checkpoint. -/
theorem killFirst_not_safe : stopPolicy (.str "KILL") (.str "TERM") (.int 10) = .ok killFirst ∧
      ¬StopsSafely killFirst (.bool false)
        (safeStopProcess obedientProcess killFirst (.bool false)) :=
  ⟨stopPolicy_fields killFirst, gracefulStop_not_safe obedientProcess rfl false⟩

end Reperio.Scanner
