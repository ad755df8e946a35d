import Reperio.Concurrency.Transition
import Reperio.Python.Repr
import Reperio.Storage.SecretStore

/-!
# Protected audits

`worker/protected_audit.py`: the life of one audit target. A failed or blocked
target is audited again by `restart_audit`, which counts the attempt and refuses
one that is beyond the budget. The table of transitions leads from these states
to `queued` as well, and `transition_audit` neither counts nor refuses. Attempts
stay within the budget exactly in the runs that do not take this way
(`attemptsWithinBudget_iff`).
-/

namespace Reperio.Worker

open Python Concurrency Storage

/-! ## Targets -/

/-- `AUDIT_STATES`. -/
inductive AuditState where
  | pending
  | queued
  | running
  | verifying
  | completed
  | failed
  | blocked
  | cancelled
  deriving DecidableEq, Repr

namespace AuditState

def name : AuditState → String
  | pending => "pending"
  | queued => "queued"
  | running => "running"
  | verifying => "verifying"
  | completed => "completed"
  | failed => "failed"
  | blocked => "blocked"
  | cancelled => "cancelled"

def auditStates : List AuditState :=
  [pending, queued, running, verifying, completed, failed, blocked, cancelled]

def ofName? (text : PyStr) : Option AuditState :=
  auditStates.find? fun state => PyStr.ofString state.name = text

def allowedTransitions : AuditState → List AuditState
  | pending => [queued, cancelled, failed]
  | queued => [running, cancelled, failed]
  | running => [verifying, failed, cancelled]
  | verifying => [completed, failed]
  | completed => []
  | failed => [queued]
  | blocked => [queued]
  | cancelled => []

/-- The audit is over for good. -/
def IsFinal (state : AuditState) : Prop := state = completed ∨ state = cancelled

/-- The audit may be tried again. -/
def IsStopped (state : AuditState) : Prop := state = failed ∨ state = blocked

instance : DecidablePred IsStopped :=
  fun state => inferInstanceAs (Decidable (state = failed ∨ state = blocked))

end AuditState

/-- The bounds of one audit. -/
structure ResourceBudget where
  maxCpuSeconds : ℕ
  maxMemoryBytes : ℕ
  maxAttempts : ℕ
  cpuPositive : 0 < maxCpuSeconds
  memoryPositive : 0 < maxMemoryBytes
  attemptsPositive : 0 < maxAttempts

def ResourceBudget.within (budget : ResourceBudget) (cpuSeconds memoryBytes : ℤ) : Bool :=
  decide (cpuSeconds ≤ budget.maxCpuSeconds ∧ memoryBytes ≤ budget.maxMemoryBytes)

/-- How far an audit has come. -/
structure AuditCheckpoint where
  stage : PyStr
  cursor : PyStr
  counters : List (PyStr × ℤ)

/-- A set of secrets that is audited. -/
structure AuditTarget where
  secretSetRef : SecretStore.SecretRef
  budget : ResourceBudget
  checkpoint : Option AuditCheckpoint := none
  attempts : ℕ := 0
  state : AuditState := .pending
  errorCode : Option PyStr := none

/-- How a secret store says that it has no metadata. -/
inductive StoreFailure (StoreError : Type) where
  | keyError
  | indexError
  | other (error : StoreError)

/-- What an audit raises. -/
inductive AuditException (StoreError : Type) where
  | protectedAuditError (code : String) (message : PyStr)
  -- what the store raised
  | store (error : StoreError)

/-! ## Steps -/

section Steps

variable {StoreError : Type} (display : Display)

def auditError (code message : String) : Except (AuditException StoreError) AuditTarget :=
  .error (.protectedAuditError code (.ofString message))

def transitionAudit (target : AuditTarget) (toState : PyStr) :
    Except (AuditException StoreError) AuditTarget :=
  match AuditState.ofName? toState with
  | none =>
    .error (.protectedAuditError "invalid_state"
      (.ofString "state " ++ reprText display toState ++ .ofString " is not an audit state"))
  | some state =>
    if state ∉ target.state.allowedTransitions then
      .error (.protectedAuditError "invalid_transition"
        (.ofString "invalid audit transition " ++ .ofString target.state.name ++
          .ofString " -> " ++ toState))
    else .ok { target with state }

def failAudit (target : AuditTarget) (errorCode : PyStr) :
    Except (AuditException StoreError) AuditTarget :=
  if target.state ∉ [AuditState.pending, .queued, .running, .verifying] then
    auditError "invalid_transition" "audit is already terminal"
  else .ok { target with state := .failed, errorCode := some (errorCode.take 128) }

def blockAudit (target : AuditTarget) (errorCode : PyStr) :
    Except (AuditException StoreError) AuditTarget :=
  if target.state ∉ [AuditState.pending, .queued] then
    auditError "invalid_transition" "only pending or queued audits may block"
  else .ok { target with state := .blocked, errorCode := some (errorCode.take 128) }

def restartAudit (target : AuditTarget) : Except (AuditException StoreError) AuditTarget :=
  if target.state ∉ [AuditState.failed, .blocked] then
    auditError "invalid_transition" "only failed or blocked audits may restart"
  else if target.budget.maxAttempts ≤ target.attempts then
    auditError "attempt_limit" "audit has exhausted its attempt budget"
  else
    .ok { target with state := .queued, attempts := target.attempts + 1, errorCode := none }

/-- `counters.get(name, 0)`. -/
def counter (counters : List (PyStr × ℤ)) (name : String) : ℤ :=
  (counters.lookup (.ofString name)).getD 0

def updateCheckpoint (target : AuditTarget) (stage cursor : PyStr) (counters : List (PyStr × ℤ)) :
    Except (AuditException StoreError) AuditTarget :=
  if target.state ∉ [AuditState.running, .verifying] then
    auditError "invalid_checkpoint" "checkpoints only advance while running"
  else
    let cpuSeconds := counter counters "cpu_seconds" + counter counters "elapsed_seconds"
    if !target.budget.within cpuSeconds (counter counters "memory_bytes") then
      auditError "budget_exceeded" "audit exceeds its resource budget"
    else .ok { target with checkpoint := some ⟨stage.take 128, cursor.take 512, counters⟩ }

def verifySecretReference (target : AuditTarget)
    (metadata : PyStr → Except (StoreFailure StoreError) SecretMetadata) :
    Except (AuditException StoreError) AuditTarget :=
  match metadata target.secretSetRef.text with
  | .ok _ => .ok target
  | .error .keyError => blockAudit target (.ofString "secret_set_missing")
  | .error .indexError => blockAudit target (.ofString "secret_set_missing")
  | .error (.other error) => .error (.store error)

/-- What may be done with a target. -/
inductive AuditAction (StoreError : Type) where
  | transition (toState : PyStr)
  | fail (errorCode : PyStr)
  | block (errorCode : PyStr)
  | restart
  | checkpoint (stage cursor : PyStr) (counters : List (PyStr × ℤ))
  | verify (metadata : PyStr → Except (StoreFailure StoreError) SecretMetadata)

def performAudit (target : AuditTarget) :
    AuditAction StoreError → Except (AuditException StoreError) AuditTarget
  | .transition toState => transitionAudit display target toState
  | .fail errorCode => failAudit target errorCode
  | .block errorCode => blockAudit target errorCode
  | .restart => restartAudit target
  | .checkpoint stage cursor counters => updateCheckpoint target stage cursor counters
  | .verify metadata => verifySecretReference target metadata

/-- `transition_audit` takes a stopped target back to `queued`. -/
def Bypasses (target : AuditTarget) : AuditAction StoreError → Prop
  | .transition toState => target.state.IsStopped ∧ toState = .ofString "queued"
  | _ => False

/-! ## One step -/

variable {display}

theorem AuditState.name_of_ofName? {toState : PyStr} {state : AuditState}
    (found : AuditState.ofName? toState = some state) : toState = .ofString state.name := by
  have named := List.find?_some found
  exact (of_decide_eq_true named).symm

theorem blockAudit_eq_ok {target next : AuditTarget} {errorCode : PyStr}
    (blocked : (blockAudit target errorCode : Except (AuditException StoreError) _) = .ok next) :
    (target.state = .pending ∨ target.state = .queued) ∧
      next = { target with state := .blocked, errorCode := some (errorCode.take 128) } := by
  unfold blockAudit at blocked
  split at blocked
  · cases blocked
  · rename_i waiting
    rw [not_not, List.mem_cons, List.mem_singleton] at waiting
    exact ⟨waiting, (Except.ok.inj blocked).symm⟩

/-- What a step can do: the target stays as it is, apart from its checkpoint; it moves on; or it is
stopped and comes back, with or without being counted. -/
inductive Effect (target : AuditTarget) (action : AuditAction StoreError) : AuditTarget → Prop
  | kept (checkpoint : Option AuditCheckpoint) (allowed : ¬Bypasses target action) :
      Effect target action { target with checkpoint }
  | moved {state : AuditState} {errorCode : Option PyStr} (notFinal : ¬target.state.IsFinal)
      (other : ¬(target.state.IsStopped ∧ state = .queued)) (allowed : ¬Bypasses target action) :
      Effect target action { target with state, errorCode }
  | bypassed (bypasses : Bypasses target action) :
      Effect target action { target with state := .queued }
  | restarted (stopped : target.state.IsStopped)
      (remaining : target.attempts < target.budget.maxAttempts)
      (allowed : ¬Bypasses target action) :
      Effect target action
        { target with state := .queued, attempts := target.attempts + 1, errorCode := none }

variable {action : AuditAction StoreError}

theorem effect_of_blocked {target next : AuditTarget} {errorCode : PyStr}
    (blocked : (blockAudit target errorCode : Except (AuditException StoreError) _) = .ok next)
    (allowed : ¬Bypasses target action) : Effect target action next := by
  rcases blockAudit_eq_ok blocked with ⟨waiting, rfl⟩
  refine Effect.moved ?_ (fun stopped => by cases stopped.2) allowed
  rintro (isFinal | isFinal)
  · rw [isFinal] at waiting
    exact waiting.elim nofun nofun
  · rw [isFinal] at waiting
    exact waiting.elim nofun nofun

theorem effect_of_perform {target next : AuditTarget}
    (performed : performAudit display target action = .ok next) : Effect target action next := by
  cases action with
  | transition toState =>
    change transitionAudit display target toState = .ok next at performed
    unfold transitionAudit at performed
    split at performed
    · cases performed
    rename_i state found
    split at performed
    · cases performed
    rename_i allowed
    rw [not_not] at allowed
    cases performed
    have named := AuditState.name_of_ofName? found
    by_cases bypasses : target.state.IsStopped ∧ state = .queued
    · rcases bypasses with ⟨stopped, rfl⟩
      exact Effect.bypassed ⟨stopped, named⟩
    · refine Effect.moved ?_ bypasses ?_
      · rintro (isFinal | isFinal)
        · rw [isFinal] at allowed
          cases allowed
        · rw [isFinal] at allowed
          cases allowed
      · rintro ⟨stopped, isQueued⟩
        refine bypasses ⟨stopped, ?_⟩
        rw [isQueued] at found
        have queued : AuditState.ofName? (.ofString "queued") = some .queued := by decide
        exact Option.some.inj (found.symm.trans queued)
  | fail errorCode =>
    change failAudit target errorCode = .ok next at performed
    unfold failAudit at performed
    split at performed
    · cases performed
    rename_i running
    cases performed
    refine Effect.moved ?_ (fun stopped => by cases stopped.2) not_false
    rintro (isFinal | isFinal)
    · exact running (by rw [isFinal]; decide)
    · exact running (by rw [isFinal]; decide)
  | block errorCode => exact effect_of_blocked performed not_false
  | restart =>
    change restartAudit target = .ok next at performed
    unfold restartAudit at performed
    split at performed
    · cases performed
    rename_i stopped
    rw [not_not, List.mem_cons, List.mem_singleton] at stopped
    split at performed
    · cases performed
    rename_i remaining
    cases performed
    exact Effect.restarted stopped (Nat.lt_of_not_le remaining) not_false
  | checkpoint stage cursor counters =>
    change updateCheckpoint target stage cursor counters = .ok next at performed
    unfold updateCheckpoint at performed
    split at performed
    · cases performed
    dsimp only at performed
    split at performed
    · cases performed
    cases performed
    exact Effect.kept _ not_false
  | verify metadata =>
    change verifySecretReference target metadata = .ok next at performed
    unfold verifySecretReference at performed
    split at performed
    · rw [← Except.ok.inj performed]
      exact Effect.kept target.checkpoint not_false
    · exact effect_of_blocked performed not_false
    · exact effect_of_blocked performed not_false
    · cases performed

/-! ## Runs -/

/-- A target with the number of times that it came back to `queued`. -/
structure AuditRun where
  target : AuditTarget
  reentries : ℕ

def Reenters (before after : AuditTarget) : Prop := before.state.IsStopped ∧ after.state = .queued

instance (before after : AuditTarget) : Decidable (Reenters before after) :=
  inferInstanceAs (Decidable (_ ∧ _))

variable (display) in
/-- After a step that raises, the target is what it was. -/
def auditStep (run : AuditRun) (action : AuditAction StoreError) : Option AuditRun :=
  match performAudit display run.target action with
  | .ok next =>
    some ⟨next, if Reenters run.target next then run.reentries + 1 else run.reentries⟩
  | .error _ => some run

def WithinBudget (run : AuditRun) : Prop :=
  run.reentries = run.target.attempts ∧ run.reentries ≤ run.target.budget.maxAttempts

def StaysFinal (first last : AuditRun) : Prop :=
  first.target.state.IsFinal → last.target.state = first.target.state

variable (display) in
/-- In every state of the run the target came back as often as its attempts say, and no more often
than its budget allows; and once it is completed or cancelled it stays so. -/
structure AttemptsWithinBudget (target : AuditTarget) (actions : List (AuditAction StoreError)) :
    Prop where
  counted : EveryState (auditStep display) WithinBudget ⟨target, 0⟩ actions
  final : EverySegment (auditStep display) StaysFinal ⟨target, 0⟩ actions

theorem AuditState.IsStopped.ne_queued {state : AuditState} (stopped : state.IsStopped) :
    state ≠ .queued := by
  rintro rfl
  exact stopped.elim nofun nofun

theorem Bypasses.isStopped {target : AuditTarget} (bypasses : Bypasses target action) :
    target.state.IsStopped := by
  cases action with
  | transition toState => exact bypasses.1
  | fail errorCode => cases bypasses
  | block errorCode => cases bypasses
  | restart => cases bypasses
  | checkpoint stage cursor counters => cases bypasses
  | verify metadata => cases bypasses

/-- The table allows the transition that bypasses `restart_audit`. -/
theorem perform_of_bypasses {target : AuditTarget} (bypasses : Bypasses target action) :
    performAudit display target action = .ok { target with state := .queued } := by
  cases action with
  | transition toState =>
    rcases bypasses with ⟨stopped, rfl⟩
    have queued : AuditState.ofName? (.ofString "queued") = some .queued := by decide
    have allowed : AuditState.queued ∈ target.state.allowedTransitions := by
      rcases stopped with isFailed | isBlocked
      · rw [isFailed]
        decide
      · rw [isBlocked]
        decide
    rw [performAudit, transitionAudit, queued]
    dsimp only
    rw [if_neg (not_not.mpr allowed)]
  | fail errorCode => cases bypasses
  | block errorCode => cases bypasses
  | restart => cases bypasses
  | checkpoint stage cursor counters => cases bypasses
  | verify metadata => cases bypasses

/-- A step keeps the attempts within the budget exactly when it does not bypass `restart_audit`. -/
theorem withinBudget_step {run next : AuditRun} (within : WithinBudget run)
    (stepped : auditStep display run action = some next) :
    WithinBudget next ↔ ¬Bypasses run.target action := by
  rcases within with ⟨counted, bounded⟩
  unfold auditStep at stepped
  split at stepped
  · rename_i target performed
    rw [← Option.some.inj stepped]
    unfold WithinBudget
    cases effect_of_perform performed with
    | kept checkpoint allowed =>
      rw [if_neg fun back => back.1.ne_queued back.2]
      exact iff_of_true ⟨counted, bounded⟩ allowed
    | moved notFinal other allowed =>
      rw [if_neg fun back => other ⟨back.1, back.2⟩]
      exact iff_of_true ⟨counted, bounded⟩ allowed
    | bypassed bypasses =>
      rw [if_pos ⟨bypasses.isStopped, rfl⟩]
      -- the return is counted here and not by the target
      refine iff_of_false (fun within => ?_) (not_not.mpr bypasses)
      have same := within.1
      dsimp only at same
      omega
    | restarted stopped remaining allowed =>
      rw [if_pos ⟨stopped, rfl⟩]
      refine iff_of_true ⟨congrArg Nat.succ counted, ?_⟩ allowed
      dsimp only
      omega
  · rename_i error raised
    rw [← Option.some.inj stepped]
    refine iff_of_true ⟨counted, bounded⟩ fun bypasses => ?_
    rw [perform_of_bypasses bypasses] at raised
    cases raised

/-- A step leaves a target alone that is completed or cancelled. -/
theorem staysFinal_step {run next : AuditRun} (stepped : auditStep display run action = some next) :
    StaysFinal run next := by
  intro isFinal
  have notStopped : ¬run.target.state.IsStopped := by
    intro stopped
    rcases isFinal with same | same
    · rw [same] at stopped
      exact stopped.elim nofun nofun
    · rw [same] at stopped
      exact stopped.elim nofun nofun
  unfold auditStep at stepped
  split at stepped
  · rename_i target performed
    rw [← Option.some.inj stepped]
    cases effect_of_perform performed with
    | kept checkpoint allowed => rfl
    | moved notFinal other allowed => exact absurd isFinal notFinal
    | bypassed bypasses => exact absurd bypasses.isStopped notStopped
    | restarted stopped remaining allowed => exact absurd stopped notStopped
  · rw [← Option.some.inj stepped]

theorem everySegment_staysFinal (target : AuditTarget) (actions : List (AuditAction StoreError)) :
    EverySegment (auditStep display) StaysFinal ⟨target, 0⟩ actions := by
  refine (everySegment_iff_everyStep (fun run isFinal => rfl) ?_).mpr
    (everyStep_of_forall (fun run action next stepped => staysFinal_step stepped) _ _)
  intro first second third before after isFinal
  have same := before isFinal
  rw [after (same ▸ isFinal), same]

/-- In a run on a new target the attempts stay within the budget exactly when no step bypasses
`restart_audit`. -/
theorem attemptsWithinBudget_iff {target : AuditTarget} (fresh : target.attempts = 0)
    (actions : List (AuditAction StoreError)) :
    AttemptsWithinBudget display target actions ↔
      EveryStep (auditStep display) (fun run action => ¬Bypasses run.target action) ⟨target, 0⟩
        actions := by
  have enabled : ∀ run (action : AuditAction StoreError), ∃ next,
      auditStep display run action = some next := by
    intro run action
    unfold auditStep
    split
    · exact ⟨_, rfl⟩
    · exact ⟨_, rfl⟩
  rcases exists_runFrom enabled ⟨target, 0⟩ actions with ⟨last, ran⟩
  have counted := @everyState_iff_everyStep _ _ (auditStep display) (fun _ => True) WithinBudget
    (fun run action => ¬Bypasses run.target action) (fun _ _ _ _ _ => trivial)
    (fun run action next _ within stepped => withinBudget_step within stepped) ⟨target, 0⟩ last
    actions trivial ⟨fresh.symm, Nat.zero_le _⟩ ran
  exact ⟨fun kept => counted.mp kept.counted,
    fun every => ⟨counted.mpr every, everySegment_staysFinal target actions⟩⟩

end Steps

/-! ## A failed audit that is queued again -/

def exampleTarget : AuditTarget where
  secretSetRef := ⟨.ofString "vault:0123456789abcdef0123456789abcdef", by decide⟩
  budget := ⟨300, 536870912, 3, by decide, by decide, by decide⟩

/-- The transition back to `queued` is taken, and the target does not know. -/
theorem failedTransition_not_attemptsWithinBudget :
    ¬∀ (display : Display) (target : AuditTarget) (actions : List (AuditAction Unit)),
      target.attempts = 0 → AttemptsWithinBudget display target actions := by
  intro all
  have within := all ⟨fun _ => true, []⟩ exampleTarget
    [.fail (.ofString "timeout"), .transition (.ofString "queued")] rfl
  refine @not_everyState_of_observed _ _ _ (ℕ × ℕ) WithinBudget
    (fun run => (run.reentries, run.target.attempts)) ⟨exampleTarget, 0⟩ _ (1, 0)
    (by decide) ?_ within.counted
  intro run seen counted
  have same := counted.1
  rw [Prod.mk.injEq] at seen
  omega

theorem attemptsWithinBudget_restarted : AttemptsWithinBudget ⟨fun _ => true, []⟩ exampleTarget
        [.fail (.ofString "timeout"), (.restart : AuditAction Unit)] ↔
      EveryStep (auditStep ⟨fun _ => true, []⟩) (fun run action => ¬Bypasses run.target action)
        ⟨exampleTarget, 0⟩ [.fail (.ofString "timeout"), (.restart : AuditAction Unit)] :=
  attemptsWithinBudget_iff rfl [.fail (.ofString "timeout"), (.restart : AuditAction Unit)]

end Reperio.Worker
