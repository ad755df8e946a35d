import Reperio.Concurrency.Transition
import Reperio.Scanner.ReadErrors

/-!
# Accounting of reads

After any calls of a `ResilientReader`, every raw read is counted once as
successful, repeated or given up, and every range that was given up is recorded.
What `read_at` returns was read, unless the range is recorded as a gap.
-/

namespace Reperio.ResilientReader

open Python

variable {State : Type} (reader : RawReader State) (policy : ReadPolicy)

/-- The relations between the counters and the recorded ranges, after a call. -/
structure Accounted (state : ResilientReader State) : Prop where
  reads : state.counters.attemptedReads =
    state.counters.successfulReads + state.counters.retryReads + state.counters.failedReads
  failures : state.counters.failedReads = state.errorRanges.length
  skipped : state.counters.skippedBytes = (state.errorRanges.map (·.lengthBytes)).sum
  causes : state.counters.timeouts + state.counters.shortReads + state.counters.invalidReads ≤
    state.counters.attemptedReads - state.counters.successfulReads

/-- The same within a call, where some failed reads are neither repeated nor given up yet. -/
structure Balanced (unsettled : ℕ) (state : ResilientReader State) : Prop where
  reads : state.counters.attemptedReads = state.counters.successfulReads +
    state.counters.retryReads + state.counters.failedReads + unsettled
  failures : state.counters.failedReads = state.errorRanges.length
  skipped : state.counters.skippedBytes = (state.errorRanges.map (·.lengthBytes)).sum
  causes : state.counters.timeouts + state.counters.shortReads + state.counters.invalidReads +
    state.counters.successfulReads ≤ state.counters.attemptedReads

variable {state first second third : ResilientReader State} {offsetBytes lengthBytes : PyValue}

theorem accounted_iff : state.Accounted ↔ state.Balanced 0 := by
  constructor
  · rintro ⟨reads, failures, skipped, causes⟩
    exact ⟨reads, failures, skipped, by omega⟩
  · rintro ⟨reads, failures, skipped, causes⟩
    exact ⟨reads, failures, skipped, by omega⟩

/-- The state is another one up to what the callbacks did. -/
def SameBooks (first second : ResilientReader State) : Prop :=
  second = { first with device := second.device }

theorem SameBooks.balanced (same : SameBooks first second) {unsettled : ℕ}
    (balanced : first.Balanced unsettled) : second.Balanced unsettled := by
  rw [same]
  exact ⟨balanced.reads, balanced.failures, balanced.skipped, balanced.causes⟩

theorem sameBooks_pauseReason (state : ResilientReader State) :
    SameBooks state (pauseReason reader policy state).2 := by
  unfold pauseReason
  split
  · rfl
  split
  · rfl
  dsimp only
  split
  · rfl
  · rfl

theorem sameBooks_warnings (state : ResilientReader State) :
    SameBooks state (warnings reader policy state).2 :=
  sameBooks_pauseReason reader policy state

theorem SameBooks.trans (before : SameBooks first second) (after : SameBooks second third) :
    SameBooks first third := by
  unfold SameBooks at before after ⊢
  rw [after, before]

/-! ## One raw read -/

/-- What a raw read, and a loop of raw reads, leaves behind. -/
structure Progress (offset length : ℕ) (before after : ResilientReader State)
    (reads : List RawRead) : Prop where
  ranges : after.errorRanges = before.errorRanges
  log : after.log = before.log ++ reads.map fun answer => (offset, length, answer)

variable {offset length : ℕ}

theorem Progress.trans {before after : List RawRead}
    (one : Progress offset length first second before)
    (other : Progress offset length second third after) :
    Progress offset length first third (before ++ after) where
  ranges := other.ranges.trans one.ranges
  log := by rw [other.log, one.log, List.map_append, List.append_assoc]

theorem rawRead_spec (attempt : ℕ) {unsettled : ℕ} (balanced : state.Balanced unsettled) :
    ∃ answer, Progress offset length state (rawRead reader offset length attempt state).2 [answer] ∧
      match (rawRead reader offset length attempt state).1 with
      | .ok bytes => answer = .data bytes ∧ bytes.length = length ∧
          (rawRead reader offset length attempt state).2.Balanced unsettled
      | .error _ => (rawRead reader offset length attempt state).2.Balanced (unsettled + 1) := by
  rcases balanced with ⟨reads, failures, skipped, causes⟩
  rcases answered : reader.readAt offset length state.device with ⟨answer, device⟩
  refine ⟨answer, ?_⟩
  cases answer with
  | data bytes =>
    simp only [rawRead, count, answered]
    split
    · rename_i full
      refine ⟨⟨rfl, rfl⟩, rfl, full, ?_, failures, skipped, ?_⟩
      · dsimp only
        omega
      · dsimp only
        omega
    · refine ⟨⟨rfl, rfl⟩, ?_, failures, skipped, ?_⟩
      · dsimp only
        omega
      · dsimp only
        omega
  | value size =>
    simp only [rawRead, count, answered]
    refine ⟨⟨rfl, rfl⟩, ?_, failures, skipped, ?_⟩
    · dsimp only
      omega
    · dsimp only
      omega
  | timeout =>
    simp only [rawRead, count, answered]
    refine ⟨⟨rfl, rfl⟩, ?_, failures, skipped, ?_⟩
    · dsimp only
      omega
    · dsimp only
      omega
  | osError name =>
    simp only [rawRead, count, answered]
    refine ⟨⟨rfl, rfl⟩, ?_, failures, skipped, ?_⟩
    · dsimp only
      omega
    · dsimp only
      omega

/-! ## The loop -/

/-- A loop with attempts left ends with the bytes of the last raw read, or with one failure that is
still to be recorded. -/
theorem attemptReads_spec {left : ℕ} (bounded : left + 1 ≤ policy.maxAttempts)
    (lastCode : ReadErrorCode) (balanced : state.Balanced 0) :
    ∃ answers, answers.length ≤ left + 1 ∧ Progress offset length state
        (attemptReads reader policy offset length (left + 1) lastCode state).2 answers ∧
      match (attemptReads reader policy offset length (left + 1) lastCode state).1 with
      | .ok bytes => answers.getLast? = some (.data bytes) ∧ bytes.length = length ∧
          (attemptReads reader policy offset length (left + 1) lastCode state).2.Balanced 0
      | .error _ =>
        (attemptReads reader policy offset length (left + 1) lastCode state).2.Balanced 1 := by
  induction left generalizing lastCode state with
  | zero =>
    rcases rawRead_spec reader (policy.maxAttempts - 0) balanced with
      ⟨answer, progress, ends⟩
    refine ⟨[answer], Nat.le_refl _, ?_⟩
    rw [attemptReads]
    revert progress ends
    generalize rawRead reader offset length (policy.maxAttempts - 0) state = result
    rcases result with ⟨bytes | code, after⟩
    · intro progress ends
      dsimp only
      rw [if_neg (by omega), attemptReads]
      exact ⟨progress, ends⟩
    · intro progress ends
      refine ⟨progress, ?_, ends.2⟩
      rw [ends.1]
      rfl
  | succ left ih =>
    rcases rawRead_spec reader (policy.maxAttempts - (left + 1)) balanced with
      ⟨answer, progress, ends⟩
    rw [attemptReads]
    revert progress ends
    generalize rawRead reader offset length (policy.maxAttempts - (left + 1)) state = result
    rcases result with ⟨code | bytes, after⟩
    · intro progress ends
      dsimp only
      rw [if_pos (by omega)]
      have settled : (retry reader policy (policy.maxAttempts - (left + 1)) after).Balanced 0 := by
        refine ⟨?_, ends.failures, ends.skipped, ends.causes⟩
        have reads := ends.reads
        dsimp only [retry] at reads ⊢
        omega
      rcases ih (by omega) code settled with ⟨answers, few, rest, last⟩
      have begun : Progress offset length state
          (retry reader policy (policy.maxAttempts - (left + 1)) after) [answer] :=
        ⟨progress.ranges, progress.log⟩
      refine ⟨answer :: answers, Nat.succ_le_succ few, begun.trans rest, ?_⟩
      revert last
      cases (attemptReads reader policy offset length (left + 1) code
        (retry reader policy (policy.maxAttempts - (left + 1)) after)).1 with
      | error lastCode => exact id
      | ok bytes =>
        rintro ⟨isLast, full, finished⟩
        refine ⟨?_, full, finished⟩
        rw [List.getLast?_cons, isLast]
        rfl
    · intro progress ends
      refine ⟨[answer], ?_, progress, ?_, ends.2⟩
      · simp
      · rw [ends.1]
        rfl

/-! ## Calls -/

/-- What one call on a valid range did: few raw reads, and either the bytes of the last one or a new
recorded gap, which stands for as many zeros. -/
structure Reads (offset length : ℕ) (before after : ResilientReader State)
    (data : List UInt8) : Prop where
  bounded : ∃ answers : List RawRead, answers.length ≤ policy.maxAttempts ∧
    after.log = before.log ++ answers.map (fun answer => (offset, length, answer)) ∧
    (answers.getLast? = some (.data data) ∧ after.errorRanges = before.errorRanges ∨
      ∃ gap : ReadErrorRange, gap.offsetBytes = offset ∧ gap.lengthBytes = length ∧
        data = List.replicate length 0 ∧ after.errorRanges = before.errorRanges ++ [gap])
  full : data.length = length

theorem SameBooks.reads {before : ResilientReader State} {data : List UInt8}
    (same : SameBooks first second) (reads : Reads policy offset length before first data) :
    Reads policy offset length before second data := by
  rw [same]
  exact ⟨reads.bounded, reads.full⟩

theorem readOrGap_spec (accounted : state.Accounted)
    (valid : validateRange offsetBytes lengthBytes = .ok (offset, length)) :
    ∃ outcome after, readOrGap reader policy offsetBytes lengthBytes state = (.ok outcome, after) ∧
        after.Accounted ∧ Reads policy offset length state after outcome.data ∧
          outcome.counters = after.counters ∧
            ∀ gap, outcome.gap = some gap → outcome.data = List.replicate gap.lengthBytes 0 := by
  rcases Nat.exists_eq_succ_of_ne_zero (Nat.pos_iff_ne_zero.mp policy.attempts.1)
    with ⟨left, attempts⟩
  rcases attemptReads_spec reader policy (by omega : left + 1 ≤ policy.maxAttempts)
    .readError (accounted_iff.mp accounted) with ⟨answers, few, progress, ends⟩
  unfold readOrGap
  rw [valid]
  dsimp only
  rw [attempts]
  revert progress ends
  generalize attemptReads reader policy offset length (left + 1) .readError state = result
  rcases result with ⟨code | bytes, after⟩
  · intro progress balanced
    dsimp only
    generalize isGap : ReadErrorRange.mk offset length code (left + 1) = gap
    have finished : (after.recordGap gap).Balanced 0 := by
      rcases balanced with ⟨reads, failures, skipped, causes⟩
      refine ⟨?_, ?_, ?_, causes⟩
      · dsimp only [recordGap] at reads ⊢
        omega
      · dsimp only [recordGap] at failures ⊢
        rw [failures, List.length_append, List.length_singleton]
      · dsimp only [recordGap] at skipped ⊢
        rw [skipped, List.map_append, List.sum_append, List.map_singleton, List.sum_singleton]
    have reads : Reads policy offset length state (after.recordGap gap)
        (List.replicate length 0) := by
      refine ⟨⟨answers, by omega, progress.log, Or.inr ⟨gap, ?_, ?_, rfl, ?_⟩⟩,
        List.length_replicate⟩
      · rw [← isGap]
      · rw [← isGap]
      · exact congrArg (· ++ [gap]) progress.ranges
    have same := (sameBooks_pauseReason reader policy (after.recordGap gap)).trans
      (sameBooks_warnings reader policy _)
    refine ⟨_, _, rfl, accounted_iff.mpr (same.balanced finished), same.reads policy reads, ?_, ?_⟩
    · exact (congrArg (·.counters) same).symm
    · intro other isOther
      obtain rfl := Option.some.inj isOther
      rw [← isGap]
  · intro progress ends
    have reads : Reads policy offset length state after bytes :=
      ⟨⟨answers, by omega, progress.log, Or.inl ⟨ends.1, progress.ranges⟩⟩, ends.2.1⟩
    have same :=
      (sameBooks_warnings reader policy after).trans (sameBooks_pauseReason reader policy _)
    refine ⟨_, _, rfl, accounted_iff.mpr (same.balanced ends.2.2), same.reads policy reads, ?_,
      nofun⟩
    exact (congrArg (·.counters) same).symm

theorem readAt_spec (accounted : state.Accounted)
    (valid : validateRange offsetBytes lengthBytes = .ok (offset, length)) :
    ∃ data after, readAt reader policy offsetBytes lengthBytes state = (.ok data, after) ∧
      after.Accounted ∧ Reads policy offset length state after data := by
  rcases readOrGap_spec reader policy accounted valid with
    ⟨outcome, after, returned, kept, reads, _, zeros⟩
  unfold readAt
  rw [returned]
  dsimp only
  split
  · rename_i gap isGap
    refine ⟨_, after, rfl, kept, ?_⟩
    rw [← zeros gap isGap]
    exact reads
  · exact ⟨_, after, rfl, kept, reads⟩

/-- A call of one of the two reading methods. -/
inductive ReadCall where
  | readOrGap (offsetBytes lengthBytes : PyValue)
  | readAt (offsetBytes lengthBytes : PyValue)

namespace ReadCall

def range : ReadCall → Except ReadErrorHandlingError (ℕ × ℕ)
  | readOrGap offsetBytes lengthBytes => validateRange offsetBytes lengthBytes
  | readAt offsetBytes lengthBytes => validateRange offsetBytes lengthBytes

/-- The bytes that the call returns, and the state it leaves. -/
def perform (state : ResilientReader State) : ReadCall →
    Except ReadErrorHandlingError (List UInt8) × ResilientReader State
  | readOrGap offsetBytes lengthBytes =>
    match ResilientReader.readOrGap reader policy offsetBytes lengthBytes state with
    | (outcome, after) => (outcome.map (·.data), after)
  | readAt offsetBytes lengthBytes =>
    ResilientReader.readAt reader policy offsetBytes lengthBytes state

theorem perform_invalid {call : ReadCall} {error : ReadErrorHandlingError}
    (invalid : call.range = .error error) (state : ResilientReader State) :
    call.perform reader policy state = (.error error, state) := by
  cases call with
  | readOrGap offsetBytes lengthBytes =>
    change validateRange offsetBytes lengthBytes = .error error at invalid
    rw [perform, ResilientReader.readOrGap, invalid]
    rfl
  | readAt offsetBytes lengthBytes =>
    change validateRange offsetBytes lengthBytes = .error error at invalid
    rw [perform, ResilientReader.readAt, ResilientReader.readOrGap, invalid]

theorem perform_valid {call : ReadCall} (valid : call.range = .ok (offset, length))
    (accounted : state.Accounted) :
    ∃ data after, call.perform reader policy state = (.ok data, after) ∧
      after.Accounted ∧ Reads policy offset length state after data := by
  cases call with
  | readOrGap offsetBytes lengthBytes =>
    rcases readOrGap_spec reader policy accounted
      valid with ⟨outcome, after, returned, kept, reads, _⟩
    refine ⟨outcome.data, after, ?_, kept, reads⟩
    rw [perform, returned]
    rfl
  | readAt offsetBytes lengthBytes => exact readAt_spec reader policy accounted valid

end ReadCall

/-- A reader that was not used yet. -/
def fresh (device : State) : ResilientReader State := { device }

theorem accounted_fresh (device : State) : (fresh device).Accounted :=
  ⟨rfl, rfl, rfl, Nat.le_refl _⟩

/-- Calls one after the other. -/
def afterCalls (device : State) (calls : List ReadCall) : ResilientReader State :=
  calls.foldl (fun state call => (call.perform reader policy state).2) (fresh device)

theorem accounted_afterCalls (device : State) (calls : List ReadCall) :
    (afterCalls reader policy device calls).Accounted := by
  refine List.foldlRecOn calls _ (motive := ResilientReader.Accounted) (accounted_fresh device) ?_
  intro state accounted call _
  rcases range : call.range with error | ⟨offset, length⟩
  · rw [ReadCall.perform_invalid reader policy range]
    exact accounted
  · rcases ReadCall.perform_valid reader policy range
      accounted with ⟨data, after, returned, kept, _⟩
    rw [returned]
    exact kept

/-- After any calls, the next call keeps the accounts. On a valid range it returns as many bytes as
were asked for, which are those of its last raw read unless it recorded the range as a gap; on any
other it raises and reads nothing. -/
theorem accounted_perform (device : State) (calls : List ReadCall) (call : ReadCall) :
    (call.perform reader policy (afterCalls reader policy device calls)).2.Accounted ∧
      match call.range with
      | .error error => call.perform reader policy (afterCalls reader policy device calls) =
          (.error error, afterCalls reader policy device calls)
      | .ok (offset, length) =>
        ∃ data, (call.perform reader policy (afterCalls reader policy device calls)).1 = .ok data ∧
          Reads policy offset length (afterCalls reader policy device calls)
            (call.perform reader policy (afterCalls reader policy device calls)).2 data := by
  have accounted := accounted_afterCalls reader policy device calls
  rcases range : call.range with error | ⟨offset, length⟩
  · rw [ReadCall.perform_invalid reader policy range]
    exact ⟨accounted, rfl⟩
  · rcases ReadCall.perform_valid reader policy range accounted with
      ⟨data, after, returned, kept, reads⟩
    rw [returned]
    exact ⟨kept, data, rfl, reads⟩

end Reperio.ResilientReader
