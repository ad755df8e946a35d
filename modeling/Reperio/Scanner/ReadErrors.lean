import Mathlib.Algebra.BigOperators.Group.List.Basic
import Reperio.Python.Value

/-!
# Reads of damaged sources

`scanner/read_errors.py`: a wrapper around a reader that repeats failed reads a
bounded number of times, records the ranges that stay unreadable and counts
what happened. The wrapped reader may give any answer to any read; an exception
that is not an `OSError` ends the scan and is not modelled.
-/

namespace Reperio

open Python

def maxAttempts : ℕ := 16

def maxBackoffMs : ℕ := 60000

def maxErrorRanges : ℕ := 4096

def maxReadLengthBytes : ℕ := 16 * 1024 * 1024

/-- How a policy or a read is refused. -/
inductive ReadErrorHandlingError where
  | readErrorHandlingError (code message : String)
  deriving DecidableEq

/-! ## Policies -/

/-- `type(value) is int`. -/
def exactInt? : PyValue → Option ℤ
  | .int value => some value
  | _ => none

/-- The bounds on retries, with what they must be. -/
structure ReadPolicy where
  maxAttempts : ℕ
  baseBackoffMs : ℕ
  maxErrorRanges : ℕ
  pauseAfterErrors : ℕ
  pauseTemperatureCelsius : Option ℤ
  attempts : 0 < maxAttempts ∧ maxAttempts ≤ Reperio.maxAttempts
  backoff : baseBackoffMs ≤ maxBackoffMs
  ranges : 0 < maxErrorRanges ∧ maxErrorRanges ≤ Reperio.maxErrorRanges
  pause : 0 < pauseAfterErrors ∧ pauseAfterErrors ≤ Reperio.maxErrorRanges

namespace ReadPolicy

/-- `ReadPolicy(...)` of the given arguments. -/
def of
    (maxAttempts baseBackoffMs maxErrorRanges pauseAfterErrors pauseTemperatureCelsius : PyValue) :
    Except ReadErrorHandlingError ReadPolicy :=
  let invalid :=
    .error (.readErrorHandlingError "invalid_policy" "read policy values are out of bounds")
  match exactInt? maxAttempts, exactInt? baseBackoffMs, exactInt? maxErrorRanges,
      exactInt? pauseAfterErrors with
  | some (.ofNat attempts), some (.ofNat backoff), some (.ofNat ranges), some (.ofNat pause) =>
    if valid : (0 < attempts ∧ attempts ≤ Reperio.maxAttempts) ∧ backoff ≤ maxBackoffMs ∧
        (0 < ranges ∧ ranges ≤ Reperio.maxErrorRanges) ∧
          0 < pause ∧ pause ≤ Reperio.maxErrorRanges then
      match pauseTemperatureCelsius with
      | .none => .ok ⟨attempts, backoff, ranges, pause, none, valid.1, valid.2.1, valid.2.2.1,
          valid.2.2.2⟩
      | .int celsius => .ok ⟨attempts, backoff, ranges, pause, some celsius, valid.1, valid.2.1,
          valid.2.2.1, valid.2.2.2⟩
      | _ => invalid
    else invalid
  | _, _, _, _ => invalid

/-- Every policy can be made. -/
theorem exists_of (policy : ReadPolicy) :
    ∃ temperature, of (.int policy.maxAttempts) (.int policy.baseBackoffMs)
      (.int policy.maxErrorRanges) (.int policy.pauseAfterErrors) temperature = .ok policy := by
  rcases policy with ⟨_, _, _, _, temperature, attempts, backoff, ranges, pause⟩
  have valid := And.intro attempts (And.intro backoff (And.intro ranges pause))
  cases temperature with
  | none => exact ⟨.none, dif_pos valid⟩
  | some celsius => exact ⟨.int celsius, dif_pos valid⟩

end ReadPolicy

/-! ## Readers -/

/-- What a raw read ends with. -/
inductive RawRead where
  | data (bytes : List UInt8)
  -- a value that is not `bytes`, with its length if it has one
  | value (length : Option ℕ)
  -- `ReadTimeoutError`
  | timeout
  -- another `OSError`, with the name of its class
  | osError (name : String)
  deriving DecidableEq

/-- The wrapped reader and the two callbacks, which may all act on one state. -/
structure RawReader (State : Type) where
  readAt : ℕ → ℕ → State → RawRead × State
  -- the argument of `sleep`, in milliseconds
  sleep : ℕ → State → State := fun _ state => state
  temperature : State → Option ℤ × State := fun state => (none, state)

/-- Why a range could not be read. -/
inductive ReadErrorCode where
  | readError
  | timeout
  | eio
  | invalidData
  | shortRead
  deriving DecidableEq

/-- A range that could not be read. -/
structure ReadErrorRange where
  offsetBytes : ℕ
  lengthBytes : ℕ
  code : ReadErrorCode
  attempts : ℕ
  deriving DecidableEq

/-- How many reads came out which way. -/
structure ReadCounters where
  attemptedReads : ℕ := 0
  successfulReads : ℕ := 0
  retryReads : ℕ := 0
  failedReads : ℕ := 0
  skippedBytes : ℕ := 0
  recoveredAfterRetry : ℕ := 0
  shortReads : ℕ := 0
  timeouts : ℕ := 0
  invalidReads : ℕ := 0
  deriving DecidableEq

/-- A warning; the details are those of the range that could not be read. -/
structure ReadWarning where
  code : String
  message : String
  details : Option ReadErrorRange
  deriving DecidableEq

/-- What reading one range gives. -/
structure ReadOutcome where
  data : List UInt8
  gap : Option ReadErrorRange
  counters : ReadCounters
  warnings : List ReadWarning
  pauseReason : Option String
  deriving DecidableEq

/-- The state of a `ResilientReader`. The log of all raw reads is ghost state. -/
structure ResilientReader (State : Type) where
  device : State
  counters : ReadCounters := {}
  errorRanges : List ReadErrorRange := []
  log : List (ℕ × ℕ × RawRead) := []

def validateRange (offsetBytes lengthBytes : PyValue) : Except ReadErrorHandlingError (ℕ × ℕ) :=
  match exactInt? offsetBytes, exactInt? lengthBytes with
  | some (.ofNat offset), some (.ofNat length) =>
    if maxReadLengthBytes < length then
      .error (.readErrorHandlingError "range_too_large" "read range exceeds the bounded limit")
    else .ok (offset, length)
  | _, _ => .error (.readErrorHandlingError "invalid_range"
      "read range must be non-negative integers")

namespace ResilientReader

variable {State : Type} (reader : RawReader State) (policy : ReadPolicy)

def count (state : ResilientReader State) (change : ReadCounters → ReadCounters) :
    ResilientReader State :=
  { state with counters := change state.counters }

/-- One raw read, with the code of its failure. -/
def rawRead (offset length attempt : ℕ) (state : ResilientReader State) :
    Except ReadErrorCode (List UInt8) × ResilientReader State :=
  let state := state.count fun counters =>
    { counters with attemptedReads := counters.attemptedReads + 1 }
  let (answer, device) := reader.readAt offset length state.device
  let state := { state with device, log := state.log ++ [(offset, length, answer)] }
  match answer with
  | .timeout => (.error .timeout, state.count fun counters =>
    { counters with timeouts := counters.timeouts + 1 })
  | .osError _ => (.error .eio, state)
  | .value _ => (.error .invalidData, state.count fun counters =>
    { counters with invalidReads := counters.invalidReads + 1 })
  | .data bytes =>
    if bytes.length = length then
      (.ok bytes, state.count fun counters =>
        { counters with
          successfulReads := counters.successfulReads + 1
          recoveredAfterRetry := counters.recoveredAfterRetry + if 1 < attempt then 1 else 0 })
    else
      (.error .shortRead, state.count fun counters =>
        { counters with shortReads := counters.shortReads + 1 })

def backoffMs (attempt : ℕ) : ℕ := min (policy.baseBackoffMs * 2 ^ (attempt - 1)) maxBackoffMs

/-- The failed read is going to be repeated. -/
def retry (attempt : ℕ) (state : ResilientReader State) : ResilientReader State := { state with
    device := reader.sleep (backoffMs policy attempt) state.device
    counters := { state.counters with retryReads := state.counters.retryReads + 1 } }

/-- The loop of `read_or_gap`, with the attempts that are left. -/
def attemptReads (offset length : ℕ) : ℕ → ReadErrorCode → ResilientReader State →
      Except ReadErrorCode (List UInt8) × ResilientReader State
  | 0, lastCode, state => (.error lastCode, state)
  | left + 1, _, state =>
    let attempt := policy.maxAttempts - left
    match rawRead reader offset length attempt state with
    | (.ok bytes, state) => (.ok bytes, state)
    | (.error code, state) =>
      attemptReads offset length left code
        (if attempt < policy.maxAttempts then retry reader policy attempt state else state)

/-- The range is given up. -/
def recordGap (gap : ReadErrorRange) (state : ResilientReader State) : ResilientReader State :=
  { state with
    errorRanges := state.errorRanges ++ [gap]
    counters := { state.counters with
      failedReads := state.counters.failedReads + 1
      skippedBytes := state.counters.skippedBytes + gap.lengthBytes } }

def pauseReason (state : ResilientReader State) : Option String × ResilientReader State :=
  if policy.pauseAfterErrors ≤ state.errorRanges.length then
    (some "read error threshold reached", state)
  else if policy.maxErrorRanges ≤ state.errorRanges.length then
    (some "maximum read error ranges reached", state)
  else
    let (temperature, device) := reader.temperature state.device
    let state := { state with device }
    match temperature, policy.pauseTemperatureCelsius with
    | some celsius, some threshold =>
      (if threshold ≤ celsius then some "source temperature threshold reached" else none, state)
    | _, _ => (none, state)

def gapWarning (error : ReadErrorRange) : ReadWarning :=
  ⟨"read_gap", s!"skipped unreadable range at {error.offsetBytes} length {error.lengthBytes}",
    some error⟩

def warnings (state : ResilientReader State) : List ReadWarning × ResilientReader State :=
  let (reason, after) := pauseReason reader policy state
  (state.errorRanges.map gapWarning ++
    (reason.map fun message => ⟨"read_pause_recommended", message, none⟩).toList, after)

def readOrGap (offsetBytes lengthBytes : PyValue) (state : ResilientReader State) :
    Except ReadErrorHandlingError ReadOutcome × ResilientReader State :=
  match validateRange offsetBytes lengthBytes with
  | .error error => (.error error, state)
  | .ok (offset, length) =>
    match attemptReads reader policy offset length policy.maxAttempts .readError state with
    | (.ok data, state) =>
      let (warnings, after) := warnings reader policy state
      let (pauseReason, after) := pauseReason reader policy after
      (.ok ⟨data, none, state.counters, warnings, pauseReason⟩, after)
    | (.error lastCode, state) =>
      let gap := ⟨offset, length, lastCode, policy.maxAttempts⟩
      let state := state.recordGap gap
      let (pauseReason, after) := pauseReason reader policy state
      let (warnings, after) := warnings reader policy after
      (.ok ⟨List.replicate length 0, some gap, state.counters, warnings, pauseReason⟩, after)

def readAt (offsetBytes lengthBytes : PyValue) (state : ResilientReader State) :
    Except ReadErrorHandlingError (List UInt8) × ResilientReader State :=
  match readOrGap reader policy offsetBytes lengthBytes state with
  | (.error error, state) => (.error error, state)
  | (.ok outcome, state) =>
    match outcome.gap with
    | some gap => (.ok (List.replicate gap.lengthBytes 0), state)
    | none => (.ok outcome.data, state)

end ResilientReader

end Reperio
