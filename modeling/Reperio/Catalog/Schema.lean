import Mathlib.Data.List.TakeWhile
import Reperio.Python.Timestamp
import Reperio.Relational.Table

/-!
# The catalog schema

The tables `jobs`, `events` and `checkpoints` of the SQLite catalog with every
constraint that `catalog_schema.py` puts on them, and of `scan_cases` the
primary keys, which the other tables refer to. `NOT NULL` and `STRICT` are the
types of the columns; an enumeration checked by `IN (...)` is an inductive type
with the texts of the schema.

What the catalog code takes from outside is gathered in `Runtime`: the
recursion limit of the interpreter, SQLite's `json_valid` and its bound on the
number of variables of a statement, and the hexadecimal SHA-256 digest.
-/

namespace Reperio

open Python Relational

/-- What the interpreter and SQLite answer, and their bounds. -/
structure Runtime where
  recursionLimit : ℕ
  jsonValid : String → Bool
  maxVariableNumber : ℕ
  sha256Hex : List UInt8 → String

/-- A runtime for concrete runs: what is stored in them is valid JSON, and no text is that is nested
deeper than 1000. -/
def Runtime.sample : Runtime where
  recursionLimit := 10000
  jsonValid text := decide (text.utf8ByteSize ≤ 2000)
  maxVariableNumber := 32766
  sha256Hex _ := ""

/-- The characters SQLite sees in a text: those before the first NUL. -/
def sqlChars (text : String) : List Char := text.toList.takeWhile fun char => char.toNat != 0

/-- `CANONICAL_TIMESTAMP_CHECK`. -/
def timestampCheck (text : String) : Bool := let chars := sqlChars text
  chars.length == 20 && chars[4]? == some '-' && chars[7]? == some '-' && chars[10]? == some 'T' &&
    chars[13]? == some ':' && chars[16]? == some ':' && chars[19]? == some 'Z'

/-! ## Jobs -/

/-- The states of a job. -/
inductive JobState where
  | pending
  | leased
  | running
  | paused
  | retrying
  | completed
  | completedWarning
  | failed
  | cancelled
  deriving DecidableEq, Repr

namespace JobState

def text : JobState → String
  | pending => "pending"
  | leased => "leased"
  | running => "running"
  | paused => "paused"
  | retrying => "retrying"
  | completed => "completed"
  | completedWarning => "completed-warning"
  | failed => "failed"
  | cancelled => "cancelled"

def all : List JobState :=
  [pending, leased, running, paused, retrying, completed, completedWarning, failed, cancelled]

def ofText? (name : String) : Option JobState := all.find? fun state => state.text == name

theorem ofText?_text (state : JobState) : ofText? state.text = some state := by
  cases state <;> decide

theorem text_of_ofText? {name : String} {state : JobState} (found : ofText? name = some state) :
    state.text = name := by
  simpa using List.find?_some found

theorem text_injective {first second : JobState} (same : first.text = second.text) :
    first = second := by
  rw [← Option.some.injEq, ← ofText?_text first, ← ofText?_text second, same]

end JobState

/-- The types of jobs. -/
inductive JobType where
  | scan
  | enrich
  | exportJob
  | notify
  | maintenance
  deriving DecidableEq, Repr

namespace JobType

def text : JobType → String
  | scan => "scan"
  | enrich => "enrich"
  | exportJob => "export"
  | notify => "notify"
  | maintenance => "maintenance"

def all : List JobType := [scan, enrich, exportJob, notify, maintenance]

def ofText? (name : String) : Option JobType := all.find? fun jobType => jobType.text == name

theorem text_of_ofText? {name : String} {jobType : JobType}
    (found : ofText? name = some jobType) : jobType.text = name := by
  simpa using List.find?_some found

end JobType

/-- A row of `jobs`. -/
structure Job where
  jobId : String
  caseId : Option String
  jobType : JobType
  state : JobState
  inputJson : String
  idempotencyKey : String
  attempts : ℤ
  maxAttempts : ℤ
  leaseOwner : Option String
  leaseExpiresAt : Option String
  retryAfterAt : Option String
  errorJson : Option String
  createdAt : String
  updatedAt : String
  deriving DecidableEq, Repr

def Job.check (runtime : Runtime) (row : Job) : Bool :=
  runtime.jsonValid row.inputJson && decide (0 ≤ row.attempts) && decide (1 ≤ row.maxAttempts) &&
    row.leaseExpiresAt.all timestampCheck && row.retryAfterAt.all timestampCheck &&
    row.errorJson.all runtime.jsonValid && timestampCheck row.createdAt &&
    timestampCheck row.updatedAt

theorem Job.check_iff {runtime : Runtime} {row : Job} : row.check runtime = true ↔
      runtime.jsonValid row.inputJson = true ∧ 0 ≤ row.attempts ∧ 1 ≤ row.maxAttempts ∧
        row.leaseExpiresAt.all timestampCheck = true ∧
        row.retryAfterAt.all timestampCheck = true ∧
        row.errorJson.all runtime.jsonValid = true ∧ timestampCheck row.createdAt = true ∧
        timestampCheck row.updatedAt = true := by
  simp only [Job.check, Bool.and_eq_true, decide_eq_true_eq, and_assoc]

/-- `jobs`: the primary key is `job_id`, and `idempotency_key` is unique. -/
def jobsSchema (runtime : Runtime) : Schema Job String where
  key := Job.jobId
  Check row := row.check runtime = true
  Clash first second := first.jobId = second.jobId ∨ first.idempotencyKey = second.idempotencyKey
  clash_of_key_eq := fun _ _ same => Or.inl same

/-! ## Events -/

/-- A row of `events`. -/
structure Event where
  eventId : String
  caseId : Option String
  sequence : ℕ
  jobId : Option String
  eventType : String
  payloadJson : String
  publishedAt : Option String
  createdAt : String
  deriving DecidableEq, Repr

def Event.check (runtime : Runtime) (row : Event) : Bool :=
  decide (0 < row.sequence) && runtime.jsonValid row.payloadJson &&
    row.publishedAt.all timestampCheck && timestampCheck row.createdAt

/-- `events`: `idx_events_case_sequence` is unique where `case_id` is not null. -/
def eventsSchema (runtime : Runtime) : Schema Event String where
  key := Event.eventId
  Check row := row.check runtime = true
  Clash first second := first.eventId = second.eventId ∨
      first.caseId.isSome ∧ first.caseId = second.caseId ∧ first.sequence = second.sequence
  clash_of_key_eq := fun _ _ same => Or.inl same

/-! ## Checkpoints -/

/-- A row of `checkpoints`, with text as the code writes it. -/
structure Checkpoint where
  checkpointId : String
  jobId : String
  caseId : Option String
  sourceFingerprint : String
  mediumIdentityJson : Option String
  stage : String
  checkpointVersion : ℤ
  toolName : String
  toolVersion : String
  cursorJson : String
  countersJson : String
  blob : List UInt8
  integritySha256 : String
  supersedesCheckpointId : Option String
  supersededByCheckpointId : Option String
  createdAt : String
  deriving DecidableEq

def Checkpoint.check (runtime : Runtime) (row : Checkpoint) : Bool :=
  (sqlChars row.sourceFingerprint).length == 64 &&
    row.mediumIdentityJson.all runtime.jsonValid && decide (0 < row.checkpointVersion) &&
    runtime.jsonValid row.cursorJson && runtime.jsonValid row.countersJson &&
    (sqlChars row.integritySha256).length == 64 && timestampCheck row.createdAt

def checkpointsSchema (runtime : Runtime) : Schema Checkpoint String where
  key := Checkpoint.checkpointId
  Check row := row.check runtime = true
  Clash first second := first.checkpointId = second.checkpointId
  clash_of_key_eq := fun _ _ same => same

/-- The tables of jobs, events and checkpoints. -/
structure Catalog (runtime : Runtime) where
  scanCases : List String
  jobs : Table (jobsSchema runtime)
  events : Table (eventsSchema runtime)
  checkpoints : Table (checkpointsSchema runtime)

/-- A migrated catalog in which only cases were registered. -/
def Catalog.initial (runtime : Runtime) (scanCases : List String) : Catalog runtime where
  scanCases
  jobs := .empty
  events := .empty
  checkpoints := .empty

/-! ## Canonical timestamps pass the check -/

theorem digitChar_toNat_ne_zero (digit : ℕ) (small : digit < 10) :
    (Nat.digitChar digit).toNat ≠ 0 := by
  revert digit
  decide

theorem timestampCheck_strftime (instant : DateTime) :
    timestampCheck (strftime instant) = true := by
  have year := instant.year_high
  have month := instant.month_high
  have day := instant.day_lt
  have hour := instant.hour_high
  have minute := instant.minute_high
  have second := instant.second_high
  have noNul : ∀ char ∈ strftimeChars instant, (char.toNat != 0) = true := by
    intro char member
    simp only [strftimeChars, List.mem_append, List.mem_cons, List.not_mem_nil, or_false] at member
    have digit : (∃ digit < 10, Nat.digitChar digit = char) ∨ char = '-' ∨ char = 'T' ∨
        char = ':' ∨ char = 'Z' := by
      rcases member with isYear | rfl | isMonth | rfl | isDay | rfl | isHour | rfl | isMinute |
        rfl | isSecond | rfl
      · exact Or.inl (mem_pad4 (by omega) isYear)
      · simp
      · exact Or.inl (mem_pad2 (by omega) isMonth)
      · simp
      · exact Or.inl (mem_pad2 (by omega) isDay)
      · simp
      · exact Or.inl (mem_pad2 (by omega) isHour)
      · simp
      · exact Or.inl (mem_pad2 (by omega) isMinute)
      · simp
      · exact Or.inl (mem_pad2 (by omega) isSecond)
      · simp
    rcases digit with ⟨digit, small, rfl⟩ | rfl | rfl | rfl | rfl
    · simpa using digitChar_toNat_ne_zero digit small
    · decide
    · decide
    · decide
    · decide
  have seen : sqlChars (strftime instant) = strftimeChars instant := by
    rw [sqlChars, strftime, String.toList_ofList]
    exact List.takeWhile_eq_self_iff.mpr noNul
  simp only [timestampCheck, seen]
  rfl

end Reperio
