import Mathlib.Data.Prod.Lex
import Mathlib.Order.OrderDual
import Reperio.Concurrency.Transaction
import Reperio.Encoding.Frames
import Reperio.Jobs.Operations
import Reperio.Python.Json
import Reperio.Python.Utf8

/-!
# Stage checkpoints

`checkpoints.py`: the statements on the table `checkpoints`, which
`media_checkpoints.py` issues as well, and the functions of the module. A save
is one transaction, a load one statement.
-/

namespace Reperio

open Python Relational Concurrency Encoding

def supportedCheckpointVersion : ℤ := 1

def maxCheckpointText : ℕ := 128

/-! ## Statements -/

/-- The statements that saving and loading issue. -/
inductive CheckpointStatement where
  | selectLatest (jobId stage : String)
  | insert (row : Checkpoint)
  | setSupersededBy (supersededBy checkpointId : String)

namespace CheckpointStatement

@[reducible]
def Reply : CheckpointStatement → Type
  | selectLatest .. => Option Checkpoint
  | insert .. => Except PyError ℕ
  | setSupersededBy .. => Except PyError ℕ

variable {runtime : Runtime}

/-- The rows of a job and a stage. -/
def ofStage (jobId stage : String) (row : Checkpoint) : Bool :=
  decide (row.jobId = jobId) && decide (row.stage = stage)

/-- `ORDER BY created_at DESC, checkpoint_id DESC`. -/
def newestFirst (row : Checkpoint) : (Lex (String × String))ᵒᵈ :=
  OrderDual.toDual (toLex (row.createdAt, row.checkpointId))

/-- `INSERT` with the foreign keys of `job_id` and `supersedes_checkpoint_id`. -/
def insertRow (catalog : Catalog runtime) (row : Checkpoint) : Catalog runtime × Except PyError ℕ :=
  match catalog.checkpoints.insert row with
  | none => (catalog, .error .integrityError)
  | some checkpoints =>
    if (catalog.jobs.lookup row.jobId).isSome &&
        row.supersedesCheckpointId.all fun id => (checkpoints.lookup id).isSome then
      ({ catalog with checkpoints }, .ok 1)
    else (catalog, .error .integrityError)

/-- `UPDATE` with the foreign key of `superseded_by_checkpoint_id`. -/
def updateRow (catalog : Catalog runtime) (supersededBy checkpointId : String) :
    Catalog runtime × Except PyError ℕ :=
  match catalog.checkpoints.update (fun row => decide (row.checkpointId = checkpointId))
      fun row => { row with supersededByCheckpointId := some supersededBy } with
  | none => (catalog, .error .integrityError)
  | some (checkpoints, count) =>
    if count = 0 || (checkpoints.lookup supersededBy).isSome then
      ({ catalog with checkpoints }, .ok count)
    else (catalog, .error .integrityError)

def perform :
    (statement : CheckpointStatement) → Catalog runtime → Catalog runtime × statement.Reply
  | selectLatest jobId stage, catalog =>
    (catalog, (orderLimit newestFirst 1 (catalog.checkpoints.rows.filter fun row =>
      ofStage jobId stage row && row.supersededByCheckpointId.isNone)).head?)
  | insert row, catalog => insertRow catalog row
  | setSupersededBy supersededBy checkpointId, catalog =>
    updateRow catalog supersededBy checkpointId

end CheckpointStatement

abbrev CheckpointProgram := Program CheckpointStatement CheckpointStatement.Reply PyError

/-- A call on a connection, which may open a transaction. -/
abbrev CheckpointCall :=
  Program (Command CheckpointStatement) (Command.Answer CheckpointStatement.Reply) PyError

/-! ## Integrity -/

/-- `str(value)` of an integer. -/
def reprInt (value : ℤ) : Except PyError String := do
  return String.ofList (renderInt (← checkInt value))

/-- What the integrity hash covers. -/
structure IntegrityFields where
  fingerprint : String
  stage : String
  checkpointVersion : ℤ
  toolName : String
  toolVersion : String
  cursorJson : String
  countersJson : String
  blob : List UInt8

/-- The bytes fed to the hash; a length of more than eight bytes raises. -/
def integrityStream (fields : IntegrityFields) : Except PyError (List UInt8) := do
  let version ← reprInt fields.checkpointVersion
  match frames? 8 ([fields.fingerprint, fields.stage, version, fields.toolName, fields.toolVersion,
      fields.cursorJson, fields.countersJson].map utf8 ++ [fields.blob]) with
  | some stream => return stream
  | none => throw .overflowError

def integrityHash (runtime : Runtime) (fields : IntegrityFields) : Except PyError String := do
  return runtime.sha256Hex (← integrityStream fields)

namespace Checkpoints

def issue (statement : CheckpointStatement) : CheckpointProgram statement.Reply :=
  Program.query statement

/-- Store a row behind the latest one, which then refers to it. -/
def storeBehind (previous : Option String) (row : Checkpoint) (injectFailureAfterInsert : Bool) :
    CheckpointProgram Unit := do
  Program.ofExcept (Jobs.bindInteger row.checkpointVersion)
  let _ ← Program.ofExcept (← issue (.insert { row with supersedesCheckpointId := previous }))
  if injectFailureAfterInsert then throw (.runtimeError "injected checkpoint failure")
  else
    match previous with
    | none => return ()
    | some checkpointId =>
      let _ ← Program.ofExcept (← issue (.setSupersededBy row.checkpointId checkpointId))
      return ()

/-- What a save does in its transaction. -/
def storeCheckpoint (row : Checkpoint) (injectFailureAfterInsert : Bool) :
    CheckpointProgram Unit := do
  let latest ← issue (.selectLatest row.jobId row.stage)
  storeBehind (latest.map Checkpoint.checkpointId) row injectFailureAfterInsert

/-! ## `save_checkpoint` -/

/-- The arguments of `save_checkpoint`. -/
structure NewCheckpoint where
  checkpointId : String
  jobId : String
  sourceFingerprint : String
  stage : String
  toolName : String
  toolVersion : String
  cursor : PyDict
  counters : PyDict
  blob : List UInt8
  createdAt : String
  checkpointVersion : PyValue := .int supportedCheckpointVersion
  injectFailureAfterInsert : Bool := false

/-- A checkpoint for concrete runs. -/
def NewCheckpoint.sample : NewCheckpoint where
  checkpointId := "ckpt-1"
  jobId := "job-1"
  sourceFingerprint := String.ofList (List.replicate 64 'a')
  stage := "inventory"
  toolName := "scanner"
  toolVersion := "1.0"
  cursor := [(.str "offset", .int 1)]
  counters := [(.str "files", .int 2)]
  blob := [7]
  createdAt := "2026-08-11T14:40:00Z"

/-- A runtime with the digest of that checkpoint. -/
def sampleRuntime : Runtime := { Runtime.sample with
    sha256Hex _ := "669a2a15fbc64755b28fbb20b7aa357e076d0221f72040145f87b2d7fe7cdc6f" }

/-- A catalog with the job of that checkpoint. -/
def sampleCatalog (runtime : Runtime) : Catalog runtime :=
  ((Jobs.createJob runtime .sample).run JobStatement.perform (Catalog.initial runtime [])).1

def isSha256 (text : String) : Bool := decide (text.length = 64) &&
    text.toList.all fun char => decide (char ∈ "0123456789abcdef".toList)

def validateVersion : PyValue → Except PyError ℤ
  | .int value =>
    if 0 < value then .ok value
    else .error (.checkpointError "checkpoint version is invalid" true)
  | _ => .error (.checkpointError "checkpoint version is invalid" true)

def isCheckpointText (value : String) : Bool :=
  !value.isEmpty && decide (value.length ≤ maxCheckpointText) &&
    !value.toList.contains (Char.ofNat 0)

def validateText (label value : String) : Except PyError Unit :=
  if isCheckpointText value then .ok ()
  else .error (.checkpointError ("checkpoint " ++ label ++ " is invalid") true)

/-- `_validate_checkpoint_inputs`, with the version as the integer it is. -/
def validateCheckpointInputs (new : NewCheckpoint) : Except PyError ℤ := do
  if !isSha256 new.sourceFingerprint then
    throw (.checkpointError "checkpoint source fingerprint is invalid" true)
  else
    let version ← validateVersion new.checkpointVersion
    validateText "stage" new.stage
    validateText "tool name" new.toolName
    validateText "tool version" new.toolVersion
    return version

variable (runtime : Runtime)

/-- `_canonical_json` of this module: whatever `json.dumps` raises becomes a `CheckpointError`. -/
def canonicalJson (payload : PyDict) : Except PyError String :=
  match dumps false runtime.recursionLimit (.dict payload) with
  | .ok text => .ok text
  | .error _ => .error (.checkpointError "checkpoint payload is not canonical JSON" true)

/-- The row that `save_checkpoint` stores, before it is linked. -/
def newRow (new : NewCheckpoint) : Except PyError Checkpoint := do
  let checkpointVersion ← validateCheckpointInputs new
  let cursorJson ← canonicalJson runtime new.cursor
  let countersJson ← canonicalJson runtime new.counters
  let integritySha256 ← integrityHash runtime
    { fingerprint := new.sourceFingerprint, stage := new.stage, checkpointVersion,
      toolName := new.toolName, toolVersion := new.toolVersion, cursorJson, countersJson,
      blob := new.blob }
  return { checkpointId := new.checkpointId, jobId := new.jobId, caseId := none,
           sourceFingerprint := new.sourceFingerprint, mediumIdentityJson := none,
           stage := new.stage, checkpointVersion, toolName := new.toolName,
           toolVersion := new.toolVersion, cursorJson, countersJson, blob := new.blob,
           integritySha256, supersedesCheckpointId := none, supersededByCheckpointId := none,
           createdAt := new.createdAt }

def saveCheckpoint (new : NewCheckpoint) : CheckpointCall Unit := do
  let row ← Program.ofExcept (newRow runtime new)
  (storeCheckpoint row new.injectFailureAfterInsert).atomically .operationalError

/-! ## `load_latest_checkpoint` -/

/-- A checkpoint that was loaded and is trusted. -/
structure CheckpointRecord where
  checkpointId : String
  jobId : String
  sourceFingerprint : String
  stage : String
  checkpointVersion : ℤ
  toolName : String
  toolVersion : String
  cursor : PyDict
  counters : PyDict
  blob : List UInt8
  integritySha256 : String
  supersedesCheckpointId : Option String

def recordFromRow (row : Checkpoint) : Except PyError CheckpointRecord :=
  match loads runtime.recursionLimit row.cursorJson,
      loads runtime.recursionLimit row.countersJson with
  | .ok (.dict cursor), .ok (.dict counters) =>
    .ok { checkpointId := row.checkpointId, jobId := row.jobId,
          sourceFingerprint := row.sourceFingerprint, stage := row.stage,
          checkpointVersion := row.checkpointVersion, toolName := row.toolName,
          toolVersion := row.toolVersion, cursor, counters, blob := row.blob,
          integritySha256 := row.integritySha256,
          supersedesCheckpointId := row.supersedesCheckpointId }
  | _, _ => .error (.checkpointError "checkpoint record is malformed; restart stage" true)

/-- What a load hashes: the cursor and the counters are written again. -/
def recordFields (record : CheckpointRecord) : Except PyError IntegrityFields := do
  let cursorJson ← canonicalJson runtime record.cursor
  let countersJson ← canonicalJson runtime record.counters
  return { fingerprint := record.sourceFingerprint, stage := record.stage,
           checkpointVersion := record.checkpointVersion, toolName := record.toolName,
           toolVersion := record.toolVersion, cursorJson, countersJson, blob := record.blob }

/-- The arguments of `load_latest_checkpoint`. -/
structure Resumption where
  jobId : String
  sourceFingerprint : String
  stage : String
  toolName : String
  toolVersion : String

/-- The record of a row, if the stage can be resumed from it. -/
def trustedRecord (resumption : Resumption) (row : Checkpoint) :
    Except PyError CheckpointRecord := do
  let record ← recordFromRow runtime row
  if record.checkpointVersion ≠ supportedCheckpointVersion then
    throw (.checkpointError "unsupported checkpoint version; restart stage" true)
  else if record.sourceFingerprint ≠ resumption.sourceFingerprint then
    throw (.checkpointError "checkpoint source fingerprint mismatch; restart stage" true)
  else if record.toolName ≠ resumption.toolName ∨ record.toolVersion ≠ resumption.toolVersion then
    throw (.checkpointError "checkpoint tool version mismatch; restart stage" true)
  else
    let expected ← integrityHash runtime (← recordFields runtime record)
    if expected ≠ record.integritySha256 then
      throw (.checkpointError "checkpoint integrity hash mismatch; restart stage" true)
    else return record

def loadLatestCheckpoint (resumption : Resumption) : CheckpointProgram CheckpointRecord := do
  match ← issue (.selectLatest resumption.jobId resumption.stage) with
  | none => throw (.checkpointError "no checkpoint is available; restart stage" true)
  | some row => Program.ofExcept (trustedRecord runtime resumption row)

end Checkpoints

end Reperio
