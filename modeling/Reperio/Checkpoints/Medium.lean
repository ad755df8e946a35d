import Reperio.Checkpoints.Store
import Reperio.Media.Identity

/-!
# Medium checkpoints

`media_checkpoints.py`: checkpoints in the same table, bound to the identity of
a medium instead of a source fingerprint, and the decision whether a scan may
resume on the medium that is in the reader now.
-/

namespace Reperio

open Python Concurrency

def mediumCheckpointVersion : ℤ := 1

/-- Whether a stage may resume with the medium, and why not. -/
structure ResumeEligibility where
  eligible : Bool
  reason : Option String
  offersNewCase : Bool
  mediumIdentityKey : String
  deriving DecidableEq, Repr

/-- A checkpoint with the identity of its medium. -/
structure MediumCheckpointRecord where
  checkpointId : String
  jobId : String
  mediumIdentityKey : String
  mediumIdentityJson : Option String
  stage : String
  checkpointVersion : ℤ
  toolName : String
  toolVersion : String
  cursor : PyDict
  counters : PyDict
  blob : List UInt8
  integritySha256 : String

namespace MediumCheckpoints

open MediaIdentity

variable (runtime : Runtime)

/-- `_canonical_json` of this module: special floats are written, and errors pass as they are. -/
def canonicalJson (payload : PyValue) : Except PyError String :=
  dumps true runtime.recursionLimit payload

/-! ## Identity and eligibility -/

/-- What the key of a medium is computed from. -/
def mediumBasis (record signals : PyDict) : PyValue :=
  .dict [(.str "reader_id", record.get "reader_id"), (.str "medium_signals", .dict signals)]

def mediumIdentityKey (record : PyDict) : Except PyError String := do
  let validation ← validateMediaIdentity record
  if !validation.valid then
    throw (.mediaCheckpointError
      ("invalid medium identity: " ++ ", ".intercalate validation.warnings) true)
  else
    match record.get "medium_signals" with
    | .dict signals =>
      if !isPlausibleSignals signals then throw (.mediaCheckpointError "no medium present" true)
      else
        let canonical ← canonicalJson runtime (mediumBasis record signals)
        return runtime.sha256Hex (utf8 canonical)
    | _ => throw (.mediaCheckpointError "missing medium signals" true)

/-- `record.get("medium_signals") or {}`. -/
def signalsOf (record : PyDict) : PyDict := match record.get "medium_signals" with
  | .dict signals => signals
  | _ => []

def differenceReason (previous current : PyDict) : Except PyError String := do
  if !(previous.get "capacity_bytes").eq (current.get "capacity_bytes") then
    return "capacity_changed"
  else
    match normalizedFingerprint (previous.get "sampled_fingerprint_sha256"),
        normalizedFingerprint (current.get "sampled_fingerprint_sha256") with
    | some previousFingerprint, some currentFingerprint =>
      if previousFingerprint ≠ currentFingerprint then return "fingerprint_changed"
      else if (← canonicalJson runtime (previous.get "toc_sessions")) ≠
          (← canonicalJson runtime (current.get "toc_sessions")) then
        return "toc_sessions_changed"
      else if (← canonicalJson runtime (previous.get "geometry")) ≠
          (← canonicalJson runtime (current.get "geometry")) then
        return "geometry_changed"
      else if !(nonnegativeInt (previous.get "media_change_generation")).eq
          (nonnegativeInt (current.get "media_change_generation")) then
        return "media_replaced"
      else return "medium_identity_changed"
    | _, _ => return "unreadable_sample_identity_weak"

def resumeEligibility (previous : PyValue) (current : PyDict) :
    Except PyError ResumeEligibility := do
  match previous with
  | .none =>
    let currentKey ← mediumIdentityKey runtime current
    return ⟨false, some "no_previous_medium", true, currentKey⟩
  | .dict previous =>
    match mediumIdentityKey runtime previous with
    | .error (.mediaCheckpointError message _) =>
      let currentKey ← mediumIdentityKey runtime current
      return ⟨false, some message, true, currentKey⟩
    | .error error => throw error
    | .ok previousKey =>
      let currentKey ← mediumIdentityKey runtime current
      if previousKey = currentKey then return ⟨true, none, false, currentKey⟩
      else
        let reason ← differenceReason runtime (signalsOf previous) (signalsOf current)
        return ⟨false, some reason, true, currentKey⟩
  | _ => throw .attributeError

/-! ## `save_medium_checkpoint` -/

/-- The arguments of `save_medium_checkpoint`. -/
structure NewMediumCheckpoint where
  checkpointId : String
  jobId : String
  mediumIdentity : PyDict
  stage : String
  toolName : String
  toolVersion : String
  cursor : PyDict
  counters : PyDict
  blob : List UInt8
  createdAt : String

def newRow (new : NewMediumCheckpoint) : Except PyError Checkpoint := do
  let mediumKey ← mediumIdentityKey runtime new.mediumIdentity
  let mediumJson ← canonicalJson runtime (.dict new.mediumIdentity)
  let cursorJson ← canonicalJson runtime (.dict new.cursor)
  let countersJson ← canonicalJson runtime (.dict new.counters)
  let integritySha256 ← integrityHash runtime
    { fingerprint := mediumKey, stage := new.stage, checkpointVersion := mediumCheckpointVersion,
      toolName := new.toolName, toolVersion := new.toolVersion, cursorJson, countersJson,
      blob := new.blob }
  return { checkpointId := new.checkpointId, jobId := new.jobId, caseId := none,
           sourceFingerprint := mediumKey, mediumIdentityJson := some mediumJson,
           stage := new.stage, checkpointVersion := mediumCheckpointVersion,
           toolName := new.toolName, toolVersion := new.toolVersion, cursorJson, countersJson,
           blob := new.blob, integritySha256, supersedesCheckpointId := none,
           supersededByCheckpointId := none, createdAt := new.createdAt }

def saveMediumCheckpoint (new : NewMediumCheckpoint) : CheckpointCall Unit := do
  let row ← Program.ofExcept (newRow runtime new)
  (Checkpoints.storeCheckpoint row false).atomically .operationalError

/-! ## `load_medium_checkpoint` -/

def recordFromRow (row : Checkpoint) : Except PyError MediumCheckpointRecord := do
  let cursor ← dictOf (← loads runtime.recursionLimit row.cursorJson)
  let counters ← dictOf (← loads runtime.recursionLimit row.countersJson)
  return { checkpointId := row.checkpointId, jobId := row.jobId,
           mediumIdentityKey := row.sourceFingerprint, mediumIdentityJson := row.mediumIdentityJson,
           stage := row.stage, checkpointVersion := row.checkpointVersion, toolName := row.toolName,
           toolVersion := row.toolVersion, cursor, counters, blob := row.blob,
           integritySha256 := row.integritySha256 }

/-- The medium identity that a row was saved with. -/
def previousMedium (mediumIdentityJson : Option String) : Except PyError PyValue :=
  match mediumIdentityJson with
  | none => .ok .none
  | some text =>
    match loads runtime.recursionLimit text with
    | .ok value => .ok value
    | .error .jsonDecodeError =>
      .error (.mediaCheckpointError "stored medium identity is corrupt" true)
    | .error error => .error error

/-- What a load hashes: the cursor and the counters are written again. -/
def recordFields (record : MediumCheckpointRecord) : Except PyError IntegrityFields := do
  let cursorJson ← canonicalJson runtime (.dict record.cursor)
  let countersJson ← canonicalJson runtime (.dict record.counters)
  return { fingerprint := record.mediumIdentityKey, stage := record.stage,
           checkpointVersion := record.checkpointVersion, toolName := record.toolName,
           toolVersion := record.toolVersion, cursorJson, countersJson, blob := record.blob }

/-- The arguments of `load_medium_checkpoint`. -/
structure MediumResumption where
  jobId : String
  mediumIdentity : PyDict
  stage : String
  toolName : String
  toolVersion : String

/-- The record of a row and its eligibility, if the stage can be resumed from it. -/
def trustedRecord (resumption : MediumResumption) (row : Checkpoint) :
    Except PyError (MediumCheckpointRecord × ResumeEligibility) := do
  let record ← recordFromRow runtime row
  let previous ← previousMedium runtime record.mediumIdentityJson
  let eligibility ← resumeEligibility runtime previous resumption.mediumIdentity
  if !eligibility.eligible then
    throw (.mediaCheckpointError
      ("checkpoint medium mismatch: " ++ eligibility.reason.getD "None") true)
  else if record.checkpointVersion ≠ mediumCheckpointVersion then
    throw (.mediaCheckpointError "unsupported medium checkpoint version; restart stage" true)
  else if record.toolName ≠ resumption.toolName ∨ record.toolVersion ≠ resumption.toolVersion then
    throw (.mediaCheckpointError "checkpoint tool version mismatch; restart stage" true)
  else
    let expected ← integrityHash runtime (← recordFields runtime record)
    if expected ≠ record.integritySha256 then
      throw (.mediaCheckpointError "checkpoint integrity hash mismatch; restart stage" true)
    else return (record, eligibility)

def loadMediumCheckpoint (resumption : MediumResumption) :
    CheckpointProgram (Option MediumCheckpointRecord × ResumeEligibility) := do
  let current ← Program.ofExcept (resumeEligibility runtime .none resumption.mediumIdentity)
  match ← Checkpoints.issue (.selectLatest resumption.jobId resumption.stage) with
  | none => return (none, ⟨false, some "no_checkpoint", false, current.mediumIdentityKey⟩)
  | some row =>
    let (record, eligibility) ← Program.ofExcept (trustedRecord runtime resumption row)
    return (some record, eligibility)

end MediumCheckpoints

end Reperio
