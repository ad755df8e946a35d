import Reperio.Checkpoints.Chain
import Reperio.Python.JsonCanonical

/-!
# Resuming from a saved checkpoint

What a load gives back after a save that returned. The load writes the decoded
cursor and counters again and compares hashes, so it succeeds exactly when they
were canonical as they were first written: `sort_keys` sorts the keys before
they become strings, and `{9: …, 10: …}` is written in another order than it is
read.
-/

namespace Reperio

open Python Relational Concurrency

variable {runtime : Runtime}

variable {payload : PyDict} {new : NewCheckpoint}

namespace Checkpoints

/-- The keys of every mapping in the payload, in the order in which they are written, increase
strictly as the strings that are read back. -/
def WrittenCanonically (runtime : Runtime) (payload : PyDict) : Prop :=
  ∃ json, toJson false runtime.recursionLimit (.dict payload) = .ok json ∧ json.joined.Canonical

theorem canonicalJson_eq_ok {text : String} : canonicalJson runtime payload = .ok text ↔
      dumps false runtime.recursionLimit (.dict payload) = .ok text := by
  rw [canonicalJson]
  cases dumps false runtime.recursionLimit (.dict payload) with
  | ok other => rfl
  | error error => simp

theorem toJson_dict {allowNan : Bool} {limit : ℕ} {json : Json}
    (written : toJson allowNan limit (.dict payload) = .ok json) :
    ∃ members, json = .object members := by
  cases limit with
  | zero => cases written
  | succ limit =>
    rw [toJson] at written
    rcases bind_eq_ok written with ⟨members, _, isObject⟩
    cases isObject
    exact ⟨members, rfl⟩

/-- Reading what was written gives a mapping, which is written as it was exactly when it was
written canonically. -/
theorem canonicalJson_again {text : String} (written : canonicalJson runtime payload = .ok text) :
    ∃ items again, loads runtime.recursionLimit text = .ok (.dict items) ∧
      canonicalJson runtime items = .ok again ∧
      (again = text ↔ WrittenCanonically runtime payload) := by
  rcases bind_eq_ok (canonicalJson_eq_ok.mp written) with ⟨json, isJson, isText⟩
  obtain rfl := Except.ok.inj isText
  have fits := fits_toJson (.dict payload) isJson
  have read := loads_render fits
  have again := dumps_ofJson_joined fits
  rcases toJson_dict isJson with ⟨members, rfl⟩
  rw [Json.joined, ofJson] at read again
  refine ⟨_, _, read, canonicalJson_eq_ok.mpr again, ?_⟩
  rw [String.ofList_inj, ← Json.joined, render_sorted_eq_iff_canonical fits, WrittenCanonically]
  constructor
  · intro canonical
    exact ⟨_, isJson, canonical⟩
  · rintro ⟨other, isOther, canonical⟩
    obtain rfl := Except.ok.inj (isJson.symm.trans isOther)
    exact canonical

/-- The arguments with which a saved checkpoint is loaded again. -/
def NewCheckpoint.resumption (new : NewCheckpoint) : Resumption where
  jobId := new.jobId
  sourceFingerprint := new.sourceFingerprint
  stage := new.stage
  toolName := new.toolName
  toolVersion := new.toolVersion

/-- A load gives back what was saved. -/
def Resumes (catalog : Catalog runtime) (new : NewCheckpoint) : Prop :=
  ∃ record, ((loadLatestCheckpoint runtime new.resumption).run CheckpointStatement.perform
      catalog).2 = .ok record ∧
    record.blob = new.blob ∧
    canonicalJson runtime record.cursor = canonicalJson runtime new.cursor ∧
    canonicalJson runtime record.counters = canonicalJson runtime new.counters

/-- What the integrity hash of a row covers. -/
def integrityFields (row : Checkpoint) : IntegrityFields where
  fingerprint := row.sourceFingerprint
  stage := row.stage
  checkpointVersion := row.checkpointVersion
  toolName := row.toolName
  toolVersion := row.toolVersion
  cursorJson := row.cursorJson
  countersJson := row.countersJson
  blob := row.blob

/-- The row that `save_checkpoint` stores. -/
structure IsRowOf (runtime : Runtime) (new : NewCheckpoint) (row : Checkpoint) : Prop where
  version : validateCheckpointInputs new = .ok row.checkpointVersion
  cursor : canonicalJson runtime new.cursor = .ok row.cursorJson
  counters : canonicalJson runtime new.counters = .ok row.countersJson
  hash : integrityHash runtime (integrityFields row) = .ok row.integritySha256
  jobId : row.jobId = new.jobId
  sourceFingerprint : row.sourceFingerprint = new.sourceFingerprint
  stage : row.stage = new.stage
  toolName : row.toolName = new.toolName
  toolVersion : row.toolVersion = new.toolVersion
  blob : row.blob = new.blob

theorem isRowOf_newRow {row : Checkpoint} (isRow : newRow runtime new = .ok row) :
    IsRowOf runtime new row := by
  rcases bind_eq_ok isRow with ⟨version, isVersion, isRow⟩
  rcases bind_eq_ok isRow with ⟨cursorJson, isCursor, isRow⟩
  rcases bind_eq_ok isRow with ⟨countersJson, isCounters, isRow⟩
  rcases bind_eq_ok isRow with ⟨integritySha256, isHash, isRow⟩
  cases isRow
  exact ⟨isVersion, isCursor, isCounters, isHash, rfl, rfl, rfl, rfl, rfl, rfl⟩

theorem IsRowOf.behind {row : Checkpoint} (isRow : IsRowOf runtime new row)
    (previous : Option String) :
    IsRowOf runtime new { row with supersedesCheckpointId := previous } :=
  ⟨isRow.version, isRow.cursor, isRow.counters, isRow.hash, isRow.jobId, isRow.sourceFingerprint,
    isRow.stage, isRow.toolName, isRow.toolVersion, isRow.blob⟩

theorem validateCheckpointInputs_version {version : ℤ}
    (valid : validateCheckpointInputs new = .ok version) :
    new.checkpointVersion = .int version := by
  unfold validateCheckpointInputs at valid
  split at valid
  · cases valid
  rcases bind_eq_ok valid with ⟨other, isOther, valid⟩
  rcases bind_eq_ok valid with ⟨_, _, valid⟩
  rcases bind_eq_ok valid with ⟨_, _, valid⟩
  rcases bind_eq_ok valid with ⟨_, _, valid⟩
  cases valid
  unfold validateVersion at isOther
  split at isOther
  · rename_i value isValue
    split at isOther
    · rw [isValue, Except.ok.inj isOther]
    · cases isOther
  · cases isOther

/-- The record of a row, when its texts are those of mappings. -/
def recordOf (row : Checkpoint) (cursor counters : PyDict) : CheckpointRecord where
  checkpointId := row.checkpointId
  jobId := row.jobId
  sourceFingerprint := row.sourceFingerprint
  stage := row.stage
  checkpointVersion := row.checkpointVersion
  toolName := row.toolName
  toolVersion := row.toolVersion
  cursor
  counters
  blob := row.blob
  integritySha256 := row.integritySha256
  supersedesCheckpointId := row.supersedesCheckpointId

theorem recordFromRow_eq_ok {row : Checkpoint} {cursor counters : PyDict}
    (isCursor : loads runtime.recursionLimit row.cursorJson = .ok (.dict cursor))
    (isCounters : loads runtime.recursionLimit row.countersJson = .ok (.dict counters)) :
    recordFromRow runtime row = .ok (recordOf row cursor counters) := by
  rw [recordFromRow, isCursor, isCounters]
  rfl

theorem exists_of_recordFromRow_eq_ok {row : Checkpoint} {record : CheckpointRecord}
    (isRecord : recordFromRow runtime row = .ok record) :
    ∃ cursor counters, loads runtime.recursionLimit row.cursorJson = .ok (.dict cursor) ∧
      loads runtime.recursionLimit row.countersJson = .ok (.dict counters) ∧
      record = recordOf row cursor counters := by
  rw [recordFromRow] at isRecord
  split at isRecord
  · rename_i cursor counters isCursor isCounters
    exact ⟨cursor, counters, isCursor, isCounters, (Except.ok.inj isRecord).symm⟩
  · cases isRecord

/-- Where a load returns the record of a row. -/
theorem trustedRecord_eq_ok {resumption : Resumption} {row : Checkpoint}
    {record : CheckpointRecord} :
    trustedRecord runtime resumption row = .ok record ↔ recordFromRow runtime row = .ok record ∧
        record.checkpointVersion = supportedCheckpointVersion ∧
        record.sourceFingerprint = resumption.sourceFingerprint ∧
        record.toolName = resumption.toolName ∧ record.toolVersion = resumption.toolVersion ∧
        ∃ fields, recordFields runtime record = .ok fields ∧
          integrityHash runtime fields = .ok record.integritySha256 := by
  constructor
  · intro trusted
    rcases bind_eq_ok trusted with ⟨other, isRecord, trusted⟩
    split at trusted
    · cases trusted
    split at trusted
    · cases trusted
    split at trusted
    · cases trusted
    rename_i version source tool
    rcases bind_eq_ok trusted with ⟨fields, isFields, trusted⟩
    rcases bind_eq_ok trusted with ⟨expected, isHash, trusted⟩
    split at trusted
    · cases trusted
    rename_i sameHash
    cases trusted
    rw [not_or, not_not, not_not] at tool
    rw [not_not] at version source sameHash
    exact ⟨isRecord, version, source, tool.1, tool.2, fields, isFields, sameHash ▸ isHash⟩
  · rintro ⟨isRecord, version, source, toolName, toolVersion, fields, isFields, isHash⟩
    rw [trustedRecord, isRecord]
    change (if _ then _ else _) = _
    rw [if_neg (not_not.mpr version), if_neg (not_not.mpr source),
      if_neg (by rw [not_or, not_not, not_not]; exact ⟨toolName, toolVersion⟩), isFields]
    change (integrityHash runtime fields >>= _) = _
    rw [isHash]
    exact if_neg (not_not.mpr rfl)

theorem run_loadLatestCheckpoint {resumption : Resumption} {catalog : Catalog runtime}
    {row : Checkpoint}
    (found : ((CheckpointStatement.selectLatest resumption.jobId resumption.stage).perform
      catalog).2 = some row) :
    ((loadLatestCheckpoint runtime resumption).run CheckpointStatement.perform catalog).2 =
      trustedRecord runtime resumption row := by
  rw [loadLatestCheckpoint, run_issue_bind (.selectLatest resumption.jobId resumption.stage), found]
  dsimp only
  cases trustedRecord runtime resumption row <;> rfl

theorem run_loadLatestCheckpoint_none {resumption : Resumption} {catalog : Catalog runtime}
    (none : ((CheckpointStatement.selectLatest resumption.jobId resumption.stage).perform
      catalog).2 = none) :
    ((loadLatestCheckpoint runtime resumption).run CheckpointStatement.perform catalog).2 =
      .error (.checkpointError "no checkpoint is available; restart stage" true) := by
  rw [loadLatestCheckpoint, run_issue_bind (.selectLatest resumption.jobId resumption.stage), none]
  rfl

open Archive in
/-- After a save that returned, a load finds the row of its arguments. -/
theorem found_after_save {archive : Archive runtime} (chained : archive.Chained)
    (returns : archive.Returns (.stage new)) :
    ∃ row, IsRowOf runtime new row ∧ ((CheckpointStatement.selectLatest new.jobId new.stage).perform
        (archive.save (.stage new)).session.committed).2 = some row := by
  rcases save_cases chained.settled (.stage new) with ⟨raises, _⟩ | ⟨row, _, _, isRow, _, _⟩
  · exact absurd returns raises
  rcases chained.selectLatest_save returns isRow with ⟨previous, found⟩
  have facts := isRowOf_newRow isRow
  refine ⟨_, facts.behind previous, ?_⟩
  rw [← found, facts.jobId, facts.stage]

open Archive in
/-- A checkpoint that was saved can be resumed exactly when its cursor and counters were written
canonically. -/
theorem resumes_iff_writtenCanonically (catalog : Catalog runtime) (calls : List SaveCall)
    {new : NewCheckpoint} (supported : new.checkpointVersion = .int supportedCheckpointVersion)
    (returns : ((start catalog).saveAll calls).Returns (.stage new)) :
    Resumes (((start catalog).saveAll calls).save (.stage new)).session.committed new ↔
      WrittenCanonically runtime new.cursor ∧ WrittenCanonically runtime new.counters := by
  rcases found_after_save ((chained_start catalog).saveAll calls) returns with ⟨row, facts, found⟩
  have ran := @run_loadLatestCheckpoint _ new.resumption _ _ found
  rw [Resumes, ran]
  rcases canonicalJson_again facts.cursor with
    ⟨cursor, cursorAgain, isCursor, cursorWritten, cursorIff⟩
  rcases canonicalJson_again facts.counters with
    ⟨counters, countersAgain, isCounters, countersWritten, countersIff⟩
  rw [← cursorIff, ← countersIff]
  have record := recordFromRow_eq_ok isCursor isCounters
  constructor
  · rintro ⟨other, trusted, _, sameCursor, sameCounters⟩
    obtain rfl := Except.ok.inj ((trustedRecord_eq_ok.mp trusted).1.symm.trans record)
    rw [facts.cursor] at sameCursor
    rw [facts.counters] at sameCounters
    exact ⟨Except.ok.inj (cursorWritten.symm.trans sameCursor),
      Except.ok.inj (countersWritten.symm.trans sameCounters)⟩
  · rintro ⟨rfl, rfl⟩
    refine ⟨_, trustedRecord_eq_ok.mpr ⟨record, ?_, facts.sourceFingerprint, facts.toolName,
      facts.toolVersion, integrityFields row, ?_, facts.hash⟩, facts.blob,
      cursorWritten.trans facts.cursor.symm, countersWritten.trans facts.counters.symm⟩
    · exact PyValue.int.inj
        ((validateCheckpointInputs_version facts.version).symm.trans supported)
    · change (canonicalJson runtime cursor >>= _) = _
      rw [cursorWritten]
      change (canonicalJson runtime counters >>= _) = _
      rw [countersWritten]
      rfl

open Archive in
theorem sample_resumes :
    Resumes ((start (sampleCatalog sampleRuntime)).save (.stage .sample)).session.committed
      .sample := by
  have returns : ((start (sampleCatalog sampleRuntime)).saveAll []).Returns (.stage .sample) :=
    eq_ok_of_toOption (by decide)
  refine (resumes_iff_writtenCanonically _ [] rfl returns).mpr ⟨?_, ?_⟩
  · exact ⟨.object [(.ofString "offset", .int 1)], rfl, by simp [Json.joined, Json.joinedMembers,
      Json.Canonical, Json.CanonicalMembers]⟩
  · exact ⟨.object [(.ofString "files", .int 2)], rfl, by simp [Json.joined, Json.joinedMembers,
      Json.Canonical, Json.CanonicalMembers]⟩

/-- A cursor that counts by number. -/
def numberedCheckpoint : NewCheckpoint := { NewCheckpoint.sample with
    cursor := [(.str "m", .dict [(.int 9, .int 0), (.int 10, .int 0)])] }

/-- A runtime with the digests of that checkpoint: 9 comes first as it is saved, 10 as it is
loaded. -/
def numberedRuntime : Runtime := { Runtime.sample with
    sha256Hex bytes := if bytes[139]? = some 57 then
        "09b6a290252e046f0965dcd658ff439a3a97c529f7104b624431407135a74bd0"
      else "c2f6c265e314bd1552d92c5f3c5ce1eb42a08a816ced213056921d9d92054d0b" }

open Archive in
/-- The save returns, and the load raises that the integrity hash does not match. -/
theorem numbered_not_resumed :
    (start (sampleCatalog numberedRuntime)).Returns (.stage numberedCheckpoint) ∧
      ¬Resumes ((start (sampleCatalog numberedRuntime)).save
        (.stage numberedCheckpoint)).session.committed numberedCheckpoint := by
  refine ⟨eq_ok_of_toOption (by decide), ?_⟩
  have raises : ((loadLatestCheckpoint numberedRuntime numberedCheckpoint.resumption).run
      CheckpointStatement.perform ((start (sampleCatalog numberedRuntime)).save
        (.stage numberedCheckpoint)).session.committed).2.toOption.isNone = true := by
    decide +kernel
  rintro ⟨record, loaded, _⟩
  rw [loaded] at raises
  cases raises

end Checkpoints

end Reperio
