import Mathlib.Data.Prod.Lex
import Mathlib.Data.String.Basic
import Reperio.Migrations.Runner
import Reperio.Relational.SchemaObjects
import Reperio.Relational.Table

/-!
# The migrations of the catalog

The bodies of `DEFAULT_MIGRATIONS` as programs of statements on the objects of a
catalog. A table is its columns and its rows as far as a migration reads them: the
events themselves, and of every other table the primary keys that events refer to.
What the columns of the other tables hold is not looked at, so that
`initial_schema_statements` is here the list of the tables with the names of their
columns and of the indexes. The migrations find their statements in that list by
a phrase of the text, which is the beginning of the name of the table or the index.
-/

namespace Reperio.Migrations

open Concurrency Relational

/-! ## Tables -/

/-- A row of `events` before it had sequences. -/
structure LegacyEvent where
  eventId : String
  caseId : Option String
  jobId : Option String
  eventType : String
  payloadJson : String
  publishedAt : Option String
  createdAt : String
  deriving DecidableEq, Repr

/-- A table of events of either kind may have got further columns. -/
inductive StoredTable where
  | legacyEvents (rows : List LegacyEvent) (added : List String)
  | events (rows : List Event) (added : List String)
  | other (columns keys : List String)
  deriving DecidableEq

namespace StoredTable

def legacyColumns : List String :=
  ["event_id", "case_id", "job_id", "event_type", "payload_json", "published_at", "created_at"]

def eventColumns : List String :=
  ["event_id", "case_id", "sequence", "job_id", "event_type", "payload_json", "published_at",
    "created_at"]

def columns : StoredTable → List String
  | legacyEvents _ added => legacyColumns ++ added
  | events _ added => eventColumns ++ added
  | other columns _ => columns

def addColumn (column : String) : StoredTable → StoredTable
  | legacyEvents rows added => legacyEvents rows (added ++ [column])
  | events rows added => events rows (added ++ [column])
  | other columns keys => other (columns ++ [column]) keys

/-- The primary keys, by which other tables refer to the rows. -/
def keys : StoredTable → List String
  | legacyEvents rows _ => rows.map LegacyEvent.eventId
  | events rows _ => rows.map Event.eventId
  | other _ keys => keys

end StoredTable

abbrev CatalogObjects := SchemaObjects StoredTable

/-! ## The initial schema -/

/-- A statement that changes the schema. -/
inductive Definition where
  | createTable (name : String) (table : StoredTable)
  | createIndex (index : Index)
  | addColumn (table column : String)
  | renameTable (old new : String)
  | copyEvents
  | dropTable (name : String)
  deriving DecidableEq

/-- `idx_events_case_sequence`. -/
def caseSequenceIndex : Index where
  name := "idx_events_case_sequence"
  table := "events"
  columns := ["case_id", "sequence"]
  unique := true
  condition := some "case_id IS NOT NULL"

def caseCreatedIndex : Index where
  name := "idx_events_case_created"
  table := "events"
  columns := ["case_id", "created_at", "event_id"]
  unique := false
  condition := none

def unpublishedIndex : Index where
  name := "idx_events_unpublished"
  table := "events"
  columns := ["created_at"]
  unique := false
  condition := some "published_at IS NULL"

/-- The indexes of the table `events`. -/
def eventIndexes : List Index := [caseSequenceIndex, caseCreatedIndex, unpublishedIndex]

/-- `CREATE TABLE IF NOT EXISTS` for a table other than `events`. -/
def tableOf (name : String) (columns : List String) : Definition :=
  .createTable name (.other columns [])

/-- `CREATE INDEX IF NOT EXISTS` for an index that is neither unique nor partial. -/
def indexOf (name table : String) (columns : List String) : Definition :=
  .createIndex ⟨name, table, columns, false, none⟩

def initialSchemaStatements : List Definition :=
  [tableOf "sources" ["source_id", "stable_identity", "media_kind", "label", "size_bytes",
      "sector_size", "fingerprint_sha256", "status", "created_at", "updated_at"],
    tableOf "scan_cases" ["case_id", "source_id", "state", "policy_json", "created_at",
      "updated_at"],
    tableOf "volumes" ["volume_id", "source_id", "parent_volume_id", "volume_kind", "ordinal",
      "offset_bytes", "length_bytes", "filesystem", "metadata_json"],
    tableOf "contents" ["content_id", "source_id", "content_sha256", "size_bytes", "storage_uri",
      "status", "created_at"],
    tableOf "entries" ["entry_id", "case_id", "volume_id", "content_id", "parent_entry_id",
      "entry_kind", "path_bytes", "display_path", "name_bytes", "size_bytes", "mtime",
      "metadata_json", "discovered_at"],
    tableOf "findings" ["finding_id", "case_id", "entry_id", "content_id", "finding_type",
      "severity", "title", "summary", "status", "confidence", "created_at"],
    tableOf "evidence" ["evidence_id", "finding_id", "evidence_kind", "content_id", "data_json",
      "created_at"],
    tableOf "jobs" ["job_id", "case_id", "job_type", "state", "input_json", "idempotency_key",
      "attempts", "max_attempts", "lease_owner", "lease_expires_at", "retry_after_at",
      "error_json", "created_at", "updated_at"],
    tableOf "checkpoints" ["checkpoint_id", "job_id", "case_id", "source_fingerprint",
      "medium_identity_json", "stage", "checkpoint_version", "tool_name", "tool_version",
      "cursor_json", "counters_json", "blob", "integrity_sha256", "supersedes_checkpoint_id",
      "superseded_by_checkpoint_id", "created_at"],
    tableOf "source_devices" ["device_id", "reader_id", "device_type", "transport", "kernel_name",
      "read_only_verified", "created_at", "updated_at"],
    tableOf "source_media" ["media_id", "source_id", "reader_id", "medium_identity_json",
      "fingerprint_sha256", "capacity_bytes", "geometry_json", "toc_sessions_json",
      "media_change_generation", "status", "inserted_at", "replaced_at"],
    .createTable "events" (.events [] []),
    tableOf "review_actions" ["review_action_id", "finding_id", "action", "actor", "note",
      "created_at"],
    tableOf "artifacts" ["artifact_id", "case_id", "content_id", "artifact_kind", "storage_uri",
      "size_bytes", "created_at"],
    tableOf "derivatives" ["derivative_id", "content_id", "derivative_kind", "storage_uri",
      "mime_type", "size_bytes", "created_at"],
    tableOf "browser_artifacts" ["browser_artifact_id", "case_id", "entry_id", "content_id",
      "profile_id", "artifact_kind", "browser_family", "raw_provenance_json", "artifact_json",
      "recovery_confidence", "first_observed_at", "created_at"],
    tableOf "exports" ["export_id", "case_id", "destination_kind", "state", "manifest_json",
      "created_at", "updated_at"],
    tableOf "audit_references" ["audit_reference_id", "case_id", "source_id", "audit_hash",
      "audit_uri", "created_at"],
    indexOf "idx_scan_cases_source" "scan_cases" ["source_id"],
    indexOf "idx_volumes_source" "volumes" ["source_id"],
    indexOf "idx_entries_case" "entries" ["case_id"],
    indexOf "idx_entries_content" "entries" ["content_id"],
    indexOf "idx_contents_source" "contents" ["source_id"],
    indexOf "idx_findings_case" "findings" ["case_id"],
    indexOf "idx_findings_query" "findings" ["case_id", "created_at", "finding_id"],
    indexOf "idx_findings_filters" "findings" ["finding_type", "severity", "status"],
    indexOf "idx_evidence_finding" "evidence" ["finding_id"],
    indexOf "idx_jobs_state" "jobs" ["state", "lease_expires_at"],
    indexOf "idx_checkpoints_latest" "checkpoints" ["job_id", "stage", "created_at"],
    .createIndex caseSequenceIndex,
    .createIndex caseCreatedIndex,
    .createIndex unpublishedIndex,
    indexOf "idx_browser_artifacts_case_kind" "browser_artifacts"
      ["case_id", "artifact_kind", "browser_family"],
    indexOf "idx_browser_artifacts_profile" "browser_artifacts"
      ["case_id", "profile_id", "artifact_kind"],
    indexOf "idx_source_media_source" "source_media" ["source_id", "media_change_generation"],
    indexOf "idx_source_media_reader" "source_media" ["reader_id", "status"],
    .createIndex ⟨"idx_source_media_fingerprint", "source_media", ["fingerprint_sha256"], false,
      some "fingerprint_sha256 IS NOT NULL"⟩,
    indexOf "idx_source_devices_reader" "source_devices" ["reader_id"]]

namespace Definition

/-- `"CREATE TABLE IF NOT EXISTS ..." in statement`. -/
def createsTable (phrase : String) : Definition → Bool
  | createTable name _ => phrase.toList.isPrefixOf name.toList
  | _ => false

/-- `"idx_..." in statement`. -/
def createsIndex (phrase : String) : Definition → Bool
  | createIndex index => phrase.toList.isPrefixOf index.name.toList
  | _ => false

end Definition

/-! ## Copying the events -/

namespace LegacyEvent

/-- `COALESCE(case_id, event_id)`. -/
def partition (row : LegacyEvent) : String := row.caseId.getD row.eventId

/-- `ORDER BY created_at, event_id`. -/
def place (row : LegacyEvent) : String ×ₗ String := toLex (row.createdAt, row.eventId)

/-- The row with its number among those of its partition. -/
def numbered (rows : List LegacyEvent) (row : LegacyEvent) : Event where
  eventId := row.eventId
  caseId := row.caseId
  sequence :=
    rowNumber place (rows.filter fun other => decide (other.partition = row.partition)) row
  jobId := row.jobId
  eventType := row.eventType
  payloadJson := row.payloadJson
  publishedAt := row.publishedAt
  createdAt := row.createdAt

/-- The `SELECT` from `events_v3`. -/
def selected (rows : List LegacyEvent) : List Event := (orderBy place rows).map (numbered rows)

end LegacyEvent

section Catalog

variable (runtime : Runtime)

/-- A row of this key is in the table, where the column is not null. -/
def refersTo (objects : CatalogObjects) (table : String) (key : Option String) : Bool :=
  key.all fun value => (objects.tables table).any fun stored => stored.keys.contains value

/-- One row of `INSERT INTO events`, with the constraints of the table and of its unique index. -/
def insertEvent (objects : CatalogObjects) (stored : List Event) (row : Event) :
    Except String (List Event) :=
  if !row.check runtime then .error "CHECK constraint failed: events"
  else if stored.any fun old => old.eventId == row.eventId then
    .error "UNIQUE constraint failed: events.event_id"
  else if objects.indexes.contains caseSequenceIndex && row.caseId.isSome &&
      stored.any fun old => old.caseId == row.caseId && old.sequence == row.sequence then
    .error "UNIQUE constraint failed: events.case_id, events.sequence"
  else if !(refersTo objects "scan_cases" row.caseId && refersTo objects "jobs" row.jobId) then
    .error "FOREIGN KEY constraint failed"
  else .ok (stored ++ [row])

def insertEvents (objects : CatalogObjects) : List Event → List Event → Except String (List Event)
  | stored, [] => .ok stored
  | stored, row :: rows => do
      let next ← insertEvent runtime objects stored row
      insertEvents objects next rows

/-- `INSERT INTO events (...) SELECT ... FROM events_v3`. -/
def copyEvents (objects : CatalogObjects) : Except String CatalogObjects :=
  match objects.tables "events_v3", objects.tables "events" with
  | none, _ => .error "no such table: events_v3"
  | _, none => .error "no such table: events"
  | some (.legacyEvents rows _), some (.events stored added) => do
      let inserted ← insertEvents runtime objects stored (LegacyEvent.selected rows)
      return objects.setTable "events" (.events inserted added)
  | _, _ => .error "no such column: sequence"

def addColumn (objects : CatalogObjects) (table column : String) : Except String CatalogObjects :=
  match objects.tables table with
  | none => .error ("no such table: " ++ table)
  | some stored =>
    if stored.columns.contains column then .error ("duplicate column name: " ++ column)
    else .ok (objects.setTable table (stored.addColumn column))

def Definition.apply : Definition → CatalogObjects → Except String CatalogObjects
  | createTable name table, objects => objects.createTable name table
  | createIndex index, objects => objects.createIndex StoredTable.columns index
  | addColumn table column, objects => Migrations.addColumn objects table column
  | renameTable old new, objects => objects.renameTable old new
  | copyEvents, objects => Migrations.copyEvents runtime objects
  | dropTable name, objects => objects.dropTable name

/-- The statements that migrations issue. -/
inductive SchemaStatement where
  | tableExists (name : String)
  | columnExists (table column : String)
  | define (definition : Definition)

@[reducible]
def SchemaStatement.Reply : SchemaStatement → Type
  | tableExists _ => Bool
  | columnExists _ _ => Bool
  | define _ => Except Failure Unit

/-- What a definition makes of the objects. One that fails leaves them. -/
def outcome (objects : CatalogObjects) :
    Except String CatalogObjects → CatalogObjects × Except Failure Unit
  | .ok next => (next, .ok ())
  | .error text => (objects, .error (.sqliteError text))

def SchemaStatement.perform : (statement : SchemaStatement) → CatalogObjects →
    CatalogObjects × statement.Reply
  | tableExists name, objects => (objects, (objects.tables name).isSome)
  | columnExists table column, objects =>
    (objects, (objects.tables table).any fun stored => stored.columns.contains column)
  | define definition, objects => outcome objects (definition.apply runtime objects)

def catalogEngine : Engine SchemaStatement SchemaStatement.Reply CatalogObjects where
  perform := SchemaStatement.perform runtime
  busy
    | .tableExists _ => none
    | .columnExists _ _ => none
    | .define _ => some (.error lockedError)
  reads statement objects isRead := by
    cases statement with
    | tableExists name => rfl
    | columnExists table column => rfl
    | define definition => cases isRead

end Catalog

/-! ## The migrations -/

abbrev Body (α : Type) := Program SchemaStatement SchemaStatement.Reply Failure α

def tableExists (name : String) : Body Bool := Program.query (SchemaStatement.tableExists name)

def columnExists (table column : String) : Body Bool :=
  Program.query (SchemaStatement.columnExists table column)

def define (definition : Definition) : Body Unit := do
  let defined ← Program.query (SchemaStatement.define definition)
  Program.ofExcept defined

def defineAll : List Definition → Body Unit
  | [] => return ()
  | definition :: definitions => do
      define definition
      defineAll definitions

/-- The statements of the initial schema that a loop executes. -/
def statementsWhere (executed : Definition → Bool) : List Definition :=
  initialSchemaStatements.filter executed

def applyInitialSchema : Body Unit := defineAll initialSchemaStatements

def addRetryAfterColumn : Body Unit := do
  let isThere ← columnExists "jobs" "retry_after_at"
  if isThere then return () else define (.addColumn "jobs" "retry_after_at")

/-- A table with its indexes, if the table does not exist. -/
def createUnlessThere (table : String) (statements : List Definition) : Body Unit := do
  let isThere ← tableExists table
  if isThere then return () else defineAll statements

def addCheckpointsTable : Body Unit :=
  createUnlessThere "checkpoints" (statementsWhere fun statement =>
    statement.createsTable "checkpoints" || statement.createsIndex "idx_checkpoints_latest")

/-- The statements of `_create_events_table_and_indexes`. -/
def eventStatements : List Definition :=
  statementsWhere fun statement => statement.createsTable "events" ||
    (statement.createsIndex "idx_events_case_sequence" ||
      statement.createsIndex "idx_events_case_created") ||
    statement.createsIndex "idx_events_unpublished"

def createEventsTableAndIndexes : Body Unit := defineAll eventStatements

def addEventSequences : Body Unit := do
  let isThere ← tableExists "events"
  if isThere then do
    let isNumbered ← columnExists "events" "sequence"
    if isNumbered then return ()
    else do
      define (.renameTable "events" "events_v3")
      createEventsTableAndIndexes
      define .copyEvents
      define (.dropTable "events_v3")
  else createEventsTableAndIndexes

def createFindingsTablesAndIndexes : Body Unit :=
  defineAll (statementsWhere fun statement => statement.createsTable "findings" ||
    statement.createsTable "evidence" || (statement.createsIndex "idx_findings_" ||
      statement.createsIndex "idx_evidence_finding"))

def addFindingQueryIndexes : Body Unit := do
  let findings ← tableExists "findings"
  let evidence ← if findings then tableExists "evidence" else pure false
  if evidence then do
    define (indexOf "idx_findings_query" "findings" ["case_id", "created_at", "finding_id"])
    define (indexOf "idx_findings_filters" "findings" ["finding_type", "severity", "status"])
  else createFindingsTablesAndIndexes

def addBrowserArtifactsTable : Body Unit :=
  createUnlessThere "browser_artifacts" (statementsWhere fun statement =>
    statement.createsTable "browser_artifacts" || statement.createsIndex "idx_browser_artifacts_")

def addMediumColumn : Body Unit := do
  let isBound ← columnExists "checkpoints" "medium_identity_json"
  if isBound then return () else define (.addColumn "checkpoints" "medium_identity_json")

def addMediaCheckpointBindings : Body Unit := do
  addMediumColumn
  createUnlessThere "source_devices" (statementsWhere fun statement =>
    statement.createsTable "source_devices" || statement.createsIndex "idx_source_devices_reader")
  createUnlessThere "source_media" (statementsWhere fun statement =>
    statement.createsTable "source_media" || statement.createsIndex "idx_source_media_")

/-- `DEFAULT_MIGRATIONS`. -/
def defaultMigrations : List (Migration SchemaStatement SchemaStatement.Reply) :=
  [⟨1, "initial_catalog_schema", applyInitialSchema⟩, ⟨2, "job_retry_after", addRetryAfterColumn⟩,
    ⟨3, "versioned_checkpoints", addCheckpointsTable⟩,
    ⟨4, "event_outbox_sequences", addEventSequences⟩,
    ⟨5, "finding_query_indexes", addFindingQueryIndexes⟩,
    ⟨6, "browser_artifact_schemas", addBrowserArtifactsTable⟩,
    ⟨7, "media_checkpoint_bindings", addMediaCheckpointBindings⟩]

end Reperio.Migrations
