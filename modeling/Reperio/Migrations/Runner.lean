import Reperio.Catalog.Schema
import Reperio.Concurrency.SharedDatabase

/-!
# The migration runner

`runner.py` brings a catalog from one recorded version to the next by numbered
migrations: it looks up the recorded version, refuses a history with gaps,
takes a backup of a catalog that existed before, and applies the pending
migrations together with their records in one write transaction.

A catalog is modelled as the table `schema_migrations`, which may not exist
yet, beside the rest of the schema. A migration is a program of statements on
that rest, and it may raise anywhere. Its statements are left abstract, and
with them the bodies of `DEFAULT_MIGRATIONS`, which are SQL texts. That DDL is
transactional in SQLite is the meaning of a transaction here. Around the
database are the files that the runner inspects and writes. The pragmas of a
connection set its durability and its patience, which no result depends on: a
`BEGIN` that waits is one that is issued later.
-/

namespace Reperio.Migrations

open Concurrency Python Relational

/-- `CURRENT_SCHEMA_VERSION`. -/
def currentSupportedVersion : ℕ := 7

/-- What a call can raise. Only an interruption is no `Exception` in Python's hierarchy. -/
inductive Failure where
  | migrationError (text : String)
  | futureSchemaError (text : String)
  | sqliteError (text : String)
  | exception (text : String)
  | interruption
  deriving DecidableEq, Repr

/-- `except Exception`. -/
def Failure.isException : Failure → Bool
  | interruption => false
  | _ => true

/-! ## The database -/

/-- A row of `schema_migrations`. -/
structure SchemaMigration where
  version : ℕ
  name : String
  appliedAt : String
  deriving DecidableEq, Repr

/-- `schema_migrations`. -/
def schemaMigrations : Schema SchemaMigration ℕ where
  key := SchemaMigration.version
  Check row := 0 < row.version ∧ timestampCheck row.appliedAt = true
  Clash first second := first.version = second.version ∨ first.name = second.name
  clash_of_key_eq := fun _ _ same => Or.inl same

/-- The table of versions, if there is one, and the others. -/
structure Database (Tables : Type) where
  history : Option (Table schemaMigrations)
  tables : Tables

namespace Database

variable {Tables : Type}

/-- The records, in the order in which they were made. -/
def rows (database : Database Tables) : List SchemaMigration := database.history.elim [] Table.rows

/-- `SELECT version FROM schema_migrations ORDER BY version`. -/
def versions (database : Database Tables) : List ℕ :=
  (database.rows.map SchemaMigration.version).insertionSort (· ≤ ·)

/-- The recorded history is that of the versions up to this one. -/
def AtVersion (version : ℕ) (database : Database Tables) : Prop :=
  database.versions = List.range' 1 version

/-- `CREATE TABLE IF NOT EXISTS schema_migrations`. -/
def ensured (database : Database Tables) : Database Tables :=
  { database with history := some (database.history.getD .empty) }

end Database

/-- The statements of a migration run. -/
inductive Query (Statement : Type) where
  | versionTable
  | maxVersion
  | versions
  | ensureVersionTable
  | record (version : ℕ) (name appliedAt : String)
  | schema (statement : Statement)

@[reducible]
def Reply {Statement : Type} (SchemaReply : Statement → Type) : Query Statement → Type
  | .versionTable => Bool
  | .maxVersion => Except Failure (Option ℕ)
  | .versions => Except Failure (List ℕ)
  | .ensureVersionTable => Except Failure Unit
  | .record _ _ _ => Except Failure Unit
  | .schema statement => SchemaReply statement

def noVersionTable : Failure := .sqliteError "no such table: schema_migrations"

def lockedError : Failure := .sqliteError "database is locked"

/-- The text SQLite gives for the constraint that a record of a positive version can break. -/
def constraintError (table : Table schemaMigrations) (version : ℕ) : Failure :=
  if table.rows.any fun row => decide (row.version = version) then
    .sqliteError "UNIQUE constraint failed: schema_migrations.version"
  else .sqliteError "UNIQUE constraint failed: schema_migrations.name"

section Engine

variable {Statement Tables : Type} {SchemaReply : Statement → Type}
  (schema : Engine Statement SchemaReply Tables)

def perform : (query : Query Statement) → Database Tables →
    Database Tables × Reply SchemaReply query
  | .versionTable, database => (database, database.history.isSome)
  | .maxVersion, database =>
    match database.history with
    | some table => (database, .ok (table.rows.map SchemaMigration.version).max?)
    | none => (database, .error noVersionTable)
  | .versions, database =>
    match database.history with
    | some _ => (database, .ok database.versions)
    | none => (database, .error noVersionTable)
  | .ensureVersionTable, database => (database.ensured, .ok ())
  | .record version name appliedAt, database =>
    match database.history with
    | some table =>
      match table.insert ⟨version, name, appliedAt⟩ with
      | some next => ({ database with history := some next }, .ok ())
      | none => (database, .error (constraintError table version))
    | none => (database, .error noVersionTable)
  | .schema statement, database =>
    match schema.perform statement database.tables with
    | (tables, reply) => ({ database with tables }, reply)

/-- The statements on a catalog. -/
def engine : Engine (Query Statement) (Reply SchemaReply) (Database Tables) where
  perform := perform schema
  busy
    | .versionTable => none
    | .maxVersion => none
    | .versions => none
    | .ensureVersionTable => some (.error lockedError)
    | .record _ _ _ => some (.error lockedError)
    | .schema statement => schema.busy statement
  reads query database isRead := by
    cases query with
    | versionTable => rfl
    | maxVersion =>
      simp only [perform]
      split <;> rfl
    | versions =>
      simp only [perform]
      split <;> rfl
    | ensureVersionTable => cases isRead
    | record version name appliedAt => cases isRead
    | schema statement =>
      have unchanged := schema.reads statement database.tables isRead
      simp only [perform, unchanged]

end Engine

/-! ## Files -/

/-- The parts above a name, and the name. -/
structure Path where
  parent : List String
  name : String
  deriving DecidableEq, Repr

/-- What a single-link regular file holds: an SQLite database, some catalog as it once was, or
something else. -/
inductive Content (Tables : Type) where
  | empty
  | catalog
  | backup (copy : Database Tables)
  | other

/-- What stands at a path. -/
inductive Entry (Tables : Type) where
  | missing
  | irregular
  | regular (content : Content Tables)

abbrev Files (Tables : Type) := Path → Entry Tables

/-- What a run tells about a file. -/
inductive FileKind where
  | missing
  | irregular
  | empty
  | filled
  deriving DecidableEq, Repr

def Entry.kind {Tables : Type} : Entry Tables → FileKind
  | missing => .missing
  | irregular => .irregular
  | regular .empty => .empty
  | regular _ => .filled

/-- `lstat`, `exists` and `stat`; `sqlite3.connect` with the first pragma; and `Connection.backup`
over a connection of its own. -/
inductive FileQuery where
  | kind (path : Path)
  | connect (path : Path)
  | backup (destination : Path)

@[reducible]
def FileReply : FileQuery → Type
  | .kind _ => FileKind
  | .connect _ => Except Failure Unit
  | .backup _ => Unit

def performFile {Tables : Type} : (query : FileQuery) → Database Tables → Files Tables →
    Files Tables × FileReply query
  | .kind path, _, files => (files, (files path).kind)
  | .connect path, _, files =>
    match files path with
    | .missing => (Function.update files path (.regular .catalog), .ok ())
    | .regular .empty => (Function.update files path (.regular .catalog), .ok ())
    | .regular .other => (files, .error (.sqliteError "file is not a database"))
    | _ => (files, .ok ())
  | .backup destination, committed, files =>
    (Function.update files destination (.regular (.backup committed)), ())

/-! ## The runner -/

/-- A version, its name and what it does. -/
structure Migration (Statement : Type) (SchemaReply : Statement → Type) where
  version : ℕ
  name : String
  apply : Program Statement SchemaReply Failure Unit

/-- What a run returns. -/
structure MigrationResult where
  currentVersion : ℕ
  appliedVersions : List ℕ
  backupPath : Option Path
  workersAllowed : Bool
  deriving DecidableEq, Repr

/-- The arguments of `migrate_catalog`; `clock` is what SQLite's clock shows when it records a
version. -/
structure Call (Statement : Type) (SchemaReply : Statement → Type) where
  databasePath : Path
  backupDir : Option (List String)
  migrations : List (Migration Statement SchemaReply)
  clock : ℕ → DateTime

section Runner

variable {Statement : Type} {SchemaReply : Statement → Type}

/-- The programs of a migrator. -/
abbrev Runs (Statement : Type) (SchemaReply : Statement → Type) (α : Type) :=
  Program (Request (Query Statement) FileQuery)
    (Request.Answer (Reply SchemaReply) FileReply) Failure α

def execute (query : Query Statement) : Runs Statement SchemaReply (Reply SchemaReply query) :=
  Program.query (Request.command (Command.statement query))

def onFiles (query : FileQuery) : Runs Statement SchemaReply (FileReply query) :=
  Program.query (Request.outside query)

def closeConnection : Runs Statement SchemaReply Unit := Program.query Request.close

/-- The loop of `_validate_migration_sequence`. -/
def validateFrom (expected : ℕ) : List (Migration Statement SchemaReply) → Except Failure Unit
  | [] => .ok ()
  | migration :: migrations =>
    if migration.version ≠ expected then
      .error (.migrationError "migrations must be contiguous and start at version 1")
    else validateFrom (expected + 1) migrations

def validateMigrationSequence (migrations : List (Migration Statement SchemaReply)) :
    Except Failure Unit :=
  validateFrom 1 migrations

/-- `selected[-1].version if selected else 0`. -/
def targetVersion (migrations : List (Migration Statement SchemaReply)) : ℕ :=
  migrations.getLast?.elim 0 Migration.version

def currentSchemaVersion : Runs Statement SchemaReply ℕ := do
  let tableExists ← execute .versionTable
  if tableExists then do
    let row ← execute .maxVersion
    let version ← Program.ofExcept row
    return version.getD 0
  else return 0

def ensureContiguousHistory (current : ℕ) : Runs Statement SchemaReply Unit :=
  if current = 0 then return ()
  else do
    let rows ← execute .versions
    let observed ← Program.ofExcept rows
    if observed ≠ List.range' 1 current then
      throw (.migrationError "schema migration history is incomplete or reordered")
    else return ()

/-- One turn of the loop of `_apply_pending_migrations`. -/
def applyMigration (clock : ℕ → DateTime) (migration : Migration Statement SchemaReply) :
    Program (Query Statement) (Reply SchemaReply) Failure Unit := do
  migration.apply.translate fun statement => Program.query (Query.schema statement)
  let recorded ← Program.query
    (Query.record migration.version migration.name (strftime (clock migration.version)))
  Program.ofExcept recorded

def applyAll (clock : ℕ → DateTime) (current : ℕ) :
    List (Migration Statement SchemaReply) → List ℕ →
      Program (Query Statement) (Reply SchemaReply) Failure (List ℕ)
  | [], applied => .done applied
  | migration :: migrations, applied =>
    if migration.version ≤ current then applyAll clock current migrations applied
    else do
      applyMigration clock migration
      applyAll clock current migrations (applied ++ [migration.version])

/-- What happens between `BEGIN IMMEDIATE` and `COMMIT`. -/
def pendingMigrations (clock : ℕ → DateTime) (current : ℕ)
    (migrations : List (Migration Statement SchemaReply)) :
    Program (Query Statement) (Reply SchemaReply) Failure (List ℕ) := do
  let ensured ← Program.query Query.ensureVersionTable
  Program.ofExcept ensured
  applyAll clock current migrations []

def applyPendingMigrations (clock : ℕ → DateTime) (current : ℕ)
    (migrations : List (Migration Statement SchemaReply)) :
    Runs Statement SchemaReply (List ℕ) :=
  (pendingMigrations clock current migrations).transaction lockedError
    (.sqliteError "cannot rollback - no transaction is active") Failure.isException

def rejectUnsafeExistingPath (path : Path) (label : String) : Runs Statement SchemaReply Unit := do
  let details ← onFiles (.kind path)
  if details = FileKind.irregular then
    throw (.migrationError (label ++ " must be a single-link regular file"))
  else return ()

/-- `{database_path.name}.v{current}-to-v{target}.bak` in the backup directory of a call. -/
def backupPath (databasePath : Path) (backupDir : Option (List String)) (current target : ℕ) :
    Path where
  parent := backupDir.getD (databasePath.parent ++ ["backups"])
  name := databasePath.name ++ ".v" ++ Nat.repr current ++ "-to-v" ++ Nat.repr target ++ ".bak"

def backupDatabase (databasePath : Path) (backupDir : Option (List String))
    (current target : ℕ) : Runs Statement SchemaReply Path := do
  let path := backupPath databasePath backupDir current target
  rejectUnsafeExistingPath path "catalog backup"
  let kind ← onFiles (.kind path)
  if kind ≠ FileKind.missing then throw (.migrationError "catalog backup already exists")
  else do
    onFiles (.backup path)
    return path

/-- `except sqlite3.Error as error: raise MigrationError(str(error))`. -/
def wrapSqliteErrors {α : Type} : Runs Statement SchemaReply α → Runs Statement SchemaReply α :=
  Program.handle fun error =>
    match error with
    | .sqliteError text => throw (.migrationError text)
    | other => throw other

/-- The `try` block of `migrate_catalog`. -/
def migrateConnected (call : Call Statement SchemaReply)
    (selected : List (Migration Statement SchemaReply)) (existedBefore : Bool) :
    Runs Statement SchemaReply MigrationResult := do
  let current ← currentSchemaVersion
  let target := targetVersion selected
  if target < current then
    throw (.futureSchemaError ("database schema version " ++ Nat.repr current ++
      " is newer than supported " ++ Nat.repr target))
  else do
    ensureContiguousHistory current
    if current = target then return ⟨current, [], none, true⟩
    else do
      let backup ←
        if existedBefore then do
          let path ← backupDatabase call.databasePath call.backupDir current target
          pure (some path)
        else pure none
      let applied ← applyPendingMigrations call.clock current selected
      let reached ← currentSchemaVersion
      return ⟨reached, applied, backup, true⟩

/-- `migrations or DEFAULT_MIGRATIONS`. -/
def selectedMigrations (defaults : List (Migration Statement SchemaReply))
    (call : Call Statement SchemaReply) : List (Migration Statement SchemaReply) :=
  if call.migrations.isEmpty then defaults else call.migrations

def migrateCatalog (defaults : List (Migration Statement SchemaReply))
    (call : Call Statement SchemaReply) : Runs Statement SchemaReply MigrationResult := do
  let selected := selectedMigrations defaults call
  Program.ofExcept (validateMigrationSequence selected)
  rejectUnsafeExistingPath call.databasePath "catalog database"
  let kind ← onFiles (.kind call.databasePath)
  let connected ← onFiles (.connect call.databasePath)
  Program.ofExcept connected
  Program.withFinally closeConnection
    (wrapSqliteErrors (migrateConnected call selected (kind == FileKind.filled)))

/-- The inner `try` of `ready_for_workers`: `none` stands for its `return False`. -/
def contiguousVersion : Runs Statement SchemaReply (Option ℕ) := Program.handle
    (fun error =>
      match error with
      | .migrationError _ => pure none
      | .futureSchemaError _ => pure none
      | .sqliteError _ => pure none
      | other => throw other)
    (do
      let current ← currentSchemaVersion
      ensureContiguousHistory current
      return some current)

def readyForWorkers (databasePath : Path) : Runs Statement SchemaReply Bool := do
  let kind ← onFiles (.kind databasePath)
  if kind = FileKind.missing then return false
  else do
    let connected ← onFiles (.connect databasePath)
    Program.ofExcept connected
    Program.withFinally closeConnection do
      let current ← contiguousVersion
      return current == some currentSupportedVersion

end Runner

/-! ## A small instance -/

/-- A schema that remembers the statements it has seen. -/
def remembering : Engine ℕ (fun _ => Unit) (List ℕ) where
  perform statement tables := (tables ++ [statement], ())
  busy _ := some ()
  reads _ _ isRead := by cases isRead

def sampleMigration : Migration ℕ fun _ => Unit where
  version := 1
  name := "initial_catalog_schema"
  apply := Program.query 1

def samplePath : Path := ⟨["state"], "catalog.sqlite3"⟩

def sampleCall (migrations : List (Migration ℕ fun _ => Unit)) : Call ℕ fun _ => Unit where
  databasePath := samplePath
  backupDir := none
  migrations
  clock _ := DateTime.min

end Reperio.Migrations
