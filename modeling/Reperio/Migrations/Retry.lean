import Reperio.Migrations.History

/-!
# Retrying a failed migration

The backup is written before the transaction and under a name that only
depends on the two versions. A run that fails while it applies migrations
leaves the database as it was and the backup behind, and the next run to the
same target finds the name taken and is refused, however well its migrations
work. Only a list with another target, whose backup name is still free, gets
through (`retry_succeeds_iff`).
-/

namespace Reperio.Migrations

open Concurrency Python Relational

variable {Conn Statement Tables : Type} {SchemaReply : Statement → Type} [DecidableEq Conn]
  {schema : Engine Statement SchemaReply Tables} {conn : Conn}

/-! ## Names of backups -/

theorem backupPath_name_toList (databasePath : Path) (backupDir : Option (List String))
    (current target : ℕ) :
    (backupPath databasePath backupDir current target).name.toList =
      databasePath.name.toList ++ (".v".toList ++ ((Nat.repr current).toList ++
        ("-to-v".toList ++ ((Nat.repr target).toList ++ ".bak".toList)))) := by
  simp only [backupPath, String.toList_append, List.append_assoc]

/-- A backup is never written over the database. -/
theorem backupPath_ne (databasePath : Path) (backupDir : Option (List String))
    (current target : ℕ) : backupPath databasePath backupDir current target ≠ databasePath := by
  intro same
  have lengths := congrArg (fun path => path.name.toList.length) same
  simp only [backupPath_name_toList, List.length_append] at lengths
  have suffix : ".bak".toList.length = 4 := rfl
  omega

variable {databasePath : Path} {backupDir : Option (List String)} {current : ℕ} {path : Path}

theorem backupPath_injective {first second : ℕ}
    (same : backupPath databasePath backupDir current first =
      backupPath databasePath backupDir current second) : first = second := by
  have names := congrArg (fun path => path.name.toList) same
  simp only [backupPath_name_toList, List.append_cancel_left_eq, List.append_cancel_right_eq,
    String.toList_inj] at names
  exact natRepr_injective names

/-! ## Single runs -/

section Runs

variable {α : Type} {database : Database Tables} {files : Files Tables}

/-- The meaning of a run on a catalog that nobody writes to. -/
abbrev runAlone (schema : Engine Statement SchemaReply Tables) (conn : Conn)
    (program : Runs Statement SchemaReply α) (database : Database Tables) (files : Files Tables) :
    Concurrency.Host Conn (Database Tables) (Files Tables) × Except Failure α :=
  program.run (Request.perform (engine schema) performFile conn) ⟨.settled database, files⟩

theorem runAlone_execute {query : Query Statement} (isRead : (engine schema).busy query = none)
    (rest : Reply SchemaReply query → Runs Statement SchemaReply α) :
    runAlone schema conn (execute query >>= rest) database files =
      runAlone schema conn (rest (perform schema query database).2) database files :=
  Program.run_read_bind isRead rest database files

theorem runAlone_kind (path : Path) (rest : FileKind → Runs Statement SchemaReply α) :
    runAlone schema conn (onFiles (.kind path) >>= rest) database files =
      runAlone schema conn (rest (files path).kind) database files := rfl

theorem runAlone_bind {β : Type} (program : Runs Statement SchemaReply α)
    (rest : α → Runs Statement SchemaReply β) {after : Database Tables} {filesAfter : Files Tables}
    {value : α}
    (ran : runAlone schema conn program database files =
      (⟨.settled after, filesAfter⟩, .ok value)) :
    runAlone schema conn (program >>= rest) database files =
      runAlone schema conn (rest value) after filesAfter := by
  unfold runAlone at ran ⊢
  rw [Program.run_bind, ran]

theorem runAlone_bind_error {β : Type} (program : Runs Statement SchemaReply α)
    (rest : α → Runs Statement SchemaReply β)
    {last : Concurrency.Host Conn (Database Tables) (Files Tables)} {error : Failure}
    (ran : runAlone schema conn program database files = (last, .error error)) :
    runAlone schema conn (program >>= rest) database files = (last, .error error) := by
  unfold runAlone at ran ⊢
  rw [Program.run_bind, ran]

theorem run_currentSchemaVersion {version : ℕ} (atVersion : database.AtVersion version) :
    runAlone schema conn currentSchemaVersion database files =
      (⟨.settled database, files⟩, .ok version) := by
  rw [currentSchemaVersion, runAlone_execute rfl]
  cases history : database.history with
  | none =>
    have zero : version = 0 := by
      rw [← atVersion.length_rows, Database.rows, history]
      rfl
    simp only [perform, history, Option.isSome_none, zero]
    rfl
  | some table =>
    have largest := Database.max?_eq atVersion
    simp only [Database.rows, history, Option.elim_some] at largest
    simp only [perform, history, Option.isSome_some, if_true]
    rw [runAlone_execute rfl]
    simp only [perform, history, ← largest]
    rfl

theorem run_ensureContiguousHistory {version : ℕ} (atVersion : database.AtVersion version) :
    runAlone schema conn (ensureContiguousHistory version) database files =
      (⟨.settled database, files⟩, .ok ()) := by
  unfold ensureContiguousHistory
  split
  · rfl
  · rename_i notZero
    rw [runAlone_execute rfl]
    cases history : database.history with
    | none =>
      refine absurd ?_ notZero
      rw [← atVersion.length_rows, Database.rows, history]
      rfl
    | some table =>
      simp only [perform, history, Program.ofExcept, Program.done_bind]
      have observed : database.versions = List.range' 1 version := atVersion
      rw [if_neg (not_not.mpr observed)]
      rfl

theorem run_rejectUnsafeExistingPath (label : String) (safe : (files path).kind ≠ .irregular) :
    runAlone schema conn (rejectUnsafeExistingPath path label) database files =
      (⟨.settled database, files⟩, .ok ()) := by
  rw [rejectUnsafeExistingPath, runAlone_kind, if_neg safe]
  rfl

theorem run_rejectUnsafeExistingPath_of_irregular (label : String)
    (isIrregular : (files path).kind = .irregular) :
    runAlone schema conn (rejectUnsafeExistingPath path label) database files =
      (⟨.settled database, files⟩,
        .error (.migrationError (label ++ " must be a single-link regular file"))) := by
  rw [rejectUnsafeExistingPath, runAlone_kind, if_pos isIrregular]
  rfl

theorem run_backupDatabase {target : ℕ}
    (free : (files (backupPath databasePath backupDir current target)).kind = .missing) :
    runAlone schema conn (backupDatabase databasePath backupDir current target) database files =
      (⟨.settled database, Function.update files
        (backupPath databasePath backupDir current target) (.regular (.backup database))⟩,
        .ok (backupPath databasePath backupDir current target)) := by
  rw [backupDatabase, runAlone_bind _ _ (run_rejectUnsafeExistingPath _ (by rw [free]; simp)),
    runAlone_kind, if_neg (not_not.mpr free)]
  rfl

variable (schema conn) in
/-- A file of any kind under the name of the backup stops the run. -/
theorem run_backupDatabase_of_taken {target : ℕ}
    (taken : (files (backupPath databasePath backupDir current target)).kind ≠ .missing) :
    ∃ text, runAlone schema conn (backupDatabase databasePath backupDir current target) database
      files = (⟨.settled database, files⟩, .error (.migrationError text)) := by
  by_cases irregular : (files (backupPath databasePath backupDir current target)).kind = .irregular
  · exact ⟨_, runAlone_bind_error _ _
      (run_rejectUnsafeExistingPath_of_irregular "catalog backup" irregular)⟩
  · refine ⟨"catalog backup already exists", ?_⟩
    rw [backupDatabase, runAlone_bind _ _ (run_rejectUnsafeExistingPath _ irregular),
      runAlone_kind, if_pos taken]
    rfl

/-- What `wrapSqliteErrors` raises in the place of an error. -/
def wrapped : Failure → Failure
  | .sqliteError text => .migrationError text
  | other => other

theorem run_wrapSqliteErrors (program : Runs Statement SchemaReply α) :
    runAlone schema conn (wrapSqliteErrors program) database files =
      ((runAlone schema conn program database files).1,
        (runAlone schema conn program database files).2.mapError wrapped) := by
  unfold runAlone
  rw [wrapSqliteErrors, Program.run_handle]
  rcases program.run (Request.perform (engine schema) performFile conn)
    ⟨.settled database, files⟩ with ⟨last, result⟩
  cases result with
  | ok value => rfl
  | error error => cases error <;> rfl

theorem run_closing (program : Runs Statement SchemaReply α) :
    runAlone schema conn (Program.withFinally closeConnection program) database files =
      ({ (runAlone schema conn program database files).1 with
          database := (runAlone schema conn program database files).1.database.close conn },
        (runAlone schema conn program database files).2) := by
  have closes : ∀ host : Concurrency.Host Conn (Database Tables) (Files Tables),
      (closeConnection : Runs Statement SchemaReply Unit).run
        (Request.perform (engine schema) performFile conn) host =
        ({ host with database := host.database.close conn }, .ok ()) := fun _ => rfl
  exact Program.run_withFinally closes program _

section Connected

variable {call : Call Statement SchemaReply} {selected : List (Migration Statement SchemaReply)}
  {version : ℕ}

/-- What a run makes of a catalog below its target before it writes anything. -/
theorem run_migrateConnected (contiguous : Contiguous selected)
    (atVersion : database.AtVersion version) (below : version < selected.length) :
    runAlone schema conn (migrateConnected call selected true) database files =
      runAlone schema conn (do
        let path ← backupDatabase call.databasePath call.backupDir version selected.length
        let applied ← applyPendingMigrations call.clock version selected
        let reached ← currentSchemaVersion
        return ⟨reached, applied, some path, true⟩) database files := by
  rw [migrateConnected, runAlone_bind _ _ (run_currentSchemaVersion atVersion),
    contiguous.targetVersion_eq]
  rw [if_neg (Nat.lt_asymm below),
    runAlone_bind _ _ (run_ensureContiguousHistory atVersion), if_neg (Nat.ne_of_lt below)]
  rfl

variable (schema conn) in
/-- A run on a catalog below its target that finds the name of its backup taken. -/
theorem run_migrateConnected_of_taken (contiguous : Contiguous selected)
    (atVersion : database.AtVersion version) (below : version < selected.length)
    (taken : (files (backupPath call.databasePath call.backupDir version
      selected.length)).kind ≠ .missing) :
    ∃ text, runAlone schema conn (migrateConnected call selected true) database files =
      (⟨.settled database, files⟩, .error (.migrationError text)) := by
  rcases run_backupDatabase_of_taken schema conn taken with ⟨text, stopped⟩
  refine ⟨text, ?_⟩
  rw [run_migrateConnected contiguous atVersion below, runAlone_bind_error _ _ stopped]

end Connected

/-- A single-link regular file with an SQLite database in it. -/
def Existing (files : Files Tables) (path : Path) : Prop :=
  ∃ content, files path = .regular content ∧ content ≠ .empty ∧ content ≠ .other

theorem Existing.kind_eq (existing : Existing files path) : (files path).kind = .filled := by
  rcases existing with ⟨content, isRegular, notEmpty, _⟩
  rw [isRegular]
  cases content with
  | empty => exact absurd rfl notEmpty
  | catalog => rfl
  | backup copy => rfl
  | other => rfl

theorem Existing.connect (existing : Existing files path) (database : Database Tables) :
    performFile (.connect path) database files = (files, .ok ()) := by
  rcases existing with ⟨content, isRegular, notEmpty, notOther⟩
  cases content with
  | empty => exact absurd rfl notEmpty
  | catalog => simp only [performFile, isRegular]
  | backup copy => simp only [performFile, isRegular]
  | other => exact absurd rfl notOther

theorem run_migrateCatalog_of_existing {defaults : List (Migration Statement SchemaReply)}
    {call : Call Statement SchemaReply} (contiguous : Contiguous (selectedMigrations defaults call))
    (existing : Existing files call.databasePath) :
    runAlone schema conn (migrateCatalog defaults call) database files =
      runAlone schema conn (Program.withFinally closeConnection (wrapSqliteErrors
        (migrateConnected call (selectedMigrations defaults call) true))) database files := by
  have safe : (files call.databasePath).kind ≠ .irregular := by
    rw [existing.kind_eq]
    simp
  have connected : runAlone schema conn (onFiles (.connect call.databasePath)) database files =
      (⟨.settled database, files⟩, .ok (.ok ())) := by
    exact congrArg (fun outcome : Files Tables × Except Failure Unit =>
      ((⟨.settled database, outcome.1⟩ : Concurrency.Host Conn (Database Tables) (Files Tables)),
        (Except.ok outcome.2 : Except Failure (Except Failure Unit)))) (existing.connect database)
  simp only [migrateCatalog, contiguous.validate, Program.ofExcept, Program.done_bind]
  rw [runAlone_bind _ _ (run_rejectUnsafeExistingPath _ safe), runAlone_kind, existing.kind_eq,
    runAlone_bind _ _ connected]
  rfl

section Catalog

variable {defaults : List (Migration Statement SchemaReply)} {call : Call Statement SchemaReply}
  {version : ℕ}

/-- The file under which a run to the end of its list keeps the catalog as it was. -/
def backupOf (defaults : List (Migration Statement SchemaReply))
    (call : Call Statement SchemaReply) (version : ℕ) : Path :=
  backupPath call.databasePath call.backupDir version (selectedMigrations defaults call).length

variable (schema conn) in
theorem run_migrateCatalog_of_taken (contiguous : Contiguous (selectedMigrations defaults call))
    (existing : Existing files call.databasePath) (atVersion : database.AtVersion version)
    (below : version < (selectedMigrations defaults call).length)
    (taken : (files (backupOf defaults call version)).kind ≠ .missing) :
    ∃ text, runAlone schema conn (migrateCatalog defaults call) database files =
      (⟨.settled database, files⟩, .error (.migrationError text)) := by
  rcases run_migrateConnected_of_taken schema conn contiguous atVersion below
    taken with ⟨text, stopped⟩
  refine ⟨text, ?_⟩
  rw [run_migrateCatalog_of_existing contiguous existing, run_closing, run_wrapSqliteErrors,
    stopped]
  rfl

variable (schema conn) in
/-- A run that gets to the transaction has written its backup, however the transaction ends. -/
theorem run_migrateCatalog_of_free (contiguous : Contiguous (selectedMigrations defaults call))
    (existing : Existing files call.databasePath) (atVersion : database.AtVersion version)
    (below : version < (selectedMigrations defaults call).length)
    (free : (files (backupOf defaults call version)).kind = .missing) :
    ∃ result, runAlone schema conn (migrateCatalog defaults call) database files =
      (⟨.settled (match (pendingMigrations call.clock version
            (selectedMigrations defaults call)).run (perform schema) database with
          | (after, .ok _) => after
          | (_, .error _) => database),
        Function.update files (backupOf defaults call version) (.regular (.backup database))⟩,
        result) ∧
      match (pendingMigrations call.clock version (selectedMigrations defaults call)).run
        (perform schema) database with
      | (_, .ok applied) => result = .ok ⟨(selectedMigrations defaults call).length, applied,
          some (backupOf defaults call version), true⟩
      | (_, .error _) => ∃ error, result = .error error := by
  have connected : runAlone schema conn (migrateConnected call (selectedMigrations defaults call)
      true) database files = runAlone schema conn (do
        let applied ← applyPendingMigrations call.clock version (selectedMigrations defaults call)
        let reached ← currentSchemaVersion
        return ⟨reached, applied, some (backupOf defaults call version), true⟩) database
      (Function.update files (backupOf defaults call version) (.regular (.backup database))) := by
    rw [run_migrateConnected contiguous atVersion below,
      runAlone_bind _ _ (run_backupDatabase free)]
    rfl
  have applying : runAlone schema conn (applyPendingMigrations call.clock version
      (selectedMigrations defaults call)) database
      (Function.update files (backupOf defaults call version) (.regular (.backup database))) = _ :=
    Program.run_transaction _ _ _ _ _ _
  rw [run_migrateCatalog_of_existing contiguous existing, run_closing, run_wrapSqliteErrors,
    connected]
  cases ran : (pendingMigrations call.clock version (selectedMigrations defaults call)).run
    (perform schema) database with
  | mk after outcome =>
    simp only [engine, ran] at applying
    cases outcome with
    | ok applied =>
      rcases upgrade_of_run contiguous below atVersion (le_refl _) ran with ⟨_, _, upgrade⟩
      have length := congrArg List.length
        (contiguous.versions_pending (Nat.le_of_lt below))
      rw [List.length_map, List.length_range'] at length
      have atTarget := upgrade.atVersion atVersion
      rw [List.length_map, length, Nat.add_sub_cancel' (Nat.le_of_lt below)] at atTarget
      rw [runAlone_bind _ _ applying, runAlone_bind _ _ (run_currentSchemaVersion atTarget)]
      exact ⟨_, rfl, rfl⟩
    | error error =>
      rw [runAlone_bind_error _ _ applying]
      refine ⟨.error (wrapped error), ?_, _, rfl⟩
      dsimp only
      split
      · rfl
      · simp [SharedDatabase.close, SharedDatabase.working, SharedDatabase.settled, Except.mapError]

end Catalog

/-- A run that fails while it applies migrations: its backup was written, and the pending
migrations, or their records, raise. -/
structure FailsApplying (schema : Engine Statement SchemaReply Tables)
    (defaults : List (Migration Statement SchemaReply)) (call : Call Statement SchemaReply)
    (database : Database Tables) (files : Files Tables) (version : ℕ) : Prop where
  contiguous : Contiguous (selectedMigrations defaults call)
  below : version < (selectedMigrations defaults call).length
  free : (files (backupOf defaults call version)).kind = .missing
  raises : ∃ after error, (pendingMigrations call.clock version
    (selectedMigrations defaults call)).run (perform schema) database = (after, .error error)

/-- A list of migrations that work on a database. -/
structure Works (schema : Engine Statement SchemaReply Tables)
    (defaults : List (Migration Statement SchemaReply)) (call : Call Statement SchemaReply)
    (database : Database Tables) (version : ℕ) : Prop where
  contiguous : Contiguous (selectedMigrations defaults call)
  below : version < (selectedMigrations defaults call).length
  succeeds : ∃ after applied, (pendingMigrations call.clock version
    (selectedMigrations defaults call)).run (perform schema) database = (after, .ok applied)

end Runs

/-- A retry after a run that failed while it applied migrations reaches its target exactly when that
is another target than the one of the failed run, and nothing is in the way of its backup. -/
theorem retry_reaches_target_iff (schema : Engine Statement SchemaReply Tables) (conn later : Conn)
    (defaults : List (Migration Statement SchemaReply)) (first again : Call Statement SchemaReply)
    (database : Database Tables) (files : Files Tables) (version : ℕ)
    (samePath : again.databasePath = first.databasePath)
    (sameDir : again.backupDir = first.backupDir)
    (existing : Existing files first.databasePath) (atVersion : database.AtVersion version)
    (fails : FailsApplying schema defaults first database files version)
    (works : Works schema defaults again database version) :
    (∃ result, ((migrateCatalog defaults again).run
        (Request.perform (engine schema) performFile later)
        (runAlone schema conn (migrateCatalog defaults first) database files).1).2 = .ok result ∧
      result.currentVersion = (selectedMigrations defaults again).length) ↔
      (selectedMigrations defaults again).length ≠ (selectedMigrations defaults first).length ∧
        (files (backupOf defaults again version)).kind = .missing := by
  have failed : ∃ result, runAlone schema conn (migrateCatalog defaults first) database files =
      (⟨.settled database, Function.update files (backupOf defaults first version)
        (.regular (.backup database))⟩, result) := by
    rcases run_migrateCatalog_of_free schema conn fails.contiguous existing atVersion fails.below
      fails.free with ⟨result, ran, _⟩
    rcases fails.raises with ⟨_, _, raises⟩
    rw [raises] at ran
    exact ⟨result, ran⟩
  have stillExisting : Existing (Function.update files (backupOf defaults first version)
      (.regular (.backup database))) again.databasePath := by
    rcases existing with ⟨content, isRegular, filled⟩
    refine ⟨content, ?_, filled⟩
    have notBackup : first.databasePath ≠ backupOf defaults first version :=
      (backupPath_ne _ _ _ _).symm
    rw [samePath, Function.update_of_ne notBackup, isRegular]
  have freeAgain_iff : (Function.update files (backupOf defaults first version)
      (.regular (.backup database)) (backupOf defaults again version)).kind = .missing ↔
      (selectedMigrations defaults again).length ≠ (selectedMigrations defaults first).length ∧
        (files (backupOf defaults again version)).kind = .missing := by
    by_cases sameTarget : (selectedMigrations defaults again).length =
        (selectedMigrations defaults first).length
    · have sameBackup : backupOf defaults again version = backupOf defaults first version := by
        rw [backupOf, backupOf, samePath, sameDir, sameTarget]
      rw [sameBackup, Function.update_self]
      simp [Entry.kind, sameTarget]
    · have otherBackup : backupOf defaults again version ≠ backupOf defaults first version := by
        intro sameBackup
        rw [backupOf, backupOf, samePath, sameDir] at sameBackup
        exact sameTarget (backupPath_injective sameBackup)
      rw [Function.update_of_ne otherBackup]
      simp [sameTarget]
  rcases failed with ⟨_, ran⟩
  rw [ran, ← freeAgain_iff]
  constructor
  · rintro ⟨result, succeeded, _⟩
    by_contra taken
    rcases run_migrateCatalog_of_taken schema later works.contiguous
      stillExisting atVersion works.below taken with ⟨text, refused⟩
    unfold runAlone at refused
    rw [refused] at succeeded
    cases succeeded
  · intro free
    rcases run_migrateCatalog_of_free schema later works.contiguous
      stillExisting atVersion works.below free with ⟨result, retried, reached⟩
    rcases works.succeeds with ⟨_, applied, succeeds⟩
    rw [succeeds] at reached
    unfold runAlone at retried
    rw [retried]
    exact ⟨_, reached, rfl⟩

/-! ## A failed run and its retry -/

def brokenMigration : Migration ℕ fun _ => Unit where
  version := 1
  name := "broken"
  apply := do
    Program.query 1
    throw (.exception "injected failure")

/-- A catalog that was created without the runner. -/
def unversionedFiles : Files (List ℕ) :=
  Function.update (fun _ => .missing) samplePath (.regular .catalog)

theorem brokenMigration_failsApplying : FailsApplying remembering [sampleMigration]
    (sampleCall [brokenMigration]) ⟨none, []⟩ unversionedFiles 0 where
  contiguous := rfl
  below := by decide
  free := by decide
  raises := ⟨_, _, rfl⟩

theorem sampleMigration_works :
    Works remembering [sampleMigration] (sampleCall [sampleMigration]) ⟨none, []⟩ 0 where
  contiguous := rfl
  below := by decide
  succeeds := by
    have isOk : ((pendingMigrations (sampleCall [sampleMigration]).clock 0
        (selectedMigrations [sampleMigration] (sampleCall [sampleMigration]))).run
        (perform remembering) ⟨none, []⟩).2.toOption = some [1] := by
      decide
    exact ⟨_, [1], Prod.ext rfl (eq_ok_of_toOption isOk)⟩

theorem existing_unversionedFiles : Existing unversionedFiles samplePath :=
  ⟨.catalog, rfl, by simp, by simp⟩

theorem retry_reaches_target_iff_refused :
    ¬∃ result, ((migrateCatalog [sampleMigration] (sampleCall [sampleMigration])).run
        (Request.perform (engine remembering) performFile true)
        (runAlone remembering false (migrateCatalog [sampleMigration]
          (sampleCall [brokenMigration])) ⟨none, []⟩ unversionedFiles).1).2 = .ok result ∧
      result.currentVersion = 1 := by
  intro reached
  exact ((retry_reaches_target_iff remembering false true [sampleMigration]
    (sampleCall [brokenMigration]) (sampleCall [sampleMigration]) ⟨none, []⟩ unversionedFiles 0 rfl
    rfl existing_unversionedFiles rfl brokenMigration_failsApplying sampleMigration_works).mp
    reached).1 rfl

/-- The migration list has been repaired, and still the catalog cannot be upgraded. -/
theorem repaired_migrations_refused :
    ¬∀ (first again : Call ℕ fun _ => Unit) (database : Database (List ℕ))
      (files : Files (List ℕ)) (version : ℕ), again.databasePath = first.databasePath →
      again.backupDir = first.backupDir → Existing files first.databasePath →
      database.AtVersion version →
      FailsApplying remembering [sampleMigration] first database files version →
      Works remembering [sampleMigration] again database version →
      ∃ result, ((migrateCatalog [sampleMigration] again).run
        (Request.perform (engine remembering) performFile true)
        (runAlone remembering false (migrateCatalog [sampleMigration] first) database files).1).2 =
        .ok result := by
  intro retries
  rcases retries (sampleCall [brokenMigration]) (sampleCall [sampleMigration]) ⟨none, []⟩
    unversionedFiles 0 rfl rfl existing_unversionedFiles rfl brokenMigration_failsApplying
    sampleMigration_works with ⟨result, succeeded⟩
  have refused : ((migrateCatalog [sampleMigration] (sampleCall [sampleMigration])).run
      (Request.perform (engine remembering) performFile true)
      (runAlone remembering false (migrateCatalog [sampleMigration]
        (sampleCall [brokenMigration])) ⟨none, []⟩ unversionedFiles).1).2.toOption = none := by
    decide
  rw [succeeded] at refused
  cases refused

end Reperio.Migrations
