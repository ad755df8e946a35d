import Reperio.Migrations.Runner

/-!
# What the pending migrations make of a catalog

An `Upgrade` is the effect of a list of migrations on a catalog: each is run
once on the schema, in order, and each leaves one record, with the versions
going up from where the history ended. `upgrade_of_run` says that the loop of
`_apply_pending_migrations` performs an upgrade or raises, and that it raises
on a history that already holds one of the versions it is about to record:
the primary key refuses the first record.
-/

namespace Reperio.Migrations

open Concurrency Python Relational

variable {Statement Tables : Type} {SchemaReply : Statement → Type}

/-- The record of a migration that was applied at some instant. -/
def record (applied : Migration Statement SchemaReply × DateTime) : SchemaMigration :=
  ⟨applied.1.version, applied.1.name, strftime applied.2⟩

variable (schema : Engine Statement SchemaReply Tables)

/-- Every migration once, in order. -/
def runAll : List (Migration Statement SchemaReply) → Tables → Except Failure Tables
  | [], tables => .ok tables
  | migration :: migrations, tables =>
    match migration.apply.run schema.perform tables with
    | (next, .ok ()) => runAll migrations next
    | (_, .error error) => .error error

/-- The migrations that were applied are recorded in order. -/
structure Upgrade (before : Database Tables)
    (applied : List (Migration Statement SchemaReply × DateTime)) (after : Database Tables) :
    Prop where
  recorded : after.rows = before.rows ++ applied.map record
  ordered : applied.map (fun one => one.1.version) =
    List.range' (before.rows.length + 1) applied.length
  migrated : runAll schema (applied.map Prod.fst) before.tables = .ok after.tables
  kept : before.history.isSome → after.history.isSome

variable {schema}

theorem runAll_append (first second : List (Migration Statement SchemaReply)) (tables : Tables) :
    runAll schema (first ++ second) tables =
      (runAll schema first tables).bind fun next => runAll schema second next := by
  induction first generalizing tables with
  | nil => rfl
  | cons migration first ih =>
    simp only [List.cons_append, runAll]
    split
    · exact ih _
    · rfl

namespace Upgrade

theorem refl (database : Database Tables) : Upgrade schema database [] database where
  recorded := by simp
  ordered := rfl
  migrated := rfl
  kept := id

theorem trans {first second third : Database Tables}
    {earlier later : List (Migration Statement SchemaReply × DateTime)}
    (before : Upgrade schema first earlier second) (after : Upgrade schema second later third) :
    Upgrade schema first (earlier ++ later) third where
  recorded := by rw [after.recorded, before.recorded, List.map_append, List.append_assoc]
  ordered := by
    have length : second.rows.length = first.rows.length + earlier.length := by
      rw [before.recorded, List.length_append, List.length_map]
    rw [List.map_append, before.ordered, after.ordered, length, List.length_append,
      Nat.add_right_comm, List.range'_append_1]
  migrated := by
    rw [List.map_append, runAll_append, before.migrated]
    exact after.migrated
  kept := after.kept ∘ before.kept

end Upgrade

/-! ## Histories without gaps -/

variable {database : Database Tables} {version : ℕ}
    {migrations : List (Migration Statement SchemaReply)} {current : ℕ} {clock : ℕ → DateTime}

namespace Database

theorem perm_versions (database : Database Tables) :
    database.versions.Perm (database.rows.map SchemaMigration.version) :=
  List.perm_insertionSort _ _

theorem AtVersion.length_rows (atVersion : database.AtVersion version) :
    database.rows.length = version := by
  have sameLength := database.perm_versions.length_eq
  rw [atVersion, List.length_range', List.length_map] at sameLength
  exact sameLength.symm

theorem AtVersion.mem_iff (atVersion : database.AtVersion version) {recorded : ℕ} :
    recorded ∈ database.rows.map SchemaMigration.version ↔ 1 ≤ recorded ∧ recorded ≤ version := by
  rw [← database.perm_versions.mem_iff, atVersion, List.mem_range'_1]
  omega

theorem AtVersion.unique {first second : ℕ} (atFirst : database.AtVersion first)
    (atSecond : database.AtVersion second) : first = second := by
  rw [← atFirst.length_rows, atSecond.length_rows]

theorem pairwise_rows (database : Database Tables) :
    database.rows.Pairwise fun first second => first.version ≠ second.version := by
  cases history : database.history with
  | none => simp [rows, history]
  | some table =>
    simp only [rows, history, Option.elim_some]
    exact table.apart.imp fun apart same => apart (Or.inl same)

/-- A list is sorted into the range that it enumerates. -/
theorem atVersion_of_perm
    (perm : (database.rows.map SchemaMigration.version).Perm (List.range' 1 version)) :
    database.AtVersion version := by
  refine List.Perm.eq_of_pairwise ?_ (List.pairwise_insertionSort (· ≤ ·) _) ?_
    (database.perm_versions.trans perm)
  · intro first second _ _ below above
    exact Nat.le_antisymm below above
  · exact List.pairwise_le_range'

theorem max?_eq (atVersion : database.AtVersion version) :
    (database.rows.map SchemaMigration.version).max?.getD 0 = version := by
  cases largest : (database.rows.map SchemaMigration.version).max? with
  | none =>
    rw [List.max?_eq_none_iff, List.map_eq_nil_iff] at largest
    rw [← atVersion.length_rows, largest]
    rfl
  | some value =>
    rcases List.max?_eq_some_iff.mp largest with ⟨member, above⟩
    rcases atVersion.mem_iff.mp member with ⟨positive, le⟩
    have last := above version (atVersion.mem_iff.mpr ⟨by omega, le_refl _⟩)
    exact Nat.le_antisymm le last

end Database

theorem Upgrade.atVersion {before after : Database Tables}
    {applied : List (Migration Statement SchemaReply × DateTime)}
    (upgrade : Upgrade schema before applied after) (atVersion : before.AtVersion version) :
    after.AtVersion (version + applied.length) := by
  apply Database.atVersion_of_perm
  have applications : (applied.map record).map SchemaMigration.version =
      List.range' (version + 1) applied.length := by
    rw [List.map_map, ← atVersion.length_rows]
    exact upgrade.ordered
  rw [upgrade.recorded, List.map_append, applications, Nat.add_comm version 1,
    ← List.range'_append_1]
  refine List.Perm.append_right _ ?_
  rw [← atVersion]
  exact before.perm_versions.symm

/-! ## Migration lists -/

theorem validateFrom_eq_ok {expected : ℕ} : validateFrom expected migrations = .ok () ↔
      migrations.map Migration.version = List.range' expected migrations.length := by
  induction migrations generalizing expected with
  | nil => simp [validateFrom]
  | cons migration migrations ih =>
    simp only [validateFrom, List.map_cons, List.length_cons, List.range'_succ, List.cons.injEq]
    split
    · rename_i different
      simp [different]
    · rename_i same
      rw [not_not] at same
      simp [same, ih]

/-- `migrations must be contiguous and start at version 1`. -/
def Contiguous (migrations : List (Migration Statement SchemaReply)) : Prop :=
  migrations.map Migration.version = List.range' 1 migrations.length

theorem Contiguous.validate (contiguous : Contiguous migrations) :
    validateMigrationSequence migrations = .ok () :=
  validateFrom_eq_ok.mpr contiguous

theorem Contiguous.targetVersion_eq (contiguous : Contiguous migrations) :
    targetVersion migrations = migrations.length := by
  rcases List.eq_nil_or_concat migrations with rfl | ⟨front, last, rfl⟩
  · rfl
  · have versions := congrArg List.getLast? contiguous
    simp only [List.concat_eq_append, List.map_append, List.map_cons, List.map_nil,
      List.length_append, List.length_singleton, List.range'_concat, List.getLast?_concat,
      Option.some.injEq] at versions
    simp [targetVersion, versions, Nat.add_comm]

/-- The migrations that `migrate_catalog` has not seen recorded. -/
def pending (current : ℕ) (migrations : List (Migration Statement SchemaReply)) :
    List (Migration Statement SchemaReply) :=
  migrations.filter fun migration => decide (current < migration.version)

theorem Contiguous.versions_pending (contiguous : Contiguous migrations)
    (below : current ≤ migrations.length) :
    (pending current migrations).map Migration.version =
      List.range' (current + 1) (migrations.length - current) := by
  have mapped : (pending current migrations).map Migration.version =
      (migrations.map Migration.version).filter fun version => decide (current < version) := by
    rw [List.filter_map]
    rfl
  have split : List.range' 1 migrations.length =
      List.range' 1 current ++ List.range' (current + 1) (migrations.length - current) := by
    rw [Nat.add_comm current 1, List.range'_append_1, Nat.add_sub_cancel' below]
  rw [mapped, contiguous, split, List.filter_append, List.filter_eq_nil_iff.mpr,
    List.filter_eq_self.mpr, List.nil_append]
  · intro version member
    have bounds := List.mem_range'_1.mp member
    exact decide_eq_true (by omega)
  · intro version member
    have bounds := List.mem_range'_1.mp member
    simp only [decide_eq_true_eq]
    omega

/-- A migration with the instant at which its version is recorded. -/
def stamped (clock : ℕ → DateTime) (migration : Migration Statement SchemaReply) :
    Migration Statement SchemaReply × DateTime :=
  (migration, clock migration.version)

/-! ## The loop -/

theorem run_schemaStatements {α : Type} (program : Program Statement SchemaReply Failure α)
    (database : Database Tables) :
    (program.translate fun statement => Program.query (Query.schema statement) :
      Program (Query Statement) (Reply SchemaReply) Failure α).run (perform schema) database =
      ({ database with tables := (program.run schema.perform database.tables).1 },
        (program.run schema.perform database.tables).2) := by
  induction program generalizing database with
  | done result => rfl
  | raise error => rfl
  | execute statement next ih => exact ih _ _

theorem applyMigration_ok {migration : Migration Statement SchemaReply}
    {before after : Database Tables}
    (ran : (applyMigration clock migration).run (perform schema) before = (after, .ok ())) :
    ∃ table next, before.history = some table ∧ after.history = some next ∧
      next.rows = table.rows ++ [record (stamped clock migration)] ∧
      migration.apply.run schema.perform before.tables = (after.tables, .ok ()) := by
  rw [applyMigration, Program.run_bind, run_schemaStatements] at ran
  cases applied : migration.apply.run schema.perform before.tables with
  | mk tables result =>
    rw [applied] at ran
    cases result with
    | error error => cases (Prod.mk.inj ran).2
    | ok value =>
      cases history : before.history with
      | none =>
        simp only [Program.run_query_bind, perform, history, Program.ofExcept,
          Program.run_raise, Prod.mk.injEq, reduceCtorEq, and_false] at ran
      | some table =>
        simp only [Program.run_query_bind, perform, history] at ran
        split at ran
        · rename_i next inserted
          simp only [Program.ofExcept, Program.run_done, Prod.mk.injEq, and_true] at ran
          subst ran
          exact ⟨table, next, rfl, rfl, (Table.insert_eq_some.mp inserted).2.2, rfl⟩
        · simp only [Program.ofExcept, Program.run_raise, Prod.mk.injEq, reduceCtorEq,
            and_false] at ran

theorem applyAll_ok {earlier applied : List ℕ} {before after : Database Tables}
    (tableExists : before.history.isSome)
    (ran : (applyAll clock current migrations earlier).run (perform schema) before =
      (after, .ok applied)) :
    applied = earlier ++ (pending current migrations).map Migration.version ∧
      after.rows = before.rows ++ ((pending current migrations).map (stamped clock)).map record ∧
      runAll schema (pending current migrations) before.tables = .ok after.tables ∧
      after.history.isSome := by
  induction migrations generalizing earlier before with
  | nil =>
    simp only [applyAll, Program.run_done, Prod.mk.injEq, Except.ok.injEq] at ran
    rcases ran with ⟨rfl, rfl⟩
    simp [pending, runAll, tableExists]
  | cons migration migrations ih =>
    rw [applyAll] at ran
    split at ran
    · rename_i old
      have skipped : pending current (migration :: migrations) = pending current migrations := by
        simp [pending, Nat.not_lt.mpr old]
      rw [skipped]
      exact ih tableExists ran
    · rename_i fresh
      have isPending : pending current (migration :: migrations) =
          migration :: pending current migrations := by
        simp [pending, Nat.not_le.mp fresh]
      rw [Program.run_bind] at ran
      cases one : (applyMigration clock migration).run (perform schema) before with
      | mk middle result =>
        rw [one] at ran
        cases result with
        | error error => cases (Prod.mk.inj ran).2
        | ok value =>
          rcases applyMigration_ok one with ⟨table, next, history, nextHistory, rows, tables⟩
          rcases ih (by simp [nextHistory]) ran with ⟨applications, allRows, allRan, kept⟩
          refine ⟨?_, ?_, ?_, kept⟩
          · simp [applications, isPending]
          · have middleRows : middle.rows = before.rows ++ [record (stamped clock migration)] := by
              simp only [Database.rows, history, nextHistory, Option.elim_some, rows]
            rw [allRows, middleRows, isPending, List.append_assoc]
            rfl
          · rw [isPending, runAll, tables]
            exact allRan

theorem Database.rows_ensured (database : Database Tables) :
    database.ensured.rows = database.rows := by
  rcases database with ⟨history, tables⟩
  cases history with
  | none => rfl
  | some table => rfl

/-- The pending migrations are all recorded above the history, or the run of them raises. -/
theorem upgrade_of_run {applied : List ℕ} {before after : Database Tables}
    (contiguous : Contiguous migrations) (below : current < migrations.length)
    (atVersion : before.AtVersion version) (atLeast : current ≤ version)
    (ran : (pendingMigrations clock current migrations).run (perform schema) before =
      (after, .ok applied)) :
    version = current ∧ applied = List.range' (current + 1) (migrations.length - current) ∧
      Upgrade schema before ((pending current migrations).map (stamped clock)) after := by
  have ensuredRan : (applyAll clock current migrations []).run (perform schema) before.ensured =
      (after, .ok applied) := ran
  rcases applyAll_ok rfl ensuredRan with ⟨applications, rows, tables, kept⟩
  have versions := contiguous.versions_pending (Nat.le_of_lt below)
  rw [versions, List.nil_append] at applications
  rw [Database.rows_ensured] at rows
  have notRecorded : version < current + 1 := by
    by_contra atMost
    have recordedBefore : current + 1 ∈ before.rows.map SchemaMigration.version :=
      atVersion.mem_iff.mpr ⟨by omega, by omega⟩
    have recordedNow : current + 1 ∈
        (((pending current migrations).map (stamped clock)).map record).map
          SchemaMigration.version := by
      rw [List.map_map, List.map_map]
      change current + 1 ∈ (pending current migrations).map Migration.version
      rw [versions, List.mem_range'_1]
      omega
    rcases List.mem_map.mp recordedBefore with ⟨old, oldMem, oldVersion⟩
    rcases List.mem_map.mp recordedNow with ⟨new, newMem, newVersion⟩
    have apart := after.pairwise_rows
    rw [rows] at apart
    exact (List.pairwise_append.mp apart).2.2 old oldMem new newMem
      (oldVersion.trans newVersion.symm)
  have same : version = current := by omega
  refine ⟨same, applications, rows, ?_, ?_, fun _ => kept⟩
  · rw [List.map_map, atVersion.length_rows, same, List.length_map]
    have length := congrArg List.length versions
    rw [List.length_map, List.length_range'] at length
    rw [length]
    exact versions
  · rw [List.map_map]
    change runAll schema ((pending current migrations).map id) before.tables = _
    rw [List.map_id]
    exact tables

end Reperio.Migrations
