import Reperio.Migrations.CatalogObjects
import Reperio.Migrations.Retry

/-!
# Upgrading the events

What the fourth migration makes of a table `events` without sequences, and what
the later ones leave of it. Every event is kept. The indexes are not: the renamed
table takes its indexes along, `IF NOT EXISTS` then finds their names in use, and
they go with the table that is dropped. The numbers of a case start at one unless
an event without a case, whose identifier is that of the case, comes first.
-/

namespace Reperio.Migrations

open Concurrency Python Relational

/-! ## Programs of definitions -/

variable {definitions : List Definition} {runtime : Runtime} {table : String}
    {objects : CatalogObjects}

section Programs

variable {runtime : Runtime} {objects after : CatalogObjects}

theorem run_define_ok {definition : Definition}
    (ran : (define definition).run (SchemaStatement.perform runtime) objects = (after, .ok ())) :
    definition.apply runtime objects = .ok after := by
  rw [define, Program.run_query_bind, Program.run_ofExcept] at ran
  simp only [SchemaStatement.perform] at ran
  cases applied : definition.apply runtime objects with
  | error text =>
    rw [applied] at ran
    cases (Prod.mk.inj ran).2
  | ok next =>
    rw [applied] at ran
    cases ran
    rfl

theorem run_defineAll_ok
    (ran : (defineAll definitions).run (SchemaStatement.perform runtime) objects =
      (after, .ok ())) :
    definitions.foldlM (fun objects definition => definition.apply runtime objects) objects =
      .ok after := by
  induction definitions generalizing objects with
  | nil =>
    cases ran
    rfl
  | cons definition definitions ih =>
    rcases (Program.run_bind_eq_ok _).mp ran with ⟨middle, _, defined, ran⟩
    rw [List.foldlM_cons, run_define_ok defined]
    exact ih ran

end Programs

/-! ## Definitions elsewhere -/

namespace Definition

/-- The definition is about another table. -/
def IsElsewhere (table : String) : Definition → Prop
  | createTable name _ => name ≠ table
  | createIndex index => index.table ≠ table
  | addColumn name _ => name ≠ table
  | _ => False

instance (table : String) : DecidablePred (IsElsewhere table)
  | createTable _ _ => inferInstanceAs (Decidable (_ ≠ _))
  | createIndex _ => inferInstanceAs (Decidable (_ ≠ _))
  | addColumn _ _ => inferInstanceAs (Decidable (_ ≠ _))
  | renameTable _ _ => inferInstanceAs (Decidable False)
  | copyEvents => inferInstanceAs (Decidable False)
  | dropTable _ => inferInstanceAs (Decidable False)

end Definition

/-- A table as it is stored, with its indexes. -/
def shape (table : String) (objects : CatalogObjects) : Option StoredTable × List Index :=
  (objects.tables table, objects.indexesOn table)

theorem shape_apply {definition : Definition} {next : CatalogObjects}
    (elsewhere : definition.IsElsewhere table)
    (applied : definition.apply runtime objects = .ok next) :
    shape table next = shape table objects := by
  cases definition with
  | createTable name content =>
    rcases SchemaObjects.createTable_eq_ok applied with ⟨indexes, tables⟩
    have other : table ≠ name := fun same => elsewhere same.symm
    rw [shape, shape, SchemaObjects.indexesOn, indexes, tables, Function.update_of_ne other]
    rfl
  | createIndex index =>
    have isOther : ¬(index.table = table ∧ objects.hasIndex index.name = false) :=
      fun both => elsewhere both.1
    rw [shape, shape, (SchemaObjects.createIndex_eq_ok applied).1,
      SchemaObjects.indexesOn_createIndex applied, if_neg isOther, List.append_nil]
  | addColumn name column =>
    have other : table ≠ name := fun same => elsewhere same.symm
    rw [Definition.apply, addColumn] at applied
    split at applied
    · cases applied
    · split at applied
      · cases applied
      · cases applied
        exact Prod.ext (Function.update_of_ne other _ _) rfl
  | renameTable old new => exact elsewhere.elim
  | copyEvents => exact elsewhere.elim
  | dropTable name => exact elsewhere.elim

def SchemaStatement.IsElsewhere (table : String) : SchemaStatement → Prop
  | define definition => definition.IsElsewhere table
  | _ => True

theorem shape_perform (runtime : Runtime) {shaped : Option StoredTable × List Index}
    (statement : SchemaStatement) (objects : CatalogObjects)
    (elsewhere : statement.IsElsewhere table) (holds : shape table objects = shaped) :
    shape table (statement.perform runtime objects).1 = shaped := by
  cases statement with
  | tableExists name => exact holds
  | columnExists name column => exact holds
  | define definition =>
    rw [SchemaStatement.perform]
    cases applied : definition.apply runtime objects with
    | error text => exact holds
    | ok next => exact (shape_apply elsewhere applied).trans holds

section Issues

variable {table : String}

theorem issues_defineAll (elsewhere : ∀ definition ∈ definitions, definition.IsElsewhere table) :
    (defineAll definitions).Issues (SchemaStatement.IsElsewhere table) := by
  induction definitions with
  | nil => exact Program.issues_done _
  | cons definition definitions ih =>
    rw [List.forall_mem_cons] at elsewhere
    exact ⟨elsewhere.1, fun reply => Program.issues_ofExcept_bind.mpr
      fun _ _ => ih elsewhere.2⟩

theorem issues_define {definition : Definition} (elsewhere : definition.IsElsewhere table) :
    (define definition).Issues (SchemaStatement.IsElsewhere table) :=
  ⟨elsewhere, fun reply => by cases reply <;> trivial⟩

theorem issues_addFindingQueryIndexes :
    addFindingQueryIndexes.Issues (SchemaStatement.IsElsewhere "events") := by
  have otherwise : createFindingsTablesAndIndexes.Issues (SchemaStatement.IsElsewhere "events") :=
    issues_defineAll (by decide)
  have indexes : (define (indexOf "idx_findings_query" "findings"
      ["case_id", "created_at", "finding_id"]) >>= fun _ => define (indexOf
        "idx_findings_filters" "findings" ["finding_type", "severity", "status"])).Issues
      (SchemaStatement.IsElsewhere "events") :=
    Program.Issues.bind (issues_define (by decide)) fun _ => issues_define (by decide)
  refine ⟨trivial, fun findings => ?_⟩
  cases findings with
  | false => exact otherwise
  | true =>
    refine ⟨trivial, fun evidence => ?_⟩
    cases evidence with
    | false => exact otherwise
    | true => exact indexes

theorem issues_createUnlessThere {name : String} {statements : List Definition}
    (elsewhere : ∀ statement ∈ statements, statement.IsElsewhere table) :
    (createUnlessThere name statements).Issues (SchemaStatement.IsElsewhere table) := by
  refine ⟨trivial, fun isThere => ?_⟩
  cases isThere with
  | true => trivial
  | false => exact issues_defineAll elsewhere

theorem issues_addBrowserArtifactsTable :
    addBrowserArtifactsTable.Issues (SchemaStatement.IsElsewhere "events") :=
  issues_createUnlessThere (by decide)

theorem issues_addMediumColumn :
    addMediumColumn.Issues (SchemaStatement.IsElsewhere "events") := by
  refine ⟨trivial, fun isBound => ?_⟩
  cases isBound with
  | true => trivial
  | false => exact issues_define (by decide)

theorem issues_addMediaCheckpointBindings :
    addMediaCheckpointBindings.Issues (SchemaStatement.IsElsewhere "events") :=
  issues_addMediumColumn.bind fun _ => (issues_createUnlessThere (by decide)).bind
    fun _ => issues_createUnlessThere (by decide)

end Issues

/-! ## The fourth migration -/

theorem insertEvents_eq_ok {stored rows inserted : List Event}
    (distinct : (stored.map Event.eventId).Nodup)
    (ok : insertEvents runtime objects stored rows = .ok inserted) :
    inserted = stored ++ rows ∧ (inserted.map Event.eventId).Nodup := by
  induction rows generalizing stored with
  | nil =>
    cases ok
    exact ⟨(List.append_nil _).symm, distinct⟩
  | cons row rows ih =>
    rcases Python.bind_eq_ok ok with ⟨next, insertedRow, ok⟩
    unfold insertEvent at insertedRow
    split at insertedRow
    · cases insertedRow
    split at insertedRow
    · cases insertedRow
    rename_i isNew
    split at insertedRow
    · cases insertedRow
    split at insertedRow
    · cases insertedRow
    cases insertedRow
    have nextDistinct : ((stored ++ [row]).map Event.eventId).Nodup := by
      rw [List.map_append, List.map_singleton, List.nodup_append_comm, List.singleton_append,
        List.nodup_cons]
      refine ⟨fun isOld => isNew ?_, distinct⟩
      rcases List.mem_map.mp isOld with ⟨old, isStored, same⟩
      exact List.any_eq_true.mpr ⟨old, isStored, beq_iff_eq.mpr same⟩
    rcases ih nextDistinct ok with ⟨same, allDistinct⟩
    refine ⟨?_, allDistinct⟩
    rw [same, List.append_assoc]
    rfl

theorem eventStatements_eq :
    eventStatements = .createTable "events" (.events [] []) :: eventIndexes.map .createIndex := by
  decide

theorem nodup_eventIndexes : (eventIndexes.map Index.name).Nodup := by decide

theorem table_of_mem_eventIndexes : ∀ index ∈ eventIndexes, index.table = "events" := by decide

/-- What becomes of a table without sequences. -/
theorem addEventSequences_ok {after : CatalogObjects} {rows : List LegacyEvent}
    {added : List String} (legacy : objects.tables "events" = some (.legacyEvents rows added))
    (noSequence : "sequence" ∉ added)
    (ran : addEventSequences.run (SchemaStatement.perform runtime) objects = (after, .ok ())) :
    shape "events" after = (some (.events (LegacyEvent.selected rows) []),
        eventIndexes.filter fun index => !objects.hasIndex index.name) ∧
      ((LegacyEvent.selected rows).map Event.eventId).Nodup := by
  have unnumbered : (objects.tables "events").any
      (fun stored => stored.columns.contains "sequence") = false := by
    have isMissing : "sequence" ∉ StoredTable.legacyColumns ++ added := by
      rw [List.mem_append, not_or]
      exact ⟨by decide, noSequence⟩
    rw [legacy, Option.any_some, StoredTable.columns, List.contains_eq_mem]
    exact decide_eq_false isMissing
  have isThere : (objects.tables "events").isSome = true := by
    rw [legacy]
    rfl
  unfold addEventSequences tableExists columnExists at ran
  rw [Program.run_query_bind] at ran
  simp only [SchemaStatement.perform, isThere, if_true] at ran
  rw [Program.run_query_bind] at ran
  simp only [SchemaStatement.perform, unnumbered, Bool.false_eq_true, if_false] at ran
  rcases (Program.run_bind_eq_ok _).mp ran with ⟨renamed, _, isRenamed, ran⟩
  rcases (Program.run_bind_eq_ok _).mp ran with ⟨created, _, areCreated, ran⟩
  rcases (Program.run_bind_eq_ok _).mp ran with ⟨copied, _, isCopied, isDropped⟩
  rcases SchemaObjects.renameTable_eq_ok (run_define_ok isRenamed) with ⟨content, isContent, _, rfl⟩
  rw [legacy, Option.some.injEq] at isContent
  subst isContent
  have areCreated := run_defineAll_ok areCreated
  rw [eventStatements_eq, List.foldlM_cons] at areCreated
  rcases Python.bind_eq_ok areCreated with ⟨tabled, isTabled, areCreated⟩
  rcases SchemaObjects.createTable_eq_ok isTabled with ⟨tabledIndexes, tabledTables⟩
  rw [List.foldlM_map] at areCreated
  rcases SchemaObjects.createIndexes_eq_ok table_of_mem_eventIndexes nodup_eventIndexes areCreated
    with ⟨createdTables, createdIndexes⟩
  have tables : created.tables "events" = some (.events [] []) ∧
      created.tables "events_v3" = some (.legacyEvents rows added) := by
    rw [createdTables, tabledTables]
    exact ⟨rfl, rfl⟩
  have indexes : created.indexesOn "events" =
      eventIndexes.filter fun index => !objects.hasIndex index.name := by
    have noneLeft : tabled.indexesOn "events" = [] := by
      rw [SchemaObjects.indexesOn, tabledIndexes]
      exact SchemaObjects.indexesOn_moveTable (by decide)
    rw [createdIndexes, noneLeft, List.nil_append]
    refine List.filter_congr fun index _ => ?_
    rw [SchemaObjects.hasIndex, tabledIndexes, ← SchemaObjects.hasIndex,
      SchemaObjects.hasIndex_moveTable]
  have copied := run_define_ok isCopied
  rw [Definition.apply, copyEvents, tables.1, tables.2] at copied
  rcases Python.bind_eq_ok copied with ⟨inserted, areInserted, isSet⟩
  have noneYet : (([] : List Event).map Event.eventId).Nodup := List.nodup_nil
  rcases insertEvents_eq_ok noneYet areInserted with ⟨rfl, distinct⟩
  cases isSet
  cases SchemaObjects.dropTable_eq_ok (run_define_ok isDropped)
  refine ⟨Prod.ext ?_ ?_, distinct⟩
  · exact rfl
  · exact (SchemaObjects.indexesOn_removeTable (by decide)).trans indexes

/-! ## The later migrations -/

theorem run_shape {program : Body Unit} {after : CatalogObjects}
    (issues : program.Issues (SchemaStatement.IsElsewhere table))
    (ran : program.run (SchemaStatement.perform runtime) objects = (after, .ok ())) :
    shape table after = shape table objects := by
  have keeps : ∀ statement before, statement.IsElsewhere table →
      shape table before = shape table objects →
      shape table (SchemaStatement.perform runtime statement before).1 = shape table objects :=
    fun statement before elsewhere holds => shape_perform runtime statement before elsewhere holds
  have kept := issues.run_preserves keeps rfl
  rw [ran] at kept
  exact kept

/-! ## Numbers -/

/-- `ORDER BY created_at, event_id` in the new table. -/
def eventPlace (row : Event) : String ×ₗ String := toLex (row.createdAt, row.eventId)

/-- What an event was before it had a sequence. -/
def legacyOf (row : Event) : LegacyEvent where
  eventId := row.eventId
  caseId := row.caseId
  jobId := row.jobId
  eventType := row.eventType
  payloadJson := row.payloadJson
  publishedAt := row.publishedAt
  createdAt := row.createdAt

def eventsOf (caseId : String) (events : List Event) : List Event :=
  events.filter fun row => decide (row.caseId = some caseId)

/-- The events of each case have the numbers 1, 2, 3 and so on in their order. -/
def NumberedInOrder (events : List Event) : Prop :=
  ∀ caseId, (orderBy eventPlace (eventsOf caseId events)).map Event.sequence =
    List.range' 1 (eventsOf caseId events).length

section Numbers

variable {rows : List LegacyEvent} {row : LegacyEvent} {caseId : String}

theorem map_legacyOf_selected (rows : List LegacyEvent) :
    (LegacyEvent.selected rows).map legacyOf = orderBy LegacyEvent.place rows := by
  rw [LegacyEvent.selected, List.map_map]
  exact List.map_id _

theorem nodup_eventId (distinct : ((LegacyEvent.selected rows).map Event.eventId).Nodup) :
    (rows.map LegacyEvent.eventId).Nodup := by
  rw [LegacyEvent.selected, List.map_map] at distinct
  exact ((perm_orderBy LegacyEvent.place rows).map _).nodup_iff.mp distinct

/-- No two rows are at the same place. -/
theorem nodup_place (distinct : (rows.map LegacyEvent.eventId).Nodup) (keep : LegacyEvent → Bool) :
    ((rows.filter keep).map LegacyEvent.place).Nodup := by
  have kept : ((rows.filter keep).map LegacyEvent.eventId).Nodup :=
    (List.filter_sublist.map LegacyEvent.eventId).nodup distinct
  refine List.Nodup.of_map (fun place => (ofLex place).2) ?_
  rw [List.map_map]
  exact kept

theorem nodup_eventPlace (distinct : (rows.map LegacyEvent.eventId).Nodup) (caseId : String) :
    ((eventsOf caseId (LegacyEvent.selected rows)).map eventPlace).Nodup := by
  have all : ((LegacyEvent.selected rows).map eventPlace).Nodup := by
    have places : (rows.map LegacyEvent.place).Nodup := by
      rw [← List.filter_true rows]
      exact nodup_place distinct _
    rw [LegacyEvent.selected, List.map_map]
    exact ((perm_orderBy LegacyEvent.place rows).map _).nodup_iff.mpr places
  exact (List.filter_sublist.map eventPlace).nodup all

/-- A partition has the events of a case and the event without a case of the same identifier. -/
theorem countP_partition (rows : List LegacyEvent) (caseId : String) (holds : LegacyEvent → Bool) :
    (rows.filter fun row => decide (row.partition = caseId)).countP holds =
      (rows.filter fun row => decide (row.caseId = some caseId)).countP holds +
        (rows.filter fun row => decide (row.caseId = none ∧ row.eventId = caseId)).countP
          holds := by
  rw [List.countP_eq_countP_filter_add _ holds fun row => row.caseId.isSome, List.filter_filter,
    List.filter_filter]
  congr 2
  · refine List.filter_congr fun row _ => ?_
    cases hasCase : row.caseId <;> simp [LegacyEvent.partition, hasCase]
  · refine List.filter_congr fun row _ => ?_
    cases hasCase : row.caseId <;> simp [LegacyEvent.partition, hasCase]

/-- The order of a case is the one in which its events were copied. -/
theorem rowsBefore_eventsOf (rows : List LegacyEvent) (row : LegacyEvent) (caseId : String) :
    rowsBefore eventPlace (eventsOf caseId (LegacyEvent.selected rows)) (row.numbered rows) =
      rowsBefore LegacyEvent.place (rows.filter fun row => decide (row.caseId = some caseId))
        row := by
  rw [rowsBefore, eventsOf, LegacyEvent.selected, List.filter_map, List.countP_map,
    ((perm_orderBy LegacyEvent.place rows).filter _).countP_eq]
  rfl

/-- An event has its place in its case as its number when no event without a case is counted
along. -/
theorem numbered_sequence_eq_iff (distinct : (rows.map LegacyEvent.eventId).Nodup)
    (isRow : row ∈ rows) (ofCase : row.caseId = some caseId) :
    (row.numbered rows).sequence =
        rowNumber eventPlace (eventsOf caseId (LegacyEvent.selected rows)) (row.numbered rows) ↔
      ∀ lone ∈ rows, lone.caseId = none → lone.eventId = caseId → row.place ≤ lone.place := by
  have ofPartition : row.partition = caseId := by
    rw [LegacyEvent.partition, ofCase, Option.getD_some]
  have isOwn : row.numbered rows ∈ eventsOf caseId (LegacyEvent.selected rows) :=
    List.mem_filter.mpr ⟨List.mem_map_of_mem (mem_orderBy.mpr isRow), decide_eq_true ofCase⟩
  have isPart : row ∈ rows.filter fun other => decide (other.partition = caseId) :=
    List.mem_filter.mpr ⟨isRow, decide_eq_true ofPartition⟩
  have places := nodup_eventPlace distinct caseId
  have number : (row.numbered rows).sequence =
      rowsBefore LegacyEvent.place (rows.filter fun other => decide (other.partition = caseId)) row
        + 1 := by
    rw [← rowNumber_eq (nodup_place distinct _) isPart, ← ofPartition]
    rfl
  rw [number, rowNumber_eq places isOwn, rowsBefore_eventsOf, rowsBefore, countP_partition,
    Nat.add_right_cancel_iff, ← rowsBefore, Nat.add_eq_left, List.countP_eq_zero]
  constructor
  · intro none lone isLone hasNone isCase
    have notBefore := none lone (List.mem_filter.mpr ⟨isLone, decide_eq_true ⟨hasNone, isCase⟩⟩)
    rw [decide_eq_true_eq, not_lt] at notBefore
    exact notBefore
  · intro after lone isLone
    rw [List.mem_filter, decide_eq_true_eq] at isLone
    rw [decide_eq_true_eq, not_lt]
    exact after lone isLone.1 isLone.2.1 isLone.2.2

theorem numberedInOrder_iff (distinct : (rows.map LegacyEvent.eventId).Nodup) :
    NumberedInOrder (LegacyEvent.selected rows) ↔
      ∀ lone ∈ rows, lone.caseId = none → ∀ row ∈ rows, row.caseId = some lone.eventId →
        row.place ≤ lone.place := by
  have perCase : ∀ caseId, (orderBy eventPlace (eventsOf caseId
      (LegacyEvent.selected rows))).map Event.sequence =
        List.range' 1 (eventsOf caseId (LegacyEvent.selected rows)).length ↔
      ∀ row ∈ rows, row.caseId = some caseId → ∀ lone ∈ rows, lone.caseId = none →
        lone.eventId = caseId → row.place ≤ lone.place := by
    intro caseId
    rw [map_orderBy_eq_range'_iff (nodup_eventPlace distinct caseId)]
    constructor
    · intro numbers row isRow ofCase
      refine (numbered_sequence_eq_iff distinct isRow ofCase).mp (numbers _ ?_)
      exact List.mem_filter.mpr ⟨List.mem_map_of_mem (mem_orderBy.mpr isRow), decide_eq_true ofCase⟩
    · intro after event isEvent
      rcases List.mem_filter.mp isEvent with ⟨isSelected, ofCase⟩
      rcases List.mem_map.mp isSelected with ⟨row, isRow, rfl⟩
      rw [mem_orderBy] at isRow
      have ofCase : row.caseId = some caseId := of_decide_eq_true ofCase
      exact (numbered_sequence_eq_iff distinct isRow ofCase).mpr (after row isRow ofCase)
  constructor
  · intro inOrder lone isLone hasNone row isRow ofCase
    exact (perCase lone.eventId).mp (inOrder lone.eventId) row isRow ofCase lone isLone hasNone rfl
  · intro after caseId
    refine (perCase caseId).mpr ?_
    rintro row isRow ofCase lone isLone hasNone rfl
    exact after lone isLone hasNone row isRow ofCase

end Numbers

/-! ## The whole upgrade -/

def storedEvents (objects : CatalogObjects) : List Event :=
  match objects.tables "events" with
  | some (.events rows _) => rows
  | _ => []

/-- The events are those of before, and the table has the shape that it has in a fresh catalog. -/
structure Upgraded (rows : List LegacyEvent) (fresh after : CatalogObjects) : Prop where
  kept : ((storedEvents after).map legacyOf).Perm rows
  numbered : NumberedInOrder (storedEvents after)
  columns : (after.tables "events").map StoredTable.columns =
    (fresh.tables "events").map StoredTable.columns
  indexes : ∀ index, index ∈ after.indexesOn "events" ↔ index ∈ fresh.indexesOn "events"

/-- The catalog that all migrations make of nothing. -/
def IsFresh (runtime : Runtime) (fresh : CatalogObjects) : Prop :=
  runAll (catalogEngine runtime) defaultMigrations SchemaObjects.empty = .ok fresh

theorem shape_fresh (runtime : Runtime) :
    (runAll (catalogEngine runtime) defaultMigrations SchemaObjects.empty).toOption.map
      (shape "events") = some (some (.events [] []), eventIndexes) := rfl

theorem exists_isFresh (runtime : Runtime) : ∃ fresh, IsFresh runtime fresh := by
  have computed := shape_fresh runtime
  cases ran : runAll (catalogEngine runtime) defaultMigrations SchemaObjects.empty with
  | ok fresh => exact ⟨fresh, ran⟩
  | error error =>
    rw [ran] at computed
    cases computed

theorem shape_of_isFresh {fresh : CatalogObjects} (isFresh : IsFresh runtime fresh) :
    shape "events" fresh = (some (.events [] []), eventIndexes) := by
  have computed := shape_fresh runtime
  rw [isFresh] at computed
  exact Option.some.inj computed

theorem runAll_cons_ok {after : CatalogObjects}
    {migration : Migration SchemaStatement SchemaStatement.Reply}
    {migrations : List (Migration SchemaStatement SchemaStatement.Reply)}
    (ran : runAll (catalogEngine runtime) (migration :: migrations) objects = .ok after) :
    ∃ next, migration.apply.run (SchemaStatement.perform runtime) objects = (next, .ok ()) ∧
      runAll (catalogEngine runtime) migrations next = .ok after := by
  rw [runAll] at ran
  split at ran
  · rename_i next applied
    exact ⟨next, applied, ran⟩
  · cases ran

/-- The pending migrations of a catalog of the third version. -/
theorem shape_of_runAll {after : CatalogObjects} {rows : List LegacyEvent} {added : List String}
    (legacy : objects.tables "events" = some (.legacyEvents rows added))
    (noSequence : "sequence" ∉ added)
    (ran : runAll (catalogEngine runtime) (pending 3 defaultMigrations) objects = .ok after) :
    shape "events" after = (some (.events (LegacyEvent.selected rows) []),
        eventIndexes.filter fun index => !objects.hasIndex index.name) ∧
      (rows.map LegacyEvent.eventId).Nodup := by
  rcases runAll_cons_ok ran with ⟨sequenced, isSequenced, ran⟩
  rcases runAll_cons_ok ran with ⟨queried, isQueried, ran⟩
  rcases runAll_cons_ok ran with ⟨browsed, isBrowsed, ran⟩
  rcases runAll_cons_ok ran with ⟨bound, isBound, ran⟩
  cases ran
  rcases addEventSequences_ok legacy noSequence isSequenced with ⟨shaped, distinct⟩
  refine ⟨?_, nodup_eventId distinct⟩
  rw [run_shape issues_addMediaCheckpointBindings isBound,
    run_shape issues_addBrowserArtifactsTable isBrowsed,
    run_shape issues_addFindingQueryIndexes isQueried, shaped]

theorem upgraded_iff_of_shape {fresh before after : CatalogObjects} {rows : List LegacyEvent}
    (isFresh : IsFresh runtime fresh) (distinct : (rows.map LegacyEvent.eventId).Nodup)
    (shaped : shape "events" after = (some (.events (LegacyEvent.selected rows) []),
      eventIndexes.filter fun index => !before.hasIndex index.name)) :
    Upgraded rows fresh after ↔
      (∀ index ∈ eventIndexes, before.hasIndex index.name = false) ∧
        ∀ lone ∈ rows, lone.caseId = none → ∀ row ∈ rows, row.caseId = some lone.eventId →
          row.place ≤ lone.place := by
  have stored : storedEvents after = LegacyEvent.selected rows := by
    rw [storedEvents, (Prod.mk.inj shaped).1]
  have freshTable : fresh.tables "events" = some (.events [] []) :=
    (Prod.mk.inj (shape_of_isFresh isFresh)).1
  have freshIndexes : fresh.indexesOn "events" = eventIndexes :=
    (Prod.mk.inj (shape_of_isFresh isFresh)).2
  rw [← numberedInOrder_iff distinct, ← stored]
  constructor
  · intro upgraded
    refine ⟨fun index isIndex => ?_, upgraded.numbered⟩
    have isThere : index ∈ after.indexesOn "events" := by
      rw [upgraded.indexes, freshIndexes]
      exact isIndex
    rw [(Prod.mk.inj shaped).2, List.mem_filter, Bool.not_eq_true'] at isThere
    exact isThere.2
  · rintro ⟨free, inOrder⟩
    refine ⟨?_, inOrder, ?_, fun index => ?_⟩
    · rw [stored, map_legacyOf_selected]
      exact perm_orderBy LegacyEvent.place rows
    · rw [(Prod.mk.inj shaped).1, freshTable]
      rfl
    · rw [(Prod.mk.inj shaped).2, freshIndexes, List.mem_filter, and_iff_left_iff_imp]
      intro isIndex
      rw [Bool.not_eq_true']
      exact free index isIndex

section Run

variable {Conn : Type} [DecidableEq Conn] {runtime : Runtime} {conn : Conn}
  {call : Call SchemaStatement SchemaStatement.Reply} {before after : Database CatalogObjects}
  {files filesAfter : Files CatalogObjects} {result : MigrationResult}

/-- A run that returns has run the pending migrations. -/
theorem runAll_of_run (defaults : call.migrations = [])
    (existing : Existing files call.databasePath) (atVersion : before.AtVersion 3)
    (ran : runAlone (catalogEngine runtime) conn (migrateCatalog defaultMigrations call) before
      files = (⟨.settled after, filesAfter⟩, .ok result)) :
    runAll (catalogEngine runtime) (pending 3 defaultMigrations) before.tables =
      .ok after.tables := by
  have selected : selectedMigrations defaultMigrations call = defaultMigrations := by
    rw [selectedMigrations, defaults]
    rfl
  have contiguous : Contiguous (selectedMigrations defaultMigrations call) := by
    rw [selected]
    rfl
  have below : 3 < (selectedMigrations defaultMigrations call).length := by
    rw [selected]
    decide
  by_cases free : (files (backupOf defaultMigrations call 3)).kind = .missing
  · rcases run_migrateCatalog_of_free (catalogEngine runtime) conn contiguous existing atVersion
      below free with ⟨outcome, ranFree, reached⟩
    rw [ran] at ranFree
    rcases applying : (pendingMigrations call.clock 3 (selectedMigrations defaultMigrations
      call)).run (perform (catalogEngine runtime)) before with ⟨migrated, error | applied⟩
    · rw [applying] at reached
      rcases reached with ⟨error, rfl⟩
      cases (Prod.mk.inj ranFree).2
    · rcases upgrade_of_run contiguous below atVersion (le_refl _) applying with ⟨_, _, upgrade⟩
      rw [applying] at ranFree
      have isAfter : after = migrated :=
        congrArg (fun host => host.database.committed) (Prod.mk.inj ranFree).1
      have migrations := upgrade.migrated
      rw [selected, List.map_map] at migrations
      rw [isAfter]
      exact migrations
  · rcases run_migrateCatalog_of_taken (catalogEngine runtime) conn contiguous existing atVersion
      below free with ⟨text, refused⟩
    rw [ran] at refused
    cases (Prod.mk.inj refused).2

/-- An upgrade from the third version keeps every event. It makes of the table what a fresh catalog
has exactly when none of the names of its indexes was in use, and no event without a case that is
numbered along with a case precedes one of its events. -/
theorem upgraded_iff {fresh : CatalogObjects} {rows : List LegacyEvent} {added : List String}
    (isFresh : IsFresh runtime fresh) (defaults : call.migrations = [])
    (existing : Existing files call.databasePath) (atVersion : before.AtVersion 3)
    (legacy : before.tables.tables "events" = some (.legacyEvents rows added))
    (noSequence : "sequence" ∉ added)
    (ran : runAlone (catalogEngine runtime) conn (migrateCatalog defaultMigrations call) before
      files = (⟨.settled after, filesAfter⟩, .ok result)) :
    ((storedEvents after.tables).map legacyOf).Perm rows ∧
      (Upgraded rows fresh after.tables ↔
        (∀ index ∈ eventIndexes, before.tables.hasIndex index.name = false) ∧
          ∀ lone ∈ rows, lone.caseId = none → ∀ row ∈ rows, row.caseId = some lone.eventId →
            row.place ≤ lone.place) := by
  rcases shape_of_runAll legacy noSequence (runAll_of_run defaults existing atVersion ran) with
    ⟨shaped, distinct⟩
  refine ⟨?_, upgraded_iff_of_shape isFresh distinct shaped⟩
  rw [storedEvents, (Prod.mk.inj shaped).1]
  simp only [map_legacyOf_selected]
  exact perm_orderBy LegacyEvent.place rows

end Run

/-! ## A catalog with one event -/

def oldEvent : LegacyEvent where
  eventId := "event-1"
  caseId := some "case-1"
  jobId := none
  eventType := "case.created"
  payloadJson := "{}"
  publishedAt := none
  createdAt := "2026-08-11T14:41:05Z"

def oldTable (name : String) : Option StoredTable :=
  if name = "events" then some (.legacyEvents [oldEvent] [])
  else if name = "scan_cases" then
    some (.other ["case_id", "source_id", "state", "policy_json", "created_at", "updated_at"]
      ["case-1"])
  else initialSchemaStatements.findSome? fun statement =>
    match statement with
    | .createTable other table => if other = name then some table else none
    | _ => none

/-- A catalog of the third version whose events have their two indexes. -/
def oldCatalog : Database CatalogObjects where
  history := some
    { rows := [⟨1, "initial_catalog_schema", "2026-08-01T00:00:00Z"⟩,
        ⟨2, "job_retry_after", "2026-08-01T00:00:00Z"⟩,
        ⟨3, "versioned_checkpoints", "2026-08-01T00:00:00Z"⟩]
      checked := by decide
      apart := by decide }
  tables :=
    { tables := oldTable
      indexes := [caseCreatedIndex, unpublishedIndex]
      distinct := by decide
      placed := by decide }

def oldCall : Call SchemaStatement SchemaStatement.Reply where
  databasePath := samplePath
  backupDir := none
  migrations := []
  clock _ := DateTime.min

def oldFiles : Files CatalogObjects :=
  Function.update (fun _ => .missing) samplePath (.regular .catalog)

theorem oldCatalog_atVersion : oldCatalog.AtVersion 3 := rfl

theorem oldCatalog_existing : Existing oldFiles oldCall.databasePath :=
  ⟨.catalog, rfl, by simp, by simp⟩

theorem oldCatalog_migrates : ∃ after filesAfter result,
    runAlone (catalogEngine Runtime.sample) () (migrateCatalog defaultMigrations oldCall) oldCatalog
      oldFiles = (⟨.settled after, filesAfter⟩, .ok result) := by
  have contiguous : Contiguous (selectedMigrations defaultMigrations oldCall) := rfl
  have below : 3 < (selectedMigrations defaultMigrations oldCall).length := by decide
  have free : (oldFiles (backupOf defaultMigrations oldCall 3)).kind = .missing := by decide
  rcases run_migrateCatalog_of_free (catalogEngine Runtime.sample) () contiguous
    oldCatalog_existing oldCatalog_atVersion below free with ⟨result, ran, reached⟩
  rcases applying : (pendingMigrations oldCall.clock 3 (selectedMigrations defaultMigrations
    oldCall)).run (perform (catalogEngine Runtime.sample)) oldCatalog with ⟨after, error | applied⟩
  · have isOk : ((pendingMigrations oldCall.clock 3 (selectedMigrations defaultMigrations
        oldCall)).run (perform (catalogEngine Runtime.sample)) oldCatalog).2.toOption =
        some [4, 5, 6, 7] := by
      decide
    rw [applying] at isOk
    cases isOk
  · rw [applying] at ran reached
    rw [ran, reached]
    exact ⟨_, _, _, rfl⟩

theorem upgraded_iff_oldCatalog : ∃ fresh after,
    ((storedEvents after).map legacyOf).Perm [oldEvent] ∧
      (Upgraded [oldEvent] fresh after ↔
        (∀ index ∈ eventIndexes, oldCatalog.tables.hasIndex index.name = false) ∧
          ∀ lone ∈ [oldEvent], lone.caseId = none → ∀ row ∈ [oldEvent],
            row.caseId = some lone.eventId → row.place ≤ lone.place) := by
  rcases exists_isFresh Runtime.sample with ⟨fresh, isFresh⟩
  rcases oldCatalog_migrates with ⟨after, filesAfter, result, ran⟩
  exact ⟨fresh, after.tables, upgraded_iff isFresh rfl oldCatalog_existing oldCatalog_atVersion rfl
    List.not_mem_nil ran⟩

/-- The upgraded table has neither of the two indexes. -/
theorem oldCatalog_loses_indexes :
    ¬∀ (fresh : CatalogObjects) (rows : List LegacyEvent) (before after : Database CatalogObjects)
      (filesAfter : Files CatalogObjects) (result : MigrationResult),
      IsFresh Runtime.sample fresh → before.AtVersion 3 →
      before.tables.tables "events" = some (.legacyEvents rows []) →
      caseCreatedIndex ∈ before.tables.indexes → unpublishedIndex ∈ before.tables.indexes →
      runAlone (catalogEngine Runtime.sample) () (migrateCatalog defaultMigrations oldCall) before
        oldFiles = (⟨.settled after, filesAfter⟩, .ok result) →
      Upgraded rows fresh after.tables := by
  intro upgrades
  rcases exists_isFresh Runtime.sample with ⟨fresh, isFresh⟩
  rcases oldCatalog_migrates with ⟨after, filesAfter, result, ran⟩
  have upgraded := upgrades fresh [oldEvent] oldCatalog after filesAfter result isFresh
    oldCatalog_atVersion rfl (by decide) (by decide) ran
  have legacy : oldCatalog.tables.tables "events" = some (.legacyEvents [oldEvent] []) := rfl
  rcases shape_of_runAll legacy List.not_mem_nil
    (runAll_of_run rfl oldCatalog_existing oldCatalog_atVersion ran) with ⟨shaped, distinct⟩
  have free := ((upgraded_iff_of_shape isFresh distinct shaped).mp upgraded).1 caseCreatedIndex
    (by decide)
  exact absurd free (by decide)

end Reperio.Migrations
