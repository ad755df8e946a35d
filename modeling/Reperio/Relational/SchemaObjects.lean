import Mathlib.Data.List.Nodup
import Mathlib.Logic.Function.Basic
import Mathlib.Tactic.Basic

/-!
# Tables and indexes by name

The objects of a relational schema, with the statements that create, rename and
drop them. The name of an index is unique in the whole database. An index belongs
to its table: it follows the table into its new name and goes when the table is
dropped. `IF NOT EXISTS` is about the name alone, so an index is not created
where one of that name is on another table.
-/

namespace Reperio.Relational

/-- An index of a table. -/
structure Index where
  name : String
  table : String
  columns : List String
  unique : Bool
  condition : Option String
  deriving DecidableEq, Repr

/-- Tables by name, with indexes of them. -/
structure SchemaObjects (Content : Type) where
  tables : String → Option Content
  indexes : List Index
  distinct : (indexes.map Index.name).Nodup
  placed : ∀ index ∈ indexes, (tables index.table).isSome

namespace SchemaObjects

variable {Content : Type}

def empty : SchemaObjects Content where
  tables _ := none
  indexes := []
  distinct := List.nodup_nil
  placed _ isIndex := absurd isIndex List.not_mem_nil

def hasIndex (objects : SchemaObjects Content) (name : String) : Bool :=
  objects.indexes.any fun index => index.name == name

def indexesOn (objects : SchemaObjects Content) (table : String) : List Index :=
  objects.indexes.filter fun index => index.table == table

theorem hasIndex_eq_false {objects : SchemaObjects Content} {name : String} :
    objects.hasIndex name = false ↔ name ∉ objects.indexes.map Index.name := by
  simp only [hasIndex, List.any_eq_false, beq_iff_eq, List.mem_map, not_exists, not_and]

/-- A table as it is now, under a name of its own or a new one. -/
def setTable (objects : SchemaObjects Content) (name : String) (content : Content) :
    SchemaObjects Content where
  tables := Function.update objects.tables name (some content)
  indexes := objects.indexes
  distinct := objects.distinct
  placed index isIndex := by
    rw [Function.update_apply]
    split
    · rfl
    · exact objects.placed index isIndex

def addIndex (objects : SchemaObjects Content) (index : Index)
    (onTable : (objects.tables index.table).isSome) (isNew : objects.hasIndex index.name = false) :
    SchemaObjects Content where
  tables := objects.tables
  indexes := objects.indexes ++ [index]
  distinct := by
    rw [List.map_append, List.map_singleton, List.nodup_append_comm, List.singleton_append,
      List.nodup_cons]
    exact ⟨hasIndex_eq_false.mp isNew, objects.distinct⟩
  placed other isIndex := by
    rcases List.mem_append.mp isIndex with isOld | isNew
    · exact objects.placed other isOld
    · rw [List.mem_singleton.mp isNew]
      exact onTable

/-- An index that goes with its table. -/
def Index.follow (old new : String) (index : Index) : Index :=
  if index.table = old then { index with table := new } else index

@[simp]
theorem Index.follow_name (old new : String) (index : Index) :
    (Index.follow old new index).name = index.name := by
  unfold Index.follow
  split <;> rfl

def moveTable (objects : SchemaObjects Content) (old new : String) (content : Content) :
    SchemaObjects Content where
  tables := Function.update (Function.update objects.tables old none) new (some content)
  indexes := objects.indexes.map (Index.follow old new)
  distinct := by
    have names : (objects.indexes.map (Index.follow old new)).map Index.name =
        objects.indexes.map Index.name := by
      rw [List.map_map]
      exact List.map_congr_left fun index _ => Index.follow_name old new index
    rw [names]
    exact objects.distinct
  placed index isIndex := by
    rcases List.mem_map.mp isIndex with ⟨before, isBefore, rfl⟩
    unfold Index.follow
    split
    · rw [Function.update_self]
      rfl
    · rename_i elsewhere
      rw [Function.update_apply]
      split
      · rfl
      · rw [Function.update_of_ne elsewhere]
        exact objects.placed before isBefore

def removeTable (objects : SchemaObjects Content) (name : String) : SchemaObjects Content where
  tables := Function.update objects.tables name none
  indexes := objects.indexes.filter fun index => index.table != name
  distinct := (List.filter_sublist.map Index.name).nodup objects.distinct
  placed index isIndex := by
    rw [List.mem_filter, bne_iff_ne] at isIndex
    rw [Function.update_of_ne isIndex.2]
    exact objects.placed index isIndex.1

/-! ## Statements -/

/-- `CREATE TABLE IF NOT EXISTS`. -/
def createTable (objects : SchemaObjects Content) (name : String) (content : Content) :
    Except String (SchemaObjects Content) :=
  if (objects.tables name).isSome then .ok objects
  else if objects.hasIndex name then .error ("there is already an index named " ++ name)
  else .ok (objects.setTable name content)

/-- `CREATE INDEX IF NOT EXISTS`. -/
def createIndex (columns : Content → List String) (objects : SchemaObjects Content)
    (index : Index) : Except String (SchemaObjects Content) :=
  match onTable : objects.tables index.table with
  | none => .error ("no such table: main." ++ index.table)
  | some content =>
    if (objects.tables index.name).isSome then
      .error ("there is already a table named " ++ index.name)
    else if isNew : objects.hasIndex index.name = false then
      match index.columns.find? fun column => column ∉ columns content with
      | some column => .error ("no such column: " ++ column)
      | none => .ok (objects.addIndex index (by rw [onTable]; rfl) isNew)
    else .ok objects

/-- `ALTER TABLE ... RENAME TO`. -/
def renameTable (objects : SchemaObjects Content) (old new : String) :
    Except String (SchemaObjects Content) :=
  match objects.tables old with
  | none => .error ("no such table: " ++ old)
  | some content =>
    if (objects.tables new).isSome || objects.hasIndex new then
      .error ("there is already another table or index with this name: " ++ new)
    else .ok (objects.moveTable old new content)

/-- `DROP TABLE`. -/
def dropTable (objects : SchemaObjects Content) (name : String) :
    Except String (SchemaObjects Content) :=
  if (objects.tables name).isSome then .ok (objects.removeTable name)
  else .error ("no such table: " ++ name)

section Results

variable {objects next : SchemaObjects Content}

theorem createTable_eq_ok {name : String} {content : Content}
    (created : objects.createTable name content = .ok next) :
    next.indexes = objects.indexes ∧ next.tables = Function.update objects.tables name
        (some ((objects.tables name).getD content)) := by
  unfold createTable at created
  split at created
  · rename_i isThere
    cases created
    rcases Option.isSome_iff_exists.mp isThere with ⟨stored, isStored⟩
    refine ⟨rfl, ?_⟩
    rw [isStored, Option.getD_some, ← isStored, Function.update_eq_self]
  · rename_i missing
    split at created
    · cases created
    · cases created
      rw [Option.not_isSome_iff_eq_none.mp missing]
      exact ⟨rfl, rfl⟩

theorem createIndex_eq_ok {columns : Content → List String} {index : Index}
    (created : objects.createIndex columns index = .ok next) :
    next.tables = objects.tables ∧ next.indexes =
        objects.indexes ++ if objects.hasIndex index.name then [] else [index] := by
  unfold createIndex at created
  split at created
  · cases created
  · split at created
    · cases created
    · split at created
      · rename_i isNew
        split at created
        · cases created
        · cases created
          rw [isNew]
          exact ⟨rfl, rfl⟩
      · rename_i isOld
        cases created
        rw [Bool.not_eq_false] at isOld
        rw [isOld]
        exact ⟨rfl, (List.append_nil _).symm⟩

theorem renameTable_eq_ok {old new : String} (renamed : objects.renameTable old new = .ok next) :
    ∃ content, objects.tables old = some content ∧ objects.tables new = none ∧
      next = objects.moveTable old new content := by
  unfold renameTable at renamed
  split at renamed
  · cases renamed
  · rename_i content isTable
    split at renamed
    · cases renamed
    · rename_i free
      cases renamed
      rw [Bool.or_eq_true, not_or] at free
      exact ⟨content, isTable, Option.not_isSome_iff_eq_none.mp free.1, rfl⟩

theorem dropTable_eq_ok {name : String} (dropped : objects.dropTable name = .ok next) :
    next = objects.removeTable name := by
  unfold dropTable at dropped
  split at dropped
  · cases dropped
    rfl
  · cases dropped

end Results

/-! ## The indexes of a table -/

section Indexes

variable {objects : SchemaObjects Content} {table old new name : String}

theorem hasIndex_moveTable {content : Content} :
    (objects.moveTable old new content).hasIndex name = objects.hasIndex name := by
  rw [hasIndex, moveTable, List.any_map, hasIndex]
  exact List.any_congr rfl fun index => by
    rw [Function.comp_apply, Index.follow_name]

/-- A table that was renamed leaves no index under its name. -/
theorem indexesOn_moveTable {content : Content} (different : old ≠ new) :
    (objects.moveTable old new content).indexesOn old = [] := by
  rw [indexesOn, moveTable, List.filter_eq_nil_iff]
  intro index isIndex
  rcases List.mem_map.mp isIndex with ⟨before, _, rfl⟩
  rw [beq_iff_eq, Index.follow]
  split
  · exact different.symm
  · assumption

theorem hasIndex_createIndex {columns : Content → List String} {next : SchemaObjects Content}
    {index : Index} (created : objects.createIndex columns index = .ok next) :
    next.hasIndex name = (objects.hasIndex name || index.name == name) := by
  rw [hasIndex, (createIndex_eq_ok created).2, List.any_append, ← hasIndex]
  split
  · rename_i taken
    by_cases same : index.name = name
    · rw [← same, taken]
      rfl
    · rw [beq_eq_false_iff_ne.mpr same]
      rfl
  · rw [List.any_cons, List.any_nil, Bool.or_false]

theorem indexesOn_createIndex {columns : Content → List String} {next : SchemaObjects Content}
    {index : Index} (created : objects.createIndex columns index = .ok next) :
    next.indexesOn table = objects.indexesOn table ++
        if index.table = table ∧ objects.hasIndex index.name = false then [index] else [] := by
  rw [indexesOn, (createIndex_eq_ok created).2, List.filter_append, ← indexesOn]
  congr 1
  cases taken : objects.hasIndex index.name with
  | true => simp
  | false => by_cases onTable : index.table = table <;> simp [onTable]

/-- Of several indexes of one table those are created whose names are not taken. -/
theorem createIndexes_eq_ok {columns : Content → List String} {next : SchemaObjects Content}
    {indexes : List Index} (onTable : ∀ index ∈ indexes, index.table = table)
    (names : (indexes.map Index.name).Nodup)
    (created : indexes.foldlM (fun objects index => objects.createIndex columns index) objects =
      .ok next) :
    next.tables = objects.tables ∧ next.indexesOn table = objects.indexesOn table ++
        indexes.filter fun index => !objects.hasIndex index.name := by
  induction indexes generalizing objects with
  | nil =>
    cases created
    exact ⟨rfl, (List.append_nil _).symm⟩
  | cons index indexes ih =>
    rw [List.forall_mem_cons] at onTable
    rw [List.map_cons, List.nodup_cons] at names
    rw [List.foldlM_cons] at created
    cases first : objects.createIndex columns index with
    | error text =>
      rw [first] at created
      cases created
    | ok middle =>
      rw [first] at created
      rcases ih onTable.2 names.2 created with ⟨tables, rest⟩
      have later : (indexes.filter fun index => !middle.hasIndex index.name) =
          indexes.filter fun index => !objects.hasIndex index.name := by
        refine List.filter_congr fun other isOther => ?_
        have different : index.name ≠ other.name := by
          intro same
          exact names.1 (same ▸ List.mem_map_of_mem isOther)
        rw [hasIndex_createIndex first, beq_eq_false_iff_ne.mpr different, Bool.or_false]
      refine ⟨tables.trans (createIndex_eq_ok first).1, ?_⟩
      rw [rest, later, indexesOn_createIndex first, List.append_assoc, List.filter_cons]
      cases taken : objects.hasIndex index.name with
      | true => simp
      | false => simp [onTable.1]

theorem indexesOn_removeTable (different : table ≠ name) :
    (objects.removeTable name).indexesOn table = objects.indexesOn table := by
  rw [indexesOn, removeTable, List.filter_filter, indexesOn]
  refine List.filter_congr fun index _ => ?_
  by_cases onTable : index.table = table
  · have elsewhere : index.table ≠ name := by
      rw [onTable]
      exact different
    rw [bne_iff_ne.mpr elsewhere, Bool.and_true]
  · rw [beq_eq_false_iff_ne.mpr onTable, Bool.false_and]

end Indexes

end SchemaObjects

end Reperio.Relational
