import Mathlib.Data.List.Sort
import Mathlib.Tactic.Basic

/-!
# Constrained tables

A table is the list of its rows in the order of insertion. Its schema has a
primary key, a check that every single row passes, and a relation saying
which two rows no uniqueness constraint lets stand together; the primary key
is always among those constraints. A table carries the proof that it meets
its schema, so a statement that would break a constraint cannot produce a
table and fails instead, leaving the old one.

Rows are addressed by their key: `lookup` after `insert` and after `update`
is all that the clients of a table need to know.

`ROW_NUMBER() OVER (PARTITION BY ... ORDER BY ...)` numbers the rows of one partition
from one in their order. The number of a row is one more than the number of rows that
come before it (`rowNumber_eq`), and rows that are numbered in this way are numbered
without a gap (`map_orderBy_eq_range'_iff`).
-/

namespace Reperio.Relational

/-- The key and the constraints of a table. -/
structure Schema (Row Key : Type) where
  key : Row → Key
  Check : Row → Prop
  Clash : Row → Row → Prop
  clash_of_key_eq : ∀ first second, key first = key second → Clash first second
  [decidableCheck : DecidablePred Check]
  [decidableClash : DecidableRel Clash]

attribute [instance] Schema.decidableCheck Schema.decidableClash

/-- Rows that meet the schema. -/
@[ext]
structure Table {Row Key : Type} (schema : Schema Row Key) where
  rows : List Row
  checked : ∀ row ∈ rows, schema.Check row
  apart : rows.Pairwise fun first second => ¬schema.Clash first second

/-- The first rows in the given order: `ORDER BY key LIMIT count`. -/
def orderLimit {Row Order : Type} [LinearOrder Order] (order : Row → Order) (count : ℕ)
    (rows : List Row) : List Row :=
  (rows.insertionSort fun first second => order first ≤ order second).take count

/-- `ORDER BY key`. -/
def orderBy {Row Order : Type} [LinearOrder Order] (order : Row → Order) (rows : List Row) :
    List Row :=
  rows.insertionSort fun first second => order first ≤ order second

namespace Table

variable {Row Key : Type} {schema : Schema Row Key}

def empty : Table schema := ⟨[], by simp, .nil⟩

/-- `INSERT`: fails when the row breaks a check or clashes with a stored row. -/
def insert (table : Table schema) (row : Row) : Option (Table schema) :=
  if valid : schema.Check row ∧ ∀ old ∈ table.rows, ¬schema.Clash old row then
    some
      { rows := table.rows ++ [row]
        checked := by
          intro other member
          rcases List.mem_append.mp member with old | new
          · exact table.checked other old
          · rw [List.mem_singleton.mp new]
            exact valid.1
        apart := by
          refine List.pairwise_append.mpr ⟨table.apart, List.pairwise_singleton _ _, ?_⟩
          intro old member new isNew
          rw [List.mem_singleton.mp isNew]
          exact valid.2 old member }
  else none

/-- The rows of an `UPDATE` statement: those selected are replaced, the others stay. -/
def updated (table : Table schema) (select : Row → Bool) (change : Row → Row) : List Row :=
  table.rows.map fun row => if select row then change row else row

/-- `UPDATE`: the number of rows selected, or a failure when a new row breaks a constraint. -/
def update (table : Table schema) (select : Row → Bool) (change : Row → Row) :
    Option (Table schema × ℕ) :=
  if valid : (∀ row ∈ table.updated select change, schema.Check row) ∧
      (table.updated select change).Pairwise fun first second => ¬schema.Clash first second then
    some (⟨table.updated select change, valid.1, valid.2⟩, table.rows.countP select)
  else none

/-- `DELETE`: rows can always go, as no constraint asks for a row of the same table. -/
def delete (table : Table schema) (select : Row → Bool) : Table schema where
  rows := table.rows.filter fun row => !select row
  checked := fun row member => table.checked row (List.mem_of_mem_filter member)
  apart := table.apart.filter _

variable [DecidableEq Key]

/-- The row with a given primary key. -/
def lookup (table : Table schema) (key : Key) : Option Row :=
  table.rows.find? fun row => decide (schema.key row = key)

omit [DecidableEq Key] in
theorem eq_of_clash (table : Table schema) {first second : Row}
    (firstMem : first ∈ table.rows) (secondMem : second ∈ table.rows)
    (clash : schema.Clash first second) (clashBack : schema.Clash second first) :
    first = second := by
  by_contra different
  rcases List.mem_iff_getElem.mp firstMem with ⟨i, iBound, rfl⟩
  rcases List.mem_iff_getElem.mp secondMem with ⟨j, jBound, rfl⟩
  have apart := List.pairwise_iff_getElem.mp table.apart
  rcases Nat.lt_trichotomy i j with before | same | after
  · exact apart i j iBound jBound before clash
  · subst same
    exact different rfl
  · exact apart j i jBound iBound after clashBack

omit [DecidableEq Key] in
theorem eq_of_key_eq (table : Table schema) {first second : Row}
    (firstMem : first ∈ table.rows) (secondMem : second ∈ table.rows)
    (sameKey : schema.key first = schema.key second) : first = second :=
  table.eq_of_clash firstMem secondMem (schema.clash_of_key_eq _ _ sameKey)
    (schema.clash_of_key_eq _ _ sameKey.symm)

variable {table : Table schema} {select : Row → Bool}

theorem lookup_eq_some {key : Key} {row : Row} :
    table.lookup key = some row ↔ row ∈ table.rows ∧ schema.key row = key := by
  constructor
  · intro found
    exact ⟨List.mem_of_find?_eq_some found, by simpa using List.find?_some found⟩
  · rintro ⟨member, rfl⟩
    have isSome : (table.lookup (schema.key row)).isSome := by
      rw [lookup, List.find?_isSome]
      exact ⟨row, member, by simp⟩
    rcases Option.isSome_iff_exists.mp isSome with ⟨other, found⟩
    have otherMem := List.mem_of_find?_eq_some found
    have otherKey : schema.key other = schema.key row := by
      simpa using List.find?_some found
    rw [found, table.eq_of_key_eq otherMem member otherKey]

theorem lookup_eq_none {key : Key} :
    table.lookup key = none ↔ ∀ row ∈ table.rows, schema.key row ≠ key := by
  simp [lookup]

theorem lookup_of_mem {row : Row} (member : row ∈ table.rows) :
    table.lookup (schema.key row) = some row :=
  lookup_eq_some.mpr ⟨member, rfl⟩

theorem lookup_isSome_iff {key : Key} :
    (table.lookup key).isSome = true ↔ ∃ row ∈ table.rows, schema.key row = key := by
  rw [Option.isSome_iff_exists]
  exact exists_congr fun row => lookup_eq_some

/-- A lookup does not depend on how the rows are stored. -/
theorem lookup_congr {other : Table schema} (perm : table.rows.Perm other.rows) (key : Key) :
    table.lookup key = other.lookup key := by
  cases found : other.lookup key with
  | none =>
    rw [lookup_eq_none] at found ⊢
    exact fun row member => found row (perm.mem_iff.mp member)
  | some row =>
    rw [lookup_eq_some] at found ⊢
    exact ⟨perm.mem_iff.mpr found.1, found.2⟩

omit [DecidableEq Key] in
theorem insert_eq_some {table next : Table schema} {row : Row} : table.insert row = some next ↔
      schema.Check row ∧ (∀ old ∈ table.rows, ¬schema.Clash old row) ∧
        next.rows = table.rows ++ [row] := by
  unfold insert
  split
  · rename_i valid
    simp only [Option.some.injEq, Table.ext_iff]
    constructor
    · intro same
      exact ⟨valid.1, valid.2, same.symm⟩
    · rintro ⟨_, _, same⟩
      exact same.symm
  · rename_i invalid
    simp only [reduceCtorEq, false_iff]
    rintro ⟨check, noClash, _⟩
    exact invalid ⟨check, noClash⟩

omit [DecidableEq Key] in
theorem insert_eq_none {table : Table schema} {row : Row} : table.insert row = none ↔
      ¬(schema.Check row ∧ ∀ old ∈ table.rows, ¬schema.Clash old row) := by
  unfold insert
  split
  · rename_i valid
    simp only [reduceCtorEq, false_iff, not_not]
    exact valid
  · rename_i invalid
    simp only [true_iff]
    exact invalid

theorem lookup_insert {next : Table schema} {row : Row} (inserted : table.insert row = some next)
    (key : Key) :
    next.lookup key = if key = schema.key row then some row else table.lookup key := by
  rcases insert_eq_some.mp inserted with ⟨_, noClash, rows⟩
  split
  · rename_i isNew
    exact lookup_eq_some.mpr ⟨by simp [rows], isNew.symm⟩
  · rename_i isOld
    have notNew : ¬schema.key row = key := fun same => isOld same.symm
    simp [lookup, rows, List.find?_append, notNew]

omit [DecidableEq Key] in
theorem update_eq_some {table next : Table schema} {select : Row → Bool} {change : Row → Row}
    {count : ℕ} :
    table.update select change = some (next, count) ↔
      next.rows = table.updated select change ∧ count = table.rows.countP select := by
  unfold update
  split
  · simp only [Option.some.injEq, Prod.mk.injEq, Table.ext_iff]
    exact and_congr eq_comm eq_comm
  · rename_i invalid
    simp only [reduceCtorEq, false_iff]
    rintro ⟨rows, _⟩
    apply invalid
    rw [← rows]
    exact ⟨next.checked, next.apart⟩

omit [DecidableEq Key] in
theorem update_of_not_selected {table : Table schema} {select : Row → Bool} {change : Row → Row}
    (missed : ∀ row ∈ table.rows, select row = false) :
    table.update select change = some (table, 0) := by
  refine update_eq_some.mpr ⟨?_, ?_⟩
  · have unchanged : table.updated select change = table.rows.map id := by
      refine List.map_congr_left ?_
      intro row member
      simp [missed row member]
    rw [unchanged, List.map_id]
  · rw [eq_comm, List.countP_eq_zero]
    intro row member
    simp [missed row member]

omit [DecidableEq Key] in
/-- A change that keeps rows apart only has to pass the check of each row it replaces. -/
theorem update_isSome {table : Table schema} {select : Row → Bool} {change : Row → Row}
    (apart : ∀ first second, schema.Clash (if select first then change first else first)
      (if select second then change second else second) → schema.Clash first second) :
    (table.update select change).isSome ↔
      ∀ row ∈ table.rows, select row → schema.Check (change row) := by
  have pairwise : (table.updated select change).Pairwise
      fun first second => ¬schema.Clash first second := by
    refine List.pairwise_map.mpr (table.apart.imp ?_)
    intro first second noClash clash
    exact noClash (apart first second clash)
  have checks : (∀ row ∈ table.updated select change, schema.Check row) ↔
      ∀ row ∈ table.rows, select row → schema.Check (change row) := by
    simp only [updated, List.mem_map, forall_exists_index, and_imp, forall_apply_eq_imp_iff₂]
    apply forall_congr'
    intro row
    apply imp_congr_right
    intro member
    by_cases selected : select row
    · simp [selected]
    · simp [selected, table.checked row member]
  unfold update
  split
  · rename_i valid
    simp only [Option.isSome_some, true_iff]
    exact checks.mp valid.1
  · rename_i invalid
    simp only [Option.isSome_none, Bool.false_eq_true, false_iff]
    intro allChecked
    exact invalid ⟨checks.mpr allChecked, pairwise⟩

theorem lookup_update {next : Table schema} {change : Row → Row} {count : ℕ}
    (sameKey : ∀ row, schema.key (change row) = schema.key row)
    (updated : table.update select change = some (next, count)) (key : Key) :
    next.lookup key = (table.lookup key).map fun row => if select row then change row else row := by
  rcases update_eq_some.mp updated with ⟨rows, _⟩
  have keyed : ∀ row, schema.key (if select row then change row else row) = schema.key row := by
    intro row
    split
    · exact sameKey row
    · rfl
  simp only [lookup, rows, Table.updated, List.find?_map, Function.comp_def, keyed]

/-- A statement that selects within one key hits one row or none. -/
theorem countP_of_key {key : Key} (within : ∀ row, select row → schema.key row = key) :
    table.rows.countP select = if ∃ row, table.lookup key = some row ∧
      select row then 1 else 0 := by
  split
  · rename_i hit
    rcases hit with ⟨row, found, selected⟩
    rcases lookup_eq_some.mp found with ⟨member, _⟩
    have nodup : table.rows.Nodup := by
      refine table.apart.imp ?_
      rintro first second noClash rfl
      exact noClash (schema.clash_of_key_eq _ _ rfl)
    have filtered : table.rows.filter select = [row] := by
      refine List.perm_singleton.mp ((List.perm_ext_iff_of_nodup (nodup.filter _)
        (List.nodup_singleton _)).mpr ?_)
      intro other
      simp only [List.mem_filter, List.mem_singleton]
      constructor
      · rintro ⟨otherMem, otherSelected⟩
        exact table.eq_of_key_eq otherMem member
          ((within other otherSelected).trans (within row selected).symm)
      · rintro rfl
        exact ⟨member, selected⟩
    rw [List.countP_eq_length_filter, filtered, List.length_singleton]
  · rename_i miss
    refine List.countP_eq_zero.mpr ?_
    intro row member selected
    exact miss ⟨row, lookup_eq_some.mpr ⟨member, within row selected⟩, selected⟩

end Table

section Order

variable {Row Order : Type} [LinearOrder Order] {order : Row → Order} {rows : List Row}

theorem mem_of_mem_orderLimit {count : ℕ} {row : Row}
    (member : row ∈ orderLimit order count rows) : row ∈ rows :=
  (List.mem_insertionSort _).mp (List.mem_of_mem_take member)

theorem orderLimit_of_pairwise
    (sorted : rows.Pairwise fun first second => order first ≤ order second)
    (count : ℕ) : orderLimit order count rows = rows.take count := by
  rw [orderLimit, sorted.insertionSort_eq]

@[simp]
theorem mem_orderBy {row : Row} : row ∈ orderBy order rows ↔ row ∈ rows := List.mem_insertionSort _

theorem perm_orderBy (order : Row → Order) (rows : List Row) : (orderBy order rows).Perm rows :=
  List.perm_insertionSort _ _

@[simp]
theorem orderBy_eq_nil : orderBy order rows = [] ↔ rows = [] := by
  rw [← List.length_eq_zero_iff, (perm_orderBy order rows).length_eq, List.length_eq_zero_iff]

theorem pairwise_orderBy (order : Row → Order) (rows : List Row) :
    (orderBy order rows).Pairwise fun first second => order first ≤ order second :=
  List.pairwise_insertionSort _ _

/-- The result does not depend on how the rows are stored, if no two are equal in the order. -/
theorem orderBy_congr (order : Row → Order) {other : List Row} (perm : rows.Perm other)
    (strict : ∀ first ∈ rows, ∀ second ∈ rows, order first = order second → first = second) :
    orderBy order rows = orderBy order other := by
  refine List.Perm.eq_of_pairwise ?_ (pairwise_orderBy order rows) (pairwise_orderBy order other)
    ((perm_orderBy order rows).trans (perm.trans (perm_orderBy order other).symm))
  intro first second firstMem secondMem le ge
  exact strict first (mem_orderBy.mp firstMem) second
    (perm.mem_iff.mpr (mem_orderBy.mp secondMem)) (le_antisymm le ge)

/-- A change that keeps the place of every row can be made before or after. -/
theorem orderBy_map {change : Row → Row} (kept : ∀ row, order (change row) = order row)
    (rows : List Row) : orderBy order (rows.map change) = (orderBy order rows).map change := by
  refine (List.map_insertionSort _ _ change rows fun first _ second _ => ?_).symm
  rw [kept, kept]

theorem orderLimit_one_eq_nil : orderLimit order 1 rows = [] ↔ rows = [] := by
  rw [orderLimit, List.take_eq_nil_iff, ← List.length_eq_zero_iff, List.length_insertionSort]
  simp

/-- `LIMIT 1` takes a row that no other one precedes. -/
theorem head_orderLimit_le {count : ℕ} {first row : Row}
    (isFirst : (orderLimit order count rows).head? = some first) (member : row ∈ rows) :
    order first ≤ order row := by
  have sorted := List.pairwise_insertionSort (fun a b => order a ≤ order b) rows
  have sortedMem : row ∈ rows.insertionSort fun a b => order a ≤ order b :=
    (List.mem_insertionSort _).mpr member
  rw [orderLimit] at isFirst
  cases sortedRows : rows.insertionSort fun a b => order a ≤ order b with
  | nil => simp [sortedRows] at isFirst
  | cons head rest =>
    cases count with
    | zero => simp at isFirst
    | succ count =>
      simp only [sortedRows, List.take_succ_cons, List.head?_cons, Option.some.injEq] at isFirst
      subst isFirst
      rw [sortedRows] at sorted sortedMem
      rcases List.mem_cons.mp sortedMem with rfl | later
      · exact le_refl _
      · exact (List.pairwise_cons.mp sorted).1 row later

/-- Where no two rows are equal in the order, a page leaves out no row before one it holds. -/
theorem mem_orderLimit_of_le {count : ℕ} {row last : Row} (member : row ∈ rows)
    (strict : ∀ first ∈ rows, ∀ second ∈ rows, order first = order second → first = second)
    (isLast : last ∈ orderLimit order count rows) (le : order row ≤ order last) :
    row ∈ orderLimit order count rows := by
  have sorted := List.pairwise_insertionSort (fun a b => order a ≤ order b) rows
  have sortedMem : row ∈ rows.insertionSort fun a b => order a ≤ order b :=
    (List.mem_insertionSort _).mpr member
  rw [← List.take_append_drop count (rows.insertionSort fun a b => order a ≤ order b)]
    at sorted sortedMem
  rcases List.mem_append.mp sortedMem with taken | dropped
  · exact taken
  · have ge : order last ≤ order row := (List.pairwise_append.mp sorted).2.2 last isLast row dropped
    rw [strict row member last (mem_of_mem_orderLimit isLast) (le_antisymm le ge)]
    exact isLast

end Order

/-! ## Numbering rows -/

variable {Row Order : Type} [LinearOrder Order] {order : Row → Order} {rows : List Row} {row : Row}

/-- The place of a row among those of its partition. -/
def rowNumber [DecidableEq Row] (order : Row → Order) (rows : List Row) (row : Row) : ℕ :=
  (orderBy order rows).idxOf row + 1

/-- How many rows come before. -/
def rowsBefore (order : Row → Order) (rows : List Row) (row : Row) : ℕ :=
  rows.countP fun other => decide (order other < order row)

theorem pairwise_lt_orderBy (distinct : (rows.map order).Nodup) :
    (orderBy order rows).Pairwise fun first second => order first < order second := by
  have apart : ((orderBy order rows).map order).Nodup :=
    ((perm_orderBy order rows).map order).nodup_iff.mpr distinct
  rw [List.Nodup, List.pairwise_map] at apart
  exact ((pairwise_orderBy order rows).and apart).imp fun both => lt_of_le_of_ne both.1 both.2

theorem nodup_orderBy (distinct : (rows.map order).Nodup) : (orderBy order rows).Nodup :=
  (perm_orderBy order rows).nodup_iff.mpr distinct.of_map

variable [DecidableEq Row]

theorem idxOf_of_pairwise_lt (sorted : rows.Pairwise fun first second => order first < order second)
    (member : row ∈ rows) : rows.idxOf row = rowsBefore order rows row := by
  induction rows with
  | nil => cases member
  | cons first rest ih =>
    rw [List.pairwise_cons] at sorted
    rw [rowsBefore, List.countP_cons]
    cases List.mem_cons.mp member with
    | inl isFirst =>
      subst isFirst
      have none : rest.countP (fun other => decide (order other < order row)) = 0 := by
        rw [List.countP_eq_zero]
        intro other isOther before
        exact lt_asymm (sorted.1 other isOther) (of_decide_eq_true before)
      rw [List.idxOf_cons_self, none]
      simp
    | inr isLater =>
      have before := sorted.1 row isLater
      have different : first ≠ row := by
        rintro rfl
        exact lt_irrefl _ before
      rw [List.idxOf_cons_ne _ different, ih sorted.2 isLater, if_pos (decide_eq_true before)]
      rfl

theorem rowNumber_eq (distinct : (rows.map order).Nodup) (member : row ∈ rows) :
    rowNumber order rows row = rowsBefore order rows row + 1 := by
  rw [rowNumber, idxOf_of_pairwise_lt (pairwise_lt_orderBy distinct) (mem_orderBy.mpr member),
    rowsBefore, rowsBefore, (perm_orderBy order rows).countP_eq]

/-- The numbers in the order of the rows are 1, 2, 3 and so on. -/
theorem map_orderBy_eq_range'_iff (distinct : (rows.map order).Nodup) {number : Row → ℕ} :
    (orderBy order rows).map number = List.range' 1 rows.length ↔
      ∀ row ∈ rows, number row = rowNumber order rows row := by
  have length : (orderBy order rows).length = rows.length := (perm_orderBy order rows).length_eq
  have nodup := nodup_orderBy distinct
  constructor
  · intro same row member
    obtain ⟨index, inside, isRow⟩ :=
      List.getElem_of_mem (mem_orderBy.mpr member : row ∈ orderBy order rows)
    have inRange : index < (List.range' 1 rows.length).length := by
      rw [List.length_range', ← length]
      exact inside
    have inMap : index < ((orderBy order rows).map number).length := by
      rw [List.length_map]
      exact inside
    have isNumber : number (orderBy order rows)[index] = (List.range' 1 rows.length)[index] := by
      rw [← List.getElem_map (h := inMap) number]
      exact List.getElem_of_eq same _
    rw [List.getElem_range', isRow] at isNumber
    rw [isNumber, rowNumber, ← isRow, nodup.idxOf_getElem index inside]
    omega
  · intro numbers
    refine List.ext_getElem ?_ ?_
    · rw [List.length_map, List.length_range', length]
    · intro index inMap inRange
      have inside : index < (orderBy order rows).length := by
        rw [List.length_map] at inMap
        exact inMap
      have isMember : (orderBy order rows)[index] ∈ rows := mem_orderBy.mp (List.getElem_mem inside)
      rw [List.getElem_map, List.getElem_range', numbers _ isMember, rowNumber,
        nodup.idxOf_getElem index inside]
      omega

end Reperio.Relational
