import Mathlib.Data.List.Basic
import Mathlib.Data.List.Nodup
import Mathlib.Tactic.Basic

/-!
# Linked rows

Rows that refer to each other by key, each one to the row before it and to the
row after it. `Linked` says this by position: the first row has no previous
one and the last row no following one. Appending a row keeps the rows linked
when the last one gets its reference (`Linked.append`), and then the last row
is the only one without a following one (`Linked.filter_head`), the two
references are inverse (`Linked.previous_iff_following`), and walking back from
the last row visits every row once (`Linked.walkBack`).
-/

namespace Reperio.Relational

variable {Row Key : Type} (key : Row → Key) (previous following : Row → Option Key)

def Linked (rows : List Row) : Prop := ∀ index row, rows[index]? = some row →
    previous row = (match index with
      | 0 => none
      | before + 1 => rows[before]?.map key) ∧
    following row = rows[index + 1]?.map key

/-- The keys met on the way back from a row, in at most so many steps. -/
def walkBack (find : Key → Option Row) : ℕ → Option Key → List Key
  | 0, _ => []
  | _, none => []
  | steps + 1, some current =>
    current :: walkBack find steps ((find current).bind previous)

variable {key previous following} {rows : List Row}

theorem Linked.nil : Linked key previous following [] := fun index row found => by cases found

theorem Linked.append (linked : Linked key previous following rows) {change : Row → Row} {new : Row}
    (sameKey : ∀ row ∈ rows, key (change row) = key row)
    (samePrevious : ∀ row ∈ rows, previous (change row) = previous row)
    (linkLast : ∀ row ∈ rows.getLast?, following (change row) = some (key new))
    (linkOthers : ∀ row ∈ rows.dropLast, following (change row) = following row)
    (newPrevious : previous new = rows.getLast?.map key) (newFollowing : following new = none) :
    Linked key previous following (rows.map change ++ [new]) := by
  have keys : ∀ index : ℕ, (rows.map change)[index]?.map key = rows[index]?.map key := by
    intro index
    rw [List.getElem?_map, Option.map_map]
    cases found : rows[index]? with
    | none => rfl
    | some row => exact congrArg some (sameKey row (List.mem_of_getElem? found))
  intro index row found
  rcases Nat.lt_or_ge index rows.length with old | atEnd
  · rw [List.getElem?_append_left (by simpa using old), List.getElem?_map] at found
    rcases Option.map_eq_some_iff.mp found with ⟨before, isBefore, rfl⟩
    have member := List.mem_of_getElem? isBefore
    refine ⟨?_, ?_⟩
    · rw [samePrevious before member, (linked index before isBefore).1]
      cases index with
      | zero => rfl
      | succ earlier =>
        change rows[earlier]?.map key = (rows.map change ++ [new])[earlier]?.map key
        rw [List.getElem?_append_left (by simpa using Nat.lt_of_succ_lt old), keys]
    · rcases Nat.lt_or_ge (index + 1) rows.length with inner | last
      · have isInner : before ∈ rows.dropLast := by
          rw [List.dropLast_eq_take, List.mem_take_iff_getElem]
          rw [List.getElem?_eq_some_iff] at isBefore
          rcases isBefore with ⟨bound, rfl⟩
          exact ⟨index, by omega, rfl⟩
        rw [linkOthers before isInner, (linked index before isBefore).2,
          List.getElem?_append_left (by simpa using inner), keys]
      · have isLast : rows.getLast? = some before := by
          rw [List.getLast?_eq_getElem?, ← isBefore]
          congr 1
          omega
        have here : index + 1 = (rows.map change).length := by
          rw [List.length_map]
          omega
        rw [linkLast before isLast, List.getElem?_append_right (Nat.le_of_eq here.symm), here,
          Nat.sub_self]
        rfl
  · rw [List.getElem?_append_right (by simpa using atEnd), List.length_map] at found
    have here : index = rows.length := by
      by_contra different
      rw [List.getElem?_eq_none (by simp; omega)] at found
      cases found
    subst here
    rw [Nat.sub_self] at found
    cases found
    refine ⟨?_, ?_⟩
    · rw [newPrevious, List.getLast?_eq_getElem?]
      cases size : rows.length with
      | zero => simp [List.length_eq_zero_iff.mp size]
      | succ earlier =>
        change rows[earlier]?.map key = (rows.map change ++ [new])[earlier]?.map key
        rw [List.getElem?_append_left (by rw [List.length_map]; omega), keys]
    · rw [newFollowing, List.getElem?_eq_none (by simp)]
      rfl

/-- Only the last row has nothing after it. -/
theorem Linked.filter_head (linked : Linked key previous following rows) :
    rows.filter (fun row => (following row).isNone) = rows.getLast?.toList := by
  rcases rows.eq_nil_or_concat' with rfl | ⟨earlier, last, rfl⟩
  · rfl
  have noneOfEarlier : earlier.filter (fun row => (following row).isNone) = [] := by
    refine List.filter_eq_nil_iff.mpr fun row member => ?_
    rcases List.mem_iff_getElem.mp member with ⟨index, bound, rfl⟩
    have found : (earlier ++ [last])[index]? = some earlier[index] := by
      rw [List.getElem?_append_left bound, List.getElem?_eq_getElem bound]
    have next : index + 1 < (earlier ++ [last]).length := by
      rw [List.length_append, List.length_singleton]
      omega
    rw [(linked index _ found).2, List.getElem?_eq_getElem next]
    simp
  have lastFollowing : following last = none := by
    have found : (earlier ++ [last])[earlier.length]? = some last := by simp
    rw [(linked _ _ found).2, List.getElem?_eq_none (by simp)]
    rfl
  rw [List.filter_append, noneOfEarlier, List.nil_append, List.getLast?_append]
  simp [lastFollowing]

section Unique

variable (linked : Linked key previous following rows) (unique : (rows.map key).Nodup)

include unique

theorem index_eq_of_key_eq {first second : ℕ} {row : Row} (found : rows[second]? = some row)
    (sameKey : rows[first]?.map key = some (key row)) : first = second := by
  have foundKey : (rows.map key)[second]? = some (key row) := by
    rw [List.getElem?_map, found]
    rfl
  rw [← List.getElem?_map] at sameKey
  rcases List.getElem?_eq_some_iff.mp sameKey with ⟨firstBound, firstKey⟩
  rcases List.getElem?_eq_some_iff.mp foundKey with ⟨secondBound, secondKey⟩
  exact (List.Nodup.getElem_inj_iff unique).mp (firstKey.trans secondKey.symm)

include linked

theorem Linked.previous_iff_following {first second : Row} (firstMember : first ∈ rows)
    (secondMember : second ∈ rows) :
    previous first = some (key second) ↔ following second = some (key first) := by
  rcases List.mem_iff_getElem?.mp firstMember with ⟨i, firstAt⟩
  rcases List.mem_iff_getElem?.mp secondMember with ⟨j, secondAt⟩
  rw [(linked i first firstAt).1, (linked j second secondAt).2]
  constructor
  · intro before
    cases i with
    | zero => cases before
    | succ i =>
      obtain rfl := index_eq_of_key_eq unique secondAt before
      rw [firstAt]
      rfl
  · intro after
    obtain rfl := index_eq_of_key_eq unique firstAt after
    change rows[j]?.map key = some (key second)
    rw [secondAt]
    rfl

omit unique in
/-- Walking back from a row visits it and the rows before it. -/
theorem Linked.walkBack_from {find : Key → Option Row}
    (finds : ∀ row ∈ rows, find (key row) = some row) {index steps : ℕ}
    (bound : index < rows.length) (enough : index < steps) :
    walkBack previous find steps (rows[index]?.map key) =
      ((rows.take (index + 1)).map key).reverse := by
  induction index generalizing steps with
  | zero =>
    rcases steps with _ | steps
    · exact absurd enough (Nat.lt_irrefl 0)
    have isFirst := (linked 0 rows[0] (List.getElem?_eq_getElem bound)).1
    rw [List.getElem?_eq_getElem bound, Option.map_some, walkBack,
      finds _ (List.getElem_mem bound), Option.bind_some, isFirst]
    have rest : walkBack previous find steps none = [] := by cases steps <;> rfl
    rw [rest, List.take_one, List.head?_eq_getElem?, List.getElem?_eq_getElem bound]
    rfl
  | succ index ih =>
    rcases steps with _ | steps
    · exact absurd enough (Nat.not_lt_zero _)
    have before := (linked (index + 1) _ (List.getElem?_eq_getElem bound)).1
    rw [List.getElem?_eq_getElem bound, Option.map_some, walkBack,
      finds _ (List.getElem_mem bound), Option.bind_some, before,
      ih (Nat.lt_of_succ_lt bound) (Nat.lt_of_succ_lt_succ enough),
      List.take_succ_eq_append_getElem bound, List.map_append, List.reverse_append]
    rfl

omit unique in
/-- Walking back from the last row visits every row once. -/
theorem Linked.walkBack {find : Key → Option Row}
    (finds : ∀ row ∈ rows, find (key row) = some row) {steps : ℕ} (enough : rows.length ≤ steps) :
    walkBack previous find steps (rows.getLast?.map key) = (rows.map key).reverse := by
  rw [List.getLast?_eq_getElem?]
  cases size : rows.length with
  | zero =>
    obtain rfl := List.length_eq_zero_iff.mp size
    cases steps <;> rfl
  | succ index =>
    rw [Nat.add_sub_cancel, linked.walkBack_from finds (by omega) (by omega), ← size,
      List.take_length]

end Unique

end Reperio.Relational
