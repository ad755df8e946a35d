import Mathlib.Data.List.Basic
import Mathlib.Data.List.Induction
import Mathlib.Logic.Relation
import Mathlib.Tactic.Basic

/-!
# The first item of every key

A stream is passed on without the items whose key has been seen before. What is
left does not change when an item is repeated later on, any number of times. Where all
items are kept, they are put into one group for each key (`mem_groupByKey`).
-/

namespace Reperio.Encoding

variable {α κ : Type} [DecidableEq κ] (key : α → κ)

/-- The items whose key is neither among the given ones nor that of an item before. -/
def firsts : List κ → List α → List α
  | _, [] => []
  | seen, item :: items =>
    if key item ∈ seen then firsts seen items
    else item :: firsts (key item :: seen) items

/-- The keys that are seen once the items have passed. -/
def seenAfter : List κ → List α → List κ
  | seen, [] => seen
  | seen, item :: items =>
    if key item ∈ seen then seenAfter seen items else seenAfter (key item :: seen) items

theorem firsts_sublist (seen : List κ) (items : List α) :
    (firsts key seen items).Sublist items := by
  induction items generalizing seen with
  | nil => exact List.Sublist.refl []
  | cons item items ih =>
    rw [firsts]
    split
    · exact (ih seen).cons item
    · exact (ih (key item :: seen)).cons_cons item

theorem firsts_append (seen : List κ) (front back : List α) : firsts key seen (front ++ back) =
      firsts key seen front ++ firsts key (seenAfter key seen front) back := by
  induction front generalizing seen with
  | nil => rfl
  | cons item front ih =>
    rw [List.cons_append, firsts, firsts, seenAfter]
    split
    · exact ih seen
    · rw [List.cons_append, ih]

/-- The keys seen are those of the items that were passed on. -/
theorem mem_seenAfter {seen : List κ} {items : List α} {found : κ} :
    found ∈ seenAfter key seen items ↔
      found ∈ seen ∨ ∃ item ∈ firsts key seen items, key item = found := by
  induction items generalizing seen with
  | nil => simp [seenAfter, firsts]
  | cons item items ih =>
    rw [seenAfter, firsts]
    split
    · exact ih
    · rw [ih, List.mem_cons, List.exists_mem_cons_iff, or_assoc, eq_comm, or_left_comm]

/-- Every key of an item that has passed is seen. -/
theorem key_mem_seenAfter {seen : List κ} {items : List α} {item : α} (member : item ∈ items) :
    key item ∈ seenAfter key seen items := by
  have grows (seen : List κ) (items : List α) {found : κ} (isSeen : found ∈ seen) :
      found ∈ seenAfter key seen items := (mem_seenAfter key).mpr (Or.inl isSeen)
  induction items generalizing seen with
  | nil => cases member
  | cons first items ih =>
    rw [seenAfter]
    rcases List.mem_cons.mp member with isFirst | later
    · subst isFirst
      split
      · rename_i isSeen
        exact grows seen items isSeen
      · exact grows _ items List.mem_cons_self
    · split
      · exact ih later
      · exact ih later

variable {key} {front back : List α} {item : α}

/-- An item is left out when an item that was passed on before has its key. -/
theorem firsts_drop (dropped : ∃ kept ∈ firsts key [] front, key kept = key item) :
    firsts key [] (front ++ item :: back) = firsts key [] (front ++ back) := by
  have isSeen : key item ∈ seenAfter key [] front := (mem_seenAfter key).mpr (Or.inr dropped)
  rw [firsts_append, firsts_append, firsts, if_pos isSeen]

/-- Any other item is passed on, after those before it. -/
theorem firsts_keep (isNew : ¬∃ kept ∈ firsts key [] front, key kept = key item) :
    ∃ later, firsts key [] (front ++ item :: back) = firsts key [] front ++ item :: later := by
  have notSeen : key item ∉ seenAfter key [] front := by
    rw [mem_seenAfter]
    rintro (none | dropped)
    · cases none
    · exact isNew dropped
  rw [firsts_append, firsts, if_neg notSeen]
  exact ⟨_, rfl⟩

/-! ## Replays -/

variable {β ε : Type} {values : List β}

theorem mapM_append_eq_ok {read : α → Except ε β} {front back : List α}
    (isRead : (front ++ back).mapM read = .ok values) :
    ∃ frontValues backValues, front.mapM read = .ok frontValues ∧
      back.mapM read = .ok backValues ∧ values = frontValues ++ backValues := by
  rw [List.mapM_append] at isRead
  cases readFront : front.mapM read with
  | error error =>
    rw [readFront] at isRead
    cases isRead
  | ok frontValues =>
    cases readBack : back.mapM read with
    | error error =>
      rw [readFront, readBack] at isRead
      cases isRead
    | ok backValues =>
      rw [readFront, readBack] at isRead
      exact ⟨frontValues, backValues, rfl, rfl, (Except.ok.inj isRead).symm⟩

theorem exists_of_mapM_eq_ok {read : α → Except ε β} {items : List α}
    (isRead : items.mapM read = .ok values) {item : α} (member : item ∈ items) :
    ∃ value, read item = .ok value ∧ value ∈ values := by
  rcases List.append_of_mem member with ⟨front, back, rfl⟩
  rcases mapM_append_eq_ok isRead with ⟨frontValues, backValues, _, readBack, rfl⟩
  rw [List.mapM_cons] at readBack
  cases readItem : read item with
  | error error =>
    rw [readItem] at readBack
    cases readBack
  | ok value =>
    cases readRest : back.mapM read with
    | error error =>
      rw [readItem, readRest] at readBack
      cases readBack
    | ok rest =>
      rw [readItem, readRest] at readBack
      rw [← Except.ok.inj readBack]
      exact ⟨value, rfl, List.mem_append_right _ List.mem_cons_self⟩

/-- One item is repeated somewhere after it. -/
inductive Repeats : List α → List α → Prop where
  | insert (front back : List α) {item : α} (earlier : item ∈ front) :
      Repeats (front ++ back) (front ++ item :: back)

/-- Items are repeated, any number of times. -/
def Replays : List α → List α → Prop := Relation.ReflTransGen Repeats

theorem firsts_repeats {items repeated : List α} (repeats : Repeats items repeated) :
    firsts key [] repeated = firsts key [] items := by
  cases repeats with
  | insert front back earlier =>
    rw [firsts_append, firsts_append, firsts, if_pos (key_mem_seenAfter key earlier)]

/-- What is passed on does not depend on replays. -/
theorem firsts_replays {items replayed : List α} (replays : Replays items replayed) :
    firsts key [] replayed = firsts key [] items := by
  induction replays with
  | refl => rfl
  | tail _ repeats ih => rw [firsts_repeats repeats, ih]

/-- Where the items of a stream are read, so is a repeated one, and as before. -/
theorem Repeats.mapM {read : α → Except ε β} {items repeated : List α}
    (repeats : Repeats items repeated) (isRead : items.mapM read = .ok values) :
    ∃ others, repeated.mapM read = .ok others ∧ Repeats values others := by
  cases repeats with
  | @insert front back item earlier =>
    rcases mapM_append_eq_ok isRead with ⟨frontValues, backValues, readFront, readBack, rfl⟩
    rcases exists_of_mapM_eq_ok readFront earlier with ⟨value, isValue, isEarlier⟩
    refine ⟨frontValues ++ value :: backValues, ?_, .insert frontValues backValues isEarlier⟩
    simp only [List.mapM_append, List.mapM_cons, readFront, isValue, readBack]
    rfl

theorem Replays.mapM {read : α → Except ε β} {items replayed : List α}
    (replays : Replays items replayed) (isRead : items.mapM read = .ok values) :
    ∃ others, replayed.mapM read = .ok others ∧ Replays values others := by
  induction replays with
  | refl => exact ⟨values, isRead, .refl⟩
  | tail _ repeats ih =>
    rcases ih with ⟨others, readOthers, replays⟩
    rcases repeats.mapM readOthers with ⟨more, readMore, repeats⟩
    exact ⟨more, readMore, replays.tail repeats⟩

/-! ## Groups of items by key -/

/-- One more item of a key, which begins a group when the key has none. -/
def addToGroup : List (κ × List α) → κ → α → List (κ × List α)
  | [], key, item => [(key, [item])]
  | (present, items) :: groups, key, item =>
    if present = key then (present, items ++ [item]) :: groups
    else (present, items) :: addToGroup groups key item

/-- The items of each key in their order, the keys in the order of their first items. -/
def groupByKey (pairs : List (κ × α)) : List (κ × List α) :=
  pairs.foldl (fun groups pair => addToGroup groups pair.1 pair.2) []

/-- The items of one key. -/
def itemsOf (pairs : List (κ × α)) (key : κ) : List α :=
  (pairs.filter fun pair => pair.1 = key).map Prod.snd

section GroupByKey

variable {groups : List (κ × List α)} {pairs : List (κ × α)} {key other : κ} {item : α}
  {items : List α}

theorem mem_keys_addToGroup :
    other ∈ (addToGroup groups key item).map Prod.fst ↔ other ∈ groups.map Prod.fst ∨
      other = key := by
  induction groups with
  | nil => simp [addToGroup]
  | cons group groups ih =>
    obtain ⟨present, kept⟩ := group
    rw [addToGroup]
    split
    · rename_i same
      simp only [List.map_cons, List.mem_cons, same]
      tauto
    · simp only [List.map_cons, List.mem_cons, ih, or_assoc]

theorem nodup_keys_addToGroup (distinct : (groups.map Prod.fst).Nodup) :
    ((addToGroup groups key item).map Prod.fst).Nodup := by
  induction groups with
  | nil => simp [addToGroup]
  | cons group groups ih =>
    obtain ⟨present, kept⟩ := group
    obtain ⟨isNew, distinct⟩ := List.nodup_cons.mp distinct
    rw [addToGroup]
    split
    · exact List.nodup_cons.mpr ⟨isNew, distinct⟩
    · rename_i different
      refine List.nodup_cons.mpr ⟨fun isThere => ?_, ih distinct⟩
      exact (mem_keys_addToGroup.mp isThere).elim isNew different

theorem nodup_keys_groupByKey (pairs : List (κ × α)) : ((groupByKey pairs).map Prod.fst).Nodup := by
  induction pairs using List.reverseRecOn with
  | nil => exact List.nodup_nil
  | append_singleton pairs pair ih =>
    rw [groupByKey, List.foldl_append]
    exact nodup_keys_addToGroup ih

/-- Other groups stay, and that of the key becomes longer by the item. -/
theorem mem_addToGroup (distinct : (groups.map Prod.fst).Nodup) :
    (other, items) ∈ addToGroup groups key item ↔ if other = key then
        (∃ kept, (key, kept) ∈ groups ∧ items = kept ++ [item]) ∨
          (key ∉ groups.map Prod.fst ∧ items = [item])
      else (other, items) ∈ groups := by
  induction groups with
  | nil => simp [addToGroup]
  | cons group groups ih =>
    obtain ⟨present, kept⟩ := group
    obtain ⟨isNew, distinct⟩ := List.nodup_cons.mp distinct
    have notLater (items : List α) : (present, items) ∉ groups :=
      fun isThere => isNew (List.mem_map.mpr ⟨_, isThere, rfl⟩)
    rw [addToGroup]
    split
    · rename_i same
      subst same
      split
      · rename_i same
        subst same
        simp [notLater]
      · rename_i different
        simp [different]
    · rename_i different
      rw [List.mem_cons, ih distinct]
      split
      · rename_i same
        subst same
        simp [Ne.symm different]
      · simp

/-- There is one group for each key that has items, and it holds all of them. -/
theorem mem_groupByKey :
    (key, items) ∈ groupByKey pairs ↔ items ≠ [] ∧ items = itemsOf pairs key := by
  induction pairs using List.reverseRecOn generalizing key items with
  | nil => simp [groupByKey, itemsOf]
  | append_singleton pairs pair ih =>
    have hasKey {key : κ} : key ∈ (groupByKey pairs).map Prod.fst ↔ itemsOf pairs key ≠ [] := by
      simp [ih]
    have grown : groupByKey (pairs ++ [pair]) = addToGroup (groupByKey pairs) pair.1 pair.2 := by
      rw [groupByKey, List.foldl_append]
      rfl
    rw [grown, mem_addToGroup (nodup_keys_groupByKey pairs), itemsOf, List.filter_append,
      List.map_append, ← itemsOf]
    split
    · rename_i same
      subst same
      rw [hasKey]
      by_cases isEmpty : itemsOf pairs pair.1 = []
      · simp +contextual [ih, isEmpty]
      · simp +contextual [ih, isEmpty]
    · rename_i different
      simp [ih, Ne.symm different]

end GroupByKey

end Reperio.Encoding
