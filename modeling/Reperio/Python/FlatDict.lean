import Reperio.Python.JsonLayout
import Reperio.Python.KeyOrder

/-!
# Flat dictionaries

A dictionary that holds nothing but strings, booleans and `None` under strings
is written in any case, and is read back with its items in the order of their
keys.
-/

namespace Reperio.Python

/-- What a member of a flat dictionary holds. -/
inductive Json.Plain : Json → Prop
  | null : Plain .null
  | bool (value : Bool) : Plain (.bool value)
  | text (text : String) : Plain (.text (.ofString text))

theorem Json.Plain.toJson_ofJson {json : Json} (plain : json.Plain) (allowNan : Bool) (limit : ℕ) :
    toJson allowNan limit (ofJson json) = .ok json := by
  cases plain <;> rfl

/-- The items that members are read as. -/
def dictItems (members : List (String × Json)) : PyDict :=
  members.map fun member => (.str member.1, ofJson member.2)

theorem get?_dictItems (members : List (String × Json)) (name : String) :
    (dictItems members).get? name =
      (members.find? fun member => decide (member.1 = name)).map fun member => ofJson member.2 := by
  induction members with
  | nil => rfl
  | cons member members ih =>
    rcases member with ⟨first, json⟩
    rw [List.find?_cons, dictItems, List.map_cons, PyValue.str, PyDict.get?]
    by_cases same : first = name
    · rw [same, if_pos rfl, decide_eq_true rfl]
      rfl
    · rw [if_neg fun equal => same (PyStr.ofString_injective equal), decide_eq_false same]
      exact ih

theorem scalarText_str (text : String) : (PyValue.str text).ScalarText := by
  intro point member
  rcases List.mem_map.mp member with ⟨char, _, rfl⟩
  exact isScalar_ofChar char

/-- The members in the order of their keys. -/
def InOrder (members : List (String × Json)) : Prop :=
  ((members.map Prod.fst).map PyStr.ofString).Pairwise (· < ·)

variable {members : List (String × Json)}

theorem InOrder.pairwise (inOrder : InOrder members) :
    members.Pairwise fun first second => PyStr.ofString first.1 < PyStr.ofString second.1 := by
  rwa [InOrder, List.pairwise_map, List.pairwise_map] at inOrder

theorem InOrder.nodup (inOrder : InOrder members) : ((dictItems members).map Prod.fst).Nodup := by
  have isKeys : (dictItems members).map Prod.fst = members.map fun member => .str member.1 := by
    rw [dictItems, List.map_map]
    rfl
  rw [isKeys]
  refine List.pairwise_map.mpr (inOrder.pairwise.imp fun less same => ?_)
  rw [PyValue.str_injective same] at less
  exact lt_irrefl _ less

/-- Sorting by keys puts the members in order. -/
theorem insertionSort_dictItems {sorted : List (String × Json)} (perm : members.Perm sorted)
    (inOrder : InOrder sorted) :
    (dictItems members).insertionSort PyValue.KeyLe = dictItems sorted := by
  let le (first second : String × Json) : Prop := PyStr.ofString first.1 ≤ PyStr.ofString second.1
  have isSorted : members.insertionSort le = sorted := by
    refine List.Perm.eq_of_pairwise ?_ (List.pairwise_insertionSort le members)
      (inOrder.pairwise.imp le_of_lt) ((List.perm_insertionSort le members).trans perm)
    intro first second firstMember secondMember before after
    have firstSorted := perm.mem_iff.mp ((List.mem_insertionSort le).mp firstMember)
    have distinct : (sorted.map fun member => PyStr.ofString member.1).Nodup :=
      List.pairwise_map.mpr (inOrder.pairwise.imp ne_of_lt)
    exact List.inj_on_of_nodup_map distinct firstSorted secondMember (le_antisymm before after)
  have sorts := List.map_insertionSort le PyValue.KeyLe
    (fun member : String × Json => ((.str member.1, ofJson member.2) : PyValue × PyValue)) members
    (by simp [le, PyValue.KeyLe, PyValue.str, PyValue.sortKey, SortKey.le])
  rw [dictItems, ← sorts, isSorted]
  rfl

section Members

variable {members sorted : List (String × Json)} (plain : ∀ member ∈ members, member.2.Plain)
  (allowNan : Bool) (limit : ℕ)

include plain

theorem everywhere_dictItems {holds : PyValue → Prop} (outer : holds (.dict (dictItems members)))
    (null : holds .none) (bool : ∀ value, holds (.bool value))
    (text : ∀ text, holds (.str text)) :
    (PyValue.dict (dictItems members)).Everywhere holds := by
  rw [PyValue.everywhere_dict_iff]
  refine ⟨outer, fun item member => ?_⟩
  rcases List.mem_map.mp member with ⟨⟨name, json⟩, isMember, rfl⟩
  refine ⟨text name, ?_⟩
  cases plain _ isMember with
  | null => exact null
  | bool value => exact bool value
  | text value => exact text value

theorem exists_toJson_dictItems :
    ∃ json, toJson allowNan (limit + 1) (.dict (dictItems members)) = .ok json := by
  have values : toJsonValues allowNan limit (dictItems members) =
      (members.map fun member => (PyStr.ofString member.1, member.2)).map
        fun member => (.text member.1, .ok member.2) := by
    rw [toJsonValues_eq_map, dictItems, List.map_map, List.map_map]
    refine List.map_congr_left fun member isMember => ?_
    exact congrArg (Prod.mk _) ((plain member isMember).toJson_ofJson allowNan limit)
  rw [toJson, values, toJsonMembers_text]
  exact ⟨_, rfl⟩

/-- A flat dictionary is written, and read back with its items in the order of their keys. -/
theorem exists_dumpsSpaced_dictItems (perm : members.Perm sorted) (inOrder : InOrder sorted) :
    ∃ text, dumpsSpaced allowNan (limit + 1) (.dict (dictItems members)) = .ok text ∧
      loads (limit + 1) text = .ok (.dict (dictItems sorted)) := by
  rcases exists_toJson_dictItems plain allowNan limit with ⟨json, written⟩
  have dumped : dumpsSpaced allowNan (limit + 1) (.dict (dictItems members)) =
      .ok (String.ofList json.renderSpaced) := by
    rw [dumpsSpaced, written]
    rfl
  have itemsPerm : (dictItems members).Perm (dictItems sorted) := perm.map _
  have keys : ((dictItems members).map Prod.fst).Nodup :=
    (itemsPerm.map Prod.fst).nodup_iff.mpr inOrder.nodup
  have textKeys : ∀ item ∈ dictItems members, ∃ points, item.1 = .text points := by
    intro item member
    rcases List.mem_map.mp member with ⟨⟨name, json⟩, _, rfl⟩
    exact ⟨_, rfl⟩
  rcases loads_dumpsSpaced dumped with ⟨other, otherWritten, read⟩
  obtain rfl := Except.ok.inj (written.symm.trans otherWritten)
  rcases ofJson_toJson
    (everywhere_dictItems plain textKeys trivial (fun _ => trivial) fun _ => trivial)
    (everywhere_dictItems plain keys trivial (fun _ => trivial) fun _ => trivial)
    (PyValue.Everywhere.joinedText
      (everywhere_dictItems plain trivial trivial (fun _ => trivial) scalarText_str)) written with
    ⟨joined, back⟩
  refine ⟨_, dumped, ?_⟩
  have kept : ∀ item ∈ (dictItems members).insertionSort PyValue.KeyLe,
      Prod.map id PyValue.inKeyOrder item = item := by
    intro item isItem
    rcases List.mem_map.mp ((List.mem_insertionSort _).mp isItem) with ⟨⟨name, json⟩, member, rfl⟩
    cases plain _ member <;> rfl
  rw [read, joined, back, PyValue.inKeyOrder_dict, Json.map_eq_self_iff.mpr kept,
    insertionSort_dictItems perm inOrder]

end Members

end Reperio.Python
