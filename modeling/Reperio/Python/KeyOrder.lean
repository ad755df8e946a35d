import Reperio.Python.JsonCanonical

/-!
# The order of keys

The items of a dictionary have an order that no comparison sees and that
`sort_keys` does not keep. What is read back from what was written is the value
with the items of all its dictionaries in the order of their keys.
-/

namespace Reperio.Python

variable {holds : PyValue → Prop} {α : Type} {allowNan : Bool} {members : List (PyStr × Json)}

namespace PyValue

/-- The order in which `sort_keys` writes items. -/
def KeyLe {α : Type} (first second : PyValue × α) : Prop :=
  first.1.sortKey.le second.1.sortKey = true

instance {α : Type} : DecidableRel (@KeyLe α) := fun first second =>
  inferInstanceAs (Decidable (first.1.sortKey.le second.1.sortKey = true))

mutual

/-- The value, with the items of all its dictionaries in the order of their keys. -/
def inKeyOrder : PyValue → PyValue
  | .list items => .list (inKeyOrderItems items)
  | .dict items => .dict ((inKeyOrderPairs items).insertionSort KeyLe)
  | value => value

def inKeyOrderItems : List PyValue → List PyValue
  | [] => []
  | item :: items => inKeyOrder item :: inKeyOrderItems items

def inKeyOrderPairs : List (PyValue × PyValue) → List (PyValue × PyValue)
  | [] => []
  | (key, value) :: items => (key, inKeyOrder value) :: inKeyOrderPairs items

end

/-- The same but for the order of the items of dictionaries. -/
def Same (first second : PyValue) : Prop := first.inKeyOrder = second.inKeyOrder

mutual

/-- It holds of the value, of all elements of its lists and of all keys and values of its
dictionaries. -/
def Everywhere (holds : PyValue → Prop) : PyValue → Prop
  | .list items => holds (.list items) ∧ EverywhereItems holds items
  | .dict items => holds (.dict items) ∧ EverywherePairs holds items
  | value => holds value

def EverywhereItems (holds : PyValue → Prop) : List PyValue → Prop
  | [] => True
  | item :: items => Everywhere holds item ∧ EverywhereItems holds items

def EverywherePairs (holds : PyValue → Prop) : List (PyValue × PyValue) → Prop
  | [] => True
  | (key, value) :: items =>
    Everywhere holds key ∧ Everywhere holds value ∧ EverywherePairs holds items

end

/-- All characters of a string are scalar values of Unicode. -/
def ScalarText : PyValue → Prop
  | .text points => ∀ point ∈ points, point.IsScalar
  | _ => True

/-- A string has no two surrogates beside each other that are read as one character. -/
def JoinedText : PyValue → Prop
  | .text points => points.joined = points
  | _ => True

/-- The keys of a dictionary differ. -/
def DistinctKeys : PyValue → Prop
  | .dict items => (items.map Prod.fst).Nodup
  | _ => True

/-- The keys of a dictionary are strings. -/
def TextKeys : PyValue → Prop
  | .dict items => ∀ item ∈ items, ∃ points, item.1 = .text points
  | _ => True

/-! ## Elements one by one -/

theorem inKeyOrderItems_eq_map (items : List PyValue) :
    inKeyOrderItems items = items.map inKeyOrder := by
  induction items with
  | nil => rfl
  | cons item items ih => rw [inKeyOrderItems, ih, List.map_cons]

theorem inKeyOrderPairs_eq_map (items : List (PyValue × PyValue)) :
    inKeyOrderPairs items = items.map (Prod.map id inKeyOrder) := by
  induction items with
  | nil => rfl
  | cons item items ih => rw [inKeyOrderPairs, ih, List.map_cons, Prod.map, id_eq]

/-- The values are put in order before or after the items are. -/
theorem inKeyOrder_dict (items : List (PyValue × PyValue)) : (PyValue.dict items).inKeyOrder =
      .dict ((items.insertionSort KeyLe).map (Prod.map id inKeyOrder)) := by
  rw [inKeyOrder, inKeyOrderPairs_eq_map]
  exact congrArg _ (List.map_insertionSort KeyLe KeyLe (Prod.map id inKeyOrder) items
    fun _ _ _ _ => Iff.rfl).symm

theorem everywhereItems_iff {items : List PyValue} :
    EverywhereItems holds items ↔ ∀ item ∈ items, Everywhere holds item := by
  induction items with
  | nil => simp [EverywhereItems]
  | cons item items ih => rw [EverywhereItems, ih, List.forall_mem_cons]

theorem everywherePairs_iff {items : List (PyValue × PyValue)} : EverywherePairs holds items ↔
      ∀ item ∈ items, Everywhere holds item.1 ∧ Everywhere holds item.2 := by
  induction items with
  | nil => simp [EverywherePairs]
  | cons item items ih => rw [EverywherePairs, ih, List.forall_mem_cons, and_assoc]

theorem everywhere_list_iff {items : List PyValue} :
    Everywhere holds (.list items) ↔ holds (.list items) ∧
      ∀ item ∈ items, Everywhere holds item := by
  rw [Everywhere, everywhereItems_iff]

theorem everywhere_dict_iff {items : List (PyValue × PyValue)} :
    Everywhere holds (.dict items) ↔ holds (.dict items) ∧
      ∀ item ∈ items, Everywhere holds item.1 ∧ Everywhere holds item.2 := by
  rw [Everywhere, everywherePairs_iff]

/-- A value that holds no others. -/
inductive IsLeaf : PyValue → Prop where
  | none : IsLeaf .none
  | bool (value : Bool) : IsLeaf (.bool value)
  | int (value : ℤ) : IsLeaf (.int value)
  | float (value : PyFloat) : IsLeaf (.float value)
  | text (points : PyStr) : IsLeaf (.text points)
  | other : IsLeaf .other

section Induction

variable {motive : PyValue → Prop} (leaf : ∀ value, IsLeaf value → motive value)
  (list : ∀ items : List PyValue, (∀ item ∈ items, motive item) → motive (list items))
  (dict : ∀ items : List (PyValue × PyValue), (∀ item ∈ items, motive item.1 ∧ motive item.2) →
    motive (dict items))

-- they are used through each other only
set_option linter.unusedSectionVars false
include leaf list dict

mutual

theorem induct (value : PyValue) : motive value := by
  match value with
  | .list items => exact list items (inductItems items)
  | .dict items => exact dict items (inductPairs items)
  | .none => exact leaf _ .none
  | .bool value => exact leaf _ (.bool value)
  | .int value => exact leaf _ (.int value)
  | .float value => exact leaf _ (.float value)
  | .text points => exact leaf _ (.text points)
  | .other => exact leaf _ .other

theorem inductItems (items : List PyValue) : ∀ item ∈ items, motive item := by
  match items with
  | [] => exact fun _ member => absurd member List.not_mem_nil
  | item :: items => exact List.forall_mem_cons.mpr ⟨induct item, inductItems items⟩

theorem inductPairs (items : List (PyValue × PyValue)) :
    ∀ item ∈ items, motive item.1 ∧ motive item.2 := by
  match items with
  | [] => exact fun _ member => absurd member List.not_mem_nil
  | (key, value) :: items =>
    exact List.forall_mem_cons.mpr ⟨⟨induct key, induct value⟩, inductPairs items⟩

end

end Induction

theorem Everywhere.imp {implied : PyValue → Prop} (imp : ∀ value, holds value → implied value)
    {value : PyValue} : value.Everywhere holds → value.Everywhere implied := by
  induction value using PyValue.induct with
  | leaf value isLeaf =>
    cases isLeaf with
    | _ => exact imp _
  | list items ih =>
    intro everywhere
    rw [everywhere_list_iff] at everywhere ⊢
    exact ⟨imp _ everywhere.1, fun item isItem => ih item isItem (everywhere.2 item isItem)⟩
  | dict items ih =>
    intro everywhere
    rw [everywhere_dict_iff] at everywhere ⊢
    exact ⟨imp _ everywhere.1, fun item isItem => ⟨(ih item isItem).1 (everywhere.2 item isItem).1,
      (ih item isItem).2 (everywhere.2 item isItem).2⟩⟩

theorem Everywhere.joinedText {value : PyValue} (scalar : value.Everywhere ScalarText) :
    value.Everywhere JoinedText := by
  refine scalar.imp fun value isScalar => ?_
  cases value with
  | text points => exact PyStr.joined_of_scalar isScalar
  | _ => trivial

theorem IsLeaf.inKeyOrder {value : PyValue} (isLeaf : value.IsLeaf) : value.inKeyOrder = value := by
  cases isLeaf <;> rfl

/-! ## Texts as keys -/

theorem exists_members {items : List (PyValue × PyValue)}
    (textKeys : ∀ item ∈ items, ∃ points, item.1 = .text points) :
    ∃ members : List (PyStr × PyValue), items =
      members.map fun member => (.text member.1, member.2) := by
  induction items with
  | nil => exact ⟨[], rfl⟩
  | cons item items ih =>
    rw [List.forall_mem_cons] at textKeys
    rcases textKeys with ⟨⟨points, isText⟩, textKeys⟩
    rcases ih textKeys with ⟨members, rfl⟩
    refine ⟨(points, item.2) :: members, ?_⟩
    rw [List.map_cons, ← isText]

/-- Texts are sorted as the keys that they are. -/
theorem insertionSort_map_text (members : List (PyStr × α)) :
    (members.map fun member => (PyValue.text member.1, member.2)).insertionSort KeyLe =
      (members.insertionSort fun first second => first.1 ≤ second.1).map fun member =>
        (.text member.1, member.2) := by
  refine (List.map_insertionSort _ KeyLe _ members fun first _ second _ => ?_).symm
  simp [KeyLe, sortKey, SortKey.le]

theorem pairwise_insertionSort_text {items : List (PyValue × PyValue)}
    (textKeys : ∀ item ∈ items, ∃ points, item.1 = .text points) :
    (items.insertionSort KeyLe).Pairwise KeyLe := by
  rcases exists_members textKeys with ⟨members, rfl⟩
  have total : Std.Total fun first second : PyStr × PyValue => first.1 ≤ second.1 :=
    ⟨fun first second => le_total first.1 second.1⟩
  have trans : IsTrans (PyStr × PyValue) fun first second => first.1 ≤ second.1 :=
    ⟨fun _ _ _ => le_trans⟩
  rw [insertionSort_map_text, List.pairwise_map]
  refine (List.pairwise_insertionSort (fun first second : PyStr × PyValue =>
    first.1 ≤ second.1) members).imp fun inOrder => ?_
  simpa [KeyLe, sortKey, SortKey.le] using inOrder

/-- Items whose keys are texts are in order once they are sorted. -/
theorem insertionSort_insertionSort {items : List (PyValue × PyValue)}
    (textKeys : ∀ item ∈ items, ∃ points, item.1 = .text points) :
    (items.insertionSort KeyLe).insertionSort KeyLe = items.insertionSort KeyLe :=
  (pairwise_insertionSort_text textKeys).insertionSort_eq

theorem inKeyOrder_inKeyOrder {value : PyValue} :
    value.Everywhere TextKeys → value.inKeyOrder.inKeyOrder = value.inKeyOrder := by
  induction value using induct with
  | leaf value isLeaf =>
    intro _
    rw [isLeaf.inKeyOrder, isLeaf.inKeyOrder]
  | list items ih =>
    intro textKeys
    rw [everywhere_list_iff] at textKeys
    rw [inKeyOrder, inKeyOrder, inKeyOrderItems_eq_map, inKeyOrderItems_eq_map, list.injEq,
      Json.map_eq_self_iff]
    exact List.forall_mem_map.mpr fun item isItem => ih item isItem (textKeys.2 item isItem)
  | dict items ih =>
    intro textKeys
    rw [everywhere_dict_iff] at textKeys
    have ordered : (PyValue.dict items).inKeyOrder = .dict _ := inKeyOrder_dict items
    rw [ordered, inKeyOrder, inKeyOrderPairs_eq_map, dict.injEq, List.map_map]
    have same : (items.insertionSort KeyLe).map (Prod.map id inKeyOrder ∘ Prod.map id inKeyOrder) =
        (items.insertionSort KeyLe).map (Prod.map id inKeyOrder) := by
      refine List.map_congr_left fun item isItem => ?_
      rw [List.mem_insertionSort] at isItem
      exact congrArg (Prod.mk item.1) ((ih item isItem).2 (textKeys.2 item isItem).2)
    rw [same, ← List.map_insertionSort KeyLe KeyLe (Prod.map id inKeyOrder) _ fun _ _ _ _ =>
      Iff.rfl, insertionSort_insertionSort textKeys.1]

end PyValue

/-! ## Reading what was written -/

theorem forall₂_of_mapM_ok {β ε : Type} {convert : α → Except ε β} {items : List α}
    {results : List β} (mapped : items.mapM convert = .ok results) :
    List.Forall₂ (fun item result => convert item = .ok result) items results := by
  induction items generalizing results with
  | nil =>
    cases mapped
    exact .nil
  | cons item items ih =>
    rw [List.mapM_cons] at mapped
    rcases bind_eq_ok mapped with ⟨result, converted, mapped⟩
    rcases bind_eq_ok mapped with ⟨rest, isRest, mapped⟩
    cases mapped
    exact .cons converted (ih isRest)

theorem forall_mem_of_forall₂ {β : Type} {related : α → β → Prop} {holds : β → Prop}
    {items : List α} {results : List β} (paired : List.Forall₂ related items results)
    (each : ∀ item ∈ items, ∀ result, related item result → holds result) :
    ∀ result ∈ results, holds result := by
  induction paired with
  | nil => exact fun _ member => absurd member List.not_mem_nil
  | cons isRelated _ ih =>
    rw [List.forall_mem_cons] at each
    exact List.forall_mem_cons.mpr ⟨each.1 _ isRelated, ih each.2⟩

theorem map_eq_map_of_forall₂ {β γ : Type} {related : α → β → Prop} {first : α → γ} {second : β → γ}
    {items : List α} {results : List β} (paired : List.Forall₂ related items results)
    (each : ∀ item ∈ items, ∀ result, related item result → second result = first item) :
    results.map second = items.map first := by
  induction paired with
  | nil => rfl
  | cons isRelated _ ih =>
    rw [List.forall_mem_cons] at each
    rw [List.map_cons, List.map_cons, each.1 _ isRelated, ih each.2]

theorem toJsonItems_eq_ok {limit : ℕ} {items : List PyValue} {jsons : List Json}
    (written : toJsonItems allowNan limit items = .ok jsons) :
    List.Forall₂ (fun item json => toJson allowNan limit item = .ok json) items jsons := by
  induction items generalizing jsons with
  | nil =>
    cases written
    exact .nil
  | cons item items ih =>
    rcases bind_eq_ok written with ⟨json, isJson, written⟩
    rcases bind_eq_ok written with ⟨rest, isRest, written⟩
    cases written
    exact .cons isJson (ih isRest)

/-- The members of an object are the items of the dictionary in the order of the keys. -/
theorem toJsonMembers_eq_ok {limit : ℕ} {items : List (PyValue × PyValue)}
    (textKeys : ∀ item ∈ items, ∃ points, item.1 = .text points)
    (written : toJsonMembers allowNan (toJsonValues allowNan limit items) = .ok members) :
    List.Forall₂ (fun item member => item.1 = .text member.1 ∧
      toJson allowNan limit item.2 = .ok member.2) (items.insertionSort PyValue.KeyLe) members := by
  rw [toJsonMembers] at written
  split at written
  · have sorts := List.map_insertionSort PyValue.KeyLe
      (fun first second : PyValue × Except PyError Json =>
        first.1.sortKey.le second.1.sortKey = true)
      (fun item : PyValue × PyValue => (item.1, toJson allowNan limit item.2)) items
      fun _ _ _ _ => Iff.rfl
    rw [toJsonValues_eq_map, ← sorts, List.mapM_map] at written
    refine (List.forall₂_iff_zip.mpr ⟨(forall₂_of_mapM_ok written).length_eq, ?_⟩)
    intro item member isPair
    have converted := (List.forall₂_iff_zip.mp (forall₂_of_mapM_ok written)).2 isPair
    have isItem := (List.mem_insertionSort _).mp (List.of_mem_zip isPair).1
    rcases textKeys item isItem with ⟨points, isText⟩
    rcases bind_eq_ok converted with ⟨key, isKey, converted⟩
    rcases bind_eq_ok converted with ⟨json, isJson, converted⟩
    cases converted
    dsimp only at isKey
    rw [isText] at isKey
    cases isKey
    exact ⟨isText, isJson⟩
  · cases written

/-- A value that is written and read again is the same but for the order of the items. -/
theorem ofJson_toJson {value : PyValue} :
    ∀ {limit json}, value.Everywhere PyValue.TextKeys → value.Everywhere PyValue.DistinctKeys →
      value.Everywhere PyValue.JoinedText → toJson allowNan limit value = .ok json →
      json.joined = json ∧ ofJson json = value.inKeyOrder := by
  induction value using PyValue.induct with
  | leaf value isLeaf =>
    intro limit json _ _ joined written
    rw [isLeaf.inKeyOrder]
    cases isLeaf with
    | int value =>
      rcases bind_eq_ok written with ⟨checked, isChecked, written⟩
      cases written
      unfold checkInt at isChecked
      split at isChecked
      · cases isChecked
        exact ⟨rfl, rfl⟩
      · cases isChecked
    | float value =>
      rcases bind_eq_ok written with ⟨checked, isChecked, written⟩
      cases written
      unfold checkFloat at isChecked
      split at isChecked
      · cases isChecked
        exact ⟨rfl, rfl⟩
      · cases isChecked
    | text points =>
      cases written
      exact ⟨congrArg Json.text joined, rfl⟩
    | other => cases written
    | none =>
      cases written
      exact ⟨rfl, rfl⟩
    | bool value =>
      cases written
      exact ⟨rfl, rfl⟩
  | list items ih =>
    intro limit json textKeys distinctKeys joined written
    rw [PyValue.everywhere_list_iff] at textKeys distinctKeys joined
    rcases limit with _ | limit
    · cases written
    rcases bind_eq_ok written with ⟨jsons, areJsons, written⟩
    cases written
    have written := toJsonItems_eq_ok areJsons
    have each : ∀ item ∈ items, ∀ json, toJson allowNan limit item = .ok json →
        json.joined = json ∧ ofJson json = item.inKeyOrder := by
      intro item isItem json isJson
      exact ih item isItem (textKeys.2 item isItem) (distinctKeys.2 item isItem)
        (joined.2 item isItem) isJson
    rw [Json.joined, Json.joinedItems_eq_map, Json.list.injEq, Json.map_eq_self_iff, ofJson,
      Json.ofJsonItems_eq_map, PyValue.inKeyOrder, PyValue.inKeyOrderItems_eq_map,
      PyValue.list.injEq]
    exact ⟨forall_mem_of_forall₂ written fun item isItem json isJson =>
      (each item isItem json isJson).1,
      map_eq_map_of_forall₂ written fun item isItem json isJson => (each item isItem json isJson).2⟩
  | dict items ih =>
    intro limit json textKeys distinctKeys joined written
    rw [PyValue.everywhere_dict_iff] at textKeys distinctKeys joined
    rcases limit with _ | limit
    · cases written
    rcases bind_eq_ok written with ⟨members, areMembers, written⟩
    cases written
    have written := toJsonMembers_eq_ok textKeys.1 areMembers
    have each : ∀ item ∈ items.insertionSort PyValue.KeyLe, ∀ member : PyStr × Json,
        item.1 = .text member.1 ∧ toJson allowNan limit item.2 = .ok member.2 →
        (member.1.joined = member.1 ∧ member.2.joined = member.2) ∧
          ofJson member.2 = item.2.inKeyOrder := by
      rintro item isItem member ⟨isText, isJson⟩
      rw [List.mem_insertionSort] at isItem
      have isJoined := (joined.2 item isItem).1
      rw [isText] at isJoined
      rcases (ih item isItem).2 (textKeys.2 item isItem).2 (distinctKeys.2 item isItem).2
        (joined.2 item isItem).2 isJson with ⟨joinedValue, isOrdered⟩
      exact ⟨⟨isJoined, joinedValue⟩, isOrdered⟩
    -- the keys of the members are the keys of the items, so that they differ as well
    have keys : (members.map fun member => PyValue.text member.1) =
        (items.insertionSort PyValue.KeyLe).map Prod.fst :=
      map_eq_map_of_forall₂ written fun item _ member isMember => isMember.1.symm
    have nodup : (members.map Prod.fst).Nodup := by
      have ofItems : ((items.insertionSort PyValue.KeyLe).map Prod.fst).Nodup :=
        ((List.perm_insertionSort _ _).map _).nodup_iff.mpr distinctKeys.1
      rw [← keys] at ofItems
      refine List.Nodup.of_map PyValue.text ?_
      rw [List.map_map]
      exact ofItems
    rw [Json.joined, Json.joinedMembers_eq_map, Json.object.injEq, Json.map_members_eq_self_iff,
      ofJson, Json.ofJsonMembers_eq_map, PyValue.inKeyOrder_dict, PyValue.dict.injEq,
      collectItems_of_nodup (by rw [List.map_map]; exact nodup), List.map_map]
    refine ⟨forall_mem_of_forall₂ written fun item isItem member isMember =>
      (each item isItem member isMember).1, map_eq_map_of_forall₂ written ?_⟩
    intro item isItem member isMember
    exact Prod.ext isMember.1.symm (each item isItem member isMember).2

/-! ## Writing what is in order -/

theorem ofJson_object (distinct : (members.map Prod.fst).Nodup) :
    ofJson (.object members) =
      .dict (members.map fun member => (.text member.1, ofJson member.2)) := by
  have keys : ((members.map (Prod.map id ofJson)).map Prod.fst).Nodup := by
    rw [List.map_map]
    exact distinct
  rw [ofJson, Json.ofJsonMembers_eq_map, collectItems_of_nodup keys, List.map_map]
  rfl

theorem eq_of_forall₂ {related : α → α → Prop} {items results : List α}
    (paired : List.Forall₂ related items results)
    (each : ∀ item ∈ items, ∀ result, related item result → result = item) : results = items := by
  induction paired with
  | nil => rfl
  | cons isRelated _ ih =>
    rw [List.forall_mem_cons] at each
    rw [each.1 _ isRelated, ih each.2]

/-- Where the keys are in order, what is written of a value that is read is that value. -/
theorem eq_of_toJson_ofJson {json : Json} : json.Canonical → ∀ {limit written},
    toJson allowNan limit (ofJson json) = .ok written → written = json := by
  induction json using Json.induct with
  | leaf json isLeaf =>
    intro _ limit written isWritten
    cases isLeaf with
    | int value =>
      rcases bind_eq_ok isWritten with ⟨checked, isChecked, isWritten⟩
      cases isWritten
      unfold checkInt at isChecked
      split at isChecked
      · exact congrArg Json.int (Except.ok.inj isChecked).symm
      · cases isChecked
    | float value =>
      rcases bind_eq_ok isWritten with ⟨checked, isChecked, isWritten⟩
      cases isWritten
      unfold checkFloat at isChecked
      split at isChecked
      · exact congrArg Json.float (Except.ok.inj isChecked).symm
      · cases isChecked
    | _ =>
      cases isWritten
      rfl
  | list items ih =>
    intro canonical limit written isWritten
    rw [Json.Canonical, Json.canonicalItems_iff] at canonical
    rcases limit with _ | limit
    · cases isWritten
    rw [ofJson, Json.ofJsonItems_eq_map] at isWritten
    rcases bind_eq_ok isWritten with ⟨jsons, areJsons, isWritten⟩
    cases isWritten
    have paired := toJsonItems_eq_ok areJsons
    rw [List.forall₂_map_left_iff] at paired
    exact congrArg Json.list (eq_of_forall₂ paired
      fun item isItem _ isJson => ih item isItem (canonical item isItem) isJson)
  | object members ih =>
    intro canonical limit written isWritten
    rw [Json.Canonical, Json.canonicalMembers_iff] at canonical
    rcases canonical with ⟨increasing, canonical⟩
    rcases limit with _ | limit
    · cases isWritten
    rw [ofJson_object (List.pairwise_map.mpr (increasing.imp ne_of_lt))] at isWritten
    rcases bind_eq_ok isWritten with ⟨others, areOthers, isWritten⟩
    cases isWritten
    have paired := toJsonMembers_eq_ok
      (List.forall_mem_map.mpr fun member _ => ⟨member.1, rfl⟩) areOthers
    have inOrder : (members.map fun member =>
        ((.text member.1, ofJson member.2) : PyValue × PyValue)).Pairwise PyValue.KeyLe :=
      List.pairwise_map.mpr (increasing.imp fun less => decide_eq_true (le_of_lt less))
    rw [inOrder.insertionSort_eq, List.forall₂_map_left_iff] at paired
    refine congrArg Json.object (eq_of_forall₂ paired ?_)
    rintro member isMember other ⟨isKey, isJson⟩
    exact Prod.ext (PyValue.text.inj isKey).symm
      (ih member isMember (canonical member isMember) isJson)

/-! ## Lookup -/

namespace PyDict

theorem get?_cons_self (name : String) (value : PyValue) (items : PyDict) :
    PyDict.get? ((.str name, value) :: items) name = some value := if_pos rfl

theorem get?_cons_of_ne {key : PyValue} {name : String} (different : key ≠ .str name)
    (value : PyValue) (items : PyDict) : PyDict.get? ((key, value) :: items) name =
      items.get? name := by
  cases key with
  | text points => exact if_neg fun same => different (congrArg PyValue.text same)
  | _ => rfl

theorem get?_eq_some_iff {items : PyDict} (distinct : (items.map Prod.fst).Nodup) {name : String}
    {value : PyValue} : items.get? name = some value ↔ (.str name, value) ∈ items := by
  induction items with
  | nil => simp [get?]
  | cons item items ih =>
    rcases item with ⟨key, first⟩
    rw [List.map_cons, List.nodup_cons] at distinct
    by_cases same : key = .str name
    · subst same
      rw [get?_cons_self, Option.some.injEq, List.mem_cons, Prod.mk.injEq]
      constructor
      · rintro rfl
        exact Or.inl ⟨rfl, rfl⟩
      · rintro (⟨_, rfl⟩ | later)
        · rfl
        · exact absurd (List.mem_map_of_mem later) distinct.1
    · rw [get?_cons_of_ne same, ih distinct.2, List.mem_cons, Prod.mk.injEq]
      simp [Ne.symm same]

theorem get?_of_perm {items others : PyDict} (perm : items.Perm others)
    (distinct : (items.map Prod.fst).Nodup) (name : String) : items.get? name =
      others.get? name := by
  have alsoDistinct := (perm.map Prod.fst).nodup_iff.mp distinct
  refine Option.ext fun value => ?_
  rw [get?_eq_some_iff distinct, get?_eq_some_iff alsoDistinct, perm.mem_iff]

theorem get?_map (change : PyValue → PyValue) (items : PyDict) (name : String) :
    PyDict.get? (items.map (Prod.map id change)) name = (items.get? name).map change := by
  induction items with
  | nil => rfl
  | cons item items ih =>
    rcases item with ⟨key, value⟩
    cases key with
    | text points =>
      simp only [List.map_cons, Prod.map, id_eq, get?, ih]
      split
      · rfl
      · rfl
    | _ => exact ih

/-- The items of a dictionary in the order of their keys. -/
def ordered (items : PyDict) : PyDict :=
  (items.insertionSort PyValue.KeyLe).map (Prod.map id PyValue.inKeyOrder)

theorem get?_ordered {items : PyDict} (distinct : (items.map Prod.fst).Nodup) (name : String) :
    items.ordered.get? name = (items.get? name).map PyValue.inKeyOrder := by
  rw [ordered, get?_map, get?_of_perm (List.perm_insertionSort PyValue.KeyLe items).symm distinct]

theorem get_ordered {items : PyDict} (distinct : (items.map Prod.fst).Nodup) (name : String) :
    items.ordered.get name = (items.get name).inKeyOrder := by
  rw [PyDict.get, get?_ordered distinct, PyDict.get]
  cases items.get? name with
  | none => rfl
  | some value => rfl

end PyDict

end Reperio.Python
