import Reperio.Python.KeyOrder

/-!
# Values with the same text

Which values `json.dumps` writes as the same text: those that are the same but for
the order of the items of their dictionaries and for pairs of surrogates, which
are written as the character that they make up.
-/

namespace Reperio.Python

namespace PyValue

mutual

/-- The value with the surrogates in its texts joined, as it is read back. -/
def joinText : PyValue → PyValue
  | .text points => .text points.joined
  | .list items => .list (joinTextItems items)
  | .dict items => .dict (joinTextPairs items)
  | value => value

def joinTextItems : List PyValue → List PyValue
  | [] => []
  | item :: items => joinText item :: joinTextItems items

def joinTextPairs : List (PyValue × PyValue) → List (PyValue × PyValue)
  | [] => []
  | (key, value) :: items => (joinText key, joinText value) :: joinTextPairs items

end

theorem joinTextItems_eq_map (items : List PyValue) : joinTextItems items = items.map joinText := by
  induction items with
  | nil => rfl
  | cons item items ih => rw [joinTextItems, ih, List.map_cons]

theorem joinTextPairs_eq_map (items : List (PyValue × PyValue)) :
    joinTextPairs items = items.map (Prod.map joinText joinText) := by
  induction items with
  | nil => rfl
  | cons item items ih => rw [joinTextPairs, ih, List.map_cons, Prod.map]

/-- The keys of a dictionary are different strings, each read as it is. -/
def PlainKeys : PyValue → Prop
  | .dict items => (∀ item ∈ items, ∃ points, item.1 = .text points ∧ points.joined = points) ∧
      (items.map Prod.fst).Nodup
  | _ => True

theorem PlainKeys.textKeys {value : PyValue} (plain : value.PlainKeys) : value.TextKeys := by
  cases value with
  | dict items => exact fun item isItem => (plain.1 item isItem).imp fun _ => And.left
  | _ => trivial

theorem joinText_of_plain {key : PyValue}
    (plain : ∃ points, key = .text points ∧ points.joined = points) :
    key.joinText = key := by
  rcases plain with ⟨points, rfl, joined⟩
  exact congrArg text joined

/-- The items of a dictionary are sorted before or after their texts are joined. -/
theorem joinText_inKeyOrder_dict {items : List (PyValue × PyValue)}
    (plain : (PyValue.dict items).PlainKeys) :
    (PyValue.dict items).joinText.inKeyOrder =
      .dict ((items.insertionSort KeyLe).map fun item => (item.1, item.2.joinText.inKeyOrder)) := by
  have sorts := List.map_insertionSort KeyLe KeyLe (Prod.map joinText joinText) items
    fun first isFirst second isSecond => by
      rw [KeyLe, KeyLe, Prod.map, Prod.map, joinText_of_plain (plain.1 first isFirst),
        joinText_of_plain (plain.1 second isSecond)]
  rw [joinText, joinTextPairs_eq_map, inKeyOrder_dict, ← sorts, List.map_map, dict.injEq]
  refine List.map_congr_left fun item isItem => Prod.ext ?_ rfl
  exact joinText_of_plain (plain.1 item ((List.mem_insertionSort _).mp isItem))

end PyValue

variable {allowNan : Bool}

/-- What is written of a value is read back with its items in order and its texts joined. -/
theorem read_toJson {value : PyValue} : ∀ {limit json},
    value.Everywhere PyValue.PlainKeys → toJson allowNan limit value = .ok json →
      ofJson json.joined = value.joinText.inKeyOrder ∧ json.joined.Canonical := by
  induction value using PyValue.induct with
  | leaf value isLeaf =>
    intro limit json _ written
    cases isLeaf with
    | int value =>
      rcases bind_eq_ok written with ⟨checked, isChecked, written⟩
      cases written
      unfold checkInt at isChecked
      split at isChecked
      · cases isChecked
        exact ⟨rfl, trivial⟩
      · cases isChecked
    | float value =>
      rcases bind_eq_ok written with ⟨checked, isChecked, written⟩
      cases written
      unfold checkFloat at isChecked
      split at isChecked
      · cases isChecked
        exact ⟨rfl, trivial⟩
      · cases isChecked
    | other => cases written
    | _ =>
      cases written
      exact ⟨rfl, trivial⟩
  | list items ih =>
    intro limit json plain written
    rw [PyValue.everywhere_list_iff] at plain
    rcases limit with _ | limit
    · cases written
    rcases bind_eq_ok written with ⟨jsons, areJsons, written⟩
    cases written
    have written := toJsonItems_eq_ok areJsons
    rw [Json.joined, Json.joinedItems_eq_map, ofJson, Json.ofJsonItems_eq_map, PyValue.joinText,
      PyValue.joinTextItems_eq_map, PyValue.inKeyOrder, PyValue.inKeyOrderItems_eq_map,
      PyValue.list.injEq, List.map_map, List.map_map, Json.Canonical, Json.canonicalItems_iff,
      List.forall_mem_map]
    exact ⟨map_eq_map_of_forall₂ written fun item isItem _ isJson =>
        (ih item isItem (plain.2 item isItem) isJson).1,
      forall_mem_of_forall₂ written fun item isItem _ isJson =>
        (ih item isItem (plain.2 item isItem) isJson).2⟩
  | dict items ih =>
    intro limit json plain written
    rw [PyValue.everywhere_dict_iff] at plain
    rcases plain with ⟨plain, values⟩
    rcases limit with _ | limit
    · cases written
    rcases bind_eq_ok written with ⟨members, areMembers, written⟩
    cases written
    have textKeys : ∀ item ∈ items, ∃ points, item.1 = .text points :=
      fun item isItem => (plain.1 item isItem).imp fun _ => And.left
    have written := toJsonMembers_eq_ok textKeys areMembers
    have each : ∀ item ∈ items.insertionSort PyValue.KeyLe, ∀ member : PyStr × Json,
        item.1 = .text member.1 ∧ toJson allowNan limit item.2 = .ok member.2 →
        member.1.joined = member.1 ∧ ofJson member.2.joined = item.2.joinText.inKeyOrder ∧
          member.2.joined.Canonical := by
      rintro item isItem member ⟨isText, isJson⟩
      rw [List.mem_insertionSort] at isItem
      rcases plain.1 item isItem with ⟨points, isPoints, joined⟩
      obtain rfl := PyValue.text.inj (isText.symm.trans isPoints)
      exact ⟨joined, (ih item isItem).2 (values item isItem).2 isJson⟩
    -- the keys of the members are the keys of the items, in order and different
    have keys : (members.map fun member => PyValue.text member.1) =
        (items.insertionSort PyValue.KeyLe).map Prod.fst :=
      map_eq_map_of_forall₂ written fun item _ member isMember => isMember.1.symm
    have nodup : (members.map Prod.fst).Nodup := by
      have ofItems : ((items.insertionSort PyValue.KeyLe).map Prod.fst).Nodup :=
        ((List.perm_insertionSort _ _).map _).nodup_iff.mpr plain.2
      rw [← keys] at ofItems
      refine List.Nodup.of_map PyValue.text ?_
      rw [List.map_map]
      exact ofItems
    have increasing : members.Pairwise fun first second => first.1 < second.1 := by
      have ordered : ((items.insertionSort PyValue.KeyLe).map Prod.fst).Pairwise
          fun first second => first.sortKey.le second.sortKey = true :=
        List.pairwise_map.mpr (PyValue.pairwise_insertionSort_text textKeys)
      rw [← keys, List.pairwise_map] at ordered
      refine (ordered.and (List.pairwise_map.mp nodup)).imp fun both => ?_
      exact lt_of_le_of_ne (of_decide_eq_true both.1) both.2
    have joined : (Json.object members).joined =
        .object (members.map fun member => (member.1, member.2.joined)) := by
      rw [Json.joined, Json.joinedMembers_eq_map, Json.object.injEq]
      refine List.map_congr_left fun member isMember => Prod.ext ?_ rfl
      exact forall_mem_of_forall₂ written (fun item isItem member isMember =>
        (each item isItem member isMember).1) member isMember
    rw [joined, ofJson_object (by rw [List.map_map]; exact nodup),
      PyValue.joinText_inKeyOrder_dict plain, PyValue.dict.injEq, List.map_map, Json.Canonical,
      Json.canonicalMembers_iff, List.pairwise_map, List.forall_mem_map]
    refine ⟨map_eq_map_of_forall₂ written fun item isItem member isMember => ?_, increasing,
      forall_mem_of_forall₂ written fun item isItem member isMember =>
        (each item isItem member isMember).2.2⟩
    exact Prod.ext isMember.1.symm (each item isItem member isMember).2.1

/-- Values are written as the same text exactly when they are the same but for the order of items
and the joining of surrogates. -/
theorem dumps_eq_iff {limit : ℕ} {first second : PyValue} {firstText secondText : String}
    (firstPlain : first.Everywhere PyValue.PlainKeys)
    (secondPlain : second.Everywhere PyValue.PlainKeys)
    (firstWritten : dumps allowNan limit first = .ok firstText)
    (secondWritten : dumps allowNan limit second = .ok secondText) :
    firstText = secondText ↔ first.joinText.Same second.joinText := by
  rcases bind_eq_ok firstWritten with ⟨firstJson, isFirst, firstWritten⟩
  rcases bind_eq_ok secondWritten with ⟨secondJson, isSecond, secondWritten⟩
  cases firstWritten
  cases secondWritten
  have firstFits := fits_toJson _ isFirst
  have secondFits := fits_toJson _ isSecond
  rcases read_toJson firstPlain isFirst with ⟨firstRead, firstCanonical⟩
  rcases read_toJson secondPlain isSecond with ⟨secondRead, secondCanonical⟩
  rw [PyValue.Same, ← firstRead, ← secondRead, String.ofList_inj]
  constructor
  · intro same
    rw [Json.joined_eq_of_render_eq firstFits secondFits same]
  · intro same
    have again := toJson_ofJson (Json.fits_joined firstFits)
    rw [same, Json.sorted_of_canonical firstCanonical] at again
    have equal := eq_of_toJson_ofJson secondCanonical again
    rw [← Json.render_joined firstJson, equal, Json.render_joined]

/-! ## Items that are sorted before -/

theorem toJsonMembers_of_text {limit : ℕ} {items : List (PyValue × PyValue)}
    (textKeys : ∀ item ∈ items, ∃ points, item.1 = .text points) :
    toJsonMembers allowNan (toJsonValues allowNan limit items) =
      (items.insertionSort PyValue.KeyLe).mapM fun item => do
        let key ← keyText allowNan item.1
        let json ← toJson allowNan limit item.2
        return (key, json) := by
  have comparable : (toJsonValues allowNan limit items).Pairwise fun first second =>
      first.1.sortKey.comparable second.1.sortKey = true := by
    rw [toJsonValues_eq_map, List.pairwise_map]
    refine List.pairwise_of_forall_mem_list fun first isFirst second isSecond => ?_
    rcases textKeys first isFirst with ⟨points, isText⟩
    rcases textKeys second isSecond with ⟨others, isOther⟩
    rw [isText, isOther]
    rfl
  have sorts := List.map_insertionSort PyValue.KeyLe
    (fun first second : PyValue × Except PyError Json =>
      first.1.sortKey.le second.1.sortKey = true)
    (fun item : PyValue × PyValue => (item.1, toJson allowNan limit item.2)) items
    fun _ _ _ _ => Iff.rfl
  rw [toJsonMembers, if_pos comparable, toJsonValues_eq_map, ← sorts, List.mapM_map]
  rfl

theorem mapM_congr_mem {ε α β : Type} {first second : α → Except ε β} {items : List α}
    (same : ∀ item ∈ items, first item = second item) : items.mapM first = items.mapM second := by
  induction items with
  | nil => rfl
  | cons item items ih =>
    rcases List.forall_mem_cons.mp same with ⟨sameFirst, sameRest⟩
    rw [List.mapM_cons, List.mapM_cons, sameFirst, ih sameRest]

theorem toJson_inKeyOrder {value : PyValue} : ∀ {limit}, value.Everywhere PyValue.TextKeys →
      toJson allowNan limit value.inKeyOrder = toJson allowNan limit value := by
  induction value using PyValue.induct with
  | leaf value isLeaf =>
    intro limit _
    rw [isLeaf.inKeyOrder]
  | list items ih =>
    intro limit textKeys
    rw [PyValue.everywhere_list_iff] at textKeys
    rcases limit with _ | limit
    · rfl
    have each : ∀ others : List PyValue, (∀ item ∈ others, item ∈ items) →
        toJsonItems allowNan limit (others.map PyValue.inKeyOrder) =
          toJsonItems allowNan limit others := by
      intro others
      induction others with
      | nil => exact fun _ => rfl
      | cons item others step =>
        intro areItems
        rcases List.forall_mem_cons.mp areItems with ⟨isItem, areRest⟩
        rw [List.map_cons, toJsonItems, toJsonItems, ih item isItem (textKeys.2 item isItem),
          step areRest]
    rw [PyValue.inKeyOrder, PyValue.inKeyOrderItems_eq_map, toJson, toJson, each items fun _ => id]
  | dict items ih =>
    intro limit textKeys
    rw [PyValue.everywhere_dict_iff] at textKeys
    rcases limit with _ | limit
    · rfl
    have sortedKeys : ∀ item ∈ (items.insertionSort PyValue.KeyLe).map
        (Prod.map id PyValue.inKeyOrder),
        ∃ points, item.1 = .text points := by
      rw [List.forall_mem_map]
      intro item isItem
      exact textKeys.1 item ((List.mem_insertionSort _).mp isItem)
    rw [PyValue.inKeyOrder_dict, toJson, toJson, toJsonMembers_of_text textKeys.1,
      toJsonMembers_of_text sortedKeys, ← List.map_insertionSort PyValue.KeyLe PyValue.KeyLe
        (Prod.map id PyValue.inKeyOrder) _ fun _ _ _ _ => Iff.rfl,
      PyValue.insertionSort_insertionSort textKeys.1, List.mapM_map]
    refine congrArg (· >>= _) (mapM_congr_mem fun item isItem => ?_)
    have isItem := (List.mem_insertionSort _).mp isItem
    rw [Function.comp_apply, Prod.map_fst, Prod.map_snd, id_eq,
      (ih item isItem).2 (textKeys.2 item isItem).2]

end Reperio.Python
