import Mathlib.Data.List.Induction
import Reperio.Python.Json
import Reperio.Python.JsonRoundTrip

/-!
# Canonical JSON

What `dumps` writes after `loads` has read a text: every object loses its
repeated keys and gets its keys sorted (`toJson_ofJson`). So a text is
reproduced exactly when it was canonical, the keys of every object strictly
increasing (`sorted_eq_iff_canonical`). The first writing need not be: Python
sorts the keys before they become strings.
-/

namespace Reperio.Python

/-! ## Items of a dictionary -/

section Items

variable {α β : Type}

theorem mem_setItem {items : List (PyStr × α)} {key : PyStr} {value : α} {item : PyStr × α}
    (member : item ∈ setItem items key value) : item ∈ items ∨ item = (key, value) := by
  induction items with
  | nil => exact Or.inr (List.mem_singleton.mp member)
  | cons other items ih =>
    rw [setItem] at member
    split at member
    · rename_i same
      rcases List.mem_cons.mp member with rfl | old
      · exact Or.inr (by rw [same])
      · exact Or.inl (List.mem_cons_of_mem _ old)
    · rcases List.mem_cons.mp member with rfl | rest
      · exact Or.inl List.mem_cons_self
      · exact (ih rest).imp_left (List.mem_cons_of_mem _)

theorem keys_setItem (items : List (PyStr × α)) (key : PyStr) (value : α) :
    (setItem items key value).map Prod.fst =
      if key ∈ items.map Prod.fst then items.map Prod.fst else items.map Prod.fst ++ [key] := by
  induction items with
  | nil => rfl
  | cons other items ih =>
    rw [setItem]
    split
    · rename_i same
      simp [same]
    · rename_i different
      simp only [List.map_cons, ih, List.mem_cons, Ne.symm different, false_or]
      split <;> rfl

theorem setItem_of_notMem {items : List (PyStr × α)} {key : PyStr}
    (fresh : key ∉ items.map Prod.fst) (value : α) :
    setItem items key value = items ++ [(key, value)] := by
  induction items with
  | nil => rfl
  | cons other items ih =>
    rw [List.map_cons, List.mem_cons, not_or] at fresh
    rw [setItem, if_neg (Ne.symm fresh.1), ih fresh.2, List.cons_append]

theorem map_setItem (change : α → β) (items : List (PyStr × α)) (key : PyStr) (value : α) :
    (setItem items key value).map (Prod.map id change) =
      setItem (items.map (Prod.map id change)) key (change value) := by
  induction items with
  | nil => rfl
  | cons other items ih =>
    simp only [setItem, List.map_cons, Prod.map_fst, id_eq]
    split
    · rfl
    · rw [List.map_cons, ih]
      rfl

variable {pairs : List (PyStr × α)}

theorem mem_collectItems {pair : PyStr × α} (member : pair ∈ collectItems pairs) :
    pair ∈ pairs := by
  induction pairs using List.reverseRecOn with
  | nil => exact absurd member List.not_mem_nil
  | append_singleton pairs last ih =>
    rw [collectItems, List.foldl_append] at member
    rcases mem_setItem member with old | rfl
    · exact List.mem_append_left _ (ih old)
    · exact List.mem_append_right _ List.mem_cons_self

theorem nodup_keys_collectItems (pairs : List (PyStr × α)) :
    ((collectItems pairs).map Prod.fst).Nodup := by
  induction pairs using List.reverseRecOn with
  | nil => exact List.nodup_nil
  | append_singleton pairs last ih =>
    rw [collectItems, List.foldl_append]
    refine (congrArg List.Nodup (keys_setItem _ last.1 last.2)).mpr ?_
    split
    · exact ih
    · rename_i fresh
      exact List.Nodup.append ih (List.nodup_singleton _) (by simpa using fresh)

theorem collectItems_of_nodup (nodup : (pairs.map Prod.fst).Nodup) :
    collectItems pairs = pairs := by
  induction pairs using List.reverseRecOn with
  | nil => rfl
  | append_singleton pairs last ih =>
    rw [List.map_append, List.nodup_append] at nodup
    rw [collectItems, List.foldl_append]
    have earlier : pairs.foldl (fun items pair => setItem items pair.1 pair.2) [] = pairs :=
      ih nodup.1
    rw [earlier]
    exact setItem_of_notMem (fun old => nodup.2.2 _ old _ List.mem_cons_self rfl) last.2

theorem map_collectItems (change : α → β) (pairs : List (PyStr × α)) :
    (collectItems pairs).map (Prod.map id change) =
      collectItems (pairs.map (Prod.map id change)) := by
  induction pairs using List.reverseRecOn with
  | nil => rfl
  | append_singleton pairs last ih =>
    rw [collectItems, List.foldl_append, List.map_append, collectItems, List.foldl_append]
    exact (map_setItem change _ last.1 last.2).trans (congrArg (setItem · _ _) ih)

end Items

/-! ## Objects -/

variable {members : List (PyStr × Json)} {allowNan : Bool}

namespace Json

/-- The members of an object read, and sorted by their keys. -/
def sortMembers (members : List (PyStr × Json)) : List (PyStr × Json) :=
  (collectItems members).insertionSort fun first second => first.1 ≤ second.1

theorem mem_sortMembers {member : PyStr × Json} (isMember : member ∈ sortMembers members) :
    member ∈ members :=
  mem_collectItems ((List.mem_insertionSort _).mp isMember)

theorem pairwise_sortMembers (members : List (PyStr × Json)) :
    (sortMembers members).Pairwise fun first second => first.1 < second.1 := by
  have total : Std.Total fun first second : PyStr × Json => first.1 ≤ second.1 :=
    ⟨fun first second => le_total first.1 second.1⟩
  have trans : IsTrans (PyStr × Json) fun first second => first.1 ≤ second.1 :=
    ⟨fun _ _ _ => le_trans⟩
  have ordered := List.pairwise_insertionSort
    (fun first second : PyStr × Json => first.1 ≤ second.1) (collectItems members)
  have nodup : ((sortMembers members).map Prod.fst).Nodup :=
    ((List.perm_insertionSort _ _).map _).nodup_iff.mpr (nodup_keys_collectItems members)
  exact (ordered.and (List.pairwise_map.mp nodup)).imp fun both => lt_of_le_of_ne both.1 both.2

theorem sortMembers_of_pairwise
    (increasing : members.Pairwise fun first second => first.1 < second.1) :
    sortMembers members = members := by
  have nodup : (members.map Prod.fst).Nodup := List.pairwise_map.mpr (increasing.imp ne_of_lt)
  rw [sortMembers, collectItems_of_nodup nodup]
  exact (increasing.imp le_of_lt).insertionSort_eq

mutual

/-- What is written after reading. -/
def sorted : Json → Json
  | list items => list (sortedItems items)
  | object members => object (sortMembers (sortedMembers members))
  | json => json

def sortedItems : List Json → List Json
  | [] => []
  | item :: items => sorted item :: sortedItems items

def sortedMembers : List (PyStr × Json) → List (PyStr × Json)
  | [] => []
  | (key, value) :: members => (key, sorted value) :: sortedMembers members

end

mutual

/-- The keys of every object are strictly increasing. -/
def Canonical : Json → Prop
  | list items => CanonicalItems items
  | object members =>
    (members.Pairwise fun first second => first.1 < second.1) ∧ CanonicalMembers members
  | _ => True

def CanonicalItems : List Json → Prop
  | [] => True
  | item :: items => Canonical item ∧ CanonicalItems items

def CanonicalMembers : List (PyStr × Json) → Prop
  | [] => True
  | (_, value) :: members => Canonical value ∧ CanonicalMembers members

end

/-! ## Items and members one by one -/

theorem joinedItems_eq_map (items : List Json) : joinedItems items = items.map joined := by
  induction items with
  | nil => rfl
  | cons item items ih => rw [joinedItems, ih, List.map_cons]

theorem joinedMembers_eq_map (members : List (PyStr × Json)) :
    joinedMembers members = members.map (Prod.map PyStr.joined joined) := by
  induction members with
  | nil => rfl
  | cons member members ih => rw [joinedMembers, ih, List.map_cons, Prod.map]

theorem sortedItems_eq_map (items : List Json) : sortedItems items = items.map sorted := by
  induction items with
  | nil => rfl
  | cons item items ih => rw [sortedItems, ih, List.map_cons]

theorem sortedMembers_eq_map (members : List (PyStr × Json)) :
    sortedMembers members = members.map (Prod.map id sorted) := by
  induction members with
  | nil => rfl
  | cons member members ih => rw [sortedMembers, ih, List.map_cons, Prod.map, id_eq]

theorem ofJsonItems_eq_map (items : List Json) : ofJsonItems items = items.map ofJson := by
  induction items with
  | nil => rfl
  | cons item items ih => rw [ofJsonItems, ih, List.map_cons]

theorem ofJsonMembers_eq_map (members : List (PyStr × Json)) :
    ofJsonMembers members = members.map (Prod.map id ofJson) := by
  induction members with
  | nil => rfl
  | cons member members ih => rw [ofJsonMembers, ih, List.map_cons, Prod.map, id_eq]

theorem canonicalItems_iff {items : List Json} :
    CanonicalItems items ↔ ∀ item ∈ items, Canonical item := by
  induction items with
  | nil => simp [CanonicalItems]
  | cons item items ih => rw [CanonicalItems, ih, List.forall_mem_cons]

theorem canonicalMembers_iff :
    CanonicalMembers members ↔ ∀ member ∈ members, Canonical member.2 := by
  induction members with
  | nil => simp [CanonicalMembers]
  | cons member members ih => rw [CanonicalMembers, ih, List.forall_mem_cons]

theorem fitsItems_iff {limit : ℕ} {items : List Json} :
    FitsItems allowNan limit items ↔ ∀ item ∈ items, Fits allowNan limit item := by
  induction items with
  | nil => simp [FitsItems]
  | cons item items ih => rw [FitsItems, ih, List.forall_mem_cons]

theorem fitsMembers_iff {limit : ℕ} :
    FitsMembers allowNan limit members ↔ ∀ member ∈ members, Fits allowNan limit member.2 := by
  induction members with
  | nil => simp [FitsMembers]
  | cons member members ih => rw [FitsMembers, ih, List.forall_mem_cons]

/-- A value that holds no others. -/
inductive IsLeaf : Json → Prop where
  | null : IsLeaf .null
  | bool (value : Bool) : IsLeaf (.bool value)
  | int (value : ℤ) : IsLeaf (.int value)
  | float (value : PyFloat) : IsLeaf (.float value)
  | text (points : PyStr) : IsLeaf (.text points)

section Induction

variable {motive : Json → Prop} (leaf : ∀ json, IsLeaf json → motive json)
  (list : ∀ items : List Json, (∀ item ∈ items, motive item) → motive (list items))
  (object : ∀ members : List (PyStr × Json), (∀ member ∈ members, motive member.2) →
    motive (object members))

-- they are used through each other only
set_option linter.unusedSectionVars false
include leaf list object

mutual

theorem induct (json : Json) : motive json := by
  match json with
  | .list items => exact list items (inductItems items)
  | .object members => exact object members (inductMembers members)
  | .null => exact leaf _ .null
  | .bool value => exact leaf _ (.bool value)
  | .int value => exact leaf _ (.int value)
  | .float value => exact leaf _ (.float value)
  | .text points => exact leaf _ (.text points)

theorem inductItems (items : List Json) : ∀ item ∈ items, motive item := by
  match items with
  | [] => exact fun _ member => absurd member List.not_mem_nil
  | item :: items => exact List.forall_mem_cons.mpr ⟨induct item, inductItems items⟩

theorem inductMembers (members : List (PyStr × Json)) :
    ∀ member ∈ members, motive member.2 := by
  match members with
  | [] => exact fun _ member => absurd member List.not_mem_nil
  | (key, value) :: members =>
    exact List.forall_mem_cons.mpr ⟨induct value, inductMembers members⟩

end

end Induction

/-! ## Sorting -/

theorem map_eq_self_iff {α : Type} {change : α → α} {items : List α} :
    items.map change = items ↔ ∀ item ∈ items, change item = item := by
  conv_lhs => rhs; rw [← List.map_id items]
  exact List.map_inj_left

theorem map_members_eq_self_iff {change : PyStr → PyStr} {changeValue : Json → Json} :
    members.map (Prod.map change changeValue) = members ↔
      ∀ member ∈ members, change member.1 = member.1 ∧ changeValue member.2 = member.2 := by
  rw [map_eq_self_iff]
  exact forall₂_congr fun member _ => Prod.ext_iff

theorem IsLeaf.sorted {json : Json} (isLeaf : json.IsLeaf) : json.sorted = json := by
  cases isLeaf <;> rfl

theorem sorted_of_canonical {json : Json} : json.Canonical → json.sorted = json := by
  induction json using induct with
  | leaf json isLeaf => exact fun _ => isLeaf.sorted
  | list items ih =>
    intro canonical
    rw [Canonical, canonicalItems_iff] at canonical
    have same := map_eq_self_iff.mpr fun item isItem => ih item isItem (canonical item isItem)
    rw [sorted, sortedItems_eq_map, same]
  | object members ih =>
    rintro ⟨increasing, canonical⟩
    rw [canonicalMembers_iff] at canonical
    have same : members.map (Prod.map id sorted) = members :=
      map_members_eq_self_iff.mpr fun member isMember =>
        ⟨rfl, ih member isMember (canonical member isMember)⟩
    rw [sorted, sortedMembers_eq_map, same, sortMembers_of_pairwise increasing]

theorem canonical_sorted (json : Json) : json.sorted.Canonical := by
  induction json using induct with
  | leaf json isLeaf =>
    rw [isLeaf.sorted]
    cases isLeaf with
    | _ => trivial
  | list items ih =>
    rw [sorted, sortedItems_eq_map, Canonical, canonicalItems_iff]
    exact List.forall_mem_map.mpr ih
  | object members ih =>
    refine ⟨pairwise_sortMembers _, canonicalMembers_iff.mpr fun member isMember => ?_⟩
    have ofMembers := mem_sortMembers isMember
    rw [sortedMembers_eq_map, List.mem_map] at ofMembers
    rcases ofMembers with ⟨other, isOther, rfl⟩
    exact ih other isOther

theorem joined_sorted {json : Json} : json.joined = json → json.sorted.joined = json.sorted := by
  induction json using induct with
  | leaf json isLeaf =>
    rw [isLeaf.sorted]
    exact id
  | list items ih =>
    intro closed
    rw [joined, joinedItems_eq_map, list.injEq, map_eq_self_iff] at closed
    rw [sorted, joined, joinedItems_eq_map, sortedItems_eq_map, list.injEq, map_eq_self_iff]
    exact List.forall_mem_map.mpr fun item isItem => ih item isItem (closed item isItem)
  | object members ih =>
    intro closed
    rw [joined, joinedMembers_eq_map, object.injEq, map_members_eq_self_iff] at closed
    rw [sorted, joined, joinedMembers_eq_map, object.injEq, map_members_eq_self_iff]
    intro member isMember
    have ofMembers := mem_sortMembers isMember
    rw [sortedMembers_eq_map, List.mem_map] at ofMembers
    rcases ofMembers with ⟨other, isOther, rfl⟩
    exact ⟨(closed other isOther).1, ih other isOther (closed other isOther).2⟩

@[simp]
theorem joined_joined (json : Json) : json.joined.joined = json.joined := by
  induction json using induct with
  | leaf json isLeaf =>
    cases isLeaf with
    | text points => rw [joined, joined, PyStr.joined_joined]
    | _ => rfl
  | list items ih =>
    rw [joined, joined, joinedItems_eq_map, joinedItems_eq_map, list.injEq, map_eq_self_iff]
    exact List.forall_mem_map.mpr ih
  | object members ih =>
    rw [joined, joined, joinedMembers_eq_map, joinedMembers_eq_map, object.injEq,
      map_members_eq_self_iff]
    exact List.forall_mem_map.mpr fun member isMember =>
      ⟨PyStr.joined_joined _, ih member isMember⟩

/-! ## What fits -/

theorem fits_joined {json : Json} :
    ∀ {limit}, Fits allowNan limit json → Fits allowNan limit json.joined := by
  induction json using induct with
  | leaf json isLeaf =>
    cases isLeaf with
    | _ => exact id
  | list items ih =>
    rintro limit ⟨positive, fits⟩
    rw [fitsItems_iff] at fits
    refine ⟨positive, fitsItems_iff.mpr ?_⟩
    rw [joinedItems_eq_map]
    exact List.forall_mem_map.mpr fun item isItem => ih item isItem (fits item isItem)
  | object members ih =>
    rintro limit ⟨positive, fits⟩
    rw [fitsMembers_iff] at fits
    refine ⟨positive, fitsMembers_iff.mpr ?_⟩
    rw [joinedMembers_eq_map]
    exact List.forall_mem_map.mpr fun member isMember =>
      ih member isMember (fits member isMember)

theorem fits_mono {json : Json} : ∀ {limit more}, limit ≤ more → Fits allowNan limit json →
    Fits allowNan more json := by
  induction json using induct with
  | leaf json isLeaf =>
    cases isLeaf with
    | _ => exact fun _ => id
  | list items ih =>
    rintro limit more le ⟨positive, fits⟩
    rw [fitsItems_iff] at fits
    refine ⟨positive.trans_le le, fitsItems_iff.mpr fun item isItem => ?_⟩
    exact ih item isItem (Nat.sub_le_sub_right le 1) (fits item isItem)
  | object members ih =>
    rintro limit more le ⟨positive, fits⟩
    rw [fitsMembers_iff] at fits
    refine ⟨positive.trans_le le, fitsMembers_iff.mpr fun member isMember => ?_⟩
    exact ih member isMember (Nat.sub_le_sub_right le 1) (fits member isMember)

theorem length_renderItems {items : List Json} :
    ∀ item ∈ items, item.render.length < (renderItems items).length := by
  induction items with
  | nil => exact List.forall_mem_nil _
  | cons first items ih =>
    cases items with
    | nil => simp [renderItems]
    | cons second items =>
      rw [renderItems, List.length_append, List.length_cons]
      refine List.forall_mem_cons.mpr ⟨by omega, fun item isItem => ?_⟩
      have := ih item isItem
      omega

theorem length_renderMembers :
    ∀ member ∈ members, member.2.render.length < (renderMembers members).length := by
  induction members with
  | nil => exact List.forall_mem_nil _
  | cons first members ih =>
    cases members with
    | nil =>
      simp only [List.forall_mem_singleton, renderMembers, List.length_append, List.length_cons]
      omega
    | cons second members =>
      simp only [renderMembers, List.length_append, List.length_cons]
      refine List.forall_mem_cons.mpr ⟨by omega, fun member isMember => ?_⟩
      have := ih member isMember
      omega

/-- Every level takes two characters. -/
theorem fits_of_length_render {json : Json} : ∀ {limit depth}, Fits allowNan limit json →
    json.render.length < 2 * depth + 2 → Fits allowNan depth json := by
  induction json using induct with
  | leaf json isLeaf =>
    cases isLeaf with
    | _ => exact fun fits _ => fits
  | list items ih =>
    rintro limit depth ⟨_, fits⟩ short
    rw [render, List.length_cons] at short
    rw [fitsItems_iff] at fits
    have closing : 0 < (renderItems items).length := by
      rcases items with _ | ⟨first, _ | ⟨second, rest⟩⟩ <;> simp [renderItems]
    refine ⟨by omega, fitsItems_iff.mpr fun item isItem => ih item isItem (fits item isItem) ?_⟩
    have := length_renderItems item isItem
    omega
  | object members ih =>
    rintro limit depth ⟨_, fits⟩ short
    rw [render, List.length_cons] at short
    rw [fitsMembers_iff] at fits
    have closing : 0 < (renderMembers members).length := by
      rcases members with _ | ⟨first, _ | ⟨second, rest⟩⟩ <;> simp [renderMembers]
    refine ⟨by omega, fitsMembers_iff.mpr fun member isMember =>
      ih member isMember (fits member isMember) ?_⟩
    have := length_renderMembers member isMember
    omega

theorem fits_sorted {json : Json} :
    ∀ {limit}, Fits allowNan limit json → Fits allowNan limit json.sorted := by
  induction json using induct with
  | leaf json isLeaf =>
    rw [isLeaf.sorted]
    exact id
  | list items ih =>
    rintro limit ⟨positive, fits⟩
    rw [fitsItems_iff] at fits
    refine ⟨positive, fitsItems_iff.mpr ?_⟩
    rw [sortedItems_eq_map]
    exact List.forall_mem_map.mpr fun item isItem => ih item isItem (fits item isItem)
  | object members ih =>
    rintro limit ⟨positive, fits⟩
    rw [fitsMembers_iff] at fits
    refine ⟨positive, fitsMembers_iff.mpr fun member isMember => ?_⟩
    have ofMembers := mem_sortMembers isMember
    rw [sortedMembers_eq_map, List.mem_map] at ofMembers
    rcases ofMembers with ⟨other, isOther, rfl⟩
    exact ih other isOther (fits other isOther)

end Json

/-! ## Writing what was read -/

theorem toJsonItems_ok {allowNan : Bool} {limit : ℕ} {value : Json → PyValue} {json : Json → Json}
    {items : List Json} (each : ∀ item ∈ items,
      toJson allowNan limit (value item) = .ok (json item)) :
    toJsonItems allowNan limit (items.map value) = .ok (items.map json) := by
  induction items with
  | nil => rfl
  | cons item items ih =>
    rw [List.forall_mem_cons] at each
    rw [List.map_cons, toJsonItems, each.1, ih each.2]
    rfl

theorem toJsonValues_eq_map (allowNan : Bool) (limit : ℕ) (items : PyDict) :
    toJsonValues allowNan limit items =
      items.map fun item => (item.1, toJson allowNan limit item.2) := by
  induction items with
  | nil => rfl
  | cons item items ih => rw [toJsonValues, ih, List.map_cons]

/-- String keys are sorted as they are written. -/
theorem toJsonMembers_text (allowNan : Bool) (members : List (PyStr × Json)) :
    toJsonMembers allowNan (members.map fun member => (.text member.1, .ok member.2)) =
      .ok (members.insertionSort fun first second => first.1 ≤ second.1) := by
  rw [toJsonMembers, if_pos]
  · have sorts := List.map_insertionSort (fun first second : PyStr × Json => first.1 ≤ second.1)
      (fun first second : PyValue × Except PyError Json =>
        first.1.sortKey.le second.1.sortKey = true)
      (fun member : PyStr × Json =>
        ((.text member.1, .ok member.2) : PyValue × Except PyError Json))
      members (by simp [PyValue.sortKey, SortKey.le])
    rw [← sorts, List.mapM_map]
    refine (List.mapM_pure (m := Except PyError) (f := id)).trans ?_
    rw [List.map_id]
    rfl
  · exact List.pairwise_map.mpr (List.pairwise_of_forall fun _ _ => rfl)

theorem toJson_ofJson {json : Json} : ∀ {limit}, json.Fits allowNan limit →
    toJson allowNan limit (ofJson json) = .ok json.sorted := by
  induction json using Json.induct with
  | leaf json isLeaf =>
    intro limit fits
    cases isLeaf with
    | int value =>
      have checked : checkInt value = .ok value := if_pos fits
      rw [ofJson, toJson, checked]
      rfl
    | float value =>
      have checked : checkFloat allowNan value = .ok value := if_pos fits
      rw [ofJson, toJson, checked]
      rfl
    | _ => rfl
  | list items ih =>
    rintro limit ⟨positive, fits⟩
    rcases limit with _ | limit
    · exact absurd positive (lt_irrefl 0)
    rw [Json.fitsItems_iff] at fits
    have items := toJsonItems_ok fun item isItem => ih item isItem (fits item isItem)
    rw [Nat.add_sub_cancel] at items
    rw [ofJson, toJson, Json.ofJsonItems_eq_map, items, Json.sorted, Json.sortedItems_eq_map]
    rfl
  | object members ih =>
    rintro limit ⟨positive, fits⟩
    rcases limit with _ | limit
    · exact absurd positive (lt_irrefl 0)
    rw [Json.fitsMembers_iff, Nat.add_sub_cancel] at fits
    have values : toJsonValues allowNan limit
        ((collectItems (ofJsonMembers members)).map fun item => (.text item.1, item.2)) =
        (collectItems (Json.sortedMembers members)).map fun member =>
          (.text member.1, .ok member.2) := by
      rw [toJsonValues_eq_map, Json.ofJsonMembers_eq_map, Json.sortedMembers_eq_map,
        ← map_collectItems, ← map_collectItems, List.map_map, List.map_map, List.map_map]
      refine List.map_congr_left fun member isMember => ?_
      have ofMembers := mem_collectItems isMember
      exact congrArg (Prod.mk _) (ih member ofMembers (fits member ofMembers))
    rw [ofJson, toJson, values, toJsonMembers_text]
    rfl

/-! ## What was written fits -/

theorem exists_of_mapM_ok {α β ε : Type} {convert : α → Except ε β} {items : List α}
    {converted : List β} (mapped : items.mapM convert = .ok converted) :
    ∀ result ∈ converted, ∃ item ∈ items, convert item = .ok result := by
  induction items generalizing converted with
  | nil =>
    cases mapped
    exact fun _ member => absurd member List.not_mem_nil
  | cons item items ih =>
    rw [List.mapM_cons] at mapped
    cases first : convert item with
    | error error => rw [first] at mapped; cases mapped
    | ok result =>
      rw [first] at mapped
      cases rest : items.mapM convert with
      | error error => rw [rest] at mapped; cases mapped
      | ok results =>
        rw [rest] at mapped
        cases mapped
        refine List.forall_mem_cons.mpr ⟨⟨item, List.mem_cons_self, first⟩, ?_⟩
        intro other isOther
        rcases ih rest other isOther with ⟨source, isSource, isResult⟩
        exact ⟨source, List.mem_cons_of_mem _ isSource, isResult⟩

theorem exists_of_toJsonMembers_ok {members : List (PyValue × Except PyError Json)}
    {jsons : List (PyStr × Json)} (written : toJsonMembers allowNan members = .ok jsons) :
    ∀ json ∈ jsons, ∃ member ∈ members, member.2 = .ok json.2 := by
  rw [toJsonMembers] at written
  split at written
  · intro json isJson
    rcases exists_of_mapM_ok written json isJson with ⟨member, isMember, converted⟩
    refine ⟨member, (List.mem_insertionSort _).mp isMember, ?_⟩
    cases key : keyText allowNan member.1 with
    | error error => rw [key] at converted; cases converted
    | ok text =>
      rw [key] at converted
      cases value : member.2 with
      | error error => rw [value] at converted; cases converted
      | ok written => rw [value] at converted; cases converted; rfl
  · cases written

section Written

variable {allowNan : Bool}

mutual

theorem fits_toJson (value : PyValue) {limit : ℕ} {json : Json}
    (written : toJson allowNan limit value = .ok json) : json.Fits allowNan limit := by
  match value with
  | .none => cases written; trivial
  | .bool value => cases written; trivial
  | .text points => cases written; trivial
  | .other => cases written
  | .int value =>
    rw [toJson, checkInt] at written
    split at written
    · cases written
      assumption
    · cases written
  | .float value =>
    rw [toJson, checkFloat] at written
    split at written
    · cases written
      assumption
    · cases written
  | .list items =>
    rcases limit with _ | limit
    · cases written
    rw [toJson] at written
    cases converted : toJsonItems allowNan limit items with
    | error error => rw [converted] at written; cases written
    | ok jsons =>
      rw [converted] at written
      cases written
      exact ⟨Nat.succ_pos limit, fits_toJsonItems items converted⟩
  | .dict items =>
    rcases limit with _ | limit
    · cases written
    rw [toJson] at written
    cases converted : toJsonMembers allowNan (toJsonValues allowNan limit items) with
    | error error => rw [converted] at written; cases written
    | ok jsons =>
      rw [converted] at written
      cases written
      refine ⟨Nat.succ_pos limit, Json.fitsMembers_iff.mpr fun member isMember => ?_⟩
      rcases exists_of_toJsonMembers_ok converted member isMember with ⟨source, isSource, isValue⟩
      exact fits_toJsonValues items source isSource member.2 isValue

theorem fits_toJsonItems (items : List PyValue) {limit : ℕ} {jsons : List Json}
    (written : toJsonItems allowNan limit items = .ok jsons) :
    Json.FitsItems allowNan limit jsons := by
  match items with
  | [] => cases written; trivial
  | item :: items =>
    rw [toJsonItems] at written
    cases first : toJson allowNan limit item with
    | error error => rw [first] at written; cases written
    | ok json =>
      rw [first] at written
      cases rest : toJsonItems allowNan limit items with
      | error error => rw [rest] at written; cases written
      | ok jsons =>
        rw [rest] at written
        cases written
        exact ⟨fits_toJson item first, fits_toJsonItems items rest⟩

theorem fits_toJsonValues (items : List (PyValue × PyValue)) {limit : ℕ} :
    ∀ source ∈ toJsonValues allowNan limit items, ∀ json, source.2 = .ok json →
      json.Fits allowNan limit := by
  match items with
  | [] => exact fun _ member => absurd member List.not_mem_nil
  | (key, value) :: items =>
    refine List.forall_mem_cons.mpr ⟨fun json written => fits_toJson value written, ?_⟩
    exact fits_toJsonValues items

end

end Written

/-! ## Reading and writing again -/

section Again

variable {allowNan : Bool} {limit : ℕ} {json : Json} (fits : json.Fits allowNan limit)

include fits

theorem loads_render : loads limit (String.ofList json.render) = .ok (ofJson json.joined) := by
  rw [loads, String.toList_ofList, Json.parse_render fits]

theorem dumps_ofJson_joined :
    dumps allowNan limit (ofJson json.joined) = .ok (String.ofList json.joined.sorted.render) := by
  rw [dumps, toJson_ofJson (Json.fits_joined fits)]
  rfl

/-- What is written after reading is the text that was read exactly when that was canonical. -/
theorem render_sorted_eq_iff_canonical :
    json.joined.sorted.render = json.render ↔ json.joined.Canonical := by
  constructor
  · intro same
    have sortedFits := Json.fits_sorted (Json.fits_joined fits)
    have read := Json.joined_eq_of_render_eq sortedFits fits same
    rw [Json.joined_sorted (Json.joined_joined json)] at read
    rw [← read]
    exact Json.canonical_sorted json.joined
  · intro canonical
    rw [Json.sorted_of_canonical canonical, Json.render_joined]

end Again

end Reperio.Python
