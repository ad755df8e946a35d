import Reperio.Python.JsonSoundness
import Reperio.Python.KeyOrder

/-!
# Strings that were read

`json.loads` joins surrogates that form a pair, so that in what it returns there
is no such pair left, and writing and reading it again changes no string
(`joinedText_of_loads`).
-/

namespace Reperio.Python

/-! ## Joining surrogates -/

theorem joinSurrogates_cons_of_not_low {high point : CodePoint}
    (notLow : isLowSurrogate point = false)
    (rest : PyStr) : joinSurrogates (high :: point :: rest) = high ::
      joinSurrogates (point :: rest) := by
  rw [joinSurrogates, notLow, Bool.and_false, if_neg Bool.false_ne_true]

/-- A character that is no low surrogate does not begin with one. -/
theorem exists_unitsOf_cons {point : CodePoint} (notLow : isLowSurrogate point = false) :
    ∃ first rest, unitsOf point = first :: rest ∧ isLowSurrogate first = false := by
  have bound := point.isLt
  by_cases small : point.val < 65536
  · exact ⟨point, [], unitsOf_of_small small, notLow⟩
  · refine ⟨_, _, if_neg small, ?_⟩
    have high : (Fin.ofNat 0x110000 (55296 + (point.val - 65536) / 1024)).val =
        55296 + (point.val - 65536) / 1024 := Nat.mod_eq_of_lt (by omega)
    rw [isLowSurrogate, high, Bool.and_eq_false_iff, decide_eq_false_iff_not,
      decide_eq_false_iff_not]
    omega

theorem joinSurrogates_flatMap_unitsOf (units : PyStr) :
    joinSurrogates (units.flatMap unitsOf) = joinSurrogates units := by
  fun_induction joinSurrogates units with
  | case1 high low rest pair ih =>
    have isPair := pair
    simp only [isHighSurrogate, isLowSurrogate, Bool.and_eq_true, decide_eq_true_eq] at isPair
    rw [List.flatMap_cons, List.flatMap_cons, unitsOf_of_small (by omega),
      unitsOf_of_small (by omega),
      List.singleton_append, List.singleton_append, joinSurrogates, if_pos pair, ih]
  | case2 high low rest notPair ih =>
    by_cases isHigh : isHighSurrogate high = true
    · have notLow : isLowSurrogate low = false := by simpa [isHigh] using notPair
      have small : high.val < 65536 := by
        simp only [isHighSurrogate, Bool.and_eq_true, decide_eq_true_eq] at isHigh
        omega
      obtain ⟨first, others, isUnits, firstNotLow⟩ := exists_unitsOf_cons notLow
      rw [List.flatMap_cons] at ih
      rw [List.flatMap_cons, List.flatMap_cons, unitsOf_of_small small, List.singleton_append]
      rw [isUnits, List.cons_append] at ih ⊢
      rw [joinSurrogates_cons_of_not_low firstNotLow, ih]
    · rw [List.flatMap_cons, joinSurrogates_unitsOf (Bool.eq_false_iff.mpr isHigh), ih]
  | case3 points single =>
    rcases points with _ | ⟨point, _ | ⟨other, rest⟩⟩
    · rfl
    · by_cases isHigh : isHighSurrogate point = true
      · have small : point.val < 65536 := by
          simp only [isHighSurrogate, Bool.and_eq_true, decide_eq_true_eq] at isHigh
          omega
        rw [List.flatMap_singleton, unitsOf_of_small small]
        rfl
      · rw [List.flatMap_cons, joinSurrogates_unitsOf (Bool.eq_false_iff.mpr isHigh)]
        rfl
    · exact absurd rfl (single point other rest)

theorem joined_joinSurrogates (units : PyStr) :
    PyStr.joined (joinSurrogates units) = joinSurrogates units := by
  rw [← joinSurrogates_flatMap_unitsOf units]
  exact PyStr.joined_joined units

/-! ## Values -/

variable {limit : ℕ} {chars rest : List Char}

/-- No pair of surrogates is left in what is read. -/
def Form.Joined : Form → Prop
  | .value json => json.joined = json
  | .items jsons => Json.joinedItems jsons = jsons
  | .members pairs => Json.joinedMembers pairs = pairs

theorem Spells.joined {form : Form} (spells : Spells form chars rest) : form.Joined := by
  induction spells with
  | literal isLiteral =>
    simp only [literals, List.mem_cons, Prod.mk.injEq, List.not_mem_nil, or_false] at isLiteral
    rcases isLiteral with ⟨_, rfl⟩ | ⟨_, rfl⟩ | ⟨_, rfl⟩ | ⟨_, rfl⟩ | ⟨_, rfl⟩ | ⟨_, rfl⟩ <;>
      exact (rfl : Json.joined _ = _)
  | number spells => cases spells <;> exact (rfl : Json.joined _ = _)
  | text _ => exact congrArg Json.text (joined_joinSurrogates _)
  | emptyList _ | emptyObject _ => exact (rfl : Json.joined _ = _)
  | list _ _ ih => exact congrArg Json.list ih
  | object _ _ ih => exact congrArg Json.object ih
  | lastItem _ _ ih => exact congrArg (fun item => [item]) ih
  | nextItem _ _ _ ih ihMore => exact congrArg₂ List.cons ih ihMore
  | lastMember _ _ _ ih =>
    rw [Form.Joined, Json.joinedMembers, joined_joinSurrogates, ih, Json.joinedMembers]
  | nextMember _ _ _ _ ih ihMore =>
    rw [Form.Joined, Json.joinedMembers, joined_joinSurrogates, ih, ihMore]

theorem Json.joined_of_parse {json : Json} (read : Json.parse limit chars = .ok json) :
    json.joined = json := by
  rcases (Json.parse_eq_ok_iff.mp read).1 with ⟨_, _, _, _, _, _, spells⟩
  exact spells.joined

/-! ## Dictionaries -/

theorem Json.everywhere_ofJson {json : Json} (joined : json.joined = json) :
    (ofJson json).Everywhere PyValue.JoinedText := by
  induction json using Json.induct with
  | leaf json isLeaf =>
    cases isLeaf with
    | text points => exact Json.text.inj joined
    | _ => trivial
  | list items ih =>
    rw [Json.joined, Json.joinedItems_eq_map, Json.list.injEq, Json.map_eq_self_iff] at joined
    rw [ofJson, Json.ofJsonItems_eq_map, PyValue.everywhere_list_iff, List.forall_mem_map]
    exact ⟨trivial, fun item isItem => ih item isItem (joined item isItem)⟩
  | object members ih =>
    rw [Json.joined, Json.joinedMembers_eq_map, Json.object.injEq, Json.map_members_eq_self_iff]
      at joined
    rw [ofJson, Json.ofJsonMembers_eq_map, PyValue.everywhere_dict_iff, List.forall_mem_map]
    refine ⟨trivial, fun item isItem => ?_⟩
    obtain ⟨member, isMember, rfl⟩ := List.mem_map.mp (mem_collectItems isItem)
    exact ⟨(joined member isMember).1, ih member isMember (joined member isMember).2⟩

/-- The keys of what is read are strings that differ. -/
theorem Json.everywhere_keys_ofJson (json : Json) :
    (ofJson json).Everywhere PyValue.TextKeys ∧ (ofJson json).Everywhere PyValue.DistinctKeys := by
  induction json using Json.induct with
  | leaf json isLeaf =>
    cases isLeaf with
    | _ => exact ⟨trivial, trivial⟩
  | list items ih =>
    rw [ofJson, Json.ofJsonItems_eq_map, PyValue.everywhere_list_iff, PyValue.everywhere_list_iff,
      List.forall_mem_map, List.forall_mem_map]
    exact ⟨⟨trivial, fun item isItem => (ih item isItem).1⟩,
      trivial, fun item isItem => (ih item isItem).2⟩
  | object members ih =>
    rw [ofJson, Json.ofJsonMembers_eq_map, PyValue.everywhere_dict_iff, PyValue.everywhere_dict_iff,
      List.forall_mem_map, List.forall_mem_map]
    have inside : ∀ item ∈ collectItems (members.map (Prod.map id ofJson)),
        item.2.Everywhere PyValue.TextKeys ∧ item.2.Everywhere PyValue.DistinctKeys := by
      intro item isItem
      obtain ⟨member, isMember, rfl⟩ := List.mem_map.mp (mem_collectItems isItem)
      exact ih member isMember
    refine ⟨⟨?_, fun item isItem => ⟨trivial, (inside item isItem).1⟩⟩,
      ?_, fun item isItem => ⟨trivial, (inside item isItem).2⟩⟩
    · exact List.forall_mem_map.mpr fun item _ => ⟨item.1, rfl⟩
    · rw [PyValue.DistinctKeys, List.map_map]
      have keys := (nodup_keys_collectItems (members.map (Prod.map id ofJson))).map
        (f := PyValue.text) fun first second same => PyValue.text.inj same
      rwa [List.map_map] at keys

/-- No string of what is read changes when it is written and read again. -/
theorem joinedText_of_loads {text : String} {value : PyValue}
    (read : loads limit text = .ok value) : value.Everywhere PyValue.JoinedText := by
  unfold loads at read
  split at read
  · rename_i json isJson
    cases read
    exact Json.everywhere_ofJson (Json.joined_of_parse isJson)
  · cases read

theorem keys_of_loads {text : String} {value : PyValue} (read : loads limit text = .ok value) :
    value.Everywhere PyValue.TextKeys ∧ value.Everywhere PyValue.DistinctKeys := by
  unfold loads at read
  split at read
  · rename_i json isJson
    cases read
    exact Json.everywhere_keys_ofJson json
  · cases read

theorem PyDict.mem_of_get? {items : PyDict} {name : String} {value : PyValue}
    (found : items.get? name = some value) : (.str name, value) ∈ items := by
  fun_induction PyDict.get? items name with
  | case1 => cases found
  | case2 =>
    cases found
    exact List.mem_cons_self
  | case3 =>
    rename_i ih
    exact List.mem_cons_of_mem _ (ih found)
  | case4 =>
    rename_i ih
    exact List.mem_cons_of_mem _ (ih found)

theorem PyDict.everywhere_get {holds : PyValue → Prop} {items : PyDict} {name : String}
    (none : holds .none) (every : (PyValue.dict items).Everywhere holds) :
    (items.get name).Everywhere holds := by
  unfold PyDict.get
  cases found : items.get? name with
  | none => exact none
  | some value =>
    exact ((PyValue.everywhere_dict_iff.mp every).2 _ (PyDict.mem_of_get? found)).2

end Reperio.Python
