import Reperio.Api.Review
import Reperio.Concurrency.Serializability

/-!
# Review statements that conflict

Two statements of review requests conflict when one writes a status that the
other reads or writes, or an action that the other inserts, writes or selects.
All other pairs commute, up to the order in which rows are stored, which no
statement can see.

Whether an action belongs to a group is read from its note. `groups` says so for
every identifier of an action, and is right of a catalog as long as no
statement writes a note that says otherwise.
-/

namespace Reperio.Review

open Concurrency Python Catalog Relational ReviewStatement

/-- The same rows, stored in any order. -/
structure SameRows (first second : ReviewCatalog) : Prop where
  findings : first.findings.rows.Perm second.findings.rows
  evidence : first.evidence = second.evidence
  reviewActions : first.reviewActions.rows.Perm second.reviewActions.rows

variable {first second : ReviewCatalog} {note groupId : String} {params : FindingQueryParams}
    {findingId other otherId : String} {state : ReviewCatalog}

namespace SameRows

theorem refl (catalog : ReviewCatalog) : SameRows catalog catalog := ⟨.refl _, rfl, .refl _⟩

theorem symm (same : SameRows first second) : SameRows second first :=
  ⟨same.findings.symm, same.evidence.symm, same.reviewActions.symm⟩

theorem trans {third : ReviewCatalog} (same : SameRows first second)
    (more : SameRows second third) : SameRows first third :=
  ⟨same.findings.trans more.findings, same.evidence.trans more.evidence,
    same.reviewActions.trans more.reviewActions⟩

end SameRows

/-- For each identifier of an action and of a group, whether the one belongs to the other. -/
abbrev Groups := String → String → Option Bool

/-- `groups` is right of the stored actions. -/
def Grouped (sql : SqlFunctions) (groups : Groups) (catalog : ReviewCatalog) : Prop :=
  ∀ row ∈ catalog.reviewActions.rows, ∀ groupId,
    inGroup sql groupId row = groups row.reviewActionId groupId

/-- An action with this note, in this group. -/
def noteInGroup (sql : SqlFunctions) (reviewActionId note groupId : String) : Option Bool :=
  if reviewActionId = groupId then some true
  else sql.jsonExtractEq note "$.group_id" (.text groupId)

/-- A note that is written says what `groups` says. -/
def KeepsGroups (sql : SqlFunctions) (groups : Groups) : ReviewStatement → Prop
  | insertAction reviewActionId _ _ _ note =>
    ∀ groupId, noteInGroup sql reviewActionId note groupId = groups reviewActionId groupId
  | updateNote note reviewActionId =>
    ∀ groupId, noteInGroup sql reviewActionId note groupId = groups reviewActionId groupId
  | _ => True

def Conflict (groups : Groups) : ReviewStatement → ReviewStatement → Prop
  | targetIds params, updateStatus _ _ => params.status ≠ none
  | updateStatus _ _, targetIds params => params.status ≠ none
  | statuses findingIds, updateStatus _ findingId => findingId ∈ findingIds
  | updateStatus _ findingId, statuses findingIds => findingId ∈ findingIds
  | updateStatus status findingId, updateStatus other otherId =>
    findingId = otherId ∧ status ≠ other
  | selectGroup groupId, insertAction reviewActionId _ _ _ _ =>
    groups reviewActionId groupId ≠ some false
  | insertAction reviewActionId _ _ _ _, selectGroup groupId =>
    groups reviewActionId groupId ≠ some false
  | selectGroup groupId, updateNote _ reviewActionId => groups reviewActionId groupId ≠ some false
  | updateNote _ reviewActionId, selectGroup groupId => groups reviewActionId groupId ≠ some false
  | insertAction reviewActionId _ _ _ _, insertAction otherId _ _ _ _ => reviewActionId = otherId
  | insertAction reviewActionId _ _ _ _, updateNote _ otherId => reviewActionId = otherId
  | updateNote _ otherId, insertAction reviewActionId _ _ _ _ => reviewActionId = otherId
  | updateNote note reviewActionId, updateNote other otherId =>
    reviewActionId = otherId ∧ note ≠ other
  | _, _ => False

instance (groups : Groups) : DecidableRel (Conflict groups) := fun query other => by
  cases query <;> cases other <;> unfold Conflict <;> infer_instance

section Statements

variable {sql : SqlFunctions} {now : ReviewStatement → DateTime} {groups : Groups}
  {catalog : ReviewCatalog}

/-! ## Rows in any order -/

theorem selectWhere_congr {Row : Type} (condition : Row → Option Bool) {rows other : List Row}
    (perm : rows.Perm other) :
    (selectWhere condition rows = none ∧ selectWhere condition other = none) ∨
      ∃ selected otherSelected, selectWhere condition rows = some selected ∧
        selectWhere condition other = some otherSelected ∧ selected.Perm otherSelected ∧
        ∀ row ∈ selected, row ∈ rows := by
  have same : (rows.all fun row => (condition row).isSome) =
      other.all fun row => (condition row).isSome := by
    rw [Bool.eq_iff_iff, List.all_eq_true, List.all_eq_true]
    exact forall_congr' fun row => imp_congr_left perm.mem_iff
  unfold selectWhere
  rw [← same]
  split
  · exact Or.inr ⟨_, _, rfl, rfl, perm.filter _, fun row member => List.mem_of_mem_filter member⟩
  · exact Or.inl ⟨rfl, rfl⟩

theorem findingOrder_injective {findings : Table findingsSchema} {first second : Finding}
    (firstMember : first ∈ findings.rows) (secondMember : second ∈ findings.rows)
    (same : findingOrder first = findingOrder second) : first = second :=
  findings.eq_of_key_eq firstMember secondMember (congrArg (fun order => (ofLex order).2) same)

theorem perform_targetIds_congr (same : SameRows first second) (params : FindingQueryParams) :
    (perform sql now (targetIds params) first).2 =
      (perform sql now (targetIds params) second).2 := by
  simp only [perform]
  rw [← same.evidence]
  rcases selectWhere_congr (findingWhere sql first.evidence params) same.findings with
    ⟨isNone, otherNone⟩ | ⟨selected, others, isSome, otherSome, perm, within⟩
  · rw [isNone, otherNone]
  · rw [isSome, otherSome]
    dsimp only
    rw [orderBy_congr findingOrder perm fun row member other otherMember =>
      findingOrder_injective (within row member) (within other otherMember)]

theorem perform_statuses_congr (same : SameRows first second) (findingIds : List String) :
    (perform sql now (statuses findingIds) first).2 =
      (perform sql now (statuses findingIds) second).2 := by
  have ordered := orderBy_congr Finding.findingId
    (same.findings.filter fun row => decide (row.findingId ∈ findingIds))
    fun row member other otherMember sameId => first.findings.eq_of_key_eq
      (List.mem_of_mem_filter member) (List.mem_of_mem_filter otherMember) sameId
  simp only [perform]
  split
  · rfl
  · rw [ordered]

theorem perform_selectGroup_congr (same : SameRows first second) (groupId : String) :
    (perform sql now (selectGroup groupId) first).2 =
      (perform sql now (selectGroup groupId) second).2 := by
  simp only [perform]
  rcases selectWhere_congr (inGroup sql groupId) same.reviewActions with
    ⟨isNone, otherNone⟩ | ⟨selected, others, isSome, otherSome, perm, within⟩
  · rw [isNone, otherNone]
  · rw [isSome, otherSome]
    dsimp only
    rw [orderBy_congr ReviewAction.reviewActionId perm fun row member other otherMember sameId =>
      first.reviewActions.eq_of_key_eq (within row member) (within other otherMember) sameId]

/-- What a statement replies and does depends on the rows only. -/
theorem perform_congr (same : SameRows first second) (query : ReviewStatement) :
    (perform sql now query first).2 = (perform sql now query second).2 ∧
      SameRows (perform sql now query first).1 (perform sql now query second).1 := by
  cases query with
  | targetIds params =>
    rw [perform_targetIds_fst, perform_targetIds_fst]
    exact ⟨perform_targetIds_congr same params, same⟩
  | statuses findingIds =>
    rw [perform_statuses_fst, perform_statuses_fst]
    exact ⟨perform_statuses_congr same findingIds, same⟩
  | selectGroup groupId =>
    rw [perform_selectGroup_fst, perform_selectGroup_fst]
    exact ⟨perform_selectGroup_congr same groupId, same⟩
  | updateStatus status findingId =>
    have sameLookup := congrArg Option.isSome (Table.lookup_congr same.findings findingId)
    rcases perform_updateStatus sql now status findingId first with
      ⟨performed, unknown, found⟩ | ⟨findings, performed, rows, missing⟩ <;>
    rcases perform_updateStatus sql now status findingId second with
      ⟨other, otherUnknown, otherFound⟩ | ⟨otherFindings, other, otherRows, otherMissing⟩ <;>
    rw [performed, other]
    · exact ⟨rfl, same⟩
    · rw [sameLookup, otherMissing unknown] at found
      cases found
    · rw [← sameLookup, missing otherUnknown] at otherFound
      cases otherFound
    · refine ⟨rfl, ?_, same.evidence, same.reviewActions⟩
      rw [rows, otherRows]
      exact same.findings.map _
  | insertAction reviewActionId findingId action actor note =>
    have sameLookup := congrArg Option.isSome (Table.lookup_congr same.findings findingId)
    have sameFresh : (∀ row ∈ first.reviewActions.rows, row.reviewActionId ≠ reviewActionId) ↔
        ∀ row ∈ second.reviewActions.rows, row.reviewActionId ≠ reviewActionId :=
      forall_congr' fun row => imp_congr_left same.reviewActions.mem_iff
    rcases perform_insertAction sql now reviewActionId findingId action actor note first with
      ⟨performed, refused⟩ | ⟨reviewActions, performed, rows, found, fresh⟩ <;>
    rcases perform_insertAction sql now reviewActionId findingId action actor note second with
      ⟨other, otherRefused⟩ | ⟨otherActions, other, otherRows, otherFound, otherFresh⟩ <;>
    rw [performed, other]
    · exact ⟨rfl, same⟩
    · exact absurd ⟨sameLookup.trans otherFound, sameFresh.mpr otherFresh⟩ refused
    · exact absurd ⟨sameLookup.symm.trans found, sameFresh.mp fresh⟩ otherRefused
    · refine ⟨rfl, same.findings, same.evidence, ?_⟩
      rw [rows, otherRows]
      exact same.reviewActions.append_right _
  | updateNote note reviewActionId =>
    rcases perform_updateNote sql now note reviewActionId first with
      ⟨reviewActions, performed, rows⟩
    rcases perform_updateNote sql now note reviewActionId second with
      ⟨otherActions, other, otherRows⟩
    rw [performed, other]
    refine ⟨rfl, same.findings, same.evidence, ?_⟩
    rw [rows, otherRows]
    exact same.reviewActions.map _

theorem indistinguishable : Indistinguishable (perform sql now) SameRows where
  refl := SameRows.refl
  trans := fun _ _ _ => SameRows.trans
  reply := fun query _ _ same => (perform_congr same query).1
  state := fun query _ _ same => (perform_congr same query).2

/-! ## Statements that commute -/

theorem inGroup_of_note (row : ReviewAction) (isNote : row.note = some note) :
    inGroup sql groupId row = noteInGroup sql row.reviewActionId note groupId := by
  unfold inGroup noteInGroup
  rw [isNote]

theorem grouped_perform (query : ReviewStatement) (state : ReviewCatalog)
    (keeps : KeepsGroups sql groups query) (grouped : Grouped sql groups state) :
    Grouped sql groups (perform sql now query state).1 := by
  cases query with
  | targetIds params => exact (perform_targetIds_fst params).symm ▸ grouped
  | statuses findingIds => exact (perform_statuses_fst findingIds).symm ▸ grouped
  | selectGroup groupId => exact (perform_selectGroup_fst groupId).symm ▸ grouped
  | updateStatus status findingId =>
    rcases perform_updateStatus sql now status findingId state with
      ⟨performed, _⟩ | ⟨_, performed, _⟩ <;> rw [performed] <;> exact grouped
  | insertAction reviewActionId findingId action actor note =>
    rcases perform_insertAction sql now reviewActionId findingId action actor note state with
      ⟨performed, _⟩ | ⟨reviewActions, performed, rows, _⟩ <;> rw [performed]
    · exact grouped
    · intro row member groupId
      dsimp only at member
      rw [rows] at member
      rcases List.mem_append.mp member with isOld | isNew
      · exact grouped row isOld groupId
      · obtain rfl := List.mem_singleton.mp isNew
        exact (inGroup_of_note _ rfl).trans (keeps groupId)
  | updateNote note reviewActionId =>
    rcases perform_updateNote sql now note reviewActionId
      state with ⟨reviewActions, performed, rows⟩
    rw [performed]
    intro row member groupId
    dsimp only at member
    rw [rows] at member
    rcases List.mem_map.mp member with ⟨old, oldMember, rfl⟩
    rw [withNote_reviewActionId]
    by_cases same : old.reviewActionId = reviewActionId
    · rw [withNote, if_pos same, inGroup_of_note _ rfl, same]
      exact keeps groupId
    · rw [withNote, if_neg same]
      exact grouped old oldMember groupId

theorem selectWhere_map {Row : Type} {condition : Row → Option Bool} {change : Row → Row}
    {rows : List Row} (kept : ∀ row ∈ rows, condition (change row) = condition row) :
    selectWhere condition (rows.map change) =
      (selectWhere condition rows).map (List.map change) := by
  have sameAll : ((rows.map change).all fun row => (condition row).isSome) =
      rows.all fun row => (condition row).isSome := by
    rw [List.all_map, Bool.eq_iff_iff, List.all_eq_true, List.all_eq_true]
    exact forall₂_congr fun row member => by rw [Function.comp_apply, kept row member]
  have sameFilter : (rows.map change).filter (fun row => decide (condition row = some true)) =
      (rows.filter fun row => decide (condition row = some true)).map change := by
    rw [List.filter_map]
    exact congrArg _ (List.filter_congr fun row member => by
      rw [Function.comp_apply, kept row member])
  unfold selectWhere
  rw [sameAll, sameFilter]
  split <;> rfl

section Reads

variable (state : ReviewCatalog)

theorem restate_findingOrder (status findingId : String) (row : Finding) :
    findingOrder (withStatus status findingId row) = findingOrder row := by
  unfold findingOrder withStatus
  split
  · split <;> rfl
  · rfl

/-- A filter that does not ask for the status does not see it. -/
theorem findingWhere_withStatus (noStatus : params.status = none) (evidence : List Evidence)
    (status findingId : String) (row : Finding) :
    findingWhere sql evidence params (withStatus status findingId row) =
      findingWhere sql evidence params row := by
  unfold withStatus
  split
  · split
    · simp only [findingWhere, systemNoiseAllowed, noStatus, columnMatches]
    · rfl
  · rfl

theorem targetIds_updateStatus (noStatus : params.status = none) (status findingId : String) :
    (perform sql now (targetIds params)
        (perform sql now (updateStatus status findingId) state).1).2 =
      (perform sql now (targetIds params) state).2 := by
  rw [perform_updateStatus_eq]
  split
  · rfl
  · simp only [perform, restate]
    rw [selectWhere_map fun row _ => findingWhere_withStatus noStatus _ status findingId row]
    cases selectWhere (findingWhere sql state.evidence params) state.findings.rows with
    | none => rfl
    | some rows =>
      simp only [Option.map_some]
      rw [orderBy_map (restate_findingOrder status findingId), List.map_map]
      congr 2
      exact funext (withStatus_findingId status findingId)

theorem statuses_updateStatus {findingIds : List String} (outside : findingId ∉ findingIds)
    (status : String) :
    (perform sql now (statuses findingIds)
        (perform sql now (updateStatus status findingId) state).1).2 =
      (perform sql now (statuses findingIds) state).2 := by
  have kept : (state.findings.rows.map (withStatus status findingId)).filter
      (fun row => decide (row.findingId ∈ findingIds)) =
      state.findings.rows.filter fun row => decide (row.findingId ∈ findingIds) := by
    rw [List.filter_map]
    have sameCondition : (fun row : Finding => decide (row.findingId ∈ findingIds)) ∘
        withStatus status findingId = fun row => decide (row.findingId ∈ findingIds) := by
      funext row
      rw [Function.comp_apply, withStatus_findingId]
    rw [sameCondition, Json.map_eq_self_iff]
    intro row member
    have inside : row.findingId ∈ findingIds := by simpa using List.of_mem_filter member
    rw [withStatus, if_neg]
    rintro rfl
    exact outside inside
  rw [perform_updateStatus_eq]
  split
  · rfl
  · simp only [perform, restate, kept]
    split <;> rfl

theorem selectGroup_insertAction {reviewActionId : String}
    (keeps : ∀ groupId, noteInGroup sql reviewActionId note groupId = groups reviewActionId groupId)
    (outside : groups reviewActionId groupId = some false) (findingId : String)
    (action : ReviewActionKind) (actor : String) :
    (perform sql now (selectGroup groupId)
        (perform sql now (insertAction reviewActionId findingId action actor note) state).1).2 =
      (perform sql now (selectGroup groupId) state).2 := by
  rcases perform_insertAction sql now reviewActionId findingId action actor note state with
    ⟨performed, _⟩ | ⟨reviewActions, performed, rows, _⟩ <;> rw [performed]
  have notSelected : inGroup sql groupId
      (actionRow now reviewActionId findingId action actor note) = some false :=
    (inGroup_of_note _ rfl).trans ((keeps groupId).trans outside)
  have sameRows : selectWhere (inGroup sql groupId) reviewActions.rows =
      selectWhere (inGroup sql groupId) state.reviewActions.rows := by
    unfold selectWhere
    rw [rows, List.all_append, List.filter_append]
    simp [notSelected]
  simp only [perform, sameRows]
  split <;> rfl

theorem selectGroup_updateNote {reviewActionId : String} (grouped : Grouped sql groups state)
    (keeps : ∀ groupId, noteInGroup sql reviewActionId note groupId = groups reviewActionId groupId)
    (outside : groups reviewActionId groupId = some false) :
    (perform sql now (selectGroup groupId)
        (perform sql now (updateNote note reviewActionId) state).1).2 =
      (perform sql now (selectGroup groupId) state).2 := by
  have sameGroup : ∀ row ∈ state.reviewActions.rows,
      inGroup sql groupId (withNote note reviewActionId row) = inGroup sql groupId row := by
    intro row member
    unfold withNote
    split
    · rename_i same
      rw [grouped row member, inGroup_of_note _ rfl, same]
      exact keeps groupId
    · rfl
  have sameRows : selectWhere (inGroup sql groupId)
      (state.reviewActions.rows.map (withNote note reviewActionId)) =
      selectWhere (inGroup sql groupId) state.reviewActions.rows := by
    rw [selectWhere_map sameGroup]
    unfold selectWhere
    split
    · rw [Option.map_some, Option.some.injEq, Json.map_eq_self_iff]
      intro row member
      have selected : inGroup sql groupId row = some true := by
        simpa using List.of_mem_filter member
      rw [grouped row (List.mem_of_mem_filter member)] at selected
      rw [withNote, if_neg]
      rintro rfl
      rw [outside] at selected
      cases selected
    · rfl
  rw [perform_updateNote_eq]
  simp only [perform, renote, sameRows]
  split <;> rfl

end Reads

section Writes

@[simp]
theorem lookup_restate_isSome (status findingId key : String) (findings : Table findingsSchema) :
    ((restate status findingId findings).lookup key).isSome = (findings.lookup key).isSome := by
  rw [Bool.eq_iff_iff, Table.lookup_isSome_iff, Table.lookup_isSome_iff]
  simp only [restate, findingsSchema, List.mem_map]
  constructor
  · rintro ⟨_, ⟨row, member, rfl⟩, isKey⟩
    exact ⟨row, member, by rw [← withStatus_findingId status findingId row, isKey]⟩
  · rintro ⟨row, member, isKey⟩
    exact ⟨_, ⟨row, member, rfl⟩, by rw [withStatus_findingId, isKey]⟩

theorem withStatus_comm {status : String} (apart : findingId = otherId → status = other)
    (row : Finding) :
    withStatus status findingId (withStatus other otherId row) =
      withStatus other otherId (withStatus status findingId row) := by
  by_cases same : findingId = otherId
  · rw [apart same, same]
  · unfold withStatus
    by_cases isFirst : row.findingId = findingId <;> by_cases isSecond : row.findingId = otherId
    · exact absurd (isFirst.symm.trans isSecond) same
    · cases FindingStatus.ofText? status <;> simp [isFirst, same]
    · cases FindingStatus.ofText? other <;> simp [isSecond, Ne.symm same]
    · simp [isFirst, isSecond]

theorem restate_comm {status : String} (apart : findingId = otherId → status = other)
    (findings : Table findingsSchema) :
    restate status findingId (restate other otherId findings) =
      restate other otherId (restate status findingId findings) := by
  apply Table.ext
  simp only [restate, List.map_map]
  exact List.map_congr_left fun row _ => withStatus_comm apart row

theorem withNote_comm {reviewActionId : String} (apart : reviewActionId = otherId → note = other)
    (row : ReviewAction) :
    withNote note reviewActionId (withNote other otherId row) =
      withNote other otherId (withNote note reviewActionId row) := by
  by_cases same : reviewActionId = otherId
  · rw [apart same, same]
  · unfold withNote
    by_cases isFirst : row.reviewActionId = reviewActionId <;>
      by_cases isSecond : row.reviewActionId = otherId
    · exact absurd (isFirst.symm.trans isSecond) same
    · simp [isFirst, same]
    · simp [isSecond, Ne.symm same]
    · simp [isFirst, isSecond]

theorem commutes_updateStatus {status : String} (apart : findingId = otherId → status = other) :
    Commutes (perform sql now) SameRows (Grouped sql groups) (updateStatus status findingId)
      (updateStatus other otherId) := by
  intro state _
  simp only [perform_updateStatus_eq]
  by_cases refused : FindingStatus.ofText? status = none ∧
    (state.findings.lookup findingId).isSome = true <;>
  by_cases otherRefused : FindingStatus.ofText? other = none ∧
    (state.findings.lookup otherId).isSome = true <;>
  simp only [refused, otherRefused, and_self, if_true, if_false, lookup_restate_isSome]
  · exact ⟨trivial, trivial, .refl _⟩
  · exact ⟨trivial, trivial, .refl _⟩
  · exact ⟨trivial, trivial, .refl _⟩
  · rw [restate_comm apart]
    exact ⟨trivial, trivial, .refl _⟩

theorem commutes_updateNote {reviewActionId : String}
    (apart : reviewActionId = otherId → note = other) :
    Commutes (perform sql now) SameRows (Grouped sql groups) (updateNote note reviewActionId)
      (updateNote other otherId) := by
  intro state _
  have swapped : withNote note reviewActionId ∘ withNote other otherId =
      withNote other otherId ∘ withNote note reviewActionId := funext (withNote_comm apart)
  simp only [perform_updateNote_eq]
  refine ⟨trivial, trivial, .refl _, rfl, ?_⟩
  simp only [renote, List.map_map]
  rw [swapped]

theorem commutes_updateStatus_updateNote (status findingId note reviewActionId : String) :
    Commutes (perform sql now) SameRows (Grouped sql groups) (updateStatus status findingId)
      (updateNote note reviewActionId) := by
  intro state _
  simp only [perform_updateNote_eq, perform_updateStatus_eq]
  split <;> exact ⟨rfl, trivial, .refl _⟩

/-- A change of a status does not matter to what an insertion asks for. -/
theorem accepts_restate_iff {status reviewActionId target : String} : Accepts reviewActionId target
        { state with findings := restate status findingId state.findings } ↔
      Accepts reviewActionId target state := by
  unfold Accepts
  rw [lookup_restate_isSome]

theorem commutes_updateStatus_insertAction (status findingId reviewActionId target : String)
    (action : ReviewActionKind) (actor note : String) :
    Commutes (perform sql now) SameRows (Grouped sql groups) (updateStatus status findingId)
      (insertAction reviewActionId target action actor note) := by
  intro state _
  by_cases accepts : Accepts reviewActionId target state
  · simp only [perform_insertAction_of_accepts accepts, perform_updateStatus_eq]
    split
    · simp only [perform_insertAction_of_accepts accepts]
      exact ⟨trivial, trivial, .refl _⟩
    · simp only [perform_insertAction_of_accepts (accepts_restate_iff.mpr accepts)]
      exact ⟨trivial, trivial, .refl _⟩
  · simp only [perform_insertAction_of_refused accepts, perform_updateStatus_eq]
    split
    · simp only [perform_insertAction_of_refused accepts]
      exact ⟨trivial, trivial, .refl _⟩
    · simp only [perform_insertAction_of_refused (mt accepts_restate_iff.mp accepts)]
      exact ⟨trivial, trivial, .refl _⟩

theorem accepts_renote_iff {reviewActionId target : String} : Accepts reviewActionId target
        { state with reviewActions := renote note otherId state.reviewActions } ↔
      Accepts reviewActionId target state := by
  simp [Accepts, renote]

theorem commutes_insertAction_updateNote {reviewActionId : String}
    (apart : reviewActionId ≠ otherId) (findingId : String) (action : ReviewActionKind)
    (actor note other : String) :
    Commutes (perform sql now) SameRows (Grouped sql groups)
      (insertAction reviewActionId findingId action actor note) (updateNote other otherId) := by
  intro state _
  by_cases accepts : Accepts reviewActionId findingId state
  · have renoted : Accepts reviewActionId findingId
        { state with reviewActions := renote other otherId state.reviewActions } :=
      accepts_renote_iff.mpr accepts
    simp only [perform_updateNote_eq, perform_insertAction_of_accepts accepts,
      perform_insertAction_of_accepts renoted]
    refine ⟨trivial, trivial, .refl _, rfl, ?_⟩
    dsimp only
    rw [withAction_rows renoted.2]
    simp only [renote]
    rw [withAction_rows accepts.2, List.map_append, List.map_singleton]
    have kept : withNote other otherId (actionRow now reviewActionId findingId action actor note) =
        actionRow now reviewActionId findingId action actor note := if_neg apart
    rw [kept]
  · simp only [perform_updateNote_eq, perform_insertAction_of_refused accepts,
      perform_insertAction_of_refused (mt accepts_renote_iff.mp accepts)]
    exact ⟨trivial, trivial, .refl _⟩

theorem accepts_withAction_iff {reviewActionId : String} (apart : reviewActionId ≠ otherId)
    {otherFinding actor : String} {action : ReviewActionKind}
    (accepts : Accepts reviewActionId findingId state) :
    Accepts otherId otherFinding { state with reviewActions := (withAction
        (actionRow now reviewActionId findingId action actor note) state.reviewActions) } ↔
      Accepts otherId otherFinding state := by
  refine and_congr_right fun _ => ?_
  simp only [withAction_rows accepts.2, List.mem_append, List.mem_singleton, or_imp, forall_and,
    forall_eq, and_iff_left_iff_imp]
  exact fun _ => apart

theorem commutes_insertAction {reviewActionId : String} (apart : reviewActionId ≠ otherId)
    (findingId otherFinding : String) (action otherAction : ReviewActionKind)
    (actor note otherActor otherNote : String) :
    Commutes (perform sql now) SameRows (Grouped sql groups)
      (insertAction reviewActionId findingId action actor note)
      (insertAction otherId otherFinding otherAction otherActor otherNote) := by
  intro state _
  by_cases accepts : Accepts reviewActionId findingId state <;>
    by_cases otherAccepts : Accepts otherId otherFinding state
  · have fresh : Accepts reviewActionId findingId { state with reviewActions := (withAction
        (actionRow now otherId otherFinding otherAction otherActor otherNote)
        state.reviewActions) } := (accepts_withAction_iff apart.symm otherAccepts).mpr accepts
    have otherFresh : Accepts otherId otherFinding { state with reviewActions := (withAction
        (actionRow now reviewActionId findingId action actor note) state.reviewActions) } :=
      (accepts_withAction_iff apart accepts).mpr otherAccepts
    simp only [perform_insertAction_of_accepts accepts, perform_insertAction_of_accepts fresh,
      perform_insertAction_of_accepts otherAccepts, perform_insertAction_of_accepts otherFresh]
    refine ⟨trivial, trivial, .refl _, rfl, ?_⟩
    dsimp only
    rw [withAction_rows fresh.2, withAction_rows otherFresh.2]
    dsimp only
    rw [withAction_rows accepts.2, withAction_rows otherAccepts.2, List.append_assoc,
      List.append_assoc]
    exact (List.Perm.swap _ _ _).append_left _
  · have refused : ¬Accepts otherId otherFinding { state with reviewActions := (withAction
        (actionRow now reviewActionId findingId action actor note) state.reviewActions) } :=
      mt (accepts_withAction_iff apart accepts).mp otherAccepts
    simp only [perform_insertAction_of_accepts accepts,
      perform_insertAction_of_refused otherAccepts, perform_insertAction_of_refused refused]
    exact ⟨trivial, trivial, .refl _⟩
  · have refused : ¬Accepts reviewActionId findingId { state with reviewActions := (withAction
        (actionRow now otherId otherFinding otherAction otherActor otherNote)
        state.reviewActions) } := mt (accepts_withAction_iff apart.symm otherAccepts).mp accepts
    simp only [perform_insertAction_of_refused accepts,
      perform_insertAction_of_accepts otherAccepts, perform_insertAction_of_refused refused]
    exact ⟨trivial, trivial, .refl _⟩
  · simp only [perform_insertAction_of_refused accepts,
      perform_insertAction_of_refused otherAccepts]
    exact ⟨trivial, trivial, .refl _⟩

end Writes

/-! ## Statements that do not conflict -/

def reads : ReviewStatement → Bool
  | targetIds _ => true
  | statuses _ => true
  | selectGroup _ => true
  | _ => false

theorem perform_fst_of_reads {query : ReviewStatement} (isRead : reads query = true)
    (state : ReviewCatalog) : (perform sql now query state).1 = state := by
  cases query with
  | targetIds params => exact perform_targetIds_fst params
  | statuses findingIds => exact perform_statuses_fst findingIds
  | selectGroup groupId => exact perform_selectGroup_fst groupId
  | _ => cases isRead

theorem conflict_symm {query other : ReviewStatement} (conflict : Conflict groups query other) :
    Conflict groups other query := by
  cases query <;> cases other <;> simp only [Conflict] at conflict ⊢ <;>
    first
    | exact conflict
    | exact conflict.symm
    | exact ⟨conflict.1.symm, conflict.2.symm⟩

/-- The selection of findings looks at nothing else of the catalog. -/
theorem reply_targetIds_of_findings (params : FindingQueryParams)
    (sameFindings : first.findings = second.findings)
    (sameEvidence : first.evidence = second.evidence) :
    (perform sql now (targetIds params) first).2 =
      (perform sql now (targetIds params) second).2 := by
  simp only [perform, sameFindings, sameEvidence]
  split <;> rfl

theorem reply_statuses_of_findings (findingIds : List String)
    (sameFindings : first.findings = second.findings) :
    (perform sql now (statuses findingIds) first).2 =
      (perform sql now (statuses findingIds) second).2 := by
  simp only [perform, sameFindings]
  split <;> rfl

theorem reply_selectGroup_of_actions (groupId : String)
    (sameActions : first.reviewActions = second.reviewActions) :
    (perform sql now (selectGroup groupId) first).2 =
      (perform sql now (selectGroup groupId) second).2 := by
  simp only [perform, sameActions]
  split <;> rfl

/-- A read keeps its reply if it does not conflict with what comes before. -/
theorem reply_of_not_conflict {query other : ReviewStatement} (isRead : reads query = true)
    (keeps : KeepsGroups sql groups other) (apart : ¬Conflict groups query other)
    (grouped : Grouped sql groups state) :
    (perform sql now query (perform sql now other state).1).2 =
      (perform sql now query state).2 := by
  by_cases otherReads : reads other = true
  · rw [perform_fst_of_reads otherReads]
  cases other with
  | updateStatus status findingId =>
    cases query with
    | targetIds params => exact targetIds_updateStatus state (not_not.mp apart) status findingId
    | statuses findingIds => exact statuses_updateStatus state apart status
    | selectGroup groupId =>
      apply reply_selectGroup_of_actions
      rw [perform_updateStatus_eq]
      split <;> rfl
    | _ => cases isRead
  | insertAction reviewActionId findingId action actor note =>
    cases query with
    | selectGroup groupId =>
      exact selectGroup_insertAction state keeps (not_not.mp apart) findingId action actor
    | targetIds params =>
      rcases perform_insertAction sql now reviewActionId findingId action actor note state with
        ⟨performed, _⟩ | ⟨_, performed, _⟩ <;> rw [performed]
      exact reply_targetIds_of_findings params rfl rfl
    | statuses findingIds =>
      rcases perform_insertAction sql now reviewActionId findingId action actor note state with
        ⟨performed, _⟩ | ⟨_, performed, _⟩ <;> rw [performed]
      exact reply_statuses_of_findings findingIds rfl
    | _ => cases isRead
  | updateNote note reviewActionId =>
    cases query with
    | selectGroup groupId => exact selectGroup_updateNote state grouped keeps (not_not.mp apart)
    | targetIds params =>
      rw [perform_updateNote_eq]
      exact reply_targetIds_of_findings params rfl rfl
    | statuses findingIds =>
      rw [perform_updateNote_eq]
      exact reply_statuses_of_findings findingIds rfl
    | _ => cases isRead
  | _ => exact absurd rfl otherReads

theorem commutes_of_not_conflict (query other : ReviewStatement)
    (queryKeeps : KeepsGroups sql groups query) (otherKeeps : KeepsGroups sql groups other)
    (apart : ¬Conflict groups query other) :
    Commutes (perform sql now) SameRows (Grouped sql groups) query other := by
  by_cases queryReads : reads query = true
  · exact .of_read SameRows.refl (perform_fst_of_reads queryReads)
      fun _ => reply_of_not_conflict queryReads otherKeeps apart
  by_cases otherReads : reads other = true
  · apply Commutes.symm fun _ _ => SameRows.symm
    exact .of_read SameRows.refl (perform_fst_of_reads otherReads)
      fun _ => reply_of_not_conflict otherReads queryKeeps (mt conflict_symm apart)
  cases query with
  | updateStatus status findingId =>
    cases other with
    | updateStatus otherStatus otherId =>
      apply commutes_updateStatus
      intro same
      by_contra different
      exact apart ⟨same, different⟩
    | insertAction reviewActionId target action actor note =>
      exact commutes_updateStatus_insertAction status findingId reviewActionId target action
        actor note
    | updateNote note reviewActionId =>
      exact commutes_updateStatus_updateNote status findingId note reviewActionId
    | _ => exact absurd rfl otherReads
  | insertAction reviewActionId target action actor note =>
    cases other with
    | updateStatus status findingId =>
      exact (commutes_updateStatus_insertAction status findingId reviewActionId target action
        actor note).symm fun _ _ => SameRows.symm
    | insertAction otherId otherTarget otherAction otherActor otherNote =>
      exact commutes_insertAction apart target otherTarget action otherAction actor note
        otherActor otherNote
    | updateNote otherNote otherId =>
      exact commutes_insertAction_updateNote apart target action actor note otherNote
    | _ => exact absurd rfl otherReads
  | updateNote note reviewActionId =>
    cases other with
    | updateStatus status findingId =>
      exact (commutes_updateStatus_updateNote status findingId note reviewActionId).symm
        fun _ _ => SameRows.symm
    | insertAction otherId target action actor otherNote =>
      exact (commutes_insertAction_updateNote apart target action actor otherNote note).symm
        fun _ _ => SameRows.symm
    | updateNote otherNote otherId =>
      apply commutes_updateNote
      intro same
      by_contra different
      exact apart ⟨same, different⟩
    | _ => exact absurd rfl otherReads
  | _ => exact absurd rfl queryReads

end Statements

end Reperio.Review
