import Reperio.Api.ReviewAtomicity
import Reperio.Api.ReviewNotes

/-!
# Groups of review actions

What a request does that runs alone: a dismissal or a restoration gives its
findings the new status and logs the old one of each, an undo gives the findings
of its group the logged status again and marks the entries.
-/

namespace Reperio.Review

open Concurrency Python Catalog Relational ReviewStatement
open Api (Failure)

variable {app : App} (sql : SqlFunctions) (now : ReviewStatement → DateTime)

/-! ## Dismissals and restorations -/

/-- The finding after a request with this target. -/
def withTarget (targetStatus : FindingStatus) (findingIds : List String) (row : Finding) :
    Finding :=
  if row.findingId ∈ findingIds then { row with status := targetStatus } else row

@[simp]
theorem withTarget_findingId (targetStatus : FindingStatus) (findingIds : List String)
    (row : Finding) : (withTarget targetStatus findingIds row).findingId = row.findingId := by
  unfold withTarget
  split <;> rfl

theorem withTarget_comp (targetStatus : FindingStatus) (findingId : String)
    (findingIds : List String) :
    withTarget targetStatus findingIds ∘ withTarget targetStatus [findingId] =
      withTarget targetStatus (findingId :: findingIds) := by
  funext row
  rw [Function.comp_apply]
  unfold withTarget
  by_cases isFirst : row.findingId = findingId
  · simp [isFirst]
  · simp [isFirst]

/-- The catalog knows the findings with these statuses. -/
def Knows (catalog : ReviewCatalog) (findings : List (String × FindingStatus)) : Prop :=
  ∀ finding ∈ findings, ∃ row ∈ catalog.findings.rows, (row.findingId, row.status) = finding

theorem Knows.status {catalog : ReviewCatalog} {findings : List (String × FindingStatus)}
    (knows : Knows catalog findings) {finding : String × FindingStatus}
    (member : finding ∈ findings) {row : Finding} (rowMember : row ∈ catalog.findings.rows)
    (same : row.findingId = finding.1) : row.status = finding.2 := by
  rcases knows finding member with ⟨other, otherMember, rfl⟩
  rw [catalog.findings.eq_of_key_eq rowMember otherMember same]

/-- A status is written unless it is there. -/
theorem run_setStatus {catalog : ReviewCatalog} {findingId : String}
    {previousStatus : FindingStatus} (targetStatus : FindingStatus)
    (knows : Knows catalog [(findingId, previousStatus)]) :
    ∃ next changed, (setStatus findingId previousStatus targetStatus).run (perform sql now)
      catalog = (next, .ok changed) ∧
      next.findings.rows = catalog.findings.rows.map (withTarget targetStatus [findingId]) ∧
      next.reviewActions = catalog.reviewActions := by
  unfold setStatus
  split
  · rename_i same
    refine ⟨catalog, false, rfl, ?_, rfl⟩
    refine (Json.map_eq_self_iff.mpr fun row member => ?_).symm
    unfold withTarget
    split
    · rename_i isFinding
      have status : row.status = previousStatus :=
        knows.status (List.mem_singleton_self _) member (List.mem_singleton.mp isFinding)
      rw [← same, ← status]
    · rfl
  · refine ⟨{ catalog with findings := restate targetStatus.text findingId catalog.findings }, true,
      ?_, ?_, rfl⟩
    · rw [run_execute_bind, perform_updateStatus_eq, if_neg (by simp)]
      rfl
    · refine List.map_congr_left fun row _ => ?_
      simp only [withStatus, withTarget, FindingStatus.ofText?_text, List.mem_singleton]

theorem run_applyFindings (enough : 0 < app.recursionLimit) (body : ReviewActionRequest)
    (hex : String) (action : ReviewActionKind) (targetStatus : FindingStatus) (index : ℕ)
    {found : List (String × FindingStatus)} {catalog : ReviewCatalog} (knows : Knows catalog found)
    (distinct : (found.map Prod.fst).Nodup) (isHex : IsHex hex)
    (unused : ∀ row ∈ catalog.reviewActions.rows, ∀ other, index ≤ other →
      row.reviewActionId ≠ actionId ("review_" ++ hex) other) :
    ∃ next changed rows,
      (applyFindings app body ("review_" ++ hex) action targetStatus index found).run
        (perform sql now) catalog = (next, .ok changed) ∧
      next.findings.rows =
        catalog.findings.rows.map (withTarget targetStatus (found.map Prod.fst)) ∧
      next.reviewActions.rows = catalog.reviewActions.rows ++ rows ∧
      List.Forall₂ (Entry app hex none) found rows := by
  induction found generalizing index catalog with
  | nil =>
    refine ⟨catalog, [], [], rfl, ?_, (List.append_nil _).symm, .nil⟩
    exact (Json.map_eq_self_iff.mpr fun row _ => if_neg List.not_mem_nil).symm
  | cons finding found ih =>
    rcases finding with ⟨findingId, previousStatus⟩
    rcases List.forall_mem_cons.mp knows with ⟨⟨known, knownMember, isKnown⟩, knowsRest⟩
    rcases List.nodup_cons.mp distinct with ⟨apart, distinctRest⟩
    rcases run_setStatus sql now targetStatus
      (List.forall_mem_singleton.mpr ⟨known, knownMember, isKnown⟩) with
      ⟨written, wasChanged, wrote, findings, actions⟩
    rcases exists_noteText_reviewNote enough ("review_" ++ hex) body.note previousStatus
      targetStatus with ⟨text, noted, _⟩
    have accepts : Accepts (actionId ("review_" ++ hex) index) findingId written := by
      refine ⟨Table.lookup_isSome_iff.mpr ⟨withTarget targetStatus [findingId] known, ?_, ?_⟩, ?_⟩
      · rw [findings]
        exact List.mem_map_of_mem knownMember
      · exact (withTarget_findingId _ _ _).trans (Prod.mk.inj isKnown).1
      · rw [actions]
        exact fun row member => unused row member index (le_refl index)
    let entry := actionRow now (actionId ("review_" ++ hex) index) findingId action body.actor text
    let logged : ReviewCatalog :=
      { written with reviewActions := withAction entry written.reviewActions }
    have loggedRows : logged.reviewActions.rows = catalog.reviewActions.rows ++ [entry] := by
      rw [withAction_rows accepts.2, actions]
    have knowsAfter : Knows logged found := by
      intro finding member
      rcases knowsRest finding member with ⟨row, rowMember, isRow⟩
      refine ⟨row, ?_, isRow⟩
      rw [findings]
      refine List.mem_map.mpr ⟨row, rowMember, if_neg fun isFirst => apart ?_⟩
      rw [← List.mem_singleton.mp isFirst]
      exact List.mem_map.mpr ⟨finding, member, by rw [← isRow]⟩
    have unusedAfter : ∀ row ∈ logged.reviewActions.rows, ∀ other, index + 1 ≤ other →
        row.reviewActionId ≠ actionId ("review_" ++ hex) other := by
      intro row member other later same
      rw [loggedRows] at member
      rcases List.mem_append.mp member with isOld | isNew
      · exact unused row isOld other (Nat.le_of_succ_le later) same
      · rw [List.mem_singleton.mp isNew] at same
        have sameIndex := (actionId_injective isHex isHex same).2
        omega
    rcases ih (index + 1) knowsAfter distinctRest unusedAfter with
      ⟨next, changed, rows, ran, nextFindings, nextActions, entries⟩
    refine ⟨next, if wasChanged then findingId :: changed else changed, entry :: rows, ?_, ?_, ?_,
      .cons ⟨⟨index, rfl⟩, rfl, body.note, targetStatus, text, rfl, noted⟩ entries⟩
    · rw [applyFindings, Program.run_bind, wrote]
      dsimp only
      rw [noted, Program.run_ofExcept_bind]
      dsimp only
      rw [run_execute_bind, perform_insertAction_of_accepts accepts]
      dsimp only
      rw [Program.run_bind, ran]
      rfl
    · rw [nextFindings, findings, List.map_map, withTarget_comp]
      rfl
    · rw [nextActions, loggedRows, List.append_assoc]
      rfl

theorem run_findingsForUpdate (findingIds : List String) (catalog : ReviewCatalog) :
    (∃ error, (findingsForUpdate findingIds).run (perform sql now) catalog =
      (catalog, .error error)) ∨
      ∃ found, (findingsForUpdate findingIds).run (perform sql now) catalog = (catalog, .ok found) ∧
        Knows catalog found ∧ (found.map Prod.fst).Nodup ∧
        (found.map Prod.fst).toFinset = findingIds.toFinset := by
  unfold findingsForUpdate
  cases findingIds with
  | nil => exact Or.inr ⟨[], rfl, by simp [Knows], by simp, rfl⟩
  | cons first rest =>
    rcases performed : perform sql now (statuses (first :: rest)) catalog with ⟨next, error | found⟩
    · obtain rfl := perform_error performed
      exact Or.inl ⟨_, by rw [run_execute_bind, performed]⟩
    · rcases perform_statuses_mem sql now performed with ⟨rfl, knows⟩
      rw [run_execute_bind, performed]
      dsimp only
      split
      · rename_i sameIds
        refine Or.inr ⟨found, rfl, knows, ?_, sameIds⟩
        simp only [perform] at performed
        split at performed <;> cases performed
        have distinct : (next.findings.rows.map Finding.findingId).Nodup :=
          List.pairwise_map.mpr next.findings.apart
        rw [List.map_map]
        exact ((perm_orderBy _ _).map Finding.findingId).nodup_iff.mpr
          (distinct.sublist (List.filter_sublist.map _))
      · exact Or.inl ⟨_, rfl⟩

theorem run_reviewTargetIds_fst (body : ReviewActionRequest) (catalog : ReviewCatalog) :
    ((reviewTargetIds body).run (perform sql now) catalog).1 = catalog := by
  unfold reviewTargetIds
  split
  · rfl
  · rfl
  · rfl
  · rename_i params _ _
    have performed : (perform sql now (targetIds params) catalog).1 = catalog :=
      perform_targetIds_fst params
    rcases ran : perform sql now (targetIds params) catalog with ⟨next, error | ids⟩ <;>
      · rw [ran] at performed
        simp only [execute, Program.query, Program.execute_bind, Program.done_bind,
          Program.run_execute, ran, Program.run_ofExcept]
        exact performed

/-- The findings that a request is about. -/
def targets (request : Request) (catalog : ReviewCatalog) : List String := match request with
  | .dismiss body _ | .restore body _ =>
    match ((reviewTargetIds body).run (perform sql now) catalog).2 with
    | .ok findingIds => findingIds
    | .error _ => []
  | .undo reviewActionId _ =>
    match (perform sql now (selectGroup reviewActionId) catalog).2 with
    | .ok rows => rows.map ReviewAction.findingId
    | .error _ => []

/-- What a request with this target has made of the catalog: it found these findings, and logged
an entry for each. -/
structure Applied (app : App) (hex : String) (targetStatus : FindingStatus)
    (catalog next : ReviewCatalog) (found : List (String × FindingStatus))
    (rows : List ReviewAction) : Prop where
  enabled : app.reviewActionsEnabled = true
  ready : app.catalogReady = true
  knows : Knows catalog found
  findings : next.findings.rows =
    catalog.findings.rows.map (withTarget targetStatus (found.map Prod.fst))
  reviewActions : next.reviewActions.rows = catalog.reviewActions.rows ++ rows
  entries : List.Forall₂ (Entry app hex none) found rows

theorem run_applyReviewAction (enough : 0 < app.recursionLimit) (body : ReviewActionRequest)
    {hex : String} (action : ReviewActionKind) (targetStatus : FindingStatus)
    {catalog : ReviewCatalog} (isHex : IsHex hex)
    (unused : ∀ row ∈ catalog.reviewActions.rows, ∀ index,
      row.reviewActionId ≠ actionId ("review_" ++ hex) index) :
    (∃ error, (applyReviewAction app body hex action targetStatus).run (perform sql now) catalog =
        (catalog, .error error)) ∨
      ∃ next matchedCount changed found rows,
        (applyReviewAction app body hex action targetStatus).run (perform sql now) catalog =
          (next, .ok (.applied ("review_" ++ hex) matchedCount changed)) ∧
        Applied app hex targetStatus catalog next found rows ∧ (0 < matchedCount → found ≠ []) := by
  unfold applyReviewAction openReadyCatalog
  split
  · rename_i enabled
    split
    · rename_i ready
      simp only [Program.pure_eq, Program.done_bind, withConnection]
      rw [Program.run_bind]
      have kept := run_reviewTargetIds_fst sql now body catalog
      rcases targeted : (reviewTargetIds body).run (perform sql now) catalog with
        ⟨state, error | findingIds⟩
      · rw [targeted] at kept
        exact Or.inl ⟨error, congrArg (·, _) kept⟩
      · rw [targeted] at kept
        obtain rfl : state = catalog := kept
        dsimp only
        rw [Program.run_bind, Program.run_bind]
        rcases run_findingsForUpdate sql now findingIds state with
          ⟨error, ran⟩ | ⟨found, ran, knows, distinct, sameIds⟩
        · rw [ran]
          exact Or.inl ⟨error, rfl⟩
        · rcases run_applyFindings sql now enough body hex action targetStatus 0 knows distinct
            isHex fun row member index _ => unused row member index with
            ⟨next, changed, rows, looped, findings, actions, entries⟩
          rw [ran]
          dsimp only
          rw [looped]
          refine Or.inr ⟨next, findingIds.length, changed, found, rows, rfl,
            ⟨enabled, ready, knows, findings, actions, entries⟩, ?_⟩
          rintro positive rfl
          have empty : findingIds = [] := (List.toFinset_eq_empty_iff findingIds).mp sameIds.symm
          rw [empty] at positive
          exact Nat.lt_irrefl 0 positive
    · exact Or.inl ⟨_, rfl⟩
  · exact Or.inl ⟨_, rfl⟩

/-! ## Undos -/

/-- The statements of an undo: they put back what the entries have logged, and mark the entries. -/
structure Restoration (app : App) (hex actor : String) (rows : List ReviewAction)
    (log : List ReviewStatement) : Prop where
  only : ∀ statement ∈ log, ∃ row ∈ rows, ∃ finding, Entry app hex none finding row ∧
    (statement = updateStatus finding.2.text finding.1 ∨
      ∃ note, statement = updateNote note row.reviewActionId ∧
        Entry app hex (some actor) finding { row with note := some note })
  statuses : ∀ row ∈ rows, ∀ finding, Entry app hex none finding row →
    updateStatus finding.2.text finding.1 ∈ log
  notes : ∀ row ∈ rows, ∃ note, updateNote note row.reviewActionId ∈ log

theorem Restoration.cons (enough : 0 < app.recursionLimit) {hex actor : String}
    {row : ReviewAction} {rows : List ReviewAction} {log : List ReviewStatement}
    {finding : String × FindingStatus} {note : String} (entry : Entry app hex none finding row)
    (undone : Entry app hex (some actor) finding { row with note := some note })
    (restoration : Restoration app hex actor rows log) :
    Restoration app hex actor (row :: rows) (updateStatus finding.2.text finding.1 ::
      updateNote note row.reviewActionId :: log) where
  only := by
    intro statement member
    rcases List.mem_cons.mp member with rfl | member
    · exact ⟨row, List.mem_cons_self, finding, entry, Or.inl rfl⟩
    rcases List.mem_cons.mp member with rfl | member
    · exact ⟨row, List.mem_cons_self, finding, entry, Or.inr ⟨note, rfl, undone⟩⟩
    · rcases restoration.only statement member with ⟨other, otherMember, rest⟩
      exact ⟨other, List.mem_cons_of_mem _ otherMember, rest⟩
  statuses := by
    intro other member otherFinding otherEntry
    rcases List.mem_cons.mp member with rfl | member
    · rw [entry.unique enough otherEntry]
      exact List.mem_cons_self
    · exact List.mem_cons_of_mem _ (List.mem_cons_of_mem _
        (restoration.statuses other member otherFinding otherEntry))
  notes := by
    intro other member
    rcases List.mem_cons.mp member with rfl | member
    · exact ⟨note, List.mem_cons_of_mem _ List.mem_cons_self⟩
    · rcases restoration.notes other member with ⟨otherNote, isLogged⟩
      exact ⟨otherNote, List.mem_cons_of_mem _ (List.mem_cons_of_mem _ isLogged)⟩

theorem toString?_ofString (text : String) : (PyStr.ofString text).toString? = some text := by
  have scalar : ∀ point ∈ PyStr.ofString text, point.val < 0xD800 ∨ 0xE000 ≤ point.val :=
    scalarText_str text
  have back : (PyStr.ofString text).map (fun point => Char.ofNat point.val) = text.toList := by
    rw [PyStr.ofString, PyStr.ofChars, List.map_map]
    refine Json.map_eq_self_iff.mpr fun char _ => ?_
    have bound : char.toNat < 0x110000 := by
      rcases char.valid with small | large
      · exact lt_trans small (by decide)
      · exact large.2
    rw [Function.comp_apply, CodePoint.ofChar, Fin.val_ofNat, Nat.mod_eq_of_lt bound,
      Char.ofNat_toNat]
  rw [PyStr.toString?, if_pos (by simpa using scalar), back, String.ofList_toList]

theorem run_undoRows (enough : 0 < app.recursionLimit) {hex : String} (actor : String)
    {rows : List ReviewAction} (entries : ∀ row ∈ rows, ∃ finding, Entry app hex none finding row)
    {catalog state : ReviewCatalog} {past : List ReviewStatement}
    (before : Succeed (perform sql now) catalog past state) :
    ∃ notes log next restored, rows.mapM (readNote app) = .ok notes ∧
      (undoRows app actor notes).run (perform sql now) state = (next, .ok restored) ∧
      Succeed (perform sql now) catalog (past ++ log) next ∧
      Restoration app hex actor rows log ∧ (rows ≠ [] → allUndone notes = .ok false) := by
  induction rows generalizing state past with
  | nil =>
    refine ⟨[], [], state, [], rfl, rfl, ?_, ⟨by simp, by simp, by simp⟩,
      fun none => absurd rfl none⟩
    rw [List.append_nil]
    exact before
  | cons row rows ih =>
    rcases List.forall_mem_cons.mp entries with ⟨⟨finding, entry⟩, entriesRest⟩
    rcases entry.readNote enough with ⟨operatorNote, targetStatus, read⟩
    rcases exists_noteText_undoneNote enough ("review_" ++ hex) operatorNote finding.2
      targetStatus actor with ⟨text, noted, _⟩
    have undone : Entry app hex (some actor) finding { row with note := some text } :=
      ⟨entry.rowId, entry.findingId, operatorNote, targetStatus, text, rfl, noted⟩
    have restores : perform sql now (updateStatus finding.2.text finding.1) state =
        ({ state with findings := restate finding.2.text finding.1 state.findings }, .ok ()) := by
      rw [perform_updateStatus_eq, if_neg (by simp)]
    let restate : ReviewCatalog :=
      { state with findings := restate finding.2.text finding.1 state.findings }
    have marks : perform sql now (updateNote text row.reviewActionId) restate = (_, .ok ()) :=
      perform_updateNote_eq text row.reviewActionId
    rcases ih entriesRest ((before.snoc restores).snoc marks) with
      ⟨notes, log, next, restored, reads, ran, succeed, restoration, _⟩
    let items := reviewNote ("review_" ++ hex) operatorNote finding.2 targetStatus
    refine ⟨(row.reviewActionId, row.findingId, .dict items) :: notes, _, next,
      row.findingId :: restored, ?_, ?_, ?_, restoration.cons enough entry undone, fun _ => rfl⟩
    · rw [List.mapM_cons, read, reads]
      rfl
    · have status : restoreStatus row.findingId (PyDict.get items "previous_status") =
          (do execute (updateStatus finding.2.text row.findingId); return true) := by
        change restoreStatus row.findingId (.text (.ofString finding.2.text)) = _
        rw [restoreStatus, toString?_ofString]
      rw [undoRows, status, execute_bind_assoc, run_execute_bind, entry.findingId, restores]
      dsimp only
      rw [Program.pure_eq, Program.done_bind, noted, Program.run_ofExcept_bind]
      dsimp only
      rw [run_execute_bind, marks]
      dsimp only
      rw [Program.run_bind, ran]
      rfl
    · rw [List.append_assoc, List.append_assoc] at succeed
      exact succeed

/-- `json_extract` does not raise for any note of the catalog. -/
def Readable (sql : SqlFunctions) (catalog : ReviewCatalog) : Prop :=
  ∀ row ∈ catalog.reviewActions.rows, ∀ note ∈ row.note, ∀ literal,
    (sql.jsonExtractEq note "$.group_id" literal).isSome = true

/-- The entries of a group as the catalog stores them. -/
def groupRows (sql : SqlFunctions) (hex : String) (catalog : ReviewCatalog) : List ReviewAction :=
  catalog.reviewActions.rows.filter fun row =>
    decide (inGroup sql ("review_" ++ hex) row = some true)

variable {sql}

theorem inGroup_isSome {row : ReviewAction} (readable : ∀ note ∈ row.note, ∀ literal,
    (sql.jsonExtractEq note "$.group_id" literal).isSome = true) (groupId : String) :
    (inGroup sql groupId row).isSome = true := by
  unfold inGroup
  split
  · rfl
  · split
    · rfl
    · rename_i note isNote
      exact readable note isNote _

variable {hex : String} {catalog : ReviewCatalog}

theorem perform_selectGroup_of_readable (readable : Readable sql catalog) :
    perform sql now (selectGroup ("review_" ++ hex)) catalog =
      (catalog, .ok (orderBy ReviewAction.reviewActionId (groupRows sql hex catalog))) := by
  have all : (catalog.reviewActions.rows.all fun row =>
      (inGroup sql ("review_" ++ hex) row).isSome) = true :=
    List.all_eq_true.mpr fun row member => inGroup_isSome (readable row member) _
  simp only [perform, selectWhere, all, if_true]
  rfl

theorem reads_undone (enough : 0 < app.recursionLimit) {rows : List ReviewAction}
    (entries : ∀ row ∈ rows, ∃ undoneBy finding, Entry app hex (some undoneBy) finding row) :
    ∃ notes, rows.mapM (readNote app) = .ok notes ∧ allUndone notes = .ok true := by
  induction rows with
  | nil => exact ⟨[], rfl, rfl⟩
  | cons row rows ih =>
    rcases List.forall_mem_cons.mp entries with ⟨⟨undoneBy, finding, entry⟩, entriesRest⟩
    rcases entry.readNote enough with ⟨operatorNote, targetStatus, read⟩
    rcases ih entriesRest with ⟨notes, reads, undone⟩
    refine ⟨_ :: notes, by rw [List.mapM_cons, read, reads]; rfl, ?_⟩
    have isUndone : isUndone (readEntryNote hex operatorNote finding.2 targetStatus
        (some undoneBy)) = true := isUndone_readUndoneNote _ _ _ _ _
    rw [allUndone, if_pos isUndone, undone]

section Undo

variable (enabled : app.reviewActionsEnabled = true) (ready : app.catalogReady = true)
  (enough : 0 < app.recursionLimit) (actor : String)

include enabled ready enough

/-- An undo of a group that nobody has undone. -/
theorem run_undo (readable : Readable sql catalog) (nonempty : groupRows sql hex catalog ≠ [])
    (entries : ∀ row ∈ groupRows sql hex catalog, ∃ finding, Entry app hex none finding row) :
    ∃ log next restored, runAlone app sql now (.undo ("review_" ++ hex) actor) catalog =
        (next, .ok (.undone ("review_" ++ hex) restored)) ∧
      Succeed (perform sql now) catalog log next ∧
      Restoration app hex actor (orderBy ReviewAction.reviewActionId (groupRows sql hex catalog))
        log := by
  have sortedNonempty : orderBy ReviewAction.reviewActionId (groupRows sql hex catalog) ≠ [] := by
    rwa [ne_eq, orderBy_eq_nil]
  have sortedEntries : ∀ row ∈ orderBy ReviewAction.reviewActionId (groupRows sql hex catalog),
      ∃ finding, Entry app hex none finding row :=
    fun row member => entries row (mem_orderBy.mp member)
  rcases run_undoRows sql now enough actor sortedEntries .nil with
    ⟨notes, log, next, restored, reads, ran, succeed, restoration, notUndone⟩
  refine ⟨log, next, restored, ?_, succeed, restoration⟩
  change (undoReviewAction app ("review_" ++ hex) actor).run _ _ = _
  unfold undoReviewAction openReadyCatalog
  rw [if_pos enabled, if_pos ready, Program.pure_eq, Program.done_bind, run_execute_bind,
    perform_selectGroup_of_readable now readable]
  dsimp only
  rw [if_neg sortedNonempty, reads, Program.run_ofExcept_bind]
  dsimp only
  rw [notUndone sortedNonempty, Program.run_ofExcept_bind]
  simp only [Bool.false_eq_true, if_false, withConnection]
  rw [Program.run_bind, ran]
  rfl

/-- An undo of a group that was undone. -/
theorem run_undo_again (readable : Readable sql catalog) (nonempty : groupRows sql hex catalog ≠ [])
    (entries : ∀ row ∈ groupRows sql hex catalog,
      ∃ undoneBy finding, Entry app hex (some undoneBy) finding row) :
    runAlone app sql now (.undo ("review_" ++ hex) actor) catalog =
      (catalog, .ok (.alreadyUndone ("review_" ++ hex))) := by
  have sortedNonempty : orderBy ReviewAction.reviewActionId (groupRows sql hex catalog) ≠ [] := by
    rwa [ne_eq, orderBy_eq_nil]
  have sortedEntries : ∀ row ∈ orderBy ReviewAction.reviewActionId (groupRows sql hex catalog),
      ∃ undoneBy finding, Entry app hex (some undoneBy) finding row :=
    fun row member => entries row (mem_orderBy.mp member)
  rcases reads_undone enough sortedEntries with ⟨notes, reads, undone⟩
  change (undoReviewAction app ("review_" ++ hex) actor).run _ _ = _
  unfold undoReviewAction openReadyCatalog
  rw [if_pos enabled, if_pos ready, Program.pure_eq, Program.done_bind, run_execute_bind,
    perform_selectGroup_of_readable now readable]
  dsimp only
  rw [if_neg sortedNonempty, reads, Program.run_ofExcept_bind]
  dsimp only
  rw [undone, Program.run_ofExcept_bind]
  rfl

end Undo

/-- A note that `json_extract` cannot read breaks every undo. -/
theorem run_undo_unreadable {groupId : String} {row : ReviewAction}
    (member : row ∈ catalog.reviewActions.rows) (unreadable : inGroup sql groupId row = none)
    (actor : String) :
    ∃ error, runAlone app sql now (.undo groupId actor) catalog = (catalog, .error error) := by
  change ∃ error, (undoReviewAction app groupId actor).run _ _ = _
  unfold undoReviewAction openReadyCatalog
  split
  · split
    · have raises : perform sql now (selectGroup groupId) catalog =
          (catalog, .error .operationalError) := by
        have notAll : ¬(catalog.reviewActions.rows.all fun row =>
            (inGroup sql groupId row).isSome) = true := by
          intro all
          have isSome := List.all_eq_true.mp all row member
          rw [unreadable] at isSome
          cases isSome
        simp only [perform, selectWhere, if_neg notAll]
      rw [Program.pure_eq, Program.done_bind, run_execute_bind, raises]
      exact ⟨_, rfl⟩
    · exact ⟨_, rfl⟩
  · exact ⟨_, rfl⟩

end Reperio.Review
