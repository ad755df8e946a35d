import Reperio.Api.ReviewGroups

/-!
# Undoing in reverse order

Dismissals and restorations are undone like a stack: the statuses come back
when the groups are undone from the last to the first. Undoing a group selects
it among all review actions, whose notes are all read for that, so one note that
is no JSON makes every undo fail.
-/

namespace Reperio.Review

open Concurrency Python Catalog Relational ReviewStatement
open Api (Failure)

/-! ## Sequences of requests -/

/-- A dismissal or a restoration, and the identifier that is drawn for its group. -/
structure ReviewStep where
  dismisses : Bool
  body : ReviewActionRequest
  hex : String

def ReviewStep.request (step : ReviewStep) : Request :=
  if step.dismisses then .dismiss step.body step.hex else .restore step.body step.hex

def ReviewStep.targetStatus (step : ReviewStep) : FindingStatus :=
  if step.dismisses then .dismissed else .new

def Response.reviewActionId : Response → String
  | applied reviewActionId _ _ => reviewActionId
  | alreadyUndone reviewActionId => reviewActionId
  | undone reviewActionId _ => reviewActionId

def Response.matches : Response → ℕ
  | applied _ matchedCount _ => matchedCount
  | _ => 0

section Sequences

variable (app : App) (sql : SqlFunctions) (now : ReviewStatement → DateTime)

/-- The requests one at a time, and the responses of those that succeed. -/
def serveAll : List ReviewStep → ReviewCatalog → ReviewCatalog × List Response
  | [], catalog => (catalog, [])
  | step :: steps, catalog =>
    match runAlone app sql now step.request catalog with
    | (next, .ok response) =>
      ((serveAll steps next).1, response :: (serveAll steps next).2)
    | (next, .error _) => serveAll steps next

/-- Undos one at a time; `actor` says who undoes a group. -/
def undoAll (actor : String → String) (reviewActionIds : List String) (catalog : ReviewCatalog) :
    ReviewCatalog :=
  reviewActionIds.foldl
    (fun catalog reviewActionId =>
      (runAlone app sql now (.undo reviewActionId (actor reviewActionId)) catalog).1) catalog

/-- The identifiers of the groups, the last one first. -/
def stack (steps : List ReviewStep) (catalog : ReviewCatalog) : List String :=
  ((serveAll app sql now steps catalog).2.map Response.reviewActionId).reverse

/-- Undoing the groups in reverse order restores the statuses, and a group that was undone is left
alone from then on. -/
structure LastInFirstOut (actor : String → String) (steps : List ReviewStep)
    (catalog : ReviewCatalog) : Prop where
  restored : ∀ findingId, ((undoAll app sql now actor (stack app sql now steps catalog)
      (serveAll app sql now steps catalog).1).findings.lookup findingId).map Finding.status =
      (catalog.findings.lookup findingId).map Finding.status
  repeated : ∀ past later, stack app sql now steps catalog = past ++ later →
    ∀ reviewActionId ∈ past, ∀ again, runAlone app sql now (.undo reviewActionId again)
          (undoAll app sql now actor past (serveAll app sql now steps catalog).1) =
        (undoAll app sql now actor past (serveAll app sql now steps catalog).1,
          .ok (.alreadyUndone reviewActionId))

/-- No finding is added or deleted, and those outside the target set are unaltered. -/
structure Framed (request : Request) (catalog : ReviewCatalog) : Prop where
  sameIds : (runAlone app sql now request catalog).1.findings.rows.map Finding.findingId =
    catalog.findings.rows.map Finding.findingId
  unaltered : ∀ row ∈ catalog.findings.rows, row.findingId ∉ targets sql now request catalog →
      row ∈ (runAlone app sql now request catalog).1.findings.rows

/-- The drawn identifiers are new: to each other and to the catalog. -/
structure Drawn (steps : List ReviewStep) (catalog : ReviewCatalog) : Prop where
  isHex : ∀ step ∈ steps, IsHex step.hex
  distinct : (steps.map ReviewStep.hex).Nodup
  unused : ∀ step ∈ steps, ∀ row ∈ catalog.reviewActions.rows,
    (∀ index, row.reviewActionId ≠ actionId ("review_" ++ step.hex) index) ∧
      inGroup sql ("review_" ++ step.hex) row ≠ some true

end Sequences

/-! ## One group -/

section Group

variable {app : App} {sql : SqlFunctions} {now : ReviewStatement → DateTime}
  {hex actor : String} {targetStatus : FindingStatus} {catalog next : ReviewCatalog}
  {found : List (String × FindingStatus)} {rows sorted : List ReviewAction}
  {log : List ReviewStatement}

theorem Applied.exists_entry (applied : Applied app hex targetStatus catalog next found rows)
    {finding : String × FindingStatus} (member : finding ∈ found) :
    ∃ row ∈ rows, Entry app hex none finding row := by
  have each : ∀ row ∈ rows, ∀ finding, Entry app hex none finding row →
      ∃ row ∈ rows, Entry app hex none finding row := fun row isRow _ entry => ⟨row, isRow, entry⟩
  exact forall_mem_of_forall₂ applied.entries.flip each finding member

theorem Applied.exists_finding (applied : Applied app hex targetStatus catalog next found rows)
    {row : ReviewAction} (member : row ∈ rows) :
    ∃ finding ∈ found, Entry app hex none finding row := by
  have each : ∀ finding ∈ found, ∀ row, Entry app hex none finding row →
      ∃ finding ∈ found, Entry app hex none finding row :=
    fun finding isFinding _ entry => ⟨finding, isFinding, entry⟩
  exact forall_mem_of_forall₂ applied.entries each row member

/-- An undo takes back what a request has done to the findings. -/
theorem Applied.map_restated (applied : Applied app hex targetStatus catalog next found rows)
    (enough : 0 < app.recursionLimit) (same : ∀ row, row ∈ sorted ↔ row ∈ rows)
    (restoration : Restoration app hex actor sorted log) :
    next.findings.rows.map (restated log) = catalog.findings.rows := by
  rw [applied.findings, List.map_map, Json.map_eq_self_iff]
  intro row member
  rw [Function.comp_apply, restated, withTarget_findingId]
  rcases lastStatus_cases row.findingId log with ⟨isNone, unwritten⟩ | ⟨status, isSome, written⟩
  · have outside : row.findingId ∉ found.map Prod.fst := by
      intro isFound
      rcases List.mem_map.mp isFound with ⟨finding, isFinding, sameId⟩
      rcases applied.exists_entry isFinding with ⟨entryRow, isEntry, entry⟩
      refine unwritten finding.2.text ?_
      rw [← sameId]
      exact restoration.statuses entryRow ((same entryRow).mpr isEntry) finding entry
    rw [isNone, withTarget, if_neg outside]
    rfl
  · rcases restoration.only _ written with ⟨entryRow, isEntry, finding, entry, isStatus | isNote⟩
    · obtain ⟨rfl, sameId⟩ := ReviewStatement.updateStatus.inj isStatus
      rcases applied.exists_finding ((same entryRow).mp isEntry) with ⟨other, isFound, otherEntry⟩
      obtain rfl := entry.unique enough otherEntry
      have status := applied.knows.status isFound member sameId
      rw [isSome, Option.bind_some, FindingStatus.ofText?_text, Option.getD_some, ← status,
        withTarget]
      split <;> rfl
    · rcases isNote with ⟨note, isNote, _⟩
      cases isNote

/-- It marks the entries of the group. -/
theorem Restoration.entry_renoted (restoration : Restoration app hex actor sorted log)
    (reviewActions : Table reviewActionsSchema) (stored : ∀ row ∈ sorted, row ∈ reviewActions.rows)
    {row : ReviewAction} (member : row ∈ sorted) :
    ∃ finding, Entry app hex (some actor) finding (renoted log row) := by
  rcases lastNote_cases row.reviewActionId log with ⟨_, unwritten⟩ | ⟨note, isSome, written⟩
  · rcases restoration.notes row member with ⟨note, isLogged⟩
    exact absurd isLogged (unwritten note)
  · rcases restoration.only _ written with ⟨entryRow, isEntry, finding, _, isStatus | isNote⟩
    · cases isStatus
    · rcases isNote with ⟨other, isNote, entry⟩
      obtain ⟨rfl, sameId⟩ := ReviewStatement.updateNote.inj isNote
      obtain rfl := reviewActions.eq_of_key_eq (stored row member) (stored entryRow isEntry) sameId
      rw [renoted, isSome]
      exact ⟨finding, entry⟩

/-- It leaves all other entries as they are. -/
theorem Restoration.renoted_eq (restoration : Restoration app hex actor sorted log)
    (reviewActions : Table reviewActionsSchema) (stored : ∀ row ∈ sorted, row ∈ reviewActions.rows)
    {row : ReviewAction} (member : row ∈ reviewActions.rows) (outside : row ∉ sorted) :
    renoted log row = row := by
  rcases lastNote_cases row.reviewActionId log with ⟨isNone, _⟩ | ⟨note, _, written⟩
  · rw [renoted, isNone]
    rfl
  · rcases restoration.only _ written with ⟨entryRow, isEntry, finding, _, isStatus | isNote⟩
    · cases isStatus
    · rcases isNote with ⟨other, isNote, _⟩
      obtain ⟨_, sameId⟩ := ReviewStatement.updateNote.inj isNote
      obtain rfl := reviewActions.eq_of_key_eq member (stored entryRow isEntry) sameId
      exact absurd isEntry outside

end Group

/-! ## The stack -/

/-- Some entry of the group, which somebody has undone. -/
def UndoneEntry (app : App) (hex : String) (row : ReviewAction) : Prop :=
  ∃ undoneBy finding, Entry app hex (some undoneBy) finding row

/-- All groups of the requests are undone: the findings are as before, and the entries of the
groups are left over. -/
structure Unstacked (app : App) (steps : List ReviewStep) (responses : List Response)
    (catalog last : ReviewCatalog) (extra : List ReviewAction) : Prop where
  findings : last.findings.rows = catalog.findings.rows
  reviewActions : last.reviewActions.rows = catalog.reviewActions.rows ++ extra
  entries : ∀ row ∈ extra, ∃ step ∈ steps, UndoneEntry app step.hex row
  groups : ∀ response ∈ responses, app.reviewActionsEnabled = true ∧ app.catalogReady = true ∧
    ∃ step ∈ steps, response.reviewActionId = "review_" ++ step.hex ∧
      ∃ row ∈ extra, UndoneEntry app step.hex row

section Stack

variable {app : App} {sql : SqlFunctions} {now : ReviewStatement → DateTime}
  {steps : List ReviewStep} {step : ReviewStep} {responses : List Response}
  {targetStatus : FindingStatus} {catalog next last : ReviewCatalog}
  {found : List (String × FindingStatus)} {rows extra : List ReviewAction}

theorem Drawn.tail (drawn : Drawn sql (step :: steps) catalog) : Drawn sql steps catalog where
  isHex other member := drawn.isHex other (List.mem_cons_of_mem _ member)
  distinct := (List.nodup_cons.mp drawn.distinct).2
  unused other member := drawn.unused other (List.mem_cons_of_mem _ member)

theorem Drawn.apart (drawn : Drawn sql (step :: steps) catalog) {other : ReviewStep}
    (member : other ∈ steps) : other.hex ≠ step.hex := by
  intro same
  refine (List.nodup_cons.mp drawn.distinct).1 ?_
  rw [← same]
  exact List.mem_map_of_mem member

theorem Entry.readable {hex : String} {undoneBy : Option String}
    {finding : String × FindingStatus} {row : ReviewAction} (extracts : ExtractsGroups app sql)
    (isHex : IsHex hex) (entry : Entry app hex undoneBy finding row) :
    ∀ note ∈ row.note, ∀ literal, (sql.jsonExtractEq note "$.group_id" literal).isSome = true := by
  rcases entry.note with ⟨operatorNote, target, text, isText, written⟩
  intro note isNote literal
  obtain rfl : text = note := Option.some.inj (isText.symm.trans isNote)
  rw [extracts.malformed text "$.group_id" literal (.text ""),
    extracts.group _ _ _ _ _ _ _ isHex written]
  rfl

/-- Among the entries left over there is none of a group that was drawn besides. -/
theorem Unstacked.inGroup (unstacked : Unstacked app steps responses catalog last extra)
    (extracts : ExtractsGroups app sql) (isHex : ∀ step ∈ steps, IsHex step.hex) {hex : String}
    (otherHex : IsHex hex) {row : ReviewAction} (member : row ∈ extra)
    (isMember : ReviewStatement.inGroup sql ("review_" ++ hex) row = some true) :
    UndoneEntry app hex row ∧ ∃ step ∈ steps, step.hex = hex := by
  rcases unstacked.entries row member with ⟨step, isStep, undoneBy, finding, entry⟩
  rw [entry.inGroup extracts (isHex step isStep) otherHex, Option.some.injEq,
    decide_eq_true_eq] at isMember
  subst isMember
  exact ⟨⟨undoneBy, finding, entry⟩, step, isStep, rfl⟩

theorem Unstacked.readable (unstacked : Unstacked app steps responses catalog last extra)
    (extracts : ExtractsGroups app sql) (isHex : ∀ step ∈ steps, IsHex step.hex)
    (readable : Readable sql catalog) : Readable sql last := by
  intro row member
  rw [unstacked.reviewActions] at member
  rcases List.mem_append.mp member with isOld | isExtra
  · exact readable row isOld
  · rcases unstacked.entries row isExtra with ⟨step, isStep, undoneBy, finding, entry⟩
    exact entry.readable extracts (isHex step isStep)

/-- A group that was undone is left alone. -/
theorem Unstacked.run_undo_again (unstacked : Unstacked app steps responses catalog last extra)
    (extracts : ExtractsGroups app sql) (enough : 0 < app.recursionLimit)
    (drawn : Drawn sql steps catalog) (readable : Readable sql catalog) {response : Response}
    (member : response ∈ responses) (actor : String) :
    runAlone app sql now (.undo response.reviewActionId actor) last =
      (last, .ok (.alreadyUndone response.reviewActionId)) := by
  rcases unstacked.groups response member with
    ⟨enabled, ready, step, isStep, isGroup, entryRow, isExtra, undoneBy, finding, entry⟩
  rw [isGroup]
  refine Review.run_undo_again now enabled ready enough actor
    (unstacked.readable extracts drawn.isHex readable) ?_ ?_
  · refine List.ne_nil_of_mem (List.mem_filter.mpr ⟨?_, decide_eq_true ?_⟩ : entryRow ∈ _)
    · rw [unstacked.reviewActions]
      exact List.mem_append_right _ isExtra
    · rw [entry.inGroup extracts (drawn.isHex step isStep) (drawn.isHex step isStep)]
      simp
  · intro row isMember
    rcases List.mem_filter.mp isMember with ⟨stored, isGroupRow⟩
    rw [unstacked.reviewActions] at stored
    rcases List.mem_append.mp stored with isOld | isNew
    · exact absurd (of_decide_eq_true isGroupRow) (drawn.unused step isStep row isOld).2
    · exact (unstacked.inGroup extracts drawn.isHex (drawn.isHex step isStep) isNew
        (of_decide_eq_true isGroupRow)).1

/-- Once the later groups are undone, those of the last one are selected. -/
theorem Unstacked.mem_groupRows_iff (unstacked : Unstacked app steps responses next last extra)
    (extracts : ExtractsGroups app sql) (drawn : Drawn sql (step :: steps) catalog)
    (applied : Applied app step.hex targetStatus catalog next found rows) (row : ReviewAction) :
    row ∈ groupRows sql step.hex last ↔ row ∈ rows := by
  have isHex := drawn.isHex step List.mem_cons_self
  rw [groupRows, List.mem_filter, decide_eq_true_eq, unstacked.reviewActions, applied.reviewActions]
  constructor
  · rintro ⟨stored, isGroupRow⟩
    rcases List.mem_append.mp stored with isNext | isExtra
    · rcases List.mem_append.mp isNext with isOld | isNew
      · exact absurd isGroupRow (drawn.unused step List.mem_cons_self row isOld).2
      · exact isNew
    · rcases (unstacked.inGroup extracts drawn.tail.isHex isHex isExtra isGroupRow).2 with
        ⟨other, isOther, same⟩
      exact absurd same (drawn.apart isOther)
  · intro member
    rcases applied.exists_finding member with ⟨finding, _, entry⟩
    refine ⟨List.mem_append_left _ (List.mem_append_right _ member), ?_⟩
    rw [entry.inGroup extracts isHex isHex]
    simp

/-- What an applied request adds to the catalog is readable. -/
theorem Applied.readable (applied : Applied app step.hex targetStatus catalog next found rows)
    (extracts : ExtractsGroups app sql) (isHex : IsHex step.hex) (readable : Readable sql catalog) :
    Readable sql next := by
  intro row member
  rw [applied.reviewActions] at member
  rcases List.mem_append.mp member with isOld | isNew
  · exact readable row isOld
  · rcases applied.exists_finding isNew with ⟨finding, _, entry⟩
    exact entry.readable extracts isHex

/-- Nor is it taken for an entry of a group that is drawn later. -/
theorem Applied.drawn (applied : Applied app step.hex targetStatus catalog next found rows)
    (extracts : ExtractsGroups app sql) (drawn : Drawn sql (step :: steps) catalog) :
    Drawn sql steps next where
  isHex := drawn.tail.isHex
  distinct := drawn.tail.distinct
  unused := by
    intro other isOther row member
    rw [applied.reviewActions] at member
    rcases List.mem_append.mp member with isOld | isNew
    · exact drawn.tail.unused other isOther row isOld
    · rcases applied.exists_finding isNew with ⟨finding, _, entry⟩
      have isHex := drawn.isHex step List.mem_cons_self
      have otherHex := drawn.tail.isHex other isOther
      have apart := drawn.apart isOther
      constructor
      · intro index same
        rcases entry.rowId with ⟨entryIndex, rowId⟩
        exact apart (actionId_injective isHex otherHex (rowId.symm.trans same)).1.symm
      · rw [entry.inGroup extracts isHex otherHex]
        simp [Ne.symm apart]

/-- Undoing one more group. -/
theorem Unstacked.undo (now : ReviewStatement → DateTime)
    (unstacked : Unstacked app steps responses next last extra)
    (extracts : ExtractsGroups app sql) (enough : 0 < app.recursionLimit)
    (drawn : Drawn sql (step :: steps) catalog) (readable : Readable sql catalog)
    (applied : Applied app step.hex targetStatus catalog next found rows) (nonempty : found ≠ [])
    {response : Response} (isResponse : response.reviewActionId = "review_" ++ step.hex)
    (actor : String) :
    ∃ extra, Unstacked app (step :: steps) (response :: responses) catalog
      (runAlone app sql now (.undo response.reviewActionId actor) last).1 extra := by
  have isHex := drawn.isHex step List.mem_cons_self
  have same := unstacked.mem_groupRows_iff extracts drawn applied
  have entries : ∀ row ∈ groupRows sql step.hex last,
      ∃ finding, Entry app step.hex none finding row := by
    intro row member
    rcases applied.exists_finding ((same row).mp member) with ⟨finding, _, entry⟩
    exact ⟨finding, entry⟩
  rcases List.exists_mem_of_ne_nil found nonempty with ⟨finding, isFound⟩
  rcases applied.exists_entry isFound with ⟨entryRow, isEntry, _⟩
  have lastReadable := unstacked.readable extracts drawn.tail.isHex
    (applied.readable extracts isHex readable)
  rcases run_undo now applied.enabled applied.ready enough actor lastReadable
    (List.ne_nil_of_mem ((same entryRow).mpr isEntry)) entries with
    ⟨log, final, restored, ran, succeed, restoration⟩
  have sortedSame : ∀ row, row ∈ orderBy ReviewAction.reviewActionId
      (groupRows sql step.hex last) ↔ row ∈ rows := fun row => mem_orderBy.trans (same row)
  have stored : ∀ row ∈ orderBy ReviewAction.reviewActionId (groupRows sql step.hex last),
      row ∈ last.reviewActions.rows := by
    intro row member
    exact List.mem_of_mem_filter (mem_orderBy.mp member)
  have noInsert : ∀ statement ∈ log, inserts statement = false := by
    intro statement member
    rcases restoration.only statement member with ⟨_, _, _, _, rfl | ⟨_, rfl, _⟩⟩ <;> rfl
  have kept : ∀ row ∈ last.reviewActions.rows, row ∉ rows → renoted log row = row :=
    fun row member outside => restoration.renoted_eq last.reviewActions stored member
      (mt (sortedSame row).mp outside)
  have distinct : last.reviewActions.rows.Nodup := by
    refine last.reviewActions.apart.imp ?_
    rintro first second noClash rfl
    exact noClash rfl
  have split := unstacked.reviewActions.trans (congrArg (· ++ extra) applied.reviewActions)
  rw [split] at distinct kept
  rcases List.nodup_append.mp distinct with ⟨distinctNext, _, extraApart⟩
  rcases List.nodup_append.mp distinctNext with ⟨_, _, rowsApart⟩
  rw [isResponse, ran]
  refine ⟨rows.map (renoted log) ++ extra, ?_, ?_, ?_, ?_⟩
  · rw [(findings_of_succeed succeed).1, unstacked.findings]
    exact applied.map_restated enough sortedSame restoration
  · rw [(reviewActions_of_succeed succeed).2 noInsert, split, List.map_append, List.map_append,
      List.append_assoc]
    have keptOld : catalog.reviewActions.rows.map (renoted log) = catalog.reviewActions.rows :=
      Json.map_eq_self_iff.mpr fun row member => kept row (by simp [member])
        fun isRow => rowsApart row member row isRow rfl
    have keptExtra : extra.map (renoted log) = extra :=
      Json.map_eq_self_iff.mpr fun row member => kept row (by simp [member])
        fun isRow => extraApart row (List.mem_append_right _ isRow) row member rfl
    rw [keptOld, keptExtra]
  · intro row member
    rcases List.mem_append.mp member with isMarked | isExtra
    · rcases List.mem_map.mp isMarked with ⟨old, isOld, rfl⟩
      rcases restoration.entry_renoted last.reviewActions stored ((sortedSame old).mpr isOld) with
        ⟨finding, entry⟩
      exact ⟨step, List.mem_cons_self, actor, finding, entry⟩
    · rcases unstacked.entries row isExtra with ⟨other, isOther, undone⟩
      exact ⟨other, List.mem_cons_of_mem _ isOther, undone⟩
  · intro other member
    rcases List.mem_cons.mp member with rfl | isLater
    · rcases restoration.entry_renoted last.reviewActions stored
        ((sortedSame entryRow).mpr isEntry) with ⟨marked, entry⟩
      exact ⟨applied.enabled, applied.ready, step, List.mem_cons_self, isResponse,
        renoted log entryRow, List.mem_append_left _ (List.mem_map_of_mem isEntry),
        actor, marked, entry⟩
    · rcases unstacked.groups other isLater with
        ⟨enabled, ready, group, isGroup, isId, row, isExtra, undone⟩
      exact ⟨enabled, ready, group, List.mem_cons_of_mem _ isGroup, isId, row,
        List.mem_append_right _ isExtra, undone⟩

theorem run_step (sql : SqlFunctions) (now : ReviewStatement → DateTime)
    (enough : 0 < app.recursionLimit) (drawn : Drawn sql (step :: steps) catalog) :
    (∃ error, runAlone app sql now step.request catalog = (catalog, .error error)) ∨
      ∃ next matchedCount changed found rows, runAlone app sql now step.request catalog =
          (next, .ok (.applied ("review_" ++ step.hex) matchedCount changed)) ∧
        Applied app step.hex step.targetStatus catalog next found rows ∧
        (0 < matchedCount → found ≠ []) := by
  have isHex := drawn.isHex step List.mem_cons_self
  have unused := fun row member => (drawn.unused step List.mem_cons_self row member).1
  unfold ReviewStep.request ReviewStep.targetStatus
  split
  · exact run_applyReviewAction sql now enough step.body .dismiss .dismissed isHex unused
  · exact run_applyReviewAction sql now enough step.body .restore .new isHex unused

theorem Unstacked.cons (unstacked : Unstacked app steps responses catalog last extra)
    (step : ReviewStep) : Unstacked app (step :: steps) responses catalog last extra where
  findings := unstacked.findings
  reviewActions := unstacked.reviewActions
  entries row member := by
    rcases unstacked.entries row member with ⟨other, isOther, undone⟩
    exact ⟨other, List.mem_cons_of_mem _ isOther, undone⟩
  groups response member := by
    rcases unstacked.groups response member with ⟨enabled, ready, other, isOther, rest⟩
    exact ⟨enabled, ready, other, List.mem_cons_of_mem _ isOther, rest⟩

/-- The induction over the stack of groups. -/
theorem unstacked_of_readable (now : ReviewStatement → DateTime)
    (extracts : ExtractsGroups app sql) (enough : 0 < app.recursionLimit) (actor : String → String)
    (drawn : Drawn sql steps catalog) (readable : Readable sql catalog)
    (matching : ∀ response ∈ (serveAll app sql now steps catalog).2, 0 < response.matches) :
    (∃ extra, Unstacked app steps (serveAll app sql now steps catalog).2 catalog
        (undoAll app sql now actor (stack app sql now steps catalog)
          (serveAll app sql now steps catalog).1) extra) ∧
      ∀ past later, stack app sql now steps catalog = past ++ later →
        ∀ reviewActionId ∈ past, ∀ again, runAlone app sql now (.undo reviewActionId again)
              (undoAll app sql now actor past (serveAll app sql now steps catalog).1) =
            (undoAll app sql now actor past (serveAll app sql now steps catalog).1,
              .ok (.alreadyUndone reviewActionId)) := by
  induction steps generalizing catalog with
  | nil =>
    refine ⟨⟨[], rfl, (List.append_nil _).symm, by simp, by simp [serveAll]⟩, ?_⟩
    intro past later split reviewActionId member
    obtain ⟨rfl, _⟩ := List.append_eq_nil_iff.mp split.symm
    exact absurd member List.not_mem_nil
  | cons step steps ih =>
    rcases run_step sql now enough drawn with
      ⟨error, ran⟩ | ⟨next, matchedCount, changed, found, rows, ran, applied, nonempty⟩
    · have served : serveAll app sql now (step :: steps) catalog =
          serveAll app sql now steps catalog := by
        rw [serveAll, ran]
      have sameStack : stack app sql now (step :: steps) catalog =
          stack app sql now steps catalog := by
        rw [stack, stack, served]
      rw [served] at matching
      rw [served, sameStack]
      rcases ih drawn.tail readable matching with ⟨⟨extra, unstacked⟩, repeated⟩
      exact ⟨⟨extra, unstacked.cons step⟩, repeated⟩
    · let response : Response := .applied ("review_" ++ step.hex) matchedCount changed
      have served : serveAll app sql now (step :: steps) catalog =
          ((serveAll app sql now steps next).1,
            response :: (serveAll app sql now steps next).2) := by
        rw [serveAll, ran]
      have pushed : stack app sql now (step :: steps) catalog =
          stack app sql now steps next ++ [response.reviewActionId] := by
        rw [stack, stack, served, List.map_cons, List.reverse_cons]
      rw [served] at matching
      rcases List.forall_mem_cons.mp matching with ⟨isMatched, matchingRest⟩
      have isHex := drawn.isHex step List.mem_cons_self
      rcases ih (applied.drawn extracts drawn) (applied.readable extracts isHex readable)
        matchingRest with ⟨⟨extra, unstacked⟩, repeated⟩
      rcases unstacked.undo now extracts enough drawn readable applied (nonempty isMatched)
        (rfl : response.reviewActionId = _) (actor response.reviewActionId) with
        ⟨allExtra, undone⟩
      rw [served, pushed]
      have popped : undoAll app sql now actor
          (stack app sql now steps next ++ [response.reviewActionId])
          (serveAll app sql now steps next).1 =
          (runAlone app sql now (.undo response.reviewActionId (actor response.reviewActionId))
            (undoAll app sql now actor (stack app sql now steps next)
              (serveAll app sql now steps next).1)).1 := by
        rw [undoAll, List.foldl_append]
        rfl
      refine ⟨⟨allExtra, popped ▸ undone⟩, ?_⟩
      intro past later split reviewActionId member again
      rcases List.eq_nil_or_concat later with rfl | ⟨middle, top, rfl⟩
      · rw [List.append_nil] at split
        subst split
        rw [popped]
        have isResponse : ∃ other ∈ response :: (serveAll app sql now steps next).2,
            other.reviewActionId = reviewActionId := by
          rw [← pushed, stack, served, List.mem_reverse] at member
          exact List.mem_map.mp member
        rcases isResponse with ⟨other, isOther, rfl⟩
        exact undone.run_undo_again extracts enough drawn readable isOther again
      · rw [List.concat_eq_append, ← List.append_assoc] at split
        exact repeated past middle (List.append_inj' split rfl).1 reviewActionId member again

end Stack

/-! ## What a request leaves alone -/

/-- A status is written to these findings only. -/
def Touches (findingIds : List String) : ReviewStatement → Prop
  | updateStatus _ findingId => findingId ∈ findingIds
  | _ => True

/-- Nothing but the status of these findings differs. -/
def KeepsOthers (findingIds : List String) (catalog current : ReviewCatalog) : Prop :=
  current.findings.rows.map Finding.findingId = catalog.findings.rows.map Finding.findingId ∧
    ∀ row ∈ catalog.findings.rows, row.findingId ∉ findingIds → row ∈ current.findings.rows

section Frame

variable {app : App} {sql : SqlFunctions} {now : ReviewStatement → DateTime}
  {findingIds : List String} {catalog current : ReviewCatalog}

theorem keepsOthers_perform (statement : ReviewStatement) (touches : Touches findingIds statement)
    (keeps : KeepsOthers findingIds catalog current) :
    KeepsOthers findingIds catalog (perform sql now statement current).1 := by
  rcases performed : perform sql now statement current with ⟨next, error | result⟩
  · obtain rfl := perform_error performed
    exact keeps
  · rcases (perform_findings performed).2 with
      ⟨status, findingId, rfl, written, _⟩ | ⟨same, _⟩
    · refine ⟨?_, fun row member outside => ?_⟩
      · rw [written, List.map_map, ← keeps.1]
        exact List.map_congr_left fun row _ => withStatus_findingId status findingId row
      · rw [written]
        refine List.mem_map.mpr ⟨row, keeps.2 row member outside, if_neg ?_⟩
        rintro rfl
        exact outside touches
    · dsimp only
      rw [KeepsOthers, same]
      exact keeps

theorem keepsOthers_run {α : Type} {program : Handler α}
    (issues : program.Issues (Touches findingIds)) (catalog : ReviewCatalog) :
    KeepsOthers findingIds catalog (program.run (perform sql now) catalog).1 :=
  issues.run_preserves (fun statement _ => keepsOthers_perform statement)
    ⟨rfl, fun _ member _ => member⟩

theorem issues_execute_bind {α : Type} {allowed : ReviewStatement → Prop}
    {statement : ReviewStatement} {rest : statement.Result → Handler α}
    (isAllowed : allowed statement) (restIssues : ∀ result, (rest result).Issues allowed) :
    (execute statement >>= rest).Issues allowed := by
  refine ⟨isAllowed, fun reply => ?_⟩
  cases reply with
  | error error => trivial
  | ok result => exact restIssues result

theorem applyFindings_touches (body : ReviewActionRequest) (groupId : String)
    (action : ReviewActionKind) (targetStatus : FindingStatus) (index : ℕ)
    {findings : List (String × FindingStatus)}
    (within : ∀ finding ∈ findings, finding.1 ∈ findingIds) :
    (applyFindings app body groupId action targetStatus index findings).Issues
      (Touches findingIds) := by
  induction findings generalizing index with
  | nil => trivial
  | cons finding findings ih =>
    rcases List.forall_mem_cons.mp within with ⟨isWithin, withinRest⟩
    rw [applyFindings]
    refine Program.Issues.bind ?_ fun changed => ?_
    · unfold setStatus
      split
      · trivial
      · exact issues_execute_bind isWithin fun _ => trivial
    · rw [Program.issues_ofExcept_bind]
      intro note _
      exact issues_execute_bind trivial fun _ => (ih (index + 1) withinRest).bind fun _ => trivial

theorem updateFindings_touches (body : ReviewActionRequest) (groupId : String)
    (action : ReviewActionKind) (targetStatus : FindingStatus) :
    (findingsForUpdate findingIds >>=
      applyFindings app body groupId action targetStatus 0).Issues (Touches findingIds) := by
  unfold findingsForUpdate
  cases findingIds with
  | nil => trivial
  | cons first rest =>
    dsimp only
    rw [execute_bind_assoc]
    refine issues_execute_bind trivial fun rows => ?_
    split
    · rename_i same
      refine applyFindings_touches body groupId action targetStatus 0 fun finding member => ?_
      rw [← List.mem_toFinset, ← same, List.mem_toFinset]
      exact List.mem_map_of_mem member
    · trivial

theorem undoRows_touches (actor : String) {notes : List (String × String × PyValue)}
    (within : ∀ note ∈ notes, note.2.1 ∈ findingIds) :
    (undoRows app actor notes).Issues (Touches findingIds) := by
  induction notes with
  | nil => trivial
  | cons note notes ih =>
    rcases List.forall_mem_cons.mp within with ⟨isWithin, withinRest⟩
    rcases note with ⟨rowId, findingId, value⟩
    cases value with
    | dict items =>
      rw [undoRows]
      refine Program.Issues.bind ?_ fun restored => ?_
      · unfold restoreStatus
        split
        · split
          · trivial
          · exact issues_execute_bind isWithin fun _ => trivial
        · trivial
      · rw [Program.issues_ofExcept_bind]
        intro text _
        exact issues_execute_bind trivial fun _ => (ih withinRest).bind fun _ => trivial
    | _ => trivial

theorem applyReviewAction_keepsOthers (body : ReviewActionRequest) (hex : String)
    (action : ReviewActionKind) (targetStatus : FindingStatus) (catalog : ReviewCatalog) :
    KeepsOthers (targets sql now (.dismiss body hex) catalog) catalog
      ((applyReviewAction app body hex action targetStatus).run (perform sql now) catalog).1 := by
  have unchanged : ∀ findingIds, KeepsOthers findingIds catalog catalog :=
    fun _ => ⟨rfl, fun _ member _ => member⟩
  unfold applyReviewAction openReadyCatalog
  split
  · split
    · simp only [Program.pure_eq, Program.done_bind, withConnection]
      rw [Program.run_bind, targets]
      have kept := run_reviewTargetIds_fst sql now body catalog
      rcases targeted : (reviewTargetIds body).run (perform sql now) catalog with
        ⟨state, error | findingIds⟩
      · rw [targeted] at kept
        obtain rfl : state = catalog := kept
        exact unchanged _
      · rw [targeted] at kept
        obtain rfl : state = catalog := kept
        dsimp only
        rw [run_bind_done]
        exact keepsOthers_run (updateFindings_touches body _ action targetStatus) state
    · exact unchanged _
  · exact unchanged _

theorem undoReviewAction_keepsOthers (reviewActionId actor : String) (catalog : ReviewCatalog) :
    KeepsOthers (targets sql now (.undo reviewActionId actor) catalog) catalog
      ((undoReviewAction app reviewActionId actor).run (perform sql now) catalog).1 := by
  have unchanged : ∀ findingIds, KeepsOthers findingIds catalog catalog :=
    fun _ => ⟨rfl, fun _ member _ => member⟩
  unfold undoReviewAction openReadyCatalog
  split
  · split
    · rw [Program.pure_eq, Program.done_bind, run_execute_bind, targets]
      rcases performed : perform sql now (selectGroup reviewActionId) catalog with
        ⟨state, error | rows⟩
      · obtain rfl := perform_error performed
        exact unchanged _
      · have kept : (perform sql now (selectGroup reviewActionId) catalog).1 = catalog :=
          perform_selectGroup_fst reviewActionId
        rw [performed] at kept
        obtain rfl : state = catalog := kept
        dsimp only
        refine keepsOthers_run ?_ state
        split
        · trivial
        · rw [Program.issues_ofExcept_bind]
          intro notes read
          rw [Program.issues_ofExcept_bind]
          intro already _
          split
          · trivial
          · refine (undoRows_touches actor fun note member => ?_).bind fun _ => trivial
            rcases exists_of_mapM_ok read note member with ⟨row, isRow, isNote⟩
            unfold readNote at isNote
            dsimp only at isNote
            split at isNote
            · obtain rfl := Except.ok.inj isNote
              exact List.mem_map_of_mem isRow
            · cases isNote
    · exact unchanged _
  · exact unchanged _

theorem framed (app : App) (sql : SqlFunctions) (now : ReviewStatement → DateTime)
    (request : Request) (catalog : ReviewCatalog) : Framed app sql now request catalog := by
  have keeps : KeepsOthers (targets sql now request catalog) catalog
      (runAlone app sql now request catalog).1 := by
    cases request with
    | dismiss body hex => exact applyReviewAction_keepsOthers body hex .dismiss .dismissed catalog
    | restore body hex => exact applyReviewAction_keepsOthers body hex .restore .new catalog
    | undo reviewActionId actor => exact undoReviewAction_keepsOthers reviewActionId actor catalog
  exact ⟨keeps.1, keeps.2⟩

end Frame

/-! ## Unreadable notes -/

variable {actor : String → String}

section Unreadable

variable {app : App} {sql : SqlFunctions} {now : ReviewStatement → DateTime}
  {steps : List ReviewStep} {catalog : ReviewCatalog}

/-- The requests only add entries, and their groups are those that were drawn. -/
theorem serveAll_adds (now : ReviewStatement → DateTime) (extracts : ExtractsGroups app sql)
    (enough : 0 < app.recursionLimit) (drawn : Drawn sql steps catalog) :
    (∀ row ∈ catalog.reviewActions.rows,
        row ∈ (serveAll app sql now steps catalog).1.reviewActions.rows) ∧
      ∀ reviewActionId ∈ stack app sql now steps catalog,
        ∃ step ∈ steps, reviewActionId = "review_" ++ step.hex := by
  induction steps generalizing catalog with
  | nil => exact ⟨fun _ member => member, fun _ member => absurd member List.not_mem_nil⟩
  | cons step steps ih =>
    rcases run_step sql now enough drawn with
      ⟨error, ran⟩ | ⟨next, matchedCount, changed, found, rows, ran, applied, _⟩
    · have served : serveAll app sql now (step :: steps) catalog =
          serveAll app sql now steps catalog := by
        rw [serveAll, ran]
      rw [stack, served]
      rcases ih drawn.tail with ⟨kept, groups⟩
      refine ⟨kept, fun reviewActionId member => ?_⟩
      rcases groups reviewActionId member with ⟨other, isOther, isId⟩
      exact ⟨other, List.mem_cons_of_mem _ isOther, isId⟩
    · rcases ih (applied.drawn extracts drawn) with ⟨kept, groups⟩
      have served : serveAll app sql now (step :: steps) catalog =
          ((serveAll app sql now steps next).1, .applied ("review_" ++ step.hex) matchedCount
            changed :: (serveAll app sql now steps next).2) := by
        rw [serveAll, ran]
      rw [stack, served, List.map_cons, List.reverse_cons]
      refine ⟨fun row member => kept row ?_, fun reviewActionId member => ?_⟩
      · rw [applied.reviewActions]
        exact List.mem_append_left _ member
      · rcases List.mem_append.mp member with isLater | isFirst
        · rcases groups reviewActionId isLater with ⟨other, isOther, isId⟩
          exact ⟨other, List.mem_cons_of_mem _ isOther, isId⟩
        · exact ⟨step, List.mem_cons_self, List.mem_singleton.mp isFirst⟩

/-- A request that fails has changed nothing. -/
theorem serveAll_of_none (enough : 0 < app.recursionLimit) (drawn : Drawn sql steps catalog)
    (none : (serveAll app sql now steps catalog).2 = []) :
    (serveAll app sql now steps catalog).1 = catalog := by
  induction steps with
  | nil => rfl
  | cons step steps ih =>
    rw [serveAll] at none ⊢
    rcases run_step sql now enough drawn with
      ⟨error, ran⟩ | ⟨next, matchedCount, changed, found, rows, ran, _⟩
    · rw [ran] at none ⊢
      exact ih drawn.tail none
    · rw [ran] at none
      cases none

/-- Where every undo fails, nothing is undone. -/
theorem undoAll_of_error {reviewActionIds : List String}
    (fails : ∀ reviewActionId ∈ reviewActionIds, ∀ actor, ∃ error,
      runAlone app sql now (.undo reviewActionId actor) catalog = (catalog, .error error)) :
    undoAll app sql now actor reviewActionIds catalog = catalog := by
  induction reviewActionIds with
  | nil => rfl
  | cons reviewActionId reviewActionIds ih =>
    rcases List.forall_mem_cons.mp fails with ⟨failsFirst, failsRest⟩
    rcases failsFirst (actor reviewActionId) with ⟨error, ran⟩
    rw [undoAll, List.foldl_cons, ran]
    exact ih failsRest

/-- With one unreadable note, no group can be undone. -/
theorem not_lastInFirstOut (extracts : ExtractsGroups app sql) (enough : 0 < app.recursionLimit)
    (drawn : Drawn sql steps catalog) (served : (serveAll app sql now steps catalog).2 ≠ [])
    (unreadable : ¬Readable sql catalog) : ¬LastInFirstOut app sql now actor steps catalog := by
  intro undoes
  unfold Readable at unreadable
  push Not at unreadable
  rcases unreadable with ⟨row, member, note, isNote, literal, notSome⟩
  rcases serveAll_adds now extracts enough drawn with ⟨kept, groups⟩
  have fails : ∀ reviewActionId ∈ stack app sql now steps catalog, ∀ actor, ∃ error,
      runAlone app sql now (.undo reviewActionId actor) (serveAll app sql now steps catalog).1 =
        ((serveAll app sql now steps catalog).1, .error error) := by
    intro reviewActionId isGroup actor
    rcases groups reviewActionId isGroup with ⟨step, isStep, rfl⟩
    refine run_undo_unreadable now (kept row member) ?_ actor
    have different : row.reviewActionId ≠ "review_" ++ step.hex := by
      have unused := (drawn.unused step isStep row member).1 0
      rwa [actionId_zero] at unused
    have malformed := extracts.malformed note "$.group_id" literal (.text ("review_" ++ step.hex))
    rw [Bool.eq_false_of_not_eq_true notSome, eq_comm, Option.isSome_eq_false_iff,
      Option.isNone_iff_eq_none] at malformed
    rw [inGroup, if_neg different, Option.mem_def.mp isNote]
    exact malformed
  have nonempty : stack app sql now steps catalog ≠ [] := by
    rw [stack, ne_eq, List.reverse_eq_nil_iff, List.map_eq_nil_iff]
    exact served
  rcases List.exists_mem_of_ne_nil _ nonempty with ⟨reviewActionId, isGroup⟩
  have again := undoes.repeated (stack app sql now steps catalog) []
    (List.append_nil _).symm reviewActionId isGroup ""
  rw [undoAll_of_error fails] at again
  rcases fails reviewActionId isGroup "" with ⟨error, ran⟩
  cases congrArg Prod.snd (ran.symm.trans again)

/-- Undoing in reverse order is exact if and only if `json_extract` can read every note of the
catalog, unless there is nothing to undo. -/
theorem lastInFirstOut_iff_readable (extracts : ExtractsGroups app sql)
    (enough : 0 < app.recursionLimit) (drawn : Drawn sql steps catalog)
    (matching : ∀ response ∈ (serveAll app sql now steps catalog).2, 0 < response.matches)
    (actor : String → String) :
    (LastInFirstOut app sql now actor steps catalog ∧
        ∀ request state, Framed app sql now request state) ↔
      (serveAll app sql now steps catalog).2 = [] ∨ Readable sql catalog := by
  constructor
  · rintro ⟨undoes, _⟩
    by_contra neither
    rw [not_or] at neither
    exact not_lastInFirstOut extracts enough drawn neither.1 neither.2 undoes
  · intro either
    refine ⟨?_, fun request state => framed app sql now request state⟩
    rcases either with none | readable
    · have empty : stack app sql now steps catalog = [] := by
        rw [stack, none]
        rfl
      constructor
      · intro findingId
        rw [empty, serveAll_of_none enough drawn none]
        rfl
      · intro past later split reviewActionId member
        rw [empty] at split
        obtain ⟨rfl, _⟩ := List.append_eq_nil_iff.mp split.symm
        exact absurd member List.not_mem_nil
    · rcases unstacked_of_readable now extracts enough actor drawn readable matching with
        ⟨⟨extra, unstacked⟩, repeated⟩
      refine ⟨fun findingId => ?_, repeated⟩
      rw [Table.lookup_congr (List.Perm.of_eq unstacked.findings)]

end Unreadable

/-! ## A note that is empty -/

def sampleHex : String := "0123456789abcdef01234567"

theorem isHex_sampleHex : IsHex sampleHex := by
  have digits : sampleHex.toList.all fun char => char ∈ "0123456789abcdef".toList := by
    decide
  exact ⟨rfl, fun char member => of_decide_eq_true (List.all_eq_true.mp digits char member)⟩

theorem extractsGroups_sample : ExtractsGroups sampleApp sampleFunctions where
  group := by
    intro hex operatorNote previousStatus targetStatus undoneBy text groupId _ written
    have read : loads 1000 text = _ := loads_noteText (by decide) written
    have group : PyDict.get (readEntryNote hex operatorNote previousStatus targetStatus undoneBy)
        "group_id" = .str ("review_" ++ hex) := by
      cases undoneBy with
      | none => rfl
      | some actor =>
        rw [readEntryNote, PyDict.get, readUndoneNote, get?_dictItems]
        rfl
    simp only [sampleFunctions, read, if_true, group, sqlValue, PyValue.str, toString?_ofString,
      Option.map_some, Option.some.injEq, SqlLiteral.text.injEq]
  malformed := by
    intro json path first second
    simp only [sampleFunctions]
    split <;> rfl

def findingCatalog (notes : List String) : ReviewCatalog where
  findings := (Table.empty.insert sampleFinding).getD .empty
  evidence := []
  reviewActions := (notes.mapIdx fun index note =>
    ⟨"legacy_" ++ Nat.repr index, "find_1", .note, "operator", some note,
      "2026-07-01T12:00:00Z"⟩).foldl (fun table row => (table.insert row).getD table) .empty

def dismissStep : ReviewStep := ⟨true, ⟨["find_1"], none, "operator", none⟩, sampleHex⟩

theorem drawn_dismissStep (notes : List String)
    (unused : ∀ row ∈ (findingCatalog notes).reviewActions.rows,
      row.reviewActionId.toList.head? ≠ some 'r' ∧
        inGroup sampleFunctions ("review_" ++ sampleHex) row ≠ some true) :
    Drawn sampleFunctions [dismissStep] (findingCatalog notes) where
  isHex step member := by
    rw [List.mem_singleton.mp member]
    exact isHex_sampleHex
  distinct := List.nodup_singleton _
  unused step member row isRow := by
    rw [List.mem_singleton.mp member]
    refine ⟨fun index same => (unused row isRow).1 ?_, (unused row isRow).2⟩
    rw [same, toList_actionId]
    rfl

theorem lastInFirstOut_iff_readable_dismissal :
    LastInFirstOut sampleApp sampleFunctions firstMoment (fun _ => "operator") [dismissStep]
      (findingCatalog ["\x7b\x7d"]) := by
  refine ((lastInFirstOut_iff_readable extractsGroups_sample (by decide)
    (drawn_dismissStep _ ?_) ?_ _).mpr (Or.inr ?_)).1
  · decide
  · decide
  · intro row member note isNote literal
    rw [extractsGroups_sample.malformed note _ literal (.integer 0)]
    revert row note
    decide

/-- The undo raises for the empty note, and the finding stays dismissed. -/
theorem empty_note_breaks_undo :
    ¬LastInFirstOut sampleApp sampleFunctions firstMoment (fun _ => "operator") [dismissStep]
      (findingCatalog [""]) := by
  intro undoes
  have restored := undoes.restored "find_1"
  revert restored
  decide

end Reperio.Review
