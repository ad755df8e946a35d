import Reperio.Api.ReviewConflicts
import Reperio.Api.ReviewUndo
import Reperio.Concurrency.Trace

/-!
# Rows that are undone once more

An undo names a whole group of review actions or one row of it. It leaves the
rows alone only when all of them are marked as undone; otherwise it takes every
row of the selection as one to undo, so a row that was undone by itself writes
its old status again when its group is undone.
-/

namespace Reperio.Review

open Concurrency Python Catalog Relational ReviewStatement
open Api (Failure)

/-! ## Requests one after the other -/

/-- A request, and the clock of SQLite while it is served. -/
structure Call where
  request : Request
  now : ReviewStatement → DateTime

section Calls

variable (app : App) (sql : SqlFunctions)

def serve (catalog : ReviewCatalog) (call : Call) : Option ReviewCatalog :=
  some (runAlone app sql call.now call.request catalog).1

/-- The catalog after the requests. -/
def serveCalls (catalog : ReviewCatalog) (calls : List Call) : ReviewCatalog :=
  calls.foldl (fun catalog call => (runAlone app sql call.now call.request catalog).1) catalog

theorem runFrom_serve (catalog : ReviewCatalog) (calls : List Call) :
    runFrom (serve app sql) catalog calls = some (serveCalls app sql catalog calls) := by
  induction calls generalizing catalog with
  | nil => rfl
  | cons call calls ih => exact ih _

def statusOf (findingId : String) (catalog : ReviewCatalog) : Option FindingStatus :=
  (catalog.findings.lookup findingId).map Finding.status

/-- The rows that an undo selects. -/
def selection (reviewActionId : String) (catalog : ReviewCatalog) : List ReviewAction :=
  catalog.reviewActions.rows.filter fun row =>
    decide (inGroup sql reviewActionId row = some true)

/-- The items of the note, where it is read as a mapping. -/
def noteItems? (row : ReviewAction) : Option PyDict := match readNote app row with
  | .ok (_, _, .dict items) => some items
  | _ => none

def isMarked (row : ReviewAction) : Bool := (noteItems? app row).any isUndone

def namesStatus (items : PyDict) : Bool := match PyDict.get items "previous_status" with
  | .text _ => true
  | _ => false

/-- The statement puts back the status that a row logs, which is not marked as undone. -/
def Undoes (rows : List ReviewAction) (statement : ReviewStatement) : Prop :=
  ∃ row ∈ rows, ∃ items status, noteItems? app row = some items ∧ isUndone items = false ∧
    PyDict.get items "previous_status" = .str status ∧
    statement = updateStatus status row.findingId

/-- An undo alters the status of a finding only through selected rows that were not undone. -/
def UndoesOnce (catalog : ReviewCatalog) (call : Call) : Prop := match call.request with
  | .undo reviewActionId actor =>
    ∀ event ∈ (undoReviewAction app reviewActionId actor).trace (perform sql call.now) catalog,
      ∀ findingId,
        statusOf findingId (perform sql call.now event.2 event.1).1 ≠ statusOf findingId event.1 →
        Undoes app (selection sql reviewActionId catalog) event.2
  | _ => True

/-- The rows that an undo selects are all undone, or none of them that is names a status. -/
def Unmixed (catalog : ReviewCatalog) (call : Call) : Prop := match call.request with
  | .undo reviewActionId _ =>
    (∀ row ∈ selection sql reviewActionId catalog, isMarked app row = true) ∨
      ∀ row ∈ selection sql reviewActionId catalog, ∀ items, noteItems? app row = some items →
        isUndone items = true → namesStatus items = false
  | _ => True

end Calls

/-! ## Undos -/

variable {notes : List (String × String × PyValue)} {findingId : String} {catalog : ReviewCatalog}

section Undo

variable {app : App} {sql : SqlFunctions} {now : ReviewStatement → DateTime}
  {rows : List ReviewAction}

theorem ofString_of_toString? {points : PyStr} {text : String}
    (isText : points.toString? = some text) : points = .ofString text := by
  unfold PyStr.toString? at isText
  split at isText
  · rename_i scalar
    obtain rfl := Option.some.inj isText
    have each : ∀ point ∈ points, CodePoint.ofChar (Char.ofNat point.val) = point := by
      intro point member
      have isScalar := of_decide_eq_true (List.all_eq_true.mp scalar point member)
      have valid : point.val.isValidChar := by
        rw [Nat.isValidChar]
        have bounded := point.isLt
        omega
      rw [CodePoint.ofChar, Char.ofNat, dif_pos valid]
      exact Fin.ofNat_val_eq_self point
    rw [PyStr.ofString, String.toList_ofList, PyStr.ofChars, List.map_map]
    exact (Json.map_eq_self_iff.mpr each).symm
  · cases isText

theorem exists_row_of_readNote (read : rows.mapM (readNote app) = .ok notes) {rowId : String}
    {items : PyDict} (member : (rowId, findingId, .dict items) ∈ notes) :
    ∃ row ∈ rows, noteItems? app row = some items ∧ row.findingId = findingId := by
  rcases exists_of_mapM_ok read _ member with ⟨row, isRow, isNote⟩
  refine ⟨row, isRow, by rw [noteItems?, isNote], ?_⟩
  unfold readNote at isNote
  dsimp only at isNote
  split at isNote
  · exact (Prod.mk.inj (Prod.mk.inj (Except.ok.inj isNote)).2).1
  · cases isNote

/-- What the loop over the notes may write. -/
theorem undoRows_issues (actor : String)
    (fresh : ∀ rowId findingId items status, (rowId, findingId, .dict items) ∈ notes →
      PyDict.get items "previous_status" = .str status →
      Undoes app rows (updateStatus status findingId)) :
    (undoRows app actor notes).Issues fun statement =>
      Undoes app rows statement ∨ ∃ note rowId, statement = updateNote note rowId := by
  induction notes with
  | nil => trivial
  | cons note notes ih =>
    have freshRest := ih fun rowId findingId items status member =>
      fresh rowId findingId items status (List.mem_cons_of_mem _ member)
    rcases note with ⟨rowId, findingId, value⟩
    cases value with
    | dict items =>
      rw [undoRows]
      refine Program.Issues.bind ?_ fun restored => ?_
      · unfold restoreStatus
        split
        · rename_i points isText
          split
          · trivial
          · rename_i status isStatus
            refine issues_execute_bind (Or.inl ?_) fun _ => trivial
            refine fresh rowId findingId items status List.mem_cons_self ?_
            rw [isText, ofString_of_toString? isStatus]
            rfl
        · trivial
      · rw [Program.issues_ofExcept_bind]
        intro text _
        exact issues_execute_bind (Or.inr ⟨text, rowId, rfl⟩) fun _ =>
          freshRest.bind fun _ => trivial
    | _ => trivial

/-- The notes that are read are all undone if those of the rows are marked. -/
theorem allUndone_iff
    (paired : List.Forall₂ (fun row note => readNote app row = .ok note) rows notes) :
    allUndone notes = .ok true ↔ ∀ row ∈ rows, isMarked app row = true := by
  induction paired with
  | nil => simp [allUndone]
  | @cons row note rows notes isRead _ ih =>
    rw [List.forall_mem_cons, ← ih, isMarked, noteItems?, isRead]
    rcases note with ⟨rowId, findingId, value⟩
    cases value with
    | dict items =>
      rw [allUndone]
      cases undone : isUndone items <;> simp [undone]
    | _ => simp [allUndone]

theorem trace_execute_bind {α State : Type}
    (perform : (statement : ReviewStatement) → State → State × statement.Reply)
    (statement : ReviewStatement) (rest : statement.Result → Handler α) (state : State) :
    (execute statement >>= rest).trace perform state = (state, statement) ::
      match perform statement state with
      | (next, .ok result) => (rest result).trace perform next
      | (_, .error _) => [] := by
  rcases performed : perform statement state with ⟨next, error | result⟩ <;>
    · simp only [execute, Program.query, Program.execute_bind, Program.done_bind,
        Program.trace_execute, performed]
      rfl

theorem selected_of_perform {reviewActionId : String} {next : ReviewCatalog}
    (performed : perform sql now (selectGroup reviewActionId) catalog = (next, .ok rows)) :
    next = catalog ∧ ∀ row, row ∈ rows ↔ row ∈ selection sql reviewActionId catalog := by
  simp only [perform, selectWhere] at performed
  split at performed
  · rename_i found isFound
    split at isFound
    · cases isFound
      cases performed
      exact ⟨rfl, fun row => mem_orderBy⟩
    · cases isFound
  · cases performed

/-- What an undo issues once it has selected its rows. -/
theorem selected_issues (reviewActionId actor : String)
    (unmixed : (∀ row ∈ rows, isMarked app row = true) ∨
      ∀ row ∈ rows, ∀ items, noteItems? app row = some items → isUndone items = true →
        namesStatus items = false) :
    (do
      let notes ← Program.ofExcept (rows.mapM (readNote app))
      let already ← Program.ofExcept (allUndone notes)
      if already then return .alreadyUndone reviewActionId
      else do
        let restored ← withConnection (undoRows app actor notes)
        return .undone reviewActionId restored : Handler Response).Issues fun statement =>
      Undoes app rows statement ∨ ∃ note rowId, statement = updateNote note rowId := by
  rw [Program.issues_ofExcept_bind]
  intro notes read
  rw [Program.issues_ofExcept_bind]
  intro already isAlready
  split
  · trivial
  · rename_i notAlready
    refine (undoRows_issues actor fun rowId findingId items status member named => ?_).bind
      fun _ => trivial
    rcases exists_row_of_readNote read member with ⟨row, isRow, isItems, rfl⟩
    refine ⟨row, isRow, items, status, isItems, ?_, named, rfl⟩
    rcases unmixed with marked | unnamed
    · rw [(allUndone_iff (forall₂_of_mapM_ok read)).mpr marked] at isAlready
      exact absurd (Except.ok.inj isAlready).symm notAlready
    · by_contra undone
      rw [Bool.not_eq_false] at undone
      have names : namesStatus items = true := by
        rw [namesStatus, named]
        rfl
      rw [unnamed row isRow items isItems undone] at names
      cases names

/-- A statement that only writes a note alters no finding. -/
theorem statusOf_updateNote (note rowId findingId : String) (catalog : ReviewCatalog) :
    statusOf findingId (perform sql now (updateNote note rowId) catalog).1 =
      statusOf findingId catalog := by
  rw [perform_updateNote_eq]
  rfl

/-- A statement that restates a finding alters no other one. -/
theorem statusOf_updateStatus {status otherId : String} (other : otherId ≠ findingId) :
    statusOf findingId (perform sql now (updateStatus status otherId) catalog).1 =
      statusOf findingId catalog := by
  rw [perform_updateStatus_eq]
  split
  · rfl
  · have kept : (restate status otherId catalog.findings).lookup findingId =
        catalog.findings.lookup findingId := by
      rcases found : catalog.findings.lookup findingId with _ | row
      · rw [← Option.isNone_iff_eq_none, ← Option.isSome_eq_false_iff] at found ⊢
        rw [lookup_restate_isSome, found]
      · rcases Table.lookup_eq_some.mp found with ⟨member, isKey⟩
        refine Table.lookup_eq_some.mpr ⟨List.mem_map.mpr ⟨row, member, if_neg ?_⟩, isKey⟩
        rintro rfl
        exact other isKey
    exact congrArg (Option.map Finding.status) kept

theorem undoesOnce_of_unmixed {call : Call} (unmixed : Unmixed app sql catalog call) :
    UndoesOnce app sql catalog call := by
  rcases call with ⟨request, now⟩
  cases request with
  | dismiss body hex => trivial
  | restore body hex => trivial
  | undo reviewActionId actor =>
    intro event member findingId altered
    change event ∈ (undoReviewAction app reviewActionId actor).trace (perform sql now) catalog
      at member
    unfold undoReviewAction openReadyCatalog at member
    split at member
    · split at member
      · rw [Program.pure_eq, Program.done_bind, trace_execute_bind] at member
        rcases List.mem_cons.mp member with rfl | later
        · exact absurd (congrArg _ (perform_selectGroup_fst reviewActionId)) altered
        · rcases performed : perform sql now (selectGroup reviewActionId) catalog with
            ⟨next, error | rows⟩
          · rw [performed] at later
            cases later
          · rw [performed] at later
            rcases selected_of_perform performed with ⟨rfl, selected⟩
            dsimp only at later
            split at later
            · cases later
            · have issued := (selected_issues reviewActionId actor ?_).trace
                (perform sql now) next event later
              · rcases issued with ⟨row, isRow, undoes⟩ | ⟨note, rowId, isNote⟩
                · exact ⟨row, (selected row).mp isRow, undoes⟩
                · rw [isNote] at altered
                  exact absurd (statusOf_updateNote note rowId findingId event.1) altered
              · rcases unmixed with marked | unnamed
                · exact Or.inl fun row isRow => marked row ((selected row).mp isRow)
                · exact Or.inr fun row isRow => unnamed row ((selected row).mp isRow)
      · cases member
    · cases member

/-- In a run in which every undo finds its rows all undone, or none of those that are undone with a
status, no status is altered through a row that was undone before. -/
theorem undoes_once_of_unmixed {catalog : ReviewCatalog} {calls : List Call}
    (unmixed : EveryStep (serve app sql) (Unmixed app sql) catalog calls) :
    EveryStep (serve app sql) (UndoesOnce app sql) catalog calls :=
  unmixed.mono fun _ _ => undoesOnce_of_unmixed

/-- A finding whose status is altered is one of a row that was not undone. -/
theorem UndoesOnce.exists_unmarked {reviewActionId actor : String}
    (once : UndoesOnce app sql catalog ⟨.undo reviewActionId actor, now⟩)
    (altered : statusOf findingId (runAlone app sql now (.undo reviewActionId actor) catalog).1 ≠
      statusOf findingId catalog) :
    ∃ row ∈ selection sql reviewActionId catalog,
      row.findingId = findingId ∧ isMarked app row = false := by
  rcases Program.exists_event_of_run_ne (perform sql now) (statusOf findingId) altered with
    ⟨⟨before, statement⟩, member, alters⟩
  rcases once _ member findingId alters with
    ⟨row, isRow, items, status, isItems, notUndone, _, rfl⟩
  refine ⟨row, isRow, ?_, by rw [isMarked, isItems]; exact notUndone⟩
  by_contra other
  exact alters (statusOf_updateStatus other)

end Undo

/-! ## A row that is undone twice -/

def dismissCall (findingIds : List String) (hex : String) : Call :=
  ⟨.dismiss ⟨findingIds, none, "operator", none⟩ hex, firstMoment⟩

def undoCall (reviewActionId : String) : Call := ⟨.undo reviewActionId "operator", firstMoment⟩

def loggedCatalog : ReviewCatalog := findingCatalog ["\x7b\"previous_status\": \"reviewed\"\x7d"]

theorem undoes_once_of_unmixed_twice :
    EveryStep (serve sampleApp sampleFunctions) (UndoesOnce sampleApp sampleFunctions) loggedCatalog
      [undoCall "legacy_0", undoCall "legacy_0"] := by
  refine undoes_once_of_unmixed ⟨Or.inr ?_, fun next stepped => ⟨Or.inl ?_, fun _ _ => trivial⟩⟩
  · have unmarked : ∀ row ∈ selection sampleFunctions "legacy_0" loggedCatalog,
        isMarked sampleApp row = false := by
      decide +kernel
    intro row isRow items isItems undone
    have marked : isMarked sampleApp row = true := by
      rw [isMarked, isItems]
      exact undone
    rw [unmarked row isRow] at marked
    cases marked
  · obtain rfl := Option.some.inj stepped
    decide +kernel

/-! ## A group that is undone in parts -/

def otherHex : String := "89abcdef0123456789abcdef"

def otherFinding : Finding := { sampleFinding with findingId := "find_2" }

def pairCatalog : ReviewCatalog where
  findings := (((Table.empty.insert sampleFinding).getD .empty).insert otherFinding).getD .empty
  evidence := []
  reviewActions := .empty

def partlyUndone : List Call :=
  [dismissCall ["find_1", "find_2"] sampleHex, undoCall ("review_" ++ sampleHex ++ "_1"),
    dismissCall ["find_2"] otherHex]

def dismissedAgain : ReviewCatalog := serveCalls sampleApp sampleFunctions pairCatalog partlyUndone

/-- The second finding was given back its status and is dismissed again; the undo of its first
group gives it back the status once more. -/
theorem partial_undo_replayed :
    ¬EveryStep (serve sampleApp sampleFunctions) (UndoesOnce sampleApp sampleFunctions) pairCatalog
      (partlyUndone ++ [undoCall ("review_" ++ sampleHex)]) := by
  intro every
  have once := every.at (runFrom_serve sampleApp sampleFunctions pairCatalog partlyUndone)
  have replayed : statusOf "find_2" (runAlone sampleApp sampleFunctions firstMoment
        (.undo ("review_" ++ sampleHex) "operator") dismissedAgain).1 ≠
        statusOf "find_2" dismissedAgain ∧
      ∀ row ∈ selection sampleFunctions ("review_" ++ sampleHex) dismissedAgain,
        row.findingId = "find_2" → isMarked sampleApp row = true := by
    decide +kernel
  rcases once.exists_unmarked replayed.1 with ⟨row, isRow, isFinding, unmarked⟩
  rw [replayed.2 row isRow isFinding] at unmarked
  cases unmarked

end Reperio.Review
