import Reperio.Api.Review
import Reperio.Python.FlatDict

/-!
# The notes of review actions

A note is a JSON text that names the group of its action, the status before it
and whether it was undone. What the handlers have written they read back, and
they find the actions of a group by it.
-/

namespace Reperio.Review

open Python Catalog ReviewStatement
open Api (Failure)

section Notes

variable {app : App} (enough : 0 < app.recursionLimit) (groupId : String)
  (operatorNote : Option String) (previousStatus targetStatus : FindingStatus) (actor : String)

def optionalJson : Option String → Json
  | none => .null
  | some text => .text (.ofString text)

def noteMembers : List (String × Json) :=
  [("group_id", .text (.ofString groupId)), ("operator_note", optionalJson operatorNote),
    ("previous_status", .text (.ofString previousStatus.text)),
    ("target_status", .text (.ofString targetStatus.text))]

/-- The note of an action that was undone, as it is read back. -/
def readUndoneNote : PyDict :=
  dictItems (noteMembers groupId operatorNote previousStatus targetStatus ++
    [("undo_actor", .text (.ofString actor)), ("undone", .bool true)])

theorem reviewNote_eq : reviewNote groupId operatorNote previousStatus targetStatus =
    dictItems (noteMembers groupId operatorNote previousStatus targetStatus ++
      [("undone", .bool false)]) := by
  cases operatorNote <;> rfl

theorem undoneNote_eq : undoneNote actor
    (reviewNote groupId operatorNote previousStatus targetStatus) =
    dictItems (noteMembers groupId operatorNote previousStatus targetStatus ++
      [("undone", .bool true), ("undo_actor", .text (.ofString actor))]) := by
  cases operatorNote <;> rfl

theorem plain_noteMembers : ∀ member ∈ noteMembers groupId operatorNote previousStatus targetStatus,
    member.2.Plain := by
  have operator : (optionalJson operatorNote).Plain := by
    cases operatorNote with
    | none => exact .null
    | some text => exact .text text
  simp [noteMembers, operator, Json.Plain.text]

theorem isUndone_readUndoneNote :
    isUndone (readUndoneNote groupId operatorNote previousStatus targetStatus actor) = true := by
  have undone : PyDict.get (readUndoneNote groupId operatorNote previousStatus targetStatus actor)
      "undone" = .bool true := by
    rw [PyDict.get, readUndoneNote, get?_dictItems]
    rfl
  rw [isUndone, undone]

include enough

/-- A note of an action is written, and read back as it was. -/
theorem exists_noteText_reviewNote :
    ∃ text, noteText app (reviewNote groupId operatorNote previousStatus targetStatus) = .ok text ∧
      loads app.recursionLimit text =
        .ok (.dict (reviewNote groupId operatorNote previousStatus targetStatus)) := by
  rcases Nat.exists_eq_succ_of_ne_zero enough.ne' with ⟨limit, isLimit⟩
  have plain : ∀ member ∈ noteMembers groupId operatorNote previousStatus targetStatus ++
      [("undone", .bool false)], member.2.Plain :=
    List.forall_mem_append.mpr ⟨plain_noteMembers groupId operatorNote previousStatus targetStatus,
      List.forall_mem_singleton.mpr (.bool false)⟩
  have inOrder : InOrder (noteMembers groupId operatorNote previousStatus targetStatus ++
      [("undone", .bool false)]) := by
    change List.Pairwise _ (List.map PyStr.ofString
      ["group_id", "operator_note", "previous_status", "target_status", "undone"])
    decide
  rcases exists_dumpsSpaced_dictItems plain true limit (.refl _) inOrder with
    ⟨text, written, read⟩
  refine ⟨text, ?_, ?_⟩
  · rw [noteText, reviewNote_eq, isLimit, written]
    rfl
  · rw [isLimit, read, reviewNote_eq]

/-- So is the note of an action that was undone, but for the order of the last two items. -/
theorem exists_noteText_undoneNote : ∃ text, noteText app (undoneNote actor
        (reviewNote groupId operatorNote previousStatus targetStatus)) = .ok text ∧
      loads app.recursionLimit text =
        .ok (.dict (readUndoneNote groupId operatorNote previousStatus targetStatus actor)) := by
  rcases Nat.exists_eq_succ_of_ne_zero enough.ne' with ⟨limit, isLimit⟩
  have plain : ∀ member ∈ noteMembers groupId operatorNote previousStatus targetStatus ++
      [("undone", .bool true), ("undo_actor", .text (.ofString actor))], member.2.Plain :=
    List.forall_mem_append.mpr ⟨plain_noteMembers groupId operatorNote previousStatus targetStatus,
      List.forall_mem_cons.mpr ⟨.bool true, List.forall_mem_singleton.mpr (.text actor)⟩⟩
  have inOrder : InOrder (noteMembers groupId operatorNote previousStatus targetStatus ++
      [("undo_actor", .text (.ofString actor)), ("undone", .bool true)]) := by
    change List.Pairwise _ (List.map PyStr.ofString
      ["group_id", "operator_note", "previous_status", "target_status", "undo_actor", "undone"])
    decide
  rcases exists_dumpsSpaced_dictItems plain true limit ((List.Perm.swap _ _ _).append_left _)
    inOrder with ⟨text, written, read⟩
  refine ⟨text, ?_, ?_⟩
  · rw [noteText, undoneNote_eq, isLimit, written]
    rfl
  · rw [isLimit, read, readUndoneNote]

end Notes

/-! ## Entries of a group -/

/-- 24 characters of a `uuid.uuid4().hex`. -/
def IsHex (hex : String) : Prop :=
  hex.length = 24 ∧ ∀ char ∈ hex.toList, char ∈ "0123456789abcdef".toList

/-- The note of an action of a group, which somebody may have undone. -/
def entryNote (hex : String) (operatorNote : Option String)
    (previousStatus targetStatus : FindingStatus) : Option String → PyDict
  | none => reviewNote ("review_" ++ hex) operatorNote previousStatus targetStatus
  | some actor =>
    undoneNote actor (reviewNote ("review_" ++ hex) operatorNote previousStatus targetStatus)

/-- What the handlers rely on of `json_extract`: it reads the group of the notes that they write,
and whether a text is malformed does not depend on what the value is compared with. -/
structure ExtractsGroups (app : App) (sql : SqlFunctions) : Prop where
  group : ∀ hex operatorNote previousStatus targetStatus undoneBy text groupId, IsHex hex →
    noteText app (entryNote hex operatorNote previousStatus targetStatus undoneBy) = .ok text →
    sql.jsonExtractEq text "$.group_id" (.text groupId) = some (decide ("review_" ++ hex = groupId))
  malformed : ∀ json path first second,
    (sql.jsonExtractEq json path first).isSome = (sql.jsonExtractEq json path second).isSome

/-- The row logs that the finding had this status. -/
structure Entry (app : App) (hex : String) (undoneBy : Option String)
    (finding : String × FindingStatus) (row : ReviewAction) : Prop where
  rowId : ∃ index, row.reviewActionId = actionId ("review_" ++ hex) index
  findingId : row.findingId = finding.1
  note : ∃ operatorNote targetStatus text, row.note = some text ∧
    noteText app (entryNote hex operatorNote finding.2 targetStatus undoneBy) = .ok text

def actionSuffix (index : ℕ) : List Char := if index = 0 then [] else '_' :: (Nat.repr index).toList

theorem actionSuffix_injective : Function.Injective actionSuffix := by
  intro first second same
  unfold actionSuffix at same
  split at same <;> split at same
  · omega
  · cases same
  · cases same
  · exact natRepr_injective (String.toList_injective (List.cons.inj same).2)

theorem toList_actionId (hex : String) (index : ℕ) : (actionId ("review_" ++ hex) index).toList =
    ("review_".toList ++ hex.toList) ++ actionSuffix index := by
  unfold actionId actionSuffix
  split
  · rw [String.toList_append, List.append_nil]
  · simp only [String.toList_append, List.append_assoc]
    rfl

/-- Actions of different groups differ in their identifiers. -/
theorem actionId_injective {hex other : String} (isHex : IsHex hex) (otherHex : IsHex other)
    {index otherIndex : ℕ} (same : actionId ("review_" ++ hex) index =
      actionId ("review_" ++ other) otherIndex) : hex = other ∧ index = otherIndex := by
  have lists := congrArg String.toList same
  rw [toList_actionId, toList_actionId] at lists
  have lengths : ("review_".toList ++ hex.toList).length =
      ("review_".toList ++ other.toList).length := by
    simp only [List.length_append, String.length_toList, isHex.1, otherHex.1]
  rcases List.append_inj lists lengths with ⟨groups, suffixes⟩
  exact ⟨String.toList_injective (List.append_cancel_left groups), actionSuffix_injective suffixes⟩

theorem actionId_zero (groupId : String) : actionId groupId 0 = groupId := if_pos rfl

section Entries

variable {app : App} {sql : SqlFunctions} {hex : String} {undoneBy : Option String}
  {finding other : String × FindingStatus} {row : ReviewAction}

/-- An entry is in its own group, and in no other. -/
theorem Entry.inGroup (extracts : ExtractsGroups app sql) (isHex : IsHex hex) {otherHex : String}
    (otherIsHex : IsHex otherHex) (entry : Entry app hex undoneBy finding row) :
    inGroup sql ("review_" ++ otherHex) row = some (decide (hex = otherHex)) := by
  rcases entry.rowId with ⟨index, rowId⟩
  rcases entry.note with ⟨operatorNote, targetStatus, text, note, written⟩
  unfold ReviewStatement.inGroup
  split
  · rename_i same
    rw [rowId, ← actionId_zero ("review_" ++ otherHex)] at same
    rw [decide_eq_true (actionId_injective isHex otherIsHex same).1]
  · rw [note]
    dsimp only
    rw [extracts.group _ _ _ _ _ _ _ isHex written, Option.some.injEq, decide_eq_decide]
    constructor
    · intro same
      exact String.toList_injective (List.append_cancel_left
        (by simpa only [String.toList_append] using congrArg String.toList same))
    · rintro rfl
      rfl

/-- The items that are read from the note of an entry. -/
def readEntryNote (hex : String) (operatorNote : Option String)
    (previousStatus targetStatus : FindingStatus) : Option String → PyDict
  | none => reviewNote ("review_" ++ hex) operatorNote previousStatus targetStatus
  | some actor => readUndoneNote ("review_" ++ hex) operatorNote previousStatus targetStatus actor

theorem loads_noteText (enough : 0 < app.recursionLimit) {operatorNote : Option String}
    {previousStatus targetStatus : FindingStatus} {text : String}
    (written : noteText app (entryNote hex operatorNote previousStatus targetStatus undoneBy) =
      .ok text) : loads app.recursionLimit text =
        .ok (.dict (readEntryNote hex operatorNote previousStatus targetStatus undoneBy)) := by
  cases undoneBy with
  | none =>
    rcases exists_noteText_reviewNote enough ("review_" ++ hex) operatorNote previousStatus
      targetStatus with ⟨other, otherWritten, read⟩
    obtain rfl := Except.ok.inj (written.symm.trans otherWritten)
    exact read
  | some actor =>
    rcases exists_noteText_undoneNote enough ("review_" ++ hex) operatorNote previousStatus
      targetStatus actor with ⟨other, otherWritten, read⟩
    obtain rfl := Except.ok.inj (written.symm.trans otherWritten)
    exact read

theorem Entry.readNote (enough : 0 < app.recursionLimit)
    (entry : Entry app hex undoneBy finding row) :
    ∃ operatorNote targetStatus, readNote app row = .ok (row.reviewActionId, row.findingId,
      .dict (readEntryNote hex operatorNote finding.2 targetStatus undoneBy)) := by
  rcases entry.note with ⟨operatorNote, targetStatus, text, note, written⟩
  have read := loads_noteText enough written
  refine ⟨operatorNote, targetStatus, ?_⟩
  have notEmpty : text ≠ "" := by
    rintro rfl
    cases read
  unfold Review.readNote
  simp only [note, if_neg notEmpty, read]

/-- A row logs one status. -/
theorem Entry.unique (enough : 0 < app.recursionLimit) (entry : Entry app hex none finding row)
    (otherEntry : Entry app hex none other row) : finding = other := by
  rcases entry.readNote enough with ⟨_, _, read⟩
  rcases otherEntry.readNote enough with ⟨_, _, otherRead⟩
  have same := Except.ok.inj (read.symm.trans otherRead)
  have statuses : PyValue.str finding.2.text = .str other.2.text := by
    have items := PyValue.dict.inj (Prod.mk.inj (Prod.mk.inj same).2).2
    exact congrArg (fun items => PyDict.get items "previous_status") items
  refine Prod.ext (entry.findingId.symm.trans otherEntry.findingId) ?_
  exact FindingStatus.text_injective (PyValue.str_injective statuses)

end Entries

end Reperio.Review
