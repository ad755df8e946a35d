import Reperio.Api.Review
import Reperio.Concurrency.Faults

/-!
# Review requests that fail

Nothing rolls back what a failing request has written. So the tables are as
they were before the request exactly when the statements that succeeded have
altered nothing: no row was inserted, and what was written last to every row
is what the row held.
-/

namespace Reperio.Review

open Concurrency Python Catalog Relational ReviewStatement
open Api (Failure)

/-! ## What the statements of a log have written -/

def inserts : ReviewStatement → Bool
  | insertAction _ _ _ _ _ => true
  | _ => false

/-- What is written to the status of the finding, or what was written before. -/
def statusAfter (findingId : String) (last : Option String) : ReviewStatement → Option String
  | updateStatus status target => if target = findingId then some status else last
  | _ => last

def noteAfter (reviewActionId : String) (last : Option String) : ReviewStatement → Option String
  | updateNote note target => if target = reviewActionId then some note else last
  | _ => last

/-- The status that was written last. -/
def lastStatus (findingId : String) (log : List ReviewStatement) : Option String :=
  log.foldl (statusAfter findingId) none

def lastNote (reviewActionId : String) (log : List ReviewStatement) : Option String :=
  log.foldl (noteAfter reviewActionId) none

@[simp]
theorem lastStatus_snoc (findingId : String) (log : List ReviewStatement)
    (statement : ReviewStatement) : lastStatus findingId (log ++ [statement]) =
      statusAfter findingId (lastStatus findingId log) statement := by
  rw [lastStatus, List.foldl_append]
  rfl

@[simp]
theorem lastNote_snoc (reviewActionId : String) (log : List ReviewStatement)
    (statement : ReviewStatement) : lastNote reviewActionId (log ++ [statement]) =
      noteAfter reviewActionId (lastNote reviewActionId log) statement := by
  rw [lastNote, List.foldl_append]
  rfl

theorem lastStatus_cases (findingId : String) (log : List ReviewStatement) :
    (lastStatus findingId log = none ∧ ∀ status, updateStatus status findingId ∉ log) ∨
      ∃ status, lastStatus findingId log = some status ∧ updateStatus status findingId ∈ log := by
  induction log using List.reverseRecOn with
  | nil => exact Or.inl ⟨rfl, fun _ => List.not_mem_nil⟩
  | append_singleton log statement ih =>
    rw [lastStatus_snoc]
    cases statement with
    | updateStatus status target =>
      by_cases same : target = findingId
      · subst same
        exact Or.inr ⟨status, if_pos rfl, by simp⟩
      · rw [statusAfter, if_neg same]
        simpa [Ne.symm same] using ih
    | _ => simpa [statusAfter] using ih

theorem lastNote_cases (reviewActionId : String) (log : List ReviewStatement) :
    (lastNote reviewActionId log = none ∧ ∀ note, updateNote note reviewActionId ∉ log) ∨
      ∃ note, lastNote reviewActionId log = some note ∧ updateNote note reviewActionId ∈ log := by
  induction log using List.reverseRecOn with
  | nil => exact Or.inl ⟨rfl, fun _ => List.not_mem_nil⟩
  | append_singleton log statement ih =>
    rw [lastNote_snoc]
    cases statement with
    | updateNote note target =>
      by_cases same : target = reviewActionId
      · subst same
        exact Or.inr ⟨note, if_pos rfl, by simp⟩
      · rw [noteAfter, if_neg same]
        simpa [Ne.symm same] using ih
    | _ => simpa [noteAfter] using ih

/-- The statements of the log put back what they change. -/
structure Unaltered (catalog : ReviewCatalog) (log : List ReviewStatement) : Prop where
  noInsert : ∀ statement ∈ log, inserts statement = false
  statuses : ∀ row ∈ catalog.findings.rows, ∀ status ∈ lastStatus row.findingId log,
    row.status.text = status
  notes : ∀ row ∈ catalog.reviewActions.rows, ∀ note ∈ lastNote row.reviewActionId log,
    row.note = some note

section Logs

variable {sql : SqlFunctions} {now : ReviewStatement → DateTime} {catalog state : ReviewCatalog}
  {log : List ReviewStatement}

/-- The row with the status that was written last. -/
def restated (log : List ReviewStatement) (row : Finding) : Finding :=
  { row with status := ((lastStatus row.findingId log).bind FindingStatus.ofText?).getD row.status }

/-- The row with the note that was written last. -/
def renoted (log : List ReviewStatement) (row : ReviewAction) : ReviewAction :=
  { row with note := (lastNote row.reviewActionId log).or row.note }

/-- A statement that succeeds alters the findings as `withStatus` does, or not at all. -/
theorem perform_findings {statement : ReviewStatement} {next : ReviewCatalog}
    {result : statement.Result}
    (succeeds : perform sql now statement state = (next, .ok result)) :
    next.evidence = state.evidence ∧
      ((∃ status findingId, statement = updateStatus status findingId ∧
          next.findings.rows = state.findings.rows.map (withStatus status findingId) ∧
          (FindingStatus.ofText? status = none →
            ∀ row ∈ state.findings.rows, row.findingId ≠ findingId)) ∨
        next.findings = state.findings ∧
          ∀ findingId last, statusAfter findingId last statement = last) := by
  cases statement with
  | targetIds params =>
    obtain rfl := (congrArg Prod.fst succeeds).symm.trans (perform_targetIds_fst params)
    exact ⟨rfl, Or.inr ⟨rfl, fun _ _ => rfl⟩⟩
  | statuses findingIds =>
    obtain rfl := (congrArg Prod.fst succeeds).symm.trans (perform_statuses_fst findingIds)
    exact ⟨rfl, Or.inr ⟨rfl, fun _ _ => rfl⟩⟩
  | updateStatus status findingId =>
    rcases perform_updateStatus sql now status findingId state with
      ⟨performed, _⟩ | ⟨findings, performed, rows, missing⟩ <;>
      rw [performed] at succeeds <;> cases succeeds
    refine ⟨rfl, Or.inl ⟨status, findingId, rfl, rows, fun unknown row member same => ?_⟩⟩
    have found := missing unknown
    rw [Option.isSome_eq_false_iff, Option.isNone_iff_eq_none, Table.lookup_eq_none] at found
    exact found row member same
  | insertAction reviewActionId findingId action actor note =>
    rcases perform_insertAction sql now reviewActionId findingId action actor note state with
      ⟨performed, _⟩ | ⟨_, performed, _⟩ <;> rw [performed] at succeeds <;> cases succeeds
    exact ⟨rfl, Or.inr ⟨rfl, fun _ _ => rfl⟩⟩
  | selectGroup reviewActionId =>
    obtain rfl := (congrArg Prod.fst succeeds).symm.trans (perform_selectGroup_fst reviewActionId)
    exact ⟨rfl, Or.inr ⟨rfl, fun _ _ => rfl⟩⟩
  | updateNote note reviewActionId =>
    rcases perform_updateNote sql now note reviewActionId state with ⟨_, performed, _⟩
    rw [performed] at succeeds
    cases succeeds
    exact ⟨rfl, Or.inr ⟨rfl, fun _ _ => rfl⟩⟩

/-- A statement that succeeds inserts one action, alters notes, or keeps the actions. -/
theorem perform_reviewActions {statement : ReviewStatement} {next : ReviewCatalog}
    {result : statement.Result}
    (succeeds : perform sql now statement state = (next, .ok result)) :
    (inserts statement = true ∧
        ∃ row, next.reviewActions.rows = state.reviewActions.rows ++ [row]) ∨
      (inserts statement = false ∧
        ((∃ note reviewActionId, statement = updateNote note reviewActionId ∧
            next.reviewActions.rows = state.reviewActions.rows.map (withNote note reviewActionId)) ∨
          next.reviewActions = state.reviewActions ∧
            ∀ reviewActionId last, noteAfter reviewActionId last statement = last)) := by
  cases statement with
  | targetIds params =>
    obtain rfl := (congrArg Prod.fst succeeds).symm.trans (perform_targetIds_fst params)
    exact Or.inr ⟨rfl, Or.inr ⟨rfl, fun _ _ => rfl⟩⟩
  | statuses findingIds =>
    obtain rfl := (congrArg Prod.fst succeeds).symm.trans (perform_statuses_fst findingIds)
    exact Or.inr ⟨rfl, Or.inr ⟨rfl, fun _ _ => rfl⟩⟩
  | updateStatus status findingId =>
    rcases perform_updateStatus sql now status findingId state with
      ⟨performed, _⟩ | ⟨_, performed, _⟩ <;> rw [performed] at succeeds <;> cases succeeds
    exact Or.inr ⟨rfl, Or.inr ⟨rfl, fun _ _ => rfl⟩⟩
  | insertAction reviewActionId findingId action actor note =>
    rcases perform_insertAction sql now reviewActionId findingId action actor note state with
      ⟨performed, _⟩ | ⟨_, performed, rows, _⟩ <;> rw [performed] at succeeds <;> cases succeeds
    exact Or.inl ⟨rfl, _, rows⟩
  | selectGroup reviewActionId =>
    obtain rfl := (congrArg Prod.fst succeeds).symm.trans (perform_selectGroup_fst reviewActionId)
    exact Or.inr ⟨rfl, Or.inr ⟨rfl, fun _ _ => rfl⟩⟩
  | updateNote note reviewActionId =>
    rcases perform_updateNote sql now note reviewActionId state with ⟨_, performed, rows⟩
    rw [performed] at succeeds
    cases succeeds
    exact Or.inr ⟨rfl, Or.inl ⟨note, reviewActionId, rfl, rows⟩⟩

theorem evidence_of_succeed (succeed : Succeed (perform sql now) catalog log state) :
    state.evidence = catalog.evidence := by
  induction succeed with
  | nil => rfl
  | snoc _ succeeds ih => exact (perform_findings succeeds).1.trans ih

/-- A later statement overrides an earlier one. -/
theorem withStatus_restated {status findingId : String} {row : Finding}
    (known : row.findingId = findingId → ∃ known, FindingStatus.ofText? status = some known) :
    withStatus status findingId (restated log row) =
      restated (log ++ [updateStatus status findingId]) row := by
  unfold withStatus restated
  rw [lastStatus_snoc, statusAfter]
  by_cases same : row.findingId = findingId
  · rcases known same with ⟨known, isKnown⟩
    simp [same, isKnown]
  · simp [same, Ne.symm same]

/-- Every finding holds the status that was written last, which is one that the column takes. -/
theorem findings_of_succeed (succeed : Succeed (perform sql now) catalog log state) :
    state.findings.rows = catalog.findings.rows.map (restated log) ∧
      ∀ row ∈ catalog.findings.rows, ∀ status ∈ lastStatus row.findingId log,
        ∃ known, FindingStatus.ofText? status = some known := by
  induction succeed with
  | nil =>
    refine ⟨?_, by simp [lastStatus]⟩
    rw [eq_comm, Json.map_eq_self_iff]
    exact fun row _ => rfl
  | @snoc log state next statement result _ succeeds ih =>
    rcases ih with ⟨rows, known⟩
    rcases (perform_findings succeeds).2 with
      ⟨status, findingId, rfl, written, missing⟩ | ⟨same, kept⟩
    · have isKnown : ∀ row ∈ catalog.findings.rows, row.findingId = findingId →
          ∃ known, FindingStatus.ofText? status = some known := by
        intro row member same
        by_contra unknown
        push Not at unknown
        refine missing (Option.eq_none_iff_forall_ne_some.mpr unknown) (restated log row) ?_ same
        rw [rows]
        exact List.mem_map_of_mem member
      constructor
      · rw [written, rows, List.map_map]
        exact List.map_congr_left fun row member => withStatus_restated (isKnown row member)
      · intro row member last isLast
        rw [lastStatus_snoc, statusAfter] at isLast
        split at isLast
        · rename_i same
          exact Option.some.inj isLast ▸ isKnown row member same.symm
        · exact known row member last isLast
    · constructor
      · rw [same, rows]
        refine List.map_congr_left fun row _ => ?_
        rw [restated, restated, lastStatus_snoc, kept]
      · intro row member last isLast
        rw [lastStatus_snoc, kept] at isLast
        exact known row member last isLast

/-- Every action holds the note that was written last; only insertions add to them. -/
theorem reviewActions_of_succeed (succeed : Succeed (perform sql now) catalog log state) :
    state.reviewActions.rows.length = catalog.reviewActions.rows.length + log.countP inserts ∧
      ((∀ statement ∈ log, inserts statement = false) →
        state.reviewActions.rows = catalog.reviewActions.rows.map (renoted log)) := by
  induction succeed with
  | nil =>
    refine ⟨rfl, fun _ => ?_⟩
    rw [eq_comm, Json.map_eq_self_iff]
    exact fun row _ => rfl
  | @snoc log state next statement result _ succeeds ih =>
    rcases ih with ⟨length, rows⟩
    rw [List.countP_append, List.countP_singleton]
    rcases perform_reviewActions succeeds with
      ⟨isInsert, row, added⟩ | ⟨noInsert, ⟨note, reviewActionId, rfl, written⟩ | ⟨same, kept⟩⟩
    · refine ⟨by simp [isInsert, added, length, Nat.add_assoc], fun none => ?_⟩
      have contradiction := none statement (by simp)
      rw [isInsert] at contradiction
      cases contradiction
    · refine ⟨by simp [noInsert, written, length], fun none => ?_⟩
      rw [written, rows fun earlier member => none earlier (List.mem_append_left _ member),
        List.map_map]
      refine List.map_congr_left fun row _ => ?_
      simp only [Function.comp_apply, withNote, renoted, lastNote_snoc, noteAfter]
      by_cases same : row.reviewActionId = reviewActionId
      · simp [same]
      · simp [same, Ne.symm same]
    · refine ⟨by simp [noInsert, same, length], fun none => ?_⟩
      rw [same, rows fun earlier member => none earlier (List.mem_append_left _ member)]
      refine List.map_congr_left fun row _ => ?_
      rw [renoted, renoted, lastNote_snoc, kept]

theorem restated_eq_self_iff {row : Finding}
    (known : ∀ status ∈ lastStatus row.findingId log,
      ∃ known, FindingStatus.ofText? status = some known) :
    restated log row = row ↔ ∀ status ∈ lastStatus row.findingId log, row.status.text = status := by
  rw [restated]
  cases written : lastStatus row.findingId log with
  | none => simp
  | some status =>
    rcases known status written with ⟨isKnown, known⟩
    obtain rfl := FindingStatus.text_of_ofText? known
    simp only [Option.bind_some, known, Option.getD_some, Option.mem_def, Option.some.injEq,
      forall_eq']
    constructor
    · intro same
      rw [← same]
    · intro same
      have sameStatus : row.status = isKnown := FindingStatus.text_injective same
      rw [← sameStatus]

theorem renoted_eq_self_iff {row : ReviewAction} :
    renoted log row = row ↔ ∀ note ∈ lastNote row.reviewActionId log, row.note = some note := by
  rw [renoted]
  cases written : lastNote row.reviewActionId log with
  | none => simp
  | some note =>
    simp only [Option.some_or, Option.mem_def, Option.some.injEq, forall_eq']
    constructor
    · intro same
      rw [← same]
    · intro same
      rw [← same]

/-- The tables are as they were exactly when the statements put back what they change. -/
theorem eq_iff_unaltered (succeed : Succeed (perform sql now) catalog log state) :
    state = catalog ↔ Unaltered catalog log := by
  rcases findings_of_succeed succeed with ⟨findings, known⟩
  rcases reviewActions_of_succeed succeed with ⟨length, reviewActions⟩
  have findings_iff : state.findings = catalog.findings ↔
      ∀ row ∈ catalog.findings.rows, ∀ status ∈ lastStatus row.findingId log,
        row.status.text = status := by
    rw [Table.ext_iff, findings, Json.map_eq_self_iff]
    exact forall₂_congr fun row member => restated_eq_self_iff (known row member)
  constructor
  · rintro rfl
    have noInsert : ∀ statement ∈ log, inserts statement = false := by
      intro statement member
      by_contra isInsert
      have positive :=
        List.countP_pos_iff.mpr ⟨statement, member, Bool.eq_true_of_not_eq_false isInsert⟩
      omega
    refine ⟨noInsert, findings_iff.mp rfl, ?_⟩
    intro row member
    exact renoted_eq_self_iff.mp (Json.map_eq_self_iff.mp (reviewActions noInsert).symm row member)
  · intro unaltered
    have sameActions : state.reviewActions = catalog.reviewActions := by
      rw [Table.ext_iff, reviewActions unaltered.noInsert, Json.map_eq_self_iff]
      exact fun row member => renoted_eq_self_iff.mpr (unaltered.notes row member)
    have sameEvidence := evidence_of_succeed succeed
    have sameFindings := findings_iff.mpr unaltered.statuses
    cases state
    cases catalog
    simp only at sameActions sameEvidence sameFindings
    subst sameActions sameEvidence sameFindings
    rfl

end Logs

/-! ## Where a failure strikes -/

/-- A statement that writes, to a status no other text than this one. -/
def WritesOnly (status : String) : ReviewStatement → Prop
  | updateStatus written _ => written = status
  | insertAction _ _ _ _ _ => True
  | _ => False

def writes : ReviewStatement → Bool
  | updateStatus _ _ | insertAction _ _ _ _ _ | updateNote _ _ => true
  | _ => false

variable {catalog : ReviewCatalog} {observed : Observed ReviewStatement ReviewCatalog}

theorem unaltered_cons_iff {read : ReviewStatement} {log : List ReviewStatement}
    (isRead : writes read = false) : Unaltered catalog (read :: log) ↔ Unaltered catalog log := by
  have same : ∀ id, lastStatus id (read :: log) = lastStatus id log ∧
      lastNote id (read :: log) = lastNote id log ∧ inserts read = false := by
    intro id
    cases read <;> first | exact ⟨rfl, rfl, rfl⟩ | cases isRead
  constructor <;> rintro ⟨noInsert, statuses, notes⟩
  · exact ⟨(List.forall_mem_cons.mp noInsert).2, by simpa only [same] using statuses,
      by simpa only [same] using notes⟩
  · exact ⟨List.forall_mem_cons.mpr ⟨(same "").2.2, noInsert⟩, by simpa only [same] using statuses,
      by simpa only [same] using notes⟩

theorem unaltered_of_reads {log : List ReviewStatement}
    (reads : ∀ statement ∈ log, writes statement = false) : Unaltered catalog log := by
  induction log with
  | nil => exact ⟨by simp, by simp [lastStatus], by simp [lastNote]⟩
  | cons read log ih =>
    rcases List.forall_mem_cons.mp reads with ⟨isRead, others⟩
    exact (unaltered_cons_iff isRead).mpr (ih others)

theorem lastStatus_of_writesOnly {status findingId : String} {log more : List ReviewStatement}
    (written : lastStatus findingId log = some status)
    (writesOnly : ∀ statement ∈ more, WritesOnly status statement) :
    lastStatus findingId (log ++ more) = some status := by
  induction more using List.reverseRecOn with
  | nil => rw [List.append_nil, written]
  | append_singleton more statement ih =>
    rw [← List.append_assoc, lastStatus_snoc,
      ih fun other member => writesOnly other (List.mem_append_left _ member)]
    have writesThis := writesOnly statement (by simp)
    cases statement with
    | updateStatus other target =>
      rw [statusAfter, writesThis]
      split <;> rfl
    | _ => rfl

section Failures

variable (app : App) (sql : SqlFunctions) (now : ReviewStatement → DateTime)
  (plan : ℕ → Option PyError)

theorem run_execute_bind {α State : Type}
    (perform : (statement : ReviewStatement) → State → State × statement.Reply)
    (statement : ReviewStatement) (rest : statement.Result → Handler α) (state : State) :
    (execute statement >>= rest).run perform state = match perform statement state with
      | (next, .ok result) => (rest result).run perform next
      | (next, .error error) => (next, .error (.python error)) := by
  rcases performed : perform statement state with ⟨next, error | result⟩ <;>
    · rw [execute]
      simp only [Program.query, Program.execute_bind, Program.done_bind, Program.run_execute,
        performed]
      rfl

theorem execute_bind_assoc {α β : Type} (statement : ReviewStatement)
    (rest : statement.Result → Handler α) (last : α → Handler β) :
    (execute statement >>= rest >>= last) =
      (execute statement >>= fun result => rest result >>= last) := by
  refine congrArg (Program.execute statement) (funext fun reply => ?_)
  cases reply <;> rfl

theorem run_bind_done {α β State : Type}
    (perform : (statement : ReviewStatement) → State → State × statement.Reply)
    (program : Handler α) (result : α → β) (state : State) :
    ((program >>= fun value => .done (result value)).run perform state).1 =
      (program.run perform state).1 := by
  rw [Program.run_bind]
  rcases program.run perform state with ⟨next, error | value⟩ <;> rfl

theorem issues_applyFindings (body : ReviewActionRequest) (groupId : String)
    (action : ReviewActionKind) (targetStatus : FindingStatus) (index : ℕ)
    (findings : List (String × FindingStatus)) :
    (applyFindings app body groupId action targetStatus index findings).Issues
      (WritesOnly targetStatus.text) := by
  induction findings generalizing index with
  | nil => trivial
  | cons finding findings ih =>
    rcases finding with ⟨findingId, previousStatus⟩
    rw [applyFindings]
    refine Program.Issues.bind ?_ fun changed => ?_
    · unfold setStatus
      split
      · trivial
      · refine ⟨rfl, fun reply => ?_⟩
        cases reply <;> trivial
    · rw [Program.issues_ofExcept_bind]
      intro note _
      refine ⟨trivial, fun reply => ?_⟩
      cases reply with
      | error error => trivial
      | ok result => exact (ih (index + 1)).bind fun _ => trivial

/-- The statement that the loop issues first is its first write. -/
theorem applyFindings_cons_cases (body : ReviewActionRequest) (groupId : String)
    (action : ReviewActionKind) (targetStatus : FindingStatus) (index : ℕ) (findingId : String)
    (previousStatus : FindingStatus) (findings : List (String × FindingStatus)) :
    (∃ error, applyFindings app body groupId action targetStatus index
        ((findingId, previousStatus) :: findings) = .raise error) ∨
      ∃ (statement : ReviewStatement) (rest : statement.Result → Handler (List String)),
        applyFindings app body groupId action targetStatus index
          ((findingId, previousStatus) :: findings) = (execute statement >>= rest) ∧
        (∀ result, (rest result).Issues (WritesOnly targetStatus.text)) ∧
        (inserts statement = true ∨
          statement = updateStatus targetStatus.text findingId ∧
            previousStatus ≠ targetStatus) := by
  have issues := issues_applyFindings app body groupId action targetStatus index
    ((findingId, previousStatus) :: findings)
  rw [applyFindings] at issues ⊢
  unfold setStatus at issues ⊢
  split
  · rename_i same
    rw [if_pos same] at issues
    simp only [Program.pure_eq, Program.done_bind] at issues ⊢
    cases note : noteText app (reviewNote groupId body.note previousStatus targetStatus) with
    | error error => exact Or.inl ⟨error, rfl⟩
    | ok text =>
      rw [note] at issues
      exact Or.inr ⟨_, _, rfl, fun result => issues.2 (.ok result), Or.inl rfl⟩
  · rename_i differ
    rw [if_neg differ] at issues
    refine Or.inr ⟨updateStatus targetStatus.text findingId, _, execute_bind_assoc _ _ _,
      fun result => ?_, Or.inr ⟨rfl, differ⟩⟩
    exact issues.2 (.ok result)

/-- What the loop writes first stays written. -/
theorem applyFindings_unaltered_iff (body : ReviewActionRequest) (groupId : String)
    (action : ReviewActionKind) (targetStatus : FindingStatus) (index : ℕ)
    {findings : List (String × FindingStatus)}
    (known : ∀ finding ∈ findings, ∃ row ∈ catalog.findings.rows,
      (row.findingId, row.status) = finding)
    (reads : ∀ statement ∈ observed.log, writes statement = false)
    (complete : observed.log.length = observed.count)
    {last : Observed ReviewStatement ReviewCatalog}
    (ran : ((applyFindings app body groupId action targetStatus index findings).run
      (faulty plan (perform sql now)) observed).1 = last) (failed : last.Failed) :
    Unaltered catalog last.log ↔ last.count ≤ observed.count + 1 := by
  subst ran
  constructor
  · intro unaltered
    rcases findings with _ | ⟨⟨findingId, previousStatus⟩, findings⟩
    · exact Nat.le_succ _
    · rcases applyFindings_cons_cases app body groupId action targetStatus index findingId
        previousStatus findings with ⟨error, isRaise⟩ | ⟨statement, rest, isExecute, issues, writes⟩
      · rw [isRaise]
        exact Nat.le_succ _
      · rw [isExecute, run_execute_bind] at unaltered ⊢
        rcases faulty_cases plan (perform sql now) statement observed with
          ⟨state, error, stopped⟩ | ⟨state, result, _, succeeded⟩
        · rw [stopped]
        · rw [succeeded] at unaltered ⊢
          obtain ⟨more, log, later, _⟩ : ∃ more, _ ∧ _ ∧ _ := log_of_run (issues result)
            ⟨state, observed.count + 1, observed.log ++ [statement]⟩
          dsimp only at unaltered log
          rw [log] at unaltered
          exfalso
          rcases writes with isInsert | ⟨rfl, differ⟩
          · have noInsert := unaltered.noInsert statement (by simp)
            rw [isInsert] at noInsert
            cases noInsert
          · rcases known _ (List.mem_cons_self) with ⟨row, member, isRow⟩
            obtain ⟨rfl, rfl⟩ := Prod.mk.inj isRow
            have written : lastStatus row.findingId
                (observed.log ++ [updateStatus targetStatus.text row.findingId]) =
                  some targetStatus.text := by
              rw [lastStatus_snoc, statusAfter, if_pos rfl]
            have same := unaltered.statuses row member targetStatus.text
              (lastStatus_of_writesOnly written later)
            exact differ (FindingStatus.text_injective same)
  · intro count
    rw [log_eq_of_failed _ complete failed count]
    exact unaltered_of_reads reads

theorem perform_statuses_mem {next : ReviewCatalog} {findingIds : List String}
    {result : List (String × FindingStatus)}
    (performed : perform sql now (statuses findingIds) catalog = (next, .ok result)) :
    next = catalog ∧
      ∀ finding ∈ result, ∃ row ∈ catalog.findings.rows, (row.findingId, row.status) = finding := by
  simp only [perform] at performed
  split at performed <;> cases performed
  refine ⟨rfl, fun finding member => ?_⟩
  rcases List.mem_map.mp member with ⟨row, rowMember, isRow⟩
  exact ⟨row, List.mem_of_mem_filter (mem_orderBy.mp rowMember), isRow⟩

/-- One more statement is read before the loop, unless there is nothing to update. -/
theorem updateFindings_unaltered_iff (body : ReviewActionRequest) (groupId : String)
    (action : ReviewActionKind) (targetStatus : FindingStatus) (findingIds : List String)
    (state : observed.state = catalog)
    (reads : ∀ statement ∈ observed.log, writes statement = false)
    (complete : observed.log.length = observed.count)
    {last : Observed ReviewStatement ReviewCatalog}
    (ran : ((findingsForUpdate findingIds >>=
        applyFindings app body groupId action targetStatus 0).run
      (faulty plan (perform sql now)) observed).1 = last) (failed : last.Failed) :
    Unaltered catalog last.log ↔ last.count ≤ observed.count + 2 := by
  unfold findingsForUpdate at ran
  cases findingIds with
  | nil =>
    subst ran
    exact absurd complete failed.ne
  | cons first rest =>
    simp only at ran
    rw [execute_bind_assoc, run_execute_bind] at ran
    rcases faulty_cases plan (perform sql now) (statuses (first :: rest)) observed with
      ⟨next, error, stopped⟩ | ⟨next, result, performed, succeeded⟩
    · rw [stopped] at ran
      subst ran
      exact iff_of_true (unaltered_of_reads reads) (Nat.le_succ _)
    · rw [state] at performed
      rcases perform_statuses_mem sql now performed with ⟨rfl, known⟩
      rw [succeeded] at ran
      simp only at ran
      split at ran
      · refine applyFindings_unaltered_iff app sql now plan body groupId action targetStatus 0
          known ?_ ?_ ran failed
        · intro statement member
          rcases List.mem_append.mp member with isOld | isNew
          · exact reads statement isOld
          · rw [List.mem_singleton.mp isNew]
            rfl
        · rw [List.length_append, complete]
          rfl
      · subst ran
        rw [Observed.Failed, Program.throw_eq, Program.raise_bind, Program.run_raise,
          List.length_append, complete] at failed
        exact absurd rfl failed.ne

/-- The statements that read for a dismissal or a restoration, before it writes. -/
def ReviewActionRequest.reads (body : ReviewActionRequest) : ℕ :=
  if body.savedQuery.isSome then 2 else 1

theorem applyReviewAction_unaltered_iff (catalog : ReviewCatalog) (body : ReviewActionRequest)
    (hex : String) (action : ReviewActionKind) (targetStatus : FindingStatus)
    {last : Observed ReviewStatement ReviewCatalog}
    (ran : ((applyReviewAction app body hex action targetStatus).run
      (faulty plan (perform sql now)) ⟨catalog, 0, []⟩).1 = last) (failed : last.Failed) :
    Unaltered catalog last.log ↔ last.count ≤ body.reads + 1 := by
  have unfailed : ¬(⟨catalog, 0, []⟩ : Observed ReviewStatement ReviewCatalog).Failed :=
    Nat.lt_irrefl 0
  unfold applyReviewAction openReadyCatalog reviewTargetIds at ran
  split at ran
  · split at ran
    · simp only [Program.pure_eq, Program.done_bind, withConnection] at ran
      split at ran
      · exact absurd failed (ran ▸ unfailed)
      · rename_i first rest _ noQuery
        simp only [Program.done_bind] at ran
        rw [run_bind_done] at ran
        rw [ReviewActionRequest.reads, noQuery]
        exact updateFindings_unaltered_iff app sql now plan body _ action targetStatus _ rfl
          (by simp) rfl ran failed
      · exact absurd failed (ran ▸ unfailed)
      · rename_i params _ isQuery
        rw [run_execute_bind] at ran
        rw [ReviewActionRequest.reads, isQuery]
        rcases faulty_cases plan (perform sql now) (targetIds params) ⟨catalog, 0, []⟩ with
          ⟨next, error, stopped⟩ | ⟨next, result, performed, succeeded⟩
        · rw [stopped] at ran
          subst ran
          exact iff_of_true (unaltered_of_reads (by simp)) (by simp)
        · have same : next = catalog :=
            (congrArg Prod.fst performed).symm.trans (perform_targetIds_fst params)
          rw [succeeded] at ran
          dsimp only at ran
          rw [run_bind_done] at ran
          refine updateFindings_unaltered_iff app sql now plan body _ action targetStatus _ same ?_
            rfl ran failed
          intro statement member
          rw [List.mem_singleton.mp member]
          rfl
    · exact absurd failed (ran ▸ unfailed)
  · exact absurd failed (ran ▸ unfailed)

/-- What an undo writes, one statement after the other: for every row the status that its note
names, and the note that marks it. -/
def undoWrites (app : App) (actor : String) :
    List (String × String × PyValue) → List ReviewStatement
  | (rowId, findingId, .dict items) :: notes =>
    (match PyDict.get items "previous_status" with
      | .text points => (points.toString?.map fun status => updateStatus status findingId).toList
      | _ => []) ++
    match noteText app (undoneNote actor items) with
    | .ok note => updateNote note rowId :: undoWrites app actor notes
    | .error _ => []
  | _ => []

/-- The writes of an undo, by the rows that it selects. -/
def undoing (app : App) (sql : SqlFunctions) (reviewActionId actor : String)
    (catalog : ReviewCatalog) : List ReviewStatement :=
  match selectWhere (inGroup sql reviewActionId) catalog.reviewActions.rows with
  | none => []
  | some rows =>
    match (orderBy ReviewAction.reviewActionId rows).mapM (readNote app) with
    | .ok notes => undoWrites app actor notes
    | .error _ => []

theorem follows_undoRows (actor : String) (notes : List (String × String × PyValue)) :
    (undoRows app actor notes).Follows (undoWrites app actor notes) := by
  induction notes with
  | nil => trivial
  | cons note notes ih =>
    rcases note with ⟨rowId, findingId, value⟩
    cases value with
    | dict items =>
      have marks : ∀ restored : Bool, Program.Follows (do
            let note ← Program.ofExcept (noteText app (undoneNote actor items))
            execute (.updateNote note rowId)
            let others ← undoRows app actor notes
            return if restored then findingId :: others else others)
          (match noteText app (undoneNote actor items) with
            | .ok note => updateNote note rowId :: undoWrites app actor notes
            | .error _ => []) := by
        intro restored
        cases noteText app (undoneNote actor items) with
        | error error => trivial
        | ok note => exact ⟨_, rfl, fun _ => ih.bind_done, fun error => ⟨_, rfl⟩⟩
      rw [undoRows, undoWrites]
      cases PyDict.get items "previous_status" with
      | text points =>
        rw [restoreStatus]
        dsimp only
        cases points.toString? with
        | none => trivial
        | some status => exact ⟨_, rfl, fun _ => marks true, fun error => ⟨_, rfl⟩⟩
      | _ => exact marks false
    | _ => trivial

theorem follows_selected (reviewActionId actor : String) (rows : List ReviewAction) :
    Program.Follows (if rows = [] then throw (.http 404) else do
        let notes ← Program.ofExcept (rows.mapM (readNote app))
        let already ← Program.ofExcept (allUndone notes)
        if already then return .alreadyUndone reviewActionId
        else do
          let restored ← withConnection (undoRows app actor notes)
          return .undone reviewActionId restored : Handler Response)
      (match rows.mapM (readNote app) with
        | .ok notes => undoWrites app actor notes
        | .error _ => []) := by
  split
  · trivial
  · cases rows.mapM (readNote app) with
    | error error => trivial
    | ok notes =>
      cases undone : allUndone notes with
      | error error => simp only [Program.ofExcept, Program.done_bind, undone]; trivial
      | ok already =>
        simp only [Program.ofExcept, Program.done_bind, undone]
        split
        · trivial
        · exact (follows_undoRows app actor notes).bind_done

/-- The rows that are selected decide what an undo has written when a statement fails. -/
theorem undoReviewAction_unaltered_iff (catalog : ReviewCatalog) (reviewActionId actor : String)
    {last : Observed ReviewStatement ReviewCatalog}
    (ran : ((undoReviewAction app reviewActionId actor).run (faulty plan (perform sql now))
      ⟨catalog, 0, []⟩).1 = last) (failed : last.Failed) :
    Unaltered catalog last.log ↔
      Unaltered catalog ((undoing app sql reviewActionId actor catalog).take (last.count - 2)) := by
  have unfailed : ¬(⟨catalog, 0, []⟩ : Observed ReviewStatement ReviewCatalog).Failed :=
    Nat.lt_irrefl 0
  unfold undoReviewAction openReadyCatalog at ran
  split at ran
  · split at ran
    · rw [Program.pure_eq, Program.done_bind, run_execute_bind] at ran
      rcases faulty_cases plan (perform sql now) (selectGroup reviewActionId) ⟨catalog, 0, []⟩ with
        ⟨next, error, stopped⟩ | ⟨next, rows, performed, succeeded⟩
      · rw [stopped] at ran
        subst ran
        rfl
      · rw [succeeded] at ran
        simp only [perform] at performed
        split at performed <;> cases performed
        rename_i found isFound
        rw [undoing, isFound]
        dsimp only at ran ⊢
        rcases log_of_follows (follows_selected app reviewActionId actor _) rfl ran failed with
          ⟨before, count, log⟩
        rw [log, count, Nat.add_right_comm, Nat.add_sub_cancel_left]
        exact unaltered_cons_iff rfl
    · exact absurd failed (ran ▸ unfailed)
  · exact absurd failed (ran ▸ unfailed)

end Failures

/-! ## Requests -/

/-- A request that runs alone, while any of its statements may fail. -/
def observe (app : App) (sql : SqlFunctions) (now : ReviewStatement → DateTime)
    (plan : ℕ → Option PyError) (request : Request) (catalog : ReviewCatalog) :
    Observed ReviewStatement ReviewCatalog × Except Failure Response :=
  (handle app request).run (faulty plan (perform sql now)) ⟨catalog, 0, []⟩

/-- A dismissal or a restoration fails at its first write at the latest; what an undo writes
before the failing statement is what its rows held. -/
def FailsHarmlessly (app : App) (sql : SqlFunctions) (catalog : ReviewCatalog) (number : ℕ) :
    Request → Prop
  | .dismiss body _ => number ≤ body.reads + 1
  | .restore body _ => number ≤ body.reads + 1
  | .undo reviewActionId actor =>
    Unaltered catalog ((undoing app sql reviewActionId actor catalog).take (number - 2))

/-- After a failure the tables are as before exactly if the request fails harmlessly. -/
theorem observe_state_eq_iff (app : App) (sql : SqlFunctions) (now : ReviewStatement → DateTime)
    (plan : ℕ → Option PyError) (request : Request) (catalog : ReviewCatalog)
    (failed : (observe app sql now plan request catalog).1.Failed) :
    (observe app sql now plan request catalog).1.state = catalog ↔
      FailsHarmlessly app sql catalog (observe app sql now plan request catalog).1.count
        request := by
  have atomic : ∀ statement state next error,
      perform sql now statement state = (next, .error error) → next = state :=
    fun _ _ _ _ failed => perform_error failed
  refine (eq_iff_unaltered (succeed_of_run atomic (handle app request) .nil)).trans ?_
  cases request with
  | dismiss body hex =>
    exact applyReviewAction_unaltered_iff app sql now plan catalog body hex .dismiss .dismissed
      rfl failed
  | restore body hex =>
    exact applyReviewAction_unaltered_iff app sql now plan catalog body hex .restore .new
      rfl failed
  | undo reviewActionId actor =>
    exact undoReviewAction_unaltered_iff app sql now plan catalog reviewActionId actor rfl failed

end Reperio.Review
