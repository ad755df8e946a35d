import Mathlib.Data.Prod.Lex
import Mathlib.Data.String.Basic
import Reperio.Catalog.Schema
import Reperio.Relational.Table

/-!
# Findings and review actions

The tables `findings`, `evidence` and `review_actions` of the catalog, the
filters with which findings are selected, and the statements with which the
API reviews them. Constraints that no statement of this file can break are left
to the types.

What SQLite's own functions make of a text is a parameter. A text that is no
JSON makes `json_extract` raise, a pattern that is too complex makes `LIKE`
raise, and with them the statement that evaluates them for some row.
-/

namespace Reperio.Catalog

open Python Relational

/-! ## Rows -/

/-- The types of findings. -/
inductive FindingType where
  | document
  | photo
  | video
  | archive
  | browser
  | wallet
  | credential
  | other
  deriving DecidableEq, Repr

def FindingType.text : FindingType → String
  | document => "document"
  | photo => "photo"
  | video => "video"
  | archive => "archive"
  | browser => "browser"
  | wallet => "wallet"
  | credential => "credential"
  | other => "other"

/-- How grave a finding is. -/
inductive Severity where
  | info
  | low
  | medium
  | high
  | critical
  deriving DecidableEq, Repr

def Severity.text : Severity → String
  | info => "info"
  | low => "low"
  | medium => "medium"
  | high => "high"
  | critical => "critical"

/-- What a review has made of a finding. -/
inductive FindingStatus where
  | new
  | reviewed
  | dismissed
  | exported
  deriving DecidableEq, Repr

namespace FindingStatus

def text : FindingStatus → String
  | new => "new"
  | reviewed => "reviewed"
  | dismissed => "dismissed"
  | exported => "exported"

/-- `CHECK (status IN (...))`. -/
def ofText? : String → Option FindingStatus
  | "new" => some new
  | "reviewed" => some reviewed
  | "dismissed" => some dismissed
  | "exported" => some exported
  | _ => none

@[simp]
theorem ofText?_text (status : FindingStatus) : ofText? status.text = some status := by
  cases status <;> rfl

theorem text_injective : Function.Injective text := by
  intro first second same
  exact Option.some.inj (by rw [← ofText?_text first, same, ofText?_text])

theorem text_of_ofText? {text : String} {status : FindingStatus}
    (known : ofText? text = some status) : status.text = text := by
  unfold ofText? at known
  split at known <;> cases known <;> rfl

end FindingStatus

/-- A row of `findings`. -/
structure Finding where
  findingId : String
  caseId : String
  entryId : Option String
  contentId : Option String
  findingType : FindingType
  severity : Severity
  title : String
  summary : String
  status : FindingStatus
  confidence : PyFloat
  createdAt : String
  deriving DecidableEq

/-- The kinds of evidence. -/
inductive EvidenceKind where
  | metadata
  | signature
  | text
  | thumbnail
  | hash
  | audit
  deriving DecidableEq, Repr

/-- A row of `evidence`. -/
structure Evidence where
  findingId : String
  evidenceKind : EvidenceKind
  dataJson : String
  deriving DecidableEq

/-- The kinds of review actions. -/
inductive ReviewActionKind where
  | markReviewed
  | dismiss
  | restore
  | tag
  | note
  deriving DecidableEq, Repr

/-- A row of `review_actions`. -/
structure ReviewAction where
  reviewActionId : String
  findingId : String
  action : ReviewActionKind
  actor : String
  note : Option String
  createdAt : String
  deriving DecidableEq

def findingsSchema : Schema Finding String where
  key := Finding.findingId
  Check row := timestampCheck row.createdAt = true
  Clash first second := first.findingId = second.findingId
  clash_of_key_eq := fun _ _ same => same

def reviewActionsSchema : Schema ReviewAction String where
  key := ReviewAction.reviewActionId
  Check row := timestampCheck row.createdAt = true
  Clash first second := first.reviewActionId = second.reviewActionId
  clash_of_key_eq := fun _ _ same => same

/-- The tables that a review reads and writes. -/
structure ReviewCatalog where
  findings : Table findingsSchema
  evidence : List Evidence
  reviewActions : Table reviewActionsSchema

/-! ## Filters -/

/-- A value that a statement compares with. -/
inductive SqlLiteral where
  | integer (value : ℤ)
  | text (value : String)
  deriving DecidableEq, Repr

/-- The functions of SQLite that the statements call. -/
structure SqlFunctions where
  -- the condition `json_extract(json, path) = literal`; none where the text is no JSON
  jsonExtractEq : (json path : String) → SqlLiteral → Option Bool
  -- the condition `text LIKE pattern ESCAPE '\'`; none where the pattern is too complex
  like : (text pattern : String) → Option Bool
  maxVariableNumber : ℕ

/-- The parameters of a query for findings; `limit` is checked where a request arrives. -/
structure FindingQueryParams where
  caseId : Option String := none
  findingType : Option String := none
  severity : Option String := none
  status : Option String := none
  q : Option String := none
  cursor : Option String := none
  limit : ℕ := 100
  includeSystemNoise : Bool := false
  limit_low : 1 ≤ limit := by decide
  limit_high : limit ≤ 500 := by decide
  deriving DecidableEq

/-- `column = ?`, for a parameter that is given. -/
def columnMatches (param : Option String) (column : String) : Bool := match param with
  | none => true
  | some value => decide (column = value)

/-- `_escape_like`. -/
def escapeLike (value : String) : String :=
  ((value.replace "\\" "\\\\").replace "%" "\\%").replace "_" "\\_"

/-- The pattern of a search for the text anywhere in a column; an empty text is not searched for. -/
def likePattern? : Option String → Option String
  | none => none
  | some q => if q = "" then none else some ("%" ++ escapeLike q ++ "%")

def systemNoise (sql : SqlFunctions) (evidence : List Evidence) (findingId : String) : Bool :=
  evidence.any fun item =>
    decide (item.findingId = findingId) && decide (item.evidenceKind = .metadata) &&
      decide (sql.jsonExtractEq item.dataJson "$.system_noise" (.integer 1) = some true)

def systemNoiseAllowed (sql : SqlFunctions) (evidence : List Evidence)
    (params : FindingQueryParams) (row : Finding) : Bool :=
  params.includeSystemNoise || !systemNoise sql evidence row.findingId

/-- `_finding_where`: the condition on a row, from left to right. -/
def findingWhere (sql : SqlFunctions) (evidence : List Evidence) (params : FindingQueryParams)
    (row : Finding) : Option Bool :=
  if columnMatches params.caseId row.caseId &&
    columnMatches params.findingType row.findingType.text &&
      columnMatches params.severity row.severity.text &&
      columnMatches params.status row.status.text then
    match likePattern? params.q with
    | none => some (systemNoiseAllowed sql evidence params row)
    | some pattern => do
        let inTitle ← sql.like row.title pattern
        let found ← if inTitle then some true else sql.like row.summary pattern
        return found && systemNoiseAllowed sql evidence params row
  else some false

/-! ## Statements -/

/-- The statements that a review issues. -/
inductive ReviewStatement where
  | targetIds (params : FindingQueryParams)
  | statuses (findingIds : List String)
  | updateStatus (status findingId : String)
  | insertAction (reviewActionId findingId : String) (action : ReviewActionKind)
      (actor note : String)
  | selectGroup (reviewActionId : String)
  | updateNote (note reviewActionId : String)
  deriving DecidableEq

namespace ReviewStatement

/-- Every statement may fail. -/
@[reducible]
def Result : ReviewStatement → Type
  | targetIds _ => List String
  | statuses _ => List (String × FindingStatus)
  | updateStatus _ _ => Unit
  | insertAction _ _ _ _ _ => Unit
  | selectGroup _ => List ReviewAction
  | updateNote _ _ => Unit

@[reducible]
def Reply (statement : ReviewStatement) : Type := Except PyError statement.Result

/-- `review_action_id = ? OR json_extract(note, '$.group_id') = ?`. -/
def inGroup (sql : SqlFunctions) (reviewActionId : String) (row : ReviewAction) : Option Bool :=
  if row.reviewActionId = reviewActionId then some true
  else
    match row.note with
    | none => some false
    | some note => sql.jsonExtractEq note "$.group_id" (.text reviewActionId)

/-- The rows for which a condition holds; none where it raises for some row. -/
def selectWhere {Row : Type} (condition : Row → Option Bool) (rows : List Row) :
    Option (List Row) :=
  if rows.all fun row => (condition row).isSome then
    some (rows.filter fun row => decide (condition row = some true))
  else none

/-- The order `created_at, finding_id`. -/
def findingOrder (row : Finding) : String ×ₗ String := toLex (row.createdAt, row.findingId)

/-- The row that an insertion offers; `now` is what SQLite's clock shows during a statement. -/
def actionRow (now : ReviewStatement → DateTime) (reviewActionId findingId : String)
    (action : ReviewActionKind) (actor note : String) : ReviewAction where
  reviewActionId
  findingId
  action
  actor
  note := some note
  createdAt := strftime (now (insertAction reviewActionId findingId action actor note))

def perform (sql : SqlFunctions) (now : ReviewStatement → DateTime) :
    (statement : ReviewStatement) → ReviewCatalog → ReviewCatalog × statement.Reply
  | targetIds params, catalog =>
    match selectWhere (findingWhere sql catalog.evidence params) catalog.findings.rows with
    | some rows => (catalog, .ok ((orderBy findingOrder rows).map Finding.findingId))
    | none => (catalog, .error .operationalError)
  | statuses findingIds, catalog =>
    if sql.maxVariableNumber < findingIds.length then (catalog, .error .operationalError)
    else
      (catalog, .ok ((orderBy Finding.findingId
        (catalog.findings.rows.filter fun row => decide (row.findingId ∈ findingIds))).map
          fun row => (row.findingId, row.status)))
  | updateStatus status findingId, catalog =>
    match FindingStatus.ofText? status with
    | some known =>
      match catalog.findings.update (fun row => decide (row.findingId = findingId))
        fun row => { row with status := known } with
      | some (findings, _) => ({ catalog with findings }, .ok ())
      | none => (catalog, .error .integrityError)
    | none =>
      if (catalog.findings.lookup findingId).isSome then (catalog, .error .integrityError)
      else (catalog, .ok ())
  | insertAction reviewActionId findingId action actor note, catalog =>
    match catalog.findings.lookup findingId with
    | some _ =>
      match catalog.reviewActions.insert
        (actionRow now reviewActionId findingId action actor note) with
      | some reviewActions => ({ catalog with reviewActions }, .ok ())
      | none => (catalog, .error .integrityError)
    | none => (catalog, .error .integrityError)
  | selectGroup reviewActionId, catalog =>
    match selectWhere (inGroup sql reviewActionId) catalog.reviewActions.rows with
    | some rows => (catalog, .ok (orderBy ReviewAction.reviewActionId rows))
    | none => (catalog, .error .operationalError)
  | updateNote note reviewActionId, catalog =>
    match catalog.reviewActions.update (fun row => decide (row.reviewActionId = reviewActionId))
      fun row => { row with note := some note } with
    | some (reviewActions, _) => ({ catalog with reviewActions }, .ok ())
    | none => (catalog, .error .integrityError)

/-! ## What the statements do -/

section Effects

variable {sql : SqlFunctions} {now : ReviewStatement → DateTime} {catalog next : ReviewCatalog}

/-- `UPDATE findings SET status = ? WHERE finding_id = ?`, row by row. -/
def withStatus (status findingId : String) (row : Finding) : Finding :=
  if row.findingId = findingId then
    match FindingStatus.ofText? status with
    | some known => { row with status := known }
    | none => row
  else row

/-- `UPDATE review_actions SET note = ? WHERE review_action_id = ?`, row by row. -/
def withNote (note reviewActionId : String) (row : ReviewAction) : ReviewAction :=
  if row.reviewActionId = reviewActionId then { row with note := some note } else row

@[simp]
theorem withStatus_findingId (status findingId : String) (row : Finding) :
    (withStatus status findingId row).findingId = row.findingId := by
  unfold withStatus
  split
  · split <;> rfl
  · rfl

@[simp]
theorem withNote_reviewActionId (note reviewActionId : String) (row : ReviewAction) :
    (withNote note reviewActionId row).reviewActionId = row.reviewActionId := by
  unfold withNote
  split <;> rfl

theorem update_findings_isSome (findings : Table findingsSchema) (findingId : String)
    (status : FindingStatus) :
    ∃ next count, findings.update (fun row => decide (row.findingId = findingId))
        (fun row => { row with status }) = some (next, count) ∧
      next.rows = findings.rows.map fun row =>
        if row.findingId = findingId then { row with status } else row := by
  have isSome : (findings.update (fun row => decide (row.findingId = findingId))
      fun row => { row with status }).isSome := by
    refine (Table.update_isSome ?_).mpr fun row member _ => findings.checked row member
    intro first second clash
    simp only [findingsSchema] at clash ⊢
    split at clash <;> split at clash <;> exact clash
  rcases Option.isSome_iff_exists.mp isSome with ⟨⟨next, count⟩, updated⟩
  refine ⟨next, count, updated, ?_⟩
  rw [(Table.update_eq_some.mp updated).1, Table.updated]
  simp only [decide_eq_true_eq]

/-- A status that the column takes is written; any other one only where there is no row. -/
theorem perform_updateStatus (sql : SqlFunctions) (now : ReviewStatement → DateTime)
    (status findingId : String) (catalog : ReviewCatalog) :
    (perform sql now (updateStatus status findingId) catalog = (catalog, .error .integrityError) ∧
      FindingStatus.ofText? status = none ∧ (catalog.findings.lookup findingId).isSome = true) ∨
    ∃ findings, perform sql now (updateStatus status findingId) catalog =
        ({ catalog with findings }, .ok ()) ∧
      findings.rows = catalog.findings.rows.map (withStatus status findingId) ∧
      (FindingStatus.ofText? status = none →
        (catalog.findings.lookup findingId).isSome = false) := by
  cases known : FindingStatus.ofText? status with
  | some known' =>
    rcases update_findings_isSome catalog.findings findingId known' with
      ⟨findings, count, updated, rows⟩
    refine Or.inr ⟨findings, by simp only [perform, known, updated], ?_, by simp⟩
    rw [rows]
    refine List.map_congr_left fun row _ => ?_
    simp only [withStatus, known]
  | none =>
    cases found : (catalog.findings.lookup findingId).isSome with
    | true => exact Or.inl ⟨by simp only [perform, known, found, if_true], rfl, rfl⟩
    | false =>
      refine Or.inr ⟨catalog.findings, ?_, ?_, fun _ => rfl⟩
      · simp only [perform, known, found, Bool.false_eq_true, if_false]
      · have kept : withStatus status findingId = id := by
          funext row
          simp only [withStatus, known, ite_self, id]
        rw [kept, List.map_id]

theorem perform_updateNote (sql : SqlFunctions) (now : ReviewStatement → DateTime)
    (note reviewActionId : String) (catalog : ReviewCatalog) :
    ∃ reviewActions, perform sql now (updateNote note reviewActionId) catalog =
        ({ catalog with reviewActions }, .ok ()) ∧
      reviewActions.rows = catalog.reviewActions.rows.map (withNote note reviewActionId) := by
  have isSome : (catalog.reviewActions.update
      (fun row => decide (row.reviewActionId = reviewActionId))
      fun row => { row with note := some note }).isSome := by
    refine (Table.update_isSome ?_).mpr fun row member _ => catalog.reviewActions.checked row member
    intro first second clash
    simp only [reviewActionsSchema] at clash ⊢
    split at clash <;> split at clash <;> exact clash
  rcases Option.isSome_iff_exists.mp isSome with ⟨⟨reviewActions, count⟩, updated⟩
  refine ⟨reviewActions, by simp only [perform, updated], ?_⟩
  rw [(Table.update_eq_some.mp updated).1, Table.updated]
  simp only [decide_eq_true_eq]
  rfl

def restate (status findingId : String) (findings : Table findingsSchema) :
    Table findingsSchema where
  rows := findings.rows.map (withStatus status findingId)
  checked := by
    intro row member
    rcases List.mem_map.mp member with ⟨old, oldMember, rfl⟩
    have same : (withStatus status findingId old).createdAt = old.createdAt := by
      unfold withStatus
      split
      · split <;> rfl
      · rfl
    simp only [findingsSchema, same]
    exact findings.checked old oldMember
  apart := by
    refine List.pairwise_map.mpr (findings.apart.imp ?_)
    simp only [findingsSchema, withStatus_findingId]
    exact id

theorem perform_updateStatus_eq (status findingId : String) :
    perform sql now (updateStatus status findingId) catalog =
      if FindingStatus.ofText? status = none ∧
        (catalog.findings.lookup findingId).isSome = true then
        (catalog, .error .integrityError)
      else ({ catalog with findings := restate status findingId catalog.findings }, .ok ()) := by
  rcases perform_updateStatus sql now status findingId catalog with
    ⟨performed, unknown, found⟩ | ⟨findings, performed, rows, missing⟩
  · rw [performed, if_pos ⟨unknown, found⟩]
  · obtain rfl : findings = restate status findingId catalog.findings := Table.ext rows
    rw [performed, if_neg]
    rintro ⟨unknown, found⟩
    rw [missing unknown] at found
    cases found

def renote (note reviewActionId : String) (reviewActions : Table reviewActionsSchema) :
    Table reviewActionsSchema where
  rows := reviewActions.rows.map (withNote note reviewActionId)
  checked := by
    intro row member
    rcases List.mem_map.mp member with ⟨old, oldMember, rfl⟩
    have same : (withNote note reviewActionId old).createdAt = old.createdAt := by
      unfold withNote
      split <;> rfl
    simp only [reviewActionsSchema, same]
    exact reviewActions.checked old oldMember
  apart := by
    refine List.pairwise_map.mpr (reviewActions.apart.imp ?_)
    simp only [reviewActionsSchema, withNote_reviewActionId]
    exact id

theorem perform_updateNote_eq (note reviewActionId : String) :
    perform sql now (updateNote note reviewActionId) catalog =
      ({ catalog with reviewActions := renote note reviewActionId catalog.reviewActions },
        .ok ()) := by
  rcases perform_updateNote sql now note reviewActionId
    catalog with ⟨reviewActions, performed, rows⟩
  obtain rfl : reviewActions = renote note reviewActionId catalog.reviewActions := Table.ext rows
  exact performed

/-- An insertion asks for the finding, and for an identifier that is not in use. -/
theorem perform_insertAction (sql : SqlFunctions) (now : ReviewStatement → DateTime)
    (reviewActionId findingId : String) (action : ReviewActionKind) (actor note : String)
    (catalog : ReviewCatalog) :
    (perform sql now (insertAction reviewActionId findingId action actor note) catalog =
        (catalog, .error .integrityError) ∧
      ¬((catalog.findings.lookup findingId).isSome = true ∧
        ∀ row ∈ catalog.reviewActions.rows, row.reviewActionId ≠ reviewActionId)) ∨
    ∃ reviewActions, perform sql now (insertAction reviewActionId findingId action actor note)
        catalog = ({ catalog with reviewActions }, .ok ()) ∧
      reviewActions.rows = catalog.reviewActions.rows ++
        [actionRow now reviewActionId findingId action actor note] ∧
      (catalog.findings.lookup findingId).isSome = true ∧
      ∀ row ∈ catalog.reviewActions.rows, row.reviewActionId ≠ reviewActionId := by
  simp only [perform]
  cases found : catalog.findings.lookup findingId with
  | none => exact Or.inl ⟨rfl, by simp⟩
  | some finding =>
    cases inserted : catalog.reviewActions.insert
      (actionRow now reviewActionId findingId action actor note) with
    | some reviewActions =>
      rcases Table.insert_eq_some.mp inserted with ⟨_, fresh, rows⟩
      exact Or.inr ⟨reviewActions, rfl, rows, rfl, fresh⟩
    | none =>
      have taken := Table.insert_eq_none.mp inserted
      refine Or.inl ⟨rfl, ?_⟩
      rintro ⟨_, fresh⟩
      exact taken ⟨timestampCheck_strftime _, fresh⟩

/-- The finding is there, and the identifier of the action is not in use. -/
abbrev Accepts (reviewActionId findingId : String) (catalog : ReviewCatalog) : Prop :=
  (catalog.findings.lookup findingId).isSome = true ∧
    ∀ row ∈ catalog.reviewActions.rows, row.reviewActionId ≠ reviewActionId

def withAction (row : ReviewAction) (reviewActions : Table reviewActionsSchema) :
    Table reviewActionsSchema :=
  (reviewActions.insert row).getD reviewActions

theorem perform_insertAction_of_accepts {reviewActionId findingId : String}
    (accepts : Accepts reviewActionId findingId catalog) (action : ReviewActionKind)
    (actor note : String) :
    perform sql now (insertAction reviewActionId findingId action actor note) catalog =
      ({ catalog with reviewActions := (withAction
          (actionRow now reviewActionId findingId action actor note) catalog.reviewActions) },
        .ok ()) := by
  rcases perform_insertAction sql now reviewActionId findingId action actor note catalog with
    ⟨_, refused⟩ | ⟨reviewActions, performed, rows, _⟩
  · exact absurd accepts refused
  · have inserted : catalog.reviewActions.insert
        (actionRow now reviewActionId findingId action actor note) = some reviewActions :=
      Table.insert_eq_some.mpr ⟨timestampCheck_strftime _, accepts.2, rows⟩
    rw [performed, withAction, inserted]
    rfl

theorem perform_insertAction_of_refused {reviewActionId findingId : String}
    (refused : ¬Accepts reviewActionId findingId catalog) (action : ReviewActionKind)
    (actor note : String) :
    perform sql now (insertAction reviewActionId findingId action actor note) catalog =
      (catalog, .error .integrityError) := by
  rcases perform_insertAction sql now reviewActionId findingId action actor note catalog with
    ⟨performed, _⟩ | ⟨_, _, _, accepts⟩
  · exact performed
  · exact absurd accepts refused

theorem withAction_rows {reviewActionId findingId actor note : String} {action : ReviewActionKind}
    {reviewActions : Table reviewActionsSchema}
    (fresh : ∀ row ∈ reviewActions.rows, row.reviewActionId ≠ reviewActionId) :
    (withAction (actionRow now reviewActionId findingId action actor note) reviewActions).rows =
      reviewActions.rows ++ [actionRow now reviewActionId findingId action actor note] := by
  have isSome : (reviewActions.insert
      (actionRow now reviewActionId findingId action actor note)).isSome := by
    rw [Option.isSome_iff_ne_none, ne_eq, Table.insert_eq_none, not_not]
    exact ⟨timestampCheck_strftime _, fresh⟩
  rcases Option.isSome_iff_exists.mp isSome with ⟨next, inserted⟩
  rw [withAction, inserted]
  exact (Table.insert_eq_some.mp inserted).2.2

/-- A statement that fails leaves the catalog as it was. -/
theorem perform_error {statement : ReviewStatement} {error : PyError}
    (failed : perform sql now statement catalog = (next, .error error)) : next = catalog := by
  cases statement with
  | targetIds params =>
    simp only [perform] at failed
    split at failed <;> cases failed
    rfl
  | statuses findingIds =>
    simp only [perform] at failed
    split at failed <;> cases failed
    rfl
  | updateStatus status findingId =>
    rcases perform_updateStatus sql now status findingId catalog with
      ⟨performed, _⟩ | ⟨_, performed, _⟩ <;> rw [performed] at failed <;> cases failed
    rfl
  | insertAction reviewActionId findingId action actor note =>
    rcases perform_insertAction sql now reviewActionId findingId action actor note catalog with
      ⟨performed, _⟩ | ⟨_, performed, _⟩ <;> rw [performed] at failed <;> cases failed
    rfl
  | selectGroup reviewActionId =>
    simp only [perform] at failed
    split at failed <;> cases failed
    rfl
  | updateNote note reviewActionId =>
    rcases perform_updateNote sql now note reviewActionId catalog with ⟨_, performed, _⟩
    rw [performed] at failed
    cases failed

theorem perform_targetIds_fst (params : FindingQueryParams) :
    (perform sql now (targetIds params) catalog).1 = catalog := by
  simp only [perform]
  split <;> rfl

theorem perform_statuses_fst (findingIds : List String) :
    (perform sql now (statuses findingIds) catalog).1 = catalog := by
  simp only [perform]
  split <;> rfl

theorem perform_selectGroup_fst (reviewActionId : String) :
    (perform sql now (selectGroup reviewActionId) catalog).1 = catalog := by
  simp only [perform]
  split <;> rfl

end Effects

end ReviewStatement

end Reperio.Catalog
