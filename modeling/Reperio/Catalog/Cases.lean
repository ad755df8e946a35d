import Reperio.Catalog.Schema

/-!
# Sources and scan cases

The tables `sources` and `scan_cases` of the catalog with their constraints,
and the statements with which the API reads and writes them. A case refers to
a source by a foreign key, which an insertion checks; nothing that is modelled
deletes a source.
-/

namespace Reperio.Catalog

open Python Relational

/-- The states of a case. -/
inductive CaseState where
  | created
  | running
  | paused
  | completed
  | failed
  | cancelled
  deriving DecidableEq, Repr

namespace CaseState

/-- `state IN ('created', 'running', 'paused')`. -/
def active : CaseState → Bool
  | created => true
  | running => true
  | paused => true
  | _ => false

end CaseState

/-- The kinds of media that a source can be. -/
inductive MediaKind where
  | block
  | optical
  | floppy
  | image
  deriving DecidableEq, Repr

/-- How far a source has come. -/
inductive SourceStatus where
  | candidate
  | approved
  | scanning
  | retired
  deriving DecidableEq, Repr

/-- A row of `sources`. -/
structure Source where
  sourceId : String
  stableIdentity : String
  mediaKind : MediaKind
  label : Option String
  sizeBytes : ℤ
  sectorSize : ℤ
  fingerprintSha256 : String
  status : SourceStatus
  createdAt : String
  updatedAt : String
  deriving DecidableEq, Repr

/-- A row of `scan_cases`. -/
structure ScanCase where
  caseId : String
  sourceId : String
  state : CaseState
  policyJson : String
  createdAt : String
  updatedAt : String
  deriving DecidableEq, Repr

/-- `sources`: the primary key is `source_id`, and `stable_identity` is unique. -/
def sourcesSchema : Schema Source String where
  key := Source.sourceId
  Check row := 0 ≤ row.sizeBytes ∧ 0 < row.sectorSize ∧
    (sqlChars row.fingerprintSha256).length = 64 ∧ timestampCheck row.createdAt = true ∧
    timestampCheck row.updatedAt = true
  Clash first second :=
    first.sourceId = second.sourceId ∨ first.stableIdentity = second.stableIdentity
  clash_of_key_eq := fun _ _ same => Or.inl same

def scanCasesSchema (runtime : Runtime) : Schema ScanCase String where
  key := ScanCase.caseId
  Check row := runtime.jsonValid row.policyJson = true ∧ timestampCheck row.createdAt = true ∧
    timestampCheck row.updatedAt = true
  Clash first second := first.caseId = second.caseId
  clash_of_key_eq := fun _ _ same => same

/-- The two tables of the cases. -/
structure CaseCatalog (runtime : Runtime) where
  sources : Table sourcesSchema
  scanCases : Table (scanCasesSchema runtime)

/-! ## Statements -/

/-- The statements that requests about cases issue. -/
inductive CaseStatement where
  | activeCase (sourceId : String)
  | getCase (caseId : String)
  | insertSource (sourceId fingerprintSha256 : String)
  | insertCase (caseId sourceId policyJson : String)
  | updateState (caseId : String) (state : CaseState)
  deriving DecidableEq, Repr

namespace CaseStatement

@[reducible]
def Reply : CaseStatement → Type
  | activeCase _ => Bool
  | getCase _ => Option ScanCase
  | insertSource _ _ => Unit
  | insertCase _ _ _ => Except PyError Unit
  | updateState _ _ => Except PyError Unit

/-- The row that `INSERT OR IGNORE INTO sources` offers. -/
def sourceRow (sourceId fingerprintSha256 now : String) : Source where
  sourceId
  stableIdentity := sourceId
  mediaKind := .block
  label := none
  sizeBytes := 0
  sectorSize := 512
  fingerprintSha256
  status := .approved
  createdAt := now
  updatedAt := now

def caseRow (caseId sourceId policyJson now : String) : ScanCase where
  caseId
  sourceId
  state := .running
  policyJson
  createdAt := now
  updatedAt := now

variable {runtime : Runtime}

/-- `now` is what SQLite's clock shows during the statement. -/
def perform (now : CaseStatement → DateTime) :
    (statement : CaseStatement) → CaseCatalog runtime → CaseCatalog runtime × statement.Reply
  | activeCase sourceId, catalog =>
    (catalog, catalog.scanCases.rows.any fun row =>
      decide (row.sourceId = sourceId) && row.state.active)
  | getCase caseId, catalog => (catalog, catalog.scanCases.lookup caseId)
  | insertSource sourceId fingerprint, catalog =>
    match catalog.sources.insert (sourceRow sourceId fingerprint
      (strftime (now (insertSource sourceId fingerprint)))) with
    | some sources => ({ catalog with sources }, ())
    | none => (catalog, ())
  | insertCase caseId sourceId policyJson, catalog =>
    match catalog.sources.lookup sourceId with
    | some _ =>
      match catalog.scanCases.insert (caseRow caseId sourceId policyJson
        (strftime (now (insertCase caseId sourceId policyJson)))) with
      | some scanCases => ({ catalog with scanCases }, .ok ())
      | none => (catalog, .error .integrityError)
    | none => (catalog, .error .integrityError)
  | updateState caseId state, catalog =>
    match catalog.scanCases.update (fun row => decide (row.caseId = caseId))
      fun row => { row with
        state, updatedAt := strftime (now (updateState caseId state)) } with
    | some (scanCases, _) => ({ catalog with scanCases }, .ok ())
    | none => (catalog, .error .integrityError)

/-- Every statement but the insertion of a case and the change of a state keeps the cases. -/
theorem perform_scanCases_of_source (now : CaseStatement → DateTime) (sourceId fingerprint : String)
    (catalog : CaseCatalog runtime) :
    (perform now (insertSource sourceId fingerprint) catalog).1.scanCases = catalog.scanCases := by
  simp only [perform]
  split <;> rfl

theorem perform_insertCase_eq_ok {now : CaseStatement → DateTime}
    {caseId sourceId policyJson : String} {catalog stored : CaseCatalog runtime} :
    perform now (insertCase caseId sourceId policyJson) catalog = (stored, .ok ()) ↔
      (catalog.sources.lookup sourceId).isSome ∧
        ∃ scanCases, catalog.scanCases.insert (caseRow caseId sourceId policyJson
            (strftime (now (insertCase caseId sourceId policyJson)))) = some scanCases ∧
          stored = { catalog with scanCases } := by
  simp only [perform]
  cases catalog.sources.lookup sourceId with
  | none => simp
  | some source =>
    simp only [Option.isSome_some, true_and]
    cases catalog.scanCases.insert (caseRow caseId sourceId policyJson
      (strftime (now (insertCase caseId sourceId policyJson)))) with
    | none => simp
    | some scanCases =>
      simp only [Prod.mk.injEq, and_true, Option.some.injEq, exists_eq_left']
      exact eq_comm

/-- A state can always be changed: the row that is replaced met the same checks. -/
theorem perform_updateState (now : CaseStatement → DateTime) (caseId : String) (state : CaseState)
    (catalog : CaseCatalog runtime) :
    ∃ scanCases : Table (scanCasesSchema runtime),
      perform now (updateState caseId state) catalog = ({ catalog with scanCases }, .ok ()) ∧
      scanCases.rows = catalog.scanCases.rows.map fun row =>
        if row.caseId = caseId then
          { row with state, updatedAt := strftime (now (updateState caseId state)) }
        else row := by
  have isSome : (catalog.scanCases.update (fun row => decide (row.caseId = caseId))
      fun row => { row with
        state, updatedAt := strftime (now (updateState caseId state)) }).isSome := by
    refine (Table.update_isSome ?_).mpr ?_
    · intro first second clash
      simp only [scanCasesSchema] at clash ⊢
      split at clash <;> split at clash <;> exact clash
    · intro row member _
      rcases catalog.scanCases.checked row member with ⟨policy, created, _⟩
      exact ⟨policy, created, timestampCheck_strftime _⟩
  rcases Option.isSome_iff_exists.mp isSome with ⟨⟨scanCases, count⟩, updated⟩
  refine ⟨scanCases, by simp only [perform, updated], ?_⟩
  rw [(Table.update_eq_some.mp updated).1, Table.updated]
  simp only [decide_eq_true_eq]

end CaseStatement

end Reperio.Catalog
