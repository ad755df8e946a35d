import Reperio.Catalog.Cases
import Reperio.Concurrency.Crew
import Reperio.Concurrency.Transaction
import Reperio.Hostd.Topology
import Reperio.Python.JsonLayout
import Reperio.Python.Utf8

/-!
# The scan-case endpoints

The handlers of `app.py` that preview a source and start, pause, stop, resume
and reconnect a scan. None of them awaits anything, so the requests to one
application run one after the other. A handler is a program over the
application's table of confirmations, one connection to the catalog, the host
daemon and the clocks; which answers those outside give during a request is an
`Environment`, and every environment is allowed.

The daemon is reached through `_hostd`, which refuses answers that are no
dictionary and looks at nothing else. What was asked and answered during a
request is kept in the world as `exchanges`.
-/

namespace Reperio.Api

open Concurrency Python Catalog Hostd Relational

/-- `CONFIRMATION_TOKEN_TTL_SECONDS`. -/
def confirmationTokenTtlSeconds : ℚ := 300

/-! ## Outside the application -/

/-- The methods of the host daemon with their parameters. -/
inductive HostdCall where
  | inspectSafety (sourceId : String) (observedGeneration : ℕ)
  | prepareReadOnly (sourceId : String) (observedGeneration : ℕ)
      (safetyInspectionId operatorConfirmationToken : String)
  | launchScanner (sourceId : String) (observedGeneration : ℕ) (safetyInspectionId : String)
      (readonlyPreparationId : PyValue) (scanCaseId scratchSeparationId resourceProfile : String)
  | stopScanner (scannerSessionId : PyStr) (reason : String)
  | reconnect (scanCaseId sourceId : String) (observedGeneration : ℕ)

/-- What a call of the host daemon comes back with. -/
inductive HostdAnswer where
  -- `HostdUnavailable`
  | unavailable
  | raises (error : PyError)
  | value (value : PyValue)

/-- What a request meets: whether the catalog is ready, the clocks, `uuid.uuid4().hex[:24]` and the
daemon. -/
structure Environment where
  catalogReady : Bool
  monotonic : ℚ
  uuidHex : String
  now : CaseStatement → DateTime
  hostd : HostdCall → HostdAnswer

/-- How a request fails. -/
inductive Failure where
  | http (statusCode : ℕ)
  | keyError
  | python (error : PyError)
  deriving DecidableEq, Repr

/-! ## Requests -/

/-- An entry of `app.state.source_confirmations`. -/
structure Confirmation where
  generation : ℕ
  safetyInspectionId : PyStr
  token : String
  issuedAt : ℚ
  deriving DecidableEq

/-- The body of a preview. -/
structure SourcePreviewRequest where
  observedGeneration : ℕ
  scanPolicy : PyDict

/-- The body of a start, with what the preview gave out. -/
structure StartScanRequest where
  sourceId : String
  observedGeneration : ℕ
  safetyInspectionId : String
  operatorConfirmationToken : String
  scratchSeparationId : String
  resourceProfile : String
  scanPolicy : PyDict

/-- The requests about cases, with their bodies. -/
inductive Request where
  | preview (sourceId : String) (body : SourcePreviewRequest)
  | start (body : StartScanRequest)
  | pause (caseId reason : String)
  | safeStop (caseId reason : String)
  | resume (caseId : String) (body : SourcePreviewRequest)
  | reconnect (caseId : String) (body : SourcePreviewRequest)

/-- The answers to the requests. -/
inductive Response where
  | preview (sourceId : String) (observedGeneration : ℕ) (safetyInspection : PyDict)
      (operatorConfirmationToken : String) (scanPolicy : PyDict)
  | started (caseId : String) (scanner : PyDict)
  | moved (caseId : String) (state : CaseState)
  | reconnected (caseId : String) (reconnect : PyDict)

/-! ## The world -/

/-- The catalog, the confirmations given out and the calls made. -/
structure World (runtime : Runtime) where
  database : Session (CaseCatalog runtime)
  confirmations : String → Option Confirmation
  exchanges : List (HostdCall × HostdAnswer)

/-- What a request asks of its surroundings. -/
inductive Query where
  | ready
  | monotonic
  | uuid4
  | hostd (call : HostdCall)
  | confirmation (sourceId : String)
  | confirm (sourceId : String) (confirmation : Confirmation)
  | command (command : Command CaseStatement)
  | close

@[reducible]
def Query.Reply : Query → Type
  | ready => Bool
  | monotonic => ℚ
  | uuid4 => String
  | hostd _ => HostdAnswer
  | confirmation _ => Option Confirmation
  | confirm _ _ => Unit
  | command sent => sent.Answer CaseStatement.Reply
  | close => Unit

/-- Closing a connection rolls an open transaction back. -/
def closed {State : Type} (session : Session State) : Session State := .settled session.committed

def perform {runtime : Runtime} (environment : Environment) :
    (query : Query) → World runtime → World runtime × query.Reply
  | .ready, world => (world, environment.catalogReady)
  | .monotonic, world => (world, environment.monotonic)
  | .uuid4, world => (world, environment.uuidHex)
  | .hostd call, world =>
    ({ world with exchanges := world.exchanges ++ [(call, environment.hostd call)] },
      environment.hostd call)
  | .confirmation sourceId, world => (world, world.confirmations sourceId)
  | .confirm sourceId confirmation, world =>
    ({ world with
      confirmations := Function.update world.confirmations sourceId (some confirmation) }, ())
  | .command sent, world =>
    match sent.execute (CaseStatement.perform environment.now) world.database with
    | (database, answer) => ({ world with database }, answer)
  | .close, world => ({ world with database := closed world.database }, ())

/-! ## Handlers -/

/-- What the handlers take from outside: the interpreter's strings and the catalog's runtime. -/
structure Interpreter where
  runtime : Runtime
  strings : Strings

/-- An interpreter for concrete requests about the source `src_usb_1`. -/
def sampleInterpreter : Interpreter where
  runtime := { Runtime.sample with
    sha256Hex bytes := if bytes = utf8 "src_usb_1:1:safe_1" then
        "9fc0c0d73525c6d34c8cd898d0996802ca34036aca7f2248e4a3aa8b2ef4d54e"
      else "8daf9f7b8181f3a78c8c874b3a7f8e46aca0f62d804d7b69cb846d89e79205a7" }
  strings := ⟨fun _ => [], id⟩

abbrev Handler (α : Type) := Program Query Query.Reply Failure α

def ask (query : Query) : Handler query.Reply := Program.query query

def statement (sent : CaseStatement) : Handler sent.Reply := ask (.command (.statement sent))

/-- `BEGIN IMMEDIATE`, which nothing else of the application keeps out. -/
def beginImmediate : Handler Unit := do
  let accepted ← ask (.command (.control .begin))
  if accepted then return () else throw (.python .operationalError)

/-- `commit` and `rollback` of a connection do nothing where no transaction is open. -/
def finishTransaction (kind : Control) : Handler Unit := do
  let _ ← ask (.command (.control kind))
  return ()

/-- `with connection:` -/
def withConnection {α : Type} (body : Handler α) : Handler α := do
  let result ← Program.handle
    (fun error => do
      finishTransaction .rollback
      throw error) body
  finishTransaction .commit
  return result

def checkAnswer : HostdAnswer → Except Failure PyDict
  | .unavailable => .error (.http 503)
  | .raises error => .error (.python error)
  | .value (.dict items) => .ok items
  | .value _ => .error (.http 502)

/-- `_hostd`. -/
def askHostd (call : HostdCall) : Handler PyDict := do
  let answer ← ask (.hostd call)
  Program.ofExcept (checkAnswer answer)

/-- A text with a lone surrogate has no UTF-8 form. -/
def confirmationToken (interpreter : Interpreter) (sourceId : String) (generation : ℕ)
    (safetyInspectionId : PyStr) : Except Failure String :=
  match (PyStr.ofString (sourceId ++ ":" ++ Nat.repr generation ++ ":") ++
      safetyInspectionId).toString? with
  | none => .error (.python .valueError)
  | some text =>
    .ok ("confirm_" ++ String.ofList
      ((interpreter.runtime.sha256Hex (utf8 text)).toList.take 32))

/-- The comparisons of `_require_confirmation`. -/
def Confirmation.confirms (confirmation : Confirmation) (body : StartScanRequest) (now : ℚ) :
    Bool :=
  !(decide (confirmation.issuedAt < now - confirmationTokenTtlSeconds) ||
    decide (confirmation.generation ≠ body.observedGeneration) ||
    decide (confirmation.safetyInspectionId ≠ PyStr.ofString body.safetyInspectionId) ||
    decide (confirmation.token ≠ body.operatorConfirmationToken))

def requireConfirmation (body : StartScanRequest) : Handler Unit := do
  let confirmation ← ask (.confirmation body.sourceId)
  match confirmation with
  | none => throw (.http 409)
  | some confirmation =>
    let now ← ask .monotonic
    if confirmation.confirms body now then return () else throw (.http 409)

def openReadyCatalog : Handler Unit := do
  let ready ← ask .ready
  if ready then return () else throw (.http 503)

def ensureNoActiveCase (sourceId : String) : Handler Unit := do
  let active ← statement (.activeCase sourceId)
  if active then throw (.http 409) else return ()

def syntheticFingerprint (interpreter : Interpreter) (sourceId : String) : String :=
  interpreter.runtime.sha256Hex (utf8 sourceId)

/-- The policy that is stored: with the session of the scanner, if the daemon named one. -/
def policyWithSession (scanPolicy scanner : PyDict) : PyDict :=
  match PyDict.get? scanner "scanner_session_id" with
  | some (.text session) => PyDict.set scanPolicy "scanner_session_id" (.text session)
  | _ => scanPolicy

def policyText (interpreter : Interpreter) (policy : PyDict) : Except Failure String :=
  (dumpsSpaced true interpreter.runtime.recursionLimit (.dict policy)).mapError .python

def createScanCase (interpreter : Interpreter) (caseId : String) (body : StartScanRequest)
    (scanner : PyDict) : Handler Unit :=
  withConnection do
    statement (.insertSource body.sourceId (syntheticFingerprint interpreter body.sourceId))
    let policyJson ← Program.ofExcept
      (policyText interpreter (policyWithSession body.scanPolicy scanner))
    let inserted ← statement (.insertCase caseId body.sourceId policyJson)
    Program.ofExcept (inserted.mapError .python)

/-- The row that was found, and the policy read from it. -/
def readRow (interpreter : Interpreter) : Option ScanCase → Except Failure (ScanCase × PyValue)
  | none => .error (.http 404)
  | some row =>
    match loads interpreter.runtime.recursionLimit row.policyJson with
    | .ok policy => .ok (row, policy)
    | .error error => .error (.python error)

/-- `_get_case`. -/
def getCase (interpreter : Interpreter) (caseId : String) : Handler (ScanCase × PyValue) := do
  let row ← statement (.getCase caseId)
  Program.ofExcept (readRow interpreter row)

/-- `case["policy"].get("scanner_session_id")`, which has to be a string. -/
def scannerSession : PyValue → Except Failure PyStr
  | .dict policy =>
    match PyDict.get policy "scanner_session_id" with
    | .text session => .ok session
    | _ => .error (.http 409)
  | _ => .error (.python .attributeError)

def updateState (caseId : String) (state : CaseState) : Handler Unit := withConnection do
    let updated ← statement (.updateState caseId state)
    Program.ofExcept (updated.mapError .python)

def scanPreview (interpreter : Interpreter) (sourceId : String) (body : SourcePreviewRequest) :
    Handler Response := do
  let inspection ← askHostd (.inspectSafety sourceId body.observedGeneration)
  let safetyId := interpreter.strings.field inspection "safety_inspection_id"
  if safetyId = [] ∨
    ((PyDict.get? inspection "safe_for_scan").getD (.bool false)).truthy = false then
    throw (.http 409)
  else do
    let token ← Program.ofExcept
      (confirmationToken interpreter sourceId body.observedGeneration safetyId)
    let issuedAt ← ask .monotonic
    ask (.confirm sourceId ⟨body.observedGeneration, safetyId, token, issuedAt⟩)
    return .preview sourceId body.observedGeneration inspection token body.scanPolicy

namespace StartScanRequest

def prepareCall (body : StartScanRequest) : HostdCall :=
  .prepareReadOnly body.sourceId body.observedGeneration body.safetyInspectionId
    body.operatorConfirmationToken

def launchCall (body : StartScanRequest) (preparationId : PyValue) (caseId : String) : HostdCall :=
  .launchScanner body.sourceId body.observedGeneration body.safetyInspectionId preparationId caseId
    body.scratchSeparationId body.resourceProfile

end StartScanRequest

/-- What `start_scan` does after the source has been prepared. -/
def launchPrepared (interpreter : Interpreter) (body : StartScanRequest) (readonly : PyDict) :
    Handler Response := do
  let hex ← ask .uuid4
  let caseId := "case_" ++ hex
  match PyDict.get? readonly "readonly_preparation_id" with
  | none => throw .keyError
  | some preparationId =>
    let scanner ← askHostd (body.launchCall preparationId caseId)
    createScanCase interpreter caseId body scanner
    return .started caseId scanner

/-- What `start_scan` does between opening and closing its connection. -/
def launchScan (interpreter : Interpreter) (body : StartScanRequest) : Handler Response := do
  beginImmediate
  ensureNoActiveCase body.sourceId
  let readonly ← askHostd body.prepareCall
  launchPrepared interpreter body readonly

def startScan (interpreter : Interpreter) (body : StartScanRequest) : Handler Response := do
  requireConfirmation body
  openReadyCatalog
  Program.withFinally (ask .close) (launchScan interpreter body)

def stopOrReconnectCase (interpreter : Interpreter) (caseId reason : String) (state : CaseState) :
    Handler Response := do
  openReadyCatalog
  Program.withFinally (ask .close) do
    let (_, policy) ← getCase interpreter caseId
    let session ← Program.ofExcept (scannerSession policy)
    let _ ← askHostd (.stopScanner session reason)
    updateState caseId state
    return .moved caseId state

def reconnectCase (interpreter : Interpreter) (caseId : String) (observedGeneration : ℕ)
    (markRunning : Bool) : Handler Response := do
  openReadyCatalog
  Program.withFinally (ask .close) do
    let (row, _) ← getCase interpreter caseId
    let result ← askHostd (.reconnect caseId row.sourceId observedGeneration)
    if markRunning then do
      updateState caseId .running
      return .reconnected caseId result
    else return .reconnected caseId result

def handle (interpreter : Interpreter) : Request → Handler Response
  | .preview sourceId body => scanPreview interpreter sourceId body
  | .start body => startScan interpreter body
  | .pause caseId reason => stopOrReconnectCase interpreter caseId reason .paused
  | .safeStop caseId reason => stopOrReconnectCase interpreter caseId reason .paused
  | .resume caseId body => reconnectCase interpreter caseId body.observedGeneration true
  | .reconnect caseId body => reconnectCase interpreter caseId body.observedGeneration false

/-- What a request finds: a connection of its own that it still has to use. -/
def World.arrived {runtime : Runtime} (world : World runtime) : World runtime where
  database := .settled world.database.committed
  confirmations := world.confirmations
  exchanges := []

/-- One request from its arrival to its answer. -/
def serve (interpreter : Interpreter) (request : Request) (environment : Environment)
    (world : World interpreter.runtime) :
    World interpreter.runtime × Except Failure Response :=
  (handle interpreter request).run (perform environment) world.arrived

def step (interpreter : Interpreter) (world : World interpreter.runtime)
    (action : Request × Environment) : Option (World interpreter.runtime) :=
  some (serve interpreter action.1 action.2 world).1

/-! ## Runs of the handlers -/

variable {now : CaseStatement → DateTime} {body : StartScanRequest}

section Runs

variable {α : Type} {interpreter : Interpreter} (environment : Environment)

theorem run_askHostd_bind {runtime : Runtime} (call : HostdCall) (rest : PyDict → Handler α)
    (world : World runtime) :
    (askHostd call >>= rest).run (perform environment) world =
      match checkAnswer (environment.hostd call) with
      | .ok items => (rest items).run (perform environment)
          { world with exchanges := world.exchanges ++ [(call, environment.hostd call)] }
      | .error error =>
        ({ world with exchanges := world.exchanges ++ [(call, environment.hostd call)] },
          .error error) := by
  have asked : (askHostd call).run (perform environment) world =
      ({ world with exchanges := world.exchanges ++ [(call, environment.hostd call)] },
        checkAnswer (environment.hostd call)) := Program.run_ofExcept _ _ _
  rw [Program.run_bind, asked]
  cases checkAnswer (environment.hostd call) <;> rfl

theorem run_openReadyCatalog_bind {runtime : Runtime} (rest : Unit → Handler α)
    (world : World runtime) :
    (openReadyCatalog >>= rest).run (perform environment) world =
      if environment.catalogReady then (rest ()).run (perform environment) world
      else (world, .error (.http 503)) := by
  change ((if environment.catalogReady then return () else throw (.http 503) : Handler Unit) >>=
    rest).run (perform environment) world = _
  split <;> rfl

theorem run_closing {runtime : Runtime} (body : Handler α) (world : World runtime) :
    (Program.withFinally (ask .close) body).run (perform environment) world =
      ({ (body.run (perform environment) world).1 with
          database := closed (body.run (perform environment) world).1.database },
        (body.run (perform environment) world).2) := by
  have closes : ∀ world : World runtime, (ask .close).run (perform environment) world =
      ({ world with database := closed world.database }, .ok ()) := fun _ => rfl
  exact Program.run_withFinally closes body world

variable {runtime : Runtime} {catalog : CaseCatalog runtime}
  {confirmations : String → Option Confirmation} {exchanges : List (HostdCall × HostdAnswer)}

/-- A statement outside a transaction is one by itself. -/
theorem run_statement_bind (sent : CaseStatement) (rest : sent.Reply → Handler α) :
    (statement sent >>= rest).run (perform environment)
      ⟨.settled catalog, confirmations, exchanges⟩ =
      (rest (sent.perform environment.now catalog).2).run (perform environment)
        ⟨.settled (sent.perform environment.now catalog).1, confirmations, exchanges⟩ := rfl

/-- A statement inside of a transaction changes the working copy only. -/
theorem run_statement_working_bind {working : CaseCatalog runtime} (sent : CaseStatement)
    (rest : sent.Reply → Handler α) :
    (statement sent >>= rest).run (perform environment)
      ⟨⟨catalog, some working⟩, confirmations, exchanges⟩ =
      (rest (sent.perform environment.now working).2).run (perform environment)
        ⟨⟨catalog, some (sent.perform environment.now working).1⟩, confirmations, exchanges⟩ := rfl

theorem run_getCase_bind (interpreter : Interpreter) (caseId : String)
    (rest : ScanCase × PyValue → Handler α) :
    (getCase interpreter caseId >>= rest).run (perform environment)
      ⟨.settled catalog, confirmations, exchanges⟩ =
      match readRow interpreter (catalog.scanCases.lookup caseId) with
      | .ok found => (rest found).run (perform environment)
          ⟨.settled catalog, confirmations, exchanges⟩
      | .error error => (⟨.settled catalog, confirmations, exchanges⟩, .error error) := by
  have found : (getCase interpreter caseId).run (perform environment)
      ⟨.settled catalog, confirmations, exchanges⟩ =
      (⟨.settled catalog, confirmations, exchanges⟩,
        readRow interpreter (catalog.scanCases.lookup caseId)) := Program.run_ofExcept _ _ _
  rw [Program.run_bind, found]
  cases readRow interpreter (catalog.scanCases.lookup caseId) <;> rfl

/-- `UPDATE scan_cases SET state = ?, updated_at = ... WHERE case_id = ?`, row by row. -/
def moved (now : CaseStatement → DateTime) (caseId : String) (state : CaseState)
    (row : ScanCase) : ScanCase :=
  if row.caseId = caseId then
    { row with state, updatedAt := strftime (now (.updateState caseId state)) }
  else row

theorem run_updateState_bind (catalog : CaseCatalog runtime) (caseId : String) (state : CaseState)
    (rest : Unit → Handler α) :
    ∃ scanCases : Table (scanCasesSchema runtime),
      scanCases.rows = catalog.scanCases.rows.map (moved environment.now caseId state) ∧
      (updateState caseId state >>= rest).run (perform environment)
        ⟨.settled catalog, confirmations, exchanges⟩ =
        (rest ()).run (perform environment)
          ⟨.settled { catalog with scanCases }, confirmations, exchanges⟩ := by
  rcases CaseStatement.perform_updateState environment.now caseId state catalog with
    ⟨scanCases, performed, rows⟩
  refine ⟨scanCases, rows, ?_⟩
  have body : (do
      let updated ← statement (.updateState caseId state)
      Program.ofExcept (updated.mapError Failure.python) : Handler Unit).run (perform environment)
      ⟨.settled catalog, confirmations, exchanges⟩ =
      (⟨.settled { catalog with scanCases }, confirmations, exchanges⟩, .ok ()) := by
    rw [run_statement_bind, performed]
    rfl
  rw [Program.run_bind, updateState, withConnection, Program.run_bind, Program.run_handle, body]
  rfl

/-- What the two insertions of `_create_scan_case` make of the catalog, if nothing of it raises. -/
def storeCase (interpreter : Interpreter) (now : CaseStatement → DateTime) (caseId : String)
    (body : StartScanRequest) (scanner : PyDict) (catalog : CaseCatalog runtime) :
    Except Failure (CaseCatalog runtime) := do
  let policyJson ← policyText interpreter (policyWithSession body.scanPolicy scanner)
  match CaseStatement.perform now (.insertCase caseId body.sourceId policyJson)
    (CaseStatement.perform now (.insertSource body.sourceId
      (syntheticFingerprint interpreter body.sourceId)) catalog).1 with
  | (stored, .ok ()) => .ok stored
  | (_, .error error) => .error (.python error)

theorem storeCase_eq_ok {interpreter : Interpreter} {caseId : String} {scanner : PyDict}
    {stored : CaseCatalog runtime} :
    storeCase interpreter now caseId body scanner catalog = .ok stored ↔
      ∃ policyJson, policyText interpreter (policyWithSession body.scanPolicy scanner) =
        .ok policyJson ∧
      CaseStatement.perform now (.insertCase caseId body.sourceId policyJson)
        (CaseStatement.perform now (.insertSource body.sourceId
          (syntheticFingerprint interpreter body.sourceId)) catalog).1 = (stored, .ok ()) := by
  rw [storeCase]
  cases policyText interpreter (policyWithSession body.scanPolicy scanner) with
  | error error =>
    constructor
    · intro stored
      cases stored
    · rintro ⟨policyJson, encoded, _⟩
      cases encoded
  | ok policyJson =>
    simp only [Except.ok.injEq, exists_eq_left', bind, Except.bind]
    rcases CaseStatement.perform now (.insertCase caseId body.sourceId policyJson)
      (CaseStatement.perform now (.insertSource body.sourceId
        (syntheticFingerprint interpreter body.sourceId)) catalog).1 with ⟨after, inserted⟩
    cases inserted <;> simp

/-- The insertions are committed together, or rolled back. -/
theorem run_createScanCase_bind (interpreter : Interpreter) (caseId : String)
    (body : StartScanRequest) (scanner : PyDict) (rest : Unit → Handler α) :
    (createScanCase interpreter caseId body scanner >>= rest).run (perform environment)
      ⟨⟨catalog, some catalog⟩, confirmations, exchanges⟩ =
      match storeCase interpreter environment.now caseId body scanner catalog with
      | .ok stored => (rest ()).run (perform environment)
          ⟨.settled stored, confirmations, exchanges⟩
      | .error error => (⟨.settled catalog, confirmations, exchanges⟩, .error error) := by
  rw [Program.run_bind, createScanCase, withConnection, Program.run_bind, Program.run_handle,
    run_statement_working_bind, Program.run_ofExcept_bind, storeCase]
  cases policyText interpreter (policyWithSession body.scanPolicy scanner) with
  | error error => rfl
  | ok policyJson =>
    dsimp only
    rw [run_statement_working_bind]
    simp only [bind, Except.bind]
    rcases CaseStatement.perform environment.now (.insertCase caseId body.sourceId policyJson)
      (CaseStatement.perform environment.now (.insertSource body.sourceId
        (syntheticFingerprint interpreter body.sourceId)) catalog).1 with ⟨stored, inserted⟩
    cases inserted <;> rfl

/-- Some case of the source is created, running or paused. -/
def hasActiveCase (catalog : CaseCatalog runtime) (sourceId : String) : Bool :=
  catalog.scanCases.rows.any fun row => decide (row.sourceId = sourceId) && row.state.active

/-- The committed catalog and the answer after the scanner has been asked to launch. -/
def launchOutcome (interpreter : Interpreter) (environment : Environment) (body : StartScanRequest)
    (preparationId : PyValue) (catalog : CaseCatalog runtime) :
    CaseCatalog runtime × Except Failure Response :=
  match checkAnswer (environment.hostd
    (body.launchCall preparationId ("case_" ++ environment.uuidHex))) with
  | .error error => (catalog, .error error)
  | .ok scanner =>
    match storeCase interpreter environment.now ("case_" ++ environment.uuidHex) body scanner
      catalog with
    | .error error => (catalog, .error error)
    | .ok stored => (stored, .ok (.started ("case_" ++ environment.uuidHex) scanner))

/-- An exchange with the daemon in which a scanner is launched. -/
def HostdCall.isLaunch : HostdCall → Bool
  | launchScanner .. => true
  | _ => false

section Prepared

variable (interpreter : Interpreter) (body : StartScanRequest) {readonly : PyDict}

theorem run_launchPrepared_none (found : PyDict.get? readonly "readonly_preparation_id" = none) :
    (launchPrepared interpreter body readonly).run (perform environment)
      ⟨⟨catalog, some catalog⟩, confirmations, exchanges⟩ =
      (⟨⟨catalog, some catalog⟩, confirmations, exchanges⟩, .error .keyError) := by
  rw [launchPrepared, ask, Program.run_query_bind]
  simp only [found]
  rfl

/-- The session that is left behind and what is answered, once the scanner may be launched. -/
theorem run_launchPrepared_some {preparationId : PyValue}
    (found : PyDict.get? readonly "readonly_preparation_id" = some preparationId) :
    ∃ session : Session (CaseCatalog runtime),
      session.committed = (launchOutcome interpreter environment body preparationId catalog).1 ∧
      (launchPrepared interpreter body readonly).run (perform environment)
        ⟨⟨catalog, some catalog⟩, confirmations, exchanges⟩ =
        (⟨session, confirmations, exchanges ++ [(body.launchCall preparationId
            ("case_" ++ environment.uuidHex), environment.hostd
              (body.launchCall preparationId ("case_" ++ environment.uuidHex)))]⟩,
          (launchOutcome interpreter environment body preparationId catalog).2) := by
  have started : (launchPrepared interpreter body readonly).run (perform environment)
      ⟨⟨catalog, some catalog⟩, confirmations, exchanges⟩ =
      (askHostd (body.launchCall preparationId ("case_" ++ environment.uuidHex)) >>=
        fun scanner => createScanCase interpreter ("case_" ++ environment.uuidHex) body scanner >>=
          fun _ => return .started ("case_" ++ environment.uuidHex) scanner).run
        (perform environment) ⟨⟨catalog, some catalog⟩, confirmations, exchanges⟩ := by
    rw [launchPrepared, ask, Program.run_query_bind]
    simp only [found]
    rfl
  rw [started, run_askHostd_bind, launchOutcome]
  cases checkAnswer (environment.hostd
    (body.launchCall preparationId ("case_" ++ environment.uuidHex))) with
  | error error => exact ⟨_, rfl, rfl⟩
  | ok scanner =>
    dsimp only
    rw [run_createScanCase_bind]
    cases storeCase interpreter environment.now ("case_" ++ environment.uuidHex) body scanner
      catalog with
    | error error => exact ⟨_, rfl, rfl⟩
    | ok stored => exact ⟨_, rfl, rfl⟩

end Prepared

/-- No case keeps the source, and the daemon has prepared it under this identifier. -/
def Prepares (environment : Environment) (body : StartScanRequest) (catalog : CaseCatalog runtime)
    (preparationId : PyValue) : Prop :=
  hasActiveCase catalog body.sourceId = false ∧
    ∃ readonly, checkAnswer (environment.hostd body.prepareCall) = .ok readonly ∧
      PyDict.get? readonly "readonly_preparation_id" = some preparationId

theorem run_launchScan_cases (interpreter : Interpreter) (body : StartScanRequest) :
    (∃ error session others, session.committed = catalog ∧
      (∀ exchange ∈ others, exchange.1.isLaunch = false) ∧
      (∀ preparationId, ¬Prepares environment body catalog preparationId) ∧
      (launchScan interpreter body).run (perform environment)
        ⟨.settled catalog, confirmations, []⟩ =
        (⟨session, confirmations, others⟩, .error error)) ∨
    ∃ preparationId session, Prepares environment body catalog preparationId ∧ session.committed =
        (launchOutcome interpreter environment body preparationId catalog).1 ∧
      (launchScan interpreter body).run (perform environment)
        ⟨.settled catalog, confirmations, []⟩ =
        (⟨session, confirmations, [(body.prepareCall, environment.hostd body.prepareCall),
          (body.launchCall preparationId ("case_" ++ environment.uuidHex), environment.hostd
            (body.launchCall preparationId ("case_" ++ environment.uuidHex)))]⟩,
          (launchOutcome interpreter environment body preparationId catalog).2) := by
  have begun : (launchScan interpreter body).run (perform environment)
      ⟨.settled catalog, confirmations, []⟩ =
      ((if hasActiveCase catalog body.sourceId then throw (.http 409) else return () :
          Handler Unit) >>= fun _ => askHostd body.prepareCall >>=
            launchPrepared interpreter body).run (perform environment)
        ⟨⟨catalog, some catalog⟩, confirmations, []⟩ := rfl
  rw [begun]
  unfold Prepares
  cases active : hasActiveCase catalog body.sourceId with
  | true => exact Or.inl ⟨_, _, [], rfl, by simp, by simp, rfl⟩
  | false =>
    simp only [Bool.false_eq_true, if_false]
    rw [Program.pure_eq, Program.done_bind, run_askHostd_bind]
    cases prepared : checkAnswer (environment.hostd body.prepareCall) with
    | error error =>
      exact Or.inl
        ⟨_, _, _, rfl, by simp [HostdCall.isLaunch, StartScanRequest.prepareCall], by simp, rfl⟩
    | ok readonly =>
      cases found : PyDict.get? readonly "readonly_preparation_id" with
      | none =>
        refine Or.inl ⟨.keyError, ⟨catalog, some catalog⟩,
          [(body.prepareCall, environment.hostd body.prepareCall)], rfl,
          by simp [HostdCall.isLaunch, StartScanRequest.prepareCall], by simp [found], ?_⟩
        exact run_launchPrepared_none environment interpreter body found
      | some preparationId =>
        right
        rcases run_launchPrepared_some environment interpreter body found with
          ⟨session, committed, launched⟩
        exact ⟨preparationId, session, ⟨trivial, readonly, rfl, found⟩, committed, launched⟩

theorem storeCase_scanCases {interpreter : Interpreter} {caseId : String} {scanner : PyDict}
    {stored : CaseCatalog runtime}
    (isStored : storeCase interpreter now caseId body scanner catalog = .ok stored) :
    ∃ policyJson, policyText interpreter (policyWithSession body.scanPolicy scanner) =
        .ok policyJson ∧
      stored.scanCases.rows = catalog.scanCases.rows ++
        [CaseStatement.caseRow caseId body.sourceId policyJson
          (strftime (now (.insertCase caseId body.sourceId policyJson)))] := by
  rcases storeCase_eq_ok.mp isStored with ⟨policyJson, encoded, performed⟩
  rcases CaseStatement.perform_insertCase_eq_ok.mp performed with ⟨_, scanCases, inserted, rfl⟩
  rw [CaseStatement.perform_scanCases_of_source] at inserted
  exact ⟨policyJson, encoded, (Table.insert_eq_some.mp inserted).2.2⟩

theorem launchOutcome_scanCases (interpreter : Interpreter) (environment : Environment)
    (body : StartScanRequest) (preparationId : PyValue) (catalog : CaseCatalog runtime) :
    (launchOutcome interpreter environment body preparationId catalog).1.scanCases.rows =
        catalog.scanCases.rows ∨
      ∃ row : ScanCase, row.sourceId = body.sourceId ∧
        (launchOutcome interpreter environment body preparationId catalog).1.scanCases.rows =
          catalog.scanCases.rows ++ [row] := by
  unfold launchOutcome
  cases checkAnswer (environment.hostd
    (body.launchCall preparationId ("case_" ++ environment.uuidHex))) with
  | error error => exact Or.inl rfl
  | ok scanner =>
    dsimp only
    cases isStored : storeCase interpreter environment.now ("case_" ++ environment.uuidHex) body
      scanner catalog with
    | error error => exact Or.inl rfl
    | ok stored =>
      rcases storeCase_scanCases isStored with ⟨policyJson, _, rows⟩
      exact Or.inr ⟨_, rfl, rows⟩

end Runs

/-! ## A preview and a start from their arrival to their answer -/

section Preview

variable (interpreter : Interpreter) (environment : Environment)
  (world : World interpreter.runtime) (sourceId : String) (body : SourcePreviewRequest)

/-- The confirmation that a preview stores. -/
def previewed : Except Failure Confirmation := do
  let inspection ← checkAnswer (environment.hostd (.inspectSafety sourceId body.observedGeneration))
  let safetyId := interpreter.strings.field inspection "safety_inspection_id"
  if safetyId = [] ∨
    ((PyDict.get? inspection "safe_for_scan").getD (.bool false)).truthy = false then
    throw (.http 409)
  else do
    let token ← confirmationToken interpreter sourceId body.observedGeneration safetyId
    return ⟨body.observedGeneration, safetyId, token, environment.monotonic⟩

def inspectExchange : HostdCall × HostdAnswer := (.inspectSafety sourceId body.observedGeneration,
    environment.hostd (.inspectSafety sourceId body.observedGeneration))

theorem serve_preview : (serve interpreter (.preview sourceId body) environment world).1 =
      ⟨.settled world.database.committed, match previewed interpreter environment sourceId body with
        | .ok confirmation => Function.update world.confirmations sourceId (some confirmation)
        | .error _ => world.confirmations,
        [inspectExchange environment sourceId body]⟩ := by
  rw [serve, handle, scanPreview, run_askHostd_bind, previewed]
  cases checkAnswer (environment.hostd (.inspectSafety sourceId body.observedGeneration)) with
  | error error => rfl
  | ok inspection =>
    simp only [bind, Except.bind]
    split
    · rfl
    · cases confirmationToken interpreter sourceId body.observedGeneration
        (interpreter.strings.field inspection "safety_inspection_id") with
      | error error => rfl
      | ok token => rfl

end Preview


section Start

variable (interpreter : Interpreter) (environment : Environment)
  (world : World interpreter.runtime) (body : StartScanRequest)

/-- A start gets as far as the launch of a scanner, for this prepared source. -/
structure Launches (preparationId : PyValue) : Prop where
  confirmed : ∃ confirmation, world.confirmations body.sourceId = some confirmation ∧
    confirmation.confirms body environment.monotonic = true
  ready : environment.catalogReady = true
  prepares : Prepares environment body world.database.committed preparationId

variable {interpreter environment world body} in
theorem Launches.preparationId_eq {first second : PyValue}
    (launches : Launches interpreter environment world body first)
    (alsoLaunches : Launches interpreter environment world body second) : first = second := by
  rcases launches.prepares with ⟨_, readonly, answered, found⟩
  rcases alsoLaunches.prepares with ⟨_, other, otherAnswered, otherFound⟩
  obtain rfl : readonly = other := Except.ok.inj (answered.symm.trans otherAnswered)
  exact Option.some.inj (found.symm.trans otherFound)

namespace StartScanRequest

def prepareExchange : HostdCall × HostdAnswer :=
  (body.prepareCall, environment.hostd body.prepareCall)

def launchExchange (preparationId : PyValue) : HostdCall × HostdAnswer :=
  (body.launchCall preparationId ("case_" ++ environment.uuidHex),
    environment.hostd (body.launchCall preparationId ("case_" ++ environment.uuidHex)))

end StartScanRequest

/-- Either no scanner is launched and nothing is stored, or the launch decides. -/
theorem serve_start_cases : (∃ error others, (∀ exchange ∈ others, exchange.1.isLaunch = false) ∧
      (∀ preparationId, ¬Launches interpreter environment world body preparationId) ∧
      serve interpreter (.start body) environment world =
        (⟨.settled world.database.committed, world.confirmations, others⟩, .error error)) ∨
    ∃ preparationId, Launches interpreter environment world body preparationId ∧
      serve interpreter (.start body) environment world =
        (⟨.settled (launchOutcome interpreter environment body preparationId
            world.database.committed).1, world.confirmations,
          [body.prepareExchange environment, body.launchExchange environment preparationId]⟩,
          (launchOutcome interpreter environment body preparationId
            world.database.committed).2) := by
  have checked : serve interpreter (.start body) environment world =
      ((match world.confirmations body.sourceId with
        | none => throw (.http 409)
        | some confirmation =>
          if confirmation.confirms body environment.monotonic then return ()
          else throw (.http 409) : Handler Unit) >>= fun _ => openReadyCatalog >>= fun _ =>
        Program.withFinally (ask .close) (launchScan interpreter body)).run
        (perform environment) world.arrived := by
    rw [serve, handle, startScan, requireConfirmation, ask]
    cases found : world.confirmations body.sourceId with
    | none =>
      rw [Program.run_bind, Program.run_query_bind]
      simp only [perform, World.arrived, found]
      rfl
    | some confirmation =>
      rw [Program.run_bind, Program.run_query_bind]
      simp only [perform, World.arrived, found]
      rw [← Program.run_bind]
      rfl
  rw [checked]
  cases confirmed : world.confirmations body.sourceId with
  | none =>
    refine Or.inl ⟨_, [], by simp, fun preparationId launches => ?_, rfl⟩
    rcases launches.confirmed with ⟨confirmation, found, _⟩
    rw [confirmed] at found
    cases found
  | some confirmation =>
    cases confirms : confirmation.confirms body environment.monotonic with
    | false =>
      refine Or.inl ⟨.http 409, [], by simp, fun preparationId launches => ?_, ?_⟩
      · rcases launches.confirmed with ⟨other, found, otherConfirms⟩
        obtain rfl : confirmation = other := Option.some.inj (confirmed.symm.trans found)
        rw [confirms] at otherConfirms
        cases otherConfirms
      · simp only [confirms]
        rfl
    | true =>
      simp only [confirms, if_true]
      rw [Program.pure_eq, Program.done_bind, run_openReadyCatalog_bind]
      cases ready : environment.catalogReady with
      | false =>
        refine Or.inl ⟨_, [], by simp, fun preparationId launches => ?_, rfl⟩
        have isReady := launches.ready
        rw [ready] at isReady
        cases isReady
      | true =>
        simp only [if_true]
        rw [run_closing]
        have launched := @run_launchScan_cases environment interpreter.runtime
          world.database.committed world.confirmations interpreter body
        rcases launched with
          ⟨error, session, others, committed, noLaunch, unprepared, ran⟩ |
          ⟨preparationId, session, prepares, committed, ran⟩
        · refine Or.inl ⟨error, others, noLaunch,
            fun preparationId launches => unprepared preparationId launches.prepares, ?_⟩
          simp only [World.arrived, ran, closed, committed]
        · refine Or.inr ⟨preparationId, ⟨⟨confirmation, confirmed, confirms⟩, ready, prepares⟩, ?_⟩
          simp only [World.arrived, ran, closed, committed]
          rfl

end Start

end Reperio.Api
