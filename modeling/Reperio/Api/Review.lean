import Reperio.Api.ScanCases
import Reperio.Catalog.Findings

/-!
# Reviewing findings

`_apply_review_action` and `_undo_review_action` of `app.py` as programs over
the statements they issue. Their connection is in autocommit mode, in which
`with connection:` opens no transaction and finds none to commit or to roll
back: every statement is committed by itself.
-/

namespace Reperio.Review

open Concurrency Python Catalog
open Api (Failure)

/-! ## Requests -/

/-- What a review asks for: findings by id or by a saved query. -/
structure ReviewActionRequest where
  findingIds : List String
  savedQuery : Option FindingQueryParams
  actor : String
  note : Option String

/-- A request with the identifier that `uuid.uuid4().hex[:24]` would give to its group. -/
inductive Request where
  | dismiss (body : ReviewActionRequest) (hex : String)
  | restore (body : ReviewActionRequest) (hex : String)
  | undo (reviewActionId actor : String)

/-- What a review request is answered. -/
inductive Response where
  | applied (reviewActionId : String) (matchedCount : ℕ) (changedIds : List String)
  | alreadyUndone (reviewActionId : String)
  | undone (reviewActionId : String) (restoredIds : List String)
  deriving DecidableEq

/-- The state of the application that the handlers look at. -/
structure App where
  reviewActionsEnabled : Bool
  catalogReady : Bool
  recursionLimit : ℕ

abbrev Handler (α : Type) := Program ReviewStatement ReviewStatement.Reply Failure α

/-! ## Handlers -/

def execute (statement : ReviewStatement) : Handler statement.Result := do
  let reply ← Program.query statement
  Program.ofExcept (reply.mapError .python)

def openReadyCatalog (app : App) : Handler Unit :=
  if app.catalogReady then return () else throw (.http 503)

/-- `with connection:`, where no transaction is open. -/
def withConnection {α : Type} (body : Handler α) : Handler α := body

/-- `list(dict.fromkeys(items))`. -/
def fromKeys (items : List String) : List String := items.reverse.dedup.reverse

def reviewTargetIds (body : ReviewActionRequest) : Handler (List String) :=
  match fromKeys body.findingIds, body.savedQuery with
  | _ :: _, some _ => throw (.http 400)
  | first :: rest, none => return first :: rest
  | [], none => throw (.http 400)
  | [], some params => execute (.targetIds params)

def findingsForUpdate : List String → Handler (List (String × FindingStatus))
  | [] => return []
  | findingIds => do
      let rows ← execute (.statuses findingIds)
      if (rows.map Prod.fst).toFinset = findingIds.toFinset then return rows else throw (.http 404)

def optionalText : Option String → PyValue
  | none => .none
  | some text => .str text

def reviewNote (groupId : String) (operatorNote : Option String)
    (previousStatus targetStatus : FindingStatus) : PyDict :=
  [(.str "group_id", .str groupId), (.str "operator_note", optionalText operatorNote),
    (.str "previous_status", .str previousStatus.text),
    (.str "target_status", .str targetStatus.text), (.str "undone", .bool false)]

/-- `json.dumps(note, sort_keys=True)`. -/
def noteText (app : App) (note : PyDict) : Except Failure String :=
  (dumpsSpaced true app.recursionLimit (.dict note)).mapError .python

def actionId (groupId : String) (index : ℕ) : String :=
  if index = 0 then groupId else groupId ++ "_" ++ Nat.repr index

def setStatus (findingId : String) (previousStatus targetStatus : FindingStatus) : Handler Bool :=
  if previousStatus = targetStatus then return false
  else do
    execute (.updateStatus targetStatus.text findingId)
    return true

/-- The loop over the findings, from an index on; it returns the identifiers it changed. -/
def applyFindings (app : App) (body : ReviewActionRequest) (groupId : String)
    (action : ReviewActionKind) (targetStatus : FindingStatus) :
    ℕ → List (String × FindingStatus) → Handler (List String)
  | _, [] => return []
  | index, (findingId, previousStatus) :: findings => do
      let changed ← setStatus findingId previousStatus targetStatus
      let note ← Program.ofExcept
        (noteText app (reviewNote groupId body.note previousStatus targetStatus))
      execute (.insertAction (actionId groupId index) findingId action body.actor note)
      let others ← applyFindings app body groupId action targetStatus (index + 1) findings
      return if changed then findingId :: others else others

def applyReviewAction (app : App) (body : ReviewActionRequest) (hex : String)
    (action : ReviewActionKind) (targetStatus : FindingStatus) : Handler Response :=
  if app.reviewActionsEnabled then do
    openReadyCatalog app
    let findingIds ← reviewTargetIds body
    let groupId := "review_" ++ hex
    let changed ← withConnection do
      let findings ← findingsForUpdate findingIds
      applyFindings app body groupId action targetStatus 0 findings
    return .applied groupId findingIds.length changed
  else throw (.http 403)

/-- A row of a group as it is read: `json.loads(note or "{}")`. -/
def readNote (app : App) (row : ReviewAction) : Except Failure (String × String × PyValue) :=
  let text := match row.note with
    | none => "\x7b\x7d"
    | some text => if text = "" then "\x7b\x7d" else text
  match loads app.recursionLimit text with
  | .ok note => .ok (row.reviewActionId, row.findingId, note)
  | .error error => .error (.python error)

/-- `note.get("undone") is True`. -/
def isUndone (items : PyDict) : Bool := match PyDict.get items "undone" with
  | .bool true => true
  | _ => false

/-- `all(note.get("undone") is True for ...)`: the first note that is not undone decides. -/
def allUndone : List (String × String × PyValue) → Except Failure Bool
  | [] => .ok true
  | (_, _, .dict items) :: notes => if isUndone items then allUndone notes else .ok false
  | _ :: _ => .error (.python .attributeError)

/-- A text with a lone surrogate cannot be bound to a statement. -/
def restoreStatus (findingId : String) : PyValue → Handler Bool
  | .text points =>
    match points.toString? with
    | none => throw (.python .valueError)
    | some status => do
        execute (.updateStatus status findingId)
        return true
  | _ => return false

def undoneNote (actor : String) (items : PyDict) : PyDict :=
  PyDict.set (PyDict.set items "undone" (.bool true)) "undo_actor" (.str actor)

/-- The loop over the rows of the group; it returns the identifiers it restored. -/
def undoRows (app : App) (actor : String) : List (String × String × PyValue) → Handler (List String)
  | [] => return []
  | (rowId, findingId, .dict items) :: notes => do
      let restored ← restoreStatus findingId (PyDict.get items "previous_status")
      let note ← Program.ofExcept (noteText app (undoneNote actor items))
      execute (.updateNote note rowId)
      let others ← undoRows app actor notes
      return if restored then findingId :: others else others
  | _ :: _ => throw (.python .attributeError)

def undoReviewAction (app : App) (reviewActionId actor : String) : Handler Response :=
  if app.reviewActionsEnabled then do
    openReadyCatalog app
    let rows ← execute (.selectGroup reviewActionId)
    if rows = [] then throw (.http 404)
    else do
      let notes ← Program.ofExcept (rows.mapM (readNote app))
      let already ← Program.ofExcept (allUndone notes)
      if already then return .alreadyUndone reviewActionId
      else do
        let restored ← withConnection (undoRows app actor notes)
        return .undone reviewActionId restored
  else throw (.http 403)

def handle (app : App) : Request → Handler Response
  | .dismiss body hex => applyReviewAction app body hex .dismiss .dismissed
  | .restore body hex => applyReviewAction app body hex .restore .new
  | .undo reviewActionId actor => undoReviewAction app reviewActionId actor

/-- One request that nobody interferes with. -/
def runAlone (app : App) (sql : SqlFunctions) (now : ReviewStatement → DateTime)
    (request : Request) (catalog : ReviewCatalog) : ReviewCatalog × Except Failure Response :=
  (handle app request).run (ReviewStatement.perform sql now) catalog

/-! ## A concrete SQLite -/

/-- A value of a JSON text as SQLite compares it. -/
def sqlValue : PyValue → Option SqlLiteral
  | .bool value => some (.integer (if value then 1 else 0))
  | .int value => some (.integer value)
  | .text points => points.toString?.map .text
  | _ => none

def sameLetter (first second : Char) : Bool := decide (first.toLower = second.toLower)

/-- `text LIKE pattern ESCAPE '\'`. -/
def matchesPattern : List Char → List Char → Bool
  | [], text => text.isEmpty
  | '%' :: pattern, text => text.tails.any (matchesPattern pattern)
  | '_' :: pattern, text => !text.isEmpty && matchesPattern pattern text.tail
  | ['\\'], _ => false
  | '\\' :: char :: pattern, text =>
    text.head?.any (sameLetter char) && matchesPattern pattern text.tail
  | char :: pattern, text => text.head?.any (sameLetter char) && matchesPattern pattern text.tail

/-- SQLite with the limits that it is built with, where JSON texts are those of `json.loads`. -/
def sampleFunctions : SqlFunctions where
  jsonExtractEq json path literal := match loads 1000 json with
    | .error _ => none
    | .ok (.dict items) =>
      let name := if path = "$.group_id" then "group_id" else "system_noise"
      some (decide (sqlValue (PyDict.get items name) = some literal))
    | .ok _ => some false
  like text pattern :=
    if pattern.utf8ByteSize ≤ 50000 then some (matchesPattern pattern.toList text.toList) else none
  maxVariableNumber := 32766

def sampleApp : App where
  reviewActionsEnabled := true
  catalogReady := true
  recursionLimit := 1000

def sampleFinding : Finding where
  findingId := "find_1"
  caseId := "case_1"
  entryId := none
  contentId := none
  findingType := .document
  severity := .info
  title := "Letter"
  summary := ""
  status := .new
  confidence := .read false 1 0
  createdAt := "2026-07-01T12:00:00Z"

def firstMoment (_ : ReviewStatement) : DateTime := .min

end Reperio.Review
