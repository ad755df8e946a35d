import Reperio.Jobs.Operations

/-!
# The event outbox

`event_outbox.py`: its SQL statements and its functions as programs of them, on
the same catalog as the job state machine. As there, every statement commits on
its own: `with connection` in `transition_job_and_append_event` opens no
transaction.

An event is returned as its row. The functions decode `payload_json` for their
callers, which gives back what `json.dumps` was given.
-/

namespace Reperio

open Python Relational Concurrency

def maxPollLimit : ℤ := 500

/-! ## Statements -/

/-- The statements that the outbox issues. -/
inductive OutboxStatement where
  | job (statement : JobStatement)
  | selectNextSequence (caseId : String)
  | insertEvent (eventId caseId : String) (sequence : ℕ) (jobId : Option String)
      (eventType payloadJson now : String)
  | selectEvent (eventId : String)
  | selectAfter (caseId : String) (afterSequence : ℤ) (limit : ℕ)
  | markPublished (publishedAt : String) (eventIds : List String)
  | deletePublished (beforeCreatedAt : String) (limit : ℕ)

namespace OutboxStatement

@[reducible]
def Reply : OutboxStatement → Type
  | job statement => statement.Reply
  | selectNextSequence .. => ℕ
  | insertEvent .. => Except PyError ℕ
  | selectEvent .. => Option Event
  | selectAfter .. => List Event
  | markPublished .. => Except PyError ℕ
  | deletePublished .. => ℕ

variable {runtime : Runtime}

/-- `COALESCE(MAX(sequence), 0) + 1` over the events of a case. -/
def nextSequence (catalog : Catalog runtime) (caseId : String) : ℕ :=
  ((catalog.events.rows.filter fun event => decide (event.caseId = some caseId)).map
    Event.sequence).foldr max 0 + 1

/-- `INSERT` with the foreign keys of `case_id` and `job_id`. -/
def insertRow (catalog : Catalog runtime) (row : Event) : Catalog runtime × Except PyError ℕ :=
  if (row.caseId.all fun case => decide (case ∈ catalog.scanCases)) &&
      row.jobId.all fun job => (catalog.jobs.lookup job).isSome then
    match catalog.events.insert row with
    | some events => ({ catalog with events }, .ok 1)
    | none => (catalog, .error .integrityError)
  else (catalog, .error .integrityError)

/-- `COALESCE(published_at, ?)` in the selected rows. -/
def setPublished (catalog : Catalog runtime) (publishedAt : String) (eventIds : List String) :
    Catalog runtime × Except PyError ℕ :=
  match catalog.events.update (fun event => decide (event.eventId ∈ eventIds))
      fun event => { event with publishedAt := event.publishedAt.or (some publishedAt) } with
  | some (events, count) => ({ catalog with events }, .ok count)
  | none => (catalog, .error .integrityError)

/-- The subquery of `compact_published_events`. -/
def oldPublished (catalog : Catalog runtime) (beforeCreatedAt : String) (limit : ℕ) : List String :=
  (orderLimit (fun event : Event => toLex (event.createdAt, event.eventId)) limit
    (catalog.events.rows.filter fun event =>
      event.publishedAt.isSome && decide (event.createdAt < beforeCreatedAt))).map Event.eventId

def perform : (statement : OutboxStatement) → Catalog runtime → Catalog runtime × statement.Reply
  | job statement, catalog => statement.perform catalog
  | selectNextSequence caseId, catalog => (catalog, nextSequence catalog caseId)
  | insertEvent eventId caseId sequence jobId eventType payloadJson now, catalog =>
    insertRow catalog
      { eventId, caseId := some caseId, sequence, jobId, eventType, payloadJson,
        publishedAt := none, createdAt := now }
  | selectEvent eventId, catalog => (catalog, catalog.events.lookup eventId)
  | selectAfter caseId afterSequence limit, catalog =>
    (catalog, orderLimit Event.sequence limit (catalog.events.rows.filter fun event =>
      decide (event.caseId = some caseId) && decide (afterSequence < event.sequence)))
  | markPublished publishedAt eventIds, catalog => setPublished catalog publishedAt eventIds
  | deletePublished beforeCreatedAt limit, catalog =>
    let ids := oldPublished catalog beforeCreatedAt limit
    ({ catalog with events := catalog.events.delete fun event => decide (event.eventId ∈ ids) },
      catalog.events.rows.countP fun event => decide (event.eventId ∈ ids))

end OutboxStatement

/-! ## Functions -/

abbrev OutboxProgram := Program OutboxStatement OutboxStatement.Reply PyError

/-- A function of `job_state.py` on the connection of the outbox. -/
def ofJobProgram {α : Type} : JobProgram α → OutboxProgram α
  | .done result => .done result
  | .raise error => .raise error
  | .execute statement next => .execute (.job statement) fun reply => ofJobProgram (next reply)

namespace Events

def issue (statement : OutboxStatement) : OutboxProgram statement.Reply := Program.query statement

/-- `_canonical_json` of this module: a `TypeError` passes as it is. -/
def canonicalJson (runtime : Runtime) (payload : PyDict) : Except PyError String :=
  match dumps false runtime.recursionLimit (.dict payload) with
  | .ok text => .ok text
  | .error .typeError => .error .typeError
  | .error _ => .error (.eventOutboxError "event payload is not canonical JSON")

def isPublicId (value : String) : Bool := !value.isEmpty && decide (value.length ≤ 128) &&
    !value.toList.any fun char => decide (char ∈ ['/', '\\', Char.ofNat 0, '\n', '\r'])

def validatePublicId (label value : String) : Except PyError Unit := if isPublicId value then .ok ()
  else .error (.eventOutboxError (label ++ " must be a bounded non-path identifier"))

def validateJobId : Option String → Except PyError Unit
  | none => .ok ()
  | some jobId => validatePublicId "job_id" jobId

def isEventType (value : String) : Bool := !value.isEmpty && decide (value.length ≤ 128) &&
    !value.toList.any fun char => decide (char ∈ [Char.ofNat 0, '\n', '\r'])

def validateEventType (value : String) : Except PyError Unit := if isEventType value then .ok ()
  else .error (.eventOutboxError "event_type must be bounded single-line text")

def getEvent (eventId : String) : OutboxProgram Event := do
  Program.ofExcept (validatePublicId "event_id" eventId)
  match ← issue (.selectEvent eventId) with
  | none => throw (.eventOutboxError ("unknown event " ++ eventId))
  | some event => return event

/-- The arguments of `append_event`. -/
structure NewEvent where
  eventId : String
  caseId : String
  eventType : String
  payload : PyDict
  now : String
  jobId : Option String := none

/-- An event for concrete runs. -/
def NewEvent.sample : NewEvent where
  eventId := "event-1"
  caseId := "case-1"
  eventType := "job.state"
  payload := []
  now := "2026-08-11T14:40:00Z"

variable (runtime : Runtime)

def appendEvent (new : NewEvent) : OutboxProgram Event := do
  Program.ofExcept (validatePublicId "event_id" new.eventId)
  Program.ofExcept (validatePublicId "case_id" new.caseId)
  Program.ofExcept (validateJobId new.jobId)
  Program.ofExcept (validateEventType new.eventType)
  let sequence ← issue (.selectNextSequence new.caseId)
  let payloadJson ← Program.ofExcept (canonicalJson runtime new.payload)
  Program.ofExcept (Jobs.bindInteger sequence)
  let _ ← Program.ofExcept (← issue (.insertEvent new.eventId new.caseId sequence new.jobId
    new.eventType payloadJson new.now))
  getEvent new.eventId

/-- The arguments of `transition_job_and_append_event`. -/
structure Transition where
  jobId : String
  toState : String
  eventId : String
  eventType : String
  now : String
  payload : Option PyDict := none
  error : Option PyDict := none

/-- The payload with its defaults. -/
def Transition.eventPayload (arguments : Transition) : PyDict :=
  ((arguments.payload.getD []).setdefault "job_id" (.str arguments.jobId)).setdefault "state"
    (.str arguments.toState)

def transitionJobAndAppendEvent (arguments : Transition) : OutboxProgram Event := do
  let job ← ofJobProgram (Jobs.getJob arguments.jobId)
  -- a `NULL` and an empty text are refused alike
  let caseId := job.caseId.getD ""
  if caseId.isEmpty then
    throw (.eventOutboxError "job must belong to a scan case before emitting case events")
  else do
    ofJobProgram (Jobs.transitionJob runtime arguments.jobId arguments.toState arguments.now
      arguments.error)
    appendEvent runtime
      { eventId := arguments.eventId, caseId, eventType := arguments.eventType,
        payload := arguments.eventPayload, now := arguments.now, jobId := some arguments.jobId }

def validateAfterSequence : PyValue → Except PyError ℤ
  | .int value =>
    if 0 ≤ value then .ok value
    else .error (.eventOutboxError "after_sequence must be a non-negative integer")
  | _ => .error (.eventOutboxError "after_sequence must be a non-negative integer")

def validateLimit : PyValue → Except PyError ℤ
  | .int value =>
    if 0 < value then .ok value
    else .error (.eventOutboxError "limit must be a positive integer")
  | _ => .error (.eventOutboxError "limit must be a positive integer")

def listEvents (caseId : String) (afterSequence limit : PyValue) : OutboxProgram (List Event) := do
  Program.ofExcept (validatePublicId "case_id" caseId)
  let after ← Program.ofExcept (validateAfterSequence afterSequence)
  let bound ← Program.ofExcept (validateLimit limit)
  Program.ofExcept (Jobs.bindInteger after)
  issue (.selectAfter caseId after (min (max bound 1) maxPollLimit).toNat)

/-- SQLite refuses a statement with too many variables before it runs. -/
def markPublished (eventIds : List String) (publishedAt : String) : OutboxProgram ℕ := do
  if eventIds.isEmpty then return 0
  else do
    Program.ofExcept (eventIds.forM (validatePublicId "event_id"))
    if runtime.maxVariableNumber < eventIds.length + 1 then throw .operationalError
    else Program.ofExcept (← issue (.markPublished publishedAt eventIds))

def compactPublishedEvents (beforeCreatedAt : String) (limit : PyValue) : OutboxProgram ℕ := do
  let bound ← Program.ofExcept (validateLimit limit)
  issue (.deletePublished beforeCreatedAt (min (max bound 1) 10000).toNat)

end Events

/-! ## The service -/

open Events in
/-- The calls of the outbox. -/
inductive OutboxCall where
  | appendEvent (new : NewEvent)
  | transitionJobAndAppendEvent (arguments : Transition)
  | listEvents (caseId : String) (afterSequence limit : PyValue)
  | markPublished (eventIds : List String) (publishedAt : String)
  | compactPublishedEvents (beforeCreatedAt : String) (limit : PyValue)

namespace OutboxCall

@[reducible]
def Result : OutboxCall → Type
  | appendEvent .. => Event
  | transitionJobAndAppendEvent .. => Event
  | listEvents .. => List Event
  | markPublished .. => ℕ
  | compactPublishedEvents .. => ℕ

def program (runtime : Runtime) : (call : OutboxCall) → OutboxProgram call.Result
  | appendEvent new => Events.appendEvent runtime new
  | transitionJobAndAppendEvent arguments => Events.transitionJobAndAppendEvent runtime arguments
  | listEvents caseId afterSequence limit => Events.listEvents caseId afterSequence limit
  | markPublished eventIds publishedAt => Events.markPublished runtime eventIds publishedAt
  | compactPublishedEvents beforeCreatedAt limit =>
    Events.compactPublishedEvents beforeCreatedAt limit

end OutboxCall

/-- The functions of `event_outbox.py` on a shared catalog. -/
@[reducible]
def outboxService (runtime : Runtime) : Service where
  Call := OutboxCall
  Query := OutboxStatement
  Error := PyError
  State := Catalog runtime
  Reply := OutboxStatement.Reply
  Result := OutboxCall.Result
  program := OutboxCall.program runtime
  perform := OutboxStatement.perform

end Reperio
