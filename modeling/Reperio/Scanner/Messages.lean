import Reperio.Python.JsonLine
import Reperio.Python.Operators
import Reperio.Python.Utf8

/-!
# Scanner messages

`scanner/messages.py`: the protocol between the scanner and the control plane, one
JSON object a line. Both sides validate the object. The levels of recursion that
the interpreter has left at a call are a parameter, the same for both sides.
-/

namespace Reperio.Scanner

open Python

def protocolVersion : ℤ := 1
def maxLineBytes : ℕ := 16384
def maxFieldChars : ℕ := 4096
def maxBatchFindings : ℕ := 256

/-- The types of messages. -/
inductive MessageType where
  | hello
  | capabilities
  | stageStart
  | findingBatch
  | progress
  | checkpoint
  | warning
  | error
  | pauseAck
  | complete
  deriving DecidableEq, Repr

namespace MessageType

def name : MessageType → String
  | hello => "hello"
  | capabilities => "capabilities"
  | stageStart => "stage_start"
  | findingBatch => "finding_batch"
  | progress => "progress"
  | checkpoint => "checkpoint"
  | warning => "warning"
  | error => "error"
  | pauseAck => "pause_ack"
  | complete => "complete"

def all : List MessageType :=
  [hello, capabilities, stageStart, findingBatch, progress, checkpoint, warning, error, pauseAck,
    complete]

/-- `REQUIRED_FIELDS`. -/
def requiredFields : MessageType → List String
  | hello => ["worker_id", "scanner_version"]
  | capabilities => ["capabilities"]
  | stageStart => ["stage", "idempotency_key"]
  | findingBatch => ["stage", "batch_id", "findings"]
  | progress => ["stage", "completed", "total"]
  | checkpoint => ["stage", "checkpoint_id"]
  | warning => ["stage", "code", "message"]
  | error => ["stage", "code", "message", "retryable"]
  | pauseAck => ["stage", "reason"]
  | complete => ["stage", "status"]

/-- The type that a value names. -/
def ofValue? : PyValue → Option MessageType
  | .text points => all.find? fun messageType => points = .ofString messageType.name
  | _ => none

theorem ofValue?_eq_some_iff {value : PyValue} {messageType : MessageType} :
    ofValue? value = some messageType ↔ value = .str messageType.name := by
  constructor
  · intro found
    unfold ofValue? at found
    split at found
    · have isName := List.find?_some found
      exact congrArg PyValue.text (of_decide_eq_true isName)
    · cases found
  · rintro rfl
    cases messageType with
    | _ => decide

end MessageType

/-- A message of the scanner. -/
structure ScannerMessage where
  messageType : MessageType
  sequence : ℤ
  payload : PyDict

/-- How decoding or encoding a message fails. -/
inductive MessageError where
  | scannerMessageError (message : String)
  -- what the interpreter raises and nothing catches
  | raised (error : PyError)

/-- The levels of recursion that are left, for the calls of `_validate_value` and for nested JSON.
-/
structure Room where
  calls : ℕ
  nesting : ℕ

/-! ## Validation -/

def validateText (points : PyStr) : Except MessageError Unit :=
  if maxFieldChars < points.length then
    .error (.scannerMessageError "scanner message field exceeds maximum size")
  else if points.any fun point => decide (point.val ∈ [0, 10, 13]) then
    .error (.scannerMessageError "scanner message field contains unsafe control characters")
  else .ok ()

mutual

def validateValue : ℕ → PyValue → Except MessageError Unit
  | 0, _ => .error (.raised .recursionError)
  | _ + 1, .text points => validateText points
  | limit + 1, .dict items => validatePairs limit items
  | limit + 1, .list items => validateItems limit items
  | _ + 1, .float value =>
    if value.allowed false then .ok ()
    else .error (.scannerMessageError "scanner message contains a non-finite number")
  | _ + 1, .none => .ok ()
  | _ + 1, .bool _ => .ok ()
  | _ + 1, .int _ => .ok ()
  | _ + 1, .other => .error (.scannerMessageError "scanner message field has unsupported type")

def validateItems : ℕ → List PyValue → Except MessageError Unit
  | _, [] => .ok ()
  | limit, item :: items => do
      validateValue limit item
      validateItems limit items

def validatePairs : ℕ → List (PyValue × PyValue) → Except MessageError Unit
  | _, [] => .ok ()
  | limit, (.text points, value) :: items => do
      validateValue limit (.text points)
      validateValue limit value
      validatePairs limit items
  | _, _ :: _ =>
    .error (.scannerMessageError "scanner message object keys must be strings")

end

/-- `sequence`, an integer that is no boolean and not negative. -/
def sequenceOf : PyValue → Option ℤ
  | .int sequence => if 0 ≤ sequence then some sequence else none
  | _ => none

/-- A finding batch has no more than so many findings. -/
def validateFindings (payload : PyDict) : Except MessageError Unit :=
  let invalid := MessageError.scannerMessageError "finding batch size is invalid"
  match payload.get "findings" with
  | .list findings => if findings.length ≤ maxBatchFindings then .ok () else .error invalid
  | _ => .error invalid

/-- `_validate_decoded_object`, with the fields that it has validated. -/
def validateDecodedObject (room : Room) (message : PyDict) :
    Except MessageError ScannerMessage := do
  if !(message.get "protocol_version").eq (.int protocolVersion) then
    throw (.scannerMessageError "unsupported scanner protocol version")
  -- a value that cannot be looked up in a set is not tested
  else if !(message.get "type").hashable then throw (.raised .typeError)
  else
    match MessageType.ofValue? (message.get "type") with
    | none => throw (.scannerMessageError "unknown scanner message type")
    | some messageType =>
      match sequenceOf (message.get "sequence") with
      | none =>
        throw (.scannerMessageError "scanner message sequence must be a non-negative integer")
      | some sequence =>
        match message.get "payload" with
        | .dict payload =>
          if messageType.requiredFields.any fun field => (PyDict.get? payload field).isNone then
            throw (.scannerMessageError "scanner message is missing required fields")
          else
            validateValue room.calls (.dict payload)
            if messageType = .findingBatch then validateFindings payload
            return { messageType, sequence, payload }
        | _ => throw (.scannerMessageError "scanner message payload must be an object")

/-! ## Encoding -/

/-- `except (RecursionError, ValueError)`. -/
def MessageError.encoding : MessageError → MessageError
  | .raised .recursionError => .scannerMessageError "scanner message contains invalid JSON"
  | .raised .valueError => .scannerMessageError "scanner message contains invalid JSON"
  | error => error

def messageObject (messageType sequence : PyValue) (payload : PyDict) : PyDict :=
  [(.str "protocol_version", .int protocolVersion), (.str "type", messageType),
    (.str "sequence", sequence), (.str "payload", .dict payload)]

def encodeObject (room : Room) (message : PyDict) : Except MessageError (List UInt8) := do
  let _ ← validateDecodedObject room message
  let text ← (dumps false room.nesting (.dict message)).mapError .raised
  return utf8 text ++ [10]

def encodeMessage (room : Room) (messageType sequence : PyValue) (payload : PyDict) :
    Except MessageError (List UInt8) := do
  let encoded ← (encodeObject room (messageObject messageType sequence payload)).mapError
    MessageError.encoding
  if maxLineBytes < encoded.length then
    throw (.scannerMessageError "message exceeds maximum line size")
  else return encoded

/-! ## Decoding -/

/-- What `json.loads` raises. -/
def decodingError : PyError → MessageError
  | .recursionError => .scannerMessageError "scanner message is too deeply nested"
  | _ => .scannerMessageError "scanner message is not valid JSON"

/-- `except RecursionError` around the validation. -/
def MessageError.validation : MessageError → MessageError
  | .raised .recursionError => .scannerMessageError "scanner message is too deeply nested"
  | error => error

def decodeLine (room : Room) (line : List UInt8) : Except MessageError ScannerMessage := do
  if line.getLast? ≠ some 10 then throw (.scannerMessageError "truncated scanner message")
  else if maxLineBytes < line.length then
    throw (.scannerMessageError "scanner message exceeds maximum line size")
  else
    match utf8Decode line with
    | none => throw (.scannerMessageError "scanner message is not valid UTF-8")
    | some text =>
      match ← (loadsStrict room.nesting text).mapError decodingError with
      | .dict decoded => (validateDecodedObject room decoded).mapError MessageError.validation
      | _ => throw (.scannerMessageError "scanner message must be a JSON object")

end Reperio.Scanner
