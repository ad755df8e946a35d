import Reperio.Python.KeyOrder
import Reperio.Python.Repr

/-!
# The host protocol

`hostd/protocol.py`: the checks of the messages between the control plane and hostd. A
message is a decoded JSON object. Text that looks like a path is looked for among the
values of a message, not among its keys.
-/

namespace Reperio.Hostd.Protocol

open Python

/-! ## Failures -/

/-- How the validation of a request fails. -/
inductive ProtocolFailure where
  | protocolError (message : PyStr)
  | python (error : PyError)
  deriving DecidableEq

/-- What the interpreter allows. A call whose nesting is not below the limit raises a
`RecursionError`. -/
structure Interpreter where
  display : Display
  callDepth : ℕ
  reprDepth : ℕ

abbrev Checked := Except ProtocolFailure

/-! ## The contract -/

def authKind : PyStr := .ofString "unix_peer_credentials"

/-- `METHODS`. -/
inductive Method where
  | listDevices
  | inspectSafety
  | prepareReadOnly
  | launchScanner
  | scannerStatus
  | stopScanner
  | reconnect
  deriving DecidableEq, Repr

def Method.text : Method → String
  | listDevices => "list_devices"
  | inspectSafety => "inspect_safety"
  | prepareReadOnly => "prepare_read_only"
  | launchScanner => "launch_scanner"
  | scannerStatus => "scanner_status"
  | stopScanner => "stop_scanner"
  | reconnect => "reconnect"

def methods : List Method :=
  [.listDevices, .inspectSafety, .prepareReadOnly, .launchScanner, .scannerStatus, .stopScanner,
    .reconnect]

def requestKeys : List String := ["schema_version", "request_id", "auth", "method", "params"]

def responseKeys : List String := ["schema_version", "request_id", "ok", "result", "error"]

def errorKeys : List String := ["code", "message"]

def errorCodes : List String :=
  ["bad_request", "unauthorized", "not_found", "stale_source", "safety_blocked", "read_only_failed",
    "scanner_unavailable", "internal_error"]

/-- `METHOD_PARAM_KEYS`. -/
def methodParamKeys : Method → List String
  | .listDevices => []
  | .inspectSafety => ["source_id", "observed_generation"]
  | .prepareReadOnly =>
    ["source_id", "observed_generation", "safety_inspection_id", "operator_confirmation_token"]
  | .launchScanner =>
    ["source_id", "observed_generation", "safety_inspection_id", "readonly_preparation_id",
      "scan_case_id", "scratch_separation_id", "resource_profile"]
  | .scannerStatus => ["scanner_session_id"]
  | .stopScanner => ["scanner_session_id", "reason"]
  | .reconnect => ["scan_case_id", "source_id", "observed_generation"]

/-- `METHOD_REQUIRED_KEYS`, which has the same entries. -/
def methodRequiredKeys : Method → List String := methodParamKeys

def opaqueIdFields : List String :=
  ["source_id", "safety_inspection_id", "operator_confirmation_token", "readonly_preparation_id",
    "scan_case_id", "scratch_separation_id", "scanner_session_id"]

/-! ## Patterns -/

def isLower (point : CodePoint) : Bool := decide (97 ≤ point.val) && decide (point.val ≤ 122)

def isUpper (point : CodePoint) : Bool := decide (65 ≤ point.val) && decide (point.val ≤ 90)

def isDigit (point : CodePoint) : Bool := decide (48 ≤ point.val) && decide (point.val ≤ 57)

def isAlphanumeric (point : CodePoint) : Bool := isLower point || isUpper point || isDigit point

def isIn (marks : String) (point : CodePoint) : Bool := decide (point ∈ PyStr.ofString marks)

/-- A first character of one class, and at most so many of another behind it. -/
def matchesHead (head tail : CodePoint → Bool) (most : ℕ) : PyStr → Bool
  | [] => false
  | first :: rest => head first && decide (rest.length ≤ most) && rest.all tail

/-- `OPAQUE_ID_RE`: a kind, an underscore and a token. -/
def matchesOpaqueId (text : PyStr) : Bool := (List.range text.length).any fun place =>
    matchesHead isLower (fun point => isLower point || isDigit point || isIn "_" point) place
        (text.take place) &&
      decide (text[place]? = some (.ofChar '_')) &&
      (let token := text.drop (place + 1)
       decide (16 ≤ token.length) && decide (token.length ≤ 128) &&
         token.all fun point => isAlphanumeric point || isIn "_-" point)

/-- `REQUEST_ID_RE`. -/
def matchesRequestId : PyStr → Bool :=
  matchesHead isAlphanumeric (fun point => isAlphanumeric point || isIn "._:-" point) 127

/-- `RESOURCE_PROFILE_RE`. -/
def matchesResourceProfile : PyStr → Bool :=
  matchesHead isLower (fun point => isLower point || isDigit point || isIn "_-" point) 63

/-- `REASON_RE`. -/
def matchesReason : PyStr → Bool :=
  matchesHead isAlphanumeric (fun point => isAlphanumeric point || isIn " ._:-" point) 127

/-- `PATHLIKE_MARKERS`. -/
def pathlikeMarkers : List PyStr := [.ofString "/", .ofString "\\", .ofString "..", [0]]

def IsPathlike (text : PyStr) : Prop := ∃ marker ∈ pathlikeMarkers, marker <:+: text

instance (text : PyStr) : Decidable (IsPathlike text) :=
  inferInstanceAs (Decidable (∃ marker ∈ pathlikeMarkers, marker <:+: text))

/-! ## Checks -/

def fail {α : Type} (message : PyStr) : Checked α := .error (.protocolError message)

def failWith {α : Type} (message : String) : Checked α := fail (.ofString message)

/-- The keys of a JSON object. -/
def keysOf (message : PyDict) : List PyStr := message.filterMap fun item =>
    match item.1 with
    | .text key => some key
    | _ => none

/-- `", ".join(sorted(keys))`. -/
def joinSorted (keys : List PyStr) : PyStr :=
  (PyStr.ofString ", ").intercalate (keys.insertionSort fun first second => first ≤ second)

/-- `_require_keys`. -/
def requireKeys (message : PyDict) (required allowed : List String) (path : PyStr) : Checked Unit :=
  let missing := (required.map PyStr.ofString).filter fun key => key ∉ keysOf message
  let extra := (keysOf message).filter fun key => key ∉ allowed.map PyStr.ofString
  if missing ≠ [] then fail (path ++ .ofString " missing required key(s): " ++ joinSorted missing)
  else if extra ≠ [] then fail (path ++ .ofString " has unsupported key(s): " ++ joinSorted extra)
  else .ok ()

/-- `_validate_schema_version`. -/
def validateSchemaVersion (value : PyValue) (path : String) : Checked Unit :=
  if value.eq (.int 1) then .ok () else fail (.ofString path ++ .ofString " must be 1")

/-- A text that matches a pattern, or the failure. -/
def requireText (isMatch : PyStr → Bool) (message : PyStr) : PyValue → Checked Unit
  | .text text => if isMatch text then .ok () else fail message
  | _ => fail message

/-- `_validate_request_id`. -/
def validateRequestId : PyValue → Checked Unit :=
  requireText matchesRequestId (.ofString "request_id must be a bounded protocol correlation id")

/-- `_validate_opaque_id`. -/
def validateOpaqueId (field : String) : PyValue → Checked Unit :=
  requireText matchesOpaqueId (.ofString field ++ .ofString " must be an opaque Reperio identifier")

/-- `_validate_auth`. -/
def validateAuth : PyValue → Checked Unit
  | .dict auth => do
      requireKeys auth ["kind", "principal"] ["kind", "principal"] (.ofString "request.auth")
      if !(PyDict.get auth "kind").eq (.text authKind) then
        failWith "request.auth.kind must be 'unix_peer_credentials'"
      else if !(PyDict.get auth "principal").eq (.str "reperio-api") then
        failWith "request.auth.principal must be 'reperio-api'"
      else return ()
  | _ => failWith "request.auth must be an object"

mutual

/-- `_reject_pathlike_strings`, at some depth of calls. -/
def rejectPathlike (limit : ℕ) : ℕ → PyStr → PyValue → Checked Unit
  | depth, path, .text text =>
    if limit ≤ depth then .error (.python .recursionError)
    else if IsPathlike text then fail (path ++ .ofString " must not contain path-like text")
    else .ok ()
  | depth, path, .dict items =>
    if limit ≤ depth then .error (.python .recursionError)
    else rejectPathlikePairs limit (depth + 1) path items
  | depth, path, .list items =>
    if limit ≤ depth then .error (.python .recursionError)
    else rejectPathlikeItems limit (depth + 1) path 0 items
  | depth, _, _ => if limit ≤ depth then .error (.python .recursionError) else .ok ()

def rejectPathlikePairs (limit : ℕ) : ℕ → PyStr → List (PyValue × PyValue) → Checked Unit
  | _, _, [] => .ok ()
  | depth, path, (key, value) :: items => do
      let name := match key with | .text name => name | _ => []
      rejectPathlike limit depth (path ++ .ofString "." ++ name) value
      rejectPathlikePairs limit depth path items

def rejectPathlikeItems (limit : ℕ) : ℕ → PyStr → ℕ → List PyValue → Checked Unit
  | _, _, _, [] => .ok ()
  | depth, path, index, value :: items => do
      rejectPathlike limit depth
        (path ++ .ofString "[" ++ .ofChars (renderInt index) ++ .ofString "]") value
      rejectPathlikeItems limit depth path (index + 1) items

end

/-- `_validate_error`. -/
def validateError : PyValue → Checked Unit
  | .dict error => do
      requireKeys error errorKeys errorKeys (.ofString "response.error")
      if !(PyDict.get error "code").hashable then .error (.python .typeError)
      else if !errorCodes.any fun code => (PyDict.get error "code").eq (.str code) then
        failWith "response.error.code is not supported"
      else
        match PyDict.get error "message" with
        | .text message =>
          if 1 ≤ message.length ∧ message.length ≤ 512 then return ()
          else failWith "response.error.message must contain 1 to 512 characters"
        | _ => failWith "response.error.message must contain 1 to 512 characters"
  | _ => failWith "failed response.error must be an object"

/-- The body of the loop of `_validate_params`. -/
def validateField : PyValue × PyValue → Checked Unit
  | (.text field, value) =>
    match opaqueIdFields.find? fun name => PyStr.ofString name = field with
    | some name => validateOpaqueId name value
    | none =>
      if field = .ofString "observed_generation" then
        match value with
        | .int generation =>
          if 0 ≤ generation then .ok ()
          else failWith "observed_generation must be a non-negative integer"
        | _ => failWith "observed_generation must be a non-negative integer"
      else if field = .ofString "resource_profile" then
        requireText matchesResourceProfile
          (.ofString "resource_profile must name a configured resource profile") value
      else if field = .ofString "reason" then
        requireText matchesReason (.ofString "reason must be bounded operator-visible text") value
      else .ok ()
  | _ => .ok ()

/-- `str(value)` of an integer in a message. -/
def intText (value : ℤ) : Checked PyStr := match checkInt value with
  | .ok value => .ok (.ofChars (renderInt value))
  | .error error => .error (.python error)

/-- The check of the generation that a source is known with. -/
def validateGeneration (interpreter : Interpreter) (sourceGenerations : PyStr → Option ℤ)
    (params : PyDict) : Checked Unit :=
  match params.get "source_id", (params.get "observed_generation").int? with
  | .text sourceId, some observed =>
    let shown := reprText interpreter.display sourceId
    match sourceGenerations sourceId with
    | none => fail (.ofString "source_id " ++ shown ++ .ofString " is not current")
    | some current =>
      if observed ≠ current then do
        let observed ← intText observed
        let current ← intText current
        fail (.ofString "source_id " ++ shown ++ .ofString " generation is stale: observed " ++
          observed ++ .ofString ", current " ++ current)
      else .ok ()
  | _, _ => .ok ()

/-- `_validate_params`. -/
def validateParams (interpreter : Interpreter) (sourceGenerations : PyStr → Option ℤ)
    (method : Method) (params : PyDict) : Checked Unit := do
  let path := PyStr.ofString (method.text ++ ".params")
  requireKeys params (methodRequiredKeys method) (methodParamKeys method) path
  rejectPathlike interpreter.callDepth 0 path (.dict params)
  params.forM validateField
  validateGeneration interpreter sourceGenerations params

/-- `value in METHODS`. -/
def method? (value : PyValue) : Option Method :=
  methods.find? fun method => value.eq (.str method.text)

mutual

/-- The values in a value, each with its depth, in the order in which they are visited. -/
def visits : ℕ → PyValue → List (ℕ × PyValue)
  | depth, .list items => (depth, .list items) :: visitsItems (depth + 1) items
  | depth, .dict items => (depth, .dict items) :: visitsPairs (depth + 1) items
  | depth, value => [(depth, value)]

def visitsItems : ℕ → List PyValue → List (ℕ × PyValue)
  | _, [] => []
  | depth, value :: items => visits depth value ++ visitsItems depth items

def visitsPairs : ℕ → List (PyValue × PyValue) → List (ℕ × PyValue)
  | _, [] => []
  | depth, (_, value) :: items => visits depth value ++ visitsPairs depth items

end

/-- `repr(value)`. -/
def reprOf (interpreter : Interpreter) (value : PyValue) : Checked PyStr :=
  if (visits 0 value).any fun visit => interpreter.reprDepth ≤ visit.1 then
    .error (.python .recursionError)
  else
    match reprValue interpreter.display value with
    | .ok text => .ok text
    | .error error => .error (.python error)

def validateRequest (interpreter : Interpreter) (sourceGenerations : PyStr → Option ℤ)
    (message : PyDict) : Checked PyDict := do
  requireKeys message requestKeys requestKeys (.ofString "request")
  validateSchemaVersion (message.get "schema_version") "request.schema_version"
  validateRequestId (message.get "request_id")
  validateAuth (message.get "auth")
  match method? (message.get "method") with
  | none => do
      let shown ← reprOf interpreter (message.get "method")
      fail (.ofString "request.method " ++ shown ++ .ofString " is not allowlisted")
  | some method =>
    match message.get "params" with
    | .dict params => do
        validateParams interpreter sourceGenerations method params
        return [(.str "schema_version", .int 1), (.str "request_id", message.get "request_id"),
          (.str "auth", message.get "auth"), (.str "method", message.get "method"),
          (.str "params", .dict params)]
    | _ => failWith "request.params must be an object"

/-- The checks of `validate_response` on what a success or a failure comes with. -/
def validateOutcome (message : PyDict) (isOk : Bool) : Checked Unit := if isOk then
    match message.get? "result", message.get? "error" with
    | some (.dict _), none => .ok ()
    | some _, none => failWith "successful response.result must be an object"
    | _, _ => failWith "successful response requires result and forbids error"
  else
    match message.get? "error", message.get? "result" with
    | some error, none => validateError error
    | _, _ => failWith "failed response requires error and forbids result"

def validateResponse (interpreter : Interpreter) (message : PyDict) : Checked PyDict := do
  requireKeys message ["schema_version", "request_id", "ok"] responseKeys (.ofString "response")
  validateSchemaVersion (message.get "schema_version") "response.schema_version"
  validateRequestId (message.get "request_id")
  match message.get "ok" with
  | .bool isOk => do
      validateOutcome message isOk
      rejectPathlike interpreter.callDepth 0 (.ofString "response") (.dict message)
      return message
  | _ => failWith "response.ok must be boolean"

end Reperio.Hostd.Protocol
