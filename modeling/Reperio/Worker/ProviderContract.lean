import Reperio.Python.KeyOrder
import Reperio.Python.Patterns
import Reperio.Python.Repr
import Reperio.Scanner.ToolText

/-!
# Results of providers

`worker/provider_contract.py`: what a provider returns is checked against the request
and normalized. A key that asks for a tool, a command or a path is looked for in the
record and in its choices and its message, and nowhere below: a result that is accepted
asks for nothing exactly when nothing below asks (`accepted_iff`).
-/

namespace Reperio.Worker.ProviderContract

open Python Encoding

def schemaVersion : PyStr := .ofString "reperio/provider-contract/v1"

/-- `RESPONSE_REQUESTING_ACCESS`. -/
def responseRequestingAccess : List String :=
  ["tool", "tool_call", "tool_calls", "tool_use", "function_call", "file_path", "source_path",
    "device", "read_file", "write_file", "command", "executable", "mount", "shell"]

/-- An order in which the interpreter lists `RESPONSE_REQUESTING_ACCESS`. -/
abbrev AccessKeys := { keys : List String // keys.Perm responseRequestingAccess }

/-- What `normalize_result` raises: a `ProviderContractError` with its code and message, or what the
interpreter raises in it. -/
inductive ContractError where
  | refused (code message : String)
  | python (error : PyError)
  deriving DecidableEq

/-! ## Patterns -/

def isLetter (point : CodePoint) : Bool :=
  isSmallLetter point || decide (0x41 ≤ point.val) && decide (point.val ≤ 0x5A)

def isHexDigit (point : CodePoint) : Bool :=
  isDigit point || decide (0x61 ≤ point.val) && decide (point.val ≤ 0x66)

/-- `SECRET_PATTERNS`. -/
def secretPatterns : List (Regex CodePoint) :=
  [.seq (literal "sk-") (.many (fun point => isLetter point || isDigit point || isJoiner point) 16),
    .seq (literal "vault:") (.times isHexDigit 32), privateKey, apiKey, bearer,
    assignment (word "password") 8]

/-- `EVIDENCE_REF_RE`. -/
def evidenceRef : Regex CodePoint :=
  .all [.many (fun point => isSmallLetter point || isChar '_' point) 1, .one (isChar ':'),
    .many (fun point => isSmallLetter point || isDigit point || isJoiner point) 6]

def redacted : PyStr := .ofString "[redacted]"

/-- `_redact`. -/
def redact (text : PyStr) : PyStr × Bool := secretPatterns.foldl (fun sofar pattern =>
    if pattern.occursIn sofar.1 then (pattern.sub redacted sofar.1, true) else sofar) (text, false)

/-! ## Numbers -/

/-- The blanks that `int` allows around a number. -/
def isIntSpace (point : CodePoint) : Bool :=
  point.isSpace && !(decide (28 ≤ point.val) && decide (point.val ≤ 31))

/-- `int(text)`, if the text is a number. -/
def intOfText? (text : PyStr) : Option ℤ :=
  let stripped := Scanner.SleuthKit.stripWhile isIntSpace text
  let sign := stripped.takeWhile fun point => isChar '+' point || isChar '-' point
  let groups := (stripped.drop sign.length).splitOn (.ofChar '_')
  let digits := groups.flatten
  if sign.length ≤ 1 ∧ (∀ group ∈ groups, group ≠ []) ∧
      digits.all Scanner.SleuthKit.isDecimal ∧ digits.length ≤ intMaxStrDigits then
    let number : ℕ := (digits.filterMap Scanner.SleuthKit.decimal?).foldl
      (fun number digit => 10 * number + digit) 0
    some (if sign.any (isChar '-') then -number else number)
  else none

/-- The sign and the magnitude of `float(value)`, if the value is a finite number. -/
def doubleOf : PyValue → Except PyError (Option (Bool × ℚ))
  | .bool value => .ok (some (false, if value then 1 else 0))
  | .int value =>
    match nearestDouble value.natAbs with
    | some double => .ok (some (decide (value < 0), double))
    | none => .error .overflowError
  | .float value =>
    match value.val with
    | .finite negative digits exponent =>
      .ok ((nearestDouble ((digits : ℚ) * 10 ^ exponent)).map fun double => (negative, double))
    | _ => .ok none
  | _ => .ok none

/-- `int(value)`, if it does not raise a `TypeError` or a `ValueError`. -/
def intOf? : PyValue → Except PyError (Option ℤ)
  | .bool value => .ok (some (if value then 1 else 0))
  | .int value => .ok (some value)
  | .float value =>
    match value.val with
    | .infinity _ => .error .overflowError
    | _ => do
        return (← doubleOf (.float value)).map fun double =>
          if double.1 then -⌊double.2⌋ else ⌊double.2⌋
  | .text points => .ok (intOfText? points)
  | _ => .ok none

/-! ## Requests and results -/

/-- What `normalize_result` reads of a request. -/
structure ProviderRequest where
  task : PyStr
  provider : PyStr
  model : PyStr
  promptVersion : PyStr
  maxOutputCharacters : ℤ

/-- What an accepted response says. -/
structure ProviderResult where
  schemaVersion : PyStr
  task : PyStr
  provider : PyStr
  model : PyStr
  promptVersion : PyStr
  content : PyStr
  evidence : List PyStr
  confidence : Option PyFloat
  usage : List (PyStr × ℤ)
  redacted : Bool
  warnings : List String
  deriving DecidableEq

/-- `_nested_access_keys`. -/
def nestedAccessKeys (keys : AccessKeys) : PyValue → Option String
  | .dict items => keys.val.find? fun key => (PyDict.get? items key).isSome
  | _ => none

/-- `_reject_access_requests`. -/
def rejectAccessRequests (keys : AccessKeys) (record : PyDict) : Except ContractError Unit :=
  match (nestedAccessKeys keys (.dict record)).or
      ((nestedAccessKeys keys (record.get "choices")).or
        (nestedAccessKeys keys (record.get "message"))) with
  | some key =>
    .error (.refused "provider_requested_access"
      ("provider result requested forbidden access via '" ++ key ++ "'"))
  | none => .ok ()

section

variable (display : Display)

/-- `_evidence_list`. -/
def evidenceList : PyValue → Except PyError (List PyStr)
  | .list items => do
      let refs ← items.mapM (textOf display)
      return (refs.filter fun ref => decide (ref.length ∈ evidenceRef.lengths ref)).eraseDups
  | _ => .ok []

/-- `usage[key] = number`. -/
def setUsage (usage : List (PyStr × ℤ)) (key : PyStr) (number : ℤ) : List (PyStr × ℤ) :=
  if usage.any fun entry => entry.1 = key then
    usage.map fun entry => if entry.1 = key then (key, number) else entry
  else usage ++ [(key, number)]

/-- One item of `_usage_map`: what is no number is skipped. -/
def addUsage (usage : List (PyStr × ℤ)) (item : PyValue × PyValue) :
    Except PyError (List (PyStr × ℤ)) := do
  match ← intOf? item.2 with
  | none => return usage
  | some number =>
    match textOf display item.1 with
    | .ok key => return setUsage usage (key.take 64) number
    | .error _ => return usage

/-- `_usage_map`. -/
def usageMap : PyValue → Except PyError (List (PyStr × ℤ))
  | .dict items => items.foldlM (addUsage display) []
  | _ => .ok []

/-- The normalized confidence, and whether it is warned of. -/
def confidenceOf (confidence : PyValue) : Except PyError (Option PyFloat × List String) :=
  match confidence with
  | .none => .ok (none, [])
  | _ => do
      match ← doubleOf confidence with
      | some (negative, double) =>
        if (negative = false ∨ double = 0) ∧ double ≤ 1 then
          return (some (.read negative (roundHalfEven (double * 10 ^ 4)).toNat (-4)), [])
        else return (none, ["invalid_confidence"])
      | none => return (none, ["invalid_confidence"])

/-- The content of a record, if the request allows it. -/
def contentOf (record : PyDict) (expected : ProviderRequest) (maxOutputCharacters : Option ℤ) :
    Except ContractError PyStr := do
  match record.get "content" with
  | .text (first :: rest) =>
    let given := maxOutputCharacters.getD 0
    let limit := if given = 0 then expected.maxOutputCharacters else given
    if limit < ((first :: rest).length : ℤ) then
      throw (.refused "output_limit" "provider result exceeds the task output budget")
    return first :: rest
  | _ => throw (.refused "malformed_output" "provider result has no text content")

/-- What of a record is compared with the request. -/
def identityOf (record : PyDict) : Except PyError (PyStr × PyStr × PyStr × PyStr) := do
  let task ← textOrEmpty display (record.get "task")
  let provider ← textOrEmpty display (record.get "provider")
  let model ← textOrEmpty display (record.get "model")
  let promptVersion ← textOrEmpty display (record.get "prompt_version")
  return (task, provider, model, promptVersion)

/-- `normalize_result`. -/
def normalizeResult (keys : AccessKeys) (record : PyDict) (expected : ProviderRequest)
    (maxOutputCharacters : Option ℤ) : Except ContractError ProviderResult := do
  rejectAccessRequests keys record
  let version ← (textOrEmpty display (record.get "schema_version")).mapError .python
  if version ≠ schemaVersion then
    throw (.refused "malformed_output" "provider result is missing the contract schema version")
  let identity ← (identityOf display record).mapError .python
  if identity ≠ (expected.task, expected.provider, expected.model, expected.promptVersion) then
    throw (.refused "identity_mismatch" "provider result does not name its request identity")
  let content ← contentOf record expected maxOutputCharacters
  let evidence ← (evidenceList display (record.get "evidence")).mapError .python
  if evidence = [] then
    throw (.refused "missing_evidence" "provider result has no evidence refs")
  let (confidence, warnings) ← (confidenceOf (record.get "confidence")).mapError .python
  let usage ← (usageMap display (record.get "usage")).mapError .python
  let (redactedContent, isRedacted) := redact content
  return {
    schemaVersion := version, task := expected.task, provider := expected.provider
    model := expected.model, promptVersion := expected.promptVersion, content := redactedContent
    evidence, confidence, usage, redacted := isRedacted
    warnings := warnings ++ if isRedacted then ["secret_redacted"] else [] }

end

/-! ## Access requests -/

/-- An object without a key that requests access. -/
def NoAccess : PyValue → Prop
  | .dict items => ∀ key ∈ responseRequestingAccess, PyDict.get? items key = none
  | _ => True

/-- No request at the top level, nor at any depth in the choices and the message. -/
def AsksNothing (record : PyDict) : Prop :=
  NoAccess (.dict record) ∧ (record.get "choices").Everywhere NoAccess ∧
    (record.get "message").Everywhere NoAccess

/-- No request in an element of the list, or in a key or a value of the object, that a value is. -/
def NoAccessInside : PyValue → Prop
  | .list items => ∀ item ∈ items, item.Everywhere NoAccess
  | .dict items => ∀ item ∈ items, item.1.Everywhere NoAccess ∧ item.2.Everywhere NoAccess
  | _ => True

theorem everywhere_iff (value : PyValue) :
    value.Everywhere NoAccess ↔ NoAccess value ∧ NoAccessInside value := by
  cases value with
  | list items => exact PyValue.everywhere_list_iff
  | dict items => exact PyValue.everywhere_dict_iff
  | none | bool _ | int _ | float _ | text _ | other => exact (and_iff_left trivial).symm

theorem nestedAccessKeys_eq_none (keys : AccessKeys) (value : PyValue) :
    nestedAccessKeys keys value = none ↔ NoAccess value := by
  cases value with
  | dict items =>
    rw [nestedAccessKeys, List.find?_eq_none]
    refine ⟨fun none key isKey => ?_, fun none key isKey => ?_⟩
    · exact Option.not_isSome_iff_eq_none.mp (none key (keys.property.mem_iff.mpr isKey))
    · rw [none key (keys.property.mem_iff.mp isKey)]
      exact Bool.false_ne_true
  | none | bool _ | int _ | float _ | text _ | list _ | other => exact
  ⟨fun _ => trivial, fun _ => rfl⟩

theorem rejectAccessRequests_eq_ok (keys : AccessKeys) (record : PyDict) :
    rejectAccessRequests keys record = .ok () ↔
      NoAccess (.dict record) ∧ NoAccess (record.get "choices") ∧
      NoAccess (record.get "message") := by
  simp only [← nestedAccessKeys_eq_none keys, ← Option.or_eq_none_iff]
  unfold rejectAccessRequests
  split
  · rename_i key isKey
    rw [isKey]
    exact ⟨nofun, nofun⟩
  · rename_i isNone
    exact ⟨fun _ => isNone, fun _ => rfl⟩

theorem rejectAccessRequests_of_normalizeResult {display : Display} {keys : AccessKeys}
    {record : PyDict} {expected : ProviderRequest} {maxOutputCharacters : Option ℤ}
    {result : ProviderResult}
    (accepted : normalizeResult display keys record expected maxOutputCharacters = .ok result) :
    rejectAccessRequests keys record = .ok () := by
  rcases bind_eq_ok accepted with ⟨_, notRejected, _⟩
  exact notRejected

/-- An accepted result asks for nothing exactly when nothing inside its choices and its message
does. -/
theorem accepted_iff (display : Display) (keys : AccessKeys) (record : PyDict)
    (expected : ProviderRequest) (maxOutputCharacters : Option ℤ) (result : ProviderResult)
    (accepted : normalizeResult display keys record expected maxOutputCharacters = .ok result) :
    AsksNothing record ↔
      NoAccessInside (record.get "choices") ∧ NoAccessInside (record.get "message") := by
  have notRejected := rejectAccessRequests_of_normalizeResult accepted
  rcases (rejectAccessRequests_eq_ok keys record).mp notRejected with ⟨top, choices, message⟩
  rw [AsksNothing, everywhere_iff, everywhere_iff]
  exact ⟨fun asks => ⟨asks.2.1.2, asks.2.2.2⟩,
    fun inside => ⟨top, ⟨choices, inside.1⟩, ⟨message, inside.2⟩⟩⟩

/-! ## An answer of a chat -/

def chatRequest : ProviderRequest where
  task := .ofString "text"
  provider := .ofString "local"
  model := .ofString "small"
  promptVersion := .ofString "v1"
  maxOutputCharacters := 4000

def chatResult (choices : PyValue) : PyDict :=
  [(.str "schema_version", .text schemaVersion), (.str "task", .str "text"),
    (.str "provider", .str "local"), (.str "model", .str "small"),
    (.str "prompt_version", .str "v1"),
    (.str "content", .str "done"), (.str "evidence", .list [.str "finding:abcdef"]),
    (.str "choices", choices)]

def normalizedChat : ProviderResult where
  schemaVersion := schemaVersion
  task := .ofString "text"
  provider := .ofString "local"
  model := .ofString "small"
  promptVersion := .ofString "v1"
  content := .ofString "done"
  evidence := [.ofString "finding:abcdef"]
  confidence := none
  usage := []
  redacted := false
  warnings := []

def listed : AccessKeys := ⟨responseRequestingAccess, .refl _⟩

theorem accepted_iff_chat : AsksNothing (chatResult (.list [.dict [(.str "text", .str "done")]])) ↔
      NoAccessInside (.list [.dict [(.str "text", .str "done")]]) ∧ NoAccessInside .none :=
  accepted_iff ⟨fun _ => true, []⟩ listed (chatResult (.list [.dict [(.str "text", .str "done")]]))
    chatRequest none normalizedChat (by decide +kernel)

/-- A choice whose message calls a tool. -/
def toolCall : PyDict :=
    chatResult (.list [.dict [(.str "message", .dict [(.str "tool_calls", .list [])])]])

theorem toolCall_accepted :
    normalizeResult ⟨fun _ => true, []⟩ listed toolCall chatRequest none = .ok normalizedChat ∧
      ¬ AsksNothing toolCall := by
  refine ⟨by decide +kernel, ?_⟩
  rintro ⟨_, choices, _⟩
  have message := (PyValue.everywhere_dict_iff.mp
    ((PyValue.everywhere_list_iff.mp choices).2 _ List.mem_cons_self)).2 _ List.mem_cons_self
  have calls := (PyValue.everywhere_dict_iff.mp message.2).1 "tool_calls" (by decide)
  cases calls

end Reperio.Worker.ProviderContract
