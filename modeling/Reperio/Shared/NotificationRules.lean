import Reperio.Python.Patterns
import Reperio.Python.Repr

/-!
# Notification summaries

`shared/notification_rules.py`: the text of a notification is a template in which the
names of allowed fields are replaced, and then what looks like a secret. No other field
of the event is read (`buildSummary_congr`).
-/

namespace Reperio.Notifications

open Python Encoding

def redacted : PyStr := .ofString "[redacted]"

/-- `FORBIDDEN_KEYS`. -/
def forbiddenKeys : List String :=
  ["display_path", "path", "source_path", "original_path", "url", "uri", "endpoint", "thumbnail",
    "thumb", "text", "document", "recovery_phrase", "seed", "passphrase", "password", "wallet_id",
    "wallet", "keystore", "private_key", "key", "secret", "api_key", "token", "note",
    "error_detail"]

/-- `SAFE_TOKENS`. -/
def safeTokens : List String :=
  ["case_id", "job_id", "state", "percent", "count", "high_value_count", "sensitive_count",
    "health"]

/-! ## Patterns -/

def recoveryPhrase : Regex CodePoint := .all [.alt (word "recovery") (word "seed"), spaces,
    .optional (.alt (word "phrase") (.seq (word "word") (.optional (word "s")))),
    .one fun point => isSeparator point || point.isSpace,
    .many (fun point => isSmallLetter (foldCase point) || isChar ' ' point) 12]

def walletId : Regex CodePoint :=
  assignment (.all [word "wallet", .optional (.one isJoiner), word "id"]) 6

def password : Regex CodePoint := assignment (word "password") 6

/-- `FORBIDDEN_PATTERNS`. -/
def forbiddenPatterns : List (Regex CodePoint) :=
  [recoveryPhrase, privateKey, walletId, password, apiKey, bearer]

/-- `TOKEN_RE`. -/
def tokenPattern : Regex CodePoint :=
  .all [.one (isChar '\x7b'), .one fun point => isSmallLetter point || isChar '_' point,
    .many (fun point => isSmallLetter point || isDigit point || isChar '_' point) 0,
    .one (isChar '\x7d')]

/-! ## Summaries -/

/-- What a rule says of a summary. -/
structure NotificationRule where
  eventType : PyStr
  severity : PyStr
  template : PyStr
  deriving DecidableEq

/-- The rules and where links lead. -/
structure NotificationRules where
  rules : List NotificationRule
  localUiBase : PyStr

def NotificationRules.ruleFor (rules : NotificationRules) (eventType : PyStr) :
    Option NotificationRule :=
  rules.rules.find? fun rule => rule.eventType = eventType

/-- Whether a message is sent. -/
structure NotificationDecision where
  send : Bool

/-- What a message says. -/
structure NotificationSummary where
  eventType : PyStr
  severity : PyStr
  title : PyStr
  body : PyStr
  countsOnly : Bool
  localUiLink : PyStr
  redactions : List String
  deriving DecidableEq

/-- One pattern is redacted, and its number noted when it occurred. -/
def redactStep (sofar : PyStr × List String) (pattern : Regex CodePoint × ℕ) :
    PyStr × List String :=
  if pattern.1.occursIn sofar.1 then
    (pattern.1.sub redacted sofar.1, sofar.2 ++ ["pattern:" ++ toString pattern.2])
  else sofar

def redactText (value : PyStr) : PyStr × List String :=
  forbiddenPatterns.zipIdx.foldl redactStep (value, [])

section

variable (display : Display)

/-- `_safe_str`. -/
def safeStr : PyValue → Except PyError PyStr
  | .text points => .ok points
  | .int value => reprValue display (.int value)
  | .bool value => reprValue display (.bool value)
  | _ => .ok []

/-- What a token of a template, with its braces, is replaced by. -/
def replaceToken (payload : PyDict) (found : PyStr) : Except PyError PyStr :=
  let token := found.tail.dropLast
  match safeTokens.find? fun name => token = PyStr.ofString name with
  | none => .ok redacted
  | some name =>
    if name ∈ forbiddenKeys then .ok redacted
    else
      match payload.get name with
      | .none => .ok (.ofString "?")
      | value => textOf display value

def renderTemplate (template : PyStr) (payload : PyDict) : Except PyError PyStr :=
  tokenPattern.subM (replaceToken display payload) template

/-- `text.rstrip("/")`. -/
def rstripSlash (text : PyStr) : PyStr := (text.reverse.dropWhile (isChar '/')).reverse

def localUiLink (base caseId : PyStr) : PyStr :=
  if caseId = [] then rstripSlash base else rstripSlash base ++ PyStr.ofString "/#/case/" ++ caseId

/-- `event.get("payload") or {}`, if it is a mapping. -/
def payloadOf (event : PyDict) : Option PyDict := match (event.get "payload").orElse (.dict []) with
  | .dict payload => some payload
  | _ => none

/-- The summary by a rule, of an event with a payload. -/
def summarize (event payload : PyDict) (rule : NotificationRule) (localUiBase eventType : PyStr) :
    Except PyError NotificationSummary := do
  let fieldCase ← safeStr display (payload.get "case_id")
  let caseId ← if fieldCase = [] then textOrEmpty display (event.get "case_id") else pure fieldCase
  let body ← renderTemplate display rule.template payload
  let (redactedBody, redactions) := redactText body
  return {
    eventType, severity := rule.severity, title := rule.template, body := redactedBody
    countsOnly := eventType = .ofString "job.high-value-sensitive-count"
    localUiLink := localUiLink localUiBase caseId, redactions }

def buildSummary (event : PyDict) (rules : NotificationRules) (decision : NotificationDecision) :
    Except PyError (Option NotificationSummary) := do
  if !decision.send then return none
  let eventType ← textOrEmpty display (event.get "event_type")
  match rules.ruleFor eventType, payloadOf event with
  | some rule, some payload =>
    some <$> summarize display event payload rule rules.localUiBase eventType
  | _, _ => return none

end

/-! ## Two events -/

variable {display : Display}

/-- Payloads that have the same values in the allowed fields. -/
def SameSafe (first second : PyDict) : Prop := ∀ name ∈ safeTokens, first.get name = second.get name

variable {first second : PyDict}

theorem replaceToken_congr (same : SameSafe first second) (found : PyStr) :
    replaceToken display first found = replaceToken display second found := by
  unfold replaceToken
  dsimp only
  cases isToken : safeTokens.find? fun name => found.tail.dropLast = PyStr.ofString name with
  | none => rfl
  | some name =>
    dsimp only
    rw [same name (List.mem_of_find?_eq_some isToken)]

theorem renderTemplate_congr (same : SameSafe first second) (template : PyStr) :
    renderTemplate display template first = renderTemplate display template second := by
  rw [renderTemplate, renderTemplate, funext (replaceToken_congr same)]

theorem summarize_congr {firstPayload secondPayload : PyDict}
    (sameCase : first.get "case_id" = second.get "case_id")
    (same : SameSafe firstPayload secondPayload) (rule : NotificationRule)
    (localUiBase eventType : PyStr) :
    summarize display first firstPayload rule localUiBase eventType =
      summarize display second secondPayload rule localUiBase eventType := by
  rw [summarize, summarize, sameCase, same "case_id" (by decide), renderTemplate_congr same]

/-- A summary depends on the event's type and case and on the allowed fields of its payload. -/
theorem buildSummary_congr (rules : NotificationRules) (decision : NotificationDecision)
    {first second firstPayload secondPayload : PyDict}
    (sameType : first.get "event_type" = second.get "event_type")
    (sameCase : first.get "case_id" = second.get "case_id")
    (isFirst : payloadOf first = some firstPayload)
    (isSecond : payloadOf second = some secondPayload)
    (same : SameSafe firstPayload secondPayload) :
    buildSummary display first rules decision = buildSummary display second rules decision := by
  unfold buildSummary
  rw [sameType, isFirst, isSecond]
  split
  · rfl
  · refine congrArg (textOrEmpty display (second.get "event_type") >>= ·)
      (funext fun eventType => ?_)
    cases rules.ruleFor eventType with
    | none => rfl
    | some rule =>
      dsimp only
      rw [summarize_congr sameCase same]

/-- A rule whose template names a field that is not allowed. -/
def leakyRules : NotificationRules where
  rules := [⟨.ofString "job.failure", .ofString "critical",
    .ofString "Scan \x7bjob_id\x7d failed at \x7bpath\x7d"⟩]
  localUiBase := .ofString "http://localhost:8080/"

def failureEvent (payload : PyDict) : PyDict :=
  [(.str "event_type", .str "job.failure"), (.str "payload", .dict payload)]

theorem buildSummary_congr_failure : buildSummary ⟨fun _ => true, []⟩
        (failureEvent [(.str "job_id", .str "j1"), (.str "path", .str "/home/alice/keys")])
        leakyRules ⟨true⟩ =
      buildSummary ⟨fun _ => true, []⟩
        (failureEvent [(.str "password", .list []), (.str "job_id", .str "j1")]) leakyRules
        ⟨true⟩ := by
  refine buildSummary_congr leakyRules ⟨true⟩ rfl rfl rfl rfl ?_
  simp only [SameSafe, safeTokens, List.forall_mem_cons]
  exact ⟨rfl, rfl, rfl, rfl, rfl, rfl, rfl, rfl, nofun⟩

example : (buildSummary ⟨fun _ => true, []⟩
    (failureEvent [(.str "job_id", .str "j1"), (.str "path", .str "/home/alice/keys")]) leakyRules
    ⟨true⟩).map
      (fun summary => summary.map NotificationSummary.body) =
    .ok (some (.ofString "Scan j1 failed at [redacted]")) := by
  decide +kernel

end Reperio.Notifications
