import Reperio.Api.ScanCases
import Reperio.Concurrency.Transition

/-!
# What comes before a launch

Only `start_scan` launches a scanner. It asks the table of confirmations for
the newest preview of the source, and the daemon for a read-only preparation,
of which it uses the identifier alone. What the confirmation stands for is
recovered from the requests that came before: every entry of the table was
stored by the last successful preview of its source. What the preparation says
of itself is the daemon's business, and that is where the guarantee ends.
-/

namespace Reperio.Api

open Concurrency Python Catalog

section Previews

variable (interpreter : Interpreter)

abbrev Action := Request × Environment

/-- A preview of the source that stores a confirmation. -/
def Previews (sourceId : String) (action : Action) (confirmation : Confirmation) : Prop :=
  ∃ body, action.1 = .preview sourceId body ∧
    previewed interpreter action.2 sourceId body = .ok confirmation

/-- The confirmation was stored by a preview that no other one replaced since. -/
def LastPreviewed (past : List Action) (sourceId : String) (confirmation : Confirmation) : Prop :=
  ∃ earlier preview later, past = earlier ++ preview :: later ∧
    Previews interpreter sourceId preview confirmation ∧
    ∀ action ∈ later, ∀ other, ¬Previews interpreter sourceId action other

variable {interpreter} {past : List Action} {action : Action} {sourceId : String}
  {confirmation : Confirmation}

theorem Previews.last (previews : Previews interpreter sourceId action confirmation) :
    LastPreviewed interpreter (past ++ [action]) sourceId confirmation :=
  ⟨past, action, [], rfl, previews, by simp⟩

theorem LastPreviewed.snoc (last : LastPreviewed interpreter past sourceId confirmation)
    (other : ∀ newer, ¬Previews interpreter sourceId action newer) :
    LastPreviewed interpreter (past ++ [action]) sourceId confirmation := by
  rcases last with ⟨earlier, preview, later, rfl, previews, none⟩
  refine ⟨earlier, preview, later ++ [action], by simp, previews, ?_⟩
  intro newer member
  rcases List.mem_append.mp member with isLater | isAction
  · exact none newer isLater
  · exact List.mem_singleton.mp isAction ▸ other

end Previews

/-! ## Requests that neither confirm nor launch -/

/-- Nothing is confirmed and no scanner is launched by the query. -/
def Query.Harmless : Query → Prop
  | .confirm _ _ => False
  | .hostd call => call.isLaunch = false
  | _ => True

section Harmless

variable {α : Type} {interpreter : Interpreter}

theorem issues_withFinally {program : Handler α} {last : Handler Unit}
    (issues : program.Issues Query.Harmless) (lastIssues : last.Issues Query.Harmless) :
    (Program.withFinally last program).Issues Query.Harmless := by
  apply Program.Issues.bind
  · apply issues.handle
    exact fun error => lastIssues.bind fun _ => trivial
  · exact fun result => lastIssues.bind fun _ => trivial

theorem issues_askHostd {call : HostdCall} (noLaunch : call.isLaunch = false) :
    (askHostd call).Issues Query.Harmless := by
  refine ⟨noLaunch, fun answer => ?_⟩
  change (Program.ofExcept (checkAnswer answer)).Issues _
  cases checkAnswer answer <;> trivial

theorem issues_ofExcept (value : Except Failure α) :
    (Program.ofExcept value : Handler α).Issues Query.Harmless := by
  cases value <;> trivial

theorem issues_openReadyCatalog : openReadyCatalog.Issues Query.Harmless := by
  refine ⟨trivial, fun ready => ?_⟩
  change (if ready then return () else throw (.http 503) : Handler Unit).Issues _
  split <;> trivial

theorem issues_getCase (caseId : String) : (getCase interpreter caseId).Issues Query.Harmless :=
  ⟨trivial, fun _ => issues_ofExcept _⟩

theorem issues_updateState (caseId : String) (state : CaseState) :
    (updateState caseId state).Issues Query.Harmless := by
  apply Program.Issues.bind
  · apply Program.Issues.handle
    · exact ⟨trivial, fun _ => issues_ofExcept _⟩
    · exact fun error => ⟨trivial, fun _ => trivial⟩
  · exact fun result => ⟨trivial, fun _ => trivial⟩

theorem issues_stopOrReconnectCase (caseId reason : String) (state : CaseState) :
    (stopOrReconnectCase interpreter caseId reason state).Issues Query.Harmless := by
  refine issues_openReadyCatalog.bind fun _ => issues_withFinally ?_ ⟨trivial, fun _ => trivial⟩
  refine (issues_getCase caseId).bind fun found => (issues_ofExcept _).bind fun session => ?_
  refine (issues_askHostd rfl).bind fun _ => (issues_updateState caseId state).bind fun _ => ?_
  trivial

theorem issues_reconnectCase (caseId : String) (generation : ℕ) (markRunning : Bool) :
    (reconnectCase interpreter caseId generation markRunning).Issues Query.Harmless := by
  refine issues_openReadyCatalog.bind fun _ => issues_withFinally ?_ ⟨trivial, fun _ => trivial⟩
  refine (issues_getCase caseId).bind fun found => (issues_askHostd rfl).bind fun result => ?_
  cases markRunning with
  | true => exact (issues_updateState caseId .running).bind fun _ => trivial
  | false => trivial

/-- The confirmations are those of `before`, and no scanner has been launched. -/
def Unlaunched {runtime : Runtime} (confirmations : String → Option Confirmation)
    (world : World runtime) : Prop :=
  world.confirmations = confirmations ∧ ∀ exchange ∈ world.exchanges, exchange.1.isLaunch = false

theorem unlaunched_run {runtime : Runtime} {program : Handler α}
    (issues : program.Issues Query.Harmless) (environment : Environment) (world : World runtime) :
    Unlaunched world.confirmations (program.run (perform environment) world.arrived).1 := by
  refine issues.run_preserves ?_ ⟨rfl, by simp [World.arrived]⟩
  rintro query state allowed ⟨same, noLaunch⟩
  cases query with
  | confirm sourceId confirmation => exact allowed.elim
  | hostd call =>
    refine ⟨same, ?_⟩
    intro exchange member
    rcases List.mem_append.mp member with isOld | isNew
    · exact noLaunch exchange isOld
    · obtain rfl := List.mem_singleton.mp isNew
      exact allowed
  | ready => exact ⟨same, noLaunch⟩
  | monotonic => exact ⟨same, noLaunch⟩
  | uuid4 => exact ⟨same, noLaunch⟩
  | confirmation sourceId => exact ⟨same, noLaunch⟩
  | command sent => exact ⟨same, noLaunch⟩
  | close => exact ⟨same, noLaunch⟩

end Harmless

/-! ## What a request does to the confirmations, and when it launches -/

variable {confirmation : Confirmation}

section Serve

variable {interpreter : Interpreter} (world : World interpreter.runtime) (action : Action)

/-- Every request but the successful previews and the starts. -/
theorem serve_cases :
    (Unlaunched world.confirmations (serve interpreter action.1 action.2 world).1 ∧
        ∀ sourceId newer, ¬Previews interpreter sourceId action newer) ∨
      (∃ sourceId confirmation, Previews interpreter sourceId action confirmation ∧
        Unlaunched (Function.update world.confirmations sourceId (some confirmation))
          (serve interpreter action.1 action.2 world).1) ∨
      ∃ body preparationId, action.1 = .start body ∧
        Launches interpreter action.2 world body preparationId ∧
        (serve interpreter action.1 action.2 world).1.confirmations = world.confirmations ∧
        (serve interpreter action.1 action.2 world).1.exchanges =
          [body.prepareExchange action.2, body.launchExchange action.2 preparationId] := by
  rcases action with ⟨request, environment⟩
  cases request with
  | preview sourceId body =>
    have noLaunch : ∀ exchange ∈ [inspectExchange environment sourceId body],
        exchange.1.isLaunch = false := by
      simp [inspectExchange, HostdCall.isLaunch]
    simp only [serve_preview]
    cases stored : previewed interpreter environment sourceId body with
    | error error =>
      refine Or.inl ⟨⟨rfl, noLaunch⟩, ?_⟩
      rintro _ newer ⟨_, same, isStored⟩
      cases same
      rw [stored] at isStored
      cases isStored
    | ok confirmation =>
      exact Or.inr (Or.inl ⟨sourceId, confirmation, ⟨body, rfl, stored⟩, rfl, noLaunch⟩)
  | start body =>
    rcases serve_start_cases interpreter environment world body with
      ⟨error, others, noLaunch, _, served⟩ | ⟨preparationId, launches, served⟩
    · refine Or.inl ⟨?_, ?_⟩
      · rw [served]
        exact ⟨rfl, noLaunch⟩
      · rintro _ newer ⟨_, isPreview, _⟩
        cases isPreview
    · refine Or.inr (Or.inr ⟨body, preparationId, rfl, launches, ?_, ?_⟩) <;> rw [served]
  | pause caseId reason =>
    refine Or.inl ⟨unlaunched_run (issues_stopOrReconnectCase caseId reason .paused) _ _, ?_⟩
    rintro _ newer ⟨_, isPreview, _⟩
    cases isPreview
  | safeStop caseId reason =>
    refine Or.inl ⟨unlaunched_run (issues_stopOrReconnectCase caseId reason .paused) _ _, ?_⟩
    rintro _ newer ⟨_, isPreview, _⟩
    cases isPreview
  | resume caseId body =>
    refine Or.inl ⟨unlaunched_run (issues_reconnectCase caseId _ true) _ _, ?_⟩
    rintro _ newer ⟨_, isPreview, _⟩
    cases isPreview
  | reconnect caseId body =>
    refine Or.inl ⟨unlaunched_run (issues_reconnectCase caseId _ false) _ _, ?_⟩
    rintro _ newer ⟨_, isPreview, _⟩
    cases isPreview

theorem Previews.source_eq {sourceId other : String} {newer : Confirmation}
    (first : Previews interpreter sourceId action confirmation)
    (second : Previews interpreter other action newer) :
    sourceId = other ∧ confirmation = newer := by
  rcases first with ⟨body, isFirst, stored⟩
  rcases second with ⟨otherBody, isSecond, otherStored⟩
  rw [isFirst] at isSecond
  cases isSecond
  rw [stored] at otherStored
  exact ⟨rfl, Except.ok.inj otherStored⟩

/-- An entry of the table is an old one that no preview replaced, or a new one. -/
theorem serve_confirmation {sourceId : String}
    (entry : (serve interpreter action.1 action.2 world).1.confirmations sourceId =
      some confirmation) :
    (world.confirmations sourceId = some confirmation ∧
        ∀ newer, ¬Previews interpreter sourceId action newer) ∨
      Previews interpreter sourceId action confirmation := by
  rcases serve_cases world action with
    ⟨⟨same, _⟩, noPreview⟩ | ⟨source, newer, previews, updated, _⟩ |
    ⟨body, preparationId, isStart, _, same, _⟩
  · exact Or.inl ⟨same ▸ entry, noPreview sourceId⟩
  · rw [updated] at entry
    by_cases isSource : sourceId = source
    · subst isSource
      rw [Function.update_self] at entry
      exact Or.inr (Option.some.inj entry ▸ previews)
    · rw [Function.update_of_ne isSource] at entry
      exact Or.inl ⟨entry, fun other others =>
        isSource (Previews.source_eq action others previews).1⟩
  · refine Or.inl ⟨same ▸ entry, ?_⟩
    rintro newer ⟨_, isPreview, _⟩
    rw [isStart] at isPreview
    cases isPreview

end Serve

/-- Every confirmation is what the last successful preview of its source stored. -/
theorem lastPreviewed_of_runFrom {interpreter : Interpreter}
    {start world : World interpreter.runtime} {past : List Action}
    (unconfirmed : ∀ sourceId, start.confirmations sourceId = none)
    (ran : runFrom (step interpreter) start past = some world) :
    ∀ sourceId confirmation, world.confirmations sourceId = some confirmation →
      LastPreviewed interpreter past sourceId confirmation := by
  refine runFrom_induction ?_ ?_ ran
  · intro sourceId confirmation entry
    rw [unconfirmed] at entry
    cases entry
  · intro past world action next reached ih stepped
    obtain rfl : (serve interpreter action.1 action.2 world).1 = next := Option.some.inj stepped
    intro sourceId confirmation entry
    rcases serve_confirmation world action entry with ⟨old, noPreview⟩ | previews
    · exact (ih sourceId confirmation old).snoc noPreview
    · exact previews.last

/-! ## Safeguards -/

/-- The daemon names the inspection, and reports the source as safe for a scan. -/
def ReportedSafe (interpreter : Interpreter) (safetyInspectionId : PyStr) (answer : HostdAnswer) :
    Prop :=
  ∃ inspection, answer = .value (.dict inspection) ∧
    interpreter.strings.field inspection "safety_inspection_id" = safetyInspectionId ∧
    ((PyDict.get? inspection "safe_for_scan").getD (.bool false)).truthy = true

/-- A preview that is recent enough and has not been replaced. -/
def PreviewedBefore (interpreter : Interpreter) (past : List Action) (now : ℚ) (sourceId : String)
    (generation : ℕ) (safetyInspectionId : String) : Prop :=
  ∃ earlier body environment later,
    past = earlier ++ (.preview sourceId body, environment) :: later ∧
    body.observedGeneration = generation ∧
    ReportedSafe interpreter (.ofString safetyInspectionId)
      (environment.hostd (.inspectSafety sourceId generation)) ∧
    now - environment.monotonic ≤ confirmationTokenTtlSeconds ∧
    ∀ action ∈ later, ∀ other, ¬Previews interpreter sourceId action other

/-- The flag `prepared` of the answer is true. -/
def HostdAnswer.isPrepared : HostdAnswer → Bool
  | .value (.dict items) =>
    match PyDict.get? items "prepared" with
    | some (.bool true) => true
    | _ => false
  | _ => false

/-- An answer of `prepare_read_only` for the source that says it is prepared. -/
def PreparedAnswer (sourceId : String) (exchange : HostdCall × HostdAnswer) : Prop :=
  (∃ generation safetyInspectionId token,
    exchange.1 = .prepareReadOnly sourceId generation safetyInspectionId token) ∧
    exchange.2.isPrepared = true

/-- What has to come before a call of the daemon, in earlier requests and in the same one. -/
def Safeguarded (interpreter : Interpreter) (past : List Action) (now : ℚ)
    (before : List (HostdCall × HostdAnswer)) : HostdCall → Prop
  | .launchScanner sourceId generation safetyInspectionId _ _ _ _ =>
    PreviewedBefore interpreter past now sourceId generation safetyInspectionId ∧
      ∃ exchange ∈ before, PreparedAnswer sourceId exchange
  | _ => True

/-- Every call of every request of the run is safeguarded. -/
def EveryCallSafeguarded (interpreter : Interpreter) (start : World interpreter.runtime)
    (requests : List Action) : Prop :=
  ∀ past action later, requests = past ++ action :: later →
    ∀ world, runFrom (step interpreter) start past = some world → ∀ before call answer after,
        (serve interpreter action.1 action.2 world).1.exchanges =
          before ++ (call, answer) :: after →
        Safeguarded interpreter past action.2.monotonic before call

/-- A start that gets as far as a launch has been told that the source is prepared. -/
def LaunchesPrepared (interpreter : Interpreter) (world : World interpreter.runtime)
    (action : Action) : Prop :=
  ∀ body preparationId, action.1 = .start body →
    Launches interpreter action.2 world body preparationId →
    PreparedAnswer body.sourceId (body.prepareExchange action.2)

section Guarantee

variable {interpreter : Interpreter} {past : List Action} {sourceId : String}
  {body : StartScanRequest} {confirmation : Confirmation} {environment : Environment}

theorem previewed_eq_ok {preview : SourcePreviewRequest}
    (stored : previewed interpreter environment sourceId preview = .ok confirmation) :
    ReportedSafe interpreter confirmation.safetyInspectionId
        (environment.hostd (.inspectSafety sourceId preview.observedGeneration)) ∧
      confirmation.generation = preview.observedGeneration ∧
      confirmation.issuedAt = environment.monotonic := by
  unfold previewed at stored
  cases answered : environment.hostd (.inspectSafety sourceId preview.observedGeneration) with
  | unavailable =>
    rw [answered] at stored
    cases stored
  | raises error =>
    rw [answered] at stored
    cases stored
  | value value =>
    cases value with
    | dict inspection =>
      rw [answered] at stored
      simp only [checkAnswer, bind, Except.bind] at stored
      split at stored
      · cases stored
      · rename_i safe
        cases token : confirmationToken interpreter sourceId preview.observedGeneration
          (interpreter.strings.field inspection "safety_inspection_id") with
        | error error =>
          rw [token] at stored
          cases stored
        | ok text =>
          rw [token] at stored
          obtain rfl := Except.ok.inj stored
          refine ⟨⟨inspection, rfl, rfl, ?_⟩, rfl, rfl⟩
          exact Bool.eq_true_of_not_eq_false fun unsafeAnswer => safe (Or.inr unsafeAnswer)
    | _ =>
      rw [answered] at stored
      cases stored

theorem confirms_iff {now : ℚ} : confirmation.confirms body now = true ↔
      now - confirmationTokenTtlSeconds ≤ confirmation.issuedAt ∧
        confirmation.generation = body.observedGeneration ∧
        confirmation.safetyInspectionId = .ofString body.safetyInspectionId ∧
        confirmation.token = body.operatorConfirmationToken := by
  simp only [Confirmation.confirms, ne_eq, Bool.not_eq_true', Bool.or_eq_false_iff,
    decide_eq_false_iff_not, not_lt, not_not, and_assoc]

theorem LastPreviewed.previewedBefore {now : ℚ}
    (last : LastPreviewed interpreter past body.sourceId confirmation)
    (confirms : confirmation.confirms body now = true) :
    PreviewedBefore interpreter past now body.sourceId body.observedGeneration
      body.safetyInspectionId := by
  rcases last with ⟨earlier, ⟨request, environment⟩, later, split, ⟨preview, isPreview, stored⟩,
    none⟩
  rcases confirms_iff.mp confirms with ⟨recent, generation, safety, _⟩
  rcases previewed_eq_ok stored with ⟨reported, sameGeneration, issued⟩
  simp only at isPreview
  subst isPreview
  have sameObserved : preview.observedGeneration = body.observedGeneration :=
    sameGeneration.symm.trans generation
  refine ⟨earlier, preview, environment, later, split, sameObserved, ?_, ?_, none⟩
  · rw [safety, sameObserved] at reported
    exact reported
  · rw [issued] at recent
    linarith

theorem safeguarded_of_not_isLaunch {now : ℚ} {before : List (HostdCall × HostdAnswer)}
    {call : HostdCall} (noLaunch : call.isLaunch = false) :
    Safeguarded interpreter past now before call := by
  cases call with
  | launchScanner => cases noLaunch
  | _ => trivial

/-- What one request may do: its launch is safeguarded exactly if the preparation says so. -/
theorem safeguarded_iff_launchesPrepared {world : World interpreter.runtime} {action : Action}
    (confirmed : ∀ sourceId confirmation, world.confirmations sourceId = some confirmation →
      LastPreviewed interpreter past sourceId confirmation) :
    (∀ before call answer after, (serve interpreter action.1 action.2 world).1.exchanges =
        before ++ (call, answer) :: after →
        Safeguarded interpreter past action.2.monotonic before call) ↔
      LaunchesPrepared interpreter world action := by
  constructor
  · intro safeguarded body preparationId isStart launches
    rcases serve_start_cases interpreter action.2 world body with
      ⟨error, others, _, unlaunched, _⟩ | ⟨same, alsoLaunches, served⟩
    · exact absurd launches (unlaunched preparationId)
    · obtain rfl := launches.preparationId_eq alsoLaunches
      have exchanged : (serve interpreter action.1 action.2 world).1.exchanges =
          [body.prepareExchange action.2] ++ body.launchExchange action.2 preparationId :: [] := by
        rw [isStart, served]
        rfl
      rcases (safeguarded _ _ _ _ exchanged).2 with ⟨exchange, member, prepared⟩
      exact List.mem_singleton.mp member ▸ prepared
  · intro prepared before call answer after exchanged
    cases isLaunch : call.isLaunch with
    | false => exact safeguarded_of_not_isLaunch isLaunch
    | true =>
      have member : (call, answer) ∈ (serve interpreter action.1 action.2 world).1.exchanges := by
        rw [exchanged]
        simp
      rcases serve_cases world action with
        ⟨⟨_, noLaunch⟩, _⟩ | ⟨_, _, _, _, noLaunch⟩ |
        ⟨body, preparationId, isStart, launches, _, exchanges⟩
      · exact absurd isLaunch (by simp [noLaunch _ member])
      · exact absurd isLaunch (by simp [noLaunch _ member])
      · rcases launches.confirmed with ⟨confirmation, entry, confirms⟩
        have split := exchanges.symm.trans exchanged
        rcases before with _ | ⟨first, _ | ⟨second, rest⟩⟩
        · obtain ⟨same, _⟩ := List.cons.inj split
          cases same
          cases isLaunch
        · simp only [List.cons_append, List.nil_append, List.cons.injEq] at split
          obtain ⟨rfl, isCall, _⟩ := split
          cases isCall
          exact ⟨(confirmed body.sourceId confirmation entry).previewedBefore confirms, _,
            List.mem_singleton_self _, prepared body preparationId isStart launches⟩
        · simp at split

end Guarantee

/-- Every launch of every run comes after a fresh preview of the source and after its preparation,
exactly if no start that reaches the launch has been answered that the source is not prepared. -/
theorem everyCallSafeguarded_iff (interpreter : Interpreter) (start : World interpreter.runtime)
    (requests : List Action) (unconfirmed : ∀ sourceId, start.confirmations sourceId = none) :
    EveryCallSafeguarded interpreter start requests ↔
      EveryStep (step interpreter) (LaunchesPrepared interpreter) start requests := by
  rw [everyStep_iff_at]
  refine forall₄_congr fun past action later _ => forall₂_congr fun world reached => ?_
  exact safeguarded_iff_launchesPrepared (lastPreviewed_of_runFrom unconfirmed reached)

/-! ## A source that was not prepared -/

def samplePreview : Request := .preview "src_usb_1" ⟨1, []⟩

def sampleStart : StartScanRequest where
  sourceId := "src_usb_1"
  observedGeneration := 1
  safetyInspectionId := "safe_1"
  operatorConfirmationToken := "confirm_9fc0c0d73525c6d34c8cd898d0996802"
  scratchSeparationId := "sep_1"
  resourceProfile := "safe"
  scanPolicy := []

/-- A daemon that says whether it has prepared the source, and launches in any case. -/
def launching (prepared : Bool) : Environment where
  catalogReady := true
  monotonic := 1000
  uuidHex := "0123456789abcdef01234567"
  now _ := .min
  hostd
    | .inspectSafety _ _ =>
      .value (.dict [(.str "safety_inspection_id", .str "safe_1"),
        (.str "safe_for_scan", .bool true)])
    | .prepareReadOnly _ _ _ _ =>
      .value (.dict [(.str "prepared", .bool prepared),
        (.str "readonly_preparation_id", .str "ro_1")])
    | .launchScanner _ _ _ _ _ _ _ =>
      .value (.dict [(.str "scanner_session_id", .str "scanner_1")])
    | _ => .unavailable

def emptyWorld : World sampleInterpreter.runtime where
  database := .settled ⟨.empty, .empty⟩
  confirmations _ := none
  exchanges := []

def previewAndStart (prepared : Bool) : List Action :=
  [(samplePreview, launching prepared), (.start sampleStart, launching prepared)]

theorem everyCallSafeguarded_iff_prepared :
    EveryCallSafeguarded sampleInterpreter emptyWorld (previewAndStart true) ↔
      EveryStep (step sampleInterpreter) (LaunchesPrepared sampleInterpreter) emptyWorld
        (previewAndStart true) :=
  everyCallSafeguarded_iff sampleInterpreter emptyWorld (previewAndStart true) fun _ => rfl

/-- The daemon answers that the source is not prepared, and the scanner is launched. -/
theorem unprepared_source_launched :
    ¬∀ (interpreter : Interpreter) (start : World interpreter.runtime) (requests : List Action),
      (∀ sourceId, start.confirmations sourceId = none) →
        EveryCallSafeguarded interpreter start requests := by
  intro safeguarded
  have every := safeguarded sampleInterpreter emptyWorld (previewAndStart false) fun _ => rfl
  have launched : ((runFrom (step sampleInterpreter) emptyWorld
      [(samplePreview, launching false)]).map fun world =>
        (serve sampleInterpreter (.start sampleStart) (launching false) world).1.exchanges.map
          fun exchange => (exchange.1.isLaunch, exchange.2.isPrepared)) =
      some [(false, false), (true, false)] := by
    decide +kernel
  rcases Option.map_eq_some_iff.mp launched with ⟨world, reached, exchanges⟩
  rcases List.map_eq_cons_iff.mp exchanges with ⟨prepare, rest, split, isPrepare, restIs⟩
  rcases List.map_eq_singleton_iff.mp restIs with ⟨⟨call, answer⟩, rfl, isCall⟩
  have guarded := every _ _ [] rfl world reached [prepare] call answer [] split
  simp only [Prod.mk.injEq] at isPrepare isCall
  cases call with
  | launchScanner =>
    rcases guarded.2 with ⟨exchange, member, _, prepared⟩
    rw [List.mem_singleton.mp member, isPrepare.2] at prepared
    cases prepared
  | _ => cases isCall.1

end Reperio.Api
