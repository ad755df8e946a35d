import Reperio.Api.ScanCases
import Reperio.Concurrency.Transition

/-!
# The life of a scan case

A start refuses a source that has an active case, and that keeps a second one
from being inserted. The requests that move a case, pause, safe-stop and
resume, never look at the state it is in: what becomes of a request is a
matter of the stored policy and of the daemon. So both laws of the life cycle,
one active case to a source and no way back from an end, hold along a run
exactly when every case that is moved was active before.
-/

namespace Reperio.Api

open Concurrency Python Catalog Relational

section Outcomes

variable (interpreter : Interpreter) (environment : Environment)

/-- A stop gets as far as the daemon, and the daemon answers it. -/
def stops (catalog : CaseCatalog interpreter.runtime) (caseId reason : String) : Bool :=
  match readRow interpreter (catalog.scanCases.lookup caseId) with
  | .error _ => false
  | .ok (_, policy) =>
    match scannerSession policy with
    | .error _ => false
    | .ok session => (checkAnswer (environment.hostd (.stopScanner session reason))).isOk

def reconnects (catalog : CaseCatalog interpreter.runtime) (caseId : String)
    (observedGeneration : ℕ) : Bool :=
  match readRow interpreter (catalog.scanCases.lookup caseId) with
  | .error _ => false
  | .ok (row, _) =>
    (checkAnswer (environment.hostd (.reconnect caseId row.sourceId observedGeneration))).isOk

/-- The case whose state a request writes, with the state it writes. -/
def movedCase? (catalog : CaseCatalog interpreter.runtime) : Request → Option (String × CaseState)
  | .pause caseId reason =>
    bif environment.catalogReady && stops interpreter environment catalog caseId reason then
      some (caseId, .paused)
    else none
  | .safeStop caseId reason =>
    bif environment.catalogReady && stops interpreter environment catalog caseId reason then
      some (caseId, .paused)
    else none
  | .resume caseId body =>
    bif environment.catalogReady &&
        reconnects interpreter environment catalog caseId body.observedGeneration then
      some (caseId, .running)
    else none
  | _ => none

/-- The cases after a request that moves one, or none. -/
def movedRows (now : CaseStatement → DateTime) : Option (String × CaseState) → List ScanCase →
    List ScanCase
  | some (caseId, state), rows => rows.map (moved now caseId state)
  | none, rows => rows

variable {interpreter environment} {catalog : CaseCatalog interpreter.runtime}
  {confirmations : String → Option Confirmation}

theorem scanCases_stopOrReconnectCase (caseId reason : String) (state : CaseState) :
    ((stopOrReconnectCase interpreter caseId reason state).run (perform environment)
      ⟨.settled catalog, confirmations, []⟩).1.database.committed.scanCases.rows =
      movedRows environment.now
        (bif environment.catalogReady && stops interpreter environment catalog caseId reason then
          some (caseId, state)
        else none) catalog.scanCases.rows := by
  rw [stopOrReconnectCase, run_openReadyCatalog_bind, stops]
  cases environment.catalogReady with
  | false => rfl
  | true =>
    simp only [if_true, Bool.true_and]
    rw [run_closing, run_getCase_bind]
    cases readRow interpreter (catalog.scanCases.lookup caseId) with
    | error error => rfl
    | ok found =>
      dsimp only
      rw [Program.run_ofExcept_bind]
      cases scannerSession found.2 with
      | error error => rfl
      | ok session =>
        dsimp only
        rw [run_askHostd_bind]
        cases checkAnswer (environment.hostd (.stopScanner session reason)) with
        | error error => rfl
        | ok items =>
          dsimp only
          rcases run_updateState_bind environment catalog caseId state
            (fun _ => return Response.moved caseId state) with ⟨scanCases, rows, updated⟩
          rw [updated]
          exact rows

theorem scanCases_reconnectCase (caseId : String) (observedGeneration : ℕ) (markRunning : Bool) :
    ((reconnectCase interpreter caseId observedGeneration markRunning).run (perform environment)
      ⟨.settled catalog, confirmations, []⟩).1.database.committed.scanCases.rows =
      movedRows environment.now
        (bif markRunning && (environment.catalogReady &&
            reconnects interpreter environment catalog caseId observedGeneration) then
          some (caseId, .running)
        else none) catalog.scanCases.rows := by
  rw [reconnectCase, run_openReadyCatalog_bind, reconnects]
  cases environment.catalogReady with
  | false =>
    simp only [Bool.false_and, Bool.and_false]
    rfl
  | true =>
    simp only [if_true, Bool.true_and]
    rw [run_closing, run_getCase_bind]
    cases readRow interpreter (catalog.scanCases.lookup caseId) with
    | error error =>
      simp only [Bool.and_false]
      rfl
    | ok found =>
      dsimp only
      rw [run_askHostd_bind]
      cases checkAnswer (environment.hostd
        (.reconnect caseId found.1.sourceId observedGeneration)) with
      | error error =>
        simp only [Except.isOk, Except.toBool, Bool.and_false]
        rfl
      | ok result =>
        simp only [Except.isOk, Except.toBool, Bool.and_true]
        cases markRunning with
        | false => rfl
        | true =>
          simp only [if_true]
          rcases run_updateState_bind environment catalog caseId .running
            (fun _ => return Response.reconnected caseId result) with
            ⟨scanCases, rows, updated⟩
          rw [updated]
          exact rows

end Outcomes

section Serve

variable (interpreter : Interpreter) (environment : Environment)
  (world : World interpreter.runtime)

/-- What any request makes of the cases. -/
theorem serve_scanCases (request : Request) :
    (serve interpreter request environment world).1.database.committed.scanCases.rows =
        movedRows environment.now
          (movedCase? interpreter environment world.database.committed request)
          world.database.committed.scanCases.rows ∨
      ∃ row : ScanCase, hasActiveCase world.database.committed row.sourceId = false ∧
        movedCase? interpreter environment world.database.committed request = none ∧
        (serve interpreter request environment world).1.database.committed.scanCases.rows =
          world.database.committed.scanCases.rows ++ [row] := by
  cases request with
  | preview sourceId body => exact Or.inl (by rw [serve_preview]; rfl)
  | start body =>
    rcases serve_start_cases interpreter environment world body with
      ⟨error, others, _, _, served⟩ | ⟨preparationId, launches, served⟩
    · exact Or.inl (by rw [served]; rfl)
    · rw [served]
      rcases launchOutcome_scanCases interpreter environment body preparationId
        world.database.committed with kept | ⟨row, source, added⟩
      · exact Or.inl kept
      · refine Or.inr ⟨row, ?_, rfl, added⟩
        rw [source]
        exact launches.prepares.1
  | pause caseId reason => exact Or.inl (scanCases_stopOrReconnectCase caseId reason .paused)
  | safeStop caseId reason => exact Or.inl (scanCases_stopOrReconnectCase caseId reason .paused)
  | resume caseId body =>
    exact Or.inl (scanCases_reconnectCase caseId body.observedGeneration true)
  | reconnect caseId body =>
    exact Or.inl (scanCases_reconnectCase caseId body.observedGeneration false)

end Serve

/-! ## The two laws -/

/-- Active cases of one source are the same case. -/
def AtMostOneActive (rows : List ScanCase) : Prop :=
  ∀ first ∈ rows, ∀ second ∈ rows, first.sourceId = second.sourceId →
    first.state.active = true → second.state.active = true → first = second

/-- A case that has come to an end stays in the state in which it ended. -/
def TerminalKept (before after : List ScanCase) : Prop := ∀ row ∈ before, row.state.active = false →
    ∃ kept ∈ after, kept.caseId = row.caseId ∧ kept.state = row.state

theorem TerminalKept.refl (rows : List ScanCase) : TerminalKept rows rows :=
  fun row member _ => ⟨row, member, rfl, rfl⟩

theorem TerminalKept.trans {first second third : List ScanCase}
    (before : TerminalKept first second) (after : TerminalKept second third) :
    TerminalKept first third := by
  intro row member ended
  rcases before row member ended with ⟨middle, middleMember, middleCase, middleState⟩
  rcases after middle middleMember (middleState ▸ ended)
    with ⟨last, lastMember, lastCase, lastState⟩
  exact ⟨last, lastMember, lastCase.trans middleCase, lastState.trans middleState⟩

section Rows

variable {now : CaseStatement → DateTime} {caseId : String} {state : CaseState}
  {rows : List ScanCase}

@[simp]
theorem moved_caseId (row : ScanCase) : (moved now caseId state row).caseId = row.caseId := by
  unfold moved
  split <;> rfl

@[simp]
theorem moved_sourceId (row : ScanCase) : (moved now caseId state row).sourceId = row.sourceId := by
  unfold moved
  split <;> rfl

theorem moved_state (row : ScanCase) :
    (moved now caseId state row).state = if row.caseId = caseId then state else row.state := by
  unfold moved
  split <;> rfl

/-- The rows named by the request are active. -/
def ActiveAt (rows : List ScanCase) (caseId : String) : Prop :=
  ∀ row ∈ rows, row.caseId = caseId → row.state.active = true

theorem AtMostOneActive.move (atMostOne : AtMostOneActive rows) (active : ActiveAt rows caseId) :
    AtMostOneActive (rows.map (moved now caseId state)) := by
  have activeBefore : ∀ row ∈ rows, (moved now caseId state row).state.active = true →
      row.state.active = true := by
    intro row member activeAfter
    rw [moved_state] at activeAfter
    split at activeAfter
    · rename_i named
      exact active row member named
    · exact activeAfter
  intro first firstMember second secondMember sameSource firstActive secondActive
  rcases List.mem_map.mp firstMember with ⟨row, rowMember, rfl⟩
  rcases List.mem_map.mp secondMember with ⟨other, otherMember, rfl⟩
  rw [moved_sourceId, moved_sourceId] at sameSource
  rw [atMostOne row rowMember other otherMember sameSource
    (activeBefore row rowMember firstActive) (activeBefore other otherMember secondActive)]

theorem AtMostOneActive.append {row : ScanCase} (atMostOne : AtMostOneActive rows)
    (inactive : ∀ old ∈ rows, old.sourceId = row.sourceId → old.state.active = false) :
    AtMostOneActive (rows ++ [row]) := by
  intro first firstMember second secondMember sameSource firstActive secondActive
  rcases List.mem_append.mp firstMember with firstOld | firstNew <;>
    rcases List.mem_append.mp secondMember with secondOld | secondNew
  · exact atMostOne first firstOld second secondOld sameSource firstActive secondActive
  · obtain rfl := List.mem_singleton.mp secondNew
    rw [inactive first firstOld sameSource] at firstActive
    cases firstActive
  · obtain rfl := List.mem_singleton.mp firstNew
    rw [inactive second secondOld sameSource.symm] at secondActive
    cases secondActive
  · rw [List.mem_singleton.mp firstNew, List.mem_singleton.mp secondNew]

/-- A move into an active state revives what had ended, and does no other harm. -/
theorem terminalKept_move_iff (active : state.active = true) :
    TerminalKept rows (rows.map (moved now caseId state)) ↔ ActiveAt rows caseId := by
  constructor
  · intro kept row member named
    by_contra ended
    rcases kept row member (Bool.eq_false_iff.mpr ended)
      with ⟨after, afterMember, sameCase, sameState⟩
    rcases List.mem_map.mp afterMember with ⟨before, _, rfl⟩
    rw [moved_caseId] at sameCase
    rw [moved_state, if_pos (sameCase.trans named)] at sameState
    exact ended (sameState ▸ active)
  · intro activeAt row member ended
    have notNamed : row.caseId ≠ caseId := by
      intro named
      rw [activeAt row member named] at ended
      cases ended
    exact ⟨_, List.mem_map_of_mem member, moved_caseId row, by rw [moved_state, if_neg notNamed]⟩

end Rows

section Step

variable (interpreter : Interpreter)

def World.caseRows {runtime : Runtime} (world : World runtime) : List ScanCase :=
  world.database.committed.scanCases.rows

/-- If the request writes the state of a case, the case is active before. -/
def MovesActive (world : World interpreter.runtime) (action : Request × Environment) : Prop :=
  ∀ moves ∈ movedCase? interpreter action.2 world.database.committed action.1,
    ActiveAt world.caseRows moves.1

variable {interpreter} {world next : World interpreter.runtime} {action : Request × Environment}

variable {catalog : CaseCatalog interpreter.runtime}

theorem movedCase?_active {environment : Environment} {request : Request} {caseId : String}
    {state : CaseState}
    (moves : movedCase? interpreter environment catalog request = some (caseId, state)) :
    state.active = true := by
  cases request <;> simp only [movedCase?, cond_eq_ite, reduceCtorEq] at moves <;>
    split at moves <;> cases moves <;> rfl

theorem inactive_of_hasActiveCase {sourceId : String}
    (none : hasActiveCase catalog sourceId = false) :
    ∀ old ∈ catalog.scanCases.rows, old.sourceId = sourceId → old.state.active = false := by
  intro old member source
  have missed := List.any_eq_false.mp none old member
  simpa [source] using missed

/-- What one request does to the laws: it keeps ended cases exactly if it moves active ones, and
then it keeps sources from a second active case as well. -/
theorem step_terminalKept_iff (stepped : step interpreter world action = some next) :
    TerminalKept world.caseRows next.caseRows ↔ MovesActive interpreter world action := by
  obtain rfl : (serve interpreter action.1 action.2 world).1 = next := Option.some.inj stepped
  rcases serve_scanCases interpreter action.2 world action.1 with moves | ⟨row, _, still, added⟩
  · unfold World.caseRows MovesActive
    rw [moves]
    cases isMoved : movedCase? interpreter action.2 world.database.committed action.1 with
    | none => simpa [movedRows] using TerminalKept.refl _
    | some target =>
      simp only [Option.mem_def, Option.some.injEq, forall_eq']
      exact terminalKept_move_iff (movedCase?_active isMoved)
  · simp only [World.caseRows, MovesActive, still, added, Option.mem_def, reduceCtorEq,
      false_implies, implies_true, iff_true]
    exact fun row member _ => ⟨row, List.mem_append_left _ member, rfl, rfl⟩

theorem step_atMostOneActive (stepped : step interpreter world action = some next)
    (moves : MovesActive interpreter world action) (atMostOne : AtMostOneActive world.caseRows) :
    AtMostOneActive next.caseRows := by
  obtain rfl : (serve interpreter action.1 action.2 world).1 = next := Option.some.inj stepped
  rcases serve_scanCases interpreter action.2 world action.1 with served | ⟨row, inactive, _, added⟩
  · unfold World.caseRows
    rw [served]
    cases isMoved : movedCase? interpreter action.2 world.database.committed action.1 with
    | none => exact atMostOne
    | some target => exact atMostOne.move (moves target isMoved)
  · unfold World.caseRows
    rw [added]
    exact atMostOne.append (inactive_of_hasActiveCase inactive)

theorem everyState_atMostOneActive {start : World interpreter.runtime}
    {requests : List (Request × Environment)} (initially : AtMostOneActive start.caseRows)
    (every : EveryStep (step interpreter) (MovesActive interpreter) start requests) :
    EveryState (step interpreter) (fun world => AtMostOneActive world.caseRows) start requests := by
  rintro before after rfl state reached
  induction before generalizing start with
  | nil =>
    simp only [runFrom_nil, Option.some.injEq] at reached
    exact reached ▸ initially
  | cons action before ih =>
    rcases runFrom_cons.mp reached with ⟨next, stepped, rest⟩
    exact ih (step_atMostOneActive stepped every.1 initially) (every.2 next stepped) rest

end Step

/-- Both laws hold all along a run exactly when every case that is moved was active. -/
theorem lifecycle_iff_movesActive (interpreter : Interpreter) (start : World interpreter.runtime)
    (requests : List (Request × Environment)) (initially : AtMostOneActive start.caseRows) :
    (EveryState (step interpreter) (fun world => AtMostOneActive world.caseRows) start requests ∧
        EverySegment (step interpreter)
          (fun before after => TerminalKept before.caseRows after.caseRows) start requests) ↔
      EveryStep (step interpreter) (MovesActive interpreter) start requests := by
  have keeps_iff : EverySegment (step interpreter)
      (fun before after => TerminalKept before.caseRows after.caseRows) start requests ↔
      EveryStep (step interpreter) (MovesActive interpreter) start requests := by
    refine Iff.trans (everySegment_iff_everyStep ?refl ?trans) ?steps
    case refl => exact fun world => TerminalKept.refl world.caseRows
    case trans => exact fun _ _ _ before after => before.trans after
    case steps =>
      have preserved : ∀ world action next, True → step interpreter world action = some next →
          True := fun _ _ _ _ _ => trivial
      refine everyStep_congr preserved ?_ trivial
      intro world action _
      constructor
      · intro kept
        exact (step_terminalKept_iff rfl).mp (kept _ rfl)
      · intro moves next stepped
        exact (step_terminalKept_iff stepped).mpr moves
  constructor
  · rintro ⟨_, kept⟩
    exact keeps_iff.mp kept
  · intro every
    exact ⟨everyState_atMostOneActive initially every, keeps_iff.mpr every⟩

/-! ## A case that is revived -/

def sampleCase (caseId : String) (state : CaseState) : ScanCase where
  caseId
  sourceId := "src_usb_1"
  state
  policyJson := "\x7b\x7d"
  createdAt := "2026-01-01T00:00:00Z"
  updatedAt := "2026-01-01T00:00:00Z"

theorem checked_twoCases : ∀ row ∈ [sampleCase "case_1" .completed, sampleCase "case_2" .running],
      (scanCasesSchema sampleInterpreter.runtime).Check row := by
  intro row member
  simp only [List.mem_cons, List.not_mem_nil, or_false] at member
  rcases member with rfl | rfl <;> exact ⟨rfl, by decide, by decide⟩

/-- A finished case and a running one of the same source. -/
def twoCases : Table (scanCasesSchema sampleInterpreter.runtime) where
  rows := [sampleCase "case_1" .completed, sampleCase "case_2" .running]
  checked := checked_twoCases
  apart := by simp [scanCasesSchema, sampleCase]

def worldOfCases (scanCases : Table (scanCasesSchema sampleInterpreter.runtime)) :
    World sampleInterpreter.runtime where
  database := .settled ⟨.empty, scanCases⟩
  confirmations _ := none
  exchanges := []

/-- The daemon answers everything with an empty dictionary. -/
def agreeing : Environment where
  catalogReady := true
  monotonic := 0
  uuidHex := ""
  now _ := .min
  hostd _ := .value (.dict [])

def resumeOf (caseId : String) : Request × Environment := (.resume caseId ⟨1, []⟩, agreeing)

theorem atMostOneActive_twoCases : AtMostOneActive twoCases.rows := by
  unfold AtMostOneActive
  decide

theorem lifecycle_iff_movesActive_resume :
    (EveryState (step sampleInterpreter) (fun world => AtMostOneActive world.caseRows)
          (worldOfCases twoCases) [resumeOf "case_2"] ∧
        EverySegment (step sampleInterpreter)
          (fun before after => TerminalKept before.caseRows after.caseRows)
          (worldOfCases twoCases) [resumeOf "case_2"]) ↔
      EveryStep (step sampleInterpreter) (MovesActive sampleInterpreter)
        (worldOfCases twoCases) [resumeOf "case_2"] :=
  lifecycle_iff_movesActive sampleInterpreter (worldOfCases twoCases) [resumeOf "case_2"]
    atMostOneActive_twoCases

/-- The finished case is running again, next to the other one. -/
theorem finished_case_resumed : ¬∀ (interpreter : Interpreter) (start : World interpreter.runtime)
      (requests : List (Request × Environment)), AtMostOneActive start.caseRows →
      EveryState (step interpreter) (fun world => AtMostOneActive world.caseRows) start requests ∧
        EverySegment (step interpreter)
          (fun before after => TerminalKept before.caseRows after.caseRows) start requests := by
  intro lawful
  have states := (lawful sampleInterpreter (worldOfCases twoCases) [resumeOf "case_1"]
    atMostOneActive_twoCases).1
  have observed : (runFrom (step sampleInterpreter) (worldOfCases twoCases)
      [resumeOf "case_1"]).map (fun world => world.caseRows.map fun row =>
        (row.caseId, row.sourceId, row.state)) =
      some [("case_1", "src_usb_1", .running), ("case_2", "src_usb_1", .running)] := by
    decide
  rcases Option.map_eq_some_iff.mp observed with ⟨world, reached, rows⟩
  have atMostOne : AtMostOneActive world.caseRows := states.last reached
  rcases List.map_eq_cons_iff.mp rows with ⟨first, rest, split, firstIs, restIs⟩
  rcases List.map_eq_singleton_iff.mp restIs with ⟨second, rfl, secondIs⟩
  simp only [Prod.mk.injEq] at firstIs secondIs
  have same : first = second := atMostOne first (by simp [split]) second (by simp [split])
    (firstIs.2.1.trans secondIs.2.1.symm) (by rw [firstIs.2.2]; rfl) (by rw [secondIs.2.2]; rfl)
  rw [same, secondIs.1] at firstIs
  exact absurd firstIs.1 (by decide)

end Reperio.Api
