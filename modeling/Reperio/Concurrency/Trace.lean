import Reperio.Concurrency.Program
import Reperio.Concurrency.Transition

/-!
# Traces of programs

The queries that a run of a program issues, each with the store that it finds.
A fact about every query of a program is one about every event of its traces,
and a condition that implies another one does so along whole runs of a system.
-/

namespace Reperio.Concurrency

namespace Program

variable {Query : Type} {Reply : Query → Type} {Error α State : Type}

section Trace

variable (perform : (query : Query) → State → State × Reply query)

/-- What the program asks when nobody interferes, and the stores before each query. -/
def trace : Program Query Reply Error α → State → List (State × Query)
  | .done _, _ => []
  | .raise _, _ => []
  | .execute query next, state =>
    (state, query) ::
      match perform query state with
      | (after, reply) => (next reply).trace after

@[simp]
theorem trace_execute (query : Query) (next : Reply query → Program Query Reply Error α)
    (state : State) :
    (Program.execute query next).trace perform state = (state, query) ::
        (next (perform query state).2).trace perform (perform query state).1 := rfl

end Trace

/-- A run issues nothing that the program cannot issue. -/
theorem Issues.trace {allowed : Query → Prop} {program : Program Query Reply Error α}
    (issues : program.Issues allowed) (perform : (query : Query) → State → State × Reply query)
    (state : State) : ∀ event ∈ program.trace perform state, allowed event.2 := by
  induction program generalizing state with
  | done result => exact fun event member => absurd member List.not_mem_nil
  | raise error => exact fun event member => absurd member List.not_mem_nil
  | execute query next ih =>
    intro event member
    rcases List.mem_cons.mp member with rfl | later
    · exact issues.1
    · exact ih _ (issues.2 _) _ event later

/-- What a run has altered, one of its queries has altered. -/
theorem exists_event_of_run_ne {Value : Type}
    (perform : (query : Query) → State → State × Reply query) (view : State → Value)
    {program : Program Query Reply Error α} {state : State}
    (altered : view (program.run perform state).1 ≠ view state) :
    ∃ event ∈ program.trace perform state, view (perform event.2 event.1).1 ≠ view event.1 := by
  induction program generalizing state with
  | done result => exact absurd rfl altered
  | raise error => exact absurd rfl altered
  | execute query next ih =>
    by_cases same : view (perform query state).1 = view state
    · rw [run_execute, ← same] at altered
      rcases ih _ altered with ⟨event, member, alters⟩
      exact ⟨event, List.mem_cons_of_mem _ member, alters⟩
    · exact ⟨(state, query), List.mem_cons_self, same⟩

end Program

/-- Steps that meet a condition meet those that it implies. -/
theorem EveryStep.mono {State Action : Type*} {step : State → Action → Option State}
    {condition weaker : State → Action → Prop} {start : State} {actions : List Action}
    (every : EveryStep step condition start actions)
    (implies : ∀ state action, condition state action → weaker state action) :
    EveryStep step weaker start actions := by
  induction actions generalizing start with
  | nil => trivial
  | cons action actions ih =>
    exact ⟨implies start action every.1, fun next stepped => ih (every.2 next stepped)⟩

end Reperio.Concurrency
