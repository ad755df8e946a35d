import Mathlib.Data.Nat.Notation
import Reperio.Concurrency.Program

/-!
# Programs whose queries fail

Every query of a fallible program replies with a value or with an error, and
one that replies with an error leaves the store as it was. Besides the errors
that the store itself gives, a plan can make any query fail. `Observed` keeps,
next to the store, the queries that succeeded: where nothing is rolled back,
the store is what these queries made of it (`run_faulty`).
-/

namespace Reperio.Concurrency

variable {Query State Error Raised α : Type} {Result : Query → Type}

/-- The store, the number of queries that were issued and those that succeeded. -/
structure Observed (Query State : Type) where
  state : State
  count : ℕ
  log : List Query

/-- Some query has failed. -/
def Observed.Failed (observed : Observed Query State) : Prop := observed.log.length < observed.count

/-- The query with this number fails if the plan says so. -/
def faulty (plan : ℕ → Option Error)
    (perform : (query : Query) → State → State × Except Error (Result query)) (query : Query)
    (observed : Observed Query State) : Observed Query State × Except Error (Result query) :=
  match plan observed.count with
  | some error => ({ observed with count := observed.count + 1 }, .error error)
  | none =>
    match perform query observed.state with
    | (state, .ok result) => (⟨state, observed.count + 1, observed.log ++ [query]⟩, .ok result)
    | (state, .error error) => ({ observed with state, count := observed.count + 1 }, .error error)

/-- The queries succeed one after the other, and lead from one store to the other. -/
inductive Succeed (perform : (query : Query) → State → State × Except Error (Result query))
    (start : State) : List Query → State → Prop
  | nil : Succeed perform start [] start
  | snoc {queries : List Query} {state next : State} {query : Query} {result : Result query}
      (before : Succeed perform start queries state)
      (succeeds : perform query state = (next, .ok result)) :
      Succeed perform start (queries ++ [query]) next

variable {plan : ℕ → Option Error} {observed : Observed Query State}

/-- Along a run under any plan the store is what the queries that succeeded have made of it. -/
theorem succeed_of_run {perform : (query : Query) → State → State × Except Error (Result query)}
    (atomic : ∀ query state next error, perform query state = (next, .error error) → next = state)
    (program : Program Query (fun query => Except Error (Result query)) Raised α) {start : State}
    (before : Succeed perform start observed.log observed.state) :
    Succeed perform start (program.run (faulty plan perform) observed).1.log
      (program.run (faulty plan perform) observed).1.state := by
  induction program generalizing observed with
  | done result => exact before
  | raise error => exact before
  | execute query next ih =>
    refine ih _ ?_
    cases plan observed.count with
    | some error => exact before
    | none =>
      rcases performed : perform query observed.state with ⟨state, result | result⟩
      · dsimp only
        rw [atomic query observed.state state result performed]
        exact before
      · exact before.snoc performed

theorem faulty_cases (plan : ℕ → Option Error)
    (perform : (query : Query) → State → State × Except Error (Result query)) (query : Query)
    (observed : Observed Query State) :
    (∃ state error, faulty plan perform query observed =
        (⟨state, observed.count + 1, observed.log⟩, .error error)) ∨
      ∃ state result, perform query observed.state = (state, .ok result) ∧
        faulty plan perform query observed =
          (⟨state, observed.count + 1, observed.log ++ [query]⟩, .ok result) := by
  unfold faulty
  cases plan observed.count with
  | some error => exact Or.inl ⟨observed.state, error, rfl⟩
  | none =>
    rcases perform query observed.state with ⟨state, error | result⟩
    · exact Or.inl ⟨state, error, rfl⟩
    · exact Or.inr ⟨state, result, rfl, rfl⟩

/-- Along a run the log grows by queries of the program, and the count at least as fast. -/
theorem log_of_run {perform : (query : Query) → State → State × Except Error (Result query)}
    {allowed : Query → Prop}
    {program : Program Query (fun query => Except Error (Result query)) Raised α}
    (issues : program.Issues allowed) (observed : Observed Query State) :
    ∃ more, (program.run (faulty plan perform) observed).1.log = observed.log ++ more ∧
      (∀ query ∈ more, allowed query) ∧
      observed.count + more.length ≤ (program.run (faulty plan perform) observed).1.count := by
  have grows : ∀ query (after : Observed Query State), allowed query →
      (∃ more, after.log = observed.log ++ more ∧ (∀ query ∈ more, allowed query) ∧
        observed.count + more.length ≤ after.count) →
      ∃ more, (faulty plan perform query after).1.log = observed.log ++ more ∧
        (∀ query ∈ more, allowed query) ∧
        observed.count + more.length ≤ (faulty plan perform query after).1.count := by
    rintro query after isAllowed ⟨more, log, everyAllowed, count⟩
    rcases faulty_cases plan perform query after with
      ⟨state, error, failed⟩ | ⟨state, result, _, succeeded⟩
    · rw [failed]
      exact ⟨more, log, everyAllowed, by dsimp only; omega⟩
    · rw [succeeded]
      refine ⟨more ++ [query], by rw [log, List.append_assoc], ?_, ?_⟩
      · intro other member
        rcases List.mem_append.mp member with isOld | isNew
        · exact everyAllowed other isOld
        · exact List.mem_singleton.mp isNew ▸ isAllowed
      · rw [List.length_append, List.length_singleton]
        dsimp only
        omega
  exact issues.run_preserves grows ⟨[], by simp⟩

/-- A run that fails at the query it issues first has added nothing to the log. -/
theorem log_eq_of_failed {perform : (query : Query) → State → State × Except Error (Result query)}
    (program : Program Query (fun query => Except Error (Result query)) Raised α)
    (complete : observed.log.length = observed.count)
    (failed : (program.run (faulty plan perform) observed).1.Failed)
    (count : (program.run (faulty plan perform) observed).1.count ≤ observed.count + 1) :
    (program.run (faulty plan perform) observed).1.log = observed.log := by
  rcases log_of_run (.of_forall program fun _ => trivial) observed with ⟨more, log, _, atLeast⟩
  rw [Observed.Failed, log, List.length_append] at failed
  obtain rfl : more = [] := List.length_eq_zero_iff.mp (by omega)
  rw [log, List.append_nil]

/-- The program issues the queries of the script in their order, until it ends or one of them
fails. -/
def Program.Follows : Program Query (fun query => Except Error (Result query)) Raised α →
    List Query → Prop
  | .done _, _ => True
  | .raise _, _ => True
  | .execute query next, script =>
    ∃ rest, script = query :: rest ∧ (∀ result, (next (.ok result)).Follows rest) ∧
      ∀ error, ∃ raised, next (.error error) = .raise raised

theorem Program.Follows.bind_done {β : Type} {script : List Query} {result : α → β}
    {program : Program Query (fun query => Except Error (Result query)) Raised α}
    (follows : program.Follows script) :
    (program >>= fun value => .done (result value)).Follows script := by
  induction program generalizing script with
  | done value => trivial
  | raise error => trivial
  | execute query next ih =>
    rcases follows with ⟨rest, isScript, later, stops⟩
    refine ⟨rest, isScript, fun value => ih _ (later value), fun error => ?_⟩
    rcases stops error with ⟨raised, isRaise⟩
    exact ⟨raised, by dsimp only; rw [isRaise]; rfl⟩

/-- Where a query fails, those before it are a beginning of the script. -/
theorem log_of_follows {perform : (query : Query) → State → State × Except Error (Result query)}
    {program : Program Query (fun query => Except Error (Result query)) Raised α}
    {script : List Query} (follows : program.Follows script)
    (complete : observed.log.length = observed.count)
    {last : Observed Query State}
    (ran : (program.run (faulty plan perform) observed).1 = last) (failed : last.Failed) :
    ∃ before, last.count = observed.count + before + 1 ∧
      last.log = observed.log ++ script.take before := by
  induction program generalizing script observed with
  | done result =>
    subst ran
    exact absurd complete (Nat.ne_of_lt failed)
  | raise error =>
    subst ran
    exact absurd complete (Nat.ne_of_lt failed)
  | execute query next ih =>
    rcases follows with ⟨rest, rfl, later, stops⟩
    rw [Program.run_execute] at ran
    rcases faulty_cases plan perform query observed with
      ⟨state, error, stopped⟩ | ⟨state, result, _, succeeded⟩
    · rcases stops error with ⟨raised, isRaise⟩
      rw [stopped] at ran
      dsimp only at ran
      rw [isRaise, Program.run_raise] at ran
      subst ran
      exact ⟨0, rfl, (List.append_nil _).symm⟩
    · rw [succeeded] at ran
      rcases ih _ (later result) (by simp [complete]) ran with ⟨before, count, log⟩
      refine ⟨before + 1, by rw [count]; dsimp only; omega, ?_⟩
      rw [log, List.take_succ_cons, List.append_assoc]
      rfl

end Reperio.Concurrency
