import Mathlib.Logic.Basic
import Mathlib.Tactic.Basic

/-!
# Programs of atomic queries

A call of a client of some store is a program: it issues one query after the
other, waits for the reply of each, and ends by returning a value or by
raising an error. A query is atomic, a program is not. Between two queries of
one program the store may be changed by anybody else, so a program has no
store of its own: `Program.run` gives its meaning when nobody interferes, and
the interleaved meaning is built on the same tree in
`Reperio.Concurrency.Interleaving`.

The type of a reply depends on the query, so that a continuation never has to
treat a reply which the query cannot give.
-/

namespace Reperio.Concurrency

/-- The queries a call issues, with a continuation for every reply. -/
inductive Program (Query : Type) (Reply : Query → Type) (Error α : Type) : Type where
  | done (result : α)
  | raise (error : Error)
  | execute (query : Query) (next : Reply query → Program Query Reply Error α)

namespace Program

variable {Query : Type} {Reply : Query → Type} {Error α β State : Type}

/-- Sequential composition: an error ends the whole program. -/
def bind : Program Query Reply Error α → (α → Program Query Reply Error β) →
    Program Query Reply Error β
  | .done result, rest => rest result
  | .raise error, _ => .raise error
  | .execute query next, rest => .execute query fun reply => (next reply).bind rest

/-- Exception handling: the handler takes over at the point where the error is raised, and what
the program did to the store before it stays done. -/
def handle (handler : Error → Program Query Reply Error α) :
    Program Query Reply Error α → Program Query Reply Error α
  | .done result => .done result
  | .raise error => handler error
  | .execute query next => .execute query fun reply => (next reply).handle handler

instance : Monad (Program Query Reply Error) where
  pure := .done
  bind := bind

instance : MonadExceptOf Error (Program Query Reply Error) where
  throw := .raise
  tryCatch program handler := program.handle handler

/-- Issue one query and return its reply. -/
def query (query : Query) : Program Query Reply Error (Reply query) := .execute query .done

/-- Continue with the value of a computation that needs no store. -/
def ofExcept : Except Error α → Program Query Reply Error α
  | .ok result => .done result
  | .error error => .raise error

/-- The value with which the program has ended. -/
def value? : Program Query Reply Error α → Option α
  | .done result => some result
  | _ => none

theorem eq_done_of_value? {program : Program Query Reply Error α} {result : α}
    (ended : program.value? = some result) : program = .done result := by
  cases program with
  | done other => exact congrArg _ (Option.some.inj ended)
  | raise error => cases ended
  | execute query next => cases ended

@[simp]
theorem pure_eq (result : α) : (pure result : Program Query Reply Error α) = .done result := rfl

@[simp]
theorem throw_eq (error : Error) : (throw error : Program Query Reply Error α) = .raise error := rfl

@[simp]
theorem done_bind (result : α) (rest : α → Program Query Reply Error β) :
    (Program.done result >>= rest) = rest result := rfl

@[simp]
theorem raise_bind (error : Error) (rest : α → Program Query Reply Error β) :
    ((Program.raise error : Program Query Reply Error α) >>= rest) = .raise error := rfl

@[simp]
theorem execute_bind (query : Query) (next : Reply query → Program Query Reply Error α)
    (rest : α → Program Query Reply Error β) :
    (Program.execute query next >>= rest) = .execute query fun reply => next reply >>= rest := rfl

variable {rest : α → Program Query Reply Error β}

section Run

variable (perform : (query : Query) → State → State × Reply query)

/-- The meaning of a program that nobody interferes with. -/
def run : Program Query Reply Error α → State → State × Except Error α
  | .done result, state => (state, .ok result)
  | .raise error, state => (state, .error error)
  | .execute query next, state =>
    match perform query state with
    | (after, reply) => (next reply).run after

@[simp]
theorem run_done (result : α) (state : State) :
    (.done result : Program Query Reply Error α).run perform state = (state, .ok result) := rfl

@[simp]
theorem run_raise (error : Error) (state : State) :
    (.raise error : Program Query Reply Error α).run perform state = (state, .error error) := rfl

@[simp]
theorem run_execute (query : Query) (next : Reply query → Program Query Reply Error α)
    (state : State) :
    (Program.execute query next).run perform state =
      (next (perform query state).2).run perform (perform query state).1 := rfl

theorem run_bind (program : Program Query Reply Error α)
    (rest : α → Program Query Reply Error β) (state : State) :
    (program >>= rest).run perform state = match program.run perform state with
      | (after, .ok result) => (rest result).run perform after
      | (after, .error error) => (after, .error error) := by
  induction program generalizing state with
  | done result => rfl
  | raise error => rfl
  | execute query next ih => exact ih _ _

/-- A composition returns when both of its parts do. -/
theorem run_bind_eq_ok {program : Program Query Reply Error α} {before after : State} {value : β} :
    (program >>= rest).run perform before = (after, .ok value) ↔
      ∃ middle result, program.run perform before = (middle, .ok result) ∧
        (rest result).run perform middle = (after, .ok value) := by
  rw [run_bind]
  rcases program.run perform before with ⟨middle, _ | result⟩
  · constructor
    · intro raised
      cases raised
    · rintro ⟨_, _, returned, _⟩
      cases returned
  · constructor
    · exact fun ran => ⟨middle, result, rfl, ran⟩
    · rintro ⟨_, _, returned, ran⟩
      cases returned
      exact ran

theorem run_handle (handler : Error → Program Query Reply Error α)
    (program : Program Query Reply Error α) (state : State) :
    (program.handle handler).run perform state = match program.run perform state with
      | (after, .ok result) => (after, .ok result)
      | (after, .error error) => (handler error).run perform after := by
  induction program generalizing state with
  | done result => rfl
  | raise error => rfl
  | execute query next ih => exact ih _ _

theorem run_query_bind (query : Query) (rest : Reply query → Program Query Reply Error α)
    (state : State) :
    (Program.query query >>= rest).run perform state =
      (rest (perform query state).2).run perform (perform query state).1 := rfl

theorem run_ofExcept (value : Except Error α) (state : State) :
    (Program.ofExcept value : Program Query Reply Error α).run perform state = (state, value) := by
  cases value with
  | ok result => rfl
  | error error => rfl

theorem run_ofExcept_bind (value : Except Error α) (rest : α → Program Query Reply Error β)
    (state : State) :
    (Program.ofExcept value >>= rest).run perform state = match value with
      | .ok result => (rest result).run perform state
      | .error error => (state, .error error) := by
  cases value with
  | ok result => rfl
  | error error => rfl

end Run

/-- Every query the program can issue, whatever the replies, is among the allowed ones. -/
def Issues (allowed : Query → Prop) : Program Query Reply Error α → Prop
  | .done _ => True
  | .raise _ => True
  | .execute query next => allowed query ∧ ∀ reply, (next reply).Issues allowed

section Issues

variable {allowed : Query → Prop}

@[simp]
theorem issues_done (result : α) :
    (.done result : Program Query Reply Error α).Issues allowed := trivial

@[simp]
theorem issues_raise (error : Error) :
    (.raise error : Program Query Reply Error α).Issues allowed := trivial

theorem Issues.of_forall (program : Program Query Reply Error α)
    (all : ∀ query, allowed query) : program.Issues allowed := by
  induction program with
  | done result => trivial
  | raise error => trivial
  | execute query next ih => exact ⟨all query, ih⟩

theorem Issues.mono {wider : Query → Prop} {program : Program Query Reply Error α}
    (issues : program.Issues allowed) (implies : ∀ query, allowed query → wider query) :
    program.Issues wider := by
  induction program with
  | done result => trivial
  | raise error => trivial
  | execute query next ih =>
    exact ⟨implies query issues.1, fun reply => ih reply (issues.2 reply)⟩

theorem Issues.bind {program : Program Query Reply Error α}
    {rest : α → Program Query Reply Error β} (issues : program.Issues allowed)
    (restIssues : ∀ result, (rest result).Issues allowed) :
    (program >>= rest).Issues allowed := by
  induction program with
  | done result => exact restIssues result
  | raise error => trivial
  | execute query next ih => exact ⟨issues.1, fun reply => ih reply (issues.2 reply)⟩

theorem Issues.handle {program : Program Query Reply Error α}
    {handler : Error → Program Query Reply Error α} (issues : program.Issues allowed)
    (handlerIssues : ∀ error, (handler error).Issues allowed) :
    (program.handle handler).Issues allowed := by
  induction program with
  | done result => trivial
  | raise error => exact handlerIssues error
  | execute query next ih => exact ⟨issues.1, fun reply => ih reply (issues.2 reply)⟩

@[simp]
theorem issues_query_bind {query : Query} {rest : Reply query → Program Query Reply Error α} :
    (Program.query query >>= rest).Issues allowed ↔
      allowed query ∧ ∀ reply, (rest reply).Issues allowed := Iff.rfl

@[simp]
theorem issues_ofExcept_bind {value : Except Error α} :
    (Program.ofExcept value >>= rest).Issues allowed ↔
      ∀ result, value = .ok result → (rest result).Issues allowed := by
  cases value with
  | ok result =>
    simp only [Program.ofExcept, done_bind, Except.ok.injEq, forall_eq']
  | error error =>
    simp only [Program.ofExcept, raise_bind, issues_raise, reduceCtorEq, false_implies,
      implies_true]

/-- What every allowed query keeps, a run of the program keeps. -/
theorem Issues.run_preserves {perform : (query : Query) → State → State × Reply query}
    {invariant : State → Prop}
    (preserved : ∀ query state, allowed query → invariant state → invariant (perform query state).1)
    {program : Program Query Reply Error α} (issues : program.Issues allowed) {state : State}
    (holds : invariant state) : invariant (program.run perform state).1 := by
  induction program generalizing state with
  | done result => exact holds
  | raise error => exact holds
  | execute query next ih =>
    exact ih _ (issues.2 _) (preserved query state issues.1 holds)

end Issues

end Program

end Reperio.Concurrency
