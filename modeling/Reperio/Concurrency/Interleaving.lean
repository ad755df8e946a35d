import Mathlib.Logic.Function.Basic
import Reperio.Concurrency.Program
import Reperio.Concurrency.Transition

/-!
# Interleaved calls on a shared store

A service answers calls by running programs of atomic queries against one
store. Each connection has at most one call in progress; a scheduler picks,
one action at a time, either a connection that starts its next call or one
that issues the next query of its call. Every interleaving of the queries of
any number of calls is the run of some list of actions.

A thread remembers what its own queries did to the store. This is ghost state:
no program reads it, but it lets a result speak of what one call changed while
others were at work.
-/

namespace Reperio.Concurrency

/-- Calls, the programs that answer them, and what a single query does to the store. -/
structure Service where
  Call : Type
  Query : Type
  Error : Type
  State : Type
  Reply : Query → Type
  Result : Call → Type
  program : (call : Call) → Program Query Reply Error (Result call)
  perform : (query : Query) → State → State × Reply query

namespace Service

variable (S : Service)

/-- A call in progress: the effect of each query so far, newest first, and what is left to do. -/
structure Thread where
  call : S.Call
  history : List (S.State × S.State)
  rest : Program S.Query S.Reply S.Error (S.Result call)

/-- A shared state and the call that each connection is in. -/
structure System (Conn : Type) where
  state : S.State
  threads : Conn → Option S.Thread

/-- No call is in progress on any connection. -/
def idle (Conn : Type) (state : S.State) : S.System Conn := ⟨state, fun _ => none⟩

/-- A connection starts a call or takes the next step of it. -/
inductive Action (Conn : Type) where
  | start (conn : Conn) (call : S.Call)
  | advance (conn : Conn)

/-- The calls of one client in a row, each run to its end before the next one starts. -/
def serial (state : S.State) (call : S.Call) : Option S.State :=
  match (S.program call).run S.perform state with
  | (next, .ok _) => some next
  | (_, .error _) => none

variable {S} in
theorem serial_eq_some {state next : S.State} {call : S.Call} : S.serial state call = some next ↔
      ∃ result, (S.program call).run S.perform state = (next, .ok result) := by
  simp only [serial]
  rcases (S.program call).run S.perform state with ⟨after, result⟩
  cases result with
  | ok result => simp
  | error error => simp

variable {S} {Conn : Type} [DecidableEq Conn]

/-- A connection starts a call when it has none in progress, and issues one query otherwise. -/
def step (system : S.System Conn) : S.Action Conn → Option (S.System Conn)
  | .start conn call =>
    match system.threads conn with
    | some ⟨_, _, .execute _ _⟩ => none
    | _ => some
        { system with
          threads := Function.update system.threads conn (some ⟨call, [], S.program call⟩) }
  | .advance conn =>
    match system.threads conn with
    | some ⟨call, history, .execute query next⟩ =>
      match S.perform query system.state with
      | (state, reply) => some
          { state
            threads := Function.update system.threads conn
              (some ⟨call, (system.state, state) :: history, next reply⟩) }
    | _ => none

/-- The connection is about to issue this query for this call. -/
def System.Pending (system : S.System Conn) (conn : Conn) (call : S.Call)
    (query : S.Query) : Prop :=
  ∃ history next, system.threads conn = some ⟨call, history, .execute query next⟩

variable {action : S.Action Conn}

/-- Everything one action can do. -/
theorem step_cases {system next : S.System Conn} (stepped : step system action = some next) :
    (∃ conn call, action = .start conn call ∧ next.state = system.state ∧
      next.threads = Function.update system.threads conn (some ⟨call, [], S.program call⟩)) ∨
    (∃ conn call history query rest, action = .advance conn ∧
      system.threads conn = some ⟨call, history, .execute query rest⟩ ∧
      next.state = (S.perform query system.state).1 ∧
      next.threads = Function.update system.threads conn
        (some ⟨call, (system.state, (S.perform query system.state).1) :: history,
          rest (S.perform query system.state).2⟩)) := by
  cases action with
  | start conn call =>
    left
    refine ⟨conn, call, rfl, ?_⟩
    simp only [step] at stepped
    split at stepped
    · cases stepped
    · cases stepped
      exact ⟨rfl, rfl⟩
  | advance conn =>
    right
    simp only [step] at stepped
    split at stepped
    · rename_i call history query rest found
      cases stepped
      exact ⟨conn, call, history, query, rest, rfl, found, rfl, rfl⟩
    · cases stepped

/-- The state after a connection issued its pending query. -/
theorem step_advance_of_pending {system next : S.System Conn} {conn : Conn} {call : S.Call}
    {query : S.Query} (pending : system.Pending conn call query)
    (stepped : step system (.advance conn) = some next) :
    next.state = (S.perform query system.state).1 := by
  rcases pending with ⟨history, rest, found⟩
  simp only [step, found, Option.some.injEq] at stepped
  rw [← stepped]

theorem exists_step_of_pending {system : S.System Conn} {conn : Conn} {call : S.Call}
    {query : S.Query} (pending : system.Pending conn call query) :
    ∃ next, step system (.advance conn) = some next := by
  rcases pending with ⟨history, rest, found⟩
  simp [step, found]

/-- A property of the store and a call in progress, kept by the queries of this call and of the
others, holds of every call in progress. -/
theorem forall_threads_step (holds : S.State → S.Thread → Prop) {system next : S.System Conn}
    (starts : ∀ conn call, action = .start conn call →
      holds system.state ⟨call, [], S.program call⟩)
    (advances : ∀ call history query rest, holds system.state ⟨call, history, .execute query rest⟩ →
      holds (S.perform query system.state).1
        ⟨call, (system.state, (S.perform query system.state).1) :: history,
          rest (S.perform query system.state).2⟩)
    (stays : ∀ call history query rest thread,
      holds system.state ⟨call, history, .execute query rest⟩ → holds system.state thread →
      holds (S.perform query system.state).1 thread)
    (every : ∀ conn thread, system.threads conn = some thread → holds system.state thread)
    (stepped : step system action = some next) (conn : Conn) (thread : S.Thread)
    (found : next.threads conn = some thread) : holds next.state thread := by
  rcases step_cases stepped with ⟨active, call, isStart, state, threads⟩ |
    ⟨active, call, history, query, rest, _, running, state, threads⟩
  · rw [state]
    rw [threads] at found
    rcases eq_or_ne conn active with rfl | different
    · simp only [Function.update_self, Option.some.injEq] at found
      subst found
      exact starts conn call isStart
    · rw [Function.update_of_ne different] at found
      exact every conn thread found
  · rw [state]
    rw [threads] at found
    rcases eq_or_ne conn active with rfl | different
    · simp only [Function.update_self, Option.some.injEq] at found
      subst found
      exact advances call history query rest (every conn _ running)
    · rw [Function.update_of_ne different] at found
      exact stays call history query rest thread (every active _ running) (every conn thread found)

/-- Every call in progress is left with queries that its program may issue. -/
def System.Follows (allowed : S.Call → S.Query → Prop) (system : S.System Conn) : Prop :=
  ∀ conn thread, system.threads conn = some thread → thread.rest.Issues (allowed thread.call)

omit [DecidableEq Conn] in
theorem follows_idle (allowed : S.Call → S.Query → Prop) (state : S.State) :
    (S.idle Conn state).Follows allowed := by
  intro conn thread found
  simp [idle] at found

theorem System.Follows.step {allowed : S.Call → S.Query → Prop}
    (issues : ∀ call, (S.program call).Issues (allowed call))
    {system next : S.System Conn} {action : S.Action Conn} (follows : system.Follows allowed)
    (stepped : Service.step system action = some next) : next.Follows allowed :=
  forall_threads_step (fun _ thread => thread.rest.Issues (allowed thread.call))
    (fun _ call _ => issues call) (fun _ _ _ _ follows => follows.2 _)
    (fun _ _ _ _ _ _ follows => follows) follows stepped

omit [DecidableEq Conn] in
theorem System.Follows.pending {allowed : S.Call → S.Query → Prop} {system : S.System Conn}
    (follows : system.Follows allowed) {conn : Conn} {call : S.Call} {query : S.Query}
    (pending : system.Pending conn call query) : allowed call query := by
  rcases pending with ⟨history, rest, found⟩
  exact (follows conn _ found).1

/-- What one action does to the store: nothing, or one allowed query of a call in progress. -/
theorem System.Follows.state_cases {allowed : S.Call → S.Query → Prop} {system next : S.System Conn}
    (follows : system.Follows allowed) (stepped : Service.step system action = some next) :
    next.state = system.state ∨
      ∃ conn call query, action = .advance conn ∧ system.Pending conn call query ∧
        allowed call query ∧ next.state = (S.perform query system.state).1 := by
  rcases step_cases stepped with ⟨_, _, _, same, _⟩ |
    ⟨conn, call, history, query, rest, isAdvance, running, state, _⟩
  · exact Or.inl same
  · have pending : system.Pending conn call query := ⟨history, rest, running⟩
    exact Or.inr ⟨conn, call, query, isAdvance, pending, follows.pending pending, state⟩

/-!
## Rely and guarantee

`Ensures` is the proof obligation of a single call among others: whatever the
others do within `rely` between two of its queries, it ends with its
postcondition. A call that keeps `rely` itself may then run beside any others
that do.
-/

section Ensures

variable (S) in
/-- Under interference within `rely`, the program ends with the postcondition. -/
def Ensures {α : Type} (rely : S.State → S.State → Prop)
    (post : List (S.State × S.State) → Except S.Error α → S.State → Prop) :
    Program S.Query S.Reply S.Error α → List (S.State × S.State) → S.State → Prop
  | .done result, history, state =>
    ∀ later, rely state later → post history (.ok result) later
  | .raise error, history, state =>
    ∀ later, rely state later → post history (.error error) later
  | .execute query next, history, state =>
    ∀ later, rely state later → Ensures rely post (next (S.perform query later).2)
        ((later, (S.perform query later).1) :: history) (S.perform query later).1

variable {α : Type} {rely : S.State → S.State → Prop}
  {post : List (S.State × S.State) → Except S.Error α → S.State → Prop}

theorem Ensures.interfere (trans : ∀ first second third, rely first second →
      rely second third → rely first third)
    {program : Program S.Query S.Reply S.Error α} {history : List (S.State × S.State)}
    {state later : S.State} (ensures : S.Ensures rely post program history state)
    (moved : rely state later) : S.Ensures rely post program history later := by
  cases program with
  | done result => exact fun last more => ensures last (trans _ _ _ moved more)
  | raise error => exact fun last more => ensures last (trans _ _ _ moved more)
  | execute query next => exact fun last more => ensures last (trans _ _ _ moved more)

theorem ensures_of_forall (always : ∀ history result state, post history result state)
    (program : Program S.Query S.Reply S.Error α) (history : List (S.State × S.State))
    (state : S.State) : S.Ensures rely post program history state := by
  induction program generalizing history state with
  | done result => exact fun later _ => always _ _ later
  | raise error => exact fun later _ => always _ _ later
  | execute query next ih => exact fun later _ => ih _ _ _

/-- Every call in progress will end with the postcondition of its call. -/
def System.Ensuring (rely : S.State → S.State → Prop)
    (post : (call : S.Call) → List (S.State × S.State) →
      Except S.Error (S.Result call) → S.State → Prop)
    (system : S.System Conn) : Prop :=
  ∀ conn thread, system.threads conn = some thread →
    S.Ensures rely (post thread.call) thread.rest thread.history system.state

theorem System.Ensuring.step
    {post : (call : S.Call) → List (S.State × S.State) →
      Except S.Error (S.Result call) → S.State → Prop}
    (refl : ∀ state, rely state state)
    (trans : ∀ first second third, rely first second → rely second third → rely first third)
    (guarantee : ∀ query state, rely state (S.perform query state).1)
    {system next : S.System Conn} {action : S.Action Conn}
    (starts : ∀ call, S.Ensures rely (post call) (S.program call) [] system.state)
    (ensuring : system.Ensuring rely post)
    (stepped : Service.step system action = some next) : next.Ensuring rely post :=
  forall_threads_step
    (fun state thread => S.Ensures rely (post thread.call) thread.rest thread.history state)
    (fun _ call _ => starts call)
    (fun _ _ _ _ ensures => ensures system.state (refl _))
    (fun _ _ query _ _ _ ensures => ensures.interfere trans (guarantee query system.state))
    ensuring stepped

end Ensures

/-!
## Guarded queries

`Guarded` is the obligation for an invariant of the store that not every query
keeps: whatever the others do within `rely`, a call issues each query in a
store where the guard of that query holds.
-/

section Guarded

variable (S) in
/-- Under interference within `rely`, every query is issued where its guard holds. -/
def Guarded {α : Type} (rely : S.State → S.State → Prop) (guard : S.Query → S.State → Prop) :
    Program S.Query S.Reply S.Error α → S.State → Prop
  | .done _, _ => True
  | .raise _, _ => True
  | .execute query next, state =>
    ∀ later, rely state later → guard query later ∧
        Guarded rely guard (next (S.perform query later).2) (S.perform query later).1

variable {α β : Type} {rely : S.State → S.State → Prop} {guard : S.Query → S.State → Prop}

theorem guarded_of_issues {allowed : S.Query → Prop}
    (always : ∀ query state, allowed query → guard query state)
    {program : Program S.Query S.Reply S.Error α} (issues : program.Issues allowed)
    (state : S.State) : S.Guarded rely guard program state := by
  induction program generalizing state with
  | done result => trivial
  | raise error => trivial
  | execute query next ih =>
    exact fun later _ => ⟨always query later issues.1, ih _ (issues.2 _) _⟩

theorem Guarded.bind {program : Program S.Query S.Reply S.Error α}
    {rest : α → Program S.Query S.Reply S.Error β} {state : S.State}
    (guarded : S.Guarded rely guard program state)
    (restGuarded : ∀ result later, S.Guarded rely guard (rest result) later) :
    S.Guarded rely guard (program >>= rest) state := by
  induction program generalizing state with
  | done result => exact restGuarded result state
  | raise error => trivial
  | execute query next ih =>
    exact fun later moved => ⟨(guarded later moved).1, ih _ (guarded later moved).2⟩

theorem guarded_ofExcept_bind {value : Except S.Error α}
    {rest : α → Program S.Query S.Reply S.Error β} {state : S.State}
    (restGuarded : ∀ result, value = .ok result → S.Guarded rely guard (rest result) state) :
    S.Guarded rely guard (Program.ofExcept value >>= rest) state := by
  cases value with
  | ok result => exact restGuarded result rfl
  | error error => trivial

theorem Guarded.interfere (trans : ∀ first second third, rely first second →
      rely second third → rely first third)
    {program : Program S.Query S.Reply S.Error α} {state later : S.State}
    (guarded : S.Guarded rely guard program state) (moved : rely state later) :
    S.Guarded rely guard program later := by
  cases program with
  | done result => trivial
  | raise error => trivial
  | execute query next => exact fun last more => guarded last (trans _ _ _ moved more)

def System.Guarded (rely : S.State → S.State → Prop) (guard : S.Query → S.State → Prop)
    (system : S.System Conn) : Prop :=
  ∀ conn thread, system.threads conn = some thread → S.Guarded rely guard thread.rest system.state

omit [DecidableEq Conn] in
theorem guarded_idle (state : S.State) : (S.idle Conn state).Guarded rely guard := by
  intro conn thread found
  simp [idle] at found

/-- What one action does to the store: nothing, or one query whose guard holds. -/
theorem System.Guarded.state_cases (refl : ∀ state, rely state state)
    {system next : S.System Conn} {action : S.Action Conn} (guarded : system.Guarded rely guard)
    (stepped : Service.step system action = some next) :
    next.state = system.state ∨
      ∃ query, guard query system.state ∧ next.state = (S.perform query system.state).1 := by
  rcases step_cases stepped with ⟨_, _, _, same, _⟩ |
    ⟨conn, call, history, query, rest, _, running, state, _⟩
  · exact Or.inl same
  · exact Or.inr ⟨query, (guarded conn _ running system.state (refl _)).1, state⟩

theorem System.Guarded.step (refl : ∀ state, rely state state)
    (trans : ∀ first second third, rely first second → rely second third → rely first third)
    (guarantee : ∀ query state, guard query state → rely state (S.perform query state).1)
    {system next : S.System Conn} {action : S.Action Conn}
    (starts : ∀ conn call, action = .start conn call →
      S.Guarded rely guard (S.program call) system.state)
    (guarded : system.Guarded rely guard)
    (stepped : Service.step system action = some next) : next.Guarded rely guard :=
  forall_threads_step (fun state thread => S.Guarded rely guard thread.rest state) starts
    (fun _ _ _ _ issued => (issued system.state (refl _)).2)
    (fun _ _ query _ _ issued other => other.interfere trans
      (guarantee query system.state (issued system.state (refl _)).1))
    guarded stepped

end Guarded

end Service

end Reperio.Concurrency
