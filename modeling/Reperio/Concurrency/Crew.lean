import Mathlib.Logic.Function.Basic
import Reperio.Concurrency.Program
import Reperio.Concurrency.Transition

/-!
# Crews

A crew is a family of programs at work on one store, each over a connection
of its own. What a query does may depend on the connection that issues it. A
schedule is a list of connections, and every interleaving of the queries of
the crew is the run of some schedule.

`Meets` is the obligation of one member: whatever the others do within `rely`
before each of its queries, the query changes the store within `guarantee`,
and the member ends with its postcondition. Where every guarantee is something
the other members rely on, all obligations hold along every schedule
(`Crew.meets_of_runFrom`).
-/

namespace Reperio.Concurrency

namespace Program

variable {Query Query' State Error α β : Type} {Reply : Query → Type} {Reply' : Query' → Type}

/-- Every query is replaced by a program that finds out its reply. -/
def translate (target : (query : Query) → Program Query' Reply' Error (Reply query)) :
    Program Query Reply Error α → Program Query' Reply' Error α
  | .done result => .done result
  | .raise error => .raise error
  | .execute query next => target query >>= fun reply => (next reply).translate target

/-- The rest of the work is done after a value as well as after an error. -/
def withFinally (last : Program Query Reply Error Unit) (program : Program Query Reply Error α) :
    Program Query Reply Error α :=
  handle (fun error => do last; throw error) program >>= fun result => do last; return result

theorem run_withFinally {perform : (query : Query) → State → State × Reply query}
    {last : Program Query Reply Error Unit} {ending : State → State}
    (ends : ∀ state, last.run perform state = (ending state, .ok ()))
    (program : Program Query Reply Error α) (state : State) :
    (withFinally last program).run perform state =
      (ending (program.run perform state).1, (program.run perform state).2) := by
  rw [withFinally, run_bind, run_handle]
  rcases program.run perform state with ⟨after, result⟩
  cases result with
  | ok value =>
    dsimp only
    rw [run_bind, ends]
    rfl
  | error error =>
    dsimp only
    rw [run_bind, ends]
    rfl

variable {state : State}

section Meets

variable (perform : (query : Query) → State → State × Reply query)
  (rely guarantee : State → State → Prop)

/-- The obligation of one program among others. -/
def Meets (post : Except Error α → State → Prop) : Program Query Reply Error α → State → Prop
  | .done result, state => ∀ later, rely state later → post (.ok result) later
  | .raise error, state => ∀ later, rely state later → post (.error error) later
  | .execute query next, state =>
    ∀ later, rely state later → guarantee later (perform query later).1 ∧
        (next (perform query later).2).Meets post (perform query later).1

variable {perform rely guarantee} {post other : Except Error α → State → Prop}

theorem Meets.interfere
    (trans : ∀ first second third, rely first second → rely second third → rely first third)
    {program : Program Query Reply Error α} {later : State}
    (meets : program.Meets perform rely guarantee post state) (moved : rely state later) :
    program.Meets perform rely guarantee post later := by
  cases program with
  | done result => exact fun last more => meets last (trans _ _ _ moved more)
  | raise error => exact fun last more => meets last (trans _ _ _ moved more)
  | execute query next => exact fun last more => meets last (trans _ _ _ moved more)

theorem Meets.mono {program : Program Query Reply Error α}
    (meets : program.Meets perform rely guarantee post state)
    (implies : ∀ result last, post result last → other result last) :
    program.Meets perform rely guarantee other state := by
  induction program generalizing state with
  | done result => exact fun later moved => implies _ _ (meets later moved)
  | raise error => exact fun later moved => implies _ _ (meets later moved)
  | execute query next ih =>
    exact fun later moved => ⟨(meets later moved).1, ih _ (meets later moved).2⟩

theorem Meets.bind (refl : ∀ state, rely state state) {program : Program Query Reply Error α}
    {rest : α → Program Query Reply Error β} {final : Except Error β → State → Prop}
    {state : State}
    (meets : program.Meets perform rely guarantee
      (fun result last =>
        match result with
        | .ok value => (rest value).Meets perform rely guarantee final last
        | .error error => final (.error error) last) state) :
    (program >>= rest).Meets perform rely guarantee final state := by
  induction program generalizing state with
  | done result => exact meets state (refl state)
  | raise error => exact meets
  | execute query next ih =>
    exact fun later moved => ⟨(meets later moved).1, ih _ (meets later moved).2⟩

theorem Meets.handle (refl : ∀ state, rely state state) {program : Program Query Reply Error α}
    {handler : Error → Program Query Reply Error α}
    (meets : program.Meets perform rely guarantee
      (fun result last =>
        match result with
        | .ok value => post (.ok value) last
        | .error error => (handler error).Meets perform rely guarantee post last) state) :
    (program.handle handler).Meets perform rely guarantee post state := by
  induction program generalizing state with
  | done result => exact meets
  | raise error => exact meets state (refl state)
  | execute query next ih =>
    exact fun later moved => ⟨(meets later moved).1, ih _ (meets later moved).2⟩

/-- What a program meets among others, it meets when it is run alone. -/
theorem Meets.run (refl : ∀ state, rely state state) {program : Program Query Reply Error α}
    (meets : program.Meets perform rely guarantee post state) :
    post (program.run perform state).2 (program.run perform state).1 := by
  induction program generalizing state with
  | done result => exact meets state (refl state)
  | raise error => exact meets state (refl state)
  | execute query next ih => exact ih _ (meets state (refl state)).2

theorem meets_ofExcept_bind {value : Except Error α} {rest : α → Program Query Reply Error β}
    {final : Except Error β → State → Prop}
    (raises : ∀ error, value = .error error → ∀ later, rely state later →
      final (.error error) later)
    (continues : ∀ result, value = .ok result →
      (rest result).Meets perform rely guarantee final state) :
    (Program.ofExcept value >>= rest).Meets perform rely guarantee final state := by
  cases value with
  | ok result => exact continues result rfl
  | error error => exact raises error rfl

end Meets

end Program

/-- The store, and what is left to do on every connection. -/
structure Crew (Conn Query : Type) (Reply : Query → Type) (Error : Type) (Result : Conn → Type)
    (State : Type) where
  state : State
  rest : (conn : Conn) → Program Query Reply Error (Result conn)

namespace Crew

variable {Conn Query Error State : Type} {Reply : Query → Type} {Result : Conn → Type}
  [DecidableEq Conn] (perform : Conn → (query : Query) → State → State × Reply query)

/-- A connection that has not finished issues its next query. -/
def step (crew : Crew Conn Query Reply Error Result State) (conn : Conn) :
    Option (Crew Conn Query Reply Error Result State) :=
  match crew.rest conn with
  | .execute query next =>
    match perform conn query crew.state with
    | (state, reply) => some ⟨state, Function.update crew.rest conn (next reply)⟩
  | _ => none

variable {perform}

theorem step_cases {crew next : Crew Conn Query Reply Error Result State} {conn : Conn}
    (stepped : step perform crew conn = some next) :
    ∃ query rest, crew.rest conn = .execute query rest ∧
      next.state = (perform conn query crew.state).1 ∧
      next.rest = Function.update crew.rest conn (rest (perform conn query crew.state).2) := by
  simp only [step] at stepped
  split at stepped
  · rename_i query rest isNext
    cases stepped
    exact ⟨query, rest, isNext, rfl, rfl⟩
  · cases stepped

variable {rely guarantee : Conn → State → State → Prop}
  {post : (conn : Conn) → Except Error (Result conn) → State → Prop}

/-- Every member is left with a program that meets its obligation. -/
def AllMeet (perform : Conn → (query : Query) → State → State × Reply query)
    (rely guarantee : Conn → State → State → Prop)
    (post : (conn : Conn) → Except Error (Result conn) → State → Prop)
    (crew : Crew Conn Query Reply Error Result State) : Prop :=
  ∀ conn, (crew.rest conn).Meets (perform conn) (rely conn) (guarantee conn) (post conn) crew.state

theorem AllMeet.step (refl : ∀ conn state, rely conn state state)
    (trans : ∀ conn first second third, rely conn first second → rely conn second third →
      rely conn first third)
    (compatible : ∀ conn other first second, conn ≠ other → guarantee conn first second →
      rely other first second)
    {crew next : Crew Conn Query Reply Error Result State} {conn : Conn}
    (allMeet : crew.AllMeet perform rely guarantee post)
    (stepped : Crew.step perform crew conn = some next) :
    guarantee conn crew.state next.state ∧ next.AllMeet perform rely guarantee post := by
  rcases step_cases stepped with ⟨query, rest, isNext, state, others⟩
  have own := allMeet conn
  rw [isNext] at own
  rcases own crew.state (refl conn _) with ⟨guaranteed, left⟩
  rw [← state] at guaranteed left
  refine ⟨guaranteed, ?_⟩
  intro other
  rw [others]
  rcases eq_or_ne other conn with rfl | different
  · rw [Function.update_self]
    exact left
  · rw [Function.update_of_ne different]
    exact (allMeet other).interfere (trans other)
      (compatible conn other _ _ different.symm guaranteed)

/-- Along every schedule the obligations stay met, and the store moves within the guarantees. -/
theorem meets_of_runFrom (refl : ∀ conn state, rely conn state state)
    (trans : ∀ conn first second third, rely conn first second → rely conn second third →
      rely conn first third)
    (compatible : ∀ conn other first second, conn ≠ other → guarantee conn first second →
      rely other first second)
    {moves : State → State → Prop} (movesRefl : ∀ state, moves state state)
    (movesTrans : ∀ first second third, moves first second → moves second third → moves first third)
    (within : ∀ conn first second, guarantee conn first second → moves first second)
    {start last : Crew Conn Query Reply Error Result State} {schedule : List Conn}
    (starts : start.AllMeet perform rely guarantee post)
    (ran : runFrom (Crew.step perform) start schedule = some last) :
    moves start.state last.state ∧ last.AllMeet perform rely guarantee post := by
  refine runFrom_induction (motive := fun _ crew =>
    moves start.state crew.state ∧ crew.AllMeet perform rely guarantee post)
    ⟨movesRefl _, starts⟩ ?_ ran
  rintro past crew conn next _ ⟨moved, allMeet⟩ stepped
  rcases allMeet.step refl trans compatible stepped with ⟨guaranteed, nextMeets⟩
  exact ⟨movesTrans _ _ _ moved (within conn _ _ guaranteed), nextMeets⟩

omit [DecidableEq Conn] in
/-- The postcondition of a member that has finished. -/
theorem AllMeet.finished (refl : ∀ conn state, rely conn state state)
    {crew : Crew Conn Query Reply Error Result State}
    (allMeet : crew.AllMeet perform rely guarantee post) {conn : Conn} {result : Result conn}
    (isDone : crew.rest conn = .done result) : post conn (.ok result) crew.state := by
  have own := allMeet conn
  rw [isDone] at own
  exact own crew.state (refl conn _)

end Crew

end Reperio.Concurrency
