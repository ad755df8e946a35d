import Reperio.Concurrency.Program

/-!
# Transactions of one connection

A connection sees what is committed, or, between `BEGIN` and the end of a
transaction, its own working copy. `atomically` is the usual frame around a
program: begin, run it, commit, and roll back on the way out of an exception.
Run alone on a connection without an open transaction it does all that the
program does, or nothing (`run_atomically`).
-/

namespace Reperio.Concurrency

/-- What is committed, and what an open transaction works on. -/
structure Session (State : Type) where
  committed : State
  working : Option State

/-- No transaction is open. -/
def Session.settled {State : Type} (state : State) : Session State := ⟨state, none⟩

/-- The statements about transactions. -/
inductive Control where
  | begin
  | commit
  | rollback

/-- Transactions do not nest, and only an open one can be ended. -/
def Control.apply {State : Type} : Control → Session State → Option (Session State)
  | .begin, ⟨committed, none⟩ => some ⟨committed, some committed⟩
  | .begin, ⟨_, some _⟩ => none
  | .commit, ⟨_, some working⟩ => some ⟨working, none⟩
  | .commit, ⟨_, none⟩ => none
  | .rollback, ⟨committed, some _⟩ => some ⟨committed, none⟩
  | .rollback, ⟨_, none⟩ => none

/-- What a client sends over a connection. -/
inductive Command (Query : Type) where
  | control (kind : Control)
  | statement (query : Query)

namespace Command

variable {Query State : Type} {Reply : Query → Type}

/-- Transaction control says whether it was accepted. -/
@[reducible]
def Answer (Reply : Query → Type) : Command Query → Type
  | control _ => Bool
  | statement query => Reply query

variable (perform : (query : Query) → State → State × Reply query)

def execute : (command : Command Query) → Session State → Session State × command.Answer Reply
  | control kind, session =>
    match kind.apply session with
    | some next => (next, true)
    | none => (session, false)
  | statement query, ⟨committed, some working⟩ =>
    match perform query working with
    | (next, reply) => (⟨committed, some next⟩, reply)
  | statement query, ⟨committed, none⟩ =>
    match perform query committed with
    | (next, reply) => (⟨next, none⟩, reply)

end Command

namespace Program

variable {Query State Error α : Type} {Reply : Query → Type}

/-- The statements of a program on a connection. -/
def onSession : Program Query Reply Error α → Program (Command Query) (Command.Answer Reply) Error α
  | .done result => .done result
  | .raise error => .raise error
  | .execute query next => .execute (.statement query) fun reply => (next reply).onSession

/-- Transaction control raises when it is refused. -/
def control (refused : Error) (kind : Control) :
    Program (Command Query) (Command.Answer Reply) Error Unit :=
  .execute (.control kind) fun accepted => if accepted then .done () else .raise refused

/-- `BEGIN`, the program, `COMMIT`; and `ROLLBACK` when anything of it raises. -/
def atomically (refused : Error) (program : Program Query Reply Error α) :
    Program (Command Query) (Command.Answer Reply) Error α :=
  handle
    (fun error => do
      control refused .rollback
      throw error)
    (do
      control refused .begin
      let result ← program.onSession
      control refused .commit
      return result)

variable (perform : (query : Query) → State → State × Reply query)

theorem run_onSession (program : Program Query Reply Error α) (committed working : State) :
    program.onSession.run (Command.execute perform) ⟨committed, some working⟩ =
      (⟨committed, some (program.run perform working).1⟩, (program.run perform working).2) := by
  induction program generalizing working with
  | done result => rfl
  | raise error => rfl
  | execute query next ih => exact ih _ _

/-- All or nothing. -/
theorem run_atomically (refused : Error) (program : Program Query Reply Error α) (state : State) :
    (program.atomically refused).run (Command.execute perform) (.settled state) =
      match program.run perform state with
      | (after, .ok result) => (.settled after, .ok result)
      | (_, .error error) => (.settled state, .error error) := by
  have begun : (control refused .begin : Program (Command Query) (Command.Answer Reply) Error
      Unit).run (Command.execute perform) (.settled state) =
      (⟨state, some state⟩, .ok ()) := rfl
  rw [atomically, run_handle, run_bind, begun]
  dsimp only
  rw [run_bind, run_onSession]
  rcases program.run perform state with ⟨after, result⟩
  cases result with
  | ok result => rfl
  | error error => rfl

end Program

end Reperio.Concurrency
