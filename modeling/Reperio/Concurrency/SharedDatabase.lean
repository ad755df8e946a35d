import Reperio.Concurrency.Crew
import Reperio.Concurrency.Transaction

/-!
# One database under several connections

A database has one committed state and at most one write transaction, which
`BEGIN` takes and no second connection gets before it has ended: its `BEGIN` is
refused, as is a statement of it that would have to write. Statements that only
read are answered from what is committed, or from the own transaction. Closing
a connection rolls its transaction back.

A `Host` adds the world around the database, such as a directory of files. A
member of a crew on a host relies on `Host.Undisturbed`: nobody touches its
transaction, and as long as it has one nobody commits. What others commit in
the meantime is left to a relation on the committed states.
-/

namespace Reperio.Concurrency

/-- Statements, which of them write, and what such a statement replies when it is refused. -/
structure Engine (Query : Type) (Reply : Query → Type) (State : Type) where
  perform : (query : Query) → State → State × Reply query
  busy : (query : Query) → Option (Reply query)
  reads : ∀ query state, busy query = none → (perform query state).1 = state

/-- What is committed, and the writer's state of it. -/
structure SharedDatabase (Conn State : Type) where
  committed : State
  writer : Option (Conn × State)

namespace SharedDatabase

variable {Conn Query State : Type} {Reply : Query → Type} [DecidableEq Conn]

/-- No transaction is open on any connection. -/
def settled (state : State) : SharedDatabase Conn State := ⟨state, none⟩

/-- The transaction of a connection. -/
def working (database : SharedDatabase Conn State) (conn : Conn) : Option State :=
  match database.writer with
  | some (holder, state) => if holder = conn then some state else none
  | none => none

def heldByOther (database : SharedDatabase Conn State) (conn : Conn) : Bool :=
  database.writer.any fun holder => decide (holder.1 ≠ conn)

def session (database : SharedDatabase Conn State) (conn : Conn) : Session State :=
  ⟨database.committed, database.working conn⟩

def ofSession (conn : Conn) (session : Session State) : SharedDatabase Conn State :=
  ⟨session.committed, session.working.map fun state => (conn, state)⟩

/-- The answer to a command while another connection holds the write transaction. -/
def meanwhile (engine : Engine Query Reply State) (committed : State) :
    (command : Command Query) → command.Answer Reply
  | .control _ => false
  | .statement query =>
    match engine.busy query with
    | some reply => reply
    | none => (engine.perform query committed).2

def execute (engine : Engine Query Reply State) (conn : Conn) (command : Command Query)
    (database : SharedDatabase Conn State) :
    SharedDatabase Conn State × command.Answer Reply :=
  if database.heldByOther conn then (database, meanwhile engine database.committed command)
  else
    match command.execute engine.perform (database.session conn) with
    | (session, answer) => (ofSession conn session, answer)

def close (conn : Conn) (database : SharedDatabase Conn State) : SharedDatabase Conn State :=
  if (database.working conn).isSome then { database with writer := none } else database

/-- Nobody touched the transaction of a connection, nor committed as long as it had one. -/
structure Undisturbed (conn : Conn) (before after : SharedDatabase Conn State) : Prop where
  working : after.working conn = before.working conn
  committed : (before.working conn).isSome → after.committed = before.committed

theorem Undisturbed.refl (conn : Conn) (database : SharedDatabase Conn State) :
    Undisturbed conn database database := ⟨rfl, fun _ => rfl⟩

variable {conn : Conn} {database : SharedDatabase Conn State} {state : State} {other : Conn}

theorem Undisturbed.trans {first second third : SharedDatabase Conn State}
    (before : Undisturbed conn first second) (after : Undisturbed conn second third) :
    Undisturbed conn first third := by
  refine ⟨after.working.trans before.working, ?_⟩
  intro has
  rw [after.committed (by rwa [before.working]), before.committed has]

@[simp]
theorem working_settled (conn : Conn) (state : State) :
    (settled state : SharedDatabase Conn State).working conn = none := rfl

theorem working_eq_some :
    database.working conn = some state ↔ database.writer = some (conn, state) := by
  rcases database with ⟨committed, writer⟩
  cases writer with
  | none => simp [working]
  | some holder =>
    rcases holder with ⟨holder, held⟩
    simp only [working]
    split
    · rename_i isConn
      simp [isConn]
    · rename_i notConn
      simp [notConn]

theorem heldByOther_eq_false (holds : database.working conn = some state) :
    database.heldByOther conn = false := by
  simp [heldByOther, working_eq_some.mp holds]

/-- A connection that is not kept out is the only one that can have a transaction. -/
theorem working_other (different : other ≠ conn) (free : database.heldByOther conn = false) :
    database.working other = none := by
  rcases database with ⟨committed, writer⟩
  cases writer with
  | none => rfl
  | some holder =>
    simp only [heldByOther, Option.any_some, decide_eq_false_iff_not, not_not] at free
    simp [working, free, different.symm]

theorem working_ofSession_other (different : other ≠ conn) (session : Session State) :
    (ofSession conn session).working other = none := by
  rcases session with ⟨committed, working⟩
  cases working with
  | none => rfl
  | some state => simp [ofSession, SharedDatabase.working, different.symm]

theorem undisturbed_of_working_none {before after : SharedDatabase Conn State}
    (isNone : before.working other = none) (stays : after.working other = none) :
    Undisturbed other before after := by
  refine ⟨stays.trans isNone.symm, ?_⟩
  intro has
  simp [isNone] at has

/-- No command of one connection disturbs another one. -/
theorem execute_undisturbed (engine : Engine Query Reply State) (different : other ≠ conn)
    (command : Command Query) (database : SharedDatabase Conn State) :
    Undisturbed other database (execute engine conn command database).1 := by
  unfold execute
  split
  · exact Undisturbed.refl other database
  · rename_i free
    exact undisturbed_of_working_none (working_other different (Bool.not_eq_true _ ▸ free))
      (working_ofSession_other different _)

theorem close_undisturbed (different : other ≠ conn) (database : SharedDatabase Conn State) :
    Undisturbed other database (database.close conn) := by
  unfold close
  split
  · rename_i holds
    rcases Option.isSome_iff_exists.mp holds with ⟨state, isWorking⟩
    exact undisturbed_of_working_none
      (working_other different (heldByOther_eq_false isWorking)) rfl
  · exact Undisturbed.refl other database

theorem working_close (conn : Conn) (database : SharedDatabase Conn State) :
    (database.close conn).working conn = none := by
  unfold close
  split
  · rfl
  · rename_i free
    simpa using free

@[simp]
theorem committed_close (conn : Conn) (database : SharedDatabase Conn State) :
    (database.close conn).committed = database.committed := by
  unfold close
  split <;> rfl

section Own

variable (engine : Engine Query Reply State) {conn : Conn} {database : SharedDatabase Conn State}

/-- `BEGIN` is refused without any effect, or it starts a transaction at the committed state. -/
theorem execute_begin (isNone : database.working conn = none) :
    execute engine conn (.control .begin) database = (database, false) ∨
      execute engine conn (.control .begin) database =
        (⟨database.committed, some (conn, database.committed)⟩, true) := by
  unfold execute
  split
  · exact Or.inl rfl
  · right
    simp only [session, isNone]
    rfl

theorem execute_of_working (command : Command Query) (holds : database.working conn = some state) :
    execute engine conn command database =
      match command.execute engine.perform ⟨database.committed, some state⟩ with
      | (session, answer) => (ofSession conn session, answer) := by
  simp [execute, heldByOther_eq_false holds, session, holds]

/-- Without a transaction of its own, a reading statement sees what is committed. -/
theorem execute_read {query : Query} (isRead : engine.busy query = none)
    (isNone : database.working conn = none) :
    execute engine conn (.statement query) database =
      (database, (engine.perform query database.committed).2) := by
  unfold execute
  split
  · simp [meanwhile, isRead]
  · rename_i free
    have unchanged := engine.reads query database.committed isRead
    rcases database with ⟨committed, writer⟩
    cases writer with
    | none =>
      simp only [session, SharedDatabase.working, Command.execute, ofSession, Option.map_none]
      rw [unchanged]
    | some holder =>
      simp only [heldByOther, Option.any_some, decide_eq_true_eq, not_not] at free
      simp [SharedDatabase.working, free] at isNone

/-- Whether or not there was a transaction to roll back, there is none afterwards. -/
theorem execute_rollback (conn : Conn) (database : SharedDatabase Conn State) :
    (execute engine conn (.control .rollback) database).1.committed = database.committed ∧
      (execute engine conn (.control .rollback) database).1.working conn = none := by
  cases holds : database.working conn with
  | none =>
    unfold execute
    split
    · exact ⟨rfl, holds⟩
    · simp only [session, holds]
      exact ⟨rfl, rfl⟩
  | some state =>
    rw [execute_of_working engine _ holds]
    exact ⟨rfl, rfl⟩

end Own

end SharedDatabase

/-! ## A database and the world around it -/

/-- A database and what is outside of it. -/
structure Host (Conn State World : Type) where
  database : SharedDatabase Conn State
  world : World

/-- What a member does: a command over its connection, closing it, or something outside. -/
inductive Request (Query Outside : Type) where
  | command (command : Command Query)
  | close
  | outside (query : Outside)

namespace Request

variable {Conn Query Outside State World : Type} {Reply : Query → Type} {OutReply : Outside → Type}

@[reducible]
def Answer (Reply : Query → Type) (OutReply : Outside → Type) : Request Query Outside → Type
  | command sent => sent.Answer Reply
  | close => Unit
  | outside query => OutReply query

variable [DecidableEq Conn] (engine : Engine Query Reply State)
  (environment : (query : Outside) → State → World → World × OutReply query)

/-- The world outside may look at the committed state, and leaves the database alone. -/
def perform (conn : Conn) : (request : Request Query Outside) → Host Conn State World →
    Host Conn State World × request.Answer Reply OutReply
  | command sent, host =>
    match SharedDatabase.execute engine conn sent host.database with
    | (database, answer) => ({ host with database }, answer)
  | close, host => ({ host with database := host.database.close conn }, ())
  | outside query, host =>
    match environment query host.database.committed host.world with
    | (world, answer) => ({ host with world }, answer)

end Request

namespace Host

variable {Conn State World : Type} [DecidableEq Conn]

/-- What a member relies on while others commit within `moves`. -/
def Rely (moves : State → State → Prop) (conn : Conn) (before after : Host Conn State World) :
    Prop :=
  SharedDatabase.Undisturbed conn before.database after.database ∧
    moves before.database.committed after.database.committed

/-- What a member promises when it commits within `moves`. -/
def Guarantee (moves : State → State → Prop) (conn : Conn) (before after : Host Conn State World) :
    Prop :=
  (∀ other, other ≠ conn → SharedDatabase.Undisturbed other before.database after.database) ∧
    moves before.database.committed after.database.committed

variable {moves : State → State → Prop}

theorem Rely.refl (movesRefl : ∀ state, moves state state) (conn : Conn)
    (host : Host Conn State World) : Rely moves conn host host :=
  ⟨SharedDatabase.Undisturbed.refl conn _, movesRefl _⟩

theorem Rely.trans
    (movesTrans : ∀ first second third, moves first second → moves second third → moves first third)
    (conn : Conn) (first second third : Host Conn State World)
    (before : Rely moves conn first second) (after : Rely moves conn second third) :
    Rely moves conn first third :=
  ⟨before.1.trans after.1, movesTrans _ _ _ before.2 after.2⟩

theorem Guarantee.compatible (conn other : Conn) (before after : Host Conn State World)
    (different : conn ≠ other) (guarantee : Guarantee moves conn before after) :
    Rely moves other before after :=
  ⟨guarantee.1 other different.symm, guarantee.2⟩

/-- A crew whose members commit within `moves`, and rely on the others to do so as well. -/
theorem meets_of_runFrom {Query Error : Type} {Reply : Query → Type} {Result : Conn → Type}
    {perform : Conn → (query : Query) → Host Conn State World → Host Conn State World × Reply query}
    (movesRefl : ∀ state, moves state state)
    (movesTrans : ∀ first second third, moves first second → moves second third → moves first third)
    {post : (conn : Conn) → Except Error (Result conn) → Host Conn State World → Prop}
    {start last : Crew Conn Query Reply Error Result (Host Conn State World)} {schedule : List Conn}
    (starts : start.AllMeet perform (Rely moves) (Guarantee moves) post)
    (ran : runFrom (Crew.step perform) start schedule = some last) :
    moves start.state.database.committed last.state.database.committed ∧
      last.AllMeet perform (Rely moves) (Guarantee moves) post := by
  let along (before after : Host Conn State World) : Prop :=
    moves before.database.committed after.database.committed
  have alongRefl : ∀ host, along host host := fun host => movesRefl _
  have alongTrans : ∀ first second third, along first second → along second third →
      along first third := fun first second third => movesTrans _ _ _
  exact Crew.meets_of_runFrom (Rely.refl movesRefl) (Rely.trans movesTrans) Guarantee.compatible
    alongRefl alongTrans (fun _ _ _ guarantee => guarantee.2) starts ran

end Host

namespace Program

variable {Conn Query Outside State World Error α : Type} {Reply : Query → Type}
  {OutReply : Outside → Type}

/-- The statements of a program over the connection of the member. -/
def statements : Program Query Reply Error α →
    Program (Request Query Outside) (Request.Answer Reply OutReply) Error α :=
  translate fun query => Program.query (Request.command (Command.statement query))

/-- Transaction control raises when it is refused. -/
def controls (refused : Error) (kind : Control) :
    Program (Request Query Outside) (Request.Answer Reply OutReply) Error Unit :=
  .execute (Request.command (Command.control kind)) fun (accepted : Bool) =>
    if accepted then .done () else .raise refused

/-- `BEGIN`, the program, `COMMIT`, and `ROLLBACK` on the way out of an error that is caught. -/
def transaction (locked notActive : Error) (catches : Error → Bool)
    (program : Program Query Reply Error α) :
    Program (Request Query Outside) (Request.Answer Reply OutReply) Error α :=
  handle
    (fun error =>
      if catches error then do
        controls notActive .rollback
        throw error
      else throw error)
    (do
      controls locked .begin
      let result ← program.statements
      controls notActive .commit
      return result)

variable {catches : Error → Bool}

section Rules

variable [DecidableEq Conn] {engine : Engine Query Reply State}
  {environment : (query : Outside) → State → World → World × OutReply query} {conn : Conn}
  {others own : State → State → Prop}

/-- Whatever a member requests, nobody else is disturbed. -/
theorem perform_undisturbed (request : Request Query Outside) (host : Host Conn State World)
    {other : Conn} (different : other ≠ conn) :
    SharedDatabase.Undisturbed other host.database
      (Request.perform engine environment conn request host).1.database := by
  cases request with
  | command sent => exact SharedDatabase.execute_undisturbed engine different sent host.database
  | close => exact SharedDatabase.close_undisturbed different host.database
  | outside query => exact SharedDatabase.Undisturbed.refl other host.database

variable {host : Host Conn State World} {post : Except Error α → Host Conn State World → Prop}

/-- A request that commits nothing is within every guarantee. -/
theorem guarantee_of_committed_eq (ownRefl : ∀ state, own state state)
    {request : Request Query Outside}
    (same : (Request.perform engine environment conn request host).1.database.committed =
      host.database.committed) :
    Host.Guarantee own conn host (Request.perform engine environment conn request host).1 := by
  refine ⟨fun other different => perform_undisturbed request host different, ?_⟩
  rw [same]
  exact ownRefl _

/-- A reading statement outside a transaction, and then the rest. -/
theorem meets_read_bind (ownRefl : ∀ state, own state state) {query : Query}
    {rest : Reply query → Program (Request Query Outside) (Request.Answer Reply OutReply) Error α}
    (isRead : engine.busy query = none) (idle : host.database.working conn = none)
    (continues : ∀ later, others host.database.committed later.database.committed →
      later.database.working conn = none →
      (rest (engine.perform query later.database.committed).2).Meets
        (Request.perform engine environment conn) (Host.Rely others conn)
        (Host.Guarantee own conn) post later) :
    (Program.query (Request.command (Command.statement query)) >>= rest).Meets
      (Request.perform engine environment conn) (Host.Rely others conn) (Host.Guarantee own conn)
      post host := by
  rintro later ⟨undisturbed, moved⟩
  have laterIdle := undisturbed.working.trans idle
  have executed := SharedDatabase.execute_read engine isRead laterIdle
  refine ⟨guarantee_of_committed_eq ownRefl (by simp only [Request.perform, executed]), ?_⟩
  simp only [Request.perform, executed]
  exact continues later moved laterIdle

/-- Something outside of the database, and then the rest. -/
theorem meets_outside_bind (ownRefl : ∀ state, own state state) {query : Outside}
    {rest : OutReply query →
      Program (Request Query Outside) (Request.Answer Reply OutReply) Error α}
    (idle : host.database.working conn = none)
    (continues : ∀ reply later, others host.database.committed later.database.committed →
      later.database.working conn = none →
      (rest reply).Meets (Request.perform engine environment conn) (Host.Rely others conn)
        (Host.Guarantee own conn) post later) :
    (Program.query (Request.outside query) >>= rest).Meets (Request.perform engine environment conn)
      (Host.Rely others conn) (Host.Guarantee own conn) post host := by
  rintro later ⟨undisturbed, moved⟩
  exact ⟨guarantee_of_committed_eq ownRefl rfl,
    continues _ _ moved (undisturbed.working.trans idle)⟩

/-- The connection is closed after a value as well as after an error. -/
theorem meets_withFinally_close (othersRefl : ∀ state, others state state)
    (othersTrans : ∀ first second third, others first second → others second third →
      others first third) (ownRefl : ∀ state, own state state)
    {program : Program (Request Query Outside) (Request.Answer Reply OutReply) Error α}
    {inner : Except Error α → Host Conn State World → Prop}
    (meets : program.Meets (Request.perform engine environment conn) (Host.Rely others conn)
      (Host.Guarantee own conn) inner host)
    (closes : ∀ result before last, inner result before →
      others before.database.committed last.database.committed →
      last.database.working conn = none → post result last) :
    (withFinally (Program.query Request.close) program).Meets
      (Request.perform engine environment conn) (Host.Rely others conn) (Host.Guarantee own conn)
      post host := by
  have refl : ∀ host : Host Conn State World, Host.Rely others conn host host :=
    Host.Rely.refl othersRefl conn
  have closed : ∀ result (before later last : Host Conn State World), inner result before →
      Host.Rely others conn before later →
      Host.Rely others conn
        (Request.perform engine environment conn Request.close later).1 last →
          post result last := by
    rintro result before later last holds ⟨_, moved⟩ ⟨undisturbed, lastMoved⟩
    refine closes result before last holds (othersTrans _ _ _ moved ?_) ?_
    · simpa [Request.perform] using lastMoved
    · exact undisturbed.working.trans (SharedDatabase.working_close conn _)
  have closeGuarantee : ∀ later : Host Conn State World, Host.Guarantee own conn later
      (Request.perform engine environment conn (Request.close : Request Query Outside) later).1 :=
    fun later => guarantee_of_committed_eq ownRefl (SharedDatabase.committed_close conn _)
  refine Meets.bind refl (Meets.handle refl (meets.mono ?_))
  intro result before holds
  cases result with
  | ok value =>
    exact fun later moved => ⟨closeGuarantee later, fun last lastMoved =>
      closed (.ok value) before later last holds moved lastMoved⟩
  | error error =>
    exact fun later moved => ⟨closeGuarantee later, fun last lastMoved =>
      closed (.error error) before later last holds moved lastMoved⟩

/-- The statements of a program see and change the transaction of their connection only. -/
theorem meets_statements (ownRefl : ∀ state, own state state)
    {program : Program Query Reply Error α} {state : State}
    (holds : host.database.working conn = some state)
    (ends : ∀ last, last.database.committed = host.database.committed →
      last.database.working conn = some (program.run engine.perform state).1 →
      post (program.run engine.perform state).2 last) :
    (program.statements : Program (Request Query Outside) (Request.Answer Reply OutReply) Error
      α).Meets (Request.perform engine environment conn) (Host.Rely others conn)
      (Host.Guarantee own conn) post host := by
  induction program generalizing host state with
  | done result =>
    rintro later ⟨undisturbed, _⟩
    refine ends later (undisturbed.committed (by simp [holds])) ?_
    rw [undisturbed.working, holds, run_done]
  | raise error =>
    rintro later ⟨undisturbed, _⟩
    refine ends later (undisturbed.committed (by simp [holds])) ?_
    rw [undisturbed.working, holds, run_raise]
  | execute query next ih =>
    rintro later ⟨undisturbed, _⟩
    have laterHolds : later.database.working conn = some state := by
      rw [undisturbed.working, holds]
    have laterCommitted := undisturbed.committed (by simp [holds])
    have executed : SharedDatabase.execute engine conn (.statement query) later.database =
        (⟨later.database.committed, some (conn, (engine.perform query state).1)⟩,
          (engine.perform query state).2) := by
      rw [SharedDatabase.execute_of_working engine _ laterHolds]
      rfl
    refine ⟨guarantee_of_committed_eq ownRefl ?_, ?_⟩
    · simp only [Request.perform, executed]
    · simp only [Request.perform, executed]
      refine ih ((engine.perform query state).2) (SharedDatabase.working_eq_some.mpr rfl) ?_
      intro last committed working
      exact ends last (committed.trans laterCommitted) working

/-- The handler of a transaction ends without one when it catches the error. -/
theorem meets_rollback
    (othersTrans : ∀ first second third, others first second → others second third →
      others first third) (ownRefl : ∀ state, own state state) {notActive error : Error}
    (fails : ∀ failure last, others host.database.committed last.database.committed →
      (catches failure = true → last.database.working conn = none) → post (.error failure) last) :
    (if catches error then do
        controls notActive .rollback
        throw error
      else throw error : Program (Request Query Outside) (Request.Answer Reply OutReply) Error
        α).Meets (Request.perform engine environment conn) (Host.Rely others conn)
      (Host.Guarantee own conn) post host := by
  split
  · rintro later ⟨_, moved⟩
    have rolledBack := SharedDatabase.execute_rollback engine conn later.database
    refine ⟨guarantee_of_committed_eq ownRefl rolledBack.1, ?_⟩
    have ended : ∀ failure last, Host.Rely others conn
        (Request.perform engine environment conn
          (Request.command (Command.control Control.rollback)) later).1 last →
        post (.error failure) last := by
      rintro failure last ⟨undisturbed, lastMoved⟩
      refine fails failure last (othersTrans _ _ _ moved ?_)
        fun _ => undisturbed.working.trans rolledBack.2
      rw [← rolledBack.1]
      exact lastMoved
    rcases Bool.eq_false_or_eq_true (Request.perform engine environment conn
      (Request.command (Command.control Control.rollback)) later).2 with accepted | refused
    · rw [accepted]
      exact ended error
    · rw [refused]
      exact ended notActive
  · rename_i uncaught
    rintro later ⟨_, moved⟩
    exact fails error later moved fun caught => absurd caught uncaught

/-- A transaction among others: it commits what its program makes of a state that the others have
committed, or it commits nothing. -/
theorem meets_transaction (othersRefl : ∀ state, others state state)
    (othersTrans : ∀ first second third, others first second → others second third →
      others first third) (ownRefl : ∀ state, own state state) {locked notActive : Error}
    {program : Program Query Reply Error α} (idle : host.database.working conn = none)
    (succeeds : ∀ base after value, others host.database.committed base →
      program.run engine.perform base = (after, .ok value) →
      own base after ∧ ∀ last, last.database.working conn = none →
        others after last.database.committed → post (.ok value) last)
    (fails : ∀ failure last, others host.database.committed last.database.committed →
      (catches failure = true → last.database.working conn = none) →
      post (.error failure) last) :
    (program.transaction locked notActive catches : Program (Request Query Outside)
      (Request.Answer Reply OutReply) Error α).Meets (Request.perform engine environment conn)
      (Host.Rely others conn) (Host.Guarantee own conn) post host := by
  have handled : ∀ error (later : Host Conn State World),
      others host.database.committed later.database.committed →
      (if catches error then do
          controls notActive .rollback
          throw error
        else throw error : Program (Request Query Outside) (Request.Answer Reply OutReply) Error
          α).Meets (Request.perform engine environment conn) (Host.Rely others conn)
        (Host.Guarantee own conn) post later := by
    intro error later moved
    refine meets_rollback othersTrans ownRefl ?_
    intro failure last lastMoved ended
    exact fails failure last (othersTrans _ _ _ moved lastMoved) ended
  refine Meets.handle (Host.Rely.refl othersRefl conn) ?_
  rintro later ⟨undisturbed, moved⟩
  have laterIdle : later.database.working conn = none := undisturbed.working.trans idle
  rcases SharedDatabase.execute_begin engine laterIdle with refused | begun
  · refine ⟨guarantee_of_committed_eq ownRefl (by simp only [Request.perform, refused]), ?_⟩
    simp only [Request.perform, refused, Bool.false_eq_true, if_false]
    rintro last ⟨_, lastMoved⟩
    exact handled locked last (othersTrans _ _ _ moved lastMoved)
  · refine ⟨guarantee_of_committed_eq ownRefl (by simp only [Request.perform, begun]), ?_⟩
    simp only [Request.perform, begun, if_true]
    change (program.statements >>= fun value =>
      controls notActive .commit >>= fun _ => .done value).Meets _ _ _ _ _
    refine Meets.bind (Host.Rely.refl othersRefl conn) (meets_statements ownRefl
      (SharedDatabase.working_eq_some.mpr rfl) ?_)
    intro middle middleCommitted middleWorking
    have middleMoved : others host.database.committed middle.database.committed := by
      rw [middleCommitted]
      exact moved
    cases ran : program.run engine.perform later.database.committed with
    | mk after result =>
      cases result with
      | error error => exact handled error middle middleMoved
      | ok value =>
        rw [ran] at middleWorking
        rcases succeeds _ after value moved ran with ⟨committed, ends⟩
        rintro last ⟨lastUndisturbed, _⟩
        have lastWorking : last.database.working conn = some after :=
          lastUndisturbed.working.trans middleWorking
        have executed : SharedDatabase.execute engine conn (.control .commit) last.database =
            (⟨after, none⟩, true) := by
          rw [SharedDatabase.execute_of_working engine _ lastWorking]
          rfl
        refine ⟨⟨fun other different => perform_undisturbed _ last different, ?_⟩, ?_⟩
        · simp only [Request.perform, executed]
          rw [lastUndisturbed.committed (by simp [middleWorking]), middleCommitted]
          exact committed
        · simp only [Request.perform, executed, if_true]
          rintro final ⟨finalUndisturbed, finalMoved⟩
          exact ends final finalUndisturbed.working finalMoved

/-!
### Alone

Run alone on a settled database a transaction is all or nothing, but for an error that it does not
catch: that one leaves it open until the connection is closed.
-/

theorem run_read_bind {query : Query} (isRead : engine.busy query = none)
    (rest : Reply query → Program (Request Query Outside) (Request.Answer Reply OutReply) Error α)
    (state : State) (world : World) :
    (Program.query (Request.command (Command.statement query)) >>= rest).run
      (Request.perform engine environment conn) ⟨.settled state, world⟩ =
      (rest (engine.perform query state).2).run (Request.perform engine environment conn)
        ⟨.settled state, world⟩ := by
  have executed := SharedDatabase.execute_read engine isRead
    (SharedDatabase.working_settled conn state)
  have performed : Request.perform engine environment conn
      (Request.command (Command.statement query)) ⟨.settled state, world⟩ =
      (⟨.settled state, world⟩, (engine.perform query state).2) := by
    simp only [Request.perform, executed]
    rfl
  exact congrArg (fun outcome : Host Conn State World × Reply query =>
    (rest outcome.2).run (Request.perform engine environment conn) outcome.1) performed

theorem run_statements (program : Program Query Reply Error α) (committed working : State)
    (world : World) :
    (program.statements : Program (Request Query Outside) (Request.Answer Reply OutReply) Error
      α).run (Request.perform engine environment conn) ⟨⟨committed, some (conn, working)⟩, world⟩ =
      (⟨⟨committed, some (conn, (program.run engine.perform working).1)⟩, world⟩,
        (program.run engine.perform working).2) := by
  induction program generalizing working with
  | done result => rfl
  | raise error => rfl
  | execute query next ih =>
    have executed : SharedDatabase.execute engine conn (.statement query)
        ⟨committed, some (conn, working)⟩ =
        (⟨committed, some (conn, (engine.perform query working).1)⟩,
          (engine.perform query working).2) := by
      rw [SharedDatabase.execute_of_working engine _ (SharedDatabase.working_eq_some.mpr rfl)]
      rfl
    have performed : Request.perform engine environment conn
        (Request.command (Command.statement query)) ⟨⟨committed, some (conn, working)⟩, world⟩ =
        (⟨⟨committed, some (conn, (engine.perform query working).1)⟩, world⟩,
          (engine.perform query working).2) := by
      simp only [Request.perform, executed]
    exact (congrArg (fun outcome : Host Conn State World × Reply query =>
      (next outcome.2).statements.run (Request.perform engine environment conn) outcome.1)
      performed).trans (ih _ _)

theorem run_transaction (locked notActive : Error) (catches : Error → Bool)
    (program : Program Query Reply Error α) (state : State) (world : World) :
    (program.transaction locked notActive catches : Program (Request Query Outside)
      (Request.Answer Reply OutReply) Error α).run (Request.perform engine environment conn)
      ⟨.settled state, world⟩ =
      match program.run engine.perform state with
      | (after, .ok value) => (⟨.settled after, world⟩, .ok value)
      | (after, .error error) =>
        (⟨if catches error then .settled state else ⟨state, some (conn, after)⟩, world⟩,
          .error error) := by
  have begun : (controls locked .begin : Program (Request Query Outside)
      (Request.Answer Reply OutReply) Error Unit).run (Request.perform engine environment conn)
      ⟨.settled state, world⟩ = (⟨⟨state, some (conn, state)⟩, world⟩, .ok ()) := rfl
  have holding : ∀ after, (⟨state, some (conn, after)⟩ : SharedDatabase Conn State).working conn =
      some after := fun _ => SharedDatabase.working_eq_some.mpr rfl
  have committed : ∀ after, (controls notActive .commit : Program (Request Query Outside)
      (Request.Answer Reply OutReply) Error Unit).run (Request.perform engine environment conn)
      ⟨⟨state, some (conn, after)⟩, world⟩ = (⟨.settled after, world⟩, .ok ()) := by
    intro after
    have executed := SharedDatabase.execute_of_working engine (.control .commit)
      (holding after)
    simp only [controls, run_execute, Request.perform, executed]
    rfl
  have rolledBack : ∀ after, (controls notActive .rollback : Program (Request Query Outside)
      (Request.Answer Reply OutReply) Error Unit).run (Request.perform engine environment conn)
      ⟨⟨state, some (conn, after)⟩, world⟩ = (⟨.settled state, world⟩, .ok ()) := by
    intro after
    have executed := SharedDatabase.execute_of_working engine (.control .rollback)
      (holding after)
    simp only [controls, run_execute, Request.perform, executed]
    rfl
  rw [transaction, run_handle, run_bind, begun]
  dsimp only
  rw [run_bind, run_statements]
  rcases program.run engine.perform state with ⟨after, result⟩
  cases result with
  | ok value =>
    dsimp only
    rw [run_bind, committed]
    rfl
  | error error =>
    dsimp only
    split
    · rw [run_bind, rolledBack]
      rfl
    · rfl

end Rules

end Program

end Reperio.Concurrency
