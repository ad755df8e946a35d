import Reperio.Concurrency.Crew

/-!
# Serializable interleavings of two programs

Two programs take turns at one store. The outcome is serial when the store and
both results are those of running one program after the other. A query of the
program that is to come first in that order may be issued after queries of the
other one; it can be moved in front of them when it commutes with each. So an
interleaving is serial whenever no query of the first program conflicts with
one that the second has issued before it (`serial_of_everyStep`).

Stores need not become equal for that, only such that no query tells them
apart, and queries need to commute only where an invariant holds that all the
queries of both programs keep.
-/

namespace Reperio.Concurrency

variable {Query State Error α : Type} {Reply : Query → Type}

/-- No query tells such stores apart, before it or after it. -/
structure Indistinguishable (perform : (query : Query) → State → State × Reply query)
    (same : State → State → Prop) : Prop where
  refl : ∀ state, same state state
  trans : ∀ first second third, same first second → same second third → same first third
  reply : ∀ query first second, same first second →
    (perform query first).2 = (perform query second).2
  state : ∀ query first second, same first second →
    same (perform query first).1 (perform query second).1

/-- In whatever order the two queries are issued, they get the same replies. -/
def Commutes (perform : (query : Query) → State → State × Reply query)
    (same : State → State → Prop) (valid : State → Prop) (query other : Query) : Prop :=
  ∀ state, valid state → (perform query (perform other state).1).2 = (perform query state).2 ∧
      (perform other (perform query state).1).2 = (perform other state).2 ∧
      same (perform query (perform other state).1).1 (perform other (perform query state).1).1

variable {same : State → State → Prop} {valid : State → Prop} {state : State} {queries : List Query}
    {rest : Program Query Reply Error α}

theorem Commutes.symm {perform : (query : Query) → State → State × Reply query}
    {query other : Query} (symm : ∀ first second, same first second → same second first)
    (commutes : Commutes perform same valid query other) :
    Commutes perform same valid other query := by
  intro state isValid
  rcases commutes state isValid with ⟨queryReply, otherReply, isSame⟩
  exact ⟨otherReply, queryReply, symm _ _ isSame⟩

/-- A query that only reads commutes with what leaves its reply as it is. -/
theorem Commutes.of_read {perform : (query : Query) → State → State × Reply query}
    {query other : Query} (refl : ∀ state, same state state)
    (reads : ∀ state, (perform query state).1 = state)
    (kept : ∀ state, valid state →
      (perform query (perform other state).1).2 = (perform query state).2) :
    Commutes perform same valid query other := by
  intro state isValid
  refine ⟨kept state isValid, ?_, ?_⟩
  · rw [reads]
  · rw [reads, reads]
    exact refl _

namespace Program

/-- The program issues these queries one after the other, and is left with its rest. -/
inductive Replays (perform : (query : Query) → State → State × Reply query) :
    Program Query Reply Error α → State → List Query → Program Query Reply Error α → State → Prop
  | nil (program : Program Query Reply Error α) (state : State) :
      Replays perform program state [] program state
  | cons {query : Query} {next : Reply query → Program Query Reply Error α} {state last : State}
      {queries : List Query} {rest : Program Query Reply Error α}
      (replays : Replays perform (next (perform query state).2) (perform query state).1 queries
        rest last) :
      Replays perform (.execute query next) state (query :: queries) rest last

variable {perform : (query : Query) → State → State × Reply query}
  {same : State → State → Prop} {valid : State → Prop}

theorem Replays.snoc {program rest : Program Query Reply Error α} {state last : State}
    {queries : List Query} {query : Query} {next : Reply query → Program Query Reply Error α}
    (replays : Replays perform program state queries rest last)
    (isNext : rest = .execute query next) :
    Replays perform program state (queries ++ [query]) (next (perform query last).2)
      (perform query last).1 := by
  induction replays with
  | nil program state =>
    subst isNext
    exact .cons (.nil _ _)
  | cons _ ih => exact .cons (ih isNext)

theorem Replays.run {program : Program Query Reply Error α} {last : State} {result : Except Error α}
    (replays : Replays perform program state queries (.ofExcept result) last) :
    program.run perform state = (last, result) := by
  generalize isRest : Program.ofExcept result = rest at replays
  induction replays with
  | nil program state =>
    subst isRest
    exact run_ofExcept perform result state
  | cons _ ih => exact ih isRest

theorem Replays.congr (laws : Indistinguishable perform same)
    {program : Program Query Reply Error α} {last other : State}
    (replays : Replays perform program state queries rest last) (isSame : same state other) :
    ∃ otherLast, Replays perform program other queries rest otherLast ∧ same last otherLast := by
  induction replays generalizing other with
  | nil program state => exact ⟨other, .nil _ _, isSame⟩
  | @cons query next state _ _ _ _ ih =>
    rcases ih (laws.state query state other isSame) with ⟨otherLast, replayed, lastSame⟩
    rw [laws.reply query state other isSame] at replayed
    exact ⟨otherLast, .cons replayed, lastSame⟩

/-- A query that commutes with all that the program has issued can be moved in front of it. -/
theorem Replays.advance (laws : Indistinguishable perform same) {allowed : Query → Prop}
    (keeps : ∀ query state, allowed query → valid state → valid (perform query state).1)
    {program : Program Query Reply Error α} {last : State}
    (replays : Replays perform program state queries rest last)
    (everyAllowed : ∀ query ∈ queries, allowed query) (isValid : valid state) {query : Query}
    (commutes : ∀ other ∈ queries, Commutes perform same valid query other) :
    (perform query last).2 = (perform query state).2 ∧
      ∃ advanced, Replays perform program (perform query state).1 queries rest advanced ∧
        same (perform query last).1 advanced := by
  induction replays with
  | nil program state => exact ⟨rfl, _, .nil _ _, laws.refl _⟩
  | @cons other next state _ _ _ _ ih =>
    rcases List.forall_mem_cons.mp everyAllowed with ⟨otherAllowed, restAllowed⟩
    rcases List.forall_mem_cons.mp commutes with ⟨commutesOther, commutesRest⟩
    rcases ih restAllowed (keeps other state otherAllowed isValid) commutesRest with
      ⟨sameReply, advanced, replayed, lastSame⟩
    rcases commutesOther state isValid with ⟨queryReply, otherReply, isSame⟩
    rcases replayed.congr laws isSame with ⟨swapped, swappedReplays, advancedSame⟩
    refine ⟨sameReply.trans queryReply, swapped, .cons ?_, laws.trans _ _ _ lastSame advancedSame⟩
    rw [otherReply]
    exact swappedReplays

end Program

/-! ## Races -/

section Race

variable {Result : Bool → Type}

/-- Two programs at work, and what the one that is to come second has issued so far. -/
structure Race (Query : Type) (Reply : Query → Type) (Error : Type) (Result : Bool → Type)
    (State : Type) where
  crew : Crew Bool Query Reply Error Result State
  issued : List Query

variable (perform : (query : Query) → State → State × Reply query) (first : Bool)

namespace Race

def step (race : Race Query Reply Error Result State) (turn : Bool) :
    Option (Race Query Reply Error Result State) :=
  match race.crew.rest turn with
  | .execute query _ =>
    (Crew.step (fun _ => perform) race.crew turn).map fun crew =>
      ⟨crew, if turn = first then race.issued else race.issued ++ [query]⟩
  | _ => none

/-- The next query is allowed, and no query of the first conflicts with an earlier one of the
second. -/
def Free (allowed : Query → Prop) (conflict : Query → Query → Prop)
    (race : Race Query Reply Error Result State) (turn : Bool) : Prop :=
  ∀ query next, race.crew.rest turn = .execute query next →
    allowed query ∧ (turn = first → ∀ other ∈ race.issued, ¬conflict query other)

instance {allowed : Query → Prop} {conflict : Query → Query → Prop} [DecidablePred allowed]
    [DecidableRel conflict] (race : Race Query Reply Error Result State) (turn : Bool) :
    Decidable (Free first allowed conflict race turn) :=
  match isNext : race.crew.rest turn with
  | .done _ => isTrue (by simp [Free, isNext])
  | .raise _ => isTrue (by simp [Free, isNext])
  | .execute query _ =>
    decidable_of_iff
      (allowed query ∧ (turn = first → ∀ other ∈ race.issued, ¬conflict query other))
      ⟨fun free _ _ same => by cases isNext.symm.trans same; exact free,
        fun free => free query _ isNext⟩

variable {perform first}

theorem step_cases {race next : Race Query Reply Error Result State} {turn : Bool}
    (stepped : step perform first race turn = some next) :
    ∃ query rest, race.crew.rest turn = .execute query rest ∧
      next.crew.state = (perform query race.crew.state).1 ∧
      next.crew.rest =
        Function.update race.crew.rest turn (rest (perform query race.crew.state).2) ∧
      next.issued = if turn = first then race.issued else race.issued ++ [query] := by
  simp only [step] at stepped
  split at stepped
  · rename_i query rest isNext
    simp only [Crew.step, isNext, Option.map_some, Option.some.injEq] at stepped
    subst stepped
    exact ⟨query, rest, isNext, rfl, rfl, rfl⟩
  · cases stepped

/-- A schedule of the crew is one of the race. -/
theorem exists_runFrom (first : Bool) {start last : Crew Bool Query Reply Error Result State}
    {schedule : List Bool} (ran : runFrom (Crew.step fun _ => perform) start schedule = some last)
    (issued : List Query) :
    ∃ race, runFrom (step perform first) ⟨start, issued⟩ schedule = some race ∧
      race.crew = last := by
  induction schedule generalizing start issued with
  | nil =>
    obtain rfl : start = last := Option.some.inj ran
    exact ⟨_, rfl, rfl⟩
  | cons turn schedule ih =>
    rcases runFrom_cons.mp ran with ⟨next, stepped, rest⟩
    rcases Crew.step_cases stepped with ⟨query, continuation, isNext, _, _⟩
    rcases ih rest (if turn = first then issued else issued ++ [query]) with
      ⟨race, raceRan, isLast⟩
    refine ⟨race, runFrom_cons.mpr ⟨_, ?_, raceRan⟩, isLast⟩
    simp only [step, isNext, stepped, Option.map_some]

/-- The race, as if the first had been alone and the second had come after it. -/
structure Untangled (perform : (query : Query) → State → State × Reply query) (first : Bool)
    (same : State → State → Prop) (valid : State → Prop) (allowed : Query → Prop)
    (start : Crew Bool Query Reply Error Result State)
    (race : Race Query Reply Error Result State) (middle last : State) : Prop where
  firstReplays : ∃ queries,
    (start.rest first).Replays perform start.state queries (race.crew.rest first) middle
  secondReplays :
    (start.rest !first).Replays perform middle race.issued (race.crew.rest !first) last
  isSame : same race.crew.state last
  isValid : valid middle
  everyAllowed : ∀ query ∈ race.issued, allowed query

end Race

variable {perform first} {same : State → State → Prop} {valid : State → Prop}
  {allowed : Query → Prop} {conflict : Query → Query → Prop}

/-- One turn keeps the race untangled. -/
theorem Race.Untangled.step (laws : Indistinguishable perform same)
    (keeps : ∀ query state, allowed query → valid state → valid (perform query state).1)
    (commutes : ∀ query other, allowed query → allowed other → ¬conflict query other →
      Commutes perform same valid query other)
    {start : Crew Bool Query Reply Error Result State}
    {race next : Race Query Reply Error Result State} {middle last : State} {turn : Bool}
    (untangled : race.Untangled perform first same valid allowed start middle last)
    (free : race.Free first allowed conflict turn)
    (stepped : Race.step perform first race turn = some next) :
    ∃ middle last, next.Untangled perform first same valid allowed start middle last := by
  rcases Race.step_cases stepped with ⟨query, rest, isNext, state, others, issued⟩
  rcases free query rest isNext with ⟨isAllowed, apart⟩
  rcases untangled.firstReplays with ⟨queries, firstReplays⟩
  by_cases isFirst : turn = first
  · subst isFirst
    rw [if_pos rfl] at issued
    have commuting : ∀ other ∈ race.issued, Commutes perform same valid query other :=
      fun other member => commutes query other isAllowed (untangled.everyAllowed other member)
        (apart rfl other member)
    rcases untangled.secondReplays.advance laws keeps untangled.everyAllowed untangled.isValid
      commuting with ⟨sameReply, advanced, replayed, lastSame⟩
    refine ⟨(perform query middle).1, advanced, ⟨queries ++ [query], ?_⟩, ?_, ?_, ?_, ?_⟩
    · rw [others, Function.update_self, laws.reply query _ _ untangled.isSame, sameReply]
      exact firstReplays.snoc isNext
    · rw [others, Function.update_of_ne (by simp), issued]
      exact replayed
    · rw [state]
      exact laws.trans _ _ _ (laws.state query _ _ untangled.isSame) lastSame
    · exact keeps query middle isAllowed untangled.isValid
    · rw [issued]
      exact untangled.everyAllowed
  · obtain rfl : turn = !first := Bool.eq_not.mpr isFirst
    rw [if_neg isFirst] at issued
    refine ⟨middle, (perform query last).1, ⟨queries, ?_⟩, ?_, ?_, untangled.isValid, ?_⟩
    · rw [others, Function.update_of_ne (by simp)]
      exact firstReplays
    · rw [others, Function.update_self, issued, laws.reply query _ _ untangled.isSame]
      exact untangled.secondReplays.snoc isNext
    · rw [state]
      exact laws.state query _ _ untangled.isSame
    · rw [issued]
      intro other member
      rcases List.mem_append.mp member with isOld | isNew
      · exact untangled.everyAllowed other isOld
      · exact List.mem_singleton.mp isNew ▸ isAllowed

/-- An interleaving whose turns are all free has a serial outcome. -/
theorem serial_of_everyStep (laws : Indistinguishable perform same)
    (keeps : ∀ query state, allowed query → valid state → valid (perform query state).1)
    (commutes : ∀ query other, allowed query → allowed other → ¬conflict query other →
      Commutes perform same valid query other)
    {start last : Crew Bool Query Reply Error Result State} {schedule : List Bool}
    (isValid : valid start.state)
    (free : EveryStep (Race.step perform first) (Race.Free first allowed conflict) ⟨start, []⟩
      schedule)
    (ran : runFrom (Crew.step fun _ => perform) start schedule = some last)
    {results : (conn : Bool) → Except Error (Result conn)}
    (finished : ∀ conn, last.rest conn = .ofExcept (results conn)) :
    results first = ((start.rest first).run perform start.state).2 ∧ results (!first) =
        ((start.rest !first).run perform ((start.rest first).run perform start.state).1).2 ∧
      same last.state
        ((start.rest !first).run perform ((start.rest first).run perform start.state).1).1 := by
  rcases Race.exists_runFrom first ran [] with ⟨race, raceRan, rfl⟩
  have untangled : ∃ middle last,
      race.Untangled perform first same valid allowed start middle last := by
    clear finished ran
    revert free
    refine runFrom_induction (motive := fun schedule race =>
      EveryStep (Race.step perform first) (Race.Free first allowed conflict) ⟨start, []⟩ schedule →
        ∃ middle last, race.Untangled perform first same valid allowed start middle last)
      ?_ ?_ raceRan
    · intro _
      exact ⟨start.state, start.state, ⟨[], .nil _ _⟩, .nil _ _, laws.refl _, isValid, by simp⟩
    · intro past race turn next reached ih stepped free
      rcases ih free.take with ⟨middle, last, untangled⟩
      exact untangled.step laws keeps commutes (free.at reached) stepped
  rcases untangled with ⟨middle, final, ⟨queries, firstReplays⟩, secondReplays, isSame, _, _⟩
  rw [finished] at firstReplays secondReplays
  rw [firstReplays.run]
  dsimp only
  rw [secondReplays.run]
  exact ⟨rfl, rfl, isSame⟩

end Race

end Reperio.Concurrency
