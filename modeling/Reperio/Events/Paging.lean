import Reperio.Concurrency.Interleaving
import Reperio.Events.Append

/-!
# Paging through the events of a case

Any number of connections append and publish events, their statements
interleaved in any way, while a consumer polls one case after the last number
it has received. Without compaction the numbers of every case are 1, 2, 3, ...
in the order of insertion: of two calls that read the same next number, the
unique index lets only one insert its event. So the pages of the consumer,
one after the other, are always the first events of the case.
-/

namespace Reperio

open Python Relational Concurrency

variable {runtime : Runtime}

variable {catalog : Catalog runtime} {caseId : String}

namespace Events

/-! ## The numbers of a case -/

/-- The events of a case in the order in which they were appended. -/
def caseEvents (catalog : Catalog runtime) (caseId : String) : List Event :=
  catalog.events.rows.filter fun event => decide (event.caseId = some caseId)

/-- The numbers of every case count its events. -/
def Numbered (catalog : Catalog runtime) : Prop :=
  ∀ caseId, (caseEvents catalog caseId).map Event.sequence =
    List.range' 1 (caseEvents catalog caseId).length

theorem map_unpublished_caseEvents (catalog : Catalog runtime) (caseId : String) :
    (caseEvents catalog caseId).map Event.unpublished =
      (catalog.events.rows.map Event.unpublished).filter fun event =>
        decide (event.caseId = some caseId) := by
  rw [List.filter_map]
  rfl

theorem map_sequence_unpublished (events : List Event) :
    (events.map Event.unpublished).map Event.sequence = events.map Event.sequence := by
  rw [List.map_map]
  rfl

theorem Numbered.congr {next : Catalog runtime} (numbered : Numbered catalog)
    (same : next.events.rows.map Event.unpublished = catalog.events.rows.map Event.unpublished) :
    Numbered next := by
  intro caseId
  have sameEvents : (caseEvents next caseId).map Event.unpublished =
      (caseEvents catalog caseId).map Event.unpublished := by
    rw [map_unpublished_caseEvents, same, ← map_unpublished_caseEvents]
  have sameLength := congrArg List.length sameEvents
  rw [List.length_map, List.length_map] at sameLength
  rw [← map_sequence_unpublished, sameEvents, map_sequence_unpublished, sameLength]
  exact numbered caseId

theorem Numbered.mem_sequence_iff (numbered : Numbered catalog) {sequence : ℕ} :
    (∃ event ∈ catalog.events.rows, event.caseId = some caseId ∧ event.sequence = sequence) ↔
      0 < sequence ∧ sequence ≤ (caseEvents catalog caseId).length := by
  have inRange : sequence ∈ (caseEvents catalog caseId).map Event.sequence ↔
      0 < sequence ∧ sequence ≤ (caseEvents catalog caseId).length := by
    rw [numbered caseId, List.mem_range'_1]
    omega
  rw [← inRange]
  simp only [caseEvents, List.mem_map, List.mem_filter, decide_eq_true_eq, and_assoc]

theorem Numbered.nextSequence_le (numbered : Numbered catalog) (caseId : String) :
    OutboxStatement.nextSequence catalog caseId ≤ (caseEvents catalog caseId).length + 1 := by
  refine OutboxStatement.nextSequence_le (Nat.succ_pos _) ?_
  intro event member isCase
  exact Nat.lt_succ_of_le (numbered.mem_sequence_iff.mp ⟨event, member, isCase, rfl⟩).2

/-- A number that is free and not above the next one is the next one. -/
theorem Numbered.insert {catalog : Catalog runtime} (numbered : Numbered catalog) {row : Event}
    {events : Table (eventsSchema runtime)} {caseId : String} (isCase : row.caseId = some caseId)
    (atMost : row.sequence ≤ OutboxStatement.nextSequence catalog caseId)
    (inserted : catalog.events.insert row = some events) :
    Numbered { catalog with events } := by
  rcases Table.insert_eq_some.mp inserted with ⟨checked, noClash, rows⟩
  have positive : 0 < row.sequence := by
    have passes : row.check runtime = true := checked
    simp only [Event.check, Bool.and_eq_true, decide_eq_true_eq] at passes
    exact passes.1.1.1
  have free : ¬row.sequence ≤ (caseEvents catalog caseId).length := by
    intro taken
    rcases numbered.mem_sequence_iff.mpr ⟨positive, taken⟩ with ⟨old, member, oldCase, same⟩
    refine noClash old member (Or.inr ⟨?_, oldCase.trans isCase.symm, same⟩)
    rw [oldCase]
    rfl
  have isNext : row.sequence = (caseEvents catalog caseId).length + 1 := by
    have bound := numbered.nextSequence_le caseId
    omega
  intro other
  by_cases same : other = caseId
  · subst same
    have appended : caseEvents { catalog with events } other =
        caseEvents catalog other ++ [row] := by
      simp [caseEvents, rows, isCase]
    rw [appended, List.map_append, numbered other, List.length_append, List.map_singleton, isNext,
      List.length_singleton, List.range'_concat]
    simp [Nat.add_comm]
  · have unchanged : caseEvents { catalog with events } other = caseEvents catalog other := by
      have different : row.caseId ≠ some other := by
        rw [isCase]
        exact fun equal => same (Option.some.inj equal).symm
      simp [caseEvents, rows, different]
    rw [unchanged]
    exact numbered other

/-- The events after a number are those that are left when so many are skipped. -/
theorem Numbered.filter_after (numbered : Numbered catalog) {number : ℕ}
    (atMost : number ≤ (caseEvents catalog caseId).length) :
    (catalog.events.rows.filter fun event =>
      decide (event.caseId = some caseId) && decide (number < event.sequence)) =
        (caseEvents catalog caseId).drop number := by
  have split : (catalog.events.rows.filter fun event =>
      decide (event.caseId = some caseId) && decide (number < event.sequence)) =
      (caseEvents catalog caseId).filter fun event => decide (number < event.sequence) := by
    rw [caseEvents, List.filter_filter]
    refine List.filter_congr fun event _ => ?_
    rw [Bool.and_comm]
  have skipped : ((caseEvents catalog caseId).take number).filter
      (fun event => decide (number < event.sequence)) = [] := by
    refine List.filter_eq_nil_iff.mpr ?_
    intro event member
    have inRange := List.mem_map_of_mem (f := Event.sequence) member
    rw [List.map_take, numbered caseId, List.take_range'_of_length_ge atMost,
      List.mem_range'_1] at inRange
    simp only [decide_eq_true_eq]
    omega
  have kept : ((caseEvents catalog caseId).drop number).filter
      (fun event => decide (number < event.sequence)) =
        (caseEvents catalog caseId).drop number := by
    refine List.filter_eq_self.mpr ?_
    intro event member
    have inRange := List.mem_map_of_mem (f := Event.sequence) member
    rw [List.map_drop, numbered caseId, List.drop_range', List.mem_range'_1] at inRange
    simp only [decide_eq_true_eq]
    omega
  have parts := List.take_append_drop number (caseEvents catalog caseId)
  rw [split, ← parts, List.filter_append, skipped, kept, parts, List.nil_append]

theorem Numbered.sorted (numbered : Numbered catalog) (caseId : String) :
    (caseEvents catalog caseId).Pairwise fun first second =>
      first.sequence ≤ second.sequence := by
  have increasing := List.pairwise_lt_range' (s := 1) (n := (caseEvents catalog caseId).length)
  rw [← numbered caseId] at increasing
  exact (List.pairwise_map.mp increasing).imp fun below => below.le

/-! ## Statements of interleaved calls -/

/-- Numbers are read before they are used, so they may be too small but not too large. -/
def Guard : OutboxStatement → Catalog runtime → Prop
  | .insertEvent _ caseId sequence .., catalog =>
    sequence ≤ OutboxStatement.nextSequence catalog caseId
  | .deletePublished .., _ => False
  | _, _ => True

/-- Between two statements of a call, the next number of a case may only grow. -/
def Grows (first second : Catalog runtime) : Prop :=
  ∀ caseId, OutboxStatement.nextSequence first caseId ≤ OutboxStatement.nextSequence second caseId

theorem Grows.refl (catalog : Catalog runtime) : Grows catalog catalog := fun _ => le_rfl

theorem Grows.trans (first second third : Catalog runtime) (one : Grows first second)
    (two : Grows second third) : Grows first third :=
  fun caseId => (one caseId).trans (two caseId)

theorem guard_of_quiet (statement : OutboxStatement) (catalog : Catalog runtime)
    (quiet : statement.Quiet) : Guard statement catalog := by
  cases statement with
  | insertEvent eventId caseId sequence jobId eventType payloadJson now => cases quiet.1
  | deletePublished beforeCreatedAt limit => cases quiet.2
  | _ => trivial

/-- Everything that a guarded statement can do to the events. -/
theorem Guard.perform_cases {statement : OutboxStatement} (guarded : Guard statement catalog) :
    (statement.perform catalog).1.events.rows.map Event.unpublished =
      catalog.events.rows.map Event.unpublished ∨
    ∃ row caseId events, row.caseId = some caseId ∧
      row.sequence ≤ OutboxStatement.nextSequence catalog caseId ∧
      catalog.events.insert row = some events ∧
      (statement.perform catalog).1 = { catalog with events } := by
  cases statement with
  | insertEvent eventId caseId sequence jobId eventType payloadJson now =>
    simp only [OutboxStatement.perform]
    rcases OutboxStatement.insertRow_cases catalog
      { eventId, caseId := some caseId, sequence, jobId, eventType, payloadJson,
        publishedAt := none, createdAt := now } with
      ⟨events, _, _, inserted, result⟩ | ⟨_, result⟩
    · rw [result]
      exact Or.inr ⟨_, caseId, events, rfl, by simpa only [Guard] using guarded, inserted, rfl⟩
    · rw [result]
      exact Or.inl rfl
  | deletePublished beforeCreatedAt limit => exact guarded.elim
  | _ => exact Or.inl (OutboxStatement.perform_rows_of_quiet ⟨rfl, rfl⟩ catalog)

theorem Guard.grows {statement : OutboxStatement} (guarded : Guard statement catalog) :
    Grows catalog (statement.perform catalog).1 := by
  rcases guarded.perform_cases with same | ⟨row, caseId, events, _, _, inserted, result⟩
  · exact OutboxStatement.nextSequence_mono (by rw [same]; exact List.Subset.refl _)
  · rw [result]
    refine OutboxStatement.nextSequence_mono (List.map_subset _ ?_)
    rw [(Table.insert_eq_some.mp inserted).2.2]
    exact List.subset_append_left _ _

theorem Guard.caseEvents_extend {statement : OutboxStatement} (guarded : Guard statement catalog)
    (caseId : String) :
    (caseEvents catalog caseId).map Event.unpublished <+:
      (caseEvents (statement.perform catalog).1 caseId).map Event.unpublished := by
  rcases guarded.perform_cases with same | ⟨row, _, events, _, _, inserted, result⟩
  · have unchanged : (caseEvents catalog caseId).map Event.unpublished =
        (caseEvents (statement.perform catalog).1 caseId).map Event.unpublished := by
      rw [map_unpublished_caseEvents, map_unpublished_caseEvents, same]
    exact unchanged ▸ List.prefix_rfl
  · rw [result]
    refine List.IsPrefix.map _ ?_
    rw [caseEvents, caseEvents, (Table.insert_eq_some.mp inserted).2.2, List.filter_append]
    exact List.prefix_append _ _

theorem Numbered.perform {statement : OutboxStatement} (numbered : Numbered catalog)
    (guarded : Guard statement catalog) : Numbered (statement.perform catalog).1 := by
  rcases guarded.perform_cases with same | ⟨row, caseId, events, isCase, atMost, inserted, result⟩
  · exact numbered.congr same
  · rw [result]
    exact numbered.insert isCase atMost inserted

theorem guarded_of_quiet {α : Type} {program : OutboxProgram α}
    (issues : program.Issues OutboxStatement.Quiet) (catalog : Catalog runtime) :
    (outboxService runtime).Guarded Grows Guard program catalog :=
  Service.guarded_of_issues (S := outboxService runtime) guard_of_quiet issues catalog

theorem appendEvent_guarded (new : NewEvent) (catalog : Catalog runtime) :
    (outboxService runtime).Guarded Grows Guard (appendEvent runtime new) catalog := by
  refine Service.guarded_ofExcept_bind fun _ _ => ?_
  refine Service.guarded_ofExcept_bind fun _ _ => ?_
  refine Service.guarded_ofExcept_bind fun _ _ => ?_
  refine Service.guarded_ofExcept_bind fun _ _ => ?_
  intro counted _
  refine ⟨trivial, Service.guarded_ofExcept_bind fun payloadJson _ => ?_⟩
  refine Service.guarded_ofExcept_bind fun _ _ => ?_
  intro later grown
  refine ⟨grown new.caseId, Service.guarded_ofExcept_bind fun _ _ => ?_⟩
  exact guarded_of_quiet (getEvent_issues new.eventId) _

theorem transitionJobAndAppendEvent_guarded (arguments : Transition) (catalog : Catalog runtime) :
    (outboxService runtime).Guarded Grows Guard (transitionJobAndAppendEvent runtime arguments)
      catalog := by
  refine Service.Guarded.bind (S := outboxService runtime)
    (guarded_of_quiet (ofJobProgram_issues _) catalog) fun job later => ?_
  dsimp only
  split
  · trivial
  · exact Service.Guarded.bind (S := outboxService runtime)
      (guarded_of_quiet (ofJobProgram_issues _) later) fun _ last => appendEvent_guarded _ last

end Events

namespace OutboxCall

def compacts : OutboxCall → Bool
  | compactPublishedEvents .. => true
  | _ => false

open Events in
/-- Every call but a compaction uses the numbers it reads. -/
theorem program_guarded {call : OutboxCall} (noCompaction : call.compacts = false)
    (catalog : Catalog runtime) :
    (outboxService runtime).Guarded Grows Guard (call.program runtime) catalog := by
  cases call with
  | appendEvent new => exact appendEvent_guarded new catalog
  | transitionJobAndAppendEvent arguments =>
    exact transitionJobAndAppendEvent_guarded arguments catalog
  | listEvents caseId afterSequence limit =>
    exact guarded_of_quiet (listEvents_issues caseId afterSequence limit) catalog
  | markPublished eventIds publishedAt =>
    exact guarded_of_quiet (markPublished_issues eventIds publishedAt) catalog
  | compactPublishedEvents beforeCreatedAt limit => cases noCompaction

end OutboxCall

namespace Events

/-! ## The consumer -/

/-- Calls in progress on a catalog, and the pages a consumer of one case has received. -/
structure Delivery (runtime : Runtime) (Conn : Type) where
  system : (outboxService runtime).System Conn
  received : List Event

/-- A step of the service, or a reader asks for a page. -/
inductive DeliveryAction (runtime : Runtime) (Conn : Type) where
  | system (action : (outboxService runtime).Action Conn)
  | poll (limit : PyValue)

/-- The action starts a compaction. -/
def DeliveryAction.compacts {Conn : Type} : DeliveryAction runtime Conn → Bool
  | .system (.start _ call) => call.compacts
  | _ => false

namespace Delivery

variable {Conn : Type}

def ofCatalog (Conn : Type) (catalog : Catalog runtime) : Delivery runtime Conn :=
  ⟨(outboxService runtime).idle Conn catalog, []⟩

/-- The number of the last event received, initially 0. -/
def lastReceived (delivery : Delivery runtime Conn) : ℕ :=
  (delivery.received.getLast?.map Event.sequence).getD 0

/-- The page of the next poll. -/
def page (caseId : String) (delivery : Delivery runtime Conn) (limit : PyValue) :
    Except PyError (List Event) :=
  ((listEvents caseId (.int delivery.lastReceived) limit).run OutboxStatement.perform
    delivery.system.state).2

/-- One statement of a call, or a poll; a poll that raises brings nothing. -/
def step [DecidableEq Conn] (caseId : String) (delivery : Delivery runtime Conn) :
    DeliveryAction runtime Conn → Option (Delivery runtime Conn)
  | .system action =>
    (Service.step delivery.system action).map fun system => { delivery with system }
  | .poll limit => some
      { delivery with received :=
        delivery.received ++ (delivery.page caseId limit).toOption.getD [] }

/-- The pages are the first events of the case, and all of them once a page is empty. -/
structure Exact (caseId : String) (delivery : Delivery runtime Conn) : Prop where
  inOrder : delivery.received.map Event.unpublished <+:
    (caseEvents delivery.system.state caseId).map Event.unpublished
  numbers : delivery.received.map Event.sequence = List.range' 1 delivery.received.length
  complete : ∀ limit, delivery.page caseId limit = .ok [] →
    delivery.received.map Event.unpublished =
      (caseEvents delivery.system.state caseId).map Event.unpublished

/-- What carries `Exact` through a run. -/
structure Regular (caseId : String) (delivery : Delivery runtime Conn) : Prop where
  guarded : delivery.system.Guarded Grows Guard
  numbered : Numbered delivery.system.state
  inOrder : delivery.received.map Event.unpublished <+:
    (caseEvents delivery.system.state caseId).map Event.unpublished

theorem Regular.numbers {delivery : Delivery runtime Conn} (regular : delivery.Regular caseId) :
    delivery.received.map Event.sequence = List.range' 1 delivery.received.length := by
  have numbers : delivery.received.map Event.sequence <+:
      List.range' 1 (caseEvents delivery.system.state caseId).length := by
    have mapped := regular.inOrder.map Event.sequence
    rwa [map_sequence_unpublished, map_sequence_unpublished, regular.numbered] at mapped
  have atMost := numbers.length_le
  rw [List.length_map, List.length_range'] at atMost
  rw [List.prefix_iff_eq_take.mp numbers, List.length_map, List.take_range'_of_length_ge atMost]

theorem Regular.lastReceived_eq {delivery : Delivery runtime Conn}
    (regular : delivery.Regular caseId) : delivery.lastReceived = delivery.received.length := by
  rw [lastReceived, ← List.getLast?_map, regular.numbers, List.getLast?_range']
  split
  · rename_i none
    exact none.symm
  · simp

/-- A page continues where the last one ended, with at least one event if there is one. -/
theorem Regular.page_cases {delivery : Delivery runtime Conn} (regular : delivery.Regular caseId)
    (limit : PyValue) :
    (∃ count, 0 < count ∧ delivery.page caseId limit =
      .ok (((caseEvents delivery.system.state caseId).drop delivery.received.length).take count)) ∨
    ∃ error, delivery.page caseId limit = .error error := by
  have atMost : delivery.received.length ≤ (caseEvents delivery.system.state caseId).length := by
    simpa using regular.inOrder.length_le
  rw [page, regular.lastReceived_eq]
  rcases run_listEvents caseId delivery.received.length limit delivery.system.state with
    ⟨count, positive, ran⟩ | ⟨error, ran⟩
  · refine Or.inl ⟨count, positive, ?_⟩
    rw [ran, regular.numbered.filter_after atMost, orderLimit_of_pairwise]
    exact (regular.numbered.sorted caseId).drop
  · exact Or.inr ⟨error, by rw [ran]⟩

theorem Regular.exact {delivery : Delivery runtime Conn} (regular : delivery.Regular caseId) :
    delivery.Exact caseId := by
  refine ⟨regular.inOrder, regular.numbers, ?_⟩
  intro limit empty
  rcases regular.page_cases limit with ⟨count, positive, page⟩ | ⟨error, page⟩
  · have nothing := Except.ok.inj (page.symm.trans empty)
    rcases List.take_eq_nil_iff.mp nothing with none | none
    · exact absurd none positive.ne'
    · refine regular.inOrder.eq_of_length_le ?_
      rw [List.length_map, List.length_map]
      exact List.drop_eq_nil_iff.mp none
  · cases page.symm.trans empty

theorem Regular.poll {delivery : Delivery runtime Conn} (regular : delivery.Regular caseId)
    (limit : PyValue) :
    ({ delivery with
      received := delivery.received ++ (delivery.page caseId limit).toOption.getD [] } :
      Delivery runtime Conn).Regular caseId := by
  refine ⟨regular.guarded, regular.numbered, ?_⟩
  rcases regular.page_cases limit with ⟨count, _, page⟩ | ⟨error, page⟩
  · have sofar := List.prefix_iff_eq_take.mp regular.inOrder
    rw [List.length_map] at sofar
    rw [page, Except.toOption, Option.getD_some, List.map_append, sofar, List.map_take,
      List.map_drop, ← List.take_add]
    exact List.take_prefix _ _
  · rw [page]
    simpa [Except.toOption] using regular.inOrder

theorem regular_ofCatalog (noEvents : catalog.events.rows = []) (caseId : String) :
    (ofCatalog Conn catalog).Regular caseId := by
  have none : ∀ caseId, caseEvents catalog caseId = [] := by
    intro caseId
    rw [caseEvents, noEvents]
    rfl
  refine ⟨Service.guarded_idle (S := outboxService runtime) catalog, ?_, List.nil_prefix⟩
  intro caseId
  simp only [ofCatalog, Service.idle, none]
  rfl

variable [DecidableEq Conn]

theorem Regular.system {delivery : Delivery runtime Conn} (regular : delivery.Regular caseId)
    {action : (outboxService runtime).Action Conn}
    (noCompaction : (DeliveryAction.system action).compacts = false)
    {system : (outboxService runtime).System Conn}
    (stepped : Service.step delivery.system action = some system) :
    ({ delivery with system } : Delivery runtime Conn).Regular caseId := by
  have guarded : system.Guarded Grows Guard := by
    refine regular.guarded.step Grows.refl Grows.trans (fun _ _ guarded => guarded.grows) ?_ stepped
    rintro conn call rfl
    exact OutboxCall.program_guarded noCompaction delivery.system.state
  rcases regular.guarded.state_cases Grows.refl stepped with same | ⟨statement, allowed, performed⟩
  · exact ⟨guarded, by rw [same]; exact regular.numbered, by rw [same]; exact regular.inOrder⟩
  · refine ⟨guarded, ?_, ?_⟩
    · rw [performed]
      exact regular.numbered.perform allowed
    · rw [performed]
      exact regular.inOrder.trans (allowed.caseEvents_extend caseId)

theorem Regular.step {caseId : String} {delivery next : Delivery runtime Conn}
    {action : DeliveryAction runtime Conn} (regular : delivery.Regular caseId)
    (noCompaction : action.compacts = false)
    (stepped : delivery.step caseId action = some next) : next.Regular caseId := by
  cases action with
  | system action =>
    rcases Option.map_eq_some_iff.mp stepped with ⟨system, systemStepped, rfl⟩
    exact regular.system noCompaction systemStepped
  | poll limit =>
    cases stepped
    exact regular.poll limit

end Delivery

/-- However the statements of appending and publishing calls interleave with the polls of a
consumer, its pages are at every moment the first events of the case, and once a page is empty, all
of them. -/
theorem pages_exact {Conn : Type} [DecidableEq Conn] {caseId : String} {catalog : Catalog runtime}
    {actions : List (DeliveryAction runtime Conn)} (noEvents : catalog.events.rows = [])
    (noCompaction : ∀ action ∈ actions, action.compacts = false) :
    EveryState (Delivery.step caseId) (Delivery.Exact caseId) (.ofCatalog Conn catalog)
      actions := by
  rintro before after rfl delivery reached
  have passed : ∀ action ∈ before, action.compacts = false :=
    fun action member => noCompaction action (List.mem_append_left _ member)
  have regular : (∀ action ∈ before, action.compacts = false) → delivery.Regular caseId := by
    refine runFrom_induction (fun _ => Delivery.regular_ofCatalog noEvents caseId) ?_ reached
    intro past state action next _ ih stepped noCompaction
    refine (ih fun other member => noCompaction other (List.mem_append_left _ member)).step ?_
      stepped
    exact noCompaction action (List.mem_append_right _ (List.mem_singleton_self _))
  exact (regular passed).exact

/-- Two connections read the same next number; the one that comes second has to try again. -/
def racingRun : List (DeliveryAction .sample ℕ) :=
  let second := { NewEvent.sample with eventId := "event-2" }
  [.system (.start 0 (.appendEvent .sample)), .system (.start 1 (.appendEvent second)),
    .system (.advance 0), .system (.advance 1), .system (.advance 0), .system (.advance 1),
    .system (.start 1 (.appendEvent second)), .system (.advance 1), .poll (.int 1),
    .system (.advance 1), .poll (.int 1)]

theorem racing_events_received_once :
    (runFrom (Delivery.step "case-1") (.ofCatalog ℕ (.initial .sample ["case-1"])) racingRun).map
      (fun delivery => delivery.received.map fun event => (event.eventId, event.sequence)) =
        some [("event-1", 1), ("event-2", 2)] ∧
    EveryState (Delivery.step "case-1") (Delivery.Exact "case-1")
      (.ofCatalog ℕ (.initial .sample ["case-1"])) racingRun := by
  refine ⟨by decide, pages_exact rfl ?_⟩
  simp [racingRun, DeliveryAction.compacts, OutboxCall.compacts]

end Events

end Reperio
