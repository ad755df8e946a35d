import Mathlib.Data.Finset.Max
import Reperio.Concurrency.Transition
import Reperio.Events.Append

/-!
# The numbers of a case over its whole history

`append_event` computes the next number from the rows that are stored, and
`compact_published_events` deletes rows. The numbers of a case only grow as
long as its highest one is still stored whenever an event is appended, and a
client that polls after the largest number it has seen is only then sure to
receive what it has not seen.
-/

namespace Reperio

open Python Relational Concurrency

variable {runtime : Runtime}

namespace OutboxCall

/-- The event that a call appended. -/
def appended : (call : OutboxCall) → call.Result → Option Event
  | appendEvent _, event => some event
  | transitionJobAndAppendEvent _, event => some event
  | listEvents .., _ => none
  | markPublished .., _ => none
  | compactPublishedEvents .., _ => none

/-- The case that a call is to append an event to. -/
def appendsTo (catalog : Catalog runtime) : OutboxCall → Option String
  | appendEvent new => some new.caseId
  | transitionJobAndAppendEvent arguments => (catalog.jobs.lookup arguments.jobId).bind Job.caseId
  | listEvents .. => none
  | markPublished .. => none
  | compactPublishedEvents .. => none

/-- The event is new in its case and has the next number there. -/
structure Appends (catalog next : Catalog runtime) (caseId : String) (event : Event) : Prop where
  case : event.caseId = some caseId
  sequence : event.sequence = OutboxStatement.nextSequence catalog caseId
  unpublished : event.unpublished = event
  rows : next.events.rows = catalog.events.rows ++ [event]

theorem rows_subset_of_issues {call : OutboxCall} {catalog next : Catalog runtime}
    {result : call.Result}
    (ran : (call.program runtime).run OutboxStatement.perform catalog = (next, .ok result))
    (issues : (call.program runtime).Issues fun statement => statement.inserts = false) :
    next.events.rows.map Event.unpublished ⊆ catalog.events.rows.map Event.unpublished := by
  have subset := Events.run_rows_subset issues catalog
  rwa [ran] at subset

/-- A call that succeeds appends one event, or leaves only events that were there before. -/
theorem run_events_cases {call : OutboxCall} {catalog next : Catalog runtime}
    {result : call.Result}
    (ran : (call.program runtime).run OutboxStatement.perform catalog = (next, .ok result)) :
    (∃ caseId event, call.appendsTo catalog = some caseId ∧ call.appended result = some event ∧
      Appends catalog next caseId event) ∨
    (call.appendsTo catalog = none ∧ call.appended result = none ∧
      next.events.rows.map Event.unpublished ⊆ catalog.events.rows.map Event.unpublished) := by
  cases call with
  | appendEvent new =>
    left
    rcases Events.run_appendEvent new catalog with
      ⟨_, payloadJson, events, _, inserted, outcome⟩ | ⟨_, error, outcome⟩
    · cases outcome.symm.trans ran
      exact ⟨new.caseId, _, rfl, rfl, ⟨rfl, rfl, rfl, (Table.insert_eq_some.mp inserted).2.2⟩⟩
    · cases outcome.symm.trans ran
  | transitionJobAndAppendEvent arguments =>
    left
    rcases Events.transition_accepted_or_rejected catalog arguments with
      ⟨job, jobs, statement, ⟨found, hasCase, _⟩, _, _, transitioned⟩ | ⟨_, error, outcome⟩
    · have appending := transitioned.symm.trans ran
      rcases Events.run_appendEvent (arguments.newEvent (job.caseId.getD ""))
        { catalog with jobs } with
        ⟨_, payloadJson, events, _, inserted, outcome⟩ | ⟨_, error, outcome⟩
      · cases outcome.symm.trans appending
        refine ⟨job.caseId.getD "", _, ?_, rfl, ⟨rfl, rfl, rfl, ?_⟩⟩
        · simp only [appendsTo, found, Option.bind_some]
          cases isCase : job.caseId with
          | none => simp [isCase] at hasCase
          | some caseId => rfl
        · exact (Table.insert_eq_some.mp inserted).2.2
      · cases outcome.symm.trans appending
    · cases outcome.symm.trans ran
  | listEvents caseId afterSequence limit =>
    exact Or.inr ⟨rfl, rfl, rows_subset_of_issues ran
      ((Events.listEvents_issues caseId afterSequence limit).mono fun _ => And.left)⟩
  | markPublished eventIds publishedAt =>
    exact Or.inr ⟨rfl, rfl, rows_subset_of_issues ran
      ((Events.markPublished_issues eventIds publishedAt).mono fun _ => And.left)⟩
  | compactPublishedEvents beforeCreatedAt limit =>
    exact Or.inr ⟨rfl, rfl, rows_subset_of_issues ran
      (Events.compactPublishedEvents_issues beforeCreatedAt limit)⟩

end OutboxCall

namespace Events

/-! ## Histories -/

/-- A catalog, every event that was appended to it, and what a client received. -/
structure History (runtime : Runtime) where
  catalog : Catalog runtime
  appended : List Event
  received : List Event

/-- A whole call, or a reader asks for a page. -/
inductive HistoryAction where
  | call (call : OutboxCall)
  | poll (limit : PyValue)

namespace History

def ofCatalog (catalog : Catalog runtime) : History runtime := ⟨catalog, [], []⟩

/-- The largest number that the client has seen, or 0. -/
def largestSeen (history : History runtime) : ℕ := (history.received.map Event.sequence).foldr max 0

/-- A call that succeeds, or a poll of the case by the client. -/
def step (caseId : String) (history : History runtime) : HistoryAction → Option (History runtime)
  | .call call =>
    match (call.program runtime).run OutboxStatement.perform history.catalog with
    | (catalog, .ok result) => some
        { history with
          catalog, appended := history.appended ++ (call.appended result).toList }
    | (_, .error _) => none
  | .poll limit =>
    match (listEvents caseId (.int history.largestSeen) limit).run OutboxStatement.perform
        history.catalog with
    | (_, .ok page) => some { history with received := history.received ++ page }
    | (_, .error _) => none

/-- Within each case, every number is above those assigned before it. -/
def Increasing (history : History runtime) : Prop := history.appended.Pairwise fun earlier later =>
    earlier.caseId = later.caseId → earlier.sequence < later.sequence

/-- Polling after the largest number seen cannot pass over an event: the client has it already. -/
def NothingMissed (caseId : String) (history : History runtime) : Prop :=
  ∀ event ∈ history.catalog.events.rows, event.caseId = some caseId →
    event.sequence ≤ history.largestSeen →
      event.unpublished ∈ history.received.map Event.unpublished

/-- The highest event that was ever appended to the case is still stored. -/
def HighestKept (history : History runtime) (caseId : String) : Prop :=
  ∀ event ∈ history.appended, event.caseId = some caseId →
    (∀ other ∈ history.appended, other.caseId = some caseId → other.sequence ≤ event.sequence) →
      event ∈ history.catalog.events.rows.map Event.unpublished

/-- A call that appends an event finds the highest one of the case. -/
def FindsHighest (history : History runtime) : HistoryAction → Prop
  | .call call => ∀ caseId, call.appendsTo history.catalog = some caseId →
      history.HighestKept caseId
  | .poll _ => True

/-- What is stored or was received has been appended. -/
structure Traced (caseId : String) (history : History runtime) : Prop where
  positive : ∀ event ∈ history.appended, 0 < event.sequence
  stored : history.catalog.events.rows.map Event.unpublished ⊆ history.appended
  received : history.received.map Event.unpublished ⊆ history.appended
  ofCase : ∀ event ∈ history.received, event.caseId = some caseId

theorem Increasing.eq {history : History runtime} (increasing : history.Increasing)
    {first second : Event} (firstMem : first ∈ history.appended)
    (secondMem : second ∈ history.appended) (sameCase : first.caseId = second.caseId)
    (sameNumber : first.sequence = second.sequence) : first = second := by
  have forward : history.appended.Pairwise fun earlier later =>
      earlier.caseId = later.caseId → earlier.sequence = later.sequence → earlier = later :=
    increasing.imp fun below sameCase sameNumber => absurd sameNumber (below sameCase).ne
  have backward : history.appended.Pairwise (flip fun earlier later =>
      earlier.caseId = later.caseId → earlier.sequence = later.sequence → earlier = later) :=
    increasing.imp fun below sameCase sameNumber => absurd sameNumber (below sameCase.symm).ne'
  exact List.Pairwise.forall_of_forall_of_flip (fun _ _ _ _ => rfl) forward backward firstMem
    secondMem sameCase sameNumber

/-- The next number is new exactly when the highest event of the case is still stored. -/
theorem Traced.nextSequence_new_iff {caseId client : String} {history : History runtime}
    (traced : history.Traced client) (increasing : history.Increasing) :
    (∀ event ∈ history.appended, event.caseId = some caseId →
      event.sequence < OutboxStatement.nextSequence history.catalog caseId) ↔
      history.HighestKept caseId := by
  constructor
  · intro new event member isCase highest
    by_contra notStored
    refine (new event member isCase).not_ge (OutboxStatement.nextSequence_le
      (traced.positive event member) ?_)
    intro row stored rowCase
    have rowMem := traced.stored (List.mem_map_of_mem stored)
    refine lt_of_le_of_ne (highest row.unpublished rowMem rowCase) ?_
    intro sameNumber
    apply notStored
    rw [← increasing.eq rowMem member (rowCase.trans isCase.symm) sameNumber]
    exact List.mem_map_of_mem stored
  · intro kept event member isCase
    -- the list of the case's events is not empty, so one of them has the highest number
    have inCase : event ∈ (history.appended.filter fun event =>
        decide (event.caseId = some caseId)).toFinset := by
      simp [member, isCase]
    rcases Finset.exists_max_image _ Event.sequence ⟨event, inCase⟩ with ⟨top, topMem, isTop⟩
    simp only [List.mem_toFinset, List.mem_filter, decide_eq_true_eq] at topMem isTop inCase
    rcases List.mem_map.mp (kept top topMem.1 topMem.2 fun other otherMem otherCase =>
      isTop other ⟨otherMem, otherCase⟩) with ⟨row, stored, rfl⟩
    have below : row.sequence < OutboxStatement.nextSequence history.catalog caseId :=
      OutboxStatement.sequence_lt_nextSequence stored topMem.2
    exact (isTop event inCase).trans_lt below

/-! ## One action -/

/-- Everything one action can do. -/
theorem step_cases {caseId : String} {history next : History runtime} {action : HistoryAction}
    (stepped : history.step caseId action = some next) :
    (∃ call target event, action = .call call ∧ call.appendsTo history.catalog = some target ∧
      OutboxCall.Appends history.catalog next.catalog target event ∧
      next.appended = history.appended ++ [event] ∧ next.received = history.received) ∨
    (history.FindsHighest action ∧ next.catalog.events.rows.map Event.unpublished ⊆
        history.catalog.events.rows.map Event.unpublished ∧
      next.appended = history.appended ∧ next.received = history.received) ∨
    (∃ count, history.FindsHighest action ∧ next.catalog = history.catalog ∧
      next.appended = history.appended ∧ next.received = history.received ++
        orderLimit Event.sequence count (history.catalog.events.rows.filter fun event =>
          decide (event.caseId = some caseId) &&
            decide (history.largestSeen < event.sequence))) := by
  cases action with
  | call call =>
    simp only [step] at stepped
    split at stepped
    · rename_i catalog result ran
      cases stepped
      rcases OutboxCall.run_events_cases ran with
        ⟨target, event, appendsTo, appended, appends⟩ | ⟨appendsTo, appended, subset⟩
      · exact Or.inl ⟨call, target, event, rfl, appendsTo, appends, by simp [appended], rfl⟩
      · refine Or.inr (Or.inl ⟨?_, subset, by simp [appended], rfl⟩)
        intro target isTarget
        rw [appendsTo] at isTarget
        cases isTarget
    · cases stepped
  | poll limit =>
    simp only [step] at stepped
    rcases run_listEvents caseId history.largestSeen limit history.catalog with
      ⟨count, _, ran⟩ | ⟨error, ran⟩
    · rw [ran] at stepped
      cases stepped
      exact Or.inr (Or.inr ⟨count, trivial, rfl, rfl, rfl⟩)
    · rw [ran] at stepped
      cases stepped

theorem Traced.step {caseId : String} {history next : History runtime} {action : HistoryAction}
    (traced : history.Traced caseId) (stepped : history.step caseId action = some next) :
    next.Traced caseId := by
  rcases step_cases stepped with ⟨call, target, event, _, _, appends, appended, received⟩ |
    ⟨_, subset, appended, received⟩ | ⟨count, _, catalog, appended, received⟩
  · refine ⟨?_, ?_, ?_, ?_⟩
    · intro other member
      rw [appended] at member
      rcases List.mem_append.mp member with old | new
      · exact traced.positive other old
      · rw [List.mem_singleton.mp new, appends.sequence]
        exact OutboxStatement.nextSequence_pos _ _
    · rw [appends.rows, appended, List.map_append, List.map_singleton, appends.unpublished]
      exact List.append_subset.mpr ⟨List.subset_append_of_subset_left _ traced.stored,
        List.subset_append_right _ _⟩
    · rw [received, appended]
      exact List.subset_append_of_subset_left _ traced.received
    · rw [received]
      exact traced.ofCase
  · refine ⟨?_, ?_, ?_, ?_⟩
    · rw [appended]
      exact traced.positive
    · rw [appended]
      exact List.Subset.trans subset traced.stored
    · rw [received, appended]
      exact traced.received
    · rw [received]
      exact traced.ofCase
  · refine ⟨?_, ?_, ?_, ?_⟩
    · rw [appended]
      exact traced.positive
    · rw [catalog, appended]
      exact traced.stored
    · rw [received, appended, List.map_append]
      refine List.append_subset.mpr ⟨traced.received, ?_⟩
      refine List.Subset.trans (List.map_subset _ ?_) traced.stored
      intro event onPage
      exact List.mem_of_mem_filter (mem_of_mem_orderLimit onPage)
    · intro event member
      rw [received] at member
      rcases List.mem_append.mp member with old | new
      · exact traced.ofCase event old
      · have selected := (List.mem_filter.mp (mem_of_mem_orderLimit new)).2
        simp only [Bool.and_eq_true, decide_eq_true_eq] at selected
        exact selected.1

theorem largestSeen_lt {history : History runtime} {bound : ℕ} (positive : 0 < bound)
    (below : ∀ event ∈ history.received, event.sequence < bound) : history.largestSeen < bound := by
  refine lt_of_le_of_lt (List.max_le_of_forall_le _ (bound - 1) ?_) (Nat.sub_one_lt_of_lt positive)
  intro sequence member
  rcases List.mem_map.mp member with ⟨event, received, rfl⟩
  exact Nat.le_sub_one_of_lt (below event received)

/-- A new highest number is above everything that the client has seen. -/
theorem NothingMissed.append {caseId target : String} {history next : History runtime}
    {event : Event} (traced : history.Traced caseId) (nothing : history.NothingMissed caseId)
    (appends : OutboxCall.Appends history.catalog next.catalog target event)
    (received : next.received = history.received)
    (above : ∀ earlier ∈ history.appended, earlier.caseId = event.caseId →
      earlier.sequence < event.sequence) : next.NothingMissed caseId := by
  have seen : next.largestSeen = history.largestSeen := by rw [largestSeen, received, largestSeen]
  intro row stored isCase atMost
  rw [appends.rows] at stored
  rw [seen] at atMost
  rw [received]
  rcases List.mem_append.mp stored with old | new
  · exact nothing row old isCase atMost
  · obtain rfl : row = event := List.mem_singleton.mp new
    refine absurd atMost (not_le_of_gt (largestSeen_lt ?_ ?_))
    · rw [appends.sequence]
      exact OutboxStatement.nextSequence_pos _ _
    · intro earlier gotEarlier
      exact above earlier.unpublished (traced.received (List.mem_map_of_mem gotEarlier))
        ((traced.ofCase earlier gotEarlier).trans isCase.symm)

theorem NothingMissed.subset {caseId : String} {history next : History runtime}
    (nothing : history.NothingMissed caseId)
    (subset : next.catalog.events.rows.map Event.unpublished ⊆
      history.catalog.events.rows.map Event.unpublished)
    (received : next.received = history.received) : next.NothingMissed caseId := by
  intro row stored isCase atMost
  rw [largestSeen, received] at atMost
  rcases List.mem_map.mp (subset (List.mem_map_of_mem stored)) with ⟨old, oldStored, same⟩
  have sameCase : old.caseId = row.caseId := by simpa using congrArg Event.caseId same
  have sameNumber : old.sequence = row.sequence := by simpa using congrArg Event.sequence same
  rw [received, ← same]
  exact nothing old oldStored (sameCase.trans isCase) (sameNumber.trans_le atMost)

/-- A page leaves no gap before its last event. -/
theorem NothingMissed.poll {caseId : String} {history next : History runtime} {count : ℕ}
    (nothing : history.NothingMissed caseId) (catalog : next.catalog = history.catalog)
    (received : next.received = history.received ++
      orderLimit Event.sequence count (history.catalog.events.rows.filter fun event =>
        decide (event.caseId = some caseId) && decide (history.largestSeen < event.sequence))) :
    next.NothingMissed caseId := by
  intro row stored isCase atMost
  rw [catalog] at stored
  rw [received, List.map_append]
  by_cases seen : row.sequence ≤ history.largestSeen
  · exact List.mem_append_left _ (nothing row stored isCase seen)
  · rw [not_le] at seen
    have selected : row ∈ history.catalog.events.rows.filter fun event =>
        decide (event.caseId = some caseId) && decide (history.largestSeen < event.sequence) :=
      List.mem_filter.mpr ⟨stored, by simp [isCase, seen]⟩
    refine List.mem_append_right _ (List.mem_map_of_mem ?_)
    by_contra notOnPage
    refine atMost.not_gt (largestSeen_lt (Nat.zero_lt_of_lt seen) ?_)
    intro event got
    rw [received] at got
    rcases List.mem_append.mp got with old | new
    · exact (List.le_max_of_le' 0 (List.mem_map_of_mem old) le_rfl).trans_lt seen
    · refine lt_of_not_ge fun before => notOnPage (mem_orderLimit_of_le selected ?_ new before)
      intro first firstMem second secondMem sameNumber
      simp only [List.mem_filter, Bool.and_eq_true, decide_eq_true_eq] at firstMem secondMem
      rcases firstMem with ⟨firstStored, firstCase, _⟩
      rcases secondMem with ⟨secondStored, secondCase, _⟩
      refine history.catalog.events.eq_of_clash firstStored secondStored
        (Or.inr ⟨?_, ?_, sameNumber⟩) (Or.inr ⟨?_, ?_, sameNumber.symm⟩)
      · rw [firstCase]
        rfl
      · rw [firstCase, secondCase]
      · rw [secondCase]
        rfl
      · rw [firstCase, secondCase]

/-- The numbers of every case increase, and the client has missed nothing. -/
def Sound (caseId : String) (history : History runtime) : Prop :=
  history.Increasing ∧ history.NothingMissed caseId

theorem Sound.step_iff {caseId : String} {history next : History runtime} {action : HistoryAction}
    (traced : history.Traced caseId) (sound : history.Sound caseId)
    (stepped : history.step caseId action = some next) :
    next.Sound caseId ↔ history.FindsHighest action := by
  rcases sound with ⟨increasing, nothing⟩
  rcases step_cases stepped
    with ⟨call, target, event, rfl, appendsTo, appends, appended, received⟩ |
    ⟨finds, subset, appended, received⟩ | ⟨count, finds, catalog, appended, received⟩
  · have finds_iff : history.FindsHighest (.call call) ↔ history.HighestKept target := by
      simp only [FindsHighest, appendsTo, Option.some.injEq, forall_eq']
    have increasing_iff : next.Increasing ↔ ∀ earlier ∈ history.appended,
        earlier.caseId = event.caseId → earlier.sequence < event.sequence := by
      rw [Increasing, appended, List.pairwise_append]
      simp only [List.pairwise_singleton, List.mem_singleton, forall_eq, true_and]
      exact and_iff_right increasing
    rw [finds_iff, ← traced.nextSequence_new_iff increasing, ← appends.sequence, ← appends.case,
      ← increasing_iff]
    refine ⟨And.left, fun stillIncreasing => ⟨stillIncreasing, ?_⟩⟩
    exact nothing.append traced appends received (increasing_iff.mp stillIncreasing)
  · refine iff_of_true ⟨?_, nothing.subset subset received⟩ finds
    rw [Increasing, appended]
    exact increasing
  · refine iff_of_true ⟨?_, nothing.poll catalog received⟩ finds
    rw [Increasing, appended]
    exact increasing

end History

/-- Over a whole history the numbers of every case increase and a polling client misses nothing,
exactly when every event that is appended finds the highest one of its case still stored. -/
theorem numbers_increase_iff_highest_kept {caseId : String} {catalog : Catalog runtime}
    {actions : List HistoryAction} {last : History runtime} (noEvents : catalog.events.rows = [])
    (ran : runFrom (History.step caseId) (.ofCatalog catalog) actions = some last) :
    EveryState (History.step caseId) (History.Sound caseId) (.ofCatalog catalog) actions ↔
      EveryStep (History.step caseId) History.FindsHighest (.ofCatalog catalog) actions := by
  have traced : (History.ofCatalog catalog).Traced caseId :=
    ⟨by simp [History.ofCatalog], by simp [History.ofCatalog, noEvents], by
      simp [History.ofCatalog], by simp [History.ofCatalog]⟩
  have sound : (History.ofCatalog catalog).Sound caseId :=
    ⟨by simp [History.Increasing, History.ofCatalog],
      by simp [History.NothingMissed, History.ofCatalog, noEvents]⟩
  exact everyState_iff_everyStep (fun history action next traced stepped => traced.step stepped)
    (fun history action next traced sound stepped => sound.step_iff traced stepped) traced sound ran

/-- A client polls the first event of a case. -/
theorem first_event_received : ∃ last, runFrom (History.step "case-1")
      (.ofCatalog (.initial .sample ["case-1"]))
      [.call (.appendEvent .sample), .poll (.int 10)] = some last ∧
    EveryState (History.step "case-1") (History.Sound "case-1")
      (.ofCatalog (.initial .sample ["case-1"]))
      [.call (.appendEvent .sample), .poll (.int 10)] := by
  have succeeds : (runFrom (History.step "case-1") (.ofCatalog (.initial .sample ["case-1"]))
      [.call (.appendEvent .sample), .poll (.int 10)]).isSome = true := by decide
  rcases Option.isSome_iff_exists.mp succeeds with ⟨last, ran⟩
  refine ⟨last, ran, (numbers_increase_iff_highest_kept rfl ran).mpr ?_⟩
  refine ⟨?_, fun _ _ => ⟨trivial, fun _ _ => trivial⟩⟩
  intro caseId _ event member
  cases member

/-- An event is published and compacted after a client received it, and another one is appended. -/
def compactedRun : List HistoryAction := [.call (.appendEvent .sample), .poll (.int 10),
    .call (.markPublished ["event-1"] "2026-08-11T14:41:00Z"),
    .call (.compactPublishedEvents "2026-08-12T00:00:00Z" (.int 10)),
    .call (.appendEvent { NewEvent.sample with eventId := "event-2" })]

/-- The second event gets the number of the first one, which the client has passed. -/
theorem compacted_number_reused : ¬EveryState (History.step "case-1") (History.Sound "case-1")
    (.ofCatalog (.initial .sample ["case-1"])) compactedRun := by
  have numbers : (runFrom (History.step "case-1") (.ofCatalog (.initial .sample ["case-1"]))
      compactedRun).map (fun history => history.appended.map fun event =>
        (event.caseId, event.sequence)) = some [(some "case-1", 1), (some "case-1", 1)] := by
    decide
  refine not_everyState_of_observed _ numbers ?_
  rintro history observed ⟨increasing, _⟩
  have pairs : (history.appended.map fun event => (event.caseId, event.sequence)).Pairwise
      fun earlier later => earlier.1 = later.1 → earlier.2 < later.2 :=
    List.pairwise_map.mpr increasing
  rw [observed] at pairs
  revert pairs
  decide

end Events

end Reperio
