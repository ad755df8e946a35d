import Reperio.Api.ReviewReplays

/-!
# Review requests that fail or interleave

A request that fails has undone nothing of what it wrote, and two requests
that interleave act on statuses they have read before. What is true instead:
a failure is harmless when it comes before the first write, or, for an undo,
while it puts back what its rows still hold, and an interleaving is harmless
when no statement of one request conflicts with an earlier one of the other.
-/

namespace Reperio.Review

open Concurrency Python Catalog Relational ReviewStatement
open Api (Failure)

/-- The previous status that an action has recorded. -/
def recorded (app : App) (catalog : ReviewCatalog) (reviewActionId : String) : Option PyValue :=
  (catalog.reviewActions.lookup reviewActionId).bind fun row =>
    match readNote app row with
    | .ok (_, _, .dict items) => PyDict.get? items "previous_status"
    | _ => none

/-- The statuses of the findings and the recorded previous statuses are the same. -/
structure SameOutcome (app : App) (first second : ReviewCatalog) : Prop where
  statuses : ∀ findingId, (first.findings.lookup findingId).map Finding.status =
    (second.findings.lookup findingId).map Finding.status
  recorded : ∀ reviewActionId, recorded app first reviewActionId =
    recorded app second reviewActionId

variable {first second : ReviewCatalog}

theorem SameRows.sameOutcome (same : SameRows first second) (app : App) :
    SameOutcome app first second where
  statuses := fun findingId => by rw [Table.lookup_congr same.findings]
  recorded := fun reviewActionId => by
    rw [Review.recorded, Review.recorded, Table.lookup_congr same.reviewActions]

section Outcome

variable (app : App) (sql : SqlFunctions) (now : ReviewStatement → DateTime)

/-- Two requests that have arrived, each on a connection of its own. -/
def arrived (requests : Bool → Request) (catalog : ReviewCatalog) :
    Crew Bool ReviewStatement ReviewStatement.Reply Failure (fun _ => Response) ReviewCatalog where
  state := catalog
  rest := fun conn => handle app (requests conn)

/-- A request in which a statement fails leaves the tables as they were. -/
def Atomic : Prop := ∀ plan request catalog, (observe app sql now plan request catalog).1.Failed →
    (observe app sql now plan request catalog).1.state = catalog

/-- Any interleaving of two requests has the outcome of one after the other. -/
def Serializable : Prop := ∀ (requests : Bool → Request) (catalog : ReviewCatalog) schedule last
    (results : Bool → Except Failure Response),
    runFrom (Crew.step fun _ => perform sql now) (arrived app requests catalog) schedule =
      some last →
    (∀ conn, last.rest conn = .ofExcept (results conn)) →
    ∃ first, SameOutcome app last.state
      (runAlone app sql now (requests !first)
        (runAlone app sql now (requests first) catalog).1).1

/-- After a failure the tables are as before exactly if the number of the failing statement is
harmless for the request and its rows: that of the first write or a lower one, or, for an undo, one
before which it only writes what the rows held. Two requests interleave as if one had come after the
other if, in some order of them, no statement of the first conflicts with a statement that the
second has issued before. -/
theorem failsHarmlessly_and_serial :
    (∀ plan request catalog, (observe app sql now plan request catalog).1.Failed →
      ((observe app sql now plan request catalog).1.state = catalog ↔
        FailsHarmlessly app sql catalog (observe app sql now plan request catalog).1.count
          request)) ∧
    ∀ (requests : Bool → Request) (catalog : ReviewCatalog) schedule last
      (results : Bool → Except Failure Response) first groups,
      runFrom (Crew.step fun _ => perform sql now) (arrived app requests catalog) schedule =
        some last →
      (∀ conn, last.rest conn = .ofExcept (results conn)) →
      Grouped sql groups catalog →
      EveryStep (Race.step (perform sql now) first)
        (Race.Free first (KeepsGroups sql groups) (Conflict groups))
        ⟨arrived app requests catalog, []⟩ schedule →
      results first = (runAlone app sql now (requests first) catalog).2 ∧
        results (!first) = (runAlone app sql now (requests !first)
          (runAlone app sql now (requests first) catalog).1).2 ∧
        SameOutcome app last.state (runAlone app sql now (requests !first)
          (runAlone app sql now (requests first) catalog).1).1 := by
  constructor
  · exact observe_state_eq_iff app sql now
  · intro requests catalog schedule last results first groups ran finished grouped free
    rcases serial_of_everyStep indistinguishable grouped_perform commutes_of_not_conflict grouped
      free ran finished with ⟨firstResult, secondResult, same⟩
    exact ⟨firstResult, secondResult, same.sameOutcome app⟩

end Outcome

/-! ## Two dismissals -/

/-- Two requests dismiss two findings, or both the same one. -/
def dismissedId (apart conn : Bool) : String := if apart && conn then "find_2" else "find_1"

def dismissal (apart conn : Bool) : Request :=
  .dismiss ⟨[dismissedId apart conn], none, "operator", none⟩ (if conn then "bb" else "aa")

def dismissed (apart conn : Bool) : Response :=
  .applied (if conn then "review_bb" else "review_aa") 1 [dismissedId apart conn]

/-- A finding that was new is restored, so that an undo of this writes that it is new. -/
def restoredCatalog : ReviewCatalog := (runAlone sampleApp sampleFunctions firstMoment
    (.restore ⟨["find_1"], none, "operator", none⟩ "cc") pairCatalog).1

/-- The request fails at the statement with this number. -/
def failsAt (number : ℕ) : ℕ → Option PyError := fun count =>
  if count = number then some .operationalError else none

/-- The group of an action by the note with which a dismissal of a new finding inserts it. -/
def dismissedGroups (reviewActionId groupId : String) : Option Bool :=
  match noteText sampleApp (reviewNote reviewActionId none .new .dismissed) with
  | .ok note => noteInGroup sampleFunctions reviewActionId note groupId
  | .error _ => none

/-- Insertions have the notes that `dismissedGroups` knows. -/
def knownNote : ReviewStatement → Bool
  | insertAction reviewActionId _ _ _ note =>
    match noteText sampleApp (reviewNote reviewActionId none .new .dismissed) with
    | .ok known => decide (note = known)
    | .error _ => false
  | updateNote _ _ => false
  | _ => true

theorem keepsGroups_of_knownNote {statement : ReviewStatement}
    (known : knownNote statement = true) :
    KeepsGroups sampleFunctions dismissedGroups statement := by
  cases statement with
  | insertAction reviewActionId findingId action actor note =>
    intro groupId
    rw [knownNote] at known
    rw [dismissedGroups]
    split at known
    · rw [of_decide_eq_true known]
    · cases known
  | updateNote note reviewActionId => cases known
  | _ => trivial

/-- The crew of the two requests after this schedule. -/
def interleaved (apart : Bool) (schedule : List Bool) :
    Option (Crew Bool ReviewStatement ReviewStatement.Reply Failure (fun _ => Response)
      ReviewCatalog) :=
  runFrom (Crew.step fun _ => perform sampleFunctions firstMoment)
    (arrived sampleApp (dismissal apart) pairCatalog) schedule

theorem exists_finished (apart : Bool) (schedule : List Bool)
    (ended : (interleaved apart schedule).map
        (fun crew => ((crew.rest false).value?, (crew.rest true).value?)) =
      some (some (dismissed apart false), some (dismissed apart true))) :
    ∃ last, interleaved apart schedule = some last ∧
      ∀ conn, last.rest conn = .ofExcept (.ok (dismissed apart conn)) := by
  rcases Option.map_eq_some_iff.mp ended with ⟨last, ran, values⟩
  obtain ⟨first, second⟩ := Prod.mk.inj values
  refine ⟨last, ran, fun conn => ?_⟩
  cases conn with
  | false => exact Program.eq_done_of_value? first
  | true => exact Program.eq_done_of_value? second

/-- An undo has written the status that a finding holds when its statement for the note fails, and
two dismissals of two findings take turns. -/
theorem failsHarmlessly_and_serial_sample :
    (observe sampleApp sampleFunctions firstMoment (failsAt 2) (.undo "review_cc" "operator")
        restoredCatalog).1.state = restoredCatalog ∧
      ∃ last, interleaved true [false, true, false, true, false, true] = some last ∧
        SameOutcome sampleApp last.state (runAlone sampleApp sampleFunctions firstMoment
          (dismissal true true) (runAlone sampleApp sampleFunctions firstMoment
            (dismissal true false) pairCatalog).1).1 := by
  have guarantee := failsHarmlessly_and_serial sampleApp sampleFunctions firstMoment
  constructor
  · have failed : (observe sampleApp sampleFunctions firstMoment (failsAt 2)
        (.undo "review_cc" "operator") restoredCatalog).1.log.length = 2 ∧
        (observe sampleApp sampleFunctions firstMoment (failsAt 2)
          (.undo "review_cc" "operator") restoredCatalog).1.count = 3 := by
      decide +kernel
    have written : (undoing sampleApp sampleFunctions "review_cc" "operator"
        restoredCatalog).take 1 = [updateStatus "new" "find_1"] := by
      decide +kernel
    refine (guarantee.1 _ _ _ (by rw [Observed.Failed, failed.1, failed.2]; decide)).mpr ?_
    rw [failed.2]
    change Unaltered _ ((undoing _ _ _ _ _).take 1)
    rw [written]
    refine ⟨by decide, by decide +kernel, by simp [lastNote, noteAfter]⟩
  · rcases exists_finished true [false, true, false, true, false, true] (by decide +kernel) with
      ⟨last, ran, finished⟩
    refine ⟨last, ran, (guarantee.2 (dismissal true) pairCatalog _ last
      (fun conn => .ok (dismissed true conn)) false dismissedGroups ran finished ?_ ?_).2.2⟩
    · intro row member
      cases member
    · have clear : EveryStep (Race.step (perform sampleFunctions firstMoment) false)
          (Race.Free false (knownNote · = true) (Conflict dismissedGroups))
          ⟨arrived sampleApp (dismissal true) pairCatalog, []⟩
          [false, true, false, true, false, true] := by
        decide +kernel
      exact clear.mono fun race turn free query next isNext =>
        ⟨keepsGroups_of_knownNote (free query next isNext).1, (free query next isNext).2⟩

/-- The status of the sample finding, and the recorded statuses of both dismissals. -/
def outcome (catalog : ReviewCatalog) : Option String × Option PyStr × Option PyStr :=
  ((catalog.findings.lookup "find_1").map fun row => row.status.text,
    textOf (recorded sampleApp catalog "review_aa"),
    textOf (recorded sampleApp catalog "review_bb"))
where
  textOf : Option PyValue → Option PyStr
    | some (.text points) => some points
    | _ => none

theorem SameOutcome.outcome (same : SameOutcome sampleApp first second) :
    outcome first = outcome second := by
  have statuses := same.statuses "find_1"
  unfold Review.outcome
  rw [same.recorded, same.recorded, ← Function.comp_def FindingStatus.text Finding.status,
    ← Option.map_map, ← Option.map_map, statuses]

/-- One finding is dismissed and no action is recorded; two dismissals record that it was new. -/
theorem dismissals_not_atomic_nor_serializable : ¬Atomic sampleApp sampleFunctions firstMoment ∧
      ¬Serializable sampleApp sampleFunctions firstMoment := by
  constructor
  · intro atomic
    have failed : (observe sampleApp sampleFunctions firstMoment (failsAt 2) (dismissal false false)
        pairCatalog).1.Failed := by
      unfold Observed.Failed
      decide
    have dismissed : outcome (observe sampleApp sampleFunctions firstMoment (failsAt 2)
        (dismissal false false) pairCatalog).1.state ≠ outcome pairCatalog := by
      decide
    exact dismissed (congrArg outcome (atomic _ _ _ failed))
  · intro serializable
    have both : (interleaved false [false, true, false, false, true, true]).map
        (fun crew => outcome crew.state) =
        some (some "dismissed", some (.ofString "new"), some (.ofString "new")) := by
      decide +kernel
    rcases exists_finished false [false, true, false, false, true, true] (by decide +kernel) with
      ⟨last, ran, finished⟩
    rw [ran, Option.map_some] at both
    rcases serializable (dismissal false) pairCatalog _ last _ ran finished with ⟨first, same⟩
    have serial : ∀ first, outcome (runAlone sampleApp sampleFunctions firstMoment
        (dismissal false !first) (runAlone sampleApp sampleFunctions firstMoment
          (dismissal false first) pairCatalog).1).1 ≠ outcome last.state := by
      rw [show outcome last.state = _ from Option.some.inj both]
      decide +kernel
    exact serial first same.outcome.symm

end Reperio.Review
