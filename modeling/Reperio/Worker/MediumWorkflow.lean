import Mathlib.Data.List.Basic
import Reperio.Python.Value

/-!
# One medium after the other

`plan_batch` of `worker/medium_workflow.py`: which of the media of a batch may be scanned
next. Only the step at the beginning of a plan is ever ready, so that the plan is the one
the workflow is meant to have exactly as long as its first medium is not completed, and
again when all are (`movesOn_iff`).
-/

namespace Reperio.Worker

open Python

/-! ## Plans -/

/-- What the workflow reads of a `SourceCard` of `worker/device_wizard.py`. -/
structure SourceCard where
  sourceId : PyStr
  readerId : PyStr
  mediumPresent : Bool
  mediumIdentityProven : Bool
  deriving DecidableEq

/-- How far a medium has come. -/
inductive StepStatus where
  | ready
  | queued
  | completed
  deriving DecidableEq

/-- A medium of a batch. -/
structure BatchStep where
  order : ℕ
  sourceId : PyStr
  readerId : PyStr
  mediumPresent : Bool
  mediumIdentityProven : Bool
  status : StepStatus
  canFinish : Bool
  canInsertNext : Bool
  deriving DecidableEq

/-- `seen_readers.get(reader_id)`: what was put there last counts. -/
def previousOf (seenReaders : List (PyStr × PyStr)) (readerId : PyStr) : Option PyStr :=
  (seenReaders.find? fun seen => decide (seen.1 = readerId)).map Prod.snd

/-- The reader of a card had another medium before. -/
def isReplaced (previousReader : Option PyStr) (card : SourceCard) : Bool :=
  previousReader.any fun sourceId => decide (sourceId ≠ [] ∧ sourceId ≠ card.sourceId)

def stepStatus (completed : List PyStr) (index : ℕ) (previousReader : Option PyStr)
    (card : SourceCard) : StepStatus :=
  if card.sourceId ∈ completed then .completed
  else if isReplaced previousReader card then .queued
  else if index = 0 ∧ card.mediumIdentityProven then .ready
  else .queued

def batchStep (count index : ℕ) (card : SourceCard) (status : StepStatus) : BatchStep where
  order := index
  sourceId := card.sourceId
  readerId := card.readerId
  mediumPresent := card.mediumPresent
  mediumIdentityProven := card.mediumIdentityProven
  status := status
  canFinish := decide (status = .ready ∨ status = .completed)
  canInsertNext := decide (index + 1 < count ∧ status = .completed)

/-- The loop of `plan_batch` over the cards of so many from an index on: the steps with their
warnings. -/
def planFrom (completed : List PyStr) (count : ℕ) :
    ℕ → List (PyStr × PyStr) → List SourceCard → List (BatchStep × List PyStr)
  | _, _, [] => []
  | index, seenReaders, card :: cards =>
    let previousReader := previousOf seenReaders card.readerId
    (batchStep count index card (stepStatus completed index previousReader card),
      if isReplaced previousReader card then
        [PyStr.ofString "same_reader_replaced:" ++ card.readerId] else []) ::
    planFrom completed count (index + 1) ((card.readerId, card.sourceId) :: seenReaders) cards

def planBatch (cards : List SourceCard) (completedSourceIds : List PyStr) :
    List BatchStep × List PyStr :=
  let plan := planFrom completedSourceIds cards.length 0 [] cards
  (plan.map Prod.fst, (plan.flatMap Prod.snd).eraseDups)

def readySteps (cards : List SourceCard) (completedSourceIds : List PyStr) : List BatchStep :=
  (planBatch cards completedSourceIds).1.filter fun step => decide (step.status = .ready)

/-- `active_source_id` of `workflow_snapshot`. -/
def activeSourceId (cards : List SourceCard) (completedSourceIds : List PyStr) : Option PyStr :=
  (readySteps cards completedSourceIds).head?.map BatchStep.sourceId

/-! ## What is ready -/

section

variable {completed : List PyStr} {count index : ℕ} {seenReaders : List (PyStr × PyStr)}
  {cards : List SourceCard}

theorem stepStatus_ne_ready {previousReader : Option PyStr} {card : SourceCard}
    (later : index ≠ 0) : stepStatus completed index previousReader card ≠ .ready := by
  unfold stepStatus
  rw [if_neg fun first : index = 0 ∧ _ => later first.1]
  split
  · decide
  · rw [ite_self]
    decide

/-- Behind the first card no step is ever ready, whatever is completed. -/
theorem not_ready_of_pos (later : index ≠ 0) :
    ∀ item ∈ planFrom completed count index seenReaders cards, item.1.status ≠ .ready := by
  induction cards generalizing index seenReaders with
  | nil => nofun
  | cons card cards ih =>
    rw [planFrom, List.forall_mem_cons]
    exact ⟨stepStatus_ne_ready later, ih (Nat.succ_ne_zero index)⟩

/-- The first card is ready unless it is completed, and no other one is. -/
theorem readySteps_cons (card : SourceCard) (proven : card.mediumIdentityProven = true) :
    readySteps (card :: cards) completed =
      if card.sourceId ∈ completed then [] else [batchStep (cards.length + 1) 0 card .ready] := by
  have others : ((planFrom completed (card :: cards).length (0 + 1) [(card.readerId, card.sourceId)]
      cards).map Prod.fst).filter (fun step => decide (step.status = .ready)) = [] := by
    rw [List.filter_eq_nil_iff]
    intro step isStep
    obtain ⟨item, isItem, rfl⟩ := List.mem_map.mp isStep
    rw [decide_eq_true_iff]
    exact not_ready_of_pos Nat.one_ne_zero item isItem
  have status : stepStatus completed 0 none card =
      if card.sourceId ∈ completed then .completed else .ready := by
    unfold stepStatus
    have first : (0 : ℕ) = 0 ∧ card.mediumIdentityProven = true := ⟨rfl, proven⟩
    have unreplaced : isReplaced none card = false := rfl
    rw [unreplaced, if_neg Bool.false_ne_true, if_pos first]
  change List.filter _ (batchStep _ 0 card (stepStatus completed 0 none card) :: _) = _
  rw [List.filter_cons, others, status]
  by_cases isCompleted : card.sourceId ∈ completed
  · rw [if_pos isCompleted, if_pos isCompleted]
    rfl
  · rw [if_neg isCompleted, if_neg isCompleted]
    rfl

end

/-! ## The workflow -/

/-- The plan of a workflow that goes from medium to medium: the first card that is not completed is
ready and is the active one, and no other step is ready. -/
def MovesOn (cards : List SourceCard) (completed : List PyStr) : Prop :=
  let isOpen := fun card : SourceCard => decide (card.sourceId ∉ completed)
  (readySteps cards completed).map BatchStep.order = (cards.findIdx? isOpen).toList ∧
    activeSourceId cards completed = (cards.find? isOpen).map SourceCard.sourceId

/-- A plan moves on exactly where its first card is not completed or all cards are, in whichever
readers they are. -/
theorem movesOn_iff {cards : List SourceCard} (completed : List PyStr)
    (proven : ∀ card ∈ cards, card.mediumIdentityProven = true) :
    MovesOn cards completed ↔ ((∃ card ∈ cards.head?, card.sourceId ∉ completed) ∨
        ∀ card ∈ cards, card.sourceId ∈ completed) := by
  cases cards with
  | nil => exact ⟨fun _ => Or.inr nofun, fun _ => ⟨rfl, rfl⟩⟩
  | cons card cards =>
    have ready : readySteps (card :: cards) completed = _ :=
      readySteps_cons card (proven card List.mem_cons_self)
    unfold MovesOn activeSourceId
    rw [ready]
    by_cases isCompleted : card.sourceId ∈ completed
    · rw [if_pos isCompleted]
      constructor
      · intro moves
        right
        -- nothing is ready, so that nothing may be open
        have noneOpen := Option.map_eq_none_iff.mp moves.2.symm
        intro other isIn
        have notOpen := List.find?_eq_none.mp noneOpen other isIn
        simpa using notOpen
      · rintro (⟨first, isFirst, notCompleted⟩ | allCompleted)
        · cases isFirst
          exact absurd isCompleted notCompleted
        · have noneOpen : ∀ other ∈ card :: cards, ¬decide (other.sourceId ∉ completed) = true := by
            intro other isIn
            simpa using allCompleted other isIn
          refine ⟨?_, ?_⟩
          · rw [List.findIdx?_eq_none_iff.mpr fun other isIn =>
              Bool.eq_false_iff.mpr (noneOpen other isIn)]
            rfl
          · rw [List.find?_eq_none.mpr noneOpen]
            rfl
    · rw [if_neg isCompleted]
      have isOpen : decide (card.sourceId ∉ completed) = true := decide_eq_true isCompleted
      refine ⟨fun _ => Or.inl ⟨card, rfl, isCompleted⟩, fun _ => ⟨?_, ?_⟩⟩
      · rw [List.findIdx?_cons, if_pos isOpen]
        rfl
      · rw [List.find?_cons, isOpen]
        rfl

/-- Two cards in two readers. -/
def twoCards : List SourceCard :=
  [⟨.ofString "s1", .ofString "r1", true, true⟩, ⟨.ofString "s2", .ofString "r2", true, true⟩]

/-- Nothing is completed: the first card is ready. -/
theorem movesOn_iff_twoCards :
    MovesOn twoCards [] ↔ ((∃ card ∈ twoCards.head?, card.sourceId ∉ []) ∨
      ∀ card ∈ twoCards, card.sourceId ∈ []) :=
  movesOn_iff [] (by decide)

/-- The first medium is completed, and the second one stays queued. -/
theorem second_not_ready :
    (twoCards.map SourceCard.readerId).Nodup ∧
      (∀ card ∈ twoCards, card.mediumIdentityProven = true) ∧
      (planBatch twoCards [.ofString "s1"]).1.map BatchStep.status = [.completed, .queued] ∧
      ¬MovesOn twoCards [.ofString "s1"] := by
  unfold MovesOn
  decide

end Reperio.Worker
