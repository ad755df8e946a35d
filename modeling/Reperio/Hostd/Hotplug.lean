import Reperio.Checkpoints.Eligibility
import Reperio.Hostd.RemovableSources

/-!
# Hotplug events

`report_hotplug_change`: what two snapshots of one reader say about its medium.
Whether a medium is there is read off the signals of its identity; whether it is
another one is read off a counter of the device alone, and no signal of the one
medium is compared with one of the other.
-/

namespace Reperio.Hostd

open Python MediaIdentity MediumCheckpoints

/-- What became of the medium in a reader. -/
inductive HotplugKind where
  | populated
  | emptied
  | swapped
  | unchanged
  deriving DecidableEq, Repr

/-- A change of one reader between two lists of devices. -/
structure HotplugEvent where
  readerId : PyStr
  kind : HotplugKind
  mediaChangeGeneration : PyValue
  changed : Bool

/-! ## Snapshots -/

/-- `_signals`: those of the identity record, else those of the device itself. -/
def signals (device : PyDict) : PyDict := match device.get "medium_identity" with
  | .dict record =>
    match PyDict.get record "medium_signals" with
    | .dict signals => signals
    | _ => normalizeMediumSignals device
  | _ => normalizeMediumSignals device

def isPresent (device : PyDict) : Bool :=
  isPlausibleMedium [(.str "medium_signals", .dict (signals device))]

/-- The counter as it is stored: an integer that is not negative, or 0. -/
def mediaChangeGeneration (device : PyDict) : PyValue :=
  nonnegativeInt (device.get "media_change_generation")

/-- The number the counter stands for. -/
def generation (device : PyDict) : ℤ := (mediaChangeGeneration device).int?.getD 0

@[simp]
theorem isPresent_eq (device : PyDict) :
    isPresent device = isPlausibleSignals (signals device) := by
  simp [isPresent, isPlausibleMedium, PyDict.get, PyDict.get?, PyValue.str]

/-! ## Events -/

def hotplugKind (previous : Option PyDict) (current : PyDict) : HotplugKind := match previous with
  | none => .unchanged
  | some previous =>
    -- an empty snapshot has no counter either
    let previousGeneration := if previous.isEmpty then 0 else generation previous
    if !isPresent previous && isPresent current then .populated
    else if isPresent previous && !isPresent current then .emptied
    else if isPresent previous && isPresent current &&
        decide (previousGeneration < generation current) then .swapped
    else .unchanged

def reportHotplugChange (previous : Option PyDict) (current : PyDict) : HotplugEvent :=
  let prior := previous.getD []
  let readerId := stringOf ((((current.get "reader_id").orElse (current.get "source_id")).orElse
    (prior.get "reader_id")).orElse (prior.get "source_id"))
  let kind := hotplugKind previous current
  { readerId, kind
    mediaChangeGeneration := mediaChangeGeneration current
    changed := decide (kind ∈ [.populated, .emptied, .swapped]) }

variable {device : PyDict}

theorem generation_of_isEmpty (isEmpty : device.isEmpty) : generation device = 0 := by
  rw [List.isEmpty_iff] at isEmpty
  rw [isEmpty]
  rfl

/-- A change is a medium that comes or goes, or one that stays while the counter grows. -/
theorem reportHotplugChange_changed (previous current : PyDict) :
    (reportHotplugChange (some previous) current).changed = true ↔
      isPresent previous ≠ isPresent current ∨
        isPresent previous = true ∧ generation previous < generation current := by
  have counter : (if previous.isEmpty then 0 else generation previous) = generation previous := by
    split
    · rename_i isEmpty
      exact (generation_of_isEmpty isEmpty).symm
    · rfl
  simp only [reportHotplugChange, hotplugKind, counter]
  cases isPresent previous <;> cases isPresent current
  · simp
  · simp
  · simp
  · by_cases newer : generation previous < generation current <;> simp [newer]

/-! ## A medium in place of another -/

/-- The snapshot has a valid record of a medium that is there. -/
structure HoldsMedium (device record signals : PyDict) : Prop where
  recorded : device.get "medium_identity" = .dict record
  presents : Presents record signals

theorem HoldsMedium.signals_eq {record present : PyDict}
    (holds : HoldsMedium device record present) : signals device = present := by
  simp only [signals, holds.recorded, holds.presents.isSignals]

theorem HoldsMedium.isPresent {record present : PyDict}
    (holds : HoldsMedium device record present) : isPresent device = true := by
  rw [isPresent_eq, holds.signals_eq]
  exact holds.presents.plausibleSignals

/-- Two snapshots of one reader, with media whose signals differ. -/
structure MediumReplaced (previous current : PyDict) : Prop where
  sameReader : (previous.get "reader_id").eq (current.get "reader_id") = true
  previousHolds : ∃ record, HoldsMedium previous record (signals previous)
  currentHolds : ∃ record, HoldsMedium current record (signals current)
  differ : PyValue.eq (.dict (signals previous)) (.dict (signals current)) = false

/-- Another medium is noticed exactly when the counter of the device has grown. -/
theorem replaced_changed_iff {previous current : PyDict}
    (replaced : MediumReplaced previous current) :
    (reportHotplugChange (some previous) current).changed = true ↔
      generation previous < generation current := by
  rcases replaced.previousHolds with ⟨_, previousHolds⟩
  rcases replaced.currentHolds with ⟨_, currentHolds⟩
  rw [reportHotplugChange_changed, previousHolds.isPresent, currentHolds.isPresent]
  simp

/-! A card that is put in place of another while the reader's counter starts again. -/

/-- The reader `reader_1` with a card whose fingerprint repeats one digit. -/
def cardIn (digit : Char) (counter : PyValue) : PyDict := [(.str "reader_id", .str "reader_1"),
    (.str "media_change_generation", counter),
    (.str "medium_identity", .dict (mediumIdentityRecord (.ofString "reader_1")
      (normalizeMediumSignals [(.str "size_bytes", .int 33554432),
        (.str "sampled_fingerprint_sha256", .text (List.replicate 64 (.ofChar digit)))])
      "reader-plus-medium" []))]

theorem cardIn_holds (digit : Char) (counter : PyValue) :
    ∃ record, HoldsMedium (cardIn digit counter) record (signals (cardIn digit counter)) :=
  ⟨_, rfl, ⟨_, rfl, rfl⟩, rfl, rfl⟩

theorem cards_differ (first second : PyValue) : PyValue.eq (.dict (signals (cardIn 'a' first)))
      (.dict (signals (cardIn 'b' second))) = false := by
  have firstSignals : signals (cardIn 'a' first) = signals (cardIn 'a' .none) := rfl
  have secondSignals : signals (cardIn 'b' second) = signals (cardIn 'b' .none) := rfl
  rw [firstSignals, secondSignals]
  decide

theorem cards_replaced (first second : PyValue) :
    MediumReplaced (cardIn 'a' first) (cardIn 'b' second) where
  sameReader := rfl
  previousHolds := cardIn_holds 'a' first
  currentHolds := cardIn_holds 'b' second
  differ := cards_differ first second

theorem replaced_changed_sample :
    (reportHotplugChange (some (cardIn 'a' (.int 1))) (cardIn 'b' (.int 2))).changed = true ↔
      generation (cardIn 'a' (.int 1)) < generation (cardIn 'b' (.int 2)) :=
  replaced_changed_iff (cards_replaced (.int 1) (.int 2))

/-- Plugged in again, the reader counts from the start and the other card goes unnoticed. -/
theorem restarted_counter_unchanged : MediumReplaced (cardIn 'a' (.int 3)) (cardIn 'b' (.int 0)) ∧
      (reportHotplugChange (some (cardIn 'a' (.int 3))) (cardIn 'b' (.int 0))).changed = false := by
  refine ⟨cards_replaced (.int 3) (.int 0), ?_⟩
  decide

end Reperio.Hostd
