import Mathlib.Data.List.Basic
import Mathlib.Tactic.Basic

/-!
# Runs of consecutive numbers

A list of numbers as the list of its runs, each by its first and
its last number. The runs hold the numbers of the list and no others
(`mem_runs`); between the runs of an increasing list a number is missing
(`pairwise_runs`).
-/

namespace Reperio.Encoding

/-- The runs of a list of which the run from `start` to `previous` was already read. -/
def runsFrom (start previous : ℕ) : List ℕ → List (ℕ × ℕ)
  | [] => [(start, previous)]
  | number :: numbers =>
    if number ≠ previous + 1 then (start, previous) :: runsFrom number number numbers
    else runsFrom start number numbers

def runs : List ℕ → List (ℕ × ℕ)
  | [] => []
  | number :: numbers => runsFrom number number numbers

variable {previous : ℕ}

theorem mem_runsFrom {start : ℕ} {numbers : List ℕ} (ordered : start ≤ previous) (number : ℕ) :
    (∃ run ∈ runsFrom start previous numbers, run.1 ≤ number ∧ number ≤ run.2) ↔
      (start ≤ number ∧ number ≤ previous) ∨ number ∈ numbers := by
  induction numbers generalizing start previous with
  | nil => simp [runsFrom]
  | cons next numbers ih =>
    rw [runsFrom]
    split
    · rw [List.exists_mem_cons_iff, ih (Nat.le_refl _), List.mem_cons]
      refine or_congr_right (or_congr_left ?_)
      omega
    · rename_i adjacent
      rw [ih (by omega), List.mem_cons]
      rw [← or_assoc]
      refine or_congr_left ?_
      omega

/-- The runs of a list hold its numbers. -/
theorem mem_runs {numbers : List ℕ} (number : ℕ) :
    (∃ run ∈ runs numbers, run.1 ≤ number ∧ number ≤ run.2) ↔ number ∈ numbers := by
  cases numbers with
  | nil => simp [runs]
  | cons first numbers =>
    rw [runs, mem_runsFrom (Nat.le_refl _), List.mem_cons]
    refine or_congr_left ?_
    omega

theorem le_of_mem_runsFrom {start : ℕ} {numbers : List ℕ} (ordered : start ≤ previous) {run : ℕ × ℕ}
    (member : run ∈ runsFrom start previous numbers) : run.1 ≤ run.2 := by
  induction numbers generalizing start previous with
  | nil =>
    obtain rfl := List.mem_singleton.mp member
    exact ordered
  | cons next numbers ih =>
    rw [runsFrom] at member
    split at member
    · rcases List.mem_cons.mp member with rfl | later
      · exact ordered
      · exact ih (Nat.le_refl _) later
    · exact ih (by omega) member

theorem le_of_mem_runs {numbers : List ℕ} {run : ℕ × ℕ} (member : run ∈ runs numbers) :
    run.1 ≤ run.2 := by
  cases numbers with
  | nil => cases member
  | cons first numbers => exact le_of_mem_runsFrom (Nat.le_refl _) member

/-! ## Increasing lists -/

theorem start_le_of_mem_runsFrom {start : ℕ} {numbers : List ℕ} (ordered : start ≤ previous)
    (later : ∀ number ∈ numbers, previous < number) {run : ℕ × ℕ}
    (member : run ∈ runsFrom start previous numbers) : start ≤ run.1 := by
  rcases (mem_runsFrom ordered run.1).mp
    ⟨run, member, Nat.le_refl _, le_of_mem_runsFrom ordered member⟩ with within | listed
  · exact within.1
  · have after := later _ listed
    omega

theorem pairwise_runsFrom {start : ℕ} {numbers : List ℕ} (ordered : start ≤ previous)
    (later : ∀ number ∈ numbers, previous < number) (increasing : numbers.Pairwise (· < ·)) :
    (runsFrom start previous numbers).Pairwise fun first second => first.2 + 1 < second.1 := by
  induction numbers generalizing start previous with
  | nil => exact List.pairwise_singleton _ _
  | cons next numbers ih =>
    rcases List.pairwise_cons.mp increasing with ⟨following, increasing⟩
    have after := later next List.mem_cons_self
    rw [runsFrom]
    split
    · rename_i gap
      refine List.pairwise_cons.mpr ⟨fun run member => ?_, ih (Nat.le_refl _) following increasing⟩
      have bound := start_le_of_mem_runsFrom (Nat.le_refl _) following member
      dsimp only
      omega
    · exact ih (by omega) following increasing

/-- Two runs of an increasing list neither overlap nor touch. -/
theorem pairwise_runs {numbers : List ℕ} (increasing : numbers.Pairwise (· < ·)) :
    (runs numbers).Pairwise fun first second => first.2 + 1 < second.1 := by
  cases numbers with
  | nil => exact List.Pairwise.nil
  | cons first numbers =>
    rcases List.pairwise_cons.mp increasing with ⟨following, increasing⟩
    exact pairwise_runsFrom (Nat.le_refl _) following increasing

end Reperio.Encoding
