import Mathlib.Data.List.Nodup
import Mathlib.Data.List.Perm.Subperm

/-!
# Numbered candidates

The search for the first of infinitely many candidates that is not taken. Only finitely
many are taken, so the search ends (`succ_le_of_taken`).
-/

namespace Reperio.Encoding

variable {Key : Type} {candidate : ℕ → Key} {taken : List Key}

/-- Different candidates that are all taken are no more than what is taken. -/
theorem succ_le_of_taken (injective : Function.Injective candidate) {number : ℕ}
    (areTaken : ∀ other ≤ number, candidate other ∈ taken) : number < taken.length := by
  have distinct : ((List.range (number + 1)).map candidate).Nodup := List.nodup_range.map injective
  have subset : (List.range (number + 1)).map candidate ⊆ taken := by
    intro key isKey
    rcases List.mem_map.mp isKey with ⟨other, isOther, rfl⟩
    exact areTaken other (Nat.le_of_lt_succ (List.mem_range.mp isOther))
  have count := (List.subperm_of_subset distinct subset).length_le
  rwa [List.length_map, List.length_range] at count

theorem forall_le_taken {number : ℕ} (before : ∀ other < number, candidate other ∈ taken)
    (isTaken : candidate number ∈ taken) : ∀ other ≤ number, candidate other ∈ taken := by
  intro other le
  rcases Nat.lt_or_eq_of_le le with lt | rfl
  · exact before other lt
  · exact isTaken

variable [DecidableEq Key]

/-- The number of the first candidate that is not taken, when all before a number are taken. -/
def firstFree (candidate : ℕ → Key) (injective : Function.Injective candidate) (taken : List Key)
    (number : ℕ) (before : ∀ other < number, candidate other ∈ taken) : ℕ :=
  if isTaken : candidate number ∈ taken then
    firstFree candidate injective taken (number + 1) fun other lt =>
      forall_le_taken before isTaken other (Nat.le_of_lt_succ lt)
  else number
termination_by taken.length - number
decreasing_by
  have bound := succ_le_of_taken injective (forall_le_taken before isTaken)
  omega

theorem firstFree_notMem (injective : Function.Injective candidate) (number : ℕ)
    (before : ∀ other < number, candidate other ∈ taken) :
    candidate (firstFree candidate injective taken number before) ∉ taken := by
  fun_induction firstFree candidate injective taken number before with
  | case1 number before isTaken ih => exact ih
  | case2 number before isFree => exact isFree

end Reperio.Encoding
