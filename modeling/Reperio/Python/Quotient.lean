import Reperio.Python.Value

/-!
# Quotients of integers

`first / second` of two natural numbers is the double nearest to their quotient, half to
even. Such a double is at most 100 exactly when the quotient is at most half of a unit
above (`nearestDouble_le_hundred_iff`).
-/

namespace Reperio.Python

/-- `first / second`, of natural numbers the second of which is positive. -/
def quotient (first second : ℕ) : Except PyError ℚ :=
  match nearestDouble ((first : ℚ) / second) with
  | some double => .ok double
  | none => .error .overflowError

theorem roundHalfEven_le_iff {value : ℚ} {bound : ℤ} (even : bound % 2 = 0) :
    roundHalfEven value ≤ bound ↔ value ≤ bound + 1 / 2 := by
  have below := Int.floor_le value
  have above := Int.lt_floor_add_one value
  have whole : ∀ {number : ℤ}, number ≤ bound ↔ (number : ℚ) ≤ bound := Int.cast_le.symm
  rw [roundHalfEven]
  split
  · rename_i near
    constructor
    · intro small
      have := whole.mp small
      linarith
    · intro small
      by_contra large
      have : ((bound + 1 : ℤ) : ℚ) ≤ ⌊value⌋ := Int.cast_le.mpr (not_le.mp large)
      push_cast at this
      linarith
  split
  · constructor
    · intro small
      have := whole.mp small
      push_cast at this
      linarith
    · intro small
      by_contra large
      have : ((bound : ℤ) : ℚ) ≤ ⌊value⌋ := Int.cast_le.mpr (by omega)
      linarith
  rename_i notBelow notAbove
  have half : value - ⌊value⌋ = 1 / 2 := le_antisymm (not_lt.mp notAbove) (not_lt.mp notBelow)
  split
  · constructor
    · intro small
      have := whole.mp small
      linarith
    · intro small
      refine whole.mpr ?_
      linarith
  · rename_i odd
    constructor
    · intro small
      have := whole.mp small
      push_cast at this
      linarith
    · intro small
      have close : ⌊value⌋ ≤ bound := whole.mpr (by linarith)
      omega

/-- A rounded number is at most half of a unit away. -/
theorem roundHalfEven_mul_near (value : ℚ) {unit : ℚ} (positive : 0 < unit) :
    roundHalfEven (value / unit) * unit ≤ value + unit / 2 ∧
      value - unit / 2 ≤ roundHalfEven (value / unit) * unit := by
  have scaled : value / unit * unit = value := div_mul_cancel₀ value positive.ne'
  have above := mul_le_mul_of_nonneg_right (roundHalfEven_le (value / unit)) positive.le
  have below := mul_le_mul_of_nonneg_right (le_roundHalfEven (value / unit)) positive.le
  constructor
  · linarith
  · linarith

/-- What is rounded to at most 100 is at most half of a unit above. -/
theorem nearestDouble_le_hundred_iff {value double : ℚ}
    (isNearest : nearestDouble value = some double) :
    double ≤ 100 ↔ value ≤ 100 + 1 / 2 ^ 47 := by
  rw [nearestDouble] at isNearest
  split at isNearest
  swap
  · cases isNearest
  obtain rfl := Option.some.inj isNearest
  generalize exponent_eq : max (Int.log 2 value - 52) (-1074) = exponent
  have unit : (0 : ℚ) < 2 ^ exponent := zpow_pos (by norm_num) _
  rcases roundHalfEven_mul_near value unit with ⟨above, below⟩
  rcases lt_trichotomy (Int.log 2 value) 6 with small | same | large
  · -- far below: what is rounded is below 65
    have bound := Int.lt_zpow_succ_log_self (b := 2) (by norm_num) value
    have power : (2 : ℚ) ^ (Int.log 2 value + 1) ≤ 2 ^ (6 : ℤ) :=
      zpow_le_zpow_right₀ (by norm_num) (by omega)
    have fine : (2 : ℚ) ^ exponent ≤ 2 ^ (0 : ℤ) := zpow_le_zpow_right₀ (by norm_num) (by omega)
    rw [zpow_zero] at fine
    rw [Nat.cast_ofNat] at bound
    norm_num at power
    constructor
    · intro _
      norm_num
      linarith
    · intro _
      linarith
  · -- the unit is a power of two of which 100 is an even multiple
    have isExponent : exponent = -46 := by omega
    subst isExponent
    have even := @roundHalfEven_le_iff (value / 2 ^ (-46 : ℤ)) (100 * 2 ^ 46) (by norm_num)
    have scale : ∀ number : ℚ, number * 2 ^ (-46 : ℤ) ≤ 100 ↔ number ≤ 100 * 2 ^ 46 := by
      intro number
      rw [zpow_neg, ← div_eq_mul_inv, div_le_iff₀ (by norm_num)]
      norm_num
    rw [scale]
    have cast : ((100 * 2 ^ 46 : ℤ) : ℚ) = 100 * 2 ^ 46 := by norm_num
    rw [← cast, Int.cast_le, even, zpow_neg, div_inv_eq_mul]
    norm_num
    constructor
    · intro small
      linarith
    · intro small
      linarith
  · -- far above: what is rounded is above 127
    have positive : 0 < value := by
      by_contra notPositive
      rw [Int.log_of_right_le_zero 2 (not_lt.mp notPositive)] at large
      omega
    have leading := Int.zpow_log_le_self (b := 2) (by norm_num) positive
    have power : (2 : ℚ) ^ (7 : ℤ) ≤ 2 ^ Int.log 2 value :=
      zpow_le_zpow_right₀ (by norm_num) (by omega)
    have isExponent : exponent = Int.log 2 value - 52 := by omega
    have fine : (2 : ℚ) ^ exponent * 2 ^ 52 = 2 ^ Int.log 2 value := by
      rw [isExponent, zpow_sub₀ (by norm_num)]
      norm_num
    norm_num at power leading
    norm_num at fine
    constructor
    · intro _
      linarith
    · intro close
      norm_num at close
      linarith

end Reperio.Python
