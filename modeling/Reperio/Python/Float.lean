import Mathlib.Data.Int.Log
import Mathlib.Data.Rat.Floor
import Mathlib.Tactic.Linarith
import Mathlib.Tactic.NormNum
import Mathlib.Tactic.Positivity

/-!
# Floats

`float.__repr__` prints the shortest decimal that reads back as the same
double; `float(text)` rounds a decimal to the nearest double, half to even. A
float is held as what is printed, so reading ends with finding the digits of
the double. Not every decimal is printed for a double: a `PyFloat` is one that
reads back as itself, and what is read is always one (`readsBack_readText`).
-/

namespace Reperio.Python

/-! ## Printing -/

/-- The layout `float.__repr__` gives to the digits and the decimal point after `point` of them. -/
def layoutFloat (digits : List Char) (point : ℤ) : List Char := if -4 < point ∧ point ≤ 16 then
    if point ≤ 0 then '0' :: '.' :: (List.replicate (-point).toNat '0' ++ digits)
    else if digits.length ≤ point.toNat then
      digits ++ List.replicate (point.toNat - digits.length) '0' ++ ['.', '0']
    else digits.take point.toNat ++ '.' :: digits.drop point.toNat
  else
    let mantissa := match digits with
      | [] => []
      | [digit] => [digit]
      | digit :: rest => digit :: '.' :: rest
    let power := point - 1
    let size := Nat.toDigits 10 power.natAbs
    mantissa ++ 'e' :: (if power < 0 then '-' else '+') ::
      (List.replicate (2 - size.length) '0' ++ size)

def reprFinite (negative : Bool) (digits : ℕ) (exponent : ℤ) : List Char :=
  let shown := Nat.toDigits 10 digits
  let point := if digits = 0 then 1 else (shown.length : ℤ) + exponent
  (if negative then ['-'] else []) ++ layoutFloat shown point

/-! ## Reading -/

def roundHalfEven (value : ℚ) : ℤ := let below := ⌊value⌋
  if value - below < 1 / 2 then below
  else if 1 / 2 < value - below then below + 1
  else if below % 2 = 0 then below
  else below + 1

/-- The double nearest to a positive number; none when it is too large for any. -/
def nearestDouble (value : ℚ) : Option ℚ := let exponent := max (Int.log 2 value - 52) (-1074)
  let double := (roundHalfEven (value / 2 ^ exponent) : ℚ) * 2 ^ exponent
  if double < 2 ^ 1024 then some double else none

/-- Of the decimals with so many digits beside a number, the nearest one that reads as it. -/
def decimalOfLength? (double : ℚ) (length : ℕ) : Option (ℕ × ℤ) :=
  let exponent := Int.log 10 double - length + 1
  let scaled := double / 10 ^ exponent
  let nearest := roundHalfEven scaled
  let other := if (nearest : ℚ) ≤ scaled then nearest + 1 else nearest - 1
  ([nearest, other].find? fun digits : ℤ =>
    decide (nearestDouble (digits * 10 ^ exponent) = some double)).map
      fun digits => (digits.toNat, exponent)

/-- Without the zeros at the end, of which there are at most `count`. -/
def stripZeros : ℕ → ℕ → ℤ → ℕ × ℤ
  | 0, digits, exponent => (digits, exponent)
  | count + 1, digits, exponent =>
    if digits % 10 = 0 then stripZeros count (digits / 10) (exponent + 1) else (digits, exponent)

/-- The shortest decimal of a positive double: seventeen digits are always enough. -/
def shortestDecimal (double : ℚ) : ℕ × ℤ :=
  match (List.range 17).findSome? fun length => decimalOfLength? double (length + 1) with
  | some (digits, exponent) => stripZeros 17 digits exponent
  | none => (0, 0)

/-- What is printed for a float. -/
inductive FloatText where
  | nan
  | infinity (negative : Bool)
  | finite (negative : Bool) (digits : ℕ) (exponent : ℤ)
  deriving DecidableEq, Repr

def readDouble (negative : Bool) (value : ℚ) : FloatText := match nearestDouble value with
  | none => .infinity negative
  | some double =>
    if double = 0 then .finite negative 0 0
    else
      match shortestDecimal double with
      | (digits, exponent) => .finite negative digits exponent

/-- The float nearest to `digits * 10 ^ exponent`; far outside the range of the doubles the power is
not computed. -/
def readText (negative : Bool) (digits : ℕ) (exponent : ℤ) : FloatText :=
  let magnitude := ((Nat.toDigits 10 digits).length : ℤ) + exponent
  if digits = 0 ∨ magnitude < -400 then .finite negative 0 0
  else if 400 < magnitude then .infinity negative
  else readDouble negative ((digits : ℚ) * 10 ^ exponent)

/-- The text is printed for a float, the one that it is read as. -/
def FloatText.ReadsBack : FloatText → Prop
  | .finite negative digits exponent =>
    readText negative digits exponent = .finite negative digits exponent
  | _ => True

instance : DecidablePred FloatText.ReadsBack := fun text =>
  match text with
  | .finite .. => inferInstanceAs (Decidable (_ = _))
  | .nan => inferInstanceAs (Decidable True)
  | .infinity _ => inferInstanceAs (Decidable True)

/-! ## Reading gives a float -/

theorem roundHalfEven_le (value : ℚ) : (roundHalfEven value : ℚ) ≤ value + 1 / 2 := by
  have below := Int.floor_le value
  unfold roundHalfEven
  dsimp only
  split
  · linarith
  split
  · push_cast
    linarith
  split
  · linarith
  · push_cast
    linarith

theorem le_roundHalfEven (value : ℚ) : value - 1 / 2 ≤ roundHalfEven value := by
  have above := Int.lt_floor_add_one value
  unfold roundHalfEven
  dsimp only
  split
  · linarith
  split
  · push_cast
    linarith
  split
  · linarith
  · push_cast
    linarith

variable {double : ℚ}

/-- A number that is read as a positive double is in the range of the doubles. -/
theorem nearestDouble_range {value : ℚ} (isNearest : nearestDouble value = some double)
    (positive : 0 < double) : (2 : ℚ) ^ (-1075 : ℤ) ≤ value ∧ value < 2 ^ (1025 : ℤ) := by
  rw [nearestDouble] at isNearest
  split at isNearest
  swap
  · cases isNearest
  rename_i small
  have isDouble := Option.some.inj isNearest
  rw [isDouble] at small
  generalize exponent_eq : max (Int.log 2 value - 52) (-1074) = exponent at isDouble
  have unit : (0 : ℚ) < 2 ^ exponent := zpow_pos (by norm_num) _
  have scaled : value / 2 ^ exponent * 2 ^ exponent = value := div_mul_cancel₀ value unit.ne'
  have rounded : (1 : ℚ) ≤ roundHalfEven (value / 2 ^ exponent) := by
    have some : (0 : ℚ) < roundHalfEven (value / 2 ^ exponent) := by
      rw [← isDouble] at positive
      exact pos_of_mul_pos_left positive unit.le
    have whole : 0 < roundHalfEven (value / 2 ^ exponent) := by exact_mod_cast some
    exact_mod_cast whole
  have above := roundHalfEven_le (value / 2 ^ exponent)
  have below := le_roundHalfEven (value / 2 ^ exponent)
  have half : 2 ^ exponent / 2 ≤ value := by
    rw [← scaled]
    nlinarith
  have least : (2 : ℚ) ^ (-1074 : ℤ) ≤ 2 ^ exponent :=
    zpow_le_zpow_right₀ (by norm_num) (exponent_eq ▸ le_max_right _ _)
  refine ⟨?_, ?_⟩
  · have split : (2 : ℚ) ^ (-1074 : ℤ) = 2 ^ (-1075 : ℤ) * 2 := by
      rw [← zpow_add_one₀ (by norm_num)]
      norm_num
    rw [split] at least
    linarith
  · have valuePositive : 0 < value := lt_of_lt_of_le (half_pos unit) half
    have near : value - 2 ^ exponent / 2 ≤ double := by
      rw [← isDouble]
      nlinarith
    have largest : (2 : ℚ) ^ (1025 : ℤ) = 2 ^ 1024 * 2 := by
      rw [← pow_succ, ← zpow_natCast]
      rfl
    have one : (1 : ℚ) ≤ 2 ^ 1024 := one_le_pow₀ (by norm_num)
    rw [largest]
    generalize (2 : ℚ) ^ 1024 = bound at small one ⊢
    have fine : (2 : ℚ) ^ exponent ≤ max value 1 := by
      rcases le_total (Int.log 2 value - 52) (-1074) with tiny | normal
      · rw [max_eq_right tiny] at exponent_eq
        rw [← exponent_eq]
        exact le_max_of_le_right (zpow_le_one_of_nonpos₀ (by norm_num) (by norm_num))
      · rw [max_eq_left normal] at exponent_eq
        rw [← exponent_eq]
        have leading := Int.zpow_log_le_self (b := 2) (by norm_num) valuePositive
        refine le_max_of_le_left (le_trans (zpow_le_zpow_right₀ (by norm_num) ?_) leading)
        omega
    rcases le_max_iff.mp fine with small' | small'
    · linarith
    · linarith

theorem stripZeros_value (count digits : ℕ) (exponent : ℤ) :
    ((stripZeros count digits exponent).1 : ℚ) * 10 ^ (stripZeros count digits exponent).2 =
      digits * 10 ^ exponent := by
  induction count generalizing digits exponent with
  | zero => rfl
  | succ count ih =>
    rw [stripZeros]
    split
    · rename_i zero
      have whole : digits = digits / 10 * 10 := by omega
      rw [ih, zpow_add_one₀ (by norm_num)]
      conv_rhs => rw [whole]
      push_cast
      ring
    · rfl

/-- The digits found for a double are read as it. -/
theorem nearestDouble_of_decimalOfLength? {length digits : ℕ} {exponent : ℤ} (positive : 0 < double)
    (found : decimalOfLength? double length = some (digits, exponent)) :
    nearestDouble (digits * 10 ^ exponent) = some double := by
  rw [decimalOfLength?] at found
  rcases Option.map_eq_some_iff.mp found with ⟨candidate, isCandidate, same⟩
  cases same
  have reads : nearestDouble (candidate * 10 ^ (Int.log 10 double - length + 1)) = some double := by
    simpa using List.find?_some isCandidate
  have range := nearestDouble_range reads positive
  have some : (0 : ℚ) < candidate * 10 ^ (Int.log 10 double - length + 1) :=
    lt_of_lt_of_le (zpow_pos (by norm_num) _) range.1
  have nonneg : 0 ≤ candidate := by
    have cast : (0 : ℚ) < candidate := pos_of_mul_pos_left some (zpow_pos (by norm_num) _).le
    exact_mod_cast cast.le
  have natural : ((candidate.toNat : ℕ) : ℚ) = candidate := by
    exact_mod_cast Int.toNat_of_nonneg nonneg
  rw [natural]
  exact reads

theorem magnitude_range {digits : ℕ} {exponent : ℤ}
    (low : (2 : ℚ) ^ (-1075 : ℤ) ≤ digits * 10 ^ exponent)
    (high : (digits : ℚ) * 10 ^ exponent < 2 ^ (1025 : ℤ)) :
    digits ≠ 0 ∧ -400 ≤ ((Nat.toDigits 10 digits).length : ℤ) + exponent ∧
      ((Nat.toDigits 10 digits).length : ℤ) + exponent ≤ 400 := by
  have nonzero : digits ≠ 0 := by
    rintro rfl
    rw [Nat.cast_zero, zero_mul] at low
    exact absurd low (not_le.mpr (zpow_pos (by norm_num) _))
  have unit : (0 : ℚ) < 10 ^ exponent := zpow_pos (by norm_num) _
  have base : (1 : ℚ) < 10 := by norm_num
  refine ⟨nonzero, ?_, ?_⟩
  · have less : (digits : ℚ) < 10 ^ ((Nat.toDigits 10 digits).length : ℤ) := by
      have bound := (Nat.length_toDigits_le_iff (b := 10) (by norm_num)
        Nat.length_toDigits_pos).mp (le_refl (Nat.toDigits 10 digits).length)
      rw [zpow_natCast]
      exact_mod_cast bound
    have small : (2 : ℚ) ^ (-1075 : ℤ) < 10 ^
      (((Nat.toDigits 10 digits).length : ℤ) + exponent) := by
      rw [zpow_add₀ (by norm_num)]
      exact lt_of_le_of_lt low (mul_lt_mul_of_pos_right less unit)
    have tiny : (10 : ℚ) ^ (-400 : ℤ) ≤ 2 ^ (-1075 : ℤ) := by
      have power : ((2 : ℚ) ^ 43) ^ 25 ≤ (10 ^ 16) ^ 25 :=
        pow_le_pow_left₀ (by norm_num) (by norm_num) 25
      rw [← pow_mul, ← pow_mul] at power
      rw [zpow_neg, zpow_neg]
      exact inv_anti₀ (zpow_pos (by norm_num) _) power
    exact ((zpow_lt_zpow_iff_right₀ base).mp (lt_of_le_of_lt tiny small)).le
  · have more : (10 : ℚ) ^ (((Nat.toDigits 10 digits).length : ℤ) - 1) ≤ digits := by
      rcases Nat.lt_or_ge 1 (Nat.toDigits 10 digits).length with long | short
      · have bound := (Nat.length_toDigits_le_iff (b := 10) (n := digits) (by norm_num)
          (Nat.sub_pos_of_lt long)).not.mp (by omega)
        have power : ((Nat.toDigits 10 digits).length : ℤ) - 1 =
            ((Nat.toDigits 10 digits).length - 1 : ℕ) := by omega
        rw [power, zpow_natCast]
        exact_mod_cast not_lt.mp bound
      · have one : (Nat.toDigits 10 digits).length = 1 := le_antisymm short Nat.length_toDigits_pos
        rw [one]
        have positive : 1 ≤ digits := Nat.pos_of_ne_zero nonzero
        norm_num
        exact_mod_cast positive
    have large : (10 : ℚ) ^ (((Nat.toDigits 10 digits).length : ℤ) - 1 + exponent) < 2 ^
      (1025 : ℤ) := by
      rw [zpow_add₀ (by norm_num)]
      exact lt_of_le_of_lt (mul_le_mul_of_nonneg_right more unit.le) high
    have huge : (2 : ℚ) ^ (1025 : ℤ) ≤ 10 ^ (375 : ℤ) := by
      have power : ((2 : ℚ) ^ 41) ^ 25 ≤ (10 ^ 15) ^ 25 :=
        pow_le_pow_left₀ (by norm_num) (by norm_num) 25
      rw [← pow_mul, ← pow_mul] at power
      exact power
    have below := (zpow_lt_zpow_iff_right₀ base).mp (lt_of_lt_of_le large huge)
    omega

theorem nearestDouble_nonneg {value : ℚ} (nonneg : 0 ≤ value)
    (isNearest : nearestDouble value = some double) : 0 ≤ double := by
  rw [nearestDouble] at isNearest
  split at isNearest
  swap
  · cases isNearest
  obtain rfl := Option.some.inj isNearest
  have unit : (0 : ℚ) < 2 ^ max (Int.log 2 value - 52) (-1074) := zpow_pos (by norm_num) _
  have near := le_roundHalfEven (value / 2 ^ max (Int.log 2 value - 52) (-1074))
  have scaled : 0 ≤ value / 2 ^ max (Int.log 2 value - 52) (-1074) := div_nonneg nonneg unit.le
  have whole : 0 ≤ roundHalfEven (value / 2 ^ max (Int.log 2 value - 52) (-1074)) := by
    by_contra negative
    have below : (roundHalfEven (value / 2 ^ max (Int.log 2 value - 52) (-1074)) : ℚ) ≤ -1 := by
      exact_mod_cast Int.le_sub_one_of_lt (not_le.mp negative)
    linarith
  exact mul_nonneg (by exact_mod_cast whole) unit.le

theorem readsBack_readDouble (negative : Bool) {value : ℚ} (nonneg : 0 ≤ value) :
    (readDouble negative value).ReadsBack := by
  unfold readDouble
  split
  · trivial
  rename_i double isNearest
  split
  · rfl
  rename_i nonzero
  have positive : 0 < double := lt_of_le_of_ne (nearestDouble_nonneg nonneg isNearest)
    (Ne.symm nonzero)
  cases found : (List.range 17).findSome? fun length => decimalOfLength? double (length + 1) with
  | none =>
    simp only [shortestDecimal, found]
    rfl
  | some decimal =>
    have shortest : shortestDecimal double = stripZeros 17 decimal.1 decimal.2 := by
      simp only [shortestDecimal, found]
    rcases List.exists_of_findSome?_eq_some found with ⟨length, _, isDecimal⟩
    have reads := nearestDouble_of_decimalOfLength? positive isDecimal
    rw [← stripZeros_value 17, ← shortest] at reads
    have range := nearestDouble_range reads positive
    rcases magnitude_range range.1 range.2 with ⟨some, low, high⟩
    have inRange : ¬((shortestDecimal double).1 = 0 ∨
        ((Nat.toDigits 10 (shortestDecimal double).1).length : ℤ) + (shortestDecimal double).2 <
          -400) := by
      rw [not_or]
      exact ⟨some, not_lt.mpr low⟩
    change readText negative (shortestDecimal double).1 (shortestDecimal double).2 =
      .finite negative (shortestDecimal double).1 (shortestDecimal double).2
    rw [readText, if_neg inRange, if_neg (not_lt.mpr high), readDouble, reads]
    exact if_neg nonzero

/-- What is read is a float. -/
theorem readsBack_readText (negative : Bool) (digits : ℕ) (exponent : ℤ) :
    (readText negative digits exponent).ReadsBack := by
  unfold readText
  dsimp only
  split
  · rfl
  split
  · trivial
  · exact readsBack_readDouble negative
      (mul_nonneg (Nat.cast_nonneg _) (zpow_pos (by norm_num) _).le)

/-! ## Values -/

/-- A float, by what is printed for it. -/
abbrev PyFloat := { text : FloatText // text.ReadsBack }

namespace PyFloat

def nan : PyFloat := ⟨.nan, trivial⟩

def infinity (negative : Bool) : PyFloat := ⟨.infinity negative, trivial⟩

/-- `float(text)` for the decimal `digits * 10 ^ exponent`. -/
def read (negative : Bool) (digits : ℕ) (exponent : ℤ) : PyFloat :=
  ⟨readText negative digits exponent, readsBack_readText negative digits exponent⟩

end PyFloat

end Reperio.Python
