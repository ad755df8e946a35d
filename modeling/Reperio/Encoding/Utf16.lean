import Mathlib.Tactic.Ring
import Reperio.Scanner.LongNames

/-!
# UTF-16 with replacements

Numbers as bytes, the low one first, and texts of such units of two bytes. What is
not UTF-16 is read as the replacement character: a surrogate without its other half,
and a byte without its other half, the two together when one follows the other at
the end.
-/

namespace Reperio.Encoding

/-! ## Little-endian numbers -/

/-- `value.to_bytes(count, "little")`, without the part that does not fit. -/
def toLittle : ℕ → ℕ → List UInt8
  | 0, _ => []
  | count + 1, value => UInt8.ofNat value :: toLittle count (value / 256)

/-- `int.from_bytes(data, "little")`. -/
def fromLittle : List UInt8 → ℕ
  | [] => 0
  | byte :: bytes => byte.toNat + 256 * fromLittle bytes

@[simp] theorem length_toLittle (count value : ℕ) : (toLittle count value).length = count := by
  induction count generalizing value with
  | zero => rfl
  | succ count ih => rw [toLittle, List.length_cons, ih]

theorem fromLittle_toLittle (count value : ℕ) : fromLittle (toLittle count value) = value % 256 ^
    count := by
  induction count generalizing value with
  | zero => rw [toLittle, fromLittle, Nat.pow_zero, Nat.mod_one]
  | succ count ih =>
    rw [toLittle, fromLittle, ih, UInt8.toNat_ofNat', Nat.pow_succ' (m := 256), Nat.mod_mul]

theorem toLittle_add (first second value : ℕ) :
    toLittle (first + second) value = toLittle first value ++ toLittle second
    (value / 256 ^ first) := by
  induction first generalizing value with
  | zero => rw [Nat.zero_add, Nat.pow_zero, Nat.div_one, toLittle, List.nil_append]
  | succ first ih =>
    rw [Nat.succ_add, toLittle, toLittle, ih, Nat.div_div_eq_div_mul, ← Nat.pow_succ',
      List.cons_append]

/-! ## Text -/

/-- U+FFFD. -/
def replacementChar : Char := Char.ofNat 0xFFFD

/-- The units of the data; a last byte without its other half is left out. -/
def unitsOf : List UInt8 → List ℕ
  | low :: high :: rest => (low.toNat + 256 * high.toNat) :: unitsOf rest
  | _ => []

def IsBasic (unit : ℕ) : Prop := unit < 0xD800 ∨ 0xDFFF < unit

instance : DecidablePred IsBasic := fun _ => inferInstanceAs (Decidable (_ ∨ _))

/-- The text of the units, and of a byte after them. A half of a character at the end is replaced
together with that byte. -/
def decodeUnits (odd : Bool) : List ℕ → List Char
  | [] => if odd then [replacementChar] else []
  | unit :: units =>
    if IsBasic unit then Char.ofNat unit :: decodeUnits odd units
    else if 0xDC00 ≤ unit then replacementChar :: decodeUnits odd units
    else
      match units with
      | [] => [replacementChar]
      | next :: others =>
        if 0xDC00 ≤ next ∧ next ≤ 0xDFFF then
          Char.ofNat (0x10000 + (unit - 0xD800) * 1024 + (next - 0xDC00)) :: decodeUnits odd
          others
        else replacementChar :: decodeUnits odd (next :: others)

/-- `data.decode("utf-16-le", errors="replace")`. -/
def utf16Decode (data : List UInt8) : List Char := decodeUnits (data.length % 2 == 1) (unitsOf data)

variable {unit : ℕ}

theorem not_low_of_basic (basic : IsBasic unit) : ¬(0xDC00 ≤ unit ∧ unit ≤ 0xDFFF) := by
  unfold IsBasic at basic
  omega

/-- A unit that is a character is not joined with what stands before it. -/
theorem decodeUnits_append_basic (basic : IsBasic unit) (odd : Bool) (units rest : List ℕ) :
    ∃ before, decodeUnits odd (units ++ unit :: rest) = before ++ Char.ofNat unit :: decodeUnits odd
    rest := by
  have start : decodeUnits odd (unit :: rest) = Char.ofNat unit :: decodeUnits odd rest := by
    rw [decodeUnits.eq_def]
    exact if_pos basic
  fun_induction decodeUnits odd units with
  | case1 => exact ⟨[], start⟩
  | case2 => exact ⟨[], start⟩
  | case3 first units isBasic ih =>
    rcases ih with ⟨before, decoded⟩
    refine ⟨Char.ofNat first :: before, ?_⟩
    rw [List.cons_append, decodeUnits.eq_def]
    dsimp only
    rw [if_pos isBasic, decoded]
    rfl
  | case4 first units notBasic isLow ih =>
    rcases ih with ⟨before, decoded⟩
    refine ⟨replacementChar :: before, ?_⟩
    rw [List.cons_append, decodeUnits.eq_def]
    dsimp only
    rw [if_neg notBasic, if_pos isLow, decoded]
    rfl
  | case5 first notBasic notLow =>
    refine ⟨[replacementChar], ?_⟩
    rw [List.cons_append, List.nil_append, decodeUnits.eq_def]
    dsimp only
    rw [if_neg notBasic, if_neg notLow, if_neg (not_low_of_basic basic), start]
    rfl
  | case6 first notBasic notLow next others isLow ih =>
    rcases ih with ⟨before, decoded⟩
    refine ⟨Char.ofNat (0x10000 + (first - 0xD800) * 1024 + (next - 0xDC00)) :: before, ?_⟩
    rw [List.cons_append, List.cons_append, decodeUnits.eq_def]
    dsimp only
    rw [if_neg notBasic, if_neg notLow, if_pos isLow, decoded]
    rfl
  | case7 first notBasic notLow next others notNext ih =>
    rcases ih with ⟨before, decoded⟩
    refine ⟨replacementChar :: before, ?_⟩
    rw [List.cons_append, List.cons_append, decodeUnits.eq_def]
    dsimp only
    rw [if_neg notBasic, if_neg notLow, if_neg notNext, ← List.cons_append, decoded]
    rfl

theorem ofNat_ne_nul {number : ℕ} (valid : number.isValidChar) (positive : number ≠ 0) :
    Char.ofNat number ≠ '\x00' := by
  intro isNul
  have same := congrArg Char.toNat isNul
  rw [Char.ofNat, dif_pos valid] at same
  exact positive same

/-- A text that does not begin with NUL is not read as one that does. -/
theorem head_decodeUnits {odd : Bool} {units : List ℕ} (nonempty : odd = true ∨ units ≠ [])
    (notNul : units.head? ≠ some 0) (bounded : ∀ unit ∈ units, unit < 0x10000) :
    ∃ char rest, decodeUnits odd units = char :: rest ∧ char ≠ '\x00' := by
  have replaced : replacementChar ≠ '\x00' := by decide
  fun_cases decodeUnits odd units with
  | case1 => exact ⟨_, _, rfl, replaced⟩
  | case2 isEven => exact absurd (nonempty.resolve_right fun notNil => notNil rfl) isEven
  | case3 unit units isBasic =>
    have small := bounded unit List.mem_cons_self
    refine ⟨_, _, rfl, ofNat_ne_nul ?_ fun isZero => notNul (congrArg some isZero)⟩
    unfold IsBasic at isBasic
    unfold Nat.isValidChar
    omega
  | case4 => exact ⟨_, _, rfl, replaced⟩
  | case5 => exact ⟨_, _, rfl, replaced⟩
  | case6 unit notBasic notLow next others isLow =>
    refine ⟨_, _, rfl, ofNat_ne_nul ?_ (by omega)⟩
    unfold IsBasic at notBasic
    unfold Nat.isValidChar
    omega
  | case7 => exact ⟨_, _, rfl, replaced⟩

theorem unitsOf_append {first : List UInt8} (even : first.length % 2 = 0) (second : List UInt8) :
    unitsOf (first ++ second) = unitsOf first ++ unitsOf second := by
  fun_induction unitsOf first with
  | case1 low high rest ih =>
    rw [List.length_cons, List.length_cons] at even
    rw [List.cons_append, List.cons_append, unitsOf, ih (by omega), List.cons_append]
  | case2 bytes short =>
    cases bytes with
    | nil => rfl
    | cons byte bytes =>
      cases bytes with
      | nil => cases even
      | cons other bytes => exact absurd rfl (short byte other bytes)

theorem unitsOf_lt {data : List UInt8} (member : unit ∈ unitsOf data) : unit <
    0x10000 := by
  fun_induction unitsOf data with
  | case1 low high rest ih =>
    rcases List.mem_cons.mp member with rfl | isRest
    · have := low.toNat_lt
      have := high.toNat_lt
      omega
    · exact ih isRest
  | case2 bytes short => cases member

theorem utf16Decode_nul (rest : List UInt8) : utf16Decode (0 :: 0 :: rest) = '\x00' :: utf16Decode
    rest := by
  have odd : ((0 :: 0 :: rest).length % 2 == 1) = (rest.length % 2 == 1) := by
    rw [List.length_cons, List.length_cons, Bool.eq_iff_iff, beq_iff_eq, beq_iff_eq]
    omega
  rw [utf16Decode, odd, unitsOf, decodeUnits.eq_def]
  exact if_pos (.inl (by decide))

/-- A NUL behind whole units stands in the text. -/
theorem utf16Decode_append_nul {bytes : List UInt8} (even : bytes.length % 2 = 0)
    (rest : List UInt8) :
    ∃ before, utf16Decode (bytes ++ 0 :: 0 :: rest) = before ++ '\x00' :: utf16Decode rest := by
  have odd : ((bytes ++ 0 :: 0 :: rest).length % 2 == 1) = (rest.length % 2 == 1) := by
    rw [List.length_append, List.length_cons, List.length_cons, Bool.eq_iff_iff, beq_iff_eq,
      beq_iff_eq]
    omega
  have basic : IsBasic 0 := .inl (by omega)
  rw [utf16Decode, odd, unitsOf_append even]
  exact decodeUnits_append_basic basic _ (unitsOf bytes) (unitsOf rest)

theorem head_utf16Decode {data : List UInt8} (nonempty : data ≠ [])
    (notNul : (unitsOf data).head? ≠ some 0) :
    ∃ char rest, utf16Decode data = char :: rest ∧ char ≠ '\x00' := by
  refine head_decodeUnits ?_ notNul fun unit => unitsOf_lt
  rcases data with _ | ⟨low, _ | ⟨high, rest⟩⟩
  · exact absurd rfl nonempty
  · exact .inl rfl
  · exact .inr (List.cons_ne_nil _ _)

end Reperio.Encoding
