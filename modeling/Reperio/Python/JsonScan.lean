import Reperio.Python.JsonText

/-!
# What the scanners read

Strings that the encoder quotes and numbers that it writes are read back, a number in front of
what ends it, and blanks are skipped.
-/

namespace Reperio.Python

/-! ## Strings -/

/-- The UTF-16 code units of a character, a lone surrogate being one itself. -/
def unitsOf (point : CodePoint) : PyStr := if point.val < 65536 then [point]
  else [Fin.ofNat 0x110000 (55296 + (point.val - 65536) / 1024),
    Fin.ofNat 0x110000 (56320 + (point.val - 65536) % 1024)]

/-- The string that JSON gives back. -/
def PyStr.joined (points : PyStr) : PyStr := joinSurrogates (points.flatMap unitsOf)

variable {point : CodePoint} {rest fraction : List Char} {power : Option (Bool × List Char)}
    {allowNan : Bool} {limit : ℕ}

theorem unitsOf_of_small (small : point.val < 65536) : unitsOf point = [point] := if_pos small

theorem unitsOf_join {high low : CodePoint} (isHigh : isHighSurrogate high = true)
    (isLow : isLowSurrogate low = true) :
    unitsOf (Fin.ofNat 0x110000 (65536 + (high.val - 55296) * 1024 + (low.val - 56320))) =
      [high, low] := by
  simp only [isHighSurrogate, Bool.and_eq_true, decide_eq_true_eq] at isHigh
  simp only [isLowSurrogate, Bool.and_eq_true, decide_eq_true_eq] at isLow
  have whole : (Fin.ofNat 0x110000 (65536 + (high.val - 55296) * 1024 + (low.val - 56320))).val =
      65536 + (high.val - 55296) * 1024 + (low.val - 56320) := Nat.mod_eq_of_lt (by omega)
  rw [unitsOf, whole, if_neg (by omega)]
  have first : 55296 + (65536 + (high.val - 55296) * 1024 + (low.val - 56320) - 65536) / 1024 =
      high.val := by omega
  have second : 56320 + (65536 + (high.val - 55296) * 1024 + (low.val - 56320) - 65536) % 1024 =
      low.val := by omega
  rw [first, second]
  have highSame : Fin.ofNat 0x110000 high.val = high := Fin.ext (Nat.mod_eq_of_lt high.isLt)
  have lowSame : Fin.ofNat 0x110000 low.val = low := Fin.ext (Nat.mod_eq_of_lt low.isLt)
  rw [highSame, lowSame]

/-- Joining surrogates does not change the code units. -/
theorem units_joinSurrogates (units : PyStr) (small : ∀ unit ∈ units, unit.val < 65536) :
    (joinSurrogates units).flatMap unitsOf = units := by
  fun_induction joinSurrogates units with
  | case1 high low rest pair ih =>
    rw [Bool.and_eq_true] at pair
    rw [List.flatMap_cons, unitsOf_join pair.1 pair.2, ih fun unit member =>
      small unit (List.mem_cons_of_mem _ (List.mem_cons_of_mem _ member))]
    rfl
  | case2 high low rest _ ih =>
    rw [List.flatMap_cons, unitsOf_of_small (small high List.mem_cons_self),
      ih fun unit member => small unit (List.mem_cons_of_mem _ member)]
    rfl
  | case3 points single =>
    rcases points with _ | ⟨point, _ | ⟨other, rest⟩⟩
    · rfl
    · rw [List.flatMap_singleton, unitsOf_of_small (small point List.mem_cons_self)]
    · exact absurd rfl (single point other rest)

theorem unitsOf_small {unit : CodePoint} (member : unit ∈ unitsOf point) : unit.val < 65536 := by
  have bound := point.isLt
  rw [unitsOf] at member
  split at member
  · rw [List.mem_singleton.mp member]
    assumption
  · simp only [List.mem_cons, List.not_mem_nil, or_false] at member
    rcases member with rfl | rfl
    · exact lt_of_le_of_lt (Nat.mod_le _ _) (by omega)
    · exact lt_of_le_of_lt (Nat.mod_le _ _) (by omega)

theorem PyStr.units_joined (points : PyStr) :
    points.joined.flatMap unitsOf = points.flatMap unitsOf := by
  refine units_joinSurrogates _ fun unit member => ?_
  rcases List.mem_flatMap.mp member with ⟨point, _, ofPoint⟩
  exact unitsOf_small ofPoint

@[simp]
theorem PyStr.joined_joined (points : PyStr) : points.joined.joined = points.joined := by
  rw [joined, units_joined, joined]

/-- A Unicode scalar value: any code point but a surrogate. -/
def CodePoint.IsScalar (point : CodePoint) : Prop := point.val < 0xD800 ∨ 0xE000 ≤ point.val

theorem CodePoint.IsScalar.not_high (scalar : point.IsScalar) : isHighSurrogate point = false := by
  rw [isHighSurrogate, Bool.and_eq_false_iff, decide_eq_false_iff_not, decide_eq_false_iff_not]
  unfold CodePoint.IsScalar at scalar
  omega

theorem joinSurrogates_cons_of_not_high (notHigh : isHighSurrogate point = false) (rest : PyStr) :
    joinSurrogates (point :: rest) = point :: joinSurrogates rest := by
  cases rest with
  | nil => rfl
  | cons next rest => rw [joinSurrogates, notHigh, Bool.false_and, if_neg Bool.false_ne_true]

theorem joinSurrogates_unitsOf (notHigh : isHighSurrogate point = false) (rest : PyStr) :
    joinSurrogates (unitsOf point ++ rest) = point :: joinSurrogates rest := by
  have bound := point.isLt
  by_cases small : point.val < 65536
  · rw [unitsOf_of_small small]
    exact joinSurrogates_cons_of_not_high notHigh rest
  · have high : (Fin.ofNat 0x110000 (55296 + (point.val - 65536) / 1024)).val =
        55296 + (point.val - 65536) / 1024 := Nat.mod_eq_of_lt (by omega)
    have low : (Fin.ofNat 0x110000 (56320 + (point.val - 65536) % 1024)).val =
        56320 + (point.val - 65536) % 1024 := Nat.mod_eq_of_lt (by omega)
    have pair : (isHighSurrogate (Fin.ofNat 0x110000 (55296 + (point.val - 65536) / 1024)) &&
        isLowSurrogate (Fin.ofNat 0x110000 (56320 + (point.val - 65536) % 1024))) = true := by
      rw [isHighSurrogate, isLowSurrogate, high, low]
      simp only [Bool.and_eq_true, decide_eq_true_eq]
      omega
    rw [unitsOf, if_neg small, List.cons_append, List.cons_append, List.nil_append, joinSurrogates,
      if_pos pair, high, low]
    have whole : 65536 + (55296 + (point.val - 65536) / 1024 - 55296) * 1024 +
        (56320 + (point.val - 65536) % 1024 - 56320) = point.val := by omega
    have same : Fin.ofNat 0x110000 point.val = point := Fin.ext (Nat.mod_eq_of_lt bound)
    rw [whole, same]

/-- A string where no surrogate begins a pair is read back as it was. -/
theorem PyStr.joined_of_not_high {points : PyStr}
    (notHigh : ∀ point ∈ points, isHighSurrogate point = false) : points.joined = points := by
  unfold joined
  induction points with
  | nil => rfl
  | cons point points ih =>
    rw [List.flatMap_cons, joinSurrogates_unitsOf (notHigh point List.mem_cons_self),
      ih fun other member => notHigh other (List.mem_cons_of_mem _ member)]

theorem PyStr.joined_of_scalar {points : PyStr} (scalar : ∀ point ∈ points, point.IsScalar) :
    points.joined = points :=
  joined_of_not_high fun point member => (scalar point member).not_high

theorem isScalar_ofChar (char : Char) : (CodePoint.ofChar char).IsScalar := by
  have valid := char.valid
  have bound : char.toNat < 0x110000 := by
    rcases valid with small | large
    · exact lt_trans small (by decide)
    · exact large.2
  rw [CodePoint.IsScalar, CodePoint.ofChar, Fin.val_ofNat, Nat.mod_eq_of_lt bound]
  rcases valid with small | large
  · exact Or.inl small
  · exact Or.inr (Nat.succ_le_of_lt large.1)

@[simp]
theorem PyStr.joined_ofString (text : String) :
    (PyStr.ofString text).joined = PyStr.ofString text := by
  refine PyStr.joined_of_scalar fun point member => ?_
  rcases List.mem_map.mp member with ⟨char, _, rfl⟩
  exact isScalar_ofChar char

theorem CodePoint.ofChar_injective : Function.Injective CodePoint.ofChar := by
  have bound : ∀ char : Char, char.toNat < 0x110000 := by
    intro char
    rcases char.valid with small | large
    · exact lt_trans small (by decide)
    · exact large.2
  intro first second same
  have values := congrArg Fin.val same
  rw [CodePoint.ofChar, CodePoint.ofChar, Fin.val_ofNat, Fin.val_ofNat,
    Nat.mod_eq_of_lt (bound first), Nat.mod_eq_of_lt (bound second)] at values
  exact Char.toNat_inj.mp values

theorem PyStr.ofString_injective : Function.Injective PyStr.ofString := by
  intro first second same
  exact String.toList_injective (List.map_injective_iff.mpr CodePoint.ofChar_injective same)

theorem PyValue.str_injective : Function.Injective PyValue.str :=
  fun _ _ same => PyStr.ofString_injective (PyValue.text.inj same)

/-- A string is written unit by unit. -/
theorem escape_unitsOf (point : CodePoint) :
    (unitsOf point).flatMap (fun unit => escapePoint unit.val) = escapePoint point.val := by
  by_cases small : point.val < 65536
  · rw [unitsOf_of_small small, List.flatMap_singleton]
  · have bound := point.isLt
    have unit : ∀ value : ℕ, 55296 ≤ value → value < 65536 →
        escapePoint (Fin.ofNat 0x110000 value).val = escapeUnit value := by
      intro value low high
      have same : (Fin.ofNat 0x110000 value).val = value := Nat.mod_eq_of_lt (by omega)
      rw [same]
      unfold escapePoint
      repeat rw [if_neg (by omega)]
      rw [if_pos high]
    rw [unitsOf, if_neg small, List.flatMap_cons, List.flatMap_singleton, unit _ (by omega)
      (by omega), unit _ (by omega) (by omega)]
    unfold escapePoint
    repeat rw [if_neg (by omega)]

theorem quote_joined (points : PyStr) : quote points.joined = quote points := by
  have units : ∀ points : PyStr, points.flatMap (fun point => escapePoint point.val) =
      (points.flatMap unitsOf).flatMap fun unit => escapePoint unit.val := by
    intro points
    rw [List.flatMap_assoc]
    simp only [escape_unitsOf]
  rw [quote, units, PyStr.units_joined, ← units, quote]

theorem hexValue?_hexDigit {value : ℕ} (small : value < 16) :
    hexValue? (hexDigit value) = some value := by
  revert value
  decide

theorem scanUnits_escapeUnit {unit : ℕ} (small : unit < 65536) (rest : List Char) :
    scanUnits (escapeUnit unit ++ rest) = (scanUnits rest).map fun scanned =>
      (Fin.ofNat 0x110000 unit :: scanned.1, scanned.2) := by
  have first := hexValue?_hexDigit (Nat.mod_lt (unit / 4096) (by decide : 0 < 16))
  have second := hexValue?_hexDigit (Nat.mod_lt (unit / 256) (by decide : 0 < 16))
  have third := hexValue?_hexDigit (Nat.mod_lt (unit / 16) (by decide : 0 < 16))
  have fourth := hexValue?_hexDigit (Nat.mod_lt unit (by decide : 0 < 16))
  have whole : unit / 4096 % 16 * 4096 + unit / 256 % 16 * 256 + unit / 16 % 16 * 16 + unit % 16 =
      unit := by omega
  have hex : hexUnit? (hexDigit (unit / 4096 % 16)) (hexDigit (unit / 256 % 16))
      (hexDigit (unit / 16 % 16)) (hexDigit (unit % 16)) = some (Fin.ofNat 0x110000 unit) := by
    simp only [hexUnit?, first, second, third, fourth, Option.bind_eq_bind, Option.bind_some,
      Option.pure_def, whole]
  simp only [escapeUnit, List.cons_append, List.nil_append, scanUnits, hex]
  cases scanUnits rest with
  | error error => rfl
  | ok scanned => rfl

theorem scanUnits_plain {char : Char} (notQuote : char ≠ '"') (notEscape : char ≠ '\\')
    (printable : 32 ≤ char.toNat) (rest : List Char) :
    scanUnits (char :: rest) = (scanUnits rest).map fun scanned =>
      (CodePoint.ofChar char :: scanned.1, scanned.2) := by
  rw [scanUnits.eq_def]
  split
  · simp_all
  · simp_all
  · simp_all
  · simp_all
  · rename_i other tail _ same
    cases same
    rw [if_neg (Nat.not_lt.mpr printable)]
    cases scanUnits rest with
    | error error => rfl
    | ok scanned => rfl

theorem scanUnits_simple {escape : Char} (notUnit : escape ≠ 'u')
    (simple : simpleEscape? escape = some point) (rest : List Char) :
    scanUnits ('\\' :: escape :: rest) = (scanUnits rest).map fun scanned =>
      (point :: scanned.1, scanned.2) := by
  rw [scanUnits.eq_def]
  split
  · simp_all
  · simp_all
  · simp_all
  · rename_i other tail _ same
    cases same
    rw [simple]
    cases scanUnits rest with
    | error error => rfl
    | ok scanned => rfl
  · rename_i other tail _ notEscaped same
    cases same
    exact absurd rfl (notEscaped escape rest rfl)

theorem scanUnits_escapePoint (point : CodePoint) (rest : List Char) :
    scanUnits (escapePoint point.val ++ rest) = (scanUnits rest).map fun scanned =>
      (unitsOf point ++ scanned.1, scanned.2) := by
  have simple : ∀ (escape : Char) (value : CodePoint), point.val = value.val → value.val < 65536 →
      escape ≠ 'u' → simpleEscape? escape = some value →
      scanUnits (['\\', escape] ++ rest) = (scanUnits rest).map fun scanned =>
        (unitsOf point ++ scanned.1, scanned.2) := by
    intro escape value same small notUnit found
    obtain rfl : point = value := Fin.ext same
    rw [unitsOf_of_small small]
    exact scanUnits_simple notUnit found rest
  have bound := point.isLt
  unfold escapePoint
  split
  · exact simple '"' 34 ‹_› (by decide) (by decide) rfl
  split
  · exact simple '\\' 92 ‹_› (by decide) (by decide) rfl
  split
  · exact simple 'n' 10 ‹_› (by decide) (by decide) rfl
  split
  · exact simple 'r' 13 ‹_› (by decide) (by decide) rfl
  split
  · exact simple 't' 9 ‹_› (by decide) (by decide) rfl
  split
  · exact simple 'b' 8 ‹_› (by decide) (by decide) rfl
  split
  · exact simple 'f' 12 ‹_› (by decide) (by decide) rfl
  rename_i notQuote notEscape _ _ _ _ _
  split
  · rename_i printable
    have valid : point.val.isValidChar := Or.inl (by omega)
    have number : (Char.ofNat point.val).toNat = point.val := by
      rw [Char.ofNat, dif_pos valid]
      rfl
    have same : CodePoint.ofChar (Char.ofNat point.val) = point := by
      rw [CodePoint.ofChar, number]
      exact Fin.ext (Nat.mod_eq_of_lt bound)
    rw [unitsOf_of_small (by omega)]
    refine (scanUnits_plain ?_ ?_ (by omega) rest).trans (by rw [same]; rfl)
    · intro isQuote
      rw [isQuote] at number
      exact notQuote number.symm
    · intro isEscape
      rw [isEscape] at number
      exact notEscape number.symm
  split
  · rename_i small
    rw [scanUnits_escapeUnit small, unitsOf_of_small small]
    have same : Fin.ofNat 0x110000 point.val = point := Fin.ext (Nat.mod_eq_of_lt bound)
    rw [same]
    rfl
  · rename_i large
    rw [List.append_assoc, scanUnits_escapeUnit (by omega), scanUnits_escapeUnit (by omega),
      unitsOf, if_neg large]
    cases scanUnits rest with
    | error error => rfl
    | ok scanned => rfl

theorem scanString_quote (points : PyStr) (rest : List Char) :
    scanString (points.flatMap (fun point => escapePoint point.val) ++ '"' :: rest) =
      .ok (points.joined, rest) := by
  have units : scanUnits (points.flatMap (fun point => escapePoint point.val) ++ '"' :: rest) =
      .ok (points.flatMap unitsOf, rest) := by
    induction points with
    | nil => rfl
    | cons point points ih =>
      rw [List.flatMap_cons, List.append_assoc, scanUnits_escapePoint, ih]
      rfl
  rw [scanString, units]
  rfl

/-! ## Numbers -/

/-- What follows a value inside a text. -/
def Ends (rest : List Char) : Prop :=
  ∀ char ∈ rest.head?, char ∈ [',', ']', '}', ' ', '\t', '\n', '\r']

def NoDigit (rest : List Char) : Prop := ∀ char ∈ rest.head?, char.isDigit = false

theorem Ends.noDigit (ends : Ends rest) : NoDigit rest := by
  intro char isHead
  have member := ends char isHead
  simp only [List.mem_cons, List.not_mem_nil, or_false] at member
  rcases member with rfl | rfl | rfl | rfl | rfl | rfl | rfl <;> rfl

theorem Ends.noPoint (ends : Ends rest) : rest.head? ≠ some '.' := by
  intro point
  have member := ends '.' point
  revert member
  decide

theorem takeWhile_digits {digits : List Char} (all : ∀ char ∈ digits, char.isDigit = true)
    (stops : NoDigit rest) : (digits ++ rest).takeWhile Char.isDigit = digits := by
  rw [List.takeWhile_append_of_pos all]
  cases rest with
  | nil => simp
  | cons char rest => rw [List.takeWhile_cons_of_neg (by simp [stops char rfl]), List.append_nil]

theorem dropWhile_digits {digits : List Char} (all : ∀ char ∈ digits, char.isDigit = true)
    (stops : NoDigit rest) : (digits ++ rest).dropWhile Char.isDigit = rest := by
  rw [List.dropWhile_append_of_pos all]
  cases rest with
  | nil => rfl
  | cons char rest => rw [List.dropWhile_cons_of_neg (by simp [stops char rfl])]

def fractionText : List Char → List Char
  | [] => []
  | digits => '.' :: digits

def exponentText : Option (Bool × List Char) → List Char
  | none => []
  | some (negative, digits) => 'e' :: (if negative then '-' else '+') :: digits

theorem scanFraction_text (all : ∀ char ∈ fraction, char.isDigit = true) (stops : NoDigit rest)
    (noPoint : rest.head? ≠ some '.') :
    scanFraction (fractionText fraction ++ rest) = (fraction, rest) := by
  cases fraction with
  | nil =>
    rw [fractionText, List.nil_append]
    unfold scanFraction
    split
    · exact absurd rfl noPoint
    · rfl
  | cons digit fraction =>
    have text : fractionText (digit :: fraction) ++ rest = '.' :: (digit :: fraction ++ rest) := rfl
    rw [text, scanFraction, takeWhile_digits all stops, dropWhile_digits all stops]
    rfl

theorem scanExponent_text {exponent : Option (Bool × List Char)} {rest : List Char}
    (all : ∀ power ∈ exponent, power.2 ≠ [] ∧ ∀ char ∈ power.2, char.isDigit = true)
    (ends : Ends rest) :
    scanExponent (exponentText exponent ++ rest) =
      (exponent.map fun power => signed power.1 (Nat.ofDigitChars 10 power.2 0), rest) := by
  cases exponent with
  | none =>
    rw [exponentText, List.nil_append]
    cases rest with
    | nil => rfl
    | cons char rest =>
      have member := ends char rfl
      simp only [List.mem_cons, List.not_mem_nil, or_false] at member
      rcases member with rfl | rfl | rfl | rfl | rfl | rfl | rfl <;> rfl
  | some power =>
    rcases power with ⟨negative, digits⟩
    rcases all _ rfl with ⟨nonempty, allDigits⟩
    have sign : scanSign ((if negative then '-' else '+') :: (digits ++ rest)) =
        (negative, digits ++ rest) := by
      cases negative <;> rfl
    have text : exponentText (some (negative, digits)) ++ rest =
        'e' :: (if negative then '-' else '+') :: (digits ++ rest) := rfl
    rw [text, scanExponent, if_pos (Or.inl rfl), sign]
    simp only [takeWhile_digits allDigits ends.noDigit, dropWhile_digits allDigits ends.noDigit,
      List.isEmpty_iff, if_neg nonempty, Option.map_some]

/-- A number is read in its parts. -/
theorem scanUnsigned_parts {whole fraction tail rest : List Char} {exponent : Option ℤ}
    (negative : Bool) (nonempty : whole ≠ []) (wholeDigits : ∀ char ∈ whole, char.isDigit = true)
    (noZero : whole = ['0'] ∨ whole.head? ≠ some '0')
    (fractionDigits : ∀ char ∈ fraction, char.isDigit = true)
    (stops : NoDigit tail) (noPoint : tail.head? ≠ some '.')
    (power : scanExponent tail = (exponent, rest)) :
    scanUnsigned negative (whole ++ (fractionText fraction ++ tail)) =
      if fraction.isEmpty && exponent.isNone then
        if whole.length ≤ intMaxStrDigits then
          .ok (.int (signed negative (Nat.ofDigitChars 10 whole 0)), rest)
        else .error .tooManyDigits
      else
        .ok (.float (.read negative (Nat.ofDigitChars 10 (whole ++ fraction) 0)
          (exponent.getD 0 - fraction.length)), rest) := by
  have afterWhole : NoDigit (fractionText fraction ++ tail) := by
    cases fraction with
    | nil => exact stops
    | cons digit fraction =>
      rintro char isHead
      cases isHead
      rfl
  have count : wholeLength (whole ++ (fractionText fraction ++ tail)) = whole.length := by
    unfold wholeLength
    split
    · rename_i tail isZero
      rcases noZero with rfl | noZero
      · rfl
      · cases whole with
        | nil => exact absurd rfl nonempty
        | cons digit whole =>
          cases isZero
          exact absurd rfl noZero
    · rw [takeWhile_digits wholeDigits afterWhole]
  simp only [scanUnsigned, count, List.take_left, List.drop_left, List.isEmpty_iff, if_neg nonempty]
  rw [scanFraction_text fractionDigits stops noPoint, power]

/-- Every number that is written is read in its parts. -/
theorem scanUnsigned_text {whole fraction rest : List Char} {exponent : Option (Bool × List Char)}
    (negative : Bool) (nonempty : whole ≠ []) (wholeDigits : ∀ char ∈ whole, char.isDigit = true)
    (noZero : whole = ['0'] ∨ whole.head? ≠ some '0')
    (fractionDigits : ∀ char ∈ fraction, char.isDigit = true)
    (exponentDigits : ∀ power ∈ exponent, power.2 ≠ [] ∧ ∀ char ∈ power.2, char.isDigit = true)
    (ends : Ends rest) :
    scanUnsigned negative (whole ++ (fractionText fraction ++ (exponentText exponent ++ rest))) =
      if fraction.isEmpty && exponent.isNone then
        if whole.length ≤ intMaxStrDigits then
          .ok (.int (signed negative (Nat.ofDigitChars 10 whole 0)), rest)
        else .error .tooManyDigits
      else
        .ok (.float (.read negative (Nat.ofDigitChars 10 (whole ++ fraction) 0)
          ((exponent.map fun power => signed power.1 (Nat.ofDigitChars 10 power.2 0)).getD 0 -
            fraction.length)), rest) := by
  have afterFraction : NoDigit (exponentText exponent ++ rest) ∧
      (exponentText exponent ++ rest).head? ≠ some '.' := by
    cases exponent with
    | none => exact ⟨ends.noDigit, ends.noPoint⟩
    | some power =>
      refine ⟨?_, fun point => by cases point⟩
      rintro char isHead
      cases isHead
      rfl
  rw [scanUnsigned_parts negative nonempty wholeDigits noZero fractionDigits afterFraction.1
    afterFraction.2 (scanExponent_text exponentDigits ends), Option.isNone_map]

theorem isDigit_of_mem_toDigits {number : ℕ} {char : Char}
    (member : char ∈ Nat.toDigits 10 number) :
    char.isDigit = true := Nat.isDigit_of_mem_toDigits (by decide) (by decide) member

theorem isDigit_of_mem_zeros {count : ℕ} {char : Char} (member : char ∈ List.replicate count '0') :
    char.isDigit = true := by
  rw [(List.mem_replicate.mp member).2]
  rfl

theorem digitChar_ne_zero : ∀ number < 10, 0 < number → Nat.digitChar number ≠ '0' := by
  decide

theorem head_toDigits_ne_zero {number : ℕ} (positive : 0 < number) :
    (Nat.toDigits 10 number).head? ≠ some '0' := by
  induction number using Nat.strongRecOn with
  | ind number ih =>
    by_cases small : number < 10
    · rw [Nat.toDigits_of_lt_base small]
      exact fun same => digitChar_ne_zero number small positive (Option.some.inj same)
    · rw [Nat.toDigits_of_base_le (by decide) (not_lt.mp small), List.head?_append_of_ne_nil _
        Nat.toDigits_ne_nil]
      exact ih (number / 10) (Nat.div_lt_self positive (by decide)) (by omega)

theorem toDigits_zero_or_head (number : ℕ) :
    Nat.toDigits 10 number = ['0'] ∨ (Nat.toDigits 10 number).head? ≠ some '0' := by
  rcases Nat.eq_zero_or_pos number with rfl | positive
  · exact Or.inl (Nat.toDigits_zero 10)
  · exact Or.inr (head_toDigits_ne_zero positive)

theorem toDigits_mul_pow {number : ℕ} (positive : 0 < number) (count : ℕ) :
    Nat.toDigits 10 (number * 10 ^ count) = Nat.toDigits 10 number ++ List.replicate count '0' := by
  induction count with
  | zero => simp
  | succ count ih =>
    have shifted : number * 10 ^ (count + 1) = 10 * (number * 10 ^ count) + 0 := by ring
    rw [shifted, ← Nat.toDigits_append_toDigits (by decide) (by positivity) (by decide), ih,
      List.append_assoc, List.replicate_succ']
    rfl

/-- Zeros moved from the exponent to the digits are read alike. -/
theorem readText_mul_pow (negative : Bool) (digits count : ℕ) (exponent : ℤ) :
    readText negative (digits * 10 ^ count) (exponent - count) =
      readText negative digits exponent := by
  rcases Nat.eq_zero_or_pos digits with rfl | positive
  · simp [readText]
  · have magnitude : ((Nat.toDigits 10 (digits * 10 ^ count)).length : ℤ) + (exponent - count) =
        (Nat.toDigits 10 digits).length + exponent := by
      rw [toDigits_mul_pow positive, List.length_append, List.length_replicate]
      push_cast
      ring
    have same : ((digits * 10 ^ count : ℕ) : ℚ) * 10 ^ (exponent - count) =
        (digits : ℚ) * 10 ^ exponent := by
      rw [Nat.cast_mul, Nat.cast_pow, mul_assoc, Nat.cast_ofNat, ← zpow_natCast,
        ← zpow_add₀ (by norm_num), add_sub_cancel]
    have nonzero : (digits * 10 ^ count = 0) = (digits = 0) := by simp
    simp only [readText, magnitude, same, nonzero]

/-- The parts of a number, as `scanUnsigned` finds them, spell a float. -/
structure FloatParts (digits : ℕ) (exponent : ℤ) (text whole fraction : List Char)
    (power : Option (Bool × List Char)) : Prop where
  nonempty : whole ≠ []
  wholeDigits : ∀ char ∈ whole, char.isDigit = true
  noZero : whole = ['0'] ∨ whole.head? ≠ some '0'
  fractionDigits : ∀ char ∈ fraction, char.isDigit = true
  powerDigits : ∀ size ∈ power, size.2 ≠ [] ∧ ∀ char ∈ size.2, char.isDigit = true
  notInt : (fraction.isEmpty && power.isNone) = false
  spelled : text = whole ++ (fractionText fraction ++ exponentText power)
  value : ∀ negative, readText negative (Nat.ofDigitChars 10 (whole ++ fraction) 0)
    ((power.map fun size => signed size.1 (Nat.ofDigitChars 10 size.2 0)).getD 0 -
      fraction.length) = readText negative digits exponent

theorem FloatParts.scan {digits : ℕ} {exponent : ℤ} {text whole : List Char}
    (parts : FloatParts digits exponent text whole fraction power) (ends : Ends rest)
    (negative : Bool) :
    scanUnsigned negative (text ++ rest) = .ok (.float (.read negative digits exponent), rest)
      := by
  have read := scanUnsigned_text negative parts.nonempty parts.wholeDigits parts.noZero
    parts.fractionDigits parts.powerDigits ends
  have same : PyFloat.read negative (Nat.ofDigitChars 10 (whole ++ fraction) 0)
      ((power.map fun size => signed size.1 (Nat.ofDigitChars 10 size.2 0)).getD 0 -
        fraction.length) = .read negative digits exponent := Subtype.ext (parts.value negative)
  rw [parts.notInt, if_neg Bool.false_ne_true, same] at read
  rw [parts.spelled, List.append_assoc, List.append_assoc]
  exact read

section Layout

variable {digits : ℕ} {exponent : ℤ}

/-- All digits behind the point. -/
theorem FloatParts.behind (low : (Nat.toDigits 10 digits).length + exponent ≤ 0) :
    FloatParts digits exponent
      ('0' :: '.' :: (List.replicate (-((Nat.toDigits 10 digits).length + exponent)).toNat '0' ++
        Nat.toDigits 10 digits)) ['0']
      (List.replicate (-((Nat.toDigits 10 digits).length + exponent)).toNat '0' ++
        Nat.toDigits 10 digits) none where
  nonempty := by simp
  wholeDigits := by simp
  noZero := Or.inl rfl
  fractionDigits := by
    intro char member
    rcases List.mem_append.mp member with zero | digit
    · exact isDigit_of_mem_zeros zero
    · exact isDigit_of_mem_toDigits digit
  powerDigits := by simp
  notInt := by simp [Nat.toDigits_ne_nil]
  spelled := by
    cases fraction : List.replicate (-((Nat.toDigits 10 digits).length + exponent)).toNat '0' ++
        Nat.toDigits 10 digits with
    | nil => exact absurd (List.append_eq_nil_iff.mp fraction).2 Nat.toDigits_ne_nil
    | cons digit rest => simp [fractionText, exponentText]
  value := by
    intro negative
    have number : Nat.ofDigitChars 10 (['0'] ++
        (List.replicate (-((Nat.toDigits 10 digits).length + exponent)).toNat '0' ++
          Nat.toDigits 10 digits)) 0 = digits := by
      rw [Nat.ofDigitChars_append, Nat.ofDigitChars_append, Nat.ofDigitChars_replicate_zero]
      simp [Nat.ofDigitChars_cons]
    rw [number]
    congr 1
    simp only [Option.map_none, Option.getD_none, List.length_append, List.length_replicate]
    push_cast
    omega

/-- All digits before the point. -/
theorem FloatParts.before (positive : 0 < digits) (high : (Nat.toDigits 10 digits).length ≤
      ((Nat.toDigits 10 digits).length + exponent).toNat) :
    FloatParts digits exponent
      (Nat.toDigits 10 digits ++ List.replicate
        (((Nat.toDigits 10 digits).length + exponent).toNat - (Nat.toDigits 10 digits).length)
          '0' ++
        ['.', '0'])
      (Nat.toDigits 10 digits ++ List.replicate
        (((Nat.toDigits 10 digits).length + exponent).toNat - (Nat.toDigits 10 digits).length) '0')
      ['0'] none where
  nonempty := by simp [Nat.toDigits_ne_nil]
  wholeDigits := by
    intro char member
    rcases List.mem_append.mp member with digit | zero
    · exact isDigit_of_mem_toDigits digit
    · exact isDigit_of_mem_zeros zero
  noZero := by
    rw [List.head?_append_of_ne_nil _ Nat.toDigits_ne_nil]
    exact Or.inr (head_toDigits_ne_zero positive)
  fractionDigits := by simp
  powerDigits := by simp
  notInt := rfl
  spelled := by simp [fractionText, exponentText]
  value := by
    intro negative
    have nonneg : 0 ≤ exponent := by
      have := Nat.length_toDigits_pos (b := 10) (n := digits)
      omega
    rcases Int.eq_ofNat_of_zero_le nonneg with ⟨zeros, rfl⟩
    have count : ((Nat.toDigits 10 digits).length + (zeros : ℤ)).toNat -
        (Nat.toDigits 10 digits).length = zeros := by omega
    have number : Nat.ofDigitChars 10
      ((Nat.toDigits 10 digits ++ List.replicate zeros '0') ++ ['0'])
        0 = digits * 10 ^ (zeros + 1) := by
      rw [Nat.ofDigitChars_append, Nat.ofDigitChars_append, Nat.ofDigitChars_replicate_zero,
        Nat.ofDigitChars_ten_toDigits]
      simp only [Nat.ofDigitChars_cons, Nat.ofDigitChars_nil]
      ring_nf
      rfl
    rw [count, number, ← readText_mul_pow negative digits (zeros + 1) zeros]
    congr 1
    simp

/-- The point between two digits. -/
theorem FloatParts.between (positive : 0 < digits)
    (some : 0 < (Nat.toDigits 10 digits).length + exponent)
    (few : ((Nat.toDigits 10 digits).length + exponent).toNat < (Nat.toDigits 10 digits).length) :
    FloatParts digits exponent
      ((Nat.toDigits 10 digits).take ((Nat.toDigits 10 digits).length + exponent).toNat ++
        '.' :: (Nat.toDigits 10 digits).drop ((Nat.toDigits 10 digits).length + exponent).toNat)
      ((Nat.toDigits 10 digits).take ((Nat.toDigits 10 digits).length + exponent).toNat)
      ((Nat.toDigits 10 digits).drop ((Nat.toDigits 10 digits).length + exponent).toNat) none where
  nonempty := by
    rw [Ne, List.take_eq_nil_iff, not_or]
    exact ⟨by omega, Nat.toDigits_ne_nil⟩
  wholeDigits := fun _ member => isDigit_of_mem_toDigits (List.mem_of_mem_take member)
  noZero := by
    rw [List.head?_take, if_neg (by omega)]
    exact Or.inr (head_toDigits_ne_zero positive)
  fractionDigits := fun _ member => isDigit_of_mem_toDigits (List.mem_of_mem_drop member)
  powerDigits := by simp
  notInt := by
    simp only [Option.isNone_none, Bool.and_true, List.isEmpty_eq_false_iff, Ne,
      List.drop_eq_nil_iff]
    omega
  spelled := by
    cases fraction : (Nat.toDigits 10 digits).drop
        ((Nat.toDigits 10 digits).length + exponent).toNat with
    | nil => exact absurd (List.drop_eq_nil_iff.mp fraction) (by omega)
    | cons digit rest => simp [fractionText, exponentText]
  value := by
    intro negative
    rw [List.take_append_drop, Nat.ofDigitChars_ten_toDigits]
    congr 1
    simp only [Option.map_none, Option.getD_none, List.length_drop]
    omega

/-- One digit before the point and a power of ten. -/
theorem FloatParts.scaled (positive : 0 < digits) : FloatParts digits exponent
      ((match Nat.toDigits 10 digits with
        | [] => []
        | [digit] => [digit]
        | digit :: rest => digit :: '.' :: rest) ++ exponentText (some
          (decide ((Nat.toDigits 10 digits).length + exponent - 1 < 0),
            List.replicate (2 - (Nat.toDigits 10
              ((Nat.toDigits 10 digits).length + exponent - 1).natAbs).length) '0' ++
              Nat.toDigits 10 ((Nat.toDigits 10 digits).length + exponent - 1).natAbs)))
      ((Nat.toDigits 10 digits).take 1) ((Nat.toDigits 10 digits).drop 1)
      (some (decide ((Nat.toDigits 10 digits).length + exponent - 1 < 0),
        List.replicate (2 - (Nat.toDigits 10
          ((Nat.toDigits 10 digits).length + exponent - 1).natAbs).length) '0' ++
          Nat.toDigits 10 ((Nat.toDigits 10 digits).length + exponent - 1).natAbs)) where
  nonempty := by simp [Nat.toDigits_ne_nil]
  wholeDigits := fun _ member => isDigit_of_mem_toDigits (List.mem_of_mem_take member)
  noZero := by
    rw [List.head?_take, if_neg (by decide)]
    exact Or.inr (head_toDigits_ne_zero positive)
  fractionDigits := fun _ member => isDigit_of_mem_toDigits (List.mem_of_mem_drop member)
  powerDigits := by
    rintro size isPower
    cases isPower
    refine ⟨by simp [Nat.toDigits_ne_nil], ?_⟩
    intro char member
    rcases List.mem_append.mp member with zero | digit
    · exact isDigit_of_mem_zeros zero
    · exact isDigit_of_mem_toDigits digit
  notInt := Bool.and_false _
  spelled := by
    match shown : Nat.toDigits 10 digits with
    | [] => exact absurd shown Nat.toDigits_ne_nil
    | [digit] => simp [fractionText]
    | digit :: other :: rest => simp [fractionText]
  value := by
    intro negative
    rw [List.take_append_drop, Nat.ofDigitChars_ten_toDigits]
    have size : Nat.ofDigitChars 10 (List.replicate (2 - (Nat.toDigits 10
        ((Nat.toDigits 10 digits).length + exponent - 1).natAbs).length) '0' ++
          Nat.toDigits 10 ((Nat.toDigits 10 digits).length + exponent - 1).natAbs) 0 =
        ((Nat.toDigits 10 digits).length + exponent - 1).natAbs := by
      rw [Nat.ofDigitChars_append, Nat.ofDigitChars_replicate_zero, mul_zero,
        Nat.ofDigitChars_ten_toDigits]
    have count := Nat.length_toDigits_pos (b := 10) (n := digits)
    congr 1
    simp only [Option.map_some, Option.getD_some, size, List.length_drop, signed, decide_eq_true_eq]
    split <;> omega

end Layout

theorem layoutFloat_parts {digits : ℕ} {exponent : ℤ} (positive : 0 < digits) :
    ∃ whole fraction power, FloatParts digits exponent
      (layoutFloat (Nat.toDigits 10 digits) ((Nat.toDigits 10 digits).length + exponent))
      whole fraction power := by
  unfold layoutFloat
  split
  · split
    · exact ⟨_, _, _, .behind (by assumption)⟩
    split
    · exact ⟨_, _, _, .before positive (by assumption)⟩
    · exact ⟨_, _, _, .between positive (by omega) (by omega)⟩
  · have scaled := @FloatParts.scaled digits exponent positive
    simp only [exponentText, decide_eq_true_eq] at scaled
    exact ⟨_, _, _, scaled⟩

/-- A number's first character is a digit, perhaps after a sign. -/
def NumberText (text : List Char) : Prop := ∃ negative digit tail, Char.isDigit digit = true ∧
    text = (if negative = true then ['-'] else []) ++ digit :: tail

theorem scanNumber_signed {digit : Char} (isDigit : digit.isDigit = true) (negative : Bool)
    (rest : List Char) :
    scanNumber ((if negative then ['-'] else []) ++ digit :: rest) =
      scanUnsigned negative (digit :: rest) := by
  cases negative with
  | true => rfl
  | false =>
    rw [if_neg Bool.false_ne_true, List.nil_append]
    unfold scanNumber
    split
    · rename_i isMinus
      cases isMinus
      cases isDigit
    · rfl

theorem scanNumber_renderInt {value : ℤ} {rest : List Char}
    (short : (Nat.toDigits 10 value.natAbs).length ≤ intMaxStrDigits) (ends : Ends rest) :
    scanNumber (renderInt value ++ rest) = .ok (.int value, rest) := by
  have parts := @scanUnsigned_text _ [] rest none (decide (value < 0)) Nat.toDigits_ne_nil
    (fun _ => isDigit_of_mem_toDigits) (toDigits_zero_or_head value.natAbs) (by simp) (by simp)
    ends
  simp only [List.isEmpty_nil, Option.isNone_none, Bool.and_self, if_true, if_pos short,
    Nat.ofDigitChars_ten_toDigits, fractionText, exponentText, List.nil_append] at parts
  have magnitude : signed (decide (value < 0)) value.natAbs = value := by
    simp only [signed, decide_eq_true_eq]
    split <;> omega
  rw [magnitude] at parts
  have text : renderInt value =
      (if decide (value < 0) then ['-'] else []) ++ Nat.toDigits 10 value.natAbs := by
    simp only [renderInt, decide_eq_true_eq]
  cases digits : Nat.toDigits 10 value.natAbs with
  | nil => exact absurd digits Nat.toDigits_ne_nil
  | cons digit digits' =>
    have isDigit : digit.isDigit = true := isDigit_of_mem_toDigits (digits ▸ List.mem_cons_self)
    rw [text, digits, List.append_assoc, List.cons_append, scanNumber_signed isDigit]
    rw [digits] at parts
    exact parts

theorem reprFinite_parts (negative : Bool) (digits : ℕ) (exponent : ℤ) :
    ∃ text whole fraction power,
      reprFinite negative digits exponent = (if negative then ['-'] else []) ++ text ∧
        FloatParts digits exponent text whole fraction power := by
  rcases Nat.eq_zero_or_pos digits with rfl | positive
  · refine ⟨_, ['0'], ['0'], none, rfl, ?_⟩
    constructor <;> simp [fractionText, exponentText, layoutFloat, Nat.ofDigitChars_cons, readText]
  · rcases @layoutFloat_parts digits exponent positive with ⟨whole, fraction, power, parts⟩
    refine ⟨_, whole, fraction, power, rfl, ?_⟩
    rw [if_neg positive.ne']
    exact parts

theorem FloatParts.starts {digits : ℕ} {exponent : ℤ} {text whole : List Char}
    (parts : FloatParts digits exponent text whole fraction power) :
    ∃ digit tail, digit.isDigit = true ∧ text = digit :: tail := by
  have spelled := parts.spelled
  cases shown : whole with
  | nil => exact absurd shown parts.nonempty
  | cons digit tail =>
    rw [shown] at spelled
    exact ⟨digit, _, parts.wholeDigits digit (shown ▸ List.mem_cons_self), spelled⟩

theorem scanNumber_reprFinite (negative : Bool) (digits : ℕ) (exponent : ℤ) (ends : Ends rest) :
    scanNumber (reprFinite negative digits exponent ++ rest) =
      .ok (.float (.read negative digits exponent), rest) := by
  rcases reprFinite_parts negative digits exponent with ⟨text, _, _, _, shown, parts⟩
  have read := parts.scan ends negative
  rcases parts.starts with ⟨digit, tail, isDigit, rfl⟩
  rw [shown, List.append_assoc, List.cons_append, scanNumber_signed isDigit]
  exact read

/-! ## Values -/

namespace Json

mutual

/-- Everything in the value is written and can be read. -/
def Fits (allowNan : Bool) : ℕ → Json → Prop
  | _, int value => (Nat.toDigits 10 value.natAbs).length ≤ intMaxStrDigits
  | _, float value => value.allowed allowNan = true
  | limit, list items => 0 < limit ∧ FitsItems allowNan (limit - 1) items
  | limit, object members => 0 < limit ∧ FitsMembers allowNan (limit - 1) members
  | _, _ => True

def FitsItems (allowNan : Bool) : ℕ → List Json → Prop
  | _, [] => True
  | limit, item :: items => Fits allowNan limit item ∧ FitsItems allowNan limit items

def FitsMembers (allowNan : Bool) : ℕ → List (PyStr × Json) → Prop
  | _, [] => True
  | limit, (_, value) :: members =>
    Fits allowNan limit value ∧ FitsMembers allowNan limit members

end

end Json

theorem skipSpace_cons {char : Char} (visible : char ∉ [' ', '\t', '\n', '\r'])
    (rest : List Char) : skipSpace (char :: rest) = char :: rest := by
  rw [skipSpace, List.dropWhile_cons_of_neg (by simpa using visible)]

theorem scanValue_bare {char : Char} (bare : char ∉ ['"', '[', '\x7b']) (fuel limit : ℕ)
    (rest : List Char) :
    scanValue (fuel + 1) limit (char :: rest) = match scanLiteral (char :: rest) with
      | some found => .ok found
      | none => scanNumber (char :: rest) := by
  rw [scanValue.eq_def]
  split
  · simp_all
  · simp_all
  · simp_all
  · simp_all
  · rfl

theorem isPrefixOf_number {negative : Bool} {digit : Char} (isDigit : digit.isDigit = true)
    (tail : List Char) : ∀ literal ∈ literals,
      literal.1.isPrefixOf ((if negative = true then ['-'] else []) ++ digit :: tail) = false := by
  have other : ∀ letter : Char, letter.isDigit = false → (letter == digit) = false := by
    intro letter noDigit
    refine beq_eq_false_iff_ne.mpr fun same => ?_
    rw [same, isDigit] at noDigit
    cases noDigit
  intro literal member
  simp only [literals, List.mem_cons, List.not_mem_nil, or_false] at member
  rcases member with rfl | rfl | rfl | rfl | rfl | rfl <;> cases negative <;>
    simp [List.isPrefixOf, other]

theorem NumberText.scanValue {text : List Char} (number : NumberText text) (fuel limit : ℕ)
    (rest : List Char) : scanValue (fuel + 1) limit (text ++ rest) = scanNumber (text ++ rest) := by
  rcases number with ⟨negative, digit, tail, isDigit, rfl⟩
  have noLiteral : scanLiteral ((if negative = true then ['-'] else []) ++ digit :: tail ++ rest) =
      none := by
    rw [scanLiteral, List.findSome?_eq_none_iff]
    intro literal member
    rw [List.append_assoc, List.cons_append, isPrefixOf_number isDigit _ literal member]
    rfl
  have bare : digit ∉ ['"', '[', '\x7b'] := by
    intro member
    simp only [List.mem_cons, List.not_mem_nil, or_false] at member
    rcases member with rfl | rfl | rfl <;> cases isDigit
  cases negative with
  | true =>
    have read := @scanValue_bare '-' (by decide) fuel limit (digit :: tail ++ rest)
    rw [show scanLiteral ('-' :: (digit :: tail ++ rest)) = none from noLiteral] at read
    exact read
  | false =>
    have read := scanValue_bare bare fuel limit (tail ++ rest)
    rw [show scanLiteral (digit :: (tail ++ rest)) = none from noLiteral] at read
    exact read

/-- The first character of a value: neither a blank nor the end of an array or object. -/
def StartsValue (char : Char) : Prop :=
  char.isDigit = true ∨ char ∈ ['"', '[', '\x7b', '-', 'n', 't', 'f', 'N', 'I']

theorem StartsValue.visible {char : Char} (starts : StartsValue char) :
    char ∉ [' ', '\t', '\n', '\r', ']', '}'] := by
  intro member
  simp only [List.mem_cons, List.not_mem_nil, or_false] at member
  rcases member with rfl | rfl | rfl | rfl | rfl | rfl <;> revert starts <;> unfold StartsValue <;>
    decide

theorem StartsValue.skipSpace {char : Char} (starts : StartsValue char) (rest : List Char) :
    skipSpace (char :: rest) = char :: rest :=
  skipSpace_cons (fun blank => starts.visible (by revert blank; simp; tauto)) rest

/-! ## Blanks -/

def blanks : List Char := [' ', '\t', '\n', '\r']

/-- A value behind blanks begins with no byte order mark. -/
theorem StartsValue.noMark {char : Char} (starts : StartsValue char) {space : List Char}
    (areBlank : space ⊆ blanks) (rest : List Char) :
    (space ++ char :: rest).head? ≠ some (Char.ofNat 0xFEFF) := by
  intro isMark
  cases space with
  | nil =>
    cases isMark
    revert starts
    unfold StartsValue
    decide
  | cons first space =>
    cases isMark
    have isBlank := areBlank List.mem_cons_self
    revert isBlank
    decide

theorem skipSpace_append {space : List Char} (areBlank : space ⊆ blanks) (rest : List Char) :
    skipSpace (space ++ rest) = skipSpace rest := by
  unfold skipSpace
  rw [List.dropWhile_append_of_pos]
  exact fun char isChar => decide_eq_true (areBlank isChar)

theorem ends_append {space : List Char} (areBlank : space ⊆ blanks) (ends : Ends rest) :
    Ends (space ++ rest) := by
  cases space with
  | nil => exact ends
  | cons char space =>
    intro head isHead
    obtain rfl := Option.some.inj isHead
    have isBlank := areBlank List.mem_cons_self
    revert isBlank
    simp only [blanks, List.mem_cons, List.not_mem_nil, or_false]
    tauto

section

variable {fuel limit : ℕ} {chars tail : List Char} {item : Json}

theorem scanItems_next (read : scanValue fuel limit chars = .ok (item, rest))
    (comma : skipSpace rest = ',' :: tail) :
    scanItems (fuel + 1) limit chars =
      (scanItems fuel limit (skipSpace tail)).map fun scanned =>
        (item :: scanned.1, scanned.2) := by
  rw [scanItems, read]
  simp only [bind, Except.bind, comma]
  cases scanItems fuel limit (skipSpace tail) <;> rfl

theorem scanValue_items {char : Char} (skipped : skipSpace chars = char :: rest)
    (starts : StartsValue char) :
    scanValue (fuel + 1) (limit + 1) ('[' :: chars) =
      (scanItems fuel limit (char :: rest)).map fun scanned => (.list scanned.1, scanned.2) := by
  rw [scanValue, skipped]
  split
  · rename_i same
    cases same
    exact absurd starts.visible (by decide)
  · cases scanItems fuel limit (char :: rest) <;> rfl

theorem scanValue_members (skipped : skipSpace chars = '"' :: rest) :
    scanValue (fuel + 1) (limit + 1) ('\x7b' :: chars) =
      (scanMembers fuel limit ('"' :: rest)).map fun scanned => (.object scanned.1, scanned.2) := by
  rw [scanValue, skipped]
  split
  · rename_i same
    cases same
  · cases scanMembers fuel limit ('"' :: rest) <;> rfl

end

end Reperio.Python
