import Mathlib.Data.List.TakeDrop
import Reperio.Python.Datetime

/-!
# Timestamps as text

`strftime` and `strptime` for the one format of the catalog,
`%Y-%m-%dT%H:%M:%SZ`. Writing is canonical, twenty characters long; reading
accepts more, since the regular expression behind `strptime` takes fields
without padding, a day padded by a space, the letters in either case and, where
it says `\d`, the decimal digits of every script.

`strftime_lt_iff` and `strptime_strftime` are what the catalog relies on when
it stores timestamps as text and compares them in SQL.
-/

namespace Reperio.Python

/-! ## Writing -/

def pad2 (value : ℕ) : List Char := [Nat.digitChar (value / 10), Nat.digitChar (value % 10)]

def pad4 (value : ℕ) : List Char := [Nat.digitChar (value / 1000), Nat.digitChar (value / 100 % 10),
    Nat.digitChar (value / 10 % 10), Nat.digitChar (value % 10)]

def strftimeChars (instant : DateTime) : List Char :=
  pad4 instant.year ++ ('-' :: (pad2 instant.month ++ ('-' :: (pad2 instant.day ++
    ('T' :: (pad2 instant.hour ++ (':' :: (pad2 instant.minute ++
      (':' :: (pad2 instant.second ++ ['Z']))))))))))

/-- `instant.strftime("%Y-%m-%dT%H:%M:%SZ")`. -/
def strftime (instant : DateTime) : String := String.ofList (strftimeChars instant)

/-- The texts that `strftime` writes: canonical timestamps. -/
def IsCanonical (text : String) : Prop := ∃ instant, strftime instant = text

/-! ## Reading -/

/-- The zeros of the decimal digits (general category `Nd`) of Unicode 15. -/
def decimalZeros : List ℕ :=
  [48, 1632, 1776, 1984, 2406, 2534, 2662, 2790, 2918, 3046, 3174, 3302, 3430, 3558, 3664, 3792,
    3872, 4160, 4240, 6112, 6160, 6470, 6608, 6784, 6800, 6992, 7088, 7232, 7248, 42528, 43216,
    43264, 43472, 43504, 43600, 44016, 65296, 66720, 68912, 69734, 69872, 69942, 70096, 70384,
    70736, 70864, 71248, 71360, 71472, 71904, 72016, 72784, 73040, 73120, 73552, 92768, 92864,
    93008, 120782, 120792, 120802, 120812, 120822, 123200, 123632, 124144, 125264, 130032]

/-- `\d`. -/
def decimal? (char : Char) : Option ℕ :=
  (decimalZeros.find? fun start => decide (start ≤ char.toNat ∧ char.toNat < start + 10)).map
    fun start => char.toNat - start

/-- `[low-high]`, ASCII digits only. -/
def between? (low high : ℕ) (char : Char) : Option ℕ :=
  if 48 + low ≤ char.toNat ∧ char.toNat ≤ 48 + high then some (char.toNat - 48) else none

def oneDigit (digit : Char → Option ℕ) : List Char → Option ℕ
  | [char] => digit char
  | _ => none

def twoDigits (tens ones : Char → Option ℕ) : List Char → Option ℕ
  | [first, second] => do return 10 * (← tens first) + (← ones second)
  | _ => none

/-- `\d\d\d\d`. -/
def yearField : List Char → Option ℕ
  | [first, second, third, fourth] => do
      return 1000 * (← decimal? first) + 100 * (← decimal? second) + 10 * (← decimal? third) +
        (← decimal? fourth)
  | _ => none

/-- `1[0-2]|0[1-9]|[1-9]`. -/
def monthField (text : List Char) : Option ℕ :=
  twoDigits (between? 1 1) (between? 0 2) text <|> twoDigits (between? 0 0) (between? 1 9) text <|>
    oneDigit (between? 1 9) text

/-- `3[0-1]|[1-2]\d|0[1-9]|[1-9]| [1-9]`. -/
def dayField (text : List Char) : Option ℕ :=
  twoDigits (between? 3 3) (between? 0 1) text <|> twoDigits (between? 1 2) decimal? text <|>
    twoDigits (between? 0 0) (between? 1 9) text <|> oneDigit (between? 1 9) text <|>
    match text with
    | [' ', char] => between? 1 9 char
    | _ => none

/-- `2[0-3]|[0-1]\d|\d`. -/
def hourField (text : List Char) : Option ℕ :=
  twoDigits (between? 2 2) (between? 0 3) text <|> twoDigits (between? 0 1) decimal? text <|>
    oneDigit decimal? text

/-- `[0-5]\d|\d`. -/
def minuteField (text : List Char) : Option ℕ :=
  twoDigits (between? 0 5) decimal? text <|> oneDigit decimal? text

/-- `6[0-1]|[0-5]\d|\d`. -/
def secondField (text : List Char) : Option ℕ :=
  twoDigits (between? 6 6) (between? 0 1) text <|> minuteField text

/-- A field and the delimiter after it. No field matches a delimiter, so the field is all the text
before the first one, and the regular expression has no other way to match. -/
def takeField (field : List Char → Option ℕ) (delimiter : Char → Bool) (input : List Char) :
    Option (ℕ × List Char) :=
  match input.span fun char => !delimiter char with
  | (text, _ :: rest) => (field text).map fun value => (value, rest)
  | (_, []) => none

/-- `datetime.strptime(text, "%Y-%m-%dT%H:%M:%SZ")`; the expression is compiled ignoring case. -/
def strptime (text : String) : Except PyError DateTime :=
  let fields : Option (Except PyError DateTime) := do
    let (year, input) ← takeField yearField (· == '-') text.toList
    let (month, input) ← takeField monthField (· == '-') input
    let (day, input) ← takeField dayField (fun char => char == 'T' || char == 't') input
    let (hour, input) ← takeField hourField (· == ':') input
    let (minute, input) ← takeField minuteField (· == ':') input
    let (second, input) ← takeField secondField (fun char => char == 'Z' || char == 'z') input
    if input = [] then some (DateTime.of year month day hour minute second) else none
  fields.getD (.error .valueError)

/-! ## Reading what was written -/

variable {rest other : List Char}

theorem takeField_append {field : List Char → Option ℕ} {delimiter : Char → Bool} {text : List Char}
    {mark : Char} {value : ℕ} (clean : ∀ char ∈ text, delimiter char = false)
    (isMark : delimiter mark = true) (reads : field text = some value) :
    takeField field delimiter (text ++ mark :: rest) = some (value, rest) := by
  have split : (text ++ mark :: rest).span (fun char => !delimiter char) =
      (text, mark :: rest) := by
    rw [List.span_eq_takeWhile_dropWhile]
    have cleanBang : ∀ char ∈ text, (!delimiter char) = true := by
      intro char member
      simp [clean char member]
    rw [List.takeWhile_append_of_pos cleanBang, List.dropWhile_append_of_pos cleanBang]
    simp [isMark]
  simp only [takeField, split, reads, Option.map_some]

theorem digitChar_ne (digit : ℕ) (small : digit < 10) :
    Nat.digitChar digit ≠ '-' ∧ Nat.digitChar digit ≠ ':' ∧ Nat.digitChar digit ≠ 'T' ∧
      Nat.digitChar digit ≠ 't' ∧ Nat.digitChar digit ≠ 'Z' ∧ Nat.digitChar digit ≠ 'z' := by
  revert digit
  decide

theorem mem_pad2 {value : ℕ} (small : value < 100) {char : Char} (member : char ∈ pad2 value) :
    ∃ digit < 10, Nat.digitChar digit = char := by
  simp only [pad2, List.mem_cons, List.not_mem_nil, or_false] at member
  rcases member with rfl | rfl
  · exact ⟨value / 10, by omega, rfl⟩
  · exact ⟨value % 10, by omega, rfl⟩

theorem mem_pad4 {value : ℕ} (small : value < 10000) {char : Char} (member : char ∈ pad4 value) :
    ∃ digit < 10, Nat.digitChar digit = char := by
  simp only [pad4, List.mem_cons, List.not_mem_nil, or_false] at member
  rcases member with rfl | rfl | rfl | rfl
  · exact ⟨value / 1000, by omega, rfl⟩
  · exact ⟨value / 100 % 10, by omega, rfl⟩
  · exact ⟨value / 10 % 10, by omega, rfl⟩
  · exact ⟨value % 10, by omega, rfl⟩

theorem decimal?_digitChar (digit : ℕ) (small : digit < 10) :
    decimal? (Nat.digitChar digit) = some digit := by
  revert digit
  decide

theorem yearField_pad4 {year : ℕ} (small : year < 10000) : yearField (pad4 year) = some year := by
  simp only [yearField, pad4, decimal?_digitChar (year / 1000) (by omega),
    decimal?_digitChar (year / 100 % 10) (by omega), decimal?_digitChar (year / 10 % 10) (by omega),
    decimal?_digitChar (year % 10) (by omega), Option.pure_def, Option.bind_eq_bind,
    Option.bind_some, Option.some.injEq]
  omega

theorem monthField_pad2 (month : ℕ) (low : 1 ≤ month) (high : month < 13) :
    monthField (pad2 month) = some month := by
  revert month
  decide

theorem dayField_pad2 (day : ℕ) (low : 1 ≤ day) (high : day < 32) :
    dayField (pad2 day) = some day := by
  revert day
  decide

theorem hourField_pad2 (hour : ℕ) (high : hour < 24) : hourField (pad2 hour) = some hour := by
  revert hour
  decide

theorem minuteField_pad2 (minute : ℕ) (high : minute < 60) :
    minuteField (pad2 minute) = some minute := by
  revert minute
  decide

theorem secondField_pad2 (second : ℕ) (high : second < 60) :
    secondField (pad2 second) = some second := by
  revert second
  decide

theorem pad2_clean {value : ℕ} (small : value < 100) {char : Char} (member : char ∈ pad2 value) :
    char ≠ '-' ∧ char ≠ ':' ∧ char ≠ 'T' ∧ char ≠ 't' ∧ char ≠ 'Z' ∧ char ≠ 'z' := by
  rcases mem_pad2 small member with ⟨digit, isDigit, rfl⟩
  exact digitChar_ne digit isDigit

theorem strptime_strftime (instant : DateTime) : strptime (strftime instant) = .ok instant := by
  have dash : ∀ value, value < 100 → ∀ char ∈ pad2 value, (char == '-') = false := by
    intro value small char member
    simpa using (pad2_clean small member).1
  have colon : ∀ value, value < 100 → ∀ char ∈ pad2 value, (char == ':') = false := by
    intro value small char member
    simpa using (pad2_clean small member).2.1
  have letterT : ∀ value, value < 100 → ∀ char ∈ pad2 value,
      (char == 'T' || char == 't') = false := by
    intro value small char member
    have clean := pad2_clean small member
    simp [clean.2.2.1, clean.2.2.2.1]
  have letterZ : ∀ value, value < 100 → ∀ char ∈ pad2 value,
      (char == 'Z' || char == 'z') = false := by
    intro value small char member
    have clean := pad2_clean small member
    simp [clean.2.2.2.2]
  have yearDash : ∀ char ∈ pad4 instant.year, (char == '-') = false := by
    intro char member
    have high := instant.year_high
    rcases mem_pad4 (by omega) member with ⟨digit, isDigit, rfl⟩
    simp [(digitChar_ne digit isDigit).1]
  have year := yearField_pad4 (show instant.year < 10000 by have := instant.year_high; omega)
  have month := monthField_pad2 instant.month instant.month_low
    (by have := instant.month_high; omega)
  have day := dayField_pad2 instant.day instant.day_low instant.day_lt
  have hour := hourField_pad2 instant.hour instant.hour_high
  have minute := minuteField_pad2 instant.minute instant.minute_high
  have second := secondField_pad2 instant.second instant.second_high
  have monthSmall : instant.month < 100 := by have := instant.month_high; omega
  have daySmall : instant.day < 100 := by have := instant.day_lt; omega
  have hourSmall : instant.hour < 100 := by have := instant.hour_high; omega
  have minuteSmall : instant.minute < 100 := by have := instant.minute_high; omega
  have secondSmall : instant.second < 100 := by have := instant.second_high; omega
  simp only [strptime, strftime, strftimeChars, String.toList_ofList, Option.bind_eq_bind]
  rw [takeField_append yearDash rfl year, Option.bind_some,
    takeField_append (dash _ monthSmall) rfl month, Option.bind_some,
    takeField_append (letterT _ daySmall) rfl day, Option.bind_some,
    takeField_append (colon _ hourSmall) rfl hour, Option.bind_some,
    takeField_append (colon _ minuteSmall) rfl minute, Option.bind_some,
    takeField_append (letterZ _ secondSmall) rfl second, Option.bind_some, if_pos rfl,
    Option.getD_some, DateTime.of_fields]

/-! ## The order of texts is the order of instants -/

theorem append_lt_append {first second : List Char} (sameLength : first.length = second.length) :
    first ++ rest < second ++ other ↔ first < second ∨ first = second ∧ rest < other := by
  induction first generalizing second with
  | nil =>
    cases second with
    | nil => simp
    | cons head tail => simp at sameLength
  | cons head tail ih =>
    cases second with
    | nil => simp at sameLength
    | cons head' tail' =>
      simp only [List.length_cons, Nat.add_right_cancel_iff] at sameLength
      simp only [List.cons_append, List.cons_lt_cons_iff, ih sameLength, List.cons.injEq]
      tauto

theorem digitChar_lt_iff (first : ℕ) (firstSmall : first < 10) (second : ℕ)
    (secondSmall : second < 10) :
    (Nat.digitChar first < Nat.digitChar second ↔ first < second) ∧
      (Nat.digitChar first = Nat.digitChar second ↔ first = second) := by
  revert first second
  decide

theorem pad2_append_lt {first second : ℕ} (firstSmall : first < 100) (secondSmall : second < 100) :
    pad2 first ++ rest < pad2 second ++ other ↔ first < second ∨ first = second ∧ rest < other := by
  have tens := digitChar_lt_iff (first / 10) (by omega) (second / 10) (by omega)
  have ones := digitChar_lt_iff (first % 10) (by omega) (second % 10) (by omega)
  have sameLength : (pad2 first).length = (pad2 second).length := rfl
  have less : pad2 first < pad2 second ↔ first < second := by
    simp only [pad2, List.cons_lt_cons_iff, tens.1, tens.2, ones.1, List.lt_irrefl, and_false,
      or_false]
    omega
  have same : pad2 first = pad2 second ↔ first = second := by
    simp only [pad2, List.cons.injEq, tens.2, ones.2, and_true]
    omega
  rw [append_lt_append sameLength, less, same]

theorem pad4_append_lt {first second : ℕ} (firstSmall : first < 10000)
    (secondSmall : second < 10000) :
    pad4 first ++ rest < pad4 second ++ other ↔ first < second ∨ first = second ∧ rest < other := by
  have thousands := digitChar_lt_iff (first / 1000) (by omega) (second / 1000) (by omega)
  have hundreds := digitChar_lt_iff (first / 100 % 10) (by omega) (second / 100 % 10) (by omega)
  have tens := digitChar_lt_iff (first / 10 % 10) (by omega) (second / 10 % 10) (by omega)
  have ones := digitChar_lt_iff (first % 10) (by omega) (second % 10) (by omega)
  have sameLength : (pad4 first).length = (pad4 second).length := rfl
  have less : pad4 first < pad4 second ↔ first < second := by
    simp only [pad4, List.cons_lt_cons_iff, thousands.1, thousands.2, hundreds.1, hundreds.2,
      tens.1, tens.2, ones.1, List.lt_irrefl, and_false, or_false]
    omega
  have same : pad4 first = pad4 second ↔ first = second := by
    simp only [pad4, List.cons.injEq, thousands.2, hundreds.2, tens.2, ones.2, and_true]
    omega
  rw [append_lt_append sameLength, less, same]

theorem cons_lt_cons_self {char : Char} {first second : List Char} :
    char :: first < char :: second ↔ first < second := by
  simp

/-- On canonical timestamps, the order of text is the order in time. -/
theorem strftime_lt_iff {first second : DateTime} :
    strftime first < strftime second ↔ first.seconds < second.seconds := by
  have year : ∀ instant : DateTime, instant.year < 10000 := by
    intro instant
    have := instant.year_high
    omega
  have month : ∀ instant : DateTime, instant.month < 100 := by
    intro instant
    have := instant.month_high
    omega
  have day : ∀ instant : DateTime, instant.day < 100 := by
    intro instant
    have := instant.day_lt
    omega
  have hour : ∀ instant : DateTime, instant.hour < 100 := by
    intro instant
    have := instant.hour_high
    omega
  have minute : ∀ instant : DateTime, instant.minute < 100 := by
    intro instant
    have := instant.minute_high
    omega
  have sec : ∀ instant : DateTime, instant.second < 100 := by
    intro instant
    have := instant.second_high
    omega
  rw [DateTime.seconds_lt_iff_before, String.lt_iff_toList_lt]
  simp only [strftime, String.toList_ofList, strftimeChars]
  rw [pad4_append_lt (year _) (year _), cons_lt_cons_self, pad2_append_lt (month _) (month _),
    cons_lt_cons_self, pad2_append_lt (day _) (day _), cons_lt_cons_self,
    pad2_append_lt (hour _) (hour _), cons_lt_cons_self, pad2_append_lt (minute _) (minute _),
    cons_lt_cons_self, pad2_append_lt (sec _) (sec _)]
  simp only [List.lt_irrefl, and_false, or_false, DateTime.Before]

/-- Texts go on after any given one. -/
theorem lt_append_zero (text : String) : text < text ++ "0" := by
  have longer : ∀ chars : List Char, chars < chars ++ ['0'] := by
    intro chars
    induction chars with
    | nil => exact List.nil_lt_cons _ _
    | cons char chars ih => exact cons_lt_cons_self.mpr ih
  rw [String.lt_iff_toList_lt, String.toList_append]
  exact longer text.toList

end Reperio.Python
