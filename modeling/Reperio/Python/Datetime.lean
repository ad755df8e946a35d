import Mathlib.Data.String.Basic
import Mathlib.Tactic.IntervalCases
import Mathlib.Tactic.NormNum
import Reperio.Python.Json

/-!
# Timestamps

`datetime.strptime(text, "%Y-%m-%dT%H:%M:%SZ")`, the addition of a
`timedelta` of whole seconds, and `strftime` with the same format. The
proleptic Gregorian calendar is computed the way the standard library
computes it, by ordinals with day 1 at 0001-01-01.

The catalog compares timestamps as text. `strftime_lt_strftime` is the reason
why this works: on the text that `strftime` writes, the order of strings is
the order of instants, across every carry from seconds to years.
-/

namespace Reperio.Python

/-! ## The calendar -/

def isLeap (year : ℕ) : Bool := decide (year % 4 = 0 ∧ (year % 100 ≠ 0 ∨ year % 400 = 0))

/-- Days in the years before a given one. -/
def daysBeforeYear (year : ℕ) : ℕ :=
  (year - 1) * 365 + (year - 1) / 4 - (year - 1) / 100 + (year - 1) / 400

def daysInMonth (leap : Bool) (month : ℕ) : ℕ := match month with
  | 1 => 31
  | 2 => if leap then 29 else 28
  | 3 => 31
  | 4 => 30
  | 5 => 31
  | 6 => 30
  | 7 => 31
  | 8 => 31
  | 9 => 30
  | 10 => 31
  | 11 => 30
  | 12 => 31
  | _ => 0

/-- Days in the months of a year before a given one. -/
def daysBeforeMonth (leap : Bool) (month : ℕ) : ℕ :=
  [0, 0, 31, 59, 90, 120, 151, 181, 212, 243, 273, 304, 334].getD month 0 +
    if 2 < month ∧ leap then 1 else 0

def ymd2ord (year month day : ℕ) : ℕ :=
  daysBeforeYear year + daysBeforeMonth (isLeap year) month + day

/-- Month and day of the day with the given number, from zero, of a year. -/
def monthDay (leap : Bool) (number : ℕ) : ℕ × ℕ :=
  -- the guess is right or one month too late
  let guess := (number + 50) / 32
  if number < daysBeforeMonth leap guess then
    (guess - 1, number - daysBeforeMonth leap (guess - 1) + 1)
  else (guess, number - daysBeforeMonth leap guess + 1)

/-- Year, month and day of an ordinal: whole cycles of 400, 100, 4 and 1 years, then the day. -/
def ord2ymd (ordinal : ℕ) : ℕ × ℕ × ℕ := let n400 := (ordinal - 1) / 146097
  let rest400 := (ordinal - 1) % 146097
  let n100 := rest400 / 36524
  let rest100 := rest400 % 36524
  let n4 := rest100 / 1461
  let rest4 := rest100 % 1461
  let n1 := rest4 / 365
  let number := rest4 % 365
  let year := n400 * 400 + 1 + n100 * 100 + n4 * 4 + n1
  if n1 = 4 ∨ n100 = 4 then (year - 1, 12, 31)
  else
    let leap := decide (n1 = 3 ∧ (n4 ≠ 24 ∨ n100 = 3))
    (year, monthDay leap number)

theorem monthDay_spec (leap : Bool) (number : ℕ) (inYear : number < if leap then 366 else 365) :
    1 ≤ (monthDay leap number).1 ∧ (monthDay leap number).1 ≤ 12 ∧ 1 ≤ (monthDay leap number).2 ∧
      (monthDay leap number).2 ≤ daysInMonth leap (monthDay leap number).1 ∧
      daysBeforeMonth leap (monthDay leap number).1 + (monthDay leap number).2 = number + 1 := by
  revert number
  cases leap <;> decide +kernel

theorem daysInMonth_le (leap : Bool) (month : ℕ) : daysInMonth leap month ≤ 31 := by
  unfold daysInMonth
  cases leap <;> split <;> decide

theorem daysBeforeMonth_add_le (leap : Bool) (month : ℕ) (fromOne : 1 ≤ month)
    (toTwelve : month ≤ 12) :
    daysBeforeMonth leap month + daysInMonth leap month ≤ if leap then 366 else 365 := by
  cases leap <;> interval_cases month <;> decide

theorem daysBeforeMonth_succ_le (leap : Bool) {month later : ℕ} (fromOne : 1 ≤ month)
    (before : month < later) (toTwelve : later ≤ 12) :
    daysBeforeMonth leap month + daysInMonth leap month ≤ daysBeforeMonth leap later := by
  have earlier : month ≤ 11 := by omega
  cases leap <;> interval_cases month <;> interval_cases later <;> decide

theorem daysBeforeYear_succ (year : ℕ) (fromOne : 1 ≤ year) :
    daysBeforeYear (year + 1) = daysBeforeYear year + if isLeap year then 366 else 365 := by
  rcases Nat.exists_eq_add_of_le' fromOne with ⟨past, rfl⟩
  have fewer : past / 100 ≤ past / 4 := by omega
  have century : 100 ∣ past + 1 → 4 ∣ past + 1 := by omega
  have cycle : 400 ∣ past + 1 → 100 ∣ past + 1 := by omega
  simp only [daysBeforeYear, isLeap, decide_eq_true_eq, Nat.add_sub_cancel, Nat.succ_div,
    ← Nat.dvd_iff_mod_eq_zero, ne_eq]
  by_cases by4 : 4 ∣ past + 1
  · by_cases by100 : 100 ∣ past + 1
    · by_cases by400 : 400 ∣ past + 1
      · simp only [by4, by100, by400, if_true, not_true_eq_false, or_true, and_self]
        omega
      · simp only [by4, by100, by400, if_true, if_false, not_true_eq_false, or_self, and_false]
        omega
    · have by400 : ¬400 ∣ past + 1 := fun divides => by100 (cycle divides)
      simp only [by4, by100, by400, if_true, if_false, not_false_eq_true, true_or, and_self]
      omega
  · have by100 : ¬100 ∣ past + 1 := fun divides => by4 (century divides)
    have by400 : ¬400 ∣ past + 1 := fun divides => by100 (cycle divides)
    simp only [by4, by100, by400, if_false, false_and]
    omega

theorem daysBeforeYear_le {year later : ℕ} (fromOne : 1 ≤ year) (before : year ≤ later) :
    daysBeforeYear year ≤ daysBeforeYear later := by
  induction later, before using Nat.le_induction with
  | base => exact le_refl _
  | succ later before ih =>
    rw [daysBeforeYear_succ later (by omega)]
    omega

/-- The cycle of 400 years, written out for a year inside it. -/
theorem daysBeforeYear_cycles (n400 : ℕ) {n100 n4 n1 : ℕ} (h100 : n100 ≤ 3) (h4 : n4 ≤ 24)
    (h1 : n1 ≤ 3) :
    daysBeforeYear (n400 * 400 + 1 + n100 * 100 + n4 * 4 + n1) =
      n400 * 146097 + n100 * 36524 + n4 * 1461 + n1 * 365 := by
  simp only [daysBeforeYear]
  omega

theorem isLeap_cycles (n400 : ℕ) {n100 n4 n1 : ℕ} (h100 : n100 ≤ 3) (h4 : n4 ≤ 24)
    (h1 : n1 ≤ 3) :
    isLeap (n400 * 400 + 1 + n100 * 100 + n4 * 4 + n1) =
      decide (n1 = 3 ∧ (n4 ≠ 24 ∨ n100 = 3)) := by
  simp only [isLeap, decide_eq_decide]
  omega

/-- `date.fromordinal` inverts `date.toordinal` and gives a day of the calendar. -/
theorem ord2ymd_spec (ordinal : ℕ) (fromOne : 1 ≤ ordinal) :
    1 ≤ (ord2ymd ordinal).1 ∧ 1 ≤ (ord2ymd ordinal).2.1 ∧ (ord2ymd ordinal).2.1 ≤ 12 ∧
      1 ≤ (ord2ymd ordinal).2.2 ∧
      (ord2ymd ordinal).2.2 ≤ daysInMonth (isLeap (ord2ymd ordinal).1) (ord2ymd ordinal).2.1 ∧
      ymd2ord (ord2ymd ordinal).1 (ord2ymd ordinal).2.1 (ord2ymd ordinal).2.2 = ordinal := by
  obtain ⟨n400, rest400, h400, split400⟩ : ∃ n400 rest400, rest400 < 146097 ∧
      ordinal = n400 * 146097 + rest400 + 1 :=
    ⟨(ordinal - 1) / 146097, (ordinal - 1) % 146097, by omega, by omega⟩
  obtain ⟨n100, rest100, h100, split100⟩ : ∃ n100 rest100, rest100 < 36524 ∧
      rest400 = n100 * 36524 + rest100 :=
    ⟨rest400 / 36524, rest400 % 36524, by omega, by omega⟩
  obtain ⟨n4, rest4, h4, split4⟩ : ∃ n4 rest4, rest4 < 1461 ∧ rest100 = n4 * 1461 + rest4 :=
    ⟨rest100 / 1461, rest100 % 1461, by omega, by omega⟩
  obtain ⟨n1, number, h1, split1⟩ : ∃ n1 number, number < 365 ∧ rest4 = n1 * 365 + number :=
    ⟨rest4 / 365, rest4 % 365, by omega, by omega⟩
  have eq400 : (ordinal - 1) / 146097 = n400 := by omega
  have eqRest400 : (ordinal - 1) % 146097 = rest400 := by omega
  have eq100 : rest400 / 36524 = n100 := by omega
  have eqRest100 : rest400 % 36524 = rest100 := by omega
  have eq4 : rest100 / 1461 = n4 := by omega
  have eqRest4 : rest100 % 1461 = rest4 := by omega
  have eq1 : rest4 / 365 = n1 := by omega
  have eqNumber : rest4 % 365 = number := by omega
  have bound4 : n4 ≤ 24 := by omega
  simp only [ord2ymd, eq400, eqRest400, eq100, eqRest100, eq4, eqRest4, eq1, eqNumber]
  by_cases lastDay : n1 = 4 ∨ n100 = 4
  · -- the last day of a leap year or of a cycle, one year too late in the division
    rw [if_pos lastDay]
    have leap : isLeap (n400 * 400 + 1 + n100 * 100 + n4 * 4 + n1 - 1) = true := by
      simp only [isLeap, decide_eq_true_eq]
      omega
    refine ⟨by dsimp only; omega, by simp, by simp, by simp, by simp [daysInMonth], ?_⟩
    simp only [ymd2ord, leap]
    have months : daysBeforeMonth true 12 = 335 := by decide
    rw [months]
    rcases lastDay with four | hundred
    · have below : n100 ≤ 3 := by omega
      have days := daysBeforeYear_cycles n400 below bound4 (le_refl 3)
      have year : n400 * 400 + 1 + n100 * 100 + n4 * 4 + n1 - 1 =
          n400 * 400 + 1 + n100 * 100 + n4 * 4 + 3 := by omega
      rw [year, days]
      omega
    · have days := daysBeforeYear_cycles n400 (le_refl 3) (le_refl 24) (le_refl 3)
      have year : n400 * 400 + 1 + n100 * 100 + n4 * 4 + n1 - 1 =
          n400 * 400 + 1 + 3 * 100 + 24 * 4 + 3 := by omega
      rw [year, days]
      omega
  · rw [if_neg lastDay]
    have below100 : n100 ≤ 3 := by omega
    have below1 : n1 ≤ 3 := by omega
    have leap := isLeap_cycles n400 below100 bound4 below1
    have days := daysBeforeYear_cycles n400 below100 bound4 below1
    have inYear : number < if (decide (n1 = 3 ∧ (n4 ≠ 24 ∨ n100 = 3))) =
      true then 366 else 365 := by
      split <;> omega
    rcases monthDay_spec _ number inYear with ⟨monthLow, monthHigh, dayLow, dayHigh, total⟩
    simp only [leap]
    refine ⟨by omega, monthLow, monthHigh, dayLow, dayHigh, ?_⟩
    simp only [ymd2ord, leap, days]
    omega

/-! ## Instants -/

/-- A naive `datetime` without microseconds; the fields are those of a day of the calendar. -/
@[ext]
structure DateTime where
  year : ℕ
  month : ℕ
  day : ℕ
  hour : ℕ
  minute : ℕ
  second : ℕ
  year_low : 1 ≤ year
  year_high : year ≤ 9999
  month_low : 1 ≤ month
  month_high : month ≤ 12
  day_low : 1 ≤ day
  day_high : day ≤ daysInMonth (isLeap year) month
  hour_high : hour < 24
  minute_high : minute < 60
  second_high : second < 60

variable {first second : DateTime}

namespace DateTime

/-- The constructor `datetime(year, month, day, hour, minute, second)`. -/
def of (year month day hour minute second : ℕ) : Except PyError DateTime :=
  if valid : (1 ≤ year ∧ year ≤ 9999) ∧ (1 ≤ month ∧ month ≤ 12) ∧
      (1 ≤ day ∧ day ≤ daysInMonth (isLeap year) month) ∧
      hour < 24 ∧ minute < 60 ∧ second < 60 then
    .ok
      { year, month, day, hour, minute, second
        year_low := valid.1.1
        year_high := valid.1.2
        month_low := valid.2.1.1
        month_high := valid.2.1.2
        day_low := valid.2.2.1.1
        day_high := valid.2.2.1.2
        hour_high := valid.2.2.2.1
        minute_high := valid.2.2.2.2.1
        second_high := valid.2.2.2.2.2 }
  else .error .valueError

/-- `datetime.min`. -/
def min : DateTime :=
  ⟨1, 1, 1, 0, 0, 0, by decide, by decide, by decide, by decide, by decide, by decide, by decide,
    by decide, by decide⟩

def toOrdinal (instant : DateTime) : ℕ := ymd2ord instant.year instant.month instant.day

/-- Seconds on the time line whose day 1 is 0001-01-01. -/
def seconds (instant : DateTime) : ℕ :=
  instant.toOrdinal * 86400 + instant.hour * 3600 + instant.minute * 60 + instant.second

/-- `date.max.toordinal()`. -/
def maxOrdinal : ℕ := 3652059

/-- `instant + timedelta(seconds=amount)`. -/
def add (instant : DateTime) (amount : ℤ) : Except PyError DateTime :=
  let total : ℤ := instant.seconds + amount
  let days := total / 86400
  let rest := (total % 86400).toNat
  if 0 < days ∧ days ≤ maxOrdinal then
    let (year, month, day) := ord2ymd days.toNat
    of year month day (rest / 3600) (rest % 3600 / 60) (rest % 60)
  else .error .overflowError

theorem of_fields (instant : DateTime) :
    of instant.year instant.month instant.day instant.hour instant.minute instant.second =
      .ok instant := by
  unfold of
  rw [dif_pos ⟨⟨instant.year_low, instant.year_high⟩, ⟨instant.month_low, instant.month_high⟩,
    ⟨instant.day_low, instant.day_high⟩, instant.hour_high, instant.minute_high,
    instant.second_high⟩]

/-- The order of the fields, the year first. -/
def Before (first second : DateTime) : Prop := first.year < second.year ∨ first.year = second.year ∧
    (first.month < second.month ∨ first.month = second.month ∧
      (first.day < second.day ∨ first.day = second.day ∧
        (first.hour < second.hour ∨ first.hour = second.hour ∧
          (first.minute < second.minute ∨ first.minute = second.minute ∧
            first.second < second.second))))

theorem before_trichotomy (first second : DateTime) :
    first.Before second ∨ first = second ∨ second.Before first := by
  have same : first.year = second.year → first.month = second.month → first.day = second.day →
      first.hour = second.hour → first.minute = second.minute → first.second = second.second →
      first = second := by
    intro year month day hour minute sec
    exact DateTime.ext year month day hour minute sec
  unfold Before
  by_contra none
  simp only [not_or] at none
  apply none.2.1
  apply same <;> omega

theorem day_lt (instant : DateTime) : instant.day < 32 := by
  have high := instant.day_high
  have month := daysInMonth_le (isLeap instant.year) instant.month
  omega

theorem toOrdinal_le_of_year (instant : DateTime) :
    instant.toOrdinal ≤ daysBeforeYear (instant.year + 1) := by
  have inYear := daysBeforeMonth_add_le (isLeap instant.year) instant.month instant.month_low
    instant.month_high
  have day := instant.day_high
  rw [daysBeforeYear_succ instant.year instant.year_low]
  simp only [toOrdinal, ymd2ord]
  omega

theorem daysBeforeYear_lt_toOrdinal (instant : DateTime) :
    daysBeforeYear instant.year < instant.toOrdinal := by
  have day := instant.day_low
  simp only [toOrdinal, ymd2ord]
  omega

theorem toOrdinal_lt_of_date
    (before : first.year < second.year ∨ first.year = second.year ∧
      (first.month < second.month ∨ first.month = second.month ∧ first.day < second.day)) :
    first.toOrdinal < second.toOrdinal := by
  rcases before with year | ⟨year, month | ⟨month, day⟩⟩
  · have upper := toOrdinal_le_of_year first
    have lower := daysBeforeYear_lt_toOrdinal second
    have years := @daysBeforeYear_le (first.year + 1) second.year (by omega) (by omega)
    omega
  · have months := daysBeforeMonth_succ_le (isLeap first.year) first.month_low month
      second.month_high
    have day := first.day_high
    have later := second.day_low
    simp only [toOrdinal, ymd2ord, ← year]
    omega
  · simp only [toOrdinal, ymd2ord, year, month]
    omega

theorem seconds_lt_of_before (before : first.Before second) : first.seconds < second.seconds := by
  have hour := first.hour_high
  have minute := first.minute_high
  have sec := first.second_high
  unfold Before at before
  by_cases date : first.year < second.year ∨ first.year = second.year ∧
      (first.month < second.month ∨ first.month = second.month ∧ first.day < second.day)
  · have days := toOrdinal_lt_of_date date
    simp only [seconds]
    omega
  · have year : first.year = second.year := by omega
    have month : first.month = second.month := by omega
    have day : first.day = second.day := by omega
    simp only [seconds, toOrdinal, year, month, day]
    omega

theorem seconds_lt_iff_before : first.seconds < second.seconds ↔ first.Before second := by
  constructor
  · intro earlier
    rcases before_trichotomy first second with before | same | after
    · exact before
    · rw [same] at earlier
      omega
    · have later := seconds_lt_of_before after
      omega
  · exact seconds_lt_of_before

/-- The last second of the year 9999. -/
def maxSeconds : ℕ := 315537983999

/-- Within the supported years, adding seconds moves along the time line. -/
theorem exists_add_eq_ok (instant : DateTime) (amount : ℤ) (nonneg : 0 ≤ amount)
    (inRange : instant.seconds + amount ≤ maxSeconds) :
    ∃ later, instant.add amount = .ok later ∧ (later.seconds : ℤ) = instant.seconds + amount := by
  rcases Int.eq_ofNat_of_zero_le nonneg with ⟨steps, rfl⟩
  have low : 86400 ≤ instant.seconds := by
    have day := daysBeforeYear_lt_toOrdinal instant
    simp only [seconds]
    omega
  have high : instant.seconds + steps ≤ 315537983999 := by
    simp only [maxSeconds] at inRange
    omega
  generalize ordinalEq : (instant.seconds + steps) / 86400 = ordinal
  generalize restEq : (instant.seconds + steps) % 86400 = rest
  have days : ((instant.seconds : ℤ) + (steps : ℤ)) / 86400 = (ordinal : ℤ) := by omega
  have remainder : (((instant.seconds : ℤ) + (steps : ℤ)) % 86400).toNat = rest := by omega
  have fromOne : 1 ≤ ordinal := by omega
  have toMax : ordinal ≤ 3652059 := by omega
  rcases ord2ymd_spec ordinal fromOne with ⟨yearLow, monthLow, monthHigh, dayLow, dayHigh, back⟩
  have yearHigh : (ord2ymd ordinal).1 ≤ 9999 := by
    by_contra tooLate
    have years := @daysBeforeYear_le 10000 (ord2ymd ordinal).1 (by omega) (by omega)
    have value : daysBeforeYear 10000 = 3652059 := by decide
    simp only [ymd2ord] at back
    omega
  have valid : (1 ≤ (ord2ymd ordinal).1 ∧ (ord2ymd ordinal).1 ≤ 9999) ∧
      (1 ≤ (ord2ymd ordinal).2.1 ∧ (ord2ymd ordinal).2.1 ≤ 12) ∧
      (1 ≤ (ord2ymd ordinal).2.2 ∧ (ord2ymd ordinal).2.2 ≤
        daysInMonth (isLeap (ord2ymd ordinal).1) (ord2ymd ordinal).2.1) ∧
      rest / 3600 < 24 ∧ rest % 3600 / 60 < 60 ∧ rest % 60 < 60 :=
    ⟨⟨yearLow, yearHigh⟩, ⟨monthLow, monthHigh⟩, ⟨dayLow, dayHigh⟩, by omega, by omega, by omega⟩
  have inCalendar : (0 : ℤ) < (ordinal : ℤ) ∧ (ordinal : ℤ) ≤ (maxOrdinal : ℤ) := by
    simp only [maxOrdinal]
    omega
  refine ⟨⟨(ord2ymd ordinal).1, (ord2ymd ordinal).2.1, (ord2ymd ordinal).2.2, rest / 3600,
    rest % 3600 / 60, rest % 60, valid.1.1, valid.1.2, valid.2.1.1, valid.2.1.2, valid.2.2.1.1,
    valid.2.2.1.2, valid.2.2.2.1, valid.2.2.2.2.1, valid.2.2.2.2.2⟩, ?_, ?_⟩
  · simp only [add, days, remainder, if_pos inCalendar, Int.toNat_natCast]
    unfold of
    rw [dif_pos valid]
  · have total : instant.seconds + steps = ordinal * 86400 + rest := by omega
    simp only [seconds, toOrdinal, back] at total ⊢
    omega

theorem add_eq_error {instant : DateTime} {amount : ℤ}
    (tooLate : maxSeconds < instant.seconds + amount) :
    instant.add amount = .error .overflowError := by
  have outside : ¬((0 : ℤ) < ((instant.seconds : ℤ) + amount) / 86400 ∧
      ((instant.seconds : ℤ) + amount) / 86400 ≤ (maxOrdinal : ℤ)) := by
    simp only [maxSeconds] at tooLate
    simp only [maxOrdinal]
    omega
  simp only [add, if_neg outside]

end DateTime

end Reperio.Python
