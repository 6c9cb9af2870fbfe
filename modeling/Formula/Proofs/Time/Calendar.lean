import Mathlib
import Formula.Time.Timestamp

/-
  Days and dates.

  Every number of a day is that of its date, and the date is one
  of the calendar: a month of the year and a day of the month,
  the leap day in leap years only.  The year of a cycle is the
  quotient of its days by 365 once the leap days before the day
  are taken off.  These are the leap days before its year, which
  is shown century by century.

  A timestamp is made again from the date and the time of day
  that it shows.

  Key definitions include:
    * `Date.yearOfCycle`
    * `Date.IsValid`

  Main statements:
    * `Date.daysBeforeYear_bounds`
    * `Date.isValid_ofDayNumber`
    * `Date.dayNumber_ofDayNumber`
    * `Date.natAbs_year_ofDayNumber_le_iff`
    * `Timestamp.ofClock?_date`
    * `Timestamp.natAbs_year_le`
-/

namespace Formula

namespace Date

------------------------------------------------------------
-- Years of a Cycle
------------------------------------------------------------

/- The year of a cycle in which one of its days lies. -/
def yearOfCycle
    (d : Int) : Int :=
  (d - d / 1460 + d / 36524 - d / 146096) / 365

variable {d : Int}

/- A cycle has 400 years. -/
theorem yearOfCycle_bounds
    (hLow : 0 ≤ d)
    (hHigh : d < 146097) :
    0 ≤ yearOfCycle d ∧ yearOfCycle d ≤ 399 := by
  unfold yearOfCycle
  omega

/-
  A day lies in its year and not in the next one.  The leap
  day of a cycle ends its last year, which has no next one.
-/
theorem daysBeforeYear_bounds
    (hLow : 0 ≤ d)
    (hHigh : d < 146097) :
    daysBeforeYear (yearOfCycle d) ≤ d ∧
      (yearOfCycle d = 399 ∨
        d < daysBeforeYear (yearOfCycle d + 1)) := by
  have hYear : yearOfCycle d =
      (d - d / 1460 + d / 36524 - d / 146096) / 365 := rfl
  have hBounds := yearOfCycle_bounds hLow hHigh
  unfold daysBeforeYear
  generalize yearOfCycle d = y at hYear hBounds ⊢
  -- The leap days taken off are those before the year.
  have hFourth : y / 4 ≤ d / 1460 ∧ d / 1460 ≤ (y + 1) / 4 := by
    omega
  have hCentury : d / 36524 = 0 ∨ d / 36524 = 1 ∨
      d / 36524 = 2 ∨ d / 36524 = 3 ∨ d / 36524 = 4 := by
    omega
  have hHundredth : d / 36524 - d / 146096 ≤ y / 100 ∧
      (y = 399 ∨ y + 1 = 100 * (d / 36524 + 1) ∨
        (y + 1) / 100 ≤ d / 36524 - d / 146096) := by
    rcases hCentury with h | h | h | h | h <;> omega
  omega

/- A year has 365 days, and perhaps one more. -/
theorem dayOfYear_bounds
    (hLow : 0 ≤ d)
    (hHigh : d < 146097) :
    0 ≤ d - daysBeforeYear (yearOfCycle d) ∧
      d - daysBeforeYear (yearOfCycle d) ≤ 365 := by
  have hBounds := daysBeforeYear_bounds hLow hHigh
  unfold daysBeforeYear at hBounds ⊢
  omega

/- The day that a year may have more comes before a leap year. -/
theorem leap_of_dayOfYear_eq
    (hLow : 0 ≤ d)
    (hHigh : d < 146097)
    (hLast : d - daysBeforeYear (yearOfCycle d) = 365) :
    (yearOfCycle d + 1) % 4 = 0 ∧
      ((yearOfCycle d + 1) % 100 ≠ 0 ∨
        (yearOfCycle d + 1) % 400 = 0) := by
  rcases daysBeforeYear_bounds hLow hHigh with
    ⟨-, hCycle | hNext⟩
  · rw [hCycle]
    decide
  · unfold daysBeforeYear at hNext hLast
    generalize yearOfCycle d = y at hNext hLast ⊢
    have hFourth :
        (y + 1) / 4 = y / 4 ∨ (y + 1) % 4 = 0 := by
      omega
    have hHundredth :
        (y + 1) / 100 = y / 100 + 1 ∨ (y + 1) % 100 ≠ 0 := by
      omega
    omega

------------------------------------------------------------
-- Days of a Year
------------------------------------------------------------

/- The day of its year, from March, that a day of a cycle is. -/
def dayOfYear
    (d : Int) : Nat :=
  (d - daysBeforeYear (yearOfCycle d)).toNat

/- The month, from March, in which a day of a year lies. -/
def monthFromMarch
    (k : Nat) : Nat :=
  (5 * k + 2) / 153

/- A day of a cycle is a day of one of its years. -/
theorem daysBeforeYear_add_dayOfYear
    (hLow : 0 ≤ d)
    (hHigh : d < 146097) :
    daysBeforeYear (yearOfCycle d) + dayOfYear d = d := by
  have hBounds := dayOfYear_bounds hLow hHigh
  unfold dayOfYear
  omega

theorem dayOfYear_le
    (hLow : 0 ≤ d)
    (hHigh : d < 146097) :
    dayOfYear d ≤ 365 := by
  have hBounds := dayOfYear_bounds hLow hHigh
  unfold dayOfYear
  omega

variable {k : Nat}

theorem monthFromMarch_le
    (hDay : k ≤ 365) :
    monthFromMarch k ≤ 11 := by
  unfold monthFromMarch
  omega

theorem daysBefore_monthFromMarch_le
    (k : Nat) :
    daysBefore (monthFromMarch k) ≤ k := by
  unfold daysBefore monthFromMarch
  omega

/- January and February end a year that begins in March. -/
theorem month_le_two_iff
    (hDay : k ≤ 365) :
    (monthFromMarch k + 2) % 12 + 1 ≤ 2 ↔ 306 ≤ k := by
  have hMonth := monthFromMarch_le hDay
  have hTenth : 10 ≤ monthFromMarch k ↔ 306 ≤ k := by
    unfold monthFromMarch
    omega
  omega

/- The months of a year have 28 to 31 days. -/
theorem le_monthLength
    (year : Int)
    (month : Nat) :
    28 ≤ monthLength year month := by
  unfold monthLength
  split_ifs <;> decide

theorem monthLength_le
    (year : Int)
    (month : Nat) :
    monthLength year month ≤ 31 := by
  unfold monthLength
  split_ifs <;> decide

/-
  The months of a year are as long as the calendar says.  The
  last of them is February, which ends the year when there is
  a leap day.
-/
theorem dayOfMonth_le
    {year : Int}
    (hDay : k ≤ 365)
    (hLeap : k = 365 → isLeapYear year = true) :
    k - daysBefore (monthFromMarch k) + 1 ≤
      monthLength year ((monthFromMarch k + 2) % 12 + 1) := by
  have hMonth := monthFromMarch_le hDay
  have hEq : monthFromMarch k = (5 * k + 2) / 153 := rfl
  generalize monthFromMarch k = m at hMonth hEq ⊢
  by_cases hFebruary : m = 11
  · subst hFebruary
    by_cases hLast : k = 365
    · simp [monthLength, daysBefore, hLast, hLeap hLast]
    · refine Nat.le_trans ?_ (le_monthLength _ _)
      simp only [daysBefore]
      omega
  · interval_cases m <;>
      simp [monthLength, daysBefore] <;> omega

------------------------------------------------------------
-- Dates of the Calendar
------------------------------------------------------------

/- A date whose year and month are counted from March. -/
def ofMarch
    (year : Int)
    (month day : Nat) : Date where
  year := if (month + 2) % 12 + 1 ≤ 2 then year + 1 else year
  month := (month + 2) % 12 + 1
  day := day

/- The date of a day, by its cycle, its year and its month. -/
theorem ofDayNumber_eq
    (n : Int) :
    ofDayNumber n =
      let d := (n + 719468) % 146097
      let m := monthFromMarch (dayOfYear d)
      ofMarch ((n + 719468) / 146097 * 400 + yearOfCycle d) m
        (dayOfYear d - daysBefore m + 1) :=
  rfl

/- The number of a day that is counted from March. -/
theorem dayNumber_ofMarch
    {q y : Int}
    {m : Nat}
    (hYear : 0 ≤ y ∧ y ≤ 399)
    (hMonth : m ≤ 11)
    (day : Nat) :
    (ofMarch (q * 400 + y) m day).dayNumber =
      q * 146097 + daysBeforeYear y +
        (daysBefore m + day - 1 : Nat) - 719468 := by
  have hMarch : ((m + 2) % 12 + 1 + 9) % 12 = m := by omega
  have hQuotient : (q * 400 + y) / 400 = q := by omega
  have hRest : (q * 400 + y) % 400 = y := by omega
  by_cases hWrap : (m + 2) % 12 + 1 ≤ 2
  · simp only [dayNumber, ofMarch, if_pos hWrap,
      add_sub_cancel_right, hMarch, hQuotient, hRest]
  · simp only [dayNumber, ofMarch, if_neg hWrap, hMarch,
      hQuotient, hRest]

/- A date of the calendar. -/
structure IsValid
    (d : Date) : Prop where
  month_pos : 1 ≤ d.month
  month_le : d.month ≤ 12
  day_pos : 1 ≤ d.day
  day_le : d.day ≤ monthLength d.year d.month

/- The day that only some years have is in a leap year. -/
theorem isLeapYear_ofMarch
    (q : Int)
    (hLow : 0 ≤ d)
    (hHigh : d < 146097)
    (hLast : dayOfYear d = 365) :
    isLeapYear (q * 400 + yearOfCycle d + 1) = true := by
  have hTotal := daysBeforeYear_add_dayOfYear hLow hHigh
  have hLeap := leap_of_dayOfYear_eq hLow hHigh (by omega)
  simp only [isLeapYear, Bool.and_eq_true, Bool.or_eq_true,
    beq_iff_eq, bne_iff_ne]
  omega

/- A day has a date of the calendar. -/
theorem isValid_ofDayNumber
    (n : Int) :
    (ofDayNumber n).IsValid := by
  have hLow : 0 ≤ (n + 719468) % 146097 := by omega
  have hHigh : (n + 719468) % 146097 < 146097 := by omega
  have hDay := dayOfYear_le hLow hHigh
  have hMonth := monthFromMarch_le hDay
  have hLeap := isLeapYear_ofMarch
    ((n + 719468) / 146097) hLow hHigh
  rw [ofDayNumber_eq]
  generalize (n + 719468) % 146097 = d at *
  refine ⟨Nat.le_add_left _ _, ?_, Nat.le_add_left _ _, ?_⟩
  · simp only [ofMarch]
    omega
  · refine dayOfMonth_le hDay ?_
    intro hLast
    have hFebruary := (month_le_two_iff hDay).mpr (by omega)
    rw [ofMarch, if_pos hFebruary]
    exact hLeap hLast

/- A day is the day of its date. -/
theorem dayNumber_ofDayNumber
    (n : Int) :
    (ofDayNumber n).dayNumber = n := by
  have hLow : 0 ≤ (n + 719468) % 146097 := by omega
  have hHigh : (n + 719468) % 146097 < 146097 := by omega
  have hDay := dayOfYear_le hLow hHigh
  have hMonth := monthFromMarch_le hDay
  have hBefore := daysBefore_monthFromMarch_le
    (dayOfYear ((n + 719468) % 146097))
  have hTotal := daysBeforeYear_add_dayOfYear hLow hHigh
  have hYear := yearOfCycle_bounds hLow hHigh
  rw [ofDayNumber_eq, dayNumber_ofMarch hYear hMonth]
  omega

/-
  The days of the calendar, by their cycle, their year and
  their day of the year: the first is in January of the first
  year from March, and the last before January of the last.
-/
theorem cycle_bounds
    {q y k : Int}
    (hLow : -3652119 ≤ q * 146097 + daysBeforeYear y + k)
    (hHigh : q * 146097 + daysBeforeYear y + k ≤ 3652364)
    (hYear : 0 ≤ y ∧ y ≤ 399)
    (hDay : 0 ≤ k ∧ k ≤ 365) :
    (-25 ≤ q ∧ q ≤ 24) ∧
      (q = -25 → y = 0 → 306 ≤ k) ∧
      (q = 24 → y = 399 → k < 306) := by
  unfold daysBeforeYear at hLow hHigh
  refine ⟨by omega, ?_, ?_⟩ <;> rintro rfl rfl <;> omega

/- A year is bounded by a day in it. -/
theorem natAbs_year_ofDayNumber_le
    {n : Int}
    (hLow : -4371587 ≤ n)
    (hHigh : n ≤ 2932896) :
    (ofDayNumber n).year.natAbs ≤ 9999 := by
  have hLow' : 0 ≤ (n + 719468) % 146097 := by omega
  have hHigh' : (n + 719468) % 146097 < 146097 := by omega
  have hDay := dayOfYear_le hLow' hHigh'
  have hTotal := daysBeforeYear_add_dayOfYear hLow' hHigh'
  have hYear := yearOfCycle_bounds hLow' hHigh'
  rw [ofDayNumber_eq, ofMarch]
  dsimp only
  generalize dayOfYear ((n + 719468) % 146097) = k at *
  generalize yearOfCycle ((n + 719468) % 146097) = y at *
  have hCycle := cycle_bounds (q := (n + 719468) / 146097)
    (y := y) (k := k) (by omega) (by omega) hYear (by omega)
  simp only [month_le_two_iff hDay]
  split_ifs <;> omega

------------------------------------------------------------
-- Years of Four Digits
------------------------------------------------------------

/- The days of the calendar that come before a year from March. -/
theorem daysBeforeMarch_bounds
    {y days : Int}
    (hDays :
      y / 400 * 146097 + daysBeforeYear (y % 400) = days)
    (hLow : -10000 ≤ y)
    (hHigh : y ≤ 9999) :
    (-3652425 ≤ days ∧ days ≤ 3652059) ∧
      (-9999 ≤ y → -3652060 ≤ days) ∧
      (y ≤ 9998 → days ≤ 3651694) := by
  unfold daysBeforeYear at hDays
  have hCycle : -25 ≤ y / 400 ∧ y / 400 ≤ 24 := by omega
  omega

/- January and February come after the other months. -/
theorem daysBefore_bounds
    {m : Nat}
    (hLow : 1 ≤ m)
    (hHigh : m ≤ 12) :
    daysBefore ((m + 9) % 12) ≤ 337 ∧
      (m ≤ 2 → 306 ≤ daysBefore ((m + 9) % 12)) ∧
      (3 ≤ m → daysBefore ((m + 9) % 12) ≤ 275) := by
  unfold daysBefore
  omega

/- A day is bounded by its year. -/
theorem dayNumber_bounds
    {d : Date}
    (hValid : d.IsValid)
    (hYear : d.year.natAbs ≤ 9999) :
    -4371587 ≤ d.dayNumber ∧ d.dayNumber ≤ 2932896 := by
  have hDayPos := hValid.day_pos
  have hDay : d.day ≤ 31 :=
    hValid.day_le.trans (monthLength_le _ _)
  have hMonth :=
    daysBefore_bounds hValid.month_pos hValid.month_le
  rw [dayNumber]
  by_cases hWrap : d.month ≤ 2
  · have hDays := daysBeforeMarch_bounds
      (y := d.year - 1) rfl (by omega) (by omega)
    simp only [if_pos hWrap]
    omega
  · have hDays := daysBeforeMarch_bounds
      (y := d.year) rfl (by omega) (by omega)
    simp only [if_neg hWrap]
    omega

/- The years of four digits have the days of the calendar. -/
theorem natAbs_year_ofDayNumber_le_iff
    {n : Int} :
    (ofDayNumber n).year.natAbs ≤ 9999 ↔
      -4371587 ≤ n ∧ n ≤ 2932896 := by
  constructor
  · intro hYear
    have hBounds :=
      dayNumber_bounds (isValid_ofDayNumber n) hYear
    rwa [dayNumber_ofDayNumber] at hBounds
  · rintro ⟨hLow, hHigh⟩
    exact natAbs_year_ofDayNumber_le hLow hHigh

end Date

namespace Timestamp

------------------------------------------------------------
-- The Time Shown
------------------------------------------------------------

theorem secondOfDay_lt
    (t : Timestamp) :
    t.secondOfDay < 86400 := by
  unfold secondOfDay secondsPerDay
  omega

theorem nanosOfSecond_lt
    (t : Timestamp) :
    t.nanosOfSecond < 10 ^ 9 := by
  unfold nanosOfSecond nanosPerSecond
  omega

/- The years of the calendar have four digits. -/
theorem natAbs_year_le
    (t : Timestamp) :
    t.date.year.natAbs ≤ 9999 := by
  have hLow := t.notBefore
  have hHigh := t.notAfter
  unfold firstSecond at hLow
  unfold lastSecond at hHigh
  refine Date.natAbs_year_ofDayNumber_le ?_ ?_ <;>
    simp only [dayNumber, clockSeconds, unixSeconds,
      secondsPerDay] <;>
    omega

/- An instant is that of its day, its second and its fraction. -/
theorem instant_eq
    (t : Timestamp) :
    (t.dayNumber * secondsPerDay + t.secondOfDay - t.offset) *
      nanosPerSecond + t.nanosOfSecond = t.instant := by
  simp only [dayNumber, secondOfDay, clockSeconds, unixSeconds,
    nanosOfSecond, secondsPerDay, nanosPerSecond]
  omega

/- A timestamp is at its own instant. -/
theorem ofInstant?_instant
    (t : Timestamp) :
    ofInstant? t.instant t.offset = some t :=
  dif_pos ⟨⟨t.offset_above, t.offset_below⟩,
    t.notBefore, t.notAfter⟩

/- A timestamp is known by the date and the time it shows. -/
theorem ofClock?_date
    (t : Timestamp) :
    ofClock? t.date t.secondOfDay t.nanosOfSecond t.offset =
      some t := by
  unfold ofClock? date
  rw [Date.dayNumber_ofDayNumber, instant_eq,
    ofInstant?_instant]

end Timestamp

end Formula
