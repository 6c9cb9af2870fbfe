/-
  The Gregorian calendar, extended without end to both sides.

  A day is named by its date or by its number, counted from
  the first of January 1970.  Years are counted from March
  within a cycle of 400 years, so that the leap day is the
  last day of its year.

  Key definitions include:
    * `Date`
    * `Date.dayNumber`
    * `Date.ofDayNumber`
    * `Date.monthLength`
    * `Date.weekday`
-/

namespace Formula

/- A date: the year, and the month and day from one. -/
structure Date where
  year : Int
  month : Nat
  day : Nat
deriving DecidableEq

namespace Date

/- A year with a leap day. -/
def isLeapYear
    (year : Int) : Bool :=
  year % 4 == 0 && (year % 100 != 0 || year % 400 == 0)

/- The number of days of a month. -/
def monthLength
    (year : Int)
    (month : Nat) : Nat :=
  if month = 2 then if isLeapYear year then 29 else 28
  else if month = 4 || month = 6 || month = 9 || month = 11
  then 30 else 31

/- The days of a year from March before a month begins. -/
def daysBefore
    (monthFromMarch : Nat) : Nat :=
  (153 * monthFromMarch + 2) / 5

/- The days of a cycle before one of its years begins. -/
def daysBeforeYear
    (yearOfCycle : Int) : Int :=
  365 * yearOfCycle + yearOfCycle / 4 - yearOfCycle / 100

/- The number of a day. -/
def dayNumber
    (d : Date) : Int :=
  let year := if d.month ≤ 2 then d.year - 1 else d.year
  let ofYear := daysBefore ((d.month + 9) % 12) + d.day - 1
  year / 400 * 146097 + daysBeforeYear (year % 400) +
    ofYear - 719468

/- The date of a day. -/
def ofDayNumber
    (n : Int) : Date :=
  let fromMarch := n + 719468
  let ofCycle := fromMarch % 146097
  let yearOfCycle :=
    (ofCycle - ofCycle / 1460 + ofCycle / 36524 -
      ofCycle / 146096) / 365
  let ofYear := (ofCycle - daysBeforeYear yearOfCycle).toNat
  let monthFromMarch := (5 * ofYear + 2) / 153
  let month := (monthFromMarch + 2) % 12 + 1
  let year := fromMarch / 146097 * 400 + yearOfCycle
  { year := if month ≤ 2 then year + 1 else year
    month := month
    day := ofYear - daysBefore monthFromMarch + 1 }

/- The day of the week of a day, Sunday being zero. -/
def weekday
    (n : Int) : Nat :=
  ((n + 4) % 7).toNat

end Date

end Formula
