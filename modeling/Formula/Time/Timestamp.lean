import Formula.Time.Calendar
import Formula.Time.TimeSpan

/-
  Instants, to the nanosecond, with the offset from universal
  time in which they are shown.

  The date shown lies in the years -9999 to 9999.  Instants
  are compared and subtracted as such, and moved without a
  change of their offset; a move that would leave the calendar
  is refused.

  Key definitions include:
    * `Timestamp`
    * `Timestamp.ofInstant?`
    * `Timestamp.ofUnixSeconds?`
    * `Timestamp.add?`
    * `Timestamp.sub?`
    * `Timestamp.since`
-/

namespace Formula

/- The seconds of a day. -/
def secondsPerDay : Int :=
  86400

/- The first second of the year -9999. -/
def firstSecond : Int :=
  -377705116800

/- The last second of the year 9999. -/
def lastSecond : Int :=
  253402300799

/- The largest offset, a second below 26 hours. -/
def largestOffset : Int :=
  93599

/-
  An instant in nanoseconds since 1970 in universal time, with
  an offset in seconds to the east.
-/
structure Timestamp where
  instant : Int
  offset : Int
  offset_above : -largestOffset ≤ offset
  offset_below : offset ≤ largestOffset
  notBefore :
    firstSecond ≤ instant / nanosPerSecond + offset
  notAfter :
    instant / nanosPerSecond + offset ≤ lastSecond
deriving DecidableEq

namespace Timestamp

/- The timestamp at an instant, if the calendar has it. -/
def ofInstant?
    (instant offset : Int) : Option Timestamp :=
  if h : (-largestOffset ≤ offset ∧ offset ≤ largestOffset) ∧
      firstSecond ≤ instant / nanosPerSecond + offset ∧
      instant / nanosPerSecond + offset ≤ lastSecond then
    some ⟨instant, offset, h.1.1, h.1.2, h.2.1, h.2.2⟩
  else none

/- The start of the year 1970 in universal time. -/
def epoch : Timestamp where
  instant := 0
  offset := 0
  offset_above := by decide
  offset_below := by decide
  notBefore := by decide
  notAfter := by decide

/- The whole seconds since 1970, toward the past. -/
def unixSeconds
    (t : Timestamp) : Int :=
  t.instant / nanosPerSecond

/- The nanoseconds of the current second. -/
def nanosOfSecond
    (t : Timestamp) : Nat :=
  (t.instant % nanosPerSecond).toNat

/- The timestamp at a number of seconds since 1970. -/
def ofUnixSeconds?
    (seconds : Int) : Option Timestamp :=
  ofInstant? (seconds * nanosPerSecond) 0

------------------------------------------------------------
-- The Time Shown
------------------------------------------------------------

/- The seconds since 1970 on the clock that is shown. -/
def clockSeconds
    (t : Timestamp) : Int :=
  t.unixSeconds + t.offset

/- The number of the day that is shown. -/
def dayNumber
    (t : Timestamp) : Int :=
  t.clockSeconds / secondsPerDay

/- The date that is shown. -/
def date
    (t : Timestamp) : Date :=
  Date.ofDayNumber t.dayNumber

/- The seconds of the day that is shown. -/
def secondOfDay
    (t : Timestamp) : Nat :=
  (t.clockSeconds % secondsPerDay).toNat

/-
  The timestamp of a date and a time of day, on a clock with
  an offset.
-/
def ofClock?
    (d : Date)
    (secondOfDay : Nat)
    (nanos : Nat)
    (offset : Int) : Option Timestamp :=
  ofInstant?
    ((d.dayNumber * secondsPerDay + secondOfDay - offset) *
      nanosPerSecond + nanos) offset

------------------------------------------------------------
-- Arithmetic
------------------------------------------------------------

/- A timestamp moved by a span, on the same clock. -/
def add?
    (t : Timestamp)
    (s : TimeSpan) : Option Timestamp :=
  ofInstant? (t.instant + s.nanos) t.offset

/- A timestamp moved back by a span, on the same clock. -/
def sub?
    (t : Timestamp)
    (s : TimeSpan) : Option Timestamp :=
  ofInstant? (t.instant - s.nanos) t.offset

/- The time from one instant to another. -/
def since
    (t u : Timestamp) : TimeSpan :=
  .clamp (t.instant - u.instant)

end Timestamp

end Formula
