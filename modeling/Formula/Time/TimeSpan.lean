/-
  Spans of time, to the nanosecond.

  A span is a whole number of seconds of 64 bits and the
  nanoseconds of one more second on the same side of zero.
  Arithmetic that leaves this range stops at its end.

  Key definitions include:
    * `TimeSpan`
    * `TimeSpan.clamp`
    * `TimeSpan.add`
    * `TimeSpan.sub`
    * `TimeSpan.neg`
    * `TimeSpan.wholeMillis`
-/

namespace Formula

/- The nanoseconds of a second. -/
def nanosPerSecond : Int :=
  1000000000

/- The nanoseconds of a millisecond. -/
def nanosPerMilli : Int :=
  1000000

/- A span of time, as its length in nanoseconds. -/
structure TimeSpan where
  nanos : Int
  above : -9223372036854775808999999999 ≤ nanos
  below : nanos ≤ 9223372036854775807999999999
deriving DecidableEq

namespace TimeSpan

/- The longest span back in time. -/
def least : TimeSpan where
  nanos := -9223372036854775808999999999
  above := by omega
  below := by omega

/- The longest span ahead in time. -/
def greatest : TimeSpan where
  nanos := 9223372036854775807999999999
  above := by omega
  below := by omega

/- The span nearest to a number of nanoseconds. -/
def clamp
    (n : Int) : TimeSpan where
  nanos := max least.nanos (min greatest.nanos n)
  above := by simp only [least, greatest]; omega
  below := by simp only [least, greatest]; omega

/- No time at all. -/
def zero : TimeSpan :=
  clamp 0

/- The whole seconds of a span, toward zero. -/
def wholeSeconds
    (s : TimeSpan) : Int :=
  s.nanos.tdiv nanosPerSecond

/- The nanoseconds besides the whole seconds. -/
def nanosOfSecond
    (s : TimeSpan) : Int :=
  s.nanos.tmod nanosPerSecond

/- The whole milliseconds of a span, toward zero. -/
def wholeMillis
    (s : TimeSpan) : Int :=
  s.nanos.tdiv nanosPerMilli

/- The span of a number of milliseconds. -/
def ofMillis
    (n : Int64) : TimeSpan :=
  clamp (n.toInt * nanosPerMilli)

/- The milliseconds of a span, as far as 64 bits reach. -/
def millis
    (s : TimeSpan) : Int64 :=
  Int64.ofInt
    (max Int64.minValue.toInt
      (min Int64.maxValue.toInt s.wholeMillis))

/- The sum of two spans, or the end of the range. -/
def add
    (s t : TimeSpan) : TimeSpan :=
  clamp (s.nanos + t.nanos)

/-
  The difference of two spans.  When even the whole seconds
  leave the range, the seconds subtracted from choose the end:
  the upper one if they are above zero, else the lower.
-/
def sub
    (s t : TimeSpan) : TimeSpan :=
  let seconds := s.wholeSeconds - t.wholeSeconds
  if seconds < Int64.minValue.toInt ∨
      Int64.maxValue.toInt < seconds then
    if 0 < s.wholeSeconds then greatest else least
  else clamp (s.nanos - t.nanos)

/- The span in the other direction. -/
def neg
    (s : TimeSpan) : TimeSpan :=
  clamp (-s.nanos)

end TimeSpan

end Formula
