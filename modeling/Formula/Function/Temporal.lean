import Formula.Function.Argument
import Formula.Numeral.Decimal

/-
  Functions that make dates and spans of time.

  Key definitions include:
    * `Function.timeSpan`
    * `Function.date`
    * `Function.dayOfWeek`
-/

namespace Formula

/- The failure of a calculation. -/
def miscalculated
    (message : String) : Failure :=
  (Cause.calculation message).unplaced

------------------------------------------------------------
-- Spans
------------------------------------------------------------

/-
  A total in a smaller unit, `factor` of which make a larger
  one, with some of the smaller ones added.  Nothing may
  exceed 64 bits on the way.
-/
def refine?
    (factor : Int)
    (total part : Int64) : Option Int64 := do
  let scaled ← fitInt64? (total.toInt * factor)
  fitInt64? (scaled.toInt + part.toInt)

/- The milliseconds in days and smaller units. -/
def millisOf?
    (days hours minutes seconds millis : Int64) :
    Option Int64 := do
  let total ← refine? 24 days hours
  let total ← refine? 60 total minutes
  let total ← refine? 60 total seconds
  refine? 1000 total millis

/- The span of some milliseconds, if they are known. -/
def spanOf
    (millis : Option Int64) : Outcome Value :=
  match millis with
  | some n => .ok (.timeSpan (.ofMillis n))
  | none => .error (miscalculated "time span is out of range")

namespace Function

/-
  A span: of milliseconds, or of days, hours and minutes with
  optional seconds and milliseconds.
-/
def timeSpan : Function :=
  fun args p => Outcome.toCall do
    match ← args.mapM p.toLong with
    | [millis] => spanOf (some millis)
    | days :: hours :: minutes :: rest =>
        spanOf (millisOf? days hours minutes
          (rest[0]?.getD 0) (rest[1]?.getD 0))
    | _ =>
        .error (Cause.wrongParameterCount "1, 3, 4 or 5"
          args.length).unplaced

end Function

------------------------------------------------------------
-- Dates
------------------------------------------------------------

/- A field of a date, if it is at least `low`, at most `high`. -/
def fieldWithin
    (name : String)
    (low high : Int)
    (n : Int32) : Outcome Nat :=
  if low ≤ n.toInt ∧ n.toInt ≤ high then .ok n.toInt.toNat
  else .error (miscalculated ("invalid " ++ name ++ " in date"))

/- Require a field of a date to be in its range. -/
def requireRange
    (name : String)
    (inRange : Bool) : Outcome Unit :=
  if inRange then .ok ()
  else .error (miscalculated (name ++ " was not in range"))

/- The timestamp if there is one. -/
def timestampOf
    (t : Option Timestamp) : Outcome Value :=
  match t with
  | some t => .ok (.dateTime t)
  | none => .error (miscalculated "timestamp is out of range")

/-
  The timestamp of a year and the fields behind it, in
  universal time.  A missing field has its least value.
-/
def dateOf
    (fields : List Int32) : Outcome Value := do
  let field (i : Nat) (default : Int32) :=
    fields[i]?.getD default
  let month ← fieldWithin "month" 1 12 (field 1 1)
  let day ← fieldWithin "day" 0 255 (field 2 1)
  let hour ← fieldWithin "hour" 0 255 (field 3 0)
  let minute ← fieldWithin "minute" 0 255 (field 4 0)
  let second ← fieldWithin "second" 0 255 (field 5 0)
  let millis ← fieldWithin "millisecond" 0 65535 (field 6 0)
  let year := (field 0 1).toInt
  requireRange "year" (-9999 ≤ year && year ≤ 9999)
  requireRange "day"
    (1 ≤ day && day ≤ Date.monthLength year month)
  requireRange "hour" (hour < 24)
  requireRange "minute" (minute < 60)
  requireRange "second" (second < 60)
  requireRange "millisecond" (millis < 1000)
  timestampOf (Timestamp.ofClock? ⟨year, month, day⟩
    ((hour * 60 + minute) * 60 + second)
    (millis * nanosPerMilli.toNat) 0)

namespace Function

/- A date: of seconds since 1970, or of a year and so on. -/
def date : Function :=
  fun args p => Outcome.toCall <|
    match args with
    | [seconds] => do
        let n ← p.toLong seconds
        timestampOf (Timestamp.ofUnixSeconds? n.toInt)
    | _ => do dateOf (← args.mapM p.toInteger)

/- The day of the week of a timestamp, Sunday being zero. -/
def dayOfWeek : Function :=
  fun args p => do
    let t ← (p.toTimestamp (← argument args 0)).toCall
    .ok (.integer (Int32.ofNat (Date.weekday t.dayNumber)))

end Function

end Formula
