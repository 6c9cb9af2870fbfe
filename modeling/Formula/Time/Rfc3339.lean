import Formula.Numeral.Decimal
import Formula.Numeral.Shortest
import Formula.Time.Timestamp

/-
  Timestamps as text, in the format of RFC 3339.

  A text holds a date, a time of day with an optional
  fraction of a second, and an offset.  Years outside 0 to
  9999, and offsets that are no whole number of minutes below
  a day, have no such text; timestamps with one are written in
  an extended form.

  Key definitions include:
    * `Rfc3339.text`
    * `Rfc3339.read?`
-/

namespace Formula

namespace Rfc3339

------------------------------------------------------------
-- Writing
------------------------------------------------------------

/- A number in at least `width` digits. -/
def padded
    (width n : Nat) : List Char :=
  padZeros width (digitsOf n)

/- The month, the day and the time of day, to the second. -/
def clockText
    (t : Timestamp) : List Char :=
  let d := t.date
  let s := t.secondOfDay
  '-' :: padded 2 d.month ++ '-' :: padded 2 d.day ++
    'T' :: padded 2 (s / 3600) ++
    ':' :: padded 2 (s / 60 % 60) ++
    ':' :: padded 2 (s % 60)

/- An offset in hours and minutes. -/
def offsetText
    (offset : Int) : List Char :=
  if offset = 0 then ['Z']
  else
    let minutes := offset.natAbs / 60
    (if offset < 0 then '-' else '+') ::
      padded 2 (minutes / 60) ++ ':' :: padded 2 (minutes % 60)

/- A fraction of a second, without zeros at its end. -/
def fractionText
    (nanos : Nat) : List Char :=
  if nanos = 0 then []
  else '.' :: dropTrailingZeros (padded 9 nanos)

/- The timestamp has a text of the plain form. -/
def IsPlain
    (t : Timestamp) : Prop :=
  (0 ≤ t.date.year ∧ t.date.year ≤ 9999) ∧
    t.offset.natAbs < 86400 ∧ t.offset.natAbs % 60 = 0

instance
    (t : Timestamp) :
    Decidable (IsPlain t) := by
  unfold IsPlain
  infer_instance

/- The plain form. -/
def plainText
    (t : Timestamp) : List Char :=
  padded 4 t.date.year.natAbs ++ clockText t ++
    fractionText t.nanosOfSecond ++ offsetText t.offset

/-
  The extended form: a signed year, and milliseconds in place
  of the fraction.
-/
def extendedText
    (t : Timestamp) : List Char :=
  let millis := t.nanosOfSecond / 1000000
  (if t.date.year < 0 then '-' else '+') ::
    padded 4 t.date.year.natAbs ++ clockText t ++
    (if millis = 0 then [] else '.' :: padded 3 millis) ++
    offsetText t.offset

/- The text of a timestamp. -/
def text
    (t : Timestamp) : List Char :=
  if IsPlain t then plainText t else extendedText t

------------------------------------------------------------
-- Reading
------------------------------------------------------------

/- Read a number of exactly `n` digits. -/
def readDigits?
    (n : Nat)
    (s : List Char) : Option (Nat × List Char) :=
  let digits := s.take n
  if digits.length = n && digits.all isDigit then
    some (digitsValue digits, s.drop n)
  else none

/- Read one given character. -/
def readChar?
    (c : Char) : List Char → Option (List Char)
  | [] => none
  | d :: rest => if d = c then some rest else none

/- Read the character between date and time: any of ASCII. -/
def readSeparator? : List Char → Option (List Char)
  | [] => none
  | c :: rest => if c.toNat < 0x80 then some rest else none

/-
  Read a fraction of a second, if a point begins one, as
  nanoseconds; digits after the ninth are dropped.
-/
def readFraction? : List Char → Option (Nat × List Char)
  | '.' :: rest =>
      let digits := rest.takeWhile isDigit
      if digits.isEmpty then none
      else
        some (digitsValue ((digits ++ List.replicate 9 '0').take 9),
          rest.dropWhile isDigit)
  | s => some (0, s)

/- Read an offset, up to the end of the text. -/
def readOffset? : List Char → Option Int
  | [] => none
  | c :: rest =>
      if c = 'Z' || c = 'z' then
        if rest.isEmpty then some 0 else none
      else if c = '+' || c = '-' then do
        let (hours, rest) ← readDigits? 2 rest
        let rest ← readChar? ':' rest
        let (minutes, rest) ← readDigits? 2 rest
        if hours ≤ 23 && minutes ≤ 59 && rest.isEmpty then
          let seconds : Int := hours * 3600 + minutes * 60
          some (if c = '-' then -seconds else seconds)
        else none
      else none

/- The instant is in the last second of a month. -/
def isMonthEnd
    (t : Timestamp) : Bool :=
  let d := Date.ofDayNumber (t.unixSeconds / secondsPerDay)
  t.unixSeconds % secondsPerDay == 86399 &&
    d.day == Date.monthLength d.year d.month

/-
  The timestamp of a time of day.  A second numbered 60 is a
  leap second: it stands for the last nanosecond before it,
  and must end a month in universal time.
-/
def ofClock?
    (d : Date)
    (hour minute second nanos : Nat)
    (offset : Int) : Option Timestamp :=
  if second = 60 then
    (Timestamp.ofClock? d (hour * 3600 + minute * 60 + 59)
      999999999 offset).filter isMonthEnd
  else
    Timestamp.ofClock? d
      (hour * 3600 + minute * 60 + second) nanos offset

/- Read a timestamp. -/
def read?
    (s : List Char) : Option Timestamp := do
  let (year, s) ← readDigits? 4 s
  let s ← readChar? '-' s
  let (month, s) ← readDigits? 2 s
  let s ← readChar? '-' s
  let (day, s) ← readDigits? 2 s
  let s ← readSeparator? s
  let (hour, s) ← readDigits? 2 s
  let s ← readChar? ':' s
  let (minute, s) ← readDigits? 2 s
  let s ← readChar? ':' s
  let (second, s) ← readDigits? 2 s
  let (nanos, s) ← readFraction? s
  let offset ← readOffset? s
  if 1 ≤ month && month ≤ 12 && 1 ≤ day &&
      day ≤ Date.monthLength year month &&
      hour ≤ 23 && minute ≤ 59 && second ≤ 60 then
    ofClock? ⟨year, month, day⟩ hour minute second nanos offset
  else none

end Rfc3339

end Formula
