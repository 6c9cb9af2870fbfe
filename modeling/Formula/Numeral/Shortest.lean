import Formula.Numeral.Double

/-
  Numbers as decimal text: the fewest digits that read back
  as the same number, written without an exponent.

  Every number stands for the reals that round to it.  On the
  grid of the multiples of a power of ten, the number has two
  neighbours; the coarsest grid on which a neighbour rounds to
  the number gives the digits, the nearer neighbour being
  taken, and the upper one of two that are equally near.

  Key definitions include:
    * `Interval`
    * `Interval.onGrid?`
    * `Interval.shortest`
    * `Double.text`
    * `Single.text`
-/

namespace Formula

------------------------------------------------------------
-- Rounding Intervals
------------------------------------------------------------

/-
  The reals that round to `value * 2 ^ scale`, from `low` to
  `high` on the same scale, with or without the ends.
-/
structure Interval where
  low : Nat
  value : Nat
  high : Nat
  scale : Int
  closed : Bool

namespace Interval

/-
  The interval of a significand above zero.  It reaches half
  way to both neighbours; below a power of two the neighbour
  is only half as far, unless the power is the least.  Ties
  round to even significands.
-/
def ofFinite
    (f : BinaryFormat)
    (m : Nat)
    (e : Int) : Interval where
  low := 4 * m -
    (if m = powerOfTwo f.fieldBits && f.leastExponent < e
      then 1 else 2)
  value := 4 * m
  high := 4 * m + 2
  scale := e - 2
  closed := m % 2 = 0

/- The numerator of the scale over a grid of `10 ^ k`. -/
def gridNum
    (i : Interval)
    (k : Int) : Nat :=
  powerOfTwo i.scale.toNat * powerOfTen (-k).toNat

/- The denominator of the scale over a grid of `10 ^ k`. -/
def gridDen
    (i : Interval)
    (k : Int) : Nat :=
  powerOfTwo (-i.scale).toNat * powerOfTen k.toNat

/- The multiple `c` of `10 ^ k` rounds to the number. -/
def holds
    (i : Interval)
    (k : Int)
    (c : Nat) : Bool :=
  let n := i.gridNum k
  let d := i.gridDen k
  if i.closed then i.low * n ≤ c * d && c * d ≤ i.high * n
  else i.low * n < c * d && c * d < i.high * n

/- The better neighbour on a grid that rounds to the number. -/
def onGrid?
    (i : Interval)
    (k : Int) : Option Nat :=
  let n := i.value * i.gridNum k
  let d := i.gridDen k
  let c := n / d
  match i.holds k c, i.holds k (c + 1) with
  | true, true => if 2 * (n % d) < d then some c else some (c + 1)
  | true, false => some c
  | false, true => some (c + 1)
  | false, false => none

/-
  The digits on the coarsest grid with a hit, of the `n`
  grids from `10 ^ k` down, with the power of that grid.
-/
def firstHit
    (i : Interval)
    (k : Int) : Nat → Nat × Int
  | 0 => (0, k)
  | n + 1 =>
      match i.onGrid? k with
      | some c => (c, k)
      | none => i.firstHit (k - 1) n

/-
  A grid that is certainly too coarse to hold two digits of
  the number: the decimal logarithm of two is below 0.30103.
-/
def coarsest
    (i : Interval) : Int :=
  ((i.value.log2 : Int) + 1 + i.scale) * 30103 / 100000 + 1

/- The fewest digits that round to the number. -/
def shortest
    (i : Interval) : Nat × Int :=
  i.firstHit i.coarsest 25

end Interval

------------------------------------------------------------
-- Decimal Text
------------------------------------------------------------

/- Digits without the zeros at their end. -/
def dropTrailingZeros
    (digits : List Char) : List Char :=
  (digits.reverse.dropWhile fun c => c = '0').reverse

/- Digits filled up with zeros in front. -/
def padZeros
    (width : Nat)
    (digits : List Char) : List Char :=
  List.replicate (width - digits.length) '0' ++ digits

/- The decimal digits of a number. -/
def digitsOf
    (n : Nat) : List Char :=
  Nat.toDigits 10 n

/- The number `c * 10 ^ k` without an exponent. -/
def positional
    (c : Nat)
    (k : Int) : List Char :=
  if 0 ≤ k then digitsOf (c * powerOfTen k.toNat)
  else
    let places := (-k).toNat
    let fraction := dropTrailingZeros
      (padZeros places (digitsOf (c % powerOfTen places)))
    let whole := digitsOf (c / powerOfTen places)
    if fraction.isEmpty then whole
    else whole ++ '.' :: fraction

/- The text of a magnitude. -/
def BinaryFormat.magnitudeText
    (f : BinaryFormat)
    (m : Nat)
    (e : Int) : List Char :=
  if m = 0 then ['0']
  else
    let (c, k) := (Interval.ofFinite f m e).shortest
    positional c k

/- The text of a number. -/
def BinaryFormat.text
    (f : BinaryFormat) : Datum → String
  | .nan => "NaN"
  | .infinite negative => if negative then "-inf" else "inf"
  | .finite negative m e =>
      let digits := f.magnitudeText m e
      String.ofList
        (if negative then '-' :: digits else digits)

/- The text of a number of 64 bits. -/
def Double.text
    (x : Float) : String :=
  BinaryFormat.double.text (Double.datum x)

/- The text of a number of 32 bits. -/
def Single.text
    (x : Float32) : String :=
  BinaryFormat.single.text (Single.datum x)

end Formula
