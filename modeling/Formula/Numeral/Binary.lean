import Formula.Numeral.Power

/-
  Binary floating-point numbers, taken apart exactly.

  The bits of a number are read as its sign, a whole
  significand and a power of two, and an exact quotient is
  rounded to the nearest number, ties going to the even one.
  Everything is whole-number arithmetic, the same for both
  widths.

  Key definitions include:
    * `BinaryFormat`
    * `Datum`
    * `BinaryFormat.decode`
    * `BinaryFormat.round`
    * `BinaryFormat.place`
    * `BinaryFormat.remainder`
    * `Datum.truncate`
-/

namespace Formula

------------------------------------------------------------
-- Data
------------------------------------------------------------

/-
  What the bits of a number say.  A finite number is its
  significand times the power of two; zero has significand
  zero and keeps its sign.
-/
inductive Datum where
  | nan
  | infinite (negative : Bool)
  | finite
      (negative : Bool)
      (significand : Nat)
      (exponent : Int)
deriving DecidableEq

namespace Datum

/- The part of `m * 2 ^ e` before the binary point. -/
def wholePart
    (m : Nat)
    (e : Int) : Nat :=
  if 0 ≤ e then m * powerOfTwo e.toNat
  else m / powerOfTwo (-e).toNat

/-
  The whole number toward zero, kept between two bounds.  No
  number counts as zero.
-/
def truncate
    (low high : Int) : Datum → Int
  | .nan => 0
  | .infinite negative => if negative then low else high
  | .finite negative m e =>
      let n : Int := wholePart m e
      max low (min high (if negative then -n else n))

end Datum

------------------------------------------------------------
-- Formats
------------------------------------------------------------

/-
  A binary format: the digits of a significand, the leading
  one included, and the width of the exponent field.
-/
structure BinaryFormat where
  precision : Nat
  exponentBits : Nat

/- A quotient rounded to the nearest whole, ties to even. -/
def roundHalfEven
    (num den : Nat) : Nat :=
  let q := num / den
  let r := num % den
  if 2 * r < den then q
  else if den < 2 * r then q + 1
  else q + q % 2

namespace BinaryFormat

/- Numbers of 64 bits. -/
def double : BinaryFormat :=
  ⟨53, 11⟩

/- Numbers of 32 bits. -/
def single : BinaryFormat :=
  ⟨24, 8⟩

/- The width of the significand field. -/
def fieldBits
    (f : BinaryFormat) : Nat :=
  f.precision - 1

/- The exponent field of infinities and of no number. -/
def topExponent
    (f : BinaryFormat) : Nat :=
  powerOfTwo f.exponentBits - 1

/- The power of two of the smallest number above zero. -/
def leastExponent
    (f : BinaryFormat) : Int :=
  3 - powerOfTwo (f.exponentBits - 1) - f.precision

/- The bits of infinity; larger magnitudes are no number. -/
def infinityBits
    (f : BinaryFormat) : Nat :=
  f.topExponent * powerOfTwo f.fieldBits

/- The bit of the sign. -/
def signBit
    (f : BinaryFormat) : Nat :=
  powerOfTwo (f.fieldBits + f.exponentBits)

/- The bits of a number that is none. -/
def nanBits
    (f : BinaryFormat) : Nat :=
  f.infinityBits + powerOfTwo (f.fieldBits - 1)

/- Put a sign in front of the bits of a magnitude. -/
def withSign
    (f : BinaryFormat)
    (negative : Bool)
    (bits : Nat) : Nat :=
  if negative then f.signBit + bits else bits

/- Read the bits of a number. -/
def decode
    (f : BinaryFormat)
    (bits : Nat) : Datum :=
  let negative := decide (f.signBit ≤ bits)
  let field := bits % powerOfTwo f.fieldBits
  let biased :=
    bits / powerOfTwo f.fieldBits % powerOfTwo f.exponentBits
  if biased = f.topExponent then
    if field = 0 then .infinite negative else .nan
  else if biased = 0 then
    .finite negative field f.leastExponent
  else
    .finite negative (powerOfTwo f.fieldBits + field)
      (f.leastExponent + (biased - 1 : Nat))

------------------------------------------------------------
-- Rounding
------------------------------------------------------------

/- The greatest `l` with `2 ^ l` at most `num / den`. -/
def quotientLog
    (num den : Nat) : Int :=
  let l : Int := (num.log2 : Int) - den.log2
  if num * powerOfTwo (-l).toNat < den * powerOfTwo l.toNat
  then l - 1 else l

/-
  The bits of the magnitude nearest to `num / den`.  The
  significand is a quotient by the power of two that leaves
  it the digits of the format; one that rounds up to the next
  power carries into the exponent field by itself.
-/
def roundMagnitude
    (f : BinaryFormat)
    (num den : Nat) : Nat :=
  if num = 0 then 0
  else
    let e := max f.leastExponent
      (quotientLog num den - f.fieldBits)
    let q := roundHalfEven
      (num * powerOfTwo (-e).toNat) (den * powerOfTwo e.toNat)
    min f.infinityBits
      ((e - f.leastExponent).toNat * powerOfTwo f.fieldBits +
        q)

/- The bits of the number nearest to a quotient. -/
def round
    (f : BinaryFormat)
    (negative : Bool)
    (num den : Nat) : Nat :=
  f.withSign negative (f.roundMagnitude num den)

/- The bits of the number nearest to `m * 2 ^ e`. -/
def roundScaled
    (f : BinaryFormat)
    (negative : Bool)
    (m : Nat)
    (e : Int) : Nat :=
  f.round negative (m * powerOfTwo e.toNat)
    (powerOfTwo (-e).toNat)

/- The bits of the number nearest to a datum. -/
def ofDatum
    (f : BinaryFormat) : Datum → Nat
  | .nan => f.nanBits
  | .infinite negative => f.withSign negative f.infinityBits
  | .finite negative m e => f.roundScaled negative m e

/- The bits of the number nearest to a whole number. -/
def ofInt
    (f : BinaryFormat)
    (n : Int) : Nat :=
  f.round (n < 0) n.natAbs 1

------------------------------------------------------------
-- Order
------------------------------------------------------------

/-
  The place of a number on the line of all numbers: both
  zeros share one place, and what is no number stands after
  infinity.
-/
def place
    (f : BinaryFormat)
    (bits : Nat) : Int :=
  let magnitude := bits % f.signBit
  if f.infinityBits < magnitude then f.signBit
  else if f.signBit ≤ bits then -(magnitude : Int)
  else magnitude

/- The bits are of no number. -/
def isNaN
    (f : BinaryFormat)
    (bits : Nat) : Bool :=
  f.infinityBits < bits % f.signBit

/- Two numbers are the same; what is no number never is. -/
def same
    (f : BinaryFormat)
    (a b : Nat) : Bool :=
  !f.isNaN a && !f.isNaN b && f.place a == f.place b

------------------------------------------------------------
-- Remainder
------------------------------------------------------------

/-
  The remainder of a division that is cut toward zero.  It is
  exact, and has the sign of the dividend.
-/
def remainder
    (f : BinaryFormat)
    (a b : Nat) : Nat :=
  match f.decode a, f.decode b with
  | .finite negative m e, .finite _ n d =>
      if n = 0 then f.nanBits
      else
        let low := min e d
        f.roundScaled negative
          (m * powerOfTwo (e - low).toNat %
            (n * powerOfTwo (d - low).toNat)) low
  | .finite _ _ _, .infinite _ => a
  | _, _ => f.nanBits

end BinaryFormat

end Formula
