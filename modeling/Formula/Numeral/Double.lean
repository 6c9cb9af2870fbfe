import Formula.Numeral.Binary

/-
  The exact operations on the numbers of 64 bits, `Double`,
  and on those of 32 bits, `Single`.

  Conversions, comparisons and remainders go through the
  bits, so that each of them is a statement about whole
  numbers.

  Key definitions include:
    * `Double.datum`
    * `Double.ofInt`
    * `Double.toInt32`
    * `Double.toInt64`
    * `Double.order`
    * `Single.ofDouble`
    * `Double.ofSingle`
-/

namespace Formula

------------------------------------------------------------
-- Numbers of 64 Bits
------------------------------------------------------------

namespace Double

/- The number with given bits. -/
def ofBits
    (bits : Nat) : Float :=
  Float.ofBits (UInt64.ofNat bits)

/- The bits of a number. -/
def bits
    (x : Float) : Nat :=
  x.toBits.toNat

/- What a number stands for. -/
def datum
    (x : Float) : Datum :=
  BinaryFormat.double.decode (bits x)

/- The number nearest to a datum. -/
def ofDatum
    (d : Datum) : Float :=
  ofBits (BinaryFormat.double.ofDatum d)

/- The number nearest to a whole number. -/
def ofInt
    (n : Int) : Float :=
  ofBits (BinaryFormat.double.ofInt n)

/- The whole number toward zero, kept between bounds. -/
def truncate
    (low high : Int)
    (x : Float) : Int :=
  (datum x).truncate low high

/- The whole number of 32 bits that a number is cut to. -/
def toInt32
    (x : Float) : Int32 :=
  Int32.ofInt
    (truncate Int32.minValue.toInt Int32.maxValue.toInt x)

/- The whole number of 64 bits that a number is cut to. -/
def toInt64
    (x : Float) : Int64 :=
  Int64.ofInt
    (truncate Int64.minValue.toInt Int64.maxValue.toInt x)

/- Numbers in order, with what is no number last. -/
def order
    (x y : Float) : Ordering :=
  compare (BinaryFormat.double.place (bits x))
    (BinaryFormat.double.place (bits y))

/- Two numbers are the same. -/
def same
    (x y : Float) : Bool :=
  BinaryFormat.double.same (bits x) (bits y)

/- The number is zero, of either sign. -/
def isZero
    (x : Float) : Bool :=
  BinaryFormat.double.place (bits x) == 0

/- The exact remainder, with the sign of the dividend. -/
def remainder
    (x y : Float) : Float :=
  ofBits (BinaryFormat.double.remainder (bits x) (bits y))

end Double

------------------------------------------------------------
-- Numbers of 32 Bits
------------------------------------------------------------

namespace Single

/- The number with given bits. -/
def ofBits
    (bits : Nat) : Float32 :=
  Float32.ofBits (UInt32.ofNat bits)

/- The bits of a number. -/
def bits
    (x : Float32) : Nat :=
  x.toBits.toNat

/- What a number stands for. -/
def datum
    (x : Float32) : Datum :=
  BinaryFormat.single.decode (bits x)

/- The number nearest to a datum. -/
def ofDatum
    (d : Datum) : Float32 :=
  ofBits (BinaryFormat.single.ofDatum d)

/- The number nearest to a whole number. -/
def ofInt
    (n : Int) : Float32 :=
  ofBits (BinaryFormat.single.ofInt n)

/- The number nearest to one of 64 bits. -/
def ofDouble
    (x : Float) : Float32 :=
  ofDatum (Double.datum x)

/- Numbers in order, with what is no number last. -/
def order
    (x y : Float32) : Ordering :=
  compare (BinaryFormat.single.place (bits x))
    (BinaryFormat.single.place (bits y))

/- Two numbers are the same. -/
def same
    (x y : Float32) : Bool :=
  BinaryFormat.single.same (bits x) (bits y)

/- The exact remainder, with the sign of the dividend. -/
def remainder
    (x y : Float32) : Float32 :=
  ofBits (BinaryFormat.single.remainder (bits x) (bits y))

end Single

/- The number of 64 bits that one of 32 bits stands for. -/
def Double.ofSingle
    (x : Float32) : Float :=
  Double.ofDatum (Single.datum x)

end Formula
