import Formula.Numeral.Double

/-
  Numbers read from text.

  A whole number is digits after an optional sign.  A decimal
  number may have a point, with digits on one side of it at
  least, and an exponent; `inf`, `infinity` and `nan` in any
  case are numbers too.

  Key definitions include:
    * `readInt?`
    * `readInt32?`
    * `readInt64?`
    * `Decimal`
    * `Decimal.read?`
    * `Double.read?`
    * `Single.read?`
-/

namespace Formula

------------------------------------------------------------
-- Digits and Signs
------------------------------------------------------------

/- A decimal digit of ASCII. -/
def isDigit
    (c : Char) : Bool :=
  '0' ≤ c && c ≤ '9'

/- The value of a run of digits. -/
def digitsValue
    (digits : List Char) : Nat :=
  digits.foldl
    (fun n c => 10 * n + (c.toNat - '0'.toNat)) 0

/- Split off a sign; true stands for minus. -/
def splitSign : List Char → Bool × List Char
  | '+' :: rest => (false, rest)
  | '-' :: rest => (true, rest)
  | s => (false, s)

------------------------------------------------------------
-- Whole Numbers
------------------------------------------------------------

/- Read a whole number. -/
def readInt?
    (s : List Char) : Option Int :=
  let (negative, digits) := splitSign s
  if !digits.isEmpty && digits.all isDigit then
    let n : Int := digitsValue digits
    some (if negative then -n else n)
  else none

/- A whole number as one of 32 bits, if it fits. -/
def fitInt32?
    (n : Int) : Option Int32 :=
  if Int32.minValue.toInt ≤ n ∧ n ≤ Int32.maxValue.toInt
  then some (Int32.ofInt n) else none

/- A whole number as one of 64 bits, if it fits. -/
def fitInt64?
    (n : Int) : Option Int64 :=
  if Int64.minValue.toInt ≤ n ∧ n ≤ Int64.maxValue.toInt
  then some (Int64.ofInt n) else none

/- Read a whole number of 32 bits. -/
def readInt32?
    (s : List Char) : Option Int32 :=
  (readInt? s).bind fitInt32?

/- Read a whole number of 64 bits. -/
def readInt64?
    (s : List Char) : Option Int64 :=
  (readInt? s).bind fitInt64?

------------------------------------------------------------
-- Decimal Numbers
------------------------------------------------------------

/-
  A decimal number: `digits * 10 ^ exponent` with a sign, or
  one of the numbers that have only a name.
-/
inductive Decimal where
  | nan
  | infinite (negative : Bool)
  | finite
      (negative : Bool)
      (digits : Nat)
      (exponent : Int)
deriving DecidableEq

namespace Decimal

/- Read the exponent that ends a number, if there is one. -/
def readExponent? : List Char → Option Int
  | [] => some 0
  | c :: rest =>
      if c = 'e' || c = 'E' then readInt? rest else none

/- Read digits with an optional point and exponent. -/
def readDigits?
    (negative : Bool)
    (s : List Char) : Option Decimal :=
  let whole := s.takeWhile isDigit
  let rest := s.dropWhile isDigit
  let (fraction, rest) := match rest with
    | '.' :: after =>
        (after.takeWhile isDigit, after.dropWhile isDigit)
    | _ => ([], rest)
  if whole.isEmpty && fraction.isEmpty then none
  else
    (readExponent? rest).map fun e =>
      .finite negative (digitsValue (whole ++ fraction))
        (e - fraction.length)

/- The numbers that have only a name. -/
def readName?
    (negative : Bool)
    (s : List Char) : Option Decimal :=
  let name := String.ofList (s.map Char.toLower)
  if name = "inf" || name = "infinity" then
    some (.infinite negative)
  else if name = "nan" then some .nan
  else none

/- Read a decimal number. -/
def read?
    (s : List Char) : Option Decimal :=
  let (negative, rest) := splitSign s
  (readDigits? negative rest).or (readName? negative rest)

/-
  The bits of the nearest binary number.  Magnitudes beyond
  `10 ^ 400` and below `10 ^ -400` are settled without the
  power of ten, for they lie outside every format.
-/
def toBits
    (f : BinaryFormat) : Decimal → Nat
  | .nan => f.nanBits
  | .infinite negative => f.withSign negative f.infinityBits
  | .finite negative digits e =>
      let size : Int := (Nat.toDigits 10 digits).length + e
      if digits = 0 || size < -400 then f.withSign negative 0
      else if 400 < size then
        f.withSign negative f.infinityBits
      else
        f.round negative
          (digits * powerOfTen e.toNat) (powerOfTen (-e).toNat)

end Decimal

/- Read a number of 64 bits. -/
def Double.read?
    (s : List Char) : Option Float :=
  (Decimal.read? s).map fun d =>
    Double.ofBits (d.toBits .double)

/- Read a number of 32 bits. -/
def Single.read?
    (s : List Char) : Option Float32 :=
  (Decimal.read? s).map fun d =>
    Single.ofBits (d.toBits .single)

end Formula
