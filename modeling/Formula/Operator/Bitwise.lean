import Formula.Operator.Arithmetic

/-
  Operators on truth values and on the bits of whole numbers.

  The logical operators work bit by bit on whole numbers.  A
  shift takes its count from the low bits of the right
  operand: the count of a number of `w` bits is taken modulo
  `w`, so a count below zero shifts too.

  Key definitions include:
    * `Conversion.and`
    * `Conversion.or`
    * `Conversion.xor`
    * `complement`
    * `Conversion.shiftLeft`
    * `Conversion.shiftRight`
-/

namespace Formula

namespace Conversion

------------------------------------------------------------
-- Logic
------------------------------------------------------------

/- Both of two values of one type. -/
def andSame : Value → Value → Option (Outcome Value)
  | .integer a, .integer b => some (.ok (.integer (a &&& b)))
  | .long a, .long b => some (.ok (.long (a &&& b)))
  | .boolean a, .boolean b => some (.ok (.boolean (a && b)))
  | _, _ => none

/- Both of two values. -/
def and
    (c : Conversion)
    (lhs rhs : Value) : Outcome Value :=
  c.aligned "AND" lhs rhs andSame

/- One of two values of one type at least. -/
def orSame : Value → Value → Option (Outcome Value)
  | .integer a, .integer b => some (.ok (.integer (a ||| b)))
  | .long a, .long b => some (.ok (.long (a ||| b)))
  | .boolean a, .boolean b => some (.ok (.boolean (a || b)))
  | _, _ => none

/- One of two values at least. -/
def or
    (c : Conversion)
    (lhs rhs : Value) : Outcome Value :=
  c.aligned "OR" lhs rhs orSame

/- Just one of two values of one type. -/
def xorSame : Value → Value → Option (Outcome Value)
  | .integer a, .integer b => some (.ok (.integer (a ^^^ b)))
  | .long a, .long b => some (.ok (.long (a ^^^ b)))
  | .boolean a, .boolean b => some (.ok (.boolean (a != b)))
  | _, _ => none

/- Just one of two values. -/
def xor
    (c : Conversion)
    (lhs rhs : Value) : Outcome Value :=
  c.aligned "XOR" lhs rhs xorSame

------------------------------------------------------------
-- Shifts
------------------------------------------------------------

/- The count of a shift, or nothing when an operand is null. -/
def shiftCount
    (c : Conversion)
    (lhs count : Value) : Outcome (Option Int32) := do
  if lhs.isNull || count.isNull then .ok none
  else
    match ← c.convert count .integer with
    | .integer n => .ok (some n)
    | other => .error (noConversion other.type .integer)

/- Shift the bits of a whole number up. -/
def shiftLeft
    (c : Conversion)
    (lhs rhs : Value) : Outcome Value := do
  match ← c.shiftCount lhs rhs with
  | none => .ok .null
  | some count =>
      match lhs with
      | .integer n => .ok (.integer (n <<< count))
      | .long n => .ok (.long (n <<< count.toInt64))
      | _ => .error (unsupported "<<" lhs rhs)

/- Shift the bits of a whole number down, keeping its sign. -/
def shiftRight
    (c : Conversion)
    (lhs rhs : Value) : Outcome Value := do
  match ← c.shiftCount lhs rhs with
  | none => .ok .null
  | some count =>
      match lhs with
      | .integer n => .ok (.integer (n >>> count))
      | .long n => .ok (.long (n >>> count.toInt64))
      | _ => .error (unsupported ">>" lhs rhs)

end Conversion

------------------------------------------------------------
-- Complement
------------------------------------------------------------

/- The opposite truth, or the opposite bits; null counts as false. -/
def complement : Value → Outcome Value
  | .null => .ok (.boolean true)
  | .integer n => .ok (.integer (~~~n))
  | .long n => .ok (.long (~~~n))
  | .boolean b => .ok (.boolean (!b))
  | v => .error (unsupportedOperand "NOT" v)

end Formula
