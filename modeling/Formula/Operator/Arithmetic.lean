import Formula.Policy.Basic

/-
  Arithmetic on values.

  The right operand is converted to the type of the left one.
  Whole numbers wrap around at their width; a null operand
  makes the result null.  A timestamp is moved by a span as it
  is, without conversion.

  Key definitions include:
    * `Conversion.align`
    * `Conversion.add`
    * `Conversion.sub`
    * `Conversion.mul`
    * `Conversion.div`
    * `Conversion.rem`
    * `Conversion.pow`
    * `negate`
-/

namespace Formula

/- A division of whole numbers by zero. -/
def divisionByZero : Failure :=
  Cause.divisionByZero.unplaced

/- A timestamp that leaves the calendar. -/
def timestampOutOfRange : Failure :=
  (Cause.calculation "timestamp is out of range").unplaced

/- The outcome of moving a timestamp. -/
def movedTo : Option Timestamp → Outcome Value
  | some t => .ok (.dateTime t)
  | none => .error timestampOutOfRange

namespace Conversion

/-
  The right operand in the type of the left one, or nothing
  when an operand is null.
-/
def align
    (c : Conversion)
    (lhs rhs : Value) : Outcome (Option Value) :=
  if lhs.isNull || rhs.isNull then .ok none
  else (c.convert rhs lhs.type).map some

/-
  Apply an operator to operands of one type, after the right
  one has been converted.
-/
def aligned
    (c : Conversion)
    (symbol : String)
    (lhs rhs : Value)
    (apply : Value → Value → Option (Outcome Value)) :
    Outcome Value := do
  match ← c.align lhs rhs with
  | none => .ok .null
  | some right =>
      match apply lhs right with
      | some result => result
      | none => .error (unsupported symbol lhs rhs)

------------------------------------------------------------
-- Addition and Subtraction
------------------------------------------------------------

/- The sum of two values of one type. -/
def addSame : Value → Value → Option (Outcome Value)
  | .integer a, .integer b => some (.ok (.integer (a + b)))
  | .long a, .long b => some (.ok (.long (a + b)))
  | .float a, .float b => some (.ok (.float (a + b)))
  | .double a, .double b => some (.ok (.double (a + b)))
  | .timeSpan a, .timeSpan b =>
      some (.ok (.timeSpan (a.add b)))
  | .string a, .string b => some (.ok (.string (a ++ b)))
  | _, _ => none

/- The sum of two values. -/
def add
    (c : Conversion)
    (lhs rhs : Value) : Outcome Value :=
  match lhs, rhs with
  | .dateTime t, .timeSpan s => movedTo (t.add? s)
  | _, _ => c.aligned "+" lhs rhs addSame

/- The difference of two values of one type. -/
def subSame : Value → Value → Option (Outcome Value)
  | .integer a, .integer b => some (.ok (.integer (a - b)))
  | .long a, .long b => some (.ok (.long (a - b)))
  | .float a, .float b => some (.ok (.float (a - b)))
  | .double a, .double b => some (.ok (.double (a - b)))
  | .timeSpan a, .timeSpan b =>
      some (.ok (.timeSpan (a.sub b)))
  | .dateTime a, .dateTime b =>
      some (.ok (.timeSpan (a.since b)))
  | _, _ => none

/- The difference of two values. -/
def sub
    (c : Conversion)
    (lhs rhs : Value) : Outcome Value :=
  match lhs, rhs with
  | .dateTime t, .timeSpan s => movedTo (t.sub? s)
  | _, _ => c.aligned "-" lhs rhs subSame

------------------------------------------------------------
-- Multiplication and Division
------------------------------------------------------------

/- The product of two numbers of one type. -/
def mulSame : Value → Value → Option (Outcome Value)
  | .integer a, .integer b => some (.ok (.integer (a * b)))
  | .long a, .long b => some (.ok (.long (a * b)))
  | .float a, .float b => some (.ok (.float (a * b)))
  | .double a, .double b => some (.ok (.double (a * b)))
  | _, _ => none

/- The product of two values. -/
def mul
    (c : Conversion)
    (lhs rhs : Value) : Outcome Value :=
  c.aligned "*" lhs rhs mulSame

/-
  The quotient of two numbers of one type, whole numbers
  toward zero.
-/
def divSame : Value → Value → Option (Outcome Value)
  | .integer a, .integer b => some
      (if b = 0 then .error divisionByZero
        else .ok (.integer (a / b)))
  | .long a, .long b => some
      (if b = 0 then .error divisionByZero
        else .ok (.long (a / b)))
  | .float a, .float b => some (.ok (.float (a / b)))
  | .double a, .double b => some (.ok (.double (a / b)))
  | _, _ => none

/- The quotient of two values. -/
def div
    (c : Conversion)
    (lhs rhs : Value) : Outcome Value :=
  c.aligned "/" lhs rhs divSame

/-
  The remainder of two numbers of one type, with the sign of
  the dividend.
-/
def remSame : Value → Value → Option (Outcome Value)
  | .integer a, .integer b => some
      (if b = 0 then .error divisionByZero
        else .ok (.integer (a % b)))
  | .long a, .long b => some
      (if b = 0 then .error divisionByZero
        else .ok (.long (a % b)))
  | .float a, .float b =>
      some (.ok (.float (Single.remainder a b)))
  | .double a, .double b =>
      some (.ok (.double (Double.remainder a b)))
  | _, _ => none

/- The remainder of two values. -/
def rem
    (c : Conversion)
    (lhs rhs : Value) : Outcome Value :=
  c.aligned "%" lhs rhs remSame

------------------------------------------------------------
-- Powers
------------------------------------------------------------

/-
  The power of a number.  Both operands are taken as floating
  point numbers, whatever the type of the base.
-/
def pow
    (c : Conversion)
    (lhs rhs : Value) : Outcome Value :=
  if lhs.isNull || rhs.isNull then .ok .null
  else if !lhs.type.isNumeric then
    .error (unsupported "^" lhs rhs)
  else do
    let base ← c.convert lhs .double
    let exponent ← c.convert rhs .double
    match base, exponent with
    | .double b, .double e => .ok (.double (Float.pow b e))
    | _, _ => .error (unsupported "^" lhs rhs)

end Conversion

------------------------------------------------------------
-- Negation
------------------------------------------------------------

/- The value on the other side of zero. -/
def negate : Value → Outcome Value
  | .null => .ok .null
  | .integer n => .ok (.integer (-n))
  | .long n => .ok (.long (-n))
  | .float x => .ok (.float (-x))
  | .double x => .ok (.double (-x))
  | .timeSpan s => .ok (.timeSpan s.neg)
  | v => .error (unsupportedOperand "-" v)

end Formula
