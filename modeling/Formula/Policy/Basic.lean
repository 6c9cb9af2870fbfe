import Formula.Failure

/-
  Conversions, and the policies that are built on them.

  A host says which values convert to which types.  Every
  operator is defined once, over the conversions, and a policy
  takes these shared operators unless the host puts one of its
  own in place of one of them.

  Key definitions include:
    * `Conversion`
    * `Conversion.extract`
    * `Conversion.toInteger`
    * `Conversion.toText`
    * `Policy`
-/

namespace Formula

/- A way to convert values. -/
structure Conversion where
  convert : Value → ValueType → Outcome Value

/- The failure to convert between two types. -/
def noConversion
    (source target : ValueType) : Failure :=
  (Cause.noConversion source target).unplaced

/- The failure of an operator on two operands. -/
def unsupported
    (operator : String)
    (lhs rhs : Value) : Failure :=
  (Cause.unsupported operator lhs.type (some rhs.type)).unplaced

/- The failure of an operator on its only operand. -/
def unsupportedOperand
    (operator : String)
    (operand : Value) : Failure :=
  (Cause.unsupported operator operand.type none).unplaced

namespace Conversion

------------------------------------------------------------
-- Typed Arguments
------------------------------------------------------------

/-
  Convert a value and take its payload.  A conversion may leave
  a value as it is; then the value does not convert.
-/
def extract
    (c : Conversion)
    (v : Value)
    (target : ValueType)
    (payload : Value → Option α) : Outcome α := do
  match payload (← c.convert v target) with
  | some a => .ok a
  | none => .error (noConversion v.type target)

/- A value as a number of 32 bits. -/
def toInteger
    (c : Conversion)
    (v : Value) : Outcome Int32 :=
  c.extract v .integer Value.integer?

/- A value as a number of 64 bits. -/
def toLong
    (c : Conversion)
    (v : Value) : Outcome Int64 :=
  c.extract v .long Value.long?

/- A value as a floating-point number. -/
def toDouble
    (c : Conversion)
    (v : Value) : Outcome Float :=
  c.extract v .double Value.double?

/- A value as a truth value. -/
def toBoolean
    (c : Conversion)
    (v : Value) : Outcome Bool :=
  c.extract v .boolean Value.boolean?

/- A value as a text. -/
def toText
    (c : Conversion)
    (v : Value) : Outcome String :=
  c.extract v .string Value.string?

/- A value as a timestamp. -/
def toTimestamp
    (c : Conversion)
    (v : Value) : Outcome Timestamp :=
  c.extract v .dateTime Value.dateTime?

end Conversion

------------------------------------------------------------
-- Policies
------------------------------------------------------------

/-
  What an expression is evaluated by: the conversions, and the
  operators on one and on two values.
-/
structure Policy extends Conversion where
  negate : Value → Outcome Value
  complement : Value → Outcome Value
  add : Value → Value → Outcome Value
  sub : Value → Value → Outcome Value
  mul : Value → Value → Outcome Value
  div : Value → Value → Outcome Value
  rem : Value → Value → Outcome Value
  pow : Value → Value → Outcome Value
  shiftLeft : Value → Value → Outcome Value
  shiftRight : Value → Value → Outcome Value
  and : Value → Value → Outcome Value
  or : Value → Value → Outcome Value
  xor : Value → Value → Outcome Value
  equal : Value → Value → Outcome Value
  notEqual : Value → Value → Outcome Value
  more : Value → Value → Outcome Value
  less : Value → Value → Outcome Value
  moreOrEqual : Value → Value → Outcome Value
  lessOrEqual : Value → Value → Outcome Value
  isIn : Value → Value → Outcome Value
  element : Value → Value → Outcome Value
  like : Value → Value → Outcome Value

end Formula
