import Formula.Operator.Arithmetic

/-
  Equality and order of values.

  The right operand is converted to the type of the left one.
  Null equals null and nothing else; in the orderings a null
  operand makes the result null.  Instants are compared
  wherever they are shown.

  Key definitions include:
    * `Conversion.areEqual`
    * `Conversion.equal`
    * `Conversion.compare`
    * `Conversion.less`
-/

namespace Formula

namespace Conversion

------------------------------------------------------------
-- Equality
------------------------------------------------------------

/-
  Equality of two values of one type, arrays apart.  An object
  is compared with whatever an operand is converted to.
-/
def equalSame? : Value → Value → Option Bool
  | .integer a, .integer b => some (a == b)
  | .long a, .long b => some (a == b)
  | .float a, .float b => some (Single.same a b)
  | .double a, .double b => some (Double.same a b)
  | .string a, .string b => some (a == b)
  | .boolean a, .boolean b => some (a == b)
  | .dateTime a, .dateTime b => some (a.instant == b.instant)
  | .timeSpan a, .timeSpan b => some (a.nanos == b.nanos)
  | .object a, .object b => some (a == b)
  | .object _, _ => some false
  | _, _ => none

mutual

/- Two values are equal, for an operator named `symbol`. -/
def areEqual
    (c : Conversion)
    (symbol : String) : Value → Value → Outcome Bool
  | .null, rhs => .ok rhs.isNull
  | .array as, rhs =>
      if rhs.isNull then .ok false
      else do
        match ← c.convert rhs .array with
        | .array bs =>
            if as.length = bs.length then
              c.itemsEqual symbol as bs
            else .ok false
        | _ => .error (unsupported symbol (.array as) rhs)
  | lhs, rhs =>
      if rhs.isNull then .ok false
      else do
        match equalSame? lhs (← c.convert rhs lhs.type) with
        | some b => .ok b
        | none => .error (unsupported symbol lhs rhs)

/- Items of two lists are equal, up to the first that differ. -/
def itemsEqual
    (c : Conversion)
    (symbol : String) :
    List Value → List Value → Outcome Bool
  | a :: as, b :: bs => do
      if ← c.areEqual symbol a b then
        c.itemsEqual symbol as bs
      else .ok false
  | _, _ => .ok true

end

/- The operands are equal. -/
def equal
    (c : Conversion)
    (lhs rhs : Value) : Outcome Value :=
  (c.areEqual "=" lhs rhs).map .boolean

/- The operands differ. -/
def notEqual
    (c : Conversion)
    (lhs rhs : Value) : Outcome Value :=
  (c.areEqual "<>" lhs rhs).map fun b => .boolean (!b)

------------------------------------------------------------
-- Order
------------------------------------------------------------

/- The order of two values of one type that has an order. -/
def orderSame? : Value → Value → Option Ordering
  | .integer a, .integer b =>
      some (Ord.compare a.toInt b.toInt)
  | .long a, .long b => some (Ord.compare a.toInt b.toInt)
  | .float a, .float b => some (Single.order a b)
  | .double a, .double b => some (Double.order a b)
  | .string a, .string b => some (Ord.compare a b)
  | .boolean a, .boolean b => some (Ord.compare a b)
  | .dateTime a, .dateTime b =>
      some (Ord.compare a.instant b.instant)
  | .timeSpan a, .timeSpan b =>
      some (Ord.compare a.nanos b.nanos)
  | _, _ => none

/-
  The order of two values, for an operator named `symbol`, or
  nothing when an operand is null.
-/
def compare
    (c : Conversion)
    (symbol : String)
    (lhs rhs : Value) : Outcome (Option Ordering) := do
  match ← c.align lhs rhs with
  | none => .ok none
  | some right =>
      match orderSame? lhs right with
      | some o => .ok (some o)
      | none => .error (unsupported symbol lhs rhs)

/- The order of two values passes a test. -/
def ordered
    (c : Conversion)
    (symbol : String)
    (lhs rhs : Value)
    (test : Ordering → Bool) : Outcome Value :=
  (c.compare symbol lhs rhs).map fun o =>
    (o.map fun o => Value.boolean (test o)).getD .null

/- The left operand comes after the right one. -/
def more
    (c : Conversion)
    (lhs rhs : Value) : Outcome Value :=
  c.ordered ">" lhs rhs Ordering.isGT

/- The left operand comes before the right one. -/
def less
    (c : Conversion)
    (lhs rhs : Value) : Outcome Value :=
  c.ordered "<" lhs rhs Ordering.isLT

/- The left operand does not come before the right one. -/
def moreOrEqual
    (c : Conversion)
    (lhs rhs : Value) : Outcome Value :=
  c.ordered ">=" lhs rhs Ordering.isGE

/- The left operand does not come after the right one. -/
def lessOrEqual
    (c : Conversion)
    (lhs rhs : Value) : Outcome Value :=
  c.ordered "<=" lhs rhs Ordering.isLE

end Conversion

end Formula
