import Formula.Text.Position
import Formula.Value.Basic

/-
  What can go wrong while an expression is evaluated.

  A failure has a cause and, once it is known which operation
  failed, the position of that operation in the source.  The
  first position stays.

  Key definitions include:
    * `Cause`
    * `Failure`
    * `Failure.locate`
    * `Failure.message`
-/

namespace Formula

/- The causes of failures. -/
inductive Cause where
  | variableNotFound (name : String)
  | functionNotFound (name : String)
  | wrongParameterCount (expected : String) (found : Nat)
  | unsupported
      (operator : String)
      (lhs : ValueType)
      (rhs : Option ValueType)
  | noConversion (source target : ValueType)
  | calculation (message : String)
  | divisionByZero
  | indexOutOfBounds (index : Int) (length : Nat)
  | internal (message : String)
deriving DecidableEq

/- A failure and the place of the operation that failed. -/
structure Failure where
  cause : Cause
  position : Option Position
deriving DecidableEq

namespace Cause

/- A failure of which no place is known yet. -/
def unplaced
    (c : Cause) : Failure :=
  ⟨c, none⟩

/- The wording of a cause. -/
def message : Cause → String
  | .variableNotFound name =>
      "Variable '" ++ name ++ "' was not found"
  | .functionNotFound name =>
      "Function '" ++ name ++ "' was not found"
  | .wrongParameterCount expected found =>
      "Wrong number of parameters: expected " ++ expected ++
        ", found " ++ found.repr
  | .unsupported operator lhs rhs =>
      "Operation " ++ operator ++ " is not supported for " ++
        lhs.name ++
        match rhs with
        | none => ""
        | some t => " and " ++ t.name
  | .noConversion source target =>
      "Conversion from " ++ source.name ++ " to " ++
        target.name ++ " is not supported"
  | .calculation message =>
      "Calculation failed: " ++ message
  | .divisionByZero => "Division by zero"
  | .indexOutOfBounds index length =>
      "Index " ++ toString index ++
        " is out of bounds for length " ++ length.repr
  | .internal message => "Internal error: " ++ message

end Cause

namespace Failure

/- Give a failure a place, unless it has one. -/
def locate
    (f : Failure)
    (p : Position) : Failure :=
  ⟨f.cause, f.position.or (some p)⟩

/- The message of a failure. -/
def message
    (f : Failure) : String :=
  f.cause.message ++ (f.position.map Position.phrase).getD ""

end Failure

/- The outcome of an operation on values. -/
abbrev Outcome (α : Type) :=
  Except Failure α

end Formula
