import Formula.Policy.Basic

/-
  Functions that expressions may call.

  A function may fail, and it may break down, which is a
  failure of the calculation too.

  Key definitions include:
    * `CallError`
    * `CallError.failure`
    * `Function`
    * `Function.call`
-/

namespace Formula

/- Why a call gives no value. -/
inductive CallError where
  | failed (failure : Failure)
  | brokeDown (reason : Option String)
deriving DecidableEq

/- What a failed call means for the calculation. -/
def CallError.failure : CallError → Failure
  | .failed f => f
  | .brokeDown reason =>
      (Cause.calculation
        (reason.getD "the function panicked")).unplaced

/- What a call gives. -/
abbrev CallResult :=
  Except CallError Value

/- A function, which may use the policy in force. -/
abbrev Function :=
  List Value → Policy → CallResult

/- Call a function. -/
def Function.call
    (f : Function)
    (args : List Value)
    (p : Policy) : Outcome Value :=
  (f args p).mapError CallError.failure

/- An operation on values, as part of a function. -/
def Outcome.toCall
    (r : Outcome α) : Except CallError α :=
  r.mapError .failed

end Formula
