import Formula.Failure

/-
  Stacks of values.

  Key definitions include:
    * `ValueStack`
    * `ValueStack.pop`
    * `ValueStack.popMany`
-/

namespace Formula

/- A stack of values, the latest first. -/
abbrev ValueStack :=
  List Value

namespace ValueStack

/- The failure to take a value from too small a stack. -/
def underflow : Failure :=
  (Cause.internal "the value stack is empty").unplaced

/- Put a value on a stack. -/
def push
    (s : ValueStack)
    (v : Value) : ValueStack :=
  v :: s

/- Take the latest value. -/
def pop
    (s : ValueStack) : Outcome (Value × ValueStack) :=
  match s with
  | [] => .error underflow
  | v :: rest => .ok (v, rest)

/- Take the latest `n` values, in the order they came in. -/
def popMany
    (s : ValueStack)
    (n : Nat) : Outcome (List Value × ValueStack) :=
  if n ≤ s.length then .ok ((s.take n).reverse, s.drop n)
  else .error underflow

end ValueStack

end Formula
