/-
  How many arguments a function takes.

  Key definitions include:
    * `Arity`
    * `Arity.allows`
    * `Arity.text`
-/

namespace Formula

/- The numbers of arguments that a function takes. -/
inductive Arity where
  | exactly (n : Nat)
  | atLeast (n : Nat)
  | between (low high : Nat)
  | oneOf (numbers : List Nat)
  | any
deriving DecidableEq, Repr

namespace Arity

/- A number of arguments is allowed. -/
def allows
    (a : Arity)
    (count : Nat) : Bool :=
  match a with
  | .exactly n => count == n
  | .atLeast n => n ≤ count
  | .between low high => low ≤ count && count ≤ high
  | .oneOf numbers => numbers.contains count
  | .any => true

/- Alternatives as they are listed, the last after "or". -/
def alternatives : List Nat → String
  | [] => ""
  | [n] => n.repr
  | [n, last] => n.repr ++ " or " ++ last.repr
  | n :: rest => n.repr ++ ", " ++ alternatives rest

/- An arity as it is worded in messages. -/
def text : Arity → String
  | .exactly n => n.repr
  | .atLeast n => n.repr ++ " or more"
  | .between low high => low.repr ++ " to " ++ high.repr
  | .oneOf numbers => alternatives numbers
  | .any => "any number"

end Arity

end Formula
