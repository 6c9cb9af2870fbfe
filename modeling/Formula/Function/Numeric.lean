import Formula.Function.Argument

/-
  Functions on numbers.

  Key definitions include:
    * `Function.real`
    * `Function.abs`
    * `Function.trunc`
-/

namespace Formula

namespace Function

/- A function of one floating-point number. -/
def real
    (f : Float → Float) : Function :=
  fun args p => do
    let x ← (p.toDouble (← argument args 0)).toCall
    .ok (.double (f x))

/-
  The absolute value, in the type of the number.  That of the
  least whole number is itself.
-/
def abs : Function :=
  fun args p => do
    match ← argument args 0 with
    | .integer n => .ok (.integer n.abs)
    | .long n => .ok (.long n.abs)
    | .float x => .ok (.float x.abs)
    | v =>
        let x ← (p.toDouble v).toCall
        .ok (.double x.abs)

/- The whole number next to a number toward zero. -/
def trunc : Function :=
  fun args p => do
    let x ← (p.toDouble (← argument args 0)).toCall
    .ok (.long (Double.toInt64 x))

end Function

end Formula
