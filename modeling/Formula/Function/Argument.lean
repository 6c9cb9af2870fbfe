import Formula.Function.Basic

/-
  The arguments of a call.

  Key definitions include:
    * `argument`
-/

namespace Formula

/-
  The argument with a number, counted from zero.  A call
  without it breaks down.
-/
def argument
    (args : List Value)
    (i : Nat) : CallResult :=
  match args[i]? with
  | some v => .ok v
  | none =>
      .error (.brokeDown (some
        ("index out of bounds: the len is " ++
          args.length.repr ++ " but the index is " ++ i.repr)))

end Formula
