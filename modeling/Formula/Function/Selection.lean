import Formula.Function.Argument
import Formula.Operator.Arithmetic
import Formula.Operator.Comparison

/-
  Functions that choose among values or gather them.

  Key definitions include:
    * `Function.min`
    * `Function.max`
    * `Function.sum`
    * `Function.choose`
    * `Function.contains`
-/

namespace Formula

------------------------------------------------------------
-- Texts Within Texts
------------------------------------------------------------

/- A text occurs within another one. -/
def occursIn
    (part : List Char) : List Char → Bool
  | [] => part.isEmpty
  | c :: rest =>
      part.isPrefixOf (c :: rest) || occursIn part rest

namespace Function

------------------------------------------------------------
-- Extremes and Sums
------------------------------------------------------------

/-
  The argument that none of those behind it beats.  Only a
  comparison that holds counts.
-/
def extreme
    (beaten : Policy → Value → Value → Outcome Value) :
    Function :=
  fun args p => do
    let first ← argument args 0
    Outcome.toCall <| args.tail.foldlM
      (fun best v => do
        if (← beaten p best v).isTrue then .ok v
        else .ok best)
      first

/- The least argument. -/
def min : Function :=
  extreme Policy.more

/- The greatest argument. -/
def max : Function :=
  extreme Policy.less

/- The arguments added up from the left. -/
def sum : Function :=
  fun args p => do
    let first ← argument args 0
    (args.tail.foldlM p.add first).toCall

------------------------------------------------------------
-- Choices
------------------------------------------------------------

/- One of two arguments, depending on the first one. -/
def choice : Function :=
  fun args p => do
    let condition ←
      (p.toBoolean (← argument args 0)).toCall
    argument args (if condition then 1 else 2)

/- The argument with the number that comes first. -/
def choose : Function :=
  fun args p => do
    let index ← (p.toInteger (← argument args 0)).toCall
    let i := index.toInt
    let chosen := if 1 ≤ i then args[i.toNat]? else none
    match chosen with
    | some v => .ok v
    | none =>
        .error (.failed (Cause.wrongParameterCount
          ("at least " ++ toString (i + 1))
          args.length).unplaced)

------------------------------------------------------------
-- Contents
------------------------------------------------------------

/- A value has no content. -/
def isEmpty : Function :=
  fun args _ => do
    .ok (.boolean (← argument args 0).isEmpty)

/- A text that is not empty contains another one. -/
def contains : Function :=
  fun args p => do
    let whole ← argument args 0
    if whole.isEmpty then .ok (.boolean false)
    else do
      let whole ← (p.toText whole).toCall
      let part ← (p.toText (← argument args 1)).toCall
      .ok (.boolean
        (!whole.isEmpty && occursIn part.toList whole.toList))

/- All arguments together. -/
def array : Function :=
  fun args _ => .ok (.array args)

/- The same value, whatever the arguments are. -/
def always
    (v : Value) : Function :=
  fun _ _ => .ok v

end Function

end Formula
