import Formula.Program.Machine
import Formula.Proofs.Grammar.Expr

/-
  The meaning of expressions, without a machine.

  An expression is evaluated by recursion on the tree.  Every
  operand is evaluated, from left to right, before its operator
  is applied; a function is looked up when its arguments are
  known.  A failure gets the position of the node that fails,
  unless it has one.

  Key definitions include:
    * `BinaryOp.meaning`
    * `Function.meaning`
    * `Expr.value`
    * `Expr.Countable`
-/

namespace Formula

------------------------------------------------------------
-- Operators and Functions
------------------------------------------------------------

/-
  What an operator makes of its operands.  The collection of a
  membership test is the operand on the right.
-/
def BinaryOp.meaning
    (p : Policy) : BinaryOp → Value → Value → Outcome Value
  | .isIn, needle, collection => p.isIn collection needle
  | .isNotIn, needle, collection => do
      .ok (invertTruth (← p.isIn collection needle))
  | op, lhs, rhs => p.applyBinary op lhs rhs

/-
  What a function makes of its arguments.  A breakdown is a
  failed calculation, worded as the breakdown was.
-/
def Function.meaning
    (p : Policy)
    (f : Function)
    (args : List Value) : Outcome Value :=
  match f args p with
  | .ok v => .ok v
  | .error (.failed g) => .error g
  | .error (.brokeDown (some reason)) =>
      .error ⟨.calculation reason, none⟩
  | .error (.brokeDown none) =>
      .error ⟨.calculation "the function panicked", none⟩

------------------------------------------------------------
-- Expressions
------------------------------------------------------------

namespace Expr

mutual

/- The value of an expression. -/
def value
    (env : Environment) : Expr → Outcome Value
  | .constant v _ => .ok v
  | .reference name p =>
      match env.valueOf? name with
      | some v => .ok v
      | none => .error ⟨.variableNotFound name, some p⟩
  | .call name args p => do
      let vs ← values env args
      match env.functionOf? name with
      | some f =>
          (f.meaning env.policy vs).mapError (·.locate p)
      | none => .error ⟨.functionNotFound name, some p⟩
  | .unary op e p => do
      let v ← value env e
      (env.policy.applyUnary op v).mapError (·.locate p)
  | .binary op lhs rhs p => do
      let v ← value env lhs
      let w ← value env rhs
      (op.meaning env.policy v w).mapError (·.locate p)

/- The values of several expressions, from the left. -/
def values
    (env : Environment) : List Expr → Outcome (List Value)
  | [] => .ok []
  | e :: es => do
      let v ← value env e
      let vs ← values env es
      .ok (v :: vs)

end

mutual

/- No call has more arguments than can be counted. -/
def Countable : Expr → Prop
  | .constant _ _ => True
  | .reference _ _ => True
  | .call _ args _ =>
      args.length ≤ maxCount ∧ AllCountable args
  | .unary _ e _ => e.Countable
  | .binary _ lhs rhs _ => lhs.Countable ∧ rhs.Countable

/- No call in several expressions has too many arguments. -/
def AllCountable : List Expr → Prop
  | [] => True
  | e :: es => e.Countable ∧ AllCountable es

end

end Expr

end Formula
