import Formula.Program.Basic

/-
  Expressions as trees.

  Every node has the position of the lexeme that decides what
  it is: of its operator, or of the name that is called.  The
  postfix form of a tree has operands before their operator; a
  call is written as its arguments, then their number, then the
  function.

  Key definitions include:
    * `maxCount`
    * `Expr`
    * `Expr.names`
    * `Expr.postfixForm`
    * `Program.ofExpr`
-/

namespace Formula

------------------------------------------------------------
-- Trees
------------------------------------------------------------

/- The largest number that arguments can be counted to. -/
def maxCount : Nat :=
  2147483647

/- An expression. -/
inductive Expr where
  | constant
      (value : Value)
      (position : Position)
  | reference
      (name : String)
      (position : Position)
  | call
      (name : String)
      (arguments : List Expr)
      (position : Position)
  | unary
      (op : UnaryOp)
      (operand : Expr)
      (position : Position)
  | binary
      (op : BinaryOp)
      (lhs rhs : Expr)
      (position : Position)

namespace Expr

instance : Inhabited Expr :=
  ⟨.constant .null .start⟩

mutual

/- The variables of an expression, in order of appearance. -/
def names : Expr → List String
  | .constant _ _ => []
  | .reference name _ => [name]
  | .call _ arguments _ => namesOfAll arguments
  | .unary _ operand _ => names operand
  | .binary _ lhs rhs _ => names lhs ++ names rhs

/- The variables of several expressions. -/
def namesOfAll : List Expr → List String
  | [] => []
  | e :: es => names e ++ namesOfAll es

end

------------------------------------------------------------
-- Postfix Form
------------------------------------------------------------

mutual

/- The instructions that compute an expression. -/
def postfixForm : Expr → List Instruction
  | .constant v p => [.constant v p]
  | .reference name p => [.reference name p]
  | .call name args p =>
      postfixForms args ++
        [ .constant (.integer (Int32.ofNat args.length)) p,
          .call name p ]
  | .unary op e p => postfixForm e ++ [.unary op p]
  | .binary op lhs rhs p =>
      postfixForm lhs ++ postfixForm rhs ++ [.binary op p]

/- The instructions that compute several expressions. -/
def postfixForms : List Expr → List Instruction
  | [] => []
  | e :: es => postfixForm e ++ postfixForms es

end

end Expr

/- The program that computes an expression. -/
def Program.ofExpr
    (e : Expr) : Program :=
  ⟨e.postfixForm, e.names.eraseDups⟩

end Formula
