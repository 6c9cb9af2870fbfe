import Formula.Operator.Kind
import Formula.Policy.Basic

/-
  The meaning of every operator, under a policy.

  Key definitions include:
    * `Policy.applyUnary`
    * `Policy.applyBinary`
-/

namespace Formula

/- The opposite truth; any other value stays. -/
def invertTruth : Value → Value
  | .boolean b => .boolean (!b)
  | v => v

namespace Policy

/- Apply an operator to its operand. -/
def applyUnary
    (p : Policy)
    (op : UnaryOp)
    (operand : Value) : Outcome Value :=
  match op with
  | .negate => p.negate operand
  | .not => p.complement operand
  | .isNull => .ok (.boolean operand.isNull)
  | .isNotNull => .ok (.boolean (!operand.isNull))

/-
  Apply an operator to its operands.  Membership takes the
  collection on the right.  What a policy has no operator for
  is the opposite of what it has one for.
-/
def applyBinary
    (p : Policy)
    (op : BinaryOp)
    (lhs rhs : Value) : Outcome Value :=
  match op with
  | .and => p.and lhs rhs
  | .or => p.or lhs rhs
  | .xor => p.xor lhs rhs
  | .add => p.add lhs rhs
  | .sub => p.sub lhs rhs
  | .mul => p.mul lhs rhs
  | .div => p.div lhs rhs
  | .rem => p.rem lhs rhs
  | .pow => p.pow lhs rhs
  | .shiftLeft => p.shiftLeft lhs rhs
  | .shiftRight => p.shiftRight lhs rhs
  | .equal => p.equal lhs rhs
  | .notEqual => p.notEqual lhs rhs
  | .more => p.more lhs rhs
  | .less => p.less lhs rhs
  | .moreOrEqual => p.moreOrEqual lhs rhs
  | .lessOrEqual => p.lessOrEqual lhs rhs
  | .isIn => p.isIn rhs lhs
  | .isNotIn => (p.isIn rhs lhs).map invertTruth
  | .like => p.like lhs rhs
  | .notLike => (p.like lhs rhs).map invertTruth
  | .element => p.element lhs rhs

end Policy

end Formula
