import Formula.Operator.Bitwise
import Formula.Operator.Collection

/-
  The policy with the shared operators.

  A host that says how values convert, and nothing else, gets
  this policy.

  Key definitions include:
    * `Conversion.policy`
-/

namespace Formula

/- The policy that has every shared operator. -/
def Conversion.policy
    (c : Conversion) : Policy where
  toConversion := c
  negate := Formula.negate
  complement := Formula.complement
  add := c.add
  sub := c.sub
  mul := c.mul
  div := c.div
  rem := c.rem
  pow := c.pow
  shiftLeft := c.shiftLeft
  shiftRight := c.shiftRight
  and := c.and
  or := c.or
  xor := c.xor
  equal := c.equal
  notEqual := c.notEqual
  more := c.more
  less := c.less
  moreOrEqual := c.moreOrEqual
  lessOrEqual := c.lessOrEqual
  isIn := c.isIn
  element := c.element
  like := c.like

@[simp] theorem Conversion.policy_toConversion
    (c : Conversion) :
    c.policy.toConversion = c := rfl

end Formula
