/-
  The operators of the expression language.

  Key definitions include:
    * `UnaryOp`
    * `BinaryOp`
-/

namespace Formula

/- The operators with one operand. -/
inductive UnaryOp where
  | negate
  | not
  | isNull
  | isNotNull
deriving DecidableEq, Repr

/- The operators with two operands. -/
inductive BinaryOp where
  | and
  | or
  | xor
  | add
  | sub
  | mul
  | div
  | rem
  | pow
  | shiftLeft
  | shiftRight
  | equal
  | notEqual
  | more
  | less
  | moreOrEqual
  | lessOrEqual
  | isIn
  | isNotIn
  | like
  | notLike
  | element
deriving DecidableEq, Repr

namespace UnaryOp

/- The spelling of an operator. -/
def symbol : UnaryOp → String
  | .negate => "-"
  | .not => "NOT"
  | .isNull => "IS NULL"
  | .isNotNull => "IS NOT NULL"

end UnaryOp

namespace BinaryOp

/- The spelling of an operator. -/
def symbol : BinaryOp → String
  | .and => "AND"
  | .or => "OR"
  | .xor => "XOR"
  | .add => "+"
  | .sub => "-"
  | .mul => "*"
  | .div => "/"
  | .rem => "%"
  | .pow => "^"
  | .shiftLeft => "<<"
  | .shiftRight => ">>"
  | .equal => "="
  | .notEqual => "<>"
  | .more => ">"
  | .less => "<"
  | .moreOrEqual => ">="
  | .lessOrEqual => "<="
  | .isIn => "IN"
  | .isNotIn => "NOT IN"
  | .like => "LIKE"
  | .notLike => "NOT LIKE"
  | .element => "[]"

end BinaryOp

end Formula
