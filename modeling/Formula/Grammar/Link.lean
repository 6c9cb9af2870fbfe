import Formula.Grammar.Lexeme
import Formula.Operator.Kind

/-
  What carries an expression on.

  The operators of every level are read from the marks in front
  of which an operand ends.

  Key definitions include:
    * `Link`
    * `Linker`
    * `Linker.sum`
-/

namespace Formula

/-
  What carries an expression on: an operator that joins it to
  another operand, or a test that ends with the lexemes read.
-/
inductive Link where
  | join (op : BinaryOp)
  | test (op : UnaryOp)
deriving DecidableEq, Repr

/- A reader of links gives the position of what it read. -/
abbrev Linker :=
  List Lexeme → Option (Link × Position × List Lexeme)

namespace Linker

/- A linker of joining operators that are single marks. -/
def joins
    (op? : Mark → Option BinaryOp) : Linker
  | [] => none
  | l :: rest => do
      let op ← op? (← l.mark?)
      some (.join op, l.position, rest)

/- The links of the logical level. -/
def logical : Linker :=
  joins fun
    | .and => some .and
    | .or => some .or
    | .xor => some .xor
    | _ => none

/- The links of the level of comparisons. -/
def comparison : Linker :=
  joins fun
    | .equal => some .equal
    | .notEqual => some .notEqual
    | .more => some .more
    | .less => some .less
    | .moreOrEqual => some .moreOrEqual
    | .lessOrEqual => some .lessOrEqual
    | _ => none

/-
  The links of the level of sums.  A sequence of words counts
  only as a whole.
-/
def sum : Linker
  | [] => none
  | l :: rest =>
      match ((l :: rest).take 3).map Lexeme.mark? with
      | some .is :: some .not :: some .null :: _ =>
          some (.test .isNotNull, l.position, rest.drop 2)
      | some .is :: some .null :: _ =>
          some (.test .isNull, l.position, rest.drop 1)
      | some .not :: some .like :: _ =>
          some (.join .notLike, l.position, rest.drop 1)
      | some .not :: some .isIn :: _ =>
          some (.join .isNotIn, l.position, rest.drop 1)
      | some .plus :: _ => some (.join .add, l.position, rest)
      | some .minus :: _ => some (.join .sub, l.position, rest)
      | some .like :: _ => some (.join .like, l.position, rest)
      | _ => none

/- The links of the level of products. -/
def product : Linker :=
  joins fun
    | .star => some .mul
    | .slash => some .div
    | .percent => some .rem
    | _ => none

/- The links of the tightest level. -/
def power : Linker :=
  joins fun
    | .caret => some .pow
    | .isIn => some .isIn
    | .shiftLeft => some .shiftLeft
    | .shiftRight => some .shiftRight
    | _ => none

end Linker

end Formula
