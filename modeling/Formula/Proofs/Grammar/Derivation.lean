import Formula.Proofs.Grammar.Expr

/-
  The grammar of expressions.

  A derivation shows how lexemes make up a phrase.  It gives
  the lexemes that it derives and the instructions that they
  stand for, and knows nothing of how expressions are read.

  Key definitions include:
    * `Level`
    * `Phrase`
    * `Derivation`
    * `Derivation.yield`
    * `Derivation.code`
    * `Derivation.IsCountable`
-/

namespace Formula

------------------------------------------------------------
-- Levels of Operators
------------------------------------------------------------

/- The levels of operators, from the loosest one. -/
inductive Level where
  | logical
  | comparison
  | sum
  | product
  | power
deriving DecidableEq, Repr

namespace Level

/- The words of a level and what they stand for. -/
def links : Level → List (List Mark × Link)
  | .logical =>
      [ ([.and], .join .and),
        ([.or], .join .or),
        ([.xor], .join .xor) ]
  | .comparison =>
      [ ([.equal], .join .equal),
        ([.notEqual], .join .notEqual),
        ([.more], .join .more),
        ([.less], .join .less),
        ([.moreOrEqual], .join .moreOrEqual),
        ([.lessOrEqual], .join .lessOrEqual) ]
  | .sum =>
      [ ([.plus], .join .add),
        ([.minus], .join .sub),
        ([.like], .join .like),
        ([.not, .like], .join .notLike),
        ([.not, .isIn], .join .isNotIn),
        ([.is, .null], .test .isNull),
        ([.is, .not, .null], .test .isNotNull) ]
  | .product =>
      [ ([.star], .join .mul),
        ([.slash], .join .div),
        ([.percent], .join .rem) ]
  | .power =>
      [ ([.caret], .join .pow),
        ([.isIn], .join .isIn),
        ([.shiftLeft], .join .shiftLeft),
        ([.shiftRight], .join .shiftRight) ]

/- Some lexemes are the words of a link. -/
def Spells
    (k : Level)
    (link : Link)
    (words : List Lexeme) : Prop :=
  ∃ marks, (marks, link) ∈ k.links ∧
    words.map Lexeme.mark? = marks.map some

end Level

------------------------------------------------------------
-- Derivations
------------------------------------------------------------

/- The phrases of the grammar. -/
inductive Phrase where
  | primary
  | arguments
  | accesses
  | unary
  | negation
  | links (k : Level)
  | chain (k : Level)
deriving DecidableEq, Repr

/- What the operators of a level hold together. -/
def Level.operand : Level → Phrase
  | .logical => .negation
  | .comparison => .chain .sum
  | .sum => .chain .product
  | .product => .chain .power
  | .power => .unary

/- A whole expression. -/
abbrev Phrase.expression : Phrase :=
  .chain .logical

/- A lexeme that is some mark. -/
abbrev Marked (m : Mark) : Type :=
  {l : Lexeme // l.mark? = some m}

/-
  How a phrase is made up.  The arguments of a call are none,
  one, or one with a comma and further ones, so that a comma
  may end them.
-/
inductive Derivation : Phrase → Type where
  | constant
      (l : Lexeme)
      (v : Value)
      (hConstant : l.content = .constant v) :
      Derivation .primary
  | null
      (l : Marked .null) :
      Derivation .primary
  | reference
      (l : Lexeme)
      (name : String)
      (hName : l.content = .name name) :
      Derivation .primary
  | call
      (l : Lexeme)
      (name : String)
      (hName : l.content = .name name)
      (opening : Marked .leftParen)
      (args : Derivation .arguments)
      (closing : Marked .rightParen) :
      Derivation .primary
  | group
      (opening : Marked .leftParen)
      (e : Derivation .expression)
      (closing : Marked .rightParen) :
      Derivation .primary
  | noArgument :
      Derivation .arguments
  | lastArgument
      (e : Derivation .expression) :
      Derivation .arguments
  | moreArguments
      (e : Derivation .expression)
      (comma : Marked .comma)
      (others : Derivation .arguments) :
      Derivation .arguments
  | noAccess :
      Derivation .accesses
  | access
      (opening : Marked .leftBracket)
      (index : Derivation .expression)
      (closing : Marked .rightBracket)
      (others : Derivation .accesses) :
      Derivation .accesses
  | unsigned
      (e : Derivation .primary)
      (taken : Derivation .accesses) :
      Derivation .unary
  | positive
      (sign : Marked .plus)
      (e : Derivation .primary)
      (taken : Derivation .accesses) :
      Derivation .unary
  | negative
      (sign : Marked .minus)
      (e : Derivation .primary)
      (taken : Derivation .accesses) :
      Derivation .unary
  | assertion
      (e : Derivation (.chain .comparison)) :
      Derivation .negation
  | denial
      (sign : Marked .not)
      (e : Derivation (.chain .comparison)) :
      Derivation .negation
  | noLink
      {k : Level} :
      Derivation (.links k)
  | join
      {k : Level}
      (first : Lexeme)
      (words : List Lexeme)
      (op : BinaryOp)
      (hSpells : k.Spells (.join op) (first :: words))
      (rhs : Derivation k.operand)
      (others : Derivation (.links k)) :
      Derivation (.links k)
  | test
      {k : Level}
      (first : Lexeme)
      (words : List Lexeme)
      (op : UnaryOp)
      (hSpells : k.Spells (.test op) (first :: words))
      (others : Derivation (.links k)) :
      Derivation (.links k)
  | chain
      {k : Level}
      (first : Derivation k.operand)
      (others : Derivation (.links k)) :
      Derivation (.chain k)

namespace Derivation

/- The lexemes of a phrase. -/
@[simp] def yield {s : Phrase} : Derivation s → List Lexeme
  | constant l _ _ => [l]
  | null l => [l.1]
  | reference l _ _ => [l]
  | call l _ _ opening args closing =>
      l :: opening.1 :: (args.yield ++ [closing.1])
  | group opening e closing =>
      opening.1 :: (e.yield ++ [closing.1])
  | noArgument => []
  | lastArgument e => e.yield
  | moreArguments e comma others =>
      e.yield ++ comma.1 :: others.yield
  | noAccess => []
  | access opening index closing others =>
      opening.1 :: (index.yield ++ closing.1 :: others.yield)
  | unsigned e taken => e.yield ++ taken.yield
  | positive sign e taken =>
      sign.1 :: (e.yield ++ taken.yield)
  | negative sign e taken =>
      sign.1 :: (e.yield ++ taken.yield)
  | assertion e => e.yield
  | denial sign e => sign.1 :: e.yield
  | noLink => []
  | join first words _ _ rhs others =>
      first :: (words ++ (rhs.yield ++ others.yield))
  | test first words _ _ others =>
      first :: (words ++ others.yield)
  | chain first others => first.yield ++ others.yield

/- The number of arguments of a call. -/
@[simp] def count {s : Phrase} : Derivation s → Nat
  | lastArgument _ => 1
  | moreArguments _ _ others => others.count + 1
  | _ => 0

/-
  The instructions of a phrase, operands before operators.  An
  operator has the position of its first lexeme, and a call
  that of the name.  A leading plus sign stands for nothing.
-/
@[simp] def code {s : Phrase} : Derivation s → List Instruction
  | constant l v _ => [.constant v l.position]
  | null l => [.constant .null l.1.position]
  | reference l name _ => [.reference name l.position]
  | call l name _ _ args _ =>
      args.code ++
        [ .constant (.integer (Int32.ofNat args.count))
            l.position,
          .call name l.position ]
  | group _ e _ => e.code
  | noArgument => []
  | lastArgument e => e.code
  | moreArguments e _ others => e.code ++ others.code
  | noAccess => []
  | access opening index _ others =>
      index.code ++
        .binary .element opening.1.position :: others.code
  | unsigned e taken => e.code ++ taken.code
  | positive _ e taken => e.code ++ taken.code
  | negative sign e taken =>
      e.code ++ .unary .negate sign.1.position :: taken.code
  | assertion e => e.code
  | denial sign e => e.code ++ [.unary .not sign.1.position]
  | noLink => []
  | join first _ op _ rhs others =>
      rhs.code ++ .binary op first.position :: others.code
  | test first _ op _ others =>
      .unary op first.position :: others.code
  | chain first others => first.code ++ others.code

/- No call has more arguments than can be counted. -/
def IsCountable {s : Phrase} : Derivation s → Prop
  | call _ _ _ _ args _ =>
      args.count ≤ maxCount ∧ args.IsCountable
  | group _ e _ => e.IsCountable
  | lastArgument e => e.IsCountable
  | moreArguments e _ others =>
      e.IsCountable ∧ others.IsCountable
  | access _ index _ others =>
      index.IsCountable ∧ others.IsCountable
  | unsigned e taken => e.IsCountable ∧ taken.IsCountable
  | positive _ e taken => e.IsCountable ∧ taken.IsCountable
  | negative _ e taken => e.IsCountable ∧ taken.IsCountable
  | assertion e => e.IsCountable
  | denial _ e => e.IsCountable
  | join _ _ _ _ rhs others =>
      rhs.IsCountable ∧ others.IsCountable
  | test _ _ _ _ others => others.IsCountable
  | chain first others =>
      first.IsCountable ∧ others.IsCountable
  | _ => True

end Derivation

end Formula
