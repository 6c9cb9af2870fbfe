import Formula.Proofs.Grammar.Expr
import Formula.Grammar.Link

/-
  Trees read from lexemes.

  The compiler writes instructions while it reads.  What it
  reads can be seen as a tree as well, and the trees are read
  here by functions of the same shape.

  Key definitions include:
    * `Parser`
    * `Parser.chain`
    * `Parser.expression`
    * `Expr.ofLexemes?`
-/

namespace Formula

/-
  A parser takes some lexemes and gives what it read and the
  lexemes that are left.
-/
abbrev Parser (α : Type) :=
  List Lexeme → Except SyntaxError (α × List Lexeme)

namespace Parser

------------------------------------------------------------
-- Chains of Operators
------------------------------------------------------------

/-
  Carry an expression on, to the left, for as long as links
  follow.  Every link takes a lexeme, so `n` of them suffice
  when no more than `n` lexemes are left.
-/
def carryOn
    (operand : Parser Expr)
    (link : Linker)
    (e : Expr) : Nat → Parser Expr
  | 0, ls => .ok (e, ls)
  | n + 1, ls =>
      match link ls with
      | none => .ok (e, ls)
      | some (.test op, p, rest) =>
          carryOn operand link (.unary op e p) n rest
      | some (.join op, p, rest) => do
          let (rhs, rest) ← operand rest
          carryOn operand link (.binary op e rhs p) n rest

/- Operands that links hold together. -/
def chain
    (operand : Parser Expr)
    (link : Linker) : Parser Expr :=
  fun ls => do
    let (e, rest) ← operand ls
    carryOn operand link e rest.length rest

------------------------------------------------------------
-- Levels of Expressions
------------------------------------------------------------

/-
  The levels are given for a parser of the expressions inside
  brackets, and for the position behind the last lexeme.
-/
variable (inner : Parser Expr)
variable (ending : Position)

/-
  Pass a closing mark.  What stands in its place is wrong, or
  else the end is.
-/
def close
    (mark : Mark)
    (cause : SyntaxCause) : Parser Unit
  | [] => .error ⟨cause, ending⟩
  | l :: rest =>
      if l.mark? = some mark then .ok ((), rest)
      else .error ⟨cause, l.position⟩

/-
  The arguments of a call, up to the closing parenthesis, with
  a comma after each but the last, which may have one too.  No
  more than `n` of them are read.
-/
def arguments : Nat → Parser (List Expr)
  | 0, ls => .ok ([], ls)
  | _ + 1, [] => .ok ([], [])
  | n + 1, l :: rest =>
      if l.mark? = some .rightParen then .ok ([], l :: rest)
      else do
        let (e, behind) ← inner (l :: rest)
        match behind with
        | [] => .ok ([e], [])
        | c :: next =>
            if c.mark? = some .comma then do
              let (es, last) ← arguments n next
              .ok (e :: es, last)
            else .ok ([e], c :: next)

/- A constant, a variable, a call or a group. -/
def primary : Parser Expr
  | [] => .error ⟨.unexpectedEnd, ending⟩
  | l :: rest =>
      match l.content with
      | .constant v => .ok (.constant v l.position, rest)
      | .mark .null => .ok (.constant .null l.position, rest)
      | .name name =>
          if (rest.head?.bind Lexeme.mark?) = some .leftParen
          then do
            let (args, behind) ←
              arguments inner rest.length rest.tail
            let ((), last) ←
              close ending .rightParen .missingParenthesis behind
            .ok (.call name args l.position, last)
          else .ok (.reference name l.position, rest)
      | .mark .leftParen => do
          let (e, behind) ← inner rest
          let ((), last) ←
            close ending .rightParen .missingParenthesis behind
          .ok (e, last)
      | .mark _ => .error ⟨.noOperand l.text, l.position⟩

/- Take elements of an expression, for as long as it goes. -/
def elements
    (e : Expr) : Nat → Parser Expr
  | 0, ls => .ok (e, ls)
  | _ + 1, [] => .ok (e, [])
  | n + 1, l :: rest =>
      if l.mark? = some .leftBracket then do
        let (index, behind) ← inner rest
        let ((), last) ←
          close ending .rightBracket .missingBracket behind
        elements (.binary .element e index l.position) n last
      else .ok (e, l :: rest)

/-
  A sign, a primary and elements of it.  Only a minus sign is
  kept; it applies before any element is taken.
-/
def unary : Parser Expr
  | [] => .error ⟨.unexpectedEnd, ending⟩
  | l :: rest => do
      let (e, behind) ←
        match l.mark? with
        | some .plus => primary inner ending rest
        | some .minus => do
            let (e, behind) ← primary inner ending rest
            .ok (.unary .negate e l.position, behind)
        | _ => primary inner ending (l :: rest)
      elements inner ending e behind.length behind

/- Operands of the tightest operators. -/
def power : Parser Expr :=
  chain (unary inner ending) Linker.power

/- Factors. -/
def product : Parser Expr :=
  chain (power inner ending) Linker.product

/- Summands, patterns and null tests. -/
def sum : Parser Expr :=
  chain (product inner ending) Linker.sum

/- Sides of comparisons. -/
def comparison : Parser Expr :=
  chain (sum inner ending) Linker.comparison

/- A comparison, or its negation. -/
def negation : Parser Expr
  | [] => .error ⟨.unexpectedEnd, ending⟩
  | l :: rest =>
      if l.mark? = some .not then do
        let (e, behind) ← comparison inner ending rest
        .ok (.unary .not e l.position, behind)
      else comparison inner ending (l :: rest)

/- Negations held together by logical operators. -/
def logical : Parser Expr :=
  chain (negation inner ending) Linker.logical

/-
  An expression that is nested at most `n` deep.  Brackets
  take a lexeme each, so that is all when there are no more
  than `n` lexemes.
-/
def expression
    (ending : Position) : Nat → Parser Expr
  | 0 => fun _ => .error ⟨.unexpectedEnd, ending⟩
  | n + 1 => logical (expression ending n) ending

end Parser

------------------------------------------------------------
-- Whole Expressions
------------------------------------------------------------

/- The expression that all lexemes together denote. -/
def Expr.ofLexemes?
    (ls : List Lexeme) : Except SyntaxError Expr := do
  let (e, rest) ←
    Parser.expression (endOf ls) ls.length ls
  match rest with
  | [] => .ok e
  | l :: _ => .error ⟨.leftOver l.text, l.position⟩

end Formula
