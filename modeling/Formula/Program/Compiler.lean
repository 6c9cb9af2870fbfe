import Formula.Grammar.Link
import Formula.Program.Instruction

/-
  Expressions compiled while they are read.

    logical    := negation ((AND | OR | XOR) negation)*
    negation   := NOT? comparison
    comparison := sum ((= | <> | > | < | >= | <=) sum)*
    sum        := product
                    ( (+ | - | LIKE | NOT LIKE | NOT IN) product
                    | IS NULL | IS NOT NULL )*
    product    := power ((* | / | %) power)*
    power      := unary ((^ | IN | << | >>) unary)*
    unary      := (+ | -)? primary ([ logical ])*
    primary    := constant | NULL | name | name ( arguments )
                    | ( logical )
    arguments  := (logical (, logical)* ,?)?

  Operators of one level associate to the left.  An operator
  is written behind its operands.  A call is written as its
  arguments, then their number, then the function.

  Key definitions include:
    * `Compilation`
    * `Compilation.emit`
    * `Compilation.record`
    * `Compiler`
    * `Compiler.arguments`
    * `Compiler.expression`
-/

namespace Formula

------------------------------------------------------------
-- Compilations
------------------------------------------------------------

/-
  How far a compilation is: the lexemes that are left, the
  instructions that are written, and the variables that were
  met, in order of appearance.
-/
structure Compilation where
  lexemes : List Lexeme
  instructions : Array Instruction
  names : List String

/- A name is added to others, unless it is one of them. -/
def addName
    (names : List String)
    (name : String) : List String :=
  if names.contains name then names else names ++ [name]

namespace Compilation

/- Nothing is read or written. -/
def start
    (ls : List Lexeme) : Compilation :=
  ⟨ls, #[], []⟩

/- Go on with other lexemes. -/
def goOn
    (c : Compilation)
    (ls : List Lexeme) : Compilation :=
  { c with lexemes := ls }

/- Write an instruction. -/
def emit
    (c : Compilation)
    (i : Instruction) : Compilation :=
  { c with instructions := c.instructions.push i }

/- Record a variable. -/
def record
    (c : Compilation)
    (name : String) : Compilation :=
  { c with names := addName c.names name }

end Compilation

/- A compiler of some phrase. -/
abbrev Compiler :=
  Compilation → Except SyntaxError Compilation

namespace Compiler

------------------------------------------------------------
-- Chains of Operators
------------------------------------------------------------

/-
  Carry an expression on, to the left, for as long as links
  follow.  Every link takes a lexeme, so `n` of them suffice
  when no more than `n` lexemes are left.
-/
def carryOn
    (operand : Compiler)
    (link : Linker) : Nat → Compiler
  | 0, c => .ok c
  | n + 1, c =>
      match link c.lexemes with
      | none => .ok c
      | some (.test op, p, rest) =>
          carryOn operand link n
            ((c.goOn rest).emit (.unary op p))
      | some (.join op, p, rest) => do
          let c ← operand (c.goOn rest)
          carryOn operand link n (c.emit (.binary op p))

/- Operands that links hold together. -/
def chain
    (operand : Compiler)
    (link : Linker) : Compiler :=
  fun c => do
    let c ← operand c
    carryOn operand link c.lexemes.length c

------------------------------------------------------------
-- Levels of Expressions
------------------------------------------------------------

/-
  The levels are given for a compiler of the expressions inside
  brackets, and for the position behind the last lexeme.
-/
variable (inner : Compiler)
variable (ending : Position)

/-
  Pass a closing mark.  What stands in its place is wrong, or
  else the end is.
-/
def close
    (mark : Mark)
    (cause : SyntaxCause) : Compiler :=
  fun c =>
    match c.lexemes with
    | [] => .error ⟨cause, ending⟩
    | l :: rest =>
        if l.mark? = some mark then .ok (c.goOn rest)
        else .error ⟨cause, l.position⟩

/-
  The arguments of a call, up to the closing parenthesis, with
  a comma after each but the last, which may have one too.
  They are counted on from `count`, in 32 bits.  Every argument
  takes a lexeme, so `n` of them suffice when no more than `n`
  lexemes are left.
-/
def arguments :
    Nat → Int32 → Compilation →
      Except SyntaxError (Int32 × Compilation)
  | 0, count, c => .ok (count, c)
  | n + 1, count, c =>
      match c.lexemes with
      | [] => .ok (count, c)
      | l :: _ =>
          if l.mark? = some .rightParen then .ok (count, c)
          else do
            let count := count + 1
            let c ← inner c
            match c.lexemes with
            | [] => .ok (count, c)
            | l :: rest =>
                if l.mark? = some .comma then
                  arguments n count (c.goOn rest)
                else .ok (count, c)

/- A constant, a variable, a call or a group. -/
def primary : Compiler :=
  fun c =>
    match c.lexemes with
    | [] => .error ⟨.unexpectedEnd, ending⟩
    | l :: rest =>
        match l.content with
        | .constant v =>
            .ok ((c.goOn rest).emit (.constant v l.position))
        | .mark .null =>
            .ok ((c.goOn rest).emit
              (.constant .null l.position))
        | .name name =>
            if (rest.head?.bind Lexeme.mark?) =
                some .leftParen then do
              let (count, c) ←
                arguments inner rest.length 0
                  (c.goOn rest.tail)
              let c ←
                close ending .rightParen .missingParenthesis c
              let c :=
                c.emit (.constant (.integer count) l.position)
              .ok (c.emit (.call name l.position))
            else
              .ok (((c.goOn rest).record name).emit
                (.reference name l.position))
        | .mark .leftParen => do
            let c ← inner (c.goOn rest)
            close ending .rightParen .missingParenthesis c
        | .mark _ => .error ⟨.noOperand l.text, l.position⟩

/- Take elements of an expression, for as long as it goes. -/
def elements : Nat → Compiler
  | 0, c => .ok c
  | n + 1, c =>
      match c.lexemes with
      | [] => .ok c
      | l :: rest =>
          if l.mark? = some .leftBracket then do
            let c ← inner (c.goOn rest)
            let c ←
              close ending .rightBracket .missingBracket c
            elements n (c.emit (.binary .element l.position))
          else .ok c

/-
  A sign, a primary and elements of it.  Only a minus sign is
  kept; it applies before any element is taken.
-/
def unary : Compiler :=
  fun c =>
    match c.lexemes with
    | [] => .error ⟨.unexpectedEnd, ending⟩
    | l :: rest => do
        let c ←
          match l.mark? with
          | some .plus => primary inner ending (c.goOn rest)
          | some .minus => do
              let c ← primary inner ending (c.goOn rest)
              .ok (c.emit (.unary .negate l.position))
          | _ => primary inner ending c
        elements inner ending c.lexemes.length c

/- Operands of the tightest operators. -/
def power : Compiler :=
  chain (unary inner ending) Linker.power

/- Factors. -/
def product : Compiler :=
  chain (power inner ending) Linker.product

/- Summands, patterns and null tests. -/
def sum : Compiler :=
  chain (product inner ending) Linker.sum

/- Sides of comparisons. -/
def comparison : Compiler :=
  chain (sum inner ending) Linker.comparison

/- A comparison, or its negation. -/
def negation : Compiler :=
  fun c =>
    match c.lexemes with
    | [] => .error ⟨.unexpectedEnd, ending⟩
    | l :: rest =>
        if l.mark? = some .not then do
          let c ← comparison inner ending (c.goOn rest)
          .ok (c.emit (.unary .not l.position))
        else comparison inner ending c

/- Negations held together by logical operators. -/
def logical : Compiler :=
  chain (negation inner ending) Linker.logical

/-
  An expression that is nested at most `n` deep.  Brackets
  take a lexeme each, so that is all when there are no more
  than `n` lexemes.
-/
def expression
    (ending : Position) : Nat → Compiler
  | 0 => fun _ => .error ⟨.unexpectedEnd, ending⟩
  | n + 1 => logical (expression ending n) ending

end Compiler

end Formula
