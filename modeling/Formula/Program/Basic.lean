import Formula.Program.Compiler
import Formula.Token.Preset
import Formula.Token.Stream

/-
  Compiled expressions.

  A program is the postfix form of an expression, operands
  before their operator.

  Key definitions include:
    * `Program`
    * `Program.ofLexemes?`
    * `Program.ofTokens?`
    * `Program.parse`
-/

namespace Formula

/- The position behind the last lexeme. -/
def endOf
    (ls : List Lexeme) : Position :=
  (ls.getLast?.map Lexeme.ending).getD .start

/-
  A compiled expression: its instructions, and the names of
  its variables in order of appearance.
-/
structure Program where
  instructions : List Instruction
  names : List String

namespace Program

/- The program that does nothing. -/
def empty : Program :=
  ⟨[], []⟩

/- The program does nothing. -/
def isEmpty
    (p : Program) : Bool :=
  p.instructions.isEmpty

/- Compile the expression that all lexemes together are. -/
def ofLexemes?
    (ls : List Lexeme) : Except SyntaxError Program := do
  let c ←
    Compiler.expression (endOf ls) ls.length (.start ls)
  match c.lexemes with
  | [] => .ok ⟨c.instructions.toList, c.names⟩
  | l :: _ => .error ⟨.leftOver l.text, l.position⟩

/- Compile what tokens denote. -/
def ofTokens?
    (tokens : List Token) : Except SyntaxError Program := do
  ofLexemes? (← Lexeme.ofTokens? tokens)

/- Compile what a text denotes. -/
def parse
    (source : String) : Except SyntaxError Program :=
  ofTokens? (Tokenizer.parsing.tokens source)

end Program

end Formula
