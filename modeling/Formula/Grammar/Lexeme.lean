import Formula.Grammar.SyntaxError
import Formula.Numeral.Decimal
import Formula.Token.Basic
import Formula.Token.Keyword
import Formula.Value.Basic

/-
  Lexemes, the tokens that have a meaning in an expression.

  A lexeme is a constant, a name or a mark.  White space,
  comments and the end of the text have no meaning.

  Key definitions include:
    * `Mark`
    * `Lexeme`
    * `Lexeme.ofToken?`
    * `Lexeme.ofTokens?`
-/

namespace Formula

------------------------------------------------------------
-- Marks
------------------------------------------------------------

/- The marks: punctuation, operators and reserved words. -/
inductive Mark where
  | leftParen
  | rightParen
  | leftBracket
  | rightBracket
  | comma
  | plus
  | minus
  | star
  | slash
  | percent
  | caret
  | equal
  | notEqual
  | more
  | less
  | moreOrEqual
  | lessOrEqual
  | shiftLeft
  | shiftRight
  | and
  | or
  | xor
  | not
  | is
  | isIn
  | null
  | like
deriving DecidableEq, Repr

namespace Mark

/- The marks that are written with symbols. -/
def ofSymbol? : String → Option Mark
  | "(" => some .leftParen
  | ")" => some .rightParen
  | "[" => some .leftBracket
  | "]" => some .rightBracket
  | "," => some .comma
  | "+" => some .plus
  | "-" => some .minus
  | "*" => some .star
  | "/" => some .slash
  | "%" => some .percent
  | "^" => some .caret
  | "=" => some .equal
  | "<>" => some .notEqual
  | "!=" => some .notEqual
  | ">" => some .more
  | "<" => some .less
  | ">=" => some .moreOrEqual
  | "<=" => some .lessOrEqual
  | "<<" => some .shiftLeft
  | ">>" => some .shiftRight
  | _ => none

end Mark

------------------------------------------------------------
-- Lexemes
------------------------------------------------------------

/- What a lexeme stands for. -/
inductive LexemeContent where
  | constant (value : Value)
  | name (name : String)
  | mark (mark : Mark)

/-
  A lexeme, the text of its token, and the positions of the
  first character and of the place behind it.
-/
structure Lexeme where
  content : LexemeContent
  text : String
  position : Position
  ending : Position

namespace LexemeContent

/- What a reserved word stands for. -/
def ofKeyword : Keyword → LexemeContent
  | .and => .mark .and
  | .or => .mark .or
  | .not => .mark .not
  | .xor => .mark .xor
  | .like => .mark .like
  | .is => .mark .is
  | .isIn => .mark .isIn
  | .null => .mark .null
  | .true => .constant (.boolean true)
  | .false => .constant (.boolean false)

/-
  The number that a text denotes: the narrower type of whole
  numbers that holds it, or else a floating-point number.
-/
def numberOf?
    (text : List Char) : Option Value :=
  match readInt32? text with
  | some n => some (.integer n)
  | none =>
      match readInt64? text with
      | some n => some (.long n)
      | none => (Double.read? text).map Value.double

/- What a token stands for, if it has a meaning. -/
def ofToken?
    (t : Token) : Option LexemeContent :=
  match t.kind with
  | .word => some (.name t.value)
  | .quoted => some (.constant (.string t.value))
  | .keyword => (Keyword.ofWord? t.value).map ofKeyword
  | .symbol => (Mark.ofSymbol? t.value).map .mark
  | .integer | .float | .number =>
      (numberOf? t.value.toList).map .constant
  | .unknown | .whitespace | .comment | .eof => none

end LexemeContent

namespace Lexeme

/- The mark that a lexeme is. -/
def mark?
    (l : Lexeme) : Option Mark :=
  match l.content with
  | .mark m => some m
  | _ => none

/- The value of a constant, the name of a name, or null. -/
def value
    (l : Lexeme) : Value :=
  match l.content with
  | .constant v => v
  | .name name => .string name
  | .mark _ => .null

/- Tokens of a kind are passed over. -/
def isIgnored : TokenKind → Bool
  | .whitespace => true
  | .comment => true
  | .eof => true
  | _ => false

/- The lexeme of a token. -/
def ofToken?
    (t : Token) : Except SyntaxError Lexeme :=
  match LexemeContent.ofToken? t with
  | some content =>
      .ok ⟨content, t.value, t.position, t.ending⟩
  | none => .error ⟨.unknownSymbol t.value, t.position⟩

/- The lexemes of some tokens, or the first without meaning. -/
def ofTokens?
    (tokens : List Token) : Except SyntaxError (List Lexeme) :=
  (tokens.filter fun t => !isIgnored t.kind).mapM ofToken?

end Lexeme

end Formula
