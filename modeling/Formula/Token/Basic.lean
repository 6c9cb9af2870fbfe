import Formula.Text.Position

/-
  Tokens, the words of a text.

  Key definitions include:
    * `TokenKind`
    * `Token`
    * `Token.ending`
    * `Token.same`
-/

namespace Formula

------------------------------------------------------------
-- Kinds
------------------------------------------------------------

/- The kinds of tokens. -/
inductive TokenKind where
  | unknown
  | eof
  | float
  | integer
  | number
  | symbol
  | quoted
  | word
  | keyword
  | whitespace
  | comment
deriving DecidableEq, Repr

namespace TokenKind

/- The name of a kind. -/
def name : TokenKind → String
  | .unknown => "Unknown"
  | .eof => "Eof"
  | .float => "Float"
  | .integer => "Integer"
  | .number => "Number"
  | .symbol => "Symbol"
  | .quoted => "Quoted"
  | .word => "Word"
  | .keyword => "Keyword"
  | .whitespace => "Whitespace"
  | .comment => "Comment"

/- All kinds. -/
def all : List TokenKind :=
  [ .unknown, .eof, .float, .integer, .number, .symbol,
    .quoted, .word, .keyword, .whitespace, .comment ]

/- The kind with a given name. -/
def ofName?
    (s : String) : Option TokenKind :=
  all.find? fun k => k.name == s

end TokenKind

------------------------------------------------------------
-- Tokens
------------------------------------------------------------

/- A token and the position of its first character. -/
structure Token where
  kind : TokenKind
  value : String
  position : Position
deriving DecidableEq, Repr

namespace Token

/-
  The position behind a token that stays within its line.
-/
def ending
    (t : Token) : Position :=
  t.position.along t.value.length

/- Two tokens are equal wherever they stand. -/
def same
    (a b : Token) : Bool :=
  a.kind == b.kind && a.value == b.value

end Token

end Formula
