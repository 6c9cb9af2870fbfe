import Formula.Numeral.Decimal
import Formula.Token.CharMap
import Formula.Token.Keyword
import Formula.Token.Quoting
import Formula.Token.SymbolTree

/-
  The rules that read single tokens.

  A rule takes the text to come and gives a piece with which
  that text begins.  A rule that finds nothing of its own
  leaves the text to the rule for symbols.

  Key definitions include:
    * `WordRule.read`
    * `NumberRule.read`
    * `CommentRule.read`
    * `readQuoted`
-/

namespace Formula

------------------------------------------------------------
-- Words
------------------------------------------------------------

/- The longest run of members of a set. -/
def runOf
    (s : CharSet)
    (text : List Char) : List Char :=
  text.takeWhile s.has

/- How words are read: as such, or told from keywords. -/
inductive WordRule where
  | plain
  | keywords
deriving DecidableEq, Repr

namespace WordRule

/- The word that a text begins with. -/
def read
    (r : WordRule)
    (members : CharSet)
    (text : List Char) : Piece :=
  let word := runOf members text
  match r with
  | .plain => ⟨.word, word⟩
  | .keywords =>
      if isKeyword (String.ofList word) then ⟨.keyword, word⟩
      else ⟨.word, word⟩

end WordRule

------------------------------------------------------------
-- Numbers
------------------------------------------------------------

/- The run of digits that a text begins with. -/
def digitRun
    (text : List Char) : List Char :=
  text.takeWhile isDigit

/-
  A complete exponent: a mark, an optional sign and digits.
  Nothing is taken if it lacks the digits.
-/
def exponentRun : List Char → List Char
  | 'e' :: rest => complete 'e' rest
  | 'E' :: rest => complete 'E' rest
  | _ => []
where
  /- The exponent that begins with a given mark. -/
  complete
      (mark : Char)
      (rest : List Char) : List Char :=
    let sign := rest.take (signLength rest)
    let digits := digitRun (rest.drop (signLength rest))
    if digits.isEmpty then [] else mark :: sign ++ digits
  /- The number of sign characters in front of a text. -/
  signLength : List Char → Nat
    | '+' :: _ => 1
    | '-' :: _ => 1
    | _ => 0

/- How numbers are read: without exponent, or with one. -/
inductive NumberRule where
  | decimal
  | scientific
deriving DecidableEq, Repr

namespace NumberRule

/-
  Digits, and a point with further digits, once a minus sign
  has been split off.  There is at least one digit.
-/
def unsigned?
    (text : List Char) : Option Piece :=
  let whole := digitRun text
  match text.drop whole.length with
  | '.' :: rest =>
      let fraction := digitRun rest
      if whole.isEmpty && fraction.isEmpty then none
      else some ⟨.float, whole ++ '.' :: fraction⟩
  | _ =>
      if whole.isEmpty then none else some ⟨.integer, whole⟩

/- Digits and a point, after an optional minus sign. -/
def signed? : List Char → Option Piece
  | '-' :: rest =>
      (unsigned? rest).map fun p => ⟨p.kind, '-' :: p.text⟩
  | text => unsigned? text

/- A number without exponent, or else a symbol. -/
def readDecimal
    (symbols : SymbolTree)
    (text : List Char) : Piece :=
  (signed? text).getD (symbols.read text)

/-
  A number and its exponent, if that is complete.  A minus
  sign is always a symbol.
-/
def readScientific
    (symbols : SymbolTree)
    (text : List Char) : Piece :=
  match text with
  | '-' :: _ => symbols.read text
  | _ =>
      let p := readDecimal symbols text
      if p.kind = .integer ∨ p.kind = .float then
        match exponentRun (text.drop p.text.length) with
        | [] => p
        | exponent => ⟨.float, p.text ++ exponent⟩
      else p

/- The number, or the symbol, that a text begins with. -/
def read : NumberRule → SymbolTree → List Char → Piece
  | .decimal => readDecimal
  | .scientific => readScientific

end NumberRule

------------------------------------------------------------
-- Comments
------------------------------------------------------------

/- The text up to the end of its line. -/
def restOfLine
    (text : List Char) : List Char :=
  text.takeWhile fun c => c != '\n' && c != '\r'

/- The text through the end mark of a block, or all of it. -/
def throughBlockEnd : List Char → List Char
  | [] => []
  | '*' :: '/' :: _ => ['*', '/']
  | c :: rest => c :: throughBlockEnd rest

/-
  How comments are read: to the end of the line from any
  character on, as blocks, or as blocks and as lines after
  two slashes.
-/
inductive CommentRule where
  | line
  | block
  | slash
deriving DecidableEq, Repr

namespace CommentRule

/- The comment, or the symbol, that a text begins with. -/
def read
    (r : CommentRule)
    (symbols : SymbolTree)
    (text : List Char) : Piece :=
  match r, text with
  | .line, _ => ⟨.comment, restOfLine text⟩
  | _, '/' :: '*' :: rest =>
      ⟨.comment, '/' :: '*' :: throughBlockEnd rest⟩
  | .slash, '/' :: '/' :: _ => ⟨.comment, restOfLine text⟩
  | _, _ => symbols.read text

end CommentRule

------------------------------------------------------------
-- Quoted Text
------------------------------------------------------------

/-
  The quoted text that a text begins with.  Under doubled
  quoting, what stands in double quotes is a word.
-/
def readQuoted
    (r : QuoteRule)
    (text : List Char) : Piece :=
  match r, text with
  | .doubled, '\x22' :: _ => ⟨.word, r.read text⟩
  | _, _ => ⟨.quoted, r.read text⟩

end Formula
