import Formula.Token.Rule

/-
  Tokenizers.

  A tokenizer assigns a role to characters.  The character at
  which a token begins decides by which rule it is read.  A
  character without a role, or one at which its rule reads
  nothing, is an unknown token.

  Options then drop or adjust tokens.

  Key definitions include:
    * `Role`
    * `Rules`
    * `Rules.read`
    * `Tokenizer`
    * `Tokenizer.first`
    * `Options.refine`
-/

namespace Formula

------------------------------------------------------------
-- Roles and Rules
------------------------------------------------------------

/- What a character begins. -/
inductive Role where
  | whitespace
  | word
  | number
  | quote
  | comment
  | symbol
deriving DecidableEq, Repr

/- The rules by which a tokenizer reads. -/
structure Rules where
  blanks : CharSet
  wordChars : CharSet
  word : WordRule
  number : NumberRule
  quote : QuoteRule
  comment : CommentRule
  symbols : SymbolTree

/- The piece that a role reads from the front of a text. -/
def Rules.read
    (r : Rules)
    (role : Role)
    (text : List Char) : Piece :=
  match role with
  | .whitespace => ⟨.whitespace, runOf r.blanks text⟩
  | .word => r.word.read r.wordChars text
  | .number => r.number.read r.symbols text
  | .quote => readQuoted r.quote text
  | .comment => r.comment.read r.symbols text
  | .symbol => r.symbols.read text

------------------------------------------------------------
-- Options
------------------------------------------------------------

/- What a tokenizer drops and adjusts. -/
structure Options where
  skipUnknown : Bool
  skipWhitespace : Bool
  skipComments : Bool
  skipEof : Bool
  mergeWhitespace : Bool
  unifyNumbers : Bool
  decodeStrings : Bool
deriving DecidableEq, Repr

namespace Options

/- Drop and adjust nothing. -/
def none : Options :=
  ⟨false, false, false, false, false, false, false⟩

/- Tokens of a kind are dropped. -/
def skips
    (o : Options) : TokenKind → Bool
  | .unknown => o.skipUnknown
  | .comment => o.skipComments
  | .whitespace => o.skipWhitespace
  | _ => false

/- A token in place of one that is kept. -/
def adjust
    (o : Options)
    (t : Token) : Token :=
  match t.kind with
  | .whitespace =>
      if o.mergeWhitespace then ⟨t.kind, " ", t.position⟩
      else t
  | .integer | .float =>
      if o.unifyNumbers then ⟨.number, t.value, t.position⟩
      else t
  | _ => t

end Options

------------------------------------------------------------
-- Tokenizers
------------------------------------------------------------

/- A tokenizer. -/
structure Tokenizer where
  rules : Rules
  roles : CharMap Role
  options : Options

namespace Tokenizer

/- The role of a character. -/
def role?
    (t : Tokenizer)
    (c : Char) : Option Role :=
  t.roles.lookup c

/-
  The first piece of the text `c :: rest`, which is never
  empty.
-/
def first
    (t : Tokenizer)
    (c : Char)
    (rest : List Char) : Piece :=
  match t.role? c with
  | none => ⟨.unknown, [c]⟩
  | some role =>
      let p := t.rules.read role (c :: rest)
      if p.text.isEmpty then ⟨.unknown, [c]⟩ else p

/- The first piece of a text has a character. -/
theorem first_text_length_pos
    (t : Tokenizer)
    (c : Char)
    (rest : List Char) :
    0 < (t.first c rest).text.length := by
  unfold first
  split
  · exact Nat.one_pos
  · dsimp only
    split
    · exact Nat.one_pos
    · rename_i h
      exact List.length_pos_iff.mpr (by simpa using h)

/-
  The text of a token: that of its piece, decoded if the
  piece was read as quoted from the character `c` on.
-/
def valueOf
    (t : Tokenizer)
    (c : Char)
    (p : Piece) : List Char :=
  if t.options.decodeStrings ∧ t.role? c = some .quote then
    t.rules.quote.decode c p.text
  else p.text

end Tokenizer

end Formula
