import Formula.Token.Tokenizer

/-
  Ready-made tokenizers.

  The generic tokenizer reads loosely structured text.  The
  expression tokenizer reads formulas; for parsing, it drops
  what has no meaning there and takes quoted text out of its
  quotes.

  Key definitions include:
    * `Tokenizer.generic`
    * `Tokenizer.expression`
    * `Tokenizer.parsing`
-/

namespace Formula

------------------------------------------------------------
-- Classes of Characters
------------------------------------------------------------

/- The last character there is. -/
def lastChar : Char :=
  Char.ofNat 0x10FFFF

/- The blank characters: the space and all below it. -/
def standardBlanks : CharSet :=
  .ofRanges [('\x00', ' ')]

/- The word characters of loosely structured text. -/
def genericWordChars : CharSet :=
  .ofRanges
    [ ('a', 'z'), ('A', 'Z'), ('0', '9'), ('-', '-'),
      ('_', '_'), ('\u00C0', lastChar) ]

/- The word characters of formulas. -/
def expressionWordChars : CharSet :=
  .ofRanges
    [ ('a', 'z'), ('A', 'Z'), ('0', '9'), ('_', '_'),
      ('\u00C0', '\u00FF'), ('\u0100', '\uFFFF') ]

/- A tree of spellings that all are plain symbols. -/
def SymbolTree.ofSpellings
    (spellings : List String) : SymbolTree :=
  spellings.foldl
    (fun t s => t.add s.toList .symbol) .empty

/- A map that gives roles to ranges, the later ones first. -/
def rolesOf
    (ranges : List (Char × Char × Role)) : CharMap Role :=
  ranges.foldl
    (fun m r => m.add r.1 r.2.1 r.2.2) .empty

------------------------------------------------------------
-- Tokenizers
------------------------------------------------------------

namespace Tokenizer

/- A tokenizer for loosely structured text. -/
def generic : Tokenizer where
  rules :=
    { blanks := standardBlanks
      wordChars := genericWordChars
      word := .plain
      number := .decimal
      quote := .plain
      comment := .line
      symbols := .ofSpellings ["<>", "<=", ">="] }
  roles := rolesOf
    [ ('\x00', lastChar, .symbol), ('\x00', ' ', .whitespace),
      ('a', 'z', .word), ('A', 'Z', .word),
      ('\u00C0', lastChar, .word), ('-', '-', .number),
      ('0', '9', .number), ('.', '.', .number),
      ('\x22', '\x22', .quote), ('\'', '\'', .quote),
      ('#', '#', .comment) ]
  options := .none

/- The tokenizer of formulas. -/
def expression : Tokenizer where
  rules :=
    { blanks := standardBlanks
      wordChars := expressionWordChars
      word := .keywords
      number := .scientific
      quote := .doubled
      comment := .slash
      symbols :=
        .ofSpellings ["<=", ">=", "<>", "!=", ">>", "<<"] }
  roles := rolesOf
    [ ('\x00', lastChar, .symbol), ('\x00', ' ', .whitespace),
      ('a', 'z', .word), ('A', 'Z', .word),
      ('\u00C0', '\u00FF', .word), ('_', '_', .word),
      ('0', '9', .number), ('-', '-', .number),
      ('.', '.', .number), ('\x22', '\x22', .quote),
      ('\'', '\'', .quote), ('/', '/', .comment) ]
  options := .none

/- A tokenizer of formulas with some options. -/
def expressionWith
    (options : Options) : Tokenizer :=
  ⟨expression.rules, expression.roles, options⟩

/- The tokenizer that a formula is parsed with. -/
def parsing : Tokenizer :=
  expressionWith
    { skipUnknown := false
      skipWhitespace := true
      skipComments := true
      skipEof := true
      mergeWhitespace := false
      unifyNumbers := false
      decodeStrings := true }

end Tokenizer

end Formula
