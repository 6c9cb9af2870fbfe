/-
  Quoted text.

  A quoted text stands between two quote characters.  Plain
  quoting cannot hold its quote character; doubled quoting
  writes it twice.

  Key definitions include:
    * `QuoteRule`
    * `QuoteRule.encode`
    * `QuoteRule.decode`
    * `QuoteRule.read`
-/

namespace Formula

------------------------------------------------------------
-- Delimiters
------------------------------------------------------------

/- The text between two quote characters. -/
def stripQuotes
    (q : Char) : List Char → Option (List Char)
  | [] => none
  | c :: rest =>
      if c = q ∧ rest.getLast? = some q then
        some rest.dropLast
      else none

/- The text up to a quote character and with it. -/
def throughQuote
    (q : Char) : List Char → List Char
  | [] => []
  | c :: rest =>
      if c = q then [c] else c :: throughQuote q rest

/-
  The text up to a quote character and with it, where two of
  them are passed over.
-/
def throughLoneQuote
    (q : Char) : List Char → List Char
  | [] => []
  | [c] => [c]
  | c :: d :: rest =>
      if c = q then
        if d = q then c :: d :: throughLoneQuote q rest
        else [c]
      else c :: throughLoneQuote q (d :: rest)

/- Write every quote character twice. -/
def doubleQuotes
    (q : Char)
    (text : List Char) : List Char :=
  text.flatMap fun c => if c = q then [q, q] else [c]

/- Write two quote characters as one, from the left. -/
def halveQuotes
    (q : Char) : List Char → List Char
  | [] => []
  | [c] => [c]
  | c :: d :: rest =>
      if c = q ∧ d = q then q :: halveQuotes q rest
      else c :: halveQuotes q (d :: rest)

------------------------------------------------------------
-- Rules
------------------------------------------------------------

/- The ways to quote a text. -/
inductive QuoteRule where
  | plain
  | doubled
deriving DecidableEq, Repr

namespace QuoteRule

/- Put a text in quotes. -/
def encode
    (r : QuoteRule)
    (q : Char)
    (text : List Char) : List Char :=
  match r with
  | .plain => q :: text ++ [q]
  | .doubled => q :: doubleQuotes q text ++ [q]

/-
  The text that stands in quotes.  What does not begin and
  end with the quote character is left as it is.
-/
def decode
    (r : QuoteRule)
    (q : Char)
    (text : List Char) : List Char :=
  match stripQuotes q text with
  | none => text
  | some inner =>
      match r with
      | .plain => inner
      | .doubled => halveQuotes q inner

/-
  The quoted text with which a text begins, whatever its
  first character is.  It ends with the text if no quote
  character closes it.
-/
def read
    (r : QuoteRule) : List Char → List Char
  | [] => []
  | q :: rest =>
      match r with
      | .plain => q :: throughQuote q rest
      | .doubled => q :: throughLoneQuote q rest

end QuoteRule

end Formula
