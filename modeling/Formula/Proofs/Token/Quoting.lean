import Formula.Proofs.Token.Order

/-
  Any text can be quoted.

  A text whose quotes are doubled is read through to the quote
  that closes it, wherever it has quotes of its own, and halving
  its quotes gives it back.  So the quotation of a text is one
  token of a formula, whatever follows, as long as this is not
  another quote.

  Key definitions include:
    * `Tokenizer.quoted`
    * `Tokenizer.unquoted`
    * `TokenKind.ofQuote`

  Main statements:
    * `QuoteRule.decode_encode`
    * `QuoteRule.read_encode_append`
    * `Tokenizer.head?_tokens_quoted`
    * `Tokenizer.parsing_tokens_quoted`
-/

namespace Formula

variable {q c : Char}
variable {text rest : List Char}

------------------------------------------------------------
-- Doubled Quotes
------------------------------------------------------------

theorem doubleQuotes_cons_self
    (q : Char)
    (text : List Char) :
    doubleQuotes q (q :: text) =
      q :: q :: doubleQuotes q text := by
  rw [doubleQuotes, List.flatMap_cons, if_pos rfl]
  rfl

theorem doubleQuotes_cons_of_ne
    (hOther : c ≠ q)
    (text : List Char) :
    doubleQuotes q (c :: text) = c :: doubleQuotes q text := by
  rw [doubleQuotes, List.flatMap_cons, if_neg hOther]
  rfl

theorem halveQuotes_cons_of_ne
    (hOther : c ≠ q)
    (text : List Char) :
    halveQuotes q (c :: text) = c :: halveQuotes q text := by
  cases text with
  | nil => rfl
  | cons d text =>
      rw [halveQuotes, if_neg fun hQuotes => hOther hQuotes.1]

/- Doubled quotes are halved to those of the text. -/
theorem halveQuotes_doubleQuotes
    (q : Char)
    (text : List Char) :
    halveQuotes q (doubleQuotes q text) = text := by
  induction text with
  | nil => rfl
  | cons c text ih =>
      by_cases hQuote : c = q
      · subst hQuote
        rw [doubleQuotes_cons_self, halveQuotes,
          if_pos ⟨rfl, rfl⟩, ih]
      · rw [doubleQuotes_cons_of_ne hQuote,
          halveQuotes_cons_of_ne hQuote, ih]

theorem throughLoneQuote_cons_of_ne
    (hOther : c ≠ q)
    (text : List Char) :
    throughLoneQuote q (c :: text) =
      c :: throughLoneQuote q text := by
  cases text with
  | nil => rfl
  | cons d text => rw [throughLoneQuote, if_neg hOther]

/- A quote that no other one follows is the last one. -/
theorem throughLoneQuote_cons_self
    (hRest : rest.head? ≠ some q) :
    throughLoneQuote q (q :: rest) = [q] := by
  cases rest with
  | nil => rfl
  | cons d rest =>
      have hOther : d ≠ q := by
        rintro rfl
        exact hRest rfl
      rw [throughLoneQuote, if_pos rfl, if_neg hOther]

/- Doubled quotes are passed over, up to the one that closes. -/
theorem throughLoneQuote_doubleQuotes
    (hRest : rest.head? ≠ some q)
    (text : List Char) :
    throughLoneQuote q (doubleQuotes q text ++ q :: rest) =
      doubleQuotes q text ++ [q] := by
  induction text with
  | nil => exact throughLoneQuote_cons_self hRest
  | cons c text ih =>
      by_cases hQuote : c = q
      · subst hQuote
        rw [doubleQuotes_cons_self, List.cons_append,
          List.cons_append, throughLoneQuote, if_pos rfl,
          if_pos rfl, ih]
        rfl
      · rw [doubleQuotes_cons_of_ne hQuote, List.cons_append,
          throughLoneQuote_cons_of_ne hQuote, ih]
        rfl

------------------------------------------------------------
-- Quotations
------------------------------------------------------------

theorem stripQuotes_between
    (q : Char)
    (text : List Char) :
    stripQuotes q (q :: (text ++ [q])) = some text := by
  rw [stripQuotes, List.getLast?_concat, if_pos ⟨rfl, rfl⟩,
    List.dropLast_concat]

namespace QuoteRule

/- A text is taken out of the quotes it was put in. -/
theorem decode_encode
    (r : QuoteRule)
    (q : Char)
    (text : List Char) :
    r.decode q (r.encode q text) = text := by
  cases r with
  | plain =>
      rw [encode, List.cons_append, decode, stripQuotes_between]
  | doubled =>
      rw [encode, List.cons_append, decode, stripQuotes_between]
      exact halveQuotes_doubleQuotes q text

theorem encode_append
    (q : Char)
    (text rest : List Char) :
    doubled.encode q text ++ rest =
      q :: (doubleQuotes q text ++ q :: rest) := by
  rw [encode, List.cons_append, List.cons_append,
    List.append_assoc]
  rfl

/- A quotation is read up to its end. -/
theorem read_encode_append
    (hRest : rest.head? ≠ some q)
    (text : List Char) :
    doubled.read (doubled.encode q text ++ rest) =
      doubled.encode q text := by
  rw [encode_append, read,
    throughLoneQuote_doubleQuotes hRest]
  rfl

end QuoteRule

------------------------------------------------------------
-- Tokens
------------------------------------------------------------

/- What kind of token begins with a quote. -/
def TokenKind.ofQuote
    (q : Char) : TokenKind :=
  if q = '\x22' then .word else .quoted

theorem readQuoted_doubled
    (q : Char)
    (rest : List Char) :
    readQuoted .doubled (q :: rest) =
      ⟨.ofQuote q, QuoteRule.doubled.read (q :: rest)⟩ := by
  unfold readQuoted TokenKind.ofQuote
  split
  · rename_i hSame
    cases hSame
    rfl
  · rename_i hOther
    have hQuote : q ≠ '\x22' := by
      rintro rfl
      exact hOther rest rfl rfl
    rw [if_neg hQuote]

namespace Tokenizer

/- A text in quotes, as a tokenizer reads them. -/
def quoted
    (t : Tokenizer)
    (q : Char)
    (s : String) : String :=
  String.ofList (t.rules.quote.encode q s.toList)

/- A text without its quotes, if it is in quotes. -/
def unquoted
    (t : Tokenizer)
    (q : Char)
    (s : String) : String :=
  String.ofList (t.rules.quote.decode q s.toList)

theorem unquoted_quoted
    (t : Tokenizer)
    (q : Char)
    (s : String) :
    t.unquoted q (t.quoted q s) = s := by
  rw [unquoted, quoted, String.toList_ofList,
    QuoteRule.decode_encode, String.ofList_toList]

/- The quotes of formulas. -/
theorem expression_role?_quote_iff :
    expression.role? q = some .quote ↔
      q = '\x22' ∨ q = '\'' := by
  constructor
  · exact expression_role?_cases
  · rintro (rfl | rfl)
    · decide +kernel
    · decide +kernel

/- What does not begin with a quote is not decoded. -/
theorem decoded_of_ne_quote
    {token : Token}
    (hFirst :
      ∀ c ∈ token.value.toList.head?, c ≠ '\x22' ∧ c ≠ '\'') :
    parsing.decoded token = token := by
  unfold decoded
  split
  · rfl
  · rename_i c rest hText
    rw [hText] at hFirst
    have hNone : parsing.role? c ≠ some .quote := by
      intro hRole
      rcases expression_role?_quote_iff.mp hRole with rfl | rfl
      · exact (hFirst _ rfl).1 rfl
      · exact (hFirst _ rfl).2 rfl
    rw [valueOf, if_neg fun hQuoted => hNone hQuoted.2, ← hText,
      String.ofList_toList]

/- A text in quotes is the one with its quotes doubled. -/
theorem toList_quoted_append
    (q : Char)
    (s : String)
    (rest : List Char) :
    (expression.quoted q s).toList ++ rest =
      q :: (doubleQuotes q s.toList ++ q :: rest) := by
  rw [quoted, String.toList_ofList]
  exact QuoteRule.encode_append q s.toList rest

/- A quotation that nothing extends is the first piece. -/
theorem first_quoted
    (hQuote : q = '\x22' ∨ q = '\'')
    (s : String)
    (hRest : rest.head? ≠ some q) :
    expression.first q (doubleQuotes q s.toList ++ q :: rest) =
      ⟨.ofQuote q, (expression.quoted q s).toList⟩ := by
  have hRead := QuoteRule.read_encode_append hRest s.toList
  rw [QuoteRule.encode_append] at hRead
  rw [expression_first_eq_read
    (expression_role?_quote_iff.mpr hQuote), quoted,
    String.toList_ofList]
  change readQuoted .doubled (q :: _) = _
  rw [readQuoted_doubled, hRead]
  rfl

/- A quotation that nothing extends is read as one token. -/
theorem exists_rawTokens_quoted
    (hQuote : q = '\x22' ∨ q = '\'')
    (s : String)
    (hRest : rest.head? ≠ some q) :
    ∃ k : Cursor, k.after = rest ∧
      expression.rawTokens
        (.ofList ((expression.quoted q s).toList ++ rest)) =
          ⟨.ofQuote q, expression.quoted q s, ⟨1, 1⟩⟩ ::
          expression.rawTokens k := by
  have hColumn : takesColumn q = true := by
    rcases hQuote with rfl | rfl
    · rfl
    · rfl
  have hAhead :
      (Cursor.ofList
        (q :: (doubleQuotes q s.toList ++ q :: rest))).ahead =
          ⟨1, 1⟩ :=
    Position.advance_of_takesColumn hColumn _ _ _
  refine ⟨(Cursor.ofList
    ((expression.quoted q s).toList ++ rest)).skip
      (expression.quoted q s).toList.length, ?_, ?_⟩
  · rw [Cursor.after_skip]
    exact List.drop_left
  · rw [toList_quoted_append, expression.rawTokens_of_more rfl,
      first_quoted hQuote s hRest, Cursor.take, hAhead,
      String.ofList_toList]

/- What begins with a quotation has it as its first token. -/
theorem head?_tokens_quoted
    (hQuote : q = '\x22' ∨ q = '\'')
    (s : String)
    {rest : String}
    (hRest : rest.toList.head? ≠ some q) :
    (expression.tokens
      (expression.quoted q s ++ rest)).head? =
        some ⟨.ofQuote q, expression.quoted q s, ⟨1, 1⟩⟩ := by
  rcases exists_rawTokens_quoted hQuote s hRest with
    ⟨k, _, hTokens⟩
  rw [tokens_of_plain isEofFree_expression rfl,
    String.toList_append, hTokens]
  rfl

/- For parsing a token is kept as it is, if not in quotes. -/
theorem refine?_of_ne_quote
    {kind : TokenKind}
    {value : String}
    (hMeaning : Lexeme.isIgnored kind = false)
    (hKnown : kind ≠ .unknown)
    (hFirst :
      ∀ c ∈ value.toList.head?, c ≠ '\x22' ∧ c ≠ '\'')
    (p : Position) :
    parsing.refine? ⟨kind, value, p⟩ =
      some ⟨kind, value, p⟩ := by
  have hDecoded :
      parsing.decoded ⟨kind, value, p⟩ = ⟨kind, value, p⟩ :=
    decoded_of_ne_quote hFirst
  rw [Lexeme.refine?_of_meaningful hMeaning hKnown, hDecoded]
  cases kind with
  | _ => rfl

/- For parsing a quotation is taken out of its quotes. -/
theorem refine?_quoted
    (hQuote : q = '\x22' ∨ q = '\'')
    (s : String)
    (p : Position) :
    parsing.refine?
      ⟨.ofQuote q, expression.quoted q s, p⟩ =
        some ⟨.ofQuote q, s, p⟩ := by
  have hRole : parsing.role? q = some .quote :=
    expression_role?_quote_iff.mpr hQuote
  have hText := toList_quoted_append q s []
  rw [List.append_nil] at hText
  have hInner :
      parsing.rules.quote.decode q
        (q :: (doubleQuotes q s.toList ++ [q])) = s.toList :=
    QuoteRule.doubled.decode_encode q s.toList
  have hDecoded :
      parsing.decoded ⟨.ofQuote q, expression.quoted q s, p⟩ =
        ⟨.ofQuote q, s, p⟩ := by
    unfold decoded
    dsimp only
    rw [hText]
    dsimp only
    rw [valueOf, if_pos ⟨rfl, hRole⟩, hInner,
      String.ofList_toList]
  rw [refine?, hDecoded]
  rcases hQuote with rfl | rfl
  · rfl
  · rfl

/- A quotation by itself is parsed from what stands in it. -/
theorem parsing_tokens_quoted
    (hQuote : q = '\x22' ∨ q = '\'')
    (s : String) :
    parsing.tokens (expression.quoted q s) =
      [⟨.ofQuote q, s, ⟨1, 1⟩⟩] := by
  have hNone : ([] : List Char).head? ≠ some q := by
    intro hSame
    cases hSame
  rcases exists_rawTokens_quoted hQuote s hNone with
    ⟨k, hEnd, hTokens⟩
  rw [List.append_nil, expression.rawTokens_of_end hEnd]
    at hTokens
  rw [parsing_tokens_eq, hTokens, List.filterMap_cons,
    refine?_quoted hQuote]
  rfl

end Tokenizer

end Formula
