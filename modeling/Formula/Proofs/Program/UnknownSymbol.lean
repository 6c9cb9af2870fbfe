import Formula.Proofs.Grammar.Classification
import Formula.Proofs.Program.EndPosition

/-
  Unknown symbols.

  A source has an unknown symbol just when a token of it is a
  symbol that is no operator and no punctuation.  The first of
  these is reported, whatever else is wrong with the source,
  because all tokens are understood before any is parsed.

  Main statements:
    * `Program.parse_of_first_stray`
    * `Program.parse_unknownSymbol`
-/

namespace Formula

/- What is wrong with the order of lexemes is no symbol. -/
theorem SyntaxError.StandsAt.cause_ne
    {f : SyntaxError}
    {ending : Position}
    {ls : List Lexeme}
    (hStands : f.StandsAt ending ls)
    (s : String) :
    f.cause ≠ .unknownSymbol s := by
  have hMissing :
      f.cause.IsMissing → f.cause ≠ .unknownSymbol s := by
    rintro (hCause | hCause)
    · rw [hCause]
      rintro ⟨⟩
    · rw [hCause]
      rintro ⟨⟩
  cases ls with
  | nil =>
      rcases hStands.2 with hCause | hCause
      · rw [hCause]
        rintro ⟨⟩
      · exact hMissing hCause
  | cons l rest =>
      rcases hStands.2 with hCause | hCause | hCause
      · rw [hCause]
        rintro ⟨⟩
      · rw [hCause]
        rintro ⟨⟩
      · exact hMissing hCause

namespace Program

open Tokenizer

variable {source : String}

/- All tokens that are parsed have to have a meaning. -/
theorem ofTokens?_parsing
    (source : String) :
    Lexeme.ofTokens? (parsing.tokens source) =
      (parsing.tokens source).mapM Lexeme.ofToken? := by
  have hAll :
      (parsing.tokens source).filter
          (fun t => !Lexeme.isIgnored t.kind) =
        parsing.tokens source := by
    apply List.filter_eq_self.mpr
    intro token hMem
    rw [(fits_of_mem_parsing hMem).2]
    rfl
  rw [Lexeme.ofTokens?, hAll]

/- A token that is parsed has a meaning unless it is stray. -/
theorem exists_lexeme_of_mem_parsing
    {token : Token}
    (hMem : token ∈ parsing.tokens source)
    (hListed : ¬ token.IsStray) :
    ∃ l, Lexeme.ofToken? token = .ok l := by
  rcases fits_of_mem_parsing hMem with ⟨hFits, hMeaning⟩
  exact Lexeme.exists_ofToken? hFits hMeaning hListed

/- The first stray token of a source is reported. -/
theorem parse_of_first_stray
    {before after : List Token}
    {token : Token}
    (hSplit :
      parsing.tokens source = before ++ token :: after)
    (hBefore : ∀ other ∈ before, ¬ other.IsStray)
    (hStray : token.IsStray) :
    parse source =
      .error ⟨.unknownSymbol token.value, token.position⟩ := by
  have hRead :
      ∀ other ∈ before, ∃ l, Lexeme.ofToken? other = .ok l := by
    intro other hMem
    have hToken : other ∈ parsing.tokens source := by
      rw [hSplit]
      exact List.mem_append_left _ hMem
    exact exists_lexeme_of_mem_parsing hToken
      (hBefore other hMem)
  rw [parse, ofTokens?, ofTokens?_parsing, hSplit,
    Outcome.mapM_eq_error hRead
      (Lexeme.ofToken?_of_isStray hStray)]
  rfl

/- Without a stray token no symbol is reported. -/
theorem exists_stray_of_unknownSymbol
    {s : String}
    {p : Position}
    (hParse : parse source = .error ⟨.unknownSymbol s, p⟩) :
    ∃ token ∈ parsing.tokens source, token.IsStray := by
  by_contra hNone
  have hRead :
      ∀ token ∈ parsing.tokens source,
        ∃ l, Lexeme.ofToken? token = .ok l := by
    intro token hMem
    exact exists_lexeme_of_mem_parsing hMem
      fun hStray => hNone ⟨token, hMem, hStray⟩
  rcases Outcome.exists_mapM_eq_ok hRead with ⟨ls, hLexemes⟩
  rw [← ofTokens?_parsing] at hLexemes
  have hError := ofLexemes?_of_parse_error hLexemes hParse
  rcases Expr.exists_split_of_error
      (ofLexemes?_eq_error_iff.mp hError) with
    ⟨before, after, _, hStands, _⟩
  exact hStands.cause_ne s rfl

/-
  A source is refused for a symbol just when one of its tokens
  is a symbol that is no operator and no punctuation.  The
  first such token is reported with its text and its place,
  whatever stands before it.  No token is unknown; reserved
  words, numbers, quotations and names all have a meaning.
-/
theorem parse_unknownSymbol
    (source : String) :
    let tokens := parsing.tokens source
    ((∃ s p, parse source = .error ⟨.unknownSymbol s, p⟩) ↔
      ∃ token ∈ tokens, token.IsStray) ∧
    (∀ before token after,
      tokens = before ++ token :: after →
        (∀ other ∈ before, ¬ other.IsStray) →
        token.IsStray →
        parse source =
          .error ⟨.unknownSymbol token.value,
            token.position⟩) ∧
    ∀ token ∈ tokens,
      token.kind ≠ .unknown ∧
      (token.kind ∈
          [ TokenKind.keyword, .integer, .float, .quoted,
            .word ] →
        ∃ l, Lexeme.ofToken? token = .ok l) := by
  intro tokens
  refine ⟨⟨?_, ?_⟩, ?_, ?_⟩
  · rintro ⟨s, p, hParse⟩
    exact exists_stray_of_unknownSymbol hParse
  · rintro ⟨token, hMem, hStray⟩
    have hSome : (tokens.find? (·.IsStray)).isSome :=
      List.find?_isSome.mpr
        ⟨token, hMem, decide_eq_true hStray⟩
    rcases Option.isSome_iff_exists.mp hSome with
      ⟨first, hFirst⟩
    rcases List.find?_eq_some_iff_append.mp hFirst with
      ⟨hFound, before, after, hSplit, hBefore⟩
    refine ⟨_, _, parse_of_first_stray hSplit ?_
      (of_decide_eq_true hFound)⟩
    intro other hOther
    simpa using hBefore other hOther
  · intro before token after hSplit hBefore hStray
    exact parse_of_first_stray hSplit hBefore hStray
  · intro token hMem
    have hFits := (fits_of_mem_parsing hMem).1
    refine ⟨?_, ?_⟩
    · intro hUnknown
      rw [hUnknown] at hFits
      exact hFits
    · intro hKind
      apply exists_lexeme_of_mem_parsing hMem
      rintro ⟨hSymbol, _⟩
      rw [hSymbol] at hKind
      exact absurd hKind (by decide)

/-
  A parenthesis that was never opened stands in front of the
  symbol that is reported, and another symbol behind it.
-/
theorem parse_unknownSymbol_misplaced :
    let before : List Token :=
      [ ⟨.keyword, "nOt", ⟨1, 1⟩⟩, ⟨.integer, "1", ⟨1, 5⟩⟩,
        ⟨.symbol, ")", ⟨1, 6⟩⟩ ]
    let after : List Token :=
      [ ⟨.float, ".5", ⟨1, 10⟩⟩, ⟨.symbol, ";", ⟨1, 12⟩⟩,
        ⟨.quoted, "b", ⟨1, 14⟩⟩ ]
    parsing.tokens "nOt 1) $ .5; 'b'" =
      before ++ ⟨.symbol, "$", ⟨1, 8⟩⟩ :: after ∧
    (∀ other ∈ before, ¬ other.IsStray) ∧
    Token.IsStray ⟨.symbol, "$", ⟨1, 8⟩⟩ ∧
    parse "nOt 1) $ .5; 'b'" =
      .error ⟨.unknownSymbol "$", ⟨1, 8⟩⟩ ∧
    ∃ l, Lexeme.ofToken? ⟨.keyword, "nOt", ⟨1, 1⟩⟩ =
      .ok l := by
  intro before after
  have hTokens :
      parsing.tokens "nOt 1) $ .5; 'b'" =
        before ++ ⟨.symbol, "$", ⟨1, 8⟩⟩ :: after := by
    decide +kernel
  have hBefore : ∀ other ∈ before, ¬ other.IsStray := by
    decide
  have hStray : Token.IsStray ⟨.symbol, "$", ⟨1, 8⟩⟩ := by
    decide
  rcases parse_unknownSymbol "nOt 1) $ .5; 'b'" with
    ⟨_, hReported, hMeaning⟩
  have hMem :
      (⟨.keyword, "nOt", ⟨1, 1⟩⟩ : Token) ∈
        parsing.tokens "nOt 1) $ .5; 'b'" := by
    rw [hTokens]
    exact List.mem_cons_self
  exact ⟨hTokens, hBefore, hStray,
    hReported _ _ _ hTokens hBefore hStray,
    (hMeaning _ hMem).2 List.mem_cons_self⟩

end Program

end Formula
