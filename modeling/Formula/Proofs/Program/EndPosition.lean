import Formula.Proofs.Grammar.Localisation
import Formula.Proofs.Grammar.Lexeme

/-
  Where a source that ends too early is reported to end.

  The end is reckoned from the last token: as many columns
  behind its beginning as its value has characters.  That is
  where the token ends, if it is on one line and was not taken
  out of its quotes.

  Key definitions include:
    * `Token.endPlace`
    * `Lexeme.IsLast`

  Main statements:
    * `Tokenizer.endPlace_eq_along`
    * `Tokenizer.decoded_eq_iff`
    * `Program.position_of_early_end`
-/

namespace Formula

------------------------------------------------------------
-- Places on One Line
------------------------------------------------------------

theorem Position.along_inj
    {p : Position}
    {m n : Nat} :
    p.along m = p.along n ↔ m = n := by
  constructor
  · intro hAlong
    have hColumn := congrArg Position.column hAlong
    exact Nat.add_left_cancel hColumn
  · rintro rfl
    rfl

namespace Cursor

/- Characters with columns of their own stay on the line. -/
theorem place_skip_of_takesColumn
    {k : Cursor}
    {text rest : List Char}
    (hAfter : k.after = text ++ rest)
    (hColumns : ∀ c ∈ text, takesColumn c = true) :
    (k.skip text.length).place = k.place.along text.length := by
  induction text generalizing k with
  | nil => rfl
  | cons c text ih =>
      have hAhead : k.ahead = k.place.along 1 := by
        unfold ahead
        rw [hAfter]
        exact Position.advance_of_takesColumn
          (hColumns c List.mem_cons_self) _ _ _
      have hRest : k.read.after = text ++ rest := by
        rw [after_read, hAfter]
        rfl
      have hLater := ih hRest fun d hMem =>
        hColumns d (List.mem_cons_of_mem c hMem)
      rw [List.length_cons, skip, hLater, place_read, hAhead]
      simp only [Position.along, Nat.add_assoc, Nat.add_comm 1]

end Cursor

------------------------------------------------------------
-- Quotations
------------------------------------------------------------

/- Two quotes that are written as one make a text shorter. -/
theorem length_halveQuotes_le
    (q : Char)
    (text : List Char) :
    (halveQuotes q text).length ≤ text.length := by
  fun_induction halveQuotes q text with
  | case1 => exact Nat.le_refl _
  | case2 => exact Nat.le_refl _
  | case3 c d rest hQuotes ih =>
      rw [List.length_cons, List.length_cons, List.length_cons]
      omega
  | case4 c d rest hQuotes ih =>
      rw [List.length_cons, List.length_cons]
      omega

theorem length_lt_of_stripQuotes
    {q : Char}
    {text inner : List Char}
    (hStrip : stripQuotes q text = some inner) :
    inner.length < text.length := by
  unfold stripQuotes at hStrip
  split at hStrip
  · cases hStrip
  · split at hStrip
    · cases hStrip
      rw [List.length_dropLast, List.length_cons]
      omega
    · cases hStrip

/- Text that is taken out of its quotes gets shorter. -/
theorem QuoteRule.decode_eq_or_length_lt
    (r : QuoteRule)
    (q : Char)
    (text : List Char) :
    r.decode q text = text ∨
      (r.decode q text).length < text.length := by
  unfold decode
  cases hStrip : stripQuotes q text with
  | none => exact .inl rfl
  | some inner =>
      have hShorter := length_lt_of_stripQuotes hStrip
      cases r with
      | plain => exact .inr hShorter
      | doubled =>
          have hHalf := length_halveQuotes_le q inner
          exact .inr (Nat.lt_of_le_of_lt hHalf hShorter)

------------------------------------------------------------
-- Ends of Tokens
------------------------------------------------------------

/-
  The place behind the last character of a token, which stands
  in a text behind other tokens.
-/
def Token.endPlace
    (text : List Char)
    (before : List Token)
    (token : Token) : Position :=
  (Cursor.placeAt text
    ((joined before).length + (token.value.length - 1))).along 1

namespace Tokenizer

variable {t : Tokenizer}
variable {text : List Char}
variable {before after : List Token}
variable {token : Token}

/- A token on one line ends as many columns further on. -/
theorem endPlace_eq_along
    (hSplit :
      t.rawTokens (.ofList text) = before ++ token :: after)
    (hColumns :
      ∀ c ∈ token.value.toList, takesColumn c = true) :
    Token.endPlace text before token =
      token.position.along token.value.length := by
  have hMem : token ∈ t.rawTokens (.ofList text) := by
    rw [hSplit]
    exact List.mem_append_right _ List.mem_cons_self
  rcases List.exists_cons_of_ne_nil
    (t.value_ne_nil_of_mem_rawTokens hMem) with
    ⟨c, rest, hValue⟩
  have hLength : token.value.length = rest.length + 1 := by
    rw [← String.length_toList, hValue, List.length_cons]
  generalize hCursor :
    (Cursor.ofList text).skip (Token.joined before).length = k
  have hPosition : token.position = k.read.place := by
    rw [t.position_of_rawTokens_split hSplit, hCursor,
      Cursor.place_read]
  have hText : k.after = c :: (rest ++ Token.joined after) := by
    rw [← t.joined_rawTokens k, ← hCursor,
      t.rawTokens_split hSplit, Token.joined_cons, hValue]
    rfl
  have hBehind : k.read.after = rest ++ Token.joined after := by
    rw [Cursor.after_read, hText]
    rfl
  have hLast :
      (k.skip (rest.length + 1)).place =
        k.read.place.along rest.length := by
    apply Cursor.place_skip_of_takesColumn hBehind
    intro d hMem'
    apply hColumns
    rw [hValue]
    exact List.mem_cons_of_mem c hMem'
  unfold Token.endPlace Cursor.placeAt Cursor.past
  rw [hLength, Nat.add_sub_cancel, Nat.add_assoc,
    ← Cursor.skip_skip, hCursor, hLast, hPosition]
  rfl

/- A token in quotes is longer than what stands in them. -/
theorem decoded_eq_iff
    (t : Tokenizer)
    (token : Token) :
    (t.decoded token).value.length = token.value.length ↔
      t.decoded token = token := by
  constructor
  · intro hLength
    unfold decoded at hLength ⊢
    split
    · rfl
    · rename_i c rest hValue
      rw [hValue] at hLength
      dsimp only at hLength
      have hSame :
          t.valueOf c ⟨token.kind, c :: rest⟩ = c :: rest := by
        rw [String.length_ofList, ← String.length_toList,
          hValue] at hLength
        unfold valueOf at hLength ⊢
        split
        · rename_i hDecodes
          rw [if_pos hDecodes] at hLength
          rcases t.rules.quote.decode_eq_or_length_lt c
            (c :: rest) with hPlain | hShorter
          · exact hPlain
          · exact absurd hLength (Nat.ne_of_lt hShorter)
        · rfl
      rw [hSame, ← hValue, String.ofList_toList]
  · intro hDecoded
    rw [hDecoded]

end Tokenizer

------------------------------------------------------------
-- The Last Token
------------------------------------------------------------

namespace Lexeme

/- A token has a meaning, and none of those behind it has. -/
def IsLast
    (tokens before : List Token)
    (token : Token) : Prop :=
  ∃ after, tokens = before ++ token :: after ∧
    isIgnored token.kind = false ∧ meaningful after = []

/- The last of the tokens that have a meaning is the last. -/
theorem exists_isLast
    {tokens init : List Token}
    {token : Token}
    (hMeaningful : meaningful tokens = init ++ [token]) :
    ∃ before, IsLast tokens before token := by
  rcases List.filter_eq_append_iff.mp hMeaningful with
    ⟨first, second, rfl, _, hLast⟩
  rcases List.filter_eq_cons_iff.mp hLast with
    ⟨between, after, rfl, _, hToken, hAfter⟩
  refine ⟨first ++ between, after, ?_, by simpa using hToken,
    hAfter⟩
  rw [List.append_assoc]

/- Lexemes end where the last token with a meaning does. -/
theorem endOf_of_mapM
    {tokens : List Token}
    {ls : List Lexeme}
    (read : Token → Token)
    (hLexemes :
      tokens.mapM (fun token => ofToken? (read token)) =
        .ok ls)
    (hSome : ls ≠ []) :
    ∃ init token, tokens = init ++ [token] ∧
      endOf ls = (read token).ending := by
  rcases List.eq_nil_or_concat tokens with
    rfl | ⟨init, token, rfl⟩
  · cases hLexemes
    exact absurd rfl hSome
  · rw [List.concat_eq_append] at hLexemes ⊢
    refine ⟨init, token, rfl, ?_⟩
    rw [List.mapM_append] at hLexemes
    rcases Outcome.bind_eq_ok_iff.mp hLexemes with
      ⟨before, _, hLast⟩
    rcases Outcome.bind_eq_ok_iff.mp hLast with
      ⟨last, hToken, hResult⟩
    rw [List.mapM_cons] at hToken
    rcases Outcome.bind_eq_ok_iff.mp hToken with
      ⟨l, hLexeme, hRead⟩
    cases hRead
    cases hResult
    rw [endOf, List.getLast?_append]
    rcases exists_content_of_ofToken? hLexeme with ⟨_, rfl⟩
    rfl

end Lexeme

namespace Program

variable {source : String}
variable {ls : List Lexeme}
variable {f : SyntaxError}

/- A source that has lexemes is wrong when these are. -/
theorem ofLexemes?_of_parse_error
    (hLexemes :
      Lexeme.ofTokens? (Tokenizer.parsing.tokens source) =
        .ok ls)
    (hParse : parse source = .error f) :
    Program.ofLexemes? ls = .error f :=
  (ofTokens?_eq_ofLexemes? hLexemes).symm.trans hParse

/- An error behind all lexemes has the position behind them. -/
theorem position_eq_endOf
    (hParse : Program.ofLexemes? ls = .error f)
    (hEnd : stop? ls = some ls.length) :
    f.position = endOf ls := by
  rcases stop?_of_error hParse with
    ⟨before, _, _, hStop, hStands, _⟩
  rw [hEnd] at hStop
  rw [← Option.some.inj hStop, List.drop_length] at hStands
  exact hStands.1

/- The lexemes of a source end where its last token does. -/
theorem exists_last_of_lexemes
    (hLexemes :
      Lexeme.ofTokens? (Tokenizer.parsing.tokens source) =
        .ok ls)
    (hSome : ls ≠ []) :
    ∃ before token after,
      Tokenizer.expression.rawTokens (.ofList source.toList) =
        before ++ token :: after ∧
      Lexeme.IsLast (Tokenizer.expression.tokens source)
        before token ∧
      endOf ls = (Tokenizer.parsing.decoded token).ending := by
  have hTokens :
      Lexeme.ofTokens? (Tokenizer.parsing.tokens source) = _ :=
    Lexeme.ofTokens?_expressionWith rfl source
  rw [hTokens] at hLexemes
  rcases Lexeme.endOf_of_mapM Tokenizer.parsing.decoded
    hLexemes hSome with ⟨init, token, hMeaningful, hEnding⟩
  rcases Lexeme.exists_isLast hMeaningful with
    ⟨before, after, hSplit, hToken, hAfter⟩
  have hAll := Tokenizer.tokens_of_plain
    Tokenizer.isEofFree_expression
    (rfl : Tokenizer.expression.options = .none) source
  refine ⟨before, token, after, hSplit, ?_, hEnding⟩
  refine ⟨after ++ [(Cursor.ofList source.toList).endToken], ?_,
    hToken, ?_⟩
  · rw [hAll, hSplit, List.append_assoc]
    rfl
  · unfold Lexeme.meaningful at hAfter ⊢
    rw [List.filter_append, hAfter]
    rfl

/-
  A source that ends too early is reported to end behind its
  last token, by the length of its value.  If that token is on
  one line, this is where it ends just when the token was not
  taken out of its quotes.
-/
theorem position_of_early_end
    (source : String)
    (ls : List Lexeme)
    (f : SyntaxError)
    (hLexemes :
      Lexeme.ofTokens? (Tokenizer.parsing.tokens source) =
        .ok ls)
    (hParse : parse source = .error f)
    (hEnd : stop? ls = some ls.length)
    (hSome : ls ≠ []) :
    ∃ before token,
      Lexeme.IsLast (Tokenizer.expression.tokens source)
        before token ∧
      f.position =
        token.position.along
          (Tokenizer.parsing.decoded token).value.length ∧
      ((∀ c ∈ token.value.toList, takesColumn c = true) →
        (f.position =
            Token.endPlace source.toList before token ↔
          Tokenizer.parsing.decoded token = token)) := by
  have hError := ofLexemes?_of_parse_error hLexemes hParse
  rcases exists_last_of_lexemes hLexemes hSome with
    ⟨before, token, after, hSplit, hLast, hEnding⟩
  have hPosition :
      f.position =
        token.position.along
          (Tokenizer.parsing.decoded token).value.length := by
    rw [position_eq_endOf hError hEnd, hEnding, Token.ending,
      Tokenizer.position_decoded]
  refine ⟨before, token, hLast, hPosition, ?_⟩
  intro hColumns
  rw [hPosition, Tokenizer.endPlace_eq_along hSplit hColumns,
    Position.along_inj, Tokenizer.decoded_eq_iff]

/- The lexemes of `f(a, /* b */ c /* d`. -/
def openCallLexemes : List Lexeme :=
  [ ⟨.name "f", "f", ⟨1, 1⟩, ⟨1, 2⟩⟩,
    ⟨.mark .leftParen, "(", ⟨1, 2⟩, ⟨1, 3⟩⟩,
    ⟨.name "a", "a", ⟨1, 3⟩, ⟨1, 4⟩⟩,
    ⟨.mark .comma, ",", ⟨1, 4⟩, ⟨1, 5⟩⟩,
    ⟨.name "c", "c", ⟨1, 14⟩, ⟨1, 15⟩⟩ ]

theorem lexemes_openCall :
    Lexeme.ofTokens?
      (Tokenizer.parsing.tokens "f(a, /* b */ c /* d") =
        .ok openCallLexemes := by
  have hTokens :
      Tokenizer.parsing.tokens "f(a, /* b */ c /* d" =
        [ ⟨.word, "f", ⟨1, 1⟩⟩, ⟨.symbol, "(", ⟨1, 2⟩⟩,
          ⟨.word, "a", ⟨1, 3⟩⟩, ⟨.symbol, ",", ⟨1, 4⟩⟩,
          ⟨.word, "c", ⟨1, 14⟩⟩ ] := by
    decide +kernel
  rw [hTokens]
  rfl

/- A call that is not closed ends behind its last argument. -/
theorem position_of_early_end_openCall :
    parse "f(a, /* b */ c /* d" =
      .error ⟨.missingParenthesis, ⟨1, 15⟩⟩ ∧
    stop? openCallLexemes = some openCallLexemes.length ∧
    openCallLexemes ≠ [] ∧
    ∃ before token,
      Lexeme.IsLast
        (Tokenizer.expression.tokens "f(a, /* b */ c /* d")
        before token ∧
      ⟨1, 15⟩ =
        token.position.along
          (Tokenizer.parsing.decoded token).value.length := by
  have hParse :
      parse "f(a, /* b */ c /* d" =
        .error ⟨.missingParenthesis, ⟨1, 15⟩⟩ := by
    rw [parse, ofTokens?, lexemes_openCall]
    rfl
  have hEnd :
      stop? openCallLexemes =
        some openCallLexemes.length := rfl
  have hSome : openCallLexemes ≠ [] := List.cons_ne_nil _ _
  rcases position_of_early_end "f(a, /* b */ c /* d"
    openCallLexemes _ lexemes_openCall hParse hEnd hSome with
    ⟨before, token, hLast, hPosition, _⟩
  exact ⟨hParse, hEnd, hSome, before, token, hLast, hPosition⟩

/- The lexemes of `('ab'`. -/
def openGroupLexemes : List Lexeme :=
  [ ⟨.mark .leftParen, "(", ⟨1, 1⟩, ⟨1, 2⟩⟩,
    ⟨.constant (.string "ab"), "ab", ⟨1, 2⟩, ⟨1, 4⟩⟩ ]

theorem lexemes_openGroup :
    Lexeme.ofTokens? (Tokenizer.parsing.tokens "('ab'") =
      .ok openGroupLexemes := by
  have hTokens :
      Tokenizer.parsing.tokens "('ab'" =
        [ ⟨.symbol, "(", ⟨1, 1⟩⟩,
          ⟨.quoted, "ab", ⟨1, 2⟩⟩ ] := by
    decide +kernel
  rw [hTokens]
  rfl

theorem isLast_openGroup :
    Lexeme.IsLast (Tokenizer.expression.tokens "('ab'")
      [⟨.symbol, "(", ⟨1, 1⟩⟩] ⟨.quoted, "'ab'", ⟨1, 2⟩⟩ := by
  have hTokens :
      Tokenizer.expression.tokens "('ab'" =
        [ ⟨.symbol, "(", ⟨1, 1⟩⟩,
          ⟨.quoted, "'ab'", ⟨1, 2⟩⟩,
          ⟨.eof, "", ⟨1, 5⟩⟩ ] := by
    decide +kernel
  exact ⟨_, hTokens, rfl, rfl⟩

/-
  A source that ends with a quotation is not always reported
  to end behind its last character.
-/
theorem position_ne_endPlace_openGroup :
    ¬ ∀ (source : String) (ls : List Lexeme) (f : SyntaxError),
      Lexeme.ofTokens? (Tokenizer.parsing.tokens source) =
        .ok ls →
      parse source = .error f →
      stop? ls = some ls.length → ls ≠ [] →
      ∀ before token,
        Lexeme.IsLast (Tokenizer.expression.tokens source)
          before token →
        f.position =
          Token.endPlace source.toList before token := by
  intro hClaim
  have hParse :
      parse "('ab'" =
        .error ⟨.missingParenthesis, ⟨1, 4⟩⟩ := by
    rw [parse, ofTokens?, lexemes_openGroup]
    rfl
  have hPosition :=
    hClaim _ _ _ lexemes_openGroup hParse rfl
      (List.cons_ne_nil _ _) _ _ isLast_openGroup
  exact absurd hPosition (by decide)

end Program

end Formula
