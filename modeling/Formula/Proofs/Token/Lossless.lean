import Formula.Proofs.Token.Stream

/-
  Nothing of a text is lost in its tokens.

  A tokenizer that drops and adjusts nothing cuts a text into
  tokens that are not empty, each at the place of its first
  character.  One empty token marks the end.

  Main statements:
    * `Tokenizer.tokens_of_plain`
    * `Tokenizer.tokens_lossless`
-/

namespace Formula

namespace Tokenizer

variable {t : Tokenizer}

------------------------------------------------------------
-- Plain Tokenizers
------------------------------------------------------------

/- Without options every token is kept as it is. -/
theorem refine?_of_plain
    (hOptions : t.options = .none)
    (token : Token) :
    t.refine? token = some token := by
  have hKept : t.drops token.kind = false := by
    rw [drops, hOptions]
    cases token.kind with
    | _ => rfl
  have hDecoded : t.decoded token = token := by
    unfold decoded
    split
    · rfl
    · rename_i c rest hValue
      have hText : t.valueOf c ⟨token.kind, c :: rest⟩ =
          token.value.toList := by
        have hPlain : Options.none.decodeStrings ≠ true := by
          decide
        rw [valueOf, hOptions, hValue]
        exact if_neg fun hDecodes => hPlain hDecodes.1
      rw [hText, String.ofList_toList]
  have hAdjusted : Options.none.adjust token = token := by
    unfold Options.adjust
    split
    · rfl
    · rfl
    · rfl
    · rfl
  rw [refine?, hKept, hDecoded, hOptions, hAdjusted]
  rfl

/- Without options the tokens are the raw ones and the end. -/
theorem tokens_of_plain
    (hEofFree : t.IsEofFree)
    (hOptions : t.options = .none)
    (text : String) :
    t.tokens text =
      t.rawTokens (.ofList text.toList) ++
        [(Cursor.ofList text.toList).endToken] := by
  have hRefine : t.refine? = some :=
    funext (refine?_of_plain hOptions)
  rw [tokens_eq hEofFree, hRefine, List.filterMap_some,
    hOptions]
  rfl

/- No raw token marks the end of the text. -/
theorem kind_ne_eof_of_mem_rawTokens
    (hEofFree : t.IsEofFree)
    {k : Cursor}
    {token : Token}
    (hMem : token ∈ t.rawTokens k) :
    token.kind ≠ .eof := by
  rcases t.exists_first_of_mem_rawTokens hMem with
    ⟨c, rest, hKind, _⟩
  rw [hKind]
  exact t.first_kind_ne_eof hEofFree c rest

/- A raw token stands where its first character does. -/
theorem position_eq_placeAt
    {text : List Char}
    {before after : List Token}
    {token : Token}
    (hSplit :
      t.rawTokens (.ofList text) = before ++ token :: after) :
    token.position =
      Cursor.placeAt text (Token.joined before).length := by
  rw [t.position_of_rawTokens_split hSplit, Cursor.placeAt,
    Cursor.past, Cursor.place_skip_succ]

------------------------------------------------------------
-- Whole Texts
------------------------------------------------------------

/-
  Of a text whose tokens are not dropped or adjusted, the
  stream of tokens ends, the tokens make up the text, and each
  has the place of its first character.
-/
theorem tokens_lossless
    (t : Tokenizer)
    (entries : List (List Char × TokenKind))
    (text : String)
    (hSymbols : t.rules.symbols = .ofEntries entries)
    (hEntries : ∀ e ∈ entries, e.2 ≠ .eof)
    (hOptions : t.options = .none) :
    (∃ last,
      (TokenStream.ofText t text.toList).Gives
        (t.tokens text) last ∧
      last.next = (none, last)) ∧
    String.join ((t.tokens text).map Token.value) = text ∧
    ∃ words mark,
      t.tokens text = words ++ [mark] ∧
      mark.kind = .eof ∧ mark.value = "" ∧
      (∀ w ∈ words, w.kind ≠ .eof ∧ w.value ≠ "") ∧
      ∀ before w after, words = before ++ w :: after →
        w.position =
          Cursor.placeAt text.toList
            (Token.joined before).length := by
  have hEofFree := t.isEofFree_of_entries hSymbols hEntries
  have hTokens := tokens_of_plain hEofFree hOptions text
  refine ⟨?_, ?_, ?_⟩
  · have hGives :=
      (TokenStream.ofText t text.toList).gives_drain
    exact ⟨_, hGives, hGives.next_eq⟩
  · apply String.toList_inj.mp
    have hJoined := t.joined_rawTokens (.ofList text.toList)
    rw [String.toList_join, List.flatMap_map, hTokens,
      List.flatMap_append]
    have hMark :
        [(Cursor.ofList text.toList).endToken].flatMap
          (fun token => token.value.toList) = [] := rfl
    rw [hMark, List.append_nil]
    exact hJoined
  · refine ⟨_, _, hTokens, rfl, rfl, ?_, ?_⟩
    · intro w hMem
      refine ⟨kind_ne_eof_of_mem_rawTokens hEofFree hMem, ?_⟩
      intro hEmpty
      have hValue := t.value_ne_nil_of_mem_rawTokens hMem
      rw [hEmpty] at hValue
      exact hValue rfl
    · intro before w after hSplit
      exact position_eq_placeAt hSplit

/- The symbols of formulas, as they are entered. -/
def expressionEntries : List (List Char × TokenKind) :=
  [ (['<', '='], .symbol), (['>', '='], .symbol),
    (['<', '>'], .symbol), (['!', '='], .symbol),
    (['>', '>'], .symbol), (['<', '<'], .symbol) ]

/-
  A number without an exponent, a comment and an open quote
  with a line break are kept.
-/
theorem tokens_lossless_expression :
    expression.rules.symbols = .ofEntries expressionEntries ∧
    (∀ e ∈ expressionEntries, e.2 ≠ .eof) ∧
    expression.options = .none ∧
    String.join
      ((expression.tokens "1e+.<!/*/*/'x\r\n''").map
        Token.value) = "1e+.<!/*/*/'x\r\n''" := by
  have hSymbols :
      expression.rules.symbols =
        .ofEntries expressionEntries := rfl
  have hEntries : ∀ e ∈ expressionEntries, e.2 ≠ .eof := by
    decide
  refine ⟨hSymbols, hEntries, rfl, ?_⟩
  exact (tokens_lossless expression expressionEntries
    "1e+.<!/*/*/'x\r\n''" hSymbols hEntries rfl).2.1

end Tokenizer

end Formula
