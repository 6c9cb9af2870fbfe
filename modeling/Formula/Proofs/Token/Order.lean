import Formula.Proofs.Text.Order
import Formula.Proofs.Grammar.Lexeme
import Formula.Proofs.Token.Spacing

/-
  The places of the tokens of a formula.

  A token stands where its first character does.  No token
  that is kept for parsing begins with a line break, because
  line breaks are white space.  So each stands at a later
  place than all tokens in front of it.

  Key definitions include:
    * `Token.BeginsWithColumn`

  Main statements:
    * `Tokenizer.precedes_of_mem_rawTokens`
    * `Tokenizer.exists_place_of_mem_parsing`
    * `Tokenizer.pairwise_parsing_tokens`
-/

namespace Formula

/- The first character of a token has a column of its own. -/
def Token.BeginsWithColumn
    (token : Token) : Prop :=
  ∃ c rest, token.value.toList = c :: rest ∧
    takesColumn c = true

namespace Tokenizer

variable {t : Tokenizer}
variable {k : Cursor}
variable {token token' : Token}

------------------------------------------------------------
-- Raw Tokens
------------------------------------------------------------

/- What comes behind some raw tokens is the text of the rest. -/
theorem after_of_rawTokens_split
    {before after : List Token}
    (hSplit : t.rawTokens k = before ++ token :: after) :
    (k.skip (Token.joined before).length).after =
      token.value.toList ++ Token.joined after := by
  rw [← t.joined_rawTokens, t.rawTokens_split hSplit,
    Token.joined_cons]

/- A raw token stands behind the cursor it is read from. -/
theorem precedes_of_mem_rawTokens
    (hMem : token ∈ t.rawTokens k)
    (hColumn : token.BeginsWithColumn) :
    k.place.Precedes token.position := by
  rcases List.append_of_mem hMem with ⟨before, after, hSplit⟩
  rcases hColumn with ⟨c, rest, hValue, hTakes⟩
  have hAfter := after_of_rawTokens_split hSplit
  rw [hValue, List.cons_append] at hAfter
  rw [t.position_of_rawTokens_split hSplit]
  exact (k.reaches_place_skip _).trans_precedes
    (Cursor.precedes_ahead hAfter hTakes)

/-
  Of two raw tokens the second one stands behind the first, if
  it begins with a character that has a column.
-/
theorem pairwise_rawTokens
    (t : Tokenizer)
    (k : Cursor) :
    (t.rawTokens k).Pairwise fun a b =>
      b.BeginsWithColumn → a.position.Precedes b.position := by
  fun_induction rawTokens t k with
  | case1 => exact .nil
  | case2 k c rest hAfter p ih =>
      refine .cons ?_ ih
      intro b hMem hColumn
      have hPassed := t.first_text_length_pos c rest
      exact (k.reaches_ahead_skip hPassed).trans_precedes
        (precedes_of_mem_rawTokens hMem hColumn)

/- A raw token has the place of a character of the text. -/
theorem exists_place_of_mem_rawTokens
    {text : List Char}
    (hMem : token ∈ t.rawTokens (.ofList text))
    (hColumn : token.BeginsWithColumn) :
    ∃ n, Cursor.HasColumn text n ∧
      Cursor.placeAt text n = token.position := by
  rcases List.append_of_mem hMem with ⟨before, after, hSplit⟩
  rcases hColumn with ⟨c, rest, hValue, hTakes⟩
  have hAfter := after_of_rawTokens_split hSplit
  rw [Cursor.after_skip, hValue] at hAfter
  refine ⟨_, ⟨c, ?_, hTakes⟩,
    (position_eq_placeAt hSplit).symm⟩
  have hHead := congrArg List.head? hAfter
  rw [List.head?_drop] at hHead
  exact hHead

------------------------------------------------------------
-- Tokens for Parsing
------------------------------------------------------------

/- The tokens of a formula are raw ones that are kept. -/
theorem parsing_tokens_eq
    (source : String) :
    parsing.tokens source =
      (expression.rawTokens (.ofList source.toList)).filterMap
        parsing.refine? := by
  have hRaw :
      parsing.rawTokens (.ofList source.toList) =
        expression.rawTokens (.ofList source.toList) :=
    rawTokens_expressionWith _ _
  have hEofFree : parsing.IsEofFree := isEofFree_expression
  rw [tokens_eq hEofFree, hRaw]
  exact List.append_nil _

/- A token that is kept begins with no line break. -/
theorem beginsWithColumn_of_refine?
    (hMem : token ∈ expression.rawTokens k)
    (hKept : parsing.refine? token = some token') :
    token.BeginsWithColumn := by
  rcases expression.exists_first_of_mem_rawTokens hMem with
    ⟨c, rest, hKind, hValue⟩
  rcases expression.exists_first_text_eq c rest with
    ⟨more, hText⟩
  refine ⟨c, more, hValue.trans hText, ?_⟩
  have hSolid : ¬ c ≤ ' ' := by
    intro hBlank
    rw [expression_first_of_blank hBlank] at hKind
    have hDropped : parsing.drops token.kind = true := by
      rw [hKind]
      rfl
    rw [refine?, hDropped] at hKept
    cases hKept
  have hLine {d : Char} (hBlank : d ≤ ' ') : c ≠ d := by
    rintro rfl
    exact hSolid hBlank
  have hFeed : c ≠ '\n' := hLine (by decide)
  have hReturn : c ≠ '\r' := hLine (by decide)
  simp [takesColumn, hFeed, hReturn]

/- A token that is kept stays where it is. -/
theorem position_of_refine?
    (hKept : t.refine? token = some token') :
    token'.position = token.position := by
  rw [refine?_eq_rewrite?, rewrite?] at hKept
  split at hKept
  · cases hKept
  · cases hKept
    rfl

/- A token of a formula has the place of a character. -/
theorem exists_place_of_mem_parsing
    {source : String}
    (hMem : token ∈ parsing.tokens source) :
    ∃ n, Cursor.HasColumn source.toList n ∧
      Cursor.placeAt source.toList n = token.position := by
  rw [parsing_tokens_eq] at hMem
  rcases List.mem_filterMap.mp hMem with ⟨raw, hRaw, hKept⟩
  rw [position_of_refine? hKept]
  exact exists_place_of_mem_rawTokens hRaw
    (beginsWithColumn_of_refine? hRaw hKept)

/- The tokens of a formula stand at later and later places. -/
theorem pairwise_parsing_tokens
    (source : String) :
    (parsing.tokens source).Pairwise fun a b =>
      a.position.Precedes b.position := by
  rw [parsing_tokens_eq, List.pairwise_filterMap]
  refine (pairwise_rawTokens expression _).imp_of_mem ?_
  intro a b _ hMem hPrecedes a' hFirst b' hSecond
  rw [position_of_refine? hFirst, position_of_refine? hSecond]
  exact hPrecedes (beginsWithColumn_of_refine? hMem hSecond)

end Tokenizer

end Formula
