import Formula.Program.Basic
import Formula.Proofs.Outcome
import Formula.Proofs.Token.Expression
import Formula.Proofs.Token.Options

/-
  The lexemes of a formula.

  Whatever a tokenizer of formulas drops and adjusts, once it
  takes quoted text out of its quotes its tokens have the same
  lexemes: those of the raw tokens that have a meaning.

  Key definitions include:
    * `Lexeme.meaningful`

  Main statements:
    * `Lexeme.ofToken?_adjust`
    * `Lexeme.ofTokens?_expressionWith`
-/

namespace Formula

namespace Tokenizer

variable {o : Options}

/- Options have no influence on raw tokens. -/
theorem rawTokens_expressionWith
    (o : Options)
    (k : Cursor) :
    (expressionWith o).rawTokens k =
      expression.rawTokens k :=
  expression.rawTokens_withOptions o k

/- Texts are taken out of their quotes alike. -/
theorem decoded_expressionWith
    (hDecode : o.decodeStrings = true)
    (token : Token) :
    (expressionWith o).decoded token =
      parsing.decoded token := by
  have hValue (c : Char) (p : Piece) :
      (expressionWith o).valueOf c p = parsing.valueOf c p := by
    have hOptions :
        (expressionWith o).options.decodeStrings =
          parsing.options.decodeStrings := hDecode
    rw [valueOf, valueOf, hOptions]
    rfl
  unfold decoded
  split
  · rfl
  · rw [hValue]

end Tokenizer

namespace Lexeme

open Tokenizer

/- The tokens that have a meaning. -/
def meaningful
    (tokens : List Token) : List Token :=
  tokens.filter fun token => !isIgnored token.kind

theorem meaningful_cons
    (token : Token)
    (tokens : List Token) :
    meaningful (token :: tokens) =
      if isIgnored token.kind then meaningful tokens
      else token :: meaningful tokens := by
  unfold meaningful
  rw [List.filter_cons]
  cases isIgnored token.kind with
  | true => rfl
  | false => rfl

/- Adjusting a token does not make it meaningful. -/
theorem isIgnored_adjust
    (o : Options)
    (token : Token) :
    isIgnored (o.adjust token).kind = isIgnored token.kind := by
  unfold Options.adjust
  split
  · split
    · rfl
    · rfl
  · rename_i hKind
    split
    · rw [hKind]
      rfl
    · rfl
  · rename_i hKind
    split
    · rw [hKind]
      rfl
    · rfl
  · rfl

/-
  Adjusting does not change what a token stands for.  A number
  is read from its text, whatever its kind is.
-/
theorem ofToken?_adjust
    (o : Options)
    {token : Token}
    (hMeaning : isIgnored token.kind = false) :
    ofToken? (o.adjust token) = ofToken? token := by
  unfold Options.adjust
  split
  · rename_i hKind
    rw [hKind] at hMeaning
    cases hMeaning
  · rename_i hKind
    split
    · rw [ofToken?, ofToken?, LexemeContent.ofToken?,
        LexemeContent.ofToken?, hKind]
      rfl
    · rfl
  · rename_i hKind
    split
    · rw [ofToken?, ofToken?, LexemeContent.ofToken?,
        LexemeContent.ofToken?, hKind]
      rfl
    · rfl
  · rfl

/- A lexeme has its text and its place from its token. -/
theorem exists_content_of_ofToken?
    {token : Token}
    {l : Lexeme}
    (hLexeme : ofToken? token = .ok l) :
    ∃ content,
      l = ⟨content, token.value, token.position,
        token.ending⟩ := by
  unfold ofToken? at hLexeme
  split at hLexeme
  · rename_i content _
    cases hLexeme
    exact ⟨content, rfl⟩
  · cases hLexeme

/- A token with a meaning is kept, unless it is unknown. -/
theorem refine?_of_meaningful
    {t : Tokenizer}
    {token : Token}
    (hMeaning : isIgnored token.kind = false)
    (hKnown : token.kind ≠ .unknown) :
    t.refine? token =
      some (t.options.adjust (t.decoded token)) := by
  have hKept : t.drops token.kind = false := by
    unfold drops Options.skips
    cases hKind : token.kind with
    | unknown => exact absurd hKind hKnown
    | whitespace | comment | eof =>
        rw [hKind] at hMeaning
        cases hMeaning
    | _ => rfl
  rw [Tokenizer.refine?, hKept]
  rfl

/- A token without a meaning is dropped or stays without. -/
theorem isIgnored_of_refine?
    {t : Tokenizer}
    {token token' : Token}
    (hRefine : t.refine? token = some token') :
    isIgnored token'.kind = isIgnored token.kind := by
  unfold Tokenizer.refine? at hRefine
  split at hRefine
  · cases hRefine
  · cases hRefine
    rw [isIgnored_adjust, kind_decoded]

/-
  The lexemes of tokens that the options have dropped or
  adjusted are those of the raw tokens with a meaning.
-/
theorem mapM_refine?
    (t : Tokenizer)
    (tokens : List Token)
    (hKnown : ∀ token ∈ tokens, token.kind ≠ .unknown) :
    (meaningful (tokens.filterMap t.refine?)).mapM ofToken? =
      (meaningful tokens).mapM fun token =>
        ofToken? (t.decoded token) := by
  induction tokens with
  | nil => rfl
  | cons token tokens ih =>
      have hRest := ih fun token' hMem =>
        hKnown token' (List.mem_cons_of_mem _ hMem)
      have hFirst := hKnown token List.mem_cons_self
      rw [List.filterMap_cons, meaningful_cons]
      cases hIgnored : isIgnored token.kind with
      | true =>
          cases hRefine : t.refine? token with
          | none => exact hRest
          | some token' =>
              have hStill := isIgnored_of_refine? hRefine
              rw [hIgnored] at hStill
              dsimp only
              rw [meaningful_cons, hStill]
              exact hRest
      | false =>
          have hRefine :=
            refine?_of_meaningful (t := t) hIgnored hFirst
          have hKept := isIgnored_of_refine? hRefine
          have hSame :
              ofToken? (t.options.adjust (t.decoded token)) =
                ofToken? (t.decoded token) :=
            ofToken?_adjust _ (by rw [kind_decoded, hIgnored])
          rw [hIgnored] at hKept
          rw [hRefine]
          dsimp only
          rw [meaningful_cons, hKept, if_neg Bool.false_ne_true,
            if_neg Bool.false_ne_true, List.mapM_cons,
            List.mapM_cons, hSame, hRest]

/- The lexemes of a formula, for all options that decode. -/
theorem ofTokens?_expressionWith
    {o : Options}
    (hDecode : o.decodeStrings = true)
    (source : String) :
    ofTokens? ((expressionWith o).tokens source) =
      (meaningful
        (expression.rawTokens (.ofList source.toList))).mapM
        fun token => ofToken? (parsing.decoded token) := by
  have hEofFree : (expressionWith o).IsEofFree :=
    isEofFree_expression
  have hEnd :
      meaningful
        (if (expressionWith o).options.skipEof then []
        else [(Cursor.ofList source.toList).endToken]) = [] := by
    split
    · rfl
    · rfl
  have hDecoded : (expressionWith o).decoded = parsing.decoded :=
    funext (decoded_expressionWith hDecode)
  have hTokens :=
    mapM_refine? (expressionWith o)
      (expression.rawTokens (.ofList source.toList))
      fun _ hMem => expression_kind_ne_unknown hMem
  rw [hDecoded] at hTokens
  rw [tokens_eq hEofFree, rawTokens_expressionWith, ← hTokens]
  unfold meaningful at hEnd ⊢
  rw [ofTokens?, List.filter_append, hEnd, List.append_nil]

end Lexeme

end Formula
