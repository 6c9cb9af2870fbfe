import Formula.Proofs.Token.Lossless

/-
  What options do to the tokens of a text.

  A tokenizer gives the tokens that it would give without any
  options, each of them dropped or rewritten on its own.  What
  is dropped depends on the kind of a token; a token that stays
  has a new kind and a new text, and its position.

  Key definitions include:
    * `Options.removes`
    * `Options.kindOf`
    * `Tokenizer.withOptions`
    * `Tokenizer.textOf`
    * `Tokenizer.rewrite?`

  Main statements:
    * `Tokenizer.refine?_eq_rewrite?`
    * `Tokenizer.tokens_eq_filterMap`
-/

namespace Formula

------------------------------------------------------------
-- Single Tokens
------------------------------------------------------------

namespace Options

/- Tokens of a kind are left out. -/
def removes
    (o : Options) : TokenKind → Bool
  | .unknown => o.skipUnknown
  | .whitespace => o.skipWhitespace
  | .comment => o.skipComments
  | .eof => o.skipEof
  | _ => false

/- The kind of a token that stays. -/
def kindOf
    (o : Options)
    (k : TokenKind) : TokenKind :=
  if o.unifyNumbers ∧ (k = .integer ∨ k = .float) then .number
  else k

/- Adjusting concerns the kind and the text of white space. -/
theorem adjust_eq
    (o : Options)
    (token : Token) :
    o.adjust token =
      ⟨o.kindOf token.kind,
        if token.kind = .whitespace ∧ o.mergeWhitespace then " "
        else token.value,
        token.position⟩ := by
  rcases token with ⟨kind, value, position⟩
  unfold adjust kindOf
  cases kind with
  | whitespace => cases o.mergeWhitespace <;> simp
  | integer | float => cases o.unifyNumbers <;> simp
  | _ => simp

end Options

namespace Tokenizer

/- A tokenizer with other options. -/
def withOptions
    (t : Tokenizer)
    (o : Options) : Tokenizer :=
  ⟨t.rules, t.roles, o⟩

variable (t : Tokenizer)

/-
  The text of a token that stays.  White space is one space if
  it is merged; what begins where a quotation does is taken out
  of its quotes if that is wanted.
-/
def textOf
    (token : Token) : String :=
  if token.kind = .whitespace ∧ t.options.mergeWhitespace then
    " "
  else
    match token.value.toList with
    | [] => token.value
    | c :: rest =>
        if t.options.decodeStrings ∧ t.role? c = some .quote then
          String.ofList (t.rules.quote.decode c (c :: rest))
        else token.value

/- What becomes of a token. -/
def rewrite?
    (token : Token) : Option Token :=
  if t.options.removes token.kind then none
  else
    some ⟨t.options.kindOf token.kind, t.textOf token,
      token.position⟩

/- The options leave the tokens out that they drop. -/
theorem drops_eq_removes
    (k : TokenKind) :
    t.drops k = t.options.removes k := by
  unfold drops
  cases k with
  | eof => exact Bool.false_or _
  | _ => exact Bool.or_false _

/- A text that is not white space is decoded or kept. -/
theorem value_decoded
    {token : Token}
    (hKind :
      ¬ (token.kind = .whitespace ∧
        t.options.mergeWhitespace)) :
    (t.decoded token).value = t.textOf token := by
  unfold decoded textOf
  rw [if_neg hKind]
  cases hValue : token.value.toList with
  | nil => rfl
  | cons c rest =>
      dsimp only [valueOf]
      split
      · rfl
      · rw [← hValue, String.ofList_toList]

/- Refining a token is rewriting it. -/
theorem refine?_eq_rewrite?
    (token : Token) :
    t.refine? token = t.rewrite? token := by
  unfold refine? rewrite?
  rw [drops_eq_removes, Options.adjust_eq, kind_decoded,
    position_decoded]
  by_cases hMerged :
      token.kind = .whitespace ∧ t.options.mergeWhitespace
  · rw [textOf, if_pos hMerged, if_pos hMerged]
  · rw [if_neg hMerged, t.value_decoded hMerged]

------------------------------------------------------------
-- Whole Texts
------------------------------------------------------------

/- Options have no influence on raw tokens. -/
theorem rawTokens_withOptions
    (o : Options)
    (k : Cursor) :
    (t.withOptions o).rawTokens k = t.rawTokens k := by
  fun_induction rawTokens t k with
  | case1 k hAfter =>
      exact (t.withOptions o).rawTokens_of_end hAfter
  | case2 k c rest hAfter p ih =>
      rw [(t.withOptions o).rawTokens_of_more hAfter]
      exact congrArg _ ih

/- The mark of the end is left out or stays as it is. -/
theorem rewrite?_endToken
    (k : Cursor) :
    t.rewrite? k.endToken =
      if t.options.skipEof then none else some k.endToken := by
  have hRemoved :
      t.options.removes k.endToken.kind =
        t.options.skipEof := rfl
  have hKind : t.options.kindOf k.endToken.kind = .eof := by
    simp [Options.kindOf, Cursor.endToken]
  have hText : t.textOf k.endToken = "" := by
    simp [textOf, Cursor.endToken]
  rw [rewrite?, hRemoved, hKind, hText]
  rfl

/-
  The tokens of a text are those without options, dropped and
  rewritten one by one.
-/
theorem tokens_eq_filterMap
    (entries : List (List Char × TokenKind))
    (text : String)
    (hSymbols : t.rules.symbols = .ofEntries entries)
    (hEntries : ∀ e ∈ entries, e.2 ≠ .eof) :
    t.tokens text =
      ((t.withOptions .none).tokens text).filterMap
        t.rewrite? := by
  have hEofFree := t.isEofFree_of_entries hSymbols hEntries
  have hPlain : (t.withOptions .none).IsEofFree := hEofFree
  have hRefine : t.refine? = t.rewrite? :=
    funext t.refine?_eq_rewrite?
  rw [tokens_eq hEofFree, tokens_of_plain hPlain rfl,
    rawTokens_withOptions, hRefine, List.filterMap_append,
    List.filterMap_cons, rewrite?_endToken,
    List.filterMap_nil]
  split
  · rfl
  · rfl

/-
  A tokenizer that knows no signs.  It keeps white space, but
  merged, and nothing else that has no meaning.
-/
def signless : Tokenizer where
  rules := expression.rules
  roles := rolesOf
    [ ('\x00', ' ', .whitespace), ('a', 'z', .word),
      ('0', '9', .number), ('\'', '\'', .quote),
      ('/', '/', .comment) ]
  options := ⟨true, false, true, true, true, true, true⟩

/- A sign, a comment and the end go, and the rest is rewritten. -/
theorem tokens_eq_filterMap_signless :
    signless.rules.symbols = .ofEntries expressionEntries ∧
    (∀ e ∈ expressionEntries, e.2 ≠ .eof) ∧
    signless.tokens "x1\t+'it''s'/**/2.5" =
      ((signless.withOptions .none).tokens
        "x1\t+'it''s'/**/2.5").filterMap signless.rewrite? ∧
    signless.tokens "x1\t+'it''s'/**/2.5" =
      [ ⟨.word, "x1", ⟨1, 1⟩⟩, ⟨.whitespace, " ", ⟨1, 3⟩⟩,
        ⟨.quoted, "it's", ⟨1, 5⟩⟩,
        ⟨.number, "2.5", ⟨1, 16⟩⟩ ] := by
  have hEntries : ∀ e ∈ expressionEntries, e.2 ≠ .eof := by
    decide
  have hTokens :=
    signless.tokens_eq_filterMap expressionEntries
      "x1\t+'it''s'/**/2.5" rfl hEntries
  refine ⟨rfl, hEntries, hTokens, ?_⟩
  decide +kernel

end Tokenizer

end Formula
