import Formula.Proofs.Calculator.Session
import Formula.Proofs.Grammar.Classification
import Formula.Proofs.Program.Spacing

/-
  Blank sources, and sources without tokens.

  A calculator takes a source of Unicode white space for no
  expression at all.  To the parser a source is empty when
  nothing but blanks and comments is in it, where the blanks are
  the space and the characters below it.  The two agree on blank
  sources without wider white space, and on sources without
  tokens in which all is white space.

  Key definitions include:
    * `IsSpacing`

  Main statements:
    * `trim_eq_nil_iff`
    * `Tokenizer.substance_pieces_eq_nil_iff`
    * `Tokenizer.parsing_tokens_eq_nil_iff`
    * `Calculator.setExpression_blank`
-/

namespace Formula

------------------------------------------------------------
-- Blank Texts
------------------------------------------------------------

/- A text is trimmed to nothing if all of it is white space. -/
theorem trim_eq_nil_iff
    (text : List Char) :
    trim text = [] ↔ ∀ c ∈ text, isBlank c = true := by
  have hFront :
      ∀ c ∈ text.takeWhile isBlank, isBlank c = true :=
    List.all_eq_true.mp List.all_takeWhile
  calc
    trim text = [] ↔
        ∀ c ∈ text.dropWhile isBlank, isBlank c = true := by
      rw [trim, trimEnd, List.reverse_eq_nil_iff,
        List.dropWhile_eq_nil_iff]
      simp only [List.mem_reverse]
    _ ↔ (∀ c ∈ text.takeWhile isBlank, isBlank c = true) ∧
        ∀ c ∈ text.dropWhile isBlank, isBlank c = true :=
      (and_iff_right hFront).symm
    _ ↔ ∀ c ∈ text, isBlank c = true := by
      rw [← List.forall_mem_append,
        List.takeWhile_append_dropWhile]

------------------------------------------------------------
-- Texts of Spacing
------------------------------------------------------------

/-
  A text is made of blanks and comments.  A comment goes on to
  the end of its line, or to the end of its block.
-/
inductive IsSpacing : List Char → Prop
  | nil : IsSpacing []
  | blank
      {c : Char}
      {rest : List Char}
      (hBlank : c ≤ ' ')
      (hRest : IsSpacing rest) :
      IsSpacing (c :: rest)
  | line
      {rest : List Char}
      (hRest :
        IsSpacing (rest.drop (restOfLine rest).length)) :
      IsSpacing ('/' :: '/' :: rest)
  | block
      {rest : List Char}
      (hRest :
        IsSpacing (rest.drop (throughBlockEnd rest).length)) :
      IsSpacing ('/' :: '*' :: rest)

namespace IsSpacing

theorem blank_iff
    {c : Char}
    {rest : List Char}
    (hBlank : c ≤ ' ') :
    IsSpacing (c :: rest) ↔ IsSpacing rest := by
  constructor
  · intro hText
    cases hText with
    | blank _ hRest => exact hRest
    | line | block => exact absurd hBlank (by decide)
  · exact .blank hBlank

theorem line_iff
    {rest : List Char} :
    IsSpacing ('/' :: '/' :: rest) ↔
      IsSpacing (rest.drop (restOfLine rest).length) := by
  constructor
  · intro hText
    cases hText with
    | blank hBlank _ => exact absurd hBlank (by decide)
    | line hRest => exact hRest
  · exact .line

theorem block_iff
    {rest : List Char} :
    IsSpacing ('/' :: '*' :: rest) ↔
      IsSpacing (rest.drop (throughBlockEnd rest).length) := by
  constructor
  · intro hText
    cases hText with
    | blank hBlank _ => exact absurd hBlank (by decide)
    | block hRest => exact hRest
  · exact .block

/- Blanks in front of a text do not count. -/
theorem append_iff_of_blank
    {blanks text : List Char}
    (hBlanks : ∀ c ∈ blanks, c ≤ ' ') :
    IsSpacing (blanks ++ text) ↔ IsSpacing text := by
  induction blanks with
  | nil => exact Iff.rfl
  | cons c blanks ih =>
      rcases List.forall_mem_cons.mp hBlanks with
        ⟨hFirst, hRest⟩
      exact (blank_iff hFirst).trans (ih hRest)

/- Without a slash, spacing is made of blanks only. -/
theorem iff_blank_of_no_slash
    {text : List Char}
    (hSlash : '/' ∉ text) :
    IsSpacing text ↔ ∀ c ∈ text, c ≤ ' ' := by
  constructor
  · intro hText
    induction hText with
    | nil => exact List.forall_mem_nil _
    | blank hBlank _ ih =>
        exact List.forall_mem_cons.mpr
          ⟨hBlank, ih (List.not_mem_of_not_mem_cons hSlash)⟩
    | line | block => exact absurd List.mem_cons_self hSlash
  · intro hBlanks
    have hText := (append_iff_of_blank hBlanks).mpr IsSpacing.nil
    rwa [List.append_nil] at hText

end IsSpacing

------------------------------------------------------------
-- Spacing in Formulas
------------------------------------------------------------

namespace Tokenizer

open Piece

/- What is read as a symbol is no spacing. -/
theorem isSolid_read_symbol
    (c : Char)
    (rest : List Char) :
    (expression.rules.symbols.read (c :: rest)).isSolid =
      true := by
  rw [isSolid, kind_read_symbol]
  rfl

theorem isSolid_read_word
    (text : List Char) :
    (WordRule.keywords.read expressionWordChars text).isSolid =
      true := by
  unfold WordRule.read
  dsimp only
  split
  · rfl
  · rfl

theorem isSolid_readQuoted
    (text : List Char) :
    (readQuoted .doubled text).isSolid = true := by
  unfold readQuoted
  split
  · rfl
  · rfl

theorem isSolid_read_number
    (c : Char)
    (rest : List Char) :
    (NumberRule.readScientific expression.rules.symbols
      (c :: rest)).isSolid = true := by
  by_cases hMinus : c = '-'
  · subst hMinus
    exact isSolid_read_symbol '-' rest
  · by_cases hSome : BeginsNumeral (c :: rest)
    · rcases NumberRule.readScientific_longest
        expression.rules.symbols hMinus hSome with
        ⟨value, _, hRead⟩
      rw [hRead, isSolid, numeralKind]
      split
      · rfl
      · rfl
    · rw [NumberRule.readScientific_of_no_numeral _ hMinus hSome
        (kind_read_symbol c rest)]
      exact isSolid_read_symbol c rest

/- Where spacing is read, the rest is spacing if all is. -/
theorem isSpacing_drop_first_iff
    {c : Char}
    {rest : List Char}
    (hSolid : (expression.first c rest).isSolid = false) :
    IsSpacing
        ((c :: rest).drop (expression.first c rest).text.length) ↔
      IsSpacing (c :: rest) := by
  rcases exists_expression_role? c with ⟨role, hRole⟩
  have hFirst := expression_first_eq_read hRole rest
  have hCase := expression_role?_cases hRole
  rw [hFirst] at hSolid
  cases role with
  | whitespace =>
      have hBlanks :
          ∀ d ∈ (c :: rest).takeWhile standardBlanks.has,
            d ≤ ' ' :=
        fun _ hMem => blank_of_mem_takeWhile hMem
      rw [expression_first_of_blank hCase,
        drop_length_takeWhile,
        ← IsSpacing.append_iff_of_blank hBlanks,
        List.takeWhile_append_dropWhile]
  | comment =>
      cases hCase
      change (CommentRule.slash.read _ _).isSolid = false
        at hSolid
      unfold CommentRule.read at hSolid
      split at hSolid
      · contradiction
      · rename_i hText _
        cases hText
        rw [expression_first_block, IsSpacing.block_iff]
        exact Iff.rfl
      · rename_i hText
        cases hText
        rw [expression_first_slashes, IsSpacing.line_iff]
        exact Iff.rfl
      · cases (isSolid_read_symbol '/' rest).symm.trans hSolid
  | word =>
      cases (isSolid_read_word (c :: rest)).symm.trans hSolid
  | number =>
      cases (isSolid_read_number c rest).symm.trans hSolid
  | quote =>
      cases (isSolid_readQuoted (c :: rest)).symm.trans hSolid
  | symbol =>
      cases (isSolid_read_symbol c rest).symm.trans hSolid

/- Spacing begins with white space or with a comment. -/
theorem not_isSolid_first_of_isSpacing
    {c : Char}
    {rest : List Char}
    (hText : IsSpacing (c :: rest)) :
    (expression.first c rest).isSolid = false := by
  cases hText with
  | blank hBlank _ =>
      rw [expression_first_of_blank hBlank]
      rfl
  | line _ =>
      rw [expression_first_slashes]
      rfl
  | block _ =>
      rw [expression_first_block]
      rfl

/- A text of spacing has white space and comments only. -/
theorem substance_pieces_eq_nil_iff
    (text : List Char) :
    substance (expression.pieces text) = [] ↔
      IsSpacing text := by
  fun_induction pieces expression text with
  | case1 => exact iff_of_true rfl .nil
  | case2 c rest ih =>
      cases hSolid : (expression.first c rest).isSolid with
      | true =>
          rw [substance_cons_of_solid hSolid]
          refine iff_of_false (List.cons_ne_nil _ _) fun hText => ?_
          have hOther := not_isSolid_first_of_isSpacing hText
          exact absurd (hSolid.symm.trans hOther) (by decide)
      | false =>
          rw [substance_cons_of_not_solid hSolid, ih]
          exact isSpacing_drop_first_iff hSolid

/- A raw token of a formula is dropped if it is spacing. -/
theorem parsing_refine?_eq_none_iff
    {k : Cursor}
    {token : Token}
    (hMem : token ∈ expression.rawTokens k) :
    parsing.refine? token = none ↔
      Lexeme.isIgnored token.kind = true := by
  constructor
  · intro hNone
    by_contra hMeaning
    have hKept := Lexeme.refine?_of_meaningful (t := parsing)
      (Bool.eq_false_iff.mpr hMeaning)
      (expression_kind_ne_unknown hMem)
    rw [hNone] at hKept
    cases hKept
  · intro hIgnored
    cases hRefine : parsing.refine? token with
    | none => rfl
    | some token' =>
        rcases parsing_kind_of_refine? hRefine with
          ⟨hKind, hMeaning⟩
        rw [hKind, hIgnored] at hMeaning
        cases hMeaning

/- There is nothing to parse just when all is spacing. -/
theorem parsing_tokens_eq_nil_iff
    (source : String) :
    parsing.tokens source = [] ↔ IsSpacing source.toList := by
  let raw := expression.rawTokens (.ofList source.toList)
  have hOpen : ∀ token ∈ raw, token.kind ≠ .eof :=
    fun _ hMem =>
      kind_ne_eof_of_mem_rawTokens isEofFree_expression hMem
  calc
    parsing.tokens source = [] ↔
        ∀ token ∈ raw, Lexeme.isIgnored token.kind = true := by
      rw [parsing_tokens_eq, List.filterMap_eq_nil_iff]
      exact forall₂_congr fun _ hMem =>
        parsing_refine?_eq_none_iff hMem
    _ ↔ Lexeme.meaningful raw = [] := by
      rw [Lexeme.meaningful, List.filter_eq_nil_iff]
      simp only [Bool.not_eq_true', Bool.not_eq_false]
    _ ↔ substance (expression.pieces source.toList) = [] := by
      rw [← List.map_eq_nil_iff (f := Token.piece),
        Token.map_piece_meaningful hOpen, Token.substance,
        map_piece_rawTokens]
      rfl
    _ ↔ IsSpacing source.toList :=
      substance_pieces_eq_nil_iff source.toList

end Tokenizer

------------------------------------------------------------
-- Blank Sources
------------------------------------------------------------

/- Without tokens, the end comes where an expression should. -/
theorem Program.parse_of_tokens_eq_nil
    {source : String}
    (hTokens : Tokenizer.parsing.tokens source = []) :
    parse source = .error ⟨.unexpectedEnd, .start⟩ := by
  rw [parse, hTokens]
  rfl

namespace Calculator

/- An expression is refused as its source is when compiled. -/
theorem setExpression_of_error
    {source : String}
    {e : SyntaxError}
    (hCompile : compile source = .error e)
    (k : Calculator) :
    k.setExpression source = .error e := by
  rw [setExpression, run_takeExpression_of_error hCompile]

/- The program is empty just for sources of white space. -/
theorem exists_setExpression_isEmpty_iff
    (k : Calculator)
    (source : String) :
    (∃ after, k.setExpression source = .ok after ∧
        after.program.isEmpty = true) ↔
      trim source.toList = [] := by
  cases hCompile : compile source with
  | error e =>
      rw [setExpression_of_error hCompile]
      constructor
      · rintro ⟨after, ⟨⟩, _⟩
      · intro hBlank
        have hEmpty := compile_eq_ok_iff.mpr
          (.inl ⟨hBlank, rfl⟩)
        rw [hCompile] at hEmpty
        cases hEmpty
  | ok p =>
      rw [setExpression, run_takeExpression_of_ok hCompile]
      rcases compile_eq_ok_iff.mp hCompile with
        ⟨hBlank, rfl⟩ | ⟨hOther, hParse⟩
      · exact iff_of_true ⟨_, rfl, rfl⟩ hBlank
      · refine iff_of_false ?_ hOther
        rintro ⟨_, ⟨⟩, hEmpty⟩
        rw [isEmpty_of_parse hParse] at hEmpty
        cases hEmpty

/- Without tokens, a source that is not blank is refused. -/
theorem compile_of_tokens_eq_nil
    {source : String}
    (hTokens : Tokenizer.parsing.tokens source = [])
    (hOther : ∃ c ∈ source.toList, isBlank c = false) :
    compile source = .error ⟨.unexpectedEnd, .start⟩ := by
  have hSource : trim source.toList ≠ [] := by
    intro hEmpty
    rcases hOther with ⟨c, hMem, hLetter⟩
    rw [(trim_eq_nil_iff _).mp hEmpty c hMem] at hLetter
    cases hLetter
  rw [compile, if_neg (mt List.isEmpty_iff.mp hSource),
    Program.parse_of_tokens_eq_nil hTokens]

/-
  A calculator takes a source for blank if all of it is white
  space.  The parser finds no token in a source of blanks and
  comments, and misses an expression at the start of it.  If
  such a source is not all white space, then the calculator
  fails in the same way.  A source of white space, in turn, has
  no token only if no character of it is above the space.
-/
theorem setExpression_blank
    (k : Calculator)
    (source : String) :
    ((∃ after, k.setExpression source = .ok after ∧
        after.program.isEmpty = true) ↔
      ∀ c ∈ source.toList, isBlank c = true) ∧
    (Tokenizer.parsing.tokens source = [] ↔
      IsSpacing source.toList) ∧
    (Tokenizer.parsing.tokens source = [] →
      Program.parse source = .error ⟨.unexpectedEnd, .start⟩ ∧
      ((∃ c ∈ source.toList, isBlank c = false) →
        k.setExpression source =
          .error ⟨.unexpectedEnd, .start⟩)) ∧
    ((∀ c ∈ source.toList, isBlank c = true) →
      (Tokenizer.parsing.tokens source = [] ↔
        ∀ c ∈ source.toList, c ≤ ' ')) := by
  have hSpacing := Tokenizer.parsing_tokens_eq_nil_iff source
  refine ⟨?_, hSpacing, fun hTokens => ⟨?_, fun hOther => ?_⟩,
    fun hBlank => ?_⟩
  · rw [exists_setExpression_isEmpty_iff, trim_eq_nil_iff]
  · exact Program.parse_of_tokens_eq_nil hTokens
  · exact setExpression_of_error
      (compile_of_tokens_eq_nil hTokens hOther) k
  · have hSlash : '/' ∉ source.toList := fun hMem =>
      absurd (hBlank '/' hMem) (by decide)
    rw [hSpacing, IsSpacing.iff_blank_of_no_slash hSlash]

/-
  A comment is no expression, yet not blank either: it has no
  token, and no calculator takes it.
-/
theorem setExpression_blank_comment :
    Tokenizer.parsing.tokens "/* nothing */" = [] ∧
    (∃ c ∈ "/* nothing */".toList, isBlank c = false) ∧
    ∀ k : Calculator,
      k.setExpression "/* nothing */" =
        .error ⟨.unexpectedEnd, .start⟩ := by
  have hTokens :
      Tokenizer.parsing.tokens "/* nothing */" = [] := by
    decide +kernel
  have hOther :
      ∃ c ∈ "/* nothing */".toList, isBlank c = false :=
    ⟨'/', by simp, by decide⟩
  refine ⟨hTokens, hOther, fun k => ?_⟩
  have hBlank := setExpression_blank k "/* nothing */"
  exact (hBlank.2.2.1 hTokens).2 hOther

/-
  What is blank is not what has no token: a comment has none,
  and is refused; a no-break space is taken for nothing, and is
  a token.
-/
theorem setExpression_ne_blank :
    (Tokenizer.parsing.tokens "/* nothing */" = [] ∧
      ∀ k : Calculator,
        k.setExpression "/* nothing */" =
          .error ⟨.unexpectedEnd, .start⟩) ∧
    (Tokenizer.parsing.tokens "\u00A0" =
        [⟨.symbol, "\u00A0", ⟨1, 1⟩⟩] ∧
      ∀ k : Calculator, ∃ after,
        k.setExpression "\u00A0" = .ok after ∧
          after.program.isEmpty = true) ∧
    ¬ ∀ (k : Calculator) (source : String),
      (∃ after, k.setExpression source = .ok after ∧
          after.program.isEmpty = true) ↔
        Tokenizer.parsing.tokens source = [] := by
  have hTokens :
      Tokenizer.parsing.tokens "/* nothing */" = [] := by
    decide +kernel
  have hRefused (k : Calculator) :
      k.setExpression "/* nothing */" =
        .error ⟨.unexpectedEnd, .start⟩ :=
    setExpression_of_error
      (compile_of_tokens_eq_nil hTokens
        ⟨'/', by simp, by decide⟩) k
  have hSpace :
      Tokenizer.parsing.tokens "\u00A0" =
        [⟨.symbol, "\u00A0", ⟨1, 1⟩⟩] := by
    decide +kernel
  have hTrim : trim "\u00A0".toList = [] := by
    decide +kernel
  refine ⟨⟨hTokens, hRefused⟩,
    ⟨hSpace, fun k => ?_⟩, fun hClaim => ?_⟩
  · exact (exists_setExpression_isEmpty_iff k _).mpr hTrim
  · rcases (hClaim (new ⟨.epoch, 0⟩ .standard) _).mpr hTokens
      with ⟨after, hTaken, _⟩
    rw [hRefused] at hTaken
    cases hTaken

end Calculator

end Formula
