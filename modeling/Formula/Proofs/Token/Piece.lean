import Formula.Proofs.Token.Spelling

/-
  What a rule reads stands in front of the text.

  Every rule takes a run of the characters to come and leaves
  none of them out.  A rule that finds nothing of its own
  reads what the rule for symbols reads.

  Key definitions include:
    * `TokenKind.IsOwn`
    * `Tokenizer.IsEofFree`

  Main statements:
    * `Rules.read_isPrefix`
    * `Rules.read_eq_or_isOwn`
    * `Tokenizer.first_isPrefix`
    * `Tokenizer.first_kind_ne_eof`
-/

namespace Formula

------------------------------------------------------------
-- Runs
------------------------------------------------------------

/- Two runs, one behind the other, are one run. -/
theorem append_prefix_of_drop
    {first second text : List Char}
    (hFirst : first <+: text)
    (hSecond : second <+: text.drop first.length) :
    first ++ second <+: text := by
  rcases hFirst with ⟨rest, rfl⟩
  rw [List.drop_left] at hSecond
  exact (List.prefix_append_right_inj first).mpr hSecond

theorem digitRun_isPrefix
    (text : List Char) :
    digitRun text <+: text :=
  List.takeWhile_prefix isDigit

/- A mark, a sign and digits are one run. -/
theorem exponentRun.complete_isPrefix
    (mark : Char)
    (rest : List Char) :
    complete mark rest <+: mark :: rest := by
  unfold complete
  dsimp only
  split
  · exact List.nil_prefix
  · rw [List.cons_append]
    apply (List.prefix_cons_inj mark).mpr
    apply append_prefix_of_drop
    · exact List.take_prefix _ _
    · have hSign : signLength rest ≤ rest.length := by
        unfold signLength
        split <;> simp
      rw [List.length_take, Nat.min_eq_left hSign]
      exact digitRun_isPrefix _

theorem exponentRun_isPrefix
    (text : List Char) :
    exponentRun text <+: text := by
  unfold exponentRun
  split
  · exact exponentRun.complete_isPrefix _ _
  · exact exponentRun.complete_isPrefix _ _
  · exact List.nil_prefix

theorem throughQuote_isPrefix
    (q : Char)
    (text : List Char) :
    throughQuote q text <+: text := by
  induction text with
  | nil => exact List.nil_prefix
  | cons c rest ih =>
      rw [throughQuote]
      split
      · exact (List.prefix_cons_inj c).mpr List.nil_prefix
      · exact (List.prefix_cons_inj c).mpr ih

theorem throughLoneQuote_isPrefix
    (q : Char)
    (text : List Char) :
    throughLoneQuote q text <+: text := by
  fun_induction throughLoneQuote q text with
  | case1 => exact List.nil_prefix
  | case2 c => exact List.prefix_rfl
  | case3 rest ih =>
      apply (List.prefix_cons_inj q).mpr
      exact (List.prefix_cons_inj q).mpr ih
  | case4 d rest hOther =>
      exact (List.prefix_cons_inj q).mpr List.nil_prefix
  | case5 c d rest hOther ih =>
      exact (List.prefix_cons_inj c).mpr ih

theorem throughBlockEnd_isPrefix
    (text : List Char) :
    throughBlockEnd text <+: text := by
  fun_induction throughBlockEnd text with
  | case1 => exact List.nil_prefix
  | case2 rest => exact ⟨rest, rfl⟩
  | case3 c rest hOther ih =>
      exact (List.prefix_cons_inj c).mpr ih

------------------------------------------------------------
-- Rules
------------------------------------------------------------

theorem SymbolTree.read_isPrefix
    (t : SymbolTree)
    (text : List Char) :
    (t.read text).text <+: text := by
  cases text with
  | nil => exact List.nil_prefix
  | cons c rest =>
      rcases t.exists_of_read c rest with
        ⟨more, hPrefix, hText, _⟩
      rw [hText]
      exact (List.prefix_cons_inj c).mpr hPrefix

theorem WordRule.read_isPrefix
    (r : WordRule)
    (members : CharSet)
    (text : List Char) :
    (r.read members text).text <+: text := by
  have hRun : runOf members text <+: text :=
    List.takeWhile_prefix members.has
  cases r with
  | plain => exact hRun
  | keywords =>
      unfold read
      dsimp only
      split <;> exact hRun

theorem readQuoted_text
    (r : QuoteRule)
    (text : List Char) :
    (readQuoted r text).text = r.read text := by
  unfold readQuoted
  split <;> rfl

theorem QuoteRule.read_isPrefix
    (r : QuoteRule)
    (text : List Char) :
    r.read text <+: text := by
  cases text with
  | nil => exact List.nil_prefix
  | cons q rest =>
      cases r with
      | plain =>
          exact (List.prefix_cons_inj q).mpr
            (throughQuote_isPrefix q rest)
      | doubled =>
          exact (List.prefix_cons_inj q).mpr
            (throughLoneQuote_isPrefix q rest)

namespace NumberRule

theorem unsigned?_isPrefix
    {text : List Char}
    {p : Piece}
    (hRead : unsigned? text = some p) :
    p.text <+: text := by
  have hWhole := digitRun_isPrefix text
  unfold unsigned? at hRead
  dsimp only at hRead
  split at hRead
  · rename_i rest hPoint
    split at hRead
    · cases hRead
    · cases hRead
      apply append_prefix_of_drop hWhole
      rw [hPoint]
      exact (List.prefix_cons_inj _).mpr (digitRun_isPrefix rest)
  · split at hRead
    · cases hRead
    · cases hRead
      exact hWhole

theorem signed?_isPrefix
    {text : List Char}
    {p : Piece}
    (hRead : signed? text = some p) :
    p.text <+: text := by
  unfold signed? at hRead
  split at hRead
  · rcases Option.map_eq_some_iff.mp hRead with
      ⟨q, hUnsigned, rfl⟩
    exact (List.prefix_cons_inj _).mpr
      (unsigned?_isPrefix hUnsigned)
  · exact unsigned?_isPrefix hRead

theorem readDecimal_isPrefix
    (symbols : SymbolTree)
    (text : List Char) :
    (readDecimal symbols text).text <+: text := by
  unfold readDecimal
  cases hRead : signed? text with
  | none => exact symbols.read_isPrefix text
  | some p => exact signed?_isPrefix hRead

theorem readScientific_isPrefix
    (symbols : SymbolTree)
    (text : List Char) :
    (readScientific symbols text).text <+: text := by
  have hDecimal := readDecimal_isPrefix symbols text
  unfold readScientific
  split
  · exact symbols.read_isPrefix _
  · dsimp only
    split
    · split
      · exact hDecimal
      · exact append_prefix_of_drop hDecimal
          (exponentRun_isPrefix _)
    · exact hDecimal

theorem read_isPrefix
    (r : NumberRule)
    (symbols : SymbolTree)
    (text : List Char) :
    (r.read symbols text).text <+: text := by
  cases r with
  | decimal => exact readDecimal_isPrefix symbols text
  | scientific => exact readScientific_isPrefix symbols text

end NumberRule

theorem CommentRule.read_isPrefix
    (r : CommentRule)
    (symbols : SymbolTree)
    (text : List Char) :
    (r.read symbols text).text <+: text := by
  have hLine : restOfLine text <+: text :=
    List.takeWhile_prefix _
  unfold read
  split
  · exact hLine
  · rename_i rest _
    apply (List.prefix_cons_inj _).mpr
    apply (List.prefix_cons_inj _).mpr
    exact throughBlockEnd_isPrefix rest
  · exact hLine
  · exact symbols.read_isPrefix _

namespace Rules

/- What a rule reads is in front of the text. -/
theorem read_isPrefix
    (r : Rules)
    (role : Role)
    (text : List Char) :
    (r.read role text).text <+: text := by
  cases role with
  | whitespace => exact List.takeWhile_prefix r.blanks.has
  | word => exact r.word.read_isPrefix r.wordChars text
  | number => exact r.number.read_isPrefix r.symbols text
  | quote =>
      rw [read, readQuoted_text]
      exact r.quote.read_isPrefix text
  | comment => exact r.comment.read_isPrefix r.symbols text
  | symbol => exact r.symbols.read_isPrefix text

------------------------------------------------------------
-- Kinds
------------------------------------------------------------

end Rules

/- A rule gives this kind to what is its own. -/
def TokenKind.IsOwn : TokenKind → Prop
  | .unknown | .eof | .number | .symbol => False
  | _ => True

theorem WordRule.read_isOwn
    (r : WordRule)
    (members : CharSet)
    (text : List Char) :
    (r.read members text).kind.IsOwn := by
  cases r with
  | plain => exact trivial
  | keywords =>
      unfold read
      dsimp only
      split
      · exact trivial
      · exact trivial

theorem readQuoted_isOwn
    (r : QuoteRule)
    (text : List Char) :
    (readQuoted r text).kind.IsOwn := by
  unfold readQuoted
  split
  · exact trivial
  · exact trivial

namespace NumberRule

theorem unsigned?_isOwn
    {text : List Char}
    {p : Piece}
    (hRead : unsigned? text = some p) :
    p.kind.IsOwn := by
  unfold unsigned? at hRead
  dsimp only at hRead
  split at hRead
  · split at hRead
    · cases hRead
    · cases hRead
      exact trivial
  · split at hRead
    · cases hRead
    · cases hRead
      exact trivial

theorem signed?_isOwn
    {text : List Char}
    {p : Piece}
    (hRead : signed? text = some p) :
    p.kind.IsOwn := by
  unfold signed? at hRead
  split at hRead
  · rcases Option.map_eq_some_iff.mp hRead with
      ⟨q, hUnsigned, rfl⟩
    have hOwn : q.kind.IsOwn := unsigned?_isOwn hUnsigned
    exact hOwn
  · exact unsigned?_isOwn hRead

theorem readDecimal_eq_or_isOwn
    (symbols : SymbolTree)
    (text : List Char) :
    readDecimal symbols text = symbols.read text ∨
      (readDecimal symbols text).kind.IsOwn := by
  unfold readDecimal
  cases hRead : signed? text with
  | none => exact .inl rfl
  | some p => exact .inr (signed?_isOwn hRead)

theorem read_eq_or_isOwn
    (r : NumberRule)
    (symbols : SymbolTree)
    (text : List Char) :
    r.read symbols text = symbols.read text ∨
      (r.read symbols text).kind.IsOwn := by
  cases r with
  | decimal => exact readDecimal_eq_or_isOwn symbols text
  | scientific =>
      have hDecimal := readDecimal_eq_or_isOwn symbols text
      unfold read readScientific
      dsimp only
      split
      · exact .inl rfl
      · split
        · split
          · exact hDecimal
          · exact .inr trivial
        · exact hDecimal

end NumberRule

theorem CommentRule.read_eq_or_isOwn
    (r : CommentRule)
    (symbols : SymbolTree)
    (text : List Char) :
    r.read symbols text = symbols.read text ∨
      (r.read symbols text).kind.IsOwn := by
  unfold read
  split
  · exact .inr trivial
  · exact .inr trivial
  · exact .inr trivial
  · exact .inl rfl

/- What is not of a rule's own kind was read as a symbol. -/
theorem Rules.read_eq_or_isOwn
    (r : Rules)
    (role : Role)
    (text : List Char) :
    r.read role text = r.symbols.read text ∨
      (r.read role text).kind.IsOwn := by
  cases role with
  | whitespace =>
      exact .inr trivial
  | word => exact .inr (r.word.read_isOwn _ text)
  | number => exact r.number.read_eq_or_isOwn _ text
  | quote => exact .inr (readQuoted_isOwn r.quote text)
  | comment => exact r.comment.read_eq_or_isOwn _ text
  | symbol => exact .inl rfl

------------------------------------------------------------
-- First Pieces
------------------------------------------------------------

namespace Tokenizer

variable (t : Tokenizer)

/- No spelling stands for the end of the text. -/
def IsEofFree : Prop :=
  ∀ spelling, t.rules.symbols.kindOf? spelling ≠ some .eof

/- The spellings that were entered trivial it. -/
theorem isEofFree_of_entries
    {entries : List (List Char × TokenKind)}
    (hSymbols : t.rules.symbols = .ofEntries entries)
    (hEntries : ∀ e ∈ entries, e.2 ≠ .eof) :
    t.IsEofFree := by
  intro spelling hKind
  rw [hSymbols] at hKind
  rcases SymbolTree.kindOf?_ofEntries hKind with
    hSymbol | ⟨e, hMem, hEof⟩
  · cases hSymbol
  · exact hEntries e hMem hEof

/- The first piece of a text is in front of it. -/
theorem first_isPrefix
    (c : Char)
    (rest : List Char) :
    (t.first c rest).text <+: c :: rest := by
  have hSingle : [c] <+: c :: rest := ⟨rest, rfl⟩
  unfold first
  split
  · exact hSingle
  · dsimp only
    split
    · exact hSingle
    · exact t.rules.read_isPrefix _ _

/- The first piece of a text is not the end of it. -/
theorem first_kind_ne_eof
    (hEofFree : t.IsEofFree)
    (c : Char)
    (rest : List Char) :
    (t.first c rest).kind ≠ .eof := by
  unfold first
  split
  · nofun
  · rename_i role _
    dsimp only
    split
    · nofun
    · rcases t.rules.read_eq_or_isOwn role (c :: rest) with
        hSymbol | hOwn
      · rw [hSymbol]
        rcases t.rules.symbols.exists_of_read c rest with
          ⟨more, _, _, hSingle | hKind⟩
        · rw [hSingle]
          nofun
        · intro hEof
          rw [hEof] at hKind
          exact hEofFree _ hKind
      · intro hEof
        rw [hEof] at hOwn
        exact hOwn

end Tokenizer

end Formula
