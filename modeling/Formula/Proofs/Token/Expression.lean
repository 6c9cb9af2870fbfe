import Formula.Proofs.Token.CharMap
import Formula.Proofs.Token.Lossless

/-
  The tokens of formulas.

  Every character of a formula has a role, and the rule of a
  role reads something from each character that has it.  So no
  token of a formula is unknown, whatever the text is.

  Main statements:
    * `Tokenizer.expression_role?_cases`
    * `Tokenizer.expression_first_eq_read`
    * `Tokenizer.expression_kind_ne_unknown`
-/

namespace Formula

------------------------------------------------------------
-- Rules that Always Read
------------------------------------------------------------

namespace SymbolTree

theorem read_cons_ne_nil
    (t : SymbolTree)
    (c : Char)
    (rest : List Char) :
    (t.read (c :: rest)).text ≠ [] := by
  rcases t.exists_of_read c rest with ⟨more, _, hText, _⟩
  rw [hText]
  exact List.cons_ne_nil c more

end SymbolTree

namespace NumberRule

theorem unsigned?_ne_nil
    {text : List Char}
    {p : Piece}
    (hRead : unsigned? text = some p) :
    p.text ≠ [] := by
  unfold unsigned? at hRead
  dsimp only at hRead
  split at hRead
  · split at hRead
    · cases hRead
    · cases hRead
      exact List.append_ne_nil_of_right_ne_nil _
        (List.cons_ne_nil _ _)
  · split at hRead
    · cases hRead
    · rename_i hDigits
      cases hRead
      intro hEmpty
      exact hDigits (List.isEmpty_iff.mpr hEmpty)

theorem readDecimal_cons_ne_nil
    (symbols : SymbolTree)
    (c : Char)
    (rest : List Char) :
    (readDecimal symbols (c :: rest)).text ≠ [] := by
  unfold readDecimal
  cases hRead : signed? (c :: rest) with
  | none => exact symbols.read_cons_ne_nil c rest
  | some p =>
      unfold signed? at hRead
      split at hRead
      · rcases Option.map_eq_some_iff.mp hRead with
          ⟨q, _, rfl⟩
        exact List.cons_ne_nil _ _
      · exact unsigned?_ne_nil hRead

theorem readScientific_cons_ne_nil
    (symbols : SymbolTree)
    (c : Char)
    (rest : List Char) :
    (readScientific symbols (c :: rest)).text ≠ [] := by
  have hDecimal := readDecimal_cons_ne_nil symbols c rest
  unfold readScientific
  split
  · exact symbols.read_cons_ne_nil _ _
  · dsimp only
    split
    · split
      · exact hDecimal
      · exact List.append_ne_nil_of_left_ne_nil hDecimal _
    · exact hDecimal

end NumberRule

/- A slash is read as a comment or as a symbol. -/
theorem CommentRule.read_slash_ne_nil
    (symbols : SymbolTree)
    (rest : List Char) :
    (CommentRule.slash.read symbols ('/' :: rest)).text ≠
      [] := by
  unfold read
  split
  · contradiction
  · exact List.cons_ne_nil _ _
  · exact List.cons_ne_nil _ _
  · exact symbols.read_cons_ne_nil _ _

------------------------------------------------------------
-- Roles in Formulas
------------------------------------------------------------

namespace Tokenizer

/- Every character has a role. -/
theorem exists_expression_role?
    (c : Char) :
    ∃ role, expression.role? c = some role := by
  apply Option.isSome_iff_exists.mp
  apply CharMap.isSome_lookup_addAll
  left
  refine ⟨('\x00', lastChar, .symbol), List.mem_cons_self,
    ?_, ?_⟩
  · exact UInt32.le_iff_toNat_le.mpr (Nat.zero_le _)
  · have hBound : c.val.toNat ≤ 0x10FFFF := by
      rcases c.valid with hLow | ⟨_, hHigh⟩
      · omega
      · omega
    exact UInt32.le_iff_toNat_le.mpr hBound

/- What the characters of a role are. -/
theorem expression_role?_cases
    {c : Char}
    {role : Role}
    (hRole : expression.role? c = some role) :
    match role with
    | .whitespace => c ≤ ' '
    | .word => expressionWordChars.has c
    | .quote => c = '\x22' ∨ c = '\''
    | .comment => c = '/'
    | .number | .symbol => True := by
  have hWord {a b : Char}
      (hRange :
        ∃ r ∈ [ ('a', 'z'), ('A', 'Z'), ('0', '9'), ('_', '_'),
            ('\u00C0', '\u00FF'), ('\u0100', '\uFFFF') ],
          r.1 ≤ a ∧ b ≤ r.2)
      (hFirst : a ≤ c)
      (hLast : c ≤ b) :
      expressionWordChars.has c := by
    rcases hRange with ⟨r, hMem, hStart, hEnd⟩
    exact (CharSet.has_ofRanges _ c).mpr
      ⟨r, hMem, Char.le_trans hStart hFirst,
        Char.le_trans hLast hEnd⟩
  rcases CharMap.exists_of_lookup_addAll hRole with
    ⟨r, hMem, hFirst, hLast, rfl⟩ | hEmpty
  · simp only [List.mem_cons, List.not_mem_nil, or_false]
      at hMem
    rcases hMem with
      rfl | rfl | rfl | rfl | rfl | rfl | rfl | rfl | rfl |
      rfl | rfl | rfl
    · trivial
    · exact hLast
    · exact hWord (by decide) hFirst hLast
    · exact hWord (by decide) hFirst hLast
    · exact hWord (by decide) hFirst hLast
    · exact hWord (by decide) hFirst hLast
    · trivial
    · trivial
    · trivial
    · exact .inl (Char.le_antisymm hLast hFirst)
    · exact .inr (Char.le_antisymm hLast hFirst)
    · exact Char.le_antisymm hLast hFirst
  · rw [CharMap.lookup_empty] at hEmpty
    cases hEmpty

/- A rule reads from every character of its role. -/
theorem expression_read_ne_nil
    {c : Char}
    {role : Role}
    (hRole : expression.role? c = some role)
    (rest : List Char) :
    (expression.rules.read role (c :: rest)).text ≠ [] := by
  have hCase := expression_role?_cases hRole
  have hRun {s : CharSet} (hHas : s.has c) :
      runOf s (c :: rest) ≠ [] := by
    rw [runOf, List.takeWhile_cons, if_pos hHas]
    exact List.cons_ne_nil _ _
  cases role with
  | whitespace =>
      apply hRun
      apply (CharSet.has_ofRanges _ c).mpr
      refine ⟨_, List.mem_cons_self, ?_, hCase⟩
      exact UInt32.le_iff_toNat_le.mpr (Nat.zero_le _)
  | word =>
      have hWord := hRun hCase
      unfold Rules.read WordRule.read
      dsimp only [expression]
      split
      · exact hWord
      · exact hWord
  | number =>
      exact NumberRule.readScientific_cons_ne_nil _ c rest
  | quote =>
      rw [Rules.read, readQuoted_text]
      exact List.cons_ne_nil _ _
  | comment =>
      cases hCase
      exact CommentRule.read_slash_ne_nil _ rest
  | symbol => exact SymbolTree.read_cons_ne_nil _ c rest

/- The first token of a formula is read by a rule. -/
theorem expression_first_eq_read
    {c : Char}
    {role : Role}
    (hRole : expression.role? c = some role)
    (rest : List Char) :
    expression.first c rest =
      expression.rules.read role (c :: rest) := by
  have hRead := expression_read_ne_nil hRole rest
  unfold first
  rw [hRole]
  dsimp only
  rw [if_neg]
  intro hEmpty
  exact hRead (List.isEmpty_iff.mp hEmpty)

/- The symbols of formulas are those entered. -/
theorem expression_symbols :
    expression.rules.symbols = .ofEntries expressionEntries :=
  rfl

/- No token of a formula is unknown. -/
theorem expression_kind_ne_unknown
    {k : Cursor}
    {token : Token}
    (hMem : token ∈ expression.rawTokens k) :
    token.kind ≠ .unknown := by
  rcases expression.exists_first_of_mem_rawTokens hMem with
    ⟨c, rest, hKind, _⟩
  rcases exists_expression_role? c with ⟨role, hRole⟩
  rw [hKind, expression_first_eq_read hRole]
  intro hUnknown
  rcases expression.rules.read_eq_or_isOwn role (c :: rest) with
    hSymbol | hOwn
  · rw [hSymbol] at hUnknown
    rcases expression.rules.symbols.exists_of_read c rest with
      ⟨more, _, _, hSingle | hEntered⟩
    · rw [hSingle] at hUnknown
      cases hUnknown
    · rw [hUnknown] at hEntered
      rw [expression_symbols] at hEntered
      rcases SymbolTree.kindOf?_ofEntries hEntered with
        hPlain | ⟨e, hEntry, hPlain⟩
      · cases hPlain
      · have hPlainEntries :
            ∀ e ∈ expressionEntries, e.2 ≠ .unknown := by
          decide
        exact hPlainEntries e hEntry hPlain
  · rw [hUnknown] at hOwn
    exact hOwn

/- No spelling of a formula marks the end of it. -/
theorem isEofFree_expression :
    expression.IsEofFree :=
  expression.isEofFree_of_entries expression_symbols (by decide)

end Tokenizer

end Formula
