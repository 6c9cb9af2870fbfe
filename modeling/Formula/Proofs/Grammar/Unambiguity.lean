import Formula.Proofs.Grammar.Derivation

/-
  The grammar of expressions is unambiguous.

  Where a phrase ends is decided by the mark that follows it:
  one that binds too loosely cannot carry the phrase on.  So
  lexemes that begin with a phrase begin with no other phrase
  of its kind.

  Key definitions include:
    * `Mark.tightness`
    * `Phrase.Stops`
    * `Phrase.openers`
    * `Derivation.IsDetermined`

  Main statements:
    * `Level.Spells.eq_of_append_eq`
    * `Derivation.exists_opener`
    * `Derivation.isDetermined`
    * `Derivation.yield_injective`
-/

namespace Formula

------------------------------------------------------------
-- Ends of Phrases
------------------------------------------------------------

/- How tightly a mark binds to what stands before it. -/
def Mark.tightness : Mark → Nat
  | .leftParen => 7
  | .leftBracket => 6
  | .caret | .isIn | .shiftLeft | .shiftRight => 5
  | .star | .slash | .percent => 4
  | .plus | .minus | .like | .not | .is => 3
  | .equal | .notEqual | .more | .less
  | .moreOrEqual | .lessOrEqual => 2
  | .and | .or | .xor => 1
  | .rightParen | .rightBracket | .comma | .null => 0

/- The tightness of the words of a level. -/
def Level.rank : Level → Nat
  | .logical => 1
  | .comparison => 2
  | .sum => 3
  | .product => 4
  | .power => 5

/- The least tightness that carries a phrase on. -/
def Phrase.rank : Phrase → Nat
  | .primary => 7
  | .accesses | .unary => 6
  | .negation => 2
  | .links k | .chain k => k.rank
  | .arguments => 1

/- The mark that some lexemes begin with. -/
def headMark?
    (ls : List Lexeme) : Option Mark :=
  ls.head?.bind Lexeme.mark?

@[simp] theorem headMark?_cons
    (l : Lexeme)
    (ls : List Lexeme) :
    headMark? (l :: ls) = l.mark? := rfl

/- A mark that some lexemes begin with is their first one. -/
theorem exists_cons_of_headMark?
    {m : Mark}
    {ls : List Lexeme}
    (hHead : headMark? ls = some m) :
    ∃ (l : Marked m) (rest : List Lexeme),
      ls = l.1 :: rest := by
  cases ls with
  | nil => cases hHead
  | cons l ls => exact ⟨⟨l, hHead⟩, ls, rfl⟩

/-
  A phrase ends where these lexemes begin.  Arguments go on up
  to the closing parenthesis.
-/
def Phrase.Stops
    (s : Phrase)
    (ls : List Lexeme) : Prop :=
  match s with
  | .arguments => headMark? ls = some .rightParen
  | _ => ∀ m, headMark? ls = some m → m.tightness < s.rank

namespace Level

theorem rank_lt_rank_operand
    (k : Level) :
    k.rank < k.operand.rank := by
  cases k <;> decide

theorem stops_operand_iff
    {k : Level}
    {ls : List Lexeme} :
    k.operand.Stops ls ↔
      ∀ m, headMark? ls = some m →
        m.tightness < k.operand.rank := by
  cases k <;> rfl

/- The first word of a link has the rank of the level. -/
theorem Spells.tightness_eq
    {k : Level}
    {link : Link}
    {first : Lexeme}
    {words : List Lexeme}
    (hSpells : k.Spells link (first :: words)) :
    ∃ m, first.mark? = some m ∧ m.tightness = k.rank := by
  have hRank :
      ∀ entry ∈ k.links,
        ∀ m ∈ entry.1.head?, m.tightness = k.rank := by
    cases k <;> decide
  rcases hSpells with ⟨_ | ⟨m, marks⟩, hMem, hMarks⟩
  · cases hMarks
  · exact ⟨m, (List.cons.inj hMarks).1, hRank _ hMem m rfl⟩

/- No words of a level begin with other words of it. -/
theorem eq_of_prefix
    (k : Level) :
    ∀ a ∈ k.links, ∀ b ∈ k.links,
      a.1.map some <+: b.1.map some → a = b := by
  cases k <;> decide

/- Lexemes begin with the words of one link at most. -/
theorem Spells.eq_of_append_eq
    {k : Level}
    {a b : Link}
    {ws ws' ls ls' : List Lexeme}
    (hLeft : k.Spells a ws)
    (hRight : k.Spells b ws')
    (hAppend : ws ++ ls = ws' ++ ls') :
    a = b ∧ ws = ws' ∧ ls = ls' := by
  rcases hLeft with ⟨ms, hMem, hMarks⟩
  rcases hRight with ⟨ms', hMem', hMarks'⟩
  have hFirst :
      ms.map some <+: (ws ++ ls).map Lexeme.mark? := by
    rw [List.map_append, hMarks]
    exact List.prefix_append _ _
  have hSecond :
      ms'.map some <+: (ws ++ ls).map Lexeme.mark? := by
    rw [hAppend, List.map_append, hMarks']
    exact List.prefix_append _ _
  have hEntry : (ms, a) = (ms', b) := by
    rcases List.prefix_or_prefix_of_prefix hFirst hSecond with
      hPrefix | hPrefix
    · exact k.eq_of_prefix _ hMem _ hMem' hPrefix
    · exact (k.eq_of_prefix _ hMem' _ hMem hPrefix).symm
  cases hEntry
  have hLength : ws.length = ws'.length := by
    simpa using
      congrArg List.length (hMarks.trans hMarks'.symm)
  exact ⟨rfl, List.append_inj hAppend hLength⟩

end Level

namespace Derivation

variable {k : Level}
variable {rest : List Lexeme}

/- The words of a level carry its chains on. -/
theorem not_stops_of_spells
    {link : Link}
    {first : Lexeme}
    {words : List Lexeme}
    (hSpells : k.Spells link (first :: words)) :
    ¬ (Phrase.links k).Stops (first :: rest) := by
  intro hStops
  rcases hSpells.tightness_eq with ⟨m, hMark, hTight⟩
  exact Nat.lt_irrefl _ (hTight ▸ hStops m hMark)

/- An operand ends where the links behind it begin. -/
theorem stops_operand
    (others : Derivation (.links k))
    (hStops : (Phrase.links k).Stops rest) :
    k.operand.Stops (others.yield ++ rest) := by
  rw [Level.stops_operand_iff]
  intro m hMark
  cases others with
  | noLink =>
      exact Nat.lt_trans (hStops m hMark)
        k.rank_lt_rank_operand
  | join first words op hSpells rhs others =>
      rcases hSpells.tightness_eq with ⟨m', hMark', hTight⟩
      cases hMark.symm.trans hMark'
      exact hTight ▸ k.rank_lt_rank_operand
  | test first words op hSpells others =>
      rcases hSpells.tightness_eq with ⟨m', hMark', hTight⟩
      cases hMark.symm.trans hMark'
      exact hTight ▸ k.rank_lt_rank_operand

/- A primary ends where accesses to it begin. -/
theorem stops_primary
    (taken : Derivation .accesses)
    (hStops : Phrase.accesses.Stops rest) :
    Phrase.primary.Stops (taken.yield ++ rest) := by
  intro m hMark
  cases taken with
  | noAccess => exact Nat.lt_succ_of_lt (hStops m hMark)
  | access opening index closing others =>
      cases hMark.symm.trans opening.2
      decide

end Derivation

/- An expression ends at the marks that carry nothing on. -/
theorem Phrase.stops_expression
    {l : Lexeme}
    {m : Mark}
    {ls : List Lexeme}
    (hMark : l.mark? = some m)
    (hLoose : m.tightness = 0) :
    Phrase.expression.Stops (l :: ls) := by
  intro m' hMark'
  cases hMark.symm.trans hMark'
  rw [hLoose]
  decide

------------------------------------------------------------
-- Beginnings of Phrases
------------------------------------------------------------

/-
  The marks that a phrase can begin with.  There are none for
  phrases that can be empty.
-/
def Phrase.openers : Phrase → List Mark
  | .primary => [.null, .leftParen]
  | .unary | .chain .power | .chain .product
  | .chain .sum | .chain .comparison =>
      [.null, .leftParen, .plus, .minus]
  | .negation | .chain .logical =>
      [.null, .leftParen, .plus, .minus, .not]
  | .arguments | .accesses | .links _ => []

theorem Level.openers_operand_subset
    (k : Level) :
    k.operand.openers ⊆ (Phrase.chain k).openers := by
  cases k <;> simp [Level.operand, Phrase.openers]

theorem Level.openers_operand_ne_nil
    (k : Level) :
    k.operand.openers ≠ [] := by
  cases k <;> simp [Level.operand, Phrase.openers]

theorem Lexeme.mark?_of_constant
    {l : Lexeme}
    {v : Value}
    (hConstant : l.content = .constant v) :
    l.mark? = none := by
  rw [mark?, hConstant]

theorem Lexeme.mark?_of_name
    {l : Lexeme}
    {name : String}
    (hName : l.content = .name name) :
    l.mark? = none := by
  rw [mark?, hName]

theorem Lexeme.mark?_eq_some
    {l : Lexeme}
    {m : Mark} :
    l.mark? = some m ↔ l.content = .mark m := by
  rw [mark?]
  cases l.content <;> simp

/-
  A phrase that cannot be empty begins with a lexeme, and that
  is a constant, a name or one of the marks for it.
-/
theorem Derivation.exists_opener
    {s : Phrase}
    (d : Derivation s)
    (hOpeners : s.openers ≠ []) :
    ∃ l ls, d.yield = l :: ls ∧
      ∀ m, l.mark? = some m → m ∈ s.openers := by
  induction d with
  | constant l v hConstant =>
      refine ⟨l, [], rfl, fun m hMark => ?_⟩
      rw [Lexeme.mark?_of_constant hConstant] at hMark
      cases hMark
  | null l =>
      refine ⟨l.1, [], rfl, fun m hMark => ?_⟩
      cases l.2.symm.trans hMark
      decide
  | reference l name hName =>
      refine ⟨l, [], rfl, fun m hMark => ?_⟩
      rw [Lexeme.mark?_of_name hName] at hMark
      cases hMark
  | call l name hName opening args closing =>
      refine ⟨l, _, rfl, fun m hMark => ?_⟩
      rw [Lexeme.mark?_of_name hName] at hMark
      cases hMark
  | group opening e closing =>
      refine ⟨opening.1, _, rfl, fun m hMark => ?_⟩
      cases opening.2.symm.trans hMark
      decide
  | unsigned e taken ih =>
      rcases ih (by decide) with ⟨l, ls, hYield, hMark⟩
      refine ⟨l, ls ++ taken.yield, ?_, fun m h => ?_⟩
      · rw [yield, hYield, List.cons_append]
      · exact List.mem_append_left [.plus, .minus] (hMark m h)
  | positive sign e taken =>
      refine ⟨sign.1, _, rfl, fun m hMark => ?_⟩
      cases sign.2.symm.trans hMark
      decide
  | negative sign e taken =>
      refine ⟨sign.1, _, rfl, fun m hMark => ?_⟩
      cases sign.2.symm.trans hMark
      decide
  | assertion e ih =>
      rcases ih (by decide) with ⟨l, ls, hYield, hMark⟩
      refine ⟨l, ls, hYield, fun m h => ?_⟩
      exact List.mem_append_left [.not] (hMark m h)
  | denial sign e =>
      refine ⟨sign.1, _, rfl, fun m hMark => ?_⟩
      cases sign.2.symm.trans hMark
      decide
  | @chain k first others ih =>
      rcases ih k.openers_operand_ne_nil with
        ⟨l, ls, hYield, hMark⟩
      refine ⟨l, ls ++ others.yield, ?_, fun m h => ?_⟩
      · rw [yield, hYield, List.cons_append]
      · exact k.openers_operand_subset (hMark m h)
  | _ => exact absurd rfl hOpeners

/- A phrase begins with none of the marks it cannot have. -/
theorem Derivation.headMark?_ne
    {s : Phrase}
    {m : Mark}
    {rest : List Lexeme}
    (d : Derivation s)
    (hOpeners : s.openers ≠ [])
    (hMark : m ∉ s.openers) :
    headMark? (d.yield ++ rest) ≠ some m := by
  rcases d.exists_opener hOpeners with ⟨l, ls, hYield, hAll⟩
  rw [hYield, List.cons_append, headMark?_cons]
  exact fun h => hMark (hAll m h)

------------------------------------------------------------
-- Uniqueness
------------------------------------------------------------

namespace Derivation

/-
  Lexemes that begin with a phrase, and go on with what ends
  it, begin with no other phrase of its kind.
-/
def IsDetermined
    {s : Phrase}
    (d : Derivation s) : Prop :=
  ∀ (d' : Derivation s) (rest rest' : List Lexeme),
    s.Stops rest → s.Stops rest' →
      d.yield ++ rest = d'.yield ++ rest' →
        d = d' ∧ rest = rest'

/- What the first lexeme of a primary stands for. -/
def content : Derivation .primary → LexemeContent
  | constant _ v _ => .constant v
  | null _ => .mark .null
  | reference _ name _ => .name name
  | call _ name _ _ _ _ => .name name
  | group _ _ _ => .mark .leftParen

theorem exists_content
    (d : Derivation .primary) :
    ∃ l ls, d.yield = l :: ls ∧ l.content = d.content := by
  cases d with
  | constant l v hConstant => exact ⟨l, _, rfl, hConstant⟩
  | null l => exact ⟨l.1, _, rfl, Lexeme.mark?_eq_some.mp l.2⟩
  | reference l name hName => exact ⟨l, _, rfl, hName⟩
  | call l name hName => exact ⟨l, _, rfl, hName⟩
  | group opening =>
      exact ⟨opening.1, _, rfl,
        Lexeme.mark?_eq_some.mp opening.2⟩

/- Primaries that begin alike begin with the same lexeme. -/
theorem content_eq_of_append_eq
    {rest rest' : List Lexeme}
    (d d' : Derivation .primary)
    (hAppend : d.yield ++ rest = d'.yield ++ rest') :
    d.content = d'.content := by
  rcases d.exists_content with ⟨l, ls, hYield, hContent⟩
  rcases d'.exists_content with ⟨l', ls', hYield', hContent'⟩
  rw [hYield, hYield'] at hAppend
  cases (List.cons.inj hAppend).1
  exact hContent.symm.trans hContent'

/- A name in front of an argument list is that of a call. -/
theorem not_stops_leftParen
    (opening : Marked .leftParen) :
    ¬ Phrase.primary.Stops (opening.1 :: rest) := by
  intro hStops
  exact Nat.lt_irrefl _ (hStops _ opening.2)

theorem isDetermined_constant
    (l : Lexeme)
    (v : Value)
    (hConstant : l.content = .constant v) :
    (constant l v hConstant).IsDetermined := by
  intro d' rest rest' _ _ hAppend
  have hContent := content_eq_of_append_eq _ d' hAppend
  cases d' with
  | constant l' v' hConstant' =>
      cases hContent
      rcases List.cons.inj hAppend with ⟨rfl, rfl⟩
      exact ⟨rfl, rfl⟩
  | _ => cases hContent

theorem isDetermined_null
    (l : Marked .null) :
    (null l).IsDetermined := by
  intro d' rest rest' _ _ hAppend
  have hContent := content_eq_of_append_eq _ d' hAppend
  cases d' with
  | null l' =>
      rcases List.cons.inj hAppend with ⟨hFirst, rfl⟩
      cases Subtype.ext hFirst
      exact ⟨rfl, rfl⟩
  | _ => cases hContent

theorem isDetermined_reference
    (l : Lexeme)
    (name : String)
    (hName : l.content = .name name) :
    (reference l name hName).IsDetermined := by
  intro d' rest rest' hStops _ hAppend
  have hContent := content_eq_of_append_eq _ d' hAppend
  cases d' with
  | reference l' name' hName' =>
      cases hContent
      rcases List.cons.inj hAppend with ⟨rfl, rfl⟩
      exact ⟨rfl, rfl⟩
  | call l' name' hName' opening args closing =>
      rcases List.cons.inj hAppend with ⟨_, rfl⟩
      exact absurd hStops (not_stops_leftParen opening)
  | _ => cases hContent

theorem isDetermined_call
    (l : Lexeme)
    (name : String)
    (hName : l.content = .name name)
    (opening : Marked .leftParen)
    (args : Derivation .arguments)
    (closing : Marked .rightParen)
    (hArgs : args.IsDetermined) :
    (call l name hName opening args closing).IsDetermined := by
  intro d' rest rest' _ hStops' hAppend
  have hContent := content_eq_of_append_eq _ d' hAppend
  cases d' with
  | call l' name' hName' opening' args' closing' =>
      cases hContent
      simp only [yield, List.cons_append, List.append_assoc,
        List.nil_append, List.cons.injEq] at hAppend
      rcases hAppend with ⟨rfl, hOpening, hRest⟩
      cases Subtype.ext hOpening
      rcases hArgs args' (closing.1 :: _) (closing'.1 :: _)
        closing.2 closing'.2 hRest with ⟨rfl, hClosing⟩
      rcases List.cons.inj hClosing with ⟨hLast, rfl⟩
      cases Subtype.ext hLast
      exact ⟨rfl, rfl⟩
  | reference l' name' hName' =>
      rcases List.cons.inj hAppend with ⟨_, rfl⟩
      exact absurd hStops' (not_stops_leftParen opening)
  | _ => cases hContent

theorem isDetermined_group
    (opening : Marked .leftParen)
    (e : Derivation .expression)
    (closing : Marked .rightParen)
    (hInner : e.IsDetermined) :
    (group opening e closing).IsDetermined := by
  intro d' rest rest' _ _ hAppend
  have hContent := content_eq_of_append_eq _ d' hAppend
  cases d' with
  | group opening' e' closing' =>
      simp only [yield, List.cons_append, List.append_assoc,
        List.nil_append, List.cons.injEq] at hAppend
      rcases hAppend with ⟨hOpening, hRest⟩
      cases Subtype.ext hOpening
      rcases hInner e' _ _
        (Phrase.stops_expression closing.2 rfl)
        (Phrase.stops_expression closing'.2 rfl) hRest with
        ⟨rfl, hClosing⟩
      rcases List.cons.inj hClosing with ⟨hLast, rfl⟩
      cases Subtype.ext hLast
      exact ⟨rfl, rfl⟩
  | _ => cases hContent

/- What begins with an expression does not close anything. -/
theorem not_stops_arguments
    (e : Derivation .expression) :
    ¬ Phrase.arguments.Stops (e.yield ++ rest) :=
  e.headMark?_ne (by decide) (by decide)

theorem isDetermined_noArgument :
    noArgument.IsDetermined := by
  intro d' rest rest' hStops _ hAppend
  cases d' with
  | noArgument => exact ⟨rfl, hAppend⟩
  | lastArgument e =>
      cases (hAppend : rest = e.yield ++ rest')
      exact absurd hStops (not_stops_arguments e)
  | moreArguments e comma others =>
      simp only [yield, List.append_assoc] at hAppend
      cases (hAppend : rest = e.yield ++ _)
      exact absurd hStops (not_stops_arguments e)

/- An expression ends where arguments do. -/
theorem stops_expression_of_arguments
    (hStops : Phrase.arguments.Stops rest) :
    Phrase.expression.Stops rest := by
  intro m hMark
  cases hStops.symm.trans hMark
  decide

theorem isDetermined_lastArgument
    (e : Derivation .expression)
    (hInner : e.IsDetermined) :
    (lastArgument e).IsDetermined := by
  intro d' rest rest' hStops hStops' hAppend
  have hEnd := stops_expression_of_arguments hStops
  cases d' with
  | noArgument =>
      cases (hAppend : e.yield ++ rest = rest')
      exact absurd hStops' (not_stops_arguments e)
  | lastArgument e' =>
      rcases hInner e' _ _ hEnd
        (stops_expression_of_arguments hStops') hAppend with
        ⟨rfl, rfl⟩
      exact ⟨rfl, rfl⟩
  | moreArguments e' comma others =>
      simp only [yield, List.append_assoc] at hAppend
      rcases hInner e' _ _ hEnd
        (Phrase.stops_expression comma.2 rfl) hAppend with
        ⟨_, rfl⟩
      cases comma.2.symm.trans hStops

theorem isDetermined_moreArguments
    (e : Derivation .expression)
    (comma : Marked .comma)
    (others : Derivation .arguments)
    (hInner : e.IsDetermined)
    (hOthers : others.IsDetermined) :
    (moreArguments e comma others).IsDetermined := by
  intro d' rest rest' hStops hStops' hAppend
  have hEnd {ls : List Lexeme} :
      Phrase.expression.Stops (comma.1 :: ls) :=
    Phrase.stops_expression comma.2 rfl
  simp only [yield, List.append_assoc] at hAppend
  cases d' with
  | noArgument =>
      cases (hAppend : e.yield ++ _ = rest')
      exact absurd hStops' (not_stops_arguments e)
  | lastArgument e' =>
      rcases hInner e' _ _ hEnd
        (stops_expression_of_arguments hStops') hAppend with
        ⟨_, rfl⟩
      cases comma.2.symm.trans hStops'
  | moreArguments e' comma' others' =>
      simp only [yield, List.append_assoc] at hAppend
      rcases hInner e' _ _ hEnd
        (Phrase.stops_expression comma'.2 rfl) hAppend with
        ⟨rfl, hRest⟩
      rcases List.cons.inj hRest with ⟨hComma, hNext⟩
      cases Subtype.ext hComma
      rcases hOthers others' _ _ hStops hStops' hNext with
        ⟨rfl, rfl⟩
      exact ⟨rfl, rfl⟩

/- An opening bracket carries accesses on. -/
theorem not_stops_leftBracket
    (opening : Marked .leftBracket) :
    ¬ Phrase.accesses.Stops (opening.1 :: rest) := by
  intro hStops
  exact Nat.lt_irrefl _ (hStops _ opening.2)

theorem isDetermined_noAccess :
    noAccess.IsDetermined := by
  intro d' rest rest' hStops _ hAppend
  cases d' with
  | noAccess => exact ⟨rfl, hAppend⟩
  | access opening index closing others =>
      cases (hAppend : rest = opening.1 :: _)
      exact absurd hStops (not_stops_leftBracket opening)

theorem isDetermined_access
    (opening : Marked .leftBracket)
    (index : Derivation .expression)
    (closing : Marked .rightBracket)
    (others : Derivation .accesses)
    (hIndex : index.IsDetermined)
    (hOthers : others.IsDetermined) :
    (access opening index closing others).IsDetermined := by
  intro d' rest rest' hStops hStops' hAppend
  cases d' with
  | noAccess =>
      cases (hAppend : opening.1 :: _ = rest')
      exact absurd hStops' (not_stops_leftBracket opening)
  | access opening' index' closing' others' =>
      simp only [yield, List.cons_append, List.append_assoc,
        List.cons.injEq] at hAppend
      rcases hAppend with ⟨hOpening, hRest⟩
      cases Subtype.ext hOpening
      rcases hIndex index' _ _
        (Phrase.stops_expression closing.2 rfl)
        (Phrase.stops_expression closing'.2 rfl) hRest with
        ⟨rfl, hTail⟩
      rcases List.cons.inj hTail with ⟨hClosing, hNext⟩
      cases Subtype.ext hClosing
      rcases hOthers others' _ _ hStops hStops' hNext with
        ⟨rfl, rfl⟩
      exact ⟨rfl, rfl⟩

/- Two phrases in a row are determined one after the other. -/
theorem eq_of_pair_append_eq
    {s t : Phrase}
    {d d' : Derivation s}
    {e e' : Derivation t}
    {rest rest' : List Lexeme}
    (hFirst : d.IsDetermined)
    (hSecond : e.IsDetermined)
    (hBetween : s.Stops (e.yield ++ rest))
    (hBetween' : s.Stops (e'.yield ++ rest'))
    (hStops : t.Stops rest)
    (hStops' : t.Stops rest')
    (hAppend :
      d.yield ++ e.yield ++ rest =
        d'.yield ++ e'.yield ++ rest') :
    d = d' ∧ e = e' ∧ rest = rest' := by
  rw [List.append_assoc, List.append_assoc] at hAppend
  rcases hFirst d' _ _ hBetween hBetween' hAppend with
    ⟨rfl, hRest⟩
  rcases hSecond e' _ _ hStops hStops' hRest with ⟨rfl, rfl⟩
  exact ⟨rfl, rfl, rfl⟩

/- A primary does not begin with a sign. -/
theorem primary_ne_sign
    {m : Mark}
    {ls ls' : List Lexeme}
    (e : Derivation .primary)
    (sign : Marked m)
    (hSign : m ∉ Phrase.primary.openers) :
    e.yield ++ ls ≠ sign.1 :: ls' := by
  intro hAppend
  apply e.headMark?_ne (by decide) hSign
  rw [hAppend]
  exact sign.2

/- A primary is determined with all accesses to it. -/
theorem eq_of_primary_append_eq
    {e e' : Derivation .primary}
    {taken taken' : Derivation .accesses}
    {rest rest' : List Lexeme}
    (hInner : e.IsDetermined)
    (hTaken : taken.IsDetermined)
    (hStops : Phrase.accesses.Stops rest)
    (hStops' : Phrase.accesses.Stops rest')
    (hAppend :
      e.yield ++ taken.yield ++ rest =
        e'.yield ++ taken'.yield ++ rest') :
    e = e' ∧ taken = taken' ∧ rest = rest' :=
  eq_of_pair_append_eq hInner hTaken
    (taken.stops_primary hStops)
    (taken'.stops_primary hStops') hStops hStops' hAppend

/- So it is with a sign before it. -/
theorem eq_of_signed_append_eq
    {m : Mark}
    {sign sign' : Marked m}
    {e e' : Derivation .primary}
    {taken taken' : Derivation .accesses}
    {rest rest' : List Lexeme}
    (hInner : e.IsDetermined)
    (hTaken : taken.IsDetermined)
    (hStops : Phrase.accesses.Stops rest)
    (hStops' : Phrase.accesses.Stops rest')
    (hAppend :
      sign.1 :: (e.yield ++ taken.yield) ++ rest =
        sign'.1 :: (e'.yield ++ taken'.yield) ++ rest') :
    sign = sign' ∧ e = e' ∧ taken = taken' ∧ rest = rest' := by
  rcases List.cons.inj hAppend with ⟨hSign, hRest⟩
  exact ⟨Subtype.ext hSign,
    eq_of_primary_append_eq hInner hTaken
      hStops hStops' hRest⟩

theorem isDetermined_unsigned
    (e : Derivation .primary)
    (taken : Derivation .accesses)
    (hInner : e.IsDetermined)
    (hTaken : taken.IsDetermined) :
    (unsigned e taken).IsDetermined := by
  intro d' rest rest' hStops hStops' hAppend
  cases d' with
  | unsigned e' taken' =>
      rcases eq_of_primary_append_eq hInner hTaken
        hStops hStops' hAppend with ⟨rfl, rfl, rfl⟩
      exact ⟨rfl, rfl⟩
  | positive sign e' taken' =>
      simp only [yield, List.append_assoc] at hAppend
      exact absurd hAppend
        (e.primary_ne_sign sign (by decide))
  | negative sign e' taken' =>
      simp only [yield, List.append_assoc] at hAppend
      exact absurd hAppend
        (e.primary_ne_sign sign (by decide))

theorem isDetermined_positive
    (sign : Marked .plus)
    (e : Derivation .primary)
    (taken : Derivation .accesses)
    (hInner : e.IsDetermined)
    (hTaken : taken.IsDetermined) :
    (positive sign e taken).IsDetermined := by
  intro d' rest rest' hStops hStops' hAppend
  cases d' with
  | unsigned e' taken' =>
      simp only [yield, List.append_assoc] at hAppend
      exact absurd hAppend.symm
        (e'.primary_ne_sign sign (by decide))
  | positive sign' e' taken' =>
      rcases eq_of_signed_append_eq hInner hTaken
        hStops hStops' hAppend with ⟨rfl, rfl, rfl, rfl⟩
      exact ⟨rfl, rfl⟩
  | negative sign' e' taken' =>
      have hSame := congrArg headMark? hAppend
      cases (sign.2.symm.trans hSame).trans sign'.2

theorem isDetermined_negative
    (sign : Marked .minus)
    (e : Derivation .primary)
    (taken : Derivation .accesses)
    (hInner : e.IsDetermined)
    (hTaken : taken.IsDetermined) :
    (negative sign e taken).IsDetermined := by
  intro d' rest rest' hStops hStops' hAppend
  cases d' with
  | unsigned e' taken' =>
      simp only [yield, List.append_assoc] at hAppend
      exact absurd hAppend.symm
        (e'.primary_ne_sign sign (by decide))
  | positive sign' e' taken' =>
      have hSame := congrArg headMark? hAppend
      cases (sign.2.symm.trans hSame).trans sign'.2
  | negative sign' e' taken' =>
      rcases eq_of_signed_append_eq hInner hTaken
        hStops hStops' hAppend with ⟨rfl, rfl, rfl, rfl⟩
      exact ⟨rfl, rfl⟩

/- A comparison does not begin with its negation. -/
theorem comparison_ne_denial
    {ls ls' : List Lexeme}
    (e : Derivation (.chain .comparison))
    (sign : Marked .not) :
    e.yield ++ ls ≠ sign.1 :: ls' := by
  intro hAppend
  apply e.headMark?_ne (m := .not) (by decide) (by decide)
  rw [hAppend]
  exact sign.2

theorem isDetermined_assertion
    (e : Derivation (.chain .comparison))
    (hInner : e.IsDetermined) :
    (assertion e).IsDetermined := by
  intro d' rest rest' hStops hStops' hAppend
  cases d' with
  | assertion e' =>
      rcases hInner e' _ _ hStops hStops' hAppend with
        ⟨rfl, rfl⟩
      exact ⟨rfl, rfl⟩
  | denial sign e' =>
      exact absurd hAppend (e.comparison_ne_denial sign)

theorem isDetermined_denial
    (sign : Marked .not)
    (e : Derivation (.chain .comparison))
    (hInner : e.IsDetermined) :
    (denial sign e).IsDetermined := by
  intro d' rest rest' hStops hStops' hAppend
  cases d' with
  | assertion e' =>
      exact absurd hAppend.symm (e'.comparison_ne_denial sign)
  | denial sign' e' =>
      rcases List.cons.inj hAppend with ⟨hSign, hRest⟩
      cases Subtype.ext hSign
      rcases hInner e' _ _ hStops hStops' hRest with
        ⟨rfl, rfl⟩
      exact ⟨rfl, rfl⟩

theorem isDetermined_noLink :
    (noLink (k := k)).IsDetermined := by
  intro d' rest rest' hStops _ hAppend
  cases d' with
  | noLink => exact ⟨rfl, hAppend⟩
  | join first words op hSpells rhs others =>
      cases (hAppend : rest = first :: _)
      exact absurd hStops (not_stops_of_spells hSpells)
  | test first words op hSpells others =>
      cases (hAppend : rest = first :: _)
      exact absurd hStops (not_stops_of_spells hSpells)

theorem isDetermined_join
    (first : Lexeme)
    (words : List Lexeme)
    (op : BinaryOp)
    (hSpells : k.Spells (.join op) (first :: words))
    (rhs : Derivation k.operand)
    (others : Derivation (.links k))
    (hRight : rhs.IsDetermined)
    (hOthers : others.IsDetermined) :
    (join first words op hSpells rhs others).IsDetermined := by
  intro d' rest rest' hStops hStops' hAppend
  simp only [yield, List.cons_append, List.append_assoc]
    at hAppend
  cases d' with
  | noLink =>
      cases (hAppend : first :: _ = rest')
      exact absurd hStops' (not_stops_of_spells hSpells)
  | join first' words' op' hSpells' rhs' others' =>
      simp only [yield, List.cons_append, List.append_assoc]
        at hAppend
      rcases hSpells.eq_of_append_eq hSpells' hAppend with
        ⟨hLink, hWords, hRest⟩
      cases hLink
      cases hWords
      rw [← List.append_assoc, ← List.append_assoc] at hRest
      rcases eq_of_pair_append_eq hRight hOthers
        (others.stops_operand hStops)
        (others'.stops_operand hStops')
        hStops hStops' hRest with ⟨rfl, rfl, rfl⟩
      exact ⟨rfl, rfl⟩
  | test first' words' op' hSpells' others' =>
      simp only [yield, List.cons_append, List.append_assoc]
        at hAppend
      cases (hSpells.eq_of_append_eq hSpells' hAppend).1

theorem isDetermined_test
    (first : Lexeme)
    (words : List Lexeme)
    (op : UnaryOp)
    (hSpells : k.Spells (.test op) (first :: words))
    (others : Derivation (.links k))
    (hOthers : others.IsDetermined) :
    (test first words op hSpells others).IsDetermined := by
  intro d' rest rest' hStops hStops' hAppend
  simp only [yield, List.cons_append, List.append_assoc]
    at hAppend
  cases d' with
  | noLink =>
      cases (hAppend : first :: _ = rest')
      exact absurd hStops' (not_stops_of_spells hSpells)
  | join first' words' op' hSpells' rhs' others' =>
      simp only [yield, List.cons_append, List.append_assoc]
        at hAppend
      cases (hSpells.eq_of_append_eq hSpells' hAppend).1
  | test first' words' op' hSpells' others' =>
      simp only [yield, List.cons_append, List.append_assoc]
        at hAppend
      rcases hSpells.eq_of_append_eq hSpells' hAppend with
        ⟨hLink, hWords, hRest⟩
      cases hLink
      cases hWords
      rcases hOthers others' _ _ hStops hStops' hRest with
        ⟨rfl, rfl⟩
      exact ⟨rfl, rfl⟩

theorem isDetermined_chain
    (first : Derivation k.operand)
    (others : Derivation (.links k))
    (hFirst : first.IsDetermined)
    (hOthers : others.IsDetermined) :
    (chain first others).IsDetermined := by
  intro d' rest rest' hStops hStops' hAppend
  cases d' with
  | chain first' others' =>
      rcases eq_of_pair_append_eq hFirst hOthers
        (others.stops_operand hStops)
        (others'.stops_operand hStops')
        hStops hStops' hAppend with ⟨rfl, rfl, rfl⟩
      exact ⟨rfl, rfl⟩

/-
  Lexemes begin with at most one phrase of a kind that ends
  where the phrase cannot go on.
-/
theorem isDetermined
    {s : Phrase}
    (d : Derivation s) :
    d.IsDetermined := by
  induction d with
  | constant l v hConstant =>
      exact isDetermined_constant l v hConstant
  | null l => exact isDetermined_null l
  | reference l name hName =>
      exact isDetermined_reference l name hName
  | call l name hName opening args closing ih =>
      exact isDetermined_call l name hName _ _ _ ih
  | group opening e closing ih =>
      exact isDetermined_group opening e closing ih
  | noArgument => exact isDetermined_noArgument
  | lastArgument e ih => exact isDetermined_lastArgument e ih
  | moreArguments e comma others ih ihOthers =>
      exact isDetermined_moreArguments e comma _ ih ihOthers
  | noAccess => exact isDetermined_noAccess
  | access opening index closing others ih ihOthers =>
      exact isDetermined_access opening _ _ _ ih ihOthers
  | unsigned e taken ih ihTaken =>
      exact isDetermined_unsigned e taken ih ihTaken
  | positive sign e taken ih ihTaken =>
      exact isDetermined_positive sign e taken ih ihTaken
  | negative sign e taken ih ihTaken =>
      exact isDetermined_negative sign e taken ih ihTaken
  | assertion e ih => exact isDetermined_assertion e ih
  | denial sign e ih => exact isDetermined_denial sign e ih
  | noLink => exact isDetermined_noLink
  | join first words op hSpells rhs others ih ihOthers =>
      exact isDetermined_join first words op hSpells _ _
        ih ihOthers
  | test first words op hSpells others ih =>
      exact isDetermined_test first words op hSpells _ ih
  | chain first others ih ihOthers =>
      exact isDetermined_chain first others ih ihOthers

/- No two derivations of an expression have its lexemes. -/
theorem yield_injective
    {d d' : Derivation .expression}
    (hYield : d.yield = d'.yield) :
    d = d' := by
  refine (d.isDetermined d' [] [] ?_ ?_
    (congrArg (· ++ []) hYield)).1
  · intro m hMark
    cases hMark
  · intro m hMark
    cases hMark

end Derivation

end Formula
