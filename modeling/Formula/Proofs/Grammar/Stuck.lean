import Formula.Proofs.Grammar.Form

/-
  Where phrases get stuck.

  A phrase is stuck where a phrase in it is, and where what
  stands behind its parts neither goes on with the phrase nor
  ends it.

  Key definitions include:
    * `Derivation.anyOperand`
    * `Form.IsSigned`

  Main statements:
    * `Form.IsStuck.chain_of_operand`
    * `Form.IsStuck.links_of_linker`
    * `Form.IsStuck.primary_of_tight`
    * `Form.IsStuck.arguments_of_last`
-/

namespace Formula

------------------------------------------------------------
-- Fillers
------------------------------------------------------------

namespace Derivation

/- A primary that stands for null. -/
def anyPrimary : Derivation .primary :=
  .null (.of .null)

def anyUnary : Derivation .unary :=
  .unsigned anyPrimary .noAccess

def anyPower : Derivation (.chain .power) :=
  .chain (k := .power) anyUnary .noLink

def anyProduct : Derivation (.chain .product) :=
  .chain (k := .product) anyPower .noLink

def anySum : Derivation (.chain .sum) :=
  .chain (k := .sum) anyProduct .noLink

def anyComparison : Derivation (.chain .comparison) :=
  .chain (k := .comparison) anySum .noLink

/- The operand of a level that stands for null. -/
def anyOperand : (k : Level) → Derivation k.operand
  | .power => anyUnary
  | .product => anyPower
  | .sum => anyProduct
  | .comparison => anySum
  | .logical => .assertion anyComparison

/- A primary is a variable. -/
def IsReference : Derivation .primary → Prop
  | reference _ _ _ => True
  | _ => False

/- Arguments do not end with the input. -/
theorem not_stops_arguments_nil :
    ¬ Phrase.arguments.Stops [] := by
  intro hStops
  cases hStops

end Derivation

namespace Form

open Formula.Derivation

variable {before after : List Lexeme}

------------------------------------------------------------
-- Chains
------------------------------------------------------------

variable {k : Level}

abbrev operand
    (k : Level) : Form :=
  phrase k.operand

abbrev links
    (k : Level) : Form :=
  phrase (.links k)

abbrev chain
    (k : Level) : Form :=
  phrase (.chain k)

abbrev expression : Form :=
  chain .logical

/- A chain is stuck in its first operand. -/
theorem IsStuck.chain_of_operand
    (hStuck : (operand k).IsStuck before after) :
    (chain k).IsStuck before after := by
  rw [← List.nil_append before]
  apply hStuck.lift
  · rintro _ rest ⟨d, rfl, _⟩
    refine ⟨_, [], ⟨.chain d .noLink, rfl,
      Phrase.stops_nil nofun⟩, ?_⟩
    exact List.prefix_append _ _
  · rintro ls _ _ rest ⟨d, rfl, hStops⟩ hAppend
    cases d with
    | chain first others =>
        rw [yield, List.append_assoc] at hAppend
        exact ⟨_, _, ⟨first, rfl,
          others.stops_operand hStops⟩, hAppend⟩

/- A chain is stuck in the links behind its first operand. -/
theorem IsStuck.chain_of_links
    {first : Derivation k.operand}
    (hEnd : k.operand.Stops (before ++ after))
    (hStuck : (links k).IsStuck before after) :
    (chain k).IsStuck (first.yield ++ before) after := by
  apply hStuck.lift
  · rintro _ rest ⟨d, rfl, hStops⟩
    exact ⟨_, rest, ⟨.chain first d, rfl,
      hStops⟩, List.prefix_rfl⟩
  · rintro ls hHead _ rest ⟨d, rfl, hStops⟩ hAppend
    cases d with
    | chain first' others =>
        rw [yield, List.append_assoc] at hAppend
        rcases first.isDetermined first' _ _ (hEnd.congr hHead)
          (others.stops_operand hStops) hAppend.symm with
          ⟨_, hRest⟩
        exact ⟨_, rest, ⟨others, rfl, hStops⟩,
          hRest.symm⟩

/- Links that begin with some words are these or none. -/
theorem exists_of_links_append
    {link : Link}
    {first : Lexeme}
    {words ls rest : List Lexeme}
    (hSpells : k.Spells link (first :: words))
    (d : Derivation (.links k))
    (hStops : (Phrase.links k).Stops rest)
    (hAppend : d.yield ++ rest = (first :: words) ++ ls) :
    (∃ op rhs others hSpells',
      d = .join first words op hSpells' rhs others ∧
      link = .join op ∧
      rhs.yield ++ (others.yield ++ rest) = ls) ∨
    (∃ op others hSpells',
      d = .test first words op hSpells' others ∧
      link = .test op ∧ others.yield ++ rest = ls) := by
  cases d with
  | noLink =>
      cases (hAppend : rest = first :: _)
      exact absurd hStops (not_stops_of_spells hSpells)
  | join first' words' op hSpells' rhs others =>
      have hWords :
          (first' :: words') ++
            (rhs.yield ++ (others.yield ++ rest)) =
            (first :: words) ++ ls := by
        simpa using hAppend
      rcases hSpells'.eq_of_append_eq hSpells hWords with
        ⟨hLink, hSame, hRest⟩
      cases hSame
      exact .inl ⟨op, rhs, others, hSpells', rfl, hLink.symm,
        hRest⟩
  | test first' words' op hSpells' others =>
      have hWords :
          (first' :: words') ++ (others.yield ++ rest) =
            (first :: words) ++ ls := by
        simpa using hAppend
      rcases hSpells'.eq_of_append_eq hSpells hWords with
        ⟨hLink, hSame, hRest⟩
      cases hSame
      exact .inr ⟨op, others, hSpells', rfl, hLink.symm, hRest⟩

/- Links are stuck in what an operator joins to them. -/
theorem IsStuck.links_of_join
    {op : BinaryOp}
    {first : Lexeme}
    {words : List Lexeme}
    (hSpells : k.Spells (.join op) (first :: words))
    (hStuck : (chain k).IsStuck before after) :
    (links k).IsStuck (first :: words ++ before) after := by
  apply hStuck.lift
  · rintro _ rest ⟨d, rfl, hStops⟩
    cases d with
    | chain rhs others =>
        refine ⟨_, rest, ⟨.join first words op hSpells rhs
          others, rfl, hStops⟩, ?_⟩
        exact List.prefix_rfl
  · rintro ls _ _ rest ⟨d, rfl, hStops⟩ hAppend
    rcases exists_of_links_append hSpells d hStops hAppend with
      ⟨op', rhs, others, _, rfl, _, hRest⟩ |
      ⟨op', others, _, _, hLink, _⟩
    · refine ⟨_, rest, ⟨.chain rhs others, rfl,
        hStops⟩, ?_⟩
      rw [yield, List.append_assoc]
      exact hRest
    · cases hLink

/- Links are stuck in the links behind a test. -/
theorem IsStuck.links_of_test
    {op : UnaryOp}
    {first : Lexeme}
    {words : List Lexeme}
    (hSpells : k.Spells (.test op) (first :: words))
    (hStuck : (links k).IsStuck before after) :
    (links k).IsStuck (first :: words ++ before) after := by
  apply hStuck.lift
  · rintro _ rest ⟨d, rfl, hStops⟩
    exact ⟨_, rest, ⟨.test first words op hSpells d,
      rfl, hStops⟩, List.prefix_rfl⟩
  · rintro ls _ _ rest ⟨d, rfl, hStops⟩ hAppend
    rcases exists_of_links_append hSpells d hStops hAppend with
      ⟨op', rhs, others, _, _, hLink, _⟩ |
      ⟨op', others, _, rfl, _, hRest⟩
    · cases hLink
    · exact ⟨_, rest, ⟨others, rfl, hStops⟩, hRest⟩

/- A word that does not open a sequence is a link alone. -/
theorem words_eq_nil
    {link : Link}
    {first : Lexeme}
    {words : List Lexeme}
    (hSpells : k.Spells link (first :: words))
    (hWord : ¬ first.OpensSequence) :
    words = [] := by
  have hSingle :
      ∀ entry ∈ k.links, entry.1.head? ≠ some .is →
        entry.1.head? ≠ some .not → entry.1.length = 1 := by
    cases k <;> decide
  rcases hSpells with ⟨marks, hMem, hMarks⟩
  have hHead : first.mark? = marks.head? := by
    have hFirst := congrArg List.head? hMarks
    cases marks with
    | nil => cases hMarks
    | cons m marks => simpa using hFirst
  have hLength : marks.length = 1 := by
    apply hSingle _ hMem
    · exact fun h => hWord (.inl (hHead.trans h))
    · exact fun h => hWord (.inr (hHead.trans h))
  have hWords := congrArg List.length hMarks
  simp only [List.map_cons, List.length_cons, List.length_map,
    hLength] at hWords
  exact List.eq_nil_of_length_eq_zero (by omega)

/- Links are stuck where their linker reads nothing. -/
theorem IsStuck.links_of_linker
    (hNone : k.linker after = none)
    (hTight : ¬ (Phrase.links k).Stops after) :
    (links k).IsStuck [] after := by
  refine .of_phrase .noLink ?_
  rintro l ls rfl hWord d rest more hStops hAppend
  have hSpelled
      {link : Link}
      {words : List Lexeme} :
      ¬ k.Spells link (l :: words) := by
    intro hSpells
    cases words_eq_nil hSpells hWord
    have hSome := Level.linker_of_spells hSpells ls
    cases hNone.symm.trans hSome
  cases d with
  | noLink =>
      cases (hAppend : rest = l :: more)
      exact hTight (hStops.congr rfl)
  | join first words op hSpells rhs others =>
      cases (List.cons.inj hAppend).1
      exact hSpelled hSpells
  | test first words op hSpells others =>
      cases (List.cons.inj hAppend).1
      exact hSpelled hSpells

------------------------------------------------------------
-- Primaries
------------------------------------------------------------

abbrev primary : Form :=
  phrase .primary

abbrev arguments : Form :=
  phrase .arguments

/- No primary begins where none is read. -/
theorem IsStuck.primary_of_mark
    {l : Lexeme}
    {m : Mark}
    {ls : List Lexeme}
    (hMark : l.content = .mark m)
    (hOther : m ∉ Phrase.primary.openers) :
    primary.IsStuck [] (l :: ls) := by
  refine ⟨⟨_, [], ⟨anyPrimary, rfl,
    Phrase.stops_nil nofun⟩, List.nil_prefix⟩, ?_⟩
  rintro l' _ ⟨⟩ _ _ rest more ⟨d, rfl, _⟩ hAppend
  have hHead : headMark? (d.yield ++ rest) ≠ some m :=
    d.headMark?_ne (by decide) hOther
  rw [hAppend] at hHead
  exact hHead (Lexeme.mark?_eq_some.mpr hMark)

/- What begins with an opening parenthesis is a group. -/
theorem exists_of_group_append
    {ls rest : List Lexeme}
    (opening : Marked .leftParen)
    (d : Derivation .primary)
    (hAppend : d.yield ++ rest = opening.1 :: ls) :
    ∃ e closing, d = .group opening e closing ∧
      e.yield ++ closing.1 :: rest = ls := by
  have hMark := Lexeme.mark?_eq_some.mp opening.2
  rcases d.exists_content with ⟨l, _, hYield, hContent⟩
  have hFirst : l = opening.1 := by
    rw [hYield] at hAppend
    exact (List.cons.inj hAppend).1
  rw [hFirst, hMark] at hContent
  cases d with
  | group opening' e closing =>
      simp only [yield, List.cons_append, List.append_assoc,
        List.nil_append, List.cons.injEq] at hAppend
      rcases hAppend with ⟨hOpening, hRest⟩
      cases Subtype.ext hOpening
      exact ⟨e, closing, rfl, hRest⟩
  | _ => cases hContent

/- A name in front of an opening parenthesis is called. -/
theorem exists_of_call_append
    {l : Lexeme}
    {name : String}
    {ls rest : List Lexeme}
    (hName : l.content = .name name)
    (opening : Marked .leftParen)
    (d : Derivation .primary)
    (hStops : Phrase.primary.Stops rest)
    (hAppend : d.yield ++ rest = l :: opening.1 :: ls) :
    ∃ args closing, d = .call l name hName opening args closing ∧
      args.yield ++ closing.1 :: rest = ls := by
  rcases d.exists_content with ⟨l', _, hYield, hContent⟩
  have hFirst : l' = l := by
    rw [hYield] at hAppend
    exact (List.cons.inj hAppend).1
  rw [hFirst, hName] at hContent
  cases d with
  | reference l'' name' hName' =>
      cases (List.cons.inj hAppend).2
      exact absurd hStops (not_stops_leftParen opening)
  | call l'' name' hName' opening' args closing =>
      cases hContent
      simp only [yield, List.cons_append, List.append_assoc,
        List.nil_append, List.cons.injEq] at hAppend
      rcases hAppend with ⟨rfl, hOpening, hRest⟩
      cases Subtype.ext hOpening
      exact ⟨args, closing, rfl, hRest⟩
  | _ => cases hContent

/- A group is stuck where its expression is not closed. -/
theorem IsStuck.primary_of_group
    (opening : Marked .leftParen)
    (hStuck :
      (closed .expression .rightParen).IsStuck
        before after) :
    primary.IsStuck (opening.1 :: before) after := by
  rw [← List.singleton_append]
  apply hStuck.lift
  · rintro _ _ ⟨d, closing, rfl⟩
    exact ⟨_, [], ⟨.group opening d closing, rfl,
      Phrase.stops_nil nofun⟩, List.prefix_rfl⟩
  · rintro ls _ _ rest ⟨d, rfl, _⟩ hAppend
    rcases exists_of_group_append opening d hAppend with
      ⟨e, closing, rfl, hRest⟩
    refine ⟨_, rest, ⟨e, closing, rfl⟩, ?_⟩
    rw [List.append_assoc]
    exact hRest

/- A call is stuck where its arguments are not closed. -/
theorem IsStuck.primary_of_call
    {l : Lexeme}
    {name : String}
    (hName : l.content = .name name)
    (opening : Marked .leftParen)
    (hStuck :
      (closed .arguments .rightParen).IsStuck
        before after) :
    primary.IsStuck (l :: opening.1 :: before) after := by
  have hSplit :
      l :: opening.1 :: before = [l, opening.1] ++ before :=
    rfl
  rw [hSplit]
  apply hStuck.lift
  · rintro _ _ ⟨d, closing, rfl⟩
    exact ⟨_, [], ⟨.call l name hName opening d closing,
      rfl, Phrase.stops_nil nofun⟩, List.prefix_rfl⟩
  · rintro ls _ _ rest ⟨d, rfl, hStops⟩ hAppend
    rcases exists_of_call_append hName opening d hStops
      hAppend with ⟨args, closing, rfl, hRest⟩
    refine ⟨_, rest, ⟨args, closing, rfl⟩, ?_⟩
    rw [List.append_assoc]
    exact hRest

/-
  Only behind a name does an opening parenthesis go on with a
  primary.
-/
theorem rest_eq_of_primary_append
    {rest rest' : List Lexeme}
    (d d' : Derivation .primary)
    (hKind : ¬ d.IsReference)
    (hStops : Phrase.primary.Stops rest')
    (hAppend : d'.yield ++ rest' = d.yield ++ rest) :
    rest' = rest := by
  cases d with
  | constant l v hConstant =>
      have hContent := content_eq_of_append_eq _ _ hAppend
      cases d' with
      | constant => exact (List.cons.inj hAppend).2
      | _ => cases hContent
  | null l =>
      have hContent := content_eq_of_append_eq _ _ hAppend
      cases d' with
      | null => exact (List.cons.inj hAppend).2
      | _ => cases hContent
  | reference l name hName =>
      exact absurd trivial hKind
  | call l name hName opening args closing =>
      rw [yield, List.cons_append, List.cons_append,
        List.append_assoc] at hAppend
      rcases exists_of_call_append hName opening d' hStops
        hAppend with ⟨args', closing', rfl, hRest⟩
      rcases args'.isDetermined args (closing'.1 :: _)
        (closing.1 :: _) closing'.2 closing.2 hRest with
        ⟨_, hLast⟩
      exact (List.cons.inj hLast).2
  | group opening e closing =>
      rw [yield, List.cons_append, List.append_assoc]
        at hAppend
      rcases exists_of_group_append opening d' hAppend with
        ⟨e', closing', rfl, hRest⟩
      rcases e'.isDetermined e _ _
        (Phrase.stops_expression closing'.2 rfl)
        (Phrase.stops_expression closing.2 rfl) hRest with
        ⟨_, hLast⟩
      exact (List.cons.inj hLast).2

/- A primary is stuck in front of what does not end it. -/
theorem IsStuck.primary_of_tight
    {d : Derivation .primary}
    (hKind : ¬ d.IsReference)
    (hTight : ¬ Phrase.primary.Stops after) :
    primary.IsStuck d.yield after := by
  refine .of_phrase d ?_
  rintro l ls rfl _ d' rest more hStops hAppend
  cases rest_eq_of_primary_append d d' hKind hStops hAppend
  exact hTight (hStops.congr rfl)

------------------------------------------------------------
-- Arguments
------------------------------------------------------------

/- Arguments are stuck in the first of them. -/
theorem IsStuck.arguments_of_first
    (hOpen : headMark? (before ++ after) ≠ some .rightParen)
    (hStuck : expression.IsStuck before after) :
    arguments.IsStuck before after := by
  rw [← List.nil_append before]
  apply hStuck.lift
  · rintro _ _ ⟨d, rfl, _⟩
    exact ⟨_, [(Marked.of .rightParen).1],
      ⟨.lastArgument d, rfl, rfl⟩,
      List.prefix_rfl⟩
  · rintro ls hHead _ rest ⟨d, rfl, hStops⟩ hAppend
    cases d with
    | noArgument =>
        cases (hAppend : rest = ls)
        exact absurd (hHead.symm.trans hStops) hOpen
    | lastArgument e =>
        exact ⟨_, rest, ⟨e, rfl,
          stops_expression_of_arguments hStops⟩, hAppend⟩
    | moreArguments e comma others =>
        rw [yield, List.append_assoc] at hAppend
        exact ⟨_, _, ⟨e, rfl,
          Phrase.stops_expression comma.2 rfl⟩, hAppend⟩

/- Arguments are stuck in those behind a comma. -/
theorem IsStuck.arguments_of_others
    {e : Derivation .expression}
    (comma : Marked .comma)
    (hStuck : arguments.IsStuck before after) :
    arguments.IsStuck
      ((e.yield ++ [comma.1]) ++ before) after := by
  apply hStuck.lift
  · rintro _ rest ⟨d, rfl, hStops⟩
    refine ⟨_, rest,
      ⟨.moreArguments e comma d, rfl, hStops⟩, ?_⟩
    rw [yield, List.append_assoc]
    exact List.prefix_rfl
  · rintro ls _ _ rest ⟨d, rfl, hStops⟩ hAppend
    have hComma :
        Phrase.expression.Stops (comma.1 :: ls) :=
      Phrase.stops_expression comma.2 rfl
    rw [List.append_assoc, List.singleton_append] at hAppend
    cases d with
    | noArgument =>
        cases (hAppend : rest = e.yield ++ _)
        exact absurd hStops (not_stops_arguments e)
    | lastArgument e' =>
        rcases e'.isDetermined e _ _
          (stops_expression_of_arguments hStops) hComma
          hAppend with ⟨_, rfl⟩
        cases comma.2.symm.trans hStops
    | moreArguments e' comma' others =>
        rw [yield, List.append_assoc] at hAppend
        rcases e'.isDetermined e _ _
          (Phrase.stops_expression comma'.2 rfl) hComma
          hAppend with ⟨_, hRest⟩
        exact ⟨_, rest, ⟨others, rfl, hStops⟩,
          (List.cons.inj hRest).2⟩

/-
  Behind an argument stands a comma, or what closes the
  arguments.
-/
theorem IsStuck.arguments_of_last
    {e : Derivation .expression}
    (hStops : Phrase.expression.Stops after)
    (hComma : headMark? after ≠ some .comma)
    (hOpen : headMark? after ≠ some .rightParen) :
    arguments.IsStuck e.yield after := by
  refine .of_phrase (.lastArgument e) ?_
  rintro l ls rfl _ d rest more hStops' hAppend
  rw [yield] at hAppend
  have hEnd : Phrase.expression.Stops (l :: more) :=
    hStops.congr rfl
  cases d with
  | noArgument =>
      cases (hAppend : rest = e.yield ++ _)
      exact absurd hStops' (not_stops_arguments e)
  | lastArgument e' =>
      rcases e'.isDetermined e _ _
        (stops_expression_of_arguments hStops') hEnd
        hAppend with ⟨_, rfl⟩
      exact hOpen hStops'
  | moreArguments e' comma others =>
      rw [yield, List.append_assoc] at hAppend
      rcases e'.isDetermined e _ _
        (Phrase.stops_expression comma.2 rfl) hEnd
        hAppend with ⟨_, hRest⟩
      cases (List.cons.inj hRest).1
      exact hComma comma.2

------------------------------------------------------------
-- Accesses
------------------------------------------------------------

abbrev accesses : Form :=
  phrase .accesses

/- Accesses that begin with a bracket are not none. -/
theorem exists_of_access_append
    {ls rest : List Lexeme}
    (opening : Marked .leftBracket)
    (d : Derivation .accesses)
    (hStops : Phrase.accesses.Stops rest)
    (hAppend : d.yield ++ rest = opening.1 :: ls) :
    ∃ index closing others,
      d = .access opening index closing others ∧
      index.yield ++ closing.1 :: (others.yield ++ rest) =
        ls := by
  cases d with
  | noAccess =>
      cases (hAppend : rest = opening.1 :: ls)
      exact absurd hStops (not_stops_leftBracket opening)
  | access opening' index closing others =>
      simp only [yield, List.cons_append, List.append_assoc,
        List.cons.injEq] at hAppend
      rcases hAppend with ⟨hOpening, hRest⟩
      cases Subtype.ext hOpening
      exact ⟨index, closing, others, rfl, hRest⟩

/- An access is stuck where its index is not closed. -/
theorem IsStuck.accesses_of_index
    (opening : Marked .leftBracket)
    (hStuck :
      (closed .expression .rightBracket).IsStuck
        before after) :
    accesses.IsStuck (opening.1 :: before) after := by
  rw [← List.singleton_append]
  apply hStuck.lift
  · rintro _ _ ⟨d, closing, rfl⟩
    exact ⟨_, [], ⟨.access opening d closing .noAccess,
      rfl, Phrase.stops_nil nofun⟩,
      List.prefix_rfl⟩
  · rintro ls _ _ rest ⟨d, rfl, hStops⟩ hAppend
    rcases exists_of_access_append opening d hStops hAppend
      with ⟨index, closing, others, rfl, hRest⟩
    refine ⟨_, others.yield ++ rest,
      ⟨index, closing, rfl⟩, ?_⟩
    rw [List.append_assoc]
    exact hRest

/- Accesses are stuck in those behind the first one. -/
theorem IsStuck.accesses_of_others
    {index : Derivation .expression}
    (opening : Marked .leftBracket)
    (closing : Marked .rightBracket)
    (hStuck : accesses.IsStuck before after) :
    accesses.IsStuck
      ((opening.1 :: (index.yield ++ [closing.1])) ++ before)
      after := by
  apply hStuck.lift
  · rintro _ rest ⟨d, rfl, hStops⟩
    refine ⟨_, rest,
      ⟨.access opening index closing d, rfl, hStops⟩, ?_⟩
    rw [yield, List.cons_append, List.append_assoc]
    exact List.prefix_rfl
  · rintro ls _ _ rest ⟨d, rfl, hStops⟩ hAppend
    rw [List.cons_append, List.append_assoc] at hAppend
    rcases exists_of_access_append opening d hStops hAppend
      with ⟨index', closing', others, rfl, hRest⟩
    rcases index'.isDetermined index _ _
      (Phrase.stops_expression closing'.2 rfl)
      (Phrase.stops_expression closing.2 rfl) hRest with
      ⟨_, hOthers⟩
    exact ⟨_, rest, ⟨others, rfl, hStops⟩,
      (List.cons.inj hOthers).2⟩

/- Accesses are stuck where neither goes on nor ends. -/
theorem IsStuck.accesses_of_tight
    (hOther : headMark? after ≠ some .leftBracket)
    (hTight : ¬ Phrase.accesses.Stops after) :
    accesses.IsStuck [] after := by
  refine .of_phrase .noAccess ?_
  rintro l ls rfl _ d rest more hStops hAppend
  cases d with
  | noAccess =>
      cases (hAppend : rest = l :: more)
      exact hTight (hStops.congr rfl)
  | access opening index closing others =>
      cases (List.cons.inj hAppend).1
      exact hOther opening.2

------------------------------------------------------------
-- Signs
------------------------------------------------------------

abbrev unary : Form :=
  phrase .unary

abbrev negation : Form :=
  phrase .negation

/-
  Where a phrase begins with `sign`, and with `ls` behind it,
  it is made by `make` from a primary and accesses to it.
-/
structure IsSigned
    (make : Derivation .primary → Derivation .accesses →
      Derivation .unary)
    (sign ls : List Lexeme) : Prop where
  yield_eq : ∀ e taken,
    (make e taken).yield = sign ++ (e.yield ++ taken.yield)
  exists_of_append : ∀ (d : Derivation .unary) ls' rest,
    headMark? ls' = headMark? ls →
      d.yield ++ rest = sign ++ ls' →
        ∃ e taken, d = make e taken

theorem isSigned_unsigned
    {ls : List Lexeme}
    (hPlus : headMark? ls ≠ some .plus)
    (hMinus : headMark? ls ≠ some .minus) :
    IsSigned .unsigned [] ls := by
  refine ⟨fun _ _ => rfl, ?_⟩
  intro d ls' rest hHead hAppend
  rw [List.nil_append] at hAppend
  cases d with
  | unsigned e taken => exact ⟨e, taken, rfl⟩
  | positive sign e taken =>
      have hSign : headMark? ls' = some .plus := by
        rw [← hAppend]
        exact sign.2
      exact absurd (hHead.symm.trans hSign) hPlus
  | negative sign e taken =>
      have hSign : headMark? ls' = some .minus := by
        rw [← hAppend]
        exact sign.2
      exact absurd (hHead.symm.trans hSign) hMinus

theorem isSigned_positive
    {ls : List Lexeme}
    (sign : Marked .plus) :
    IsSigned (.positive sign) [sign.1] ls := by
  refine ⟨fun _ _ => rfl, ?_⟩
  intro d ls' rest _ hAppend
  cases d with
  | unsigned e taken =>
      rw [yield, List.append_assoc] at hAppend
      exact absurd hAppend (e.primary_ne_sign sign (by decide))
  | positive sign' e taken =>
      cases Subtype.ext (List.cons.inj hAppend).1
      exact ⟨e, taken, rfl⟩
  | negative sign' e taken =>
      have hSame := congrArg headMark? hAppend
      cases (sign'.2.symm.trans hSame).trans sign.2

theorem isSigned_negative
    {ls : List Lexeme}
    (sign : Marked .minus) :
    IsSigned (.negative sign) [sign.1] ls := by
  refine ⟨fun _ _ => rfl, ?_⟩
  intro d ls' rest _ hAppend
  cases d with
  | unsigned e taken =>
      rw [yield, List.append_assoc] at hAppend
      exact absurd hAppend (e.primary_ne_sign sign (by decide))
  | positive sign' e taken =>
      have hSame := congrArg headMark? hAppend
      cases (sign'.2.symm.trans hSame).trans sign.2
  | negative sign' e taken =>
      cases Subtype.ext (List.cons.inj hAppend).1
      exact ⟨e, taken, rfl⟩

variable {make : Derivation .primary → Derivation .accesses →
  Derivation .unary}
variable {sign : List Lexeme}

/- An operand is stuck in the primary behind its sign. -/
theorem IsStuck.unary_of_primary
    (hSigned : IsSigned make sign (before ++ after))
    (hStuck : primary.IsStuck before after) :
    unary.IsStuck (sign ++ before) after := by
  apply hStuck.lift
  · rintro _ _ ⟨d, rfl, _⟩
    have hYield : (make d .noAccess).yield = sign ++ d.yield := by
      rw [hSigned.yield_eq, yield, List.append_nil]
    exact ⟨_, [], ⟨make d .noAccess,
      rfl,
      Phrase.stops_nil nofun⟩, hYield ▸ List.prefix_rfl⟩
  · rintro ls hHead _ rest ⟨d, rfl, hStops⟩ hAppend
    rcases hSigned.exists_of_append d ls rest hHead hAppend
      with ⟨e, taken, rfl⟩
    rw [hSigned.yield_eq, List.append_assoc,
      List.append_cancel_left_eq, List.append_assoc] at hAppend
    exact ⟨_, _,
      ⟨e, rfl,
        taken.stops_primary hStops⟩, hAppend⟩

/- An operand is stuck in the accesses to its primary. -/
theorem IsStuck.unary_of_accesses
    {e : Derivation .primary}
    (hSigned :
      IsSigned make sign (e.yield ++ (before ++ after)))
    (hEnd : Phrase.primary.Stops (before ++ after))
    (hStuck : accesses.IsStuck before after) :
    unary.IsStuck ((sign ++ e.yield) ++ before) after := by
  apply hStuck.lift
  · rintro _ rest ⟨d, rfl, hStops⟩
    have hYield :
        (make e d).yield = (sign ++ e.yield) ++ d.yield := by
      rw [hSigned.yield_eq, List.append_assoc]
    exact ⟨_, rest, ⟨make e d, rfl, hStops⟩,
      hYield ▸ List.prefix_rfl⟩
  · rintro ls hHead _ rest ⟨d, rfl, hStops⟩ hAppend
    have hHead' :
        headMark? (e.yield ++ ls) =
          headMark? (e.yield ++ (before ++ after)) := by
      rcases e.exists_content with ⟨l, _, hYield, _⟩
      rw [hYield]
      rfl
    rw [List.append_assoc] at hAppend
    rcases hSigned.exists_of_append d _ rest hHead' hAppend
      with ⟨e', taken, rfl⟩
    rw [hSigned.yield_eq, List.append_assoc,
      List.append_cancel_left_eq, List.append_assoc] at hAppend
    rcases e'.isDetermined e _ _ (taken.stops_primary hStops)
      (hEnd.congr hHead) hAppend with ⟨_, hRest⟩
    exact ⟨_, rest,
      ⟨taken, rfl, hStops⟩, hRest⟩

/- What is not denied is stuck where the comparison is. -/
theorem IsStuck.negation_of_assertion
    (hPlain : headMark? (before ++ after) ≠ some .not)
    (hStuck : (chain .comparison).IsStuck before after) :
    negation.IsStuck before after := by
  rw [← List.nil_append before]
  apply hStuck.lift
  · rintro _ rest ⟨d, rfl, hStops⟩
    exact ⟨_, rest, ⟨.assertion d, rfl, hStops⟩,
      List.prefix_rfl⟩
  · rintro ls hHead _ rest ⟨d, rfl, hStops⟩ hAppend
    cases d with
    | assertion e =>
        exact ⟨_, rest, ⟨e, rfl, hStops⟩, hAppend⟩
    | denial sign e =>
        have hSign : headMark? ls = some .not := by
          rw [← List.nil_append ls, ← hAppend]
          exact sign.2
        exact absurd (hHead.symm.trans hSign) hPlain

/- What is denied is stuck where the comparison is. -/
theorem IsStuck.negation_of_denial
    (sign : Marked .not)
    (hStuck : (chain .comparison).IsStuck before after) :
    negation.IsStuck (sign.1 :: before) after := by
  rw [← List.singleton_append]
  apply hStuck.lift
  · rintro _ rest ⟨d, rfl, hStops⟩
    exact ⟨_, rest, ⟨.denial sign d, rfl, hStops⟩,
      List.prefix_rfl⟩
  · rintro ls _ _ rest ⟨d, rfl, hStops⟩ hAppend
    cases d with
    | assertion e =>
        exact absurd hAppend (e.comparison_ne_denial sign)
    | denial sign' e =>
        exact ⟨_, rest, ⟨e, rfl, hStops⟩,
          (List.cons.inj hAppend).2⟩

end Form

end Formula
