import Formula.Proofs.Grammar.Completeness
import Formula.Proofs.Grammar.Verdict

/-
  Parsers stop exactly where their phrases get stuck.

  The parser of a phrase gives one of the verdicts on it, when
  the parser of what stands inside brackets goes deep enough.

  Key definitions include:
    * `Parser.IsExact`

  Main statements:
    * `Parser.isExact_chain`
    * `Parser.isExact_primary`
    * `Parser.isExact_expression`
-/

namespace Formula

namespace Parser

variable {α : Type}
variable {s : Phrase}
variable {ending : Position}
variable {ls : List Lexeme}
variable {n : Nat}

open Formula.Derivation

/- A parser is exact for at most `n` lexemes. -/
def IsExact
    (parse : Parser Expr)
    (s : Phrase)
    (ending : Position)
    (n : Nat) : Prop :=
  ∀ ls, ls.length ≤ n → Verdict s ending ls (parse ls)

/- A phrase that cannot be empty does not expect the end. -/
theorem Verdict.of_nil
    (d : Derivation s)
    (hKind : s ≠ .arguments) :
    Verdict s ending []
      (.error ⟨.unexpectedEnd, ending⟩ :
        Except SyntaxError (α × List Lexeme)) := by
  have hForm : Form.phrase s d.yield [] :=
    ⟨d, rfl, Phrase.stops_nil hKind⟩
  exact .refused [] [] _ rfl ⟨rfl, .inl rfl⟩
    (.of_nil hForm List.nil_prefix)

------------------------------------------------------------
-- Chains
------------------------------------------------------------

variable {k : Level}

/- Where a chain ends, so does its last operand. -/
theorem stops_operand_of_stops
    (hStops : (Phrase.chain k).Stops ls) :
    k.operand.Stops ls := by
  rw [Level.stops_operand_iff]
  intro m hMark
  have hLoose : m.tightness < k.rank := hStops m hMark
  exact Nat.lt_trans hLoose k.rank_lt_rank_operand

/- What carries an operand on is no link of the level. -/
theorem linker_eq_none_of_tight
    (hTight : ¬ k.operand.Stops ls) :
    k.linker ls = none := by
  cases hLink : k.linker ls with
  | none => rfl
  | some found =>
      rcases found with ⟨link, p, rest⟩
      rcases Level.linker_eq_some_iff.mp hLink with
        ⟨first, words, rfl, _, hSpells⟩
      rcases hSpells.tightness_eq with ⟨m, hMark, hRank⟩
      apply absurd _ hTight
      rw [Level.stops_operand_iff]
      intro m' hMark'
      cases hMark.symm.trans hMark'
      exact hRank ▸ k.rank_lt_rank_operand

theorem carryOn_of_tight
    {operand : Parser Expr}
    (hTight : ¬ k.operand.Stops ls)
    (e : Expr)
    (m : Nat) :
    carryOn operand k.linker e m ls = .ok (e, ls) := by
  cases m with
  | zero => rfl
  | succ m => rw [carryOn, linker_eq_none_of_tight hTight]

/- An operand and the links behind it make a chain. -/
theorem Verdict.chain
    {run : Except SyntaxError (Expr × List Lexeme)}
    (next : Expr → Parser Expr)
    (hFirst : Verdict k.operand ending ls run)
    (hNext :
      ∀ e rest, rest.length ≤ ls.length →
        Verdict (.links k) ending rest (next e rest))
    (hTight :
      ∀ e rest, ¬ k.operand.Stops rest →
        ∃ e', next e rest = .ok (e', rest)) :
    Verdict (.chain k) ending ls (do
      let (e, rest) ← run
      next e rest) := by
  cases hFirst with
  | read first e rest hSplit hStops =>
      have hLength : rest.length ≤ ls.length := by
        rw [hSplit, List.length_append]
        exact Nat.le_add_left _ _
      simp only [Outcome.ok_bind]
      rw [hSplit]
      refine (hNext e rest hLength).lift first.yield ?_
        (fun _ => Iff.rfl) ?_
      · intro others
        exact ⟨.chain first others, rfl⟩
      · intro before after hSplit' hStuck
        exact .chain_of_links (hSplit' ▸ hStops) hStuck
  | halted before after e hSplit hTight' hStuck =>
      rcases hTight e after hTight' with ⟨e', hRun⟩
      simp only [Outcome.ok_bind, hRun]
      refine .halted before after e' hSplit ?_
        hStuck.chain_of_operand
      exact fun hStops => hTight' (stops_operand_of_stops hStops)
  | refused before after f hSplit hStands hStuck =>
      exact .refused before after f hSplit hStands
        hStuck.chain_of_operand

/- A chain behind a joining operator makes links. -/
theorem Verdict.join
    {op : BinaryOp}
    {first : Lexeme}
    {words : List Lexeme}
    {run : Except SyntaxError (Expr × List Lexeme)}
    (hSpells : k.Spells (.join op) (first :: words))
    (hChain : Verdict (.chain k) ending ls run) :
    Verdict (.links k) ending (first :: (words ++ ls)) run := by
  refine hChain.lift (first :: words) ?_ (fun _ => Iff.rfl) ?_
  · intro d
    cases d with
    | chain rhs others =>
        exact ⟨.join first words op hSpells rhs others, rfl⟩
  · intro before after _ hStuck
    exact hStuck.links_of_join hSpells

/- Links behind a test make links. -/
theorem Verdict.test
    {op : UnaryOp}
    {first : Lexeme}
    {words : List Lexeme}
    {run : Except SyntaxError (Expr × List Lexeme)}
    (hSpells : k.Spells (.test op) (first :: words))
    (hLinks : Verdict (.links k) ending ls run) :
    Verdict (.links k) ending (first :: (words ++ ls)) run := by
  refine hLinks.lift (first :: words) ?_ (fun _ => Iff.rfl) ?_
  · intro others
    exact ⟨.test first words op hSpells others, rfl⟩
  · intro before after _ hStuck
    exact hStuck.links_of_test hSpells

/- An expression is carried on for as long as links follow. -/
theorem reads_carryOn
    {operand : Parser Expr}
    (hOperand : IsExact operand k.operand ending n)
    (e : Expr)
    (m : Nat)
    (ls : List Lexeme)
    (hLength : ls.length ≤ n)
    (hFuel : ls.length ≤ m) :
    Verdict (.links k) ending ls
      (carryOn operand k.linker e m ls) := by
  induction m generalizing e ls with
  | zero =>
      have hEmpty : ls = [] :=
        List.eq_nil_of_length_eq_zero (by omega)
      subst hEmpty
      exact .read .noLink e [] rfl
        (Phrase.stops_nil nofun)
  | succ m ih =>
      rw [carryOn]
      cases hLink : k.linker ls with
      | none =>
          by_cases hStops : (Phrase.links k).Stops ls
          · exact .read .noLink e ls rfl hStops
          · exact .halted [] ls e rfl hStops
              (.links_of_linker hLink hStops)
      | some found =>
          rcases found with ⟨link, p, rest⟩
          rcases Level.linker_eq_some_iff.mp hLink with
            ⟨first, words, rfl, rfl, hSpells⟩
          simp only [List.length_cons, List.length_append]
            at hLength hFuel
          cases link with
          | test op =>
              apply Verdict.test hSpells
              exact ih _ rest (by omega) (by omega)
          | join op =>
              apply Verdict.join hSpells
              refine Verdict.chain (fun rhs =>
                carryOn operand k.linker
                  (.binary op e rhs first.position) m)
                (hOperand rest (by omega)) ?_ ?_
              · intro rhs rest' hShorter
                exact ih _ rest' (by omega) (by omega)
              · intro rhs rest' hTight
                exact ⟨_, carryOn_of_tight hTight _ _⟩

theorem isExact_chain
    {operand : Parser Expr}
    (hOperand : IsExact operand k.operand ending n) :
    IsExact (chain operand k.linker) (.chain k) ending n := by
  intro ls hLength
  refine Verdict.chain (fun e rest =>
    carryOn operand k.linker e rest.length rest)
    (hOperand ls hLength) ?_ ?_
  · intro e rest hShorter
    exact reads_carryOn hOperand e _ rest (by omega)
      (Nat.le_refl _)
  · intro e rest hTight
    exact ⟨_, carryOn_of_tight hTight _ _⟩

------------------------------------------------------------
-- Closing Marks
------------------------------------------------------------

/- A closing mark is missing where another lexeme stands. -/
theorem exists_close_eq_error
    (ending : Position)
    {m : Mark}
    {cause : SyntaxCause}
    (hCause : cause.IsMissing)
    (hOpen : headMark? ls ≠ some m) :
    ∃ f, close ending m cause ls = .error f ∧
      f.StandsAt ending ls := by
  cases ls with
  | nil => exact ⟨_, rfl, rfl, .inr hCause⟩
  | cons l rest =>
      have hOther : l.mark? ≠ some m := hOpen
      refine ⟨⟨cause, l.position⟩, ?_, rfl, .inr (.inr hCause)⟩
      rw [close, if_neg hOther]

/-
  Something is read up to its closing mark, or else an error
  is given where the two get stuck.
-/
theorem Verdict.close
    {m : Mark}
    {cause : SyntaxCause}
    {run : Except SyntaxError (α × List Lexeme)}
    (hVerdict : Verdict s ending ls run)
    (hClosing :
      ∀ l rest, l.mark? = some m → s.Stops (l :: rest))
    (hCause : cause.IsMissing) :
    (∃ (d : Derivation s) (a : α) (last : List Lexeme)
      (closing : Marked m),
      ls = d.yield ++ closing.1 :: last ∧
      run = .ok (a, closing.1 :: last)) ∨
    (∃ f before after, ls = before ++ after ∧
      f.StandsAt ending after ∧
      (Form.closed s m).IsStuck before after ∧
      ∀ {β : Type}
        (next : α × List Lexeme → Unit × List Lexeme →
          Except SyntaxError β),
        (do
          let found ← run
          let passed ← close ending m cause found.2
          next found passed) = .error f) := by
  cases hVerdict with
  | read d a rest hSplit hStops =>
      by_cases hOpen : headMark? rest = some m
      · rcases exists_cons_of_headMark? hOpen with
          ⟨closing, last, rfl⟩
        exact .inl ⟨d, a, last, closing, hSplit, rfl⟩
      · rcases exists_close_eq_error ending hCause hOpen with
          ⟨f, hClose, hStands⟩
        refine .inr ⟨f, d.yield, rest, hSplit, hStands,
          .unclosed_of_ne hClosing hStops hOpen, ?_⟩
        intro β next
        simp only [Outcome.ok_bind, hClose]
        rfl
  | halted before after a hSplit hTight hStuck =>
      have hOpen : headMark? after ≠ some m := by
        intro hMark
        rcases exists_cons_of_headMark? hMark with
          ⟨closing, last, rfl⟩
        exact hTight (hClosing _ _ closing.2)
      rcases exists_close_eq_error ending hCause hOpen with
        ⟨f, hClose, hStands⟩
      refine .inr ⟨f, before, after, hSplit, hStands,
        .unclosed hClosing hStuck, ?_⟩
      intro β next
      simp only [Outcome.ok_bind, hClose]
      rfl
  | refused before after f hSplit hStands hStuck =>
      refine .inr ⟨f, before, after, hSplit, hStands,
        .unclosed hClosing hStuck, ?_⟩
      intro β next
      rfl

------------------------------------------------------------
-- Arguments
------------------------------------------------------------

/- An argument and those behind its comma are arguments. -/
theorem Verdict.moreArguments
    {e : Derivation .expression}
    {run : Except SyntaxError (List Expr × List Lexeme)}
    (comma : Marked .comma)
    (hOthers : Verdict .arguments ending ls run) :
    Verdict .arguments ending
      ((e.yield ++ [comma.1]) ++ ls) run := by
  refine hOthers.lift _ ?_ (fun _ => Iff.rfl) ?_
  · intro others
    refine ⟨.moreArguments e comma others, ?_⟩
    rw [yield, List.append_assoc]
    rfl
  · intro before after _ hStuck
    exact hStuck.arguments_of_others comma

/- An argument is followed by others only behind a comma. -/
theorem Verdict.arguments
    {m : Nat}
    {inner : Parser Expr}
    {run : Except SyntaxError (Expr × List Lexeme)}
    (hFirst : Verdict .expression ending ls run)
    (hOpen : headMark? ls ≠ some .rightParen)
    (hOthers :
      ∀ rest, rest.length + 2 ≤ ls.length →
        Verdict .arguments ending rest
          (arguments inner m rest)) :
    Verdict .arguments ending ls (do
      let (e, behind) ← run
      match behind with
      | [] => .ok ([e], [])
      | c :: next =>
          if c.mark? = some .comma then do
            let (es, last) ← arguments inner m next
            .ok (e :: es, last)
          else .ok ([e], c :: next)) := by
  cases hFirst with
  | read e a behind hSplit hStops =>
      simp only [Outcome.ok_bind]
      cases behind with
      | nil =>
          refine .halted e.yield [] [a] hSplit
            not_stops_arguments_nil ?_
          exact .arguments_of_last hStops (by decide)
            (by decide)
      | cons c next =>
          by_cases hComma : c.mark? = some .comma
          · simp only [if_pos hComma]
            have hShorter : next.length + 2 ≤ ls.length := by
              rcases e.exists_opener (by decide) with
                ⟨l, others, hYield, _⟩
              simp only [hSplit, hYield, List.length_append,
                List.length_cons]
              omega
            have hVerdict :=
              (hOthers next hShorter).moreArguments (e := e)
                ⟨c, hComma⟩
            rw [List.append_assoc] at hVerdict
            rw [hSplit]
            exact hVerdict.map (a :: ·)
          · simp only [if_neg hComma]
            by_cases hEnd : c.mark? = some .rightParen
            · exact .read (.lastArgument e) [a] _ hSplit hEnd
            · exact .halted e.yield _ [a] hSplit hEnd
                (.arguments_of_last hStops hComma hEnd)
  | halted before after a hSplit hTight hStuck =>
      rcases Phrase.exists_of_not_stops (s := .expression)
        (by decide) hTight with ⟨c, next, m', rfl, hMark, hRank⟩
      have hComma : c.mark? ≠ some .comma := by
        intro h
        cases hMark.symm.trans h
        exact absurd hRank (by decide)
      have hEnd : c.mark? ≠ some .rightParen := by
        intro h
        cases hMark.symm.trans h
        exact absurd hRank (by decide)
      simp only [Outcome.ok_bind, if_neg hComma]
      exact .halted before _ [a] hSplit hEnd
        (hStuck.arguments_of_first (hSplit ▸ hOpen))
  | refused before after f hSplit hStands hStuck =>
      exact .refused before after f hSplit hStands
        (hStuck.arguments_of_first (hSplit ▸ hOpen))

/- Arguments are read for as long as commas follow. -/
theorem reads_arguments
    {inner : Parser Expr}
    (hInner : IsExact inner .expression ending n)
    (m : Nat)
    (ls : List Lexeme)
    (hLength : ls.length ≤ n)
    (hFuel : ls.length < m) :
    Verdict .arguments ending ls (arguments inner m ls) := by
  induction m generalizing ls with
  | zero => cases hFuel
  | succ m ih =>
      cases ls with
      | nil =>
          rw [arguments]
          have hForm :
              Form.arguments [] [(Marked.of .rightParen).1] :=
            ⟨.noArgument, rfl, rfl⟩
          exact .halted [] [] [] rfl not_stops_arguments_nil
            (.of_nil hForm List.prefix_rfl)
      | cons l rest =>
          rw [arguments]
          by_cases hEnd : l.mark? = some .rightParen
          · rw [if_pos hEnd]
            exact .read .noArgument [] _ rfl hEnd
          rw [if_neg hEnd]
          have hFirst := hInner (l :: rest) hLength
          refine hFirst.arguments hEnd ?_
          intro next hShorter
          have hFewer : next.length + 1 ≤ rest.length := by
            rw [List.length_cons] at hShorter
            omega
          rw [List.length_cons] at hLength hFuel
          exact ih next (by omega) (by omega)

------------------------------------------------------------
-- Primaries
------------------------------------------------------------

/- A primary that is read ends, or is stuck where it does. -/
theorem Verdict.of_primary
    (ending : Position)
    (rest : List Lexeme)
    (d : Derivation .primary)
    (hKind : ¬ d.IsReference)
    (e : Expr) :
    Verdict .primary ending (d.yield ++ rest)
      (.ok (e, rest)) := by
  by_cases hStops : Phrase.primary.Stops rest
  · exact .read d e rest rfl hStops
  · exact .halted d.yield rest e rfl hStops
      (.primary_of_tight hKind hStops)

/- What begins with a name is a call or a variable. -/
theorem reads_primary_of_name
    {inner : Parser Expr}
    {l : Lexeme}
    {name : String}
    {rest : List Lexeme}
    (hInner : IsExact inner .expression ending n)
    (hLength : rest.length ≤ n)
    (hName : l.content = .name name) :
    Verdict .primary ending (l :: rest)
      (primary inner ending (l :: rest)) := by
  rw [primary, hName]
  dsimp only
  by_cases hCall : rest.head?.bind Lexeme.mark? = some .leftParen
  · rcases exists_cons_of_headMark? hCall with
      ⟨opening, ls, rfl⟩
    rw [if_pos hCall, List.tail_cons]
    rw [List.length_cons] at hLength ⊢
    have hArguments :=
      reads_arguments hInner (ls.length + 1) ls (by omega)
        (Nat.lt_succ_self _)
    rcases hArguments.close (m := .rightParen)
      (fun _ _ hMark => hMark) (.inl rfl) with
      ⟨args, es, last, closing, hSplit, hRun⟩ |
      ⟨f, before, after, hSplit, hStands, hStuck, hRun⟩
    · have hVerdict :=
        Verdict.of_primary ending last
          (.call l name hName opening args closing)
          not_false (.call name es l.position)
      simp only [yield, List.cons_append, List.append_assoc,
        List.nil_append] at hVerdict
      simp only [hRun, Outcome.ok_bind, close_marked]
      rw [hSplit]
      exact hVerdict
    · rw [hRun]
      refine .refused (l :: opening.1 :: before) after f ?_
        hStands (hStuck.primary_of_call hName opening)
      rw [hSplit]
      rfl
  · rw [if_neg hCall]
    refine .read (.reference l name hName) _ rest rfl ?_
    intro m hMark
    cases m with
    | leftParen => exact absurd hMark hCall
    | _ => decide

/- What begins with a parenthesis is a group. -/
theorem reads_primary_of_leftParen
    {inner : Parser Expr}
    {l : Lexeme}
    {rest : List Lexeme}
    (hInner : IsExact inner .expression ending n)
    (hLength : rest.length ≤ n)
    (hOpening : l.content = .mark .leftParen) :
    Verdict .primary ending (l :: rest)
      (primary inner ending (l :: rest)) := by
  have hMark := Lexeme.mark?_eq_some.mpr hOpening
  rw [primary, hOpening]
  dsimp only
  rcases (hInner rest hLength).close (m := .rightParen)
    (fun _ _ hMark => Phrase.stops_expression hMark rfl)
    (.inl rfl) with
    ⟨e, a, last, closing, hSplit, hRun⟩ |
    ⟨f, before, after, hSplit, hStands, hStuck, hRun⟩
  · have hVerdict :=
      Verdict.of_primary ending last
        (.group ⟨l, hMark⟩ e closing) not_false a
    simp only [yield, List.cons_append, List.append_assoc,
      List.nil_append] at hVerdict
    simp only [hRun, Outcome.ok_bind, close_marked]
    rw [hSplit]
    exact hVerdict
  · rw [hRun]
    refine .refused (l :: before) after f ?_ hStands
      (hStuck.primary_of_group ⟨l, hMark⟩)
    rw [hSplit]
    rfl

/- A primary is exact when what stands inside it is. -/
theorem isExact_primary
    {inner : Parser Expr}
    (hInner : IsExact inner .expression ending n) :
    IsExact (primary inner ending) .primary ending (n + 1) := by
  intro ls hLength
  cases ls with
  | nil => exact .of_nil anyPrimary (by decide)
  | cons l rest =>
      have hRest : rest.length ≤ n :=
        Nat.le_of_succ_le_succ hLength
      cases hContent : l.content with
      | constant v =>
          rw [primary, hContent]
          exact .of_primary ending rest
            (.constant l v hContent) not_false _
      | name name =>
          exact reads_primary_of_name hInner hRest hContent
      | mark m =>
          by_cases hNull : m = .null
          · subst hNull
            have hMark := Lexeme.mark?_eq_some.mpr hContent
            rw [primary, hContent]
            exact .of_primary ending rest (.null ⟨l, hMark⟩)
              not_false _
          by_cases hOpening : m = .leftParen
          · subst hOpening
            exact reads_primary_of_leftParen hInner hRest
              hContent
          have hOther : m ∉ Phrase.primary.openers := by
            simp [Phrase.openers, hNull, hOpening]
          have hRefused :
              primary inner ending (l :: rest) =
                .error ⟨.noOperand l.text, l.position⟩ := by
            rw [primary]
            split <;> simp_all
          rw [hRefused]
          exact .refused [] _ _ rfl ⟨rfl, .inr (.inl rfl)⟩
            (.primary_of_mark hContent hOther)

------------------------------------------------------------
-- Accesses
------------------------------------------------------------

/- An access and those behind it are accesses. -/
theorem Verdict.access
    {run : Except SyntaxError (Expr × List Lexeme)}
    (opening : Marked .leftBracket)
    (index : Derivation .expression)
    (closing : Marked .rightBracket)
    (hOthers : Verdict .accesses ending ls run) :
    Verdict .accesses ending
      ((opening.1 :: (index.yield ++ [closing.1])) ++ ls)
      run := by
  refine hOthers.lift _ ?_ (fun _ => Iff.rfl) ?_
  · intro others
    refine ⟨.access opening index closing others, ?_⟩
    rw [yield, List.cons_append, List.append_assoc]
    rfl
  · intro before after _ hStuck
    exact hStuck.accesses_of_others opening closing

/- Elements are taken for as long as brackets follow. -/
theorem reads_elements
    {inner : Parser Expr}
    (hInner : IsExact inner .expression ending n)
    (e : Expr)
    (m : Nat)
    (ls : List Lexeme)
    (hLength : ls.length ≤ n + 1)
    (hFuel : ls.length ≤ m) :
    Verdict .accesses ending ls
      (elements inner ending e m ls) := by
  induction m generalizing e ls with
  | zero =>
      have hEmpty : ls = [] :=
        List.eq_nil_of_length_eq_zero (by omega)
      subst hEmpty
      exact .read .noAccess e [] rfl
        (Phrase.stops_nil nofun)
  | succ m ih =>
      cases ls with
      | nil =>
          exact .read .noAccess e [] rfl
            (Phrase.stops_nil nofun)
      | cons l rest =>
          rw [List.length_cons] at hLength hFuel
          rw [elements]
          by_cases hOpening : l.mark? = some .leftBracket
          · rw [if_pos hOpening]
            rcases (hInner rest (by omega)).close
              (m := .rightBracket)
              (fun _ _ hMark =>
                Phrase.stops_expression hMark rfl)
              (.inr rfl) with
              ⟨index, a, last, closing, hSplit, hRun⟩ |
              ⟨f, before, after, hSplit, hStands, hStuck,
                hRun⟩
            · simp only [hRun, Outcome.ok_bind, close_marked]
              have hShorter : last.length < rest.length := by
                rw [hSplit, List.length_append,
                  List.length_cons]
                omega
              have hVerdict :=
                Verdict.access ⟨l, hOpening⟩ index closing
                  (ih (.binary .element e a l.position) last
                    (by omega) (by omega))
              rw [List.cons_append, List.append_assoc]
                at hVerdict
              rw [hSplit]
              exact hVerdict
            · dsimp only
              rw [hRun]
              refine .refused (l :: before) after f ?_ hStands
                (hStuck.accesses_of_index ⟨l, hOpening⟩)
              rw [hSplit]
              rfl
          · rw [if_neg hOpening]
            by_cases hStops : Phrase.accesses.Stops (l :: rest)
            · exact .read .noAccess e _ rfl hStops
            · exact .halted [] _ e rfl hStops
                (.accesses_of_tight hOpening hStops)

------------------------------------------------------------
-- Levels
------------------------------------------------------------

/- What carries a primary on is no access to it. -/
theorem elements_of_tight
    {inner : Parser Expr}
    (hTight : ¬ Phrase.primary.Stops ls)
    (e : Expr)
    (m : Nat) :
    elements inner ending e m ls = .ok (e, ls) := by
  rcases Phrase.exists_of_not_stops (s := .primary)
    (by decide) hTight with ⟨l, rest, m', rfl, hMark, hRank⟩
  have hOther : l.mark? ≠ some .leftBracket := by
    intro hBracket
    cases hMark.symm.trans hBracket
    exact absurd hRank (by decide)
  cases m with
  | zero => rfl
  | succ m => rw [elements, if_neg hOther]

/- A primary and accesses to it make an operand. -/
theorem Verdict.unary
    {inner : Parser Expr}
    {make : Derivation .primary → Derivation .accesses →
      Derivation .unary}
    {sign : List Lexeme}
    {run : Except SyntaxError (Expr × List Lexeme)}
    (signed : Expr → Expr)
    (hPrimary : Verdict .primary ending ls run)
    (hSigned : Form.IsSigned make sign ls)
    (hInner : IsExact inner .expression ending n)
    (hLength : ls.length ≤ n + 1) :
    Verdict .unary ending (sign ++ ls) (do
      let (e, behind) ← run
      elements inner ending (signed e) behind.length
        behind) := by
  cases hPrimary with
  | read d e behind hSplit hStops =>
      have hShorter : behind.length ≤ ls.length := by
        rw [hSplit, List.length_append]
        exact Nat.le_add_left _ _
      have hAccesses :=
        reads_elements hInner (signed e) behind.length behind
          (by omega) (Nat.le_refl _)
      simp only [Outcome.ok_bind]
      rw [hSplit] at hSigned ⊢
      rw [← List.append_assoc]
      refine hAccesses.lift (sign ++ d.yield) ?_
        (fun _ => Iff.rfl) ?_
      · intro taken
        refine ⟨make d taken, ?_⟩
        rw [hSigned.yield_eq, List.append_assoc]
      · intro before after hSplit' hStuck
        rw [hSplit'] at hSigned hStops
        exact hStuck.unary_of_accesses hSigned hStops
  | halted before after e hSplit hTight hStuck =>
      simp only [Outcome.ok_bind, elements_of_tight hTight]
      rw [hSplit] at hSigned
      refine .halted (sign ++ before) after _ ?_ ?_
        (hStuck.unary_of_primary hSigned)
      · rw [hSplit, List.append_assoc]
      · intro hStops
        apply hTight
        intro m hMark
        exact Nat.lt_succ_of_lt (hStops m hMark)
  | refused before after f hSplit hStands hStuck =>
      rw [hSplit] at hSigned
      refine .refused (sign ++ before) after f ?_ hStands
        (hStuck.unary_of_primary hSigned)
      rw [hSplit, List.append_assoc]

theorem isExact_unary
    {inner : Parser Expr}
    (hInner : IsExact inner .expression ending n) :
    IsExact (unary inner ending) .unary ending (n + 1) := by
  have hPrimary := isExact_primary hInner
  intro ls hLength
  cases ls with
  | nil =>
      exact .of_nil anyUnary (by decide)
  | cons l rest =>
      have hRest : rest.length ≤ n + 1 :=
        Nat.le_of_succ_le hLength
      rw [unary]
      split
      case h_1 hSign =>
          exact Verdict.unary id (hPrimary rest hRest)
            (Form.isSigned_positive ⟨l, hSign⟩) hInner hRest
      case h_2 hSign =>
          exact Verdict.unary (.unary .negate · l.position)
            (hPrimary rest hRest)
            (Form.isSigned_negative ⟨l, hSign⟩) hInner hRest
      case h_3 hPlus hMinus =>
          exact Verdict.unary id (hPrimary (l :: rest) hLength)
            (Form.isSigned_unsigned hPlus hMinus) hInner
            hLength

theorem isExact_power
    {inner : Parser Expr}
    (hInner : IsExact inner .expression ending n) :
    IsExact (power inner ending) (.chain .power) ending
      (n + 1) :=
  isExact_chain (k := .power) (isExact_unary hInner)

theorem isExact_product
    {inner : Parser Expr}
    (hInner : IsExact inner .expression ending n) :
    IsExact (product inner ending) (.chain .product) ending
      (n + 1) :=
  isExact_chain (k := .product) (isExact_power hInner)

theorem isExact_sum
    {inner : Parser Expr}
    (hInner : IsExact inner .expression ending n) :
    IsExact (sum inner ending) (.chain .sum) ending (n + 1) :=
  isExact_chain (k := .sum) (isExact_product hInner)

theorem isExact_comparison
    {inner : Parser Expr}
    (hInner : IsExact inner .expression ending n) :
    IsExact (comparison inner ending) (.chain .comparison)
      ending (n + 1) :=
  isExact_chain (k := .comparison) (isExact_sum hInner)

theorem isExact_negation
    {inner : Parser Expr}
    (hInner : IsExact inner .expression ending n) :
    IsExact (negation inner ending) .negation ending
      (n + 1) := by
  have hComparison := isExact_comparison hInner
  intro ls hLength
  cases ls with
  | nil =>
      exact .of_nil (anyOperand .logical) (by decide)
  | cons l rest =>
      rw [negation]
      by_cases hSign : l.mark? = some .not
      · rw [if_pos hSign]
        have hVerdict :=
          hComparison rest (Nat.le_of_succ_le hLength)
        have hDenied :
            Verdict .negation ending ([l] ++ rest)
              (comparison inner ending rest) := by
          refine hVerdict.lift [l] ?_ (fun _ => Iff.rfl) ?_
          · intro d
            exact ⟨.denial ⟨l, hSign⟩ d, rfl⟩
          · intro before after _ hStuck
            exact hStuck.negation_of_denial ⟨l, hSign⟩
        exact hDenied.map (Expr.unary .not · l.position)
      · rw [if_neg hSign]
        have hVerdict := hComparison (l :: rest) hLength
        refine hVerdict.lift [] ?_ (fun _ => Iff.rfl) ?_
        · intro d
          exact ⟨.assertion d, rfl⟩
        · intro before after hSplit hStuck
          have hPlain : headMark? (before ++ after) ≠ some .not :=
            hSplit ▸ hSign
          exact hStuck.negation_of_assertion hPlain

theorem isExact_logical
    {inner : Parser Expr}
    (hInner : IsExact inner .expression ending n) :
    IsExact (logical inner ending) .expression ending
      (n + 1) :=
  isExact_chain (k := .logical) (isExact_negation hInner)

/- An expression of at most `n` lexemes is read exactly. -/
theorem isExact_expression
    (ending : Position)
    (n : Nat) :
    IsExact (expression ending n) .expression ending n := by
  induction n with
  | zero =>
      intro ls hLength
      have hEmpty : ls = [] :=
        List.eq_nil_of_length_eq_zero (by omega)
      subst hEmpty
      exact .of_nil
        (.chain (k := .logical) (anyOperand .logical) .noLink)
        (by decide)
  | succ n ih => exact isExact_logical ih

end Parser

end Formula
