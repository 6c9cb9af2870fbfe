import Formula.Proofs.Grammar.Linker
import Formula.Proofs.Grammar.Parser
import Formula.Proofs.Program.Meaning

/-
  What is read as an expression is one.

  Lexemes from which an expression is read begin with a phrase
  of the grammar.  The expression has the postfix form that
  the phrase stands for, and its arguments can be counted when
  those of the phrase can.

  Key definitions include:
    * `Parser.IsSound`

  Main statements:
    * `Parser.isSound_primary`
    * `Parser.isSound_chain`
    * `Parser.isSound_expression`
    * `Expr.exists_derivation`
-/

namespace Formula

namespace Parser

/- What a parser reads is a phrase. -/
def IsSound
    (parse : Parser Expr)
    (s : Phrase) : Prop :=
  ∀ ls e rest, parse ls = .ok (e, rest) →
    ∃ d : Derivation s, ls = d.yield ++ rest ∧
      e.postfixForm = d.code ∧
      (d.IsCountable → e.Countable)

variable {inner : Parser Expr}
variable {ending : Position}

------------------------------------------------------------
-- Chains
------------------------------------------------------------

/- What carries an expression on are links of the level. -/
theorem exists_links_of_carryOn
    {operand : Parser Expr}
    {k : Level}
    {n : Nat}
    {e e' : Expr}
    {ls rest : List Lexeme}
    (hOperand : IsSound operand k.operand)
    (hParse :
      carryOn operand k.linker e n ls = .ok (e', rest)) :
    ∃ d : Derivation (.links k), ls = d.yield ++ rest ∧
      e'.postfixForm = e.postfixForm ++ d.code ∧
      (e.Countable → d.IsCountable → e'.Countable) := by
  induction n generalizing e ls with
  | zero =>
      cases hParse
      exact ⟨.noLink, rfl, (List.append_nil _).symm,
        fun hStart _ => hStart⟩
  | succ n ih =>
      rw [carryOn] at hParse
      cases hLink : k.linker ls with
      | none =>
          rw [hLink] at hParse
          cases hParse
          exact ⟨.noLink, rfl, (List.append_nil _).symm,
            fun hStart _ => hStart⟩
      | some found =>
          rcases found with ⟨link, p, behind⟩
          rw [hLink] at hParse
          rcases Level.linker_eq_some_iff.mp hLink with
            ⟨first, words, rfl, rfl, hSpells⟩
          cases link with
          | test op =>
              rcases ih (e := .unary op e first.position)
                hParse with ⟨d, rfl, hCode, hCount⟩
              refine ⟨.test first words op hSpells d, ?_, ?_,
                hCount⟩
              · simp [Derivation.yield]
              · rw [hCode]
                simp [Derivation.code, Expr.postfixForm]
          | join op =>
              rcases Outcome.bind_eq_ok_iff.mp hParse with
                ⟨⟨rhs, behind⟩, hRight, hRest⟩
              rcases hOperand _ _ _ hRight with
                ⟨right, rfl, hRightCode, hRightCount⟩
              rcases ih (e := .binary op e rhs first.position)
                hRest with ⟨d, rfl, hCode, hCount⟩
              refine ⟨.join first words op hSpells right d,
                ?_, ?_, ?_⟩
              · simp [Derivation.yield]
              · rw [hCode]
                simp [Derivation.code, Expr.postfixForm,
                  hRightCode]
              · rintro hStart ⟨hFit, hOthers⟩
                exact hCount ⟨hStart, hRightCount hFit⟩ hOthers

/- A chain of operands that are phrases is a phrase. -/
theorem isSound_chain
    {operand : Parser Expr}
    {k : Level}
    (hOperand : IsSound operand k.operand) :
    IsSound (chain operand k.linker) (.chain k) := by
  intro ls e rest hParse
  rcases Outcome.bind_eq_ok_iff.mp hParse with
    ⟨⟨e₀, behind⟩, hFirst, hRest⟩
  rcases hOperand _ _ _ hFirst with
    ⟨first, rfl, hFirstCode, hStart⟩
  rcases exists_links_of_carryOn hOperand hRest with
    ⟨others, rfl, hCode, hCount⟩
  refine ⟨.chain first others, ?_, ?_, ?_⟩
  · rw [Derivation.yield, List.append_assoc]
  · rw [hCode, hFirstCode, Derivation.code]
  · rintro ⟨hFit, hOthers⟩
    exact hCount (hStart hFit) hOthers

------------------------------------------------------------
-- Primaries
------------------------------------------------------------

/- What is passed is the mark that was looked for. -/
theorem close_eq_ok_iff
    {m : Mark}
    {cause : SyntaxCause}
    {ls rest : List Lexeme} :
    close ending m cause ls = .ok ((), rest) ↔
      ∃ l : Marked m, ls = l.1 :: rest := by
  cases ls with
  | nil => simp [close]
  | cons l ls =>
      rw [close]
      by_cases hMark : l.mark? = some m
      · rw [if_pos hMark]
        constructor
        · intro hClose
          cases hClose
          exact ⟨⟨l, hMark⟩, rfl⟩
        · rintro ⟨l', hCons⟩
          cases hCons
          rfl
      · rw [if_neg hMark]
        constructor
        · intro hClose
          cases hClose
        · rintro ⟨l', hCons⟩
          cases hCons
          exact absurd l'.2 hMark

/- What is read as arguments is as many expressions. -/
theorem exists_arguments
    {n : Nat}
    {es : List Expr}
    {ls rest : List Lexeme}
    (hInner : IsSound inner .expression)
    (hParse : arguments inner n ls = .ok (es, rest)) :
    ∃ d : Derivation .arguments, ls = d.yield ++ rest ∧
      Expr.postfixForms es = d.code ∧ es.length = d.count ∧
      (d.IsCountable → Expr.AllCountable es) := by
  induction n generalizing es ls with
  | zero =>
      cases hParse
      exact ⟨.noArgument, rfl, rfl, rfl, id⟩
  | succ n ih =>
      cases ls with
      | nil =>
          cases hParse
          exact ⟨.noArgument, rfl, rfl, rfl, id⟩
      | cons l ls =>
          rw [arguments] at hParse
          by_cases hEnd : l.mark? = some .rightParen
          · rw [if_pos hEnd] at hParse
            cases hParse
            exact ⟨.noArgument, rfl, rfl, rfl, id⟩
          · rw [if_neg hEnd] at hParse
            rcases Outcome.bind_eq_ok_iff.mp hParse with
              ⟨⟨e, behind⟩, hFirst, hRest⟩
            rcases hInner _ _ _ hFirst with
              ⟨d, hYield, hCode, hStart⟩
            cases behind with
            | nil =>
                cases hRest
                exact ⟨.lastArgument d, hYield,
                  (List.append_nil _).trans hCode, rfl,
                  fun hFit => ⟨hStart hFit, trivial⟩⟩
            | cons c next =>
                dsimp only at hRest
                by_cases hComma : c.mark? = some .comma
                · rw [if_pos hComma] at hRest
                  rcases Outcome.bind_eq_ok_iff.mp hRest with
                    ⟨⟨es, last⟩, hOthers, hResult⟩
                  cases hResult
                  rcases ih hOthers with
                    ⟨others, rfl, hCodes, hLength, hAll⟩
                  refine ⟨.moreArguments d ⟨c, hComma⟩ others,
                    ?_, ?_, ?_, fun ⟨hFit, hFits⟩ =>
                      ⟨hStart hFit, hAll hFits⟩⟩
                  · rw [hYield, Derivation.yield,
                      List.append_assoc, List.cons_append]
                  · rw [Expr.postfixForms, hCode, hCodes,
                      Derivation.code]
                  · rw [List.length_cons, hLength,
                      Derivation.count]
                · rw [if_neg hComma] at hRest
                  cases hRest
                  exact ⟨.lastArgument d, hYield,
                    (List.append_nil _).trans hCode, rfl,
                    fun hFit => ⟨hStart hFit, trivial⟩⟩

/- A primary is a phrase when what stands inside it is. -/
theorem isSound_primary
    (hInner : IsSound inner .expression) :
    IsSound (primary inner ending) .primary := by
  intro ls e rest hParse
  cases ls with
  | nil => cases hParse
  | cons l ls =>
      rw [primary] at hParse
      split at hParse
      case h_1 v hContent =>
          cases hParse
          exact ⟨.constant l v hContent, rfl, rfl, id⟩
      case h_2 hContent =>
          cases hParse
          exact ⟨.null ⟨l, Lexeme.mark?_eq_some.mpr hContent⟩,
            rfl, rfl, id⟩
      case h_3 name hContent =>
          split at hParse
          case isTrue hCall =>
              rcases Outcome.bind_eq_ok_iff.mp hParse with
                ⟨⟨es, behind⟩, hArguments, hNext⟩
              rcases Outcome.bind_eq_ok_iff.mp hNext with
                ⟨⟨_, last⟩, hClose, hResult⟩
              cases hResult
              rcases exists_arguments hInner hArguments with
                ⟨args, hYield, hCodes, hLength, hAll⟩
              rcases close_eq_ok_iff.mp hClose with
                ⟨closing, rfl⟩
              rcases exists_cons_of_headMark? hCall with
                ⟨opening, next, rfl⟩
              refine ⟨.call l name hContent opening args
                closing, ?_, ?_, ?_⟩
              · rw [Derivation.yield]
                simpa using hYield
              · rw [Expr.postfixForm, hCodes, hLength,
                  Derivation.code]
              · rintro ⟨hFew, hFit⟩
                exact ⟨hLength ▸ hFew, hAll hFit⟩
          case isFalse =>
              cases hParse
              exact ⟨.reference l name hContent, rfl, rfl, id⟩
      case h_4 hContent =>
          rcases Outcome.bind_eq_ok_iff.mp hParse with
            ⟨⟨e₀, behind⟩, hGroup, hNext⟩
          rcases Outcome.bind_eq_ok_iff.mp hNext with
            ⟨⟨_, last⟩, hClose, hResult⟩
          cases hResult
          rcases hInner _ _ _ hGroup with
            ⟨d, rfl, hCode, hCount⟩
          rcases close_eq_ok_iff.mp hClose with
            ⟨closing, rfl⟩
          have hOpening := Lexeme.mark?_eq_some.mpr hContent
          refine ⟨.group ⟨l, hOpening⟩ d closing, ?_, hCode,
            hCount⟩
          simp [Derivation.yield]
      case h_5 => cases hParse

------------------------------------------------------------
-- Levels
------------------------------------------------------------

/- Elements that are taken of an expression are accesses. -/
theorem exists_accesses
    {n : Nat}
    {e e' : Expr}
    {ls rest : List Lexeme}
    (hInner : IsSound inner .expression)
    (hParse :
      elements inner ending e n ls = .ok (e', rest)) :
    ∃ d : Derivation .accesses, ls = d.yield ++ rest ∧
      e'.postfixForm = e.postfixForm ++ d.code ∧
      (e.Countable → d.IsCountable → e'.Countable) := by
  induction n generalizing e ls with
  | zero =>
      cases hParse
      exact ⟨.noAccess, rfl, (List.append_nil _).symm,
        fun hStart _ => hStart⟩
  | succ n ih =>
      cases ls with
      | nil =>
          cases hParse
          exact ⟨.noAccess, rfl, (List.append_nil _).symm,
            fun hStart _ => hStart⟩
      | cons l ls =>
          rw [elements] at hParse
          by_cases hOpening : l.mark? = some .leftBracket
          · rw [if_pos hOpening] at hParse
            rcases Outcome.bind_eq_ok_iff.mp hParse with
              ⟨⟨index, behind⟩, hIndex, hNext⟩
            rcases Outcome.bind_eq_ok_iff.mp hNext with
              ⟨⟨_, last⟩, hClose, hOthers⟩
            rcases hInner _ _ _ hIndex with
              ⟨d, rfl, hIndexCode, hIndexCount⟩
            rcases close_eq_ok_iff.mp hClose with
              ⟨closing, rfl⟩
            rcases ih
              (e := .binary .element e index l.position)
              hOthers with ⟨others, rfl, hCode, hCount⟩
            refine ⟨.access ⟨l, hOpening⟩ d closing others,
              ?_, ?_, ?_⟩
            · simp [Derivation.yield]
            · rw [hCode]
              simp [Derivation.code, Expr.postfixForm,
                hIndexCode]
            · rintro hStart ⟨hFit, hFits⟩
              exact hCount ⟨hStart, hIndexCount hFit⟩ hFits
          · rw [if_neg hOpening] at hParse
            cases hParse
            exact ⟨.noAccess, rfl, (List.append_nil _).symm,
              fun hStart _ => hStart⟩

/-
  A primary is read with accesses to it.  What a sign makes of
  it comes before them.
-/
theorem exists_of_elements
    (signed : Expr → Expr)
    {e : Expr}
    {ls rest : List Lexeme}
    (hInner : IsSound inner .expression)
    (hSigned : ∀ e : Expr, e.Countable → (signed e).Countable)
    (hParse : (do
        let (e, behind) ← primary inner ending ls
        elements inner ending (signed e) behind.length
          behind) = .ok (e, rest)) :
    ∃ (e₀ : Expr) (d : Derivation .primary)
      (taken : Derivation .accesses),
      ls = d.yield ++ taken.yield ++ rest ∧
      e₀.postfixForm = d.code ∧
      e.postfixForm =
        (signed e₀).postfixForm ++ taken.code ∧
      (d.IsCountable → taken.IsCountable → e.Countable) := by
  rcases Outcome.bind_eq_ok_iff.mp hParse with
    ⟨⟨e₀, behind⟩, hPrimary, hElements⟩
  rcases isSound_primary hInner _ _ _ hPrimary with
    ⟨d, hYield, hStartCode, hStart⟩
  rcases exists_accesses hInner hElements with
    ⟨taken, rfl, hCode, hCount⟩
  rw [← List.append_assoc] at hYield
  exact ⟨e₀, d, taken, hYield, hStartCode, hCode,
    fun hFit => hCount (hSigned e₀ (hStart hFit))⟩

theorem isSound_unary
    (hInner : IsSound inner .expression) :
    IsSound (unary inner ending) .unary := by
  intro ls e rest hParse
  cases ls with
  | nil => cases hParse
  | cons l ls =>
      rw [unary] at hParse
      split at hParse
      case h_1 hSign =>
          rcases exists_of_elements id hInner
            (fun _ hStart => hStart) hParse with
            ⟨e₀, d, taken, rfl, hStartCode, hCode, hCount⟩
          refine ⟨.positive ⟨l, hSign⟩ d taken, rfl, ?_,
            fun ⟨hFit, hFits⟩ => hCount hFit hFits⟩
          rw [hCode, id, hStartCode, Derivation.code]
      case h_2 hSign =>
          rcases exists_of_elements
            (.unary .negate · l.position) hInner
            (fun _ hStart => hStart) hParse with
            ⟨e₀, d, taken, rfl, hStartCode, hCode, hCount⟩
          refine ⟨.negative ⟨l, hSign⟩ d taken, rfl, ?_,
            fun ⟨hFit, hFits⟩ => hCount hFit hFits⟩
          rw [hCode]
          simp [Expr.postfixForm, hStartCode]
      case h_3 =>
          rcases exists_of_elements id hInner
            (fun _ hStart => hStart) hParse with
            ⟨e₀, d, taken, hYield, hStartCode, hCode, hCount⟩
          refine ⟨.unsigned d taken, hYield, ?_,
            fun ⟨hFit, hFits⟩ => hCount hFit hFits⟩
          rw [hCode, id, hStartCode, Derivation.code]

theorem isSound_power
    (hInner : IsSound inner .expression) :
    IsSound (power inner ending) (.chain .power) :=
  isSound_chain (k := .power) (isSound_unary hInner)

theorem isSound_product
    (hInner : IsSound inner .expression) :
    IsSound (product inner ending) (.chain .product) :=
  isSound_chain (k := .product) (isSound_power hInner)

theorem isSound_sum
    (hInner : IsSound inner .expression) :
    IsSound (sum inner ending) (.chain .sum) :=
  isSound_chain (k := .sum) (isSound_product hInner)

theorem isSound_comparison
    (hInner : IsSound inner .expression) :
    IsSound (comparison inner ending) (.chain .comparison) :=
  isSound_chain (k := .comparison) (isSound_sum hInner)

theorem isSound_negation
    (hInner : IsSound inner .expression) :
    IsSound (negation inner ending) .negation := by
  intro ls e rest hParse
  cases ls with
  | nil => cases hParse
  | cons l ls =>
      rw [negation] at hParse
      by_cases hSign : l.mark? = some .not
      · rw [if_pos hSign] at hParse
        rcases Outcome.bind_eq_ok_iff.mp hParse with
          ⟨⟨e₀, behind⟩, hOperand, hResult⟩
        cases hResult
        rcases isSound_comparison hInner _ _ _ hOperand with
          ⟨d, rfl, hCode, hCount⟩
        refine ⟨.denial ⟨l, hSign⟩ d, rfl, ?_, hCount⟩
        rw [Expr.postfixForm, hCode, Derivation.code]
      · rw [if_neg hSign] at hParse
        rcases isSound_comparison hInner _ _ _ hParse with
          ⟨d, hYield, hCode, hCount⟩
        exact ⟨.assertion d, hYield, hCode, hCount⟩

theorem isSound_logical
    (hInner : IsSound inner .expression) :
    IsSound (logical inner ending) .expression :=
  isSound_chain (k := .logical) (isSound_negation hInner)

/- What is read as an expression is one, at any depth. -/
theorem isSound_expression
    (ending : Position)
    (n : Nat) :
    IsSound (expression ending n) .expression := by
  induction n with
  | zero =>
      intro ls e rest hParse
      cases hParse
  | succ n ih => exact isSound_logical ih

end Parser

/-
  Lexemes that denote an expression are derivable, and the
  postfix form of the expression is what they stand for.  If
  the arguments of every call can be counted there, they can
  be counted in the expression.
-/
theorem Expr.exists_derivation
    {ls : List Lexeme}
    {e : Expr}
    (hParse : Expr.ofLexemes? ls = .ok e) :
    ∃ d : Derivation .expression, d.yield = ls ∧
      e.postfixForm = d.code ∧
      (d.IsCountable → e.Countable) := by
  rcases Outcome.bind_eq_ok_iff.mp hParse with
    ⟨⟨e', rest⟩, hRead, hResult⟩
  rcases Parser.isSound_expression _ _ _ _ _ hRead with
    ⟨d, hYield, hCode, hCount⟩
  cases rest with
  | nil =>
      cases hResult
      rw [List.append_nil] at hYield
      exact ⟨d, hYield.symm, hCode, hCount⟩
  | cons l rest => cases hResult

end Formula
