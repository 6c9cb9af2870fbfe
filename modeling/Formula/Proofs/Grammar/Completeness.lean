import Formula.Proofs.Grammar.Soundness

/-
  Every expression of the grammar is read.

  A phrase is read as a whole, up to lexemes that do not carry
  it on, when the parser of what stands inside brackets goes
  deep enough.

  Key definitions include:
    * `Parser.IsComplete`

  Main statements:
    * `Derivation.isCountable_of_length_yield`
    * `Parser.isComplete_primary`
    * `Parser.isComplete_chain`
    * `Parser.isComplete_expression`
    * `Expr.exists_of_derivation`
-/

namespace Formula

/- Every argument takes a lexeme. -/
theorem Derivation.count_le_length_yield
    {s : Phrase}
    (d : Derivation s) :
    d.count ≤ d.yield.length := by
  induction d with
  | lastArgument e =>
      rcases e.exists_opener (by decide) with
        ⟨l, ls, hYield, _⟩
      rw [Derivation.count, Derivation.yield, hYield,
        List.length_cons]
      omega
  | moreArguments e comma others _ ih =>
      rw [Derivation.count, Derivation.yield,
        List.length_append, List.length_cons]
      omega
  | _ => exact Nat.zero_le _

/- No call in a few lexemes has too many arguments. -/
theorem Derivation.isCountable_of_length_yield
    {s : Phrase}
    (d : Derivation s)
    (hFew : d.yield.length ≤ maxCount) :
    d.IsCountable := by
  induction d with
  | call l name hName opening args closing ih =>
      have hLeast := args.count_le_length_yield
      simp only [Derivation.yield, List.length_cons,
        List.length_append] at hFew
      exact ⟨by omega, ih (by omega)⟩
  | constant | null | reference => trivial
  | noArgument | noAccess | noLink => trivial
  | _ =>
      -- The other rules pass the bound on to their parts.
      simp only [Derivation.yield, List.length_cons,
        List.length_append] at hFew
      grind [Derivation.IsCountable]

namespace Parser

/- A parser reads all phrases of at most `n` lexemes. -/
def IsComplete
    (parse : Parser Expr)
    (s : Phrase)
    (n : Nat) : Prop :=
  ∀ (d : Derivation s) (rest : List Lexeme),
    d.yield.length ≤ n → s.Stops rest →
      ∃ e, parse (d.yield ++ rest) = .ok (e, rest)

variable {inner : Parser Expr}
variable {ending : Position}
variable {n : Nat}

------------------------------------------------------------
-- Chains
------------------------------------------------------------

/- Nothing is carried on where a chain ends. -/
theorem carryOn_of_stops
    {operand : Parser Expr}
    {k : Level}
    {rest : List Lexeme}
    (hStops : (Phrase.links k).Stops rest)
    (e : Expr)
    (m : Nat) :
    carryOn operand k.linker e m rest = .ok (e, rest) := by
  cases m with
  | zero => rfl
  | succ m =>
      rw [carryOn, Level.linker_eq_none_of_stops hStops]

/- All links of a chain are taken. -/
theorem exists_of_links
    {operand : Parser Expr}
    {k : Level}
    {rest : List Lexeme}
    (hOperand : IsComplete operand k.operand n)
    (hStops : (Phrase.links k).Stops rest)
    (d : Derivation (.links k))
    (hLength : d.yield.length ≤ n)
    (e : Expr)
    (m : Nat)
    (hFuel : d.yield.length ≤ m) :
    ∃ e', carryOn operand k.linker e m (d.yield ++ rest) =
      .ok (e', rest) := by
  match d with
  | .noLink => exact ⟨e, carryOn_of_stops hStops e m⟩
  | .test first words op hSpells others =>
      rw [Derivation.yield] at hLength hFuel ⊢
      rw [List.length_cons, List.length_append]
        at hLength hFuel
      cases m with
      | zero => omega
      | succ m =>
          rw [List.cons_append, List.append_assoc, carryOn,
            Level.linker_of_spells hSpells]
          exact exists_of_links hOperand hStops others
            (by omega) _ m (by omega)
  | .join first words op hSpells rhs others =>
      rw [Derivation.yield] at hLength hFuel ⊢
      rw [List.length_cons, List.length_append,
        List.length_append] at hLength hFuel
      cases m with
      | zero => omega
      | succ m =>
          rcases hOperand rhs (others.yield ++ rest)
            (by omega) (others.stops_operand hStops) with
            ⟨e', hRead⟩
          rw [List.cons_append, List.append_assoc,
            List.append_assoc, carryOn,
            Level.linker_of_spells hSpells]
          simp only [hRead, Outcome.ok_bind]
          exact exists_of_links hOperand hStops others
            (by omega) _ m (by omega)
termination_by d

/- A chain is read when its operands are. -/
theorem isComplete_chain
    {operand : Parser Expr}
    {k : Level}
    (hOperand : IsComplete operand k.operand n) :
    IsComplete (chain operand k.linker) (.chain k) n := by
  intro d rest hLength hStops
  cases d with
  | chain first others =>
      rw [Derivation.yield] at hLength ⊢
      rw [List.length_append] at hLength
      rcases hOperand first (others.yield ++ rest) (by omega)
        (others.stops_operand hStops) with ⟨e, hRead⟩
      rw [chain, List.append_assoc, hRead, Outcome.ok_bind]
      apply exists_of_links hOperand hStops others (by omega)
      rw [List.length_append]
      omega

------------------------------------------------------------
-- Primaries
------------------------------------------------------------

/- No arguments are read where they end. -/
theorem arguments_of_stops
    {rest : List Lexeme}
    (hStops : Phrase.arguments.Stops rest)
    (m : Nat) :
    arguments inner m rest = .ok ([], rest) := by
  rcases exists_cons_of_headMark? hStops with
    ⟨closing, last, rfl⟩
  cases m with
  | zero => rfl
  | succ m => rw [arguments, if_pos closing.2]

/- An expression that is read is an argument. -/
theorem arguments_of_expression
    {e : Derivation .expression}
    {e' : Expr}
    {l : Lexeme}
    {ls rest : List Lexeme}
    (hRead : inner (e.yield ++ ls) = .ok (e', l :: rest))
    (m : Nat) :
    arguments inner (m + 1) (e.yield ++ ls) =
      if l.mark? = some .comma then do
        let (es, last) ← arguments inner m rest
        .ok (e' :: es, last)
      else .ok ([e'], l :: rest) := by
  rcases e.exists_opener (by decide) with
    ⟨first, others, hYield, hMark⟩
  have hOpener : first.mark? ≠ some .rightParen := by
    intro hClosing
    exact absurd (hMark _ hClosing) (by decide)
  rw [hYield, List.cons_append] at hRead ⊢
  rw [arguments, if_neg hOpener, hRead, Outcome.ok_bind]

/- All arguments are read when there are not too many. -/
theorem exists_of_arguments
    {rest : List Lexeme}
    (hInner : IsComplete inner .expression n)
    (hStops : Phrase.arguments.Stops rest)
    (d : Derivation .arguments)
    (hLength : d.yield.length ≤ n)
    (m : Nat)
    (hFew : d.count ≤ m) :
    ∃ es, arguments inner m (d.yield ++ rest) =
      .ok (es, rest) := by
  match d with
  | .noArgument => exact ⟨[], arguments_of_stops hStops m⟩
  | .lastArgument e =>
      rcases hInner e rest hLength
        (Derivation.stops_expression_of_arguments hStops) with
        ⟨e', hRead⟩
      rcases exists_cons_of_headMark? hStops with
        ⟨closing, last, rfl⟩
      have hComma : closing.1.mark? ≠ some .comma := by
        rw [closing.2]
        decide
      cases m with
      | zero => cases hFew
      | succ m =>
          rw [Derivation.yield, arguments_of_expression hRead,
            if_neg hComma]
          exact ⟨[e'], rfl⟩
  | .moreArguments e comma others =>
      rw [Derivation.count] at hFew
      rw [Derivation.yield] at hLength ⊢
      rw [List.length_append, List.length_cons] at hLength
      rcases hInner e (comma.1 :: (others.yield ++ rest))
        (by omega) (Phrase.stops_expression comma.2 rfl) with
        ⟨e', hRead⟩
      cases m with
      | zero => omega
      | succ m =>
          rcases exists_of_arguments hInner hStops others
            (by omega) m (by omega) with
            ⟨es, hRest⟩
          rw [List.append_assoc, List.cons_append,
            arguments_of_expression hRead, if_pos comma.2,
            hRest]
          exact ⟨e' :: es, rfl⟩
termination_by d

theorem close_marked
    {m : Mark}
    {cause : SyntaxCause}
    {rest : List Lexeme}
    (l : Marked m) :
    close ending m cause (l.1 :: rest) = .ok ((), rest) :=
  close_eq_ok_iff.mpr ⟨l, rfl⟩

/- A primary is read when what stands inside it is. -/
theorem isComplete_primary
    (hInner : IsComplete inner .expression n) :
    IsComplete (primary inner ending) .primary (n + 1) := by
  intro d rest hLength hStops
  cases d with
  | constant l v hConstant =>
      refine ⟨.constant v l.position, ?_⟩
      rw [Derivation.yield, List.singleton_append, primary,
        hConstant]
  | null l =>
      refine ⟨.constant .null l.1.position, ?_⟩
      rw [Derivation.yield, List.singleton_append, primary,
        Lexeme.mark?_eq_some.mp l.2]
  | reference l name hName =>
      refine ⟨.reference name l.position, ?_⟩
      have hNoCall :
          rest.head?.bind Lexeme.mark? ≠ some .leftParen :=
        fun hCall => Nat.lt_irrefl _ (hStops _ hCall)
      rw [Derivation.yield, List.singleton_append, primary,
        hName]
      simp only [if_neg hNoCall]
  | call l name hName opening args closing =>
      have hHead {ls : List Lexeme} :
          (opening.1 :: ls).head?.bind Lexeme.mark? =
            some .leftParen := opening.2
      have hLeast := args.count_le_length_yield
      rw [Derivation.yield] at hLength ⊢
      rw [List.length_cons, List.length_cons,
        List.length_append] at hLength
      have hEnd : Phrase.arguments.Stops (closing.1 :: rest) :=
        closing.2
      rcases exists_of_arguments hInner hEnd args (by omega)
        (args.yield ++ closing.1 :: rest).length.succ
        (by rw [List.length_append]; omega) with
        ⟨es, hRead⟩
      refine ⟨.call name es l.position, ?_⟩
      rw [List.cons_append, List.cons_append,
        List.append_assoc, primary, hName]
      simp only [if_pos hHead, List.length_cons,
        List.tail_cons, List.singleton_append]
      rw [hRead, Outcome.ok_bind, close_marked]
      rfl
  | group opening e closing =>
      rw [Derivation.yield] at hLength ⊢
      rw [List.length_cons, List.length_append] at hLength
      rcases hInner e (closing.1 :: rest) (by omega)
        (Phrase.stops_expression closing.2 rfl) with
        ⟨e', hRead⟩
      refine ⟨e', ?_⟩
      rw [List.cons_append, List.append_assoc, primary,
        Lexeme.mark?_eq_some.mp opening.2]
      simp [hRead, close_marked]

------------------------------------------------------------
-- Levels
------------------------------------------------------------

/- No elements are taken where accesses end. -/
theorem elements_of_stops
    {rest : List Lexeme}
    (hStops : Phrase.accesses.Stops rest)
    (e : Expr)
    (m : Nat) :
    elements inner ending e m rest = .ok (e, rest) := by
  cases m with
  | zero => rfl
  | succ m =>
      cases rest with
      | nil => rfl
      | cons l rest =>
          have hNone : l.mark? ≠ some .leftBracket :=
            fun hMark => Nat.lt_irrefl _ (hStops _ hMark)
          rw [elements, if_neg hNone]

/- All accesses are taken. -/
theorem exists_of_accesses
    {rest : List Lexeme}
    (hInner : IsComplete inner .expression n)
    (hStops : Phrase.accesses.Stops rest)
    (d : Derivation .accesses)
    (hLength : d.yield.length ≤ n + 1)
    (e : Expr)
    (m : Nat)
    (hFuel : d.yield.length ≤ m) :
    ∃ e', elements inner ending e m (d.yield ++ rest) =
      .ok (e', rest) := by
  match d with
  | .noAccess => exact ⟨e, elements_of_stops hStops e m⟩
  | .access opening index closing others =>
      rw [Derivation.yield] at hLength hFuel ⊢
      rw [List.length_cons, List.length_append,
        List.length_cons] at hLength hFuel
      rcases hInner index
        (closing.1 :: (others.yield ++ rest)) (by omega)
        (Phrase.stops_expression closing.2 rfl) with
        ⟨e', hRead⟩
      cases m with
      | zero => omega
      | succ m =>
          rw [List.cons_append, List.append_assoc,
            List.cons_append, elements, if_pos opening.2,
            hRead]
          simp only [Outcome.ok_bind, close_marked]
          exact exists_of_accesses hInner hStops others
            (by omega) _ m (by omega)
termination_by d

/- A primary is read with all accesses to it. -/
theorem exists_of_primary
    (ending : Position)
    {rest : List Lexeme}
    (hInner : IsComplete inner .expression n)
    (hStops : Phrase.accesses.Stops rest)
    (d : Derivation .primary)
    (taken : Derivation .accesses)
    (hLength : d.yield.length + taken.yield.length ≤ n + 1)
    (signed : Expr → Expr) :
    ∃ e, (do
        let (e, behind) ←
          primary inner ending
            (d.yield ++ (taken.yield ++ rest))
        elements inner ending (signed e) behind.length
          behind) = .ok (e, rest) := by
  rcases isComplete_primary hInner d (taken.yield ++ rest)
    (by omega) (taken.stops_primary hStops) with
    ⟨e, hRead⟩
  rw [hRead, Outcome.ok_bind]
  apply exists_of_accesses hInner hStops taken (by omega)
  rw [List.length_append]
  omega

theorem isComplete_unary
    (hInner : IsComplete inner .expression n) :
    IsComplete (unary inner ending) .unary (n + 1) := by
  intro d rest hLength hStops
  cases d with
  | unsigned e taken =>
      rw [Derivation.yield] at hLength ⊢
      rw [List.length_append] at hLength
      have hRead := exists_of_primary ending hInner hStops
        e taken hLength id
      rcases e.exists_opener (by decide) with
        ⟨l, ls, hYield, hMark⟩
      rw [List.append_assoc]
      rw [hYield, List.cons_append] at hRead ⊢
      rw [unary]
      split
      case h_1 hSign =>
          exact absurd (hMark _ hSign) (by decide)
      case h_2 hSign =>
          exact absurd (hMark _ hSign) (by decide)
      case h_3 => exact hRead
  | positive sign e taken =>
      rw [Derivation.yield] at hLength ⊢
      rw [List.length_cons, List.length_append] at hLength
      rw [List.cons_append, List.append_assoc, unary, sign.2]
      exact exists_of_primary ending hInner hStops e taken
        (by omega) id
  | negative sign e taken =>
      rw [Derivation.yield] at hLength ⊢
      rw [List.length_cons, List.length_append] at hLength
      rw [List.cons_append, List.append_assoc, unary, sign.2]
      exact exists_of_primary ending hInner hStops e taken
        (by omega) (.unary .negate · sign.1.position)

theorem isComplete_power
    (hInner : IsComplete inner .expression n) :
    IsComplete (power inner ending) (.chain .power) (n + 1) :=
  isComplete_chain (k := .power) (isComplete_unary hInner)

theorem isComplete_product
    (hInner : IsComplete inner .expression n) :
    IsComplete (product inner ending) (.chain .product)
      (n + 1) :=
  isComplete_chain (k := .product) (isComplete_power hInner)

theorem isComplete_sum
    (hInner : IsComplete inner .expression n) :
    IsComplete (sum inner ending) (.chain .sum) (n + 1) :=
  isComplete_chain (k := .sum) (isComplete_product hInner)

theorem isComplete_comparison
    (hInner : IsComplete inner .expression n) :
    IsComplete (comparison inner ending) (.chain .comparison)
      (n + 1) :=
  isComplete_chain (k := .comparison) (isComplete_sum hInner)

theorem isComplete_negation
    (hInner : IsComplete inner .expression n) :
    IsComplete (negation inner ending) .negation (n + 1) := by
  intro d rest hLength hStops
  cases d with
  | assertion e =>
      rcases isComplete_comparison hInner e rest hLength
        hStops with ⟨e', hRead⟩
      rcases e.exists_opener (by decide) with
        ⟨l, ls, hYield, hMark⟩
      have hSign : l.mark? ≠ some .not :=
        fun h => absurd (hMark _ h) (by decide)
      rw [Derivation.yield]
      rw [hYield, List.cons_append] at hRead ⊢
      rw [negation, if_neg hSign]
      exact ⟨e', hRead⟩
  | denial sign e =>
      rw [Derivation.yield] at hLength ⊢
      rw [List.length_cons] at hLength
      rcases isComplete_comparison hInner e rest (by omega)
        hStops with ⟨e', hRead⟩
      rw [List.cons_append, negation, if_pos sign.2, hRead]
      exact ⟨.unary .not e' sign.1.position, rfl⟩

theorem isComplete_logical
    (hInner : IsComplete inner .expression n) :
    IsComplete (logical inner ending) .expression (n + 1) :=
  isComplete_chain (k := .logical) (isComplete_negation hInner)

/- An expression of at most `n` lexemes is read. -/
theorem isComplete_expression
    (ending : Position)
    (n : Nat) :
    IsComplete (expression ending n) .expression n := by
  induction n with
  | zero =>
      intro d rest hLength _
      rcases d.exists_opener (by decide) with
        ⟨l, ls, hYield, _⟩
      rw [hYield] at hLength
      cases hLength
  | succ n ih => exact isComplete_logical ih

end Parser

/- Lexemes that are derivable denote an expression. -/
theorem Expr.exists_of_derivation
    (d : Derivation .expression) :
    ∃ e, Expr.ofLexemes? d.yield = .ok e := by
  rcases Parser.isComplete_expression (endOf d.yield)
    d.yield.length d [] (Nat.le_refl _)
    (fun _ hMark => nomatch hMark) with ⟨e, hRead⟩
  rw [List.append_nil] at hRead
  refine ⟨e, ?_⟩
  rw [ofLexemes?, hRead]
  rfl

end Formula
