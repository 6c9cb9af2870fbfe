import Formula.Proofs.Grammar.Linker
import Formula.Proofs.Grammar.Parser

/-
  Parsing does not look at positions.

  When lexemes are put elsewhere, so are the operators of the
  expression that they denote, or the error that is found in
  them.  Nothing else changes.

  Key definitions include:
    * `Lexeme.reposition`
    * `Expr.reposition`
    * `Parser.moved`
    * `Parser.IsBlind`

  Main statements:
    * `Parser.isBlind_chain`
    * `Parser.isBlind_primary`
    * `Parser.isBlind_expression`
    * `Expr.ofLexemes?_reposition`
-/

namespace Formula

------------------------------------------------------------
-- Moving
------------------------------------------------------------

namespace Lexeme

/- A lexeme at another place. -/
def reposition
    (g : Position → Position)
    (l : Lexeme) : Lexeme :=
  ⟨l.content, l.text, g l.position, g l.ending⟩

@[simp] theorem mark?_reposition
    (g : Position → Position)
    (l : Lexeme) :
    (l.reposition g).mark? = l.mark? := rfl

@[simp] theorem mark?_comp_reposition
    (g : Position → Position) :
    mark? ∘ reposition g = mark? := rfl

end Lexeme

/- A syntax error at another place. -/
def SyntaxError.reposition
    (g : Position → Position)
    (f : SyntaxError) : SyntaxError :=
  ⟨f.cause, g f.position⟩

namespace Expr

mutual

/- An expression whose nodes are at other places. -/
def reposition
    (g : Position → Position) : Expr → Expr
  | .constant v p => .constant v (g p)
  | .reference name p => .reference name (g p)
  | .call name arguments p =>
      .call name (repositionAll g arguments) (g p)
  | .unary op operand p =>
      .unary op (reposition g operand) (g p)
  | .binary op lhs rhs p =>
      .binary op (reposition g lhs) (reposition g rhs) (g p)

/- Several expressions at other places. -/
def repositionAll
    (g : Position → Position) : List Expr → List Expr
  | [] => []
  | e :: es => reposition g e :: repositionAll g es

end

end Expr

namespace Parser

variable {α : Type}
variable {g : Position → Position}

/- What was read from lexemes, and those left, elsewhere. -/
def moved
    (g : Position → Position)
    (move : α → α) :
    Except SyntaxError (α × List Lexeme) →
      Except SyntaxError (α × List Lexeme)
  | .ok (a, rest) =>
      .ok (move a, rest.map (Lexeme.reposition g))
  | .error f => .error (f.reposition g)

/-
  Two steps that do the same elsewhere do the same one after
  the other.
-/
theorem moved_bind
    {β : Type}
    {move : α → α}
    {move' : β → β}
    {run : Except SyntaxError (α × List Lexeme)}
    {next next' : α × List Lexeme →
      Except SyntaxError (β × List Lexeme)}
    (hNext :
      ∀ a rest,
        next' (move a, rest.map (Lexeme.reposition g)) =
          moved g move' (next (a, rest))) :
    (moved g move run >>= next') =
      moved g move' (run >>= next) := by
  cases run with
  | error f => rfl
  | ok found => exact hNext found.1 found.2

/-
  A parser of lexemes that are elsewhere reads what another
  one reads of the lexemes themselves.
-/
def IsBlind
    (g : Position → Position)
    (parse parse' : Parser Expr) : Prop :=
  ∀ ls, parse' (ls.map (Lexeme.reposition g)) =
    moved g (Expr.reposition g) (parse ls)

------------------------------------------------------------
-- Chains
------------------------------------------------------------

variable {k : Level}

/- The words of a link are the same elsewhere. -/
theorem spells_reposition_iff
    {link : Link}
    {words : List Lexeme} :
    k.Spells link (words.map (Lexeme.reposition g)) ↔
      k.Spells link words := by
  unfold Level.Spells
  rw [List.map_map, Lexeme.mark?_comp_reposition]

/- A linker reads the same words elsewhere. -/
theorem linker_reposition
    (ls : List Lexeme) :
    k.linker (ls.map (Lexeme.reposition g)) =
      (k.linker ls).map fun found =>
        (found.1, g found.2.1,
          found.2.2.map (Lexeme.reposition g)) := by
  cases hLink : k.linker ls with
  | some found =>
      rcases found with ⟨link, p, rest⟩
      rcases Level.linker_eq_some_iff.mp hLink with
        ⟨first, words, rfl, rfl, hSpells⟩
      apply Level.linker_eq_some_iff.mpr
      refine ⟨first.reposition g,
        words.map (Lexeme.reposition g), ?_, rfl,
        spells_reposition_iff.mpr hSpells⟩
      rw [List.map_cons, List.map_append]
  | none =>
      cases hMoved :
          k.linker (ls.map (Lexeme.reposition g)) with
      | none => rfl
      | some found =>
          rcases found with ⟨link, p, rest⟩
          rcases Level.linker_eq_some_iff.mp hMoved with
            ⟨first, words, hSplit, _, hSpells⟩
          rcases List.map_eq_cons_iff.mp hSplit with
            ⟨first', ls', rfl, rfl, hRest⟩
          rcases List.map_eq_append_iff.mp hRest with
            ⟨words', rest', rfl, rfl, _⟩
          have hSpells' :
              k.Spells link (first' :: words') :=
            spells_reposition_iff.mp hSpells
          have hSome := Level.linker_of_spells hSpells' rest'
          cases hLink.symm.trans hSome

/- Links carry an expression on elsewhere. -/
theorem carryOn_reposition
    {operand operand' : Parser Expr}
    (hOperand : IsBlind g operand operand')
    (e : Expr)
    (n : Nat)
    (ls : List Lexeme) :
    carryOn operand' k.linker (e.reposition g) n
        (ls.map (Lexeme.reposition g)) =
      moved g (Expr.reposition g)
        (carryOn operand k.linker e n ls) := by
  induction n generalizing e ls with
  | zero => rfl
  | succ n ih =>
      rw [carryOn, carryOn, linker_reposition]
      cases hLink : k.linker ls with
      | none => rfl
      | some found =>
          rcases found with ⟨link, p, rest⟩
          cases link with
          | test op => exact ih (.unary op e p) rest
          | join op =>
              dsimp only [Option.map_some]
              rw [hOperand rest]
              apply moved_bind
              intro rhs rest'
              exact ih (.binary op e rhs p) rest'

theorem isBlind_chain
    {operand operand' : Parser Expr}
    (hOperand : IsBlind g operand operand') :
    IsBlind g (chain operand k.linker)
      (chain operand' k.linker) := by
  intro ls
  rw [chain, chain, hOperand ls]
  apply moved_bind
  intro e rest
  dsimp only
  rw [List.length_map]
  exact carryOn_reposition hOperand e _ rest

------------------------------------------------------------
-- Primaries
------------------------------------------------------------

variable {inner inner' : Parser Expr}
variable {ending : Position}

/- A closing mark is passed elsewhere. -/
theorem close_reposition
    (m : Mark)
    (cause : SyntaxCause)
    (ls : List Lexeme) :
    close (g ending) m cause (ls.map (Lexeme.reposition g)) =
      moved g id (close ending m cause ls) := by
  cases ls with
  | nil => rfl
  | cons l rest =>
      rw [List.map_cons, close, close,
        Lexeme.mark?_reposition]
      by_cases hMark : l.mark? = some m
      · rw [if_pos hMark, if_pos hMark]
        rfl
      · rw [if_neg hMark, if_neg hMark]
        rfl

/- Arguments are read elsewhere. -/
theorem arguments_reposition
    (hInner : IsBlind g inner inner')
    (n : Nat)
    (ls : List Lexeme) :
    arguments inner' n (ls.map (Lexeme.reposition g)) =
      moved g (Expr.repositionAll g) (arguments inner n ls) := by
  induction n generalizing ls with
  | zero => rfl
  | succ n ih =>
      cases ls with
      | nil => rfl
      | cons l rest =>
          rw [List.map_cons, arguments, arguments,
            Lexeme.mark?_reposition]
          by_cases hEnd : l.mark? = some .rightParen
          · rw [if_pos hEnd, if_pos hEnd]
            rfl
          rw [if_neg hEnd, if_neg hEnd, ← List.map_cons,
            hInner (l :: rest)]
          apply moved_bind
          intro e behind
          cases behind with
          | nil => rfl
          | cons c next =>
              by_cases hComma : c.mark? = some .comma
              · have hComma' :
                    (c.reposition g).mark? = some .comma :=
                  hComma
                simp only [List.map_cons, if_pos hComma,
                  if_pos hComma']
                rw [ih next]
                apply moved_bind
                intro es last
                rfl
              · have hComma' :
                    (c.reposition g).mark? ≠ some .comma :=
                  hComma
                simp only [List.map_cons, if_neg hComma,
                  if_neg hComma']
                rfl

theorem isBlind_primary
    (hInner : IsBlind g inner inner') :
    IsBlind g (primary inner ending)
      (primary inner' (g ending)) := by
  intro ls
  cases ls with
  | nil => rfl
  | cons l rest =>
      have hContent : (l.reposition g).content = l.content :=
        rfl
      have hHead :
          (rest.map (Lexeme.reposition g)).head?.bind
              Lexeme.mark? =
            rest.head?.bind Lexeme.mark? := by
        cases rest <;> rfl
      rw [List.map_cons, primary, primary, hContent]
      split
      case h_1 => rfl
      case h_2 => rfl
      case h_3 name =>
          dsimp only
          rw [hHead]
          by_cases hCall :
              rest.head?.bind Lexeme.mark? = some .leftParen
          · rw [if_pos hCall, if_pos hCall, List.length_map,
              ← List.map_tail, arguments_reposition hInner]
            apply moved_bind
            intro args behind
            dsimp only
            rw [close_reposition]
            apply moved_bind
            intro _ last
            rfl
          · rw [if_neg hCall, if_neg hCall]
            rfl
      case h_4 =>
          dsimp only
          rw [hInner rest]
          apply moved_bind
          intro e behind
          dsimp only
          rw [close_reposition]
          apply moved_bind
          intro _ last
          rfl
      case h_5 => rfl

------------------------------------------------------------
-- Levels
------------------------------------------------------------

/- Elements are taken elsewhere. -/
theorem elements_reposition
    (hInner : IsBlind g inner inner')
    (e : Expr)
    (n : Nat)
    (ls : List Lexeme) :
    elements inner' (g ending) (e.reposition g) n
        (ls.map (Lexeme.reposition g)) =
      moved g (Expr.reposition g)
        (elements inner ending e n ls) := by
  induction n generalizing e ls with
  | zero => rfl
  | succ n ih =>
      cases ls with
      | nil => rfl
      | cons l rest =>
          rw [List.map_cons, elements, elements,
            Lexeme.mark?_reposition]
          by_cases hOpening : l.mark? = some .leftBracket
          · rw [if_pos hOpening, if_pos hOpening, hInner rest]
            apply moved_bind
            intro index behind
            dsimp only
            rw [close_reposition]
            apply moved_bind
            intro _ last
            exact ih (.binary .element e index l.position) last
          · rw [if_neg hOpening, if_neg hOpening]
            rfl

/- A primary and elements of it are read elsewhere. -/
theorem signed_reposition
    (signed signed' : Expr → Expr)
    (hInner : IsBlind g inner inner')
    (hSigned :
      ∀ e, signed' (e.reposition g) = (signed e).reposition g)
    (ls : List Lexeme) :
    (do
      let (e, behind) ←
        primary inner' (g ending)
          (ls.map (Lexeme.reposition g))
      elements inner' (g ending) (signed' e) behind.length
        behind) =
      moved g (Expr.reposition g) (do
        let (e, behind) ← primary inner ending ls
        elements inner ending (signed e) behind.length
          behind) := by
  rw [isBlind_primary hInner ls]
  apply moved_bind
  intro e behind
  dsimp only
  rw [List.length_map, hSigned]
  exact elements_reposition hInner _ _ behind

theorem isBlind_unary
    (hInner : IsBlind g inner inner') :
    IsBlind g (unary inner ending)
      (unary inner' (g ending)) := by
  intro ls
  cases ls with
  | nil => rfl
  | cons l rest =>
      rw [List.map_cons, unary, unary, Lexeme.mark?_reposition]
      split
      case h_1 =>
          exact signed_reposition id id hInner
            (fun _ => rfl) rest
      case h_2 =>
          exact signed_reposition
            (.unary .negate · l.position)
            (.unary .negate · (g l.position)) hInner
            (fun _ => rfl) rest
      case h_3 =>
          exact signed_reposition id id hInner
            (fun _ => rfl) (l :: rest)

theorem isBlind_power
    (hInner : IsBlind g inner inner') :
    IsBlind g (power inner ending)
      (power inner' (g ending)) :=
  isBlind_chain (k := .power) (isBlind_unary hInner)

theorem isBlind_product
    (hInner : IsBlind g inner inner') :
    IsBlind g (product inner ending)
      (product inner' (g ending)) :=
  isBlind_chain (k := .product) (isBlind_power hInner)

theorem isBlind_sum
    (hInner : IsBlind g inner inner') :
    IsBlind g (sum inner ending) (sum inner' (g ending)) :=
  isBlind_chain (k := .sum) (isBlind_product hInner)

theorem isBlind_comparison
    (hInner : IsBlind g inner inner') :
    IsBlind g (comparison inner ending)
      (comparison inner' (g ending)) :=
  isBlind_chain (k := .comparison) (isBlind_sum hInner)

theorem isBlind_negation
    (hInner : IsBlind g inner inner') :
    IsBlind g (negation inner ending)
      (negation inner' (g ending)) := by
  intro ls
  cases ls with
  | nil => rfl
  | cons l rest =>
      rw [List.map_cons, negation, negation,
        Lexeme.mark?_reposition]
      by_cases hSign : l.mark? = some .not
      · rw [if_pos hSign, if_pos hSign,
          isBlind_comparison hInner rest]
        apply moved_bind
        intro e behind
        rfl
      · rw [if_neg hSign, if_neg hSign, ← List.map_cons]
        exact isBlind_comparison hInner (l :: rest)

theorem isBlind_logical
    (hInner : IsBlind g inner inner') :
    IsBlind g (logical inner ending)
      (logical inner' (g ending)) :=
  isBlind_chain (k := .logical) (isBlind_negation hInner)

/- An expression is read elsewhere, at any depth. -/
theorem isBlind_expression
    (ending : Position)
    (n : Nat) :
    IsBlind g (expression ending n)
      (expression (g ending) n) := by
  induction n with
  | zero =>
      intro ls
      rfl
  | succ n ih => exact isBlind_logical ih

end Parser

------------------------------------------------------------
-- Whole Expressions
------------------------------------------------------------

variable {g : Position → Position}

theorem endOf_reposition
    {ls : List Lexeme}
    (hLexemes : ls ≠ []) :
    endOf (ls.map (Lexeme.reposition g)) = g (endOf ls) := by
  have hLast : ls.getLast? = some (ls.getLast hLexemes) :=
    List.getLast?_eq_some_getLast hLexemes
  unfold endOf
  rw [List.getLast?_map, hLast]
  rfl

/-
  Lexemes that are put elsewhere denote the same expression
  there, or the same error is found in them.
-/
theorem Expr.ofLexemes?_reposition
    {ls : List Lexeme}
    (hLexemes : ls ≠ []) :
    Expr.ofLexemes? (ls.map (Lexeme.reposition g)) =
      ((Expr.ofLexemes? ls).map (reposition g)).mapError
        (SyntaxError.reposition g) := by
  have hRead :=
    Parser.isBlind_expression (g := g) (endOf ls) ls.length ls
  unfold Expr.ofLexemes?
  rw [endOf_reposition hLexemes, List.length_map, hRead]
  cases Parser.expression (endOf ls) ls.length ls with
  | error f => rfl
  | ok found =>
      rcases found with ⟨e, _ | ⟨l, rest⟩⟩
      · rfl
      · rfl

end Formula
