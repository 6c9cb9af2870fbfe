import Formula.Proofs.Grammar.Correctness
import Formula.Proofs.Grammar.Exactness
import Formula.Proofs.Grammar.Reposition

/-
  Syntax errors are found where no expression goes on.

  An error stands behind lexemes with which an expression can
  begin.  It stands at the end when that is true of all of
  them, and else at the lexeme with which it ceases to be.

  Which lexeme an error stands at is told by numbering them,
  because the positions of some lexemes may be the same.

  Key definitions include:
    * `Lexeme.Viable`
    * `Lexeme.numbered`
    * `Program.stop?`

  Main statements:
    * `Expr.exists_split_of_error`
    * `Program.localised_of_error`
-/

namespace Formula

namespace Lexeme

/- Some lexemes are the beginning of an expression. -/
def Viable
    (ls : List Lexeme) : Prop :=
  ∃ more p, Program.ofLexemes? (ls ++ more) = .ok p

/-
  The same lexemes, each at a place of its own.  Where they
  begin is on one line, and where they end on another.
-/
def numbered
    (ls : List Lexeme) : List Lexeme :=
  ls.mapIdx fun i l => ⟨l.content, l.text, ⟨1, i⟩, ⟨2, i⟩⟩

/- The position that a place of numbered lexemes stands for. -/
def positionAt
    (ls : List Lexeme)
    (p : Position) : Position :=
  match ls[p.column]? with
  | some l => if p.line = 1 then l.position else l.ending
  | none => p

end Lexeme

/-
  The number of lexemes in front of the place where an error
  is found, if there is one.
-/
def Program.stop?
    (ls : List Lexeme) : Option Nat :=
  match Program.ofLexemes? (Lexeme.numbered ls) with
  | .ok _ => none
  | .error f =>
      if f.position.line = 1 then some f.position.column
      else some ls.length

------------------------------------------------------------
-- Beginnings of Expressions
------------------------------------------------------------

namespace Lexeme

/- Lexemes begin an expression when they begin a phrase. -/
theorem viable_iff
    {ls : List Lexeme} :
    Viable ls ↔
      ∃ d : Derivation .expression, ls <+: d.yield := by
  constructor
  · rintro ⟨more, hParse⟩
    rcases Program.exists_ofLexemes?_iff.mp hParse with
      ⟨d, hYield⟩
    exact ⟨d, more, hYield.symm⟩
  · rintro ⟨d, more, hYield⟩
    exact ⟨more,
      Program.exists_ofLexemes?_iff.mpr ⟨d, hYield.symm⟩⟩

/- What is stuck begins an expression, and goes no further. -/
theorem viable_of_isStuck
    {before after : List Lexeme}
    (hStuck : Form.expression.IsStuck before after) :
    Viable before := by
  rcases hStuck.begins with ⟨_, _, ⟨d, rfl, _⟩, hPrefix⟩
  exact viable_iff.mpr ⟨d, hPrefix⟩

theorem not_viable_of_isStuck
    {before rest : List Lexeme}
    {l : Lexeme}
    (hStuck : Form.expression.IsStuck before (l :: rest))
    (hWord : ¬ l.OpensSequence) :
    ¬ Viable (before ++ [l]) := by
  intro hViable
  rcases viable_iff.mp hViable with ⟨d, more, hYield⟩
  have hForm : Form.expression d.yield [] :=
    ⟨d, rfl, Phrase.stops_nil nofun⟩
  apply hStuck.bars l rest rfl hWord d.yield [] more hForm
  rw [List.append_nil, ← hYield, List.append_assoc]
  rfl

/- A whole expression does not go on where it ends. -/
theorem not_viable_of_stops
    {rest : List Lexeme}
    {l : Lexeme}
    (d : Derivation .expression)
    (hStops : Phrase.expression.Stops (l :: rest)) :
    ¬ Viable (d.yield ++ [l]) := by
  intro hViable
  rcases viable_iff.mp hViable with ⟨d', more, hYield⟩
  have hStops' : Phrase.expression.Stops (l :: more) :=
    hStops.congr rfl
  have hAppend : d.yield ++ l :: more = d'.yield ++ [] := by
    rw [List.append_nil, ← hYield, List.append_assoc]
    rfl
  have hRest :=
    (d.isDetermined d' _ _ hStops' (Phrase.stops_nil nofun)
      hAppend).2
  cases hRest

end Lexeme

namespace Expr

open Lexeme

/-
  An error is found behind lexemes that begin an expression,
  and at the first one with which they do not.
-/
theorem exists_split_of_error
    {ls : List Lexeme}
    {f : SyntaxError}
    (hParse : Expr.ofLexemes? ls = .error f) :
    ∃ before after, ls = before ++ after ∧
      f.StandsAt (endOf ls) after ∧ Viable before ∧
      ∀ l rest, after = l :: rest → ¬ l.OpensSequence →
        ¬ Viable (before ++ [l]) := by
  have hVerdict :=
    Parser.isExact_expression (endOf ls) ls.length ls
      (Nat.le_refl _)
  unfold Expr.ofLexemes? at hParse
  generalize Parser.expression (endOf ls) ls.length ls = run
    at hVerdict hParse
  cases hVerdict with
  | read d e rest hSplit hStops =>
      cases rest with
      | nil => cases hParse
      | cons l rest =>
          cases hParse
          refine ⟨d.yield, l :: rest, hSplit,
            ⟨rfl, .inl rfl⟩, ?_, ?_⟩
          · exact viable_iff.mpr ⟨d, List.prefix_rfl⟩
          · rintro _ _ ⟨⟩ _
            exact not_viable_of_stops d hStops
  | halted before after e hSplit hTight hStuck =>
      cases after with
      | nil =>
          exact absurd
            (Phrase.stops_nil (s := .expression) nofun) hTight
      | cons l rest =>
          cases hParse
          refine ⟨before, l :: rest, hSplit,
            ⟨rfl, .inl rfl⟩, viable_of_isStuck hStuck, ?_⟩
          rintro _ _ ⟨⟩ hWord
          exact not_viable_of_isStuck hStuck hWord
  | refused before after f' hSplit hStands hStuck =>
      cases hParse
      refine ⟨before, after, hSplit, hStands,
        viable_of_isStuck hStuck, ?_⟩
      rintro l rest rfl hWord
      exact not_viable_of_isStuck hStuck hWord

end Expr

------------------------------------------------------------
-- Numbering
------------------------------------------------------------

namespace Lexeme

variable {ls : List Lexeme}

@[simp] theorem length_numbered
    (ls : List Lexeme) :
    (numbered ls).length = ls.length :=
  List.length_mapIdx

theorem numbered_ne_nil
    (hLexemes : ls ≠ []) :
    numbered ls ≠ [] := by
  intro hEmpty
  have hLength := congrArg List.length hEmpty
  rw [length_numbered] at hLength
  exact hLexemes (List.eq_nil_of_length_eq_zero hLength)

theorem getElem?_numbered
    (ls : List Lexeme)
    (i : Nat) :
    (numbered ls)[i]? =
      ls[i]?.map fun l =>
        ⟨l.content, l.text, ⟨1, i⟩, ⟨2, i⟩⟩ :=
  List.getElem?_mapIdx

/- Lexemes are numbered from the first one. -/
theorem numbered_prefix_append
    (ls more : List Lexeme) :
    numbered ls <+: numbered (ls ++ more) := by
  unfold numbered
  rw [List.mapIdx_append]
  exact List.prefix_append _ _

theorem numbered_take
    (ls : List Lexeme)
    (k : Nat) :
    numbered (ls.take k) = (numbered ls).take k := by
  apply List.ext_getElem?
  intro i
  rw [getElem?_numbered, List.getElem?_take,
    List.getElem?_take, getElem?_numbered]
  split
  · rfl
  · rfl

/- Numbered lexemes are put back where they were. -/
theorem numbered_reposition
    (ls : List Lexeme) :
    (numbered ls).map (reposition (positionAt ls)) = ls := by
  apply List.ext_getElem?
  intro i
  rw [List.getElem?_map, getElem?_numbered]
  cases hLexeme : ls[i]? with
  | none => rfl
  | some l => simp [reposition, positionAt, hLexeme]

theorem positionAt_endOf
    (ls : List Lexeme) :
    positionAt ls (endOf (numbered ls)) = endOf ls := by
  by_cases hEmpty : ls = []
  · subst hEmpty
    rfl
  · have hNumbered := numbered_ne_nil hEmpty
    have hMoved :=
      endOf_reposition (g := positionAt ls) hNumbered
    rw [numbered_reposition] at hMoved
    exact hMoved.symm

/- Numbering lexemes changes nothing but positions. -/
theorem ofLexemes?_numbered
    (ls : List Lexeme) :
    Expr.ofLexemes? ls =
      ((Expr.ofLexemes? (numbered ls)).map
        (Expr.reposition (positionAt ls))).mapError
          (SyntaxError.reposition (positionAt ls)) := by
  by_cases hEmpty : ls = []
  · subst hEmpty
    rfl
  · have hNumbered := numbered_ne_nil hEmpty
    rw [← Expr.ofLexemes?_reposition hNumbered,
      numbered_reposition]

/- Whether lexemes are viable does not depend on positions. -/
theorem viable_numbered_iff :
    Viable (numbered ls) ↔ Viable ls := by
  constructor
  · rintro ⟨more, p, hParse⟩
    rcases Program.ofLexemes?_eq_ok_iff.mp hParse with
      ⟨e, hRead, -⟩
    have hLexemes : numbered ls ++ more ≠ [] := by
      intro hEmpty
      rw [hEmpty] at hRead
      cases hRead
    have hMoved :=
      Expr.ofLexemes?_reposition (g := positionAt ls) hLexemes
    rw [List.map_append, numbered_reposition, hRead] at hMoved
    exact ⟨_, _,
      Program.ofLexemes?_eq_ok_iff.mpr ⟨_, hMoved, rfl⟩⟩
  · rintro ⟨more, p, hParse⟩
    rcases Program.ofLexemes?_eq_ok_iff.mp hParse with
      ⟨e, hRead, -⟩
    rcases numbered_prefix_append ls more with ⟨more', hMore⟩
    rw [ofLexemes?_numbered, ← hMore] at hRead
    rcases Outcome.map_eq_ok_iff.mp
      (Outcome.mapError_eq_ok_iff.mp hRead) with
      ⟨e', hRead', _⟩
    exact ⟨more', _,
      Program.ofLexemes?_eq_ok_iff.mpr ⟨e', hRead', rfl⟩⟩

end Lexeme

/- An error has the position of what it stands at. -/
theorem SyntaxError.StandsAt.position_eq
    {f : SyntaxError}
    {ending : Position}
    {ls : List Lexeme}
    (hStands : f.StandsAt ending ls) :
    f.position = (ls.head?.map Lexeme.position).getD ending := by
  cases ls with
  | nil => exact hStands.1
  | cons l rest => exact hStands.1

/- An error stands where it is moved. -/
theorem SyntaxError.StandsAt.reposition
    {f : SyntaxError}
    {ending : Position}
    {ls : List Lexeme}
    (g : Position → Position)
    (hStands : f.StandsAt ending ls) :
    (f.reposition g).StandsAt (g ending)
      (ls.map (Lexeme.reposition g)) := by
  cases ls with
  | nil => exact ⟨congrArg g hStands.1, hStands.2⟩
  | cons l rest => exact ⟨congrArg g hStands.1, hStands.2⟩

namespace Program

open Lexeme

/- Numbered lexemes end on the second line. -/
theorem line_endOf_numbered
    {ls : List Lexeme}
    (hLexemes : ls ≠ []) :
    (endOf (numbered ls)).line = 2 := by
  have hLast := List.getLast?_eq_getElem? (l := numbered ls)
  rw [getElem?_numbered, length_numbered,
    ← List.getLast?_eq_getElem?,
    List.getLast?_eq_some_getLast hLexemes] at hLast
  unfold endOf
  rw [hLast]
  rfl

/- An error in numbered lexemes tells how many are before. -/
theorem stop?_eq_length
    {ls before after : List Lexeme}
    {f : SyntaxError}
    (hParse : Program.ofLexemes? (numbered ls) = .error f)
    (hSplit : numbered ls = before ++ after)
    (hStands : f.StandsAt (endOf (numbered ls)) after) :
    stop? ls = some before.length := by
  have hStop :
      stop? ls =
        if f.position.line = 1 then some f.position.column
        else some ls.length := by
    unfold stop?
    rw [hParse]
  rw [hStop, hStands.position_eq]
  cases after with
  | nil =>
      have hLength : ls.length = before.length := by
        rw [← length_numbered, hSplit, List.append_nil]
      by_cases hEmpty : ls = []
      · subst hEmpty
        rw [← hLength]
        rfl
      · rw [if_neg, hLength]
        change (endOf (numbered ls)).line ≠ 1
        rw [line_endOf_numbered hEmpty]
        decide
  | cons l rest =>
      have hNumber : (numbered ls)[before.length]? = some l := by
        rw [hSplit, List.getElem?_append_right (Nat.le_refl _),
          Nat.sub_self]
        rfl
      rw [getElem?_numbered] at hNumber
      rcases Option.map_eq_some_iff.mp hNumber with
        ⟨l', _, rfl⟩
      rfl

/-
  The place where an error is found is the one that numbering
  the lexemes tells.
-/
theorem stop?_of_error
    {ls : List Lexeme}
    {f : SyntaxError}
    (hParse : Program.ofLexemes? ls = .error f) :
    ∃ before after, numbered ls = before ++ after ∧
      stop? ls = some before.length ∧
      f.StandsAt (endOf ls) (ls.drop before.length) ∧
      Viable before ∧
      ∀ l rest, after = l :: rest → ¬ l.OpensSequence →
        ¬ Viable (before ++ [l]) := by
  have hRead := ofLexemes?_eq_error_iff.mp hParse
  rw [ofLexemes?_numbered] at hRead
  rcases Outcome.mapError_eq_error_iff.mp hRead with
    ⟨f₀, hNumbered, hMoved⟩
  have hFound := Outcome.map_eq_error_iff.mp hNumbered
  rcases Expr.exists_split_of_error hFound with
    ⟨before, after, hSplit, hStands, hViable, hNot⟩
  have hStop :=
    stop?_eq_length (ofLexemes?_eq_error_iff.mpr hFound)
      hSplit hStands
  refine ⟨before, after, hSplit, hStop, ?_, hViable, hNot⟩
  have hAfter : (numbered ls).drop before.length = after := by
    rw [hSplit, List.drop_left]
  have hPlaced := hStands.reposition (positionAt ls)
  rw [hMoved, positionAt_endOf, ← hAfter, List.map_drop,
    numbered_reposition] at hPlaced
  exact hPlaced

/-
  A syntax error is found at the first lexeme with which none
  of the expressions goes on that the lexemes before it begin,
  or at the end when all of them begin one.

  A word that counts only together with those behind it may
  be taken for one with which an expression goes on.
-/
theorem localised_of_error
    (ls : List Lexeme)
    (f : SyntaxError)
    (hParse : Program.ofLexemes? ls = .error f) :
    ∃ k, stop? ls = some k ∧ k ≤ ls.length ∧
      f.StandsAt (endOf ls) (ls.drop k) ∧
      Viable (ls.take k) ∧
      ∀ l, ls[k]? = some l → ¬ l.OpensSequence →
        ¬ Viable (ls.take (k + 1)) := by
  rcases stop?_of_error hParse with
    ⟨before, after, hSplit, hStop, hStands, hViable, hNot⟩
  have hBefore : (numbered ls).take before.length = before := by
    rw [hSplit, List.take_left]
  have hLength : before.length ≤ ls.length := by
    rw [← length_numbered ls, hSplit, List.length_append]
    exact Nat.le_add_right _ _
  refine ⟨before.length, hStop, hLength, hStands, ?_, ?_⟩
  · rw [← viable_numbered_iff, numbered_take, hBefore]
    exact hViable
  · intro l hLexeme hWord
    have hNumber := getElem?_numbered ls before.length
    rw [hLexeme, hSplit,
      List.getElem?_append_right (Nat.le_refl _),
      Nat.sub_self] at hNumber
    cases after with
    | nil => cases hNumber
    | cons l₀ rest =>
        have hTake :
            (before ++ l₀ :: rest).take (before.length + 1) =
              before ++ [l₀] := by
          simp [List.take_append, List.take_of_length_le]
        have hWord' : ¬ l₀.OpensSequence := by
          cases Option.some.inj hNumber
          exact hWord
        rw [← viable_numbered_iff, numbered_take, hSplit, hTake]
        exact hNot l₀ rest rfl hWord'

/- The lexemes of `f(a,,b)`. -/
def doubledCommaLexemes : List Lexeme :=
  [ ⟨.name "f", "f", ⟨1, 1⟩, ⟨1, 2⟩⟩,
    ⟨.mark .leftParen, "(", ⟨1, 2⟩, ⟨1, 3⟩⟩,
    ⟨.name "a", "a", ⟨1, 3⟩, ⟨1, 4⟩⟩,
    ⟨.mark .comma, ",", ⟨1, 4⟩, ⟨1, 5⟩⟩,
    ⟨.mark .comma, ",", ⟨1, 5⟩, ⟨1, 6⟩⟩,
    ⟨.name "b", "b", ⟨1, 6⟩, ⟨1, 7⟩⟩,
    ⟨.mark .rightParen, ")", ⟨1, 7⟩, ⟨1, 8⟩⟩ ]

/-
  A comma may end the arguments of a call, but a second one
  may not follow.
-/
theorem localised_of_error_doubledComma :
    Program.ofLexemes? doubledCommaLexemes =
      .error ⟨.noOperand ",", ⟨1, 5⟩⟩ ∧
    stop? doubledCommaLexemes = some 4 ∧
    Viable (doubledCommaLexemes.take 4) ∧
    ¬ Viable (doubledCommaLexemes.take 5) := by
  have hStop : stop? doubledCommaLexemes = some 4 := rfl
  rcases localised_of_error doubledCommaLexemes
    ⟨.noOperand ",", ⟨1, 5⟩⟩ rfl with
    ⟨k, hStop', _, _, hViable, hNot⟩
  cases hStop.symm.trans hStop'
  exact ⟨rfl, hStop, hViable, hNot _ rfl (by decide)⟩

end Program

end Formula
