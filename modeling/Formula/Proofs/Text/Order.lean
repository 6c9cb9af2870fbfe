import Formula.Proofs.Text.Cursor

/-
  The order of places in a text.

  Reading on never leads to an earlier place.  It leads to a
  later one wherever a character takes a column of its own, so
  that no two such characters share a place.

  Key definitions include:
    * `Position.Precedes`
    * `Position.Reaches`
    * `Cursor.HasColumn`

  Main statements:
    * `Position.precedes_advance`
    * `Cursor.reaches_place_skip`
    * `Cursor.precedes_placeAt`
-/

namespace Formula

namespace Position

variable {p q r : Position}

------------------------------------------------------------
-- The Order of Positions
------------------------------------------------------------

/- A position stands in front of another one. -/
def Precedes
    (p q : Position) : Prop :=
  p.order q = .lt

/- A position stands in front of another one, or is there. -/
def Reaches
    (p q : Position) : Prop :=
  p.line < q.line ∨ p.line = q.line ∧ p.column ≤ q.column

theorem precedes_iff :
    p.Precedes q ↔
      p.line < q.line ∨
        p.line = q.line ∧ p.column < q.column := by
  rw [Precedes, order, Ordering.then_eq_lt, Nat.compare_eq_lt,
    Nat.compare_eq_eq, Nat.compare_eq_lt]

theorem reaches_refl
    (p : Position) :
    p.Reaches p :=
  .inr ⟨rfl, Nat.le_refl _⟩

theorem Reaches.trans
    (hFirst : p.Reaches q)
    (hSecond : q.Reaches r) :
    p.Reaches r := by
  unfold Reaches at *
  omega

theorem Reaches.trans_precedes
    (hFirst : p.Reaches q)
    (hSecond : q.Precedes r) :
    p.Precedes r := by
  rw [precedes_iff] at *
  unfold Reaches at hFirst
  omega

theorem Precedes.ne
    (hFirst : p.Precedes q) :
    p ≠ q := by
  rintro rfl
  rw [precedes_iff] at hFirst
  omega

------------------------------------------------------------
-- Reading On
------------------------------------------------------------

/- No character leads back. -/
theorem reaches_advance
    (p : Position)
    (previous : Option Char)
    (c : Char)
    (next : Option Char) :
    p.Reaches (p.advance previous c next) := by
  unfold advance Reaches
  split
  · split
    · exact .inl (Nat.lt_succ_self _)
    · exact .inl (Nat.lt_succ_self _)
  · split
    · exact .inr ⟨rfl, Nat.le_succ _⟩
    · exact .inr ⟨rfl, Nat.le_refl _⟩

/- A character with a column of its own leads on. -/
theorem precedes_advance
    {c : Char}
    (hColumn : takesColumn c = true)
    (p : Position)
    (previous next : Option Char) :
    p.Precedes (p.advance previous c next) := by
  rw [advance_of_takesColumn hColumn, precedes_iff]
  exact .inr ⟨rfl, Nat.lt_succ_self _⟩

end Position

namespace Cursor

theorem reaches_ahead
    (k : Cursor) :
    k.place.Reaches k.ahead := by
  unfold ahead
  split
  · exact Position.reaches_refl _
  · exact Position.reaches_advance _ _ _ _

theorem precedes_ahead
    {k : Cursor}
    {c : Char}
    {rest : List Char}
    (hAfter : k.after = c :: rest)
    (hColumn : takesColumn c = true) :
    k.place.Precedes k.ahead := by
  unfold ahead
  rw [hAfter]
  exact Position.precedes_advance hColumn _ _ _

/- Steps never lead back. -/
theorem reaches_place_skip
    (k : Cursor)
    (n : Nat) :
    k.place.Reaches (k.skip n).place := by
  induction n with
  | zero => exact Position.reaches_refl _
  | succ n ih =>
      rw [place_skip_succ]
      exact ih.trans (reaches_ahead _)

/- The place of a character that is passed is reached. -/
theorem reaches_ahead_skip
    (k : Cursor)
    {n : Nat}
    (hPassed : 0 < n) :
    k.ahead.Reaches (k.skip n).place := by
  cases n with
  | zero => exact absurd hPassed (Nat.lt_irrefl 0)
  | succ n =>
      rw [skip, ← place_read]
      exact reaches_place_skip k.read n

/- The character with this index has a column of its own. -/
def HasColumn
    (text : List Char)
    (index : Nat) : Prop :=
  ∃ c, text[index]? = some c ∧ takesColumn c = true

variable {text : List Char}
variable {m n : Nat}

/- A later character with a column has a later place. -/
theorem precedes_placeAt
    (hLater : m < n)
    (hColumn : HasColumn text n) :
    (placeAt text m).Precedes (placeAt text n) := by
  rcases hColumn with ⟨c, hChar, hTakes⟩
  rcases List.getElem?_eq_some_iff.mp hChar with
    ⟨hInside, hGet⟩
  have hAfter :
      (past text n).after = c :: text.drop (n + 1) := by
    rw [after_past, List.drop_eq_getElem_cons hInside, hGet]
  have hReaches :
      (placeAt text m).Reaches (past text n).place := by
    have hSteps : m + 1 + (n - (m + 1)) = n :=
      Nat.add_sub_cancel' hLater
    have hSkip := reaches_place_skip (past text (m + 1))
      (n - (m + 1))
    unfold past at hSkip
    rw [skip_skip, hSteps] at hSkip
    exact hSkip
  rw [← ahead_past text n]
  exact hReaches.trans_precedes (precedes_ahead hAfter hTakes)

/- Characters with columns do not share a place. -/
theorem eq_of_placeAt_eq
    (hFirst : HasColumn text m)
    (hSecond : HasColumn text n)
    (hPlace : placeAt text m = placeAt text n) :
    m = n := by
  rcases Nat.lt_trichotomy m n with hLess | hSame | hMore
  · exact absurd hPlace (precedes_placeAt hLess hSecond).ne
  · exact hSame
  · exact absurd hPlace.symm (precedes_placeAt hMore hFirst).ne

end Cursor

end Formula
