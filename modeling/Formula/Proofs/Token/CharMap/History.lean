import Mathlib.Data.List.Induction
import Formula.Proofs.Token.CharMap

/-
  The history of a map from characters to values.

  Ranges are added and removed, and the map is cleared.  What
  the map answers for a character is decided by the last change
  that reaches it: the value of a range that was added, or
  nothing.

  Key definitions include:
    * `CharMap.Change`
    * `CharMap.performAll`
    * `CharMap.Change.Reaches`
    * `CharMap.Change.Stands`

  Main statements:
    * `CharMap.lookup_perform`
    * `CharMap.lookup_performAll`
    * `CharMap.lookup_performAll_latest`
-/

namespace Formula

namespace CharMap

variable {α : Type}

------------------------------------------------------------
-- Changes
------------------------------------------------------------

/- What is done with a map. -/
inductive Change (α : Type) where
  | add (first last : Char) (value : α)
  | remove (first last : Char)
  | clear

/- The map after a change. -/
def perform
    (m : CharMap α) : Change α → CharMap α
  | .add first last value => m.add first last value
  | .remove first last => m.remove first last
  | .clear => m.clear

/- The map after some changes, one after the other. -/
def performAll
    (m : CharMap α)
    (changes : List (Change α)) : CharMap α :=
  changes.foldl perform m

namespace Change

/- A change concerns a character. -/
def Reaches
    (c : Char) : Change α → Prop
  | .add first last _ => first ≤ c ∧ c ≤ last
  | .remove first last => first ≤ c ∧ c ≤ last
  | .clear => True

instance
    (c : Char) :
    (change : Change α) → Decidable (change.Reaches c)
  | .add first last _ =>
      inferInstanceAs (Decidable (first ≤ c ∧ c ≤ last))
  | .remove first last =>
      inferInstanceAs (Decidable (first ≤ c ∧ c ≤ last))
  | .clear => inferInstanceAs (Decidable True)

/- What a change leaves behind for what it concerns. -/
def value? : Change α → Option α
  | .add _ _ value => some value
  | .remove _ _ => none
  | .clear => none

/-
  Of some changes, one adds a value for a character, and no
  later one concerns that character.
-/
def Stands
    (changes : List (Change α))
    (c : Char)
    (value : α) : Prop :=
  ∃ before first last after,
    changes = before ++ .add first last value :: after ∧
    first ≤ c ∧ c ≤ last ∧
    ∀ change ∈ after, ¬ change.Reaches c

end Change

------------------------------------------------------------
-- One Change
------------------------------------------------------------

/- A range that ends before it begins changes nothing. -/
theorem assign_of_inverted
    {first last : Char}
    (hInverted : last < first)
    (m : CharMap α)
    (value : Option α) :
    m.assign first last value = m := by
  rw [assign, if_pos hInverted]

/-
  A change decides for the characters that it concerns, and
  for no other.
-/
theorem lookup_perform
    (m : CharMap α)
    (change : Change α)
    (c : Char) :
    (m.perform change).lookup c =
      if change.Reaches c then change.value?
      else m.lookup c := by
  cases change with
  | add first last value =>
      exact m.lookup_assign first last (some value) c
  | remove first last => exact m.lookup_assign first last none c
  | clear =>
      have hReaches : Change.Reaches c (.clear : Change α) :=
        trivial
      rw [if_pos hReaches]
      exact lookup_empty c

theorem performAll_concat
    (m : CharMap α)
    (changes : List (Change α))
    (change : Change α) :
    m.performAll (changes ++ [change]) =
      (m.performAll changes).perform change :=
  List.foldl_append

/- A last change that reaches a character is all that counts. -/
theorem Change.stands_concat
    (changes : List (Change α))
    (change : Change α)
    (c : Char)
    (value : α) :
    Stands (changes ++ [change]) c value ↔
      if change.Reaches c then change.value? = some value
      else Stands changes c value := by
  constructor
  · rintro ⟨before, first, last, after, hSplit, hFirst, hLast,
      hAfter⟩
    -- The last change is the one that adds, or comes later.
    rcases List.eq_nil_or_concat after with
      rfl | ⟨after, latest, rfl⟩
    · rcases List.append_inj' hSplit rfl with ⟨-, hLatest⟩
      cases hLatest
      rw [if_pos ⟨hFirst, hLast⟩]
      rfl
    · rw [List.concat_eq_append, ← List.cons_append,
        ← List.append_assoc] at hSplit
      rcases List.append_inj' hSplit rfl with
        ⟨hEarlier, hLatest⟩
      cases hLatest
      rw [if_neg (hAfter _ (by simp))]
      exact ⟨before, first, last, after, hEarlier, hFirst,
        hLast, fun e hMem => hAfter e (by simp [hMem])⟩
  · intro hStands
    split at hStands
    · rename_i hReaches
      cases change with
      | add first last added =>
          cases hStands
          exact ⟨changes, first, last, [], rfl, hReaches.1,
            hReaches.2, by simp⟩
      | remove first last => cases hStands
      | clear => cases hStands
    · rename_i hPasses
      rcases hStands with
        ⟨before, first, last, after, rfl, hFirst, hLast,
          hAfter⟩
      refine ⟨before, first, last, after ++ [change], by simp,
        hFirst, hLast, ?_⟩
      intro e hMem
      rcases List.mem_append.mp hMem with hEarlier | hLatest
      · exact hAfter e hEarlier
      · rw [List.mem_singleton.mp hLatest]
        exact hPasses

------------------------------------------------------------
-- Whole Histories
------------------------------------------------------------

/- A map answers with the value that stands. -/
theorem lookup_performAll
    (changes : List (Change α))
    (c : Char)
    (value : α) :
    (empty.performAll changes).lookup c = some value ↔
      Change.Stands changes c value := by
  induction changes using List.reverseRecOn with
  | nil =>
      rw [performAll, List.foldl_nil, lookup_empty]
      constructor
      · rintro ⟨⟩
      · rintro ⟨before, first, last, after, hSplit, -⟩
        cases before <;> cases hSplit
  | append_singleton changes change ih =>
      rw [performAll_concat, lookup_perform,
        Change.stands_concat]
      split
      · rfl
      · exact ih

/-
  After any changes, the value of a character is that of the
  latest range that was added with the character in it, as long
  as no later one with the character in it was removed and the
  map was not cleared since.  If there is none, the character
  has no value.  A range that ends before it begins has no
  effect, neither when it is added nor when it is removed.
-/
theorem lookup_performAll_latest
    (changes : List (Change α))
    (c : Char) :
    (∀ value,
      (empty.performAll changes).lookup c = some value ↔
        Change.Stands changes c value) ∧
    ((empty.performAll changes).lookup c = none ↔
      ¬ ∃ value, Change.Stands changes c value) ∧
    ∀ first last, last < first →
      (∀ value,
        (empty.performAll changes).perform
            (.add first last value) =
          empty.performAll changes) ∧
      (empty.performAll changes).perform
          (.remove first last) =
        empty.performAll changes := by
  refine ⟨lookup_performAll changes c, ?_, ?_⟩
  · simp only [← lookup_performAll]
    cases (empty.performAll changes).lookup c with
    | none => simp
    | some value => simp
  · intro first last hInverted
    exact ⟨fun value => assign_of_inverted hInverted _ _,
      assign_of_inverted hInverted _ _⟩

/- Ranges on both sides of the last slot, and over it. -/
def borderChanges : List (Change Nat) :=
  [ .add 'a' '\u0110' 1,
    .remove '\u00F0' '\u0105',
    .add '\u00FF' '\u0100' 2,
    .add '\u0100' 'a' 3 ]

/-
  The last slot and the first character above it have the value
  that was added last, their neighbours have none, and farther
  away the value that was added first is left.
-/
theorem lookup_performAll_latest_border :
    Change.Stands borderChanges '\u00EF' 1 ∧
    (¬ ∃ value,
      Change.Stands borderChanges '\u00FE' value) ∧
    Change.Stands borderChanges '\u00FF' 2 ∧
    Change.Stands borderChanges '\u0100' 2 ∧
    (¬ ∃ value,
      Change.Stands borderChanges '\u0101' value) ∧
    Change.Stands borderChanges '\u0106' 1 ∧
    'a' < '\u0100' ∧
    (empty.performAll borderChanges).perform
        (.add '\u0100' 'a' 4) =
      empty.performAll borderChanges := by
  have hInverted : 'a' < '\u0100' := by decide
  refine ⟨?_, ?_, ?_, ?_, ?_, ?_, hInverted, ?_⟩
  · exact ((lookup_performAll_latest _ _).1 _).mp rfl
  · exact (lookup_performAll_latest _ _).2.1.mp rfl
  · exact ((lookup_performAll_latest _ _).1 _).mp rfl
  · exact ((lookup_performAll_latest _ _).1 _).mp rfl
  · exact (lookup_performAll_latest _ _).2.1.mp rfl
  · exact ((lookup_performAll_latest _ _).1 _).mp rfl
  · exact ((lookup_performAll_latest borderChanges 'a').2.2 _ _
      hInverted).1 4

end CharMap

end Formula
