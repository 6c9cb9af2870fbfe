import Formula.Policy.Permissive
import Formula.Policy.Strict
import Formula.Proofs.Policy.Correspondence

/-
  The permissive policy refines the strict one.

  A computation refines another one when it succeeds wherever
  the other one does, with the same result.  Conversions of the
  strict policy are refined by permissive ones, and therefore
  so are the operators.

  Key definitions include:
    * `Outcome.Refines`
    * `Policy.Refines`

  Main statements:
    * `Correspondence.refinement`
    * `Policy.strict_refines_permissive`
-/

namespace Formula

------------------------------------------------------------
-- Refinement of Outcomes
------------------------------------------------------------

namespace Outcome

variable {ε α β : Type}

/- What one outcome succeeds with, the other one does too. -/
def Refines
    (r r' : Except ε α) : Prop :=
  ∀ a, r = .ok a → r' = .ok a

theorem refines_refl
    (r : Except ε α) :
    Refines r r :=
  fun _ h => h

theorem refines_bind
    {r r' : Except ε α}
    {k k' : α → Except ε β}
    (hFirst : Refines r r')
    (hRest : ∀ a, Refines (k a) (k' a)) :
    Refines (r >>= k) (r' >>= k') := by
  intro b h
  rcases bind_eq_ok_iff.mp h with ⟨a, hResult, hNext⟩
  exact bind_eq_ok_iff.mpr
    ⟨a, hFirst a hResult, hRest a b hNext⟩

theorem refines_mapError
    {ε' : Type}
    {r r' : Except ε α}
    (g : ε → ε')
    (h : Refines r r') :
    Refines (r.mapError g) (r'.mapError g) := by
  intro a hResult
  rw [mapError_eq_ok_iff] at hResult ⊢
  exact h a hResult

end Outcome

/- Refinement is a correspondence. -/
def Correspondence.refinement : Correspondence where
  Holds := Outcome.Refines
  same := fun r _ => Outcome.refines_refl r
  bind := Outcome.refines_bind

------------------------------------------------------------
-- Refinement of Policies
------------------------------------------------------------

namespace Policy

/-
  Whatever the first policy converts and computes the second
  one does too.
-/
abbrev Refines
    (p q : Policy) : Prop :=
  Correspondence.refinement.Corresponds p q

/- A number widens to the same number under both policies. -/
theorem reinterpret?_of_widen?
    {v w : Value}
    {target : ValueType}
    (hWiden : widen? v target = some w) :
    reinterpret? v target = some w := by
  unfold widen? at hWiden
  split at hWiden <;> cases hWiden <;>
    simp [reinterpret?, ofLong?, ofDouble?]

/- Numbers widen to numbers. -/
theorem ne_string_of_widen?
    {v w : Value}
    {target : ValueType}
    (hWiden : widen? v target = some w) :
    target ≠ .string := by
  rintro rfl
  cases v <;> cases hWiden

/- What is converted strictly is converted permissively. -/
theorem convertStrict_refines
    (v : Value)
    (target : ValueType) :
    Outcome.Refines (convertStrict v target)
      (convertPermissive v target) := by
  intro w hStrict
  simp only [convertStrict, convertPermissive] at hStrict ⊢
  by_cases hNull : target = .null
  · rwa [if_pos hNull] at hStrict ⊢
  · rw [if_neg hNull] at hStrict ⊢
    by_cases hSame : target = v.type ∨ target = .object
    · rwa [if_pos hSame] at hStrict ⊢
    · rw [if_neg hSame] at hStrict ⊢
      cases hWiden : widen? v target with
      | none =>
          rw [hWiden] at hStrict
          cases hStrict
      | some w' =>
          rw [hWiden] at hStrict
          rw [if_neg (ne_string_of_widen? hWiden),
            reinterpret?_of_widen? hWiden]
          exact hStrict

theorem strict_refines_permissive :
    Refines strict permissive :=
  Correspondence.refinement.corresponds_policy
    convertStrict_refines

end Policy

end Formula
