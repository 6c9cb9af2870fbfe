import Formula.Policy.Permissive
import Formula.Policy.Strict
import Formula.Proofs.Policy.Correspondence

/-
  How operators fail.

  A shared operator fails internally only if a conversion does.
  So a host is only asked about its conversions, and about the
  operators that it puts in place of shared ones.  The strict
  and the permissive policy fail as operations on values do.

  Key definitions include:
    * `Policy.IsReliable`
    * `Policy.IsOperational`
    * `Correspondence.reliability`
    * `Correspondence.operation`

  Main statements:
    * `Policy.isOperational_strict`
    * `Policy.isOperational_permissive`
    * `Policy.IsReliable.corresponds`
-/

namespace Formula

namespace Outcome

theorem isReliable_bind
    {r : Outcome α}
    {k : α → Outcome β}
    (hFirst : r.IsReliable)
    (hRest : ∀ a, (k a).IsReliable) :
    (r >>= k).IsReliable :=
  failsOnly_bind hFirst hRest

/- A place does not make a failure internal. -/
theorem isReliable_locate
    {r : Outcome α}
    (hResult : r.IsReliable)
    (p : Position) :
    IsReliable (r.mapError (·.locate p)) := by
  cases r with
  | error f => exact isReliable_error (hResult f rfl)
  | ok a => exact isReliable_ok a

end Outcome

/- Outcomes that fail as operations correspond to anything. -/
def Correspondence.operation : Correspondence where
  Holds := fun r _ => r.IsOperational
  same := fun _ hResult => hResult
  bind := Outcome.failsOnly_bind

/- Outcomes that are reliable correspond to anything. -/
def Correspondence.reliability : Correspondence where
  Holds := fun r _ => r.IsReliable
  same := fun _ hResult f hFailed =>
    (hResult f hFailed).not_internal
  bind := Outcome.isReliable_bind

namespace Policy

variable {p : Policy}

/- Conversions and operators fail as operations do. -/
abbrev IsOperational
    (p : Policy) : Prop :=
  Correspondence.operation.Corresponds p p

/-
  No conversion fails internally, and no operator that gives
  anything else than the shared one does.
-/
structure IsReliable
    (p : Policy) : Prop where
  convert : ∀ v t, (p.convert v t).IsReliable
  ownUnary : ∀ op v,
    p.applyUnary op v ≠
        p.toConversion.policy.applyUnary op v →
      (p.applyUnary op v).IsReliable
  ownBinary : ∀ op v w,
    p.applyBinary op v w ≠
        p.toConversion.policy.applyBinary op v w →
      (p.applyBinary op v w).IsReliable

/- Shared operators are as reliable as the conversions. -/
theorem IsReliable.corresponds
    (hReliable : p.IsReliable) :
    Correspondence.reliability.Corresponds p p := by
  have hShared :
      Correspondence.reliability.Corresponds
        p.toConversion.policy p.toConversion.policy :=
    Correspondence.reliability.corresponds_policy
      hReliable.convert
  refine ⟨hReliable.convert, ?_, ?_⟩
  · intro op v
    by_cases hSame : p.applyUnary op v =
        p.toConversion.policy.applyUnary op v
    · rw [hSame]
      exact hShared.applyUnary op v
    · exact hReliable.ownUnary op v hSame
  · intro op v w
    by_cases hSame : p.applyBinary op v w =
        p.toConversion.policy.applyBinary op v w
    · rw [hSame]
      exact hShared.applyBinary op v w
    · exact hReliable.ownBinary op v w hSame

/- What fails as operations do never fails internally. -/
theorem isReliable_of_isOperational
    (hPolicy : p.IsOperational) :
    p.IsReliable where
  convert := fun v t f hFailed =>
    (hPolicy.convert v t f hFailed).not_internal
  ownUnary := fun op v _ f hFailed =>
    (hPolicy.applyUnary op v f hFailed).not_internal
  ownBinary := fun op v w _ f hFailed =>
    (hPolicy.applyBinary op v w f hFailed).not_internal

/- A value that a rule finds, or no conversion at all. -/
theorem isOperational_convertBy
    (found : Option Value)
    (source target : ValueType) :
    Outcome.IsOperational
      (match found with
      | some w => .ok w
      | none => .error (noConversion source target)) := by
  cases found with
  | some w => exact Outcome.failsOnly_ok w
  | none =>
      exact Outcome.failsOnly_error
        (isOperational_noConversion source target)

theorem isOperational_strict :
    IsOperational strict := by
  apply Correspondence.operation.corresponds_policy
  intro v target
  simp only [convertStrict]
  split
  · exact Outcome.failsOnly_ok _
  · split
    · exact Outcome.failsOnly_ok _
    · exact isOperational_convertBy _ _ _

theorem isOperational_permissive :
    IsOperational permissive := by
  apply Correspondence.operation.corresponds_policy
  intro v target
  simp only [convertPermissive]
  split
  · exact Outcome.failsOnly_ok _
  · split
    · exact Outcome.failsOnly_ok _
    · split
      · exact Outcome.failsOnly_ok _
      · exact isOperational_convertBy _ _ _

end Policy

end Formula
