import Formula.Proofs.Operator.Indexing
import Formula.Proofs.Policy.Refinement

/-
  Conversions deliver what they are asked for.

  Under both policies the result of a conversion is of the type
  that was asked for, an object apart, which any value may
  stand for.  So it stays as it is when it is converted again,
  and it holds the payload that a function takes from it.

  Key definitions include:
    * `Policy.Delivers`
    * `Value.Holds`
    * `Policy.HandsOver`

  Main statements:
    * `Policy.delivers_reinterpret?`
    * `Policy.IsOffered.type_convert`
    * `Policy.IsOffered.convert_convert`
    * `Policy.IsOffered.convert_eq_map_extract`
    * `Policy.IsOffered.handsOver`
-/

namespace Formula

namespace Policy

------------------------------------------------------------
-- Readings
------------------------------------------------------------

/- What there is for a type is of that type, objects apart. -/
def Delivers
    (read? : ValueType → Option Value) : Prop :=
  ∀ t w, t ≠ .object → read? t = some w → w.type = t

theorem type_zero
    {t : ValueType}
    (hOther : t ≠ .object) :
    (zero t).type = t := by
  cases t with
  | object => exact absurd rfl hOther
  | _ => rfl

/- A whole number may lie outside of the calendar. -/
theorem delivers_ofLong?
    (n : Int64) :
    Delivers (ofLong? n) := by
  intro t w _ hRead
  cases t with
  | dateTime =>
      rcases Option.map_eq_some_iff.mp hRead with
        ⟨moment, -, rfl⟩
      rfl
  | integer | long | float | double | boolean | timeSpan =>
      cases hRead
      rfl
  | null | string | object | array => cases hRead

/-
  A floating-point number is read as a whole one where it has
  no reading of its own.
-/
theorem delivers_ofDouble?
    (x : Float) :
    Delivers (ofDouble? x) := by
  intro t w hOther hRead
  cases t with
  | integer | float | double | boolean =>
      cases hRead
      rfl
  | _ =>
      exact delivers_ofLong? (Double.toInt64 x) _ _ hOther hRead

theorem delivers_ofBoolean?
    (b : Bool) :
    Delivers (ofBoolean? b) := by
  intro t w _ hRead
  cases t <;> cases hRead <;> rfl

/- What is read as a number only is read as one. -/
theorem Delivers.numeric
    {read? : ValueType → Option Value}
    (hDelivers : Delivers read?) :
    Delivers fun t =>
      if t.isNumeric then read? t else none := by
  intro t w hOther hRead
  dsimp only at hRead
  split at hRead
  · exact hDelivers t w hOther hRead
  · cases hRead

theorem delivers_ofText?
    (s : String) :
    Delivers (ofText? s) := by
  intro t w _ hRead
  cases t with
  | null | string | object | array => cases hRead
  | _ =>
      simp only [ofText?, Option.map_eq_some_iff] at hRead
      rcases hRead with ⟨payload, -, rfl⟩
      rfl

/- Every reading of a value is of the type asked for. -/
theorem delivers_reinterpret?
    (v : Value) :
    Delivers (reinterpret? v) := by
  intro t w hOther hRead
  cases v with
  | null =>
      cases hRead
      exact type_zero hOther
  | integer n => exact delivers_ofLong? _ t w hOther hRead
  | long n => exact delivers_ofLong? n t w hOther hRead
  | float x => exact delivers_ofDouble? _ t w hOther hRead
  | double x => exact delivers_ofDouble? x t w hOther hRead
  | boolean b => exact delivers_ofBoolean? b t w hOther hRead
  | dateTime _ | timeSpan _ =>
      exact (delivers_ofLong? _).numeric t w hOther hRead
  | string s => exact delivers_ofText? s t w hOther hRead
  | object _ | array _ => cases hRead

------------------------------------------------------------
-- Conversions
------------------------------------------------------------

theorem type_convertPermissive
    {v w : Value}
    {t : ValueType}
    (hOther : t ≠ .object)
    (hConvert : convertPermissive v t = .ok w) :
    w.type = t := by
  unfold convertPermissive at hConvert
  split at hConvert
  · rename_i hNull
    cases hConvert
    exact hNull.symm
  · split at hConvert
    · rename_i hSame
      cases hConvert
      exact (hSame.resolve_right hOther).symm
    · split at hConvert
      · rename_i hString
        cases hConvert
        exact hString.symm
      · split at hConvert
        · rename_i w' hRead
          cases hConvert
          exact delivers_reinterpret? v t w hOther hRead
        · cases hConvert

variable {p : Policy}
variable {v w : Value}
variable {t : ValueType}

namespace IsOffered

/-
  What a conversion gives is of the type that was asked for.
  What the strict policy gives, the permissive one gives too.
-/
theorem type_convert
    (hOffered : p.IsOffered)
    (hOther : t ≠ .object)
    (hConvert : p.convert v t = .ok w) :
    w.type = t := by
  have hPermissive : permissive.convert v t = .ok w := by
    rcases hOffered with rfl | rfl
    · exact convertStrict_refines v t w hConvert
    · exact hConvert
  exact type_convertPermissive hOther hPermissive

/- What was converted is converted already. -/
theorem convert_convert
    (hOffered : p.IsOffered)
    (hOther : t ≠ .object)
    (hConvert : p.convert v t = .ok w) :
    p.convert w t = .ok w := by
  have hType := hOffered.type_convert hOther hConvert
  have hSelf := hOffered.convert_self w
  rwa [hType] at hSelf

/- A conversion fails for its two types and nothing else. -/
theorem eq_noConversion
    (hOffered : p.IsOffered)
    {f : Failure}
    (hFailed : p.convert v t = .error f) :
    f = noConversion v.type t := by
  rcases hOffered with rfl | rfl
  · simp only [strict, Conversion.policy_toConversion,
      convertStrict] at hFailed
    split at hFailed
    · cases hFailed
    · split at hFailed
      · cases hFailed
      · split at hFailed <;> cases hFailed
        rfl
  · simp only [permissive, Conversion.policy_toConversion,
      convertPermissive] at hFailed
    split at hFailed
    · cases hFailed
    · split at hFailed
      · cases hFailed
      · split at hFailed
        · cases hFailed
        · split at hFailed <;> cases hFailed
          rfl

end IsOffered

end Policy

------------------------------------------------------------
-- Payloads
------------------------------------------------------------

/- The values of a type are those with a certain payload. -/
def Value.Holds
    (t : ValueType)
    (payload : Value → Option α)
    (wrap : α → Value) : Prop :=
  ∀ v : Value, v.type = t →
    ∃ a, payload v = some a ∧ v = wrap a

/-
  The payload of what a conversion gives is always found, and
  so a function gets it just when the conversion succeeds.
-/
theorem Policy.IsOffered.convert_eq_map_extract
    {p : Policy}
    {t : ValueType}
    {payload : Value → Option α}
    {wrap : α → Value}
    (hOffered : p.IsOffered)
    (hOther : t ≠ .object)
    (hHolds : Value.Holds t payload wrap)
    (v : Value) :
    p.convert v t = (p.extract v t payload).map wrap := by
  unfold Conversion.extract
  cases hConvert : p.convert v t with
  | error f => rfl
  | ok w =>
      have hType := hOffered.type_convert hOther hConvert
      rcases hHolds w hType with ⟨a, hPayload, rfl⟩
      rw [Outcome.ok_bind, hPayload]
      rfl

namespace Policy

/-
  A conversion of a value gives what a function gets from it,
  and both fail for the same reason.
-/
structure HandsOver
    (p : Policy)
    (v : Value) : Prop where
  integer : p.convert v .integer = (p.toInteger v).map .integer
  long : p.convert v .long = (p.toLong v).map .long
  double : p.convert v .double = (p.toDouble v).map .double
  boolean : p.convert v .boolean = (p.toBoolean v).map .boolean
  text : p.convert v .string = (p.toText v).map .string
  timestamp :
    p.convert v .dateTime = (p.toTimestamp v).map .dateTime

theorem IsOffered.handsOver
    {p : Policy}
    (hOffered : p.IsOffered)
    (v : Value) :
    p.HandsOver v := by
  constructor
  all_goals
    apply hOffered.convert_eq_map_extract (by decide)
    intro w hType
    cases w <;> cases hType
    exact ⟨_, rfl, rfl⟩

end Policy

end Formula
