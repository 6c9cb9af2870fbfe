import Formula.Proofs.Operator.Comparison
import Formula.Proofs.Operator.Indexing

/-
  Membership and equality.

  To look for a value in an array of one item is to ask whether
  the value equals the item: the item is converted to the type
  of the value.  In a collection that is no array the value
  takes the other side: it is converted to the type of the
  collection.  The two agree on operands of one type, but where
  a conversion loses something, or goes one way only, they do
  not.

  Key definitions include:
    * `Outcome.Agrees`

  Main statements:
    * `Conversion.agrees_areEqual`
    * `Policy.agrees_areEqual_comm`
    * `Policy.isIn_agrees_equal`
    * `Policy.isIn_ne_equal_fraction`
-/

namespace Formula

------------------------------------------------------------
-- Agreement
------------------------------------------------------------

namespace Outcome

/- Two outcomes have the same result, or both have none. -/
def Agrees
    (r r' : Outcome α) : Prop :=
  r.toOption = r'.toOption

theorem agrees_bind
    {r r' : Outcome α}
    {k k' : α → Outcome β}
    (hFirst : r.Agrees r')
    (hRest : ∀ a, (k a).Agrees (k' a)) :
    (r >>= k).Agrees (r' >>= k') := by
  cases r with
  | error f =>
      cases r' with
      | error f' => rfl
      | ok a => cases hFirst
  | ok a =>
      cases r' with
      | error f' => cases hFirst
      | ok a' =>
          cases Option.some.inj hFirst
          exact hRest a

theorem agrees_map
    {r r' : Outcome α}
    (hAgrees : r.Agrees r')
    (g : α → β) :
    Agrees (r.map g) (r'.map g) := by
  rw [map_eq_bind, map_eq_bind]
  exact agrees_bind hAgrees fun _ => rfl

end Outcome

------------------------------------------------------------
-- Equality
------------------------------------------------------------

theorem BinaryFormat.same_comm
    (f : BinaryFormat)
    (a b : Nat) :
    f.same a b = f.same b a := by
  have hPlaces : (f.place a == f.place b) =
      (f.place b == f.place a) := Bool.beq_comm
  rw [same, same, hPlaces, Bool.and_comm (!f.isNaN a)]

namespace Conversion

variable (c : Conversion)

mutual

/- The operator that asks matters to the failure alone. -/
theorem agrees_areEqual
    (symbol other : String)
    (lhs rhs : Value) :
    (c.areEqual symbol lhs rhs).Agrees
      (c.areEqual other lhs rhs) := by
  cases lhs with
  | null => rfl
  | array as =>
      simp only [areEqual]
      split
      · rfl
      · refine Outcome.agrees_bind rfl fun right => ?_
        split
        · split
          · exact agrees_itemsEqual symbol other as _
          · rfl
        · rfl
  | _ =>
      simp only [areEqual]
      split
      · rfl
      · refine Outcome.agrees_bind rfl fun right => ?_
        split
        · rfl
        · rfl

theorem agrees_itemsEqual
    (symbol other : String)
    (as bs : List Value) :
    (c.itemsEqual symbol as bs).Agrees
      (c.itemsEqual other as bs) := by
  match as, bs with
  | a :: as, b :: bs =>
      simp only [itemsEqual]
      refine Outcome.agrees_bind
        (agrees_areEqual symbol other a b) fun equal => ?_
      split
      · exact agrees_itemsEqual symbol other as bs
      · rfl
  | [], _ =>
      simp only [itemsEqual]
      rfl
  | _ :: _, [] =>
      simp only [itemsEqual]
      rfl

end

/- Nothing but null equals null. -/
theorem areEqual_null
    (symbol : String)
    (lhs : Value) :
    c.areEqual symbol lhs .null = .ok lhs.isNull := by
  cases lhs with
  | null => rfl
  | _ => simp only [areEqual, Value.isNull, if_true]

/- Values of one type are equal either way round. -/
theorem equalSame?_comm
    {v w : Value}
    (hType : v.type = w.type) :
    equalSame? v w = equalSame? w v := by
  cases v <;> cases w <;> cases hType
  case null.null.refl => rfl
  case array.array.refl as bs => rfl
  case float.float.refl a b =>
    exact congrArg some (BinaryFormat.single.same_comm _ _)
  case double.double.refl a b =>
    exact congrArg some (BinaryFormat.double.same_comm _ _)
  all_goals exact congrArg some Bool.beq_comm

end Conversion

namespace Policy

open Conversion

variable {p : Policy}

/-
  Operands that need no conversion, because they are of one
  type or one of them is null, are equal either way round.
-/
theorem agrees_areEqual_comm
    (hOffered : p.IsOffered)
    {v w : Value}
    (hItems : w.type ≠ .array)
    (hAlike : v = .null ∨ w = .null ∨ v.type = w.type)
    (symbol other : String) :
    (p.areEqual symbol v w).Agrees
      (p.areEqual other w v) := by
  by_cases hLeft : v = .null
  · subst hLeft
    rw [areEqual_null]
    rfl
  by_cases hRight : w = .null
  · subst hRight
    rw [areEqual_null]
    rfl
  have hType : v.type = w.type := by
    rcases hAlike with hNull | hNull | hType
    · exact absurd hNull hLeft
    · exact absurd hNull hRight
    · exact hType
  have hRest (u : Value) (hNull : u ≠ .null) :
      u.type ≠ .null ∧ ¬ u.isNull = true :=
    ⟨mt Value.type_eq_null_iff.mp hNull,
      mt Value.isNull_iff.mp hNull⟩
  rw [areEqual_scalar (hRest v hLeft).1 (hType ▸ hItems),
    areEqual_scalar (hRest w hRight).1 hItems,
    if_neg (hRest w hRight).2, if_neg (hRest v hLeft).2,
    hType, hOffered.convert_self w, ← hType,
    hOffered.convert_self v, Outcome.ok_bind,
    Outcome.ok_bind, equalSame?_comm hType]
  cases equalSame? w v with
  | none => rfl
  | some equal => rfl

end Policy

------------------------------------------------------------
-- Membership
------------------------------------------------------------

namespace Conversion

/- An array of one item is searched by one comparison. -/
theorem isIn_array_singleton
    (c : Conversion)
    (x y : Value) :
    c.policy.applyBinary .isIn x (.array [y]) =
      (c.areEqual "IN" x y).map .boolean := by
  change c.isIn (.array [y]) x = _
  rw [isIn, anyEqual]
  cases c.areEqual "IN" x y with
  | error f => rfl
  | ok equal => cases equal <;> rfl

/- Any other collection is compared with what is looked for. -/
theorem isIn_scalar
    (c : Conversion)
    (x : Value)
    {y : Value}
    (hItems : y.type ≠ .array) :
    c.policy.applyBinary .isIn x y =
      (c.areEqual "IN" y x).map .boolean := by
  cases y with
  | array items => exact absurd rfl hItems
  | _ => rfl

/- To be no member is the opposite of being one. -/
theorem isIn_opposite
    (c : Conversion)
    (x collection : Value) :
    (∃ f, c.policy.applyBinary .isIn x collection =
        .error f ∧
      c.policy.applyBinary .isNotIn x collection =
        .error f) ∨
    (∃ b, c.policy.applyBinary .isIn x collection =
        .ok (.boolean b) ∧
      c.policy.applyBinary .isNotIn x collection =
        .ok (.boolean (!b))) := by
  have hType := c.hasType_isIn collection x
  change (∃ f, c.isIn collection x = .error f ∧
      (c.isIn collection x).map invertTruth = .error f) ∨
    (∃ b, c.isIn collection x = .ok (.boolean b) ∧
      (c.isIn collection x).map invertTruth =
        .ok (.boolean (!b)))
  cases hIn : c.isIn collection x with
  | error f => exact .inl ⟨f, rfl, rfl⟩
  | ok v =>
      cases v <;> cases hType _ hIn
      exact .inr ⟨_, rfl, rfl⟩

end Conversion

namespace Policy

open Conversion

variable {p : Policy}

/-
  A value is in an array of one item if and only if it equals
  the item.  It is in a collection that is no array if and only
  if the collection equals the value, which is the same unless
  an operand has to be converted: the value is, and not the
  collection.  To be no member is the opposite of being one.
-/
theorem isIn_agrees_equal
    (hOffered : p.IsOffered)
    (x y : Value) :
    (p.applyBinary .isIn x (.array [y])).Agrees
      (p.applyBinary .equal x y) ∧
    (y.type ≠ .array →
      (p.applyBinary .isIn x y).Agrees
        (p.applyBinary .equal y x)) ∧
    (y.type ≠ .array →
      x = .null ∨ y = .null ∨ x.type = y.type →
        (p.applyBinary .isIn x y).Agrees
          (p.applyBinary .equal x y)) ∧
    ((∃ f, p.applyBinary .isIn x y = .error f ∧
        p.applyBinary .isNotIn x y = .error f) ∨
      (∃ b, p.applyBinary .isIn x y = .ok (.boolean b) ∧
        p.applyBinary .isNotIn x y = .ok (.boolean (!b)))) :=
    by
  rcases hOffered.exists_eq_policy with ⟨c, rfl⟩
  refine ⟨?_, ?_, ?_, c.isIn_opposite x y⟩
  · rw [c.isIn_array_singleton]
    exact Outcome.agrees_map (c.agrees_areEqual _ _ x y) _
  · intro hItems
    rw [c.isIn_scalar x hItems]
    exact Outcome.agrees_map (c.agrees_areEqual _ _ y x) _
  · intro hItems hAlike
    rw [c.isIn_scalar x hItems]
    have hComm := agrees_areEqual_comm hOffered hItems hAlike
      "=" "IN"
    exact Outcome.agrees_map hComm.symm _

/- A text may be a number, and a number needs no text. -/
theorem isIn_agrees_equal_five :
    IsOffered permissive ∧
    (Value.integer 5).type ≠ .array ∧
    (permissive.applyBinary .isIn (.string "5.0")
        (.integer 5)).Agrees
      (permissive.applyBinary .equal (.integer 5)
        (.string "5.0")) ∧
    (Value.integer 4 = .null ∨ Value.integer 5 = .null ∨
      (Value.integer 4).type = (Value.integer 5).type) ∧
    (permissive.applyBinary .isIn (.integer 4)
        (.integer 5)).Agrees
      (permissive.applyBinary .equal (.integer 4)
        (.integer 5)) := by
  have hOffered : IsOffered permissive := .inr rfl
  have hItems : (Value.integer 5).type ≠ .array := by decide
  have hAlike :
      Value.integer 4 = .null ∨ Value.integer 5 = .null ∨
        (Value.integer 4).type = (Value.integer 5).type :=
    .inr (.inr rfl)
  have hText :=
    isIn_agrees_equal hOffered (.string "5.0") (.integer 5)
  have hNumber :=
    isIn_agrees_equal hOffered (.integer 4) (.integer 5)
  exact ⟨hOffered, hItems, hText.2.1 hItems, hAlike,
    hNumber.2.2.1 hItems hAlike⟩

/-
  A collection of one item and the item itself may have other
  members.  The permissive policy cuts `1.5` to compare it with
  `1`, but does not cut it when `1` is looked for in it.  The
  strict policy widens `2` to compare it with `2.5`, but it
  refuses to look for `2.5` in it.
-/
theorem isIn_ne_equal_fraction :
    permissive.applyBinary .isIn (.integer 1) (.double 1.5) =
      .ok (.boolean false) ∧
    permissive.applyBinary .equal (.integer 1)
        (.double 1.5) =
      .ok (.boolean true) ∧
    permissive.applyBinary .isIn (.integer 1)
        (.array [.double 1.5]) =
      .ok (.boolean true) ∧
    strict.applyBinary .isIn (.double 2.5) (.integer 2) =
      .error (noConversion .double .integer) ∧
    strict.applyBinary .equal (.double 2.5) (.integer 2) =
      .ok (.boolean false) ∧
    ¬ ∀ p x y, IsOffered p → y.type ≠ .array →
      (p.applyBinary .isIn x y).Agrees
          (p.applyBinary .equal x y) ∧
        (p.applyBinary .isIn x y).Agrees
          (p.applyBinary .isIn x (.array [y])) := by
  have hIn :
      permissive.applyBinary .isIn (.integer 1)
          (.double 1.5) =
        .ok (.boolean false) := rfl
  have hEqual :
      permissive.applyBinary .equal (.integer 1)
          (.double 1.5) =
        .ok (.boolean true) := rfl
  refine ⟨hIn, hEqual, rfl, rfl, rfl, ?_⟩
  intro hAgrees
  have hSame :=
    (hAgrees _ (.integer 1) (.double 1.5) (.inr rfl)
      (by decide)).1
  rw [hIn, hEqual] at hSame
  cases hSame

end Policy

end Formula
