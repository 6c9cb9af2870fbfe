import Formula.Proofs.Operator.Membership

/-
  Equality under the strict policy.

  The right operand is converted, so that the two ways round
  are two different questions.  Strict conversions lead to
  wider types only, and so both questions are answered only
  where nothing has to be converted.  There the answers are the
  same.  This holds item by item: as long as the items agree
  both ways round go on, and they stop at the same pair.

  Key definitions include:
    * `Value.holdsNaN`
    * `ValueType.width`

  Main statements:
    * `Policy.areEqual_self`
    * `Policy.type_eq_of_areEqual`
    * `Policy.eq_of_areEqual`
    * `Policy.strict_equal_refl_symm`
-/

namespace Formula

------------------------------------------------------------
-- Values Without a Number
------------------------------------------------------------

namespace Value

mutual

/-
  A value is no number, or it is an array in which there is
  one that is none, however deep.
-/
def holdsNaN : Value → Bool
  | .array items => anyHoldsNaN items
  | v => v.isNaN

/- A value in a list holds what is no number. -/
def anyHoldsNaN : List Value → Bool
  | [] => false
  | v :: vs => v.holdsNaN || anyHoldsNaN vs

end

theorem holdsNaN_of_not_array
    {v : Value}
    (hItems : v.type ≠ .array) :
    v.holdsNaN = v.isNaN := by
  cases v with
  | array items => exact absurd rfl hItems
  | _ => rw [holdsNaN]; rintro items ⟨⟩

end Value

------------------------------------------------------------
-- Wider Types
------------------------------------------------------------

/-
  How wide a type is.  Numbers are wider the more they can
  hold, and the host's own values are wider than all others.
-/
def ValueType.width : ValueType → Nat
  | .long => 1
  | .float => 2
  | .double => 3
  | .object => 4
  | _ => 0

theorem ValueType.width_lt_object
    {t : ValueType}
    (hOther : t ≠ .object) :
    t.width < width .object := by
  cases t with
  | object => exact absurd rfl hOther
  | _ => decide

namespace Policy

open Conversion

variable {p : Policy}
variable {lhs rhs : Value}
variable {symbol other : String}

------------------------------------------------------------
-- Equality with Itself
------------------------------------------------------------

/- What is neither null nor an array is compared with itself. -/
theorem equalSame?_self
    {v : Value}
    (hSome : v.type ≠ .null)
    (hItems : v.type ≠ .array) :
    equalSame? v v = some (!v.isNaN) := by
  cases v with
  | null => exact absurd rfl hSome
  | array items => exact absurd rfl hItems
  | object h => exact congrArg some (beq_self_eq_true h)
  | float x =>
      rw [equalSame?_of_orderSame? rfl, Bool.or_self,
        Single.order, Std.compare_self]
      rfl
  | double x =>
      rw [equalSame?_of_orderSame? rfl, Bool.or_self,
        Double.order, Std.compare_self]
      rfl
  | _ => exact congrArg some (beq_self_eq_true _)

/- Equality of arrays, the right one being one already. -/
theorem areEqual_array
    (hOffered : p.IsOffered)
    (symbol : String)
    (as bs : List Value) :
    p.areEqual symbol (.array as) (.array bs) =
      if as.length = bs.length then p.itemsEqual symbol as bs
      else .ok false := by
  have hConvert :
      p.convert (.array bs) .array = .ok (.array bs) :=
    hOffered.convert_self (.array bs)
  rw [areEqual, hConvert]
  rfl

mutual

/-
  A value equals itself, unless it holds what is no number.
-/
theorem areEqual_self
    (hOffered : p.IsOffered)
    (symbol : String)
    (v : Value) :
    p.areEqual symbol v v = .ok (!v.holdsNaN) := by
  by_cases hNull : v.type = .null
  · rw [Value.type_eq_null_iff.mp hNull]
    rfl
  by_cases hItems : v.type = .array
  · cases v with
    | array items =>
        rw [areEqual_array hOffered, if_pos rfl,
          itemsEqual_self hOffered symbol items, Value.holdsNaN]
    | _ => cases hItems
  · have hSome : ¬ v.isNull = true :=
      mt Value.isNull_iff.mp
        (mt Value.type_eq_null_iff.mpr hNull)
    rw [areEqual_scalar hNull hItems, if_neg hSome,
      hOffered.convert_self v, Outcome.ok_bind,
      equalSame?_self hNull hItems,
      Value.holdsNaN_of_not_array hItems]

theorem itemsEqual_self
    (hOffered : p.IsOffered)
    (symbol : String)
    (items : List Value) :
    p.itemsEqual symbol items items =
      .ok (!Value.anyHoldsNaN items) := by
  match items with
  | [] => rfl
  | v :: vs =>
      rw [itemsEqual, areEqual_self hOffered symbol v,
        Outcome.ok_bind, itemsEqual_self hOffered symbol vs,
        Value.anyHoldsNaN]
      cases v.holdsNaN with
      | true => rfl
      | false => rfl

end

------------------------------------------------------------
-- Strict Conversions
------------------------------------------------------------

/- Numbers are widened. -/
theorem width_lt_of_widen?
    {v w : Value}
    {target : ValueType}
    (hWiden : widen? v target = some w) :
    v.type.width < target.width := by
  unfold widen? at hWiden
  split at hWiden
  case h_7 => cases hWiden
  all_goals
    simp only [Value.type]
    decide

/- A strict conversion to another type leads to a wider one. -/
theorem width_lt_of_convertStrict
    {v w : Value}
    {target : ValueType}
    (hTarget : target ≠ .null)
    (hOther : target ≠ v.type)
    (hConvert : convertStrict v target = .ok w) :
    v.type.width < target.width := by
  rw [convertStrict, if_neg hTarget] at hConvert
  by_cases hObject : target = .object
  · subst hObject
    exact ValueType.width_lt_object (Ne.symm hOther)
  · rw [if_neg (not_or.mpr ⟨hOther, hObject⟩)] at hConvert
    cases hWiden : widen? v target with
    | none =>
        rw [hWiden] at hConvert
        cases hConvert
    | some u => exact width_lt_of_widen? hWiden

------------------------------------------------------------
-- Equality Either Way Round
------------------------------------------------------------

/- Operands that are compared have been converted. -/
theorem exists_convert_of_areEqual
    {equal : Bool}
    (hLeft : lhs ≠ .null)
    (hRight : rhs ≠ .null)
    (hEqual : p.areEqual symbol lhs rhs = .ok equal) :
    ∃ right, p.convert rhs lhs.type = .ok right := by
  have hSome : ¬ rhs.isNull = true :=
    mt Value.isNull_iff.mp hRight
  by_cases hItems : lhs.type = .array
  · cases lhs with
    | array as =>
        rw [areEqual, if_neg hSome] at hEqual
        rcases Outcome.bind_eq_ok_iff.mp hEqual with
          ⟨right, hConvert, -⟩
        exact ⟨right, hConvert⟩
    | _ => cases hItems
  · rw [areEqual_scalar (mt Value.type_eq_null_iff.mp hLeft)
      hItems, if_neg hSome] at hEqual
    rcases Outcome.bind_eq_ok_iff.mp hEqual with
      ⟨right, hConvert, -⟩
    exact ⟨right, hConvert⟩

/-
  Only operands of one type can be compared either way round:
  of two other types one would have to be wider than the other,
  and the other way round.
-/
theorem type_eq_of_areEqual
    {equal equal' : Bool}
    (hLeft : lhs ≠ .null)
    (hRight : rhs ≠ .null)
    (hEqual : strict.areEqual symbol lhs rhs = .ok equal)
    (hEqual' : strict.areEqual other rhs lhs = .ok equal') :
    lhs.type = rhs.type := by
  rcases exists_convert_of_areEqual hLeft hRight hEqual with
    ⟨right, hConvert⟩
  rcases exists_convert_of_areEqual hRight hLeft hEqual' with
    ⟨left, hConvert'⟩
  by_contra hOther
  have hWider : rhs.type.width < lhs.type.width :=
    width_lt_of_convertStrict
      (mt Value.type_eq_null_iff.mp hLeft) hOther hConvert
  have hNarrower : lhs.type.width < rhs.type.width :=
    width_lt_of_convertStrict
      (mt Value.type_eq_null_iff.mp hRight) (Ne.symm hOther)
      hConvert'
  exact Nat.lt_asymm hWider hNarrower

/- Null is compared with anything either way round. -/
theorem eq_of_areEqual_null
    {equal equal' : Bool}
    (hNull : lhs = .null ∨ rhs = .null)
    (hEqual : p.areEqual symbol lhs rhs = .ok equal)
    (hEqual' : p.areEqual other rhs lhs = .ok equal') :
    equal = equal' := by
  rcases hNull with rfl | rfl
  · rw [areEqual] at hEqual
    rw [areEqual_null, hEqual] at hEqual'
    exact Except.ok.inj hEqual'
  · rw [areEqual_null] at hEqual
    rw [areEqual, hEqual] at hEqual'
    exact Except.ok.inj hEqual'

mutual

/-
  Operands that can be compared either way round are equal both
  ways, or they are equal neither way.
-/
theorem eq_of_areEqual
    {equal equal' : Bool}
    (lhs rhs : Value)
    (hEqual : strict.areEqual symbol lhs rhs = .ok equal)
    (hEqual' : strict.areEqual other rhs lhs = .ok equal') :
    equal = equal' := by
  by_cases hNull : lhs = .null ∨ rhs = .null
  · exact eq_of_areEqual_null hNull hEqual hEqual'
  rcases not_or.mp hNull with ⟨hLeft, hRight⟩
  have hType : lhs.type = rhs.type :=
    type_eq_of_areEqual hLeft hRight hEqual hEqual'
  by_cases hItems : rhs.type = .array
  · cases lhs with
    | array as =>
        cases rhs with
        | array bs =>
            rw [areEqual_array (.inl rfl)] at hEqual hEqual'
            by_cases hLength : as.length = bs.length
            · rw [if_pos hLength] at hEqual
              rw [if_pos hLength.symm] at hEqual'
              exact eq_of_itemsEqual as bs hLength hEqual
                hEqual'
            · rw [if_neg hLength] at hEqual
              rw [if_neg (Ne.symm hLength)] at hEqual'
              exact Except.ok.inj (hEqual.symm.trans hEqual')
        | _ => cases hItems
    | _ => cases hType.trans hItems
  · have hAgrees :=
      agrees_areEqual_comm (.inl rfl) hItems
        (.inr (.inr hType)) symbol other
    rw [hEqual, hEqual'] at hAgrees
    exact Option.some.inj hAgrees

theorem eq_of_itemsEqual
    {equal equal' : Bool}
    (as bs : List Value)
    (hLength : as.length = bs.length)
    (hEqual : strict.itemsEqual symbol as bs = .ok equal)
    (hEqual' : strict.itemsEqual other bs as = .ok equal') :
    equal = equal' := by
  match as, bs with
  | [], [] => exact Except.ok.inj (hEqual.symm.trans hEqual')
  | a :: as, b :: bs =>
      rw [itemsEqual] at hEqual hEqual'
      rcases Outcome.bind_eq_ok_iff.mp hEqual with
        ⟨first, hFirst, hRest⟩
      rcases Outcome.bind_eq_ok_iff.mp hEqual' with
        ⟨first', hFirst', hRest'⟩
      -- Either both ways round go on, or both stop here.
      cases eq_of_areEqual a b hFirst hFirst'
      cases first with
      | true =>
          exact eq_of_itemsEqual as bs
            (Nat.succ.inj hLength) hRest hRest'
      | false => exact Except.ok.inj (hRest.symm.trans hRest')

end

/-
  Under the strict policy a value equals itself, unless it is
  no number or holds one that is none, at any depth of nested
  arrays.  If two operands can be compared either way round,
  the answer is the same.
-/
theorem strict_equal_refl_symm :
    (∀ v : Value,
      strict.applyBinary .equal v v =
        .ok (.boolean (!v.holdsNaN))) ∧
    ∀ x y a b : Value,
      strict.applyBinary .equal x y = .ok a →
      strict.applyBinary .equal y x = .ok b →
        a = b := by
  constructor
  · intro v
    have hEqual := areEqual_self (.inl rfl) "=" v
    exact congrArg (Except.map Value.boolean) hEqual
  · intro x y a b hEqual hEqual'
    rcases Outcome.map_eq_ok_iff.mp hEqual with
      ⟨isEqual, hAnswer, rfl⟩
    rcases Outcome.map_eq_ok_iff.mp hEqual' with
      ⟨isEqual', hAnswer', rfl⟩
    rw [eq_of_areEqual x y hAnswer hAnswer']

/- An array with a text and a number behind it. -/
def labelled
    (label : String)
    (number : Value) : Value :=
  .array
    [ .array [.null, .object ⟨"z"⟩], .string label, number ]

/-
  Arrays that differ in their texts are compared either way
  round, though the numbers behind these cannot be.
-/
theorem strict_equal_refl_symm_labelled :
    (labelled "a" (.integer 5)).holdsNaN = false ∧
    strict.applyBinary .equal (labelled "a" (.integer 5))
        (labelled "a" (.integer 5)) =
      .ok (.boolean true) ∧
    strict.applyBinary .equal (labelled "a" (.integer 5))
        (labelled "b" (.long 5)) =
      .ok (.boolean false) ∧
    strict.applyBinary .equal (labelled "b" (.long 5))
        (labelled "a" (.integer 5)) =
      .ok (.boolean false) ∧
    strict.applyBinary .equal (.integer 5) (.long 5) =
      .error (noConversion .long .integer) := by
  have hEqual :
      strict.applyBinary .equal (labelled "a" (.integer 5))
          (labelled "b" (.long 5)) =
        .ok (.boolean false) := rfl
  have hAnswer :
      ∃ b, strict.applyBinary .equal (labelled "b" (.long 5))
          (labelled "a" (.integer 5)) =
        .ok b := ⟨_, rfl⟩
  rcases hAnswer with ⟨b, hEqual'⟩
  cases strict_equal_refl_symm.2 _ _ _ _ hEqual hEqual'
  refine ⟨rfl, ?_, hEqual, hEqual', rfl⟩
  exact strict_equal_refl_symm.1 (labelled "a" (.integer 5))

/- An array in an array that holds what is no number. -/
example :
    let v : Value := .array
      [ .null, .array
        [.double (Double.ofBits BinaryFormat.double.nanBits)] ]
    strict.applyBinary .equal v v = .ok (.boolean false) := by
  rfl

end Policy

end Formula
