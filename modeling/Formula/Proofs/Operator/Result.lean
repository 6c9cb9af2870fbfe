import Formula.Operator.Apply
import Formula.Operator.Default
import Formula.Proofs.Outcome

/-
  What the shared operators give, whatever is converted.

  A null operand is the result of most operators, and only a
  null operand makes a result null.  Any other result has a
  type that the operator and the types of its operands fix.  To
  convert values to other types than those that are asked for
  does not change this.

  Key definitions include:
    * `BinaryOp.carriesNull`
    * `BinaryOp.resultType?`
    * `Outcome.HasType`
    * `Outcome.CarriesNull`

  Main statements:
    * `Conversion.carriesNull_aligned`
    * `Conversion.carriesNull_applyBinary`
    * `Conversion.applyBinary_null_iff_and_type`
-/

namespace Formula

------------------------------------------------------------
-- Results
------------------------------------------------------------

namespace BinaryOp

/- The operators that give null for null, and only for it. -/
def carriesNull : BinaryOp → Bool
  | .equal | .notEqual | .isIn | .isNotIn | .element => false
  | _ => true

/-
  The type of what an operator makes of operands that are not
  null.  The difference of a timestamp and of what is no span
  is a span.  The type of an element is not fixed.
-/
def resultType?
    (op : BinaryOp)
    (lhs rhs : ValueType) : Option ValueType :=
  match op with
  | .add | .mul | .div | .rem => some lhs
  | .and | .or | .xor => some lhs
  | .shiftLeft | .shiftRight => some lhs
  | .sub =>
      if lhs = .dateTime ∧ rhs ≠ .timeSpan then some .timeSpan
      else some lhs
  | .pow => some .double
  | .equal | .notEqual => some .boolean
  | .more | .less | .moreOrEqual | .lessOrEqual =>
      some .boolean
  | .isIn | .isNotIn | .like | .notLike => some .boolean
  | .element => none

/- An operator that carries null has no other null result. -/
theorem exists_resultType?
    {op : BinaryOp}
    (hOp : op.carriesNull = true)
    (lhs rhs : ValueType) :
    ∃ t, op.resultType? lhs rhs = some t ∧
      (t = .null → lhs = .null) := by
  cases op with
  | equal | notEqual | isIn | isNotIn | element => cases hOp
  | add | mul | div | rem => exact ⟨lhs, rfl, id⟩
  | and | or | xor => exact ⟨lhs, rfl, id⟩
  | shiftLeft | shiftRight => exact ⟨lhs, rfl, id⟩
  | sub =>
      rw [resultType?]
      split
      · exact ⟨.timeSpan, rfl, nofun⟩
      · exact ⟨lhs, rfl, id⟩
  | pow => exact ⟨.double, rfl, nofun⟩
  | more | less | moreOrEqual | lessOrEqual =>
      exact ⟨.boolean, rfl, nofun⟩
  | like | notLike => exact ⟨.boolean, rfl, nofun⟩

end BinaryOp

namespace Value

theorem isNull_iff
    {v : Value} :
    v.isNull = true ↔ v = .null := by
  cases v <;> simp [isNull]

theorem type_eq_null_iff
    {v : Value} :
    v.type = .null ↔ v = .null := by
  cases v <;> simp [type]

/- An opposite truth is a truth. -/
theorem type_invertTruth
    (v : Value) :
    (invertTruth v).type = v.type := by
  cases v <;> rfl

/- One operand is null at least. -/
theorem isNull_or_iff
    {v w : Value} :
    (v.isNull || w.isNull) = true ↔ v = .null ∨ w = .null := by
  rw [Bool.or_eq_true, isNull_iff, isNull_iff]

end Value

namespace Outcome

/- A result, if there is one, has a type. -/
def HasType
    (t : ValueType)
    (r : Outcome Value) : Prop :=
  ∀ v, r = .ok v → v.type = t

variable {t : ValueType}

theorem hasType_ok
    {v : Value}
    (hType : v.type = t) :
    HasType t (.ok v) := by
  rintro _ ⟨⟩
  exact hType

theorem hasType_error
    (f : Failure) :
    HasType t (.error f) := by
  rintro _ ⟨⟩

theorem hasType_bind
    {r : Outcome α}
    {k : α → Outcome Value}
    (hRest : ∀ a, (k a).HasType t) :
    HasType t (r >>= k) := by
  cases r with
  | error f => exact hasType_error f
  | ok a => exact hRest a

theorem hasType_map
    {r : Outcome α}
    {g : α → Value}
    (hType : ∀ a, (g a).type = t) :
    HasType t (r.map g) := by
  cases r with
  | error f => exact hasType_error f
  | ok a => exact hasType_ok (hType a)

theorem HasType.invertTruth
    {r : Outcome Value}
    (hType : r.HasType t) :
    HasType t (r.map Formula.invertTruth) := by
  intro w hResult
  rcases map_eq_ok_iff.mp hResult with ⟨v, hValue, rfl⟩
  rw [v.type_invertTruth]
  exact hType v hValue

/-
  An outcome is null if an operand is, and otherwise its result
  has a type.
-/
structure CarriesNull
    (lhs rhs : Value)
    (t : ValueType)
    (r : Outcome Value) : Prop where
  null : (lhs.isNull || rhs.isNull) = true → r = .ok .null
  hasType :
    ¬ (lhs.isNull || rhs.isNull) = true → r.HasType t

/- To look for null first is to carry it. -/
theorem carriesNull_ite
    {lhs rhs : Value}
    {r : Outcome Value}
    (hType : r.HasType t) :
    CarriesNull lhs rhs t
      (if lhs.isNull || rhs.isNull then .ok .null else r) := by
  constructor
  · intro hNull
    rw [if_pos hNull]
  · intro hOther
    rw [if_neg hOther]
    exact hType

/- Opposite truths carry null as well. -/
theorem CarriesNull.invertTruth
    {lhs rhs : Value}
    {r : Outcome Value}
    (hCarries : CarriesNull lhs rhs t r) :
    CarriesNull lhs rhs t (r.map Formula.invertTruth) := by
  constructor
  · intro hNull
    rw [hCarries.null hNull]
    rfl
  · intro hOther
    exact (hCarries.hasType hOther).invertTruth

end Outcome

------------------------------------------------------------
-- Operators on Values of One Type
------------------------------------------------------------

namespace Conversion

open Outcome

theorem hasType_movedTo
    (t : Option Timestamp) :
    HasType .dateTime (movedTo t) := by
  cases t with
  | none => exact hasType_error _
  | some t => exact hasType_ok rfl

/- The operators that stay within the type of operands. -/
def innerOperators :
    List (Value → Value → Option (Outcome Value)) :=
  [ addSame, mulSame, divSame, remSame,
    andSame, orSame, xorSame ]

theorem hasType_unless_zero
    {t : ValueType}
    {v : Value}
    (b : Prop)
    [Decidable b]
    (hType : v.type = t) :
    HasType t (if b then .error divisionByZero else .ok v) := by
  split
  · exact hasType_error _
  · exact hasType_ok hType

/- A result within a type is of that type. -/
theorem hasType_of_inner
    {apply : Value → Value → Option (Outcome Value)}
    (hApply : apply ∈ innerOperators)
    {v w : Value}
    {r : Outcome Value}
    (hResult : apply v w = some r) :
    r.HasType v.type := by
  simp only [innerOperators, List.mem_cons,
    List.not_mem_nil, or_false] at hApply
  rcases hApply with rfl | rfl | rfl | rfl | rfl | rfl | rfl
  all_goals
    simp only [addSame, mulSame, divSame, remSame,
      andSame, orSame, xorSame] at hResult
    split at hResult <;> cases hResult <;>
      first
        | exact hasType_ok rfl
        | exact hasType_unless_zero _ rfl

theorem hasType_of_subSame
    {v w : Value}
    {r : Outcome Value}
    (hResult : subSame v w = some r) :
    r.HasType
      (if v.type = .dateTime then .timeSpan else v.type) := by
  unfold subSame at hResult
  split at hResult <;> cases hResult <;> exact hasType_ok rfl

------------------------------------------------------------
-- Operators
------------------------------------------------------------

variable (c : Conversion)
variable (lhs rhs : Value)

/- What is done with aligned operands carries null. -/
theorem carriesNull_align
    {t : ValueType}
    {k : Option Value → Outcome Value}
    (hNull : k none = .ok .null)
    (hRest : ∀ right, (k (some right)).HasType t) :
    CarriesNull lhs rhs t (c.align lhs rhs >>= k) := by
  unfold align
  constructor
  · intro hOperand
    rw [if_pos hOperand]
    exact hNull
  · intro hOther
    rw [if_neg hOther]
    cases c.convert rhs lhs.type with
    | error f => exact hasType_error f
    | ok right => exact hRest right

/- An operator on aligned operands carries null. -/
theorem carriesNull_aligned
    {t : ValueType}
    {apply : Value → Value → Option (Outcome Value)}
    (symbol : String)
    (hApply : ∀ w r, apply lhs w = some r → r.HasType t) :
    CarriesNull lhs rhs t (c.aligned symbol lhs rhs apply) := by
  unfold aligned
  apply c.carriesNull_align lhs rhs rfl
  intro right
  dsimp only
  split
  · rename_i r hResult
    exact hApply right r hResult
  · exact hasType_error _

/- The sum of a timestamp and of a span is never null. -/
theorem carriesNull_add :
    CarriesNull lhs rhs lhs.type (c.add lhs rhs) := by
  unfold add
  split
  · exact ⟨fun hNull => (nomatch hNull),
      fun _ => hasType_movedTo _⟩
  · exact c.carriesNull_aligned _ _ _
      fun _ _ => hasType_of_inner (by simp [innerOperators])

/- The type of a difference of timestamps is another one. -/
theorem carriesNull_sub
    {t : ValueType}
    (hType : BinaryOp.resultType? .sub lhs.type rhs.type = some t) :
    CarriesNull lhs rhs t (c.sub lhs rhs) := by
  unfold sub
  split
  · cases hType
    exact ⟨fun hNull => (nomatch hNull),
      fun _ => hasType_movedTo _⟩
  · rename_i hNoMove
    apply carriesNull_aligned
    intro w r hResult
    have hSame := hasType_of_subSame hResult
    by_cases hDate : lhs.type = .dateTime
    · have hNoSpan : rhs.type ≠ .timeSpan := by
        intro hSpan
        cases lhs <;> cases hDate
        cases rhs <;> cases hSpan
        exact hNoMove _ _ rfl rfl
      rw [if_pos hDate] at hSame
      rw [BinaryOp.resultType?, if_pos ⟨hDate, hNoSpan⟩]
        at hType
      cases hType
      exact hSame
    · rw [if_neg hDate] at hSame
      rw [BinaryOp.resultType?, if_neg fun h => hDate h.1]
        at hType
      cases hType
      exact hSame

theorem carriesNull_pow :
    CarriesNull lhs rhs .double (c.pow lhs rhs) := by
  unfold pow
  apply carriesNull_ite
  split
  · exact hasType_error _
  · refine hasType_bind fun base => ?_
    refine hasType_bind fun exponent => ?_
    split
    · exact hasType_ok rfl
    · exact hasType_error _

/- A shift carries null, and stays within its type. -/
theorem carriesNull_shift
    {shift : Int32 → Outcome Value}
    (hShift : ∀ count, (shift count).HasType lhs.type) :
    CarriesNull lhs rhs lhs.type
      (c.shiftCount lhs rhs >>= fun count =>
        match count with
        | none => .ok .null
        | some n => shift n) := by
  unfold shiftCount
  constructor
  · intro hNull
    rw [if_pos hNull]
    rfl
  · intro hOther
    rw [if_neg hOther, bind_assoc]
    refine hasType_bind fun converted => ?_
    cases converted with
    | integer n => exact hShift n
    | _ => exact hasType_error _

theorem carriesNull_shiftLeft :
    CarriesNull lhs rhs lhs.type (c.shiftLeft lhs rhs) := by
  refine c.carriesNull_shift lhs rhs fun count => ?_
  split
  · exact hasType_ok rfl
  · exact hasType_ok rfl
  · exact hasType_error _

theorem carriesNull_shiftRight :
    CarriesNull lhs rhs lhs.type (c.shiftRight lhs rhs) := by
  refine c.carriesNull_shift lhs rhs fun count => ?_
  split
  · exact hasType_ok rfl
  · exact hasType_ok rfl
  · exact hasType_error _

theorem carriesNull_ordered
    (symbol : String)
    (test : Ordering → Bool) :
    CarriesNull lhs rhs .boolean
      (c.ordered symbol lhs rhs test) := by
  unfold ordered compare
  rw [map_eq_bind, bind_assoc]
  apply c.carriesNull_align lhs rhs rfl
  intro right
  dsimp only
  split
  · exact hasType_ok rfl
  · exact hasType_error _

theorem carriesNull_like :
    CarriesNull lhs rhs .boolean (c.like lhs rhs) := by
  unfold like
  apply carriesNull_ite
  refine hasType_bind fun text => ?_
  refine hasType_bind fun pattern => ?_
  split
  · rw [map_eq_bind]
    exact hasType_bind fun b => hasType_ok rfl
  · exact hasType_error _

/- Every such operator carries null and fixes a type. -/
theorem carriesNull_applyBinary
    {op : BinaryOp}
    {t : ValueType}
    (hOp : op.carriesNull = true)
    (hType : op.resultType? lhs.type rhs.type = some t) :
    CarriesNull lhs rhs t (c.policy.applyBinary op lhs rhs) := by
  cases op with
  | equal | notEqual | isIn | isNotIn | element => cases hOp
  | sub => exact c.carriesNull_sub lhs rhs hType
  | add =>
      cases hType
      exact c.carriesNull_add lhs rhs
  | pow =>
      cases hType
      exact c.carriesNull_pow lhs rhs
  | shiftLeft =>
      cases hType
      exact c.carriesNull_shiftLeft lhs rhs
  | shiftRight =>
      cases hType
      exact c.carriesNull_shiftRight lhs rhs
  | more | less | moreOrEqual | lessOrEqual =>
      cases hType
      exact c.carriesNull_ordered lhs rhs _ _
  | like =>
      cases hType
      exact c.carriesNull_like lhs rhs
  | notLike =>
      cases hType
      exact (c.carriesNull_like lhs rhs).invertTruth
  | and | or | xor | mul | div | rem =>
      cases hType
      exact c.carriesNull_aligned lhs rhs _
        fun _ _ => hasType_of_inner (by simp [innerOperators])

/- Membership gives a truth value, or fails. -/
theorem hasType_isIn
    (collection needle : Value) :
    HasType .boolean (c.isIn collection needle) := by
  unfold isIn
  split
  · exact hasType_map fun _ => rfl
  · exact hasType_map fun _ => rfl

/- Equality and membership give truth values, or fail. -/
theorem hasType_applyBinary
    {op : BinaryOp}
    {t : ValueType}
    (hOp : op.carriesNull = false)
    (hType : op.resultType? lhs.type rhs.type = some t) :
    HasType t (c.policy.applyBinary op lhs rhs) := by
  cases op with
  | equal | notEqual =>
      cases hType
      exact hasType_map fun _ => rfl
  | isIn =>
      cases hType
      exact c.hasType_isIn rhs lhs
  | isNotIn =>
      cases hType
      exact (c.hasType_isIn rhs lhs).invertTruth
  | element => cases hType
  | _ => cases hOp

/- An operator that carries null is null with null alone. -/
theorem applyBinary_eq_null_iff
    {op : BinaryOp}
    (hOp : op.carriesNull = true) :
    c.policy.applyBinary op lhs rhs = .ok .null ↔
      lhs = .null ∨ rhs = .null := by
  rcases BinaryOp.exists_resultType? hOp lhs.type rhs.type with
    ⟨t, hType, hFull⟩
  have hCarries := c.carriesNull_applyBinary lhs rhs hOp hType
  rw [← Value.isNull_or_iff]
  refine ⟨fun hResult => ?_, hCarries.null⟩
  by_cases hNull : (lhs.isNull || rhs.isNull) = true
  · exact hNull
  · have hSame := hCarries.hasType hNull .null hResult
    rw [Value.isNull_or_iff]
    exact .inl (Value.type_eq_null_iff.mp (hFull hSame.symm))

/-
  However values convert, a shared operator that carries null
  gives null if and only if an operand is null.  All other
  results have the type that the operator fixes, and those of
  equality and of membership always have it.
-/
theorem applyBinary_null_iff_and_type
    (op : BinaryOp) :
    (op.carriesNull = true →
      (c.policy.applyBinary op lhs rhs = .ok .null ↔
        lhs = .null ∨ rhs = .null)) ∧
    (∀ v t,
      c.policy.applyBinary op lhs rhs = .ok v →
        op.resultType? lhs.type rhs.type = some t →
          (op.carriesNull = true →
            lhs ≠ .null ∧ rhs ≠ .null) →
              v.type = t) := by
  refine ⟨c.policy.applyBinary_eq_null_iff lhs rhs, ?_⟩
  intro v t hResult hType hFull
  cases hOp : op.carriesNull with
  | false => exact c.hasType_applyBinary lhs rhs hOp hType v hResult
  | true =>
      have hCarries :=
        c.carriesNull_applyBinary lhs rhs hOp hType
      apply hCarries.hasType _ v hResult
      rw [Value.isNull_or_iff, not_or]
      exact hFull hOp

/- The conversion that leaves all values alone. -/
def unchanging : Conversion :=
  ⟨fun v _ => .ok v⟩

/- The difference of timestamps is a span, or null with null. -/
theorem applyBinary_null_iff_and_type_sub :
    (unchanging.policy.applyBinary .sub (.dateTime .epoch) .null =
      .ok .null) ∧
    ∃ v,
      unchanging.policy.applyBinary .sub (.dateTime .epoch)
        (.dateTime .epoch) = .ok v ∧ v.type = .timeSpan := by
  constructor
  · have hSub := applyBinary_null_iff_and_type unchanging
      (.dateTime .epoch) .null .sub
    exact (hSub.1 rfl).mpr (.inr rfl)
  · have hSub := applyBinary_null_iff_and_type unchanging
      (.dateTime .epoch) (.dateTime .epoch) .sub
    exact ⟨_, rfl, hSub.2 _ _ rfl rfl fun _ => ⟨nofun, nofun⟩⟩

end Conversion

end Formula
