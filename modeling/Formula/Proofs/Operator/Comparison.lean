import Formula.Policy.Strict
import Formula.Proofs.Operator.Result

/-
  The six comparisons of two operands.

  Equality and order are found in separate ways, and they fit
  together: operands that have an order have an equality too,
  and they are equal if and only if neither comes before the
  other.  What is no number has a place in the order, behind
  all others, but equals nothing.

  Key definitions include:
    * `Value.isNaN`
    * `Policy.Compares`

  Main statements:
    * `Conversion.equalSame?_of_orderSame?`
    * `Conversion.areEqual_of_equalSame?`
    * `Conversion.ordered_of_orderSame?`
    * `Conversion.exists_orderSame?_of_ordered`
    * `Conversion.exists_compares_of_less`
-/

namespace Formula

------------------------------------------------------------
-- Values of One Type
------------------------------------------------------------

/- A value is of a type of numbers, but is no number. -/
def Value.isNaN : Value → Bool
  | .float x => BinaryFormat.single.isNaN (Single.bits x)
  | .double x => BinaryFormat.double.isNaN (Double.bits x)
  | _ => false

/- Whether two elements of an order are equal is their order. -/
theorem beq_eq_compare
    {α : Type}
    [Ord α] [Std.LawfulEqOrd α] [BEq α] [LawfulBEq α]
    (a b : α) :
    (a == b) = (Ord.compare a b == .eq) := by
  rw [Bool.eq_iff_iff, beq_iff_eq, beq_iff_eq,
    Std.compare_eq_iff_eq]

/- Numbers are the same if they share a place on the line. -/
theorem BinaryFormat.same_eq
    (f : BinaryFormat)
    (a b : Nat) :
    f.same a b =
      (Ord.compare (f.place a) (f.place b) == .eq &&
        !(f.isNaN a || f.isNaN b)) := by
  rw [same, beq_eq_compare, Bool.not_or, Bool.and_comm]

/-
  The comparisons of two operands all give truth values, and
  three of them give the opposites of the other three.
-/
structure Policy.Compares
    (p : Policy)
    (lhs rhs : Value)
    (isLess isMore isEqual : Bool) : Prop where
  less :
    p.applyBinary .less lhs rhs = .ok (.boolean isLess)
  moreOrEqual :
    p.applyBinary .moreOrEqual lhs rhs =
      .ok (.boolean (!isLess))
  more :
    p.applyBinary .more lhs rhs = .ok (.boolean isMore)
  lessOrEqual :
    p.applyBinary .lessOrEqual lhs rhs =
      .ok (.boolean (!isMore))
  equal :
    p.applyBinary .equal lhs rhs = .ok (.boolean isEqual)
  notEqual :
    p.applyBinary .notEqual lhs rhs =
      .ok (.boolean (!isEqual))

namespace Conversion

/-
  Values that have an order are equal if and only if they are
  numbers and their order is that of equals.
-/
theorem equalSame?_of_orderSame?
    {v w : Value}
    {o : Ordering}
    (hOrder : orderSame? v w = some o) :
    equalSame? v w =
      some (o == .eq && !(v.isNaN || w.isNaN)) := by
  unfold orderSame? at hOrder
  split at hOrder <;> cases hOrder
  -- Whole numbers are ordered by what they stand for.
  case h_1 a b =>
    have hWhole : (a == b) = (a.toInt == b.toInt) := by
      rw [Bool.eq_iff_iff, beq_iff_eq, beq_iff_eq,
        Int32.toInt_inj]
    rw [equalSame?, hWhole, beq_eq_compare]
    exact congrArg some (Bool.and_true _).symm
  case h_2 a b =>
    have hWhole : (a == b) = (a.toInt == b.toInt) := by
      rw [Bool.eq_iff_iff, beq_iff_eq, beq_iff_eq,
        Int64.toInt_inj]
    rw [equalSame?, hWhole, beq_eq_compare]
    exact congrArg some (Bool.and_true _).symm
  case h_3 a b =>
    exact congrArg some (BinaryFormat.same_eq _ _ _)
  case h_4 a b =>
    exact congrArg some (BinaryFormat.same_eq _ _ _)
  all_goals
    rw [equalSame?, beq_eq_compare]
    exact congrArg some (Bool.and_true _).symm

------------------------------------------------------------
-- Operands
------------------------------------------------------------

variable {c : Conversion}
variable {lhs rhs right : Value}

/- Equality with what is neither null nor an array. -/
theorem areEqual_scalar
    (hLeft : lhs.type ≠ .null)
    (hItems : lhs.type ≠ .array)
    (symbol : String)
    (rhs : Value) :
    c.areEqual symbol lhs rhs =
      if rhs.isNull then .ok false
      else c.convert rhs lhs.type >>= fun right =>
        match equalSame? lhs right with
        | some b => .ok b
        | none => .error (unsupported symbol lhs rhs) := by
  cases lhs with
  | null => exact absurd rfl hLeft
  | array items => exact absurd rfl hItems
  | _ =>
    unfold areEqual
    rfl

/- Operands that are not null are compared by their values. -/
theorem areEqual_of_equalSame?
    {equal : Bool}
    (hLeft : lhs ≠ .null)
    (hRight : rhs ≠ .null)
    (hConvert : c.convert rhs lhs.type = .ok right)
    (hEqual : equalSame? lhs right = some equal)
    (symbol : String) :
    c.areEqual symbol lhs rhs = .ok equal := by
  have hSome : ¬ rhs.isNull = true := by
    rw [Value.isNull_iff]
    exact hRight
  have hItems : lhs.type ≠ .array := by
    intro hType
    cases lhs <;> cases hType
    cases hEqual
  rw [areEqual_scalar (mt Value.type_eq_null_iff.mp hLeft)
    hItems, if_neg hSome, hConvert, Outcome.ok_bind, hEqual]

/- Operands that are not null are ordered by their values. -/
theorem ordered_of_orderSame?
    {o : Ordering}
    (hLeft : lhs ≠ .null)
    (hRight : rhs ≠ .null)
    (hConvert : c.convert rhs lhs.type = .ok right)
    (hOrder : orderSame? lhs right = some o)
    (symbol : String)
    (test : Ordering → Bool) :
    c.ordered symbol lhs rhs test = .ok (.boolean (test o)) := by
  have hNull : ¬ (lhs.isNull || rhs.isNull) = true := by
    rw [Value.isNull_or_iff, not_or]
    exact ⟨hLeft, hRight⟩
  rw [ordered, compare, align, if_neg hNull, hConvert,
    Outcome.ok_map, Outcome.ok_bind]
  dsimp only
  rw [hOrder]
  rfl

/- Only operands that have an order can be ordered. -/
theorem exists_orderSame?_of_ordered
    {symbol : String}
    {test : Ordering → Bool}
    {v : Value}
    (hLeft : lhs ≠ .null)
    (hRight : rhs ≠ .null)
    (hOrdered : c.ordered symbol lhs rhs test = .ok v) :
    ∃ right o,
      c.convert rhs lhs.type = .ok right ∧
        orderSame? lhs right = some o := by
  have hNull : ¬ (lhs.isNull || rhs.isNull) = true := by
    rw [Value.isNull_or_iff, not_or]
    exact ⟨hLeft, hRight⟩
  rw [ordered, compare, align, if_neg hNull] at hOrdered
  cases hConvert : c.convert rhs lhs.type with
  | error f =>
      rw [hConvert] at hOrdered
      cases hOrdered
  | ok right =>
      rw [hConvert, Outcome.ok_map, Outcome.ok_bind] at hOrdered
      cases hOrder : orderSame? lhs right with
      | none =>
          simp only [hOrder] at hOrdered
          cases hOrdered
      | some o => exact ⟨right, o, rfl, hOrder⟩

------------------------------------------------------------
-- Comparisons
------------------------------------------------------------

/- The comparisons of operands that have an order. -/
theorem compares_of_orderSame?
    {o : Ordering}
    (hLeft : lhs ≠ .null)
    (hRight : rhs ≠ .null)
    (hConvert : c.convert rhs lhs.type = .ok right)
    (hOrder : orderSame? lhs right = some o) :
    c.policy.Compares lhs rhs o.isLT o.isGT
      (o == .eq && !(lhs.isNaN || right.isNaN)) := by
  have hOrdered :=
    ordered_of_orderSame? hLeft hRight hConvert hOrder
  have hEqual :=
    areEqual_of_equalSame? hLeft hRight hConvert
      (equalSame?_of_orderSame? hOrder)
  constructor
  · exact hOrdered _ _
  · have hOpposite : (!o.isLT) = o.isGE := by
      cases o <;> rfl
    rw [hOpposite]
    exact hOrdered _ _
  · exact hOrdered _ _
  · have hOpposite : (!o.isGT) = o.isLE := by
      cases o <;> rfl
    rw [hOpposite]
    exact hOrdered _ _
  · change (c.equal lhs rhs) = _
    rw [equal, hEqual]
    rfl
  · change (c.notEqual lhs rhs) = _
    rw [notEqual, hEqual]
    rfl

/-
  The six shared comparisons tell one story, however values
  convert.  If one operand can be compared with another, all
  six of them give truth values, and three of them the
  opposites of the other three.  No operand comes both before
  and after another one.  Operands are equal if and only if
  neither comes before the other, as long as both are numbers,
  the right one after it has been converted; nothing else is
  equal to anything.
-/
theorem exists_compares_of_less
    {v : Value}
    (hLeft : lhs ≠ .null)
    (hRight : rhs ≠ .null)
    (hLess : c.policy.applyBinary .less lhs rhs = .ok v) :
    ∃ right isLess isMore isEqual,
      c.convert rhs lhs.type = .ok right ∧
      c.policy.Compares lhs rhs isLess isMore isEqual ∧
      ¬ (isLess = true ∧ isMore = true) ∧
      ((lhs.isNaN || right.isNaN) = false →
        isEqual = (!isLess && !isMore)) ∧
      ((lhs.isNaN || right.isNaN) = true →
        isEqual = false) := by
  rcases exists_orderSame?_of_ordered hLeft hRight hLess with
    ⟨right, o, hConvert, hOrder⟩
  refine ⟨right, o.isLT, o.isGT, _, hConvert,
    compares_of_orderSame? hLeft hRight hConvert hOrder,
    ?_, ?_, ?_⟩
  · cases o <;> decide
  · intro hNumbers
    rw [hNumbers]
    cases o <;> rfl
  · intro hNoNumber
    rw [hNoNumber]
    exact Bool.and_false _

/- The zero that has a sign. -/
def signedZero : Value :=
  .double (Double.ofBits 0x8000000000000000)

/- The zero with a sign equals a zero that is converted. -/
theorem exists_compares_of_less_zeros :
    signedZero ≠ .null ∧
    Value.integer 0 ≠ .null ∧
    Policy.strict.applyBinary .less signedZero (.integer 0) =
      .ok (.boolean false) ∧
    Policy.strict.Compares signedZero (.integer 0)
      false false true := by
  have hLess :
      Policy.strict.applyBinary .less signedZero (.integer 0) =
        .ok (.boolean false) := rfl
  have hMore :
      Policy.strict.applyBinary .more signedZero (.integer 0) =
        .ok (.boolean false) := rfl
  have hLeft : signedZero ≠ .null := by
    rintro ⟨⟩
  have hRight : Value.integer 0 ≠ .null := by
    rintro ⟨⟩
  refine ⟨hLeft, hRight, hLess, ?_⟩
  rcases exists_compares_of_less hLeft hRight hLess with
    ⟨right, isLess, isMore, isEqual, hConvert, hCompares, -,
      hEqual, -⟩
  cases hConvert
  cases hLess.symm.trans hCompares.less
  cases hMore.symm.trans hCompares.more
  cases hEqual rfl
  exact hCompares

end Conversion

end Formula
