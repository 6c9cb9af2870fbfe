import Formula.Proofs.Function.Extreme
import Formula.Proofs.Policy.Conversion

/-
  When an operation is not supported.

  Arithmetic and the orderings convert the right operand to the
  type of the left one.  Since a conversion delivers that type,
  they can only lack a case for two operands of it, and so it
  is the left operand that decides what is supported.

  Key definitions include:
    * `BinaryOp.aligning`
    * `BinaryOp.ofSame`
    * `BinaryOp.takes`
    * `Outcome.IsUnsupported`

  Main statements:
    * `BinaryOp.takes_eq_false_iff`
    * `Conversion.applyBinary_eq_aligned`
    * `Policy.IsOffered.applyBinary_isUnsupported_iff`
    * `Policy.conversions_deliver`
-/

namespace Formula

------------------------------------------------------------
-- Cases of Operators
------------------------------------------------------------

/- Every type has a value. -/
theorem ValueType.exists_value
    (t : ValueType) :
    ∃ v : Value, v.type = t := by
  cases t with
  | object => exact ⟨.object ⟨""⟩, rfl⟩
  | _ => exact ⟨Policy.zero _, Policy.type_zero (by decide)⟩

/- The order of two values of one type passes a test. -/
def Conversion.orderedSame
    (test : Ordering → Bool)
    (v w : Value) : Option (Outcome Value) :=
  (orderSame? v w).map fun o => .ok (.boolean (test o))

namespace BinaryOp

/- The operators that align their operands. -/
def aligning : List BinaryOp :=
  [ .add, .sub, .mul, .div, .rem,
    .more, .less, .moreOrEqual, .lessOrEqual ]

/- What an operator makes of operands that are aligned. -/
def ofSame :
    BinaryOp → Value → Value → Option (Outcome Value)
  | .add => Conversion.addSame
  | .sub => Conversion.subSame
  | .mul => Conversion.mulSame
  | .div => Conversion.divSame
  | .rem => Conversion.remSame
  | .more => Conversion.orderedSame Ordering.isGT
  | .less => Conversion.orderedSame Ordering.isLT
  | .moreOrEqual => Conversion.orderedSame Ordering.isGE
  | .lessOrEqual => Conversion.orderedSame Ordering.isLE
  | _ => fun _ _ => none

/- An operator has a case for two operands of a type. -/
def takes : BinaryOp → ValueType → Bool
  | .add, t => t.isNumeric || t == .timeSpan || t == .string
  | .sub, t => t.isNumeric || t == .timeSpan || t == .dateTime
  | .mul, t | .div, t | .rem, t => t.isNumeric
  | .more, t | .less, t => t.isOrdered
  | .moreOrEqual, t | .lessOrEqual, t => t.isOrdered
  | _, _ => false

/- The type of two operands decides whether there is a case. -/
theorem isSome_ofSame
    (op : BinaryOp)
    {v w : Value}
    (hType : v.type = w.type) :
    (op.ofSame v w).isSome = op.takes v.type := by
  cases v <;> cases w <;> cases hType <;> cases op <;> rfl

/- There is no case for objects, whatever is beside them. -/
theorem ofSame_object
    (op : BinaryOp)
    (h : Handle)
    (w : Value) :
    op.ofSame (.object h) w = none := by
  cases op <;> rfl

/- A type is not taken if no two operands of it have a case. -/
theorem takes_eq_false_iff
    (op : BinaryOp)
    (t : ValueType) :
    op.takes t = false ↔
      ∀ v w : Value, v.type = t → w.type = t →
        op.ofSame v w = none := by
  constructor
  · rintro hNot v w rfl hType
    rw [← Option.isNone_iff_eq_none, ← Option.not_isSome,
      op.isSome_ofSame hType.symm, hNot]
    rfl
  · intro hNone
    rcases t.exists_value with ⟨v, rfl⟩
    rw [← op.isSome_ofSame rfl, hNone v v rfl rfl]
    rfl

end BinaryOp

------------------------------------------------------------
-- Reports
------------------------------------------------------------

/- An outcome reports that an operation is not supported. -/
def Outcome.IsUnsupported
    (r : Outcome α) : Prop :=
  ∃ operator lhs rhs position,
    r = .error ⟨.unsupported operator lhs rhs, position⟩

namespace Outcome

theorem not_isUnsupported_ok
    (a : α) :
    ¬ IsUnsupported (.ok a) := by
  rintro ⟨_, _, _, _, ⟨⟩⟩

/- Only the number on the right can be refused in a case. -/
theorem not_isUnsupported_unless_zero
    (b : Prop)
    [Decidable b]
    (v : Value) :
    ¬ IsUnsupported
      (if b then .error divisionByZero else .ok v) := by
  split
  · rintro ⟨_, _, _, _, ⟨⟩⟩
  · exact not_isUnsupported_ok v

theorem not_isUnsupported_movedTo
    (t : Option Timestamp) :
    ¬ IsUnsupported (movedTo t) := by
  cases t with
  | none => rintro ⟨_, _, _, _, ⟨⟩⟩
  | some t => exact not_isUnsupported_ok _

end Outcome

/- A case that there is supports the operation. -/
theorem BinaryOp.not_isUnsupported_ofSame
    {op : BinaryOp}
    {v w : Value}
    {r : Outcome Value}
    (hCase : op.ofSame v w = some r) :
    ¬ r.IsUnsupported := by
  cases op with
  | add | sub | mul | div | rem =>
      simp only [ofSame, Conversion.addSame, Conversion.subSame,
        Conversion.mulSame, Conversion.divSame,
        Conversion.remSame] at hCase
      split at hCase <;> cases hCase <;>
        first
          | exact Outcome.not_isUnsupported_ok _
          | exact Outcome.not_isUnsupported_unless_zero _ _
  | more | less | moreOrEqual | lessOrEqual =>
      rcases Option.map_eq_some_iff.mp hCase with ⟨o, -, rfl⟩
      exact Outcome.not_isUnsupported_ok _
  | _ => cases hCase

------------------------------------------------------------
-- Operators
------------------------------------------------------------

namespace Conversion

/- Orderings align their operands as arithmetic does. -/
theorem ordered_eq_aligned
    (c : Conversion)
    (symbol : String)
    (lhs rhs : Value)
    (test : Ordering → Bool) :
    c.ordered symbol lhs rhs test =
      c.aligned symbol lhs rhs (orderedSame test) := by
  unfold ordered compare aligned orderedSame
  cases c.align lhs rhs with
  | error f => rfl
  | ok aligned =>
      cases aligned with
      | none => rfl
      | some right =>
          dsimp only [Outcome.ok_bind]
          cases orderSame? lhs right <;> rfl

/-
  An operator aligns its operands, unless a span moves a
  timestamp.
-/
theorem applyBinary_eq_aligned
    (c : Conversion)
    {op : BinaryOp}
    (hOp : op ∈ BinaryOp.aligning)
    (lhs rhs : Value) :
    c.policy.applyBinary op lhs rhs =
        c.aligned op.symbol lhs rhs op.ofSame ∨
      lhs.type = .dateTime ∧ rhs.type = .timeSpan ∧
        ∃ moved, c.policy.applyBinary op lhs rhs = movedTo moved := by
  cases op with
  | add =>
      change c.add lhs rhs = _ ∨ _ ∧ _ ∧ ∃ moved,
        c.add lhs rhs = _
      unfold add
      split
      · exact .inr ⟨rfl, rfl, _, rfl⟩
      · exact .inl rfl
  | sub =>
      change c.sub lhs rhs = _ ∨ _ ∧ _ ∧ ∃ moved,
        c.sub lhs rhs = _
      unfold sub
      split
      · exact .inr ⟨rfl, rfl, _, rfl⟩
      · exact .inl rfl
  | mul | div | rem => exact .inl rfl
  | more | less | moreOrEqual | lessOrEqual =>
      exact .inl (c.ordered_eq_aligned _ lhs rhs _)
  | _ => exact absurd hOp (by decide)

end Conversion

namespace Policy

variable {p : Policy}

/- Neither policy converts a span to a timestamp. -/
theorem IsOffered.convert_timeSpan_ne_ok
    (hOffered : p.IsOffered)
    (s : TimeSpan)
    (w : Value) :
    p.convert (.timeSpan s) .dateTime ≠ .ok w := by
  rcases hOffered with rfl | rfl
  · rintro ⟨⟩
  · rintro ⟨⟩

/-
  The left operand alone decides whether there is a case for it
  and for what the right one is converted to.
-/
theorem IsOffered.isSome_ofSame
    (hOffered : p.IsOffered)
    {lhs rhs w : Value}
    (hConvert : p.convert rhs lhs.type = .ok w)
    (op : BinaryOp) :
    (op.ofSame lhs w).isSome = op.takes lhs.type := by
  by_cases hObject : lhs.type = .object
  · cases lhs <;> cases hObject
    rw [op.ofSame_object]
    cases op <;> rfl
  · exact op.isSome_ofSame
      (hOffered.type_convert hObject hConvert).symm

/-
  Operands are refused once they are aligned, and then there is
  no case for their type.
-/
theorem IsOffered.aligned_isUnsupported_iff
    (hOffered : p.IsOffered)
    (op : BinaryOp)
    (lhs rhs : Value) :
    (p.aligned op.symbol lhs rhs op.ofSame).IsUnsupported ↔
      lhs.isNull = false ∧ rhs.isNull = false ∧
        (∃ w, p.convert rhs lhs.type = .ok w) ∧
        op.takes lhs.type = false := by
  unfold Conversion.aligned Conversion.align
  by_cases hNull : (lhs.isNull || rhs.isNull) = true
  · rw [if_pos hNull]
    refine iff_of_false (Outcome.not_isUnsupported_ok _) ?_
    rintro ⟨hLeft, hRight, -, -⟩
    rw [hLeft, hRight] at hNull
    cases hNull
  · have hOperands : lhs.isNull = false ∧ rhs.isNull = false :=
      by simpa using hNull
    rw [if_neg hNull]
    cases hConvert : p.convert rhs lhs.type with
    | error f =>
        -- A conversion fails as such, and not as an operation.
        rw [hOffered.eq_noConversion hConvert]
        refine iff_of_false ?_ ?_
        · rintro ⟨_, _, _, _, ⟨⟩⟩
        · rintro ⟨-, -, ⟨w, ⟨⟩⟩, -⟩
    | ok w =>
        have hTakes := hOffered.isSome_ofSame hConvert op
        rw [Outcome.ok_map, Outcome.ok_bind]
        dsimp only
        cases hCase : op.ofSame lhs w with
        | none =>
            rw [hCase] at hTakes
            exact iff_of_true ⟨_, _, _, _, rfl⟩
              ⟨hOperands.1, hOperands.2, ⟨w, rfl⟩, hTakes.symm⟩
        | some r =>
            rw [hCase] at hTakes
            refine iff_of_false
              (BinaryOp.not_isUnsupported_ofSame hCase) ?_
            rintro ⟨-, -, -, hNot⟩
            cases hTakes.trans hNot

/-
  An operation is reported as not supported exactly if neither
  operand is null, the right one converts to the type of the
  left one, and the operator has no case for that type.
-/
theorem IsOffered.applyBinary_isUnsupported_iff
    (hOffered : p.IsOffered)
    {op : BinaryOp}
    (hOp : op ∈ BinaryOp.aligning)
    (lhs rhs : Value) :
    (p.applyBinary op lhs rhs).IsUnsupported ↔
      lhs.isNull = false ∧ rhs.isNull = false ∧
        (∃ w, p.convert rhs lhs.type = .ok w) ∧
        ∀ v w : Value, v.type = lhs.type → w.type = lhs.type →
          op.ofSame v w = none := by
  rw [← op.takes_eq_false_iff]
  rcases hOffered.exists_eq_policy with ⟨q, rfl⟩
  rcases q.applyBinary_eq_aligned hOp lhs rhs with
    hAligned | ⟨hLeft, hRight, moved, hMoved⟩
  · rw [hAligned]
    exact hOffered.aligned_isUnsupported_iff op lhs rhs
  · -- A span that moves a timestamp would not convert to one.
    rw [hMoved, hLeft]
    refine iff_of_false
      (Outcome.not_isUnsupported_movedTo moved) ?_
    rintro ⟨-, -, ⟨w, hConvert⟩, -⟩
    cases rhs <;> cases hRight
    exact hOffered.convert_timeSpan_ne_ok _ w hConvert

/-
  Under both policies a value stays as it is in its own type,
  and a conversion to any type but an object gives a value of
  that type, which stays as it is from then on.  So functions
  get the payload of all that converts.  And an operator that
  aligns its operands reports that an operation is not
  supported only if it has no case for two operands of the type
  of the left one.
-/
theorem conversions_deliver
    (hOffered : p.IsOffered) :
    (∀ v, p.convert v v.type = .ok v) ∧
    (∀ v w t, t ≠ .object → p.convert v t = .ok w →
      w.type = t ∧ p.convert w t = .ok w) ∧
    (∀ v, p.HandsOver v) ∧
    ∀ op ∈ BinaryOp.aligning, ∀ lhs rhs,
      (p.applyBinary op lhs rhs).IsUnsupported ↔
        lhs.isNull = false ∧ rhs.isNull = false ∧
          (∃ w, p.convert rhs lhs.type = .ok w) ∧
          ∀ v w : Value,
            v.type = lhs.type → w.type = lhs.type →
              op.ofSame v w = none := by
  refine ⟨hOffered.convert_self, ?_, hOffered.handsOver, ?_⟩
  · intro v w t hOther hConvert
    exact ⟨hOffered.type_convert hOther hConvert,
      hOffered.convert_convert hOther hConvert⟩
  · intro op hOp lhs rhs
    exact hOffered.applyBinary_isUnsupported_iff hOp lhs rhs

/-
  The permissive policy takes a number for a truth, which is
  not supported because truths cannot be added.
-/
theorem conversions_deliver_truth :
    IsOffered permissive ∧
    permissive.convert (.integer 5) .boolean =
      .ok (.boolean true) ∧
    permissive.convert (.boolean true) .boolean =
      .ok (.boolean true) ∧
    (permissive.applyBinary .add (.boolean true)
      (.integer 5)).IsUnsupported := by
  have hOffered : IsOffered permissive := .inr rfl
  rcases conversions_deliver hOffered with
    ⟨-, hDelivers, -, hReports⟩
  have hConvert :
      permissive.convert (.integer 5) .boolean =
        .ok (.boolean true) :=
    rfl
  have hNone (v w : Value)
      (hLeft : v.type = .boolean)
      (hRight : w.type = .boolean) :
      BinaryOp.ofSame .add v w = none := by
    cases v <;> cases hLeft
    rfl
  refine ⟨hOffered, hConvert,
    (hDelivers _ _ .boolean (by decide) hConvert).2, ?_⟩
  exact (hReports .add (by decide) _ _).mpr
    ⟨rfl, rfl, ⟨_, hConvert⟩, hNone⟩

end Policy

end Formula
