import Formula.Operator.Apply
import Formula.Operator.Default
import Formula.Proofs.Outcome

/-
  The shared operators depend on the conversions alone.

  A correspondence relates the outcomes of two computations: it
  holds of equal results and of equal failures of operations on
  values, and it composes.  Where conversions correspond, so do
  the shared operators over them.

  Key definitions include:
    * `Failure.IsInternal`
    * `Failure.IsOperational`
    * `Outcome.IsReliable`
    * `Correspondence`
    * `Correspondence.Corresponds`

  Main statements:
    * `Correspondence.applyUnary`
    * `Correspondence.applyBinary`
    * `Correspondence.corresponds_policy`
-/

namespace Formula

------------------------------------------------------------
-- Kinds of Failures
------------------------------------------------------------

/- A failure that only a malformed program can have. -/
def Failure.IsInternal
    (f : Failure) : Prop :=
  ∃ message, f.cause = .internal message

/-
  A failure of an operation on values.  No name is missing, and
  nothing is wrong with the program.
-/
def Failure.IsOperational
    (f : Failure) : Prop :=
  match f.cause with
  | .variableNotFound _ => False
  | .functionNotFound _ => False
  | .internal _ => False
  | _ => True

theorem Failure.IsOperational.not_internal
    {f : Failure}
    (hFailure : f.IsOperational) :
    ¬ f.IsInternal := by
  rintro ⟨message, hCause⟩
  rw [IsOperational, hCause] at hFailure
  exact hFailure

namespace Outcome

/- An outcome is no internal failure. -/
def IsReliable
    (r : Outcome α) : Prop :=
  ∀ f, r = .error f → ¬ f.IsInternal

/- An outcome is a result or a failure of an operation. -/
abbrev IsOperational
    (r : Outcome α) : Prop :=
  FailsOnly Failure.IsOperational r

theorem isReliable_ok
    (a : α) :
    IsReliable (.ok a) :=
  failsOnly_ok a

theorem isReliable_error
    {f : Failure}
    (hFailure : ¬ f.IsInternal) :
    IsReliable (.error f : Outcome α) :=
  failsOnly_error hFailure

end Outcome

theorem isOperational_unsupported
    (symbol : String)
    (lhs rhs : Value) :
    (unsupported symbol lhs rhs).IsOperational :=
  True.intro

theorem isOperational_unsupportedOperand
    (symbol : String)
    (operand : Value) :
    (unsupportedOperand symbol operand).IsOperational :=
  True.intro

theorem isOperational_noConversion
    (source target : ValueType) :
    (noConversion source target).IsOperational :=
  True.intro

theorem isOperational_divisionByZero :
    divisionByZero.IsOperational :=
  True.intro

theorem isOperational_timestampOutOfRange :
    timestampOutOfRange.IsOperational :=
  True.intro

------------------------------------------------------------
-- Correspondences
------------------------------------------------------------

/-
  A relation of outcomes that respects the way in which
  computations are put together.
-/
structure Correspondence where
  Holds : {α : Type} → Outcome α → Outcome α → Prop
  same : ∀ {α : Type} (r : Outcome α),
    r.IsOperational → Holds r r
  bind : ∀ {α β : Type} {r r' : Outcome α}
    {k k' : α → Outcome β},
    Holds r r' → (∀ a, Holds (k a) (k' a)) →
      Holds (r >>= k) (r' >>= k')

namespace Correspondence

variable (c : Correspondence)
variable {α β : Type}

theorem ok
    (a : α) :
    c.Holds (.ok a) (.ok a) :=
  c.same _ (Outcome.failsOnly_ok a)

theorem error
    {f : Failure}
    (hFailure : f.IsOperational) :
    c.Holds (.error f : Outcome α) (.error f) :=
  c.same _ (Outcome.failsOnly_error hFailure)

theorem map
    {r r' : Outcome α}
    (g : α → β)
    (h : c.Holds r r') :
    c.Holds (r.map g) (r'.map g) := by
  rw [Outcome.map_eq_bind, Outcome.map_eq_bind]
  exact c.bind h fun a => c.ok (g a)

end Correspondence

------------------------------------------------------------
-- Operators on Values of One Type
------------------------------------------------------------

namespace Conversion

theorem isOperational_movedTo
    (t : Option Timestamp) :
    (movedTo t).IsOperational := by
  cases t with
  | none =>
      exact Outcome.failsOnly_error
        isOperational_timestampOutOfRange
  | some t => exact Outcome.failsOnly_ok _

theorem isOperational_negate
    (operand : Value) :
    (negate operand).IsOperational := by
  unfold negate
  split
  case h_7 =>
    exact Outcome.failsOnly_error
      (isOperational_unsupportedOperand _ _)
  all_goals exact Outcome.failsOnly_ok _

theorem isOperational_complement
    (operand : Value) :
    (complement operand).IsOperational := by
  unfold complement
  split
  case h_5 =>
    exact Outcome.failsOnly_error
      (isOperational_unsupportedOperand _ _)
  all_goals exact Outcome.failsOnly_ok _

/- Unary operators fail as operations do. -/
theorem isOperational_applyUnary
    (c : Conversion)
    (op : UnaryOp)
    (operand : Value) :
    (c.policy.applyUnary op operand).IsOperational := by
  cases op with
  | negate => exact isOperational_negate operand
  | not => exact isOperational_complement operand
  | isNull => exact Outcome.failsOnly_ok _
  | isNotNull => exact Outcome.failsOnly_ok _

theorem isOperational_itemAt
    (items : List α)
    (index : Int) :
    (itemAt items index).IsOperational := by
  unfold itemAt
  split
  · exact Outcome.failsOnly_ok _
  · exact Outcome.failsOnly_error True.intro

theorem isOperational_matchPattern
    (pattern text : String) :
    (matchPattern pattern text).IsOperational := by
  unfold matchPattern
  split
  · exact Outcome.failsOnly_ok _
  · exact Outcome.failsOnly_error True.intro

theorem isOperational_unless_zero
    (b : Prop)
    [Decidable b]
    (v : Value) :
    Outcome.IsOperational
      (if b then .error divisionByZero else .ok v) := by
  split
  · exact Outcome.failsOnly_error isOperational_divisionByZero
  · exact Outcome.failsOnly_ok v

/- The operators on values of one type, as far as they go. -/
def sameTypeOperators :
    List (Value → Value → Option (Outcome Value)) :=
  [ addSame, subSame, mulSame, divSame, remSame,
    andSame, orSame, xorSame ]

/- An operator on values of one type fails as operations do. -/
theorem isOperational_of_sameType
    {apply : Value → Value → Option (Outcome Value)}
    (hApply : apply ∈ sameTypeOperators)
    {v w : Value}
    {r : Outcome Value}
    (hResult : apply v w = some r) :
    r.IsOperational := by
  simp only [sameTypeOperators, List.mem_cons,
    List.not_mem_nil, or_false] at hApply
  rcases hApply with
    rfl | rfl | rfl | rfl | rfl | rfl | rfl | rfl
  all_goals
    simp only [addSame, subSame, mulSame, divSame, remSame,
      andSame, orSame, xorSame] at hResult
    split at hResult <;> cases hResult <;>
      first
        | exact Outcome.failsOnly_ok _
        | exact isOperational_unless_zero _ _

end Conversion

------------------------------------------------------------
-- Operators
------------------------------------------------------------

namespace Correspondence

variable (c : Correspondence)
variable {p q : Conversion}

mutual

theorem areEqual
    (hConvert :
      ∀ v t, c.Holds (p.convert v t) (q.convert v t))
    (symbol : String)
    (lhs rhs : Value) :
    c.Holds (p.areEqual symbol lhs rhs)
      (q.areEqual symbol lhs rhs) := by
  cases lhs with
  | null =>
      simp only [Conversion.areEqual]
      exact c.ok _
  | array as =>
      simp only [Conversion.areEqual]
      split
      · exact c.ok _
      · refine c.bind (hConvert rhs .array) fun right => ?_
        split
        · split
          · exact itemsEqual hConvert symbol as _
          · exact c.ok _
        · exact c.error (isOperational_unsupported _ _ _)
  | _ =>
      simp only [Conversion.areEqual]
      split
      · exact c.ok _
      · refine c.bind (hConvert rhs _) fun right => ?_
        split
        · exact c.ok _
        · exact c.error (isOperational_unsupported _ _ _)

theorem itemsEqual
    (hConvert :
      ∀ v t, c.Holds (p.convert v t) (q.convert v t))
    (symbol : String)
    (as bs : List Value) :
    c.Holds (p.itemsEqual symbol as bs)
      (q.itemsEqual symbol as bs) := by
  match as, bs with
  | a :: as, b :: bs =>
      simp only [Conversion.itemsEqual]
      refine c.bind (areEqual hConvert symbol a b)
        fun equal => ?_
      split
      · exact itemsEqual hConvert symbol as bs
      · exact c.ok _
  | [], _ =>
      simp only [Conversion.itemsEqual]
      exact c.ok _
  | _ :: _, [] =>
      simp only [Conversion.itemsEqual]
      exact c.ok _

end

variable
  (hConvert :
    ∀ v t, c.Holds (p.convert v t) (q.convert v t))

include hConvert

theorem align
    (lhs rhs : Value) :
    c.Holds (p.align lhs rhs) (q.align lhs rhs) := by
  unfold Conversion.align
  split
  · exact c.ok none
  · exact c.map some (hConvert rhs lhs.type)

theorem aligned
    (symbol : String)
    (lhs rhs : Value)
    {apply : Value → Value → Option (Outcome Value)}
    (hApply : apply ∈ Conversion.sameTypeOperators) :
    c.Holds
      (p.aligned symbol lhs rhs apply)
      (q.aligned symbol lhs rhs apply) := by
  refine c.bind (c.align hConvert lhs rhs) fun right => ?_
  cases right with
  | none => exact c.ok _
  | some w =>
      cases hResult : apply lhs w with
      | none =>
          simp only [hResult]
          exact c.error (isOperational_unsupported _ _ _)
      | some r =>
          simp only [hResult]
          exact c.same r
            (Conversion.isOperational_of_sameType hApply hResult)

theorem add
    (lhs rhs : Value) :
    c.Holds (p.add lhs rhs) (q.add lhs rhs) := by
  unfold Conversion.add
  split
  · exact c.same _ (Conversion.isOperational_movedTo _)
  · exact c.aligned hConvert _ _ _
      (by simp [Conversion.sameTypeOperators])

theorem sub
    (lhs rhs : Value) :
    c.Holds (p.sub lhs rhs) (q.sub lhs rhs) := by
  unfold Conversion.sub
  split
  · exact c.same _ (Conversion.isOperational_movedTo _)
  · exact c.aligned hConvert _ _ _
      (by simp [Conversion.sameTypeOperators])

theorem pow
    (lhs rhs : Value) :
    c.Holds (p.pow lhs rhs) (q.pow lhs rhs) := by
  unfold Conversion.pow
  split
  · exact c.ok _
  · split
    · exact c.error (isOperational_unsupported _ _ _)
    · refine c.bind (hConvert lhs .double) fun base => ?_
      refine c.bind (hConvert rhs .double) fun exponent => ?_
      split
      · exact c.ok _
      · exact c.error (isOperational_unsupported _ _ _)

theorem shiftCount
    (lhs count : Value) :
    c.Holds (p.shiftCount lhs count)
      (q.shiftCount lhs count) := by
  unfold Conversion.shiftCount
  split
  · exact c.ok _
  · refine c.bind (hConvert count .integer) fun n => ?_
    split
    · exact c.ok _
    · exact c.error (isOperational_noConversion _ _)

theorem shiftLeft
    (lhs rhs : Value) :
    c.Holds (p.shiftLeft lhs rhs) (q.shiftLeft lhs rhs) := by
  refine c.bind (c.shiftCount hConvert lhs rhs) fun n => ?_
  split
  · exact c.ok _
  · split
    · exact c.ok _
    · exact c.ok _
    · exact c.error (isOperational_unsupported _ _ _)

theorem shiftRight
    (lhs rhs : Value) :
    c.Holds (p.shiftRight lhs rhs)
      (q.shiftRight lhs rhs) := by
  refine c.bind (c.shiftCount hConvert lhs rhs) fun n => ?_
  split
  · exact c.ok _
  · split
    · exact c.ok _
    · exact c.ok _
    · exact c.error (isOperational_unsupported _ _ _)

theorem compare
    (symbol : String)
    (lhs rhs : Value) :
    c.Holds (p.compare symbol lhs rhs)
      (q.compare symbol lhs rhs) := by
  refine c.bind (c.align hConvert lhs rhs) fun right => ?_
  split
  · exact c.ok _
  · split
    · exact c.ok _
    · exact c.error (isOperational_unsupported _ _ _)

theorem ordered
    (symbol : String)
    (lhs rhs : Value)
    (test : Ordering → Bool) :
    c.Holds (p.ordered symbol lhs rhs test)
      (q.ordered symbol lhs rhs test) :=
  c.map _ (c.compare hConvert symbol lhs rhs)

theorem anyEqual
    (needle : Value)
    (items : List Value) :
    c.Holds (p.anyEqual needle items)
      (q.anyEqual needle items) := by
  induction items with
  | nil => exact c.ok _
  | cons v rest ih =>
      refine c.bind (c.areEqual hConvert _ needle v)
        fun b => ?_
      split
      · exact c.ok _
      · exact ih

theorem isIn
    (collection needle : Value) :
    c.Holds (p.isIn collection needle)
      (q.isIn collection needle) := by
  unfold Conversion.isIn
  split
  · exact c.map _ (c.anyEqual hConvert needle _)
  · exact c.map _ (c.areEqual hConvert _ collection needle)

theorem element
    (collection index : Value) :
    c.Holds (p.element collection index)
      (q.element collection index) := by
  unfold Conversion.element
  split
  · exact c.ok _
  · refine c.bind (hConvert index .integer) fun i => ?_
    split
    · split
      · exact c.same _ (Conversion.isOperational_itemAt _ _)
      · exact c.map _
          (c.same _ (Conversion.isOperational_itemAt _ _))
      · exact c.error (isOperational_noConversion _ _)
    · exact c.error (isOperational_noConversion _ _)

theorem like
    (value pattern : Value) :
    c.Holds (p.like value pattern)
      (q.like value pattern) := by
  unfold Conversion.like
  split
  · exact c.ok _
  · refine c.bind (hConvert value .string) fun text => ?_
    refine c.bind (hConvert pattern .string) fun w => ?_
    split
    · exact c.map _
        (c.same _ (Conversion.isOperational_matchPattern _ _))
    · exact c.error (isOperational_unsupported _ _ _)

/- Shared operators correspond when conversions do. -/
theorem applyBinary
    (op : BinaryOp)
    (lhs rhs : Value) :
    c.Holds (p.policy.applyBinary op lhs rhs)
      (q.policy.applyBinary op lhs rhs) := by
  cases op with
  | add => exact c.add hConvert lhs rhs
  | sub => exact c.sub hConvert lhs rhs
  | pow => exact c.pow hConvert lhs rhs
  | shiftLeft => exact c.shiftLeft hConvert lhs rhs
  | shiftRight => exact c.shiftRight hConvert lhs rhs
  | equal | notEqual =>
      exact c.map _ (c.areEqual hConvert _ lhs rhs)
  | more | less | moreOrEqual | lessOrEqual =>
      exact c.ordered hConvert _ lhs rhs _
  | isIn => exact c.isIn hConvert rhs lhs
  | isNotIn => exact c.map _ (c.isIn hConvert rhs lhs)
  | like => exact c.like hConvert lhs rhs
  | notLike => exact c.map _ (c.like hConvert lhs rhs)
  | element => exact c.element hConvert lhs rhs
  | and | or | xor | mul | div | rem =>
      exact c.aligned hConvert _ lhs rhs
        (by simp [Conversion.sameTypeOperators])

omit hConvert in
/- Unary operators do not depend on conversions at all. -/
theorem applyUnary
    (op : UnaryOp)
    (operand : Value) :
    c.Holds (p.policy.applyUnary op operand)
      (q.policy.applyUnary op operand) :=
  c.same _ (p.isOperational_applyUnary op operand)

------------------------------------------------------------
-- Policies
------------------------------------------------------------

/-
  Two policies correspond when their conversions and all their
  operators do.
-/
structure Corresponds
    (p q : Policy) : Prop where
  convert : ∀ v t, c.Holds (p.convert v t) (q.convert v t)
  applyUnary : ∀ op v,
    c.Holds (p.applyUnary op v) (q.applyUnary op v)
  applyBinary : ∀ op v w,
    c.Holds (p.applyBinary op v w) (q.applyBinary op v w)

/- With the shared operators, conversions are enough. -/
theorem corresponds_policy :
    c.Corresponds p.policy q.policy where
  convert := hConvert
  applyUnary := c.applyUnary
  applyBinary := c.applyBinary hConvert

end Correspondence

end Formula
