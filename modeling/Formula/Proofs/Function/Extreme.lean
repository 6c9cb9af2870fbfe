import Mathlib
import Formula.Proofs.Directory.History
import Formula.Proofs.Operator.Comparison
import Formula.Proofs.Operator.Indexing

/-
  The least and the greatest of some arguments.

  Arguments of one type that has an order are ordered as a
  whole: what is no number has its place in the order, both
  zeros share one, and instants do so wherever they are shown.
  A null among the arguments is passed over.  Of arguments that
  share a place the leftmost one is picked, for only one that
  comes strictly before it takes its place.

  Key definitions include:
    * `ValueType.isOrdered`
    * `Value.order`
    * `IsLeast`
    * `Policy.IsExtreme`
    * `Policy.PicksExtreme`

  Main statements:
    * `Conversion.orderSame?_eq_order`
    * `IsLeast.append_of_gt`
    * `Function.BeatsBy.exists_foldlM`
    * `extremes_leftmost`
-/

namespace Formula

------------------------------------------------------------
-- One Order for All Types
------------------------------------------------------------

/- The types of values that have an order. -/
def ValueType.isOrdered : ValueType → Bool
  | .integer => true
  | .long => true
  | .float => true
  | .double => true
  | .string => true
  | .boolean => true
  | .dateTime => true
  | .timeSpan => true
  | _ => false

namespace Value

/- The place of a value on a line; texts share one place. -/
def place : Value → Int
  | .integer n => n.toInt
  | .long n => n.toInt
  | .float x => BinaryFormat.single.place (Single.bits x)
  | .double x => BinaryFormat.double.place (Double.bits x)
  | .boolean b => if b then 1 else 0
  | .dateTime t => t.instant
  | .timeSpan s => s.nanos
  | _ => 0

/- Values in the order of their places, and then as texts. -/
def order : Value → Value → Ordering :=
  compareLex (compareOn place)
    (compareOn fun v => v.string?.getD "")

instance : Std.TransCmp order := by
  unfold order
  infer_instance

end Value

/- Values of one type are ordered by their places. -/
theorem Conversion.orderSame?_eq_order
    {v w : Value}
    (hOrdered : v.type.isOrdered = true)
    (hType : v.type = w.type) :
    orderSame? v w = some (v.order w) := by
  cases v <;> cases hOrdered <;> cases w <;> cases hType
  case string.refl.string.refl s s' =>
    simp [orderSame?, Value.order, compareLex, compareOn,
      Value.place, Value.string?]
  case boolean.refl.boolean.refl b b' =>
    cases b <;> cases b' <;> decide
  all_goals
    simp [orderSame?, Value.order, compareLex, compareOn,
      Value.place, Value.string?, Single.order, Double.order]

------------------------------------------------------------
-- Least Values
------------------------------------------------------------

/-
  A value comes before no other of some values, nulls apart,
  and strictly before those to the left of it.
-/
def IsLeast
    (order : Value → Value → Ordering)
    (args : List Value)
    (v : Value) : Prop :=
  ∃ before after,
    args = before ++ v :: after ∧
    v ≠ .null ∧
    (∀ w ∈ args, w ≠ .null → (order v w).isLE = true) ∧
    ∀ w ∈ before, w ≠ .null → order v w = .lt

namespace IsLeast

variable {order : Value → Value → Ordering}
variable {args : List Value}
variable {best v : Value}

/- A value alone is the least. -/
theorem singleton
    [Std.TransCmp order]
    (hSome : v ≠ .null) :
    IsLeast order [v] v := by
  have hSelf : order v v = .eq := Std.ReflCmp.compare_self
  refine ⟨[], [], rfl, hSome, ?_, by simp⟩
  intro w hMem _
  simp [List.mem_singleton.mp hMem, hSelf]

/- What does not come before the least leaves it the least. -/
theorem append_of_isLE
    (hLeast : IsLeast order args best)
    (hKeeps : v ≠ .null → (order best v).isLE = true) :
    IsLeast order (args ++ [v]) best := by
  rcases hLeast with
    ⟨before, after, hSplit, hSome, hLeast, hFirst⟩
  refine ⟨before, after ++ [v], ?_, hSome, ?_, hFirst⟩
  · simp [hSplit]
  · intro w hMem hOther
    rcases List.mem_append.mp hMem with hOld | hNew
    · exact hLeast w hOld hOther
    · cases List.mem_singleton.mp hNew
      exact hKeeps hOther

/- What comes before the least comes before all others. -/
theorem append_of_gt
    [Std.TransCmp order]
    (hLeast : IsLeast order args best)
    (hSome : v ≠ .null)
    (hBefore : order best v = .gt) :
    IsLeast order (args ++ [v]) v := by
  rcases hLeast with ⟨before, after, -, -, hLeast, -⟩
  have hFirst :
      ∀ w ∈ args, w ≠ .null → order v w = .lt := by
    intro w hMem hOther
    exact Std.TransCmp.lt_of_lt_of_isLE
      (Std.OrientedCmp.lt_of_gt hBefore)
      (hLeast w hMem hOther)
  have hSelf : order v v = .eq := Std.ReflCmp.compare_self
  refine ⟨args, [], rfl, hSome, ?_, hFirst⟩
  intro w hMem hOther
  rcases List.mem_append.mp hMem with hOld | hNew
  · simp [hFirst w hOld hOther]
  · simp [List.mem_singleton.mp hNew, hSelf]

end IsLeast

------------------------------------------------------------
-- Picking
------------------------------------------------------------

namespace Function

variable {p : Policy}
variable {t : ValueType}
variable {order : Value → Value → Ordering}
variable {beaten : Policy → Value → Value → Outcome Value}

/- The value that is kept of two of them. -/
def keep
    (beaten : Policy → Value → Value → Outcome Value)
    (p : Policy)
    (best v : Value) : Outcome Value := do
  if (← beaten p best v).isTrue then .ok v
  else .ok best

/-
  A test of two values beats the first one if and only if the
  second one comes strictly before it.
-/
structure BeatsBy
    (beaten : Policy → Value → Value → Outcome Value)
    (p : Policy)
    (order : Value → Value → Ordering)
    (t : ValueType) : Prop where
  null_left : ∀ v, beaten p .null v = .ok .null
  null_right : ∀ v, beaten p v .null = .ok .null
  beaten :
    ∀ v w, v.type = t → w.type = t →
      beaten p v w = .ok (.boolean (order v w).isGT)

/- One more value is passed over, kept off or kept. -/
theorem BeatsBy.exists_keep
    [Std.TransCmp order]
    (hBeats : BeatsBy beaten p order t)
    {seen : List Value}
    {best v : Value}
    (hLeast : IsLeast order seen best)
    (hBest : best.type = t)
    (hType : v = .null ∨ v.type = t) :
    ∃ next,
      keep beaten p best v = .ok next ∧
      next.type = t ∧
      IsLeast order (seen ++ [v]) next := by
  by_cases hNull : v = .null
  · subst hNull
    refine ⟨best, ?_, hBest, ?_⟩
    · simp [keep, hBeats.null_right, Value.isTrue]
    · exact hLeast.append_of_isLE (absurd rfl)
  · have hOther := hType.resolve_left hNull
    have hTest := hBeats.beaten best v hBest hOther
    cases hOrder : order best v with
    | gt =>
        refine ⟨v, ?_, hOther, ?_⟩
        · simp [keep, hTest, hOrder, Value.isTrue]
        · exact hLeast.append_of_gt hNull hOrder
    | eq =>
        refine ⟨best, ?_, hBest, ?_⟩
        · simp [keep, hTest, hOrder, Value.isTrue]
        · exact hLeast.append_of_isLE (by simp [hOrder])
    | lt =>
        refine ⟨best, ?_, hBest, ?_⟩
        · simp [keep, hTest, hOrder, Value.isTrue]
        · exact hLeast.append_of_isLE (by simp [hOrder])

/- After all values the least of them is kept. -/
theorem BeatsBy.exists_foldlM
    [Std.TransCmp order]
    (hBeats : BeatsBy beaten p order t)
    {rest : List Value}
    (hTypes : ∀ v ∈ rest, v = .null ∨ v.type = t)
    {seen : List Value}
    {best : Value}
    (hLeast : IsLeast order seen best)
    (hBest : best.type = t) :
    ∃ v,
      rest.foldlM (keep beaten p) best = .ok v ∧
      IsLeast order (seen ++ rest) v := by
  induction rest generalizing seen best with
  | nil => exact ⟨best, rfl, by simpa using hLeast⟩
  | cons v rest ih =>
      rcases hBeats.exists_keep hLeast hBest
        (hTypes v List.mem_cons_self) with
        ⟨next, hKeep, hNext, hLeast⟩
      rcases ih (fun w hMem =>
          hTypes w (List.mem_cons_of_mem v hMem))
        hLeast hNext with ⟨least, hFold, hAll⟩
      refine ⟨least, ?_, by simpa using hAll⟩
      rw [List.foldlM_cons, hKeep]
      exact hFold

/- A null in front of all stays. -/
theorem BeatsBy.foldlM_null
    (hBeats : BeatsBy beaten p order t)
    (rest : List Value) :
    rest.foldlM (keep beaten p) .null = .ok .null := by
  induction rest with
  | nil => rfl
  | cons v rest ih =>
      have hKeep : keep beaten p .null v = .ok .null := by
        simp [keep, hBeats.null_left, Value.isTrue]
      rw [List.foldlM_cons, hKeep]
      exact ih

------------------------------------------------------------
-- Extremes of Arguments
------------------------------------------------------------

/- The first argument is kept against all others in turn. -/
theorem extreme_cons
    (beaten : Policy → Value → Value → Outcome Value)
    (p : Policy)
    (first : Value)
    (rest : List Value) :
    extreme beaten (first :: rest) p =
      Outcome.toCall (rest.foldlM (keep beaten p) first) :=
  rfl

end Function

namespace Policy

variable {p : Policy}
variable {t : ValueType}

/- A value is not null, and related to all others that are not. -/
def BoundsAll
    (p : Policy)
    (relation : BinaryOp)
    (args : List Value)
    (v : Value) : Prop :=
  v ≠ .null ∧
    ∀ w ∈ args, w ≠ .null →
      p.applyBinary relation v w = .ok (.boolean true)

/- The leftmost value that is related to all others. -/
def IsExtreme
    (p : Policy)
    (relation : BinaryOp)
    (args : List Value)
    (v : Value) : Prop :=
  ∃ before after,
    args = before ++ v :: after ∧
    p.BoundsAll relation args v ∧
    ∀ w ∈ before, ¬ p.BoundsAll relation args w

/-
  What a call gives: null if that comes first, and else the
  leftmost value that is related to all others.
-/
def PicksExtreme
    (p : Policy)
    (relation : BinaryOp)
    (args : List Value)
    (r : CallResult) : Prop :=
  (args.head? = some .null → r = .ok .null) ∧
    (args.head? ≠ some .null →
      ∃ v, r = .ok v ∧ p.IsExtreme relation args v)

/- Comparisons of values that need no conversion. -/
theorem IsOffered.ordered_eq
    (hOffered : p.IsOffered)
    {v w : Value}
    (hLeft : v.type = t)
    (hRight : w.type = t)
    (hOrdered : t.isOrdered = true)
    (symbol : String)
    (test : Ordering → Bool) :
    p.ordered symbol v w test =
      .ok (.boolean (test (v.order w))) := by
  subst hLeft
  have hSome {u : Value} (hType : u.type = v.type) :
      u ≠ .null := by
    rintro rfl
    rw [← hType] at hOrdered
    cases hOrdered
  apply Conversion.ordered_of_orderSame? (hSome rfl)
    (hSome hRight) (hRight ▸ hOffered.convert_self w)
  exact Conversion.orderSame?_eq_order hOrdered hRight.symm

/- The least value is the leftmost that is related to all. -/
theorem isExtreme_of_isLeast
    {relation : BinaryOp}
    {order : Value → Value → Ordering}
    [Std.TransCmp order]
    (hRelation : ∀ v w, v.type = t → w.type = t →
      p.applyBinary relation v w =
        .ok (.boolean (order v w).isLE))
    {args : List Value}
    {v : Value}
    (hTypes : ∀ w ∈ args, w = .null ∨ w.type = t)
    (hLeast : IsLeast order args v) :
    p.IsExtreme relation args v := by
  rcases hLeast with
    ⟨before, after, rfl, hSome, hLeast, hFirst⟩
  have hMem : v ∈ before ++ v :: after := by simp
  have hType : v.type = t :=
    (hTypes v hMem).resolve_left hSome
  refine ⟨before, after, rfl, ⟨hSome, ?_⟩, ?_⟩
  · intro w hOther hValue
    have hOtherType := (hTypes w hOther).resolve_left hValue
    rw [hRelation v w hType hOtherType, hLeast w hOther hValue]
  · rintro w hBefore ⟨hValue, hBounds⟩
    -- The least value comes strictly before this one.
    have hOther : w ∈ before ++ v :: after :=
      List.mem_append_left _ hBefore
    have hOtherType := (hTypes w hOther).resolve_left hValue
    have hAfter : order w v = .gt :=
      Std.OrientedCmp.gt_of_lt (hFirst w hBefore hValue)
    have hRelated := hBounds v hMem hSome
    rw [hRelation w v hOtherType hType, hAfter] at hRelated
    cases hRelated

/- What no argument beats is the leftmost related to all. -/
theorem picksExtreme_of_beatsBy
    {beaten : Policy → Value → Value → Outcome Value}
    {relation : BinaryOp}
    (order : Value → Value → Ordering)
    [Std.TransCmp order]
    (hBeats : Function.BeatsBy beaten p order t)
    (hRelation : ∀ v w, v.type = t → w.type = t →
      p.applyBinary relation v w =
        .ok (.boolean (order v w).isLE))
    {args : List Value}
    (hSome : args ≠ [])
    (hTypes : ∀ v ∈ args, v = .null ∨ v.type = t) :
    p.PicksExtreme relation args
      (Function.extreme beaten args p) := by
  rcases List.exists_cons_of_ne_nil hSome with
    ⟨first, rest, rfl⟩
  rw [PicksExtreme, Function.extreme_cons]
  constructor
  · intro hNull
    cases Option.some.inj hNull
    rw [hBeats.foldlM_null]
    rfl
  · intro hValue
    have hFirst : first ≠ .null := by
      rintro rfl
      exact hValue rfl
    rcases hBeats.exists_foldlM
        (fun v hMem => hTypes v (List.mem_cons_of_mem _ hMem))
        (IsLeast.singleton hFirst)
        ((hTypes first List.mem_cons_self).resolve_left hFirst)
      with ⟨v, hFold, hLeast⟩
    refine ⟨v, ?_, isExtreme_of_isLeast hRelation hTypes hLeast⟩
    rw [hFold]
    rfl

/- The least argument is related to all others by `<=`. -/
theorem IsOffered.picksExtreme_min
    (hOffered : p.IsOffered)
    (hOrdered : t.isOrdered = true)
    {args : List Value}
    (hSome : args ≠ [])
    (hTypes : ∀ v ∈ args, v = .null ∨ v.type = t) :
    p.PicksExtreme .lessOrEqual args
      (Function.min args p) := by
  rcases hOffered.exists_eq_policy with ⟨c, rfl⟩
  refine picksExtreme_of_beatsBy Value.order ?_ ?_ hSome hTypes
  · constructor
    · intro v
      exact (c.carriesNull_ordered .null v ">" _).null rfl
    · intro v
      exact (c.carriesNull_ordered v .null ">" _).null
        (Bool.or_true _)
    · intro v w hLeft hRight
      exact hOffered.ordered_eq hLeft hRight hOrdered _ _
  · intro v w hLeft hRight
    exact hOffered.ordered_eq hLeft hRight hOrdered _ _

/- The greatest argument is related to all others by `>=`. -/
theorem IsOffered.picksExtreme_max
    (hOffered : p.IsOffered)
    (hOrdered : t.isOrdered = true)
    {args : List Value}
    (hSome : args ≠ [])
    (hTypes : ∀ v ∈ args, v = .null ∨ v.type = t) :
    p.PicksExtreme .moreOrEqual args
      (Function.max args p) := by
  -- The greatest value is the least in the opposite order.
  have hSwap (v w : Value) : v.order w = (w.order v).swap :=
    Std.OrientedCmp.eq_swap
  rcases hOffered.exists_eq_policy with ⟨c, rfl⟩
  refine picksExtreme_of_beatsBy (fun v w => w.order v)
    ?_ ?_ hSome hTypes
  · constructor
    · intro v
      exact (c.carriesNull_ordered .null v "<" _).null rfl
    · intro v
      exact (c.carriesNull_ordered v .null "<" _).null
        (Bool.or_true _)
    · intro v w hLeft hRight
      rw [← Ordering.isLT_swap, ← hSwap v w]
      exact hOffered.ordered_eq hLeft hRight hOrdered _ _
  · intro v w hLeft hRight
    rw [← Ordering.isGE_swap, ← hSwap v w]
    exact hOffered.ordered_eq hLeft hRight hOrdered _ _

end Policy

/-
  Of two or more arguments of one type that has an order, any
  of them possibly null, the least and the greatest are found
  under either policy and by any spelling of the names: null if
  that comes first, and else the leftmost argument that is not
  null and that is `<=`, or `>=`, to every other one that is
  not null.
-/
theorem extremes_leftmost
    (moment : Moment)
    {p : Policy}
    (hOffered : p.IsOffered)
    {t : ValueType}
    (hOrdered : t.isOrdered = true)
    {args : List Value}
    (hCount : 2 ≤ args.length)
    (hTypes : ∀ v ∈ args, v = .null ∨ v.type = t) :
    (∀ name, SameName "Min" name →
      ∃ min, moment.library.get? name = some min ∧
        p.PicksExtreme .lessOrEqual args (min args p)) ∧
    (∀ name, SameName "Max" name →
      ∃ max, moment.library.get? name = some max ∧
        p.PicksExtreme .moreOrEqual args (max args p)) := by
  have hSome : args ≠ [] := by
    rintro rfl
    simp at hCount
  have hBody (name : String) (body : Function) :
      StandardFunction.function ⟨name, .atLeast 2, body⟩ args
        p = body args p := by
    simp [StandardFunction.function, Arity.allows, hCount]
  constructor
  · intro name hName
    refine ⟨_, Directory.get?_library
      (f := ⟨"Min", .atLeast 2, .min⟩) ?_ hName, ?_⟩
    · simp [Moment.functions]
    · rw [hBody]
      exact hOffered.picksExtreme_min hOrdered hSome hTypes
  · intro name hName
    refine ⟨_, Directory.get?_library
      (f := ⟨"Max", .atLeast 2, .max⟩) ?_ hName, ?_⟩
    · simp [Moment.functions]
    · rw [hBody]
      exact hOffered.picksExtreme_max hOrdered hSome hTypes

/- Both zeros, a null between them and what is no number. -/
def bothZeros : List Value :=
  [ .double (Double.ofInt 0), .null, Conversion.signedZero,
    .double (Double.ofDatum .nan) ]

/- Of both zeros the leftmost one is the least. -/
theorem extremes_leftmost_zeros :
    Policy.IsOffered .strict ∧
    ValueType.isOrdered .double = true ∧
    2 ≤ bothZeros.length ∧
    (∀ v ∈ bothZeros, v = .null ∨ v.type = .double) ∧
    SameName "Min" "MIN" ∧
    ∃ min,
      (Moment.mk .epoch 0).library.get? "MIN" = some min ∧
      min bothZeros .strict =
        .ok (.double (Double.ofInt 0)) := by
  have hOffered : Policy.IsOffered .strict := .inl rfl
  have hOrdered : ValueType.isOrdered .double = true := rfl
  have hCount : 2 ≤ bothZeros.length := by decide
  have hTypes :
      ∀ v ∈ bothZeros, v = .null ∨ v.type = .double := by
    simp [bothZeros, Value.type, Conversion.signedZero]
  have hName : SameName "Min" "MIN" := by decide +kernel
  refine ⟨hOffered, hOrdered, hCount, hTypes, hName, ?_⟩
  rcases (extremes_leftmost ⟨.epoch, 0⟩ hOffered hOrdered
    hCount hTypes).1 _ hName with ⟨min, hFound, -, hPicks⟩
  rcases hPicks (by simp [bothZeros]) with
    ⟨v, hResult, before, after, hSplit, -, hFirst⟩
  refine ⟨min, hFound, ?_⟩
  cases before with
  | nil =>
      cases hSplit
      exact hResult
  | cons w before =>
      -- The first zero is `<=` to all, so none is before it.
      cases (List.cons.inj hSplit).1
      have hSome (x : Float) : Value.double x ≠ .null := by
        simp
      refine absurd ⟨hSome _, ?_⟩ (hFirst _ List.mem_cons_self)
      intro u hMem hValue
      simp only [bothZeros, List.mem_cons,
        List.not_mem_nil, or_false] at hMem
      rcases hMem with rfl | rfl | rfl | rfl
      · rfl
      · exact absurd rfl hValue
      · rfl
      · rfl

end Formula
