import Formula.Function.Standard
import Formula.Proofs.Policy.Correspondence

/-
  Standard functions depend on a policy through its
  conversions and its operators alone.

  A function uses a policy only to convert its arguments and to
  apply operators.  So under two policies that correspond, its
  calls do, whatever the correspondence is.

  Key definitions include:
    * `Correspondence.HoldsCall`
    * `Function.IsParametric`

  Main statements:
    * `Correspondence.bindCall`
    * `Moment.isParametric_of_mem_functions`
    * `Moment.isParametric_of_mem_library`
-/

namespace Formula

------------------------------------------------------------
-- Calls
------------------------------------------------------------

namespace Outcome

variable {ε ε' α β : Type}

/- Failures are mapped in every part of an outcome. -/
theorem mapError_bind
    (g : ε → ε')
    (r : Except ε α)
    (k : α → Except ε β) :
    (r >>= k).mapError g =
      r.mapError g >>= fun a => (k a).mapError g := by
  cases r <;> rfl

/- An operation fails in a call as it does by itself. -/
theorem failure_toCall
    (r : Outcome α) :
    r.toCall.mapError CallError.failure = r := by
  cases r <;> rfl

end Outcome

namespace Correspondence

variable (c : Correspondence)
variable {α β : Type}

/- Calls correspond when what they mean does. -/
def HoldsCall
    (r r' : Except CallError α) : Prop :=
  c.Holds (r.mapError CallError.failure)
    (r'.mapError CallError.failure)

theorem okCall
    (a : α) :
    c.HoldsCall (.ok a) (.ok a) :=
  c.ok a

theorem errorCall
    {f : CallError}
    (hFailure : f.failure.IsOperational) :
    c.HoldsCall (.error f : Except CallError α) (.error f) :=
  c.error hFailure

theorem bindCall
    {r r' : Except CallError α}
    {k k' : α → Except CallError β}
    (hFirst : c.HoldsCall r r')
    (hRest : ∀ a, c.HoldsCall (k a) (k' a)) :
    c.HoldsCall (r >>= k) (r' >>= k') := by
  unfold HoldsCall
  rw [Outcome.mapError_bind, Outcome.mapError_bind]
  exact c.bind hFirst hRest

/- Operations in calls correspond as they do by themselves. -/
theorem toCall
    {r r' : Outcome α}
    (hResult : c.Holds r r') :
    c.HoldsCall r.toCall r'.toCall := by
  unfold HoldsCall
  rw [Outcome.failure_toCall, Outcome.failure_toCall]
  exact hResult

/- A call that lacks an argument fails as an operation. -/
theorem argument
    (args : List Value)
    (i : Nat) :
    c.HoldsCall (argument args i) (Formula.argument args i) := by
  unfold Formula.argument
  split
  · exact c.okCall _
  · exact c.errorCall True.intro

------------------------------------------------------------
-- Lists
------------------------------------------------------------

/- Folds correspond when their steps do. -/
theorem foldlM
    {step step' : β → α → Outcome β}
    (hStep : ∀ b a, c.Holds (step b a) (step' b a))
    (as : List α)
    (b : β) :
    c.Holds (as.foldlM step b) (as.foldlM step' b) := by
  induction as generalizing b with
  | nil => exact c.ok b
  | cons a as ih =>
      rw [List.foldlM_cons, List.foldlM_cons]
      exact c.bind (hStep b a) ih

/- Treatments of all items correspond when those of one do. -/
theorem mapM
    {f f' : α → Outcome β}
    (hItem : ∀ a, c.Holds (f a) (f' a))
    (as : List α) :
    c.Holds (as.mapM f) (as.mapM f') := by
  induction as with
  | nil => exact c.ok []
  | cons a as ih =>
      rw [List.mapM_cons, List.mapM_cons]
      refine c.bind (hItem a) fun b => ?_
      exact c.bind ih fun bs => c.ok (b :: bs)

------------------------------------------------------------
-- Typed Arguments
------------------------------------------------------------

variable {p q : Conversion}
variable
  (hConvert :
    ∀ v t, c.Holds (p.convert v t) (q.convert v t))

include hConvert

theorem extract
    (v : Value)
    (target : ValueType)
    (payload : Value → Option α) :
    c.Holds (p.extract v target payload)
      (q.extract v target payload) := by
  refine c.bind (hConvert v target) fun w => ?_
  split
  · exact c.ok _
  · exact c.error (isOperational_noConversion _ _)

end Correspondence

/-
  Whatever the correspondence is, a function gives outcomes
  that are in it under policies that are.
-/
def Function.IsParametric
    (f : Function) : Prop :=
  ∀ (c : Correspondence) (p q : Policy),
    c.Corresponds p q →
      ∀ args, c.HoldsCall (f args p) (f args q)

namespace Function

/- A function that converts its first argument and goes on. -/
theorem isParametric_firstConverted
    (target : ValueType)
    (payload : Value → Option α)
    (k : List Value → α → CallResult)
    (hRest :
      ∀ (c : Correspondence) args a,
        c.HoldsCall (k args a) (k args a)) :
    IsParametric (fun args p => do
      let v ← argument args 0
      k args (← (p.extract v target payload).toCall)) := by
  intro c p q hPolicies args
  refine c.bindCall (c.argument args 0) fun v => ?_
  refine c.bindCall ?_ (hRest c args)
  exact c.toCall (c.extract hPolicies.convert v target payload)

------------------------------------------------------------
-- Numeric Functions
------------------------------------------------------------

theorem isParametric_real
    (g : Float → Float) :
    (real g).IsParametric :=
  isParametric_firstConverted .double Value.double?
    (fun _ x => .ok (.double (g x)))
    fun c _ _ => c.okCall _

theorem isParametric_abs : abs.IsParametric := by
  intro c p q hPolicies args
  refine c.bindCall (c.argument args 0) fun v => ?_
  split
  case h_4 =>
    refine c.bindCall ?_ fun x => c.okCall _
    exact c.toCall (c.extract hPolicies.convert _ .double _)
  all_goals exact c.okCall _

theorem isParametric_trunc : trunc.IsParametric :=
  isParametric_firstConverted .double Value.double?
    (fun _ x => .ok (.long (Double.toInt64 x)))
    fun c _ _ => c.okCall _

------------------------------------------------------------
-- Selection
------------------------------------------------------------

theorem isParametric_extreme
    {beaten : Policy → Value → Value → Outcome Value}
    (hBeaten :
      ∀ (c : Correspondence) (p q : Policy),
        c.Corresponds p q →
          ∀ v w, c.Holds (beaten p v w) (beaten q v w)) :
    (extreme beaten).IsParametric := by
  intro c p q hPolicies args
  refine c.bindCall (c.argument args 0) fun first => ?_
  refine c.toCall (c.foldlM ?_ _ _)
  intro best v
  refine c.bind (hBeaten c p q hPolicies best v) fun b => ?_
  split
  · exact c.ok v
  · exact c.ok best

theorem isParametric_min : min.IsParametric :=
  isParametric_extreme fun _ _ _ hPolicies =>
    hPolicies.applyBinary .more

theorem isParametric_max : max.IsParametric :=
  isParametric_extreme fun _ _ _ hPolicies =>
    hPolicies.applyBinary .less

theorem isParametric_sum : sum.IsParametric := by
  intro c p q hPolicies args
  refine c.bindCall (c.argument args 0) fun first => ?_
  exact c.toCall
    (c.foldlM (hPolicies.applyBinary .add) _ _)

theorem isParametric_choice : choice.IsParametric :=
  isParametric_firstConverted .boolean Value.boolean?
    (fun args condition =>
      argument args (if condition then 1 else 2))
    fun c args _ => c.argument args _

theorem isParametric_choose : choose.IsParametric := by
  intro c p q hPolicies args
  refine c.bindCall (c.argument args 0) fun v => ?_
  refine c.bindCall ?_ fun index => ?_
  · exact c.toCall (c.extract hPolicies.convert v .integer _)
  · dsimp only
    split
    · exact c.okCall _
    · exact c.errorCall True.intro

theorem isParametric_isEmpty : isEmpty.IsParametric := by
  intro c p q hPolicies args
  exact c.bindCall (c.argument args 0) fun v => c.okCall _

theorem isParametric_contains : contains.IsParametric := by
  intro c p q hPolicies args
  refine c.bindCall (c.argument args 0) fun whole => ?_
  split
  · exact c.okCall _
  · refine c.bindCall ?_ fun text => ?_
    · exact c.toCall (c.extract hPolicies.convert whole .string _)
    · refine c.bindCall (c.argument args 1) fun part => ?_
      refine c.bindCall ?_ fun _ => c.okCall _
      exact c.toCall (c.extract hPolicies.convert part .string _)

theorem isParametric_array : array.IsParametric :=
  fun c _ _ _ args => c.okCall (Value.array args)

theorem isParametric_always
    (v : Value) :
    (always v).IsParametric :=
  fun c _ _ _ _ => c.okCall v

------------------------------------------------------------
-- Dates and Spans
------------------------------------------------------------

theorem isOperational_spanOf
    (millis : Option Int64) :
    (spanOf millis).IsOperational := by
  cases millis with
  | some n => exact Outcome.failsOnly_ok _
  | none => exact Outcome.failsOnly_error True.intro

theorem isOperational_timestampOf
    (t : Option Timestamp) :
    (timestampOf t).IsOperational := by
  cases t with
  | some t => exact Outcome.failsOnly_ok _
  | none => exact Outcome.failsOnly_error True.intro

theorem isOperational_fieldWithin
    (name : String)
    (low high : Int)
    (n : Int32) :
    (fieldWithin name low high n).IsOperational := by
  unfold fieldWithin
  split
  · exact Outcome.failsOnly_ok _
  · exact Outcome.failsOnly_error True.intro

theorem isOperational_requireRange
    (name : String)
    (inRange : Bool) :
    (requireRange name inRange).IsOperational := by
  unfold requireRange
  split
  · exact Outcome.failsOnly_ok _
  · exact Outcome.failsOnly_error True.intro

/- The fields of a date are checked one after the other. -/
theorem isOperational_dateOf
    (fields : List Int32) :
    (dateOf fields).IsOperational := by
  unfold dateOf
  iterate 6
    refine Outcome.failsOnly_bind
      (isOperational_fieldWithin _ _ _ _) fun _ => ?_
  dsimp only
  iterate 6
    refine Outcome.failsOnly_bind
      (isOperational_requireRange _ _) fun _ => ?_
  exact isOperational_timestampOf _

theorem isParametric_timeSpan : timeSpan.IsParametric := by
  intro c p q hPolicies args
  apply c.toCall
  refine c.bind (c.mapM ?_ args) fun parts => ?_
  · exact fun v => c.extract hPolicies.convert v .long _
  · split
    · exact c.same _ (isOperational_spanOf _)
    · exact c.same _ (isOperational_spanOf _)
    · exact c.error True.intro

theorem isParametric_date : date.IsParametric := by
  intro c p q hPolicies args
  apply c.toCall
  split
  · refine c.bind (c.extract hPolicies.convert _ .long _) fun n => ?_
    exact c.same _ (isOperational_timestampOf _)
  · refine c.bind (c.mapM ?_ args) fun fields => ?_
    · exact fun v => c.extract hPolicies.convert v .integer _
    · exact c.same _ (isOperational_dateOf fields)

theorem isParametric_dayOfWeek : dayOfWeek.IsParametric :=
  isParametric_firstConverted .dateTime Value.dateTime?
    (fun _ t =>
      .ok (.integer (Int32.ofNat (Date.weekday t.dayNumber))))
    fun c _ _ => c.okCall _

end Function

------------------------------------------------------------
-- The Library
------------------------------------------------------------

theorem StandardFunction.isParametric_function
    {f : StandardFunction}
    (hBody : f.body.IsParametric) :
    f.function.IsParametric := by
  intro c p q hPolicies args
  unfold StandardFunction.function
  split
  · exact hBody c p q hPolicies args
  · exact c.errorCall True.intro

namespace Moment

/- Every function of the standard library is parametric. -/
theorem isParametric_of_mem_functions
    (m : Moment) :
    ∀ f ∈ m.functions, f.body.IsParametric := by
  simp only [functions, List.forall_mem_cons]
  repeat' apply And.intro
  all_goals
    first
      | exact Function.isParametric_always _
      | exact Function.isParametric_real _
      | exact Function.isParametric_abs
      | exact Function.isParametric_trunc
      | exact Function.isParametric_min
      | exact Function.isParametric_max
      | exact Function.isParametric_sum
      | exact Function.isParametric_choice
      | exact Function.isParametric_choose
      | exact Function.isParametric_isEmpty
      | exact Function.isParametric_contains
      | exact Function.isParametric_array
      | exact Function.isParametric_timeSpan
      | exact Function.isParametric_date
      | exact Function.isParametric_dayOfWeek
      | exact List.forall_mem_nil _

theorem isParametric_of_mem_library
    (m : Moment)
    {e : Entry Function}
    (hEntry : e ∈ m.library.entries) :
    e.content.IsParametric := by
  rcases List.mem_map.mp hEntry with ⟨f, hMember, rfl⟩
  exact StandardFunction.isParametric_function
    (m.isParametric_of_mem_functions f hMember)

end Moment

end Formula
