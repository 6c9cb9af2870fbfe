import Formula.Function.Standard
import Formula.Proofs.Directory
import Formula.Proofs.Function.Correspondence
import Formula.Proofs.Operator.Indexing

/-
  Standard functions do not break down.

  A call breaks down where an argument is read that is not
  there.  A standard function reads no more arguments than the
  least number that its arity allows, or asks for those beyond
  without relying on them.  So a call gives a value or fails
  with a reason, whatever the policy converts, and there is
  nothing to recover from.

  Key definitions include:
    * `CallError.IsFailure`
    * `Arity.least`
    * `Function.NeedsOnly`

  Main statements:
    * `Function.needsOnly_of_first`
    * `Moment.needsOnly_of_mem_functions`
    * `Moment.calls_are_safe`
-/

namespace Formula

open Outcome

------------------------------------------------------------
-- Calls That Do Not Break Down
------------------------------------------------------------

/- A call did not break down, but failed with a reason. -/
def CallError.IsFailure : CallError → Prop
  | .failed _ => True
  | .brokeDown _ => False

/- An operation does not break a call down. -/
theorem safe_toCall
    (r : Outcome α) :
    FailsOnly CallError.IsFailure r.toCall := by
  cases r with
  | ok a => exact failsOnly_ok a
  | error f => exact failsOnly_error True.intro

/- A call that does not break down is an operation. -/
theorem exists_eq_toCall
    {r : Except CallError α}
    (hSafe : FailsOnly CallError.IsFailure r) :
    ∃ s : Outcome α, r = s.toCall := by
  cases r with
  | ok a => exact ⟨.ok a, rfl⟩
  | error e =>
      cases e with
      | failed f => exact ⟨.error f, rfl⟩
      | brokeDown reason =>
          exact (hSafe (.brokeDown reason) rfl).elim

/- An argument that is there is read. -/
theorem safe_argument
    {args : List Value}
    {i : Nat}
    (hInside : i < args.length) :
    FailsOnly CallError.IsFailure (argument args i) := by
  rw [argument, List.getElem?_eq_getElem hInside]
  exact failsOnly_ok _

/-
  The least number of arguments that an arity allows.  It is
  taken as zero if no number is allowed.
-/
def Arity.least : Arity → Nat
  | .exactly n => n
  | .atLeast n => n
  | .between low _ => low
  | .oneOf numbers => numbers.min?.getD 0
  | .any => 0

theorem Arity.least_le_of_allows
    {a : Arity}
    {count : Nat}
    (hAllowed : a.allows count = true) :
    a.least ≤ count := by
  cases a with
  | exactly n => exact Nat.le_of_eq (eq_of_beq hAllowed).symm
  | atLeast n => exact of_decide_eq_true hAllowed
  | between low high =>
      exact of_decide_eq_true (Bool.and_eq_true_iff.mp hAllowed).1
  | oneOf numbers =>
      exact List.min?_getD_le_of_mem
        (List.contains_iff_mem.mp hAllowed)
  | any => exact Nat.zero_le count

------------------------------------------------------------
-- Functions
------------------------------------------------------------

namespace Function

/-
  A function that is given some number of arguments, or more,
  does not break down under any policy.
-/
def NeedsOnly
    (f : Function)
    (n : Nat) : Prop :=
  ∀ args p, n ≤ args.length →
    FailsOnly CallError.IsFailure (f args p)

variable {f : Function}
variable {n : Nat}

theorem NeedsOnly.mono
    (hNeeds : f.NeedsOnly n)
    {m : Nat}
    (hMore : n ≤ m) :
    f.NeedsOnly m :=
  fun args p hEnough =>
    hNeeds args p (Nat.le_trans hMore hEnough)

/- A function that reads its first argument needs that one. -/
theorem needsOnly_of_first
    (hSome : 0 < n)
    {k : List Value → Policy → Value → CallResult}
    (hRest : ∀ args p v, n ≤ args.length →
      FailsOnly CallError.IsFailure (k args p v)) :
    NeedsOnly (fun args p => argument args 0 >>= k args p) n :=
  fun args p hEnough =>
    failsOnly_bind
      (safe_argument (Nat.lt_of_lt_of_le hSome hEnough))
      fun v => hRest args p v hEnough

/- A function that converts its first argument and goes on. -/
theorem needsOnly_firstConverted
    (hSome : 0 < n)
    (target : ValueType)
    (payload : Value → Option α)
    (k : List Value → α → CallResult)
    (hRest : ∀ args a, n ≤ args.length →
      FailsOnly CallError.IsFailure (k args a)) :
    NeedsOnly (fun args p => do
      let v ← argument args 0
      k args (← (p.extract v target payload).toCall)) n :=
  needsOnly_of_first hSome fun args _ _ hEnough =>
    failsOnly_bind (safe_toCall _)
      fun a => hRest args a hEnough

/- A function that only applies operations needs nothing. -/
theorem needsOnly_toCall
    (operate : List Value → Policy → Outcome Value) :
    NeedsOnly (fun args p => (operate args p).toCall) 0 :=
  fun args p _ => safe_toCall (operate args p)

theorem needsOnly_always
    (v : Value) :
    (always v).NeedsOnly 0 :=
  fun _ _ _ => failsOnly_ok v

theorem needsOnly_array :
    array.NeedsOnly 0 :=
  fun args _ _ => failsOnly_ok (Value.array args)

theorem needsOnly_real
    (g : Float → Float) :
    (real g).NeedsOnly 1 :=
  needsOnly_firstConverted Nat.one_pos .double Value.double?
    (fun _ x => .ok (.double (g x)))
    fun _ _ _ => failsOnly_ok _

theorem needsOnly_trunc :
    trunc.NeedsOnly 1 :=
  needsOnly_firstConverted Nat.one_pos .double Value.double?
    (fun _ x => .ok (.long (Double.toInt64 x)))
    fun _ _ _ => failsOnly_ok _

theorem needsOnly_dayOfWeek :
    dayOfWeek.NeedsOnly 1 :=
  needsOnly_firstConverted Nat.one_pos .dateTime
    Value.dateTime?
    (fun _ t =>
      .ok (.integer (Int32.ofNat (Date.weekday t.dayNumber))))
    fun _ _ _ => failsOnly_ok _

theorem needsOnly_abs :
    abs.NeedsOnly 1 := by
  apply needsOnly_of_first Nat.one_pos
  intro args p v _
  split
  case h_4 =>
    exact failsOnly_bind (safe_toCall _)
      fun x => failsOnly_ok _
  all_goals exact failsOnly_ok _

theorem needsOnly_isEmpty :
    isEmpty.NeedsOnly 1 :=
  needsOnly_of_first Nat.one_pos
    fun _ _ _ _ => failsOnly_ok _

/- The arguments behind the first one are gone through. -/
theorem needsOnly_extreme
    (beaten : Policy → Value → Value → Outcome Value) :
    (extreme beaten).NeedsOnly 1 :=
  needsOnly_of_first Nat.one_pos
    fun _ _ _ _ => safe_toCall _

theorem needsOnly_sum :
    sum.NeedsOnly 1 :=
  needsOnly_of_first Nat.one_pos
    fun _ _ _ _ => safe_toCall _

/- Both arguments behind the condition are there. -/
theorem needsOnly_choice :
    choice.NeedsOnly 3 := by
  refine needsOnly_firstConverted (Nat.succ_pos 2) .boolean
    Value.boolean?
    (fun args condition =>
      argument args (if condition then 1 else 2)) ?_
  intro args condition hEnough
  apply safe_argument
  cases condition with
  | true => exact Nat.lt_of_lt_of_le (by decide) hEnough
  | false => exact Nat.lt_of_lt_of_le (by decide) hEnough

/- The argument with a number is asked for, and may lack. -/
theorem needsOnly_choose :
    choose.NeedsOnly 1 := by
  apply needsOnly_of_first Nat.one_pos
  intro args p v _
  refine failsOnly_bind (safe_toCall _) fun index => ?_
  dsimp only
  split
  · exact failsOnly_ok _
  · exact failsOnly_error True.intro

/- A text is looked for only in what has content. -/
theorem needsOnly_contains :
    contains.NeedsOnly 2 := by
  apply needsOnly_of_first Nat.two_pos
  intro args p whole hEnough
  split
  · exact failsOnly_ok _
  · refine failsOnly_bind (safe_toCall _) fun text => ?_
    refine failsOnly_bind (safe_argument hEnough) fun part => ?_
    exact failsOnly_bind (safe_toCall _) fun _ => failsOnly_ok _

end Function

------------------------------------------------------------
-- The Library
------------------------------------------------------------

namespace Moment

/-
  No function reads an argument beyond the least number that
  its arity allows and relies on it.
-/
theorem needsOnly_of_mem_functions
    (m : Moment) :
    ∀ f ∈ m.functions, f.body.NeedsOnly f.arity.least := by
  have hExtreme
      (beaten : Policy → Value → Value → Outcome Value) :
      (Function.extreme beaten).NeedsOnly 2 :=
    (Function.needsOnly_extreme beaten).mono (by decide)
  simp only [functions, List.forall_mem_cons]
  repeat' apply And.intro
  all_goals
    first
      | exact Function.needsOnly_always _
      | exact Function.needsOnly_real _
      | exact Function.needsOnly_abs
      | exact Function.needsOnly_trunc
      | exact hExtreme _
      | exact Function.needsOnly_sum.mono (by decide)
      | exact Function.needsOnly_choice
      | exact Function.needsOnly_choose.mono (by decide)
      | exact Function.needsOnly_isEmpty
      | exact Function.needsOnly_contains
      | exact Function.needsOnly_array
      | exact (Function.needsOnly_toCall _).mono (Nat.zero_le _)
      | exact Function.needsOnly_dayOfWeek
      | exact List.forall_mem_nil _

/- A call of a standard function is an operation on values. -/
theorem exists_outcome_of_mem_functions
    {m : Moment}
    {f : StandardFunction}
    (hMem : f ∈ m.functions)
    (args : List Value)
    (p : Policy) :
    ∃ r : Outcome Value, f.function args p = r.toCall := by
  apply exists_eq_toCall
  unfold StandardFunction.function
  split
  · rename_i hAllowed
    exact m.needsOnly_of_mem_functions f hMem args p
      (Arity.least_le_of_allows hAllowed)
  · exact failsOnly_error True.intro

/- What is found in the library is a standard function. -/
theorem exists_function_of_get?
    {m : Moment}
    {name : String}
    {f : Function}
    (hFound : m.library.get? name = some f) :
    ∃ g ∈ m.functions, g.function = f := by
  rcases Directory.exists_mem_of_get? hFound with
    ⟨e, hEntry, hContent⟩
  rcases List.mem_map.mp hEntry with ⟨g, hMem, rfl⟩
  exact ⟨g, hMem, hContent⟩

/-
  A standard function lets no fewer arguments through than it
  needs.  So whatever it is called with, under any policy, it
  gives a value or fails with a reason, and what the caller
  gets is that, with nothing to recover from.
-/
theorem calls_are_safe
    (m : Moment) :
    (∀ f ∈ m.functions, f.body.NeedsOnly f.arity.least ∧
      ∀ count, f.arity.allows count = true →
        f.arity.least ≤ count) ∧
    ∀ name f, m.library.get? name = some f →
      ∀ args p, ∃ r : Outcome Value,
        f args p = r.toCall ∧ f.call args p = r := by
  constructor
  · intro f hMem
    exact ⟨m.needsOnly_of_mem_functions f hMem,
      fun count => Arity.least_le_of_allows⟩
  · intro name f hFound args p
    rcases exists_function_of_get? hFound with ⟨g, hMem, rfl⟩
    rcases exists_outcome_of_mem_functions hMem args p with
      ⟨r, hCall⟩
    refine ⟨r, hCall, ?_⟩
    rw [Function.call, hCall]
    exact failure_toCall r

/- A policy that makes null of every value. -/
def nullifying : Policy :=
  Conversion.policy ⟨fun _ _ => .ok .null⟩

/- An index that is not converted to a number is refused. -/
theorem calls_are_safe_nullifying :
    (Moment.mk .epoch 0).library.get? "Choose" =
      some chooser.function ∧
    ∃ r : Outcome Value,
      chooser.function [.integer 9, .null, .null]
        nullifying = r.toCall ∧
      r = .error (noConversion .integer .integer) := by
  have hFound := get?_chooser ⟨.epoch, 0⟩
  have hRefused :
      chooser.function.call [.integer 9, .null, .null]
        nullifying = .error (noConversion .integer .integer) :=
    rfl
  rcases (calls_are_safe ⟨.epoch, 0⟩).2 _ _ hFound
    [.integer 9, .null, .null] nullifying with
    ⟨r, hCall, hResult⟩
  exact ⟨hFound, r, hCall, hResult.symm.trans hRefused⟩

end Moment

end Formula
