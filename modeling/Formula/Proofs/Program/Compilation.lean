import Formula.Policy.Strict
import Formula.Program.Basic
import Formula.Proofs.Program.Meaning
import Formula.Proofs.Program.Runs

/-
  Compiled expressions compute what expressions mean.

  The postfix form of an expression leaves the stack below as
  it is and puts the value of the expression on top, or fails
  as the expression does.  That of several expressions puts
  all values there, the last one on top.

  Main statements:
    * `Instruction.stepCall_counted`
    * `Expr.run_postfixForm`
    * `Expr.evaluate_postfixForm`
-/

namespace Formula

------------------------------------------------------------
-- Meanings
------------------------------------------------------------

/- Operators are applied as they are meant. -/
theorem BinaryOp.meaning_eq_applyBinary
    (p : Policy)
    (op : BinaryOp)
    (lhs rhs : Value) :
    op.meaning p lhs rhs = p.applyBinary op lhs rhs := by
  cases op with
  | isNotIn =>
      exact (Outcome.map_eq_bind _ _).symm
  | _ => rfl

/- Functions are called as they are meant. -/
theorem Function.meaning_eq_call
    (p : Policy)
    (f : Function)
    (args : List Value) :
    f.meaning p args = f.call args p := by
  unfold Function.meaning Function.call
  rcases f args p with (g | reason) | v
  · rfl
  · cases reason <;> rfl
  · rfl

namespace Expr

variable (env : Environment)

theorem value_reference
    (name : String)
    (p : Position) :
    value env (.reference name p) =
      (env.lookUp name).mapError (·.locate p) := by
  unfold value Environment.lookUp
  cases env.valueOf? name <;> rfl

theorem value_call
    (name : String)
    (args : List Expr)
    (p : Position) :
    value env (.call name args p) =
      values env args >>= fun vs =>
        (env.call name vs).mapError (·.locate p) := by
  unfold value Environment.call
  cases env.functionOf? name with
  | none => rfl
  | some f =>
      simp only [Function.meaning_eq_call]

theorem value_binary
    (op : BinaryOp)
    (lhs rhs : Expr)
    (p : Position) :
    value env (.binary op lhs rhs p) =
      value env lhs >>= fun v =>
        value env rhs >>= fun w =>
          (env.policy.applyBinary op v w).mapError
            (·.locate p) := by
  simp only [value, BinaryOp.meaning_eq_applyBinary]

/- Every expression of several has a value of its own. -/
theorem length_of_values_eq_ok
    {es : List Expr}
    {vs : List Value}
    (hValues : values env es = .ok vs) :
    vs.length = es.length := by
  induction es generalizing vs with
  | nil =>
      cases hValues
      rfl
  | cons e es ih =>
      simp only [values, Outcome.bind_eq_ok_iff] at hValues
      rcases hValues with ⟨v, _, ws, hRest, hCons⟩
      cases hCons
      simp [ih hRest]

end Expr

------------------------------------------------------------
-- Steps
------------------------------------------------------------

/- A number of arguments that can be counted is announced. -/
theorem argumentCount?_ofNat
    {n : Nat}
    (hCount : n ≤ maxCount) :
    argumentCount? (.integer (Int32.ofNat n)) = some n := by
  have hFits : n < 2 ^ 31 := by
    unfold maxCount at hCount
    omega
  have hNonneg : 0 ≤ Int32.ofNat n := by
    rw [Int32.le_iff_toInt_le, Int32.toInt_ofNat_of_lt hFits]
    simp
  rw [argumentCount?, if_pos hNonneg,
    Int32.toNatClampNeg_ofNat_of_lt hFits]

namespace Instruction

variable (env : Environment)
variable (p : Position)
variable (s : ValueStack)

@[simp] theorem step_constant
    (v : Value) :
    (constant v p).step env s = .ok (s.push v) := rfl

@[simp] theorem step_reference
    (name : String) :
    (reference name p).step env s =
      (env.lookUp name).map s.push :=
  (Outcome.map_eq_bind _ _).symm

@[simp] theorem step_call
    (name : String) :
    (call name p).step env s = stepCall env name s := rfl

@[simp] theorem step_unary
    (op : UnaryOp)
    (v : Value) :
    (unary op p).step env (v :: s) =
      (env.policy.applyUnary op v).map s.push :=
  (Outcome.map_eq_bind _ _).symm

@[simp] theorem step_binary
    (op : BinaryOp)
    (v w : Value) :
    (binary op p).step env (w :: v :: s) =
      (env.policy.applyBinary op v w).map s.push :=
  (Outcome.map_eq_bind _ _).symm

/-
  A call takes as many values as it is told, and hands them
  over in the order they came in.
-/
theorem stepCall_counted
    (name : String)
    (vs : List Value)
    (hCount : vs.length ≤ maxCount) :
    stepCall env name
        (.integer (Int32.ofNat vs.length) ::
          (vs.reverse ++ s)) =
      (env.call name vs).map s.push := by
  have hMany :
      ValueStack.popMany (vs.reverse ++ s) vs.length =
        .ok (vs, s) := by
    simp [ValueStack.popMany]
  simp only [stepCall, ValueStack.pop, Outcome.ok_bind,
    argumentCount?_ofNat hCount, hMany]
  exact (Outcome.map_eq_bind _ _).symm

end Instruction

------------------------------------------------------------
-- Simulation
------------------------------------------------------------

namespace Expr

variable (env : Environment)

open Machine

mutual

/-
  A compiled expression computes its value on top of any stack.
-/
theorem run_postfixForm
    (e : Expr)
    (hCount : e.Countable)
    (s : ValueStack) :
    run env e.postfixForm s = (e.value env).map s.push := by
  cases e with
  | constant v p => rfl
  | reference name p =>
      rw [postfixForm, run_singleton, value_reference,
        Instruction.step_reference, Outcome.mapError_map]
      rfl
  | call name args p =>
      rcases hCount with ⟨hLength, hArgs⟩
      rw [postfixForm, run_append,
        run_postfixForms args hArgs, value_call]
      cases hValues : values env args with
      | error f => rfl
      | ok vs =>
          have hSame := length_of_values_eq_ok env hValues
          rw [← hSame] at hLength ⊢
          rw [Outcome.ok_map, Outcome.ok_bind, run_cons,
            Instruction.step_constant, Outcome.ok_mapError,
            Outcome.ok_bind, run_singleton,
            Instruction.step_call, ValueStack.push,
            Instruction.stepCall_counted env s name vs hLength,
            Outcome.mapError_map, Outcome.ok_bind]
          rfl
  | unary op e p =>
      rw [postfixForm, run_append, run_postfixForm e hCount,
        value]
      cases e.value env with
      | error f => rfl
      | ok v =>
          rw [Outcome.ok_map, Outcome.ok_bind, Outcome.ok_bind,
            run_singleton, ValueStack.push,
            Instruction.step_unary, Outcome.mapError_map]
          rfl
  | binary op lhs rhs p =>
      rcases hCount with ⟨hLeft, hRight⟩
      rw [postfixForm, run_append, run_append,
        run_postfixForm lhs hLeft, value_binary]
      cases lhs.value env with
      | error f => rfl
      | ok v =>
          rw [Outcome.ok_map, Outcome.ok_bind, Outcome.ok_bind,
            run_postfixForm rhs hRight]
          cases rhs.value env with
          | error f => rfl
          | ok w =>
              rw [Outcome.ok_map, Outcome.ok_bind,
                Outcome.ok_bind, run_singleton,
                ValueStack.push, ValueStack.push,
                Instruction.step_binary, Outcome.mapError_map]
              rfl

/-
  Several compiled expressions compute their values on top of
  any stack.
-/
theorem run_postfixForms
    (es : List Expr)
    (hCount : AllCountable es)
    (s : ValueStack) :
    run env (postfixForms es) s =
      (values env es).map fun vs => vs.reverse ++ s := by
  cases es with
  | nil => rfl
  | cons e es =>
      rcases hCount with ⟨hFirst, hRest⟩
      rw [postfixForms, run_append, run_postfixForm e hFirst,
        values]
      cases e.value env with
      | error f => rfl
      | ok v =>
          rw [Outcome.ok_map, Outcome.ok_bind, Outcome.ok_bind,
            run_postfixForms es hRest]
          cases values env es with
          | error f => rfl
          | ok vs => simp [ValueStack.push]

end

/-
  The only value left by a compiled expression is its result.
-/
theorem evaluate_eq_value
    (e : Expr)
    (hCount : e.Countable) :
    evaluate e.postfixForm env = e.value env := by
  rw [evaluate, run_postfixForm env e hCount]
  cases e.value env <;> rfl

/-
  Running a compiled expression gives what the expression
  means.  A failure is that of the first instruction that
  fails, at its position unless the failure had one.
-/
theorem evaluate_postfixForm
    (e : Expr)
    (hCount : e.Countable) :
    evaluate e.postfixForm env = e.value env ∧
      ∀ f, evaluate e.postfixForm env = .error f →
        ∃ before i after s g,
          e.postfixForm = before ++ i :: after ∧
            run env before [] = .ok s ∧
            i.step env s = .error g ∧
            f = g.locate i.position := by
  constructor
  · exact evaluate_eq_value env e hCount
  · intro f hFails
    apply exists_failing_step
    rw [evaluate_eq_value env e hCount] at hFails
    rw [run_postfixForm env e hCount, hFails]
    rfl

/- The expression `x NOT IN f(1)`. -/
def membership : Expr :=
  .binary .isNotIn
    (.reference "x" ⟨1, 1⟩)
    (.call "f" [.constant (.integer 1) ⟨1, 12⟩] ⟨1, 10⟩)
    ⟨1, 3⟩

/- An environment in which all functions break down. -/
def brokenLibrary : Environment where
  valueOf? := fun _ => some (.integer 2)
  functionOf? := fun _ => some fun _ _ =>
    .error (.brokeDown (some "no data"))
  policy := .strict

/- A breakdown is reported where the function is called. -/
theorem evaluate_postfixForm_membership :
    membership.Countable ∧
      evaluate membership.postfixForm brokenLibrary =
        .error ⟨.calculation "no data", some ⟨1, 10⟩⟩ ∧
      ∃ before i after s g,
        membership.postfixForm = before ++ i :: after ∧
          run brokenLibrary before [] = .ok s ∧
          i.step brokenLibrary s = .error g ∧
          ⟨.calculation "no data", some ⟨1, 10⟩⟩ =
            g.locate i.position := by
  have hCount : membership.Countable :=
    ⟨trivial, by decide, trivial, trivial⟩
  rcases evaluate_postfixForm brokenLibrary membership hCount
    with ⟨hValue, hFails⟩
  exact ⟨hCount, hValue, hFails _ hValue⟩

end Expr

end Formula
