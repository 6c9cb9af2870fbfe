import Formula.Program.Machine
import Formula.Proofs.Outcome

/-
  Runs of the stack machine.

  A run splits wherever the program does, and it fails just
  where one of its instructions does.  Behind the last one only
  the number of values that are left can be wrong.

  Main statements:
    * `Machine.run_append`
    * `Machine.exists_failing_step`
    * `Machine.exists_message_of_finish`
-/

namespace Formula

namespace Machine

variable (env : Environment)

------------------------------------------------------------
-- Composition
------------------------------------------------------------

@[simp] theorem run_nil
    (s : ValueStack) :
    run env [] s = .ok s := rfl

theorem run_cons
    (i : Instruction)
    (is : List Instruction)
    (s : ValueStack) :
    run env (i :: is) s =
      (i.step env s).mapError (·.locate i.position) >>=
        run env is := rfl

/- A program in two parts runs one part after the other. -/
theorem run_append
    (is js : List Instruction)
    (s : ValueStack) :
    run env (is ++ js) s = run env is s >>= run env js := by
  induction is generalizing s with
  | nil => rfl
  | cons i is ih =>
      rw [List.cons_append, run_cons, run_cons]
      cases i.step env s with
      | error f => rfl
      | ok s' => exact ih s'

/- A single instruction runs as its step. -/
theorem run_singleton
    (i : Instruction)
    (s : ValueStack) :
    run env [i] s =
      (i.step env s).mapError (·.locate i.position) := by
  rw [run_cons]
  cases i.step env s <;> rfl

------------------------------------------------------------
-- Failure
------------------------------------------------------------

/-
  A run that fails has a first instruction that does.  Its
  failure is that of the run, with its position unless the
  failure had one.
-/
theorem exists_failing_step
    (is : List Instruction)
    (s : ValueStack)
    (f : Failure)
    (hRun : run env is s = .error f) :
    ∃ before i after s' g,
      is = before ++ i :: after ∧
        run env before s = .ok s' ∧
        i.step env s' = .error g ∧
        f = g.locate i.position := by
  induction is generalizing s with
  | nil => cases hRun
  | cons i is ih =>
      rw [run_cons] at hRun
      cases hStep : i.step env s with
      | error g =>
          rw [hStep] at hRun
          cases hRun
          exact ⟨[], i, is, s, g, rfl, rfl, hStep, rfl⟩
      | ok s₁ =>
          rw [hStep] at hRun
          rcases ih s₁ hRun with
            ⟨before, j, after, s', g, rfl, hBefore, hRest⟩
          refine ⟨i :: before, j, after, s', g, rfl, ?_, hRest⟩
          rw [run_cons, hStep]
          exact hBefore

/- To be left with another number of values is internal. -/
theorem exists_message_of_finish
    {s : ValueStack}
    {f : Failure}
    (hFinish : finish s = .error f) :
    ∃ message, f = (Cause.internal message).unplaced := by
  match s with
  | [] =>
      cases hFinish
      exact ⟨_, rfl⟩
  | [v] => cases hFinish
  | _ :: _ :: _ =>
      cases hFinish
      exact ⟨_, rfl⟩

end Machine

end Formula
