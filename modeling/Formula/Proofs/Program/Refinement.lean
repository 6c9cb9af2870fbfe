import Formula.Program.Machine
import Formula.Proofs.Function.Refinement

/-
  Programs refine when the policy does.

  What a program computes under the strict policy it computes
  under the permissive one too, be it well formed or not.

  Main statements:
    * `Instruction.refines_step`
    * `Machine.refines_run`
    * `evaluate_permissive_of_strict`
-/

namespace Formula

open Outcome

variable {p q : Policy}
variable {valueOf? : String → Option Value}
variable {functionOf? : String → Option Function}

------------------------------------------------------------
-- Steps
------------------------------------------------------------

theorem Environment.refines_call
    (hPolicy : p.Refines q)
    (hFunctions :
      ∀ name f, functionOf? name = some f → f.IsMonotone)
    (name : String)
    (args : List Value) :
    Refines
      (call ⟨valueOf?, functionOf?, p⟩ name args)
      (call ⟨valueOf?, functionOf?, q⟩ name args) := by
  unfold call
  cases hName : functionOf? name with
  | none =>
      simp only [hName]
      exact refines_refl _
  | some f =>
      simp only [hName]
      exact refines_mapError _
        (hFunctions name f hName p q hPolicy args)

theorem Instruction.refines_step
    (hPolicy : p.Refines q)
    (hFunctions :
      ∀ name f, functionOf? name = some f → f.IsMonotone)
    (i : Instruction)
    (s : ValueStack) :
    Refines
      (i.step ⟨valueOf?, functionOf?, p⟩ s)
      (i.step ⟨valueOf?, functionOf?, q⟩ s) := by
  unfold step
  split
  · exact refines_refl _
  · exact refines_refl _
  · refine refines_bind (refines_refl _) fun ⟨count, s⟩ => ?_
    dsimp only
    cases argumentCount? count with
    | none => exact refines_refl _
    | some n =>
        refine refines_bind (refines_refl _)
          fun ⟨args, s⟩ => ?_
        refine refines_bind ?_ fun v => refines_refl _
        exact Environment.refines_call hPolicy hFunctions
          _ args
  · refine refines_bind (refines_refl _) fun ⟨v, s⟩ => ?_
    refine refines_bind ?_ fun r => refines_refl _
    exact hPolicy.applyUnary _ v
  · refine refines_bind (refines_refl _) fun ⟨w, s⟩ => ?_
    refine refines_bind (refines_refl _) fun ⟨v, s⟩ => ?_
    refine refines_bind ?_ fun r => refines_refl _
    exact hPolicy.applyBinary _ v w

------------------------------------------------------------
-- Runs
------------------------------------------------------------

theorem Machine.refines_run
    (hPolicy : p.Refines q)
    (hFunctions :
      ∀ name f, functionOf? name = some f → f.IsMonotone)
    (is : List Instruction)
    (s : ValueStack) :
    Refines
      (run ⟨valueOf?, functionOf?, p⟩ is s)
      (run ⟨valueOf?, functionOf?, q⟩ is s) := by
  induction is generalizing s with
  | nil => exact refines_refl _
  | cons i is ih =>
      refine refines_bind (refines_mapError _ ?_) ih
      exact Instruction.refines_step hPolicy hFunctions i s

/-
  What the strict policy computes with the library at one
  moment, the permissive policy computes at any moment.
-/
theorem evaluate_permissive_of_strict
    (m n : Moment)
    (valueOf? : String → Option Value)
    (is : List Instruction)
    (v : Value)
    (hStrict :
      evaluate is ⟨valueOf?, m.timeless.get?, .strict⟩ =
        .ok v) :
    evaluate is ⟨valueOf?, n.timeless.get?, .permissive⟩ =
      .ok v := by
  rw [n.timeless_eq m]
  refine refines_bind ?_ (fun s => refines_refl _) v hStrict
  exact Machine.refines_run Policy.strict_refines_permissive
    (fun _ _ hName => m.isMonotone_timeless hName) is []

/- The greater of two numbers, one of which is widened. -/
theorem evaluate_permissive_of_strict_greatest :
    evaluate
        [ .reference "x" ⟨1, 5⟩,
          .constant (.integer 7) ⟨1, 8⟩,
          .constant (.integer 2) ⟨1, 1⟩,
          .call "max" ⟨1, 1⟩ ]
        ⟨fun _ => some (.long 5),
          (Moment.timeless ⟨.epoch, 0⟩).get?, .strict⟩ =
      .ok (.integer 7) ∧
    evaluate
        [ .reference "x" ⟨1, 5⟩,
          .constant (.integer 7) ⟨1, 8⟩,
          .constant (.integer 2) ⟨1, 1⟩,
          .call "max" ⟨1, 1⟩ ]
        ⟨fun _ => some (.long 5),
          (Moment.timeless ⟨.epoch, 1⟩).get?, .permissive⟩ =
      .ok (.integer 7) := by
  constructor
  · rfl
  · exact evaluate_permissive_of_strict
      ⟨.epoch, 0⟩ ⟨.epoch, 1⟩ _ _ _ rfl

end Formula
