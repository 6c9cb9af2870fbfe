import Formula.Proofs.Policy.Reliability
import Formula.Proofs.Program.Emission
import Formula.Proofs.Program.Runs

/-
  The variables that a program refers to.

  The instructions that look a variable up name the variables
  of the expression, in their order.  If conversions and
  functions fail as operations on values do, then only these
  instructions find a variable missing.

  Key definitions include:
    * `Instruction.reference?`
    * `Failure.Misses`
    * `Outcome.Finds`
    * `Environment.IsOperational`

  Main statements:
    * `Expr.filterMap_reference?`
    * `Instruction.reference?_of_misses`
    * `exists_reference_of_misses`
-/

namespace Formula

------------------------------------------------------------
-- References
------------------------------------------------------------

/- The name that an instruction looks up as a variable. -/
def Instruction.reference?
    (i : Instruction) : Option String :=
  if i.opcode = .reference then some (i.name?.getD "")
  else none

namespace Expr

mutual

/- The references of an expression are its variables. -/
theorem filterMap_reference?
    (e : Expr) :
    e.postfixForm.filterMap Instruction.reference? =
      e.names := by
  cases e with
  | constant v p => rfl
  | reference name p => rfl
  | call name arguments p =>
      rw [postfixForm, List.filterMap_append,
        filterMap_reference?_forms arguments]
      exact List.append_nil _
  | unary op operand p =>
      rw [postfixForm, List.filterMap_append,
        filterMap_reference? operand]
      exact List.append_nil _
  | binary op lhs rhs p =>
      rw [postfixForm, List.filterMap_append,
        List.filterMap_append, filterMap_reference? lhs,
        filterMap_reference? rhs]
      exact List.append_nil _

theorem filterMap_reference?_forms
    (es : List Expr) :
    (postfixForms es).filterMap Instruction.reference? =
      namesOfAll es := by
  cases es with
  | nil => rfl
  | cons e es =>
      rw [postfixForms, List.filterMap_append,
        filterMap_reference? e, filterMap_reference?_forms es]
      rfl

end

end Expr

------------------------------------------------------------
-- Missing Variables
------------------------------------------------------------

/- A failure is that a variable was not found. -/
def Failure.Misses
    (f : Failure)
    (name : String) : Prop :=
  f.cause = .variableNotFound name

/- An outcome is not that a variable was not found. -/
def Outcome.Finds
    (name : String)
    (r : Outcome α) : Prop :=
  FailsOnly (¬ Failure.Misses · name) r

namespace Outcome

variable {name : String}

theorem finds_ok
    (a : α) :
    Finds name (.ok a) :=
  failsOnly_ok a

theorem finds_error
    {f : Failure}
    (hFailure : ¬ f.Misses name) :
    Finds name (.error f : Outcome α) :=
  failsOnly_error hFailure

theorem finds_bind
    {r : Outcome α}
    {k : α → Outcome β}
    (hFirst : r.Finds name)
    (hRest : ∀ a, (k a).Finds name) :
    (r >>= k).Finds name :=
  failsOnly_bind hFirst hRest

/- No operation on values finds a variable missing. -/
theorem IsOperational.finds
    {r : Outcome α}
    (hResult : r.IsOperational) :
    r.Finds name := by
  intro f hFailed hMissing
  have hFailure := hResult f hFailed
  rw [Failure.IsOperational, hMissing] at hFailure
  exact hFailure

end Outcome

/- Conversions and functions fail as operations do. -/
structure Environment.IsOperational
    (env : Environment) : Prop where
  policy : env.policy.IsOperational
  functions :
    ∀ name f, env.functionOf? name = some f →
      ∀ args, (f.call args env.policy).IsOperational

variable {env : Environment}
variable {name : String}

/- A failed look-up is for the name that has no value. -/
theorem Environment.eq_of_lookUp_misses
    {sought : String}
    {f : Failure}
    (hLookUp : env.lookUp sought = .error f)
    (hMissing : f.Misses name) :
    sought = name ∧ env.valueOf? name = none := by
  unfold lookUp at hLookUp
  split at hLookUp
  · cases hLookUp
  · rename_i hNone
    cases hLookUp
    cases hMissing
    exact ⟨rfl, hNone⟩

/- A function that is called finds no variable missing. -/
theorem Environment.finds_call
    (hOperational : env.IsOperational)
    (callee : String)
    (args : List Value) :
    (env.call callee args).Finds name := by
  unfold call
  split
  · rename_i f hFunction
    exact (hOperational.functions callee f hFunction args).finds
  · apply Outcome.finds_error
    intro hMissing
    cases hMissing

namespace ValueStack

theorem not_misses_underflow :
    ¬ underflow.Misses name := by
  intro hMissing
  cases hMissing

theorem finds_pop
    (s : ValueStack) :
    s.pop.Finds name := by
  cases s with
  | nil => exact Outcome.finds_error not_misses_underflow
  | cons v rest => exact Outcome.finds_ok _

theorem finds_popMany
    (s : ValueStack)
    (n : Nat) :
    (s.popMany n).Finds name := by
  unfold popMany
  split
  · exact Outcome.finds_ok _
  · exact Outcome.finds_error not_misses_underflow

end ValueStack

namespace Instruction

theorem finds_stepCall
    (hOperational : env.IsOperational)
    (callee : String)
    (s : ValueStack) :
    (stepCall env callee s).Finds name := by
  refine Outcome.finds_bind s.finds_pop fun ⟨count, s⟩ => ?_
  dsimp only
  split
  · apply Outcome.finds_error
    intro hMissing
    cases hMissing
  · refine Outcome.finds_bind (s.finds_popMany _)
      fun ⟨args, s⟩ => ?_
    refine Outcome.finds_bind ?_ fun v => Outcome.finds_ok _
    exact Environment.finds_call hOperational callee args

/- Only references find a variable missing. -/
theorem finds_step
    {i : Instruction}
    (hOperational : env.IsOperational)
    (hOther : i.opcode ≠ .reference)
    (s : ValueStack) :
    (i.step env s).Finds name := by
  unfold step
  split
  · exact Outcome.finds_ok _
  · rename_i hReference
    exact absurd hReference hOther
  · exact finds_stepCall hOperational _ s
  · refine Outcome.finds_bind s.finds_pop fun ⟨v, s⟩ => ?_
    refine Outcome.finds_bind ?_ fun r => Outcome.finds_ok _
    exact Outcome.IsOperational.finds
      (hOperational.policy.applyUnary _ v)
  · refine Outcome.finds_bind s.finds_pop fun ⟨w, s⟩ => ?_
    refine Outcome.finds_bind s.finds_pop fun ⟨v, s⟩ => ?_
    refine Outcome.finds_bind ?_ fun r => Outcome.finds_ok _
    exact Outcome.IsOperational.finds
      (hOperational.policy.applyBinary _ v w)

/- A name is found missing by a reference to it. -/
theorem reference?_of_misses
    {i : Instruction}
    {s : ValueStack}
    {f : Failure}
    (hOperational : env.IsOperational)
    (hStep : i.step env s = .error f)
    (hMissing : f.Misses name) :
    i.reference? = some name ∧ env.valueOf? name = none := by
  by_cases hReference : i.opcode = .reference
  · rw [step, hReference] at hStep
    cases hLookUp : env.lookUp (i.name?.getD "") with
    | ok v =>
        rw [hLookUp] at hStep
        cases hStep
    | error g =>
        rw [hLookUp] at hStep
        cases hStep
        rcases Environment.eq_of_lookUp_misses hLookUp hMissing
          with ⟨rfl, hNone⟩
        exact ⟨if_pos hReference, hNone⟩
  · exact absurd hMissing
      (finds_step hOperational hReference s f hStep)

end Instruction

/-
  If a program finds a variable missing, then one of its
  instructions refers to that, and it has no value.
-/
theorem exists_reference_of_misses
    {is : List Instruction}
    {f : Failure}
    (hOperational : env.IsOperational)
    (hRun : evaluate is env = .error f)
    (hMissing : f.Misses name) :
    (∃ i ∈ is, i.reference? = some name) ∧
      env.valueOf? name = none := by
  unfold evaluate at hRun
  cases hStack : Machine.run env is [] with
  | ok s =>
      rw [hStack] at hRun
      rcases Machine.exists_message_of_finish hRun with
        ⟨message, rfl⟩
      cases hMissing
  | error g =>
      rw [hStack] at hRun
      cases hRun
      rcases Machine.exists_failing_step env is [] f hStack with
        ⟨before, i, after, s, g, rfl, _, hStep, rfl⟩
      have hFound :=
        i.reference?_of_misses hOperational hStep hMissing
      refine ⟨⟨i, ?_, hFound.1⟩, hFound.2⟩
      exact List.mem_append_right _ List.mem_cons_self

------------------------------------------------------------
-- Compiled Expressions
------------------------------------------------------------

namespace Expr

/- An expression has an instruction. -/
theorem postfixForm_ne_nil
    (e : Expr) :
    e.postfixForm ≠ [] := by
  cases e with
  | constant v p => exact List.cons_ne_nil _ _
  | reference name p => exact List.cons_ne_nil _ _
  | call name arguments p =>
      exact List.append_ne_nil_of_right_ne_nil _
        (List.cons_ne_nil _ _)
  | unary op operand p =>
      exact List.append_ne_nil_of_right_ne_nil _
        (List.cons_ne_nil _ _)
  | binary op lhs rhs p =>
      exact List.append_ne_nil_of_right_ne_nil _
        (List.cons_ne_nil _ _)

end Expr

namespace Program

/- What a source compiles to is compiled from an expression. -/
theorem exists_ofExpr_of_parse
    {source : String}
    {p : Program}
    (hParse : parse source = .ok p) :
    ∃ ls e, Expr.ofLexemes? ls = .ok e ∧ ofExpr e = p := by
  rcases Outcome.bind_eq_ok_iff.mp hParse with
    ⟨ls, _, hProgram⟩
  exact ⟨ls, ofLexemes?_eq_ok_iff.mp hProgram⟩

/- A compiled expression refers to the names it lists. -/
theorem mem_names_of_reference?
    {e : Expr}
    {i : Instruction}
    (hMem : i ∈ (ofExpr e).instructions)
    (hReference : i.reference? = some name) :
    name ∈ (ofExpr e).names := by
  have hName :
      name ∈ e.postfixForm.filterMap Instruction.reference? :=
    List.mem_filterMap.mpr ⟨i, hMem, hReference⟩
  rw [Expr.filterMap_reference?] at hName
  exact List.mem_eraseDups.mpr hName

end Program

end Formula
