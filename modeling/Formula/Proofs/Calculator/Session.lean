import Formula.Proofs.Calculator.Expression

/-
  Whole sessions with a calculator.

  Whatever is done with a calculator, in whatever order, and
  whether it works or not, the program of the calculator is
  always the one that its source compiles to.

  Key definitions include:
    * `Calculator.Action`
    * `Calculator.perform`
    * `Calculator.IsCompiled`

  Main statements:
    * `Calculator.isCompiled_perform`
    * `Calculator.isCompiled_performAll`
    * `Calculator.compiled_performAll`
-/

namespace Formula

namespace Calculator

------------------------------------------------------------
-- Sessions
------------------------------------------------------------

/-
  What is done with a calculator.  It is given an expression,
  it is replaced by a standard one for an expression, or its
  policy, variables or functions are set.
-/
inductive Action where
  | expression (source : String)
  | restart (moment : Moment) (source : String)
  | strictness (s : Strictness)
  | bindings (bindings : Directory Value)
  | functions (functions : Directory Function)

/-
  The calculator after an action.  An expression that is not
  taken leaves behind what it left; one for which there is no
  new calculator leaves the old one.
-/
def perform
    (k : Calculator)
    (a : Action) : Calculator :=
  match a with
  | .expression source =>
      match (takeExpression source).run k with
      | .ok _ after => after
      | .error _ after => after
  | .restart moment source =>
      match ofExpression? moment source with
      | .ok fresh => fresh
      | .error _ => k
  | .strictness s => k.setStrictness s
  | .bindings bindings => k.setBindings bindings
  | .functions functions => k.setFunctions functions

/- The calculator after some actions, one after the other. -/
def performAll
    (k : Calculator)
    (actions : List Action) : Calculator :=
  actions.foldl perform k

------------------------------------------------------------
-- Compiled Sources
------------------------------------------------------------

/- The program is the one that the source compiles to. -/
def IsCompiled
    (k : Calculator) : Prop :=
  compile k.source = .ok k.program

theorem isCompiled_new
    (m : Moment)
    (settings : Settings) :
    (new m settings).IsCompiled :=
  rfl

/- An expression that is taken is compiled. -/
theorem isCompiled_of_setExpression
    {k after : Calculator}
    {source : String}
    (hTaken : k.setExpression source = .ok after) :
    after.IsCompiled := by
  unfold setExpression at hTaken
  cases hCompile : compile source with
  | error e =>
      rw [run_takeExpression_of_error hCompile] at hTaken
      cases hTaken
  | ok p =>
      rw [run_takeExpression_of_ok hCompile] at hTaken
      cases hTaken
      exact hCompile

/- An action leaves source and program in step. -/
theorem isCompiled_perform
    {k : Calculator}
    (hCompiled : k.IsCompiled)
    (a : Action) :
    (k.perform a).IsCompiled := by
  cases a with
  | expression source =>
      dsimp only [perform]
      cases hCompile : compile source with
      | error e =>
          rw [run_takeExpression_of_error hCompile]
          exact hCompiled
      | ok p =>
          rw [run_takeExpression_of_ok hCompile]
          exact hCompile
  | restart moment source =>
      dsimp only [perform]
      split
      · rename_i fresh hFresh
        exact isCompiled_of_setExpression hFresh
      · exact hCompiled
  | strictness s => exact hCompiled
  | bindings bindings => exact hCompiled
  | functions functions => exact hCompiled

theorem isCompiled_performAll
    {k : Calculator}
    (hCompiled : k.IsCompiled)
    (actions : List Action) :
    (k.performAll actions).IsCompiled := by
  induction actions generalizing k with
  | nil => exact hCompiled
  | cons a actions ih => exact ih (isCompiled_perform hCompiled a)

/- A source that is parsed has a program that does something. -/
theorem isEmpty_of_parse
    {source : String}
    {p : Program}
    (hParse : Program.parse source = .ok p) :
    p.isEmpty = false := by
  rcases Program.exists_ofExpr_of_parse hParse with
    ⟨_, e, _, rfl⟩
  rw [Program.isEmpty, List.isEmpty_eq_false_iff]
  exact e.postfixForm_ne_nil

/-
  After any actions, a calculator with a blank source has the
  empty program and gives null.  With another source it has the
  program that this is parsed to, and gives what that program
  gives with its policy, variables and functions.
-/
theorem compiled_performAll
    (moment : Moment)
    (settings : Settings)
    (actions : List Action) :
    let k := (new moment settings).performAll actions
    (trim k.source.toList = [] →
      k.program = .empty ∧ k.evaluate = .ok .null) ∧
    (trim k.source.toList ≠ [] →
      Program.parse k.source = .ok k.program ∧
      k.evaluate =
        Formula.evaluate k.program.instructions
          (.ofTables k.bindings k.functions
            k.settings.strictness.policy)) := by
  intro k
  have hCompiled : k.IsCompiled :=
    isCompiled_performAll (isCompiled_new moment settings)
      actions
  rcases compile_eq_ok_iff.mp hCompiled with
    ⟨hBlank, hProgram⟩ | ⟨hSource, hParse⟩
  · refine ⟨fun _ => ⟨hProgram, ?_⟩, fun hOther => ?_⟩
    · rw [evaluate, evaluateWith, hProgram]
      rfl
    · exact absurd hBlank hOther
  · refine ⟨fun hBlank => ?_, fun _ => ⟨hParse, ?_⟩⟩
    · exact absurd hBlank hSource
    · rw [evaluate, evaluateWith, isEmpty_of_parse hParse]
      rfl

end Calculator

end Formula
