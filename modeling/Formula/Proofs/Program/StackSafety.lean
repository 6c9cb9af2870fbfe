import Formula.Proofs.Policy.Reliability
import Formula.Proofs.Program.LongCall
import Formula.Proofs.Program.References

/-
  Compiled programs are safe on the stack.

  Every instruction of a compiled program that is reached finds
  the values it takes, and one value is left at the end.  So a
  program fails internally only when a conversion, an operator
  of the host or a function does.

  The arguments of every call must be few enough to be counted.
  A source with few tokens has no other calls.

  Key definitions include:
    * `Instruction.HasOperands`
    * `Machine.IsSafe`
    * `Function.IsReliable`
    * `Program.HasCountableCalls`

  Main statements:
    * `Expr.isSafe_postfixForm`
    * `Expr.isReliable_value`
    * `Program.hasCountableCalls_of_length`
    * `Program.parse_stackSafe`
-/

namespace Formula

------------------------------------------------------------
-- Safe Runs
------------------------------------------------------------

/-
  The values that an instruction takes are on the stack.  A
  call takes the number of its arguments and then as many.
-/
def Instruction.HasOperands
    (i : Instruction)
    (s : ValueStack) : Prop :=
  match i.opcode with
  | .constant => True
  | .reference => True
  | .unary _ => 1 ≤ s.length
  | .binary _ => 2 ≤ s.length
  | .call =>
      ∃ count n rest, s = count :: rest ∧
        argumentCount? count = some n ∧ n ≤ rest.length

namespace Machine

variable (env : Environment)

/- Every instruction that is reached has its operands. -/
def IsSafe : List Instruction → ValueStack → Prop
  | [], _ => True
  | i :: is, s =>
      i.HasOperands s ∧
        ∀ s', i.step env s = .ok s' → IsSafe is s'

/- Two programs that are safe in a row are safe together. -/
theorem isSafe_append
    {is js : List Instruction}
    {s : ValueStack}
    (hFirst : IsSafe env is s)
    (hRest :
      ∀ s', run env is s = .ok s' → IsSafe env js s') :
    IsSafe env (is ++ js) s := by
  induction is generalizing s with
  | nil => exact hRest s rfl
  | cons i is ih =>
      refine ⟨hFirst.1, fun s' hStep => ?_⟩
      apply ih (hFirst.2 s' hStep)
      intro s'' hRun
      apply hRest
      rw [run_cons, hStep]
      exact hRun

/- An instruction is safe alone when it has its operands. -/
theorem isSafe_singleton
    {i : Instruction}
    {s : ValueStack}
    (hOperands : i.HasOperands s) :
    IsSafe env [i] s :=
  ⟨hOperands, fun _ _ => trivial⟩

/- What a safe program reaches has its operands. -/
theorem hasOperands_of_isSafe
    {before after : List Instruction}
    {i : Instruction}
    {s s' : ValueStack}
    (hSafe : IsSafe env (before ++ i :: after) s)
    (hRun : run env before s = .ok s') :
    i.HasOperands s' := by
  induction before generalizing s with
  | nil =>
      cases hRun
      exact hSafe.1
  | cons j before ih =>
      rw [run_cons] at hRun
      rcases Outcome.bind_eq_ok_iff.mp hRun with
        ⟨s₁, hStep, hRest⟩
      rw [Outcome.mapError_eq_ok_iff] at hStep
      exact ih (hSafe.2 s₁ hStep) hRest

end Machine

------------------------------------------------------------
-- Compiled Expressions
------------------------------------------------------------

namespace Expr

variable (env : Environment)

open Machine

/- A compiled expression leaves a value on the stack. -/
theorem exists_value_of_run
    {e : Expr}
    {s s' : ValueStack}
    (hCount : e.Countable)
    (hRun : run env e.postfixForm s = .ok s') :
    ∃ v, s' = v :: s := by
  rw [run_postfixForm env e hCount] at hRun
  cases hValue : e.value env with
  | error f =>
      rw [hValue] at hRun
      cases hRun
  | ok v =>
      rw [hValue] at hRun
      cases hRun
      exact ⟨v, rfl⟩

/- Several leave as many values as there are expressions. -/
theorem exists_values_of_run
    {es : List Expr}
    {s s' : ValueStack}
    (hCount : AllCountable es)
    (hRun : run env (postfixForms es) s = .ok s') :
    ∃ vs : List Value,
      s' = vs ++ s ∧ vs.length = es.length := by
  rw [run_postfixForms env es hCount] at hRun
  cases hValues : values env es with
  | error f =>
      rw [hValues] at hRun
      cases hRun
  | ok vs =>
      rw [hValues] at hRun
      cases hRun
      refine ⟨vs.reverse, rfl, ?_⟩
      rw [List.length_reverse]
      exact length_of_values_eq_ok env hValues

mutual

/- Compiled expressions are safe on any stack. -/
theorem isSafe_postfixForm
    (e : Expr)
    (hCount : e.Countable)
    (s : ValueStack) :
    IsSafe env e.postfixForm s := by
  cases e with
  | constant v p => exact isSafe_singleton env trivial
  | reference name p => exact isSafe_singleton env trivial
  | call name args p =>
      rcases hCount with ⟨hFew, hAll⟩
      apply isSafe_append env (isSafe_postfixForms args hAll s)
      intro s' hRun
      rcases exists_values_of_run env hAll hRun with
        ⟨vs, rfl, hLength⟩
      refine ⟨trivial, fun s'' hStep => ?_⟩
      cases hStep
      apply isSafe_singleton
      refine ⟨_, args.length, _, rfl,
        argumentCount?_ofNat hFew, ?_⟩
      rw [List.length_append, hLength]
      exact Nat.le_add_right _ _
  | unary op e p =>
      apply isSafe_append env (isSafe_postfixForm e hCount s)
      intro s' hRun
      rcases exists_value_of_run env (e := e) hCount hRun with
        ⟨v, rfl⟩
      apply isSafe_singleton
      exact Nat.succ_le_succ (Nat.zero_le _)
  | binary op lhs rhs p =>
      rcases hCount with ⟨hLeft, hRight⟩
      have hOperands (s' : ValueStack)
          (hRun : run env
            (postfixForm lhs ++ postfixForm rhs) s = .ok s') :
          2 ≤ s'.length := by
        rw [run_append] at hRun
        rcases Outcome.bind_eq_ok_iff.mp hRun with
          ⟨s₁, hFirst, hSecond⟩
        rcases exists_value_of_run env hLeft hFirst with
          ⟨v, rfl⟩
        rcases exists_value_of_run env hRight hSecond with
          ⟨w, rfl⟩
        exact Nat.succ_le_succ
          (Nat.succ_le_succ (Nat.zero_le _))
      refine isSafe_append env ?_ fun s' hRun =>
        isSafe_singleton env (hOperands s' hRun)
      apply isSafe_append env (isSafe_postfixForm lhs hLeft s)
      intro s' _
      exact isSafe_postfixForm rhs hRight s'

theorem isSafe_postfixForms
    (es : List Expr)
    (hCount : AllCountable es)
    (s : ValueStack) :
    IsSafe env (postfixForms es) s := by
  cases es with
  | nil => exact trivial
  | cons e es =>
      rcases hCount with ⟨hFirst, hRest⟩
      apply isSafe_append env (isSafe_postfixForm e hFirst s)
      intro s' hRun
      exact isSafe_postfixForms es hRest s'

end

end Expr

------------------------------------------------------------
-- Reliability
------------------------------------------------------------

/- A function under a policy has no internal failures. -/
def Function.IsReliable
    (f : Function)
    (p : Policy) : Prop :=
  ∀ args failure,
    f args p = .error (.failed failure) →
      ¬ failure.IsInternal

namespace Environment

/- Neither the policy nor a function fails internally. -/
structure IsReliable
    (env : Environment) : Prop where
  policy : env.policy.IsReliable
  functions : ∀ name f,
    env.functionOf? name = some f → f.IsReliable env.policy

theorem isReliable_lookUp
    (env : Environment)
    (name : String) :
    (env.lookUp name).IsReliable := by
  unfold lookUp
  split
  · exact Outcome.isReliable_ok _
  · apply Outcome.isReliable_error
    rintro ⟨message, h⟩
    cases h

variable {env : Environment}

theorem isReliable_call
    (hReliable : env.IsReliable)
    (name : String)
    (args : List Value) :
    (env.call name args).IsReliable := by
  unfold call
  cases hName : env.functionOf? name with
  | none =>
      apply Outcome.isReliable_error
      rintro ⟨message, h⟩
      cases h
  | some f =>
      dsimp only [Function.call]
      cases hCall : f args env.policy with
      | ok v => exact Outcome.isReliable_ok v
      | error g =>
          apply Outcome.isReliable_error
          cases g with
          | failed failure =>
              exact hReliable.functions name f hName args
                failure hCall
          | brokeDown reason =>
              rintro ⟨message, h⟩
              cases h

end Environment

namespace Expr

variable {env : Environment}

mutual

/- An expression fails internally only when its parts do. -/
theorem isReliable_value
    (hReliable : env.IsReliable)
    (e : Expr) :
    (e.value env).IsReliable := by
  cases e with
  | constant v p => exact Outcome.isReliable_ok v
  | reference name p =>
      rw [value_reference]
      exact Outcome.isReliable_locate
        (env.isReliable_lookUp name) p
  | call name args p =>
      rw [value_call]
      apply Outcome.isReliable_bind
        (isReliable_values hReliable args)
      intro vs
      exact Outcome.isReliable_locate
        (Environment.isReliable_call hReliable name vs) p
  | unary op e p =>
      apply Outcome.isReliable_bind
        (isReliable_value hReliable e)
      intro v
      exact Outcome.isReliable_locate
        (hReliable.policy.corresponds.applyUnary op v) p
  | binary op lhs rhs p =>
      rw [value_binary]
      apply Outcome.isReliable_bind
        (isReliable_value hReliable lhs)
      intro v
      apply Outcome.isReliable_bind
        (isReliable_value hReliable rhs)
      intro w
      exact Outcome.isReliable_locate
        (hReliable.policy.corresponds.applyBinary op v w) p

theorem isReliable_values
    (hReliable : env.IsReliable)
    (es : List Expr) :
    (values env es).IsReliable := by
  cases es with
  | nil => exact Outcome.isReliable_ok []
  | cons e es =>
      apply Outcome.isReliable_bind
        (isReliable_value hReliable e)
      intro v
      apply Outcome.isReliable_bind
        (isReliable_values hReliable es)
      intro vs
      exact Outcome.isReliable_ok (v :: vs)

end

end Expr

------------------------------------------------------------
-- Programs
------------------------------------------------------------

namespace Program

open Machine

variable {source : String}
variable {p : Program}

/- No call in a source has more arguments than can be counted. -/
def HasCountableCalls
    (source : String) : Prop :=
  ∃ d : Derivation .expression,
    Lexeme.ofTokens? (Tokenizer.parsing.tokens source) =
        .ok d.yield ∧
      d.IsCountable

/- A source of few tokens has no call with many arguments. -/
theorem hasCountableCalls_of_length
    (hParse : parse source = .ok p)
    (hFew :
      (Tokenizer.parsing.tokens source).length ≤ maxCount) :
    HasCountableCalls source := by
  rcases Outcome.bind_eq_ok_iff.mp hParse with
    ⟨ls, hLexemes, hProgram⟩
  rcases exists_ofLexemes?_iff.mp ⟨p, hProgram⟩ with ⟨d, rfl⟩
  refine ⟨d, hLexemes, d.isCountable_of_length_yield ?_⟩
  rw [Outcome.length_of_mapM_eq_ok hLexemes]
  exact (List.length_filter_le _ _).trans hFew

/- A source that was parsed compiles to an expression. -/
theorem exists_expr_of_parse
    (hParse : parse source = .ok p) :
    ∃ e : Expr, p.instructions = e.postfixForm ∧
      (HasCountableCalls source → e.Countable) := by
  rcases Outcome.bind_eq_ok_iff.mp hParse with
    ⟨ls, hLexemes, hProgram⟩
  rcases ofLexemes?_eq_ok_iff.mp hProgram with ⟨e, hRead, rfl⟩
  rcases Expr.exists_derivation hRead with
    ⟨d, rfl, _, hCountable⟩
  refine ⟨e, rfl, ?_⟩
  rintro ⟨d', hLexemes', hCounted⟩
  have hYield : d.yield = d'.yield :=
    Except.ok.inj (hLexemes.symm.trans hLexemes')
  rw [Derivation.yield_injective hYield] at hCountable
  exact hCountable hCounted

/-
  In a program that was parsed every instruction that is
  reached finds its operands, one value is left at the end,
  and no failure is internal, when all arguments are counted.
-/
theorem parse_stackSafe
    (source : String)
    (p : Program)
    (env : Environment)
    (hParse : parse source = .ok p)
    (hCalls : HasCountableCalls source)
    (hPolicy :
      env.policy = .strict ∨ env.policy = .permissive ∨
        env.policy.IsReliable)
    (hFunctions :
      ∀ name f, env.functionOf? name = some f →
        f.IsReliable env.policy) :
    (∀ before i after s,
      p.instructions = before ++ i :: after →
        run env before [] = .ok s → i.HasOperands s) ∧
    (∀ s, run env p.instructions [] = .ok s →
      ∃ v, s = [v]) ∧
    (∀ f, evaluate p.instructions env = .error f →
      ¬ f.IsInternal) := by
  rcases exists_expr_of_parse hParse with
    ⟨e, hCode, hCountable⟩
  have hCount : e.Countable := hCountable hCalls
  rw [hCode]
  have hReliable : env.IsReliable := by
    refine ⟨?_, hFunctions⟩
    rcases hPolicy with hStrict | hPermissive | hOther
    · rw [hStrict]
      exact Policy.isReliable_of_isOperational
        Policy.isOperational_strict
    · rw [hPermissive]
      exact Policy.isReliable_of_isOperational
        Policy.isOperational_permissive
    · exact hOther
  refine ⟨?_, ?_, ?_⟩
  · intro before i after s hSplit hRun
    have hSafe := e.isSafe_postfixForm env hCount []
    rw [hSplit] at hSafe
    exact hasOperands_of_isSafe env hSafe hRun
  · intro s hRun
    exact Expr.exists_value_of_run env hCount hRun
  · rw [Expr.evaluate_eq_value env e hCount]
    exact Expr.isReliable_value hReliable e

/- An environment in which functions list their arguments. -/
def listingEnvironment : Environment where
  valueOf? := fun _ => some (.integer 2)
  functionOf? := fun _ => some fun args _ => .ok (.array args)
  policy := .strict

/- A call is safe wherever it stands. -/
theorem parse_stackSafe_membership :
    ∃ p, parse "x NOT IN f(1, x)[0]" = .ok p ∧
      HasCountableCalls "x NOT IN f(1, x)[0]" ∧
      (∀ before i after s,
        p.instructions = before ++ i :: after →
          run listingEnvironment before [] = .ok s →
            i.HasOperands s) ∧
      (∀ s, run listingEnvironment p.instructions [] = .ok s →
        ∃ v, s = [v]) ∧
      (∀ f, evaluate p.instructions listingEnvironment =
        .error f → ¬ f.IsInternal) := by
  have hOk : (parse "x NOT IN f(1, x)[0]").isOk = true := by
    decide +kernel
  have hFew :
      (Tokenizer.parsing.tokens "x NOT IN f(1, x)[0]").length ≤
        maxCount := by
    decide +kernel
  cases hParse : parse "x NOT IN f(1, x)[0]" with
  | error e =>
      rw [hParse] at hOk
      cases hOk
  | ok p =>
      have hCalls := hasCountableCalls_of_length hParse hFew
      refine ⟨p, rfl, hCalls, ?_⟩
      apply parse_stackSafe _ p listingEnvironment hParse hCalls
      · exact .inl rfl
      · intro name f hFunction args failure hFailed
        cases hFunction
        cases hFailed

/- A host whose addition fails internally. -/
def brokenAddition : Policy :=
  { Policy.strict with
    add := fun _ _ => .error (Cause.internal "no sum").unplaced }

/- An environment without names, under a given policy. -/
def namelessEnvironment
    (policy : Policy) : Environment :=
  ⟨fun _ => none, fun _ => none, policy⟩

/-
  The count of a call with `2 ^ 31` arguments turns negative,
  so that it fails internally wherever it is evaluated.  And
  reliable conversions are not enough for a host with an
  operator of its own.
-/
theorem parse_not_stackSafe :
    (∃ p, parse (longCall 2147483648) = .ok p ∧
      ∀ env, ∃ f, evaluate p.instructions env = .error f ∧
        f.IsInternal) ∧
    (∀ v t, (brokenAddition.convert v t).IsReliable) ∧
    ∃ p f, parse "'a' + 'b'" = .ok p ∧
      evaluate p.instructions
          (namelessEnvironment brokenAddition) =
        .error f ∧
      f.IsInternal := by
  have hTokens :
      Tokenizer.parsing.tokens "'a' + 'b'" =
        [ ⟨.quoted, "a", ⟨1, 1⟩⟩, ⟨.symbol, "+", ⟨1, 5⟩⟩,
          ⟨.quoted, "b", ⟨1, 7⟩⟩ ] := by
    decide +kernel
  refine ⟨isInternal_longCall (by decide), ?_, ?_⟩
  · exact (Policy.isReliable_of_isOperational
      Policy.isOperational_strict).convert
  · rw [parse, hTokens]
    exact ⟨_, _, rfl, rfl, _, rfl⟩

end Program

end Formula
