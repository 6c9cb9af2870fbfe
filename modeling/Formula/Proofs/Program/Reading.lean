import Formula.Proofs.Program.StackSafety

/-
  Instructions read back as trees.

  Every node of a tree is the instruction that computes it, and
  has as many subtrees as this takes values.  The code of a
  tree are its instructions, those of the subtrees first.

  Instructions without calls are read on a stack of trees, as
  the machine runs them on a stack of values.  The trees that
  are read have these instructions for their code, and a code
  is read as the tree that it belongs to; so no instructions
  are the code of two trees.  A run that succeeds reads as many
  trees as it leaves values.

  A tree is an expression whose nodes keep all of the payloads
  of their instructions, also those that are never read.

  Key definitions include:
    * `Opcode.arity?`
    * `InstructionTree`
    * `InstructionTree.code`
    * `Instruction.read?`
    * `InstructionTree.readAll?`

  Main statements:
    * `InstructionTree.codes_of_readAll?`
    * `InstructionTree.readAll?_code`
    * `InstructionTree.code_injective`
    * `InstructionTree.exists_expr`
    * `InstructionTree.exists_readAll?_of_run`
    * `evaluate_wellFormed`
-/

namespace Formula

------------------------------------------------------------
-- Trees
------------------------------------------------------------

/- How many values a step takes, unless these are counted. -/
def Opcode.arity? : Opcode → Option Nat
  | .constant => some 0
  | .reference => some 0
  | .call => none
  | .unary _ => some 1
  | .binary _ => some 2

/- An expression whose nodes are the instructions for them. -/
inductive InstructionTree where
  | leaf
      (i : Instruction)
      (hArity : i.opcode.arity? = some 0)
  | unary
      (i : Instruction)
      (hArity : i.opcode.arity? = some 1)
      (operand : InstructionTree)
  | binary
      (i : Instruction)
      (hArity : i.opcode.arity? = some 2)
      (lhs rhs : InstructionTree)

namespace InstructionTree

/- The postfix form of a tree. -/
def code : InstructionTree → List Instruction
  | leaf i _ => [i]
  | unary i _ operand => operand.code ++ [i]
  | binary i _ lhs rhs => lhs.code ++ rhs.code ++ [i]

/- The instructions of several trees, the latest one first. -/
def codes : List InstructionTree → List Instruction
  | [] => []
  | t :: ts => codes ts ++ t.code

end InstructionTree

/- An instruction with just the payload that it reads. -/
def Instruction.bare
    (i : Instruction) : Instruction :=
  match i.opcode with
  | .constant => constant i.payload i.position
  | .reference => reference (i.name?.getD "") i.position
  | .call => call (i.name?.getD "") i.position
  | .unary op => unary op i.position
  | .binary op => binary op i.position

/- A tree is an expression, up to payloads that are not read. -/
theorem InstructionTree.exists_expr
    (t : InstructionTree) :
    ∃ e : Expr, e.postfixForm = t.code.map Instruction.bare := by
  induction t with
  | leaf i hArity =>
      rcases i with ⟨opcode, payload, position⟩
      cases opcode with
      | constant => exact ⟨.constant payload position, rfl⟩
      | reference => exact ⟨.reference _ position, rfl⟩
      | call => cases hArity
      | unary op => cases hArity
      | binary op => cases hArity
  | unary i hArity operand ih =>
      rcases i with ⟨opcode, payload, position⟩
      rcases ih with ⟨e, hCode⟩
      cases opcode with
      | unary op =>
          refine ⟨.unary op e position, ?_⟩
          rw [code, List.map_append, ← hCode]
          rfl
      | constant => cases hArity
      | reference => cases hArity
      | call => cases hArity
      | binary op => cases hArity
  | binary i hArity lhs rhs ihLeft ihRight =>
      rcases i with ⟨opcode, payload, position⟩
      rcases ihLeft with ⟨e, hLeft⟩
      rcases ihRight with ⟨e', hRight⟩
      cases opcode with
      | binary op =>
          refine ⟨.binary op e e' position, ?_⟩
          rw [code, List.map_append, List.map_append, ← hLeft,
            ← hRight]
          rfl
      | constant => cases hArity
      | reference => cases hArity
      | call => cases hArity
      | unary op => cases hArity

------------------------------------------------------------
-- Reading
------------------------------------------------------------

/-
  Read an instruction after some trees, the latest first.  Its
  operands are the latest ones.  Calls are not read.
-/
def Instruction.read?
    (i : Instruction)
    (ts : List InstructionTree) :
    Option (List InstructionTree) :=
  if hLeaf : i.opcode.arity? = some 0 then
    some (.leaf i hLeaf :: ts)
  else if hUnary : i.opcode.arity? = some 1 then
    match ts with
    | t :: ts => some (.unary i hUnary t :: ts)
    | [] => none
  else if hBinary : i.opcode.arity? = some 2 then
    match ts with
    | rhs :: lhs :: ts =>
        some (.binary i hBinary lhs rhs :: ts)
    | _ => none
  else none

namespace InstructionTree

section Instructions

variable {i : Instruction}

theorem read?_leaf
    (hArity : i.opcode.arity? = some 0)
    (ts : List InstructionTree) :
    i.read? ts = some (.leaf i hArity :: ts) :=
  dif_pos hArity

theorem read?_unary
    (hArity : i.opcode.arity? = some 1)
    (t : InstructionTree)
    (ts : List InstructionTree) :
    i.read? (t :: ts) = some (.unary i hArity t :: ts) := by
  have hLeaf : i.opcode.arity? ≠ some 0 := by
    rw [hArity]
    decide
  rw [Instruction.read?, dif_neg hLeaf, dif_pos hArity]

theorem read?_binary
    (hArity : i.opcode.arity? = some 2)
    (lhs rhs : InstructionTree)
    (ts : List InstructionTree) :
    i.read? (rhs :: lhs :: ts) =
      some (.binary i hArity lhs rhs :: ts) := by
  have hLeaf : i.opcode.arity? ≠ some 0 := by
    rw [hArity]
    decide
  have hUnary : i.opcode.arity? ≠ some 1 := by
    rw [hArity]
    decide
  rw [Instruction.read?, dif_neg hLeaf, dif_neg hUnary,
    dif_pos hArity]

/- An instruction that is read is written behind the rest. -/
theorem codes_of_read?
    {ts ts' : List InstructionTree}
    (hRead : i.read? ts = some ts') :
    codes ts' = codes ts ++ [i] := by
  unfold Instruction.read? at hRead
  split at hRead
  · cases hRead
    rfl
  · split at hRead
    · split at hRead <;> cases hRead
      rw [codes, codes, code, List.append_assoc]
    · split at hRead
      · split at hRead <;> cases hRead
        rw [codes, codes, codes, code, List.append_assoc,
          List.append_assoc, List.append_assoc]
      · cases hRead

end Instructions

/- Read instructions, one after the other. -/
def readAll? :
    List Instruction → List InstructionTree →
      Option (List InstructionTree)
  | [], ts => some ts
  | i :: is, ts => (i.read? ts).bind (readAll? is)

theorem readAll?_append
    (is js : List Instruction)
    (ts : List InstructionTree) :
    readAll? (is ++ js) ts =
      (readAll? is ts).bind (readAll? js) := by
  induction is generalizing ts with
  | nil => rfl
  | cons i is ih =>
      rw [List.cons_append, readAll?, readAll?,
        Option.bind_assoc]
      exact congrArg _ (funext ih)

theorem readAll?_singleton
    (i : Instruction)
    (ts : List InstructionTree) :
    readAll? [i] ts = i.read? ts := by
  rw [readAll?]
  cases i.read? ts <;> rfl

/- Nothing that is read is lost. -/
theorem codes_of_readAll?
    {is : List Instruction}
    {ts ts' : List InstructionTree}
    (hRead : readAll? is ts = some ts') :
    codes ts' = codes ts ++ is := by
  induction is generalizing ts with
  | nil =>
      cases hRead
      exact (List.append_nil _).symm
  | cons i is ih =>
      rcases Option.bind_eq_some_iff.mp hRead with
        ⟨ts₁, hFirst, hRest⟩
      rw [ih hRest, codes_of_read? hFirst, List.append_assoc]
      rfl

/- The code of a tree is read as that tree. -/
theorem readAll?_code
    (t : InstructionTree)
    (ts : List InstructionTree) :
    readAll? t.code ts = some (t :: ts) := by
  induction t generalizing ts with
  | leaf i hArity =>
      rw [code, readAll?_singleton, read?_leaf hArity]
  | unary i hArity operand ih =>
      rw [code, readAll?_append, ih, Option.bind_some,
        readAll?_singleton, read?_unary hArity]
  | binary i hArity lhs rhs ihLeft ihRight =>
      rw [code, readAll?_append, readAll?_append, ihLeft,
        Option.bind_some, ihRight, Option.bind_some,
        readAll?_singleton, read?_binary hArity]

/- Instructions are the code of one tree at most. -/
theorem code_injective
    {t t' : InstructionTree}
    (hSame : t.code = t'.code) :
    t = t' := by
  have hRead := t.readAll?_code []
  rw [hSame, t'.readAll?_code] at hRead
  cases hRead
  rfl

------------------------------------------------------------
-- Reading and Running
------------------------------------------------------------

variable {env : Environment}

/- What runs on values is read on as many trees. -/
theorem exists_read?_of_step
    {i : Instruction}
    {s s' : ValueStack}
    {ts : List InstructionTree}
    (hNoCall : i.opcode ≠ .call)
    (hLength : s.length = ts.length)
    (hStep : i.step env s = .ok s') :
    ∃ ts', i.read? ts = some ts' ∧
      s'.length = ts'.length := by
  rcases i with ⟨opcode, payload, position⟩
  cases opcode with
  | constant =>
      cases hStep
      exact ⟨_, rfl, congrArg Nat.succ hLength⟩
  | reference =>
      rcases Outcome.bind_eq_ok_iff.mp hStep with ⟨v, _, hPush⟩
      cases hPush
      exact ⟨_, rfl, congrArg Nat.succ hLength⟩
  | call => exact absurd rfl hNoCall
  | unary op =>
      match s, ts, hLength with
      | [], _, _ => cases hStep
      | v :: s, t :: ts, hLength =>
          change env.policy.applyUnary op v >>=
            (fun r => .ok (r :: s)) = .ok s' at hStep
          rcases Outcome.bind_eq_ok_iff.mp hStep with
            ⟨r, _, hPush⟩
          cases hPush
          exact ⟨_, rfl, hLength⟩
  | binary op =>
      match s, ts, hLength with
      | [], _, _ => cases hStep
      | [w], _, _ => cases hStep
      | w :: v :: s, rhs :: lhs :: ts, hLength =>
          change env.policy.applyBinary op v w >>=
            (fun r => .ok (r :: s)) = .ok s' at hStep
          rcases Outcome.bind_eq_ok_iff.mp hStep with
            ⟨r, _, hPush⟩
          cases hPush
          exact ⟨_, rfl, Nat.succ.inj hLength⟩

/- A run leaves as many values as trees are read. -/
theorem exists_readAll?_of_run
    {is : List Instruction}
    {s s' : ValueStack}
    {ts : List InstructionTree}
    (hNoCall : ∀ i ∈ is, i.opcode ≠ .call)
    (hLength : s.length = ts.length)
    (hRun : Machine.run env is s = .ok s') :
    ∃ ts', readAll? is ts = some ts' ∧
      s'.length = ts'.length := by
  induction is generalizing s ts with
  | nil =>
      cases hRun
      exact ⟨ts, rfl, hLength⟩
  | cons i is ih =>
      rw [Machine.run_cons] at hRun
      rcases Outcome.bind_eq_ok_iff.mp hRun with
        ⟨s₁, hStep, hRest⟩
      rw [Outcome.mapError_eq_ok_iff] at hStep
      have hFirst := hNoCall i List.mem_cons_self
      rcases exists_read?_of_step hFirst hLength hStep with
        ⟨ts₁, hRead, hLength₁⟩
      have hOthers : ∀ j ∈ is, j.opcode ≠ .call :=
        fun j hMem => hNoCall j (List.mem_cons_of_mem _ hMem)
      rcases ih hOthers hLength₁ hRest with
        ⟨ts', hReadRest, hLength'⟩
      refine ⟨ts', ?_, hLength'⟩
      rw [readAll?, hRead]
      exact hReadRest

end InstructionTree

------------------------------------------------------------
-- Failures
------------------------------------------------------------

/- An instruction without its operands finds too few values. -/
theorem Instruction.step_of_not_hasOperands
    {env : Environment}
    {i : Instruction}
    {s : ValueStack}
    (hNoCall : i.opcode ≠ .call)
    (hFew : ¬ i.HasOperands s) :
    i.step env s = .error ValueStack.underflow := by
  rcases i with ⟨opcode, payload, position⟩
  cases opcode with
  | constant => exact absurd trivial hFew
  | reference => exact absurd trivial hFew
  | call => exact absurd rfl hNoCall
  | unary op =>
      match s with
      | [] => rfl
      | _ :: _ => exact absurd (Nat.le_add_left _ _) hFew
  | binary op =>
      match s with
      | [] => rfl
      | [_] => rfl
      | _ :: _ :: _ => exact absurd (Nat.le_add_left _ _) hFew

namespace Machine

/- A result is the only value that is left. -/
theorem finish_eq_ok_iff
    {s : ValueStack}
    {v : Value} :
    finish s = .ok v ↔ s = [v] := by
  match s with
  | [] => exact ⟨fun h => (nomatch h), fun h => (nomatch h)⟩
  | [w] =>
      constructor
      · rintro ⟨⟩
        rfl
      · rintro ⟨⟩
        rfl
  | _ :: _ :: _ =>
      exact ⟨fun h => (nomatch h), fun h => (nomatch h)⟩

end Machine

/-
  A failure is raised by an instruction that the run reaches
  and that has its operands.
-/
def Failure.IsRaisedIn
    (f : Failure)
    (is : List Instruction)
    (env : Environment) : Prop :=
  ∃ before i after s g,
    is = before ++ i :: after ∧
      Machine.run env before [] = .ok s ∧
      i.HasOperands s ∧
      i.step env s = .error g ∧
      f = g.locate i.position

/- Without calls, any other failure is internal. -/
theorem internal_or_exists_of_evaluate
    {is : List Instruction}
    {env : Environment}
    {f : Failure}
    (hNoCall : ∀ i ∈ is, i.opcode ≠ .call)
    (hFails : evaluate is env = .error f) :
    f.IsInternal ∨ f.IsRaisedIn is env := by
  unfold evaluate at hFails
  cases hRun : Machine.run env is [] with
  | ok s =>
      rw [hRun] at hFails
      rcases Machine.exists_message_of_finish hFails with
        ⟨message, rfl⟩
      exact .inl ⟨message, rfl⟩
  | error f' =>
      rw [hRun] at hFails
      cases hFails
      rcases Machine.exists_failing_step env is [] f hRun with
        ⟨before, i, after, s, g, rfl, hBefore, hStep, rfl⟩
      have hOther : i.opcode ≠ .call :=
        hNoCall i (by simp)
      by_cases hOperands : i.HasOperands s
      · exact .inr ⟨before, i, after, s, g, rfl, hBefore,
          hOperands, hStep, rfl⟩
      · rw [i.step_of_not_hasOperands hOther hOperands] at hStep
        cases hStep
        exact .inl ⟨_, rfl⟩

/- Instructions that give a value are the code of a tree. -/
theorem exists_tree_of_evaluate
    {is : List Instruction}
    {env : Environment}
    {v : Value}
    (hNoCall : ∀ i ∈ is, i.opcode ≠ .call)
    (hValue : evaluate is env = .ok v) :
    ∃ t : InstructionTree, t.code = is := by
  rcases Outcome.bind_eq_ok_iff.mp hValue with
    ⟨s, hRun, hFinish⟩
  rw [Machine.finish_eq_ok_iff] at hFinish
  have hNothing :
      ([] : ValueStack).length =
        ([] : List InstructionTree).length := rfl
  rcases InstructionTree.exists_readAll?_of_run hNoCall hNothing
    hRun with ⟨ts, hRead, hLength⟩
  rw [hFinish] at hLength
  rcases List.length_eq_one_iff.mp hLength.symm with ⟨t, rfl⟩
  exact ⟨t, InstructionTree.codes_of_readAll? hRead⟩

/-
  Instructions without calls that give a value are the postfix
  form of one tree and of no other.  Instructions that are no
  postfix form of a tree fail, either internally or by an
  instruction that has its operands and that the run reaches.
-/
theorem evaluate_wellFormed
    (is : List Instruction)
    (env : Environment)
    (hNoCall : ∀ i ∈ is, i.opcode ≠ .call) :
    (∀ v, evaluate is env = .ok v →
      ∃ t : InstructionTree, t.code = is ∧
        ∀ t' : InstructionTree, t'.code = is → t' = t) ∧
    ((¬ ∃ t : InstructionTree, t.code = is) →
      ∃ f, evaluate is env = .error f ∧
        (f.IsInternal ∨ f.IsRaisedIn is env)) := by
  constructor
  · intro v hValue
    rcases exists_tree_of_evaluate hNoCall hValue with
      ⟨t, hCode⟩
    refine ⟨t, hCode, fun t' hSame => ?_⟩
    exact InstructionTree.code_injective
      (hSame.trans hCode.symm)
  · intro hMalformed
    cases hResult : evaluate is env with
    | ok v =>
        exact absurd (exists_tree_of_evaluate hNoCall hResult)
          hMalformed
    | error f =>
        exact ⟨f, rfl,
          internal_or_exists_of_evaluate hNoCall hResult⟩

/- The code of `x + 1`, with a payload that is not read. -/
def sumCode : List Instruction :=
  [ .reference "x" ⟨1, 1⟩,
    .constant (.integer 1) ⟨1, 5⟩,
    ⟨.binary .add, .boolean true, ⟨1, 3⟩⟩ ]

/- The same code with a value too many. -/
def surplusCode : List Instruction :=
  sumCode ++ [.constant .null ⟨1, 7⟩]

/-
  The code is that of a single tree, and no longer so with a
  value too many.
-/
theorem evaluate_wellFormed_surplus :
    evaluate sumCode Program.listingEnvironment =
      .ok (.integer 3) ∧
    (∃ t : InstructionTree, t.code = sumCode ∧
      ∀ t' : InstructionTree, t'.code = sumCode → t' = t) ∧
    ∃ f,
      evaluate surplusCode Program.listingEnvironment =
        .error f ∧
      (f.IsInternal ∨
        f.IsRaisedIn surplusCode
          Program.listingEnvironment) := by
  have hValue :
      evaluate sumCode Program.listingEnvironment =
        .ok (.integer 3) := rfl
  have hSum := evaluate_wellFormed sumCode
    Program.listingEnvironment (by decide)
  have hSurplus := evaluate_wellFormed surplusCode
    Program.listingEnvironment (by decide)
  refine ⟨hValue, hSum.1 _ hValue, hSurplus.2 ?_⟩
  rintro ⟨t, hCode⟩
  have hRead := t.readAll?_code []
  rw [hCode] at hRead
  have hTwo : some 2 = some 1 :=
    congrArg (Option.map List.length) hRead
  exact absurd hTwo (by decide)

end Formula
