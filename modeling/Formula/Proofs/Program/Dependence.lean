import Formula.Proofs.Program.Reading

/-
  What the result of a program depends on.

  A compiled expression lists the variables that its
  instructions look up, each once and in the order in which
  they first occur.  Its result does not depend on any other
  variable.

  Key definitions include:
    * `IsDigest`
    * `Environment.AgreesOn`

  Main statements:
    * `isDigest_eraseDups`
    * `Machine.run_eq_of_agreesOn`
    * `Program.parse_dependsOn_names`
-/

namespace Formula

------------------------------------------------------------
-- Digests
------------------------------------------------------------

/- One name occurs in a list before another one does. -/
def OccursBefore
    (occurrences : List String)
    (a b : String) : Prop :=
  ∃ before after, occurrences = before ++ after ∧
    a ∈ before ∧ b ∉ before

/-
  Names are those that occur in a list, each of them once, in
  the order in which they first occur.
-/
structure IsDigest
    (names occurrences : List String) : Prop where
  nodup : names.Nodup
  mem_iff : ∀ name, name ∈ names ↔ name ∈ occurrences
  ordered : names.Pairwise (OccursBefore occurrences)

namespace OccursBefore

/- The first name occurs before all others. -/
theorem head
    {a b : String}
    (occurrences : List String)
    (hOther : b ≠ a) :
    OccursBefore (a :: occurrences) a b :=
  ⟨[a], occurrences, rfl, List.mem_singleton_self a,
    mt List.mem_singleton.mp hOther⟩

/- What is left of the others is in their order. -/
theorem of_filter
    {keep : String → Bool}
    {name a b : String}
    {occurrences : List String}
    (hKept : keep b = true)
    (hOther : b ≠ name)
    (hOrder : OccursBefore (occurrences.filter keep) a b) :
    OccursBefore (name :: occurrences) a b := by
  rcases hOrder with ⟨before, after, hSplit, hFirst, hSecond⟩
  rcases List.filter_eq_append_iff.mp hSplit with
    ⟨before', after', rfl, rfl, rfl⟩
  refine ⟨name :: before', after', rfl, ?_, ?_⟩
  · exact List.mem_cons_of_mem _ (List.mem_filter.mp hFirst).1
  · intro hMem
    rcases List.mem_cons.mp hMem with hHere | hLater
    · exact hOther hHere
    · exact hSecond (List.mem_filter.mpr ⟨hLater, hKept⟩)

/- Without repetitions, names are in the order of the list. -/
theorem eraseDups
    (occurrences : List String) :
    occurrences.eraseDups.Pairwise
      (OccursBefore occurrences) := by
  match occurrences with
  | [] => exact List.Pairwise.nil
  | name :: others =>
      have hOther (a : String)
          (hMem : a ∈ (others.filter (!· == name)).eraseDups) :
          (!a == name) = true :=
        (List.mem_filter.mp (List.mem_eraseDups.mp hMem)).2
      have hNe (a : String)
          (hMem : a ∈ (others.filter (!· == name)).eraseDups) :
          a ≠ name := by
        simpa using hOther a hMem
      rw [List.eraseDups_cons, List.pairwise_cons]
      refine ⟨fun a hMem => head others (hNe a hMem), ?_⟩
      apply (eraseDups (others.filter (!· == name))).imp_of_mem
      intro a b _ hMem hOrder
      exact of_filter (hOther b hMem) (hNe b hMem) hOrder
termination_by occurrences.length
decreasing_by
  exact Nat.lt_succ_of_le (List.length_filter_le _ _)

end OccursBefore

theorem isDigest_eraseDups
    (occurrences : List String) :
    IsDigest occurrences.eraseDups occurrences := by
  have hOrdered := OccursBefore.eraseDups occurrences
  refine ⟨hOrdered.imp ?_, fun _ => List.mem_eraseDups,
    hOrdered⟩
  rintro a _ ⟨before, _, _, hFirst, hSecond⟩ rfl
  exact hSecond hFirst

------------------------------------------------------------
-- Agreement
------------------------------------------------------------

/-
  Two environments are the same, except perhaps for variables
  that are not among some names.
-/
structure Environment.AgreesOn
    (names : List String)
    (env other : Environment) : Prop where
  valueOf? :
    ∀ name ∈ names, env.valueOf? name = other.valueOf? name
  functionOf? : env.functionOf? = other.functionOf?
  policy : env.policy = other.policy

variable {names : List String}
variable {env other : Environment}

/- A step depends on the variable that it looks up. -/
theorem Instruction.step_eq_of_agreesOn
    {i : Instruction}
    (hAgree : Environment.AgreesOn names env other)
    (hNames : ∀ name, i.reference? = some name → name ∈ names)
    (s : ValueStack) :
    i.step env s = i.step other s := by
  rcases i with ⟨opcode, payload, position⟩
  cases opcode with
  | constant => rfl
  | reference =>
      simp only [step, Environment.lookUp,
        hAgree.valueOf? _ (hNames _ rfl)]
  | call =>
      simp only [step, stepCall, Environment.call,
        hAgree.functionOf?, hAgree.policy]
  | unary op => simp only [step, hAgree.policy]
  | binary op => simp only [step, hAgree.policy]

/- A run depends on the variables that it looks up. -/
theorem Machine.run_eq_of_agreesOn
    {is : List Instruction}
    (hAgree : Environment.AgreesOn names env other)
    (hNames :
      ∀ i ∈ is, ∀ name,
        i.reference? = some name → name ∈ names)
    (s : ValueStack) :
    run env is s = run other is s := by
  induction is generalizing s with
  | nil => rfl
  | cons i is ih =>
      have hFirst := hNames i List.mem_cons_self
      have hRest := ih fun j hMem =>
        hNames j (List.mem_cons_of_mem _ hMem)
      rw [run_cons, run_cons,
        i.step_eq_of_agreesOn hAgree hFirst]
      exact congrArg _ (funext hRest)

theorem evaluate_eq_of_agreesOn
    {is : List Instruction}
    (hAgree : Environment.AgreesOn names env other)
    (hNames :
      ∀ i ∈ is, ∀ name,
        i.reference? = some name → name ∈ names) :
    evaluate is env = evaluate is other := by
  rw [evaluate, evaluate,
    Machine.run_eq_of_agreesOn hAgree hNames]

------------------------------------------------------------
-- Compiled Expressions
------------------------------------------------------------

namespace Expr

mutual

/- Compiled instructions have no payload but what is read. -/
theorem map_bare_postfixForm
    (e : Expr) :
    e.postfixForm.map Instruction.bare = e.postfixForm := by
  cases e with
  | constant v p => rfl
  | reference name p => rfl
  | call name arguments p =>
      rw [postfixForm, List.map_append,
        map_bare_postfixForms arguments]
      rfl
  | unary op operand p =>
      rw [postfixForm, List.map_append,
        map_bare_postfixForm operand]
      rfl
  | binary op lhs rhs p =>
      rw [postfixForm, List.map_append, List.map_append,
        map_bare_postfixForm lhs, map_bare_postfixForm rhs]
      rfl

theorem map_bare_postfixForms
    (es : List Expr) :
    (postfixForms es).map Instruction.bare =
      postfixForms es := by
  cases es with
  | nil => rfl
  | cons e es =>
      rw [postfixForms, List.map_append,
        map_bare_postfixForm e, map_bare_postfixForms es]

end

/- A compiled reference has the name that it looks up. -/
theorem reference?_eq_some_iff
    {e : Expr}
    {i : Instruction}
    {name : String}
    (hMem : i ∈ e.postfixForm) :
    i.reference? = some name ↔
      i.opcode = .reference ∧ i.name? = some name := by
  have hBare : i.bare = i :=
    List.map_inj_left.mp
      (e.map_bare_postfixForm.trans (List.map_id _).symm) i hMem
  rw [← hBare]
  rcases i with ⟨opcode, payload, position⟩
  cases opcode with
  | reference => exact ⟨fun h => ⟨rfl, h⟩, And.right⟩
  | constant | call | unary | binary =>
      exact ⟨fun h => (nomatch h), fun h => (nomatch h.1)⟩

end Expr

namespace Program

/-
  A source that is parsed lists the variables that are looked
  up, each once and in the order in which they first occur; a
  name that is only called is not listed.  What the program
  gives depends on the values of these variables alone.
-/
theorem parse_dependsOn_names
    (source : String)
    (p : Program)
    (hParse : parse source = .ok p) :
    IsDigest p.names
      (p.instructions.filterMap Instruction.reference?) ∧
    (∀ name, name ∈ p.names ↔ ∃ i ∈ p.instructions,
      i.opcode = .reference ∧ i.name? = some name) ∧
    (∀ env other : Environment,
      Environment.AgreesOn p.names env other →
        evaluate p.instructions env =
          evaluate p.instructions other) := by
  rcases exists_ofExpr_of_parse hParse with ⟨ls, e, _, rfl⟩
  have hDigest :
      IsDigest (ofExpr e).names
        ((ofExpr e).instructions.filterMap
          Instruction.reference?) := by
    dsimp only [ofExpr]
    rw [e.filterMap_reference?]
    exact isDigest_eraseDups e.names
  refine ⟨hDigest, fun name => ?_, fun env other hAgree => ?_⟩
  · rw [hDigest.mem_iff, List.mem_filterMap]
    constructor
    · rintro ⟨i, hMem, hReference⟩
      exact ⟨i, hMem,
        (Expr.reference?_eq_some_iff hMem).mp hReference⟩
    · rintro ⟨i, hMem, hReference⟩
      exact ⟨i, hMem,
        (Expr.reference?_eq_some_iff hMem).mpr hReference⟩
  · apply evaluate_eq_of_agreesOn hAgree
    intro i hMem name hReference
    exact mem_names_of_reference? hMem hReference

/- The same environment, in which no variable is called `f`. -/
def partialEnvironment : Environment :=
  { listingEnvironment with
    valueOf? := fun name =>
      if name = "f" then none else some (.integer 2) }

/- A name that is called is no variable, and does not count. -/
theorem parse_dependsOn_names_call :
    ∃ p, parse "b IN f(a, b)" = .ok p ∧
      p.names = ["b", "a"] ∧
      IsDigest p.names
        (p.instructions.filterMap Instruction.reference?) ∧
      evaluate p.instructions listingEnvironment =
        evaluate p.instructions partialEnvironment := by
  have hNames :
      ((parse "b IN f(a, b)").map Program.names).toOption =
        some ["b", "a"] := by
    decide +kernel
  cases hParse : parse "b IN f(a, b)" with
  | error e =>
      rw [hParse] at hNames
      cases hNames
  | ok p =>
      rw [hParse] at hNames
      have hListed : p.names = ["b", "a"] :=
        Option.some.inj hNames
      have hDepends := parse_dependsOn_names _ p hParse
      refine ⟨p, rfl, hListed, hDepends.1, ?_⟩
      apply hDepends.2.2
      refine ⟨?_, rfl, rfl⟩
      rw [hListed]
      simp [listingEnvironment, partialEnvironment]

end Program

end Formula
