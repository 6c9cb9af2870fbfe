import Formula.Calculator
import Formula.Proofs.Directory
import Formula.Proofs.Function.Correspondence
import Formula.Proofs.Program.References

/-
  Calculators that take another expression.

  A calculator that fails to take an expression is unchanged.
  One that takes it may get further variables, all of them
  null, behind those that it had.  It then has all that its
  program refers to, in whatever letter case.

  Main statements:
    * `Calculator.exists_added_of_declare`
    * `Calculator.has_declare`
    * `Calculator.evaluate_finds`
    * `Calculator.run_takeExpression_of_ok`
    * `Calculator.takeExpression_atomic`
-/

namespace Formula

------------------------------------------------------------
-- The Library
------------------------------------------------------------

theorem Strictness.isOperational_policy
    (s : Strictness) :
    s.policy.IsOperational := by
  cases s with
  | strict => exact Policy.isOperational_strict
  | permissive => exact Policy.isOperational_permissive

/- A call of the library fails as operations do. -/
theorem Moment.isOperational_call
    (m : Moment)
    {p : Policy}
    (hPolicy : p.IsOperational)
    {name : String}
    {f : Function}
    (hFunction : m.library.get? name = some f)
    (args : List Value) :
    (f.call args p).IsOperational := by
  rcases Directory.exists_mem_of_get? hFunction with
    ⟨e, hMem, rfl⟩
  exact m.isParametric_of_mem_library hMem .operation p p
    hPolicy args

namespace Calculator

------------------------------------------------------------
-- Declarations
------------------------------------------------------------

/- Variables without values for names that are not known. -/
def undeclared
    (bindings : Directory Value)
    (names : List String) : List (Entry Value) :=
  (names.filter fun name => !bindings.has name).map
    fun name => ⟨name, .null⟩

theorem mem_undeclared_iff
    {bindings : Directory Value}
    {names : List String}
    {e : Entry Value} :
    e ∈ undeclared bindings names ↔
      e.name ∈ names ∧ ¬ bindings.has e.name = true ∧
        e.content = .null := by
  rw [undeclared, List.mem_map]
  constructor
  · rintro ⟨name, hName, rfl⟩
    rcases List.mem_filter.mp hName with ⟨hMem, hUnknown⟩
    exact ⟨hMem, by simpa using hUnknown, rfl⟩
  · rcases e with ⟨name, content⟩
    rintro ⟨hMem, hUnknown, rfl⟩
    have hKept : (!bindings.has name) = true := by
      simpa using hUnknown
    exact ⟨name, List.mem_filter.mpr ⟨hMem, hKept⟩, rfl⟩

/- Declaring is putting what is not known behind the rest. -/
theorem declare_eq_putAll
    (bindings : Directory Value)
    (names : List String) :
    declare bindings names =
      bindings.putAll (undeclared bindings names) := by
  rw [declare, Directory.putAll, undeclared, List.foldl_map]

/- What is declared has no value, and is behind the rest. -/
theorem exists_added_of_declare
    (bindings : Directory Value)
    (names : List String) :
    ∃ added,
      (declare bindings names).entries =
        bindings.entries ++ added ∧
      ∀ e ∈ added, e.content = .null ∧ e.name ∈ names := by
  have hNew :
      ∀ n ∈ undeclared bindings names,
        ∀ e ∈ bindings.entries, ¬ SameName e.name n.name := by
    intro n hMem e hEntry hSame
    exact (mem_undeclared_iff.mp hMem).2.1
      (Directory.has_iff.mpr ⟨e, hEntry, hSame⟩)
  have hEntries := Directory.entries_putAll_append hNew []
  rw [List.append_nil, ← declare_eq_putAll] at hEntries
  refine ⟨_, hEntries, ?_⟩
  intro e hMem
  rcases Directory.mem_of_mem_putAll hMem with hOld | hAdded
  · cases hOld
  · rcases mem_undeclared_iff.mp hAdded with ⟨hName, _, hNull⟩
    exact ⟨hNull, hName⟩

/- All names are declared, whatever their letter case is. -/
theorem has_declare
    {bindings : Directory Value}
    {names : List String}
    {name : String}
    (hName : name ∈ names) :
    (declare bindings names).has name = true := by
  rw [declare_eq_putAll, Directory.has_putAll]
  by_cases hKnown : bindings.has name = true
  · exact .inr hKnown
  · left
    refine ⟨⟨name, .null⟩, ?_, SameName.refl name⟩
    exact mem_undeclared_iff.mpr ⟨hName, hKnown, rfl⟩

------------------------------------------------------------
-- Compilation
------------------------------------------------------------

/- A source is blank and does nothing, or else is parsed. -/
theorem compile_eq_ok_iff
    {source : String}
    {p : Program} :
    compile source = .ok p ↔
      (trim source.toList = [] ∧ p = .empty) ∨
        (trim source.toList ≠ [] ∧
          Program.parse source = .ok p) := by
  unfold compile
  by_cases hBlank : trim source.toList = []
  · rw [if_pos (List.isEmpty_iff.mpr hBlank)]
    simp [hBlank, eq_comm]
  · rw [if_neg (mt List.isEmpty_iff.mp hBlank)]
    simp [hBlank]

/- A compiled program refers to the names it lists. -/
theorem mem_names_of_compile
    {source : String}
    {p : Program}
    {i : Instruction}
    {name : String}
    (hCompile : compile source = .ok p)
    (hMem : i ∈ p.instructions)
    (hReference : i.reference? = some name) :
    name ∈ p.names := by
  rcases compile_eq_ok_iff.mp hCompile with
    ⟨_, rfl⟩ | ⟨_, hParse⟩
  · cases hMem
  · rcases Program.exists_ofExpr_of_parse hParse with
      ⟨_, e, _, rfl⟩
    exact Program.mem_names_of_reference? hMem hReference

/-
  With the library, and with all variables that its program
  lists, a calculator finds every variable.
-/
theorem evaluate_finds
    {k : Calculator}
    {m : Moment}
    (hCompile : compile k.source = .ok k.program)
    (hNames :
      ∀ name ∈ k.program.names, k.bindings.has name = true)
    (hFunctions : k.functions = m.library)
    (name : String) :
    k.evaluate.Finds name := by
  have hOperational :
      (Environment.ofTables k.bindings k.functions
        k.settings.strictness.policy).IsOperational := by
    have hPolicy := k.settings.strictness.isOperational_policy
    refine ⟨hPolicy, ?_⟩
    intro callee f hFunction args
    rw [hFunctions] at hFunction
    exact m.isOperational_call hPolicy hFunction args
  unfold evaluate evaluateWith
  split
  · exact Outcome.finds_ok _
  · intro f hRun hMissing
    rcases exists_reference_of_misses hOperational hRun
      hMissing with ⟨⟨i, hMem, hReference⟩, hNone⟩
    have hKnown := hNames name
      (mem_names_of_compile hCompile hMem hReference)
    exact Directory.get?_ne_none_of_has hKnown hNone

------------------------------------------------------------
-- Taking an Expression
------------------------------------------------------------

/- A source that does not compile changes nothing. -/
theorem run_takeExpression_of_error
    {source : String}
    {e : SyntaxError}
    (hCompile : compile source = .error e)
    (k : Calculator) :
    (takeExpression source).run k = .error e k := by
  unfold takeExpression
  rw [hCompile]
  rfl

/- A source that compiles is taken with its program. -/
theorem run_takeExpression_of_ok
    {source : String}
    {p : Program}
    (hCompile : compile source = .ok p)
    (k : Calculator) :
    (takeExpression source).run k =
      .ok ()
        { k with
          source := source
          program := p
          bindings :=
            if k.settings.autoVariables then
              declare k.bindings p.names
            else k.bindings } := by
  rcases k with ⟨⟨strictness, autoVariables⟩, _, _, _, _⟩
  unfold takeExpression
  rw [hCompile]
  cases autoVariables with
  | true => rfl
  | false => rfl

/-
  An expression is taken as a whole or not at all.  A failure
  leaves the calculator as it was.  Otherwise the variables are
  those from before and, behind them, further ones without
  values; with the library for its functions, a calculator that
  declares variables then finds every one.
-/
theorem takeExpression_atomic
    (k : Calculator)
    (source : String) :
    (∀ e after,
      (takeExpression source).run k = .error e after →
        after = k) ∧
    (∀ after, (takeExpression source).run k = .ok () after →
      after.settings = k.settings ∧
      after.functions = k.functions ∧
      (∃ added,
        after.bindings.entries = k.bindings.entries ++ added ∧
        (∀ e ∈ added, e.content = .null) ∧
        (k.settings.autoVariables = false → added = [])) ∧
      ∀ m : Moment,
        k.settings.autoVariables = true →
          k.functions = m.library →
            ∀ f name, after.evaluate = .error f →
              f.cause ≠ .variableNotFound name) := by
  cases hCompile : compile source with
  | error e =>
      rw [run_takeExpression_of_error hCompile]
      constructor
      · rintro _ _ ⟨⟩
        rfl
      · intro after hTaken
        cases hTaken
  | ok p =>
      rw [run_takeExpression_of_ok hCompile]
      constructor
      · intro e after hFailed
        cases hFailed
      · rintro _ ⟨⟩
        refine ⟨rfl, rfl, ?_, ?_⟩
        · cases hDeclare : k.settings.autoVariables with
          | false =>
              refine ⟨[], ?_, ?_, fun _ => rfl⟩
              · exact (List.append_nil _).symm
              · intro e hMem
                cases hMem
          | true =>
              rcases exists_added_of_declare k.bindings p.names
                with ⟨added, hEntries, hAdded⟩
              refine ⟨added, hEntries, ?_, ?_⟩
              · exact fun e hMem => (hAdded e hMem).1
              · intro hKept
                cases hKept
        · intro m hDeclare hFunctions f name hRun
          have hNames :
              ∀ name ∈ p.names,
                (if k.settings.autoVariables then
                  declare k.bindings p.names
                else k.bindings).has name = true := by
            intro name hName
            rw [if_pos hDeclare]
            exact has_declare hName
          have hFinds := evaluate_finds
            (k := ⟨k.settings, source, p, _, k.functions⟩)
            hCompile hNames hFunctions name
          exact hFinds f hRun

/- A calculator with the variable `X` and without expression. -/
def boundCalculator : Calculator :=
  (new ⟨.epoch, 0⟩ .standard).setBindings
    ⟨[⟨"X", .integer 2⟩]⟩

/-
  One name in three letter cases is one variable, behind the
  variable that was there, and it is found each time.
-/
theorem takeExpression_atomic_letterCase :
    ∃ after,
      (takeExpression "Name + nAME * x - NAME").run
        boundCalculator = .ok () after ∧
      after.bindings.names = ["X", "NAME"] ∧
      ∀ f name, after.evaluate = .error f →
        f.cause ≠ .variableNotFound name := by
  have hNames :
      ((compile "Name + nAME * x - NAME").map
          Program.names).toOption =
        some ["Name", "nAME", "x", "NAME"] := by
    decide +kernel
  cases hCompile : compile "Name + nAME * x - NAME" with
  | error e =>
      rw [hCompile] at hNames
      cases hNames
  | ok p =>
      rw [hCompile] at hNames
      have hTaken :=
        run_takeExpression_of_ok hCompile boundCalculator
      refine ⟨_, hTaken, ?_, ?_⟩
      · have hDeclared :
            (declare boundCalculator.bindings p.names).names =
              ["X", "NAME"] := by
          rw [Option.some.inj hNames]
          decide +kernel
        exact hDeclared
      · have hAtomic :=
          takeExpression_atomic boundCalculator
            "Name + nAME * x - NAME"
        exact (hAtomic.2 _ hTaken).2.2.2 ⟨.epoch, 0⟩ rfl rfl

end Calculator

end Formula
