import Formula.Proofs.Grammar.Linker

/-
  Beginnings that nothing completes.

  Lexemes with which a form can begin are stuck in front of a
  lexeme when nothing of that form goes on with it.  What is
  stuck inside a form is stuck in the form as well.

  A word that counts only together with those behind it, `IS`
  or `NOT`, is left out here: one lexeme does not tell.

  Key definitions include:
    * `Lexeme.OpensSequence`
    * `Form`
    * `Form.IsStuck`
    * `Form.Encloses`

  Main statements:
    * `Form.IsStuck.lift`
-/

namespace Formula

/- A lexeme is the first word of a longer sequence. -/
def Lexeme.OpensSequence
    (l : Lexeme) : Prop :=
  l.mark? = some .is ∨ l.mark? = some .not

instance (l : Lexeme) : Decidable l.OpensSequence :=
  inferInstanceAs (Decidable (_ ∨ _))

/- A lexeme that is a mark and nothing else. -/
def Marked.of
    (m : Mark) : Marked m :=
  ⟨⟨.mark m, "", .start, .start⟩, rfl⟩

------------------------------------------------------------
-- First Marks
------------------------------------------------------------

/- The first mark is that of what stands in front. -/
theorem headMark?_append_cons
    (before : List Lexeme)
    (l : Lexeme)
    (ls ls' : List Lexeme) :
    headMark? (before ++ l :: ls) =
      headMark? (before ++ l :: ls') := by
  cases before with
  | nil => rfl
  | cons first before => rfl

namespace Phrase

variable {s : Phrase}
variable {ls ls' : List Lexeme}

/- Where a phrase ends is decided by the first mark behind. -/
theorem Stops.congr
    (hStops : s.Stops ls)
    (hHead : headMark? ls' = headMark? ls) :
    s.Stops ls' := by
  cases s with
  | arguments => exact hHead.trans hStops
  | _ => exact fun m hMark => hStops m (hHead ▸ hMark)

theorem stops_iff
    (hKind : s ≠ .arguments) :
    s.Stops ls ↔
      ∀ m, headMark? ls = some m → m.tightness < s.rank := by
  cases s with
  | arguments => exact absurd rfl hKind
  | _ => rfl

/- What does not end a phrase begins with too tight a mark. -/
theorem exists_of_not_stops
    (hKind : s ≠ .arguments)
    (hTight : ¬ s.Stops ls) :
    ∃ l rest m, ls = l :: rest ∧ l.mark? = some m ∧
      s.rank ≤ m.tightness := by
  rw [stops_iff hKind] at hTight
  cases hHead : headMark? ls with
  | none =>
      rw [hHead] at hTight
      exact absurd (fun _ hMark => nomatch hMark) hTight
  | some m =>
      rcases exists_cons_of_headMark? hHead with
        ⟨l, rest, rfl⟩
      refine ⟨l.1, rest, m, rfl, hHead, Nat.le_of_not_lt ?_⟩
      intro hLess
      apply hTight
      intro m' hMark
      cases hHead.symm.trans hMark
      exact hLess

/- Every phrase but arguments can stand at the end. -/
theorem stops_nil
    (hKind : s ≠ .arguments) :
    s.Stops [] := by
  rw [stops_iff hKind]
  intro m hMark
  cases hMark

/- There is something in front of which a phrase ends. -/
theorem exists_stops
    (s : Phrase) :
    ∃ rest, s.Stops rest := by
  by_cases hKind : s = .arguments
  · subst hKind
    exact ⟨[(Marked.of .rightParen).1], rfl⟩
  · exact ⟨[], stops_nil hKind⟩

end Phrase

------------------------------------------------------------
-- Forms
------------------------------------------------------------

/-
  What some lexemes may be like, together with those that
  stand behind them.
-/
abbrev Form : Type :=
  List Lexeme → List Lexeme → Prop

namespace Form

variable {s : Phrase}
variable {F G : Form}
variable {before after opening : List Lexeme}

/- A phrase in front of what ends it. -/
def phrase
    (s : Phrase) : Form :=
  fun body rest =>
    ∃ d : Derivation s, d.yield = body ∧ s.Stops rest

/- A phrase with a closing mark behind it. -/
def closed
    (s : Phrase)
    (m : Mark) : Form :=
  fun body _ => ∃ (d : Derivation s) (closing : Marked m),
    d.yield ++ [closing.1] = body

/-
  Some lexemes are the beginning of a form, but not together
  with the lexeme that follows them.
-/
structure IsStuck
    (F : Form)
    (before after : List Lexeme) : Prop where
  begins : ∃ body rest, F body rest ∧ before <+: body
  bars : ∀ l ls, after = l :: ls → ¬ l.OpensSequence →
    ∀ body rest more, F body rest →
      body ++ rest ≠ before ++ l :: more

/- What begins a form is not stuck at the end of the input. -/
theorem IsStuck.of_nil
    {body rest : List Lexeme}
    (hForm : F body rest)
    (hPrefix : before <+: body) :
    F.IsStuck before [] := by
  refine ⟨⟨body, rest, hForm, hPrefix⟩, ?_⟩
  intro l ls hAfter
  cases hAfter

/- A whole phrase is stuck where no other goes on with it. -/
theorem IsStuck.of_phrase
    (d : Derivation s)
    (hBars :
      ∀ l ls, after = l :: ls → ¬ l.OpensSequence →
        ∀ (d' : Derivation s) rest more, s.Stops rest →
          d'.yield ++ rest ≠ d.yield ++ l :: more) :
    (phrase s).IsStuck d.yield after := by
  refine ⟨?_, ?_⟩
  · rcases s.exists_stops with ⟨rest, hStops⟩
    exact ⟨d.yield, rest, ⟨d, rfl, hStops⟩, List.prefix_rfl⟩
  · rintro l ls hAfter hWord _ rest more ⟨d', rfl, hStops⟩
    exact hBars l ls hAfter hWord d' rest more hStops

/-
  Lexemes of one form, with `opening` before them, begin
  another form.
-/
def Extends
    (F G : Form)
    (opening : List Lexeme) : Prop :=
  ∀ body rest, G body rest →
    ∃ body' rest', F body' rest' ∧ opening ++ body <+: body'

/-
  A form that begins with `opening`, and with `ls` behind it,
  holds another form that begins with `ls`.
-/
def Encloses
    (F G : Form)
    (opening ls : List Lexeme) : Prop :=
  ∀ body rest, F body rest → body ++ rest = opening ++ ls →
    ∃ body' rest', G body' rest' ∧ body' ++ rest' = ls

/- What is stuck in a form is stuck in what encloses it. -/
theorem IsStuck.lift
    (hStuck : G.IsStuck before after)
    (hExtends : F.Extends G opening)
    (hEncloses :
      ∀ ls, headMark? ls = headMark? (before ++ after) →
        F.Encloses G opening ls) :
    F.IsStuck (opening ++ before) after := by
  refine ⟨?_, ?_⟩
  · rcases hStuck.begins with ⟨body, rest, hForm, hPrefix⟩
    rcases hExtends body rest hForm with
      ⟨body', rest', hForm', hPrefix'⟩
    refine ⟨body', rest', hForm', ?_⟩
    have hLonger :=
      (List.prefix_append_right_inj opening).mpr hPrefix
    exact hLonger.trans hPrefix'
  · intro l ls hAfter hWord body rest more hForm hAppend
    have hHead :
        headMark? (before ++ l :: more) =
          headMark? (before ++ after) := by
      rw [hAfter]
      exact headMark?_append_cons before l more ls
    rw [List.append_assoc] at hAppend
    rcases hEncloses _ hHead body rest hForm hAppend with
      ⟨body', rest', hForm', hAppend'⟩
    exact hStuck.bars l ls hAfter hWord body' rest' more hForm'
      hAppend'

/- A phrase that is stuck is stuck in front of its close. -/
theorem IsStuck.unclosed
    {m : Mark}
    (hStops : ∀ l rest, l.mark? = some m → s.Stops (l :: rest))
    (hStuck : (phrase s).IsStuck before after) :
    (closed s m).IsStuck before after := by
  rw [← List.nil_append before]
  apply hStuck.lift
  · rintro body rest ⟨d, rfl, _⟩
    refine ⟨_, [], ⟨d, .of m, rfl⟩, ?_⟩
    exact List.prefix_append _ _
  · rintro ls _ body rest ⟨d, closing, rfl⟩ hAppend
    rw [List.append_assoc] at hAppend
    exact ⟨d.yield, closing.1 :: rest,
      ⟨d, rfl, hStops _ _ closing.2⟩, hAppend⟩

/- A phrase is stuck in front of what does not close it. -/
theorem IsStuck.unclosed_of_ne
    {m : Mark}
    {d : Derivation s}
    (hClosing :
      ∀ l rest, l.mark? = some m → s.Stops (l :: rest))
    (hStops : s.Stops after)
    (hOpen : headMark? after ≠ some m) :
    (closed s m).IsStuck d.yield after := by
  refine ⟨⟨_, [], ⟨d, .of m, rfl⟩, List.prefix_append _ _⟩, ?_⟩
  rintro l ls rfl _ body rest more ⟨d', closing, rfl⟩ hAppend
  rw [List.append_assoc] at hAppend
  have hStops' : s.Stops (l :: more) := hStops.congr rfl
  rcases d.isDetermined d' _ _ hStops'
    (hClosing _ _ closing.2) hAppend.symm with ⟨_, hRest⟩
  cases hRest
  exact hOpen closing.2

end Form

end Formula
