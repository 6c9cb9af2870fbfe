import Formula.Proofs.Grammar.Stuck

/-
  What comes of reading a phrase.

  A parser reads a whole phrase, or it halts in front of a
  mark that should go on with it, or it fails.  In the last
  two cases the lexemes before are stuck in front of those
  that are left.

  Key definitions include:
    * `SyntaxError.StandsAt`
    * `Parser.Verdict`

  Main statements:
    * `Parser.Verdict.map`
    * `Parser.Verdict.lift`
-/

namespace Formula

/- Something that was opened is not closed. -/
def SyntaxCause.IsMissing
    (cause : SyntaxCause) : Prop :=
  cause = .missingParenthesis ∨ cause = .missingBracket

/-
  An error was found in front of some lexemes.  It has the
  position of the first one, which it may name, or else that
  of the end.
-/
def SyntaxError.StandsAt
    (f : SyntaxError)
    (ending : Position) : List Lexeme → Prop
  | [] =>
      f.position = ending ∧
        (f.cause = .unexpectedEnd ∨ f.cause.IsMissing)
  | l :: _ =>
      f.position = l.position ∧
        (f.cause = .leftOver l.text ∨
          f.cause = .noOperand l.text ∨ f.cause.IsMissing)

namespace Parser

variable {α : Type}
variable {s t : Phrase}
variable {ending : Position}
variable {ls : List Lexeme}

/- What comes of reading a phrase. -/
inductive Verdict
    (s : Phrase)
    (ending : Position)
    (ls : List Lexeme) :
    Except SyntaxError (α × List Lexeme) → Prop where
  | read
      (d : Derivation s)
      (a : α)
      (rest : List Lexeme)
      (hSplit : ls = d.yield ++ rest)
      (hStops : s.Stops rest) :
      Verdict s ending ls (.ok (a, rest))
  | halted
      (before after : List Lexeme)
      (a : α)
      (hSplit : ls = before ++ after)
      (hTight : ¬ s.Stops after)
      (hStuck : (Form.phrase s).IsStuck before after) :
      Verdict s ending ls (.ok (a, after))
  | refused
      (before after : List Lexeme)
      (f : SyntaxError)
      (hSplit : ls = before ++ after)
      (hStands : f.StandsAt ending after)
      (hStuck : (Form.phrase s).IsStuck before after) :
      Verdict s ending ls (.error f)

/- A verdict does not look at what is made of a phrase. -/
theorem Verdict.map
    {β : Type}
    {run : Except SyntaxError (α × List Lexeme)}
    (f : α → β)
    (hVerdict : Verdict s ending ls run) :
    Verdict s ending ls (do
      let (a, rest) ← run
      .ok (f a, rest)) := by
  cases hVerdict with
  | read d a rest hSplit hStops =>
      exact .read d (f a) rest hSplit hStops
  | halted before after a hSplit hTight hStuck =>
      exact .halted before after (f a) hSplit hTight hStuck
  | refused before after f hSplit hStands hStuck =>
      exact .refused before after f hSplit hStands hStuck

/-
  The verdict on a phrase is that on a longer one, which ends
  with it.
-/
theorem Verdict.lift
    {run : Except SyntaxError (α × List Lexeme)}
    (opening : List Lexeme)
    (hVerdict : Verdict s ending ls run)
    (hRead :
      ∀ d : Derivation s, ∃ d' : Derivation t,
        d'.yield = opening ++ d.yield)
    (hStops : ∀ rest, t.Stops rest ↔ s.Stops rest)
    (hStuck :
      ∀ before after, ls = before ++ after →
        (Form.phrase s).IsStuck before after →
        (Form.phrase t).IsStuck (opening ++ before) after) :
    Verdict t ending (opening ++ ls) run := by
  cases hVerdict with
  | read d a rest hSplit hEnd =>
      rcases hRead d with ⟨d', hYield⟩
      refine .read d' a rest ?_ ((hStops rest).mpr hEnd)
      rw [hSplit, hYield, List.append_assoc]
  | halted before after a hSplit hTight hInner =>
      refine .halted (opening ++ before) after a ?_ ?_
        (hStuck before after hSplit hInner)
      · rw [hSplit, List.append_assoc]
      · exact fun hEnd => hTight ((hStops after).mp hEnd)
  | refused before after f hSplit hStands hInner =>
      refine .refused (opening ++ before) after f ?_ hStands
        (hStuck before after hSplit hInner)
      rw [hSplit, List.append_assoc]

end Parser

end Formula
