import Formula.Proofs.Grammar.Completeness
import Formula.Proofs.Program.Emission

/-
  The compiler follows the grammar.

  Tokens compile just when the lexemes they stand for are an
  expression.  The program is the postfix form of the only
  derivation of these lexemes.

  Main statements:
    * `Expr.exists_ofLexemes?_iff`
    * `Program.ofTokens?_derivation`
-/

namespace Formula

/- Lexemes denote an expression just when they are derivable. -/
theorem Expr.exists_ofLexemes?_iff
    {ls : List Lexeme} :
    (∃ e, Expr.ofLexemes? ls = .ok e) ↔
      ∃ d : Derivation .expression, d.yield = ls := by
  constructor
  · rintro ⟨e, hParse⟩
    rcases exists_derivation hParse with ⟨d, hYield, -⟩
    exact ⟨d, hYield⟩
  · rintro ⟨d, rfl⟩
    exact exists_of_derivation d

namespace Program

variable {tokens : List Token}
variable {ls : List Lexeme}

/- Lexemes compile just when they are derivable. -/
theorem exists_ofLexemes?_iff :
    (∃ p, Program.ofLexemes? ls = .ok p) ↔
      ∃ d : Derivation .expression, d.yield = ls := by
  rw [← Expr.exists_ofLexemes?_iff]
  constructor
  · rintro ⟨p, hParse⟩
    rcases ofLexemes?_eq_ok_iff.mp hParse with ⟨e, hRead, -⟩
    exact ⟨e, hRead⟩
  · rintro ⟨e, hRead⟩
    exact ⟨_, ofLexemes?_eq_ok_iff.mpr ⟨e, hRead, rfl⟩⟩

/- A program is the code of the derivation it comes from. -/
theorem instructions_eq_code
    {d : Derivation .expression}
    {p : Program}
    (hParse : Program.ofLexemes? d.yield = .ok p) :
    p.instructions = d.code := by
  rcases ofLexemes?_eq_ok_iff.mp hParse with ⟨e, hRead, rfl⟩
  rcases Expr.exists_derivation hRead with
    ⟨d', hYield, hCode, -⟩
  rw [← Derivation.yield_injective hYield]
  exact hCode

/- Tokens compile as the lexemes do that they stand for. -/
theorem ofTokens?_eq_ofLexemes?
    (hLexemes : Lexeme.ofTokens? tokens = .ok ls) :
    ofTokens? tokens = Program.ofLexemes? ls := by
  rw [ofTokens?, hLexemes, Outcome.ok_bind]

/-
  Tokens compile just when their lexemes are derivable, and
  then to the code of the only derivation.
-/
theorem ofTokens?_derivation
    (tokens : List Token)
    (ls : List Lexeme)
    (hLexemes : Lexeme.ofTokens? tokens = .ok ls) :
    ((∃ p, ofTokens? tokens = .ok p) ↔
      ∃ d : Derivation .expression, d.yield = ls) ∧
    ∀ p, ofTokens? tokens = .ok p →
      ∃ d : Derivation .expression,
        d.yield = ls ∧ p.instructions = d.code ∧
        ∀ d' : Derivation .expression,
          d'.yield = ls → d' = d := by
  rw [ofTokens?_eq_ofLexemes? hLexemes]
  refine ⟨exists_ofLexemes?_iff, fun p hParse => ?_⟩
  rcases exists_ofLexemes?_iff.mp ⟨p, hParse⟩ with ⟨d, rfl⟩
  refine ⟨d, rfl, instructions_eq_code hParse, ?_⟩
  intro d' hYield
  exact Derivation.yield_injective hYield

/- The tokens of `a NOT IN f(b,)`. -/
def membershipTokens : List Token :=
  [ ⟨.word, "a", ⟨1, 1⟩⟩,
    ⟨.keyword, "NOT", ⟨1, 3⟩⟩,
    ⟨.keyword, "IN", ⟨1, 7⟩⟩,
    ⟨.word, "f", ⟨1, 10⟩⟩,
    ⟨.symbol, "(", ⟨1, 11⟩⟩,
    ⟨.word, "b", ⟨1, 12⟩⟩,
    ⟨.symbol, ",", ⟨1, 13⟩⟩,
    ⟨.symbol, ")", ⟨1, 14⟩⟩ ]

/- The lexemes of `a NOT IN f(b,)`. -/
def membershipLexemes : List Lexeme :=
  [ ⟨.name "a", "a", ⟨1, 1⟩, ⟨1, 2⟩⟩,
    ⟨.mark .not, "NOT", ⟨1, 3⟩, ⟨1, 6⟩⟩,
    ⟨.mark .isIn, "IN", ⟨1, 7⟩, ⟨1, 9⟩⟩,
    ⟨.name "f", "f", ⟨1, 10⟩, ⟨1, 11⟩⟩,
    ⟨.mark .leftParen, "(", ⟨1, 11⟩, ⟨1, 12⟩⟩,
    ⟨.name "b", "b", ⟨1, 12⟩, ⟨1, 13⟩⟩,
    ⟨.mark .comma, ",", ⟨1, 13⟩, ⟨1, 14⟩⟩,
    ⟨.mark .rightParen, ")", ⟨1, 14⟩, ⟨1, 15⟩⟩ ]

/-
  The only derivation of `a NOT IN f(b,)` counts one argument
  and puts the operator where the word `NOT` stands.
-/
theorem ofTokens?_derivation_membership :
    Lexeme.ofTokens? membershipTokens = .ok membershipLexemes ∧
    ∃ d : Derivation .expression,
      d.yield = membershipLexemes ∧
      d.code =
        [ .reference "a" ⟨1, 1⟩,
          .reference "b" ⟨1, 12⟩,
          .constant (.integer 1) ⟨1, 10⟩,
          .call "f" ⟨1, 10⟩,
          .binary .isNotIn ⟨1, 3⟩ ] ∧
      ∀ d' : Derivation .expression,
        d'.yield = membershipLexemes → d' = d := by
  refine ⟨rfl, ?_⟩
  rcases (ofTokens?_derivation membershipTokens
    membershipLexemes rfl).2 _ rfl with
    ⟨d, hYield, hCode, hUnique⟩
  exact ⟨d, hYield, hCode.symm, hUnique⟩

end Program

end Formula
