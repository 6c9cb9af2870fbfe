import Formula.Calculator
import Formula.Proofs.Token.Quoting

/-
  What quotations mean.

  A text in single quotes is a constant, whose value is the
  text.  A text in double quotes is a variable that has the
  text for its name.

  Main statements:
    * `Program.parse_single_quoted`
    * `Program.parse_double_quoted`
    * `Program.quoting_preserves`
-/

namespace Formula

namespace Program

open Tokenizer

/- Between single quotes any text is a constant. -/
theorem parse_single_quoted
    (s : String) :
    parse (expression.quoted '\'' s) =
      .ok ⟨[.constant (.string s) ⟨1, 1⟩], []⟩ := by
  rw [parse, parsing_tokens_quoted (.inr rfl)]
  rfl

/- Between double quotes any text is a name. -/
theorem parse_double_quoted
    (s : String) :
    parse (expression.quoted '\x22' s) =
      .ok ⟨[.reference s ⟨1, 1⟩], [s]⟩ := by
  rw [parse, parsing_tokens_quoted (.inl rfl)]
  rfl

/-
  A text that is put in quotes is not lost.  Without them it
  is what it was; in front of any other text the quotation is
  the first token; in single quotes it is computed, and in
  double quotes it is a variable.
-/
theorem quoting_preserves
    (s : String) :
    (∀ q,
      expression.unquoted q (expression.quoted q s) = s) ∧
    (∀ q rest,
      q = '\x22' ∨ q = '\'' → rest.toList.head? ≠ some q →
        (expression.tokens
          (expression.quoted q s ++ rest)).head? =
            some ⟨.ofQuote q, expression.quoted q s,
              ⟨1, 1⟩⟩) ∧
    (∀ moment,
      calculate moment (expression.quoted '\'' s) =
        .ok (.string s)) ∧
    parse (expression.quoted '\x22' s) =
      .ok ⟨[.reference s ⟨1, 1⟩], [s]⟩ := by
  refine ⟨?_, ?_, ?_, parse_double_quoted s⟩
  · intro q
    exact expression.unquoted_quoted q s
  · intro q rest hQuote hRest
    exact head?_tokens_quoted hQuote s hRest
  · intro moment
    rw [calculate, calculateIn, parse_single_quoted]
    rfl

/- Quotes at both ends of a text are no harm to it. -/
theorem quoting_preserves_quotes :
    expression.quoted '\'' "'\r'" = "'''\r'''" ∧
    "+'".toList.head? ≠ some '\'' ∧
    (expression.tokens "'''\r'''+'").head? =
      some ⟨.quoted, "'''\r'''", ⟨1, 1⟩⟩ ∧
    expression.unquoted '\'' "'''\r'''" = "'\r'" := by
  rcases quoting_preserves "'\r'" with
    ⟨hInner, hFirst, _, _⟩
  have hRest : "+'".toList.head? ≠ some '\'' := by decide
  exact ⟨by decide, hRest, hFirst '\'' "+'" (.inr rfl) hRest,
    hInner '\''⟩

end Program

end Formula
