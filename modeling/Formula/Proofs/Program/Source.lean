import Formula.Proofs.Grammar.Lexeme

/-
  A source and its tokens compile alike.

  Main statements:
    * `Program.ofTokens?_tokens`
-/

namespace Formula

namespace Program

/-
  The tokens of a source compile to what the source compiles
  to, whatever the tokenizer drops and adjusts, if it takes
  quoted text out of its quotes.
-/
theorem ofTokens?_tokens
    (options : Options)
    (source : String)
    (hDecode : options.decodeStrings = true) :
    ofTokens?
      ((Tokenizer.expressionWith options).tokens source) =
      parse source := by
  have hTokens :=
    Lexeme.ofTokens?_expressionWith hDecode source
  have hSource :
      Lexeme.ofTokens? (Tokenizer.parsing.tokens source) = _ :=
    Lexeme.ofTokens?_expressionWith rfl source
  rw [parse, ofTokens?, ofTokens?, hTokens, hSource]

/-
  A tokenizer may keep blanks, comments and the end, and may
  write blanks and numbers in another way.
-/
theorem ofTokens?_tokens_merged :
    (⟨true, false, false, false, true, true, true⟩ :
      Options).decodeStrings = true ∧
    ofTokens?
      ((Tokenizer.expressionWith
        ⟨true, false, false, false, true, true, true⟩).tokens
          "'it''s' \n+ /* 1 */ 2.5e3 \x22a b\x22") =
      parse "'it''s' \n+ /* 1 */ 2.5e3 \x22a b\x22" :=
  ⟨rfl, ofTokens?_tokens _ _ rfl⟩

end Program

end Formula
