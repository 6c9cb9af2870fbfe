import Formula.Proofs.Calculator.WholeNumber
import Formula.Proofs.Grammar.Correctness
import Formula.Proofs.Policy.Reliability
import Formula.Proofs.Program.Compilation

/-
  Calls with many arguments.

  The arguments of a call are counted in 32 bits.  A call of
  any length compiles, and its last two instructions are the
  number of its arguments, up to a multiple of `2 ^ 32`, and
  the function.  Where this number is negative, the call fails
  internally.

  Key definitions include:
    * `Derivation.ofPrimary`
    * `Tokenizer.lexemesAt`
    * `longCall`

  Main statements:
    * `Machine.exists_run_of_constants`
    * `Program.exists_parse_longCall`
    * `Program.isInternal_longCall`
-/

namespace Formula

------------------------------------------------------------
-- Sources
------------------------------------------------------------

/- Some arguments that are one, and the end of a call. -/
def longArguments : Nat → List Char
  | 0 => [')']
  | n + 1 => '1' :: ',' :: longArguments n

/- The call `Array(1,1,…)` with a number of arguments. -/
def longCall
    (n : Nat) : String :=
  String.ofList ("Array(".toList ++ longArguments n)

theorem toList_longCall
    (n : Nat) :
    (longCall n).toList =
      "Array(".toList ++ longArguments n :=
  String.toList_ofList

namespace Derivation

/- A primary by itself is an expression. -/
def ofPrimary
    (d : Derivation .primary) : Derivation .expression :=
  let unary : Derivation .unary := .unsigned d .noAccess
  let power : Derivation (.chain .power) :=
    .chain unary .noLink
  let product : Derivation (.chain .product) :=
    .chain power .noLink
  let sum : Derivation (.chain .sum) := .chain product .noLink
  .chain (.assertion (.chain sum .noLink)) .noLink

@[simp] theorem yield_ofPrimary
    (d : Derivation .primary) :
    (ofPrimary d).yield = d.yield := by
  simp [ofPrimary]

@[simp] theorem code_ofPrimary
    (d : Derivation .primary) :
    (ofPrimary d).code = d.code := by
  simp [ofPrimary]

end Derivation

------------------------------------------------------------
-- Lexemes
------------------------------------------------------------

namespace Tokenizer

/- The lexemes in front of a cursor, if all tokens have one. -/
def lexemesAt
    (k : Cursor) : Except SyntaxError (List Lexeme) :=
  Lexeme.ofTokens?
    ((expression.rawTokens k).filterMap parsing.refine?)

variable {k : Cursor}
variable {c : Char}
variable {rest : List Char}
variable {ls : List Lexeme}

/- A first piece with a meaning gives the first lexeme. -/
theorem exists_lexemesAt_cons
    {p : Piece}
    {content : LexemeContent}
    (hAfter : k.after = c :: rest)
    (hFirst : expression.first c rest = p)
    (hMeaning : Lexeme.isIgnored p.kind = false)
    (hKnown : p.kind ≠ .unknown)
    (hPlain : ∀ c ∈ p.text.head?, c ≠ '\x22' ∧ c ≠ '\'')
    (hContent :
      LexemeContent.ofToken?
          ⟨p.kind, String.ofList p.text, k.ahead⟩ =
        some content)
    (hRest : lexemesAt (k.skip p.text.length) = .ok ls) :
    ∃ l, l.content = content ∧ lexemesAt k = .ok (l :: ls) := by
  have hKept :
      parsing.refine?
          ⟨p.kind, String.ofList p.text, k.ahead⟩ =
        some ⟨p.kind, String.ofList p.text, k.ahead⟩ := by
    apply refine?_of_ne_quote hMeaning hKnown
    rw [String.toList_ofList]
    exact hPlain
  unfold lexemesAt Lexeme.ofTokens? at hRest
  rw [lexemesAt, expression.rawTokens_of_more hAfter, hFirst,
    Cursor.take, List.filterMap_cons, hKept, Lexeme.ofTokens?]
  dsimp only
  rw [List.filter_cons_of_pos, List.mapM_cons,
    Lexeme.ofToken?, hContent, Outcome.ok_bind, hRest]
  · exact ⟨_, rfl, rfl⟩
  · rw [hMeaning]
    rfl

/- A symbol by itself gives the mark that it is. -/
theorem exists_lexemesAt_mark
    {m : Mark}
    (hAfter : k.after = c :: rest)
    (hFirst : expression.first c rest = ⟨.symbol, [c]⟩)
    (hPlain : c ≠ '\x22' ∧ c ≠ '\'')
    (hMark : Mark.ofSymbol? (String.ofList [c]) = some m)
    (hRest : lexemesAt (k.skip 1) = .ok ls) :
    ∃ l : Marked m, lexemesAt k = .ok (l.1 :: ls) := by
  have hContent :
      LexemeContent.ofToken?
          ⟨.symbol, String.ofList [c], k.ahead⟩ =
        some (.mark m) := by
    rw [LexemeContent.ofToken?, hMark]
    rfl
  have hHead : ∀ d ∈ [c].head?, d ≠ '\x22' ∧ d ≠ '\'' := by
    rintro d ⟨⟩
    exact hPlain
  rcases exists_lexemesAt_cons hAfter hFirst rfl (by simp)
    hHead hContent hRest with ⟨l, hMark, hLexemes⟩
  exact ⟨⟨l, by rw [Lexeme.mark?, hMark]⟩, hLexemes⟩

/- The name `Array` is read up to a parenthesis. -/
theorem exists_lexemesAt_name
    (hAfter : k.after = "Array(".toList ++ rest)
    (hRest : lexemesAt (k.skip 5) = .ok ls) :
    ∃ l, l.content = .name "Array" ∧
      lexemesAt k = .ok (l :: ls) := by
  have hRole : expression.role? 'A' = some .word := by
    decide +kernel
  have hWord : isKeyword "Array" = false := by
    decide +kernel
  have hFirst :
      expression.first 'A' ("rray(".toList ++ rest) =
        ⟨.word, "Array".toList⟩ := by
    have hRead :
        expression.rules.read .word
            ('A' :: ("rray(".toList ++ rest)) =
          if isKeyword "Array" then
            ⟨.keyword, "Array".toList⟩
          else ⟨.word, "Array".toList⟩ := rfl
    rw [expression_first_eq_read hRole, hRead, hWord]
    rfl
  have hHead :
      ∀ d ∈ "Array".toList.head?, d ≠ '\x22' ∧ d ≠ '\'' := by
    rintro d ⟨⟩
    decide
  exact exists_lexemesAt_cons hAfter hFirst rfl (by simp)
    hHead rfl hRest

/- The end of a call is read as it is. -/
theorem exists_lexemesAt_closing
    (hAfter : k.after = [')']) :
    ∃ closing : Marked .rightParen,
      lexemesAt k = .ok [closing.1] := by
  have hEnd : (k.skip 1).after = [] := by
    rw [Cursor.after_skip, hAfter]
    rfl
  have hNothing : lexemesAt (k.skip 1) = .ok [] := by
    rw [lexemesAt, expression.rawTokens_of_end hEnd]
    rfl
  exact exists_lexemesAt_mark hAfter rfl (by decide) rfl
    hNothing

/- A one before a comma is read as a constant. -/
theorem exists_lexemesAt_one
    (hAfter : k.after = '1' :: ',' :: rest)
    (hRest : lexemesAt (k.skip 1) = .ok ls) :
    ∃ l, l.content = .constant (.integer 1) ∧
      lexemesAt k = .ok (l :: ls) := by
  have hDigits : IsDigits ['1'] := by
    refine ⟨List.cons_ne_nil _ _, ?_⟩
    rintro d (_ | ⟨_, ⟨⟩⟩)
    rfl
  have hHead : ∀ d ∈ ['1'].head?, d ≠ '\x22' ∧ d ≠ '\'' := by
    rintro d ⟨⟩
    decide
  have hContent :
      LexemeContent.ofToken?
          ⟨.integer, String.ofList ['1'], k.ahead⟩ =
        some (.constant (.integer 1)) := by
    rw [LexemeContent.ofToken?]
    dsimp only
    rw [String.toList_ofList,
      LexemeContent.numberOf?_digits hDigits]
    rfl
  exact exists_lexemesAt_cons (p := ⟨.integer, ['1']⟩) hAfter
    rfl rfl (by simp) hHead hContent hRest

/-
  The arguments of a call are read up to its end, as many as
  there are.
-/
theorem exists_lexemesAt_longArguments
    (n : Nat)
    (hAfter : k.after = longArguments n) :
    ∃ (args : Derivation .arguments)
      (closing : Marked .rightParen),
      lexemesAt k = .ok (args.yield ++ [closing.1]) ∧
        args.count = n ∧
        ∀ i ∈ args.code, i.opcode = .constant := by
  induction n generalizing k with
  | zero =>
      rcases exists_lexemesAt_closing hAfter with
        ⟨closing, hLexemes⟩
      exact ⟨.noArgument, closing, hLexemes, rfl, by simp⟩
  | succ n ih =>
      have hComma :
          (k.skip 1).after = ',' :: longArguments n := by
        rw [Cursor.after_skip, hAfter]
        rfl
      have hOthers :
          ((k.skip 1).skip 1).after = longArguments n := by
        rw [Cursor.after_skip, hComma]
        rfl
      rcases ih hOthers with
        ⟨args, closing, hLexemes, hCount, hCode⟩
      rcases exists_lexemesAt_mark hComma rfl (by decide) rfl
        hLexemes with ⟨comma, hMore⟩
      rcases exists_lexemesAt_one hAfter hMore with
        ⟨l, hConstant, hAll⟩
      let one : Derivation .primary :=
        .constant l _ hConstant
      refine ⟨.moreArguments (.ofPrimary one) comma args,
        closing, hAll, congrArg Nat.succ hCount, ?_⟩
      intro i hMem
      rw [Derivation.code, Derivation.code_ofPrimary] at hMem
      rcases List.mem_cons.mp hMem with rfl | hLater
      · rfl
      · exact hCode i hLater

end Tokenizer

------------------------------------------------------------
-- Programs
------------------------------------------------------------

namespace Machine

variable {env : Environment}
variable {constants : List Instruction}

/- Constants alone never fail. -/
theorem exists_run_of_constants
    (hConstants : ∀ i ∈ constants, i.opcode = .constant)
    (s : ValueStack) :
    ∃ s', run env constants s = .ok s' := by
  induction constants generalizing s with
  | nil => exact ⟨s, rfl⟩
  | cons i is ih =>
      have hStep : i.step env s = .ok (s.push i.payload) := by
        rw [Instruction.step, hConstants i List.mem_cons_self]
      have hOthers : ∀ j ∈ is, j.opcode = .constant :=
        fun j hMem => hConstants j (List.mem_cons_of_mem _ hMem)
      rcases ih hOthers (s.push i.payload) with ⟨s', hRun⟩
      refine ⟨s', ?_⟩
      rw [run_cons, hStep]
      exact hRun

/- A call without a valid number of arguments is internal. -/
theorem isInternal_of_uncounted
    (hConstants : ∀ i ∈ constants, i.opcode = .constant)
    {count : Value}
    (hCount : argumentCount? count = none)
    (name : String)
    (p : Position) :
    ∃ f, evaluate
        (constants ++ [.constant count p, .call name p]) env =
          .error f ∧
        f.IsInternal := by
  rcases exists_run_of_constants hConstants [] with ⟨s, hRun⟩
  have hCall :
      Instruction.stepCall env name (count :: s) =
        .error (Cause.internal
          ("'" ++ name ++
            "' was called without a valid argument count")
          ).unplaced := by
    rw [Instruction.stepCall, ValueStack.pop, Outcome.ok_bind]
    dsimp only
    rw [hCount]
  rw [evaluate, run_append, hRun, Outcome.ok_bind, run_cons,
    Instruction.step_constant, Outcome.ok_mapError,
    Outcome.ok_bind, run_singleton, Instruction.step_call,
    ValueStack.push, hCall]
  exact ⟨_, rfl, _, rfl⟩

end Machine

namespace Program

open Tokenizer

/-
  A call of any length compiles, to constants, their number
  and the function.
-/
theorem exists_parse_longCall
    (n : Nat) :
    ∃ p constants place,
      parse (longCall n) = .ok p ∧
        p.instructions = constants ++
          [ .constant (.integer (Int32.ofNat n)) place,
            .call "Array" place ] ∧
        ∀ i ∈ constants, i.opcode = .constant := by
  let k : Cursor := .ofList ("Array(".toList ++ longArguments n)
  have hBehind : (k.skip 6).after = longArguments n := by
    rw [Cursor.after_skip]
    rfl
  rcases exists_lexemesAt_longArguments n hBehind with
    ⟨args, closing, hArgs, hCount, hConstants⟩
  have hOpening :
      (k.skip 5).after = '(' :: longArguments n := by
    rw [Cursor.after_skip]
    rfl
  have hInside :
      lexemesAt ((k.skip 5).skip 1) =
        .ok (args.yield ++ [closing.1]) := by
    rw [Cursor.skip_skip]
    exact hArgs
  rcases exists_lexemesAt_mark hOpening rfl (by decide) rfl
    hInside with ⟨opening, hMore⟩
  rcases exists_lexemesAt_name (k := k) rfl hMore with
    ⟨l, hName, hAll⟩
  let d : Derivation .expression :=
    .ofPrimary (.call l "Array" hName opening args closing)
  have hLexemes :
      Lexeme.ofTokens? (parsing.tokens (longCall n)) =
        .ok d.yield := by
    rw [parsing_tokens_eq, toList_longCall,
      Derivation.yield_ofPrimary]
    exact hAll
  rcases exists_ofLexemes?_iff.mpr ⟨d, rfl⟩ with ⟨p, hParse⟩
  refine ⟨p, args.code, l.position, ?_, ?_, hConstants⟩
  · rw [parse, ofTokens?_eq_ofLexemes? hLexemes]
    exact hParse
  · rw [instructions_eq_code hParse, Derivation.code_ofPrimary,
      Derivation.code, hCount]

/- A call whose count is negative fails internally. -/
theorem isInternal_longCall
    {n : Nat}
    (hCount :
      argumentCount? (.integer (Int32.ofNat n)) = none) :
    ∃ p, parse (longCall n) = .ok p ∧
      ∀ env, ∃ f, evaluate p.instructions env = .error f ∧
        f.IsInternal := by
  rcases exists_parse_longCall n with
    ⟨p, constants, place, hParse, hCode, hConstants⟩
  refine ⟨p, hParse, fun env => ?_⟩
  rw [hCode]
  exact Machine.isInternal_of_uncounted hConstants hCount
    "Array" place

end Program

end Formula
