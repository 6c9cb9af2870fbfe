import Formula.Calculator
import Formula.Proofs.Grammar.Lexeme
import Formula.Proofs.Numeral.WholeNumber
import Formula.Proofs.Token.Number
import Formula.Proofs.Token.Quoting

/-
  Whole numbers evaluate to themselves.

  The digits of a number are one token, whose value is in the
  narrowest type.  A minus sign in front of them is a token of
  its own, an operator that turns the value around.  The least
  number of a type is thus one of the next wider type, for its
  digits alone are too large.

  Main statements:
    * `calculate_wholeNumber`
-/

namespace Formula

------------------------------------------------------------
-- Tokens
------------------------------------------------------------

namespace Tokenizer

/- Digits by themselves are the longest numeral in them. -/
theorem isLongestNumeral_digits
    {digits : List Char}
    (hDigits : IsDigits digits) :
    IsLongestNumeral digits digits :=
  ⟨.plain (.whole hDigits), List.prefix_rfl,
    fun _ _ hPrefix => hPrefix.length_le⟩

/- Digits by themselves are read as one piece. -/
theorem expression_first_digits
    {c : Char}
    {rest : List Char}
    (hDigits : IsDigits (c :: rest)) :
    expression.first c rest = ⟨.integer, c :: rest⟩ := by
  have hDigit := hDigits.areDigits c List.mem_cons_self
  have hMinus : c ≠ '-' := ne_of_isDigit hDigit rfl
  have hLongest := isLongestNumeral_digits hDigits
  have hSome : BeginsNumeral (c :: rest) :=
    ⟨_, hLongest.1, hLongest.2.1⟩
  rcases NumberRule.readScientific_longest
    expression.rules.symbols hMinus hSome with
    ⟨value, hValue, hRead⟩
  cases hValue.eq hLongest
  rw [numeralKind_of_areDigits hDigits.areDigits] at hRead
  rw [expression_first_eq_read
    (expression_role?_number (.inl hDigit))]
  exact hRead

/- Digits by themselves are one token. -/
theorem rawTokens_digits
    {k : Cursor}
    (hDigits : IsDigits k.after) :
    expression.rawTokens k =
      [⟨.integer, String.ofList k.after, k.ahead⟩] := by
  rcases List.exists_cons_of_ne_nil hDigits.ne_nil with
    ⟨c, rest, hAfter⟩
  rw [hAfter] at hDigits
  have hEnd : (k.skip (c :: rest).length).after = [] := by
    rw [Cursor.after_skip, hAfter, List.drop_length]
  rw [expression.rawTokens_of_more hAfter,
    expression_first_digits hDigits,
    expression.rawTokens_of_end hEnd, hAfter]
  rfl

/- A minus sign is a token of its own. -/
theorem rawTokens_minus
    {k : Cursor}
    {rest : List Char}
    (hAfter : k.after = '-' :: rest) :
    expression.rawTokens k =
      ⟨.symbol, "-", k.ahead⟩ ::
        expression.rawTokens k.read := by
  have hRole : expression.role? '-' = some .number := by
    decide +kernel
  have hFirst : expression.first '-' rest = ⟨.symbol, ['-']⟩ :=
    expression_first_eq_read hRole rest
  rw [expression.rawTokens_of_more hAfter, hFirst]
  rfl

end Tokenizer

------------------------------------------------------------
-- Programs
------------------------------------------------------------

namespace Program

open Tokenizer

variable {digits : List Char}

/- Digits are kept for parsing as they are. -/
theorem refine?_digits
    (hDigits : IsDigits digits)
    (p : Position) :
    parsing.refine? ⟨.integer, String.ofList digits, p⟩ =
      some ⟨.integer, String.ofList digits, p⟩ := by
  apply refine?_of_ne_quote rfl (by decide)
  intro c hHead
  rw [String.toList_ofList] at hHead
  have hDigit := hDigits.areDigits c (List.mem_of_head? hHead)
  exact ⟨ne_of_isDigit hDigit rfl, ne_of_isDigit hDigit rfl⟩

theorem keptTokens_digits
    {k : Cursor}
    (hDigits : IsDigits k.after) :
    (expression.rawTokens k).filterMap parsing.refine? =
      [⟨.integer, String.ofList k.after, k.ahead⟩] := by
  rw [rawTokens_digits hDigits, List.filterMap_cons,
    refine?_digits hDigits]
  rfl

/- The lexeme of digits is a constant. -/
theorem ofToken?_digits
    (hDigits : IsDigits digits)
    (p : Position) :
    ∃ text ending,
      Lexeme.ofToken? ⟨.integer, String.ofList digits, p⟩ =
        .ok ⟨.constant (.ofWhole (digitsValue digits)), text,
          p, ending⟩ := by
  have hContent :
      LexemeContent.ofToken?
          ⟨.integer, String.ofList digits, p⟩ =
        some (.constant (.ofWhole (digitsValue digits))) := by
    unfold LexemeContent.ofToken?
    dsimp only
    rw [String.toList_ofList,
      LexemeContent.numberOf?_digits hDigits]
    rfl
  rw [Lexeme.ofToken?, hContent]
  exact ⟨_, _, rfl⟩

/- Digits are a constant. -/
theorem exists_parse_digits
    (hDigits : IsDigits digits) :
    ∃ p, parse (String.ofList digits) =
      .ok ⟨[.constant (.ofWhole (digitsValue digits)) p], []⟩ := by
  let k := Cursor.ofList digits
  have hTokens :
      parsing.tokens (String.ofList digits) =
        [⟨.integer, String.ofList digits, k.ahead⟩] := by
    rw [parsing_tokens_eq, String.toList_ofList]
    exact keptTokens_digits hDigits
  rcases ofToken?_digits hDigits k.ahead with
    ⟨text, ending, hLexeme⟩
  refine ⟨k.ahead, ?_⟩
  rw [parse, ofTokens?, hTokens]
  change ([_].mapM Lexeme.ofToken? >>= _) = _
  rw [List.mapM_cons, hLexeme]
  rfl

/- Digits behind a minus sign are a constant to be negated. -/
theorem exists_parse_minus
    (hDigits : IsDigits digits) :
    ∃ p q, parse (String.ofList ('-' :: digits)) =
      .ok ⟨[.constant (.ofWhole (digitsValue digits)) p,
        .unary .negate q], []⟩ := by
  let k := Cursor.ofList ('-' :: digits)
  have hMinus :
      parsing.refine? ⟨.symbol, "-", k.ahead⟩ =
        some ⟨.symbol, "-", k.ahead⟩ :=
    refine?_of_ne_quote rfl (by decide) (by simp) _
  have hTokens :
      parsing.tokens (String.ofList ('-' :: digits)) =
        [⟨.symbol, "-", k.ahead⟩,
          ⟨.integer, String.ofList digits, k.read.ahead⟩] := by
    rw [parsing_tokens_eq, String.toList_ofList,
      rawTokens_minus rfl, List.filterMap_cons, hMinus]
    exact congrArg _ (keptTokens_digits hDigits)
  rcases ofToken?_digits hDigits k.read.ahead with
    ⟨text, ending, hLexeme⟩
  refine ⟨k.read.ahead, k.ahead, ?_⟩
  rw [parse, ofTokens?, hTokens]
  change ([_, _].mapM Lexeme.ofToken? >>= _) = _
  rw [List.mapM_cons, List.mapM_cons, hLexeme]
  rfl

end Program

------------------------------------------------------------
-- Values
------------------------------------------------------------

variable {digits : List Char}
variable (moment : Moment)

/- Digits evaluate to the number that they denote. -/
theorem calculate_digits
    (hDigits : IsDigits digits) :
    calculate moment (String.ofList digits) =
      .ok (.ofWhole (digitsValue digits)) := by
  rcases Program.exists_parse_digits hDigits with ⟨p, hParse⟩
  rw [calculate, calculateIn, hParse]
  rfl

/- Behind a minus sign they evaluate to the opposite. -/
theorem calculate_minus
    (hDigits : IsDigits digits) :
    calculate moment (String.ofList ('-' :: digits)) =
      .ok (.ofWhole (-digitsValue digits)) := by
  rcases Program.exists_parse_minus hDigits with
    ⟨p, q, hParse⟩
  rw [calculate, calculateIn, hParse]
  have hNegate := negate_ofWhole (digitsValue digits)
  generalize Value.ofWhole (digitsValue digits) = v at hNegate ⊢
  let env : Environment :=
    .ofTables .empty moment.library .permissive
  have hRun :
      Machine.run env
          [.constant v p, .unary .negate q] [] =
        .ok [.ofWhole (-digitsValue digits)] := by
    change ((negate v).bind fun w => Except.ok [w]).mapError _ >>=
      _ = _
    rw [hNegate]
    rfl
  have hValue :
      evaluate [.constant v p, .unary .negate q] env =
        .ok (.ofWhole (-digitsValue digits)) := by
    rw [evaluate, hRun]
    rfl
  change (evaluate _ env).mapError CalculationError.failed = _
  rw [hValue]
  rfl

/- The text of a whole number evaluates to it. -/
theorem calculate_toString
    (n : Int) :
    calculate moment (toString n) = .ok (.ofWhole n) := by
  cases n with
  | ofNat n =>
      have hValue :=
        calculate_digits moment (isDigits_toDigits n)
      rw [digitsValue_toDigits] at hValue
      rw [Int.ofNat_eq_natCast, toString_natCast]
      exact hValue
  | negSucc n =>
      have hValue :=
        calculate_minus moment (isDigits_toDigits (n + 1))
      rw [digitsValue_toDigits] at hValue
      rw [toString_negSucc, hValue]
      rfl

/-
  Every whole number evaluates to itself, in the narrowest type
  that holds it and its opposite, or to the floating-point
  number nearest to it if there is none.  Zeros in front of it
  make no difference.  So a value of a type evaluates to itself
  if no narrower type will do, unless it is the least of its
  type: that one needs the next wider type.
-/
theorem calculate_wholeNumber :
    (∀ n : Int,
      calculate moment (toString n) =
        .ok (if n.natAbs ≤ 2 ^ 31 - 1 then
            .integer (Int32.ofInt n)
          else if n.natAbs ≤ 2 ^ 63 - 1 then
            .long (Int64.ofInt n)
          else .double (Double.ofInt n))) ∧
    (∀ n zeros : Nat,
      let digits := List.replicate zeros '0' ++
        Nat.toDigits 10 n
      calculate moment (String.ofList digits) =
          calculate moment (toString (n : Int)) ∧
        calculate moment (String.ofList ('-' :: digits)) =
          calculate moment (toString (-n : Int))) ∧
    (∀ n : Int32,
      calculate moment (Value.integer n).text =
        .ok (if n = Int32.minValue then .long n.toInt64
          else .integer n)) ∧
    (∀ n : Int64,
      calculate moment (Value.long n).text =
        .ok (if n.toInt.natAbs ≤ 2 ^ 31 - 1 then
            .integer n.toInt32
          else if n = Int64.minValue then
            .double (Double.ofInt n.toInt)
          else .long n)) := by
  refine ⟨calculate_toString moment, ?_, ?_, ?_⟩
  · intro n zeros digits
    have hDigits := isDigits_zeros zeros n
    have hValue : digitsValue digits = n :=
      (digitsValue_zeros zeros _).trans (digitsValue_toDigits n)
    rw [calculate_digits moment hDigits,
      calculate_minus moment hDigits, hValue,
      calculate_toString, calculate_toString]
    exact ⟨rfl, rfl⟩
  · intro n
    rw [Value.text, calculate_toString, Value.ofWhole]
    by_cases hLeast : n = Int32.minValue
    · subst hLeast
      rfl
    · have hSmall := (natAbs_toInt32_le_iff n).mpr hLeast
      rw [if_pos hSmall, if_neg hLeast, Int32.ofInt_toInt]
  · intro n
    have hSmall := natAbs_toInt64_le_iff n
    rw [Value.text, calculate_toString, Value.ofWhole,
      Int32.ofInt_int64ToInt, Int64.ofInt_toInt]
    by_cases hLeast : n = Int64.minValue
    · rw [if_neg (hSmall.not.mpr (not_not.mpr hLeast)),
        if_pos hLeast]
    · rw [if_pos (hSmall.mpr hLeast), if_neg hLeast]

end Formula
