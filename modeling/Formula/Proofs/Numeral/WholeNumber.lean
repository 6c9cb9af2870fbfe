import Formula.Grammar.Lexeme
import Formula.Operator.Arithmetic
import Formula.Proofs.Numeral.Double
import Formula.Proofs.Numeral.Numeral

/-
  Whole numbers and their digits.

  Digits denote a whole number in the narrowest type that holds
  the number and its opposite.  So the opposite of a number is
  in the same type as the number, although its sign is no part
  of what is read.

  Key definitions include:
    * `Value.ofWhole`

  Main statements:
    * `LexemeContent.numberOf?_digits`
    * `negate_ofWhole`
-/

namespace Formula

/-
  A whole number in the narrowest type that holds it and its
  opposite, or else the floating-point number nearest to it.
-/
def Value.ofWhole
    (n : Int) : Value :=
  if n.natAbs ≤ 2 ^ 31 - 1 then .integer (Int32.ofInt n)
  else if n.natAbs ≤ 2 ^ 63 - 1 then .long (Int64.ofInt n)
  else .double (Double.ofInt n)

------------------------------------------------------------
-- Digits of Whole Numbers
------------------------------------------------------------

/- The digits of a whole number denote it. -/
theorem digitsValue_toDigits
    (n : Nat) :
    digitsValue (Nat.toDigits 10 n) = n :=
  Nat.ofDigitChars_ten_toDigits

theorem isDigits_toDigits
    (n : Nat) :
    IsDigits (Nat.toDigits 10 n) := by
  refine ⟨Nat.toDigits_ne_nil, ?_⟩
  intro c hMem
  have hDigit : c.isDigit = true :=
    Nat.isDigit_of_mem_toDigits (by decide) (by decide) hMem
  exact hDigit

/- Zeros in front of digits do not count. -/
theorem digitsValue_zeros
    (zeros : Nat)
    (digits : List Char) :
    digitsValue (List.replicate zeros '0' ++ digits) =
      digitsValue digits := by
  induction zeros with
  | zero => rfl
  | succ zeros ih => exact ih

theorem isDigits_zeros
    (zeros n : Nat) :
    IsDigits
      (List.replicate zeros '0' ++ Nat.toDigits 10 n) := by
  refine ⟨List.append_ne_nil_of_right_ne_nil _
    Nat.toDigits_ne_nil, ?_⟩
  intro c hMem
  rcases List.mem_append.mp hMem with hZero | hDigit
  · rw [List.eq_of_mem_replicate hZero]
    rfl
  · exact (isDigits_toDigits n).areDigits c hDigit

/- The text of a whole number is its digits, and a sign. -/
theorem toString_natCast
    (n : Nat) :
    toString (n : Int) =
      String.ofList (Nat.toDigits 10 n) :=
  Nat.repr_eq_ofList_toDigits

theorem toString_negSucc
    (n : Nat) :
    toString (Int.negSucc n) =
      String.ofList ('-' :: Nat.toDigits 10 (n + 1)) := by
  change "-" ++ (n + 1).repr = _
  rw [Nat.repr_eq_ofList_toDigits]
  exact String.ofList_append.symm

------------------------------------------------------------
-- Types of Whole Numbers
------------------------------------------------------------

/- Without a sign only the upper limits of a type matter. -/
theorem fitInt32?_natCast
    (m : Nat) :
    fitInt32? m =
      if m ≤ 2 ^ 31 - 1 then some (Int32.ofInt m)
      else none := by
  have hLimits :
      (Int32.minValue.toInt ≤ (m : Int) ∧
        (m : Int) ≤ Int32.maxValue.toInt) ↔
        m ≤ 2 ^ 31 - 1 := by
    have hLow : Int32.minValue.toInt = -(2 ^ 31) := by decide
    have hHigh : Int32.maxValue.toInt = 2 ^ 31 - 1 := by decide
    omega
  simp only [fitInt32?, hLimits]

theorem fitInt64?_natCast
    (m : Nat) :
    fitInt64? m =
      if m ≤ 2 ^ 63 - 1 then some (Int64.ofInt m)
      else none := by
  have hLimits :
      (Int64.minValue.toInt ≤ (m : Int) ∧
        (m : Int) ≤ Int64.maxValue.toInt) ↔
        m ≤ 2 ^ 63 - 1 := by
    have hLow : Int64.minValue.toInt = -(2 ^ 63) := by decide
    have hHigh : Int64.maxValue.toInt = 2 ^ 63 - 1 := by decide
    omega
  simp only [fitInt64?, hLimits]

/- Only the least number of a type is beyond its opposite. -/
theorem natAbs_toInt32_le_iff
    (n : Int32) :
    n.toInt.natAbs ≤ 2 ^ 31 - 1 ↔ n ≠ Int32.minValue := by
  have hLow := n.le_toInt
  have hHigh := n.toInt_lt
  rw [ne_eq, ← Int32.toInt_inj, Int32.toInt_minValue]
  omega

theorem natAbs_toInt64_le_iff
    (n : Int64) :
    n.toInt.natAbs ≤ 2 ^ 63 - 1 ↔ n ≠ Int64.minValue := by
  have hLow := n.le_toInt
  have hHigh := n.toInt_lt
  rw [ne_eq, ← Int64.toInt_inj, Int64.toInt_minValue]
  omega

/- Digits are read as the floating-point number nearest to them. -/
theorem read?_digits
    {digits : List Char}
    (hDigits : IsDigits digits) :
    Double.read? digits =
      some (Double.ofInt (digitsValue digits)) := by
  rcases List.exists_cons_of_ne_nil hDigits.ne_nil with
    ⟨c, rest, rfl⟩
  have hDigit := hDigits.areDigits c List.mem_cons_self
  have hPlus : c ≠ '+' := ne_of_isDigit hDigit rfl
  have hMinus : c ≠ '-' := ne_of_isDigit hDigit rfl
  have hStops : StopsDigits [] := by
    rintro c ⟨⟩
  have hRead := readDigits?_whole hDigits hStops false
  rw [List.append_nil] at hRead
  unfold Double.read? Decimal.read?
  rw [splitSign_of_ne hPlus hMinus]
  dsimp only
  rw [hRead, Decimal.readExponent?, Option.map_some,
    Option.some_or, Option.map_some, Decimal.toBits_whole]
  rfl

/- Digits denote a whole number in the narrowest type. -/
theorem LexemeContent.numberOf?_digits
    {digits : List Char}
    (hDigits : IsDigits digits) :
    numberOf? digits =
      some (.ofWhole (digitsValue digits)) := by
  unfold numberOf? readInt32? readInt64? Value.ofWhole
  rw [hDigits.readInt?_eq, Option.bind_some, Option.bind_some,
    fitInt32?_natCast, fitInt64?_natCast, read?_digits hDigits,
    Int.natAbs_natCast]
  generalize digitsValue digits = m
  by_cases hInteger : m ≤ 2 ^ 31 - 1
  · rw [if_pos hInteger, if_pos hInteger]
  · rw [if_neg hInteger, if_neg hInteger]
    by_cases hLong : m ≤ 2 ^ 63 - 1
    · rw [if_pos hLong, if_pos hLong]
    · rw [if_neg hLong, if_neg hLong]
      rfl

/- The opposite of a whole number is in the same type. -/
theorem negate_ofWhole
    (m : Nat) :
    negate (.ofWhole m) = .ok (.ofWhole (-m)) := by
  unfold Value.ofWhole
  rw [Int.natAbs_neg, Int.natAbs_natCast]
  split
  · rw [Int32.ofInt_neg]
    rfl
  · split
    · rw [Int64.ofInt_neg]
      rfl
    · rw [← Double.neg_ofInt (by omega)]
      rfl

end Formula
