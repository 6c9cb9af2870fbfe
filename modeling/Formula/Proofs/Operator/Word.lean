import Mathlib
import Formula.Proofs.Operator.Indexing

/-
  Whole numbers as words of 32 or 64 bits.

  A word stands for an integer of its width.  The operators on
  words compute with these integers and wrap the result around
  at the width.  So a quotient that has no word of its own does
  no harm: multiplied by the divisor and with the remainder
  added it gives the dividend again.

  Key definitions include:
    * `Value.IsWord`

  Main statements:
    * `Value.IsWord.unique`
    * `Policy.IsOffered.add_word`
    * `Policy.IsOffered.mul_word`
    * `Policy.IsOffered.div_word`
    * `Policy.IsOffered.rem_word`
    * `Policy.division_restored`
-/

namespace Formula

------------------------------------------------------------
-- Words
------------------------------------------------------------

namespace Value

/- A value is a word of a width that stands for an integer. -/
inductive IsWord : Nat → Value → Int → Prop where
  | integer (k : Int32) : IsWord 32 (.integer k) k.toInt
  | long (k : Int64) : IsWord 64 (.long k) k.toInt

variable {w : Nat} {a b : Value} {m n : Int}

namespace IsWord

theorem of_integer
    {k : Int32}
    (hNumber : k.toInt = m) :
    IsWord 32 (.integer k) m :=
  hNumber ▸ .integer k

theorem of_long
    {k : Int64}
    (hNumber : k.toInt = m) :
    IsWord 64 (.long k) m :=
  hNumber ▸ .long k

/- Words of one width have one type, which is not null. -/
theorem isNull_eq
    (hWord : IsWord w a m) :
    a.isNull = false := by
  cases hWord with
  | integer k => rfl
  | long k => rfl

theorem type_eq
    (hLeft : IsWord w a m)
    (hRight : IsWord w b n) :
    b.type = a.type := by
  cases hLeft with
  | integer k =>
      cases hRight with
      | integer l => rfl
  | long k =>
      cases hRight with
      | long l => rfl

/- The integer of a word is within the range of its width. -/
theorem bmod_eq
    (hWord : IsWord w a m) :
    m.bmod (2 ^ w) = m := by
  cases hWord with
  | integer k => exact k.toInt_bmod
  | long k => exact k.toInt_bmod

/- A word is the only one that stands for its integer. -/
theorem unique
    (hLeft : IsWord w a m)
    (hRight : IsWord w b m) :
    a = b := by
  cases hLeft with
  | integer k =>
      generalize hNumber : k.toInt = m at hRight
      cases hRight with
      | integer l =>
          rw [Int32.toInt_inj.mp hNumber]
  | long k =>
      generalize hNumber : k.toInt = m at hRight
      cases hRight with
      | long l =>
          rw [Int64.toInt_inj.mp hNumber]

end IsWord

end Value

------------------------------------------------------------
-- Operators on Words
------------------------------------------------------------

namespace Policy

open Value Conversion

variable {p : Policy}
variable {w : Nat} {a b : Value} {m n : Int}

/-
  An operator that gives a word for two words of either width
  gives a word of their width.
-/
theorem IsOffered.exists_word
    (hOffered : p.IsOffered)
    (hLeft : IsWord w a m)
    (hRight : IsWord w b n)
    {op : BinaryOp}
    {symbol : String}
    {apply : Value → Value → Option (Outcome Value)}
    (result : Nat → Int)
    (hOp : p.applyBinary op a b = p.aligned symbol a b apply)
    (hInteger : ∀ k l : Int32, k.toInt = m → l.toInt = n →
      ∃ r : Int32,
        apply (.integer k) (.integer l) =
          some (.ok (.integer r)) ∧
        r.toInt = result 32)
    (hLong : ∀ k l : Int64, k.toInt = m → l.toInt = n →
      ∃ r : Int64,
        apply (.long k) (.long l) = some (.ok (.long r)) ∧
        r.toInt = result 64) :
    ∃ c, p.applyBinary op a b = .ok c ∧
      IsWord w c (result w) := by
  have hApply : ∃ c, apply a b = some (.ok c) ∧
      IsWord w c (result w) := by
    cases hLeft with
    | integer k =>
        cases hRight with
        | integer l =>
            rcases hInteger k l rfl rfl with
              ⟨r, hResult, hNumber⟩
            exact ⟨.integer r, hResult, .of_integer hNumber⟩
    | long k =>
        cases hRight with
        | long l =>
            rcases hLong k l rfl rfl with
              ⟨r, hResult, hNumber⟩
            exact ⟨.long r, hResult, .of_long hNumber⟩
  rcases hApply with ⟨c, hResult, hWord⟩
  refine ⟨c, ?_, hWord⟩
  rw [hOp]
  exact hOffered.aligned_eq hLeft.isNull_eq
    (hLeft.type_eq hRight) hResult symbol

/- The sum of words wraps around. -/
theorem IsOffered.add_word
    (hOffered : p.IsOffered)
    (hLeft : IsWord w a m)
    (hRight : IsWord w b n) :
    ∃ c, p.applyBinary .add a b = .ok c ∧
      IsWord w c ((m + n).bmod (2 ^ w)) := by
  rcases hOffered.exists_eq_policy with ⟨q, rfl⟩
  have hOp :
      q.policy.applyBinary .add a b =
        q.aligned "+" a b addSame := by
    cases hLeft with
    | integer k => rfl
    | long k => rfl
  refine hOffered.exists_word hLeft hRight
    (fun w => (m + n).bmod (2 ^ w)) hOp ?_ ?_
  · rintro k l rfl rfl
    exact ⟨k + l, rfl, Int32.toInt_add k l⟩
  · rintro k l rfl rfl
    exact ⟨k + l, rfl, Int64.toInt_add k l⟩

/- The product of words wraps around. -/
theorem IsOffered.mul_word
    (hOffered : p.IsOffered)
    (hLeft : IsWord w a m)
    (hRight : IsWord w b n) :
    ∃ c, p.applyBinary .mul a b = .ok c ∧
      IsWord w c ((m * n).bmod (2 ^ w)) := by
  rcases hOffered.exists_eq_policy with ⟨q, rfl⟩
  refine hOffered.exists_word hLeft hRight
    (fun w => (m * n).bmod (2 ^ w)) rfl ?_ ?_
  · rintro k l rfl rfl
    exact ⟨k * l, rfl, Int32.toInt_mul k l⟩
  · rintro k l rfl rfl
    exact ⟨k * l, rfl, Int64.toInt_mul k l⟩

------------------------------------------------------------
-- Division
------------------------------------------------------------

/- Quotients are cut toward zero, and wrap around. -/
theorem IsOffered.div_word
    (hOffered : p.IsOffered)
    (hLeft : IsWord w a m)
    (hRight : IsWord w b n)
    (hDivisor : n ≠ 0) :
    ∃ c, p.applyBinary .div a b = .ok c ∧
      IsWord w c ((m.tdiv n).bmod (2 ^ w)) := by
  rcases hOffered.exists_eq_policy with ⟨q, rfl⟩
  refine hOffered.exists_word hLeft hRight
    (fun w => (m.tdiv n).bmod (2 ^ w)) rfl ?_ ?_
  · rintro k l rfl rfl
    have hNonzero : l ≠ 0 := mt (congrArg Int32.toInt) hDivisor
    exact ⟨k / l, congrArg some (if_neg hNonzero),
      Int32.toInt_div k l⟩
  · rintro k l rfl rfl
    have hNonzero : l ≠ 0 := mt (congrArg Int64.toInt) hDivisor
    exact ⟨k / l, congrArg some (if_neg hNonzero),
      Int64.toInt_div k l⟩

/- Remainders stay within the range. -/
theorem IsOffered.rem_word
    (hOffered : p.IsOffered)
    (hLeft : IsWord w a m)
    (hRight : IsWord w b n)
    (hDivisor : n ≠ 0) :
    ∃ c, p.applyBinary .rem a b = .ok c ∧
      IsWord w c (m.tmod n) := by
  rcases hOffered.exists_eq_policy with ⟨q, rfl⟩
  refine hOffered.exists_word hLeft hRight
    (fun _ => m.tmod n) rfl ?_ ?_
  · rintro k l rfl rfl
    have hNonzero : l ≠ 0 := mt (congrArg Int32.toInt) hDivisor
    exact ⟨k % l, congrArg some (if_neg hNonzero),
      Int32.toInt_mod k l⟩
  · rintro k l rfl rfl
    have hNonzero : l ≠ 0 := mt (congrArg Int64.toInt) hDivisor
    exact ⟨k % l, congrArg some (if_neg hNonzero),
      Int64.toInt_mod k l⟩

/- Nothing is divided by zero. -/
theorem IsOffered.division_by_zero
    (hOffered : p.IsOffered)
    (hLeft : IsWord w a m)
    (hRight : IsWord w b 0) :
    p.applyBinary .div a b = .error divisionByZero ∧
      p.applyBinary .rem a b = .error divisionByZero := by
  rcases hOffered.exists_eq_policy with ⟨q, rfl⟩
  have hSame :
      divSame a b = some (.error divisionByZero) ∧
        remSame a b = some (.error divisionByZero) := by
    generalize hZero : (0 : Int) = n at hRight
    cases hLeft with
    | integer k =>
        cases hRight with
        | integer l =>
            have hNone : l = 0 := Int32.toInt_inj.mp hZero.symm
            subst hNone
            exact ⟨rfl, rfl⟩
    | long k =>
        cases hRight with
        | long l =>
            have hNone : l = 0 := Int64.toInt_inj.mp hZero.symm
            subst hNone
            exact ⟨rfl, rfl⟩
  have hNull := hLeft.isNull_eq
  have hType := hLeft.type_eq hRight
  exact ⟨hOffered.aligned_eq hNull hType hSame.1 "/",
    hOffered.aligned_eq hNull hType hSame.2 "%"⟩

/-
  A quotient times the divisor, with the remainder added, is
  the dividend, even if the quotient has wrapped around.
-/
theorem wrap_quotient_add_remainder
    (w : Nat)
    (m n : Int) :
    (((m.tdiv n).bmod (2 ^ w) * n).bmod (2 ^ w) +
      m.tmod n).bmod (2 ^ w) = m.bmod (2 ^ w) := by
  rw [Int.bmod_mul_bmod, Int.bmod_add_bmod,
    Int.tdiv_mul_add_tmod]

/- A remainder is zero or on the same side as the dividend. -/
theorem sign_remainder
    (m n : Int) :
    m.tmod n = 0 ∨ (m.tmod n).sign = m.sign := by
  rw [Int.sign_tmod]
  split
  · rename_i hDivides
    exact .inl (Int.tmod_eq_zero_of_dvd hDivides)
  · exact .inr rfl

/- A remainder is nearer to zero than the divisor. -/
theorem natAbs_remainder_lt
    (m : Int)
    {n : Int}
    (hDivisor : n ≠ 0) :
    (m.tmod n).natAbs < n.natAbs := by
  rw [Int.natAbs_tmod]
  exact Nat.mod_lt _ (Int.natAbs_pos.mpr hDivisor)

/-
  Quotient and remainder of two words fit together.  Both are
  refused for a divisor of zero, and for no other.  Otherwise
  the quotient times the divisor, with the remainder added, is
  the dividend; the remainder is zero or has the sign of the
  dividend, and it is nearer to zero than the divisor.
-/
theorem division_restored
    (hOffered : p.IsOffered)
    (hLeft : IsWord w a m)
    (hRight : IsWord w b n) :
    (p.applyBinary .div a b = .error divisionByZero ↔
      n = 0) ∧
    (p.applyBinary .rem a b = .error divisionByZero ↔
      n = 0) ∧
    (n ≠ 0 → ∃ quotient remainder product r,
      p.applyBinary .div a b = .ok quotient ∧
      p.applyBinary .rem a b = .ok remainder ∧
      p.applyBinary .mul quotient b = .ok product ∧
      p.applyBinary .add product remainder = .ok a ∧
      IsWord w remainder r ∧
      (r = 0 ∨ r.sign = m.sign) ∧
      r.natAbs < n.natAbs) := by
  by_cases hDivisor : n = 0
  · subst hDivisor
    rcases hOffered.division_by_zero hLeft hRight with
      ⟨hDiv, hRem⟩
    simp only [hDiv, hRem, ne_eq, not_true_eq_false,
      false_implies, and_self]
  · rcases hOffered.div_word hLeft hRight hDivisor with
      ⟨quotient, hDiv, hQuotient⟩
    rcases hOffered.rem_word hLeft hRight hDivisor with
      ⟨remainder, hRem, hRemainder⟩
    rcases hOffered.mul_word hQuotient hRight with
      ⟨product, hMul, hProduct⟩
    rcases hOffered.add_word hProduct hRemainder with
      ⟨sum, hAdd, hSum⟩
    rw [wrap_quotient_add_remainder, hLeft.bmod_eq] at hSum
    cases hLeft.unique hSum
    refine ⟨?_, ?_, fun _ => ⟨quotient, remainder, product,
      m.tmod n, hDiv, hRem, hMul, hAdd, hRemainder,
      sign_remainder m n, natAbs_remainder_lt m hDivisor⟩⟩
    · rw [hDiv]
      simp only [reduceCtorEq, hDivisor]
    · rw [hRem]
      simp only [reduceCtorEq, hDivisor]

/- The least number divided by the number below zero. -/
theorem division_restored_least :
    IsOffered strict ∧
    IsWord 64 (.long Int64.minValue)
      (-9223372036854775808) ∧
    IsWord 64 (.long (-1)) (-1) ∧
    (-1 : Int) ≠ 0 ∧
    strict.applyBinary .div (.long Int64.minValue)
        (.long (-1)) =
      .ok (.long Int64.minValue) ∧
    strict.applyBinary .rem (.long Int64.minValue)
        (.long (-1)) =
      .ok (.long 0) ∧
    strict.applyBinary .mul (.long Int64.minValue)
        (.long (-1)) =
      .ok (.long Int64.minValue) ∧
    strict.applyBinary .add (.long Int64.minValue) (.long 0) =
      .ok (.long Int64.minValue) := by
  have hOffered : IsOffered strict := .inl rfl
  have hLeft := IsWord.long Int64.minValue
  have hRight := IsWord.long (-1)
  have hDivisor : (-1 : Int) ≠ 0 := by decide
  have hDiv :
      strict.applyBinary .div (.long Int64.minValue)
          (.long (-1)) =
        .ok (.long Int64.minValue) := rfl
  have hMul :
      strict.applyBinary .mul (.long Int64.minValue)
          (.long (-1)) =
        .ok (.long Int64.minValue) := rfl
  rcases (division_restored hOffered hLeft hRight).2.2
    hDivisor with
    ⟨quotient, remainder, product, r, hQuotient, hRem,
      hProduct, hAdd, hWord, -, hSmall⟩
  cases hDiv.symm.trans hQuotient
  cases hMul.symm.trans hProduct
  have hNone : r = 0 := by
    change r.natAbs < 1 at hSmall
    omega
  subst hNone
  cases hWord.unique (IsWord.long 0)
  exact ⟨hOffered, hLeft, hRight, hDivisor, hDiv, hRem, hMul,
    hAdd⟩

end Policy

end Formula
