import Mathlib
import Formula.Proofs.Operator.Word

/-
  Shifts as multiplication and division.

  A shift counts modulo the width of the number that it shifts.
  The count may be below zero or beyond the width: what matters
  is its remainder, which is never below zero.  To shift up is
  to multiply by a power of two and wrap around; to shift down
  is to divide by it, toward the numbers below zero.

  Main statements:
    * `toInt_shiftLeft_eq`
    * `toNat_smod_eq`
    * `Policy.IsOffered.shiftCount_word`
    * `Policy.shifts_scale`
-/

namespace Formula

------------------------------------------------------------
-- Bits
------------------------------------------------------------

section Bits

variable {w : Nat}

/- Bits that are shifted up stand for a multiple. -/
theorem toInt_shiftLeft_eq
    (x : BitVec w)
    (k : Nat) :
    (x <<< k).toInt = (x.toInt * 2 ^ k).bmod (2 ^ w) := by
  rw [BitVec.toInt_shiftLeft, BitVec.toInt_eq_toNat_bmod,
    Int.bmod_mul_bmod, Nat.shiftLeft_eq, Nat.cast_mul,
    Nat.cast_pow, Nat.cast_ofNat]

/- Bits that are shifted down stand for a quotient. -/
theorem toInt_sshiftRight_eq
    (x : BitVec w)
    (k : Nat) :
    (x.sshiftRight k).toInt = x.toInt.fdiv (2 ^ k) := by
  have hPower : (0 : Int) ≤ 2 ^ k := by positivity
  rw [BitVec.toInt_sshiftRight, Int.shiftRight_eq_div_pow,
    Int.fdiv_eq_ediv_of_nonneg _ hPower, Nat.cast_pow,
    Nat.cast_ofNat]

/- What is at least zero has no sign to drop. -/
theorem toNat_of_toInt
    {x : BitVec w}
    {k : Nat}
    (hNumber : x.toInt = k) :
    x.toNat = k := by
  have hBound := x.isLt
  rw [BitVec.toInt_eq_toNat_cond] at hNumber
  split at hNumber
  · omega
  · omega

variable {x y n : BitVec w} {k : Nat}

/- The remainder of a count is never below zero. -/
theorem toNat_smod_eq
    (hWidth : n.toInt = w)
    (hCount : y.toInt % w = k) :
    (y.smod n).toNat = k := by
  apply toNat_of_toInt
  rw [BitVec.toInt_smod, hWidth,
    Int.fmod_eq_emod_of_nonneg _ (Int.natCast_nonneg w),
    hCount]

/- Bits are shifted by the remainder of a count. -/
theorem toInt_shiftLeft_smod
    (hWidth : n.toInt = w)
    (hCount : y.toInt % w = k) :
    (x <<< y.smod n).toInt =
      (x.toInt * 2 ^ k).bmod (2 ^ w) := by
  rw [BitVec.shiftLeft_eq', toNat_smod_eq hWidth hCount,
    toInt_shiftLeft_eq]

theorem toInt_sshiftRight_smod
    (hWidth : n.toInt = w)
    (hCount : y.toInt % w = k) :
    (x.sshiftRight' (y.smod n)).toInt =
      x.toInt.fdiv (2 ^ k) := by
  rw [BitVec.sshiftRight', toNat_smod_eq hWidth hCount,
    toInt_sshiftRight_eq]

end Bits

------------------------------------------------------------
-- Shifted Words
------------------------------------------------------------

namespace Policy

open Value

variable {p : Policy}
variable {w : Nat} {a : Value} {m : Int}
variable {c : Int32} {k : Nat}

/- A count of 32 bits is not converted. -/
theorem IsOffered.shiftCount_word
    (hOffered : p.IsOffered)
    (hWord : IsWord w a m)
    (c : Int32) :
    p.shiftCount a (.integer c) = .ok (some c) := by
  have hCount : Value.isNull (.integer c) = false := rfl
  rw [Conversion.shiftCount, hWord.isNull_eq, hCount,
    hOffered.convert_integer]
  rfl

/- To shift a word up is to multiply it, and to wrap around. -/
theorem IsOffered.shiftLeft_word
    (hOffered : p.IsOffered)
    (hWord : IsWord w a m)
    (hCount : c.toInt % w = k) :
    ∃ r, p.applyBinary .shiftLeft a (.integer c) = .ok r ∧
      IsWord w r ((m * 2 ^ k).bmod (2 ^ w)) := by
  have hRead := hOffered.shiftCount_word hWord c
  rcases hOffered.exists_eq_policy with ⟨q, rfl⟩
  rw [Conversion.policy_toConversion] at hRead
  change ∃ r, q.shiftLeft a (.integer c) = .ok r ∧ _
  rw [Conversion.shiftLeft, hRead, Outcome.ok_bind]
  cases hWord with
  | integer a =>
      exact ⟨.integer (a <<< c), rfl,
        .of_integer (toInt_shiftLeft_smod rfl hCount)⟩
  | long a =>
      rw [← c.toInt_toInt64] at hCount
      exact ⟨.long (a <<< c.toInt64), rfl,
        .of_long (toInt_shiftLeft_smod rfl hCount)⟩

/- To shift a word down is to divide it, toward the floor. -/
theorem IsOffered.shiftRight_word
    (hOffered : p.IsOffered)
    (hWord : IsWord w a m)
    (hCount : c.toInt % w = k) :
    ∃ r, p.applyBinary .shiftRight a (.integer c) = .ok r ∧
      IsWord w r (m.fdiv (2 ^ k)) := by
  have hRead := hOffered.shiftCount_word hWord c
  rcases hOffered.exists_eq_policy with ⟨q, rfl⟩
  rw [Conversion.policy_toConversion] at hRead
  change ∃ r, q.shiftRight a (.integer c) = .ok r ∧ _
  rw [Conversion.shiftRight, hRead, Outcome.ok_bind]
  cases hWord with
  | integer a =>
      exact ⟨.integer (a >>> c), rfl,
        .of_integer (toInt_sshiftRight_smod rfl hCount)⟩
  | long a =>
      rw [← c.toInt_toInt64] at hCount
      exact ⟨.long (a >>> c.toInt64), rfl,
        .of_long (toInt_sshiftRight_smod rfl hCount)⟩

/-
  A word is shifted by the remainder of a count modulo its
  width, which is never below zero, whatever the sign of the
  count.  To shift up is to multiply by a power of two and to
  wrap around at the width.  To shift down is to divide by it,
  rounded to the integer below.
-/
theorem shifts_scale
    (hOffered : p.IsOffered)
    (hWord : IsWord w a m)
    (c : Int32) :
    ∃ k : Nat, c.toInt % w = k ∧ k < w ∧
      (∃ r, p.applyBinary .shiftLeft a (.integer c) = .ok r ∧
        IsWord w r ((m * 2 ^ k).bmod (2 ^ w))) ∧
      (∃ r, p.applyBinary .shiftRight a (.integer c) = .ok r ∧
        IsWord w r (m.fdiv (2 ^ k))) := by
  have hWidth : (0 : Int) < w := by
    cases hWord with
    | integer a => decide
    | long a => decide
  have hLow := Int.emod_nonneg c.toInt (Int.ne_of_gt hWidth)
  have hHigh := Int.emod_lt_of_pos c.toInt hWidth
  rcases Int.eq_ofNat_of_zero_le hLow with ⟨k, hCount⟩
  rw [hCount] at hHigh
  exact ⟨k, hCount, Int.ofNat_lt.mp hHigh,
    hOffered.shiftLeft_word hWord hCount,
    hOffered.shiftRight_word hWord hCount⟩

/- A count below zero, and a quotient that is no integer. -/
theorem shifts_scale_below :
    IsOffered permissive ∧
    IsWord 32 (.integer (-5)) (-5) ∧
    permissive.applyBinary .shiftLeft (.integer (-5))
        (.integer (-31)) =
      .ok (.integer (-10)) ∧
    permissive.applyBinary .shiftRight (.integer (-5))
        (.integer (-31)) =
      .ok (.integer (-3)) := by
  have hOffered : IsOffered permissive := .inr rfl
  have hWord := IsWord.integer (-5)
  rcases shifts_scale hOffered hWord (-31) with
    ⟨k, hCount, -, ⟨l, hLeft, hDouble⟩, r, hRight, hHalf⟩
  have hOne : 1 = k := Int.ofNat_inj.mp hCount
  subst hOne
  cases hDouble.unique (IsWord.integer (-10))
  cases hHalf.unique (IsWord.integer (-3))
  exact ⟨hOffered, hWord, hLeft, hRight⟩

end Policy

end Formula
