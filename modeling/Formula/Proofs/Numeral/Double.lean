import Mathlib
import Formula.Numeral.Decimal

/-
  Whole numbers as numbers of 64 bits.

  What is read from the digits of a whole number is the number
  nearest to it: magnitudes that are settled without the power
  of ten are infinite in fact.  A minus sign in front of a
  number is nothing but the bit of its sign, so that the number
  nearest to a whole number has the opposite nearest to the
  opposite whole number.

  Main statements:
    * `Decimal.toBits_whole`
    * `Double.neg_ofInt`
-/

namespace Formula

------------------------------------------------------------
-- Magnitudes
------------------------------------------------------------

namespace BinaryFormat

/- No magnitude is beyond infinity. -/
theorem roundMagnitude_le
    (f : BinaryFormat)
    (num den : Nat) :
    f.roundMagnitude num den ≤ f.infinityBits := by
  unfold roundMagnitude
  split
  · exact Nat.zero_le _
  · exact Nat.min_le_left _ _

/- A decimal digit is worth three binary ones. -/
theorem le_log2_of_digits
    {m k : Nat}
    (hPos : 0 < k)
    (hDigits : k < (Nat.toDigits 10 m).length) :
    3 * k ≤ m.log2 := by
  have hPower : 10 ^ k ≤ m := by
    apply Nat.not_lt.mp
    intro hLess
    have hFew :=
      (Nat.length_toDigits_le_iff (by decide) hPos).mpr hLess
    exact Nat.not_le.mpr hDigits hFew
  have hBase : (2 ^ 3) ^ k ≤ 10 ^ k :=
    Nat.pow_le_pow_left (by decide) k
  have hSome : m ≠ 0 :=
    Nat.ne_of_gt
      (Nat.lt_of_lt_of_le (Nat.pow_pos (by decide)) hPower)
  rw [← Nat.pow_mul] at hBase
  exact (Nat.le_log2 hSome).mpr (Nat.le_trans hBase hPower)

/- Whole numbers of more than 400 digits are infinite. -/
theorem roundMagnitude_huge
    {m : Nat}
    (hDigits : 400 < (Nat.toDigits 10 m).length) :
    double.roundMagnitude m 1 = double.infinityBits := by
  have hLog : 1200 ≤ m.log2 :=
    le_log2_of_digits (by decide) hDigits
  have hPos : m ≠ 0 := by
    rintro rfl
    exact absurd hLog (by decide)
  have hQuotient : 1199 ≤ quotientLog m 1 := by
    unfold quotientLog
    have hOne : Nat.log2 1 = 0 := rfl
    dsimp only
    split
    · omega
    · omega
  have hField : double.fieldBits = 52 := rfl
  have hLeast : double.leastExponent = -1074 := rfl
  have hTop :
      double.infinityBits = 2047 * powerOfTwo 52 := rfl
  unfold roundMagnitude
  rw [if_neg hPos, hField, hLeast, hTop]
  dsimp only
  apply Nat.min_eq_left
  have hExponent :
      2047 ≤
        (max (-1074 : Int) (quotientLog m 1 - (52 : Nat)) -
          -1074).toNat := by
    omega
  exact Nat.le_trans (Nat.mul_le_mul_right _ hExponent)
    (Nat.le_add_right _ _)

end BinaryFormat

namespace Decimal

/- Digits without a point denote the nearest number. -/
theorem toBits_whole
    (negative : Bool)
    (m : Nat) :
    (Decimal.finite negative m 0).toBits .double =
      BinaryFormat.double.round negative m 1 := by
  unfold toBits
  dsimp only
  split
  · rename_i hNone
    have hZero : m = 0 := by
      simp only [Int.add_zero, Bool.or_eq_true,
        decide_eq_true_eq] at hNone
      omega
    subst hZero
    rfl
  · split
    · rename_i hSize
      rw [BinaryFormat.round,
        BinaryFormat.roundMagnitude_huge (by omega)]
    · have hOne : powerOfTen 0 = 1 := rfl
      rw [Int.neg_zero, Int.toNat_zero, hOne, Nat.mul_one]

end Decimal

------------------------------------------------------------
-- Signs
------------------------------------------------------------

namespace Double

open Float.Model

variable {b b' : BitVec Format.binary64.numBits}

/- What is no number is read as such. -/
theorem unpack_of_isNaNBits
    (hNaN : UnpackedFloat.isNaNBits b = true) :
    UnpackedFloat.unpack .binary64 b = .notANumber := by
  have hFields := of_decide_eq_true hNaN
  unfold UnpackedFloat.unpack
  dsimp only
  rw [if_pos hFields.1, if_neg hFields.2]

/- Packing what was read loses nothing that is read. -/
theorem unpack_pack_unpack
    (b : BitVec Format.binary64.numBits) :
    UnpackedFloat.unpack .binary64
        (UnpackedFloat.pack .binary64
          (UnpackedFloat.unpack .binary64 b)) =
      UnpackedFloat.unpack .binary64 b := by
  rw [UnpackedFloat.pack_unpack b (by decide)]
  split
  · rename_i hNaN
    rw [UnpackedFloat.unpack_packedNaN, unpack_of_isNaNBits hNaN]
  · rfl

/- The fields of the bits of a number. -/
theorem toNat_unpackExponent
    (b : BitVec Format.binary64.numBits) :
    (UnpackedFloat.unpackExponent b).toNat =
      b.toNat / 2 ^ 52 % 2 ^ 11 := by
  rw [UnpackedFloat.unpackExponent_def,
    BitVec.extractLsb'_toNat, Nat.shiftRight_eq_div_pow]

theorem toNat_unpackMantissa
    (b : BitVec Format.binary64.numBits) :
    (UnpackedFloat.unpackMantissa b).toNat =
      b.toNat % 2 ^ 52 := by
  rw [UnpackedFloat.unpackMantissa_def,
    BitVec.extractLsb'_toNat, Nat.shiftRight_zero]

theorem toNat_unpackSign
    (b : BitVec Format.binary64.numBits) :
    (UnpackedFloat.unpackSign b).toNat =
      b.toNat / 2 ^ 63 % 2 := by
  rw [UnpackedFloat.unpackSign_def,
    BitVec.extractLsb'_toNat, Nat.shiftRight_eq_div_pow]
  rfl

/- Bits that differ in the sign are read as opposites. -/
theorem unpack_neg
    {b b' : BitVec Format.binary64.numBits}
    (hPositive : b.toNat < 2 ^ 63)
    (hOther : b'.toNat = 2 ^ 63 + b.toNat) :
    UnpackedFloat.unpack .binary64 b' =
      (UnpackedFloat.unpack .binary64 b).neg := by
  have hExponent :
      UnpackedFloat.unpackExponent b' =
        UnpackedFloat.unpackExponent b := by
    apply BitVec.eq_of_toNat_eq
    rw [toNat_unpackExponent, toNat_unpackExponent, hOther]
    omega
  have hMantissa :
      UnpackedFloat.unpackMantissa b' =
        UnpackedFloat.unpackMantissa b := by
    apply BitVec.eq_of_toNat_eq
    rw [toNat_unpackMantissa, toNat_unpackMantissa, hOther]
    omega
  have hPlus : UnpackedFloat.unpackSign b = 0#1 := by
    apply BitVec.eq_of_toNat_eq
    rw [toNat_unpackSign, BitVec.toNat_ofNat]
    omega
  have hMinus : UnpackedFloat.unpackSign b' = 1#1 := by
    apply BitVec.eq_of_toNat_eq
    rw [toNat_unpackSign, hOther, BitVec.toNat_ofNat]
    omega
  unfold UnpackedFloat.unpack
  simp only [hExponent, hMantissa, hPlus, hMinus]
  split
  · split
    · rfl
    · rfl
  · split
    · split
      · rfl
      · rfl
    · rfl

/- The opposite of a number has the other sign bit. -/
theorem neg_ofBits
    {bits : Nat}
    (hPositive : bits < 2 ^ 63) :
    -(ofBits bits) = ofBits (2 ^ 63 + bits) := by
  have hBits : (BitVec.ofNat 64 bits).toNat = bits := by
    rw [BitVec.toNat_ofNat]
    omega
  have hOther :
      (BitVec.ofNat 64 (2 ^ 63 + bits)).toNat =
        2 ^ 63 + (BitVec.ofNat 64 bits).toNat := by
    rw [BitVec.toNat_ofNat, hBits]
    omega
  have hOpposite :=
    unpack_neg (hBits.trans_lt hPositive) hOther
  have hRead :
      (Float.ofBits (UInt64.ofNat bits)).toModel.unpack =
        UnpackedFloat.unpack .binary64
          (BitVec.ofNat 64 bits) :=
    unpack_pack_unpack _
  change Float.ofModel (Float.Model.pack
    (Float.ofBits (UInt64.ofNat bits)).toModel.unpack.neg) = _
  rw [hRead, ← hOpposite]
  rfl

/- The opposite of the nearest number is that of the opposite. -/
theorem neg_ofInt
    {m : Nat}
    (hPos : 0 < m) :
    -(ofInt m) = ofInt (-m) := by
  have hFinite :
      BinaryFormat.double.roundMagnitude m 1 < 2 ^ 63 :=
    Nat.lt_of_le_of_lt
      (BinaryFormat.double.roundMagnitude_le m 1)
      (by decide +kernel)
  have hMagnitude :
      BinaryFormat.double.ofInt m =
        BinaryFormat.double.roundMagnitude m 1 := by
    simp [BinaryFormat.ofInt, BinaryFormat.round,
      BinaryFormat.withSign]
  have hOpposite :
      BinaryFormat.double.ofInt (-m) =
        2 ^ 63 + BinaryFormat.double.roundMagnitude m 1 := by
    simp [BinaryFormat.ofInt, BinaryFormat.round,
      BinaryFormat.withSign, hPos]
    rfl
  rw [ofInt, ofInt, hMagnitude, hOpposite, neg_ofBits hFinite]

end Double

end Formula
