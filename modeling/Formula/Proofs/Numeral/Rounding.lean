import Mathlib
import Formula.Proofs.Numeral.Double

/-
  Whole numbers that pass through numbers of 64 bits.

  The numbers of 64 bits around a whole number are a step
  apart, which is one as long as the whole number has no more
  binary digits than a significand.  A whole number turns into
  the nearest multiple of its step, ties going to the even one,
  and comes back unchanged if and only if it is a multiple
  itself.

  Key definitions include:
    * `BinaryFormat.step`
    * `BinaryFormat.nearest`

  Main statements:
    * `BinaryFormat.nearest_eq_self_iff`
    * `BinaryFormat.exists_decode_round`
    * `Double.bits_ofInt`
    * `Double.truncate_ofInt`
-/

namespace Formula

------------------------------------------------------------
-- Rounded Quotients
------------------------------------------------------------

theorem powerOfTwo_eq
    (n : Nat) :
    powerOfTwo n = 2 ^ n := rfl

/- A quotient is rounded to a neighbour. -/
theorem roundHalfEven_eq_or
    (n d : Nat) :
    roundHalfEven n d = n / d ∨
      roundHalfEven n d = n / d + 1 := by
  unfold roundHalfEven
  dsimp only
  split
  · exact .inl rfl
  · split
    · exact .inr rfl
    · rcases Nat.mod_two_eq_zero_or_one (n / d) with
        hEven | hOdd
      · rw [hEven]
        exact .inl rfl
      · rw [hOdd]
        exact .inr rfl

/- A quotient without remainder is not rounded. -/
theorem roundHalfEven_mul
    {d : Nat}
    (hPos : 0 < d)
    (q : Nat) :
    roundHalfEven (q * d) d = q := by
  unfold roundHalfEven
  rw [Nat.mul_div_cancel q hPos, Nat.mul_mod_left]
  dsimp only
  rw [if_pos (by omega)]

/- A rounded quotient is off by half of the divisor at most. -/
theorem roundHalfEven_bounds
    {n d : Nat}
    (hPos : 0 < d) :
    2 * n ≤ 2 * (roundHalfEven n d * d) + d ∧
      2 * (roundHalfEven n d * d) ≤ 2 * n + d := by
  have hSplit := Nat.div_add_mod n d
  have hRest := Nat.mod_lt n hPos
  have hNext : (n / d + 1) * d = d * (n / d) + d := by
    ring
  have hSame : n / d * d = d * (n / d) := Nat.mul_comm _ _
  unfold roundHalfEven
  dsimp only
  split
  · rw [hSame]
    omega
  · split
    · rw [hNext]
      omega
    · rcases Nat.mod_two_eq_zero_or_one (n / d) with
        hEven | hOdd
      · rw [hEven, Nat.add_zero, hSame]
        omega
      · rw [hOdd, hNext]
        omega

/- Rounding does not go beyond a multiple of the divisor. -/
theorem roundHalfEven_le
    {n d q : Nat}
    (hPos : 0 < d)
    (hLimit : n ≤ q * d) :
    roundHalfEven n d ≤ q := by
  have hHigh := (roundHalfEven_bounds (n := n) hPos).2
  have hTwice :
      2 * roundHalfEven n d * d ≤ (2 * q + 1) * d := by
    calc
      2 * roundHalfEven n d * d =
          2 * (roundHalfEven n d * d) := Nat.mul_assoc _ _ _
      _ ≤ 2 * (q * d) + d := by omega
      _ = (2 * q + 1) * d := by ring
  have hHalf := Nat.le_of_mul_le_mul_right hTwice hPos
  omega

namespace BinaryFormat

------------------------------------------------------------
-- Nearest Numbers
------------------------------------------------------------

variable (f : BinaryFormat)

/- How far the numbers around a whole number are apart. -/
def step
    (m : Nat) : Nat :=
  powerOfTwo (m.log2 - f.fieldBits)

/- The multiple of its step that is nearest to a number. -/
def nearest
    (m : Nat) : Nat :=
  roundHalfEven m (f.step m) * f.step m

theorem step_pos
    (m : Nat) :
    0 < f.step m :=
  Nat.pow_pos (by decide)

/- Only multiples of its step are left as they are. -/
theorem nearest_eq_self_iff
    {m : Nat} :
    f.nearest m = m ↔ f.step m ∣ m := by
  constructor
  · exact Dvd.intro_left _
  · rintro ⟨q, hMultiple⟩
    have hQuotient := roundHalfEven_mul (f.step_pos m) q
    rw [Nat.mul_comm, ← hMultiple] at hQuotient
    rw [nearest, hQuotient, Nat.mul_comm, ← hMultiple]

/- The nearest number is off by half a step at most. -/
theorem nearest_bounds
    (m : Nat) :
    2 * m ≤ 2 * f.nearest m + f.step m ∧
      2 * f.nearest m ≤ 2 * m + f.step m :=
  roundHalfEven_bounds (f.step_pos m)

/- The nearest number does not go beyond a multiple. -/
theorem nearest_le
    {m limit : Nat}
    (hLimit : m ≤ limit)
    (hMultiple : f.step m ∣ limit) :
    f.nearest m ≤ limit := by
  rcases hMultiple with ⟨q, rfl⟩
  rw [Nat.mul_comm] at hLimit ⊢
  exact Nat.mul_le_mul_right _
    (roundHalfEven_le (f.step_pos m) hLimit)

/- Numbers that fit into a significand are one apart. -/
theorem step_eq_one
    {m : Nat}
    (hDigits : m.log2 ≤ f.fieldBits) :
    f.step m = 1 := by
  rw [step, Nat.sub_eq_zero_of_le hDigits]
  rfl

------------------------------------------------------------
-- Bits of Nearest Numbers
------------------------------------------------------------

/- The logarithm of a whole number is that of its digits. -/
theorem quotientLog_one
    {m : Nat}
    (hPos : m ≠ 0) :
    quotientLog m 1 = m.log2 := by
  have hOne : Nat.log2 1 = 0 := rfl
  have hLow : 2 ^ m.log2 ≤ m := Nat.log2_self_le hPos
  unfold quotientLog
  dsimp only
  rw [hOne, Int.natCast_zero, Int.sub_zero, Int.toNat_natCast,
    Int.toNat_neg_natCast, powerOfTwo_eq, powerOfTwo_eq,
    Nat.pow_zero, Nat.mul_one, Nat.one_mul,
    if_neg (Nat.not_lt.mpr hLow)]

/-
  The significand of the nearest number: as many digits as
  there is room for, with zeros behind a shorter number.
-/
def significand
    (m : Nat) : Nat :=
  roundHalfEven (m * powerOfTwo (52 - m.log2)) (double.step m)

/- Significands have all digits, or carry into one more. -/
theorem significand_bounds
    {m : Nat}
    (hPos : m ≠ 0) :
    2 ^ 52 ≤ significand m ∧ significand m ≤ 2 ^ 53 := by
  have hLow : 2 ^ m.log2 ≤ m := Nat.log2_self_le hPos
  have hHigh : m < 2 ^ (m.log2 + 1) := Nat.lt_log2_self
  have hPlaces :
      2 ^ m.log2 * 2 ^ (52 - m.log2) =
        2 ^ 52 * 2 ^ (m.log2 - 52) := by
    rw [← Nat.pow_add, ← Nat.pow_add]
    congr 1
    omega
  have hFirst :
      2 ^ 52 * 2 ^ (m.log2 - 52) ≤ m * 2 ^ (52 - m.log2) :=
    hPlaces ▸ Nat.mul_le_mul_right _ hLow
  have hLast :
      m * 2 ^ (52 - m.log2) < 2 ^ 53 * 2 ^ (m.log2 - 52) := by
    have hNext := Nat.mul_lt_mul_of_pos_right hHigh
      (Nat.two_pow_pos (52 - m.log2))
    rw [Nat.pow_succ, Nat.mul_right_comm, hPlaces] at hNext
    rwa [Nat.pow_succ, Nat.mul_right_comm]
  have hPositive := Nat.two_pow_pos (m.log2 - 52)
  have hAtLeast := (Nat.le_div_iff_mul_le hPositive).mpr hFirst
  have hBelow := (Nat.div_lt_iff_lt_mul hPositive).mpr hLast
  have hNear := roundHalfEven_eq_or
    (m * 2 ^ (52 - m.log2)) (2 ^ (m.log2 - 52))
  change 2 ^ 52 ≤ roundHalfEven _ (2 ^ (m.log2 - 52)) ∧
    roundHalfEven _ (2 ^ (m.log2 - 52)) ≤ 2 ^ 53
  rw [powerOfTwo_eq]
  omega

/- A significand stands for the nearest number. -/
theorem significand_mul_step
    (m : Nat) :
    significand m * double.step m =
      double.nearest m * powerOfTwo (52 - m.log2) := by
  have hField : double.fieldBits = 52 := rfl
  rcases Nat.le_total m.log2 52 with hShort | hLong
  · have hStep : double.step m = 1 :=
      double.step_eq_one (hShort.trans_eq hField.symm)
    have hWhole (n : Nat) : roundHalfEven n 1 = n := by
      have hQuotient := roundHalfEven_mul Nat.one_pos n
      rwa [Nat.mul_one] at hQuotient
    rw [significand, nearest, hStep, hWhole, hWhole,
      Nat.mul_one, Nat.mul_one]
  · have hFull : powerOfTwo (52 - m.log2) = 1 := by
      rw [Nat.sub_eq_zero_of_le hLong]
      rfl
    rw [significand, nearest, hFull, Nat.mul_one, Nat.mul_one]

/- A sign in front of a magnitude is told by the top bit. -/
theorem withSign_fields
    {magnitude : Nat}
    (hWidth : magnitude < 2 ^ 63)
    (negative : Bool) :
    decide (2 ^ 63 ≤ double.withSign negative magnitude) =
        negative ∧
      double.withSign negative magnitude % 2 ^ 63 =
        magnitude ∧
      double.withSign negative magnitude < 2 ^ 64 := by
  have hSign : double.signBit = 2 ^ 63 := rfl
  unfold withSign
  rw [hSign]
  cases negative with
  | true =>
      refine ⟨decide_eq_true (Nat.le_add_right _ _), ?_, ?_⟩
      · rw [if_pos rfl, Nat.add_mod_left,
          Nat.mod_eq_of_lt hWidth]
      · rw [if_pos rfl]
        omega
  | false =>
      refine ⟨decide_eq_false (Nat.not_le.mpr hWidth), ?_, ?_⟩
      · exact Nat.mod_eq_of_lt hWidth
      · exact Nat.lt_trans hWidth (by decide)

/- An exponent and a significand are read back from bits. -/
theorem decode_withSign
    {k q : Nat}
    (hFull : 2 ^ 52 ≤ q)
    (hDigits : q < 2 ^ 53)
    (hFinite : k < 2046)
    (negative : Bool) :
    double.decode
        (double.withSign negative (k * 2 ^ 52 + q)) =
      .finite negative q (-1074 + k) := by
  have hField : powerOfTwo double.fieldBits = 2 ^ 52 := rfl
  have hExponents :
      powerOfTwo double.exponentBits = 2 ^ 11 := rfl
  have hSign : double.signBit = 2 ^ 63 := rfl
  have hTop : double.topExponent = 2047 := rfl
  have hLeast : double.leastExponent = -1074 := rfl
  have hWidth : k * 2 ^ 52 + q < 2 ^ 63 := by
    omega
  rcases withSign_fields hWidth negative with
    ⟨hNegative, hMagnitude, -⟩
  have hMantissa :
      double.withSign negative (k * 2 ^ 52 + q) % 2 ^ 52 =
        q - 2 ^ 52 := by
    omega
  have hBiased :
      double.withSign negative (k * 2 ^ 52 + q) / 2 ^ 52 %
          2 ^ 11 =
        k + 1 := by
    omega
  unfold decode
  rw [hField, hExponents, hSign, hTop, hLeast]
  dsimp only
  rw [hNegative, hMantissa, hBiased, if_neg (by omega),
    if_neg (by omega), Nat.add_sub_cancel' hFull,
    Nat.add_sub_cancel]

/- The exponent and the significand of a whole number. -/
theorem roundMagnitude_whole
    {m : Nat}
    (hPos : m ≠ 0)
    (hSize : m < 2 ^ 64) :
    double.roundMagnitude m 1 =
      (m.log2 + 1022) * 2 ^ 52 + significand m := by
  have hLog : m.log2 < 64 := (Nat.log2_lt hPos).mpr hSize
  have hField : double.fieldBits = 52 := rfl
  have hLeast : double.leastExponent = -1074 := rfl
  have hTop : double.infinityBits = 2047 * 2 ^ 52 := rfl
  have hPower :
      powerOfTwo double.fieldBits = 2 ^ 52 := rfl
  have hExponent :
      max (-1074 : Int) ((m.log2 : Int) - (52 : Nat)) =
        (m.log2 : Int) - (52 : Nat) := by
    omega
  have hDown :
      (-((m.log2 : Int) - (52 : Nat))).toNat = 52 - m.log2 := by
    omega
  have hUp :
      ((m.log2 : Int) - (52 : Nat)).toNat = m.log2 - 52 := by
    omega
  have hBiased :
      ((m.log2 : Int) - (52 : Nat) - -1074).toNat =
        m.log2 + 1022 := by
    omega
  have hSignificand :
      roundHalfEven (m * powerOfTwo (52 - m.log2))
          (powerOfTwo (m.log2 - 52)) =
        significand m := rfl
  have hBounds := significand_bounds hPos
  rw [roundMagnitude, if_neg hPos, quotientLog_one hPos,
    hPower, hField, hLeast, hTop]
  dsimp only
  rw [hExponent, hDown, hUp, hBiased, Nat.one_mul,
    hSignificand]
  apply Nat.min_eq_right
  omega

/- A number is cut to the whole number that it stands for. -/
theorem wholePart_of_mul
    {q n : Nat}
    {e : Int}
    (hValue :
      q * powerOfTwo e.toNat = n * powerOfTwo (-e).toNat) :
    Datum.wholePart q e = n := by
  unfold Datum.wholePart
  split
  · rename_i hSign
    rw [hValue, Int.toNat_of_nonpos (by omega)]
    exact Nat.mul_one n
  · rename_i hSign
    rw [Int.toNat_of_nonpos (by omega)] at hValue
    rw [(Nat.mul_one q).symm.trans hValue]
    exact Nat.mul_div_cancel n (Nat.pow_pos (by decide))

/- Nothing is nothing, whatever the power. -/
theorem wholePart_zero
    (e : Int) :
    Datum.wholePart 0 e = 0 := by
  apply wholePart_of_mul
  rw [Nat.zero_mul, Nat.zero_mul]

/- A factor of two may move to the power. -/
theorem wholePart_two_mul
    (q : Nat)
    (e : Int) :
    Datum.wholePart q (e + 1) = Datum.wholePart (2 * q) e := by
  unfold Datum.wholePart
  by_cases hSign : 0 ≤ e
  · have hNext : (e + 1).toNat = e.toNat + 1 := by
      omega
    rw [if_pos (by omega), if_pos hSign, hNext, powerOfTwo_eq,
      powerOfTwo_eq, Nat.pow_succ]
    ring
  · have hNext : (-e).toNat = (-(e + 1)).toNat + 1 := by
      omega
    have hHalf :
        2 * q / powerOfTwo (-e).toNat =
          q / powerOfTwo (-(e + 1)).toNat := by
      rw [hNext, powerOfTwo_eq, Nat.pow_succ, Nat.mul_comm _ 2,
        Nat.mul_div_mul_left _ _ (by decide)]
      rfl
    rw [if_neg hSign, hHalf]
    split
    · have hNone : e + 1 = 0 := by
        omega
      rw [hNone, Int.neg_zero, Int.toNat_zero]
      exact (Nat.mul_one q).trans (Nat.div_one q).symm
    · rfl

/-
  What a whole number turns into stands for the nearest number.
  A significand that carries moves on to the next power of two.
-/
theorem exists_decode_round
    {m : Nat}
    (hSize : m < 2 ^ 64)
    (negative : Bool) :
    ∃ q e,
      double.decode (double.round negative m 1) =
          .finite negative q e ∧
        Datum.wholePart q e = double.nearest m := by
  by_cases hZero : m = 0
  · subst hZero
    exact ⟨0, -1074, by cases negative <;> rfl,
      wholePart_zero _⟩
  have hLog : m.log2 < 64 := (Nat.log2_lt hZero).mpr hSize
  have hBounds := significand_bounds hZero
  have hWhole :
      Datum.wholePart (significand m)
          (-1074 + (m.log2 + 1022 : Nat)) =
        double.nearest m := by
    have hUp :
        (-1074 + (m.log2 + 1022 : Nat) : Int).toNat =
          m.log2 - 52 := by
      omega
    have hDown :
        (-(-1074 + (m.log2 + 1022 : Nat) : Int)).toNat =
          52 - m.log2 := by
      omega
    apply wholePart_of_mul
    rw [hUp, hDown]
    exact significand_mul_step m
  rw [round, roundMagnitude_whole hZero hSize]
  by_cases hCarry : significand m < 2 ^ 53
  · exact ⟨significand m, -1074 + (m.log2 + 1022 : Nat),
      decode_withSign hBounds.1 hCarry (by omega) negative,
      hWhole⟩
  · have hNext :
        (m.log2 + 1022) * 2 ^ 52 + significand m =
          (m.log2 + 1022 + 1) * 2 ^ 52 + 2 ^ 52 := by
      omega
    have hCarried : significand m = 2 * 2 ^ 52 := by
      omega
    rw [hCarried, ← wholePart_two_mul, Int.add_assoc] at hWhole
    rw [hNext]
    exact ⟨2 ^ 52, -1074 + (m.log2 + 1022 + 1 : Nat),
      decode_withSign (Nat.le_refl _) (by decide) (by omega)
        negative,
      hWhole⟩

end BinaryFormat

------------------------------------------------------------
-- Conversions
------------------------------------------------------------

namespace Double

open Float.Model

/- The bits of a number are kept. -/
theorem bits_ofBits
    {b : Nat}
    (hWidth : b < 2 ^ 64)
    (hNumber : BinaryFormat.double.isNaN b = false) :
    bits (ofBits b) = b := by
  let packed : BitVec Format.binary64.numBits :=
    BitVec.ofNat 64 b
  have hBits : packed.toNat = b := by
    exact Nat.mod_eq_of_lt hWidth
  have hInfinity :
      BinaryFormat.double.infinityBits = 2047 * 2 ^ 52 := rfl
  have hSign : BinaryFormat.double.signBit = 2 ^ 63 := rfl
  have hNoNaN : UnpackedFloat.isNaNBits packed = false := by
    apply decide_eq_false
    rintro ⟨hExponent, hMantissa⟩
    have hTop : b / 2 ^ 52 % 2 ^ 11 = 2047 := by
      rw [← hBits, ← toNat_unpackExponent, hExponent]
      rfl
    have hSome : b % 2 ^ 52 ≠ 0 := by
      rw [← hBits, ← toNat_unpackMantissa]
      intro hNone
      exact hMantissa (BitVec.eq_of_toNat_eq hNone)
    have hPlace := of_decide_eq_false hNumber
    rw [hInfinity, hSign] at hPlace
    omega
  have hPack := UnpackedFloat.pack_unpack packed (by decide)
  rw [hNoNaN] at hPack
  change (UnpackedFloat.pack .binary64
    (UnpackedFloat.unpack .binary64 packed)).toNat = b
  rw [hPack]
  exact hBits

/- The number nearest to a whole number has these bits. -/
theorem bits_ofInt
    (n : Int) :
    bits (ofInt n) = BinaryFormat.double.ofInt n := by
  have hFinite :=
    BinaryFormat.double.roundMagnitude_le n.natAbs 1
  have hInfinity :
      BinaryFormat.double.infinityBits < 2 ^ 63 := by
    decide +kernel
  have hSign : BinaryFormat.double.signBit = 2 ^ 63 := rfl
  rcases BinaryFormat.withSign_fields
    (Nat.lt_of_le_of_lt hFinite hInfinity) (decide (n < 0)) with
    ⟨-, hMagnitude, hWidth⟩
  apply bits_ofBits hWidth
  apply decide_eq_false
  rw [hSign, hMagnitude]
  exact Nat.not_lt.mpr hFinite

/- A whole number comes back as the nearest one, if it fits. -/
theorem truncate_ofInt
    {n : Int}
    (hSize : n.natAbs < 2 ^ 64)
    (low high : Int) :
    truncate low high (ofInt n) =
      max low (min high
        (if n < 0 then
          -(BinaryFormat.double.nearest n.natAbs : Int)
        else BinaryFormat.double.nearest n.natAbs)) := by
  rcases BinaryFormat.exists_decode_round hSize (n < 0) with
    ⟨q, e, hDecode, hWhole⟩
  rw [truncate, datum, bits_ofInt, BinaryFormat.ofInt, hDecode,
    Datum.truncate, hWhole]
  simp only [decide_eq_true_eq]

end Double

end Formula
