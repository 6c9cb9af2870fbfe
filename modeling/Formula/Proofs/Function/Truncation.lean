import Mathlib
import Formula.Proofs.Directory.History
import Formula.Proofs.Numeral.Rounding
import Formula.Proofs.Operator.Indexing

/-
  What is left of a whole number when it is cut.

  The functions that cut a number toward zero take it as a
  floating-point number first.  There is nothing to cut from a
  whole number, but one with too many digits turns into a
  neighbour on the way.  The greatest `Long` turns into a
  number that is out of range, and the bounds bring it back.

  Key definitions include:
    * `Moment.truncations`

  Main statements:
    * `Double.toInt_toInt64_ofInt`
    * `Double.toInt64_ofInt_bounds`
    * `Double.toInt64_ofInt_eq_self_iff`
    * `Moment.exists_truncation`
    * `trunc_wholeNumber`
-/

namespace Formula

------------------------------------------------------------
-- Whole Numbers There and Back
------------------------------------------------------------

namespace Double

open BinaryFormat

variable (n : Int64)

/- The nearest number comes back, unless it is out of range. -/
theorem toInt_toInt64_ofInt :
    (toInt64 (ofInt n.toInt)).toInt =
      min (2 ^ 63 - 1)
        (if n.toInt < 0 then
          -(double.nearest n.toInt.natAbs : Int)
        else double.nearest n.toInt.natAbs) := by
  have hLow := n.le_toInt
  have hHigh := n.toInt_lt
  have hSize : n.toInt.natAbs ≤ 2 ^ 63 := by
    omega
  have hLog : n.toInt.natAbs.log2 - 52 ≤ 63 := by
    have hLess : n.toInt.natAbs < 2 ^ 64 := by
      omega
    by_cases hZero : n.toInt.natAbs = 0
    · rw [hZero]
      decide
    · have hDigits := (Nat.log2_lt hZero).mpr hLess
      omega
  have hNearest : double.nearest n.toInt.natAbs ≤ 2 ^ 63 :=
    double.nearest_le hSize (Nat.pow_dvd_pow 2 hLog)
  have hLeast : Int64.minValue.toInt = -2 ^ 63 := by
    decide
  have hGreatest : Int64.maxValue.toInt = 2 ^ 63 - 1 := by
    decide
  rw [toInt64, truncate_ofInt (by omega), hLeast, hGreatest]
  generalize double.nearest n.toInt.natAbs = m at hNearest ⊢
  rw [Int64.toInt_ofInt_of_le]
  · split
    · omega
    · omega
  · omega
  · omega

/- It is off by half a step at most. -/
theorem toInt64_ofInt_bounds :
    2 * ((toInt64 (ofInt n.toInt)).toInt - n.toInt).natAbs ≤
      double.step n.toInt.natAbs := by
  have hHigh := n.toInt_lt
  have hBounds := double.nearest_bounds n.toInt.natAbs
  rw [toInt_toInt64_ofInt]
  generalize double.nearest n.toInt.natAbs = m at hBounds ⊢
  generalize double.step n.toInt.natAbs = s at hBounds ⊢
  split
  · omega
  · omega

/- Multiples of their step come back, and the greatest number. -/
theorem toInt64_ofInt_eq_self_iff :
    toInt64 (ofInt n.toInt) = n ↔
      n = Int64.maxValue ∨
        double.step n.toInt.natAbs ∣ n.toInt.natAbs := by
  have hGreatest : Int64.maxValue.toInt = 2 ^ 63 - 1 := by
    decide
  by_cases hLast : n = Int64.maxValue
  · subst hLast
    refine ⟨fun _ => .inl rfl, fun _ => ?_⟩
    decide +kernel
  · have hHigh := n.toInt_lt
    have hBelow : n.toInt ≠ 2 ^ 63 - 1 := by
      rw [← hGreatest]
      exact mt Int64.toInt_inj.mp hLast
    rw [← double.nearest_eq_self_iff, ← Int64.toInt_inj,
      toInt_toInt64_ofInt]
    generalize double.nearest n.toInt.natAbs = m
    rw [or_iff_right hLast]
    split
    · omega
    · omega

/- Numbers that fit into a significand are among them. -/
theorem toInt64_ofInt_of_le
    (hDigits : n.toInt.natAbs ≤ 2 ^ 53) :
    toInt64 (ofInt n.toInt) = n := by
  apply (toInt64_ofInt_eq_self_iff n).mpr
  right
  rcases Nat.lt_or_eq_of_le hDigits with hLess | hEqual
  · have hShort : n.toInt.natAbs.log2 ≤ 52 := by
      by_cases hZero : n.toInt.natAbs = 0
      · rw [hZero]
        decide
      · have hLog := (Nat.log2_lt hZero).mpr hLess
        omega
    rw [double.step_eq_one hShort]
    exact Nat.one_dvd _
  · rw [hEqual]
    decide +kernel

end Double

------------------------------------------------------------
-- Truncation
------------------------------------------------------------

/- The functions of the library that cut a number. -/
def Moment.truncations : List StandardFunction :=
  [ ⟨"Trunc", .exactly 1, .trunc⟩,
    ⟨"Truncate", .exactly 1, .trunc⟩ ]

/- A number is cut once it is converted. -/
theorem Moment.call_truncation
    {f : StandardFunction}
    (hFunction : f ∈ truncations)
    {p : Policy}
    {v : Value}
    {x : Float}
    (hConvert : p.convert v .double = .ok (.double x)) :
    f.function [v] p = .ok (.long (Double.toInt64 x)) := by
  have hDouble : p.toDouble v = .ok x := by
    rw [Conversion.toDouble, Conversion.extract, hConvert]
    rfl
  have hBody : Function.trunc [v] p =
      .ok (.long (Double.toInt64 x)) := by
    have hArgument : argument [v] 0 = .ok v := rfl
    rw [Function.trunc, hArgument, Outcome.ok_bind, hDouble]
    rfl
  rcases List.mem_pair.mp hFunction with rfl | rfl
  · exact hBody
  · exact hBody

/- They are found by their names, in any letter case. -/
theorem Moment.exists_truncation
    (m : Moment)
    {name : String}
    (hName :
      SameName "Trunc" name ∨ SameName "Truncate" name) :
    ∃ f ∈ truncations,
      m.library.get? name = some f.function := by
  rcases hName with hShort | hLong
  · refine ⟨⟨"Trunc", .exactly 1, .trunc⟩,
      List.mem_cons_self, Directory.get?_library ?_ hShort⟩
    simp only [functions, List.mem_cons, true_or, or_true]
  · refine ⟨⟨"Truncate", .exactly 1, .trunc⟩,
      List.mem_cons_of_mem _ List.mem_cons_self,
      Directory.get?_library ?_ hLong⟩
    simp only [functions, List.mem_cons, true_or, or_true]

/- Whole numbers are converted to the nearest number. -/
theorem Policy.IsOffered.convert_whole
    {p : Policy}
    (hOffered : p.IsOffered) :
    (∀ k : Int32,
      p.convert (.integer k) .double =
        .ok (.double (Double.ofInt k.toInt64.toInt))) ∧
    (∀ n : Int64,
      p.convert (.long n) .double =
        .ok (.double (Double.ofInt n.toInt))) := by
  rcases hOffered with rfl | rfl
  · refine ⟨fun k => ?_, fun n => rfl⟩
    rw [Int32.toInt_toInt64]
    rfl
  · exact ⟨fun k => rfl, fun n => rfl⟩

/-
  To cut an `Integer` changes nothing.  A `Long` turns into the
  nearest multiple of its step, or into the greatest `Long` if
  that is out of range.  It is off by half a step at most, and
  it comes back unchanged if and only if it is such a multiple
  or the greatest one, as all do up to `2 ^ 53`.
-/
theorem trunc_wholeNumber
    (moment : Moment)
    {p : Policy}
    (hOffered : p.IsOffered)
    {name : String}
    (hName :
      SameName "Trunc" name ∨ SameName "Truncate" name) :
    ∃ trunc,
      moment.library.get? name = some trunc ∧
      (∀ k : Int32,
        trunc [.integer k] p = .ok (.long k.toInt64)) ∧
      ∀ n : Int64, ∃ r : Int64,
        trunc [.long n] p = .ok (.long r) ∧
        r.toInt =
          min (2 ^ 63 - 1)
            (if n.toInt < 0 then
              -(BinaryFormat.double.nearest
                n.toInt.natAbs : Int)
            else
              BinaryFormat.double.nearest n.toInt.natAbs) ∧
        2 * (r.toInt - n.toInt).natAbs ≤
          BinaryFormat.double.step n.toInt.natAbs ∧
        (r = n ↔
          n = Int64.maxValue ∨
            BinaryFormat.double.step n.toInt.natAbs ∣
              n.toInt.natAbs) ∧
        (n.toInt.natAbs ≤ 2 ^ 53 → r = n) := by
  rcases moment.exists_truncation hName with
    ⟨f, hFunction, hFound⟩
  rcases hOffered.convert_whole with ⟨hInteger, hLong⟩
  refine ⟨f.function, hFound, ?_, ?_⟩
  · intro k
    have hSmall : k.toInt64.toInt.natAbs ≤ 2 ^ 53 := by
      have hLow := k.le_toInt
      have hHigh := k.toInt_lt
      rw [Int32.toInt_toInt64]
      omega
    rw [Moment.call_truncation hFunction (hInteger k),
      Double.toInt64_ofInt_of_le _ hSmall]
  · intro n
    exact ⟨Double.toInt64 (Double.ofInt n.toInt),
      Moment.call_truncation hFunction (hLong n),
      Double.toInt_toInt64_ofInt n,
      Double.toInt64_ofInt_bounds n,
      Double.toInt64_ofInt_eq_self_iff n,
      Double.toInt64_ofInt_of_le n⟩

/- A number of 54 digits comes back if its last one is zero. -/
theorem trunc_wholeNumber_even :
    Policy.IsOffered .strict ∧
    SameName "Truncate" "TRUNCATE" ∧
    ∃ trunc,
      (Moment.mk .epoch 0).library.get? "TRUNCATE" =
        some trunc ∧
      trunc [.long 9007199254740994] .strict =
        .ok (.long 9007199254740994) := by
  have hOffered : Policy.IsOffered .strict := .inl rfl
  have hName : SameName "Truncate" "TRUNCATE" := by
    decide +kernel
  rcases trunc_wholeNumber ⟨.epoch, 0⟩ hOffered
    (.inr hName) with ⟨trunc, hFound, -, hLong⟩
  rcases hLong 9007199254740994 with
    ⟨r, hCall, -, -, hSame, -⟩
  cases hSame.mpr (.inr (by decide +kernel))
  exact ⟨hOffered, hName, trunc, hFound, hCall⟩

/-
  A number of 54 digits that ends in one does not come back,
  under either policy.
-/
theorem trunc_ne_self_odd :
    ∃ trunc,
      (Moment.mk .epoch 0).library.get? "Trunc" =
        some trunc ∧
      trunc [.long 9007199254740993] .strict =
        .ok (.long 9007199254740992) ∧
      trunc [.long 9007199254740993] .permissive =
        .ok (.long 9007199254740992) ∧
      ¬ ∀ n : Int64, trunc [.long n] .strict = .ok (.long n) :=
    by
  rcases Moment.exists_truncation ⟨.epoch, 0⟩
    (.inl (SameName.refl "Trunc")) with
    ⟨f, hFunction, hFound⟩
  have hNearest :
      Double.toInt64 (Double.ofInt 9007199254740993) =
        9007199254740992 := by
    decide +kernel
  have hCut (p : Policy) (hOffered : p.IsOffered) :
      f.function [.long 9007199254740993] p =
        .ok (.long 9007199254740992) := by
    rw [Moment.call_truncation hFunction
      (hOffered.convert_whole.2 9007199254740993)]
    exact congrArg (fun r => Except.ok (Value.long r)) hNearest
  refine ⟨f.function, hFound, hCut _ (.inl rfl),
    hCut _ (.inr rfl), ?_⟩
  intro hSame
  have hKept := hSame 9007199254740993
  rw [hCut _ (.inl rfl)] at hKept
  exact absurd (Value.long.inj (Except.ok.inj hKept))
    (by decide)

end Formula
