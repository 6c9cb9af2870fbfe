import Mathlib
import Formula.Proofs.Directory.History
import Formula.Proofs.Operator.Indexing
import Formula.Proofs.Policy.Recovery

/-
  Spans that are made of days and smaller units.

  A total is turned into smaller and smaller units, and each
  step is refused if it leaves 64 bits.  So a span that is made
  is exact.  Parts on one side of zero never lead back: every
  total on the way is nearer to zero than the last one, and if
  this one fits all of them do.

  Key definitions include:
    * `FitsInt64`
    * `totalMillis`
    * `spannedMillis?`
    * `OnOneSide`
    * `Moment.timeSpanner`

  Main statements:
    * `toInt_of_millisOf?`
    * `exists_millisOf?`
    * `exists_call_timeSpanner`
    * `timeSpan_exact`
-/

namespace Formula

------------------------------------------------------------
-- Checked Totals
------------------------------------------------------------

/- An integer is within the range of 64 bits. -/
def FitsInt64
    (n : Int) : Prop :=
  Int64.minValue.toInt ≤ n ∧ n ≤ Int64.maxValue.toInt

instance
    (n : Int) :
    Decidable (FitsInt64 n) := by
  unfold FitsInt64
  infer_instance

/- An integer fits if it lies between zero and one that does. -/
theorem FitsInt64.of_between
    {m n : Int}
    (hFits : FitsInt64 n)
    (hBetween : (0 ≤ m ∧ m ≤ n) ∨ (n ≤ m ∧ m ≤ 0)) :
    FitsInt64 m := by
  have hZero : Int64.minValue.toInt ≤ 0 ∧
      0 ≤ Int64.maxValue.toInt := by decide
  unfold FitsInt64 at hFits ⊢
  omega

/- An integer is cut to 64 bits only if it fits. -/
theorem toInt_of_fitInt64?
    {n : Int}
    {r : Int64}
    (hCut : fitInt64? n = some r) :
    r.toInt = n := by
  unfold fitInt64? at hCut
  split at hCut
  · rename_i hFits
    cases hCut
    exact Int64.toInt_ofInt_of_le hFits.1
      (Int.lt_of_le_of_lt hFits.2 (by decide))
  · cases hCut

theorem exists_fitInt64?
    {n : Int}
    (hFits : FitsInt64 n) :
    ∃ r, fitInt64? n = some r :=
  ⟨Int64.ofInt n, if_pos hFits⟩

theorem FitsInt64.toInt
    (n : Int64) :
    FitsInt64 n.toInt :=
  ⟨n.minValue_le_toInt, n.toInt_le⟩

variable {factor : Int}
variable {total part r : Int64}

/- A total in smaller units is exact. -/
theorem toInt_of_refine?
    (hRefined : refine? factor total part = some r) :
    r.toInt = total.toInt * factor + part.toInt := by
  rcases Option.bind_eq_some_iff.mp hRefined with
    ⟨scaled, hScaled, hSum⟩
  rw [toInt_of_fitInt64? hSum, toInt_of_fitInt64? hScaled]

/-
  It is there if it fits and the part is not on the other side
  of zero: without the part it is nearer to zero.
-/
theorem exists_refine?
    (factor : Int)
    (total part : Int64)
    (hFactor : 0 ≤ factor)
    (hSide : (0 ≤ total.toInt ∧ 0 ≤ part.toInt) ∨
      (total.toInt ≤ 0 ∧ part.toInt ≤ 0))
    (hFits : FitsInt64 (total.toInt * factor + part.toInt)) :
    ∃ r, refine? factor total part = some r ∧
      r.toInt = total.toInt * factor + part.toInt := by
  have hScaled : FitsInt64 (total.toInt * factor) := by
    apply hFits.of_between
    rcases hSide with ⟨hTotal, hPart⟩ | ⟨hTotal, hPart⟩
    · have hSign := Int.mul_nonneg hTotal hFactor
      omega
    · have hSign :=
        Int.mul_nonpos_of_nonpos_of_nonneg hTotal hFactor
      omega
  rcases exists_fitInt64? hScaled with ⟨scaled, hFirst⟩
  rw [← toInt_of_fitInt64? hFirst] at hFits
  rcases exists_fitInt64? hFits with ⟨r, hSecond⟩
  have hFound : refine? factor total part = some r :=
    Option.bind_eq_some_iff.mpr ⟨scaled, hFirst, hSecond⟩
  exact ⟨r, hFound, toInt_of_refine? hFound⟩

------------------------------------------------------------
-- Milliseconds
------------------------------------------------------------

/- The milliseconds in days and smaller units, without bounds. -/
def totalMillis
    (days hours minutes seconds millis : Int) : Int :=
  (((days * 24 + hours) * 60 + minutes) * 60 + seconds) *
    1000 + millis

variable {days hours minutes seconds millis : Int64}

/- Milliseconds that are found are the exact total. -/
theorem toInt_of_millisOf?
    (hFound :
      millisOf? days hours minutes seconds millis = some r) :
    r.toInt =
      totalMillis days.toInt hours.toInt minutes.toInt
        seconds.toInt millis.toInt := by
  rcases Option.bind_eq_some_iff.mp hFound with
    ⟨inHours, hHours, hFound⟩
  rcases Option.bind_eq_some_iff.mp hFound with
    ⟨inMinutes, hMinutes, hFound⟩
  rcases Option.bind_eq_some_iff.mp hFound with
    ⟨inSeconds, hSeconds, hMillis⟩
  rw [toInt_of_refine? hMillis, toInt_of_refine? hSeconds,
    toInt_of_refine? hMinutes, toInt_of_refine? hHours]
  rfl

/-
  They are found if the total fits and no two parts are on
  opposite sides of zero: each total on the way lies between
  zero and the last one.
-/
theorem exists_millisOf?
    (hSide :
      (∀ n ∈ [days, hours, minutes, seconds, millis],
        0 ≤ n.toInt) ∨
      (∀ n ∈ [days, hours, minutes, seconds, millis],
        n.toInt ≤ 0))
    (hFits : FitsInt64
      (totalMillis days.toInt hours.toInt minutes.toInt
        seconds.toInt millis.toInt)) :
    ∃ r, millisOf? days hours minutes seconds millis =
      some r := by
  simp only [List.forall_mem_cons] at hSide
  unfold totalMillis at hFits
  rcases exists_refine? 24 days hours (by decide) (by omega)
    (hFits.of_between (by omega)) with
    ⟨inHours, hHours, hInHours⟩
  rcases exists_refine? 60 inHours minutes (by decide)
    (by omega) (hFits.of_between (by omega)) with
    ⟨inMinutes, hMinutes, hInMinutes⟩
  rcases exists_refine? 60 inMinutes seconds (by decide)
    (by omega) (hFits.of_between (by omega)) with
    ⟨inSeconds, hSeconds, hInSeconds⟩
  rcases exists_refine? 1000 inSeconds millis (by decide)
    (by omega) (hFits.of_between (by omega)) with
    ⟨r, hMillis, -⟩
  refine ⟨r, ?_⟩
  unfold millisOf?
  simp only [hHours, hMinutes, hSeconds, hMillis,
    Option.bind_eq_bind, Option.bind_some]

------------------------------------------------------------
-- Arguments
------------------------------------------------------------

/-
  The milliseconds of three to five arguments: days, hours and
  minutes, and then seconds and milliseconds, if they are given.
-/
def spannedMillis? : List Int64 → Option Int
  | [d, h, m] =>
      some (totalMillis d.toInt h.toInt m.toInt 0 0)
  | [d, h, m, s] =>
      some (totalMillis d.toInt h.toInt m.toInt s.toInt 0)
  | [d, h, m, s, ms] =>
      some (totalMillis d.toInt h.toInt m.toInt s.toInt
        ms.toInt)
  | _ => none

/- No two numbers are on opposite sides of zero. -/
def OnOneSide
    (parts : List Int64) : Prop :=
  ∀ m ∈ parts, ∀ n ∈ parts, ¬ (m.toInt < 0 ∧ 0 < n.toInt)

instance
    (parts : List Int64) :
    Decidable (OnOneSide parts) :=
  decidable_of_iff
    (parts.all fun m => parts.all fun n =>
      !decide (m.toInt < 0 ∧ 0 < n.toInt))
    (by simp only [OnOneSide, List.all_eq_true,
      Bool.not_eq_true', decide_eq_false_iff_not])

/- Zero is on every side. -/
theorem OnOneSide.extend
    {parts extended : List Int64}
    (hSide : OnOneSide parts)
    (hGiven : ∀ n ∈ extended, n ∈ parts ∨ n = 0) :
    OnOneSide extended := by
  rintro m hLeft n hRight ⟨hNegative, hPositive⟩
  rcases hGiven m hLeft with hLeft | rfl
  · rcases hGiven n hRight with hRight | rfl
    · exact hSide m hLeft n hRight ⟨hNegative, hPositive⟩
    · exact absurd hPositive (by decide)
  · exact absurd hNegative (by decide)

/- Such numbers are all above zero, or all below. -/
theorem OnOneSide.cases
    {parts : List Int64}
    (hSide : OnOneSide parts) :
    (∀ n ∈ parts, 0 ≤ n.toInt) ∨
      (∀ n ∈ parts, n.toInt ≤ 0) := by
  by_cases hAbove : ∀ n ∈ parts, 0 ≤ n.toInt
  · exact .inl hAbove
  · right
    intro n hMem
    by_contra hSign
    apply hAbove
    intro m hOther
    by_contra hNegative
    exact hSide m hOther n hMem
      ⟨Int.not_le.mp hNegative, Int.not_le.mp hSign⟩

variable {p : Policy}

/- The function of the library that makes a span. -/
def Moment.timeSpanner : StandardFunction :=
  ⟨"TimeSpan", .oneOf [1, 3, 4, 5], .timeSpan⟩

theorem Moment.get?_timeSpanner
    (m : Moment)
    {name : String}
    (hName : SameName "TimeSpan" name) :
    m.library.get? name = some timeSpanner.function := by
  apply Directory.get?_library _ hName
  simp only [functions, timeSpanner, List.mem_cons, true_or,
    or_true]

section Calls

variable
    (hOwn : ∀ n : Int64,
      p.convert (.long n) .long = .ok (.long n))

include hOwn

/- Numbers of 64 bits are read as they are. -/
theorem mapM_toLong
    (parts : List Int64) :
    (parts.map Value.long).mapM p.toLong = .ok parts := by
  induction parts with
  | nil => rfl
  | cons n parts ih =>
      have hFirst : p.toLong (.long n) = .ok n := by
        rw [Conversion.toLong, Conversion.extract, hOwn]
        rfl
      rw [List.map_cons, List.mapM_cons, hFirst,
        Outcome.ok_bind, ih]
      rfl

/- A call makes a span of the milliseconds in its parts. -/
theorem Moment.call_timeSpanner
    (days hours minutes : Int64)
    {rest : List Int64}
    (hRest : rest.length ≤ 2) :
    timeSpanner.function
        ((days :: hours :: minutes :: rest).map .long) p =
      (spanOf (millisOf? days hours minutes
        (rest[0]?.getD 0) (rest[1]?.getD 0))).toCall := by
  have hRead :=
    mapM_toLong hOwn (days :: hours :: minutes :: rest)
  have hAllowed :
      timeSpanner.arity.allows
        ((days :: hours :: minutes :: rest).map
          Value.long).length = true := by
    have hCount : rest.length = 0 ∨ rest.length = 1 ∨
        rest.length = 2 := by omega
    rw [List.length_map, List.length_cons, List.length_cons,
      List.length_cons]
    rcases hCount with hCount | hCount | hCount <;>
      rw [hCount] <;> rfl
  have hCall :
      timeSpanner.function
          ((days :: hours :: minutes :: rest).map .long) p =
        Function.timeSpan
          ((days :: hours :: minutes :: rest).map .long) p :=
    if_pos hAllowed
  rw [hCall, Function.timeSpan, hRead]
  rfl

/-
  What is not given counts as zero, so there are five parts,
  none of them on another side of zero than those given.
-/
theorem exists_call_timeSpanner
    {parts : List Int64}
    {total : Int}
    (hParts : spannedMillis? parts = some total) :
    ∃ days hours minutes seconds millis : Int64,
      Moment.timeSpanner.function (parts.map .long) p =
        (spanOf (millisOf? days hours minutes seconds
          millis)).toCall ∧
      totalMillis days.toInt hours.toInt minutes.toInt
          seconds.toInt millis.toInt = total ∧
      ∀ n ∈ [days, hours, minutes, seconds, millis],
        n ∈ parts ∨ n = 0 := by
  unfold spannedMillis? at hParts
  split at hParts
  · rename_i d h m
    cases hParts
    refine ⟨d, h, m, 0, 0, ?_, rfl, by simp⟩
    exact Moment.call_timeSpanner hOwn d h m (by simp)
  · rename_i d h m s
    cases hParts
    refine ⟨d, h, m, s, 0, ?_, rfl, by simp⟩
    exact Moment.call_timeSpanner hOwn d h m (by simp)
  · rename_i d h m s ms
    cases hParts
    refine ⟨d, h, m, s, ms, ?_, rfl, by simp⟩
    exact Moment.call_timeSpanner hOwn d h m (by simp)
  · cases hParts

end Calls

/- A span of milliseconds is the only outcome but a failure. -/
theorem toCall_spanOf_eq_ok_iff
    {found : Option Int64}
    {v : Value} :
    (spanOf found).toCall = .ok v ↔
      ∃ r, found = some r ∧ v = .timeSpan (.ofMillis r) := by
  cases found <;> simp [spanOf, Outcome.toCall, eq_comm]

theorem toCall_spanOf_eq_error_iff
    {found : Option Int64}
    {e : CallError} :
    (spanOf found).toCall = .error e ↔
      found = none ∧ e = .failed (Cause.calculation
        "time span is out of range").unplaced := by
  cases found <;>
    simp [spanOf, miscalculated, Outcome.toCall, eq_comm]

/-
  A span that is made of days and smaller units is exact.  The
  call fails only because a total leaves 64 bits.  If no two
  parts are on opposite sides of zero, this happens if and only
  if the last total does, which counts the milliseconds of all
  parts.
-/
theorem timeSpan_exact
    (moment : Moment)
    (hOwn : ∀ n : Int64,
      p.convert (.long n) .long = .ok (.long n))
    {name : String}
    (hName : SameName "TimeSpan" name) :
    ∃ timeSpan,
      moment.library.get? name = some timeSpan ∧
      ∀ parts total, spannedMillis? parts = some total →
        (∀ v, timeSpan (parts.map .long) p = .ok v →
          ∃ s, v = .timeSpan s ∧
            s.nanos = total * nanosPerMilli) ∧
        (∀ e, timeSpan (parts.map .long) p = .error e →
          e = .failed (Cause.calculation
            "time span is out of range").unplaced) ∧
        (OnOneSide parts →
          ((∃ v, timeSpan (parts.map .long) p = .ok v) ↔
            FitsInt64 total)) := by
  refine ⟨Moment.timeSpanner.function,
    moment.get?_timeSpanner hName, ?_⟩
  intro parts total hParts
  rcases exists_call_timeSpanner hOwn hParts with
    ⟨days, hours, minutes, seconds, millis, hCall, hTotal,
      hGiven⟩
  simp only [hCall, toCall_spanOf_eq_ok_iff,
    toCall_spanOf_eq_error_iff]
  refine ⟨?_, ?_, ?_⟩
  · rintro v ⟨r, hFound, rfl⟩
    refine ⟨_, rfl, ?_⟩
    rw [TimeSpan.nanos_ofMillis, toInt_of_millisOf? hFound,
      hTotal]
  · rintro e ⟨-, hFailure⟩
    exact hFailure
  · intro hSide
    constructor
    · rintro ⟨v, r, hFound, -⟩
      rw [← hTotal, ← toInt_of_millisOf? hFound]
      exact FitsInt64.toInt r
    · intro hFits
      rw [← hTotal] at hFits
      rcases exists_millisOf? (hSide.extend hGiven).cases
        hFits with ⟨r, hFound⟩
      exact ⟨_, r, hFound, rfl⟩

/-
  The offered policies leave numbers of 64 bits as they are.
  The longest span back in time that has a number of 64 bits
  is made of its parts, and one a millisecond longer is not.
-/
theorem timeSpan_exact_least :
    (∀ p, Policy.IsOffered p → ∀ n : Int64,
      p.convert (.long n) .long = .ok (.long n)) ∧
    SameName "TimeSpan" "TIMESPAN" ∧
    OnOneSide [-106751991167, -7, -12, -55, -808] ∧
    spannedMillis? [-106751991167, -7, -12, -55, -808] =
      some (-9223372036854775808) ∧
    OnOneSide [-106751991167, -7, -12, -55, -809] ∧
    spannedMillis? [-106751991167, -7, -12, -55, -809] =
      some (-9223372036854775809) ∧
    ∃ timeSpan,
      (Moment.mk .epoch 0).library.get? "TIMESPAN" =
        some timeSpan ∧
      (∃ s : TimeSpan,
        timeSpan ([-106751991167, -7, -12, -55, -808].map
          .long) .strict = .ok (.timeSpan s) ∧
        s.nanos = -9223372036854775808000000) ∧
      timeSpan ([-106751991167, -7, -12, -55, -809].map
          .long) .strict =
        .error (.failed (Cause.calculation
          "time span is out of range").unplaced) := by
  have hOwn (p : Policy) (hOffered : p.IsOffered) (n : Int64) :
      p.convert (.long n) .long = .ok (.long n) :=
    hOffered.convert_self (.long n)
  have hName : SameName "TimeSpan" "TIMESPAN" := by
    decide +kernel
  have hSide :
      OnOneSide [-106751991167, -7, -12, -55, -808] := by
    decide +kernel
  have hParts :
      spannedMillis? [-106751991167, -7, -12, -55, -808] =
        some (-9223372036854775808) := by
    decide +kernel
  have hLongerSide :
      OnOneSide [-106751991167, -7, -12, -55, -809] := by
    decide +kernel
  have hLonger :
      spannedMillis? [-106751991167, -7, -12, -55, -809] =
        some (-9223372036854775809) := by
    decide +kernel
  rcases timeSpan_exact ⟨.epoch, 0⟩
    (hOwn .strict (.inl rfl)) hName with
    ⟨timeSpan, hFound, hExact⟩
  rcases hExact _ _ hParts with ⟨hMade, -, hFits⟩
  rcases hExact _ _ hLonger with ⟨-, hFailure, hLeaves⟩
  rcases (hFits hSide).mpr (by decide) with ⟨v, hCall⟩
  rcases hMade v hCall with ⟨s, rfl, hNanos⟩
  have hLength : s.nanos = -9223372036854775808000000 := by
    rw [hNanos]
    rfl
  refine ⟨hOwn, hName, hSide, hParts, hLongerSide, hLonger,
    timeSpan, hFound, ⟨s, hCall, hLength⟩, ?_⟩
  cases hRefused : timeSpan
    ([-106751991167, -7, -12, -55, -809].map .long) .strict with
  | error e => rw [hFailure e hRefused]
  | ok v =>
      have hRange := (hLeaves hLongerSide).mp ⟨v, hRefused⟩
      exact absurd hRange (by decide)

end Formula
