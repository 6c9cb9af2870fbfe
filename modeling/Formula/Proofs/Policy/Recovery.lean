import Mathlib
import Formula.Policy.Permissive
import Formula.Proofs.Numeral.Rounding
import Formula.Proofs.Time.Rfc3339

/-
  Conversions that lose nothing.

  The permissive policy recovers a value from another type if
  what the value becomes in that type becomes the value again.
  It recovers timestamps from their texts as far as these are
  plain, and whole numbers from every type that holds them: as
  digits, as milliseconds of a span, as seconds of a timestamp
  and as floating-point numbers.

  Key definitions include:
    * `Policy.Recovers`
    * `IsSolid`

  Main statements:
    * `Policy.recovers_string`
    * `timestamps_recovered`
    * `wholeNumbers_recovered`
-/

namespace Formula

------------------------------------------------------------
-- There and Back
------------------------------------------------------------

namespace Policy

/- What a value becomes in another type becomes it again. -/
def Recovers
    (p : Policy)
    (v : Value)
    (target : ValueType) : Prop :=
  ∃ w, w.type = target ∧
    p.convert v target = .ok w ∧ p.convert w v.type = .ok v

/- Every value has a text. -/
theorem permissive_convert_string
    (v : Value) :
    permissive.convert v .string = .ok (.string v.text) := by
  cases v <;>
    simp [permissive, convertPermissive, Value.type, Value.text]

/- A value is read anew for a type that not every value has. -/
theorem permissive_convert_eq
    {v : Value}
    {target : ValueType}
    (hOther : target ∉
      [.null, .object, .string, v.type]) :
    permissive.convert v target =
      (reinterpret? v target).elim
        (.error (noConversion v.type target)) .ok := by
  simp only [List.mem_cons, List.not_mem_nil, or_false,
    not_or] at hOther
  rcases hOther with ⟨hNull, hObject, hString, hType⟩
  simp only [permissive, Conversion.policy_toConversion,
    convertPermissive, if_neg hNull, hType, hObject, or_self,
    if_neg hString, if_false]
  cases reinterpret? v target <;> rfl

theorem permissive_convert_ok
    {v w : Value}
    {target : ValueType}
    (hOther : target ∉ [.null, .object, .string, v.type])
    (hRead : reinterpret? v target = some w) :
    permissive.convert v target = .ok w := by
  rw [permissive_convert_eq hOther, hRead, Option.elim_some]

/- A value is recovered from its text if the text is read so. -/
theorem recovers_string
    {v : Value}
    (hOther : v.type ∉ [.null, .object, .string])
    (hRead : ofText? v.text v.type = some v) :
    permissive.Recovers v .string := by
  refine ⟨.string v.text, rfl, permissive_convert_string v, ?_⟩
  refine permissive_convert_ok ?_ hRead
  simpa [Value.type] using hOther

end Policy

------------------------------------------------------------
-- White Space
------------------------------------------------------------

/- A text without white space. -/
def IsSolid
    (s : List Char) : Prop :=
  ∀ c ∈ s, isBlank c = false

/- Nothing is taken from the ends of a text without it. -/
theorem IsSolid.trim_eq
    {s : List Char}
    (hSolid : IsSolid s) :
    trim s = s := by
  have hStay {s : List Char} (hSolid : IsSolid s) :
      s.dropWhile isBlank = s := by
    cases s with
    | nil => rfl
    | cons c s =>
        simp [hSolid c List.mem_cons_self]
  have hReverse : IsSolid s.reverse := by
    intro c hMem
    exact hSolid c (List.mem_reverse.mp hMem)
  rw [trim, hStay hSolid, trimEnd, hStay hReverse,
    List.reverse_reverse]

/- Digits are no white space. -/
theorem isSolid_of_areDigits
    {s : List Char}
    (hDigits : AreDigits s) :
    IsSolid s := by
  intro c hMem
  have hDigit := hDigits c hMem
  simp only [isDigit, Bool.and_eq_true, decide_eq_true_eq]
    at hDigit
  have hLow : 48 ≤ c.toNat := hDigit.1
  have hHigh : c.toNat ≤ 57 := hDigit.2
  simp [isBlank, CodeRange.anyHas, blankRanges, CodeRange.has]
  omega

theorem isSolid_append_iff
    {s t : List Char} :
    IsSolid (s ++ t) ↔ IsSolid s ∧ IsSolid t :=
  List.forall_mem_append

theorem isSolid_cons_iff
    {c : Char}
    {s : List Char} :
    IsSolid (c :: s) ↔ isBlank c = false ∧ IsSolid s :=
  List.forall_mem_cons

------------------------------------------------------------
-- Texts of Timestamps
------------------------------------------------------------

namespace Rfc3339

theorem IsField.isSolid
    {width n : Nat}
    {s : List Char}
    (hField : IsField width n s) :
    IsSolid s :=
  isSolid_of_areDigits hField.areDigits

theorem IsFraction.isSolid
    {nanos : Nat}
    {s : List Char}
    (hFraction : IsFraction nanos s) :
    IsSolid s := by
  cases hFraction with
  | whole hNone => exact List.forall_mem_nil _
  | pointed hSome hLength hField =>
      have hDigits := (isSolid_append_iff.mp hField.isSolid).1
      exact isSolid_cons_iff.mpr ⟨by decide, hDigits⟩

theorem IsOffset.isSolid
    {offset : Int}
    {s : List Char}
    (hOffset : IsOffset offset s) :
    IsSolid s := by
  cases hOffset with
  | universal hNone =>
      simp [IsSolid]
      decide
  | shifted hSome hHours hMinutes =>
      have hSign : isBlank (signOf offset) = false := by
        unfold signOf
        split <;> decide
      have hMark : isBlank ':' = false := by decide
      simp [isSolid_cons_iff, isSolid_append_iff, hSign, hMark,
        hHours.isSolid, hMinutes.isSolid]

/- A text of the plain form has no white space. -/
theorem IsPlainText.isSolid
    {t : Timestamp}
    {s : List Char}
    (hText : IsPlainText t s) :
    IsSolid s := by
  rcases hText with ⟨p, hShow, hFraction, rfl⟩
  have hFractionSolid := hFraction.isSolid
  have hOffsetSolid := hShow.offset.isSolid
  have hMarks : isBlank '-' = false ∧ isBlank 'T' = false ∧
      isBlank ':' = false := by
    decide
  simp only [Parts.text, isSolid_append_iff, isSolid_cons_iff,
    hMarks, hShow.year.isSolid, hShow.month.isSolid,
    hShow.day.isSolid, hShow.hour.isSolid, hShow.minute.isSolid,
    hShow.second.isSolid, hFractionSolid, hOffsetSolid,
    and_self]

end Rfc3339

/-
  A timestamp is recovered from its text, to the nanosecond and
  with its offset, if its year has four digits without a sign
  and its offset is a number of minutes below a day.  Every
  other timestamp has a text too, of the extended form.
-/
theorem timestamps_recovered
    (t : Timestamp) :
    (Rfc3339.IsPlain t →
      Policy.permissive.Recovers (.dateTime t) .string) ∧
    (¬ Rfc3339.IsPlain t →
      ∃ s, Policy.permissive.convert (.dateTime t) .string =
          .ok (.string s) ∧
        Rfc3339.IsExtendedText t s.toList) := by
  constructor
  · intro hPlain
    have hText := Rfc3339.text_of_isPlain hPlain
    refine Policy.recovers_string (by simp [Value.type]) ?_
    simp only [Value.text, Value.type, Policy.ofText?,
      String.toList_ofList, hText.isSolid.trim_eq,
      hText.read?_eq hPlain, Option.map_some]
  · intro hPlain
    refine ⟨_, Policy.permissive_convert_string _, ?_⟩
    rw [Value.text, String.toList_ofList]
    exact Rfc3339.text_of_not_isPlain hPlain

/- The first timestamp has a text, and the epoch its own. -/
theorem timestamps_recovered_first :
    Rfc3339.IsPlain .epoch ∧
    Policy.permissive.Recovers (.dateTime .epoch) .string ∧
    ∃ t : Timestamp, t.unixSeconds = firstSecond ∧
      ¬ Rfc3339.IsPlain t ∧
      ∃ s, Policy.permissive.convert (.dateTime t) .string =
          .ok (.string s) ∧
        Rfc3339.IsExtendedText t s.toList := by
  have hPlain : Rfc3339.IsPlain .epoch := by decide
  refine ⟨hPlain, (timestamps_recovered .epoch).1 hPlain, ?_⟩
  let first : Timestamp := {
    instant := firstSecond * nanosPerSecond
    offset := 0
    offset_above := by decide
    offset_below := by decide
    notBefore := by decide
    notAfter := by decide }
  have hDistant : ¬ Rfc3339.IsPlain first := by decide
  exact ⟨first, rfl, hDistant,
    (timestamps_recovered first).2 hDistant⟩

------------------------------------------------------------
-- Texts of Whole Numbers
------------------------------------------------------------

/- The text of a whole number is read as the number. -/
theorem readInt?_toString
    (n : Int) :
    readInt? (toString n).toList = some n := by
  cases n with
  | ofNat n =>
      have hRead := (isDigits_toDigits n).readInt?_eq
      rw [digitsValue_toDigits] at hRead
      rw [Int.ofNat_eq_natCast, toString_natCast,
        String.toList_ofList]
      exact hRead
  | negSucc n =>
      have hDigits := isDigits_toDigits (n + 1)
      have hAll := List.all_eq_true.mpr hDigits.areDigits
      rw [toString_negSucc, String.toList_ofList]
      simp [readInt?, splitSign, hAll, hDigits.ne_nil,
        digitsValue_toDigits, Int.negSucc_eq]

/- It has no white space. -/
theorem isSolid_toString
    (n : Int) :
    IsSolid (toString n).toList := by
  cases n with
  | ofNat n =>
      rw [Int.ofNat_eq_natCast, toString_natCast,
        String.toList_ofList]
      exact isSolid_of_areDigits (isDigits_toDigits n).areDigits
  | negSucc n =>
      rw [toString_negSucc, String.toList_ofList]
      exact isSolid_cons_iff.mpr ⟨by decide,
        isSolid_of_areDigits
          (isDigits_toDigits (n + 1)).areDigits⟩

theorem readInt32?_toString
    (n : Int32) :
    readInt32? (toString n.toInt).toList = some n := by
  rw [readInt32?, readInt?_toString, Option.bind_some,
    fitInt32?, if_pos ⟨n.minValue_le_toInt, n.toInt_le⟩,
    Int32.ofInt_toInt]

theorem readInt64?_toString
    (n : Int64) :
    readInt64? (toString n.toInt).toList = some n := by
  rw [readInt64?, readInt?_toString, Option.bind_some,
    fitInt64?, if_pos ⟨n.minValue_le_toInt, n.toInt_le⟩,
    Int64.ofInt_toInt]

------------------------------------------------------------
-- Numbers of Milliseconds and of Seconds
------------------------------------------------------------

namespace TimeSpan

/- Milliseconds of 64 bits are far from the longest span. -/
theorem nanos_ofMillis
    (n : Int64) :
    (ofMillis n).nanos = n.toInt * nanosPerMilli := by
  have hLow := n.le_toInt
  have hHigh := n.toInt_lt
  simp only [ofMillis, clamp, least, greatest, nanosPerMilli]
  omega

/- A span is the only one of its length. -/
theorem eq_of_nanos_eq
    {s u : TimeSpan}
    (hNanos : s.nanos = u.nanos) :
    s = u := by
  cases s
  cases u
  cases hNanos
  rfl

variable {s : TimeSpan} {n : Int64}

theorem eq_ofMillis
    (hNanos : s.nanos = n.toInt * nanosPerMilli) :
    s = ofMillis n :=
  eq_of_nanos_eq (hNanos.trans (nanos_ofMillis n).symm)

theorem wholeMillis_ofMillis
    (n : Int64) :
    (ofMillis n).wholeMillis = n.toInt := by
  rw [wholeMillis, nanos_ofMillis]
  exact Int.mul_tdiv_cancel _ (by decide)

theorem millis_ofMillis
    (n : Int64) :
    (ofMillis n).millis = n := by
  rw [millis, wholeMillis_ofMillis, min_eq_right n.toInt_le,
    max_eq_right n.minValue_le_toInt, Int64.ofInt_toInt]

end TimeSpan

namespace Timestamp

variable {seconds : Int}

/- The calendar has the seconds from its first to its last. -/
theorem exists_ofUnixSeconds?
    (hLow : firstSecond ≤ seconds)
    (hHigh : seconds ≤ lastSecond) :
    ∃ t, ofUnixSeconds? seconds = some t ∧
      t.unixSeconds = seconds := by
  have hSeconds :
      seconds * nanosPerSecond / nanosPerSecond = seconds :=
    Int.mul_ediv_cancel _ (by decide)
  have hRange : (-largestOffset ≤ 0 ∧ 0 ≤ largestOffset) ∧
      firstSecond ≤
        seconds * nanosPerSecond / nanosPerSecond + 0 ∧
      seconds * nanosPerSecond / nanosPerSecond + 0 ≤
        lastSecond := by
    rw [hSeconds, Int.add_zero]
    exact ⟨by decide, hLow, hHigh⟩
  exact ⟨_, dif_pos hRange, hSeconds⟩

theorem ofUnixSeconds?_eq_none
    (hOutside :
      ¬ (firstSecond ≤ seconds ∧ seconds ≤ lastSecond)) :
    ofUnixSeconds? seconds = none := by
  have hSeconds :
      seconds * nanosPerSecond / nanosPerSecond = seconds :=
    Int.mul_ediv_cancel _ (by decide)
  refine dif_neg ?_
  rw [hSeconds, Int.add_zero]
  exact fun hRange => hOutside hRange.2

end Timestamp

------------------------------------------------------------
-- Whole Numbers
------------------------------------------------------------

/- A number of 32 bits is a floating-point number itself. -/
theorem Double.nearest_natAbs
    (n : Int32) :
    BinaryFormat.double.nearest n.toInt.natAbs =
      n.toInt.natAbs := by
  have hLow := n.le_toInt
  have hHigh := n.toInt_lt
  have hFits : n.toInt.natAbs < 2 ^ 53 := by omega
  have hDigits : n.toInt.natAbs.log2 ≤ 52 := by
    by_cases hZero : n.toInt.natAbs = 0
    · simp [hZero]
    · have hLog := (Nat.log2_lt hZero).mpr hFits
      omega
  apply BinaryFormat.double.nearest_eq_self_iff.mpr
  rw [BinaryFormat.double.step_eq_one hDigits]
  exact Nat.one_dvd _

/- It comes back as it was. -/
theorem Double.toInt32_ofInt
    (n : Int32) :
    Double.toInt32 (Double.ofInt n.toInt) = n := by
  have hLow := n.le_toInt
  have hHigh := n.toInt_lt
  have hSign :
      (if n.toInt < 0 then -(n.toInt.natAbs : Int)
        else n.toInt.natAbs) = n.toInt := by
    split <;> omega
  rw [toInt32, truncate_ofInt (by omega), nearest_natAbs,
    hSign, min_eq_right n.toInt_le,
    max_eq_right n.minValue_le_toInt, Int32.ofInt_toInt]

namespace Policy

/-
  A value that is converted as a whole number, and that the
  number becomes in its type.
-/
structure IsWhole
    (v : Value)
    (n : Int64) : Prop where
  numeric : v.type.isNumeric = true
  there : ∀ target, reinterpret? v target = ofLong? n target
  back : ofLong? n v.type = some v

theorem isWhole_long
    (n : Int64) :
    IsWhole (.long n) n where
  numeric := rfl
  there := fun _ => rfl
  back := rfl

theorem isWhole_integer
    (n : Int32) :
    IsWhole (.integer n) n.toInt64 where
  numeric := rfl
  there := fun _ => rfl
  back := by simp [Value.type, ofLong?]

variable {v : Value} {n : Int64}

/- The types of numbers convert to those of time and back. -/
theorem IsWhole.not_mem
    (hWhole : IsWhole v n)
    {target : ValueType}
    (hTime : target = .dateTime ∨ target = .timeSpan) :
    target ∉ [.null, .object, .string, v.type] ∧
      v.type ∉ [.null, .object, .string, target] := by
  have hNumeric := hWhole.numeric
  rcases hTime with rfl | rfl <;>
    cases hType : v.type <;>
    simp_all [ValueType.isNumeric]

/- Every whole number is one of milliseconds. -/
theorem IsWhole.recovers_timeSpan
    (hWhole : IsWhole v n) :
    permissive.Recovers v .timeSpan := by
  rcases hWhole.not_mem (.inr rfl) with ⟨hThere, hBack⟩
  refine ⟨.timeSpan (.ofMillis n), rfl, ?_, ?_⟩
  · refine permissive_convert_ok hThere ?_
    simp [hWhole.there, ofLong?]
  · refine permissive_convert_ok hBack ?_
    simp [reinterpret?, ofTimeSpan?, hWhole.numeric,
      TimeSpan.millis_ofMillis, hWhole.back]

/- A whole number is one of seconds if the calendar has them. -/
theorem IsWhole.recovers_dateTime
    (hWhole : IsWhole v n)
    (hLow : firstSecond ≤ n.toInt)
    (hHigh : n.toInt ≤ lastSecond) :
    permissive.Recovers v .dateTime := by
  rcases hWhole.not_mem (.inl rfl) with ⟨hThere, hBack⟩
  rcases Timestamp.exists_ofUnixSeconds? hLow hHigh with
    ⟨t, hFound, hSeconds⟩
  refine ⟨.dateTime t, rfl, ?_, ?_⟩
  · refine permissive_convert_ok hThere ?_
    simp [hWhole.there, ofLong?, hFound]
  · refine permissive_convert_ok hBack ?_
    simp [reinterpret?, ofTimestamp?, hWhole.numeric, hSeconds,
      hWhole.back]

theorem IsWhole.convert_dateTime_eq_error
    (hWhole : IsWhole v n)
    (hOutside :
      ¬ (firstSecond ≤ n.toInt ∧ n.toInt ≤ lastSecond)) :
    permissive.convert v .dateTime =
      .error (noConversion v.type .dateTime) := by
  rcases hWhole.not_mem (.inl rfl) with ⟨hThere, -⟩
  rw [permissive_convert_eq hThere, hWhole.there, ofLong?,
    Timestamp.ofUnixSeconds?_eq_none hOutside]
  simp

/- The text of a number is read as a number of each type. -/
theorem ofText?_toString
    (n : Int64) :
    ofText? (toString n.toInt) .long = some (.long n) ∧
      ofText? (toString n.toInt) .timeSpan =
        some (.timeSpan (.ofMillis n)) := by
  simp only [ofText?, (isSolid_toString _).trim_eq,
    readInt64?_toString, Option.some_or, Option.map_some,
    and_self]

theorem recovers_integer_string
    (n : Int32) :
    permissive.Recovers (.integer n) .string := by
  refine recovers_string (by simp [Value.type]) ?_
  simp only [Value.text, Value.type, ofText?,
    (isSolid_toString _).trim_eq, readInt32?_toString,
    Option.some_or, Option.map_some]

/- A long number is recovered from its digits. -/
theorem recovers_long_string
    (n : Int64) :
    permissive.Recovers (.long n) .string :=
  recovers_string (by simp [Value.type]) (ofText?_toString n).1

/- A number of 32 bits is recovered from the wider numbers. -/
theorem recovers_integer_number
    (n : Int32) :
    permissive.Recovers (.integer n) .long ∧
      permissive.Recovers (.integer n) .double := by
  constructor
  · refine ⟨.long n.toInt64, rfl, rfl, ?_⟩
    refine permissive_convert_ok (by simp [Value.type]) ?_
    simp [reinterpret?, ofLong?, Value.type]
  · refine ⟨.double (Double.ofInt n.toInt64.toInt), rfl, rfl, ?_⟩
    refine permissive_convert_ok (by simp [Value.type]) ?_
    simp [reinterpret?, ofDouble?, Value.type,
      Double.toInt32_ofInt]

/- A span of whole milliseconds is recovered from their number. -/
theorem recovers_ofMillis
    (n : Int64) :
    permissive.Recovers (.timeSpan (.ofMillis n)) .string ∧
      permissive.Recovers (.timeSpan (.ofMillis n)) .long := by
  constructor
  · refine recovers_string (by simp [Value.type]) ?_
    rw [Value.text, TimeSpan.wholeMillis_ofMillis]
    exact (ofText?_toString n).2
  · refine ⟨.long n, rfl, ?_, rfl⟩
    refine permissive_convert_ok (by simp [Value.type]) ?_
    simp [reinterpret?, ofTimeSpan?, ValueType.isNumeric,
      ofLong?, TimeSpan.millis_ofMillis]

end Policy

/-
  Whole numbers are recovered wherever a type can hold them.
  One of 64 bits is recovered from its text and from a span,
  and from a timestamp if the calendar has its second; else it
  has no timestamp.  One of 32 bits is recovered from the wider
  numbers, its text, a span and a timestamp.  A span of whole
  milliseconds is recovered from its text and from a number of
  64 bits, if the milliseconds fit into one.
-/
theorem wholeNumbers_recovered :
    (∀ n : Int64,
      Policy.permissive.Recovers (.long n) .string ∧
      Policy.permissive.Recovers (.long n) .timeSpan ∧
      (-377705116800 ≤ n.toInt ∧ n.toInt ≤ 253402300799 →
        Policy.permissive.Recovers (.long n) .dateTime) ∧
      (¬ (-377705116800 ≤ n.toInt ∧
          n.toInt ≤ 253402300799) →
        Policy.permissive.convert (.long n) .dateTime =
          .error (noConversion .long .dateTime))) ∧
    (∀ n : Int32, ∀ target ∈
        [ValueType.long, .double, .string, .timeSpan, .dateTime],
      Policy.permissive.Recovers (.integer n) target) ∧
    (∀ (s : TimeSpan) (n : Int64),
      s.nanos = n.toInt * nanosPerMilli →
        Policy.permissive.Recovers (.timeSpan s) .string ∧
        Policy.permissive.Recovers (.timeSpan s) .long) := by
  refine ⟨?_, ?_, ?_⟩
  · intro n
    have hWhole := Policy.isWhole_long n
    refine ⟨Policy.recovers_long_string n,
      hWhole.recovers_timeSpan, ?_, ?_⟩
    · rintro ⟨hLow, hHigh⟩
      exact hWhole.recovers_dateTime hLow hHigh
    · intro hOutside
      exact hWhole.convert_dateTime_eq_error hOutside
  · intro n target hTarget
    have hWhole := Policy.isWhole_integer n
    have hLow := n.le_toInt
    have hHigh := n.toInt_lt
    simp only [List.mem_cons, List.not_mem_nil, or_false]
      at hTarget
    rcases hTarget with rfl | rfl | rfl | rfl | rfl
    · exact (Policy.recovers_integer_number n).1
    · exact (Policy.recovers_integer_number n).2
    · exact Policy.recovers_integer_string n
    · exact hWhole.recovers_timeSpan
    · refine hWhole.recovers_dateTime ?_ ?_ <;>
        rw [Int32.toInt_toInt64] <;>
        simp only [firstSecond, lastSecond] <;> omega
  · intro s n hNanos
    rw [TimeSpan.eq_ofMillis hNanos]
    exact Policy.recovers_ofMillis n

/- The ends of the ranges, and a negative span, are recovered. -/
theorem wholeNumbers_recovered_ends :
    Policy.permissive.Recovers (.long Int64.minValue) .timeSpan ∧
    Policy.permissive.Recovers
      (.long (-377705116800)) .dateTime ∧
    Policy.permissive.convert (.long 253402300800) .dateTime =
      .error (noConversion .long .dateTime) ∧
    Policy.permissive.Recovers
      (.integer Int32.minValue) .double ∧
    ∃ s : TimeSpan, s.nanos = -1500000000 ∧
      Policy.permissive.Recovers (.timeSpan s) .string := by
  rcases wholeNumbers_recovered with ⟨hLong, hInteger, hSpan⟩
  refine ⟨(hLong _).2.1, (hLong _).2.2.1 (by decide),
    (hLong _).2.2.2 (by decide),
    hInteger _ .double (by simp), ?_⟩
  let s : TimeSpan := ⟨-1500000000, by decide, by decide⟩
  have hNanos :
      s.nanos = (-1500 : Int64).toInt * nanosPerMilli := by
    decide
  exact ⟨s, rfl, (hSpan s (-1500) hNanos).1⟩

end Formula
