import Mathlib
import Formula.Proofs.Numeral.WholeNumber
import Formula.Proofs.Time.Calendar
import Formula.Time.Rfc3339

/-
  Timestamps and their texts.

  A text has a part for each component of a timestamp, and the
  parts are described apart from the way they are written: a
  field has a fixed number of digits, the digits of a fraction
  may end in zeros or not.  What is written has such parts, and
  what has such parts is read.

  Key definitions include:
    * `Rfc3339.IsField`
    * `Rfc3339.IsFraction`
    * `Rfc3339.IsOffset`
    * `Rfc3339.Parts`
    * `Rfc3339.IsPlainText`
    * `Rfc3339.IsExtendedText`

  Main statements:
    * `Rfc3339.isPlainText_plainText`
    * `Rfc3339.isExtendedText_extendedText`
    * `Rfc3339.IsPlainText.read?_eq`
-/

namespace Formula

namespace Rfc3339

------------------------------------------------------------
-- Fields
------------------------------------------------------------

/- A number in so many digits. -/
structure IsField
    (width n : Nat)
    (s : List Char) : Prop where
  length_eq : s.length = width
  areDigits : AreDigits s
  value_eq : digitsValue s = n

/- A number that is small enough is written as a field. -/
theorem isField_padded
    {width n : Nat}
    (hWidth : 0 < width)
    (hFits : n < 10 ^ width) :
    IsField width n (padded width n) := by
  have hLength : (Nat.toDigits 10 n).length ≤ width :=
    (Nat.length_toDigits_le_iff (by decide) hWidth).mpr hFits
  refine ⟨?_, (isDigits_zeros _ n).areDigits, ?_⟩
  · simp [padded, padZeros, digitsOf, hLength]
  · exact (digitsValue_zeros _ _).trans (digitsValue_toDigits n)

variable {width n : Nat} {s : List Char}

/- A field is read, whatever comes after it. -/
theorem IsField.readDigits?_append
    (hField : IsField width n s)
    (rest : List Char) :
    readDigits? width (s ++ rest) = some (n, rest) := by
  have hAll : s.all isDigit = true :=
    List.all_eq_true.mpr hField.areDigits
  unfold readDigits?
  rw [List.take_left' hField.length_eq,
    List.drop_left' hField.length_eq]
  simp [hField.length_eq, hField.value_eq, hAll]

------------------------------------------------------------
-- Fractions
------------------------------------------------------------

/-
  A fraction of a second: a point and digits, nine of them
  once zeros are added, or nothing at all.
-/
inductive IsFraction
    (nanos : Nat) : List Char → Prop where
  | whole
      (hNone : nanos = 0) :
      IsFraction nanos []
  | pointed
      {digits : List Char}
      (hSome : digits ≠ [])
      (hLength : digits.length ≤ 9)
      (hField : IsField 9 nanos
        (digits ++ List.replicate (9 - digits.length) '0')) :
      IsFraction nanos ('.' :: digits)

/- Only zeros are dropped from the end of digits. -/
theorem dropTrailingZeros_append
    (digits : List Char) :
    ∃ zeros, dropTrailingZeros digits ++
      List.replicate zeros '0' = digits := by
  refine ⟨(digits.reverse.takeWhile
    fun c => c = '0').length, ?_⟩
  have hZero : ∀ c ∈ digits.reverse.takeWhile fun c => c = '0',
      c = '0' := by
    intro c hMem
    simpa using List.mem_takeWhile_imp hMem
  have hZeros := List.eq_replicate_of_mem hZero
  unfold dropTrailingZeros
  rw [← List.reverse_replicate, ← hZeros, ← List.reverse_append,
    List.takeWhile_append_dropWhile, List.reverse_reverse]

/- A fraction is written without the zeros at its end. -/
theorem isFraction_fractionText
    {nanos : Nat}
    (hNanos : nanos < 10 ^ 9) :
    IsFraction nanos (fractionText nanos) := by
  unfold fractionText
  split
  · exact .whole ‹nanos = 0›
  · have hField := isField_padded (by decide) hNanos
    rcases dropTrailingZeros_append (padded 9 nanos) with
      ⟨zeros, hDigits⟩
    have hLength := congrArg List.length hDigits
    rw [List.length_append, List.length_replicate,
      hField.length_eq] at hLength
    refine .pointed ?_ (by omega) ?_
    · intro hNone
      rw [hNone, List.nil_append] at hDigits
      have hValue := hField.value_eq
      rw [← hDigits, ← List.append_nil (List.replicate _ _),
        digitsValue_zeros] at hValue
      exact absurd hValue.symm ‹¬ nanos = 0›
    · have hZeros : zeros =
          9 - (dropTrailingZeros (padded 9 nanos)).length := by
        omega
      rw [← hZeros, hDigits]
      exact hField

/- A fraction is read up to what stops its digits. -/
theorem IsFraction.readFraction?_append
    {nanos : Nat}
    {rest : List Char}
    (hFraction : IsFraction nanos s)
    (hStops : StopsDigits rest) :
    readFraction? (s ++ rest) = some (nanos, rest) := by
  cases hFraction with
  | whole hNone =>
      subst hNone
      rw [List.nil_append]
      cases rest with
      | nil => rfl
      | cons c rest =>
          have hPoint : c ≠ '.' := (hStops c rfl).2
          simp [readFraction?, hPoint]
  | pointed hSome hLength hField =>
      rename_i digits
      have hDigits : AreDigits digits := by
        intro c hMem
        exact hField.areDigits c (List.mem_append_left _ hMem)
      have hTake : (digits ++ List.replicate 9 '0').take 9 =
          digits ++ List.replicate (9 - digits.length) '0' := by
        rw [List.take_append, List.take_of_length_le hLength,
          List.take_replicate,
          Nat.min_eq_left (Nat.sub_le 9 _)]
      rw [List.cons_append, readFraction?,
        takeWhile_digits hDigits, dropWhile_digits hDigits,
        hStops.takeWhile, hStops.dropWhile, List.append_nil,
        hTake, hField.value_eq]
      simp [hSome]

------------------------------------------------------------
-- Offsets
------------------------------------------------------------

/- The sign of a number, one above zero having a sign too. -/
def signOf
    (n : Int) : Char :=
  if n < 0 then '-' else '+'

/- An offset in hours and minutes, or the letter for none. -/
inductive IsOffset
    (offset : Int) : List Char → Prop where
  | universal
      (hNone : offset = 0) :
      IsOffset offset ['Z']
  | shifted
      {hours minutes : List Char}
      (hSome : offset ≠ 0)
      (hHours : IsField 2 (offset.natAbs / 3600) hours)
      (hMinutes : IsField 2 (offset.natAbs / 60 % 60) minutes) :
      IsOffset offset
        (signOf offset :: (hours ++ ':' :: minutes))

/- An offset is written in hours and minutes. -/
theorem isOffset_offsetText
    {offset : Int}
    (hLargest : offset.natAbs < 360000) :
    IsOffset offset (offsetText offset) := by
  unfold offsetText
  split
  · exact .universal ‹offset = 0›
  · dsimp only
    rw [Nat.div_div_eq_div_mul]
    exact .shifted ‹¬ offset = 0›
      (isField_padded (by decide) (by omega))
      (isField_padded (by decide) (by omega))

/- An offset stops the digits before it. -/
theorem IsOffset.stopsDigits
    {offset : Int}
    (hOffset : IsOffset offset s) :
    StopsDigits s := by
  cases hOffset with
  | universal hNone =>
      rintro c ⟨⟩
      decide
  | shifted hSome hHours hMinutes =>
      rintro c ⟨⟩
      unfold signOf
      split <;> decide

/- An offset in whole minutes below a day is read. -/
theorem IsOffset.readOffset?_eq
    {offset : Int}
    (hOffset : IsOffset offset s)
    (hDay : offset.natAbs < 86400)
    (hWhole : offset.natAbs % 60 = 0) :
    readOffset? s = some offset := by
  cases hOffset with
  | universal hNone => rw [hNone]; rfl
  | shifted hSome hHours hMinutes =>
      rename_i hours minutes
      have hHour : offset.natAbs / 3600 ≤ 23 := by omega
      have hMinute : offset.natAbs / 60 % 60 ≤ 59 := by omega
      have hTotal : offset.natAbs / 3600 * 3600 +
          offset.natAbs / 60 % 60 * 60 = offset.natAbs := by
        omega
      generalize offset.natAbs / 3600 = h at *
      generalize offset.natAbs / 60 % 60 = m at *
      have hRead : readDigits? 2 minutes = some (m, []) := by
        simpa using hMinutes.readDigits?_append []
      by_cases hSign : offset < 0
      · simp [signOf, hSign, readOffset?, readChar?, hRead,
          hHours.readDigits?_append, hHour, hMinute]
        omega
      · simp [signOf, hSign, readOffset?, readChar?, hRead,
          hHours.readDigits?_append, hHour, hMinute]
        omega

------------------------------------------------------------
-- Parts of a Text
------------------------------------------------------------

/- The parts of a text, without the marks between them. -/
structure Parts where
  year : List Char
  month : List Char
  day : List Char
  hour : List Char
  minute : List Char
  second : List Char
  fraction : List Char
  offset : List Char

/- The text that has given parts. -/
def Parts.text
    (p : Parts) : List Char :=
  p.year ++ '-' :: (p.month ++ '-' :: (p.day ++
    'T' :: (p.hour ++ ':' :: (p.minute ++ ':' :: (p.second ++
      (p.fraction ++ p.offset))))))

/- The parts show a timestamp, up to the fraction and the sign. -/
structure Parts.Show
    (p : Parts)
    (t : Timestamp) : Prop where
  year : IsField 4 t.date.year.natAbs p.year
  month : IsField 2 t.date.month p.month
  day : IsField 2 t.date.day p.day
  hour : IsField 2 (t.secondOfDay / 3600) p.hour
  minute : IsField 2 (t.secondOfDay / 60 % 60) p.minute
  second : IsField 2 (t.secondOfDay % 60) p.second
  offset : IsOffset t.offset p.offset

/- The parts that are written for a timestamp. -/
def written
    (t : Timestamp)
    (fraction : List Char) : Parts where
  year := padded 4 t.date.year.natAbs
  month := padded 2 t.date.month
  day := padded 2 t.date.day
  hour := padded 2 (t.secondOfDay / 3600)
  minute := padded 2 (t.secondOfDay / 60 % 60)
  second := padded 2 (t.secondOfDay % 60)
  fraction := fraction
  offset := offsetText t.offset

/- The parts that are written show the timestamp. -/
theorem show_written
    (t : Timestamp)
    (fraction : List Char) :
    (written t fraction).Show t := by
  have hYear := t.natAbs_year_le
  have hDate : t.date.IsValid :=
    Date.isValid_ofDayNumber t.dayNumber
  have hMonth := hDate.month_le
  have hDay := hDate.day_le.trans (Date.monthLength_le _ _)
  have hSecond := t.secondOfDay_lt
  have hLow := t.offset_above
  have hHigh := t.offset_below
  unfold largestOffset at hLow hHigh
  have hField {width n : Nat}
      (hWidth : 0 < width)
      (hFits : n < 10 ^ width) :=
    isField_padded hWidth hFits
  exact {
    year := hField (by decide) (by omega)
    month := hField (by decide) (by omega)
    day := hField (by decide) (by omega)
    hour := hField (by decide) (by omega)
    minute := hField (by decide) (by omega)
    second := hField (by decide) (by omega)
    offset := isOffset_offsetText (by omega) }

/- A text of the plain form. -/
def IsPlainText
    (t : Timestamp)
    (s : List Char) : Prop :=
  ∃ p : Parts, p.Show t ∧
    IsFraction t.nanosOfSecond p.fraction ∧ s = p.text

/- Milliseconds in three digits, or nothing if there are none. -/
inductive IsMillis
    (millis : Nat) : List Char → Prop where
  | whole
      (hNone : millis = 0) :
      IsMillis millis []
  | pointed
      {digits : List Char}
      (hSome : millis ≠ 0)
      (hField : IsField 3 millis digits) :
      IsMillis millis ('.' :: digits)

/-
  A text of the extended form: its year has a sign, and the
  fraction is cut to milliseconds.
-/
def IsExtendedText
    (t : Timestamp)
    (s : List Char) : Prop :=
  ∃ p : Parts, p.Show t ∧
    IsMillis (t.nanosOfSecond / 1000000) p.fraction ∧
    s = signOf t.date.year :: p.text

/- Every timestamp has a text of both forms. -/
theorem isPlainText_plainText
    (t : Timestamp) :
    IsPlainText t (plainText t) := by
  refine ⟨written t (fractionText t.nanosOfSecond),
    show_written t _,
    isFraction_fractionText t.nanosOfSecond_lt, ?_⟩
  simp [plainText, clockText, written, Parts.text]

theorem isExtendedText_extendedText
    (t : Timestamp) :
    IsExtendedText t (extendedText t) := by
  have hNanos := t.nanosOfSecond_lt
  refine ⟨written t
    (if t.nanosOfSecond / 1000000 = 0 then []
      else '.' :: padded 3 (t.nanosOfSecond / 1000000)),
    show_written t _, ?_, ?_⟩
  · unfold written
    split
    · exact .whole ‹_›
    · exact .pointed ‹_› (isField_padded (by decide) (by omega))
  · simp [extendedText, clockText, written, Parts.text, signOf]

/- The text of a timestamp is plain if the timestamp is. -/
theorem text_of_isPlain
    {t : Timestamp}
    (hPlain : IsPlain t) :
    IsPlainText t (text t) := by
  rw [text, if_pos hPlain]
  exact isPlainText_plainText t

theorem text_of_not_isPlain
    {t : Timestamp}
    (hPlain : ¬ IsPlain t) :
    IsExtendedText t (text t) := by
  rw [text, if_neg hPlain]
  exact isExtendedText_extendedText t

------------------------------------------------------------
-- Reading
------------------------------------------------------------

/- The clock of a timestamp is that of its hours and minutes. -/
theorem ofClock?_components
    {t : Timestamp}
    (hYear : 0 ≤ t.date.year) :
    ofClock? ⟨t.date.year.natAbs, t.date.month, t.date.day⟩
      (t.secondOfDay / 3600) (t.secondOfDay / 60 % 60)
      (t.secondOfDay % 60) t.nanosOfSecond t.offset =
      some t := by
  have hLeap : t.secondOfDay % 60 ≠ 60 := by omega
  have hSecond :
      t.secondOfDay / 3600 * 3600 +
        t.secondOfDay / 60 % 60 * 60 + t.secondOfDay % 60 =
        t.secondOfDay := by
    omega
  rw [ofClock?, if_neg hLeap, hSecond,
    Int.natAbs_of_nonneg hYear]
  exact t.ofClock?_date

/- What is read goes on with what comes after it. -/
theorem bind_of_eq_some
    {r : Option α}
    {rest : α → Option β}
    {a : α}
    {b : Option β}
    (hRead : r = some a)
    (hRest : rest a = b) :
    (r >>= rest) = b := by
  rw [hRead]
  exact hRest

/- The parts of a text are read one after the other. -/
theorem Parts.Show.read?_text
    {t : Timestamp}
    {p : Parts}
    (hShow : p.Show t)
    (hFraction : IsFraction t.nanosOfSecond p.fraction)
    (hPlain : IsPlain t) :
    read? p.text = some t := by
  rcases hPlain with ⟨⟨hYear, -⟩, hDay, hWhole⟩
  have hDate : t.date.IsValid :=
    Date.isValid_ofDayNumber t.dayNumber
  have hLength : t.date.day ≤
      Date.monthLength t.date.year.natAbs t.date.month := by
    rw [Int.natAbs_of_nonneg hYear]
    exact hDate.day_le
  have hSecond := t.secondOfDay_lt
  have hHour : t.secondOfDay / 3600 ≤ 23 := by omega
  have hMinute : t.secondOfDay / 60 % 60 ≤ 59 := by omega
  have hBelow : t.secondOfDay % 60 ≤ 60 := by omega
  have hFractionRead := hFraction.readFraction?_append
    hShow.offset.stopsDigits
  have hOffsetRead := hShow.offset.readOffset?_eq hDay hWhole
  have hMark (c : Char) (rest : List Char) :
      readChar? c (c :: rest) = some rest := by
    simp [readChar?]
  have hSeparator (rest : List Char) :
      readSeparator? ('T' :: rest) = some rest := by
    simp [readSeparator?]
  unfold read? Parts.text
  refine bind_of_eq_some (hShow.year.readDigits?_append _) ?_
  refine bind_of_eq_some (hMark '-' _) ?_
  refine bind_of_eq_some (hShow.month.readDigits?_append _) ?_
  refine bind_of_eq_some (hMark '-' _) ?_
  refine bind_of_eq_some (hShow.day.readDigits?_append _) ?_
  refine bind_of_eq_some (hSeparator _) ?_
  refine bind_of_eq_some (hShow.hour.readDigits?_append _) ?_
  refine bind_of_eq_some (hMark ':' _) ?_
  refine bind_of_eq_some (hShow.minute.readDigits?_append _) ?_
  refine bind_of_eq_some (hMark ':' _) ?_
  refine bind_of_eq_some (hShow.second.readDigits?_append _) ?_
  refine bind_of_eq_some hFractionRead ?_
  refine bind_of_eq_some hOffsetRead ?_
  simp only [hDate.month_pos, hDate.month_le, hDate.day_pos,
    hLength, hHour, hMinute, hBelow, decide_true, Bool.and_self,
    if_true]
  exact ofClock?_components hYear

/- A text of the plain form is read as its timestamp. -/
theorem IsPlainText.read?_eq
    {t : Timestamp}
    (hText : IsPlainText t s)
    (hPlain : IsPlain t) :
    read? s = some t := by
  rcases hText with ⟨p, hShow, hFraction, rfl⟩
  exact hShow.read?_text hFraction hPlain

end Rfc3339

end Formula
