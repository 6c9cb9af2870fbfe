import Mathlib
import Formula.Proofs.Operator.Indexing
import Formula.Proofs.Policy.Recovery

/-
  Timestamps moved by spans.

  A timestamp is moved on the clock that it shows.  It is moved
  wherever the calendar has a date for it, and nowhere else.
  The move is exact: the span moves it back, and the time that
  has passed is the span.

  Key definitions include:
    * `Date.shownAt`

  Main statements:
    * `Date.natAbs_year_shownAt_le_iff`
    * `Timestamp.add?_eq_some_iff`
    * `Timestamp.add?_eq_none_iff`
    * `Timestamp.sub?_of_add?`
    * `Timestamp.since_of_add?`
    * `Policy.move_reversible`
-/

namespace Formula

------------------------------------------------------------
-- Dates Shown at an Instant
------------------------------------------------------------

/- The date that a clock with an offset shows at an instant. -/
def Date.shownAt
    (instant offset : Int) : Date :=
  ofDayNumber
    ((instant / nanosPerSecond + offset) / secondsPerDay)

/- The seconds of the calendar are those of its years. -/
theorem Date.natAbs_year_shownAt_le_iff
    {instant offset : Int} :
    (shownAt instant offset).year.natAbs ≤ 9999 ↔
      firstSecond ≤ instant / nanosPerSecond + offset ∧
        instant / nanosPerSecond + offset ≤ lastSecond := by
  rw [shownAt, natAbs_year_ofDayNumber_le_iff]
  unfold firstSecond lastSecond secondsPerDay
  omega

------------------------------------------------------------
-- Moves
------------------------------------------------------------

namespace Timestamp

variable {t e : Timestamp} {s : TimeSpan}
variable {instant offset : Int}

/- The date of a timestamp is the one that its clock shows. -/
theorem date_eq_shownAt
    (t : Timestamp) :
    t.date = Date.shownAt t.instant t.offset :=
  rfl

/- A timestamp is known by its instant and its offset. -/
theorem ofInstant?_eq_some_iff :
    ofInstant? instant offset = some e ↔
      e.instant = instant ∧ e.offset = offset := by
  constructor
  · intro hFound
    unfold ofInstant? at hFound
    split at hFound
    · cases hFound
      exact ⟨rfl, rfl⟩
    · cases hFound
  · rintro ⟨rfl, rfl⟩
    exact e.ofInstant?_instant

/- The calendar lacks it if it lacks the year of its date. -/
theorem ofInstant?_eq_none_iff
    (t : Timestamp)
    (instant : Int) :
    ofInstant? instant t.offset = none ↔
      ¬ (Date.shownAt instant t.offset).year.natAbs ≤ 9999 := by
  have hOffset := And.intro t.offset_above t.offset_below
  rw [Date.natAbs_year_shownAt_le_iff, ofInstant?,
    dite_eq_right_iff]
  simp only [hOffset, true_and, reduceCtorEq, imp_false]

/- A move changes the instant and keeps the offset. -/
theorem add?_eq_some_iff :
    t.add? s = some e ↔
      e.instant = t.instant + s.nanos ∧ e.offset = t.offset :=
  ofInstant?_eq_some_iff

/- A move is refused if it leaves the calendar. -/
theorem add?_eq_none_iff :
    t.add? s = none ↔
      ¬ (Date.shownAt (t.instant + s.nanos)
        t.offset).year.natAbs ≤ 9999 :=
  t.ofInstant?_eq_none_iff _

/- The span moves a timestamp back to where it was. -/
theorem sub?_of_add?
    (hMoved : t.add? s = some e) :
    e.sub? s = some t := by
  rcases add?_eq_some_iff.mp hMoved with ⟨hInstant, hOffset⟩
  apply ofInstant?_eq_some_iff.mpr
  refine ⟨?_, hOffset.symm⟩
  rw [hInstant, Int.add_sub_cancel]

/- The time that has passed is the span. -/
theorem since_of_add?
    (hMoved : t.add? s = some e) :
    e.since t = s := by
  rcases add?_eq_some_iff.mp hMoved with ⟨hInstant, -⟩
  have hLow := s.above
  have hHigh := s.below
  apply TimeSpan.eq_of_nanos_eq
  rw [since, hInstant, add_sub_cancel_left]
  simp only [TimeSpan.clamp, TimeSpan.least,
    TimeSpan.greatest]
  omega

end Timestamp

------------------------------------------------------------
-- Sums and Differences
------------------------------------------------------------

namespace Policy

variable {p : Policy}

/- Two timestamps differ by the time from one to the other. -/
theorem IsOffered.sub_dateTime
    (hOffered : p.IsOffered)
    (t u : Timestamp) :
    p.applyBinary .sub (.dateTime t) (.dateTime u) =
      .ok (.timeSpan (t.since u)) := by
  rcases hOffered.exists_eq_policy with ⟨q, rfl⟩
  have hSame :
      Conversion.subSame (.dateTime t) (.dateTime u) =
        some (.ok (.timeSpan (t.since u))) := rfl
  have hType :
      (Value.dateTime u).type = (Value.dateTime t).type := rfl
  exact hOffered.aligned_eq rfl hType hSame "-"

/-
  Moving a timestamp is undone by moving it back.  If there is
  a sum of a timestamp and a span, it is a timestamp of the
  same offset; less the span it is the timestamp, and less the
  timestamp it is the span, to the nanosecond.  There is no sum
  if and only if the date that the clock of the timestamp would
  show is not of the years -9999 to 9999.
-/
theorem move_reversible
    (hOffered : p.IsOffered)
    (t : Timestamp)
    (s : TimeSpan) :
    (∀ v,
      p.applyBinary .add (.dateTime t) (.timeSpan s) = .ok v →
        ∃ e : Timestamp, v = .dateTime e ∧
          e.instant = t.instant + s.nanos ∧
          e.offset = t.offset ∧
          e.date = Date.shownAt (t.instant + s.nanos) t.offset ∧
          p.applyBinary .sub (.dateTime e) (.timeSpan s) =
            .ok (.dateTime t) ∧
          p.applyBinary .sub (.dateTime e) (.dateTime t) =
            .ok (.timeSpan s)) ∧
    (∀ f,
      p.applyBinary .add (.dateTime t) (.timeSpan s) =
          .error f ↔
        f = (Cause.calculation
          "timestamp is out of range").unplaced ∧
        ¬ (Date.shownAt (t.instant + s.nanos)
          t.offset).year.natAbs ≤ 9999) := by
  have hDifference := hOffered.sub_dateTime
  rcases hOffered.exists_eq_policy with ⟨q, rfl⟩
  have hSum :
      q.policy.applyBinary .add (.dateTime t) (.timeSpan s) =
        movedTo (t.add? s) := rfl
  rw [hSum, ← Timestamp.add?_eq_none_iff]
  cases hMoved : t.add? s with
  | none =>
      simp [movedTo, timestampOutOfRange, eq_comm]
  | some e =>
      have hBack := Timestamp.sub?_of_add? hMoved
      have hPassed := Timestamp.since_of_add? hMoved
      rcases Timestamp.add?_eq_some_iff.mp hMoved with
        ⟨hInstant, hOffset⟩
      refine ⟨?_, ?_⟩
      · rintro v ⟨⟩
        refine ⟨e, rfl, hInstant, hOffset, ?_, ?_, ?_⟩
        · rw [e.date_eq_shownAt, hInstant, hOffset]
        · exact congrArg movedTo hBack
        · rw [hDifference, hPassed]
      · simp [movedTo]

/- From the first instant of the calendar to its last one. -/
theorem move_reversible_ends :
    IsOffered strict ∧
    ∃ (first e : Timestamp) (s earlier : TimeSpan),
      first.instant = firstSecond * nanosPerSecond ∧
      s.nanos = 631107417599999999999 ∧
      earlier.nanos = -1 ∧
      strict.applyBinary .add (.dateTime first) (.timeSpan s) =
        .ok (.dateTime e) ∧
      e.instant = lastSecond * nanosPerSecond + 999999999 ∧
      strict.applyBinary .sub (.dateTime e) (.timeSpan s) =
        .ok (.dateTime first) ∧
      strict.applyBinary .sub (.dateTime e) (.dateTime first) =
        .ok (.timeSpan s) ∧
      strict.applyBinary .add (.dateTime first)
          (.timeSpan earlier) =
        .error (Cause.calculation
          "timestamp is out of range").unplaced := by
  have hOffered : IsOffered strict := .inl rfl
  let first : Timestamp := {
    instant := firstSecond * nanosPerSecond
    offset := 0
    offset_above := by decide
    offset_below := by decide
    notBefore := by decide
    notAfter := by decide }
  let s : TimeSpan :=
    ⟨631107417599999999999, by decide, by decide⟩
  let earlier : TimeSpan := ⟨-1, by decide, by decide⟩
  have hInside :
      (Date.shownAt (first.instant + s.nanos)
        first.offset).year.natAbs ≤ 9999 := by decide
  have hOutside :
      ¬ (Date.shownAt (first.instant + earlier.nanos)
        first.offset).year.natAbs ≤ 9999 := by decide
  have hRefused :=
    ((move_reversible hOffered first earlier).2 _).mpr
      ⟨rfl, hOutside⟩
  rcases move_reversible hOffered first s with ⟨hMoves, hFails⟩
  cases hSum :
      strict.applyBinary .add (.dateTime first)
        (.timeSpan s) with
  | error f => exact absurd hInside ((hFails f).mp hSum).2
  | ok v =>
      rcases hMoves v hSum with
        ⟨e, rfl, hInstant, -, -, hBack, hPassed⟩
      exact ⟨hOffered, first, e, s, earlier, rfl, rfl, rfl,
        hSum, hInstant, hBack, hPassed, hRefused⟩

end Policy

end Formula
