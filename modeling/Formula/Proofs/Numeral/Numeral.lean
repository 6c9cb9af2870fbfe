import Formula.Numeral.Decimal

/-
  Numerals, the written forms of numbers.

    numeral  := mantissa exponent?
    mantissa := digits | digits . digit* | . digits
    exponent := (e | E) (+ | -)? digits
    digits   := digit digit*

  Every numeral can be read as a number, however long it is.

  Key definitions include:
    * `IsNumeral`
    * `IsLongestNumeral`

  Main statements:
    * `IsNumeral.isSome_read?`
    * `IsLongestNumeral.eq`
-/

namespace Formula

------------------------------------------------------------
-- Written Forms
------------------------------------------------------------

/- Nothing but digits, if anything. -/
def AreDigits
    (s : List Char) : Prop :=
  ∀ c ∈ s, isDigit c = true

/- Digits, and one at least. -/
structure IsDigits
    (s : List Char) : Prop where
  ne_nil : s ≠ []
  areDigits : AreDigits s

/- Digits, with or without a point among them. -/
inductive IsMantissa : List Char → Prop where
  | whole
      {whole : List Char}
      (hWhole : IsDigits whole) :
      IsMantissa whole
  | pointed
      {whole fraction : List Char}
      (hWhole : IsDigits whole)
      (hFraction : AreDigits fraction) :
      IsMantissa (whole ++ '.' :: fraction)
  | fraction
      {fraction : List Char}
      (hFraction : IsDigits fraction) :
      IsMantissa ('.' :: fraction)

/- A mark and digits, with or without a sign between them. -/
inductive IsExponent : List Char → Prop where
  | unsigned
      {mark : Char}
      {digits : List Char}
      (hMark : mark = 'e' ∨ mark = 'E')
      (hDigits : IsDigits digits) :
      IsExponent (mark :: digits)
  | signed
      {mark sign : Char}
      {digits : List Char}
      (hMark : mark = 'e' ∨ mark = 'E')
      (hSign : sign = '+' ∨ sign = '-')
      (hDigits : IsDigits digits) :
      IsExponent (mark :: sign :: digits)

/- A mantissa, with or without an exponent. -/
inductive IsNumeral : List Char → Prop where
  | plain
      {mantissa : List Char}
      (hMantissa : IsMantissa mantissa) :
      IsNumeral mantissa
  | scaled
      {mantissa exponent : List Char}
      (hMantissa : IsMantissa mantissa)
      (hExponent : IsExponent exponent) :
      IsNumeral (mantissa ++ exponent)

/- Some numeral is what a text begins with. -/
def BeginsNumeral
    (text : List Char) : Prop :=
  ∃ s, IsNumeral s ∧ s <+: text

/- A digit is a numeral. -/
theorem beginsNumeral_of_isDigit
    {c : Char}
    (hDigit : isDigit c = true)
    (rest : List Char) :
    BeginsNumeral (c :: rest) := by
  have hDigits : IsDigits [c] := by
    refine ⟨List.cons_ne_nil c [], ?_⟩
    intro d hMem
    rw [List.mem_singleton.mp hMem]
    exact hDigit
  exact ⟨[c], .plain (.whole hDigits), List.prefix_append _ _⟩

/- The longest numeral that a text begins with. -/
def IsLongestNumeral
    (text value : List Char) : Prop :=
  IsNumeral value ∧ value <+: text ∧
    ∀ s, IsNumeral s → s <+: text → s.length ≤ value.length

/- Only one numeral in front of a text is the longest. -/
theorem IsLongestNumeral.eq
    {text value value' : List Char}
    (hFirst : IsLongestNumeral text value)
    (hSecond : IsLongestNumeral text value') :
    value = value' := by
  have hLength := hSecond.2.2 value hFirst.1 hFirst.2.1
  have hLength' := hFirst.2.2 value' hSecond.1 hSecond.2.1
  have hPrefix := List.prefix_of_prefix_length_le
    hFirst.2.1 hSecond.2.1 hLength
  exact hPrefix.eq_of_length
    (Nat.le_antisymm hLength hLength')

------------------------------------------------------------
-- Characters of Numerals
------------------------------------------------------------

theorem ne_of_isDigit
    {c d : Char}
    (hDigit : isDigit c = true)
    (hOther : isDigit d = false) :
    c ≠ d := by
  rintro rfl
  rw [hDigit] at hOther
  cases hOther

/- A run of digits goes on over digits. -/
theorem takeWhile_digits
    {digits : List Char}
    (hDigits : AreDigits digits)
    (rest : List Char) :
    (digits ++ rest).takeWhile isDigit =
      digits ++ rest.takeWhile isDigit :=
  List.takeWhile_append_of_pos hDigits

theorem dropWhile_digits
    {digits : List Char}
    (hDigits : AreDigits digits)
    (rest : List Char) :
    (digits ++ rest).dropWhile isDigit =
      rest.dropWhile isDigit :=
  List.dropWhile_append_of_pos hDigits

/- A numeral begins with a digit or a point. -/
theorem IsMantissa.exists_head
    {s : List Char}
    (hMantissa : IsMantissa s) :
    ∃ c rest, s = c :: rest ∧ (isDigit c = true ∨ c = '.') := by
  have hFirst {digits : List Char} (hDigits : IsDigits digits) :
      ∃ c rest, digits = c :: rest ∧ isDigit c = true := by
    rcases List.exists_cons_of_ne_nil hDigits.ne_nil with
      ⟨c, rest, rfl⟩
    exact ⟨c, rest, rfl, hDigits.areDigits c List.mem_cons_self⟩
  cases hMantissa with
  | whole hWhole =>
      rcases hFirst hWhole with ⟨c, rest, hText, hDigit⟩
      exact ⟨c, rest, hText, .inl hDigit⟩
  | pointed hWhole hFraction =>
      rcases hFirst hWhole with ⟨c, rest, rfl, hDigit⟩
      exact ⟨c, _, rfl, .inl hDigit⟩
  | fraction hFraction =>
      exact ⟨'.', _, rfl, .inr rfl⟩

/- The mark of an exponent is no digit and no point. -/
theorem IsExponent.exists_head
    {s : List Char}
    (hExponent : IsExponent s) :
    ∃ mark rest, s = mark :: rest ∧
      (mark = 'e' ∨ mark = 'E') := by
  cases hExponent with
  | unsigned hMark hDigits => exact ⟨_, _, rfl, hMark⟩
  | signed hMark hSign hDigits => exact ⟨_, _, rfl, hMark⟩

theorem isDigit_of_mark
    {mark : Char}
    (hMark : mark = 'e' ∨ mark = 'E') :
    isDigit mark = false := by
  rcases hMark with rfl | rfl
  · rfl
  · rfl

------------------------------------------------------------
-- Reading
------------------------------------------------------------

theorem splitSign_of_ne
    {c : Char}
    (hPlus : c ≠ '+')
    (hMinus : c ≠ '-')
    (rest : List Char) :
    splitSign (c :: rest) = (false, c :: rest) := by
  unfold splitSign
  split
  · rename_i hSame
    exact absurd (List.cons.inj hSame).1 hPlus
  · rename_i hSame
    exact absurd (List.cons.inj hSame).1 hMinus
  · rfl

/- Digits are read as their value. -/
theorem IsDigits.readInt?_eq
    {digits : List Char}
    (hDigits : IsDigits digits) :
    readInt? digits = some (digitsValue digits : Int) := by
  rcases List.exists_cons_of_ne_nil hDigits.ne_nil with
    ⟨c, rest, rfl⟩
  have hDigit := hDigits.areDigits c List.mem_cons_self
  have hPlus : c ≠ '+' := ne_of_isDigit hDigit rfl
  have hMinus : c ≠ '-' := ne_of_isDigit hDigit rfl
  have hAll : (c :: rest).all isDigit = true :=
    List.all_eq_true.mpr hDigits.areDigits
  unfold readInt?
  rw [splitSign_of_ne hPlus hMinus]
  dsimp only
  rw [hAll]
  rfl

/- An exponent can be read. -/
theorem IsExponent.isSome_readExponent?
    {s : List Char}
    (hExponent : IsExponent s) :
    (Decimal.readExponent? s).isSome := by
  have hMarked {mark : Char} (hMark : mark = 'e' ∨ mark = 'E') :
      (mark = 'e' || mark = 'E') = true := by
    simpa using hMark
  cases hExponent with
  | unsigned hMark hDigits =>
      rw [Decimal.readExponent?, if_pos (hMarked hMark),
        hDigits.readInt?_eq]
      rfl
  | signed hMark hSign hDigits =>
      have hAll := List.all_eq_true.mpr hDigits.areDigits
      have hSome := hDigits.ne_nil
      rw [Decimal.readExponent?, if_pos (hMarked hMark)]
      rcases hSign with rfl | rfl
      · simp [readInt?, splitSign, hAll, hSome]
      · simp [readInt?, splitSign, hAll, hSome]

/- A mantissa with a point has a digit on one side of it. -/
theorem isMantissa_iff
    {s : List Char} :
    IsMantissa s ↔
      IsDigits s ∨
        ∃ whole fraction,
          AreDigits whole ∧ AreDigits fraction ∧
          (whole ≠ [] ∨ fraction ≠ []) ∧
          s = whole ++ '.' :: fraction := by
  constructor
  · intro hMantissa
    cases hMantissa with
    | whole hWhole => exact .inl hWhole
    | pointed hWhole hFraction =>
        exact .inr ⟨_, _, hWhole.areDigits, hFraction,
          .inl hWhole.ne_nil, rfl⟩
    | fraction hFraction =>
        have hNone : AreDigits [] := List.forall_mem_nil _
        exact .inr ⟨[], _, hNone, hFraction.areDigits,
          .inr hFraction.ne_nil, rfl⟩
  · rintro (hDigits | ⟨whole, fraction, hWhole, hFraction,
      hSome, rfl⟩)
    · exact .whole hDigits
    · by_cases hEmpty : whole = []
      · subst hEmpty
        exact .fraction
          ⟨hSome.resolve_left (absurd rfl), hFraction⟩
      · exact .pointed ⟨hEmpty, hWhole⟩ hFraction

/- What cannot go on with digits or a point stops them. -/
def StopsDigits
    (rest : List Char) : Prop :=
  ∀ c ∈ rest.head?, isDigit c = false ∧ c ≠ '.'

theorem StopsDigits.takeWhile
    {rest : List Char}
    (hStops : StopsDigits rest) :
    rest.takeWhile isDigit = [] := by
  cases rest with
  | nil => rfl
  | cons c rest =>
      exact List.takeWhile_cons_of_neg
        (by simp [(hStops c rfl).1])

theorem StopsDigits.dropWhile
    {rest : List Char}
    (hStops : StopsDigits rest) :
    rest.dropWhile isDigit = rest := by
  cases rest with
  | nil => rfl
  | cons c rest =>
      exact List.dropWhile_cons_of_neg
        (by simp [(hStops c rfl).1])

/- Digits that are stopped are a whole number. -/
theorem readDigits?_whole
    {whole rest : List Char}
    (hWhole : IsDigits whole)
    (hStops : StopsDigits rest)
    (negative : Bool) :
    Decimal.readDigits? negative (whole ++ rest) =
      (Decimal.readExponent? rest).map
        (.finite negative (digitsValue whole)) := by
  have hSome : whole.isEmpty = false :=
    List.isEmpty_eq_false_iff.mpr hWhole.ne_nil
  unfold Decimal.readDigits?
  rw [takeWhile_digits hWhole.areDigits,
    dropWhile_digits hWhole.areDigits, hStops.takeWhile,
    hStops.dropWhile, List.append_nil]
  cases rest with
  | nil => simp [hSome]
  | cons c rest =>
      have hPoint : c ≠ '.' := (hStops c rfl).2
      simp [hSome, hPoint]

/- Digits and a point are a number if the point has a digit. -/
theorem readDigits?_pointed
    {whole fraction rest : List Char}
    (hWhole : AreDigits whole)
    (hFraction : AreDigits fraction)
    (hSome : whole ≠ [] ∨ fraction ≠ [])
    (hStops : StopsDigits rest)
    (negative : Bool) :
    Decimal.readDigits? negative
        (whole ++ '.' :: (fraction ++ rest)) =
      (Decimal.readExponent? rest).map fun e =>
        .finite negative (digitsValue (whole ++ fraction))
          (e - fraction.length) := by
  have hDigit : isDigit '.' = false := rfl
  have hSides : ¬ (whole = [] ∧ fraction = []) := by
    rintro ⟨hLeft, hRight⟩
    rcases hSome with hWhole | hFraction
    · exact hWhole hLeft
    · exact hFraction hRight
  unfold Decimal.readDigits?
  rw [takeWhile_digits hWhole, dropWhile_digits hWhole,
    List.takeWhile_cons_of_neg (by simp [hDigit]),
    List.dropWhile_cons_of_neg (by simp [hDigit]),
    List.append_nil]
  simp [takeWhile_digits hFraction,
    dropWhile_digits hFraction, hStops.takeWhile,
    hStops.dropWhile, hSides]

/- The mark of an exponent stops digits. -/
theorem IsExponent.stopsDigits
    {s : List Char}
    (hExponent : IsExponent s)
    (rest : List Char) :
    StopsDigits (s ++ rest) := by
  rcases hExponent.exists_head with ⟨mark, more, rfl, hMark⟩
  rintro c ⟨⟩
  refine ⟨isDigit_of_mark hMark, ?_⟩
  rintro rfl
  rcases hMark with hMark | hMark
  · cases hMark
  · cases hMark

/- A mantissa and what ends it are a number. -/
theorem IsMantissa.isSome_readDigits?
    {mantissa rest : List Char}
    (hMantissa : IsMantissa mantissa)
    (hStops : StopsDigits rest)
    (hRest : (Decimal.readExponent? rest).isSome)
    (negative : Bool) :
    (Decimal.readDigits? negative
      (mantissa ++ rest)).isSome := by
  rcases isMantissa_iff.mp hMantissa with
    hWhole | ⟨whole, fraction, hWhole, hFraction, hSome, rfl⟩
  · rw [readDigits?_whole hWhole hStops, Option.isSome_map]
    exact hRest
  · rw [List.append_assoc, List.cons_append,
      readDigits?_pointed hWhole hFraction hSome hStops,
      Option.isSome_map]
    exact hRest

/- Every numeral is read as a number. -/
theorem IsNumeral.isSome_read?
    {s : List Char}
    (hNumeral : IsNumeral s) :
    (Decimal.read? s).isSome := by
  have hSign {mantissa : List Char}
      (hMantissa : IsMantissa mantissa)
      (rest : List Char) :
      splitSign (mantissa ++ rest) =
        (false, mantissa ++ rest) := by
    rcases hMantissa.exists_head with ⟨c, more, rfl, hHead⟩
    apply splitSign_of_ne
    · rintro rfl
      rcases hHead with hDigit | hPoint
      · cases hDigit
      · cases hPoint
    · rintro rfl
      rcases hHead with hDigit | hPoint
      · cases hDigit
      · cases hPoint
  have hRead {mantissa rest : List Char}
      (hMantissa : IsMantissa mantissa)
      (hStops : StopsDigits rest)
      (hRest : (Decimal.readExponent? rest).isSome) :
      (Decimal.read? (mantissa ++ rest)).isSome := by
    unfold Decimal.read?
    rw [hSign hMantissa]
    dsimp only
    rw [Option.isSome_or,
      hMantissa.isSome_readDigits? hStops hRest false]
    rfl
  cases hNumeral with
  | plain hMantissa =>
      have hNone : StopsDigits [] := by
        rintro c ⟨⟩
      rw [← List.append_nil s]
      exact hRead hMantissa hNone rfl
  | scaled hMantissa hExponent =>
      have hStops := hExponent.stopsDigits []
      rw [List.append_nil] at hStops
      exact hRead hMantissa hStops
        hExponent.isSome_readExponent?

end Formula
