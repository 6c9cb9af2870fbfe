import Formula.Proofs.Token.Lookahead
import Formula.Proofs.Token.Symbol
import Formula.Token.NumberWalk

/-
  A cursor that reads a number.

  Every part of a number that is read goes on where the one
  before ended, so that what was read in all is in front of
  the text and can be given back.  Hence a cursor reads what
  its text begins with, and stands behind that.

  Key definitions include:
    * `firstIf`
    * `NumberParts.ofText`

  Main statements:
    * `Cursor.readDigits_eq`
    * `Cursor.unreadMany_skip`
    * `NumberRule.next_eq_take`
-/

namespace Formula

------------------------------------------------------------
-- Parts of a Number
------------------------------------------------------------

/- The first character of a text, if it passes a test. -/
def firstIf
    (test : Char → Bool)
    (text : List Char) : List Char :=
  (text.take 1).takeWhile test

theorem firstIf_nil
    (test : Char → Bool) :
    firstIf test [] = [] := rfl

theorem firstIf_of_pos
    {test : Char → Bool}
    {c : Char}
    (hTest : test c = true)
    (rest : List Char) :
    firstIf test (c :: rest) = [c] := by
  unfold firstIf
  rw [List.take_succ_cons, List.takeWhile_cons_of_pos hTest]
  rfl

theorem firstIf_of_neg
    {test : Char → Bool}
    {c : Char}
    (hTest : test c = false)
    (rest : List Char) :
    firstIf test (c :: rest) = [] := by
  unfold firstIf
  rw [List.take_succ_cons,
    List.takeWhile_cons_of_neg (by simp [hTest])]

theorem firstIf_isPrefix
    (test : Char → Bool)
    (text : List Char) :
    firstIf test text <+: text :=
  (List.takeWhile_prefix test).trans (List.take_prefix 1 text)

namespace Cursor

variable {k : Cursor}

/- A character is read if it passes the test. -/
theorem readIf_eq
    (k : Cursor)
    (test : Char → Bool) :
    k.readIf test =
      (firstIf test k.after,
        k.skip (firstIf test k.after).length) := by
  unfold readIf
  rw [peek]
  cases hAfter : k.after with
  | nil => rfl
  | cons c rest =>
      dsimp only [List.head?_cons]
      cases hTest : test c with
      | true =>
          rw [firstIf_of_pos hTest]
          rfl
      | false =>
          rw [firstIf_of_neg hTest]
          rfl

/- All digits are read that come. -/
theorem readDigits_eq
    (k : Cursor) :
    k.readDigits =
      (digitRun k.after, k.skip (digitRun k.after).length) := by
  fun_induction readDigits k with
  | case1 k hAfter =>
      rw [hAfter]
      rfl
  | case2 k c rest hAfter hDigit digits behind hRead ih =>
      rw [hRead, after_read, hAfter, List.tail_cons] at ih
      rcases Prod.mk.inj ih with ⟨hDigits, hBehind⟩
      have hRun : digitRun (c :: rest) = c :: digitRun rest :=
        List.takeWhile_cons_of_pos hDigit
      rw [hAfter, hRun, hDigits, hBehind]
      rfl
  | case3 k c rest hAfter hOther =>
      have hRun : digitRun (c :: rest) = [] :=
        List.takeWhile_cons_of_neg hOther
      rw [hAfter, hRun]
      rfl

/- What was read goes back. -/
theorem unreadMany_skip
    {m : Nat}
    (hSettled : k.IsSettled)
    (hInside : m ≤ k.after.length) :
    (k.skip m).unreadMany m = k := by
  have hOffset : k.offset + m ≤ k.text.length := by
    unfold offset text
    rw [List.length_append, List.length_reverse]
    exact Nat.add_le_add_left hInside _
  have hPast : k.skip m = past k.text (k.offset + m) := by
    have hSkip := congrArg (Cursor.skip · m) hSettled
    unfold past at hSkip
    rw [skip_skip] at hSkip
    exact hSkip
  rw [hPast, unreadMany_past hOffset, Nat.add_sub_cancel]
  exact hSettled.symm

end Cursor

------------------------------------------------------------
-- Numbers Without Exponent
------------------------------------------------------------

namespace NumberParts

/- A whole part with what is read behind it. -/
def continued
    (whole behind : List Char) : NumberParts :=
  let point := firstIf (· = '.') behind
  if point.isEmpty then ⟨whole, point, []⟩
  else ⟨whole, point, digitRun (behind.drop point.length)⟩

/- The parts that a text begins with. -/
def ofText
    (text : List Char) : NumberParts :=
  continued (digitRun text)
    (text.drop (digitRun text).length)

theorem text_isPrefix
    (text : List Char) :
    (ofText text).text <+: text := by
  unfold NumberParts.text ofText continued
  dsimp only
  split
  · rw [List.append_nil]
    exact append_prefix_of_drop (digitRun_isPrefix text)
      (firstIf_isPrefix _ _)
  · rw [List.append_assoc]
    apply append_prefix_of_drop (digitRun_isPrefix text)
    exact append_prefix_of_drop (firstIf_isPrefix _ _)
      (digitRun_isPrefix _)

end NumberParts

/- A cursor reads the parts that its text begins with. -/
theorem Cursor.readParts_eq
    (k : Cursor) :
    k.readParts =
      (NumberParts.ofText k.after,
        k.skip (NumberParts.ofText k.after).text.length) := by
  unfold readParts NumberParts.ofText NumberParts.continued
    NumberParts.text
  simp only [readDigits_eq, readIf_eq, after_skip, skip_skip]
  split
  · simp only [List.length_append, List.append_nil]
  · simp only [List.length_append, List.drop_drop]

namespace NumberRule

/- A number is its parts, if one of them has a digit. -/
theorem continued?_eq_parts
    (whole behind : List Char) :
    let p := NumberParts.continued whole behind
    continued? whole behind =
      if p.lacksDigits then none
      else some ⟨p.kind, p.text⟩ := by
  unfold NumberParts.continued
  cases behind with
  | nil =>
      rw [firstIf_nil]
      simp [continued?, NumberParts.lacksDigits,
        NumberParts.kind, NumberParts.text]
  | cons c rest =>
      by_cases hPoint : c = '.'
      · subst hPoint
        rw [firstIf_of_pos rfl, continued?_point]
        simp [NumberParts.lacksDigits, NumberParts.kind,
          NumberParts.text]
      · rw [firstIf_of_neg (by simp [hPoint]),
          continued?_of_ne hPoint]
        simp [continued?, NumberParts.lacksDigits,
          NumberParts.kind, NumberParts.text]

/- A minus sign is read in front of the other parts. -/
theorem signed?_eq_parts
    (text : List Char) :
    let minus := firstIf (· = '-') text
    let p := NumberParts.ofText (text.drop minus.length)
    signed? text =
      if p.lacksDigits then none
      else some ⟨p.kind, minus ++ p.text⟩ := by
  intro minus p
  have hUnsigned :
      unsigned? (text.drop minus.length) =
        if p.lacksDigits then none
        else some ⟨p.kind, p.text⟩ :=
    continued?_eq_parts _ _
  cases text with
  | nil => rfl
  | cons c rest =>
      by_cases hMinus : c = '-'
      · subst hMinus
        have hRest : unsigned? rest = _ := hUnsigned
        rw [signed?, hRest]
        split
        · rfl
        · rfl
      · have hNone : minus = [] :=
          firstIf_of_neg (by simp [hMinus]) rest
        rw [hNone] at hUnsigned ⊢
        rw [signed?_of_ne hMinus]
        exact hUnsigned

variable {symbols : SymbolTree}
variable {k : Cursor}

/-
  A cursor reads a number without exponent as its text has it.
  When digits lack, it has gone back to where it was.
-/
theorem nextDecimal_eq_take
    (hFirsts : symbols.MarksFirsts)
    (hSettled : k.IsSettled) :
    nextDecimal symbols k =
      k.take (readDecimal symbols k.after) := by
  have hNumber := signed?_eq_parts k.after
  unfold nextDecimal
  simp only [Cursor.readIf_eq, Cursor.readParts_eq,
    Cursor.after_skip, Cursor.skip_skip]
  dsimp only at hNumber
  generalize hMinus : firstIf (· = '-') k.after = minus at *
  have hPrefix :=
    NumberParts.text_isPrefix (k.after.drop minus.length)
  generalize NumberParts.ofText (k.after.drop minus.length) =
    p at *
  have hInside : (minus ++ p.text).length ≤ k.after.length := by
    apply List.IsPrefix.length_le
    apply append_prefix_of_drop _ hPrefix
    rw [← hMinus]
    exact firstIf_isPrefix _ _
  unfold readDecimal
  rw [hNumber, ← List.length_append]
  split
  · rw [Cursor.unreadMany_skip hSettled hInside]
    exact SymbolTree.next_eq_take hFirsts hSettled
  · rw [Cursor.peekLine_eq, Cursor.peekColumn_eq]
    rfl

end NumberRule

------------------------------------------------------------
-- Numbers With Exponent
------------------------------------------------------------

theorem exponentRun_of_mark
    {mark : Char}
    (hMark : mark = 'e' ∨ mark = 'E')
    (rest : List Char) :
    exponentRun (mark :: rest) =
      exponentRun.complete mark rest := by
  rcases hMark with rfl | rfl
  · rfl
  · rfl

/- The sign of an exponent, if it has one. -/
theorem exponentRun.take_signLength
    (text : List Char) :
    text.take (signLength text) = firstIf isSign text ∧
      signLength text = (firstIf isSign text).length := by
  unfold signLength
  split
  · exact ⟨rfl, rfl⟩
  · exact ⟨rfl, rfl⟩
  · rename_i hPlus hMinus
    have hNone : firstIf isSign text = [] := by
      cases text with
      | nil => rfl
      | cons c rest =>
          apply firstIf_of_neg
          have hSign : ¬ (c = '+' ∨ c = '-') := by
            rintro (rfl | rfl)
            · exact hPlus rest rfl
            · exact hMinus rest rfl
          simpa [isSign] using hSign
    rw [hNone]
    exact ⟨rfl, rfl⟩

/- An exponent is a mark, perhaps a sign, and digits. -/
theorem exponentRun_eq
    (text : List Char) :
    let mark := firstIf isExponentMark text
    let sign := firstIf isSign (text.drop mark.length)
    let digits :=
      digitRun ((text.drop mark.length).drop sign.length)
    exponentRun text =
      if mark.isEmpty || digits.isEmpty then []
      else mark ++ sign ++ digits := by
  intro mark sign digits
  cases text with
  | nil => rfl
  | cons c rest =>
      by_cases hMark : c = 'e' ∨ c = 'E'
      · have hFirst : mark = [c] :=
          firstIf_of_pos (by simpa [isExponentMark] using hMark)
            rest
        rcases exponentRun.take_signLength rest with
          ⟨hSign, hLength⟩
        have hSame : sign = firstIf isSign rest := by
          dsimp only [sign]
          rw [hFirst]
          rfl
        have hDigits :
            digits =
              digitRun
                (rest.drop (firstIf isSign rest).length) := by
          dsimp only [digits]
          rw [hSame, hFirst]
          rfl
        rw [exponentRun_of_mark hMark, exponentRun.complete,
          hSign, hLength, hSame, hDigits, hFirst]
        rfl
      · have hNone : mark = [] :=
          firstIf_of_neg
            (by simpa [isExponentMark] using hMark) rest
        rw [exponentRun_of_ne hMark, hNone]
        rfl

/-
  A cursor reads the exponent that its text begins with.  When
  digits lack, it has gone back to where it was.
-/
theorem Cursor.readExponent_eq
    {k : Cursor}
    (hSettled : k.IsSettled) :
    k.readExponent =
      (exponentRun k.after,
        k.skip (exponentRun k.after).length) := by
  have hRun := exponentRun_eq k.after
  unfold readExponent
  simp only [readIf_eq, readDigits_eq, after_skip, skip_skip]
  simp only [List.drop_drop] at hRun
  have hMark := firstIf_isPrefix isExponentMark k.after
  generalize firstIf isExponentMark k.after = mark at *
  have hSign := firstIf_isPrefix isSign (k.after.drop mark.length)
  generalize firstIf isSign (k.after.drop mark.length) = sign
    at *
  have hInside : (mark ++ sign).length ≤ k.after.length :=
    (append_prefix_of_drop hMark hSign).length_le
  generalize digitRun
    (k.after.drop (mark.length + sign.length)) = digits at *
  rw [hRun]
  cases hNoMark : mark.isEmpty with
  | true =>
      rw [List.isEmpty_iff.mp hNoMark]
      rfl
  | false =>
      cases hNoDigits : digits.isEmpty with
      | true =>
          rw [List.isEmpty_iff.mp hNoDigits]
          simp only [List.length_nil, Nat.add_zero,
            ← List.length_append, unreadMany_skip hSettled hInside]
          rfl
      | false =>
          simp only [← List.length_append]
          rfl

namespace NumberRule

variable {symbols : SymbolTree}
variable {k : Cursor}

theorem readScientific_eq
    (symbols : SymbolTree)
    (text : List Char) :
    let p := readDecimal symbols text
    readScientific symbols text =
      if text.head? = some '-' then symbols.read text
      else if p.kind = .integer ∨ p.kind = .float then
        extended p (exponentRun (text.drop p.text.length))
      else p := by
  intro p
  cases text with
  | nil => rfl
  | cons c rest =>
      by_cases hMinus : c = '-'
      · subst hMinus
        rfl
      · have hHead : (c :: rest).head? ≠ some '-' := by
          simpa using hMinus
        rw [if_neg hHead]
        exact readScientific_of_ne hMinus rest

/-
  A cursor reads a number with its exponent as its text has
  it.
-/
theorem nextScientific_eq_take
    (hFirsts : symbols.MarksFirsts)
    (hSettled : k.IsSettled) :
    nextScientific symbols k =
      k.take (readScientific symbols k.after) := by
  unfold nextScientific
  rw [nextDecimal_eq_take hFirsts hSettled,
    readScientific_eq, Cursor.take, Cursor.peek]
  dsimp only
  rw [Cursor.readExponent_eq (hSettled.skip _),
    Cursor.after_skip, Cursor.skip_skip]
  generalize readDecimal symbols k.after = p
  generalize exponentRun (k.after.drop p.text.length) = exponent
  split
  · exact SymbolTree.next_eq_take hFirsts hSettled
  · split
    · cases exponent with
      | nil => rfl
      | cons mark digits =>
          rw [Cursor.take, text_extended, List.length_append,
            String.ofList_append]
          rfl
    · rfl

/- A cursor reads what its text begins with. -/
theorem next_eq_take
    (r : NumberRule)
    (hFirsts : symbols.MarksFirsts)
    (hSettled : k.IsSettled) :
    r.next symbols k = k.take (r.read symbols k.after) := by
  cases r with
  | decimal => exact nextDecimal_eq_take hFirsts hSettled
  | scientific =>
      exact nextScientific_eq_take hFirsts hSettled

end NumberRule

end Formula
