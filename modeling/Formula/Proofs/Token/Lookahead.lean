import Formula.Proofs.Token.Expression

/-
  What is read in front of a blank.

  A rule may look at more characters than it takes.  When all
  that it takes is in front of some place, it takes the same if
  a blank is put there: a blank belongs to no word, number or
  symbol, it opens no comment, and it is no quote character.
  White space itself and a comment up to the end of its line
  may go on over a blank, but only when they reach it.

  Key definitions include:
    * `NumberRule.continued?`
    * `Piece.GoesOver`

  Main statements:
    * `SymbolTree.read_blank`
    * `NumberRule.readScientific_blank`
    * `readQuoted_blank`
    * `CommentRule.read_slash_blank`
    * `Tokenizer.expression_first_blank`
-/

namespace Formula

variable {front back : List Char}
variable {blank : Char}

------------------------------------------------------------
-- Runs
------------------------------------------------------------

/- A run that ends in front of a place ends at a stop there. -/
variable (front) in
theorem takeWhile_blank
    {p : Char → Bool}
    (hStop : p blank = false)
    (hLength :
      ((front ++ back).takeWhile p).length ≤ front.length) :
    (front ++ blank :: back).takeWhile p =
      (front ++ back).takeWhile p := by
  simp only [List.takeWhile_append] at hLength ⊢
  split at hLength
  · rename_i hAll
    rw [List.length_append] at hLength
    have hBehind : back.takeWhile p = [] :=
      List.eq_nil_of_length_eq_zero (by omega)
    rw [if_pos hAll, if_pos hAll, hBehind,
      List.takeWhile_cons_of_neg (by simp [hStop])]
  · rename_i hPart
    rw [if_neg hPart, if_neg hPart]

/- A run that ends before a place does not depend on it. -/
variable (front) in
theorem takeWhile_append_of_lt
    {p : Char → Bool}
    (hLength :
      ((front ++ back).takeWhile p).length < front.length)
    (more : List Char) :
    (front ++ more).takeWhile p =
      (front ++ back).takeWhile p := by
  simp only [List.takeWhile_append] at hLength ⊢
  split at hLength
  · rw [List.length_append] at hLength
    omega
  · rename_i hPart
    rw [if_neg hPart, if_neg hPart]

/- A run up to a place takes what goes on there. -/
variable (front) in
theorem takeWhile_between
    {p : Char → Bool}
    (hGoesOn : p blank = true)
    (hRun : (front ++ back).takeWhile p = front) :
    (front ++ blank :: back).takeWhile p =
      front ++ [blank] := by
  rw [List.takeWhile_append] at hRun ⊢
  split at hRun
  · rename_i hAll
    have hBehind : back.takeWhile p = [] :=
      List.append_cancel_left
        (hRun.trans (List.append_nil front).symm)
    rw [if_pos hAll, List.takeWhile_cons_of_pos hGoesOn, hBehind]
  · rename_i hPart
    rw [hRun] at hPart
    exact absurd rfl hPart

/- A blank is none of the characters above the space. -/
theorem ne_of_blank
    {c : Char}
    (hBlank : blank ≤ ' ')
    (hAbove : ¬ c ≤ ' ') :
    blank ≠ c := by
  intro hSame
  rw [hSame] at hBlank
  exact hAbove hBlank

/- A blank is no digit. -/
theorem isDigit_of_blank
    (hBlank : blank ≤ ' ') :
    isDigit blank = false := by
  have hZero : ¬ '0' ≤ blank := fun hDigit =>
    absurd (Char.le_trans hDigit hBlank) (by decide)
  unfold isDigit
  rw [decide_eq_false hZero, Bool.false_and]

theorem digitRun_blank
    (hBlank : blank ≤ ' ')
    (hLength :
      (digitRun (front ++ back)).length ≤ front.length) :
    digitRun (front ++ blank :: back) =
      digitRun (front ++ back) :=
  takeWhile_blank front (isDigit_of_blank hBlank) hLength

------------------------------------------------------------
-- Symbols
------------------------------------------------------------

/- A spelling in front of a place goes on before it only. -/
theorem prefix_blank_iff
    {spelling : List Char}
    (hBlank : blank ∉ spelling)
    (hLength :
      spelling <+: front ++ back →
        spelling.length ≤ front.length) :
    spelling <+: front ++ blank :: back ↔
      spelling <+: front ++ back := by
  constructor
  · intro hPrefix
    have hShort : spelling.length ≤ front.length := by
      refine Nat.le_of_not_lt fun hLong => ?_
      have hReached : front ++ [blank] <+: spelling := by
        apply List.prefix_of_prefix_length_le _ hPrefix
        · rw [List.length_append]
          exact hLong
        · exact ⟨back, by rw [List.append_assoc]; rfl⟩
      apply hBlank
      apply hReached.subset
      exact List.mem_append_right _ List.mem_cons_self
    exact (List.prefix_of_prefix_length_le hPrefix
      (List.prefix_append _ _) hShort).trans
        (List.prefix_append _ _)
  · intro hPrefix
    exact (List.prefix_of_prefix_length_le hPrefix
      (List.prefix_append _ _) (hLength hPrefix)).trans
        (List.prefix_append _ _)

/- A symbol does not go on over a character of no spelling. -/
theorem SymbolTree.read_blank
    {t : SymbolTree}
    {c : Char}
    (hBlank :
      ∀ spelling, (t.kindOf? spelling).isSome →
        blank ∉ spelling)
    (hLength :
      (t.read (c :: (front ++ back))).text.length ≤
        front.length + 1) :
    t.read (c :: (front ++ blank :: back)) =
      t.read (c :: (front ++ back)) := by
  apply read_congr
  intro spelling hSpelling
  apply prefix_blank_iff
  · intro hMem
    exact hBlank _ hSpelling (List.mem_cons_of_mem c hMem)
  · intro hPrefix
    have hLonger := length_le_length_read hPrefix hSpelling
    omega

------------------------------------------------------------
-- Numbers
------------------------------------------------------------

namespace exponentRun

/- Digits and what introduces them, or nothing without digits. -/
def introduced
    (intro rest : List Char) : List Char :=
  if (digitRun rest).isEmpty then [] else intro ++ digitRun rest

/- The first character of an exponent is its sign or a digit. -/
theorem complete_cons
    (mark c : Char)
    (rest : List Char) :
    complete mark (c :: rest) =
      if c = '+' ∨ c = '-' then introduced [mark, c] rest
      else introduced [mark] (c :: rest) := by
  by_cases hPlus : c = '+'
  · subst hPlus
    rfl
  by_cases hMinus : c = '-'
  · subst hMinus
    rfl
  have hSign : signLength (c :: rest) = 0 := by
    unfold signLength
    split
    · rename_i hSame
      exact absurd (List.cons.inj hSame).1 hPlus
    · rename_i hSame
      exact absurd (List.cons.inj hSame).1 hMinus
    · rfl
  rw [if_neg (not_or.mpr ⟨hPlus, hMinus⟩), complete]
  simp only [hSign]
  rfl

theorem introduced_eq_nil
    {intro rest : List Char}
    (hLength :
      (introduced intro rest).length ≤ intro.length) :
    introduced intro rest = [] := by
  unfold introduced at hLength ⊢
  split at hLength
  · rename_i hNone
    rw [if_pos hNone]
  · rename_i hSome
    rw [List.length_append] at hLength
    exact absurd (List.isEmpty_iff.mpr
      (List.eq_nil_of_length_eq_zero (by omega))) hSome

theorem introduced_blank
    {intro : List Char}
    (hBlank : blank ≤ ' ')
    (hLength :
      (introduced intro (front ++ back)).length ≤
        intro.length + front.length) :
    introduced intro (front ++ blank :: back) =
      introduced intro (front ++ back) := by
  have hRun :
      (digitRun (front ++ back)).length ≤ front.length := by
    unfold introduced at hLength
    split at hLength
    · rename_i hNone
      rw [List.isEmpty_iff.mp hNone]
      exact Nat.zero_le _
    · rw [List.length_append] at hLength
      exact Nat.le_of_add_le_add_left hLength
  rw [introduced, introduced, digitRun_blank hBlank hRun]

/- Nothing with a blank behind the mark is an exponent. -/
theorem complete_of_blank
    (hBlank : blank ≤ ' ')
    (mark : Char)
    (rest : List Char) :
    complete mark (blank :: rest) = [] := by
  have hSign : ¬ (blank = '+' ∨ blank = '-') :=
    not_or.mpr
      ⟨ne_of_blank hBlank (by decide),
        ne_of_blank hBlank (by decide)⟩
  have hDigits : digitRun (blank :: rest) = [] :=
    List.takeWhile_cons_of_neg (by simp [isDigit_of_blank hBlank])
  rw [complete_cons, if_neg hSign, introduced, hDigits]
  rfl

/- A blank does not complete an exponent. -/
theorem complete_blank
    {mark : Char}
    (hBlank : blank ≤ ' ')
    (hLength :
      (complete mark (front ++ back)).length ≤
        front.length + 1) :
    complete mark (front ++ blank :: back) =
      complete mark (front ++ back) := by
  cases front with
  | nil =>
      rw [List.nil_append, List.nil_append,
        complete_of_blank hBlank]
      rw [List.nil_append] at hLength
      cases back with
      | nil => rfl
      | cons c back =>
          rw [complete_cons] at hLength ⊢
          split at hLength
          · rename_i hSign
            rw [if_pos hSign]
            exact (introduced_eq_nil
              (Nat.le_succ_of_le hLength)).symm
          · rename_i hSign
            rw [if_neg hSign]
            exact (introduced_eq_nil hLength).symm
  | cons c front =>
      rw [List.cons_append, complete_cons] at hLength
      rw [List.cons_append, List.cons_append, complete_cons,
        complete_cons]
      split at hLength
      · rename_i hSign
        rw [if_pos hSign, if_pos hSign]
        apply introduced_blank hBlank
        exact Nat.le_trans hLength
          (by simp only [List.length_cons]; omega)
      · rename_i hSign
        rw [if_neg hSign, if_neg hSign, ← List.cons_append,
          ← List.cons_append]
        apply introduced_blank hBlank
        exact Nat.le_trans hLength
          (by simp only [List.length_cons]; omega)

end exponentRun

/- Nothing but a mark begins an exponent. -/
theorem exponentRun_of_ne
    {c : Char}
    (hMark : ¬ (c = 'e' ∨ c = 'E'))
    (rest : List Char) :
    exponentRun (c :: rest) = [] := by
  unfold exponentRun
  split
  · rename_i hSame
    exact absurd (.inl (List.cons.inj hSame).1) hMark
  · rename_i hSame
    exact absurd (.inr (List.cons.inj hSame).1) hMark
  · rfl

theorem exponentRun_blank
    (hBlank : blank ≤ ' ')
    (hLength :
      (exponentRun (front ++ back)).length ≤ front.length) :
    exponentRun (front ++ blank :: back) =
      exponentRun (front ++ back) := by
  cases front with
  | nil =>
      have hNoMark : ¬ (blank = 'e' ∨ blank = 'E') :=
        not_or.mpr
          ⟨ne_of_blank hBlank (by decide),
            ne_of_blank hBlank (by decide)⟩
      rw [List.nil_append, exponentRun_of_ne hNoMark]
      exact (List.eq_nil_of_length_eq_zero
        (Nat.le_zero.mp hLength)).symm
  | cons c front =>
      by_cases hMark : c = 'e' ∨ c = 'E'
      · rcases hMark with rfl | rfl
        · exact exponentRun.complete_blank hBlank hLength
        · exact exponentRun.complete_blank hBlank hLength
      · rw [List.cons_append, List.cons_append,
          exponentRun_of_ne hMark, exponentRun_of_ne hMark]

namespace NumberRule

/- A number with a given whole part and what is behind that. -/
def continued?
    (whole behind : List Char) : Option Piece :=
  match behind with
  | '.' :: rest =>
      if whole.isEmpty && (digitRun rest).isEmpty then none
      else some ⟨.float, whole ++ '.' :: digitRun rest⟩
  | _ => if whole.isEmpty then none else some ⟨.integer, whole⟩

theorem unsigned?_eq_continued?
    (text : List Char) :
    unsigned? text =
      continued? (digitRun text)
        (text.drop (digitRun text).length) := rfl

theorem continued?_point
    (whole rest : List Char) :
    continued? whole ('.' :: rest) =
      if whole.isEmpty && (digitRun rest).isEmpty then none
      else some ⟨.float, whole ++ '.' :: digitRun rest⟩ := rfl

theorem continued?_of_ne
    {whole rest : List Char}
    {c : Char}
    (hPoint : c ≠ '.') :
    continued? whole (c :: rest) = continued? whole [] := by
  unfold continued?
  split
  · rename_i hSame
    exact absurd (List.cons.inj hSame).1 hPoint
  · rfl

/- A number has its whole part, and nothing else has one. -/
theorem length_whole_le
    {whole behind : List Char}
    {n : Nat}
    (hLength :
      ∀ p, continued? whole behind = some p →
        p.text.length ≤ n) :
    whole.length ≤ n := by
  cases hRead : continued? whole behind with
  | none =>
      have hEmpty : whole = [] := by
        unfold continued? at hRead
        split at hRead
        · split at hRead
          · rename_i hNone
            rw [Bool.and_eq_true] at hNone
            exact List.isEmpty_iff.mp hNone.1
          · cases hRead
        · split at hRead
          · rename_i hNone
            exact List.isEmpty_iff.mp hNone
          · cases hRead
      rw [hEmpty]
      exact Nat.zero_le _
  | some p =>
      apply Nat.le_trans _ (hLength p hRead)
      unfold continued? at hRead
      split at hRead
      · split at hRead
        · cases hRead
        · cases hRead
          rw [List.length_append]
          exact Nat.le_add_right _ _
      · split at hRead
        · cases hRead
        · cases hRead
          exact Nat.le_refl _

/- A blank does not continue a number. -/
theorem continued?_blank
    {whole : List Char}
    (hBlank : blank ≤ ' ')
    (hStart : whole ≠ [] ∨ front ≠ [])
    (hLength :
      ∀ p, continued? whole (front ++ back) = some p →
        p.text.length ≤ whole.length + front.length) :
    continued? whole (front ++ blank :: back) =
      continued? whole (front ++ back) := by
  cases front with
  | nil =>
      have hNoPoint : blank ≠ '.' :=
        ne_of_blank hBlank (by decide)
      rw [List.nil_append, List.nil_append,
        continued?_of_ne hNoPoint]
      cases back with
      | nil => rfl
      | cons c back =>
          by_cases hPoint : c = '.'
          · -- The point would be read with the whole part.
            subst hPoint
            have hWhole : whole ≠ [] :=
              hStart.resolve_right (absurd rfl)
            have hRead :
                continued? whole ('.' :: back) =
                  some ⟨.float, whole ++ '.' :: digitRun back⟩ :=
              if_neg (by simp [hWhole])
            have hLong := hLength _ hRead
            simp only [List.length_append, List.length_cons,
              List.length_nil] at hLong
            omega
          · rw [continued?_of_ne hPoint]
  | cons c front =>
      rw [List.cons_append] at hLength
      rw [List.cons_append, List.cons_append]
      by_cases hPoint : c = '.'
      · subst hPoint
        have hFraction :
            (digitRun (front ++ back)).length ≤
              front.length := by
          rw [continued?_point] at hLength
          split at hLength
          · rename_i hNone
            rw [Bool.and_eq_true] at hNone
            rw [List.isEmpty_iff.mp hNone.2]
            exact Nat.zero_le _
          · have hLong := hLength _ rfl
            simp only [List.length_append, List.length_cons]
              at hLong
            omega
        rw [continued?_point, continued?_point,
          digitRun_blank hBlank hFraction]
      · rw [continued?_of_ne hPoint, continued?_of_ne hPoint]

/- A blank behind a number does not join it. -/
variable (front) in
theorem unsigned?_blank
    (hBlank : blank ≤ ' ')
    (hFront : front ≠ [])
    (hLength :
      ∀ p, unsigned? (front ++ back) = some p →
        p.text.length ≤ front.length) :
    unsigned? (front ++ blank :: back) =
      unsigned? (front ++ back) := by
  have hWhole :
      (digitRun (front ++ back)).length ≤ front.length :=
    length_whole_le hLength
  rw [unsigned?_eq_continued?] at hLength
  rw [unsigned?_eq_continued?, unsigned?_eq_continued?,
    digitRun_blank hBlank hWhole,
    List.drop_append_of_le_length hWhole,
    List.drop_append_of_le_length hWhole]
  rw [List.drop_append_of_le_length hWhole] at hLength
  apply continued?_blank hBlank
  · by_cases hEmpty : digitRun (front ++ back) = []
    · right
      rw [hEmpty]
      exact hFront
    · exact .inl hEmpty
  · intro p hRead
    rw [List.length_drop, Nat.add_sub_cancel' hWhole]
    exact hLength p hRead

/- What does not begin with a minus sign has none. -/
theorem signed?_of_ne
    {c : Char}
    (hMinus : c ≠ '-')
    (rest : List Char) :
    signed? (c :: rest) = unsigned? (c :: rest) := by
  unfold signed?
  split
  · rename_i hSame
    exact absurd (List.cons.inj hSame).1 hMinus
  · rfl

variable {symbols : SymbolTree}

/- What is read of a number without its exponent. -/
theorem readDecimal_blank
    {c : Char}
    (hSymbols :
      ∀ spelling, (symbols.kindOf? spelling).isSome →
        blank ∉ spelling)
    (hBlank : blank ≤ ' ')
    (hMinus : c ≠ '-')
    (hLength :
      (readDecimal symbols (c :: (front ++ back))).text.length ≤
        front.length + 1) :
    readDecimal symbols (c :: (front ++ blank :: back)) =
      readDecimal symbols (c :: (front ++ back)) := by
  unfold readDecimal at hLength ⊢
  rw [signed?_of_ne hMinus] at hLength
  have hNumber :
      unsigned? (c :: (front ++ blank :: back)) =
        unsigned? (c :: (front ++ back)) := by
    apply unsigned?_blank (c :: front) hBlank
      (List.cons_ne_nil c front)
    intro p hRead
    rw [List.cons_append] at hRead
    rw [hRead] at hLength
    exact hLength
  rw [signed?_of_ne hMinus, signed?_of_ne hMinus, hNumber]
  cases hRead : unsigned? (c :: (front ++ back)) with
  | some p => rfl
  | none =>
      rw [hRead] at hLength
      exact symbols.read_blank hSymbols hLength

/- A number with an exponent, if one is found behind it. -/
def extended
    (p : Piece)
    (exponent : List Char) : Piece :=
  match exponent with
  | [] => p
  | exponent => ⟨.float, p.text ++ exponent⟩

theorem text_extended
    (p : Piece)
    (exponent : List Char) :
    (extended p exponent).text = p.text ++ exponent := by
  cases exponent with
  | nil => exact (List.append_nil p.text).symm
  | cons c exponent => rfl

theorem readScientific_of_ne
    {c : Char}
    (hMinus : c ≠ '-')
    (rest : List Char) :
    readScientific symbols (c :: rest) =
      if (readDecimal symbols (c :: rest)).kind = .integer ∨
          (readDecimal symbols (c :: rest)).kind = .float then
        extended (readDecimal symbols (c :: rest))
          (exponentRun ((c :: rest).drop
            (readDecimal symbols (c :: rest)).text.length))
      else readDecimal symbols (c :: rest) := by
  unfold readScientific
  split
  · rename_i hSame
    exact absurd (List.cons.inj hSame).1 hMinus
  · rfl

/- A blank behind a number or a symbol does not join it. -/
theorem readScientific_blank
    {c : Char}
    (hSymbols :
      ∀ spelling, (symbols.kindOf? spelling).isSome →
        blank ∉ spelling)
    (hBlank : blank ≤ ' ')
    (hLength :
      (readScientific symbols
        (c :: (front ++ back))).text.length ≤
          front.length + 1) :
    readScientific symbols (c :: (front ++ blank :: back)) =
      readScientific symbols (c :: (front ++ back)) := by
  by_cases hMinus : c = '-'
  · subst hMinus
    exact symbols.read_blank hSymbols hLength
  rw [readScientific_of_ne hMinus] at hLength
  rw [readScientific_of_ne hMinus, readScientific_of_ne hMinus]
  by_cases hNumber :
      (readDecimal symbols (c :: (front ++ back))).kind =
          .integer ∨
        (readDecimal symbols (c :: (front ++ back))).kind = .float
  · rw [if_pos hNumber, text_extended, List.length_append]
      at hLength
    have hWhole :
        (readDecimal symbols (c :: (front ++ back))).text.length ≤
          (c :: front).length :=
      Nat.le_trans (Nat.le_add_right _ _) hLength
    have hDecimal :=
      readDecimal_blank hSymbols hBlank hMinus hWhole
    have hDrop (more : List Char) :
        (c :: (front ++ more)).drop
            (readDecimal symbols
              (c :: (front ++ back))).text.length =
          (c :: front).drop
            (readDecimal symbols
              (c :: (front ++ back))).text.length ++ more :=
      List.drop_append_of_le_length hWhole
    rw [hDrop] at hLength
    rw [hDecimal, if_pos hNumber, if_pos hNumber, hDrop, hDrop,
      exponentRun_blank hBlank]
    rw [List.length_drop, List.length_cons]
    omega
  · rw [if_neg hNumber] at hLength
    rw [readDecimal_blank hSymbols hBlank hMinus hLength,
      if_neg hNumber, if_neg hNumber]

end NumberRule

------------------------------------------------------------
-- Quoted Text
------------------------------------------------------------

theorem throughLoneQuote_ne_nil
    {q : Char}
    {text : List Char}
    (hText : text ≠ []) :
    throughLoneQuote q text ≠ [] := by
  fun_cases throughLoneQuote q text with
  | case1 => exact absurd rfl hText
  | case2 c => exact List.cons_ne_nil _ _
  | case3 rest => exact List.cons_ne_nil _ _
  | case4 d rest hOther => exact List.cons_ne_nil _ _
  | case5 c d rest hOther => exact List.cons_ne_nil _ _

/- A blank behind the closing quote character stays outside. -/
theorem throughLoneQuote_blank
    {q : Char}
    (hQuote : blank ≠ q)
    (hBack : back ≠ [])
    (hLength :
      (throughLoneQuote q (front ++ back)).length ≤
        front.length) :
    throughLoneQuote q (front ++ blank :: back) =
      throughLoneQuote q (front ++ back) := by
  have hMore := List.length_pos_iff.mpr
    (throughLoneQuote_ne_nil (q := q) hBack)
  fun_induction throughLoneQuote q front with
  | case1 =>
      exact absurd (Nat.lt_of_lt_of_le hMore hLength)
        (Nat.lt_irrefl 0)
  | case2 c =>
      rcases List.exists_cons_of_ne_nil hBack with ⟨d, back, rfl⟩
      simp only [List.cons_append, List.nil_append,
        throughLoneQuote] at hLength ⊢
      split at hLength
      · rename_i hClose
        split at hLength
        · simp only [List.length_cons, List.length_nil]
            at hLength
          omega
        · rename_i hLone
          rw [if_pos hClose, if_neg hQuote, if_pos hClose,
            if_neg hLone]
      · simp only [List.length_cons, List.length_nil]
          at hLength
        omega
  | case3 rest ih =>
      simp only [List.cons_append, throughLoneQuote, if_true,
        List.length_cons] at hLength ⊢
      rw [ih (by omega)]
  | case4 d rest hOther =>
      simp only [List.cons_append, throughLoneQuote, if_true,
        if_neg hOther]
  | case5 c d rest hOther ih =>
      simp only [List.cons_append, throughLoneQuote,
        if_neg hOther, List.length_cons] at hLength ih ⊢
      rw [ih (by omega)]

/- A blank behind a quotation does not join it. -/
theorem readQuoted_blank
    {q : Char}
    (hQuote : blank ≠ q)
    (hBack : back ≠ [])
    (hLength :
      (readQuoted .doubled (q :: (front ++ back))).text.length ≤
        front.length + 1) :
    readQuoted .doubled (q :: (front ++ blank :: back)) =
      readQuoted .doubled (q :: (front ++ back)) := by
  rw [readQuoted_text] at hLength
  have hText :
      QuoteRule.doubled.read (q :: (front ++ blank :: back)) =
        QuoteRule.doubled.read (q :: (front ++ back)) :=
    congrArg (List.cons q)
      (throughLoneQuote_blank hQuote hBack
        (Nat.le_of_succ_le_succ hLength))
  by_cases hWord : q = '\x22'
  · subst hWord
    exact congrArg (Piece.mk .word) hText
  · have hKind (rest : List Char) :
        readQuoted .doubled (q :: rest) =
          ⟨.quoted, QuoteRule.doubled.read (q :: rest)⟩ := by
      unfold readQuoted
      split
      · rename_i hSame
        exact absurd (List.cons.inj hSame).1 hWord
      · rfl
    rw [hKind, hKind, hText]

------------------------------------------------------------
-- Comments
------------------------------------------------------------

theorem throughBlockEnd_ne_nil
    {text : List Char}
    (hText : text ≠ []) :
    throughBlockEnd text ≠ [] := by
  fun_cases throughBlockEnd text with
  | case1 => exact absurd rfl hText
  | case2 rest => exact List.cons_ne_nil _ _
  | case3 c rest hOther => exact List.cons_ne_nil _ _

/- A character that begins no end mark is passed. -/
theorem throughBlockEnd_cons
    {c : Char}
    {rest : List Char}
    (hOpen : c = '*' → rest.head? ≠ some '/') :
    throughBlockEnd (c :: rest) = c :: throughBlockEnd rest := by
  rw [throughBlockEnd]
  rintro tail rfl rfl
  exact hOpen rfl rfl

/- A blank behind the end mark of a block stays outside. -/
theorem throughBlockEnd_blank
    (hBack : back ≠ [])
    (hLength :
      (throughBlockEnd (front ++ back)).length ≤
        front.length) :
    throughBlockEnd (front ++ blank :: back) =
      throughBlockEnd (front ++ back) := by
  have hMore := List.length_pos_iff.mpr
    (throughBlockEnd_ne_nil hBack)
  fun_induction throughBlockEnd front with
  | case1 =>
      exact absurd (Nat.lt_of_lt_of_le hMore hLength)
        (Nat.lt_irrefl 0)
  | case2 rest => rfl
  | case3 c rest hOther ih =>
      cases rest with
      | nil =>
          -- What is read goes on into the back.
          exfalso
          rw [List.cons_append, List.nil_append] at hLength
          by_cases hOpen : c = '*' → back.head? ≠ some '/'
          · rw [throughBlockEnd_cons hOpen, List.length_cons]
              at hLength
            exact absurd hMore (Nat.not_lt_of_le
              (Nat.le_of_succ_le_succ hLength))
          · rcases Classical.not_imp.mp hOpen with
              ⟨rfl, hSlash⟩
            rcases List.head?_eq_some_iff.mp
              (Classical.not_not.mp hSlash) with ⟨rest, rfl⟩
            rw [throughBlockEnd] at hLength
            exact absurd hLength (by simp)
      | cons d rest =>
          have hOpen (more : List Char) :
              throughBlockEnd (c :: d :: rest ++ more) =
                c :: throughBlockEnd (d :: rest ++ more) := by
            apply throughBlockEnd_cons
            intro hStar hSlash
            cases Option.some.inj hSlash
            exact hOther _ hStar rfl
          rw [hOpen, List.length_cons] at hLength
          rw [hOpen, hOpen, ih (Nat.le_of_succ_le_succ hLength)]

/- A slash that opens no comment is a symbol. -/
theorem CommentRule.read_slash_of_ne
    {symbols : SymbolTree}
    {rest : List Char}
    (hStar : rest.head? ≠ some '*')
    (hSlash : rest.head? ≠ some '/') :
    CommentRule.slash.read symbols ('/' :: rest) =
      symbols.read ('/' :: rest) := by
  unfold read
  split
  · contradiction
  · rename_i hSame _
    cases hSame
    exact absurd rfl hStar
  · rename_i hSame
    cases hSame
    exact absurd rfl hSlash
  · rfl

/- A comment that two slashes open has them. -/
theorem restOfLine_slashes
    (rest : List Char) :
    restOfLine ('/' :: '/' :: rest) =
      '/' :: '/' :: restOfLine rest := rfl

/-
  A piece goes on over a blank behind it: one that begins with
  a blank does so, and a comment up to the end of its line.
-/
def Piece.GoesOver
    (p : Piece)
    (blank : Char) : Prop :=
  (∃ c ∈ p.text.head?, c ≤ ' ') ∨
    (['/', '/'] <+: p.text ∧ takesColumn blank = true)

namespace CommentRule

variable {symbols : SymbolTree}

/- A blank behind a block does not join it. -/
theorem read_slash_blank_of_star
    (hStar : (front ++ back).head? = some '*')
    (hBack : back ≠ [])
    (hLength :
      (slash.read symbols ('/' :: (front ++ back))).text.length ≤
        front.length + 1) :
    slash.read symbols ('/' :: (front ++ blank :: back)) =
      slash.read symbols ('/' :: (front ++ back)) := by
  cases front with
  | nil =>
      rcases List.head?_eq_some_iff.mp hStar with ⟨rest, rfl⟩
      exact absurd hLength (by simp [read])
  | cons c front =>
      cases Option.some.inj hStar
      have hBlock :
          (throughBlockEnd (front ++ back)).length ≤
            front.length :=
        Nat.le_of_succ_le_succ (Nat.le_of_succ_le_succ hLength)
      exact congrArg
        (fun block => Piece.mk .comment ('/' :: '*' :: block))
        (throughBlockEnd_blank hBack hBlock)

/- A blank behind a line joins it only if it is on that line. -/
theorem read_slash_blank_of_slash
    (hSlash : (front ++ back).head? = some '/')
    (hLength :
      (slash.read symbols ('/' :: (front ++ back))).text.length ≤
        front.length + 1)
    (hEnds :
      (slash.read symbols ('/' :: (front ++ back))).text.length <
          front.length + 1 ∨
        ¬ (slash.read symbols ('/' :: (front ++ back))).GoesOver
          blank) :
    slash.read symbols ('/' :: (front ++ blank :: back)) =
      slash.read symbols ('/' :: (front ++ back)) := by
  cases front with
  | nil =>
      rcases List.head?_eq_some_iff.mp hSlash with ⟨rest, rfl⟩
      exact absurd hLength (by simp [read, restOfLine_slashes])
  | cons c front =>
      cases Option.some.inj hSlash
      have hLine (more : List Char) :
          slash.read symbols ('/' :: ('/' :: front ++ more)) =
            ⟨.comment, restOfLine ('/' :: '/' :: front ++ more)⟩
          := rfl
      rw [hLine] at hLength hEnds
      rw [hLine, hLine]
      apply congrArg (Piece.mk .comment)
      rcases hEnds with hEarly | hStays
      · exact takeWhile_append_of_lt _ hEarly _
      · apply takeWhile_blank _ _ hLength
        rw [← Bool.not_eq_true]
        intro hColumn
        apply hStays
        refine .inr ⟨?_, hColumn⟩
        exact ⟨restOfLine (front ++ back), rfl⟩

/- A blank behind a comment, or a slash, does not join it. -/
theorem read_slash_blank
    (hSymbols :
      ∀ spelling, (symbols.kindOf? spelling).isSome →
        blank ∉ spelling)
    (hBlank : blank ≤ ' ')
    (hBack : back ≠ [])
    (hLength :
      (slash.read symbols ('/' :: (front ++ back))).text.length ≤
        front.length + 1)
    (hEnds :
      (slash.read symbols ('/' :: (front ++ back))).text.length <
          front.length + 1 ∨
        ¬ (slash.read symbols ('/' :: (front ++ back))).GoesOver
          blank) :
    slash.read symbols ('/' :: (front ++ blank :: back)) =
      slash.read symbols ('/' :: (front ++ back)) := by
  by_cases hStar : (front ++ back).head? = some '*'
  · exact read_slash_blank_of_star hStar hBack hLength
  by_cases hSlash : (front ++ back).head? = some '/'
  · exact read_slash_blank_of_slash hSlash hLength hEnds
  have hOther (mark : Char)
      (hAbove : ¬ mark ≤ ' ')
      (hNone : (front ++ back).head? ≠ some mark) :
      (front ++ blank :: back).head? ≠ some mark := by
    cases front with
    | nil =>
        intro hHead
        exact ne_of_blank hBlank hAbove (Option.some.inj hHead)
    | cons c front => exact hNone
  rw [read_slash_of_ne hStar hSlash] at hLength
  rw [read_slash_of_ne hStar hSlash,
    read_slash_of_ne (hOther '*' (by decide) hStar)
      (hOther '/' (by decide) hSlash)]
  exact symbols.read_blank hSymbols hLength

end CommentRule

------------------------------------------------------------
-- First Pieces
------------------------------------------------------------

/- A blank is part of no word. -/
theorem has_expressionWordChars_of_blank
    (hBlank : blank ≤ ' ') :
    expressionWordChars.has blank = false := by
  rw [← Bool.not_eq_true]
  intro hWord
  rcases (CharSet.has_ofRanges _ blank).mp hWord with
    ⟨r, hMem, hFirst, _⟩
  have hLow := Char.le_trans hFirst hBlank
  simp only [List.mem_cons, List.not_mem_nil, or_false] at hMem
  rcases hMem with rfl | rfl | rfl | rfl | rfl | rfl
  all_goals exact absurd hLow (by decide)

/- A blank is part of no symbol of formulas. -/
theorem not_mem_spelling_of_blank
    (hBlank : blank ≤ ' ')
    {spelling : List Char}
    (hSpelling :
      (Tokenizer.expression.rules.symbols.kindOf?
        spelling).isSome) :
    blank ∉ spelling := by
  rw [Tokenizer.expression_symbols] at hSpelling
  rcases SymbolTree.exists_entry_of_kindOf? hSpelling with
    ⟨e, hMem, hPrefix⟩
  intro hIn
  have hMarks :
      (Tokenizer.expressionEntries.all fun e =>
        e.1.all fun c => !decide (c ≤ ' ')) = true := by
    decide
  have hMark := List.all_eq_true.mp
    (List.all_eq_true.mp hMarks e hMem) blank
    (hPrefix.subset hIn)
  simp [hBlank] at hMark

namespace Tokenizer

/-
  The first piece of a formula, when it ends in front of a
  place, is the same with a blank at that place, unless it is
  right in front of the blank and goes on over it.
-/
theorem expression_first_blank
    {c : Char}
    (hBlank : blank ≤ ' ')
    (hBack : back ≠ [])
    (hLength :
      (expression.first c (front ++ back)).text.length ≤
        front.length + 1)
    (hEnds :
      (expression.first c (front ++ back)).text.length <
          front.length + 1 ∨
        ¬ (expression.first c (front ++ back)).GoesOver blank) :
    expression.first c (front ++ blank :: back) =
      expression.first c (front ++ back) := by
  rcases exists_expression_role? c with ⟨role, hRole⟩
  have hCase := expression_role?_cases hRole
  have hSymbols :
      ∀ spelling,
        (expression.rules.symbols.kindOf? spelling).isSome →
          blank ∉ spelling :=
    fun _ => not_mem_spelling_of_blank hBlank
  rcases expression.exists_first_text_eq c (front ++ back) with
    ⟨more, hText⟩
  rw [expression_first_eq_read hRole] at hLength hEnds hText
  rw [expression_first_eq_read hRole,
    expression_first_eq_read hRole]
  cases role with
  | whitespace =>
      rcases hEnds with hEarly | hStays
      · exact congrArg (Piece.mk .whitespace)
          (takeWhile_append_of_lt (c :: front) hEarly _)
      · refine absurd (.inl ⟨c, ?_, hCase⟩) hStays
        rw [hText]
        rfl
  | word =>
      have hText (rest : List Char) :
          (expression.rules.read .word rest).text =
            runOf expressionWordChars rest := by
        dsimp only [Rules.read, WordRule.read, expression]
        split
        · rfl
        · rfl
      rw [hText] at hLength
      have hWord := takeWhile_blank (c :: front)
        (has_expressionWordChars_of_blank hBlank) hLength
      have hRun :
          runOf expressionWordChars
              (c :: (front ++ blank :: back)) =
            runOf expressionWordChars (c :: (front ++ back)) :=
        hWord
      dsimp only [Rules.read, WordRule.read, expression]
      rw [hRun]
  | number =>
      exact NumberRule.readScientific_blank hSymbols hBlank
        hLength
  | quote =>
      have hQuote : blank ≠ c := by
        rcases hCase with rfl | rfl
        · exact ne_of_blank hBlank (by decide)
        · exact ne_of_blank hBlank (by decide)
      exact readQuoted_blank hQuote hBack hLength
  | comment =>
      cases hCase
      exact CommentRule.read_slash_blank hSymbols hBlank hBack
        hLength hEnds
  | symbol => exact SymbolTree.read_blank hSymbols hLength

end Tokenizer

end Formula
