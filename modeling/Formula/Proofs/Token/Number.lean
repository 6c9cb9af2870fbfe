import Formula.Proofs.Numeral.Numeral
import Formula.Proofs.Token.NumberWalk

/-
  Numbers are as long as they can be.

  What is read from a digit or a point is the longest numeral
  that the text begins with, whatever follows it: a point and
  an exponent are taken if they are complete, and left to the
  next token if they are not.  If there is no numeral, the
  point is a symbol.  In the end the cursor stands behind what
  was read, however much was looked at.

  Key definitions include:
    * `numeralKind`

  Main statements:
    * `NumberRule.readScientific_longest`
    * `Tokenizer.expression_next_number`
-/

namespace Formula

/- Numerals of digits only are of another kind than others. -/
def numeralKind
    (s : List Char) : TokenKind :=
  if s.all isDigit then .integer else .float

------------------------------------------------------------
-- Runs of Digits
------------------------------------------------------------

theorem areDigits_digitRun
    (text : List Char) :
    AreDigits (digitRun text) :=
  List.all_eq_true.mp List.all_takeWhile

theorem digitRun_append
    {digits : List Char}
    (hDigits : AreDigits digits)
    (rest : List Char) :
    digitRun (digits ++ rest) = digits ++ digitRun rest :=
  takeWhile_digits hDigits rest

theorem numeralKind_of_areDigits
    {s : List Char}
    (hDigits : AreDigits s) :
    numeralKind s = .integer :=
  if_pos (List.all_eq_true.mpr hDigits)

/- One other character makes the difference. -/
theorem numeralKind_of_mem
    {s : List Char}
    {c : Char}
    (hMem : c ∈ s)
    (hOther : isDigit c = false) :
    numeralKind s = .float := by
  apply if_neg
  intro hAll
  rw [List.all_eq_true.mp hAll c hMem] at hOther
  cases hOther

------------------------------------------------------------
-- Mantissas
------------------------------------------------------------

namespace NumberRule

/- Digits are all read, and perhaps a point behind them. -/
theorem exists_continued?
    {whole : List Char}
    (hWhole : whole ≠ [])
    (behind : List Char) :
    ∃ p, continued? whole behind = some p ∧
      whole.length ≤ p.text.length := by
  have hSome : whole.isEmpty = false :=
    List.isEmpty_eq_false_iff.mpr hWhole
  unfold continued?
  split
  · rw [hSome]
    refine ⟨_, rfl, ?_⟩
    rw [List.length_append]
    exact Nat.le_add_right _ _
  · rw [hSome]
    exact ⟨_, rfl, Nat.le_refl _⟩

/- Digits that are stopped are read by themselves. -/
theorem unsigned?_whole
    {whole rest : List Char}
    (hWhole : IsDigits whole)
    (hStops : StopsDigits rest) :
    unsigned? (whole ++ rest) = some ⟨.integer, whole⟩ := by
  have hSome : whole.isEmpty = false :=
    List.isEmpty_eq_false_iff.mpr hWhole.ne_nil
  have hRun : digitRun rest = [] := hStops.takeWhile
  rw [unsigned?_eq_continued?,
    digitRun_append hWhole.areDigits, hRun, List.append_nil,
    List.drop_left]
  have hEnd : continued? whole [] = some ⟨.integer, whole⟩ := by
    unfold continued?
    rw [hSome]
    rfl
  cases rest with
  | nil => exact hEnd
  | cons c rest => rw [continued?_of_ne (hStops c rfl).2, hEnd]

/- A point is read with the digits around it. -/
theorem unsigned?_pointed
    {whole fraction : List Char}
    (hWhole : AreDigits whole)
    (hFraction : AreDigits fraction)
    (hSome : whole ≠ [] ∨ fraction ≠ [])
    (rest : List Char) :
    unsigned? (whole ++ '.' :: (fraction ++ rest)) =
      some ⟨.float,
        whole ++ '.' :: (fraction ++ digitRun rest)⟩ := by
  have hPoint :
      digitRun ('.' :: (fraction ++ rest)) = [] :=
    List.takeWhile_cons_of_neg (by decide)
  have hSides :
      ¬ (whole.isEmpty &&
        (fraction ++ digitRun rest).isEmpty) = true := by
    intro hNone
    rw [Bool.and_eq_true, List.isEmpty_iff, List.isEmpty_iff]
      at hNone
    rcases hSome with hLeft | hRight
    · exact hLeft hNone.1
    · exact hRight (List.append_eq_nil_iff.mp hNone.2).1
  rw [unsigned?_eq_continued?, digitRun_append hWhole, hPoint,
    List.append_nil, List.drop_left, continued?_point,
    digitRun_append hFraction, if_neg hSides]

/- A mantissa in front of a text is read, if not a longer one. -/
theorem exists_unsigned?
    {mantissa : List Char}
    (hMantissa : IsMantissa mantissa)
    (rest : List Char) :
    ∃ p, unsigned? (mantissa ++ rest) = some p ∧
      mantissa.length ≤ p.text.length := by
  rcases isMantissa_iff.mp hMantissa with
    hWhole | ⟨whole, fraction, hWhole, hFraction, hSome, rfl⟩
  · have hRun :=
      digitRun_append hWhole.areDigits rest
    have hMore : mantissa ++ digitRun rest ≠ [] :=
      List.append_ne_nil_of_left_ne_nil hWhole.ne_nil _
    rw [unsigned?_eq_continued?, hRun]
    rcases exists_continued? hMore
      ((mantissa ++ rest).drop
        (mantissa ++ digitRun rest).length) with
      ⟨p, hRead, hLength⟩
    rw [List.length_append] at hLength
    exact ⟨p, hRead,
      Nat.le_trans (Nat.le_add_right _ _) hLength⟩
  · rw [List.append_assoc, List.cons_append,
      unsigned?_pointed hWhole hFraction hSome]
    refine ⟨_, rfl, ?_⟩
    simp only [List.length_append, List.length_cons]
    omega

/- A mantissa that is stopped is read by itself. -/
theorem unsigned?_of_stops
    {mantissa rest : List Char}
    (hMantissa : IsMantissa mantissa)
    (hStops : StopsDigits rest) :
    ∃ kind, unsigned? (mantissa ++ rest) =
      some ⟨kind, mantissa⟩ := by
  rcases isMantissa_iff.mp hMantissa with
    hWhole | ⟨whole, fraction, hWhole, hFraction, hSome, rfl⟩
  · exact ⟨_, unsigned?_whole hWhole hStops⟩
  · have hRun : digitRun rest = [] := hStops.takeWhile
    rw [List.append_assoc, List.cons_append,
      unsigned?_pointed hWhole hFraction hSome, hRun,
      List.append_nil]
    exact ⟨_, rfl⟩

/- What is read without an exponent is a mantissa. -/
theorem isMantissa_of_unsigned?
    {text : List Char}
    {p : Piece}
    (hRead : unsigned? text = some p) :
    IsMantissa p.text ∧ p.kind = numeralKind p.text := by
  have hWhole := areDigits_digitRun text
  rw [unsigned?_eq_continued?] at hRead
  unfold continued? at hRead
  split at hRead
  · rename_i rest hPoint
    split at hRead
    · cases hRead
    · rename_i hDigits
      cases hRead
      refine ⟨isMantissa_iff.mpr (.inr
        ⟨_, _, hWhole, areDigits_digitRun rest, ?_, rfl⟩), ?_⟩
      · rw [Bool.and_eq_true, List.isEmpty_iff,
          List.isEmpty_iff] at hDigits
        exact not_and_or.mp hDigits
      · have hMem :
            '.' ∈ digitRun text ++ '.' :: digitRun rest :=
          List.mem_append_right _ List.mem_cons_self
        exact (numeralKind_of_mem hMem rfl).symm
  · split at hRead
    · cases hRead
    · rename_i hDigits
      cases hRead
      refine ⟨.whole ⟨?_, hWhole⟩,
        (numeralKind_of_areDigits hWhole).symm⟩
      rw [List.isEmpty_iff] at hDigits
      exact hDigits

end NumberRule

------------------------------------------------------------
-- Exponents
------------------------------------------------------------

namespace exponentRun

/- What is introduced is an exponent, if it has digits. -/
theorem introduced_of_digits
    {digits : List Char}
    (hDigits : IsDigits digits)
    (intro rest : List Char) :
    introduced intro (digits ++ rest) =
      intro ++ (digits ++ digitRun rest) := by
  have hSome : digits ++ digitRun rest ≠ [] :=
    List.append_ne_nil_of_left_ne_nil hDigits.ne_nil _
  unfold introduced
  rw [digitRun_append hDigits.areDigits, if_neg]
  rw [List.isEmpty_iff]
  exact hSome

theorem isDigits_of_introduced
    {intro rest : List Char}
    (hSome : introduced intro rest ≠ []) :
    IsDigits (digitRun rest) ∧
      introduced intro rest = intro ++ digitRun rest := by
  unfold introduced at hSome ⊢
  split at hSome
  · exact absurd rfl hSome
  · rename_i hDigits
    rw [if_neg hDigits]
    rw [List.isEmpty_iff] at hDigits
    exact ⟨⟨hDigits, areDigits_digitRun rest⟩, rfl⟩

/- What is completed is an exponent. -/
theorem isExponent_of_complete
    {mark : Char}
    {rest : List Char}
    (hMark : mark = 'e' ∨ mark = 'E')
    (hSome : complete mark rest ≠ []) :
    IsExponent (complete mark rest) := by
  cases rest with
  | nil => exact absurd rfl hSome
  | cons c rest =>
      rw [complete_cons] at hSome ⊢
      split at hSome
      · rename_i hSign
        rcases isDigits_of_introduced hSome with
          ⟨hDigits, hText⟩
        rw [if_pos hSign, hText]
        exact .signed hMark hSign hDigits
      · rename_i hSign
        rcases isDigits_of_introduced hSome with
          ⟨hDigits, hText⟩
        rw [if_neg hSign, hText]
        exact .unsigned hMark hDigits

end exponentRun

/- What is read as an exponent is one. -/
theorem isExponent_of_exponentRun
    {text : List Char}
    (hSome : exponentRun text ≠ []) :
    IsExponent (exponentRun text) := by
  cases text with
  | nil => exact absurd rfl hSome
  | cons c rest =>
      by_cases hMark : c = 'e' ∨ c = 'E'
      · rw [exponentRun_of_mark hMark] at hSome ⊢
        exact exponentRun.isExponent_of_complete hMark hSome
      · exact absurd (exponentRun_of_ne hMark rest) hSome

/- An exponent in front of a text is read, if not a longer one. -/
theorem length_le_length_exponentRun
    {exponent : List Char}
    (hExponent : IsExponent exponent)
    (rest : List Char) :
    exponent.length ≤
      (exponentRun (exponent ++ rest)).length := by
  cases hExponent with
  | unsigned hMark hDigits =>
      rename_i mark digits
      rcases List.exists_cons_of_ne_nil hDigits.ne_nil with
        ⟨c, more, rfl⟩
      have hDigit := hDigits.areDigits c List.mem_cons_self
      have hSign : ¬ (c = '+' ∨ c = '-') :=
        not_or.mpr
          ⟨ne_of_isDigit hDigit rfl, ne_of_isDigit hDigit rfl⟩
      have hRead :=
        exponentRun.introduced_of_digits hDigits [mark] rest
      rw [List.cons_append] at hRead
      rw [List.cons_append, List.cons_append,
        exponentRun_of_mark hMark, exponentRun.complete_cons,
        if_neg hSign, hRead]
      simp only [List.length_append, List.length_cons]
      omega
  | signed hMark hSign hDigits =>
      rw [List.cons_append, List.cons_append,
        exponentRun_of_mark hMark, exponentRun.complete_cons,
        if_pos hSign, exponentRun.introduced_of_digits hDigits]
      simp only [List.length_append, List.length_cons]
      omega

------------------------------------------------------------
-- Longest Numerals
------------------------------------------------------------

/- A numeral begins with a mantissa. -/
theorem IsNumeral.exists_mantissa
    {s : List Char}
    (hNumeral : IsNumeral s) :
    ∃ mantissa, IsMantissa mantissa ∧ mantissa <+: s := by
  cases hNumeral with
  | plain hMantissa =>
      exact ⟨s, hMantissa, List.prefix_rfl⟩
  | scaled hMantissa hExponent =>
      exact ⟨_, hMantissa, List.prefix_append _ _⟩

namespace NumberRule

/- What is read with its exponent is a numeral. -/
theorem isNumeral_extended
    {text : List Char}
    {p : Piece}
    (hRead : unsigned? text = some p)
    (behind : List Char) :
    IsNumeral (extended p (exponentRun behind)).text ∧
      (extended p (exponentRun behind)).kind =
        numeralKind (extended p (exponentRun behind)).text := by
  rcases isMantissa_of_unsigned? hRead with
    ⟨hMantissa, hKind⟩
  cases hRun : exponentRun behind with
  | nil => exact ⟨.plain hMantissa, hKind⟩
  | cons mark rest =>
      have hExponent : IsExponent (exponentRun behind) := by
        apply isExponent_of_exponentRun
        rw [hRun]
        exact List.cons_ne_nil mark rest
      rw [hRun] at hExponent
      refine ⟨.scaled hMantissa hExponent, ?_⟩
      rcases hExponent.exists_head with ⟨_, _, hHead, hMark⟩
      cases hHead
      have hMem : mark ∈ p.text ++ mark :: rest :=
        List.mem_append_right _ List.mem_cons_self
      exact (numeralKind_of_mem hMem
        (isDigit_of_mark hMark)).symm

/- No numeral in front of a text is longer than what is read. -/
theorem length_le_length_extended
    {text s : List Char}
    {p : Piece}
    (hRead : unsigned? text = some p)
    (hNumeral : IsNumeral s)
    (hPrefix : s <+: text) :
    s.length ≤
      (extended p (exponentRun
        (text.drop p.text.length))).text.length := by
  rcases hPrefix with ⟨rest, rfl⟩
  rw [text_extended, List.length_append]
  cases hNumeral with
  | plain hMantissa =>
      rcases exists_unsigned? hMantissa rest with
        ⟨q, hOther, hLength⟩
      cases hRead.symm.trans hOther
      exact Nat.le_trans hLength (Nat.le_add_right _ _)
  | scaled hMantissa hExponent =>
      -- The mark of the exponent ends the mantissa.
      rw [List.append_assoc] at hRead ⊢
      rcases unsigned?_of_stops hMantissa
        (hExponent.stopsDigits rest) with ⟨kind, hOther⟩
      cases hRead.symm.trans hOther
      rw [List.drop_left, List.length_append]
      exact Nat.add_le_add_left
        (length_le_length_exponentRun hExponent rest) _

variable (symbols : SymbolTree)
variable {c : Char}
variable {rest : List Char}

/- A number without a minus sign is read with its exponent. -/
theorem readScientific_of_unsigned?
    {p : Piece}
    (hMinus : c ≠ '-')
    (hRead : unsigned? (c :: rest) = some p) :
    readScientific symbols (c :: rest) =
      extended p
        (exponentRun ((c :: rest).drop p.text.length)) := by
  have hDecimal : readDecimal symbols (c :: rest) = p := by
    unfold readDecimal
    rw [signed?_of_ne hMinus, hRead]
    rfl
  have hKind : p.kind = .integer ∨ p.kind = .float := by
    rw [(isMantissa_of_unsigned? hRead).2]
    unfold numeralKind
    split
    · exact .inl rfl
    · exact .inr rfl
  rw [readScientific_of_ne hMinus, hDecimal, if_pos hKind]

/-
  What is read is the longest numeral that the text begins
  with, if it begins with one.
-/
theorem readScientific_longest
    (hMinus : c ≠ '-')
    (hSome : BeginsNumeral (c :: rest)) :
    ∃ value, IsLongestNumeral (c :: rest) value ∧
      readScientific symbols (c :: rest) =
        ⟨numeralKind value, value⟩ := by
  rcases hSome with ⟨s, hNumeral, hFront⟩
  rcases hNumeral.exists_mantissa with
    ⟨mantissa, hMantissa, hPart⟩
  rcases hPart.trans hFront with ⟨behind, hText⟩
  rcases exists_unsigned? hMantissa behind with ⟨p, hRead, _⟩
  rw [hText] at hRead
  have hScientific :=
    readScientific_of_unsigned? symbols hMinus hRead
  have hPrefix := readScientific_isPrefix symbols (c :: rest)
  rw [hScientific] at hPrefix ⊢
  rcases isNumeral_extended hRead
    ((c :: rest).drop p.text.length) with ⟨hWhole, hKind⟩
  refine ⟨_, ⟨hWhole, hPrefix, ?_⟩, ?_⟩
  · intro s hNumeral hFront
    exact length_le_length_extended hRead hNumeral hFront
  · rw [← hKind]

/- Without a numeral in front of the text a symbol is read. -/
theorem readScientific_of_no_numeral
    (hMinus : c ≠ '-')
    (hNone : ¬ BeginsNumeral (c :: rest))
    (hSymbol : (symbols.read (c :: rest)).kind = .symbol) :
    readScientific symbols (c :: rest) =
      symbols.read (c :: rest) := by
  have hUnread : unsigned? (c :: rest) = none := by
    cases hRead : unsigned? (c :: rest) with
    | none => rfl
    | some p =>
        exact absurd ⟨p.text,
          .plain (isMantissa_of_unsigned? hRead).1,
          unsigned?_isPrefix hRead⟩ hNone
  have hDecimal :
      readDecimal symbols (c :: rest) =
        symbols.read (c :: rest) := by
    unfold readDecimal
    rw [signed?_of_ne hMinus, hUnread]
    rfl
  rw [readScientific_of_ne hMinus, hDecimal, hSymbol, if_neg]
  rintro (hKind | hKind)
  · cases hKind
  · cases hKind

end NumberRule

------------------------------------------------------------
-- Numbers of Formulas
------------------------------------------------------------

namespace Tokenizer

/- The ranges of the roles before and after the digits. -/
def rolesBeforeDigits : List (Char × Char × Role) :=
  [ ('\x00', lastChar, .symbol), ('\x00', ' ', .whitespace),
    ('a', 'z', .word), ('A', 'Z', .word),
    ('\u00C0', '\u00FF', .word), ('_', '_', .word) ]

def rolesAfterDigits : List (Char × Char × Role) :=
  [ ('-', '-', .number), ('.', '.', .number),
    ('\x22', '\x22', .quote), ('\'', '\'', .quote),
    ('/', '/', .comment) ]

theorem expression_roles :
    expression.roles =
      CharMap.empty.addAll
        (rolesBeforeDigits ++
          ('0', '9', .number) :: rolesAfterDigits) :=
  rfl

/- Wherever a cursor stands, a number is read from there. -/
theorem expression_number_next_past
    (text : List Char)
    (n : Nat) :
    let symbols := expression.rules.symbols
    expression.rules.number.next symbols (.past text n) =
      (Cursor.past text n).take
        (NumberRule.readScientific symbols (text.drop n)) := by
  have hFirsts := SymbolTree.marksFirsts_ofEntries
    expressionEntries
  have hSettled := Cursor.isSettled_past text n
  rw [← Cursor.after_past text n]
  exact NumberRule.next_eq_take .scientific hFirsts hSettled

/- A digit or a point begins a number. -/
theorem expression_role?_number
    {c : Char}
    (hStart : isDigit c = true ∨ c = '.') :
    expression.role? c = some .number := by
  rcases hStart with hDigit | rfl
  · have hRange : '0' ≤ c ∧ c ≤ '9' := by
      simpa [isDigit] using hDigit
    have hSingle :
        ∀ r ∈ rolesAfterDigits,
          r.1 = r.2.1 ∧ isDigit r.1 = false := by
      decide
    rw [role?, expression_roles]
    apply CharMap.lookup_addAll_last _ _ _ hRange
    rintro r hMem ⟨hFirst, hLast⟩
    rcases hSingle r hMem with ⟨hEqual, hOther⟩
    rw [← hEqual] at hLast
    exact ne_of_isDigit hDigit hOther
      (Char.le_antisymm hLast hFirst)
  · decide +kernel

/- No spelling of more than one character begins with a point. -/
theorem expression_read_point
    (rest : List Char) :
    expression.rules.symbols.read ('.' :: rest) =
      ⟨.symbol, ['.']⟩ :=
  rfl

/- What begins no numeral is a point, and read as a symbol. -/
theorem expression_readScientific_of_no_numeral
    {c : Char}
    {rest : List Char}
    (hStart : isDigit c = true ∨ c = '.')
    (hNone : ¬ BeginsNumeral (c :: rest)) :
    let symbols := expression.rules.symbols
    NumberRule.readScientific symbols (c :: rest) =
        symbols.read (c :: rest) ∧
      symbols.read (c :: rest) = ⟨.symbol, ['.']⟩ := by
  intro symbols
  rcases hStart with hDigit | rfl
  · exact absurd (beginsNumeral_of_isDigit hDigit rest) hNone
  · have hPoint := expression_read_point rest
    have hSymbol :
        (symbols.read ('.' :: rest)).kind = .symbol := by
      rw [hPoint]
    exact ⟨NumberRule.readScientific_of_no_numeral symbols
      (by decide) hNone hSymbol, hPoint⟩

/-
  Wherever the tokenizer of formulas meets a digit or a point,
  it reads the longest numeral that the text goes on with.  If
  there is none, it reads the symbol, which is the point.  Its
  place is that of its first character, and the cursor stands
  behind its last one.
-/
theorem expression_next_number
    {text : List Char}
    {n : Nat}
    {c : Char}
    (hNext : text[n]? = some c)
    (hStart : isDigit c = true ∨ c = '.') :
    let k := Cursor.past text n
    let symbols := expression.rules.symbols
    let read := expression.rules.number.next symbols k
    (TokenStream.mk expression k false).next =
        (some read.1, ⟨expression, read.2, false⟩) ∧
      (BeginsNumeral (text.drop n) →
        ∃ value, IsLongestNumeral (text.drop n) value ∧
          read =
            (⟨numeralKind value, String.ofList value,
                Cursor.placeAt text n⟩,
              .past text (n + value.length))) ∧
      (¬ BeginsNumeral (text.drop n) →
        read = symbols.next k ∧
          read =
            (⟨.symbol, ".", Cursor.placeAt text n⟩,
              .past text (n + 1))) := by
  intro k symbols read
  rcases List.getElem?_eq_some_iff.mp hNext with ⟨hMore, rfl⟩
  have hDrop : text.drop n = text[n] :: text.drop (n + 1) :=
    List.drop_eq_getElem_cons hMore
  have hMinus : text[n] ≠ '-' := by
    intro hMinus
    rw [hMinus] at hStart
    revert hStart
    decide
  have hAfter : k.after = text[n] :: text.drop (n + 1) :=
    (Cursor.after_past text n).trans hDrop
  have hRead :
      read =
        k.take (NumberRule.readScientific symbols
          (text[n] :: text.drop (n + 1))) := by
    rw [← hDrop]
    exact expression_number_next_past text n
  refine ⟨?_, ?_, ?_⟩
  · rw [TokenStream.next_of_more isEofFree_expression hAfter,
      expression_first_eq_read (expression_role?_number hStart),
      refine?_of_plain rfl, hRead]
    rfl
  · rw [hDrop]
    intro hSome
    rcases NumberRule.readScientific_longest symbols
      hMinus hSome with
      ⟨value, hLongest, hValue⟩
    refine ⟨value, hLongest, ?_⟩
    rw [hRead, hValue]
    exact Cursor.take_past text n _
  · rw [hDrop]
    intro hNone
    rcases expression_readScientific_of_no_numeral hStart hNone
      with ⟨hValue, hSymbol⟩
    have hTake : symbols.next k = k.take (symbols.read k.after) :=
      SymbolTree.next_eq_take
        (SymbolTree.marksFirsts_ofEntries expressionEntries)
        (Cursor.isSettled_past text n)
    rw [hTake, hAfter, hRead, hValue, hSymbol]
    exact ⟨rfl, Cursor.take_past text n _⟩

/-
  A second point ends a number, and a mark without digits is
  no exponent.
-/
theorem expression_next_number_incomplete :
    let text := ['1', '.', '.', '5', 'e', '-', 'x']
    let rules := expression.rules
    text[2]? = some '.' ∧
      rules.number.next rules.symbols (.past text 2) =
        (⟨.float, ".5", ⟨1, 3⟩⟩, .past text 4) ∧
      IsLongestNumeral (text.drop 2) ['.', '5'] := by
  intro text rules
  have hPoint : text[2]? = some '.' := rfl
  have hDigits : IsDigits ['5'] :=
    ⟨List.cons_ne_nil _ _, by simp [AreDigits, isDigit]⟩
  have hSome : BeginsNumeral (text.drop 2) :=
    ⟨['.', '5'], .plain (.fraction hDigits), _, rfl⟩
  rcases (expression_next_number hPoint (.inr rfl)).2.1 hSome with
    ⟨value, hLongest, hRead⟩
  have hToken :
      (rules.number.next rules.symbols (.past text 2)).1 =
        ⟨.float, ".5", ⟨1, 3⟩⟩ := by
    decide +kernel
  have hValue : value = ['.', '5'] := by
    rw [hRead] at hToken
    exact String.ofList_injective (congrArg Token.value hToken)
  refine ⟨hPoint, Prod.ext hToken ?_, ?_⟩
  · rw [hRead, hValue]
    rfl
  · rw [← hValue]
    exact hLongest

end Tokenizer

end Formula
