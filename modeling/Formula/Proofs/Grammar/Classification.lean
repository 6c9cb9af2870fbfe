import Mathlib
import Formula.Proofs.Token.Number
import Formula.Proofs.Token.Order
import Formula.Proofs.Token.Quoting

/-
  The tokens of a formula have a meaning.

  Tokens are told apart by one set of tables and understood by
  another.  The two agree: a word that is told from names as a
  reserved one stands for something, whatever the case of its
  letters is, and a numeral can be read as a number, however
  long it is.  Only symbols may be without a meaning.

  Key definitions include:
    * `Mark.spellings`
    * `TokenKind.Fits`
    * `Token.IsStray`

  Main statements:
    * `isKeyword_iff`
    * `Tokenizer.fits_of_mem_parsing`
    * `Lexeme.exists_ofToken?`
-/

namespace Formula

------------------------------------------------------------
-- Reserved Words
------------------------------------------------------------

theorem Keyword.isSome_ofCapitals?_iff
    {word : String} :
    (ofCapitals? word).isSome ↔ word ∈ reservedWords := by
  have hListed :
      ∀ word ∈ reservedWords, (ofCapitals? word).isSome := by
    decide
  constructor
  · unfold ofCapitals?
    split
    all_goals simp [reservedWords]
  · exact hListed word

/- A word in capitals is compared through the capitals. -/
theorem isSameWord_iff
    {capitals word : String}
    (hCapitals :
      capitals.toList.map Char.toUpper = capitals.toList) :
    isSameWord capitals word = true ↔
      String.ofList (word.toList.map Char.toUpper) =
        capitals := by
  have hUpper (s : List Char) :
      (s.map Char.toLower).map Char.toUpper =
        s.map Char.toUpper := by
    simp [Char.toUpper_toLower_eq_toUpper]
  have hLower (s : List Char) :
      (s.map Char.toUpper).map Char.toLower =
        s.map Char.toLower := by
    simp [Char.toLower_toUpper_eq_toLower]
  rw [isSameWord, beq_iff_eq]
  constructor
  · intro hSame
    rw [← hUpper, ← hSame, hUpper, hCapitals,
      String.ofList_toList]
  · rintro rfl
    rw [String.toList_ofList, hLower]

/- The reserved words are those that stand for something. -/
theorem isKeyword_iff
    {word : String} :
    isKeyword word = true ↔
      (Keyword.ofWord? word).isSome := by
  have hCapitals :
      ∀ capitals ∈ reservedWords,
        capitals.toList.map Char.toUpper =
          capitals.toList := by
    decide
  rw [isKeyword, List.any_eq_true, Keyword.ofWord?,
    Keyword.isSome_ofCapitals?_iff]
  constructor
  · rintro ⟨capitals, hMem, hSame⟩
    rw [(isSameWord_iff (hCapitals capitals hMem)).mp hSame]
    exact hMem
  · intro hMem
    exact ⟨_, hMem,
      (isSameWord_iff (hCapitals _ hMem)).mpr rfl⟩

------------------------------------------------------------
-- Marks
------------------------------------------------------------

/- The spellings of operators and of punctuation. -/
def Mark.spellings : List String :=
  [ "(", ")", "[", "]", ",", "+", "-", "*", "/", "%", "^",
    "=", "<>", "!=", ">", "<", ">=", "<=", "<<", ">>" ]

theorem Mark.isSome_ofSymbol?_iff
    {s : String} :
    (ofSymbol? s).isSome ↔ s ∈ spellings := by
  have hListed :
      ∀ s ∈ spellings, (ofSymbol? s).isSome := by
    decide
  constructor
  · unfold ofSymbol?
    split
    all_goals simp [spellings]
  · exact hListed s

/- The operators that are read as one symbol are marks. -/
theorem expressionEntries_subset_spellings :
    ∀ e ∈ Tokenizer.expressionEntries,
      String.ofList e.1 ∈ Mark.spellings ∧ e.2 = .symbol := by
  decide

------------------------------------------------------------
-- Numerals
------------------------------------------------------------

/- A numeral stands for a number, however long it is. -/
theorem IsNumeral.isSome_numberOf?
    {s : List Char}
    (hNumeral : IsNumeral s) :
    (LexemeContent.numberOf? s).isSome := by
  unfold LexemeContent.numberOf?
  split
  · rfl
  · split
    · rfl
    · rw [Option.isSome_map, Double.read?, Option.isSome_map]
      exact hNumeral.isSome_read?

------------------------------------------------------------
-- Pieces of Formulas
------------------------------------------------------------

/- What a formula may hold as a token of a kind. -/
def TokenKind.Fits
    (kind : TokenKind)
    (text : List Char) : Prop :=
  match kind with
  | .keyword => isKeyword (String.ofList text) = true
  | .integer | .float => IsNumeral text
  | .number | .unknown | .eof => False
  | _ => True

namespace Tokenizer

/- What is read as a symbol is of that kind. -/
theorem kind_read_symbol
    (c : Char)
    (rest : List Char) :
    (expression.rules.symbols.read (c :: rest)).kind =
      .symbol := by
  rcases expression.rules.symbols.exists_of_read c rest with
    ⟨more, _, _, hSingle | hEntered⟩
  · rw [hSingle]
  · rw [expression_symbols] at hEntered
    rcases SymbolTree.kindOf?_ofEntries hEntered with
      hPlain | ⟨e, hEntry, hKind⟩
    · exact hPlain
    · rw [expression_symbols, ← hKind]
      exact (expressionEntries_subset_spellings e hEntry).2

theorem fits_read_symbol
    (c : Char)
    (rest : List Char) :
    let p := expression.rules.symbols.read (c :: rest)
    p.kind.Fits p.text := by
  dsimp only
  rw [kind_read_symbol]
  trivial

theorem fits_read_word
    (text : List Char) :
    let p := WordRule.keywords.read expressionWordChars text
    p.kind.Fits p.text := by
  dsimp only [WordRule.read]
  split
  · rename_i hKeyword
    exact hKeyword
  · trivial

theorem fits_read_number
    (c : Char)
    (rest : List Char) :
    let p := NumberRule.readScientific
      expression.rules.symbols (c :: rest)
    p.kind.Fits p.text := by
  dsimp only
  by_cases hMinus : c = '-'
  · subst hMinus
    exact fits_read_symbol '-' rest
  · by_cases hSome : BeginsNumeral (c :: rest)
    · rcases NumberRule.readScientific_longest
        expression.rules.symbols hMinus hSome with
        ⟨value, hLongest, hRead⟩
      rw [hRead]
      dsimp only [numeralKind]
      split
      · exact hLongest.1
      · exact hLongest.1
    · rw [NumberRule.readScientific_of_no_numeral _ hMinus hSome
        (kind_read_symbol c rest)]
      exact fits_read_symbol c rest

theorem fits_read_comment
    (c : Char)
    (rest : List Char) :
    let p := CommentRule.slash.read
      expression.rules.symbols (c :: rest)
    p.kind.Fits p.text := by
  dsimp only
  unfold CommentRule.read
  split
  · trivial
  · trivial
  · trivial
  · exact fits_read_symbol c rest

theorem fits_readQuoted
    (text : List Char) :
    let p := readQuoted .doubled text
    p.kind.Fits p.text := by
  dsimp only [readQuoted]
  split
  · trivial
  · trivial

/- The first piece of a formula fits its kind. -/
theorem fits_first
    (c : Char)
    (rest : List Char) :
    (expression.first c rest).kind.Fits
      (expression.first c rest).text := by
  rcases exists_expression_role? c with ⟨role, hRole⟩
  rw [expression_first_eq_read hRole]
  cases role with
  | whitespace => trivial
  | word => exact fits_read_word (c :: rest)
  | number => exact fits_read_number c rest
  | quote => exact fits_readQuoted (c :: rest)
  | comment => exact fits_read_comment c rest
  | symbol => exact fits_read_symbol c rest

------------------------------------------------------------
-- Tokens of Formulas
------------------------------------------------------------

/- Any text fits what is read from a quote on. -/
theorem fits_of_quote
    {c : Char}
    (hQuote : expression.role? c = some .quote)
    (rest text : List Char) :
    (expression.first c rest).kind.Fits text := by
  rw [expression_first_eq_read hQuote]
  change (readQuoted .doubled (c :: rest)).kind.Fits text
  unfold readQuoted
  split
  · trivial
  · trivial

/- For parsing the texts of quotations only are changed. -/
theorem parsing_kind_of_refine?
    {raw token : Token}
    (hKept : parsing.refine? raw = some token) :
    token.kind = raw.kind ∧
      Lexeme.isIgnored token.kind = false := by
  rw [refine?_eq_rewrite?, rewrite?] at hKept
  split at hKept
  · cases hKept
  · rename_i hStays
    cases hKept
    cases hKind : raw.kind with
    | whitespace | comment | eof =>
        rw [hKind] at hStays
        exact absurd rfl hStays
    | _ =>
      exact ⟨rfl, rfl⟩

/- Every token that is parsed fits its kind and has a meaning. -/
theorem fits_of_mem_parsing
    {source : String}
    {token : Token}
    (hMem : token ∈ parsing.tokens source) :
    token.kind.Fits token.value.toList ∧
      Lexeme.isIgnored token.kind = false := by
  rw [parsing_tokens_eq] at hMem
  rcases List.mem_filterMap.mp hMem with ⟨raw, hRaw, hKept⟩
  rcases expression.exists_first_of_mem_rawTokens hRaw with
    ⟨c, rest, hKind, hValue⟩
  rcases parsing_kind_of_refine? hKept with ⟨hSame, hMeaning⟩
  refine ⟨?_, hMeaning⟩
  by_cases hQuote : expression.role? c = some .quote
  · rw [hSame, hKind]
    exact fits_of_quote hQuote rest _
  · rcases expression.exists_first_text_eq c rest with
      ⟨more, hText⟩
    have hFirst :
        ∀ d ∈ raw.value.toList.head?, d ≠ '\x22' ∧ d ≠ '\'' := by
      rw [hValue, hText]
      rintro _ ⟨⟩
      exact not_or.mp (expression_role?_quote_iff.not.mp hQuote)
    have hUnchanged : parsing.refine? raw = some raw :=
      refine?_of_ne_quote (hSame ▸ hMeaning)
        (expression_kind_ne_unknown hRaw) hFirst raw.position
    cases hUnchanged.symm.trans hKept
    rw [hKind, hValue]
    exact fits_first c rest

end Tokenizer

------------------------------------------------------------
-- Meanings of Tokens
------------------------------------------------------------

/- A symbol that is not the spelling of a mark. -/
def Token.IsStray
    (token : Token) : Prop :=
  token.kind = .symbol ∧ token.value ∉ Mark.spellings

instance (token : Token) : Decidable token.IsStray :=
  inferInstanceAs
    (Decidable (token.kind = .symbol ∧
      token.value ∉ Mark.spellings))

namespace Lexeme

variable {token : Token}

/- A stray symbol has no meaning. -/
theorem ofToken?_of_isStray
    (hStray : token.IsStray) :
    ofToken? token =
      .error ⟨.unknownSymbol token.value, token.position⟩ := by
  have hNone : Mark.ofSymbol? token.value = none := by
    rw [← Option.not_isSome_iff_eq_none,
      Mark.isSome_ofSymbol?_iff]
    exact hStray.2
  rw [ofToken?, LexemeContent.ofToken?, hStray.1]
  dsimp only
  rw [hNone]
  rfl

/- What fits its kind has a meaning, unless it is stray. -/
theorem exists_ofToken?
    (hFits : token.kind.Fits token.value.toList)
    (hMeaning : isIgnored token.kind = false)
    (hListed : ¬ token.IsStray) :
    ∃ l, ofToken? token = .ok l := by
  have hSome : (LexemeContent.ofToken? token).isSome := by
    unfold LexemeContent.ofToken?
    cases hKind : token.kind with
    | word | quoted => rfl
    | keyword =>
        rw [hKind] at hFits
        dsimp only [TokenKind.Fits] at hFits
        rw [String.ofList_toList] at hFits
        rw [Option.isSome_map]
        exact isKeyword_iff.mp hFits
    | symbol =>
        rw [Option.isSome_map, Mark.isSome_ofSymbol?_iff]
        exact not_not.mp fun hOther => hListed ⟨hKind, hOther⟩
    | integer | float =>
        rw [hKind] at hFits
        rw [Option.isSome_map]
        exact hFits.isSome_numberOf?
    | number | unknown | eof =>
        rw [hKind] at hFits
        exact hFits.elim
    | whitespace | comment =>
        rw [hKind] at hMeaning
        cases hMeaning
  rcases Option.isSome_iff_exists.mp hSome with
    ⟨content, hContent⟩
  rw [ofToken?, hContent]
  exact ⟨_, rfl⟩

end Lexeme

end Formula
