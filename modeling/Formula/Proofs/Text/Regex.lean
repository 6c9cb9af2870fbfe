import Mathlib
import Formula.Proofs.Text.Wildcard
import Formula.Text.Regex

/-
  What regular expressions match.

  Matching is described on the parts of an expression, and the
  rows of places that the matcher computes are those where the
  parts match.

  The expression of a wildcard pattern is read as anchors around
  a part for each character, and no character of the pattern
  has become an operator.  It accepts the texts that can be cut
  by the pattern.  So it matches as the pattern itself does.

  Key definitions include:
    * `Regex.Matches`
    * `Regex.Accepts`
    * `Regex.Tells`

  Main statements:
    * `Regex.tells_matchRow`
    * `Regex.isMatch_iff`
    * `Regex.symbols?_escape`
    * `Regex.read?_ofPattern`
    * `Regex.accepts_iff`
    * `Regex.isMatch_ofPattern`
-/

namespace Formula

namespace Regex

------------------------------------------------------------
-- Matching
------------------------------------------------------------

/- An atom takes a character. -/
def Atom.Takes
    (f : Flags)
    (c : Char) : Atom → Prop
  | .any => f.crossesLines = true ∨ c ≠ '\n'
  | .letter d =>
      if f.ignoresCase then foldCase c = foldCase d else c = d

theorem Atom.takes_iff
    {f : Flags}
    {c : Char}
    {a : Atom} :
    a.takes f c = true ↔ a.Takes f c := by
  cases a with
  | any => simp [takes, Takes]
  | letter d =>
      cases hCase : f.ignoresCase with
      | false => simp [takes, Takes, hCase]
      | true => simp [takes, Takes, hCase]

/-
  Parts match the front of a text, of which it is known whether
  anything came before it.
-/
inductive Matches
    (f : Flags) : List Part → Bool → List Char → Prop where
  | nil
      (atStart : Bool)
      (rest : List Char) :
      Matches f [] atStart rest
  | start
      {parts : List Part}
      {text : List Char}
      (hRest : Matches f parts true text) :
      Matches f (.start :: parts) true text
  | finish
      {parts : List Part}
      {atStart : Bool}
      (hRest : Matches f parts atStart []) :
      Matches f (.finish :: parts) atStart []
  | once
      {a : Atom}
      {parts : List Part}
      {atStart : Bool}
      {c : Char}
      {rest : List Char}
      (hTakes : a.Takes f c)
      (hRest : Matches f parts false rest) :
      Matches f (.once a :: parts) atStart (c :: rest)
  | stop
      {a : Atom}
      {parts : List Part}
      {atStart : Bool}
      {text : List Char}
      (hRest : Matches f parts atStart text) :
      Matches f (.run a :: parts) atStart text
  | more
      {a : Atom}
      {parts : List Part}
      {atStart : Bool}
      {c : Char}
      {rest : List Char}
      (hTakes : a.Takes f c)
      (hRest : Matches f (.run a :: parts) false rest) :
      Matches f (.run a :: parts) atStart (c :: rest)

/- A regular expression matches somewhere in a text. -/
def Accepts
    (r : Regex)
    (text : List Char) : Prop :=
  ∃ before rest,
    text = before ++ rest ∧
      Matches r.flags r.parts before.isEmpty rest

------------------------------------------------------------
-- Rows of Places
------------------------------------------------------------

/- A row tells at which ends of a text some parts match. -/
inductive Tells
    (f : Flags)
    (parts : List Part) :
    Bool → List Char → List Bool → Prop where
  | last
      {atStart b : Bool}
      (hPlace : b = true ↔ Matches f parts atStart []) :
      Tells f parts atStart [] [b]
  | place
      {atStart b : Bool}
      {c : Char}
      {text : List Char}
      {row : List Bool}
      (hPlace : b = true ↔ Matches f parts atStart (c :: text))
      (hLater : Tells f parts false text row) :
      Tells f parts atStart (c :: text) (b :: row)

section Rows

variable {f : Flags}
variable {a : Atom}
variable {parts : List Part}
variable {atStart : Bool}
variable {text : List Char}
variable {row : List Bool}

/- The first place is the whole text. -/
theorem Tells.exists_cons
    (hTells : Tells f parts atStart text row) :
    ∃ b later, row = b :: later ∧
      (b = true ↔ Matches f parts atStart text) := by
  cases hTells with
  | last hPlace => exact ⟨_, _, rfl, hPlace⟩
  | place hPlace hLater => exact ⟨_, _, rfl, hPlace⟩

/- No parts match everywhere. -/
theorem tells_nil
    (atStart : Bool)
    (text : List Char) :
    Tells f [] atStart text
      (true :: text.map fun _ => true) := by
  induction text generalizing atStart with
  | nil => exact .last ⟨fun _ => .nil _ _, fun _ => rfl⟩
  | cons c text ih =>
      exact .place ⟨fun _ => .nil _ _, fun _ => rfl⟩ (ih false)

theorem tells_onceRow
    (hTells : Tells f parts atStart text row) :
    Tells f (.once a :: parts) atStart text
      (onceRow (a.takes f) text row) := by
  induction hTells with
  | last hPlace =>
      refine .last ⟨fun h => (nomatch h), fun h => ?_⟩
      cases h
  | @place atStart b c text row hPlace hLater ih =>
      rcases hLater.exists_cons with ⟨b', later, rfl, hNext⟩
      refine .place ?_ ih
      rw [Bool.and_eq_true, Atom.takes_iff, hNext]
      constructor
      · rintro ⟨hTakes, hRest⟩
        exact .once hTakes hRest
      · intro hMatches
        cases hMatches with
        | once hTakes hRest => exact ⟨hTakes, hRest⟩

theorem tells_runRow
    (hTells : Tells f parts atStart text row) :
    Tells f (.run a :: parts) atStart text
      (runRow (a.takes f) text row) := by
  induction hTells with
  | last hPlace =>
      refine .last (hPlace.trans ⟨.stop, fun hMatches => ?_⟩)
      cases hMatches with
      | stop hRest => exact hRest
  | @place atStart b c text row hPlace hLater ih =>
      rcases ih.exists_cons with ⟨b', later, hRow, hNext⟩
      refine .place ?_ ih
      rw [hRow, List.headD_cons, Bool.or_eq_true,
        Bool.and_eq_true, Atom.takes_iff, hPlace, hNext]
      constructor
      · rintro (hRest | ⟨hTakes, hRest⟩)
        · exact .stop hRest
        · exact .more hTakes hRest
      · intro hMatches
        cases hMatches with
        | stop hRest => exact .inl hRest
        | more hTakes hRest => exact .inr ⟨hTakes, hRest⟩

/- Behind its first place no text starts. -/
theorem tells_start_later
    (hTells : Tells f parts false text row) :
    Tells f (.start :: parts) false text
      (row.map fun _ => false) := by
  have hNever (text : List Char) :
      false = true ↔ Matches f (.start :: parts) false text :=
    ⟨fun h => (nomatch h), fun h => (nomatch h)⟩
  induction text generalizing row with
  | nil =>
      cases hTells with
      | last hPlace => exact .last (hNever [])
  | cons c text ih =>
      cases hTells with
      | place hPlace hLater =>
          exact .place (hNever _) (ih hLater)

theorem tells_startRow
    (hTells : Tells f parts true text row) :
    Tells f (.start :: parts) true text (startRow row) := by
  have hSame (text : List Char) :
      Matches f parts true text ↔
        Matches f (.start :: parts) true text := by
    refine ⟨.start, fun hMatches => ?_⟩
    cases hMatches with
    | start hRest => exact hRest
  cases hTells with
  | last hPlace => exact .last (hPlace.trans (hSame _))
  | place hPlace hLater =>
      exact .place (hPlace.trans (hSame _))
        (tells_start_later hLater)

theorem tells_finishRow
    (hTells : Tells f parts atStart text row) :
    Tells f (.finish :: parts) atStart text
      (finishRow row) := by
  induction hTells with
  | last hPlace =>
      refine .last (hPlace.trans ⟨.finish, fun hMatches => ?_⟩)
      cases hMatches with
      | finish hRest => exact hRest
  | @place atStart b c text row hPlace hLater ih =>
      rcases hLater.exists_cons with ⟨b', later, rfl, _⟩
      refine .place ⟨fun h => (nomatch h), fun h => ?_⟩ ih
      cases h

/- The matcher computes the places where parts match. -/
theorem tells_matchRow
    (f : Flags)
    (parts : List Part)
    (text : List Char) :
    Tells f parts true text (matchRow f parts text) := by
  induction parts with
  | nil => exact tells_nil true text
  | cons part parts ih =>
      cases part with
      | start => exact tells_startRow ih
      | finish => exact tells_finishRow ih
      | once a => exact tells_onceRow ih
      | run a => exact tells_runRow ih

/- Some place is told when the parts match behind something. -/
theorem Tells.contains_iff
    (hTells : Tells f parts atStart text row) :
    row.contains true = true ↔
      ∃ before rest, text = before ++ rest ∧
        Matches f parts (atStart && before.isEmpty) rest := by
  induction hTells with
  | @last atStart b hPlace =>
      rw [List.contains_iff_mem, List.mem_singleton, eq_comm,
        hPlace]
      constructor
      · intro hMatches
        refine ⟨[], [], rfl, ?_⟩
        rw [List.isEmpty_nil, Bool.and_true]
        exact hMatches
      · rintro ⟨before, rest, hSplit, hMatches⟩
        rcases List.nil_eq_append_iff.mp hSplit with ⟨rfl, rfl⟩
        rw [List.isEmpty_nil, Bool.and_true] at hMatches
        exact hMatches
  | @place atStart b c text row hPlace hLater ih =>
      rw [List.contains_cons, Bool.or_eq_true, ih, beq_iff_eq,
        eq_comm, hPlace]
      constructor
      · rintro (hMatches | ⟨before, rest, rfl, hMatches⟩)
        · refine ⟨[], c :: text, rfl, ?_⟩
          rw [List.isEmpty_nil, Bool.and_true]
          exact hMatches
        · refine ⟨c :: before, rest, rfl, ?_⟩
          rw [List.isEmpty_cons, Bool.and_false]
          exact hMatches
      · rintro ⟨before, rest, hSplit, hMatches⟩
        cases before with
        | nil =>
            cases hSplit
            rw [List.isEmpty_nil, Bool.and_true] at hMatches
            exact .inl hMatches
        | cons d before =>
            cases hSplit
            rw [List.isEmpty_cons, Bool.and_false] at hMatches
            exact .inr ⟨before, rest, rfl, hMatches⟩

end Rows

/- What runs accepts what is accepted by definition. -/
theorem isMatch_iff
    {r : Regex}
    {text : List Char} :
    r.isMatch text = true ↔ r.Accepts text := by
  rw [isMatch, (tells_matchRow _ _ _).contains_iff]
  rfl

------------------------------------------------------------
-- The Expression of a Pattern
------------------------------------------------------------

variable {rest : List Char}

/- The symbols that a character of a pattern is written as. -/
def patternSymbols
    (c : Char) : List Symbol :=
  if c = '%' then [.operator '.', .operator '*']
  else if c = '_' then [.operator '.']
  else [.letter c]

/- The part that a character of a pattern is written as. -/
def patternPart
    (c : Char) : Part :=
  if c = '%' then .run .any
  else if c = '_' then .once .any
  else .once (.letter c)

/- A character behind a backslash is a letter. -/
theorem symbols?_backslash
    {c : Char}
    (hMeta : metaCharacters.contains c = true) :
    symbols? ('\\' :: c :: rest) =
      (symbols? rest).map fun s => .letter c :: s := by
  rw [symbols?.eq_def]
  exact if_pos hMeta

/- Any other character is a symbol of its own. -/
theorem symbols?_cons
    {c : Char}
    (hPlain : c ≠ '\\') :
    symbols? (c :: rest) =
      (symbols? rest).map fun s =>
        (if operators.contains c then .operator c
          else .letter c) :: s := by
  rw [symbols?.eq_def]
  exact if_neg hPlain

/- No character that is escaped is read as an operator. -/
theorem symbols?_escape
    (c : Char)
    (rest : List Char) :
    symbols? (escape c ++ rest) =
      (symbols? rest).map fun s => .letter c :: s := by
  unfold escape
  split
  · rename_i hMeta
    exact symbols?_backslash hMeta
  · rename_i hPlain
    have hSlash : c ≠ '\\' := by
      rintro rfl
      simp [metaCharacters] at hPlain
    have hOperators :
        ∀ d ∈ operators, metaCharacters.contains d = true := by
      simp [operators, metaCharacters]
    have hLetter : ¬ operators.contains c = true := by
      intro hOperator
      exact hPlain (hOperators c
        (List.contains_iff_mem.mp hOperator))
    rw [List.singleton_append, symbols?_cons hSlash,
      if_neg hLetter]

theorem symbols?_ofPatternChar
    (c : Char)
    (rest : List Char) :
    symbols? (ofPatternChar c ++ rest) =
      (symbols? rest).map fun s => patternSymbols c ++ s := by
  unfold ofPatternChar patternSymbols
  split
  · simp [symbols?_cons, operators, Function.comp_def]
  · split
    · simp [symbols?_cons, operators]
    · exact symbols?_escape c rest

/- The expression is read as the symbols that were written. -/
theorem symbols?_flatMap
    (pattern : List Char) :
    symbols? (pattern.flatMap ofPatternChar ++ ['$']) =
      some (pattern.flatMap patternSymbols ++
        [.operator '$']) := by
  induction pattern with
  | nil => simp [symbols?_cons, symbols?, operators]
  | cons c pattern ih =>
      simp only [List.flatMap_cons, List.append_assoc,
        symbols?_ofPatternChar, ih, Option.map_some]

/- A symbol is a part of its own unless a star follows it. -/
theorem parts?_cons
    {s : Symbol}
    {part : Part}
    {others : List Symbol}
    (hPart : part? false s = some part)
    (hStar : others.head? ≠ some (.operator '*')) :
    parts? (s :: others) =
      (parts? others).map fun parts => part :: parts := by
  cases others with
  | nil => simp [parts?, hPart]
  | cons next others =>
      have hNext : next ≠ .operator '*' := by
        rintro rfl
        exact hStar rfl
      rw [parts?, if_neg hNext, hPart, Option.bind_some]

theorem head?_flatMap_ne_star
    (pattern : List Char) :
    (pattern.flatMap patternSymbols ++
        [Symbol.operator '$']).head? ≠
      some (.operator '*') := by
  cases pattern with
  | nil => simp
  | cons c pattern =>
      simp only [List.flatMap_cons, patternSymbols]
      split
      · simp
      · split
        · simp
        · simp

/- The symbols are put together to the parts of the pattern. -/
theorem parts?_flatMap
    (pattern : List Char) :
    parts? (pattern.flatMap patternSymbols ++
        [.operator '$']) =
      some (pattern.map patternPart ++ [.finish]) := by
  induction pattern with
  | nil => simp [parts?, part?]
  | cons c pattern ih =>
      have hStar := head?_flatMap_ne_star pattern
      simp only [List.flatMap_cons, List.append_assoc,
        List.map_cons]
      generalize pattern.flatMap patternSymbols ++
        [Symbol.operator '$'] = others at ih hStar ⊢
      have hOnce {s : Symbol} {part : Part}
          (hPart : part? false s = some part) :
          parts? (s :: others) =
            some (part :: (pattern.map patternPart ++
              [.finish])) := by
        rw [parts?_cons hPart hStar, ih, Option.map_some]
      by_cases hRun : c = '%'
      · subst hRun
        simp [patternSymbols, patternPart, parts?, part?,
          Atom.part, ih]
      · by_cases hOne : c = '_'
        · subst hOne
          exact hOnce rfl
        · have hLetter :
              part? false (.letter c) =
                some (.once (.letter c)) := rfl
          simpa [patternSymbols, patternPart, hRun, hOne]
            using hOnce hLetter

/- The expression of a pattern, read again. -/
theorem read?_ofPattern
    (pattern : List Char) :
    read? (ofPattern pattern) =
      some ⟨⟨true, true⟩,
        .start :: (pattern.map patternPart ++ [.finish])⟩ := by
  have hSymbols :
      symbols? ('^' ::
          (pattern.flatMap ofPatternChar ++ ['$'])) =
        some (.operator '^' ::
          (pattern.flatMap patternSymbols ++
            [.operator '$'])) := by
    rw [symbols?_cons (by decide), symbols?_flatMap]
    rfl
  have hParts :
      parts? (.operator '^' ::
          (pattern.flatMap patternSymbols ++
            [.operator '$'])) =
        some (.start ::
          (pattern.map patternPart ++ [.finish])) := by
    rw [parts?_cons rfl (head?_flatMap_ne_star pattern),
      parts?_flatMap]
    rfl
  have hFlags :
      read? (ofPattern pattern) =
        ((symbols? ('^' ::
          (pattern.flatMap ofPatternChar ++ ['$']))).bind
            parts?).bind fun parts =>
              some ⟨⟨true, true⟩, parts⟩ := rfl
  rw [hFlags, hSymbols, Option.bind_some, hParts,
    Option.bind_some]

------------------------------------------------------------
-- What the Expression Accepts
------------------------------------------------------------

variable {f : Flags}
variable {a : Atom}
variable {parts : List Part}
variable {atStart : Bool}
variable {text : List Char}

theorem matches_finish_iff :
    Matches f [.finish] atStart text ↔ text = [] := by
  constructor
  · intro hMatches
    cases hMatches
    rfl
  · rintro rfl
    exact .finish (.nil atStart [])

theorem matches_once_iff :
    Matches f (.once a :: parts) atStart text ↔
      ∃ c rest, a.Takes f c ∧ Matches f parts false rest ∧
        text = [c] ++ rest := by
  constructor
  · intro hMatches
    cases hMatches with
    | once hTakes hRest => exact ⟨_, _, hTakes, hRest, rfl⟩
  · rintro ⟨c, rest, hTakes, hRest, rfl⟩
    exact .once hTakes hRest

/- A run leaves a rest to the parts behind it. -/
theorem exists_of_matches_run
    (hMatches : Matches f (.run a :: parts) atStart text) :
    ∃ piece rest atRest,
      Matches f parts atRest rest ∧ text = piece ++ rest := by
  induction text generalizing atStart with
  | nil =>
      cases hMatches with
      | stop hRest => exact ⟨[], [], atStart, hRest, rfl⟩
  | cons c text ih =>
      cases hMatches with
      | stop hRest =>
          exact ⟨[], c :: text, atStart, hRest, rfl⟩
      | more hTakes hRest =>
          rcases ih hRest with
            ⟨piece, rest, atRest, hLater, rfl⟩
          exact ⟨c :: piece, rest, atRest, hLater, rfl⟩

/- A run may take any number of characters. -/
theorem matches_run_append
    {piece : List Char}
    (hTakes : ∀ c ∈ piece, a.Takes f c)
    (hRest : ∀ atRest, Matches f parts atRest rest) :
    Matches f (.run a :: parts) atStart (piece ++ rest) := by
  induction piece generalizing atStart with
  | nil => exact .stop (hRest atStart)
  | cons c piece ih =>
      exact .more (hTakes c List.mem_cons_self)
        (ih fun d hMem =>
          hTakes d (List.mem_cons_of_mem c hMem))

variable {c : Char}
variable {pattern : List Char}

/- A part that is taken once cuts off one character. -/
theorem matches_once_iff_cutBy
    (hPieces : ∀ piece, IsPiece c piece ↔
      ∃ d, a.Takes f d ∧ piece = [d])
    (hRest : ∀ rest, Matches f parts false rest ↔
      CutBy IsPiece pattern rest) :
    Matches f (.once a :: parts) atStart text ↔
      CutBy IsPiece (c :: pattern) text := by
  simp only [matches_once_iff, cutBy_cons_iff, hPieces, hRest]
  constructor
  · rintro ⟨d, rest, hTakes, hCut, rfl⟩
    exact ⟨[d], rest, ⟨d, hTakes, rfl⟩, hCut, rfl⟩
  · rintro ⟨_, rest, ⟨d, hTakes, rfl⟩, hCut, rfl⟩
    exact ⟨d, rest, hTakes, hCut, rfl⟩

/- A point with a star cuts off any run. -/
theorem matches_run_iff_cutBy
    (hAny : ∀ d, a.Takes f d)
    (hRest : ∀ atRest rest, Matches f parts atRest rest ↔
      CutBy IsPiece pattern rest) :
    Matches f (.run a :: parts) atStart text ↔
      CutBy IsPiece ('%' :: pattern) text := by
  rw [cutBy_cons_iff]
  constructor
  · intro hMatches
    rcases exists_of_matches_run hMatches with
      ⟨piece, rest, atRest, hLater, rfl⟩
    exact ⟨piece, rest, .run piece,
      (hRest atRest rest).mp hLater, rfl⟩
  · rintro ⟨piece, rest, -, hCut, rfl⟩
    exact matches_run_append (fun d _ => hAny d)
      fun atRest => (hRest atRest rest).mpr hCut

/- The parts of a pattern match what can be cut by it. -/
theorem matches_pattern_iff :
    Matches ⟨true, true⟩
        (pattern.map patternPart ++ [.finish]) atStart text ↔
      CutBy IsPiece pattern text := by
  induction pattern generalizing atStart text with
  | nil => exact matches_finish_iff.trans cutBy_nil_iff.symm
  | cons c pattern ih =>
      rw [List.map_cons, List.cons_append]
      by_cases hRun : c = '%'
      · subst hRun
        exact matches_run_iff_cutBy (fun d => .inl rfl)
          fun atRest rest => ih
      by_cases hOne : c = '_'
      · subst hOne
        apply matches_once_iff_cutBy _ fun rest => ih
        intro piece
        simp [isPiece_one_iff, Atom.Takes]
      · have hPart : patternPart c = .once (.letter c) := by
          simp [patternPart, hRun, hOne]
        rw [hPart]
        apply matches_once_iff_cutBy _ fun rest => ih
        intro piece
        simp [isPiece_letter_iff hRun hOne, Atom.Takes]

/-
  The expression of a pattern can be read, as anchors around a
  part for each character of it, and accepts the texts that can
  be cut by the pattern.
-/
theorem accepts_iff
    (pattern text : List Char) :
    ∃ r,
      read? (ofPattern pattern) = some r ∧
      r.parts =
        .start :: (pattern.map patternPart ++ [.finish]) ∧
      (r.Accepts text ↔ CutBy IsPiece pattern text) := by
  refine ⟨_, read?_ofPattern pattern, rfl, ?_⟩
  constructor
  · rintro ⟨before, rest, rfl, hMatches⟩
    -- The anchor in front admits no search.
    cases hStart : before.isEmpty with
    | false =>
        rw [hStart] at hMatches
        cases hMatches
    | true =>
        rw [hStart] at hMatches
        cases hMatches with
        | start hRest =>
            rw [List.isEmpty_iff.mp hStart]
            exact matches_pattern_iff.mp hRest
  · intro hCut
    exact ⟨[], text, rfl,
      .start (matches_pattern_iff.mpr hCut)⟩

/-
  The expression of a pattern can be read, and matches what the
  pattern does.
-/
theorem isMatch_ofPattern
    (pattern text : String) :
    ∃ r,
      read? (ofPattern pattern.toList) = some r ∧
      r.isMatch text.toList =
        Wildcard.isMatch pattern text := by
  rcases accepts_iff pattern.toList text.toList with
    ⟨r, hRead, _, hAccepts⟩
  refine ⟨r, hRead, Bool.eq_iff_iff.mpr ?_⟩
  rw [isMatch_iff, hAccepts, Wildcard.isMatch_iff]

end Regex

end Formula
