import Mathlib
import Formula.Text.CaseFolding

/-
  Wildcard patterns, matched without regular expressions.

  A pattern matches a text if the text can be cut into pieces,
  one for each character of the pattern in its order: any run
  for a percent sign, any one character for an underscore, and
  for every other character one that equals it in either case.

  It is matched one character at a time against all places of
  the text that the pattern so far can reach.  A place is the
  text that remains there, and the places are kept with the
  longest first.

  A run goes on from the earliest place alone.  Nothing is lost
  by that, for the places are nested: each of them is an end of
  those before it.

  Key definitions include:
    * `Wildcard`
    * `Wildcard.advance`
    * `Wildcard.isMatch`
    * `CutBy`
    * `IsPiece`
    * `Wildcard.Takes`
    * `AreNested`

  Main statements:
    * `Wildcard.mem_advance_iff`
    * `Wildcard.mem_reach_iff`
    * `Wildcard.isMatch_iff`
-/

namespace Formula

------------------------------------------------------------
-- Patterns
------------------------------------------------------------

/- What one character of a pattern stands for. -/
inductive Wildcard where
  | run
  | one
  | letter (c : Char)
deriving DecidableEq

namespace Wildcard

/- The meaning of a pattern character. -/
def ofChar
    (c : Char) : Wildcard :=
  if c = '%' then .run
  else if c = '_' then .one
  else .letter (foldCase c)

/- The text after one character, if it begins with one. -/
def dropOne : List Char → Option (List Char)
  | [] => none
  | _ :: rest => some rest

/- The text after a given character, folded. -/
def dropLetter
    (c : Char) : List Char → Option (List Char)
  | [] => none
  | d :: rest => if d = c then some rest else none

/- All ends of a text, the longest first. -/
def ends : List Char → List (List Char)
  | [] => [[]]
  | c :: rest => (c :: rest) :: ends rest

/-
  The places that one more pattern character reaches.  A run
  reaches every place from the earliest one on.
-/
def advance
    (places : List (List Char)) : Wildcard → List (List Char)
  | .run => (places.head?.map ends).getD []
  | .one => places.filterMap dropOne
  | .letter c => places.filterMap (dropLetter c)

/- The places of a folded text that a pattern reaches. -/
def reach
    (pattern : List Wildcard)
    (text : List Char) : List (List Char) :=
  pattern.foldl advance [text]

/- A pattern matches a whole text, in either case. -/
def isMatch
    (pattern : String)
    (text : String) : Bool :=
  (reach (pattern.toList.map ofChar)
    (text.toList.map foldCase)).contains []

end Wildcard

------------------------------------------------------------
-- Cuts
------------------------------------------------------------

/-
  A text can be cut into consecutive pieces, one for each item
  of a pattern, that the items take.
-/
def CutBy
    (takes : α → List Char → Prop)
    (pattern : List α)
    (text : List Char) : Prop :=
  ∃ pieces : List (List Char),
    List.Forall₂ takes pattern pieces ∧
      text = pieces.flatten

/- What a character of a pattern stands for. -/
inductive IsPiece : Char → List Char → Prop where
  | run
      (piece : List Char) :
      IsPiece '%' piece
  | one
      (d : Char) :
      IsPiece '_' [d]
  | letter
      {c d : Char}
      (hRun : c ≠ '%')
      (hOne : c ≠ '_')
      (hSame : foldCase d = foldCase c) :
      IsPiece c [d]

theorem isPiece_one_iff
    {piece : List Char} :
    IsPiece '_' piece ↔ ∃ d, piece = [d] := by
  constructor
  · intro hPiece
    cases hPiece with
    | one d => exact ⟨d, rfl⟩
    | letter _ hOther _ => exact absurd rfl hOther
  · rintro ⟨d, rfl⟩
    exact .one d

theorem isPiece_letter_iff
    {c : Char}
    (hRun : c ≠ '%')
    (hOne : c ≠ '_')
    {piece : List Char} :
    IsPiece c piece ↔
      ∃ d, foldCase d = foldCase c ∧ piece = [d] := by
  constructor
  · intro hPiece
    cases hPiece with
    | run piece => exact absurd rfl hRun
    | one d => exact absurd rfl hOne
    | letter _ _ hSame => exact ⟨_, hSame, rfl⟩
  · rintro ⟨d, hSame, rfl⟩
    exact .letter hRun hOne hSame

section Cuts

variable {α : Type}
variable {takes : α → List Char → Prop}
variable {item : α}
variable {pattern : List α}
variable {text : List Char}

/- Nothing is cut into no pieces. -/
theorem cutBy_nil_iff :
    CutBy takes [] text ↔ text = [] := by
  simp [CutBy]

/- The first piece is for the first item. -/
theorem cutBy_cons_iff :
    CutBy takes (item :: pattern) text ↔
      ∃ piece rest, takes item piece ∧
        CutBy takes pattern rest ∧ text = piece ++ rest := by
  constructor
  · rintro ⟨pieces, hTakes, rfl⟩
    rcases List.forall₂_cons_left_iff.mp hTakes with
      ⟨piece, others, hPiece, hOthers, rfl⟩
    exact ⟨piece, others.flatten, hPiece,
      ⟨others, hOthers, rfl⟩, List.flatten_cons⟩
  · rintro ⟨piece, rest, hPiece, ⟨others, hOthers, rfl⟩, rfl⟩
    exact ⟨piece :: others, hOthers.cons hPiece,
      List.flatten_cons.symm⟩

end Cuts

namespace Wildcard

/- What a wildcard takes of a folded text. -/
def Takes : Wildcard → List Char → Prop
  | .run, _ => True
  | .one, s => ∃ d, s = [d]
  | .letter c, s => s = [c]

/- A piece for a character is what its wildcard takes. -/
theorem isPiece_iff
    {c : Char}
    {piece : List Char} :
    IsPiece c piece ↔
      (ofChar c).Takes (piece.map foldCase) := by
  by_cases hRun : c = '%'
  · subst hRun
    exact ⟨fun _ => trivial, fun _ => .run piece⟩
  by_cases hOne : c = '_'
  · subst hOne
    have hTakes :
        (ofChar '_').Takes (piece.map foldCase) ↔
          ∃ d, piece.map foldCase = [d] := Iff.rfl
    rw [isPiece_one_iff, hTakes]
    simp [List.map_eq_singleton_iff]
  · have hTakes :
        (ofChar c).Takes (piece.map foldCase) ↔
          piece.map foldCase = [foldCase c] := by
      simp [ofChar, hRun, hOne, Takes]
    rw [isPiece_letter_iff hRun hOne, hTakes,
      List.map_eq_singleton_iff]
    simp [and_comm]

/- A text is cut as its folding is cut by the wildcards. -/
theorem cutBy_isPiece_iff
    {pattern text : List Char} :
    CutBy IsPiece pattern text ↔
      CutBy Takes (pattern.map ofChar)
        (text.map foldCase) := by
  induction pattern generalizing text with
  | nil => simp [cutBy_nil_iff]
  | cons c pattern ih =>
      rw [List.map_cons, cutBy_cons_iff, cutBy_cons_iff]
      constructor
      · rintro ⟨piece, rest, hPiece, hRest, rfl⟩
        exact ⟨piece.map foldCase, rest.map foldCase,
          isPiece_iff.mp hPiece, ih.mp hRest,
          List.map_append⟩
      · rintro ⟨folded, others, hTakes, hOthers, hSplit⟩
        rcases List.map_eq_append_iff.mp hSplit with
          ⟨piece, rest, rfl, rfl, rfl⟩
        exact ⟨piece, rest, isPiece_iff.mpr hTakes,
          ih.mpr hOthers, rfl⟩

------------------------------------------------------------
-- Places
------------------------------------------------------------

/- Every place is an end of the places before it. -/
def AreNested
    (places : List (List Char)) : Prop :=
  places.Pairwise fun longer shorter => shorter <:+ longer

theorem mem_ends_iff
    {s q : List Char} :
    q ∈ ends s ↔ q <:+ s := by
  induction s with
  | nil => simp [ends]
  | cons c rest ih =>
      rw [ends, List.mem_cons, ih, List.suffix_cons_iff]

theorem areNested_ends
    (s : List Char) :
    AreNested (ends s) := by
  induction s with
  | nil => simp [AreNested, ends]
  | cons c rest ih =>
      refine List.pairwise_cons.mpr ⟨?_, ih⟩
      intro q hMem
      exact (mem_ends_iff.mp hMem).trans
        (List.suffix_cons c rest)

/- To drop a first character keeps one place within another. -/
theorem suffix_of_cons_suffix
    {c d : Char}
    {s q : List Char}
    (hSuffix : d :: q <:+ c :: s) :
    q <:+ s := by
  rcases List.suffix_cons_iff.mp hSuffix with hSame | hShort
  · rw [(List.cons.inj hSame).2]
  · exact (List.suffix_cons d q).trans hShort

/- Places stay nested when some lose their first character. -/
theorem areNested_filterMap
    {drop : List Char → Option (List Char)}
    (hDrop : ∀ s q, drop s = some q → ∃ c, s = c :: q)
    {places : List (List Char)}
    (hNested : AreNested places) :
    AreNested (places.filterMap drop) := by
  refine List.pairwise_filterMap.mpr (hNested.imp ?_)
  intro longer shorter hSuffix s hLonger q hShorter
  rcases hDrop longer s hLonger with ⟨c, rfl⟩
  rcases hDrop shorter q hShorter with ⟨d, rfl⟩
  exact suffix_of_cons_suffix hSuffix

theorem dropOne_eq_some_iff
    {s q : List Char} :
    dropOne s = some q ↔ ∃ d, s = d :: q := by
  cases s with
  | nil => simp [dropOne]
  | cons d rest => simp [dropOne]

theorem dropLetter_eq_some_iff
    {c : Char}
    {s q : List Char} :
    dropLetter c s = some q ↔ s = c :: q := by
  cases s with
  | nil => simp [dropLetter]
  | cons d rest => simp [dropLetter]

theorem areNested_advance
    {places : List (List Char)}
    (hNested : AreNested places)
    (w : Wildcard) :
    AreNested (advance places w) := by
  cases w with
  | run =>
      cases places with
      | nil => exact List.Pairwise.nil
      | cons s places => exact areNested_ends s
  | one =>
      exact areNested_filterMap
        (fun s q => dropOne_eq_some_iff.mp) hNested
  | letter c =>
      exact areNested_filterMap
        (fun s q hDrop => ⟨c, dropLetter_eq_some_iff.mp hDrop⟩)
        hNested

/- A place is reached by what a wildcard takes. -/
theorem mem_advance_iff
    {places : List (List Char)}
    (hNested : AreNested places)
    {w : Wildcard}
    {q : List Char} :
    q ∈ advance places w ↔
      ∃ piece, w.Takes piece ∧ piece ++ q ∈ places := by
  cases w with
  | run =>
      cases places with
      | nil => simp [advance]
      | cons s places =>
          have hEnds : q ∈ advance (s :: places) .run ↔
              q <:+ s := mem_ends_iff
          rw [hEnds]
          constructor
          · rintro ⟨piece, rfl⟩
            exact ⟨piece, trivial, List.mem_cons_self⟩
          · rintro ⟨piece, -, hMem⟩
            -- The first place is the longest of them.
            have hFirst : piece ++ q <:+ s := by
              rcases List.mem_cons.mp hMem with hSame | hOther
              · rw [hSame]
              · exact List.rel_of_pairwise_cons hNested hOther
            exact (List.suffix_append piece q).trans hFirst
  | one =>
      simp only [advance, List.mem_filterMap,
        dropOne_eq_some_iff, Takes]
      constructor
      · rintro ⟨s, hMem, d, rfl⟩
        exact ⟨[d], ⟨d, rfl⟩, hMem⟩
      · rintro ⟨_, ⟨d, rfl⟩, hMem⟩
        exact ⟨d :: q, hMem, d, rfl⟩
  | letter c =>
      simp [advance, dropLetter_eq_some_iff, Takes]

/- A place is reached by what a whole pattern takes. -/
theorem mem_foldl_advance_iff
    {pattern : List Wildcard}
    {places : List (List Char)}
    {q : List Char}
    (hNested : AreNested places) :
    q ∈ pattern.foldl advance places ↔
      ∃ before, CutBy Takes pattern before ∧
        before ++ q ∈ places := by
  induction pattern generalizing places with
  | nil => simp [cutBy_nil_iff]
  | cons w pattern ih =>
      simp only [List.foldl_cons,
        ih (areNested_advance hNested w),
        mem_advance_iff hNested, cutBy_cons_iff]
      constructor
      · rintro ⟨rest, hRest, piece, hPiece, hMem⟩
        exact ⟨piece ++ rest,
          ⟨piece, rest, hPiece, hRest, rfl⟩,
          by rwa [List.append_assoc]⟩
      · rintro ⟨_, ⟨piece, rest, hPiece, hRest, rfl⟩, hMem⟩
        exact ⟨rest, hRest, piece, hPiece,
          by rwa [← List.append_assoc]⟩

/- From a whole text on, the places are what its cuts leave. -/
theorem mem_reach_iff
    {pattern : List Wildcard}
    {text q : List Char} :
    q ∈ reach pattern text ↔
      ∃ before, CutBy Takes pattern before ∧
        text = before ++ q := by
  rw [reach,
    mem_foldl_advance_iff (List.pairwise_singleton _ _)]
  simp [eq_comm]

/- A pattern matches the texts that can be cut by it. -/
theorem isMatch_iff
    {pattern text : String} :
    isMatch pattern text = true ↔
      CutBy IsPiece pattern.toList text.toList := by
  rw [cutBy_isPiece_iff, isMatch, List.contains_iff_mem,
    mem_reach_iff]
  simp

end Wildcard

end Formula
