import Mathlib
import Formula.Operator.Apply
import Formula.Proofs.Operator.Indexing
import Formula.Proofs.Text.Regex

/-
  Texts and the patterns they are matched with.

  Under either policy two texts are matched as they are, by the
  regular expression of the pattern.  The outcome is a truth
  value, and it tells whether the text can be cut into pieces,
  one for each character of the pattern.

  Main statements:
    * `matchPattern_eq`
    * `Policy.IsOffered.like_eq`
    * `like_cuts`
-/

namespace Formula

/- The expression of a pattern matches as the pattern does. -/
theorem matchPattern_eq
    (pattern text : String) :
    matchPattern pattern text =
      .ok (Wildcard.isMatch pattern text) := by
  rcases Regex.isMatch_ofPattern pattern text with
    ⟨r, hRead, hSame⟩
  rw [matchPattern, hRead, ← hSame]

/- Two texts need no conversion to be matched. -/
theorem Policy.IsOffered.like_eq
    {p : Policy}
    (hOffered : p.IsOffered)
    (text pattern : String) :
    p.applyBinary .like (.string text) (.string pattern) =
      .ok (.boolean (Wildcard.isMatch pattern text)) := by
  have hConvert (s : String) :
      p.convert (.string s) .string = .ok (.string s) :=
    hOffered.convert_self (.string s)
  rcases hOffered.exists_eq_policy with ⟨c, rfl⟩
  change c.like (.string text) (.string pattern) = _
  simp only [Conversion.policy_toConversion] at hConvert
  simp [Conversion.like, Value.isNull, hConvert,
    matchPattern_eq, Except.map]

/-
  A text matches a pattern if and only if the whole of it can
  be cut into consecutive pieces, one for each character of the
  pattern in order: any run of characters, line breaks among
  them, for a percent sign, one character for an underscore, and
  for any other character one that folds to the same.

  The regular expression of the pattern consists of anchors
  around one part for each character, every character besides
  the two wildcards being a letter of its own, and it accepts
  the texts that match.
-/
theorem like_cuts
    {p : Policy}
    (hOffered : p.IsOffered)
    (text pattern : String) :
    ∃ isMatch expression,
      p.applyBinary .like (.string text) (.string pattern) =
        .ok (.boolean isMatch) ∧
      (isMatch = true ↔
        CutBy IsPiece pattern.toList text.toList) ∧
      Regex.read? (Regex.ofPattern pattern.toList) =
        some expression ∧
      expression.parts =
        .start :: (pattern.toList.map Regex.patternPart ++
          [.finish]) ∧
      (expression.Accepts text.toList ↔ isMatch = true) := by
  rcases Regex.accepts_iff pattern.toList text.toList with
    ⟨expression, hRead, hParts, hAccepts⟩
  refine ⟨Wildcard.isMatch pattern text, expression,
    hOffered.like_eq text pattern, Wildcard.isMatch_iff,
    hRead, hParts, ?_⟩
  exact hAccepts.trans Wildcard.isMatch_iff.symm

/- A point is no operator, and a run may cross a line break. -/
theorem like_cuts_point :
    Policy.IsOffered .permissive ∧
    Policy.permissive.applyBinary .like (.string "A.C\nD")
        (.string "a.c%") =
      .ok (.boolean true) := by
  have hOffered : Policy.IsOffered .permissive := .inr rfl
  refine ⟨hOffered, ?_⟩
  rcases like_cuts hOffered "A.C\nD" "a.c%" with
    ⟨isMatch, expression, hLike, hCut, -⟩
  have hLetter {c d : Char}
      (hSome : c ≠ '%' ∧ c ≠ '_')
      (hSame : foldCase d = foldCase c) :
      IsPiece c [d] :=
    .letter hSome.1 hSome.2 hSame
  have hPieces :
      List.Forall₂ IsPiece ['a', '.', 'c', '%']
        [['A'], ['.'], ['C'], ['\n', 'D']] :=
    .cons (hLetter (by decide) rfl) <|
      .cons (hLetter (by decide) rfl) <|
      .cons (hLetter (by decide) rfl) <|
      .cons (.run _) .nil
  have hMatch : isMatch = true :=
    hCut.mpr ⟨_, hPieces, by decide⟩
  rw [hLike, hMatch]

end Formula
