import Formula.Proofs.Grammar.Unambiguity
import Formula.Proofs.Outcome

/-
  Linkers read the words of their levels.

  Key definitions include:
    * `Level.linker`

  Main statements:
    * `Level.linker_eq_some_iff`
    * `Level.linker_eq_none_of_stops`
-/

namespace Formula

namespace Level

/- The linker of a level. -/
def linker : Level → Linker
  | .logical => .logical
  | .comparison => .comparison
  | .sum => .sum
  | .product => .product
  | .power => .power

------------------------------------------------------------
-- Single Marks
------------------------------------------------------------

/- A linker of single marks reads one that it knows. -/
theorem joins_eq_some_iff
    {op? : Mark → Option BinaryOp}
    {ls rest : List Lexeme}
    {link : Link}
    {p : Position} :
    Linker.joins op? ls = some (link, p, rest) ↔
      ∃ l m op, ls = l :: rest ∧ p = l.position ∧
        l.mark? = some m ∧ op? m = some op ∧
        link = .join op := by
  constructor
  · intro hJoins
    cases ls with
    | nil => cases hJoins
    | cons l ls =>
        rcases Option.bind_eq_some_iff.mp hJoins with
          ⟨m, hMark, hFound⟩
        rcases Option.bind_eq_some_iff.mp hFound with
          ⟨op, hKnown, hResult⟩
        cases hResult
        exact ⟨l, m, op, rfl, rfl, hMark, hKnown, rfl⟩
  · rintro ⟨l, m, op, rfl, rfl, hMark, hKnown, rfl⟩
    simp [Linker.joins, hMark, hKnown]

/- Except for sums, every link of a level is a single mark. -/
theorem exists_joins
    {k : Level}
    (hSingle : k ≠ .sum) :
    ∃ op?, k.linker = Linker.joins op? ∧
      ∀ marks link, (marks, link) ∈ k.links ↔
        ∃ m op, marks = [m] ∧ op? m = some op ∧
          link = .join op := by
  cases k with
  | sum => exact absurd rfl hSingle
  | _ =>
      refine ⟨_, rfl, fun marks link => ?_⟩
      constructor
      · simp only [links, List.mem_cons, Prod.mk.injEq,
          List.not_mem_nil, or_false]
        intro hMem
        repeat
          first
            | rcases hMem with ⟨rfl, rfl⟩ | hMem
              exact ⟨_, _, rfl, rfl, rfl⟩
            | rcases hMem with ⟨rfl, rfl⟩
              exact ⟨_, _, rfl, rfl, rfl⟩
      · rintro ⟨m, op, rfl, hKnown, rfl⟩
        cases m <;> cases hKnown <;> simp [links]

------------------------------------------------------------
-- Sequences of Words
------------------------------------------------------------

/- The linker of sums reads words as a whole. -/
theorem spells_of_linker_sum
    {ls rest : List Lexeme}
    {link : Link}
    {p : Position}
    (hLink : Linker.sum ls = some (link, p, rest)) :
    ∃ first words, ls = first :: (words ++ rest) ∧
      p = first.position ∧
      sum.Spells link (first :: words) := by
  unfold Linker.sum at hLink
  split at hLink
  · cases hLink
  · rename_i l ls
    split at hLink <;> cases hLink <;> rename_i hWords
    · rcases ls with _ | ⟨l', _ | ⟨l'', ls⟩⟩ <;>
        simp at hWords
      exact ⟨l, [l', l''], rfl, rfl, [.is, .not, .null],
        by simp [links], by simp [hWords]⟩
    · rcases ls with _ | ⟨l', ls⟩ <;> simp at hWords
      exact ⟨l, [l'], rfl, rfl, [.is, .null],
        by simp [links], by simp [hWords]⟩
    · rcases ls with _ | ⟨l', ls⟩ <;> simp at hWords
      exact ⟨l, [l'], rfl, rfl, [.not, .like],
        by simp [links], by simp [hWords]⟩
    · rcases ls with _ | ⟨l', ls⟩ <;> simp at hWords
      exact ⟨l, [l'], rfl, rfl, [.not, .isIn],
        by simp [links], by simp [hWords]⟩
    · simp at hWords
      exact ⟨l, [], rfl, rfl, [.plus],
        by simp [links], by simp [hWords]⟩
    · simp at hWords
      exact ⟨l, [], rfl, rfl, [.minus],
        by simp [links], by simp [hWords]⟩
    · simp at hWords
      exact ⟨l, [], rfl, rfl, [.like],
        by simp [links], by simp [hWords]⟩

theorem linker_sum_of_spells
    {link : Link}
    {first : Lexeme}
    {words rest : List Lexeme}
    (hSpells : sum.Spells link (first :: words)) :
    Linker.sum (first :: (words ++ rest)) =
      some (link, first.position, rest) := by
  rcases hSpells with ⟨marks, hMem, hMarks⟩
  simp only [links, List.mem_cons, Prod.mk.injEq,
    List.not_mem_nil, or_false] at hMem
  rcases hMem with
    ⟨rfl, rfl⟩ | ⟨rfl, rfl⟩ | ⟨rfl, rfl⟩ | ⟨rfl, rfl⟩ |
    ⟨rfl, rfl⟩ | ⟨rfl, rfl⟩ | ⟨rfl, rfl⟩
  all_goals
    simp only [List.map_cons, List.map_nil, List.cons.injEq,
      List.map_eq_cons_iff, List.map_eq_nil_iff] at hMarks
  case inl | inr.inl | inr.inr.inl =>
    rcases hMarks with ⟨hFirst, rfl⟩
    simp [Linker.sum, hFirst]
  case inr.inr.inr.inr.inr.inr =>
    rcases hMarks with
      ⟨hFirst, l, _, rfl, hSecond, l', _, rfl, hThird, rfl⟩
    simp [Linker.sum, hFirst, hSecond, hThird]
  all_goals
    rcases hMarks with ⟨hFirst, l, _, rfl, hSecond, rfl⟩
    simp [Linker.sum, hFirst, hSecond]

/-
  A linker reads the words of a link of its level, and gives
  the position of the first one.
-/
theorem linker_eq_some_iff
    {k : Level}
    {ls rest : List Lexeme}
    {link : Link}
    {p : Position} :
    k.linker ls = some (link, p, rest) ↔
      ∃ first words, ls = first :: (words ++ rest) ∧
        p = first.position ∧
        k.Spells link (first :: words) := by
  by_cases hSum : k = .sum
  · subst hSum
    constructor
    · exact spells_of_linker_sum
    · rintro ⟨first, words, rfl, rfl, hSpells⟩
      exact linker_sum_of_spells hSpells
  · rcases exists_joins hSum with ⟨op?, hLinker, hLinks⟩
    rw [hLinker, joins_eq_some_iff]
    constructor
    · rintro ⟨l, m, op, rfl, rfl, hMark, hKnown, rfl⟩
      refine ⟨l, [], rfl, rfl, [m], ?_, ?_⟩
      · exact (hLinks _ _).mpr ⟨m, op, rfl, hKnown, rfl⟩
      · rw [List.map_cons, hMark]
        rfl
    · rintro ⟨first, words, rfl, rfl, marks, hMem, hMarks⟩
      rcases (hLinks _ _).mp hMem with
        ⟨m, op, rfl, hKnown, rfl⟩
      simp only [List.map_cons, List.map_nil, List.cons.injEq,
        List.map_eq_nil_iff] at hMarks
      rcases hMarks with ⟨hMark, rfl⟩
      exact ⟨first, m, op, rfl, rfl, hMark, hKnown, rfl⟩

/- The words of a link are read wherever they stand. -/
theorem linker_of_spells
    {k : Level}
    {link : Link}
    {first : Lexeme}
    {words : List Lexeme}
    (hSpells : k.Spells link (first :: words))
    (rest : List Lexeme) :
    k.linker (first :: (words ++ rest)) =
      some (link, first.position, rest) :=
  linker_eq_some_iff.mpr ⟨first, words, rfl, rfl, hSpells⟩

/- There is no link where a chain ends. -/
theorem linker_eq_none_of_stops
    {k : Level}
    {ls : List Lexeme}
    (hStops : (Phrase.links k).Stops ls) :
    k.linker ls = none := by
  cases hLink : k.linker ls with
  | none => rfl
  | some found =>
      rcases found with ⟨link, p, rest⟩
      rcases linker_eq_some_iff.mp hLink with
        ⟨first, words, rfl, _, hSpells⟩
      exact absurd hStops
        (Derivation.not_stops_of_spells hSpells)

end Level

end Formula
