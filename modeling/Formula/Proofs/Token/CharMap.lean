import Formula.Token.CharMap

/-
  What a map answers.

  An assignment decides for the characters of its range, the
  slots of the first characters and the ranges above them
  alike, and leaves all others to what was assigned before.

  Key definitions include:
    * `CharMap.addAll`

  Main statements:
    * `CharMap.lookup_assign`
    * `CharMap.exists_of_lookup_addAll`
    * `CharSet.has_ofRanges`
-/

namespace Formula

namespace CharMap

variable {α : Type}

/- A range is never above its characters. -/
theorem not_lt_of_between
    {first last c : Char}
    (hFirst : first ≤ c)
    (hLast : c ≤ last) :
    ¬ last < first :=
  Char.not_lt.mpr (Char.le_trans hFirst hLast)

@[simp] theorem lookup_empty
    (c : Char) :
    (empty : CharMap α).lookup c = none := by
  unfold lookup
  split
  · rfl
  · rfl

/- An assignment decides for its range and for nothing else. -/
theorem lookup_assign
    (m : CharMap α)
    (first last : Char)
    (value : Option α)
    (c : Char) :
    (m.assign first last value).lookup c =
      if first ≤ c ∧ c ≤ last then value
      else m.lookup c := by
  have hRange :
      first ≤ c ∧ c ≤ last ↔
        first.toNat ≤ c.toNat ∧ c.toNat ≤ last.toNat := Iff.rfl
  by_cases hInverted : last < first
  · have hOutside : ¬ (first ≤ c ∧ c ≤ last) :=
      fun h => not_lt_of_between h.1 h.2 hInverted
    rw [if_neg hOutside, assign, if_pos hInverted]
  · rw [assign, if_neg hInverted]
    dsimp only
    unfold lookup
    by_cases hSlot : c.toNat < directSize
    · rw [dif_pos hSlot, dif_pos hSlot]
      split <;> simp only [hRange]
    · rw [dif_neg hSlot, dif_neg hSlot]
      by_cases hInside : first ≤ c ∧ c ≤ last
      · have hHigh : ¬ last.toNat < directSize := by
          rw [hRange] at hInside
          omega
        have hFound :
            max first.toNat directSize ≤ c.toNat ∧
              c.toNat ≤ last.toNat := by
          rw [hRange] at hInside
          omega
        rw [if_neg hHigh, if_pos hInside]
        simp only [List.find?_cons, hFound, and_self,
          decide_true, Option.bind_some]
      · rw [if_neg hInside]
        split
        · rfl
        · have hMissed :
              ¬ (max first.toNat directSize ≤ c.toNat ∧
                c.toNat ≤ last.toNat) := by
            rw [hRange] at hInside
            omega
          simp only [List.find?_cons, hMissed, decide_false]

theorem lookup_add
    (m : CharMap α)
    (first last : Char)
    (value : α)
    (c : Char) :
    (m.add first last value).lookup c =
      if first ≤ c ∧ c ≤ last then some value
      else m.lookup c :=
  m.lookup_assign first last (some value) c

------------------------------------------------------------
-- Several Ranges
------------------------------------------------------------

/- Add ranges with their values, one after the other. -/
def addAll
    (m : CharMap α)
    (ranges : List (Char × Char × α)) : CharMap α :=
  ranges.foldl (fun m r => m.add r.1 r.2.1 r.2.2) m

/- A map answers with a range that was added to it. -/
theorem exists_of_lookup_addAll
    {ranges : List (Char × Char × α)}
    {m : CharMap α}
    {c : Char}
    {value : α}
    (hLookup : (m.addAll ranges).lookup c = some value) :
    (∃ r ∈ ranges, r.1 ≤ c ∧ c ≤ r.2.1 ∧ r.2.2 = value) ∨
      m.lookup c = some value := by
  induction ranges generalizing m with
  | nil => exact .inr hLookup
  | cons range ranges ih =>
      rcases ih hLookup with ⟨r, hMem, hRange⟩ | hBefore
      · exact .inl ⟨r, List.mem_cons_of_mem _ hMem, hRange⟩
      · dsimp only at hBefore
        rw [lookup_add] at hBefore
        split at hBefore
        · rename_i hInside
          exact .inl ⟨range, List.mem_cons_self, hInside.1,
            hInside.2, Option.some.inj hBefore⟩
        · exact .inr hBefore

/- A map answers where one of its ranges does. -/
theorem isSome_lookup_addAll
    {ranges : List (Char × Char × α)}
    {m : CharMap α}
    {c : Char}
    (hRange :
      (∃ r ∈ ranges, r.1 ≤ c ∧ c ≤ r.2.1) ∨
        (m.lookup c).isSome) :
    ((m.addAll ranges).lookup c).isSome := by
  induction ranges generalizing m with
  | nil =>
      rcases hRange with ⟨r, hMem, _⟩ | hSome
      · cases hMem
      · exact hSome
  | cons range ranges ih =>
      apply ih
      dsimp only
      rw [lookup_add]
      rcases hRange with ⟨r, hMem, hInside⟩ | hSome
      · rcases List.mem_cons.mp hMem with rfl | hLater
        · right
          rw [if_pos hInside]
          rfl
        · exact .inl ⟨r, hLater, hInside⟩
      · right
        split
        · rfl
        · exact hSome

/- Ranges do not count for characters outside of them. -/
theorem lookup_addAll_of_outside
    {ranges : List (Char × Char × α)}
    {m : CharMap α}
    {c : Char}
    (hOutside : ∀ r ∈ ranges, ¬ (r.1 ≤ c ∧ c ≤ r.2.1)) :
    (m.addAll ranges).lookup c = m.lookup c := by
  induction ranges generalizing m with
  | nil => rfl
  | cons range ranges ih =>
      have hFirst := hOutside range List.mem_cons_self
      have hLater :=
        ih (m := m.add range.1 range.2.1 range.2.2)
          fun r hMem => hOutside r (List.mem_cons_of_mem _ hMem)
      rw [lookup_add, if_neg hFirst] at hLater
      exact hLater

/- Of the ranges of a character the last one answers. -/
theorem lookup_addAll_last
    (m : CharMap α)
    (front back : List (Char × Char × α))
    {r : Char × Char × α}
    {c : Char}
    (hInside : r.1 ≤ c ∧ c ≤ r.2.1)
    (hOutside : ∀ r ∈ back, ¬ (r.1 ≤ c ∧ c ≤ r.2.1)) :
    (m.addAll (front ++ r :: back)).lookup c = some r.2.2 := by
  have hSplit :
      m.addAll (front ++ r :: back) =
        ((m.addAll front).add r.1 r.2.1 r.2.2).addAll back :=
    List.foldl_append
  rw [hSplit, lookup_addAll_of_outside hOutside, lookup_add,
    if_pos hInside]

end CharMap

namespace CharSet

theorem ofRanges_eq_addAll
    (ranges : List (Char × Char)) :
    ofRanges ranges =
      CharMap.empty.addAll
        (ranges.map fun r => (r.1, r.2, ())) := by
  rw [CharMap.addAll, List.foldl_map]
  rfl

/- A set of ranges has the characters of these. -/
theorem has_ofRanges
    (ranges : List (Char × Char))
    (c : Char) :
    (ofRanges ranges).has c ↔
      ∃ r ∈ ranges, r.1 ≤ c ∧ c ≤ r.2 := by
  rw [has, ofRanges_eq_addAll]
  constructor
  · intro hSome
    rcases Option.isSome_iff_exists.mp hSome with
      ⟨value, hLookup⟩
    rcases CharMap.exists_of_lookup_addAll hLookup with
      ⟨r, hMem, hFirst, hLast, _⟩ | hEmpty
    · rcases List.mem_map.mp hMem with ⟨r', hMem', rfl⟩
      exact ⟨r', hMem', hFirst, hLast⟩
    · rw [CharMap.lookup_empty] at hEmpty
      cases hEmpty
  · rintro ⟨r, hMem, hInside⟩
    apply CharMap.isSome_lookup_addAll
    exact .inl ⟨_, List.mem_map_of_mem hMem, hInside⟩

end CharSet

end Formula
