import Formula.Directory

/-
  Tables of named things.

  Whether names are the same is an equivalence.  Declaring a
  thing makes its name known and leaves the other names alone;
  a name that is known keeps its place, and a new one comes
  behind all others.

  Main statements:
    * `Directory.has_iff`
    * `Directory.has_put`
    * `Directory.has_putAll`
    * `Directory.entries_putAll_append`
-/

namespace Formula

------------------------------------------------------------
-- Names
------------------------------------------------------------

namespace SameName

theorem refl
    (a : String) :
    SameName a a :=
  Eq.refl _

theorem symm
    {a b : String}
    (hSame : SameName a b) :
    SameName b a :=
  Eq.symm hSame

theorem trans
    {a b c : String}
    (hFirst : SameName a b)
    (hSecond : SameName b c) :
    SameName a c :=
  Eq.trans hFirst hSecond

end SameName

namespace Directory

variable {α : Type}
variable {name : String}

------------------------------------------------------------
-- Lookup
------------------------------------------------------------

/- A name is declared if some entry has it. -/
theorem has_iff
    {d : Directory α} :
    d.has name = true ↔
      ∃ e ∈ d.entries, SameName e.name name := by
  rw [has, find?, List.find?_isSome]
  simp only [decide_eq_true_eq]

/- A name that is declared has a thing. -/
theorem get?_ne_none_of_has
    {d : Directory α}
    (hKnown : d.has name = true) :
    d.get? name ≠ none := by
  rw [get?, ne_eq, Option.map_eq_none_iff]
  exact Option.isSome_iff_ne_none.mp hKnown

/- A thing that is found belongs to an entry. -/
theorem exists_mem_of_get?
    {d : Directory α}
    {content : α}
    (hFound : d.get? name = some content) :
    ∃ e ∈ d.entries, e.content = content := by
  rcases Option.map_eq_some_iff.mp hFound with
    ⟨e, hEntry, hContent⟩
  exact ⟨e, List.mem_of_find?_eq_some hEntry, hContent⟩

------------------------------------------------------------
-- Declaring a Thing
------------------------------------------------------------

/- The names are the same when an entry keeps its name. -/
theorem exists_mem_replaceFirst_iff
    {f : Entry α → Entry α}
    (hName : ∀ e, SameName (f e).name name)
    (other : String)
    (es : List (Entry α)) :
    (∃ e ∈ replaceFirst name f es, SameName e.name other) ↔
      ∃ e ∈ es, SameName e.name other := by
  induction es with
  | nil => exact Iff.rfl
  | cons e es ih =>
      rw [replaceFirst]
      split
      · rename_i hFirst
        have hSame :
            SameName (f e).name other ↔
              SameName e.name other := by
          constructor
          · intro hOther
            exact hFirst.trans ((hName e).symm.trans hOther)
          · intro hOther
            exact (hName e).trans (hFirst.symm.trans hOther)
        simp only [List.mem_cons, exists_eq_or_imp, hSame]
      · simp only [List.mem_cons, exists_eq_or_imp, ih]

/- An entry is replaced where it is. -/
theorem replaceFirst_append
    {f : Entry α → Entry α}
    {old : List (Entry α)}
    (hNew : ∀ e ∈ old, ¬ SameName e.name name)
    (added : List (Entry α)) :
    replaceFirst name f (old ++ added) =
      old ++ replaceFirst name f added := by
  induction old with
  | nil => rfl
  | cons e old ih =>
      have hFirst := hNew e List.mem_cons_self
      have hRest := ih fun e' hMem =>
        hNew e' (List.mem_cons_of_mem _ hMem)
      rw [List.cons_append, replaceFirst, if_neg hFirst, hRest]
      rfl

theorem mem_of_mem_replaceFirst
    {f : Entry α → Entry α}
    {e : Entry α}
    {es : List (Entry α)}
    (hMem : e ∈ replaceFirst name f es) :
    e ∈ es ∨ ∃ e', e = f e' := by
  induction es with
  | nil => exact .inl hMem
  | cons e' es ih =>
      rw [replaceFirst] at hMem
      split at hMem
      · rcases List.mem_cons.mp hMem with hHere | hRest
        · exact .inr ⟨e', hHere⟩
        · exact .inl (List.mem_cons_of_mem _ hRest)
      · rcases List.mem_cons.mp hMem with hHere | hRest
        · exact .inl (List.mem_cons.mpr (.inl hHere))
        · rcases ih hRest with hOld | hNew
          · exact .inl (List.mem_cons_of_mem _ hOld)
          · exact .inr hNew

variable {content : α}

/- A name is known once it is declared, or if it was before. -/
theorem has_put
    {d : Directory α}
    {other : String} :
    (d.put name content).has other = true ↔
      SameName name other ∨ d.has other = true := by
  unfold put
  split
  · rename_i hKnown
    have hNames := exists_mem_replaceFirst_iff
      (f := fun _ : Entry α => ⟨name, content⟩)
      (fun _ => SameName.refl name) other d.entries
    rw [has_iff, has_iff, hNames]
    constructor
    · exact Or.inr
    · rintro (hOther | hOld)
      · rcases has_iff.mp hKnown with ⟨e, hMem, hSame⟩
        exact ⟨e, hMem, hSame.trans hOther⟩
      · exact hOld
  · rw [has_iff, has_iff]
    constructor
    · rintro ⟨e, hMem, hSame⟩
      rcases List.mem_append.mp hMem with hOld | hNew
      · exact .inr ⟨e, hOld, hSame⟩
      · rw [List.mem_singleton.mp hNew] at hSame
        exact .inl hSame
    · rintro (hOther | ⟨e, hMem, hSame⟩)
      · refine ⟨⟨name, content⟩, ?_, hOther⟩
        exact List.mem_append_right _
          (List.mem_singleton_self _)
      · exact ⟨e, List.mem_append_left _ hMem, hSame⟩

/- Entries under other names stay in front. -/
theorem entries_put_append
    {old : List (Entry α)}
    (hNew : ∀ e ∈ old, ¬ SameName e.name name)
    (added : List (Entry α)) :
    ((⟨old ++ added⟩ : Directory α).put name content).entries =
      old ++ ((⟨added⟩ : Directory α).put name
        content).entries := by
  have hHas :
      (⟨old ++ added⟩ : Directory α).has name =
        (⟨added⟩ : Directory α).has name := by
    rw [Bool.eq_iff_iff, has_iff, has_iff]
    constructor
    · rintro ⟨e, hMem, hSame⟩
      rcases List.mem_append.mp hMem with hOld | hAdded
      · exact absurd hSame (hNew e hOld)
      · exact ⟨e, hAdded, hSame⟩
    · rintro ⟨e, hMem, hSame⟩
      exact ⟨e, List.mem_append_right _ hMem, hSame⟩
  unfold put
  rw [hHas]
  split
  · exact replaceFirst_append hNew added
  · exact List.append_assoc _ _ _

theorem mem_of_mem_put
    {d : Directory α}
    {e : Entry α}
    (hMem : e ∈ (d.put name content).entries) :
    e ∈ d.entries ∨ e = ⟨name, content⟩ := by
  unfold put at hMem
  split at hMem
  · rcases mem_of_mem_replaceFirst hMem with hOld | ⟨_, hNew⟩
    · exact .inl hOld
    · exact .inr hNew
  · rcases List.mem_append.mp hMem with hOld | hNew
    · exact .inl hOld
    · exact .inr (List.mem_singleton.mp hNew)

------------------------------------------------------------
-- Declaring Several Things
------------------------------------------------------------

variable {entries : List (Entry α)}

theorem has_putAll
    {d : Directory α}
    {other : String} :
    (d.putAll entries).has other = true ↔
      (∃ e ∈ entries, SameName e.name other) ∨
        d.has other = true := by
  induction entries generalizing d with
  | nil =>
      constructor
      · exact Or.inr
      · rintro (⟨e, hMem, _⟩ | hOld)
        · cases hMem
        · exact hOld
  | cons e entries ih =>
      rw [putAll, List.foldl_cons, ← putAll, ih, has_put]
      simp only [List.mem_cons, exists_eq_or_imp]
      rw [or_left_comm, or_assoc]

/- Entries under other names stay in front of all others. -/
theorem entries_putAll_append
    {old : List (Entry α)}
    (hNew :
      ∀ n ∈ entries, ∀ e ∈ old, ¬ SameName e.name n.name)
    (added : List (Entry α)) :
    ((⟨old ++ added⟩ : Directory α).putAll entries).entries =
      old ++ ((⟨added⟩ : Directory α).putAll
        entries).entries := by
  induction entries generalizing added with
  | nil => rfl
  | cons n entries ih =>
      have hFirst := hNew n List.mem_cons_self
      have hRest := ih fun n' hMem =>
        hNew n' (List.mem_cons_of_mem _ hMem)
      have hPut :
          (⟨old ++ added⟩ : Directory α).put n.name n.content =
            ⟨old ++ ((⟨added⟩ : Directory α).put n.name
              n.content).entries⟩ :=
        congrArg Directory.mk (entries_put_append hFirst added)
      rw [putAll, List.foldl_cons, ← putAll, hPut, hRest]
      rfl

/- Nothing is found in a table that was not put there. -/
theorem mem_of_mem_putAll
    {d : Directory α}
    {e : Entry α}
    (hMem : e ∈ (d.putAll entries).entries) :
    e ∈ d.entries ∨ e ∈ entries := by
  induction entries generalizing d with
  | nil => exact .inl hMem
  | cons n entries ih =>
      rw [putAll, List.foldl_cons, ← putAll] at hMem
      rcases ih hMem with hPut | hLater
      · rcases mem_of_mem_put hPut with hOld | hNew
        · exact .inl hOld
        · exact .inr (List.mem_cons.mpr (.inl hNew))
      · exact .inr (List.mem_cons_of_mem _ hLater)

end Directory

end Formula
