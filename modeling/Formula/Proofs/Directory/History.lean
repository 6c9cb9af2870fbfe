import Formula.Proofs.Directory
import Formula.Function.Standard

/-
  The history of a table.

  A table starts without entries or as the standard library,
  and is edited.  An edit passes over the entries one by one:
  each stays in its place, as it is or changed, or is taken
  out.  An entry under a name that is new comes last.  So no
  name is ever in a table twice, whatever its letter case, and
  what is found under a name is what the edits that concern
  this name left there.

  Key definitions include:
    * `Directory.IsDistinct`
    * `Directory.IsInitial`
    * `Directory.Edit`
    * `Directory.perform`
    * `Directory.Edit.revise`
    * `Directory.Edit.added`
    * `Directory.Edit.replay`

  Main statements:
    * `Directory.entries_perform`
    * `Directory.find?_perform`
    * `Directory.isDistinct_performAll`
    * `Directory.find?_performAll`
    * `Directory.performAll_isOrderedMap`
-/

namespace Formula

namespace Directory

variable {α : Type}
variable {name : String}

------------------------------------------------------------
-- Distinct Names
------------------------------------------------------------

/- No two entries have the same name. -/
def IsDistinct
    (d : Directory α) : Prop :=
  d.names.Pairwise fun a b => ¬ SameName a b

theorem isDistinct_iff
    {d : Directory α} :
    d.IsDistinct ↔
      d.entries.Pairwise fun e e' =>
        ¬ SameName e.name e'.name :=
  List.pairwise_map

/- What tables are, before they are edited. -/
inductive IsInitial : {α : Type} → Directory α → Prop where
  | empty {α : Type} :
      IsInitial (Directory.empty : Directory α)
  | library (m : Moment) :
      IsInitial m.library

/- The library does not have a name twice. -/
theorem isDistinct_library
    (m : Moment) :
    m.library.IsDistinct := by
  have hNames :
      m.library.names =
        (Moment.library ⟨.epoch, 0⟩).names := rfl
  rw [IsDistinct, hNames]
  decide +kernel

theorem IsInitial.isDistinct
    {d : Directory α}
    (hInitial : d.IsInitial) :
    d.IsDistinct := by
  cases hInitial with
  | empty => exact List.Pairwise.nil
  | library m => exact isDistinct_library m

/- What a table without duplicates holds is found in it. -/
theorem get?_of_mem
    {d : Directory α}
    {e : Entry α}
    (hDistinct : d.IsDistinct)
    (hMem : e ∈ d.entries)
    (hName : SameName e.name name) :
    d.get? name = some e.content := by
  rcases List.append_of_mem hMem with ⟨before, after, hSplit⟩
  have hOthers := isDistinct_iff.mp hDistinct
  rw [hSplit, List.pairwise_append] at hOthers
  have hFound : d.find? name = some e := by
    apply List.find?_eq_some_iff_append.mpr
    refine ⟨decide_eq_true hName, before, after, hSplit, ?_⟩
    intro other hBefore
    have hApart :=
      hOthers.2.2 other hBefore e List.mem_cons_self
    rw [Bool.not_eq_true', decide_eq_false_iff_not]
    exact fun hSame => hApart (hSame.trans hName.symm)
  rw [get?, hFound]
  rfl

/- Every function of the library is found by its name. -/
theorem get?_library
    {m : Moment}
    {f : StandardFunction}
    (hMem : f ∈ m.functions)
    (hName : SameName f.name name) :
    m.library.get? name = some f.function :=
  get?_of_mem (e := ⟨f.name, f.function⟩)
    (isDistinct_library m) (List.mem_map_of_mem hMem) hName

/- The same is found in any letter case. -/
theorem find?_congr
    {other : String}
    (hSame : SameName name other)
    (d : Directory α) :
    d.find? name = d.find? other := by
  have hNames (e : Entry α) :
      SameName e.name name ↔ SameName e.name other :=
    ⟨fun hName => hName.trans hSame,
      fun hOther => hOther.trans hSame.symm⟩
  simp only [find?, hNames]

------------------------------------------------------------
-- One Entry of a Name
------------------------------------------------------------

variable {e : Entry α}
variable {es : List (Entry α)}

/- Nothing else has the name of an entry. -/
theorem not_sameName_of_distinct
    (hRest : ∀ e' ∈ es, ¬ SameName e.name e'.name)
    (hName : SameName e.name name) :
    ∀ e' ∈ es, ¬ SameName e'.name name :=
  fun e' hMem hOther =>
    hRest e' hMem (hName.trans hOther.symm)

/- To replace the first entry is to replace all of them. -/
theorem replaceFirst_eq_map
    (hDistinct :
      es.Pairwise fun e e' => ¬ SameName e.name e'.name)
    (f : Entry α → Entry α) :
    replaceFirst name f es =
      es.map fun e =>
        if SameName e.name name then f e else e := by
  induction es with
  | nil => rfl
  | cons e es ih =>
      rcases List.pairwise_cons.mp hDistinct with
        ⟨hFirst, hRest⟩
      rw [replaceFirst, List.map_cons]
      split
      · rename_i hName
        have hOthers := not_sameName_of_distinct hFirst hName
        have hSame :
            es.map (fun e =>
                if SameName e.name name then f e else e) =
              es.map id :=
          List.map_congr_left fun e' hMem =>
            if_neg (hOthers e' hMem)
        rw [hSame, List.map_id]
      · rw [ih hRest]

/- To take out the first entry is to take out all of them. -/
theorem eraseP_eq_filter
    (hDistinct :
      es.Pairwise fun e e' => ¬ SameName e.name e'.name) :
    es.eraseP (fun e => SameName e.name name) =
      es.filter fun e => ¬ SameName e.name name := by
  induction es with
  | nil => rfl
  | cons e es ih =>
      rcases List.pairwise_cons.mp hDistinct with
        ⟨hFirst, hRest⟩
      by_cases hName : SameName e.name name
      · have hOthers := not_sameName_of_distinct hFirst hName
        have hRestKept :
            es.filter (fun e => ¬ SameName e.name name) = es :=
          List.filter_eq_self.mpr fun e' hMem =>
            decide_eq_true (hOthers e' hMem)
        simp only [List.eraseP_cons, List.filter_cons, hName,
          decide_true, not_true, decide_false, cond_true,
          Bool.false_eq_true, if_false, hRestKept]
      · simp only [List.eraseP_cons, List.filter_cons, hName,
          decide_false, not_false_eq_true, decide_true,
          cond_false, if_true, ih hRest]

------------------------------------------------------------
-- Edits
------------------------------------------------------------

/-
  What is done with a table: declare a thing, locate a name
  or else declare it, change the thing under a name, remove a
  name, remove everything, or replace all things.  What has
  been located is changed under its name.
-/
inductive Edit (α : Type) where
  | put (name : String) (content : α)
  | locate (name : String) (content : α)
  | set (name : String) (content : α)
  | remove (name : String)
  | clear
  | fill (content : α)

/- The table after an edit. -/
def perform
    (d : Directory α) : Edit α → Directory α
  | .put name content => d.put name content
  | .locate name content => d.locate name content
  | .set name content => d.set name content
  | .remove name => d.remove name
  | .clear => empty
  | .fill content => d.fill content

/- The table after some edits, one after the other. -/
def performAll
    (d : Directory α)
    (edits : List (Edit α)) : Directory α :=
  edits.foldl perform d

namespace Edit

/-
  What becomes of an entry.  Only a declaration respells its
  name.
-/
def revise : Edit α → Entry α → Option (Entry α)
  | .put name content, e =>
      some (if SameName e.name name then ⟨name, content⟩
        else e)
  | .locate _ _, e => some e
  | .set name content, e =>
      some (if SameName e.name name then ⟨e.name, content⟩
        else e)
  | .remove name, e =>
      if SameName e.name name then none else some e
  | .clear, _ => none
  | .fill content, e => some ⟨e.name, content⟩

/- The entry that is there afterwards if its name is new. -/
def declared? : Edit α → Option (Entry α)
  | .put name content | .locate name content =>
      some ⟨name, content⟩
  | _ => none

/- The entry, if any, that comes behind those of a table. -/
def added
    (edit : Edit α)
    (d : Directory α) : List (Entry α) :=
  (edit.declared?.filter fun e => !d.has e.name).toList

/- What is found under a name, given what was found there. -/
def entryUnder
    (name : String)
    (edit : Edit α) : Option (Entry α) → Option (Entry α)
  | some e => edit.revise e
  | none =>
      edit.declared?.filter fun e => SameName e.name name

/- What is found under a name after some edits. -/
def replay
    (name : String)
    (edits : List (Edit α))
    (old : Option (Entry α)) : Option (Entry α) :=
  edits.foldl (fun found edit => edit.entryUnder name found) old

/- An entry comes last if its name is not there yet. -/
theorem added_of_declared
    {edit : Edit α}
    (hDeclared : edit.declared? = some e)
    (d : Directory α) :
    edit.added d = if d.has e.name then [] else [e] := by
  rw [added, hDeclared, Option.filter_some]
  cases d.has e.name <;> rfl

/- At most one entry comes last, and its name is new. -/
theorem added_cases
    (edit : Edit α)
    (d : Directory α) :
    edit.added d = [] ∨
      ∃ e, edit.added d = [e] ∧ d.has e.name ≠ true := by
  cases hDeclared : edit.declared? with
  | none =>
      rw [added, hDeclared]
      exact .inl rfl
  | some e =>
      rw [added_of_declared hDeclared]
      split
      · exact .inl rfl
      · rename_i hNew
        exact .inr ⟨e, rfl, hNew⟩

/- A name is respelled at most. -/
theorem sameName_of_revise
    {edit : Edit α}
    {e' : Entry α}
    (hRevise : edit.revise e = some e') :
    SameName e'.name e.name := by
  cases edit with
  | put name content =>
      cases hRevise
      split
      · rename_i hName
        exact hName.symm
      · exact SameName.refl _
  | locate name content =>
      cases hRevise
      exact SameName.refl _
  | set name content =>
      cases hRevise
      split <;> exact SameName.refl _
  | remove name =>
      rw [revise] at hRevise
      split at hRevise
      · cases hRevise
      · cases hRevise
        exact SameName.refl _
  | clear => cases hRevise
  | fill content =>
      cases hRevise
      exact SameName.refl _

end Edit

------------------------------------------------------------
-- The Entries after an Edit
------------------------------------------------------------

variable {d : Directory α}

/- A name that is not declared is in no entry. -/
theorem not_sameName_of_not_has
    (hNew : d.has name ≠ true) :
    ∀ e ∈ d.entries, ¬ SameName e.name name :=
  fun e hMem hName => hNew (has_iff.mpr ⟨e, hMem, hName⟩)

/- Nothing is replaced under a name that is not declared. -/
theorem replaceFirst_of_not_has
    (hNew : d.has name ≠ true)
    (f : Entry α → Entry α) :
    replaceFirst name f d.entries = d.entries := by
  have hAll :=
    replaceFirst_append (f := f)
      (not_sameName_of_not_has hNew) []
  simpa only [List.append_nil, replaceFirst] using hAll

theorem entries_put
    (hDistinct : d.IsDistinct)
    (name : String)
    (content : α) :
    (d.put name content).entries =
      d.entries.filterMap (Edit.put name content).revise ++
        (Edit.put name content).added d := by
  have hRevised :
      d.entries.filterMap (Edit.put name content).revise =
        replaceFirst name (fun _ => ⟨name, content⟩)
          d.entries := by
    rw [replaceFirst_eq_map (isDistinct_iff.mp hDistinct)]
    exact congrFun List.filterMap_eq_map _
  rw [hRevised, put, Edit.added_of_declared rfl]
  by_cases hKnown : d.has name = true
  · rw [if_pos hKnown, if_pos hKnown, List.append_nil]
  · rw [if_neg hKnown, if_neg hKnown,
      replaceFirst_of_not_has hKnown]

/- To locate a name changes no entry. -/
theorem entries_locate
    (d : Directory α)
    (name : String)
    (content : α) :
    (d.locate name content).entries =
      d.entries ++ (Edit.locate name content).added d := by
  rw [locate, Edit.added_of_declared rfl]
  split
  · exact (List.append_nil _).symm
  · rfl

theorem entries_set
    (hDistinct : d.IsDistinct)
    (name : String)
    (content : α) :
    (d.set name content).entries =
      d.entries.filterMap (Edit.set name content).revise := by
  rw [set, replaceFirst_eq_map (isDistinct_iff.mp hDistinct)]
  exact (congrFun List.filterMap_eq_map _).symm

theorem entries_remove
    (hDistinct : d.IsDistinct)
    (name : String) :
    (d.remove name).entries =
      d.entries.filterMap
        (Edit.remove name : Edit α).revise := by
  have hRevise :
      (Edit.remove name : Edit α).revise =
        Option.guard fun e => ¬ SameName e.name name := by
    funext e
    by_cases hName : SameName e.name name <;>
      simp [Edit.revise, Option.guard, hName]
  rw [remove, eraseP_eq_filter (isDistinct_iff.mp hDistinct),
    hRevise, List.filterMap_eq_filter]

/-
  In a table without repeated names, entries keep their
  places, and one that is new comes last.
-/
theorem entries_perform
    (hDistinct : d.IsDistinct)
    (edit : Edit α) :
    (d.perform edit).entries =
      d.entries.filterMap edit.revise ++ edit.added d := by
  cases edit with
  | put name content => exact entries_put hDistinct name content
  | locate name content =>
      have hKept :
          d.entries.filterMap
              (Edit.locate name content).revise =
            d.entries :=
        List.filterMap_some
      rw [hKept]
      exact entries_locate d name content
  | set name content =>
      rw [← entries_set hDistinct]
      exact (List.append_nil _).symm
  | remove name =>
      rw [← entries_remove hDistinct]
      exact (List.append_nil _).symm
  | clear =>
      have hNone :
          d.entries.filterMap (Edit.clear : Edit α).revise =
            [] :=
        List.filterMap_eq_nil_iff.mpr fun _ _ => rfl
      rw [hNone]
      rfl
  | fill content =>
      have hFilled :
          d.entries.filterMap (Edit.fill content).revise =
            (d.fill content).entries :=
        congrFun List.filterMap_eq_map _
      rw [hFilled]
      exact (List.append_nil _).symm

/- Revised entries have the names that the entries had. -/
theorem exists_mem_of_mem_filterMap_revise
    {edit : Edit α}
    (hMem : e ∈ es.filterMap edit.revise) :
    ∃ old ∈ es, SameName e.name old.name := by
  rcases List.mem_filterMap.mp hMem with ⟨old, hOld, hRevise⟩
  exact ⟨old, hOld, Edit.sameName_of_revise hRevise⟩

/- An edit does not bring a name in twice. -/
theorem isDistinct_perform
    (hDistinct : d.IsDistinct)
    (edit : Edit α) :
    (d.perform edit).IsDistinct := by
  have hRevised :
      (d.entries.filterMap edit.revise).Pairwise fun e e' =>
        ¬ SameName e.name e'.name := by
    apply (isDistinct_iff.mp hDistinct).filterMap
    intro e₁ e₂ hDiffer e₁' hFirst e₂' hSecond hSame
    have hName₁ := Edit.sameName_of_revise hFirst
    have hName₂ := Edit.sameName_of_revise hSecond
    exact hDiffer (hName₁.symm.trans (hSame.trans hName₂))
  rw [isDistinct_iff, entries_perform hDistinct]
  rcases edit.added_cases d with hNone | ⟨e, hAdded, hNew⟩
  · rw [hNone, List.append_nil]
    exact hRevised
  · rw [hAdded, List.pairwise_append]
    refine ⟨hRevised, List.pairwise_singleton _ _, ?_⟩
    intro e₁ hMem e' hLast hSame
    cases List.mem_singleton.mp hLast
    rcases exists_mem_of_mem_filterMap_revise hMem with
      ⟨old, hOld, hName⟩
    exact not_sameName_of_not_has hNew old hOld
      (hName.symm.trans hSame)

------------------------------------------------------------
-- Lookup after an Edit
------------------------------------------------------------

/- A name without an entry is not found. -/
theorem find?_eq_none_of_not_sameName
    (hOthers : ∀ e ∈ es, ¬ SameName e.name name) :
    es.find? (fun e => SameName e.name name) = none := by
  rw [List.find?_eq_none]
  intro e hMem hName
  exact hOthers e hMem (of_decide_eq_true hName)

/- What is found among revised entries is found and revised. -/
theorem find?_filterMap_revise
    (hDistinct :
      es.Pairwise fun e e' => ¬ SameName e.name e'.name)
    (edit : Edit α)
    (name : String) :
    (es.filterMap edit.revise).find?
        (fun e => SameName e.name name) =
      (es.find? fun e => SameName e.name name).bind
        edit.revise := by
  induction es with
  | nil => rfl
  | cons e es ih =>
      rcases List.pairwise_cons.mp hDistinct with
        ⟨hFirst, hRest⟩
      rw [List.filterMap_cons, List.find?_cons]
      by_cases hName : SameName e.name name
      · have hNone :
            (es.filterMap edit.revise).find?
                (fun e => SameName e.name name) =
              none := by
          apply find?_eq_none_of_not_sameName
          intro e' hMem hOther
          rcases exists_mem_of_mem_filterMap_revise hMem with
            ⟨old, hOld, hSame⟩
          exact not_sameName_of_distinct hFirst hName old hOld
            (hSame.symm.trans hOther)
        simp only [hName, decide_true, Option.bind_some]
        cases hRevise : edit.revise e with
        | none => exact hNone
        | some e' =>
            have hSame := Edit.sameName_of_revise hRevise
            exact List.find?_cons_of_pos
              (decide_eq_true (hSame.trans hName))
      · simp only [hName, decide_false]
        cases hRevise : edit.revise e with
        | none => exact ih hRest
        | some e' =>
            have hSame := Edit.sameName_of_revise hRevise
            have hOther : ¬ SameName e'.name name :=
              fun hName' => hName (hSame.symm.trans hName')
            dsimp only
            rw [List.find?_cons_of_neg (by simpa using hOther)]
            exact ih hRest

/- An entry that comes last is found under a new name. -/
theorem find?_added
    (edit : Edit α)
    (d : Directory α) :
    (edit.added d).find? (fun e => SameName e.name name) =
      if d.has name then none
      else edit.declared?.filter fun e =>
        SameName e.name name := by
  cases hDeclared : edit.declared? with
  | none =>
      rw [Edit.added, hDeclared]
      exact (ite_self none).symm
  | some e =>
      rw [Edit.added_of_declared hDeclared, Option.filter_some]
      by_cases hName : SameName e.name name
      · have hHas : d.has e.name = d.has name := by
          rw [has, has, find?_congr hName]
        simp only [hHas, hName, decide_true, if_true]
        split
        · rfl
        · exact List.find?_cons_of_pos (decide_eq_true hName)
      · simp only [hName, decide_false, Bool.false_eq_true,
          if_false, ite_self]
        apply find?_eq_none_of_not_sameName
        intro e' hMem
        split at hMem
        · cases hMem
        · cases List.mem_singleton.mp hMem
          exact hName

/- What an edit does to what is found under a name. -/
theorem find?_perform
    (hDistinct : d.IsDistinct)
    (edit : Edit α) :
    (d.perform edit).find? name =
      edit.entryUnder name (d.find? name) := by
  have hRevised :=
    find?_filterMap_revise (isDistinct_iff.mp hDistinct)
      edit name
  rw [find?, entries_perform hDistinct, List.find?_append,
    hRevised, find?_added, has, ← find?]
  cases d.find? name with
  | none => exact Option.none_or
  | some e => exact Option.or_none

------------------------------------------------------------
-- Histories
------------------------------------------------------------

/- No history brings a name in twice. -/
theorem isDistinct_performAll
    (hDistinct : d.IsDistinct)
    (edits : List (Edit α)) :
    (d.performAll edits).IsDistinct := by
  induction edits generalizing d with
  | nil => exact hDistinct
  | cons edit edits ih =>
      exact ih (isDistinct_perform hDistinct edit)

/- Under each name is what the edits have left there. -/
theorem find?_performAll
    (hDistinct : d.IsDistinct)
    (edits : List (Edit α)) :
    (d.performAll edits).find? name =
      Edit.replay name edits (d.find? name) := by
  induction edits generalizing d with
  | nil => rfl
  | cons edit edits ih =>
      have hRest := ih (isDistinct_perform hDistinct edit)
      rw [find?_perform hDistinct] at hRest
      exact hRest

/-
  However a new table or the library is edited, no two entries
  have the same name; what is found under a name, in whatever
  letter case, is what the edits have left there; and a further
  edit keeps the entries in their places, respells or takes out
  no other than those that it names, and puts what is new
  behind them.
-/
theorem performAll_isOrderedMap
    {start : Directory α}
    (hInitial : start.IsInitial)
    (edits : List (Edit α)) :
    let d := start.performAll edits
    d.IsDistinct ∧
    (∀ name,
      d.find? name =
        Edit.replay name edits (start.find? name)) ∧
    (∀ name other, SameName name other →
      d.find? name = d.find? other) ∧
    (∀ edit,
      (d.perform edit).entries =
        d.entries.filterMap edit.revise ++ edit.added d) := by
  intro d
  have hDistinct : d.IsDistinct :=
    isDistinct_performAll hInitial.isDistinct edits
  refine ⟨hDistinct, ?_, ?_, ?_⟩
  · intro name
    exact find?_performAll hInitial.isDistinct edits
  · intro name other hSame
    exact find?_congr hSame d
  · intro edit
    exact entries_perform hDistinct edit

/- Names in several spellings. -/
def priceEdits : List (Edit Value) :=
  [ .put "price" (.integer 12),
    .put "tax" (.integer 3),
    .locate "PRICE" .null,
    .set "TAX" (.integer 4),
    .put "total" .null,
    .remove "Total",
    .put "PRICE" (.integer 15) ]

/- The price is declared once more, and stays in front. -/
theorem performAll_isOrderedMap_price :
    let d := empty.performAll priceEdits
    d.IsDistinct ∧
    d.names = ["PRICE", "tax"] ∧
    d.find? "Price" = some ⟨"PRICE", .integer 15⟩ ∧
    d.find? "Tax" = some ⟨"tax", .integer 4⟩ ∧
    (d.perform (.remove "price")).entries =
      [⟨"tax", .integer 4⟩] := by
  intro d
  have hInitial : (empty : Directory Value).IsInitial :=
    .empty
  have hMap := performAll_isOrderedMap hInitial priceEdits
  refine ⟨hMap.1, rfl, ?_, ?_, ?_⟩
  · exact (hMap.2.1 "Price").trans rfl
  · exact (hMap.2.1 "Tax").trans rfl
  · exact (hMap.2.2.2 (.remove "price")).trans rfl

end Directory

end Formula
