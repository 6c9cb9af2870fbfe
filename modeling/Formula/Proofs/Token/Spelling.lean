import Formula.Token.Preset

/-
  The spellings that a tree of symbols holds.

  Entering a spelling changes the kind of that spelling, may
  turn its first character into a symbol, and leaves all other
  spellings alone.  A symbol that is read is the longest spelling
  of the tree, or else a single character.

  Key definitions include:
    * `SymbolTree.kindOf?`
    * `SymbolTree.ofEntries`

  Main statements:
    * `SymbolTree.kindOf?_add`
    * `SymbolTree.kindOf?_ofEntries`
    * `SymbolTree.exists_of_read`
    * `SymbolTree.length_le_length_read`
    * `SymbolTree.read_congr`
-/

namespace Formula

namespace SymbolTree

------------------------------------------------------------
-- Spellings of a Tree
------------------------------------------------------------

/- The kind of a spelling, if the tree holds it. -/
def kindOf? : SymbolTree → List Char → Option TokenKind
  | t, [] => t.kind?
  | t, c :: rest => (t.child? c).bind fun s => s.kindOf? rest

/- The tree that some spellings were entered into in turn. -/
def ofEntries
    (entries : List (List Char × TokenKind)) : SymbolTree :=
  entries.foldl (fun t e => t.add e.1 e.2) .empty

theorem kindOf?_empty
    (spelling : List Char) :
    empty.kindOf? spelling = none := by
  cases spelling <;> rfl

@[simp] theorem kind?_setChild
    (t s : SymbolTree)
    (c : Char) :
    (t.setChild c s).kind? = t.kind? := rfl

theorem child?_setChild
    (t s : SymbolTree)
    (c d : Char) :
    (t.setChild c s).child? d =
      if d = c then some s else t.child? d := by
  unfold child? setChild children
  rw [List.lookup_cons]
  by_cases hSame : d = c
  · subst hSame
    simp
  · have hOther : (d == c) = false := by simpa using hSame
    rw [hOther, if_neg hSame]
    cases t with
    | node kind children =>
        dsimp only
        induction children with
        | nil => rfl
        | cons entry children ih =>
            rcases entry with ⟨e, r⟩
            rw [List.filter_cons, List.lookup_cons]
            by_cases hEntry : e = c
            · subst hEntry
              simpa [hOther] using ih
            · by_cases hFound : d = e
              · subst hFound
                simp [hEntry]
              · have hElse : (d == e) = false := by
                  simpa using hFound
                simpa [hEntry, List.lookup_cons, hElse] using ih

/- A tree that is entered goes on with what stood there. -/
theorem kindOf?_child
    (t : SymbolTree)
    (c : Char)
    (rest : List Char) :
    ((t.child? c).getD empty).kindOf? rest =
      t.kindOf? (c :: rest) := by
  rw [kindOf?]
  cases t.child? c with
  | none => exact kindOf?_empty rest
  | some s => rfl

theorem kindOf?_setChild
    (t s : SymbolTree)
    (c : Char)
    (spelling : List Char) :
    (t.setChild c s).kindOf? spelling =
      if spelling.head? = some c then s.kindOf? spelling.tail
      else t.kindOf? spelling := by
  cases spelling with
  | nil => rfl
  | cons d rest =>
      rw [kindOf?, child?_setChild, kindOf?]
      by_cases hSame : d = c
      · simp [hSame]
      · simp [hSame]

theorem kindOf?_mark
    (t : SymbolTree)
    (k : TokenKind)
    (spelling : List Char) :
    (t.mark k).kindOf? spelling =
      if spelling = [] then some k else t.kindOf? spelling := by
  cases spelling with
  | nil => rfl
  | cons c rest => rfl

/- The entered spelling has the new kind. -/
theorem kindOf?_insert
    (t : SymbolTree)
    (k : TokenKind)
    (entered spelling : List Char) :
    (t.insert k entered).kindOf? spelling =
      if spelling = entered then some k
      else t.kindOf? spelling := by
  induction entered generalizing t spelling with
  | nil => exact kindOf?_mark t k spelling
  | cons c entered ih =>
      rw [insert, kindOf?_setChild]
      cases spelling with
      | nil => simp
      | cons d rest =>
          by_cases hSame : d = c
          · subst hSame
            simp [ih, kindOf?_child]
          · simp [hSame]

/- What a first character becomes, from the kind it had. -/
def firstKind : Option TokenKind → TokenKind
  | none => .symbol
  | some .unknown => .symbol
  | some k => k

/- A first character keeps its kind or becomes a symbol. -/
theorem firstKind_eq
    (kind : Option TokenKind) :
    firstKind kind = .symbol ∨ kind = some (firstKind kind) := by
  cases kind with
  | none => exact .inl rfl
  | some k =>
      cases k with
      | unknown => exact .inl rfl
      | _ => exact .inr rfl

theorem markFirst_eq_mark
    (t : SymbolTree) :
    t.markFirst = t.mark (firstKind t.kind?) := by
  cases t with
  | node kind children =>
      cases kind with
      | none => rfl
      | some k => cases k <;> rfl

/-
  Entering a spelling concerns that spelling and its first
  character only.
-/
theorem kindOf?_add
    (t : SymbolTree)
    (c : Char)
    (rest : List Char)
    (k : TokenKind)
    (spelling : List Char) :
    (t.add (c :: rest) k).kindOf? spelling =
      if spelling = c :: rest then some k
      else if spelling = [c] then
        some (firstKind (t.kindOf? [c]))
      else t.kindOf? spelling := by
  rw [add, kindOf?_setChild]
  cases spelling with
  | nil => simp
  | cons d spelling =>
      by_cases hSame : d = c
      · subst hSame
        have hFirst := t.kindOf?_child d []
        rw [kindOf?] at hFirst
        simp [kindOf?_insert, markFirst_eq_mark, kindOf?_mark,
          kindOf?_child, hFirst]
      · simp [hSame]

/- A kind of the tree is new, a symbol, or was there before. -/
theorem exists_of_kindOf?_add
    {t : SymbolTree}
    {entered spelling : List Char}
    {k k' : TokenKind}
    (hKind : (t.add entered k).kindOf? spelling = some k') :
    k' = .symbol ∨ k' = k ∨ ∃ s, t.kindOf? s = some k' := by
  cases entered with
  | nil => exact .inr (.inr ⟨spelling, hKind⟩)
  | cons c rest =>
      rw [kindOf?_add] at hKind
      split at hKind
      · exact .inr (.inl (Option.some.inj hKind).symm)
      · split at hKind
        · have hFirst := Option.some.inj hKind
          rcases firstKind_eq (t.kindOf? [c]) with
            hSymbol | hBefore
          · exact .inl (hFirst.symm.trans hSymbol)
          · rw [hFirst] at hBefore
            exact .inr (.inr ⟨[c], hBefore⟩)
        · exact .inr (.inr ⟨spelling, hKind⟩)

/- Kinds are entered, symbols, or were there at the start. -/
theorem exists_of_kindOf?_foldl
    {entries : List (List Char × TokenKind)}
    {t : SymbolTree}
    {spelling : List Char}
    {k : TokenKind}
    (hKind :
      (entries.foldl (fun t e => t.add e.1 e.2) t).kindOf?
        spelling = some k) :
    k = .symbol ∨ (∃ e ∈ entries, e.2 = k) ∨
      ∃ s, t.kindOf? s = some k := by
  induction entries generalizing t with
  | nil => exact .inr (.inr ⟨spelling, hKind⟩)
  | cons entry entries ih =>
      rcases ih hKind with hSymbol | ⟨e, hMem, hEntry⟩ | hStart
      · exact .inl hSymbol
      · exact .inr (.inl ⟨e, List.mem_cons_of_mem _ hMem, hEntry⟩)
      · rcases hStart with ⟨s, hAdded⟩
        rcases exists_of_kindOf?_add hAdded with
          hSymbol | hNew | hOld
        · exact .inl hSymbol
        · exact .inr (.inl ⟨entry, List.mem_cons_self, hNew.symm⟩)
        · exact .inr (.inr hOld)

/- What a tree holds was there, or begins what was entered. -/
theorem exists_entry_of_kindOf?_foldl
    {entries : List (List Char × TokenKind)}
    {t : SymbolTree}
    {spelling : List Char}
    (hKind :
      ((entries.foldl (fun t e => t.add e.1 e.2) t).kindOf?
        spelling).isSome) :
    (∃ e ∈ entries, spelling <+: e.1) ∨
      (t.kindOf? spelling).isSome := by
  induction entries generalizing t with
  | nil => exact .inr hKind
  | cons entry entries ih =>
      rcases ih hKind with ⟨e, hMem, hEntry⟩ | hStart
      · exact .inl ⟨e, List.mem_cons_of_mem _ hMem, hEntry⟩
      · rcases entry with ⟨_ | ⟨c, rest⟩, k⟩
        · exact .inr hStart
        · dsimp only at hStart
          rw [kindOf?_add] at hStart
          split at hStart
          · rename_i hSame
            refine .inl ⟨_, List.mem_cons_self, ?_⟩
            exact ⟨[], by rw [hSame, List.append_nil]⟩
          · split at hStart
            · rename_i hFirst
              refine .inl ⟨_, List.mem_cons_self, ?_⟩
              exact ⟨rest, by rw [hFirst]; rfl⟩
            · exact .inr hStart

/- What a tree holds begins a spelling that was entered. -/
theorem exists_entry_of_kindOf?
    {entries : List (List Char × TokenKind)}
    {spelling : List Char}
    (hKind : ((ofEntries entries).kindOf? spelling).isSome) :
    ∃ e ∈ entries, spelling <+: e.1 := by
  rcases exists_entry_of_kindOf?_foldl hKind with
    hEntry | hEmpty
  · exact hEntry
  · rw [kindOf?_empty] at hEmpty
    cases hEmpty

/- The kinds of a tree are those entered, or plain symbols. -/
theorem kindOf?_ofEntries
    {entries : List (List Char × TokenKind)}
    {spelling : List Char}
    {k : TokenKind}
    (hKind : (ofEntries entries).kindOf? spelling = some k) :
    k = .symbol ∨ ∃ e ∈ entries, e.2 = k := by
  rcases exists_of_kindOf?_foldl hKind with
    hSymbol | hEntry | ⟨s, hOld⟩
  · exact .inl hSymbol
  · exact .inr hEntry
  · rw [kindOf?_empty] at hOld
    cases hOld

------------------------------------------------------------
-- Reading
------------------------------------------------------------

/- The longest spelling found is one, in front of the text. -/
theorem longest?_eq_some
    {t : SymbolTree}
    {text : List Char}
    {p : Piece}
    (hLongest : t.longest? text = some p) :
    p.text <+: text ∧ t.kindOf? p.text = some p.kind := by
  induction text generalizing t p with
  | nil =>
      rcases Option.map_eq_some_iff.mp hLongest with
        ⟨k, hKind, rfl⟩
      exact ⟨List.nil_prefix, hKind⟩
  | cons c rest ih =>
      rw [longest?] at hLongest
      split at hLongest
      · rename_i q hChild
        cases hLongest
        rcases Option.bind_eq_some_iff.mp hChild with
          ⟨s, hStep, hFound⟩
        rcases ih hFound with ⟨hPrefix, hKind⟩
        refine ⟨?_, ?_⟩
        · exact (List.prefix_cons_inj c).mpr hPrefix
        · rw [kindOf?, hStep]
          exact hKind
      · rcases Option.map_eq_some_iff.mp hLongest with
          ⟨k, hKind, rfl⟩
        exact ⟨List.nil_prefix, hKind⟩

/- No spelling in front of the text is longer than that found. -/
theorem exists_longest?
    {t : SymbolTree}
    {text spelling : List Char}
    (hPrefix : spelling <+: text)
    (hSpelling : (t.kindOf? spelling).isSome) :
    ∃ p, t.longest? text = some p ∧
      spelling.length ≤ p.text.length := by
  induction text generalizing t spelling with
  | nil =>
      cases List.prefix_nil.mp hPrefix
      rcases Option.isSome_iff_exists.mp hSpelling with
        ⟨k, hKind⟩
      exact ⟨⟨k, []⟩, congrArg _ hKind, Nat.le_refl _⟩
  | cons c rest ih =>
      rw [longest?]
      cases spelling with
      | nil =>
          rcases Option.isSome_iff_exists.mp hSpelling with
            ⟨k, hKind⟩
          split
          · exact ⟨_, rfl, Nat.zero_le _⟩
          · exact ⟨⟨k, []⟩, congrArg _ hKind, Nat.le_refl _⟩
      | cons d spelling =>
          rcases List.cons_prefix_cons.mp hPrefix with
            ⟨rfl, hRest⟩
          rw [kindOf?] at hSpelling
          cases hStep : t.child? d with
          | none =>
              rw [hStep] at hSpelling
              cases hSpelling
          | some s =>
              rw [hStep] at hSpelling
              rcases ih hRest hSpelling with
                ⟨p, hFound, hLength⟩
              rw [Option.bind_some, hFound]
              exact ⟨_, rfl, Nat.succ_le_succ hLength⟩

/-
  Of two texts that begin with the same spellings the longest
  one is the same.
-/
theorem longest?_congr
    {t : SymbolTree}
    {text text' : List Char}
    (hSame :
      ∀ spelling, (t.kindOf? spelling).isSome →
        (spelling <+: text ↔ spelling <+: text')) :
    t.longest? text = t.longest? text' := by
  have hHeld {text : List Char} {p : Piece}
      (hFound : t.longest? text = some p) :
      (t.kindOf? p.text).isSome := by
    rw [(longest?_eq_some hFound).2]
    rfl
  cases hFirst : t.longest? text with
  | none =>
      cases hSecond : t.longest? text' with
      | none => rfl
      | some q =>
          have hPrefix := (hSame _ (hHeld hSecond)).mpr
            (longest?_eq_some hSecond).1
          rcases exists_longest? hPrefix (hHeld hSecond) with
            ⟨p, hFound, _⟩
          cases hFirst.symm.trans hFound
  | some p =>
      have hPrefix := (hSame _ (hHeld hFirst)).mp
        (longest?_eq_some hFirst).1
      rcases exists_longest? hPrefix (hHeld hFirst) with
        ⟨q, hSecond, hLength⟩
      have hPrefix' := (hSame _ (hHeld hSecond)).mpr
        (longest?_eq_some hSecond).1
      rcases exists_longest? hPrefix' (hHeld hSecond) with
        ⟨p', hFound, hLength'⟩
      cases hFirst.symm.trans hFound
      have hText : p.text = q.text :=
        (List.prefix_of_prefix_length_le hPrefix
          (longest?_eq_some hSecond).1 hLength).eq_of_length
            (Nat.le_antisymm hLength hLength')
      have hKind := (longest?_eq_some hFirst).2
      rw [hText, (longest?_eq_some hSecond).2] at hKind
      rw [hSecond]
      rcases p with ⟨kind, text⟩
      rcases q with ⟨kind', text'⟩
      cases hText
      cases hKind
      rfl

/-
  A symbol that is read is a spelling of the tree, or else a
  single character of no spelling.
-/
theorem exists_of_read
    (t : SymbolTree)
    (c : Char)
    (rest : List Char) :
    ∃ more, more <+: rest ∧ (t.read (c :: rest)).text = c :: more ∧
      (t.read (c :: rest) = ⟨.symbol, [c]⟩ ∨
        t.kindOf? (c :: more) =
          some (t.read (c :: rest)).kind) := by
  rw [read]
  split
  · rename_i p hChild
    rcases Option.bind_eq_some_iff.mp hChild with
      ⟨s, hStep, hFound⟩
    rcases longest?_eq_some hFound with ⟨hPrefix, hKind⟩
    refine ⟨p.text, hPrefix, rfl, .inr ?_⟩
    rw [kindOf?, hStep]
    exact hKind
  · exact ⟨[], List.nil_prefix, rfl, .inl rfl⟩

/- A symbol is as long as any spelling in front of the text. -/
theorem length_le_length_read
    {t : SymbolTree}
    {c : Char}
    {rest spelling : List Char}
    (hPrefix : spelling <+: rest)
    (hSpelling : (t.kindOf? (c :: spelling)).isSome) :
    spelling.length + 1 ≤
      (t.read (c :: rest)).text.length := by
  rw [kindOf?] at hSpelling
  cases hStep : t.child? c with
  | none =>
      rw [hStep] at hSpelling
      cases hSpelling
  | some s =>
      rw [hStep] at hSpelling
      rcases exists_longest? hPrefix hSpelling with
        ⟨p, hFound, hLength⟩
      rw [read, hStep, Option.bind_some, hFound]
      exact Nat.succ_le_succ hLength

/-
  Of two texts that begin with the same spellings the same
  symbol is read.
-/
theorem read_congr
    {t : SymbolTree}
    {c : Char}
    {rest rest' : List Char}
    (hSame :
      ∀ spelling, (t.kindOf? (c :: spelling)).isSome →
        (spelling <+: rest ↔ spelling <+: rest')) :
    t.read (c :: rest) = t.read (c :: rest') := by
  rw [read, read]
  cases hStep : t.child? c with
  | none => rfl
  | some s =>
      have hRest : s.longest? rest = s.longest? rest' := by
        apply longest?_congr
        intro spelling hSpelling
        apply hSame
        rw [kindOf?, hStep]
        exact hSpelling
      rw [Option.bind_some, Option.bind_some, hRest]

end SymbolTree

end Formula
