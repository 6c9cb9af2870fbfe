import Formula.Proofs.Text.Cursor
import Formula.Proofs.Token.Spelling
import Formula.Token.Stream
import Formula.Token.SymbolWalk
import Mathlib.Data.List.Induction

/-
  Symbols are as long as they can be.

  A walk through a tree of spellings ends at the longest of
  them that the text begins with, and the cursor behind it.
  What is held by a tree that spellings were entered into are
  these and their first characters, so neither the order nor
  the kinds in which they were entered count for what is read.

  Key definitions include:
    * `SymbolTree.IsSymbol`
    * `SymbolTree.IsLongestSymbol`
    * `SymbolTree.lastKind?`
    * `SymbolPath.Finds`

  Main statements:
    * `SymbolPath.finds_walk`
    * `SymbolTree.next_eq_take`
    * `SymbolTree.isSome_kindOf?_ofEntries`
    * `SymbolTree.next_ofEntries`
-/

namespace Formula

/- What is taken begins where the cursor is, and is passed. -/
theorem Cursor.take_past
    (text : List Char)
    (n : Nat)
    (p : Piece) :
    (Cursor.past text n).take p =
      (⟨p.kind, String.ofList p.text, placeAt text n⟩,
        .past text (n + p.text.length)) := by
  rw [take, ahead_past]
  unfold past
  rw [skip_skip]

------------------------------------------------------------
-- Walks
------------------------------------------------------------

/- A place where no spelling goes on is not the end of one. -/
theorem SymbolTree.kind?_of_longest?_eq_none
    {t : SymbolTree}
    {text : List Char}
    (hNone : t.longest? text = none) :
    t.kind? = none := by
  cases text with
  | nil => exact Option.map_eq_none_iff.mp hNone
  | cons c rest =>
      rw [longest?] at hNone
      split at hNone
      · cases hNone
      · exact Option.map_eq_none_iff.mp hNone

namespace SymbolPath

theorem spelling_down
    (p : SymbolPath)
    (c : Char)
    (s : SymbolTree) :
    (p.down c s).spelling = p.spelling ++ [c] := by
  simp [spelling, down]

/- There is no need to go up from where a spelling ends. -/
theorem climb_of_kind
    {here : SymbolTree}
    (hKind : here.kind?.isSome)
    (k : Cursor)
    (above : List (Char × SymbolTree)) :
    climb here k above = (⟨here, above⟩, k) := by
  cases above with
  | nil => rfl
  | cons entry above => rw [climb, if_pos hKind]

/-
  What a walk from a place finds, for the longest spelling that
  goes on from there: the end of it, or else what is found on
  the way up.
-/
def Finds
    (p : SymbolPath)
    (k : Cursor) :
    Option Piece → SymbolPath × Cursor → Prop
  | some q, found =>
      found.1.spelling = p.spelling ++ q.text ∧
        found.1.here.kind? = some q.kind ∧
        found.2 = k.skip q.text.length
  | none, found => found = climb p.here k p.above

/- From where the text leads no further a walk goes up. -/
theorem finds_climb
    (p : SymbolPath)
    (k : Cursor) :
    p.Finds k (p.here.kind?.map fun kind => ⟨kind, []⟩)
      (climb p.here k p.above) := by
  cases hKind : p.here.kind? with
  | none => rfl
  | some kind =>
      have hSome : p.here.kind?.isSome := by
        rw [hKind]
        rfl
      rw [climb_of_kind hSome]
      exact ⟨(List.append_nil _).symm, hKind, rfl⟩

/-
  A walk finds the longest spelling that goes on from a place.
  If none does, it goes back as far as it came.
-/
theorem finds_walk
    {k : Cursor}
    (hSettled : k.IsSettled)
    (p : SymbolPath) :
    p.Finds k (p.here.longest? k.after) (p.walk k) := by
  unfold walk
  fun_induction descend p k with
  | case1 p k hAfter =>
      rw [hAfter, SymbolTree.longest?]
      exact finds_climb p k
  | case2 p k c rest hAfter s hChild ih =>
      have hLater := ih hSettled.read
      rw [Cursor.after_read, hAfter, List.tail_cons] at hLater
      rw [hAfter, SymbolTree.longest?, hChild, Option.bind_some]
      change (p.down c s).Finds k.read (s.longest? rest) _
        at hLater
      cases hLongest : s.longest? rest with
      | some q =>
          rw [hLongest] at hLater
          rcases hLater with ⟨hSpelling, hKind, hBehind⟩
          refine ⟨?_, hKind, hBehind⟩
          rw [hSpelling, spelling_down, List.append_assoc]
          rfl
      | none =>
          -- No spelling ends further down: the walk comes back.
          have hMore : k.after ≠ [] := by
            rw [hAfter]
            exact List.cons_ne_nil c rest
          have hKind : ¬ s.kind?.isSome := by
            rw [SymbolTree.kind?_of_longest?_eq_none hLongest]
            exact Bool.false_ne_true
          have hUp :
              climb s k.read ((c, p.here) :: p.above) =
                climb p.here k p.above := by
            rw [climb, if_neg hKind,
              Cursor.unread_read hSettled hMore]
          rw [hLongest] at hLater
          rw [hLater.trans hUp]
          exact finds_climb p k
  | case3 p k c rest hAfter hChild =>
      have hMore : k.after ≠ [] := by
        rw [hAfter]
        exact List.cons_ne_nil c rest
      rw [Cursor.unread_read hSettled hMore, hAfter,
        SymbolTree.longest?, hChild, Option.bind_none]
      exact finds_climb p k

end SymbolPath

namespace SymbolTree

/- Every character that begins a spelling is a symbol. -/
def MarksFirsts
    (t : SymbolTree) : Prop :=
  ∀ c s, t.child? c = some s → s.kind?.isSome

theorem MarksFirsts.add
    {t : SymbolTree}
    (hFirsts : t.MarksFirsts)
    (spelling : List Char)
    (kind : TokenKind) :
    (t.add spelling kind).MarksFirsts := by
  cases spelling with
  | nil => exact hFirsts
  | cons c rest =>
      intro d s hChild
      rw [SymbolTree.add, child?_setChild] at hChild
      split at hChild
      · cases hChild
        cases rest with
        | nil => rfl
        | cons e rest =>
            rw [insert, kind?_setChild, markFirst_eq_mark]
            rfl
      · exact hFirsts d s hChild

/-
  A walk reads what the text begins with, if the characters
  that begin a spelling are symbols.
-/
theorem next_eq_take
    {t : SymbolTree}
    {k : Cursor}
    (hFirsts : t.MarksFirsts)
    (hSettled : k.IsSettled) :
    t.next k = k.take (t.read k.after) := by
  unfold next
  rw [Cursor.next_eq, Cursor.peek]
  cases hAfter : k.after with
  | nil =>
      dsimp only [List.head?_nil]
      rw [Cursor.read_of_end hAfter, Cursor.peekLine_eq,
        Cursor.peekColumn_eq]
      rfl
  | cons c rest =>
      dsimp only [List.head?_cons]
      rw [read, Cursor.place_read]
      cases hChild : t.child? c with
      | none =>
          dsimp only [Option.bind_none]
          rw [String.singleton_eq_ofList]
          rfl
      | some s =>
          have hFound :=
            SymbolPath.finds_walk hSettled.read ⟨s, [(c, t)]⟩
          rw [Cursor.after_read, hAfter, List.tail_cons]
            at hFound
          dsimp only [Option.bind_some] at hFound ⊢
          cases hLongest : s.longest? rest with
          | none =>
              have hKind := hFirsts c s hChild
              rw [kind?_of_longest?_eq_none hLongest] at hKind
              cases hKind
          | some q =>
              rw [hLongest] at hFound
              rcases hFound with ⟨hSpelling, hKind, hBehind⟩
              dsimp only
              rw [hSpelling, hKind, hBehind]
              rfl

------------------------------------------------------------
-- Entered Spellings
------------------------------------------------------------

/-
  What counts as a symbol once some spellings were entered:
  each of them, and its first character.
-/
def IsSymbol
    (spellings : List (List Char))
    (s : List Char) : Prop :=
  s ≠ [] ∧ ∃ e ∈ spellings, s = e ∨ s = e.take 1

/- The kind that a spelling was last entered with. -/
def lastKind?
    (entries : List (List Char × TokenKind))
    (spelling : List Char) : Option TokenKind :=
  entries.reverse.lookup spelling

variable {entries : List (List Char × TokenKind)}

theorem ofEntries_concat
    (entries : List (List Char × TokenKind))
    (e : List Char × TokenKind) :
    ofEntries (entries ++ [e]) =
      (ofEntries entries).add e.1 e.2 :=
  List.foldl_append

theorem lastKind?_concat
    (entries : List (List Char × TokenKind))
    (e : List Char × TokenKind)
    (spelling : List Char) :
    lastKind? (entries ++ [e]) spelling =
      if spelling = e.1 then some e.2
      else lastKind? entries spelling := by
  unfold lastKind?
  rw [List.reverse_append, List.reverse_singleton,
    List.singleton_append, List.lookup_cons]
  by_cases hSame : spelling = e.1
  · simp [hSame]
  · have hOther : (spelling == e.1) = false := by
      simpa using hSame
    rw [hOther, if_neg hSame]

theorem marksFirsts_ofEntries
    (entries : List (List Char × TokenKind)) :
    (ofEntries entries).MarksFirsts := by
  induction entries using List.reverseRecOn with
  | nil =>
      intro c s hChild
      cases hChild
  | append_singleton entries e ih =>
      rw [ofEntries_concat]
      exact ih.add e.1 e.2

theorem isSymbol_concat
    (spellings : List (List Char))
    (e s : List Char) :
    IsSymbol (spellings ++ [e]) s ↔
      IsSymbol spellings s ∨
        s ≠ [] ∧ (s = e ∨ s = e.take 1) := by
  unfold IsSymbol
  rw [← and_or_left]
  simp only [List.mem_append, List.mem_singleton,
    or_and_right, exists_or, exists_eq_left]

/- A tree holds what counts as a symbol. -/
theorem isSome_kindOf?_ofEntries
    (entries : List (List Char × TokenKind))
    (s : List Char) :
    ((ofEntries entries).kindOf? s).isSome ↔
      IsSymbol (entries.map Prod.fst) s := by
  induction entries using List.reverseRecOn with
  | nil =>
      have hNone : (ofEntries []).kindOf? s = none :=
        kindOf?_empty s
      rw [hNone]
      constructor
      · intro hSome
        cases hSome
      · rintro ⟨_, e, hMem, _⟩
        cases hMem
  | append_singleton entries e ih =>
      rcases e with ⟨spelling, kind⟩
      rw [ofEntries_concat, List.map_append, List.map_singleton,
        isSymbol_concat, ← ih]
      cases spelling with
      | nil =>
          constructor
          · exact .inl
          · rintro (hHeld | ⟨hSome, hEmpty | hEmpty⟩)
            · exact hHeld
            · exact absurd hEmpty hSome
            · exact absurd hEmpty hSome
      | cons c rest =>
          dsimp only
          rw [kindOf?_add]
          by_cases hEntered : s = c :: rest
          · simp [hEntered]
          rw [if_neg hEntered]
          by_cases hFirst : s = [c]
          · simp [hFirst]
          · simp [hEntered, hFirst]

/- A spelling that was entered counts as a symbol. -/
theorem lastKind?_eq_none
    {s : List Char}
    (hSome : s ≠ [])
    (hSymbol : ¬ IsSymbol (entries.map Prod.fst) s) :
    lastKind? entries s = none := by
  apply List.lookup_eq_none_iff.mpr
  intro e hMem
  apply bne_iff_ne.mpr
  rintro rfl
  apply hSymbol
  refine ⟨hSome, e.1, ?_, .inl rfl⟩
  exact List.mem_map_of_mem (List.mem_reverse.mp hMem)

/- Symbols are known if only known ones were entered. -/
theorem ne_unknown_of_kindOf?
    (hKnown : ∀ e ∈ entries, e.2 ≠ .unknown)
    {s : List Char}
    {kind : TokenKind}
    (hHeld : (ofEntries entries).kindOf? s = some kind) :
    kind ≠ .unknown := by
  rintro rfl
  rcases kindOf?_ofEntries hHeld with
    hPlain | ⟨e, hMem, hKind⟩
  · cases hPlain
  · exact hKnown e hMem hKind

/- A first character that is known keeps its kind. -/
theorem firstKind_of_ne_unknown
    {kind : TokenKind}
    (hKnown : kind ≠ .unknown) :
    firstKind (some kind) = kind := by
  cases kind with
  | unknown => exact absurd rfl hKnown
  | _ => rfl

/-
  The kind of a symbol is that which it was last entered with.
  A first character that was never entered is a plain symbol.
-/
theorem eq_lastKind?_of_kindOf?
    (hKnown : ∀ e ∈ entries, e.2 ≠ .unknown)
    {s : List Char}
    {kind : TokenKind}
    (hHeld : (ofEntries entries).kindOf? s = some kind) :
    kind = (lastKind? entries s).getD .symbol := by
  induction entries using List.reverseRecOn generalizing s kind
    with
  | nil =>
      have hNone : (ofEntries []).kindOf? s = none :=
        kindOf?_empty s
      cases hHeld.symm.trans hNone
  | append_singleton entries e ih =>
      rcases e with ⟨spelling, entered⟩
      have hBefore : ∀ e ∈ entries, e.2 ≠ .unknown :=
        fun e hMem => hKnown e (List.mem_append_left _ hMem)
      rw [ofEntries_concat] at hHeld
      rw [lastKind?_concat]
      cases spelling with
      | nil =>
          have hSome : s ≠ [] :=
            ((isSome_kindOf?_ofEntries entries s).mp
              (Option.isSome_of_eq_some hHeld)).1
          rw [if_neg hSome]
          exact ih hBefore hHeld
      | cons c rest =>
          dsimp only at hHeld ⊢
          rw [kindOf?_add] at hHeld
          by_cases hEntered : s = c :: rest
          · rw [if_pos hEntered] at hHeld ⊢
            exact (Option.some.inj hHeld).symm
          rw [if_neg hEntered] at hHeld ⊢
          by_cases hFirst : s = [c]
          · subst hFirst
            rw [if_pos rfl] at hHeld
            cases hOld : (ofEntries entries).kindOf? [c] with
            | none =>
                have hSymbol :
                    ¬ IsSymbol (entries.map Prod.fst) [c] := by
                  rw [← isSome_kindOf?_ofEntries, hOld]
                  exact Bool.false_ne_true
                rw [hOld] at hHeld
                rw [lastKind?_eq_none (List.cons_ne_nil c [])
                  hSymbol]
                exact (Option.some.inj hHeld).symm
            | some old =>
                have hOldKnown :=
                  ne_unknown_of_kindOf? hBefore hOld
                rw [hOld, firstKind_of_ne_unknown hOldKnown]
                  at hHeld
                rw [← Option.some.inj hHeld]
                exact ih hBefore hOld
          · rw [if_neg hFirst] at hHeld
            exact ih hBefore hHeld

------------------------------------------------------------
-- Longest Symbols
------------------------------------------------------------

/- The longest symbol that a text begins with. -/
def IsLongestSymbol
    (spellings : List (List Char))
    (text value : List Char) : Prop :=
  IsSymbol spellings value ∧ value <+: text ∧
    ∀ s, IsSymbol spellings s → s <+: text →
      s.length ≤ value.length

/- Only one symbol in front of a text is the longest. -/
theorem IsLongestSymbol.eq
    {spellings : List (List Char)}
    {text value value' : List Char}
    (hFirst : IsLongestSymbol spellings text value)
    (hSecond : IsLongestSymbol spellings text value') :
    value = value' := by
  have hLength := hSecond.2.2 value hFirst.1 hFirst.2.1
  have hLength' := hFirst.2.2 value' hSecond.1 hSecond.2.1
  have hPrefix := List.prefix_of_prefix_length_le
    hFirst.2.1 hSecond.2.1 hLength
  exact hPrefix.eq_of_length
    (Nat.le_antisymm hLength hLength')

/-
  What is read is the longest symbol in front of the text, or
  else the next character by itself.
-/
theorem read_ofEntries
    (entries : List (List Char × TokenKind))
    (c : Char)
    (rest : List Char) :
    let p := (ofEntries entries).read (c :: rest)
    (IsLongestSymbol (entries.map Prod.fst) (c :: rest)
        p.text ∧
      (ofEntries entries).kindOf? p.text = some p.kind) ∨
      ((¬ ∃ s, IsSymbol (entries.map Prod.fst) s ∧
          s <+: c :: rest) ∧
        p = ⟨.symbol, [c]⟩) := by
  intro p
  cases hChild : (ofEntries entries).child? c with
  | none =>
      refine .inr ⟨?_, ?_⟩
      · rintro ⟨s, hSymbol, hPrefix⟩
        cases s with
        | nil => exact hSymbol.1 rfl
        | cons d s =>
            rcases List.cons_prefix_cons.mp hPrefix with
              ⟨rfl, _⟩
            rw [← isSome_kindOf?_ofEntries, kindOf?, hChild]
              at hSymbol
            cases hSymbol
      · dsimp only [p]
        rw [read, hChild]
        rfl
  | some t =>
      have hMarked := marksFirsts_ofEntries entries c t hChild
      have hNone : t.longest? rest ≠ none := by
        intro hNone
        rw [kind?_of_longest?_eq_none hNone] at hMarked
        cases hMarked
      have hKind :
          (ofEntries entries).kindOf? p.text =
            some p.kind := by
        rcases Option.ne_none_iff_exists'.mp hNone with
          ⟨q, hLongest⟩
        dsimp only [p]
        rw [read, hChild, Option.bind_some, hLongest]
        dsimp only
        rw [kindOf?, hChild]
        exact (longest?_eq_some hLongest).2
      rcases (ofEntries entries).exists_of_read c rest with
        ⟨more, hPrefix, hText, _⟩
      refine .inl ⟨⟨?_, ?_, ?_⟩, hKind⟩
      · exact (isSome_kindOf?_ofEntries _ _).mp
          (Option.isSome_of_eq_some hKind)
      · rw [hText]
        exact (List.prefix_cons_inj c).mpr hPrefix
      · intro s hSymbol hFront
        cases s with
        | nil => exact Nat.zero_le _
        | cons d s =>
            rcases List.cons_prefix_cons.mp hFront with
              ⟨rfl, hRest⟩
            exact length_le_length_read hRest
              ((isSome_kindOf?_ofEntries _ _).mpr hSymbol)

/-
  What is read has the kind that it was last entered with, or
  else that of a plain symbol.
-/
theorem kind_read_ofEntries
    (hKnown : ∀ e ∈ entries, e.2 ≠ .unknown)
    (c : Char)
    (rest : List Char) :
    let p := (ofEntries entries).read (c :: rest)
    p.kind = (lastKind? entries p.text).getD .symbol := by
  intro p
  rcases read_ofEntries entries c rest with
    ⟨_, hKind⟩ | ⟨hNone, hSingle⟩
  · exact eq_lastKind?_of_kindOf? hKnown hKind
  · have hSymbol : ¬ IsSymbol (entries.map Prod.fst) [c] :=
      fun hSymbol => hNone ⟨[c], hSymbol, rest, rfl⟩
    dsimp only [p]
    rw [hSingle,
      lastKind?_eq_none (List.cons_ne_nil c []) hSymbol]
    rfl

/- What is read does not depend on the order of entry. -/
theorem text_read_ofEntries_of_perm
    {entries' : List (List Char × TokenKind)}
    (hPerm :
      (entries'.map Prod.fst).Perm (entries.map Prod.fst))
    (c : Char)
    (rest : List Char) :
    ((ofEntries entries').read (c :: rest)).text =
      ((ofEntries entries).read (c :: rest)).text := by
  have hSame (s : List Char) :
      IsSymbol (entries'.map Prod.fst) s ↔
        IsSymbol (entries.map Prod.fst) s := by
    unfold IsSymbol
    simp only [hPerm.mem_iff]
  have hRead := read_ofEntries entries c rest
  have hRead' := read_ofEntries entries' c rest
  unfold IsLongestSymbol at hRead'
  simp only [hSame] at hRead'
  rcases hRead with ⟨hLongest, _⟩ | ⟨hNone, hSingle⟩
  · rcases hRead' with ⟨hLongest', _⟩ | ⟨hNone', _⟩
    · exact IsLongestSymbol.eq hLongest' hLongest
    · exact absurd ⟨_, hLongest.1, hLongest.2.1⟩ hNone'
  · rcases hRead' with ⟨hLongest', _⟩ | ⟨_, hSingle'⟩
    · exact absurd ⟨_, hLongest'.1, hLongest'.2.1⟩ hNone
    · rw [hSingle, hSingle']

/- A symbol is read where it is, and the cursor goes past it. -/
theorem next_past
    (entries : List (List Char × TokenKind))
    (text : List Char)
    (n : Nat) :
    let p := (ofEntries entries).read (text.drop n)
    (ofEntries entries).next (.past text n) =
      (⟨p.kind, String.ofList p.text, Cursor.placeAt text n⟩,
        .past text (n + p.text.length)) := by
  intro p
  have hFirsts := marksFirsts_ofEntries entries
  have hSettled := Cursor.isSettled_past text n
  rw [next_eq_take hFirsts hSettled, Cursor.after_past,
    Cursor.take_past]

/-
  Wherever a cursor stands in a text, the symbol that is read
  is the longest of those entered, with their first characters,
  that the text goes on with.  If there is none, it is the next
  character.  Its place is that of its first character, and the
  cursor goes past it.  Its kind is the last one entered for
  it, and its text does not depend on the order of entry.
-/
theorem next_ofEntries
    (entries : List (List Char × TokenKind))
    (text : List Char)
    (n : Nat)
    (hMore : n < text.length) :
    ∃ kind value,
      (ofEntries entries).next (.past text n) =
        (⟨kind, String.ofList value, Cursor.placeAt text n⟩,
          .past text (n + value.length)) ∧
      ((∃ s, IsSymbol (entries.map Prod.fst) s ∧
          s <+: text.drop n) →
        IsLongestSymbol (entries.map Prod.fst) (text.drop n)
          value) ∧
      ((¬ ∃ s, IsSymbol (entries.map Prod.fst) s ∧
          s <+: text.drop n) →
        value = [text[n]] ∧ kind = .symbol) ∧
      ((∀ e ∈ entries, e.2 ≠ .unknown) →
        kind = (lastKind? entries value).getD .symbol) ∧
      ∀ entries',
        (entries'.map Prod.fst).Perm (entries.map Prod.fst) →
        ∃ kind',
          (ofEntries entries').next (.past text n) =
            (⟨kind', String.ofList value,
                Cursor.placeAt text n⟩,
              .past text (n + value.length)) := by
  have hDrop : text.drop n = text[n] :: text.drop (n + 1) :=
    List.drop_eq_getElem_cons hMore
  generalize text[n] = c at hDrop ⊢
  generalize text.drop (n + 1) = rest at hDrop
  have hRead := read_ofEntries entries c rest
  refine ⟨_, _, next_past entries text n, ?_⟩
  rw [hDrop]
  refine ⟨?_, ?_, ?_, ?_⟩
  · intro hSome
    rcases hRead with ⟨hLongest, _⟩ | ⟨hNone, _⟩
    · exact hLongest
    · exact absurd hSome hNone
  · intro hNone
    rcases hRead with ⟨hLongest, _⟩ | ⟨_, hSingle⟩
    · exact absurd ⟨_, hLongest.1, hLongest.2.1⟩ hNone
    · rw [hSingle]
      exact ⟨rfl, rfl⟩
  · intro hKnown
    exact kind_read_ofEntries hKnown c rest
  · intro entries' hPerm
    have hText := text_read_ofEntries_of_perm hPerm c rest
    rw [← hText, ← hDrop]
    exact ⟨_, next_past entries' text n⟩

/- A spelling that goes over the end of a line. -/
def foldedEntries : List (List Char × TokenKind) :=
  [ (['=', '\n', '=', '='], .keyword), ([], .eof),
    (['='], .word), (['<', '<'], .symbol) ]

/-
  A walk that goes over the end of a line comes back if the
  spelling is not complete.
-/
theorem next_ofEntries_folded :
    1 < ['a', '=', '\n', '=', '<'].length ∧
    (ofEntries foldedEntries).next
        (.past ['a', '=', '\n', '=', '<'] 1) =
      (⟨.word, "=", ⟨1, 2⟩⟩,
        .past ['a', '=', '\n', '=', '<'] 2) ∧
    ∀ s, IsSymbol (foldedEntries.map Prod.fst) s →
      s <+: ['=', '\n', '=', '<'] → s.length ≤ 1 := by
  have hMore : 1 < ['a', '=', '\n', '=', '<'].length := by
    decide
  rcases next_ofEntries foldedEntries
    ['a', '=', '\n', '=', '<'] 1 hMore with
    ⟨kind, value, hNext, hLongest, _, _, _⟩
  have hToken :
      ((ofEntries foldedEntries).next
        (.past ['a', '=', '\n', '=', '<'] 1)).1 =
        ⟨.word, "=", ⟨1, 2⟩⟩ := by
    decide +kernel
  have hValue : value = ['='] := by
    rw [hNext] at hToken
    have hText := congrArg Token.value hToken
    exact String.ofList_injective hText
  have hFirst : IsSymbol (foldedEntries.map Prod.fst) ['='] :=
    ⟨List.cons_ne_nil _ _, ['='], by decide, .inl rfl⟩
  refine ⟨hMore, ?_, ?_⟩
  · refine Prod.ext hToken ?_
    rw [hNext, hValue]
    rfl
  · have hAll := (hLongest ⟨['='], hFirst, _, rfl⟩).2.2
    rw [hValue] at hAll
    exact hAll

end SymbolTree

end Formula
