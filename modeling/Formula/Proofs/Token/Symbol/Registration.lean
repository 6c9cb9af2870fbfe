import Formula.Proofs.Token.Symbol

/-
  What registering a spelling leaves as it was.

  A spelling keeps the kind that it was last registered with,
  whatever else is registered behind it, and is read with that
  kind wherever it is the longest one.  There is one exception.
  A longer spelling takes its first character for one that was
  never registered, if that was registered as unknown, and
  turns it into a plain symbol.

  Key definitions include:
    * `SymbolTree.since`
    * `SymbolTree.IsForgotten`
    * `SymbolTree.keptKind`

  Main statements:
    * `SymbolTree.keptKind_concat`
    * `SymbolTree.kindOf?_of_lastKind?`
    * `SymbolTree.next_of_longest`
    * `SymbolTree.next_add_of_entered`
-/

namespace Formula

namespace SymbolTree

variable {entries : List (List Char × TokenKind)}
variable {e : List Char × TokenKind}
variable {s : List Char}
variable {kind : TokenKind}

------------------------------------------------------------
-- Kinds That Are Kept
------------------------------------------------------------

/- What was entered behind the last entry of a spelling. -/
def since
    (entries : List (List Char × TokenKind))
    (s : List Char) : List (List Char × TokenKind) :=
  entries.reverse.takeWhile fun e => e.1 != s

/-
  A single character was last entered as unknown, and behind
  that a spelling that begins with it.
-/
def IsForgotten
    (entries : List (List Char × TokenKind))
    (s : List Char) : Prop :=
  s.length = 1 ∧ lastKind? entries s = some .unknown ∧
    ∃ e ∈ since entries s, s <+: e.1

instance
    (entries : List (List Char × TokenKind))
    (s : List Char) :
    Decidable (IsForgotten entries s) :=
  inferInstanceAs (Decidable (_ ∧ _ ∧ _))

/- What is left of the kind that a spelling was entered with. -/
def keptKind
    (entries : List (List Char × TokenKind))
    (s : List Char)
    (kind : TokenKind) : TokenKind :=
  if IsForgotten entries s then .symbol else kind

theorem since_concat
    (entries : List (List Char × TokenKind))
    (e : List Char × TokenKind)
    (s : List Char) :
    since (entries ++ [e]) s =
      if e.1 = s then [] else e :: since entries s := by
  unfold since
  rw [List.reverse_append, List.reverse_singleton,
    List.singleton_append]
  split
  · rename_i hSame
    exact List.takeWhile_cons_of_neg (by simp [hSame])
  · rename_i hOther
    exact List.takeWhile_cons_of_pos (by simpa using hOther)

/- A kind is forgotten once a longer spelling is entered. -/
theorem isForgotten_concat
    (hOther : s ≠ e.1) :
    IsForgotten (entries ++ [e]) s ↔
      IsForgotten entries s ∨
        s.length = 1 ∧ lastKind? entries s = some .unknown ∧
          s <+: e.1 := by
  unfold IsForgotten
  rw [lastKind?_concat, if_neg hOther, since_concat,
    if_neg hOther.symm]
  simp only [List.mem_cons, exists_eq_or_imp, and_or_left]
  exact or_comm

/- What was entered last is not forgotten. -/
theorem not_isForgotten_concat
    (entries : List (List Char × TokenKind))
    (e : List Char × TokenKind) :
    ¬ IsForgotten (entries ++ [e]) e.1 := by
  rintro ⟨-, -, e', hMem, -⟩
  rw [since_concat, if_pos rfl] at hMem
  cases hMem

/- A single character in front of a text is the first one. -/
theorem eq_take_one_iff
    {w : List Char}
    (hSome : s ≠ []) :
    s = w.take 1 ↔ s.length = 1 ∧ s <+: w := by
  constructor
  · rintro rfl
    cases w with
    | nil => exact absurd rfl hSome
    | cons c rest => exact ⟨rfl, List.take_prefix 1 _⟩
  · rintro ⟨hLength, hPrefix⟩
    rw [← hLength]
    exact List.prefix_iff_eq_take.mp hPrefix

/- Only that a single character is unknown is not kept. -/
theorem keptKind_cases
    (hEntered : lastKind? entries s = some kind) :
    keptKind entries s kind = kind ∨
      s.length = 1 ∧ kind = .unknown ∧
        keptKind entries s kind = .symbol := by
  unfold keptKind
  split
  · rename_i hForgotten
    rw [hForgotten.2.1] at hEntered
    exact .inr
      ⟨hForgotten.1, (Option.some.inj hEntered).symm, rfl⟩
  · exact .inl rfl

/-
  One more spelling changes what is kept of the others only if
  it is the first to begin with an unknown character.
-/
theorem keptKind_concat
    (hSome : s ≠ [])
    (hEntered : lastKind? entries s = some kind)
    (hOther : s ≠ e.1) :
    keptKind (entries ++ [e]) s kind =
      if s = e.1.take 1 ∧ kind = .unknown then .symbol
      else keptKind entries s kind := by
  have hForgotten :
      IsForgotten (entries ++ [e]) s ↔
        IsForgotten entries s ∨
          s = e.1.take 1 ∧ kind = .unknown := by
    rw [isForgotten_concat hOther, hEntered,
      eq_take_one_iff hSome, Option.some.injEq, and_assoc,
      and_comm (a := s <+: e.1)]
  unfold keptKind
  simp only [hForgotten]
  by_cases hFirst : s = e.1.take 1 ∧ kind = .unknown
  · rw [if_pos (.inr hFirst), if_pos hFirst]
  · simp only [hFirst, or_false, if_false]

/- What one more spelling changes was kept as unknown. -/
theorem keptKind_concat_ne_iff
    (hSome : s ≠ [])
    (hEntered : lastKind? entries s = some kind)
    (hOther : s ≠ e.1) :
    keptKind (entries ++ [e]) s kind ≠
        keptKind entries s kind ↔
      s = e.1.take 1 ∧ keptKind entries s kind = .unknown := by
  rw [keptKind_concat hSome hEntered hOther]
  rcases keptKind_cases hEntered with hKept | hLost
  · rw [hKept]
    by_cases hFirst : s = e.1.take 1 ∧ kind = .unknown
    · rw [if_pos hFirst]
      exact iff_of_true (by simp [hFirst.2]) hFirst
    · rw [if_neg hFirst]
      exact iff_of_false (fun hNe => hNe rfl) hFirst
  · rw [hLost.2.2, ite_self]
    exact iff_of_false (fun hNe => hNe rfl) (by simp)

------------------------------------------------------------
-- Trees
------------------------------------------------------------

/-
  One more spelling makes a plain symbol of its first
  character, if that is unknown, and changes no other kind.
-/
theorem kindOf?_add_of_ne
    {t : SymbolTree}
    {w : List Char}
    (hSome : s ≠ [])
    (hOther : s ≠ w)
    (hHeld : t.kindOf? s = some kind)
    (k : TokenKind) :
    (t.add w k).kindOf? s =
      some (if s = w.take 1 ∧ kind = .unknown then .symbol
        else kind) := by
  cases w with
  | nil =>
      rw [if_neg fun hFirst => hSome hFirst.1]
      exact hHeld
  | cons c rest =>
      have hTake : (c :: rest).take 1 = [c] := rfl
      rw [kindOf?_add, if_neg hOther, hTake]
      by_cases hFirst : s = [c]
      · subst hFirst
        rw [if_pos rfl, hHeld]
        cases kind with
        | unknown =>
            rw [if_pos ⟨rfl, rfl⟩]
            rfl
        | _ => simp [firstKind]
      · rw [if_neg hFirst, if_neg fun h => hFirst h.1]
        exact hHeld

/- A tree holds what is kept of the kinds that were entered. -/
theorem kindOf?_of_lastKind?
    (hSome : s ≠ [])
    (hEntered : lastKind? entries s = some kind) :
    (ofEntries entries).kindOf? s =
      some (keptKind entries s kind) := by
  induction entries using List.reverseRecOn with
  | nil => cases hEntered
  | append_singleton entries e ih =>
      rw [ofEntries_concat]
      rw [lastKind?_concat] at hEntered
      by_cases hSame : s = e.1
      · rw [if_pos hSame] at hEntered
        cases hEntered
        subst hSame
        rw [keptKind, if_neg (not_isForgotten_concat entries e)]
        cases hSpelling : e.1 with
        | nil => exact absurd hSpelling hSome
        | cons c rest => rw [kindOf?_add, if_pos rfl]
      · rw [if_neg hSame] at hEntered
        rw [kindOf?_add_of_ne hSome hSame (ih hEntered),
          keptKind_concat hSome hEntered hSame]
        unfold keptKind
        split
        · simp
        · rfl

------------------------------------------------------------
-- Reading
------------------------------------------------------------

/- A symbol of a given kind at an index, and what is behind. -/
def symbolAt
    (text : List Char)
    (n : Nat)
    (kind : TokenKind)
    (s : List Char) : Token × Cursor :=
  (⟨kind, String.ofList s, Cursor.placeAt text n⟩,
    .past text (n + s.length))

/- The longest symbol is read with the kind that is held. -/
theorem next_of_longest
    {text : List Char}
    {n : Nat}
    (hLongest :
      IsLongestSymbol (entries.map Prod.fst) (text.drop n) s)
    (hHeld : (ofEntries entries).kindOf? s = some kind) :
    (ofEntries entries).next (.past text n) =
      symbolAt text n kind s := by
  cases hDrop : text.drop n with
  | nil =>
      rw [hDrop] at hLongest
      exact absurd (List.prefix_nil.mp hLongest.2.1)
        hLongest.1.1
  | cons c rest =>
      rw [hDrop] at hLongest
      rw [next_past, hDrop]
      rcases read_ofEntries entries c rest with
        ⟨hRead, hKind⟩ | ⟨hNone, -⟩
      · rw [hRead.eq hLongest, hHeld] at hKind
        rw [symbolAt, hRead.eq hLongest,
          ← Option.some.inj hKind]
      · exact absurd ⟨s, hLongest.1, hLongest.2.1⟩ hNone

/- The longest of more symbols is the longest of fewer. -/
theorem IsLongestSymbol.of_concat
    {text : List Char}
    (hLongest :
      IsLongestSymbol ((entries ++ [e]).map Prod.fst) text s)
    (hEntered : s ∈ entries.map Prod.fst) :
    IsLongestSymbol (entries.map Prod.fst) text s := by
  refine ⟨⟨hLongest.1.1, s, hEntered, .inl rfl⟩,
    hLongest.2.1, ?_⟩
  rintro s' ⟨hSome, e', hMem, hSymbol⟩ hPrefix
  apply hLongest.2.2 s' _ hPrefix
  refine ⟨hSome, e', ?_, hSymbol⟩
  rw [List.map_append]
  exact List.mem_append_left _ hMem

/- A spelling with a kind is one that was entered. -/
theorem mem_of_lastKind?
    (hEntered : lastKind? entries s = some kind) :
    s ∈ entries.map Prod.fst := by
  by_contra hMissing
  have hNone : lastKind? entries s = none := by
    apply List.lookup_eq_none_iff.mpr
    intro e hMem
    apply bne_iff_ne.mpr
    rintro rfl
    exact hMissing
      (List.mem_map_of_mem (List.mem_reverse.mp hMem))
  rw [hNone] at hEntered
  cases hEntered

/-
  Wherever a spelling that was entered is the longest one, it
  is read with what is kept of the kind that it was last
  entered with, before another spelling is entered and after
  that.  The two are the same, unless the spelling is the first
  character of the other one and was unknown: then it has
  become a plain symbol.  So no kind is ever lost but that of
  a single character which was last entered as unknown.
-/
theorem next_add_of_entered
    (entries : List (List Char × TokenKind))
    (w : List Char)
    (k : TokenKind)
    (text : List Char)
    (n : Nat)
    (hEntered : lastKind? entries s = some kind)
    (hOther : s ≠ w)
    (hLongest :
      IsLongestSymbol ((entries ++ [(w, k)]).map Prod.fst)
        (text.drop n) s) :
    let t := ofEntries entries
    let kept := keptKind entries s kind
    let keptThen := keptKind (entries ++ [(w, k)]) s kind
    t.next (.past text n) = symbolAt text n kept s ∧
    (t.add w k).next (.past text n) =
      symbolAt text n keptThen s ∧
    (keptThen ≠ kept ↔
      s = w.take 1 ∧ kept = .unknown) ∧
    (keptThen = kind ∨
      s.length = 1 ∧ kind = .unknown ∧ keptThen = .symbol) := by
  intro t kept keptThen
  have hSome := hLongest.1.1
  have hHeld := kindOf?_of_lastKind? hSome hEntered
  have hBefore :=
    hLongest.of_concat (mem_of_lastKind? hEntered)
  have hEnteredThen :
      lastKind? (entries ++ [(w, k)]) s = some kind := by
    rw [lastKind?_concat, if_neg hOther]
    exact hEntered
  have hHeldThen := kindOf?_of_lastKind? hSome hEnteredThen
  refine ⟨next_of_longest hBefore hHeld, ?_, ?_, ?_⟩
  · have hNext := next_of_longest hLongest hHeldThen
    rw [ofEntries_concat] at hNext
    exact hNext
  · exact keptKind_concat_ne_iff hSome hEntered hOther
  · exact keptKind_cases hEnteredThen

/- Spellings that begin alike, one of them unknown. -/
def shiftEntries : List (List Char × TokenKind) :=
  [ (['<', '<'], .word), (['<'], .keyword),
    (['<', '<'], .unknown) ]

/- A longer unknown spelling stays unknown. -/
theorem next_add_of_entered_shift :
    lastKind? shiftEntries ['<', '<'] = some .unknown ∧
    ((ofEntries shiftEntries).add ['<', '<', '='] .eof).next
        (.past ['a', '<', '<', 'b'] 1) =
      symbolAt ['a', '<', '<', 'b'] 1 .unknown ['<', '<'] :=
    by
  have hEntered :
      lastKind? shiftEntries ['<', '<'] = some .unknown := by
    decide
  have hSpellings :
      (shiftEntries ++ [(['<', '<', '='], TokenKind.eof)]).map
          Prod.fst =
        [ ['<', '<'], ['<'], ['<', '<'], ['<', '<', '='] ] :=
    rfl
  have hLongest :
      IsLongestSymbol
        ((shiftEntries ++
          [(['<', '<', '='], TokenKind.eof)]).map Prod.fst)
        (['a', '<', '<', 'b'].drop 1) ['<', '<'] := by
    rw [hSpellings]
    refine ⟨⟨by decide, _, List.mem_cons_self, .inl rfl⟩,
      ⟨['b'], rfl⟩, ?_⟩
    rintro s ⟨-, e, hMem, hSymbol⟩ hPrefix
    simp only [List.mem_cons, List.not_mem_nil,
      or_false] at hMem
    rcases hMem with rfl | rfl | rfl | rfl <;>
      rcases hSymbol with rfl | rfl <;>
        revert hPrefix <;> decide
  have hNext :=
    (next_add_of_entered shiftEntries ['<', '<', '='] .eof
      ['a', '<', '<', 'b'] 1 hEntered (by decide)
      hLongest).2.1
  have hKept :
      keptKind (shiftEntries ++ [(['<', '<', '='], .eof)])
        ['<', '<'] .unknown = .unknown := by
    decide
  rw [hKept] at hNext
  exact ⟨hEntered, hNext⟩

/-
  An unknown character becomes a plain symbol when a spelling
  is entered that it begins, and so the kinds of the other
  spellings are not always kept.
-/
theorem next_add_ne_entered_unknown :
    (ofEntries [(['<'], .unknown)]).next (.past ['<'] 0) =
      symbolAt ['<'] 0 .unknown ['<'] ∧
    ((ofEntries [(['<'], .unknown)]).add ['<', '=']
        .symbol).next (.past ['<'] 0) =
      symbolAt ['<'] 0 .symbol ['<'] ∧
    ¬ ∀ (entries : List (List Char × TokenKind))
        (s w : List Char) (kind k : TokenKind)
        (text : List Char) (n : Nat),
      lastKind? entries s = some kind → s ≠ w →
      IsLongestSymbol ((entries ++ [(w, k)]).map Prod.fst)
        (text.drop n) s →
      ((ofEntries entries).add w k).next (.past text n) =
        symbolAt text n kind s := by
  have hLongest :
      IsLongestSymbol
        (([(['<'], TokenKind.unknown)] ++
          [(['<', '='], TokenKind.symbol)]).map Prod.fst)
        (['<'].drop 0) ['<'] :=
    ⟨⟨by decide, _, List.mem_cons_self, .inl rfl⟩,
      List.prefix_refl _,
      fun _ _ hPrefix => hPrefix.length_le⟩
  have hBefore :
      (ofEntries [(['<'], .unknown)]).next (.past ['<'] 0) =
        symbolAt ['<'] 0 .unknown ['<'] :=
    next_of_longest
      (hLongest.of_concat List.mem_cons_self) (by decide)
  have hAfter :
      ((ofEntries [(['<'], .unknown)]).add ['<', '=']
          .symbol).next (.past ['<'] 0) =
        symbolAt ['<'] 0 .symbol ['<'] :=
    next_of_longest hLongest (by decide)
  refine ⟨hBefore, hAfter, fun hAll => ?_⟩
  have hClaim :=
    hAll [(['<'], .unknown)] ['<'] ['<', '='] .unknown .symbol
      ['<'] 0 (by decide) (by decide) hLongest
  rw [hAfter] at hClaim
  cases congrArg (fun r => r.1.kind) hClaim

end SymbolTree

end Formula
