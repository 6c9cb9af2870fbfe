import Formula.Proofs.Token.Lookahead

/-
  Blanks between the tokens of a formula.

  The pieces that a text falls into do not depend on what is
  read before it.  If a blank is put between two of them, then
  those before it stay, and it becomes white space, or goes to
  the white space or to the comment that it is next to.  Those
  behind it stay, except that white space may begin later.

  Key definitions include:
    * `Token.piece`
    * `Piece.substance`
    * `Tokenizer.pieces`

  Main statements:
    * `Tokenizer.pieces_append`
    * `Tokenizer.substance_pieces_of_blank`
    * `Tokenizer.substance_pieces_spaced`
-/

namespace Formula

------------------------------------------------------------
-- Pieces of a Text
------------------------------------------------------------

namespace Piece

/- A piece is neither white space nor a comment. -/
def isSolid
    (p : Piece) : Bool :=
  p.kind != .whitespace && p.kind != .comment

/- The pieces that are neither white space nor comments. -/
def substance
    (ps : List Piece) : List Piece :=
  ps.filter isSolid

theorem substance_cons_of_solid
    {p : Piece}
    (hSolid : p.isSolid = true)
    (ps : List Piece) :
    substance (p :: ps) = p :: substance ps :=
  List.filter_cons_of_pos hSolid

theorem substance_cons_of_not_solid
    {p : Piece}
    (hSolid : p.isSolid = false)
    (ps : List Piece) :
    substance (p :: ps) = substance ps :=
  List.filter_cons_of_neg (by simp [hSolid])

/- A piece in front of both of two texts. -/
theorem substance_cons_congr
    (p : Piece)
    {ps qs : List Piece}
    (hSame : substance ps = substance qs) :
    substance (p :: ps) = substance (p :: qs) := by
  cases hSolid : p.isSolid with
  | true =>
      rw [substance_cons_of_solid hSolid,
        substance_cons_of_solid hSolid, hSame]
  | false =>
      rw [substance_cons_of_not_solid hSolid,
        substance_cons_of_not_solid hSolid, hSame]

/- The texts of some pieces, one behind the other. -/
def joined
    (ps : List Piece) : List Char :=
  ps.flatMap text

@[simp] theorem joined_nil :
    joined [] = [] := rfl

@[simp] theorem joined_cons
    (p : Piece)
    (ps : List Piece) :
    joined (p :: ps) = p.text ++ joined ps := rfl

theorem joined_append
    (ps qs : List Piece) :
    joined (ps ++ qs) = joined ps ++ joined qs :=
  List.flatMap_append

end Piece

/- The kind and the text of a token. -/
def Token.piece
    (token : Token) : Piece :=
  ⟨token.kind, token.value.toList⟩

theorem Token.joined_eq
    (tokens : List Token) :
    joined tokens = Piece.joined (tokens.map piece) := by
  rw [joined, Piece.joined, List.flatMap_map]
  rfl

namespace Tokenizer

open Piece

variable (t : Tokenizer)

/- The pieces that a text falls into. -/
def pieces
    (text : List Char) : List Piece :=
  match text with
  | [] => []
  | c :: rest =>
      t.first c rest ::
        pieces ((c :: rest).drop (t.first c rest).text.length)
termination_by text.length
decreasing_by
  have hPos := t.first_text_length_pos c rest
  rw [List.length_drop, List.length_cons]
  omega

@[simp] theorem pieces_nil :
    t.pieces [] = [] := by
  rw [pieces]

theorem pieces_cons
    (c : Char)
    (rest : List Char) :
    t.pieces (c :: rest) =
      t.first c rest ::
        t.pieces
          ((c :: rest).drop (t.first c rest).text.length) := by
  rw [pieces]

/- Raw tokens are pieces and the places where they begin. -/
theorem map_piece_rawTokens
    (k : Cursor) :
    (t.rawTokens k).map Token.piece = t.pieces k.after := by
  fun_induction rawTokens t k with
  | case1 k hAfter => rw [hAfter, pieces_nil, List.map_nil]
  | case2 k c rest hAfter p ih =>
      rw [Cursor.after_skip, hAfter] at ih
      rw [List.map_cons, ih, hAfter, pieces_cons, Token.piece,
        Cursor.take, String.toList_ofList]

/- The pieces of a text make it up. -/
theorem joined_pieces
    (text : List Char) :
    joined (t.pieces text) = text := by
  have hTokens := t.map_piece_rawTokens (.ofList text)
  have hJoined := t.joined_rawTokens (.ofList text)
  rw [Token.joined_eq, hTokens] at hJoined
  exact hJoined

/- A first piece is in front of the pieces of the rest. -/
theorem pieces_of_first
    {c : Char}
    {more rest : List Char}
    {p : Piece}
    (hText : p.text = c :: more)
    (hFirst : t.first c (more ++ rest) = p) :
    t.pieces (p.text ++ rest) = p :: t.pieces rest := by
  have hDrop :
      (c :: (more ++ rest)).drop p.text.length = rest := by
    rw [hText]
    exact List.drop_left
  rw [hText, List.cons_append, pieces_cons, hFirst, hDrop]

/- A first piece has been read from the text of all of them. -/
theorem exists_of_pieces_cons
    {text : List Char}
    {p : Piece}
    {ps : List Piece}
    (hPieces : t.pieces text = p :: ps) :
    ∃ c more, p.text = c :: more ∧
      t.first c (more ++ joined ps) = p ∧
      t.pieces (joined ps) = ps := by
  have hText := t.joined_pieces text
  rw [hPieces, joined_cons] at hText
  cases text with
  | nil =>
      rw [pieces_nil] at hPieces
      cases hPieces
  | cons c rest =>
      rw [pieces_cons] at hPieces
      rcases List.cons.inj hPieces with ⟨hFirst, hLater⟩
      rcases t.exists_first_text_eq c rest with ⟨more, hMore⟩
      rw [hFirst] at hMore hLater
      have hRest : more ++ joined ps = rest := by
        rw [hMore] at hText
        exact (List.cons.inj hText).2
      refine ⟨c, more, hMore, ?_, ?_⟩
      · rw [hRest, hFirst]
      · rw [← hRest, ← List.cons_append, ← hMore,
          List.drop_left] at hLater
        exact hLater

/- The pieces behind some of them are those of their texts. -/
theorem pieces_append
    {text : List Char}
    {ps qs : List Piece}
    (hSplit : t.pieces text = ps ++ qs) :
    t.pieces (joined qs) = qs := by
  induction ps generalizing text with
  | nil =>
      rw [List.nil_append] at hSplit
      rw [← hSplit, t.joined_pieces]
  | cons p ps ih =>
      rcases t.exists_of_pieces_cons hSplit with
        ⟨_, _, _, _, hLater⟩
      exact ih hLater

------------------------------------------------------------
-- Pieces that Go On
------------------------------------------------------------

/- Behind a run is what its characters are dropped from. -/
theorem drop_length_takeWhile
    (p : Char → Bool)
    (text : List Char) :
    text.drop (text.takeWhile p).length = text.dropWhile p := by
  have hRun := List.prefix_iff_eq_append.mp
    (List.takeWhile_prefix p (l := text))
  have hSplit : text.takeWhile p ++ text.dropWhile p = text :=
    List.takeWhile_append_dropWhile
  exact List.append_cancel_left (hRun.trans hSplit.symm)

/- The blanks are the characters up to the space. -/
theorem has_standardBlanks_iff
    (c : Char) :
    standardBlanks.has c = true ↔ c ≤ ' ' := by
  have hRanges := CharSet.has_ofRanges [('\x00', ' ')] c
  rw [standardBlanks, hRanges]
  constructor
  · rintro ⟨r, hMem, _, hLast⟩
    rw [List.mem_singleton.mp hMem] at hLast
    exact hLast
  · intro hBlank
    exact ⟨_, List.mem_singleton_self _,
      UInt32.le_iff_toNat_le.mpr (Nat.zero_le _), hBlank⟩

theorem blank_of_mem_takeWhile
    {c : Char}
    {text : List Char}
    (hMem : c ∈ text.takeWhile standardBlanks.has) :
    c ≤ ' ' :=
  (has_standardBlanks_iff c).mp
    (List.all_eq_true.mp List.all_takeWhile c hMem)

/- A blank begins white space. -/
theorem expression_first_of_blank
    {c : Char}
    (hBlank : c ≤ ' ')
    (rest : List Char) :
    expression.first c rest =
      ⟨.whitespace, (c :: rest).takeWhile standardBlanks.has⟩
    := by
  have hRoles :
      ∀ n < 33,
        expression.role? (Char.ofNat n) = some .whitespace := by
    decide +kernel
  have hRole := hRoles c.toNat
    (Nat.lt_succ_of_le (UInt32.le_iff_toNat_le.mp hBlank))
  rw [Char.ofNat_toNat] at hRole
  exact expression_first_eq_read hRole rest

/- Two slashes begin a comment up to the end of the line. -/
theorem expression_first_slashes
    (rest : List Char) :
    expression.first '/' ('/' :: rest) =
      ⟨.comment, restOfLine ('/' :: '/' :: rest)⟩ := by
  have hRole : expression.role? '/' = some .comment := by
    decide +kernel
  exact expression_first_eq_read hRole ('/' :: rest)

/- A slash and a star begin a comment up to its end mark. -/
theorem expression_first_block
    (rest : List Char) :
    expression.first '/' ('*' :: rest) =
      ⟨.comment, '/' :: '*' :: throughBlockEnd rest⟩ := by
  have hRole : expression.role? '/' = some .comment := by
    decide +kernel
  exact expression_first_eq_read hRole ('*' :: rest)

/- Blanks in front of a text do not count. -/
theorem substance_pieces_dropWhile
    (text : List Char) :
    substance (expression.pieces text) =
      substance (expression.pieces
        (text.dropWhile standardBlanks.has)) := by
  cases text with
  | nil => rfl
  | cons c rest =>
      by_cases hBlank : c ≤ ' '
      · have hFirst := expression_first_of_blank hBlank rest
        rw [pieces_cons, hFirst, drop_length_takeWhile]
        exact substance_cons_of_not_solid rfl _
      · have hOther :=
          mt (has_standardBlanks_iff c).mp hBlank
        rw [List.dropWhile_cons_of_neg hOther]

/- A text with blanks in front has the pieces behind them. -/
theorem substance_pieces_of_blank
    {blanks : List Char}
    (hBlanks : ∀ c ∈ blanks, c ≤ ' ')
    (text : List Char) :
    substance (expression.pieces (blanks ++ text)) =
      substance (expression.pieces text) := by
  have hAll : ∀ c ∈ blanks, standardBlanks.has c = true :=
    fun c hMem => (has_standardBlanks_iff c).mpr (hBlanks c hMem)
  rw [substance_pieces_dropWhile (blanks ++ text),
    substance_pieces_dropWhile text,
    List.dropWhile_append_of_pos hAll]

/- A text with a comment in front has the pieces behind it. -/
theorem substance_pieces_of_line
    {line text : List Char}
    (hOpen : ['/', '/'] <+: line)
    (hLine : restOfLine (line ++ text) = line) :
    substance (expression.pieces (line ++ text)) =
      substance (expression.pieces text) := by
  rcases hOpen with ⟨more, rfl⟩
  have hFirst :
      expression.first '/' ('/' :: more ++ text) =
        ⟨.comment, ['/', '/'] ++ more⟩ :=
    (expression_first_slashes _).trans
      (congrArg (Piece.mk .comment) hLine)
  have hPieces := expression.pieces_of_first rfl hFirst
  rw [hPieces]
  exact substance_cons_of_not_solid rfl _

------------------------------------------------------------
-- Spacing
------------------------------------------------------------

variable {p : Piece}
variable {ps qs : List Piece}
variable {blank : Char}

/-
  Behind white space, and behind a comment on its line, a blank
  goes to what is there.
-/
theorem substance_pieces_of_goesOver
    (hBlank : blank ≤ ' ')
    (hPieces : expression.pieces (joined (p :: qs)) = p :: qs)
    (hOver : p.GoesOver blank) :
    substance (expression.pieces
        (p.text ++ blank :: joined qs)) =
      substance (expression.pieces (joined (p :: qs))) := by
  have hMore :
      p.text ++ blank :: joined qs =
        (p.text ++ [blank]) ++ joined qs := by
    rw [List.append_assoc]
    rfl
  rcases expression.exists_of_pieces_cons hPieces with
    ⟨c, more, hText, hFirst, _⟩
  rw [hMore, joined_cons]
  rcases hOver with ⟨d, hHead, hStart⟩ | ⟨hOpen, hColumn⟩
  · rw [hText] at hHead
    cases hHead
    rw [expression_first_of_blank hStart] at hFirst
    have hBlanks : ∀ d ∈ p.text, d ≤ ' ' := by
      intro d hMem
      rw [← hFirst] at hMem
      exact blank_of_mem_takeWhile hMem
    have hMoreBlanks : ∀ d ∈ p.text ++ [blank], d ≤ ' ' :=
      List.forall_mem_append.mpr
        ⟨hBlanks, List.forall_mem_singleton.mpr hBlank⟩
    rw [substance_pieces_of_blank hMoreBlanks,
      substance_pieces_of_blank hBlanks]
  · have hLine : restOfLine (p.text ++ joined qs) = p.text := by
      rcases hOpen with ⟨line, hLine⟩
      rw [hText] at hLine
      rcases List.cons.inj hLine with ⟨rfl, rfl⟩
      have hComment :=
        expression_first_slashes (line ++ joined qs)
      calc
        restOfLine (p.text ++ joined qs) =
            restOfLine ('/' :: '/' :: (line ++ joined qs)) :=
          congrArg (fun text => restOfLine (text ++ joined qs))
            hText
        _ = p.text :=
          congrArg Piece.text (hComment.symm.trans hFirst)
    have hLonger :
        restOfLine (p.text ++ [blank] ++ joined qs) =
          p.text ++ [blank] := by
      rw [← hMore]
      exact takeWhile_between p.text hColumn hLine
    have hOpenLonger : ['/', '/'] <+: p.text ++ [blank] :=
      hOpen.trans (List.prefix_append _ _)
    rw [substance_pieces_of_line hOpenLonger hLonger,
      substance_pieces_of_line hOpen hLine]

/-
  A blank between pieces of a formula changes none of those
  that are neither white space nor comments.
-/
theorem substance_pieces_spaced
    (hBlank : blank ≤ ' ')
    (hPieces :
      expression.pieces (joined (ps ++ qs)) = ps ++ qs)
    (hMore : qs ≠ []) :
    substance (expression.pieces
        (joined ps ++ blank :: joined qs)) =
      substance (expression.pieces (joined (ps ++ qs))) := by
  have hBack : joined qs ≠ [] := by
    intro hEmpty
    have hLater := expression.pieces_append hPieces
    rw [hEmpty, pieces_nil] at hLater
    exact hMore hLater.symm
  -- Each piece in front of the blank stays, or ends at it.
  induction ps with
  | nil =>
      have hOne : ∀ c ∈ [blank], c ≤ ' ' :=
        List.forall_mem_singleton.mpr hBlank
      exact substance_pieces_of_blank hOne (joined qs)
  | cons p ps ih =>
      rw [List.cons_append] at hPieces ⊢
      rcases expression.exists_of_pieces_cons hPieces with
        ⟨c, more, hText, hFirst, hLater⟩
      have hLength :
          p.text.length ≤ (more ++ joined ps).length + 1 := by
        rw [hText, List.length_append, List.length_cons]
        omega
      rw [joined_append, ← List.append_assoc] at hFirst
      by_cases hEnds :
          p.text.length < (more ++ joined ps).length + 1 ∨
            ¬ p.GoesOver blank
      · -- The first piece stays, and the blank is behind it.
        have hSame :
            expression.first c
              (more ++ (joined ps ++ blank :: joined qs)) =
                p := by
          rw [← List.append_assoc]
          rw [← hFirst] at hLength hEnds
          exact (expression_first_blank hBlank hBack hLength
            hEnds).trans hFirst
        have hSpaced := expression.pieces_of_first hText hSame
        rw [joined_cons, List.append_assoc, hSpaced, hPieces,
          ← hLater]
        exact substance_cons_congr p (ih hLater)
      · -- The first piece ends at the blank and goes over it.
        rcases not_or.mp hEnds with ⟨hReaches, hOver⟩
        have hNone : joined ps = [] := by
          apply List.eq_nil_of_length_eq_zero
          rw [hText, List.length_append, List.length_cons]
            at hReaches
          omega
        have hEmpty : ps = [] := by
          cases ps with
          | nil => rfl
          | cons q ps =>
              rcases expression.exists_of_pieces_cons hLater with
                ⟨d, rest, hNext, _, _⟩
              rw [joined_cons, hNext] at hNone
              cases hNone
        subst hEmpty
        rw [joined_cons, joined_nil, List.append_nil]
        exact substance_pieces_of_goesOver hBlank hPieces
          (Classical.not_not.mp hOver)

end Tokenizer

end Formula
