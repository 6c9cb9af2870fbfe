import Formula.Proofs.Text.Cursor
import Formula.Proofs.Token.Piece
import Formula.Token.Stream

/-
  Streams of tokens.

  The text in front of a cursor falls into raw tokens, one for
  each piece.  A stream gives these in order; the options drop
  some of them and adjust the others, and influence nothing
  that is read later.

  Key definitions include:
    * `Tokenizer.rawTokens`
    * `Tokenizer.decoded`
    * `Tokenizer.refine?`
    * `TokenStream.Gives`

  Main statements:
    * `Tokenizer.rawTokens_split`
    * `TokenStream.rest_eq`
    * `TokenStream.gives_drain`
-/

namespace Formula

------------------------------------------------------------
-- Raw Tokens
------------------------------------------------------------

/- The texts of some tokens, one behind the other. -/
def Token.joined
    (tokens : List Token) : List Char :=
  tokens.flatMap fun token => token.value.toList

@[simp] theorem Token.joined_nil :
    joined [] = [] := rfl

@[simp] theorem Token.joined_cons
    (token : Token)
    (tokens : List Token) :
    joined (token :: tokens) =
      token.value.toList ++ joined tokens := rfl

namespace Tokenizer

variable (t : Tokenizer)

/-
  The tokens in front of a cursor, with nothing dropped or
  adjusted.
-/
def rawTokens
    (k : Cursor) : List Token :=
  match _h : k.after with
  | [] => []
  | c :: rest =>
      let p := t.first c rest
      (k.take p).1 :: rawTokens (k.skip p.text.length)
termination_by k.after.length
decreasing_by
  have hPos := t.first_text_length_pos c rest
  simp only [Cursor.after_skip, _h, List.length_drop,
    List.length_cons]
  omega

theorem rawTokens_of_end
    {k : Cursor}
    (hAfter : k.after = []) :
    t.rawTokens k = [] := by
  rw [rawTokens]
  split
  · rfl
  · rename_i hMore
    cases hAfter.symm.trans hMore

theorem rawTokens_of_more
    {k : Cursor}
    {c : Char}
    {rest : List Char}
    (hAfter : k.after = c :: rest) :
    t.rawTokens k =
      (k.take (t.first c rest)).1 ::
        t.rawTokens
          (k.skip (t.first c rest).text.length) := by
  rw [rawTokens]
  split
  · rename_i hEnd
    cases hAfter.symm.trans hEnd
  · rename_i hMore
    cases hAfter.symm.trans hMore
    rfl

/- The raw tokens of a text make it up. -/
theorem joined_rawTokens
    (k : Cursor) :
    Token.joined (t.rawTokens k) = k.after := by
  fun_induction rawTokens t k with
  | case1 k hAfter => exact hAfter.symm
  | case2 k c rest hAfter p ih =>
      have hPrefix := t.first_isPrefix c rest
      rw [Token.joined_cons, ih, Cursor.after_skip, hAfter,
        Cursor.take, String.toList_ofList]
      exact List.prefix_iff_eq_append.mp hPrefix

/- A raw token is never empty. -/
theorem value_ne_nil_of_mem_rawTokens
    {k : Cursor}
    {token : Token}
    (hMem : token ∈ t.rawTokens k) :
    token.value.toList ≠ [] := by
  fun_induction rawTokens t k with
  | case1 => cases hMem
  | case2 k c rest hAfter p ih =>
      rcases List.mem_cons.mp hMem with rfl | hLater
      · have hPos := t.first_text_length_pos c rest
        rw [Cursor.take, String.toList_ofList]
        exact List.length_pos_iff.mp hPos
      · exact ih hLater

/- A raw token has the kind of a first piece. -/
theorem exists_first_of_mem_rawTokens
    {k : Cursor}
    {token : Token}
    (hMem : token ∈ t.rawTokens k) :
    ∃ c rest, token.kind = (t.first c rest).kind ∧
      token.value.toList = (t.first c rest).text := by
  fun_induction rawTokens t k with
  | case1 => cases hMem
  | case2 k c rest hAfter p ih =>
      rcases List.mem_cons.mp hMem with rfl | hLater
      · exact ⟨c, rest, rfl, String.toList_ofList⟩
      · exact ih hLater

/-
  The raw tokens behind some of them are those in front of the
  cursor that has moved past their texts.
-/
theorem rawTokens_split
    {k : Cursor}
    {before after : List Token}
    (hSplit : t.rawTokens k = before ++ after) :
    t.rawTokens (k.skip (Token.joined before).length) =
      after := by
  induction before generalizing k with
  | nil => exact hSplit
  | cons token before ih =>
      cases hAfter : k.after with
      | nil =>
          rw [t.rawTokens_of_end hAfter] at hSplit
          cases hSplit
      | cons c rest =>
          rw [t.rawTokens_of_more hAfter, List.cons_append]
            at hSplit
          rcases List.cons.inj hSplit with ⟨rfl, hRest⟩
          have hLater := ih hRest
          rw [Cursor.skip_skip] at hLater
          rw [Token.joined_cons, List.length_append,
            Cursor.take, String.toList_ofList]
          exact hLater

/- A raw token has the place of its first character. -/
theorem position_of_rawTokens_split
    {k : Cursor}
    {before after : List Token}
    {token : Token}
    (hSplit : t.rawTokens k = before ++ token :: after) :
    token.position =
      (k.skip (Token.joined before).length).ahead := by
  have hRest := t.rawTokens_split hSplit
  cases hAfter :
      (k.skip (Token.joined before).length).after with
  | nil =>
      rw [t.rawTokens_of_end hAfter] at hRest
      cases hRest
  | cons c rest =>
      rw [t.rawTokens_of_more hAfter] at hRest
      rw [← (List.cons.inj hRest).1]
      rfl

------------------------------------------------------------
-- Options
------------------------------------------------------------

/- The options drop tokens of a kind, or the mark of the end. -/
def drops
    (k : TokenKind) : Bool :=
  t.options.skips k || (k == .eof && t.options.skipEof)

/-
  A token with its text taken out of its quotes, if the
  options ask for it and its first character is a quote.
-/
def decoded
    (token : Token) : Token :=
  match token.value.toList with
  | [] => token
  | c :: rest =>
      ⟨token.kind,
        String.ofList (t.valueOf c ⟨token.kind, c :: rest⟩),
        token.position⟩

@[simp] theorem kind_decoded
    (token : Token) :
    (t.decoded token).kind = token.kind := by
  unfold decoded
  split
  · rfl
  · rfl

@[simp] theorem position_decoded
    (token : Token) :
    (t.decoded token).position = token.position := by
  unfold decoded
  split
  · rfl
  · rfl

/- What the options make of a raw token. -/
def refine?
    (token : Token) : Option Token :=
  if t.drops token.kind then none
  else some (t.options.adjust (t.decoded token))

/- A first piece begins with the first character. -/
theorem exists_first_text_eq
    (c : Char)
    (rest : List Char) :
    ∃ more, (t.first c rest).text = c :: more := by
  have hPos := t.first_text_length_pos c rest
  have hPrefix := t.first_isPrefix c rest
  cases hText : (t.first c rest).text with
  | nil =>
      rw [hText] at hPos
      cases hPos
  | cons d more =>
      rw [hText] at hPrefix
      exact ⟨more, by rw [(List.cons_prefix_cons.mp hPrefix).1]⟩

/- A piece that was read is decoded from its first character. -/
theorem decoded_take
    (k : Cursor)
    (c : Char)
    (rest : List Char) :
    t.decoded (k.take (t.first c rest)).1 =
      ⟨(t.first c rest).kind,
        String.ofList (t.valueOf c (t.first c rest)),
        k.ahead⟩ := by
  rcases t.exists_first_text_eq c rest with ⟨more, hText⟩
  have hPiece :
      (⟨(t.first c rest).kind, c :: more⟩ : Piece) =
        t.first c rest := by
    rw [← hText]
  unfold decoded
  rw [Cursor.take, String.toList_ofList, hText]
  dsimp only
  rw [hPiece]

/- Only the mark of the end is dropped as such. -/
theorem drops_of_ne_eof
    {kind : TokenKind}
    (hKind : kind ≠ .eof) :
    t.drops kind = t.options.skips kind := by
  have hOther : (kind == .eof) = false := by simpa using hKind
  rw [drops, hOther, Bool.false_and, Bool.or_false]

/- What the options make of a piece. -/
theorem refine?_take
    {k : Cursor}
    {c : Char}
    {rest : List Char}
    (hKind : (t.first c rest).kind ≠ .eof) :
    t.refine? (k.take (t.first c rest)).1 =
      if t.options.skips (t.first c rest).kind then none
      else some (t.options.adjust
        ⟨(t.first c rest).kind,
          String.ofList (t.valueOf c (t.first c rest)),
          k.ahead⟩) := by
  have hDrops :
      t.drops (k.take (t.first c rest)).1.kind =
        t.options.skips (t.first c rest).kind :=
    t.drops_of_ne_eof hKind
  rw [refine?, t.decoded_take]
  simp only [hDrops]

end Tokenizer

/- The token that marks the end of the text to come. -/
def Cursor.endToken
    (k : Cursor) : Token :=
  ⟨.eof, "", (k.skip k.after.length).ahead⟩

------------------------------------------------------------
-- Streams
------------------------------------------------------------

namespace TokenStream

variable {t : Tokenizer}
variable {k : Cursor}

/- A stream gives some tokens, and then nothing. -/
inductive Gives :
    TokenStream → List Token → TokenStream → Prop where
  | nothing
      {s last : TokenStream}
      (hNext : s.next = (none, last)) :
      Gives s [] last
  | token
      {s behind last : TokenStream}
      {token : Token}
      {tokens : List Token}
      (hNext : s.next = (some token, behind))
      (hRest : Gives behind tokens last) :
      Gives s (token :: tokens) last

/- A stream gives the tokens that are left. -/
theorem gives_drain
    (s : TokenStream) :
    s.Gives s.rest s.drain.2 := by
  unfold rest
  fun_induction drain s with
  | case1 s behind hNext => exact .nothing hNext
  | case2 s token behind hNext tokens last hDrain ih =>
      rw [hDrain] at ih
      exact .token hNext ih

/- At its end a stream stays. -/
theorem next_of_next_none
    {s last : TokenStream}
    (hNext : s.next = (none, last)) :
    last.next = (none, last) := by
  fun_induction next s with
  | case1 s hAfter last' hEnded =>
      rw [← (Prod.mk.inj hNext).2, next]
      split
      · simp [last']
      · rename_i hMore
        cases hAfter.symm.trans hMore
  | case2 s hAfter last' hEnded => cases hNext
  | case3 s c rest hAfter p behind hSkip ih => exact ih hNext
  | case4 s c rest hAfter p behind hSkip value token =>
      cases hNext

/- A stream that has given its tokens gives no more. -/
theorem Gives.next_eq
    {s last : TokenStream}
    {tokens : List Token}
    (hGives : s.Gives tokens last) :
    last.next = (none, last) := by
  induction hGives with
  | nothing hNext => exact next_of_next_none hNext
  | token hNext hRest ih => exact ih

theorem drain_of_none
    {s last : TokenStream}
    (hNext : s.next = (none, last)) :
    s.rest = [] := by
  rw [rest, drain]
  split
  · rfl
  · rename_i hSome
    cases hNext.symm.trans hSome

theorem drain_of_some
    {s behind : TokenStream}
    {token : Token}
    (hNext : s.next = (some token, behind)) :
    s.rest = token :: behind.rest := by
  rw [rest, drain]
  split
  · rename_i hNone
    cases hNext.symm.trans hNone
  · rename_i hSome
    cases hNext.symm.trans hSome
    rfl

/- Where the text has ended, the mark of its end is left. -/
theorem rest_of_end
    (hAfter : k.after = []) :
    (TokenStream.mk t k false).rest =
      if t.options.skipEof then [] else [k.endToken] := by
  have hNext :
      (TokenStream.mk t k false).next =
        if t.options.skipEof then
          (none, ⟨t, k, true⟩)
        else (some ⟨.eof, "", k.ahead⟩, ⟨t, k, true⟩) := by
    rw [next]
    split
    · simp [eofToken]
    · rename_i hMore
      cases hAfter.symm.trans hMore
  have hLast :
      (TokenStream.mk t k true).next =
        (none, ⟨t, k, true⟩) := by
    rw [next]
    split
    · simp
    · rename_i hMore
      cases hAfter.symm.trans hMore
  split
  · rename_i hSkip
    rw [if_pos hSkip] at hNext
    exact drain_of_none hNext
  · rename_i hSkip
    rw [if_neg hSkip] at hNext
    rw [drain_of_some hNext, drain_of_none hLast]
    simp [Cursor.endToken, hAfter, Cursor.skip]

/- What is left depends on what comes next only. -/
theorem rest_congr
    {s s' : TokenStream}
    (hNext : s.next = s'.next) :
    s.rest = s'.rest := by
  cases hGiven : s.next with
  | mk given behind =>
      rw [hGiven] at hNext
      cases given with
      | none =>
          rw [drain_of_none hGiven, drain_of_none hNext.symm]
      | some token =>
          rw [drain_of_some hGiven, drain_of_some hNext.symm]

/- The next piece is passed over, or given. -/
theorem next_of_more
    {c : Char}
    {rest : List Char}
    (hEofFree : t.IsEofFree)
    (hAfter : k.after = c :: rest) :
    (TokenStream.mk t k false).next =
      match t.refine? (k.take (t.first c rest)).1 with
      | none =>
          (TokenStream.mk t (k.take (t.first c rest)).2
            false).next
      | some token =>
          (some token, ⟨t, (k.take (t.first c rest)).2, false⟩)
    := by
  have hKind := t.first_kind_ne_eof hEofFree c rest
  have hOpen :
      ((t.first c rest).kind == TokenKind.eof) = false := by
    simpa using hKind
  rw [t.refine?_take hKind, next]
  split
  · rename_i hEnd
    cases hAfter.symm.trans hEnd
  · rename_i hMore
    cases hAfter.symm.trans hMore
    dsimp only
    rw [hOpen]
    split
    · rfl
    · rfl

/- A piece of the text becomes what the options make of it. -/
theorem rest_of_more
    {c : Char}
    {rest : List Char}
    (hEofFree : t.IsEofFree)
    (hAfter : k.after = c :: rest) :
    (TokenStream.mk t k false).rest =
      (t.refine? (k.take (t.first c rest)).1).toList ++
        (TokenStream.mk t
          (k.skip (t.first c rest).text.length) false).rest := by
  have hNext := next_of_more hEofFree hAfter
  cases hKept : t.refine? (k.take (t.first c rest)).1 with
  | none =>
      rw [hKept] at hNext
      exact rest_congr hNext
  | some token =>
      rw [hKept] at hNext
      exact drain_of_some hNext

/- The end of a text is the same from all of its places. -/
theorem endToken_skip
    {n : Nat}
    (hLength : n ≤ k.after.length) :
    (k.skip n).endToken = k.endToken := by
  have hTotal : n + (k.after.length - n) = k.after.length :=
    Nat.add_sub_cancel' hLength
  rw [Cursor.endToken, Cursor.endToken, Cursor.after_skip,
    List.length_drop, Cursor.skip_skip, hTotal]

/-
  A stream gives what the options make of the raw tokens, and
  the mark of the end.
-/
theorem rest_eq
    (hEofFree : t.IsEofFree)
    (k : Cursor) :
    (TokenStream.mk t k false).rest =
      (t.rawTokens k).filterMap t.refine? ++
        if t.options.skipEof then [] else [k.endToken] := by
  fun_induction Tokenizer.rawTokens t k with
  | case1 k hAfter => exact rest_of_end hAfter
  | case2 k c rest hAfter p ih =>
      have hLength : p.text.length ≤ k.after.length := by
        rw [hAfter]
        exact (t.first_isPrefix c rest).length_le
      rw [rest_of_more hEofFree hAfter, ih,
        endToken_skip hLength, List.filterMap_cons,
        ← List.append_assoc]
      cases t.refine? (k.take p).1 with
      | none => rfl
      | some token => rfl

end TokenStream

/- The tokens of a text, from its raw tokens. -/
theorem Tokenizer.tokens_eq
    {t : Tokenizer}
    (hEofFree : t.IsEofFree)
    (text : String) :
    t.tokens text =
      (t.rawTokens (.ofList text.toList)).filterMap
        t.refine? ++
        if t.options.skipEof then []
        else [(Cursor.ofList text.toList).endToken] :=
  TokenStream.rest_eq hEofFree _

end Formula
