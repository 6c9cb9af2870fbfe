import Mathlib.Data.List.TakeWhile
import Formula.Proofs.Token.Lookahead
import Formula.Proofs.Token.Symbol
import Formula.Token.CommentWalk

/-
  Where comments end.

  A cursor that reads a comment reads what its text begins
  with.  A block goes through the first end mark behind the
  mark that opens it, and a line up to the next break.  What
  opens neither is left to the symbols, with the cursor where
  it was.

  Key definitions include:
    * `blockTail`
    * `HasEndMark`
    * `EndsBlock`
    * `EndsLine`
    * `commentBetween`

  Main statements:
    * `Cursor.readBlock_opened`
    * `CommentRule.next_eq_take`
    * `EndsBlock.unique`, `EndsLine.unique`
    * `CommentRule.slash_next_past`
-/

namespace Formula

------------------------------------------------------------
-- Lines
------------------------------------------------------------

/- A character behind one text is the first of the other. -/
theorem push_append_ofList
    (value : String)
    (c : Char)
    (rest : List Char) :
    value.push c ++ String.ofList rest =
      value ++ String.ofList (c :: rest) := by
  rw [String.ofList_cons, ← String.append_assoc,
    String.append_singleton]

/- A cursor reads the line that its text begins with. -/
theorem Cursor.readLine_eq
    (k : Cursor)
    (value : String) :
    k.readLine value =
      (value ++ String.ofList (restOfLine k.after),
        k.skip (restOfLine k.after).length) := by
  fun_induction readLine k value with
  | case1 k value hAfter =>
      rw [hAfter]
      exact Prod.ext (String.append_empty).symm rfl
  | case2 k value c rest hAfter hColumn ih =>
      have hLine :
          restOfLine (c :: rest) = c :: restOfLine rest :=
        List.takeWhile_cons_of_pos hColumn
      rw [ih, after_read_of_more hAfter, hAfter, hLine,
        push_append_ofList]
      rfl
  | case3 k value c rest hAfter hOther =>
      have hLine : restOfLine (c :: rest) = [] :=
        List.takeWhile_cons_of_neg hOther
      rw [hAfter, hLine]
      exact Prod.ext (String.append_empty).symm rfl

------------------------------------------------------------
-- Blocks
------------------------------------------------------------

/- What is left of a block behind one of its characters. -/
def blockTail
    (last : Option Char)
    (text : List Char) : List Char :=
  if last = some '*' ∧ text.head? = some '/' then ['/']
  else throughBlockEnd text

/- The end mark is found by its star, and then by its slash. -/
theorem throughBlockEnd_eq_cons
    (c : Char)
    (rest : List Char) :
    throughBlockEnd (c :: rest) =
      c :: blockTail (some c) rest := by
  unfold blockTail
  split
  · rename_i hMark
    rcases List.head?_eq_some_iff.mp hMark.2 with ⟨more, rfl⟩
    cases hMark.1
    rfl
  · rename_i hOpen
    apply throughBlockEnd_cons
    intro hStar hSlash
    exact hOpen ⟨congrArg some hStar, hSlash⟩

namespace Cursor

variable {k : Cursor}

/-
  Once three bytes have been read, the next character makes
  them more, and a star that was read last may be closed.
-/
theorem readBlock_eq
    {last : Option Char}
    {value : String}
    (hLong : 3 ≤ value.utf8ByteSize) :
    k.readBlock last value =
      (value ++ String.ofList (blockTail last k.after),
        k.skip (blockTail last k.after).length) := by
  fun_induction readBlock k last value with
  | case1 k last value hAfter =>
      have hTail : blockTail last [] = [] :=
        if_neg fun hMark => by cases hMark.2
      rw [hAfter, hTail]
      exact Prod.ext (String.append_empty).symm rfl
  | case2 k last value c rest hAfter longer hClosed =>
      have hTail : blockTail last (c :: rest) = ['/'] :=
        if_pos ⟨hClosed.1, congrArg some hClosed.2.1⟩
      rw [hAfter, hTail, String.ofList_cons, String.ofList_nil,
        String.append_empty, String.append_singleton,
        ← hClosed.2.1]
      rfl
  | case3 k last value c rest hAfter longer hOpen ih =>
      have hLonger : 3 < longer.utf8ByteSize := by
        have hPos := c.utf8Size_pos
        dsimp only [longer]
        rw [String.utf8ByteSize_push]
        omega
      have hTail :
          blockTail last (c :: rest) =
            c :: blockTail (some c) rest := by
        rw [← throughBlockEnd_eq_cons]
        apply if_neg
        intro hMark
        exact hOpen
          ⟨hMark.1, Option.some.inj hMark.2, hLonger⟩
      rw [ih (Nat.le_of_lt hLonger),
        after_read_of_more hAfter, hAfter, hTail,
        push_append_ofList]
      rfl

theorem readBlock_of_end
    (hAfter : k.after = [])
    (last : Option Char)
    (value : String) :
    k.readBlock last value = (value, k) := by
  rw [readBlock]
  split
  · rfl
  · rename_i hMore
    cases hAfter.symm.trans hMore

theorem readBlock_of_more
    {c : Char}
    {rest : List Char}
    (hAfter : k.after = c :: rest)
    (last : Option Char)
    (value : String) :
    k.readBlock last value =
      if last = some '*' ∧ c = '/' ∧
          3 < (value.push c).utf8ByteSize
      then (value.push c, k.read)
      else k.read.readBlock (some c) (value.push c) := by
  rw [readBlock]
  split
  · rename_i hEnd
    cases hAfter.symm.trans hEnd
  · rename_i hMore
    cases hAfter.symm.trans hMore
    rfl

/-
  A block is read through its end mark.  The mark that opens it
  and a slash behind that are three bytes, so that they do not
  close it.
-/
theorem readBlock_opened
    {rest : List Char}
    (hAfter : k.after = '*' :: rest) :
    k.readBlock none "/" =
      (String.ofList ('/' :: '*' :: throughBlockEnd rest),
        k.skip ('*' :: throughBlockEnd rest).length) := by
  have hRest : k.read.after = rest :=
    after_read_of_more hAfter
  rw [readBlock_of_more hAfter, if_neg (by simp)]
  cases rest with
  | nil =>
      rw [readBlock_of_end hRest]
      rfl
  | cons c rest =>
      have hOpen :
          ¬ (some '*' = some '*' ∧ c = '/' ∧
            3 < (("/".push '*').push c).utf8ByteSize) := by
        rintro ⟨-, rfl, hLong⟩
        exact absurd hLong (by decide)
      have hLong :
          3 ≤ (("/".push '*').push c).utf8ByteSize := by
        have hPos := c.utf8Size_pos
        have hMark : ("/".push '*').utf8ByteSize = 2 := by
          decide
        rw [String.utf8ByteSize_push, hMark]
        omega
      rw [readBlock_of_more hRest, if_neg hOpen,
        readBlock_eq hLong, after_read_of_more hRest,
        throughBlockEnd_eq_cons]
      have hSlash : "/" = String.singleton '/' := rfl
      rw [push_append_ofList, push_append_ofList, hSlash,
        ← String.ofList_cons]
      rfl

end Cursor

------------------------------------------------------------
-- Comments
------------------------------------------------------------

namespace CommentRule

variable {symbols : SymbolTree}
variable {k : Cursor}
variable {text rest : List Char}

/- What opens no block is a symbol where lines are no comments. -/
theorem read_block_of_other
    (hStar : ∀ rest, text ≠ '/' :: '*' :: rest) :
    block.read symbols text = symbols.read text := by
  unfold read
  split
  · contradiction
  · exact absurd rfl (hStar _)
  · contradiction
  · rfl

/- What opens neither a block nor a line is a symbol. -/
theorem read_slash_of_other
    (hStar : ∀ rest, text ≠ '/' :: '*' :: rest)
    (hSlash : ∀ rest, text ≠ '/' :: '/' :: rest) :
    slash.read symbols text = symbols.read text := by
  unfold read
  split
  · contradiction
  · exact absurd rfl (hStar _)
  · exact absurd rfl (hSlash _)
  · rfl

/- A cursor reads a block through its end mark. -/
theorem nextSlash_of_star
    (hAfter : k.after = '/' :: '*' :: rest)
    (lines : Bool)
    (symbols : SymbolTree) :
    nextSlash lines symbols k =
      k.take
        ⟨.comment, '/' :: '*' :: throughBlockEnd rest⟩ := by
  have hRest : k.read.after = '*' :: rest :=
    Cursor.after_read_of_more hAfter
  have hSlash : k.peek = some '/' :=
    Cursor.peek_eq_some_iff.mpr ⟨_, hAfter⟩
  have hStar : k.read.peek = some '*' :=
    Cursor.peek_eq_some_iff.mpr ⟨_, hRest⟩
  rw [nextSlash, if_pos hSlash]
  dsimp only
  rw [if_pos hStar, Cursor.readBlock_opened hRest,
    Cursor.peekLine_eq, Cursor.peekColumn_eq]
  rfl

/- A cursor reads a line up to its end. -/
theorem nextSlash_of_slash
    (hAfter : k.after = '/' :: '/' :: rest)
    (symbols : SymbolTree) :
    nextSlash true symbols k =
      k.take ⟨.comment, restOfLine k.after⟩ := by
  have hRest : k.read.after = '/' :: rest :=
    Cursor.after_read_of_more hAfter
  have hSlash : k.peek = some '/' :=
    Cursor.peek_eq_some_iff.mpr ⟨_, hAfter⟩
  have hOther : k.read.peek = some '/' :=
    Cursor.peek_eq_some_iff.mpr ⟨_, hRest⟩
  have hLine :
      restOfLine ('/' :: '/' :: rest) =
        '/' :: restOfLine ('/' :: rest) := rfl
  rw [nextSlash, if_pos hSlash]
  dsimp only
  rw [hOther, if_neg (by decide), if_pos ⟨rfl, rfl⟩,
    Cursor.readLine_eq, Cursor.peekLine_eq,
    Cursor.peekColumn_eq, hRest, hAfter, hLine, Cursor.take,
    String.ofList_cons]
  rfl

/-
  What opens no comment is left to the symbols, and the cursor
  is back where it was.
-/
theorem nextSlash_of_other
    {lines : Bool}
    (hSettled : k.IsSettled)
    (hStar : ∀ rest, k.after ≠ '/' :: '*' :: rest)
    (hSlash :
      lines = true → ∀ rest, k.after ≠ '/' :: '/' :: rest)
    (symbols : SymbolTree) :
    nextSlash lines symbols k = symbols.next k := by
  unfold nextSlash
  split
  · rename_i hFirst
    rcases Cursor.peek_eq_some_iff.mp hFirst with
      ⟨rest, hAfter⟩
    have hMore : k.after ≠ [] := by
      rw [hAfter]
      exact List.cons_ne_nil _ _
    have hSecond {c : Char} (hPeek : k.read.peek = some c) :
        ∃ more, k.after = '/' :: c :: more := by
      rcases Cursor.peek_eq_some_iff.mp hPeek with
        ⟨more, hRest⟩
      rw [Cursor.after_read_of_more hAfter] at hRest
      exact ⟨more, hRest ▸ hAfter⟩
    have hNoStar : k.read.peek ≠ some '*' := by
      intro hPeek
      rcases hSecond hPeek with ⟨more, hText⟩
      exact hStar more hText
    have hNoSlash : ¬ (k.read.peek = some '/' ∧ lines) := by
      rintro ⟨hPeek, hLines⟩
      rcases hSecond hPeek with ⟨more, hText⟩
      exact hSlash hLines more hText
    dsimp only
    rw [if_neg hNoStar, if_neg hNoSlash,
      Cursor.unread_read hSettled hMore]
  · rfl

/- The rest of a line is read as its text has it. -/
theorem nextLine_eq_take
    (k : Cursor) :
    nextLine k = k.take ⟨.comment, restOfLine k.after⟩ := by
  rw [nextLine, Cursor.readLine_eq, String.empty_append,
    Cursor.peekLine_eq, Cursor.peekColumn_eq]
  rfl

/- A cursor reads what its text begins with. -/
theorem next_eq_take
    (r : CommentRule)
    (hFirsts : symbols.MarksFirsts)
    (hSettled : k.IsSettled) :
    r.next symbols k = k.take (r.read symbols k.after) := by
  have hSymbol := SymbolTree.next_eq_take hFirsts hSettled
  by_cases hStar : ∃ rest, k.after = '/' :: '*' :: rest
  · rcases hStar with ⟨rest, hAfter⟩
    cases r with
    | line => exact nextLine_eq_take k
    | block =>
        rw [next, nextSlash_of_star hAfter, hAfter]
        rfl
    | slash =>
        rw [next, nextSlash_of_star hAfter, hAfter]
        rfl
  have hNoStar : ∀ rest, k.after ≠ '/' :: '*' :: rest :=
    fun rest hAfter => hStar ⟨rest, hAfter⟩
  cases r with
  | line => exact nextLine_eq_take k
  | block =>
      rw [next, read_block_of_other hNoStar, ← hSymbol]
      exact nextSlash_of_other hSettled hNoStar (by simp) symbols
  | slash =>
      by_cases hSlash : ∃ rest, k.after = '/' :: '/' :: rest
      · rcases hSlash with ⟨rest, hAfter⟩
        rw [next, nextSlash_of_slash hAfter, hAfter]
        rfl
      · have hNoSlash : ∀ rest, k.after ≠ '/' :: '/' :: rest :=
          fun rest hAfter => hSlash ⟨rest, hAfter⟩
        rw [next, read_slash_of_other hNoStar hNoSlash,
          ← hSymbol]
        exact nextSlash_of_other hSettled hNoStar
          (fun _ => hNoSlash) symbols

end CommentRule

------------------------------------------------------------
-- Ends of Comments
------------------------------------------------------------

/- The mark that ends a block begins at an index of a text. -/
def HasEndMark
    (text : List Char)
    (i : Nat) : Prop :=
  text[i]? = some '*' ∧ text[i + 1]? = some '/'

/-
  A block whose characters begin at `inside` ends behind the
  first end mark from there on, or else with the text.
-/
inductive EndsBlock
    (text : List Char)
    (inside : Nat) : Nat → Prop where
  | closed
      {i : Nat}
      (hInside : inside ≤ i)
      (hMark : HasEndMark text i)
      (hFirst :
        ∀ j, inside ≤ j → j < i → ¬ HasEndMark text j) :
      EndsBlock text inside (i + 2)
  | unclosed
      (hOpen : ∀ i, inside ≤ i → ¬ HasEndMark text i) :
      EndsBlock text inside text.length

/- A character ends a line. -/
def BreaksLine
    (c : Char) : Prop :=
  c = '\r' ∨ c = '\n'

/-
  A line that begins at `start` ends in front of the first
  break from there on, or else with the text.
-/
structure EndsLine
    (text : List Char)
    (start stop : Nat) : Prop where
  start_le : start ≤ stop
  stop_le : stop ≤ text.length
  not_breaksLine :
    ∀ i c, start ≤ i → i < stop → text[i]? = some c →
      ¬ BreaksLine c
  breaksLine : ∀ c, text[stop]? = some c → BreaksLine c

/- A block ends in one place. -/
theorem EndsBlock.unique
    {text : List Char}
    {inside stop stop' : Nat}
    (hEnds : EndsBlock text inside stop)
    (hEnds' : EndsBlock text inside stop') :
    stop = stop' := by
  cases hEnds with
  | @closed i hInside hMark hFirst =>
      cases hEnds' with
      | @closed j hInside' hMark' hFirst' =>
          have hNotAfter : ¬ j < i :=
            fun hBefore => hFirst j hInside' hBefore hMark'
          have hNotBefore : ¬ i < j :=
            fun hBefore => hFirst' i hInside hBefore hMark
          omega
      | unclosed hOpen => exact absurd hMark (hOpen i hInside)
  | unclosed hOpen =>
      cases hEnds' with
      | @closed j hInside' hMark' _ =>
          exact absurd hMark' (hOpen j hInside')
      | unclosed _ => rfl

/- Of two ends of a line, none comes before the other. -/
theorem EndsLine.le
    {text : List Char}
    {start stop stop' : Nat}
    (hEnds : EndsLine text start stop)
    (hEnds' : EndsLine text start stop') :
    stop' ≤ stop := by
  by_contra hBefore
  have hChar := List.getElem?_eq_getElem
    (Nat.lt_of_lt_of_le (Nat.lt_of_not_le hBefore)
      hEnds'.stop_le)
  exact hEnds'.not_breaksLine stop _ hEnds.start_le
    (Nat.lt_of_not_le hBefore) hChar
    (hEnds.breaksLine _ hChar)

theorem EndsLine.unique
    {text : List Char}
    {start stop stop' : Nat}
    (hEnds : EndsLine text start stop)
    (hEnds' : EndsLine text start stop') :
    stop = stop' :=
  Nat.le_antisymm (hEnds'.le hEnds) (hEnds.le hEnds')

theorem takesColumn_iff
    {c : Char} :
    takesColumn c = true ↔ ¬ BreaksLine c := by
  simp only [takesColumn, BreaksLine, Bool.and_eq_true,
    bne_iff_ne, not_or, And.comm]

/- A block goes through its first end mark. -/
theorem endsBlock_throughBlockEnd
    (text : List Char) :
    EndsBlock text 0 (throughBlockEnd text).length := by
  fun_induction throughBlockEnd text with
  | case1 =>
      apply EndsBlock.unclosed
      rintro i - ⟨hStar, -⟩
      cases hStar
  | case2 rest =>
      exact .closed (Nat.le_refl 0) ⟨rfl, rfl⟩
        fun j _ hBefore => absurd hBefore (Nat.not_lt_zero j)
  | case3 c rest hOther ih =>
      have hFirst : ¬ HasEndMark (c :: rest) 0 := by
        rintro ⟨hStar, hSlash⟩
        cases hStar
        cases rest with
        | nil => cases hSlash
        | cons d rest =>
            cases hSlash
            exact hOther rest rfl rfl
      have hShift (i : Nat) :
          HasEndMark (c :: rest) (i + 1) ↔ HasEndMark rest i :=
        Iff.rfl
      rw [List.length_cons]
      generalize (throughBlockEnd rest).length = length at ih
      cases ih with
      | @closed i hInside hMark hEarlier =>
          refine .closed (Nat.zero_le _)
            ((hShift i).mpr hMark) ?_
          intro j _ hBefore
          cases j with
          | zero => exact hFirst
          | succ j =>
              exact hEarlier j (Nat.zero_le j)
                (Nat.lt_of_succ_lt_succ hBefore)
      | unclosed hOpen =>
          refine @EndsBlock.unclosed (c :: rest) 0 ?_
          intro i _
          cases i with
          | zero => exact hFirst
          | succ i => exact hOpen i (Nat.zero_le i)

theorem hasEndMark_drop
    (text : List Char)
    (n i : Nat) :
    HasEndMark (text.drop n) i ↔ HasEndMark text (n + i) := by
  rw [HasEndMark, HasEndMark, List.getElem?_drop,
    List.getElem?_drop, Nat.add_assoc]

/- The end of a block, counted from the start of the text. -/
theorem EndsBlock.of_drop
    {text : List Char}
    {n stop : Nat}
    (hEnds : EndsBlock (text.drop n) 0 stop)
    (hInside : n ≤ text.length) :
    EndsBlock text n (n + stop) := by
  have hShift {j : Nat} (hBehind : n ≤ j) :
      HasEndMark text j → HasEndMark (text.drop n) (j - n) := by
    rw [hasEndMark_drop, Nat.add_sub_cancel' hBehind]
    exact id
  cases hEnds with
  | @closed i _ hMark hFirst =>
      rw [← Nat.add_assoc]
      refine .closed (Nat.le_add_right n i)
        ((hasEndMark_drop text n i).mp hMark) ?_
      intro j hBehind hBefore hEarlier
      exact hFirst (j - n) (Nat.zero_le _) (by omega)
        (hShift hBehind hEarlier)
  | unclosed hOpen =>
      have hLength : n + (text.drop n).length = text.length := by
        rw [List.length_drop]
        omega
      rw [hLength]
      apply EndsBlock.unclosed
      intro i hBehind hMark
      exact hOpen (i - n) (Nat.zero_le _)
        (hShift hBehind hMark)

/- A line goes up to the first break. -/
theorem endsLine_restOfLine
    {text : List Char}
    {n : Nat}
    (hInside : n ≤ text.length) :
    EndsLine text n (n + (restOfLine (text.drop n)).length) := by
  have hSplit :
      restOfLine (text.drop n) ++
          (text.drop n).dropWhile takesColumn =
        text.drop n :=
    List.takeWhile_append_dropWhile
  have hChars (i : Nat) :
      text[n + i]? =
        (restOfLine (text.drop n) ++
          (text.drop n).dropWhile takesColumn)[i]? := by
    rw [hSplit, List.getElem?_drop]
  constructor
  · exact Nat.le_add_right n _
  · have hLength := congrArg List.length hSplit
    rw [List.length_append, List.length_drop] at hLength
    omega
  · intro i c hBehind hBefore hChar
    apply takesColumn_iff.mp
    have hMem : c ∈ restOfLine (text.drop n) := by
      rw [← Nat.add_sub_cancel' hBehind, hChars,
        List.getElem?_append_left (by omega)] at hChar
      exact List.mem_of_getElem? hChar
    exact List.mem_takeWhile_imp hMem
  · intro c hChar
    have hBreak := List.head?_dropWhile_not takesColumn
      (text.drop n)
    rw [hChars, List.getElem?_append_right (Nat.le_refl _),
      Nat.sub_self, ← List.head?_eq_getElem?] at hChar
    rw [hChar] at hBreak
    apply Classical.not_not.mp
    rw [← takesColumn_iff, hBreak]
    exact Bool.false_ne_true

------------------------------------------------------------
-- Comments in Texts
------------------------------------------------------------

/-
  The comment from one index of a text to another one, and the
  cursor behind it.
-/
def commentBetween
    (text : List Char)
    (start stop : Nat) : Token × Cursor :=
  (⟨.comment,
      String.ofList ((text.drop start).take (stop - start)),
      Cursor.placeAt text start⟩,
    .past text stop)

theorem take_comment
    {text comment : List Char}
    {n : Nat}
    (hPrefix : comment <+: text.drop n) :
    (Cursor.past text n).take ⟨.comment, comment⟩ =
      commentBetween text n (n + comment.length) := by
  rw [Cursor.take_past, commentBetween, Nat.add_sub_cancel_left,
    ← List.prefix_iff_eq_take.mp hPrefix]

theorem drop_of_getElem?
    {text : List Char}
    {n : Nat}
    {c : Char}
    (hChar : text[n]? = some c) :
    text.drop n = c :: text.drop (n + 1) := by
  rcases List.getElem?_eq_some_iff.mp hChar with ⟨hInside, rfl⟩
  exact List.drop_eq_getElem_cons hInside

namespace CommentRule

variable {text : List Char}
variable {n : Nat}

/- A slash and a star open a block. -/
theorem exists_nextSlash_block
    (hSlash : text[n]? = some '/')
    (hStar : text[n + 1]? = some '*')
    (symbols : SymbolTree) :
    ∃ stop, EndsBlock text (n + 2) stop ∧
      ∀ lines,
        nextSlash lines symbols (.past text n) =
          commentBetween text n stop := by
  have hText :
      text.drop n = '/' :: '*' :: text.drop (n + 2) := by
    rw [drop_of_getElem? hSlash, drop_of_getElem? hStar]
  have hPrefix :
      '/' :: '*' :: throughBlockEnd (text.drop (n + 2)) <+:
        text.drop n := by
    rw [hText]
    apply (List.prefix_cons_inj _).mpr
    apply (List.prefix_cons_inj _).mpr
    exact throughBlockEnd_isPrefix _
  have hInside : n + 2 ≤ text.length :=
    (List.getElem?_eq_some_iff.mp hStar).1
  refine ⟨_, (endsBlock_throughBlockEnd _).of_drop hInside, ?_⟩
  intro lines
  have hAfter :
      (Cursor.past text n).after =
        '/' :: '*' :: text.drop (n + 2) := by
    rw [Cursor.after_past, hText]
  rw [nextSlash_of_star hAfter, take_comment hPrefix,
    List.length_cons, List.length_cons]
  congr 1
  omega

/- Two slashes open a line. -/
theorem exists_nextSlash_line
    (hFirst : text[n]? = some '/')
    (hSlash : text[n + 1]? = some '/')
    (symbols : SymbolTree) :
    ∃ stop, EndsLine text n stop ∧
      nextSlash true symbols (.past text n) =
        commentBetween text n stop := by
  have hAfter :
      (Cursor.past text n).after =
        '/' :: '/' :: text.drop (n + 2) := by
    rw [Cursor.after_past, drop_of_getElem? hFirst,
      drop_of_getElem? hSlash]
  have hInside : n ≤ text.length :=
    Nat.le_of_lt (List.getElem?_eq_some_iff.mp hFirst).1
  refine ⟨_, endsLine_restOfLine hInside, ?_⟩
  rw [nextSlash_of_slash hAfter, Cursor.after_past]
  exact take_comment (List.takeWhile_prefix _)

/- Another character does not follow. -/
theorem after_past_ne
    {c : Char}
    (hOther : text[n + 1]? ≠ some c)
    (rest : List Char) :
    (Cursor.past text n).after ≠ '/' :: c :: rest := by
  rw [Cursor.after_past]
  intro hText
  have hNext : (text.drop n)[1]? = some c := by
    rw [hText]
    rfl
  rw [List.getElem?_drop] at hNext
  exact hOther hNext

/-
  A slash with a star behind it opens a block, which goes
  through the first end mark behind these two, or else to the
  end of the text.  Under the rule for lines and blocks, two
  slashes open a line, which goes up to the next break.  In all
  other cases the cursor is where it was when the symbol is
  read, and so it is for two slashes under the rule for blocks
  alone.  What is read is what the rule takes from the text.
-/
theorem slash_next_past
    (symbols : SymbolTree)
    (text : List Char)
    (n : Nat)
    (hSlash : text[n]? = some '/') :
    let k := Cursor.past text n
    (text[n + 1]? = some '*' →
      ∃ stop, EndsBlock text (n + 2) stop ∧
        slash.next symbols k = commentBetween text n stop ∧
        block.next symbols k = commentBetween text n stop) ∧
    (text[n + 1]? = some '/' →
      (∃ stop, EndsLine text n stop ∧
        slash.next symbols k = commentBetween text n stop) ∧
      block.next symbols k = symbols.next k) ∧
    (text[n + 1]? ≠ some '*' → text[n + 1]? ≠ some '/' →
      slash.next symbols k = symbols.next k ∧
      block.next symbols k = symbols.next k) ∧
    (symbols.MarksFirsts →
      ∀ r : CommentRule,
        r.next symbols k =
          k.take (r.read symbols (text.drop n))) := by
  intro k
  have hSettled : k.IsSettled := Cursor.isSettled_past text n
  refine ⟨?_, ?_, ?_, ?_⟩
  · intro hStar
    rcases exists_nextSlash_block hSlash hStar symbols with
      ⟨stop, hEnds, hNext⟩
    exact ⟨stop, hEnds, hNext true, hNext false⟩
  · intro hSecond
    have hNoStar : text[n + 1]? ≠ some '*' := by
      rw [hSecond]
      decide
    exact ⟨exists_nextSlash_line hSlash hSecond symbols,
      nextSlash_of_other hSettled (after_past_ne hNoStar)
        (by simp) symbols⟩
  · intro hNoStar hNoSlash
    have hOther (lines : Bool) :
        nextSlash lines symbols k = symbols.next k :=
      nextSlash_of_other hSettled (after_past_ne hNoStar)
        (fun _ => after_past_ne hNoSlash) symbols
    exact ⟨hOther true, hOther false⟩
  · intro hFirsts r
    rw [← Cursor.after_past]
    exact next_eq_take r hFirsts hSettled

/- A block, a line and a symbol that begin with a slash. -/
def commentedText : List Char :=
  "/*/\u00E9**/-//*\r/+".toList

/-
  The slash in the mark that opens a block does not close it,
  and a star in a line opens none.
-/
theorem slash_next_past_commented :
    let symbols : SymbolTree := .ofEntries [(['/'], .symbol)]
    commentedText[0]? = some '/' ∧
    commentedText[1]? = some '*' ∧
    EndsBlock commentedText 2 7 ∧
    slash.next symbols (.past commentedText 0) =
      commentBetween commentedText 0 7 ∧
    commentedText[8]? = some '/' ∧
    commentedText[9]? = some '/' ∧
    EndsLine commentedText 8 11 ∧
    slash.next symbols (.past commentedText 8) =
      commentBetween commentedText 8 11 ∧
    commentedText[12]? = some '/' ∧
    commentedText[13]? ≠ some '*' ∧
    commentedText[13]? ≠ some '/' ∧
    slash.next symbols (.past commentedText 12) =
      symbols.next (.past commentedText 12) ∧
    symbols.MarksFirsts ∧
    ∀ r : CommentRule,
      r.next symbols (.past commentedText 12) =
        (Cursor.past commentedText 12).take
          (r.read symbols (commentedText.drop 12)) := by
  intro symbols
  rcases (slash_next_past symbols commentedText 0
    (by decide)).1 (by decide) with ⟨stop, hBlock, hNext, -⟩
  rcases ((slash_next_past symbols commentedText 8
    (by decide)).2.1 (by decide)).1 with ⟨stop', hLine, hNext'⟩
  have hClosed : EndsBlock commentedText 2 7 :=
    (endsBlock_throughBlockEnd (commentedText.drop 2)).of_drop
      (by decide)
  have hBroken : EndsLine commentedText 8 11 :=
    endsLine_restOfLine (by decide)
  rw [hBlock.unique hClosed] at hNext
  rw [hLine.unique hBroken] at hNext'
  have hOther := slash_next_past symbols commentedText 12
    (by decide)
  refine ⟨by decide, by decide, hClosed, hNext, by decide,
    by decide, hBroken, hNext', by decide, by decide,
    by decide, (hOther.2.2.1 (by decide) (by decide)).1,
    SymbolTree.marksFirsts_ofEntries _, ?_⟩
  exact hOther.2.2.2 (SymbolTree.marksFirsts_ofEntries _)

end CommentRule

end Formula
