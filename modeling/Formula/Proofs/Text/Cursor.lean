import Formula.Text.Cursor

/-
  Cursors.

  What a cursor tells depends on its text and on the number
  of characters it is past, and not on the way it took there.
  So moving back restores what was told before, whether the
  column is counted down or the place is counted anew.

  Key definitions include:
    * `Cursor.placeAt`
    * `Cursor.IsSettled`
    * `Cursor.Move`
    * `Cursor.moveAll`

  Main statements:
    * `Cursor.unread_read`
    * `Cursor.move_past`
    * `Cursor.moveAll_eq_past`
-/

namespace Formula

/- A character with a column of its own takes the next one. -/
theorem Position.advance_of_takesColumn
    {c : Char}
    (hColumn : takesColumn c = true)
    (p : Position)
    (previous next : Option Char) :
    p.advance previous c next = p.along 1 := by
  have hOther : c ≠ '\n' ∧ c ≠ '\r' := by
    simpa [takesColumn] using hColumn
  have hLine : beginsLine previous c next = false := by
    simp [beginsLine, hOther]
  unfold advance
  rw [hLine, hColumn]
  rfl

/- A character that begins a line has no column of its own. -/
theorem takesColumn_of_beginsLine
    {previous next : Option Char}
    {c : Char}
    (hLine : beginsLine previous c next = true) :
    takesColumn c = false := by
  by_cases hFeed : c = '\n'
  · rw [hFeed]
    rfl
  · have hReturn : c = '\r' := by
      simp only [beginsLine, hFeed, decide_false,
        Bool.false_or, Bool.and_eq_true, decide_eq_true_eq]
        at hLine
      exact hLine.1.1
    rw [hReturn]
    rfl

namespace Cursor

variable {k : Cursor}
variable {text : List Char}
variable {n : Nat}

------------------------------------------------------------
-- Steps
------------------------------------------------------------

/- Steps add up. -/
theorem skip_skip
    (k : Cursor)
    (m n : Nat) :
    (k.skip m).skip n = k.skip (m + n) := by
  induction m generalizing k with
  | zero => rw [skip, Nat.zero_add]
  | succ m ih => rw [Nat.add_right_comm, skip, skip, ih]

/- One step more. -/
theorem skip_succ
    (k : Cursor)
    (n : Nat) :
    k.skip (n + 1) = (k.skip n).read := by
  rw [← skip_skip]
  rfl

/- A step arrives at the place that was ahead. -/
theorem place_read
    (k : Cursor) :
    k.read.place = k.ahead := by
  unfold read ahead
  split <;> rfl

/- The place of the next character, when that is read. -/
theorem place_skip_succ
    (k : Cursor)
    (n : Nat) :
    (k.skip (n + 1)).place = (k.skip n).ahead := by
  rw [skip_succ, place_read]

/- What is ahead is the first character that is left. -/
theorem peek_eq_some_iff
    {c : Char} :
    k.peek = some c ↔ ∃ rest, k.after = c :: rest :=
  List.head?_eq_some_iff

/- A step leaves what comes behind that character. -/
theorem after_read_of_more
    {c : Char}
    {rest : List Char}
    (hMore : k.after = c :: rest) :
    k.read.after = rest := by
  rw [after_read, hMore, List.tail_cons]

/- At the end no step is taken. -/
theorem read_of_end
    (hEnd : k.after = []) :
    k.read = k := by
  unfold read
  rw [hEnd]

theorem skip_of_end
    (hEnd : k.after = [])
    (n : Nat) :
    k.skip n = k := by
  induction n with
  | zero => rfl
  | succ n ih => rw [skip, read_of_end hEnd, ih]

/- A step does not change the text. -/
theorem text_read
    (k : Cursor) :
    k.read.text = k.text := by
  unfold read
  split
  · rfl
  · rename_i c rest hAfter
    simp [text, hAfter]

theorem text_skip
    (k : Cursor)
    (n : Nat) :
    (k.skip n).text = k.text := by
  induction n generalizing k with
  | zero => rfl
  | succ n ih => rw [skip, ih, text_read]

/- A step counts one character, if there is one. -/
theorem offset_read
    (k : Cursor) :
    k.read.offset = min (k.offset + 1) k.text.length := by
  unfold read
  split
  · rename_i hEnd
    simp [offset, text, hEnd]
  · rename_i c rest hAfter
    simp [offset, text, hAfter]

------------------------------------------------------------
-- What Comes Next
------------------------------------------------------------

/- Reading gives what was peeked at, and takes a step. -/
theorem next_eq
    (k : Cursor) :
    k.next = (k.peek, k.read) := by
  unfold next peek
  split
  · rename_i hEnd
    rw [hEnd, read_of_end hEnd]
    rfl
  · rename_i c rest hAfter
    rw [hAfter]
    rfl

/- The line of the place ahead. -/
theorem peekLine_eq
    (k : Cursor) :
    k.peekLine = k.ahead.line := by
  unfold peekLine ahead
  split
  · rfl
  · unfold Position.advance
    split
    · split <;> rfl
    · split <;> rfl

/-
  The column of the place ahead.  It need not be counted where
  a line begins, because a line break takes none.
-/
theorem peekColumn_eq
    (k : Cursor) :
    k.peekColumn = k.ahead.column := by
  unfold peekColumn ahead
  split
  · rfl
  · unfold Position.advance
    split
    · rename_i hLine
      rw [takesColumn_of_beginsLine hLine]
      rfl
    · split <;> rfl

------------------------------------------------------------
-- Cursors by Their Offset
------------------------------------------------------------

theorem past_succ
    (text : List Char)
    (n : Nat) :
    past text (n + 1) = (past text n).read :=
  skip_succ _ n

theorem text_past
    (text : List Char)
    (n : Nat) :
    (past text n).text = text :=
  text_skip _ n

theorem after_past
    (text : List Char)
    (n : Nat) :
    (past text n).after = text.drop n :=
  after_skip _ n

theorem offset_past
    (text : List Char)
    (n : Nat) :
    (past text n).offset = min n text.length := by
  induction n with
  | zero => exact (Nat.zero_min _).symm
  | succ n ih =>
      rw [past_succ, offset_read, text_past, ih]
      omega

/- No cursor is past the end of its text. -/
theorem past_min
    (text : List Char)
    (n : Nat) :
    past text (min n text.length) = past text n := by
  by_cases hInside : n ≤ text.length
  · rw [Nat.min_eq_left hInside]
  · have hOutside := Nat.le_of_not_le hInside
    have hEnd : (past text text.length).after = [] := by
      rw [after_past, List.drop_length]
    rw [Nat.min_eq_right hOutside]
    have hSteps :
        text.length + (n - text.length) = n :=
      Nat.add_sub_cancel' hOutside
    unfold past at hEnd ⊢
    rw [← hSteps, ← skip_skip, skip_of_end hEnd]

/- The place of a character, by its index in the text. -/
def placeAt
    (text : List Char)
    (index : Nat) : Position :=
  (past text (index + 1)).place

/- The place of a character is told before it is read. -/
theorem ahead_past
    (text : List Char)
    (n : Nat) :
    (past text n).ahead = placeAt text n := by
  rw [placeAt, past_succ, place_read]

------------------------------------------------------------
-- Moving Back
------------------------------------------------------------

/-
  A cursor tells what one tells that has read as many
  characters from the start of the text.
-/
def IsSettled
    (k : Cursor) : Prop :=
  k = past k.text k.offset

theorem isSettled_past
    (text : List Char)
    (n : Nat) :
    (past text n).IsSettled := by
  unfold IsSettled
  rw [text_past, offset_past, past_min]

theorem IsSettled.read
    (hSettled : k.IsSettled) :
    k.read.IsSettled := by
  rw [hSettled, ← past_succ]
  exact isSettled_past _ _

theorem IsSettled.skip
    (hSettled : k.IsSettled)
    (m : Nat) :
    (k.skip m).IsSettled := by
  induction m generalizing k with
  | zero => exact hSettled
  | succ m ih => exact ih hSettled.read

/-
  A character that is read and unread leaves no trace.  One
  with a column of its own is on the line of the one before
  it, and one column behind that.
-/
theorem unread_read
    (hSettled : k.IsSettled)
    (hMore : k.after ≠ []) :
    k.read.unread = k := by
  cases hAfter : k.after with
  | nil => exact absurd hAfter hMore
  | cons c rest =>
      have hText := k.text_read
      have hRead : k.read = ⟨c :: k.before, rest, k.ahead⟩ := by
        unfold Cursor.read
        rw [hAfter]
      have hSame :
          (⟨k.before, c :: rest, k.place⟩ : Cursor) = k := by
        rw [← hAfter]
      rw [hRead] at hText
      rw [hRead, unread]
      dsimp only
      by_cases hColumn : takesColumn c = true
      · -- The column is counted down.
        have hAhead : k.ahead = k.place.along 1 := by
          unfold ahead
          rw [hAfter]
          exact Position.advance_of_takesColumn hColumn _ _ _
        rw [hAhead, if_pos (by simp [Position.along, hColumn])]
        exact hSame
      · -- The place is counted anew, from the start.
        have hPlace := congrArg Cursor.place hSettled
        rw [if_neg (by simp [hColumn]), hText]
        unfold offset at hPlace
        rw [← hPlace]
        exact hSame

theorem unread_past
    (hInside : n ≤ text.length) :
    (past text n).unread = past text (n - 1) := by
  cases n with
  | zero => rfl
  | succ n =>
      have hMore : (past text n).after ≠ [] := by
        rw [after_past]
        intro hEnd
        exact Nat.not_le.mpr hInside
          (List.drop_eq_nil_iff.mp hEnd)
      rw [past_succ]
      exact unread_read (isSettled_past text n) hMore

theorem unreadMany_past
    (hInside : n ≤ text.length)
    (m : Nat) :
    (past text n).unreadMany m = past text (n - m) := by
  induction m generalizing n with
  | zero => rfl
  | succ m ih =>
      have hStill : n - 1 ≤ text.length :=
        Nat.le_trans (Nat.sub_le n 1) hInside
      rw [unreadMany, unread_past hInside, ih hStill,
        Nat.sub_sub, Nat.add_comm 1 m]

------------------------------------------------------------
-- Sequences of Moves
------------------------------------------------------------

/- The ways to move a cursor. -/
inductive Move where
  | read
  | unread
  | unreadMany (n : Nat)
  | reset

/- Move a cursor. -/
def move
    (k : Cursor) : Move → Cursor
  | .read => k.next.2
  | .unread => k.unread
  | .unreadMany n => k.unreadMany n
  | .reset => k.reset

/- Move a cursor several times. -/
def moveAll
    (k : Cursor)
    (moves : List Move) : Cursor :=
  moves.foldl move k

/-
  What becomes of a counter that does not go above a limit
  or below zero.
-/
def Move.count
    (limit n : Nat) : Move → Nat
  | .read => min (n + 1) limit
  | .unread => n - 1
  | .unreadMany m => n - m
  | .reset => 0

/- Count several moves from zero on. -/
def Move.countAll
    (limit : Nat)
    (moves : List Move) : Nat :=
  moves.foldl (count limit) 0

/- A move leads to where its counter does. -/
theorem move_past
    (hInside : n ≤ text.length)
    (m : Move) :
    (past text n).move m =
      past text (m.count text.length n) := by
  cases m with
  | read =>
      rw [move, next_eq, ← past_succ, Move.count, past_min]
  | unread => exact unread_past hInside
  | unreadMany m => exact unreadMany_past hInside m
  | reset =>
      rw [move, reset, text_past]
      rfl

theorem Move.count_le
    {limit n : Nat}
    (hInside : n ≤ limit)
    (m : Move) :
    m.count limit n ≤ limit := by
  cases m with
  | read => exact Nat.min_le_right _ _
  | unread => exact Nat.le_trans (Nat.sub_le _ _) hInside
  | unreadMany m =>
      exact Nat.le_trans (Nat.sub_le _ _) hInside
  | reset => exact Nat.zero_le _

/- Several moves lead to where the counter does. -/
theorem foldl_move_past
    (hInside : n ≤ text.length)
    (moves : List Move) :
    moves.foldl move (past text n) =
        past text (moves.foldl (Move.count text.length) n) ∧
      moves.foldl (Move.count text.length) n ≤
        text.length := by
  induction moves generalizing n with
  | nil => exact ⟨rfl, hInside⟩
  | cons m moves ih =>
      rw [List.foldl_cons, List.foldl_cons,
        move_past hInside m]
      exact ih (m.count_le hInside)

/-
  However a cursor is moved, it is where a counter is that
  stops at both ends of the text, and it tells what a cursor
  tells that has read so many characters from the start.  What
  it peeks at is what is told once that is read.
-/
theorem moveAll_eq_past
    (text : List Char)
    (moves : List Move) :
    let n := Move.countAll text.length moves
    let k := (ofList text).moveAll moves
    k.offset = n ∧ k = past text n ∧
      k.peek = text[n]? ∧ k.peek = k.next.1 ∧
      k.peekLine = k.next.2.place.line ∧
      k.peekColumn = k.next.2.place.column := by
  intro n k
  rcases foldl_move_past (Nat.zero_le text.length) moves with
    ⟨hPast, hInside⟩
  have hCursor : k = past text n := hPast
  have hAhead : k.next.2.place = k.ahead := by
    rw [next_eq, place_read]
  refine ⟨?_, hCursor, ?_, ?_, ?_, ?_⟩
  · rw [hCursor, offset_past]
    exact Nat.min_eq_left hInside
  · rw [hCursor, peek, after_past, List.head?_drop]
  · rw [next_eq]
  · rw [hAhead, peekLine_eq]
  · rw [hAhead, peekColumn_eq]

/- A pair of line breaks is one, wherever it is entered. -/
example :
    ((ofList ['a', '\n', '\r', 'b']).moveAll
      [.read, .read, .read, .unread, .read, .read]).place =
        ⟨2, 1⟩ := by
  decide

end Cursor

end Formula
