import Formula.Text.Position

/-
  A cursor that moves over a text and knows the line and the
  column of the character it read last.

  A line break is a line feed, or a carriage return with no
  line feed beside it, so that a pair of the two in either
  order counts once.

  Key definitions include:
    * `Cursor`
    * `Cursor.ahead`
    * `Cursor.read`
    * `Cursor.next`
    * `Cursor.unread`
    * `Cursor.past`
-/

namespace Formula

------------------------------------------------------------
-- Line Breaks
------------------------------------------------------------

/-
  A character between two neighbours begins a new line.
-/
def beginsLine
    (previous : Option Char)
    (c : Char)
    (next : Option Char) : Bool :=
  c = '\n' ||
    (c = '\r' &&
      previous != some '\n' && next != some '\n')

/- A character takes a column of its own. -/
def takesColumn
    (c : Char) : Bool :=
  c != '\n' && c != '\r'

/- The position of a character that follows position `p`. -/
def Position.advance
    (p : Position)
    (previous : Option Char)
    (c : Char)
    (next : Option Char) : Position :=
  let q := if beginsLine previous c next
    then ⟨p.line + 1, 0⟩ else p
  if takesColumn c then q.along 1 else q

------------------------------------------------------------
-- The Cursor
------------------------------------------------------------

/-
  A cursor between the characters read, the latest first, and
  those to come.  Its place is that of the character read last.
-/
structure Cursor where
  before : List Char
  after : List Char
  place : Position

namespace Cursor

/- The cursor in front of a text. -/
def ofList
    (text : List Char) : Cursor :=
  ⟨[], text, .start⟩

/- The number of characters read. -/
def offset
    (k : Cursor) : Nat :=
  k.before.length

/- The whole text, wherever the cursor stands. -/
def text
    (k : Cursor) : List Char :=
  k.before.reverse ++ k.after

/- The next character. -/
def peek
    (k : Cursor) : Option Char :=
  k.after.head?

/- The place that the next character will have. -/
def ahead
    (k : Cursor) : Position :=
  match k.after with
  | [] => k.place
  | c :: rest =>
      k.place.advance k.before.head? c rest.head?

/- The line that the next character will be on. -/
def peekLine
    (k : Cursor) : Nat :=
  match k.after with
  | [] => k.place.line
  | c :: rest =>
      if beginsLine k.before.head? c rest.head? then
        k.place.line + 1
      else k.place.line

/-
  The column that the next character will have.  It is zero
  for one that begins a line.
-/
def peekColumn
    (k : Cursor) : Nat :=
  match k.after with
  | [] => k.place.column
  | c :: rest =>
      if beginsLine k.before.head? c rest.head? then 0
      else if takesColumn c then k.place.column + 1
      else k.place.column

/- Move past the next character, or stay at the end. -/
def read
    (k : Cursor) : Cursor :=
  match k.after with
  | [] => k
  | c :: rest => ⟨c :: k.before, rest, k.ahead⟩

/- The next character, if there is one, and what is behind. -/
def next
    (k : Cursor) : Option Char × Cursor :=
  match k.after with
  | [] => (none, k)
  | c :: _ => (some c, k.read)

/- Move past `n` characters. -/
def skip
    (k : Cursor) : Nat → Cursor
  | 0 => k
  | n + 1 => k.read.skip n

/- A step takes one character from the text to come. -/
theorem after_read
    (k : Cursor) :
    k.read.after = k.after.tail := by
  unfold read
  split <;> simp_all

/- Several steps take as many characters. -/
theorem after_skip
    (k : Cursor)
    (n : Nat) :
    (k.skip n).after = k.after.drop n := by
  induction n generalizing k with
  | zero => rfl
  | succ n ih =>
      rw [skip, ih, after_read, List.drop_tail]

/- The cursor past the first `n` characters of a text. -/
def past
    (text : List Char)
    (n : Nat) : Cursor :=
  (ofList text).skip n

/-
  Move back over one character.  Within a line the column
  goes down by one; at the start of a line the place is
  counted anew from the start of the text.
-/
def unread
    (k : Cursor) : Cursor :=
  match k.before with
  | [] => k
  | c :: earlier =>
      if 0 < k.place.column && takesColumn c then
        ⟨earlier, c :: k.after,
          ⟨k.place.line, k.place.column - 1⟩⟩
      else
        ⟨earlier, c :: k.after,
          (past k.text earlier.length).place⟩

/- Move back over `n` characters. -/
def unreadMany
    (k : Cursor) : Nat → Cursor
  | 0 => k
  | n + 1 => k.unread.unreadMany n

/- Return to the start of the text. -/
def reset
    (k : Cursor) : Cursor :=
  ofList k.text

end Cursor

end Formula
