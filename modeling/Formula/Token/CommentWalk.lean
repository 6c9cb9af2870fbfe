import Formula.Token.Rule
import Formula.Token.SymbolWalk

/-
  Comments read from a cursor.

  A slash is read before it is known whether it opens a
  comment; if it does not, it goes back to the text.  A block
  is read up to a slash behind a star.  Its length tells the
  star that opens it from one that closes it.

  Key definitions include:
    * `Cursor.readLine`
    * `Cursor.readBlock`
    * `CommentRule.nextSlash`
    * `CommentRule.next`
-/

namespace Formula

namespace Cursor

/- Read on, behind what was read, for as long as the line goes. -/
def readLine
    (k : Cursor)
    (value : String) : String × Cursor :=
  match _h : k.after with
  | [] => (value, k)
  | c :: _ =>
      if takesColumn c then k.read.readLine (value.push c)
      else (value, k)
termination_by k.after.length
decreasing_by
  simp only [Cursor.after_read, _h, List.tail_cons,
    List.length_cons]
  omega

/-
  Read on, behind what was read, through a slash that follows a
  star.  It closes nothing as long as no more than three bytes
  have been read.
-/
def readBlock
    (k : Cursor)
    (last : Option Char)
    (value : String) : String × Cursor :=
  match _h : k.after with
  | [] => (value, k)
  | c :: _ =>
      let longer := value.push c
      if last = some '*' ∧ c = '/' ∧ 3 < longer.utf8ByteSize
      then (longer, k.read)
      else k.read.readBlock (some c) longer
termination_by k.after.length
decreasing_by
  simp only [Cursor.after_read, _h, List.tail_cons,
    List.length_cons]
  omega

end Cursor

------------------------------------------------------------
-- Comments
------------------------------------------------------------

namespace CommentRule

/- The rest of a line, from any character on. -/
def nextLine
    (k : Cursor) : Token × Cursor :=
  let (value, last) := k.readLine ""
  (⟨.comment, value, ⟨k.peekLine, k.peekColumn⟩⟩, last)

/-
  A block, or also a line if `lines` is set, that a slash
  opens.  What opens neither is a symbol.
-/
def nextSlash
    (lines : Bool)
    (symbols : SymbolTree)
    (k : Cursor) : Token × Cursor :=
  if k.peek = some '/' then
    let behind := k.read
    if behind.peek = some '*' then
      let (value, last) := behind.readBlock none "/"
      (⟨.comment, value, ⟨k.peekLine, k.peekColumn⟩⟩, last)
    else if behind.peek = some '/' ∧ lines then
      let (value, last) := behind.readLine "/"
      (⟨.comment, value, ⟨k.peekLine, k.peekColumn⟩⟩, last)
    else symbols.next behind.unread
  else symbols.next k

/- The comment, or the symbol, at a cursor. -/
def next :
    CommentRule → SymbolTree → Cursor → Token × Cursor
  | .line => fun _ => nextLine
  | .block => nextSlash false
  | .slash => nextSlash true

end CommentRule

end Formula
