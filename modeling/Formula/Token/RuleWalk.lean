import Formula.Token.CommentWalk
import Formula.Token.NumberWalk
import Formula.Token.Tokenizer

/-
  Every rule read from a cursor.

  Runs of characters are read as they come, and quoted text is
  read through the quote character that closes it.  Which rule
  reads is up to the role alone, whatever character comes next.

  Key definitions include:
    * `Cursor.readRun`
    * `Cursor.readQuoted`
    * `Cursor.readDoubled`
    * `QuoteRule.next`
    * `Rules.next`
-/

namespace Formula

namespace Cursor

------------------------------------------------------------
-- Runs
------------------------------------------------------------

/- Read on, behind what was read, through members of a set. -/
def readRun
    (k : Cursor)
    (s : CharSet)
    (value : String) : String × Cursor :=
  match _h : k.after with
  | [] => (value, k)
  | c :: _ =>
      if s.has c then k.read.readRun s (value.push c)
      else (value, k)
termination_by k.after.length
decreasing_by
  simp only [Cursor.after_read, _h, List.tail_cons,
    List.length_cons]
  omega

/- The longest run of members of a set, as a token. -/
def nextRun
    (k : Cursor)
    (s : CharSet)
    (kind : TokenKind) : Token × Cursor :=
  let (value, last) := k.readRun s ""
  (⟨kind, value, ⟨k.peekLine, k.peekColumn⟩⟩, last)

------------------------------------------------------------
-- Quotations
------------------------------------------------------------

/- Read on, behind what was read, through a quote character. -/
def readQuoted
    (k : Cursor)
    (q : Char)
    (value : String) : String × Cursor :=
  match _h : k.after with
  | [] => (value, k)
  | c :: _ =>
      if c = q then (value.push c, k.read)
      else k.read.readQuoted q (value.push c)
termination_by k.after.length
decreasing_by
  simp only [Cursor.after_read, _h, List.tail_cons,
    List.length_cons]
  omega

/-
  Read on, behind what was read, through a quote character
  that no other one follows.
-/
def readDoubled
    (k : Cursor)
    (q : Char)
    (value : String) : String × Cursor :=
  match _h : k.after with
  | [] => (value, k)
  | c :: _ =>
      let longer := value.push c
      let behind := k.read
      if c = q then
        if behind.peek = some q then
          behind.read.readDoubled q (longer.push q)
        else (longer, behind)
      else behind.readDoubled q longer
termination_by k.after.length
decreasing_by
  all_goals
    simp only [Cursor.after_read, _h, List.tail_cons,
      List.length_tail, List.length_cons]
    omega

end Cursor

/-
  The quotation that opens with the next character, whatever
  that is.  At the end of the text there is none.
-/
def QuoteRule.next
    (r : QuoteRule)
    (k : Cursor) : Token × Cursor :=
  match k.next with
  | (none, last) => (⟨.quoted, "", last.place⟩, last)
  | (some q, behind) =>
      match r with
      | .plain =>
          let (value, last) :=
            behind.readQuoted q (String.singleton q)
          (⟨.quoted, value, behind.place⟩, last)
      | .doubled =>
          let (value, last) :=
            behind.readDoubled q (String.singleton q)
          (⟨if q = '\x22' then .word else .quoted, value,
            behind.place⟩, last)

------------------------------------------------------------
-- Words
------------------------------------------------------------

/- The word at a cursor, which may turn out a keyword. -/
def WordRule.next
    (r : WordRule)
    (members : CharSet)
    (k : Cursor) : Token × Cursor :=
  let (token, last) := k.nextRun members .word
  match r with
  | .plain => (token, last)
  | .keywords =>
      if isKeyword token.value then
        (⟨.keyword, token.value, token.position⟩, last)
      else (token, last)

------------------------------------------------------------
-- Roles
------------------------------------------------------------

/- The token that a role reads at a cursor. -/
def Rules.next
    (r : Rules)
    (role : Role)
    (k : Cursor) : Token × Cursor :=
  match role with
  | .whitespace => k.nextRun r.blanks .whitespace
  | .word => r.word.next r.wordChars k
  | .number => r.number.next r.symbols k
  | .quote => r.quote.next k
  | .comment => r.comment.next r.symbols k
  | .symbol => r.symbols.next k

end Formula
