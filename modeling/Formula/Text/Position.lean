/-
  Places in a text, by line and column.

  A line is counted from one.  A column counts the characters
  of its line that are no line break, so a line break itself,
  and the place before the first character, have column zero.

  Key definitions include:
    * `Position`
    * `Position.order`
    * `Position.text`
    * `Position.phrase`
-/

namespace Formula

/- A place in a text. -/
structure Position where
  line : Nat
  column : Nat
deriving DecidableEq, Repr

namespace Position

/- The place before the first character of a text. -/
def start : Position :=
  ⟨1, 0⟩

instance : Inhabited Position :=
  ⟨start⟩

/- Positions are ordered by line, and within one by column. -/
def order
    (p q : Position) : Ordering :=
  (compare p.line q.line).then (compare p.column q.column)

/- The place `n` columns further on the same line. -/
def along
    (p : Position)
    (n : Nat) : Position :=
  ⟨p.line, p.column + n⟩

/- A position as it is listed. -/
def text
    (p : Position) : String :=
  p.line.repr ++ ":" ++ p.column.repr

/- A position as it ends an error message. -/
def phrase
    (p : Position) : String :=
  " at line " ++ p.line.repr ++
    " and column " ++ p.column.repr

end Position

end Formula
