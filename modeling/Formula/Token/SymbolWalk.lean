import Formula.Text.Cursor
import Formula.Token.SymbolTree

/-
  Symbols read from a cursor.

  A walk goes down a tree for as long as the next character
  leads on, whether or not a spelling ends there.  From the
  deepest place it goes back up to one where a spelling ends,
  and the cursor goes back with it.

  Key definitions include:
    * `SymbolPath`
    * `SymbolPath.descend`
    * `SymbolPath.climb`
    * `SymbolTree.next`
-/

namespace Formula

/-
  A place in a tree: what goes on from there, and the trees
  above it with the characters that lead down, the last first.
-/
structure SymbolPath where
  here : SymbolTree
  above : List (Char × SymbolTree)

namespace SymbolPath

/- The characters that lead to a place. -/
def spelling
    (p : SymbolPath) : List Char :=
  (p.above.map Prod.fst).reverse

/- The place that a character leads to from another one. -/
def down
    (p : SymbolPath)
    (c : Char)
    (s : SymbolTree) : SymbolPath :=
  ⟨s, (c, p.here) :: p.above⟩

/-
  Go down as far as the text leads.  The first character that
  leads nowhere is read, and goes back to the text.
-/
def descend
    (p : SymbolPath)
    (k : Cursor) : SymbolPath × Cursor :=
  match _h : k.after with
  | [] => (p, k)
  | c :: _ =>
      match p.here.child? c with
      | some s => (p.down c s).descend k.read
      | none => (p, k.read.unread)
termination_by k.after.length
decreasing_by
  simp only [Cursor.after_read, _h, List.tail_cons,
    List.length_cons]
  omega

/-
  Go back up to the nearest place where a spelling ends, or
  else to the root.
-/
def climb
    (here : SymbolTree)
    (k : Cursor) :
    List (Char × SymbolTree) → SymbolPath × Cursor
  | [] => (⟨here, []⟩, k)
  | (c, parent) :: above =>
      if here.kind?.isSome then
        (⟨here, (c, parent) :: above⟩, k)
      else climb parent k.unread above

/- Go down as far as the text leads, and back up. -/
def walk
    (p : SymbolPath)
    (k : Cursor) : SymbolPath × Cursor :=
  let (deepest, behind) := p.descend k
  climb deepest.here behind deepest.above

end SymbolPath

/-
  The symbol at a cursor, and the cursor behind it.  It is a
  single character if no spelling begins with that, and it is
  empty at the end of the text.
-/
def SymbolTree.next
    (t : SymbolTree)
    (k : Cursor) : Token × Cursor :=
  match k.next with
  | (none, last) =>
      (⟨.symbol, "", ⟨last.peekLine, last.peekColumn⟩⟩, last)
  | (some c, first) =>
      match t.child? c with
      | none =>
          (⟨.symbol, String.singleton c, first.place⟩, first)
      | some s =>
          let (found, behind) :=
            (⟨s, [(c, t)]⟩ : SymbolPath).walk first
          (⟨found.here.kind?.getD .unknown,
              String.ofList found.spelling, first.place⟩,
            behind)

end Formula
