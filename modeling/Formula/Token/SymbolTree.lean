import Formula.Token.Basic

/-
  Spellings of symbols, kept as a tree of characters.

  A text begins with the longest spelling that it can.  The
  first character of a spelling is a symbol of its own, and
  so is any character with which no spelling begins.

  Key definitions include:
    * `SymbolTree`
    * `SymbolTree.add`
    * `SymbolTree.longest?`
    * `SymbolTree.read`
-/

namespace Formula

------------------------------------------------------------
-- Pieces of Text
------------------------------------------------------------

/- What a text begins with: the kind and the characters. -/
structure Piece where
  kind : TokenKind
  text : List Char
deriving DecidableEq

------------------------------------------------------------
-- Trees
------------------------------------------------------------

/-
  The spellings that go on from one place: the kind of the
  one that ends there, if any does, and what may follow.
-/
inductive SymbolTree where
  | node
      (kind : Option TokenKind)
      (children : List (Char × SymbolTree))

namespace SymbolTree

/- The tree without spellings. -/
def empty : SymbolTree :=
  .node none []

instance : Inhabited SymbolTree :=
  ⟨empty⟩

/- The kind of the spelling that ends here. -/
def kind? : SymbolTree → Option TokenKind
  | .node kind _ => kind

/- The trees that follow, by their first character. -/
def children : SymbolTree → List (Char × SymbolTree)
  | .node _ children => children

/- The tree that follows a character. -/
def child?
    (t : SymbolTree)
    (c : Char) : Option SymbolTree :=
  t.children.lookup c

/- Let a tree follow a character. -/
def setChild
    (t : SymbolTree)
    (c : Char)
    (s : SymbolTree) : SymbolTree :=
  .node t.kind? ((c, s) :: t.children.filter (·.1 != c))

/- Let a spelling of kind `k` end here. -/
def mark
    (t : SymbolTree)
    (k : TokenKind) : SymbolTree :=
  .node (some k) t.children

/- Enter a spelling. -/
def insert
    (t : SymbolTree)
    (k : TokenKind) : List Char → SymbolTree
  | [] => t.mark k
  | c :: rest =>
      t.setChild c (((t.child? c).getD empty).insert k rest)

/-
  Make a first character a symbol, unless it is of a known
  kind already.
-/
def markFirst
    (t : SymbolTree) : SymbolTree :=
  match t.kind? with
  | none => t.mark .symbol
  | some .unknown => t.mark .symbol
  | some _ => t

/- Register a spelling.  One without characters is ignored. -/
def add
    (t : SymbolTree)
    (spelling : List Char)
    (k : TokenKind) : SymbolTree :=
  match spelling with
  | [] => t
  | c :: rest =>
      t.setChild c
        (((t.child? c).getD empty).markFirst.insert k rest)

------------------------------------------------------------
-- Reading
------------------------------------------------------------

/- The longest spelling that a text begins with. -/
def longest?
    (t : SymbolTree) : List Char → Option Piece
  | [] => t.kind?.map fun k => ⟨k, []⟩
  | c :: rest =>
      match (t.child? c).bind fun s => s.longest? rest with
      | some p => some ⟨p.kind, c :: p.text⟩
      | none => t.kind?.map fun k => ⟨k, []⟩

/-
  The symbol that a text begins with: the longest spelling,
  or else a single character.
-/
def read
    (t : SymbolTree)
    (text : List Char) : Piece :=
  match text with
  | [] => ⟨.symbol, []⟩
  | c :: rest =>
      match (t.child? c).bind fun s => s.longest? rest with
      | some p => ⟨p.kind, c :: p.text⟩
      | none => ⟨.symbol, [c]⟩

end SymbolTree

end Formula
