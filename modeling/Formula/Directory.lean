import Formula.Text.Lowercase

/-
  Ordered tables of named things.

  Names are compared without regard to letter case.  A name
  keeps its place in the table for as long as it is there.

  Key definitions include:
    * `Entry`
    * `Directory`
    * `Directory.find?`
    * `Directory.put`
    * `Directory.locate`
    * `Directory.remove`
-/

namespace Formula

/- A thing and the name it was declared under. -/
structure Entry (α : Type) where
  name : String
  content : α

/- A table of named things, in their order. -/
structure Directory (α : Type) where
  entries : List (Entry α)

namespace Directory

variable {α : Type}

/- The table without entries. -/
def empty : Directory α :=
  ⟨[]⟩

/- The number of entries. -/
def size
    (d : Directory α) : Nat :=
  d.entries.length

/- The names as they were declared. -/
def names
    (d : Directory α) : List String :=
  d.entries.map Entry.name

/- The entry under a name. -/
def find?
    (d : Directory α)
    (name : String) : Option (Entry α) :=
  d.entries.find? fun e => SameName e.name name

/- The thing under a name. -/
def get?
    (d : Directory α)
    (name : String) : Option α :=
  (d.find? name).map Entry.content

/- The name is declared. -/
def has
    (d : Directory α)
    (name : String) : Bool :=
  (d.find? name).isSome

/- Let `f` replace the first entry under a name. -/
def replaceFirst
    (name : String)
    (f : Entry α → Entry α) : List (Entry α) → List (Entry α)
  | [] => []
  | e :: es =>
      if SameName e.name name then f e :: es
      else e :: replaceFirst name f es

/-
  Declare a thing.  It takes the place of one that has the
  same name, and its spelling of the name, or else comes last.
-/
def put
    (d : Directory α)
    (name : String)
    (content : α) : Directory α :=
  if d.has name then
    ⟨replaceFirst name (fun _ => ⟨name, content⟩) d.entries⟩
  else ⟨d.entries ++ [⟨name, content⟩]⟩

/- Declare several things, one after the other. -/
def putAll
    (d : Directory α)
    (entries : List (Entry α)) : Directory α :=
  entries.foldl (fun d e => d.put e.name e.content) d

/- The table of some things, declared one after the other. -/
def ofEntries
    (entries : List (Entry α)) : Directory α :=
  empty.putAll entries

/- Change the thing under a name, which stays as declared. -/
def set
    (d : Directory α)
    (name : String)
    (content : α) : Directory α :=
  ⟨replaceFirst name (fun e => ⟨e.name, content⟩) d.entries⟩

/- Declare a name with a thing for it, unless it is there. -/
def locate
    (d : Directory α)
    (name : String)
    (content : α) : Directory α :=
  if d.has name then d
  else ⟨d.entries ++ [⟨name, content⟩]⟩

/- Take the entry under a name out. -/
def remove
    (d : Directory α)
    (name : String) : Directory α :=
  ⟨d.entries.eraseP fun e => SameName e.name name⟩

/- Replace everything, and leave the names. -/
def fill
    (d : Directory α)
    (content : α) : Directory α :=
  ⟨d.entries.map fun e => ⟨e.name, content⟩⟩

end Directory

end Formula
