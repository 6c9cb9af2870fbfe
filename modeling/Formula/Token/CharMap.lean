/-
  Maps from characters to values, built from ranges.

  The first 256 characters have a slot each; the others are
  looked up in the ranges assigned so far, the latest first.

  Key definitions include:
    * `CharMap`
    * `CharMap.add`
    * `CharMap.remove`
    * `CharMap.clear`
    * `CharMap.lookup`
    * `CharSet`
-/

namespace Formula

------------------------------------------------------------
-- Maps
------------------------------------------------------------

/- The number of characters that have a slot. -/
def directSize : Nat :=
  256

/-
  A range of characters above the slots, and the value that
  was assigned to all of it.
-/
structure CharAssignment (α : Type) where
  first : Nat
  last : Nat
  value : Option α

/- A map from characters to values. -/
structure CharMap (α : Type) where
  direct : Fin directSize → Option α
  ranges : List (CharAssignment α)

namespace CharMap

variable {α : Type}

/- The map that holds nothing. -/
def empty : CharMap α :=
  ⟨fun _ => none, []⟩

/-
  Give all characters from `first` to `last` one value, or
  none.  A range that ends before it begins has no effect.
-/
def assign
    (m : CharMap α)
    (first last : Char)
    (value : Option α) : CharMap α :=
  if last < first then m
  else
    let direct := fun slot =>
      if first.toNat ≤ slot.val ∧ slot.val ≤ last.toNat then
        value
      else m.direct slot
    if last.toNat < directSize then ⟨direct, m.ranges⟩
    else
      ⟨direct,
        ⟨max first.toNat directSize, last.toNat, value⟩ ::
          m.ranges⟩

/- Map all characters from `first` to `last` to a value. -/
def add
    (m : CharMap α)
    (first last : Char)
    (value : α) : CharMap α :=
  m.assign first last (some value)

/- Forget the characters from `first` to `last`. -/
def remove
    (m : CharMap α)
    (first last : Char) : CharMap α :=
  m.assign first last none

/- Forget all characters. -/
def clear
    (_m : CharMap α) : CharMap α :=
  ⟨fun _ => none, []⟩

/- The value of a character. -/
def lookup
    (m : CharMap α)
    (c : Char) : Option α :=
  if h : c.toNat < directSize then m.direct ⟨c.toNat, h⟩
  else
    (m.ranges.find? fun r =>
        decide (r.first ≤ c.toNat ∧ c.toNat ≤ r.last)).bind
      (·.value)

end CharMap

------------------------------------------------------------
-- Sets
------------------------------------------------------------

/- A set of characters. -/
abbrev CharSet :=
  CharMap Unit

namespace CharSet

/- The set has a character. -/
def has
    (s : CharSet)
    (c : Char) : Bool :=
  (s.lookup c).isSome

/- The set of the characters in some ranges. -/
def ofRanges
    (ranges : List (Char × Char)) : CharSet :=
  ranges.foldl
    (fun s r => CharMap.add s r.1 r.2 ()) CharMap.empty

end CharSet

end Formula
