/-
  Sets of characters given by ranges of code points, and maps
  between characters given by ranges that are shifted alike.

  Key definitions include:
    * `CodeRange`
    * `CodeRange.anyHas`
    * `CodeShift`
    * `CodeShift.find?`
-/

namespace Formula

------------------------------------------------------------
-- Ranges
------------------------------------------------------------

/- The code points from `first` to `last`, both included. -/
structure CodeRange where
  first : Nat
  last : Nat

namespace CodeRange

/- The range holds a character. -/
def has
    (r : CodeRange)
    (c : Char) : Bool :=
  r.first ≤ c.toNat && c.toNat ≤ r.last

/- Some range of a table holds a character. -/
def anyHas
    (table : List CodeRange)
    (c : Char) : Bool :=
  table.any fun r => r.has c

end CodeRange

------------------------------------------------------------
-- Shifts
------------------------------------------------------------

/-
  Every `step`-th code point from `first` to `last` is moved
  by `shift`.
-/
structure CodeShift where
  first : Nat
  last : Nat
  step : Nat
  shift : Int

namespace CodeShift

/- The shift applies to a character. -/
def has
    (s : CodeShift)
    (c : Char) : Bool :=
  s.first ≤ c.toNat && c.toNat ≤ s.last &&
    (c.toNat - s.first) % s.step == 0

/- The image of a character under the shift. -/
def apply
    (s : CodeShift)
    (c : Char) : Char :=
  Char.ofNat (c.toNat + s.shift).toNat

/- The image of a character that a table moves. -/
def find?
    (table : List CodeShift)
    (c : Char) : Option Char :=
  (table.find? fun s => s.has c).map fun s => s.apply c

end CodeShift

end Formula
