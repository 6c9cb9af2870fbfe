/-
  Powers of the two bases that numbers are written in.

  Key definitions include:
    * `powerOfTwo`
    * `powerOfTen`
-/

namespace Formula

/- A power of two. -/
def powerOfTwo
    (n : Nat) : Nat :=
  Nat.pow 2 n

/- A power of ten. -/
def powerOfTen
    (n : Nat) : Nat :=
  Nat.pow 10 n

end Formula
