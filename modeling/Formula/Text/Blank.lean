import Formula.Text.CodeRange

/-
  White space at the ends of a text.

  Blank characters are those with the Unicode property
  `White_Space`.

  Key definitions include:
    * `isBlank`
    * `trim`
-/

namespace Formula

/- The ranges of the Unicode property `White_Space`. -/
def blankRanges : List CodeRange :=
  [ ⟨0x9, 0xD⟩, ⟨0x20, 0x20⟩, ⟨0x85, 0x85⟩, ⟨0xA0, 0xA0⟩,
    ⟨0x1680, 0x1680⟩, ⟨0x2000, 0x200A⟩, ⟨0x2028, 0x2029⟩,
    ⟨0x202F, 0x202F⟩, ⟨0x205F, 0x205F⟩, ⟨0x3000, 0x3000⟩ ]

/- A character is white space. -/
def isBlank
    (c : Char) : Bool :=
  CodeRange.anyHas blankRanges c

/- A text without the white space at its end. -/
def trimEnd
    (s : List Char) : List Char :=
  (s.reverse.dropWhile isBlank).reverse

/- A text without the white space at either end. -/
def trim
    (s : List Char) : List Char :=
  trimEnd (s.dropWhile isBlank)

end Formula
