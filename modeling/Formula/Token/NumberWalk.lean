import Formula.Token.Rule
import Formula.Token.SymbolWalk

/-
  Numbers read from a cursor.

  Signs, digits and points are read as they come.  What turns
  out to be no number goes back to the text and is read as a
  symbol; an exponent that turns out to lack its digits goes
  back too, and is left to the token behind.

  Key definitions include:
    * `Cursor.readIf`
    * `Cursor.readDigits`
    * `NumberParts`
    * `NumberRule.next`
-/

namespace Formula

namespace Cursor

/- Read the next character, if it passes a test. -/
def readIf
    (k : Cursor)
    (test : Char → Bool) : List Char × Cursor :=
  match k.peek with
  | some c => if test c then ([c], k.read) else ([], k)
  | none => ([], k)

/- Read digits for as long as they come. -/
def readDigits
    (k : Cursor) : List Char × Cursor :=
  match _h : k.after with
  | [] => ([], k)
  | c :: _ =>
      if isDigit c then
        let (digits, behind) := k.read.readDigits
        (c :: digits, behind)
      else ([], k)
termination_by k.after.length
decreasing_by
  simp only [Cursor.after_read, _h, List.tail_cons,
    List.length_cons]
  omega

end Cursor

/- The characters that introduce an exponent. -/
def isExponentMark
    (c : Char) : Bool :=
  c = 'e' || c = 'E'

/- The characters that may be a sign. -/
def isSign
    (c : Char) : Bool :=
  c = '+' || c = '-'

------------------------------------------------------------
-- Parts of a Number
------------------------------------------------------------

/- Digits, a point and further digits, if they come. -/
structure NumberParts where
  whole : List Char
  point : List Char
  fraction : List Char

namespace NumberParts

/- All parts together. -/
def text
    (p : NumberParts) : List Char :=
  p.whole ++ p.point ++ p.fraction

/- There is a digit on neither side of the point. -/
def lacksDigits
    (p : NumberParts) : Bool :=
  p.whole.isEmpty && p.fraction.isEmpty

/- The kind of a number, which depends on its point. -/
def kind
    (p : NumberParts) : TokenKind :=
  if p.point.isEmpty then .integer else .float

end NumberParts

/- Read the parts of a number.  Only a point has a fraction. -/
def Cursor.readParts
    (k : Cursor) : NumberParts × Cursor :=
  let (whole, k₁) := k.readDigits
  let (point, k₂) := k₁.readIf (· = '.')
  if point.isEmpty then (⟨whole, point, []⟩, k₂)
  else
    let (fraction, last) := k₂.readDigits
    (⟨whole, point, fraction⟩, last)

/-
  Read an exponent.  If it turns out to lack digits, its mark
  and its sign go back to the text.
-/
def Cursor.readExponent
    (k : Cursor) : List Char × Cursor :=
  let (mark, k₁) := k.readIf isExponentMark
  if mark.isEmpty then ([], k₁)
  else
    let (sign, k₂) := k₁.readIf isSign
    let (digits, last) := k₂.readDigits
    if digits.isEmpty then
      ([], last.unreadMany (mark ++ sign).length)
    else (mark ++ sign ++ digits, last)

------------------------------------------------------------
-- Numbers
------------------------------------------------------------

namespace NumberRule

/- A number without exponent, or a symbol if digits lack. -/
def nextDecimal
    (symbols : SymbolTree)
    (k : Cursor) : Token × Cursor :=
  let (minus, k₁) := k.readIf (· = '-')
  let (p, last) := k₁.readParts
  let value := minus ++ p.text
  if p.lacksDigits then
    symbols.next (last.unreadMany value.length)
  else
    (⟨p.kind, String.ofList value,
      ⟨k.peekLine, k.peekColumn⟩⟩, last)

/-
  A number with its exponent, if it has one.  A minus sign is
  always a symbol.
-/
def nextScientific
    (symbols : SymbolTree)
    (k : Cursor) : Token × Cursor :=
  if k.peek = some '-' then symbols.next k
  else
    let (token, behind) := nextDecimal symbols k
    if token.kind = .integer ∨ token.kind = .float then
      let (exponent, last) := behind.readExponent
      if exponent.isEmpty then (token, last)
      else
        (⟨.float, token.value ++ String.ofList exponent,
          token.position⟩, last)
    else (token, behind)

/- The number, or the symbol, at a cursor. -/
def next :
    NumberRule → SymbolTree → Cursor → Token × Cursor
  | .decimal => nextDecimal
  | .scientific => nextScientific

end NumberRule

end Formula
