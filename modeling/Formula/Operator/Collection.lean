import Formula.Operator.Comparison
import Formula.Text.Grapheme
import Formula.Text.Regex

/-
  Membership, element access and wildcard matching.

  Key definitions include:
    * `Conversion.isIn`
    * `Conversion.element`
    * `Conversion.like`
-/

namespace Formula

/- The item at an index, if the index counts one. -/
def itemAt?
    (items : List α)
    (index : Int) : Option α :=
  if index < 0 then none else items[index.toNat]?

/- The outcome of looking up an index. -/
def itemAt
    (items : List α)
    (index : Int) : Outcome α :=
  match itemAt? items index with
  | some a => .ok a
  | none =>
      .error
        (Cause.indexOutOfBounds index items.length).unplaced

/-
  A text matches a wildcard pattern, written as a regular
  expression.
-/
def matchPattern
    (pattern text : String) : Outcome Bool :=
  match Regex.read? (Regex.ofPattern pattern.toList) with
  | some r => .ok (r.isMatch text.toList)
  | none =>
      .error (Cause.calculation
        "the pattern is no regular expression").unplaced

namespace Conversion

/- A value equals some item, tried in order. -/
def anyEqual
    (c : Conversion)
    (needle : Value) : List Value → Outcome Bool
  | [] => .ok false
  | v :: rest => do
      if ← c.areEqual "IN" needle v then .ok true
      else c.anyEqual needle rest

/-
  A value is an item of an array.  A collection that is no
  array is compared with the value itself.
-/
def isIn
    (c : Conversion)
    (collection needle : Value) : Outcome Value :=
  match collection with
  | .array items => (c.anyEqual needle items).map .boolean
  | _ => (c.areEqual "IN" collection needle).map .boolean

/-
  The item of an array, or the user-perceived character of a
  text, at an index counted from zero.
-/
def element
    (c : Conversion)
    (collection index : Value) : Outcome Value := do
  if collection.isNull || index.isNull then .ok .null
  else
    match ← c.convert index .integer with
    | .integer i =>
        match collection with
        | .array items => itemAt items i.toInt
        | .string s =>
            (itemAt (Grapheme.clusters s.toList) i.toInt).map
              fun cluster => .string (String.ofList cluster)
        | other => .error (noConversion other.type .array)
    | other => .error (noConversion other.type .integer)

/- A text matches a wildcard pattern. -/
def like
    (c : Conversion)
    (value pattern : Value) : Outcome Value := do
  if value.isNull || pattern.isNull then .ok .null
  else
    let text ← c.convert value .string
    let pattern ← c.convert pattern .string
    match text, pattern with
    | .string t, .string w =>
        (matchPattern w t).map .boolean
    | _, _ => .error (unsupported "LIKE" value pattern)

end Conversion

end Formula
