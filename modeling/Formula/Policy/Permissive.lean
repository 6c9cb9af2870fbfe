import Formula.Numeral.Decimal
import Formula.Operator.Default
import Formula.Text.Blank
import Formula.Value.Text

/-
  The permissive policy: values convert wherever a sensible
  reading exists.

  Numbers stand for truth values, for seconds since 1970 and
  for milliseconds; every value has a text, and a text is read
  as a value of the type asked for; null becomes the zero or
  the empty value of a type.

  Key definitions include:
    * `Policy.zero`
    * `Policy.ofLong?`
    * `Policy.ofDouble?`
    * `Policy.ofText?`
    * `Policy.permissive`
-/

namespace Formula

namespace Policy

/- What null becomes. -/
def zero : ValueType → Value
  | .integer => .integer 0
  | .long => .long 0
  | .float => .float (Single.ofInt 0)
  | .double => .double (Double.ofInt 0)
  | .string => .string ""
  | .boolean => .boolean false
  | .dateTime => .dateTime .epoch
  | .timeSpan => .timeSpan .zero
  | .array => .array []
  | .null => .null
  | .object => .null

/- What a whole number becomes. -/
def ofLong?
    (n : Int64) : ValueType → Option Value
  | .integer => some (.integer n.toInt32)
  | .long => some (.long n)
  | .float => some (.float (Single.ofInt n.toInt))
  | .double => some (.double (Double.ofInt n.toInt))
  | .boolean => some (.boolean (n != 0))
  | .dateTime =>
      (Timestamp.ofUnixSeconds? n.toInt).map .dateTime
  | .timeSpan => some (.timeSpan (.ofMillis n))
  | _ => none

/- What a floating-point number becomes. -/
def ofDouble?
    (x : Float) : ValueType → Option Value
  | .integer => some (.integer (Double.toInt32 x))
  | .float => some (.float (Single.ofDouble x))
  | .double => some (.double x)
  | .boolean => some (.boolean (!Double.isZero x))
  | target => ofLong? (Double.toInt64 x) target

/- What a truth value becomes. -/
def ofBoolean?
    (b : Bool) : ValueType → Option Value
  | .integer => some (.integer (if b then 1 else 0))
  | .long => some (.long (if b then 1 else 0))
  | .float => some (.float (Single.ofInt (if b then 1 else 0)))
  | .double => some (.double (Double.ofInt (if b then 1 else 0)))
  | _ => none

/- What a timestamp becomes: its seconds, as a number. -/
def ofTimestamp?
    (t : Timestamp)
    (target : ValueType) : Option Value :=
  if target.isNumeric then
    ofLong? (Int64.ofInt t.unixSeconds) target
  else none

/- What a span becomes: its milliseconds, as a number. -/
def ofTimeSpan?
    (s : TimeSpan)
    (target : ValueType) : Option Value :=
  if target.isNumeric then ofLong? s.millis target else none

/- The words for truth values, in any case. -/
def readBoolean?
    (s : List Char) : Option Bool :=
  let word := String.ofList (s.map Char.toLower)
  if ["true", "yes", "t", "y", "1"].contains word then
    some true
  else if ["false", "no", "f", "n", "0"].contains word then
    some false
  else none

/- What a text becomes, without the white space around it. -/
def ofText?
    (s : String)
    (target : ValueType) : Option Value :=
  let s := trim s.toList
  match target with
  | .integer =>
      (readInt32? s).or ((Double.read? s).map Double.toInt32)
        |>.map .integer
  | .long =>
      (readInt64? s).or ((Double.read? s).map Double.toInt64)
        |>.map .long
  | .float => (Single.read? s).map .float
  | .double => (Double.read? s).map .double
  | .boolean => (readBoolean? s).map .boolean
  | .dateTime => (Rfc3339.read? s).map .dateTime
  | .timeSpan =>
      (readInt64? s).map fun n => .timeSpan (.ofMillis n)
  | _ => none

/- What a value becomes in another type, text apart. -/
def reinterpret?
    (v : Value)
    (target : ValueType) : Option Value :=
  match v with
  | .null => some (zero target)
  | .integer n => ofLong? n.toInt64 target
  | .long n => ofLong? n target
  | .float x => ofDouble? (Double.ofSingle x) target
  | .double x => ofDouble? x target
  | .boolean b => ofBoolean? b target
  | .dateTime t => ofTimestamp? t target
  | .timeSpan s => ofTimeSpan? s target
  | .string s => ofText? s target
  | .object _ => none
  | .array _ => none

/-
  Convert wherever a reading exists.  Every value converts to
  null, to its own type, to an object and to a string.
-/
def convertPermissive
    (v : Value)
    (target : ValueType) : Outcome Value :=
  if target = .null then .ok .null
  else if target = v.type ∨ target = .object then .ok v
  else if target = .string then .ok (.string v.text)
  else
    match reinterpret? v target with
    | some w => .ok w
    | none => .error (noConversion v.type target)

/- The policy that converts wherever a reading exists. -/
def permissive : Policy :=
  Conversion.policy ⟨convertPermissive⟩

end Policy

end Formula
