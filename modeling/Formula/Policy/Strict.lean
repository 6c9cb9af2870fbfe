import Formula.Operator.Default

/-
  The strict policy: numbers widen, and nothing else converts.

  Key definitions include:
    * `Policy.widen?`
    * `Policy.strict`
-/

namespace Formula

namespace Policy

/- A number in a wider type. -/
def widen? : Value → ValueType → Option Value
  | .integer n, .long => some (.long n.toInt64)
  | .integer n, .float => some (.float (Single.ofInt n.toInt))
  | .integer n, .double => some (.double (Double.ofInt n.toInt))
  | .long n, .float => some (.float (Single.ofInt n.toInt))
  | .long n, .double => some (.double (Double.ofInt n.toInt))
  | .float x, .double => some (.double (Double.ofSingle x))
  | _, _ => none

/-
  Convert by widening.  Every value converts to null, to its
  own type and to an object.
-/
def convertStrict
    (v : Value)
    (target : ValueType) : Outcome Value :=
  if target = .null then .ok .null
  else if target = v.type ∨ target = .object then .ok v
  else
    match widen? v target with
    | some w => .ok w
    | none => .error (noConversion v.type target)

/- The policy that only widens numbers. -/
def strict : Policy :=
  Conversion.policy ⟨convertStrict⟩

end Policy

end Formula
