import Formula.Time.Rfc3339
import Formula.Value.Basic

/-
  The text of a value: what it is shown as, and what it
  becomes when it is converted to a string.

  Key definitions include:
    * `Value.text`
-/

namespace Formula

namespace Value

/- The text of a truth value. -/
def booleanText
    (b : Bool) : String :=
  if b then "true" else "false"

mutual

/- The text of a value. -/
def text : Value → String
  | .null => ""
  | .integer n => toString n.toInt
  | .long n => toString n.toInt
  | .float x => Single.text x
  | .double x => Double.text x
  | .string s => s
  | .boolean b => booleanText b
  | .dateTime t => String.ofList (Rfc3339.text t)
  | .timeSpan s => toString s.wholeMillis
  | .object _ => "[object]"
  | .array items =>
      "[" ++ ", ".intercalate (texts items) ++ "]"

/- The texts of the items of an array. -/
def texts : List Value → List String
  | [] => []
  | v :: rest => text v :: texts rest

end

end Value

end Formula
