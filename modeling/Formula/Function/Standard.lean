import Formula.Directory
import Formula.Function.Arity
import Formula.Function.Numeric
import Formula.Function.Selection
import Formula.Function.Temporal

/-
  The standard library of functions.

  A standard function checks how many arguments it gets.  What
  the time is and what chance gives is part of the moment at
  which the library is used.

  Key definitions include:
    * `Moment`
    * `StandardFunction`
    * `Moment.functions`
    * `Moment.library`
-/

namespace Formula

------------------------------------------------------------
-- Standard Functions
------------------------------------------------------------

/- The time, and a number that chance picked below one. -/
structure Moment where
  now : Timestamp
  sample : Float32

/- A function of the standard library. -/
structure StandardFunction where
  name : String
  arity : Arity
  body : Function

/-
  Check the number of arguments, and only then compute.
-/
def StandardFunction.function
    (f : StandardFunction) : Function :=
  fun args p =>
    if f.arity.allows args.length then f.body args p
    else
      .error (.failed
        (Cause.wrongParameterCount f.arity.text
          args.length).unplaced)

------------------------------------------------------------
-- The Library
------------------------------------------------------------

namespace Moment

/- Euler's number. -/
def e : Float :=
  2.718281828459045

/- The circumference of a circle of unit diameter. -/
def pi : Float :=
  3.141592653589793

/- The functions of the standard library. -/
def functions
    (m : Moment) : List StandardFunction :=
  [ ⟨"Ticks", .exactly 0,
      .always (.long (Int64.ofInt m.now.unixSeconds))⟩,
    ⟨"TimeSpan", .oneOf [1, 3, 4, 5], .timeSpan⟩,
    ⟨"Now", .exactly 0, .always (.dateTime m.now)⟩,
    ⟨"Date", .between 1 7, .date⟩,
    ⟨"DayOfWeek", .exactly 1, .dayOfWeek⟩,
    ⟨"Min", .atLeast 2, .min⟩,
    ⟨"Max", .atLeast 2, .max⟩,
    ⟨"Sum", .atLeast 2, .sum⟩,
    ⟨"If", .exactly 3, .choice⟩,
    ⟨"Choose", .atLeast 3, .choose⟩,
    ⟨"E", .exactly 0, .always (.double e)⟩,
    ⟨"Pi", .exactly 0, .always (.double pi)⟩,
    ⟨"Rnd", .exactly 0, .always (.float m.sample)⟩,
    ⟨"Random", .exactly 0, .always (.float m.sample)⟩,
    ⟨"Abs", .exactly 1, .abs⟩,
    ⟨"Acos", .exactly 1, .real Float.acos⟩,
    ⟨"Asin", .exactly 1, .real Float.asin⟩,
    ⟨"Atan", .exactly 1, .real Float.atan⟩,
    ⟨"Exp", .exactly 1, .real Float.exp⟩,
    ⟨"Log", .exactly 1, .real Float.log⟩,
    ⟨"Ln", .exactly 1, .real Float.log⟩,
    ⟨"Log10", .exactly 1, .real Float.log10⟩,
    ⟨"Ceil", .exactly 1, .real Float.ceil⟩,
    ⟨"Ceiling", .exactly 1, .real Float.ceil⟩,
    ⟨"Floor", .exactly 1, .real Float.floor⟩,
    ⟨"Round", .exactly 1, .real Float.round⟩,
    ⟨"Trunc", .exactly 1, .trunc⟩,
    ⟨"Truncate", .exactly 1, .trunc⟩,
    ⟨"Cos", .exactly 1, .real Float.cos⟩,
    ⟨"Sin", .exactly 1, .real Float.sin⟩,
    ⟨"Tan", .exactly 1, .real Float.tan⟩,
    ⟨"Sqr", .exactly 1, .real Float.sqrt⟩,
    ⟨"Sqrt", .exactly 1, .real Float.sqrt⟩,
    ⟨"Empty", .exactly 1, .isEmpty⟩,
    ⟨"Null", .exactly 0, .always .null⟩,
    ⟨"Contains", .exactly 2, .contains⟩,
    ⟨"Array", .any, .array⟩ ]

/- The standard library as a table of functions. -/
def library
    (m : Moment) : Directory Function :=
  ⟨m.functions.map fun f => ⟨f.name, f.function⟩⟩

end Moment

end Formula
