import Formula.Numeral.Double
import Formula.Time.Timestamp

/-
  The values that expressions compute with.

  Key definitions include:
    * `ValueType`
    * `Handle`
    * `Value`
    * `Value.type`
    * `Value.isEmpty`
    * `Value.same`
-/

namespace Formula

------------------------------------------------------------
-- Types
------------------------------------------------------------

/- The types of values. -/
inductive ValueType where
  | null
  | integer
  | long
  | float
  | double
  | string
  | boolean
  | dateTime
  | timeSpan
  | object
  | array
deriving DecidableEq, Repr

namespace ValueType

/- The name of a type. -/
def name : ValueType → String
  | .null => "Null"
  | .integer => "Integer"
  | .long => "Long"
  | .float => "Float"
  | .double => "Double"
  | .string => "String"
  | .boolean => "Boolean"
  | .dateTime => "DateTime"
  | .timeSpan => "TimeSpan"
  | .object => "Object"
  | .array => "Array"

/- All types. -/
def all : List ValueType :=
  [ .null, .integer, .long, .float, .double, .string,
    .boolean, .dateTime, .timeSpan, .object, .array ]

/- The type with a given name. -/
def ofName?
    (s : String) : Option ValueType :=
  all.find? fun t => t.name == s

/- The types of numbers. -/
def isNumeric : ValueType → Bool
  | .integer => true
  | .long => true
  | .float => true
  | .double => true
  | _ => false

end ValueType

------------------------------------------------------------
-- Values
------------------------------------------------------------

/-
  A value of the host that expressions only pass around.  Two
  of them are the same when their names are.
-/
structure Handle where
  id : String
deriving DecidableEq

/- A value. -/
inductive Value where
  | null
  | integer (n : Int32)
  | long (n : Int64)
  | float (x : Float32)
  | double (x : Float)
  | string (s : String)
  | boolean (b : Bool)
  | dateTime (t : Timestamp)
  | timeSpan (s : TimeSpan)
  | object (h : Handle)
  | array (items : List Value)

namespace Value

instance : Inhabited Value :=
  ⟨.null⟩

/- The type of a value. -/
def type : Value → ValueType
  | .null => .null
  | .integer _ => .integer
  | .long _ => .long
  | .float _ => .float
  | .double _ => .double
  | .string _ => .string
  | .boolean _ => .boolean
  | .dateTime _ => .dateTime
  | .timeSpan _ => .timeSpan
  | .object _ => .object
  | .array _ => .array

/- The value is null. -/
def isNull : Value → Bool
  | .null => true
  | _ => false

/- The value is null, or a text or an array without content. -/
def isEmpty : Value → Bool
  | .null => true
  | .string s => s.isEmpty
  | .array items => items.isEmpty
  | _ => false

/- The value is the truth. -/
def isTrue : Value → Bool
  | .boolean b => b
  | _ => false

------------------------------------------------------------
-- Payloads
------------------------------------------------------------

/- The number of an `Integer`. -/
def integer? : Value → Option Int32
  | .integer n => some n
  | _ => none

/- The number of a `Long`. -/
def long? : Value → Option Int64
  | .long n => some n
  | _ => none

/- The number of a `Float`. -/
def float? : Value → Option Float32
  | .float x => some x
  | _ => none

/- The number of a `Double`. -/
def double? : Value → Option Float
  | .double x => some x
  | _ => none

/- The characters of a `String`. -/
def string? : Value → Option String
  | .string s => some s
  | _ => none

/- The truth value of a `Boolean`. -/
def boolean? : Value → Option Bool
  | .boolean b => some b
  | _ => none

/- The instant of a `DateTime`. -/
def dateTime? : Value → Option Timestamp
  | .dateTime t => some t
  | _ => none

/- The length of a `TimeSpan`. -/
def timeSpan? : Value → Option TimeSpan
  | .timeSpan s => some s
  | _ => none

/- The handle of an `Object`. -/
def object? : Value → Option Handle
  | .object h => some h
  | _ => none

/- The items of an `Array`. -/
def array? : Value → Option (List Value)
  | .array items => some items
  | _ => none

------------------------------------------------------------
-- Identity
------------------------------------------------------------

mutual

/-
  Two values have one type and the same payload.  Nothing is
  converted, instants are compared wherever they are shown,
  and what is no number differs from itself.
-/
def same : Value → Value → Bool
  | .null, .null => true
  | .integer a, .integer b => a == b
  | .long a, .long b => a == b
  | .float a, .float b => Single.same a b
  | .double a, .double b => Double.same a b
  | .string a, .string b => a == b
  | .boolean a, .boolean b => a == b
  | .dateTime a, .dateTime b => a.instant == b.instant
  | .timeSpan a, .timeSpan b => a.nanos == b.nanos
  | .object a, .object b => a == b
  | .array as, .array bs => sameItems as bs
  | _, _ => false

/- Two lists of values are the same item by item. -/
def sameItems : List Value → List Value → Bool
  | [], [] => true
  | a :: as, b :: bs => same a b && sameItems as bs
  | _, _ => false

end

end Value

end Formula
