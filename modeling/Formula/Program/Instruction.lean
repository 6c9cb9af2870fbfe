import Formula.Operator.Kind
import Formula.Text.Position
import Formula.Value.Text

/-
  The steps of a compiled expression.

  A step pushes a constant, looks a variable up, calls a
  function, or applies an operator to the latest values.

  Key definitions include:
    * `Opcode`
    * `Opcode.symbol`
    * `Instruction`
    * `Instruction.text`
-/

namespace Formula

------------------------------------------------------------
-- Kinds of Steps
------------------------------------------------------------

/- What a step does. -/
inductive Opcode where
  | constant
  | reference
  | call
  | unary (op : UnaryOp)
  | binary (op : BinaryOp)
deriving DecidableEq, Repr

/- The spelling of a step. -/
def Opcode.symbol : Opcode → String
  | .constant => "constant"
  | .reference => "variable"
  | .call => "function"
  | .unary op => op.symbol
  | .binary op => op.symbol

------------------------------------------------------------
-- Instructions
------------------------------------------------------------

/-
  A step and where it comes from.  The payload of a constant
  is its value, and that of a variable or a function its name.
-/
structure Instruction where
  opcode : Opcode
  payload : Value
  position : Position

namespace Instruction

/- The step that pushes a value. -/
def constant
    (v : Value)
    (p : Position) : Instruction :=
  ⟨.constant, v, p⟩

/- The step that looks a variable up. -/
def reference
    (name : String)
    (p : Position) : Instruction :=
  ⟨.reference, .string name, p⟩

/- The step that calls a function. -/
def call
    (name : String)
    (p : Position) : Instruction :=
  ⟨.call, .string name, p⟩

/- The step that applies an operator to one value. -/
def unary
    (op : UnaryOp)
    (p : Position) : Instruction :=
  ⟨.unary op, .null, p⟩

/- The step that applies an operator to two values. -/
def binary
    (op : BinaryOp)
    (p : Position) : Instruction :=
  ⟨.binary op, .null, p⟩

/- The name of a variable or a function. -/
def name?
    (i : Instruction) : Option String :=
  match i.opcode, i.payload with
  | .reference, .string name => some name
  | .call, .string name => some name
  | _, _ => none

/- An instruction as it is listed. -/
def text
    (i : Instruction) : String :=
  match i.opcode, i.payload with
  | .constant, .string s => "'" ++ s ++ "'"
  | .constant, .null => "NULL"
  | .constant, v => v.text
  | .reference, v => v.text
  | .call, v => v.text ++ "()"
  | .unary .negate, _ => "neg"
  | opcode, _ => opcode.symbol

end Instruction

end Formula
