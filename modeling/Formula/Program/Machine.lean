import Formula.Function.Basic
import Formula.Operator.Apply
import Formula.Program.Instruction
import Formula.Program.ValueStack

/-
  The evaluation of programs on a stack.

  Every instruction takes values from the stack and leaves one
  on it.  At the end one value must be left, the result.

  Key definitions include:
    * `Environment`
    * `Instruction.step`
    * `Machine.run`
    * `evaluate`
-/

namespace Formula

------------------------------------------------------------
-- Environments
------------------------------------------------------------

/- What names mean, and how values convert. -/
structure Environment where
  valueOf? : String → Option Value
  functionOf? : String → Option Function
  policy : Policy

namespace Environment

/- The value of a variable. -/
def lookUp
    (env : Environment)
    (name : String) : Outcome Value :=
  match env.valueOf? name with
  | some v => .ok v
  | none => .error (Cause.variableNotFound name).unplaced

/- Call a function by name. -/
def call
    (env : Environment)
    (name : String)
    (args : List Value) : Outcome Value :=
  match env.functionOf? name with
  | some f => f.call args env.policy
  | none => .error (Cause.functionNotFound name).unplaced

end Environment

namespace Opcode

/- Apply a step to one value. -/
def applyUnary
    (o : Opcode)
    (p : Policy)
    (operand : Value) : Outcome Value :=
  match o with
  | .unary op => p.applyUnary op operand
  | _ =>
      .error (Cause.internal
        ("'" ++ o.symbol ++
          "' is not a unary operator")).unplaced

/- Apply a step to two values. -/
def applyBinary
    (o : Opcode)
    (p : Policy)
    (lhs rhs : Value) : Outcome Value :=
  match o with
  | .binary op => p.applyBinary op lhs rhs
  | _ =>
      .error (Cause.internal
        ("'" ++ o.symbol ++
          "' is not a binary operator")).unplaced

end Opcode

------------------------------------------------------------
-- Steps
------------------------------------------------------------

/- The number of arguments that a value announces. -/
def argumentCount?
    (v : Value) : Option Nat :=
  match v with
  | .integer n => if 0 ≤ n then some n.toNatClampNeg else none
  | _ => none

namespace Instruction

/- Call a function with arguments from the stack. -/
def stepCall
    (env : Environment)
    (name : String)
    (s : ValueStack) : Outcome ValueStack := do
  let (count, s) ← s.pop
  match argumentCount? count with
  | none =>
      .error (Cause.internal
        ("'" ++ name ++
          "' was called without a valid argument count")
        ).unplaced
  | some n =>
      let (args, s) ← s.popMany n
      .ok (s.push (← env.call name args))

/- Perform an instruction on a stack. -/
def step
    (env : Environment)
    (i : Instruction)
    (s : ValueStack) : Outcome ValueStack :=
  match i.opcode with
  | .constant => .ok (s.push i.payload)
  | .reference => do
      .ok (s.push (← env.lookUp (i.name?.getD "")))
  | .call => stepCall env (i.name?.getD "") s
  | .unary op => do
      let (operand, s) ← s.pop
      .ok (s.push (← env.policy.applyUnary op operand))
  | .binary op => do
      let (rhs, s) ← s.pop
      let (lhs, s) ← s.pop
      .ok (s.push (← env.policy.applyBinary op lhs rhs))

end Instruction

------------------------------------------------------------
-- Runs
------------------------------------------------------------

namespace Machine

/-
  Perform some instructions.  A failure gets the position of
  the instruction that failed.
-/
def run
    (env : Environment) :
    List Instruction → ValueStack → Outcome ValueStack
  | [], s => .ok s
  | i :: rest, s => do
      let s ← (i.step env s).mapError (·.locate i.position)
      run env rest s

/- Take the only value that is left. -/
def finish
    (s : ValueStack) : Outcome Value := do
  let (v, rest) ← s.pop
  if rest.isEmpty then .ok v
  else
    .error (Cause.internal
      (s.length.repr ++ " values left on the stack")).unplaced

end Machine

/- The value that a program computes. -/
def evaluate
    (instructions : List Instruction)
    (env : Environment) : Outcome Value := do
  Machine.finish (← Machine.run env instructions [])

end Formula
