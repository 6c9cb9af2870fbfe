import Formula.Function.Standard
import Formula.Policy.Permissive
import Formula.Policy.Strict
import Formula.Program.Basic
import Formula.Program.Machine
import Formula.Text.Blank

/-
  Calculators, which keep an expression with its variables and
  functions.

  Key definitions include:
    * `calculate`
    * `Calculator`
    * `Calculator.takeExpression`
    * `Calculator.evaluate`
-/

namespace Formula

------------------------------------------------------------
-- Environments of Tables
------------------------------------------------------------

/- The environment of some variables and functions. -/
def Environment.ofTables
    (bindings : Directory Value)
    (functions : Directory Function)
    (policy : Policy) : Environment :=
  ⟨bindings.get?, functions.get?, policy⟩

------------------------------------------------------------
-- Single Calculations
------------------------------------------------------------

/- What can be wrong with a calculation. -/
inductive CalculationError where
  | malformed (error : SyntaxError)
  | failed (failure : Failure)
deriving DecidableEq

/- The message of an error. -/
def CalculationError.message : CalculationError → String
  | .malformed e => e.message
  | .failed f => f.message

/- Compile an expression and evaluate it. -/
def calculateIn
    (env : Environment)
    (source : String) : Except CalculationError Value := do
  let program ← (Program.parse source).mapError .malformed
  (evaluate program.instructions env).mapError .failed

/- Calculate with the standard library and no variables. -/
def calculate
    (moment : Moment)
    (source : String) : Except CalculationError Value :=
  calculateIn (.ofTables .empty moment.library .permissive)
    source

------------------------------------------------------------
-- Calculators
------------------------------------------------------------

/- The conversion policies that a calculator offers. -/
inductive Strictness where
  | strict
  | permissive
deriving DecidableEq, Repr

/- The policy that is meant. -/
def Strictness.policy : Strictness → Policy
  | .strict => .strict
  | .permissive => .permissive

/- How a calculator works. -/
structure Settings where
  strictness : Strictness
  autoVariables : Bool
deriving DecidableEq, Repr

/- Permissive, with variables made as they are met. -/
def Settings.standard : Settings :=
  ⟨.permissive, true⟩

/-
  An expression with its program, and the variables and
  functions at hand.
-/
structure Calculator where
  settings : Settings
  source : String
  program : Program
  bindings : Directory Value
  functions : Directory Function

namespace Calculator

/- A calculator without an expression. -/
def new
    (moment : Moment)
    (settings : Settings) : Calculator :=
  ⟨settings, "", .empty, .empty, moment.library⟩

/-
  The program of a source.  A blank one has the program that
  does nothing.
-/
def compile
    (source : String) : Except SyntaxError Program :=
  if (trim source.toList).isEmpty then .ok .empty
  else Program.parse source

/- Declare names that are not declared yet, without values. -/
def declare
    (bindings : Directory Value)
    (names : List String) : Directory Value :=
  (names.filter fun name => !bindings.has name).foldl
    (fun d name => d.put name .null) bindings

/-
  Take another expression.  It is compiled, its variables are
  declared if the settings say so, and then its text and its
  program are kept.  What was changed before a failure would
  stay changed.
-/
def takeExpression
    (source : String) :
    EStateM SyntaxError Calculator Unit := do
  let program ← MonadExcept.ofExcept (compile source)
  if (← get).settings.autoVariables then
    modify fun k =>
      { k with bindings := declare k.bindings program.names }
  modify fun k => { k with source := source }
  modify fun k => { k with program := program }

/- The calculator that has taken another expression. -/
def setExpression
    (k : Calculator)
    (source : String) : Except SyntaxError Calculator :=
  match (takeExpression source).run k with
  | .ok _ after => .ok after
  | .error e _ => .error e

/- A calculator with standard settings for an expression. -/
def ofExpression?
    (moment : Moment)
    (source : String) : Except SyntaxError Calculator :=
  (new moment .standard).setExpression source

/- Convert values by another policy from now on. -/
def setStrictness
    (k : Calculator)
    (s : Strictness) : Calculator :=
  { k with settings := ⟨s, k.settings.autoVariables⟩ }

/- Replace the variables. -/
def setBindings
    (k : Calculator)
    (bindings : Directory Value) : Calculator :=
  { k with bindings := bindings }

/- Replace the functions. -/
def setFunctions
    (k : Calculator)
    (functions : Directory Function) : Calculator :=
  { k with functions := functions }

/-
  The value of the expression with other variables and
  functions, which is null if there is no expression.
-/
def evaluateWith
    (k : Calculator)
    (bindings : Directory Value)
    (functions : Directory Function) : Outcome Value :=
  if k.program.isEmpty then .ok .null
  else
    Formula.evaluate k.program.instructions
      (.ofTables bindings functions
        k.settings.strictness.policy)

/- The value of the expression. -/
def evaluate
    (k : Calculator) : Outcome Value :=
  k.evaluateWith k.bindings k.functions

end Calculator

end Formula
