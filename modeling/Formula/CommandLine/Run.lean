import Formula.Calculator
import Formula.CommandLine.Request
import Formula.Text.Literal

/-
  The work of a command.

  It evaluates an expression and prints the value, or prints
  the tokens of the expression.

  Key definitions include:
    * `Invocation`
    * `Report`
    * `Invocation.run`
-/

namespace Formula

------------------------------------------------------------
-- Invocations and Reports
------------------------------------------------------------

/- How a command is called, and the texts of files. -/
structure Invocation where
  version : String
  arguments : List String
  readFile? : String → Option String
  moment : Moment

/- What a command prints, and the status it ends with. -/
structure Report where
  status : Nat
  output : String
  errors : String
deriving DecidableEq, Repr

namespace Report

/- The report of success. -/
def success
    (output : String) : Report :=
  ⟨0, output, ""⟩

/- The report of a failure. -/
def failure
    (output message : String) : Report :=
  ⟨1, output, message ++ "\n"⟩

/- The report of a command that was not understood. -/
def ofRefusal
    (version : String) : Refusal → Report
  | .version => success (version ++ "\n")
  | .help =>
      success "Usage: [OPTIONS] [EXPRESSION]\n"
  | .misuse =>
      ⟨2, "", "error: the arguments are not understood\n"⟩

end Report

------------------------------------------------------------
-- Parts of the Work
------------------------------------------------------------

/- A text with spaces behind it up to a width. -/
def padRight
    (width : Nat)
    (s : String) : String :=
  s ++ String.ofList (List.replicate (width - s.length) ' ')

/- A text with spaces in front of it up to a width. -/
def padLeft
    (width : Nat)
    (s : String) : String :=
  String.ofList (List.replicate (width - s.length) ' ') ++ s

/- A token as it is listed. -/
def Token.line
    (t : Token) : String :=
  padLeft 4 t.position.line.repr ++ ":" ++
    padRight 4 t.position.column.repr ++ " " ++
    t.kind.name ++ " " ++ quoteLiteral t.value ++ "\n"

/- The tokens of an expression, a line for each. -/
def listTokens
    (source : String) : String :=
  String.join
    ((Tokenizer.expression.tokens source).map Token.line)

/- The instructions of a program, a line for each. -/
def Program.listing
    (p : Program) : String :=
  String.join (p.instructions.map fun i => i.text ++ "\n")

namespace Invocation

/- The text to work on. -/
def source?
    (k : Invocation)
    (r : Request) : Except String String :=
  match r.file, r.expression with
  | some path, _ =>
      match k.readFile? path with
      | some text => .ok text
      | none =>
          .error ("Failed to read the input file '" ++ path ++
            "'. Perhaps this file does not exist?")
  | none, some source => .ok source
  | none, none =>
      .error "Nothing to evaluate: pass an expression or --file"

/-
  The value that is bound to a variable: that of an expression
  if the text can be calculated, or else the text.
-/
def boundValue
    (k : Invocation)
    (text : String) : Value :=
  match calculate k.moment text with
  | .ok v => v
  | .error _ => .string text

/- A variable with its value, written with an equals sign. -/
def binding?
    (k : Invocation)
    (text : String) : Except String (Entry Value) :=
  match Request.splitAtEquals text.toList with
  | (name, some value) =>
      .ok ⟨String.ofList (trim name),
        k.boundValue (String.ofList value)⟩
  | (_, none) =>
      .error ("Invalid variable binding '" ++ text ++
        "', expected NAME=VALUE")

/- A calculator as a request wants it, with an expression. -/
def calculator?
    (k : Invocation)
    (r : Request)
    (source : String) : Except String Calculator := do
  let strictness : Strictness :=
    if r.strict then .strict else .permissive
  let entries ← r.bindings.mapM k.binding?
  let empty := Calculator.new k.moment ⟨strictness, true⟩
  let bound := empty.setBindings (.ofEntries entries)
  (bound.setExpression source).mapError SyntaxError.message

/- Evaluate an expression as a request wants it. -/
def evaluate
    (k : Invocation)
    (r : Request)
    (source : String) : Report :=
  match k.calculator? r source with
  | .error message => .failure "" message
  | .ok calculator =>
      let listing :=
        if r.postfixForm then calculator.program.listing
        else ""
      match calculator.evaluate with
      | .ok v => .success (listing ++ v.text ++ "\n")
      | .error f => .failure listing f.message

/- Do what a request wants. -/
def perform
    (k : Invocation)
    (r : Request) : Report :=
  match k.source? r with
  | .error message => .failure "" message
  | .ok source =>
      if r.tokens then .success (listTokens source)
      else k.evaluate r source

/- Do what a command is called for. -/
def run
    (k : Invocation) : Report :=
  match Request.ofArguments? k.arguments with
  | .error refusal => .ofRefusal k.version refusal
  | .ok r => k.perform r

/- The file that some arguments ask to read, if any. -/
def fileOf?
    (arguments : List String) : Option String :=
  match Request.ofArguments? arguments with
  | .ok r => r.file
  | .error _ => none

end Invocation

end Formula
