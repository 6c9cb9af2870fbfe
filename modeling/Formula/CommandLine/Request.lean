/-
  What the arguments of a command ask for.

  A long option follows two dashes and a short one follows a
  single dash, where several may stand together.  An option
  that takes a value takes it after an equals sign, or as the
  next argument; a short one takes what follows it at once,
  too.  After two dashes alone no argument is an option.

  Key definitions include:
    * `Request`
    * `Refusal`
    * `Request.ofArguments?`
-/

namespace Formula

------------------------------------------------------------
-- Requests
------------------------------------------------------------

/- What a command is asked to do. -/
structure Request where
  file : Option String
  bindings : List String
  strict : Bool
  tokens : Bool
  postfixForm : Bool
  verbosity : Nat
  expression : Option String
deriving DecidableEq, Repr

/- A request for nothing. -/
def Request.none : Request :=
  ⟨.none, [], false, false, false, 0, .none⟩

/- Why a command does nothing: it was asked about, or wrong. -/
inductive Refusal where
  | help
  | version
  | misuse
deriving DecidableEq, Repr

------------------------------------------------------------
-- Options
------------------------------------------------------------

/- The options of the command. -/
inductive Switch where
  | file
  | binding
  | strict
  | tokens
  | postfixForm
  | verbose
  | help
  | version
deriving DecidableEq, Repr

namespace Switch

/- The option with a long name. -/
def ofLong? : String → Option Switch
  | "file" => some .file
  | "var" => some .binding
  | "strict" => some .strict
  | "tokens" => some .tokens
  | "postfix" => some .postfixForm
  | "verbose" => some .verbose
  | "help" => some .help
  | "version" => some .version
  | _ => none

/- The option with a short name. -/
def ofShort? : Char → Option Switch
  | 'f' => some .file
  | 's' => some .strict
  | 'v' => some .verbose
  | 'h' => some .help
  | 'V' => some .version
  | _ => none

/- The option takes a value. -/
def takesValue : Switch → Bool
  | .file => true
  | .binding => true
  | _ => false

end Switch

namespace Request

/- Take a part of a request that may be given only once. -/
def once
    (given : Bool)
    (r : Request) : Except Refusal Request :=
  if given then .error .misuse else .ok r

/- Add an option to a request, with its value if it has one. -/
def add
    (r : Request)
    (s : Switch)
    (value : String) : Except Refusal Request :=
  match s with
  | .file => once r.file.isSome { r with file := some value }
  | .binding =>
      .ok { r with bindings := r.bindings ++ [value] }
  | .strict => once r.strict { r with strict := true }
  | .tokens => once r.tokens { r with tokens := true }
  | .postfixForm =>
      once r.postfixForm { r with postfixForm := true }
  | .verbose => .ok { r with verbosity := r.verbosity + 1 }
  | .help => .error .help
  | .version => .error .version

/- Add the expression to a request. -/
def addExpression
    (r : Request)
    (source : String) : Except Refusal Request :=
  once r.expression.isSome { r with expression := some source }

------------------------------------------------------------
-- Arguments
------------------------------------------------------------

/- A text is an option, which a single dash is not. -/
def isOption
    (argument : String) : Bool :=
  match argument.toList with
  | '-' :: _ :: _ => true
  | _ => false

/- Split a text at its first equals sign. -/
def splitAtEquals : List Char → List Char × Option (List Char)
  | [] => ([], .none)
  | '=' :: rest => ([], some rest)
  | c :: rest =>
      let (name, value) := splitAtEquals rest
      (c :: name, value)

/-
  Add short options that stand together.  The last one may
  wait for the next argument as its value.
-/
def addShort
    (r : Request) :
    List Char → Except Refusal (Request × Option Switch)
  | [] => .ok (r, .none)
  | c :: rest =>
      match Switch.ofShort? c with
      | .none => .error .misuse
      | some s =>
          if s.takesValue then
            match rest with
            | [] => .ok (r, some s)
            | '=' :: value => do
                .ok (← r.add s (String.ofList value), .none)
            | value => do
                .ok (← r.add s (String.ofList value), .none)
          else do
            addShort (← r.add s "") rest

/- Add a long option, which may wait for its value, too. -/
def addLong
    (r : Request)
    (option : List Char) :
    Except Refusal (Request × Option Switch) :=
  let (name, value) := splitAtEquals option
  match Switch.ofLong? (String.ofList name) with
  | .none => .error .misuse
  | some s =>
      match s.takesValue, value with
      | true, .none => .ok (r, some s)
      | true, some v => do
          .ok (← r.add s (String.ofList v), .none)
      | false, .none => do .ok (← r.add s "", .none)
      | false, some _ => .error .misuse

/- Add an argument that no option waits for. -/
def addArgument
    (r : Request)
    (argument : String) :
    Except Refusal (Request × Option Switch) :=
  match argument.toList with
  | '-' :: '-' :: option => r.addLong option
  | '-' :: c :: rest => r.addShort (c :: rest)
  | _ => do .ok (← r.addExpression argument, .none)

/- Add all arguments, the first ones of which are options. -/
def addAll
    (r : Request)
    (waiting : Option Switch) :
    List String → Except Refusal Request
  | [] => if waiting.isSome then .error .misuse else .ok r
  | argument :: rest =>
      match waiting with
      | some s =>
          if isOption argument then .error .misuse
          else do addAll (← r.add s argument) .none rest
      | .none =>
          if argument = "--" then rest.foldlM addExpression r
          else do
            let (r, waiting) ← r.addArgument argument
            addAll r waiting rest

/-
  What some arguments ask for.  A file and an expression do
  not go together.
-/
def ofArguments?
    (arguments : List String) : Except Refusal Request := do
  let r ← addAll .none .none arguments
  if r.file.isSome && r.expression.isSome then .error .misuse
  else .ok r

end Request

end Formula
