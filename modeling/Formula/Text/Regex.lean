import Formula.Text.CaseFolding

/-
  Regular expressions, as far as they go without groups, sets
  and alternatives: flags in front, anchors, points and letters,
  each of the latter two once or, with a star behind it, any
  number of times.

  A wildcard pattern is written as an expression that is
  anchored at both ends and ignores letter case: `.*` for a
  percent sign, `.` for an underscore, and every other character
  for itself, behind a backslash if it has a meaning of its own.

  An expression is matched from its last part to the first.
  For the parts so far a row tells at which places of the text
  they match, the places being its ends from the longest one
  to the empty one.

  Key definitions include:
    * `Regex.escape`
    * `Regex.ofPattern`
    * `Regex.symbols?`
    * `Regex`
    * `Regex.read?`
    * `Regex.isMatch`
-/

namespace Formula

namespace Regex

------------------------------------------------------------
-- Writing
------------------------------------------------------------

/- The characters that a backslash makes plain. -/
def metaCharacters : List Char :=
  [ '\\', '.', '+', '*', '?', '(', ')', '|', '[', ']', '\x7b',
    '\x7d', '^', '$', '#', '&', '-', '~' ]

/- A character that stands for itself. -/
def escape
    (c : Char) : List Char :=
  if metaCharacters.contains c then ['\\', c] else [c]

/- What a character of a pattern is written as. -/
def ofPatternChar
    (c : Char) : List Char :=
  if c = '%' then ['.', '*']
  else if c = '_' then ['.']
  else escape c

/- The regular expression of a pattern. -/
def ofPattern
    (pattern : List Char) : List Char :=
  ['(', '?', 'i', 's', ')', '^'] ++
    pattern.flatMap ofPatternChar ++ ['$']

------------------------------------------------------------
-- Reading
------------------------------------------------------------

/- The characters that are operators where they stand alone. -/
def operators : List Char :=
  [ '.', '+', '*', '?', '(', ')', '|', '[', '\x7b', '^', '$' ]

/- A letter that stands for itself, or an operator. -/
inductive Symbol where
  | letter (c : Char)
  | operator (c : Char)
deriving DecidableEq

/- Read letters and operators, up to the end of a text. -/
def symbols? : List Char → Option (List Symbol)
  | [] => some []
  | c :: rest =>
      if c = '\\' then
        match rest with
        | [] => none
        | d :: rest =>
            if metaCharacters.contains d then
              (symbols? rest).map fun s => .letter d :: s
            else none
      else
        (symbols? rest).map fun s =>
          (if operators.contains c then .operator c
            else .letter c) :: s

/- What is taken of a text, one character at a time. -/
inductive Atom where
  | any
  | letter (c : Char)
deriving DecidableEq

/- The parts of a regular expression. -/
inductive Part where
  | start
  | finish
  | once (a : Atom)
  | run (a : Atom)
deriving DecidableEq

/- An atom that is taken once or any number of times. -/
def Atom.part
    (repeated : Bool)
    (a : Atom) : Part :=
  if repeated then .run a else .once a

/- The part that a symbol is; an anchor is not repeated. -/
def part?
    (repeated : Bool) : Symbol → Option Part
  | .letter c => some (Atom.part repeated (.letter c))
  | .operator c =>
      if c = '.' then some (Atom.part repeated .any)
      else if repeated then none
      else if c = '^' then some .start
      else if c = '$' then some .finish
      else none

/- Put symbols together to parts, stars to what they repeat. -/
def parts? : List Symbol → Option (List Part)
  | [] => some []
  | [s] => (part? false s).map fun part => [part]
  | s :: next :: rest =>
      if next = .operator '*' then
        (part? true s).bind fun part =>
          (parts? rest).map fun parts => part :: parts
      else
        (part? false s).bind fun part =>
          (parts? (next :: rest)).map fun parts =>
            part :: parts

/- What the flags of an expression change. -/
structure Flags where
  ignoresCase : Bool
  crossesLines : Bool
deriving DecidableEq

/- Read the letters of flags, up to the closing parenthesis. -/
def flags?
    (f : Flags) : List Char → Option (Flags × List Char)
  | 'i' :: rest => flags? { f with ignoresCase := true } rest
  | 's' :: rest => flags? { f with crossesLines := true } rest
  | ')' :: rest => some (f, rest)
  | _ => none

end Regex

/- A regular expression: its flags and its parts. -/
structure Regex where
  flags : Regex.Flags
  parts : List Regex.Part
deriving DecidableEq

namespace Regex

/- Read a regular expression, with or without flags. -/
def read?
    (s : List Char) : Option Regex := do
  let (f, s) ← match s with
    | '(' :: '?' :: rest => flags? ⟨false, false⟩ rest
    | s => some (⟨false, false⟩, s)
  let parts ← (symbols? s).bind parts?
  some ⟨f, parts⟩

------------------------------------------------------------
-- Matching
------------------------------------------------------------

/- An atom takes a character. -/
def Atom.takes
    (f : Flags)
    (c : Char) : Atom → Bool
  | .any => f.crossesLines || c != '\n'
  | .letter d =>
      if f.ignoresCase then foldCase c == foldCase d
      else c == d

/- The places where a character is taken once. -/
def onceRow
    (takes : Char → Bool) : List Char → List Bool → List Bool
  | c :: text, _ :: b :: row =>
      (takes c && b) :: onceRow takes text (b :: row)
  | _, _ => [false]

/- The places where characters are taken, or none. -/
def runRow
    (takes : Char → Bool) : List Char → List Bool → List Bool
  | c :: text, b :: row =>
      let later := runRow takes text row
      (b || (takes c && later.headD false)) :: later
  | _, row => row

/- The start of a text is its first place. -/
def startRow : List Bool → List Bool
  | [] => []
  | b :: row => b :: row.map fun _ => false

/- The end of a text is its last place. -/
def finishRow : List Bool → List Bool
  | [] => []
  | [b] => [b]
  | _ :: row => false :: finishRow row

/- The places where a part matches before those given. -/
def Part.row
    (f : Flags)
    (text : List Char)
    (behind : List Bool) : Part → List Bool
  | .start => startRow behind
  | .finish => finishRow behind
  | .once a => onceRow (a.takes f) text behind
  | .run a => runRow (a.takes f) text behind

/- The places of a text where some parts match. -/
def matchRow
    (f : Flags)
    (parts : List Part)
    (text : List Char) : List Bool :=
  parts.foldr (fun part behind => part.row f text behind)
    (true :: text.map fun _ => true)

/- An expression matches somewhere in a text. -/
def isMatch
    (r : Regex)
    (text : List Char) : Bool :=
  (matchRow r.flags r.parts text).contains true

end Regex

end Formula
