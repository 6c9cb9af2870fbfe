/-
  The reserved words of the expression language.

  The words that are told from names are listed by their
  spellings.  What a reserved word stands for is found by its
  capitals, apart from that list.

  Key definitions include:
    * `reservedWords`
    * `isKeyword`
    * `Keyword`
    * `Keyword.ofWord?`
-/

namespace Formula

------------------------------------------------------------
-- Spellings
------------------------------------------------------------

/- The spellings of the reserved words, in capitals. -/
def reservedWords : List String :=
  [ "AND", "OR", "NOT", "XOR", "LIKE", "IS", "IN", "NULL",
    "TRUE", "FALSE" ]

/- Words that are the same but for the case of letters. -/
def isSameWord
    (a b : String) : Bool :=
  a.toList.map Char.toLower == b.toList.map Char.toLower

/- A word is reserved. -/
def isKeyword
    (word : String) : Bool :=
  reservedWords.any fun k => isSameWord k word

------------------------------------------------------------
-- Meanings
------------------------------------------------------------

/- What the reserved words stand for. -/
inductive Keyword where
  | and
  | or
  | not
  | xor
  | like
  | is
  | isIn
  | null
  | true
  | false
deriving DecidableEq, Repr

/- What a word in capitals stands for, if it is reserved. -/
def Keyword.ofCapitals? : String → Option Keyword
  | "AND" => some .and
  | "OR" => some .or
  | "XOR" => some .xor
  | "NOT" => some .not
  | "IS" => some .is
  | "IN" => some .isIn
  | "NULL" => some .null
  | "LIKE" => some .like
  | "TRUE" => some .true
  | "FALSE" => some .false
  | _ => none

/- What a word stands for, in any case of letters. -/
def Keyword.ofWord?
    (word : String) : Option Keyword :=
  ofCapitals? (String.ofList (word.toList.map Char.toUpper))

end Formula
