import Formula.Text.Position

/-
  What can be wrong with the text of an expression.

  Key definitions include:
    * `SyntaxCause`
    * `SyntaxError`
    * `SyntaxError.message`
-/

namespace Formula

/- The causes of syntax errors. -/
inductive SyntaxCause where
  | unexpectedEnd
  | unknownSymbol (symbol : String)
  | leftOver (token : String)
  | noOperand (token : String)
  | missingParenthesis
  | missingBracket
deriving DecidableEq, Repr

/- A syntax error and where it was found. -/
structure SyntaxError where
  cause : SyntaxCause
  position : Position
deriving DecidableEq, Repr

/- The wording of a cause. -/
def SyntaxCause.message : SyntaxCause → String
  | .unexpectedEnd => "Unexpected end of expression"
  | .unknownSymbol symbol => "Unknown symbol " ++ symbol
  | .leftOver token => "Syntax error near " ++ token
  | .noOperand token => "Syntax error at " ++ token
  | .missingParenthesis => "Missing close parenthesis"
  | .missingBracket => "Missing close bracket"

/- The message of a syntax error. -/
def SyntaxError.message
    (e : SyntaxError) : String :=
  e.cause.message ++ e.position.phrase

end Formula
