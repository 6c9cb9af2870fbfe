import Formula.Main
import Formula.Proofs.Grammar.Correctness
import Formula.Proofs.Program.Refinement
import Formula.Proofs.Program.StackSafety
import Formula.Proofs.Token.Piece
import Formula.Proofs.Token.Stream
import Formula.Proofs.Token.Lossless
import Formula.Proofs.Token.CharMap
import Formula.Proofs.Token.Expression
import Formula.Proofs.Grammar.Lexeme
import Formula.Proofs.Program.Source
import Formula.Proofs.Grammar.Stuck
import Formula.Proofs.Grammar.Exactness
import Formula.Proofs.Grammar.Reposition
import Formula.Proofs.Grammar.Localisation
import Formula.Proofs.Program.EndPosition
import Formula.Proofs.Token.Lookahead
import Formula.Proofs.Token.Options
import Formula.Proofs.Token.Spacing
import Formula.Proofs.Program.Spacing
import Formula.Proofs.Program.References
import Formula.Proofs.Program.Reading
import Formula.Proofs.Program.Dependence
import Formula.Proofs.Operator.Result
import Formula.Proofs.Directory.History
import Formula.Proofs.Calculator.Expression
import Formula.Proofs.Calculator.Session
import Formula.Proofs.Token.Symbol
import Formula.Proofs.Program.Places
import Formula.Proofs.Program.Quoting
import Formula.Proofs.Token.Number
import Formula.Proofs.Calculator.WholeNumber
import Formula.Proofs.Program.UnknownSymbol
import Formula.Proofs.Operator.Indexing
import Formula.Proofs.Operator.Comparison
import Formula.Proofs.Operator.Membership
import Formula.Proofs.Numeral.Rounding
import Formula.Proofs.Function.Truncation
import Formula.Proofs.Calculator.Blank
import Formula.Proofs.Function.Extreme
import Formula.Proofs.Text.Wildcard
import Formula.Proofs.Text.Regex
import Formula.Proofs.Operator.Matching
import Formula.Proofs.Time.Calendar
import Formula.Proofs.Time.Rfc3339
import Formula.Proofs.Policy.Recovery
import Formula.Proofs.Operator.Word
import Formula.Proofs.Operator.Shift
import Formula.Proofs.Operator.Moving
import Formula.Proofs.Function.Span
import Formula.Proofs.Token.CharMap.History
import Formula.Proofs.Operator.Equality
import Formula.Proofs.Token.Stream.Reading
import Formula.Proofs.Token.Comment
import Formula.Proofs.Token.RuleWalk
import Formula.Proofs.Token.Symbol.Registration
import Formula.Proofs.Operator.Support
import Formula.Proofs.Function.Safety
