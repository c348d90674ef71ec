import Reckoner.Text.Blank
import Reckoner.Text.Bytes
import Reckoner.Text.Plain
import Reckoner.Text.Quoted
import Reckoner.Real.Exact
import Reckoner.Real.Remainder
import Reckoner.Real.Whole
import Reckoner.Decimal.Shortest
import Reckoner.Decimal.Layout
import Reckoner.Decimal.Literal
import Reckoner.Operator
import Reckoner.Operator.Arithmetic
import Reckoner.Operator.Symbol
import Reckoner.Operator.Table
import Reckoner.Operator.Registry
import Reckoner.Token
import Reckoner.Token.Cursor
import Reckoner.Token.Lexer
import Reckoner.Expression
import Reckoner.Expression.Steps
import Reckoner.Expression.ParseError
import Reckoner.Expression.Parse
import Reckoner.Expression.OnDemand
import Reckoner.Expression.EvalError
import Reckoner.Expression.Evaluate
import Reckoner.Number
import Reckoner.Logged
import Reckoner.Config
import Reckoner.Config.Document
import Reckoner.Calculator
import Reckoner.Calculator.Session
import Reckoner.Proofs.Grouping
import Reckoner.Proofs.Written
import Reckoner.Proofs.Reading
import Reckoner.Proofs.Canonical
import Reckoner.Proofs.Grammar
import Reckoner.Proofs.Nesting
import Reckoner.Proofs.RoundTrip
import Reckoner.Proofs.Balance
import Reckoner.Proofs.Chaining
import Reckoner.Proofs.Threshold
import Reckoner.Proofs.Places
import Reckoner.Proofs.Continuation
import Reckoner.Proofs.Faults
import Reckoner.Proofs.Evaluation
import Reckoner.Proofs.StackMachine
import Reckoner.Proofs.Scanning
import Reckoner.Proofs.Spacing
import Reckoner.Proofs.TakingBack
import Reckoner.Proofs.OnDemand
import Reckoner.Proofs.Observation
import Reckoner.Proofs.TokenStream
import Reckoner.Proofs.Registration
import Reckoner.Proofs.Quoting
import Reckoner.Proofs.LongestMatch
import Reckoner.Proofs.Ranking
import Reckoner.Proofs.Occurring
import Reckoner.Proofs.Configuring
import Reckoner.Proofs.FirstFault
import Reckoner.Proofs.Recording
import Reckoner.Proofs.Magnitude
import Reckoner.Proofs.Truncation
import Reckoner.Proofs.Activations
import Reckoner.Proofs.Reaching
