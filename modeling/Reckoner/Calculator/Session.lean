import Reckoner.Calculator

/-!
# Sessions

A session puts one request after another to a calculator.  Only a new limit on
nesting changes what later requests see.
-/

namespace Reckoner

/-- What a calculator can be asked. -/
inductive Request where
  | evaluate (text : String)
  | parse (text : String)
  | evaluateExpression (expression : Expression)
  | maxDepth
  | withMaxDepth (limit : UInt64)
  | symbols

/-- What a calculator answers, with numbers of the kind `α`. -/
inductive Answer (α : Type) where
  | evaluated (result : Except CalcError α)
  | parsed (result : Except ParseError Expression)
  | reduced (result : Except EvalError α)
  | limit (value : UInt64)
  | symbols (symbols : List String)

namespace Calculator

variable {α : Type} [Number α]

/-- The answer to a request and the calculator for the next one. -/
def answer (calculator : Calculator) :
    Request → Logged (Answer α × Calculator)
  | .evaluate text => do
      let result ← calculator.evaluate text
      return (.evaluated result, calculator)
  | .parse text => return (.parsed (calculator.parse text), calculator)
  | .evaluateExpression expression =>
      return (.reduced (calculator.evaluateExpression expression), calculator)
  | .maxDepth => return (.limit calculator.maxDepth, calculator)
  | .withMaxDepth limit => return (.limit limit, calculator.withMaxDepth limit)
  | .symbols => return (.symbols calculator.table.symbols, calculator)

/-- The answers to the requests of a session. -/
def session (calculator : Calculator) :
    List Request → Logged (List (Answer α))
  | [] => return []
  | request :: rest => do
      let (first, next) ← calculator.answer request
      let later ← next.session rest
      return first :: later

end Calculator

end Reckoner
