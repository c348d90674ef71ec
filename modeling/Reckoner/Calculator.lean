import Reckoner.Config.Document
import Reckoner.Expression.Evaluate
import Reckoner.Expression.Parse
import Reckoner.Number

/-!
# Calculators

A calculator parses a text with the operators of its table, evaluates the
expression and converts its value into the kind of number that is asked for.
Every evaluation of a text leaves its story in the log: the text, the
expression if there is one, and what came out.
-/

namespace Reckoner

/-- The operators to calculate with and the limit on nesting. -/
structure Calculator where
  table : Table
  maxDepth : UInt64

/-- Why a text cannot be evaluated. -/
inductive CalcError where
  | parse (error : ParseError)
  | eval (error : EvalError)
  deriving DecidableEq

/-- The wording of an error. -/
def CalcError.message : CalcError → String
  | .parse error => error.message
  | .eval error => error.message

namespace Calculator

/-- A calculator with the default limit on nesting. -/
def ofTable (table : Table) : Calculator := ⟨table, Config.defaultMaxDepth⟩

/-- A calculator for elementary arithmetic. -/
def standard : Calculator := ofTable Table.standard

instance : Inhabited Calculator := ⟨standard⟩

/-- The calculator with another limit on nesting. -/
def withMaxDepth (calculator : Calculator) (limit : UInt64) : Calculator :=
  { calculator with maxDepth := limit }

/-- The calculator of a valid configuration. -/
def ofConfig (config : Config) : Configured Calculator := do
  let table ← config.toTable
  return (ofTable table).withMaxDepth config.maxDepth

/-- The calculator of the document of a valid configuration. -/
def ofDocument (format : DocumentFormat) (document : String) :
    Configured Calculator := do
  let config ← Config.ofDocument format document
  let table ← config.intoTable
  return (ofTable table).withMaxDepth config.maxDepth

theorem ofDocument_eq_bind (format : DocumentFormat) (document : String) :
    ofDocument format document =
      Config.ofDocument format document >>= ofConfig := by
  simp only [ofDocument, Config.intoTable, Config.moveAll_eq_registerAll]
  rfl

/-- Parses a text without evaluating it. -/
def parse (calculator : Calculator) (text : String) :
    Except ParseError Expression :=
  Expression.parse calculator.table calculator.maxDepth.toNat text

variable {α : Type} [Number α]

/-- The value of an expression, converted once at the end. -/
def evaluateExpression (calculator : Calculator) (expression : Expression) :
    Except EvalError α := do
  let value ← expression.evaluate calculator.table
  Number.ofReal value

/-- What a record about an evaluation starts with. -/
def subject (α : Type) [Number α] (text : String) : String :=
  "evaluate<" ++ Number.name α ++ ">: " ++ Text.quoted text

/-- Parses a text and records the expression. -/
def parseLogged (calculator : Calculator) (text : String) :
    Logged (Except ParseError Expression) :=
  match calculator.parse text with
  | .ok expression => do
      .emit .trace
        ("parsed " ++ Text.quoted text ++ " as " ++ expression.render)
      return .ok expression
  | .error error => return .error error

/-- Parses and evaluates a text. -/
def evaluate (calculator : Calculator) (text : String) :
    Logged (Except CalcError α) := do
  .emit .debug (subject α text)
  let result : Except CalcError α ← do
    match ← calculator.parseLogged text with
    | .ok expression =>
        pure ((calculator.evaluateExpression expression).mapError .eval)
    | .error error => pure (.error (.parse error))
  match result with
  | .ok value =>
      .emit .debug (subject α text ++ " = " ++ Number.text value)
  | .error error =>
      .emit .debug (subject α text ++ " failed: " ++ error.message)
  return result

end Calculator

end Reckoner
