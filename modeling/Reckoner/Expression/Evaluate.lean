import Reckoner.Decimal.Literal
import Reckoner.Expression.EvalError
import Reckoner.Operator.Table

/-!
# Evaluating expressions

An expression is evaluated from the leaves to the root and from left to right,
always in floating numbers.  What a symbol means between two operands is decided
by the table alone; in front of an operand only two symbols have a meaning.
-/

namespace Reckoner.Expression

/-- The value of a literal. -/
def evaluateLiteral (text : String) : Except EvalError Float :=
  match Decimal.read? text with
  | some value => .ok value
  | none => .error (.invalidLiteral text)

/-- The value of an operator in front of an operand. -/
def applyUnary (symbol : String) (value : Float) : Except EvalError Float :=
  if symbol = "+" then .ok value
  else if symbol = "-" then .ok (-value)
  else .error (.unknownEffect symbol .unary)

/-- The value of an operator between two operands. -/
def applyBinary (table : Table) (symbol : String) (left right : Float) :
    Except EvalError Float :=
  match table.get? symbol with
  | none => .error (.unknownEffect symbol .binary)
  | some operator =>
      match operator.apply left right with
      | some value => .ok value
      | none => .error (.operatorFailed symbol left right)

/-- The value of an expression, or the first failure. -/
def evaluate (table : Table) : Expression → Except EvalError Float
  | .literal text => evaluateLiteral text
  | .unary symbol operand => do
      let value ← operand.evaluate table
      applyUnary symbol value
  | .binary symbol left right => do
      let leftValue ← left.evaluate table
      let rightValue ← right.evaluate table
      applyBinary table symbol leftValue rightValue

end Reckoner.Expression
