import Reckoner.Decimal.Layout
import Reckoner.Expression

/-!
# Errors of evaluation

Why an expression has no value, or a value that cannot be given back.
-/

namespace Reckoner

/-- The first failure in the evaluation of an expression. -/
inductive EvalError where
  | invalidLiteral (text : String)
  | unknownEffect (symbol : String) (fixity : Fixity)
  /-- The operation of the symbol is undefined for the two operands. -/
  | operatorFailed (symbol : String) (left right : Float)
  | notRepresentable (value : Float) (target : String)
  deriving DecidableEq

namespace EvalError

/-- Messages write whole numbers without a fraction, and no power of ten. -/
def layout : Decimal.Layout := ⟨[], none⟩

/-- A number as messages show it. -/
def numberText (value : Float) : String :=
  layout.text .double (Exact.ofFloat value)

/-- The wording of an error. -/
def message : EvalError → String
  | .invalidLiteral text => "Invalid numeric literal: " ++ text
  | .unknownEffect symbol fixity =>
      "Operator '" ++ symbol ++ "' has no " ++ fixity.name ++ " meaning"
  | .operatorFailed symbol left right =>
      "Operator '" ++ symbol ++ "' is undefined for " ++ numberText left ++
        " and " ++ numberText right
  | .notRepresentable value target =>
      "Result " ++ numberText value ++ " cannot be represented as " ++ target

end EvalError

end Reckoner
