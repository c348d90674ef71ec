import Reckoner.Operator
import Reckoner.Real.Remainder

/-!
# Named operations

The operations that a configuration can choose for an operator.  All of them
are defined for all numbers: division by zero gives an infinity or no number.
-/

namespace Reckoner

/-- An operation that has a name. -/
inductive Arithmetic where
  | add
  | subtract
  | multiply
  | divide
  | power
  | remainder
  | minimum
  | maximum
  deriving Repr, DecidableEq

namespace Arithmetic

/-- The result of the operation. -/
def compute : Arithmetic → Float → Float → Float
  | .add, left, right => left + right
  | .subtract, left, right => left - right
  | .multiply, left, right => left * right
  | .divide, left, right => left / right
  | .power, left, right => Float.pow left right
  | .remainder, left, right => Real.remainder left right
  | .minimum, left, right => Real.lesser left right
  | .maximum, left, right => Real.greater left right

/-- The operation as an operator applies it. -/
def apply (operation : Arithmetic) (left right : Float) : Option Float :=
  some (operation.compute left right)

/-- An operator for the operation. -/
def operator (operation : Arithmetic) (precedence : Int32)
    (associativity : Associativity) : Operator :=
  ⟨precedence, associativity, operation.apply⟩

end Arithmetic

end Reckoner
