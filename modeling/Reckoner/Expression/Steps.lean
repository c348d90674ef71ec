import Reckoner.Expression

/-!
# Expressions as lists of steps

An expression can be written without parentheses by putting every operator
behind its operands.  Read from left to right, each step takes its operands
from a stack and puts its result there.

`ofSteps?_steps` says that this form determines the expression.
-/

namespace Reckoner

/-- A literal or an operator in a list of steps. -/
inductive Step where
  | literal (text : String)
  | unary (symbol : String)
  | binary (symbol : String)
  deriving Repr, DecidableEq

namespace Expression

/-- The steps of an expression, operands first and from left to right. -/
def steps : Expression → List Step
  | .literal text => [.literal text]
  | .unary symbol operand => operand.steps ++ [.unary symbol]
  | .binary symbol left right => left.steps ++ right.steps ++ [.binary symbol]

/-- What a step does to a stack of expressions, if its operands are there. -/
def build? (stack : List Expression) : Step → Option (List Expression)
  | .literal text => some (.literal text :: stack)
  | .unary symbol =>
      match stack with
      | operand :: rest => some (.unary symbol operand :: rest)
      | [] => none
  | .binary symbol =>
      match stack with
      | right :: left :: rest => some (.binary symbol left right :: rest)
      | _ => none

/-- The expression that a list of steps describes. -/
def ofSteps? (steps : List Step) : Option Expression :=
  match steps.foldlM build? [] with
  | some [expression] => some expression
  | _ => none

theorem foldlM_build?_steps (expression : Expression)
    (stack : List Expression) :
    expression.steps.foldlM build? stack = some (expression :: stack) := by
  induction expression generalizing stack with
  | literal text => rfl
  | unary symbol operand inductionHypothesis =>
      simp [steps, List.foldlM_append, inductionHypothesis, build?]
  | binary symbol left right leftHypothesis rightHypothesis =>
      simp [steps, List.foldlM_append, leftHypothesis, rightHypothesis, build?]

/-- Building an expression from its steps gives the expression back. -/
theorem ofSteps?_steps (expression : Expression) :
    ofSteps? expression.steps = some expression := by
  simp [ofSteps?, foldlM_build?_steps]

end Expression

end Reckoner
