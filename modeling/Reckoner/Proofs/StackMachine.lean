import Reckoner.Expression.Steps
import Reckoner.Proofs.Evaluation

/-!
# Evaluation on a stack

The steps of an expression can be run on a stack of numbers.  The run ends with the
value of the expression as the only one on the stack, or stops with the error of the
expression at the first step that fails (`Machine.run_steps_iff_evaluate`).

A step finds its operands on top of whatever the steps in front have left there, so
that what the steps of a part do is stated over any stack
(`Machine.run_steps`).
-/

namespace Reckoner

namespace Expression

/-- The parts of an expression, operands first and from left to right. -/
def nodes : Expression → List Expression
  | .literal text => [.literal text]
  | .unary symbol operand => operand.nodes ++ [.unary symbol operand]
  | .binary symbol left right =>
      left.nodes ++ right.nodes ++ [.binary symbol left right]

/-- The step at the root of an expression. -/
def root : Expression → Step
  | .literal text => .literal text
  | .unary symbol _ => .unary symbol
  | .binary symbol _ _ => .binary symbol

theorem map_root_nodes (expression : Expression) :
    expression.nodes.map root = expression.steps := by
  induction expression with
  | literal text => rfl
  | unary symbol operand operandHypothesis =>
      simp [nodes, steps, root, operandHypothesis]
  | binary symbol left right leftHypothesis rightHypothesis =>
      simp [nodes, steps, root, leftHypothesis, rightHypothesis]

end Expression

namespace Machine

/-- Why a run stops in front of its end. -/
inductive Halt where
  | fault (error : EvalError)
  /-- A value was to be taken from an empty stack. -/
  | underflow
  deriving DecidableEq

/-- Takes the last value from a stack. -/
def pop : List Float → Except Halt (Float × List Float)
  | value :: stack => .ok (value, stack)
  | [] => .error .underflow

/-- What a step does to a stack. -/
def execute (table : Table) (stack : List Float) :
    Step → Except Halt (List Float)
  | .literal text =>
      match Decimal.read? text with
      | some value => .ok (value :: stack)
      | none => .error (.fault (.invalidLiteral text))
  | .unary symbol => do
      let (value, stack) ← pop stack
      if symbol = "+" then .ok (value :: stack)
      else if symbol = "-" then .ok (-value :: stack)
      else .error (.fault (.unknownEffect symbol .unary))
  | .binary symbol => do
      let (right, stack) ← pop stack
      let (left, stack) ← pop stack
      match table.get? symbol with
      | none => .error (.fault (.unknownEffect symbol .binary))
      | some operator =>
          match operator.apply left right with
          | some value => .ok (value :: stack)
          | none => .error (.fault (.operatorFailed symbol left right))

/-- Executes steps one after the other until one of them stops the run. -/
def run (table : Table) (stack : List Float) (steps : List Step) :
    Except Halt (List Float) :=
  steps.foldlM (execute table) stack

/-- Puts a value on a stack, or stops with its error. -/
def push (stack : List Float) : Except EvalError Float →
    Except Halt (List Float)
  | .ok value => .ok (value :: stack)
  | .error error => .error (.fault error)

variable {table : Table} {expression : Expression}
  {nodes : List Expression} {stack : List Float} {error : EvalError}
  {value : Float}

theorem push_eq_ok_iff {result : Except EvalError Float} {after : List Float} :
    push stack result = .ok after ↔
      ∃ value, result = .ok value ∧ after = value :: stack := by
  cases result <;> simp [push, eq_comm]

theorem push_eq_error_iff {result : Except EvalError Float} {halt : Halt} :
    push stack result = .error halt ↔
      ∃ error, result = .error error ∧ halt = .fault error := by
  cases result <;> simp [push, eq_comm]

theorem execute_literal (table : Table) (stack : List Float)
    (text : String) :
    execute table stack (.literal text) =
      push stack (Expression.evaluateLiteral text) := by
  rw [execute, Expression.evaluateLiteral]
  cases Decimal.read? text <;> rfl

theorem execute_unary (table : Table) (stack : List Float) (symbol : String)
    (value : Float) :
    execute table (value :: stack) (.unary symbol) =
      push stack (Expression.applyUnary symbol value) := by
  simp only [execute, pop, Expression.applyUnary, bind, Except.bind]
  repeat' split
  all_goals rfl

theorem execute_binary (table : Table) (stack : List Float) (symbol : String)
    (left right : Float) :
    execute table (right :: left :: stack) (.binary symbol) =
      push stack (Expression.applyBinary table symbol left right) := by
  simp only [execute, pop, Expression.applyBinary, bind, Except.bind]
  cases table.get? symbol with
  | none => rfl
  | some operator =>
      cases result : operator.apply left right <;> simp only [result] <;> rfl

theorem run_cons (table : Table) (stack : List Float) (step : Step)
    (rest : List Step) :
    run table stack (step :: rest) =
      execute table stack step >>= fun after => run table after rest :=
  List.foldlM_cons

theorem run_append (table : Table) (stack : List Float)
    (steps rest : List Step) :
    run table stack (steps ++ rest) =
      run table stack steps >>= fun after => run table after rest :=
  List.foldlM_append

theorem run_singleton (table : Table) (stack : List Float) (step : Step) :
    run table stack [step] = execute table stack step := by
  rw [run_cons]
  cases execute table stack step <;> rfl

/-- The steps of an expression put its value on the stack, whatever stands there,
or stop with its error. -/
theorem run_steps (table : Table) (stack : List Float)
    (expression : Expression) :
    run table stack expression.steps =
      push stack (expression.evaluate table) := by
  induction expression generalizing stack with
  | literal text =>
      rw [Expression.steps, run_singleton, execute_literal]
      rfl
  | unary symbol operand operandRuns =>
      rw [Expression.steps, run_append, operandRuns, Expression.evaluate]
      cases operand.evaluate table with
      | error error => rfl
      | ok value => exact (run_singleton ..).trans (execute_unary ..)
  | binary symbol left right leftRuns rightRuns =>
      rw [Expression.steps, run_append, run_append, leftRuns,
        Expression.evaluate]
      cases left.evaluate table with
      | error error => rfl
      | ok leftValue =>
          change run table (leftValue :: stack) right.steps >>= _ = _
          rw [rightRuns]
          cases right.evaluate table with
          | error error => rfl
          | ok rightValue =>
              exact (run_singleton ..).trans (execute_binary ..)

/-- Of some parts of an expression, taken one after the other, the first one without
a value is where the run stops, with the error that this part has.  All parts in
front of it leave their values on the stack. -/
inductive FailsFirst (table : Table) :
    List Float → List Expression → EvalError → Prop where
  | here {stack : List Float} {node : Expression} {nodes : List Expression}
      {error : EvalError} :
      node.evaluate table = .error error →
      execute table stack node.root = .error (.fault error) →
      FailsFirst table stack (node :: nodes) error
  | later {stack below : List Float} {value : Float} {node : Expression}
      {nodes : List Expression} {error : EvalError} :
      node.evaluate table = .ok value →
      execute table stack node.root = .ok (value :: below) →
      FailsFirst table (value :: below) nodes error →
      FailsFirst table stack (node :: nodes) error

theorem FailsFirst.append (fails : FailsFirst table stack nodes error)
    (more : List Expression) :
    FailsFirst table stack (nodes ++ more) error := by
  induction fails with
  | here failure stops => exact .here failure stops
  | later success runs _ inductionHypothesis =>
      exact .later success runs inductionHypothesis

/-- The parts of an expression with a value can stand in front. -/
theorem FailsFirst.behind
    (fails : FailsFirst table (value :: stack) nodes error)
    (success : expression.evaluate table = .ok value) :
    FailsFirst table stack (expression.nodes ++ nodes) error := by
  induction expression generalizing stack nodes value with
  | literal text =>
      refine .later success ?_ fails
      have read : Expression.evaluateLiteral text = .ok value := success
      rw [Expression.root, execute_literal, read, push]
  | unary symbol operand operandHypothesis =>
      obtain ⟨_, operandSucceeds, applied⟩ :=
        Expression.exists_of_bind_eq_ok success
      rw [Expression.nodes, List.append_assoc]
      apply operandHypothesis _ operandSucceeds
      refine .later success ?_ fails
      rw [Expression.root, execute_unary, applied, push]
  | binary symbol left right leftHypothesis rightHypothesis =>
      obtain ⟨_, leftSucceeds, rest⟩ := Expression.exists_of_bind_eq_ok success
      obtain ⟨_, rightSucceeds, applied⟩ :=
        Expression.exists_of_bind_eq_ok rest
      rw [Expression.nodes, List.append_assoc, List.append_assoc]
      apply leftHypothesis _ leftSucceeds
      apply rightHypothesis _ rightSucceeds
      refine .later success ?_ fails
      rw [Expression.root, execute_binary, applied, push]

theorem failsFirst_nodes
    (failure : expression.evaluate table = .error error) :
    FailsFirst table stack expression.nodes error := by
  induction expression generalizing stack with
  | literal text =>
      refine .here failure ?_
      have unread : Expression.evaluateLiteral text = .error error := failure
      rw [Expression.root, execute_literal, unread, push]
  | unary symbol operand operandHypothesis =>
      rcases Expression.cases_of_bind_eq_error failure with
        operandFails | ⟨value, operandSucceeds, fails⟩
      · exact (operandHypothesis operandFails).append _
      · refine FailsFirst.behind (.here failure ?_) operandSucceeds
        rw [Expression.root, execute_unary, fails, push]
  | binary symbol left right leftHypothesis rightHypothesis =>
      rcases Expression.cases_of_bind_eq_error failure with
        leftFails | ⟨leftValue, leftSucceeds, rest⟩
      · exact ((leftHypothesis leftFails).append _).append _
      · rcases Expression.cases_of_bind_eq_error rest with
          rightFails | ⟨rightValue, rightSucceeds, fails⟩
        · exact ((rightHypothesis rightFails).behind leftSucceeds).append _
        · rw [Expression.nodes, List.append_assoc]
          refine FailsFirst.behind (FailsFirst.behind (.here failure ?_)
            rightSucceeds) leftSucceeds
          rw [Expression.root, execute_binary, fails, push]

theorem FailsFirst.run_eq (fails : FailsFirst table stack nodes error) :
    run table stack (nodes.map Expression.root) = .error (.fault error) := by
  induction fails with
  | here _ stops =>
      rw [List.map_cons, run_cons, stops]
      rfl
  | later _ runs _ inductionHypothesis =>
      rw [List.map_cons, run_cons, runs]
      exact inductionHypothesis

/-- The steps of any expression, with any table, run on an empty stack.  The run ends
exactly if the expression has a value, and then this value is all that is on the
stack.  It never takes a value from an empty stack, and stops with an error exactly
if the evaluation does: the error of the first part, operands first and from left to
right, that has no value. -/
theorem run_steps_iff_evaluate (table : Table) (expression : Expression) :
    (∀ value, run table [] expression.steps = .ok [value] ↔
      expression.evaluate table = .ok value) ∧
    (∀ stack, run table [] expression.steps = .ok stack →
      ∃ value, stack = [value]) ∧
    run table [] expression.steps ≠ .error .underflow ∧
    ∀ error,
      (run table [] expression.steps = .error (.fault error) ↔
        expression.evaluate table = .error error) ∧
      (expression.evaluate table = .error error ↔
        FailsFirst table [] expression.nodes error) := by
  have faults : ∀ error,
      run table [] expression.steps = .error (.fault error) ↔
        expression.evaluate table = .error error := by
    intro error
    rw [run_steps, push_eq_error_iff]
    simp
  refine ⟨?_, ?_, ?_, fun error => ⟨faults error, ?_, ?_⟩⟩
  · intro value
    rw [run_steps, push_eq_ok_iff]
    simp
  · intro stack ends
    rw [run_steps, push_eq_ok_iff] at ends
    obtain ⟨value, _, stack_eq⟩ := ends
    exact ⟨value, stack_eq⟩
  · intro underflow
    rw [run_steps, push_eq_error_iff] at underflow
    obtain ⟨error, _, impossible⟩ := underflow
    cases impossible
  · exact failsFirst_nodes
  · intro fails
    have stops := fails.run_eq
    rw [Expression.map_root_nodes] at stops
    exact (faults error).mp stops

example :
    run .standard [] (Expression.binary "?" (.unary "!" (.literal "1"))
      (.literal "1.2.3")).steps = .error (.fault (.unknownEffect "!" .unary)) := by
  rfl

end Machine

end Reckoner
