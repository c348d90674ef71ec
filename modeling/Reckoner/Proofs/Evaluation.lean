import Reckoner.Calculator
import Reckoner.Proofs.Numerals
import Reckoner.Proofs.RoundTrip

/-!
# Which expressions have a value

What parsing returns is well-formed over its table, so that the evaluation can
only fail at a number with more than one dot, at a symbol other than `+` and `-`
in front of an operand, or at an operation that is undefined for its operands
(`WellFormed.blames_of_evaluate_eq_error`).  The named operations of a
configuration are defined for all operands.
-/

namespace Reckoner

namespace Table

/-- The operations of the table are defined for all operands. -/
def Total (table : Table) : Prop :=
  ∀ symbol operator, table.get? symbol = some operator →
    ∀ left right, operator.apply left right ≠ none

variable {table : Table}

theorem total_empty : empty.Total := by
  intro symbol operator registered
  cases registered

theorem Total.insert (total : table.Total) {operator : Operator}
    (defined : ∀ left right, operator.apply left right ≠ none)
    (symbol : String) : (table.insert symbol operator).Total := by
  intro other found registered
  rw [get?_insert] at registered
  split at registered
  · cases registered
    exact defined
  · exact total other found registered

theorem Total.insertAll (total : table.Total) {entries : List Entry}
    (defined : ∀ entry ∈ entries, ∀ left right,
      entry.operator.apply left right ≠ none) :
    (table.insertAll entries).Total := by
  induction entries generalizing table with
  | nil => exact total
  | cons entry entries inductionHypothesis =>
      have first := defined entry List.mem_cons_self
      exact inductionHypothesis (total.insert first entry.symbol)
        fun other member => defined other (List.mem_cons_of_mem _ member)

end Table

namespace Expression

/-- The literals of an expression from left to right. -/
def literals : Expression → List String
  | .literal text => [text]
  | .unary _ operand => operand.literals
  | .binary _ left right => left.literals ++ right.literals

/-- The symbols in front of operands from left to right. -/
def unarySymbols : Expression → List String
  | .literal _ => []
  | .unary symbol operand => symbol :: operand.unarySymbols
  | .binary _ left right => left.unarySymbols ++ right.unarySymbols

/-- Every literal denotes a value, and every symbol in front of an operand has a
meaning there. -/
def Evaluable (expression : Expression) : Prop :=
  (∀ literal ∈ expression.literals, literal.toList.count '.' ≤ 1) ∧
    ∀ symbol ∈ expression.unarySymbols, symbol = "+" ∨ symbol = "-"

instance (expression : Expression) : Decidable expression.Evaluable :=
  inferInstanceAs (Decidable
    ((∀ literal ∈ expression.literals, literal.toList.count '.' ≤ 1) ∧
      ∀ symbol ∈ expression.unarySymbols, symbol = "+" ∨ symbol = "-"))

/-- An error names a part of the expression that has no value, or an operation
of the table that is undefined. -/
def Blames (table : Table) (expression : Expression) : EvalError → Prop
  | .invalidLiteral text =>
      text ∈ expression.literals ∧ 2 ≤ text.toList.count '.'
  | .unknownEffect symbol .unary =>
      symbol ∈ expression.unarySymbols ∧ symbol ≠ "+" ∧ symbol ≠ "-"
  | .unknownEffect _ .binary => False
  | .operatorFailed symbol left right =>
      ∃ operator, table.get? symbol = some operator ∧
        operator.apply left right = none
  | .notRepresentable _ _ => False

variable {table : Table} {expression inner : Expression} {symbol text : String}
  {error : EvalError} {value left right : Float}

theorem Blames.mono (blames : inner.Blames table error)
    (literals : inner.literals ⊆ expression.literals)
    (symbols : inner.unarySymbols ⊆ expression.unarySymbols) :
    expression.Blames table error := by
  match error with
  | .invalidLiteral _ => exact ⟨literals blames.1, blames.2⟩
  | .unknownEffect _ .unary => exact ⟨symbols blames.1, blames.2⟩
  | .operatorFailed _ _ _ => exact blames
  | .unknownEffect _ .binary | .notRepresentable _ _ => exact blames.elim

theorem exists_evaluateLiteral_iff (number : Token.IsNumber text) :
    (∃ value, evaluateLiteral text = .ok value) ↔
      text.toList.count '.' ≤ 1 := by
  rw [← Decimal.read?_isSome_iff number]
  cases read : Decimal.read? text <;> simp [evaluateLiteral, read]

theorem evaluateLiteral_eq_error (failure : evaluateLiteral text = .error error) :
    error = .invalidLiteral text := by
  unfold evaluateLiteral at failure
  split at failure
  · cases failure
  · cases failure
    rfl

theorem applyUnary_eq_ok {result : Float}
    (success : applyUnary symbol value = .ok result) :
    symbol = "+" ∨ symbol = "-" := by
  unfold applyUnary at success
  split at success
  · rename_i plus
    exact .inl plus
  · split at success
    · rename_i minus
      exact .inr minus
    · cases success

theorem applyUnary_eq_error (failure : applyUnary symbol value = .error error) :
    error = .unknownEffect symbol .unary ∧ symbol ≠ "+" ∧ symbol ≠ "-" := by
  unfold applyUnary at failure
  split at failure
  · cases failure
  · rename_i notPlus
    split at failure
    · cases failure
    · rename_i notMinus
      cases failure
      exact ⟨rfl, notPlus, notMinus⟩

theorem applyBinary_eq_error {operator : Operator}
    (registered : table.get? symbol = some operator)
    (failure : applyBinary table symbol left right = .error error) :
    error = .operatorFailed symbol left right ∧
      operator.apply left right = none := by
  simp only [applyBinary, registered] at failure
  split at failure
  · cases failure
  · rename_i undefined
    cases failure
    exact ⟨rfl, undefined⟩

theorem cases_of_bind_eq_error {α β : Type} {first : Except EvalError α}
    {next : α → Except EvalError β} (failure : first >>= next = .error error) :
    first = .error error ∨
      ∃ value, first = .ok value ∧ next value = .error error := by
  cases first with
  | error other =>
      cases failure
      exact .inl rfl
  | ok value => exact .inr ⟨value, rfl, failure⟩

theorem exists_of_bind_eq_ok {α β : Type} {first : Except EvalError α}
    {next : α → Except EvalError β} {result : β}
    (success : first >>= next = .ok result) :
    ∃ value, first = .ok value ∧ next value = .ok result := by
  cases first with
  | error other => cases success
  | ok value => exact ⟨value, rfl, success⟩

/-- A well-formed expression without a value is at fault itself, or an operation
of the table is undefined. -/
theorem WellFormed.blames_of_evaluate_eq_error
    (wellFormed : expression.WellFormed table)
    (failure : expression.evaluate table = .error error) :
    expression.Blames table error := by
  induction expression with
  | literal text =>
      have failure : evaluateLiteral text = .error error := failure
      rw [evaluateLiteral_eq_error failure]
      refine ⟨List.mem_singleton_self text, Nat.lt_of_not_le ?_⟩
      intro few
      obtain ⟨value, success⟩ := (exists_evaluateLiteral_iff wellFormed).mpr few
      cases success.symm.trans failure
  | unary symbol operand operandBlames =>
      rcases cases_of_bind_eq_error failure with
        operandFails | ⟨value, _, failure⟩
      · exact (operandBlames wellFormed.2 operandFails).mono
          (List.Subset.refl _) (List.subset_cons_self _ _)
      · obtain ⟨rfl, meaningless⟩ := applyUnary_eq_error failure
        exact ⟨List.mem_cons_self, meaningless⟩
  | binary symbol left right leftBlames rightBlames =>
      obtain ⟨⟨operator, registered, _⟩, leftFormed, rightFormed⟩ := wellFormed
      rcases cases_of_bind_eq_error failure with
        leftFails | ⟨leftValue, _, failure⟩
      · exact (leftBlames leftFormed leftFails).mono
          (List.subset_append_left _ _) (List.subset_append_left _ _)
      · rcases cases_of_bind_eq_error failure with
          rightFails | ⟨rightValue, _, failure⟩
        · exact (rightBlames rightFormed rightFails).mono
            (List.subset_append_right _ _) (List.subset_append_right _ _)
        · obtain ⟨rfl, undefined⟩ := applyBinary_eq_error registered failure
          exact ⟨operator, registered, undefined⟩

theorem WellFormed.evaluable_of_evaluate_eq_ok
    (wellFormed : expression.WellFormed table)
    (success : expression.evaluate table = .ok value) :
    expression.Evaluable := by
  induction expression generalizing value with
  | literal text =>
      have few := (exists_evaluateLiteral_iff wellFormed).mp ⟨value, success⟩
      exact ⟨List.forall_mem_singleton.mpr few, List.forall_mem_nil _⟩
  | unary symbol operand operandEvaluable =>
      obtain ⟨_, operandSucceeds, success⟩ := exists_of_bind_eq_ok success
      obtain ⟨literals, symbols⟩ :=
        operandEvaluable wellFormed.2 operandSucceeds
      exact ⟨literals,
        List.forall_mem_cons.mpr ⟨applyUnary_eq_ok success, symbols⟩⟩
  | binary symbol left right leftEvaluable rightEvaluable =>
      obtain ⟨_, leftFormed, rightFormed⟩ := wellFormed
      obtain ⟨_, leftSucceeds, success⟩ := exists_of_bind_eq_ok success
      obtain ⟨_, rightSucceeds, _⟩ := exists_of_bind_eq_ok success
      obtain ⟨leftLiterals, leftSymbols⟩ :=
        leftEvaluable leftFormed leftSucceeds
      obtain ⟨rightLiterals, rightSymbols⟩ :=
        rightEvaluable rightFormed rightSucceeds
      exact ⟨List.forall_mem_append.mpr ⟨leftLiterals, rightLiterals⟩,
        List.forall_mem_append.mpr ⟨leftSymbols, rightSymbols⟩⟩

/-- Where all operations are defined, a literal or a symbol in front of an
operand is to blame. -/
theorem Blames.eq_of_total (blames : expression.Blames table error)
    (total : table.Total) :
    (∃ literal ∈ expression.literals, 2 ≤ literal.toList.count '.' ∧
        error = .invalidLiteral literal) ∨
      ∃ symbol ∈ expression.unarySymbols, (symbol ≠ "+" ∧ symbol ≠ "-") ∧
        error = .unknownEffect symbol .unary := by
  match error with
  | .invalidLiteral text => exact .inl ⟨text, blames.1, blames.2, rfl⟩
  | .unknownEffect symbol .unary =>
      exact .inr ⟨symbol, blames.1, blames.2, rfl⟩
  | .operatorFailed symbol left right =>
      obtain ⟨operator, registered, undefined⟩ := blames
      exact absurd undefined (total symbol operator registered left right)
  | .unknownEffect _ .binary | .notRepresentable _ _ => exact blames.elim

theorem Evaluable.not_blames (evaluable : expression.Evaluable)
    (total : table.Total) : ¬ expression.Blames table error := by
  intro blames
  rcases blames.eq_of_total total with
    ⟨literal, member, dots, _⟩ | ⟨symbol, member, unsigned, _⟩
  · have few := evaluable.1 literal member
    omega
  · rcases evaluable.2 symbol member with plus | minus
    · exact unsigned.1 plus
    · exact unsigned.2 minus

theorem WellFormed.exists_evaluate_iff (wellFormed : expression.WellFormed table)
    (total : table.Total) :
    (∃ value, expression.evaluate table = .ok value) ↔
      expression.Evaluable := by
  constructor
  · rintro ⟨value, success⟩
    exact wellFormed.evaluable_of_evaluate_eq_ok success
  · intro evaluable
    cases result : expression.evaluate table with
    | ok value => exact ⟨value, rfl⟩
    | error error =>
        have blames := wellFormed.blames_of_evaluate_eq_error result
        exact absurd blames (evaluable.not_blames total)

end Expression

namespace Configured

theorem exists_of_bind_eq_ok {α β : Type} {first : Configured α}
    {next : α → Configured β} {result : β}
    (success : (first >>= next).run.value = .ok result) :
    ∃ middle, first.run.value = .ok middle ∧
      (next middle).run.value = .ok result := by
  rw [ExceptT.run_bind, Logged.value_bind] at success
  cases value : first.run.value with
  | error error =>
      rw [value] at success
      cases success
  | ok middle =>
      rw [value] at success
      exact ⟨middle, rfl, success⟩

end Configured

namespace Config

theorem toTable_eq_ok {config : Config} {table : Table}
    (success : config.toTable.run.value = .ok table) :
    table = Table.empty.insertAll (config.operators.map Definition.entry) := by
  obtain ⟨_, _, rest⟩ := Configured.exists_of_bind_eq_ok success
  cases rest
  rfl

/-- The table of a configuration has named operations only, which are defined
for all operands. -/
theorem total_of_toTable_eq_ok {config : Config} {table : Table}
    (success : config.toTable.run.value = .ok table) : table.Total := by
  rw [toTable_eq_ok success]
  apply Table.total_empty.insertAll
  intro entry member left right
  obtain ⟨definition, _, rfl⟩ := List.mem_map.mp member
  exact Option.some_ne_none _

end Config

namespace Calculator

/-- The calculator comes from a configuration or its document. -/
def IsConfigured (calculator : Calculator) : Prop :=
  (∃ config, (ofConfig config).run.value = .ok calculator) ∨
    ∃ format document,
      (ofDocument format document).run.value = .ok calculator

theorem total_of_ofConfig_eq_ok {config : Config} {calculator : Calculator}
    (success : (ofConfig config).run.value = .ok calculator) :
    calculator.table.Total := by
  obtain ⟨table, tableSuccess, rest⟩ := Configured.exists_of_bind_eq_ok success
  cases rest
  exact Config.total_of_toTable_eq_ok tableSuccess

theorem IsConfigured.total {calculator : Calculator}
    (configured : calculator.IsConfigured) : calculator.table.Total := by
  rcases configured with ⟨config, success⟩ | ⟨format, document, success⟩
  · exact total_of_ofConfig_eq_ok success
  · rw [ofDocument_eq_bind] at success
    obtain ⟨config, _, rest⟩ := Configured.exists_of_bind_eq_ok success
    exact total_of_ofConfig_eq_ok rest

/-- What an evaluation gives back, whatever it records. -/
theorem value_evaluate {α : Type} [Number α] (calculator : Calculator)
    (text : String) :
    (calculator.evaluate text : Logged (Except CalcError α)).value =
      match calculator.parse text with
      | .ok expression =>
          (calculator.evaluateExpression expression).mapError .eval
      | .error error => .error (.parse error) := by
  cases parsed : calculator.parse text with
  | error error =>
      simp only [evaluate, parseLogged, parsed, Logged.value_bind,
        Logged.value_pure]
  | ok expression =>
      simp only [evaluate, parseLogged, parsed, Logged.value_bind,
        Logged.value_pure]
      split <;> rfl

/-- Numbers of 64 bits are given back as they are. -/
theorem evaluateExpression_float (calculator : Calculator)
    (expression : Expression) :
    (calculator.evaluateExpression expression : Except EvalError Float) =
      expression.evaluate calculator.table := by
  unfold evaluateExpression
  cases expression.evaluate calculator.table <;> rfl

/-- Evaluation never meets an infix symbol without a meaning in an expression
that was parsed with the same table.  With the operations of a configuration, a
text that can be parsed has a value exactly if each of its literals has at most
one dot and each symbol in front of an operand is `+` or `-`; otherwise the
error names a literal or a symbol for which this fails. -/
theorem evaluate_of_parse_eq_ok :
    (∀ table limit text expression,
      Expression.parse table limit text = .ok expression →
      ∀ symbol, expression.evaluate table ≠
        .error (.unknownEffect symbol .binary)) ∧
    (∀ calculator : Calculator, calculator.IsConfigured →
      ∀ text expression, calculator.parse text = .ok expression →
      ((∃ value : Float, (calculator.evaluate text).value = .ok value) ↔
        expression.Evaluable) ∧
      ∀ error, (calculator.evaluate text :
          Logged (Except CalcError Float)).value = .error error →
        (∃ literal ∈ expression.literals, 2 ≤ literal.toList.count '.' ∧
          error = .eval (.invalidLiteral literal)) ∨
        ∃ symbol ∈ expression.unarySymbols, symbol ≠ "+" ∧ symbol ≠ "-" ∧
          error = .eval (.unknownEffect symbol .unary)) := by
  constructor
  · intro table limit text expression success symbol failure
    have wellFormed := Expression.wellFormed_of_parse_eq_ok success
    exact wellFormed.blames_of_evaluate_eq_error failure
  · intro calculator configured text expression success
    have total := configured.total
    have wellFormed : expression.WellFormed calculator.table :=
      Expression.wellFormed_of_parse_eq_ok success
    have result : (calculator.evaluate text).value =
        (expression.evaluate calculator.table).mapError .eval := by
      rw [value_evaluate, success, ← evaluateExpression_float]
    rw [result]
    constructor
    · rw [← wellFormed.exists_evaluate_iff total]
      cases expression.evaluate calculator.table with
      | ok value => exact ⟨fun _ => ⟨value, rfl⟩, fun _ => ⟨value, rfl⟩⟩
      | error fault => exact ⟨nofun, nofun⟩
    · intro error failure
      cases first : expression.evaluate calculator.table with
      | ok value =>
          rw [first] at failure
          cases failure
      | error fault =>
          rw [first] at failure
          cases failure
          have blames := wellFormed.blames_of_evaluate_eq_error first
          rcases blames.eq_of_total total with
            ⟨literal, member, dots, rfl⟩ | ⟨symbol, member, unsigned, rfl⟩
          · exact .inl ⟨literal, member, dots, rfl⟩
          · exact .inr ⟨symbol, member, unsigned.1, unsigned.2, rfl⟩

theorem isConfigured_standard : standard.IsConfigured := by
  have valid : Config.standard.fault? = none := by decide +kernel
  refine .inl ⟨Config.standard, ?_⟩
  simp only [ofConfig, Config.toTable, Config.registerAll, Config.validate,
    valid]
  rfl

theorem evaluate_of_second_dot :
    (∃ value : Float, (standard.evaluate "1.5*-4").value = .ok value) ∧
      (standard.evaluate "1.2.3*-4" : Logged (Except CalcError Float)).value =
        .error (.eval (.invalidLiteral "1.2.3")) := by
  let product (text : String) : Expression :=
    .binary "*" (.literal text) (.unary "-" (.literal "4"))
  have parsed : standard.parse "1.5*-4" = .ok (product "1.5") := by
    have read : Lexeme.ofText .standard "1.5*-4" =
        [⟨.number "1.5", 0⟩, ⟨.operator "*", 3⟩, ⟨.operator "-", 4⟩,
         ⟨.number "4", 5⟩, ⟨.endOfText, 6⟩] := by
      decide +kernel
    rw [parse, Expression.parse]
    exact (congrArg (Expression.ofLexemes _ _) read).trans rfl
  have parsedDots : standard.parse "1.2.3*-4" = .ok (product "1.2.3") := by
    have read : Lexeme.ofText .standard "1.2.3*-4" =
        [⟨.number "1.2.3", 0⟩, ⟨.operator "*", 5⟩, ⟨.operator "-", 6⟩,
         ⟨.number "4", 7⟩, ⟨.endOfText, 8⟩] := by
      decide +kernel
    rw [parse, Expression.parse]
    exact (congrArg (Expression.ofLexemes _ _) read).trans rfl
  constructor
  · apply (evaluate_of_parse_eq_ok.2 standard isConfigured_standard _ _
      parsed).1.mpr
    decide
  · obtain ⟨succeeds, blamed⟩ := evaluate_of_parse_eq_ok.2 standard
      isConfigured_standard _ _ parsedDots
    cases result : (standard.evaluate "1.2.3*-4" :
        Logged (Except CalcError Float)).value with
    | ok value => exact absurd (succeeds.mp ⟨value, result⟩) (by decide)
    | error error =>
        have literals : (product "1.2.3").literals = ["1.2.3", "4"] := rfl
        have symbols : (product "1.2.3").unarySymbols = ["-"] := rfl
        have blame := blamed error result
        rw [literals, symbols] at blame
        rcases blame with ⟨literal, member, dots, rfl⟩ |
          ⟨symbol, member, _, notMinus, _⟩
        · rcases List.mem_cons.mp member with rfl | tail
          · rfl
          · rw [List.mem_singleton.mp tail] at dots
            exact absurd dots (by decide)
        · exact absurd (List.mem_singleton.mp member) notMinus

end Calculator

end Reckoner
