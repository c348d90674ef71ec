import Reckoner.Calculator.Session
import Reckoner.Proofs.FirstFault
import Reckoner.Proofs.Quoting

/-!
# What the log tells

A calculator is built from a table, a configuration or a document, and then
answers requests.  Building leaves one record if a symbol is rejected, although
the way through a document checks the symbols twice, and none otherwise.  After
that every evaluation of a text leaves its records, and no other request leaves
any (`Calculator.Source.log_tells_session`).  The texts of the records are
spelled out here; symbols and inputs stand in them quoted, so that they can be
read back.
-/

namespace Reckoner

namespace Configured

variable {α β : Type} {first : Configured α} {next : α → Configured β}
  {value : α} {error : ConfigError} {records : List Record}

theorem run_bind_of_silent (silent : first.run = ⟨.ok value, []⟩) :
    (first >>= next).run = (next value).run := by
  rw [ExceptT.run_bind, silent]
  rfl

theorem run_bind_of_error (failed : first.run = ⟨.error error, records⟩) :
    (first >>= next).run = ⟨.error error, records⟩ := by
  rw [ExceptT.run_bind, failed]
  exact congrArg (Logged.mk _) (List.append_nil records)

end Configured

/-- The record about a fault, which names the symbol at fault. -/
def ConfigFault.record (fault : ConfigFault) (symbol : String) : Record :=
  ⟨.warn, "rejecting operator " ++ Text.quoted symbol ++ ": " ++
    match fault with
    | .emptySymbol => "Operator symbol must not be empty"
    | .reservedCharacter _ ch => "Operator symbol '" ++ symbol ++
        "' contains reserved character " ++ Text.quotedChar ch
    | .duplicateSymbol _ => "duplicate symbol"⟩

theorem ConfigFault.report_eq (fault : ConfigFault) :
    fault.report = ⟨(), [fault.record fault.symbol]⟩ := by
  cases fault with
  | emptySymbol | reservedCharacter | duplicateSymbol => rfl

namespace Config

variable {config : Config} {fault : ConfigFault} {format : DocumentFormat}
  {document cause : String}

theorem run_validate_of_clear (clear : config.fault? = none) :
    config.validate.run = ⟨.ok (), []⟩ := by
  rw [validate, clear]
  rfl

theorem run_validate_of_fault (found : config.fault? = some fault) :
    config.validate.run =
      ⟨.error (.invalid fault), [fault.record fault.symbol]⟩ := by
  rw [validate, found]
  simp only [fault.report_eq]
  rfl

theorem run_toTable_of_clear (clear : config.fault? = none) :
    config.toTable.run =
      ⟨.ok (Table.empty.insertAll (config.operators.map Definition.entry)),
        []⟩ := by
  rw [toTable, registerAll,
    Configured.run_bind_of_silent (run_validate_of_clear clear)]
  rfl

theorem run_toTable_of_fault (found : config.fault? = some fault) :
    config.toTable.run =
      ⟨.error (.invalid fault), [fault.record fault.symbol]⟩ :=
  Configured.run_bind_of_error (run_validate_of_fault found)

theorem run_ofDocument_of_malformed
    (unread : format.read document = .error cause) :
    (ofDocument format document).run = ⟨.error (.malformed cause), []⟩ := by
  rw [ofDocument, unread]
  rfl

theorem run_ofDocument_of_clear (read : format.read document = .ok config)
    (clear : config.fault? = none) :
    (ofDocument format document).run = ⟨.ok config, []⟩ := by
  rw [ofDocument, read]
  exact Configured.run_bind_of_silent (run_validate_of_clear clear)

theorem run_ofDocument_of_fault (read : format.read document = .ok config)
    (found : config.fault? = some fault) :
    (ofDocument format document).run =
      ⟨.error (.invalid fault), [fault.record fault.symbol]⟩ := by
  rw [ofDocument, read]
  exact Configured.run_bind_of_error (run_validate_of_fault found)

end Config

namespace Calculator

variable {α : Type} [Number α]

/-- What a calculator is built from. -/
inductive Source where
  | table (table : Table)
  | config (config : Config)
  | document (format : DocumentFormat) (text : String)

namespace Source

/-- The calculator of a source. -/
def build : Source → Configured Calculator
  | .table operators => return ofTable operators
  | .config settings => ofConfig settings
  | .document format text => ofDocument format text

/-- The configuration of a source, which a document need not have. -/
inductive Gives : Source → Config → Prop where
  | config {settings : Config} : Gives (.config settings) settings
  | document {format : DocumentFormat} {text : String} {settings : Config} :
      format.read text = .ok settings → Gives (.document format text) settings

/-- Builds a calculator and puts the requests to it. -/
def session (source : Source) (requests : List Request) :
    Configured (List (Answer α)) := do
  let calculator ← source.build
  liftM (calculator.session requests)

end Source

theorem run_ofConfig_of_clear {config : Config}
    (clear : config.fault? = none) :
    ∃ calculator, (ofConfig config).run = ⟨.ok calculator, []⟩ := by
  rw [ofConfig,
    Configured.run_bind_of_silent (Config.run_toTable_of_clear clear)]
  exact ⟨_, rfl⟩

/-- A calculator is built without a record, or not built: without a record if
a document cannot be read, and otherwise with one record about the fault of the
configuration. -/
theorem Source.run_build (source : Source) :
    (∃ calculator, source.build.run = ⟨.ok calculator, []⟩) ∨
      (∃ format text cause, source = .document format text ∧
        format.read text = .error cause ∧
        source.build.run = ⟨.error (.malformed cause), []⟩) ∨
      ∃ config fault, source.Gives config ∧ config.fault? = some fault ∧
        source.build.run =
          ⟨.error (.invalid fault), [fault.record fault.symbol]⟩ := by
  cases source with
  | table table => exact .inl ⟨ofTable table, rfl⟩
  | config config =>
      cases found : config.fault? with
      | none => exact .inl (run_ofConfig_of_clear found)
      | some fault =>
          exact .inr (.inr ⟨config, fault, .config, found,
            Configured.run_bind_of_error
              (Config.run_toTable_of_fault found)⟩)
  | document format text =>
      rw [build, ofDocument_eq_bind]
      cases read : format.read text with
      | error cause =>
          exact .inr (.inl ⟨format, text, cause, rfl, read,
            Configured.run_bind_of_error
              (Config.run_ofDocument_of_malformed read)⟩)
      | ok config =>
          cases found : config.fault? with
          | none =>
              rw [Configured.run_bind_of_silent
                (Config.run_ofDocument_of_clear read found)]
              exact .inl (run_ofConfig_of_clear found)
          | some fault =>
              exact .inr (.inr ⟨config, fault, .document read, found,
                Configured.run_bind_of_error
                  (Config.run_ofDocument_of_fault read found)⟩)

/-- The answers to requests and the records about them.  An evaluation is
recorded with its text, then with the expression if there is one, then with the
answer or the error.  Other requests are not recorded, and a new limit is in force for the
requests behind it. -/
inductive Tells : Calculator → List Request → List (Answer α) → List Record →
    Prop where
  | nothing {calculator : Calculator} : Tells calculator [] [] []
  | unparsed {calculator : Calculator} {text : String} {error : ParseError}
      {requests : List Request} {answers : List (Answer α)}
      {records : List Record} :
      calculator.parse text = .error error →
      Tells calculator requests answers records →
      Tells calculator (.evaluate text :: requests)
        (.evaluated (.error (.parse error)) :: answers)
        (⟨.debug, "evaluate<" ++ Number.name α ++ ">: " ++
            Text.quoted text⟩ ::
          ⟨.debug, "evaluate<" ++ Number.name α ++ ">: " ++
            Text.quoted text ++ " failed: " ++ error.message⟩ ::
          records)
  | unevaluated {calculator : Calculator} {text : String}
      {expression : Expression} {error : EvalError} {requests : List Request}
      {answers : List (Answer α)} {records : List Record} :
      calculator.parse text = .ok expression →
      (calculator.evaluateExpression expression : Except EvalError α) =
        .error error →
      Tells calculator requests answers records →
      Tells calculator (.evaluate text :: requests)
        (.evaluated (.error (.eval error)) :: answers)
        (⟨.debug, "evaluate<" ++ Number.name α ++ ">: " ++
            Text.quoted text⟩ ::
          ⟨.trace, "parsed " ++ Text.quoted text ++ " as " ++
            expression.render⟩ ::
          ⟨.debug, "evaluate<" ++ Number.name α ++ ">: " ++
            Text.quoted text ++ " failed: " ++ error.message⟩ ::
          records)
  | evaluated {calculator : Calculator} {text : String}
      {expression : Expression} {value : α} {requests : List Request}
      {answers : List (Answer α)} {records : List Record} :
      calculator.parse text = .ok expression →
      calculator.evaluateExpression expression = .ok value →
      Tells calculator requests answers records →
      Tells calculator (.evaluate text :: requests)
        (.evaluated (.ok value) :: answers)
        (⟨.debug, "evaluate<" ++ Number.name α ++ ">: " ++
            Text.quoted text⟩ ::
          ⟨.trace, "parsed " ++ Text.quoted text ++ " as " ++
            expression.render⟩ ::
          ⟨.debug, "evaluate<" ++ Number.name α ++ ">: " ++
            Text.quoted text ++ " = " ++ Number.text value⟩ ::
          records)
  | parse {calculator : Calculator} {text : String} {requests : List Request}
      {answers : List (Answer α)} {records : List Record} :
      Tells calculator requests answers records →
      Tells calculator (.parse text :: requests)
        (.parsed (calculator.parse text) :: answers) records
  | evaluateExpression {calculator : Calculator} {expression : Expression}
      {requests : List Request} {answers : List (Answer α)}
      {records : List Record} :
      Tells calculator requests answers records →
      Tells calculator (.evaluateExpression expression :: requests)
        (.reduced (calculator.evaluateExpression expression) :: answers)
        records
  | withMaxDepth {calculator : Calculator} {limit : UInt64}
      {requests : List Request} {answers : List (Answer α)}
      {records : List Record} :
      Tells (calculator.withMaxDepth limit) requests answers records →
      Tells calculator (.withMaxDepth limit :: requests)
        (.limit limit :: answers) records
  | maxDepth {calculator : Calculator} {requests : List Request}
      {answers : List (Answer α)} {records : List Record} :
      Tells calculator requests answers records →
      Tells calculator (.maxDepth :: requests)
        (.limit calculator.maxDepth :: answers) records
  | symbols {calculator : Calculator} {requests : List Request}
      {answers : List (Answer α)} {records : List Record} :
      Tells calculator requests answers records →
      Tells calculator (.symbols :: requests)
        (.symbols calculator.table.symbols :: answers) records

variable {calculator : Calculator} {text : String}
  {expression : Expression}

/-- What the records about an evaluation start with determines its text. -/
theorem subject_injective : Function.Injective (subject α) := by
  intro text other same
  have sameEnd := congrArg String.toList same
  simp only [subject, String.toList_append] at sameEnd
  exact Text.quoted_injective
    (String.toList_inj.mp (List.append_cancel_left sameEnd))

theorem evaluate_of_parse_error {error : ParseError}
    (parsed : calculator.parse text = .error error) :
    (calculator.evaluate text : Logged (Except CalcError α)) =
      ⟨.error (.parse error), [⟨.debug, subject α text⟩,
        ⟨.debug, subject α text ++ " failed: " ++ error.message⟩]⟩ := by
  rw [evaluate, parseLogged, parsed]
  rfl

/-- The record about the outcome of an evaluation. -/
def outcomeRecord (text : String) : Except CalcError α → Record
  | .ok value => ⟨.debug, subject α text ++ " = " ++ Number.text value⟩
  | .error error =>
      ⟨.debug, subject α text ++ " failed: " ++ error.message⟩

theorem evaluate_of_parse_ok
    (parsed : calculator.parse text = .ok expression) :
    let result : Except CalcError α :=
      (calculator.evaluateExpression expression).mapError .eval
    calculator.evaluate text = ⟨result, [⟨.debug, subject α text⟩,
      ⟨.trace, "parsed " ++ Text.quoted text ++ " as " ++ expression.render⟩,
      outcomeRecord text result]⟩ := by
  intro result
  have ran : calculator.evaluate text = do
      .emit .debug (subject α text)
      .emit .trace
        ("parsed " ++ Text.quoted text ++ " as " ++ expression.render)
      match result with
      | .ok value =>
          .emit .debug (subject α text ++ " = " ++ Number.text value)
      | .error error =>
          .emit .debug (subject α text ++ " failed: " ++ error.message)
      return result := by
    rw [evaluate, parseLogged, parsed]
    rfl
  rw [ran]
  cases result <;> rfl

theorem session_cons (calculator : Calculator) (request : Request)
    (requests : List Request) :
    (calculator.session (request :: requests) : Logged (List (Answer α))) =
      let first : Logged (Answer α × Calculator) := calculator.answer request
      let later := first.value.2.session requests
      ⟨first.value.1 :: later.value, first.records ++ later.records⟩ := by
  rw [session]
  exact congrArg (Logged.mk _) (congrArg _ (List.append_nil _))

theorem answer_evaluate {result : Except CalcError α} {records : List Record}
    (ran : calculator.evaluate text = ⟨result, records⟩) :
    calculator.answer (.evaluate text) =
      ⟨(.evaluated result, calculator), records⟩ := by
  rw [answer, ran]
  exact congrArg (Logged.mk _) (List.append_nil records)

/-- A session is told request by request. -/
theorem tells_session (calculator : Calculator) (requests : List Request) :
    Tells calculator requests
      (calculator.session requests : Logged (List (Answer α))).value
      (calculator.session requests : Logged (List (Answer α))).records := by
  induction requests generalizing calculator with
  | nil => exact .nothing
  | cons request requests later =>
      rw [session_cons]
      cases request with
      | evaluate text =>
          have rest := later calculator
          cases parsed : calculator.parse text with
          | error error =>
              rw [answer_evaluate (evaluate_of_parse_error parsed)]
              exact .unparsed parsed rest
          | ok expression =>
              rw [answer_evaluate (evaluate_of_parse_ok parsed)]
              cases reduced : (calculator.evaluateExpression expression :
                  Except EvalError α) with
              | error error => exact .unevaluated parsed reduced rest
              | ok value => exact .evaluated parsed reduced rest
      | parse text => exact .parse (later calculator)
      | evaluateExpression expression =>
          exact .evaluateExpression (later calculator)
      | withMaxDepth limit =>
          exact .withMaxDepth (later (calculator.withMaxDepth limit))
      | maxDepth => exact .maxDepth (later calculator)
      | symbols => exact .symbols (later calculator)

/-- The log of building a calculator and of any session with it.  If there is a
calculator, the records are those of the requests and nothing else.  If a
document cannot be read there is no record.  If a symbol is at fault there is
one, which names the symbol of the first definition at fault.  Texts and symbols
can be read back from the form in which they are recorded. -/
theorem Source.log_tells_session (source : Source) (requests : List Request) :
    (∀ text, Text.unquoted? (Text.quoted text) = some text) ∧
    let ran : Logged (Except ConfigError (List (Answer α))) :=
      (source.session requests).run
    match source.build.run.value with
    | .ok calculator => ∃ answers, ran.value = .ok answers ∧
        Tells calculator requests answers ran.records
    | .error (.malformed cause) => ∃ format text,
        source = .document format text ∧ format.read text = .error cause ∧
          ran = ⟨.error (.malformed cause), []⟩
    | .error (.invalid fault) => ∃ config index definition,
        source.Gives config ∧ config.FirstAtFault index ∧
          config.operators[index]? = some definition ∧
          fault.Concerns definition.symbol ∧
          ran = ⟨.error (.invalid fault), [fault.record definition.symbol]⟩ := by
  refine ⟨Text.unquoted?_quoted, ?_⟩
  intro ran
  rcases source.run_build with ⟨calculator, built⟩ |
    ⟨format, text, cause, given, unread, failed⟩ |
    ⟨config, fault, given, found, rejected⟩
  · have ran_eq : ran = (liftM (calculator.session requests) :
        Configured (List (Answer α))).run :=
      Configured.run_bind_of_silent built
    rw [built, ran_eq]
    refine ⟨(calculator.session requests).value, rfl, ?_⟩
    have records_eq : (liftM (calculator.session requests) :
        Configured (List (Answer α))).run.records =
          (calculator.session requests : Logged (List (Answer α))).records :=
      List.append_nil _
    rw [records_eq]
    exact tells_session calculator requests
  · rw [failed]
    exact ⟨format, text, given, unread, Configured.run_bind_of_error failed⟩
  · obtain ⟨index, definition, first, stands, concerns, _⟩ :=
      Config.exists_firstAtFault found
    rw [rejected]
    refine ⟨config, index, definition, given, first, stands, concerns, ?_⟩
    rw [← concerns.symbol_eq]
    exact Configured.run_bind_of_error rejected

/-- The limit on nesting is lowered between two evaluations. -/
theorem Source.log_tells_session_of_lowered_limit :
    let source := Source.config Config.standard
    let requests : List Request :=
      [.evaluate "7/2", .withMaxDepth 1, .parse "7", .evaluate "7"]
    let ran : Logged (Except ConfigError (List (Answer Int32))) :=
      (source.session requests).run
    ran.records =
        [⟨.debug, "evaluate<i32>: \"7/2\""⟩,
         ⟨.trace, "parsed \"7/2\" as (7 / 2)"⟩,
         ⟨.debug, "evaluate<i32>: \"7/2\" = 3"⟩,
         ⟨.debug, "evaluate<i32>: \"7\""⟩,
         ⟨.debug, "evaluate<i32>: \"7\" failed: " ++
            "Expression is nested deeper than 1 levels"⟩] ∧
      ∃ answers, ran.value = .ok answers ∧
        Tells standard requests answers ran.records := by
  intro source requests ran
  have built : source.build.run.value = .ok standard := rfl
  have told := (source.log_tells_session (α := Int32) requests).2
  rw [built] at told
  exact ⟨by decide +kernel, told⟩

example :
    let format : DocumentFormat :=
      ⟨fun _ => .error "read only", fun symbol => .ok ⟨7,
        ⟨symbol, 30, .right, .power⟩ :: Config.standard.operators⟩⟩
    (ofDocument format "*").run.records =
      [⟨.warn, "rejecting operator \"*\": duplicate symbol"⟩] := by
  decide +kernel

end Calculator

end Reckoner
