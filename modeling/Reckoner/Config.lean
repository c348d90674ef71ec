import Reckoner.Logged
import Reckoner.Operator.Registry
import Reckoner.Text.Quoted

/-!
# Configurations

A configuration describes a calculator as data: the limit on nesting and a list
of operators with named operations.  It is valid when every symbol can be read
where it stands in an expression, and no symbol is defined twice.  A fault is
recorded in the log when it is found.
-/

namespace Reckoner

/-- The definition of an operator in a configuration. -/
structure Definition where
  symbol : String
  precedence : Int32
  associativity : Associativity
  function : Arithmetic
  deriving Repr, DecidableEq

/-- The limit on nesting and the operators of a calculator. -/
structure Config where
  maxDepth : UInt64
  operators : List Definition
  deriving Repr, DecidableEq

/-- What makes a configuration invalid. -/
inductive ConfigFault where
  | emptySymbol
  | reservedCharacter (symbol : String) (ch : Char)
  | duplicateSymbol (symbol : String)
  deriving Repr, DecidableEq

namespace ConfigFault

/-- The symbol at fault. -/
def symbol : ConfigFault → String
  | .emptySymbol => ""
  | .reservedCharacter symbol _ => symbol
  | .duplicateSymbol symbol => symbol

/-- The wording of a fault. -/
def message : ConfigFault → String
  | .emptySymbol => "Operator symbol must not be empty"
  | .reservedCharacter symbol ch =>
      "Operator symbol '" ++ symbol ++ "' contains reserved character " ++
        Text.quotedChar ch
  | .duplicateSymbol symbol =>
      "Operator symbol '" ++ symbol ++ "' is defined more than once"

/-- The reason that the log gives for a fault. -/
def reason : ConfigFault → String
  | .duplicateSymbol _ => "duplicate symbol"
  | fault => fault.message

/-- The fault of a symbol by itself. -/
def ofSymbol? (symbol : String) : Option ConfigFault :=
  if symbol = "" then some .emptySymbol
  else (symbol.toList.find? Symbol.isReserved).map (.reservedCharacter symbol)

/-- Records that a symbol is rejected. -/
def report (fault : ConfigFault) : Logged Unit :=
  .emit .warn
    ("rejecting operator " ++ Text.quoted fault.symbol ++ ": " ++ fault.reason)

end ConfigFault

/-- Why a text does not yield a calculator. -/
inductive ConfigError where
  /-- A document cannot be read or written, for the cause that its format
  gives. -/
  | malformed (cause : String)
  | invalid (fault : ConfigFault)
  deriving Repr, DecidableEq

/-- The wording of an error. -/
def ConfigError.message : ConfigError → String
  | .malformed cause => "JSON error: " ++ cause
  | .invalid fault => fault.message

/-- A computation that keeps a log and can meet a configuration error. -/
abbrev Configured := ExceptT ConfigError Logged

namespace Definition

/-- The operator that a definition describes, under its symbol. -/
def entry (definition : Definition) : Entry where
  symbol := definition.symbol
  operator :=
    definition.function.operator definition.precedence definition.associativity

end Definition

namespace Config

/-- The first fault in a list of symbols that follow the ones in `seen`. -/
def firstFault? (seen : List String) : List String → Option ConfigFault
  | [] => none
  | symbol :: rest =>
      match ConfigFault.ofSymbol? symbol with
      | some fault => some fault
      | none =>
          if symbol ∈ seen then some (.duplicateSymbol symbol)
          else firstFault? (symbol :: seen) rest

/-- The first fault of a configuration. -/
def fault? (config : Config) : Option ConfigFault :=
  firstFault? [] (config.operators.map Definition.symbol)

/-- Accepts a valid configuration, and records the first fault of another. -/
def validate (config : Config) : Configured Unit :=
  match config.fault? with
  | none => pure ()
  | some fault => do
      fault.report
      throw (.invalid fault)

section

variable {σ : Type} (register : σ → String → Operator → σ)

/-- Registers the operators of a valid configuration, which is kept. -/
def registerAll (empty : σ) (config : Config) : Configured σ := do
  config.validate
  return (config.operators.map Definition.entry).foldl
    (fun filled entry => register filled entry.symbol entry.operator) empty

/-- Registers the operators of definitions, each of which is given up with its
symbol when its turn comes. -/
def moveInto (filled : σ) : List Definition → σ
  | [] => filled
  | definition :: rest =>
      let operator := definition.entry.operator
      moveInto (register filled definition.symbol operator) rest

/-- Registers the operators of a valid configuration, which is given up. -/
def moveAll (empty : σ) (config : Config) : Configured σ := do
  config.validate
  return moveInto register empty config.operators

theorem moveInto_eq_foldl (filled : σ) (definitions : List Definition) :
    moveInto register filled definitions =
      (definitions.map Definition.entry).foldl
        (fun filled entry => register filled entry.symbol entry.operator)
        filled := by
  induction definitions generalizing filled with
  | nil => rfl
  | cons definition rest inductionHypothesis => exact inductionHypothesis _

/-- Both ways to registered operators come to the same, or to the same fault. -/
theorem moveAll_eq_registerAll (empty : σ) (config : Config) :
    config.moveAll register empty = config.registerAll register empty := by
  rw [moveAll, registerAll, moveInto_eq_foldl]

end

/-- The table of a valid configuration, which is kept. -/
def toTable (config : Config) : Configured Table :=
  config.registerAll Table.insert Table.empty

/-- The table of a valid configuration, which is given up. -/
def intoTable (config : Config) : Configured Table :=
  config.moveAll Table.insert Table.empty

/-- The registry of a valid configuration, which is kept. -/
def toRegistry (config : Config) : Configured Registry :=
  config.registerAll Registry.insert Registry.empty

/-- The registry of a valid configuration, which is given up. -/
def intoRegistry (config : Config) : Configured Registry :=
  config.moveAll Registry.insert Registry.empty

/-- The limit on nesting where a configuration gives none. -/
def defaultMaxDepth : UInt64 := 512

/-- The four operators of elementary arithmetic. -/
def standard : Config where
  maxDepth := defaultMaxDepth
  operators :=
    [⟨"+", 10, .left, .add⟩, ⟨"-", 10, .left, .subtract⟩,
     ⟨"*", 20, .left, .multiply⟩, ⟨"/", 20, .left, .divide⟩]

instance : Inhabited Config := ⟨standard⟩

end Config

end Reckoner
