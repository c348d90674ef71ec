import Std.Data.HashMap
import Reckoner.Operator.Table

/-!
# Registries

A registry finds operators by hashing, and keeps the symbols apart from them in
the order in which they are tried.  Registration is the only way to change it: a
new symbol goes into both, and the symbols are arranged again; a symbol that is
known gets another operator and keeps its place.

`TableView` holds the answers that a registry and a table have in common.
-/

namespace Reckoner

/-- Operators by their symbols, and the symbols by their order. -/
structure Registry where
  operators : Std.HashMap String Operator
  order : List String

namespace Registry

/-- The registry without operators. -/
def empty : Registry := ⟨∅, []⟩

instance : Inhabited Registry := ⟨empty⟩

/-- Registers an operator under a symbol, in place of one that stood there. -/
def insert (registry : Registry) (symbol : String) (operator : Operator) :
    Registry :=
  let (known, operators) := registry.operators.containsThenInsert symbol operator
  { operators := operators
    order :=
      if known then registry.order
      else Symbol.arrange (registry.order ++ [symbol]) }

/-- Registers one entry after another. -/
def insertAll (registry : Registry) (entries : List Entry) : Registry :=
  entries.foldl (fun filled entry => filled.insert entry.symbol entry.operator)
    registry

/-- The operator registered under a symbol. -/
def get? (registry : Registry) (symbol : String) : Option Operator :=
  registry.operators[symbol]?

/-- The precedence of a symbol, or zero if it is not registered. -/
def precedence (registry : Registry) (symbol : String) : Int32 :=
  ((registry.get? symbol).map Operator.precedence).getD 0

/-- Whether a symbol is registered. -/
def contains (registry : Registry) (symbol : String) : Bool :=
  registry.operators.contains symbol

/-- The number of registered operators. -/
def size (registry : Registry) : Nat := registry.operators.size

/-- Whether no operator is registered. -/
def isEmpty (registry : Registry) : Bool := registry.operators.isEmpty

/-- The registered symbols in the order in which they are tried. -/
def symbols (registry : Registry) : List String := registry.order

/-- The first symbol in the order that the text starts with. -/
def matchAt? (registry : Registry) (text : List Char) : Option String :=
  registry.symbols.find? (Table.startsWith text)

theorem operators_insert (registry : Registry) (symbol : String)
    (operator : Operator) :
    (registry.insert symbol operator).operators =
      registry.operators.insert symbol operator :=
  Std.HashMap.containsThenInsert_snd

theorem order_insert (registry : Registry) (symbol : String)
    (operator : Operator) :
    (registry.insert symbol operator).order =
      if registry.contains symbol then registry.order
      else Symbol.arrange (registry.order ++ [symbol]) := by
  rw [contains, ← Std.HashMap.containsThenInsert_fst]
  rfl

/-- After a registration a registry knows the new operator under its symbol, and
what it knew before under every other one. -/
theorem get?_insert (registry : Registry) (symbol other : String)
    (operator : Operator) :
    (registry.insert symbol operator).get? other =
      if other = symbol then some operator else registry.get? other := by
  rw [get?, operators_insert, Std.HashMap.getElem?_insert]
  by_cases same : other = symbol
  · simp [same]
  · simp [same, Ne.symm same, get?]

theorem contains_eq (registry : Registry) (symbol : String) :
    registry.contains symbol = (registry.get? symbol).isSome :=
  Std.HashMap.contains_eq_isSome_getElem?

end Registry

/-- All that can be asked of a table. -/
structure TableView where
  get? : String → Option Operator
  precedence : String → Int32
  contains : String → Bool
  size : Nat
  isEmpty : Bool
  symbols : List String
  matchAt? : List Char → Option String

/-- What a table answers. -/
def Table.view (table : Table) : TableView where
  get? := table.get?
  precedence := table.precedence
  contains := table.contains
  size := table.size
  isEmpty := table.isEmpty
  symbols := table.symbols
  matchAt? := table.matchAt?

/-- What a registry answers. -/
def Registry.view (registry : Registry) : TableView where
  get? := registry.get?
  precedence := registry.precedence
  contains := registry.contains
  size := registry.size
  isEmpty := registry.isEmpty
  symbols := registry.symbols
  matchAt? := registry.matchAt?

@[simp] theorem Table.symbols_view (table : Table) :
    table.view.symbols = table.symbols := rfl

@[simp] theorem Registry.symbols_view (registry : Registry) :
    registry.view.symbols = registry.symbols := rfl

@[simp] theorem Table.matchAt?_view (table : Table) :
    table.view.matchAt? = table.matchAt? := rfl

@[simp] theorem Registry.matchAt?_view (registry : Registry) :
    registry.view.matchAt? = registry.matchAt? := rfl

end Reckoner
