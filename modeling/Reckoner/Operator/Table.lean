import Reckoner.Operator.Arithmetic
import Reckoner.Operator.Symbol

/-!
# Operator tables

A table maps symbols to operators.  It keeps its entries in the order in which
the symbols are tried, so two tables with the same entries are equal, however
they came about.  Any symbol and any precedence is accepted, also symbols that
can never stand in an expression.
-/

namespace Reckoner

/-- An operator under its symbol. -/
structure Entry where
  symbol : String
  operator : Operator

/-- A finite map from symbols to operators, arranged by symbol. -/
@[ext] structure Table where
  entries : List Entry
  ordered : entries.Pairwise fun first second =>
    Symbol.Before first.symbol second.symbol

namespace Table

/-- The table without operators. -/
def empty : Table := ⟨[], .nil⟩

instance : Inhabited Table := ⟨empty⟩

/-- Puts an entry in its place, or in the place of the one with its symbol. -/
def insertEntry (entry : Entry) : List Entry → List Entry
  | [] => [entry]
  | first :: rest =>
      if entry.symbol = first.symbol then entry :: rest
      else if Symbol.Before entry.symbol first.symbol then
        entry :: first :: rest
      else first :: insertEntry entry rest

theorem mem_insertEntry {entry candidate : Entry} {entries : List Entry}
    (member : candidate ∈ insertEntry entry entries) :
    candidate = entry ∨ candidate ∈ entries := by
  induction entries with
  | nil =>
      simp only [insertEntry, List.mem_singleton] at member
      exact .inl member
  | cons first rest inductionHypothesis =>
      simp only [insertEntry] at member
      split at member
      · rcases List.mem_cons.mp member with equality | tail
        · exact .inl equality
        · exact .inr (List.mem_cons_of_mem _ tail)
      · split at member
        · exact List.mem_cons.mp member
        · rcases List.mem_cons.mp member with equality | tail
          · exact .inr (equality ▸ List.mem_cons_self)
          · rcases inductionHypothesis tail with equality | old
            · exact .inl equality
            · exact .inr (List.mem_cons_of_mem _ old)

theorem pairwise_insertEntry {entry : Entry} {entries : List Entry}
    (ordered : entries.Pairwise fun first second =>
      Symbol.Before first.symbol second.symbol) :
    (insertEntry entry entries).Pairwise fun first second =>
      Symbol.Before first.symbol second.symbol := by
  induction entries with
  | nil => exact List.pairwise_singleton _ _
  | cons first rest inductionHypothesis =>
      obtain ⟨before, restOrdered⟩ := List.pairwise_cons.mp ordered
      simp only [insertEntry]
      split
      · rename_i equality
        exact List.pairwise_cons.mpr
          ⟨fun later member => equality ▸ before later member, restOrdered⟩
      · split
        · rename_i earlier
          refine List.pairwise_cons.mpr ⟨?_, ordered⟩
          intro later member
          rcases List.mem_cons.mp member with equality | tail
          · exact equality ▸ earlier
          · exact earlier.trans (before later tail)
        · rename_i different notEarlier
          refine List.pairwise_cons.mpr
            ⟨?_, inductionHypothesis restOrdered⟩
          intro later member
          rcases mem_insertEntry member with equality | old
          · exact equality ▸ Symbol.Before.of_ne different notEarlier
          · exact before later old

/-- Registers an operator under a symbol, in place of one that stood there. -/
def insert (table : Table) (symbol : String) (operator : Operator) : Table where
  entries := insertEntry ⟨symbol, operator⟩ table.entries
  ordered := pairwise_insertEntry table.ordered

/-- Registers one entry after another. -/
def insertAll (table : Table) (entries : List Entry) : Table :=
  entries.foldl (fun filled entry => filled.insert entry.symbol entry.operator)
    table

/-- The operator registered under a symbol. -/
def get? (table : Table) (symbol : String) : Option Operator :=
  (table.entries.find? fun entry => entry.symbol = symbol).map Entry.operator

theorem find?_insertEntry (entry : Entry) (entries : List Entry)
    (symbol : String) :
    (insertEntry entry entries).find? (fun candidate =>
        candidate.symbol = symbol) =
      if symbol = entry.symbol then some entry
      else entries.find? fun candidate => candidate.symbol = symbol := by
  induction entries with
  | nil =>
      by_cases same : symbol = entry.symbol
      · simp [insertEntry, same]
      · simp [insertEntry, same, Ne.symm same]
  | cons first rest inductionHypothesis =>
      simp only [insertEntry]
      by_cases same : symbol = entry.symbol
      · subst symbol
        split
        · simp
        · split
          · simp
          · rename_i different _
            simp [inductionHypothesis, Ne.symm different]
      · split
        · rename_i equality
          simp [Ne.symm same, ← equality]
        · split
          · simp [Ne.symm same]
          · by_cases atFirst : first.symbol = symbol
            · simp [atFirst]
            · simp [atFirst, same, inductionHypothesis]

/-- After a registration a table knows the new operator under its symbol, and
what it knew before under every other one. -/
theorem get?_insert (table : Table) (symbol other : String)
    (operator : Operator) :
    (table.insert symbol operator).get? other =
      if other = symbol then some operator else table.get? other := by
  simp only [get?, insert, find?_insertEntry]
  split <;> rfl

/-- The registered symbols in the order in which they are tried. -/
def symbols (table : Table) : List String :=
  table.entries.map Entry.symbol

/-- The precedence of a symbol, or zero if it is not registered. -/
def precedence (table : Table) (symbol : String) : Int32 :=
  ((table.get? symbol).map Operator.precedence).getD 0

/-- Whether a symbol is registered. -/
def contains (table : Table) (symbol : String) : Bool :=
  (table.get? symbol).isSome

/-- The number of registered symbols. -/
def size (table : Table) : Nat := table.entries.length

/-- Whether no symbol is registered. -/
def isEmpty (table : Table) : Bool := table.entries.isEmpty

/-- Whether a text starts with a symbol.  The empty symbol starts no text. -/
def startsWith (text : List Char) (symbol : String) : Bool :=
  symbol ≠ "" && symbol.toList.isPrefixOf text

/-- The longest registered symbol that the text starts with. -/
def matchAt? (table : Table) (text : List Char) : Option String :=
  table.symbols.find? (startsWith text)

/-- The four operators of elementary arithmetic. -/
def standard : Table :=
  empty.insertAll
    [⟨"+", Arithmetic.add.operator 10 .left⟩,
     ⟨"-", Arithmetic.subtract.operator 10 .left⟩,
     ⟨"*", Arithmetic.multiply.operator 20 .left⟩,
     ⟨"/", Arithmetic.divide.operator 20 .left⟩]

/-- The standard operators with remainders and powers. -/
def scientific : Table :=
  standard.insertAll
    [⟨"%", Arithmetic.remainder.operator 20 .left⟩,
     ⟨"**", Arithmetic.power.operator 30 .right⟩]

end Table

end Reckoner
