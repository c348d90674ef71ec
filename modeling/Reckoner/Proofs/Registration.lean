import Mathlib.Data.List.Nodup
import Reckoner.Operator.Registry
import Reckoner.Proofs.Spelling

/-!
# What a history of registrations leaves behind

A table or a registry that is filled from the start is the finite map in which
every symbol has the operator that was registered last under it.  A registry
keeps its two parts in step (`Registry.InStep`), so that its symbols are those of
the map, each once and in the order in which they are tried.  There is only one
such order: nothing else of a history can be found out afterwards
(`Registry.insertAll_represents_latest`).
-/

namespace Reckoner

namespace Entry

/-- The operator that a history of registrations ends with for a symbol. -/
def latest? (history : List Entry) (symbol : String) : Option Operator :=
  (history.reverse.find? fun entry => entry.symbol = symbol).map operator

theorem latest?_cons (entry : Entry) (later : List Entry) (symbol : String) :
    latest? (entry :: later) symbol =
      (latest? later symbol).or
        (if symbol = entry.symbol then some entry.operator else none) := by
  rw [latest?, List.reverse_cons, List.find?_append, Option.map_or, latest?]
  by_cases same : symbol = entry.symbol
  · simp [same]
  · simp [same, Ne.symm same]

/-- Among entries with different symbols the one under a symbol is found. -/
theorem map_find?_eq_some_iff {entries : List Entry} {symbol : String}
    {operator : Operator} (distinct : (entries.map Entry.symbol).Nodup) :
    (entries.find? fun entry => entry.symbol = symbol).map Entry.operator =
      some operator ↔ ⟨symbol, operator⟩ ∈ entries := by
  constructor
  · intro registered
    obtain ⟨entry, found, rfl⟩ := Option.map_eq_some_iff.mp registered
    have same : entry.symbol = symbol := by
      simpa using List.find?_some found
    exact same ▸ List.mem_of_find?_eq_some found
  · intro member
    have some : (entries.find? fun entry => entry.symbol = symbol).isSome :=
      List.find?_isSome.mpr ⟨_, member, by simp⟩
    obtain ⟨entry, found⟩ := Option.isSome_iff_exists.mp some
    have same : entry = ⟨symbol, operator⟩ :=
      List.inj_on_of_nodup_map distinct (List.mem_of_find?_eq_some found)
        member (by simpa using List.find?_some found)
    rw [found, same, Option.map_some]

theorem isSome_latest?_iff {history : List Entry} {symbol : String} :
    (latest? history symbol).isSome = true ↔
      symbol ∈ history.map Entry.symbol := by
  simp [latest?]

/-- In a history without repetitions, what is registered under a symbol is also
the latest. -/
theorem latest?_eq_some_iff {history : List Entry} {symbol : String}
    {operator : Operator} (distinct : (history.map Entry.symbol).Nodup) :
    latest? history symbol = some operator ↔ ⟨symbol, operator⟩ ∈ history := by
  have reversed : (history.reverse.map Entry.symbol).Nodup := by
    rwa [List.map_reverse, List.nodup_reverse]
  rw [latest?, map_find?_eq_some_iff reversed, List.mem_reverse]

/-- The order of a history without repetitions does not matter. -/
theorem latest?_of_perm {history permuted : List Entry}
    (distinct : (history.map Entry.symbol).Nodup)
    (permutation : history.Perm permuted) :
    latest? permuted = latest? history := by
  have distinctPermuted : (permuted.map Entry.symbol).Nodup :=
    (permutation.map Entry.symbol).nodup distinct
  funext symbol
  apply Option.ext
  intro operator
  rw [latest?_eq_some_iff distinctPermuted, latest?_eq_some_iff distinct,
    permutation.mem_iff]

/-- Where one registration changes what is known under its symbol and nothing
else, a history changes it to the operator that it ends with. -/
theorem get?_foldl {σ : Type} {get? : σ → String → Option Operator}
    {register : σ → Entry → σ}
    (registered : ∀ state entry symbol, get? (register state entry) symbol =
      if symbol = entry.symbol then some entry.operator else get? state symbol)
    (history : List Entry) (state : σ) (symbol : String) :
    get? (history.foldl register state) symbol =
      (latest? history symbol).or (get? state symbol) := by
  induction history generalizing state with
  | nil => rfl
  | cons entry later inductionHypothesis =>
      rw [List.foldl_cons, inductionHypothesis, registered, latest?_cons]
      split <;> simp

end Entry

namespace Table

variable {table first second : Table} {history : List Entry} {symbol : String}

theorem get?_insertAll :
    (table.insertAll history).get? symbol =
      (Entry.latest? history symbol).or (table.get? symbol) :=
  Entry.get?_foldl
    (fun table entry other =>
      table.get?_insert entry.symbol other entry.operator) history table symbol

theorem get?_insertAll_empty :
    (empty.insertAll history).get? symbol = Entry.latest? history symbol := by
  rw [get?_insertAll, show empty.get? symbol = none from rfl, Option.or_none]

theorem nodup_symbols (table : Table) : table.symbols.Nodup :=
  Symbol.nodup_of_pairwise table.symbols_ordered

theorem isSome_get?_iff :
    (table.get? symbol).isSome = true ↔ symbol ∈ table.symbols := by
  rw [mem_symbols_iff, Option.isSome_iff_exists]

theorem get?_eq_none_iff :
    table.get? symbol = none ↔ symbol ∉ table.symbols := by
  rw [← isSome_get?_iff, Bool.not_eq_true, Option.isSome_eq_false_iff,
    Option.isNone_iff_eq_none]

/-- A symbol has only one entry. -/
theorem mem_entries_iff {entry : Entry} :
    entry ∈ table.entries ↔
      table.get? entry.symbol = some entry.operator :=
  (Entry.map_find?_eq_some_iff table.nodup_symbols).symm

/-- A table is determined by what is registered in it. -/
theorem ext_get? (same : ∀ symbol, first.get? symbol = second.get? symbol) :
    first = second := by
  have permuted : first.entries.Perm second.entries := by
    apply (List.perm_ext_iff_of_nodup first.nodup_symbols.of_map
      second.nodup_symbols.of_map).mpr
    intro entry
    rw [mem_entries_iff, mem_entries_iff, same]
  apply Table.ext
  apply List.Perm.eq_of_pairwise _ first.ordered second.ordered permuted
  intro left right _ _ before after
  exact absurd (before.trans after) (Symbol.Before.irrefl _)

end Table

namespace Registry

variable {registry : Registry} {table : Table} {history : List Entry}
  {symbol : String}

theorem get?_insertAll :
    (registry.insertAll history).get? symbol =
      (Entry.latest? history symbol).or (registry.get? symbol) :=
  Entry.get?_foldl
    (fun registry entry other =>
      registry.get?_insert entry.symbol other entry.operator)
    history registry symbol

theorem get?_insertAll_empty :
    (empty.insertAll history).get? symbol = Entry.latest? history symbol := by
  rw [get?_insertAll, show empty.get? symbol = none by simp [empty, get?],
    Option.or_none]

/-- The order lists the symbols of the map, each of them once. -/
structure InStep (registry : Registry) : Prop where
  mem_order : ∀ symbol,
    symbol ∈ registry.order ↔ registry.contains symbol = true
  ordered : registry.order.Pairwise Symbol.Before
  length_order : registry.order.length = registry.size

theorem inStep_empty : empty.InStep where
  mem_order symbol := by simp [empty, contains]
  ordered := .nil
  length_order := by simp [empty, size]

theorem contains_insert {other : String} {operator : Operator} :
    (registry.insert symbol operator).contains other = true ↔
      other = symbol ∨ registry.contains other = true := by
  rw [contains, operators_insert, Std.HashMap.contains_insert, Bool.or_eq_true,
    beq_iff_eq, eq_comm, contains]

theorem size_insert {operator : Operator} :
    (registry.insert symbol operator).size =
      if registry.contains symbol then registry.size
      else registry.size + 1 := by
  rw [size, operators_insert, Std.HashMap.size_insert]
  rfl

/-- A registration keeps the order in step with the map. -/
theorem InStep.insert (inStep : registry.InStep) (symbol : String)
    (operator : Operator) : (registry.insert symbol operator).InStep := by
  cases known : registry.contains symbol with
  | true =>
      have order : (registry.insert symbol operator).order =
          registry.order := by
        rw [order_insert, if_pos known]
      refine ⟨?_, order ▸ inStep.ordered, ?_⟩
      · intro other
        rw [order, inStep.mem_order, contains_insert]
        constructor
        · exact .inr
        · rintro (rfl | old)
          · exact known
          · exact old
      · rw [order, size_insert, if_pos known, inStep.length_order]
  | false =>
      have new : symbol ∉ registry.order := by
        rw [inStep.mem_order, known]
        exact Bool.false_ne_true
      have order : (registry.insert symbol operator).order =
          Symbol.arrange (registry.order ++ [symbol]) := by
        rw [order_insert, known]
        rfl
      have distinct : (registry.order ++ [symbol]).Nodup := by
        have apart := Symbol.nodup_of_pairwise inStep.ordered
        refine List.nodup_append.mpr ⟨apart, List.nodup_singleton _, ?_⟩
        rintro old member _ single rfl
        exact new (List.mem_singleton.mp single ▸ member)
      refine ⟨?_, order ▸ Symbol.pairwise_arrange distinct, ?_⟩
      · intro other
        rw [order, Symbol.mem_arrange, List.mem_append, List.mem_singleton,
          inStep.mem_order, contains_insert, or_comm]
      · rw [order, Symbol.length_arrange, List.length_append,
          inStep.length_order, size_insert, known]
        rfl

theorem InStep.insertAll (inStep : registry.InStep) (history : List Entry) :
    (registry.insertAll history).InStep := by
  induction history generalizing registry with
  | nil => exact inStep
  | cons entry later inductionHypothesis =>
      exact inductionHypothesis (inStep.insert entry.symbol entry.operator)

/-- A registry that knows what a table knows gives the same answers. -/
theorem InStep.view_eq (inStep : registry.InStep)
    (same : ∀ symbol, registry.get? symbol = table.get? symbol) :
    registry.view = table.view := by
  have get?_eq : registry.get? = table.get? := funext same
  have contains_eq : registry.contains = table.contains := by
    funext symbol
    rw [registry.contains_eq, same, Table.contains]
  have symbols_eq : registry.symbols = table.symbols := by
    apply Symbol.eq_of_pairwise inStep.ordered table.symbols_ordered
    intro symbol
    rw [inStep.mem_order, contains_eq, Table.contains, Table.isSome_get?_iff]
  have size_eq : registry.size = table.size := by
    rw [← inStep.length_order, ← symbols, symbols_eq, Table.symbols,
      List.length_map, Table.size]
  have isEmpty_eq : registry.isEmpty = table.isEmpty := by
    rw [isEmpty, Std.HashMap.isEmpty_eq_size_eq_zero, ← size, size_eq,
      Table.size, Table.isEmpty]
    cases table.entries <;> rfl
  unfold view Table.view
  congr 1
  · funext symbol
    rw [precedence, same, Table.precedence]
  · funext text
    rw [matchAt?, symbols_eq, Table.matchAt?]

theorem view_insertAll_empty (history : List Entry) :
    (empty.insertAll history).view = (Table.empty.insertAll history).view := by
  apply (inStep_empty.insertAll history).view_eq
  intro symbol
  rw [get?_insertAll_empty, Table.get?_insertAll_empty]

/-- The registry is a map with finitely many symbols, which it lists once and in
the order in which they are tried: longer symbols in front of shorter ones, and
symbols of one length by their bytes. -/
structure Represents (registry : Registry)
    (map : String → Option Operator) : Prop where
  get?_eq : ∀ symbol, registry.get? symbol = map symbol
  precedence_eq : ∀ symbol, registry.precedence symbol =
    ((map symbol).map Operator.precedence).getD 0
  contains_eq : ∀ symbol, registry.contains symbol = (map symbol).isSome
  mem_symbols_iff : ∀ symbol,
    symbol ∈ registry.symbols ↔ (map symbol).isSome = true
  nodup_symbols : registry.symbols.Nodup
  ordered : registry.symbols.Pairwise fun first second =>
    second.utf8ByteSize < first.utf8ByteSize ∨
      (first.utf8ByteSize = second.utf8ByteSize ∧
        Text.bytes first < Text.bytes second)
  size_eq : registry.size = registry.symbols.length
  isEmpty_iff : registry.isEmpty = true ↔ ∀ symbol, map symbol = none

theorem InStep.represents (inStep : registry.InStep) :
    registry.Represents registry.get? where
  get?_eq _ := rfl
  precedence_eq _ := rfl
  contains_eq := registry.contains_eq
  mem_symbols_iff symbol := by
    rw [← registry.contains_eq]
    exact inStep.mem_order symbol
  nodup_symbols := Symbol.nodup_of_pairwise inStep.ordered
  ordered := inStep.ordered
  size_eq := inStep.length_order.symm
  isEmpty_iff := by
    have contains_eq (symbol : String) :
        registry.operators.contains symbol = (registry.get? symbol).isSome :=
      registry.contains_eq symbol
    simp only [isEmpty, Std.HashMap.isEmpty_iff_forall_contains, contains_eq,
      Option.isSome_eq_false_iff, Option.isNone_iff_eq_none]

/-- Registering is the only thing that counts, and of that the last one under
each symbol: after any history a registry is the map of the latest operators, and
answers as the table that is filled by the same history.  Two histories that end
in the same map cannot be told apart. -/
theorem insertAll_represents_latest (history : List Entry) :
    (empty.insertAll history).Represents (Entry.latest? history) ∧
    (empty.insertAll history).view = (Table.empty.insertAll history).view ∧
    ∀ other : List Entry,
      (∀ symbol, Entry.latest? history symbol = Entry.latest? other symbol) →
      (empty.insertAll history).view = (empty.insertAll other).view := by
  refine ⟨?_, view_insertAll_empty history, ?_⟩
  · have represents := (inStep_empty.insertAll history).represents
    rwa [show (empty.insertAll history).get? = Entry.latest? history from
      funext fun _ => get?_insertAll_empty] at represents
  · intro other same
    rw [view_insertAll_empty, view_insertAll_empty]
    congr 1
    apply Table.ext_get?
    intro symbol
    rw [Table.get?_insertAll_empty, Table.get?_insertAll_empty, same]

theorem same_view_of_histories :
    let minus := Arithmetic.subtract.operator 10 .left
    let power := Arithmetic.power.operator 30 .right
    let first : List Entry :=
      [⟨"-", power⟩, ⟨"", minus⟩, ⟨"\u2212", minus⟩, ⟨"-", minus⟩,
       ⟨"**", power⟩]
    let second : List Entry :=
      [⟨"**", minus⟩, ⟨"-", minus⟩, ⟨"\u2212", minus⟩, ⟨"**", power⟩,
       ⟨"", minus⟩]
    (∀ symbol, Entry.latest? first symbol = Entry.latest? second symbol) ∧
      (empty.insertAll first).view = (empty.insertAll second).view ∧
      (empty.insertAll first).symbols = ["\u2212", "**", "-", ""] := by
  intro minus power first second
  have same (symbol : String) :
      Entry.latest? first symbol = Entry.latest? second symbol := by
    by_cases known : symbol ∈ ["\u2212", "**", "-", ""]
    · simp only [List.mem_cons, List.not_mem_nil, or_false] at known
      rcases known with rfl | rfl | rfl | rfl <;> rfl
    · simp_all [first, second, Entry.latest?, eq_comm]
  obtain ⟨_, asTable, sameView⟩ := insertAll_represents_latest first
  refine ⟨same, sameView second same, ?_⟩
  rw [← symbols_view, asTable, Table.symbols_view]
  simp only [first, minus, power]
  decide +kernel

end Registry

end Reckoner
