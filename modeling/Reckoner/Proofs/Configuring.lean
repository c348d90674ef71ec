import Reckoner.Calculator
import Reckoner.Proofs.Registration

/-!
# From configurations to calculators

A configuration without fault has no symbol twice, so that every registration
adds an operator and the order of its definitions is of no account.  All ways to
the operators of a configuration check it first, and nothing after the check can
fail: they come to the same operators, or to the fault that was found
(`Calculator.configurations_agree`).
-/

namespace Reckoner

namespace Table

variable {history permuted : List Entry} {symbol : String}

theorem mem_symbols_insertAll_empty :
    symbol ∈ (empty.insertAll history).symbols ↔
      symbol ∈ history.map Entry.symbol := by
  rw [← isSome_get?_iff, get?_insertAll_empty, Entry.isSome_latest?_iff]

theorem size_insertAll_empty (distinct : (history.map Entry.symbol).Nodup) :
    (empty.insertAll history).size = history.length := by
  have permutation :
      (empty.insertAll history).symbols.Perm (history.map Entry.symbol) :=
    (List.perm_ext_iff_of_nodup (nodup_symbols _) distinct).mpr
      fun _ => mem_symbols_insertAll_empty
  have lengths := permutation.length_eq
  rwa [symbols, List.length_map, List.length_map] at lengths

theorem insertAll_empty_of_perm
    (distinct : (history.map Entry.symbol).Nodup)
    (permutation : history.Perm permuted) :
    empty.insertAll permuted = empty.insertAll history := by
  apply ext_get?
  intro symbol
  rw [get?_insertAll_empty, get?_insertAll_empty,
    Entry.latest?_of_perm distinct permutation]

end Table

theorem Configured.value_bind_pure {α β : Type} (first : Configured α)
    (result : β) :
    (first >>= fun _ => pure result).run.value =
      first.run.value.map fun _ => result := by
  rw [ExceptT.run_bind, Logged.value_bind]
  cases first.run.value <;> rfl

namespace Config

variable {config permuted : Config}

/-- Every symbol can be read where it stands in an expression, and no symbol is
defined twice. -/
structure Valid (config : Config) : Prop where
  readable : ∀ definition ∈ config.operators,
    ConfigFault.ofSymbol? definition.symbol = none
  distinct : (config.operators.map Definition.symbol).Nodup

/-- A symbol that was seen must not come again.  Behind a symbol that symbol
counts as seen, so that it stays out of the rest exactly if the list does not
repeat it. -/
theorem firstFault?_eq_none_iff {seen symbols : List String} :
    firstFault? seen symbols = none ↔
      (∀ symbol ∈ symbols, ConfigFault.ofSymbol? symbol = none) ∧
        symbols.Nodup ∧ symbols.Disjoint seen := by
  induction symbols generalizing seen with
  | nil => simp [firstFault?]
  | cons symbol rest inductionHypothesis =>
      rw [firstFault?, List.forall_mem_cons, List.nodup_cons,
        List.disjoint_cons_left]
      cases fault : ConfigFault.ofSymbol? symbol with
      | some _ => simp
      | none =>
          by_cases known : symbol ∈ seen
          · simp [known]
          · simp only [if_neg known, inductionHypothesis,
              List.disjoint_cons_right]
            tauto

theorem fault?_eq_none_iff : config.fault? = none ↔ config.Valid := by
  rw [fault?, firstFault?_eq_none_iff, List.forall_mem_map]
  constructor
  · rintro ⟨readable, distinct, _⟩
    exact ⟨readable, distinct⟩
  · rintro ⟨readable, distinct⟩
    exact ⟨readable, distinct, List.disjoint_nil_right _⟩

theorem validate_eq_ok_iff :
    config.validate.run.value = .ok () ↔ config.Valid := by
  rw [← fault?_eq_none_iff, validate]
  cases config.fault? with
  | none => exact iff_of_true rfl rfl
  | some fault =>
      apply iff_of_false
      · intro accepted
        cases accepted
      · exact Option.some_ne_none fault

theorem Valid.of_perm (valid : config.Valid)
    (permutation : config.operators.Perm permuted.operators) :
    permuted.Valid where
  readable definition member :=
    valid.readable definition (permutation.mem_iff.mpr member)
  distinct := (permutation.map Definition.symbol).nodup valid.distinct

theorem Valid.distinct_entries (valid : config.Valid) :
    ((config.operators.map Definition.entry).map Entry.symbol).Nodup := by
  rw [List.map_map]
  exact valid.distinct

/-- The table has an operator for every definition of the configuration, with
what the definition says about it, and no others. -/
structure Describes (config : Config) (table : Table) : Prop where
  size_eq : table.size = config.operators.length
  get?_eq : ∀ definition ∈ config.operators,
    table.get? definition.symbol =
      some ⟨definition.precedence, definition.associativity,
        definition.function.apply⟩

theorem Valid.describes (valid : config.Valid) :
    config.Describes
      (Table.empty.insertAll (config.operators.map Definition.entry)) where
  size_eq := by
    rw [Table.size_insertAll_empty valid.distinct_entries, List.length_map]
  get?_eq definition member := by
    rw [Table.get?_insertAll_empty]
    exact (Entry.latest?_eq_some_iff valid.distinct_entries).mpr
      (List.mem_map_of_mem member)

theorem value_registerAll {σ : Type} (register : σ → String → Operator → σ)
    (empty : σ) (config : Config) :
    (config.registerAll register empty).run.value =
      config.validate.run.value.map fun _ =>
        (config.operators.map Definition.entry).foldl
          (fun filled entry => register filled entry.symbol entry.operator)
          empty :=
  Configured.value_bind_pure config.validate _

/-- The table of a configuration without fault. -/
theorem Valid.value_toTable (valid : config.Valid) :
    config.toTable.run.value =
      .ok (Table.empty.insertAll (config.operators.map Definition.entry)) := by
  rw [toTable, value_registerAll, validate_eq_ok_iff.mpr valid]
  rfl

theorem Valid.toTable_of_perm (valid : config.Valid)
    (permutation : config.operators.Perm permuted.operators) :
    permuted.toTable.run.value = config.toTable.run.value := by
  rw [valid.value_toTable, (valid.of_perm permutation).value_toTable,
    Table.insertAll_empty_of_perm valid.distinct_entries
      (permutation.map Definition.entry)]

/-- What is read from a document has been checked. -/
theorem valid_of_ofDocument_eq_ok {format : DocumentFormat}
    {document : String}
    (success : (ofDocument format document).run.value = .ok config) :
    config.Valid := by
  rw [ofDocument] at success
  split at success
  · cases success
  · rename_i read _
    rw [Configured.value_bind_pure read.validate read] at success
    cases checked : read.validate.run.value with
    | error error =>
        rw [checked] at success
        cases success
    | ok _ =>
        rw [checked] at success
        cases success
        exact validate_eq_ok_iff.mp checked

end Config

namespace Calculator

theorem value_ofConfig (config : Config) :
    (ofConfig config).run.value = config.toTable.run.value.map fun table =>
      (ofTable table).withMaxDepth config.maxDepth := by
  rw [ofConfig, ExceptT.run_bind, Logged.value_bind]
  cases config.toTable.run.value <;> rfl

theorem value_ofDocument (format : DocumentFormat) (document : String) :
    (ofDocument format document).run.value =
      (Config.ofDocument format document).run.value.bind fun config =>
        (ofConfig config).run.value := by
  rw [ofDocument_eq_bind, ExceptT.run_bind, Logged.value_bind]
  cases (Config.ofDocument format document).run.value <;> rfl

/-- All ways from a configuration to a calculator agree.  Its tables and its
registries fail with the fault that validation finds, or have the operators that
it describes and cannot be told apart.  The order of the definitions does not
matter, also not for whether there is a fault.  The document of a configuration
leads to the calculator of that configuration, and nothing fails once the
document has been read. -/
theorem configurations_agree :
    (∀ config : Config,
      match config.validate.run.value with
      | .error error =>
          config.toTable.run.value = .error error ∧
            config.intoTable.run.value = .error error ∧
            config.toRegistry.run.value = .error error ∧
            config.intoRegistry.run.value = .error error
      | .ok _ => ∃ table kept given,
          config.toTable.run.value = .ok table ∧
            config.intoTable.run.value = .ok table ∧
            config.toRegistry.run.value = .ok kept ∧
            config.intoRegistry.run.value = .ok given ∧
            kept.view = table.view ∧ given.view = table.view ∧
            config.Describes table) ∧
    (∀ config permuted : Config, config.validate.run.value = .ok () →
      config.operators.Perm permuted.operators →
      permuted.validate.run.value = .ok () ∧
        permuted.toTable.run.value = config.toTable.run.value) ∧
    (∀ (format : DocumentFormat) (document : String),
      match (Config.ofDocument format document).run.value with
      | .error error => (ofDocument format document).run.value = .error error
      | .ok config => ∃ calculator,
          (ofDocument format document).run.value = .ok calculator ∧
            (ofConfig config).run.value = .ok calculator ∧
            config.toTable.run.value = .ok calculator.table ∧
            calculator.maxDepth = config.maxDepth) := by
  refine ⟨?_, ?_, ?_⟩
  · intro config
    simp only [Config.toTable, Config.intoTable, Config.toRegistry,
      Config.intoRegistry, Config.moveAll_eq_registerAll,
      Config.value_registerAll]
    cases checked : config.validate.run.value with
    | error error => exact ⟨rfl, rfl, rfl, rfl⟩
    | ok _ =>
        have valid := Config.validate_eq_ok_iff.mp checked
        have view_eq := Registry.view_insertAll_empty
          (config.operators.map Definition.entry)
        exact ⟨_, _, _, rfl, rfl, rfl, rfl, view_eq, view_eq, valid.describes⟩
  · intro config permuted accepted permutation
    have valid := Config.validate_eq_ok_iff.mp accepted
    exact ⟨Config.validate_eq_ok_iff.mpr (valid.of_perm permutation),
      valid.toTable_of_perm permutation⟩
  · intro format document
    rw [value_ofDocument]
    cases read : (Config.ofDocument format document).run.value with
    | error error => rfl
    | ok config =>
        have valid := Config.valid_of_ofDocument_eq_ok read
        have built : (ofConfig config).run.value = .ok _ :=
          (value_ofConfig config).trans (congrArg _ valid.value_toTable)
        exact ⟨_, built, built, valid.value_toTable, rfl⟩

theorem configurations_agree_of_reversed_standard :
    let reversed : Config := ⟨7, Config.standard.operators.reverse⟩
    let repeated : Config :=
      ⟨7, ⟨"*", 30, .right, .power⟩ :: Config.standard.operators⟩
    reversed.validate.run.value = .ok () ∧
      reversed.toTable.run.value = Config.standard.toTable.run.value ∧
      repeated.intoRegistry.run.value =
        .error (.invalid (.duplicateSymbol "*")) := by
  intro reversed repeated
  have accepted : Config.standard.validate.run.value = .ok () := by
    have faultless : Config.standard.fault? = none := by decide +kernel
    rw [Config.validate, faultless]
    rfl
  have rejected : repeated.validate.run.value =
      .error (.invalid (.duplicateSymbol "*")) := by
    have fault : repeated.fault? = some (.duplicateSymbol "*") := by
      decide +kernel
    rw [Config.validate, fault]
    rfl
  obtain ⟨ways, permuting, _⟩ := configurations_agree
  obtain ⟨acceptedReversed, sameTable⟩ := permuting Config.standard reversed
    accepted (List.reverse_perm _).symm
  have failures := ways repeated
  rw [rejected] at failures
  exact ⟨acceptedReversed, sameTable, failures.2.2.2⟩

end Calculator

end Reckoner
