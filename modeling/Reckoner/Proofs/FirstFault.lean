import Reckoner.Proofs.Configuring

/-!
# The first fault of a configuration

A definition is at fault if its symbol is empty, contains a reserved character
or is the symbol of an earlier definition.  Validation accepts exactly the
configurations in which no definition is at fault, and otherwise reports the
first one; what stands behind it is of no account
(`Config.validate_reports_first_fault`).
-/

namespace Reckoner

namespace Symbol

/-- A digit, a dot, a parenthesis or a blank. -/
def Reserved (ch : Char) : Prop :=
  ('0' ≤ ch ∧ ch ≤ '9') ∨ ch = '.' ∨ ch = '(' ∨ ch = ')' ∨
    Text.isBlank ch = true

theorem isReserved_iff {ch : Char} : isReserved ch = true ↔ Reserved ch := by
  have digit : ch.isDigit = true ↔ '0' ≤ ch ∧ ch ≤ '9' := by
    rw [Char.isDigit, Bool.and_eq_true, decide_eq_true_iff,
      decide_eq_true_iff]
    rfl
  simp only [isReserved, Reserved, Bool.or_eq_true, decide_eq_true_eq, digit]
  tauto

instance (ch : Char) : Decidable (Reserved ch) :=
  decidable_of_iff (isReserved ch = true) isReserved_iff

/-- The symbol has a character, and none that is reserved. -/
def Readable (symbol : String) : Prop :=
  symbol ≠ "" ∧ ∀ ch ∈ symbol.toList, ¬ Reserved ch

end Symbol

namespace ConfigFault

/-- The fault to report for a definition at fault with this symbol.  A reserved
character counts only in a symbol, the first one, and a repetition only if the
symbol is readable. -/
def Concerns (symbol : String) : ConfigFault → Prop
  | .emptySymbol => symbol = ""
  | .reservedCharacter named ch =>
      named = symbol ∧ ∃ front back, symbol.toList = front ++ ch :: back ∧
        Symbol.Reserved ch ∧ ∀ earlier ∈ front, ¬ Symbol.Reserved earlier
  | .duplicateSymbol named => named = symbol ∧ Symbol.Readable symbol

variable {symbol : String} {fault : ConfigFault}

theorem Concerns.symbol_eq (concerns : fault.Concerns symbol) :
    fault.symbol = symbol := by
  cases fault with
  | emptySymbol => exact concerns.symm
  | reservedCharacter | duplicateSymbol => exact concerns.1

theorem ofSymbol?_eq_none_iff :
    ofSymbol? symbol = none ↔ Symbol.Readable symbol := by
  rw [ofSymbol?, Symbol.Readable]
  split
  · rename_i empty
    simp [empty]
  · rename_i nonempty
    simp [nonempty, ← Symbol.isReserved_iff]

theorem concerns_of_ofSymbol? (found : ofSymbol? symbol = some fault) :
    fault.Concerns symbol := by
  rw [ofSymbol?] at found
  split at found
  · rename_i empty
    cases found
    exact empty
  · obtain ⟨ch, first, rfl⟩ := Option.map_eq_some_iff.mp found
    obtain ⟨reserved, front, back, split, clear⟩ :=
      List.find?_eq_some_iff_append.mp first
    refine ⟨rfl, front, back, split, Symbol.isReserved_iff.mp reserved, ?_⟩
    intro earlier member isReserved
    simpa [Symbol.isReserved_iff.mpr isReserved] using clear earlier member

end ConfigFault

namespace Config

variable {seen front rest symbols : List String} {symbol : String}
  {fault : ConfigFault}

/-- The symbols that were read count as seen for those behind them. -/
theorem firstFault?_append :
    firstFault? seen (front ++ rest) =
      (firstFault? seen front).or (firstFault? (front.reverse ++ seen) rest) := by
  induction front generalizing seen with
  | nil => rfl
  | cons symbol front inductionHypothesis =>
      rw [List.cons_append, firstFault?, firstFault?]
      cases ConfigFault.ofSymbol? symbol with
      | some fault => rfl
      | none =>
          by_cases known : symbol ∈ seen
          · simp only [if_pos known]
            rfl
          · simp only [if_neg known, inductionHypothesis, List.reverse_cons,
              List.append_assoc, List.singleton_append]

/-- A fault is found at one symbol, behind others without fault. -/
theorem exists_cut_of_firstFault?
    (found : firstFault? seen symbols = some fault) :
    ∃ front symbol back, symbols = front ++ symbol :: back ∧
      firstFault? seen front = none ∧
      firstFault? (front.reverse ++ seen) [symbol] = some fault := by
  induction symbols generalizing seen with
  | nil => cases found
  | cons symbol rest inductionHypothesis =>
      cases alone : firstFault? seen [symbol] with
      | some other =>
          refine ⟨[], symbol, rest, rfl, rfl, ?_⟩
          rw [← List.singleton_append, firstFault?_append, alone,
            Option.some_or] at found
          cases found
          exact alone
      | none =>
          rw [← List.singleton_append, firstFault?_append, alone,
            Option.none_or] at found
          obtain ⟨front, later, back, rfl, clear, fault⟩ :=
            inductionHypothesis found
          refine ⟨symbol :: front, later, back, rfl, ?_, ?_⟩
          · rw [← List.singleton_append, firstFault?_append, alone,
              Option.none_or]
            exact clear
          · rw [List.reverse_cons, List.append_assoc]
            exact fault

/-- The fault of one symbol behind others. -/
theorem firstFault?_singleton (found : firstFault? seen [symbol] = some fault) :
    fault.Concerns symbol ∧ (Symbol.Readable symbol → symbol ∈ seen) := by
  rw [firstFault?] at found
  cases alone : ConfigFault.ofSymbol? symbol with
  | some other =>
      rw [alone] at found
      cases found
      refine ⟨ConfigFault.concerns_of_ofSymbol? alone, ?_⟩
      intro readable
      rw [ConfigFault.ofSymbol?_eq_none_iff.mpr readable] at alone
      cases alone
  | none =>
      rw [alone] at found
      by_cases known : symbol ∈ seen
      · rw [if_pos known] at found
        cases found
        exact ⟨⟨rfl, ConfigFault.ofSymbol?_eq_none_iff.mp alone⟩,
          fun _ => known⟩
      · rw [if_neg known] at found
        cases found

/-- The definition at the index has an empty symbol, one with a reserved
character, or the symbol of an earlier definition. -/
def AtFault (config : Config) (index : Nat) : Prop :=
  ∃ definition ∈ config.operators[index]?,
    definition.symbol = "" ∨
      (∃ ch ∈ definition.symbol.toList, Symbol.Reserved ch) ∨
      ∃ earlier ∈ config.operators.take index,
        earlier.symbol = definition.symbol

/-- The characters of each symbol are gone through, not all that there are. -/
instance (config : Config) (index : Nat) : Decidable (config.AtFault index) :=
  letI : ∀ symbol : String,
      Decidable (∃ ch ∈ symbol.toList, Symbol.Reserved ch) :=
    fun symbol => List.decidableBEx _ symbol.toList
  inferInstanceAs (Decidable (∃ definition ∈ config.operators[index]?, _))

/-- The definition at the index is the first one at fault. -/
structure FirstAtFault (config : Config) (index : Nat) : Prop where
  atFault : config.AtFault index
  first : ∀ earlier < index, ¬ config.AtFault earlier

variable {config : Config} {limit : UInt64} {before behind : List Definition}
  {definition : Definition} {index : Nat}

theorem valid_iff :
    config.Valid ↔
      (∀ definition ∈ config.operators, Symbol.Readable definition.symbol) ∧
        config.operators.Pairwise fun first second =>
          first.symbol ≠ second.symbol := by
  constructor
  · rintro ⟨readable, distinct⟩
    exact ⟨fun definition member =>
        ConfigFault.ofSymbol?_eq_none_iff.mp (readable definition member),
      List.pairwise_map.mp distinct⟩
  · rintro ⟨readable, distinct⟩
    exact ⟨fun definition member =>
        ConfigFault.ofSymbol?_eq_none_iff.mpr (readable definition member),
      List.pairwise_map.mpr distinct⟩

theorem Valid.not_atFault (valid : config.Valid) (index : Nat) :
    ¬ config.AtFault index := by
  rintro ⟨definition, stands, fault⟩
  obtain ⟨readable, distinct⟩ := valid_iff.mp valid
  obtain ⟨nonempty, unreserved⟩ :=
    readable definition (List.mem_of_getElem? stands)
  rcases fault with empty | ⟨ch, member, reserved⟩ | ⟨earlier, member, same⟩
  · exact nonempty empty
  · exact unreserved ch member reserved
  · rw [← List.take_append_drop index config.operators] at distinct
    have later : definition ∈ config.operators.drop index := by
      apply List.mem_of_getElem? (i := 0)
      rw [List.getElem?_drop, Nat.add_zero, stands]
    exact (List.pairwise_append.mp distinct).2.2 earlier member definition
      later same

/-- What stands behind a definition does not put it at fault. -/
theorem AtFault.of_append
    (atFault : (⟨limit, before ++ behind⟩ : Config).AtFault index)
    (inside : index < before.length) :
    (⟨limit, before⟩ : Config).AtFault index := by
  obtain ⟨definition, stands, fault⟩ := atFault
  refine ⟨definition, ?_, ?_⟩
  · rwa [List.getElem?_append_left inside] at stands
  · rwa [List.take_append_of_le_length (Nat.le_of_lt inside)] at fault

/-- A definition that is reported behind others without fault is the first one
at fault. -/
theorem firstAtFault_of_cut
    (clear : firstFault? [] (before.map Definition.symbol) = none)
    (found : firstFault? (before.map Definition.symbol).reverse
      [definition.symbol] = some fault) :
    (⟨limit, before ++ definition :: behind⟩ : Config).FirstAtFault
      before.length where
  atFault := by
    refine ⟨definition, ?_, ?_⟩
    · rw [List.getElem?_append_right (Nat.le_refl _), Nat.sub_self]
      rfl
    · rw [List.take_left]
      by_cases readable : Symbol.Readable definition.symbol
      · have seen := (firstFault?_singleton found).2 readable
        rw [List.mem_reverse] at seen
        exact .inr (.inr (List.mem_map.mp seen))
      · simp only [Symbol.Readable, not_and_or, not_forall, not_not] at readable
        rcases readable with empty | ⟨ch, member, reserved⟩
        · exact .inl empty
        · exact .inr (.inl ⟨ch, member, reserved⟩)
  first earlier inside atFault := by
    have valid : (⟨limit, before⟩ : Config).Valid :=
      fault?_eq_none_iff.mp clear
    exact valid.not_atFault earlier (atFault.of_append inside)

/-- The fault of a configuration is the one of the first definition at fault,
and the symbols up to there decide it. -/
theorem exists_firstAtFault (found : config.fault? = some fault) :
    ∃ index definition, config.FirstAtFault index ∧
      config.operators[index]? = some definition ∧
      fault.Concerns definition.symbol ∧
      ∀ other : Config,
        (other.operators.take (index + 1)).map Definition.symbol =
          (config.operators.take (index + 1)).map Definition.symbol →
        other.fault? = some fault := by
  obtain ⟨front, symbol, back, cut, clear, alone⟩ :=
    exists_cut_of_firstFault? found
  obtain ⟨before, rest, operators_eq, rfl, rest_eq⟩ :=
    List.map_eq_append_iff.mp cut
  obtain ⟨definition, behind, rfl, rfl, rfl⟩ := List.map_eq_cons_iff.mp rest_eq
  rw [List.append_nil] at alone
  obtain ⟨limit, operators⟩ := config
  subst operators_eq
  have taken : (before ++ definition :: behind).take (before.length + 1) =
      before ++ [definition] := by
    rw [List.take_append, List.take_of_length_le (Nat.le_succ _),
      Nat.add_sub_cancel_left]
    rfl
  refine ⟨before.length, definition, firstAtFault_of_cut clear alone, ?_,
    (firstFault?_singleton alone).1, ?_⟩
  · rw [List.getElem?_append_right (Nat.le_refl _), Nat.sub_self]
    rfl
  · intro other same
    rw [taken] at same
    have parts := List.take_append_drop (before.length + 1) other.operators
    rw [fault?, ← parts, List.map_append, same, firstFault?_append,
      List.map_append, firstFault?_append, clear, Option.none_or,
      List.append_nil, List.map_singleton, alone]
    rfl

theorem validate_of_fault? (found : config.fault? = some fault) :
    config.validate.run.value = .error (.invalid fault) := by
  rw [validate, found]
  rfl

/-- Validation accepts exactly the configurations whose symbols are readable and
pairwise different.  Of any other one it reports the first definition at fault:
that its symbol is empty, or else its first reserved character, or else that it
is repeated.  Whatever agrees with the configuration in the symbols up to that
definition fails in the same way. -/
theorem validate_reports_first_fault (config : Config) :
    (config.validate.run.value = .ok () ↔
      (∀ definition ∈ config.operators, Symbol.Readable definition.symbol) ∧
        config.operators.Pairwise fun first second =>
          first.symbol ≠ second.symbol) ∧
    (config.validate.run.value ≠ .ok () →
      ∃ index definition fault, config.FirstAtFault index ∧
        config.operators[index]? = some definition ∧
        fault.Concerns definition.symbol ∧
        ∀ other : Config,
          (other.operators.take (index + 1)).map Definition.symbol =
            (config.operators.take (index + 1)).map Definition.symbol →
          other.validate.run.value = .error (.invalid fault)) := by
  refine ⟨validate_eq_ok_iff.trans valid_iff, ?_⟩
  intro rejected
  cases found : config.fault? with
  | none =>
      exact absurd (validate_eq_ok_iff.mpr (fault?_eq_none_iff.mp found))
        rejected
  | some fault =>
      obtain ⟨index, definition, first, stands, concerns, decided⟩ :=
        exists_firstAtFault found
      exact ⟨index, definition, fault, first, stands, concerns,
        fun other same => validate_of_fault? (decided other same)⟩

theorem FirstAtFault.unique {first second : Nat}
    (left : config.FirstAtFault first) (right : config.FirstAtFault second) :
    first = second :=
  Nat.le_antisymm
    (Nat.le_of_not_lt fun before => left.first second before right.atFault)
    (Nat.le_of_not_lt fun before => right.first first before left.atFault)

theorem validate_reports_reserved_dot :
    let config : Config := ⟨9, [⟨"+", 10, .left, .add⟩,
      ⟨"a.1", 20, .right, .power⟩, ⟨"+", 10, .left, .add⟩]⟩
    let other : Config := ⟨7, [⟨"+", 30, .neither, .minimum⟩,
      ⟨"a.1", 30, .left, .maximum⟩, ⟨"", 10, .left, .add⟩]⟩
    config.FirstAtFault 1 ∧ config.validate.run.value ≠ .ok () ∧
      other.validate.run.value =
        .error (.invalid (.reservedCharacter "a.1" '.')) := by
  intro config other
  have first : config.FirstAtFault 1 :=
    ⟨by decide +kernel, by decide +kernel⟩
  have found : config.fault? = some (.reservedCharacter "a.1" '.') := by
    decide +kernel
  have reported := validate_of_fault? found
  have rejected : config.validate.run.value ≠ .ok () := by
    rw [reported]
    exact nofun
  obtain ⟨index, definition, fault, isFirst, _, _, decided⟩ :=
    (validate_reports_first_fault config).2 rejected
  obtain rfl := isFirst.unique first
  have same := decided config rfl
  rw [reported] at same
  cases same
  exact ⟨first, rejected, decided other rfl⟩

end Config

end Reckoner
