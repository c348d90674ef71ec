import Reckoner.Text.Blank
import Reckoner.Text.Bytes

/-!
# Operator symbols

Symbols are tried from the longest to the shortest, so that a symbol wins over
every symbol it begins with.  Symbols of one length come in the order of their
bytes.  The order is strict and total, which makes the arrangement of a set of
symbols unique.
-/

namespace Reckoner.Symbol

/-- Whether a character has a meaning of its own in expressions, so that a
symbol with it cannot be read everywhere. -/
def isReserved (ch : Char) : Bool :=
  ch.isDigit || Text.isBlank ch || ch = '.' || ch = '(' || ch = ')'

/-- The first symbol is tried before the second one. -/
def Before (first second : String) : Prop :=
  second.utf8ByteSize < first.utf8ByteSize ∨
    (first.utf8ByteSize = second.utf8ByteSize ∧
      Text.bytes first < Text.bytes second)

instance (first second : String) : Decidable (Before first second) :=
  inferInstanceAs (Decidable (_ ∨ _))

theorem Before.irrefl (symbol : String) : ¬ Before symbol symbol := by
  rintro (shorter | ⟨_, smaller⟩)
  · exact Nat.lt_irrefl _ shorter
  · exact List.lt_irrefl _ smaller

theorem Before.trans {first second third : String}
    (left : Before first second) (right : Before second third) :
    Before first third := by
  rcases left with shorter | ⟨equal, smaller⟩
  · rcases right with shorter' | ⟨equal', _⟩
    · exact .inl (Nat.lt_trans shorter' shorter)
    · exact .inl (equal' ▸ shorter)
  · rcases right with shorter' | ⟨equal', smaller'⟩
    · exact .inl (equal ▸ shorter')
    · exact .inr ⟨equal.trans equal', List.lt_trans smaller smaller'⟩

/-- Of two different symbols one is tried before the other. -/
theorem Before.of_ne {first second : String} (different : first ≠ second)
    (notBefore : ¬ Before first second) : Before second first := by
  simp only [Before, not_or, not_and] at notBefore
  obtain ⟨notShorter, notSmaller⟩ := notBefore
  rcases Nat.lt_or_eq_of_le (Nat.le_of_not_lt notShorter) with longer | equal
  · exact .inl longer
  · refine .inr ⟨equal.symm, ?_⟩
    apply Classical.byContradiction
    intro notGreater
    apply different
    apply Text.bytes_inj.mp
    exact List.le_antisymm (List.not_lt.mp notGreater)
      (List.not_lt.mp (notSmaller equal))

/-- How a symbol compares with another one for a sorting routine: the longer
symbol comes first, and of symbols of one length the one with smaller bytes. -/
def compare (first second : String) : Ordering :=
  (compareOfLessAndEq second.utf8ByteSize first.utf8ByteSize).then
    (compareOfLessAndEq (Text.bytes first) (Text.bytes second))

/-- Only equal symbols compare as equal. -/
theorem isLE_compare_iff {first second : String} :
    (compare first second).isLE = true ↔
      first = second ∨ Before first second := by
  have bytes : (compareOfLessAndEq (Text.bytes first)
      (Text.bytes second)).isLE = true ↔
        Text.bytes first = Text.bytes second ∨
          Text.bytes first < Text.bytes second := by
    unfold compareOfLessAndEq
    split
    · rename_i smaller
      simp [smaller]
    · rename_i notSmaller
      split <;> simp_all
  have sizes : compareOfLessAndEq second.utf8ByteSize first.utf8ByteSize = .eq ↔
      second.utf8ByteSize = first.utf8ByteSize :=
    compareOfLessAndEq_eq_eq Nat.le_refl Nat.not_le
  rw [compare, Ordering.isLE_then_iff_or, compareOfLessAndEq_eq_lt, sizes,
    bytes, Text.bytes_inj, Before]
  constructor
  · rintro (shorter | ⟨equal, same | smaller⟩)
    · exact .inr (.inl shorter)
    · exact .inl same
    · exact .inr (.inr ⟨equal.symm, smaller⟩)
  · rintro (rfl | shorter | ⟨equal, smaller⟩)
    · exact .inr ⟨rfl, .inl rfl⟩
    · exact .inl shorter
    · exact .inr ⟨equal.symm, .inr smaller⟩

/-- Symbols in the order in which they are tried. -/
def arrange (symbols : List String) : List String :=
  symbols.mergeSort fun first second => (compare first second).isLE

@[simp] theorem mem_arrange {symbol : String} {symbols : List String} :
    symbol ∈ arrange symbols ↔ symbol ∈ symbols :=
  List.mem_mergeSort

@[simp] theorem length_arrange (symbols : List String) :
    (arrange symbols).length = symbols.length :=
  List.length_mergeSort _

/-- Symbols that occur once are arranged strictly. -/
theorem pairwise_arrange {symbols : List String} (distinct : symbols.Nodup) :
    (arrange symbols).Pairwise Before := by
  have sorted : (arrange symbols).Pairwise fun first second =>
      (compare first second).isLE = true := by
    apply List.pairwise_mergeSort
    · intro first second third
      rw [isLE_compare_iff, isLE_compare_iff, isLE_compare_iff]
      rintro (rfl | before) (rfl | before')
      · exact .inl rfl
      · exact .inr before'
      · exact .inr before
      · exact .inr (before.trans before')
    · intro first second
      rw [Bool.or_eq_true, isLE_compare_iff, isLE_compare_iff]
      by_cases same : first = second
      · exact .inl (.inl same)
      · by_cases before : Before first second
        · exact .inl (.inr before)
        · exact .inr (.inr (Before.of_ne same before))
  have apart : (arrange symbols).Nodup :=
    (List.mergeSort_perm symbols _).nodup_iff.mpr distinct
  refine (sorted.and apart).imp ?_
  intro first second both
  rcases isLE_compare_iff.mp both.1 with same | before
  · exact absurd same both.2
  · exact before

theorem nodup_of_pairwise {symbols : List String}
    (ordered : symbols.Pairwise Before) : symbols.Nodup := by
  refine ordered.imp ?_
  rintro first _ before rfl
  exact before.irrefl _

/-- There is only one way to arrange a set of symbols. -/
theorem eq_of_pairwise {first second : List String}
    (firstOrdered : first.Pairwise Before)
    (secondOrdered : second.Pairwise Before)
    (same : ∀ symbol, symbol ∈ first ↔ symbol ∈ second) : first = second := by
  apply List.Perm.eq_of_pairwise _ firstOrdered secondOrdered
  · exact (List.perm_ext_iff_of_nodup (nodup_of_pairwise firstOrdered)
      (nodup_of_pairwise secondOrdered)).mpr same
  · intro left right _ _ before after
    exact absurd (before.trans after) (Before.irrefl left)

end Reckoner.Symbol
