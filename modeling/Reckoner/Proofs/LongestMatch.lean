import Reckoner.Proofs.Registration

/-!
# The longest symbol at the start of a text

A table takes the first symbol in its order that a text starts with, and because
of that order this is the longest one.  No two of the symbols that a text starts
with have the same length, so the longest one is the only one of its length.
Whether a text starts with a symbol can be read off the bytes of both, which is
why nothing behind the length of the longest symbol counts
(`Registry.matchAt?_insertAll_longest`).
-/

namespace Reckoner

namespace Text

variable {first second : List Char}

/-- The bytes of a text are those of its characters. -/
theorem bytes_eq_flatMap (text : String) :
    bytes text = text.toList.flatMap String.utf8EncodeChar := by
  rw [bytes, ← String.utf8Encode_toList, List.utf8Encode,
    List.toList_data_toByteArray]

/-- The first character of a text can be read off its bytes. -/
theorem eq_of_utf8EncodeChar_append {left right : Char}
    {behind rest : List UInt8}
    (same : String.utf8EncodeChar left ++ behind =
      String.utf8EncodeChar right ++ rest) : left = right := by
  have decoded (ch : Char) (after : List UInt8) :
      (String.utf8EncodeChar ch ++ after).toByteArray.utf8DecodeChar? 0 =
        some ch := by
    rw [List.toByteArray_append, ByteArray.utf8DecodeChar?_utf8EncodeChar_append]
  have read := decoded left behind
  rw [same, decoded] at read
  exact (Option.some.inj read).symm

theorem flatMap_utf8EncodeChar_prefix_iff :
    first.flatMap String.utf8EncodeChar <+:
        second.flatMap String.utf8EncodeChar ↔ first <+: second := by
  constructor
  · intro starts
    induction first generalizing second with
    | nil => exact List.nil_prefix
    | cons ch first inductionHypothesis =>
        rw [List.flatMap_cons] at starts
        cases second with
        | nil =>
            have empty := (List.append_eq_nil_iff.mp
              (List.prefix_nil.mp starts)).1
            have positive := ch.utf8Size_pos
            rw [← String.length_utf8EncodeChar, empty] at positive
            exact absurd positive (Nat.lt_irrefl 0)
        | cons other second =>
            rw [List.flatMap_cons] at starts
            obtain ⟨rest, whole⟩ := starts
            rw [List.append_assoc] at whole
            obtain rfl := eq_of_utf8EncodeChar_append whole
            have tails := List.append_cancel_left whole
            exact List.cons_prefix_cons.mpr
              ⟨rfl, inductionHypothesis ⟨rest, tails⟩⟩
  · rintro ⟨rest, rfl⟩
    rw [List.flatMap_append]
    exact List.prefix_append _ _

/-- A text starts with another one exactly if its bytes start with the bytes of
that one. -/
theorem bytes_prefix_iff {first second : String} :
    bytes first <+: bytes second ↔ first.toList <+: second.toList := by
  rw [bytes_eq_flatMap, bytes_eq_flatMap, flatMap_utf8EncodeChar_prefix_iff]

end Text

namespace Symbol

/-- The number of bytes of the longest symbol. -/
def reach (symbols : List String) : Nat :=
  (symbols.map String.utf8ByteSize).max?.getD 0

theorem utf8ByteSize_le_reach {symbol : String} {symbols : List String}
    (member : symbol ∈ symbols) : symbol.utf8ByteSize ≤ reach symbols :=
  List.le_max?_getD_of_mem (List.mem_map_of_mem member)

theorem utf8ByteSize_le_of_starts {first second : String}
    (starts : first.toList <+: second.toList) :
    first.utf8ByteSize ≤ second.utf8ByteSize := by
  rw [← Text.length_bytes, ← Text.length_bytes]
  exact (Text.bytes_prefix_iff.mpr starts).length_le

theorem utf8ByteSize_lt_of_starts {first second : String}
    (starts : first.toList <+: second.toList) (different : first ≠ second) :
    first.utf8ByteSize < second.utf8ByteSize := by
  apply Nat.lt_of_le_of_ne (utf8ByteSize_le_of_starts starts)
  intro equal
  rw [← Text.length_bytes, ← Text.length_bytes] at equal
  exact different (Text.bytes_inj.mp
    ((Text.bytes_prefix_iff.mpr starts).eq_of_length equal))

end Symbol

namespace Table

variable {table : Table} {symbol : String} {text : List Char}

/-- Every other symbol that the text starts with is shorter. -/
theorem matchAt?_eq_some_iff_longest :
    table.matchAt? text = some symbol ↔
      (symbol ∈ table.symbols ∧ symbol ≠ "" ∧ symbol.toList <+: text) ∧
        ∀ other ∈ table.symbols, other ≠ symbol → other.toList <+: text →
          other.utf8ByteSize < symbol.utf8ByteSize := by
  rw [matchAt?_eq_some_iff, startsWith_iff]
  constructor
  · rintro ⟨member, ⟨nonempty, starts⟩, longest⟩
    refine ⟨⟨member, nonempty, starts⟩, ?_⟩
    intro other otherMember different otherStarts
    apply Symbol.utf8ByteSize_lt_of_starts _ different
    by_cases empty : other = ""
    · exact empty ▸ List.nil_prefix
    · exact longest other otherMember (startsWith_iff.mpr ⟨empty, otherStarts⟩)
  · rintro ⟨⟨member, nonempty, starts⟩, longest⟩
    refine ⟨member, ⟨nonempty, starts⟩, ?_⟩
    intro other otherMember stands
    have otherStarts := (startsWith_iff.mp stands).2
    by_cases same : other = symbol
    · exact same ▸ List.prefix_refl other.toList
    · have shorter := longest other otherMember same otherStarts
      rcases List.prefix_or_prefix_of_prefix otherStarts starts with
        inside | outside
      · exact inside
      · have longer := Symbol.utf8ByteSize_le_of_starts outside
        omega

theorem matchAt?_eq_none_iff :
    table.matchAt? text = none ↔
      ∀ symbol ∈ table.symbols, symbol ≠ "" → ¬ symbol.toList <+: text := by
  rw [matchAt?, List.find?_eq_none]
  simp only [startsWith_iff, not_and]

/-- Texts with the same bytes up to the length of the longest symbol are matched
with the same symbol. -/
theorem matchAt?_congr {first second : String}
    (same : (Text.bytes first).take (Symbol.reach table.symbols) =
      (Text.bytes second).take (Symbol.reach table.symbols)) :
    table.matchAt? first.toList = table.matchAt? second.toList := by
  have starts_iff {symbol : String} (member : symbol ∈ table.symbols)
      (text : String) : symbol.toList <+: text.toList ↔
        Text.bytes symbol <+:
          (Text.bytes text).take (Symbol.reach table.symbols) := by
    rw [List.prefix_take_iff, Text.length_bytes, Text.bytes_prefix_iff]
    exact (and_iff_left (Symbol.utf8ByteSize_le_reach member)).symm
  rw [matchAt?, matchAt?, ← List.head?_filter, ← List.head?_filter]
  congr 1
  apply List.filter_congr
  intro symbol member
  rw [Bool.eq_iff_iff, startsWith_iff, startsWith_iff, starts_iff member,
    starts_iff member, same]

end Table

namespace Registry

/-- After any history of registrations a text is matched with the longest
symbol that it starts with, the empty symbol left out, and with none exactly if
there is no such symbol.  Only as many bytes of the text count as the longest
symbol has.  The table that is filled by the same history matches alike. -/
theorem matchAt?_insertAll_longest (history : List Entry) :
    let registry := empty.insertAll history
    (∀ (text symbol : String),
      registry.matchAt? text.toList = some symbol ↔
        (registry.contains symbol = true ∧ symbol ≠ "" ∧
          symbol.toList <+: text.toList) ∧
        ∀ other, registry.contains other = true → other ≠ symbol →
          other.toList <+: text.toList →
          other.utf8ByteSize < symbol.utf8ByteSize) ∧
    (∀ text : String, registry.matchAt? text.toList = none ↔
      ∀ symbol, registry.contains symbol = true → symbol ≠ "" →
        ¬ symbol.toList <+: text.toList) ∧
    (∀ first second : String,
      (Text.bytes first).take (Symbol.reach registry.symbols) =
        (Text.bytes second).take (Symbol.reach registry.symbols) →
      registry.matchAt? first.toList = registry.matchAt? second.toList) ∧
    registry.matchAt? = (Table.empty.insertAll history).matchAt? := by
  intro registry
  have sameView : registry.view = (Table.empty.insertAll history).view :=
    view_insertAll_empty history
  have symbols_eq : registry.symbols =
      (Table.empty.insertAll history).symbols := by
    rw [← symbols_view, sameView, Table.symbols_view]
  have contains_iff (symbol : String) : registry.contains symbol = true ↔
      symbol ∈ (Table.empty.insertAll history).symbols := by
    rw [← symbols_eq]
    exact ((inStep_empty.insertAll history).mem_order symbol).symm
  have matchAt?_eq : registry.matchAt? =
      (Table.empty.insertAll history).matchAt? := by
    rw [← matchAt?_view, sameView, Table.matchAt?_view]
  simp only [contains_iff, symbols_eq, matchAt?_eq]
  exact ⟨fun _ _ => Table.matchAt?_eq_some_iff_longest,
    fun _ => Table.matchAt?_eq_none_iff, fun _ _ => Table.matchAt?_congr, trivial⟩

theorem matchAt?_insertAll_of_cut_character :
    let minus := Arithmetic.subtract.operator 10 .left
    let registry := empty.insertAll
      [⟨"*", minus⟩, ⟨"", minus⟩, ⟨"\u2212", minus⟩, ⟨"**", minus⟩]
    (Text.bytes "*a\u2212").take (Symbol.reach registry.symbols) =
        (Text.bytes "*a\u2192").take (Symbol.reach registry.symbols) ∧
      registry.matchAt? "*a\u2212".toList =
        registry.matchAt? "*a\u2192".toList ∧
      registry.matchAt? "*a\u2192".toList = some "*" := by
  intro minus registry
  have symbols_eq : registry.symbols = ["\u2212", "**", "*", ""] := by
    rw [← symbols_view, view_insertAll_empty, Table.symbols_view]
    simp only [minus]
    decide +kernel
  have bytes_eq : (Text.bytes "*a\u2212").take (Symbol.reach registry.symbols) =
      (Text.bytes "*a\u2192").take (Symbol.reach registry.symbols) := by
    rw [symbols_eq]
    decide +kernel
  obtain ⟨_, _, congr, _⟩ := matchAt?_insertAll_longest
    [⟨"*", minus⟩, ⟨"", minus⟩, ⟨"\u2212", minus⟩, ⟨"**", minus⟩]
  refine ⟨bytes_eq, congr _ _ bytes_eq, ?_⟩
  rw [matchAt?, symbols_eq]
  decide +kernel

end Registry

end Reckoner
