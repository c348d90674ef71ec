import Reckoner.Config
import Reckoner.Proofs.Lexemes

/-!
# Reading back the text of a token

The text of a token is read as that token wherever the character behind it does
not continue it.  For a symbol this needs a table whose symbols are valid in a
configuration: no symbol then reaches across a blank, a digit or a parenthesis,
so the longest one at a place is the one that was written there.
-/

namespace Reckoner

namespace Symbol

theorem not_before_of_prefix {first second : String}
    (starts : first.toList <+: second.toList) : ¬ Before first second := by
  obtain ⟨rest, equality⟩ := starts
  have lengths := congrArg Text.byteLength equality
  rw [Text.byteLength_append, ← Text.utf8ByteSize_eq_byteLength,
    ← Text.utf8ByteSize_eq_byteLength] at lengths
  intro before
  rcases before with shorter | ⟨equal, smaller⟩
  · omega
  · have restEmpty : Text.byteLength rest = 0 := by omega
    cases rest with
    | nil =>
        rw [List.append_nil] at equality
        rw [String.toList_inj.mp equality] at smaller
        exact List.lt_irrefl _ smaller
    | cons ch rest =>
        have positive := ch.utf8Size_pos
        rw [Text.byteLength] at restEmpty
        omega

end Symbol

namespace Table

variable {table : Table} {text : List Char} {symbol : String}

theorem symbols_ordered (table : Table) :
    table.symbols.Pairwise Symbol.Before :=
  List.pairwise_map.mpr table.ordered

theorem startsWith_iff :
    startsWith text symbol = true ↔ symbol ≠ "" ∧ symbol.toList <+: text := by
  simp [startsWith]

theorem prefix_of_matchAt?_eq_some {other : String}
    (found : table.matchAt? text = some symbol)
    (member : other ∈ table.symbols)
    (starts : startsWith text other = true) :
    other.toList <+: symbol.toList := by
  obtain ⟨symbolStarts, front, back, equality, noneBefore⟩ :=
    List.find?_eq_some_iff_append.mp found
  have ordered := table.symbols_ordered
  rw [equality] at member ordered
  rcases List.mem_append.mp member with earlier | later
  · exact absurd starts (by simpa using noneBefore other earlier)
  · rcases List.mem_cons.mp later with rfl | later
    · exact List.prefix_refl _
    · have before : Symbol.Before symbol other :=
        (List.pairwise_cons.mp (List.pairwise_append.mp ordered).2.1).1
          other later
      rcases List.prefix_or_prefix_of_prefix (startsWith_iff.mp starts).2
        (startsWith_iff.mp symbolStarts).2 with shorter | longer
      · exact shorter
      · exact absurd before (Symbol.not_before_of_prefix longer)

/-- The symbol that a text is matched with is the longest one that the text
starts with. -/
theorem matchAt?_eq_some_iff :
    table.matchAt? text = some symbol ↔
      symbol ∈ table.symbols ∧ startsWith text symbol = true ∧
        ∀ other ∈ table.symbols, startsWith text other = true →
          other.toList <+: symbol.toList := by
  constructor
  · intro found
    exact ⟨List.mem_of_find?_eq_some found, List.find?_some found,
      fun other member starts =>
        prefix_of_matchAt?_eq_some found member starts⟩
  · intro longest
    obtain ⟨member, starts, covers⟩ := longest
    obtain ⟨found, success⟩ := Option.isSome_iff_exists.mp
      (List.find?_isSome.mpr ⟨symbol, member, starts⟩)
    have shorter := covers found (List.mem_of_find?_eq_some success)
      (List.find?_some success)
    have longer := prefix_of_matchAt?_eq_some success member starts
    have same : found = symbol := String.toList_inj.mp
      (shorter.eq_of_length_le longer.length_le)
    rw [matchAt?, success, same]

/-- Every symbol could stand in a configuration. -/
def Validated (table : Table) : Prop :=
  ∀ symbol ∈ table.symbols, ConfigFault.ofSymbol? symbol = none

instance (table : Table) : Decidable table.Validated :=
  inferInstanceAs (Decidable (∀ symbol ∈ table.symbols,
    ConfigFault.ofSymbol? symbol = none))

theorem Validated.ne_empty (validated : table.Validated)
    (member : symbol ∈ table.symbols) : symbol ≠ "" := by
  intro empty
  simpa [ConfigFault.ofSymbol?, empty] using validated symbol member

theorem Validated.isReserved_eq_false (validated : table.Validated)
    (member : symbol ∈ table.symbols) {ch : Char}
    (inside : ch ∈ symbol.toList) : Symbol.isReserved ch = false := by
  have clear := validated symbol member
  simp only [ConfigFault.ofSymbol?, validated.ne_empty member, if_false,
    Option.map_eq_none_iff, List.find?_eq_none] at clear
  exact Bool.eq_false_iff.mpr (clear ch inside)

/-- A symbol in front of a reserved character is matched whole: no symbol
reaches beyond it. -/
theorem Validated.matchAt?_append (validated : table.Validated)
    (member : symbol ∈ table.symbols) {rest : List Char}
    (stops : ∀ ch ∈ rest.head?, Symbol.isReserved ch = true) :
    table.matchAt? (symbol.toList ++ rest) = some symbol := by
  refine matchAt?_eq_some_iff.mpr ⟨member, startsWith_iff.mpr
    ⟨validated.ne_empty member, List.prefix_append _ _⟩, ?_⟩
  intro other otherMember otherStarts
  obtain ⟨_, shared⟩ := startsWith_iff.mp otherStarts
  rcases List.prefix_or_prefix_of_prefix shared (List.prefix_append _ _)
    with shorter | ⟨beyond, equality⟩
  · exact shorter
  · rw [← equality, List.prefix_append_right_inj] at shared
    cases beyond with
    | nil =>
        rw [List.append_nil] at equality
        exact equality ▸ List.prefix_refl _
    | cons ch beyond =>
        obtain ⟨more, rfl⟩ := shared
        have reserved := stops ch (by simp)
        have inside : ch ∈ other.toList := by simp [← equality]
        have clear := validated.isReserved_eq_false otherMember inside
        rw [reserved] at clear
        cases clear

end Table

namespace Token

variable {table : Table} {token : Token} {rest : List Char}

/-- The characters behind a token do not continue it. -/
def Apart (rest : List Char) : Token → Prop
  | .number _ => ∀ ch ∈ rest.head?, continuesNumber ch = false
  | .operator _ => ∀ ch ∈ rest.head?, Symbol.isReserved ch = true
  | _ => True

theorem takeWhile_append_of_head? {front back : List Char} {p : Char → Bool}
    (inside : ∀ ch ∈ front, p ch = true)
    (stops : ∀ ch ∈ back.head?, p ch = false) :
    (front ++ back).takeWhile p = front := by
  rw [List.takeWhile_append_of_pos inside]
  cases back with
  | nil => simp
  | cons ch back => simp [stops ch rfl]

theorem IsNumber.continues {text : String} (number : IsNumber text) :
    ∀ ch ∈ text.toList, continuesNumber ch = true := by
  obtain ⟨digit, rest, characters, isDigit, continues⟩ := number
  intro ch member
  rw [characters] at member
  rcases List.mem_cons.mp member with rfl | member
  · simp [continuesNumber, isDigit]
  · exact continues ch member

theorem Legible.exists_text_eq_cons (legible : token.Legible table)
    (validated : table.Validated) :
    ∃ ch tail, token.text.toList = ch :: tail ∧ Text.isBlank ch = false := by
  cases token with
  | number text =>
      obtain ⟨digit, tail, equality, isDigit, _⟩ := legible
      exact ⟨digit, tail, equality,
        Text.isBlank_eq_false_of_isDigit isDigit⟩
  | operator symbol =>
      obtain ⟨nonempty, member⟩ := legible
      cases characters : symbol.toList with
      | nil => exact absurd (String.toList_eq_nil_iff.mp characters) nonempty
      | cons ch tail =>
          have inside : ch ∈ symbol.toList := by simp [characters]
          have clear := validated.isReserved_eq_false member inside
          simp only [Symbol.isReserved, Bool.or_eq_false_iff] at clear
          exact ⟨ch, tail, characters, clear.1.1.1.2⟩
  | leftParen => exact ⟨'(', [], rfl, by decide⟩
  | rightParen => exact ⟨')', [], rfl, by decide⟩
  | endOfText | illegal => exact legible.elim

/-- The text of a token is read as that token. -/
theorem Legible.first_append (legible : token.Legible table)
    (validated : table.Validated) (apart : token.Apart rest) :
    first table (token.text.toList ++ rest) = token := by
  cases token with
  | number text =>
      have whole := takeWhile_append_of_head? (IsNumber.continues legible) apart
      obtain ⟨digit, tail, equality, isDigit, _⟩ := legible
      rw [equality] at whole
      simp only [Token.text, equality, List.cons_append, first, isDigit,
        if_true] at whole ⊢
      rw [whole, ← equality, String.ofList_toList]
  | operator symbol =>
      obtain ⟨nonempty, member⟩ := legible
      have found := validated.matchAt?_append member apart
      cases characters : symbol.toList with
      | nil => exact absurd (String.toList_eq_nil_iff.mp characters) nonempty
      | cons ch tail =>
          have inside : ch ∈ symbol.toList := by simp [characters]
          have clear := validated.isReserved_eq_false member inside
          simp only [Symbol.isReserved, Bool.or_eq_false_iff,
            decide_eq_false_iff_not] at clear
          obtain ⟨⟨⟨⟨notDigit, _⟩, _⟩, notLeft⟩, notRight⟩ := clear
          rw [characters] at found
          simp only [Token.text, characters, List.cons_append, first, notDigit,
            notLeft, notRight, Bool.false_eq_true, if_false] at found ⊢
          rw [found]
  | leftParen => rfl
  | rightParen => rfl
  | endOfText | illegal => exact legible.elim

end Token

namespace Cursor

variable {table : Table}

theorem token_next_congr {first second : Cursor}
    (same : first.rest = second.rest) :
    (first.next table).1.token = (second.next table).1.token := by
  simp only [next, skipBlanks, same]

theorem rest_next_congr {first second : Cursor}
    (same : first.rest = second.rest) :
    (first.next table).2.rest = (second.next table).2.rest := by
  simp only [next, skipBlanks, advance, same]

/-- The tokens from a cursor on do not depend on its position. -/
theorem map_token_lexemes_congr {first second : Cursor}
    (same : first.rest = second.rest) :
    (first.lexemes table).map Lexeme.token =
      (second.lexemes table).map Lexeme.token := by
  fun_induction lexemes table first generalizing second with
  | case1 first last =>
      rw [token_next_congr same] at last
      rw [lexemes, if_pos last, List.map_singleton, List.map_singleton,
        token_next_congr same]
  | case2 first more rest =>
      rw [token_next_congr same] at more
      rw [lexemes.eq_def table second, if_neg more, List.map_cons, List.map_cons,
        token_next_congr same, rest (rest_next_congr same)]

end Cursor

namespace Token

variable {table : Table} {token : Token} {rest : List Char}

/-- The tokens of a text, without the places where they stand. -/
def ofChars (table : Table) (text : List Char) : List Token :=
  ((⟨0, text⟩ : Cursor).lexemes table).map Lexeme.token

theorem ofChars_nil (table : Table) : ofChars table [] = [.endOfText] := by
  have last : ((⟨0, []⟩ : Cursor).next table).1.token.isLast = true := rfl
  rw [ofChars, Cursor.lexemes, if_pos last]
  rfl

theorem ofChars_blank {ch : Char} (blank : Text.isBlank ch = true) :
    ofChars table (ch :: rest) = ofChars table rest := by
  have same : (⟨0, ch :: rest⟩ : Cursor).next table =
      (⟨ch.utf8Size, rest⟩ : Cursor).next table := by
    simp [Cursor.next, Cursor.skipBlanks, blank, Text.byteLength]
  rw [ofChars, Cursor.lexemes, same, ← Cursor.lexemes]
  exact Cursor.map_token_lexemes_congr rfl

/-- Reading the text of a token leaves the tokens behind it as they are. -/
theorem ofChars_append_of_first {ch : Char} {tail : List Char}
    (characters : token.text.toList = ch :: tail)
    (visible : Text.isBlank ch = false) (more : token.isLast = false)
    (read : first table (token.text.toList ++ rest) = token) :
    ofChars table (token.text.toList ++ rest) =
      token :: ofChars table rest := by
  have skipped : (⟨0, token.text.toList ++ rest⟩ : Cursor).skipBlanks =
      ⟨0, token.text.toList ++ rest⟩ := by
    simp [Cursor.skipBlanks, characters, visible, Text.byteLength]
  have next : (⟨0, token.text.toList ++ rest⟩ : Cursor).next table =
      (⟨token, 0⟩, ⟨token.byteLength, rest⟩) := by
    simp [Cursor.next, skipped, read, Cursor.advance]
  rw [ofChars, Cursor.lexemes, next, if_neg (by simp [more]), List.map_cons]
  exact congrArg (token :: ·) (Cursor.map_token_lexemes_congr rfl)

theorem Legible.isLast_eq_false (legible : token.Legible table) :
    token.isLast = false := by
  cases token with
  | endOfText | illegal => exact legible.elim
  | number | operator | leftParen | rightParen => rfl

theorem Legible.ofChars_append (legible : token.Legible table)
    (validated : table.Validated) (apart : token.Apart rest) :
    ofChars table (token.text.toList ++ rest) =
      token :: ofChars table rest := by
  obtain ⟨ch, tail, characters, visible⟩ :=
    legible.exists_text_eq_cons validated
  exact ofChars_append_of_first characters visible legible.isLast_eq_false
    (legible.first_append validated apart)

theorem ofChars_leftParen :
    ofChars table ('(' :: rest) = .leftParen :: ofChars table rest := by
  have read : first table (leftParen.text.toList ++ rest) = .leftParen := rfl
  exact ofChars_append_of_first rfl (by decide) rfl read

theorem ofChars_rightParen :
    ofChars table (')' :: rest) = .rightParen :: ofChars table rest := by
  have read : first table (rightParen.text.toList ++ rest) = .rightParen := rfl
  exact ofChars_append_of_first rfl (by decide) rfl read

end Token

end Reckoner
