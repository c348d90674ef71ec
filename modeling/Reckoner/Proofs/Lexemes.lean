import Reckoner.Token.Cursor

/-!
# The tokens of a text

The last token of a text is its end or a character that starts no token, and
every token before it is a number, a parenthesis or a registered symbol
(`Token.Legible`).  There are no more tokens before the last one than
characters.
-/

namespace Reckoner

/-- A digit and any run of digits and dots behind it. -/
def Token.IsNumber (text : String) : Prop :=
  ∃ digit rest, text.toList = digit :: rest ∧ digit.isDigit = true ∧
    ∀ ch ∈ rest, continuesNumber ch = true

/-- A token that can stand in a text before the last one. -/
def Token.Legible (table : Table) : Token → Prop
  | .number text => IsNumber text
  | .operator symbol => symbol ≠ "" ∧ symbol ∈ table.symbols
  | .leftParen => True
  | .rightParen => True
  | .endOfText => False
  | .illegal _ => False

theorem Table.mem_symbols_iff {table : Table} {symbol : String} :
    symbol ∈ table.symbols ↔ ∃ operator, table.get? symbol = some operator := by
  constructor
  · intro member
    obtain ⟨entry, entryMember, equality⟩ := List.mem_map.mp member
    have found : (table.entries.find? fun candidate =>
        candidate.symbol = symbol).isSome :=
      List.find?_isSome.mpr ⟨entry, entryMember, by simp [equality]⟩
    obtain ⟨first, foundFirst⟩ := Option.isSome_iff_exists.mp found
    exact ⟨first.operator, by simp [get?, foundFirst]⟩
  · rintro ⟨operator, registered⟩
    obtain ⟨entry, found, _⟩ := Option.map_eq_some_iff.mp registered
    have equality : entry.symbol = symbol := by
      simpa using List.find?_some found
    exact List.mem_map.mpr ⟨entry, List.mem_of_find?_eq_some found, equality⟩

namespace Cursor

variable {table : Table}

theorem legible_first {text : List Char}
    (more : (Token.first table text).isLast = false) :
    (Token.first table text).Legible table := by
  match text with
  | [] => simp [Token.first, Token.isLast] at more
  | ch :: rest =>
      simp only [Token.first] at more ⊢
      split
      · rename_i digit
        have continues : Token.continuesNumber ch = true := by
          simp [Token.continuesNumber, digit]
        exact ⟨ch, rest.takeWhile Token.continuesNumber,
          by simp [continues], digit,
          List.all_eq_true.mp List.all_takeWhile⟩
      · split
        · trivial
        · split
          · trivial
          · split
            · rename_i symbol found
              have member := List.mem_of_find?_eq_some found
              have starts := List.find?_some found
              simp only [Table.startsWith, ne_eq, Bool.and_eq_true,
                decide_eq_true_eq] at starts
              exact ⟨starts.1, member⟩
            · simp_all [Token.isLast]

/-- The tokens from a cursor on end with the first one behind which no other can
be read. -/
theorem exists_lexemes_eq (table : Table) (cursor : Cursor) :
    ∃ front last, cursor.lexemes table = front ++ [last] ∧
      last.token.isLast = true ∧ front.length ≤ cursor.rest.length ∧
      ∀ lexeme ∈ front, lexeme.token.Legible table := by
  fun_induction lexemes table cursor with
  | case1 cursor last => exact ⟨[], _, rfl, last, Nat.zero_le _, by simp⟩
  | case2 cursor more rest =>
      obtain ⟨front, last, equality, lastIsLast, short, legible⟩ := rest
      have more := Bool.eq_false_iff.mpr more
      have shorter := next_rest_length_lt more
      refine ⟨(cursor.next table).1 :: front, last, ?_, lastIsLast, ?_, ?_⟩
      · rw [equality, List.cons_append]
      · rw [List.length_cons]
        omega
      · intro lexeme member
        rcases List.mem_cons.mp member with equality | tail
        · exact equality ▸ legible_first more
        · exact legible lexeme tail

theorem ne_endOfText_of_lexemes {cursor : Cursor} {front : List Lexeme}
    {last : Lexeme} (lexed : cursor.lexemes table = front ++ [last]) :
    ∀ lexeme ∈ front, lexeme.token ≠ .endOfText := by
  obtain ⟨others, _, equality, _, _, legible⟩ := exists_lexemes_eq table cursor
  obtain ⟨rfl, _⟩ := List.append_inj' (lexed.symm.trans equality) rfl
  intro lexeme member isEnd
  have standing := legible lexeme member
  rw [isEnd] at standing
  exact standing

theorem next_rest_suffix (table : Table) (cursor : Cursor) :
    (cursor.next table).2.rest <:+ cursor.rest :=
  (List.drop_suffix _ _).trans (List.dropWhile_suffix Text.isBlank)

/-- Tables that read the same token wherever a token can start read the same
tokens. -/
theorem lexemes_congr_of_next {first second : Table} {cursor : Cursor}
    (same : ∀ later : Cursor, later.rest <:+ cursor.rest →
      later.next first = later.next second) :
    cursor.lexemes first = cursor.lexemes second := by
  have here := same cursor (List.suffix_refl _)
  fun_induction lexemes first cursor with
  | case1 cursor last =>
      rw [here] at last
      rw [lexemes, if_pos last, here]
  | case2 cursor more inductionHypothesis =>
      have behind := next_rest_suffix first cursor
      rw [inductionHypothesis (fun later within =>
        same later (within.trans behind)) (same _ behind)]
      rw [here] at more
      rw [lexemes.eq_def second cursor, if_neg more, here]

/-- Tables with the same symbols read the same tokens. -/
theorem lexemes_congr {first second : Table}
    (same : first.symbols = second.symbols) (cursor : Cursor) :
    cursor.lexemes first = cursor.lexemes second := by
  apply lexemes_congr_of_next
  intro later _
  simp only [next, Token.first, Table.matchAt?, same]

end Cursor

end Reckoner
