import Mathlib.Data.List.Chain
import Reckoner.Proofs.Scanning

/-!
# Tokens written with blanks between them

Any sequence of numbers, symbols and parentheses can be written so that it is
read back: with a table of valid symbols, blanks are needed only between two
numbers and between two symbols.
-/

namespace Reckoner

namespace Token

variable {table : Table} {first second : Token} {rest : List Char}

/-- Whether two tokens could be read as another one with no blank between
them. -/
def merges : Token → Token → Bool
  | .number _, .number _ => true
  | .operator _, .operator _ => true
  | _, _ => false

instance (text : String) : Decidable (IsNumber text) :=
  decidable_of_iff
    (text.toList.head?.any Char.isDigit ∧
      text.toList.tail.all continuesNumber)
    (by cases characters : text.toList <;> simp [IsNumber, characters])

instance : DecidablePred (Legible table)
  | .number text => inferInstanceAs (Decidable (IsNumber text))
  | .operator symbol =>
      inferInstanceAs (Decidable (symbol ≠ "" ∧ symbol ∈ table.symbols))
  | .leftParen | .rightParen => .isTrue trivial
  | .endOfText | .illegal _ => .isFalse False.elim

theorem continuesNumber_eq_false_of_not_isReserved {ch : Char}
    (free : Symbol.isReserved ch = false) : continuesNumber ch = false := by
  simp only [Symbol.isReserved, Bool.or_eq_false_iff] at free
  simp [continuesNumber, free.1.1.1.1, free.1.1.2]

theorem apart_of_isBlank
    (blank : ∀ ch ∈ rest.head?, Text.isBlank ch = true) :
    first.Apart rest := by
  cases first with
  | number =>
      intro ch starts
      exact continuesNumber_eq_false_of_isBlank (blank ch starts)
  | operator =>
      intro ch starts
      simp [Symbol.isReserved, blank ch starts]
  | leftParen | rightParen | endOfText | illegal => trivial

/-- Tokens of different kinds need no blank between them. -/
theorem Legible.apart_of_merges_eq_false (legible : second.Legible table)
    (validated : table.Validated) (different : first.merges second = false) :
    first.Apart (second.text.toList ++ rest) := by
  obtain ⟨head, tail, characters, _⟩ := legible.exists_text_eq_cons validated
  rw [characters]
  cases first with
  | leftParen | rightParen | endOfText | illegal => trivial
  | number =>
      rintro ch ⟨⟩
      cases second with
      | number => cases different
      | operator symbol =>
          have inside : head ∈ symbol.toList := by
            rw [show symbol.toList = head :: tail from characters]
            exact List.mem_cons_self
          exact continuesNumber_eq_false_of_not_isReserved
            (validated.isReserved_eq_false legible.2 inside)
      | leftParen | rightParen =>
          cases characters
          decide
      | endOfText | illegal => exact legible.elim
  | operator =>
      rintro ch ⟨⟩
      cases second with
      | operator => cases different
      | number =>
          obtain ⟨digit, _, equality, isDigit, _⟩ := legible
          cases characters.symm.trans equality
          simp [Symbol.isReserved, isDigit]
      | leftParen | rightParen =>
          cases characters
          decide
      | endOfText | illegal => exact legible.elim

theorem ofChars_blanks {blanks : List Char}
    (blank : ∀ ch ∈ blanks, Text.isBlank ch = true) :
    ofChars table (blanks ++ rest) = ofChars table rest := by
  induction blanks with
  | nil => rfl
  | cons ch blanks inductionHypothesis =>
      obtain ⟨head, tail⟩ := List.forall_mem_cons.mp blank
      rw [List.cons_append, ofChars_blank head, inductionHypothesis tail]

/-- Blanks alone are no token. -/
theorem ofChars_of_blank {blanks : List Char}
    (blank : ∀ ch ∈ blanks, Text.isBlank ch = true) :
    ofChars table blanks = [.endOfText] := by
  rw [ofChars, Cursor.lexemes_of_blank blank, List.map_singleton]

end Token

namespace Piece

variable {table : Table}

/-- The pieces have a blank between them if they need one. -/
def Separated (first second : Piece) : Prop :=
  first.token.merges second.token = true → second.blanks ≠ []

instance : DecidableRel Separated := fun first second =>
  inferInstanceAs (Decidable (first.token.merges second.token = true → _))

/-- The piece can stand in a text: blanks and a token of the table. -/
def Legible (table : Table) (piece : Piece) : Prop :=
  (∀ ch ∈ piece.blanks, Text.isBlank ch = true) ∧ piece.token.Legible table

instance (piece : Piece) : Decidable (piece.Legible table) :=
  decidable_of_iff
    (piece.blanks.all Text.isBlank ∧ piece.token.Legible table)
    (by simp [Legible])

theorem textOf_cons (piece : Piece) (pieces : List Piece)
    (ending : List Char) :
    textOf (piece :: pieces) ++ ending =
      piece.blanks ++ (piece.token.text.toList ++
        (textOf pieces ++ ending)) := by
  simp [textOf, text]

theorem Separated.apart {first second : Piece}
    (separated : first.Separated second) (legible : second.Legible table)
    (validated : table.Validated) (rest : List Char) :
    first.token.Apart
      (second.blanks ++ (second.token.text.toList ++ rest)) := by
  obtain ⟨blank, token⟩ := legible
  cases blanks : second.blanks with
  | nil =>
      have different : first.token.merges second.token = false :=
        Bool.eq_false_iff.mpr fun merge => separated merge blanks
      exact token.apart_of_merges_eq_false validated different
  | cons ch more =>
      apply Token.apart_of_isBlank
      rintro head ⟨⟩
      exact blank ch (by simp [blanks])

/-- Pieces that are written one behind the other are read back. -/
theorem ofChars_textOf (validated : table.Validated) {pieces : List Piece}
    {ending : List Char} (legible : ∀ piece ∈ pieces, piece.Legible table)
    (separated : pieces.IsChain Separated)
    (blank : ∀ ch ∈ ending, Text.isBlank ch = true) :
    Token.ofChars table (textOf pieces ++ ending) =
      pieces.map Piece.token ++ [.endOfText] := by
  induction pieces with
  | nil => exact Token.ofChars_of_blank blank
  | cons piece pieces inductionHypothesis =>
      obtain ⟨⟨blanks, token⟩, others⟩ := List.forall_mem_cons.mp legible
      have apart : piece.token.Apart (textOf pieces ++ ending) := by
        cases pieces with
        | nil =>
            apply Token.apart_of_isBlank
            intro ch starts
            exact blank ch (List.mem_of_mem_head? starts)
        | cons second pieces =>
            rw [textOf_cons]
            exact (List.isChain_cons_cons.mp separated).1.apart
              (others second List.mem_cons_self) validated _
      rw [textOf_cons, Token.ofChars_blanks blanks,
        token.ofChars_append validated apart,
        inductionHypothesis others separated.tail]
      rfl

end Piece

/-- Over a table of valid symbols, tokens are read back from any text in which
they stand in order, with any blanks around them, if there is one at least
between two numbers and between two symbols. -/
theorem Lexeme.ofText_textOf {table : Table} (validated : table.Validated)
    {pieces : List Piece} {ending : List Char}
    (legible : ∀ piece ∈ pieces, piece.Legible table)
    (separated : pieces.IsChain Piece.Separated)
    (blank : ∀ ch ∈ ending, Text.isBlank ch = true) :
    (ofText table (String.ofList (Piece.textOf pieces ++ ending))).map
      Lexeme.token = pieces.map Piece.token ++ [.endOfText] := by
  rw [ofText, Cursor.start, String.toList_ofList]
  exact Piece.ofChars_textOf validated legible separated blank

theorem Lexeme.ofText_textOf_of_powers :
    (ofText .scientific "2* **\u00a0-3.5.1\t4)( ").map Lexeme.token =
      [.number "2", .operator "*", .operator "**", .operator "-",
        .number "3.5.1", .number "4", .rightParen, .leftParen, .endOfText] := by
  let pieces : List Piece :=
    [⟨[], .number "2"⟩, ⟨[], .operator "*"⟩, ⟨[' '], .operator "**"⟩,
      ⟨['\u00a0'], .operator "-"⟩, ⟨[], .number "3.5.1"⟩,
      ⟨['\t'], .number "4"⟩, ⟨[], .rightParen⟩, ⟨[], .leftParen⟩]
  have legible : ∀ piece ∈ pieces, piece.Legible .scientific := by decide
  have separated : pieces.IsChain Piece.Separated := by decide
  have written : String.ofList (Piece.textOf pieces ++ [' ']) =
      "2* **\u00a0-3.5.1\t4)( " := by decide
  have blank : ∀ ch ∈ [' '], Text.isBlank ch = true :=
    List.forall_mem_singleton.mpr (by decide)
  rw [← written]
  exact ofText_textOf (by decide) legible separated blank

end Reckoner
