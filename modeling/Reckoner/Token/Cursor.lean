import Reckoner.Operator.Table
import Reckoner.Text.Blank
import Reckoner.Token

/-!
# Reading tokens

A cursor stands at a byte position in a text and sees the rest of it.  Blanks
are skipped; then a digit starts a number, a parenthesis is a token of its own,
and anything else is read as the longest symbol of a table.

`next_rest_length_lt` says that every token but a last one takes characters
away, which is why the tokens of a text can be listed.
-/

namespace Reckoner

/-- A place in a text, with the characters that follow it. -/
structure Cursor where
  position : Nat
  rest : List Char
  deriving Repr, DecidableEq

/-- A token and the place where its text starts. -/
structure Lexeme where
  token : Token
  position : Nat
  deriving Repr, DecidableEq

/-- The place behind a token. -/
def Lexeme.stop (lexeme : Lexeme) : Nat :=
  lexeme.position + lexeme.token.byteLength

/-- Whether a number can go on with a character. -/
def Token.continuesNumber (ch : Char) : Bool :=
  ch.isDigit || ch = '.'

/-- The token that a text starts with, when no blank stands before it. -/
def Token.first (table : Table) (text : List Char) : Token :=
  match text with
  | [] => .endOfText
  | ch :: _ =>
      if ch.isDigit then
        .number (String.ofList (text.takeWhile continuesNumber))
      else if ch = '(' then .leftParen
      else if ch = ')' then .rightParen
      else match table.matchAt? text with
        | some symbol => .operator symbol
        | none => .illegal ch

namespace Cursor

/-- The start of a text. -/
def start (text : String) : Cursor := ⟨0, text.toList⟩

/-- The place behind all blanks at a cursor. -/
def skipBlanks (cursor : Cursor) : Cursor where
  position :=
    cursor.position + Text.byteLength (cursor.rest.takeWhile Text.isBlank)
  rest := cursor.rest.dropWhile Text.isBlank

/-- The place behind a token that starts at the cursor. -/
def advance (cursor : Cursor) (token : Token) : Cursor where
  position := cursor.position + token.byteLength
  rest := cursor.rest.drop token.text.toList.length

/-- The token behind the blanks at a cursor, where it starts, and the place
behind it. -/
def next (table : Table) (cursor : Cursor) : Lexeme × Cursor :=
  let start := cursor.skipBlanks
  let token := Token.first table start.rest
  (⟨token, start.position⟩, start.advance token)

theorem skipBlanks_rest_length_le (cursor : Cursor) :
    cursor.skipBlanks.rest.length ≤ cursor.rest.length := by
  have parts : (cursor.rest.takeWhile Text.isBlank).length +
      (cursor.rest.dropWhile Text.isBlank).length = cursor.rest.length := by
    rw [← List.length_append, List.takeWhile_append_dropWhile]
  have dropped : cursor.skipBlanks.rest =
      cursor.rest.dropWhile Text.isBlank := rfl
  rw [dropped]
  omega

/-- Every token but a last one is the beginning of a text that is not empty. -/
theorem first_text_ne_nil {table : Table} {text : List Char}
    (more : (Token.first table text).isLast = false) :
    text ≠ [] ∧ (Token.first table text).text.toList ≠ [] := by
  cases text with
  | nil => simp [Token.first, Token.isLast] at more
  | cons ch rest =>
      refine ⟨List.cons_ne_nil _ _, ?_⟩
      simp only [Token.first] at more ⊢
      split
      · rename_i digit
        simp [Token.text, Token.continuesNumber, digit]
      · split
        · decide
        · split
          · decide
          · split
            · rename_i symbol found
              have starts := List.find?_some found
              simp only [Table.startsWith, ne_eq, Bool.and_eq_true,
                decide_eq_true_eq] at starts
              simpa [Token.text] using starts.1
            · rename_i missing
              simp_all [Token.isLast]

theorem next_rest_length_lt {table : Table} {cursor : Cursor}
    (more : (cursor.next table).1.token.isLast = false) :
    (cursor.next table).2.rest.length < cursor.rest.length := by
  have shorter := cursor.skipBlanks_rest_length_le
  obtain ⟨restNonempty, textNonempty⟩ := first_text_ne_nil more
  have restPositive := List.length_pos_iff.mpr restNonempty
  have textPositive := List.length_pos_iff.mpr textNonempty
  simp only [next, advance, List.length_drop]
  omega

/-- All tokens from a cursor on, up to and including the first one behind which
no other can be read. -/
def lexemes (table : Table) (cursor : Cursor) : List Lexeme :=
  if (cursor.next table).1.token.isLast then
    [(cursor.next table).1]
  else
    (cursor.next table).1 :: lexemes table (cursor.next table).2
termination_by cursor.rest.length
decreasing_by
  rename_i more
  exact next_rest_length_lt (Bool.eq_false_iff.mpr more)

end Cursor

/-- The tokens of a text. -/
def Lexeme.ofText (table : Table) (text : String) : List Lexeme :=
  (Cursor.start text).lexemes table

end Reckoner
