import Reckoner.Proofs.Places
import Reckoner.Token.Lexer

/-!
# Calls for the next token

A lexer that is asked for one token after the other stays between two
characters of its text, and loses nothing: what it has skipped and returned is
the text before its place.  `Token.ReadBefore` says without the lexer when a
token is read: a number does not go on behind its text, a symbol is the longest
one of the table, and no other token fits.  The calls come to an end of the text
or to a character that starts no token, and stay there (`Lexer.calls_exhaust_text`).  The
table may have any symbols, the empty one and ones with blanks, digits or
parentheses among them.
-/

namespace Reckoner

namespace Token

/-- A character that may start a symbol, or no token at all. -/
def StartsSymbol (ch : Char) : Prop :=
  Text.isBlank ch = false ∧ ch.isDigit = false ∧ ch ≠ '(' ∧ ch ≠ ')'

/-- A token is read where its text stands, with `behind` after it: a number does
not go on there, a symbol is the longest one of the table, and a last token has
nothing of the table to stand for. -/
def ReadBefore (table : Table) (behind : List Char) : Token → Prop
  | .number text =>
      IsNumber text ∧ ∀ ch ∈ behind.head?, continuesNumber ch = false
  | .operator symbol =>
      (∃ ch rest, symbol.toList = ch :: rest ∧ StartsSymbol ch) ∧
        symbol ∈ table.symbols ∧
        ∀ other ∈ table.symbols, other ≠ "" →
          other.toList <+: symbol.toList ++ behind →
          other.toList <+: symbol.toList
  | .leftParen => True
  | .rightParen => True
  | .endOfText => behind = []
  | .illegal ch =>
      behind.head? = some ch ∧ StartsSymbol ch ∧
        ∀ symbol ∈ table.symbols, symbol ≠ "" → ¬ symbol.toList <+: behind

variable {table : Table} {token : Token} {behind : List Char}

theorem ReadBefore.first_eq (read : token.ReadBefore table behind) :
    first table (token.text.toList ++ behind) = token := by
  cases token with
  | number digits =>
      obtain ⟨number, stops⟩ := read
      have whole := takeWhile_append_of_head? number.continues stops
      obtain ⟨digit, rest, characters, isDigit, _⟩ := number
      rw [Token.text]
      rw [characters, List.cons_append] at whole ⊢
      refine first_eq_number_iff.mpr ⟨isDigit, ?_⟩
      rw [whole, ← characters, String.ofList_toList]
  | operator symbol =>
      obtain ⟨⟨ch, rest, characters, _, notDigit, notLeft, notRight⟩, member,
        longest⟩ := read
      have nonempty : symbol ≠ "" := by
        rintro rfl
        cases characters
      have found : table.matchAt? (symbol.toList ++ behind) = some symbol := by
        refine Table.matchAt?_eq_some_iff.mpr ⟨member, Table.startsWith_iff.mpr
          ⟨nonempty, List.prefix_append _ _⟩, ?_⟩
        intro other otherMember starts
        obtain ⟨otherNonempty, stands⟩ := Table.startsWith_iff.mp starts
        exact longest other otherMember otherNonempty stands
      rw [Token.text]
      rw [characters, List.cons_append] at found ⊢
      exact first_eq_operator_iff.mpr ⟨notDigit, notLeft, notRight, found⟩
  | leftParen | rightParen => rfl
  | endOfText =>
      rw [show behind = [] from read]
      rfl
  | illegal ch =>
      obtain ⟨starts, ⟨_, notDigit, notLeft, notRight⟩, unmatched⟩ := read
      obtain ⟨rest, rfl⟩ := List.head?_eq_some_iff.mp starts
      refine first_eq_illegal_iff.mpr ⟨notDigit, notLeft, notRight, ?_, rfl⟩
      refine List.find?_eq_none.mpr fun symbol member stands => ?_
      obtain ⟨nonempty, stands⟩ := Table.startsWith_iff.mp stands
      exact unmatched symbol member nonempty stands

theorem readBefore_of_first_eq
    (visible : ∀ ch ∈ (token.text.toList ++ behind).head?,
      Text.isBlank ch = false)
    (read : first table (token.text.toList ++ behind) = token) :
    token.ReadBefore table behind := by
  have legible (more : token.isLast = false) : token.Legible table := by
    rw [← read] at more ⊢
    exact Cursor.legible_first more
  cases token with
  | number digits =>
      refine ⟨legible rfl, ?_⟩
      obtain ⟨digit, rest, characters, _, _⟩ := legible rfl
      rw [Token.text] at read
      have taken : (digits.toList ++ behind).takeWhile continuesNumber =
          digits.toList := by
        rw [characters, List.cons_append] at read ⊢
        rw [← characters, ← (first_eq_number_iff.mp read).2,
          String.toList_ofList]
      have dropped : (digits.toList ++ behind).dropWhile continuesNumber =
          behind := by
        have parts : (digits.toList ++ behind).takeWhile continuesNumber ++
            (digits.toList ++ behind).dropWhile continuesNumber =
              digits.toList ++ behind := List.takeWhile_append_dropWhile
        rw [taken] at parts
        exact List.append_cancel_left parts
      intro ch starts
      have stopped := List.head?_dropWhile_not continuesNumber
        (digits.toList ++ behind)
      rw [dropped, starts] at stopped
      exact stopped
  | operator symbol =>
      obtain ⟨nonempty, member⟩ := legible rfl
      obtain ⟨ch, rest, characters⟩ := List.exists_cons_of_ne_nil
        (fun empty => nonempty (String.toList_eq_nil_iff.mp empty))
      rw [Token.text] at read visible
      rw [characters, List.cons_append] at read visible
      obtain ⟨notDigit, notLeft, notRight, found⟩ :=
        first_eq_operator_iff.mp read
      refine ⟨⟨ch, rest, characters, visible ch rfl, notDigit, notLeft,
        notRight⟩, member, ?_⟩
      intro other otherMember otherNonempty stands
      rw [← List.cons_append, ← characters] at found
      exact (Table.matchAt?_eq_some_iff.mp found).2.2 other otherMember
        (Table.startsWith_iff.mpr ⟨otherNonempty, stands⟩)
  | leftParen | rightParen => trivial
  | endOfText =>
      by_contra nonempty
      exact first_ne_endOfText nonempty read
  | illegal ch =>
      cases behind with
      | nil => cases read
      | cons head rest =>
          obtain ⟨notDigit, notLeft, notRight, missing, rfl⟩ :=
            first_eq_illegal_iff.mp read
          refine ⟨rfl, ⟨visible head rfl, notDigit, notLeft, notRight⟩, ?_⟩
          intro symbol member nonempty stands
          exact List.find?_eq_none.mp missing symbol member
            (Table.startsWith_iff.mpr ⟨nonempty, stands⟩)

end Token

theorem Cursor.skipBlanks_skipBlanks (cursor : Cursor) :
    cursor.skipBlanks.skipBlanks = cursor.skipBlanks := by
  apply skipBlanks_of_head?
  intro ch
  exact isBlank_eq_false_of_head?_skipBlanks

/-- A token with the blanks in front of it. -/
structure Piece where
  blanks : List Char
  token : Token
  deriving Repr, DecidableEq

namespace Piece

/-- The characters of a piece. -/
def text (piece : Piece) : List Char :=
  piece.blanks ++ piece.token.text.toList

/-- The characters of pieces that stand one behind the other. -/
def textOf (pieces : List Piece) : List Char := pieces.flatMap text

end Piece

namespace Lexer

variable {table : Table} {lexer : Lexer} {front back : List Char}

/-- No character of the text reaches across the place of the lexer. -/
def AtBoundary (lexer : Lexer) : Prop :=
  ∃ front back, lexer.text = front ++ back ∧
    lexer.position = Text.byteLength front

theorem atBoundary_ofText (text : String) : (ofText text).AtBoundary :=
  ⟨[], text.toList, rfl, rfl⟩

theorem remaining_ofText (text : String) :
    (ofText text).remaining = text.toList := Text.dropBytes_zero _

theorem cursor_ofText (text : String) :
    (ofText text).cursor = Cursor.start text := by
  rw [cursor, remaining_ofText]
  rfl

theorem remaining_eq (text_eq : lexer.text = front ++ back)
    (position_eq : lexer.position = Text.byteLength front) :
    lexer.remaining = back := by
  rw [remaining, text_eq, position_eq, Text.dropBytes_byteLength_append]

/-- The lexer behind the first characters that remain. -/
theorem AtBoundary.advance (boundary : lexer.AtBoundary)
    (ahead : lexer.remaining = front ++ back) {later : Lexer}
    (sameText : later.text = lexer.text)
    (moved : later.position = lexer.position + Text.byteLength front) :
    later.AtBoundary ∧ later.remaining = back := by
  obtain ⟨start, rest, text_eq, position_eq⟩ := boundary
  rw [remaining_eq text_eq position_eq] at ahead
  have laterText : later.text = (start ++ front) ++ back := by
    rw [sameText, text_eq, ahead, List.append_assoc]
  have laterPosition : later.position = Text.byteLength (start ++ front) := by
    rw [moved, position_eq, Text.byteLength_append]
  exact ⟨⟨_, _, laterText, laterPosition⟩,
    remaining_eq laterText laterPosition⟩

/-- The blanks that the next call skips. -/
def blanks (lexer : Lexer) : List Char :=
  lexer.remaining.takeWhile Text.isBlank

theorem remaining_eq_append (table : Table) (lexer : Lexer) :
    lexer.remaining = lexer.blanks ++ ((lexer.next table).1.text.toList ++
      (lexer.cursor.next table).2.rest) :=
  lexer.cursor.rest_eq_append table

theorem position_next (table : Table) (lexer : Lexer) :
    (lexer.next table).2.position = lexer.position +
      (Text.byteLength lexer.blanks +
        Text.byteLength (lexer.next table).1.text.toList) :=
  lexer.cursor.position_next table

theorem AtBoundary.next_spec (boundary : lexer.AtBoundary) (table : Table) :
    (lexer.next table).2.AtBoundary ∧
      (lexer.next table).2.remaining = (lexer.cursor.next table).2.rest := by
  have ahead := lexer.remaining_eq_append table
  rw [← List.append_assoc] at ahead
  refine boundary.advance ahead rfl ?_
  rw [position_next, Text.byteLength_append]

theorem AtBoundary.cursor_next (boundary : lexer.AtBoundary) (table : Table) :
    (lexer.next table).2.cursor = (lexer.cursor.next table).2 := by
  rw [cursor, (boundary.next_spec table).2]
  rfl

/-- A token that is taken back is ahead again, and the blanks before it are
not. -/
theorem AtBoundary.pushBack_next (boundary : lexer.AtBoundary)
    (table : Table) :
    ((lexer.next table).2.pushBack (lexer.next table).1).AtBoundary ∧
      ((lexer.next table).2.pushBack (lexer.next table).1).cursor =
        lexer.cursor.skipBlanks := by
  have ahead := lexer.remaining_eq_append table
  have moved : ((lexer.next table).2.pushBack
      (lexer.next table).1).position =
        lexer.position + Text.byteLength lexer.blanks := by
    rw [pushBack, position_next, Token.byteLength,
      Text.utf8ByteSize_eq_byteLength, ← Nat.add_assoc, Nat.add_sub_cancel]
  have sameText : ((lexer.next table).2.pushBack
      (lexer.next table).1).text = lexer.text := rfl
  obtain ⟨atBoundary, behind⟩ := boundary.advance ahead sameText moved
  refine ⟨atBoundary, ?_⟩
  rw [cursor, moved, behind]
  exact congrArg (Cursor.mk _) (lexer.cursor.skipBlanks_rest_eq_append table).symm

/-- A call that skips `blanks` and returns `token`: nothing but these is taken
away, and no other token can be read there. -/
structure Step (table : Table) (before : Lexer) (blanks : List Char)
    (token : Token) (after : Lexer) : Prop where
  text_eq : after.text = before.text
  blank : ∀ ch ∈ blanks, Text.isBlank ch = true
  remaining_eq : before.remaining =
    blanks ++ (token.text.toList ++ after.remaining)
  position_eq : after.position =
    before.position + (Text.byteLength blanks + token.byteLength)
  read : token.ReadBefore table after.remaining
  only : ∀ other rest,
    before.remaining = blanks ++ (other.text.toList ++ rest) →
    other.ReadBefore table rest → other = token

theorem AtBoundary.step (boundary : lexer.AtBoundary) (table : Table) :
    Step table lexer lexer.blanks (lexer.next table).1
      (lexer.next table).2 := by
  have ahead := lexer.remaining_eq_append table
  have behind := (boundary.next_spec table).2
  have start := lexer.cursor.skipBlanks_rest_eq_append table
  have whole : lexer.remaining = lexer.blanks ++ lexer.cursor.skipBlanks.rest :=
    lexer.cursor.takeWhile_append_dropWhile_rest
  refine ⟨rfl, fun ch => List.mem_takeWhile_imp, behind ▸ ahead, ?_, ?_, ?_⟩
  · rw [position_next, Token.byteLength, Text.utf8ByteSize_eq_byteLength]
  · rw [behind]
    apply Token.readBefore_of_first_eq
    · intro ch starts
      apply Cursor.isBlank_eq_false_of_head?_skipBlanks
      rw [start]
      exact starts
    · exact congrArg _ start.symm
  · intro other rest stands read
    have same : lexer.cursor.skipBlanks.rest = other.text.toList ++ rest :=
      List.append_cancel_left (whole.symm.trans stands)
    rw [← read.first_eq, ← same]
    rfl

/-- The lexer after a number of calls. -/
def after (table : Table) : Nat → Lexer → Lexer
  | 0, lexer => lexer
  | count + 1, lexer => after table count (lexer.next table).2

/-- What a number of calls take away, one piece a call. -/
def pieces (table : Table) : Nat → Lexer → List Piece
  | 0, _ => []
  | count + 1, lexer =>
      ⟨lexer.blanks, (lexer.next table).1⟩ ::
        pieces table count (lexer.next table).2

theorem after_succ (table : Table) (count : Nat) (lexer : Lexer) :
    lexer.after table (count + 1) =
      ((lexer.after table count).next table).2 := by
  induction count generalizing lexer with
  | zero => rfl
  | succ count inductionHypothesis => exact inductionHypothesis _

theorem pieces_succ (table : Table) (count : Nat) (lexer : Lexer) :
    lexer.pieces table (count + 1) = lexer.pieces table count ++
      [⟨(lexer.after table count).blanks,
        ((lexer.after table count).next table).1⟩] := by
  induction count generalizing lexer with
  | zero => rfl
  | succ count inductionHypothesis =>
      exact congrArg _ (inductionHypothesis _)

/-- The calls so far have taken away the texts of their pieces and nothing
else. -/
theorem AtBoundary.after_spec (boundary : lexer.AtBoundary) (table : Table)
    (count : Nat) :
    (lexer.after table count).AtBoundary ∧
      (lexer.after table count).text = lexer.text ∧
      lexer.remaining = Piece.textOf (lexer.pieces table count) ++
        (lexer.after table count).remaining ∧
      (lexer.after table count).position = lexer.position +
        Text.byteLength (Piece.textOf (lexer.pieces table count)) := by
  induction count generalizing lexer with
  | zero => exact ⟨boundary, rfl, rfl, rfl⟩
  | succ count inductionHypothesis =>
      have step := boundary.step table
      obtain ⟨atBoundary, text_eq, remaining_eq, position_eq⟩ :=
        inductionHypothesis (boundary.next_spec table).1
      refine ⟨atBoundary, text_eq, ?_, ?_⟩
      · rw [step.remaining_eq, remaining_eq]
        simp [pieces, Piece.textOf, Piece.text, after]
      · rw [after, position_eq, position_next]
        simp [pieces, Piece.textOf, Piece.text, Nat.add_assoc]

/-- Behind a last token the same one is read again, at the same place. -/
theorem AtBoundary.next_of_isLast (boundary : lexer.AtBoundary)
    (last : (lexer.next table).1.isLast = true) :
    (lexer.next table).2.next table =
      ((lexer.next table).1, (lexer.next table).2) := by
  have empty : (lexer.cursor.next table).1.token.text = "" := by
    have last : (lexer.cursor.next table).1.token.isLast = true := last
    cases token : (lexer.cursor.next table).1.token with
    | endOfText | illegal => rfl
    | number | operator | leftParen | rightParen =>
        rw [token] at last
        cases last
  have stays : (lexer.cursor.next table).2 = lexer.cursor.skipBlanks := by
    have same : (lexer.cursor.next table).2 =
      lexer.cursor.skipBlanks.advance (lexer.cursor.next table).1.token := rfl
    rw [same, Cursor.advance, Token.byteLength, empty]
    rfl
  have sameNext : (lexer.next table).2.cursor.next table =
      lexer.cursor.next table := by
    rw [boundary.cursor_next, stays, Cursor.next,
      Cursor.skipBlanks_skipBlanks]
    rfl
  simp only [next] at sameNext ⊢
  rw [sameNext]

theorem AtBoundary.pieces_of_isLast (boundary : lexer.AtBoundary)
    (last : (lexer.next table).1.isLast = true) (more : Nat) :
    (lexer.pieces table more).map Piece.token =
      List.replicate more (lexer.next table).1 := by
  induction more generalizing lexer with
  | zero => rfl
  | succ more inductionHypothesis =>
      have again := boundary.next_of_isLast last
      have still : ((lexer.next table).2.next table).1.isLast = true := by
        rw [again]
        exact last
      rw [pieces, List.map_cons, inductionHypothesis
        (boundary.next_spec table).1 still, again]
      rfl

/-- The calls return the tokens of the text, and the last one of them over and
over again. -/
theorem AtBoundary.pieces_of_lexemes (boundary : lexer.AtBoundary)
    {front : List Lexeme} {last : Lexeme}
    (lexed : lexer.cursor.lexemes table = front ++ [last])
    (isLast : last.token.isLast = true) (more : Nat) :
    (lexer.pieces table (front.length + more)).map Piece.token =
      front.map Lexeme.token ++ List.replicate more last.token := by
  induction front generalizing lexer with
  | nil =>
      obtain ⟨read, _, _⟩ := Cursor.lexemes_eq_cons lexed
      have read : (lexer.next table).1 = last.token :=
        congrArg Lexeme.token read
      rw [← read] at isLast ⊢
      rw [List.length_nil, Nat.zero_add]
      exact boundary.pieces_of_isLast isLast more
  | cons lexeme front inductionHypothesis =>
      obtain ⟨read, notLast, behind⟩ := Cursor.lexemes_eq_cons lexed
      have behind := behind (notLast (by simp))
      rw [← boundary.cursor_next] at behind
      rw [List.length_cons, Nat.add_right_comm, pieces, List.map_cons,
        inductionHypothesis (boundary.next_spec table).1 behind, ← read]
      rfl

/-- Calls for the next token, from the start of a text on, with any table.
Before every call the place is one between two characters, and the blanks and
tokens so far make up the text before it.  Each call skips blanks and takes the
text of the one token away that can be read there.  After no more tokens than
characters one is read behind which there is no other, and it stays so. -/
theorem calls_exhaust_text (table : Table) (text : String) :
    (∀ count,
      let lexer := (ofText text).after table count
      let pieces := (ofText text).pieces table count
      lexer.text = text.toList ∧ lexer.AtBoundary ∧
        lexer.position ≤ text.utf8ByteSize ∧
        text.toList = Piece.textOf pieces ++ lexer.remaining ∧
        lexer.position = Text.byteLength (Piece.textOf pieces) ∧
        (ofText text).pieces table (count + 1) =
          pieces ++ [⟨lexer.blanks, (lexer.next table).1⟩] ∧
        (ofText text).after table (count + 1) = (lexer.next table).2 ∧
        Step table lexer lexer.blanks (lexer.next table).1
          (lexer.next table).2) ∧
    ∃ (front : List Token) (last : Token), front.length ≤ text.length ∧
      (∀ token ∈ front, token.Legible table) ∧ last.isLast = true ∧
      (Lexeme.ofText table text).map Lexeme.token = front ++ [last] ∧
      ∀ more, ((ofText text).pieces table (front.length + more)).map
        Piece.token = front ++ List.replicate more last := by
  have start := atBoundary_ofText text
  constructor
  · intro count lexer pieces
    obtain ⟨boundary, text_eq, remaining_eq, position_eq⟩ :=
      start.after_spec table count
    rw [remaining_ofText] at remaining_eq
    rw [show (ofText text).position = 0 from rfl, Nat.zero_add]
      at position_eq
    refine ⟨text_eq, boundary, ?_, remaining_eq, position_eq,
      pieces_succ table count _, after_succ table count _,
      boundary.step table⟩
    rw [Text.utf8ByteSize_eq_byteLength, remaining_eq,
      Text.byteLength_append, position_eq]
    exact Nat.le_add_right _ _
  · obtain ⟨front, last, lexed, isLast, short, legible⟩ :=
      Cursor.exists_lexemes_eq table (Cursor.start text)
    refine ⟨front.map Lexeme.token, last.token, ?_, ?_, isLast, ?_, ?_⟩
    · rw [List.length_map]
      exact short
    · exact List.forall_mem_map.mpr legible
    · rw [Lexeme.ofText, lexed, List.map_append, List.map_singleton]
    · intro more
      rw [← cursor_ofText] at lexed
      rw [List.length_map]
      exact start.pieces_of_lexemes lexed isLast more

end Lexer

end Reckoner
