import Mathlib.Data.List.Find
import Mathlib.Data.List.TakeWhile
import Reckoner.Proofs.Spelling

/-!
# Where the tokens of a text stand

Every token starts with a character that is not blank, at the place that its
lexeme names.  A text can be cut in front of a token without a change to the
tokens before the cut (`exists_cut_of_lexemes`), and continued behind a blank
without a change to the tokens in front of it, unless a symbol reaches across
the blank (`Cursor.lexemes_followed`).
-/

namespace Reckoner

namespace Table

/-- No symbol has a blank in it. -/
def Unspaced (table : Table) : Prop :=
  ∀ symbol ∈ table.symbols, ∀ ch ∈ symbol.toList, Text.isBlank ch = false

instance (table : Table) : Decidable table.Unspaced :=
  decidable_of_iff
    (table.symbols.all fun symbol =>
      symbol.toList.all fun ch => !Text.isBlank ch)
    (by simp [Unspaced])

variable {table : Table} {text more : List Char} {ch : Char}

/-- A symbol without the character that follows a text starts the text if it
starts what the two make. -/
theorem startsWith_append_cons {symbol : String}
    (apart : ch ∉ symbol.toList) :
    startsWith (text ++ ch :: more) symbol = startsWith text symbol := by
  apply Bool.eq_iff_iff.mpr
  rw [startsWith_iff, startsWith_iff]
  apply and_congr_right
  intro _
  constructor
  · intro starts
    rcases List.prefix_or_prefix_of_prefix starts
      (List.prefix_append text (ch :: more)) with inside | ⟨beyond, equality⟩
    · exact inside
    · rw [← equality, List.prefix_append_right_inj] at starts
      cases beyond with
      | nil =>
          rw [List.append_nil] at equality
          exact equality ▸ List.prefix_refl _
      | cons first beyond =>
          obtain ⟨rest, same⟩ := starts
          cases same
          exact absurd (by simp [← equality]) apart
  · intro starts
    exact starts.trans (List.prefix_append _ _)

theorem Unspaced.matchAt?_append (unspaced : table.Unspaced)
    (blank : Text.isBlank ch = true) :
    table.matchAt? (text ++ ch :: more) = table.matchAt? text := by
  apply List.find?_congr
  intro symbol member
  apply startsWith_append_cons
  intro inside
  rw [unspaced symbol member ch inside] at blank
  cases blank

/-- Of a text that starts with a symbol the part behind the symbol can be cut
short. -/
theorem matchAt?_of_append {symbol : String} {front back : List Char}
    (found : table.matchAt? (symbol.toList ++ (front ++ back)) =
      some symbol) :
    table.matchAt? (symbol.toList ++ front) = some symbol := by
  obtain ⟨member, starts, longest⟩ := matchAt?_eq_some_iff.mp found
  refine matchAt?_eq_some_iff.mpr ⟨member, startsWith_iff.mpr
    ⟨(startsWith_iff.mp starts).1, List.prefix_append _ _⟩, ?_⟩
  intro other otherMember otherStarts
  apply longest other otherMember
  obtain ⟨nonempty, inside⟩ := startsWith_iff.mp otherStarts
  refine startsWith_iff.mpr ⟨nonempty, inside.trans ?_⟩
  rw [← List.append_assoc]
  exact List.prefix_append _ _

end Table

namespace Token

variable {table : Table} {text more : List Char} {ch : Char}

theorem continuesNumber_eq_false_of_isBlank (blank : Text.isBlank ch = true) :
    continuesNumber ch = false := by
  apply Bool.eq_false_iff.mpr
  intro continues
  simp only [continuesNumber, Bool.or_eq_true, decide_eq_true_eq] at continues
  rcases continues with digit | rfl
  · rw [Text.isBlank_eq_false_of_isDigit digit] at blank
    cases blank
  · exact absurd blank (by decide)

/-- A blank behind a text has no say in the token that the text starts with. -/
theorem first_append_blank (unspaced : table.Unspaced)
    (blank : Text.isBlank ch = true) (nonempty : text ≠ []) :
    first table (text ++ ch :: more) = first table text := by
  cases text with
  | nil => exact absurd rfl nonempty
  | cons head tail =>
      have digits : ((head :: tail) ++ ch :: more).takeWhile continuesNumber =
          (head :: tail).takeWhile continuesNumber := by
        rw [List.takeWhile_append]
        split
        · rename_i whole
          rw [List.takeWhile_cons_of_neg
            (by simp [continuesNumber_eq_false_of_isBlank blank]),
            List.append_nil]
          exact (List.takeWhile_prefix _).eq_of_length whole |>.symm
        · rfl
      have symbols : table.matchAt? ((head :: tail) ++ ch :: more) =
          table.matchAt? (head :: tail) := unspaced.matchAt?_append blank
      rw [List.cons_append] at digits symbols ⊢
      simp only [first, digits, symbols]

/-- The text of a token stands where the token is read. -/
theorem text_prefix_first (table : Table) (text : List Char) :
    (first table text).text.toList <+: text := by
  match text with
  | [] => exact List.prefix_refl []
  | head :: tail =>
      simp only [first]
      split
      · rw [Token.text, String.toList_ofList]
        exact List.takeWhile_prefix _
      · split
        · rename_i left
          exact ⟨tail, by rw [left]; rfl⟩
        · split
          · rename_i right
            exact ⟨tail, by rw [right]; rfl⟩
          · split
            · rename_i found
              exact (Table.startsWith_iff.mp (List.find?_some found)).2
            · exact List.nil_prefix

theorem first_ne_endOfText (nonempty : text ≠ []) :
    first table text ≠ .endOfText := by
  cases text with
  | nil => exact absurd rfl nonempty
  | cons head tail =>
      simp only [first]
      repeat' split
      all_goals exact Token.noConfusion

theorem first_eq_number_iff {tail : List Char} {digits : String} :
    first table (ch :: tail) = .number digits ↔ ch.isDigit = true ∧
      String.ofList ((ch :: tail).takeWhile continuesNumber) = digits := by
  simp only [first]
  split
  · rename_i digit
    simp [digit]
  · rename_i notDigit
    split
    · simp [notDigit]
    · split
      · simp [notDigit]
      · split <;> simp [notDigit]

theorem first_eq_operator_iff {tail : List Char} {symbol : String} :
    first table (ch :: tail) = .operator symbol ↔ ch.isDigit = false ∧
      ch ≠ '(' ∧ ch ≠ ')' ∧
      table.matchAt? (ch :: tail) = some symbol := by
  simp only [first]
  split
  · rename_i digit
    simp [digit]
  · rename_i notDigit
    split
    · rename_i left
      simp [left]
    · rename_i notLeft
      split
      · rename_i right
        simp [right]
      · rename_i notRight
        split
        · rename_i found
          simp [found, notDigit, notLeft, notRight]
        · rename_i missing
          simp [missing]

theorem first_eq_illegal_iff {tail : List Char} {other : Char} :
    first table (ch :: tail) = .illegal other ↔ ch.isDigit = false ∧
      ch ≠ '(' ∧ ch ≠ ')' ∧ table.matchAt? (ch :: tail) = none ∧
      ch = other := by
  simp only [first]
  split
  · rename_i digit
    simp [digit]
  · rename_i notDigit
    split
    · rename_i left
      simp [left]
    · rename_i notLeft
      split
      · rename_i right
        simp [right]
      · rename_i notRight
        split
        · rename_i found
          simp [found]
        · rename_i missing
          simp [missing, notDigit, notLeft, notRight]

theorem takeWhile_append_of_append {p : Char → Bool}
    {start front back : List Char}
    (whole : (start ++ (front ++ back)).takeWhile p = start) :
    (start ++ front).takeWhile p = start := by
  have inside : ∀ ch ∈ start, p ch = true := by
    intro ch member
    rw [← whole] at member
    exact List.mem_takeWhile_imp member
  rw [List.takeWhile_append_of_pos inside, List.append_right_eq_self] at whole
  apply takeWhile_append_of_head? inside
  intro ch member
  cases front with
  | nil => cases member
  | cons head front =>
      cases member
      apply Bool.eq_false_iff.mpr
      intro continues
      rw [List.cons_append, List.takeWhile_cons_of_pos continues] at whole
      cases whole

/-- A token is still read when the text behind it is cut short. -/
theorem first_of_append {token : Token} {front back : List Char}
    (more : token.isLast = false)
    (read : first table (token.text.toList ++ (front ++ back)) = token) :
    first table (token.text.toList ++ front) = token := by
  have nonempty : token.text.toList ≠ [] := by
    have last := more
    rw [← read] at last
    exact read ▸ (Cursor.first_text_ne_nil last).2
  obtain ⟨head, tail, characters⟩ := List.exists_cons_of_ne_nil nonempty
  cases token with
  | number digits =>
      rw [Token.text] at characters read ⊢
      rw [characters, List.cons_append] at read ⊢
      obtain ⟨digit, whole⟩ := first_eq_number_iff.mp read
      refine first_eq_number_iff.mpr ⟨digit, ?_⟩
      rw [← String.toList_inj, String.toList_ofList, ← List.cons_append,
        ← characters] at whole ⊢
      exact takeWhile_append_of_append whole
  | operator symbol =>
      rw [Token.text] at characters read ⊢
      rw [characters, List.cons_append] at read ⊢
      obtain ⟨notDigit, notLeft, notRight, found⟩ :=
        first_eq_operator_iff.mp read
      refine first_eq_operator_iff.mpr ⟨notDigit, notLeft, notRight, ?_⟩
      rw [← List.cons_append, ← characters] at found ⊢
      exact Table.matchAt?_of_append found
  | leftParen | rightParen => rfl
  | endOfText | illegal => cases more

end Token

namespace Cursor

variable {table : Table} {cursor : Cursor} {front back : List Lexeme}
  {lexeme : Lexeme}

theorem lexemes_congr_skipBlanks {other : Cursor}
    (same : cursor.skipBlanks = other.skipBlanks) :
    cursor.lexemes table = other.lexemes table := by
  have next : cursor.next table = other.next table := by
    simp only [Cursor.next, same]
  rw [lexemes, next, ← lexemes]

theorem takeWhile_append_dropWhile_rest (cursor : Cursor) :
    cursor.rest = cursor.rest.takeWhile Text.isBlank ++
      cursor.skipBlanks.rest :=
  List.takeWhile_append_dropWhile.symm

theorem isBlank_eq_false_of_head?_skipBlanks {ch : Char}
    (starts : ch ∈ cursor.skipBlanks.rest.head?) :
    Text.isBlank ch = false := by
  have head : (cursor.rest.dropWhile Text.isBlank).head? = some ch := starts
  have stopped := List.head?_dropWhile_not Text.isBlank cursor.rest
  rw [head] at stopped
  exact stopped

theorem skipBlanks_of_head? {rest : List Char} {position : Nat}
    (visible : ∀ ch ∈ rest.head?, Text.isBlank ch = false) :
    (⟨position, rest⟩ : Cursor).skipBlanks = ⟨position, rest⟩ := by
  cases rest with
  | nil => simp [skipBlanks, Text.byteLength]
  | cons ch rest =>
      have notBlank := visible ch rfl
      simp [skipBlanks, notBlank, Text.byteLength]

theorem skipBlanks_append {blanks rest : List Char} {position : Nat}
    (blank : ∀ ch ∈ blanks, Text.isBlank ch = true)
    (visible : ∀ ch ∈ rest.head?, Text.isBlank ch = false) :
    (⟨position, blanks ++ rest⟩ : Cursor).skipBlanks =
      ⟨position + Text.byteLength blanks, rest⟩ := by
  have stays : (⟨position, rest⟩ : Cursor).skipBlanks = ⟨position, rest⟩ :=
    skipBlanks_of_head? visible
  simp only [skipBlanks, mk.injEq] at stays ⊢
  rw [Token.takeWhile_append_of_head? blank visible,
    List.dropWhile_append_of_pos blank, stays.2]
  exact ⟨rfl, rfl⟩

theorem skipBlanks_rest_eq_append (table : Table) (cursor : Cursor) :
    cursor.skipBlanks.rest = (cursor.next table).1.token.text.toList ++
      (cursor.next table).2.rest :=
  (List.prefix_iff_eq_append.mp
    (Token.text_prefix_first table cursor.skipBlanks.rest)).symm

/-- What is left at a cursor are blanks, the text of the next token and what is
left behind it. -/
theorem rest_eq_append (table : Table) (cursor : Cursor) :
    cursor.rest = cursor.rest.takeWhile Text.isBlank ++
      ((cursor.next table).1.token.text.toList ++
        (cursor.next table).2.rest) := by
  rw [← skipBlanks_rest_eq_append]
  exact cursor.takeWhile_append_dropWhile_rest

theorem position_next (table : Table) (cursor : Cursor) :
    (cursor.next table).2.position = cursor.position +
      (Text.byteLength (cursor.rest.takeWhile Text.isBlank) +
        Text.byteLength (cursor.next table).1.token.text.toList) := by
  rw [← Text.utf8ByteSize_eq_byteLength, ← Nat.add_assoc]
  rfl

theorem stop_next (table : Table) (cursor : Cursor) :
    (cursor.next table).2.position +
        Text.byteLength (cursor.next table).2.rest =
      cursor.position + Text.byteLength cursor.rest := by
  have bytes := congrArg Text.byteLength (rest_eq_append table cursor)
  rw [Text.byteLength_append, Text.byteLength_append] at bytes
  rw [position_next]
  omega

theorem lexemes_eq_cons (equality : cursor.lexemes table = lexeme :: back) :
    (cursor.next table).1 = lexeme ∧
      (back ≠ [] → lexeme.token.isLast = false) ∧
      (lexeme.token.isLast = false →
        (cursor.next table).2.lexemes table = back) := by
  rw [lexemes] at equality
  split at equality
  · rename_i last
    cases equality
    exact ⟨rfl, fun more => absurd rfl more,
      fun more => absurd (last.symm.trans more) Bool.noConfusion⟩
  · rename_i more
    cases equality
    exact ⟨rfl, fun _ => Bool.eq_false_iff.mpr more, fun _ => rfl⟩

theorem lexemes_of_blank {blanks : List Char} {position : Nat}
    (blank : ∀ ch ∈ blanks, Text.isBlank ch = true) :
    (⟨position, blanks⟩ : Cursor).lexemes table =
      [⟨.endOfText, position + Text.byteLength blanks⟩] := by
  have skipped : (⟨position, blanks ++ []⟩ : Cursor).skipBlanks =
      ⟨position + Text.byteLength blanks, []⟩ :=
    skipBlanks_append blank (by simp)
  rw [List.append_nil] at skipped
  have next : ((⟨position, blanks⟩ : Cursor).next table).1 =
      ⟨.endOfText, position + Text.byteLength blanks⟩ := by
    simp only [Cursor.next, skipped, Token.first]
  rw [lexemes, if_pos (by rw [next]; rfl), next]

theorem next_append {token : Token} {blanks rest : List Char} {position : Nat}
    (blank : ∀ ch ∈ blanks, Text.isBlank ch = true)
    (visible : ∀ ch ∈ (token.text.toList ++ rest).head?,
      Text.isBlank ch = false)
    (read : Token.first table (token.text.toList ++ rest) = token) :
    (⟨position, blanks ++ (token.text.toList ++ rest)⟩ : Cursor).next table =
      (⟨token, position + Text.byteLength blanks⟩,
        ⟨position + Text.byteLength blanks + token.byteLength, rest⟩) := by
  simp only [Cursor.next, skipBlanks_append blank visible, read, advance,
    List.drop_left]

/-- The next token is still the same when the text behind it is cut short. -/
theorem next_of_append {before after : List Char}
    (more : (cursor.next table).1.token.isLast = false)
    (behind : (cursor.next table).2.rest = before ++ after) :
    (⟨cursor.position, cursor.rest.takeWhile Text.isBlank ++
        ((cursor.next table).1.token.text.toList ++ before)⟩ :
          Cursor).next table =
      ((cursor.next table).1,
        ⟨(cursor.next table).2.position, before⟩) := by
  have start := cursor.skipBlanks_rest_eq_append table
  have visible : ∀ ch ∈ ((cursor.next table).1.token.text.toList ++
      before).head?, Text.isBlank ch = false := by
    intro ch member
    apply isBlank_eq_false_of_head?_skipBlanks
    rw [start]
    obtain ⟨head, tail, characters⟩ :=
      List.exists_cons_of_ne_nil (first_text_ne_nil more).2
    have characters : (cursor.next table).1.token.text.toList =
      head :: tail := characters
    rw [characters] at member ⊢
    exact member
  have read : Token.first table ((cursor.next table).1.token.text.toList ++
      before) = (cursor.next table).1.token := by
    apply Token.first_of_append more
    rw [← behind, ← start]
    rfl
  have blank : ∀ ch ∈ cursor.rest.takeWhile Text.isBlank,
      Text.isBlank ch = true := fun ch => List.mem_takeWhile_imp
  rw [next_append blank visible read]
  rfl

/-- A text can be cut in front of any of its tokens.  The tokens of the part
before the cut end there, and the others are those of the part behind it. -/
theorem exists_cut_of_lexemes
    (equality : cursor.lexemes table = front ++ lexeme :: back) :
    ∃ before after, cursor.rest = before ++ after ∧
      lexeme.position = cursor.position + Text.byteLength before ∧
      (⟨cursor.position, before⟩ : Cursor).lexemes table =
        front ++ [⟨.endOfText, lexeme.position⟩] ∧
      (∀ ch ∈ after.head?, Text.isBlank ch = false) ∧
      Token.first table after = lexeme.token ∧
      (⟨lexeme.position, after⟩ : Cursor).lexemes table =
        lexeme :: back := by
  induction front generalizing cursor with
  | nil =>
      obtain ⟨isNext, _, _⟩ := lexemes_eq_cons equality
      subst isNext
      have blank : ∀ ch ∈ cursor.rest.takeWhile Text.isBlank,
          Text.isBlank ch = true := fun ch => List.mem_takeWhile_imp
      have visible : ∀ ch ∈ cursor.skipBlanks.rest.head?,
          Text.isBlank ch = false :=
        fun ch => isBlank_eq_false_of_head?_skipBlanks
      refine ⟨cursor.rest.takeWhile Text.isBlank, cursor.skipBlanks.rest,
        cursor.takeWhile_append_dropWhile_rest, rfl, lexemes_of_blank blank,
        visible, rfl, ?_⟩
      rw [← List.nil_append (_ :: back), ← equality]
      apply lexemes_congr_skipBlanks
      exact skipBlanks_of_head? visible
  | cons first front inductionHypothesis =>
      obtain ⟨rfl, more, behind⟩ := lexemes_eq_cons equality
      have more := more (by simp)
      obtain ⟨before, after, rest, position, cut, visible, read, others⟩ :=
        inductionHypothesis (behind more)
      refine ⟨cursor.rest.takeWhile Text.isBlank ++
        ((cursor.next table).1.token.text.toList ++ before), after, ?_, ?_, ?_,
        visible, read, others⟩
      · conv_lhs => rw [rest_eq_append table cursor, rest]
        simp only [List.append_assoc]
      · rw [position, position_next]
        simp only [Text.byteLength_append]
        omega
      · rw [lexemes, next_of_append more rest, if_neg (by simp [more]), cut,
          List.cons_append]

/-- The place of a cursor in a text that goes on behind its end. -/
def followed (cursor : Cursor) (more : List Char) : Cursor :=
  { cursor with rest := cursor.rest ++ more }

theorem skipBlanks_followed (visible : cursor.skipBlanks.rest ≠ [])
    (more : List Char) :
    (cursor.followed more).skipBlanks = cursor.skipBlanks.followed more := by
  have blank : ∀ ch ∈ cursor.rest.takeWhile Text.isBlank,
      Text.isBlank ch = true := fun ch => List.mem_takeWhile_imp
  have starts : ∀ ch ∈ (cursor.skipBlanks.rest ++ more).head?,
      Text.isBlank ch = false := by
    intro ch member
    apply isBlank_eq_false_of_head?_skipBlanks
    obtain ⟨head, tail, characters⟩ := List.exists_cons_of_ne_nil visible
    rw [characters] at member ⊢
    exact member
  have split : cursor.followed more = ⟨cursor.position,
      cursor.rest.takeWhile Text.isBlank ++
        (cursor.skipBlanks.rest ++ more)⟩ := by
    rw [← List.append_assoc, ← cursor.takeWhile_append_dropWhile_rest]
    rfl
  rw [split, skipBlanks_append blank starts]
  rfl

theorem next_followed {ch : Char} (unspaced : table.Unspaced)
    (blank : Text.isBlank ch = true) (visible : cursor.skipBlanks.rest ≠ [])
    (more : List Char) :
    (cursor.followed (ch :: more)).next table =
      ((cursor.next table).1, (cursor.next table).2.followed (ch :: more)) := by
  have skipped := skipBlanks_followed visible (ch :: more)
  have read : Token.first table (cursor.skipBlanks.rest ++ ch :: more) =
      Token.first table cursor.skipBlanks.rest :=
    Token.first_append_blank unspaced blank visible
  have short := (Token.text_prefix_first table cursor.skipBlanks.rest).length_le
  simp only [Cursor.next, skipped]
  simp only [followed, read, advance, List.drop_append_of_le_length short]

/-- When a text goes on behind a blank, its tokens stay as they are: behind its
end, the others are those of what follows; behind a character that starts no
token, there are still none. -/
theorem lexemes_followed {ch : Char} (unspaced : table.Unspaced)
    (blank : Text.isBlank ch = true) (cursor : Cursor) (more : List Char) :
    ∃ front last, cursor.lexemes table = front ++ [last] ∧
      ((last.token = .endOfText ∧
          (cursor.followed (ch :: more)).lexemes table = front ++
            (⟨cursor.position + Text.byteLength cursor.rest,
              ch :: more⟩ : Cursor).lexemes table) ∨
        (last.token ≠ .endOfText ∧
          (cursor.followed (ch :: more)).lexemes table =
            cursor.lexemes table)) := by
  fun_induction lexemes table cursor with
  | case1 cursor last =>
      refine ⟨[], _, rfl, ?_⟩
      by_cases visible : cursor.skipBlanks.rest = []
      · left
        have all : ∀ other ∈ cursor.rest, Text.isBlank other = true :=
          List.dropWhile_eq_nil_iff.mp visible
        refine ⟨by simp [Cursor.next, visible, Token.first], ?_⟩
        rw [List.nil_append]
        apply lexemes_congr_skipBlanks
        simp [skipBlanks, followed, List.takeWhile_append_of_pos all,
          List.dropWhile_append_of_pos all, Nat.add_assoc]
      · right
        have next := next_followed unspaced blank visible more
        exact ⟨Token.first_ne_endOfText visible,
          by rw [lexemes, next, if_pos last]⟩
  | case2 cursor notLast inductionHypothesis =>
      obtain ⟨front, last, rest, others⟩ := inductionHypothesis
      have visible := (first_text_ne_nil (Bool.eq_false_iff.mpr notLast)).1
      have continued : (cursor.followed (ch :: more)).lexemes table =
          (cursor.next table).1 ::
            ((cursor.next table).2.followed (ch :: more)).lexemes table := by
        rw [lexemes, next_followed unspaced blank visible more,
          if_neg notLast]
      refine ⟨(cursor.next table).1 :: front, last, by rw [rest]; rfl, ?_⟩
      rw [continued]
      rcases others with ⟨atEnd, behind⟩ | ⟨notAtEnd, behind⟩
      · rw [stop_next] at behind
        exact .inl ⟨atEnd, congrArg _ behind⟩
      · exact .inr ⟨notAtEnd, congrArg _ behind⟩

end Cursor

end Reckoner
