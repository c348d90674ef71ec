import Reckoner.Proofs.Chaining
import Reckoner.Proofs.Continuation
import Reckoner.Token.Lexer

/-!
# Where the faults of a text are

A parse error with a position names the place of a token.  `Fails` says what
the tokens up to that place look like when a routine fails there
(`Reads.failsIn`), and `ParseError.Shown` says the same of the characters on both
sides of the place.  The text in front of the place has no fault of its own: it
is an expression, or it ends too early (`Expression.parse_error_position`).
-/

namespace Reckoner

/-- The place that an error names. -/
def ParseError.position? : ParseError → Option Nat
  | .unexpectedEnd => none
  | .unbalancedParentheses position => some position
  | .unexpectedToken _ position => some position
  | .unrecognizedCharacter _ position => some position
  | .nonAssociativeChain _ position => some position
  | .nestingTooDeep _ => none

/-- The ways in which the first of some tokens can be a fault inside of an
expression, with other tokens before it. -/
inductive Fails (table : Table) (limit : Nat) :
    List Token → List Lexeme → ParseError → Prop where
  | noOperand {before : List Token} {position : Nat} {rest : List Lexeme} :
      Fails table limit before (⟨.rightParen, position⟩ :: rest)
        (.unexpectedToken Token.rightParen.display position)
  | illegal {before : List Token} {ch : Char} {position : Nat}
      {rest : List Lexeme} :
      Fails table limit before (⟨.illegal ch, position⟩ :: rest)
        (.unrecognizedCharacter ch position)
  | conflict {before : List Token} {symbol : String} {position : Nat}
      {rest : List Lexeme} {first second : Operator} :
      Token.EndsOperand before →
      Token.Trails table before first →
      table.get? symbol = some second →
      first.conflicts second = true →
      Fails table limit before (⟨.operator symbol, position⟩ :: rest)
        (.nonAssociativeChain symbol position)
  | unclosed {before : List Token} {position : Nat} {inner : Written}
      {inside rest : List Lexeme} {next : Lexeme} :
      inner.Canonical table →
      inner.cost ≤ limit →
      inside.map Lexeme.token = inner.tokens →
      next.token.isLast = false →
      next.token ≠ .rightParen →
      Stops table 0 (next :: rest) →
      Fails table limit before
        (⟨.leftParen, position⟩ :: (inside ++ next :: rest))
        (.unbalancedParentheses position)

namespace Token

variable {table : Table} {tokens front : List Token} {first : Operator}

theorem Trails.append_left (trails : Trails table tokens first) :
    Trails table (front ++ tokens) first := by
  obtain ⟨before, symbol, behind, rfl, ends, rest⟩ := trails
  exact ⟨front ++ before, symbol, behind, by simp, ends.append, rest⟩

end Token

/-- One of some tokens is a fault, with other tokens before them. -/
def FailsIn (table : Table) (limit : Nat) (before : List Token)
    (tokens : List Lexeme) (fault : ParseError) : Prop :=
  ∃ front back, tokens = front ++ back ∧
    Fails table limit (before ++ front.map Lexeme.token) back fault

section

variable {table : Table} {limit position : Nat} {before : List Token}
  {tokens taken rest : List Lexeme} {fault : ParseError}

theorem Fails.append_left (fails : Fails table limit before tokens fault)
    (front : List Token) : Fails table limit (front ++ before) tokens fault := by
  cases fails with
  | noOperand => exact .noOperand
  | illegal => exact .illegal
  | conflict ends trails registered conflicts =>
      exact .conflict ends.append trails.append_left registered conflicts
  | unclosed canonical enough spelled more notClosed stops =>
      exact .unclosed canonical enough spelled more notClosed stops

theorem Fails.failsIn (fails : Fails table limit before tokens fault) :
    FailsIn table limit before tokens fault := by
  refine ⟨[], tokens, rfl, ?_⟩
  rwa [List.map_nil, List.append_nil]

theorem Fails.exists_cons (fails : Fails table limit before tokens fault)
    (placed : fault.position? = some position) :
    ∃ token rest, tokens = ⟨token, position⟩ :: rest ∧
      token ≠ .endOfText := by
  cases fails <;> cases placed <;> exact ⟨_, _, rfl, Token.noConfusion⟩

theorem FailsIn.append_left (fails : FailsIn table limit before tokens fault)
    (front : List Token) :
    FailsIn table limit (front ++ before) tokens fault := by
  obtain ⟨first, back, rfl, fails⟩ := fails
  refine ⟨first, back, rfl, ?_⟩
  rw [List.append_assoc]
  exact fails.append_left front

/-- What has been read belongs to the tokens as well as to what stands before
them. -/
theorem FailsIn.of_taken
    (fails : FailsIn table limit (before ++ taken.map Lexeme.token) rest
      fault) : FailsIn table limit before (taken ++ rest) fault := by
  obtain ⟨front, back, rfl, fails⟩ := fails
  refine ⟨taken ++ front, back, (List.append_assoc _ _ _).symm, ?_⟩
  rw [List.map_append, ← List.append_assoc]
  exact fails

/-- A fault behind a token that starts something new is one behind that
token. -/
theorem FailsIn.cons {lexeme : Lexeme}
    (fails : FailsIn table limit [] tokens fault) :
    FailsIn table limit before (lexeme :: tokens) fault := by
  rw [← List.singleton_append]
  apply of_taken
  rw [← List.append_nil (before ++ _)]
  exact fails.append_left _

end

namespace Written

variable {table : Table} {minimum : Int32} {left : Written}
  {symbol : String} {position : Nat} {rest : List Lexeme}
  {earlier operator : Operator}

/-- Where the parser compares the root of a left operand with the operator
behind it, only tighter operators stand between the two: the right operand of a
root that groups to the right would have taken the operator in. -/
theorem Canonical.trails_of_conflicts (canonical : left.Canonical table)
    (fits : left.Fits table minimum (⟨.operator symbol, position⟩ :: rest))
    (isRoot : left.root? table = some earlier)
    (registered : table.get? symbol = some operator)
    (conflicts : earlier.conflicts operator = true) :
    Token.Trails table left.tokens earlier := by
  apply canonical.trails_of_root? isRoot
  intro rightward
  have positive := canonical.root?_positive earlier isRoot
  have equal := Operator.precedence_eq_of_conflicts conflicts
  apply (fits earlier isRoot).2 operator registered
  exact (Operator.floor_lt_iff_acceptsRight positive).mpr
    (.inr ⟨equal.symm, rightward⟩)

end Written

namespace Reads

variable {table : Table} {limit room : Nat} {routine : Routine}

/-- A routine that fails at a place fails at one of the tokens in front of
it. -/
theorem failsIn {outcome : Outcome}
    (reads : Reads table limit room routine outcome) :
    ∀ fault, outcome = .error fault → fault.position?.isSome →
      routine.Ready table → room ≤ limit →
      FailsIn table limit routine.before routine.input fault := by
  induction reads with
  | noOperand =>
      intro fault failure _ _ _
      cases failure
      exact Fails.noOperand.failsIn
  | illegal =>
      intro fault failure _ _ _
      cases failure
      exact Fails.illegal.failsIn
  | @parensUnclosed room position _ behind inner _ reads unclosed =>
      intro fault failure placed _ enough
      cases failure
      obtain ⟨taken, input, spelled⟩ := reads.exists_taken _ _ rfl
      simp only [Routine.input, Routine.before, List.nil_append]
        at input spelled
      subst input
      rcases Expression.closeParen_eq_error unclosed with
        ⟨_, rfl⟩ | ⟨ch, place, rest, rfl, rfl⟩ |
        ⟨next, rest, rfl, more, notClosed, rfl⟩
      · cases placed
      · apply FailsIn.cons
        exact FailsIn.of_taken Fails.illegal.failsIn
      · obtain ⟨canonical, _⟩ := reads.canonical _ _ rfl (Int32.le_refl 0)
        have cost : inner.cost ≤ room := reads.cost_le _ _ rfl
        apply Fails.failsIn
        exact .unclosed canonical (by omega) spelled.symm more notClosed
          (reads.ends _ _ rfl)
  | parensFault _ inner =>
      intro fault failure placed _ enough
      exact (inner fault failure placed (Int32.le_refl 0) (by omega)).cons
  | unaryFault _ operand =>
      intro fault failure placed _ enough
      exact (operand fault failure placed trivial (by omega)).cons
  | chainFault _ operand =>
      intro fault failure placed _ enough
      exact operand fault failure placed trivial (by omega)
  | chain reads _ _ tail =>
      intro fault failure placed ready enough
      obtain ⟨taken, input, spelled⟩ := reads.exists_taken _ _ rfl
      obtain ⟨canonical, _⟩ := reads.canonical _ _ rfl trivial
      have fails := tail fault failure placed
        ⟨ready, canonical,
          Written.fits_of_not_isBinary reads.isBinary_of_operand⟩ (by omega)
      simp only [Routine.input, Routine.before] at input spelled fails
      rw [spelled] at fails
      rw [Routine.input, input]
      exact fails.of_taken
  | @conflict _ _ _ _ _ _ left _ registered _ isRoot conflicts =>
      intro fault failure _ ready _
      cases failure
      obtain ⟨_, canonical, fits⟩ := ready
      have trails :=
        canonical.trails_of_conflicts fits isRoot registered conflicts
      apply Fails.failsIn
      exact .conflict left.endsOperand_tokens trails registered conflicts
  | rightFault _ above _ _ right =>
      intro fault failure placed ready enough
      have positive := Int32.lt_of_le_of_lt ready.1 above
      exact (right fault failure placed (Operator.floor_nonneg positive)
        enough).cons
  | @extend _ position _ symbol _ left right _ _ _ registered above clear
      readsRight _ _ tail =>
      intro fault failure placed ready enough
      have positive := Int32.lt_of_le_of_lt ready.1 above
      obtain ⟨taken, input, spelled⟩ := readsRight.exists_taken _ _ rfl
      obtain ⟨canonical, rightAbove⟩ :=
        readsRight.canonical _ _ rfl (Operator.floor_nonneg positive)
      have fails := tail fault failure placed
        (ready.extend registered above clear canonical rightAbove
          (readsRight.ends _ _ rfl)) enough
      simp only [Routine.input, Routine.before, List.nil_append]
        at input spelled fails
      rw [Written.tokens, spelled] at fails
      rw [Routine.input, input, ← List.cons_append]
      exact fails.of_taken
  | operandTooDeep | chainTooDeep | endOfText | noTokens =>
      intro fault failure placed
      cases failure
      cases placed
  | number | parens | unary | stop =>
      intro fault failure
      cases failure

end Reads

/-- What the characters on both sides of its place show of a fault. -/
def ParseError.Shown (table : Table) (limit : Nat) (before after : String) :
    ParseError → Prop
  | .unexpectedToken token _ =>
      token.toList <+: after.toList ∧
        (Token.first table after.toList).isLast = false ∧
        (Token.first table after.toList).text = token
  | .unrecognizedCharacter ch _ =>
      after.toList.head? = some ch ∧ Text.isBlank ch = false ∧
        ch.isDigit = false ∧ ch ≠ '(' ∧ ch ≠ ')' ∧
        ∀ symbol ∈ table.symbols, symbol ≠ "" →
          ¬ symbol.toList <+: after.toList
  | .nonAssociativeChain symbol _ =>
      symbol.toList <+: after.toList ∧
        Token.first table after.toList = .operator symbol ∧
        ∃ tokens first second,
          (Lexeme.ofText table before).map Lexeme.token =
            tokens ++ [.endOfText] ∧
          Token.EndsOperand tokens ∧ Token.Trails table tokens first ∧
          table.get? symbol = some second ∧ first.conflicts second = true
  | .unbalancedParentheses _ =>
      (∃ beyond expression, after = ")" ++ beyond ∧
        Expression.parse table limit before = .ok expression) ∨
      ∃ inside beyond expression, after = "(" ++ (inside ++ beyond) ∧
        Expression.parse table limit inside = .ok expression ∧
        (Token.first table beyond.toList).isLast = false ∧
        Token.first table beyond.toList ≠ .rightParen ∧
        ∀ symbol operator,
          Token.first table beyond.toList = .operator symbol →
          table.get? symbol = some operator → ¬ 0 < operator.precedence
  | .unexpectedEnd => False
  | .nestingTooDeep _ => False

/-- A text cut in front of one of its tokens, with the tokens on both sides. -/
structure Cut (table : Table) (text before after : String)
    (front : List Lexeme) (lexeme : Lexeme) (back : List Lexeme) : Prop where
  text_eq : text = before ++ after
  lexed : Lexeme.ofText table text = front ++ lexeme :: back
  position_eq : lexeme.position = before.utf8ByteSize
  lexed_before : Lexeme.ofText table before =
    front ++ [⟨.endOfText, lexeme.position⟩]
  visible : ∀ ch ∈ after.toList.head?, Text.isBlank ch = false
  first_eq : Token.first table after.toList = lexeme.token
  lexed_after : (⟨lexeme.position, after.toList⟩ : Cursor).lexemes table =
    lexeme :: back

namespace Cut

variable {table : Table} {text before after : String}
  {front back : List Lexeme} {lexeme : Lexeme} {limit : Nat}
  {fault : ParseError}

theorem exists_of_lexemes
    (lexed : Lexeme.ofText table text = front ++ lexeme :: back) :
    ∃ before after, Cut table text before after front lexeme back := by
  obtain ⟨before, after, characters, position, lexedBefore, visible, first,
    lexedAfter⟩ := Cursor.exists_cut_of_lexemes lexed
  refine ⟨String.ofList before, String.ofList after, ?_⟩
  constructor
  · rw [← String.toList_inj, String.toList_append, String.toList_ofList,
      String.toList_ofList]
    exact characters
  · exact lexed
  · rw [Text.utf8ByteSize_eq_byteLength, String.toList_ofList, position,
      Cursor.start, Nat.zero_add]
  · rw [Lexeme.ofText, Cursor.start, String.toList_ofList]
    exact lexedBefore
  · rwa [String.toList_ofList]
  · rwa [String.toList_ofList]
  · rwa [String.toList_ofList]

theorem position_lt (cut : Cut table text before after front lexeme back)
    (goesOn : lexeme.token ≠ .endOfText) :
    lexeme.position < text.utf8ByteSize := by
  have nonempty : after.toList ≠ [] := by
    intro empty
    apply goesOn
    rw [← cut.first_eq, empty, Token.first]
  have length := List.length_pos_iff.mpr nonempty
  have bytes := Text.length_le_byteLength after.toList
  rw [cut.text_eq, cut.position_eq, String.utf8ByteSize_append,
    Text.utf8ByteSize_eq_byteLength after]
  omega

/-- A lexer at the cut hands out the token behind it. -/
theorem next_lexer (cut : Cut table text before after front lexeme back) :
    ((⟨text.toList, before.utf8ByteSize⟩ : Lexer).next table).1 =
      Token.first table after.toList := by
  have remaining : (⟨text.toList, before.utf8ByteSize⟩ : Lexer).cursor =
      ⟨before.utf8ByteSize, after.toList⟩ := by
    simp [Lexer.cursor, Lexer.remaining, cut.text_eq,
      Text.utf8ByteSize_eq_byteLength]
  simp only [Lexer.next, remaining, Cursor.next,
    Cursor.skipBlanks_of_head? cut.visible]

theorem exists_behind (cut : Cut table text before after front lexeme back)
    (more : lexeme.token.isLast = false) :
    ∃ stop beyond, after = lexeme.token.text ++ String.ofList beyond ∧
      (⟨stop, beyond⟩ : Cursor).lexemes table = back := by
  let cursor : Cursor := ⟨lexeme.position, after.toList⟩
  obtain ⟨isNext, _, others⟩ := Cursor.lexemes_eq_cons cut.lexed_after
  have stays : cursor.skipBlanks = cursor :=
    Cursor.skipBlanks_of_head? cut.visible
  have characters := cursor.skipBlanks_rest_eq_append table
  rw [stays, isNext] at characters
  refine ⟨_, _, ?_, others more⟩
  rw [← String.toList_inj, String.toList_append, String.toList_ofList]
  exact characters

theorem text_prefix (cut : Cut table text before after front lexeme back) :
    lexeme.token.text.toList <+: after.toList := by
  rw [← cut.first_eq]
  exact Token.text_prefix_first table after.toList

theorem spells_before {written : Written}
    (cut : Cut table text before after front lexeme back)
    (spelled : front.map Lexeme.token = written.tokens) :
    written.Spells table before := by
  rw [Written.Spells, cut.lexed_before, List.map_append, spelled]
  rfl

theorem shown_illegal {ch : Char} {position : Nat}
    (cut : Cut table text before after front lexeme back)
    (illegal : lexeme.token = .illegal ch) :
    (ParseError.unrecognizedCharacter ch position).Shown table limit before
      after := by
  have first := cut.first_eq.trans illegal
  cases characters : after.toList with
  | nil =>
      rw [characters] at first
      cases first
  | cons head tail =>
      rw [characters] at first
      obtain ⟨notDigit, notLeft, notRight, unmatched, rfl⟩ :=
        Token.first_eq_illegal_iff.mp first
      have visible := cut.visible head (by rw [characters]; rfl)
      refine ⟨by rw [characters]; rfl, visible, notDigit, notLeft, notRight,
        ?_⟩
      intro symbol member nonempty starts
      apply List.find?_eq_none.mp unmatched symbol member
      rw [characters] at starts
      exact Table.startsWith_iff.mpr ⟨nonempty, starts⟩

theorem shown_unexpected {position : Nat}
    (cut : Cut table text before after front lexeme back)
    (more : lexeme.token.isLast = false) :
    (ParseError.unexpectedToken lexeme.token.display position).Shown table
      limit before after := by
  have display : lexeme.token.display = lexeme.token.text := by
    match lexeme.token, more with
    | .number _, _ | .operator _, _ | .leftParen, _ | .rightParen, _ => rfl
  rw [display]
  refine ⟨cut.text_prefix, ?_, ?_⟩
  · rw [cut.first_eq, more]
  · rw [cut.first_eq]

theorem shown_unclosed {inner : Written} {inside rest : List Lexeme}
    {next : Lexeme} {position : Nat}
    (cut : Cut table text before after front lexeme (inside ++ next :: rest))
    (left : lexeme.token = .leftParen)
    (canonical : inner.Canonical table) (enough : inner.cost ≤ limit)
    (spelled : inside.map Lexeme.token = inner.tokens)
    (more : next.token.isLast = false) (notClosed : next.token ≠ .rightParen)
    (stops : Stops table 0 (next :: rest)) :
    (ParseError.unbalancedParentheses position).Shown table limit before
      after := by
  obtain ⟨stop, beyond, characters, lexed⟩ :=
    cut.exists_behind (by rw [left]; rfl)
  obtain ⟨within, behind, parts, _, lexedWithin, _, first, _⟩ :=
    Cursor.exists_cut_of_lexemes lexed
  have parts : beyond = within ++ behind := parts
  have spells : inner.Spells table (String.ofList within) := by
    have tokens := congrArg (List.map Lexeme.token) lexedWithin
    rw [List.map_append, spelled] at tokens
    rw [Written.Spells, Lexeme.ofText]
    refine Eq.trans ?_ tokens
    apply Cursor.map_token_lexemes_congr
    rw [Cursor.start, String.toList_ofList]
  right
  refine ⟨String.ofList within, String.ofList behind, inner.erase, ?_, ?_, ?_,
    ?_, ?_⟩
  · rw [characters, left, parts, String.ofList_append]
    rfl
  · rw [Expression.parse_of_canonical canonical spells, if_pos enough]
  · rw [String.toList_ofList, first, more]
  · rw [String.toList_ofList, first]
    exact notClosed
  · intro symbol operator isOperator registered
    rw [String.toList_ofList, first] at isOperator
    obtain ⟨token, place⟩ := next
    cases isOperator
    exact stops operator registered

theorem shown_of_fails
    (cut : Cut table text before after front lexeme back)
    (fails : Fails table limit (front.map Lexeme.token) (lexeme :: back)
      fault) :
    fault.Shown table limit before after := by
  cases fails with
  | noOperand => exact cut.shown_unexpected rfl
  | illegal => exact cut.shown_illegal rfl
  | conflict ends trails registered conflicts =>
      refine ⟨cut.text_prefix, cut.first_eq, front.map Lexeme.token, _, _, ?_,
        ends, trails, registered, conflicts⟩
      rw [cut.lexed_before, List.map_append]
      rfl
  | unclosed canonical enough spelled more notClosed stops =>
      exact cut.shown_unclosed rfl canonical enough spelled more notClosed
        stops

/-- What stands behind a whole expression shows why it cannot stand there. -/
theorem shown_of_complete {written : Written}
    (cut : Cut table text before after front lexeme back)
    (canonical : written.Canonical table) (enough : written.cost ≤ limit)
    (spelled : front.map Lexeme.token = written.tokens)
    (failure : Expression.complete written.erase (lexeme :: back) =
      .error fault) :
    fault.Shown table limit before after := by
  obtain ⟨token, position, more, equality, kinds⟩ :=
    Expression.complete_eq_error failure
  cases equality
  rcases kinds with ⟨rfl, rfl⟩ | ⟨ch, rfl, rfl⟩ | ⟨goesOn, _, rfl⟩
  · obtain ⟨_, beyond, characters, _⟩ := cut.exists_behind rfl
    refine .inl ⟨String.ofList beyond, written.erase, characters, ?_⟩
    rw [Expression.parse_of_canonical canonical (cut.spells_before spelled),
      if_pos enough]
  · exact cut.shown_illegal rfl
  · exact cut.shown_unexpected goesOn

end Cut

namespace Expression

variable {table : Table} {limit : Nat} {text : String} {fault : ParseError}
  {position : Nat}

/-- A fault with a place is at a token of the text that cannot stand there. -/
theorem exists_cut_of_parse_eq_error
    (failure : parse table limit text = .error fault)
    (placed : fault.position? = some position) :
    ∃ before after front token back,
      Cut table text before after front ⟨token, position⟩ back ∧
        token ≠ .endOfText ∧ fault.Shown table limit before after := by
  obtain ⟨outcome, reads, _⟩ :=
    (exists_reads table limit limit).2 0 (Lexeme.ofText table text)
  rw [parse_eq_of_reads reads] at failure
  cases outcome with
  | error other =>
      cases failure
      obtain ⟨front, behind, input, fails⟩ := reads.failsIn fault rfl
        (by rw [placed]; rfl) (Int32.le_refl 0) (Nat.le_refl limit)
      obtain ⟨token, back, rfl, goesOn⟩ := fails.exists_cons placed
      obtain ⟨before, after, cut⟩ := Cut.exists_of_lexemes input
      exact ⟨before, after, front, token, back, cut, goesOn,
        cut.shown_of_fails fails⟩
  | ok read =>
      obtain ⟨written, rest⟩ := read
      have failure : complete written.erase rest = .error fault := failure
      obtain ⟨canonical, _⟩ :=
        reads.canonical written rest rfl (Int32.le_refl 0)
      obtain ⟨front, input, spelled⟩ := reads.exists_taken written rest rfl
      obtain ⟨token, place, back, rfl, kinds⟩ := complete_eq_error failure
      obtain ⟨rfl, goesOn⟩ : place = position ∧ token ≠ .endOfText := by
        rcases kinds with ⟨rfl, rfl⟩ | ⟨ch, rfl, rfl⟩ | ⟨more, _, rfl⟩
        · cases placed
          exact ⟨rfl, Token.noConfusion⟩
        · cases placed
          exact ⟨rfl, Token.noConfusion⟩
        · cases placed
          refine ⟨rfl, ?_⟩
          rintro rfl
          cases more
      obtain ⟨before, after, cut⟩ := Cut.exists_of_lexemes input
      exact ⟨before, after, front, token, back, cut, goesOn,
        cut.shown_of_complete canonical (reads.cost_le _ _ rfl) spelled.symm
          failure⟩

/-- In front of the place of a fault there is no other one, which would be the
fault of the whole text. -/
theorem parse_before_fault {before after : String} {front back : List Lexeme}
    {token : Token}
    (failure : parse table limit text = .error fault)
    (placed : fault.position? = some position)
    (cut : Cut table text before after front ⟨token, position⟩ back) :
    parse table limit before = .error .unexpectedEnd ∨
      ∃ expression, parse table limit before = .ok expression := by
  cases result : parse table limit before with
  | ok expression => exact .inr ⟨expression, rfl⟩
  | error other =>
      left
      apply congrArg
      apply Classical.byContradiction
      intro final
      have whole : continued (⟨token, position⟩ :: back)
          (Lexeme.ofText table before) = Lexeme.ofText table text := by
        have goOn := Cursor.ne_endOfText_of_lexemes cut.lexed_before
        rw [cut.lexed_before, continued_append goOn]
        exact cut.lexed.symm
      have same := ofLexemes_continued result final (⟨token, position⟩ :: back)
      rw [whole] at same
      cases same.symm.trans failure
      obtain ⟨_, _, _, _, _, earlier, notEnd, _⟩ :=
        exists_cut_of_parse_eq_error result placed
      have short := earlier.position_lt notEnd
      rw [← cut.position_eq] at short
      exact absurd short (Nat.lt_irrefl _)

/-- An error with a place names the first fault of a text.  The place is the
start of a token, where the characters on both sides show the fault, and the
text in front of it alone is an expression or ends too early. -/
theorem parse_error_position (table : Table) (limit : Nat) (text : String)
    (fault : ParseError) (position : Nat)
    (failure : parse table limit text = .error fault)
    (placed : fault.position? = some position) :
    ∃ before after, text = before ++ after ∧
      before.utf8ByteSize = position ∧ position < text.utf8ByteSize ∧
      ((⟨text.toList, position⟩ : Lexer).next table).1 =
        Token.first table after.toList ∧
      fault.Shown table limit before after ∧
      (parse table limit before = .error .unexpectedEnd ∨
        ∃ expression, parse table limit before = .ok expression) := by
  obtain ⟨before, after, front, token, back, cut, goesOn, shown⟩ :=
    exists_cut_of_parse_eq_error failure placed
  have place : position = before.utf8ByteSize := cut.position_eq
  refine ⟨before, after, cut.text_eq, place.symm, cut.position_lt goesOn, ?_,
    shown, parse_before_fault failure placed cut⟩
  rw [place]
  exact cut.next_lexer

theorem parse_error_position_of_unclosed_sum :
    parse .standard 8 "2\u00a0*\u00a0(1+1 3)" =
        .error (.unbalancedParentheses 6) ∧
      ∃ before after, "2\u00a0*\u00a0(1+1 3)" = before ++ after ∧
        before.utf8ByteSize = 6 ∧
        (ParseError.unbalancedParentheses 6).Shown .standard 8 before after ∧
        (parse .standard 8 before = .error .unexpectedEnd ∨
          ∃ expression, parse .standard 8 before = .ok expression) := by
  have lexed : Lexeme.ofText .standard "2\u00a0*\u00a0(1+1 3)" =
      [⟨.number "2", 0⟩, ⟨.operator "*", 3⟩, ⟨.leftParen, 6⟩,
       ⟨.number "1", 7⟩, ⟨.operator "+", 8⟩, ⟨.number "1", 9⟩,
       ⟨.number "3", 11⟩, ⟨.rightParen, 12⟩, ⟨.endOfText, 13⟩] := by
    decide +kernel
  have failure : parse .standard 8 "2\u00a0*\u00a0(1+1 3)" =
      .error (.unbalancedParentheses 6) := by
    rw [parse, lexed]
    rfl
  obtain ⟨before, after, whole, place, _, _, shown, alone⟩ :=
    parse_error_position .standard 8 _ _ 6 failure rfl
  exact ⟨failure, before, after, whole, place, shown, alone⟩

end Expression

end Reckoner
