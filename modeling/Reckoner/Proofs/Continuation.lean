import Reckoner.Proofs.Grammar
import Reckoner.Proofs.Places

/-!
# What stands behind a text

The parser reads from left to right and looks at no token behind the one at
which it fails.  So a fault stays the same whatever follows
(`Reads.fault_continued`), with one exception: the end of the text, which
is met where more is expected.  Such a text can be completed within the same
limit, by an operand where one is missing and by the parentheses that are still
open (`Reads.exists_completion`).
-/

namespace Reckoner

/-- The tokens of a text that goes on with others in place of its end. -/
def continued (more : List Lexeme) : List Lexeme → List Lexeme
  | [] => more
  | ⟨.endOfText, _⟩ :: _ => more
  | lexeme :: rest => lexeme :: continued more rest

/-- A routine in front of a text that goes on. -/
def Routine.continued (more : List Lexeme) : Routine → Routine
  | .operand tokens => .operand (Reckoner.continued more tokens)
  | .chain minimum tokens => .chain minimum (Reckoner.continued more tokens)
  | .tail minimum left tokens =>
      .tail minimum left (Reckoner.continued more tokens)

/-- A parenthesis is closed here, or the text ends. -/
def Closes (tokens : List Lexeme) : Prop :=
  ∀ lexeme ∈ tokens.head?,
    lexeme.token = .rightParen ∨ lexeme.token = .endOfText

/-- An operand, if there is one, and closing parentheses. -/
def Token.missing (operand : Bool) (closings : Nat) : List Token :=
  (if operand then [.number "0"] else []) ++
    List.replicate closings .rightParen

theorem Token.missing_succ (operand : Bool) (closings : Nat) :
    missing operand (closings + 1) =
      missing operand closings ++ [.rightParen] := by
  rw [missing, missing, List.replicate_succ', List.append_assoc]

section

variable {table : Table} {minimum : Int32} {tokens more : List Lexeme}
  {lexeme : Lexeme}

theorem continued_of_atEnd (atEnd : AtEnd tokens) :
    continued more tokens = more := by
  match tokens with
  | [] | ⟨.endOfText, _⟩ :: _ => rfl
  | ⟨.number _, _⟩ :: _ | ⟨.operator _, _⟩ :: _ | ⟨.leftParen, _⟩ :: _
  | ⟨.rightParen, _⟩ :: _ | ⟨.illegal _, _⟩ :: _ =>
      exact absurd (atEnd _ rfl) Token.noConfusion

theorem continued_cons (goesOn : lexeme.token ≠ .endOfText) :
    continued more (lexeme :: tokens) = lexeme :: continued more tokens := by
  match lexeme with
  | ⟨.endOfText, _⟩ => exact absurd rfl goesOn
  | ⟨.number _, _⟩ | ⟨.operator _, _⟩ | ⟨.leftParen, _⟩ | ⟨.rightParen, _⟩
  | ⟨.illegal _, _⟩ => rfl

theorem continued_append {front rest : List Lexeme}
    (goOn : ∀ lexeme ∈ front, lexeme.token ≠ .endOfText) :
    continued more (front ++ rest) = front ++ continued more rest := by
  induction front with
  | nil => rfl
  | cons lexeme front inductionHypothesis =>
      rw [List.cons_append, continued_cons (goOn lexeme List.mem_cons_self),
        inductionHypothesis fun other member =>
          goOn other (List.mem_cons_of_mem _ member),
        List.cons_append]

theorem exists_cons_of_not_atEnd (goesOn : ¬ AtEnd tokens) :
    ∃ lexeme rest, tokens = lexeme :: rest ∧ lexeme.token ≠ .endOfText := by
  cases tokens with
  | nil => exact absurd (by simp [AtEnd]) goesOn
  | cons lexeme rest =>
      exact ⟨lexeme, rest, rfl, by simpa [AtEnd] using goesOn⟩

theorem Stops.of_head {rest other : List Lexeme}
    (stops : Stops table minimum (lexeme :: rest)) :
    Stops table minimum (lexeme :: other) := by
  match lexeme with
  | ⟨.operator _, _⟩ => exact stops
  | ⟨.number _, _⟩ | ⟨.leftParen, _⟩ | ⟨.rightParen, _⟩ | ⟨.endOfText, _⟩
  | ⟨.illegal _, _⟩ => trivial

theorem Closes.stops (closes : Closes tokens) :
    Stops table minimum tokens := by
  match tokens with
  | ⟨.operator _, _⟩ :: _ =>
      rcases closes _ rfl with impossible | impossible <;> cases impossible
  | [] | ⟨.number _, _⟩ :: _ | ⟨.leftParen, _⟩ :: _ | ⟨.rightParen, _⟩ :: _
  | ⟨.endOfText, _⟩ :: _ | ⟨.illegal _, _⟩ :: _ => trivial

theorem closes_rightParen {position : Nat} {rest : List Lexeme} :
    Closes (⟨.rightParen, position⟩ :: rest) := by
  intro lexeme member
  cases member
  exact .inl rfl

theorem Stops.continued (stops : Stops table minimum tokens)
    (closes : AtEnd tokens → Closes more) :
    Stops table minimum (continued more tokens) := by
  by_cases atEnd : AtEnd tokens
  · rw [continued_of_atEnd atEnd]
    exact (closes atEnd).stops
  · obtain ⟨lexeme, rest, rfl, goesOn⟩ := exists_cons_of_not_atEnd atEnd
    rw [continued_cons goesOn]
    exact stops.of_head

end

namespace Reads

variable {table : Table} {limit room : Nat} {routine : Routine}

theorem eq_of_tail_atEnd {minimum : Int32} {left : Written}
    {tokens : List Lexeme} {outcome : Outcome}
    (reads : Reads table limit room (.tail minimum left tokens) outcome)
    (atEnd : AtEnd tokens) : outcome = .ok (left, tokens) := by
  cases reads with
  | stop => rfl
  | conflict | rightFault | extend =>
      exact absurd (atEnd _ rfl) Token.noConfusion

theorem not_atEnd_of_tail {minimum : Int32} {left : Written}
    {tokens : List Lexeme} {fault : ParseError}
    (reads : Reads table limit room (.tail minimum left tokens)
      (.error fault)) : ¬ AtEnd tokens := by
  intro atEnd
  cases reads.eq_of_tail_atEnd atEnd

/-- What has been read is read alike in front of other tokens.  Where the end of
the text has been met, the tokens in its place must not extend what ends
there. -/
theorem continued {outcome : Outcome}
    (reads : Reads table limit room routine outcome) :
    ∀ written rest more, outcome = .ok (written, rest) →
      (AtEnd rest → Closes more) →
      Reads table limit room (routine.continued more)
        (.ok (written, Reckoner.continued more rest)) := by
  induction reads with
  | number =>
      intro written rest more success _
      cases success
      exact .number
  | parens _ inner =>
      intro written rest more success _
      cases success
      have innerReads := inner _ _ more rfl
        fun atEnd => absurd (atEnd _ rfl) Token.noConfusion
      exact .parens innerReads
  | unary _ operand =>
      intro written rest more success closes
      cases success
      exact .unary (operand _ _ more rfl closes)
  | @chain _ _ _ middle _ _ _ tailReads operand tail =>
      intro written rest more success closes
      have tailContinued := tail _ _ more success closes
      refine .chain (operand _ _ more rfl ?_) tailContinued
      intro atEnd
      rw [tailReads.eq_of_tail_atEnd atEnd] at success
      cases success
      exact closes atEnd
  | stop stops =>
      intro written rest more success closes
      cases success
      exact .stop (stops.continued closes)
  | extend registered above clear _ tailReads right tail =>
      intro written rest more success closes
      have tailContinued := tail _ _ more success closes
      refine .extend registered above clear (right _ _ more rfl ?_)
        tailContinued
      intro atEnd
      rw [tailReads.eq_of_tail_atEnd atEnd] at success
      cases success
      exact closes atEnd
  | _ =>
      intro written rest more success
      cases success

theorem closeParen_continued {position : Nat} {inner : Expression}
    {tokens : List Lexeme} {fault : ParseError}
    (unclosed : Expression.closeParen position inner tokens = .error fault)
    (goesOn : ¬ AtEnd tokens) (more : List Lexeme) :
    Expression.closeParen position inner (Reckoner.continued more tokens) =
      .error fault := by
  match tokens with
  | [] | ⟨.endOfText, _⟩ :: _ => exact absurd (by simp [AtEnd]) goesOn
  | ⟨.number _, _⟩ :: _ | ⟨.operator _, _⟩ :: _ | ⟨.leftParen, _⟩ :: _
  | ⟨.illegal _, _⟩ :: _ => exact unclosed
  | ⟨.rightParen, _⟩ :: _ => cases unclosed

/-- A fault that is not the end of the text is the same in front of other
tokens. -/
theorem fault_continued {outcome : Outcome}
    (reads : Reads table limit room routine outcome) :
    ∀ fault more, outcome = .error fault → fault ≠ .unexpectedEnd →
      Reads table limit room (routine.continued more) (.error fault) := by
  induction reads with
  | operandTooDeep =>
      intro fault more failure _
      cases failure
      exact .operandTooDeep
  | chainTooDeep =>
      intro fault more failure _
      cases failure
      exact .chainTooDeep
  | noOperand =>
      intro fault more failure _
      cases failure
      exact .noOperand
  | illegal =>
      intro fault more failure _
      cases failure
      exact .illegal
  | endOfText | noTokens =>
      intro fault more failure final
      cases failure
      exact absurd rfl final
  | @parensUnclosed _ _ _ behind _ _ reads unclosed =>
      intro fault more failure final
      cases failure
      have goesOn : ¬ AtEnd behind := by
        intro atEnd
        rcases Expression.closeParen_eq_error unclosed with
          ⟨_, same⟩ | ⟨_, _, _, rfl, _⟩ | ⟨_, _, rfl, notLast, _⟩
        · exact final same
        · exact absurd (atEnd _ rfl) Token.noConfusion
        · rw [atEnd _ rfl] at notLast
          cases notLast
      have inner := reads.continued _ _ more rfl
        fun atEnd => absurd atEnd goesOn
      exact .parensUnclosed inner (closeParen_continued unclosed goesOn more)
  | parensFault _ inner =>
      intro fault more failure final
      exact .parensFault (inner fault more failure final)
  | unaryFault _ operand =>
      intro fault more failure final
      exact .unaryFault (operand fault more failure final)
  | chainFault _ operand =>
      intro fault more failure final
      exact .chainFault (operand fault more failure final)
  | chain reads tailReads _ tail =>
      intro fault more failure final
      subst failure
      have left := reads.continued _ _ more rfl
        fun atEnd => absurd atEnd tailReads.not_atEnd_of_tail
      exact .chain left (tail fault more rfl final)
  | conflict registered above root conflicts =>
      intro fault more failure _
      cases failure
      exact .conflict registered above root conflicts
  | rightFault registered above clear _ right =>
      intro fault more failure final
      exact .rightFault registered above clear
        (right fault more failure final)
  | extend registered above clear reads tailReads _ tail =>
      intro fault more failure final
      subst failure
      have right := reads.continued _ _ more rfl
        fun atEnd => absurd atEnd tailReads.not_atEnd_of_tail
      exact .extend registered above clear right (tail fault more rfl final)
  | _ =>
      intro fault more failure
      cases failure

/-- A text that ends too early can be completed with the room at hand: by an
operand, unless the last one is there, and by closing parentheses. -/
theorem exists_completion {outcome : Outcome}
    (reads : Reads table limit room routine outcome) :
    outcome = .error .unexpectedEnd →
      ∃ operand closings, ∀ (missing : List Lexeme) behind,
        missing.map Lexeme.token = Token.missing operand closings →
        Closes behind →
        ∃ written, Reads table limit room
          (routine.continued (missing ++ behind)) (.ok (written, behind)) := by
  induction reads with
  | endOfText | noTokens =>
      intro _
      refine ⟨true, 0, ?_⟩
      intro missing behind tokens _
      obtain ⟨⟨token, position⟩, rfl, equality⟩ :=
        List.map_eq_singleton_iff.mp tokens
      cases equality
      exact ⟨_, .number⟩
  | @parensUnclosed _ _ _ last _ _ reads unclosed =>
      intro failure
      cases failure
      have atEnd : AtEnd last := by
        rcases Expression.closeParen_eq_error unclosed with
          ⟨atEnd, _⟩ | ⟨_, _, _, _, fault⟩ | ⟨_, _, _, _, _, fault⟩
        · exact atEnd
        · cases fault
        · cases fault
      refine ⟨false, 1, ?_⟩
      intro missing behind tokens _
      obtain ⟨⟨token, place⟩, rfl, equality⟩ :=
        List.map_eq_singleton_iff.mp tokens
      cases equality
      have inner := reads.continued _ _ (⟨.rightParen, place⟩ :: behind) rfl
        fun _ => closes_rightParen
      rw [continued_of_atEnd atEnd] at inner
      exact ⟨_, .parens inner⟩
  | parensFault _ inner =>
      intro failure
      obtain ⟨operand, closings, complete⟩ := inner failure
      refine ⟨operand, closings + 1, ?_⟩
      intro missing behind tokens _
      rw [Token.missing_succ] at tokens
      obtain ⟨inside, closing, rfl, insideTokens, closingTokens⟩ :=
        List.map_eq_append_iff.mp tokens
      obtain ⟨⟨token, place⟩, rfl, equality⟩ :=
        List.map_eq_singleton_iff.mp closingTokens
      cases equality
      obtain ⟨written, reads⟩ := complete inside
        (⟨.rightParen, place⟩ :: behind) insideTokens closes_rightParen
      rw [List.append_assoc]
      exact ⟨_, .parens reads⟩
  | unaryFault _ inner =>
      intro failure
      obtain ⟨operand, closings, complete⟩ := inner failure
      refine ⟨operand, closings, ?_⟩
      intro missing behind tokens closes
      obtain ⟨written, reads⟩ := complete missing behind tokens closes
      exact ⟨_, .unary reads⟩
  | chainFault _ inner =>
      intro failure
      obtain ⟨operand, closings, complete⟩ := inner failure
      refine ⟨operand, closings, ?_⟩
      intro missing behind tokens closes
      obtain ⟨written, reads⟩ := complete missing behind tokens closes
      exact ⟨written, .chain reads (.stop closes.stops)⟩
  | chain reads tailReads _ tail =>
      intro failure
      subst failure
      obtain ⟨operand, closings, complete⟩ := tail rfl
      refine ⟨operand, closings, ?_⟩
      intro missing behind tokens closes
      obtain ⟨written, completed⟩ := complete missing behind tokens closes
      have left := reads.continued _ _ (missing ++ behind) rfl
        fun atEnd => absurd atEnd tailReads.not_atEnd_of_tail
      exact ⟨written, .chain left completed⟩
  | rightFault registered above clear _ right =>
      intro failure
      obtain ⟨operand, closings, complete⟩ := right failure
      refine ⟨operand, closings, ?_⟩
      intro missing behind tokens closes
      obtain ⟨written, reads⟩ := complete missing behind tokens closes
      exact ⟨_, .extend registered above clear reads (.stop closes.stops)⟩
  | extend registered above clear reads tailReads _ tail =>
      intro failure
      subst failure
      obtain ⟨operand, closings, complete⟩ := tail rfl
      refine ⟨operand, closings, ?_⟩
      intro missing behind tokens closes
      obtain ⟨written, completed⟩ := complete missing behind tokens closes
      have right := reads.continued _ _ (missing ++ behind) rfl
        fun atEnd => absurd atEnd tailReads.not_atEnd_of_tail
      exact ⟨written, .extend registered above clear right completed⟩
  | _ =>
      intro failure
      cases failure

end Reads

namespace Token

variable {table : Table}

theorem ofChars_closings (table : Table) (closings : Nat) :
    ofChars table (List.replicate closings ')') =
      List.replicate closings .rightParen ++ [.endOfText] := by
  induction closings with
  | zero => exact ofChars_nil table
  | succ closings inductionHypothesis =>
      rw [List.replicate_succ, ofChars_rightParen, inductionHypothesis,
        List.replicate_succ, List.cons_append]

/-- A text of the missing tokens. -/
def missingText (operand : Bool) (closings : Nat) : List Char :=
  (if operand then ['0'] else []) ++ List.replicate closings ')'

theorem ofChars_missingText (table : Table) (operand : Bool)
    (closings : Nat) :
    ofChars table (missingText operand closings) =
      missing operand closings ++ [.endOfText] := by
  cases operand with
  | false => exact ofChars_closings table closings
  | true =>
      have stops : ∀ ch ∈ (List.replicate closings ')').head?,
          continuesNumber ch = false := by
        intro ch member
        rw [List.eq_of_mem_replicate (List.mem_of_mem_head? member)]
        decide
      have digits : (['0'] ++ List.replicate closings ')').takeWhile
          continuesNumber = ['0'] :=
        takeWhile_append_of_head? (List.forall_mem_singleton.mpr rfl) stops
      have read : first table ("0".toList ++ List.replicate closings ')') =
          .number "0" :=
        first_eq_number_iff.mpr ⟨by decide, congrArg String.ofList digits⟩
      have characters : (Token.number "0").text.toList = ['0'] := rfl
      have whole := ofChars_append_of_first characters (by decide) rfl read
      rw [ofChars_closings] at whole
      exact whole

end Token

namespace Expression

variable {table : Table} {limit : Nat} {text : String}
  {tokens : List Lexeme} {fault : ParseError}

theorem complete_continued {expression : Expression} {rest : List Lexeme}
    (failure : complete expression rest = .error fault) (more : List Lexeme) :
    ¬ AtEnd rest ∧
      complete expression (continued more rest) = .error fault := by
  match rest with
  | [] | ⟨.endOfText, _⟩ :: _ => cases failure
  | ⟨.number _, _⟩ :: _ | ⟨.operator _, _⟩ :: _ | ⟨.leftParen, _⟩ :: _
  | ⟨.rightParen, _⟩ :: _ | ⟨.illegal _, _⟩ :: _ =>
      exact ⟨fun atEnd => absurd (atEnd _ rfl) Token.noConfusion, failure⟩

/-- A fault that is not the end of the text does not depend on what stands
behind the text. -/
theorem ofLexemes_continued
    (failure : ofLexemes table limit tokens = .error fault)
    (final : fault ≠ .unexpectedEnd) (more : List Lexeme) :
    ofLexemes table limit (continued more tokens) = .error fault := by
  obtain ⟨outcome, reads, _⟩ := (exists_reads table limit limit).2 0 tokens
  rw [ofLexemes_eq_of_reads reads] at failure
  cases outcome with
  | error other =>
      cases failure
      exact ofLexemes_eq_of_reads
        (reads.fault_continued _ more rfl final)
  | ok read =>
      obtain ⟨goesOn, failureThere⟩ := complete_continued failure more
      have continuedReads := reads.continued _ _ more rfl
        fun atEnd => absurd atEnd goesOn
      exact (ofLexemes_eq_of_reads continuedReads).trans failureThere

theorem reads_of_unexpectedEnd
    (failure : ofLexemes table limit tokens = .error .unexpectedEnd) :
    Reads table limit limit (.chain 0 tokens) (.error .unexpectedEnd) := by
  obtain ⟨outcome, reads, _⟩ := (exists_reads table limit limit).2 0 tokens
  rw [ofLexemes_eq_of_reads reads] at failure
  cases outcome with
  | error other =>
      cases failure
      exact reads
  | ok read =>
      obtain ⟨_, _, _, _, ⟨_, fault⟩ | ⟨_, _, fault⟩ | ⟨_, _, fault⟩⟩ :=
        complete_eq_error failure <;> cases fault

theorem closes_endOfText {position : Nat} :
    Closes [⟨.endOfText, position⟩] := by
  intro lexeme member
  cases member
  exact .inr rfl

/-- Only a text that has an end is reported to end too early: without an end, a
continuation would have read the last token of the text, which cannot be read. -/
theorem exists_endOfText_of_unexpectedEnd
    (failure : parse table limit text = .error .unexpectedEnd) :
    ∃ lexeme ∈ Lexeme.ofText table text, lexeme.token = .endOfText := by
  apply Classical.byContradiction
  intro none
  have goOn : ∀ lexeme ∈ Lexeme.ofText table text,
      lexeme.token ≠ .endOfText :=
    fun lexeme member isEnd => none ⟨lexeme, member, isEnd⟩
  obtain ⟨operand, closings, completion⟩ :=
    (reads_of_unexpectedEnd failure).exists_completion rfl
  let missing : List Lexeme :=
    (Token.missing operand closings).map fun token => ⟨token, 0⟩
  obtain ⟨written, reads⟩ := completion missing [⟨.endOfText, 0⟩]
    (by simp [missing, Function.comp_def]) closes_endOfText
  obtain ⟨taken, input, spelled⟩ := reads.exists_taken _ _ rfl
  obtain ⟨front, last, lexed, lastIsLast, _⟩ :=
    Cursor.exists_lexemes_eq table (.start text)
  have whole : Lexeme.ofText table text ++ missing = taken := by
    apply List.append_cancel_right
    rw [List.append_assoc, ← input, Routine.continued, Routine.input,
      ← List.append_nil (Lexeme.ofText table text), continued_append goOn,
      List.append_nil]
    rfl
  have member : last.token ∈ written.tokens := by
    rw [spelled, ← whole, Lexeme.ofText, lexed]
    simp
  rw [Written.isLast_eq_false_of_mem_tokens member] at lastIsLast
  cases lastIsLast

theorem ofText_append (unspaced : table.Unspaced) (text more : String) :
    ((∃ lexeme ∈ Lexeme.ofText table text, lexeme.token = .endOfText) ∧
      Lexeme.ofText table (text ++ " " ++ more) =
        continued ((⟨text.utf8ByteSize, ' ' :: more.toList⟩ :
          Cursor).lexemes table) (Lexeme.ofText table text)) ∨
    ((∀ lexeme ∈ Lexeme.ofText table text, lexeme.token ≠ .endOfText) ∧
      Lexeme.ofText table (text ++ " " ++ more) =
        Lexeme.ofText table text) := by
  have whole : Lexeme.ofText table (text ++ " " ++ more) =
      ((Cursor.start text).followed (' ' :: more.toList)).lexemes table := by
    simp [Lexeme.ofText, Cursor.start, Cursor.followed]
  have blank : Text.isBlank ' ' = true := by decide
  obtain ⟨front, last, lexed, others⟩ :=
    Cursor.lexemes_followed unspaced blank (.start text) more.toList
  have goOn := Cursor.ne_endOfText_of_lexemes lexed
  rw [whole, Lexeme.ofText]
  rcases others with ⟨atEnd, behind⟩ | ⟨notAtEnd, same⟩
  · left
    refine ⟨⟨last, by simp [lexed], atEnd⟩, ?_⟩
    rw [behind, lexed, continued_append goOn,
      continued_of_atEnd (by simpa [AtEnd] using atEnd),
      Text.utf8ByteSize_eq_byteLength, Cursor.start, Nat.zero_add]
  · right
    refine ⟨?_, same⟩
    intro lexeme member
    rw [lexed, List.mem_append, List.mem_singleton] at member
    rcases member with inside | rfl
    · exact goOn lexeme inside
    · exact notAtEnd

theorem lexemes_missing (table : Table) (operand : Bool) (closings : Nat)
    (position : Nat) :
    ∃ (missing : List Lexeme) (stop : Nat),
      (⟨position, ' ' :: Token.missingText operand closings⟩ :
        Cursor).lexemes table = missing ++ [⟨.endOfText, stop⟩] ∧
      missing.map Lexeme.token = Token.missing operand closings := by
  have blank : Text.isBlank ' ' = true := by decide
  have tokens : ((⟨position, ' ' :: Token.missingText operand closings⟩ :
      Cursor).lexemes table).map Lexeme.token =
      Token.missing operand closings ++ [.endOfText] := by
    rw [← Token.ofChars_missingText table, ← Token.ofChars_blank blank]
    exact Cursor.map_token_lexemes_congr rfl
  obtain ⟨missing, final, equality, spelled, ends⟩ :=
    List.map_eq_append_iff.mp tokens
  obtain ⟨⟨token, stop⟩, rfl, isEnd⟩ := List.map_eq_singleton_iff.mp ends
  cases isEnd
  exact ⟨missing, stop, equality, spelled⟩

/-- Where no symbol has a blank in it, a text ends too early exactly if something
is missing that can still follow: some other text behind it makes it an
expression within the same limit.  Any other fault stays what and where it is,
whatever follows. -/
theorem parse_append_of_error {table : Table} (unspaced : table.Unspaced)
    (limit : Nat) (text : String) :
    (parse table limit text = .error .unexpectedEnd →
      ∃ more expression,
        parse table limit (text ++ " " ++ more) = .ok expression) ∧
    ∀ fault, parse table limit text = .error fault →
      fault ≠ .unexpectedEnd →
      ∀ more, parse table limit (text ++ " " ++ more) = .error fault := by
  constructor
  · intro failure
    obtain ⟨operand, closings, completion⟩ :=
      (reads_of_unexpectedEnd failure).exists_completion rfl
    refine ⟨String.ofList (Token.missingText operand closings), ?_⟩
    obtain ⟨last, member, isEnd⟩ := exists_endOfText_of_unexpectedEnd failure
    rcases ofText_append unspaced text
      (String.ofList (Token.missingText operand closings)) with
      ⟨_, behind⟩ | ⟨noEnd, _⟩
    · obtain ⟨missing, stop, lexed, tokens⟩ := lexemes_missing table operand
        closings text.utf8ByteSize
      rw [String.toList_ofList, lexed] at behind
      obtain ⟨written, reads⟩ := completion missing [⟨.endOfText, stop⟩] tokens
        closes_endOfText
      refine ⟨written.erase, ?_⟩
      rw [parse, behind]
      exact ofLexemes_eq_of_reads reads
    · exact absurd isEnd (noEnd last member)
  · intro fault failure final more
    rcases ofText_append unspaced text more with ⟨_, behind⟩ | ⟨_, same⟩
    · rw [parse, behind]
      exact ofLexemes_continued failure final _
    · rw [parse, same]
      exact failure

theorem parse_append_to_open_sum :
    (∃ more expression,
      parse .standard 8 ("2*(1+" ++ " " ++ more) = .ok expression) ∧
    ∀ more, parse .standard 8 ("2*(1+)" ++ " " ++ more) =
      .error (.unexpectedToken ")" 5) := by
  have unspaced : Table.standard.Unspaced := by decide
  have openSum : Lexeme.ofText .standard "2*(1+" =
      [⟨.number "2", 0⟩, ⟨.operator "*", 1⟩, ⟨.leftParen, 2⟩,
       ⟨.number "1", 3⟩, ⟨.operator "+", 4⟩, ⟨.endOfText, 5⟩] := by
    decide +kernel
  have closedSum : Lexeme.ofText .standard "2*(1+)" =
      [⟨.number "2", 0⟩, ⟨.operator "*", 1⟩, ⟨.leftParen, 2⟩,
       ⟨.number "1", 3⟩, ⟨.operator "+", 4⟩, ⟨.rightParen, 5⟩,
       ⟨.endOfText, 6⟩] := by
    decide +kernel
  constructor
  · apply (parse_append_of_error unspaced 8 _).1
    rw [parse, openSum]
    rfl
  · apply (parse_append_of_error unspaced 8 _).2
    · rw [parse, closedSum]
      rfl
    · exact ParseError.noConfusion

end Expression

end Reckoner
