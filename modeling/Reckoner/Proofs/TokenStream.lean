import Mathlib.Data.List.Forall2
import Reckoner.Proofs.OnDemand
import Reckoner.Proofs.Spacing

/-!
# Texts with the same tokens

What a text is parsed to hangs on its tokens alone: two texts with the same
tokens yield the same expression, or errors that differ only in their places,
and these are places of the same token.
-/

namespace Reckoner

/-- Two computations that both fail, with related errors, or both succeed, with
related values. -/
inductive Alike {ε α : Type} (errors : ε → ε → Prop) (values : α → α → Prop) :
    Except ε α → Except ε α → Prop where
  | error {first second : ε} : errors first second →
      Alike errors values (.error first) (.error second)
  | ok {first second : α} : values first second →
      Alike errors values (.ok first) (.ok second)

theorem Alike.bind {ε α β : Type} {errors : ε → ε → Prop}
    {values : α → α → Prop} {results : β → β → Prop}
    {first second : Except ε α} {firstNext secondNext : α → Except ε β}
    (alike : Alike errors values first second)
    (next : ∀ left right, values left right →
      Alike errors results (firstNext left) (secondNext right)) :
    Alike errors results (first >>= firstNext) (second >>= secondNext) := by
  cases alike with
  | error related => exact .error related
  | ok related => exact next _ _ related

/-- Two errors that differ only in their places, which are related. -/
inductive ParseError.Corresponds (places : Nat → Nat → Prop) :
    ParseError → ParseError → Prop where
  | unexpectedEnd : Corresponds places .unexpectedEnd .unexpectedEnd
  | unbalancedParentheses {first second : Nat} : places first second →
      Corresponds places (.unbalancedParentheses first)
        (.unbalancedParentheses second)
  | unexpectedToken {token : String} {first second : Nat} :
      places first second →
      Corresponds places (.unexpectedToken token first)
        (.unexpectedToken token second)
  | unrecognizedCharacter {ch : Char} {first second : Nat} :
      places first second →
      Corresponds places (.unrecognizedCharacter ch first)
        (.unrecognizedCharacter ch second)
  | nonAssociativeChain {symbol : String} {first second : Nat} :
      places first second →
      Corresponds places (.nonAssociativeChain symbol first)
        (.nonAssociativeChain symbol second)
  | nestingTooDeep {limit : Nat} :
      Corresponds places (.nestingTooDeep limit) (.nestingTooDeep limit)

/-- The same token at related places. -/
inductive Lexeme.Corresponds (places : Nat → Nat → Prop) :
    Lexeme → Lexeme → Prop where
  | same {token : Token} {first second : Nat} : places first second →
      Corresponds places ⟨token, first⟩ ⟨token, second⟩

theorem Lexeme.Corresponds.of_token_eq {places : Nat → Nat → Prop}
    {first second : Lexeme} (same : first.token = second.token)
    (placed : places first.position second.position) :
    Lexeme.Corresponds places first second := by
  obtain ⟨token, left⟩ := first
  obtain ⟨_, right⟩ := second
  cases same
  exact .same placed

namespace Expression

variable {places : Nat → Nat → Prop} {table : Table} {limit room : Nat}
  {minimum : Int32} {first second : List Lexeme}

/-- The same expression in front of the same tokens. -/
def SameRead (places : Nat → Nat → Prop)
    (first second : Expression × List Lexeme) : Prop :=
  first.1 = second.1 ∧ List.Forall₂ (Lexeme.Corresponds places) first.2 second.2

/-- Parsing came to the same result. -/
abbrev SameParsed (places : Nat → Nat → Prop) : Parsed → Parsed → Prop :=
  Alike (ParseError.Corresponds places) (SameRead places)

theorem stops_congr
    (same : List.Forall₂ (Lexeme.Corresponds places) first second) :
    Stops table minimum first ↔ Stops table minimum second := by
  cases same with
  | nil => exact Iff.rfl
  | cons head tail =>
      cases head with
      | @same token =>
          cases token with
          | operator | number | leftParen | rightParen | endOfText
          | illegal => exact Iff.rfl

theorem sameParsed_chain {operand : Int32 → List Lexeme → Parsed}
    (sameOperand : ∀ floor first second,
      List.Forall₂ (Lexeme.Corresponds places) first second →
      SameParsed places (operand floor first) (operand floor second))
    (same : List.Forall₂ (Lexeme.Corresponds places) first second)
    (count : Nat) (left : Expression) (previous : Option Operator) :
    SameParsed places
      (chain table operand minimum count left previous first)
      (chain table operand minimum count left previous second) := by
  induction count generalizing left previous first second with
  | zero =>
      rw [chain_zero, chain_zero]
      exact .ok ⟨rfl, same⟩
  | succ count inductionHypothesis =>
      by_cases stops : Stops table minimum first
      · rw [chain_of_stops stops, chain_of_stops ((stops_congr same).mp stops)]
        exact .ok ⟨rfl, same⟩
      · obtain ⟨symbol, position, rest, operator, rfl, registered, above⟩ :=
          exists_binds_of_not_stops stops
        obtain ⟨_, behind, ⟨related⟩, sameRest, rfl⟩ :=
          List.forall₂_cons_left_iff.mp same
        rw [chain_of_binds registered above, chain_of_binds registered above]
        split
        · exact .error (.nonAssociativeChain related)
        · apply (sameOperand operator.floor _ _ sameRest).bind
          rintro ⟨right, rest⟩ ⟨_, behind⟩ ⟨rfl, sameRest⟩
          exact inductionHypothesis sameRest _ _

theorem sameParsed_closeParen {left right : Nat} (related : places left right)
    (inner : Expression)
    (same : List.Forall₂ (Lexeme.Corresponds places) first second) :
    SameParsed places (closeParen left inner first)
      (closeParen right inner second) := by
  cases same with
  | nil => exact .error .unexpectedEnd
  | cons head tail =>
      cases head with
      | @same token _ _ placed =>
          cases token with
          | rightParen => exact .ok ⟨rfl, tail⟩
          | illegal => exact .error (.unrecognizedCharacter placed)
          | endOfText => exact .error .unexpectedEnd
          | number | operator | leftParen =>
              exact .error (.unbalancedParentheses related)

theorem sameParsed (places : Nat → Nat → Prop) (table : Table)
    (limit room : Nat) :
    (∀ first second, List.Forall₂ (Lexeme.Corresponds places) first second →
      SameParsed places (parseOperand table limit room first)
        (parseOperand table limit room second)) ∧
    (∀ minimum first second,
      List.Forall₂ (Lexeme.Corresponds places) first second →
      SameParsed places (parseChain table limit room minimum first)
        (parseChain table limit room minimum second)) := by
  induction room with
  | zero =>
      constructor
      · intro first second _
        rw [parseOperand, parseOperand]
        exact .error .nestingTooDeep
      · intro minimum first second _
        rw [parseChain, parseChain]
        exact .error .nestingTooDeep
  | succ room inner =>
      obtain ⟨sameOperand, sameChain⟩ := inner
      constructor
      · intro first second same
        cases same with
        | nil =>
            rw [parseOperand]
            exact .error .unexpectedEnd
        | cons head tail =>
            cases head with
            | @same token _ _ placed =>
                cases token with
                | number text =>
                    rw [parseOperand, parseOperand]
                    exact .ok ⟨rfl, tail⟩
                | leftParen =>
                    rw [parseOperand, parseOperand]
                    apply (sameChain 0 _ _ tail).bind
                    rintro ⟨inner, rest⟩ ⟨_, behind⟩ ⟨rfl, sameRest⟩
                    exact sameParsed_closeParen placed inner sameRest
                | operator symbol =>
                    rw [parseOperand, parseOperand]
                    apply (sameOperand _ _ tail).bind
                    rintro ⟨operand, rest⟩ ⟨_, behind⟩ ⟨rfl, sameRest⟩
                    exact .ok ⟨rfl, sameRest⟩
                | rightParen =>
                    rw [parseOperand, parseOperand]
                    exact .error (.unexpectedToken placed)
                | illegal =>
                    rw [parseOperand, parseOperand]
                    exact .error (.unrecognizedCharacter placed)
                | endOfText =>
                    rw [parseOperand, parseOperand]
                    exact .error .unexpectedEnd
      · intro minimum first second same
        rw [parseChain, parseChain]
        apply (sameOperand _ _ same).bind
        rintro ⟨left, rest⟩ ⟨_, behind⟩ ⟨rfl, sameRest⟩
        have lengths : rest.length = behind.length := sameRest.length_eq
        dsimp only
        rw [lengths]
        exact sameParsed_chain sameChain sameRest _ _ _

/-- Lists of the same tokens are parsed to the same result. -/
theorem alike_ofLexemes
    (same : List.Forall₂ (Lexeme.Corresponds places) first second) :
    Alike (ParseError.Corresponds places) Eq (ofLexemes table limit first)
      (ofLexemes table limit second) := by
  rw [ofLexemes, ofLexemes]
  apply ((sameParsed places table limit limit).2 0 _ _ same).bind
  rintro ⟨expression, rest⟩ ⟨_, behind⟩ ⟨rfl, sameRest⟩
  cases sameRest with
  | nil => exact .ok rfl
  | cons head tail =>
      cases head with
      | @same token _ _ placed =>
          cases token with
          | endOfText => exact .ok rfl
          | rightParen => exact .error (.unbalancedParentheses placed)
          | illegal => exact .error (.unrecognizedCharacter placed)
          | number | operator | leftParen =>
              exact .error (.unexpectedToken placed)

end Expression

namespace Token

variable {table : Table} {front : List Token} {text blanks rest : List Char}

/-- A text that goes on behind a blank has the tokens of both parts, if the
first part is read up to its end. -/
theorem ofChars_append_of_blank {ch : Char} (unspaced : table.Unspaced)
    (blank : Text.isBlank ch = true)
    (ended : ofChars table text = front ++ [.endOfText]) :
    ofChars table (text ++ ch :: rest) = front ++ ofChars table rest := by
  obtain ⟨before, last, lexed, cases⟩ :=
    Cursor.lexemes_followed unspaced blank ⟨0, text⟩ rest
  rw [ofChars, lexed, List.map_append, List.map_singleton] at ended
  obtain ⟨rfl, lastToken⟩ := List.append_inj' ended rfl
  rcases cases with ⟨_, behind⟩ | ⟨notAtEnd, _⟩
  · rw [Cursor.followed] at behind
    rw [ofChars, behind, List.map_append, ← ofChars_blank blank]
    exact congrArg _ (Cursor.map_token_lexemes_congr rfl)
  · exact absurd (List.singleton_inj.mp lastToken) notAtEnd

theorem ofChars_append_blanks (unspaced : table.Unspaced)
    (blank : ∀ ch ∈ blanks, Text.isBlank ch = true) :
    ofChars table (text ++ blanks) = ofChars table text := by
  cases blanks with
  | nil => rw [List.append_nil]
  | cons ch blanks =>
      obtain ⟨head, tail⟩ := List.forall_mem_cons.mp blank
      obtain ⟨before, last, lexed, cases⟩ :=
        Cursor.lexemes_followed unspaced head ⟨0, text⟩ blanks
      rcases cases with ⟨atEnd, _⟩ | ⟨_, same⟩
      · have ended : ofChars table text =
            before.map Lexeme.token ++ [.endOfText] := by
          rw [ofChars, lexed, List.map_append, List.map_singleton, atEnd]
        rw [ofChars_append_of_blank unspaced head ended,
          ofChars_of_blank tail, ended]
      · rw [Cursor.followed] at same
        rw [ofChars, same, ofChars]

end Token

namespace Lexeme

variable {table : Table}

/-- The places of the tokens with one number in two lists. -/
def SamePlace (first second : List Lexeme) (left right : Nat) : Prop :=
  ∃ index : Nat, first[index]?.map Lexeme.position = some left ∧
    second[index]?.map Lexeme.position = some right

theorem corresponds_of_map_token {first second : List Lexeme}
    (same : first.map Lexeme.token = second.map Lexeme.token) :
    List.Forall₂ (Lexeme.Corresponds (SamePlace first second)) first
      second := by
  apply List.forall₂_iff_get.mpr
  constructor
  · rw [← List.length_map Lexeme.token, same, List.length_map]
  · intro index inFirst inSecond
    have token : first[index].token = second[index].token := by
      have entries := congrArg (fun tokens => tokens[index]?) same
      simpa [inFirst, inSecond] using entries
    apply Lexeme.Corresponds.of_token_eq token
    refine ⟨index, ?_, ?_⟩
    · rw [List.getElem?_eq_getElem inFirst, Option.map_some]
    · rw [List.getElem?_eq_getElem inSecond, Option.map_some]

theorem map_token_ofText (table : Table) (text : String) :
    (ofText table text).map Lexeme.token =
      Token.ofChars table text.toList := rfl

/-- In front of a token the text can be cut, and the tokens with it. -/
theorem exists_ofChars_of_mem {before after : List Char} {lexeme : Lexeme}
    (member : lexeme ∈
      (⟨0, before ++ after⟩ : Cursor).lexemes table)
    (place : lexeme.position = Text.byteLength before) :
    ∃ front, Token.ofChars table before = front ++ [.endOfText] ∧
      Token.ofChars table (before ++ after) =
        front ++ Token.ofChars table after := by
  obtain ⟨front, back, lexed⟩ := List.append_of_mem member
  obtain ⟨start, rest, text_eq, position_eq, cut, _, _, others⟩ :=
    Cursor.exists_cut_of_lexemes lexed
  rw [Nat.zero_add] at position_eq
  have sameRest : rest = after := by
    rw [← Text.dropBytes_byteLength_append start rest, ← text_eq,
      ← position_eq, place, Text.dropBytes_byteLength_append]
  subst sameRest
  have sameStart : before = start := List.append_cancel_right text_eq
  subst sameStart
  refine ⟨front.map Lexeme.token, ?_, ?_⟩
  · rw [Token.ofChars, cut, List.map_append, List.map_singleton]
  · rw [Token.ofChars, lexed, List.map_append, ← others]
    exact congrArg _ (Cursor.map_token_lexemes_congr rfl)

/-- Blanks at the start of a text, at its end or in front of a token make no
difference to its tokens. -/
theorem map_token_insert (unspaced : table.Unspaced)
    {before blanks after : String}
    (blank : ∀ ch ∈ blanks.toList, Text.isBlank ch = true)
    (place : before = "" ∨ after = "" ∨
      ∃ lexeme ∈ ofText table (before ++ after),
        lexeme.position = before.utf8ByteSize) :
    (ofText table (before ++ blanks ++ after)).map Lexeme.token =
      (ofText table (before ++ after)).map Lexeme.token := by
  simp only [map_token_ofText, String.toList_append]
  rcases place with rfl | rfl | ⟨lexeme, member, position_eq⟩
  · exact Token.ofChars_blanks blank
  · simp only [String.toList_empty, List.append_nil]
    exact Token.ofChars_append_blanks unspaced blank
  · rw [Text.utf8ByteSize_eq_byteLength] at position_eq
    rw [ofText, Cursor.start, String.toList_append] at member
    obtain ⟨front, ended, whole⟩ := exists_ofChars_of_mem member position_eq
    cases characters : blanks.toList with
    | nil => rw [List.append_nil]
    | cons ch more =>
        rw [characters] at blank
        obtain ⟨head, tail⟩ := List.forall_mem_cons.mp blank
        rw [List.append_assoc, List.cons_append,
          Token.ofChars_append_of_blank unspaced head ended,
          Token.ofChars_blanks tail, whole]

end Lexeme

namespace Parser

/-- Parsing, which asks for one token after the other, is determined by the
tokens of a text.  Texts with the same tokens yield the same expression or the
same error at the places of the same token.  Blanks make no difference to the
tokens at the start, at the end and in front of any token, if there is no blank
in a symbol. -/
theorem parse_determined_by_tokens (table : Table) :
    (∀ limit text, parse table limit text =
      Expression.parse table limit text) ∧
    (∀ limit first second,
      (Lexeme.ofText table first).map Lexeme.token =
        (Lexeme.ofText table second).map Lexeme.token →
      Alike
        (ParseError.Corresponds (Lexeme.SamePlace (Lexeme.ofText table first)
          (Lexeme.ofText table second)))
        Eq (parse table limit first) (parse table limit second)) ∧
    (table.Unspaced → ∀ before blanks after : String,
      (∀ ch ∈ blanks.toList, Text.isBlank ch = true) →
      (before = "" ∨ after = "" ∨
        ∃ lexeme ∈ Lexeme.ofText table (before ++ after),
          lexeme.position = before.utf8ByteSize) →
      (Lexeme.ofText table (before ++ blanks ++ after)).map Lexeme.token =
        (Lexeme.ofText table (before ++ after)).map Lexeme.token) := by
  refine ⟨parse_eq table, ?_, ?_⟩
  · intro limit first second same
    rw [parse_eq, parse_eq, Expression.parse, Expression.parse]
    exact Expression.alike_ofLexemes (Lexeme.corresponds_of_map_token same)
  · intro unspaced before blanks after blank place
    exact Lexeme.map_token_insert unspaced blank place

theorem parse_determined_by_tokens_of_powers :
    parse .scientific 8 "2**-3 4" = .error (.unexpectedToken "4" 6) ∧
    Alike
      (ParseError.Corresponds
        (Lexeme.SamePlace (Lexeme.ofText .scientific "2**-3 4")
          (Lexeme.ofText .scientific "\t2 **\u00a0- 3 4")))
      Eq (parse .scientific 8 "2**-3 4")
      (parse .scientific 8 "\t2 **\u00a0- 3 4") ∧
    parse .scientific 8 "\t2 **\u00a0- 3 4" =
      .error (.unexpectedToken "4" 11) ∧
    (Lexeme.ofText .scientific ("2**" ++ "\u2003" ++ "-3 4")).map
        Lexeme.token =
      (Lexeme.ofText .scientific ("2**" ++ "-3 4")).map Lexeme.token := by
  have determined := parse_determined_by_tokens .scientific
  have sign : ⟨.operator "-", 3⟩ ∈
      Lexeme.ofText .scientific ("2**" ++ "-3 4") := by decide +kernel
  have blank : ∀ ch ∈ "\u2003".toList, Text.isBlank ch = true :=
    List.forall_mem_singleton.mpr (by decide)
  refine ⟨rfl, determined.2.1 8 _ _ (by decide +kernel), rfl, ?_⟩
  exact determined.2.2 (by decide) _ _ _ blank
    (.inr (.inr ⟨_, sign, rfl⟩))

end Parser

end Reckoner
