import Reckoner.Proofs.Canonical
import Reckoner.Proofs.Lexemes

/-!
# The grammar of expressions

A text is an expression exactly if its tokens are those of a canonical written
expression, which the tokens then determine.
-/

namespace Reckoner

namespace Written

/-- The tokens of a text are those of the expression. -/
def Spells (table : Table) (text : String) (written : Written) : Prop :=
  (Lexeme.ofText table text).map Lexeme.token =
    written.tokens ++ [.endOfText]

variable {table : Table} {text : String} {written : Written}

theorem Spells.exists_lexemes (spells : written.Spells table text) :
    ∃ lexemes position, Lexeme.ofText table text =
        lexemes ++ [⟨.endOfText, position⟩] ∧
      lexemes.map Lexeme.token = written.tokens ∧
      lexemes.length ≤ text.length ∧
      ∀ lexeme ∈ lexemes, lexeme.token.Legible table := by
  obtain ⟨lexemes, ⟨token, position⟩, equality, _, short, legible⟩ :=
    Cursor.exists_lexemes_eq table (.start text)
  rw [Spells, Lexeme.ofText, equality, List.map_append] at spells
  obtain ⟨spelled, final⟩ := List.append_inj' spells rfl
  cases final
  have characters : (Cursor.start text).rest.length = text.length := by
    rw [Cursor.start, String.length_toList]
  exact ⟨lexemes, position, equality, spelled, characters ▸ short, legible⟩

theorem Spells.legible (spells : written.Spells table text) :
    ∀ token ∈ written.tokens, token.Legible table := by
  obtain ⟨lexemes, _, _, spelled, _, legible⟩ := spells.exists_lexemes
  intro token member
  rw [← spelled] at member
  obtain ⟨lexeme, inside, rfl⟩ := List.mem_map.mp member
  exact legible lexeme inside

theorem Spells.length_tokens_le (spells : written.Spells table text) :
    written.tokens.length ≤ text.length := by
  obtain ⟨lexemes, _, _, spelled, short, _⟩ := spells.exists_lexemes
  rw [← spelled, List.length_map]
  exact short

theorem Spells.cost_le (spells : written.Spells table text) :
    written.cost ≤ text.length + 1 :=
  Nat.le_trans written.cost_le_length_tokens
    (Nat.succ_le_succ spells.length_tokens_le)

/-- What a text is read as, with nothing but the end of the text behind it. -/
theorem Spells.reads {limit : Nat} (spells : written.Spells table text)
    (canonical : written.Canonical table) (enough : written.cost ≤ limit) :
    ∃ position, Reads table limit limit
      (.chain 0 (Lexeme.ofText table text))
      (.ok (written, [⟨.endOfText, position⟩])) := by
  obtain ⟨lexemes, position, equality, spelled, _⟩ := spells.exists_lexemes
  have two := written.two_le_cost
  obtain ⟨room, rfl⟩ : ∃ inside, limit = inside + 1 :=
    Nat.exists_eq_add_one.mpr (by omega)
  refine ⟨position, ?_⟩
  rw [equality]
  exact (canonical.reads_operand_and_chain room lexemes _ spelled enough).2 0 _
    (canonical.fits_zero fun _ => trivial) (.stop trivial)

/-- The tokens of a text are those of at most one canonical expression. -/
theorem Spells.unique {other : Written} (spells : written.Spells table text)
    (canonical : written.Canonical table) (otherSpells : other.Spells table text)
    (otherCanonical : other.Canonical table) : written = other := by
  obtain ⟨_, reads⟩ := spells.reads canonical
    (Nat.le_max_left written.cost other.cost)
  obtain ⟨_, otherReads⟩ := otherSpells.reads otherCanonical
    (Nat.le_max_right written.cost other.cost)
  cases reads.unique otherReads
  rfl

end Written

namespace Expression

variable {table : Table} {limit : Nat} {text : String}

theorem ofLexemes_eq_of_reads {tokens : List Lexeme} {outcome : Outcome}
    (reads : Reads table limit limit (.chain 0 tokens) outcome) :
    ofLexemes table limit tokens =
      outcome.erase >>= fun read => complete read.1 read.2 := by
  rw [ofLexemes, reads.parseChain_eq]

theorem parse_eq_of_reads {outcome : Outcome}
    (reads : Reads table limit limit (.chain 0 (Lexeme.ofText table text))
      outcome) :
    parse table limit text =
      outcome.erase >>= fun read => complete read.1 read.2 :=
  ofLexemes_eq_of_reads reads

theorem complete_eq_ok {read expression : Expression} {rest : List Lexeme}
    (success : complete read rest = .ok expression) :
    read = expression ∧
      (rest = [] ∨ ∃ position more,
        rest = ⟨.endOfText, position⟩ :: more) := by
  unfold complete at success
  split at success
  · rename_i position more
    cases success
    exact ⟨rfl, .inr ⟨position, more, rfl⟩⟩
  · cases success
    exact ⟨rfl, .inl rfl⟩
  all_goals cases success

theorem complete_eq_error {read : Expression} {rest : List Lexeme}
    {fault : ParseError} (failure : complete read rest = .error fault) :
    ∃ token position more, rest = ⟨token, position⟩ :: more ∧
      ((token = .rightParen ∧ fault = .unbalancedParentheses position) ∨
        (∃ ch, token = .illegal ch ∧
          fault = .unrecognizedCharacter ch position) ∨
        (token.isLast = false ∧ token ≠ .rightParen ∧
          fault = .unexpectedToken token.display position)) := by
  match rest with
  | [] | ⟨.endOfText, _⟩ :: _ => cases failure
  | ⟨.rightParen, position⟩ :: more =>
      cases failure
      exact ⟨_, _, more, rfl, .inl ⟨rfl, rfl⟩⟩
  | ⟨.illegal ch, position⟩ :: more =>
      cases failure
      exact ⟨_, _, more, rfl, .inr (.inl ⟨ch, rfl, rfl⟩)⟩
  | ⟨.number _, _⟩ :: more | ⟨.operator _, _⟩ :: more
  | ⟨.leftParen, _⟩ :: more =>
      cases failure
      exact ⟨_, _, more, rfl, .inr (.inr ⟨rfl, Token.noConfusion, rfl⟩)⟩

/-- Behind a reading the text ends only with its last token. -/
theorem eq_singleton_of_ends {written : Written} {taken rest : List Lexeme}
    (input : Lexeme.ofText table text = taken ++ rest)
    (spelled : written.tokens = taken.map Lexeme.token)
    (ends : rest = [] ∨ ∃ position more,
      rest = ⟨.endOfText, position⟩ :: more) :
    ∃ position, rest = [⟨.endOfText, position⟩] := by
  obtain ⟨front, last, equality, lastIsLast, _, legible⟩ :=
    Cursor.exists_lexemes_eq table (.start text)
  rw [Lexeme.ofText, equality] at input
  rcases ends with rfl | ⟨position, more, rfl⟩
  · rw [List.append_nil] at input
    have member : last.token ∈ written.tokens := by
      simp [spelled, ← input]
    rw [Written.isLast_eq_false_of_mem_tokens member] at lastIsLast
    cases lastIsLast
  · refine ⟨position, ?_⟩
    cases more with
    | nil => rfl
    | cons next more =>
        have dropped := congrArg List.dropLast input
        rw [List.dropLast_concat,
          List.dropLast_append_of_ne_nil (List.cons_ne_nil _ _),
          List.dropLast_cons_of_ne_nil (List.cons_ne_nil _ _)] at dropped
        have inFront : (⟨.endOfText, position⟩ : Lexeme) ∈ front := by
          simp [dropped]
        exact (legible _ inFront).elim

theorem exists_of_parse_eq_ok {expression : Expression}
    (success : parse table limit text = .ok expression) :
    ∃ written : Written, written.Canonical table ∧
      written.Spells table text ∧ written.erase = expression ∧
      written.cost ≤ limit := by
  obtain ⟨outcome, reads, _⟩ :=
    (exists_reads table limit limit).2 0 (Lexeme.ofText table text)
  rw [parse_eq_of_reads reads] at success
  cases outcome with
  | error fault => cases success
  | ok read =>
      obtain ⟨written, rest⟩ := read
      obtain ⟨erased, ends⟩ := complete_eq_ok success
      obtain ⟨canonical, _⟩ :=
        reads.canonical written rest rfl (Int32.le_refl 0)
      obtain ⟨taken, input, spelled⟩ := reads.exists_taken written rest rfl
      obtain ⟨position, rfl⟩ := eq_singleton_of_ends input spelled ends
      refine ⟨written, canonical, ?_, erased,
        reads.cost_le written _ rfl⟩
      rw [Written.Spells, spelled]
      have equality := congrArg (List.map Lexeme.token) input
      rwa [List.map_append] at equality

theorem parse_of_canonical {written : Written}
    (canonical : written.Canonical table) (spells : written.Spells table text) :
    parse table limit text =
      if written.cost ≤ limit then .ok written.erase
      else .error (.nestingTooDeep limit) := by
  split
  · rename_i enough
    obtain ⟨position, reads⟩ := spells.reads canonical enough
    rw [parse_eq_of_reads reads]
    rfl
  · rename_i short
    obtain ⟨lexemes, position, equality, spelled, _⟩ := spells.exists_lexemes
    have reads : Reads table limit limit
        (.chain 0 (Lexeme.ofText table text))
        (.error (.nestingTooDeep limit)) := by
      rw [equality]
      exact (canonical.tooDeep lexemes _ spelled).2 limit 0
        (canonical.fits_zero fun _ => trivial) (Nat.lt_of_not_le short)
    rw [parse_eq_of_reads reads]
    rfl

/-- A text is an expression exactly if its tokens are those of a canonical
written expression that fits into the limit; the tokens determine the written
expression, and one that does not fit is reported as too deep.  No limit above
the number of characters rejects an expression. -/
theorem parse_eq_ok_iff_canonical (table : Table) (limit : Nat)
    (text : String) :
    (∀ expression, parse table limit text = .ok expression ↔
      ∃ written : Written, written.Canonical table ∧
        written.Spells table text ∧ written.erase = expression ∧
        written.cost ≤ limit) ∧
    (∀ first second : Written,
      first.Canonical table → first.Spells table text →
      second.Canonical table → second.Spells table text → first = second) ∧
    (∀ written : Written, written.Canonical table →
      written.Spells table text →
        written.cost ≤ text.length + 1 ∧
          (limit < written.cost →
            parse table limit text = .error (.nestingTooDeep limit))) := by
  refine ⟨?_, ?_, ?_⟩
  · intro expression
    constructor
    · exact exists_of_parse_eq_ok
    · rintro ⟨written, canonical, spells, rfl, enough⟩
      rw [parse_of_canonical canonical spells, if_pos enough]
  · intro first second firstCanonical firstSpells secondCanonical secondSpells
    exact firstSpells.unique firstCanonical secondSpells secondCanonical
  · intro written canonical spells
    refine ⟨spells.cost_le, ?_⟩
    intro short
    rw [parse_of_canonical canonical spells, if_neg (Nat.not_le_of_lt short)]

theorem parse_power_of_negation :
    parse .scientific 4 "2*-3**2" =
        .ok (.binary "*" (.literal "2")
          (.binary "**" (.unary "-" (.literal "3")) (.literal "2"))) ∧
      parse .scientific 3 "2*-3**2" = .error (.nestingTooDeep 3) := by
  let written : Written := .binary "*" (.literal "2")
    (.binary "**" (.unary "-" (.literal "3")) (.literal "2"))
  have times : Table.scientific.get? "*" =
      some (Arithmetic.multiply.operator 20 .left) := by rfl
  have power : Table.scientific.get? "**" =
      some (Arithmetic.power.operator 30 .right) := by rfl
  have canonical : written.Canonical .scientific := by
    refine .binary times (by decide) (by simp [Written.root?]) ?_ (.literal _)
      (.binary power (by decide) (by simp [Written.root?])
        (by simp [Written.root?]) (.unary rfl (.literal _)) (.literal _))
    intro inner member
    rw [Written.root?, power, Option.mem_some] at member
    exact member ▸ .inl (by decide)
  have spells : written.Spells .scientific "2*-3**2" := by
    rw [Written.Spells]
    decide +kernel
  exact ⟨((parse_eq_ok_iff_canonical .scientific 4 _).1 _).mpr
      ⟨written, canonical, spells, rfl, by decide⟩,
    ((parse_eq_ok_iff_canonical .scientific 3 _).2.2 written canonical
      spells).2 (by decide)⟩

end Expression

end Reckoner
