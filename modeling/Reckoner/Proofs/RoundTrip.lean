import Reckoner.Proofs.Grammar
import Reckoner.Proofs.Spelling

/-!
# Rendered expressions

Rendering puts every application into parentheses, so that precedence and
associativity have no say in how it is read.  What parsing returns can be
rendered, and the rendered text is parsed to the same expression again.
-/

namespace Reckoner

namespace Expression

/-- The expression can be written with the symbols of a table: literals are
numbers, and operators are registered, with a precedence above zero where they
stand between two operands. -/
def WellFormed (table : Table) : Expression → Prop
  | .literal text => Token.IsNumber text
  | .unary symbol operand =>
      symbol ∈ table.symbols ∧ operand.WellFormed table
  | .binary symbol left right =>
      (∃ operator, table.get? symbol = some operator ∧
        0 < operator.precedence) ∧
      left.WellFormed table ∧ right.WellFormed table

/-- The expression as rendering writes it. -/
def written : Expression → Written
  | .literal text => .literal text
  | .unary symbol operand => .parens (.unary symbol operand.written)
  | .binary symbol left right =>
      .parens (.binary symbol left.written right.written)

theorem erase_written (expression : Expression) :
    expression.written.erase = expression := by
  induction expression with
  | literal text => rfl
  | unary symbol operand equality =>
      rw [written, Written.erase, Written.erase, equality]
  | binary symbol left right leftEquality rightEquality =>
      rw [written, Written.erase, Written.erase, leftEquality, rightEquality]

theorem isBinary_written (expression : Expression) :
    expression.written.isBinary = false := by
  cases expression <;> rfl

theorem root?_written (table : Table) (expression : Expression) :
    expression.written.root? table = none :=
  Written.root?_of_not_isBinary expression.isBinary_written

theorem cost_written_lt (expression : Expression) :
    expression.written.cost < 3 * expression.depth := by
  induction expression with
  | literal text => exact Nat.lt_succ_self 2
  | unary symbol operand bound =>
      simp only [written, Written.cost, depth]
      omega
  | binary symbol left right leftBound rightBound =>
      simp only [written, Written.cost, depth]
      omega

variable {table : Table} {expression : Expression}

theorem WellFormed.canonical_written (wellFormed : expression.WellFormed table) :
    expression.written.Canonical table := by
  induction expression with
  | literal text => exact .literal text
  | unary symbol operand canonical =>
      exact .parens (.unary operand.isBinary_written (canonical wellFormed.2))
  | binary symbol left right leftCanonical rightCanonical =>
      obtain ⟨⟨operator, registered, positive⟩, leftFormed, rightFormed⟩ :=
        wellFormed
      refine .parens (.binary registered positive ?_ ?_
        (leftCanonical leftFormed) (rightCanonical rightFormed))
      · simp [left.root?_written]
      · simp [right.root?_written]

theorem WellFormed.isReserved_head?_render
    (wellFormed : expression.WellFormed table) (rest : List Char) :
    ∀ ch ∈ (expression.render.toList ++ rest).head?,
      Symbol.isReserved ch = true := by
  intro ch member
  cases expression with
  | literal text =>
      obtain ⟨digit, tail, equality, isDigit, _⟩ := wellFormed
      rw [render, equality, List.cons_append, List.head?_cons,
        Option.mem_some] at member
      simp [Symbol.isReserved, ← member, isDigit]
  | unary | binary =>
      simp [render] at member
      simp [Symbol.isReserved, ← member]

/-- A rendered expression is read back token by token, whatever stands behind
it, unless a number at its end would go on there. -/
theorem WellFormed.ofChars_render (wellFormed : expression.WellFormed table)
    (validated : table.Validated) (rest : List Char)
    (stops : ∀ ch ∈ rest.head?, Token.continuesNumber ch = false) :
    Token.ofChars table (expression.render.toList ++ rest) =
      expression.written.tokens ++ Token.ofChars table rest := by
  induction expression generalizing rest with
  | literal text =>
      have legible : (Token.number text).Legible table := wellFormed
      exact legible.ofChars_append validated stops
  | unary symbol operand readOperand =>
      obtain ⟨member, operandFormed⟩ := wellFormed
      have legible : (Token.operator symbol).Legible table :=
        ⟨validated.ne_empty member, member⟩
      have readSymbol := legible.ofChars_append validated
        (operandFormed.isReserved_head?_render (')' :: rest))
      rw [Token.text] at readSymbol
      simp only [render, written, Written.tokens, String.toList_append,
        List.append_assoc, List.cons_append, List.nil_append]
      calc
        Token.ofChars table ("(".toList ++ (symbol.toList ++
            (operand.render.toList ++ (")".toList ++ rest)))) =
            .leftParen :: Token.ofChars table (symbol.toList ++
              (operand.render.toList ++ ')' :: rest)) :=
          Token.ofChars_leftParen
        _ = .leftParen :: .operator symbol :: Token.ofChars table
              (operand.render.toList ++ ')' :: rest) := by
          rw [readSymbol]
        _ = .leftParen :: .operator symbol :: (operand.written.tokens ++
              Token.ofChars table (')' :: rest)) := by
          rw [readOperand operandFormed _ (by simp [Token.continuesNumber])]
        _ = .leftParen :: .operator symbol :: (operand.written.tokens ++
              .rightParen :: Token.ofChars table rest) := by
          rw [Token.ofChars_rightParen]
  | binary symbol left right readLeft readRight =>
      obtain ⟨⟨operator, registered, _⟩, leftFormed, rightFormed⟩ := wellFormed
      have member : symbol ∈ table.symbols :=
        Table.mem_symbols_iff.mpr ⟨operator, registered⟩
      have legible : (Token.operator symbol).Legible table :=
        ⟨validated.ne_empty member, member⟩
      have blank : Text.isBlank ' ' = true := by decide
      have reserved : Symbol.isReserved ' ' = true := by decide
      have readSymbol (more : List Char) :
          Token.ofChars table (symbol.toList ++ ' ' :: more) =
            .operator symbol :: Token.ofChars table (' ' :: more) :=
        legible.ofChars_append validated (by simp [Token.Apart, reserved])
      simp only [render, written, Written.tokens, String.toList_append,
        List.append_assoc, List.cons_append, List.nil_append]
      calc
        Token.ofChars table ("(".toList ++ (left.render.toList ++
            (" ".toList ++ (symbol.toList ++ (" ".toList ++
              (right.render.toList ++ (")".toList ++ rest))))))) =
            .leftParen :: Token.ofChars table (left.render.toList ++
              ' ' :: (symbol.toList ++ ' ' ::
                (right.render.toList ++ ')' :: rest))) :=
          Token.ofChars_leftParen
        _ = .leftParen :: (left.written.tokens ++ Token.ofChars table
              (symbol.toList ++ ' ' ::
                (right.render.toList ++ ')' :: rest))) := by
          rw [readLeft leftFormed _ (by simp [Token.continuesNumber]),
            Token.ofChars_blank blank]
        _ = .leftParen :: (left.written.tokens ++ .operator symbol ::
              Token.ofChars table (right.render.toList ++ ')' :: rest)) := by
          rw [readSymbol, Token.ofChars_blank blank]
        _ = .leftParen :: (left.written.tokens ++ .operator symbol ::
              (right.written.tokens ++ .rightParen ::
                Token.ofChars table rest)) := by
          rw [readRight rightFormed _ (by simp [Token.continuesNumber]),
            Token.ofChars_rightParen]

theorem WellFormed.spells_render (wellFormed : expression.WellFormed table)
    (validated : table.Validated) :
    expression.written.Spells table expression.render := by
  have read := wellFormed.ofChars_render validated [] (by simp)
  rwa [List.append_nil, Token.ofChars_nil] at read

theorem wellFormed_erase {written : Written}
    (canonical : written.Canonical table)
    (legible : ∀ token ∈ written.tokens, token.Legible table) :
    written.erase.WellFormed table := by
  induction canonical with
  | literal text => exact legible _ (List.mem_singleton_self _)
  | unary _ _ operandFormed =>
      have symbolLegible := legible _ List.mem_cons_self
      exact ⟨symbolLegible.2, operandFormed fun token member =>
        legible token (List.mem_cons_of_mem _ member)⟩
  | binary registered positive _ _ _ _ leftFormed rightFormed =>
      refine ⟨⟨_, registered, positive⟩, leftFormed ?_, rightFormed ?_⟩
      · intro token member
        exact legible token (List.mem_append_left _ member)
      · intro token member
        exact legible token (List.mem_append_right _
          (List.mem_cons_of_mem _ member))
  | parens _ innerFormed =>
      apply innerFormed
      intro token member
      exact legible token (List.mem_cons_of_mem _
        (List.mem_append_left _ member))

theorem wellFormed_of_parse_eq_ok {limit : Nat} {text : String}
    (success : parse table limit text = .ok expression) :
    expression.WellFormed table := by
  obtain ⟨written, canonical, spells, rfl, _⟩ := exists_of_parse_eq_ok success
  exact wellFormed_erase canonical spells.legible

/-- Parsing returns expressions that are well-formed over the table, and undoes
rendering: over a table of valid symbols every well-formed expression is parsed
from its own text, within three levels for each of its own. -/
theorem parse_render (table : Table) :
    (∀ limit text expression, parse table limit text = .ok expression →
      expression.WellFormed table) ∧
    (table.Validated → ∀ limit expression, expression.WellFormed table →
      3 * expression.depth - 1 ≤ limit →
        parse table limit expression.render = .ok expression) := by
  constructor
  · intro limit text expression success
    exact wellFormed_of_parse_eq_ok success
  · intro validated limit expression wellFormed enough
    have cost := expression.cost_written_lt
    rw [parse_of_canonical wellFormed.canonical_written
      (wellFormed.spells_render validated), if_pos (by omega),
      erase_written]

theorem parse_render_of_powers :
    (literal "7").WellFormed .standard ∧
      parse .scientific 8 "((-1.5) ** (2 ** 3))" =
        .ok (.binary "**" (.unary "-" (.literal "1.5"))
          (.binary "**" (.literal "2") (.literal "3"))) := by
  let powers : Expression := .binary "**" (.unary "-" (.literal "1.5"))
    (.binary "**" (.literal "2") (.literal "3"))
  have power : Table.scientific.get? "**" =
      some (Arithmetic.power.operator 30 .right) := by rfl
  have wellFormed : powers.WellFormed .scientific :=
    ⟨⟨_, power, by decide⟩,
      ⟨by decide, '1', ['.', '5'], by decide, by decide,
        List.all_eq_true.mp (by decide)⟩,
      ⟨_, power, by decide⟩,
      ⟨'2', [], by decide, by decide, List.forall_mem_nil _⟩,
      ⟨'3', [], by decide, by decide, List.forall_mem_nil _⟩⟩
  have digit : parse .standard 2 "7" = .ok (.literal "7") := by
    have read : Lexeme.ofText .standard "7" =
        [⟨.number "7", 0⟩, ⟨.endOfText, 1⟩] := by
      decide +kernel
    rw [parse, read]
    rfl
  constructor
  · exact (parse_render .standard).1 2 "7" _ digit
  · exact (parse_render .scientific).2 (by decide) 8 powers wellFormed
      (by decide)

end Expression

end Reckoner
