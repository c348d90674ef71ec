import Reckoner.Calculator
import Reckoner.Proofs.Grouping
import Reckoner.Proofs.OnDemand
import Reckoner.Proofs.Registration

/-!
# Tables with the same ranking

Of the precedences of a table only their order counts, and which of them are
positive: two tables that agree in this, and in how operators are grouped, parse
every text to the same result.  The numbers reach the parser as minima of
chains.  Minima of the two tables correspond when they let the operators of the
same symbols in (`Table.SameCut`), and the floors of an operator correspond in
this sense, whether they lie at its precedence or right below it.
-/

namespace Reckoner

namespace Table

/-- The tables have the same symbols, grouped alike, and the same ranking of
those with a positive precedence. -/
structure SameRanking (first second : Table) : Prop where
  mem_symbols_iff : ∀ symbol, symbol ∈ first.symbols ↔ symbol ∈ second.symbols
  associativity_eq : ∀ symbol ∈ first.symbols,
    (first.get? symbol).map Operator.associativity =
      (second.get? symbol).map Operator.associativity
  positive_iff : ∀ symbol ∈ first.symbols,
    0 < first.precedence symbol ↔ 0 < second.precedence symbol
  precedence_lt_iff : ∀ left ∈ first.symbols, ∀ right ∈ first.symbols,
    0 < first.precedence left → 0 < first.precedence right →
    (first.precedence left < first.precedence right ↔
      second.precedence left < second.precedence right)

/-- The operators of one symbol in two tables. -/
def Counterparts (first second : Table) (left right : Operator) : Prop :=
  ∃ symbol, first.get? symbol = some left ∧ second.get? symbol = some right

/-- The minima let the operators of the same symbols in, and of those only such
with a positive precedence. -/
structure SameCut (first second : Table) (minimum other : Int32) : Prop where
  nonneg : 0 ≤ minimum
  lt_iff : ∀ left right, first.Counterparts second left right →
    (minimum < left.precedence ↔ other < right.precedence)

variable {first second table : Table} {symbol : String}
  {operator left right left' right' : Operator} {minimum other : Int32}

theorem precedence_of_get? (registered : table.get? symbol = some operator) :
    table.precedence symbol = operator.precedence := by
  rw [precedence, registered]
  rfl

namespace SameRanking

theorem symbols_eq (same : first.SameRanking second) :
    first.symbols = second.symbols :=
  Symbol.eq_of_pairwise first.symbols_ordered second.symbols_ordered
    same.mem_symbols_iff

theorem exists_right (same : first.SameRanking second)
    (registered : first.get? symbol = some left) :
    ∃ right, second.get? symbol = some right :=
  Table.mem_symbols_iff.mp ((same.mem_symbols_iff symbol).mp
    (Table.mem_symbols_iff.mpr ⟨left, registered⟩))

theorem exists_left (same : first.SameRanking second)
    (registered : second.get? symbol = some right) :
    ∃ left, first.get? symbol = some left :=
  Table.mem_symbols_iff.mp ((same.mem_symbols_iff symbol).mpr
    (Table.mem_symbols_iff.mpr ⟨right, registered⟩))

end SameRanking

namespace Counterparts

theorem associativity_eq (pair : first.Counterparts second left right)
    (same : first.SameRanking second) :
    left.associativity = right.associativity := by
  obtain ⟨symbol, leftRegistered, rightRegistered⟩ := pair
  have equal := same.associativity_eq symbol
    (mem_symbols_iff.mpr ⟨left, leftRegistered⟩)
  rw [leftRegistered, rightRegistered] at equal
  exact Option.some.inj equal

theorem positive_iff (pair : first.Counterparts second left right)
    (same : first.SameRanking second) :
    0 < left.precedence ↔ 0 < right.precedence := by
  obtain ⟨symbol, leftRegistered, rightRegistered⟩ := pair
  rw [← precedence_of_get? leftRegistered, ← precedence_of_get? rightRegistered]
  exact same.positive_iff symbol (mem_symbols_iff.mpr ⟨left, leftRegistered⟩)

/-- The ranking of two operators with positive precedences is that of their
counterparts. -/
theorem precedence_lt_iff (pair : first.Counterparts second left right)
    (pair' : first.Counterparts second left' right')
    (same : first.SameRanking second) (positive : 0 < left.precedence)
    (positive' : 0 < left'.precedence) :
    left.precedence < left'.precedence ↔
      right.precedence < right'.precedence := by
  obtain ⟨symbol, registered, counterpart⟩ := pair
  obtain ⟨symbol', registered', counterpart'⟩ := pair'
  rw [← precedence_of_get? registered] at positive
  rw [← precedence_of_get? registered'] at positive'
  rw [← precedence_of_get? registered, ← precedence_of_get? counterpart,
    ← precedence_of_get? registered', ← precedence_of_get? counterpart']
  exact same.precedence_lt_iff symbol (mem_symbols_iff.mpr ⟨left, registered⟩)
    symbol' (mem_symbols_iff.mpr ⟨left', registered'⟩) positive positive'

theorem precedence_eq_iff (pair : first.Counterparts second left right)
    (pair' : first.Counterparts second left' right')
    (same : first.SameRanking second) (positive : 0 < left.precedence)
    (positive' : 0 < left'.precedence) :
    left.precedence = left'.precedence ↔
      right.precedence = right'.precedence := by
  have below := pair.precedence_lt_iff pair' same positive positive'
  have above := pair'.precedence_lt_iff pair same positive' positive
  simp only [Int32.lt_iff_toInt_lt] at below above
  simp only [← Int32.toInt_inj]
  omega

theorem conflicts_eq (pair : first.Counterparts second left right)
    (pair' : first.Counterparts second left' right')
    (same : first.SameRanking second) (positive : 0 < left.precedence)
    (positive' : 0 < left'.precedence) :
    left.conflicts left' = right.conflicts right' := by
  simp only [Operator.conflicts, pair.associativity_eq same,
    pair'.associativity_eq same,
    pair.precedence_eq_iff pair' same positive positive']

/-- Of the operators, the same ones may stand in the right operand of an
operator and of its counterpart. -/
theorem acceptsRight_iff (pair : first.Counterparts second left right)
    (pair' : first.Counterparts second left' right')
    (same : first.SameRanking second) (positive : 0 < left.precedence) :
    left.AcceptsRight left' ↔ right.AcceptsRight right' := by
  by_cases positive' : 0 < left'.precedence
  · rw [Operator.AcceptsRight, Operator.AcceptsRight,
      pair.precedence_lt_iff pair' same positive positive',
      pair'.precedence_eq_iff pair same positive' positive,
      pair.associativity_eq same]
  · have counterpart : ¬ 0 < right'.precedence :=
      (pair'.positive_iff same).not.mp positive'
    have rightPositive := (pair.positive_iff same).mp positive
    constructor
    · intro accepts
      exact absurd (Int32.lt_of_lt_of_le positive accepts.precedence_le)
        positive'
    · intro accepts
      exact absurd (Int32.lt_of_lt_of_le rightPositive accepts.precedence_le)
        counterpart

/-- The floors of an operator and of its counterpart let the same operators
in. -/
theorem sameCut_floor (pair : first.Counterparts second left right)
    (same : first.SameRanking second) (positive : 0 < left.precedence) :
    first.SameCut second left.floor right.floor where
  nonneg := Operator.floor_nonneg positive
  lt_iff left' right' pair' := by
    rw [Operator.floor_lt_iff_acceptsRight positive,
      Operator.floor_lt_iff_acceptsRight ((pair.positive_iff same).mp positive),
      pair.acceptsRight_iff pair' same positive]

end Counterparts

theorem SameRanking.sameCut_zero (same : first.SameRanking second) :
    first.SameCut second 0 0 where
  nonneg := Int32.le_refl 0
  lt_iff _ _ pair := pair.positive_iff same

theorem SameCut.positive (cut : first.SameCut second minimum other)
    (above : minimum < operator.precedence) : 0 < operator.precedence :=
  Int32.lt_of_le_of_lt cut.nonneg above

theorem SameCut.stops_iff (cut : first.SameCut second minimum other)
    (same : first.SameRanking second) (tokens : List Lexeme) :
    Stops first minimum tokens ↔ Stops second other tokens := by
  match tokens with
  | ⟨.operator symbol, _⟩ :: _ =>
      constructor
      · intro stops right counterpart
        obtain ⟨left, registered⟩ := same.exists_left counterpart
        rw [← cut.lt_iff left right ⟨symbol, registered, counterpart⟩]
        exact stops left registered
      · intro stops left registered
        obtain ⟨right, counterpart⟩ := same.exists_right registered
        rw [cut.lt_iff left right ⟨symbol, registered, counterpart⟩]
        exact stops right counterpart
  | [] | ⟨.number _, _⟩ :: _ | ⟨.leftParen, _⟩ :: _ | ⟨.rightParen, _⟩ :: _
  | ⟨.endOfText, _⟩ :: _ | ⟨.illegal _, _⟩ :: _ => exact Iff.rfl

end Table

namespace Expression

variable {first second : Table} {limit room : Nat}

/-- An operator that has been combined and its counterpart. -/
def Combined (first second : Table) (left right : Operator) : Prop :=
  first.Counterparts second left right ∧ 0 < left.precedence

/-- A chain is read alike from minima that let the same operators in. -/
theorem chain_sameRanking (same : first.SameRanking second)
    {operand operand' : Int32 → List Lexeme → Parsed}
    (sameOperand : ∀ floor floor' tokens,
      first.SameCut second floor floor' →
      operand floor tokens = operand' floor' tokens)
    {minimum other : Int32} (cut : first.SameCut second minimum other)
    (count : Nat) (left : Expression) {previous previous' : Option Operator}
    (combined : Option.Rel (Combined first second) previous previous')
    (tokens : List Lexeme) :
    chain first operand minimum count left previous tokens =
      chain second operand' other count left previous' tokens := by
  induction count generalizing left previous previous' tokens with
  | zero => rw [chain_zero, chain_zero]
  | succ count inductionHypothesis =>
      by_cases stops : Stops first minimum tokens
      · rw [chain_of_stops stops,
          chain_of_stops ((cut.stops_iff same tokens).mp stops)]
      · obtain ⟨symbol, position, rest, operator, rfl, registered, above⟩ :=
          exists_binds_of_not_stops stops
        obtain ⟨operator', counterpart⟩ := same.exists_right registered
        have pair : first.Counterparts second operator operator' :=
          ⟨symbol, registered, counterpart⟩
        have positive := cut.positive above
        have above' := (cut.lt_iff _ _ pair).mp above
        have conflicts_eq :
            (previous.any fun earlier => earlier.conflicts operator) =
              previous'.any fun earlier => earlier.conflicts operator' := by
          cases combined with
          | none => rfl
          | some related =>
              exact related.1.conflicts_eq pair same related.2 positive
        rw [chain_of_binds registered above, chain_of_binds counterpart above',
          conflicts_eq, sameOperand _ _ _ (pair.sameCut_floor same positive)]
        split
        · rfl
        · congr 1
          funext read
          exact inductionHypothesis _ (.some ⟨pair, positive⟩) _

theorem parse_sameRanking (same : first.SameRanking second) (limit room : Nat) :
    (∀ tokens, parseOperand first limit room tokens =
      parseOperand second limit room tokens) ∧
    (∀ minimum other tokens, first.SameCut second minimum other →
      parseChain first limit room minimum tokens =
        parseChain second limit room other tokens) := by
  induction room with
  | zero =>
      constructor
      · intro tokens
        rw [parseOperand, parseOperand]
      · intro minimum other tokens _
        rw [parseChain, parseChain]
  | succ room inner =>
      obtain ⟨sameOperand, sameChain⟩ := inner
      constructor
      · intro tokens
        have sameInner (rest : List Lexeme) :=
          sameChain 0 0 rest same.sameCut_zero
        simp only [parseOperand, sameOperand, sameInner]
      · intro minimum other tokens cut
        rw [parseChain, parseChain, sameOperand]
        congr 1
        funext read
        exact chain_sameRanking same sameChain cut _ _ .none _

theorem parse_eq_of_sameRanking (same : first.SameRanking second) (limit : Nat)
    (text : String) : parse first limit text = parse second limit text := by
  have sameTokens : Lexeme.ofText first text = Lexeme.ofText second text :=
    Cursor.lexemes_congr same.symbols_eq _
  rw [parse, parse, sameTokens, ofLexemes, ofLexemes,
    (parse_sameRanking same limit limit).2 0 0 _ same.sameCut_zero]

/-- The value of an expression depends on the operations of a table only. -/
theorem evaluate_congr
    (same : ∀ symbol, (first.get? symbol).map Operator.apply =
      (second.get? symbol).map Operator.apply) (expression : Expression) :
    expression.evaluate first = expression.evaluate second := by
  have applied (symbol : String) (left right : Float) :
      applyBinary first symbol left right =
        applyBinary second symbol left right := by
    have operations := same symbol
    unfold applyBinary
    cases registered : first.get? symbol with
    | none =>
        rw [registered, Option.map_none, eq_comm,
          Option.map_eq_none_iff] at operations
        rw [operations]
    | some operator =>
        rw [registered, Option.map_some, eq_comm,
          Option.map_eq_some_iff] at operations
        obtain ⟨operator', registered', operation⟩ := operations
        simp only [registered', operation]
  induction expression with
  | literal text => rfl
  | unary symbol operand inductionHypothesis =>
      rw [evaluate, evaluate, inductionHypothesis]
  | binary symbol left right leftHypothesis rightHypothesis =>
      simp only [evaluate, leftHypothesis, rightHypothesis, applied]

end Expression

namespace Calculator

/-- Calculators that parse a text alike and reduce what they have parsed alike
evaluate it alike, and record the same. -/
theorem evaluate_congr_of_parse {first second : Calculator} {text : String}
    (sameParse : first.parse text = second.parse text)
    (sameValue : ∀ expression, second.parse text = .ok expression →
      expression.evaluate first.table = expression.evaluate second.table)
    (α : Type) [Number α] :
    (first.evaluate text : Logged (Except CalcError α)) =
      second.evaluate text := by
  unfold evaluate parseLogged
  rw [sameParse]
  cases parsed : second.parse text with
  | error error => rfl
  | ok expression =>
      have sameReduced :
          (first.evaluateExpression expression : Except EvalError α) =
            second.evaluateExpression expression := by
        rw [evaluateExpression, evaluateExpression, sameValue _ parsed]
      simp only [bind, pure, sameReduced]

/-- Calculators that parse and reduce alike evaluate alike, and record the
same. -/
theorem evaluate_congr {first second : Calculator} {text : String}
    (sameParse : first.parse text = second.parse text)
    (sameValue : ∀ expression : Expression,
      expression.evaluate first.table = expression.evaluate second.table)
    (α : Type) [Number α] :
    (first.evaluate text : Logged (Except CalcError α)) =
      second.evaluate text :=
  evaluate_congr_of_parse sameParse (fun expression _ => sameValue expression) α

end Calculator

namespace Table

/-- Only the ranking of positive precedences matters: tables that share it parse
every text within every limit to the same expression or the same error, and if
their operations are the same too, calculators give the same numbers of every
kind, and the same records. -/
theorem parse_evaluate_of_sameRanking {first second : Table}
    (same : first.SameRanking second) :
    (∀ limit text,
      Expression.parse first limit text = Expression.parse second limit text ∧
      Parser.parse first limit text = Parser.parse second limit text) ∧
    ((∀ symbol, (first.get? symbol).map Operator.apply =
        (second.get? symbol).map Operator.apply) →
      ∀ (α : Type) [Number α] (limit : UInt64) (text : String),
        ((⟨first, limit⟩ : Calculator).evaluate text :
            Logged (Except CalcError α)) =
          (⟨second, limit⟩ : Calculator).evaluate text) := by
  have sameParse := Expression.parse_eq_of_sameRanking same
  constructor
  · intro limit text
    rw [Parser.parse_eq, Parser.parse_eq]
    exact ⟨sameParse limit text, sameParse limit text⟩
  · intro operations α _ limit text
    have parsed : (⟨first, limit⟩ : Calculator).parse text =
        (⟨second, limit⟩ : Calculator).parse text :=
      sameParse limit.toNat text
    exact Calculator.evaluate_congr parsed
      (Expression.evaluate_congr operations) α

theorem parse_evaluate_of_powers_at_the_limit :
    let adjacent := empty.insertAll
      [⟨"**", Arithmetic.power.operator Int32.maxValue .right⟩,
       ⟨"+", Arithmetic.add.operator 1 .left⟩,
       ⟨"-", Arithmetic.subtract.operator 1 .left⟩,
       ⟨"*", Arithmetic.multiply.operator 2 .left⟩,
       ⟨"/", Arithmetic.divide.operator 2 .left⟩,
       ⟨"%", Arithmetic.remainder.operator 2 .left⟩]
    scientific.SameRanking adjacent ∧
      Parser.parse adjacent 8 "2**-3**4*5" = .ok (.binary "*"
        (.binary "**" (.literal "2")
          (.binary "**" (.unary "-" (.literal "3")) (.literal "4")))
        (.literal "5")) ∧
      ((⟨scientific, 8⟩ : Calculator).evaluate "2**-3**4*5" :
          Logged (Except CalcError Int64)) =
        (⟨adjacent, 8⟩ : Calculator).evaluate "2**-3**4*5" := by
  intro adjacent
  have symbols_eq : scientific.symbols = adjacent.symbols := by
    simp only [adjacent]
    decide +kernel
  have same : scientific.SameRanking adjacent := by
    refine ⟨fun symbol => by rw [symbols_eq], ?_, ?_, ?_⟩
    all_goals simp only [adjacent]; decide +kernel
  have operations (symbol : String) :
      (scientific.get? symbol).map Operator.apply =
        (adjacent.get? symbol).map Operator.apply := by
    by_cases known : symbol ∈ scientific.symbols
    · have listed : scientific.symbols = ["**", "%", "*", "+", "-", "/"] := by
        decide +kernel
      rw [listed] at known
      simp only [List.mem_cons, List.not_mem_nil, or_false] at known
      rcases known with rfl | rfl | rfl | rfl | rfl | rfl <;> rfl
    · rw [get?_eq_none_iff.mpr known,
        get?_eq_none_iff.mpr (symbols_eq ▸ known)]
  obtain ⟨sameParse, sameValue⟩ := parse_evaluate_of_sameRanking same
  refine ⟨same, ?_, sameValue operations Int64 8 _⟩
  rw [← (sameParse 8 _).2]
  decide +kernel

end Table

end Reckoner
