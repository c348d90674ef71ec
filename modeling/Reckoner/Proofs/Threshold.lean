import Mathlib.Data.Nat.Find
import Reckoner.Proofs.Grammar

/-!
# The limit that a text needs

A run that has not met the limit is the same in any greater room
(`Reads.of_room_le`), and one that has met it was given less room than its
tokens can ask for (`Reads.room_lt_demand`).  So there is one least limit for
every text, well formed or not: below it the text is too deep, and from it on
the limit has no say in what comes out.  For an expression it is the cost of the
way in which it is written.
-/

namespace Reckoner

/-- The number of tokens that can be read before a last one. -/
def readable (tokens : List Lexeme) : Nat :=
  tokens.countP fun lexeme => !lexeme.token.isLast

/-- A number of active routines that suffices for a routine: a chain and an
operand for every token, and one of each when all tokens are used up. -/
def Routine.demand : Routine → Nat
  | .operand tokens => 2 * readable tokens + 1
  | .chain _ tokens => 2 * readable tokens + 2
  | .tail _ _ tokens => 2 * readable tokens

namespace Reads

variable {table : Table} {limit room : Nat} {routine : Routine}

theorem exists_room_of_succ_le {larger : Nat} (le : room + 1 ≤ larger) :
    ∃ inside, larger = inside + 1 ∧ room ≤ inside :=
  ⟨larger - 1, by omega, by omega⟩

/-- What is read without meeting the limit is read alike with more room, under
any limit. -/
theorem of_room_le {outcome : Outcome}
    (reads : Reads table limit room routine outcome)
    (settled : ∀ bound, outcome ≠ .error (.nestingTooDeep bound))
    (other : Nat) {larger : Nat} (le : room ≤ larger) :
    Reads table other larger routine outcome := by
  induction reads generalizing larger with
  | operandTooDeep | chainTooDeep => exact absurd rfl (settled limit)
  | number =>
      obtain ⟨_, rfl, _⟩ := exists_room_of_succ_le le
      exact .number
  | parens _ inner =>
      obtain ⟨_, rfl, fits⟩ := exists_room_of_succ_le le
      exact .parens (inner nofun fits)
  | parensUnclosed _ unclosed inner =>
      obtain ⟨_, rfl, fits⟩ := exists_room_of_succ_le le
      exact .parensUnclosed (inner nofun fits) unclosed
  | parensFault _ inner =>
      obtain ⟨_, rfl, fits⟩ := exists_room_of_succ_le le
      exact .parensFault (inner settled fits)
  | unary _ operand =>
      obtain ⟨_, rfl, fits⟩ := exists_room_of_succ_le le
      exact .unary (operand nofun fits)
  | unaryFault _ operand =>
      obtain ⟨_, rfl, fits⟩ := exists_room_of_succ_le le
      exact .unaryFault (operand settled fits)
  | noOperand =>
      obtain ⟨_, rfl, _⟩ := exists_room_of_succ_le le
      exact .noOperand
  | illegal =>
      obtain ⟨_, rfl, _⟩ := exists_room_of_succ_le le
      exact .illegal
  | endOfText =>
      obtain ⟨_, rfl, _⟩ := exists_room_of_succ_le le
      exact .endOfText
  | noTokens =>
      obtain ⟨_, rfl, _⟩ := exists_room_of_succ_le le
      exact .noTokens
  | chainFault _ operand =>
      obtain ⟨_, rfl, fits⟩ := exists_room_of_succ_le le
      exact .chainFault (operand settled fits)
  | chain _ _ operand tail =>
      obtain ⟨_, rfl, fits⟩ := exists_room_of_succ_le le
      exact .chain (operand nofun fits) (tail settled fits)
  | stop stops => exact .stop stops
  | conflict registered above root conflicts =>
      exact .conflict registered above root conflicts
  | rightFault registered above clear _ right =>
      exact .rightFault registered above clear (right settled le)
  | extend registered above clear _ _ right tail =>
      exact .extend registered above clear
        (right nofun le) (tail settled le)

theorem readable_le {written : Written} {rest : List Lexeme}
    (reads : Reads table limit room routine (.ok (written, rest))) :
    readable rest ≤ readable routine.input := by
  obtain ⟨taken, input, _⟩ := reads.exists_taken written rest rfl
  rw [input, readable, readable, List.countP_append]
  exact Nat.le_add_left _ _

/-- A run that meets the limit names it and had less room than its tokens can
ask for. -/
theorem room_lt_demand {outcome : Outcome}
    (reads : Reads table limit room routine outcome) :
    ∀ bound, outcome = .error (.nestingTooDeep bound) →
      bound = limit ∧ room < routine.demand := by
  induction reads with
  | operandTooDeep | chainTooDeep =>
      intro bound failure
      cases failure
      exact ⟨rfl, by simp [Routine.demand]⟩
  | parensUnclosed _ unclosed =>
      intro bound failure
      cases failure
      rcases Expression.closeParen_eq_error unclosed with
        ⟨_, fault⟩ | ⟨_, _, _, _, fault⟩ | ⟨_, _, _, _, _, fault⟩ <;>
        cases fault
  | parensFault _ inner | unaryFault _ inner =>
      intro bound failure
      obtain ⟨same, short⟩ := inner bound failure
      refine ⟨same, ?_⟩
      simp [Routine.demand, readable, Token.isLast] at short ⊢
      omega
  | chainFault _ operand =>
      intro bound failure
      obtain ⟨same, short⟩ := operand bound failure
      refine ⟨same, ?_⟩
      simp only [Routine.demand] at short ⊢
      omega
  | chain reads _ _ tail =>
      intro bound failure
      obtain ⟨same, short⟩ := tail bound failure
      have fewer := reads.readable_le
      refine ⟨same, ?_⟩
      simp only [Routine.demand, Routine.input] at short fewer ⊢
      omega
  | rightFault _ _ _ _ right =>
      intro bound failure
      obtain ⟨same, short⟩ := right bound failure
      refine ⟨same, ?_⟩
      simp [Routine.demand, readable, Token.isLast] at short ⊢
      omega
  | extend _ _ _ reads _ _ tail =>
      intro bound failure
      obtain ⟨same, short⟩ := tail bound failure
      have fewer := reads.readable_le
      refine ⟨same, ?_⟩
      simp [Routine.demand, Routine.input, readable, Token.isLast]
        at short fewer ⊢
      omega
  | _ =>
      intro bound failure
      cases failure

end Reads

namespace Written

/-- A chain of applications that is grouped from the left. -/
def leftChain (first : Written) (steps : List (String × Written)) : Written :=
  steps.foldl (fun left step => .binary step.1 left step.2) first

/-- The length of a chain does not count, only what its operands cost. -/
theorem cost_leftChain {first : Written} {steps : List (String × Written)}
    {cost : Nat} (nonempty : steps ≠ [])
    (small : first.cost ≤ 1 + cost)
    (alike : ∀ step ∈ steps, step.2.cost = cost) :
    (leftChain first steps).cost = 1 + cost := by
  induction steps generalizing first with
  | nil => exact absurd rfl nonempty
  | cons step rest inductionHypothesis =>
      have stepCost := alike step List.mem_cons_self
      have combined : (binary step.1 first step.2).cost = 1 + cost := by
        rw [Written.cost, stepCost]
        exact Nat.max_eq_right small
      cases rest with
      | nil => exact combined
      | cons next rest =>
          apply inductionHypothesis (List.cons_ne_nil _ _)
          · exact Nat.le_of_eq combined
          · intro later member
            exact alike later (List.mem_cons_of_mem _ member)

end Written

namespace Expression

variable {table : Table} {limit : Nat} {text : String}

theorem complete_ne_tooDeep {expression : Expression} {rest : List Lexeme}
    {bound : Nat} :
    complete expression rest ≠ .error (.nestingTooDeep bound) := by
  intro failure
  obtain ⟨_, _, _, _, ⟨_, fault⟩ | ⟨_, _, fault⟩ | ⟨_, _, fault⟩⟩ :=
    complete_eq_error failure <;> cases fault

theorem readable_ofText_le (table : Table) (text : String) :
    readable (Lexeme.ofText table text) ≤ text.utf8ByteSize := by
  obtain ⟨front, last, equality, lastIsLast, short, _⟩ :=
    Cursor.exists_lexemes_eq table (.start text)
  have characters : (Cursor.start text).rest.length ≤ text.utf8ByteSize := by
    rw [Text.utf8ByteSize_eq_byteLength]
    exact Text.length_le_byteLength _
  have bound := List.countP_le_length (p := fun lexeme : Lexeme =>
    !lexeme.token.isLast) (l := front)
  rw [Lexeme.ofText, equality, readable, List.countP_append,
    List.countP_singleton, lastIsLast]
  simp only [Bool.not_true, Bool.false_eq_true, if_false]
  omega

theorem limit_lt_of_tooDeep {bound : Nat}
    (failure : parse table limit text = .error (.nestingTooDeep bound)) :
    bound = limit ∧ limit < 2 * text.utf8ByteSize + 2 := by
  obtain ⟨outcome, reads, _⟩ :=
    (exists_reads table limit limit).2 0 (Lexeme.ofText table text)
  rw [parse_eq_of_reads reads] at failure
  cases outcome with
  | ok read => exact absurd failure complete_ne_tooDeep
  | error fault =>
      cases failure
      obtain ⟨same, short⟩ := reads.room_lt_demand bound rfl
      have few := readable_ofText_le table text
      simp only [Routine.demand] at short
      exact ⟨same, by omega⟩

theorem parse_of_limit_le {larger : Nat}
    (settled : parse table limit text ≠ .error (.nestingTooDeep limit))
    (le : limit ≤ larger) :
    parse table larger text = parse table limit text := by
  obtain ⟨outcome, reads, _⟩ :=
    (exists_reads table limit limit).2 0 (Lexeme.ofText table text)
  have untouched : ∀ bound, outcome ≠ .error (.nestingTooDeep bound) := by
    rintro bound rfl
    apply settled
    obtain ⟨same, _⟩ := reads.room_lt_demand bound rfl
    rw [parse_eq_of_reads reads, same]
    rfl
  rw [parse_eq_of_reads reads,
    parse_eq_of_reads (reads.of_room_le untouched larger le)]

theorem parse_of_limit_lt_two (short : limit < 2) :
    parse table limit text = .error (.nestingTooDeep limit) := by
  have reads : Reads table limit limit
      (.chain 0 (Lexeme.ofText table text))
      (.error (.nestingTooDeep limit)) := by
    match limit, short with
    | 0, _ => exact .chainTooDeep
    | 1, _ => exact .chainFault .operandTooDeep
  rw [parse_eq_of_reads reads]
  rfl

/-- Below the limit the text is too deep, and from it on the limit has no say in
what comes out. -/
def IsLeastLimit (table : Table) (text : String) (least : Nat) : Prop :=
  (∀ limit, limit < least →
    parse table limit text = .error (.nestingTooDeep limit)) ∧
  ∃ result, (∀ bound, result ≠ .error (.nestingTooDeep bound)) ∧
    ∀ limit, least ≤ limit → parse table limit text = result

theorem exists_isLeastLimit (table : Table) (text : String) :
    ∃ least, IsLeastLimit table text least := by
  classical
  have reached : ∃ limit,
      parse table limit text ≠ .error (.nestingTooDeep limit) := by
    refine ⟨2 * text.utf8ByteSize + 2, ?_⟩
    intro failure
    exact Nat.lt_irrefl _ (limit_lt_of_tooDeep failure).2
  have settled := Nat.find_spec reached
  refine ⟨Nat.find reached, ?_, parse table (Nat.find reached) text, ?_, ?_⟩
  · intro limit short
    exact Classical.not_not.mp (Nat.find_min reached short)
  · intro bound failure
    exact settled ((limit_lt_of_tooDeep failure).1 ▸ failure)
  · intro limit le
    exact parse_of_limit_le settled le

namespace IsLeastLimit

variable {least : Nat}

theorem settled (isLeast : IsLeastLimit table text least)
    (le : least ≤ limit) (bound : Nat) :
    parse table limit text ≠ .error (.nestingTooDeep bound) := by
  obtain ⟨_, result, untouched, same⟩ := isLeast
  rw [same limit le]
  exact untouched bound

theorem le_of_settled (isLeast : IsLeastLimit table text least)
    (settled : parse table limit text ≠ .error (.nestingTooDeep limit)) :
    least ≤ limit := by
  apply Nat.le_of_not_lt
  intro short
  exact settled (isLeast.1 limit short)

theorem two_le (isLeast : IsLeastLimit table text least) : 2 ≤ least := by
  apply Nat.le_of_not_lt
  intro short
  exact isLeast.settled (Nat.le_refl _) _ (parse_of_limit_lt_two short)

theorem le_twice_bytes (isLeast : IsLeastLimit table text least) :
    least ≤ 2 * text.utf8ByteSize + 2 := by
  apply isLeast.le_of_settled
  intro failure
  exact Nat.lt_irrefl _ (limit_lt_of_tooDeep failure).2

theorem eq_cost (isLeast : IsLeastLimit table text least) {written : Written}
    (canonical : written.Canonical table) (spells : written.Spells table text) :
    least = written.cost := by
  apply Nat.le_antisymm
  · apply isLeast.le_of_settled
    rw [parse_of_canonical canonical spells, if_pos (Nat.le_refl _)]
    exact nofun
  · apply Nat.le_of_not_lt
    intro short
    apply isLeast.settled (Nat.le_refl _)
    rw [parse_of_canonical canonical spells,
      if_neg (Nat.not_le_of_lt short)]

end IsLeastLimit

/-- Every text, well formed or not, has one least limit with which it is not too
deep; it is at least two and at most two more than twice the bytes of the text.
For an expression it is the cost of the way in which it is written, so that a
chain of operands that cost the same needs the same limit whatever its length. -/
theorem exists_least_limit (table : Table) (text : String) :
    ∃ least, 2 ≤ least ∧ least ≤ 2 * text.utf8ByteSize + 2 ∧
      IsLeastLimit table text least ∧
      (∀ limit expression, parse table limit text = .ok expression →
        ∃ written : Written, written.Canonical table ∧
          written.Spells table text ∧ written.erase = expression ∧
          least = written.cost) ∧
      ∀ first steps cost, (Written.leftChain first steps).Canonical table →
        (Written.leftChain first steps).Spells table text →
        steps ≠ [] → first.cost ≤ 1 + cost →
        (∀ step ∈ steps, step.2.cost = cost) → least = 1 + cost := by
  obtain ⟨least, isLeast⟩ := exists_isLeastLimit table text
  refine ⟨least, isLeast.two_le, isLeast.le_twice_bytes, isLeast, ?_, ?_⟩
  · intro limit expression success
    obtain ⟨written, canonical, spells, erased, _⟩ :=
      exists_of_parse_eq_ok success
    exact ⟨written, canonical, spells, erased,
      isLeast.eq_cost canonical spells⟩
  · intro first steps cost canonical spells nonempty small alike
    rw [isLeast.eq_cost canonical spells]
    exact Written.cost_leftChain nonempty small alike

/-- The chain `1-2-3-4` needs no more than three levels, and no less. -/
theorem least_limit_of_chain :
    ∃ least, least = 3 ∧ IsLeastLimit .standard "1-2-3-4" least := by
  obtain ⟨least, _, _, isLeast, _, ofChain⟩ :=
    exists_least_limit .standard "1-2-3-4"
  let minus := Arithmetic.subtract.operator 10 .left
  have registered : Table.standard.get? "-" = some minus := by rfl
  have subtract (left : Written) (text : String)
      (canonical : left.Canonical .standard)
      (accepts : ∀ inner ∈ left.root? .standard, minus.AcceptsLeft inner) :
      (Written.binary "-" left (.literal text)).Canonical .standard :=
    .binary registered (by decide) accepts (by simp [Written.root?]) canonical
      (.literal text)
  have chained (left right : Written) : ∀ inner ∈
      (Written.binary "-" left right).root? .standard,
      minus.AcceptsLeft inner := by
    intro inner member
    rw [Written.root?, registered, Option.mem_some] at member
    exact member ▸ .inr ⟨rfl, rfl, by decide⟩
  have canonical : (Written.leftChain (.literal "1")
      [("-", .literal "2"), ("-", .literal "3"),
        ("-", .literal "4")]).Canonical .standard := by
    apply subtract _ _ _ (chained _ _)
    apply subtract _ _ _ (chained _ _)
    exact subtract _ _ (.literal "1") (by simp [Written.root?])
  have spells : (Written.leftChain (.literal "1")
      [("-", .literal "2"), ("-", .literal "3"),
        ("-", .literal "4")]).Spells .standard "1-2-3-4" := by
    rw [Written.Spells]
    decide +kernel
  exact ⟨least, ofChain _ _ 2 canonical spells (List.cons_ne_nil _ _)
    (by decide) (by decide), isLeast⟩

end Expression

end Reckoner
