import Reckoner.Proofs.Reading

/-!
# What the parser reads is canonical

The climbing loop hands numbers down as floors, while `Written.Canonical`
compares neighbouring operators.  The two agree: a reading is canonical
(`Reads.canonical`) and stays within the room that was given (`Reads.cost_le`);
a canonical expression is read from its tokens if the room suffices
(`Written.Canonical.reads`), and is too deep otherwise
(`Written.Canonical.tooDeep`).
-/

namespace Reckoner

/-- Between `written` and `rest` nothing is left to group: the outermost operator
is above the minimum of the chain, and the operator behind it does not belong to
its right operand. -/
def Written.Fits (table : Table) (minimum : Int32) (written : Written)
    (rest : List Lexeme) : Prop :=
  ∀ operator ∈ written.root? table,
    minimum < operator.precedence ∧ Stops table operator.floor rest

theorem Written.fits_of_not_isBinary {table : Table} {minimum : Int32}
    {written : Written} {rest : List Lexeme}
    (operand : written.isBinary = false) : written.Fits table minimum rest := by
  intro operator member
  rw [root?_of_not_isBinary operand] at member
  cases member

theorem Stops.mono {table : Table} {low high : Int32} {tokens : List Lexeme}
    (stops : Stops table low tokens) (le : ¬ high < low) :
    Stops table high tokens := by
  match tokens with
  | ⟨.operator symbol, position⟩ :: rest =>
      intro operator registered above
      apply stops operator registered
      rw [Int32.lt_iff_toInt_lt] at above le ⊢
      omega
  | [] | ⟨.number _, _⟩ :: _ | ⟨.leftParen, _⟩ :: _ | ⟨.rightParen, _⟩ :: _
  | ⟨.endOfText, _⟩ :: _ | ⟨.illegal _, _⟩ :: _ => trivial

/-- What the callers of a routine promise. -/
def Routine.Ready (table : Table) : Routine → Prop
  | .operand _ => True
  | .chain minimum _ => 0 ≤ minimum
  | .tail minimum left tokens =>
      0 ≤ minimum ∧ left.Canonical table ∧ left.Fits table minimum tokens

/-- The precedence that the outermost operator of a reading exceeds. -/
def Routine.minimum : Routine → Int32
  | .operand _ => 0
  | .chain minimum _ => minimum
  | .tail minimum _ _ => minimum

/-- No operator of a chain is left behind it. -/
def Routine.Ends (table : Table) (rest : List Lexeme) : Routine → Prop
  | .operand _ => True
  | .chain minimum _ => Stops table minimum rest
  | .tail minimum _ _ => Stops table minimum rest

/-- The number of active routines that a reading can need. -/
def Routine.bound (room : Nat) : Routine → Nat
  | .operand _ => room + 1
  | .chain _ _ => room
  | .tail _ left _ => max left.cost (room + 1)

/-- What a chain hands to its tail when it has read one more operator with its
right operand. -/
theorem Routine.Ready.extend {table : Table} {minimum : Int32}
    {symbol : String} {operator : Operator} {left right : Written}
    {position : Nat} {rest behind : List Lexeme}
    (ready : (Routine.tail minimum left
      (⟨.operator symbol, position⟩ :: rest)).Ready table)
    (registered : table.get? symbol = some operator)
    (above : minimum < operator.precedence)
    (clear : ∀ earlier ∈ left.root? table, earlier.conflicts operator = false)
    (rightCanonical : right.Canonical table)
    (rightAbove : ∀ inner ∈ right.root? table,
      operator.floor < inner.precedence)
    (stops : Stops table operator.floor behind) :
    (Routine.tail minimum (.binary symbol left right) behind).Ready table := by
  obtain ⟨nonnegative, leftCanonical, fits⟩ := ready
  have positive := Int32.lt_of_le_of_lt nonnegative above
  refine ⟨nonnegative, .binary registered positive ?_ ?_ leftCanonical
    rightCanonical, ?_⟩
  · intro inner member
    have innerPositive := leftCanonical.root?_positive inner member
    apply (Operator.acceptsLeft_iff_floor innerPositive).mpr
    exact ⟨(fits inner member).2 operator registered, clear inner member⟩
  · intro inner member
    exact (Operator.floor_lt_iff_acceptsRight positive).mp
      (rightAbove inner member)
  · intro root member
    rw [Written.root?, registered, Option.mem_some] at member
    subst root
    exact ⟨above, stops⟩

namespace Reads

variable {table : Table} {limit room : Nat} {routine : Routine}

theorem cost_le {outcome : Outcome}
    (reads : Reads table limit room routine outcome) :
    ∀ written rest, outcome = .ok (written, rest) →
      written.cost ≤ routine.bound room := by
  induction reads with
  | number =>
      intro written rest success
      cases success
      simp [Written.cost, Routine.bound]
  | parens _ inner | unary _ inner =>
      intro written rest success
      cases success
      have bound := inner _ _ rfl
      simp only [Written.cost, Routine.bound] at bound ⊢
      omega
  | chain _ _ operand tail =>
      intro written rest success
      have leftBound := operand _ _ rfl
      have bound := tail written rest success
      simp only [Routine.bound] at leftBound bound ⊢
      omega
  | stop =>
      intro written rest success
      cases success
      exact Nat.le_max_left _ _
  | extend _ _ _ _ _ right tail =>
      intro written rest success
      have rightBound := right _ _ rfl
      have bound := tail written rest success
      simp only [Routine.bound, Written.cost] at rightBound bound ⊢
      omega
  | _ =>
      intro written rest success
      cases success

theorem ends {outcome : Outcome}
    (reads : Reads table limit room routine outcome) :
    ∀ written rest, outcome = .ok (written, rest) →
      routine.Ends table rest := by
  induction reads with
  | number | parens | unary =>
      intro _ _ _
      trivial
  | chain _ _ _ tail | extend _ _ _ _ _ _ tail => exact tail
  | stop stops =>
      intro written rest success
      cases success
      exact stops
  | _ =>
      intro written rest success
      cases success

/-- A reading is canonical, and its operators are above the minimum. -/
theorem canonical {outcome : Outcome}
    (reads : Reads table limit room routine outcome) :
    ∀ written rest, outcome = .ok (written, rest) → routine.Ready table →
      written.Canonical table ∧
        ∀ operator ∈ written.root? table,
          routine.minimum < operator.precedence := by
  induction reads with
  | number =>
      intro written rest success _
      cases success
      exact ⟨.literal _, by simp [Written.root?]⟩
  | parens _ inner =>
      intro written rest success _
      cases success
      obtain ⟨innerCanonical, _⟩ := inner _ _ rfl (Int32.le_refl 0)
      exact ⟨.parens innerCanonical, by simp [Written.root?]⟩
  | unary reads operand =>
      intro written rest success _
      cases success
      obtain ⟨operandCanonical, _⟩ := operand _ _ rfl trivial
      exact ⟨.unary reads.isBinary_of_operand operandCanonical,
        by simp [Written.root?]⟩
  | chain reads _ operand tail =>
      intro written rest success ready
      obtain ⟨leftCanonical, _⟩ := operand _ _ rfl trivial
      exact tail written rest success
        ⟨ready, leftCanonical, Written.fits_of_not_isBinary reads.isBinary_of_operand⟩
  | stop =>
      intro written rest success ready
      cases success
      obtain ⟨_, leftCanonical, fits⟩ := ready
      exact ⟨leftCanonical, fun operator member => (fits operator member).1⟩
  | @extend _ _ minimum symbol operator left right _ _ _ registered above clear
      readsRight _ right tail =>
      intro written rest success ready
      have positive := Int32.lt_of_le_of_lt ready.1 above
      obtain ⟨rightCanonical, rightAbove⟩ :=
        right _ _ rfl (Operator.floor_nonneg positive)
      exact tail written rest success (ready.extend registered above clear
        rightCanonical rightAbove (readsRight.ends _ _ rfl))
  | _ =>
      intro written rest success
      cases success

end Reads

namespace Written

variable {lexemes : List Lexeme} {symbol : String}
  {operand left right inner : Written}

theorem exists_lexemes_unary
    (spelled : lexemes.map Lexeme.token = (unary symbol operand).tokens) :
    ∃ position behind, lexemes = ⟨.operator symbol, position⟩ :: behind ∧
      behind.map Lexeme.token = operand.tokens := by
  obtain ⟨⟨token, position⟩, behind, rfl, equality, operandSpelled⟩ :=
    List.map_eq_cons_iff.mp spelled
  cases equality
  exact ⟨position, behind, rfl, operandSpelled⟩

theorem exists_lexemes_parens
    (spelled : lexemes.map Lexeme.token = (parens inner).tokens) :
    ∃ position inside place, lexemes = ⟨.leftParen, position⟩ ::
        (inside ++ [⟨.rightParen, place⟩]) ∧
      inside.map Lexeme.token = inner.tokens := by
  obtain ⟨⟨token, position⟩, behind, rfl, equality, behindSpelled⟩ :=
    List.map_eq_cons_iff.mp spelled
  cases equality
  obtain ⟨inside, closing, rfl, insideSpelled, closingSpelled⟩ :=
    List.map_eq_append_iff.mp behindSpelled
  obtain ⟨⟨token, place⟩, rfl, equality⟩ :=
    List.map_eq_singleton_iff.mp closingSpelled
  cases equality
  exact ⟨position, inside, place, rfl, insideSpelled⟩

theorem exists_lexemes_binary
    (spelled : lexemes.map Lexeme.token = (binary symbol left right).tokens) :
    ∃ front position back,
      lexemes = front ++ ⟨.operator symbol, position⟩ :: back ∧
      front.map Lexeme.token = left.tokens ∧
      back.map Lexeme.token = right.tokens := by
  obtain ⟨front, behind, rfl, leftSpelled, behindSpelled⟩ :=
    List.map_eq_append_iff.mp spelled
  obtain ⟨⟨token, position⟩, back, rfl, equality, rightSpelled⟩ :=
    List.map_eq_cons_iff.mp behindSpelled
  cases equality
  exact ⟨front, position, back, rfl, leftSpelled, rightSpelled⟩

end Written

namespace Written.Canonical

variable {table : Table} {limit room : Nat}

theorem fits_left {left : Written} (canonical : left.Canonical table)
    {minimum : Int32} {symbol : String} {operator : Operator}
    (registered : table.get? symbol = some operator)
    (accepts : ∀ inner ∈ left.root? table, operator.AcceptsLeft inner)
    (above : minimum < operator.precedence) (position : Nat)
    (rest : List Lexeme) :
    left.Fits table minimum (⟨.operator symbol, position⟩ :: rest) := by
  intro inner member
  have positive := canonical.root?_positive inner member
  obtain ⟨notTighter, _⟩ :=
    (Operator.acceptsLeft_iff_floor positive).mp (accepts inner member)
  constructor
  · rcases accepts inner member with higher | ⟨equal, _⟩
    · exact Int32.lt_trans above higher
    · exact equal ▸ above
  · intro found foundRegistered
    rw [registered] at foundRegistered
    cases foundRegistered
    exact notTighter

theorem fits_zero {written : Written} (canonical : written.Canonical table)
    {rest : List Lexeme} (stops : ∀ minimum, Stops table minimum rest) :
    written.Fits table 0 rest := by
  intro operator member
  exact ⟨canonical.root?_positive operator member, stops _⟩

theorem fits_right {right : Written} (canonical : right.Canonical table)
    {operator : Operator} (positive : 0 < operator.precedence)
    (accepts : ∀ inner ∈ right.root? table, operator.AcceptsRight inner)
    {rest : List Lexeme} (stops : Stops table operator.floor rest) :
    right.Fits table operator.floor rest := by
  intro inner member
  have above := (Operator.floor_lt_iff_acceptsRight positive).mpr
    (accepts inner member)
  exact ⟨above, stops.mono (Operator.not_floor_lt
    (canonical.root?_positive inner member) above)⟩

/-- A canonical expression is read from its tokens as an operand, or else a
chain that begins with it is read up to its end and goes on behind it. -/
theorem reads_operand_and_chain {written : Written}
    (canonical : written.Canonical table) (room : Nat)
    (lexemes rest : List Lexeme)
    (spelled : lexemes.map Lexeme.token = written.tokens)
    (enough : written.cost ≤ room + 1) :
    (written.isBinary = false →
      Reads table limit room (.operand (lexemes ++ rest))
        (.ok (written, rest))) ∧
    ∀ minimum outcome, written.Fits table minimum rest →
      Reads table limit room (.tail minimum written rest) outcome →
      Reads table limit (room + 1) (.chain minimum (lexemes ++ rest))
        outcome := by
  induction canonical generalizing room lexemes rest with
  | literal text =>
      obtain ⟨⟨token, position⟩, rfl, equality⟩ :=
        List.map_eq_singleton_iff.mp spelled
      cases equality
      obtain ⟨room, rfl⟩ : ∃ inside, room = inside + 1 :=
        Nat.exists_eq_add_one.mpr (by simp only [cost] at enough; omega)
      exact ⟨fun _ => .number, fun _ _ _ tail => .chain .number tail⟩
  | @unary symbol operand notBinary _ inner =>
      obtain ⟨position, behind, rfl, operandSpelled⟩ :=
        exists_lexemes_unary spelled
      have two := operand.two_le_cost
      obtain ⟨room, rfl⟩ : ∃ inside, room = inside + 1 :=
        Nat.exists_eq_add_one.mpr (by simp only [cost] at enough; omega)
      have operandReads := (inner room behind rest operandSpelled
        (by simp only [cost] at enough; omega)).1 notBinary
      exact ⟨fun _ => .unary operandReads,
        fun _ _ _ tail => .chain (.unary operandReads) tail⟩
  | @parens inner innerCanonical innerReads =>
      obtain ⟨position, inside, place, rfl, insideSpelled⟩ :=
        exists_lexemes_parens spelled
      have two := inner.two_le_cost
      obtain ⟨room, rfl⟩ : ∃ inside, room = inside + 2 :=
        ⟨room - 2, by simp only [cost] at enough; omega⟩
      have innerChain := (innerReads room inside (⟨.rightParen, place⟩ :: rest)
        insideSpelled (by simp only [cost] at enough; omega)).2 0 _
        (innerCanonical.fits_zero fun _ => trivial) (.stop trivial)
      have chainReads : Reads table limit (room + 1)
          (.chain 0 ((inside ++ [⟨.rightParen, place⟩]) ++ rest))
          (.ok (inner, ⟨.rightParen, place⟩ :: rest)) := by
        simpa using innerChain
      exact ⟨fun _ => .parens chainReads,
        fun _ _ _ tail => .chain (.parens chainReads) tail⟩
  | @binary symbol operator left right registered positive acceptsLeft
      acceptsRight leftCanonical rightCanonical leftReads rightReads =>
      obtain ⟨front, position, back, rfl, leftSpelled, rightSpelled⟩ :=
        exists_lexemes_binary spelled
      refine ⟨by simp [isBinary], ?_⟩
      intro minimum outcome fits tail
      obtain ⟨above, stops⟩ := fits operator registered
      have two := right.two_le_cost
      obtain ⟨room, rfl⟩ : ∃ inside, room = inside + 1 :=
        Nat.exists_eq_add_one.mpr (by simp only [cost] at enough; omega)
      have rightFits :=
        rightCanonical.fits_right positive acceptsRight stops
      have leftFits := leftCanonical.fits_left registered acceptsLeft above
        position (back ++ rest)
      have readsRight : Reads table limit (room + 1)
          (.chain operator.floor (back ++ rest)) (.ok (right, rest)) :=
        (rightReads room back rest rightSpelled
          (by simp only [cost] at enough; omega)).2 _ _ rightFits (.stop stops)
      have clear : ∀ earlier ∈ left.root? table,
          earlier.conflicts operator = false :=
        fun earlier member => (acceptsLeft earlier member).conflicts_eq_false
      have readsLeft := (leftReads (room + 1) front
        (⟨.operator symbol, position⟩ :: (back ++ rest)) leftSpelled
        (by simp only [cost] at enough; omega)).2 minimum outcome leftFits
        (.extend registered above clear readsRight tail)
      simpa using readsLeft

theorem chain_tooDeep {tokens : List Lexeme} {cost : Nat}
    (operand : ∀ room, room + 1 < cost →
      Reads table limit room (.operand tokens) (.error (.nestingTooDeep limit)))
    {room : Nat} (short : room < cost) (minimum : Int32) :
    Reads table limit room (.chain minimum tokens)
      (.error (.nestingTooDeep limit)) := by
  cases room with
  | zero => exact .chainTooDeep
  | succ room => exact .chainFault (operand room short)

/-- Reading a canonical expression in less room than it costs fails for that
reason. -/
theorem tooDeep {written : Written} (canonical : written.Canonical table)
    (lexemes rest : List Lexeme)
    (spelled : lexemes.map Lexeme.token = written.tokens) :
    (written.isBinary = false → ∀ room, room + 1 < written.cost →
      Reads table limit room (.operand (lexemes ++ rest))
        (.error (.nestingTooDeep limit))) ∧
    ∀ room minimum, written.Fits table minimum rest → room < written.cost →
      Reads table limit room (.chain minimum (lexemes ++ rest))
        (.error (.nestingTooDeep limit)) := by
  induction canonical generalizing lexemes rest with
  | literal text =>
      have operandFails : ∀ room, room + 1 < (Written.literal text).cost →
          Reads table limit room (.operand (lexemes ++ rest))
            (.error (.nestingTooDeep limit)) := by
        intro room short
        have none : room = 0 := by
          simp only [cost] at short
          omega
        exact none ▸ .operandTooDeep
      exact ⟨fun _ => operandFails,
        fun _ minimum _ short => chain_tooDeep operandFails short minimum⟩
  | @unary symbol operand notBinary _ inner =>
      obtain ⟨position, behind, rfl, operandSpelled⟩ :=
        exists_lexemes_unary spelled
      have operandFails : ∀ room,
          room + 1 < (Written.unary symbol operand).cost →
          Reads table limit room
            (.operand (⟨.operator symbol, position⟩ :: behind ++ rest))
            (.error (.nestingTooDeep limit)) := by
        intro room short
        cases room with
        | zero => exact .operandTooDeep
        | succ room =>
            have innerShort : room + 1 < operand.cost := by
              simp only [cost] at short
              omega
            exact .unaryFault
              ((inner behind rest operandSpelled).1 notBinary room innerShort)
      exact ⟨fun _ => operandFails,
        fun _ minimum _ short => chain_tooDeep operandFails short minimum⟩
  | @parens inner innerCanonical innerFails =>
      obtain ⟨position, inside, place, rfl, insideSpelled⟩ :=
        exists_lexemes_parens spelled
      have operandFails : ∀ room, room + 1 < (Written.parens inner).cost →
          Reads table limit room
            (.operand (⟨.leftParen, position⟩ ::
              (inside ++ [⟨.rightParen, place⟩]) ++ rest))
            (.error (.nestingTooDeep limit)) := by
        intro room short
        cases room with
        | zero => exact .operandTooDeep
        | succ room =>
            have innerShort : room < inner.cost := by
              simp only [cost] at short
              omega
            have chainFails :=
              (innerFails inside (⟨.rightParen, place⟩ :: rest)
                insideSpelled).2 room 0
                (innerCanonical.fits_zero fun _ => trivial) innerShort
            apply Reads.parensFault
            simpa using chainFails
      exact ⟨fun _ => operandFails,
        fun _ minimum _ short => chain_tooDeep operandFails short minimum⟩
  | @binary symbol operator left right registered positive acceptsLeft
      acceptsRight leftCanonical rightCanonical leftFails rightFails =>
      obtain ⟨front, position, back, rfl, leftSpelled, rightSpelled⟩ :=
        exists_lexemes_binary spelled
      refine ⟨by simp [isBinary], ?_⟩
      intro room minimum fits short
      obtain ⟨above, stops⟩ := fits operator registered
      have leftFits := leftCanonical.fits_left registered acceptsLeft above
        position (back ++ rest)
      by_cases leftShort : room < left.cost
      · have chainFails := (leftFails front
          (⟨.operator symbol, position⟩ :: (back ++ rest)) leftSpelled).2 room
          minimum leftFits leftShort
        simpa using chainFails
      · have rightFits :=
          rightCanonical.fits_right positive acceptsRight stops
        have two := left.two_le_cost
        obtain ⟨room, rfl⟩ : ∃ inside, room = inside + 1 :=
          Nat.exists_eq_add_one.mpr (by omega)
        have rightShort : room < right.cost := by
          simp only [cost] at short
          omega
        have chainFails := (leftCanonical.reads_operand_and_chain room front
          (⟨.operator symbol, position⟩ :: (back ++ rest)) leftSpelled
          (Nat.le_of_not_lt leftShort)).2 minimum _ leftFits
          (.rightFault registered above
            (fun earlier member =>
              (acceptsLeft earlier member).conflicts_eq_false)
            ((rightFails back rest rightSpelled).2 room operator.floor
              rightFits rightShort))
        simpa using chainFails

end Written.Canonical

end Reckoner
