import Reckoner.Proofs.Grammar
import Reckoner.Proofs.Ranking

/-!
# Symbols that occur in a text

Of a table only those entries count whose symbols occur in a text, the empty symbol
left out: tables that agree on these symbols read, parse and evaluate the text alike
(`Table.AgreesIn.indistinguishable`).  A token is read at the start of what is left
of the text, and a symbol that stands there occurs in the text; further on the parser
and the evaluation look up the symbols of tokens only (`Reads.transfer`).
-/

namespace Reckoner

namespace Table

/-- The tables have the same operators for the symbols of some tokens. -/
def AgreesOn (first second : Table) (tokens : List Token) : Prop :=
  ∀ symbol, .operator symbol ∈ tokens → first.get? symbol = second.get? symbol

/-- The tables have the same operators for the symbols that occur in a text. -/
def AgreesIn (first second : Table) (text : List Char) : Prop :=
  ∀ symbol, symbol ≠ "" → symbol.toList <:+: text →
    first.get? symbol = second.get? symbol

variable {first second table : Table} {tokens inner : List Token}
  {text : List Char}

theorem AgreesOn.mono (agrees : first.AgreesOn second tokens)
    (within : inner ⊆ tokens) : first.AgreesOn second inner :=
  fun symbol member => agrees symbol (within member)

theorem AgreesIn.mono {inner : List Char} (agrees : first.AgreesIn second text)
    (within : inner <:+: text) : first.AgreesIn second inner :=
  fun symbol nonempty occurs => agrees symbol nonempty (occurs.trans within)

theorem AgreesOn.around_operator {left right : List Token} {symbol : String}
    (agrees : first.AgreesOn second (left ++ .operator symbol :: right)) :
    first.AgreesOn second left ∧ first.get? symbol = second.get? symbol ∧
      first.AgreesOn second right := by
  have tail := agrees.mono (List.subset_append_right _ _)
  exact ⟨agrees.mono (List.subset_append_left _ _),
    tail symbol List.mem_cons_self, tail.mono (List.subset_cons_self _ _)⟩

/-- The symbols that the text starts with are the same in both tables, and so is the
order in which they are tried. -/
theorem AgreesIn.matchAt?_eq (agrees : first.AgreesIn second text) :
    first.matchAt? text = second.matchAt? text := by
  have standing : first.symbols.filter (startsWith text) =
      second.symbols.filter (startsWith text) := by
    apply Symbol.eq_of_pairwise (first.symbols_ordered.filter _)
      (second.symbols_ordered.filter _)
    intro symbol
    rw [List.mem_filter, List.mem_filter, startsWith_iff]
    apply and_congr_left
    rintro ⟨nonempty, starts⟩
    rw [mem_symbols_iff, mem_symbols_iff,
      agrees symbol nonempty starts.isInfix]
  rw [matchAt?, matchAt?, ← List.head?_filter, ← List.head?_filter, standing]

theorem AgreesIn.next_eq {cursor : Cursor}
    (agrees : first.AgreesIn second cursor.rest) :
    cursor.next first = cursor.next second := by
  have within : cursor.skipBlanks.rest <:+: cursor.rest :=
    (List.dropWhile_suffix Text.isBlank).isInfix
  simp only [Cursor.next, Token.first, (agrees.mono within).matchAt?_eq]

theorem AgreesIn.ofText_eq {text : String}
    (agrees : first.AgreesIn second text.toList) :
    Lexeme.ofText first text = Lexeme.ofText second text := by
  apply Cursor.lexemes_congr_of_next
  intro later within
  exact (agrees.mono within.isInfix).next_eq

/-- The symbols of tokens occur in the text. -/
theorem AgreesIn.agreesOn_ofText {text : String}
    (agrees : first.AgreesIn second text.toList) :
    first.AgreesOn second
      ((Lexeme.ofText table text).map Lexeme.token) := by
  intro symbol member
  obtain ⟨lexeme, member, token_eq⟩ := List.mem_map.mp member
  obtain ⟨front, back, lexed⟩ := List.append_of_mem member
  obtain ⟨before, after, text_eq, _, _, _, read, _⟩ :=
    Cursor.exists_cut_of_lexemes lexed
  rw [token_eq] at read
  have more : (Token.first table after).isLast = false := by
    rw [read]
    rfl
  have legible := Cursor.legible_first more
  have starts := Token.text_prefix_first table after
  rw [read] at legible starts
  have within : after <:+ text.toList := ⟨before, text_eq.symm⟩
  exact agrees symbol legible.1 (starts.isInfix.trans within.isInfix)

end Table

variable {first second : Table} {limit room : Nat}

theorem Stops.transfer {minimum : Int32} {lexemes : List Lexeme}
    (stops : Stops first minimum lexemes)
    (agrees : first.AgreesOn second (lexemes.map Lexeme.token)) :
    Stops second minimum lexemes := by
  match lexemes with
  | ⟨.operator symbol, _⟩ :: _ =>
      rw [Stops, ← agrees symbol List.mem_cons_self]
      exact stops
  | [] | ⟨.number _, _⟩ :: _ | ⟨.leftParen, _⟩ :: _ | ⟨.rightParen, _⟩ :: _
  | ⟨.endOfText, _⟩ :: _ | ⟨.illegal _, _⟩ :: _ => trivial

namespace Written

variable {written : Written}

theorem root?_eq (agrees : first.AgreesOn second written.tokens) :
    written.root? first = written.root? second := by
  cases written with
  | literal | unary | parens => rfl
  | binary symbol left right =>
      exact agrees symbol (List.mem_append_right _ List.mem_cons_self)

theorem evaluate_erase_eq (agrees : first.AgreesOn second written.tokens) :
    written.erase.evaluate first = written.erase.evaluate second := by
  induction written with
  | literal text => rfl
  | unary symbol operand operandHypothesis =>
      have inside := agrees.mono (List.subset_cons_self _ _)
      rw [erase, Expression.evaluate, Expression.evaluate,
        operandHypothesis inside]
  | binary symbol left right leftHypothesis rightHypothesis =>
      obtain ⟨leftAgrees, registered, rightAgrees⟩ := agrees.around_operator
      simp only [erase, Expression.evaluate, Expression.applyBinary,
        leftHypothesis leftAgrees, rightHypothesis rightAgrees, registered]
  | parens inner innerHypothesis =>
      apply innerHypothesis
      exact agrees.mono (List.Subset.trans (List.subset_append_left _ _)
        (List.subset_cons_self _ _))

end Written

/-- A routine asks the table for the symbols of its tokens and of what has been read
before it. -/
theorem Reads.transfer {routine : Routine} {outcome : Outcome}
    (reads : Reads first limit room routine outcome)
    (agrees : first.AgreesOn second
      (routine.before ++ routine.input.map Lexeme.token)) :
    Reads second limit room routine outcome := by
  induction reads with
  | operandTooDeep => exact .operandTooDeep
  | number => exact .number
  | noOperand => exact .noOperand
  | illegal => exact .illegal
  | endOfText => exact .endOfText
  | noTokens => exact .noTokens
  | chainTooDeep => exact .chainTooDeep
  | parens _ inner =>
      exact .parens (inner (agrees.mono (List.subset_cons_self _ _)))
  | parensUnclosed _ unclosed inner =>
      exact .parensUnclosed
        (inner (agrees.mono (List.subset_cons_self _ _))) unclosed
  | parensFault _ inner =>
      exact .parensFault (inner (agrees.mono (List.subset_cons_self _ _)))
  | unary _ operand =>
      exact .unary (operand (agrees.mono (List.subset_cons_self _ _)))
  | unaryFault _ operand =>
      exact .unaryFault (operand (agrees.mono (List.subset_cons_self _ _)))
  | chainFault _ operand => exact .chainFault (operand agrees)
  | chain readsOperand _ operand tail =>
      obtain ⟨taken, input, tokens⟩ := readsOperand.exists_taken _ _ rfl
      refine .chain (operand agrees) (tail ?_)
      rw [Routine.input] at input
      rw [Routine.input, input, List.map_append] at agrees
      rw [Routine.before, tokens]
      exact agrees
  | stop stops =>
      exact .stop (stops.transfer (agrees.mono (List.subset_append_right _ _)))
  | conflict registered above root conflicts =>
      obtain ⟨before, same, _⟩ := agrees.around_operator
      rw [same] at registered
      rw [Written.root?_eq before] at root
      exact .conflict registered above root conflicts
  | rightFault registered above clear _ right =>
      obtain ⟨before, same, behind⟩ := agrees.around_operator
      rw [same] at registered
      rw [Written.root?_eq before] at clear
      exact .rightFault registered above clear (right behind)
  | extend registered above clear readsRight _ right tail =>
      obtain ⟨before, same, behind⟩ := agrees.around_operator
      obtain ⟨taken, input, tokens⟩ := readsRight.exists_taken _ _ rfl
      rw [same] at registered
      rw [Written.root?_eq before] at clear
      refine .extend registered above clear (right behind) (tail ?_)
      rw [Routine.input] at input
      simpa [Routine.before, Routine.input, Written.tokens, tokens, input]
        using agrees

namespace Expression

variable {text : String} {expression : Expression}

/-- What a text is parsed to depends on the operators of its symbols. -/
theorem parse_eq_of_agreesIn (agrees : first.AgreesIn second text.toList) :
    parse first limit text = parse second limit text := by
  obtain ⟨outcome, reads, _⟩ :=
    (exists_reads first limit limit).2 0 (Lexeme.ofText first text)
  have transferred := reads.transfer agrees.agreesOn_ofText
  rw [agrees.ofText_eq] at transferred
  rw [parse_eq_of_reads reads, parse_eq_of_reads transferred]

/-- So does the value of what it is parsed to. -/
theorem evaluate_eq_of_agreesIn (agrees : first.AgreesIn second text.toList)
    (parsed : parse second limit text = .ok expression) :
    expression.evaluate first = expression.evaluate second := by
  obtain ⟨written, _, spells, rfl, _⟩ := exists_of_parse_eq_ok parsed
  apply Written.evaluate_erase_eq
  have agreesOn : first.AgreesOn second
      ((Lexeme.ofText second text).map Lexeme.token) := agrees.agreesOn_ofText
  rw [spells] at agreesOn
  exact agreesOn.mono (List.subset_append_left _ _)

end Expression

namespace Table

/-- Nothing that is done with a text tells the tables apart: a lexer anywhere in the
text returns the same, the tokens are the same, and within every limit the parsers
come to the same expression or the same error, and calculators to the same number of
every kind or the same error, with the same records. -/
structure Indistinguishable (first second : Table) (text : String) : Prop where
  next_eq : ∀ lexer : Lexer, lexer.text = text.toList →
    lexer.next first = lexer.next second
  ofText_eq : Lexeme.ofText first text = Lexeme.ofText second text
  parse_eq : ∀ limit, Expression.parse first limit text =
    Expression.parse second limit text
  parse_onDemand_eq : ∀ limit, Parser.parse first limit text =
    Parser.parse second limit text
  evaluate_eq : ∀ (α : Type) [Number α] (limit : UInt64),
    ((⟨first, limit⟩ : Calculator).evaluate text :
        Logged (Except CalcError α)) =
      (⟨second, limit⟩ : Calculator).evaluate text

variable {first second : Table} {text : String}

theorem AgreesIn.indistinguishable
    (agrees : first.AgreesIn second text.toList) :
    first.Indistinguishable second text where
  next_eq lexer text_eq := by
    have within : lexer.remaining <:+ text.toList :=
      text_eq ▸ Text.dropBytes_suffix lexer.text lexer.position
    have read : lexer.cursor.next first = lexer.cursor.next second :=
      AgreesIn.next_eq (agrees.mono within.isInfix)
    rw [Lexer.next, Lexer.next, read]
  ofText_eq := agrees.ofText_eq
  parse_eq limit := Expression.parse_eq_of_agreesIn agrees
  parse_onDemand_eq limit := by
    rw [Parser.parse_eq, Parser.parse_eq,
      Expression.parse_eq_of_agreesIn agrees]
  evaluate_eq α _ limit := by
    apply Calculator.evaluate_congr_of_parse
    · exact Expression.parse_eq_of_agreesIn agrees
    · intro expression parsed
      exact Expression.evaluate_eq_of_agreesIn agrees parsed

end Table

namespace Entry

/-- The symbol of the entry is empty, or does not occur in a text. -/
def Absent (text : String) (entry : Entry) : Prop :=
  entry.symbol = "" ∨ ¬ entry.symbol.toList <:+: text.toList

instance (text : String) (entry : Entry) : Decidable (entry.Absent text) :=
  inferInstanceAs (Decidable
    (entry.symbol = "" ∨ ¬ entry.symbol.toList <:+: text.toList))

theorem latest?_of_absent {entries : List Entry} {text symbol : String}
    (absent : ∀ entry ∈ entries, entry.Absent text) (nonempty : symbol ≠ "")
    (occurs : symbol.toList <:+: text.toList) :
    latest? entries symbol = none := by
  rw [← Option.not_isSome_iff_eq_none, isSome_latest?_iff, List.mem_map]
  rintro ⟨entry, member, rfl⟩
  rcases absent entry member with empty | missing
  · exact nonempty empty
  · exact missing occurs

end Entry

namespace Table

theorem agreesIn_insertAll {table : Table} {entries : List Entry}
    {text : String} (absent : ∀ entry ∈ entries, entry.Absent text) :
    table.AgreesIn (table.insertAll entries) text.toList := by
  intro symbol nonempty occurs
  rw [get?_insertAll, Entry.latest?_of_absent absent nonempty occurs,
    Option.none_or]

/-- An operator that is registered under a symbol that does not occur in a text, or
under the empty symbol, makes no difference to the text, whether the symbol is new
to the table or not.  So it is with any number of operators in any order.  A registry
finds the same symbol in front of every part of the text that remains, and the same
operators for all symbols in it. -/
theorem indistinguishable_of_absent (text : String) :
    (∀ (table : Table) (symbol : String) (operator : Operator),
      (symbol = "" ∨ ¬ symbol.toList <:+: text.toList) →
      table.Indistinguishable (table.insert symbol operator) text) ∧
    (∀ (table : Table) (entries : List Entry),
      (∀ entry ∈ entries, entry.Absent text) →
      table.Indistinguishable (table.insertAll entries) text) ∧
    (∀ history entries : List Entry,
      (∀ entry ∈ entries, entry.Absent text) →
      (∀ ahead, ahead <:+ text.toList →
        (Registry.empty.insertAll (history ++ entries)).matchAt? ahead =
          (Registry.empty.insertAll history).matchAt? ahead) ∧
      ∀ symbol, symbol ≠ "" → symbol.toList <:+: text.toList →
        (Registry.empty.insertAll (history ++ entries)).get? symbol =
          (Registry.empty.insertAll history).get? symbol) := by
  refine ⟨?_, ?_, ?_⟩
  · intro table symbol operator absent
    have absent : ∀ entry ∈ [Entry.mk symbol operator], entry.Absent text :=
      List.forall_mem_singleton.mpr absent
    exact (agreesIn_insertAll absent).indistinguishable
  · intro table entries absent
    exact (agreesIn_insertAll absent).indistinguishable
  · intro history entries absent
    have filled : empty.insertAll (history ++ entries) =
        (empty.insertAll history).insertAll entries := List.foldl_append
    have agrees : (empty.insertAll history).AgreesIn
        (empty.insertAll (history ++ entries)) text.toList :=
      filled ▸ agreesIn_insertAll absent
    constructor
    · intro ahead within
      simp only [← Registry.matchAt?_view, Registry.view_insertAll_empty,
        matchAt?_view]
      exact (agrees.mono within.isInfix).matchAt?_eq.symm
    · intro symbol nonempty occurs
      rw [Registry.get?_insertAll_empty, Registry.get?_insertAll_empty,
        ← get?_insertAll_empty, ← get?_insertAll_empty]
      exact (agrees symbol nonempty occurs).symm

theorem indistinguishable_of_powers :
    let entries : List Entry :=
      [⟨"**", Arithmetic.power.operator 30 .right⟩,
       ⟨"", Arithmetic.add.operator 10 .left⟩,
       ⟨"-", Arithmetic.divide.operator 40 .neither⟩,
       ⟨"3+5", Arithmetic.minimum.operator 20 .left⟩]
    (∀ entry ∈ entries, entry.Absent "2*3+4") ∧
      standard.Indistinguishable (standard.insertAll entries) "2*3+4" ∧
      Parser.parse (standard.insertAll entries) 8 "2*3+4" =
        .ok (.binary "+" (.binary "*" (.literal "2") (.literal "3"))
          (.literal "4")) := by
  intro entries
  have absent : ∀ entry ∈ entries, entry.Absent "2*3+4" := by
    simp only [entries]
    decide +kernel
  have same := (indistinguishable_of_absent "2*3+4").2.1 standard entries absent
  refine ⟨absent, same, ?_⟩
  rw [← same.parse_onDemand_eq]
  decide +kernel

end Table

end Reckoner
