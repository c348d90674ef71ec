import Mathlib.Data.List.Chain
import Reckoner.Proofs.Scanning

/-!
# Taking tokens back

A lexer that takes a token back moves to where the token starts, and not to where
it stood before the token was read: blanks that were skipped stay skipped.  It is
undone all the same, because what a lexer returns depends on its text and on the
place behind the blanks only (`Lexer.SameAhead`).  Calls for tokens, some of them
taken back at once, return the tokens of the text in order
(`Lexer.pushBack_undoes_next`).
-/

namespace Reckoner.Lexer

/-- A call on a lexer. -/
inductive Call where
  | next
  | pushBack (token : Token)
  deriving Repr, DecidableEq

/-- A call, what it returns, and the lexer before and behind it. -/
structure Event where
  call : Call
  before : Lexer
  returned : Option Token
  after : Lexer
  deriving Repr, DecidableEq

/-- What a call does. -/
def perform (table : Table) (lexer : Lexer) : Call → Event
  | .next => ⟨.next, lexer, some (lexer.next table).1, (lexer.next table).2⟩
  | .pushBack token => ⟨.pushBack token, lexer, none, lexer.pushBack token⟩

/-- What calls do one after the other. -/
def events (table : Table) (lexer : Lexer) : List Call → List Event
  | [] => []
  | call :: calls =>
      lexer.perform table call ::
        events table (lexer.perform table call).after calls

/-- The token that an event returns, with the place behind it. -/
def Event.delivery (event : Event) : List (Token × Nat) :=
  (event.returned.map fun token => (token, event.after.position)).toList

/-- The tokens that are returned and not taken back, with the places behind
them. -/
def kept : List Event → List (Token × Nat)
  | event :: undo :: events =>
      match undo.call with
      | .pushBack _ => kept events
      | .next => event.delivery ++ kept (undo :: events)
  | [event] => event.delivery
  | [] => []

/-- The tokens that a number of calls return, with the places behind them. -/
def deliveries (table : Table) : Nat → Lexer → List (Token × Nat)
  | 0, _ => []
  | count + 1, lexer =>
      ((lexer.next table).1, (lexer.next table).2.position) ::
        deliveries table count (lexer.next table).2

variable {table : Table} {lexer plain : Lexer} {token : Token}
  {calls : List Call}

/-- Every call that takes a token back stands directly behind the call that has
returned the token. -/
inductive TakesBackLast (table : Table) : Lexer → List Call → Prop where
  | done {lexer : Lexer} : TakesBackLast table lexer []
  | keep {lexer : Lexer} {calls : List Call} :
      TakesBackLast table (lexer.next table).2 calls →
      TakesBackLast table lexer (.next :: calls)
  | undo {lexer : Lexer} {token : Token} {calls : List Call} :
      (lexer.next table).1 = token →
      TakesBackLast table ((lexer.next table).2.pushBack token) calls →
      TakesBackLast table lexer (.next :: .pushBack token :: calls)

/-- What lies ahead of both lexers are the same characters at the same place, if
blanks do not count. -/
structure SameAhead (lexer plain : Lexer) : Prop where
  boundary : lexer.AtBoundary
  text_eq : lexer.text = plain.text
  skipBlanks_eq : lexer.cursor.skipBlanks = plain.cursor.skipBlanks

theorem SameAhead.refl (boundary : lexer.AtBoundary) : lexer.SameAhead lexer :=
  ⟨boundary, rfl, rfl⟩

theorem SameAhead.next_eq (same : lexer.SameAhead plain) (table : Table) :
    lexer.next table = plain.next table := by
  have read : lexer.cursor.next table = plain.cursor.next table := by
    simp only [Cursor.next, same.skipBlanks_eq]
  rw [next, next, read, same.text_eq]

/-- Reading a token and taking it back changes nothing that lies ahead. -/
theorem SameAhead.pushBack_next (same : lexer.SameAhead plain)
    (table : Table) :
    ((lexer.next table).2.pushBack (lexer.next table).1).SameAhead plain := by
  obtain ⟨boundary, cursor_eq⟩ := same.boundary.pushBack_next table
  refine ⟨boundary, same.text_eq, ?_⟩
  rw [cursor_eq, Cursor.skipBlanks_skipBlanks, same.skipBlanks_eq]

theorem length_deliveries (table : Table) (count : Nat) (lexer : Lexer) :
    (lexer.deliveries table count).length = count := by
  induction count generalizing lexer with
  | zero => rfl
  | succ count inductionHypothesis =>
      rw [deliveries, List.length_cons, inductionHypothesis]

theorem deliveries_prefix (table : Table) {count more : Nat}
    (within : count ≤ more) (lexer : Lexer) :
    lexer.deliveries table count <+: lexer.deliveries table more := by
  induction count generalizing lexer more with
  | zero => exact List.nil_prefix
  | succ count inductionHypothesis =>
      cases more with
      | zero => exact absurd within (Nat.not_succ_le_zero count)
      | succ more =>
          rw [deliveries, deliveries, List.prefix_cons_inj]
          exact inductionHypothesis (Nat.le_of_succ_le_succ within) _

/-- The tokens that are kept are those that calls without taking back return. -/
theorem TakesBackLast.exists_kept_eq
    (takesBack : TakesBackLast table lexer calls)
    (same : lexer.SameAhead plain) :
    ∃ count, kept (lexer.events table calls) =
      plain.deliveries table count := by
  induction takesBack generalizing plain with
  | done => exact ⟨0, rfl⟩
  | @keep lexer calls rest inductionHypothesis =>
      have next_eq := same.next_eq table
      obtain ⟨count, rest_eq⟩ := inductionHypothesis
        (SameAhead.refl (same.boundary.next_spec table).1)
      refine ⟨count + 1, ?_⟩
      have head : kept (lexer.events table (.next :: calls)) =
          ((lexer.next table).1, (lexer.next table).2.position) ::
            kept ((lexer.next table).2.events table calls) := by
        cases rest with
        | done | keep | undo => rfl
      rw [head, rest_eq, next_eq]
      rfl
  | @undo lexer token calls returned _ inductionHypothesis =>
      subst returned
      exact inductionHypothesis (same.pushBack_next table)

/-- The second event takes back the token that the first one has returned.  The
lexer is then where the token starts, which is not before the place where it stood
first, and the next call does the same as the first one. -/
structure Undoes (table : Table) (token : Token) (event undo : Event) :
    Prop where
  call_eq : event.call = .next
  returned_eq : event.returned = some token
  before_eq : undo.before = event.after
  boundary : undo.after.AtBoundary
  lexeme_eq : (event.before.cursor.next table).1 = ⟨token, undo.after.position⟩
  remaining_eq : undo.after.remaining =
    token.text.toList ++ event.after.remaining
  within : event.before.position + token.byteLength ≤ event.after.position
  next_eq : undo.after.next table = (token, event.after)

theorem AtBoundary.undoes (boundary : lexer.AtBoundary) (table : Table) :
    Undoes table (lexer.next table).1 (lexer.perform table .next)
      ((lexer.next table).2.perform table (.pushBack (lexer.next table).1))
      := by
  obtain ⟨atBoundary, cursor_eq⟩ := boundary.pushBack_next table
  refine ⟨rfl, rfl, rfl, atBoundary, ?_, ?_, ?_, ?_⟩
  · exact congrArg (Lexeme.mk _) (congrArg Cursor.position cursor_eq).symm
  · have start := lexer.cursor.skipBlanks_rest_eq_append table
    rw [← (boundary.next_spec table).2] at start
    exact (congrArg Cursor.rest cursor_eq).trans start
  · have moved := position_next table lexer
    rw [← Text.utf8ByteSize_eq_byteLength, ← Token.byteLength] at moved
    simp only [perform, moved]
    omega
  · exact ((SameAhead.refl boundary).pushBack_next table).next_eq table

/-- Wherever a token is taken back, the event in front is undone. -/
theorem TakesBackLast.isChain_undoes
    (takesBack : TakesBackLast table lexer calls)
    (boundary : lexer.AtBoundary) :
    (lexer.events table calls).IsChain fun event undo =>
      ∀ token, undo.call = .pushBack token →
        Undoes table token event undo := by
  induction takesBack with
  | done => exact .nil
  | @keep lexer calls rest inductionHypothesis =>
      have chain := inductionHypothesis (boundary.next_spec table).1
      cases rest with
      | done => exact .singleton _
      | keep | undo => exact .cons_cons nofun chain
  | @undo lexer token calls returned rest inductionHypothesis =>
      subst returned
      have undoes := boundary.undoes table
      have chain := inductionHypothesis undoes.boundary
      refine .cons_cons ?_ ?_
      · rintro _ ⟨⟩
        exact undoes
      · cases rest with
        | done => exact .singleton _
        | keep | undo => exact .cons_cons nofun chain

theorem TakesBackLast.atBoundary_of_mem
    (takesBack : TakesBackLast table lexer calls)
    (boundary : lexer.AtBoundary) :
    ∀ event ∈ lexer.events table calls,
      event.before.AtBoundary ∧ event.after.AtBoundary := by
  induction takesBack with
  | done => exact nofun
  | @keep lexer calls rest inductionHypothesis =>
      have after := (boundary.next_spec table).1
      exact List.forall_mem_cons.mpr
        ⟨⟨boundary, after⟩, inductionHypothesis after⟩
  | @undo lexer token calls returned rest inductionHypothesis =>
      subst returned
      have after := (boundary.next_spec table).1
      have undone := (boundary.undoes table).boundary
      exact List.forall_mem_cons.mpr ⟨⟨boundary, after⟩,
        List.forall_mem_cons.mpr
          ⟨⟨after, undone⟩, inductionHypothesis undone⟩⟩

/-- Calls for tokens, from the start of a text on and with any table, each of which
may be taken back at once.  The tokens that are kept are the first ones that the
same lexer returns when none is taken back, with the same places behind them.  Every
token that is taken back takes the lexer to where its text starts, between two
characters and not before the place in front of the call, and is returned again by
the next call, which leaves the same lexer behind. -/
theorem pushBack_undoes_next {table : Table} {text : String}
    {calls : List Call}
    (takesBack : TakesBackLast table (ofText text) calls) :
    (∀ count, (kept ((ofText text).events table calls)).length ≤ count →
      kept ((ofText text).events table calls) <+:
        (ofText text).deliveries table count) ∧
    (∀ event ∈ (ofText text).events table calls,
      event.before.AtBoundary ∧ event.after.AtBoundary) ∧
    ((ofText text).events table calls).IsChain fun event undo =>
      ∀ token, undo.call = .pushBack token →
        Undoes table token event undo := by
  have boundary := atBoundary_ofText text
  refine ⟨?_, takesBack.atBoundary_of_mem boundary,
    takesBack.isChain_undoes boundary⟩
  intro count within
  obtain ⟨size, kept_eq⟩ :=
    takesBack.exists_kept_eq (SameAhead.refl boundary)
  rw [kept_eq] at within ⊢
  rw [length_deliveries] at within
  exact deliveries_prefix table within _

theorem pushBack_undoes_next_of_powers :
    let calls : List Call :=
      [.next, .pushBack (.number "2"), .next, .next,
       .pushBack (.operator "**"), .next, .next, .pushBack .endOfText, .next]
    TakesBackLast .scientific (ofText " 2 ** ") calls ∧
      kept ((ofText " 2 ** ").events .scientific calls) <+:
        (ofText " 2 ** ").deliveries .scientific 5 := by
  intro calls
  have takesBack : TakesBackLast .scientific (ofText " 2 ** ") calls := by
    refine .undo (by decide +kernel) (.keep (.undo (by decide +kernel)
      (.keep (.undo (by decide +kernel) (.keep .done)))))
  refine ⟨takesBack, (pushBack_undoes_next takesBack).1 5 ?_⟩
  decide +kernel

end Reckoner.Lexer
