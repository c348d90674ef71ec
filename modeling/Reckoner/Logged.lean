/-!
# Logged results

A computation that keeps a log gives back its value together with the records
it emitted.  One computation after another emits the records of both in order.
-/

namespace Reckoner

/-- How much attention a record asks for. -/
inductive Level where
  | trace
  | debug
  | warn
  deriving Repr, DecidableEq

/-- The name of a level. -/
def Level.name : Level → String
  | .trace => "TRACE"
  | .debug => "DEBUG"
  | .warn => "WARN"

/-- An entry of the log. -/
structure Record where
  level : Level
  message : String
  deriving Repr, DecidableEq

/-- A value and the records emitted on the way to it. -/
structure Logged (α : Type) where
  value : α
  records : List Record

namespace Logged

instance : Monad Logged where
  pure value := ⟨value, []⟩
  bind first next :=
    let second := next first.value
    ⟨second.value, first.records ++ second.records⟩

@[simp] theorem value_pure {α : Type} (result : α) :
    (pure result : Logged α).value = result := rfl

@[simp] theorem value_bind {α β : Type} (first : Logged α)
    (next : α → Logged β) :
    (first >>= next).value = (next first.value).value := rfl

/-- Emits one record. -/
def emit (level : Level) (message : String) : Logged Unit :=
  ⟨(), [⟨level, message⟩]⟩

end Logged

end Reckoner
