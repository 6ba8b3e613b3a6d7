import EntityQuery.Id

/-!
# Errors and their words

What can go wrong when entities are stored and queried. An error carries its cause; `Error.message`
is the only place that puts causes into words, and `Error.kind` says at which point of a query's
life the cause arises. Engines report troubles of their own in free text under the variant that
fits.
-/

namespace EntityQuery

inductive Error where
  | unknownEntity (entity : EntityId)
  | unknownProperty (entity : EntityId) (property : PropertyId)
  | typeMismatch (property : PropertyId) (expected got : String)
  | unsupported (reason : String)
  | build (reason : String)
  | execution (reason : String)
  | release (reason : String)
  | decode (reason : String)
  | transaction (reason : String)
  | storage (reason : String)
  | json
  deriving DecidableEq, Repr, Inhabited

/-- The point of a query's life at which an error arises. -/
inductive ErrorKind where
  /-- A condition was refused while it was registered, or could not be compiled. -/
  | build
  /-- The engine failed while it ran a compiled query. -/
  | execution
  /-- A builder, compiled query or cursor could not be closed. -/
  | release
  /-- A stored record could not be read. -/
  | decode
  /-- The schema, a transaction or the engine itself is at fault. -/
  | storage
  deriving DecidableEq, Repr, Inhabited

namespace Error

def kind : Error → ErrorKind
  | unknownProperty .. | typeMismatch .. | unsupported _ | build _ => .build
  | execution _ => .execution
  | release _ => .release
  | decode _ | json => .decode
  | unknownEntity _ | transaction _ | storage _ => .storage

def message : Error → String
  | unknownEntity e => "Unknown entity: " ++ e.text
  | unknownProperty e p => "Unknown property " ++ p.text ++ " for entity " ++ e.text
  | typeMismatch p expected got =>
    "Type error on property " ++ p.text ++ ": expected " ++ expected ++ ", got " ++ got
  | unsupported reason => "Unsupported condition: " ++ reason
  | build reason => "Build error: " ++ reason
  | execution reason => "Execution error: " ++ reason
  | release reason => "Release error: " ++ reason
  | decode reason => "Decode error: " ++ reason
  | transaction reason => "Transaction error: " ++ reason
  | storage reason => "Storage error: " ++ reason
  | json => "JSON error"

end Error

theorem bind_eq_ok {ε α β : Type} {x : Except ε α} {f : α → Except ε β} {b : β} :
    (x >>= f) = .ok b ↔ ∃ a, x = .ok a ∧ f a = .ok b := by
  cases x <;> simp [bind, Except.bind]

theorem bind_eq_error {ε α β : Type} {x : Except ε α} {f : α → Except ε β} {e : ε} :
    (x >>= f) = .error e ↔ x = .error e ∨ ∃ a, x = .ok a ∧ f a = .error e := by
  cases x <;> simp [bind, Except.bind]

theorem map_eq_ok {ε α β : Type} {x : Except ε α} {f : α → β} {b : β} :
    x.map f = .ok b ↔ ∃ a, x = .ok a ∧ f a = b := by
  cases x <;> simp [Except.map]

theorem map_eq_error {ε α β : Type} {x : Except ε α} {f : α → β} {e : ε} :
    x.map f = .error e ↔ x = .error e := by
  cases x <;> simp [Except.map]

end EntityQuery
