import Reminders.Task

/-!
# Repositories

A repository takes entities, each of which has an identifier that never changes. Where it keeps them
is up to the state it works on: `Repository.within` makes a repository of a store that is a part of
the state.
-/

namespace Reminders

/-- Something with an identifier that a store can keep. -/
class Entity (α : Type) where
  id : α → Uuid
  /-- Whether a copy of the entity can be made. -/
  copies : α → Bool := fun _ => true

/-- Adds an entity to a collection, under a token. -/
abbrev Repository (σ α : Type) := α → Token → Task σ Unit

namespace Repository

variable {σ ρ α : Type}

/-- The repository of a store within a state, given how the store takes an entity. -/
def within [Cancellable σ] (get : σ → ρ) (set : ρ → σ → σ)
    (add : Signals → α → Token → ρ → Except Failure Unit × ρ) : Repository σ α :=
  fun entity token => Task.ofExec fun s =>
    let (result, store) := add (Cancellable.signals s) entity token (get s)
    (result, set store s)

@[simp] theorem exec_within [Cancellable σ] (get : σ → ρ) (set : ρ → σ → σ)
    (add : Signals → α → Token → ρ → Except Failure Unit × ρ) (entity : α) (token : Token)
    (s : σ) :
    (within get set add entity token).exec s =
      ((add (Cancellable.signals s) entity token (get s)).1,
        set (add (Cancellable.signals s) entity token (get s)).2 s) := rfl

end Repository

end Reminders
