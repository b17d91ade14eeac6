import Reminders.Store.Repository

/-!
# Stores without identifiers

A recording store keeps every entity it is given, also one it has been given before. A failing store
keeps none and refuses all, whether or not the token is cancelled.
-/

namespace Reminders

structure Recording (α : Type) where
  added : Array α
deriving Repr

namespace Recording

variable {α : Type}

def empty : Recording α := ⟨#[]⟩

def add (signals : Signals) (entity : α) (token : Token) (store : Recording α) :
    Except Failure Unit × Recording α :=
  if signals.isCancelled token then (.error .cancelled, store)
  else (.ok (), ⟨store.added.push entity⟩)

@[simp] theorem add_of_cancelled {signals : Signals} {token : Token}
    (h : signals.isCancelled token = true) (entity : α) (store : Recording α) :
    store.add signals entity token = (.error .cancelled, store) := by
  simp [add, h]

/-- What an addition is answered does not depend on what the store was given before. -/
theorem answer_add (store : Recording α) (signals : Signals) (entity : α) (token : Token) :
    (store.add signals entity token).1 = signals.check token := by
  rw [add, Signals.check, apply_ite Prod.fst]

theorem toList_added_add {signals : Signals} {token : Token}
    (h : signals.isCancelled token = false) (entity : α) (store : Recording α) :
    (store.add signals entity token).2.added.toList = store.added.toList ++ [entity] := by
  simp [add, h]

end Recording

namespace Repository

def refusal : String := "connection refused"

def failing {σ α : Type} : Repository σ α := fun _ _ => throw (.persistence refusal)

end Repository

end Reminders
