import Reminders.Store.Repository
import Std.Data.HashSet

/-!
# The store in memory

Entities are kept in the order in which they came, the first one of each identifier. A snapshot
copies them one after the other. If one of them cannot be copied, the snapshot is aborted and the
store is poisoned: from then on it neither changes nor tells what it holds.
-/

namespace Reminders

/-- Entities in the order of their arrival, one for each identifier. -/
structure InMemory (α : Type) where
  /-- The identifiers of the entities. -/
  ids : Std.HashSet Uuid
  entities : Array α
  /-- Whether a snapshot has been aborted. -/
  poisoned : Bool

namespace InMemory

variable {α : Type}

def empty : InMemory α := ⟨∅, #[], false⟩

def lockPoisoned : Failure := .persistence "in-memory repository lock poisoned"

variable [Entity α]

/-- Adds an entity, unless there is one with its identifier. -/
def add (signals : Signals) (entity : α) (token : Token) (store : InMemory α) :
    Except Failure Unit × InMemory α :=
  if signals.isCancelled token then (.error .cancelled, store)
  else if store.poisoned then (.error lockPoisoned, store)
  else if Entity.id entity ∈ store.ids then (.ok (), store)
  else (.ok (), { store with
    ids := store.ids.insert (Entity.id entity), entities := store.entities.push entity })

omit [Entity α] in
def size (store : InMemory α) : Except Failure Nat :=
  if store.poisoned then .error lockPoisoned else .ok store.entities.size

inductive Snapshot (α : Type) where
  /-- The entities, oldest first. -/
  | taken (entities : List α)
  /-- The store was poisoned before. -/
  | refused (failure : Failure)
  /-- An entity could not be copied. -/
  | aborted
deriving Repr

def snapshot (store : InMemory α) : Snapshot α × InMemory α :=
  if store.poisoned then (.refused lockPoisoned, store)
  else if store.entities.all Entity.copies then (.taken store.entities.toList, store)
  else (.aborted, { store with poisoned := true })

@[simp] theorem add_of_cancelled {signals : Signals} {token : Token}
    (h : signals.isCancelled token = true) (entity : α) (store : InMemory α) :
    store.add signals entity token = (.error .cancelled, store) := by
  simp [add, h]

/-- An entity whose identifier is known changes nothing. -/
theorem store_add_of_mem {entity : α} {store : InMemory α} (known : Entity.id entity ∈ store.ids)
    (signals : Signals) (token : Token) : (store.add signals entity token).2 = store := by
  simp only [add, known, if_true, apply_ite Prod.snd, ite_self]

theorem add_of_not_mem {signals : Signals} {entity : α} {token : Token} {store : InMemory α}
    (live : signals.isCancelled token = false) (sound : store.poisoned = false)
    (new : Entity.id entity ∉ store.ids) :
    store.add signals entity token = (.ok (), { store with
      ids := store.ids.insert (Entity.id entity), entities := store.entities.push entity }) := by
  simp [add, live, sound, new]

/-- What an addition is answered does not depend on what the store holds. -/
theorem answer_add (store : InMemory α) (signals : Signals) (entity : α) (token : Token) :
    (store.add signals entity token).1 =
      if signals.isCancelled token then .error .cancelled
      else if store.poisoned then .error lockPoisoned else .ok () := by
  by_cases known : Entity.id entity ∈ store.ids
  · simp only [add, known, if_true, apply_ite Prod.fst]
  · simp only [add, known, if_false, apply_ite Prod.fst]

@[simp] theorem poisoned_add (store : InMemory α) (signals : Signals) (entity : α)
    (token : Token) : (store.add signals entity token).2.poisoned = store.poisoned := by
  simp only [add, apply_ite Prod.snd, apply_ite poisoned, ite_self]

omit [Entity α] in
@[simp] theorem poisoned_empty : (empty : InMemory α).poisoned = false := rfl

omit [Entity α] in
@[simp] theorem entities_empty : (empty : InMemory α).entities = #[] := rfl

end InMemory

end Reminders
