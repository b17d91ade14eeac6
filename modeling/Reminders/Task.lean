import Reminders.Cancellation
import Reminders.Timestamp.Basic
import Reminders.Uuid

/-!
# Tasks

A task is work that changes a state and may fail; what it changed before a failure stays changed.
`Task.exec` is what a task means, and the equations below say how `exec` sees each way to build one.
-/

namespace Reminders

/-- Work on a state `σ` that yields a value or fails. -/
abbrev Task (σ : Type) (α : Type) := ExceptT Failure (StateM σ) α

/-- A state in which tokens may have been cancelled. -/
class Cancellable (σ : Type) where
  signals : σ → Signals

namespace Task

variable {σ α β : Type}

/-- The outcome of a task from a state, and the state it leaves. -/
def exec (task : Task σ α) (s : σ) : Except Failure α × σ := (ExceptT.run task).run s

/-- The task with a given meaning. -/
def ofExec (f : σ → Except Failure α × σ) : Task σ α := ExceptT.mk fun s => f s

/-- A task that leaves the state as it is. -/
def ofExcept (r : Except Failure α) : Task σ α := ofExec fun s => (r, s)

/-- A task that cannot fail. -/
def ofState (f : StateM σ α) : Task σ α :=
  ofExec fun s => let (a, s') := f.run s; (.ok a, s')

/-- Fails if a token is cancelled. -/
def check [Cancellable σ] (token : Token) : Task σ Unit :=
  ofExec fun s => ((Cancellable.signals s).check token, s)

@[simp] theorem exec_ofExec (f : σ → Except Failure α × σ) (s : σ) : (ofExec f).exec s = f s := rfl

@[simp] theorem exec_ofExcept (r : Except Failure α) (s : σ) :
    (ofExcept r : Task σ α).exec s = (r, s) := rfl

@[simp] theorem exec_ofState (f : StateM σ α) (s : σ) :
    (ofState f).exec s = (.ok (f.run s).1, (f.run s).2) := rfl

@[simp] theorem exec_check [Cancellable σ] (token : Token) (s : σ) :
    (check token : Task σ Unit).exec s = ((Cancellable.signals s).check token, s) := rfl

@[simp] theorem exec_pure (a : α) (s : σ) : (pure a : Task σ α).exec s = (.ok a, s) := rfl

@[simp] theorem exec_throw (f : Failure) (s : σ) :
    (throw f : Task σ α).exec s = (.error f, s) := rfl

/-- The second of two tasks runs where the first one left off, unless that failed. -/
theorem exec_bind (task : Task σ α) (next : α → Task σ β) (s : σ) :
    (task >>= next).exec s =
      match task.exec s with
      | (.ok a, s') => (next a).exec s'
      | (.error f, s') => (.error f, s') := by
  change (match task.exec s with
    | (r, s') => (ExceptT.bindCont next r).run s') = _
  rcases task.exec s with ⟨_ | _, _⟩ <;> rfl

end Task

end Reminders
