import Reminders.Task

/-!
# Reasoning about tasks

Tasks that mean the same are equal. A sequence of two tasks succeeds if both do, and fails if one of
them does; each way is told by the states in between.
-/

namespace Reminders.Task

variable {σ α β : Type} {task other : Task σ α} {next : α → Task σ β} {s s' : σ} {f : Failure}

theorem ext (h : ∀ s, task.exec s = other.exec s) : task = other :=
  funext h

theorem exec_ofState_of_run {work : StateM σ α} {a : α} (h : work.run s = (a, s')) :
    (ofState work).exec s = (.ok a, s') := by
  rw [exec_ofState, h]

theorem exec_bind_of_ok {a : α} (h : task.exec s = (.ok a, s')) :
    (task >>= next).exec s = (next a).exec s' := by
  rw [exec_bind, h]

theorem exec_bind_of_error (h : task.exec s = (.error f, s')) :
    (task >>= next).exec s = (.error f, s') := by
  rw [exec_bind, h]

/-- A task that goes on whether or not it has succeeded, and tells which. -/
def attempt (task : Task σ α) : Task σ (Except Failure α) :=
  ofExec fun s => (.ok (task.exec s).1, (task.exec s).2)

@[simp] theorem exec_attempt (task : Task σ α) (s : σ) :
    task.attempt.exec s = (.ok (task.exec s).1, (task.exec s).2) := rfl

/-- A sequence succeeds if both tasks do, the second from where the first one leaves off. -/
theorem exec_andThen_eq_ok_iff {first : Task σ Unit} {second : Task σ β} {b : β} :
    (do first; second).exec s = (.ok b, s') ↔
      ∃ t, first.exec s = (.ok (), t) ∧ second.exec t = (.ok b, s') := by
  rw [exec_bind]
  rcases first.exec s with ⟨_ | _, t⟩
  · simp
  · simp

/-- A sequence fails if one of the tasks does, the second one only if it is reached. -/
theorem exec_andThen_eq_error_iff {first : Task σ Unit} {second : Task σ β} :
    (do first; second).exec s = (.error f, s') ↔
      first.exec s = (.error f, s') ∨
        ∃ t, first.exec s = (.ok (), t) ∧ second.exec t = (.error f, s') := by
  rw [exec_bind]
  rcases first.exec s with ⟨_ | _, t⟩
  · simp
  · simp

end Reminders.Task
