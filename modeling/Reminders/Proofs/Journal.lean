import Reminders.Proofs.Task

/-!
# Work under watch

How often something is done, with what and in which state, cannot be read off a final state. Here a
task runs on a state with a journal beside it, in which chosen tasks are entered as they begin.

The journal is for the reader only: `Task.Watches` says that a task under watch has the outcome of
the task itself and leaves the same state, and it is kept by sequencing. `Task.Enters` bounds what
a task under watch enters, wherever it begins.
-/

namespace Reminders

variable {ε σ α β : Type}

structure Watched (ε σ : Type) where
  state : σ
  /-- What was entered, oldest first. -/
  journal : List ε

instance [Cancellable σ] : Cancellable (Watched ε σ) := ⟨fun w => Cancellable.signals w.state⟩

@[simp] theorem Watched.signals_eq [Cancellable σ] (w : Watched ε σ) :
    Cancellable.signals w = Cancellable.signals w.state := rfl

namespace Task

/-- A task on a state under watch. It is entered in the journal as `entries` has it, which is told
the state in which the task begins. -/
def noted (task : Task σ α) (entries : σ → List ε) : Task (Watched ε σ) α :=
  ofExec fun w =>
    ((task.exec w.state).1, ⟨(task.exec w.state).2, w.journal ++ entries w.state⟩)

/-- A task on a state under watch that is not entered in the journal. -/
def quiet (task : Task σ α) : Task (Watched ε σ) α := task.noted fun _ => []

/-- A task under watch as it looks to those who do not see the journal. -/
def unwatched (task : Task (Watched ε σ) α) : Task σ α :=
  ofExec fun s => ((task.exec ⟨s, []⟩).1, (task.exec ⟨s, []⟩).2.state)

@[simp] theorem exec_noted (task : Task σ α) (entries : σ → List ε) (w : Watched ε σ) :
    (task.noted entries).exec w =
      ((task.exec w.state).1, ⟨(task.exec w.state).2, w.journal ++ entries w.state⟩) := rfl

@[simp] theorem exec_quiet (task : Task σ α) (w : Watched ε σ) :
    (task.quiet).exec w = ((task.exec w.state).1, { w with state := (task.exec w.state).2 }) := by
  simp [quiet]

@[simp] theorem quiet_pure (a : α) :
    (pure a : Task σ α).quiet = (pure a : Task (Watched ε σ) α) := by
  apply Task.ext
  intro w
  simp

@[simp] theorem quiet_throw (f : Failure) :
    (throw f : Task σ α).quiet = (throw f : Task (Watched ε σ) α) := by
  apply Task.ext
  intro w
  simp

theorem quiet_bind (task : Task σ α) (next : α → Task σ β) :
    (task >>= next).quiet = (task.quiet >>= fun a => (next a).quiet : Task (Watched ε σ) β) := by
  apply Task.ext
  intro w
  simp only [exec_quiet, exec_bind]
  rcases task.exec w.state with ⟨_ | a, s⟩
  · rfl
  · simp

/-- One task has the outcome of another and leaves the same state, journal apart. -/
def Watches (watch : Task (Watched ε σ) α) (task : Task σ α) : Prop :=
  ∀ w, task.exec w.state = ((watch.exec w).1, (watch.exec w).2.state)

namespace Watches

variable {watch : Task (Watched ε σ) α} {task : Task σ α}

theorem noted (task : Task σ α) (entries : σ → List ε) : (task.noted entries).Watches task :=
  fun _ => rfl

theorem pure (a : α) : (pure a : Task (Watched ε σ) α).Watches (pure a) := fun _ => rfl

theorem throw (f : Failure) : (throw f : Task (Watched ε σ) α).Watches (throw f) := fun _ => rfl

theorem ofExcept (r : Except Failure α) :
    (ofExcept r : Task (Watched ε σ) α).Watches (ofExcept r) :=
  fun _ => rfl

theorem check [Cancellable σ] (token : Token) :
    (check token : Task (Watched ε σ) Unit).Watches (check token) :=
  fun _ => rfl

/-- Sequencing under watch is sequencing. -/
theorem bind {next : α → Task (Watched ε σ) β} {next' : α → Task σ β} (h : watch.Watches task)
    (hnext : ∀ a, (next a).Watches (next' a)) : (watch >>= next).Watches (task >>= next') := by
  intro w
  have first := h w
  rw [exec_bind, exec_bind, first]
  rcases watch.exec w with ⟨_ | a, w'⟩
  · rfl
  · exact hnext a w'

theorem unwatched_eq (h : watch.Watches task) : watch.unwatched = task := by
  apply Task.ext
  intro s
  exact (h ⟨s, []⟩).symm

end Watches

/-- A task under watch enters nothing but what `P` allows. -/
def Enters (P : ε → Prop) (task : Task (Watched ε σ) α) : Prop :=
  ∀ w, ∀ e ∈ (task.exec w).2.journal, e ∈ w.journal ∨ P e

namespace Enters

variable {P Q : ε → Prop} {task : Task (Watched ε σ) α}

theorem mono (h : task.Enters P) (weaker : ∀ e, P e → Q e) : task.Enters Q :=
  fun w e he => (h w e he).imp_right (weaker e)

theorem ofExcept (r : Except Failure α) : (Task.ofExcept r : Task (Watched ε σ) α).Enters P :=
  fun _ _ he => .inl he

theorem pure (a : α) : (Pure.pure a : Task (Watched ε σ) α).Enters P := fun _ _ he => .inl he

theorem throw (f : Failure) : (MonadExcept.throw f : Task (Watched ε σ) α).Enters P :=
  fun _ _ he => .inl he

theorem check [Cancellable σ] (token : Token) :
    (Task.check token : Task (Watched ε σ) Unit).Enters P :=
  fun _ _ he => .inl he

theorem attempt (h : task.Enters P) : task.attempt.Enters P := h

/-- Each part of a sequence enters what it may. -/
theorem bind {next : α → Task (Watched ε σ) β} (h : task.Enters P)
    (hnext : ∀ a, (next a).Enters P) : (task >>= next).Enters P := by
  intro w e he
  rw [exec_bind] at he
  have first := h w e
  rcases reached : task.exec w with ⟨_ | a, w'⟩
  all_goals rw [reached] at first he
  · exact first he
  · rcases hnext a w' e he with earlier | allowed
    · exact first earlier
    · exact .inr allowed

end Enters

end Task

end Reminders
