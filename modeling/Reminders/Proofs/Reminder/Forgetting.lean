import Mathlib.Logic.Function.Basic
import Reminders.Proofs.Mediator.Steady
import Reminders.Proofs.Reminder.Platforms
import Reminders.Proofs.Reminder.Setting
import Reminders.Store.InMemory
import Reminders.Store.Recording
import Reminders.World

/-!
# Dispatch keeps no history

A mediator that handles reminders changes its store with every reminder that is set, so two worlds
with different pasts have different stores. Its answers do not show that. What a dispatch depends on
is its `Situation`: whether its token is cancelled, the time, and the identifiers that will be
drawn. Worlds in the same situation whose stores can be used look alike (`Backing.Alike`), and
handlers without a state of their own cannot tell them apart. Nor can those of reminders, since a
store that can be used takes every reminder unless the token is cancelled, also one that it has
already (`Backing.repository_steady`).

The store can be used after any past (`Session.sound_after`), so no past has a part in an answer.
-/

namespace Reminders

variable {C : Catalog}

/-- What an answer to a dispatch under a token may depend on, besides what is dispatched. -/
structure Situation where
  /-- Whether the token is cancelled. -/
  cancelled : Bool
  now : Timestamp
  /-- The identifiers that will be drawn, one after the other. -/
  ids : Nat → Uuid

/-- The situation of a dispatch in a world. -/
def World.situation {ρ : Type} (token : Token) (w : World ρ) : Situation where
  cancelled := (Cancellable.signals w).isCancelled token
  now := w.now
  ids n := .random (w.entropy (w.drawn + n))

inductive Backing where
  | failing
  | recording
  | inMemory

namespace Backing

/-- The stores of each kind. -/
abbrev Store : Backing → Type
  | failing => Unit
  | recording => Recording Reminder
  | inMemory => InMemory Reminder

/-- Whether a store can be used. -/
def Sound : (b : Backing) → b.Store → Prop
  | failing, _ => True
  | recording, _ => True
  | inMemory, store => store.poisoned = false

/-- The repository of the store in a world. -/
def repository : (b : Backing) → Repository (World b.Store) Reminder
  | failing => .failing
  | recording => .within (·.store) (fun store w => { w with store }) Recording.add
  | inMemory => .within (·.store) (fun store w => { w with store }) InMemory.add

def services (b : Backing) : Services (World b.Store) := ⟨(·.now), World.freshId, b.repository⟩

/-- Worlds in the same situation, with stores that can be used, whatever they hold. -/
structure Alike (b : Backing) (token : Token) (w w' : World b.Store) : Prop where
  situation : w.situation token = w'.situation token
  sound : b.Sound w.store
  sound' : b.Sound w'.store

variable {b : Backing} {token : Token} {w w' : World b.Store}

namespace Alike

theorem refl (token : Token) (sound : b.Sound w.store) : b.Alike token w w := ⟨rfl, sound, sound⟩

theorem cancelled (h : b.Alike token w w') :
    (Cancellable.signals w).isCancelled token = (Cancellable.signals w').isCancelled token :=
  congrArg Situation.cancelled h.situation

theorem check (h : b.Alike token w w') :
    (Cancellable.signals w).check token = (Cancellable.signals w').check token := by
  rw [Signals.check, Signals.check, h.cancelled]

theorem now (h : b.Alike token w w') : w.now = w'.now := congrArg Situation.now h.situation

theorem id (h : b.Alike token w w') (n : Nat) :
    Uuid.random (w.entropy (w.drawn + n)) = .random (w'.entropy (w'.drawn + n)) :=
  congrFun (congrArg Situation.ids h.situation) n

/-- Worlds look alike no matter what is put into their stores. -/
theorem withStore (h : b.Alike token w w') {store store' : b.Store} (sound : b.Sound store)
    (sound' : b.Sound store') : b.Alike token { w with store } { w' with store := store' } :=
  ⟨h.situation, sound, sound'⟩

/-- After an identifier has been drawn the next ones are still the same. -/
theorem draw (h : b.Alike token w w') :
    b.Alike token { w with drawn := w.drawn + 1 } { w' with drawn := w'.drawn + 1 } := by
  refine ⟨?_, h.sound, h.sound'⟩
  have later (n : Nat) : Uuid.random (w.entropy (w.drawn + 1 + n)) =
      .random (w'.entropy (w'.drawn + 1 + n)) := by
    rw [Nat.add_assoc, Nat.add_assoc, h.id]
  calc World.situation token { w with drawn := w.drawn + 1 }
      = ⟨(w.situation token).cancelled, w.now,
          fun n => .random (w.entropy (w.drawn + 1 + n))⟩ := rfl
    _ = ⟨(w'.situation token).cancelled, w'.now,
          fun n => .random (w'.entropy (w'.drawn + 1 + n))⟩ := by
        rw [h.situation, h.now, funext later]
    _ = World.situation token { w' with drawn := w'.drawn + 1 } := rfl

/-- Worlds that look alike still do when the token has been cancelled. -/
theorem cancel (h : b.Alike token w w') : b.Alike token (w.cancel token) (w'.cancel token) := by
  refine ⟨?_, h.sound, h.sound'⟩
  have after (w : World b.Store) :
      (w.cancel token).situation token = { w.situation token with cancelled := true } := by
    simp [World.situation, World.cancel, Cancellable.signals]
  rw [after, after, h.situation]

end Alike

theorem check_steady (b : Backing) (token : Token) :
    Task.Steady b.Alike token (Task.check token : Task (World b.Store) Unit) := by
  apply Task.InStep.check_of_agree
  intro w w' h
  exact h.cancelled

theorem freshId_steady (b : Backing) (token : Token) :
    Task.Steady b.Alike token (Task.ofState b.services.freshId) := by
  intro w w' h
  exact ⟨congrArg Except.ok (h.id 0), h.draw⟩

/-- What a repository answers does not depend on what its store holds. -/
theorem repository_steady (b : Backing) (reminder : Reminder) (token : Token) :
    Task.Steady b.Alike token (b.repository reminder token) := by
  intro w w' h
  cases b with
  | failing => exact ⟨rfl, h⟩
  | recording =>
      simp only [repository, Repository.exec_within, Recording.answer_add]
      exact ⟨h.check, h.withStore trivial trivial⟩
  | inMemory =>
      have sound : w.store.poisoned = false := h.sound
      have sound' : w'.store.poisoned = false := h.sound'
      constructor
      · simp only [repository, Repository.exec_within, InMemory.answer_add, h.cancelled, sound,
          sound']
      · exact h.withStore ((InMemory.poisoned_add ..).trans sound)
          ((InMemory.poisoned_add ..).trans sound')

/-- The handling of reminders has no state of its own besides the store. -/
theorem reminderRegistrations_steady (b : Backing) (consumer : Consumer.Name) :
    ∀ r ∈ Mediator.reminderRegistrations (C := C) b.services consumer, r.Steady b.Alike := by
  intro r hr
  simp only [Mediator.reminderRegistrations, List.mem_cons, List.not_mem_nil, or_false] at hr
  rcases hr with rfl | rfl
  · intro request context publish
    apply Services.setReminder_inStep
    · intro w w' h
      exact h.now
    · exact b.freshId_steady context.token
    · exact publish (k := .reminderSet)
  · intro event token
    exact Services.keepReminder_inStep (b.check_steady token)
      (b.repository_steady event.reminder token)

end Backing

namespace Session

variable {b : Backing} {token : Token}

/-- A step that dispatches under the token. -/
inductive Step.Under {σ : Type} (token : Token) : Step C σ → Prop
  | send {k : C.RequestKey} (request : C.Request k) : Under token (.send request token)
  | publish {k : C.EventKey} (event : C.Event k) : Under token (.publish event token)

/-- A step that leaves the store to the mediator. -/
def Step.SparesStore {ρ : Type} : Step C (World ρ) → Prop
  | .send .. => True
  | .publish .. => True
  | .meanwhile change => ∀ w, (change w).store = w.store

variable {m : Mediator C (World b.Store)} {step : Step C (World b.Store)}

/-- In worlds that look alike a dispatch has the same answer, and leaves worlds that look alike. -/
theorem perform_alike (steady : m.Steady b.Alike) {w w' : World b.Store}
    (alike : b.Alike token w w') (under : step.Under token) :
    ((mk m w).perform step).1 = ((mk m w').perform step).1 ∧
      b.Alike token ((mk m w).perform step).2.state ((mk m w').perform step).2.state := by
  cases under with
  | send request =>
      obtain ⟨answer, left⟩ := steady.send (b.check_steady token) request w w' alike
      exact ⟨congrArg Answer.sent answer, left⟩
  | publish event =>
      obtain ⟨answer, left⟩ := steady.publish event token w w' alike
      exact ⟨congrArg Answer.published answer, left⟩

/-- One function of the situation tells the answer to a dispatch, and the situation after it. -/
theorem exists_reply (steady : m.Steady b.Alike) (under : step.Under token) :
    ∃ reply : Situation → Answer C × Situation, ∀ session : Session C (World b.Store),
      session.mediator = m → b.Sound session.state.store →
        ((session.perform step).1, (session.perform step).2.state.situation token) =
          reply (session.state.situation token) := by
  let outcome (w : { w : World b.Store // b.Sound w.store }) :=
    (((mk m w.1).perform step).1, ((mk m w.1).perform step).2.state.situation token)
  have determined : outcome.FactorsThrough fun w => w.1.situation token := by
    rintro ⟨w, sound⟩ ⟨w', sound'⟩ same
    obtain ⟨answer, left⟩ := perform_alike steady ⟨same, sound, sound'⟩ under
    exact Prod.ext answer left.situation
  have : Nonempty (Answer C × Situation) := ⟨.nothing, false, .epoch, fun _ => .nil⟩
  obtain ⟨reply, tells⟩ := (Function.factorsThrough_iff outcome).mp determined
  refine ⟨reply, ?_⟩
  rintro ⟨_, w⟩ rfl sound
  exact congrFun tells ⟨w, sound⟩

/-- No step makes the store unusable, since a world looks like itself as long as it is usable. -/
theorem sound_perform {session : Session C (World b.Store)}
    (steady : session.mediator.Steady b.Alike) (sound : b.Sound session.state.store)
    (spares : step.SparesStore) : b.Sound (session.perform step).2.state.store := by
  cases step with
  | send request token => exact (perform_alike steady (.refl token sound) (.send request)).2.sound
  | publish event token => exact (perform_alike steady (.refl token sound) (.publish event)).2.sound
  | meanwhile change =>
      have same : (session.perform (.meanwhile change)).2.state.store = session.state.store :=
        spares session.state
      rwa [same]

theorem sound_after (steady : m.Steady b.Alike) {w : World b.Store} (sound : b.Sound w.store)
    {steps : List (Step C (World b.Store))} (spares : ∀ step ∈ steps, step.SparesStore) :
    b.Sound ((mk m w).after steps).state.store := by
  induction steps using List.reverseRecOn with
  | nil => exact sound
  | append_singleton steps step ih =>
      obtain ⟨earlier, last⟩ := List.forall_mem_append.mp spares
      rw [after_concat]
      apply sound_perform _ (ih earlier) (last step List.mem_cons_self)
      rw [mediator_after]
      exact steady

end Session

namespace Mediator

/-- A mediator that handles reminders among stateless things is steady. -/
theorem steady_of_buildAmong {b : Backing}
    {earlier later : List (Registration C.withReminders (World b.Store))}
    (stateless : ∀ r ∈ earlier ++ later, r.Steady b.Alike) {version : String}
    {m : Mediator C.withReminders (World b.Store)}
    (built : buildAmong earlier b.services version later = .ok m) : m.Steady b.Alike := by
  obtain ⟨consumer, -, built⟩ := buildAmong_eq_ok_iff.mp built
  obtain ⟨before, after⟩ := List.forall_mem_append.mp stateless
  refine .of_build (List.forall_mem_append.mpr ⟨before, ?_⟩) built
  exact List.forall_mem_append.mpr ⟨b.reminderRegistrations_steady consumer, after⟩

/-- No answer depends on the past. Let a mediator handle reminders, over a repository that fails,
records or keeps them in memory, among other things that have no state of their own. What a dispatch
is answered, and the situation that it leaves, are then given by the situation in which it is made:
one function tells them, whatever world was begun with, as long as its store could be used, and
whatever was sent, published and changed beside the store before. -/
theorem answers_without_history {b : Backing}
    {earlier later : List (Registration C.withReminders (World b.Store))}
    (stateless : ∀ r ∈ earlier ++ later, r.Steady b.Alike) {version : String}
    {m : Mediator C.withReminders (World b.Store)}
    (built : buildAmong earlier b.services version later = .ok m) {token : Token}
    {step : Session.Step C.withReminders (World b.Store)} (under : step.Under token) :
    ∃ reply : Situation → Session.Answer C.withReminders × Situation,
      ∀ w : World b.Store, b.Sound w.store →
        ∀ past : List (Session.Step C.withReminders (World b.Store)),
          (∀ step ∈ past, step.SparesStore) →
          ((((Session.mk m w).after past).perform step).1,
              (((Session.mk m w).after past).perform step).2.state.situation token) =
            reply (((Session.mk m w).after past).state.situation token) := by
  have steady := steady_of_buildAmong stateless built
  obtain ⟨reply, tells⟩ := Session.exists_reply steady under
  refine ⟨reply, ?_⟩
  intro w sound past spares
  exact tells _ (Session.mediator_after _ past) (Session.sound_after steady sound spares)

/-- A subscriber that cancels the token of every event. -/
def canceller (b : Backing) : Registration Catalog.empty.withReminders (World b.Store) :=
  .subscription ⟨⟨"revoker", by decide, by decide⟩, .reminderSet, fun _ token =>
    modify (World.cancel token)⟩

theorem canceller_steady (b : Backing) : (canceller b).Steady b.Alike := by
  intro event token w w' h
  exact ⟨rfl, h.cancel⟩

/-- A world whose random bits are all zero, with a store that has recorded nothing. -/
def blank : World (Recording Reminder) := ⟨.empty, .epoch, fun _ => 0, 0, .empty⟩

/-- A reminder is set, then another token is cancelled, and then a request of nobody is refused. -/
def eventful : List (Session.Step Catalog.empty.withReminders (World (Recording Reminder))) :=
  [.send (k := .setReminder) nextDay ⟨1⟩, .meanwhile (World.cancel ⟨2⟩),
    .send (k := .setReminder) { nextDay with user := .nil } ⟨3⟩]

/-- Setting a reminder that has been set before is answered as if it had not been. -/
theorem reply_of_eventful :
    ∃ m, buildAmong [] Backing.recording.services "1.0" [canceller .recording] = .ok m ∧
      ((Session.mk m blank).after eventful).state.store.added.toList.map Reminder.id = [⟨4⟩] ∧
      (Session.perform ⟨m, blank⟩ (.send (k := .setReminder) nextDay ⟨0⟩)).1 =
        .sent (k := .setReminder) (.ok (⟨⟨4⟩, .random 0⟩ : SetReminder.Outcome)) ∧
      (((Session.mk m blank).after eventful).perform (.send (k := .setReminder) nextDay ⟨0⟩)).1 =
        .sent (k := .setReminder) (.ok (⟨⟨4⟩, .random 0⟩ : SetReminder.Outcome)) := by
  have resolved : Reminder.consumer "1.0" =
      .ok ⟨"Reminder_v1_ReminderSet", by decide, by decide⟩ := by decide +kernel
  obtain ⟨m, built, kept, answered, same⟩ : ∃ m,
      buildAmong [] Backing.recording.services "1.0" [canceller .recording] = .ok m ∧
      ((Session.mk m blank).after eventful).state.store.added.toList.map Reminder.id = [⟨4⟩] ∧
      (Session.perform ⟨m, blank⟩ (.send (k := .setReminder) nextDay ⟨0⟩)).1 =
        .sent (k := .setReminder) (.ok (⟨⟨4⟩, .random 0⟩ : SetReminder.Outcome)) ∧
      ((Session.mk m blank).after eventful).state.situation ⟨0⟩ = blank.situation ⟨0⟩ :=
    ⟨_, buildAmong_eq_ok_iff.mpr ⟨_, resolved, rfl⟩, rfl, rfl, rfl⟩
  have stateless : ∀ r ∈ [] ++ [canceller .recording], r.Steady Backing.recording.Alike := by
    intro r hr
    cases List.mem_singleton.mp hr
    exact canceller_steady .recording
  have under : Session.Step.Under (C := Catalog.empty.withReminders)
      (σ := World (Recording Reminder)) ⟨0⟩ (.send (k := .setReminder) nextDay ⟨0⟩) :=
    .send (C := Catalog.empty.withReminders) (k := .setReminder) nextDay
  obtain ⟨reply, tells⟩ := answers_without_history stateless built under
  have spares : ∀ step ∈ eventful, step.SparesStore := by
    simp [eventful, Session.Step.SparesStore, World.cancel]
  have early := tells blank trivial [] (List.forall_mem_nil _)
  have late := tells blank trivial eventful spares
  rw [same] at late
  exact ⟨m, built, kept, answered, (congrArg Prod.fst (late.trans early.symm)).trans answered⟩

end Mediator

end Reminders
