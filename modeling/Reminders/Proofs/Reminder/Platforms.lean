import Reminders.Proofs.Mediator.Simulation
import Reminders.Proofs.Reminder.Plan

/-!
# Platforms that go in step

Two platforms go in step along a relation between their states if related states look the same to
scripts, to the clock and to whoever asks for cancelled tokens, and adding a reminder keeps states
related. Then one plan gives, on both, mediators that go in step, or the same failure
(`Platform.InStep.assemble`); scripts and the handling of reminders cannot tell the two apart.
-/

namespace Reminders

open Stages (Alike)

variable {C : Catalog} {σ S S' : Type}

namespace Services

variable {R : S → S' → Prop} {services : Services S} {services' : Services S'}

/-- A reminder is set in step where the time is the same, identifiers are drawn in step, and the
event is published in step. -/
theorem setReminder_inStep (now : ∀ s s', R s s' → services.now s = services'.now s')
    (freshId : Task.InStep R (.ofState services.freshId) (.ofState services'.freshId))
    {context : Context C.withReminders S} {context' : Context C.withReminders S'}
    (publish : ∀ event : ReminderSet, Task.InStep R (context.publish (k := .reminderSet) event)
      (context'.publish (k := .reminderSet) event))
    (request : SetReminder) :
    Task.InStep R (services.setReminder request context)
      (services'.setReminder request context') := by
  apply Task.InStep.bind
  · apply Task.InStep.ofExec
    intro s s' hs
    rw [now s s' hs]
    exact ⟨rfl, hs⟩
  intro reminder
  apply Task.InStep.bind freshId
  intro eventId
  apply Task.InStep.bind
  · apply Task.InStep.ofExec
    intro s s' hs
    rw [now s s' hs]
    exact ⟨rfl, hs⟩
  intro event
  apply Task.InStep.bind (publish event)
  intro _
  exact .pure _

theorem keepReminder_inStep [Cancellable S] [Cancellable S'] {event : ReminderSet} {token : Token}
    (check : Task.InStep R (.check token) (.check token))
    (repository : Task.InStep R (services.repository event.reminder token)
      (services'.repository event.reminder token)) :
    Task.InStep R (services.keepReminder event token) (services'.keepReminder event token) := by
  apply Task.InStep.bind check
  intro _
  exact repository

end Services

/-- Platforms that look the same in related states, and keep states related. -/
structure Platform.InStep [Cancellable S] [Cancellable S'] (R : S → S' → Prop) (p : Platform σ S)
    (p' : Platform σ S') : Prop where
  signals : SameSignals R
  get : ∀ s s', R s s' → p.get s = p'.get s'
  set : ∀ a s s', R s s' → R (p.set a s) (p'.set a s')
  now : ∀ s s', R s s' → p.services.now s = p'.services.now s'
  freshId : Task.InStep R (.ofState p.services.freshId) (.ofState p'.services.freshId)
  repository : ∀ reminder token,
    Task.InStep R (p.services.repository reminder token) (p'.services.repository reminder token)

namespace Platform.InStep

variable [Cancellable S] [Cancellable S'] {R : S → S' → Prop} {p : Platform σ S}
variable {p' : Platform σ S'}

theorem update (h : InStep R p p') (f : σ → σ) (s : S) (s' : S') (hs : R s s') :
    R (p.update f s) (p'.update f s') := by
  rw [Platform.update, Platform.update, h.get s s' hs]
  exact h.set _ s s' hs

/-- A script goes in step with itself if the events that it publishes are taken in step. -/
theorem play (h : InStep R p p') {E α : Type} {publish : E → Task S Unit}
    {publish' : E → Task S' Unit} (publishes : ∀ e, Task.InStep R (publish e) (publish' e))
    (script : Script σ E α) : Task.InStep R (script.play p publish) (script.play p' publish') := by
  induction script with
  | finish result => exact .ofExcept result
  | change f next ih =>
      apply Task.InStep.bind _ ih
      intro s s' hs
      exact ⟨congrArg Except.ok (h.get s s' hs), h.update f s s' hs⟩
  | add reminder token next ih => exact .bind (h.repository reminder token).attempt ih
  | publish event next ih => exact .bind (publishes event).attempt ih

theorem policy (h : InStep R p p') (decide : UserId → String → Script σ Empty Unit) :
    Policy.InStep R (p.policy decide) (p'.policy decide) := by
  intro user requestType
  exact h.play nofun (decide user requestType)

theorem handler (h : InStep R p p') {k : C.RequestKey}
    (handle : C.Request k → Token → Script σ C.AnyEvent (C.Response k)) :
    Handler.InStep R (p.handler handle) (p'.handler handle) := by
  intro request context context' same
  simp only [Platform.handler, same.token]
  apply h.play
  intro event
  exact same.publish event.2

theorem subscription (h : InStep R p p') (consumer : Consumer.Name) (k : C.EventKey)
    (react : C.Event k → Token → Script σ Empty Unit) :
    Subscription.InStep R (p.subscription consumer k react) (p'.subscription consumer k react) := by
  apply Subscription.InStep.of_react
  intro event token
  exact h.play nofun (react event token)

theorem setReminder (h : InStep R p p') :
    Handler.InStep (C := C.withReminders) R p.services.setReminder p'.services.setReminder := by
  intro request context context' same
  exact Services.setReminder_inStep h.now h.freshId (same.publish (k := .reminderSet)) request

theorem keepReminder (h : InStep R p p') (event : ReminderSet) (token : Token) :
    Task.InStep R (p.services.keepReminder event token)
      (p'.services.keepReminder event token) :=
  Services.keepReminder_inStep (.check h.signals token) (h.repository event.reminder token)

variable {m : Mediator C.withReminders S} {m' : Mediator C.withReminders S'}

/-- A version of the API is registered with both mediators or with neither. -/
theorem registerReminders (h : InStep R p p') (hm : Mediator.InStep R m m') (version : String) :
    Alike (Mediator.InStep R) (m.registerReminders p.services version)
      (m'.registerReminders p'.services version) := by
  rw [Mediator.registerReminders, Mediator.registerReminders]
  cases Reminder.consumer version with
  | error fault => exact .error _
  | ok consumer =>
      have subscription : Subscription.InStep (C := C.withReminders) R
          ⟨consumer, .reminderSet, p.services.keepReminder⟩
          ⟨consumer, .reminderSet, p'.services.keepReminder⟩ :=
        .of_react h.keepReminder
      apply hm.registerAll
      exact .cons (.handler h.setReminder) (.cons (.subscription subscription) .nil)

theorem provide (h : InStep R p p') (hm : Mediator.InStep R m m') (part : Provision C σ) :
    Alike (Mediator.InStep R) (m.provide p part) (m'.provide p' part) := by
  cases part with
  | policy decide => exact hm.register (.policy (h.policy decide))
  | handler k handle => exact hm.register (.handler (h.handler handle))
  | subscription consumer k react =>
      exact hm.register (.subscription (h.subscription consumer k react))
  | reminders version => exact h.registerReminders hm version

/-- One plan comes to the same on both platforms. -/
theorem assemble (h : InStep R p p') (plan : List (Provision C σ)) :
    Alike (Mediator.InStep R) (Mediator.assemble p plan) (Mediator.assemble p' plan) := by
  apply Alike.foldlM (S := Eq) _ .initial (List.forall₂_refl plan)
  rintro m m' part _ hm rfl
  exact h.provide hm part

/-- Steps that are taken on both platforms. -/
theorem steps (h : InStep R p p') (steps : List (Session.Step C σ)) :
    List.Forall₂ (Session.Step.InStep R) (steps.map (·.on p)) (steps.map (·.on p')) := by
  rw [List.forall₂_map_left_iff, List.forall₂_map_right_iff, List.forall₂_same]
  intro step _
  cases step with
  | send request token => exact .send request token
  | publish event token => exact .publish event token
  | meanwhile change => exact .meanwhile (h.update change)

end Platform.InStep

end Reminders
