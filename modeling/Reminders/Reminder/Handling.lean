import Reminders.Consumer.Resolution
import Reminders.Mediator.Registration
import Reminders.Reminder.Catalog
import Reminders.Store.Repository

/-!
# Handling reminders

The request to set a reminder is handled by scheduling the reminder and publishing the event of it.
One consumer listens to that event and adds the reminder to a repository.
`Mediator.registerReminders` makes both registrations, the consumer under a name that depends on the
API version.
-/

namespace Reminders

instance : Entity Reminder := ⟨Reminder.id, fun _ => true⟩

/-- What the handling of reminders relies on. -/
structure Services (σ : Type) where
  /-- The time in a state. -/
  now : σ → Timestamp
  /-- Makes a random identifier. -/
  freshId : StateM σ Uuid
  repository : Repository σ Reminder

namespace Services

variable {C : Catalog} {σ : Type}

/-- Schedules the reminder that is asked for and publishes the event of it. -/
def setReminder (services : Services σ) : Handler C.withReminders σ .setReminder :=
  fun (request : SetReminder) context => do
    let reminder ← Task.ofExec fun s =>
      ((request.schedule (services.now s)).mapError Reminder.Refusal.failure, s)
    let eventId ← Task.ofState services.freshId
    let event ← Task.ofExec fun s =>
      (.ok (ReminderSet.ofReminder eventId reminder request.correlationId (services.now s)), s)
    context.publish (k := .reminderSet) event
    return (⟨reminder.id, eventId⟩ : SetReminder.Outcome)

/-- Adds the reminder of an event to the repository, unless the token is cancelled. -/
def keepReminder [Cancellable σ] (services : Services σ) (event : ReminderSet) (token : Token) :
    Task σ Unit := do
  Task.check token
  services.repository event.reminder token

end Services

namespace Reminder

/-- How the consumers of reminder events are named. -/
def declaration : Consumer.Declaration :=
  ⟨"ReminderEventController", "[controller]_v\x7bversion:apiVersion\x7d_[action]"⟩

/-- The action under which the event of a reminder being set is consumed. -/
def setAction : String := "ReminderSet"

/-- The name of the consumer that keeps reminders, in a version of the API. -/
def consumer (version : String) : Except Consumer.Fault Consumer.Name :=
  declaration.resolve setAction version

end Reminder

namespace Mediator

variable {C : Catalog} {σ : Type}

/-- The registrations that make a mediator handle reminders, for a consumer's name. -/
def reminderRegistrations [Cancellable σ] (services : Services σ) (consumer : Consumer.Name) :
    List (Registration C.withReminders σ) :=
  [.handler .setReminder services.setReminder,
    .subscription ⟨consumer, .reminderSet, services.keepReminder⟩]

/-- Registers what handles reminders in a version of the API. -/
def registerReminders [Cancellable σ] (m : Mediator C.withReminders σ) (services : Services σ)
    (version : String) : Except Failure (Mediator C.withReminders σ) := do
  let consumer ← (Reminder.consumer version).mapError Consumer.Fault.failure
  m.registerAll (reminderRegistrations services consumer)

end Mediator

end Reminders
