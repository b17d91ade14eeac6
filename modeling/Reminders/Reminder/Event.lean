import Reminders.Reminder.Basic

/-!
# The event of a reminder being set

When a reminder is scheduled, an event tells the rest of the service. It carries the whole reminder,
and metadata that ties it to the request that caused it.
-/

namespace Reminders

structure EventMetadata where
  eventId : Uuid
  /-- The name that the event is routed by. -/
  eventType : String
  /-- The thing that the event is about. -/
  aggregateId : Uuid
  correlationId : Uuid
  /-- The request that caused the event. -/
  causationId : Uuid
  occurredAt : Timestamp
deriving DecidableEq, Repr

structure ReminderSet where
  metadata : EventMetadata
  reminder : Reminder
deriving DecidableEq, Repr

namespace ReminderSet

def kind : String := "reminders.reminder_set"

/-- The event for a reminder that has just been scheduled. -/
def ofReminder (eventId : Uuid) (reminder : Reminder) (correlationId : Uuid) (now : Timestamp) :
    ReminderSet :=
  ⟨⟨eventId, kind, reminder.id, correlationId, correlationId, now⟩, reminder⟩

@[simp] theorem reminder_ofReminder (eventId : Uuid) (reminder : Reminder) (correlationId : Uuid)
    (now : Timestamp) : (ofReminder eventId reminder correlationId now).reminder = reminder := rfl

@[simp] theorem eventId_ofReminder (eventId : Uuid) (reminder : Reminder) (correlationId : Uuid)
    (now : Timestamp) :
    (ofReminder eventId reminder correlationId now).metadata.eventId = eventId := rfl

end ReminderSet

end Reminders
