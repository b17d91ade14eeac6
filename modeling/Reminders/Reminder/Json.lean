import Reminders.Json.Decoder
import Reminders.Json.Value
import Reminders.Reminder.Event
import Reminders.Timestamp.Reader

/-!
# Reminders and their events as JSON

Each of the records is written as an object with its members in the order of the fields, and decoded
from the shape of the same fields. Identifiers and timestamps are strings in their own written
forms; decoding accepts every written form.
-/

namespace Reminders

open Json (Decoder Field Fault Shape Source Value)

namespace Json.Decoder

/-- Decodes an identifier. -/
def uuid : Decoder Uuid := text.filterMap Uuid.ofText?

def user : Decoder UserId := text.filterMap UserId.ofText?

/-- Decodes a timestamp. -/
def timestamp : Decoder Timestamp := text.filterMap Timestamp.ofText?

end Json.Decoder

def Uuid.toJson (u : Uuid) : Value := .text u.text

def UserId.toJson (user : UserId) : Value := .text user.text

def Timestamp.toJson (t : Timestamp) : Value := .text t.text

namespace Reminder

def toJson (r : Reminder) : Value :=
  .object [("reminder_id", r.id.toJson), ("user_id", r.user.toJson), ("title", .text r.title),
    ("remind_at", r.remindAt.toJson), ("created_at", r.createdAt.toJson)]

def shape : Shape :=
  [⟨"reminder_id", Uuid, .uuid⟩, ⟨"user_id", UserId, .user⟩, ⟨"title", String, .text⟩,
    ⟨"remind_at", Timestamp, .timestamp⟩, ⟨"created_at", Timestamp, .timestamp⟩]

def ofValues : Json.Values shape → Reminder
  | (id, user, title, remindAt, createdAt, ()) => ⟨id, user, title, remindAt, createdAt⟩

def decoder : Decoder Reminder := (Decoder.record shape).map ofValues

end Reminder

namespace EventMetadata

def toJson (m : EventMetadata) : Value :=
  .object [("event_id", m.eventId.toJson), ("event_type", .text m.eventType),
    ("aggregate_id", m.aggregateId.toJson), ("correlation_id", m.correlationId.toJson),
    ("causation_id", m.causationId.toJson), ("occurred_at", m.occurredAt.toJson)]

def shape : Shape :=
  [⟨"event_id", Uuid, .uuid⟩, ⟨"event_type", String, .text⟩, ⟨"aggregate_id", Uuid, .uuid⟩,
    ⟨"correlation_id", Uuid, .uuid⟩, ⟨"causation_id", Uuid, .uuid⟩,
    ⟨"occurred_at", Timestamp, .timestamp⟩]

def ofValues : Json.Values shape → EventMetadata
  | (eventId, eventType, aggregateId, correlationId, causationId, occurredAt, ()) =>
      ⟨eventId, eventType, aggregateId, correlationId, causationId, occurredAt⟩

def decoder : Decoder EventMetadata := (Decoder.record shape).map ofValues

end EventMetadata

namespace ReminderSet

def toJson (e : ReminderSet) : Value :=
  .object [("metadata", e.metadata.toJson), ("reminder", e.reminder.toJson)]

/-- What an event carries besides its metadata, as JSON. -/
def payload (e : ReminderSet) : Value := e.reminder.toJson

def shape : Shape :=
  [⟨"metadata", EventMetadata, EventMetadata.decoder⟩, ⟨"reminder", Reminder, Reminder.decoder⟩]

def ofValues : Json.Values shape → ReminderSet
  | (metadata, reminder, ()) => ⟨metadata, reminder⟩

def decoder : Decoder ReminderSet := (Decoder.record shape).map ofValues

end ReminderSet

def SetReminder.Outcome.toJson (o : SetReminder.Outcome) : Value :=
  .object [("reminder_id", o.reminderId.toJson), ("event_id", o.eventId.toJson)]

end Reminders
