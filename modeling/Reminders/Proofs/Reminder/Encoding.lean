import Reminders.Proofs.Json.AnyOrder
import Reminders.Proofs.Timestamp.RoundTrip
import Reminders.Reminder.Json

/-!
# Reminders and events survive their encoding

Whatever a reminder, an event or its metadata holds, its JSON text is decoded as the same record,
but for leap seconds in the middle of a minute, which become a part of the next second (`settle`).
Nothing is assumed of titles, of the kinds of events or of timestamps, so this covers escapes in
strings, years of more than four digits, fractions of each width and leap seconds. What an event
carries is decoded as well, and may have its members in any order.
-/

namespace Reminders

open Json (Decoder Shape Source Value)

namespace Json.Decoder

theorem recognizes_uuid (u : Uuid) : uuid.Recognizes u.toJson u :=
  (recognizes_text u.text).filterMap u.ofText?_text

theorem recognizes_user (user : UserId) : Decoder.user.Recognizes user.toJson user :=
  (recognizes_text user.text).filterMap user.ofText?_text

theorem recognizes_timestamp (t : Timestamp) : timestamp.Recognizes t.toJson t.settle :=
  (recognizes_text t.text).filterMap t.ofText?_text

theorem stable_uuid : uuid.Stable := stable_text.filterMap _

theorem stable_user : user.Stable := stable_text.filterMap _

theorem stable_timestamp : timestamp.Stable := stable_text.filterMap _

theorem settle_of_yields_timestamp {t : Timestamp} (h : timestamp.Yields t) : t.settle = t := by
  obtain ⟨s, -, read⟩ := yields_filterMap h
  exact Timestamp.settle_of_settled (Timestamp.settled_of_ofText? read)

end Json.Decoder

open Json.Decoder (recognizes_text recognizes_uuid recognizes_user recognizes_timestamp stable_text
  stable_uuid stable_user stable_timestamp settle_of_yields_timestamp)

@[simp] theorem Timestamp.toJson_settle (t : Timestamp) : t.settle.toJson = t.toJson := by
  rw [toJson, toJson, text_settle]

namespace Reminder

/-- The leap seconds of a reminder stand at the end of a minute. -/
def Settled (r : Reminder) : Prop := r.remindAt.Settled ∧ r.createdAt.Settled

/-- The reminder that the text of a reminder spells. -/
def settle (r : Reminder) : Reminder :=
  { r with remindAt := r.remindAt.settle, createdAt := r.createdAt.settle }

theorem settle_eq_self_iff {r : Reminder} : r.settle = r ↔ r.Settled := by
  cases r
  simp [settle, Settled, Timestamp.settle_eq_self_iff]

theorem describes : Shape.Describes shape ofValues toJson settle where
  distinct := by decide
  stable := by
    simp [shape, stable_uuid, stable_user, stable_text, stable_timestamp]
  stated r :=
    ⟨(r.id, r.user, r.title, r.remindAt.settle, r.createdAt.settle, ()), _, rfl, rfl,
      .cons ⟨"reminder_id", _, _⟩ (recognizes_uuid r.id) <|
      .cons ⟨"user_id", _, _⟩ (recognizes_user r.user) <|
      .cons ⟨"title", _, _⟩ (recognizes_text r.title) <|
      .cons ⟨"remind_at", _, _⟩ (recognizes_timestamp r.remindAt) <|
      .cons ⟨"created_at", _, _⟩ (recognizes_timestamp r.createdAt) .nil⟩
  write_settle r := by simp [toJson, settle]
  settled := by
    rintro ⟨id, user, title, remindAt, createdAt, ⟨⟩⟩ ⟨-, -, -, due, created, -⟩
    simp only [ofValues, settle, settle_of_yields_timestamp due, settle_of_yields_timestamp created]

end Reminder

namespace EventMetadata

/-- The metadata that the text of metadata spells. -/
def settle (m : EventMetadata) : EventMetadata := { m with occurredAt := m.occurredAt.settle }

theorem settle_eq_self_iff {m : EventMetadata} : m.settle = m ↔ m.occurredAt.Settled := by
  cases m
  simp [settle, Timestamp.settle_eq_self_iff]

theorem describes : Shape.Describes shape ofValues toJson settle where
  distinct := by decide
  stable := by
    simp [shape, stable_uuid, stable_text, stable_timestamp]
  stated m :=
    ⟨(m.eventId, m.eventType, m.aggregateId, m.correlationId, m.causationId, m.occurredAt.settle,
        ()), _, rfl, rfl,
      .cons ⟨"event_id", _, _⟩ (recognizes_uuid m.eventId) <|
      .cons ⟨"event_type", _, _⟩ (recognizes_text m.eventType) <|
      .cons ⟨"aggregate_id", _, _⟩ (recognizes_uuid m.aggregateId) <|
      .cons ⟨"correlation_id", _, _⟩ (recognizes_uuid m.correlationId) <|
      .cons ⟨"causation_id", _, _⟩ (recognizes_uuid m.causationId) <|
      .cons ⟨"occurred_at", _, _⟩ (recognizes_timestamp m.occurredAt) .nil⟩
  write_settle m := by simp [toJson, settle]
  settled := by
    rintro ⟨eventId, eventType, aggregateId, correlationId, causationId, occurredAt, ⟨⟩⟩
      ⟨-, -, -, -, -, occurred, -⟩
    simp only [ofValues, settle, settle_of_yields_timestamp occurred]

end EventMetadata

namespace ReminderSet

/-- The leap seconds of an event stand at the end of a minute. -/
def Settled (e : ReminderSet) : Prop := e.metadata.occurredAt.Settled ∧ e.reminder.Settled

/-- The event that the text of an event spells. -/
def settle (e : ReminderSet) : ReminderSet := ⟨e.metadata.settle, e.reminder.settle⟩

theorem settle_eq_self_iff {e : ReminderSet} : e.settle = e ↔ e.Settled := by
  cases e
  simp [settle, Settled, EventMetadata.settle_eq_self_iff, Reminder.settle_eq_self_iff]

theorem describes : Shape.Describes shape ofValues toJson settle where
  distinct := by decide
  stable := by
    simp only [shape, List.forall_mem_cons]
    exact ⟨EventMetadata.describes.stable_map, Reminder.describes.stable_map, nofun⟩
  stated e :=
    ⟨(e.metadata.settle, e.reminder.settle, ()), _, rfl, rfl,
      .cons ⟨"metadata", _, _⟩ (EventMetadata.describes.recognizes e.metadata) <|
      .cons ⟨"reminder", _, _⟩ (Reminder.describes.recognizes e.reminder) .nil⟩
  write_settle e := by
    rw [toJson, toJson, settle, EventMetadata.describes.write_settle,
      Reminder.describes.write_settle]
  settled := by
    rintro ⟨metadata, reminder, ⟨⟩⟩ ⟨told, set, -⟩
    rw [ofValues, settle, EventMetadata.describes.settle_of_yields told,
      Reminder.describes.settle_of_yields set]

/-- Events, reminders and metadata are decoded from their own texts, and from their values with the
members in any order, and so is the reminder that an event carries. They come back as what they
were, except that a leap second in the middle of a minute has become a part of the next second.
Whatever is decoded has none of these, so decoding what was spelled in another way and encoding it
gives a text that is not changed any more. -/
theorem decoder_undoes_toJson :
    decoder.Undoes toJson settle ∧ Reminder.decoder.Undoes Reminder.toJson Reminder.settle ∧
      EventMetadata.decoder.Undoes EventMetadata.toJson EventMetadata.settle ∧
      (∀ e : ReminderSet, ∃ ms, e.payload = .object ms ∧ ∀ ms', ms'.Perm ms →
        Reminder.decoder.ofValue (.object ms') = .ok e.reminder.settle) ∧
      (∀ e : ReminderSet, e.settle = e ↔ e.Settled) ∧
      (∀ r : Reminder, r.settle = r ↔ r.Settled) ∧
      ∀ m : EventMetadata, m.settle = m ↔ m.occurredAt.Settled := by
  refine ⟨describes.undoes, Reminder.describes.undoes, EventMetadata.describes.undoes, ?_,
    fun _ => settle_eq_self_iff, fun _ => Reminder.settle_eq_self_iff,
    fun _ => EventMetadata.settle_eq_self_iff⟩
  intro e
  exact ⟨_, rfl, Reminder.describes.undoes.decode_value e.reminder _ rfl⟩

/-- An event in a spelling of its own: lists in place of objects, a member that is not known, forms
of identifiers that are not written, an escape that is not needed, and times before the common era,
far ahead and in a leap second. -/
def mixedSpelling : Source :=
  ["\x7b\"reminder\": [",
    "\"urn:uuid:00000000-0000-0000-0000-00000000000a\", ",
    "\"\x7b00000000-0000-0000-0000-00000000000B\x7d\", ",
    "\"\\u0022tea\\u0022\\u0007\", ",
    "\"2016-12-31t23:59:60.5z\", ",
    "\"+12345-06-07 08:09:10+01:30\"], ",
    "\"extra\": [null], ",
    "\"metadata\": [",
    "\"0000000000000000000000000000000c\", ",
    "\"\", ",
    "\"0000000000000000000000000000000A\", ",
    "\"0000000000000000000000000000000c\", ",
    "\"0000000000000000000000000000000d\", ",
    "\"-0001-01-01T00:00:00Z\"]\x7d"].flatMap Source.ofString

/-- The event in that spelling. -/
def mixedEvent : ReminderSet where
  metadata := ⟨⟨12#128⟩, "", ⟨10#128⟩, ⟨12#128⟩, ⟨13#128⟩,
    (Timestamp.ofDay? (-719893) 0 0).getD .epoch⟩
  reminder := ⟨⟨10#128⟩, ⟨⟨11#128⟩⟩, "\"tea\"\x07",
    (Timestamp.ofDay? 17166 86399 1500000000).getD .epoch,
    (Timestamp.ofDay? 3789548 23950 0).getD .epoch⟩

/-- The event is encoded in one way, and its reminder is also decoded with its members sorted. -/
theorem decode_mixedSpelling :
    decoder.decode mixedSpelling = .ok mixedEvent ∧ mixedEvent.Settled ∧
      decoder.decode (.ofString mixedEvent.toJson.render) = .ok mixedEvent ∧
      decoder.recode toJson (.ofString mixedEvent.toJson.render) = .ok mixedEvent.toJson.render ∧
      Reminder.decoder.ofValue (.object
        [("created_at", mixedEvent.reminder.createdAt.toJson),
          ("remind_at", mixedEvent.reminder.remindAt.toJson),
          ("reminder_id", mixedEvent.reminder.id.toJson),
          ("title", .text mixedEvent.reminder.title),
          ("user_id", mixedEvent.reminder.user.toJson)]) = .ok mixedEvent.reminder := by
  obtain ⟨undoes, -, -, carried, settled_iff, -, -⟩ := decoder_undoes_toJson
  have accepted : decoder.decode mixedSpelling = .ok mixedEvent := by decide +kernel
  have encoded : decoder.recode toJson mixedSpelling = .ok mixedEvent.toJson.render := by
    rw [Decoder.recode, accepted]
    rfl
  have again := undoes.decode_again _ _ accepted
  have settles : mixedEvent.settle = mixedEvent :=
    Except.ok.inj ((undoes.decode_render mixedEvent).symm.trans again)
  obtain ⟨ms, payload, anyOrder⟩ := carried mixedEvent
  have reminder : mixedEvent.reminder.settle = mixedEvent.reminder :=
    congrArg ReminderSet.reminder settles
  rw [reminder] at anyOrder
  refine ⟨accepted, (settled_iff mixedEvent).mp settles, again, undoes.recode_again _ _ encoded,
    anyOrder _ ?_⟩
  obtain rfl := Value.object.inj payload
  -- The identifier moves in front of the rest, which is then the wrong way round.
  exact (@List.perm_middle _ _ [_, _] _).trans ((List.reverse_perm _).symm.cons _)

/-- The middle of a leap second after the first second of 1970. -/
def earlyLeap : Timestamp := { Timestamp.epoch with nano := 1500000000, nano_lt := by decide }

/-- An event in which everything happens then. -/
def earlyEvent : ReminderSet where
  metadata := ⟨⟨1#128⟩, kind, ⟨2#128⟩, ⟨3#128⟩, ⟨4#128⟩, earlyLeap⟩
  reminder := ⟨⟨2#128⟩, ⟨⟨5#128⟩⟩, "Tea", earlyLeap, earlyLeap⟩

/-- The event in which everything happens half a second after the next second has begun. -/
def carriedEvent : ReminderSet :=
  let t : Timestamp := (Timestamp.ofDay? 0 1 500000000).getD .epoch
  { metadata := { earlyEvent.metadata with occurredAt := t }
    reminder := { earlyEvent.reminder with remindAt := t, createdAt := t } }

/-- A leap second in the middle of a minute does not come back. What is decoded is after the second
that follows it, which the leap second is before. -/
theorem decode_earlyEvent :
    decoder.decode (.ofString earlyEvent.toJson.render) = .ok carriedEvent ∧
      Reminder.decoder.decode (.ofString earlyEvent.reminder.toJson.render) =
        .ok carriedEvent.reminder ∧
      EventMetadata.decoder.decode (.ofString earlyEvent.metadata.toJson.render) =
        .ok carriedEvent.metadata ∧
      Reminder.decoder.ofValue earlyEvent.payload = .ok carriedEvent.reminder ∧
      carriedEvent ≠ earlyEvent ∧ carriedEvent.reminder ≠ earlyEvent.reminder ∧
      carriedEvent.metadata ≠ earlyEvent.metadata ∧
      ∃ next : Timestamp, earlyLeap < next ∧ next < carriedEvent.reminder.remindAt := by
  have settles : earlyEvent.settle = carriedEvent := by decide
  have undoes := Reminder.describes.undoes
  rw [← settles]
  exact ⟨describes.undoes.decode_render earlyEvent, undoes.decode_render earlyEvent.reminder,
    EventMetadata.describes.undoes.decode_render earlyEvent.metadata,
    undoes.decode_value earlyEvent.reminder _ rfl _ (.refl _), by decide, by decide, by decide,
    (Timestamp.ofDay? 0 1 0).getD .epoch, by decide, by decide⟩

end ReminderSet

end Reminders
