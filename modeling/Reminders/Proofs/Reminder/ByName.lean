import Reminders.Proofs.Json.AnyOrder
import Reminders.Proofs.Reminder.Encoding

/-!
# Reminders and events go by the names of members

Reminders, metadata and events are decoded from objects that have their members in any order, with
any others between them and any blanks. In an event this holds of the objects inside it as well. An
object that lacks one of the members or has it twice is refused, and it is of the wrong kind unless
the fault of a value comes first: a value that stands for a record may be a list, and a list that is
too long is malformed (`ReminderSet.byName_exceptions`).
-/

namespace Reminders

open Json (Decoder Source Value)
open Json.Grammar (Blank Closes Entries Forms Member Object States)

namespace ReminderSet

/-- Reminders, metadata and events are decoded by the names of their members, in whatever order they
come. They are decoded as they are if every leap second in them stands at the end of a minute. -/
theorem decoder_byName :
    Reminder.decoder.ByName Reminder.shape Reminder.toJson Reminder.settle ∧
      EventMetadata.decoder.ByName EventMetadata.shape EventMetadata.toJson EventMetadata.settle ∧
      decoder.ByName shape toJson settle ∧
      (∀ r : Reminder, r.settle = r ↔ r.Settled) ∧
      (∀ m : EventMetadata, m.settle = m ↔ m.occurredAt.Settled) ∧
      ∀ e : ReminderSet, e.settle = e ↔ e.Settled :=
  ⟨Reminder.describes.byName, EventMetadata.describes.byName, describes.byName,
    fun _ => Reminder.settle_eq_self_iff, fun _ => EventMetadata.settle_eq_self_iff,
    fun _ => settle_eq_self_iff⟩

/-- An event for the start of 1970. -/
def plainEvent : ReminderSet where
  metadata := ⟨⟨1#128⟩, "reminders.reminder_set", ⟨2#128⟩, ⟨3#128⟩, ⟨4#128⟩, .epoch⟩
  reminder := ⟨⟨2#128⟩, ⟨⟨5#128⟩⟩, "Tea", .epoch, .epoch⟩

/-- A list with half of a surrogate pair in it, which is well-formed but spells nothing. -/
def halfPair : List Char := ['[', '"', '\\', 'u', 'd', '8', '0', '0', '"', ']']

theorem closes_half (rest : List Char) :
    Closes ('\\' :: 'u' :: (['d', '8', '0', '0'] ++ '"' :: rest)) rest :=
  .unit (n := 0xD800) ⟨rfl, Text.hexNumber?_eq_some_iff.mp (by decide)⟩ .quote

theorem forms_halfPair (rest : List Char) : Forms .value (halfPair ++ rest) rest :=
  .list (.lastElement .none (.string (closes_half _)) .none)

/-- An object with its members in reverse, and before them one that is not known. -/
def scatter : Value → Value
  | .object ms => .object (ms ++ [("x", Value.list [.object []])]).reverse
  | json => json

theorem states_scatter {ms : List (String × Value)} (strings : ∀ m ∈ ms, ∃ s, m.2 = .text s)
    (foreign : "x" ∉ ms.map Prod.fst) : States (.object ms) (scatter (.object ms)).chars := by
  refine Value.states_of_perm (List.reverse_perm _) ?_ (by simpa using foreign)
  intro m mem
  obtain ⟨s, string⟩ := strings m mem
  rw [string]
  exact Value.states_text s

/-- The event with its members, and theirs, in reverse, with others between them and with blanks. -/
def scattered : List Char :=
  '\n' :: '\x7b' :: '\t' :: '"' :: 'x' :: '"' :: ' ' :: ':' :: ' ' :: (halfPair ++ ' ' :: ',' ::
    (Json.string "reminder" ++ ':' :: ((scatter plainEvent.reminder.toJson).chars ++ ',' ::
      (Json.string "metadata" ++ ':' :: ((scatter plainEvent.metadata.toJson).chars ++
        '\x7d' :: ['\r'])))))

theorem blank_space (c : Char) (blank : c ∈ Json.Grammar.blanks) (s : List Char) :
    Blank (c :: s) s :=
  .cons blank .none

theorem member_halfPair (rest : List Char) :
    Member ('\t' :: '"' :: 'x' :: '"' :: ' ' :: ':' :: ' ' :: (halfPair ++ rest)) ("x", halfPair)
      rest :=
  .mk (.mk (blank_space '\t' (by decide) _) (.plain (by decide) (by decide) (by decide) .close)
    (blank_space ' ' (by decide) _)) (blank_space ' ' (by decide) _) (forms_halfPair rest)

theorem states_scattered : States plainEvent.toJson scattered := by
  let own := [("metadata", (scatter plainEvent.metadata.toJson).chars),
    ("reminder", (scatter plainEvent.reminder.toJson).chars)]
  have entries : Entries _ (own ++ [("x", halfPair)]).reverse ['\r'] :=
    .next (member_halfPair _) (blank_space ' ' (by decide) _)
      (.next (Value.member_chars ("reminder", scatter plainEvent.reminder.toJson) _) .none
        (.last (Value.member_chars ("metadata", scatter plainEvent.metadata.toJson) _) .none))
  have object : Object scattered (own ++ [("x", halfPair)]).reverse :=
    .some (blank_space '\n' (by decide) _) entries (blank_space '\r' (by decide) [])
  refine .object object (List.reverse_perm _) rfl ?_ (by simp)
  exact .cons (states_scatter (by simp [Uuid.toJson, Timestamp.toJson]) (by simp))
    (.cons (states_scatter (by simp [Uuid.toJson, UserId.toJson, Timestamp.toJson]) (by simp)) .nil)

/-- The members of an event, with a second reminder that is none. -/
def doubled : List (String × Value) :=
  [("reminder", plainEvent.reminder.toJson), ("metadata", plainEvent.metadata.toJson),
    ("reminder", .flag true)]

theorem judged_doubled : ∀ field ∈ shape, ∀ cs ∈ (Value.texts doubled).lookup field.name,
    Json.Judged (field.decoder.decode (cs.map some)) := by
  simp only [shape, List.forall_mem_cons]
  refine ⟨?_, ?_, fun field none => ?_⟩
  · rintro cs ⟨⟩
    exact (EventMetadata.describes.recognizes plainEvent.metadata).judged
  · rintro cs ⟨⟩
    exact (Reminder.describes.recognizes plainEvent.reminder).judged
  · cases none

/-- The event is decoded from scattered members, and not if it has a second reminder. -/
theorem decode_scattered :
    decoder.decode (.ofString (String.ofList scattered)) = .ok plainEvent ∧
      decoder.decode (.ofString (Value.object doubled).render) = .error .mismatched := by
  obtain ⟨-, -, byName, -, -, settled_iff⟩ := decoder_byName
  constructor
  · have settled : plainEvent.Settled := ⟨by decide, by decide, by decide⟩
    have states : States plainEvent.toJson (String.ofList scattered).toList := by
      rw [String.toList_ofList]
      exact states_scattered
    rw [byName.decode_of_states plainEvent _ states, (settled_iff _).mpr settled]
  · have object : Object (Value.object doubled).render.toList (Value.texts doubled) := by
      rw [Value.render, String.toList_ofList]
      exact Value.object_chars doubled
    obtain ⟨f, refused, fault⟩ := byName.refuses_uneven _ _ object
      ⟨_, List.mem_cons_of_mem _ List.mem_cons_self, by decide⟩
    rw [refused, fault judged_doubled]

/-- Metadata as a list with a value too many. -/
def longMetadata : Value :=
  let m := plainEvent.metadata
  .list [m.eventId.toJson, .text m.eventType, m.aggregateId.toJson, m.correlationId.toJson,
    m.causationId.toJson, m.occurredAt.toJson, .flag true]

/-- The members of an event, with that list in front of them. -/
def overlong : List (String × Value) :=
  [("metadata", longMetadata), ("metadata", plainEvent.metadata.toJson),
    ("reminder", plainEvent.reminder.toJson)]

/-- A name that is half of a surrogate pair, which is well-formed but spells nothing. -/
def halfName : List Char := ['"', '\\', 'u', 'd', '8', '0', '0', '"']

/-- The text of an object that has one more member, of that name. -/
def halfNamed (ms : List (String × Value)) : List Char :=
  '\x7b' :: (halfName ++ ':' :: ("true".toList ++ ',' :: (Value.members ms ++ ['\x7d'])))

theorem forms_halfNamed (m : String × Value) (ms : List (String × Value)) :
    Forms .value (halfNamed (m :: ms)) [] := by
  have word (rest : List Char) : Forms .value ("true".toList ++ rest) rest := .word (by decide)
  exact .object (.nextMember .none (closes_half _) .none .none (word _) .none
    (Value.entries_members m ms []).forms)

/-- Three ways in which a decoder does not go by the names of members alone. A list is read as
metadata until it turns out to be too long, so that is the fault of an object which is well-formed,
has metadata twice and is an event but for the first of them. A reminder with one more member is
refused if the name of that is well-formed but spells nothing. And an event in which a leap second
stands in the middle of a minute is not decoded as it is. -/
theorem byName_exceptions :
    (Object (Value.object overlong).render.toList (Value.texts overlong) ∧
      overlong.map Prod.fst = ["metadata", "metadata", "reminder"] ∧
      EventMetadata.decoder.decode (.ofString plainEvent.metadata.toJson.render) =
        .ok plainEvent.metadata ∧
      Reminder.decoder.decode (.ofString plainEvent.reminder.toJson.render) =
        .ok plainEvent.reminder ∧
      decoder.decode (.ofString (Value.object overlong).render) = .error .malformed) ∧
    (∃ ms, plainEvent.reminder.toJson = .object ms ∧ Forms .value (halfNamed ms) [] ∧
      Reminder.decoder.decode (.ofString (String.ofList (halfNamed ms))) = .error .malformed) ∧
    States earlyEvent.toJson earlyEvent.toJson.render.toList ∧
      decoder.decode (.ofString earlyEvent.toJson.render) = .ok carriedEvent ∧
      carriedEvent ≠ earlyEvent := by
  have decoded : decoder.decode ((Value.object overlong).chars.map some) = .error .malformed := by
    decide +kernel
  have settles : earlyEvent.settle = carriedEvent := by decide
  have early := describes.recognizes earlyEvent
  rw [settles] at early
  refine ⟨⟨?_, rfl, (EventMetadata.describes.recognizes plainEvent.metadata).decode_render,
    (Reminder.describes.recognizes plainEvent.reminder).decode_render, ?_⟩,
    ⟨_, rfl, forms_halfNamed _ _, ?_⟩, ?_, early.decode_render, by decide⟩
  · rw [Value.render, String.toList_ofList]
    exact Value.object_chars overlong
  · rw [Source.ofString, Value.render, String.toList_ofList]
    exact decoded
  · rw [Source.ofString, String.toList_ofList]
    decide +kernel
  · rw [Value.render, String.toList_ofList]
    exact early.states_chars

end ReminderSet

end Reminders
