import Reminders.Identity
import Reminders.Text.Blank
import Reminders.Timestamp.Printer

/-!
# Reminders

A reminder belongs to a user, has a title and becomes due at some time after it was scheduled.
Scheduling trims the title and refuses one that is blank or has more than 200 characters, and a time
that is not in the future; the first of these that applies is the one reported.
-/

namespace Reminders

open Text (trimmed)

structure Reminder where
  id : Uuid
  /-- The user it belongs to. -/
  user : UserId
  title : String
  /-- When it becomes due. -/
  remindAt : Timestamp
  /-- When it was scheduled. -/
  createdAt : Timestamp
deriving DecidableEq, Repr

namespace Reminder

def maxTitleChars : Nat := 200

inductive Refusal where
  | blankTitle
  | longTitle
  | notFuture (remindAt now : Timestamp)
deriving DecidableEq, Repr

namespace Refusal

def message : Refusal → String
  | blankTitle => "reminder title must not be empty"
  | longTitle => "reminder title must be at most " ++ toString maxTitleChars ++ " characters"
  | notFuture remindAt now =>
      "reminder time " ++ remindAt.display ++ " must be after " ++ now.display

def failure (r : Refusal) : Failure := .validation r.message

@[simp] theorem failure_eq (r : Refusal) : r.failure = .validation r.message := rfl

end Refusal

/-- Schedules a reminder at the time `now`. -/
def schedule (id : Uuid) (user : UserId) (title : String) (remindAt now : Timestamp) :
    Except Refusal Reminder :=
  let title := trimmed title
  if title = "" then .error .blankTitle
  else if maxTitleChars < title.length then .error .longTitle
  else if remindAt ≤ now then .error (.notFuture remindAt now)
  else .ok ⟨id, user, title, remindAt, now⟩

/-- Whether a title and a time are accepted at the time `now`. -/
def Acceptable (title : String) (remindAt now : Timestamp) : Prop :=
  trimmed title ≠ "" ∧ (trimmed title).length ≤ maxTitleChars ∧ now < remindAt

theorem schedule_of_acceptable {title : String} {remindAt now : Timestamp}
    (h : Acceptable title remindAt now) (id : Uuid) (user : UserId) :
    schedule id user title remindAt now = .ok ⟨id, user, trimmed title, remindAt, now⟩ := by
  obtain ⟨h1, h2, h3⟩ := h
  have h4 : ¬maxTitleChars < (trimmed title).length := by omega
  have h5 : ¬remindAt ≤ now := Timestamp.not_le.2 h3
  simp [schedule, h1, h4, h5]

end Reminder

/-- Asks to schedule a reminder on behalf of a user. -/
structure SetReminder where
  /-- Ties together all that happens because of this request. -/
  correlationId : Uuid
  user : UserId
  /-- The identifier that the reminder is to have. -/
  reminderId : Uuid
  title : String
  remindAt : Timestamp
deriving DecidableEq, Repr

namespace SetReminder

def requestType : String := "reminders.set_reminder"

structure Outcome where
  reminderId : Uuid
  /-- The event that was published. -/
  eventId : Uuid
deriving DecidableEq, Repr

/-- The reminder that a request asks for. -/
def schedule (request : SetReminder) (now : Timestamp) : Except Reminder.Refusal Reminder :=
  Reminder.schedule request.reminderId request.user request.title request.remindAt now

end SetReminder

end Reminders
