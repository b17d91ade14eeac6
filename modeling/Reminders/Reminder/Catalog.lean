import Reminders.Mediator.Catalog
import Reminders.Reminder.Event

/-!
# The catalog of reminders

A service that sets reminders knows one type of requests and one type of events besides whatever
else it deals with. `withReminders` adds these two to a catalog.
-/

namespace Reminders.Catalog

/-- The keys of a catalog's types of requests and of the request to set a reminder. -/
inductive WithSetReminder (κ : Type) where
  | setReminder
  | other (key : κ)
deriving DecidableEq

/-- The keys of a catalog's types of events and of the event of a reminder being set. -/
inductive WithReminderSet (κ : Type) where
  | reminderSet
  | other (key : κ)
deriving DecidableEq

/-- A catalog together with the requests and events of reminders. -/
def withReminders (C : Catalog) : Catalog where
  RequestKey := WithSetReminder C.RequestKey
  Request
    | .setReminder => SetReminder
    | .other key => C.Request key
  Response
    | .setReminder => SetReminder.Outcome
    | .other key => C.Response key
  requestType {k} request :=
    match k, request with
    | .setReminder, _ => SetReminder.requestType
    | .other _, request => C.requestType request
  identity {k} request :=
    match k, request with
    | .setReminder, request => .identified request.user
    | .other _, request => C.identity request
  EventKey := WithReminderSet C.EventKey
  Event
    | .reminderSet => ReminderSet
    | .other key => C.Event key
  kind
    | .reminderSet => ReminderSet.kind
    | .other key => C.kind key
  decRequestKey := inferInstance
  decEventKey := inferInstance

end Reminders.Catalog
