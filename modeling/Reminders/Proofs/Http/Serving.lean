import Reminders.Http.App
import Reminders.Proofs.Reminder.Scheduling
import Reminders.Proofs.Reminder.Setting

/-!
# A service for reminders and nothing else

The service that runs is built over a mediator with no registrations but those of reminders. For
such a service the way of a draft is told step by step: identifiers are drawn, the gate looks at the
token and the user, the reminder is scheduled, and the one subscriber of its event adds it to the
repository. There is a rule for each way to end, in which the states in between are given.
-/

namespace Reminders

variable {C : Catalog} {σ : Type} [Cancellable σ] {services : Services σ}

open Text (trimmed)

/-- The event of a reminder reaches its only subscriber. -/
theorem Services.exec_deliverAll_alone {consumer : Consumer.Name} {event : ReminderSet}
    {token : Token} {s : σ} :
    (event.deliverAll [services.keeper (C := C) consumer] token).exec s =
      (services.keepReminder event token).exec s := by
  have alone : event.deliverAll ([] ++ services.keeper (C := C) consumer :: []) token =
      (do
        event.deliverAll [] token
        services.keepReminder event token
        event.deliverAll [] token) :=
    deliverAll_keeper
  have nobody : event.deliverAll ([] : List (Subscription C.withReminders σ)) token = pure () := rfl
  rw [List.nil_append] at alone
  simp only [alone, nobody, Task.exec_bind, Task.exec_pure]
  rcases (services.keepReminder event token).exec s with ⟨_ | _, _⟩
  · rfl
  · rfl

namespace Mediator

variable {m : Mediator C.withReminders σ} {request : SetReminder} {token : Token} {s t u : σ}

/-- A mediator that handles reminders and has no other registrations. -/
structure Alone (m : Mediator C.withReminders σ) (services : Services σ) : Prop where
  policy : m.policy = .authenticated
  handler : m.handler? (.setReminder : C.withReminders.RequestKey) = some services.setReminder
  subscribers : ∃ consumer, m.subscribersOf ReminderSet.kind = [services.keeper consumer]

theorem exists_registerReminders (services : Services σ) {version : String}
    {consumer : Consumer.Name} (resolved : Reminder.consumer version = .ok consumer) :
    ∃ m : Mediator C.withReminders σ, initial.registerReminders services version = .ok m := by
  obtain ⟨m, built⟩ : ∃ m, build (reminderRegistrations (C := C) services consumer) = .ok m := by
    rw [exists_build_iff]
    exact List.nodup_cons.mpr ⟨List.not_mem_nil, List.nodup_nil⟩
  exact ⟨m, registerReminders_eq_ok_iff.mpr ⟨consumer, resolved, built⟩⟩

theorem alone_of_registerReminders {version : String}
    (h : initial.registerReminders services version = .ok m) : m.Alone services := by
  obtain ⟨consumer, -, built⟩ := registerReminders_eq_ok_iff.mp h
  have between : build ([] ++ .handler (C := C.withReminders) .setReminder services.setReminder ::
      .subscription (services.keeper consumer) :: []) = .ok m := built
  obtain ⟨handler, subscribers⟩ := registries_of_build_between (fun _ => List.not_mem_nil) between
  exact ⟨(registries_of_registerAll built).1, handler, consumer, subscribers⟩

theorem exec_send_of_cancelled (fired : (Cancellable.signals s).isCancelled token = true) :
    (m.send (C := C.withReminders) (k := .setReminder) request token).exec s =
      (.error .cancelled, s) :=
  exec_send_of_refused (exec_gate_of_cancelled fired)

theorem exec_send_of_nil (live : (Cancellable.signals s).isCancelled token = false)
    (anonymous : request.user = .nil) :
    (m.send (C := C.withReminders) (k := .setReminder) request token).exec s =
      (.error (.authorization "reminders.set_reminder carries no user identity"), s) := by
  have identity : C.withReminders.identity (k := .setReminder) request = .identified .nil :=
    congrArg Identity.identified anonymous
  exact exec_send_of_refused (exec_gate_of_nil live identity)

namespace Alone

variable (alone : m.Alone services)

include alone

theorem exec_send_of_given (live : (Cancellable.signals s).isCancelled token = false)
    (given : request.user ≠ .nil) :
    (m.send (C := C.withReminders) (k := .setReminder) request token).exec s =
      (services.setReminder request (m.context token)).exec s := by
  have identity : C.withReminders.identity (k := .setReminder) request =
      .identified request.user := rfl
  refine exec_send_of_admitted ?_ alone.handler
  refine (exec_gate_of_identified live identity given).trans ?_
  rw [alone.policy, Policy.authenticated_of_ne_nil given]
  rfl

theorem exec_send_of_unacceptable (live : (Cancellable.signals s).isCancelled token = false)
    (given : request.user ≠ .nil) {refusal : Reminder.Refusal}
    (unacceptable :
      Reminder.Unacceptable request.title request.remindAt (services.now s) refusal) :
    (m.send (C := C.withReminders) (k := .setReminder) request token).exec s =
      (.error (.validation refusal.message), s) := by
  rw [alone.exec_send_of_given live given]
  apply Services.exec_setReminder_of_error
  exact Reminder.schedule_of_unacceptable unacceptable _ _

/-- A request that can be scheduled ends as adding the reminder to the repository ends. -/
theorem exec_send_of_acceptable (request : SetReminder)
    (live : (Cancellable.signals s).isCancelled token = false)
    (given : request.user ≠ .nil)
    (acceptable : Reminder.Acceptable request.title request.remindAt (services.now s))
    {reminder : Reminder} (asked : reminder = ⟨request.reminderId, request.user,
      trimmed request.title, request.remindAt, services.now s⟩)
    {eventId : Uuid} (drawn : services.freshId.run s = (eventId, t))
    (live' : (Cancellable.signals t).isCancelled token = false) {r : Except Failure Unit}
    (adds : (services.repository reminder token).exec t = (r, u)) :
    (m.send (C := C.withReminders) (k := .setReminder) request token).exec s =
      (r.map fun _ => (⟨reminder.id, eventId⟩ : SetReminder.Outcome), u) := by
  obtain ⟨consumer, subscribers⟩ := alone.subscribers
  have scheduled : request.schedule (services.now s) = .ok reminder := by
    rw [asked]
    exact Reminder.schedule_of_acceptable acceptable _ _
  rw [alone.exec_send_of_given live given]
  have fresh : (services.freshId.run s).1 = eventId := by rw [drawn]
  rw [← fresh]
  apply Services.exec_setReminder_of_ok scheduled
  rw [ReminderSet.exec_publish subscribers, drawn]
  rw [Services.exec_deliverAll_alone, Services.exec_keepReminder, live']
  exact adds

end Alone

end Mediator

end Reminders
