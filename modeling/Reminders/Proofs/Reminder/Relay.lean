import Reminders.Proofs.Mediator.Delivery
import Reminders.Proofs.Mediator.Quiet
import Reminders.Reminder.Handling

/-!
# The event of a reminder among its subscribers

Setting a reminder publishes one event, which goes to the subscribers before the keeper of
reminders, to the keeper and to those after it. `ReminderSet.Turn` says when the keeper has its
turn, `Services.Success` and `Services.Setback` how the event fares as a whole.

What is published and what is added is counted under watch: the journal tells of the events that
the handler publishes and of the reminders that the repository is given.
-/

namespace Reminders

variable {C : Catalog} {σ : Type}

/-- What setting a reminder does to others. -/
inductive Deed where
  /-- An event was published under a token. -/
  | published (event : ReminderSet) (token : Token)
  /-- A repository was asked to add a reminder under a token. -/
  | added (reminder : Reminder) (token : Token)
deriving DecidableEq, Repr

namespace Deed

/-- The event that was published. -/
def published? : Deed → Option (ReminderSet × Token)
  | published event token => some (event, token)
  | added .. => none

/-- The reminder that a repository was asked to add. -/
def added? : Deed → Option (Reminder × Token)
  | published .. => none
  | added reminder token => some (reminder, token)

end Deed

/-- A reminder has the identifier that the request asks for. -/
theorem SetReminder.id_of_schedule {request : SetReminder} {now : Timestamp} {reminder : Reminder}
    (h : request.schedule now = .ok reminder) : reminder.id = request.reminderId := by
  simp only [schedule, Reminder.schedule] at h
  split at h
  · cases h
  split at h
  · cases h
  split at h
  · cases h
  · cases h
    rfl

/-- A context in which the events of reminders being set are entered as they are published. -/
def Context.announcing (context : Context C.withReminders (Watched Deed σ)) :
    Context C.withReminders (Watched Deed σ) where
  token := context.token
  publish {k} event :=
    match k, event with
    | .reminderSet, event => do
        (pure () : Task σ Unit).noted fun _ => [.published event context.token]
        context.publish (k := .reminderSet) event
    | .other k, event => context.publish (k := .other k) event

theorem Context.exec_announcing (context : Context C.withReminders (Watched Deed σ))
    (event : ReminderSet) (s : σ) (journal : List Deed) :
    (context.announcing.publish (k := .reminderSet) event).exec ⟨s, journal⟩ =
      (context.publish (k := .reminderSet) event).exec
        ⟨s, journal ++ [.published event context.token]⟩ :=
  rfl

namespace Services

/-- Services under watch, whose repository enters what it is asked to add. -/
def watched (services : Services σ) : Services (Watched Deed σ) where
  now w := services.now w.state
  freshId w :=
    ((services.freshId.run w.state).1, { w with state := (services.freshId.run w.state).2 })
  repository reminder token :=
    (services.repository reminder token).noted fun _ => [.added reminder token]

theorem run_freshId_watched (services : Services σ) (w : Watched Deed σ) :
    services.watched.freshId.run w =
      ((services.freshId.run w.state).1, { w with state := (services.freshId.run w.state).2 }) :=
  rfl

/-- Handling a request to set a reminder fails without an effect if the reminder is refused. -/
theorem exec_setReminder_of_error {services : Services σ} {request : SetReminder}
    {context : Context C.withReminders σ} {s : σ} {refusal : Reminder.Refusal}
    (h : request.schedule (services.now s) = .error refusal) :
    (services.setReminder request context).exec s = (.error refusal.failure, s) := by
  -- What the handler yields is typed by the catalog, so rewriting does not find the sequence here.
  unfold setReminder
  refine (Task.exec_bind _ _ _).trans ?_
  rw [Task.exec_ofExec, h]
  rfl

/-- The event of a reminder that is scheduled by a request in a state. -/
def eventOf (services : Services σ) (request : SetReminder) (reminder : Reminder) (s : σ) :
    ReminderSet :=
  ReminderSet.ofReminder (services.freshId.run s).1 reminder request.correlationId
    (services.now (services.freshId.run s).2)

/-- Handling a request to set a reminder comes to what publishing the event of it comes to. -/
theorem exec_setReminder_of_ok {services : Services σ} {request : SetReminder}
    {context : Context C.withReminders σ} {s s' : σ} {reminder : Reminder}
    {r : Except Failure Unit} (h : request.schedule (services.now s) = .ok reminder)
    (publishes : (context.publish (k := .reminderSet) (services.eventOf request reminder s)).exec
      (services.freshId.run s).2 = (r, s')) :
    (services.setReminder request context).exec s =
      (r.map fun _ => (⟨reminder.id, (services.freshId.run s).1⟩ : SetReminder.Outcome), s') := by
  unfold setReminder
  refine (Task.exec_bind _ _ _).trans ?_
  rw [Task.exec_ofExec, h]
  refine (Task.exec_bind _ _ _).trans ?_
  rw [Task.exec_ofState]
  refine (Task.exec_bind _ _ _).trans ?_
  rw [Task.exec_ofExec]
  cases r with
  | error f => exact Task.exec_bind_of_error publishes
  | ok _ => exact Task.exec_bind_of_ok publishes

end Services

namespace ReminderSet

/-- Subscriptions are handed the event of a reminder being set. -/
def Delivered (ss : List (Subscription C.withReminders σ)) (event : ReminderSet) (token : Token)
    (s : σ) (r : Except Failure Unit) (s' : σ) : Prop :=
  Subscription.Delivered (C := C.withReminders) (k := .reminderSet) ss event token s r s'

/-- Hands the event of a reminder being set to subscriptions in order. -/
def deliverAll (event : ReminderSet) (ss : List (Subscription C.withReminders σ))
    (token : Token) : Task σ Unit :=
  Subscription.deliverAll (C := C.withReminders) (k := .reminderSet) ss event token

theorem exec_deliverAll_iff {event : ReminderSet} {ss : List (Subscription C.withReminders σ)}
    {token : Token} {s s' : σ} {r : Except Failure Unit} :
    (event.deliverAll ss token).exec s = (r, s') ↔ event.Delivered ss token s r s' :=
  Subscription.exec_deliverAll_iff

theorem deliverAll_quiet (event : ReminderSet) (ss : List (Subscription C.withReminders σ))
    (token : Token) :
    event.deliverAll (ss.map .quiet) token =
      ((event.deliverAll ss token).quiet : Task (Watched Deed σ) Unit) :=
  Subscription.deliverAll_quiet (C := C.withReminders) (k := .reminderSet) event token ss

theorem exec_publish {m : Mediator C.withReminders σ} {ss : List (Subscription C.withReminders σ)}
    (h : m.subscribersOf kind = ss) (event : ReminderSet) (token : Token) (s : σ) :
    ((m.context token).publish (k := .reminderSet) event).exec s =
      (event.deliverAll ss token).exec s := by
  subst h
  rfl

/-- The keeper of reminders has its turn in the state `t`: every subscription before it took the
event without failing, and the token is not cancelled by then. -/
def Turn [Cancellable σ] (before : List (Subscription C.withReminders σ)) (event : ReminderSet)
    (token : Token) (s t : σ) : Prop :=
  event.Delivered before token s (.ok ()) t ∧ (Cancellable.signals t).isCancelled token = false

end ReminderSet

namespace Services

variable [Cancellable σ]

/-- A reminder is set: everyone took the event of it, and the repository took the reminder. -/
def Success (services : Services σ) (before after : List (Subscription C.withReminders σ))
    (event : ReminderSet) (token : Token) (s s' : σ) : Prop :=
  ∃ t u, event.Turn before token s t ∧
    (services.repository event.reminder token).exec t = (.ok (), u) ∧
    event.Delivered after token u (.ok ()) s'

/-- The first failure among those who are handed the event of a reminder. -/
inductive Setback (services : Services σ) (before after : List (Subscription C.withReminders σ))
    (event : ReminderSet) (token : Token) (s : σ) : Failure → σ → Prop where
  | before {f : Failure} {t : σ} (fails : event.Delivered before token s (.error f) t) :
      Setback services before after event token s f t
  | cancelled {t : σ} (passed : event.Delivered before token s (.ok ()) t)
      (fired : (Cancellable.signals t).isCancelled token = true) :
      Setback services before after event token s .cancelled t
  | repository {f : Failure} {t u : σ} (turn : event.Turn before token s t)
      (fails : (services.repository event.reminder token).exec t = (.error f, u)) :
      Setback services before after event token s f u
  | after {f : Failure} {t u v : σ} (turn : event.Turn before token s t)
      (adds : (services.repository event.reminder token).exec t = (.ok (), u))
      (fails : event.Delivered after token u (.error f) v) :
      Setback services before after event token s f v

/-- What a request to set a reminder comes to once its event is published in the state `s`: the
answer `r`, the state `s'` that is left and what the journal tells. -/
structure Announcement (services : Services σ)
    (before after : List (Subscription C.withReminders σ)) (request : SetReminder)
    (event : ReminderSet) (token : Token) (s : σ) (r : Except Failure SetReminder.Outcome) (s' : σ)
    (journal : List Deed) : Prop where
  /-- The event is published once, and no other. -/
  published : journal.filterMap Deed.published? = [(event, token)]
  /-- The repository is asked once to add the reminder if the keeper has its turn. -/
  added_iff : journal.filterMap Deed.added? = [(event.reminder, token)] ↔
    ∃ t, event.Turn before token s t
  /-- Otherwise the repository is not asked. -/
  spared_iff : journal.filterMap Deed.added? = [] ↔ ¬ ∃ t, event.Turn before token s t
  answered_iff : ∀ o, r = .ok o ↔ o = ⟨request.reminderId, event.metadata.eventId⟩ ∧
    services.Success before after event token s s'
  failed_iff : ∀ f, r = .error f ↔ services.Setback before after event token s f s'

/-- The subscription of the consumer that keeps reminders. -/
def keeper (services : Services σ) (consumer : Consumer.Name) : Subscription C.withReminders σ :=
  ⟨consumer, .reminderSet, services.keepReminder⟩

section Relay

variable {services : Services σ} {consumer : Consumer.Name} {event : ReminderSet} {token : Token}
variable {before after : List (Subscription C.withReminders σ)} {s s' : σ} {journal : List Deed}

theorem exec_keepReminder :
    (services.keepReminder event token).exec s =
      if (Cancellable.signals s).isCancelled token then (.error .cancelled, s)
      else (services.repository event.reminder token).exec s := by
  rw [keepReminder, Task.exec_bind, Task.exec_check, Signals.check]
  cases (Cancellable.signals s).isCancelled token <;> rfl

theorem exec_keepReminder_eq_ok_iff :
    (services.keepReminder event token).exec s = (.ok (), s') ↔
      (Cancellable.signals s).isCancelled token = false ∧
        (services.repository event.reminder token).exec s = (.ok (), s') := by
  rw [exec_keepReminder]
  cases (Cancellable.signals s).isCancelled token <;> simp

theorem exec_keepReminder_eq_error_iff {f : Failure} :
    (services.keepReminder event token).exec s = (.error f, s') ↔
      ((Cancellable.signals s).isCancelled token = true ∧ f = .cancelled ∧ s' = s) ∨
        (Cancellable.signals s).isCancelled token = false ∧
          (services.repository event.reminder token).exec s = (.error f, s') := by
  rw [exec_keepReminder]
  cases (Cancellable.signals s).isCancelled token <;> simp [eq_comm]

/-- An event goes to the subscriptions before the keeper, to the keeper, and to those after it. -/
theorem deliverAll_keeper :
    event.deliverAll (before ++ services.keeper consumer :: after) token =
      (do
        event.deliverAll before token
        services.keepReminder event token
        event.deliverAll after token) := by
  have own : (services.keeper (C := C) consumer).deliver (k := .reminderSet) event token =
      services.keepReminder event token :=
    Subscription.deliver_self (services.keeper consumer) event token
  refine (Subscription.deliverAll_append _ _ _ _).trans ?_
  rw [← own]
  rfl

variable (consumer) in
theorem exec_deliverAll_eq_ok_iff :
    (event.deliverAll (before ++ services.keeper consumer :: after) token).exec s =
        (.ok (), s') ↔
      services.Success before after event token s s' := by
  simp only [deliverAll_keeper, Task.exec_andThen_eq_ok_iff, exec_keepReminder_eq_ok_iff,
    ReminderSet.exec_deliverAll_iff]
  constructor
  · rintro ⟨t, passed, u, ⟨live, adds⟩, others⟩
    exact ⟨t, u, ⟨passed, live⟩, adds, others⟩
  · rintro ⟨t, u, ⟨passed, live⟩, adds, others⟩
    exact ⟨t, passed, u, ⟨live, adds⟩, others⟩

variable (consumer) in
theorem exec_deliverAll_eq_error_iff {f : Failure} :
    (event.deliverAll (before ++ services.keeper consumer :: after) token).exec s =
        (.error f, s') ↔
      services.Setback before after event token s f s' := by
  simp only [deliverAll_keeper, Task.exec_andThen_eq_error_iff, exec_keepReminder_eq_error_iff,
    exec_keepReminder_eq_ok_iff, ReminderSet.exec_deliverAll_iff]
  constructor
  · rintro (fails | ⟨t, passed, (⟨fired, rfl, rfl⟩ | ⟨live, fails⟩) |
      ⟨u, ⟨live, adds⟩, fails⟩⟩)
    · exact .before fails
    · exact .cancelled passed fired
    · exact .repository ⟨passed, live⟩ fails
    · exact .after ⟨passed, live⟩ adds fails
  · intro h
    cases h with
    | before fails => exact .inl fails
    | cancelled passed fired => exact .inr ⟨_, passed, .inl (.inl ⟨fired, rfl, rfl⟩)⟩
    | repository turn fails => exact .inr ⟨_, turn.1, .inl (.inr ⟨turn.2, fails⟩)⟩
    | after turn adds fails => exact .inr ⟨_, turn.1, .inr ⟨_, ⟨turn.2, adds⟩, fails⟩⟩

/-- Under watch, the keeper has its turn as it has without a watch, and the repository is then
asked once. -/
theorem exec_deliverAll_of_turn {t : σ} (turn : event.Turn before token s t) :
    (event.deliverAll (before.map .quiet ++ services.watched.keeper consumer :: after.map .quiet)
        token).exec ⟨s, journal⟩ =
      (((event.deliverAll (before ++ services.keeper consumer :: after) token).exec s).1,
        ⟨((event.deliverAll (before ++ services.keeper consumer :: after) token).exec s).2,
          journal ++ [.added event.reminder token]⟩) := by
  obtain ⟨passed, live⟩ := turn
  rw [← ReminderSet.exec_deliverAll_iff] at passed
  have keeps : (services.keepReminder event token).exec t =
      (services.repository event.reminder token).exec t := by
    simp [exec_keepReminder, live]
  have enters : (services.watched.keepReminder event token).exec ⟨t, journal⟩ =
      (((services.repository event.reminder token).exec t).1,
        ⟨((services.repository event.reminder token).exec t).2,
          journal ++ [.added event.reminder token]⟩) := by
    simp [exec_keepReminder, live, watched]
  simp only [deliverAll_keeper, ReminderSet.deliverAll_quiet, Task.exec_bind, Task.exec_quiet,
    passed, keeps, enters]
  rcases (services.repository event.reminder token).exec t with ⟨_ | _, u⟩
  · rfl
  · rfl

/-- Under watch, the repository is not asked if the keeper has no turn. -/
theorem exec_deliverAll_of_no_turn (noTurn : ¬ ∃ t, event.Turn before token s t) :
    (event.deliverAll (before.map .quiet ++ services.watched.keeper consumer :: after.map .quiet)
        token).exec ⟨s, journal⟩ =
      (((event.deliverAll (before ++ services.keeper consumer :: after) token).exec s).1,
        ⟨((event.deliverAll (before ++ services.keeper consumer :: after) token).exec s).2,
          journal⟩) := by
  simp only [deliverAll_keeper, ReminderSet.deliverAll_quiet, Task.exec_bind, Task.exec_quiet]
  rcases passed : (event.deliverAll before token).exec s with ⟨_ | _, t⟩
  · rfl
  · have fired : (Cancellable.signals t).isCancelled token = true := by
      by_contra live
      refine noTurn ⟨t, ReminderSet.exec_deliverAll_iff.mp passed, ?_⟩
      simpa using live
    simp [exec_keepReminder, fired]

/-- Publishing the event among the others, and what comes of it. -/
theorem exists_announcement (request : SetReminder) {p : Except Failure Unit}
    (h : (event.deliverAll (before ++ services.keeper consumer :: after) token).exec s = (p, s')) :
    ∃ journal,
      (event.deliverAll (before.map .quiet ++ services.watched.keeper consumer :: after.map .quiet)
        token).exec ⟨s, [.published event token]⟩ = (p, ⟨s', journal⟩) ∧
      services.Announcement before after request event token s
        (p.map fun _ => ⟨request.reminderId, event.metadata.eventId⟩) s' journal := by
  have answered : ∀ o : SetReminder.Outcome,
      (p.map fun _ => (⟨request.reminderId, event.metadata.eventId⟩ : SetReminder.Outcome)) =
          .ok o ↔
        o = ⟨request.reminderId, event.metadata.eventId⟩ ∧
          services.Success before after event token s s' := by
    intro o
    rw [← exec_deliverAll_eq_ok_iff consumer, h]
    cases p <;> simp [Except.map, eq_comm]
  have failed : ∀ f : Failure,
      (p.map fun _ => (⟨request.reminderId, event.metadata.eventId⟩ : SetReminder.Outcome)) =
          .error f ↔
        services.Setback before after event token s f s' := by
    intro f
    rw [← exec_deliverAll_eq_error_iff consumer, h]
    cases p <;> simp [Except.map]
  by_cases turn : ∃ t, event.Turn before token s t
  · refine ⟨[.published event token, .added event.reminder token], ?_, ?_⟩
    · obtain ⟨t, turn⟩ := turn
      rw [exec_deliverAll_of_turn turn, h]
      rfl
    · have added : [Deed.published event token, .added event.reminder token].filterMap
          Deed.added? = [(event.reminder, token)] := rfl
      exact ⟨rfl, by simp [added, turn], by simp [added, turn], answered, failed⟩
  · refine ⟨[.published event token], ?_, ?_⟩
    · rw [exec_deliverAll_of_no_turn turn, h]
    · have added : [Deed.published event token].filterMap Deed.added? = [] := rfl
      exact ⟨rfl, by simp [added, turn], by simp [added, turn], answered, failed⟩

/-- Handling a request that can be scheduled, between the gate and the answer. -/
theorem exec_setReminder_announces {m : Mediator C.withReminders σ}
    {w : Mediator C.withReminders (Watched Deed σ)} {request : SetReminder} {reminder : Reminder}
    (subscribers : m.subscribersOf ReminderSet.kind = before ++ services.keeper consumer :: after)
    (subscribers' : w.subscribersOf ReminderSet.kind =
      before.map .quiet ++ services.watched.keeper consumer :: after.map .quiet)
    (scheduled : request.schedule (services.now s) = .ok reminder) (token : Token) :
    ∃ r s' journal, (services.setReminder request (m.context token)).exec s = (r, s') ∧
      (services.watched.setReminder request (w.context token).announcing).exec ⟨s, []⟩ =
        (r, ⟨s', journal⟩) ∧
      services.Announcement before after request (services.eventOf request reminder s) token
        (services.freshId.run s).2 r s' journal := by
  rcases published : ((services.eventOf request reminder s).deliverAll
    (before ++ services.keeper consumer :: after) token).exec (services.freshId.run s).2
    with ⟨p, s'⟩
  obtain ⟨journal, published', announcement⟩ := exists_announcement request published
  have publishes := (ReminderSet.exec_publish subscribers _ token _).trans published
  have publishes' := (Context.exec_announcing (w.context token) _ _ []).trans
    ((ReminderSet.exec_publish subscribers' _ token _).trans published')
  have answer := exec_setReminder_of_ok scheduled publishes
  have answer' : (services.watched.setReminder request (w.context token).announcing).exec ⟨s, []⟩ =
      _ := exec_setReminder_of_ok scheduled publishes'
  rw [SetReminder.id_of_schedule scheduled] at answer answer'
  exact ⟨_, s', journal, answer, answer', announcement⟩

end Relay

end Services

end Reminders
