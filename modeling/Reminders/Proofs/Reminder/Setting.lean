import Reminders.Proofs.Reminder.Relay

/-!
# Setting a reminder

A mediator that handles reminders is built from registrations of which some come before those of
reminders and some after. Only a later handler for the same requests would replace the one of
reminders; whatever else is registered, sending a request to set a reminder comes to what
`send_setReminder` says.
-/

namespace Reminders

variable {C : Catalog} {σ : Type}

namespace Mediator

variable [Cancellable σ] {earlier later : List (Registration C.withReminders σ)}
variable {m : Mediator C.withReminders σ}

/-- The mediator that registrations build with those of reminders among them, in a version of the
API. -/
def buildAmong (earlier : List (Registration C.withReminders σ)) (services : Services σ)
    (version : String) (later : List (Registration C.withReminders σ)) :
    Except Failure (Mediator C.withReminders σ) := do
  let m ← build earlier
  let m ← m.registerReminders services version
  m.registerAll later

/-- The registrations that make a mediator handle reminders, under watch. -/
def watchedReminders (services : Services σ) (consumer : Consumer.Name) :
    List (Registration C.withReminders (Watched Deed σ)) :=
  [.handler .setReminder fun request context =>
      services.watched.setReminder request context.announcing,
    .subscription (services.watched.keeper consumer)]

/-- The same mediator with the registrations of reminders under watch and the others quiet. -/
def buildWatched (earlier : List (Registration C.withReminders σ)) (services : Services σ)
    (version : String) (later : List (Registration C.withReminders σ)) :
    Except Failure (Mediator C.withReminders (Watched Deed σ)) := do
  let consumer ← (Reminder.consumer version).mapError Consumer.Fault.failure
  build (earlier.map .quiet ++ (watchedReminders services consumer ++ later.map .quiet))

variable {services : Services σ} {version : String} {consumer : Consumer.Name}

theorem registerReminders_eq_ok_iff {m' : Mediator C.withReminders σ} :
    m.registerReminders services version = .ok m' ↔
      ∃ consumer, Reminder.consumer version = .ok consumer ∧
        m.registerAll (reminderRegistrations services consumer) = .ok m' := by
  rw [registerReminders]
  cases Reminder.consumer version with
  | error fault => simp [Except.mapError, bind, Except.bind]
  | ok consumer => simp [Except.mapError, bind, Except.bind]

theorem buildAmong_eq_ok_iff :
    buildAmong earlier services version later = .ok m ↔
      ∃ consumer, Reminder.consumer version = .ok consumer ∧
        build (earlier ++ (reminderRegistrations services consumer ++ later)) = .ok m := by
  have steps : buildAmong earlier services version later = .ok m ↔
      ∃ n n', build earlier = .ok n ∧ n.registerReminders services version = .ok n' ∧
        n'.registerAll later = .ok m := by
    rw [buildAmong]
    cases build earlier with
    | error f => simp [bind, Except.bind]
    | ok n =>
        cases h : n.registerReminders services version with
        | error f => simp [bind, Except.bind, h]
        | ok n' => simp [bind, Except.bind, h]
  simp only [steps, registerReminders_eq_ok_iff, build, registerAll_append_eq_ok_iff]
  constructor
  · rintro ⟨n, n', hearlier, ⟨consumer, resolved, hreminders⟩, hlater⟩
    exact ⟨consumer, resolved, n, hearlier, n', hreminders, hlater⟩
  · rintro ⟨consumer, resolved, n, hearlier, n', hreminders, hlater⟩
    exact ⟨n, n', hearlier, ⟨consumer, resolved, hreminders⟩, hlater⟩

/-- The mediator can be built under watch if it can be built. -/
theorem exists_buildWatched (resolved : Reminder.consumer version = .ok consumer)
    (built : build (earlier ++ (reminderRegistrations services consumer ++ later)) = .ok m) :
    ∃ w, buildWatched earlier services version later = .ok w ∧
      build (earlier.map .quiet ++ (watchedReminders services consumer ++ later.map .quiet)) =
        .ok w := by
  have same : (Registration.subscriptions (watchedReminders services consumer)).map
        Subscription.listing =
      (Registration.subscriptions (reminderRegistrations (C := C) services consumer)).map
        Subscription.listing :=
    rfl
  have distinct := exists_build_iff.mp ⟨m, built⟩
  simp only [Registration.subscriptions_append, List.map_append, ← same] at distinct
  obtain ⟨w, hw⟩ : ∃ w, build (earlier.map .quiet ++
      (watchedReminders services consumer ++ later.map .quiet)) = .ok w := by
    rw [exists_build_iff]
    simpa only [Registration.subscriptions_append, List.map_append,
      Registration.listings_quiet] using distinct
  refine ⟨w, ?_, hw⟩
  rw [buildWatched, resolved]
  exact hw

/-- Under watch, the policy is the quiet one. -/
theorem policy_of_buildWatched {w : Mediator C.withReminders (Watched Deed σ)}
    (built : build (earlier ++ (reminderRegistrations services consumer ++ later)) = .ok m)
    (hw : build (earlier.map .quiet ++ (watchedReminders services consumer ++ later.map .quiet)) =
      .ok w) :
    w.policy = m.policy.quiet := by
  have noPolicy : (reminderRegistrations (C := C) services consumer).reverse.findSome?
      Registration.policy? = none := rfl
  have noPolicy' : (watchedReminders (C := C) services consumer).reverse.findSome?
      Registration.policy? = none := rfl
  rw [(registries_of_registerAll built).1, (registries_of_registerAll hw).1]
  simp only [List.reverse_append, List.findSome?_append, noPolicy, noPolicy', ← List.map_reverse,
    Registration.findSome?_policy?_quiet]
  cases later.reverse.findSome? Registration.policy? with
  | some p => rfl
  | none =>
      cases earlier.reverse.findSome? Registration.policy? with
      | some p => rfl
      | none => exact Policy.authenticated_quiet.symm

/-- A mediator that handles reminders among other things comes to this when it is sent a request to
set one, under watch as without. A request that the gate refuses or that cannot be scheduled leads
to nothing. Otherwise one event is published, and `Services.Announcement` tells what comes of it. -/
theorem send_setReminder (built : buildAmong earlier services version later = .ok m)
    (kept : ∀ h, .handler .setReminder h ∉ later) (request : SetReminder) (token : Token) (s : σ) :
    ∃ w, buildWatched earlier services version later = .ok w ∧ ∃ r s' journal,
      (m.send (C := C.withReminders) (k := .setReminder) request token).exec s = (r, s') ∧
      (w.send (C := C.withReminders) (k := .setReminder) request token).exec ⟨s, []⟩ =
        (r, ⟨s', journal⟩) ∧
      (∀ f t, (m.gate (C := C.withReminders) (k := .setReminder) request token).exec s =
          (.error f, t) →
        r = .error f ∧ s' = t ∧ journal = []) ∧
      ∀ t, (m.gate (C := C.withReminders) (k := .setReminder) request token).exec s = (.ok (), t) →
        (∀ refusal, request.schedule (services.now t) = .error refusal →
          r = .error refusal.failure ∧ s' = t ∧ journal = []) ∧
        ∀ reminder, request.schedule (services.now t) = .ok reminder →
          ∃ event u, services.freshId.run t = (event.metadata.eventId, u) ∧
            event.reminder = reminder ∧
            services.Announcement
              ((Registration.subscriptions earlier).filter (·.kind = ReminderSet.kind))
              ((Registration.subscriptions later).filter (·.kind = ReminderSet.kind))
              request event token u r s' journal := by
  obtain ⟨consumer, resolved, built⟩ := buildAmong_eq_ok_iff.mp built
  obtain ⟨w, hw, watched⟩ := exists_buildWatched resolved built
  have gate := gate_quiet (C := C.withReminders) (k := .setReminder)
    (policy_of_buildWatched built watched) request token
  obtain ⟨handler, subscribers⟩ := registries_of_build_between kept built
  obtain ⟨handler', subscribers'⟩ := registries_of_build_between
    (s := services.watched.keeper consumer) (Registration.handler_not_mem_quiet kept) watched
  rw [Registration.subscriptions_ofKind_quiet, Registration.subscriptions_ofKind_quiet]
    at subscribers'
  refine ⟨w, hw, ?_⟩
  rcases verdict : (m.gate (C := C.withReminders) (k := .setReminder) request token).exec s with
    ⟨f | _, t⟩
  · have verdict' : (w.gate (C := C.withReminders) (k := .setReminder) request token).exec
        ⟨s, []⟩ = (.error f, ⟨t, []⟩) := by
      rw [gate, Task.exec_quiet, verdict]
    refine ⟨.error f, t, [], exec_send_of_refused verdict, exec_send_of_refused verdict', ?_, ?_⟩
    · rintro _ _ ⟨⟩
      exact ⟨rfl, rfl, rfl⟩
    · nofun
  · have verdict' : (w.gate (C := C.withReminders) (k := .setReminder) request token).exec
        ⟨s, []⟩ = (.ok (), ⟨t, []⟩) := by
      rw [gate, Task.exec_quiet, verdict]
    have sent := exec_send_of_admitted verdict handler
    have sent' := exec_send_of_admitted verdict' handler'
    cases scheduled : request.schedule (services.now t) with
    | error refusal =>
        refine ⟨.error refusal.failure, t, [],
          sent.trans (Services.exec_setReminder_of_error scheduled),
          sent'.trans (Services.exec_setReminder_of_error scheduled), nofun, ?_⟩
        rintro _ ⟨⟩
        constructor
        · intro _ h
          cases scheduled.symm.trans h
          exact ⟨rfl, rfl, rfl⟩
        · intro _ h
          cases scheduled.symm.trans h
    | ok reminder =>
        obtain ⟨r, s', journal, answer, answer', announcement⟩ :=
          Services.exec_setReminder_announces subscribers subscribers' scheduled token
        refine ⟨r, s', journal, sent.trans answer, sent'.trans answer', nofun, ?_⟩
        rintro _ ⟨⟩
        constructor
        · intro _ h
          cases scheduled.symm.trans h
        · intro _ h
          cases scheduled.symm.trans h
          exact ⟨services.eventOf request reminder t, _, rfl, rfl, announcement⟩

/-- A subscriber that cancels the token of every event. -/
def cancelling : List (Registration Catalog.empty.withReminders Signals) :=
  [.subscription ⟨⟨"canceller", by decide, by decide⟩, .reminderSet,
    fun _ token => modify (·.cancel token)⟩]

/-- Services whose clock stands still and whose repository takes everything. -/
def idle : Services Signals := ⟨fun _ => .epoch, pure ⟨1⟩, fun _ _ => pure ()⟩

/-- A request that idle services can schedule. -/
def nextDay : SetReminder :=
  ⟨⟨2⟩, ⟨⟨3⟩⟩, ⟨4⟩, "tea", { Timestamp.epoch with day := 1, day_mem := by decide }⟩

/-- A request that is let in and can be scheduled does not reach the repository if a subscriber
cancels the token. -/
theorem setReminder_of_cancelling :
    ∃ m, buildAmong cancelling idle "1.0" [] = .ok m ∧ ∃ w journal,
      buildWatched cancelling idle "1.0" [] = .ok w ∧
      (w.send (C := Catalog.empty.withReminders) (k := .setReminder) nextDay ⟨0⟩).exec
        ⟨.empty, []⟩ = (.error .cancelled, ⟨⟨[⟨0⟩]⟩, journal⟩) ∧
      journal.filterMap Deed.added? = [] := by
  have resolved : Reminder.consumer "1.0" =
      .ok ⟨"Reminder_v1_ReminderSet", by decide, by decide⟩ := by decide +kernel
  obtain ⟨m, built, admitted, answered⟩ : ∃ m, buildAmong cancelling idle "1.0" [] = .ok m ∧
      (m.gate (C := Catalog.empty.withReminders) (k := .setReminder) nextDay ⟨0⟩).exec
        Signals.empty = (.ok (), .empty) ∧
      (m.send (C := Catalog.empty.withReminders) (k := .setReminder) nextDay ⟨0⟩).exec
        Signals.empty = (.error .cancelled, ⟨[⟨0⟩]⟩) :=
    ⟨_, buildAmong_eq_ok_iff.mpr ⟨_, resolved, rfl⟩, rfl, rfl⟩
  obtain ⟨w, hw, r, s', journal, sent, sent', -, goes⟩ :=
    send_setReminder built (fun _ => List.not_mem_nil) nextDay ⟨0⟩ Signals.empty
  rw [answered] at sent
  cases sent
  refine ⟨m, built, w, journal, hw, sent', ?_⟩
  obtain ⟨event, u, -, -, announcement⟩ := (goes _ admitted).2 _ rfl
  rw [announcement.spared_iff]
  rintro ⟨t, passed, live⟩
  rw [← ReminderSet.exec_deliverAll_iff] at passed
  cases passed
  simp [Cancellable.signals] at live

end Mediator

end Reminders
