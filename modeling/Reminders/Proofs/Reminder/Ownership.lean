import Reminders.Proofs.Reminder.Platforms
import Reminders.Proofs.Reminder.Relay
import Reminders.Proofs.Reminder.Scheduling
import Reminders.Proofs.Reminder.Setting

/-!
# Which reminders reach the repository

A mediator handles reminders among other things. The others are discreet: none of them adds to the
repository or publishes that a reminder was set. Then whatever the repository is asked to add was
asked for by a request to set a reminder, on behalf of a user whom the policy accepted, and is a
sound reminder that was scheduled when the request was sent.

What the repository is asked is entered in a journal. A discreet script enters nothing
(`Script.Discreet.silent`), so everything that a plan of discreet parts registers enters nothing of
its own, the keeper of reminders apart (`Mediator.Discreet`). A send then enters reminders only if
it sets one (`Mediator.Discreet.begets_of_send`), and a whole run enters what its sends do
(`Session.journal_after`).
-/

namespace Reminders

variable {C : Catalog} {σ S E α : Type}

/-- A task under watch that enters nothing. -/
abbrev Task.Silent {ε : Type} (task : Task (Watched ε σ) α) : Prop := task.Enters fun _ => False

/-- A platform under watch, whose scripts see the whole state but not the journal. -/
def Platform.watched (services : Services σ) : Platform σ (Watched Deed σ) :=
  ⟨(·.state), fun state w => { w with state }, services.watched⟩

/-- The platform under watch goes in step with the one without. -/
theorem Platform.whole_inStep_watched [Cancellable σ] (services : Services σ) :
    InStep (fun s w => w.state = s) (whole services) (watched services) where
  signals _ _ h := congrArg Cancellable.signals h.symm
  get _ _ h := h.symm
  set _ _ _ _ := rfl
  now _ _ h := congrArg services.now h.symm
  freshId := by
    rintro _ w rfl
    exact ⟨rfl, rfl⟩
  repository reminder token := by
    rintro _ w rfl
    exact ⟨rfl, rfl⟩

namespace Script

/-- A script that adds no reminder and publishes only events that are allowed. -/
def Discreet (allowed : E → Prop) : Script σ E α → Prop
  | .finish _ => True
  | .change _ next => ∀ before, (next before).Discreet allowed
  | .add .. => False
  | .publish event next => allowed event ∧ ∀ result, (next result).Discreet allowed

/-- A discreet script enters nothing if publishing what it is allowed to publish does not. -/
theorem Discreet.silent {services : Services σ} {allowed : E → Prop}
    {publish : E → Task (Watched Deed σ) Unit} (publishes : ∀ e, allowed e → (publish e).Silent)
    {script : Script σ E α} (h : script.Discreet allowed) :
    (script.play (.watched services) publish).Silent := by
  induction script with
  | finish result => exact .ofExcept result
  | change f next ih =>
      apply Task.Enters.bind
      · intro w deed earlier
        exact .inl earlier
      · intro before
        exact ih before (h before)
  | add reminder token next ih => exact h.elim
  | publish event next ih =>
      apply Task.Enters.bind (publishes event h.1).attempt
      intro result
      exact ih result (h.2 result)

end Script

/-- A part of a plan that neither adds to the repository nor publishes that a reminder was set,
apart from the reminders themselves. -/
def Provision.Discreet : Provision C σ → Prop
  | .policy decide => ∀ user requestType, (decide user requestType).Discreet fun _ => True
  | .handler _ handle => ∀ request token, (handle request token).Discreet (·.1 ≠ .reminderSet)
  | .subscription _ _ react => ∀ event token, (react event token).Discreet fun _ => True
  | .reminders _ => True

/-- A step that does not by itself publish that a reminder was set. -/
def Session.Step.Discreet : Session.Step C.withReminders σ → Prop
  | .send .. => True
  | .publish (k := k) .. => k ≠ .reminderSet
  | .meanwhile _ => True

/-- A delivery enters what each of the subscriptions may enter. -/
theorem Subscription.deliverAll_enters {ε : Type} {P : ε → Prop}
    {ss : List (Subscription C (Watched ε σ))} {k : C.EventKey} {event : C.Event k} {token : Token}
    (h : ∀ s ∈ ss, (s.deliver event token).Enters P) :
    (Subscription.deliverAll ss event token).Enters P := by
  induction ss with
  | nil => exact .pure ()
  | cons s ss ih =>
      rw [Subscription.deliverAll_cons]
      apply Task.Enters.bind (h s List.mem_cons_self)
      intro _
      apply ih
      intro s' hs'
      exact h s' (List.mem_cons_of_mem _ hs')

/-- A handler that enters nothing where events other than that of a reminder enter nothing. -/
def Handler.Silent {k : C.withReminders.RequestKey}
    (handler : Handler C.withReminders (Watched Deed σ) k) : Prop :=
  ∀ request context,
    (∀ {k : C.withReminders.EventKey} (event : C.withReminders.Event k), k ≠ .reminderSet →
      (context.publish event).Silent) →
    (handler request context).Silent

/-- The handler of reminders, or one that enters nothing of its own. -/
inductive Handler.Discreet (services : Services σ) :
    {k : C.withReminders.RequestKey} → Handler C.withReminders (Watched Deed σ) k → Prop
  | setReminder : Discreet services services.watched.setReminder
  | other {k : C.withReminders.RequestKey} {handler : Handler C.withReminders (Watched Deed σ) k}
      (silent : handler.Silent) : Discreet services handler

/-- The keeper of reminders, or a subscription that enters nothing. -/
inductive Subscription.Discreet [Cancellable σ] (services : Services σ) :
    Subscription C.withReminders (Watched Deed σ) → Prop
  | keeper (consumer : Consumer.Name) : Discreet services (services.watched.keeper consumer)
  | other {s : Subscription C.withReminders (Watched Deed σ)}
      (silent : ∀ {k : C.withReminders.EventKey} (event : C.withReminders.Event k) (token : Token),
        (s.deliver event token).Silent) :
      Discreet services s

variable [Cancellable σ] {services : Services σ}

namespace Subscription

/-- A subscription that is told by discreet scripts enters nothing. -/
theorem Discreet.of_react {consumer : Consumer.Name} {k : C.withReminders.EventKey}
    {react : C.withReminders.Event k → Token → Task (Watched Deed σ) Unit}
    (silent : ∀ event token, (react event token).Silent) :
    Discreet services ⟨consumer, k, react⟩ := by
  refine .other ?_
  intro k' event token
  by_cases own : k' = k
  · subst own
    rw [deliver_self ⟨consumer, k', react⟩]
    exact silent event token
  · rw [deliver_of_ne _ own]
    exact .throw _

/-- The keeper adds the reminder of an event, and nothing if the event is of another type. -/
theorem Discreet.deliver_reminderSet {s : Subscription C.withReminders (Watched Deed σ)}
    (h : Discreet services s) (event : ReminderSet) (token : Token) :
    (s.deliver (k := .reminderSet) event token).Enters (· = .added event.reminder token) := by
  cases h with
  | other silent =>
      apply (silent (k := .reminderSet) event token).mono
      intro deed none
      exact none.elim
  | keeper consumer =>
      have own : (services.watched.keeper (C := C) consumer).deliver (k := .reminderSet) event
          token = services.watched.keepReminder event token :=
        deliver_self (services.watched.keeper consumer) event token
      rw [own]
      apply Task.Enters.bind (.check token)
      intro _ w e he
      simpa [Services.watched] using he

theorem Discreet.deliver_other {s : Subscription C.withReminders (Watched Deed σ)}
    (h : Discreet services s) {k : C.withReminders.EventKey} (other : k ≠ .reminderSet)
    (event : C.withReminders.Event k) (token : Token) : (s.deliver event token).Silent := by
  cases h with
  | other silent => exact silent event token
  | keeper consumer =>
      rw [deliver_of_ne _ other]
      exact .throw _

end Subscription

/-- A registration of what is discreet. -/
inductive Registration.Discreet (services : Services σ) :
    Registration C.withReminders (Watched Deed σ) → Prop
  | policy {policy : Policy (Watched Deed σ)}
      (silent : ∀ user requestType, (policy user requestType).Silent) :
      Discreet services (.policy policy)
  | handler {k : C.withReminders.RequestKey}
      {handler : Handler C.withReminders (Watched Deed σ) k} (h : handler.Discreet services) :
      Discreet services (.handler k handler)
  | subscription {s : Subscription C.withReminders (Watched Deed σ)} (h : s.Discreet services) :
      Discreet services (.subscription s)

/-- A mediator under watch with nothing but what is discreet. -/
structure Mediator.Discreet (services : Services σ)
    (m : Mediator C.withReminders (Watched Deed σ)) : Prop where
  policy : ∀ user requestType, (m.policy user requestType).Silent
  handler : ∀ {k handler}, m.handler? k = some handler → handler.Discreet services
  subscriptions : ∀ s ∈ m.subscriptions, s.Discreet services

/-- Asking a policy takes no time. -/
def Policy.Prompt (services : Services S) (policy : Policy S) : Prop :=
  ∀ user requestType s, services.now ((policy user requestType).exec s).2 = services.now s

/-- What a request to set a reminder, sent from the state `s`, may have a repository add. -/
structure SetReminder.Begets (services : Services S) (policy : Policy S) (request : SetReminder)
    (s : S) (reminder : Reminder) : Prop where
  sound : reminder.Sound
  user : reminder.user = request.user
  given : reminder.user ≠ .nil
  accepted : ((policy reminder.user requestType).exec s).1 = .ok ()
  /-- The reminder is scheduled when the policy has accepted the user. -/
  created : reminder.createdAt = services.now ((policy reminder.user requestType).exec s).2

namespace Mediator

section Gate

variable [Cancellable S] {m : Mediator C.withReminders S} {request : SetReminder} {token : Token}
variable {s t : S}

/-- What a request that is let in has scheduled may be added on its behalf. -/
theorem begets_of_gate {services : Services S} {reminder : Reminder}
    (admitted : (m.gate (C := C.withReminders) (k := .setReminder) request token).exec s =
      (.ok (), t))
    (scheduled : request.schedule (services.now t) = .ok reminder) :
    request.Begets services m.policy s reminder := by
  obtain ⟨-, given, accepted⟩ :=
    (exec_gate_eq_ok_iff (C := C.withReminders) (k := .setReminder) rfl).mp admitted
  have sound := Reminder.sound_of_schedule scheduled
  obtain ⟨-, rfl⟩ := Reminder.schedule_eq_ok_iff.mp scheduled
  exact ⟨sound, rfl, given, congrArg Prod.fst accepted,
    (congrArg (fun answer => services.now answer.2) accepted).symm⟩

end Gate

namespace Discreet

variable {m m' : Mediator C.withReminders (Watched Deed σ)}

theorem initial : Discreet services (initial : Mediator C.withReminders (Watched Deed σ)) where
  policy user requestType := by
    show (Policy.authenticated user requestType).Silent
    rw [Policy.authenticated_eq_ofExcept]
    exact .ofExcept _
  handler found := nomatch found
  subscriptions := nofun

theorem register (h : m.Discreet services) {r : Registration C.withReminders (Watched Deed σ)}
    (hr : r.Discreet services) (registered : m.register r = .ok m') : m'.Discreet services := by
  obtain ⟨policy, handler, subscriptions⟩ := registries_of_register registered
  cases hr with
  | policy silent =>
      refine ⟨?_, ?_, ?_⟩
      · rw [policy]
        exact silent
      · intro k handler' found
        rw [handler k] at found
        exact h.handler found
      · simpa [subscriptions, Registration.subscription?] using h.subscriptions
  | @handler k' handler' hh =>
      refine ⟨?_, ?_, ?_⟩
      · rw [policy]
        exact h.policy
      · intro k handler'' found
        rw [handler k] at found
        by_cases own : k' = k
        · subst own
          simp only [Registration.handler?, dite_true, Option.some_or, Option.some.injEq] at found
          exact found ▸ hh
        · simp only [Registration.handler?, own, dite_false, Option.none_or] at found
          exact h.handler found
      · simpa [subscriptions, Registration.subscription?] using h.subscriptions
  | subscription hs =>
      refine ⟨?_, ?_, ?_⟩
      · rw [policy]
        exact h.policy
      · intro k handler' found
        rw [handler k] at found
        exact h.handler found
      · intro t member
        rw [subscriptions] at member
        rcases List.mem_append.mp member with earlier | new
        · exact h.subscriptions t earlier
        · cases List.mem_singleton.mp new
          exact hs

theorem registerAll (h : m.Discreet services)
    {rs : List (Registration C.withReminders (Watched Deed σ))}
    (hrs : ∀ r ∈ rs, r.Discreet services) (registered : m.registerAll rs = .ok m') :
    m'.Discreet services := by
  rw [registerAll_eq_foldlM] at registered
  apply Stages.foldlM_keeps _ h registered
  intro m h r hr m' made
  exact h.register (hrs r hr) made

/-- What a discreet part of a plan registers is discreet. -/
theorem provide (h : m.Discreet services) {part : Provision C σ} (discreet : part.Discreet)
    (provided : m.provide (.watched services) part = .ok m') : m'.Discreet services := by
  cases part with
  | policy decide =>
      apply h.register (.policy _) provided
      intro user requestType
      exact (discreet user requestType).silent nofun
  | handler k handle =>
      apply h.register (.handler (.other _)) provided
      intro request context foreign
      apply (discreet request context.token).silent
      intro event other
      exact foreign event.2 other
  | subscription consumer k react =>
      apply h.register (.subscription (.of_react _)) provided
      intro event token
      exact (discreet event token).silent nofun
  | reminders version =>
      obtain ⟨consumer, -, registered⟩ := registerReminders_eq_ok_iff.mp provided
      refine h.registerAll ?_ registered
      intro r hr
      simp only [reminderRegistrations, List.mem_cons, List.not_mem_nil, or_false] at hr
      rcases hr with rfl | rfl
      · exact .handler .setReminder
      · exact .subscription (.keeper consumer)

theorem of_assemble {plan : List (Provision C σ)} (discreet : ∀ part ∈ plan, part.Discreet)
    (assembled : assemble (.watched services) plan = .ok m) : m.Discreet services := by
  apply Stages.foldlM_keeps _ .initial assembled
  intro m h part hpart m' provided
  exact h.provide (discreet part hpart) provided

theorem publish_reminderSet (h : m.Discreet services) (event : ReminderSet) (token : Token) :
    (m.publish (k := .reminderSet) event token).Enters (· = .added event.reminder token) := by
  apply Subscription.deliverAll_enters
  intro s hs
  exact (h.subscriptions s (List.mem_of_mem_filter hs)).deliver_reminderSet event token

theorem publish_other (h : m.Discreet services) {k : C.withReminders.EventKey}
    (other : k ≠ .reminderSet) (event : C.withReminders.Event k) (token : Token) :
    (m.publish event token).Silent := by
  apply Subscription.deliverAll_enters
  intro s hs
  exact (h.subscriptions s (List.mem_of_mem_filter hs)).deliver_other other event token

theorem handler_silent (h : m.Discreet services) {k : C.withReminders.RequestKey}
    {handler : Handler C.withReminders (Watched Deed σ) k} (silent : handler.Silent)
    (request : C.withReminders.Request k) (token : Token) :
    (handler request (m.context token)).Silent := by
  apply silent
  intro k event other
  exact h.publish_other other event token

theorem gate_silent (h : m.Discreet services) {k : C.withReminders.RequestKey}
    (request : C.withReminders.Request k) (token : Token) : (m.gate request token).Silent := by
  apply Task.Enters.bind (.check token)
  intro _
  apply Task.Enters.bind (.ofExcept _)
  intro user?
  cases user? with
  | none => exact .pure ()
  | some user => exact h.policy user _

/-- Setting a reminder enters nothing but the reminder that is scheduled. -/
theorem setReminder_enters (h : m.Discreet services) (request : SetReminder) (token : Token)
    {w : Watched Deed σ} {deed : Deed}
    (entered : deed ∈ ((services.watched.setReminder request (m.context token)).exec w).2.journal) :
    deed ∈ w.journal ∨ ∃ reminder, deed = .added reminder token ∧
      request.schedule (services.watched.now w) = .ok reminder := by
  cases scheduled : request.schedule (services.watched.now w) with
  | error refusal =>
      rw [Services.exec_setReminder_of_error scheduled] at entered
      exact .inl entered
  | ok reminder =>
      rw [Services.exec_setReminder_of_ok scheduled rfl] at entered
      rcases h.publish_reminderSet _ token _ _ entered with earlier | rfl
      · exact .inl earlier
      · exact .inr ⟨reminder, rfl, rfl⟩

/-- What a dispatch enters, the handler enters after the gate. -/
theorem handler_enters (h : m.Discreet services) {k : C.withReminders.RequestKey}
    {request : C.withReminders.Request k} {token : Token} {w : Watched Deed σ} {deed : Deed}
    (entered : deed ∈ ((m.send request token).exec w).2.journal) :
    deed ∈ w.journal ∨ ∃ (handler : Handler C.withReminders (Watched Deed σ) k)
      (t : Watched Deed σ), handler.Discreet services ∧
      (m.gate request token).exec w = (.ok (), t) ∧ (∀ d ∈ t.journal, d ∈ w.journal) ∧
      deed ∈ ((handler request (m.context token)).exec t).2.journal := by
  have silent := h.gate_silent request token w
  simp only [or_false] at silent
  rw [exec_send] at entered
  rcases verdict : (m.gate request token).exec w with ⟨f | _, t⟩
  all_goals rw [verdict] at entered silent
  · exact .inl (silent deed entered)
  · cases found : m.handler? k with
    | none =>
        rw [found] at entered
        exact .inl (silent deed entered)
    | some handler =>
        rw [found] at entered
        exact .inr ⟨handler, t, h.handler found, rfl, silent, entered⟩

/-- A request to set a reminder enters nothing but what it may beget. -/
theorem begets_of_send (h : m.Discreet services) {request : SetReminder} {token : Token}
    {w : Watched Deed σ} {deed : Deed}
    (entered : deed ∈ ((m.send (k := .setReminder) request token).exec w).2.journal) :
    deed ∈ w.journal ∨ ∃ reminder, deed = .added reminder token ∧
      request.Begets services.watched m.policy w reminder := by
  rcases h.handler_enters (k := .setReminder) entered with
    earlier | ⟨handler, t, discreet, admitted, silent, entered⟩
  · exact .inl earlier
  · cases discreet with
    | setReminder =>
        rcases h.setReminder_enters request token entered with earlier | ⟨reminder, rfl, scheduled⟩
        · exact .inl (silent deed earlier)
        · exact .inr ⟨reminder, rfl, begets_of_gate admitted scheduled⟩
    | other quiet =>
        exact .inl (silent deed ((h.handler_silent quiet _ token t deed entered).resolve_right id))

/-- A request of another type enters nothing. -/
theorem send_other (h : m.Discreet services) {k : C.RequestKey} {request : C.Request k}
    {token : Token} : (m.send (C := C.withReminders) (k := .other k) request token).Silent := by
  intro w deed entered
  rcases h.handler_enters (k := .other k) entered with
    earlier | ⟨handler, t, discreet, -, silent, entered⟩
  · exact .inl earlier
  · cases discreet with
    | other quiet =>
        exact .inl (silent deed ((h.handler_silent quiet _ token t deed entered).resolve_right id))

end Discreet

end Mediator

namespace Session

/-- What a discreet step enters is begotten by it. -/
theorem perform_enters {session : Session C.withReminders (Watched Deed σ)}
    (h : session.mediator.Discreet services) {step : Step C.withReminders σ}
    (discreet : step.Discreet) {deed : Deed}
    (entered : deed ∈ (session.perform (step.on (.watched services))).2.state.journal) :
    deed ∈ session.state.journal ∨ ∃ request token reminder,
      step = .send (k := .setReminder) request token ∧ deed = .added reminder token ∧
      SetReminder.Begets services.watched session.mediator.policy request session.state
        reminder := by
  cases step with
  | meanwhile change => exact .inl entered
  | publish event token =>
      exact .inl ((h.publish_other discreet event token _ deed entered).resolve_right id)
  | @send k request token =>
      cases k with
      | other k => exact .inl ((h.send_other _ deed entered).resolve_right id)
      | setReminder =>
          rcases h.begets_of_send entered with earlier | ⟨reminder, rfl, begotten⟩
          · exact .inl earlier
          · exact .inr ⟨request, token, reminder, rfl, rfl, begotten⟩

/-- What a journal tells after discreet steps was begotten by one of them. -/
theorem journal_after {w : Mediator C.withReminders (Watched Deed σ)} (h : w.Discreet services)
    {steps : List (Step C.withReminders σ)} (discreet : ∀ step ∈ steps, step.Discreet) (s : σ)
    {deed : Deed}
    (told : deed ∈ ((mk w ⟨s, []⟩).after (steps.map (·.on (.watched services)))).state.journal) :
    ∃ earlier request token later reminder,
      steps = earlier ++ .send (k := .setReminder) request token :: later ∧
      deed = .added reminder token ∧
      SetReminder.Begets services.watched w.policy request
        ((mk w ⟨s, []⟩).after (earlier.map (·.on (.watched services)))).state reminder := by
  induction steps using List.reverseRecOn with
  | nil => cases told
  | append_singleton steps step ih =>
      rw [List.map_append, List.map_singleton, after_concat] at told
      have inUse := mediator_after (mk w ⟨s, []⟩) (steps.map (·.on (.watched services)))
      rcases perform_enters (inUse ▸ h) (discreet step (by simp)) told with
        before | ⟨request, token, reminder, rfl, rfl, begotten⟩
      · have discreet' : ∀ step ∈ steps, step.Discreet := by
          intro step hstep
          exact discreet step (List.mem_append_left _ hstep)
        obtain ⟨earlier, request, token, later, reminder, rfl, told, begotten⟩ :=
          ih discreet' before
        exact ⟨earlier, request, token, later ++ [step], reminder, by simp, told, begotten⟩
      · rw [inUse] at begotten
        exact ⟨steps, request, token, [], reminder, rfl, rfl, begotten⟩

end Session

omit [Cancellable σ] in
/-- What a request begets under watch it begets without. -/
theorem SetReminder.Begets.of_watched {policy : Policy σ} {policy' : Policy (Watched Deed σ)}
    (policies : Policy.InStep (fun s w => w.state = s) policy policy') {request : SetReminder}
    {w : Watched Deed σ} {reminder : Reminder}
    (h : request.Begets services.watched policy' w reminder) :
    request.Begets services policy w.state reminder := by
  obtain ⟨same, left⟩ := policies reminder.user requestType w.state w rfl
  refine ⟨h.sound, h.user, h.given, same.trans h.accepted, ?_⟩
  rw [h.created, ← left]
  rfl

namespace Mediator

/-- Every reminder that reaches the repository is sound and owned. Let a mediator handle reminders
among other things that are discreet, and let it take discreet steps. Under watch the mediator can
be built as well and comes to the same. Whatever the repository is asked to add is then due to a
request to set a reminder among those steps. It belongs to the user of that request, who is given
and is accepted by the policy in force, it has a proper title, it becomes due later than it was
scheduled, and it was scheduled at the time that the send of the request read. -/
theorem added_is_owned {plan : List (Provision C σ)} (discreet : ∀ part ∈ plan, part.Discreet)
    {m : Mediator C.withReminders σ} (assembled : assemble (.whole services) plan = .ok m)
    {steps : List (Session.Step C.withReminders σ)} (discreetSteps : ∀ step ∈ steps, step.Discreet)
    (s : σ) :
    ∃ w journal, assemble (.watched services) plan = .ok w ∧
      ((Session.mk w ⟨s, []⟩).after (steps.map (·.on (.watched services)))).state =
        ⟨((Session.mk m s).after steps).state, journal⟩ ∧
      ∀ reminder token, .added reminder token ∈ journal →
        ∃ earlier request later,
          steps = earlier ++ .send (k := .setReminder) request token :: later ∧
          request.Begets services m.policy ((Session.mk m s).after earlier).state reminder ∧
          (m.policy.Prompt services →
            reminder.createdAt = services.now ((Session.mk m s).after earlier).state) := by
  have platforms := Platform.whole_inStep_watched services
  obtain ⟨w, assembled', mediators⟩ := (platforms.assemble plan).exists_ok assembled
  have sessions : Session.InStep (fun s w => w.state = s) (Session.mk m s) (Session.mk w ⟨s, []⟩) :=
    ⟨mediators, rfl⟩
  have reached (steps : List (Session.Step C.withReminders σ)) :
      ((Session.mk w ⟨s, []⟩).after (steps.map (·.on (.watched services)))).state.state =
        ((Session.mk m s).after steps).state := by
    have together := (sessions.after platforms.signals (platforms.steps steps)).state
    simpa using together
  refine ⟨w, _, assembled', congrArg (Watched.mk · _) (reached steps), ?_⟩
  intro reminder token told
  obtain ⟨earlier, request, _, later, _, split, same, begotten⟩ :=
    Session.journal_after (.of_assemble discreet assembled') discreetSteps s told
  cases same
  have begotten := begotten.of_watched mediators.policy
  rw [reached] at begotten
  refine ⟨earlier, request, later, split, begotten, ?_⟩
  intro prompt
  rw [begotten.created, prompt]

/-- Reminders, and a policy that accepts one user only. -/
def guarded : List (Provision Catalog.empty Signals) :=
  [.reminders "1.0", .policy fun user _ =>
    .finish (if user = nextDay.user then .ok () else .error (.authorization "unknown user"))]

/-- Two users ask for a reminder, the one whom the policy does not accept first. -/
def contested : List (Session.Step Catalog.empty.withReminders Signals) :=
  [.send (k := .setReminder) { nextDay with user := ⟨⟨5⟩⟩ } ⟨0⟩,
    .send (k := .setReminder) nextDay ⟨0⟩]

/-- Only the reminder of the other user reaches the repository. -/
theorem owned_of_contested :
    ∃ m w, assemble (.whole idle) guarded = .ok m ∧ assemble (.watched idle) guarded = .ok w ∧
      ((Session.mk w ⟨.empty, []⟩).after (contested.map (·.on (.watched idle)))).state.journal =
        [.added ⟨⟨4⟩, nextDay.user, "tea", nextDay.remindAt, .epoch⟩ ⟨0⟩] ∧
      ∃ earlier request later,
        contested = earlier ++ .send (k := .setReminder) request ⟨0⟩ :: later ∧
        SetReminder.Begets idle m.policy request ((Session.mk m .empty).after earlier).state
          ⟨⟨4⟩, nextDay.user, "tea", nextDay.remindAt, .epoch⟩ := by
  have resolved : Reminder.consumer "1.0" =
      .ok ⟨"Reminder_v1_ReminderSet", by decide, by decide⟩ := by decide +kernel
  obtain ⟨m, assembled⟩ : ∃ m, assemble (.whole idle) guarded = .ok m :=
    ⟨_, Stages.foldlM_cons_eq_ok_iff.mpr
      ⟨_, registerReminders_eq_ok_iff.mpr ⟨_, resolved, rfl⟩, rfl⟩⟩
  obtain ⟨w, assembled', told⟩ : ∃ w, assemble (.watched idle) guarded = .ok w ∧
      ((Session.mk w ⟨.empty, []⟩).after (contested.map (·.on (.watched idle)))).state.journal =
        [.added ⟨⟨4⟩, nextDay.user, "tea", nextDay.remindAt, .epoch⟩ ⟨0⟩] :=
    ⟨_, Stages.foldlM_cons_eq_ok_iff.mpr
      ⟨_, registerReminders_eq_ok_iff.mpr ⟨_, resolved, rfl⟩, rfl⟩, rfl⟩
  have discreet : ∀ part ∈ guarded, part.Discreet := by
    simp [guarded, Provision.Discreet, Script.Discreet]
  have discreetSteps : ∀ step ∈ contested, step.Discreet := by
    simp [contested, Session.Step.Discreet]
  obtain ⟨w', journal, assembled'', run, owned⟩ :=
    added_is_owned discreet assembled discreetSteps .empty
  cases assembled'.symm.trans assembled''
  refine ⟨m, w, assembled, assembled', told, ?_⟩
  rw [run] at told
  dsimp only at told
  subst told
  obtain ⟨earlier, request, later, split, begotten, -⟩ := owned _ _ List.mem_cons_self
  exact ⟨earlier, request, later, split, begotten⟩

end Mediator

end Reminders
