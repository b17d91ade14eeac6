import Reminders.Proofs.Reminder.Plan
import Reminders.Proofs.Reminder.Versions
import Reminders.Proofs.Store.Keeping
import Reminders.Store.Recording

/-!
# One copy for each version

Where reminders are registered in several versions of the API, every version adds each reminder that
is set. `Services.Takes` says that a repository takes a reminder a number of times. A recording
store has it then as often, and a store in memory once.
-/

namespace Reminders

open Consumer.Version (WellFormed Alike)

variable {C : Catalog} {S σ : Type}

namespace Services

/-- A repository takes a reminder a number of times, the token being live each time. The number is
followed by the states before and afterwards. -/
inductive Takes [Cancellable S] (services : Services S) (reminder : Reminder) (token : Token) :
    Nat → S → S → Prop
  | zero (s : S) : Takes services reminder token 0 s s
  | succ {n : Nat} {s t u : S} (live : (Cancellable.signals s).isCancelled token = false)
      (adds : (services.repository reminder token).exec s = (.ok (), t))
      (rest : Takes services reminder token n t u) : Takes services reminder token (n + 1) s u

namespace Takes

variable [Cancellable S] [Cancellable σ] {reminder : Reminder} {token : Token} {n : Nat}

/-- Under watch, the journal tells how often the repository takes the reminder. -/
theorem watched {services : Services S} {s s' : S} (h : services.Takes reminder token n s s')
    (journal : List Deed) :
    services.watched.Takes reminder token n ⟨s, journal⟩
      ⟨s', journal ++ List.replicate n (.added reminder token)⟩ := by
  induction h generalizing journal with
  | zero s =>
      rw [List.replicate_zero, List.append_nil]
      exact .zero _
  | @succ n s t u live adds _ ih =>
      have entered : (services.watched.repository reminder token).exec ⟨s, journal⟩ =
          (.ok (), ⟨t, journal ++ [.added reminder token]⟩) := by
        simp [Services.watched, adds]
      have rest := ih (journal ++ [.added reminder token])
      rw [List.append_assoc, List.singleton_append, ← List.replicate_succ] at rest
      exact .succ live entered rest

variable (now : σ → Timestamp) (freshId : StateM σ Uuid)

/-- A recording store takes a reminder any number of times, and has it as often. -/
theorem recording {s : Stocked (Recording Reminder) σ}
    (live : (Cancellable.signals s).isCancelled token = false) (n : Nat) :
    ∃ s', (stocked now freshId Recording.add).Takes reminder token n s s' ∧
      s'.store.added.toList = s.store.added.toList ++ List.replicate n reminder := by
  induction n generalizing s with
  | zero => exact ⟨s, .zero s, by simp⟩
  | succ n ih =>
      have added : s.store.add (Cancellable.signals s) reminder token =
          (.ok (), ⟨s.store.added.push reminder⟩) := by
        rw [Recording.add, if_neg (by simp [live])]
      obtain ⟨s', rest, copies⟩ := ih (s := { s with store := ⟨s.store.added.push reminder⟩ }) live
      refine ⟨s', .succ live ?_ rest, ?_⟩
      · simp [stocked, added]
      · simp [copies, List.replicate_succ]

section InMemory

variable {s : Stocked (InMemory Reminder) σ} {kept : List Reminder}

/-- A store in memory that knows a reminder takes it any number of times, and does not change. -/
theorem inMemory_of_known (live : (Cancellable.signals s).isCancelled token = false)
    (holds : s.store.Holds kept) (known : reminder.id ∈ kept.map Entity.id) (n : Nat) :
    (stocked now freshId InMemory.add).Takes reminder token n s s := by
  induction n with
  | zero => exact .zero s
  | succ n ih =>
      refine .succ live ?_ ih
      simp [stocked, holds.add_of_known live known]

/-- A store in memory keeps a new reminder once, however often it takes it. -/
theorem inMemory_of_new (live : (Cancellable.signals s).isCancelled token = false)
    (holds : s.store.Holds kept) (new : reminder.id ∉ kept.map Entity.id) (n : Nat) :
    ∃ s', (stocked now freshId InMemory.add).Takes reminder token (n + 1) s s' ∧
      s'.store.Holds (kept ++ [reminder]) := by
  obtain ⟨store, added, holds'⟩ := holds.add_of_new live new
  have first : ((stocked now freshId InMemory.add).repository reminder token).exec s =
      (.ok (), { s with store }) := by
    simp [stocked, added]
  have known : reminder.id ∈ (kept ++ [reminder]).map Entity.id := by
    simp [Entity.id]
  have others := inMemory_of_known (s := { s with store }) now freshId live holds' known n
  exact ⟨{ s with store }, .succ live first others, holds'⟩

end InMemory

/-- An event reaches all keepers of reminders if the repository takes the reminder from each. -/
theorem exec_deliverAll {services : Services S} {event : ReminderSet}
    {names : List Consumer.Name} {s s' : S}
    (h : services.Takes event.reminder token names.length s s') :
    (event.deliverAll (names.map (services.keeper (C := C))) token).exec s = (.ok (), s') := by
  induction names generalizing s with
  | nil =>
      cases h
      rfl
  | cons name names ih =>
      cases h with
      | succ live adds rest =>
          have passed : event.Delivered (C := C) [] token s (.ok ()) s :=
            ReminderSet.exec_deliverAll_iff.mp rfl
          have success : services.Success [] (names.map (services.keeper (C := C))) event token
              s s' :=
            ⟨s, _, ⟨passed, live⟩, adds, ReminderSet.exec_deliverAll_iff.mp (ih rest)⟩
          exact (exec_deliverAll_eq_ok_iff name).mpr success

end Takes

end Services

namespace Mediator

variable [Cancellable S] [Cancellable σ]

/-- A request to set a reminder is handled as such, is let in and can be scheduled. The event of the
reminder, which has the identifier `eventId`, is then published in the state `u`. -/
def Schedules (services : Services S) (m : Mediator C.withReminders S) (request : SetReminder)
    (token : Token) (s : S) (reminder : Reminder) (eventId : Uuid) (u : S) : Prop :=
  m.handler? .setReminder = some services.setReminder ∧ ∃ t,
    (m.gate (C := C.withReminders) (k := .setReminder) request token).exec s = (.ok (), t) ∧
    request.schedule (services.now t) = .ok reminder ∧ services.freshId.run t = (eventId, u)

section Built

variable {services : Services S} {m : Mediator C.withReminders S} {names : List Consumer.Name}
variable {request : SetReminder} {token : Token} {s u : S} {reminder : Reminder} {eventId : Uuid}
variable (built : build (names.flatMap (reminderRegistrations services)) = .ok m)
include built

/-- Nothing but the registration of versions touches the policy that a mediator begins with, which
does not change the state. -/
theorem schedules_iff_of_versions :
    m.Schedules services request token s reminder eventId u ↔
      names ≠ [] ∧ (Cancellable.signals s).isCancelled token = false ∧ request.user ≠ .nil ∧
        request.schedule (services.now s) = .ok reminder ∧
        services.freshId.run s = (eventId, u) := by
  have admitted (t : S) : (m.gate (C := C.withReminders) (k := .setReminder) request token).exec
      s = (.ok (), t) ↔ (Cancellable.signals s).isCancelled token = false ∧
        request.user ≠ .nil ∧ t = s := by
    refine (exec_gate_eq_ok_iff (C := C.withReminders) (k := .setReminder) rfl).trans ?_
    apply and_congr_right
    intro _
    apply and_congr_right
    intro given
    rw [policy_of_versions built, Policy.authenticated_of_ne_nil given]
    simp [eq_comm]
  rw [Schedules, handler_iff_of_versions built]
  simp only [admitted]
  apply and_congr_right
  intro _
  constructor
  · rintro ⟨_, ⟨live, given, rfl⟩, scheduled, drawn⟩
    exact ⟨live, given, scheduled, drawn⟩
  · rintro ⟨live, given, scheduled, drawn⟩
    exact ⟨s, ⟨live, given, rfl⟩, scheduled, drawn⟩

/-- Setting a reminder succeeds if the repository takes it once for each version. -/
theorem send_of_takes (schedules : m.Schedules services request token s reminder eventId u) {s' : S}
    (takes : services.Takes reminder token names.length u s') :
    (m.send (C := C.withReminders) (k := .setReminder) request token).exec s =
      (.ok (⟨reminder.id, eventId⟩ : SetReminder.Outcome), s') := by
  obtain ⟨handled, t, admitted, scheduled, drawn⟩ := schedules
  have drawn₁ : (services.freshId.run t).1 = eventId := congrArg Prod.fst drawn
  have drawn₂ : (services.freshId.run t).2 = u := congrArg Prod.snd drawn
  subst drawn₁ drawn₂
  have published := (ReminderSet.exec_publish (subscribers_of_versions built)
    (services.eventOf request reminder t) token _).trans (Services.Takes.exec_deliverAll takes)
  exact (exec_send_of_admitted admitted handled).trans
    (Services.exec_setReminder_of_ok scheduled published)

end Built

section Registered

variable {services : Services S} {m : Mediator C.withReminders S} {versions : List String}
variable {request : SetReminder} {token : Token} {s u s' : S} {reminder : Reminder}
variable {eventId : Uuid}

theorem schedules_iff_of_registerVersions
    (registered : registerVersions services versions = .ok m) :
    m.Schedules services request token s reminder eventId u ↔
      versions ≠ [] ∧ (Cancellable.signals s).isCancelled token = false ∧ request.user ≠ .nil ∧
        request.schedule (services.now s) = .ok reminder ∧
        services.freshId.run s = (eventId, u) := by
  obtain ⟨names, consumers, built⟩ := registerVersions_eq_ok_iff.mp registered
  rw [schedules_iff_of_versions built, ← List.length_pos_iff, ← List.length_pos_iff,
    consumers.length_eq]

theorem send_of_registerVersions (registered : registerVersions services versions = .ok m)
    (schedules : m.Schedules services request token s reminder eventId u)
    (takes : services.Takes reminder token versions.length u s') :
    (m.send (C := C.withReminders) (k := .setReminder) request token).exec s =
      (.ok (⟨reminder.id, eventId⟩ : SetReminder.Outcome), s') := by
  obtain ⟨names, consumers, built⟩ := registerVersions_eq_ok_iff.mp registered
  rw [consumers.length_eq] at takes
  exact send_of_takes built schedules takes

/-- Under watch, the repository is asked once for each version. -/
theorem exists_watched_of_registerVersions
    (registered : registerVersions services versions = .ok m)
    (schedules : m.Schedules services request token s reminder eventId u)
    (takes : services.Takes reminder token versions.length u s') :
    ∃ w, registerVersions (C := C) services.watched versions = .ok w ∧
      (w.send (C := C.withReminders) (k := .setReminder) request token).exec ⟨s, []⟩ =
        (.ok (⟨reminder.id, eventId⟩ : SetReminder.Outcome),
          ⟨s', List.replicate versions.length (.added reminder token)⟩) := by
  obtain ⟨w, watched⟩ := (exists_registerVersions_iff (C := C) services.watched).mpr
    ((exists_registerVersions_iff services).mp ⟨m, registered⟩)
  obtain ⟨given, live, user, scheduled, drawn⟩ :=
    (schedules_iff_of_registerVersions registered).mp schedules
  have drawn' : services.watched.freshId.run ⟨s, []⟩ = (eventId, ⟨u, []⟩) := by
    rw [Services.run_freshId_watched, drawn]
  have schedules' : w.Schedules services.watched request token ⟨s, []⟩ reminder eventId ⟨u, []⟩ :=
    (schedules_iff_of_registerVersions watched).mpr ⟨given, live, user, scheduled, drawn'⟩
  exact ⟨w, watched, send_of_registerVersions watched schedules' (takes.watched [])⟩

/-- Up to the publication of the event, no store is touched. -/
theorem store_of_schedules {ρ : Type} {now : σ → Timestamp} {freshId : StateM σ Uuid}
    {add : Signals → Reminder → Token → ρ → Except Failure Unit × ρ}
    {m : Mediator C.withReminders (Stocked ρ σ)} {s u : Stocked ρ σ}
    (registered : registerVersions (.stocked now freshId add) versions = .ok m)
    (schedules : m.Schedules (.stocked now freshId add) request token s reminder eventId u) :
    u.store = s.store := by
  obtain ⟨-, -, -, -, drawn⟩ := (schedules_iff_of_registerVersions registered).mp schedules
  rw [Services.run_freshId_stocked] at drawn
  cases drawn
  rfl

end Registered

/-- What becomes of reminders that are registered in versions of the API, one after the other. They
are all accepted if the versions are well formed and no two of them are alike; otherwise the first
version that offends is refused, and the building with it. The mediator lists a consumer for each
version, in their order, whose name tells the version. When a request to set a reminder is handled,
let in and scheduled, and the repository takes the reminder whenever it is asked, it is asked once
for each version. A recording store has the reminder then as often, and a store in memory that did
not know it has it once. -/
theorem reminders_in_versions (services : Services S) (versions : List String) :
    ((∃ m, registerVersions (C := C) services versions = .ok m) ↔
      (∀ version ∈ versions, WellFormed version) ∧
      versions.Pairwise fun version version' => ¬ Alike version version') ∧
    (∀ f, registerVersions (C := C) services versions = .error f ↔
      ∃ earlier version later, versions = earlier ++ version :: later ∧
        (∀ version ∈ earlier, WellFormed version) ∧
        (earlier.Pairwise fun version version' => ¬ Alike version version') ∧
        Reminder.Offends earlier version f) ∧
    (∀ m, registerVersions (C := C) services versions = .ok m →
      List.Forall₂ (fun version listing => listing.kind = ReminderSet.kind ∧
        Reminder.Names version listing.consumer.text) versions m.listings) ∧
    (∀ m, registerVersions (C := C) services versions = .ok m →
      ∀ request token s reminder eventId u s',
        m.Schedules services request token s reminder eventId u →
        services.Takes reminder token versions.length u s' →
        (m.send (C := C.withReminders) (k := .setReminder) request token).exec s =
            (.ok (⟨reminder.id, eventId⟩ : SetReminder.Outcome), s') ∧
          ∃ w, registerVersions (C := C) services.watched versions = .ok w ∧
            (w.send (C := C.withReminders) (k := .setReminder) request token).exec ⟨s, []⟩ =
              (.ok (⟨reminder.id, eventId⟩ : SetReminder.Outcome),
                ⟨s', List.replicate versions.length (.added reminder token)⟩)) ∧
    (∀ (now : σ → Timestamp) (freshId : StateM σ Uuid) m,
      registerVersions (C := C) (.stocked now freshId Recording.add) versions = .ok m →
      ∀ request token s reminder eventId u,
        m.Schedules (.stocked now freshId Recording.add) request token s reminder eventId u →
        (Cancellable.signals u).isCancelled token = false →
        ∃ s', (m.send (C := C.withReminders) (k := .setReminder) request token).exec s =
            (.ok (⟨reminder.id, eventId⟩ : SetReminder.Outcome), s') ∧
          s'.store.added.toList =
            s.store.added.toList ++ List.replicate versions.length reminder) ∧
    (∀ (now : σ → Timestamp) (freshId : StateM σ Uuid) m,
      registerVersions (C := C) (.stocked now freshId InMemory.add) versions = .ok m →
      ∀ request token s reminder eventId u kept,
        m.Schedules (.stocked now freshId InMemory.add) request token s reminder eventId u →
        (Cancellable.signals u).isCancelled token = false →
        s.store.Holds kept → reminder.id ∉ kept.map Reminder.id →
        ∃ s', (m.send (C := C.withReminders) (k := .setReminder) request token).exec s =
            (.ok (⟨reminder.id, eventId⟩ : SetReminder.Outcome), s') ∧
          s'.store.Holds (kept ++ [reminder])) := by
  refine ⟨exists_registerVersions_iff services, fun _ => registerVersions_eq_error_iff, ?_, ?_, ?_,
    ?_⟩
  · intro m registered
    obtain ⟨names, consumers, built⟩ := registerVersions_eq_ok_iff.mp registered
    rw [listings_of_versions built, List.forall₂_map_right_iff]
    exact consumers.named.imp fun _ _ told => ⟨rfl, told⟩
  · intro m registered request token s reminder eventId u s' schedules takes
    exact ⟨send_of_registerVersions registered schedules takes,
      exists_watched_of_registerVersions registered schedules takes⟩
  · intro now freshId m registered request token s reminder eventId u schedules live
    obtain ⟨s', takes, copies⟩ := Services.Takes.recording now freshId live versions.length
    refine ⟨s', send_of_registerVersions registered schedules takes, ?_⟩
    rw [copies, store_of_schedules registered schedules]
  · intro now freshId m registered request token s reminder eventId u kept schedules live holds new
    obtain ⟨given, -⟩ := (schedules_iff_of_registerVersions registered).mp schedules
    obtain ⟨n, more⟩ := Nat.exists_eq_succ_of_ne_zero (mt List.length_eq_zero_iff.mp given)
    rw [← store_of_schedules registered schedules] at holds
    obtain ⟨s', takes, holds'⟩ := Services.Takes.inMemory_of_new now freshId live holds new n
    rw [← Nat.succ_eq_add_one, ← more] at takes
    exact ⟨s', send_of_registerVersions registered schedules takes, holds'⟩

/-- Zeros count in the first place only: they tell `0` from `00`, but not ` 1.00 ` from `1`. With
two versions a recording store is given a reminder twice, and a store in memory has it once. -/
theorem versions_of_zeros :
    (∃ m, registerVersions (C := Catalog.empty) idle ["0", "00"] = .ok m ∧
      (m.listings.map fun listing => (listing.kind, listing.consumer.text)) =
        [("reminders.reminder_set", "Reminder_v0_ReminderSet"),
          ("reminders.reminder_set", "Reminder_v00_ReminderSet")]) ∧
    registerVersions (C := Catalog.empty) idle ["1", " 1.00 ", ""] = .error (.configuration
      "consumer Reminder_v1_ReminderSet is already subscribed to reminders.reminder_set") ∧
    (∃ m s' outcome, registerVersions (C := Catalog.empty)
        (.stocked idle.now idle.freshId Recording.add) ["0", "00"] = .ok m ∧
      (m.send (C := Catalog.empty.withReminders) (k := .setReminder) nextDay ⟨0⟩).exec
        ⟨.empty, .empty⟩ = (.ok outcome, s') ∧
      s'.store.added.toList = [⟨⟨4⟩, nextDay.user, "tea", nextDay.remindAt, .epoch⟩,
        ⟨⟨4⟩, nextDay.user, "tea", nextDay.remindAt, .epoch⟩]) ∧
    ∃ m s' outcome, registerVersions (C := Catalog.empty)
        (.stocked idle.now idle.freshId InMemory.add) ["0", "00"] = .ok m ∧
      (m.send (C := Catalog.empty.withReminders) (k := .setReminder) nextDay ⟨0⟩).exec
        ⟨.empty, .empty⟩ = (.ok outcome, s') ∧
      s'.store.Holds [⟨⟨4⟩, nextDay.user, "tea", nextDay.remindAt, .epoch⟩] := by
  have wellFormed : ∀ version ∈ ["0", "00", "1", " 1.00 "], WellFormed version := by
    simp only [← Consumer.Version.all_isComponent_iff]
    decide
  have zeros : ∀ version ∈ ["0", "00"], WellFormed version :=
    fun version member => wellFormed version (List.mem_append_left ["1", " 1.00 "] member)
  have scheduled : nextDay.schedule .epoch =
      .ok ⟨⟨4⟩, nextDay.user, "tea", nextDay.remindAt, .epoch⟩ := by decide +kernel
  have given : nextDay.user ≠ .nil := by decide
  refine ⟨?_, ?_, ?_, ?_⟩
  · obtain ⟨built, -, listed, -⟩ :=
      reminders_in_versions (C := Catalog.empty) (σ := Signals) idle ["0", "00"]
    obtain ⟨m, registered⟩ := built.mpr ⟨zeros, by decide⟩
    refine ⟨m, registered, ?_⟩
    have listed := listed m registered
    generalize m.listings = listings at listed ⊢
    rcases listed with _ | ⟨⟨kind, told⟩, _ | ⟨⟨kind', told'⟩, ⟨⟩⟩⟩
    simp only [List.map_cons, List.map_nil, kind, kind', Reminder.names_iff.mp told,
      Reminder.names_iff.mp told']
    decide
  · obtain ⟨-, refused, -⟩ :=
      reminders_in_versions (C := Catalog.empty) (σ := Signals) idle ["1", " 1.00 ", ""]
    have alike : Alike "1" " 1.00 " := by decide
    have told : Reminder.Names " 1.00 " "Reminder_v1_ReminderSet" := by decide
    refine (refused _).mpr ⟨["1"], " 1.00 ", [""], rfl, ?_, List.pairwise_singleton _ _, ?_⟩
    · simpa using wellFormed "1" (by decide)
    · exact .repeated (wellFormed " 1.00 " (by decide)) (.head _) alike told
  · obtain ⟨built, -, -, -, recorded, -⟩ := reminders_in_versions (C := Catalog.empty)
      (σ := Signals) (.stocked idle.now idle.freshId Recording.add) ["0", "00"]
    obtain ⟨m, registered⟩ := built.mpr ⟨zeros, by decide⟩
    have schedules : m.Schedules (.stocked idle.now idle.freshId Recording.add) nextDay ⟨0⟩
        ⟨.empty, .empty⟩ _ _ _ :=
      (schedules_iff_of_registerVersions registered).mpr
        ⟨by decide, rfl, given, scheduled, rfl⟩
    obtain ⟨s', sent, copies⟩ := recorded _ _ m registered _ _ _ _ _ _ schedules rfl
    exact ⟨m, s', _, registered, sent, copies⟩
  · obtain ⟨built, -, -, -, -, kept⟩ := reminders_in_versions (C := Catalog.empty)
      (σ := Signals) (.stocked idle.now idle.freshId InMemory.add) ["0", "00"]
    obtain ⟨m, registered⟩ := built.mpr ⟨zeros, by decide⟩
    have schedules : m.Schedules (.stocked idle.now idle.freshId InMemory.add) nextDay ⟨0⟩
        ⟨.empty, .empty⟩ _ _ _ :=
      (schedules_iff_of_registerVersions registered).mpr
        ⟨by decide, rfl, given, scheduled, rfl⟩
    obtain ⟨s', sent, holds⟩ := kept _ _ m registered _ _ _ _ _ _ [] schedules rfl
      InMemory.holds_empty List.not_mem_nil
    exact ⟨m, s', _, registered, sent, holds⟩

end Mediator

end Reminders
