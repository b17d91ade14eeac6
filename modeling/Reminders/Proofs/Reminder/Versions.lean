import Mathlib.Data.List.Nodup
import Reminders.Proofs.Mediator.Listings
import Reminders.Proofs.Reminder.Naming
import Reminders.Proofs.Reminder.Setting

/-!
# Reminders in several versions

The reminders can be registered in several versions of the API, one after the other, with the same
services. Each version has a consumer of its own, and each consumer keeps the reminder of every
event. So no two versions may be alike, and a reminder that is set is added once
for every version: `Services.Takes` says that a repository takes it so often.
-/

namespace Reminders

open Consumer.Version (WellFormed Alike)
open Text (trim)

variable {C : Catalog} {S σ : Type}

namespace Reminder

/-- Why a version of the API is refused after earlier ones. -/
inductive Offends (earlier : List String) (version : String) : Failure → Prop where
  | empty (blank : trim version.toList = []) :
      Offends earlier version (.configuration "api version is empty")
  | malformed (given : trim version.toList ≠ []) (malformed : ¬ WellFormed version) :
      Offends earlier version
        (.configuration ("api version " ++ Text.quoted version ++ " is malformed"))
  | repeated {version' text : String} (wellFormed : WellFormed version)
      (known : version' ∈ earlier) (alike : Alike version' version) (named : Names version text) :
      Offends earlier version (.configuration ("consumer " ++ text ++
        " is already subscribed to " ++ ReminderSet.kind))

/-- The names of the consumers in versions of the API. -/
abbrev Consumers (versions : List String) (names : List Consumer.Name) : Prop :=
  List.Forall₂ (fun version name => consumer version = .ok name) versions names

namespace Consumers

variable {versions : List String} {names : List Consumer.Name}

theorem wellFormed (h : Consumers versions names) : ∀ version ∈ versions, WellFormed version := by
  induction h with
  | nil => nofun
  | cons first _ ih => exact List.forall_mem_cons.mpr ⟨(consumer_eq_ok_iff.mp first).1, ih⟩

theorem texts (h : Consumers versions names) :
    names.map (·.text) = versions.map consumerText := by
  induction h with
  | nil => rfl
  | cons first _ ih => rw [List.map_cons, List.map_cons, ih, (consumer_eq_ok_iff.mp first).2]

theorem exists_of_wellFormed (h : ∀ version ∈ versions, WellFormed version) :
    ∃ names, Consumers versions names := by
  induction versions with
  | nil => exact ⟨[], .nil⟩
  | cons version versions ih =>
      obtain ⟨first, others⟩ := List.forall_mem_cons.mp h
      obtain ⟨name, named⟩ := exists_consumer first
      obtain ⟨names, rest⟩ := ih others
      exact ⟨name :: names, .cons named rest⟩

/-- The consumers differ if no two versions are alike. -/
theorem nodup_iff (h : Consumers versions names) :
    names.Nodup ↔ versions.Pairwise fun version version' => ¬ Alike version version' := by
  rw [← List.nodup_map_iff fun _ _ => Consumer.Name.text_inj.mp, h.texts, List.Nodup,
    List.pairwise_map]
  apply List.Pairwise.iff_of_mem
  intro version version' member member'
  exact not_congr (consumerText_eq_iff (h.wellFormed _ member) (h.wellFormed _ member'))

theorem mem_iff (h : Consumers versions names) {version : String} {name : Consumer.Name}
    (named : consumer version = .ok name) :
    name ∈ names ↔ ∃ version' ∈ versions, Alike version' version := by
  obtain ⟨wellFormed, text⟩ := consumer_eq_ok_iff.mp named
  rw [← List.mem_map_of_injective fun _ _ => Consumer.Name.text_inj.mp, h.texts, text,
    List.mem_map]
  apply exists_congr
  intro version'
  apply and_congr_right
  intro member
  exact consumerText_eq_iff (h.wellFormed _ member) wellFormed

/-- The name of each consumer tells its version. -/
theorem named (h : Consumers versions names) :
    List.Forall₂ (fun version name => Names version name.text) versions names :=
  h.imp fun _ _ resolved => names_iff.mpr (consumer_eq_ok_iff.mp resolved).2

end Consumers

end Reminder

namespace Mediator

variable [Cancellable S]

/-- The mediator that handles reminders in versions of the API, and nothing else. -/
def registerVersions (services : Services S) (versions : List String) :
    Except Failure (Mediator C.withReminders S) :=
  versions.foldlM (fun m version => m.registerReminders services version) initial

variable {services : Services S} {m m₀ : Mediator C.withReminders S} {versions : List String}
variable {version : String} {names : List Consumer.Name}

/-- Versions of the API are registered if their consumers are. -/
theorem foldlM_registerReminders_eq_ok_iff :
    versions.foldlM (fun m version => m.registerReminders services version) m₀ = .ok m ↔
      ∃ names, Reminder.Consumers versions names ∧
        m₀.registerAll (names.flatMap (reminderRegistrations services)) = .ok m := by
  induction versions generalizing m₀ with
  | nil => simp [registerAll, pure, Except.pure]
  | cons version versions ih =>
      rw [Stages.foldlM_cons_eq_ok_iff]
      simp only [registerReminders_eq_ok_iff, ih]
      constructor
      · rintro ⟨m₁, ⟨name, named, first⟩, names, consumers, rest⟩
        refine ⟨name :: names, .cons named consumers, ?_⟩
        rw [List.flatMap_cons, registerAll_append_eq_ok_iff]
        exact ⟨m₁, first, rest⟩
      · rintro ⟨_, _ | ⟨named, consumers⟩, registered⟩
        rw [List.flatMap_cons, registerAll_append_eq_ok_iff] at registered
        obtain ⟨m₁, first, rest⟩ := registered
        exact ⟨m₁, ⟨_, named, first⟩, _, consumers, rest⟩

theorem registerVersions_eq_ok_iff :
    registerVersions services versions = .ok m ↔ ∃ names, Reminder.Consumers versions names ∧
      build (names.flatMap (reminderRegistrations services)) = .ok m :=
  foldlM_registerReminders_eq_ok_iff

theorem subscriptions_reminderRegistrations (services : Services S) (names : List Consumer.Name) :
    Registration.subscriptions (names.flatMap (reminderRegistrations (C := C) services)) =
      names.map services.keeper := by
  induction names with
  | nil => rfl
  | cons name names ih =>
      rw [List.flatMap_cons, Registration.subscriptions_append, ih]
      rfl

section Built

variable (built : build (names.flatMap (reminderRegistrations services)) = .ok m)
include built

theorem listings_of_versions : m.listings = names.map fun name => ⟨ReminderSet.kind, name⟩ := by
  apply (arranges_listings_of_build built).unique
  rw [subscriptions_reminderRegistrations, List.map_map]
  refine ⟨?_, fun _ => rfl⟩
  rw [List.pairwise_map]
  exact List.pairwise_of_forall fun _ _ => List.le_refl _

theorem subscribers_of_versions : m.subscribersOf ReminderSet.kind = names.map services.keeper := by
  rw [subscribersOf_of_build built, subscriptions_reminderRegistrations, List.filter_eq_self]
  rintro s member
  obtain ⟨name, -, rfl⟩ := List.mem_map.mp member
  exact decide_eq_true rfl

theorem policy_of_versions : m.policy = Policy.authenticated := by
  rw [policy_eq_iff_of_build built]
  refine .inr ⟨rfl, ?_⟩
  simp [reminderRegistrations]

/-- Requests to set a reminder are handled if there is a version. -/
theorem handler_iff_of_versions :
    m.handler? .setReminder = some services.setReminder ↔ names ≠ [] := by
  rcases List.eq_nil_or_concat names with rfl | ⟨front, last, rfl⟩
  · have unhandled : m.handler? .setReminder = none :=
      (handler?_eq_none_iff_of_build built).mpr fun _ => List.not_mem_nil
    exact iff_of_false (fun handled => nomatch unhandled.symm.trans handled) (absurd rfl)
  · refine iff_of_true ((handler?_eq_some_iff_of_build built).mpr ?_) (by simp)
    refine ⟨front.flatMap (reminderRegistrations services),
      [.subscription (services.keeper last)], ?_, by simp⟩
    rw [List.concat_eq_append, List.flatMap_append]
    rfl

end Built

/-- A version is refused if it has no consumer, or one that is subscribed already. -/
theorem registerReminders_eq_error_iff {f : Failure} :
    m.registerReminders services version = .error f ↔
      (∃ fault, Reminder.consumer version = .error fault ∧ f = fault.failure) ∨
      ∃ name, Reminder.consumer version = .ok name ∧
        ⟨ReminderSet.kind, name⟩ ∈ m.subscriptions.map Subscription.listing ∧
        f = alreadySubscribed name ReminderSet.kind := by
  rw [registerReminders]
  cases Reminder.consumer version with
  | error fault => simp [Except.mapError, bind, Except.bind, eq_comm]
  | ok name =>
      have registered : m.registerAll (reminderRegistrations services name) =
          (m.withHandler .setReminder services.setReminder).subscribe (services.keeper name) := by
        show (do
          let m' ← (m.withHandler .setReminder services.setReminder).subscribe
            (services.keeper name)
          .ok m') = _
        cases (m.withHandler .setReminder services.setReminder).subscribe (services.keeper name)
        all_goals rfl
      have refused := subscribe_eq_error_iff (f := f) (s := services.keeper name)
        (m := m.withHandler .setReminder services.setReminder)
      rw [← registered] at refused
      refine Iff.trans refused ?_
      constructor
      · rintro ⟨known, rfl⟩
        exact .inr ⟨name, rfl, known, rfl⟩
      · rintro (⟨_, ⟨⟩, -⟩ | ⟨_, ⟨⟩, known, rfl⟩)
        exact ⟨known, rfl⟩

variable (services) in
/-- A mediator of versions can be built if these are well formed and no two of them are alike. -/
theorem exists_registerVersions_iff :
    (∃ m, registerVersions (C := C) services versions = .ok m) ↔
      (∀ version ∈ versions, WellFormed version) ∧
      versions.Pairwise fun version version' => ¬ Alike version version' := by
  simp only [registerVersions_eq_ok_iff]
  have distinct_iff (names : List Consumer.Name) :
      (∃ m, build (names.flatMap (reminderRegistrations (C := C) services)) = .ok m) ↔
        names.Nodup := by
    rw [exists_build_iff, subscriptions_reminderRegistrations, List.map_map]
    exact List.nodup_map_iff fun _ _ same => congrArg Listing.consumer same
  constructor
  · rintro ⟨m, names, consumers, built⟩
    exact ⟨consumers.wellFormed, consumers.nodup_iff.mp ((distinct_iff names).mp ⟨m, built⟩)⟩
  · rintro ⟨wellFormed, distinct⟩
    obtain ⟨names, consumers⟩ := Reminder.Consumers.exists_of_wellFormed wellFormed
    obtain ⟨m, built⟩ := (distinct_iff names).mpr (consumers.nodup_iff.mpr distinct)
    exact ⟨m, names, consumers, built⟩

/-- After earlier versions a version is refused if it offends. -/
theorem registerReminders_eq_error_iff_offends {f : Failure}
    (built : registerVersions services versions = .ok m) :
    m.registerReminders services version = .error f ↔ Reminder.Offends versions version f := by
  obtain ⟨names, consumers, built⟩ := registerVersions_eq_ok_iff.mp built
  have known_iff (name : Consumer.Name) :
      ⟨ReminderSet.kind, name⟩ ∈ m.subscriptions.map Subscription.listing ↔ name ∈ names := by
    rw [subscriptions_of_build built, subscriptions_reminderRegistrations, List.map_map]
    exact List.mem_map_of_injective (f := fun name => (⟨ReminderSet.kind, name⟩ : Listing))
      fun _ _ same => congrArg Listing.consumer same
  rw [registerReminders_eq_error_iff]
  simp only [known_iff]
  constructor
  · rintro (⟨fault, failed, rfl⟩ | ⟨name, named, known, rfl⟩)
    · have notWellFormed : ¬ WellFormed version := by
        intro wellFormed
        obtain ⟨name, named⟩ := Reminder.exists_consumer wellFormed
        cases failed.symm.trans named
      rw [Reminder.consumer_of_not_wellFormed notWellFormed, Except.error.injEq] at failed
      subst failed
      split
      · next blank => exact .empty blank
      · next given => exact .malformed given notWellFormed
    · obtain ⟨wellFormed, text⟩ := Reminder.consumer_eq_ok_iff.mp named
      obtain ⟨version', member, alike⟩ := (consumers.mem_iff named).mp known
      exact .repeated wellFormed member alike (Reminder.names_iff.mpr text)
  · intro offends
    cases offends with
    | empty blank =>
        have failed := Reminder.consumer_of_not_wellFormed fun wellFormed =>
          wellFormed.trim_ne_nil blank
        rw [if_pos blank] at failed
        exact .inl ⟨_, failed, rfl⟩
    | malformed given malformed =>
        have failed := Reminder.consumer_of_not_wellFormed malformed
        rw [if_neg given] at failed
        exact .inl ⟨_, failed, rfl⟩
    | repeated wellFormed member alike told =>
        obtain ⟨name, named⟩ := Reminder.exists_consumer wellFormed
        refine .inr ⟨name, named, (consumers.mem_iff named).mpr ⟨_, member, alike⟩, ?_⟩
        rw [alreadySubscribed, (Reminder.consumer_eq_ok_iff.mp named).2, Reminder.names_iff.mp told]

/-- The first version that is at fault keeps the mediator from being built. -/
theorem registerVersions_eq_error_iff {f : Failure} :
    registerVersions (C := C) services versions = .error f ↔
      ∃ earlier version later, versions = earlier ++ version :: later ∧
        (∀ version ∈ earlier, WellFormed version) ∧
        (earlier.Pairwise fun version version' => ¬ Alike version version') ∧
        Reminder.Offends earlier version f := by
  rw [registerVersions, Stages.foldlM_eq_error_iff]
  constructor
  · rintro ⟨earlier, version, later, m, split, built, fails⟩
    obtain ⟨wellFormed, distinct⟩ :=
      (exists_registerVersions_iff services).mp ⟨m, built⟩
    exact ⟨earlier, version, later, split, wellFormed, distinct,
      (registerReminders_eq_error_iff_offends built).mp fails⟩
  · rintro ⟨earlier, version, later, split, wellFormed, distinct, offends⟩
    obtain ⟨m, built⟩ :=
      (exists_registerVersions_iff services).mpr ⟨wellFormed, distinct⟩
    exact ⟨earlier, version, later, m, split, built,
      (registerReminders_eq_error_iff_offends built).mpr offends⟩

end Mediator

end Reminders
