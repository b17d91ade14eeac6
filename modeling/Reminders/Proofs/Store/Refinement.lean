import Reminders.Proofs.Reminder.Platforms
import Reminders.Proofs.Reminder.Setting
import Reminders.Proofs.Store.Keeping
import Reminders.Store.Recording

/-!
# A store in memory against a recording one

A recording store keeps whatever it is given, a store in memory the first entity with each
identifier. `InMemory.Distils` relates the two, and is kept when both are given the same entity
under the same token (`InMemory.Distils.add`), which they also answer alike.

So a mediator does not notice which of them it works with: whatever the plan by which it is built,
and whatever it is sent, told or kept from by cancellation, it answers the same, and the store in
memory stays the recording one with its repetitions left out (`Mediator.answers_with_either_store`).
-/

namespace Reminders

open Entity (firsts)

namespace InMemory

variable {α : Type} [Entity α]

/-- A store in memory holds what a recording store was given, without repetitions. -/
def Distils (store : InMemory α) (record : Recording α) : Prop :=
  store.Holds (firsts record.added.toList)

theorem distils_empty : Distils (empty : InMemory α) .empty := holds_empty

namespace Distils

variable {store : InMemory α} {record : Recording α}

theorem snapshot_eq (h : Distils store record) (copyable : ∀ a : α, Entity.copies a = true) :
    store.snapshot = (.taken (firsts record.added.toList), store) :=
  Holds.snapshot_eq h fun a _ => copyable a

/-- Both stores answer alike when they are given an entity, and stay related. -/
theorem add (h : Distils store record) (signals : Signals) (entity : α) (token : Token) :
    (store.add signals entity token).1 = (record.add signals entity token).1 ∧
      Distils (store.add signals entity token).2 (record.add signals entity token).2 := by
  cases live : signals.isCancelled token with
  | true =>
      rw [InMemory.add_of_cancelled live, Recording.add_of_cancelled live]
      exact ⟨rfl, h⟩
  | false =>
      have recorded : (record.add signals entity token).1 = .ok () := by
        simp [Recording.add, live]
      rw [Distils, Recording.toList_added_add live, Entity.firsts_concat, recorded]
      by_cases known : Entity.id entity ∈ record.added.toList.map Entity.id
      · rw [if_pos known, Holds.add_of_known h live ((Entity.mem_ids_firsts _ _).mpr known)]
        exact ⟨rfl, h⟩
      · have new := mt (Entity.mem_ids_firsts _ _).mp known
        obtain ⟨store', added, holds⟩ := Holds.add_of_new h live new
        rw [if_neg known, added]
        exact ⟨rfl, holds⟩

end Distils

end InMemory

variable {C : Catalog} {σ : Type}

/-- Equal states, of which the one has a store in memory that distils the recording store of the
other. -/
structure Stocked.Distils (s : Stocked (InMemory Reminder) σ)
    (s' : Stocked (Recording Reminder) σ) : Prop where
  state : s.state = s'.state
  store : s.store.Distils s'.store

variable [Cancellable σ]

namespace Platform

abbrev inMemory (now : σ → Timestamp) (freshId : StateM σ Uuid) :
    Platform σ (Stocked (InMemory Reminder) σ) :=
  .stocked now freshId InMemory.add

abbrev recording (now : σ → Timestamp) (freshId : StateM σ Uuid) :
    Platform σ (Stocked (Recording Reminder) σ) :=
  .stocked now freshId Recording.add

/-- The platforms with the two stores go in step, since nothing but adding touches a store. -/
theorem inMemory_inStep_recording (now : σ → Timestamp) (freshId : StateM σ Uuid) :
    InStep Stocked.Distils (inMemory now freshId) (recording now freshId) where
  signals s s' h := congrArg Cancellable.signals h.state
  get s s' h := h.state
  set a s s' h := ⟨rfl, h.store⟩
  now s s' h := congrArg now h.state
  freshId := by
    rintro ⟨state, store⟩ ⟨state', store'⟩ ⟨same, distils⟩
    obtain rfl : state = state' := same
    exact ⟨rfl, rfl, distils⟩
  repository reminder token := by
    rintro ⟨state, store⟩ ⟨state', store'⟩ ⟨same, distils⟩
    obtain rfl : state = state' := same
    obtain ⟨answer, distils⟩ := distils.add (Cancellable.signals state) reminder token
    exact ⟨answer, rfl, distils⟩

end Platform

namespace Mediator

/-- A mediator answers the same whether its reminders go to a store in memory or to a recording
one, with the same clock and the same source of identifiers. One plan is refused for both, with the
same failure, or gives two mediators. These give the same answer to every step, and after every
step the state beside the stores is the same, while a snapshot of the store in memory has what the
recording store was given, without the reminders whose identifier came before. -/
theorem answers_with_either_store (now : σ → Timestamp) (freshId : StateM σ Uuid)
    (plan : List (Provision C σ)) (steps : List (Session.Step C.withReminders σ)) (s : σ) :
    (∃ f, assemble (.inMemory now freshId) plan = .error f ∧
      assemble (.recording now freshId) plan = .error f) ∨
    ∃ m m', assemble (.inMemory now freshId) plan = .ok m ∧
      assemble (.recording now freshId) plan = .ok m' ∧
      List.Forall₂ (fun reply reply' =>
          reply.1 = reply'.1 ∧ reply.2.state.state = reply'.2.state.state ∧
            reply.2.state.store.snapshot =
              (.taken (firsts reply'.2.state.store.added.toList), reply.2.state.store))
        ((Session.mk m ⟨s, .empty⟩).trace (steps.map (·.on (.inMemory now freshId))))
        ((Session.mk m' ⟨s, .empty⟩).trace (steps.map (·.on (.recording now freshId)))) := by
  have platforms := Platform.inMemory_inStep_recording now freshId
  rcases (platforms.assemble plan).both with refused | ⟨m, m', built, built', mediators⟩
  · exact .inl refused
  · refine .inr ⟨m, m', built, built', ?_⟩
    have sessions : Session.InStep Stocked.Distils (Session.mk m ⟨s, .empty⟩)
        (Session.mk m' ⟨s, .empty⟩) :=
      ⟨mediators, rfl, InMemory.distils_empty⟩
    apply (sessions.trace platforms.signals (platforms.steps steps)).imp
    rintro reply reply' ⟨answer, inStep⟩
    exact ⟨answer, inStep.state.state, inStep.state.store.snapshot_eq fun _ => rfl⟩

/-- Reminders in two versions of the API, each of which keeps every reminder. -/
def doubled : List (Provision Catalog.empty Signals) := [.reminders "1.0", .reminders "2.0"]

/-- A recording store is given a reminder twice, where a store in memory keeps it once. -/
theorem stores_of_doubled :
    ∃ m m' reminder, assemble (.inMemory idle.now idle.freshId) doubled = .ok m ∧
      assemble (.recording idle.now idle.freshId) doubled = .ok m' ∧
      (Session.perform ⟨m', ⟨.empty, .empty⟩⟩
          (.send (k := .setReminder) nextDay ⟨0⟩)).2.state.store.added.toList =
        [reminder, reminder] ∧
      (Session.perform ⟨m, ⟨.empty, .empty⟩⟩
          (.send (k := .setReminder) nextDay ⟨0⟩)).2.state.store.snapshot.1 =
        .taken [reminder] := by
  have first : Reminder.consumer "1.0" =
      .ok ⟨"Reminder_v1_ReminderSet", by decide, by decide⟩ := by decide +kernel
  have second : Reminder.consumer "2.0" =
      .ok ⟨"Reminder_v2_ReminderSet", by decide, by decide⟩ := by decide +kernel
  obtain ⟨m', reminder, assembled', recorded⟩ :
      ∃ m' reminder, assemble (.recording idle.now idle.freshId) doubled = .ok m' ∧
        (Session.perform ⟨m', ⟨.empty, .empty⟩⟩
            (.send (k := .setReminder) nextDay ⟨0⟩)).2.state.store.added.toList =
          [reminder, reminder] :=
    ⟨_, _, Stages.foldlM_cons_eq_ok_iff.mpr ⟨_, registerReminders_eq_ok_iff.mpr ⟨_, first, rfl⟩,
      Stages.foldlM_cons_eq_ok_iff.mpr ⟨_, registerReminders_eq_ok_iff.mpr ⟨_, second, rfl⟩, rfl⟩⟩,
      rfl⟩
  rcases answers_with_either_store idle.now idle.freshId doubled
      [.send (k := .setReminder) nextDay ⟨0⟩] .empty with
    ⟨f, -, refused⟩ | ⟨m, m'', assembled, assembled'', replies⟩
  · cases assembled'.symm.trans refused
  · cases assembled'.symm.trans assembled''
    obtain ⟨-, -, snapshot⟩ := (List.forall₂_cons.mp replies).1
    refine ⟨m, m', reminder, assembled, assembled', recorded, ?_⟩
    refine (congrArg Prod.fst snapshot).trans (congrArg InMemory.Snapshot.taken ?_)
    refine (congrArg Entity.firsts recorded).trans ?_
    simp [Entity.firsts]

end Mediator

end Reminders
