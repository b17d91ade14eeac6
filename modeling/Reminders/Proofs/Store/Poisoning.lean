import Mathlib.Data.List.Induction
import Reminders.Store.InMemory

/-!
# How a store in memory is poisoned

A store is used step by step: entities are added under tokens that have names, it is asked for its
size, snapshots are taken, tokens are cancelled and made anew. Only a snapshot can be aborted, and
it is where an entity that cannot be copied has been kept (`InUse.isAborted_perform_iff`). This
poisons the store.

Until then nobody can tell whether entities can be copied: a run is the one in which all of them can
be (`InUse.after_eq_of_sound`). From then on the store is what it was at that time, whatever is done
with it (`InUse.store_after_of_poisoned`).
-/

namespace Reminders

variable {α : Type}

/-- Entities as if every one of them could be copied. -/
abbrev Entity.copyable [Entity α] : Entity α := ⟨Entity.id, fun _ => true⟩

namespace InMemory

section Snapshots

variable [Entity α]

/-- A store that keeps an entity of which no copy can be made. -/
def Spoilt (store : InMemory α) : Prop :=
  ∃ entity ∈ store.entities, Entity.copies entity = false

theorem not_spoilt_copyable (store : InMemory α) : ¬ @Spoilt α .copyable store := by
  rintro ⟨entity, -, stuck⟩
  cases stuck

variable {store : InMemory α}

theorem all_copies_iff : store.entities.all Entity.copies = true ↔ ¬ store.Spoilt := by
  rw [Array.all_eq_true_iff_forall_mem]
  simp [Spoilt]

theorem snapshot_of_poisoned (h : store.poisoned = true) :
    store.snapshot = (.refused lockPoisoned, store) := by
  rw [snapshot, if_pos h]

theorem snapshot_of_spoilt (sound : store.poisoned = false) (h : store.Spoilt) :
    store.snapshot = (.aborted, { store with poisoned := true }) := by
  rw [snapshot, if_neg (by simp [sound]), if_neg (mt all_copies_iff.mp (not_not_intro h))]

theorem snapshot_of_not_spoilt (sound : store.poisoned = false) (h : ¬ store.Spoilt) :
    store.snapshot = (.taken store.entities.toList, store) := by
  rw [snapshot, if_neg (by simp [sound]), if_pos (all_copies_iff.mpr h)]

theorem add_of_poisoned (h : store.poisoned = true) (signals : Signals) (entity : α)
    (token : Token) : (store.add signals entity token).2 = store := by
  simp only [add, h, if_true, apply_ite Prod.snd, ite_self]

end Snapshots

structure InUse (α : Type) where
  store : InMemory α
  tokens : Tokens

namespace InUse

/-- A new store, before any token is made. -/
def start : InUse α := ⟨empty, .empty⟩

/-- The token of a name. A name that has none is as good as one with a new token. -/
def token (use : InUse α) (name : String) : Token := (use.tokens.obtain name).1

/-- Whether the token of a name is cancelled. -/
def isCancelled (use : InUse α) (name : String) : Bool :=
  use.tokens.signals.isCancelled (use.token name)

inductive Step (α : Type) where
  /-- An entity is added under the token of a name. -/
  | add (entity : α) (name : String)
  | size
  | snapshot
  /-- The token of a name is cancelled. -/
  | cancel (name : String)
  /-- A name is given a new token. -/
  | renew (name : String)

inductive Answer (α : Type) where
  | added (answer : Except Failure Unit)
  | counted (answer : Except Failure Nat)
  | copied (answer : Snapshot α)
  | nothing

/-- Whether a step has been aborted. -/
def Answer.isAborted : Answer α → Bool
  | copied .aborted => true
  | _ => false

section Runs

variable [Entity α]

/-- Takes one step. -/
def perform (use : InUse α) : Step α → Answer α × InUse α
  | .add entity name =>
      let (answer, store) := use.store.add use.tokens.signals entity (use.token name)
      (.added answer, { use with store })
  | .size => (.counted use.store.size, use)
  | .snapshot =>
      let (answer, store) := use.store.snapshot
      (.copied answer, { use with store })
  | .cancel name => (.nothing, { use with tokens := use.tokens.cancel name })
  | .renew name => (.nothing, { use with tokens := use.tokens.create name })

/-- The store and its tokens after steps. -/
def after (use : InUse α) (steps : List (Step α)) : InUse α :=
  steps.foldl (fun use step => (use.perform step).2) use

/-- The answers to steps. -/
def trace (use : InUse α) : List (Step α) → List (Answer α)
  | [] => []
  | step :: steps => (use.perform step).1 :: (use.perform step).2.trace steps

end Runs

/-- A poisoned store refuses every use of it; an addition under a cancelled token is refused because
of the token. -/
structure Refuses [Entity α] (use : InUse α) : Prop where
  size : (use.perform .size).1 =
    .counted (.error (.persistence "in-memory repository lock poisoned"))
  snapshot : (use.perform .snapshot).1 =
    .copied (.refused (.persistence "in-memory repository lock poisoned"))
  add_live : ∀ entity name, use.isCancelled name = false →
    (use.perform (.add entity name)).1 =
      .added (.error (.persistence "in-memory repository lock poisoned"))
  add_cancelled : ∀ entity name, use.isCancelled name = true →
    (use.perform (.add entity name)).1 = .added (.error .cancelled)

variable [Entity α] {use : InUse α}

theorem after_append (use : InUse α) (steps later : List (Step α)) :
    use.after (steps ++ later) = (use.after steps).after later := List.foldl_append

theorem after_concat (use : InUse α) (steps : List (Step α)) (step : Step α) :
    use.after (steps ++ [step]) = ((use.after steps).perform step).2 :=
  after_append use steps [step]

theorem trace_concat (use : InUse α) (steps : List (Step α)) (step : Step α) :
    use.trace (steps ++ [step]) = use.trace steps ++ [((use.after steps).perform step).1] := by
  induction steps generalizing use with
  | nil => rfl
  | cons first steps ih => simp only [List.cons_append, trace, ih, after, List.foldl_cons]

theorem perform_snapshot (use : InUse α) :
    use.perform .snapshot =
      (.copied use.store.snapshot.1, { use with store := use.store.snapshot.2 }) := rfl

theorem perform_add (use : InUse α) (entity : α) (name : String) :
    (use.perform (.add entity name)).1 =
      .added (if use.isCancelled name then .error .cancelled
        else if use.store.poisoned then .error lockPoisoned else .ok ()) :=
  congrArg Answer.added (answer_add _ _ _ _)

/-- An entity whose identifier is known changes nothing, whatever it is. -/
theorem perform_add_of_known {entity : α} (h : Entity.id entity ∈ use.store.ids) (name : String) :
    (use.perform (.add entity name)).2 = use := by
  simp only [perform, store_add_of_mem h]

/-- A step that poisons a store: a snapshot of one that keeps an entity which cannot be copied. -/
structure Poisons (use : InUse α) (step : Step α) : Prop where
  snapshot : step = .snapshot
  sound : use.store.poisoned = false
  spoilt : use.store.Spoilt

theorem Poisons.perform_eq {step : Step α} (h : use.Poisons step) :
    use.perform step =
      (.copied .aborted, { use with store := { use.store with poisoned := true } }) := by
  obtain ⟨rfl, sound, spoilt⟩ := h
  rw [perform_snapshot, snapshot_of_spoilt sound spoilt]

/-- Any other step with a sound store is as if all entities could be copied. -/
theorem perform_of_sound {step : Step α} (sound : use.store.poisoned = false)
    (h : ¬ use.Poisons step) : use.perform step = @perform α .copyable use step := by
  cases step with
  | snapshot =>
      have whole : ¬ use.store.Spoilt := fun spoilt => h ⟨rfl, sound, spoilt⟩
      rw [perform_snapshot, snapshot_of_not_spoilt sound whole, @perform_snapshot α .copyable,
        @snapshot_of_not_spoilt α .copyable _ sound (not_spoilt_copyable _)]
  | _ => rfl

/-- No other step is aborted, or makes a store poisoned or sound. -/
theorem perform_of_not_poisons {step : Step α} (h : ¬ use.Poisons step) :
    (use.perform step).1.isAborted = false ∧
      (use.perform step).2.store.poisoned = use.store.poisoned := by
  cases step with
  | add entity name => exact ⟨rfl, poisoned_add _ _ _ _⟩
  | snapshot =>
      rw [perform_snapshot]
      cases poisoned : use.store.poisoned with
      | true =>
          rw [snapshot_of_poisoned poisoned]
          exact ⟨rfl, poisoned⟩
      | false =>
          have whole : ¬ use.store.Spoilt := fun spoilt => h ⟨rfl, poisoned, spoilt⟩
          rw [snapshot_of_not_spoilt poisoned whole]
          exact ⟨rfl, poisoned⟩
  | _ => exact ⟨rfl, rfl⟩

theorem isAborted_perform_iff {step : Step α} :
    (use.perform step).1.isAborted = true ↔ use.Poisons step := by
  by_cases h : use.Poisons step
  · simp [h, h.perform_eq, Answer.isAborted]
  · simp [h, (perform_of_not_poisons h).1]

theorem poisoned_perform_iff {step : Step α} :
    (use.perform step).2.store.poisoned = true ↔
      use.store.poisoned = true ∨ use.Poisons step := by
  by_cases h : use.Poisons step
  · simp [h, h.perform_eq]
  · simp [h, (perform_of_not_poisons h).2]

theorem store_perform_of_poisoned (h : use.store.poisoned = true) (step : Step α) :
    (use.perform step).2.store = use.store := by
  cases step with
  | add entity name => exact add_of_poisoned h _ _ _
  | snapshot => rw [perform_snapshot, snapshot_of_poisoned h]
  | _ => rfl

theorem refuses_of_poisoned (h : use.store.poisoned = true) : use.Refuses := by
  constructor
  · simp only [perform, InMemory.size, h, if_true, lockPoisoned]
  · rw [perform_snapshot, snapshot_of_poisoned h, lockPoisoned]
  · intro entity name live
    rw [perform_add, live, h]
    rfl
  · intro entity name cancelled
    rw [perform_add, cancelled]
    rfl

/-! Any number of steps. -/

theorem store_after_of_poisoned (h : use.store.poisoned = true) (steps : List (Step α)) :
    (use.after steps).store = use.store := by
  induction steps using List.reverseRecOn with
  | nil => rfl
  | append_singleton steps step ih =>
      rw [after_concat, store_perform_of_poisoned (by rw [ih, h]), ih]

theorem poisoned_after_iff (sound : use.store.poisoned = false) (steps : List (Step α)) :
    (use.after steps).store.poisoned = true ↔
      ∃ earlier step later, steps = earlier ++ step :: later ∧
        (use.after earlier).Poisons step := by
  constructor
  · intro poisoned
    induction steps using List.reverseRecOn with
    | nil => cases sound.symm.trans poisoned
    | append_singleton steps step ih =>
        rw [after_concat, poisoned_perform_iff] at poisoned
        rcases poisoned with before | now
        · obtain ⟨earlier, step', later, rfl, poisons⟩ := ih before
          exact ⟨earlier, step', later ++ [step], by simp, poisons⟩
        · exact ⟨steps, step, [], rfl, now⟩
  · rintro ⟨earlier, step, later, rfl, poisons⟩
    -- Poisoned by that step, the store stays so through all later ones.
    have poisoned : (use.after (earlier ++ [step])).store.poisoned = true := by
      rw [after_concat, poisoned_perform_iff]
      exact .inr poisons
    rw [List.append_cons, after_append, store_after_of_poisoned poisoned, poisoned]

/-- There is one aborted step in a run if the store gets poisoned, and none otherwise. -/
theorem countP_isAborted_trace (sound : use.store.poisoned = false) (steps : List (Step α)) :
    (use.trace steps).countP Answer.isAborted =
      if (use.after steps).store.poisoned then 1 else 0 := by
  induction steps using List.reverseRecOn with
  | nil => simp [trace, after, sound]
  | append_singleton steps step ih =>
      rw [trace_concat, List.countP_append, List.countP_singleton, ih, after_concat]
      by_cases h : (use.after steps).Poisons step
      · rw [if_pos (isAborted_perform_iff.mpr h), h.sound, h.perform_eq]
        rfl
      · obtain ⟨answered, kept⟩ := perform_of_not_poisons h
        rw [answered, kept]
        rfl

/-- As long as a store is sound, its run is the one in which all entities can be copied. -/
theorem after_eq_of_sound {steps : List (Step α)}
    (h : (use.after steps).store.poisoned = false) :
    use.after steps = @after α .copyable use steps ∧
      use.trace steps = @trace α .copyable use steps := by
  induction steps using List.reverseRecOn with
  | nil => exact ⟨rfl, rfl⟩
  | append_singleton steps step ih =>
      rw [after_concat, ← Bool.not_eq_true, poisoned_perform_iff, not_or, Bool.not_eq_true] at h
      obtain ⟨sound', harmless⟩ := h
      obtain ⟨same, answers⟩ := ih sound'
      rw [after_concat, trace_concat, @after_concat α .copyable, @trace_concat α .copyable,
        perform_of_sound sound' harmless, same, answers]
      exact ⟨rfl, rfl⟩

/-- When a store is poisoned, and what follows. A snapshot of a sound store with an entity that
cannot be copied poisons it, and nothing else does; it is the only step of a run that is aborted.
Until then all is as if every entity could be copied: in particular, entities are taken whatever
they are, and one whose identifier is known makes no difference at all. From then on the store stays
what it is and refuses every use. -/
theorem poisoned_for_good (steps : List (Step α)) :
    ((start.after steps).store.poisoned = true ↔
      ∃ earlier step later, steps = earlier ++ step :: later ∧
        (start.after earlier).Poisons step) ∧
    (∀ step, ((start.after steps).perform step).1.isAborted = true ↔
      (start.after steps).Poisons step) ∧
    ((start.trace steps).countP Answer.isAborted =
      if (start.after steps).store.poisoned then 1 else 0) ∧
    ((start.after steps).store.poisoned = false →
      start.after steps = @after α .copyable start steps ∧
      start.trace steps = @trace α .copyable start steps ∧
      ∀ entity name, ((start.after steps).perform (.add entity name)).1 =
        .added (if (start.after steps).isCancelled name then .error .cancelled else .ok ())) ∧
    (∀ entity name later, Entity.id entity ∈ (start.after steps).store.ids →
      start.after (steps ++ .add entity name :: later) = start.after (steps ++ later)) ∧
    ((start.after steps).store.poisoned = true → ∀ later,
      (start.after (steps ++ later)).store = (start.after steps).store ∧
      (start.after (steps ++ later)).Refuses) := by
  have sound : (start : InUse α).store.poisoned = false := rfl
  refine ⟨poisoned_after_iff sound steps, fun _ => isAborted_perform_iff,
    countP_isAborted_trace sound steps, ?_, ?_, ?_⟩
  · intro h
    obtain ⟨same, answers⟩ := after_eq_of_sound h
    refine ⟨same, answers, ?_⟩
    intro entity name
    rw [perform_add, h]
    rfl
  · intro entity name later known
    rw [List.append_cons, after_append, after_concat, perform_add_of_known known, after_append]
  · intro h later
    have stays : (start.after (steps ++ later)).store = (start.after steps).store := by
      rw [after_append, store_after_of_poisoned h]
    exact ⟨stays, refuses_of_poisoned (stays ▸ h)⟩

/-- A parcel, of which no copy can be made if it is sealed. -/
structure Parcel where
  id : Uuid
  isSealed : Bool

instance : Entity Parcel := ⟨Parcel.id, fun parcel => !parcel.isSealed⟩

/-- A parcel, the same parcel once more but sealed, a snapshot, and a sealed parcel of its own. -/
def shipped : List (Step Parcel) :=
  [.renew "van", .add ⟨⟨1⟩, false⟩ "van", .add ⟨⟨1⟩, true⟩ "van", .snapshot,
    .add ⟨⟨2⟩, true⟩ "van", .cancel "van"]

theorem store_after_shipped :
    (start.after shipped).store =
      { ids := (∅ : Std.HashSet Uuid).insert ⟨1⟩ |>.insert ⟨2⟩
        entities := #[⟨⟨1⟩, false⟩, ⟨⟨2⟩, true⟩]
        poisoned := false } := by
  have live : (Tokens.empty.create "van").signals.isCancelled ⟨Tokens.empty.made⟩ = false := rfl
  simp [after, shipped, perform, start, empty, InMemory.add, InMemory.snapshot, Entity.id,
    Entity.copies, token, Tokens.obtain, live]

/-- A sealed parcel that only repeats another does no harm. One that is kept makes the next snapshot
poison the store, and all that comes later is refused. -/
theorem refuses_after_shipped :
    (start.trace shipped).countP Answer.isAborted = 0 ∧
      start.trace shipped = @trace Parcel .copyable start shipped ∧
      start.after (shipped ++ [.add ⟨⟨1⟩, true⟩ "van", .snapshot]) =
        start.after (shipped ++ [.snapshot]) ∧
      (start.trace (shipped ++ [.snapshot])).countP Answer.isAborted = 1 ∧
      ∀ later, (start.after (shipped ++ [.snapshot] ++ later)).Refuses := by
  have store := store_after_shipped
  have sound : (start.after shipped).store.poisoned = false := by rw [store]
  have known : Entity.id (⟨⟨1⟩, true⟩ : Parcel) ∈ (start.after shipped).store.ids := by
    simp [store, Entity.id]
  obtain ⟨-, -, aborted, until_then, unharmed, -⟩ := poisoned_for_good shipped
  obtain ⟨poisoned_iff, -, aborted', -, -, from_then⟩ := poisoned_for_good (shipped ++ [.snapshot])
  have spoilt : (start.after shipped).store.Spoilt := by
    rw [store]
    exact ⟨⟨⟨2⟩, true⟩, by simp, rfl⟩
  have poisoned := poisoned_iff.mpr ⟨shipped, .snapshot, [], rfl, rfl, sound, spoilt⟩
  rw [sound] at aborted
  rw [poisoned] at aborted'
  exact ⟨aborted, (until_then sound).2.1, unharmed _ _ _ known, aborted',
    fun later => (from_then poisoned later).2⟩

end InUse

end InMemory

end Reminders
