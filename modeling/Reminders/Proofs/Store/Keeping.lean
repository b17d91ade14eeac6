import Mathlib.Data.Finset.Card
import Reminders.Reminder.Handling
import Reminders.Store.InMemory

/-!
# What a store in memory keeps

A store is used any number of times: entities are added under tokens that may be cancelled, it is
asked for its size, and snapshots are taken. Of all this only the entities that were accepted, those
whose token was not cancelled, matter for what it holds, and of these it keeps the first with each
identifier, in the order in which they came (`Holds.effect` for one use, `holds_after` for a
whole history).

So an entity that is delivered again changes nothing, whatever its contents, and what was kept once
stays at its place. That entities can be copied is assumed of those that were accepted; a store with
one that cannot is poisoned by its first snapshot.
-/

namespace Reminders

variable {α : Type} [Entity α]

namespace Entity

/-- The first entity with each identifier, in order. -/
def firsts : List α → List α
  | [] => []
  | a :: as => a :: (firsts as).filter fun b => id b ≠ id a

@[simp] theorem firsts_nil : firsts ([] : List α) = [] := rfl

theorem mem_ids_firsts (as : List α) (u : Uuid) : u ∈ (firsts as).map id ↔ u ∈ as.map id := by
  induction as with
  | nil => rfl
  | cons a as ih =>
      have others : u ∈ ((firsts as).filter fun b => id b ≠ id a).map id ↔
          u ≠ id a ∧ u ∈ as.map id := by
        rw [← ih]
        simp only [List.mem_map, List.mem_filter, decide_eq_true_eq]
        constructor
        · rintro ⟨b, ⟨hb, hne⟩, rfl⟩
          exact ⟨hne, b, hb, rfl⟩
        · rintro ⟨hne, b, hb, rfl⟩
          exact ⟨b, ⟨hb, hne⟩, rfl⟩
      rw [firsts, List.map_cons, List.mem_cons, others, List.map_cons, List.mem_cons]
      by_cases hu : u = id a <;> simp [hu]

theorem nodup_ids_firsts (as : List α) : ((firsts as).map id).Nodup := by
  induction as with
  | nil => exact List.nodup_nil
  | cons a as ih =>
      rw [firsts, List.map_cons, List.nodup_cons]
      constructor
      · simp
      · exact ih.sublist (List.filter_sublist.map id)

/-- One more entity is kept at the end, unless its identifier is there already. -/
theorem firsts_concat (as : List α) (b : α) :
    firsts (as ++ [b]) = if id b ∈ as.map id then firsts as else firsts as ++ [b] := by
  induction as with
  | nil => rfl
  | cons a as ih =>
      rw [List.cons_append, firsts, ih, firsts, List.map_cons]
      by_cases hb : id b ∈ as.map id
      · simp [hb]
      · by_cases ha : id b = id a
        · rw [if_neg hb]
          simp [ha]
        · simp [hb, ha]

theorem firsts_prefix (as bs : List α) : firsts as <+: firsts (as ++ bs) := by
  induction bs generalizing as with
  | nil => simp
  | cons b bs ih =>
      have kept : firsts as <+: firsts (as ++ [b]) := by
        rw [firsts_concat]
        split
        · exact List.prefix_rfl
        · exact List.prefix_append _ _
      rw [List.append_cons]
      exact kept.trans (ih (as ++ [b]))

theorem mem_of_mem_firsts {a : α} {as : List α} (h : a ∈ firsts as) : a ∈ as := by
  induction as with
  | nil => exact h
  | cons b as ih =>
      rw [firsts, List.mem_cons] at h
      cases h with
      | inl first => exact List.mem_cons.mpr (.inl first)
      | inr later => exact List.mem_cons_of_mem _ (ih (List.mem_of_mem_filter later))

/-- As many entities are kept as there are identifiers. -/
theorem length_firsts (as : List α) : (firsts as).length = (as.map id).toFinset.card := by
  calc (firsts as).length
      = ((firsts as).map id).length := (List.length_map id).symm
    _ = ((firsts as).map id).toFinset.card :=
        (List.toFinset_card_of_nodup (nodup_ids_firsts as)).symm
    _ = (as.map id).toFinset.card := by
        congr 1
        ext u
        simp only [List.mem_toFinset, mem_ids_firsts]

end Entity

namespace InMemory

open Entity (firsts)

inductive Call (α : Type) where
  /-- An entity is added under a token, when the tokens cancelled so far are known. -/
  | add (signals : Signals) (entity : α) (token : Token)
  | size
  | snapshot

namespace Call

/-- The store after a use of it. -/
def effect (store : InMemory α) : Call α → InMemory α
  | add signals entity token => (store.add signals entity token).2
  | size => store
  | snapshot => store.snapshot.2

/-- The entity that a use of a store makes it accept. -/
def accepted? : Call α → Option α
  | add signals entity token => if signals.isCancelled token then none else some entity
  | size => none
  | snapshot => none

end Call

/-- A new store after it was used. -/
def after (calls : List (Call α)) : InMemory α := calls.foldl Call.effect empty

/-- The entities that were added while their token was not cancelled. -/
def accepted (calls : List (Call α)) : List α := calls.filterMap Call.accepted?

/-- A sound store that holds certain entities, and their identifiers. -/
structure Holds (store : InMemory α) (kept : List α) : Prop where
  sound : store.poisoned = false
  entities : store.entities.toList = kept
  mem_ids : ∀ u, u ∈ store.ids ↔ u ∈ kept.map Entity.id

variable {store : InMemory α} {kept : List α}

theorem holds_empty : Holds (empty : InMemory α) [] := by
  refine ⟨rfl, rfl, ?_⟩
  intro u
  simp [empty]

namespace Holds

/-- An entity with a new identifier is kept at the end. -/
theorem add_of_new (h : Holds store kept) {signals : Signals} {token : Token}
    (live : signals.isCancelled token = false) {entity : α}
    (new : Entity.id entity ∉ kept.map Entity.id) :
    ∃ store', store.add signals entity token = (.ok (), store') ∧
      Holds store' (kept ++ [entity]) := by
  have absent : Entity.id entity ∉ store.ids := mt (h.mem_ids _).mp new
  refine ⟨_, add_of_not_mem live h.sound absent, h.sound, by simp [h.entities], ?_⟩
  intro u
  simp only [Std.HashSet.mem_insert, h.mem_ids, beq_iff_eq, List.map_append,
    List.map_singleton, List.mem_append, List.mem_singleton]
  rw [or_comm, eq_comm]

/-- An entity whose identifier is known is taken without complaint, and changes nothing. -/
theorem add_of_known (h : Holds store kept) {signals : Signals} {token : Token}
    (live : signals.isCancelled token = false) {entity : α}
    (known : Entity.id entity ∈ kept.map Entity.id) :
    store.add signals entity token = (.ok (), store) := by
  have present : Entity.id entity ∈ store.ids := (h.mem_ids _).mpr known
  simp [add, live, h.sound, present]

theorem add_eq_ok (h : Holds store kept) {signals : Signals} {token : Token}
    (live : signals.isCancelled token = false) (entity : α) :
    (store.add signals entity token).1 = .ok () := by
  by_cases known : Entity.id entity ∈ kept.map Entity.id
  · rw [h.add_of_known live known]
  · obtain ⟨_, added, -⟩ := h.add_of_new live known
    rw [added]

theorem size_eq (h : Holds store kept) : store.size = .ok kept.length := by
  rw [size, if_neg (by simp [h.sound]), ← h.entities, Array.length_toList]

theorem snapshot_eq (h : Holds store kept) (copyable : ∀ a ∈ kept, Entity.copies a = true) :
    store.snapshot = (.taken kept, store) := by
  have all : store.entities.all Entity.copies = true := by
    rw [← Array.all_toList, h.entities]
    exact List.all_eq_true.mpr copyable
  rw [snapshot, if_neg (by simp [h.sound]), if_pos all, h.entities]

/-- One use of a store that holds the first of the entities accepted so far. -/
theorem effect {as : List α} (h : Holds store (firsts as))
    (copyable : ∀ a ∈ as, Entity.copies a = true) (call : Call α) :
    Holds (call.effect store) (firsts (as ++ call.accepted?.toList)) := by
  cases call with
  | size => simpa [Call.effect, Call.accepted?] using h
  | snapshot =>
      have taken := h.snapshot_eq fun a ha => copyable a (Entity.mem_of_mem_firsts ha)
      simpa [Call.effect, Call.accepted?, taken] using h
  | add signals entity token =>
      cases hc : signals.isCancelled token with
      | true => simpa [Call.effect, Call.accepted?, hc] using h
      | false =>
          simp only [Call.effect, Call.accepted?, hc, Bool.false_eq_true, if_false,
            Option.toList_some, Entity.firsts_concat]
          by_cases known : Entity.id entity ∈ as.map Entity.id
          · have known' := (Entity.mem_ids_firsts as _).mpr known
            rw [h.add_of_known hc known', if_pos known]
            exact h
          · have new := mt (Entity.mem_ids_firsts as _).mp known
            obtain ⟨store', added, holds⟩ := h.add_of_new hc new
            rw [added, if_neg known]
            exact holds

end Holds

/-- A store that was used holds the first of the accepted entities with each identifier. -/
theorem holds_after (calls : List (Call α))
    (copyable : ∀ a ∈ accepted calls, Entity.copies a = true) :
    Holds (after calls) (firsts (accepted calls)) := by
  induction calls using List.reverseRecOn with
  | nil => exact holds_empty
  | append_singleton calls call ih =>
      have grown : accepted (calls ++ [call]) = accepted calls ++ call.accepted?.toList := by
        cases hc : call.accepted? <;> simp [accepted, hc]
      have earlier : ∀ a ∈ accepted calls, Entity.copies a = true := by
        intro a ha
        apply copyable
        rw [grown]
        exact List.mem_append_left _ ha
      rw [grown, after, List.foldl_concat]
      exact (ih earlier).effect earlier call

/-- How a store answers after any use. Its identifiers are those of its entities, which are
distinct; it holds the first accepted entity with each of them, and what it held at any earlier time
is the beginning of that. Only a cancelled token keeps an entity from being taken. -/
theorem after_keeps_firsts (calls : List (Call α))
    (copyable : ∀ a ∈ accepted calls, Entity.copies a = true) :
    (∀ u, u ∈ (after calls).ids ↔ u ∈ (after calls).entities.toList.map Entity.id) ∧
      ((after calls).entities.toList.map Entity.id).Nodup ∧
      (after calls).snapshot = (.taken (firsts (accepted calls)), after calls) ∧
      (after calls).size = .ok ((accepted calls).map Entity.id).toFinset.card ∧
      (∀ signals entity token,
        (((after calls).add signals entity token).1 = .error .cancelled ↔
          signals.isCancelled token = true) ∧
        (signals.isCancelled token = true →
          ((after calls).add signals entity token).2 = after calls) ∧
        (signals.isCancelled token = false →
          ((after calls).add signals entity token).1 = .ok ())) ∧
      ∀ earlier later, calls = earlier ++ later →
        ∃ kept, (after earlier).snapshot.1 = .taken kept ∧ kept <+: firsts (accepted calls) := by
  have holds := holds_after calls copyable
  refine ⟨?_, ?_, ?_, ?_, ?_, ?_⟩
  · intro u
    rw [holds.mem_ids, holds.entities]
  · rw [holds.entities]
    exact Entity.nodup_ids_firsts _
  · exact holds.snapshot_eq fun a ha => copyable a (Entity.mem_of_mem_firsts ha)
  · rw [holds.size_eq, Entity.length_firsts]
  · intro signals entity token
    cases hc : signals.isCancelled token with
    | true => simp [hc]
    | false => simp [holds.add_eq_ok hc entity]
  · rintro earlier later rfl
    have split : accepted (earlier ++ later) = accepted earlier ++ accepted later :=
      List.filterMap_append
    rw [split] at copyable ⊢
    have copyable' : ∀ a ∈ accepted earlier, Entity.copies a = true :=
      fun a ha => copyable a (List.mem_append_left _ ha)
    have taken := (holds_after earlier copyable').snapshot_eq
      fun a ha => copyable' a (Entity.mem_of_mem_firsts ha)
    exact ⟨_, by rw [taken], Entity.firsts_prefix _ _⟩

/-- A reminder that comes twice, the second time with another title, and one whose token has been
cancelled. -/
def redelivered : List (Call Reminder) :=
  [.add .empty ⟨⟨1⟩, ⟨⟨2⟩⟩, "tea", .epoch, .epoch⟩ ⟨0⟩, .snapshot,
    .add .empty ⟨⟨1⟩, ⟨⟨2⟩⟩, "coffee", .epoch, .epoch⟩ ⟨0⟩, .size,
    .add ⟨[⟨0⟩]⟩ ⟨⟨3⟩, ⟨⟨2⟩⟩, "milk", .epoch, .epoch⟩ ⟨0⟩]

/-- Only the first reminder is kept, with the title that it had then. -/
theorem after_redelivered :
    (after redelivered).snapshot =
        (.taken [⟨⟨1⟩, ⟨⟨2⟩⟩, "tea", .epoch, .epoch⟩], after redelivered) ∧
      (after redelivered).size = .ok 1 ∧ ⟨3⟩ ∉ (after redelivered).ids := by
  have copyable : ∀ a ∈ accepted redelivered, Entity.copies a = true := fun _ _ => rfl
  obtain ⟨ids, -, snapshot, size, -, -⟩ := after_keeps_firsts redelivered copyable
  refine ⟨snapshot.trans rfl, size.trans rfl, ?_⟩
  rw [ids, (holds_after redelivered copyable).entities]
  decide

end InMemory

end Reminders
