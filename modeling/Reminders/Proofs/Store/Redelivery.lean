import Mathlib.Data.List.Perm.Basic
import Reminders.Proofs.Store.Keeping
import Reminders.Proofs.Store.Poisoning

/-!
# Deliveries in another order

Entities are delivered to a store under tokens that are not cancelled. A sound store keeps what it
has and takes, at the end, the first entity with each identifier that it does not know
(`InMemory.Grows.receive` for one delivery, `InMemory.grows_receiveAll` for all of them).

In another order, and with repetitions, the same entities bring the same identifiers, and as many
entities. Which entities they bring depends on the order only if some of them differ and yet have
the same identifier.
-/

namespace Reminders

variable {α : Type}

/-- The same elements in any order, some of them perhaps more often. -/
def Redelivers (as bs : List α) : Prop := ∃ again, again ⊆ as ∧ bs.Perm (as ++ again)

theorem Redelivers.mem_iff {as bs : List α} (h : Redelivers as bs) (a : α) : a ∈ bs ↔ a ∈ as := by
  obtain ⟨again, known, perm⟩ := h
  rw [perm.mem_iff, List.mem_append, or_iff_left_of_imp (known ·)]

variable [Entity α]

namespace Entity

/-- Entities that are told apart by their identifiers. -/
def Distinguishes (as : List α) : Prop := ∀ a ∈ as, ∀ b ∈ as, id a = id b → a = b

/-- If entities are told apart by their identifiers, no entity comes after another in its place. -/
theorem mem_firsts_iff {as : List α} (h : Distinguishes as) (a : α) : a ∈ firsts as ↔ a ∈ as := by
  constructor
  · exact mem_of_mem_firsts
  · intro member
    have known := (mem_ids_firsts as (id a)).mpr (List.mem_map_of_mem member)
    obtain ⟨b, first, same⟩ := List.mem_map.mp known
    rwa [← h b (mem_of_mem_firsts first) a member same]

end Entity

namespace InMemory

open Entity (firsts Distinguishes)

/-- An entity that is delivered under a token which is not cancelled. -/
structure Delivery (α : Type) where
  signals : Signals
  entity : α
  token : Token
  live : signals.isCancelled token = false

/-- The store after a delivery. -/
def receive (store : InMemory α) (delivery : Delivery α) : InMemory α :=
  (store.add delivery.signals delivery.entity delivery.token).2

/-- The store after deliveries, one after the other. -/
def receiveAll (store : InMemory α) (deliveries : List (Delivery α)) : InMemory α :=
  deliveries.foldl receive store

/-- Of some entities those that a store would take: the first with each unknown identifier. -/
def news (store : InMemory α) (as : List α) : List α :=
  (firsts as).filter fun a => Entity.id a ∉ store.ids

variable {store : InMemory α}

theorem receive_of_known {delivery : Delivery α} (known : Entity.id delivery.entity ∈ store.ids) :
    store.receive delivery = store :=
  store_add_of_mem known delivery.signals delivery.token

theorem receive_of_new {delivery : Delivery α} (sound : store.poisoned = false)
    (new : Entity.id delivery.entity ∉ store.ids) :
    store.receive delivery = { store with
      ids := store.ids.insert (Entity.id delivery.entity)
      entities := store.entities.push delivery.entity } :=
  congrArg Prod.snd (add_of_not_mem delivery.live sound new)

section News

variable (store)

theorem news_concat (as : List α) (a : α) :
    store.news (as ++ [a]) =
      if Entity.id a ∈ store.ids ∨ Entity.id a ∈ as.map Entity.id then store.news as
      else store.news as ++ [a] := by
  rw [news, Entity.firsts_concat]
  by_cases before : Entity.id a ∈ as.map Entity.id
  · rw [if_pos before, if_pos (.inr before), news]
  · rw [if_neg before, List.filter_append, List.filter_singleton]
    by_cases known : Entity.id a ∈ store.ids
    · simp [known, news]
    · rw [if_neg (not_or.mpr ⟨known, before⟩)]
      simp [known, news]

theorem nodup_ids_news (as : List α) : ((store.news as).map Entity.id).Nodup :=
  (Entity.nodup_ids_firsts as).sublist (List.filter_sublist.map Entity.id)

theorem mem_ids_news (as : List α) (u : Uuid) :
    u ∈ (store.news as).map Entity.id ↔ u ∈ as.map Entity.id ∧ u ∉ store.ids := by
  rw [← Entity.mem_ids_firsts as]
  simp only [news, List.mem_map, List.mem_filter, decide_eq_true_eq]
  constructor
  · rintro ⟨a, ⟨first, new⟩, rfl⟩
    exact ⟨⟨a, first, rfl⟩, new⟩
  · rintro ⟨⟨a, first, rfl⟩, new⟩
    exact ⟨a, ⟨first, new⟩, rfl⟩

variable {as bs : List α}

/-- The identifiers of the news do not depend on the order of the entities. -/
theorem ids_news_perm (same : ∀ a, a ∈ bs ↔ a ∈ as) :
    ((store.news as).map Entity.id).Perm ((store.news bs).map Entity.id) := by
  rw [List.perm_ext_iff_of_nodup (store.nodup_ids_news as) (store.nodup_ids_news bs)]
  intro u
  rw [mem_ids_news, mem_ids_news]
  simp only [List.mem_map, same]

theorem length_news_eq (same : ∀ a, a ∈ bs ↔ a ∈ as) :
    (store.news as).length = (store.news bs).length := by
  simpa using (store.ids_news_perm same).length_eq

/-- Entities that are told apart by their identifiers are the same news in any order. -/
theorem news_perm (same : ∀ a, a ∈ bs ↔ a ∈ as) (distinct : Distinguishes as) :
    (store.news as).Perm (store.news bs) := by
  have distinct' : Distinguishes bs := by
    intro a ha b hb
    exact distinct a ((same a).mp ha) b ((same b).mp hb)
  rw [List.perm_ext_iff_of_nodup (.of_map _ (store.nodup_ids_news as))
    (.of_map _ (store.nodup_ids_news bs))]
  intro a
  simp only [news, List.mem_filter, Entity.mem_firsts_iff distinct,
    Entity.mem_firsts_iff distinct', same]

end News

/-- How a store has grown by entities that were delivered to it. -/
structure Grows (store : InMemory α) (as : List α) (store' : InMemory α) : Prop where
  sound : store'.poisoned = false
  entities : store'.entities.toList = store.entities.toList ++ store.news as
  mem_ids : ∀ u, u ∈ store'.ids ↔ u ∈ store.ids ∨ u ∈ as.map Entity.id

namespace Grows

variable {as : List α} {store' : InMemory α}

theorem size_eq (h : Grows store as store') :
    store'.size = .ok (store.entities.size + (store.news as).length) := by
  rw [size, if_neg (by simp [h.sound]), ← Array.length_toList, h.entities, List.length_append,
    Array.length_toList]

theorem snapshot_eq (h : Grows store as store')
    (copyable : ∀ a ∈ store.entities, Entity.copies a = true)
    (copyable' : ∀ a ∈ as, Entity.copies a = true) :
    store'.snapshot = (.taken (store.entities.toList ++ store.news as), store') := by
  have whole : ¬ store'.Spoilt := by
    rintro ⟨a, member, stuck⟩
    rw [← Array.mem_toList_iff, h.entities, List.mem_append, Array.mem_toList_iff] at member
    rcases member with before | new
    · cases (copyable a before).symm.trans stuck
    · cases (copyable' a (Entity.mem_of_mem_firsts (List.mem_of_mem_filter new))).symm.trans stuck
  rw [snapshot_of_not_spoilt h.sound whole, h.entities]

/-- One more delivery to a store that has grown. -/
theorem receive (h : Grows store as store') (delivery : Delivery α) :
    Grows store (as ++ [delivery.entity]) (store'.receive delivery) := by
  by_cases known : Entity.id delivery.entity ∈ store'.ids
  · rw [receive_of_known known]
    have known' := (h.mem_ids _).mp known
    refine ⟨h.sound, ?_, ?_⟩
    · rw [news_concat, if_pos known', h.entities]
    · intro u
      rw [h.mem_ids, List.map_append, List.mem_append, List.map_singleton, List.mem_singleton]
      constructor
      · exact Or.imp_right .inl
      · rintro (before | later | rfl)
        · exact .inl before
        · exact .inr later
        · exact known'
  -- What is new to the grown store is news to the one it has grown from.
  · rw [receive_of_new h.sound known]
    refine ⟨h.sound, ?_, ?_⟩
    · rw [news_concat, if_neg (mt (h.mem_ids _).mpr known), Array.toList_push, h.entities,
        List.append_assoc]
    · intro u
      rw [Std.HashSet.mem_insert, h.mem_ids, List.map_append, List.mem_append, List.map_singleton,
        List.mem_singleton, beq_iff_eq, or_comm, or_assoc, @eq_comm _ u]

end Grows

theorem grows_receiveAll (sound : store.poisoned = false) (deliveries : List (Delivery α)) :
    Grows store (deliveries.map Delivery.entity) (store.receiveAll deliveries) := by
  induction deliveries using List.reverseRecOn with
  | nil => exact ⟨sound, by simp [receiveAll, news], by simp [receiveAll]⟩
  | append_singleton deliveries delivery ih =>
      rw [List.map_append, receiveAll, List.foldl_concat]
      exact ih.receive delivery

/-- Deliveries of nothing but what a store knows leave it as it is. -/
theorem receiveAll_of_known {deliveries : List (Delivery α)}
    (known : ∀ delivery ∈ deliveries, Entity.id delivery.entity ∈ store.ids) :
    store.receiveAll deliveries = store := by
  induction deliveries with
  | nil => rfl
  | cons delivery deliveries ih =>
      obtain ⟨first, others⟩ := List.forall_mem_cons.mp known
      rw [receiveAll, List.foldl_cons, receive_of_known first]
      exact ih others

/-- What becomes of a sound store does not depend much on the order in which entities are delivered
to it, nor on how often each of them comes. There are the same identifiers and as many entities in
the end, and what was there before is still in front of the news of the deliveries. If the entities
are told apart by their identifiers, the news are the same, in some order. And what has been
delivered once and then comes again, in any order, changes nothing at all. -/
theorem receiveAll_of_redelivers (sound : store.poisoned = false)
    {deliveries deliveries' : List (Delivery α)}
    (h : Redelivers (deliveries.map Delivery.entity) (deliveries'.map Delivery.entity)) :
    (∀ u, u ∈ (store.receiveAll deliveries).ids ↔ u ∈ (store.receiveAll deliveries').ids) ∧
      (∃ n, (store.receiveAll deliveries).size = .ok n ∧
        (store.receiveAll deliveries').size = .ok n) ∧
      ((store.receiveAll deliveries).entities.toList =
          store.entities.toList ++ store.news (deliveries.map Delivery.entity) ∧
        (store.receiveAll deliveries').entities.toList =
          store.entities.toList ++ store.news (deliveries'.map Delivery.entity) ∧
        (Distinguishes (deliveries.map Delivery.entity) →
          (store.news (deliveries.map Delivery.entity)).Perm
            (store.news (deliveries'.map Delivery.entity))) ∧
        ((∀ a ∈ store.entities, Entity.copies a = true) →
          (∀ delivery ∈ deliveries, Entity.copies delivery.entity = true) →
          store.snapshot = (.taken store.entities.toList, store) ∧
          (store.receiveAll deliveries).snapshot =
            (.taken (store.entities.toList ++ store.news (deliveries.map Delivery.entity)),
              store.receiveAll deliveries) ∧
          (store.receiveAll deliveries').snapshot =
            (.taken (store.entities.toList ++ store.news (deliveries'.map Delivery.entity)),
              store.receiveAll deliveries'))) ∧
      (store.receiveAll deliveries).receiveAll deliveries' = store.receiveAll deliveries := by
  have grows := grows_receiveAll sound deliveries
  have grows' := grows_receiveAll sound deliveries'
  refine ⟨?_, ?_, ⟨grows.entities, grows'.entities, store.news_perm h.mem_iff, ?_⟩, ?_⟩
  · intro u
    rw [grows.mem_ids, grows'.mem_ids]
    simp only [List.mem_map (f := Entity.id), h.mem_iff]
  · rw [grows.size_eq, grows'.size_eq, store.length_news_eq h.mem_iff]
    exact ⟨_, rfl, rfl⟩
  · intro copyable copyable'
    have delivered : ∀ a ∈ deliveries.map Delivery.entity, Entity.copies a = true :=
      List.forall_mem_map.mpr copyable'
    have delivered' : ∀ a ∈ deliveries'.map Delivery.entity, Entity.copies a = true :=
      fun a member => delivered a ((h.mem_iff a).mp member)
    refine ⟨?_, grows.snapshot_eq copyable delivered, grows'.snapshot_eq copyable delivered'⟩
    simpa [news, receiveAll] using (grows_receiveAll sound []).snapshot_eq copyable nofun
  · apply receiveAll_of_known
    intro delivery member
    rw [grows.mem_ids]
    refine .inr (List.mem_map_of_mem ?_)
    rw [← h.mem_iff]
    exact List.mem_map_of_mem member

/-- A reminder, delivered under a token that nobody has cancelled. -/
def errand (id : Uuid) (title : String) : Delivery Reminder :=
  ⟨.empty, ⟨id, ⟨⟨2⟩⟩, title, .epoch, .epoch⟩, ⟨0⟩, rfl⟩

/-- A store that holds one reminder. -/
def stocked : InMemory Reminder :=
  ⟨(∅ : Std.HashSet Uuid).insert ⟨1⟩, #[(errand ⟨1⟩ "tea").entity], false⟩

/-- Three reminders, the first of which the store has under another title. -/
def errands : List (Delivery Reminder) :=
  [errand ⟨1⟩ "coffee", errand ⟨3⟩ "milk", errand ⟨4⟩ "bread"]

/-- The same reminders backwards, one of them twice. -/
def errandsAgain : List (Delivery Reminder) :=
  [errand ⟨4⟩ "bread", errand ⟨3⟩ "milk", errand ⟨1⟩ "coffee", errand ⟨3⟩ "milk"]

/-- The first title stays where it was, and the rest comes in one order or the other. -/
theorem snapshots_of_errands :
    Redelivers (errands.map Delivery.entity) (errandsAgain.map Delivery.entity) ∧
      (stocked.news (errands.map Delivery.entity)).Perm
        (stocked.news (errandsAgain.map Delivery.entity)) ∧
      (stocked.receiveAll errands).snapshot =
        (.taken ([errand ⟨1⟩ "tea", errand ⟨3⟩ "milk", errand ⟨4⟩ "bread"].map Delivery.entity),
          stocked.receiveAll errands) ∧
      (stocked.receiveAll errandsAgain).snapshot =
        (.taken ([errand ⟨1⟩ "tea", errand ⟨4⟩ "bread", errand ⟨3⟩ "milk"].map Delivery.entity),
          stocked.receiveAll errandsAgain) ∧
      (stocked.receiveAll errands).receiveAll errandsAgain = stocked.receiveAll errands := by
  have sound : stocked.poisoned = false := rfl
  have redelivers : Redelivers (errands.map Delivery.entity) (errandsAgain.map Delivery.entity) :=
    ⟨[(errand ⟨3⟩ "milk").entity], by decide, by decide⟩
  have distinct : Distinguishes (errands.map Delivery.entity) := by
    unfold Distinguishes
    decide
  have known (u : Uuid) : u ∈ stocked.ids ↔ u = ⟨1⟩ := by
    rw [stocked, Std.HashSet.mem_insert, beq_iff_eq, or_iff_left Std.HashSet.not_mem_empty, eq_comm]
  have news : stocked.news (errands.map Delivery.entity) =
      [errand ⟨3⟩ "milk", errand ⟨4⟩ "bread"].map Delivery.entity := by
    simp only [InMemory.news, known]
    decide
  have news' : stocked.news (errandsAgain.map Delivery.entity) =
      [errand ⟨4⟩ "bread", errand ⟨3⟩ "milk"].map Delivery.entity := by
    simp only [InMemory.news, known]
    decide
  obtain ⟨-, -, ⟨-, -, perm, taken⟩, unchanged⟩ := receiveAll_of_redelivers sound redelivers
  obtain ⟨-, once, again⟩ := taken (fun _ _ => rfl) (fun _ _ => rfl)
  rw [news] at once
  rw [news'] at again
  exact ⟨redelivers, perm distinct, once, again, unchanged⟩

end InMemory

end Reminders
