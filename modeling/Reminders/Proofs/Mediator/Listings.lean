import Mathlib.Data.List.Count
import Mathlib.Data.String.Basic
import Reminders.Proofs.Mediator.History
import Reminders.Proofs.Mediator.Session
import Reminders.Proofs.Mediator.Watch
import Reminders.Proofs.Text.ByteOrder
import Reminders.Reminder.Catalog

/-!
# The registry of subscriptions

A consumer subscribes to a kind once; what counts is the kind, not the type of events that has it.
The mediator that is built lists its subscriptions by kind, those of one kind in the order in which
they were made. That determines the list (`Listing.Arranges.unique`), so it does not matter in which
order the kinds are come by when the subscriptions are collected kind by kind.
-/

namespace Reminders

open Text (bytes bytes_le_bytes_iff bytesPrecede bytesPrecede_iff bytesPrecede_trans
  bytesPrecede_total)

variable {C : Catalog} {σ : Type}

namespace Listing

/-- A list has the given listings by kind, in the order of the bytes that spell the kinds, and those
of one kind in their own order. -/
structure Arranges (listed given : List Listing) : Prop where
  ascending : listed.Pairwise fun a b => bytes a.kind ≤ bytes b.kind
  inOrder : ∀ kind, listed.filter (·.kind = kind) = given.filter (·.kind = kind)

/-- A list that ascends begins with the least kind of any list that has the same listings of each
kind. -/
theorem first_le {a b : Listing} {listed rest : List Listing}
    (ascending : (b :: rest).Pairwise fun a b => bytes a.kind ≤ bytes b.kind)
    (same : ∀ kind, listed.filter (·.kind = kind) = (b :: rest).filter (·.kind = kind))
    (member : a ∈ listed) : b.kind ≤ a.kind := by
  have kept : a ∈ listed.filter (·.kind = a.kind) := List.mem_filter.mpr ⟨member, by simp⟩
  rw [same] at kept
  rcases List.mem_cons.mp (List.mem_filter.mp kept).1 with rfl | later
  · exact String.le_refl _
  · exact bytes_le_bytes_iff.mp ((List.pairwise_cons.mp ascending).1 a later)

/-- Two lists that ascend by kind and have the same listings of each kind, in the same order, are
the same. -/
theorem eq_of_ascending {listed listed' : List Listing}
    (ascending : listed.Pairwise fun a b => bytes a.kind ≤ bytes b.kind)
    (ascending' : listed'.Pairwise fun a b => bytes a.kind ≤ bytes b.kind)
    (same : ∀ kind, listed.filter (·.kind = kind) = listed'.filter (·.kind = kind)) :
    listed = listed' := by
  induction listed generalizing listed' with
  | nil =>
      cases listed' with
      | nil => rfl
      | cons b rest' => simpa using same b.kind
  | cons a rest ih =>
      cases listed' with
      | nil => simpa using same a.kind
      | cons b rest' =>
          have kinds : a.kind = b.kind := by
            apply String.le_antisymm
            · exact first_le ascending (fun kind => (same kind).symm) List.mem_cons_self
            · exact first_le ascending' same List.mem_cons_self
          have firsts : a = b := by
            have heads := same a.kind
            simp only [List.filter_cons, kinds, decide_true, if_true] at heads
            exact (List.cons.inj heads).1
          subst firsts
          congr 1
          apply ih ascending.of_cons ascending'.of_cons
          intro kind
          have tails := same kind
          simp only [List.filter_cons] at tails
          split at tails
          · exact (List.cons.inj tails).2
          · exact tails

namespace Arranges

variable {listed listed' given : List Listing}

/-- There is one way only to arrange listings. -/
theorem unique (h : Arranges listed given) (h' : Arranges listed' given) : listed = listed' := by
  apply eq_of_ascending h.ascending h'.ascending
  intro kind
  rw [h.inOrder, h'.inOrder]

/-- Nothing is lost, and nothing is listed more often than it was given. -/
theorem perm (h : Arranges listed given) : listed.Perm given := by
  rw [List.perm_iff_count]
  intro a
  calc listed.count a
      = (listed.filter (·.kind = a.kind)).count a := (List.count_filter (by simp)).symm
    _ = (given.filter (·.kind = a.kind)).count a := by rw [h.inOrder]
    _ = given.count a := List.count_filter (by simp)

/-- Sorting by kind arranges listings, since it keeps the order of those that it need not move. -/
theorem mergeSort (given : List Listing) : Arranges (given.mergeSort precedes) given := by
  have precedes_eq : precedes = fun a b => bytesPrecede a.kind b.kind := by
    funext a b
    rw [Bool.eq_iff_iff, bytesPrecede_iff]
    simp [precedes]
  have trans (a b c : Listing) := bytesPrecede_trans a.kind b.kind c.kind
  have total (a b : Listing) := bytesPrecede_total a.kind b.kind
  rw [precedes_eq]
  refine ⟨?_, ?_⟩
  · simpa [bytesPrecede] using List.pairwise_mergeSort trans total given
  · intro kind
    have equals : (given.filter (·.kind = kind)).Pairwise fun a b =>
        bytesPrecede a.kind b.kind = true := by
      rw [List.pairwise_filter]
      apply List.pairwise_of_forall
      intro a b ha hb
      rw [decide_eq_true_eq] at ha hb
      rw [ha, hb, bytesPrecede_iff]
    have kept := (List.sublist_mergeSort trans total equals List.filter_sublist).filter
      fun a => decide (a.kind = kind)
    rw [List.filter_filter] at kept
    simp only [Bool.and_self] at kept
    apply (kept.eq_of_length _).symm
    exact ((List.mergeSort_perm given _).filter _).length_eq.symm

/-- Of distinct kinds at most one has listings of a given kind. -/
theorem flatMap_filter {kinds : List String} (distinct : kinds.Nodup) (kind : String) :
    (kinds.flatMap fun k => (given.filter (·.kind = k)).filter (·.kind = kind)) =
      if kind ∈ kinds then given.filter (·.kind = kind) else [] := by
  induction kinds with
  | nil => rfl
  | cons k kinds ih =>
      obtain ⟨fresh, distinct⟩ := List.nodup_cons.mp distinct
      rw [List.flatMap_cons, ih distinct, List.filter_filter]
      by_cases h : kind = k
      · subst h
        rw [if_neg fresh, if_pos List.mem_cons_self, List.append_nil]
        simp
      · have none : given.filter (fun a => decide (a.kind = kind) && decide (a.kind = k)) = [] := by
          rw [List.filter_eq_nil_iff]
          intro a _ both
          simp only [Bool.and_eq_true, decide_eq_true_eq] at both
          exact h (both.1.symm.trans both.2)
        rw [none, List.nil_append]
        simp [h]

/-- Listings are arranged when they are collected kind by kind, the kinds in the order of their
bytes, in whatever order the kinds were known before. -/
theorem collected {kinds : List String} (distinct : kinds.Nodup)
    (complete : ∀ a ∈ given, a.kind ∈ kinds) :
    Arranges ((kinds.mergeSort bytesPrecede).flatMap fun kind =>
      given.filter (·.kind = kind)) given := by
  have sorted := List.pairwise_mergeSort bytesPrecede_trans bytesPrecede_total kinds
  have perm := List.mergeSort_perm kinds bytesPrecede
  refine ⟨?_, ?_⟩
  · rw [List.pairwise_flatMap]
    refine ⟨?_, ?_⟩
    · intro kind _
      rw [List.pairwise_filter]
      apply List.pairwise_of_forall
      intro a b ha hb
      rw [decide_eq_true_eq] at ha hb
      rw [ha, hb]
      exact List.le_refl _
    · apply sorted.imp
      intro kind kind' le a ha b hb
      simp only [List.mem_filter, decide_eq_true_eq] at ha hb
      rw [ha.2, hb.2]
      simpa [bytesPrecede] using le
  · intro kind
    rw [List.filter_flatMap, flatMap_filter (perm.nodup_iff.mpr distinct)]
    split
    · rfl
    · next absent =>
        symm
        rw [List.filter_eq_nil_iff]
        intro a ha same
        rw [decide_eq_true_eq] at same
        exact absent (perm.mem_iff.mpr (same ▸ complete a ha))

end Arranges

end Listing

namespace Mediator

variable {rs : List (Registration C σ)} {m : Mediator C σ}

/-- Building fails at the first subscription that repeats the kind and the consumer of an earlier
one. -/
theorem build_eq_error_iff {f : Failure} :
    build rs = .error f ↔
      ∃ earlier s later, rs = earlier ++ .subscription s :: later ∧
        ((Registration.subscriptions earlier).map Subscription.listing).Nodup ∧
        s.listing ∈ (Registration.subscriptions earlier).map Subscription.listing ∧
        f = alreadySubscribed s.consumer s.kind := by
  rw [build, registerAll_eq_error_iff]
  constructor
  · rintro ⟨earlier, r, later, n, split, built, fails⟩
    have distinct := exists_build_iff.mp ⟨n, built⟩
    cases r with
    | policy p => cases fails
    | handler k h => cases fails
    | subscription s =>
        obtain ⟨repeated, rfl⟩ := subscribe_eq_error_iff.mp fails
        rw [subscriptions_of_build built] at repeated
        exact ⟨earlier, s, later, split, distinct, repeated, rfl⟩
  · rintro ⟨earlier, s, later, split, distinct, repeated, rfl⟩
    obtain ⟨n, built⟩ := exists_build_iff.mpr distinct
    refine ⟨earlier, .subscription s, later, n, split, built, ?_⟩
    apply subscribe_eq_error_iff.mpr
    rw [subscriptions_of_build built]
    exact ⟨repeated, rfl⟩

/-- The listings of a mediator are those of its subscriptions, arranged. -/
theorem arranges_listings_of_build (built : build rs = .ok m) :
    Listing.Arranges m.listings ((Registration.subscriptions rs).map Subscription.listing) := by
  rw [listings, subscriptions_of_build built]
  exact .mergeSort _

variable [Cancellable σ]

/-- What becomes of subscriptions, whatever else is registered between them. They are all accepted
if no two have the same kind and consumer; otherwise the first one that repeats an earlier kind and
consumer is refused, and the building with it. What is accepted is listed, each subscription once,
by kind in the order of bytes and, within a kind, in the order of registration. That leaves one
possible list, which is also had by collecting the subscriptions kind by kind, in whatever order
their kinds are come by. The list stays the same while the mediator is in use. -/
theorem build_arranges (rs : List (Registration C σ)) :
    ((∃ m, build rs = .ok m) ↔
      ((Registration.subscriptions rs).map Subscription.listing).Nodup) ∧
    (∀ f, build rs = .error f ↔
      ∃ earlier s later, rs = earlier ++ .subscription s :: later ∧
        ((Registration.subscriptions earlier).map Subscription.listing).Nodup ∧
        (∃ t ∈ Registration.subscriptions earlier, t.kind = s.kind ∧ t.consumer = s.consumer) ∧
        f = .configuration
          ("consumer " ++ s.consumer.text ++ " is already subscribed to " ++ s.kind)) ∧
    ∀ m, build rs = .ok m →
      m.listings.Nodup ∧
      m.listings.Perm ((Registration.subscriptions rs).map Subscription.listing) ∧
      (∀ listed, listed = m.listings ↔
        Listing.Arranges listed ((Registration.subscriptions rs).map Subscription.listing)) ∧
      (∀ kinds : List String, kinds.Nodup →
        (∀ t ∈ Registration.subscriptions rs, t.kind ∈ kinds) →
        m.listings = (kinds.mergeSort bytesPrecede).flatMap fun kind =>
          ((Registration.subscriptions rs).filter (·.kind = kind)).map Subscription.listing) ∧
      ∀ (s : σ) (steps : List (Session.Step C σ)),
        ((Session.mk m s).after steps).mediator.listings = m.listings := by
  refine ⟨exists_build_iff, ?_, ?_⟩
  · intro f
    rw [build_eq_error_iff]
    simp only [List.mem_map, Subscription.listing, Listing.mk.injEq, alreadySubscribed]
  · intro m built
    have arranged := arranges_listings_of_build built
    refine ⟨?_, arranged.perm, ?_, ?_, ?_⟩
    · rw [arranged.perm.nodup_iff]
      exact exists_build_iff.mp ⟨m, built⟩
    · intro listed
      constructor
      · rintro rfl
        exact arranged
      · intro arranged'
        exact arranged'.unique arranged
    · intro kinds distinct complete
      have complete' : ∀ a ∈ (Registration.subscriptions rs).map Subscription.listing,
          a.kind ∈ kinds := by
        intro a ha
        obtain ⟨t, ht, rfl⟩ := List.mem_map.mp ha
        exact complete t ht
      rw [arranged.unique (.collected distinct complete')]
      congr 1
      funext kind
      rw [List.filter_map]
      rfl
    · intro s steps
      rw [Session.mediator_after]

/-- Subscriptions of two kinds, mingled. Two of them have different types of events and one kind. -/
def scattered : List (Registration Catalog.twins.withReminders Signals) :=
  [.subscription ⟨⟨"watcher", by decide, by decide⟩, .other true, fun _ _ => pure ()⟩,
    .subscription ⟨⟨"archive", by decide, by decide⟩, .reminderSet, fun _ _ => pure ()⟩,
    .policy Policy.denyAll,
    .subscription ⟨⟨"archive", by decide, by decide⟩, .other false, fun _ _ => pure ()⟩]

/-- The consumer of another kind is listed first. Those of one kind stay in their order, although
their names are in the other. -/
theorem listings_of_scattered :
    ∃ m, build scattered = .ok m ∧
      m.listings = [⟨"reminders.reminder_set", ⟨"archive", by decide, by decide⟩⟩,
        ⟨"twin", ⟨"watcher", by decide, by decide⟩⟩,
        ⟨"twin", ⟨"archive", by decide, by decide⟩⟩] := by
  refine ⟨_, rfl, ?_⟩
  obtain ⟨-, -, -, collect, -⟩ := (build_arranges scattered).2.2 _ rfl
  have sorted : ["reminders.reminder_set", "twin"].mergeSort bytesPrecede =
      ["reminders.reminder_set", "twin"] :=
    List.mergeSort_of_pairwise (by decide)
  rw [collect ["reminders.reminder_set", "twin"] (by decide), sorted]
  · rfl
  · intro t member
    simp only [scattered, Registration.subscriptions_subscription,
      Registration.subscriptions_policy, Registration.subscriptions_nil, List.mem_cons,
      List.not_mem_nil, or_false] at member
    rcases member with rfl | rfl | rfl <;> decide

end Mediator

end Reminders
