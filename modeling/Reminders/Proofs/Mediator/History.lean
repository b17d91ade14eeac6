import Reminders.Mediator.Listing
import Reminders.Mediator.Registration
import Reminders.Proofs.Stages

/-!
# Registries and their history

A mediator forgets the order in which its policies and handlers were registered; only the last of
each counts. The statements below recover its registries from the registrations themselves: the
policy and the handlers in force are the ones that no later registration replaced, and the
subscriptions are all that were made, oldest first.

Every registration but a subscription succeeds, so building fails only when a consumer subscribes
to one kind twice (`exists_build_iff`).
-/

namespace Reminders

variable {C : Catalog} {σ : Type}

namespace Registration

/-- The policy that a registration sets. -/
def policy? : Registration C σ → Option (Policy σ)
  | .policy p => some p
  | .handler .. => none
  | .subscription _ => none

def handler? (k : C.RequestKey) : Registration C σ → Option (Handler C σ k)
  | .policy _ => none
  | .handler k' h => if e : k' = k then some (e ▸ h) else none
  | .subscription _ => none

/-- The subscription that a registration makes. -/
def subscription? : Registration C σ → Option (Subscription C σ)
  | .policy _ => none
  | .handler .. => none
  | .subscription s => some s

theorem policy?_eq_some_iff {r : Registration C σ} {p : Policy σ} :
    r.policy? = some p ↔ r = .policy p := by
  cases r <;> simp [policy?]

theorem handler?_eq_some_iff {r : Registration C σ} {k : C.RequestKey} {h : Handler C σ k} :
    r.handler? k = some h ↔ r = .handler k h := by
  cases r with
  | policy p => simp [handler?]
  | subscription s => simp [handler?]
  | handler k' h' =>
      by_cases hk : k' = k
      · subst hk
        simp [handler?]
      · simp [handler?, hk]

/-- The subscriptions that registrations make, oldest first. -/
def subscriptions (rs : List (Registration C σ)) : List (Subscription C σ) :=
  rs.filterMap subscription?

@[simp] theorem subscriptions_nil : subscriptions ([] : List (Registration C σ)) = [] := rfl

@[simp] theorem subscriptions_policy (p : Policy σ) (rs : List (Registration C σ)) :
    subscriptions (.policy p :: rs) = subscriptions rs := rfl

@[simp] theorem subscriptions_handler {k : C.RequestKey} (h : Handler C σ k)
    (rs : List (Registration C σ)) : subscriptions (.handler k h :: rs) = subscriptions rs := rfl

@[simp] theorem subscriptions_subscription (s : Subscription C σ)
    (rs : List (Registration C σ)) :
    subscriptions (.subscription s :: rs) = s :: subscriptions rs := rfl

@[simp] theorem subscriptions_append (rs rs' : List (Registration C σ)) :
    subscriptions (rs ++ rs') = subscriptions rs ++ subscriptions rs' :=
  List.filterMap_append

/-- A policy is in force after registrations if none was set later. Before any policy is set, it
is the one that accepts every authenticated user. -/
def PolicyInForce (rs : List (Registration C σ)) (p : Policy σ) : Prop :=
  (∃ earlier later, rs = earlier ++ .policy p :: later ∧ ∀ q, .policy q ∉ later) ∨
    (p = Policy.authenticated ∧ ∀ q, .policy q ∉ rs)

/-- A handler is in force after registrations if it was registered and none was registered for the
same type of requests later. -/
def HandlerInForce (rs : List (Registration C σ)) (k : C.RequestKey) (h : Handler C σ k) : Prop :=
  ∃ earlier later, rs = earlier ++ .handler k h :: later ∧ ∀ h', .handler k h' ∉ later

section Latest

variable {α : Type} {rs : List (Registration C σ)}
variable {provide : Registration C σ → Option α} {make : α → Registration C σ}

theorem forall_eq_none_iff (hmake : ∀ {r a}, provide r = some a ↔ r = make a) :
    (∀ r ∈ rs, provide r = none) ↔ ∀ a, make a ∉ rs := by
  constructor
  · intro h a ha
    have hnone := h _ ha
    rw [hmake.mpr rfl] at hnone
    cases hnone
  · intro h r hr
    cases hp : provide r with
    | none => rfl
    | some a => exact absurd (hmake.mp hp ▸ hr) (h a)

/-- What the last registration to provide something provides. -/
theorem findSome?_reverse_eq_some_iff (hmake : ∀ {r a}, provide r = some a ↔ r = make a) {a : α} :
    rs.reverse.findSome? provide = some a ↔
      ∃ earlier later, rs = earlier ++ make a :: later ∧ ∀ b, make b ∉ later := by
  rw [List.findSome?_eq_some_iff]
  constructor
  · rintro ⟨later, r, earlier, hrs, hr, hlater⟩
    refine ⟨earlier.reverse, later.reverse, ?_, ?_⟩
    · rw [← List.reverse_reverse rs, hrs, hmake.mp hr]
      simp
    · apply (forall_eq_none_iff hmake).mp
      simpa using hlater
  · rintro ⟨earlier, later, rfl, hlater⟩
    refine ⟨later.reverse, make a, earlier.reverse, by simp, hmake.mpr rfl, ?_⟩
    intro r hr
    exact (forall_eq_none_iff hmake).mpr hlater r (List.mem_reverse.mp hr)

theorem findSome?_reverse_eq_none_iff (hmake : ∀ {r a}, provide r = some a ↔ r = make a) :
    rs.reverse.findSome? provide = none ↔ ∀ a, make a ∉ rs := by
  rw [List.findSome?_eq_none_iff, ← forall_eq_none_iff hmake]
  simp only [List.mem_reverse]

end Latest

end Registration

namespace Mediator

variable {rs rs' : List (Registration C σ)} {r : Registration C σ} {m m' : Mediator C σ}

theorem any_subscriptions_iff {s : Subscription C σ} :
    (m.subscriptions.any fun t => t.kind = s.kind ∧ t.consumer = s.consumer) = true ↔
      s.listing ∈ m.subscriptions.map Subscription.listing := by
  simp [Subscription.listing]

theorem subscribe_eq_ok_iff {s : Subscription C σ} :
    m.subscribe s = .ok m' ↔
      s.listing ∉ m.subscriptions.map Subscription.listing ∧
        m' = { m with subscriptions := m.subscriptions ++ [s] } := by
  rw [← any_subscriptions_iff, subscribe]
  split
  · next known =>
      constructor
      · nofun
      · rintro ⟨fresh, -⟩
        exact absurd known fresh
  · next fresh =>
      rw [Except.ok.injEq, eq_comm]
      exact (and_iff_right fresh).symm

theorem subscribe_eq_error_iff {s : Subscription C σ} {f : Failure} :
    m.subscribe s = .error f ↔
      s.listing ∈ m.subscriptions.map Subscription.listing ∧
        f = alreadySubscribed s.consumer s.kind := by
  rw [← any_subscriptions_iff, subscribe]
  split
  · next known =>
      rw [Except.error.injEq, eq_comm]
      exact (and_iff_right known).symm
  · next fresh =>
      constructor
      · nofun
      · rintro ⟨known, -⟩
        exact absurd known fresh

/-- One registration changes at most one registry, and only by what it provides. -/
theorem registries_of_register (h : m.register r = .ok m') :
    m'.policy = r.policy?.getD m.policy ∧
      (∀ k, m'.handler? k = (r.handler? k).or (m.handler? k)) ∧
      m'.subscriptions = m.subscriptions ++ r.subscription?.toList := by
  cases r with
  | policy p =>
      cases h
      simp [Registration.policy?, Registration.handler?, Registration.subscription?]
  | handler k' h' =>
      cases h
      refine ⟨by simp [Registration.policy?], ?_, by simp [Registration.subscription?]⟩
      intro k
      by_cases hk : k' = k
      · subst hk
        simp [Registration.handler?]
      · simp [Registration.handler?, hk, handler?_withHandler_of_ne m (Ne.symm hk)]
  | subscription s =>
      obtain ⟨-, rfl⟩ := subscribe_eq_ok_iff.mp h
      simp [Registration.policy?, Registration.handler?, Registration.subscription?, handler?]

/-- Registrations are made in stages. -/
theorem registerAll_eq_foldlM : m.registerAll rs = rs.foldlM register m := by
  induction rs generalizing m with
  | nil => rfl
  | cons r rs ih =>
      rw [registerAll, List.foldlM_cons]
      congr
      funext n
      exact ih

theorem registerAll_cons_eq_ok_iff :
    m.registerAll (r :: rs) = .ok m' ↔ ∃ n, m.register r = .ok n ∧ n.registerAll rs = .ok m' := by
  simp only [registerAll_eq_foldlM]
  exact Stages.foldlM_cons_eq_ok_iff

theorem registerAll_append_eq_ok_iff :
    m.registerAll (rs ++ rs') = .ok m' ↔
      ∃ n, m.registerAll rs = .ok n ∧ n.registerAll rs' = .ok m' := by
  simp only [registerAll_eq_foldlM]
  exact Stages.foldlM_append_eq_ok_iff

theorem registerAll_eq_error_iff {f : Failure} :
    m.registerAll rs = .error f ↔
      ∃ earlier r later n, rs = earlier ++ r :: later ∧ m.registerAll earlier = .ok n ∧
        n.register r = .error f := by
  simp only [registerAll_eq_foldlM]
  exact Stages.foldlM_eq_error_iff

/-- Registrations fail only when a consumer is subscribed to a kind that it is subscribed to
already, be it by them or before. -/
theorem exists_registerAll_iff (distinct : (m.subscriptions.map Subscription.listing).Nodup) :
    (∃ m', m.registerAll rs = .ok m') ↔
      ((m.subscriptions ++ Registration.subscriptions rs).map Subscription.listing).Nodup := by
  induction rs generalizing m with
  | nil => simpa [registerAll] using distinct
  | cons r rs ih =>
      simp only [registerAll_cons_eq_ok_iff]
      rw [exists_comm]
      simp only [exists_and_left]
      cases r with
      | policy p => simpa [register] using ih (m := m.withPolicy p) distinct
      | handler k h => simpa [register] using ih (m := m.withHandler k h) distinct
      | subscription s =>
          simp only [register, subscribe_eq_ok_iff]
          by_cases hs : s.listing ∈ m.subscriptions.map Subscription.listing
          · apply iff_of_false
            · rintro ⟨_, ⟨fresh, -⟩, -⟩
              exact fresh hs
            · intro h
              rw [List.map_append, List.nodup_append] at h
              exact h.2.2 _ hs _ (List.mem_map_of_mem List.mem_cons_self) rfl
          · have grown : ((m.subscriptions ++ [s]).map Subscription.listing).Nodup := by
              rw [List.map_append, List.nodup_append]
              refine ⟨distinct, by simp, ?_⟩
              rintro _ ha _ hb rfl
              rw [List.map_singleton, List.mem_singleton] at hb
              exact hs (hb ▸ ha)
            simpa [hs] using ih (m := { m with subscriptions := m.subscriptions ++ [s] }) grown

/-- A mediator can be built unless some consumer subscribes to a kind twice. -/
theorem exists_build_iff :
    (∃ m, build rs = .ok m) ↔
      ((Registration.subscriptions rs).map Subscription.listing).Nodup := by
  exact exists_registerAll_iff (m := initial) List.nodup_nil

/-- The registries after registrations, from those before. -/
theorem registries_of_registerAll (h : m.registerAll rs = .ok m') :
    m'.policy = (rs.reverse.findSome? Registration.policy?).getD m.policy ∧
      (∀ k, m'.handler? k =
        (rs.reverse.findSome? (Registration.handler? k)).or (m.handler? k)) ∧
      m'.subscriptions = m.subscriptions ++ Registration.subscriptions rs := by
  induction rs generalizing m with
  | nil =>
      cases h
      simp
  | cons r rs ih =>
      obtain ⟨n, hr, hrs⟩ := registerAll_cons_eq_ok_iff.mp h
      obtain ⟨hpolicy, hhandler, hsubscriptions⟩ := registries_of_register hr
      obtain ⟨ihpolicy, ihhandler, ihsubscriptions⟩ := ih hrs
      refine ⟨?_, ?_, ?_⟩
      · rw [ihpolicy, hpolicy, List.reverse_cons, List.findSome?_append]
        cases rs.reverse.findSome? Registration.policy? <;> cases hp : r.policy? <;> simp [hp]
      · intro k
        rw [ihhandler, hhandler, List.reverse_cons, List.findSome?_append, Option.or_assoc]
        cases hk : r.handler? k <;> simp [hk]
      · rw [ihsubscriptions, hsubscriptions]
        cases hs : r.subscription? <;> simp [Registration.subscriptions, hs]

/-- A built mediator asks the policy that was set last. -/
theorem policy_eq_iff_of_build (built : build rs = .ok m) {p : Policy σ} :
    m.policy = p ↔ Registration.PolicyInForce rs p := by
  rw [(registries_of_registerAll built).1, Registration.PolicyInForce,
    ← Registration.findSome?_reverse_eq_some_iff Registration.policy?_eq_some_iff,
    ← Registration.findSome?_reverse_eq_none_iff Registration.policy?_eq_some_iff]
  cases rs.reverse.findSome? Registration.policy? with
  | none => simp [initial, eq_comm]
  | some q => simp

/-- A built mediator finds the handler that was registered last for a type of requests. -/
theorem handler?_eq_some_iff_of_build (built : build rs = .ok m) {k : C.RequestKey}
    {h : Handler C σ k} : m.handler? k = some h ↔ Registration.HandlerInForce rs k h := by
  rw [(registries_of_registerAll built).2.1, Registration.HandlerInForce,
    ← Registration.findSome?_reverse_eq_some_iff Registration.handler?_eq_some_iff]
  simp [initial, handler?, findHandler?]

theorem handler?_eq_none_iff_of_build (built : build rs = .ok m) {k : C.RequestKey} :
    m.handler? k = none ↔ ∀ h, .handler k h ∉ rs := by
  rw [(registries_of_registerAll built).2.1,
    ← Registration.findSome?_reverse_eq_none_iff Registration.handler?_eq_some_iff]
  simp [initial, handler?, findHandler?]

/-- A built mediator keeps every subscription, oldest first. -/
theorem subscriptions_of_build (built : build rs = .ok m) :
    m.subscriptions = Registration.subscriptions rs := by
  rw [(registries_of_registerAll built).2.2]
  simp [initial]

theorem subscribersOf_of_build (built : build rs = .ok m) (kind : String) :
    m.subscribersOf kind = (Registration.subscriptions rs).filter (·.kind = kind) := by
  rw [subscribersOf, subscriptions_of_build built]

/-- What is registered between others: a handler is in force unless it is replaced later, and a
subscription keeps its place among those of its kind. -/
theorem registries_of_build_between {earlier later : List (Registration C σ)} {k : C.RequestKey}
    {h : Handler C σ k} {s : Subscription C σ} (kept : ∀ h', .handler k h' ∉ later)
    (built : build (earlier ++ .handler k h :: .subscription s :: later) = .ok m) :
    m.handler? k = some h ∧
      m.subscribersOf s.kind =
        (Registration.subscriptions earlier).filter (·.kind = s.kind) ++
          s :: (Registration.subscriptions later).filter (·.kind = s.kind) := by
  constructor
  · rw [handler?_eq_some_iff_of_build built]
    refine ⟨earlier, .subscription s :: later, rfl, ?_⟩
    intro h'
    simpa using kept h'
  · rw [subscribersOf_of_build built]
    simp

end Mediator

end Reminders
