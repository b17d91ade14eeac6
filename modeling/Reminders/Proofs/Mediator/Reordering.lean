import Reminders.Proofs.Mediator.Listings

/-!
# Registrations in another order

Policies, handlers for one type of requests and subscriptions to one kind each have an order that
matters. Between them the order does not matter: `Registration.Reorders` relates registrations that
agree key by key, and what they build, if they build anything, cannot be told apart
(`Mediator.build_of_reorders`). A mediator depends on its registries only, and each registry is
determined by the registrations with one key.
-/

namespace Reminders

variable {C : Catalog} {σ : Type}

namespace Registration

/-- What a registration is about. Registrations with different keys have nothing to do with each
other. -/
inductive Key (C : Catalog) where
  | policy
  | handler (k : C.RequestKey)
  | subscription (kind : String)
deriving DecidableEq

/-- The key of a registration. -/
def key : Registration C σ → Key C
  | .policy _ => .policy
  | .handler k _ => .handler k
  | .subscription s => .subscription s.kind

@[simp] theorem key_policy (p : Policy σ) : (policy p : Registration C σ).key = .policy := rfl

@[simp] theorem key_handler (k : C.RequestKey) (h : Handler C σ k) :
    (handler k h).key = .handler k := rfl

@[simp] theorem key_subscription (s : Subscription C σ) :
    (subscription s).key = .subscription s.kind := rfl

/-- The same registrations in another order, which is the same order among those with one key. -/
def Reorders (rs rs' : List (Registration C σ)) : Prop :=
  ∀ key, rs.filter (·.key = key) = rs'.filter (·.key = key)

variable {rs rs' : List (Registration C σ)}

/-- Nothing is left out, and nothing is registered more often than before. -/
theorem Reorders.perm (h : Reorders rs rs') : rs.Perm rs' := by
  classical
  rw [List.perm_iff_count]
  intro r
  calc rs.count r
      = (rs.filter (·.key = r.key)).count r := (List.count_filter (by simp)).symm
    _ = (rs'.filter (·.key = r.key)).count r := by rw [h]
    _ = rs'.count r := List.count_filter (by simp)

theorem filter_key_eq_nil {key : Key C} (absent : key ∉ rs.map Registration.key) :
    rs.filter (·.key = key) = [] := by
  rw [List.filter_eq_nil_iff]
  intro r hr own
  rw [decide_eq_true_eq] at own
  exact absent (own ▸ List.mem_map_of_mem hr)

/-- Only registrations with the key matter for what is found there. -/
theorem findSome?_filter_key {α : Type} {provide : Registration C σ → Option α} {key : Key C}
    (others : ∀ r : Registration C σ, r.key ≠ key → provide r = none)
    (rs : List (Registration C σ)) :
    (rs.filter (·.key = key)).findSome? provide = rs.findSome? provide := by
  induction rs with
  | nil => rfl
  | cons r rs ih =>
      by_cases own : r.key = key
      · simp [own, List.findSome?_cons, ih]
      · simp [own, ih, others r own]

theorem Reorders.findSome?_reverse {α : Type} {provide : Registration C σ → Option α}
    (h : Reorders rs rs') (key : Key C)
    (others : ∀ r : Registration C σ, r.key ≠ key → provide r = none) :
    rs.reverse.findSome? provide = rs'.reverse.findSome? provide := by
  rw [← findSome?_filter_key others, ← findSome?_filter_key others rs'.reverse,
    List.filter_reverse, List.filter_reverse, h]

theorem subscriptions_filter_key (kind : String) (rs : List (Registration C σ)) :
    subscriptions (rs.filter (·.key = .subscription kind)) =
      (subscriptions rs).filter (·.kind = kind) := by
  induction rs with
  | nil => rfl
  | cons r rs ih =>
      cases r with
      | policy p => simpa using ih
      | handler k h => simpa using ih
      | subscription s =>
          by_cases own : s.kind = kind
          · simp [own, ih]
          · simp [own, ih]

/-- The subscriptions of one kind stay in their order. -/
theorem Reorders.subscriptions_ofKind (h : Reorders rs rs') (kind : String) :
    (subscriptions rs).filter (·.kind = kind) = (subscriptions rs').filter (·.kind = kind) := by
  rw [← subscriptions_filter_key, ← subscriptions_filter_key, h]

end Registration

namespace Mediator

variable {rs rs' : List (Registration C σ)} {m m' : Mediator C σ}

theorem findHandler?_eq_none_iff {k : C.RequestKey}
    {l : List ((k : C.RequestKey) × Handler C σ k)} :
    findHandler? k l = none ↔ k ∉ l.map Sigma.fst := by
  induction l with
  | nil => simp [findHandler?]
  | cons p l ih =>
      obtain ⟨k', h⟩ := p
      by_cases own : k' = k
      · subst own
        simp [findHandler?]
      · simp [findHandler?, own, Ne.symm own, ih]

/-- A mediator keeps one handler at most for a type of requests. -/
theorem nodup_handlers_of_build (built : build rs = .ok m) : (m.handlers.map Sigma.fst).Nodup := by
  have start : ((initial : Mediator C σ).handlers.map Sigma.fst).Nodup := List.nodup_nil
  rw [build, registerAll_eq_foldlM] at built
  refine Stages.foldlM_keeps (P := fun m => (m.handlers.map Sigma.fst).Nodup) ?_ start built
  intro m distinct r _ m' made
  cases r with
  | policy p =>
      cases made
      exact distinct
  | handler k h =>
      cases made
      rw [withHandler, List.map_append, List.nodup_append]
      refine ⟨distinct.sublist (List.filter_sublist.map Sigma.fst), by simp, ?_⟩
      intro k' earlier _ last
      obtain ⟨p, kept, rfl⟩ := List.mem_map.mp earlier
      cases List.mem_singleton.mp last
      simpa using (List.mem_filter.mp kept).2
  | subscription s =>
      obtain ⟨-, rfl⟩ := subscribe_eq_ok_iff.mp made
      exact distinct

/-- Mediators with the same registries. The order in which they keep handlers and subscriptions of
different kinds may differ. -/
structure SameRegistries (m m' : Mediator C σ) : Prop where
  policy : m.policy = m'.policy
  handler : ∀ k, m.handler? k = m'.handler? k
  subscribers : ∀ kind, m.subscribersOf kind = m'.subscribersOf kind

namespace SameRegistries

theorem publish (h : SameRegistries m m') {k : C.EventKey} (event : C.Event k) (token : Token) :
    m.publish event token = m'.publish event token := by
  rw [Mediator.publish, Mediator.publish, h.subscribers]

theorem context (h : SameRegistries m m') (token : Token) : m.context token = m'.context token := by
  simp only [Mediator.context, h.publish]

theorem send [Cancellable σ] (h : SameRegistries m m') {k : C.RequestKey} (request : C.Request k)
    (token : Token) : m.send request token = m'.send request token := by
  simp only [Mediator.send, Mediator.authorize, h.policy, h.handler, h.context]

theorem watched {ε : Type} (h : SameRegistries m m') (note : Call C σ → List ε) :
    SameRegistries (m.watched note) (m'.watched note) where
  policy := congrArg (Policy.watched note) h.policy
  handler k := by rw [handler?_watched, handler?_watched, h.handler]
  subscribers kind := by rw [subscribersOf_watched, subscribersOf_watched, h.subscribers]

/-- A session goes the same way with either mediator. -/
theorem trace [Cancellable σ] (h : SameRegistries m m') (s : σ) (steps : List (Session.Step C σ)) :
    ((Session.mk m s).trace steps).map (fun reply => (reply.1, reply.2.state)) =
      ((Session.mk m' s).trace steps).map (fun reply => (reply.1, reply.2.state)) := by
  induction steps generalizing s with
  | nil => rfl
  | cons step steps ih =>
      cases step with
      | send request token =>
          simp only [Session.trace, Session.perform, List.map_cons, h.send, ih]
      | publish event token =>
          simp only [Session.trace, Session.perform, List.map_cons, h.publish, ih]
      | meanwhile change => simp only [Session.trace, Session.perform, List.map_cons, ih]

end SameRegistries

theorem sameRegistries_of_reorders (h : Registration.Reorders rs rs') (built : build rs = .ok m)
    (built' : build rs' = .ok m') : SameRegistries m m' where
  policy := by
    rw [(registries_of_registerAll built).1, (registries_of_registerAll built').1,
      h.findSome?_reverse .policy]
    rintro (p | ⟨k, h⟩ | s) other
    · exact absurd rfl other
    · rfl
    · rfl
  handler k := by
    rw [(registries_of_registerAll built).2.1, (registries_of_registerAll built').2.1,
      h.findSome?_reverse (.handler k)]
    rintro (p | ⟨k', h⟩ | s) other
    · rfl
    · simp only [Registration.key_handler, ne_eq, Registration.Key.handler.injEq] at other
      simp [Registration.handler?, other]
    · rfl
  subscribers kind := by
    rw [subscribersOf_of_build built, subscribersOf_of_build built', h.subscriptions_ofKind]

/-- Whether consumers repeat a subscription does not depend on the order. -/
theorem exists_build_iff_of_reorders (h : Registration.Reorders rs rs') :
    (∃ m, build rs = .ok m) ↔ ∃ m', build rs' = .ok m' := by
  rw [exists_build_iff, exists_build_iff]
  exact ((h.perm.filterMap Registration.subscription?).map Subscription.listing).nodup_iff

theorem length_handlers_of_reorders (h : Registration.Reorders rs rs') (built : build rs = .ok m)
    (built' : build rs' = .ok m') : m.handlers.length = m'.handlers.length := by
  have keys : (m.handlers.map Sigma.fst).Perm (m'.handlers.map Sigma.fst) := by
    rw [List.perm_ext_iff_of_nodup (nodup_handlers_of_build built) (nodup_handlers_of_build built')]
    intro k
    have none := (sameRegistries_of_reorders h built built').handler k
    rw [← not_iff_not, ← findHandler?_eq_none_iff, ← findHandler?_eq_none_iff]
    rw [handler?, handler?] at none
    rw [none]
  simpa using keys.length_eq

theorem listings_eq_of_reorders (h : Registration.Reorders rs rs') (built : build rs = .ok m)
    (built' : build rs' = .ok m') : m.listings = m'.listings := by
  have arranged := arranges_listings_of_build built
  have arranged' := arranges_listings_of_build built'
  refine arranged.unique ⟨arranged'.ascending, ?_⟩
  intro kind
  have kept := congrArg (List.map Subscription.listing) (h.subscriptions_ofKind kind)
  rw [arranged'.inOrder, List.filter_map, List.filter_map]
  exact kept.symm

variable [Cancellable σ]

/-- Registrations with different keys commute. Let registrations be made in two orders that agree
on the policies, on the handlers for each type of requests and on the subscriptions to each kind.
Then either both orders build a mediator or neither does. The two mediators cannot be told apart:
they send and publish alike, with the same answers, the same effects and the same calls to what was
registered, they list and describe the same subscriptions, and every session goes the same way with
either of them. -/
theorem build_of_reorders (h : Registration.Reorders rs rs') :
    ((∃ m, build rs = .ok m) ↔ ∃ m', build rs' = .ok m') ∧
    ∀ m m', build rs = .ok m → build rs' = .ok m' →
      (∀ {k : C.RequestKey} (request : C.Request k) (token : Token),
        m.send request token = m'.send request token ∧
        m.traced.send request token = m'.traced.send request token) ∧
      (∀ {k : C.EventKey} (event : C.Event k) (token : Token),
        m.publish event token = m'.publish event token ∧
        m.traced.publish event token = m'.traced.publish event token) ∧
      m.listings = m'.listings ∧ m.describe = m'.describe ∧
      ∀ (s : σ) (steps : List (Session.Step C σ)),
        ((Session.mk m s).trace steps).map (fun reply => (reply.1, reply.2.state)) =
          ((Session.mk m' s).trace steps).map (fun reply => (reply.1, reply.2.state)) := by
  refine ⟨exists_build_iff_of_reorders h, ?_⟩
  intro m m' built built'
  have same := sameRegistries_of_reorders h built built'
  have listed := listings_eq_of_reorders h built built'
  refine ⟨?_, ?_, listed, ?_, same.trace⟩
  · intro k request token
    exact ⟨same.send request token, (same.watched _).send request token⟩
  · intro k event token
    exact ⟨same.publish event token, (same.watched _).publish event token⟩
  · unfold describe
    rw [length_handlers_of_reorders h built built', listed]

/-- Registrations as they may come in: a policy and a handler that are replaced later stand between
subscriptions of two kinds. -/
def interleaved : List (Registration Catalog.twins.withReminders Signals) :=
  [.policy Policy.denyAll,
    .subscription ⟨⟨"breaker", by decide, by decide⟩, .other true, fun _ token =>
      modify (·.cancel token)⟩,
    .handler (.other ()) fun _ _ => return "first",
    .subscription ⟨⟨"ledger", by decide, by decide⟩, .reminderSet, fun _ _ => pure ()⟩,
    .policy Policy.authenticated,
    .subscription ⟨⟨"ledger", by decide, by decide⟩, .other true, fun _ token =>
      Task.check token⟩,
    .handler (.other ()) fun _ context => do
      context.publish (k := .other true) ()
      return "last"]

/-- The same registrations key by key. -/
def grouped : List (Registration Catalog.twins.withReminders Signals) :=
  [.subscription ⟨⟨"ledger", by decide, by decide⟩, .reminderSet, fun _ _ => pure ()⟩,
    .subscription ⟨⟨"breaker", by decide, by decide⟩, .other true, fun _ token =>
      modify (·.cancel token)⟩,
    .subscription ⟨⟨"ledger", by decide, by decide⟩, .other true, fun _ token =>
      Task.check token⟩,
    .handler (.other ()) fun _ _ => return "first",
    .handler (.other ()) fun _ context => do
      context.publish (k := .other true) ()
      return "last",
    .policy Policy.denyAll, .policy Policy.authenticated]

theorem reorders_interleaved : Registration.Reorders interleaved grouped := by
  intro key
  cases key with
  | policy => rfl
  | handler k =>
      cases k with
      | setReminder => rfl
      | other k => rfl
  | subscription kind =>
      by_cases reminders : ReminderSet.kind = kind
      · subst reminders
        rfl
      · by_cases twin : "twin" = kind
        · subst twin
          rfl
        · rw [Registration.filter_key_eq_nil, Registration.filter_key_eq_nil]
          · have keys : grouped.map Registration.key = [.subscription ReminderSet.kind,
              .subscription "twin", .subscription "twin", .handler (.other ()),
              .handler (.other ()), .policy, .policy] := rfl
            rw [keys]
            simp [Ne.symm reminders, Ne.symm twin]
          · have keys : interleaved.map Registration.key = [.policy, .subscription "twin",
              .handler (.other ()), .subscription ReminderSet.kind, .policy,
              .subscription "twin", .handler (.other ())] := rfl
            rw [keys]
            simp [Ne.symm reminders, Ne.symm twin]

/-- In either order the request is let in and the event published, and it fails since the first of
the two subscribers of its kind cancels the token. -/
theorem cancelled_of_interleaved :
    Registration.Reorders interleaved grouped ∧
    ∃ m m', build interleaved = .ok m ∧ build grouped = .ok m' ∧ m.listings = m'.listings ∧
      (m.send (k := .other ()) (Identity.identified ⟨⟨1⟩⟩) ⟨0⟩).exec .empty =
        (.error .cancelled, ⟨[⟨0⟩]⟩) ∧
      (m'.send (k := .other ()) (Identity.identified ⟨⟨1⟩⟩) ⟨0⟩).exec .empty =
        (.error .cancelled, ⟨[⟨0⟩]⟩) := by
  obtain ⟨m, built, answered⟩ : ∃ m, build interleaved = .ok m ∧
      (m.send (k := .other ()) (Identity.identified ⟨⟨1⟩⟩) ⟨0⟩).exec .empty =
        (.error .cancelled, ⟨[⟨0⟩]⟩) :=
    ⟨_, rfl, rfl⟩
  obtain ⟨builds, alike⟩ := build_of_reorders reorders_interleaved
  obtain ⟨m', built'⟩ := builds.mp ⟨m, built⟩
  obtain ⟨sends, -, listed, -⟩ := alike m m' built built'
  have same := (sends (k := .other ()) (Identity.identified ⟨⟨1⟩⟩) ⟨0⟩).1
  refine ⟨reorders_interleaved, m, m', built, built', listed, answered, ?_⟩
  exact (congrArg (Task.exec · .empty) same).symm.trans answered

end Mediator

end Reminders
