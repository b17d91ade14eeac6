import Mathlib.Data.List.Chain
import Reminders.Proofs.Mediator.History
import Reminders.Proofs.Mediator.Watch

/-!
# Whom an event reaches

An event is handed to the subscriptions of its kind one after the other, each in the state that the
one before it left, until one of them fails. `Delivery` says so of a list of the subscriptions that
were reached, and `Subscription.exists_delivery` finds that list for every delivery.

Publishing does not look at the token, it only passes it on: nothing below asks whether a state
knows of cancelled tokens.
-/

namespace Reminders

variable {C : Catalog} {σ ε : Type} {k : C.EventKey}

/-- How an event is delivered to subscriptions. The list `reached` holds the subscriptions that
were handed the event, each with the state in which it was; `r` and `s'` are the outcome. -/
structure Delivery (ss : List (Subscription C σ)) (event : C.Event k) (token : Token) (s : σ)
    (reached : List (Subscription C σ × σ)) (r : Except Failure Unit) (s' : σ) : Prop where
  /-- No subscription is passed over or reached twice. -/
  inOrder : reached.map Prod.fst <+: ss
  start : ∀ x ∈ reached.head?, x.2 = s
  /-- All but the last one succeed, and the next one starts where they stop. -/
  relay : reached.IsChain fun x y => (x.1.deliver event token).exec x.2 = (.ok (), y.2)
  /-- The outcome is that of the last one. -/
  finish : ∀ x ∈ reached.getLast?, (x.1.deliver event token).exec x.2 = (r, s')
  /-- Nothing happens if nobody is reached. -/
  idle : reached = [] → r = .ok () ∧ s' = s
  /-- Only a failure keeps the event from those not reached. -/
  complete : r = .ok () → reached.map Prod.fst = ss

namespace Delivery

variable {ss : List (Subscription C σ)} {event : C.Event k} {token : Token} {s s₁ s' : σ}
variable {reached : List (Subscription C σ × σ)} {r : Except Failure Unit} {f : Failure}
variable {sub : Subscription C σ}

theorem nil : Delivery ([] : List (Subscription C σ)) event token s [] (.ok ()) s where
  inOrder := List.prefix_rfl
  start := nofun
  relay := .nil
  finish := nofun
  idle _ := ⟨rfl, rfl⟩
  complete _ := rfl

/-- A subscription that fails is the last one reached. -/
theorem stop (h : (sub.deliver event token).exec s = (.error f, s')) :
    Delivery (sub :: ss) event token s [(sub, s)] (.error f) s' where
  inOrder := List.prefix_iff_eq_append.mpr rfl
  start := by simp
  relay := .singleton _
  finish := by simpa using h
  idle := nofun
  complete := nofun

/-- A subscription that succeeds leaves its state to the delivery to the others. -/
theorem next (h : (sub.deliver event token).exec s = (.ok (), s₁))
    (rest : Delivery ss event token s₁ reached r s') :
    Delivery (sub :: ss) event token s ((sub, s) :: reached) r s' where
  inOrder := by
    rw [List.map_cons, List.prefix_cons_inj]
    exact rest.inOrder
  start := by simp
  relay := by
    rw [List.isChain_cons]
    refine ⟨?_, rest.relay⟩
    intro y hy
    rw [rest.start y hy]
    exact h
  finish := by
    intro x hx
    cases hr : reached.getLast? with
    | none =>
        obtain ⟨rfl, rfl⟩ := rest.idle (List.getLast?_eq_none_iff.mp hr)
        simp only [List.getLast?_cons, hr, Option.getD_none, Option.mem_some_iff] at hx
        subst hx
        exact h
    | some y =>
        simp only [List.getLast?_cons, hr, Option.getD_some, Option.mem_some_iff] at hx
        subst hx
        exact rest.finish y hr
  idle := nofun
  complete hr := by rw [List.map_cons, rest.complete hr]

theorem kind_of_mem {kind : String}
    (h : Delivery (ss.filter (·.kind = kind)) event token s reached r s')
    {x : Subscription C σ × σ} (hx : x ∈ reached) : x.1.kind = kind := by
  have member := h.inOrder.subset (List.mem_map_of_mem hx)
  simpa using (List.mem_filter.mp member).2

/-- The list of the subscriptions reached tells how a delivery went. -/
theorem exec_eq (h : Delivery ss event token s reached r s') :
    (Subscription.deliverAll ss event token).exec s = (r, s') := by
  induction reached generalizing ss s with
  | nil =>
      obtain ⟨rfl, rfl⟩ := h.idle rfl
      have all := h.complete rfl
      subst all
      rfl
  | cons x rest ih =>
      obtain ⟨sub, t⟩ := x
      have start := h.start (sub, t) rfl
      dsimp only at start
      subst start
      obtain ⟨left, hleft⟩ := h.inOrder
      rw [List.map_cons, List.cons_append] at hleft
      subst hleft
      rw [Subscription.deliverAll_cons, Task.exec_bind]
      cases rest with
      | nil =>
          rw [h.finish (sub, t) rfl]
          cases r with
          | error f => rfl
          | ok _ =>
              have all := h.complete rfl
              rw [List.map_singleton, List.map_nil, List.nil_append, List.cons.injEq] at all
              rw [List.map_nil, List.nil_append, ← all.2]
              rfl
      | cons y rest =>
          have relay := List.isChain_cons_cons.mp h.relay
          rw [relay.1]
          apply ih
          exact {
            inOrder := List.prefix_append _ _
            start := by simp
            relay := relay.2
            finish := fun z hz => h.finish z (by simpa using hz)
            idle := nofun
            complete := fun hr => (List.cons.inj (h.complete hr)).2 }

end Delivery

namespace Subscription

/-- Every delivery goes on until a subscription fails. Under watch, the journal grows by the
entries of the subscriptions reached. -/
theorem exists_delivery (note : Call C σ → List ε) (ss : List (Subscription C σ))
    (event : C.Event k) (token : Token) (s : σ) (journal : List ε) :
    ∃ reached r s', Delivery ss event token s reached r s' ∧
      (deliverAll ss event token).exec s = (r, s') ∧
      (deliverAll (ss.map (watched note)) event token).exec ⟨s, journal⟩ =
        (r, ⟨s', journal ++ reached.flatMap fun x => x.1.entries note event token x.2⟩) := by
  induction ss generalizing s journal with
  | nil => exact ⟨[], .ok (), s, .nil, rfl, by simp⟩
  | cons sub ss ih =>
      simp only [List.map_cons, deliverAll_cons, Task.exec_bind, deliver_watched,
        Task.exec_noted]
      rcases h : (sub.deliver event token).exec s with ⟨f | _, s₁⟩
      · exact ⟨_, _, _, .stop h, rfl, by simp⟩
      · obtain ⟨reached, r, s', delivery, plain, watched⟩ :=
          ih s₁ (journal ++ sub.entries note event token s)
        refine ⟨_, r, s', delivery.next h, plain, ?_⟩
        simpa using watched

theorem deliverAll_append (ss ss' : List (Subscription C σ)) (event : C.Event k)
    (token : Token) :
    deliverAll (ss ++ ss') event token =
      (do deliverAll ss event token; deliverAll ss' event token) := by
  induction ss with
  | nil => rfl
  | cons s ss ih =>
      rw [List.cons_append, deliverAll_cons, deliverAll_cons, ih, bind_assoc]

/-- An event that subscriptions are handed comes to the outcome `r` and leaves the state `s'`. -/
def Delivered (ss : List (Subscription C σ)) (event : C.Event k) (token : Token) (s : σ)
    (r : Except Failure Unit) (s' : σ) : Prop :=
  ∃ reached, Delivery ss event token s reached r s'

theorem exec_deliverAll_iff {ss : List (Subscription C σ)} {event : C.Event k} {token : Token}
    {s s' : σ} {r : Except Failure Unit} :
    (deliverAll ss event token).exec s = (r, s') ↔ Delivered ss event token s r s' := by
  constructor
  · intro h
    obtain ⟨reached, _, _, delivery, plain, -⟩ :=
      exists_delivery (fun _ => ([] : List Empty)) ss event token s []
    rw [plain] at h
    cases h
    exact ⟨reached, delivery⟩
  · rintro ⟨reached, delivery⟩
    exact delivery.exec_eq

end Subscription

namespace Mediator

/-- An event reaches the subscriptions of its kind in the order of their registration, up to the
first that fails, and the journal lists the calls of exactly those it reached. A subscription to
another type of events of the same kind fails by itself, without being called. -/
theorem publish_delivers {rs : List (Registration C σ)} {m : Mediator C σ}
    (built : build rs = .ok m) (event : C.Event k) (token : Token) (s : σ) :
    ∃ reached r s',
      Delivery ((Registration.subscriptions rs).filter (·.kind = C.kind k)) event token s
        reached r s' ∧
      (m.publish event token).exec s = (r, s') ∧
      (m.traced.publish event token).exec ⟨s, []⟩ =
        (r, ⟨s', reached.flatMap fun x => x.1.entries ([·]) event token x.2⟩) ∧
      (∀ x ∈ reached, x.1.kind = C.kind k) ∧
      (∀ x ∈ reached, ∀ own : k = x.1.event,
        x.1.deliver event token = x.1.react (own ▸ event) token ∧
          x.1.entries ([·]) event token x.2 = [Call.reacted x.1 (own ▸ event) token x.2]) ∧
      (∀ x ∈ reached, k ≠ x.1.event →
        x.1.deliver event token = throw (.configuration
          ("subscriber for " ++ C.kind k ++ " received an event of a different type")) ∧
          x.1.entries ([·] : Call C σ → List (Call C σ)) event token x.2 = []) ∧
      ((∀ t ∈ Registration.subscriptions rs, t.kind ≠ C.kind k) →
        reached = [] ∧ r = .ok () ∧ s' = s) := by
  obtain ⟨reached, r, s', delivery, plain, traced⟩ :=
    Subscription.exists_delivery ([·]) (m.subscribersOf (C.kind k)) event token s []
  rw [← subscribersOf_watched] at traced
  rw [subscribersOf_of_build built] at delivery
  have kinds : ∀ x ∈ reached, x.1.kind = C.kind k := fun x hx => delivery.kind_of_mem hx
  refine ⟨reached, r, s', delivery, plain, traced, kinds, ?_, ?_, ?_⟩
  · rintro ⟨sub, t⟩ - own
    dsimp only at own
    subst own
    simp [Subscription.entries]
  · intro x hx other
    rw [x.1.deliver_of_ne other, Subscription.mistyped, kinds x hx]
    simp [Subscription.entries, other]
  · intro none
    have nobody : (Registration.subscriptions rs).filter (·.kind = C.kind k) = [] := by
      simpa using none
    have reaches := delivery.inOrder
    rw [nobody, List.prefix_nil, List.map_eq_nil_iff] at reaches
    exact ⟨reaches, delivery.idle reaches⟩

/-- Registrations of two subscriptions to one type of events and between them one to another type
of the same kind. -/
def mingled : List (Registration .twins Nat) :=
  [.subscription ⟨⟨"first", by decide, by decide⟩, true, fun _ _ => modify (· + 1)⟩,
    .subscription ⟨⟨"second", by decide, by decide⟩, false, fun _ _ => modify (· + 10)⟩,
    .subscription ⟨⟨"third", by decide, by decide⟩, true, fun _ _ => modify (· + 100)⟩]

/-- The subscription to the other type stops the event after the first one. -/
theorem delivery_of_mingled :
    ∃ m, build mingled = .ok m ∧
      ∃ reached, Delivery (k := true)
        ((Registration.subscriptions mingled).filter (·.kind = "twin")) () ⟨0⟩ 0 reached
        (.error (.configuration "subscriber for twin received an event of a different type"))
        1 := by
  refine ⟨_, rfl, ?_⟩
  obtain ⟨reached, r, s', delivery, plain, -⟩ :=
    publish_delivers (k := true) (show build mingled = .ok _ from rfl) () ⟨0⟩ 0
  cases plain
  exact ⟨reached, delivery⟩

end Mediator

end Reminders
