import Reminders.Proofs.Mediator.Simulation

/-!
# Dispatch that depends on little

Work under a token need not depend on all of the state. What it may depend on is told by a relation
for each token: related states look alike to work under that token. Work is steady if it has the
same outcome from states that look alike, and leaves states that look alike.

Here a mediator is compared with itself, and only under the token of the dispatch, so handlers may
depend on their own token where other tokens make no difference. A mediator is steady if everything
registered with it is (`Mediator.Steady.of_build`), and then so is every dispatch
(`Mediator.Steady.send`, `Mediator.Steady.publish`).
-/

namespace Reminders

variable {C : Catalog} {σ α β : Type} {R : Token → σ → σ → Prop} {token : Token}

/-- From states that look alike under a token, a task has the same outcome and leaves states that
look alike. -/
abbrev Task.Steady (R : Token → σ → σ → Prop) (token : Token) (task : Task σ α) : Prop :=
  Task.InStep (R token) task task

/-- A policy that is steady under every token. -/
def Policy.Steady (R : Token → σ → σ → Prop) (policy : Policy σ) : Prop :=
  ∀ user requestType token, Task.Steady R token (policy user requestType)

/-- A handler that is steady under its token where publishing is. -/
def Handler.Steady (R : Token → σ → σ → Prop) {k : C.RequestKey} (handler : Handler C σ k) : Prop :=
  ∀ (request : C.Request k) (context : Context C σ),
    (∀ {k : C.EventKey} (event : C.Event k),
      Task.Steady R context.token (context.publish event)) →
    Task.Steady R context.token (handler request context)

/-- A subscription that is steady under the token of each event. -/
def Subscription.Steady (R : Token → σ → σ → Prop) (s : Subscription C σ) : Prop :=
  ∀ event token, Task.Steady R token (s.react event token)

/-- A registration of what is steady. -/
def Registration.Steady (R : Token → σ → σ → Prop) : Registration C σ → Prop
  | .policy p => p.Steady R
  | .handler _ h => h.Steady R
  | .subscription s => s.Steady R

/-- A mediator of which everything registered is steady. -/
structure Mediator.Steady (R : Token → σ → σ → Prop) (m : Mediator C σ) : Prop where
  policy : m.policy.Steady R
  handler : ∀ {k : C.RequestKey} {handler : Handler C σ k}, m.handler? k = some handler →
    handler.Steady R
  subscriptions : ∀ s ∈ m.subscriptions, s.Steady R

theorem Policy.authenticated_steady : (authenticated : Policy σ).Steady R := by
  intro user requestType token
  rw [authenticated_eq_ofExcept]
  exact .ofExcept _

namespace Subscription

theorem Steady.deliver {s : Subscription C σ} (h : s.Steady R) {k : C.EventKey}
    (event : C.Event k) (token : Token) : Task.Steady R token (s.deliver event token) := by
  by_cases own : k = s.event
  · subst own
    rw [deliver_self]
    exact h event token
  · rw [deliver_of_ne s own]
    exact .throw _

theorem deliverAll_steady {ss : List (Subscription C σ)} (h : ∀ s ∈ ss, s.Steady R)
    {k : C.EventKey} (event : C.Event k) (token : Token) :
    Task.Steady R token (deliverAll ss event token) := by
  induction ss with
  | nil => exact .pure ()
  | cons s ss ih =>
      obtain ⟨first, others⟩ := List.forall_mem_cons.mp h
      rw [deliverAll_cons]
      apply Task.InStep.bind (first.deliver event token)
      intro _
      exact ih others

end Subscription

namespace Mediator.Steady

variable {m : Mediator C σ}

/-- Steady registrations build a steady mediator. -/
theorem of_build {rs : List (Registration C σ)} (h : ∀ r ∈ rs, r.Steady R)
    (built : build rs = .ok m) : m.Steady R where
  policy := by
    rcases (policy_eq_iff_of_build built).mp rfl with ⟨earlier, later, split, -⟩ | ⟨same, -⟩
    · exact h (.policy m.policy) (split ▸ by simp)
    · rw [same]
      exact Policy.authenticated_steady
  handler {k handler} found := by
    obtain ⟨earlier, later, split, -⟩ := (handler?_eq_some_iff_of_build built).mp found
    exact h (.handler k handler) (split ▸ by simp)
  subscriptions s member := by
    rw [subscriptions_of_build built] at member
    obtain ⟨r, hr, made⟩ := List.mem_filterMap.mp member
    cases r with
    | policy p => cases made
    | handler k handler => cases made
    | subscription s' =>
        cases made
        exact h _ hr

theorem publish (h : m.Steady R) {k : C.EventKey} (event : C.Event k) (token : Token) :
    Task.Steady R token (m.publish event token) := by
  apply Subscription.deliverAll_steady
  intro s hs
  exact h.subscriptions s (List.mem_of_mem_filter hs)

theorem authorize (h : m.Steady R) {k : C.RequestKey} (request : C.Request k) (token : Token) :
    Task.Steady R token (m.authorize request) := by
  apply Task.InStep.bind (.ofExcept _)
  intro user?
  cases user? with
  | none => exact .pure ()
  | some user => exact h.policy user _ token

theorem send [Cancellable σ] (h : m.Steady R)
    (check : Task.Steady R token (Task.check token : Task σ Unit)) {k : C.RequestKey}
    (request : C.Request k) : Task.Steady R token (m.send request token) := by
  apply Task.InStep.bind check
  intro _
  apply Task.InStep.bind (h.authorize request token)
  intro _
  cases found : m.handler? k with
  | none => exact .throw _
  | some handler =>
      apply h.handler found request (m.context token)
      intro k event
      exact h.publish event token

end Mediator.Steady

end Reminders
