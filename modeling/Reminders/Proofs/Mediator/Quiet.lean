import Reminders.Proofs.Mediator.Gate
import Reminders.Proofs.Mediator.History
import Reminders.Proofs.Mediator.Watch

/-!
# Registrations that enter nothing

To count what a few registrations do, these are put under watch among others that enter nothing in
the journal. What the quiet ones do is then what they do without a watch, done to the state beside
the journal.
-/

namespace Reminders

variable {C : Catalog} {σ ε : Type}

/-- A policy under watch that enters nothing. -/
def Policy.quiet (policy : Policy σ) : Policy (Watched ε σ) :=
  fun user requestType => (policy user requestType).quiet

/-- A handler under watch that enters nothing. -/
def Handler.quiet {k : C.RequestKey} (handler : Handler C σ k) : Handler C (Watched ε σ) k :=
  fun request context => (handler request context.unwatched).quiet

/-- A subscription under watch that enters nothing. -/
def Subscription.quiet (s : Subscription C σ) : Subscription C (Watched ε σ) where
  consumer := s.consumer
  event := s.event
  react event token := (s.react event token).quiet

/-- A registration under watch that enters nothing. -/
def Registration.quiet : Registration C σ → Registration C (Watched ε σ)
  | .policy p => .policy p.quiet
  | .handler k h => .handler k h.quiet
  | .subscription s => .subscription s.quiet

namespace Registration

variable (rs : List (Registration C σ))

theorem policy?_quiet (r : Registration C σ) :
    (r.quiet : Registration C (Watched ε σ)).policy? = r.policy?.map Policy.quiet := by
  cases r <;> rfl

theorem handler_not_mem_quiet {rs : List (Registration C σ)} {k : C.RequestKey}
    (h : ∀ handler, .handler k handler ∉ rs) (handler : Handler C (Watched ε σ) k) :
    .handler k handler ∉ rs.map quiet := by
  intro member
  obtain ⟨r, hr, same⟩ := List.mem_map.mp member
  cases r with
  | policy p => cases same
  | subscription s => cases same
  | handler k' handler' =>
      cases same
      exact h _ hr

theorem subscriptions_quiet :
    subscriptions (rs.map quiet : List (Registration C (Watched ε σ))) =
      (subscriptions rs).map Subscription.quiet := by
  induction rs with
  | nil => rfl
  | cons r rs ih =>
      cases r with
      | policy p => exact ih
      | handler k h => exact ih
      | subscription s => simpa [quiet] using ih

theorem listings_quiet :
    (subscriptions (rs.map quiet : List (Registration C (Watched ε σ)))).map
        Subscription.listing =
      (subscriptions rs).map Subscription.listing := by
  rw [subscriptions_quiet, List.map_map]
  rfl

theorem subscriptions_ofKind_quiet (kind : String) :
    (subscriptions (rs.map quiet : List (Registration C (Watched ε σ)))).filter (·.kind = kind) =
      ((subscriptions rs).filter (·.kind = kind)).map Subscription.quiet := by
  rw [subscriptions_quiet, List.filter_map]
  rfl

/-- The policy in force is quiet if the registrations are. -/
theorem findSome?_policy?_quiet :
    (rs.map quiet : List (Registration C (Watched ε σ))).findSome? policy? =
      (rs.findSome? policy?).map Policy.quiet := by
  induction rs with
  | nil => rfl
  | cons r rs ih =>
      rw [List.map_cons, List.findSome?_cons, List.findSome?_cons, policy?_quiet]
      cases r.policy? with
      | none => exact ih
      | some p => rfl

end Registration

/-- The policy that a mediator begins with is quiet. -/
theorem Policy.authenticated_quiet :
    (authenticated : Policy σ).quiet = (authenticated : Policy (Watched ε σ)) := by
  funext user requestType
  apply Task.ext
  intro w
  by_cases h : user.isNil <;> simp [quiet, authenticated, h]

namespace Subscription

variable {k : C.EventKey} (event : C.Event k) (token : Token)

theorem deliver_quiet (s : Subscription C σ) :
    s.quiet.deliver event token = ((s.deliver event token).quiet : Task (Watched ε σ) Unit) := by
  by_cases h : k = s.event
  · subst h
    rw [deliver_self]
    exact deliver_self (s.quiet : Subscription C (Watched ε σ)) event token
  · rw [deliver_of_ne s h, deliver_of_ne s.quiet h, Task.quiet_throw]
    rfl

theorem deliverAll_quiet (ss : List (Subscription C σ)) :
    deliverAll (ss.map quiet) event token =
      ((deliverAll ss event token).quiet : Task (Watched ε σ) Unit) := by
  induction ss with
  | nil => exact (Task.quiet_pure ()).symm
  | cons s ss ih =>
      rw [List.map_cons, deliverAll_cons, deliverAll_cons, Task.quiet_bind, deliver_quiet, ih]

end Subscription

namespace Mediator

variable {m : Mediator C σ} {w : Mediator C (Watched ε σ)} {k : C.RequestKey}

/-- The gate depends on the policy alone, and is quiet if that is. -/
theorem gate_quiet [Cancellable σ] (h : w.policy = m.policy.quiet)
    (request : C.Request k) (token : Token) :
    w.gate request token = (m.gate request token).quiet := by
  have check : (Task.check token : Task (Watched ε σ) Unit) = (Task.check token).quiet := by
    apply Task.ext
    intro w
    simp
  have authorize : w.authorize request = (m.authorize request).quiet := by
    simp only [Mediator.authorize, Task.quiet_bind]
    congr 1
    · apply Task.ext
      intro w
      simp
    · funext user?
      cases user? with
      | none => exact (Task.quiet_pure ()).symm
      | some user =>
          rw [h]
          rfl
  rw [gate, gate, Task.quiet_bind, check, authorize]

end Mediator

end Reminders
