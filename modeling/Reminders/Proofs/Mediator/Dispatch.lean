import Reminders.Proofs.Mediator.Gate
import Reminders.Proofs.Mediator.History
import Reminders.Proofs.Mediator.Watch

/-!
# What a dispatch comes to

A request is decided by the first of these that applies: its token is cancelled, it is identified
by the nil id, the policy in force refuses it, no handler is in force for its type, and otherwise
the handler in force answers. `Decision` has one rule for each, told from the registrations alone,
with the state that is left and the calls that were made.

Dispatch under watch follows these rules and no others, so the journal of a refused request holds
at most the one question to the policy.
-/

namespace Reminders

variable {C : Catalog} {σ : Type} {rs : List (Registration C σ)} {m : Mediator C σ}
variable {k : C.RequestKey} {request : C.Request k} {token : Token} {s s' : σ}
variable {calls : List (Call C σ)}

/-- How a request gets past the policy in force, with the state it leaves and the calls it takes.
An anonymous request asks nobody; an identified one asks the policy once. -/
inductive Admission (rs : List (Registration C σ)) (request : C.Request k) (s : σ) :
    σ → List (Call C σ) → Prop where
  | anonymous (identity : C.identity request = .anonymous) : Admission rs request s s []
  | accepted {policy : Policy σ} {user : UserId} {s' : σ}
      (identity : C.identity request = .identified user) (given : user ≠ .nil)
      (inForce : Registration.PolicyInForce rs policy)
      (accepts : (policy user (C.requestType request)).exec s = (.ok (), s')) :
      Admission rs request s s' [.consulted policy user (C.requestType request) s]

/-- What a mediator built by registrations makes of a request: the answer, the state it leaves and
the calls it takes. -/
inductive Decision [Cancellable σ] (rs : List (Registration C σ)) (m : Mediator C σ)
    (request : C.Request k) (token : Token) (s : σ) :
    Except Failure (C.Response k) → σ → List (Call C σ) → Prop where
  | cancelled (fired : (Cancellable.signals s).isCancelled token = true) :
      Decision rs m request token s (.error .cancelled) s []
  | noUser (live : (Cancellable.signals s).isCancelled token = false)
      (identity : C.identity request = .identified .nil) :
      Decision rs m request token s
        (.error (.authorization (C.requestType request ++ " carries no user identity"))) s []
  | refused {policy : Policy σ} {user : UserId} {f : Failure} {s' : σ}
      (live : (Cancellable.signals s).isCancelled token = false)
      (identity : C.identity request = .identified user) (given : user ≠ .nil)
      (inForce : Registration.PolicyInForce rs policy)
      (refuses : (policy user (C.requestType request)).exec s = (.error f, s')) :
      Decision rs m request token s (.error f) s'
        [.consulted policy user (C.requestType request) s]
  | unhandled {s' : σ} {calls : List (Call C σ)}
      (live : (Cancellable.signals s).isCancelled token = false)
      (admitted : Admission rs request s s' calls) (missing : ∀ h, .handler k h ∉ rs) :
      Decision rs m request token s
        (.error (.handlerNotRegistered (C.requestType request))) s' calls
  | handled {handler : Handler C σ k} {r : Except Failure (C.Response k)} {s₁ s₂ : σ}
      {calls : List (Call C σ)} (live : (Cancellable.signals s).isCancelled token = false)
      (admitted : Admission rs request s s₁ calls)
      (inForce : Registration.HandlerInForce rs k handler)
      (answers : (handler request (m.context token)).exec s₁ = (r, s₂)) :
      Decision rs m request token s r s₂ (calls ++ [.handled handler request token s₁])

namespace Mediator

theorem exec_authorize_of_admission (built : build rs = .ok m)
    (h : Admission rs request s s' calls) :
    (m.traced.authorize request).exec ⟨s, []⟩ = (.ok (), ⟨s', calls⟩) := by
  cases h with
  | anonymous identity =>
      rw [authorize_of_anonymous identity]
      rfl
  | accepted identity given inForce accepts =>
      rw [← policy_eq_iff_of_build built] at inForce
      subst inForce
      rw [authorize_of_identified identity given]
      simp [watched, Policy.watched, accepts]

variable [Cancellable σ]

theorem exec_gate_of_admission (built : build rs = .ok m)
    (live : (Cancellable.signals s).isCancelled token = false)
    (h : Admission rs request s s' calls) :
    (m.traced.gate request token).exec ⟨s, []⟩ = (.ok (), ⟨s', calls⟩) := by
  rw [exec_gate, Watched.signals_eq, if_neg (by simp [live])]
  exact exec_authorize_of_admission built h

/-- Dispatch under watch goes as the rules say. -/
theorem exec_send_of_decision (built : build rs = .ok m) {r : Except Failure (C.Response k)}
    (h : Decision rs m request token s r s' calls) :
    (m.traced.send request token).exec ⟨s, []⟩ = (r, ⟨s', calls⟩) := by
  rw [exec_send]
  cases h with
  | cancelled fired => rw [exec_gate, Watched.signals_eq, if_pos fired]
  | noUser live identity =>
      rw [exec_gate, Watched.signals_eq, if_neg (by simp [live]), authorize_of_nil identity]
      rfl
  | refused live identity given inForce refuses =>
      rw [← policy_eq_iff_of_build built] at inForce
      subst inForce
      rw [exec_gate, Watched.signals_eq, if_neg (by simp [live]),
        authorize_of_identified identity given]
      simp [watched, Policy.watched, refuses]
  | unhandled live admitted missing =>
      have none : m.traced.handler? k = none := by
        rw [handler?_watched, (handler?_eq_none_iff_of_build built).mpr missing]
        rfl
      rw [exec_gate_of_admission built live admitted]
      simp [none]
  | handled live admitted inForce answers =>
      have found := (handler?_eq_some_iff_of_build built).mpr inForce
      rw [exec_gate_of_admission built live admitted]
      simp only [handler?_watched, found, Option.map_some, Handler.watched, unwatched_context,
        Task.exec_noted, answers]
      rfl

theorem exists_decision_of_admission (built : build rs = .ok m)
    (live : (Cancellable.signals s).isCancelled token = false)
    (h : Admission rs request s s' calls) :
    ∃ r t calls', Decision rs m request token s r t calls' := by
  cases found : m.handler? k with
  | none =>
      exact ⟨_, _, _, .unhandled live h ((handler?_eq_none_iff_of_build built).mp found)⟩
  | some handler =>
      exact ⟨_, _, _, .handled live h ((handler?_eq_some_iff_of_build built).mp found) rfl⟩

/-- The rules leave no request undecided. -/
theorem exists_decision (built : build rs = .ok m) (request : C.Request k) (token : Token)
    (s : σ) : ∃ r s' calls, Decision rs m request token s r s' calls := by
  cases live : (Cancellable.signals s).isCancelled token with
  | true => exact ⟨_, _, _, .cancelled live⟩
  | false =>
      cases identity : C.identity request with
      | anonymous => exact exists_decision_of_admission built live (.anonymous identity)
      | identified user =>
          by_cases given : user = .nil
          · subst given
            exact ⟨_, _, _, .noUser live identity⟩
          · have inForce := (policy_eq_iff_of_build built).mp rfl
            rcases verdict : (m.policy user (C.requestType request)).exec s with ⟨_ | _, s'⟩
            · exact ⟨_, _, _, .refused live identity given inForce verdict⟩
            · exact exists_decision_of_admission built live
                (.accepted identity given inForce verdict)

/-- Registrations of which the last policy and the last handler replace others. -/
def replacing : List (Registration .twins Signals) :=
  [.handler () fun _ _ => return "first", .policy Policy.denyAll, .policy Policy.authenticated,
    .handler () fun _ _ => return "last"]

/-- A dispatch comes to what the rules say: the mediator answers a request and leaves a state as
it does under watch, and under watch it gives an answer, a state and calls exactly if the rules
do. Each call is listed once, with what it was given and the state in which it began. -/
theorem send_eq_iff_decision (built : build rs = .ok m) (request : C.Request k) (token : Token)
    (s : σ) :
    (∀ r s', (m.send request token).exec s = (r, s') ↔
      ∃ calls, Decision rs m request token s r s' calls) ∧
    ∀ r s' calls, (m.traced.send request token).exec ⟨s, []⟩ = (r, ⟨s', calls⟩) ↔
      Decision rs m request token s r s' calls := by
  have traced : ∀ r s' calls, (m.traced.send request token).exec ⟨s, []⟩ = (r, ⟨s', calls⟩) ↔
      Decision rs m request token s r s' calls := by
    intro r s' calls
    constructor
    · intro h
      obtain ⟨r₀, s₀, calls₀, decided⟩ := exists_decision built request token s
      rw [exec_send_of_decision built decided] at h
      cases h
      exact decided
    · exact exec_send_of_decision built
  refine ⟨?_, traced⟩
  intro r s'
  have watches := m.send_watches ([·]) request token ⟨s, []⟩
  rw [watches]
  constructor
  · intro h
    cases h
    exact ⟨_, (traced _ _ _).mp rfl⟩
  · rintro ⟨calls, decided⟩
    rw [(traced r s' calls).mpr decided]

/-- A policy and a handler are replaced; the request is let in by the one and answered by the
other that came last. -/
theorem decision_of_replacing :
    ∃ m, build replacing = .ok m ∧
      ∃ calls, Decision (k := ()) replacing m (Identity.identified ⟨⟨1⟩⟩) ⟨0⟩ .empty
        (.ok "last") .empty calls := by
  refine ⟨_, rfl, ?_⟩
  apply ((send_eq_iff_decision ?built _ _ _).1 _ _).mp
  case built => rfl
  rfl

end Mediator

end Reminders
