import Reminders.Mediator.Basic

/-!
# The gate of a mediator

A request is let in before a handler is looked for: its token must not be cancelled, and its
identity must be accepted. `Mediator.gate` is that part of dispatch on its own, and `exec_send`
splits a dispatch there.
-/

namespace Reminders.Mediator

variable {C : Catalog} {σ : Type} {m : Mediator C σ} {k : C.RequestKey} {request : C.Request k}

theorem authorize_of_anonymous (h : C.identity request = .anonymous) :
    m.authorize request = pure () := by
  unfold authorize
  rw [h]
  rfl

theorem authorize_of_nil (h : C.identity request = .identified .nil) :
    m.authorize request =
      throw (.authorization (C.requestType request ++ " carries no user identity")) := by
  unfold authorize
  rw [h]
  rfl

theorem authorize_of_identified {user : UserId} (h : C.identity request = .identified user)
    (hne : user ≠ .nil) : m.authorize request = m.policy user (C.requestType request) := by
  unfold authorize
  rw [h, Identity.require_identified hne]
  rfl

variable [Cancellable σ] {token : Token} {s : σ}

/-- Lets a request in, or fails. -/
def gate (m : Mediator C σ) (request : C.Request k) (token : Token) : Task σ Unit := do
  Task.check token
  m.authorize request

theorem exec_gate :
    (m.gate request token).exec s =
      if (Cancellable.signals s).isCancelled token then (.error .cancelled, s)
      else (m.authorize request).exec s := by
  rw [gate, Task.exec_bind, Task.exec_check, Signals.check]
  cases (Cancellable.signals s).isCancelled token <;> rfl

theorem exec_gate_of_cancelled (fired : (Cancellable.signals s).isCancelled token = true) :
    (m.gate request token).exec s = (.error .cancelled, s) := by
  rw [exec_gate, if_pos fired]

theorem exec_gate_of_nil (live : (Cancellable.signals s).isCancelled token = false)
    (h : C.identity request = .identified .nil) :
    (m.gate request token).exec s =
      (.error (.authorization (C.requestType request ++ " carries no user identity")), s) := by
  rw [exec_gate, live, authorize_of_nil h]
  rfl

/-- The policy has the last word on a user. -/
theorem exec_gate_of_identified (live : (Cancellable.signals s).isCancelled token = false)
    {user : UserId} (h : C.identity request = .identified user) (hne : user ≠ .nil) :
    (m.gate request token).exec s = (m.policy user (C.requestType request)).exec s := by
  rw [exec_gate, live, authorize_of_identified h hne]
  rfl

/-- A request of a user is let in if its token is not cancelled, it does name a user, and the policy
accepts that user. -/
theorem exec_gate_eq_ok_iff {user : UserId} {t : σ} (h : C.identity request = .identified user) :
    (m.gate request token).exec s = (.ok (), t) ↔
      (Cancellable.signals s).isCancelled token = false ∧ user ≠ .nil ∧
        (m.policy user (C.requestType request)).exec s = (.ok (), t) := by
  cases live : (Cancellable.signals s).isCancelled token with
  | true =>
      rw [exec_gate_of_cancelled live]
      simp
  | false =>
      by_cases given : user = .nil
      · subst given
        rw [exec_gate_of_nil live h]
        simp
      · rw [exec_gate_of_identified live h given]
        simp [given]

/-- A request that is let in goes to its handler, in the state that the gate leaves. -/
theorem exec_send :
    (m.send request token).exec s =
      match (m.gate request token).exec s with
      | (.error f, s') => (.error f, s')
      | (.ok (), s') =>
          match m.handler? k with
          | none => (.error (.handlerNotRegistered (C.requestType request)), s')
          | some handler => (handler request (m.context token)).exec s' := by
  simp only [send, gate, Task.exec_bind]
  rcases (Task.check token : Task σ Unit).exec s with ⟨_ | _, s₁⟩
  · rfl
  · simp only
    rcases (m.authorize request).exec s₁ with ⟨_ | _, s₂⟩
    · rfl
    · cases m.handler? k <;> rfl

theorem exec_send_of_refused {f : Failure} {s' : σ}
    (h : (m.gate request token).exec s = (.error f, s')) :
    (m.send request token).exec s = (.error f, s') := by
  rw [exec_send, h]

theorem exec_send_of_admitted {handler : Handler C σ k} {s' : σ}
    (h : (m.gate request token).exec s = (.ok (), s')) (found : m.handler? k = some handler) :
    (m.send request token).exec s = (handler request (m.context token)).exec s' := by
  rw [exec_send, h, found]

end Reminders.Mediator
