import Reminders.Proofs.Http.Posting
import Reminders.Store.InMemory

/-!
# Shutting down

A service that keeps reminders in memory answers requests one after the other, while tokens are
cancelled and time passes (`Turn`). What its shutdown token makes of an answer is told for one
request first (`Orderly`): no token is cancelled by it, 503 is an answer to the cancelled token
only, and once that is cancelled nothing is created and the store is left alone. Requests other than
posts to the reminders change nothing at all, and for those posts the rules of `Posting` decide.

Nothing takes a cancellation back. So a service is serving until the turn that cancels its shutdown
token, and draining from then on (`App.isCancelled_after`, `App.store_after`).
-/

namespace Reminders

/-- A store in memory blames the token only if it is cancelled. -/
theorem InMemory.ne_cancelled_of_add {α : Type} [Entity α] {signals : Signals} {token : Token}
    (live : signals.isCancelled token = false) (store : InMemory α) (entity : α) :
    (store.add signals entity token).1 ≠ .error .cancelled := by
  cases poisoned : store.poisoned with
  | true => simp [answer_add, live, poisoned, lockPoisoned]
  | false => simp [answer_add, live, poisoned]

namespace Http

variable {C : Catalog} {ρ : Type} {r : Request} {shutdown : Token}

theorem Response.statusOf_eq_503_iff {f : Failure} : statusOf f = 503 ↔ f = .cancelled := by
  cases f <;> simp [statusOf]

@[simp] theorem status_problem (status : Nat) (code message : String) :
    (problem status code message).status = status := rfl

theorem Rejection.status_not_mem (rejection : Rejection) :
    rejection.response.status ∉ [201, 503] := by
  cases rejection <;> decide

structure Request.Asks (r : Request) (method : String) (route : Route) : Prop where
  method : r.method = method
  route : Route.ofTarget? r.target = some route

inductive Turn where
  | request (r : Request)
  | cancel (token : Token)
  /-- The time is another one now. -/
  | wait (now : Timestamp)

namespace App

theorem respond_of_get {σ : Type} [Cancellable σ] (app : App C σ) {route : Route}
    (asks : r.Asks "GET" route) (shown : route ≠ .reminders) (s : σ) :
    (app.respond r).run s = (app.get route s, s) := by
  have taken : "GET" ∈ route.methods := by
    cases route with
    | health => decide
    | consumers => decide
    | reminders => exact absurd rfl shown
  change app.respond r s = _
  simp [respond, asks.route, asks.method, taken, shown]

/-- A request that is not a post to the reminders changes nothing. -/
theorem respond_of_other {σ : Type} [Cancellable σ] (app : App C σ)
    (other : ¬r.Asks "POST" .reminders) (s : σ) :
    ((app.respond r).run s).2 = s ∧ ((app.respond r).run s).1.status ∉ [201, 503] := by
  change (app.respond r s).2 = s ∧ (app.respond r s).1.status ∉ [201, 503]
  cases found : Route.ofTarget? r.target with
  | none => simp [respond, found, Response.empty]
  | some route =>
      by_cases taken : r.method ∈ route.methods
      · have shown : route ≠ .reminders := by
          rintro rfl
          exact other ⟨List.mem_singleton.mp taken, found⟩
        have status : (app.get route s).status ∉ [201, 503] := by
          cases route <;> simp [get, Response.json, Response.empty]
        by_cases head : r.method = "HEAD"
        · rw [head] at taken
          simpa [respond, found, taken, shown, head, Response.withoutBody] using status
        · simpa [respond, found, taken, shown, head] using status
      · simp [respond, found, taken, Response.methodNotAllowed]

/-- The world that a turn leaves. -/
def turn (app : App C (World ρ)) (w : World ρ) : Turn → World ρ
  | .request r => ((app.respond r).run w).2
  | .cancel token => w.cancel token
  | .wait now => { w with now }

/-- The world that some turns leave, one after the other. -/
def after (app : App C (World ρ)) (turns : List Turn) (w : World ρ) : World ρ :=
  turns.foldl app.turn w

/-- A service that has not begun to shut down. -/
structure Serving (app : App C (World ρ)) (w : World ρ) : Prop where
  health : ∀ r : Request, r.Asks "GET" .health →
    ((app.respond r).run w).1 = .json 200 (.object
      [("status", .text "ok"), ("version", .text "0.1.0"), ("shutting_down", .flag false)])
  available : ∀ r : Request, ((app.respond r).run w).1.status ≠ 503

/-- A service that takes no more reminders, now or ever. -/
structure Draining (app : App C (World ρ)) (w : World ρ) : Prop where
  health : ∀ r : Request, r.Asks "GET" .health →
    ((app.respond r).run w).1 = .json 200 (.object
      [("status", .text "draining"), ("version", .text "0.1.0"), ("shutting_down", .flag true)])
  turnsAway : ∀ r : Request, r.Asks "POST" .reminders → ∀ draft user, r.draft = .ok draft →
    r.IsFrom user → ((app.respond r).run w).1 = problem 503 "cancelled" "operation cancelled"
  createsNothing : ∀ r : Request, ((app.respond r).run w).1.status ≠ 201
  settled : ∀ turns, (app.after turns w).store = w.store

end App

/-- What a response, and the world that it leaves, owe to the shutdown token. -/
structure Orderly (shutdown : Token) (w : World ρ) (response : Response) (w' : World ρ) :
    Prop where
  signals : Cancellable.signals w' = Cancellable.signals w
  serving : (Cancellable.signals w).isCancelled shutdown = false → response.status ≠ 503
  draining : (Cancellable.signals w).isCancelled shutdown = true →
    response.status ≠ 201 ∧ w'.store = w.store

theorem Orderly.of_skip {w : World ρ} {response : Response} (n : Nat)
    (status : response.status ∉ [201, 503]) : Orderly shutdown w response (w.skip n) := by
  obtain ⟨created, unavailable⟩ : response.status ≠ 201 ∧ response.status ≠ 503 := by
    simpa using status
  exact ⟨rfl, fun _ => unavailable, fun _ => ⟨created, rfl⟩⟩

section InMemory

variable {w w' : World (InMemory Reminder)} {response : Response} {journal : List Deed}

/-- Adding a reminder to the store in memory cancels nothing, and fails only for other reasons if
nothing was cancelled before. -/
theorem exec_inMemory_of_live {n : Nat} {reminder : Reminder} {x : Except Failure Unit}
    (live : (Cancellable.signals w).isCancelled shutdown = false)
    (adds : ((World.services InMemory.add).repository reminder shutdown).exec (w.skip n) =
      (x, w')) : Cancellable.signals w' = Cancellable.signals w ∧ x ≠ .error .cancelled := by
  cases adds
  exact ⟨rfl, InMemory.ne_cancelled_of_add live w.store reminder⟩

theorem orderly_of_posting
    (h : Posting (World.services InMemory.add).repository shutdown r w response w' journal) :
    Orderly shutdown w response w' := by
  cases h with
  | rejected body => exact .of_skip 0 (Rejection.status_not_mem _)
  | garbled body garbled => exact .of_skip 1 (by simp)
  | cancelled body sender fired =>
      refine ⟨rfl, ?_, ?_⟩
      · intro live
        exact absurd fired (by simp [live])
      · intro _
        exact ⟨by simp, rfl⟩
  | anonymous body sender live => exact .of_skip 2 (by simp)
  | unacceptable body sender given live unacceptable => exact .of_skip 2 (by simp)
  | failed body sender given live acceptable asked fails =>
      obtain ⟨signals, other⟩ := exec_inMemory_of_live live fails
      refine ⟨signals, ?_, ?_⟩
      · intro _ status
        exact other (congrArg Except.error (Response.statusOf_eq_503_iff.mp status))
      · intro fired
        exact absurd fired (by simp [live])
  | created body sender given live acceptable asked adds =>
      refine ⟨(exec_inMemory_of_live live adds).1, ?_, ?_⟩
      · intro _
        simp [Response.json]
      · intro fired
        exact absurd fired (by simp [live])

namespace App

section Built

variable {app : App C (World (InMemory Reminder))} {version : String}
variable (built : ofServices (World.services InMemory.add) version shutdown = .ok app)

include built

/-- A post to the reminders is answered as a rule says. -/
theorem respond_of_posting (posts : r.Asks "POST" .reminders)
    (h : Posting (World.services InMemory.add).repository shutdown r w response w' journal) :
    (app.respond r).run w = (response, w') := by
  obtain ⟨m, registers, rfl⟩ := ofServices_eq_ok_iff.mp built
  rw [respond_of_post posts.method posts.route]
  exact post_of_posting (carries_world _) (Mediator.alone_of_registerReminders registers) h

theorem orderly_respond (r : Request) (w : World (InMemory Reminder)) :
    Orderly shutdown w ((app.respond r).run w).1 ((app.respond r).run w).2 := by
  by_cases posts : r.Asks "POST" .reminders
  · obtain ⟨response, w', journal, posting⟩ :=
      exists_posting (World.services InMemory.add).repository shutdown r w
    rw [respond_of_posting built posts posting]
    exact orderly_of_posting posting
  · obtain ⟨same, status⟩ := app.respond_of_other posts w
    rw [same]
    exact .of_skip 0 status

/-- The shutdown token stays cancelled, and no request cancels it. -/
theorem isCancelled_after (turns : List Turn) (w : World (InMemory Reminder)) :
    (Cancellable.signals (app.after turns w)).isCancelled shutdown = true ↔
      .cancel shutdown ∈ turns ∨ (Cancellable.signals w).isCancelled shutdown = true := by
  induction turns generalizing w with
  | nil => simp [after]
  | cons turn turns ih =>
      have step : (Cancellable.signals (app.turn w turn)).isCancelled shutdown = true ↔
          .cancel shutdown = turn ∨ (Cancellable.signals w).isCancelled shutdown = true := by
        cases turn with
        | request r => simp [App.turn, (orderly_respond built r w).signals]
        | cancel token => simp [App.turn]
        | wait now => simp [App.turn, Cancellable.signals]
      rw [List.mem_cons, or_assoc, or_left_comm, ← step, ← ih]
      rfl

/-- Once the shutdown token is cancelled, the store is left alone. -/
theorem store_after (fired : (Cancellable.signals w).isCancelled shutdown = true)
    (turns : List Turn) :
    (app.after turns w).store = w.store := by
  induction turns using List.reverseRecOn with
  | nil => rfl
  | append_singleton turns turn ih =>
      have later := (isCancelled_after built turns w).mpr (.inr fired)
      rw [after, List.foldl_append, ← after, ← ih]
      cases turn with
      | request r => exact ((orderly_respond built r _).draining later).2
      | cancel token => rfl
      | wait now => rfl

theorem health_of_built (asks : r.Asks "GET" .health) (w : World (InMemory Reminder)) :
    ((app.respond r).run w).1 =
      .json 200 (Http.health ((Cancellable.signals w).isCancelled shutdown)) := by
  obtain ⟨m, -, rfl⟩ := ofServices_eq_ok_iff.mp built
  rw [respond_of_get _ asks (by decide)]
  rfl

theorem serving_of_live (live : (Cancellable.signals w).isCancelled shutdown = false) :
    app.Serving w where
  health r asks := by
    rw [health_of_built built asks, live]
    rfl
  available r := (orderly_respond built r w).serving live

theorem draining_of_fired (fired : (Cancellable.signals w).isCancelled shutdown = true) :
    app.Draining w where
  health r asks := by
    rw [health_of_built built asks, fired]
    rfl
  turnsAway r posts draft user body sender := by
    rw [respond_of_posting built posts (.cancelled body sender fired)]
  createsNothing r := ((orderly_respond built r w).draining fired).1
  settled := store_after built fired

/-- The one consumer is listed, whatever the world. -/
theorem exists_consumers :
    ∃ consumer, Reminder.consumer version = .ok consumer ∧
      ∀ r : Request, r.Asks "GET" .consumers → ∀ w, ((app.respond r).run w).1 =
        .json 200 (.list [(⟨"reminders.reminder_set", consumer⟩ : Listing).toJson]) := by
  obtain ⟨m, registers, rfl⟩ := ofServices_eq_ok_iff.mp built
  obtain ⟨consumer, resolved, registered⟩ := Mediator.registerReminders_eq_ok_iff.mp registers
  have listed : m.listings = [⟨"reminders.reminder_set", consumer⟩] := by
    rw [Mediator.listings, Mediator.subscriptions_of_build registered]
    exact List.mergeSort_singleton _
  refine ⟨consumer, resolved, ?_⟩
  intro r asks w
  rw [respond_of_get _ asks (by decide), get, listed]
  rfl

/-- Shutdown is final. A service that keeps reminders in memory answers any requests, while tokens
are cancelled and time passes. Until its shutdown token is cancelled it serves, and from then on it
drains: every post that could be read is turned away, nothing is created and the store never changes
again. The consumers that it lists are the same throughout. -/
theorem shutdown_is_final (live : (Cancellable.signals w).isCancelled shutdown = false) :
    (∀ turns : List Turn,
      (.cancel shutdown ∉ turns → app.Serving (app.after turns w)) ∧
        (.cancel shutdown ∈ turns → app.Draining (app.after turns w))) ∧
      ∃ consumer, Reminder.consumer version = .ok consumer ∧
        ∀ r : Request, r.Asks "GET" .consumers → ∀ turns : List Turn,
          ((app.respond r).run (app.after turns w)).1 =
            .json 200 (.list [(⟨"reminders.reminder_set", consumer⟩ : Listing).toJson]) := by
  constructor
  · intro turns
    have cancelled_iff := isCancelled_after built turns w
    constructor
    · intro absent
      apply serving_of_live built
      rw [Bool.eq_false_iff, ne_eq, cancelled_iff]
      simp [absent, live]
    · intro present
      exact draining_of_fired built (cancelled_iff.mpr (.inl present))
  · obtain ⟨consumer, resolved, listed⟩ := exists_consumers built
    refine ⟨consumer, resolved, ?_⟩
    intro r asks turns
    exact listed r asks _

end Built

/-- A request of nobody for a reminder without a title, at a time that has passed. -/
def hopelessRequest : Request :=
  ⟨"POST", "/api/v1/reminders", [⟨"Content-Type", "application/json".toUTF8.toList⟩],
    "\x7b\"title\":\"\",\"remind_at\":\"1970-01-01T00:00:00Z\"\x7d".toUTF8⟩

/-- A hopeless request is told of the shutdown, not of what is wrong with it. -/
theorem turnsAway_hopelessRequest :
    ∃ app : App Catalog.empty (World (InMemory Reminder)),
      ofServices (World.services InMemory.add) "1.0" ⟨0⟩ = .ok app ∧
      ((app.respond hopelessRequest).run
        (app.after [.request teaRequest] (.start .epoch 0 .empty))).1.status ≠ 503 ∧
      ((app.respond hopelessRequest).run
        (app.after [.request teaRequest, .cancel ⟨0⟩] (.start .epoch 0 .empty))).1 =
          problem 503 "cancelled" "operation cancelled" ∧
      (app.after [.request teaRequest, .cancel ⟨0⟩, .request teaRequest]
          (.start .epoch 0 .empty)).store =
        (app.after [.request teaRequest, .cancel ⟨0⟩] (.start .epoch 0 .empty)).store := by
  have resolved : Reminder.consumer "1.0" = .ok ⟨"Reminder_v1_ReminderSet", by decide, by decide⟩ :=
    by decide +kernel
  obtain ⟨app, built⟩ :=
    exists_ofServices (C := Catalog.empty) resolved (World.services InMemory.add) ⟨0⟩
  have body : hopelessRequest.draft = .ok ⟨"", .epoch⟩ := by decide +kernel
  have sender : hopelessRequest.IsFrom .nil := .inl ⟨by decide +kernel, rfl⟩
  have posts : hopelessRequest.Asks "POST" .reminders := ⟨rfl, by decide +kernel⟩
  obtain ⟨final, -⟩ := shutdown_is_final (w := .start .epoch 0 .empty) built rfl
  have serving := (final [.request teaRequest]).1 (by simp)
  have draining := (final [.request teaRequest, .cancel ⟨0⟩]).2 (by simp)
  exact ⟨app, built, serving.available _, draining.turnsAway _ posts _ _ body sender,
    draining.settled [.request teaRequest]⟩

end App

end InMemory

end Http

end Reminders
