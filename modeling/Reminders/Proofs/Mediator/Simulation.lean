import Reminders.Proofs.Mediator.Gate
import Reminders.Proofs.Mediator.History
import Reminders.Proofs.Mediator.Session
import Reminders.Proofs.Task

/-!
# Mediators that go in step

Two mediators may work on states of different types. They go in step along a relation between the
states if, from related states, they answer the same and leave related states. What they were built
of decides: a mediator keeps step if its policy, its handlers and its subscriptions do
(`Mediator.InStep.send`, `Mediator.InStep.publish`), and registering what goes in step builds
mediators that do (`Mediator.InStep.register`). From there it carries over to whole sessions
(`Session.InStep.trace`).
-/

namespace Reminders

open Stages (Alike)

variable {C : Catalog} {S S' α β : Type} {R : S → S' → Prop}

/-- In related states the same tokens are cancelled. -/
def SameSignals [Cancellable S] [Cancellable S'] (R : S → S' → Prop) : Prop :=
  ∀ s s', R s s' → Cancellable.signals s = Cancellable.signals s'

namespace Task

/-- From related states, two tasks have the same outcome and leave related states. -/
def InStep (R : S → S' → Prop) (task : Task S α) (task' : Task S' α) : Prop :=
  ∀ s s', R s s' → (task.exec s).1 = (task'.exec s').1 ∧ R (task.exec s).2 (task'.exec s').2

namespace InStep

variable {task : Task S α} {task' : Task S' α}

theorem ofExcept (r : Except Failure α) : InStep R (ofExcept r) (ofExcept r) :=
  fun _ _ h => ⟨rfl, h⟩

theorem pure (a : α) : InStep R (pure a) (pure a) := fun _ _ h => ⟨rfl, h⟩

theorem throw (f : Failure) : InStep R (throw f : Task S α) (throw f) := fun _ _ h => ⟨rfl, h⟩

theorem ofExec {f : S → Except Failure α × S} {f' : S' → Except Failure α × S'}
    (h : ∀ s s', R s s' → (f s).1 = (f' s').1 ∧ R (f s).2 (f' s').2) :
    InStep R (ofExec f) (ofExec f') :=
  h

/-- Checking a token takes nothing but agreement on that token. -/
theorem check_of_agree [Cancellable S] [Cancellable S'] {token : Token}
    (agree : ∀ s s', R s s' → (Cancellable.signals s).isCancelled token =
      (Cancellable.signals s').isCancelled token) :
    InStep R (Task.check token) (Task.check token) := by
  intro s s' h
  simp [Signals.check, agree s s' h, h]

theorem check [Cancellable S] [Cancellable S'] (signals : SameSignals R) (token : Token) :
    InStep R (check token) (check token) := by
  apply check_of_agree
  intro s s' h
  rw [signals s s' h]

theorem attempt (h : InStep R task task') : InStep R task.attempt task'.attempt := by
  intro s s' hs
  obtain ⟨outcome, left⟩ := h s s' hs
  simp [outcome, left]

/-- What follows tasks that go in step need only go in step for each value that they may give. -/
theorem bind {next : α → Task S β} {next' : α → Task S' β} (h : InStep R task task')
    (hnext : ∀ a, InStep R (next a) (next' a)) : InStep R (task >>= next) (task' >>= next') := by
  intro s s' hs
  obtain ⟨outcome, left⟩ := h s s' hs
  rw [exec_bind, exec_bind]
  rcases first : task.exec s with ⟨r, t⟩
  rcases first' : task'.exec s' with ⟨r', t'⟩
  rw [first, first'] at outcome left
  dsimp only at outcome left
  subst outcome
  cases r with
  | error f => exact ⟨rfl, left⟩
  | ok a => exact hnext a t t' left

end InStep

end Task

/-- Policies that go in step about every user. -/
def Policy.InStep (R : S → S' → Prop) (policy : Policy S) (policy' : Policy S') : Prop :=
  ∀ user requestType, Task.InStep R (policy user requestType) (policy' user requestType)

/-- Contexts of the same token in which publishing goes in step. -/
structure Context.InStep (R : S → S' → Prop) (context : Context C S) (context' : Context C S') :
    Prop where
  token : context.token = context'.token
  publish : ∀ {k : C.EventKey} (event : C.Event k),
    Task.InStep R (context.publish event) (context'.publish event)

/-- Handlers that go in step in contexts that do. -/
def Handler.InStep (R : S → S' → Prop) {k : C.RequestKey} (handler : Handler C S k)
    (handler' : Handler C S' k) : Prop :=
  ∀ request context context', Context.InStep R context context' →
    Task.InStep R (handler request context) (handler' request context')

/-- Subscriptions of one consumer to one kind that take every event in step. -/
structure Subscription.InStep (R : S → S' → Prop) (s : Subscription C S) (s' : Subscription C S') :
    Prop where
  listing : s.listing = s'.listing
  deliver : ∀ {k : C.EventKey} (event : C.Event k) (token : Token),
    Task.InStep R (s.deliver event token) (s'.deliver event token)

/-- Registrations of what goes in step. -/
inductive Registration.InStep (R : S → S' → Prop) : Registration C S → Registration C S' → Prop
  | policy {policy : Policy S} {policy' : Policy S'} (h : Policy.InStep R policy policy') :
      InStep R (.policy policy) (.policy policy')
  | handler {k : C.RequestKey} {handler : Handler C S k} {handler' : Handler C S' k}
      (h : Handler.InStep R handler handler') : InStep R (.handler k handler) (.handler k handler')
  | subscription {s : Subscription C S} {s' : Subscription C S'} (h : Subscription.InStep R s s') :
      InStep R (.subscription s) (.subscription s')

/-- Mediators with the same registries, of which everything registered goes in step. -/
structure Mediator.InStep (R : S → S' → Prop) (m : Mediator C S) (m' : Mediator C S') : Prop where
  policy : Policy.InStep R m.policy m'.policy
  handler : ∀ k, Option.Rel (Handler.InStep R) (m.handler? k) (m'.handler? k)
  subscriptions : List.Forall₂ (Subscription.InStep R) m.subscriptions m'.subscriptions

namespace Subscription

theorem InStep.kind {s : Subscription C S} {s' : Subscription C S'} (h : InStep R s s') :
    s.kind = s'.kind :=
  congrArg Listing.kind h.listing

theorem InStep.consumer {s : Subscription C S} {s' : Subscription C S'} (h : InStep R s s') :
    s.consumer = s'.consumer :=
  congrArg Listing.consumer h.listing

/-- Subscriptions to one type of events go in step if their reactions do. -/
theorem InStep.of_react {consumer : Consumer.Name} {k : C.EventKey}
    {react : C.Event k → Token → Task S Unit} {react' : C.Event k → Token → Task S' Unit}
    (h : ∀ event token, Task.InStep R (react event token) (react' event token)) :
    InStep R (⟨consumer, k, react⟩ : Subscription C S) ⟨consumer, k, react'⟩ where
  listing := rfl
  deliver {k'} event token := by
    by_cases own : k' = k
    · subst own
      rw [deliver_self ⟨consumer, k', react⟩, deliver_self ⟨consumer, k', react'⟩]
      exact h event token
    · rw [deliver_of_ne _ own, deliver_of_ne _ own]
      exact .throw _

theorem listings_inStep {ss : List (Subscription C S)} {ss' : List (Subscription C S')}
    (h : List.Forall₂ (InStep R) ss ss') : ss.map listing = ss'.map listing := by
  induction h with
  | nil => rfl
  | cons first _ ih => rw [List.map_cons, List.map_cons, first.listing, ih]

theorem deliverAll_inStep {ss : List (Subscription C S)} {ss' : List (Subscription C S')}
    (h : List.Forall₂ (InStep R) ss ss') {k : C.EventKey} (event : C.Event k) (token : Token) :
    Task.InStep R (deliverAll ss event token) (deliverAll ss' event token) := by
  induction h with
  | nil => exact .pure ()
  | cons first _ ih =>
      rw [deliverAll_cons, deliverAll_cons]
      apply Task.InStep.bind (first.deliver event token)
      intro _
      exact ih

end Subscription

namespace Mediator.InStep

variable {m : Mediator C S} {m' : Mediator C S'}

theorem initial : InStep R (initial : Mediator C S) (initial : Mediator C S') where
  policy user requestType := by
    show Task.InStep R (Policy.authenticated user requestType)
      (Policy.authenticated user requestType)
    rw [Policy.authenticated_eq_ofExcept, Policy.authenticated_eq_ofExcept]
    exact .ofExcept _
  handler _ := .none
  subscriptions := .nil

theorem subscribe (h : InStep R m m') {s : Subscription C S} {s' : Subscription C S'}
    (hs : Subscription.InStep R s s') : Alike (InStep R) (m.subscribe s) (m'.subscribe s') := by
  have known_iff : s.listing ∈ m.subscriptions.map Subscription.listing ↔
      s'.listing ∈ m'.subscriptions.map Subscription.listing := by
    rw [hs.listing, Subscription.listings_inStep h.subscriptions]
  by_cases known : s.listing ∈ m.subscriptions.map Subscription.listing
  · have refused := subscribe_eq_error_iff.mpr ⟨known, rfl⟩
    have refused' := subscribe_eq_error_iff.mpr ⟨known_iff.mp known, rfl⟩
    rw [refused, refused', hs.consumer, hs.kind]
    exact .error _
  · rw [subscribe_eq_ok_iff.mpr ⟨known, rfl⟩, subscribe_eq_ok_iff.mpr ⟨mt known_iff.mpr known, rfl⟩]
    refine .ok ⟨h.policy, h.handler, ?_⟩
    exact List.rel_append h.subscriptions (.cons hs .nil)

/-- A registration is accepted by both mediators or by neither. -/
theorem register (h : InStep R m m') {r : Registration C S} {r' : Registration C S'}
    (hr : Registration.InStep R r r') : Alike (InStep R) (m.register r) (m'.register r') := by
  cases hr with
  | policy hp => exact .ok ⟨hp, h.handler, h.subscriptions⟩
  | @handler k handler handler' hh =>
      refine .ok ⟨h.policy, ?_, h.subscriptions⟩
      intro k'
      by_cases own : k' = k
      · subst own
        rw [handler?_withHandler_self, handler?_withHandler_self]
        exact .some hh
      · rw [handler?_withHandler_of_ne _ own, handler?_withHandler_of_ne _ own]
        exact h.handler k'
  | subscription hs => exact h.subscribe hs

theorem registerAll (h : InStep R m m') {rs : List (Registration C S)}
    {rs' : List (Registration C S')} (hrs : List.Forall₂ (Registration.InStep R) rs rs') :
    Alike (InStep R) (m.registerAll rs) (m'.registerAll rs') := by
  rw [registerAll_eq_foldlM, registerAll_eq_foldlM]
  apply Alike.foldlM _ h hrs
  intro m m' r r' hm hr
  exact hm.register hr

theorem publish (h : InStep R m m') {k : C.EventKey} (event : C.Event k) (token : Token) :
    Task.InStep R (m.publish event token) (m'.publish event token) := by
  apply Subscription.deliverAll_inStep
  apply List.rel_filter _ h.subscriptions
  intro s s' hs
  simp [hs.kind]

theorem context (h : InStep R m m') (token : Token) :
    Context.InStep R (m.context token) (m'.context token) where
  token := rfl
  publish event := h.publish event token

theorem authorize (h : InStep R m m') {k : C.RequestKey} (request : C.Request k) :
    Task.InStep R (m.authorize request) (m'.authorize request) := by
  apply Task.InStep.bind (.ofExcept _)
  intro user?
  cases user? with
  | none => exact .pure ()
  | some user => exact h.policy user _

variable [Cancellable S] [Cancellable S']

theorem send (h : InStep R m m') (signals : SameSignals R) {k : C.RequestKey}
    (request : C.Request k) (token : Token) :
    Task.InStep R (m.send request token) (m'.send request token) := by
  apply Task.InStep.bind (.check signals token)
  intro _
  apply Task.InStep.bind (h.authorize request)
  intro _
  have found := h.handler k
  generalize m.handler? k = handler?, m'.handler? k = handler?' at found ⊢
  cases found with
  | none => exact .throw _
  | some hh => exact hh request _ _ (h.context token)

end Mediator.InStep

namespace Session

/-- Sessions of mediators that go in step, in related states. -/
structure InStep (R : S → S' → Prop) (session : Session C S) (session' : Session C S') : Prop where
  mediator : Mediator.InStep R session.mediator session'.mediator
  state : R session.state session'.state

/-- Steps that are the same but for what changes meanwhile, which keeps states related. -/
inductive Step.InStep (R : S → S' → Prop) : Step C S → Step C S' → Prop
  | send {k : C.RequestKey} (request : C.Request k) (token : Token) :
      InStep R (.send request token) (.send request token)
  | publish {k : C.EventKey} (event : C.Event k) (token : Token) :
      InStep R (.publish event token) (.publish event token)
  | meanwhile {change : S → S} {change' : S' → S'}
      (h : ∀ s s', R s s' → R (change s) (change' s')) :
      InStep R (.meanwhile change) (.meanwhile change')

namespace InStep

variable [Cancellable S] [Cancellable S'] {session : Session C S} {session' : Session C S'}

theorem perform (h : InStep R session session') (signals : SameSignals R)
    {step : Step C S} {step' : Step C S'} (hstep : Step.InStep R step step') :
    (session.perform step).1 = (session'.perform step').1 ∧
      InStep R (session.perform step).2 (session'.perform step').2 := by
  cases hstep with
  | send request token =>
      obtain ⟨answer, state⟩ := h.mediator.send signals request token _ _ h.state
      exact ⟨congrArg Answer.sent answer, h.mediator, state⟩
  | publish event token =>
      obtain ⟨answer, state⟩ := h.mediator.publish event token _ _ h.state
      exact ⟨congrArg Answer.published answer, h.mediator, state⟩
  | meanwhile hchange => exact ⟨rfl, h.mediator, hchange _ _ h.state⟩

/-- Sessions that begin in step answer the same to the same steps, and stay in step. -/
theorem trace (h : InStep R session session') (signals : SameSignals R)
    {steps : List (Step C S)} {steps' : List (Step C S')}
    (hsteps : List.Forall₂ (Step.InStep R) steps steps') :
    List.Forall₂ (fun reply reply' => reply.1 = reply'.1 ∧ InStep R reply.2 reply'.2)
      (session.trace steps) (session'.trace steps') := by
  induction hsteps generalizing session session' with
  | nil => exact .nil
  | cons first _ ih =>
      have taken := h.perform signals first
      exact .cons taken (ih taken.2)

theorem after (h : InStep R session session') (signals : SameSignals R)
    {steps : List (Step C S)} {steps' : List (Step C S')}
    (hsteps : List.Forall₂ (Step.InStep R) steps steps') :
    InStep R (session.after steps) (session'.after steps') := by
  induction hsteps generalizing session session' with
  | nil => exact h
  | cons first _ ih => exact ih (h.perform signals first).2

end InStep

end Session

end Reminders
