import Reminders.Consumer.Name
import Reminders.Mediator.Catalog
import Reminders.Mediator.Policy

/-!
# The mediator

A mediator takes requests to their handlers and events to their subscribers. `send` runs a request
through the gate: it must not be cancelled, must carry an identity that the policy accepts unless it
is anonymous, and must have a handler. `publish` delivers an event to the subscriptions of its kind
in the order of registration, and stops at the first failure.
-/

namespace Reminders

variable {C : Catalog} {σ : Type}

/-- What a handler may use while a request is dispatched. -/
structure Context (C : Catalog) (σ : Type) where
  /-- The token the request was sent under. -/
  token : Token
  /-- Publishes an event under that token. -/
  publish : {k : C.EventKey} → C.Event k → Task σ Unit

/-- Answers the requests of one type. -/
abbrev Handler (C : Catalog) (σ : Type) (k : C.RequestKey) :=
  C.Request k → Context C σ → Task σ (C.Response k)

/-- A reaction to events of one type, under the name of a consumer. -/
structure Subscription (C : Catalog) (σ : Type) where
  consumer : Consumer.Name
  event : C.EventKey
  react : C.Event event → Token → Task σ Unit

namespace Subscription

def kind (s : Subscription C σ) : String := C.kind s.event

/-- An event that has the kind of a subscription but not its type. -/
def mistyped (kind : String) : Failure :=
  .configuration ("subscriber for " ++ kind ++ " received an event of a different type")

/-- Hands an event of a subscription's kind over to it. -/
def deliver (s : Subscription C σ) {k : C.EventKey} (event : C.Event k) (token : Token) :
    Task σ Unit :=
  if h : k = s.event then s.react (h ▸ event) token else throw (mistyped s.kind)

@[simp] theorem deliver_self (s : Subscription C σ) (event : C.Event s.event) (token : Token) :
    s.deliver event token = s.react event token := by
  simp [deliver]

theorem deliver_of_ne (s : Subscription C σ) {k : C.EventKey} (h : k ≠ s.event)
    (event : C.Event k) (token : Token) : s.deliver event token = throw (mistyped s.kind) := by
  simp [deliver, h]

/-- Hands an event to subscriptions in order, up to the first failure. -/
def deliverAll (ss : List (Subscription C σ)) {k : C.EventKey} (event : C.Event k)
    (token : Token) : Task σ Unit :=
  match ss with
  | [] => pure ()
  | s :: ss => do
      s.deliver event token
      deliverAll ss event token

@[simp] theorem deliverAll_nil {k : C.EventKey} (event : C.Event k) (token : Token) :
    deliverAll ([] : List (Subscription C σ)) event token = pure () := rfl

theorem deliverAll_cons (s : Subscription C σ) (ss : List (Subscription C σ)) {k : C.EventKey}
    (event : C.Event k) (token : Token) :
    deliverAll (s :: ss) event token =
      (do s.deliver event token; deliverAll ss event token) := rfl

end Subscription

structure Mediator (C : Catalog) (σ : Type) where
  policy : Policy σ
  /-- The handlers, at most one for a type of requests. -/
  handlers : List ((k : C.RequestKey) × Handler C σ k)
  /-- The subscriptions in the order of registration. -/
  subscriptions : List (Subscription C σ)

namespace Mediator

def findHandler? (k : C.RequestKey) :
    List ((k : C.RequestKey) × Handler C σ k) → Option (Handler C σ k)
  | [] => none
  | ⟨k', handler⟩ :: rest => if h : k' = k then some (h ▸ handler) else findHandler? k rest

def handler? (m : Mediator C σ) (k : C.RequestKey) : Option (Handler C σ k) :=
  findHandler? k m.handlers

/-- The subscriptions of a kind, in the order of registration. -/
def subscribersOf (m : Mediator C σ) (kind : String) : List (Subscription C σ) :=
  m.subscriptions.filter (·.kind = kind)

/-- Delivers an event to every subscription of its kind. -/
def publish (m : Mediator C σ) {k : C.EventKey} (event : C.Event k) (token : Token) :
    Task σ Unit :=
  Subscription.deliverAll (m.subscribersOf (C.kind k)) event token

/-- What handlers of this mediator may use while a request is dispatched under a token. -/
def context (m : Mediator C σ) (token : Token) : Context C σ :=
  ⟨token, fun event => m.publish event token⟩

/-- Refuses a request whose identity is missing or not accepted. -/
def authorize (m : Mediator C σ) {k : C.RequestKey} (request : C.Request k) : Task σ Unit := do
  match ← Task.ofExcept ((C.identity request).require (C.requestType request)) with
  | none => pure ()
  | some user => m.policy user (C.requestType request)

/-- Dispatches a request to its handler. -/
def send [Cancellable σ] (m : Mediator C σ) {k : C.RequestKey} (request : C.Request k)
    (token : Token) : Task σ (C.Response k) := do
  Task.check token
  m.authorize request
  match m.handler? k with
  | none => throw (.handlerNotRegistered (C.requestType request))
  | some handler => handler request (m.context token)

end Mediator

end Reminders
