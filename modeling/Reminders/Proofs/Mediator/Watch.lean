import Reminders.Mediator.Registration
import Reminders.Proofs.Journal

/-!
# A mediator under watch

A mediator calls the policy, the handlers and the subscriptions that were registered with it. Under
watch each of these calls is entered in a journal together with the state it begins in; what else
the mediator does stays the same (`publish_watches`, `send_watches`).

A handler publishes through its context. What it publishes belongs to its own run, so the journal
has one entry for a handler and none for the deliveries that the handler asks for.
-/

namespace Reminders

variable {C : Catalog} {σ ε : Type}

/-- A call of something that was registered with a mediator, and the state in which it begins. -/
inductive Call (C : Catalog) (σ : Type) where
  /-- A policy is asked about a user and the name of a type of requests. -/
  | consulted (policy : Policy σ) (user : UserId) (requestType : String) (before : σ)
  /-- A handler is given a request under a token. -/
  | handled {k : C.RequestKey} (handler : Handler C σ k) (request : C.Request k) (token : Token)
      (before : σ)
  /-- A subscription is handed an event of its type under a token. -/
  | reacted (s : Subscription C σ) (event : C.Event s.event) (token : Token) (before : σ)

def Policy.watched (note : Call C σ → List ε) (policy : Policy σ) : Policy (Watched ε σ) :=
  fun user requestType =>
    (policy user requestType).noted fun s => note (.consulted policy user requestType s)

/-- A context as a handler sees it that does not know of the watch. -/
def Context.unwatched (context : Context C (Watched ε σ)) : Context C σ :=
  ⟨context.token, fun event => (context.publish event).unwatched⟩

def Handler.watched {k : C.RequestKey} (note : Call C σ → List ε) (handler : Handler C σ k) :
    Handler C (Watched ε σ) k :=
  fun request context =>
    (handler request context.unwatched).noted fun s =>
      note (.handled handler request context.token s)

namespace Subscription

/-- A subscription under watch. -/
def watched (note : Call C σ → List ε) (s : Subscription C σ) : Subscription C (Watched ε σ) where
  consumer := s.consumer
  event := s.event
  react event token := (s.react event token).noted fun t => note (.reacted s event token t)

@[simp] theorem kind_watched (note : Call C σ → List ε) (s : Subscription C σ) :
    (s.watched note).kind = s.kind := rfl

/-- What delivering an event to a subscription enters in a journal: nothing if the event is not of
the subscription's type, since the subscription is then not called. -/
def entries (note : Call C σ → List ε) (s : Subscription C σ) {k : C.EventKey}
    (event : C.Event k) (token : Token) (before : σ) : List ε :=
  if h : k = s.event then note (.reacted s (h ▸ event) token before) else []

theorem deliver_watched (note : Call C σ → List ε) (s : Subscription C σ) {k : C.EventKey}
    (event : C.Event k) (token : Token) :
    (s.watched note).deliver event token =
      (s.deliver event token).noted (s.entries note event token) := by
  apply Task.ext
  intro w
  by_cases h : k = s.event
  · subst h
    have self : (s.watched note).deliver event token = (s.watched note).react event token :=
      (s.watched note).deliver_self event token
    rw [self, deliver_self]
    simp [watched, entries]
  · rw [deliver_of_ne s h, deliver_of_ne (s.watched note) h]
    simp [entries, h]

theorem deliverAll_watches (note : Call C σ → List ε) (ss : List (Subscription C σ))
    {k : C.EventKey} (event : C.Event k) (token : Token) :
    (deliverAll (ss.map (watched note)) event token).Watches (deliverAll ss event token) := by
  induction ss with
  | nil => exact .pure ()
  | cons s ss ih =>
      rw [List.map_cons, deliverAll_cons, deliverAll_cons, deliver_watched]
      exact .bind (.noted _ _) (fun _ => ih)

end Subscription

namespace Mediator

def watched (note : Call C σ → List ε) (m : Mediator C σ) : Mediator C (Watched ε σ) where
  policy := m.policy.watched note
  handlers := m.handlers.map fun p => ⟨p.1, p.2.watched note⟩
  subscriptions := m.subscriptions.map (Subscription.watched note)

/-- A mediator with every call entered in the journal. -/
abbrev traced (m : Mediator C σ) : Mediator C (Watched (Call C σ) σ) := m.watched ([·])

variable (note : Call C σ → List ε) (m : Mediator C σ)

theorem subscribersOf_watched (kind : String) :
    (m.watched note).subscribersOf kind =
      (m.subscribersOf kind).map (Subscription.watched note) := by
  simp only [subscribersOf, watched, List.filter_map]
  rfl

theorem handler?_watched (k : C.RequestKey) :
    (m.watched note).handler? k = (m.handler? k).map (Handler.watched note) := by
  simp only [handler?, watched]
  induction m.handlers with
  | nil => rfl
  | cons p rest ih =>
      obtain ⟨k', h⟩ := p
      by_cases hk : k' = k
      · subst hk
        simp [findHandler?]
      · simpa [findHandler?, hk] using ih

theorem publish_watches {k : C.EventKey} (event : C.Event k) (token : Token) :
    ((m.watched note).publish event token).Watches (m.publish event token) := by
  rw [publish, subscribersOf_watched]
  exact Subscription.deliverAll_watches note _ event token

@[simp] theorem unwatched_context (token : Token) :
    ((m.watched note).context token).unwatched = m.context token := by
  simp only [context, Context.unwatched, (m.publish_watches note _ token).unwatched_eq]

theorem authorize_watches {k : C.RequestKey} (request : C.Request k) :
    ((m.watched note).authorize request).Watches (m.authorize request) := by
  apply Task.Watches.bind (.ofExcept _)
  intro user?
  cases user? with
  | none => exact .pure ()
  | some user => exact .noted _ _

/-- A mediator under watch dispatches as the mediator does. -/
theorem send_watches [Cancellable σ] {k : C.RequestKey} (request : C.Request k) (token : Token) :
    ((m.watched note).send request token).Watches (m.send request token) := by
  apply Task.Watches.bind (.check token)
  intro _
  apply Task.Watches.bind (m.authorize_watches note request)
  intro _
  rw [handler?_watched]
  cases m.handler? k with
  | none => exact .throw _
  | some handler =>
      simp only [Option.map_some, Handler.watched, unwatched_context]
      exact .noted _ _

end Mediator

/-- One type of requests, each the identity that it presents, and two types of events of one
kind. -/
def Catalog.twins : Catalog where
  RequestKey := Unit
  Request _ := Identity
  Response _ := String
  requestType _ := "ping"
  identity request := request
  EventKey := Bool
  Event _ := Unit
  kind _ := "twin"
  decRequestKey := inferInstance
  decEventKey := inferInstance

instance : Cancellable Signals := ⟨id⟩

end Reminders
