import Reminders.Proofs.Mediator.Session
import Reminders.Proofs.Task
import Reminders.Reminder.Handling

/-!
# Plans of mediators

To compare what a mediator does with one repository and with another, it has to be said once how
both are built. A plan lists what is registered: the reminders, in versions of the API, and besides
them policies, handlers and subscriptions, whose work is told by scripts. A script sees a part of
the state, and uses the repository only to add to it: what the repository holds it does not learn.

A platform is where a plan becomes a mediator. It has a state of its own, with the part that scripts
see, and the services that reminders rely on.
-/

namespace Reminders

/-- Work on a part `σ` of a state, in which events of `E` are published and reminders are added. Of
what it publishes and adds it learns whether that succeeded. -/
inductive Script (σ E α : Type) where
  | finish (result : Except Failure α)
  /-- Changes the part that is seen, and goes on by what it was before. -/
  | change (f : σ → σ) (next : σ → Script σ E α)
  | add (reminder : Reminder) (token : Token) (next : Except Failure Unit → Script σ E α)
  | publish (event : E) (next : Except Failure Unit → Script σ E α)

/-- A state `S` of which scripts see the part `σ`, and services that work on it. -/
structure Platform (σ S : Type) where
  get : S → σ
  set : σ → S → S
  services : Services S

namespace Platform

variable {σ S : Type}

/-- Changes the part that scripts see. -/
def update (p : Platform σ S) (f : σ → σ) (s : S) : S := p.set (f (p.get s)) s

/-- A platform whose scripts see the whole state. -/
def whole (services : Services σ) : Platform σ σ := ⟨id, fun s _ => s, services⟩

end Platform

structure Stocked (ρ σ : Type) where
  state : σ
  store : ρ

instance {ρ σ : Type} [Cancellable σ] : Cancellable (Stocked ρ σ) :=
  ⟨fun s => Cancellable.signals s.state⟩

section Stocked

variable {ρ σ : Type} [Cancellable σ]

/-- Services whose repository is a store of its own, which takes reminders in the given way. -/
def Services.stocked (now : σ → Timestamp) (freshId : StateM σ Uuid)
    (add : Signals → Reminder → Token → ρ → Except Failure Unit × ρ) : Services (Stocked ρ σ) where
  now s := now s.state
  freshId s := ((freshId.run s.state).1, { s with state := (freshId.run s.state).2 })
  repository := .within (·.store) (fun store s => { s with store }) add

theorem Services.run_freshId_stocked (now : σ → Timestamp) (freshId : StateM σ Uuid)
    (add : Signals → Reminder → Token → ρ → Except Failure Unit × ρ) (s : Stocked ρ σ) :
    (stocked now freshId add).freshId.run s =
      ((freshId.run s.state).1, { s with state := (freshId.run s.state).2 }) :=
  rfl

/-- A platform with a store of its own, which scripts do not see. -/
def Platform.stocked (now : σ → Timestamp) (freshId : StateM σ Uuid)
    (add : Signals → Reminder → Token → ρ → Except Failure Unit × ρ) : Platform σ (Stocked ρ σ) :=
  ⟨(·.state), fun state s => { s with state }, .stocked now freshId add⟩

end Stocked

namespace Script

variable {σ S E α : Type}

/-- Plays a script on a platform, given how events are published there. -/
def play (p : Platform σ S) (publish : E → Task S Unit) : Script σ E α → Task S α
  | .finish result => Task.ofExcept result
  | .change f next => do
      let before ← Task.ofExec fun s => (.ok (p.get s), p.update f s)
      (next before).play p publish
  | .add reminder token next => do
      let result ← (p.services.repository reminder token).attempt
      (next result).play p publish
  | .publish event next => do
      let result ← (publish event).attempt
      (next result).play p publish

end Script

variable {C : Catalog} {σ S : Type}

/-- An event of any type. -/
abbrev Catalog.AnyEvent (C : Catalog) := (k : C.EventKey) × C.Event k

inductive Provision (C : Catalog) (σ : Type) where
  | policy (decide : UserId → String → Script σ Empty Unit)
  | handler (k : C.withReminders.RequestKey)
      (handle : C.withReminders.Request k → Token →
        Script σ C.withReminders.AnyEvent (C.withReminders.Response k))
  | subscription (consumer : Consumer.Name) (event : C.withReminders.EventKey)
      (react : C.withReminders.Event event → Token → Script σ Empty Unit)
  /-- The reminders, in a version of the API. -/
  | reminders (version : String)

namespace Platform

/-- A policy that is told by scripts. -/
def policy (p : Platform σ S) (decide : UserId → String → Script σ Empty Unit) : Policy S :=
  fun user requestType => (decide user requestType).play p nofun

/-- A handler that is told by scripts. -/
def handler (p : Platform σ S) {k : C.RequestKey}
    (handle : C.Request k → Token → Script σ C.AnyEvent (C.Response k)) : Handler C S k :=
  fun request context => (handle request context.token).play p fun event =>
    context.publish event.2

/-- A subscription that is told by scripts. -/
def subscription (p : Platform σ S) (consumer : Consumer.Name) (k : C.EventKey)
    (react : C.Event k → Token → Script σ Empty Unit) : Subscription C S :=
  ⟨consumer, k, fun event token => (react event token).play p nofun⟩

end Platform

namespace Mediator

variable [Cancellable S]

/-- Registers one part of a plan. -/
def provide (p : Platform σ S) (m : Mediator C.withReminders S) :
    Provision C σ → Except Failure (Mediator C.withReminders S)
  | .policy decide => m.register (.policy (p.policy decide))
  | .handler k handle => m.register (.handler k (p.handler handle))
  | .subscription consumer k react =>
      m.register (.subscription (p.subscription consumer k react))
  | .reminders version => m.registerReminders p.services version

/-- The mediator that a plan gives on a platform. -/
def assemble (p : Platform σ S) (plan : List (Provision C σ)) :
    Except Failure (Mediator C.withReminders S) :=
  plan.foldlM (provide p) initial

end Mediator

/-- A step as it is taken on a platform: what changes meanwhile is the part that scripts see. -/
def Session.Step.on (p : Platform σ S) : Session.Step C σ → Session.Step C S
  | .send request token => .send request token
  | .publish event token => .publish event token
  | .meanwhile change => .meanwhile (p.update change)

@[simp] theorem Session.Step.on_whole (services : Services σ) (step : Session.Step C σ) :
    step.on (.whole services) = step := by
  cases step <;> rfl

end Reminders
