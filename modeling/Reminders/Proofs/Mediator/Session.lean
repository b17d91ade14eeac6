import Mathlib.Data.List.Induction
import Reminders.Mediator.Listing

/-!
# A mediator in use

A mediator is built once and then used step by step: requests are sent, events are published, and
between these the state changes without it, as when a token is cancelled or time passes. A session
is a mediator with the state that it works on; `Session.trace` gives the answers to steps together
with the session after each of them.
-/

namespace Reminders

variable {C : Catalog} {σ : Type}

structure Session (C : Catalog) (σ : Type) where
  mediator : Mediator C σ
  state : σ

namespace Session

inductive Step (C : Catalog) (σ : Type) where
  | send {k : C.RequestKey} (request : C.Request k) (token : Token)
  | publish {k : C.EventKey} (event : C.Event k) (token : Token)
  /-- The state changes without the mediator. -/
  | meanwhile (change : σ → σ)

inductive Answer (C : Catalog) where
  | sent {k : C.RequestKey} (answer : Except Failure (C.Response k))
  | published (answer : Except Failure Unit)
  | nothing

variable [Cancellable σ]

/-- Takes one step. -/
def perform (session : Session C σ) : Step C σ → Answer C × Session C σ
  | .send request token =>
      let (answer, state) := (session.mediator.send request token).exec session.state
      (.sent answer, { session with state })
  | .publish event token =>
      let (answer, state) := (session.mediator.publish event token).exec session.state
      (.published answer, { session with state })
  | .meanwhile change => (.nothing, { session with state := change session.state })

def after (session : Session C σ) (steps : List (Step C σ)) : Session C σ :=
  steps.foldl (fun session step => (session.perform step).2) session

/-- The answers to steps, each with the session after it. -/
def trace (session : Session C σ) : List (Step C σ) → List (Answer C × Session C σ)
  | [] => []
  | step :: steps => session.perform step :: (session.perform step).2.trace steps

@[simp] theorem after_nil (session : Session C σ) : session.after [] = session := rfl

theorem after_concat (session : Session C σ) (steps : List (Step C σ)) (step : Step C σ) :
    session.after (steps ++ [step]) = ((session.after steps).perform step).2 := by
  rw [after, List.foldl_append]
  rfl

@[simp] theorem mediator_perform (session : Session C σ) (step : Step C σ) :
    (session.perform step).2.mediator = session.mediator := by
  cases step <;> rfl

/-- A mediator stays what it is while it is in use. -/
@[simp] theorem mediator_after (session : Session C σ) (steps : List (Step C σ)) :
    (session.after steps).mediator = session.mediator := by
  induction steps using List.reverseRecOn with
  | nil => rfl
  | append_singleton steps step ih => rw [after_concat, mediator_perform, ih]

end Session

end Reminders
