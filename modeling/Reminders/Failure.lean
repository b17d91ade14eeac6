/-!
# Failures

What can go wrong in dispatch, in a handler or in a store. A failure keeps the message it was raised
with, and `Failure.message` is what a caller is shown.
-/

namespace Reminders

/-- The outcome of work that could not be done. -/
inductive Failure where
  /-- A consumer name cannot be formed, or the wiring of the mediator contradicts itself. -/
  | configuration (detail : String)
  /-- A request carried no identity, or its identity was refused. -/
  | authorization (detail : String)
  /-- A store could not take an entity. -/
  | persistence (detail : String)
  /-- A request asks for something that the domain rules out. -/
  | validation (detail : String)
  /-- Cancellation was signalled before the work began. -/
  | cancelled
  /-- No handler takes requests of this type. -/
  | handlerNotRegistered (requestType : String)
deriving DecidableEq, Repr

namespace Failure

def message : Failure → String
  | configuration detail => "configuration error: " ++ detail
  | authorization detail => "authorization error: " ++ detail
  | persistence detail => "persistence error: " ++ detail
  | validation detail => "validation error: " ++ detail
  | cancelled => "operation cancelled"
  | handlerNotRegistered requestType =>
      "no handler registered for request type " ++ requestType

@[simp] theorem message_configuration (d : String) :
    (configuration d).message = "configuration error: " ++ d := rfl

@[simp] theorem message_authorization (d : String) :
    (authorization d).message = "authorization error: " ++ d := rfl

@[simp] theorem message_persistence (d : String) :
    (persistence d).message = "persistence error: " ++ d := rfl

@[simp] theorem message_validation (d : String) :
    (validation d).message = "validation error: " ++ d := rfl

@[simp] theorem message_cancelled : cancelled.message = "operation cancelled" := rfl

@[simp] theorem message_handlerNotRegistered (t : String) :
    (handlerNotRegistered t).message = "no handler registered for request type " ++ t := rfl

end Failure

end Reminders
