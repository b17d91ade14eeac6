import Reminders.Identity

/-!
# Catalogs

A catalog lists the types of requests and of events that a mediator deals with. Each type has a key.
Two types of requests may share a name, and two types of events may share a kind; they still differ
in their keys.
-/

namespace Reminders

/-- The requests and events that a mediator deals with. -/
structure Catalog where
  RequestKey : Type
  Request : RequestKey → Type
  /-- What a handler answers to a request. -/
  Response : RequestKey → Type
  /-- The name of a request's type. -/
  requestType : {k : RequestKey} → Request k → String
  /-- The identity that a request presents. -/
  identity : {k : RequestKey} → Request k → Identity
  EventKey : Type
  Event : EventKey → Type
  /-- The kind that subscriptions to a type of events are kept under. -/
  kind : EventKey → String
  decRequestKey : DecidableEq RequestKey
  decEventKey : DecidableEq EventKey

namespace Catalog

instance (C : Catalog) : DecidableEq C.RequestKey := C.decRequestKey

instance (C : Catalog) : DecidableEq C.EventKey := C.decEventKey

def empty : Catalog where
  RequestKey := Empty
  Request := nofun
  Response := nofun
  requestType {k} := nomatch k
  identity {k} := nomatch k
  EventKey := Empty
  Event := nofun
  kind := nofun
  decRequestKey := inferInstance
  decEventKey := inferInstance

end Catalog

end Reminders
