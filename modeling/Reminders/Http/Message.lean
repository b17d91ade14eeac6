import Reminders.Failure
import Reminders.Json.Value

/-!
# Messages

Requests and responses. The name of a header ignores case, and the first header of a name is the one
that counts. The value of a header is made of bytes; it is text if all of them are visible ASCII
characters, spaces or tabs.
-/

namespace Reminders.Http

structure Header where
  name : String
  value : List UInt8
deriving DecidableEq, Repr

namespace Header

def isVisible (b : UInt8) : Bool := (0x20 ≤ b && b < 0x7F) || b == 0x09

def text? (h : Header) : Option (List Char) :=
  if h.value.all isVisible then some (h.value.map fun b => Char.ofNat b.toNat) else none

/-- The first header of a name, which is given in lower case. -/
def find? (name : String) (headers : List Header) : Option Header :=
  headers.find? (·.name.toLower = name)

end Header

structure Request where
  method : String
  /-- What is asked for. -/
  target : String
  headers : List Header
  body : ByteArray

structure Response where
  status : Nat
  contentType : Option String
  /-- The methods that would have been accepted. -/
  allow : Option String
  body : String
deriving DecidableEq, Repr

namespace Response

def empty (status : Nat) : Response := ⟨status, none, none, ""⟩

/-- A response with a JSON body. -/
def json (status : Nat) (value : Json.Value) : Response :=
  ⟨status, "application/json", none, value.render⟩

def plain (status : Nat) (text : String) : Response :=
  ⟨status, "text/plain; charset=utf-8", none, text⟩

def methodNotAllowed (allow : String) : Response := ⟨405, none, allow, ""⟩

def withoutBody (r : Response) : Response := { r with body := "" }

def statusOf : Failure → Nat
  | .validation _ => 400
  | .authorization _ => 401
  | .cancelled => 503
  | .configuration _ | .persistence _ | .handlerNotRegistered _ => 500

def codeOf : Failure → String
  | .validation _ => "validation_error"
  | .authorization _ => "authorization_error"
  | .cancelled => "cancelled"
  | .configuration _ => "configuration_error"
  | .persistence _ => "persistence_error"
  | .handlerNotRegistered _ => "handler_not_registered"

/-- The response to a request that failed. -/
def ofFailure (f : Failure) : Response :=
  json (statusOf f) (.object [("error", .text (codeOf f)), ("message", .text f.message)])

end Response

end Reminders.Http
