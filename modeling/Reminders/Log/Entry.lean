import Reminders.Json.Value

/-!
# Log entries

An entry has a level, a target, which tells the part of the service that it comes from, a message
and further fields.
-/

namespace Reminders.Log

inductive Level where
  | error
  | warn
  | info
  | debug
  | trace
deriving DecidableEq, Repr

namespace Level

/-- The rank of a level, higher for what matters less. -/
def rank : Level → Nat
  | error => 1
  | warn => 2
  | info => 3
  | debug => 4
  | trace => 5

def text : Level → String
  | error => "ERROR"
  | warn => "WARN"
  | info => "INFO"
  | debug => "DEBUG"
  | trace => "TRACE"

end Level

structure Entry where
  level : Level
  target : String
  message : String
  fields : List (String × String)
deriving DecidableEq, Repr

namespace Entry

/-- The names of an entry's fields, of which the message is the first. -/
def fieldNames (e : Entry) : List String := "message" :: e.fields.map Prod.fst

def toJson (e : Entry) : Json.Value :=
  .object [("level", .text e.level.text),
    ("fields", .object (("message", .text e.message) :: e.fields.map fun f => (f.1, .text f.2))),
    ("target", .text e.target)]

end Entry

end Reminders.Log
