import Reminders.Http.MediaType
import Reminders.Http.Message
import Reminders.Http.Target
import Reminders.Mediator.Listing
import Reminders.Reminder.Handling
import Reminders.Reminder.Json

/-!
# The HTTP face of the service

There are three paths: one tells the state of the service, one lists the consumers, and one takes
requests to set a reminder. Such a request must be declared as JSON, must not be too large, and must
decode; only then is the caller's identity looked at and the request sent to the mediator, under the
token that stands for the shutdown of the service.
-/

namespace Reminders.Http

open Json (Decoder Shape Value)

def serviceVersion : String := "0.1.0"

def userIdHeader : String := "x-user-id"

/-- The most bytes that the body of a request may have. -/
def maxBodySize : Nat := 2097152

inductive Route where
  | health
  | consumers
  | reminders
deriving DecidableEq, Repr

namespace Route

def path : Route → List Char
  | health => "/health".toList
  | consumers => "/api/v1/consumers".toList
  | reminders => "/api/v1/reminders".toList

def ofTarget? (target : String) : Option Route :=
  [health, consumers, reminders].find? (·.path = targetPath target.toList)

def methods : Route → List String
  | health => ["GET", "HEAD"]
  | consumers => ["GET", "HEAD"]
  | reminders => ["POST"]

end Route

structure Draft where
  title : String
  remindAt : Timestamp
deriving DecidableEq, Repr

namespace Draft

def shape : Shape := [⟨"title", String, .text⟩, ⟨"remind_at", Timestamp, .timestamp⟩]

def ofValues : Json.Values shape → Draft
  | (title, remindAt, ()) => ⟨title, remindAt⟩

def decoder : Decoder Draft := (Decoder.record shape).map ofValues

end Draft

/-- Why the body of a request is not taken. -/
inductive Rejection where
  | notJson
  | tooLarge
  | malformed
  | mismatched
deriving DecidableEq, Repr

namespace Rejection

def response : Rejection → Response
  | notJson => .plain 415 "Expected request with `Content-Type: application/json`"
  | tooLarge => .plain 413 "Failed to buffer the request body"
  | malformed => .plain 400 "Failed to parse the request body as JSON"
  | mismatched => .plain 422 "Failed to deserialize the JSON body into the target type"

/-- The rejection of a body that cannot be decoded. -/
def ofFault : Json.Fault → Rejection
  | .malformed | .truncated => malformed
  | .mismatched => mismatched

end Rejection

namespace Request

def isJson (r : Request) : Bool :=
  ((Header.find? "content-type" r.headers).bind Header.text?).any fun cs =>
    (MediaType.parse? cs).any MediaType.isJson

def draft (r : Request) : Except Rejection Draft :=
  if !r.isJson then .error .notJson
  else if maxBodySize < r.body.size then .error .tooLarge
  else (Draft.decoder.decode (.ofBytes r.body)).mapError Rejection.ofFault

/-- The user that a request comes from. A request that does not say comes from the nil user. -/
def user (r : Request) : Except Failure UserId :=
  match Header.find? userIdHeader r.headers with
  | none => .ok .nil
  | some header =>
      match header.text?.bind fun cs => UserId.ofText? (String.ofList (Text.trim cs)) with
      | some user => .ok user
      | none => .error (.validation (userIdHeader ++ " header must be a UUID"))

end Request

def health (shuttingDown : Bool) : Value :=
  .object [("status", .text (if shuttingDown then "draining" else "ok")),
    ("version", .text serviceVersion), ("shutting_down", .flag shuttingDown)]

structure App (C : Catalog) (σ : Type) where
  mediator : Mediator C.withReminders σ
  /-- Makes a random identifier. -/
  freshId : StateM σ Uuid
  /-- Is cancelled when the service shuts down. -/
  shutdown : Token

namespace App

variable {C : Catalog} {σ : Type} [Cancellable σ]

/-- Sends a caller's draft to the mediator. -/
def setReminder (app : App C σ) (user : Except Failure UserId) (draft : Draft) :
    Task σ SetReminder.Outcome := do
  let correlationId ← Task.ofState app.freshId
  let user ← Task.ofExcept user
  let reminderId ← Task.ofState app.freshId
  let request : SetReminder := ⟨correlationId, user, reminderId, draft.title, draft.remindAt⟩
  app.mediator.send (k := .setReminder) request app.shutdown

def post (app : App C σ) (r : Request) : StateM σ Response := fun s =>
  match r.draft with
  | .error rejection => (rejection.response, s)
  | .ok draft =>
      match (app.setReminder r.user draft).exec s with
      | (.ok outcome, s') => (.json 201 outcome.toJson, s')
      | (.error f, s') => (.ofFailure f, s')

def get (app : App C σ) (route : Route) (s : σ) : Response :=
  match route with
  | .health => .json 200 (health ((Cancellable.signals s).isCancelled app.shutdown))
  | .consumers => .json 200 (.list (app.mediator.listings.map Listing.toJson))
  | .reminders => .empty 404

def respond (app : App C σ) (r : Request) : StateM σ Response := fun s =>
  match Route.ofTarget? r.target with
  | none => (.empty 404, s)
  | some route =>
      if !route.methods.contains r.method then
        (.methodNotAllowed (",".intercalate route.methods), s)
      else if route = .reminders then app.post r s
      else if r.method = "HEAD" then ((app.get route s).withoutBody, s)
      else (app.get route s, s)

end App

end Reminders.Http
