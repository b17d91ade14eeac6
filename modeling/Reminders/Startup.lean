import Reminders.Address.Listening
import Reminders.Address.Printer
import Reminders.Config
import Reminders.Log.Filter
import Reminders.Mediator.Listing
import Reminders.Store.Database
import Reminders.Store.InMemory
import Reminders.Text.Quoted
import Reminders.World

/-!
# Starting the service

Starting reads the configuration, chooses a store, builds the mediator, finds the address to listen
at and listens, in this order, and stops at the first fault. Each stage is logged. A service that
has started runs until it is interrupted.

The store is a database if there is a URL for one, and else in memory. Whether the database can be
reached is up to the world that the service starts in.
-/

namespace Reminders

open Text (quoted)

def Failure.report : Failure → String
  | configuration detail => "Configuration(" ++ quoted detail ++ ")"
  | authorization detail => "Authorization(" ++ quoted detail ++ ")"
  | persistence detail => "Persistence(" ++ quoted detail ++ ")"
  | validation detail => "Validation(" ++ quoted detail ++ ")"
  | cancelled => "Cancelled"
  | handlerNotRegistered requestType => "HandlerNotRegistered(" ++ quoted requestType ++ ")"

namespace Startup

open Log (Entry Level)

inductive Fault where
  | config (detail : String)
  | setup (failure : Failure)
  | database (fault : Database.Fault)
  | server (detail : String)
  | listening (error : SystemError)
deriving DecidableEq, Repr

namespace Fault

def message : Fault → String
  | config detail => "configuration error: " ++ detail
  | setup failure => "setup error: " ++ failure.message
  | database fault => "database error: " ++ fault.message
  | server detail => "server error: " ++ detail
  | listening error => "server error: " ++ error.message

def report : Fault → String
  | config detail => "Config(" ++ quoted detail ++ ")"
  | setup failure => failure.report
  | database fault => fault.report
  | server detail => "Server(" ++ quoted detail ++ ")"
  | listening error => error.report

end Fault

inductive Store (δ : Type) where
  | memory (reminders : InMemory Reminder)
  | database (connection : Database.Connection δ) (content : δ)

variable {δ : Type}

def Store.add (signals : Signals) (reminder : Reminder) (token : Token) :
    Store δ → Except Failure Unit × Store δ
  | memory reminders =>
      let (result, reminders) := reminders.add signals reminder token
      (result, memory reminders)
  | database connection content =>
      let (result, content) := Database.add connection signals reminder token content
      (result, database connection content)

/-- A mediator of reminders that are kept in the store that has been chosen. -/
abbrev Wired (δ : Type) := Mediator Catalog.empty.withReminders (World (Store δ))

/-- A service that is listening. -/
structure Service (δ : Type) where
  config : Config
  /-- The store as it is at the beginning. -/
  store : Store δ
  mediator : Wired δ
  address : SocketAddress

/-- A stage of starting, which writes log entries and may fail. -/
abbrev Stage (α : Type) := ExceptT Fault (StateM (List Entry)) α

def log (level : Level) (target message : String) (fields : List (String × String)) : Stage Unit :=
  modify (· ++ [⟨level, target, message, fields⟩])

def apiTarget : String := "tidings_api"

def mediatorTarget : String := "tidings_mediator::mediator"

def declarationTarget : String := "tidings_consumer::declaration"

def fieldsOf (l : Listing) : List (String × String) :=
  [("event_kind", l.kind), ("consumer", l.consumer.text)]

/-- Opens the database at a URL as a store, with a table for the reminders. -/
def openDatabase (reach : Database.Reach δ) (url : String) : Stage (Store δ) :=
  match Database.connect reach url with
  | .error f => throw (.database f)
  | .ok (connection, content) =>
      match Database.ensureSchema connection content with
      | (.error f, _) => throw (.setup f)
      | (.ok (), content) => do
          log .info apiTarget "persisting reminders to PostgreSQL" []
          return .database connection content

def chooseStore (reach : Database.Reach δ) (config : Config) : Stage (Store δ) :=
  match config.databaseUrl with
  | some url => openDatabase reach url
  | none => do
      log .warn apiTarget "DATABASE_URL not set; reminders are kept in memory" []
      return .memory .empty

def buildMediator (version : String) : Stage (Wired δ) := do
  match Mediator.initial.registerReminders (World.services Store.add) version with
  | .error f => throw (.setup f)
  | .ok m =>
      for l in m.listings do
        log .debug declarationTarget "resolved consumer name"
          [("declaring_type", Reminder.declaration.declaringType),
            ("pattern", Reminder.declaration.pattern), ("consumer", l.consumer.text)]
      log .debug mediatorTarget "registered request handler"
        [("request_type", "tidings_reminders::domain::commands::SetReminder")]
      for l in m.listings do
        log .info mediatorTarget "subscribed consumer" (fieldsOf l)
      return m

/-- The stages of starting, for the variables that configure the service. -/
def stages (reach : Database.Reach δ) (lookup : String → Option String) : Stage (Service δ) := do
  log .info apiTarget "Starting Tidings API server" []
  match Config.ofLookup lookup with
  | .error f => throw (.config f.detail)
  | .ok config =>
      let store ← chooseStore reach config
      let mediator ← buildMediator config.apiVersion
      for l in mediator.listings do
        log .info apiTarget "consumer ready" (fieldsOf l)
      match config.bindAddress with
      | .error f => throw (.config f.detail)
      | .ok address =>
          log .info apiTarget ("Listening on " ++ address.text) []
          match address.host.listeningError? with
          | some error => throw (.listening error)
          | none => return ⟨config, store, mediator, address⟩

def start (reach : Database.Reach δ) (lookup : String → Option String) :
    Except Fault (Service δ) × List Entry :=
  (stages reach lookup).run.run []

/-- What is logged when the service is interrupted. -/
def stopping : List Entry :=
  [⟨.info, apiTarget, "Shutdown signal received", []⟩, ⟨.info, apiTarget, "Server stopped", []⟩]

structure Ending where
  exitCode : Nat
  /-- What is written besides the log. -/
  stderr : String
  /-- What is logged. -/
  entries : List Entry
deriving DecidableEq, Repr

/-- A run of the program where there is no database. It is interrupted once the service has
started. -/
def run (lookup : String → Option String) : Ending :=
  let filter := Log.Filter.ofSetting (lookup "RUST_LOG")
  match start Database.unreached lookup with
  | (.error f, entries) => ⟨1, "Error: " ++ f.report, entries.filter filter.passes⟩
  | (.ok _, entries) => ⟨0, "", (entries ++ stopping).filter filter.passes⟩

end Startup

end Reminders
