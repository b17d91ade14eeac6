import Reminders.Cancellation
import Reminders.Reminder.Basic
import Reminders.Store.Connection

/-!
# The database store

Reminders that are to outlast the service are kept in a relational database, in a table that is
created if there is none. A statement that the database does not carry out is a failure of
persistence; when the pool of connections has been closed, that becomes of every statement.
-/

namespace Reminders.Database

/-- Creates the table of reminders, and an index for the reminders of a user. -/
def schema : String :=
  "\nCREATE TABLE IF NOT EXISTS reminders (\n" ++
  "    reminder_id UUID PRIMARY KEY,\n" ++
  "    user_id     UUID NOT NULL,\n" ++
  "    title       VARCHAR(200) NOT NULL,\n" ++
  "    remind_at   TIMESTAMPTZ NOT NULL,\n" ++
  "    created_at  TIMESTAMPTZ NOT NULL DEFAULT NOW()\n" ++
  ");\n\n" ++
  "CREATE INDEX IF NOT EXISTS idx_reminders_user_id\n" ++
  "    ON reminders (user_id, remind_at);\n"

/-- Adds a reminder, unless there is one with its identifier. -/
def insertion : String :=
  "\nINSERT INTO reminders (reminder_id, user_id, title, remind_at, created_at)\n" ++
  "VALUES ($1, $2, $3, $4, $5)\n" ++
  "ON CONFLICT (reminder_id) DO NOTHING\n"

variable {δ : Type}

/-- The outcome of a task, by that of its statement. -/
def outcome (task : String) : Except Fault Nat → Except Failure Unit
  | .ok _ => .ok ()
  | .error fault => .error (.persistence (task ++ " failed: " ++ fault.message))

/-- Creates the table of reminders, if there is none. -/
def ensureSchema (connection : Connection δ) (content : δ) : Except Failure Unit × δ :=
  let (result, content) := connection.execute schema [] content
  (outcome "schema setup" result, content)

/-- Adds a reminder by a statement that is still to be sent. A cancelled token is noticed before. -/
def insert (signals : Signals) (token : Token) (send : δ → Except Fault Nat × δ) (content : δ) :
    Except Failure Unit × δ :=
  match signals.check token with
  | .error f => (.error f, content)
  | .ok () =>
      let (result, content) := send content
      (outcome "reminder insert" result, content)

def add (connection : Connection δ) (signals : Signals) (reminder : Reminder) (token : Token) :
    δ → Except Failure Unit × δ :=
  insert signals token (connection.execute insertion [.uuid reminder.id, .uuid reminder.user.uuid,
    .text reminder.title, .time reminder.remindAt, .time reminder.createdAt])

/-- A pool that has been closed. -/
def closed : Connection Unit := ⟨fun _ _ content => (.error .poolClosed, content)⟩

def addWhenClosed (signals : Signals) (token : Token) : Except Failure Unit :=
  (insert signals token (closed.execute insertion []) ()).1

def createWhenClosed : Except Failure Unit := (ensureSchema closed ()).1

end Reminders.Database
