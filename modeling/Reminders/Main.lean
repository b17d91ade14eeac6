import Reminders.Startup

/-!
# The program

The program takes its configuration from the environment, starts the service, and keeps it until its
standard input ends, which stands for the interruption. There is no database for it to reach. The
log goes to standard output, one JSON object a line; the fault that kept the service from starting
goes to standard error.
-/

namespace Reminders.Program

def writeLog (filter : Log.Filter) (entries : List Log.Entry) : IO Unit := do
  for e in entries.filter filter.passes do
    IO.println e.toJson.render

end Reminders.Program

open Reminders

def main : IO UInt32 := do
  let names := ["HOST", "PORT", "API_VERSION", "DATABASE_URL", "RUST_LOG"]
  let settings ← names.filterMapM fun name => do
    return (← IO.getEnv name).map fun value => (name, value)
  let lookup (name : String) : Option String := settings.lookup name
  let filter := Log.Filter.ofSetting (lookup "RUST_LOG")
  let (result, entries) := Startup.start Database.unreached lookup
  Program.writeLog filter entries
  match result with
  | .error fault =>
      IO.eprintln ("Error: " ++ fault.report)
      return 1
  | .ok _ =>
      let _ ← (← IO.getStdin).readToEnd
      Program.writeLog filter Startup.stopping
      return 0
