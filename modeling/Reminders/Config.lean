import Reminders.Address.Reader
import Reminders.Text.Blank
import Reminders.Text.Numeral

/-!
# Configuration

The service is configured by variables: where it listens, the version of its API and, if reminders
are to outlast it, the database. The port is looked at before the version. Host and port are put
together and read as one address only when the service is about to listen.
-/

namespace Reminders

open Text (NumeralFault trimmed)

structure Config where
  host : String
  port : BitVec 16
  apiVersion : String
  databaseUrl : Option String
deriving DecidableEq, Repr

namespace Config

inductive Fault where
  | port (fault : NumeralFault)
  | blankVersion
  | address
deriving DecidableEq, Repr

def Fault.detail : Fault → String
  | port fault => "PORT must be a valid u16: " ++ fault.message
  | blankVersion => "API_VERSION must not be blank"
  | address => "invalid HOST:PORT combination: invalid socket address syntax"

def readPort : Option String → Except Fault (BitVec 16)
  | none => .ok 3000
  | some raw =>
      match Text.Numeral.read 65535 raw.toList with
      | .error fault => .error (.port fault)
      | .ok port => .ok (BitVec.ofNat 16 port)

/-- The configuration that variables give. -/
def ofLookup (lookup : String → Option String) : Except Fault Config := do
  let port ← readPort (lookup "PORT")
  let apiVersion := (lookup "API_VERSION").getD "1.0"
  if trimmed apiVersion = "" then .error .blankVersion
  else
    let databaseUrl := (lookup "DATABASE_URL").filter fun url => trimmed url != ""
    .ok ⟨(lookup "HOST").getD "0.0.0.0", port, apiVersion, databaseUrl⟩

/-- The address that the service is to listen at. -/
def bindAddress (config : Config) : Except Fault SocketAddress :=
  match SocketAddress.ofText? (config.host ++ ":" ++ toString config.port.toNat) with
  | some address => .ok address
  | none => .error .address

end Config

end Reminders
