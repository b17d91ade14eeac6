import Reminders.FileSystem
import Reminders.Text.Numeral
import Reminders.Text.Quoted
import Reminders.Timestamp.Basic
import Reminders.Url.Query
import Reminders.Url.Reader
import Reminders.Uuid

/-!
# Connecting to the database

A URL tells how to connect to the database. Its parts are looked at in order, host, user, password,
the name of the database and the parameters, and the first of them that cannot be used is the one
that is reported.

What is found at the other end is no part of the service. A `Connection` carries out statements in
any way it likes, and `Reach` tells what comes of the attempt to connect.
-/

namespace Reminders.Database

open Text (NumeralFault quoted)

inductive Fault where
  /-- The pool of connections has been closed. -/
  | poolClosed
  /-- The URL of the database is no URL. -/
  | url (fault : Url.Fault)
  /-- A part of the URL does not spell text. -/
  | undecodable (fault : Text.Utf8.Fault)
  /-- A parameter is not the number it has to be. -/
  | number (fault : NumeralFault)
  /-- A parameter is not the address it has to be. -/
  | address
  /-- A parameter does not name a way of securing the connection. -/
  | sslMode (value : String)
  /-- The system does not connect to the database. -/
  | system (error : SystemError)
  /-- Nothing answers where the database should be. -/
  | unreachable
  /-- The database complains, in this wording, and its complaint is reported like this. -/
  | complaint (message report : String)
deriving DecidableEq, Repr

def kindOf : NumeralFault → String
  | .empty => "Empty"
  | .notDigit => "InvalidDigit"
  | .tooLarge => "PosOverflow"

namespace Fault

def sslModeDetail (value : String) : String := "unknown value " ++ quoted value ++ " for `ssl_mode`"

def undecodableDetail (fault : Text.Utf8.Fault) : String :=
  match fault.width with
  | some width =>
      "invalid utf-8 sequence of " ++ toString width ++ " bytes from index " ++ toString fault.start
  | none => "incomplete utf-8 byte sequence from index " ++ toString fault.start

def message : Fault → String
  | poolClosed => "attempted to acquire a connection on a closed pool"
  | url fault => "error with configuration: " ++ fault.message
  | undecodable fault => "error with configuration: " ++ undecodableDetail fault
  | number fault => "error with configuration: " ++ fault.message
  | address => "error with configuration: invalid IP address syntax"
  | sslMode value => "error with configuration: error with configuration: " ++ sslModeDetail value
  | system error => "error communicating with database: " ++ error.message
  | unreachable => "pool timed out while waiting for an open connection"
  | complaint message _ => "error returned from database: " ++ message

def reportWidth : Option Nat → String
  | some width => "Some(" ++ toString width ++ ")"
  | none => "None"

def report : Fault → String
  | poolClosed => "PoolClosed"
  | url fault => "Configuration(" ++ fault.report ++ ")"
  | undecodable fault =>
      "Configuration(Utf8Error \x7b valid_up_to: " ++ toString fault.start ++ ", error_len: " ++
        reportWidth fault.width ++ " \x7d)"
  | number fault => "Configuration(ParseIntError \x7b kind: " ++ kindOf fault ++ " \x7d)"
  | address => "Configuration(AddrParseError(Ip))"
  | sslMode value => "Configuration(Configuration(" ++ quoted (sslModeDetail value) ++ "))"
  | system error => "Io(" ++ error.report ++ ")"
  | unreachable => "PoolTimedOut"
  | complaint _ report => "Database(" ++ report ++ ")"

end Fault

structure Place where
  /-- A host of the network. -/
  host : List Char
  port : Nat
  /-- The directory with the socket of the database, which makes the host not matter. -/
  directory : Option (List Char)
deriving DecidableEq, Repr

/-- Where the database is if nothing is said. -/
def Place.usual : Place := ⟨"localhost".toList, 5432, none⟩

def sslModes : List String := ["disable", "allow", "prefer", "require", "verify-ca", "verify-full"]

def isAddress (cs : List Char) : Bool :=
  (match Ipv4.read cs with
    | some (_, rest) => rest.isEmpty
    | none => false) || Url.isIpv6 cs

def readNumber (bound : Nat) (value : String) : Except Fault Nat :=
  (Text.Numeral.read bound value.toList).mapError .number

/-- Takes up a parameter. A host that is named like a directory stands for a socket in it.
Parameters that are not known are passed over. -/
def takeParameter (place : Place) (parameter : String × String) : Except Fault Place :=
  let (name, value) := parameter
  match name with
  | "sslmode" | "ssl-mode" =>
      if sslModes.contains value.toLower then .ok place else .error (.sslMode value)
  | "statement-cache-capacity" => (readNumber (UInt64.size - 1) value).map fun _ => place
  | "port" => (readNumber 65535 value).map fun port => { place with port }
  | "host" =>
      .ok (if value.startsWith "/" then { place with directory := some value.toList }
        else { place with host := value.toList })
  | "hostaddr" =>
      if isAddress value.toList then .ok { place with host := value.toList } else .error .address
  | _ => .ok place

/-- The text that a part of a URL stands for. -/
def decodePart (part : List Char) : Except Fault (List Char) :=
  (Url.decode part).mapError .undecodable

/-- Takes up the host of a URL. One that starts with a slash, which has to be escaped, is the
directory of a socket; the escapes of any other stay as they are. -/
def takeHost (place : Place) (host : List Char) : Except Fault Place :=
  if (Url.unescape host).head? = some '/'.toUInt8 then do
    let directory ← decodePart host
    return { place with directory := some directory }
  else .ok (if host.isEmpty then place else { place with host })

def locate (url : Url) : Except Fault Place := do
  let place ← takeHost .usual url.host
  let place := { place with port := url.port.getD place.port }
  let _ ← decodePart url.user
  let _ ← decodePart url.password
  let _ ← decodePart (url.path.dropWhile (· = '/'))
  (Url.readQuery url.query).foldlM takeParameter place

namespace Place

/-- The number of bytes that the path of a socket has to stay below. -/
def pathLimit : Nat := 108

/-- The path of the socket in a directory, which is named for the port. -/
def socketPath (directory : List Char) (port : Nat) : List Char :=
  directory ++ "/.s.PGSQL.".toList ++ Nat.toDigits 10 port

/-- Why there is no socket at a path. -/
def socketError? (path : List Char) : Option SystemError :=
  if path.contains '\x00' then some .nullInPath
  else if pathLimit ≤ (String.ofList path).utf8ByteSize then some .longPath
  else FileSystem.error? path

/-- Why the database is not looked for at a host. None but the addresses of four octets can be
reached, and the addresses that stand for these. -/
def hostError? (host : List Char) : Option SystemError :=
  let isBracket (c : Char) : Bool := c = '[' || c = ']'
  let name := ((host.dropWhile isBracket).reverse.dropWhile isBracket).reverse
  match Ipv6.read name with
  | some (ip, []) => if ip.mapped?.isSome then none else some .addressNotAvailable
  | _ => if name.contains '\x00' then some .nullInName else none

/-- Why the database cannot be used where it is said to be. -/
def fault (place : Place) : Fault :=
  let error? := match place.directory with
    | some directory => socketError? (socketPath directory place.port)
    | none => hostError? place.host
  match error? with
  | some error => .system error
  | none => .unreachable

end Place

inductive Argument where
  | uuid (u : Uuid)
  | text (s : String)
  | time (t : Timestamp)
deriving DecidableEq, Repr

/-- A pool of connections to a database with contents of type `δ`. -/
structure Connection (δ : Type) where
  /-- Carries out a statement with its arguments. Answers how many rows it has added. -/
  execute : String → List Argument → δ → Except Fault Nat × δ

/-- What comes of connecting to the database at a place. The URL says who connects to it. -/
abbrev Reach (δ : Type) := Place → String → Except Fault (Connection δ × δ)

/-- Nowhere is there a database. -/
def unreached : Reach Unit := fun place _ => .error place.fault

/-- Connects to the database at a URL. -/
def connect {δ : Type} (reach : Reach δ) (url : String) : Except Fault (Connection δ × δ) := do
  let place ← (Url.read url.toList).mapError Fault.url >>= locate
  reach place url

end Reminders.Database
