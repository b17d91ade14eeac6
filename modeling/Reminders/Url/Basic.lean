/-!
# URLs

The parts of a URL that tell where something is and how to get at it. What a scheme is decides how
the rest is read: in the schemes of the web a backslash is as good as a slash and there must be a
host, and in the scheme of files there is neither a user nor a port.
-/

namespace Reminders

/-- The parts of a URL. All but the host of a special scheme may hold percent escapes. -/
structure Url where
  user : List Char
  password : List Char
  /-- The host, empty if there is none. -/
  host : List Char
  /-- The port, if one is named that is not the usual one of the scheme. -/
  port : Option Nat
  path : List Char
  query : List Char
deriving DecidableEq, Repr

namespace Url

inductive Fault where
  /-- There is no scheme. -/
  | relative
  | emptyHost
  /-- The host is no name of a domain. -/
  | name
  | port
  | ipv4
  | ipv6
  /-- The host has a character that no host has. -/
  | hostCharacter
deriving DecidableEq, Repr

namespace Fault

def message : Fault → String
  | relative => "relative URL without a base"
  | emptyHost => "empty host"
  | name => "invalid international domain name"
  | port => "invalid port number"
  | ipv4 => "invalid IPv4 address"
  | ipv6 => "invalid IPv6 address"
  | hostCharacter => "invalid domain character"

def report : Fault → String
  | relative => "RelativeUrlWithoutBase"
  | emptyHost => "EmptyHost"
  | name => "IdnaError"
  | port => "InvalidPort"
  | ipv4 => "InvalidIpv4Address"
  | ipv6 => "InvalidIpv6Address"
  | hostCharacter => "InvalidDomainCharacter"

end Fault

inductive Scheme where
  | file
  /-- A scheme of the web. -/
  | web
  | other
deriving DecidableEq, Repr

namespace Scheme

/-- The port at which a web scheme is served if none is named. -/
def usualPort? (name : String) : Option Nat :=
  [("http", 80), ("https", 443), ("ws", 80), ("wss", 443), ("ftp", 21)].lookup name

def ofName (name : String) : Scheme :=
  if name = "file" then file else if (usualPort? name).isSome then web else other

def isSlash (scheme : Scheme) (c : Char) : Bool := c = '/' || (c = '\\' && scheme != other)

def isEnd (scheme : Scheme) (c : Char) : Bool := scheme.isSlash c || c = '?' || c = '#'

/-- Whether a character may stand in the name of a scheme, after the first letter. -/
def isNameChar (c : Char) : Bool := c.isAlphanum || c = '+' || c = '-' || c = '.'

end Scheme

end Url

end Reminders
