import Reminders.Url.Host
import Reminders.Url.Path

/-!
# Reading URLs

A URL starts with the name of its scheme and a colon. Then, in most cases after two slashes, come
user and password, the host and the port; the path, the query after a question mark, and the
fragment after a number sign end it. Control characters and spaces around a URL, and tabs and line
breaks in it, do not count.
-/

namespace Reminders.Url

open Text (decimal? ofDigitsUpTo? spanDigits)

/-- A URL without what is around it. -/
def cleaned (url : List Char) : List Char :=
  let isLow (c : Char) : Bool := c.toNat ≤ 0x20
  ((url.dropWhile isLow).reverse.dropWhile isLow).reverse

/-- A text from where a character counts, after so many others that do. -/
def dropCounted : Nat → List Char → List Char
  | 0, cs => cs.dropWhile fun c => !counts c
  | _ + 1, [] => []
  | n + 1, c :: cs => dropCounted (if counts c then n else n + 1) cs

/-- The end of a URL that is as given but for what does not count. -/
def endOf (url cs : List Char) : List Char :=
  dropCounted ((url.filter counts).length - cs.length) url

def splitScheme : List Char → Except Fault (String × List Char)
  | [] => .error .relative
  | c :: cs =>
      let name := (c :: cs).takeWhile Scheme.isNameChar
      match (c :: cs).dropWhile Scheme.isNameChar with
      | ':' :: rest =>
          if c.isAlpha then .ok (String.ofList (name.map Char.toLower), rest)
          else .error .relative
      | _ => .error .relative

/-- Who is to use what a URL points to. -/
structure Credentials where
  user : List Char
  password : List Char
deriving DecidableEq, Repr

namespace Credentials

def none : Credentials := ⟨[], []⟩

/-- The user and, after the first colon, the password. -/
def ofText (cs : List Char) : Credentials :=
  let inUser (c : Char) : Bool := c != ':'
  ⟨cs.takeWhile inUser, (cs.dropWhile inUser).drop 1⟩

end Credentials

/-- Takes off the credentials, which end with the last at sign before the path. An at sign in front
of which there is nothing needs a host. -/
def splitCredentials (scheme : Scheme) (cs : List Char) : Except Fault (Credentials × List Char) :=
  let authority := cs.takeWhile fun c => !scheme.isEnd c
  if !authority.contains '@' then .ok (.none, cs)
  else
    let host := (authority.reverse.takeWhile (· != '@')).length
    let rest := cs.drop (authority.length - host)
    match authority.take (authority.length - host - 1) with
    | [] => if rest.head?.any scheme.isEnd then .error .emptyHost else .ok (.none, rest)
    | text => .ok (.ofText text, rest)

/-- Takes off the host. A colon ends it, but not between brackets. -/
def spanHost (scheme : Scheme) (bracketed : Bool) : List Char → List Char × List Char
  | [] => ([], [])
  | c :: cs =>
      if scheme.isEnd c || (c = ':' && !bracketed) then ([], c :: cs)
      else
        let (host, rest) := spanHost scheme (c = '[' || (bracketed && c != ']')) cs
        (c :: host, rest)

def readPort : List Char → Except Fault (Option Nat × List Char)
  | ':' :: cs =>
      let (digits, rest) := spanDigits decimal? cs
      match ofDigitsUpTo? 10 65535 digits with
      | none => .error .port
      | some port =>
          if rest.head?.any (!Scheme.web.isEnd ·) then .error .port
          else .ok (if digits.isEmpty then none else some port, rest)
  | cs => .ok (none, cs)

def inPath (c : Char) : Bool := c != '?' && c != '#'

/-- The query in what follows a path. -/
def queryAfter : List Char → List Char
  | '?' :: cs => cs.takeWhile (· != '#')
  | _ => []

/-- The URL whose path and query are read from a text. -/
def ofPath (scheme : Scheme) (credentials : Credentials) (host : List Char) (port : Option Nat)
    (cs : List Char) : Url :=
  ⟨credentials.user, credentials.password, host, port,
    pathOf (readSegments scheme (cs.takeWhile inPath)),
    queryAfter ((cs.dropWhile inPath).filter counts)⟩

/-- Reads what follows two slashes. There must be a host in a web scheme, and in any other scheme if
there is a user, a password or a port. -/
def readAuthority (scheme : Scheme) (usualPort : Option Nat) (cs : List Char) :
    Except Fault Url := do
  let (credentials, cs) ← splitCredentials scheme cs
  let (hostText, cs) := spanHost scheme false cs
  if hostText.isEmpty && (scheme != .other || cs.head? = some ':') then .error .emptyHost
  else
    let host ← if scheme = .other then readOpaque hostText else readDomain hostText
    let (port, cs) ← readPort cs
    if host.isEmpty && credentials != .none then .error .emptyHost
    else .ok (ofPath scheme credentials host (if port = usualPort then none else port) cs)

/-- The URL of a file on a host. A path that starts with a drive is one of the machine itself. -/
def ofFile (host : List Char) (cs : List Char) : Url :=
  let isOwn := (readSegments .file (cs.takeWhile inPath)).head?.any isDrive
  ofPath .file .none (if isOwn then [] else host) none cs

/-- Reads what follows the scheme of files in a URL. The host that a service runs on need not be
named. -/
def readFile (url cs : List Char) : Except Fault Url := do
  let isSlash := Scheme.file.isSlash
  if (cs.take 2).length = 2 && (cs.take 2).all isSlash then
    let rest := cs.drop 2
    let hostText := rest.takeWhile fun c => !Scheme.file.isEnd c
    if hostText.isEmpty || isDrive hostText then .ok (ofFile [] (endOf url rest))
    else
      let host ← readDomain hostText
      let host := if host = "localhost".toList then [] else host
      .ok (ofFile host (endOf url (rest.drop hostText.length)))
  else .ok (ofFile [] (endOf url cs))

/-- Reads what follows a scheme that is neither of the web nor of files. -/
def readOther : List Char → Except Fault Url
  | '/' :: '/' :: cs => readAuthority .other none cs
  | '/' :: cs => .ok (ofPath .other .none [] none ('/' :: cs))
  | cs => .ok ⟨[], [], [], none, cs.takeWhile inPath, queryAfter (cs.dropWhile inPath)⟩

def read (url : List Char) : Except Fault Url := do
  let url := cleaned url
  let (name, rest) ← splitScheme (url.filter counts)
  match Scheme.ofName name with
  | .file => readFile url rest
  | .web => readAuthority .web (Scheme.usualPort? name) (rest.dropWhile Scheme.web.isSlash)
  | .other => readOther rest

end Reminders.Url
