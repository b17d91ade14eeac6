import Reminders.Address.Reader
import Reminders.Domain.Reader
import Reminders.Text.Split
import Reminders.Url.Basic
import Reminders.Url.Percent

/-!
# Hosts of URLs

A host between brackets is an address of eight groups. Any other host of a web scheme or of a file
is a name whose percent escapes are decoded, or an address of one to four numbers if its last part
is a number; a number may be written in base eight or sixteen, and the last one makes up for those
that are missing. In other schemes a host is any text without the characters that separate the parts
of a URL.
-/

namespace Reminders.Url

open Text (decimal? hexadecimal? ofDigitsUpTo? spanDigits)

/-- The characters that no host may have. -/
def hostSeparators : List Char :=
  ['\x00', '\t', '\n', '\r', ' ', '#', '/', ':', '<', '>', '?', '@', '[', '\\', ']', '^', '|']

def isForbidden (c : Char) : Bool :=
  c.toNat ≤ 0x1F || c.toNat = 0x7F || c = '%' || hostSeparators.contains c

/-- The base of a number in an address, and its digits: `0x` announces base sixteen, and a zero
before other digits base eight. -/
def baseOf : List Char → Nat × List Char
  | '0' :: 'x' :: cs => (16, cs)
  | '0' :: 'X' :: cs => (16, cs)
  | '0' :: c :: cs => (8, c :: cs)
  | cs => (10, cs)

def addressCount : Nat := 1 <<< 32

/-- Reads a number of an address. One that has a base but no digits is zero, and all that are too
great for any address are as good as the first of them. -/
def addressNumber? (cs : List Char) : Option Nat :=
  let (base, digits) := baseOf cs
  match spanDigits hexadecimal? digits with
  | (ds, []) =>
      if cs.isEmpty || ds.any (base ≤ ·) then none
      else some ((ofDigitsUpTo? base addressCount ds).getD addressCount)
  | _ => none

/-- The parts of a domain between its dots, without an empty one at the end. -/
def domainParts (cs : List Char) : List (List Char) :=
  let parts := Text.splitOn '.' cs
  if parts.getLast? = some [] then parts.dropLast else parts

/-- Whether a domain is to be read as an address: its last part is a number or made of digits. -/
def endsInNumber (cs : List Char) : Bool :=
  match (domainParts cs).getLast? with
  | some part =>
      (!part.isEmpty && part.all fun c => (decimal? c).isSome) || (addressNumber? part).isSome
  | none => false

def isIpv4 (cs : List Char) : Bool :=
  match (domainParts cs).mapM addressNumber? with
  | some numbers =>
      numbers.length ≤ 4 && (numbers.dropLast.all (· ≤ 255)) &&
        numbers.getLast?.any (· < 1 <<< (8 * (5 - numbers.length)))
  | none => false

def isIpv6 (cs : List Char) : Bool :=
  match Ipv6.read cs with
  | some (_, rest) => rest.isEmpty
  | none => false

/-- Reads a host between brackets, of which the first has been seen. -/
def readBracketed (cs : List Char) : Except Fault (List Char) :=
  if cs.getLast? = some ']' && isIpv6 cs.tail.dropLast then .ok cs else .error .ipv6

def readDomain (cs : List Char) : Except Fault (List Char) :=
  if cs.head? = some '[' then readBracketed cs
  else
    match (decode cs).toOption.bind (Domain.read? isForbidden) with
    | none => .error .name
    | some labels =>
        let domain := Text.join '.' labels
        if domain.isEmpty then .error .emptyHost
        else if endsInNumber domain && !isIpv4 domain then .error .ipv4
        else .ok domain

def readOpaque (cs : List Char) : Except Fault (List Char) :=
  if cs.head? = some '[' then readBracketed cs
  else if cs.any hostSeparators.contains then .error .hostCharacter
  else .ok cs

end Reminders.Url
