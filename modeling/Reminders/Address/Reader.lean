import Reminders.Address.Basic
import Reminders.Text.Digit

/-!
# Reading addresses

An octet has at most three digits and no leading zero, a group at most four hexadecimal digits. In
an address of eight groups one run of groups may be left out between two colons, and the last two
groups, but not those before the two colons, may be written as four octets. Such an address stands
between brackets, with a scope after a percent sign if there is one. Readers take a text and return
what they read together with the rest.
-/

namespace Reminders

open Text (decimal? hexadecimal? ofDigits ofDigitsUpTo? spanDigits)

/-- Reads a number of any number of decimal digits that fits a width. -/
def readWord (width : Nat) (cs : List Char) : Option (BitVec width × List Char) :=
  let (ds, rest) := spanDigits decimal? cs
  if ds.isEmpty then none
  else (ofDigitsUpTo? 10 (1 <<< width - 1) ds).map fun n => (BitVec.ofNat width n, rest)

def readMark (mark : Char) : List Char → Option (List Char)
  | c :: cs => if c = mark then some cs else none
  | [] => none

namespace Ipv4

def readOctet (cs : List Char) : Option (BitVec 8 × List Char) :=
  let (ds, rest) := spanDigits decimal? cs
  if ds.isEmpty || 3 < ds.length || (1 < ds.length && ds.head? = some 0) ||
      255 < ofDigits 10 ds then
    none
  else some (BitVec.ofNat 8 (ofDigits 10 ds), rest)

/-- Reads an address of four octets. -/
def read (cs : List Char) : Option (Ipv4 × List Char) := do
  let (a, cs) ← readOctet cs
  let (b, cs) ← (readMark '.' cs).bind readOctet
  let (c, cs) ← (readMark '.' cs).bind readOctet
  let (d, cs) ← (readMark '.' cs).bind readOctet
  return (⟨a, b, c, d⟩, cs)

end Ipv4

namespace Ipv6

def readGroup (cs : List Char) : Option (BitVec 16 × List Char) :=
  let (ds, rest) := spanDigits hexadecimal? cs
  if ds.isEmpty || 4 < ds.length then none
  else some (BitVec.ofNat 16 (ofDigits 16 ds), rest)

/-- Groups that have been read. -/
structure Groups where
  groups : List (BitVec 16)
  /-- Whether the last two of them were written as four octets. -/
  dotted : Bool
  rest : List Char

/-- Reads as many groups as there are, up to a limit. A colon stands before each but the first. -/
def readGroups : (limit : Nat) → (first : Bool) → List Char → Groups
  | 0, _, cs => ⟨[], false, cs⟩
  | limit + 1, first, cs =>
      let front := if first then some cs else readMark ':' cs
      match if 0 < limit then front.bind Ipv4.read else none with
      | some (v4, rest) => ⟨v4.groups, true, rest⟩
      | none =>
          match front.bind readGroup with
          | none => ⟨[], false, cs⟩
          | some (group, rest) =>
              let more := readGroups limit false rest
              { more with groups := group :: more.groups }

def ofGroups? (groups : List (BitVec 16)) : Option Ipv6 :=
  if h : groups.length = 8 then some ⟨groups, h⟩ else none

/-- Reads an address of eight groups. -/
def read (cs : List Char) : Option (Ipv6 × List Char) := do
  let head := readGroups 8 true cs
  if head.groups.length = 8 then
    let ip ← ofGroups? head.groups
    return (ip, head.rest)
  else if head.dotted then none
  else
    let rest ← (readMark ':' head.rest).bind (readMark ':')
    let tail := readGroups (7 - head.groups.length) true rest
    let zeros := List.replicate (8 - head.groups.length - tail.groups.length) 0
    let ip ← ofGroups? (head.groups ++ zeros ++ tail.groups)
    return (ip, tail.rest)

end Ipv6

namespace Host

/-- Reads a scope, which is zero if none is written. -/
def readScope (cs : List Char) : BitVec 32 × List Char :=
  ((readMark '%' cs).bind (readWord 32)).getD (0, cs)

/-- Reads a host. -/
def read (cs : List Char) : Option (Host × List Char) :=
  match readMark '[' cs with
  | none => (Ipv4.read cs).map fun p => (.v4 p.1, p.2)
  | some cs => do
      let (ip, cs) ← Ipv6.read cs
      let (scope, cs) := readScope cs
      let cs ← readMark ']' cs
      return (.v6 ip scope, cs)

end Host

namespace SocketAddress

/-- Reads a host, a colon and a port that take up a whole text. -/
def parse? (cs : List Char) : Option SocketAddress := do
  let (host, cs) ← Host.read cs
  let (port, cs) ← (readMark ':' cs).bind (readWord 16)
  if cs.isEmpty then some ⟨host, port⟩ else none

def ofText? (s : String) : Option SocketAddress := parse? s.toList

end SocketAddress

end Reminders
