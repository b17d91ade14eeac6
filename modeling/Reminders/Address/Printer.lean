import Reminders.Address.Basic
import Reminders.Text.Split

/-!
# Writing addresses

Octets are written in decimal between points, groups in hexadecimal between colons and without
leading zeros. The longest run of two or more zero groups is written as two colons, the first one if
there are several. The addresses that stand for four octets, and only these, end in a dotted part. A
scope is written unless it is zero.
-/

namespace Reminders

open Text (join)

def Ipv4.chars (ip : Ipv4) : List Char :=
  join '.' ([ip.a, ip.b, ip.c, ip.d].map fun o => Nat.toDigits 10 o.toNat)

namespace Ipv6

/-- Groups with colons between them. -/
def groupChars (groups : List (BitVec 16)) : List Char :=
  join ':' (groups.map fun g => Nat.toDigits 16 g.toNat)

/-- Where the first of the longest runs of zeros begins, and its length. -/
def longestZeros (groups : List (BitVec 16)) : Nat × Nat :=
  (List.range groups.length).foldl (fun best i =>
    let run := ((groups.drop i).takeWhile (· = 0)).length
    if best.2 < run then (i, run) else best) (0, 0)

def chars (ip : Ipv6) : List Char :=
  match ip.mapped? with
  | some v4 => "::ffff:".toList ++ v4.chars
  | none =>
      let (start, length) := longestZeros ip.groups
      if 1 < length then
        groupChars (ip.groups.take start) ++ ':' :: ':' ::
          groupChars (ip.groups.drop (start + length))
      else groupChars ip.groups

end Ipv6

def Host.chars : Host → List Char
  | v4 ip => ip.chars
  | v6 ip scope =>
      '[' :: ip.chars ++ (if scope = 0 then [] else '%' :: Nat.toDigits 10 scope.toNat) ++ [']']

def SocketAddress.text (a : SocketAddress) : String :=
  String.ofList (a.host.chars ++ ':' :: Nat.toDigits 10 a.port.toNat)

instance : ToString SocketAddress := ⟨SocketAddress.text⟩

end Reminders
