/-!
# Addresses

The addresses that a service can listen at: four octets, or eight groups of 16 bits with a scope,
and a port.
-/

namespace Reminders

structure Ipv4 where
  a : BitVec 8
  b : BitVec 8
  c : BitVec 8
  d : BitVec 8
deriving DecidableEq, Repr

structure Ipv6 where
  groups : List (BitVec 16)
  length_groups : groups.length = 8
deriving DecidableEq, Repr

namespace Ipv4

/-- The two groups that four octets make. -/
def groups (ip : Ipv4) : List (BitVec 16) := [ip.a ++ ip.b, ip.c ++ ip.d]

/-- The octets of two groups. -/
def ofGroups (high low : BitVec 16) : Ipv4 :=
  ⟨high.extractLsb' 8 8, high.extractLsb' 0 8, low.extractLsb' 8 8, low.extractLsb' 0 8⟩

end Ipv4

/-- The four octets that an address of eight groups stands for. -/
def Ipv6.mapped? (ip : Ipv6) : Option Ipv4 :=
  match ip.groups with
  | [0, 0, 0, 0, 0, 0xFFFF, high, low] => some (.ofGroups high low)
  | _ => none

/-- What a service can listen at, the port aside. -/
inductive Host where
  | v4 (ip : Ipv4)
  | v6 (ip : Ipv6) (scope : BitVec 32)
deriving DecidableEq, Repr

structure SocketAddress where
  host : Host
  port : BitVec 16
deriving DecidableEq, Repr

end Reminders
