import Reminders.Address.Basic
import Reminders.SystemError

/-!
# Listening at an address

A service can listen at the addresses of the machine it runs on. Those that any machine has are at
hand here: its loopback addresses and the unspecified address. The system also takes the addresses
of groups, and of the network as a whole, if they have four octets. Of the addresses of eight groups
only the unspecified one is at hand, and those that stand for four octets are as good as these.
-/

namespace Reminders

namespace Ipv4

/-- Whether any machine can listen at an address. -/
def isAtHand (ip : Ipv4) : Bool :=
  ip.a = 0 || ip.a = 127 || (224 ≤ ip.a.toNat && ip.a.toNat ≤ 239) || ip = ⟨255, 255, 255, 255⟩

/-- Why a service cannot listen at an address. -/
def listeningError? (ip : Ipv4) : Option SystemError :=
  if ip.isAtHand then none else some .addressNotAvailable

end Ipv4

namespace Ipv6

def isGroup (ip : Ipv6) : Bool := ip.groups.head?.any (0xFF00 ≤ ·.toNat)

/-- Whether an address is known on a single link. -/
def isLinkLocal (ip : Ipv6) : Bool :=
  ip.groups.head?.any fun first => 0xFE80 ≤ first.toNat && first.toNat ≤ 0xFEBF

/-- Why a service cannot listen at an address. One that is known on a single link needs a scope,
which names the link: the first link is that of the machine with itself, and there is no other. -/
def listeningError? (ip : Ipv6) (scope : BitVec 32) : Option SystemError :=
  match ip.mapped? with
  | some v4 => v4.listeningError?
  | none =>
      if ip.groups.all (· = 0) then none
      else if ip.isGroup || (ip.isLinkLocal && scope = 0) then some .invalidArgument
      else if ip.isLinkLocal && scope != 1 then some .noSuchDevice
      else some .addressNotAvailable

end Ipv6

/-- Why a service cannot listen at a host. -/
def Host.listeningError? : Host → Option SystemError
  | v4 ip => ip.listeningError?
  | v6 ip scope => ip.listeningError? scope

end Reminders
