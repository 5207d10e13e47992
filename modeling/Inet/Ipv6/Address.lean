import Mathlib.Data.BitVec

/-!
# IPv6 addresses

`IPv6Address` is 128 bits; `matches` compares the leading bits.
-/

namespace Inet.Ipv6

abbrev IPv6Address : Type := BitVec 128

namespace IPv6Address

def UNSPECIFIED_ADDRESS : IPv6Address := 0

/-- `FF02:0:0:0:0:1:FF00:0`. -/
def SOLICITED_NODE_PREFIX : IPv6Address := 0xFF0200000000000000000001FF000000

def isUnspecified (addr : IPv6Address) : Prop := addr = 0

instance (addr : IPv6Address) : Decidable addr.isUnspecified := inferInstanceAs (Decidable (_ = _))

/-- `prefixLength` one bits followed by zeros. -/
def constructMask (prefixLength : ℕ) : IPv6Address := BitVec.allOnes 128 <<< (128 - prefixLength)

/-- `IPv6Address::matches`. -/
def matches_ (addr prefixAddr : IPv6Address) (prefixLength : ℕ) : Prop :=
  (addr ^^^ prefixAddr) &&& constructMask prefixLength = 0

instance (addr prefixAddr : IPv6Address) (prefixLength : ℕ) :
    Decidable (addr.matches_ prefixAddr prefixLength) :=
  inferInstanceAs (Decidable (_ = _))

def isSolicitedNodeMulticastAddress (addr : IPv6Address) : Prop :=
  addr.matches_ SOLICITED_NODE_PREFIX 104

instance (addr : IPv6Address) : Decidable addr.isSolicitedNodeMulticastAddress :=
  inferInstanceAs (Decidable (_ = _))

end IPv6Address

end Inet.Ipv6
