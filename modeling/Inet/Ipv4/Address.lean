import Mathlib.Data.BitVec

/-!
# IPv4 addresses and netmasks

Addresses and netmasks are `uint32`. Valid netmasks, runs of ones followed by zeros, are ordered as
numbers the way they are by length.
-/

namespace Inet.Ipv4

abbrev IPv4Address : Type := BitVec 32

namespace IPv4Address

instance lawfulBEq : LawfulBEq IPv4Address := inferInstance

lemma toNat_injective : Function.Injective (BitVec.toNat : IPv4Address → ℕ) :=
  fun _ _ eq => BitVec.eq_of_toNat_eq eq

/-- The default constructor. -/
def UNSPECIFIED_ADDRESS : IPv4Address := 0

def ALLONES_ADDRESS : IPv4Address := BitVec.allOnes 32

def isUnspecified (addr : IPv4Address) : Prop := addr = 0

instance (addr : IPv4Address) : Decidable addr.isUnspecified := inferInstanceAs (Decidable (_ = _))

def str (addr : IPv4Address) : String :=
  if addr.isUnspecified then "<unspec>"
  else
    toString (addr >>> 24 &&& 255).toNat ++ "." ++ toString (addr >>> 16 &&& 255).toNat ++ "." ++
      toString (addr >>> 8 &&& 255).toNat ++ "." ++ toString (addr &&& 255).toNat

/-- `str(false)`, which has no text of its own for the unspecified address. -/
def strNumeric (addr : IPv4Address) : String :=
  toString (addr >>> 24 &&& 255).toNat ++ "." ++ toString (addr >>> 16 &&& 255).toNat ++ "." ++
    toString (addr >>> 8 &&& 255).toNat ++ "." ++ toString (addr &&& 255).toNat

def makeNetmask (length : ℕ) : IPv4Address :=
  if 32 ≤ length then BitVec.allOnes 32 else ~~~(BitVec.allOnes 32 >>> length)

/-- 32 minus the position of the lowest one bit. -/
def getNetmaskLength (addr : IPv4Address) : ℕ :=
  match (List.range 32).find? fun i => addr.getLsbD i with
  | some i => 32 - i
  | none => 0

def isValidNetmask (addr : IPv4Address) : Prop := addr = makeNetmask addr.getNetmaskLength

instance (addr : IPv4Address) : Decidable addr.isValidNetmask :=
  inferInstanceAs (Decidable (_ = _))

def maskedAddrAreEqual (addr1 addr2 netmask : IPv4Address) : Prop :=
  (addr1 ^^^ addr2) &&& netmask = 0

instance (addr1 addr2 netmask : IPv4Address) : Decidable (maskedAddrAreEqual addr1 addr2 netmask) :=
  inferInstanceAs (Decidable (_ = _))

lemma maskedAddrAreEqual_iff {addr1 addr2 netmask : IPv4Address} :
    maskedAddrAreEqual addr1 addr2 netmask ↔ addr1 &&& netmask = addr2 &&& netmask := by
  have distrib : (addr1 ^^^ addr2) &&& netmask = (addr1 &&& netmask) ^^^ (addr2 &&& netmask) := by
    ext i lt
    simp only [BitVec.getElem_and, BitVec.getElem_xor]
    exact Bool.and_xor_distrib_right ..
  rw [maskedAddrAreEqual, distrib]
  exact BitVec.xor_eq_zero_iff

def makeBroadcastAddress (addr netmask : IPv4Address) : IPv4Address := addr ||| ~~~netmask

variable {addr dest dest' netmask netmask' : IPv4Address}

lemma getNetmaskLength_le_32 : netmask.getNetmaskLength ≤ 32 := by
  rw [getNetmaskLength]
  split <;> omega

lemma makeNetmask_mono : ∀ length < 33, ∀ length' < 33, length < length' →
    makeNetmask length < makeNetmask length' := by
  decide +kernel

/-- Among valid netmasks the greater number is the longer mask. -/
lemma getNetmaskLength_le (valid : netmask.isValidNetmask) (valid' : netmask'.isValidNetmask)
    (le : netmask ≤ netmask') : netmask.getNetmaskLength ≤ netmask'.getNetmaskLength := by
  by_contra longer
  have lt := makeNetmask_mono netmask'.getNetmaskLength (Nat.lt_succ_of_le getNetmaskLength_le_32)
    netmask.getNetmaskLength (Nat.lt_succ_of_le getNetmaskLength_le_32) (not_le.mp longer)
  rw [← valid, ← valid', BitVec.lt_def] at lt
  rw [BitVec.le_def] at le
  omega

lemma makeNetmask_and : ∀ length < 33, ∀ length' < 33, length ≤ length' →
    makeNetmask length &&& makeNetmask length' = makeNetmask length := by
  decide +kernel

/-- Among valid netmasks the lesser number lies in the greater one. -/
lemma and_eq_of_le (valid : netmask.isValidNetmask) (valid' : netmask'.isValidNetmask)
    (le : netmask ≤ netmask') : netmask &&& netmask' = netmask := by
  have inside := makeNetmask_and netmask.getNetmaskLength (Nat.lt_succ_of_le getNetmaskLength_le_32)
    netmask'.getNetmaskLength (Nat.lt_succ_of_le getNetmaskLength_le_32)
    (getNetmaskLength_le valid valid' le)
  rwa [← valid, ← valid'] at inside

end IPv4Address

structure IPv4InterfaceData where
  inetAddr : IPv4Address
  netmask : IPv4Address
  metric : ℤ

/-- Interfaces are compared by pointer in the source; `interfaceId` stands for the pointer. -/
structure InterfaceEntry where
  interfaceId : ℕ
  mtu : ℕ
  loopback : Bool
  ipv4Data : Option IPv4InterfaceData

end Inet.Ipv4
