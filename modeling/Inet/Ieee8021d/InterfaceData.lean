import Mathlib.Data.Int.Notation
import Mathlib.Tactic.Common

/-!
# Ports and BPDUs

`Ieee8021dInterfaceData` and `BPDU` of the two spanning tree protocols. An `unsigned int` has 32
bits; times are integers.
-/

namespace Inet.Ieee8021d

abbrev MACAddress := BitVec 48

def MACAddress.compareTo (address other : MACAddress) : ℤ :=
  if address < other then -1 else if address = other then 0 else 1

abbrev Unsigned := BitVec 32

inductive PortRole where
  | ALTERNATE
  | NOTASSIGNED
  | DISABLED
  | DESIGNATED
  | BACKUP
  | ROOT
  deriving DecidableEq

inductive PortState where
  | DISCARDING
  | LEARNING
  | FORWARDING
  deriving DecidableEq

structure InterfaceData where
  priority : Unsigned
  linkCost : Unsigned
  edge : Bool
  state : PortState
  role : PortRole
  rootPriority : Unsigned
  rootAddress : MACAddress
  rootPathCost : Unsigned
  bridgePriority : Unsigned
  bridgeAddress : MACAddress
  portPriority : Unsigned
  portNum : Unsigned
  age : ℤ
  maxAge : ℤ
  fdWhile : ℤ
  fwdDelay : ℤ
  helloTime : ℤ
  TCWhile : ℤ
  lostBPDU : ℕ
  nextUpgrade : ℤ
  deriving DecidableEq

structure BPDU where
  tcaFlag : Bool
  tcFlag : Bool
  rootAddress : MACAddress
  rootPriority : Unsigned
  rootPathCost : Unsigned
  bridgeAddress : MACAddress
  bridgePriority : Unsigned
  portNum : Unsigned
  portPriority : Unsigned
  messageAge : ℤ
  maxAge : ℤ
  helloTime : ℤ
  forwardDelay : ℤ
  deriving DecidableEq

/-- What is compared of a port, or of a BPDU. -/
structure PriorityVector where
  rootPriority : Unsigned
  rootAddress : MACAddress
  rootPathCost : Unsigned
  bridgePriority : Unsigned
  bridgeAddress : MACAddress
  portPriority : Unsigned
  portNum : Unsigned
  deriving DecidableEq

/-- The vector that the port has stored. -/
def InterfaceData.vector (port : InterfaceData) : PriorityVector :=
  ⟨port.rootPriority, port.rootAddress, port.rootPathCost, port.bridgePriority, port.bridgeAddress,
    port.portPriority, port.portNum⟩

/-- The vector of the BPDU, behind a link with this cost. -/
def BPDU.vector (bpdu : BPDU) (linkCost : Unsigned) : PriorityVector :=
  ⟨bpdu.rootPriority, bpdu.rootAddress, bpdu.rootPathCost + linkCost, bpdu.bridgePriority,
    bpdu.bridgeAddress, bpdu.portPriority, bpdu.portNum⟩

end Inet.Ieee8021d
