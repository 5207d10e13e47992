import Inet.Base.SimError
import Inet.Ieee8021d.InterfaceData
import Inet.Lib.Outcome
import Inet.Lib.RootElection

/-!
# STP

The bridge of the Spanning Tree Protocol: how it handles a configuration BPDU, and how it chooses
the root and the roles of its ports.
-/

namespace Inet.Ieee8021d

structure STP (numPorts : ℕ) where
  bridgePriority : Unsigned
  bridgeAddress : MACAddress
  maxAge : ℤ
  /-- The parameter at first, and then the time since the last Hello. -/
  helloTime : ℤ
  forwardDelay : ℤ
  ports : Fin numPorts → InterfaceData
  isRoot : Bool
  topologyChangeNotification : Bool
  topologyChangeRecvd : Bool
  rootPriority : Unsigned
  rootAddress : MACAddress
  rootPathCost : Unsigned
  rootPort : ℕ
  currentHelloTime : ℤ
  currentMaxAge : ℤ
  currentFwdDelay : ℤ
  desPorts : List (Fin numPorts)
  /-- Of the MAC address table; `none` is the default. -/
  agingTime : Option ℤ
  /-- What has been sent so far, with the port. -/
  relayOut : List (Fin numPorts × BPDU)
  deriving DecidableEq

namespace STP

variable {numPorts : ℕ} (st : STP numPorts)

def compareBridgeIDs (aPriority : Unsigned) (aAddress : MACAddress) (bPriority : Unsigned)
    (bAddress : MACAddress) : ℤ :=
  if aPriority < bPriority then 1
  else if bPriority < aPriority then -1
  else if aAddress.compareTo bAddress = -1 then 1
  else if aAddress.compareTo bAddress = 1 then -1
  else 0

def comparePortIDs (aPriority aNum bPriority bNum : Unsigned) : ℤ :=
  if aPriority < bPriority then 1
  else if bPriority < aPriority then -1
  else if aNum < bNum then 1
  else if bNum < aNum then -1
  else 0

def comparePorts (a b : PriorityVector) : ℤ :=
  let result := compareBridgeIDs a.rootPriority a.rootAddress b.rootPriority b.rootAddress
  if result ≠ 0 then result
  else if a.rootPathCost < b.rootPathCost then 1
  else if b.rootPathCost < a.rootPathCost then -1
  else
    let result := compareBridgeIDs a.bridgePriority a.bridgeAddress b.bridgePriority b.bridgeAddress
    if result ≠ 0 then result
    else comparePortIDs a.portPriority a.portNum b.portPriority b.portNum

/-! ## Choosing the root -/

def checkRootEligibility : Bool :=
  (List.finRange numPorts).all fun i =>
    compareBridgeIDs (st.ports i).rootPriority (st.ports i).rootAddress st.bridgePriority
      st.bridgeAddress ≤ 0

/-- All ports of the root switch are designated ports. -/
def setAllDesignated : STP numPorts :=
  { st with
    ports := fun i =>
      if (st.ports i).role = .DISABLED then st.ports i
      else { st.ports i with role := .DESIGNATED }
    desPorts := (List.finRange numPorts).filter fun i => (st.ports i).role ≠ .DISABLED }

/-- The port takes the place of the best one so far. -/
def betterPort (currentPort best : InterfaceData) : Bool :=
  let result := comparePorts currentPort.vector best.vector
  if 0 < result then true
  else if result < 0 then false
  else currentPort.priority < best.priority

/-- The loop of `selectRootPort`. -/
def bestPort (first : Fin numPorts) : Fin numPorts :=
  (List.finRange numPorts).foldl (fun best i =>
    if betterPort (st.ports i) (st.ports best) then i else best) first

def selectRootPort : Except SimError (STP numPorts) :=
  if lt : 0 < numPorts then
    let xRootPort := st.bestPort ⟨0, lt⟩
    let best := st.ports xRootPort
    .ok { st with
      desPorts := []
      ports := fun i =>
        { st.ports i with role := if i = xRootPort then .ROOT else .NOTASSIGNED }
      topologyChangeNotification :=
        if st.rootPort ≠ xRootPort then true else st.topologyChangeNotification
      rootPort := xRootPort
      rootPathCost := best.rootPathCost
      rootAddress := best.rootAddress
      rootPriority := best.rootPriority
      currentMaxAge := best.maxAge
      currentFwdDelay := best.fwdDelay
      currentHelloTime := best.helloTime }
  else .error (.runtimeError "gate is NULL")

/-- What the bridge would advertise at the port, behind its link. -/
def bridgeGlobal (i : Fin numPorts) : PriorityVector where
  rootPriority := st.rootPriority
  rootAddress := st.rootAddress
  rootPathCost := st.rootPathCost + (st.ports i).linkCost
  bridgePriority := st.bridgePriority
  bridgeAddress := st.bridgeAddress
  portPriority := (st.ports i).priority
  portNum := BitVec.ofNat 32 i

/-- What the bridge would advertise against what the port has stored. -/
def compareGlobal (i : Fin numPorts) : ℤ := comparePorts (st.bridgeGlobal i) (st.ports i).vector

/-- The loop of `selectDesignatedPorts` steps over the port. -/
def skipped (i : Fin numPorts) : Prop :=
  (st.ports i).role = .ROOT ∨ (st.ports i).role = .DISABLED

instance (i : Fin numPorts) : Decidable (st.skipped i) := inferInstanceAs (Decidable (_ ∨ _))

def selectedRole (i : Fin numPorts) : PortRole :=
  if st.skipped i then (st.ports i).role
  else if 0 < st.compareGlobal i then .DESIGNATED
  else if st.compareGlobal i < 0 then .ALTERNATE
  else (st.ports i).role

def selectDesignatedPorts : STP numPorts :=
  { st with
    desPorts := (List.finRange numPorts).filter fun i => ¬ st.skipped i ∧ 0 < st.compareGlobal i
    ports := fun i => { st.ports i with role := st.selectedRole i } }

def tryRoot : Except SimError (STP numPorts) :=
  if st.checkRootEligibility then
    let st := setAllDesignated { st with isRoot := true }
    .ok { st with
      rootPriority := st.bridgePriority
      rootAddress := st.bridgeAddress
      rootPathCost := 0
      currentHelloTime := st.helloTime
      currentMaxAge := st.maxAge
      currentFwdDelay := st.forwardDelay }
  else do
    let st ← selectRootPort { st with isRoot := false }
    .ok st.selectDesignatedPorts

/-- The BPDU that `generateBPDU` builds. -/
def configurationBPDU (i : Fin numPorts) (tcFlag tcaFlag : Bool) : BPDU :=
  let notifies := st.topologyChangeNotification && (st.isRoot || tcFlag)
  let acknowledges := st.topologyChangeNotification && !(st.isRoot || tcFlag) && tcaFlag
  { tcaFlag := acknowledges
    tcFlag := notifies
    rootAddress := st.rootAddress
    rootPriority := st.rootPriority
    rootPathCost := st.rootPathCost
    bridgeAddress := st.bridgeAddress
    bridgePriority := st.bridgePriority
    portNum := BitVec.ofNat 32 i
    portPriority := (st.ports i).priority
    messageAge := 0
    maxAge := st.currentMaxAge
    helloTime := st.currentHelloTime
    forwardDelay := st.currentFwdDelay }

def generateBPDU (i : Fin numPorts) (tcFlag tcaFlag : Bool) : STP numPorts :=
  { st with relayOut := st.relayOut ++ [(i, st.configurationBPDU i tcFlag tcaFlag)] }

def setSuperiorBPDU (i : Fin numPorts) (bpdu : BPDU) : STP numPorts :=
  if bpdu.maxAge ≤ bpdu.messageAge then st
  else
    { st with ports := Function.update st.ports i { st.ports i with
        rootPriority := bpdu.rootPriority
        rootAddress := bpdu.rootAddress
        rootPathCost := bpdu.rootPathCost + (st.ports i).linkCost
        bridgePriority := bpdu.bridgePriority
        bridgeAddress := bpdu.bridgeAddress
        portPriority := bpdu.portPriority
        portNum := bpdu.portNum
        maxAge := bpdu.maxAge
        fwdDelay := bpdu.forwardDelay
        helloTime := bpdu.helloTime
        age := 0 } }

def isSuperiorBPDU (i : Fin numPorts) (bpdu : BPDU) : Bool × STP numPorts :=
  let result := comparePorts (st.ports i).vector (bpdu.vector (st.ports i).linkCost)
  if 0 < result then (false, st)
  else if result < 0 then
    (true, setSuperiorBPDU { st with ports := Function.update st.ports i { st.ports i with
      fdWhile := 0
      state := .DISCARDING } } i bpdu)
  else (true, st.setSuperiorBPDU i bpdu)

/-- A superior BPDU from the root switch is passed on at the designated ports. -/
def passOnBPDU (bpdu : BPDU) : STP numPorts :=
  let st := { st with agingTime := if bpdu.tcFlag then some st.currentFwdDelay else none }
  st.desPorts.foldl (fun st i => st.generateBPDU i bpdu.tcFlag false) st

def handleBPDU (arrivalGate : Fin numPorts) (bpdu : BPDU) : Except SimError (STP numPorts) :=
  let st :=
    if bpdu.tcaFlag then
      { st with topologyChangeRecvd := true, topologyChangeNotification := false }
    else st
  let (superior, st) := st.isSuperiorBPDU arrivalGate bpdu
  let st :=
    if superior = false then
      if (st.ports arrivalGate).role = .DESIGNATED then st.generateBPDU arrivalGate false false
      else st
    else if (st.ports arrivalGate).role = .ROOT then st.passOnBPDU bpdu
    else st
  st.tryRoot

end STP

/-! ## Stable states -/

structure BridgedNetwork (Bridge LAN : Type) where
  numPorts : Bridge → ℕ
  lan : (b : Bridge) → Fin (numPorts b) → LAN

variable {Bridge LAN : Type}

/-- The state of each bridge. -/
abbrev BridgedNetwork.State (net : BridgedNetwork Bridge LAN) := (b : Bridge) → STP (net.numPorts b)

/-- The priority and the address of a bridge as one number. -/
def bridgeID (priority : Unsigned) (address : MACAddress) : ℕ :=
  priority.toNat * 2 ^ 48 + address.toNat

def STP.id {numPorts : ℕ} (st : STP numPorts) : ℕ := bridgeID st.bridgePriority st.bridgeAddress

/-- The port has stored the BPDU. -/
structure SetBy (port : InterfaceData) (bpdu : BPDU) : Prop where
  vector : port.vector = bpdu.vector port.linkCost
  maxAge : port.maxAge = bpdu.maxAge
  fwdDelay : port.fwdDelay = bpdu.forwardDelay
  helloTime : port.helloTime = bpdu.helloTime

/-- What `initInterfacedata` sets. -/
def STP.initialVector {numPorts : ℕ} (st : STP numPorts) : PriorityVector :=
  ⟨st.bridgePriority, st.bridgeAddress, 0, st.bridgePriority, st.bridgeAddress, -1, -1⟩

namespace BridgedNetwork

variable (net : BridgedNetwork Bridge LAN) (st : net.State)

/-- The bridges have a port on the same LAN. -/
def Neighbor (a b : Bridge) : Prop := ∃ p q, net.lan a p = net.lan b q

/-- A connected network of bridges with distinct IDs, without disabled ports. -/
structure IsNetwork : Prop where
  nonempty : Nonempty Bridge
  id_injective : Function.Injective fun b => (st b).id
  lan_injective : ∀ b, Function.Injective (net.lan b)
  attached : ∀ l, ∃ b p, net.lan b p = l
  connected : ∀ a b, Relation.ReflTransGen net.Neighbor a b
  linkCost_pos : ∀ b p, 0 < ((st b).ports p).linkCost.toNat
  enabled : ∀ b p, ((st b).ports p).role ≠ .DISABLED

structure Stable : Prop extends IsNetwork net st where
  heard : ∀ b p, ((st b).ports p).vector = (st b).initialVector ∨ ∃ a q tcFlag tcaFlag, a ≠ b ∧
    net.lan a q = net.lan b p ∧ SetBy ((st b).ports p) ((st a).configurationBPDU q tcFlag tcaFlag)
  tryRoot : ∀ b, (st b).tryRoot = .ok (st b)
  delivered : ∀ b p, ((st b).ports p).role = .DESIGNATED → ∀ a q, a ≠ b →
    net.lan a q = net.lan b p → ∃ st',
      (st a).handleBPDU q ((st b).configurationBPDU p false false) = .ok st' ∧
        ∀ i, (st'.ports i).vector = ((st a).ports i).vector ∧
          (st'.ports i).role = ((st a).ports i).role

/-- No cost that a port may store, or a bridge compare, wraps. -/
def NoWrap : Prop := ∀ a q b p, net.lan a q = net.lan b p →
  (st a).rootPathCost.toNat + ((st b).ports p).linkCost.toNat < 2 ^ 32

/-- A BPDU is not too old as soon as it is built. -/
def LastingBPDUs : Prop := ∀ b, 0 < (st b).maxAge

/-- The cost of a hop towards the root is that of the port of the bridge farther away. -/
def Hop (a b : Bridge) (c : ℕ) : Prop :=
  ∃ p q, a ≠ b ∧ net.lan a q = net.lan b p ∧ c = ((st b).ports p).linkCost.toNat

/-- A ROOT or DESIGNATED port joins its bridge and its LAN. -/
inductive Joined : Bridge ⊕ LAN → Bridge ⊕ LAN → Prop
  | port {b : Bridge} {p : Fin (net.numPorts b)} (active : ((st b).ports p).role = .DESIGNATED ∨
      ((st b).ports p).role = .ROOT) : Joined (.inl b) (.inr (net.lan b p))

def activePorts : SimpleGraph (Bridge ⊕ LAN) := .fromRel (net.Joined st)

structure SpanningTree : Prop where
  isRoot : ∀ b, (st b).isRoot = true ↔ ∀ a, (st b).id ≤ (st a).id
  rootPathCost : ∀ x, (st x).isRoot = true →
    ∀ b, IsDistance (net.Hop st) x b (st b).rootPathCost.toNat
  /-- The root port leads to a bridge from which the rest of the way costs the rest. -/
  rootPort : ∀ b, (st b).isRoot = false → ∃ p, (∀ q, ((st b).ports q).role = .ROOT ↔ q = p) ∧
    ∃ a q, a ≠ b ∧ net.lan a q = net.lan b p ∧ (st b).rootPathCost.toNat =
      (st a).rootPathCost.toNat + ((st b).ports p).linkCost.toNat
  designated : ∀ l, ∃! port : Σ b, Fin (net.numPorts b),
    net.lan port.1 port.2 = l ∧ ((st port.1).ports port.2).role = .DESIGNATED
  tree : (net.activePorts st).IsTree

end BridgedNetwork

namespace STP

lemma compareTo_eq (a b : MACAddress) : a.compareTo b = if a.toNat < b.toNat then -1
    else if b.toNat < a.toNat then 1 else 0 := by
  simp only [MACAddress.compareTo, BitVec.lt_def, BitVec.toNat_eq]
  split_ifs <;> omega

lemma compareBridgeIDs_eq (pa : Unsigned) (a : MACAddress) (pb : Unsigned) (b : MACAddress) :
    compareBridgeIDs pa a pb b = if bridgeID pa a < bridgeID pb b then 1
      else if bridgeID pb b < bridgeID pa a then -1 else 0 := by
  simp only [compareBridgeIDs, compareTo_eq, bridgeID, BitVec.lt_def]
  split_ifs <;> first | contradiction | omega

end STP

/-- A vector as an advertisement. -/
def PriorityVector.advert (v : PriorityVector) : Advert :=
  ⟨bridgeID v.rootPriority v.rootAddress, v.rootPathCost.toNat,
    bridgeID v.bridgePriority v.bridgeAddress⟩

namespace STP

lemma comparePorts_of_better {a b : PriorityVector} (better : a.advert.Better b.advert) :
    comparePorts a b = 1 := by
  simp only [Advert.Better, PriorityVector.advert] at better
  simp only [comparePorts, compareBridgeIDs_eq, BitVec.lt_def]
  split_ifs <;> omega

lemma comparePorts_of_worse {a b : PriorityVector} (better : b.advert.Better a.advert) :
    comparePorts a b = -1 := by
  simp only [Advert.Better, PriorityVector.advert] at better
  simp only [comparePorts, compareBridgeIDs_eq, BitVec.lt_def]
  split_ifs <;> omega

end STP

end Inet.Ieee8021d
