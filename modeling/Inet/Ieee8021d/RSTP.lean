import Inet.Base.SimError
import Inet.Ieee8021d.InterfaceData
import Mathlib.Data.List.FinRange

/-!
# RSTP

The bridge: its ports, its two timers, the BPDUs it has sent and what it has asked of the MAC
address table.
-/

namespace Inet.Ieee8021d

inductive MACTableCall (numPorts : ℕ) where
  | flush (portNum : Fin numPorts)
  | copyTable (portA portB : Fin numPorts)

structure RSTP (numPorts : ℕ) where
  isOperational : Bool
  bridgePriority : Unsigned
  bridgeAddress : MACAddress
  maxAge : ℤ
  helloTime : ℤ
  forwardDelay : ℤ
  migrateTime : ℤ
  tcWhileTime : ℤ
  ports : Fin numPorts → InterfaceData
  /-- `hasCarrier` of the interfaces. -/
  hasCarrier : Fin numPorts → Bool
  helloTimer : Option ℤ
  upgradeTimer : Option ℤ
  /-- What has been sent so far, with the port. -/
  relayOut : List (Fin numPorts × BPDU)
  macTable : List (MACTableCall numPorts)

inductive CompareResult where
  | WORSE_PORT
  | WORSE_SRC
  | WORSE_RPC
  | WORSE_ROOT
  | SIMILAR
  | BETTER_ROOT
  | BETTER_RPC
  | BETTER_SRC
  | BETTER_PORT

def CompareResult.toInt : CompareResult → ℤ
  | WORSE_PORT => -4
  | WORSE_SRC => -3
  | WORSE_RPC => -2
  | WORSE_ROOT => -1
  | SIMILAR => 0
  | BETTER_ROOT => 1
  | BETTER_RPC => 2
  | BETTER_SRC => 3
  | BETTER_PORT => 4

namespace RSTP

variable {numPorts : ℕ} (st : RSTP numPorts) (now : ℤ)

def modifyPort (i : Fin numPorts) (f : InterfaceData → InterfaceData) : RSTP numPorts :=
  { st with ports := Function.update st.ports i (f (st.ports i)) }

def setRole (i : Fin numPorts) (role : PortRole) : RSTP numPorts :=
  st.modifyPort i fun port => { port with role := role }

def setState (i : Fin numPorts) (state : PortState) : RSTP numPorts :=
  st.modifyPort i fun port => { port with state := state }

def setNextUpgrade (i : Fin numPorts) (nextUpgrade : ℤ) : RSTP numPorts :=
  st.modifyPort i fun port => { port with nextUpgrade := nextUpgrade }

def setLostBPDU (i : Fin numPorts) (lostBPDU : ℕ) : RSTP numPorts :=
  st.modifyPort i fun port => { port with lostBPDU := lostBPDU }

def setTCWhile (i : Fin numPorts) (TCWhile : ℤ) : RSTP numPorts :=
  st.modifyPort i fun port => { port with TCWhile := TCWhile }

/-- `getPortInterfaceData` with the number that a frame names. -/
def portAt (portNum : Unsigned) : Except SimError (Fin numPorts) :=
  if lt : portNum.toNat < numPorts then .ok ⟨portNum.toNat, lt⟩
  else .error (.runtimeError "gate(): index out of range")

/-- `getRootIndex`; `none` is -1. -/
def getRootIndex : Option (Fin numPorts) :=
  (List.finRange numPorts).find? fun i => (st.ports i).role = .ROOT

/-- `macTable->flush`. -/
def flush (i : Fin numPorts) : RSTP numPorts := { st with macTable := st.macTable ++ [.flush i] }

def copyTable (portA portB : Fin numPorts) : RSTP numPorts :=
  { st with macTable := st.macTable ++ [.copyTable portA portB] }

def flushOtherPorts (portNum : Fin numPorts) : RSTP numPorts :=
  (List.finRange numPorts).foldl (fun st i =>
    let st := st.setTCWhile i (now + st.tcWhileTime)
    if i ≠ portNum then st.flush i else st) st

/-- The port waits for `nextUpgrade`. -/
def waitsForUpgrade (i : Fin numPorts) : Prop :=
  st.hasCarrier i = true ∧ ((st.ports i).role = .NOTASSIGNED ∨ ((st.ports i).role = .DESIGNATED ∧
      ((st.ports i).state = .DISCARDING ∨ (st.ports i).state = .LEARNING)))

instance (i : Fin numPorts) : Decidable (st.waitsForUpgrade i) :=
  inferInstanceAs (Decidable (_ ∧ _))

def scheduleNextUpgrde : Except SimError (RSTP numPorts) :=
  let waiting := (List.finRange numPorts).filter fun i => st.waitsForUpgrade i
  match (waiting.map fun i => (st.ports i).nextUpgrade).min? with
  | none => .ok { st with upgradeTimer := none }
  | some t =>
      if now ≤ t then .ok { st with upgradeTimer := some t }
      else .error (.runtimeError "Cannot schedule message to the past")

/-- Designated and discarding, to become forwarding if there is no better BPDU. -/
def contend (i : Fin numPorts) : RSTP numPorts :=
  ((st.setRole i .DESIGNATED).setState i .DISCARDING).setNextUpgrade i (now + st.forwardDelay)

def initInterfacedata (i : Fin numPorts) : RSTP numPorts :=
  st.modifyPort i fun port => { port with
    rootPriority := st.bridgePriority
    rootAddress := st.bridgeAddress
    rootPathCost := 0
    age := 0
    bridgePriority := st.bridgePriority
    bridgeAddress := st.bridgeAddress
    portPriority := -1
    portNum := -1
    lostBPDU := 0 }

def initPort (j : Fin numPorts) : RSTP numPorts :=
  let st :=
    if (st.ports j).edge = false then
      ((st.setRole j .NOTASSIGNED).setState j .DISCARDING).setNextUpgrade j (now + st.migrateTime)
    else (st.setRole j .DESIGNATED).setState j .FORWARDING
  (st.initInterfacedata j).flush j

def initPorts : Except SimError (RSTP numPorts) :=
  scheduleNextUpgrde ((List.finRange numPorts).foldl (fun st j => st.initPort now j) st) now

def updateInterfacedata (frame : BPDU) (i : Fin numPorts) : RSTP numPorts :=
  st.modifyPort i fun port => { port with
    rootPriority := frame.rootPriority
    rootAddress := frame.rootAddress
    rootPathCost := frame.rootPathCost + port.linkCost
    age := frame.messageAge + 1
    bridgePriority := frame.bridgePriority
    bridgeAddress := frame.bridgeAddress
    portPriority := frame.portPriority
    portNum := frame.portNum
    lostBPDU := 0 }

/-! ## Comparisons -/

/-- The parameters are `int`. -/
def compareRSTPData (a b : PriorityVector) : CompareResult :=
  if a.rootPriority ≠ b.rootPriority then
    if a.rootPriority.toInt < b.rootPriority.toInt then .WORSE_ROOT else .BETTER_ROOT
  else if a.rootAddress.compareTo b.rootAddress ≠ 0 then
    if a.rootAddress.compareTo b.rootAddress < 0 then .WORSE_ROOT else .BETTER_ROOT
  else if a.rootPathCost ≠ b.rootPathCost then
    if a.rootPathCost.toInt < b.rootPathCost.toInt then .WORSE_RPC else .BETTER_RPC
  else if a.bridgePriority ≠ b.bridgePriority then
    if a.bridgePriority.toInt < b.bridgePriority.toInt then .WORSE_SRC else .BETTER_SRC
  else if a.bridgeAddress.compareTo b.bridgeAddress ≠ 0 then
    if a.bridgeAddress.compareTo b.bridgeAddress < 0 then .WORSE_SRC else .BETTER_SRC
  else if a.portPriority ≠ b.portPriority then
    if a.portPriority.toInt < b.portPriority.toInt then .WORSE_PORT else .BETTER_PORT
  else if a.portNum ≠ b.portNum then
    if a.portNum.toInt < b.portNum.toInt then .WORSE_PORT else .BETTER_PORT
  else .SIMILAR

def compareInterfacedata (i : Fin numPorts) (msg : BPDU) (linkCost : Unsigned) : CompareResult :=
  compareRSTPData (st.ports i).vector (msg.vector linkCost)

/-- `getPortInterfaceData(-1)`. -/
def noRootPort : SimError := .undefinedBehavior "port table access with index -1"

/-- The vector that the bridge would send through the port. -/
def ownVector (root : Fin numPorts) (i : Fin numPorts) (linkCost : Unsigned) : PriorityVector where
  rootPriority := (st.ports root).rootPriority
  rootAddress := (st.ports root).rootAddress
  rootPathCost := (st.ports root).rootPathCost + linkCost
  bridgePriority := st.bridgePriority
  bridgeAddress := st.bridgeAddress
  portPriority := (st.ports i).portPriority
  portNum := BitVec.ofNat 32 i

def contestInterfacedata (i : Fin numPorts) : Except SimError CompareResult :=
  match st.getRootIndex with
  | none => .error noRootPort
  | some r =>
      .ok (compareRSTPData (st.ownVector r i (st.ports i).linkCost) (st.ports i).vector)

/-- `contestInterfacedata(msg, portNum)`. -/
def contestFrame (msg : BPDU) (i : Fin numPorts) : Except SimError CompareResult :=
  match st.getRootIndex with
  | none => .error noRootPort
  | some r => .ok (compareRSTPData (st.ownVector r i 0) (msg.vector 0))

/-- The port is a better alternate than the best one so far. -/
def betterAlternate (j candidate : Fin numPorts) : Prop :=
  (compareRSTPData (st.ports j).vector (st.ports candidate).vector).toInt < 0

instance (j candidate : Fin numPorts) : Decidable (st.betterAlternate j candidate) :=
  inferInstanceAs (Decidable (_ < _))

def getBestAlternate : Option (Fin numPorts) :=
  (List.finRange numPorts).foldl (fun candidate j =>
    if (st.ports j).role = .ALTERNATE then
      match candidate with
      | none => some j
      | some best => if st.betterAlternate j best then some j else some best
    else candidate) none

def sendBPDU (i : Fin numPorts) : RSTP numPorts :=
  if (st.ports i).role ≠ .DISABLED then
    let root := st.getRootIndex.map st.ports
    { st with relayOut := st.relayOut ++ [(i,
      { tcaFlag := false
        tcFlag := now < (st.ports i).TCWhile
        rootAddress := (root.map InterfaceData.rootAddress).getD st.bridgeAddress
        rootPriority := (root.map InterfaceData.rootPriority).getD st.bridgePriority
        rootPathCost := (root.map InterfaceData.rootPathCost).getD 0
        bridgeAddress := st.bridgeAddress
        bridgePriority := st.bridgePriority
        portNum := BitVec.ofNat 32 i
        portPriority := 0
        messageAge := (root.map InterfaceData.age).getD 0
        maxAge := st.maxAge
        helloTime := st.helloTime
        forwardDelay := st.forwardDelay })] }
  else st

def sendBPDUs : RSTP numPorts :=
  (List.finRange numPorts).foldl (fun st i =>
    if (st.ports i).role ≠ .ROOT ∧ (st.ports i).role ≠ .ALTERNATE ∧
        (st.ports i).role ≠ .DISABLED ∧ (st.ports i).edge = false then st.sendBPDU now i
    else st) st

def sendTCNtoRoot : RSTP numPorts :=
  match st.getRootIndex with
  | none => st
  | some r =>
      if (st.ports r).role ≠ .DISABLED ∧ now < (st.ports r).TCWhile then
        { st with relayOut := st.relayOut ++ [(r,
          { tcaFlag := false
            tcFlag := true
            rootAddress := (st.ports r).rootAddress
            rootPriority := (st.ports r).rootPriority
            rootPathCost := (st.ports r).rootPathCost
            bridgeAddress := st.bridgeAddress
            bridgePriority := st.bridgePriority
            portNum := BitVec.ofNat 32 r
            portPriority := 0
            messageAge := (st.ports r).age
            maxAge := st.maxAge
            helloTime := st.helloTime
            forwardDelay := st.forwardDelay })] }
      else st

def upgradePort (i : Fin numPorts) : RSTP numPorts :=
  if st.hasCarrier i = true ∧ (st.ports i).nextUpgrade = now then
    match (st.ports i).role, (st.ports i).state with
    | .NOTASSIGNED, _ => st.contend now i
    | .DESIGNATED, .DISCARDING =>
        (st.setState i .LEARNING).setNextUpgrade i (now + st.forwardDelay)
    | .DESIGNATED, .LEARNING => (st.setState i .FORWARDING).flushOtherPorts now i
    | _, _ => st
  else st

def handleUpgrade : Except SimError (RSTP numPorts) :=
  scheduleNextUpgrde ((List.finRange numPorts).foldl (fun st i => st.upgradePort now i) st) now

/-- The root port has gone three times without its BPDU. -/
def lostRoot (i : Fin numPorts) : Except SimError (RSTP numPorts) :=
  match st.getBestAlternate with
  | some candidate => do
      let st ← (st.contend now i).scheduleNextUpgrde now
      let st := st.initInterfacedata i
      let st := (st.setRole candidate .ROOT).setState candidate .FORWARDING
      let st := st.setLostBPDU candidate 0
      .ok ((st.flushOtherPorts now candidate).copyTable i candidate)
  | none => st.initPorts now

/-- An alternate or backup port has. -/
def lostOther (i : Fin numPorts) : Except SimError (RSTP numPorts) := do
  let st ← (st.contend now i).scheduleNextUpgrde now
  .ok (st.initInterfacedata i)

def lostPort (i : Fin numPorts) : Except SimError (RSTP numPorts) :=
  if (st.ports i).role = .ROOT then st.lostRoot now i else st.lostOther now i

def helloPort (i : Fin numPorts) : Except SimError (RSTP numPorts) :=
  if (st.ports i).edge = false ∧ ((st.ports i).role = .ROOT ∨ (st.ports i).role = .ALTERNATE ∨
      (st.ports i).role = .BACKUP) then
    let st := st.setLostBPDU i ((st.ports i).lostBPDU + 1)
    if 3 < (st.ports i).lostBPDU then do
      let st ← st.lostPort now i
      .ok (st.setLostBPDU i 0)
    else .ok st
  else .ok st

def handleHelloTime : Except SimError (RSTP numPorts) := do
  let st ← (List.finRange numPorts).foldlM (fun st i => st.helloPort now i) st
  let st := (st.sendBPDUs now).sendTCNtoRoot now
  .ok { st with helloTimer := some (now + st.helloTime) }

/-! ## Frames -/

def checkTC (frame : BPDU) (arrival : Fin numPorts) : RSTP numPorts :=
  if frame.tcFlag = true ∧ (st.ports arrival).state = .FORWARDING then
    (List.finRange numPorts).foldl (fun st i =>
      if i ≠ arrival then (st.flush i).setTCWhile i (now + st.tcWhileTime) else st) st
  else st

/-- A port of the bridge that stands behind another one on the same LAN. -/
def setBackup (i : Fin numPorts) : RSTP numPorts :=
  (((st.flush i).setRole i .BACKUP).setState i .DISCARDING).setLostBPDU i 0

def handleBackup (frame : BPDU) (arrival : Fin numPorts) : Except SimError (RSTP numPorts) :=
  let port := st.ports arrival
  if frame.portPriority < port.portPriority ∨
      (frame.portPriority = port.portPriority ∧ frame.portNum.toNat < arrival) then
    .ok (st.setBackup arrival)
  else if port.portPriority < frame.portPriority ∨
      (frame.portPriority = port.portPriority ∧ (arrival : ℕ) < frame.portNum.toNat) then do
    let port2 ← portAt frame.portNum
    .ok (st.setBackup port2)
  else do
    -- the bridge has received its own message at the same port
    let port2 ← portAt frame.portNum
    .ok (((st.flush port2).setRole port2 .DISABLED).setState port2 .DISCARDING)

/-- The port becomes the root port. -/
def setRoot (i : Fin numPorts) : RSTP numPorts := (st.setRole i .ROOT).setState i .FORWARDING

/-- The port becomes an alternate to the root port. -/
def setAlternate (i : Fin numPorts) : RSTP numPorts :=
  (st.setRole i .ALTERNATE).setState i .DISCARDING

/-- A port when another one has heard of a better root. -/
def resetPort (arrival i : Fin numPorts) : Except SimError (RSTP numPorts) :=
  if (st.ports i).edge = false then
    let st :=
      if (st.ports arrival).state ≠ .FORWARDING then st.setTCWhile i (now + st.tcWhileTime) else st
    let st := st.flush i
    if i ≠ arrival then do
      let st := (st.setRole i .NOTASSIGNED).setState i .DISCARDING
      let st ← (st.setNextUpgrade i (now + st.migrateTime)).scheduleNextUpgrde now
      .ok (st.initInterfacedata i)
    else .ok st
  else .ok st

/-- Case `SIMILAR`: a double link to the same port of the source. -/
def breakTie (r arrival : Fin numPorts) : RSTP numPorts :=
  if (st.ports r).portPriority < (st.ports arrival).portPriority ∨
      ((st.ports r).portPriority = (st.ports arrival).portPriority ∧ r < arrival) then
    ((st.flush arrival).setAlternate arrival).setLostBPDU arrival 0
  else
    let st :=
      if (st.ports arrival).state ≠ .FORWARDING then st.flushOtherPorts now arrival else st.flush r
    let st := (st.setAlternate r).setRoot arrival
    (st.setLostBPDU arrival 0).copyTable r arrival

/-- Cases `BETTER_RPC`, `BETTER_SRC` and `BETTER_PORT`: a better route to the same root. -/
def replaceRoot (r arrival : Fin numPorts) : Except SimError (RSTP numPorts) := do
  let st :=
    if (st.ports arrival).state ≠ .FORWARDING then st.flushOtherPorts now arrival else st
  let st := (st.setRoot arrival).setLostBPDU arrival 0
  -- there is only one root port when the bridge contests
  let st := (st.setRole r .ALTERNATE).copyTable r arrival
  let case3 ← st.contestInterfacedata r
  if 0 ≤ case3.toInt then .ok ((st.setAlternate r).flush r)
  else (st.contend now r).scheduleNextUpgrde now

/-- Cases `WORSE_RPC`, `WORSE_SRC` and `WORSE_PORT`. -/
def contestArrival (frame : BPDU) (arrival : Fin numPorts) : Except SimError (RSTP numPorts) := do
  let case3 ← st.contestFrame frame arrival
  if case3.toInt < 0 then do
    let st ← (st.contend now arrival).scheduleNextUpgrde now
    .ok (st.sendBPDU now arrival)
  else .ok (((st.flush arrival).setAlternate arrival).setLostBPDU arrival 0)

def processBetterSource (frame : BPDU) (arrival : Fin numPorts) :
    Except SimError (Bool × RSTP numPorts) :=
  let st := st.updateInterfacedata frame arrival
  match st.getRootIndex with
  | none =>
      let st := (st.setRoot arrival).setLostBPDU arrival 0
      .ok (true, st.flushOtherPorts now arrival)
  | some r =>
      match st.compareInterfacedata r frame (st.ports arrival).linkCost with
      | .SIMILAR => .ok (false, st.breakTie now r arrival)
      | .BETTER_ROOT => do
          let st ← (List.finRange numPorts).foldlM (fun st i => st.resetPort now arrival i) st
          .ok (true, (st.setRoot arrival).setLostBPDU arrival 0)
      | .BETTER_RPC | .BETTER_SRC | .BETTER_PORT => do
          let st ← st.replaceRoot now r arrival
          .ok (true, st)
      | .WORSE_ROOT => .ok (false, st.sendBPDU now arrival)
      | .WORSE_RPC | .WORSE_SRC | .WORSE_PORT => do
          let st ← st.contestArrival now frame arrival
          .ok (false, st)

/-- The root port hears of a worse root from its source. -/
def worseRootAtRoot (frame : BPDU) (arrival : Fin numPorts) :
    Except SimError (Bool × RSTP numPorts) :=
  match st.getBestAlternate with
  | some alternative => do
      let st ← (st.contend now arrival).scheduleNextUpgrde now
      let st := (st.copyTable arrival alternative).flushOtherPorts now alternative
      let st := (st.setRoot alternative).updateInterfacedata frame arrival
      .ok (false, st.sendBPDU now arrival)
  | none => do
      let st ← st.initPorts now
      let st := (List.finRange numPorts).foldl flush st
      if 0 < (st.compareInterfacedata arrival frame (st.ports arrival).linkCost).toInt then
        .ok (true, (st.updateInterfacedata frame arrival).setRoot arrival)
      else .ok (true, st)

/-- The old root port, when an alternate has taken its place. -/
def yieldArrival (arrival : Fin numPorts) (case3 : CompareResult) :
    Except SimError (RSTP numPorts) :=
  if case3.toInt < 0 then (st.contend now arrival).scheduleNextUpgrde now
  else .ok (st.setAlternate arrival)

/-- An alternate takes the place of the root port. -/
def yieldRoot (frame : BPDU) (arrival alternative : Fin numPorts) :
    Except SimError (RSTP numPorts) := do
  let st := st.setRoot alternative
  let st := st.setRole arrival .DESIGNATED
  let case3 ← st.contestFrame frame arrival
  let st ← st.yieldArrival now arrival case3
  .ok ((st.flushOtherPorts now alternative).copyTable arrival alternative)

/-- If there is one that is better than the frame. -/
def yieldToAlternate (frame : BPDU) (arrival : Fin numPorts) : Except SimError (RSTP numPorts) :=
  match st.getBestAlternate with
  | some alternative =>
      if (st.compareInterfacedata alternative frame (st.ports arrival).linkCost).toInt < 0 then
        st.yieldRoot now frame arrival alternative
      else .ok st
  | none => .ok st

/-- The root port hears of a worse route from its source. -/
def worseRouteAtRoot (frame : BPDU) (arrival : Fin numPorts) : Except SimError (RSTP numPorts) := do
  let st ← (st.setLostBPDU arrival 0).yieldToAlternate now frame arrival
  .ok (st.updateInterfacedata frame arrival)

/-- An alternate port hears of a worse route from its source. -/
def worseRouteAtAlternate (frame : BPDU) (arrival : Fin numPorts) :
    Except SimError (RSTP numPorts) := do
  let case2 ← st.contestFrame frame arrival
  if case2.toInt < 0 then do
    let st ← (st.contend now arrival).scheduleNextUpgrde now
    .ok (st.sendBPDU now arrival)
  else .ok (st.setLostBPDU arrival 0)

def processSameSource (frame : BPDU) (arrival : Fin numPorts) :
    Except SimError (Bool × RSTP numPorts) :=
  match st.compareInterfacedata arrival frame (st.ports arrival).linkCost with
  | .SIMILAR => .ok (false, st.setLostBPDU arrival 0)
  | .WORSE_ROOT =>
      match (st.ports arrival).role with
      | .ROOT => st.worseRootAtRoot now frame arrival
      | .ALTERNATE => do
          let st ← (st.contend now arrival).scheduleNextUpgrde now
          .ok (false, (st.updateInterfacedata frame arrival).sendBPDU now arrival)
      | _ => .ok (false, st)
  | .WORSE_RPC | .WORSE_SRC | .WORSE_PORT =>
      match (st.ports arrival).role with
      | .ROOT => do
          let st ← st.worseRouteAtRoot now frame arrival
          .ok (true, st)
      | .ALTERNATE => do
          let st ← st.worseRouteAtAlternate now frame arrival
          .ok (false, st.updateInterfacedata frame arrival)
      | _ => .ok (false, st.updateInterfacedata frame arrival)
  | _ => .ok (false, st)

/-- The first and the third test of `processBPDU`. -/
def contestBPDU (frame : BPDU) (arrival : Fin numPorts) : Except SimError (Bool × RSTP numPorts) :=
  if 0 < (st.compareInterfacedata arrival frame (st.ports arrival).linkCost).toInt ∧
      frame.rootAddress ≠ st.bridgeAddress then
    st.processBetterSource now frame arrival
  else if frame.bridgeAddress = (st.ports arrival).bridgeAddress ∧
      frame.rootAddress ≠ st.bridgeAddress then
    st.processSameSource now frame arrival
  else .ok (false, st)

def processBPDU (frame : BPDU) (arrival : Fin numPorts) : Except SimError (RSTP numPorts) := do
  let (flood, st) ← st.contestBPDU now frame arrival
  if flood then .ok ((st.sendBPDUs now).sendTCNtoRoot now) else .ok st

def handleIncomingFrame (frame : BPDU) (arrival : Fin numPorts) (src : MACAddress) :
    Except SimError (RSTP numPorts) :=
  if frame.messageAge < st.maxAge then
    let st := st.checkTC now frame arrival
    if src = st.bridgeAddress then st.handleBackup frame arrival
    else st.processBPDU now frame arrival
  else .ok st

/-- `NF_INTERFACE_STATE_CHANGED` for the interface of a port. -/
def receiveChangeNotification (i : Fin numPorts) : Except SimError (RSTP numPorts) :=
  if st.hasCarrier i then
    let st :=
      if (st.ports i).role = .NOTASSIGNED then st.setNextUpgrade i (now + st.migrateTime)
      else if (st.ports i).role = .DESIGNATED ∧
          ((st.ports i).state = .DISCARDING ∨ (st.ports i).state = .LEARNING) then
        st.setNextUpgrade i (now + st.forwardDelay)
      else st
    st.scheduleNextUpgrde now
  else .ok st

def start : Except SimError (RSTP numPorts) := do
  let st ← initPorts { st with isOperational := true } now
  .ok { st with helloTimer := some now }

def stop : RSTP numPorts :=
  { st with isOperational := false, helloTimer := none, upgradeTimer := none }

/-- The last stage of `initialize()`. -/
def initialization : Except SimError (RSTP numPorts) := do
  let st ← st.initPorts now
  .ok { st with helloTimer := some now }

end RSTP

inductive RSTPEvent (numPorts : ℕ) where
  | frame (frame : BPDU) (arrival : Fin numPorts) (src : MACAddress)
  | hello
  | upgrade
  /-- The carrier of an interface comes or goes. -/
  | carrier (i : Fin numPorts) (hasCarrier : Bool)
  | start
  | stop

namespace RSTP

variable {numPorts : ℕ}

/-- A timer goes off at its time; a bridge is started when it is down, and stopped when it is up. -/
def Can (st : RSTP numPorts) (now : ℤ) : RSTPEvent numPorts → Prop
  | .hello => st.helloTimer = some now
  | .upgrade => st.upgradeTimer = some now
  | .start => st.isOperational = false
  | .stop => st.isOperational = true
  | _ => True

def downError : SimError :=
  .runtimeError "Model error: self msg received when isOperational is false"

def handle (st : RSTP numPorts) (now : ℤ) : RSTPEvent numPorts → Except SimError (RSTP numPorts)
  | .frame frame arrival src =>
      if st.isOperational then st.handleIncomingFrame now frame arrival src else .ok st
  | .hello => if st.isOperational then st.handleHelloTime now else .error downError
  | .upgrade =>
      if st.isOperational then handleUpgrade { st with upgradeTimer := none } now
      else .error downError
  | .carrier i hasCarrier =>
      receiveChangeNotification { st with
        hasCarrier := Function.update st.hasCarrier i hasCarrier } now i
  | .start => st.start now
  | .stop => .ok st.stop

end RSTP

end Inet.Ieee8021d
