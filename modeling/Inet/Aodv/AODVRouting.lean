import Inet.Base.SimError
import Inet.Ipv4.Address
import Inet.Lib.OrderedMap
import Inet.Lib.Outcome

/-!
# AODV

The routes that `AODVRouting` keeps in the routing table of its node, its packets, its route
discoveries and the datagrams that wait for them, with the queue of the IPv4 module that holds
these.

The routes are host routes. The routing table is sorted by netmask and destination, so they stand in
front of the other routes, which are taken to be less specific. Sequence numbers and hop counts do
not wrap. The jitter is left out: a packet may arrive at any time.
-/

namespace Inet.Aodv

open Ipv4

instance : LinearOrder IPv4Address :=
  LinearOrder.lift' BitVec.toNat IPv4Address.toNat_injective

def isLimitedBroadcastAddress (addr : IPv4Address) : Prop := addr = IPv4Address.ALLONES_ADDRESS

instance (addr : IPv4Address) : Decidable (isLimitedBroadcastAddress addr) :=
  inferInstanceAs (Decidable (_ = _))

def isMulticast (addr : IPv4Address) : Prop := addr &&& 0xF0000000 = 0xE0000000

instance (addr : IPv4Address) : Decidable (isMulticast addr) := inferInstanceAs (Decidable (_ = _))

structure AODVRREQ where
  gratuitousRREPFlag : Bool
  unknownSeqNumFlag : Bool
  hopCount : ℕ
  rreqId : ℕ
  destAddr : IPv4Address
  destSeqNum : ℕ
  originatorAddr : IPv4Address
  originatorSeqNum : ℕ

structure AODVRREP where
  ackRequiredFlag : Bool
  hopCount : ℕ
  destAddr : IPv4Address
  destSeqNum : ℕ
  originatorAddr : IPv4Address
  originatorSeqNum : ℕ
  lifeTime : ℤ

structure UnreachableNode where
  addr : IPv4Address
  seqNum : ℕ

structure AODVRERR where
  unreachableNodes : List UnreachableNode

inductive AODVControlPacket where
  | RREQ (rreq : AODVRREQ)
  | RREP (rrep : AODVRREP)
  | RERR (rerr : AODVRERR)
  | RREPACK

/-- A control packet with what its control info says. -/
structure UDPPacket where
  srcAddr : IPv4Address
  destAddr : IPv4Address
  timeToLive : ℕ
  ctrlPacket : AODVControlPacket

/-! ## Routes, timers and parameters -/

/-- An `IPv4Route` of the module, with its `AODVRouteData`. -/
structure AODVRoute where
  gateway : IPv4Address
  metric : ℕ
  isActive : Bool
  hasValidDestNum : Bool
  destSeqNum : ℕ
  lifeTime : ℤ
  precursorList : List IPv4Address

def AODVRoute.addPrecursor (route : AODVRoute) (precursorAddr : IPv4Address) : AODVRoute :=
  { route with precursorList := route.precursorList.insert precursorAddr }

/-- A route of another source. -/
structure OtherRoute where
  destination : IPv4Address
  netmask : IPv4Address
  gateway : IPv4Address

/-- `arrivalTime` is `none` when the timer is not scheduled. -/
structure WaitForRREP where
  destAddr : IPv4Address
  lastTTL : ℕ
  fromInvalidEntry : Bool
  arrivalTime : Option ℤ

/-- A datagram; `id` stands for the pointer. -/
structure IPv4Datagram where
  id : ℕ
  srcAddress : IPv4Address
  destAddress : IPv4Address
  deriving DecidableEq

/-- The hooks at which the module queues datagrams. -/
inductive HookType where
  | PREROUTING
  | LOCALOUT
  deriving DecidableEq

structure QueuedDatagramForHook where
  datagram : IPv4Datagram
  hookType : HookType
  deriving DecidableEq

structure AODVParameters where
  askGratuitousRREP : Bool
  activeRouteTimeout : ℤ
  helloInterval : ℤ
  allowedHelloLoss : ℕ
  netDiameter : ℕ
  nodeTraversalTime : ℤ
  rerrRatelimit : ℕ
  rreqRetries : ℕ
  rreqRatelimit : ℕ
  timeoutBuffer : ℕ
  ttlStart : ℕ
  ttlIncrement : ℕ
  ttlThreshold : ℕ
  myRouteTimeout : ℤ
  deletePeriod : ℤ
  blacklistTimeout : ℤ
  netTraversalTime : ℤ
  nextHopWait : ℤ
  pathDiscoveryTime : ℤ

structure AODVRouting where
  par : AODVParameters
  /-- The router ID. -/
  selfIPAddress : IPv4Address
  localAddresses : List IPv4Address
  /-- The routes of the module in the routing table, by destination. -/
  routes : OrderedMap IPv4Address AODVRoute
  /-- The routes behind them. -/
  otherRoutes : List OtherRoute
  rreqId : ℕ
  sequenceNum : ℕ
  waitForRREPTimers : OrderedMap IPv4Address WaitForRREP
  /-- `RREQIdentifierCompare` compares the RREQ IDs only. -/
  rreqsArrivalTime : OrderedMap ℕ ℤ
  failedNextHop : IPv4Address
  blacklist : OrderedMap IPv4Address ℤ
  rerrCount : ℕ
  rreqCount : ℕ
  lastBroadcastTime : ℤ
  addressToRreqRetries : OrderedMap IPv4Address ℕ
  helloMsgTimer : Option ℤ
  expungeTimer : Option ℤ
  counterTimer : Option ℤ
  rrepAckTimer : Option ℤ
  blacklistTimer : Option ℤ
  rebootTime : ℤ
  /-- A multimap; among those for one target, the datagrams stand in the order of insertion. -/
  targetAddressToDelayedPackets : List (IPv4Address × IPv4Datagram)
  /-- Of the IPv4 module. -/
  queuedDatagramsForHooks : List QueuedDatagramForHook
  /-- What the module has handed to `ipOut` so far. -/
  sent : List UDPPacket
  /-- The datagrams that the IPv4 module has let go on, or dropped, when the module told it to. -/
  reinjected : List IPv4Datagram
  dropped : List IPv4Datagram

/-- After initialization. -/
def AODVRouting.init (par : AODVParameters) (selfIPAddress : IPv4Address)
    (localAddresses : List IPv4Address) (otherRoutes : List OtherRoute)
    (helloMsgTimer : Option ℤ) : AODVRouting where
  par := par
  selfIPAddress := selfIPAddress
  localAddresses := localAddresses
  routes := .empty
  otherRoutes := otherRoutes
  rreqId := 0
  sequenceNum := 0
  waitForRREPTimers := .empty
  rreqsArrivalTime := .empty
  failedNextHop := IPv4Address.UNSPECIFIED_ADDRESS
  blacklist := .empty
  rerrCount := 0
  rreqCount := 0
  lastBroadcastTime := 0
  addressToRreqRetries := .empty
  helloMsgTimer := helloMsgTimer
  expungeTimer := none
  counterTimer := some 1
  rrepAckTimer := none
  blacklistTimer := none
  rebootTime := 0
  targetAddressToDelayedPackets := []
  queuedDatagramsForHooks := []
  sent := []
  reinjected := []
  dropped := []

def assert (condition : Bool) (text : String) : Except SimError Unit :=
  if condition then .ok () else .error (.assertion text)

/-- The arrival time of the message. -/
def scheduleAt (now t : ℤ) : Except SimError ℤ :=
  if now ≤ t then .ok t else .error (.runtimeError "Cannot schedule message to the past")

/-- `check_and_cast<AODVRouteData *>` of the data of a route of another source. -/
def badCast : SimError := .runtimeError "check_and_cast(): cannot cast NULL to type 'AODVRouteData *'"

namespace AODVRouting

variable (st : AODVRouting) (now : ℤ)

/-! ## The routing table -/

/-- A route of the table: one of the module, whose `getSource()` is the module, or another one. -/
inductive BestRoute where
  | own (route : AODVRoute)
  | other (route : OtherRoute)

def BestRoute.gateway : BestRoute → IPv4Address
  | own route => route.gateway
  | other route => route.gateway

def findBestMatchingRoute (addr : IPv4Address) : Option BestRoute :=
  match st.routes.get? addr with
  | some route => some (.own route)
  | none =>
      (st.otherRoutes.find? fun route =>
        IPv4Address.maskedAddrAreEqual addr route.destination route.netmask).map .other

def isLocalAddress (addr : IPv4Address) : Prop := addr ∈ st.localAddresses

instance (addr : IPv4Address) : Decidable (st.isLocalAddress addr) :=
  inferInstanceAs (Decidable (_ ∈ _))

/-- The times in the routes of the module. -/
def lifeTimes : List ℤ := st.routes.entries.map fun entry => entry.2.lifeTime

def scheduleExpungeRoutes : Except SimError AODVRouting :=
  match st.lifeTimes.min? with
  | none => .ok { st with expungeTimer := none }
  | some nextExpungeTime =>
      if st.expungeTimer = some nextExpungeTime then .ok st
      else do
        let t ← scheduleAt now nextExpungeTime
        .ok { st with expungeTimer := some t }

def updateRoutingTable (dest nextHop : IPv4Address) (hopCount : ℕ) (hasValidDestNum : Bool)
    (destSeqNum : ℕ) (isActive : Bool) (lifeTime : ℤ) : Except SimError AODVRouting :=
  match st.routes.get? dest with
  | none => .error .nullPointer
  | some route =>
      scheduleExpungeRoutes { st with
        routes := st.routes.put dest { route with
          gateway := nextHop
          metric := hopCount
          lifeTime := lifeTime
          destSeqNum := destSeqNum
          isActive := isActive
          hasValidDestNum := hasValidDestNum } } now

def createRoute (destAddr nextHop : IPv4Address) (hopCount : ℕ) (hasValidDestNum : Bool)
    (destSeqNum : ℕ) (isActive : Bool) (lifeTime : ℤ) : Except SimError AODVRouting :=
  scheduleExpungeRoutes { st with
    routes := st.routes.put destAddr
      { gateway := nextHop
        metric := hopCount
        lifeTime := lifeTime
        destSeqNum := destSeqNum
        isActive := isActive
        hasValidDestNum := hasValidDestNum
        precursorList := [] } } now

def addPrecursor (dest precursorAddr : IPv4Address) : AODVRouting :=
  match st.routes.get? dest with
  | none => st
  | some route => { st with routes := st.routes.put dest (route.addPrecursor precursorAddr) }

/-- The value it returns is not used. -/
def updateValidRouteLifeTime (destAddr : IPv4Address) (lifetime : ℤ) : AODVRouting :=
  match st.routes.get? destAddr with
  | none => st
  | some route =>
      if route.isActive then
        { st with
          routes := st.routes.put destAddr { route with lifeTime := max route.lifeTime lifetime } }
      else st

def sendAODVPacket (packet : AODVControlPacket) (destAddr : IPv4Address) (timeToLive : ℕ) :
    Except SimError AODVRouting := do
  assert (timeToLive ≠ 0) "timeToLive != 0"
  .ok { st with
    lastBroadcastTime := if isLimitedBroadcastAddress destAddr then now else st.lastBroadcastTime
    sent := st.sent ++ [⟨st.selfIPAddress, destAddr, timeToLive, packet⟩] }

def forwardRREP (rrep : AODVRREP) (destAddr : IPv4Address) : Except SimError AODVRouting :=
  st.sendAODVPacket now (.RREP rrep) destAddr 100

def forwardRREQ (rreq : AODVRREQ) (timeToLive : ℕ) : Except SimError AODVRouting :=
  st.sendAODVPacket now (.RREQ rreq) IPv4Address.ALLONES_ADDRESS timeToLive

def sendRREPACK (destAddr : IPv4Address) : Except SimError AODVRouting :=
  st.sendAODVPacket now .RREPACK destAddr 100

def sendGRREP (grrep : AODVRREP) (destAddr : IPv4Address) (timeToLive : ℕ) :
    Except SimError AODVRouting :=
  match st.findBestMatchingRoute destAddr with
  | none => .error .nullPointer
  | some destRoute => st.sendAODVPacket now (.RREP grrep) destRoute.gateway timeToLive

def sendRREP (rrep : AODVRREP) (destAddr : IPv4Address) (timeToLive : ℕ) :
    Except SimError AODVRouting :=
  match st.findBestMatchingRoute destAddr with
  | none => .error .nullPointer
  | some (.other _) => .error badCast
  | some (.own destRoute) =>
      let st := st.addPrecursor destAddr destRoute.gateway
      -- the next hop is the originator: the link may be unidirectional
      if destRoute.metric = 1 then
        sendAODVPacket { st with
          failedNextHop := destRoute.gateway
          rrepAckTimer := some (now + st.par.nextHopWait) } now
          (.RREP { rrep with ackRequiredFlag := true }) destRoute.gateway timeToLive
      else st.sendAODVPacket now (.RREP rrep) destRoute.gateway timeToLive

/-- The test before packets are forwarded: the node has not been restarted, or long ago. -/
def rebootCompleted : Prop :=
  st.rebootTime + st.par.deletePeriod < now ∨ st.rebootTime = 0

instance : Decidable (st.rebootCompleted now) := inferInstanceAs (Decidable (_ ∨ _))

/-- Sends the RERR unless too many have been sent in this second. -/
def broadcastRERR (unreachableNodes : List UnreachableNode) : Except SimError AODVRouting :=
  if st.par.rerrRatelimit ≤ st.rerrCount then .ok st
  else
    sendAODVPacket { st with rerrCount := st.rerrCount + 1 } now (.RERR ⟨unreachableNodes⟩)
      IPv4Address.ALLONES_ADDRESS 1

def sendRERRWhenNoRouteToForward (unreachableAddr : IPv4Address) : Except SimError AODVRouting :=
  let seqNum :=
    match st.routes.get? unreachableAddr with
    | some route => if route.hasValidDestNum then route.destSeqNum else 0
    | none => 0
  st.broadcastRERR now [⟨unreachableAddr, seqNum⟩]

/-! ## Route discovery -/

def hasOngoingRouteDiscovery (target : IPv4Address) : Bool :=
  (st.waitForRREPTimers.get? target).isSome

/-- The sequence number that is known for the target. -/
def lastKnownSeqNum (destAddr : IPv4Address) : Option ℕ :=
  match st.routes.get? destAddr with
  | some route => if route.hasValidDestNum then some route.destSeqNum else none
  | none => none

def createRREQ (destAddr : IPv4Address) : AODVRREQ × AODVRouting :=
  let lastKnown := st.lastKnownSeqNum destAddr
  ({ gratuitousRREPFlag := st.par.askGratuitousRREP
     unknownSeqNumFlag := lastKnown.isNone
     hopCount := 0
     rreqId := st.rreqId + 1
     destAddr := destAddr
     destSeqNum := lastKnown.getD 0
     originatorAddr := st.selfIPAddress
     originatorSeqNum := st.sequenceNum + 1 },
   { st with
     sequenceNum := st.sequenceNum + 1
     rreqId := st.rreqId + 1
     rreqsArrivalTime := st.rreqsArrivalTime.put (st.rreqId + 1) now })

/-- The TTL of the request, and the timer with what is noted in it. -/
def nextRing (destAddr : IPv4Address) (timeToLive : ℕ) : Except SimError (ℕ × WaitForRREP) :=
  match st.waitForRREPTimers.get? destAddr with
  | some timer =>
      let timer := { timer with destAddr := destAddr }
      if timeToLive ≠ 0 then
        .ok (timeToLive, { timer with lastTTL := timeToLive, fromInvalidEntry := true })
      else do
        assert timer.arrivalTime.isNone "!rrepTimerMsg->isScheduled()"
        let timeToLive :=
          if timer.lastTTL + st.par.ttlIncrement < st.par.ttlThreshold then
            timer.lastTTL + st.par.ttlIncrement
          else st.par.netDiameter
        .ok (timeToLive, { timer with lastTTL := timeToLive })
  | none =>
      .ok (st.par.ttlStart,
        { destAddr := destAddr
          lastTTL := st.par.ttlStart
          fromInvalidEntry := false
          arrivalTime := none })

def sendRREQ (rreq : AODVRREQ) (destAddr : IPv4Address) (timeToLive : ℕ) :
    Except SimError AODVRouting :=
  if st.par.rreqRatelimit ≤ st.rreqCount then .ok st
  else do
    let (timeToLive, timer) ← st.nextRing rreq.destAddr timeToLive
    let ringTraversalTime :=
      2 * st.par.nodeTraversalTime * ((timeToLive + st.par.timeoutBuffer : ℕ) : ℤ)
    let t ← scheduleAt now (now + ringTraversalTime)
    let st ← sendAODVPacket { st with
      waitForRREPTimers :=
        st.waitForRREPTimers.put rreq.destAddr { timer with arrivalTime := some t } } now
      (.RREQ rreq) destAddr timeToLive
    .ok { st with rreqCount := st.rreqCount + 1 }

def startRouteDiscovery (target : IPv4Address) (timeToLive : ℕ) : Except SimError AODVRouting := do
  assert (!st.hasOngoingRouteDiscovery target) "!hasOngoingRouteDiscovery(target)"
  let (rreq, st) := st.createRREQ now target
  sendRREQ { st with addressToRreqRetries := st.addressToRreqRetries.put target 0 } now rreq
    IPv4Address.ALLONES_ADDRESS timeToLive

def delayDatagram (datagram : IPv4Datagram) : AODVRouting :=
  { st with
    targetAddressToDelayedPackets :=
      st.targetAddressToDelayedPackets ++ [(datagram.destAddress, datagram)] }

inductive HookResult where
  | ACCEPT
  | QUEUE

/-- The hop count of an inactive route says how far the first request goes. -/
def startRouteDiscoveryFor (destAddr : IPv4Address) : Except SimError AODVRouting :=
  match st.routes.get? destAddr with
  | some route =>
      if route.isActive then st.startRouteDiscovery now destAddr 0
      else st.startRouteDiscovery now destAddr (route.metric + st.par.ttlIncrement)
  | none => st.startRouteDiscovery now destAddr 0

/-- The route that the datagram can be sent on. -/
def activeRoute (destAddr : IPv4Address) : Option AODVRoute :=
  match st.routes.get? destAddr with
  | some route => if route.isActive ∧ ¬ route.gateway.isUnspecified then some route else none
  | none => none

def ensureRouteForDatagram (datagram : IPv4Datagram) : Except SimError (HookResult × AODVRouting) :=
  let destAddr := datagram.destAddress
  let sourceAddr := datagram.srcAddress
  if isLimitedBroadcastAddress destAddr ∨ st.isLocalAddress destAddr ∨ isMulticast destAddr then
    .ok (.ACCEPT, st)
  else
    match st.activeRoute destAddr with
    | some route =>
        let st := st.updateValidRouteLifeTime destAddr (now + st.par.activeRouteTimeout)
        .ok (.ACCEPT, st.updateValidRouteLifeTime route.gateway (now + st.par.activeRouteTimeout))
    | none =>
        if sourceAddr.isUnspecified ∨ st.isLocalAddress sourceAddr then
          let st := st.delayDatagram datagram
          if st.hasOngoingRouteDiscovery destAddr then .ok (.QUEUE, st)
          else do
            let st ← st.startRouteDiscoveryFor now destAddr
            .ok (.QUEUE, st)
        else .ok (.ACCEPT, st)

/-- The hook as the IPv4 module calls it. -/
def datagramHook (datagram : IPv4Datagram) (hookType : HookType) : Except SimError AODVRouting := do
  let (result, st) ← st.ensureRouteForDatagram now datagram
  match result with
  | .ACCEPT => .ok st
  | .QUEUE =>
      .ok { st with
        queuedDatagramsForHooks := st.queuedDatagramsForHooks ++ [⟨datagram, hookType⟩] }

/-- The RERR for a datagram that cannot be forwarded. -/
def datagramWithoutRoute (destAddr : IPv4Address) : Except SimError AODVRouting :=
  match st.routes.get? destAddr with
  | some route =>
      if route.isActive then .ok st
      else
        sendRERRWhenNoRouteToForward { st with
          routes := st.routes.put destAddr { route with
            destSeqNum := if route.hasValidDestNum then route.destSeqNum + 1 else route.destSeqNum
            lifeTime := now + st.par.deletePeriod } } now destAddr
  | none => st.sendRERRWhenNoRouteToForward now destAddr

/-- The lifetime of the route to the gateway of the route to the address. -/
def updateGatewayLifeTime (addr : IPv4Address) (lifetime : ℤ) (before : AODVRouting) : AODVRouting :=
  match before.routes.get? addr with
  | some route => st.updateValidRouteLifeTime route.gateway lifetime
  | none => st

def datagramForwardHook (datagram : IPv4Datagram) : Except SimError AODVRouting :=
  let destAddr := datagram.destAddress
  let sourceAddr := datagram.srcAddress
  let lifetime := now + st.par.activeRouteTimeout
  if isLimitedBroadcastAddress destAddr ∨ st.isLocalAddress destAddr ∨ isMulticast destAddr then
    if st.isLocalAddress destAddr then .ok (st.updateGatewayLifeTime sourceAddr lifetime st)
    else .ok st
  else
    let before := st
    let st := st.updateValidRouteLifeTime sourceAddr lifetime
    let st := st.updateValidRouteLifeTime destAddr lifetime
    let st := st.updateGatewayLifeTime destAddr lifetime before
    let st := st.updateGatewayLifeTime sourceAddr lifetime before
    st.datagramWithoutRoute now destAddr

/-- Of the IPv4 module. A datagram from the forwarding path is forwarded now. -/
def reinjectQueuedDatagram (datagram : IPv4Datagram) : Except SimError AODVRouting :=
  match st.queuedDatagramsForHooks.find? fun queued => queued.datagram = datagram with
  | none => .ok st
  | some queued =>
      let st := { st with
        reinjected := st.reinjected ++ [datagram]
        queuedDatagramsForHooks := st.queuedDatagramsForHooks.erase queued }
      match queued.hookType with
      | .LOCALOUT => .ok st
      | .PREROUTING => st.datagramForwardHook now datagram

/-- The datagrams that wait for a route to the target. -/
def delayedPackets (target : IPv4Address) : List IPv4Datagram :=
  (st.targetAddressToDelayedPackets.filter fun entry => entry.1 = target).map Prod.snd

def eraseDelayedPackets (target : IPv4Address) : AODVRouting :=
  { st with
    targetAddressToDelayedPackets :=
      st.targetAddressToDelayedPackets.filter fun entry => entry.1 ≠ target }

def reinjectLoop : List IPv4Datagram → AODVRouting → Except SimError AODVRouting
  | [], st => .ok st
  | datagram :: datagrams, st => do
      let st ← st.reinjectQueuedDatagram now datagram
      reinjectLoop datagrams st

def completeRouteDiscovery (target : IPv4Address) : Except SimError AODVRouting := do
  assert (st.hasOngoingRouteDiscovery target) "hasOngoingRouteDiscovery(target)"
  let st ← reinjectLoop now (st.delayedPackets target) st
  let st := st.eraseDelayedPackets target
  .ok { st with waitForRREPTimers := st.waitForRREPTimers.erase target }

/-- The timer is the one whose time has come. -/
def handleWaitForRREP (timer : WaitForRREP) : Except SimError AODVRouting :=
  let destAddr := timer.destAddr
  match st.addressToRreqRetries.get? destAddr with
  | none => .error (.assertion "addressToRreqRetries.find(destAddr) != addressToRreqRetries.end()")
  | some retries =>
      if retries = st.par.rreqRetries then .ok st
      else
        let (rreq, st) := st.createRREQ now destAddr
        let retries := if timer.lastTTL = st.par.netDiameter then retries + 1 else retries
        sendRREQ { st with addressToRreqRetries := st.addressToRreqRetries.put destAddr retries } now
          rreq IPv4Address.ALLONES_ADDRESS 0

/-! ## Arriving packets -/

def handleHelloMessage (helloMessage : AODVRREP) : Except SimError AODVRouting :=
  let helloOriginatorAddr := helloMessage.destAddr
  let newLifeTime := now + st.par.allowedHelloLoss * st.par.helloInterval
  match st.routes.get? helloOriginatorAddr with
  | none =>
      st.createRoute now helloOriginatorAddr helloOriginatorAddr 1 true helloMessage.destSeqNum true
        newLifeTime
  | some route =>
      st.updateRoutingTable now helloOriginatorAddr helloOriginatorAddr 1 true
        helloMessage.destSeqNum true (max route.lifeTime newLifeTime)

/-- The route to the node that a RREQ or RREP came from. -/
def updatePreviousHop (sourceAddr : IPv4Address) (originatorSeqNum : ℕ) :
    Except SimError AODVRouting :=
  match st.routes.get? sourceAddr with
  | none =>
      st.createRoute now sourceAddr sourceAddr 1 false originatorSeqNum true
        (now + st.par.activeRouteTimeout)
  | some _ =>
      st.updateRoutingTable now sourceAddr sourceAddr 1 false originatorSeqNum true
        (now + st.par.activeRouteTimeout)

/-- The existing route gives way to the one that the RREP, its hop count increased, tells of. -/
def betterRREP (route : AODVRoute) (rrep : AODVRREP) : Prop :=
  route.hasValidDestNum = false ∨ route.destSeqNum < rrep.destSeqNum ∨
    (rrep.destSeqNum = route.destSeqNum ∧ route.isActive = false) ∨
    (rrep.destSeqNum = route.destSeqNum ∧ rrep.hopCount < route.metric)

instance (route : AODVRoute) (rrep : AODVRREP) : Decidable (betterRREP route rrep) :=
  inferInstanceAs (Decidable (_ ∨ _))

def updateForwardRoute (rrep : AODVRREP) (sourceAddr : IPv4Address) : Except SimError AODVRouting :=
  match st.routes.get? rrep.destAddr with
  | some route =>
      if betterRREP route rrep then
        st.updateRoutingTable now rrep.destAddr sourceAddr rrep.hopCount true rrep.destSeqNum true
          (now + rrep.lifeTime)
      else .ok st
  | none =>
      st.createRoute now rrep.destAddr sourceAddr rrep.hopCount true rrep.destSeqNum true
        (now + rrep.lifeTime)

/-- Answers a RREP that asks for an acknowledgement. -/
def acknowledgeRREP (rrep : AODVRREP) (sourceAddr : IPv4Address) :
    Except SimError (AODVRREP × AODVRouting) :=
  if rrep.ackRequiredFlag then do
    let st ← st.sendRREPACK now sourceAddr
    .ok ({ rrep with ackRequiredFlag := false }, st)
  else .ok (rrep, st)

/-- The precursors of the route to the destination and of its next hop. -/
def notePrecursors (destAddr precursorAddr : IPv4Address) : Except SimError AODVRouting :=
  match st.routes.get? destAddr with
  | none => .error .nullPointer
  | some destRoute =>
      let st := st.addPrecursor destAddr precursorAddr
      match st.findBestMatchingRoute destRoute.gateway with
      | none => .error (.assertion "nextHopToDestRoute")
      | some (.other _) => .error badCast
      | some (.own _) => .ok (st.addPrecursor destRoute.gateway precursorAddr)

/-- The RREP goes on towards the node that asked. -/
def passOnRREP (rrep : AODVRREP) (sourceAddr : IPv4Address) : Except SimError AODVRouting :=
  match st.routes.get? rrep.originatorAddr with
  | none => .ok st
  | some originatorRoute =>
      let st := { st with
        routes := st.routes.put rrep.originatorAddr { originatorRoute with
          lifeTime := max (now + st.par.activeRouteTimeout) originatorRoute.lifeTime } }
      if st.rebootCompleted now then do
        let (rrep, st) ← st.acknowledgeRREP now rrep sourceAddr
        let st ← st.notePrecursors rrep.destAddr originatorRoute.gateway
        st.forwardRREP now rrep originatorRoute.gateway
      else .ok st

def handleRREP (rrep : AODVRREP) (sourceAddr : IPv4Address) : Except SimError AODVRouting :=
  if rrep.originatorAddr.isUnspecified then st.handleHelloMessage now rrep
  else do
    let st ← st.updatePreviousHop now sourceAddr rrep.originatorSeqNum
    let rrep := { rrep with hopCount := rrep.hopCount + 1 }
    let st ← st.updateForwardRoute now rrep sourceAddr
    if st.selfIPAddress ≠ rrep.originatorAddr then st.passOnRREP now rrep sourceAddr
    else if st.hasOngoingRouteDiscovery rrep.destAddr then do
      let st ← st.updateRoutingTable now rrep.destAddr sourceAddr rrep.hopCount true rrep.destSeqNum
        true (now + rrep.lifeTime)
      st.completeRouteDiscovery now rrep.destAddr
    else .ok st

/-- The route gives way to the one that the RREQ, its hop count increased, tells of. -/
def betterRREQ (route : AODVRoute) (rreq : AODVRREQ) : Prop :=
  route.destSeqNum < rreq.originatorSeqNum ∨
    (rreq.originatorSeqNum = route.destSeqNum ∧ rreq.hopCount < route.metric) ∨
    rreq.unknownSeqNumFlag = true

instance (route : AODVRoute) (rreq : AODVRREQ) : Decidable (betterRREQ route rreq) :=
  inferInstanceAs (Decidable (_ ∨ _))

def updateReverseRoute (rreq : AODVRREQ) (sourceAddr : IPv4Address) : Except SimError AODVRouting :=
  let minimalLifeTime :=
    now + 2 * st.par.netTraversalTime - 2 * rreq.hopCount * st.par.nodeTraversalTime
  let newLifeTime := max now minimalLifeTime
  match st.routes.get? rreq.originatorAddr with
  | none =>
      st.createRoute now rreq.originatorAddr sourceAddr rreq.hopCount true rreq.originatorSeqNum true
        newLifeTime
  | some route =>
      if betterRREQ route rreq then
        st.updateRoutingTable now rreq.originatorAddr sourceAddr rreq.hopCount true
          (max route.destSeqNum rreq.originatorSeqNum) true newLifeTime
      else .ok st

/-- The RREQ has been seen within the last `PATH_DISCOVERY_TIME`. -/
def seenBefore (rreq : AODVRREQ) : Prop :=
  ∃ t, st.rreqsArrivalTime.get? rreq.rreqId = some t ∧ now - t ≤ st.par.pathDiscoveryTime

instance (rreq : AODVRREQ) : Decidable (st.seenBefore now rreq) :=
  match found : st.rreqsArrivalTime.get? rreq.rreqId with
  | none => isFalse fun seen => by
      obtain ⟨t, eq, -⟩ := seen
      rw [found] at eq
      cases eq
  | some t =>
      if le : now - t ≤ st.par.pathDiscoveryTime then isTrue ⟨t, found, le⟩
      else isFalse fun seen => by
        obtain ⟨t', eq, le'⟩ := seen
        rw [found] at eq
        cases eq
        exact le le'

/-- `createRREP` for a node that is itself the destination, and `sendRREP`. -/
def replyAsDestination (rreq : AODVRREQ) : Except SimError AODVRouting :=
  let sequenceNum :=
    if rreq.unknownSeqNumFlag = false ∧ st.sequenceNum + 1 = rreq.destSeqNum then st.sequenceNum + 1
    else st.sequenceNum
  sendRREP { st with sequenceNum := sequenceNum } now
    { ackRequiredFlag := false
      hopCount := 0
      destAddr := rreq.destAddr
      destSeqNum := sequenceNum
      originatorAddr := rreq.originatorAddr
      originatorSeqNum := rreq.originatorSeqNum
      lifeTime := st.par.myRouteTimeout } rreq.originatorAddr 255

/-- `createRREP` for an intermediate node, and `sendRREP`. -/
def replyAsIntermediate (rreq : AODVRREQ) (destRoute : AODVRoute) (sourceAddr : IPv4Address) :
    Except SimError AODVRouting :=
  let st := st.addPrecursor rreq.destAddr sourceAddr
  let st := st.addPrecursor rreq.originatorAddr destRoute.gateway
  st.sendRREP now
    { ackRequiredFlag := false
      hopCount := destRoute.metric
      destAddr := rreq.destAddr
      destSeqNum := destRoute.destSeqNum
      originatorAddr := rreq.originatorAddr
      originatorSeqNum := rreq.originatorSeqNum
      lifeTime := destRoute.lifeTime - now } rreq.originatorAddr 255

/-- `createGratuitousRREP` and `sendGRREP`, if the RREQ asks for it. -/
def replyGratuitously (rreq : AODVRREQ) : Except SimError AODVRouting :=
  if rreq.gratuitousRREPFlag then
    match st.findBestMatchingRoute rreq.originatorAddr with
    | none => .error (.assertion "originatorRoute != NULL")
    | some (.other _) => .error badCast
    | some (.own originatorRoute) =>
        st.sendGRREP now
          { ackRequiredFlag := false
            hopCount := originatorRoute.metric
            destAddr := rreq.originatorAddr
            destSeqNum := rreq.originatorSeqNum
            originatorAddr := rreq.destAddr
            originatorSeqNum := 0
            lifeTime := originatorRoute.lifeTime } rreq.destAddr 100
  else .ok st

/-- The route with which an intermediate node answers the RREQ. -/
def freshRoute (rreq : AODVRREQ) : Option AODVRoute :=
  match st.routes.get? rreq.destAddr with
  | some route =>
      if route.isActive ∧ route.hasValidDestNum ∧ rreq.destSeqNum ≤ route.destSeqNum then some route
      else none
  | none => none

def passOnRREQ (rreq : AODVRREQ) (timeToLive : ℕ) : Except SimError AODVRouting :=
  if 0 < timeToLive ∧ st.rebootCompleted now then
    let destSeqNum :=
      match st.routes.get? rreq.destAddr with
      | some route => max route.destSeqNum rreq.destSeqNum
      | none => rreq.destSeqNum
    st.forwardRREQ now { rreq with destSeqNum := destSeqNum, unknownSeqNumFlag := false } timeToLive
  else .ok st

/-- The RREQ is answered, or it is passed on. -/
def answerRREQ (rreq : AODVRREQ) (sourceAddr : IPv4Address) (timeToLive : ℕ) :
    Except SimError AODVRouting :=
  if rreq.destAddr = st.selfIPAddress then st.replyAsDestination now rreq
  else
    match st.freshRoute rreq with
    | some destRoute =>
        -- this RREP would make a loop
        if destRoute.gateway = sourceAddr then .ok st
        else do
          let st ← st.replyAsIntermediate now rreq destRoute sourceAddr
          st.replyGratuitously now rreq
    | none => st.passOnRREQ now rreq timeToLive

def handleRREQ (rreq : AODVRREQ) (sourceAddr : IPv4Address) (timeToLive : ℕ) :
    Except SimError AODVRouting :=
  if (st.blacklist.get? sourceAddr).isSome then .ok st
  else do
    let st ← st.updatePreviousHop now sourceAddr rreq.originatorSeqNum
    if st.seenBefore now rreq then .ok st
    else do
      let st := { st with rreqsArrivalTime := st.rreqsArrivalTime.put rreq.rreqId now }
      let rreq := { rreq with hopCount := rreq.hopCount + 1 }
      let st ← st.updateReverseRoute now rreq sourceAddr
      st.answerRREQ now rreq sourceAddr timeToLive

/-- The nodes of the RERR that the route leads to. -/
def lostNodes (rerr : AODVRERR) (sourceAddr dest : IPv4Address) (route : AODVRoute) :
    List UnreachableNode :=
  if route.gateway = sourceAddr then rerr.unreachableNodes.filter fun node => node.addr = dest
  else []

/-- A route of the RERR that the neighbor was the next hop of: the last of its entries counts. -/
def markLost (rerr : AODVRERR) (sourceAddr dest : IPv4Address) (route : AODVRoute) : AODVRoute :=
  match (lostNodes rerr sourceAddr dest route).getLast? with
  | some node =>
      { route with
        destSeqNum := node.seqNum
        isActive := false
        lifeTime := now + st.par.deletePeriod }
  | none => route

/-- The routes that are lost and that other nodes use. -/
def unreachableNeighbors (rerr : AODVRERR) (sourceAddr : IPv4Address) : List UnreachableNode :=
  st.routes.entries.flatMap fun entry =>
    if entry.2.precursorList = [] then [] else lostNodes rerr sourceAddr entry.1 entry.2

/-- After the routes have been marked. -/
def scheduleExpungeRoutesIf (changed : Bool) : Except SimError AODVRouting :=
  if changed then st.scheduleExpungeRoutes now else .ok st

def handleRERR (rerr : AODVRERR) (sourceAddr : IPv4Address) : Except SimError AODVRouting := do
  let unreachableNeighbors := st.unreachableNeighbors rerr sourceAddr
  let changed := st.routes.entries.any fun entry =>
    lostNodes rerr sourceAddr entry.1 entry.2 ≠ []
  let st ← scheduleExpungeRoutesIf
    { st with routes := st.routes.mapValues (st.markLost now rerr sourceAddr) } now changed
  if unreachableNeighbors ≠ [] ∧ st.rebootCompleted now then
    st.broadcastRERR now unreachableNeighbors
  else .ok st

def handleRREPACK (neighborAddr : IPv4Address) : Except SimError AODVRouting := do
  assert st.rrepAckTimer.isSome "rrepAckTimer->isScheduled()"
  match st.routes.get? neighborAddr with
  | some route =>
      .ok { st with
        routes := st.routes.put neighborAddr { route with isActive := true }
        rrepAckTimer := none }
  | none => .ok st

def handlePacket (packet : UDPPacket) : Except SimError AODVRouting :=
  match packet.ctrlPacket with
  | .RREQ rreq => st.handleRREQ now rreq packet.srcAddr packet.timeToLive
  | .RREP rrep => st.handleRREP now rrep packet.srcAddr
  | .RERR rerr => st.handleRERR now rerr packet.srcAddr
  | .RREPACK => st.handleRREPACK packet.srcAddr

/-! ## Timers and notifications -/

def createHelloMessage : AODVRREP where
  ackRequiredFlag := false
  hopCount := 0
  destAddr := st.selfIPAddress
  destSeqNum := st.sequenceNum
  originatorAddr := IPv4Address.UNSPECIFIED_ADDRESS
  originatorSeqNum := 0
  lifeTime := st.par.allowedHelloLoss * st.par.helloInterval

def sendHelloMessagesIfNeeded (nextHello : ℤ) : Except SimError AODVRouting :=
  let hasActiveRoute := st.routes.entries.any fun entry => entry.2.isActive
  let st := { st with helloMsgTimer := some nextHello }
  if hasActiveRoute ∧ (st.lastBroadcastTime = 0 ∨
      st.par.helloInterval < now - st.lastBroadcastTime) then
    st.sendAODVPacket now (.RREP st.createHelloMessage) IPv4Address.ALLONES_ADDRESS 1
  else .ok st

/-- The route behind one that is deleted takes its place, and the loop steps over it: `skip`. -/
def expungeLoop (skip : Bool) : List (IPv4Address × AODVRoute) → OrderedMap IPv4Address AODVRoute →
    OrderedMap IPv4Address AODVRoute
  | [], routes => routes
  | (dest, route) :: rest, routes =>
      if skip = false ∧ route.lifeTime ≤ now then
        if route.isActive then
          expungeLoop false rest (routes.put dest
            { route with isActive := false, lifeTime := now + st.par.deletePeriod })
        else if st.hasOngoingRouteDiscovery dest then
          expungeLoop false rest (routes.put dest
            { route with lifeTime := now + 2 * st.par.netTraversalTime })
        else expungeLoop true rest (routes.erase dest)
      else expungeLoop false rest routes

def expungeRoutes : Except SimError AODVRouting :=
  scheduleExpungeRoutes { st with
    routes := st.expungeLoop now false st.routes.entries st.routes
    expungeTimer := none } now

def handleRREPACKTimer : AODVRouting :=
  { st with
    rrepAckTimer := none
    blacklist := st.blacklist.put st.failedNextHop (now + st.par.blacklistTimeout)
    blacklistTimer :=
      match st.blacklistTimer with
      | some t => some t
      | none => some (now + st.par.blacklistTimeout) }

/-- The loop looks at the entry behind the one it is at, also at the last one. -/
def handleBlackListTimer : Except SimError AODVRouting :=
  if st.blacklist.entries = [] then .ok { st with blacklistTimer := none }
  else .error (.undefinedBehavior "it->second at blacklist.end()")

/-- A route over a link that is broken. -/
def markBroken (unreachableAddr : IPv4Address) (route : AODVRoute) : AODVRoute :=
  if route.gateway = unreachableAddr then
    { route with
      destSeqNum := if route.hasValidDestNum then route.destSeqNum + 1 else route.destSeqNum
      isActive := false
      lifeTime := now + st.par.deletePeriod }
  else route

def handleLinkBreakSendRERR (unreachableAddr : IPv4Address) : Except SimError AODVRouting :=
  match st.routes.get? unreachableAddr with
  | none => .ok st
  | some unreachableRoute =>
      if st.otherRoutes.any fun route => route.gateway = unreachableAddr then .error badCast
      else do
        let st := { st with
          routes := st.routes.mapValues fun _ route => st.markBroken now unreachableAddr route }
        let broken := st.routes.entries.filter fun entry => entry.2.gateway = unreachableAddr
        let unreachableNodes := ⟨unreachableAddr, unreachableRoute.destSeqNum⟩ ::
          broken.map fun entry => ⟨entry.1, entry.2.destSeqNum⟩
        let st ← st.scheduleExpungeRoutesIf now (broken ≠ [])
        st.broadcastRERR now unreachableNodes

/-- `NF_LINK_BREAK` for a datagram with this destination. -/
def receiveChangeNotification (destAddress : IPv4Address) : Except SimError AODVRouting :=
  match st.routes.get? destAddress with
  | none => .ok st
  | some route => st.handleLinkBreakSendRERR now route.gateway

end AODVRouting

inductive Event where
  /-- A datagram at one of the two hooks that wait for a route. -/
  | datagram (datagram : IPv4Datagram) (hookType : HookType)
  | forwarded (datagram : IPv4Datagram)
  | packet (packet : UDPPacket)
  | waitForRREP (target : IPv4Address)
  /-- With the time of the next one. -/
  | hello (nextHello : ℤ)
  | expunge
  | counter
  | rrepAck
  | blacklist
  | linkBreak (destAddress : IPv4Address)
  /-- The routes of other sources change. -/
  | otherRoutes (otherRoutes : List OtherRoute)

namespace AODVRouting

/-- The timer of a discovery, when its time has come, and the state in which it is not scheduled. -/
def fire (st : AODVRouting) (now : ℤ) (target : IPv4Address) : Option (WaitForRREP × AODVRouting) :=
  match st.waitForRREPTimers.get? target with
  | some timer =>
      if timer.arrivalTime = some now then
        let timer := { timer with arrivalTime := none }
        some (timer, { st with waitForRREPTimers := st.waitForRREPTimers.put target timer })
      else none
  | none => none

/-- The event can happen: a timer goes off at its time, and a datagram is handed to the hooks only
when it is not waiting there. -/
def Can (st : AODVRouting) (now : ℤ) : Event → Prop
  | .datagram datagram _ => ∀ queued ∈ st.queuedDatagramsForHooks, queued.datagram ≠ datagram
  | .waitForRREP target => (st.fire now target).isSome
  | .hello nextHello => st.helloMsgTimer = some now ∧ now ≤ nextHello
  | .expunge => st.expungeTimer = some now
  | .counter => st.counterTimer = some now
  | .rrepAck => st.rrepAckTimer = some now
  | .blacklist => st.blacklistTimer = some now
  | _ => True

def handle (st : AODVRouting) (now : ℤ) : Event → Except SimError AODVRouting
  | .datagram datagram hookType => st.datagramHook now datagram hookType
  | .forwarded datagram => st.datagramForwardHook now datagram
  | .packet packet => st.handlePacket now packet
  | .waitForRREP target =>
      match st.fire now target with
      | some (timer, st) => st.handleWaitForRREP now timer
      | none => .error (.undefinedBehavior "no such timer")
  | .hello nextHello => st.sendHelloMessagesIfNeeded now nextHello
  | .expunge => st.expungeRoutes now
  | .counter => .ok { st with rreqCount := 0, rerrCount := 0, counterTimer := some (now + 1) }
  | .rrepAck => .ok (st.handleRREPACKTimer now)
  | .blacklist => st.handleBlackListTimer
  | .linkBreak destAddress => st.receiveChangeNotification now destAddress
  | .otherRoutes otherRoutes => .ok { st with otherRoutes := otherRoutes }

end AODVRouting

end Inet.Aodv
