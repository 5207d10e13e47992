import Inet.Ospf.Flooding

/-!
# Database Description packets

The state machine of a neighbor and `DatabaseDescriptionHandler::processPacket`. Hello and poll
timers, the retransmission list and the LSAs originated on the way to and from `Full` are left out.
Sequence numbers are `unsigned long` and do not wrap.

`sent` holds the packets on the link, oldest first. `processed` is no part of the source: the
headers taken in since the exchange began.
-/

namespace Inet.Ospf.Exchange

open Inet.Ospf.Flooding

def IP_MAX_HEADER_BYTES : ℕ := 60

def IPV4_DATAGRAM_LENGTH : ℕ := 65536

def OSPF_HEADER_LENGTH : ℕ := 24

def OSPF_DD_HEADER_LENGTH : ℕ := 8

def OSPF_LSA_HEADER_LENGTH : ℕ := 20

inductive NeighborEventType where
  | HELLO_RECEIVED
  | START
  | TWOWAY_RECEIVED
  | NEGOTIATION_DONE
  | EXCHANGE_DONE
  | BAD_LINK_STATE_REQUEST
  | LOADING_DONE
  | IS_ADJACENCY_OK
  | SEQUENCE_NUMBER_MISMATCH
  | ONEWAY_RECEIVED
  | KILL_NEIGHBOR
  | INACTIVITY_TIMER
  | POLL_TIMER
  | LINK_DOWN
  | DD_RETRANSMISSION_TIMER
  | UPDATE_RETRANSMISSION_TIMER
  | REQUEST_RETRANSMISSION_TIMER
  deriving DecidableEq

inductive DatabaseExchangeRelationshipType where
  | MASTER
  | SLAVE
  deriving DecidableEq

structure OSPFDDOptions where
  I_Init : Bool
  M_More : Bool
  MS_MasterSlave : Bool
  deriving DecidableEq

/-- What tells packets apart. -/
structure DDPacketID where
  ddOptions : OSPFDDOptions
  options : OSPFOptions
  sequenceNumber : ℕ
  deriving DecidableEq

structure OSPFDatabaseDescriptionPacket where
  interfaceMTU : ℕ
  options : OSPFOptions
  ddOptions : OSPFDDOptions
  ddSequenceNumber : ℕ
  lsaHeaders : List LSAHeader

def OSPFDatabaseDescriptionPacket.packetID (ddPacket : OSPFDatabaseDescriptionPacket) :
    DDPacketID :=
  ⟨ddPacket.ddOptions, ddPacket.options, ddPacket.ddSequenceNumber⟩

/-- The router at one end of the link, and its interface there. -/
structure Endpoint (B : Type) where
  router : Router B
  interfaceType : OSPFInterfaceType
  mtu : ℕ
  areaID : AreaID

namespace Endpoint

variable {B : Type} (intf : Endpoint B)

def externalRoutingCapability : Bool :=
  (intf.router.getAreaByID intf.areaID).any Area.externalRoutingCapability

/-- The options of the packets sent: all but one are cleared. -/
def options : OSPFOptions := ⟨intf.externalRoutingCapability, false, false, false, false⟩

def interfaceMTU : ℕ := if intf.interfaceType = .VIRTUAL then 0 else intf.mtu

def maxPacketSize : ℕ :=
  (if intf.mtu < IP_MAX_HEADER_BYTES + OSPF_HEADER_LENGTH + OSPF_DD_HEADER_LENGTH +
      OSPF_LSA_HEADER_LENGTH then IPV4_DATAGRAM_LENGTH else intf.mtu) - IP_MAX_HEADER_BYTES

/-- The loop that fills a packet: the headers that go into it and those that are left. -/
def fillPacket : ℕ → List LSAHeader → List LSAHeader × List LSAHeader
  | _, [] => ([], [])
  | packetSize, lsaHeader :: databaseSummaryList =>
      if packetSize ≤ intf.maxPacketSize - OSPF_LSA_HEADER_LENGTH then
        let filled := fillPacket (packetSize + OSPF_LSA_HEADER_LENGTH) databaseSummaryList
        (lsaHeader :: filled.1, filled.2)
      else ([], lsaHeader :: databaseSummaryList)

/-- What `createDatabaseSummary` lists. -/
def databaseSummary : List LSAHeader :=
  let stored := intf.router.database .ROUTERLSA_TYPE intf.areaID ++
    intf.router.database .NETWORKLSA_TYPE intf.areaID ++
    intf.router.database .SUMMARYLSA_NETWORKS_TYPE intf.areaID ++
    if intf.interfaceType ≠ .VIRTUAL ∧ intf.externalRoutingCapability = true then
      intf.router.database .AS_EXTERNAL_LSA_TYPE intf.areaID
    else []
  (stored.map fun stored => stored.lsa.header).filter fun header => header.lsAge < MAX_AGE

/-- The database has no instance of the LSA, or only an older one. -/
def lacks (header : LSAHeader) : Bool :=
  match intf.router.findLSA header.lsType header.key intf.areaID with
  | none => true
  | some lsaInDatabase => lsaInDatabase.lsa.header.isOlder header

end Endpoint

structure Neighbor where
  state : NeighborStateType
  neighborID : RouterID
  ddRetransmissionTimer : Bool
  requestRetransmissionTimerActive : Bool
  databaseExchangeRelationship : DatabaseExchangeRelationshipType
  firstAdjacencyInited : Bool
  ddSequenceNumber : ℕ
  lastReceivedDDPacket : DDPacketID
  neighborOptions : OSPFOptions
  databaseSummaryList : List LSAHeader
  linkStateRequestList : List LSAHeader
  lastTransmittedDDPacket : Option OSPFDatabaseDescriptionPacket
  sent : List OSPFDatabaseDescriptionPacket
  processed : List LSAHeader

/-- What an event reads of the interface and of the other neighbors: `needAdjacency` and
`getUniqueULong`. -/
structure Surroundings where
  needAdjacency : Bool
  uniqueULong : ℕ

namespace Neighbor

variable {B : Type} (intf : Endpoint B) (env : Surroundings) (neighbor : Neighbor)

def reset : Neighbor :=
  { neighbor with
    databaseSummaryList := []
    linkStateRequestList := []
    ddRetransmissionTimer := false
    requestRetransmissionTimerActive := false
    lastTransmittedDDPacket := none
    processed := [] }

def changeState (state : NeighborStateType) : Neighbor := { neighbor with state := state }

def initFirstAdjacency : Neighbor :=
  { neighbor with ddSequenceNumber := env.uniqueULong, firstAdjacencyInited := true }

def incrementDDSequenceNumber : Neighbor :=
  { neighbor with ddSequenceNumber := neighbor.ddSequenceNumber + 1 }

def sendDatabaseDescriptionPacket (init : Bool) : Neighbor :=
  let filled :=
    if init = true ∨ neighbor.databaseSummaryList = [] then ([], neighbor.databaseSummaryList)
    else
      intf.fillPacket (OSPF_HEADER_LENGTH + OSPF_DD_HEADER_LENGTH) neighbor.databaseSummaryList
  let ddPacket : OSPFDatabaseDescriptionPacket :=
    { interfaceMTU := intf.interfaceMTU
      options := intf.options
      ddOptions :=
        if init then ⟨true, true, true⟩
        else ⟨false, !filled.2.isEmpty, decide (neighbor.databaseExchangeRelationship = .MASTER)⟩
      ddSequenceNumber := neighbor.ddSequenceNumber
      lsaHeaders := filled.1 }
  { neighbor with
    databaseSummaryList := filled.2
    lastTransmittedDDPacket := some ddPacket
    sent := neighbor.sent ++ [ddPacket] }

/-- The flag tells whether there was a packet to send again. -/
def retransmitDatabaseDescriptionPacket : Neighbor × Bool :=
  match neighbor.lastTransmittedDDPacket with
  | some ddPacket => ({ neighbor with sent := neighbor.sent ++ [ddPacket] }, true)
  | none => (neighbor, false)

def createDatabaseSummary : Neighbor :=
  { neighbor with databaseSummaryList := neighbor.databaseSummaryList ++ intf.databaseSummary }

def addToRequestList (lsaHeader : LSAHeader) : Neighbor :=
  { neighbor with linkStateRequestList := neighbor.linkStateRequestList ++ [lsaHeader] }

def startRequestRetransmissionTimer : Neighbor :=
  { neighbor with requestRetransmissionTimerActive := true }

def clearRequestRetransmissionTimer : Neighbor :=
  { neighbor with requestRetransmissionTimerActive := false }

def deleteLastSentDDPacket : Neighbor := { neighbor with lastTransmittedDDPacket := none }

/-- The first packet of a negotiation, which is repeated until it is answered. -/
def negotiate : Neighbor :=
  ({ neighbor.sendDatabaseDescriptionPacket intf true with
    ddRetransmissionTimer := true }).changeState .EXCHANGE_START_STATE

/-- An adjacency is to be formed. -/
def formAdjacency : Neighbor :=
  (if neighbor.firstAdjacencyInited then neighbor.incrementDDSequenceNumber
    else neighbor.initFirstAdjacency env).negotiate intf

/-- The exchange begins anew. -/
def renegotiate : Neighbor := neighbor.reset.incrementDDSequenceNumber.negotiate intf

def processEventDown : NeighborEventType → Neighbor
  | .START => neighbor.changeState .ATTEMPT_STATE
  | .HELLO_RECEIVED => neighbor.changeState .INIT_STATE
  | _ => neighbor

def processEventAttempt : NeighborEventType → Neighbor
  | .KILL_NEIGHBOR | .LINK_DOWN | .INACTIVITY_TIMER => neighbor.reset.changeState .DOWN_STATE
  | .HELLO_RECEIVED => neighbor.changeState .INIT_STATE
  | _ => neighbor

def processEventInit : NeighborEventType → Neighbor
  | .KILL_NEIGHBOR | .LINK_DOWN | .INACTIVITY_TIMER => neighbor.reset.changeState .DOWN_STATE
  | .TWOWAY_RECEIVED =>
      if env.needAdjacency then neighbor.formAdjacency intf env
      else neighbor.changeState .TWOWAY_STATE
  | _ => neighbor

def processEventTwoWay : NeighborEventType → Neighbor
  | .KILL_NEIGHBOR | .LINK_DOWN | .INACTIVITY_TIMER => neighbor.reset.changeState .DOWN_STATE
  | .ONEWAY_RECEIVED => neighbor.reset.changeState .INIT_STATE
  | .IS_ADJACENCY_OK =>
      if env.needAdjacency then neighbor.formAdjacency intf env else neighbor
  | _ => neighbor

def processEventExchangeStart : NeighborEventType → Neighbor
  | .KILL_NEIGHBOR | .LINK_DOWN | .INACTIVITY_TIMER => neighbor.reset.changeState .DOWN_STATE
  | .ONEWAY_RECEIVED => neighbor.reset.changeState .INIT_STATE
  | .IS_ADJACENCY_OK =>
      if env.needAdjacency then neighbor else neighbor.reset.changeState .TWOWAY_STATE
  | .DD_RETRANSMISSION_TIMER =>
      { neighbor.retransmitDatabaseDescriptionPacket.1 with ddRetransmissionTimer := true }
  | .NEGOTIATION_DONE =>
      ({ (neighbor.createDatabaseSummary intf).sendDatabaseDescriptionPacket intf false with
        ddRetransmissionTimer := false }).changeState .EXCHANGE_STATE
  | _ => neighbor

def processEventExchange : NeighborEventType → Neighbor
  | .KILL_NEIGHBOR | .LINK_DOWN | .INACTIVITY_TIMER => neighbor.reset.changeState .DOWN_STATE
  | .ONEWAY_RECEIVED => neighbor.reset.changeState .INIT_STATE
  | .IS_ADJACENCY_OK =>
      if env.needAdjacency then neighbor else neighbor.reset.changeState .TWOWAY_STATE
  | .SEQUENCE_NUMBER_MISMATCH | .BAD_LINK_STATE_REQUEST => neighbor.renegotiate intf
  | .EXCHANGE_DONE =>
      if neighbor.linkStateRequestList = [] then
        ({ neighbor with
          ddRetransmissionTimer := true }).clearRequestRetransmissionTimer.changeState .FULL_STATE
      else ({ neighbor with ddRetransmissionTimer := true }).changeState .LOADING_STATE
  | .REQUEST_RETRANSMISSION_TIMER => neighbor.startRequestRetransmissionTimer
  | _ => neighbor

def processEventLoading : NeighborEventType → Neighbor
  | .KILL_NEIGHBOR | .LINK_DOWN | .INACTIVITY_TIMER => neighbor.reset.changeState .DOWN_STATE
  | .ONEWAY_RECEIVED => neighbor.reset.changeState .INIT_STATE
  | .LOADING_DONE => neighbor.clearRequestRetransmissionTimer.changeState .FULL_STATE
  | .IS_ADJACENCY_OK =>
      if env.needAdjacency then neighbor else neighbor.reset.changeState .TWOWAY_STATE
  | .SEQUENCE_NUMBER_MISMATCH | .BAD_LINK_STATE_REQUEST => neighbor.renegotiate intf
  | .REQUEST_RETRANSMISSION_TIMER => neighbor.startRequestRetransmissionTimer
  | .DD_RETRANSMISSION_TIMER => neighbor.deleteLastSentDDPacket
  | _ => neighbor

def processEventFull : NeighborEventType → Neighbor
  | .KILL_NEIGHBOR | .LINK_DOWN | .INACTIVITY_TIMER => neighbor.reset.changeState .DOWN_STATE
  | .ONEWAY_RECEIVED => neighbor.reset.changeState .INIT_STATE
  | .IS_ADJACENCY_OK =>
      if env.needAdjacency then neighbor else neighbor.reset.changeState .TWOWAY_STATE
  | .SEQUENCE_NUMBER_MISMATCH | .BAD_LINK_STATE_REQUEST => neighbor.renegotiate intf
  | .DD_RETRANSMISSION_TIMER => neighbor.deleteLastSentDDPacket
  | _ => neighbor

def processEvent (event : NeighborEventType) : Neighbor :=
  match neighbor.state with
  | .DOWN_STATE => neighbor.processEventDown event
  | .ATTEMPT_STATE => neighbor.processEventAttempt event
  | .INIT_STATE => neighbor.processEventInit intf env event
  | .TWOWAY_STATE => neighbor.processEventTwoWay intf env event
  | .EXCHANGE_START_STATE => neighbor.processEventExchangeStart intf env event
  | .EXCHANGE_STATE => neighbor.processEventExchange intf env event
  | .LOADING_STATE => neighbor.processEventLoading intf env event
  | .FULL_STATE => neighbor.processEventFull intf env event

/-- The timer has fired, and runs no longer unless it is started again. -/
def expireDDRetransmissionTimer : Neighbor :=
  if neighbor.ddRetransmissionTimer then
    ({ neighbor with ddRetransmissionTimer := false }).processEvent intf env
      .DD_RETRANSMISSION_TIMER
  else neighbor

/-- The loop over the headers of a packet. The flag is false if it was left early. -/
def processHeaders : Neighbor → List LSAHeader → Neighbor × Bool
  | neighbor, [] => (neighbor, true)
  | neighbor, currentHeader :: lsaHeaders =>
      if currentHeader.lsType = .AS_EXTERNAL_LSA_TYPE ∧ intf.externalRoutingCapability = false then
        (neighbor.processEvent intf env .SEQUENCE_NUMBER_MISMATCH, false)
      else
        let noted := { neighbor with processed := neighbor.processed ++ [currentHeader] }
        processHeaders (if intf.lacks currentHeader then noted.addToRequestList currentHeader
          else noted) lsaHeaders

/-- What follows the loop of `processDDPacket`. -/
def answerDDPacket (ddPacket : OSPFDatabaseDescriptionPacket) (inExchangeStart : Bool) :
    Neighbor :=
  if neighbor.databaseExchangeRelationship = .MASTER then
    let next := neighbor.incrementDDSequenceNumber
    if next.databaseSummaryList = [] ∧ ddPacket.ddOptions.M_More = false then
      next.processEvent intf env .EXCHANGE_DONE
    else if inExchangeStart = false then next.sendDatabaseDescriptionPacket intf false
    else next
  else
    let taken := { neighbor with ddSequenceNumber := ddPacket.ddSequenceNumber }
    let next :=
      if inExchangeStart = false then taken.sendDatabaseDescriptionPacket intf false else taken
    if ddPacket.ddOptions.M_More = false ∧ next.databaseSummaryList = [] then
      next.processEvent intf env .EXCHANGE_DONE
    else next

def processDDPacket (ddPacket : OSPFDatabaseDescriptionPacket) (inExchangeStart : Bool) :
    Neighbor × Bool :=
  let headersDone := neighbor.processHeaders intf env ddPacket.lsaHeaders
  if headersDone.2 then (headersDone.1.answerDDPacket intf env ddPacket inExchangeStart, true)
  else headersDone

/-- Requests are sent as soon as there is something to ask for. -/
def requestMissing : Neighbor :=
  if neighbor.linkStateRequestList ≠ [] ∧ neighbor.requestRetransmissionTimerActive = false then
    neighbor.clearRequestRetransmissionTimer.startRequestRetransmissionTimer
  else neighbor

/-- The negotiation is over: `relationship` is what it has come to. -/
def concludeNegotiation (ddPacket : OSPFDatabaseDescriptionPacket)
    (relationship : DatabaseExchangeRelationshipType) (sequenceNumber : ℕ) : Neighbor :=
  let agreed :=
    { neighbor with
      neighborOptions := ddPacket.options
      databaseExchangeRelationship := relationship
      ddSequenceNumber := sequenceNumber
      lastReceivedDDPacket := ddPacket.packetID }
  let contents := agreed.processDDPacket intf env ddPacket true
  if contents.2 then (contents.1.processEvent intf env .NEGOTIATION_DONE).requestMissing
  else contents.1

def processPacketExchangeStart (ddPacket : OSPFDatabaseDescriptionPacket) : Neighbor :=
  let ddOptions := ddPacket.ddOptions
  if ddOptions.I_Init ∧ ddOptions.M_More ∧ ddOptions.MS_MasterSlave ∧ ddPacket.lsaHeaders = [] then
    if intf.router.routerID < neighbor.neighborID then
      neighbor.concludeNegotiation intf env ddPacket .SLAVE ddPacket.ddSequenceNumber
    else neighbor.sendDatabaseDescriptionPacket intf true
  else if ddOptions.I_Init = false ∧ ddOptions.MS_MasterSlave = false ∧
      ddPacket.ddSequenceNumber = neighbor.ddSequenceNumber ∧
      neighbor.neighborID < intf.router.routerID then
    neighbor.concludeNegotiation intf env ddPacket .MASTER neighbor.ddSequenceNumber
  else neighbor

/-- A packet that is not the one received last does not belong to the exchange. -/
def mismatches (ddPacket : OSPFDatabaseDescriptionPacket) : Bool :=
  decide ((ddPacket.ddOptions.MS_MasterSlave = true ∧
      neighbor.databaseExchangeRelationship ≠ .SLAVE) ∨
    (ddPacket.ddOptions.MS_MasterSlave = false ∧ neighbor.databaseExchangeRelationship ≠ .MASTER) ∨
    ddPacket.ddOptions.I_Init = true ∨ ddPacket.options ≠ neighbor.lastReceivedDDPacket.options)

/-- The sequence number is the one that comes next. -/
def isNext (ddPacket : OSPFDatabaseDescriptionPacket) : Bool :=
  decide ((neighbor.databaseExchangeRelationship = .MASTER ∧
      ddPacket.ddSequenceNumber = neighbor.ddSequenceNumber) ∨
    (neighbor.databaseExchangeRelationship = .SLAVE ∧
      ddPacket.ddSequenceNumber = neighbor.ddSequenceNumber + 1))

def processPacketExchange (ddPacket : OSPFDatabaseDescriptionPacket) : Neighbor :=
  if ddPacket.packetID ≠ neighbor.lastReceivedDDPacket then
    if neighbor.mismatches ddPacket then neighbor.processEvent intf env .SEQUENCE_NUMBER_MISMATCH
    else if neighbor.isNext ddPacket then
      let contents := ({ neighbor with lastReceivedDDPacket := ddPacket.packetID }).processDDPacket
        intf env ddPacket false
      if contents.2 then contents.1.requestMissing else contents.1
    else neighbor.processEvent intf env .SEQUENCE_NUMBER_MISMATCH
  else if neighbor.databaseExchangeRelationship = .SLAVE then
    neighbor.retransmitDatabaseDescriptionPacket.1
  else neighbor

def processPacketLoading (ddPacket : OSPFDatabaseDescriptionPacket) : Neighbor :=
  if ddPacket.packetID ≠ neighbor.lastReceivedDDPacket ∨ ddPacket.ddOptions.I_Init then
    neighbor.processEvent intf env .SEQUENCE_NUMBER_MISMATCH
  else if neighbor.databaseExchangeRelationship = .SLAVE then
    let again := neighbor.retransmitDatabaseDescriptionPacket
    if again.2 then again.1 else again.1.processEvent intf env .SEQUENCE_NUMBER_MISMATCH
  else neighbor

def processPacket (ddPacket : OSPFDatabaseDescriptionPacket) : Neighbor :=
  if ddPacket.interfaceMTU ≤ intf.mtu ∧
      NeighborStateType.ATTEMPT_STATE.toNat < neighbor.state.toNat then
    match neighbor.state with
    | .INIT_STATE => neighbor.processEvent intf env .TWOWAY_RECEIVED
    | .EXCHANGE_START_STATE => neighbor.processPacketExchangeStart intf env ddPacket
    | .EXCHANGE_STATE => neighbor.processPacketExchange intf env ddPacket
    | .LOADING_STATE | .FULL_STATE => neighbor.processPacketLoading intf env ddPacket
    | _ => neighbor
  else neighbor

end Neighbor

end Inet.Ospf.Exchange
