import Inet.Lib.Outbox
import Inet.Ospf.ShortestPathTree

/-!
# Flooding

The link state databases, the neighbors with their request and retransmission lists, `floodLSA` and
`installLSA`. Interfaces and neighbors are objects at addresses. What is sent, the acknowledgements
and the timers are left out. Of an LSA other than an AS-external one the contents are any type `B`.

`awaited` is no part of the source: the instances flooded to the neighbor that it has not answered
for.
-/

namespace Inet.Ospf.Flooding

open Inet.Ipv4

def BACKBONE_AREAID : AreaID := 0

def MAX_AGE_DIFF : ℕ := 900

def MIN_LS_ARRIVAL : ℕ := 1

def MAX_SEQUENCE_NUMBER : ℤ := 2147483647

inductive LSAType where
  | ROUTERLSA_TYPE
  | NETWORKLSA_TYPE
  | SUMMARYLSA_NETWORKS_TYPE
  | SUMMARYLSA_ASBOUNDARYROUTERS_TYPE
  | AS_EXTERNAL_LSA_TYPE
  deriving DecidableEq

structure LSAHeader extends OSPFLSAHeader where
  lsType : LSAType
  lsSequenceNumber : ℤ
  deriving DecidableEq

structure LSAKeyType where
  linkStateID : LinkStateID
  advertisingRouter : RouterID
  deriving DecidableEq

namespace LSAHeader

/-- `operator<`. -/
def isOlder (leftLSA rightLSA : LSAHeader) : Bool :=
  if leftLSA.lsSequenceNumber < rightLSA.lsSequenceNumber then true
  else if leftLSA.lsSequenceNumber = rightLSA.lsSequenceNumber then
    if leftLSA.lsAge ≠ MAX_AGE ∧ rightLSA.lsAge = MAX_AGE then true
    else if leftLSA.lsAge = MAX_AGE ∧ rightLSA.lsAge ≠ MAX_AGE then false
    else decide (MAX_AGE_DIFF < leftLSA.lsAge - rightLSA.lsAge)
  else false

/-- `operator==`. -/
def isSame (leftLSA rightLSA : LSAHeader) : Bool :=
  decide (leftLSA.lsSequenceNumber = rightLSA.lsSequenceNumber) &&
    ((decide (leftLSA.lsAge = MAX_AGE) && decide (rightLSA.lsAge = MAX_AGE)) ||
      (decide (leftLSA.lsAge ≠ MAX_AGE) && decide (rightLSA.lsAge ≠ MAX_AGE) &&
        decide (leftLSA.lsAge - rightLSA.lsAge ≤ MAX_AGE_DIFF) &&
        decide (rightLSA.lsAge - leftLSA.lsAge ≤ MAX_AGE_DIFF)))

def key (header : LSAHeader) : LSAKeyType := ⟨header.linkStateID, header.advertisingRouter⟩

/-- Instances of one LSA have one type and key. -/
def sameLSA (header other : LSAHeader) : Bool :=
  decide (header.lsType = other.lsType) && decide (header.key = other.key)

end LSAHeader

/-- The contents of an AS-external LSA, as far as they are compared. -/
structure ASExternalContents where
  E_ExternalMetricType : Bool
  routeCost : ℕ
  forwardingAddress : IPv4Address
  deriving DecidableEq

inductive LSAContents (B : Type) where
  | asExternal (contents : ASExternalContents)
  | other (contents : B)
  deriving DecidableEq

structure LSA (B : Type) where
  header : LSAHeader
  contents : LSAContents B
  deriving DecidableEq

def LSA.key {B : Type} (lsa : LSA B) : LSAKeyType := lsa.header.key

def LSA.setLsAge {B : Type} (lsa : LSA B) (lsAge : ℕ) : LSA B :=
  { lsa with header.lsAge := lsAge }

def LSA.setLsSequenceNumber {B : Type} (lsa : LSA B) (lsSequenceNumber : ℤ) : LSA B :=
  { lsa with header.lsSequenceNumber := lsSequenceNumber }

inductive NeighborStateType where
  | DOWN_STATE
  | ATTEMPT_STATE
  | INIT_STATE
  | TWOWAY_STATE
  | EXCHANGE_START_STATE
  | EXCHANGE_STATE
  | LOADING_STATE
  | FULL_STATE
  deriving DecidableEq

/-- The number of the state, by which states are compared. -/
def NeighborStateType.toNat : NeighborStateType → ℕ
  | DOWN_STATE => 0
  | ATTEMPT_STATE => 1
  | INIT_STATE => 2
  | TWOWAY_STATE => 4
  | EXCHANGE_START_STATE => 8
  | EXCHANGE_STATE => 16
  | LOADING_STATE => 32
  | FULL_STATE => 64

structure Neighbor (B : Type) where
  neighborID : RouterID
  state : NeighborStateType
  linkStateRequestList : List LSAHeader
  linkStateRetransmissionList : List (LSA B)
  awaited : List (LSA B)

namespace Neighbor

variable {B : Type} (neighbor : Neighbor B)

/-- `getState() >= EXCHANGE_STATE`. -/
def isExchanging : Bool := decide (NeighborStateType.EXCHANGE_STATE.toNat ≤ neighbor.state.toNat)

/-- `getState() >= FULL_STATE`. -/
def isFull : Bool := decide (NeighborStateType.FULL_STATE.toNat ≤ neighbor.state.toNat)

def addToRetransmissionList (lsa : LSA B) : Neighbor B :=
  { neighbor with
    linkStateRetransmissionList := putByKey LSA.key lsa neighbor.linkStateRetransmissionList }

def removeFromRetransmissionList (lsaKey : LSAKeyType) : Neighbor B :=
  { neighbor with
    linkStateRetransmissionList := dropKey LSA.key lsaKey neighbor.linkStateRetransmissionList }

/-- `isLinkStateRequestListEmpty`, which tells whether the key is on the retransmission list. -/
def isLinkStateRequestListEmpty (lsaKey : LSAKeyType) : Bool :=
  neighbor.linkStateRetransmissionList.any fun lsa => lsa.key = lsaKey

def findOnRetransmissionList (lsaKey : LSAKeyType) : Option (LSA B) :=
  neighbor.linkStateRetransmissionList.find? fun lsa => lsa.key = lsaKey

def isLSAOnRequestList (lsaKey : LSAKeyType) : Bool :=
  neighbor.linkStateRequestList.any fun header => header.key = lsaKey

def findOnRequestList (lsaKey : LSAKeyType) : Option LSAHeader :=
  neighbor.linkStateRequestList.find? fun header => header.key = lsaKey

def removeFromRequestList (lsaKey : LSAKeyType) : Neighbor B :=
  { neighbor with
    linkStateRequestList := neighbor.linkStateRequestList.filter fun header => header.key ≠ lsaKey }

def reset : Neighbor B :=
  { neighbor with
    linkStateRequestList := []
    linkStateRetransmissionList := []
    awaited := [] }

/-- The instance is awaited from now on, and older ones of the same LSA are not. -/
def await (lsa : LSA B) : Neighbor B :=
  { neighbor with
    awaited := (neighbor.awaited.filter fun x =>
      !(x.header.sameLSA lsa.header && !lsa.header.isOlder x.header)) ++ [lsa] }

/-- The neighbor answers for an instance: it acknowledges it, or sends it back. -/
def answer (header : LSAHeader) : Neighbor B :=
  { neighbor with
    awaited := neighbor.awaited.filter fun x =>
      !(x.header.sameLSA header && header.isSame x.header) }

end Neighbor

/-! ## The router -/

structure Interface where
  interfaceType : OSPFInterfaceType
  areaID : AreaID
  address : IPv4Address
  neighboringRouters : List ℕ

inductive InstallSource where
  | ORIGINATED
  | FLOODED
  deriving DecidableEq

/-- An LSA of a database, with its `LSATrackingInfo`. -/
structure Stored (B : Type) where
  lsa : LSA B
  source : InstallSource
  installTime : ℕ

structure Area (B : Type) where
  areaID : AreaID
  externalRoutingCapability : Bool
  associatedInterfaces : List ℕ
  routerLSAs : List (Stored B)
  networkLSAs : List (Stored B)
  summaryLSAs : List (Stored B)

structure Router (B : Type) where
  routerID : RouterID
  areas : List (Area B)
  asExternalLSAs : List (Stored B)
  routingTable : List RoutingTableEntry
  interfaceAt : ℕ → Interface
  neighborAt : ℕ → Neighbor B

/-- What two events of a neighbor set off, whose own LSAs are then originated and flooded. -/
structure Reaction (B : Type) where
  loadingDone : Router B → ℕ → Router B
  badLinkStateRequest : Router B → ℕ → Router B

namespace Router

variable {B : Type} (st : Router B)

def setNeighbor (p : ℕ) (neighbor : Neighbor B) : Router B :=
  { st with neighborAt := Function.update st.neighborAt p neighbor }

def getAreaByID (areaID : AreaID) : Option (Area B) :=
  st.areas.find? fun area => area.areaID = areaID

/-- The neighbors on the interfaces of an area. -/
def areaNeighbors (area : Area B) : List ℕ :=
  area.associatedInterfaces.flatMap fun intf => (st.interfaceAt intf).neighboringRouters

/-- The neighbors on all interfaces. -/
def neighbors : List ℕ := st.areas.flatMap st.areaNeighbors

def hasAnyNeighborInExchangeOrLoading : Bool :=
  st.neighbors.any fun p => decide ((st.neighborAt p).state = .EXCHANGE_STATE) ||
    decide ((st.neighborAt p).state = .LOADING_STATE)

/-- `removeFromAllRetransmissionLists`, for the neighbors of an area or of the router. -/
def removeFromAllRetransmissionLists (pointers : List ℕ) (lsaKey : LSAKeyType) : Router B :=
  pointers.foldl (fun st p =>
    st.setNeighbor p ((st.neighborAt p).removeFromRetransmissionList lsaKey)) st

def isLocalAddress (address : IPv4Address) : Bool :=
  st.areas.any fun area => area.associatedInterfaces.any fun intf =>
    decide ((st.interfaceAt intf).address = address)

/-- The database of a type; those of an area are empty where there is no such area. -/
def database (lsType : LSAType) (areaID : AreaID) : List (Stored B) :=
  match lsType with
  | .ROUTERLSA_TYPE => ((st.getAreaByID areaID).map Area.routerLSAs).getD []
  | .NETWORKLSA_TYPE => ((st.getAreaByID areaID).map Area.networkLSAs).getD []
  | .SUMMARYLSA_NETWORKS_TYPE | .SUMMARYLSA_ASBOUNDARYROUTERS_TYPE =>
      ((st.getAreaByID areaID).map Area.summaryLSAs).getD []
  | .AS_EXTERNAL_LSA_TYPE => st.asExternalLSAs

/-- Changes one area. -/
def updateArea (areaID : AreaID) (f : Area B → Area B) : Router B :=
  { st with areas := st.areas.map fun area => if area.areaID = areaID then f area else area }

def setDatabase (lsType : LSAType) (areaID : AreaID) (lsas : List (Stored B)) : Router B :=
  match lsType with
  | .ROUTERLSA_TYPE => st.updateArea areaID fun area => { area with routerLSAs := lsas }
  | .NETWORKLSA_TYPE => st.updateArea areaID fun area => { area with networkLSAs := lsas }
  | .SUMMARYLSA_NETWORKS_TYPE | .SUMMARYLSA_ASBOUNDARYROUTERS_TYPE =>
      st.updateArea areaID fun area => { area with summaryLSAs := lsas }
  | .AS_EXTERNAL_LSA_TYPE => { st with asExternalLSAs := lsas }

/-- Router- and Network-LSAs are found by the link state ID alone. -/
def hasKey (lsType : LSAType) (lsaKey : LSAKeyType) (stored : Stored B) : Bool :=
  match lsType with
  | .ROUTERLSA_TYPE | .NETWORKLSA_TYPE =>
      decide (stored.lsa.header.linkStateID = lsaKey.linkStateID)
  | _ => decide (stored.lsa.key = lsaKey)

def findLSA (lsType : LSAType) (lsaKey : LSAKeyType) (areaID : AreaID) : Option (Stored B) :=
  (st.database lsType areaID).find? (hasKey lsType lsaKey)

/-- Changes an LSA in its place. -/
def modifyLSA (lsType : LSAType) (lsaKey : LSAKeyType) (areaID : AreaID)
    (f : Stored B → Stored B) : Router B :=
  st.setDatabase lsType areaID ((st.database lsType areaID).map fun stored =>
    if hasKey lsType lsaKey stored then f stored else stored)

variable (react : Reaction B)

/-- `removeFromRequestList`, with the event that it sets off. -/
def removeFromRequestList (p : ℕ) (lsaKey : LSAKeyType) : Router B :=
  let neighbor := (st.neighborAt p).removeFromRequestList lsaKey
  let removed := st.setNeighbor p neighbor
  if neighbor.state = .LOADING_STATE ∧ neighbor.linkStateRequestList = [] then
    react.loadingDone removed p
  else removed

/-- The LSA is queued for the neighbor, unless it came from there. -/
def queueLSA (lsa : LSA B) (source : Option ℕ) (p : ℕ) : Router B :=
  if source = some p then st
  else st.setNeighbor p (((st.neighborAt p).addToRetransmissionList lsa).await lsa)

/-- One neighbor of the loop of `Interface::floodLSA`. -/
def floodToNeighbor (lsa : LSA B) (source : Option ℕ) (st : Router B) (p : ℕ) : Router B :=
  let neighbor := st.neighborAt p
  if neighbor.isExchanging = false then st
  else
    match if neighbor.isFull then none else neighbor.findOnRequestList lsa.key with
    | none => st.queueLSA lsa source p
    | some requestLSAHeader =>
        if lsa.header.isOlder requestLSAHeader then st
        else if lsa.header.isSame requestLSAHeader then st.removeFromRequestList react p lsa.key
        else (st.removeFromRequestList react p lsa.key).queueLSA lsa source p

/-- Whether an interface takes part in flooding LSAs of a type. -/
def isFloodedOut (intf : Interface) (area : Area B) (lsType : LSAType) : Bool :=
  if lsType = .AS_EXTERNAL_LSA_TYPE then
    decide (intf.interfaceType ≠ .VIRTUAL) && area.externalRoutingCapability
  else
    (decide (intf.areaID ≠ BACKBONE_AREAID) && decide (intf.interfaceType ≠ .VIRTUAL)) ||
      decide (intf.areaID = BACKBONE_AREAID)

/-- `Area::floodLSA`, over the interfaces and their neighbors. -/
def floodArea (lsa : LSA B) (source : Option ℕ) (st : Router B) (area : Area B) : Router B :=
  area.associatedInterfaces.foldl (fun st intf =>
    if isFloodedOut (st.interfaceAt intf) area lsa.header.lsType then
      (st.interfaceAt intf).neighboringRouters.foldl (floodToNeighbor react lsa source) st
    else st) st

def floodLSA (lsa : LSA B) (areaID : AreaID) (source : Option ℕ) : Router B :=
  if lsa.header.lsType = .AS_EXTERNAL_LSA_TYPE then
    st.areas.foldl (fun st area =>
      if area.externalRoutingCapability then floodArea react lsa source st area else st) st
  else
    match st.getAreaByID areaID with
    | some area => floodArea react lsa source st area
    | none => st

/-- A new instance in the database: `update` where there is one, with the key taken off the lists of
the neighbors given. -/
def storeLSA (lsa : LSA B) (areaID : AreaID) (pointers : List ℕ) : Router B :=
  match st.findLSA lsa.header.lsType lsa.key areaID with
  | some _ =>
      (st.removeFromAllRetransmissionLists pointers lsa.key).modifyLSA lsa.header.lsType lsa.key
        areaID fun stored => { stored with lsa := lsa, installTime := 0 }
  | none =>
      st.setDatabase lsa.header.lsType areaID
        (st.database lsa.header.lsType areaID ++ [⟨lsa, .FLOODED, 0⟩])

def isReachable (advertisingRouter : RouterID) : Bool :=
  st.routingTable.any fun entry =>
    (decide (entry.destinationType &&& AREA_BORDER_ROUTER_DESTINATION ≠ 0) ||
      decide (entry.destinationType &&& AS_BOUNDARY_ROUTER_DESTINATION ≠ 0)) &&
        decide (entry.destination = advertisingRouter)

/-- The router's own AS-external LSA that is functionally equivalent to the given one. -/
def equivalentOwn (lsa : LSA B) : Option (Stored B) :=
  (st.findLSA .AS_EXTERNAL_LSA_TYPE ⟨lsa.header.linkStateID, st.routerID⟩ BACKBONE_AREAID).filter
    fun own => st.isReachable lsa.header.advertisingRouter &&
      match own.lsa.contents, lsa.contents with
      | .asExternal ownContents, .asExternal contents =>
          decide (ownContents.E_ExternalMetricType = contents.E_ExternalMetricType) &&
            decide (ownContents.routeCost = contents.routeCost) &&
            decide (contents.forwardingAddress ≠ 0) &&
            decide (ownContents.forwardingAddress = contents.forwardingAddress)
      | _, _ => false

def installASExternalLSA (lsa : LSA B) : Router B :=
  match st.equivalentOwn lsa with
  | none => st.storeLSA lsa BACKBONE_AREAID st.neighbors
  | some own =>
      if lsa.header.advertisingRouter < st.routerID then st
      else
        let ownKey : LSAKeyType := ⟨lsa.header.linkStateID, st.routerID⟩
        let flushed := (st.modifyLSA .AS_EXTERNAL_LSA_TYPE ownKey BACKBONE_AREAID fun stored =>
          { stored with lsa := stored.lsa.setLsAge MAX_AGE }).floodLSA react
            (own.lsa.setLsAge MAX_AGE) BACKBONE_AREAID none
        let timed := flushed.modifyLSA .AS_EXTERNAL_LSA_TYPE ownKey BACKBONE_AREAID fun stored =>
          { stored with installTime := stored.installTime + 1 }
        timed.storeLSA lsa BACKBONE_AREAID timed.neighbors

def installLSA (lsa : LSA B) (areaID : AreaID) : Router B :=
  if lsa.header.lsType = .AS_EXTERNAL_LSA_TYPE then st.installASExternalLSA react lsa
  else
    match st.getAreaByID areaID with
    | some area => st.storeLSA lsa areaID (st.areaNeighbors area)
    | none => st

end Router

/-! ## Link State Update and Acknowledgement packets -/

namespace Router

variable {B : Type} (react : Reaction B) (st : Router B)

/-- The router has originated the LSA itself. -/
def isSelfOriginated (lsa : LSA B) : Bool :=
  decide (lsa.header.advertisingRouter = st.routerID) ||
    (decide (lsa.header.lsType = .NETWORKLSA_TYPE) && st.isLocalAddress lsa.header.linkStateID)

/-- An LSA that the router has originated itself comes back: it is flushed if the router does not
have it, else originated anew. -/
def refuteLSA (currentLSA : LSA B) (areaID : AreaID) (noLSAInstanceInDatabase : Bool) : Router B :=
  if noLSAInstanceInDatabase then st.floodLSA react (currentLSA.setLsAge MAX_AGE) areaID none
  else
    let lsType := currentLSA.header.lsType
    let sequenceNumber := currentLSA.header.lsSequenceNumber
    let change : LSA B → LSA B := fun lsa =>
      if sequenceNumber = MAX_SEQUENCE_NUMBER then lsa.setLsAge MAX_AGE
      else lsa.setLsSequenceNumber (sequenceNumber + 1)
    match st.findLSA lsType currentLSA.key areaID with
    | some lsaInDatabase =>
        (st.modifyLSA lsType currentLSA.key areaID fun stored =>
          { stored with lsa := change stored.lsa }).floodLSA react (change lsaInDatabase.lsa) areaID
            none
    | none => st

/-- A new or newer instance: it is flooded, taken off all lists if it replaces a database copy, and
installed. -/
def acceptLSA (areaID : AreaID) (p : ℕ) (currentLSA : LSA B) (lsaInDatabase : Option (Stored B)) :
    Router B :=
  let flooded := st.floodLSA react currentLSA areaID (some p)
  let removed := match lsaInDatabase with
    | some stored => flooded.removeFromAllRetransmissionLists flooded.neighbors stored.lsa.key
    | none => flooded
  let installed := removed.installLSA react currentLSA areaID
  if installed.isSelfOriginated currentLSA then
    installed.refuteLSA react currentLSA areaID lsaInDatabase.isNone
  else installed

/-- An instance that is not newer than the database copy. The flag tells that the loop ends. -/
def rejectLSA (p : ℕ) (currentLSA : LSA B) (lsaInDatabase : Stored B) : Router B × Bool :=
  let neighbor := st.neighborAt p
  if neighbor.isLSAOnRequestList currentLSA.key then (react.badLinkStateRequest st p, true)
  else if lsaInDatabase.lsa.header.isSame currentLSA.header then
    if neighbor.isLinkStateRequestListEmpty currentLSA.key then
      (st.setNeighbor p (neighbor.removeFromRetransmissionList currentLSA.key), false)
    else (st, false)
  else (st, false)

/-- The neighbor at `p` has answered for an instance. -/
def answered (p : ℕ) (header : LSAHeader) : Router B :=
  st.setNeighbor p ((st.neighborAt p).answer header)

/-- One LSA of an update from the neighbor at `p`, which by sending it answers for that instance. -/
def processLSA (areaID : AreaID) (p : ℕ) (currentLSA : LSA B) : Router B × Bool :=
  let answered := st.answered p currentLSA.header
  if currentLSA.header.lsType = .AS_EXTERNAL_LSA_TYPE ∧
      (answered.getAreaByID areaID).any Area.externalRoutingCapability = false then
    (answered, false)
  else
    let found := answered.findLSA currentLSA.header.lsType currentLSA.key areaID
    if currentLSA.header.lsAge = MAX_AGE ∧ found = none ∧
        answered.hasAnyNeighborInExchangeOrLoading = false then
      (answered, false)
    else
      match found with
      | none => (answered.acceptLSA react areaID p currentLSA none, false)
      | some lsaInDatabase =>
          if lsaInDatabase.lsa.header.isOlder currentLSA.header then
            if lsaInDatabase.source = .FLOODED ∧ lsaInDatabase.installTime < MIN_LS_ARRIVAL then
              (answered, false)
            else (answered.acceptLSA react areaID p currentLSA (some lsaInDatabase), false)
          else answered.rejectLSA react p currentLSA lsaInDatabase

/-- The LSAs of one array. -/
def processLSAs (areaID : AreaID) (p : ℕ) : Router B → List (LSA B) → Router B
  | st, [] => st
  | st, currentLSA :: lsas =>
      match st.processLSA react areaID p currentLSA with
      | (st', true) => st'
      | (st', false) => processLSAs areaID p st' lsas

end Router

structure LinkStateUpdatePacket (B : Type) where
  areaID : AreaID
  routerLSAs : List (LSA B)
  networkLSAs : List (LSA B)
  summaryLSAs : List (LSA B)
  asExternalLSAs : List (LSA B)

namespace Router

variable {B : Type} (react : Reaction B) (st : Router B)

def processUpdate (p : ℕ) (packet : LinkStateUpdatePacket B) : Router B :=
  if (st.neighborAt p).isExchanging then
    [packet.routerLSAs, packet.networkLSAs, packet.summaryLSAs, packet.asExternalLSAs].foldl
      (processLSAs react packet.areaID p) st
  else st

/-- One header of an acknowledgement from the neighbor at `p`. -/
def processHeader (p : ℕ) (lsaHeader : LSAHeader) : Router B :=
  let answered := st.answered p lsaHeader
  match (answered.neighborAt p).findOnRetransmissionList lsaHeader.key with
  | some lsaOnRetransmissionList =>
      if lsaHeader.isSame lsaOnRetransmissionList.header then
        answered.setNeighbor p ((answered.neighborAt p).removeFromRetransmissionList lsaHeader.key)
      else answered
  | none => answered

def processAcknowledgement (p : ℕ) (lsaHeaders : List LSAHeader) : Router B :=
  if (st.neighborAt p).isExchanging then lsaHeaders.foldl (fun st => st.processHeader p) st else st

end Router

end Inet.Ospf.Flooding
