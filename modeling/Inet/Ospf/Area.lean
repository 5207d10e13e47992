import Inet.Ipv4.Address

/-!
# An OSPF area

What the shortest path calculation works on: the database of Router- and Network-LSAs, the
interfaces with their neighbors, the back link check and the next hops. LSAs are compared by pointer
in the source, and here by themselves, as link state IDs are distinct.
-/

namespace Inet.Ospf

open Inet.Ipv4

abbrev RouterID : Type := IPv4Address

abbrev AreaID : Type := IPv4Address

abbrev LinkStateID : Type := IPv4Address

def MAX_AGE : ℕ := 3600

def LS_INFINITY : ℕ := 16777215

structure OSPFOptions where
  E_ExternalRoutingCapability : Bool
  MC_MulticastForwarding : Bool
  NP_Type7LSA : Bool
  EA_ForwardExternalLSAs : Bool
  DC_DemandCircuits : Bool
  deriving DecidableEq

structure OSPFLSAHeader where
  lsAge : ℕ
  lsOptions : OSPFOptions
  linkStateID : LinkStateID
  advertisingRouter : RouterID
  deriving DecidableEq

inductive LinkType where
  | POINTTOPOINT_LINK
  | TRANSIT_LINK
  | STUB_LINK
  | VIRTUAL_LINK
  deriving DecidableEq

/-- A link of a Router-LSA. `linkData` is an address, or the mask of a stub link. -/
structure Link where
  linkID : IPv4Address
  linkData : IPv4Address
  type : LinkType
  linkCost : ℕ
  deriving DecidableEq

structure RouterLSA where
  header : OSPFLSAHeader
  E_ASBoundaryRouter : Bool
  B_AreaBorderRouter : Bool
  links : List Link
  deriving DecidableEq

structure NetworkLSA where
  header : OSPFLSAHeader
  networkMask : IPv4Address
  attachedRouters : List RouterID
  deriving DecidableEq

/-- An `OSPFLSA` pointer to one of the two kinds; the type in the header is the constructor. -/
inductive OSPFLSA where
  | router (lsa : RouterLSA)
  | network (lsa : NetworkLSA)
  deriving DecidableEq

def OSPFLSA.header : OSPFLSA → OSPFLSAHeader
  | router lsa => lsa.header
  | network lsa => lsa.header

def OSPFLSA.isRouter : OSPFLSA → Bool
  | .router _ => true
  | .network _ => false

/-- The network's address. -/
def NetworkLSA.destinationID (networkLSA : NetworkLSA) : IPv4Address :=
  networkLSA.header.linkStateID &&& networkLSA.networkMask

structure NextHop where
  ifIndex : ℤ
  hopAddress : IPv4Address
  advertisingRouter : RouterID
  deriving DecidableEq

/-- What the calculation stores in an LSA of the database. -/
structure RoutingInfo where
  nextHops : List NextHop
  distance : ℕ
  parent : Option OSPFLSA

inductive OSPFInterfaceType where
  | UNKNOWN_TYPE
  | POINTTOPOINT
  | BROADCAST
  | NBMA
  | POINTTOMULTIPOINT
  | VIRTUAL
  deriving DecidableEq

inductive InterfaceStateType where
  | DOWN_STATE
  | LOOPBACK_STATE
  | WAITING_STATE
  | POINTTOPOINT_STATE
  | NOT_DESIGNATED_ROUTER_STATE
  | BACKUP_STATE
  | DESIGNATED_ROUTER_STATE
  deriving DecidableEq

/-- `LOOPBACK_STATE < state`. -/
def InterfaceStateType.isAboveLoopback : InterfaceStateType → Bool
  | DOWN_STATE => false
  | LOOPBACK_STATE => false
  | _ => true

structure Neighbor where
  neighborID : RouterID
  neighborIPAddress : IPv4Address

structure IPv4AddressRange where
  address : IPv4Address
  mask : IPv4Address
  deriving DecidableEq

/-- An `OSPF::Interface`. Of its designated router the address is used. -/
structure Interface where
  interfaceType : OSPFInterfaceType
  state : InterfaceStateType
  ifIndex : ℤ
  interfaceAddressRange : IPv4AddressRange
  neighboringRouters : List Neighbor
  designatedRouter : IPv4Address
  interfaceOutputCost : ℕ

namespace Interface

def getNeighborByID (intf : Interface) (neighborID : RouterID) : Option Neighbor :=
  intf.neighboringRouters.find? fun neighbor => neighbor.neighborID = neighborID

/-- `getNeighbor(0)`, if there is one. -/
def firstNeighbor (intf : Interface) : Option Neighbor := intf.neighboringRouters.head?

/-- A point-to-point interface, or a virtual one that is up. -/
def isPointToPoint (intf : Interface) : Bool :=
  decide (intf.interfaceType = .POINTTOPOINT) ||
    (decide (intf.interfaceType = .VIRTUAL) && intf.state.isAboveLoopback)

def isMultiAccess (intf : Interface) : Bool :=
  decide (intf.interfaceType = .BROADCAST) || decide (intf.interfaceType = .NBMA)

end Interface

/-- A link of `hasLink` from a router to a router. -/
def Link.isToRouter (link : Link) (linkStateID : LinkStateID) : Bool :=
  (decide (link.type = .POINTTOPOINT_LINK) || decide (link.type = .VIRTUAL_LINK)) &&
    decide (link.linkID = linkStateID)

/-- A transit link of `hasLink` from a router to a network. -/
def Link.isTransitTo (link : Link) (network : NetworkLSA) : Bool :=
  decide (link.type = .TRANSIT_LINK) && decide (link.linkID = network.header.linkStateID)

/-- A stub link that `hasLink` takes for a link to the network. -/
def Link.isStubOf (link : Link) (network : NetworkLSA) : Bool :=
  decide (link.type = .STUB_LINK) &&
    decide (link.linkID &&& link.linkData = network.header.linkStateID &&& network.networkMask)

structure HostRouteParameters where
  ifIndex : ℕ
  address : IPv4Address

/-- An area whose `spfTreeRoot`, the router's own LSA, is in the database. -/
structure Area where
  areaID : AreaID
  routerID : RouterID
  routerLSAs : List RouterLSA
  networkLSAs : List NetworkLSA
  spfTreeRoot : RouterLSA
  associatedInterfaces : List Interface
  hostRoutes : List HostRouteParameters
  /-- `routerLSAsByID`. -/
  routerIDs : (routerLSAs.map fun lsa => lsa.header.linkStateID).Nodup
  /-- `networkLSAsByID`. -/
  networkIDs : (networkLSAs.map fun lsa => lsa.header.linkStateID).Nodup
  root_mem : spfTreeRoot ∈ routerLSAs

namespace Area

def findRouterLSA (area : Area) (linkStateID : LinkStateID) : Option RouterLSA :=
  area.routerLSAs.find? fun lsa => lsa.header.linkStateID = linkStateID

def findNetworkLSA (area : Area) (linkStateID : LinkStateID) : Option NetworkLSA :=
  area.networkLSAs.find? fun lsa => lsa.header.linkStateID = linkStateID

/-- The root of the tree as a vertex. -/
def root (area : Area) : OSPFLSA := .router area.spfTreeRoot

def hasLink (fromLSA toLSA : OSPFLSA) : Bool :=
  match fromLSA, toLSA with
  | .router fromRouter, .router toRouter =>
      fromRouter.links.any fun link => link.isToRouter toRouter.header.linkStateID
  | .router fromRouter, .network toNetwork =>
      fromRouter.links.any fun link => link.isTransitTo toNetwork || link.isStubOf toNetwork
  | .network fromNetwork, .router toRouter =>
      decide (toRouter.header.linkStateID ∈ fromNetwork.attachedRouters)
  | .network _, .network _ => false

/-- Next hops from the root to a neighboring router: the first interface on which it is the
neighbor. -/
def routerHops (area : Area) (destination : RouterLSA) : List Interface → List NextHop
  | [] => []
  | intf :: interfaces =>
      let ptpNeighbor := intf.firstNeighbor.filter fun neighbor =>
        intf.isPointToPoint && decide (neighbor.neighborID = destination.header.linkStateID)
      match ptpNeighbor with
      | some neighbor =>
          [⟨intf.ifIndex, neighbor.neighborIPAddress, destination.header.advertisingRouter⟩]
      | none =>
          if intf.interfaceType = .POINTTOMULTIPOINT ∧
              (intf.getNeighborByID destination.header.linkStateID).isSome then
            (destination.links.filter fun link => link.linkID = area.routerID).map fun link =>
              ⟨intf.ifIndex, link.linkData, destination.header.advertisingRouter⟩
          else routerHops area destination interfaces

/-- Next hops from the root to a network it is attached to. -/
def networkHops (area : Area) (destination : NetworkLSA) : List NextHop :=
  (area.associatedInterfaces.filter fun intf =>
    intf.isMultiAccess && decide (intf.designatedRouter = destination.header.linkStateID)).map
      fun intf => ⟨intf.ifIndex, IPv4Address.UNSPECIFIED_ADDRESS,
        destination.header.advertisingRouter⟩

/-- The next hops that a link of a router behind a network that the root is attached to gives. -/
def attachedLinkHops (area : Area) (network : NetworkLSA) (destination : RouterLSA) (link : Link) :
    List NextHop :=
  if link.isTransitTo network || link.isStubOf network then
    area.associatedInterfaces.filterMap fun intf =>
      if intf.isMultiAccess && decide (intf.designatedRouter = network.header.linkStateID) then
        (intf.getNeighborByID destination.header.linkStateID).map fun neighbor =>
          ⟨intf.ifIndex, neighbor.neighborIPAddress, destination.header.advertisingRouter⟩
      else none
  else []

/-- `calculateNextHops` for a vertex: its next hops through `parent`. -/
def calculateNextHops (area : Area) (info : OSPFLSA → RoutingInfo) (destination parent : OSPFLSA) :
    List NextHop :=
  match parent with
  | .router routerLSA =>
      if routerLSA ≠ area.spfTreeRoot then (info parent).nextHops
      else
        match destination with
        | .router destinationRouter =>
            area.routerHops destinationRouter area.associatedInterfaces
        | .network destinationNetwork => area.networkHops destinationNetwork
  | .network networkLSA =>
      if (info parent).parent ≠ some area.root then (info parent).nextHops
      else
        match destination with
        | .router destinationRouter =>
            destinationRouter.links.flatMap (area.attachedLinkHops networkLSA destinationRouter)
        | .network _ => []

def isSameNetwork (address1 mask1 address2 mask2 : IPv4Address) : Bool :=
  decide (mask1 = mask2) && decide (address1 &&& mask1 = address2 &&& mask2)

/-- The next hop that an interface of the root gives for one of the root's own links, with which
the search over the interfaces ends. -/
def linkHop (area : Area) (destination : Link) (intf : Interface) : Option NextHop :=
  let ptpNeighbor := intf.firstNeighbor.filter fun neighbor => intf.isPointToPoint &&
    ((decide (neighbor.neighborIPAddress ≠ 0) &&
        decide (neighbor.neighborIPAddress = destination.linkID)) ||
      (decide (neighbor.neighborIPAddress = 0) &&
        decide (intf.interfaceAddressRange.address = destination.linkID) &&
        decide (intf.interfaceAddressRange.mask = destination.linkData)))
  match ptpNeighbor with
  | some neighbor => some ⟨intf.ifIndex, neighbor.neighborIPAddress, area.routerID⟩
  | none =>
      if intf.isMultiAccess && isSameNetwork destination.linkID destination.linkData
          intf.interfaceAddressRange.address intf.interfaceAddressRange.mask then
        some ⟨intf.ifIndex, IPv4Address.UNSPECIFIED_ADDRESS, area.routerID⟩
      else if intf.interfaceType = .POINTTOMULTIPOINT then
        if destination.type = .STUB_LINK ∧
            destination.linkID = intf.interfaceAddressRange.address then
          some ⟨intf.ifIndex, intf.interfaceAddressRange.address, area.routerID⟩
        else if destination.type = .POINTTOPOINT_LINK then
          (intf.getNeighborByID destination.linkID).map fun neighbor =>
            ⟨intf.ifIndex, neighbor.neighborIPAddress, area.routerID⟩
        else none
      else none

/-- The next hop to a host route of the root. -/
def hostHop (area : Area) (destination : Link) : Option NextHop :=
  (area.hostRoutes.find? fun hostRoute => decide (destination.linkID = hostRoute.address) &&
    decide (destination.linkData = IPv4Address.ALLONES_ADDRESS)).map fun hostRoute =>
      ⟨hostRoute.ifIndex, hostRoute.address, area.routerID⟩

/-- `calculateNextHops` for a link of the router `parent`. -/
def calculateLinkNextHops (area : Area) (info : OSPFLSA → RoutingInfo) (destination : Link)
    (parent : RouterLSA) : List NextHop :=
  if parent ≠ area.spfTreeRoot then (info (.router parent)).nextHops
  else
    match area.associatedInterfaces.findSome? (area.linkHop destination) with
    | some hop => [hop]
    | none => (area.hostHop destination).toList

end Area

end Inet.Ospf
