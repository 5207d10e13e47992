import Inet.Ospf.Area

/-!
# The shortest path tree of an area

`Area::calculateShortestPathTree` with `spfTreeRoot` set: the loop that puts one vertex after
another on the tree, with the table entries that it makes, and the pass over the stub links. `Spf`
holds the local variables and the routing information stored in the LSAs; the relaxation, written
out twice in the source, is `joinVertex`. Virtual links are left out.
-/

namespace Inet.Ospf

open Inet.Ipv4

inductive RoutingPathType where
  | INTRAAREA
  | INTERAREA
  | TYPE1_EXTERNAL
  | TYPE2_EXTERNAL
  deriving DecidableEq

def NETWORK_DESTINATION : ℕ := 0

def AREA_BORDER_ROUTER_DESTINATION : ℕ := 1

def AS_BOUNDARY_ROUTER_DESTINATION : ℕ := 2

structure RoutingTableEntry where
  destination : IPv4Address
  netmask : IPv4Address
  destinationType : ℕ
  optionalCapabilities : OSPFOptions
  area : AreaID
  pathType : RoutingPathType
  cost : ℕ
  linkStateOrigin : OSPFLSA
  nextHops : List NextHop
  deriving DecidableEq

structure Spf where
  treeVertices : List OSPFLSA
  candidateVertices : List OSPFLSA
  justAddedVertex : OSPFLSA
  info : OSPFLSA → RoutingInfo
  newRoutingTable : List RoutingTableEntry

namespace Area

variable (area : Area)

/-- The vertex is a candidate at the given cost, through the vertex just added. -/
def joinVertex (st : Spf) (linkStateCost : ℕ) (joiningVertex : OSPFLSA) : Spf :=
  let newNextHops := area.calculateNextHops st.info joiningVertex st.justAddedVertex
  let old := st.info joiningVertex
  if joiningVertex ∈ st.treeVertices then st
  else if joiningVertex ∈ st.candidateVertices then
    if old.distance < linkStateCost then st
    else
      { st with
        info := Function.update st.info joiningVertex (if linkStateCost < old.distance then
            { old with distance := linkStateCost, nextHops := newNextHops }
          else { old with nextHops := old.nextHops ++ newNextHops }) }
  else
    { st with
      info := Function.update st.info joiningVertex
        ⟨old.nextHops ++ newNextHops, linkStateCost, some st.justAddedVertex⟩
      candidateVertices := st.candidateVertices ++ [joiningVertex] }

/-- The joining vertex of a link, if it is in the database. -/
def joiningVertex (link : Link) : Option OSPFLSA :=
  match link.type with
  | .STUB_LINK => none
  | .TRANSIT_LINK => (area.findNetworkLSA link.linkID).map .network
  | _ => (area.findRouterLSA link.linkID).map .router

/-- The check on a joining vertex: not at maximum age, and it links back. -/
def isUsable (joiningVertex justAddedVertex : OSPFLSA) : Bool :=
  decide (joiningVertex.header.lsAge ≠ MAX_AGE) && hasLink joiningVertex justAddedVertex

def processLink (routerVertex : RouterLSA) (st : Spf) (link : Link) : Spf :=
  match area.joiningVertex link with
  | none => st
  | some joiningVertex =>
      if isUsable joiningVertex st.justAddedVertex then
        area.joinVertex st ((st.info (.router routerVertex)).distance + link.linkCost) joiningVertex
      else st

/-- The cost from a network to a router is 0. -/
def processAttachedRouter (networkVertex : NetworkLSA) (st : Spf) (attachedRouter : RouterID) : Spf :=
  match area.findRouterLSA attachedRouter with
  | none => st
  | some joiningVertex =>
      if isUsable (.router joiningVertex) st.justAddedVertex then
        area.joinVertex st (st.info (.network networkVertex)).distance (.router joiningVertex)
      else st

def processVertex (st : Spf) : Spf :=
  match st.justAddedVertex with
  | .router routerVertex => routerVertex.links.foldl (area.processLink routerVertex) st
  | .network networkVertex =>
      networkVertex.attachedRouters.foldl (area.processAttachedRouter networkVertex) st

/-- One round of the search for the closest candidate; on a tie a network is preferred. -/
def closer (info : OSPFLSA → RoutingInfo) (best : OSPFLSA × ℕ) (candidate : OSPFLSA) : OSPFLSA × ℕ :=
  if (info candidate).distance < best.2 then (candidate, (info candidate).distance)
  else if (info candidate).distance = best.2 ∧ best.1.isRouter = true ∧
      candidate.isRouter = false then
    (candidate, best.2)
  else best

def closestVertex (info : OSPFLSA → RoutingInfo) (candidates : List OSPFLSA) : Option OSPFLSA :=
  match candidates with
  | [] => none
  | first :: _ => some (candidates.foldl (closer info) (first, LS_INFINITY)).1

/-! ## The routing table -/

/-- The entry for a router that is an area border router or an AS boundary router. -/
def routerEntry (info : OSPFLSA → RoutingInfo) (routerLSA : RouterLSA) : RoutingTableEntry where
  destination := routerLSA.header.linkStateID
  netmask := IPv4Address.ALLONES_ADDRESS
  destinationType := NETWORK_DESTINATION |||
    (if routerLSA.B_AreaBorderRouter then AREA_BORDER_ROUTER_DESTINATION else 0) |||
    (if routerLSA.E_ASBoundaryRouter then AS_BOUNDARY_ROUTER_DESTINATION else 0)
  optionalCapabilities := routerLSA.header.lsOptions
  area := area.areaID
  pathType := .INTRAAREA
  cost := (info (.router routerLSA)).distance
  linkStateOrigin := .router routerLSA
  nextHops := (info (.router routerLSA)).nextHops

/-- One round of the search for an entry: the masked destination of the best match so far, and its
index. -/
def betterMatch (destinationID : IPv4Address) (best : IPv4Address × Option ℕ)
    (indexed : RoutingTableEntry × ℕ) : IPv4Address × Option ℕ :=
  let entry := indexed.1
  if entry.destinationType = NETWORK_DESTINATION ∧
      entry.destination &&& entry.netmask = destinationID &&& entry.netmask ∧
      best.1 < destinationID &&& entry.netmask then
    (destinationID &&& entry.netmask, some indexed.2)
  else best

/-- The index of the entry that is taken for one to the same destination. -/
def findEntry (table : List RoutingTableEntry) (destinationID : IPv4Address) : Option ℕ :=
  (table.zipIdx.foldl (betterMatch destinationID) (0, none)).2

/-- A new entry for a network. -/
def networkEntry (info : OSPFLSA → RoutingInfo) (networkLSA : NetworkLSA) : RoutingTableEntry where
  destination := networkLSA.destinationID
  netmask := networkLSA.networkMask
  destinationType := NETWORK_DESTINATION
  optionalCapabilities := networkLSA.header.lsOptions
  area := area.areaID
  pathType := .INTRAAREA
  cost := (info (.network networkLSA)).distance
  linkStateOrigin := .network networkLSA
  nextHops := (info (.network networkLSA)).nextHops

/-- The entry for a network is added, or it overwrites the one that was found, except for the next
hops, which are appended. -/
def addNetwork (info : OSPFLSA → RoutingInfo) (table : List RoutingTableEntry)
    (networkLSA : NetworkLSA) : List RoutingTableEntry :=
  match findEntry table (networkLSA.destinationID) with
  | none => table ++ [area.networkEntry info networkLSA]
  | some i => table.modify i fun entry =>
      if entry.cost ≠ (info (.network networkLSA)).distance ∨
          networkLSA.header.linkStateID ≤ entry.linkStateOrigin.header.linkStateID then
        { area.networkEntry info networkLSA with
          nextHops := entry.nextHops ++ (info (.network networkLSA)).nextHops }
      else entry

/-- What a vertex adds to the table when it joins the tree. -/
def addEntry (info : OSPFLSA → RoutingInfo) (table : List RoutingTableEntry) (vertex : OSPFLSA) :
    List RoutingTableEntry :=
  match vertex with
  | .router routerLSA =>
      if routerLSA.B_AreaBorderRouter || routerLSA.E_ASBoundaryRouter then
        table ++ [area.routerEntry info routerLSA]
      else table
  | .network networkLSA => area.addNetwork info table networkLSA

def addVertex (st : Spf) (closestVertex : OSPFLSA) : Spf :=
  { st with
    treeVertices := st.treeVertices ++ [closestVertex]
    candidateVertices := st.candidateVertices.erase closestVertex
    justAddedVertex := closestVertex
    newRoutingTable := area.addEntry st.info st.newRoutingTable closestVertex }

/-- At most `fuel` rounds of the loop. -/
def spfLoop : ℕ → Spf → Option Spf
  | 0, _ => none
  | fuel + 1, st =>
      let processed := area.processVertex st
      match closestVertex processed.info processed.candidateVertices with
      | none => some processed
      | some closest => spfLoop fuel (area.addVertex processed closest)

/-- The state in front of the loop: next hops are cleared, and the root has distance 0. -/
def initialSpf (info : OSPFLSA → RoutingInfo) (newRoutingTable : List RoutingTableEntry) : Spf where
  treeVertices := [area.root]
  candidateVertices := []
  justAddedVertex := area.root
  info := Function.update (fun vertex => { info vertex with nextHops := [] }) area.root
    { info area.root with nextHops := [], distance := 0 }
  newRoutingTable := newRoutingTable

/-- A new entry for a stub link. -/
def stubEntry (info : OSPFLSA → RoutingInfo) (routerVertex : RouterLSA) (link : Link) :
    RoutingTableEntry where
  destination := link.linkID &&& link.linkData
  netmask := link.linkData
  destinationType := NETWORK_DESTINATION
  optionalCapabilities := routerVertex.header.lsOptions
  area := area.areaID
  pathType := .INTRAAREA
  cost := (info (.router routerVertex)).distance + link.linkCost
  linkStateOrigin := .router routerVertex
  nextHops := area.calculateLinkNextHops info link routerVertex

/-- What a stub link does to the entry found for it. -/
def updateStubEntry (info : OSPFLSA → RoutingInfo) (routerVertex : RouterLSA) (link : Link)
    (entry : RoutingTableEntry) : RoutingTableEntry :=
  let distance := (info (.router routerVertex)).distance + link.linkCost
  let newNextHops := area.calculateLinkNextHops info link routerVertex
  if entry.cost < distance then entry
  else if distance < entry.cost then
    { entry with cost := distance, linkStateOrigin := .router routerVertex, nextHops := newNextHops }
  else
    { entry with
      linkStateOrigin :=
        if entry.linkStateOrigin.header.linkStateID < routerVertex.header.linkStateID then
          .router routerVertex
        else entry.linkStateOrigin
      nextHops := entry.nextHops ++ newNextHops }

def addStubLink (info : OSPFLSA → RoutingInfo) (routerVertex : RouterLSA)
    (table : List RoutingTableEntry) (link : Link) : List RoutingTableEntry :=
  if link.type ≠ .STUB_LINK then table
  else
    match findEntry table (link.linkID &&& link.linkData) with
    | none => table ++ [area.stubEntry info routerVertex link]
    | some i => table.modify i (area.updateStubEntry info routerVertex link)

def addStubLinks (info : OSPFLSA → RoutingInfo) (table : List RoutingTableEntry) (vertex : OSPFLSA) :
    List RoutingTableEntry :=
  match vertex with
  | .router routerVertex => routerVertex.links.foldl (area.addStubLink info routerVertex) table
  | .network _ => table

/-- The pass over the routers on the tree. -/
def addAllStubLinks (st : Spf) : Spf :=
  { st with
    newRoutingTable := st.treeVertices.foldl (area.addStubLinks st.info) st.newRoutingTable }

/-- `calculateShortestPathTree`, if `fuel` rounds of its loop are enough. -/
def calculateShortestPathTree (fuel : ℕ) (info : OSPFLSA → RoutingInfo)
    (newRoutingTable : List RoutingTableEntry) : Option Spf :=
  (area.spfLoop fuel (area.initialSpf info newRoutingTable)).map area.addAllStubLinks

end Area

end Inet.Ospf
