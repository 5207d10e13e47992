import Inet.Ipv4.TableCalls

/-!
# RIP

`RIPRouting` with the routing table of its router, which notifies the module of every route added,
changed or deleted; a notification of the module's own route changes nothing and is left out. A
route's source is its type: `RIP`, or `IFACENETMASK` for an interface. An update may come at any
time.
-/

namespace Inet.Rip

open Ipv4

def RIP_INFINITE_METRIC : ℕ := 16

def RIP_AF_NONE : ℕ := 0

def RIP_AF_INET : ℕ := 2

def RIP_REQUEST : ℕ := 1

def RIP_RESPONSE : ℕ := 2

structure RIPEntry where
  addressFamilyId : ℕ
  routeTag : ℕ
  address : IPv4Address
  prefixLength : ℤ
  nextHop : IPv4Address
  metric : ℕ

structure RIPPacket where
  command : ℕ
  entries : List RIPEntry

structure UDPDataIndication where
  srcAddr : IPv4Address
  srcPort : ℕ
  interfaceId : ℕ

inductive RouteType where
  | RIP_ROUTE_RTE
  | RIP_ROUTE_STATIC
  | RIP_ROUTE_DEFAULT
  | RIP_ROUTE_REDISTRIBUTE
  | RIP_ROUTE_INTERFACE
  deriving DecidableEq

/-- A `RIPRoute`; `id` stands for the pointer, and `route` points to the route in the table. -/
structure RIPRoute where
  id : ℕ
  type : RouteType
  route : Option ℕ
  dest : IPv4Address
  prefixLength : ℤ
  nextHop : IPv4Address
  ie : Option ℕ
  fromAddr : IPv4Address
  metric : ℕ
  tag : ℕ
  changed : Bool
  lastUpdateTime : ℤ

inductive RIPMode where
  | NO_RIP
  | NO_SPLIT_HORIZON
  | SPLIT_HORIZON
  | SPLIT_HORIZON_POISONED_REVERSE
  deriving DecidableEq

/-- `configure` throws for a metric that is out of bounds. -/
structure RIPInterfaceEntry where
  ie : ℕ
  mtu : ℤ
  metric : ℕ
  mode : RIPMode
  metric_pos : 1 ≤ metric
  metric_lt : metric < RIP_INFINITE_METRIC

inductive Mode where
  | RIPv2
  | RIPng
  deriving DecidableEq

structure RIPRouting where
  mode : Mode
  ripUdpPort : ℕ
  routeExpiryTime : ℤ
  routePurgeTime : ℤ
  ripInterfaces : List RIPInterfaceEntry
  ripRoutes : List RIPRoute
  rt : RoutingTable
  /-- The next fresh pointer to a `RIPRoute`. -/
  nextId : ℕ

/-- A packet handed to the socket: to an address, or to all routers on an interface. -/
structure Sent where
  address : Option IPv4Address
  outInterface : Option ℕ
  packet : RIPPacket

def isMulticast (addr : IPv4Address) : Bool := decide (addr &&& 0xF0000000 = 0xE0000000)

def isUnicast (addr : IPv4Address) : Bool := !isMulticast addr && decide (addr ≠ 0xFFFFFFFF)

/-- `InterfaceTable::isNeighborAddress`: the first interface on the address's network decides. -/
def isNeighborAddress (interfaces : List InterfaceEntry) (address : IPv4Address) : Bool :=
  if address.isUnspecified then false
  else
    match interfaces.filterMap InterfaceEntry.ipv4Data |>.find? fun data =>
      decide (IPv4Address.maskedAddrAreEqual address data.inetAddr data.netmask) with
    | some data => decide (address ≠ data.inetAddr)
    | none => false

def makeNetmask (length : ℤ) : Except SimError IPv4Address :=
  if length < 0 ∨ 32 < length then
    .error (.runtimeError ("IPv4Address: wrong netmask length " ++ toString length ++
      " (not in 0..32)"))
  else .ok (IPv4Address.makeNetmask length.toNat)

def assert (condition : Bool) (text : String) : Except SimError Unit :=
  if condition then .ok () else .error (.assertion text)

namespace RIPRoute

/-- The prefix of the route. -/
def key (r : RIPRoute) : IPv4Address × ℤ := (r.dest, r.prefixLength)

/-- What `invalidateRoute` does to a `RIPRoute` without a route in the table. -/
def invalidated (r : RIPRoute) : RIPRoute :=
  { r with route := none, metric := RIP_INFINITE_METRIC, changed := true }

end RIPRoute

namespace RIPRouting

variable (st : RIPRouting)

def findInterfaceById (interfaceId : ℕ) : Option RIPInterfaceEntry :=
  st.ripInterfaces.find? fun e => e.ie = interfaceId

def findRoute (destination : IPv4Address) (prefixLength : ℤ) : Option RIPRoute :=
  st.ripRoutes.find? fun r => r.dest = destination ∧ r.prefixLength = prefixLength

/-- The `RIPRoute` for a route of the table. -/
def findByRoute (route : ℕ) : Option RIPRoute := st.ripRoutes.find? fun r => r.route = some route

/-- The `RIPRoute` of a type on an interface. -/
def findByInterface (ie : ℕ) (type : RouteType) : Option RIPRoute :=
  st.ripRoutes.find? fun r => r.type = type ∧ r.ie = some ie

/-- A `RIPRoute`'s pointer into the table. -/
def routeOf (id : ℕ) : Option ℕ := (st.ripRoutes.find? fun r => r.id = id).bind RIPRoute.route

def getInterfaceMetric (ie : ℕ) : ℕ := ((st.findInterfaceById ie).map (·.metric)).getD 1

def isLoopback (ie : Option ℕ) : Bool :=
  st.rt.interfaces.any fun entry => entry.loopback && decide (ie = some entry.interfaceId)

def isLoopbackInterfaceRoute (route : IPv4Route) : Bool := st.isLoopback route.interfacePtr

def isLocalInterfaceRoute (route : IPv4Route) : Bool :=
  decide (route.sourceType = .IFACENETMASK) && !st.isLoopback route.interfacePtr

/-- `NF_IPv4_ROUTE_DELETED` for a route of another module. -/
def routeDeleted (route : ℕ) : RIPRouting :=
  { st with ripRoutes := st.ripRoutes.map fun r =>
      if r.route = some route then r.invalidated else r }

/-- The notification, where the route is not one of this module. -/
def notifyDeleted (route : IPv4Route) : RIPRouting :=
  if route.sourceType = .RIP then st else st.routeDeleted route.id

/-- `deleteRoute`; a pointer that is not in the table is ignored. -/
def deleteRoute (route : ℕ) : RIPRouting :=
  match st.rt.routes.find? fun entry => entry.id = route with
  | none => st
  | some entry => { st with rt := st.rt.deleteRoute route }.notifyDeleted entry

/-- The notification of the default route that has been replaced. -/
def notifyReplaced (old : Option IPv4Route) : RIPRouting :=
  match old with
  | none => st
  | some route => st.notifyDeleted route

/-- `rt->addRoute`, and the pointer to the new route. -/
def rtAddRoute (entry : IPv4Route) : Except SimError (RIPRouting × ℕ) := do
  let old := st.rt.replacedDefault entry.netmask
  let rt ← st.rt.addRoute entry
  return ({ st with rt := rt }.notifyReplaced old, st.rt.nextId)

/-- A setter of a route in the table. -/
def setField (id : ℕ) (change : IPv4Route.Change) : Except SimError RIPRouting := do
  let old := st.rt.readdedDefault id change
  let rt ← st.rt.setField id change
  return { st with rt := rt }.notifyReplaced old

/-- A setter of the `RIPRoute`. -/
def modify (id : ℕ) (f : RIPRoute → RIPRoute) : RIPRouting :=
  { st with ripRoutes := st.ripRoutes.map fun r => if r.id = id then f r else r }

/-- A setter of a `RIPRoute` that is learned writes the value to its route in the table too. -/
def writeThrough (id : ℕ) (change : IPv4Route.Change) : Except SimError RIPRouting :=
  match st.ripRoutes.find? fun r => r.id = id ∧ r.type = .RIP_ROUTE_RTE with
  | none => .ok st
  | some r =>
      match r.route with
      | none => .ok st
      | some route =>
          if st.rt.routes.any fun entry => entry.id = route then st.setField route change
          else .error (.undefinedBehavior "dangling pointer to an IPv4Route")

def setInterface (id ie : ℕ) : Except SimError RIPRouting :=
  (st.modify id fun r => { r with ie := some ie }).writeThrough id (.interfacePtr (some ie))

def setMetric (id metric : ℕ) : Except SimError RIPRouting :=
  (st.modify id fun r => { r with metric := metric }).writeThrough id (.metric metric)

def setNextHop (id : ℕ) (nextHop : IPv4Address) : Except SimError RIPRouting :=
  (st.modify id fun r => { r with nextHop := nextHop }).writeThrough id (.gateway nextHop)

def setRoute (id : ℕ) (route : Option ℕ) : RIPRouting :=
  st.modify id fun r => { r with route := route }

/-- The route that `addRoute` adds to the table. -/
def ripRoute (dest netmask nextHop : IPv4Address) (ie metric : ℕ) : IPv4Route where
  id := 0
  dest := dest
  netmask := netmask
  gateway := nextHop
  interfacePtr := some ie
  sourceType := .RIP
  adminDist := 255
  metric := metric
  expiryTime := 0

/-- The private `addRoute`, which adds a route to the table. -/
def addIPv4Route (dest : IPv4Address) (prefixLength : ℤ) (ie : ℕ) (nextHop : IPv4Address)
    (metric : ℕ) : Except SimError (RIPRouting × ℕ) := do
  let netmask ← makeNetmask prefixLength
  st.rtAddRoute (ripRoute dest netmask nextHop ie metric)

/-- What `invalidateRoute` and `purgeRoute` begin with: the route is deleted from the table. -/
def deleteRouteOf (id : ℕ) : RIPRouting :=
  match st.routeOf id with
  | none => st
  | some route => (st.setRoute id none).deleteRoute route

def invalidateRoute (id : ℕ) : RIPRouting :=
  (st.deleteRouteOf id).modify id fun r =>
    { r with metric := RIP_INFINITE_METRIC, changed := true }

def purgeRoute (id : ℕ) : RIPRouting :=
  { st.deleteRouteOf id with
    ripRoutes := (st.deleteRouteOf id).ripRoutes.filter fun r => r.id ≠ id }

/-- How `checkRouteIsExpired` ends. -/
inductive Expiry where
  | valid
  | expired
  | purged
  deriving DecidableEq

def expiry (r : RIPRoute) : Expiry :=
  if r.type = .RIP_ROUTE_RTE then
    if r.lastUpdateTime + st.routeExpiryTime + st.routePurgeTime ≤ st.rt.now then .purged
    else if r.lastUpdateTime + st.routeExpiryTime ≤ st.rt.now then .expired
    else .valid
  else .valid

/-- `invalidateRoutes`, for an interface. -/
def invalidateRoutes (ie : ℕ) : RIPRouting :=
  (st.ripRoutes.filter fun r => r.ie = some ie).foldl (fun st r => st.invalidateRoute r.id) st

/-- The metric that is announced on the interface, unless split horizon leaves out the route. -/
def announcedMetric (ripInterface : RIPInterfaceEntry) (r : RIPRoute) : Option ℕ :=
  if r.ie = some ripInterface.ie then
    match ripInterface.mode with
    | .SPLIT_HORIZON => none
    | .SPLIT_HORIZON_POISONED_REVERSE => some RIP_INFINITE_METRIC
    | _ => some r.metric
  else some r.metric

def fillEntry (r : RIPRoute) (metric : ℕ) : RIPEntry where
  addressFamilyId := RIP_AF_INET
  routeTag := r.tag
  address := r.dest
  prefixLength := r.prefixLength
  nextHop := IPv4Address.UNSPECIFIED_ADDRESS
  metric := metric

/-- The entry for a valid route, if there is one. -/
def announce (ripInterface : RIPInterfaceEntry) (changedOnly : Bool) (r : RIPRoute) :
    Option RIPEntry :=
  if changedOnly && !r.changed then none
  else (announcedMetric ripInterface r).map (fillEntry r)

/-- The loop of `sendRoutes` over the routes from the iterator on. A route that is purged is erased
under the iterator, which then passes over the next one, or runs past the end. -/
def sendLoop (ripInterface : RIPInterfaceEntry) (changedOnly : Bool) :
    List RIPRoute → RIPRouting → Except SimError (RIPRouting × List RIPEntry)
  | [], st => .ok (st, [])
  | [r], st =>
      match st.expiry r with
      | .valid => .ok (st, (announce ripInterface changedOnly r).toList)
      | .expired => .ok (st.invalidateRoute r.id, [])
      | .purged => .error (.undefinedBehavior "iterator behind the end of ripRoutes")
  | r :: next :: rest, st =>
      match st.expiry r with
      | .valid => do
          let (st, entries) ← sendLoop ripInterface changedOnly (next :: rest) st
          return (st, (announce ripInterface changedOnly r).toList ++ entries)
      | .expired => sendLoop ripInterface changedOnly (next :: rest) (st.invalidateRoute r.id)
      | .purged => sendLoop ripInterface changedOnly rest (st.purgeRoute r.id)

def maxEntries (ripInterface : RIPInterfaceEntry) : ℤ :=
  match st.mode with
  | .RIPv2 => 25
  | .RIPng => (ripInterface.mtu - 40 - 8 - 4).tdiv 20

/-- The entries in packets of at most `maxEntries`, of which there must be room for one. -/
def fillPackets (maxEntries : ℤ) (entries : List RIPEntry) : Except SimError (List RIPPacket) :=
  if entries = [] then .ok []
  else if maxEntries < 1 then .error (.runtimeError "Array of size 0 indexed by 0")
  else .ok ((entries.toChunks maxEntries.toNat).map fun chunk => ⟨RIP_RESPONSE, chunk⟩)

/-- `sendRoutes`. To all routers the packets go out on the interface. -/
def sendRoutes (address : Option IPv4Address) (ripInterface : RIPInterfaceEntry)
    (changedOnly : Bool) : Except SimError (RIPRouting × List Sent) := do
  let (st', entries) ← sendLoop ripInterface changedOnly st.ripRoutes st
  let packets ← fillPackets (st.maxEntries ripInterface) entries
  let outInterface := if address.isNone then some ripInterface.ie else none
  return (st', packets.map fun packet => ⟨address, outInterface, packet⟩)

/-- The loop of `processUpdate` over the interfaces. -/
def updateLoop (triggered : Bool) :
    List RIPInterfaceEntry → RIPRouting → Except SimError (RIPRouting × List Sent)
  | [], st => .ok (st, [])
  | ripInterface :: rest, st =>
      if ripInterface.mode = .NO_RIP then updateLoop triggered rest st
      else do
        let (st, sent) ← st.sendRoutes none ripInterface triggered
        let (st, more) ← updateLoop triggered rest st
        return (st, sent ++ more)

def processUpdate (triggered : Bool) : Except SimError (RIPRouting × List Sent) := do
  let (st, sent) ← updateLoop triggered st.ripInterfaces st
  return ({ st with ripRoutes := st.ripRoutes.map fun r => { r with changed := false } }, sent)

/-- The loop of `processRequest`: the entries filled in, or the request for the whole table. -/
def answer (numEntries : ℕ) : List RIPEntry → Except SimError (Option (List RIPEntry))
  | [] => .ok (some [])
  | entry :: rest =>
      if entry.addressFamilyId = RIP_AF_NONE then
        if numEntries = 1 ∧ entry.metric = RIP_INFINITE_METRIC then .ok none
        else .error (.runtimeError "RIP: invalid request.")
      else if entry.addressFamilyId = RIP_AF_INET then do
        let found := st.findRoute entry.address entry.prefixLength
        let metric := (found.map RIPRoute.metric).getD RIP_INFINITE_METRIC
        return (← answer numEntries rest).map ({ entry with metric := metric } :: ·)
      else
        .error (.runtimeError ("RIP: request has invalid addressFamilyId: " ++
          toString entry.addressFamilyId ++ "."))

def processRequest (packet : RIPPacket) (ctrlInfo : UDPDataIndication) :
    Except SimError (RIPRouting × List Sent) := do
  if packet.entries = [] then return (st, [])
  match ← st.answer packet.entries.length packet.entries with
  | some entries => return (st, [⟨some ctrlInfo.srcAddr, none, ⟨RIP_RESPONSE, entries⟩⟩])
  | none =>
      match st.findInterfaceById ctrlInfo.interfaceId with
      | some ripInterface => st.sendRoutes (some ctrlInfo.srcAddr) ripInterface false
      | none => return (st, [])

/-- `isValidResponse`, and the routing table, which may fill its cache of local addresses. RIPng
takes no source address to be link-local. -/
def isValidResponse (packet : RIPPacket) (ctrlInfo : UDPDataIndication) :
    Except SimError (RIPRouting × Bool) := do
  if ctrlInfo.srcPort ≠ st.ripUdpPort then return (st, false)
  let (rt, ownAddress) ← st.rt.isLocalAddress ctrlInfo.srcAddr
  let st := { st with rt := rt }
  if ownAddress || decide (st.mode = .RIPng) ||
      !isNeighborAddress st.rt.interfaces ctrlInfo.srcAddr then
    return (st, false)
  return (st, packet.entries.all fun entry => decide (1 ≤ entry.metric) &&
    decide (entry.metric ≤ RIP_INFINITE_METRIC) && isUnicast entry.address)

/-- `addRoute`: a new learned route. -/
def addRoute (dest : IPv4Address) (prefixLength : ℤ) (ie : ℕ) (nextHop : IPv4Address)
    (metric routeTag : ℕ) (fromAddr : IPv4Address) : Except SimError RIPRouting := do
  let (st, route) ← st.addIPv4Route dest prefixLength ie nextHop metric
  let netmask ← makeNetmask prefixLength
  return { st with
    ripRoutes := st.ripRoutes ++ [
      { id := st.nextId
        type := .RIP_ROUTE_RTE
        route := some route
        dest := dest
        prefixLength := netmask.getNetmaskLength
        nextHop := nextHop
        ie := some ie
        fromAddr := fromAddr
        metric := metric
        tag := routeTag
        changed := true
        lastUpdateTime := st.rt.now }]
    nextId := st.nextId + 1 }

/-- The part of `updateRoute` for a `RIPRoute` that was invalid and becomes valid. -/
def revive (r : RIPRoute) (ie : ℕ) (nextHop : IPv4Address) (metric : ℕ) :
    Except SimError RIPRouting := do
  assert (st.routeOf r.id).isNone "!ripRoute->getRoute()"
  let st := st.modify r.id fun r => { r with type := .RIP_ROUTE_RTE }
  let st ← st.setNextHop r.id nextHop
  let (st, route) ← st.addIPv4Route r.dest r.prefixLength ie nextHop metric
  return st.setRoute r.id (some route)

/-- The part of `updateRoute` for a `RIPRoute` that was valid. -/
def replaceRoute (r : RIPRoute) (ie : ℕ) (nextHop : IPv4Address) (metric : ℕ) :
    Except SimError RIPRouting := do
  match st.routeOf r.id with
  | none => .error (.assertion "route")
  | some route => do
      let st ← ((st.setRoute r.id none).deleteRoute route).setNextHop r.id nextHop
      if metric < RIP_INFINITE_METRIC then do
        let (st, route) ← st.addIPv4Route r.dest r.prefixLength ie nextHop metric
        return st.setRoute r.id (some route)
      else return st

/-- The setters that `updateRoute` begins with. -/
def adopt (id ie metric routeTag : ℕ) (fromAddr : IPv4Address) : Except SimError RIPRouting := do
  let st ← st.setInterface id ie
  let st ← st.setMetric id metric
  return st.modify id fun r => { r with fromAddr := fromAddr, tag := routeTag }

def updateRoute (r : RIPRoute) (ie : ℕ) (nextHop : IPv4Address) (metric routeTag : ℕ)
    (fromAddr : IPv4Address) : Except SimError RIPRouting := do
  let st ← st.adopt r.id ie metric routeTag fromAddr
  let st ←
    if r.metric = RIP_INFINITE_METRIC then
      if metric < RIP_INFINITE_METRIC then st.revive r ie nextHop metric else .ok st
    else st.replaceRoute r ie nextHop metric
  let st := st.modify r.id fun r => { r with changed := true }
  if metric = RIP_INFINITE_METRIC ∧ r.metric ≠ RIP_INFINITE_METRIC then
    return st.invalidateRoute r.id
  else return st.modify r.id fun r => { r with lastUpdateTime := st.rt.now }

/-- `processResponse` for one entry. -/
def processEntry (incomingIe : RIPInterfaceEntry) (srcAddr : IPv4Address) (entry : RIPEntry) :
    Except SimError RIPRouting :=
  let metric := min (entry.metric + incomingIe.metric) RIP_INFINITE_METRIC
  let nextHop := if entry.nextHop.isUnspecified then srcAddr else entry.nextHop
  match st.findRoute entry.address entry.prefixLength with
  | some r =>
      if (r.type = .RIP_ROUTE_STATIC ∨ r.type = .RIP_ROUTE_DEFAULT) ∧
          r.metric ≠ RIP_INFINITE_METRIC then .ok st
      else
        let st :=
          if r.fromAddr = srcAddr then
            st.modify r.id fun r => { r with lastUpdateTime := st.rt.now }
          else st
        if (r.fromAddr = srcAddr ∧ r.metric ≠ metric) ∨ metric < r.metric then
          st.updateRoute r incomingIe.ie nextHop metric entry.routeTag srcAddr
        else .ok st
  | none =>
      if metric ≠ RIP_INFINITE_METRIC then
        st.addRoute entry.address entry.prefixLength incomingIe.ie nextHop metric entry.routeTag
          srcAddr
      else .ok st

def processEntries (incomingIe : RIPInterfaceEntry) (srcAddr : IPv4Address) :
    List RIPEntry → RIPRouting → Except SimError RIPRouting
  | [], st => .ok st
  | entry :: rest, st => do
      processEntries incomingIe srcAddr rest (← st.processEntry incomingIe srcAddr entry)

def processResponse (packet : RIPPacket) (ctrlInfo : UDPDataIndication) :
    Except SimError RIPRouting := do
  let (st, isValid) ← st.isValidResponse packet ctrlInfo
  if !isValid then return st
  match st.findInterfaceById ctrlInfo.interfaceId with
  | none => return st
  | some incomingIe => processEntries incomingIe ctrlInfo.srcAddr packet.entries st

/-! ## Notifications -/

def importRoute (route : IPv4Route) (type : RouteType) (metric routeTag : ℕ) :
    Except SimError RIPRouting := do
  assert (decide (metric < RIP_INFINITE_METRIC)) "metric < RIP_INFINITE_METRIC"
  return { st with
    ripRoutes := st.ripRoutes ++ [
      { id := st.nextId
        type := type
        route := some route.id
        dest := route.dest
        prefixLength := route.netmask.getNetmaskLength
        nextHop := route.gateway
        ie := route.interfacePtr
        fromAddr := IPv4Address.UNSPECIFIED_ADDRESS
        metric := metric
        tag := routeTag
        changed := false
        lastUpdateTime := 0 }]
    nextId := st.nextId + 1 }

/-- `NF_IPv4_ROUTE_ADDED`, for a route of another module. -/
def routeAdded (route : IPv4Route) : Except SimError RIPRouting :=
  if st.isLoopbackInterfaceRoute route then .ok st
  else
    match st.isLocalInterfaceRoute route, route.interfacePtr with
    | true, some ie =>
        match st.findByInterface ie .RIP_ROUTE_INTERFACE with
        | some r =>
            .ok (st.modify r.id fun r =>
              { r with route := some route.id, metric := st.getInterfaceMetric ie, changed := true })
        | none => st.importRoute route .RIP_ROUTE_INTERFACE (st.getInterfaceMetric ie) 0
    | _, _ => .ok st

/-- `NF_IPv4_ROUTE_CHANGED`, for a route of another module. -/
def routeChanged (route : IPv4Route) : RIPRouting :=
  match st.findByRoute route.id with
  | none => st
  | some r =>
      let changed := route.dest ≠ r.dest ∨
        route.netmask ≠ IPv4Address.makeNetmask r.prefixLength.toNat ∨
        route.gateway ≠ r.nextHop ∨ route.interfacePtr ≠ r.ie
      st.modify r.id fun r =>
        { r with
          dest := route.dest
          prefixLength := route.netmask.getNetmaskLength
          nextHop := route.gateway
          ie := route.interfacePtr
          changed := r.changed || decide changed }

def deleteInterface (ie : ℕ) : RIPRouting :=
  { st with
    ripInterfaces := st.ripInterfaces.filter fun e => e.ie ≠ ie
    ripRoutes := st.ripRoutes.filter fun r => r.ie ≠ some ie }

/-- `sendRIPRequest`. -/
def ripRequest (ripInterface : RIPInterfaceEntry) : Sent where
  address := none
  outInterface := some ripInterface.ie
  packet := ⟨RIP_REQUEST, [⟨RIP_AF_NONE, 0, 0, 0, 0, RIP_INFINITE_METRIC⟩]⟩

/-- `NF_INTERFACE_STATE_CHANGED`. -/
def interfaceStateChanged (ie : ℕ) (isUp : Bool) : RIPRouting × List Sent :=
  if isUp then
    match st.findInterfaceById ie with
    | some ripInterface =>
        if ripInterface.mode = .NO_RIP then (st, []) else (st, [ripRequest ripInterface])
    | none => (st, [])
  else (st.invalidateRoutes ie, [])

/-- A route goes into the table: one of an interface as it is, another one through `addRoute`. -/
def othersAddRoute (entry : IPv4Route) : Except SimError RIPRouting := do
  let route := { entry with id := st.rt.nextId }
  if entry.sourceType = .IFACENETMASK then
    let rt := { st.rt.insertRoute route with nextId := st.rt.nextId + 1 }
    routeAdded { st with rt := rt.invalidateCache } route
  else do
    let (st, _) ← st.rtAddRoute entry
    st.routeAdded route

/-- A value is given to a setter of a route in the table. -/
def othersChangeRoute (id : ℕ) (change : IPv4Route.Change) : Except SimError RIPRouting :=
  match st.rt.routes.find? fun route => route.id = id with
  | none => .ok st
  | some route => do
      let st ← st.setField id change
      if change.apply route = route ∨ route.sourceType = .RIP then return st
      else return st.routeChanged (change.apply route)

/-- An interface is deleted. The table is notified first, and deletes the routes on the interface. -/
def interfaceDeleted (ie : ℕ) : RIPRouting :=
  let deleted := st.rt.routes.filter fun route => route.interfacePtr = some ie
  let notified := deleted.foldl notifyDeleted { st with rt := st.rt.deleteInterface ie }
  notified.deleteInterface ie

inductive Event where
  | datagram (packet : RIPPacket) (ctrlInfo : UDPDataIndication)
  | updateTimer
  | triggeredUpdateTimer
  | interfaceCreated (ripInterface : RIPInterfaceEntry)
  | interfaceDeleted (ie : ℕ)
  | interfaceStateChanged (ie : ℕ) (isUp : Bool)
  | othersAddRoute (entry : IPv4Route)
  | othersDeleteRoute (id : ℕ)
  | othersChangeRoute (id : ℕ) (change : IPv4Route.Change)
  /-- The simulation time goes on. -/
  | elapse (duration : ℕ)

/-- `handleMessage` for a packet. -/
def handlePacket (packet : RIPPacket) (ctrlInfo : UDPDataIndication) :
    Except SimError (RIPRouting × List Sent) := do
  if packet.command = RIP_REQUEST then st.processRequest packet ctrlInfo
  else if packet.command = RIP_RESPONSE then return (← st.processResponse packet ctrlInfo, [])
  else .error (.runtimeError ("RIP: unknown command (" ++ toString packet.command ++ ")"))

def step : Event → Except SimError (RIPRouting × List Sent)
  | .datagram packet ctrlInfo => st.handlePacket packet ctrlInfo
  | .updateTimer => st.processUpdate false
  | .triggeredUpdateTimer => st.processUpdate true
  | .interfaceCreated ripInterface =>
      .ok ({ st with ripInterfaces := st.ripInterfaces ++ [ripInterface] }, [])
  | .interfaceDeleted ie => .ok (st.interfaceDeleted ie, [])
  | .interfaceStateChanged ie isUp => .ok (st.interfaceStateChanged ie isUp)
  | .othersAddRoute entry => do return (← st.othersAddRoute entry, [])
  | .othersDeleteRoute id => .ok (st.deleteRoute id, [])
  | .othersChangeRoute id change => do return (← st.othersChangeRoute id change, [])
  | .elapse duration => .ok ({ st with rt := { st.rt with now := st.rt.now + duration } }, [])

/-- `configureInitialRoutes`, for one route of the table. -/
def configureInitialRoute (route : IPv4Route) : Except SimError RIPRouting :=
  if st.isLoopbackInterfaceRoute route then .ok st
  else
    match st.isLocalInterfaceRoute route, route.interfacePtr with
    | true, some ie => st.importRoute route .RIP_ROUTE_INTERFACE (st.getInterfaceMetric ie) 0
    | _, _ =>
        if route.netmask.isUnspecified then st.importRoute route .RIP_ROUTE_DEFAULT 1 0
        else if isMulticast route.dest then .ok st
        else st.importRoute route .RIP_ROUTE_STATIC 1 0

def configureInitialRoutes : List IPv4Route → RIPRouting → Except SimError RIPRouting
  | [], st => .ok st
  | route :: rest, st => do configureInitialRoutes rest (← st.configureInitialRoute route)

/-- `startRIPRouting`, when the interfaces have been configured. -/
def startRIPRouting : Except SimError RIPRouting :=
  configureInitialRoutes st.rt.routes { st with ripRoutes := [] }

end RIPRouting

end Inet.Rip
