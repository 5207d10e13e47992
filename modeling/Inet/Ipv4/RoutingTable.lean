import Inet.Base.SimError
import Inet.Ipv4.Address
import Inet.Lib.Outcome

/-!
# The IPv4 routing table

The route vector, the three caches, and the operations that change the one and clear the others.
`id` stands for the pointer to a route; every route that enters the table gets a fresh one.

The state has the interface table and the time, which the lookups read. Notifications are left out;
the lookups are events, since they fill the caches.
-/

namespace Inet.Ipv4

inductive SourceType where
  | MANUAL
  | IFACENETMASK
  | RIP
  | OSPF
  | BGP
  | ZEBRA
  | MANET
  | MANET2
  | DYMO
  | AODV
  deriving DecidableEq

/-- The field codes given to `routeChanged`. -/
inductive FieldCode where
  | F_DESTINATION
  | F_NETMASK
  | F_GATEWAY
  | F_IFACE
  | F_SOURCE
  | F_ADMINDIST
  | F_METRIC
  deriving DecidableEq

/-- An `IPv4Route`. `expiryTime` is that of a `DSDVIPv4Route`, set before the route is added; it
is 0 for the other classes, which never expire. -/
structure IPv4Route where
  id : ℕ
  dest : IPv4Address
  netmask : IPv4Address
  gateway : IPv4Address
  interfacePtr : Option ℕ
  sourceType : SourceType
  adminDist : ℕ
  metric : ℤ
  expiryTime : ℤ
  deriving DecidableEq

namespace IPv4Route

def dDirectlyConnected : ℕ := 0

/-- The virtual `isValid`. -/
def isValid (route : IPv4Route) (now : ℤ) : Bool :=
  decide (route.expiryTime = 0) || decide (now < route.expiryTime)

/-- The route's prefix matches the address. -/
def matchesAddr (route : IPv4Route) (dest : IPv4Address) : Bool :=
  decide (IPv4Address.maskedAddrAreEqual dest route.dest route.netmask)

/-- A value given to one of the setters. -/
inductive Change where
  | dest (value : IPv4Address)
  | netmask (value : IPv4Address)
  | gateway (value : IPv4Address)
  | interfacePtr (value : Option ℕ)
  | sourceType (value : SourceType)
  | adminDist (value : ℕ)
  | metric (value : ℤ)

namespace Change

def fieldCode : Change → FieldCode
  | dest _ => .F_DESTINATION
  | netmask _ => .F_NETMASK
  | gateway _ => .F_GATEWAY
  | interfacePtr _ => .F_IFACE
  | sourceType _ => .F_SOURCE
  | adminDist _ => .F_ADMINDIST
  | metric _ => .F_METRIC

def apply (route : IPv4Route) : Change → IPv4Route
  | dest value => { route with dest := value }
  | netmask value => { route with netmask := value }
  | gateway value => { route with gateway := value }
  | interfacePtr value => { route with interfacePtr := value }
  | sourceType value => { route with sourceType := value }
  | adminDist value => { route with adminDist := value }
  | metric value => { route with metric := value }

end Change

end IPv4Route

/-- What the deletion of an interface reads of an `IPv4MulticastRoute`. -/
structure IPv4MulticastRoute where
  id : ℕ
  inInterface : Option ℕ
  outInterfaces : List ℕ

structure RoutingTable where
  routes : List IPv4Route
  multicastRoutes : List IPv4MulticastRoute
  /-- `std::map<IPv4Address, IPv4Route *>`: no entry, an entry that is `NULL`, or a route. -/
  routingCache : IPv4Address → Option (Option ℕ)
  localAddresses : List IPv4Address
  localBroadcastAddresses : List IPv4Address
  /-- The interfaces of the interface table. -/
  interfaces : List InterfaceEntry
  now : ℤ
  /-- The next fresh pointer. -/
  nextId : ℕ

/-- The order of the `routes` vector. -/
def routeLessThan (a b : IPv4Route) : Prop :=
  if a.netmask ≠ b.netmask then b.netmask < a.netmask
  else if a.dest ≠ b.dest then a.dest < b.dest
  else if a.adminDist ≠ b.adminDist then a.adminDist < b.adminDist
  else a.metric < b.metric

instance : DecidableRel routeLessThan := fun a b => by
  unfold routeLessThan
  infer_instance

namespace RoutingTable

def invalidateCache (rt : RoutingTable) : RoutingTable :=
  { rt with
    routingCache := fun _ => none
    localAddresses := []
    localBroadcastAddresses := [] }

/-! ## Lookups -/

/-- The loop of `findBestMatchingRoute` over the route vector. -/
def searchBest (rt : RoutingTable) (dest : IPv4Address) : Option IPv4Route :=
  rt.routes.find? fun e => e.isValid rt.now && e.matchesAddr dest

/-- The part of `findBestMatchingRoute` behind the cache. -/
def searchAndCache (rt : RoutingTable) (dest : IPv4Address) : RoutingTable × Option IPv4Route :=
  let bestRoute := rt.searchBest dest
  ({ rt with routingCache :=
      Function.update rt.routingCache dest (some (bestRoute.map IPv4Route.id)) }, bestRoute)

/-- `findBestMatchingRoute`. A pointer of the cache is dereferenced before it is used. -/
def findBestMatchingRoute (rt : RoutingTable) (dest : IPv4Address) :
    Except SimError (RoutingTable × Option IPv4Route) :=
  match rt.routingCache dest with
  | none => .ok (rt.searchAndCache dest)
  | some none => .ok (rt, none)
  | some (some id) =>
      match rt.routes.find? fun route => route.id = id with
      | none => .error (.undefinedBehavior "dangling pointer in routingCache")
      | some route =>
          if route.isValid rt.now then .ok (rt, some route)
          else .ok (rt.searchAndCache dest)

/-- The addresses of all interfaces, for which each needs its IPv4 data. -/
def collectInterfaces (interfaces : List InterfaceEntry)
    (address : IPv4InterfaceData → Option IPv4Address) : Except SimError (List IPv4Address) :=
  match interfaces with
  | [] => .ok []
  | ie :: rest =>
      match ie.ipv4Data with
      | none => .error .nullPointer
      | some data =>
          match collectInterfaces rest address with
          | .error e => .error e
          | .ok addresses => .ok ((address data).toList ++ addresses)

def localAddress (data : IPv4InterfaceData) : Option IPv4Address := some data.inetAddr

/-- The broadcast address of an interface, unless it is unspecified. -/
def localBroadcastAddress (data : IPv4InterfaceData) : Option IPv4Address :=
  let broadcastAddr := data.inetAddr.makeBroadcastAddress data.netmask
  if broadcastAddr.isUnspecified then none else some broadcastAddr

def isLocalAddress (rt : RoutingTable) (dest : IPv4Address) :
    Except SimError (RoutingTable × Bool) :=
  if rt.localAddresses = [] then
    match collectInterfaces rt.interfaces localAddress with
    | .error e => .error e
    | .ok addresses => .ok ({ rt with localAddresses := addresses }, decide (dest ∈ addresses))
  else .ok (rt, decide (dest ∈ rt.localAddresses))

def isLocalBroadcastAddress (rt : RoutingTable) (dest : IPv4Address) :
    Except SimError (RoutingTable × Bool) :=
  if rt.localBroadcastAddresses = [] then
    match collectInterfaces rt.interfaces localBroadcastAddress with
    | .error e => .error e
    | .ok addresses =>
        .ok ({ rt with localBroadcastAddresses := addresses }, decide (dest ∈ addresses))
  else .ok (rt, decide (dest ∈ rt.localBroadcastAddresses))

/-- The last valid one of the routes with an empty netmask at the end of the vector. -/
def getDefaultRoute (rt : RoutingTable) : Option IPv4Route :=
  (rt.routes.reverse.takeWhile fun route => route.netmask.isUnspecified).find? fun route =>
    route.isValid rt.now

/-- `std::find` by pointer, and `erase`. -/
def internalRemoveRoute (rt : RoutingTable) (id : ℕ) : RoutingTable :=
  { rt with routes := rt.routes.eraseP fun route => route.id = id }

/-- `removeRoute` and `deleteRoute`, which differ in what becomes of the route afterwards. -/
def removeRoute (rt : RoutingTable) (id : ℕ) : RoutingTable :=
  if rt.routes.any fun route => route.id = id then (rt.internalRemoveRoute id).invalidateCache
  else rt

def deleteRoute (rt : RoutingTable) (id : ℕ) : RoutingTable := rt.removeRoute id

/-- Insertion at `upper_bound`, which asks for a sorted vector; on another one this takes the first
place in front of a greater route. -/
def insertRoute (rt : RoutingTable) (route : IPv4Route) : RoutingTable :=
  { rt with routes := rt.routes.orderedInsert routeLessThan route }

def internalAddRoute (rt : RoutingTable) (entry : IPv4Route) : Except SimError RoutingTable :=
  if ¬ entry.netmask.isValidNetmask then
    .error (.runtimeError ("addRoute(): wrong netmask " ++ entry.netmask.str ++ " in route"))
  else if entry.netmask ≠ 0 ∧ entry.dest &&& entry.netmask = 0 then
    .error (.runtimeError ("addRoute(): all bits of destination address " ++ entry.dest.str ++
      " is 0 inside non zero netmask " ++ entry.netmask.str))
  else if entry.dest &&& ~~~entry.netmask ≠ 0 then
    .error (.runtimeError ("addRoute(): suspicious route: destination IP address " ++
      entry.dest.str ++ " has bits set outside netmask " ++ entry.netmask.str))
  else if entry.interfacePtr.isNone then
    .error (.runtimeError "addRoute(): interface cannot be NULL")
  else
    let replaced :=
      if entry.netmask.isUnspecified then
        match rt.getDefaultRoute with
        | some oldDefaultRoute => rt.deleteRoute oldDefaultRoute.id
        | none => rt
      else rt
    .ok (replaced.insertRoute entry)

/-- `addRoute`, with a fresh pointer for the route. -/
def addRoute (rt : RoutingTable) (entry : IPv4Route) : Except SimError RoutingTable :=
  ({ rt with nextId := rt.nextId + 1 }.internalAddRoute { entry with id := rt.nextId }).map
    invalidateCache

/-- `purge`; multicast routes are always valid. -/
def purge (rt : RoutingTable) : RoutingTable :=
  if rt.routes.all fun route => route.isValid rt.now then rt
  else
    { rt with routes := rt.routes.filter fun route => route.isValid rt.now }.invalidateCache

def routeChanged (rt : RoutingTable) (id : ℕ) (fieldCode : FieldCode) :
    Except SimError RoutingTable :=
  if fieldCode = .F_DESTINATION ∨ fieldCode = .F_NETMASK ∨ fieldCode = .F_METRIC then
    match rt.routes.find? fun route => route.id = id with
    | none => .error (.assertion "entry != NULL")
    | some entry => ((rt.internalRemoveRoute id).internalAddRoute entry).map invalidateCache
  else .ok rt

/-- The new value stored in the route. -/
def replaceRoute (rt : RoutingTable) (id : ℕ) (change : IPv4Route.Change) : RoutingTable :=
  { rt with routes := rt.routes.map fun route : IPv4Route =>
      if route.id = id then change.apply route else route }

/-- A setter of a route in the table: it calls `routeChanged` if the value is a new one. -/
def setField (rt : RoutingTable) (id : ℕ) (change : IPv4Route.Change) :
    Except SimError RoutingTable :=
  match rt.routes.find? fun route => route.id = id with
  | none => .ok rt
  | some route =>
      if change.apply route = route then .ok rt
      else
        (rt.replaceRoute id change).routeChanged id change.fieldCode

def setDestination (rt : RoutingTable) (id : ℕ) (value : IPv4Address) :
    Except SimError RoutingTable := rt.setField id (.dest value)

def setNetmask (rt : RoutingTable) (id : ℕ) (value : IPv4Address) :
    Except SimError RoutingTable := rt.setField id (.netmask value)

def setGateway (rt : RoutingTable) (id : ℕ) (value : IPv4Address) :
    Except SimError RoutingTable := rt.setField id (.gateway value)

def setInterface (rt : RoutingTable) (id : ℕ) (value : Option ℕ) :
    Except SimError RoutingTable := rt.setField id (.interfacePtr value)

def setSourceType (rt : RoutingTable) (id : ℕ) (value : SourceType) :
    Except SimError RoutingTable := rt.setField id (.sourceType value)

def setAdminDist (rt : RoutingTable) (id : ℕ) (value : ℕ) :
    Except SimError RoutingTable := rt.setField id (.adminDist value)

def setMetric (rt : RoutingTable) (id : ℕ) (value : ℤ) :
    Except SimError RoutingTable := rt.setField id (.metric value)

/-- The route that `updateNetmaskRoutes` makes for an interface. -/
def netmaskRoute (id : ℕ) (ie : InterfaceEntry) (data : IPv4InterfaceData) : IPv4Route where
  id := id
  dest := data.inetAddr &&& data.netmask
  netmask := data.netmask
  gateway := 0
  interfacePtr := some ie.interfaceId
  sourceType := .IFACENETMASK
  adminDist := IPv4Route.dDirectlyConnected
  metric := data.metric
  expiryTime := 0

def addNetmaskRoute (rt : RoutingTable) (ie : InterfaceEntry) : RoutingTable :=
  match ie.ipv4Data with
  | some data =>
      if data.netmask ≠ IPv4Address.ALLONES_ADDRESS then
        { rt.insertRoute (netmaskRoute rt.nextId ie data) with nextId := rt.nextId + 1 }
      else rt
  | none => rt

def updateNetmaskRoutes (rt : RoutingTable) : RoutingTable :=
  let deleted := { rt with
    routes := rt.routes.filter fun route => route.sourceType ≠ .IFACENETMASK }
  (rt.interfaces.foldl addNetmaskRoute deleted).invalidateCache

def IPv4MulticastRoute.usesInterface (route : IPv4MulticastRoute) (entry : ℕ) : Bool :=
  decide (route.inInterface = some entry) || decide (entry ∈ route.outInterfaces)

/-- The flag `changed` of `deleteInterfaceRoutes`: some route uses the interface. -/
def routesUse (rt : RoutingTable) (entry : ℕ) : Bool :=
  (rt.routes.any fun route => route.interfacePtr = some entry) ||
    rt.multicastRoutes.any fun route => IPv4MulticastRoute.usesInterface route entry

def deleteInterfaceRoutes (rt : RoutingTable) (entry : ℕ) : RoutingTable :=
  let deleted := { rt with
    routes := rt.routes.filter fun route => route.interfacePtr ≠ some entry
    multicastRoutes := (rt.multicastRoutes.filter fun route => route.inInterface ≠ some entry).map
      fun route => { route with outInterfaces := route.outInterfaces.erase entry } }
  if rt.routesUse entry then deleted.invalidateCache else deleted

inductive Notification where
  | NF_INTERFACE_CREATED
  | NF_INTERFACE_DELETED (entry : ℕ)
  | NF_INTERFACE_STATE_CHANGED
  | NF_INTERFACE_CONFIG_CHANGED
  | NF_INTERFACE_IPv4CONFIG_CHANGED

/-- `receiveChangeNotification`; during initialization notifications are ignored. -/
def receiveChangeNotification (rt : RoutingTable) (initializing : Bool) (category : Notification) :
    RoutingTable :=
  if initializing then rt
  else
    match category with
    | .NF_INTERFACE_CREATED => rt.updateNetmaskRoutes
    | .NF_INTERFACE_DELETED entry => rt.deleteInterfaceRoutes entry
    | .NF_INTERFACE_STATE_CHANGED => rt.invalidateCache
    | .NF_INTERFACE_CONFIG_CHANGED => rt.invalidateCache
    | .NF_INTERFACE_IPv4CONFIG_CHANGED => rt.updateNetmaskRoutes

/-- What can change about an interface in the table. -/
inductive InterfaceChange where
  | state
  | config
  | ipv4Config

def InterfaceChange.notification : InterfaceChange → Notification
  | state => .NF_INTERFACE_STATE_CHANGED
  | config => .NF_INTERFACE_CONFIG_CHANGED
  | ipv4Config => .NF_INTERFACE_IPv4CONFIG_CHANGED

/-- `InterfaceTable::addInterface`: notifies when the interface is in the table. -/
def addInterface (rt : RoutingTable) (entry : InterfaceEntry) : RoutingTable :=
  { rt with interfaces := rt.interfaces ++ [entry] }.receiveChangeNotification false
    .NF_INTERFACE_CREATED

/-- `InterfaceTable::deleteInterface`: notifies before the interface is taken out. -/
def deleteInterface (rt : RoutingTable) (entry : ℕ) : RoutingTable :=
  let notified := rt.receiveChangeNotification false (.NF_INTERFACE_DELETED entry)
  { notified with interfaces := notified.interfaces.filter fun ie => ie.interfaceId ≠ entry }

/-- An interface takes a new state or configuration, and the table is notified. -/
def interfaceChanged (rt : RoutingTable) (change : InterfaceChange) (entry : InterfaceEntry) :
    RoutingTable :=
  { rt with interfaces := rt.interfaces.map fun ie : InterfaceEntry =>
      if ie.interfaceId = entry.interfaceId then entry else ie }.receiveChangeNotification false
    change.notification

inductive Event where
  | addRoute (entry : IPv4Route)
  | removeRoute (id : ℕ)
  | deleteRoute (id : ℕ)
  | setField (id : ℕ) (change : IPv4Route.Change)
  | purge
  | updateNetmaskRoutes
  /-- A multicast route is added, removed or changed, which clears the caches unless only its
  interfaces change. -/
  | multicastRoutes (routes : List IPv4MulticastRoute) (clears : Bool)
  | findBestMatchingRoute (dest : IPv4Address)
  | isLocalAddress (dest : IPv4Address)
  | isLocalBroadcastAddress (dest : IPv4Address)
  | addInterface (entry : InterfaceEntry)
  | deleteInterface (entry : ℕ)
  | interfaceChanged (change : InterfaceChange) (entry : InterfaceEntry)
  /-- The simulation time goes on. -/
  | elapse (duration : ℕ)

def step (rt : RoutingTable) : Event → Except SimError RoutingTable
  | .addRoute entry => rt.addRoute entry
  | .removeRoute id => .ok (rt.removeRoute id)
  | .deleteRoute id => .ok (rt.deleteRoute id)
  | .setField id change => rt.setField id change
  | .purge => .ok rt.purge
  | .updateNetmaskRoutes => .ok rt.updateNetmaskRoutes
  | .multicastRoutes routes clears =>
      let changed := { rt with multicastRoutes := routes }
      .ok (if clears then changed.invalidateCache else changed)
  | .findBestMatchingRoute dest => (rt.findBestMatchingRoute dest).map Prod.fst
  | .isLocalAddress dest => (rt.isLocalAddress dest).map Prod.fst
  | .isLocalBroadcastAddress dest => (rt.isLocalBroadcastAddress dest).map Prod.fst
  | .addInterface entry => .ok (rt.addInterface entry)
  | .deleteInterface entry => .ok (rt.deleteInterface entry)
  | .interfaceChanged change entry => .ok (rt.interfaceChanged change entry)
  | .elapse duration => .ok { rt with now := rt.now + duration }

/-- A table without routes and with empty caches. -/
def initial (interfaces : List InterfaceEntry) (now : ℤ) : RoutingTable where
  routes := []
  multicastRoutes := []
  routingCache := fun _ => none
  localAddresses := []
  localBroadcastAddresses := []
  interfaces := interfaces
  now := now
  nextId := 0

/-- The states reached from a fresh table by events that each meet `condition` when they
happen. -/
inductive Reached (condition : RoutingTable → Event → Prop) : RoutingTable → Prop
  | initial (interfaces : List InterfaceEntry) (now : ℤ) : Reached condition (initial interfaces now)
  | step {rt rt' : RoutingTable} {event : Event} :
    Reached condition rt → condition rt event → rt.step event = .ok rt' → Reached condition rt'

end RoutingTable

end Inet.Ipv4
