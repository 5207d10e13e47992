import Inet.Base.SimError
import Inet.Ipv6.Address
import Inet.Lib.BestMatch

/-!
# The IPv6 routing table

The route list and the destination cache, with `WITH_xMIPv6`. `id` stands for the pointer to a
route; every route that enters the table gets a fresh one. `std::sort` promises nothing about routes
of which neither is less; it is a parameter (`Sorting`). `determineOutputInterface` belongs here as
the user of the cache, without what it sends when there is no route.
-/

namespace Inet.Ipv6

inductive RouteSrc where
  | FROM_RA
  | OWN_ADV_PREFIX
  | STATIC
  | ROUTING_PROT
  deriving DecidableEq

/-- The field codes given to `routeChanged`. -/
inductive ChangeCode where
  | F_NEXTHOP
  | F_IFACE
  | F_METRIC
  | F_EXPIRYTIME
  | F_ADMINDIST
  deriving DecidableEq

instance neZeroPrefixLengths : NeZero 129 := ⟨by decide⟩

/-- An `IPv6Route`. A prefix length is at most 128, as `IPv6Address::matches` asserts. -/
structure IPv6Route where
  id : ℕ
  destPrefix : IPv6Address
  prefixLength : Fin 129
  src : RouteSrc
  interfaceId : ℤ
  nextHop : IPv6Address
  expiryTime : ℤ
  metric : ℤ
  adminDist : ℕ
  deriving DecidableEq

namespace IPv6Route

def dDirectlyConnected : ℕ := 0

def dStatic : ℕ := 1

/-- The route's prefix matches the address. -/
def matchesAddr (route : IPv6Route) (dest : IPv6Address) : Bool :=
  decide (dest.matches_ route.destPrefix route.prefixLength)

/-- Expiry time 0 stands for infinity. -/
def isExpired (route : IPv6Route) (now : ℕ) : Bool :=
  decide (route.expiryTime < now) && decide (route.expiryTime ≠ 0)

/-- A value given to one of the setters. -/
inductive Change where
  | nextHop (value : IPv6Address)
  | interfaceId (value : ℤ)
  | metric (value : ℤ)
  | expiryTime (value : ℤ)
  | adminDist (value : ℕ)

namespace Change

def fieldCode : Change → ChangeCode
  | nextHop _ => .F_NEXTHOP
  | interfaceId _ => .F_IFACE
  | metric _ => .F_METRIC
  | expiryTime _ => .F_EXPIRYTIME
  | adminDist _ => .F_ADMINDIST

def apply (route : IPv6Route) : Change → IPv6Route
  | nextHop value => { route with nextHop := value }
  | interfaceId value => { route with interfaceId := value }
  | metric value => { route with metric := value }
  | expiryTime value => { route with expiryTime := value }
  | adminDist value => { route with adminDist := value }

end Change

end IPv6Route

/-- The order in which `addRoute` sorts the routes. -/
def routeLessThan (a b : IPv6Route) : Prop :=
  if a.prefixLength ≠ b.prefixLength then b.prefixLength < a.prefixLength
  else if a.adminDist ≠ b.adminDist then a.adminDist < b.adminDist
  else a.metric < b.metric

instance : DecidableRel routeLessThan := fun a b => by
  unfold routeLessThan
  infer_instance

instance : Std.Total fun a b : IPv6Route => ¬ routeLessThan b a where
  total a b := by
    unfold routeLessThan
    grind

instance : IsTrans IPv6Route fun a b => ¬ routeLessThan b a where
  trans a b c := by
    unfold routeLessThan
    grind

/-- One of the functions that `std::sort` may be. -/
def insertionSort : Sorting routeLessThan where
  sort := List.insertionSort fun a b => ¬ routeLessThan b a
  perm := List.perm_insertionSort _
  sorted := List.pairwise_insertionSort _

structure DestCacheEntry where
  interfaceId : ℤ
  nextHopAddr : IPv6Address
  expiryTime : ℤ

/-- The test of `lookupDestCache` for an entry that is still used. -/
def DestCacheEntry.isLive (entry : DestCacheEntry) (now : ℕ) : Bool :=
  !(decide (0 < entry.expiryTime) && decide (entry.expiryTime < now))

structure RoutingTable6 where
  routeList : List IPv6Route
  destCache : IPv6Address → Option DestCacheEntry
  now : ℕ
  /-- The next fresh pointer. -/
  nextId : ℕ

namespace RoutingTable6

def purgeDestCache (rt : RoutingTable6) : RoutingTable6 := { rt with destCache := fun _ => none }

/-- The cache without the entries that satisfy `p`. -/
def purgeEntries (rt : RoutingTable6) (p : DestCacheEntry → Bool) : RoutingTable6 :=
  { rt with destCache := fun dest => (rt.destCache dest).filter fun entry => !p entry }

def purgeDestCacheEntriesToNeighbour (rt : RoutingTable6) (nextHopAddr : IPv6Address)
    (interfaceId : ℤ) : RoutingTable6 :=
  rt.purgeEntries fun entry =>
    decide (entry.interfaceId = interfaceId) && decide (entry.nextHopAddr = nextHopAddr)

def purgeDestCacheForInterfaceID (rt : RoutingTable6) (interfaceId : ℤ) : RoutingTable6 :=
  rt.purgeEntries fun entry => entry.interfaceId = interfaceId

/-- `lookupDestCache`: the table, `outInterfaceId` and the next hop. -/
def lookupDestCache (rt : RoutingTable6) (dest : IPv6Address) : RoutingTable6 × ℤ × IPv6Address :=
  match rt.destCache dest with
  | none => (rt, -1, IPv6Address.UNSPECIFIED_ADDRESS)
  | some entry =>
      if entry.isLive rt.now then (rt, entry.interfaceId, entry.nextHopAddr)
      else
        ({ rt with destCache := Function.update rt.destCache dest none }, -1,
          IPv6Address.UNSPECIFIED_ADDRESS)

def updateDestCache (rt : RoutingTable6) (dest nextHopAddr : IPv6Address) (interfaceId : ℤ)
    (expiryTime : ℤ) : RoutingTable6 :=
  { rt with destCache :=
      Function.update rt.destCache dest (some ⟨interfaceId, nextHopAddr, expiryTime⟩) }

/-- The loop of `doLongestPrefixMatch`: the routes left from the iterator on, and the route
returned. The iterator stays on an expired route that is not erased. -/
def matchLoop (now : ℕ) (dest : IPv6Address) :
    List IPv6Route → Except SimError (List IPv6Route × Option IPv6Route)
  | [] => .ok ([], none)
  | route :: routes =>
      if route.matchesAddr dest then
        if route.isExpired now then
          if route.src = .FROM_RA then matchLoop now dest routes
          else .error .nonTermination
        else .ok (route :: routes, some route)
      else (matchLoop now dest routes).map fun result => (route :: result.1, result.2)

def doLongestPrefixMatch (rt : RoutingTable6) (dest : IPv6Address) :
    Except SimError (RoutingTable6 × Option IPv6Route) :=
  (matchLoop rt.now dest rt.routeList).map fun result =>
    ({ rt with routeList := result.1 }, result.2)

/-- The next hop of a route; it is the destination itself if the route has none. -/
def nextHopFor (route : IPv6Route) (dest : IPv6Address) : IPv6Address :=
  if route.nextHop.isUnspecified then dest else route.nextHop

/-- `IPv6::determineOutputInterface`: interface and next hop, or nothing if there is no route. -/
def determineOutputInterface (rt : RoutingTable6) (dest : IPv6Address) :
    Except SimError (RoutingTable6 × Option (ℤ × IPv6Address)) :=
  match rt.lookupDestCache dest with
  | (looked, interfaceId, nextHop) =>
      if interfaceId = -1 then
        (looked.doLongestPrefixMatch dest).map fun matched =>
          match matched.2 with
          | none => (matched.1, none)
          | some route =>
              (matched.1.updateDestCache dest (nextHopFor route dest) route.interfaceId
                route.expiryTime, some (route.interfaceId, nextHopFor route dest))
      else .ok (looked, some (interfaceId, nextHop))

def routeChanged (rt : RoutingTable6) (fieldCode : ChangeCode) : RoutingTable6 :=
  if fieldCode = .F_NEXTHOP ∨ fieldCode = .F_IFACE then rt.purgeDestCache else rt

/-- The new value stored in the route. -/
def replaceRoute (rt : RoutingTable6) (id : ℕ) (change : IPv6Route.Change) : RoutingTable6 :=
  { rt with routeList := rt.routeList.map fun route : IPv6Route =>
      if route.id = id then change.apply route else route }

/-- A setter of a route in the list, called on the route: it calls `routeChanged` if the value is a
new one. -/
def setRouteField (rt : RoutingTable6) (route : IPv6Route) (change : IPv6Route.Change) :
    RoutingTable6 :=
  if change.apply route = route then rt
  else (rt.replaceRoute route.id change).routeChanged change.fieldCode

/-- The setter called through the pointer. -/
def setField (rt : RoutingTable6) (id : ℕ) (change : IPv6Route.Change) : RoutingTable6 :=
  match rt.routeList.find? fun route => route.id = id with
  | none => rt
  | some route => rt.setRouteField route change

def setInterfaceId (rt : RoutingTable6) (id : ℕ) (interfaceId : ℤ) : RoutingTable6 :=
  rt.setField id (.interfaceId interfaceId)

def setNextHop (rt : RoutingTable6) (id : ℕ) (nextHop : IPv6Address) : RoutingTable6 :=
  rt.setField id (.nextHop nextHop)

def setExpiryTime (rt : RoutingTable6) (id : ℕ) (expiryTime : ℤ) : RoutingTable6 :=
  rt.setField id (.expiryTime expiryTime)

def setMetric (rt : RoutingTable6) (id : ℕ) (metric : ℤ) : RoutingTable6 :=
  rt.setField id (.metric metric)

def setAdminDist (rt : RoutingTable6) (id : ℕ) (adminDist : ℕ) : RoutingTable6 :=
  rt.setField id (.adminDist adminDist)

/-! ## Adding routes -/

section

variable (sorting : Sorting routeLessThan)

/-- `addRoute`, with a fresh pointer for the route. -/
def addRoute (rt : RoutingTable6) (route : IPv6Route) : RoutingTable6 :=
  { rt with
    routeList := sorting.sort (rt.routeList ++ [{ route with id := rt.nextId }])
    nextId := rt.nextId + 1 }.purgeDestCache

/-- The search of `addOrUpdateOnLinkPrefix`, `addOrUpdateOwnAdvPrefix` and
`removeOnLinkPrefix`. -/
def isPrefixRoute (src : RouteSrc) (destPrefix : IPv6Address) (prefixLength : Fin 129)
    (route : IPv6Route) : Bool :=
  decide (route.src = src) && decide (route.destPrefix = destPrefix) &&
    decide (route.prefixLength = prefixLength)

/-- The route that the two functions make when there is none yet. -/
def prefixRoute (src : RouteSrc) (destPrefix : IPv6Address) (prefixLength : Fin 129)
    (interfaceId : ℤ) (expiryTime : ℤ) : IPv6Route where
  id := 0
  destPrefix := destPrefix
  prefixLength := prefixLength
  src := src
  interfaceId := interfaceId
  nextHop := 0
  expiryTime := expiryTime
  metric := 0
  adminDist := IPv6Route.dDirectlyConnected

def addOrUpdatePrefix (rt : RoutingTable6) (src : RouteSrc) (destPrefix : IPv6Address)
    (prefixLength : Fin 129) (interfaceId : ℤ) (expiryTime : ℤ) : RoutingTable6 :=
  match rt.routeList.find? (isPrefixRoute src destPrefix prefixLength) with
  | none =>
      rt.addRoute sorting (prefixRoute src destPrefix prefixLength interfaceId expiryTime)
  | some route =>
      (rt.setRouteField route (.interfaceId interfaceId)).setRouteField
        (IPv6Route.Change.apply route (.interfaceId interfaceId)) (.expiryTime expiryTime)

def addOrUpdateOnLinkPrefix (rt : RoutingTable6) (destPrefix : IPv6Address) (prefixLength : Fin 129)
    (interfaceId : ℤ) (expiryTime : ℤ) : RoutingTable6 :=
  rt.addOrUpdatePrefix sorting .FROM_RA destPrefix prefixLength interfaceId expiryTime

def addOrUpdateOwnAdvPrefix (rt : RoutingTable6) (destPrefix : IPv6Address) (prefixLength : Fin 129)
    (interfaceId : ℤ) (expiryTime : ℤ) : RoutingTable6 :=
  rt.addOrUpdatePrefix sorting .OWN_ADV_PREFIX destPrefix prefixLength interfaceId expiryTime

def addStaticRoute (rt : RoutingTable6) (destPrefix : IPv6Address) (prefixLength : Fin 129)
    (interfaceId : ℤ) (nextHop : IPv6Address) (metric : ℤ) : RoutingTable6 :=
  rt.addRoute sorting
    { id := 0
      destPrefix := destPrefix
      prefixLength := prefixLength
      src := .STATIC
      interfaceId := interfaceId
      nextHop := nextHop
      expiryTime := 0
      metric := if metric = 0 then 10 else metric
      adminDist := IPv6Route.dStatic }

def addDefaultRoute (rt : RoutingTable6) (nextHop : IPv6Address) (ifID : ℤ) (routerLifetime : ℤ) :
    RoutingTable6 :=
  rt.addRoute sorting
    { id := 0
      destPrefix := 0
      prefixLength := 0
      src := .FROM_RA
      interfaceId := ifID
      nextHop := nextHop
      expiryTime := routerLifetime
      metric := 10
      adminDist := IPv6Route.dStatic }

def addRoutingProtocolRoute (rt : RoutingTable6) (route : IPv6Route) :
    Except SimError RoutingTable6 :=
  if route.src = .ROUTING_PROT then .ok (rt.addRoute sorting route)
  else .error (.assertion "route->getSrc()==IPv6Route::ROUTING_PROT")

end

def removeOnLinkPrefix (rt : RoutingTable6) (destPrefix : IPv6Address) (prefixLength : Fin 129) :
    RoutingTable6 :=
  { rt with routeList := rt.routeList.eraseP (isPrefixRoute .FROM_RA destPrefix prefixLength) }

def removeRoute (rt : RoutingTable6) (id : ℕ) : Except SimError RoutingTable6 :=
  if rt.routeList.any fun route => route.id = id then
    .ok { rt with routeList := rt.routeList.eraseP fun route => route.id = id }.purgeDestCache
  else .error (.assertion "it!=routeList.end()")

def removeDefaultRoutes (rt : RoutingTable6) (interfaceID : ℤ) : RoutingTable6 :=
  { rt with routeList := rt.routeList.filter fun route =>
      !(decide (route.interfaceId = interfaceID) && decide (route.prefixLength = 0)) }

def removePrefixes (rt : RoutingTable6) (interfaceID : ℤ) : RoutingTable6 :=
  { rt with routeList := rt.routeList.filter fun route =>
      !(decide (route.interfaceId = interfaceID) && decide (0 < route.prefixLength)) }

def removeAllRoutes (rt : RoutingTable6) : RoutingTable6 := { rt with routeList := [] }

inductive Notification where
  | NF_INTERFACE_CREATED
  | NF_INTERFACE_DELETED (interfaceId : ℤ)
  | NF_INTERFACE_STATE_CHANGED (interfaceId : ℤ) (isUp : Bool)
  | NF_INTERFACE_CONFIG_CHANGED
  | NF_INTERFACE_IPv6CONFIG_CHANGED

/-- `receiveChangeNotification`, after initialization. -/
def receiveChangeNotification (rt : RoutingTable6) : Notification → RoutingTable6
  | .NF_INTERFACE_DELETED interfaceId => rt.purgeDestCacheForInterfaceID interfaceId
  | .NF_INTERFACE_STATE_CHANGED interfaceId isUp =>
      if isUp then rt else rt.purgeDestCacheForInterfaceID interfaceId
  | .NF_INTERFACE_CREATED => rt
  | .NF_INTERFACE_CONFIG_CHANGED => rt
  | .NF_INTERFACE_IPv6CONFIG_CHANGED => rt

inductive Event where
  | addOrUpdateOnLinkPrefix (destPrefix : IPv6Address) (prefixLength : Fin 129) (interfaceId : ℤ)
      (expiryTime : ℤ)
  | addOrUpdateOwnAdvPrefix (destPrefix : IPv6Address) (prefixLength : Fin 129) (interfaceId : ℤ)
      (expiryTime : ℤ)
  | addStaticRoute (destPrefix : IPv6Address) (prefixLength : Fin 129) (interfaceId : ℤ)
      (nextHop : IPv6Address) (metric : ℤ)
  | addDefaultRoute (nextHop : IPv6Address) (ifID : ℤ) (routerLifetime : ℤ)
  | addRoutingProtocolRoute (route : IPv6Route)
  | removeOnLinkPrefix (destPrefix : IPv6Address) (prefixLength : Fin 129)
  | removeRoute (id : ℕ)
  | removeDefaultRoutes (interfaceID : ℤ)
  | removePrefixes (interfaceID : ℤ)
  | removeAllRoutes
  | setField (id : ℕ) (change : IPv6Route.Change)
  | purgeDestCacheEntriesToNeighbour (nextHopAddr : IPv6Address) (interfaceId : ℤ)
  | notification (category : Notification)
  | doLongestPrefixMatch (dest : IPv6Address)
  | determineOutputInterface (dest : IPv6Address)
  /-- The simulation time goes on. -/
  | elapse (duration : ℕ)

def step (sorting : Sorting routeLessThan) (rt : RoutingTable6) : Event → Except SimError RoutingTable6
  | .addOrUpdateOnLinkPrefix destPrefix prefixLength interfaceId expiryTime =>
      .ok (rt.addOrUpdateOnLinkPrefix sorting destPrefix prefixLength interfaceId expiryTime)
  | .addOrUpdateOwnAdvPrefix destPrefix prefixLength interfaceId expiryTime =>
      .ok (rt.addOrUpdateOwnAdvPrefix sorting destPrefix prefixLength interfaceId expiryTime)
  | .addStaticRoute destPrefix prefixLength interfaceId nextHop metric =>
      .ok (rt.addStaticRoute sorting destPrefix prefixLength interfaceId nextHop metric)
  | .addDefaultRoute nextHop ifID routerLifetime =>
      .ok (rt.addDefaultRoute sorting nextHop ifID routerLifetime)
  | .addRoutingProtocolRoute route => rt.addRoutingProtocolRoute sorting route
  | .removeOnLinkPrefix destPrefix prefixLength =>
      .ok (rt.removeOnLinkPrefix destPrefix prefixLength)
  | .removeRoute id => rt.removeRoute id
  | .removeDefaultRoutes interfaceID => .ok (rt.removeDefaultRoutes interfaceID)
  | .removePrefixes interfaceID => .ok (rt.removePrefixes interfaceID)
  | .removeAllRoutes => .ok rt.removeAllRoutes
  | .setField id change => .ok (rt.setField id change)
  | .purgeDestCacheEntriesToNeighbour nextHopAddr interfaceId =>
      .ok (rt.purgeDestCacheEntriesToNeighbour nextHopAddr interfaceId)
  | .notification category => .ok (rt.receiveChangeNotification category)
  | .doLongestPrefixMatch dest => (rt.doLongestPrefixMatch dest).map Prod.fst
  | .determineOutputInterface dest => (rt.determineOutputInterface dest).map Prod.fst
  | .elapse duration => .ok { rt with now := rt.now + duration }

/-- A table without routes and with an empty cache. -/
def initial (now : ℕ) : RoutingTable6 where
  routeList := []
  destCache := fun _ => none
  now := now
  nextId := 0

/-- The states reached from a fresh table by events that each meet `condition` when they
happen. -/
inductive Reached (sorting : Sorting routeLessThan) (condition : RoutingTable6 → Event → Prop) :
    RoutingTable6 → Prop
  | initial (now : ℕ) : Reached sorting condition (initial now)
  | step {rt rt' : RoutingTable6} {event : Event} : Reached sorting condition rt →
    condition rt event → rt.step sorting event = .ok rt' → Reached sorting condition rt'

end RoutingTable6

end Inet.Ipv6
