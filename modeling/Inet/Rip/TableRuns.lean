import Inet.Rip.TablesInStep

/-!
# Runs of RIP and the routing table

The steps of a run keep the two tables linked: responses and updates first, then the notifications.
-/

namespace Inet.Rip

open Ipv4 List
open Ipv4.RoutingTable

variable {I : Set (RouteType × (IPv4Address × ℤ) × ℕ)} {st st' : RIPRouting} {r : RIPRoute}

/-! ## Responses -/

lemma findRoute_none {dest : IPv4Address} {prefixLength : ℤ}
    (none : st.findRoute dest prefixLength = none) :
    ∀ r ∈ st.ripRoutes, r.key ≠ (dest, prefixLength) := by
  intro r mem eq
  obtain ⟨sameDest, sameLength⟩ := Prod.mk.inj eq
  have absent := find?_eq_none.mp none r mem
  exact absent (decide_eq_true ⟨sameDest, sameLength⟩)

lemma findRoute_some {dest : IPv4Address} {prefixLength : ℤ}
    (found : st.findRoute dest prefixLength = some r) :
    r ∈ st.ripRoutes ∧ r.key = (dest, prefixLength) := by
  have test := find?_some found
  obtain ⟨sameDest, sameLength⟩ := of_decide_eq_true test
  exact ⟨mem_of_find?_eq_some found, by rw [RIPRoute.key, sameDest, sameLength]⟩

section

variable {dest nextHop fromAddr srcAddr : IPv4Address} {prefixLength : ℤ} {ie metric routeTag : ℕ}
  {incomingIe : RIPInterfaceEntry}

variable (linked : Linked I st none none)
include linked

lemma addRoute_linked (new : ∀ r ∈ st.ripRoutes, r.key ≠ (dest, prefixLength))
    (finite : metric < RIP_INFINITE_METRIC) :
    EndsIn Throws (fun st' => Linked I st' none none)
      (st.addRoute dest prefixLength ie nextHop metric routeTag fromAddr) := by
  rw [RIPRouting.addRoute, RIPRouting.addIPv4Route]
  cases masked : makeNetmask prefixLength with
  | error e =>
    rw [makeNetmask] at masked
    split_ifs at masked
    cases masked
    exact .inl ⟨_, rfl⟩
  | ok netmask =>
    have zero : makeNetmask 0 = .ok 0 := rfl
    obtain ⟨low, high, maskEq⟩ := makeNetmask_ok masked
    have length : (netmask.getNetmaskLength : ℤ) = prefixLength := by
      rw [maskEq, getNetmaskLength_makeNetmask _ (by omega)]
      omega
    refine EndsIn.bind (linked.rtAddRoute fun empty emptyMask r mem key => ?_) fun result spec => ?_
    · change dest = 0 at empty
      change netmask = 0 at emptyMask
      rw [emptyMask] at masked
      rw [empty, makeNetmask_inj masked zero] at new
      exact absurd key (new r mem)
    · obtain ⟨linked₁, keys, lt, proper, routeMem, -⟩ := spec
      refine Carrying.settle (linked₁.push rfl (fun other mem eq => ?_) fun q points => ?_)
        (mem_append_right _ (mem_singleton.mpr rfl)) routeMem ⟨rfl, finite⟩
        ⟨rfl, rfl, rfl, ?_, rfl, rfl, rfl, proper⟩
      · have keyMem : other.key ∈ result.1.ripRoutes.map RIPRoute.key := mem_map_of_mem mem
        rw [keys] at keyMem
        obtain ⟨r, rMem, same⟩ := mem_map.mp keyMem
        refine new r rMem (same.trans (eq.trans ?_))
        rw [RIPRoute.key, length]
      · obtain rfl := Option.some.inj points
        exact lt
      · change makeNetmask (netmask.getNetmaskLength : ℤ) = .ok netmask
        rw [length, masked]

/-- An entry that does not undercut an imported route of its prefix. -/
def EntrySafe (I : Set (RouteType × (IPv4Address × ℤ) × ℕ)) (incomingIe : RIPInterfaceEntry)
    (entry : RIPEntry) : Prop :=
  ∀ type metric, (type, (entry.address, entry.prefixLength), metric) ∈ I →
    type ≠ .RIP_ROUTE_STATIC → type ≠ .RIP_ROUTE_DEFAULT → metric ≤ entry.metric + incomingIe.metric

lemma touch_linked (id : ℕ) (now : ℤ) :
    Linked I (st.modify id fun r => { r with lastUpdateTime := now }) none none := by
  refine linked.relabel (fun r => ?_) fun r => ?_
  · split_ifs
    · exact ⟨rfl, rfl, rfl, rfl, rfl⟩
    · exact ⟨rfl, rfl, rfl, rfl, rfl⟩
  · split_ifs
    · exact ⟨rfl, rfl, rfl⟩
    · exact ⟨rfl, rfl, rfl⟩

lemma metric_le (mem : r ∈ st.ripRoutes) : r.metric ≤ RIP_INFINITE_METRIC := by
  cases linked.settled r mem nofun with
  | invalid metric => exact metric.le
  | learned learned => exact learned.2.le
  | imported type metric => exact metric.le

lemma own_of_update (mem : r ∈ st.ripRoutes) (src : srcAddr ≠ 0) {entry : RIPEntry}
    (safe : EntrySafe I incomingIe entry) (key : r.key = (entry.address, entry.prefixLength))
    (open' : ¬ ((r.type = .RIP_ROUTE_STATIC ∨ r.type = .RIP_ROUTE_DEFAULT) ∧
      r.metric ≠ RIP_INFINITE_METRIC))
    (update : (r.fromAddr = srcAddr ∧ r.metric ≠ min (entry.metric + incomingIe.metric)
        RIP_INFINITE_METRIC) ∨
      min (entry.metric + incomingIe.metric) RIP_INFINITE_METRIC < r.metric) :
    r.metric = RIP_INFINITE_METRIC ∨ r.type = .RIP_ROUTE_RTE := by
  by_contra neither
  obtain ⟨finite, type⟩ := not_or.mp neither
  obtain ⟨fromAddr, valid⟩ := linked.imported r mem nofun type
  have lt := lt_of_le_of_ne (metric_le linked mem) finite
  have known := valid lt
  rw [key] at known
  have least := safe r.type r.metric known (fun static => open' ⟨.inl static, finite⟩)
    fun default => open' ⟨.inr default, finite⟩
  rcases update with ⟨own, -⟩ | shorter
  · exact src (own.symm.trans fromAddr)
  · exact absurd (le_min least lt.le) (not_le.mpr shorter)

omit linked in
lemma gain_of_update {metric : ℕ}
    (update : (r.fromAddr = srcAddr ∧ r.metric ≠ min metric RIP_INFINITE_METRIC) ∨
      min metric RIP_INFINITE_METRIC < r.metric) (infinite : r.metric = RIP_INFINITE_METRIC) :
    min metric RIP_INFINITE_METRIC < RIP_INFINITE_METRIC := by
  rw [infinite] at update
  rcases update with ⟨-, other⟩ | shorter
  · exact lt_of_le_of_ne (min_le_right _ _) other.symm
  · exact shorter

lemma processEntry_linked (src : srcAddr ≠ 0) {entry : RIPEntry}
    (safe : EntrySafe I incomingIe entry) :
    EndsIn Throws (fun st' => Linked I st' none none)
      (st.processEntry incomingIe srcAddr entry) := by
  rw [RIPRouting.processEntry]
  generalize (if entry.nextHop.isUnspecified then srcAddr else entry.nextHop) = nextHop
  cases found : st.findRoute entry.address entry.prefixLength with
  | none =>
    split_ifs with finite
    · exact addRoute_linked linked (findRoute_none found) (lt_of_le_of_ne (min_le_right _ _) finite)
    · exact linked
  | some r =>
    obtain ⟨mem, key⟩ := findRoute_some found
    dsimp only
    split_ifs with static update touched touched
    · exact linked
    · have own := own_of_update linked mem src safe key static update
      exact updateRoute_linked (touch_linked linked r.id st.rt.now)
        (mem_modify_self (f := fun r => { r with lastUpdateTime := st.rt.now }) mem)
        ⟨rfl, rfl, rfl⟩ own (gain_of_update update) (min_le_right _ _)
    · have own := own_of_update linked mem src safe key static update
      exact updateRoute_linked linked mem ⟨rfl, rfl, rfl⟩ own (gain_of_update update)
        (min_le_right _ _)
    · exact touch_linked linked r.id st.rt.now
    · exact linked

omit linked

lemma processEntries_linked (src : srcAddr ≠ 0) {entries : List RIPEntry}
    (safe : ∀ entry ∈ entries, EntrySafe I incomingIe entry) :
    ∀ st, Linked I st none none → EndsIn Throws (fun st' => Linked I st' none none)
      (RIPRouting.processEntries incomingIe srcAddr entries st) := by
  induction entries with
  | nil => exact fun st linked => linked
  | cons entry rest ih =>
    intro st linked
    exact EndsIn.bind (processEntry_linked linked src (safe entry mem_cons_self))
      (ih fun other mem => safe other (mem_cons_of_mem _ mem))

lemma Linked.of_eq (linked : Linked I st x p) (rt : st'.rt = st.rt)
    (ripRoutes : st'.ripRoutes = st.ripRoutes) (nextId : st'.nextId = st.nextId) :
    Linked I st' x p := by
  obtain ⟨distinct, nodup, fresh, keys, known, imported, settled, owned⟩ := linked
  rw [← rt, ← ripRoutes] at settled known owned
  rw [← ripRoutes] at nodup keys imported fresh
  rw [← nextId] at fresh
  rw [← rt] at distinct
  exact ⟨distinct, nodup, fresh, keys, known, imported, settled, owned⟩

lemma isNeighborAddress_zero (interfaces : List InterfaceEntry) :
    isNeighborAddress interfaces 0 = false := rfl

lemma isValidResponse_linked (linked : Linked I st none none) (packet : RIPPacket)
    (ctrlInfo : UDPDataIndication) :
    EndsIn Throws (fun result => Linked I result.1 none none ∧
        result.1.ripInterfaces = st.ripInterfaces ∧ (result.2 = true → ctrlInfo.srcAddr ≠ 0))
      (st.isValidResponse packet ctrlInfo) := by
  rw [RIPRouting.isValidResponse]
  split_ifs with port
  · exact ⟨linked, rfl, nofun⟩
  · dsimp only [bind, Except.bind, pure, Except.pure]
    cases local' : st.rt.isLocalAddress ctrlInfo.srcAddr with
    | error e => exact .inr (isLocalAddress_error local')
    | ok answer =>
      obtain ⟨addresses, eq⟩ := isLocalAddress_table local'
      have kept : Linked I { st with rt := answer.1 } none none := by
        rw [eq]
        exact linked.of_rt ⟨linked.distinct.nodup, linked.distinct.fresh⟩ le_rfl
          (fun route mem _ _ => mem) fun route mem _ _ => mem
      dsimp only
      split_ifs with bad
      · exact ⟨kept, rfl, nofun⟩
      · refine ⟨kept, rfl, fun _ zero => bad ?_⟩
        rw [zero, isNeighborAddress_zero]
        simp

/-- No entry of a valid response undercuts an imported route of its prefix. -/
def ResponseSafe (st : RIPRouting) (packet : RIPPacket) (ctrlInfo : UDPDataIndication) : Prop :=
  ∀ st' incomingIe, st.isValidResponse packet ctrlInfo = .ok (st', true) →
    st.findInterfaceById ctrlInfo.interfaceId = some incomingIe → ∀ entry ∈ packet.entries,
    ∀ r ∈ st.ripRoutes, (r.type = .RIP_ROUTE_INTERFACE ∨ r.type = .RIP_ROUTE_REDISTRIBUTE) →
    r.metric < RIP_INFINITE_METRIC → r.key = (entry.address, entry.prefixLength) →
    r.metric ≤ entry.metric + incomingIe.metric

lemma processResponse_linked (linked : Linked Set.univ st none none) (packet : RIPPacket)
    (ctrlInfo : UDPDataIndication) (safe : ResponseSafe st packet ctrlInfo) :
    EndsIn Throws (fun st' => Linked Set.univ st' none none) (st.processResponse packet ctrlInfo) := by
  let imports : Set (RouteType × (IPv4Address × ℤ) × ℕ) :=
    { route | ∃ r ∈ st.ripRoutes, r.type ≠ .RIP_ROUTE_RTE ∧ r.metric < RIP_INFINITE_METRIC ∧
      route = (r.type, r.key, r.metric) }
  have known : Linked imports st none none := linked.of_imported fun r mem other type =>
    ⟨(linked.imported r mem other type).fromAddr, fun finite => ⟨r, mem, type, finite, rfl⟩⟩
  have whole {st : RIPRouting} (linked : Linked imports st none none) :
      Linked Set.univ st none none := linked.of_imported fun r mem other type =>
    ⟨(linked.imported r mem other type).fromAddr, fun _ => Set.mem_univ _⟩
  refine EndsIn.bind (isValidResponse_linked known packet ctrlInfo).self fun result spec => ?_
  obtain ⟨valid, isValid⟩ := result
  obtain ⟨⟨validLinked, interfaces, src⟩, run⟩ := spec
  cases isValid with
  | false => exact whole validLinked
  | true =>
    dsimp only
    have same : valid.findInterfaceById ctrlInfo.interfaceId =
        st.findInterfaceById ctrlInfo.interfaceId := congrArg (List.find? _) interfaces
    rw [same]
    cases found : st.findInterfaceById ctrlInfo.interfaceId with
    | none => exact whole validLinked
    | some incomingIe =>
      refine (processEntries_linked (src rfl) (fun entry mem => ?_) valid validLinked).mono
        fun st' => whole
      intro type metric imported static default
      obtain ⟨r, rMem, learned, finite, eq⟩ := imported
      obtain ⟨rfl, rest⟩ := Prod.mk.inj eq
      obtain ⟨key, rfl⟩ := Prod.mk.inj rest
      refine safe valid incomingIe run found entry mem r rMem ?_ finite key.symm
      cases type : r.type with
      | RIP_ROUTE_RTE => exact absurd type learned
      | RIP_ROUTE_STATIC => exact absurd type static
      | RIP_ROUTE_DEFAULT => exact absurd type default
      | RIP_ROUTE_REDISTRIBUTE => exact .inr rfl
      | RIP_ROUTE_INTERFACE => exact .inl rfl

end

/-! ## Updates -/

/-- The last `RIPRoute` is not due to be purged, so that no loop erases it and runs past the end. -/
def LastSafe (st : RIPRouting) : Prop :=
  ∀ last, st.ripRoutes.getLast? = some last → st.expiry last ≠ .purged

/-- What the expiry of the routes depends on. -/
structure SameClock (st st' : RIPRouting) : Prop where
  now : st'.rt.now = st.rt.now
  routeExpiryTime : st'.routeExpiryTime = st.routeExpiryTime
  routePurgeTime : st'.routePurgeTime = st.routePurgeTime
  ripInterfaces : st'.ripInterfaces = st.ripInterfaces

/-- What the expiry of a route depends on, and which route it is. -/
def Timed (r r' : RIPRoute) : Prop :=
  r'.id = r.id ∧ r'.type = r.type ∧ r'.lastUpdateTime = r.lastUpdateTime

/-- The last route stays, with its expiry. -/
structure LastKept (st st' : RIPRouting) : Prop extends SameClock st st' where
  last : ∀ last', st'.ripRoutes.getLast? = some last' →
    ∃ last, st.ripRoutes.getLast? = some last ∧ Timed last last'

lemma SameClock.expiry_eq (same : SameClock st st') {r r' : RIPRoute} (timed : Timed r r') :
    st'.expiry r' = st.expiry r := by
  rw [RIPRouting.expiry, RIPRouting.expiry, timed.2.1, timed.2.2, same.now, same.routeExpiryTime,
    same.routePurgeTime]

lemma SameClock.trans {st'' : RIPRouting} (first : SameClock st st') (second : SameClock st' st'') :
    SameClock st st'' :=
  ⟨second.now.trans first.now, second.routeExpiryTime.trans first.routeExpiryTime,
    second.routePurgeTime.trans first.routePurgeTime,
    second.ripInterfaces.trans first.ripInterfaces⟩

namespace LastKept

lemma refl (st : RIPRouting) : LastKept st st :=
  ⟨⟨rfl, rfl, rfl, rfl⟩, fun last found => ⟨last, found, rfl, rfl, rfl⟩⟩

lemma trans {st'' : RIPRouting} (first : LastKept st st') (second : LastKept st' st'') :
    LastKept st st'' := by
  refine ⟨first.toSameClock.trans second.toSameClock, fun last'' found'' => ?_⟩
  obtain ⟨last', found', id', type', time'⟩ := second.last last'' found''
  obtain ⟨last, found, id, type, time⟩ := first.last last' found'
  exact ⟨last, found, id'.trans id, type'.trans type, time'.trans time⟩

lemma safe (kept : LastKept st st') (safe : LastSafe st) : LastSafe st' := by
  intro last' found'
  obtain ⟨last, found, timed⟩ := kept.last last' found'
  rw [kept.expiry_eq timed]
  exact safe last found

lemma of_map (same : SameClock st st') {f : RIPRoute → RIPRoute}
    (ripRoutes : st'.ripRoutes = st.ripRoutes.map f) (timed : ∀ r, Timed r (f r)) :
    LastKept st st' := by
  refine ⟨same, fun last' found' => ?_⟩
  rw [ripRoutes, getLast?_map] at found'
  obtain ⟨last, found, rfl⟩ := Option.map_eq_some_iff.mp found'
  exact ⟨last, found, timed last⟩

end LastKept

lemma modify_lastKept (id : ℕ) {f : RIPRoute → RIPRoute} (timed : ∀ r, Timed r (f r)) :
    LastKept st (st.modify id f) := by
  refine .of_map ⟨rfl, rfl, rfl, rfl⟩ rfl fun r => ?_
  split_ifs
  · exact timed r
  · exact ⟨rfl, rfl, rfl⟩

lemma removeRoute_now (rt : RoutingTable) (id : ℕ) : (rt.removeRoute id).now = rt.now := by
  rw [removeRoute]
  split_ifs <;> rfl

lemma deleteRoute_lastKept (q : ℕ) : LastKept st (st.deleteRoute q) := by
  rw [RIPRouting.deleteRoute]
  cases st.rt.routes.find? fun entry => entry.id = q with
  | none => exact .refl st
  | some entry =>
    dsimp only
    rw [RIPRouting.notifyDeleted]
    split_ifs
    · exact ⟨⟨removeRoute_now .., rfl, rfl, rfl⟩, (LastKept.refl st).last⟩
    · refine .of_map ⟨removeRoute_now .., rfl, rfl, rfl⟩ rfl fun r => ?_
      split_ifs
      · exact ⟨rfl, rfl, rfl⟩
      · exact ⟨rfl, rfl, rfl⟩

lemma deleteRouteOf_lastKept (id : ℕ) : LastKept st (st.deleteRouteOf id) := by
  rw [RIPRouting.deleteRouteOf]
  cases st.routeOf id with
  | none => exact .refl st
  | some route =>
    have cut : LastKept st (st.setRoute id none) := modify_lastKept id fun _ => ⟨rfl, rfl, rfl⟩
    exact cut.trans (deleteRoute_lastKept route)

lemma invalidateRoute_lastKept (id : ℕ) : LastKept st (st.invalidateRoute id) :=
  (deleteRouteOf_lastKept id).trans (modify_lastKept id fun _ => ⟨rfl, rfl, rfl⟩)

lemma purgeRoute_lastKept {id : ℕ}
    (other : ∀ last, st.ripRoutes.getLast? = some last → last.id ≠ id) :
    LastKept st (st.purgeRoute id) := by
  have cut : LastKept st (st.deleteRouteOf id) := deleteRouteOf_lastKept id
  refine ⟨⟨cut.now, cut.routeExpiryTime, cut.routePurgeTime, cut.ripInterfaces⟩,
    fun last' found' => ?_⟩
  change ((st.deleteRouteOf id).ripRoutes.filter fun r => r.id ≠ id).getLast? = _ at found'
  cases found : (st.deleteRouteOf id).ripRoutes.getLast? with
  | none =>
    rw [getLast?_eq_none_iff.mp found] at found'
    cases found'
  | some last₁ =>
    obtain ⟨last, lastFound, timed⟩ := cut.last last₁ found
    have kept : last₁.id ≠ id := timed.1 ▸ other last lastFound
    obtain ⟨front, eq⟩ := getLast?_eq_some_iff.mp found
    rw [eq, filter_append, filter_singleton, decide_eq_true kept, cond_true,
      getLast?_concat] at found'
    obtain rfl := Option.some.inj found'
    exact ⟨last, lastFound, timed⟩

section

variable {st₀ : RIPRouting} {ri : RIPInterfaceEntry} {changedOnly : Bool}

/-- The iterator goes over routes that were there when the loop began, and up to the last one. -/
structure Ahead (st₀ : RIPRouting) (routes : List RIPRoute) : Prop where
  mem : ∀ r ∈ routes, r ∈ st₀.ripRoutes
  last : ∀ last, routes.getLast? = some last → st₀.expiry last ≠ .purged

lemma Ahead.tail {routes : List RIPRoute} (ahead : Ahead st₀ (r :: routes)) : Ahead st₀ routes := by
  refine ⟨fun other mem => ahead.mem other (mem_cons_of_mem _ mem), fun last found => ?_⟩
  refine ahead.last last ?_
  rw [getLast?_cons, found]
  rfl

lemma sendLoop_linked (linked₀ : Linked I st₀ none none) (safe : LastSafe st₀)
    {routes : List RIPRoute} (ahead : Ahead st₀ routes) (linked : Linked I st none none)
    (kept : LastKept st₀ st) :
    EndsIn Throws (fun result => Linked I result.1 none none ∧ LastKept st₀ result.1)
      (RIPRouting.sendLoop ri changedOnly routes st) := by
  induction routes, st using RIPRouting.sendLoop.induct with
  | case1 st => exact ⟨linked, kept⟩
  | case2 r st valid =>
    rw [RIPRouting.sendLoop, valid]
    exact ⟨linked, kept⟩
  | case3 r st expired =>
    rw [RIPRouting.sendLoop, expired]
    exact ⟨invalidateRoute_linked linked r.id, kept.trans (invalidateRoute_lastKept r.id)⟩
  | case4 r st purged =>
    rw [kept.expiry_eq ⟨rfl, rfl, rfl⟩] at purged
    exact absurd purged (ahead.last r rfl)
  | case5 r next rest st valid ih =>
    rw [RIPRouting.sendLoop, valid]
    exact (ih ahead.tail linked kept).bind fun result spec => spec
  | case6 r next rest st expired ih =>
    rw [RIPRouting.sendLoop, expired]
    exact ih ahead.tail (invalidateRoute_linked linked r.id)
      (kept.trans (invalidateRoute_lastKept r.id))
  | case7 r next rest st purged ih =>
    rw [RIPRouting.sendLoop, purged]
    refine ih ahead.tail.tail (purgeRoute_linked linked r.id)
      (kept.trans (purgeRoute_lastKept fun last found eq => ?_))
    obtain ⟨last₀, found₀, timed⟩ := kept.last last found
    rw [kept.expiry_eq ⟨rfl, rfl, rfl⟩] at purged
    have same := linked₀.eq_of_id (mem_of_getLast? found₀) (ahead.mem r mem_cons_self)
      (timed.1.symm.trans eq)
    exact safe last₀ found₀ (same ▸ purged)

lemma fillPackets_error {maxEntries : ℤ} {entries : List RIPEntry} {e : SimError}
    (failed : RIPRouting.fillPackets maxEntries entries = .error e) : Throws e := by
  rw [RIPRouting.fillPackets] at failed
  split_ifs at failed
  cases failed
  exact .inl ⟨_, rfl⟩

lemma sendRoutes_linked (linked : Linked I st none none) (safe : LastSafe st)
    (address : Option IPv4Address) :
    EndsIn Throws (fun result => Linked I result.1 none none ∧ LastKept st result.1)
      (st.sendRoutes address ri changedOnly) := by
  refine EndsIn.bind (sendLoop_linked linked safe ⟨fun r mem => mem, safe⟩ linked (.refl st))
    fun result spec => ?_
  exact EndsIn.bind (.of_forall (fun packets _ => trivial) fun e => fillPackets_error)
    fun packets (_ : True) => spec

lemma updateLoop_linked {triggered : Bool} (ripInterfaces : List RIPInterfaceEntry)
    (linked : Linked I st none none)
    (safe : (∃ ri ∈ ripInterfaces, ri.mode ≠ .NO_RIP) → LastSafe st) :
    EndsIn Throws (fun result => Linked I result.1 none none)
      (RIPRouting.updateLoop triggered ripInterfaces st) := by
  induction ripInterfaces generalizing st with
  | nil => exact linked
  | cons ri rest ih =>
    rw [RIPRouting.updateLoop]
    split_ifs with off
    · exact ih linked fun ⟨other, mem, on⟩ => safe ⟨other, mem_cons_of_mem _ mem, on⟩
    · have last := safe ⟨ri, mem_cons_self, off⟩
      refine EndsIn.bind (sendRoutes_linked linked last none) fun result spec => ?_
      refine EndsIn.bind (ih spec.1 fun _ => spec.2.safe last) fun more spec => ?_
      exact spec

/-- An update of a router with some interface that is not `NO_RIP`. -/
def UpdateSafe (st : RIPRouting) : Prop :=
  (∃ ripInterface ∈ st.ripInterfaces, ripInterface.mode ≠ .NO_RIP) → LastSafe st

lemma processUpdate_linked (linked : Linked I st none none) (safe : UpdateSafe st)
    (triggered : Bool) :
    EndsIn Throws (fun result => Linked I result.1 none none) (st.processUpdate triggered) := by
  refine EndsIn.bind (updateLoop_linked st.ripInterfaces linked safe) fun result spec => ?_
  exact spec.relabel (fun _ => ⟨rfl, rfl, rfl, rfl, rfl⟩) fun _ => ⟨rfl, rfl, rfl⟩

end

lemma answer_error {numEntries : ℕ} {entries : List RIPEntry} {e : SimError}
    (failed : st.answer numEntries entries = .error e) : Throws e := by
  induction entries with
  | nil => cases failed
  | cons entry rest ih =>
    rw [RIPRouting.answer] at failed
    split_ifs at failed
    · cases failed
      exact .inl ⟨_, rfl⟩
    · cases rested : st.answer numEntries rest with
      | error e' =>
        rw [rested] at failed
        cases failed
        exact ih rested
      | ok answered =>
        rw [rested] at failed
        cases failed
    · cases failed
      exact .inl ⟨_, rfl⟩

/-- A request for the whole table. -/
def RequestSafe (st : RIPRouting) (packet : RIPPacket) (ctrlInfo : UDPDataIndication) : Prop :=
  st.answer packet.entries.length packet.entries = .ok none →
    st.findInterfaceById ctrlInfo.interfaceId ≠ none → LastSafe st

lemma processRequest_linked (linked : Linked I st none none) (packet : RIPPacket)
    (ctrlInfo : UDPDataIndication) (safe : RequestSafe st packet ctrlInfo) :
    EndsIn Throws (fun result => Linked I result.1 none none)
      (st.processRequest packet ctrlInfo) := by
  rw [RIPRouting.processRequest]
  split_ifs with empty
  · exact linked
  · dsimp only [pure, Except.pure, bind, Except.bind]
    cases answered : st.answer packet.entries.length packet.entries with
    | error e => exact answer_error answered
    | ok result =>
      cases result with
      | some entries => exact linked
      | none =>
        cases found : st.findInterfaceById ctrlInfo.interfaceId with
        | none => exact linked
        | some ri =>
          refine (sendRoutes_linked linked (safe answered ?_) _).mono fun result => And.left
          rw [found]
          exact Option.some_ne_none ri

lemma findByInterface_some {ie : ℕ} {type : RouteType} (found : st.findByInterface ie type = some r) :
    r ∈ st.ripRoutes ∧ r.type = type := by
  have test := find?_some found
  obtain ⟨type, -⟩ := of_decide_eq_true test
  exact ⟨mem_of_find?_eq_some found, type⟩

lemma notifyDeleted_deleteInterface (st : RIPRouting) (entry : IPv4Route) (ie : ℕ) :
    (st.notifyDeleted entry).deleteInterface ie = (st.deleteInterface ie).notifyDeleted entry := by
  rw [RIPRouting.notifyDeleted, RIPRouting.notifyDeleted]
  split_ifs
  · rfl
  · rw [RIPRouting.routeDeleted, RIPRouting.routeDeleted, RIPRouting.deleteInterface,
      RIPRouting.deleteInterface, filter_map]
    congr 2
    refine filter_congr fun r _ => ?_
    rw [Function.comp_apply]
    split_ifs <;> rfl

lemma foldl_notifyDeleted_deleteInterface (deleted : List IPv4Route) (st : RIPRouting) (ie : ℕ) :
    (deleted.foldl RIPRouting.notifyDeleted st).deleteInterface ie =
      deleted.foldl RIPRouting.notifyDeleted (st.deleteInterface ie) := by
  induction deleted generalizing st with
  | nil => rfl
  | cons entry rest ih =>
    rw [foldl_cons, foldl_cons, ih, notifyDeleted_deleteInterface]

end Inet.Rip
