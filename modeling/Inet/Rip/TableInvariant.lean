import Inet.Rip.TableRuns

/-!
# The RIP table in any run

In a run whose steps are `StepSafe` the tables stay linked, whatever the order of packets, timers
and changes by others.
-/

namespace Inet.Rip

open Ipv4 List
open Ipv4.RoutingTable

variable {st st' : RIPRouting} {x p : Option ℕ} {r : RIPRoute} {route en : IPv4Route}

lemma getInterfaceMetric_lt (st : RIPRouting) (ie : ℕ) :
    st.getInterfaceMetric ie < RIP_INFINITE_METRIC := by
  rw [RIPRouting.getInterfaceMetric]
  cases st.findInterfaceById ie with
  | none => decide
  | some ripInterface => exact ripInterface.metric_lt

/-- The prefix of a route in the table. -/
def prefixOf (route : IPv4Route) : IPv4Address × ℤ := (route.dest, route.netmask.getNetmaskLength)

/-- A route of another module, with a pointer that has been given out. -/
def Foreign (rt : RoutingTable) (q : ℕ) : Prop :=
  q < rt.nextId ∧ ∀ route ∈ rt.routes, route.id = q → route.sourceType ≠ .RIP

lemma Linked.settleImported (linked : Linked Set.univ st (some r.id) none) (mem : r ∈ st.ripRoutes)
    (type : r.type ≠ .RIP_ROUTE_RTE) (fromAddr : r.fromAddr = 0)
    (finite : r.metric < RIP_INFINITE_METRIC) {q : ℕ} (pointer : r.route = some q)
    (foreign : Foreign st.rt q) : Linked Set.univ st none none := by
  refine linked.settle (fun r' mem' eq _ => ?_) (fun r' mem' eq => ?_) fun _ _ eq => nomatch eq
  · rw [linked.eq_of_id mem' mem (Option.some.inj eq)]
    exact ⟨fromAddr, fun _ => Set.mem_univ _⟩
  · rw [linked.eq_of_id mem' mem (Option.some.inj eq)]
    exact .imported type finite q pointer foreign.2

lemma importRoute_linked (linked : Linked Set.univ st none none) {type : RouteType}
    (imported : type ≠ .RIP_ROUTE_RTE) {metric : ℕ} (finite : metric < RIP_INFINITE_METRIC)
    (tag : ℕ) (foreign : Foreign st.rt route.id)
    (new : ∀ r ∈ st.ripRoutes, r.key ≠ prefixOf route) :
    EndsIn Throws (fun st' => Linked Set.univ st' none none ∧ st'.rt = st.rt ∧
        st'.ripRoutes.map RIPRoute.key = st.ripRoutes.map RIPRoute.key ++ [prefixOf route])
      (st.importRoute route type metric tag) := by
  rw [RIPRouting.importRoute, assert, if_pos (decide_eq_true finite)]
  refine ⟨?_, rfl, map_append⟩
  refine Linked.settleImported (linked.push rfl new fun q points => ?_)
    (mem_append_right _ (mem_singleton_self _)) imported rfl finite rfl foreign
  obtain rfl := Option.some.inj points
  exact foreign.1

/-- The route of an interface, which is imported when it is added. -/
def InterfaceRoute (st : RIPRouting) (route : IPv4Route) (ie : ℕ) : Prop :=
  route.sourceType = .IFACENETMASK ∧ st.isLoopback route.interfacePtr = false ∧
    route.interfacePtr = some ie

/-- A new interface route is imported for a prefix that no `RIPRoute` has. -/
def AddedSafe (st : RIPRouting) (route : IPv4Route) : Prop :=
  ∀ ie, InterfaceRoute st route ie → st.findByInterface ie .RIP_ROUTE_INTERFACE = none →
    ∀ r ∈ st.ripRoutes, r.key ≠ prefixOf route

lemma routeAdded_linked (linked : Linked Set.univ st none none) (foreign : Foreign st.rt route.id)
    (safe : AddedSafe st route) :
    EndsIn Throws (fun st' => Linked Set.univ st' none none) (st.routeAdded route) := by
  rw [RIPRouting.routeAdded]
  split_ifs with loopback
  · exact linked
  cases local' : st.isLocalInterfaceRoute route with
  | false => exact linked
  | true =>
    cases interface : route.interfacePtr with
    | none => exact linked
    | some ie =>
      obtain ⟨source, outside⟩ := Bool.and_eq_true_iff.mp local'
      rw [Bool.not_eq_true'] at outside
      have here : InterfaceRoute st route ie := ⟨of_decide_eq_true source, outside, interface⟩
      dsimp only
      cases found : st.findByInterface ie .RIP_ROUTE_INTERFACE with
      | none =>
        have imported : RouteType.RIP_ROUTE_INTERFACE ≠ .RIP_ROUTE_RTE := by decide
        exact (importRoute_linked linked imported (getInterfaceMetric_lt st ie) 0 foreign
          (safe ie here found)).mono fun st' spec => spec.1
      | some r =>
        obtain ⟨mem, type⟩ := findByInterface_some found
        have imported : r.type ≠ .RIP_ROUTE_RTE := by
          rw [type]
          decide
        rcases linked.focus mem with ⟨learned, -⟩ | ⟨-, focused, -⟩
        · exact absurd learned.1 imported
        · let f : RIPRoute → RIPRoute := fun r =>
            { r with route := some route.id, metric := st.getInterfaceMetric ie, changed := true }
          have readded : Linked Set.univ (st.modify r.id f) (some r.id) none :=
            focused.modify rfl (fun _ => ⟨rfl, rfl⟩) fun r mem eq q points => by
              obtain rfl := Option.some.inj points
              exact foreign.1
          exact Linked.settleImported (r := f r) readded (mem_modify_self mem) imported
            (linked.imported r mem nofun imported).fromAddr (getInterfaceMetric_lt st ie) rfl
            foreign

/-! ## Changes of the table by others -/

lemma insertRoute_linked (linked : Linked Set.univ st none none)
    (source : en.sourceType = .IFACENETMASK) :
    Linked Set.univ { st with rt := ({ st.rt.insertRoute { en with id := st.rt.nextId } with
      nextId := st.rt.nextId + 1 } : RoutingTable).invalidateCache } none none := by
  have raised : Distinct { st.rt with nextId := st.rt.nextId + 1 } :=
    linked.distinct.of_sublist (List.Sublist.refl _) (Nat.le_succ _)
  have distinct : Distinct (RoutingTable.insertRoute { st.rt with nextId := st.rt.nextId + 1 }
      { en with id := st.rt.nextId }) := raised.insertRoute
    (fun route mem => (linked.distinct.fresh route mem).ne) (Nat.lt_succ_self _)
  refine linked.of_rt ⟨distinct.nodup, distinct.fresh⟩ (Nat.le_succ _) ?_ ?_
  · intro route mem own _
    rcases (mem_orderedInsert _).mp mem with rfl | old
    · exact absurd (source.symm.trans own) (by decide)
    · exact old
  · intro route mem _ _
    exact (mem_orderedInsert _).mpr (.inr mem)

/-- Another module adds a route: it does not replace a default route of this one, and an interface
route is not imported twice for one prefix. -/
structure OthersAddSafe (st : RIPRouting) (entry : IPv4Route) : Prop where
  source : entry.sourceType ≠ .RIP
  replaced : entry.sourceType ≠ .IFACENETMASK → ∀ old,
    st.rt.replacedDefault entry.netmask = some old → old.sourceType ≠ .RIP
  added : AddedSafe st entry

lemma othersAddRoute_linked (linked : Linked Set.univ st none none) (safe : OthersAddSafe st en) :
    EndsIn Throws (fun st' => Linked Set.univ st' none none) (st.othersAddRoute en) := by
  rw [RIPRouting.othersAddRoute]
  dsimp only
  split_ifs with source
  · refine routeAdded_linked (insertRoute_linked linked source) ⟨Nat.lt_succ_self _, ?_⟩ safe.added
    intro route mem eq
    rcases (mem_orderedInsert _).mp mem with rfl | old
    · exact safe.source
    · exact absurd eq (linked.distinct.fresh route old).ne
  · refine EndsIn.bind (linked.rtAddRoute_of_notOwn fun _ => safe.replaced source) fun result spec => ?_
    obtain ⟨added, -, -, -, mem, -⟩ := spec
    have settled : Linked Set.univ result.1 none none := by
      refine added.settle (fun _ _ eq => nomatch eq) (fun _ _ eq => nomatch eq)
        fun route routeMem eq own => ?_
      rw [added.route_eq routeMem mem (Option.some.inj eq)] at own
      exact absurd own safe.source
    rw [RIPRouting.routeAdded]
    split_ifs
    · exact settled
    · have other : result.1.isLocalInterfaceRoute { en with id := st.rt.nextId } = false := by
        rw [RIPRouting.isLocalInterfaceRoute, decide_eq_false source, Bool.false_and]
      rw [other]
      exact settled

/-- Another module changes a route that is not this module's, nor replaces one of its default
routes, and the new prefix is not that of another `RIPRoute`. -/
structure OthersChangeSafe (st : RIPRouting) (id : ℕ) (change : IPv4Route.Change) : Prop where
  source : ∀ route ∈ st.rt.routes, route.id = id → route.sourceType ≠ .RIP ∧
    (change.apply route).sourceType ≠ .RIP
  replaced : ∀ old, st.rt.readdedDefault id change = some old → old.sourceType ≠ .RIP
  changed : ∀ route ∈ st.rt.routes, route.id = id → change.apply route ≠ route →
    ∀ r ∈ st.ripRoutes, r.route = some id → ∀ other ∈ st.ripRoutes, other.id ≠ r.id →
      other.key ≠ prefixOf (change.apply route)

lemma setOther_linked (linked : Linked Set.univ st none none) {id : ℕ} {change : IPv4Route.Change}
    (safe : OthersChangeSafe st id change) :
    EndsIn Throws (fun st' => Linked Set.univ st' none none) (st.setField id change) := by
  rw [RIPRouting.setField]
  cases set : st.rt.setField id change with
  | error e => exact .inl (setField_error linked.distinct set)
  | ok rt' =>
    have spec := setField_mem linked.distinct set
    refine Linked.notifyReplaced (linked.of_rt spec.distinct (le_of_eq spec.nextId.symm) ?_ ?_)
      fun old readded => (spec.gone old readded).2.2
    · intro route mem own _
      rcases spec.back route mem with ⟨-, old⟩ | ⟨old, oldMem, eq, rfl⟩
      · exact old
      · exact absurd own (safe.source old oldMem eq).2
    · intro route mem own _
      refine spec.kept route mem (fun eq => (safe.source route mem eq).1 own) fun old readded eq => ?_
      refine safe.replaced old readded ?_
      rwa [← linked.route_eq mem (spec.gone old readded).1 eq]

lemma rekey_linked (linked : Linked Set.univ st none none) (mem : r ∈ st.ripRoutes)
    (imported : r.type ≠ .RIP_ROUTE_RTE) {f : RIPRoute → RIPRoute}
    (same : ∀ r, (f r).id = r.id ∧ (f r).type = r.type ∧ (f r).route = r.route ∧
      (f r).fromAddr = r.fromAddr ∧ (f r).metric = r.metric)
    (new : ∀ other ∈ st.ripRoutes, other.id ≠ r.id → other.key ≠ (f r).key) :
    Linked Set.univ (st.modify r.id f) none none := by
  have here {r' : RIPRoute} (mem' : r' ∈ st.ripRoutes) (eq : r'.id = r.id) : r' = r :=
    linked.eq_of_id mem' mem eq
  constructor
  · exact linked.distinct
  · have ids : (st.modify r.id f).ripRoutes.map RIPRoute.id = st.ripRoutes.map RIPRoute.id := by
      rw [RIPRouting.modify, map_map]
      refine map_congr_left fun r' _ => ?_
      rw [Function.comp_apply]
      split_ifs
      · exact (same r').1
      · rfl
    rw [ids]
    exact linked.nodup
  · intro r' mem'
    obtain ⟨old, oldMem, rfl⟩ := mem_modify.mp mem'
    have lt := linked.fresh old oldMem
    split_ifs
    · rw [(same old).1]
      exact lt
    · exact lt
  · rw [RIPRouting.modify, map_map]
    refine (nodup_map_iff_inj_on linked.nodup.of_map).mpr fun a aMem b bMem eq => ?_
    rw [Function.comp_apply, Function.comp_apply] at eq
    by_cases aHere : a.id = r.id
    · by_cases bHere : b.id = r.id
      · rw [here aMem aHere, here bMem bHere]
      · rw [if_pos aHere, if_neg bHere, here aMem aHere] at eq
        exact absurd eq.symm (new b bMem bHere)
    · by_cases bHere : b.id = r.id
      · rw [if_neg aHere, if_pos bHere, here bMem bHere] at eq
        exact absurd eq (new a aMem aHere)
      · rw [if_neg aHere, if_neg bHere] at eq
        exact inj_on_of_nodup_map linked.keys aMem bMem eq
  · intro r' mem' q points
    obtain ⟨old, oldMem, rfl⟩ := mem_modify.mp mem'
    refine ⟨?_, fun eq => absurd eq (Option.some_ne_none q)⟩
    split_ifs at points
    · rw [(same old).2.2.1] at points
      exact (linked.known old oldMem q points).1
    · exact (linked.known old oldMem q points).1
  · intro r' mem' _ type
    obtain ⟨old, oldMem, rfl⟩ := mem_modify.mp mem'
    split_ifs at type ⊢
    · rw [(same old).2.1] at type
      exact ⟨(same old).2.2.2.1.trans (linked.imported old oldMem (Option.some_ne_none _) type).fromAddr,
        fun _ => Set.mem_univ _⟩
    · exact linked.imported old oldMem (Option.some_ne_none _) type
  · intro r' mem' _
    obtain ⟨old, oldMem, rfl⟩ := mem_modify.mp mem'
    split_ifs with eq
    · obtain ⟨-, type, pointer, -, metric⟩ := same old
      cases linked.settled old oldMem (Option.some_ne_none _) with
      | invalid infinite none => exact .invalid (metric.trans infinite) (pointer.trans none)
      | learned learned => exact absurd (here oldMem eq ▸ learned.1) imported
      | imported foreign finite q points others =>
        refine .imported ?_ ?_ q (pointer.trans points) others
        · rw [type]
          exact foreign
        · rw [metric]
          exact finite
    · exact linked.settled old oldMem (Option.some_ne_none _)
  · intro route routeMem own _
    obtain ⟨old, oldMem, -, mirrors⟩ := linked.owned route routeMem own (Option.some_ne_none _)
    have learned := (linked.mirrors_of_pointer oldMem (Option.some_ne_none _) routeMem own mirrors.pointer).1
    have other : old.id ≠ r.id := fun eq => imported (here oldMem eq ▸ learned.1)
    exact ⟨old, mem_modify.mpr ⟨old, oldMem, (if_neg other).symm⟩, Option.some_ne_none _, mirrors⟩

lemma routeChanged_linked (linked : Linked Set.univ st none none) (foreign : Foreign st.rt route.id)
    (new : ∀ r ∈ st.ripRoutes, r.route = some route.id → ∀ other ∈ st.ripRoutes, other.id ≠ r.id →
      other.key ≠ prefixOf route) : Linked Set.univ (st.routeChanged route) none none := by
  rw [RIPRouting.routeChanged]
  cases found : st.findByRoute route.id with
  | none => exact linked
  | some r =>
    have mem : r ∈ st.ripRoutes := mem_of_find?_eq_some found
    have test := find?_some found
    have pointer : r.route = some route.id := of_decide_eq_true test
    have imported : r.type ≠ .RIP_ROUTE_RTE := by
      cases linked.settled r mem nofun with
      | invalid metric none => exact nomatch none.symm.trans pointer
      | learned learned route' mem' mirrors =>
        have eq := Option.some.inj (mirrors.pointer.symm.trans pointer)
        exact absurd mirrors.source (foreign.2 route' mem' eq)
      | imported type => exact type
    exact rekey_linked linked mem imported (fun _ => ⟨rfl, rfl, rfl, rfl, rfl⟩) (new r mem pointer)

lemma othersChangeRoute_linked (linked : Linked Set.univ st none none) {id : ℕ}
    {change : IPv4Route.Change} (safe : OthersChangeSafe st id change) :
    EndsIn Throws (fun st' => Linked Set.univ st' none none) (st.othersChangeRoute id change) := by
  rw [RIPRouting.othersChangeRoute]
  cases found : st.rt.routes.find? fun route => route.id = id with
  | none => exact linked
  | some route =>
    have mem := mem_of_find?_eq_some found
    have here : route.id = id := by simpa using find?_some found
    refine EndsIn.bind (setOther_linked linked safe).self fun st' spec => ?_
    obtain ⟨linked', run⟩ := spec
    split_ifs with same
    · exact linked'
    · have changed : change.apply route ≠ route := fun eq => same (.inl eq)
      obtain ⟨rt', set, eq⟩ := Except.bind_eq_ok run
      cases eq
      have applied := (setField_mem linked.distinct set).changed route mem here
      have id' : (change.apply route).id = id := (Change.apply_id ..).trans here
      have member : change.apply route ∈ (RIPRouting.notifyReplaced { st with rt := rt' }
          (st.rt.readdedDefault id change)).rt.routes := by
        rw [notifyReplaced_rt]
        exact applied
      refine routeChanged_linked linked' ⟨linked'.distinct.fresh _ member, ?_⟩ ?_
      · intro route' mem' eq
        rw [linked'.route_eq mem' member eq]
        exact (safe.source route mem here).2
      · intro r rMem points other otherMem apart
        rw [id'] at points
        obtain ⟨r₀, mem₀, sameId, -, samePointer⟩ := mem_notifyReplaced_back rMem
        obtain ⟨other₀, otherMem₀, otherId, otherKey, -⟩ := mem_notifyReplaced_back otherMem
        rw [points] at samePointer
        rw [otherKey]
        refine safe.changed route mem here changed r₀ mem₀ (samePointer nofun).symm other₀
          otherMem₀ ?_
        rw [← otherId, ← sameId]
        exact apart

/-! ## Interfaces -/

lemma invalidateRoutes_linked {I : Set (RouteType × (IPv4Address × ℤ) × ℕ)}
    (linked : Linked I st none none) (ie : ℕ) : Linked I (st.invalidateRoutes ie) none none := by
  rw [RIPRouting.invalidateRoutes]
  generalize (st.ripRoutes.filter fun r => r.ie = some ie) = routes
  induction routes generalizing st with
  | nil => exact linked
  | cons r rest ih => exact ih (invalidateRoute_linked linked r.id)

lemma foldl_notifyDeleted_linked (linked : Linked Set.univ st none none) (deleted : List IPv4Route)
    (gone : ∀ en ∈ deleted, ∀ route ∈ st.rt.routes, route.id ≠ en.id) :
    Linked Set.univ (deleted.foldl RIPRouting.notifyDeleted st) none none := by
  induction deleted generalizing st with
  | nil => exact linked
  | cons en rest ih =>
    refine ih (linked.notifyDeleted (gone en mem_cons_self)) fun other mem => ?_
    rw [notifyDeleted_rt]
    exact gone other (mem_cons_of_mem _ mem)

lemma interfaceDeleted_linked (linked : Linked Set.univ st none none) (ie : ℕ) :
    Linked Set.univ (st.interfaceDeleted ie) none none := by
  have next := deleteInterface_nextId st.rt ie
  have memTable {route : IPv4Route} : route ∈ (st.rt.deleteInterface ie).routes ↔
      route ∈ st.rt.routes ∧ route.interfacePtr ≠ some ie := by
    rw [deleteInterface_routes, mem_filter, decide_eq_true_iff]
  have sub : (st.rt.deleteInterface ie).routes.Sublist st.rt.routes := by
    rw [deleteInterface_routes]
    exact filter_sublist
  have memRip {r : RIPRoute} :
      r ∈ (RIPRouting.deleteInterface { st with rt := st.rt.deleteInterface ie } ie).ripRoutes ↔
        r ∈ st.ripRoutes ∧ r.ie ≠ some ie := by
    rw [RIPRouting.deleteInterface, mem_filter, decide_eq_true_iff]
  have cut : Linked Set.univ
      (RIPRouting.deleteInterface { st with rt := st.rt.deleteInterface ie } ie) none none := by
    constructor
    · exact linked.distinct.of_sublist sub next.ge
    · exact linked.nodup.sublist (filter_sublist.map _)
    · exact fun r mem => linked.fresh r (memRip.mp mem).1
    · exact linked.keys.sublist (filter_sublist.map _)
    · intro r mem q points
      refine ⟨?_, fun eq => absurd eq (Option.some_ne_none q)⟩
      change q < (st.rt.deleteInterface ie).nextId
      rw [next]
      exact (linked.known r (memRip.mp mem).1 q points).1
    · exact fun r mem => linked.imported r (memRip.mp mem).1
    · intro r mem _
      obtain ⟨old, elsewhere⟩ := memRip.mp mem
      cases linked.settled r old (Option.some_ne_none _) with
      | invalid metric none => exact .invalid metric none
      | learned learned route routeMem mirrors =>
        refine .learned learned route (memTable.mpr ⟨routeMem, ?_⟩) mirrors
        rw [mirrors.interfacePtr]
        exact elsewhere
      | imported type metric q points foreign =>
        exact .imported type metric q points fun route mem => foreign route (memTable.mp mem).1
    · intro route mem own _
      obtain ⟨old, elsewhere⟩ := memTable.mp mem
      obtain ⟨r, rMem, -, mirrors⟩ := linked.owned route old own (Option.some_ne_none _)
      refine ⟨r, memRip.mpr ⟨rMem, ?_⟩, Option.some_ne_none _, mirrors⟩
      rw [← mirrors.interfacePtr]
      exact elsewhere
  rw [RIPRouting.interfaceDeleted, foldl_notifyDeleted_deleteInterface]
  refine foldl_notifyDeleted_linked cut _ fun en deleted route mem eq => ?_
  obtain ⟨entryMem, here⟩ := mem_filter.mp deleted
  obtain ⟨routeMem, elsewhere⟩ := memTable.mp mem
  rw [linked.route_eq routeMem entryMem eq] at elsewhere
  exact elsewhere (of_decide_eq_true here)

/-- Nothing replaces a route of this module behind its back, no `RIPRoute` is made for a prefix that
has one, an imported route is not undercut, and the loop that purges routes does not run past the
end. -/
def StepSafe (st : RIPRouting) : RIPRouting.Event → Prop
  | .datagram packet ctrlInfo => (packet.command = RIP_REQUEST → RequestSafe st packet ctrlInfo) ∧
      (packet.command = RIP_RESPONSE → ResponseSafe st packet ctrlInfo)
  | .updateTimer => UpdateSafe st
  | .triggeredUpdateTimer => UpdateSafe st
  | .interfaceCreated _ => True
  | .interfaceDeleted _ => True
  | .interfaceStateChanged _ _ => True
  | .othersAddRoute entry => OthersAddSafe st entry
  | .othersDeleteRoute id => ∀ route ∈ st.rt.routes, route.id = id → route.sourceType ≠ .RIP
  | .othersChangeRoute id change => OthersChangeSafe st id change
  | .elapse _ => True

lemma step_linked (linked : Linked Set.univ st none none) {event : RIPRouting.Event}
    (safe : StepSafe st event) :
    EndsIn Throws (fun result => Linked Set.univ result.1 none none) (st.step event) := by
  cases event with
  | datagram packet ctrlInfo =>
    rw [RIPRouting.step, RIPRouting.handlePacket]
    split_ifs with request response
    · exact processRequest_linked linked packet ctrlInfo (safe.1 request)
    · exact (processResponse_linked linked packet ctrlInfo (safe.2 response)).bind
        fun st' linked' => linked'
    · exact .inl ⟨_, rfl⟩
  | updateTimer => exact processUpdate_linked linked safe false
  | triggeredUpdateTimer => exact processUpdate_linked linked safe true
  | interfaceCreated ripInterface => exact linked.of_eq rfl rfl rfl
  | interfaceDeleted ie => exact interfaceDeleted_linked linked ie
  | interfaceStateChanged ie isUp =>
    rw [RIPRouting.step, RIPRouting.interfaceStateChanged]
    cases isUp with
    | false => exact invalidateRoutes_linked linked ie
    | true =>
      rw [if_pos rfl]
      cases st.findInterfaceById ie with
      | none => exact linked
      | some ripInterface =>
        dsimp only
        split_ifs <;> exact linked
  | othersAddRoute en =>
    exact (othersAddRoute_linked linked safe).bind fun st' linked' => linked'
  | othersDeleteRoute id => exact linked.deleteOther safe
  | othersChangeRoute id change =>
    exact (othersChangeRoute_linked linked safe).bind fun st' linked' => linked'
  | elapse duration =>
    exact linked.of_rt ⟨linked.distinct.nodup, linked.distinct.fresh⟩ le_rfl
      (fun route mem _ _ => mem) fun route mem _ _ => mem

/-! ## Runs -/

/-- The route is imported when RIP starts. -/
def ImportedAtStart (st : RIPRouting) (route : IPv4Route) : Prop :=
  st.isLoopbackInterfaceRoute route = false ∧
    ((∃ ie, InterfaceRoute st route ie) ∨ route.netmask.isUnspecified ∨
      isMulticast route.dest = false)

/-- No two routes that are imported have one prefix. -/
def StartSafe (st : RIPRouting) : Prop :=
  st.rt.routes.Pairwise fun route other =>
    ImportedAtStart st route → ImportedAtStart st other → prefixOf route ≠ prefixOf other

/-- The states of the runs that start in `starts` and go on by steps in `allowed`. No route of the
table is one of this module before it starts. -/
inductive Reached (starts : RIPRouting → Prop) (allowed : RIPRouting → RIPRouting.Event → Prop) :
    RIPRouting → Prop
  | start {before st : RIPRouting} (distinct : Distinct before.rt)
    (foreign : ∀ route ∈ before.rt.routes, route.sourceType ≠ .RIP) (first : starts before)
    (started : before.startRIPRouting = .ok st) : Reached starts allowed st
  | step {st st' : RIPRouting} {event : RIPRouting.Event} {sent : List Sent}
    (reached : Reached starts allowed st) (allow : allowed st event)
    (stepped : st.step event = .ok (st', sent)) : Reached starts allowed st'

lemma ImportedAtStart.of_rt (rt : st'.rt = st.rt) (imported : ImportedAtStart st' route) :
    ImportedAtStart st route := by
  have same (ie : Option ℕ) : st.isLoopback ie = st'.isLoopback ie := by
    rw [RIPRouting.isLoopback, RIPRouting.isLoopback, rt]
  rw [ImportedAtStart, RIPRouting.isLoopbackInterfaceRoute] at imported ⊢
  simp only [InterfaceRoute] at imported ⊢
  rwa [same]

lemma configureInitialRoute_linked (linked : Linked Set.univ st none none)
    (foreign : Foreign st.rt route.id)
    (new : ImportedAtStart st route → ∀ r ∈ st.ripRoutes, r.key ≠ prefixOf route) :
    EndsIn Throws (fun st' => Linked Set.univ st' none none ∧ st'.rt = st.rt ∧
        ∀ r' ∈ st'.ripRoutes, (∃ r ∈ st.ripRoutes, r'.key = r.key) ∨
          ImportedAtStart st route ∧ r'.key = prefixOf route)
      (st.configureInitialRoute route) := by
  have kept : Linked Set.univ st none none ∧ st.rt = st.rt ∧
      ∀ r' ∈ st.ripRoutes, (∃ r ∈ st.ripRoutes, r'.key = r.key) ∨
        ImportedAtStart st route ∧ r'.key = prefixOf route :=
    ⟨linked, rfl, fun r mem => .inl ⟨r, mem, rfl⟩⟩
  have made {type : RouteType} (imported : type ≠ .RIP_ROUTE_RTE) {metric : ℕ}
      (finite : metric < RIP_INFINITE_METRIC) (first : ImportedAtStart st route) :
      EndsIn Throws (fun st' => Linked Set.univ st' none none ∧ st'.rt = st.rt ∧
        ∀ r' ∈ st'.ripRoutes, (∃ r ∈ st.ripRoutes, r'.key = r.key) ∨
          ImportedAtStart st route ∧ r'.key = prefixOf route)
        (st.importRoute route type metric 0) := by
    refine (importRoute_linked linked imported finite 0 foreign (new first)).mono fun st' spec => ?_
    obtain ⟨linked', rt, keys⟩ := spec
    refine ⟨linked', rt, fun r' mem => ?_⟩
    have keyMem : r'.key ∈ st'.ripRoutes.map RIPRoute.key := mem_map_of_mem mem
    rw [keys] at keyMem
    rcases mem_append.mp keyMem with old | last
    · obtain ⟨r, rMem, eq⟩ := mem_map.mp old
      exact .inl ⟨r, rMem, eq.symm⟩
    · exact .inr ⟨first, mem_singleton.mp last⟩
  rw [RIPRouting.configureInitialRoute]
  by_cases loopback : st.isLoopbackInterfaceRoute route = true
  · rw [if_pos loopback]
    exact kept
  have outside : st.isLoopbackInterfaceRoute route = false := Bool.eq_false_of_not_eq_true loopback
  have other : EndsIn Throws (fun st' => Linked Set.univ st' none none ∧ st'.rt = st.rt ∧
        ∀ r' ∈ st'.ripRoutes, (∃ r ∈ st.ripRoutes, r'.key = r.key) ∨
          ImportedAtStart st route ∧ r'.key = prefixOf route)
      (if route.netmask.isUnspecified then st.importRoute route .RIP_ROUTE_DEFAULT 1 0
        else if isMulticast route.dest then .ok st
        else st.importRoute route .RIP_ROUTE_STATIC 1 0) := by
    split_ifs with unspecified multicast
    · exact made (by decide) (by decide) ⟨outside, .inr (.inl unspecified)⟩
    · exact kept
    · exact made (by decide) (by decide)
        ⟨outside, .inr (.inr (Bool.eq_false_of_not_eq_true multicast))⟩
  rw [if_neg loopback]
  cases local' : st.isLocalInterfaceRoute route with
  | false => exact other
  | true =>
    cases interface : route.interfacePtr with
    | none => exact other
    | some ie =>
      obtain ⟨source, -⟩ := Bool.and_eq_true_iff.mp local'
      exact made (by decide) (getInterfaceMetric_lt st ie)
        ⟨outside, .inl ⟨ie, of_decide_eq_true source, outside, interface⟩⟩

lemma configureInitialRoutes_linked {routes : List IPv4Route} (linked : Linked Set.univ st none none)
    (foreign : ∀ route ∈ routes, Foreign st.rt route.id) (apart : routes.Pairwise fun route other =>
      ImportedAtStart st route → ImportedAtStart st other → prefixOf route ≠ prefixOf other)
    (new : ∀ route ∈ routes, ImportedAtStart st route → ∀ r ∈ st.ripRoutes, r.key ≠ prefixOf route) :
    EndsIn Throws (fun st' => Linked Set.univ st' none none)
      (RIPRouting.configureInitialRoutes routes st) := by
  induction routes generalizing st with
  | nil => exact linked
  | cons route rest ih =>
    obtain ⟨first, apart⟩ := pairwise_cons.mp apart
    refine EndsIn.bind (configureInitialRoute_linked linked (foreign route mem_cons_self)
      (new route mem_cons_self)) fun st' spec => ?_
    obtain ⟨linked', rt, keys⟩ := spec
    refine ih linked' (fun other mem => ?_) (apart.imp fun distinct one two => ?_)
      fun other mem imported r rMem => ?_
    · rw [rt]
      exact foreign other (mem_cons_of_mem _ mem)
    · exact distinct (one.of_rt rt) (two.of_rt rt)
    · rcases keys r rMem with ⟨r₀, mem₀, eq⟩ | ⟨importedFirst, eq⟩
      · rw [eq]
        exact new other (mem_cons_of_mem _ mem) (imported.of_rt rt) r₀ mem₀
      · rw [eq]
        exact first other mem importedFirst (imported.of_rt rt)

lemma startRIPRouting_linked (distinct : Distinct st.rt)
    (foreign : ∀ route ∈ st.rt.routes, route.sourceType ≠ .RIP) (safe : StartSafe st) :
    EndsIn Throws (fun st' => Linked Set.univ st' none none) st.startRIPRouting := by
  have empty : Linked Set.univ { st with ripRoutes := [] } none none :=
    ⟨distinct, nodup_nil, fun _ mem => absurd mem not_mem_nil, nodup_nil,
      fun _ mem => absurd mem not_mem_nil, fun _ mem => absurd mem not_mem_nil,
      fun _ mem => absurd mem not_mem_nil,
      fun route mem own => absurd own (foreign route mem)⟩
  exact configureInitialRoutes_linked empty
    (fun route mem => ⟨distinct.fresh route mem, fun other otherMem _ => foreign other otherMem⟩)
    (safe.imp fun apart one two => apart (one.of_rt rfl) (two.of_rt rfl))
    fun _ _ _ r mem => absurd mem not_mem_nil

lemma Reached.linked (reached : Reached StartSafe StepSafe st) : Linked Set.univ st none none := by
  induction reached with
  | start distinct foreign safe started =>
    exact (startRIPRouting_linked distinct foreign safe).of_ok started
  | step reached safe stepped ih => exact (step_linked ih safe).of_ok stepped

def RIPRouting.run (st : RIPRouting) (events : List RIPRouting.Event) : Except SimError RIPRouting :=
  events.foldlM (fun st event => do return (← st.step event).1) st

lemma Reached.run {starts : RIPRouting → Prop} {events : List RIPRouting.Event}
    (reached : Reached starts (fun _ _ => True) st) (ran : st.run events = .ok st') :
    Reached starts (fun _ _ => True) st' := by
  induction events generalizing st with
  | nil =>
    cases ran
    exact reached
  | cons event rest ih =>
    obtain ⟨next, first, ran⟩ := Except.bind_eq_ok ran
    obtain ⟨result, stepped, kept⟩ := Except.bind_eq_ok first
    cases kept
    exact ih (reached.step trivial stepped) ran

/-- The routes of this module in the table are those of the learned valid `RIPRoute`s. -/
structure InStep (st : RIPRouting) : Prop where
  learned : ∀ r ∈ st.ripRoutes, r.Learned → ∃ route ∈ st.rt.routes, Mirrors r route
  owned : ∀ route ∈ st.rt.routes, route.sourceType = .RIP →
    ∃! r, r ∈ st.ripRoutes ∧ r.Learned ∧ Mirrors r route
  keys : (st.ripRoutes.map RIPRoute.key).Nodup

lemma Linked.inStep (linked : Linked Set.univ st none none) : InStep st := by
  refine ⟨fun r mem learned => ?_, fun route mem own => ?_, linked.keys⟩
  · cases linked.settled r mem nofun with
    | invalid metric => exact absurd metric learned.2.ne
    | learned _ route routeMem mirrors => exact ⟨route, routeMem, mirrors⟩
    | imported type => exact absurd learned.1 type
  · obtain ⟨r, rMem, -, mirrors⟩ := linked.owned route mem own nofun
    have learned := (linked.mirrors_of_pointer rMem nofun mem own mirrors.pointer).1
    refine ⟨r, ⟨rMem, learned, mirrors⟩, fun other spec => ?_⟩
    exact linked.eq_of_mirrors spec.1 rMem spec.2.2 mirrors

namespace Example

def eth (interfaceId : ℕ) (inetAddr : IPv4Address) : InterfaceEntry :=
  ⟨interfaceId, 1500, false, some ⟨inetAddr, 0xFFFFFF00, 1⟩⟩

def ripInterface (ie : ℕ) : RIPInterfaceEntry :=
  ⟨ie, 1500, 1, .NO_SPLIT_HORIZON, by decide, by decide⟩

/-- The router with the networks 10.0.1.0 and 10.0.2.0. -/
def router : RIPRouting where
  mode := .RIPv2
  ripUdpPort := 520
  routeExpiryTime := 180
  routePurgeTime := 120
  ripInterfaces := [ripInterface 1, ripInterface 2]
  ripRoutes := []
  rt := (initial [eth 1 0x0A000101, eth 2 0x0A000201] 0).updateNetmaskRoutes
  nextId := 0

/-- 10.0.2.2 announces a network. -/
def response (address : IPv4Address) : RIPRouting.Event :=
  .datagram ⟨RIP_RESPONSE, [⟨RIP_AF_INET, 0, address, 24, 0, 1⟩]⟩ ⟨0x0A000202, 520, 2⟩

/-- The route of the interface to 10.0.1.0. -/
def interfaceRoute : IPv4Route :=
  ⟨0, 0x0A000100, 0xFFFFFF00, 0, some 1, .IFACENETMASK, 0, 1, 0⟩

end Example

/-- In every run of safe steps the tables are in step, and no assertion fails. -/
theorem tables_in_step (reached : Reached StartSafe StepSafe st) :
    InStep st ∧ ∀ event e, StepSafe st event → st.step event = .error e → Throws e :=
  ⟨reached.linked.inStep, fun _ _ safe failed =>
    (step_linked reached.linked safe).of_error failed⟩

lemma router_distinct : Distinct Example.router.rt := by
  have empty : Distinct (initial [Example.eth 1 0x0A000101, Example.eth 2 0x0A000201] 0) :=
    ⟨nodup_nil, fun _ mem => absurd mem not_mem_nil⟩
  exact empty.updateNetmaskRoutes.toDistinct

lemma router_foreign : ∀ route ∈ Example.router.rt.routes, route.sourceType ≠ .RIP := by decide

lemma router_safe : StartSafe Example.router := by
  have apart : Example.router.rt.routes.Pairwise fun route other => prefixOf route ≠ prefixOf other := by
    decide
  exact apart.imp fun distinct _ _ => distinct

theorem tables_in_step_router : ∃ st, InStep st ∧ (∃ r ∈ st.ripRoutes, r.Learned) ∧
    ∀ event e, StepSafe st event → st.step event = .error e → Throws e := by
  obtain ⟨st, st', sent, started, keys, stepped, r, mem, learned⟩ : ∃ st st' sent,
      Example.router.startRIPRouting = .ok st ∧
      st.ripRoutes.map RIPRoute.key = [(0x0A000100, 24), (0x0A000200, 24)] ∧
      st.step (Example.response 0x0A000300) = .ok (st', sent) ∧
      ∃ r ∈ st'.ripRoutes, r.type = .RIP_ROUTE_RTE ∧ r.metric < RIP_INFINITE_METRIC :=
    ⟨_, _, _, rfl, rfl, rfl, _, .tail _ (.tail _ (.head _)), rfl, by decide⟩
  have first : Reached StartSafe StepSafe st := .start router_distinct router_foreign router_safe started
  have safe : StepSafe st (Example.response 0x0A000300) := by
    refine ⟨fun eq => absurd eq (by decide), fun _ _ incomingIe _ _ en mem r rMem _ _ key => ?_⟩
    have keyMem : r.key ∈ st.ripRoutes.map RIPRoute.key := mem_map_of_mem rMem
    rw [keys, key, mem_singleton.mp mem] at keyMem
    exact absurd keyMem (by decide)
  have spec := tables_in_step (first.step safe stepped)
  exact ⟨st', spec.1, ⟨r, mem, learned⟩, spec.2⟩

/-- An interface goes down, its network is learned from another router, and its route is added
again: two `RIPRoute`s for one prefix. -/
theorem not_inStep_readded : ∃ st, Reached StartSafe (fun _ _ => True) st ∧ ¬ InStep st := by
  obtain ⟨st, st', started, ran, twice⟩ : ∃ st st', Example.router.startRIPRouting = .ok st ∧
      st.run [.interfaceStateChanged 1 false, Example.response 0x0A000100,
        .othersAddRoute Example.interfaceRoute] = .ok st' ∧
      st'.ripRoutes.map RIPRoute.key = [(0x0A000100, 24), (0x0A000200, 24), (0x0A000100, 24)] :=
    ⟨_, _, rfl, rfl, rfl⟩
  have first : Reached StartSafe (fun _ _ => True) st :=
    .start router_distinct router_foreign router_safe started
  refine ⟨st', first.run ran, fun inStep => ?_⟩
  have nodup := inStep.keys
  rw [twice] at nodup
  exact absurd nodup (by decide)

end Inet.Rip
