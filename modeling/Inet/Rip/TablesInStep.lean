import Inet.Rip.Linked

/-!
# The RIP table and the routing table stay in step

Every operation, and so every `StepSafe` step, leaves the `RIPRoute`s and their routes linked.
-/

namespace Inet.Rip

open Ipv4 List
open Ipv4.RoutingTable

variable {I : Set (RouteType × (IPv4Address × ℤ) × ℕ)} {st st' : RIPRouting} {x p : Option ℕ}
  {r r' : RIPRoute} {route : IPv4Route}

/-! ## One `RIPRoute` -/

lemma mem_modify {id : ℕ} {f : RIPRoute → RIPRoute} :
    r' ∈ (st.modify id f).ripRoutes ↔ ∃ r ∈ st.ripRoutes, r' = if r.id = id then f r else r := by
  rw [RIPRouting.modify, mem_map]
  exact exists_congr fun r => and_congr_right fun _ => eq_comm

lemma mem_modify_self {f : RIPRoute → RIPRoute} (mem : r ∈ st.ripRoutes) :
    f r ∈ (st.modify r.id f).ripRoutes :=
  mem_modify.mpr ⟨r, mem, (if_pos rfl).symm⟩

lemma mem_deleteRoute {q : ℕ} (mem : r' ∈ (st.deleteRoute q).ripRoutes) :
    ∃ r ∈ st.ripRoutes, r' = r ∨ (r.route = some q ∧ r' = r.invalidated) := by
  rw [RIPRouting.deleteRoute] at mem
  cases found : st.rt.routes.find? fun entry => entry.id = q with
  | none =>
    rw [found] at mem
    exact ⟨r', mem, .inl rfl⟩
  | some entry =>
    have eq : entry.id = q := by simpa using find?_some found
    rw [found] at mem
    dsimp only at mem
    rw [RIPRouting.notifyDeleted] at mem
    split_ifs at mem
    · exact ⟨r', mem, .inl rfl⟩
    · obtain ⟨r, old, rfl⟩ := mem_map.mp mem
      refine ⟨r, old, ?_⟩
      split_ifs with points
      · rw [eq] at points
        exact .inr ⟨points, rfl⟩
      · exact .inl rfl

lemma mem_deleteRoute_of_ne {q : ℕ} (mem : r ∈ st.ripRoutes) (other : r.route ≠ some q) :
    r ∈ (st.deleteRoute q).ripRoutes := by
  rw [RIPRouting.deleteRoute]
  cases found : st.rt.routes.find? fun entry => entry.id = q with
  | none => exact mem
  | some entry =>
    have eq : entry.id = q := by simpa using find?_some found
    dsimp only
    rw [RIPRouting.notifyDeleted]
    split_ifs
    · exact mem
    · refine mem_map.mpr ⟨r, mem, if_neg ?_⟩
      rwa [eq]

lemma routeOf_eq (linked : Linked I st x p) (mem : r ∈ st.ripRoutes) :
    st.routeOf r.id = r.route := by
  rw [RIPRouting.routeOf]
  cases found : st.ripRoutes.find? fun other => other.id = r.id with
  | none =>
    have absent := find?_eq_none.mp found r mem
    simp at absent
  | some other =>
    have eq : other.id = r.id := by simpa using find?_some found
    rw [linked.eq_of_id (mem_of_find?_eq_some found) mem eq]
    rfl

lemma routeOf_absent {id : ℕ} (absent : ∀ r ∈ st.ripRoutes, r.id ≠ id) : st.routeOf id = none := by
  rw [RIPRouting.routeOf, find?_eq_none.mpr (by simpa using absent)]
  rfl

lemma modify_absent {id : ℕ} (absent : ∀ r ∈ st.ripRoutes, r.id ≠ id)
    (f : RIPRoute → RIPRoute) : st.modify id f = st := by
  rw [RIPRouting.modify, map_congr_left fun r mem => if_neg (absent r mem), map_id']

lemma deleteRouteOf_linked (linked : Linked I st none none) (mem : r ∈ st.ripRoutes) :
    Linked I (st.deleteRouteOf r.id) (some r.id) none ∧
      ∀ r' ∈ (st.deleteRouteOf r.id).ripRoutes, r'.id = r.id →
        r'.route = none ∧ r'.type = r.type ∧ r'.fromAddr = r.fromAddr := by
  have pointer (q : ℕ) : Linked I st (some r.id) q → Linked I (st.setRoute r.id none) (some r.id) q :=
    fun focused => focused.modify rfl (fun _ => ⟨rfl, rfl⟩) fun _ _ _ _ points => nomatch points
  have fields {q : ℕ} : ∀ r' ∈ ((st.setRoute r.id none).deleteRoute q).ripRoutes, r'.id = r.id →
      r'.route = none ∧ r'.type = r.type ∧ r'.fromAddr = r.fromAddr := by
    intro r' mem' eq
    obtain ⟨r₁, mem₁, after⟩ := mem_deleteRoute mem'
    obtain ⟨r₀, mem₀, rfl⟩ := mem_modify.mp mem₁
    have same : r₀ = r := by
      refine linked.eq_of_id mem₀ mem ?_
      rcases after with rfl | ⟨-, rfl⟩
      · split_ifs at eq <;> exact eq
      · split_ifs at eq <;> exact eq
    subst same
    rw [if_pos rfl] at after
    rcases after with rfl | ⟨points, rfl⟩
    · exact ⟨rfl, rfl, rfl⟩
    · cases points
  rw [RIPRouting.deleteRouteOf, routeOf_eq linked mem]
  rcases linked.focus mem with ⟨-, route, routeMem, mirrors, focused⟩ | ⟨-, focused, foreign⟩
  · rw [mirrors.pointer]
    exact ⟨(pointer _ focused).deleteOwn rfl, fields⟩
  · cases points : r.route with
    | none =>
      refine ⟨focused, fun r' mem' eq => ?_⟩
      rw [linked.eq_of_id mem' mem eq]
      exact ⟨points, rfl, rfl⟩
    | some q =>
      have cut : Linked I (st.setRoute r.id none) (some r.id) none :=
        focused.modify rfl (fun _ => ⟨rfl, rfl⟩) fun _ _ _ _ points => nomatch points
      exact ⟨cut.deleteOther (foreign q points), fields⟩

lemma invalidateRoute_linked (linked : Linked I st none none) (id : ℕ) :
    Linked I (st.invalidateRoute id) none none := by
  by_cases here : ∃ r ∈ st.ripRoutes, r.id = id
  · obtain ⟨r, mem, rfl⟩ := here
    obtain ⟨cut, fields⟩ := deleteRouteOf_linked linked mem
    have invalid : Linked I (st.invalidateRoute r.id) (some r.id) none := by
      refine cut.modify rfl (fun _ => ⟨rfl, rfl⟩) fun r' mem' eq q points => ?_
      rw [(fields r' mem' eq).1] at points
      cases points
    have known : ∀ r' ∈ (st.invalidateRoute r.id).ripRoutes, some r'.id = some r.id →
        r'.metric = RIP_INFINITE_METRIC ∧ r'.route = none ∧ r'.type = r.type ∧
          r'.fromAddr = r.fromAddr := by
      intro r' mem' eq
      obtain ⟨r₁, mem₁, rfl⟩ := mem_modify.mp mem'
      have id : r₁.id = r.id := by
        split_ifs at eq <;> exact Option.some.inj eq
      rw [if_pos id]
      exact ⟨rfl, fields r₁ mem₁ id⟩
    refine invalid.settle (fun r' mem' eq type => ?_) (fun r' mem' eq => ?_) fun _ _ eq => nomatch eq
    · obtain ⟨metric, -, sameType, sameFrom⟩ := known r' mem' eq
      refine ⟨sameFrom.trans (linked.imported r mem nofun (sameType ▸ type)).fromAddr, fun lt => ?_⟩
      exact absurd metric lt.ne
    · obtain ⟨metric, pointer, -⟩ := known r' mem' eq
      exact .invalid metric pointer
  · have absent : ∀ r ∈ st.ripRoutes, r.id ≠ id := fun r mem eq => here ⟨r, mem, eq⟩
    rw [RIPRouting.invalidateRoute, RIPRouting.deleteRouteOf, routeOf_absent absent,
      modify_absent absent]
    exact linked

lemma purgeRoute_linked (linked : Linked I st none none) (id : ℕ) :
    Linked I (st.purgeRoute id) none none := by
  by_cases here : ∃ r ∈ st.ripRoutes, r.id = id
  · obtain ⟨r, mem, rfl⟩ := here
    obtain ⟨cut, -⟩ := deleteRouteOf_linked linked mem
    refine cut.filter (fun r' _ eq => ?_) fun r' _ other dropped => ?_
    · simpa using eq
    · rw [decide_eq_false_iff_not, not_not] at dropped
      exact absurd (congrArg some dropped) other
  · have absent : ∀ r ∈ st.ripRoutes, r.id ≠ id := fun r mem eq => here ⟨r, mem, eq⟩
    rw [RIPRouting.purgeRoute, RIPRouting.deleteRouteOf, routeOf_absent absent]
    have whole : (st.ripRoutes.filter fun r => r.id ≠ id) = st.ripRoutes :=
      filter_eq_self.mpr (by simpa using absent)
    rw [whole]
    exact linked

/-! ## Updates of a `RIPRoute` -/

/-- The `RIPRoute` is out of step, and so is its route, which has the same prefix. -/
structure Carrying (I : Set (RouteType × (IPv4Address × ℤ) × ℕ)) (st : RIPRouting) (r : RIPRoute) (route : IPv4Route) : Prop where
  linked : Linked I st (some r.id) (some route.id)
  mem : r ∈ st.ripRoutes
  routeMem : route ∈ st.rt.routes
  type : r.type = .RIP_ROUTE_RTE
  pointer : r.route = some route.id
  dest : route.dest = r.dest
  netmask : makeNetmask r.prefixLength = .ok route.netmask
  proper : route.dest &&& ~~~route.netmask = 0

/-- The `RIPRoute` is out of step, and without a route. -/
structure Bare (I : Set (RouteType × (IPv4Address × ℤ) × ℕ)) (st : RIPRouting) (r : RIPRoute) : Prop where
  linked : Linked I st (some r.id) none
  mem : r ∈ st.ripRoutes
  pointer : r.route = none

lemma writeThrough_none (linked : Linked I st x p) (mem : r ∈ st.ripRoutes) (none : r.route = none)
    (change : IPv4Route.Change) : st.writeThrough r.id change = .ok st := by
  rw [RIPRouting.writeThrough]
  cases found : st.ripRoutes.find? fun other => other.id = r.id ∧ other.type = .RIP_ROUTE_RTE with
  | none => rfl
  | some other =>
    have test := find?_some found
    have eq := of_decide_eq_true test
    rw [linked.eq_of_id (mem_of_find?_eq_some found) mem eq.1]
    dsimp only
    rw [none]

/-- The `RIPRoute` has its route in the table again. -/
def Attached (I : Set (RouteType × (IPv4Address × ℤ) × ℕ)) (st : RIPRouting) (r : RIPRoute) : Prop :=
  ∃ route ∈ st.rt.routes, Linked I st (some r.id) (some route.id) ∧
    { r with route := some route.id } ∈ st.ripRoutes ∧
    Mirrors { r with route := some route.id } route

namespace Carrying

variable {f : RIPRoute → RIPRoute} {change : IPv4Route.Change}

variable (carrying : Carrying I st r route)
include carrying

lemma writeThrough_eq (change : IPv4Route.Change) :
    st.writeThrough r.id change = st.setField route.id change := by
  rw [RIPRouting.writeThrough]
  cases found : st.ripRoutes.find? fun other => other.id = r.id ∧ other.type = .RIP_ROUTE_RTE with
  | none =>
    have absent := find?_eq_none.mp found r carrying.mem
    simp [carrying.type] at absent
  | some other =>
    have test := find?_some found
    have eq := of_decide_eq_true test
    have here : st.rt.routes.any (fun entry => entry.id = route.id) = true :=
      any_eq_true.mpr ⟨route, carrying.routeMem, decide_eq_true rfl⟩
    rw [carrying.linked.eq_of_id (mem_of_find?_eq_some found) carrying.mem eq.1]
    dsimp only
    rw [carrying.pointer]
    dsimp only
    rw [if_pos here]

variable
  (same : ∀ r : RIPRoute, (f r).id = r.id ∧ (f r).key = r.key ∧ (f r).route = r.route ∧ (f r).type = r.type)
include same

lemma modify : Carrying I (st.modify r.id f) (f r) route := by
  obtain ⟨id, key, pointer, type⟩ := same r
  obtain ⟨dest, prefixLength⟩ := Prod.mk.inj key
  refine ⟨?_, mem_modify_self carrying.mem, carrying.routeMem, type.trans carrying.type,
    pointer.trans carrying.pointer, carrying.dest.trans dest.symm, ?_, carrying.proper⟩
  · rw [id]
    refine carrying.linked.modify rfl (fun r => ⟨(same r).1, (same r).2.1⟩) fun r mem _ q points => ?_
    rw [(same r).2.2.1] at points
    exact (carrying.linked.known r mem q points).1
  · rw [prefixLength]
    exact carrying.netmask

omit same in
lemma setField
    (same : (change.apply route).dest = route.dest ∧ (change.apply route).netmask = route.netmask) :
    EndsIn Throws (fun st' => Carrying I st' r (change.apply route)) (st.setField route.id change) := by
  obtain ⟨dest, netmask⟩ := same
  have linked := carrying.linked
  have free : ∀ old, st.rt.readdedDefault route.id change = some old → old.sourceType ≠ .RIP := by
    intro old readded own
    rw [readdedDefault, linked.distinct.find? carrying.routeMem] at readded
    dsimp only at readded
    split_ifs at readded
    obtain ⟨oldMem, empty, oldEmpty⟩ := replacedDefault_mem readded
    have removed := removeRoute_routes st.rt route.id
    have oldMem' : old ∈ (st.rt.removeRoute route.id).routes := by
      rw [removed]
      exact oldMem
    obtain ⟨oldMem, other⟩ := (mem_removeRoute linked.distinct).mp oldMem'
    obtain ⟨r', mem', outside, key⟩ := linked.key_of_default oldMem own
      (fun eq => other (Option.some.inj eq)) oldEmpty
    have proper := carrying.proper
    have length := carrying.netmask
    rw [netmask] at empty
    rw [empty] at proper length
    have zero : makeNetmask 0 = .ok 0 := rfl
    have here : r.key = (0, 0) := by
      rw [RIPRoute.key, ← carrying.dest, eq_zero_of_proper proper, makeNetmask_inj length zero]
    rw [inj_on_of_nodup_map linked.keys mem' carrying.mem (key.trans here.symm)] at outside
    exact outside rfl
  refine (linked.setField rfl free).mono fun st' spec => ?_
  obtain ⟨linked', changed, kept⟩ := spec
  refine ⟨?_, kept r carrying.mem carrying.pointer, changed route carrying.routeMem rfl,
    carrying.type, ?_, dest.trans carrying.dest, ?_, ?_⟩
  · rw [Change.apply_id]
    exact linked'
  · rw [Change.apply_id]
    exact carrying.pointer
  · rw [netmask]
    exact carrying.netmask
  · rw [dest, netmask]
    exact carrying.proper

lemma setter (sameRoute : (change.apply route).dest = route.dest ∧
      (change.apply route).netmask = route.netmask) :
    EndsIn Throws (fun st' => Carrying I st' (f r) (change.apply route))
      ((st.modify r.id f).writeThrough r.id change) := by
  have changed := carrying.modify same
  have eq := changed.writeThrough_eq change
  rw [(same r).1] at eq
  rw [eq]
  exact changed.setField sameRoute

omit same

lemma detach :
    Bare I ((st.setRoute r.id none).deleteRoute route.id) { r with route := none } := by
  have cut : Linked I (st.setRoute r.id none) (some r.id) (some route.id) :=
    carrying.linked.modify rfl (fun _ => ⟨rfl, rfl⟩) fun _ _ _ _ points => nomatch points
  refine ⟨cut.deleteOwn rfl, ?_, rfl⟩
  exact mem_deleteRoute_of_ne (mem_modify_self (f := fun r => { r with route := none }) carrying.mem)
    nofun

omit carrying

lemma settle (linked : Linked I st (some r.id) (some route.id)) (mem : r ∈ st.ripRoutes)
    (routeMem : route ∈ st.rt.routes) (learned : r.Learned) (mirrors : Mirrors r route) :
    Linked I st none none := by
  refine linked.settle (fun r' mem' eq type => ?_) (fun r' mem' eq => ?_)
    fun route' mem' eq source => ?_
  · rw [linked.eq_of_id mem' mem (Option.some.inj eq)] at type
    exact absurd learned.1 type
  · rw [linked.eq_of_id mem' mem (Option.some.inj eq)]
    exact .learned learned route routeMem mirrors
  · rw [linked.route_eq mem' routeMem (Option.some.inj eq)]
    exact ⟨r, mem, mirrors⟩

end Carrying

namespace Bare

variable {f : RIPRoute → RIPRoute}

lemma modify (bare : Bare I st r)
    (same : ∀ r : RIPRoute, (f r).id = r.id ∧ (f r).key = r.key ∧ (f r).route = r.route) :
    Bare I (st.modify r.id f) (f r) := by
  obtain ⟨id, -, pointer⟩ := same r
  refine ⟨?_, mem_modify_self bare.mem, pointer.trans bare.pointer⟩
  rw [id]
  refine bare.linked.modify rfl (fun r => ⟨(same r).1, (same r).2.1⟩) fun r mem _ q points => ?_
  rw [(same r).2.2] at points
  exact (bare.linked.known r mem q points).1

lemma setter (bare : Bare I st r) (change : IPv4Route.Change)
    (same : ∀ r : RIPRoute, (f r).id = r.id ∧ (f r).key = r.key ∧ (f r).route = r.route) :
    EndsIn Throws (fun st' => Bare I st' (f r)) ((st.modify r.id f).writeThrough r.id change) := by
  have changed := bare.modify same
  have eq := writeThrough_none changed.linked changed.mem changed.pointer change
  rw [(same r).1] at eq
  rw [eq]
  exact changed

lemma attach (bare : Bare I st r) {ie : ℕ} (interface : r.ie = some ie) :
    EndsIn Throws (fun st' => Attached I st' r)
      (do
        let (st, route) ← st.addIPv4Route r.dest r.prefixLength ie r.nextHop r.metric
        return st.setRoute r.id (some route)) := by
  rw [RIPRouting.addIPv4Route]
  cases masked : makeNetmask r.prefixLength with
  | error e =>
    rw [makeNetmask] at masked
    split_ifs at masked
    cases masked
    exact .inl ⟨_, rfl⟩
  | ok netmask =>
    have zero : makeNetmask 0 = .ok 0 := rfl
    refine EndsIn.bind (bare.linked.rtAddRoute fun dest empty r' mem' key => ?_)
      fun result spec => ?_
    · change r.dest = 0 at dest
      change netmask = 0 at empty
      rw [empty] at masked
      have here : r.key = (0, 0) := by
        rw [RIPRoute.key, dest, makeNetmask_inj masked zero]
      rw [inj_on_of_nodup_map bare.linked.keys mem' bare.mem (key.trans here.symm)]
    · obtain ⟨linked, -, lt, proper, routeMem, kept⟩ := spec
      have mirrors : Mirrors { r with route := some result.2 }
          { RIPRouting.ripRoute r.dest netmask r.nextHop ie r.metric with id := result.2 } :=
        ⟨rfl, rfl, rfl, masked, rfl, interface.symm, rfl, proper⟩
      refine ⟨_, routeMem, ?_, ?_, mirrors⟩
      · exact linked.modify rfl (fun _ => ⟨rfl, rfl⟩) fun _ _ _ q points => by
          obtain rfl := Option.some.inj points
          exact lt
      · exact mem_modify_self (f := fun r => { r with route := some result.2 })
          (kept r bare.mem bare.pointer)

lemma settle (bare : Bare I st r) (metric : r.metric = RIP_INFINITE_METRIC)
    (type : r.type = .RIP_ROUTE_RTE) : Linked I st none none := by
  refine bare.linked.settle (fun r' mem' eq type' => ?_) (fun r' mem' eq => ?_)
    fun _ _ eq => nomatch eq
  · rw [bare.linked.eq_of_id mem' bare.mem (Option.some.inj eq)] at type'
    exact absurd type type'
  · rw [bare.linked.eq_of_id mem' bare.mem (Option.some.inj eq)]
    exact .invalid metric bare.pointer

end Bare

namespace Attached

lemma modify (attached : Attached I st r) {f : RIPRoute → RIPRoute}
    (same : ∀ r q, ({ f r with route := q } : RIPRoute) = f { r with route := q })
    (link : ∀ r : RIPRoute, (f r).id = r.id ∧ (f r).key = r.key ∧ (f r).route = r.route)
    (keeps : ∀ r route, Mirrors r route → Mirrors (f r) route) : Attached I (st.modify r.id f) (f r) := by
  obtain ⟨route, routeMem, linked, mem, mirrors⟩ := attached
  refine ⟨route, routeMem, ?_, ?_, ?_⟩
  · rw [(link r).1]
    refine linked.modify rfl (fun r => ⟨(link r).1, (link r).2.1⟩) fun r mem _ q points => ?_
    rw [(link r).2.2] at points
    exact (linked.known r mem q points).1
  · rw [same]
    exact mem_modify_self mem
  · rw [same]
    exact keeps _ _ mirrors

lemma settle (attached : Attached I st r) (learned : r.Learned) : Linked I st none none := by
  obtain ⟨route, routeMem, linked, mem, mirrors⟩ := attached
  exact Carrying.settle (r := { r with route := some route.id }) linked mem routeMem learned mirrors

lemma finish (attached : Attached I st r) (learned : r.Learned) (now : ℤ) :
    Linked I ((st.modify r.id fun r => { r with changed := true }).modify r.id
      fun r => { r with lastUpdateTime := now }) none none := by
  have keeps {r r' : RIPRoute} (link : r'.route = r.route ∧ r'.key = r.key ∧ r'.nextHop = r.nextHop ∧
      r'.ie = r.ie ∧ r'.metric = r.metric) (route : IPv4Route) (mirrors : Mirrors r route) :
      Mirrors r' route := mirrors.of_link link
  have changed := attached.modify (f := fun r => { r with changed := true }) (fun _ _ => rfl)
    (fun _ => ⟨rfl, rfl, rfl⟩) fun _ => keeps ⟨rfl, rfl, rfl, rfl, rfl⟩
  have timed := changed.modify (f := fun r => { r with lastUpdateTime := now })
    (fun _ _ => rfl) (fun _ => ⟨rfl, rfl, rfl⟩) fun _ => keeps ⟨rfl, rfl, rfl, rfl, rfl⟩
  exact timed.settle learned

end Attached

section

variable {r₀ : RIPRoute} {ie metric routeTag : ℕ} {nextHop fromAddr : IPv4Address}

/-- `updateRoute` has given the `RIPRoute` its new interface and metric. -/
structure Adopts (r r' : RIPRoute) (ie metric : ℕ) : Prop where
  id : r'.id = r.id
  key : r'.key = r.key
  type : r'.type = r.type
  interface : r'.ie = some ie
  metric : r'.metric = metric

lemma adopt_learned (carrying : Carrying I st r route) :
    EndsIn Throws (fun st' => ∃ r' route', Carrying I st' r' route' ∧ Adopts r r' ie metric)
      (st.adopt r.id ie metric routeTag fromAddr) := by
  refine EndsIn.bind (carrying.setter (f := fun r => { r with ie := some ie })
    (fun _ => ⟨rfl, rfl, rfl, rfl⟩) ⟨rfl, rfl⟩)
    fun st₁ carrying₁ => ?_
  refine EndsIn.bind (carrying₁.setter (f := fun r => { r with metric := metric })
    (fun _ => ⟨rfl, rfl, rfl, rfl⟩) ⟨rfl, rfl⟩) fun st₂ carrying₂ => ?_
  exact ⟨{ r with ie := some ie, metric := metric, fromAddr := fromAddr, tag := routeTag }, _,
    carrying₂.modify (f := fun r => { r with fromAddr := fromAddr, tag := routeTag })
      fun _ => ⟨rfl, rfl, rfl, rfl⟩, rfl, rfl, rfl, rfl, rfl⟩

lemma adopt_bare (bare : Bare I st r) :
    EndsIn Throws (fun st' => ∃ r', Bare I st' r' ∧ Adopts r r' ie metric)
      (st.adopt r.id ie metric routeTag fromAddr) := by
  refine EndsIn.bind (bare.setter (f := fun r => { r with ie := some ie })
    (.interfacePtr (some ie)) fun _ => ⟨rfl, rfl, rfl⟩) fun st₁ bare₁ => ?_
  refine EndsIn.bind (bare₁.setter (f := fun r => { r with metric := metric })
    (.metric metric) fun _ => ⟨rfl, rfl, rfl⟩) fun st₂ bare₂ => ?_
  exact ⟨{ r with ie := some ie, metric := metric, fromAddr := fromAddr, tag := routeTag },
    bare₂.modify (f := fun r => { r with fromAddr := fromAddr, tag := routeTag })
      fun _ => ⟨rfl, rfl, rfl⟩, rfl, rfl, rfl, rfl, rfl⟩

lemma replaceRoute_spec (carrying : Carrying I st r route) (same : r₀.id = r.id ∧ r₀.key = r.key)
    (interface : r.ie = some ie) :
    EndsIn Throws (fun st' => ∃ r', r'.id = r.id ∧ r'.type = r.type ∧ r'.metric = r.metric ∧
        if r.metric < RIP_INFINITE_METRIC then Attached I st' r' else Bare I st' r')
      (st.replaceRoute r₀ ie nextHop r.metric) := by
  obtain ⟨dest, prefixLength⟩ := Prod.mk.inj same.2
  rw [RIPRouting.replaceRoute, same.1, dest, prefixLength, routeOf_eq carrying.linked carrying.mem,
    carrying.pointer]
  refine EndsIn.bind (carrying.detach.setter (f := fun r => { r with nextHop := nextHop })
    (.gateway nextHop) fun _ => ⟨rfl, rfl, rfl⟩) fun st₁ bare => ?_
  split_ifs with finite
  · exact (bare.attach interface).mono fun st' attached =>
      ⟨{ r with route := none, nextHop := nextHop }, rfl, rfl, rfl, attached⟩
  · exact ⟨{ r with route := none, nextHop := nextHop }, rfl, rfl, rfl, bare⟩

lemma revive_spec (bare : Bare I st r) (same : r₀.id = r.id ∧ r₀.key = r.key)
    (interface : r.ie = some ie) :
    EndsIn Throws (fun st' => ∃ r', r'.id = r.id ∧ r'.type = .RIP_ROUTE_RTE ∧
        r'.metric = r.metric ∧ Attached I st' r')
      (st.revive r₀ ie nextHop r.metric) := by
  obtain ⟨dest, prefixLength⟩ := Prod.mk.inj same.2
  have typed := bare.modify (f := fun r => { r with type := .RIP_ROUTE_RTE })
    fun _ => ⟨rfl, rfl, rfl⟩
  rw [RIPRouting.revive, same.1, dest, prefixLength, routeOf_eq bare.linked bare.mem, bare.pointer]
  change EndsIn Throws _ ((st.modify r.id fun r => { r with type := .RIP_ROUTE_RTE }).setNextHop r.id
    nextHop >>= _)
  refine EndsIn.bind (typed.setter (f := fun r => { r with nextHop := nextHop })
    (.gateway nextHop) fun _ => ⟨rfl, rfl, rfl⟩) fun st₁ bare₁ => ?_
  exact (bare₁.attach interface).mono fun st' attached =>
    ⟨{ r with type := .RIP_ROUTE_RTE, nextHop := nextHop }, rfl, rfl, rfl, attached⟩

lemma updateRoute_linked (linked : Linked I st none none) (mem : r ∈ st.ripRoutes)
    (same : r₀.id = r.id ∧ r₀.key = r.key ∧ r₀.metric = r.metric)
    (own : r.metric = RIP_INFINITE_METRIC ∨ r.type = .RIP_ROUTE_RTE)
    (gain : r.metric = RIP_INFINITE_METRIC → metric < RIP_INFINITE_METRIC)
    (le : metric ≤ RIP_INFINITE_METRIC) :
    EndsIn Throws (fun st' => Linked I st' none none)
      (st.updateRoute r₀ ie nextHop metric routeTag fromAddr) := by
  obtain ⟨id, key, oldMetric⟩ := same
  rw [RIPRouting.updateRoute, id, oldMetric]
  rcases linked.focus mem with ⟨learned, route, routeMem, mirrors, focused⟩ | ⟨invalid, focused, -⟩
  · have carrying : Carrying I st r route := ⟨focused, mem, routeMem, learned.1, mirrors.pointer,
      mirrors.dest, mirrors.netmask, mirrors.proper⟩
    have valid : r.metric ≠ RIP_INFINITE_METRIC := learned.2.ne
    refine EndsIn.bind (adopt_learned carrying) fun st₁ spec => ?_
    obtain ⟨r₁, route₁, carrying₁, adopts⟩ := spec
    dsimp only
    rw [if_neg valid, ← adopts.id, ← adopts.metric]
    refine EndsIn.bind (replaceRoute_spec carrying₁
      ⟨id.trans adopts.id.symm, key.trans adopts.key.symm⟩ adopts.interface) fun st₂ spec => ?_
    obtain ⟨r₂, id₂, type₂, metric₂, spec⟩ := spec
    have type : r₂.type = .RIP_ROUTE_RTE := type₂.trans (adopts.type.trans learned.1)
    rw [← id₂]
    by_cases finite : r₁.metric < RIP_INFINITE_METRIC
    · rw [if_pos finite] at spec
      rw [if_neg fun both => finite.ne both.1]
      exact spec.finish ⟨type, metric₂ ▸ finite⟩ st₂.rt.now
    · rw [if_neg finite] at spec
      have infinite : r₁.metric = RIP_INFINITE_METRIC :=
        le_antisymm (adopts.metric ▸ le) (not_lt.mp finite)
      rw [if_pos ⟨infinite, valid⟩]
      have changed := spec.modify (f := fun r => { r with changed := true }) fun _ => ⟨rfl, rfl, rfl⟩
      exact invalidateRoute_linked (changed.settle (metric₂.trans infinite) type) r₂.id
  · have invalid : r.metric = RIP_INFINITE_METRIC ∧ r.route = none := by
      cases linked.settled r mem nofun with
      | invalid metric none => exact ⟨metric, none⟩
      | learned learned => exact absurd learned invalid
      | imported type metric => exact absurd (own.resolve_left metric.ne) type
    have finite := gain invalid.1
    have bare : Bare I st r := ⟨focused, mem, invalid.2⟩
    refine EndsIn.bind (adopt_bare bare) fun st₁ spec => ?_
    obtain ⟨r₁, bare₁, adopts⟩ := spec
    dsimp only
    rw [if_pos invalid.1, if_pos finite, ← adopts.id, ← adopts.metric]
    refine EndsIn.bind (revive_spec bare₁
      ⟨id.trans adopts.id.symm, key.trans adopts.key.symm⟩ adopts.interface) fun st₂ spec => ?_
    obtain ⟨r₂, id₂, type₂, metric₂, attached⟩ := spec
    rw [if_neg fun both => both.2 invalid.1, ← id₂]
    refine attached.finish ⟨type₂, ?_⟩ st₂.rt.now
    rw [metric₂, adopts.metric]
    exact finite

end

end Inet.Rip
