import Inet.Rip.TablesInStep

/-!
# Learned routes in any run

`Keeps S P st`: the learned `RIPRoute`s with pointers in `S` are in the state and meet `P`. In every
run a learned `RIPRoute` never points to a route of another module, so that no notification reaches
it.
-/

namespace Inet.Rip

open Ipv4 List
open Ipv4.RoutingTable

variable {S : Set ℕ} {P Q : RIPRoute → Prop} {st st' : RIPRouting} {r r' : RIPRoute}
  {route entry : IPv4Route} {k q : ℕ}

/-- The table's route with the pointer is one of this module, if there is one. -/
def OwnPointer (rt : RoutingTable) (q : ℕ) : Prop :=
  ∀ route ∈ rt.routes, route.id = q → route.sourceType = .RIP

structure Keeps (S : Set ℕ) (P : RIPRoute → Prop) (st : RIPRouting) : Prop where
  distinct : Distinct st.rt
  nodup : (st.ripRoutes.map RIPRoute.id).Nodup
  fresh : ∀ r ∈ st.ripRoutes, r.id < st.nextId
  known : ∀ r ∈ st.ripRoutes, ∀ q, r.route = some q → q < st.rt.nextId
  own : ∀ r ∈ st.ripRoutes, r.type = .RIP_ROUTE_RTE → ∀ q, r.route = some q → OwnPointer st.rt q
  has : ∀ id ∈ S, ∃ r ∈ st.ripRoutes, r.id = id ∧ P r
  learned : ∀ r, P r → r.type = .RIP_ROUTE_RTE

namespace Keeps

variable (keeps : Keeps S P st)
include keeps

lemma eq_of_id (mem : r ∈ st.ripRoutes) (mem' : r' ∈ st.ripRoutes) (eq : r.id = r'.id) : r = r' :=
  inj_on_of_nodup_map keeps.nodup mem mem' eq

lemma of_mem (mem : r ∈ st.ripRoutes) (followed : r.id ∈ S) : P r := by
  obtain ⟨r', mem', eq, holds⟩ := keeps.has r.id followed
  rwa [keeps.eq_of_id mem mem' eq.symm]

lemma mono {S' : Set ℕ} (sub : S' ⊆ S) (imp : ∀ r, r.id ∈ S' → P r → Q r)
    (learned : ∀ r, Q r → r.type = .RIP_ROUTE_RTE) : Keeps S' Q st :=
  ⟨keeps.distinct, keeps.nodup, keeps.fresh, keeps.known, keeps.own, fun id mem => by
    obtain ⟨r, rMem, rfl, holds⟩ := keeps.has id (sub mem)
    exact ⟨r, rMem, rfl, imp r mem holds⟩, learned⟩

lemma of_rt {rt' : RoutingTable} (distinct : Distinct rt') (next : st.rt.nextId ≤ rt'.nextId)
    (back : ∀ q < st.rt.nextId, OwnPointer st.rt q → OwnPointer rt' q) :
    Keeps S P { st with rt := rt' } where
  distinct := distinct
  nodup := keeps.nodup
  fresh := keeps.fresh
  known := fun r mem q points => (keeps.known r mem q points).trans_le next
  own := fun r mem type q points => back q (keeps.known r mem q points) (keeps.own r mem type q points)
  has := keeps.has
  learned := keeps.learned

lemma of_subset {rt' : RoutingTable} (distinct : Distinct rt') (next : st.rt.nextId ≤ rt'.nextId)
    (sub : rt'.routes ⊆ st.rt.routes) : Keeps S P { st with rt := rt' } :=
  keeps.of_rt distinct next fun _ _ own route mem => own route (sub mem)

/-! ## The `RIPRoute`s -/

variable {f : RIPRoute → RIPRoute}

lemma map (same : ∀ r, (f r).id = r.id) (pointer : ∀ r ∈ st.ripRoutes, ∀ q, (f r).route = some q →
      q < st.rt.nextId ∧ ((f r).type = .RIP_ROUTE_RTE → OwnPointer st.rt q))
    (holds : ∀ r ∈ st.ripRoutes, r.id ∈ S → P r → Q (f r))
    (learned : ∀ r, Q r → r.type = .RIP_ROUTE_RTE) :
    Keeps S Q { st with ripRoutes := st.ripRoutes.map f } where
  distinct := keeps.distinct
  nodup := by
    rw [map_map, show RIPRoute.id ∘ f = RIPRoute.id from funext same]
    exact keeps.nodup
  fresh := by
    intro r' mem
    obtain ⟨r, old, rfl⟩ := mem_map.mp mem
    rw [same]
    exact keeps.fresh r old
  known := by
    intro r' mem q points
    obtain ⟨r, old, rfl⟩ := mem_map.mp mem
    exact (pointer r old q points).1
  own := by
    intro r' mem type q points
    obtain ⟨r, old, rfl⟩ := mem_map.mp mem
    exact (pointer r old q points).2 type
  has := by
    intro id followed
    obtain ⟨r, mem, rfl, held⟩ := keeps.has id followed
    exact ⟨f r, mem_map_of_mem mem, same r, holds r mem followed held⟩
  learned := learned

lemma modify (same : ∀ r, (f r).id = r.id ∧ (f r).route = r.route ∧ (f r).type = r.type)
    (holds : k ∈ S → ∀ r, P r → P (f r)) : Keeps S P (st.modify k f) := by
  refine keeps.map (fun r => ?_) (fun r mem q points => ?_) (fun r mem followed held => ?_)
    keeps.learned
  · split_ifs
    · exact (same r).1
    · rfl
  · have old : r.route = some q ∧ ∀ type, (if r.id = k then f r else r).type = type → r.type = type := by
      split_ifs at points ⊢
      · rw [(same r).2.1] at points
        exact ⟨points, fun type eq => (same r).2.2.symm.trans eq⟩
      · exact ⟨points, fun type eq => eq⟩
    exact ⟨keeps.known r mem q old.1, fun type => keeps.own r mem (old.2 _ type) q old.1⟩
  · split_ifs with here
    · exact holds (here ▸ followed) r held
    · exact held

lemma point (same : ∀ r, (f r).id = r.id)
    (pointer : ∀ r ∈ st.ripRoutes, r.id = k → ∀ q, (f r).route = some q →
      q < st.rt.nextId ∧ OwnPointer st.rt q)
    (holds : k ∈ S → ∀ r, P r → P (f r)) : Keeps S P (st.modify k f) := by
  refine keeps.map (fun r => ?_) (fun r mem q points => ?_) (fun r mem followed held => ?_)
    keeps.learned
  · split_ifs
    · exact same r
    · rfl
  · split_ifs at points ⊢ with here
    · exact ⟨(pointer r mem here q points).1, fun _ => (pointer r mem here q points).2⟩
    · exact ⟨keeps.known r mem q points, fun type => keeps.own r mem type q points⟩
  · split_ifs with here
    · exact holds (here ▸ followed) r held
    · exact held

lemma filter {keep : RIPRoute → Bool}
    (stays : ∀ r ∈ st.ripRoutes, r.id ∈ S → P r → keep r = true) :
    Keeps S P { st with ripRoutes := st.ripRoutes.filter keep } where
  distinct := keeps.distinct
  nodup := keeps.nodup.sublist (filter_sublist.map _)
  fresh := fun r mem => keeps.fresh r (mem_filter.mp mem).1
  known := fun r mem => keeps.known r (mem_filter.mp mem).1
  own := fun r mem => keeps.own r (mem_filter.mp mem).1
  has := by
    intro id followed
    obtain ⟨r, mem, rfl, held⟩ := keeps.has id followed
    exact ⟨r, mem_filter.mpr ⟨mem, stays r mem followed held⟩, rfl, held⟩
  learned := keeps.learned

lemma push {r : RIPRoute} (id : r.id = st.nextId) (pointer : ∀ q, r.route = some q →
      q < st.rt.nextId ∧ (r.type = .RIP_ROUTE_RTE → OwnPointer st.rt q)) :
    Keeps S P { st with ripRoutes := st.ripRoutes ++ [r], nextId := st.nextId + 1 } := by
  constructor
  · exact keeps.distinct
  · rw [map_append, map_singleton]
    refine nodup_append.mpr ⟨keeps.nodup, nodup_singleton _, fun a aMem b bMem => ?_⟩
    obtain ⟨other, mem, rfl⟩ := mem_map.mp aMem
    rw [mem_singleton.mp bMem, id]
    exact (keeps.fresh other mem).ne
  · intro other mem
    rcases mem_append.mp mem with front | back
    · exact (keeps.fresh other front).trans (Nat.lt_succ_self _)
    · rw [mem_singleton.mp back, id]
      exact Nat.lt_succ_self _
  · intro other mem q points
    rcases mem_append.mp mem with front | back
    · exact keeps.known other front q points
    · rw [mem_singleton.mp back] at points
      exact (pointer q points).1
  · intro other mem type q points
    rcases mem_append.mp mem with front | back
    · exact keeps.own other front type q points
    · rw [mem_singleton.mp back] at points type
      exact (pointer q points).2 type
  · intro id' followed
    obtain ⟨other, mem, eq, held⟩ := keeps.has id' followed
    exact ⟨other, mem_append_left _ mem, eq, held⟩
  · exact keeps.learned

/-- No learned route points to the route, if it is one of another module. -/
def Unpointed (st : RIPRouting) (entry : IPv4Route) : Prop :=
  ∀ r ∈ st.ripRoutes, r.type = .RIP_ROUTE_RTE → r.route = some entry.id → entry.sourceType = .RIP

lemma unpointed (mem : entry ∈ st.rt.routes) : Unpointed st entry :=
  fun r rMem type points => keeps.own r rMem type entry.id points entry mem rfl

lemma notifyDeleted (unpointed : Unpointed st entry) : Keeps S P (st.notifyDeleted entry) := by
  rw [RIPRouting.notifyDeleted]
  split_ifs with own
  · exact keeps
  · have apart : ∀ r ∈ st.ripRoutes, r.type = .RIP_ROUTE_RTE → r.route ≠ some entry.id :=
      fun r mem type points => own (unpointed r mem type points)
    refine keeps.map (fun r => ?_) (fun r mem q points => ?_) (fun r mem _ held => ?_) keeps.learned
    · split_ifs <;> rfl
    · split_ifs at points ⊢
      · cases points
      · exact ⟨keeps.known r mem q points, fun type => keeps.own r mem type q points⟩
    · rwa [if_neg (apart r mem (keeps.learned r held))]

lemma notifyReplaced {old : Option IPv4Route}
    (unpointed : ∀ entry, old = some entry → Unpointed st entry) :
    Keeps S P (st.notifyReplaced old) := by
  cases old with
  | none => exact keeps
  | some entry => exact keeps.notifyDeleted (unpointed entry rfl)

lemma deleteRoute (q : ℕ) : Keeps S P (st.deleteRoute q) := by
  rw [RIPRouting.deleteRoute]
  cases found : st.rt.routes.find? fun entry => entry.id = q with
  | none => exact keeps
  | some entry =>
    have unpointed := keeps.unpointed (mem_of_find?_eq_some found)
    exact (keeps.of_subset keeps.distinct.removeRoute (le_of_eq removeRoute_nextId.symm)
      removeRoute_subset).notifyDeleted unpointed

lemma rtAddRoute (entry : IPv4Route) :
    EndsIn (fun _ => True) (fun result => Keeps S P result.1 ∧ result.2 < result.1.rt.nextId ∧
        { entry with id := result.2 } ∈ result.1.rt.routes ∧
        (∀ r ∈ result.1.ripRoutes, r.route ≠ some result.2) ∧
        (entry.sourceType = .RIP → OwnPointer result.1.rt result.2))
      (st.rtAddRoute entry) := by
  rw [RIPRouting.rtAddRoute]
  cases added : st.rt.addRoute entry with
  | error e => exact trivial
  | ok rt' =>
    obtain ⟨-, next, distinct, mem⟩ := addRoute_mem keeps.distinct added
    have tabled : Keeps S P { st with rt := rt' } := by
      refine keeps.of_rt distinct (next ▸ Nat.le_succ _) fun q lt own route routeMem eq => ?_
      rcases (mem route).mp routeMem with rfl | ⟨old, -⟩
      · exact absurd eq lt.ne'
      · exact own route old eq
    have gone : ∀ old, st.rt.replacedDefault entry.netmask = some old → Unpointed st old :=
      fun old replaced => keeps.unpointed (replacedDefault_mem replaced).1
    have kept := tabled.notifyReplaced gone
    have rt : (RIPRouting.notifyReplaced { st with rt := rt' }
        (st.rt.replacedDefault entry.netmask)).rt = rt' := notifyReplaced_rt ..
    have newMem : { entry with id := st.rt.nextId } ∈ rt'.routes := (mem _).mpr (.inl rfl)
    refine ⟨kept, ?_, ?_, ?_, fun own => ?_⟩
    · change _ < (RIPRouting.notifyReplaced { st with rt := rt' } _).rt.nextId
      rw [rt, next]
      exact Nat.lt_succ_self _
    · change _ ∈ (RIPRouting.notifyReplaced { st with rt := rt' } _).rt.routes
      rw [rt]
      exact newMem
    · intro r rMem points
      obtain ⟨old, oldMem, -, -, pointer⟩ := mem_notifyReplaced_back rMem
      rw [points] at pointer
      exact absurd (keeps.known old oldMem st.rt.nextId (pointer (Option.some_ne_none _)).symm) (lt_irrefl _)
    · change OwnPointer (RIPRouting.notifyReplaced { st with rt := rt' } _).rt _
      rw [rt]
      intro route routeMem eq
      rw [inj_on_of_nodup_map distinct.nodup routeMem newMem eq]
      exact own

variable {change : IPv4Route.Change}

lemma setField {id : ℕ} (source : ∀ route, (change.apply route).sourceType = route.sourceType) :
    EndsIn (fun _ => True) (Keeps S P) (st.setField id change) := by
  rw [RIPRouting.setField]
  cases set : st.rt.setField id change with
  | error e => exact trivial
  | ok rt' =>
    have spec := setField_mem keeps.distinct set
    have tabled : Keeps S P { st with rt := rt' } := by
      refine keeps.of_rt spec.distinct (le_of_eq spec.nextId.symm) fun q _ own route mem eq => ?_
      rcases spec.back route mem with ⟨-, old⟩ | ⟨old, oldMem, -, rfl⟩
      · exact own route old eq
      · rw [Change.apply_id] at eq
        rw [source]
        exact own old oldMem eq
    exact tabled.notifyReplaced fun old readded => keeps.unpointed (spec.gone old readded).1

/-- What is followed about the route survives that it loses its route in the table. -/
def Closed (P : RIPRoute → Prop) : Prop :=
  ∀ r, P r → P { r with route := none } ∧ P r.invalidated

lemma cut (holds : k ∈ S → ∀ r, P r → P { r with route := none }) :
    Keeps S P (st.setRoute k none) :=
  keeps.point (fun _ => rfl) (fun _ _ _ _ points => nomatch points) holds

lemma deleteRouteOf (closed : k ∈ S → Closed P) : Keeps S P (st.deleteRouteOf k) := by
  rw [RIPRouting.deleteRouteOf]
  cases st.routeOf k with
  | none => exact keeps
  | some route => exact (keeps.cut fun followed r held => (closed followed r held).1).deleteRoute route

lemma invalidateRoute
    (holds : k ∈ S → Closed P ∧ ∀ r, P r → P { r with metric := RIP_INFINITE_METRIC, changed := true }) :
    Keeps S P (st.invalidateRoute k) :=
  (keeps.deleteRouteOf fun followed => (holds followed).1).modify (fun _ => ⟨rfl, rfl, rfl⟩)
    fun followed => (holds followed).2

lemma purgeRoute (other : k ∉ S) : Keeps S P (st.purgeRoute k) := by
  refine (keeps.deleteRouteOf fun followed => absurd followed other).filter fun r _ followed _ => ?_
  exact decide_eq_true fun eq => other (eq ▸ followed)

/-! ## Setters -/

lemma writeThrough (source : ∀ route, (change.apply route).sourceType = route.sourceType) :
    EndsIn (fun _ => True) (Keeps S P) (st.writeThrough k change) := by
  rw [RIPRouting.writeThrough]
  cases st.ripRoutes.find? fun r => r.id = k ∧ r.type = .RIP_ROUTE_RTE with
  | none => exact keeps
  | some r =>
    dsimp only
    cases r.route with
    | none => exact keeps
    | some route =>
      dsimp only
      split_ifs
      · exact keeps.setField source
      · exact trivial

/-- What is followed about a route that is updated does not depend on the rest of its fields. -/
def Free (P : RIPRoute → Prop) : Prop :=
  ∀ r r', r'.id = r.id → r'.key = r.key → (r.type = .RIP_ROUTE_RTE → r'.type = .RIP_ROUTE_RTE) →
    (r.metric ≤ RIP_INFINITE_METRIC → r'.metric ≤ RIP_INFINITE_METRIC) → P r → P r'

lemma setter (free : k ∈ S → Free P)
    (same : ∀ r, (f r).id = r.id ∧ (f r).route = r.route ∧ (f r).type = r.type ∧ (f r).key = r.key ∧
      (r.metric ≤ RIP_INFINITE_METRIC → (f r).metric ≤ RIP_INFINITE_METRIC))
    (source : ∀ route, (change.apply route).sourceType = route.sourceType) :
    EndsIn (fun _ => True) (Keeps S P) ((st.modify k f).writeThrough k change) := by
  refine (keeps.modify (fun r => ⟨(same r).1, (same r).2.1, (same r).2.2.1⟩)
    fun followed r held => ?_).writeThrough source
  obtain ⟨id, -, type, key, metric⟩ := same r
  exact free followed r (f r) id key (fun learned => type.trans learned) metric held

omit keeps

section

variable {dest nextHop fromAddr : IPv4Address} {prefixLength : ℤ} {ie metric routeTag : ℕ}

lemma addIPv4Route (keeps : Keeps S P st) :
    EndsIn (fun _ => True) (fun result => Keeps S P result.1 ∧ result.2 < result.1.rt.nextId ∧
        OwnPointer result.1.rt result.2)
      (st.addIPv4Route dest prefixLength ie nextHop metric) := by
  rw [RIPRouting.addIPv4Route]
  cases makeNetmask prefixLength with
  | error e => exact trivial
  | ok netmask =>
    refine (keeps.rtAddRoute _).mono fun result spec => ?_
    exact ⟨spec.1, spec.2.1, spec.2.2.2.2 rfl⟩

lemma attach (keeps : Keeps S P st) (free : k ∈ S → Free P) :
    EndsIn (fun _ => True) (Keeps S P)
      (do
        let (st, route) ← st.addIPv4Route dest prefixLength ie nextHop metric
        return st.setRoute k (some route)) := by
  refine keeps.addIPv4Route.bind fun result spec => ?_
  obtain ⟨added, lt, own⟩ := spec
  refine added.point (fun _ => rfl) (fun r _ _ q points => ?_) fun followed r held => ?_
  · obtain rfl := Option.some.inj points
    exact ⟨lt, own⟩
  · exact free followed r _ rfl rfl id id held

lemma adopt (keeps : Keeps S P st) (free : k ∈ S → Free P) (le : metric ≤ RIP_INFINITE_METRIC) :
    EndsIn (fun _ => True) (Keeps S P) (st.adopt k ie metric routeTag fromAddr) := by
  refine EndsIn.bind (keeps.setter (f := fun r => { r with ie := some ie }) free
    (fun _ => ⟨rfl, rfl, rfl, rfl, id⟩) fun _ => rfl) fun st₁ keeps₁ => ?_
  refine EndsIn.bind (keeps₁.setter (f := fun r => { r with metric := metric }) free
    (fun _ => ⟨rfl, rfl, rfl, rfl, fun _ => le⟩) fun _ => rfl) fun st₂ keeps₂ => ?_
  exact keeps₂.modify (fun _ => ⟨rfl, rfl, rfl⟩) fun followed r held =>
    free followed r _ rfl rfl id id held

lemma revive (keeps : Keeps S P st) (free : r.id ∈ S → Free P) :
    EndsIn (fun _ => True) (Keeps S P) (st.revive r ie nextHop metric) := by
  rw [RIPRouting.revive]
  cases pointer : st.routeOf r.id with
  | some route => exact trivial
  | none =>
    have bare : ∀ r' ∈ st.ripRoutes, r'.id = r.id → r'.route = none := by
      intro r' mem eq
      cases found : st.ripRoutes.find? fun other => other.id = r.id with
      | none =>
        have absent := find?_eq_none.mp found r' mem
        exact absurd (decide_eq_true eq) absent
      | some other =>
        have here : other.id = r.id := by simpa using find?_some found
        rw [RIPRouting.routeOf, found] at pointer
        rw [keeps.eq_of_id mem (mem_of_find?_eq_some found) (eq.trans here.symm)]
        exact pointer
    have typed : Keeps S P (st.modify r.id fun r => { r with type := .RIP_ROUTE_RTE }) := by
      refine keeps.point (fun _ => rfl) (fun r' mem eq q points => ?_) fun followed r' held => ?_
      · cases (bare r' mem eq).symm.trans points
      · exact free followed r' _ rfl rfl (fun _ => rfl) id held
    change EndsIn _ _ ((st.modify r.id fun r => { r with type := .RIP_ROUTE_RTE }).setNextHop r.id
      nextHop >>= _)
    refine EndsIn.bind (typed.setter (f := fun r => { r with nextHop := nextHop }) free
      (fun _ => ⟨rfl, rfl, rfl, rfl, id⟩) fun _ => rfl) fun st₁ keeps₁ => ?_
    exact keeps₁.attach free

lemma replaceRoute (keeps : Keeps S P st) (free : r.id ∈ S → Free P) :
    EndsIn (fun _ => True) (Keeps S P) (st.replaceRoute r ie nextHop metric) := by
  rw [RIPRouting.replaceRoute]
  cases st.routeOf r.id with
  | none => exact trivial
  | some route =>
    have deleted : Keeps S P ((st.setRoute r.id none).deleteRoute route) :=
      (keeps.cut fun followed r' held => free followed r' _ rfl rfl id id held).deleteRoute route
    refine EndsIn.bind (deleted.setter (f := fun r => { r with nextHop := nextHop }) free
      (fun _ => ⟨rfl, rfl, rfl, rfl, id⟩) fun _ => rfl) fun st₁ keeps₁ => ?_
    split_ifs
    · exact keeps₁.attach free
    · exact keeps₁

lemma finish (keeps : Keeps S P st) (free : k ∈ S → Free P) (infinite : Prop) [Decidable infinite]
    (now : ℤ) :
    Keeps S (fun r => P r ∧ (r.id = k → r.changed = true))
      (if infinite then (st.modify k fun r => { r with changed := true }).invalidateRoute k
        else (st.modify k fun r => { r with changed := true }).modify k
          fun r => { r with lastUpdateTime := now }) := by
  have changed : Keeps S (fun r => P r ∧ (r.id = k → r.changed = true))
      (st.modify k fun r => { r with changed := true }) := by
    refine keeps.map (fun r => ?_) (fun r mem q points => ?_) (fun r mem followed held => ?_)
      fun r held => keeps.learned r held.1
    · split_ifs <;> rfl
    · have old : (if r.id = k then { r with changed := true } else r).route = r.route ∧
          (if r.id = k then { r with changed := true } else r).type = r.type := by
        split_ifs <;> exact ⟨rfl, rfl⟩
      rw [old.1] at points
      rw [old.2]
      exact ⟨keeps.known r mem q points, fun type => keeps.own r mem type q points⟩
    · split_ifs with here
      · exact ⟨free (here ▸ followed) r _ rfl rfl id id held, fun _ => rfl⟩
      · exact ⟨held, fun eq => absurd eq here⟩
  split_ifs
  · refine changed.invalidateRoute fun followed => ⟨fun r held => ⟨⟨?_, held.2⟩, ?_, ?_⟩, ?_⟩
    · exact free followed r _ rfl rfl id id held.1
    · exact free followed r _ rfl rfl id (fun _ => le_rfl) held.1
    · exact fun _ => rfl
    · exact fun r held => ⟨free followed r _ rfl rfl id (fun _ => le_rfl) held.1, fun _ => rfl⟩
  · exact changed.modify (fun _ => ⟨rfl, rfl, rfl⟩) fun followed r held =>
      ⟨free followed r _ rfl rfl id id held.1, held.2⟩

lemma updateRoute (keeps : Keeps S P st) (free : r.id ∈ S → Free P)
    (le : metric ≤ RIP_INFINITE_METRIC) :
    EndsIn (fun _ => True) (Keeps S fun r' => P r' ∧ (r'.id = r.id → r'.changed = true))
      (st.updateRoute r ie nextHop metric routeTag fromAddr) := by
  have ending (st₂ : RIPRouting) (keeps₂ : Keeps S P st₂) :
      EndsIn (fun _ => True) (Keeps S fun r' => P r' ∧ (r'.id = r.id → r'.changed = true))
        (if metric = RIP_INFINITE_METRIC ∧ r.metric ≠ RIP_INFINITE_METRIC then
          Except.ok ((st₂.modify r.id fun r => { r with changed := true }).invalidateRoute r.id)
        else Except.ok ((st₂.modify r.id fun r => { r with changed := true }).modify r.id
          fun r => { r with lastUpdateTime := st₂.rt.now }) : Except SimError RIPRouting) := by
    have finished := keeps₂.finish free
      (metric = RIP_INFINITE_METRIC ∧ r.metric ≠ RIP_INFINITE_METRIC) st₂.rt.now
    split_ifs at finished ⊢ <;> exact finished
  refine EndsIn.bind (keeps.adopt free le) fun st₁ keeps₁ => ?_
  by_cases invalid : r.metric = RIP_INFINITE_METRIC
  · rw [if_pos invalid]
    by_cases gain : metric < RIP_INFINITE_METRIC
    · rw [if_pos gain]
      exact (keeps₁.revive free).bind ending
    · rw [if_neg gain]
      exact ending st₁ keeps₁
  · rw [if_neg invalid]
    exact (keeps₁.replaceRoute free).bind ending

lemma addRoute (keeps : Keeps S P st) :
    EndsIn (fun _ => True) (Keeps S P)
      (st.addRoute dest prefixLength ie nextHop metric routeTag fromAddr) := by
  refine keeps.addIPv4Route.bind fun result spec => ?_
  obtain ⟨added, lt, own⟩ := spec
  cases makeNetmask prefixLength with
  | error e => exact trivial
  | ok netmask =>
    refine added.push rfl fun q points => ?_
    obtain rfl := Option.some.inj points
    exact ⟨lt, fun _ => own⟩

end

end Keeps

end Inet.Rip
