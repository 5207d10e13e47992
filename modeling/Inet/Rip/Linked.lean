import Inet.Rip.RIPRouting

/-!
# The RIP routes and their routes in the table

`Linked`: the learned valid `RIPRoute`s and the routes of this module belong together one by one. In
the middle of an operation the one at `x` and the one at `p` may be out of step.
-/

namespace Inet.Rip

open Ipv4 List
open Ipv4.RoutingTable

/-- The route in the table is the one that belongs to the learned route. -/
structure Mirrors (r : RIPRoute) (route : IPv4Route) : Prop where
  pointer : r.route = some route.id
  source : route.sourceType = .RIP
  dest : route.dest = r.dest
  netmask : makeNetmask r.prefixLength = .ok route.netmask
  gateway : route.gateway = r.nextHop
  interfacePtr : route.interfacePtr = r.ie
  metric : route.metric = r.metric
  proper : route.dest &&& ~~~route.netmask = 0

namespace RIPRoute

/-- A route that RIP has learned and that is valid. -/
def Learned (r : RIPRoute) : Prop := r.type = .RIP_ROUTE_RTE ∧ r.metric < RIP_INFINITE_METRIC

end RIPRoute

/-- The `RIPRoute` is in step with the table. -/
inductive Settled (rt : RoutingTable) (r : RIPRoute) : Prop
  | invalid (metric : r.metric = RIP_INFINITE_METRIC) (route : r.route = none)
  | learned (learned : r.Learned) (route : IPv4Route) (mem : route ∈ rt.routes)
    (mirrors : Mirrors r route)
  | imported (type : r.type ≠ .RIP_ROUTE_RTE) (metric : r.metric < RIP_INFINITE_METRIC) (q : ℕ)
    (pointer : r.route = some q)
    (foreign : ∀ route ∈ rt.routes, route.id = q → route.sourceType ≠ .RIP)

/-- A route that is not learned comes from no router, and while it is valid it is one of `I`. -/
structure Imported (I : Set (RouteType × (IPv4Address × ℤ) × ℕ)) (r : RIPRoute) : Prop where
  fromAddr : r.fromAddr = 0
  valid : r.metric < RIP_INFINITE_METRIC → (r.type, r.key, r.metric) ∈ I

structure Linked (I : Set (RouteType × (IPv4Address × ℤ) × ℕ)) (st : RIPRouting) (x p : Option ℕ) : Prop where
  distinct : Distinct st.rt
  nodup : (st.ripRoutes.map RIPRoute.id).Nodup
  fresh : ∀ r ∈ st.ripRoutes, r.id < st.nextId
  keys : (st.ripRoutes.map RIPRoute.key).Nodup
  known : ∀ r ∈ st.ripRoutes, ∀ q, r.route = some q →
    q < st.rt.nextId ∧ (some q = p → some r.id = x)
  imported : ∀ r ∈ st.ripRoutes, some r.id ≠ x → r.type ≠ .RIP_ROUTE_RTE → Imported I r
  settled : ∀ r ∈ st.ripRoutes, some r.id ≠ x → Settled st.rt r
  owned : ∀ route ∈ st.rt.routes, route.sourceType = .RIP → some route.id ≠ p →
    ∃ r ∈ st.ripRoutes, some r.id ≠ x ∧ Mirrors r route

/-! ## Prefixes -/

lemma makeNetmask_ok {length : ℤ} {netmask : IPv4Address} (ok : makeNetmask length = .ok netmask) :
    0 ≤ length ∧ length ≤ 32 ∧ netmask = IPv4Address.makeNetmask length.toNat := by
  rw [makeNetmask] at ok
  split_ifs at ok with outside
  cases ok
  exact ⟨by omega, by omega, rfl⟩

lemma makeNetmask_inj {length length' : ℤ} {netmask : IPv4Address}
    (ok : makeNetmask length = .ok netmask) (ok' : makeNetmask length' = .ok netmask) :
    length = length' := by
  obtain ⟨low, high, eq⟩ := makeNetmask_ok ok
  obtain ⟨low', high', eq'⟩ := makeNetmask_ok ok'
  have same := eq.symm.trans eq'
  rcases lt_trichotomy length.toNat length'.toNat with lt | same' | gt
  · have := IPv4Address.makeNetmask_mono _ (by omega) _ (by omega) lt
    rw [same, BitVec.lt_def] at this
    exact absurd this (lt_irrefl _)
  · omega
  · have := IPv4Address.makeNetmask_mono _ (by omega) _ (by omega) gt
    rw [same, BitVec.lt_def] at this
    exact absurd this (lt_irrefl _)

lemma getNetmaskLength_makeNetmask : ∀ length < 33,
    (IPv4Address.makeNetmask length).getNetmaskLength = length := by
  decide +kernel

lemma eq_zero_of_proper {dest : IPv4Address} (proper : dest &&& ~~~(0 : IPv4Address) = 0) :
    dest = 0 := by
  have ones : ~~~(0 : IPv4Address) = BitVec.allOnes 32 := rfl
  rwa [ones, BitVec.and_allOnes] at proper

variable {I : Set (RouteType × (IPv4Address × ℤ) × ℕ)} {st : RIPRouting} {x p : Option ℕ}
  {r r' : RIPRoute} {route route' : IPv4Route}

lemma Mirrors.key_eq (mirrors : Mirrors r route) (mirrors' : Mirrors r' route) :
    r.key = r'.key := by
  have length := makeNetmask_inj mirrors.netmask mirrors'.netmask
  rw [RIPRoute.key, RIPRoute.key, ← mirrors.dest, ← mirrors'.dest, length]

lemma Mirrors.of_link (mirrors : Mirrors r route)
    (link : r'.route = r.route ∧ r'.key = r.key ∧ r'.nextHop = r.nextHop ∧ r'.ie = r.ie ∧
      r'.metric = r.metric) : Mirrors r' route := by
  obtain ⟨pointer, key, nextHop, ie, metric⟩ := link
  obtain ⟨dest, prefixLength⟩ := Prod.mk.inj key
  exact ⟨pointer.trans mirrors.pointer, mirrors.source, mirrors.dest.trans dest.symm,
    prefixLength ▸ mirrors.netmask, mirrors.gateway.trans nextHop.symm,
    mirrors.interfacePtr.trans ie.symm, by rw [mirrors.metric, metric], mirrors.proper⟩

namespace Linked

variable (linked : Linked I st x p)
include linked

lemma eq_of_mirrors (mem : r ∈ st.ripRoutes) (mem' : r' ∈ st.ripRoutes)
    (mirrors : Mirrors r route) (mirrors' : Mirrors r' route) : r = r' :=
  inj_on_of_nodup_map linked.keys mem mem' (mirrors.key_eq mirrors')

lemma eq_of_id (mem : r ∈ st.ripRoutes) (mem' : r' ∈ st.ripRoutes) (eq : r.id = r'.id) : r = r' :=
  inj_on_of_nodup_map linked.nodup mem mem' eq

lemma route_eq (mem : route ∈ st.rt.routes) (mem' : route' ∈ st.rt.routes)
    (eq : route.id = route'.id) : route = route' :=
  inj_on_of_nodup_map linked.distinct.nodup mem mem' eq

lemma mirrors_of_pointer (mem : r ∈ st.ripRoutes) (other : some r.id ≠ x)
    (routeMem : route ∈ st.rt.routes) (source : route.sourceType = .RIP)
    (pointer : r.route = some route.id) : r.Learned ∧ Mirrors r route := by
  cases linked.settled r mem other with
  | invalid metric none =>
    rw [none] at pointer
    cases pointer
  | learned learned route' mem' mirrors =>
    have eq := mirrors.pointer.symm.trans pointer
    obtain rfl := linked.route_eq mem' routeMem (Option.some.inj eq)
    exact ⟨learned, mirrors⟩
  | imported type metric q pointer' foreign =>
    have eq := pointer'.symm.trans pointer
    exact absurd source (foreign route routeMem (Option.some.inj eq).symm)

lemma of_rt {rt' : RoutingTable} (distinct : Distinct rt') (next : st.rt.nextId ≤ rt'.nextId)
    (back : ∀ route ∈ rt'.routes, route.sourceType = .RIP → some route.id ≠ p →
      route ∈ st.rt.routes)
    (kept : ∀ route ∈ st.rt.routes, route.sourceType = .RIP → some route.id ≠ p →
      route ∈ rt'.routes) : Linked I { st with rt := rt' } x p where
  distinct := distinct
  nodup := linked.nodup
  fresh := linked.fresh
  keys := linked.keys
  known := fun r mem q pointer =>
    ⟨(linked.known r mem q pointer).1.trans_le next, (linked.known r mem q pointer).2⟩
  imported := linked.imported
  settled := by
    intro r mem other
    have out (q : ℕ) (pointer : r.route = some q) : some q ≠ p := fun same =>
      other ((linked.known r mem q pointer).2 same)
    cases linked.settled r mem other with
    | invalid metric none => exact .invalid metric none
    | learned learned route routeMem mirrors =>
      exact .learned learned route
        (kept route routeMem mirrors.source (out route.id mirrors.pointer)) mirrors
    | imported type metric q pointer foreign =>
      refine .imported type metric q pointer fun route routeMem eq source => ?_
      subst eq
      exact foreign route (back route routeMem source (out route.id pointer)) rfl source
  owned := by
    intro route mem source other
    exact linked.owned route (back route mem source other) source other

lemma drop (gone : ∀ route ∈ st.rt.routes, some route.id ≠ p) :
    Linked I st x none where
  distinct := linked.distinct
  nodup := linked.nodup
  fresh := linked.fresh
  keys := linked.keys
  known := fun r mem q pointer => ⟨(linked.known r mem q pointer).1, fun eq => nomatch eq⟩
  imported := linked.imported
  settled := linked.settled
  owned := fun route mem source _ => linked.owned route mem source (gone route mem)

omit linked in
lemma raise (linked : Linked I st x none) {q : ℕ} (le : st.rt.nextId ≤ q) :
    Linked I st x (some q) where
  distinct := linked.distinct
  nodup := linked.nodup
  fresh := linked.fresh
  keys := linked.keys
  known := fun r mem q' pointer => by
    have lt := (linked.known r mem q' pointer).1
    refine ⟨lt, fun eq => ?_⟩
    obtain rfl := Option.some.inj eq
    omega
  imported := linked.imported
  settled := linked.settled
  owned := fun route mem source _ => linked.owned route mem source nofun

/-! ## Changes of the `RIPRoute`s -/

variable {f : RIPRoute → RIPRoute}

lemma map (same : ∀ r, (f r).id = r.id ∧ (f r).key = r.key)
    (pointer : ∀ r ∈ st.ripRoutes, ∀ q, (f r).route = some q →
      q < st.rt.nextId ∧ (some q = p → some r.id = x))
    (imported : ∀ r ∈ st.ripRoutes, some r.id ≠ x → (f r).type ≠ .RIP_ROUTE_RTE →
      Imported I (f r)) (settled : ∀ r ∈ st.ripRoutes, some r.id ≠ x → Settled st.rt (f r))
    (mirrors : ∀ r ∈ st.ripRoutes, some r.id ≠ x → ∀ route ∈ st.rt.routes, Mirrors r route →
      Mirrors (f r) route) : Linked I { st with ripRoutes := st.ripRoutes.map f } x p where
  distinct := linked.distinct
  nodup := by
    rw [map_map, show RIPRoute.id ∘ f = RIPRoute.id from funext fun r => (same r).1]
    exact linked.nodup
  fresh := by
    intro r' mem
    obtain ⟨r, old, rfl⟩ := mem_map.mp mem
    rw [(same r).1]
    exact linked.fresh r old
  keys := by
    rw [map_map, show RIPRoute.key ∘ f = RIPRoute.key from funext fun r => (same r).2]
    exact linked.keys
  known := by
    intro r' mem q points
    obtain ⟨r, old, rfl⟩ := mem_map.mp mem
    rw [(same r).1]
    exact pointer r old q points
  imported := by
    intro r' mem other
    obtain ⟨r, old, rfl⟩ := mem_map.mp mem
    rw [(same r).1] at other
    exact imported r old other
  settled := by
    intro r' mem other
    obtain ⟨r, old, rfl⟩ := mem_map.mp mem
    rw [(same r).1] at other
    exact settled r old other
  owned := by
    intro route mem source other
    obtain ⟨r, old, outside, mirrored⟩ := linked.owned route mem source other
    refine ⟨f r, mem_map_of_mem old, ?_, mirrors r old outside route mem mirrored⟩
    rw [(same r).1]
    exact outside

lemma relabel (link : ∀ r, (f r).route = r.route ∧ (f r).key = r.key ∧ (f r).nextHop = r.nextHop ∧
      (f r).ie = r.ie ∧ (f r).metric = r.metric)
    (same : ∀ r, (f r).id = r.id ∧ (f r).type = r.type ∧ (f r).fromAddr = r.fromAddr) :
    Linked I { st with ripRoutes := st.ripRoutes.map f } x p := by
  refine linked.map (fun r => ⟨(same r).1, (link r).2.1⟩) (fun r mem q => ?_)
    (fun r mem other => ?_) (fun r mem other => ?_) fun r mem other route routeMem mirrors => ?_
  · rw [(link r).1]
    exact linked.known r mem q
  · rw [(same r).2.1]
    intro type
    obtain ⟨fromAddr, valid⟩ := linked.imported r mem other type
    refine ⟨(same r).2.2.trans fromAddr, ?_⟩
    rw [(same r).2.1, (link r).2.1, (link r).2.2.2.2]
    exact valid
  · cases linked.settled r mem other with
    | invalid metric pointer =>
      exact .invalid ((link r).2.2.2.2.trans metric) ((link r).1.trans pointer)
    | learned learned route routeMem mirrors =>
      refine .learned ⟨(same r).2.1.trans learned.1, ?_⟩ route routeMem (mirrors.of_link (link r))
      rw [(link r).2.2.2.2]
      exact learned.2
    | imported type metric q pointer foreign =>
      refine .imported ?_ ?_ q ((link r).1.trans pointer) foreign
      · rw [(same r).2.1]
        exact type
      · rw [(link r).2.2.2.2]
        exact metric
  · exact mirrors.of_link (link r)

lemma of_imported {J : Set (RouteType × (IPv4Address × ℤ) × ℕ)}
    (imported : ∀ r ∈ st.ripRoutes, some r.id ≠ x → r.type ≠ .RIP_ROUTE_RTE → Imported J r) :
    Linked J st x p :=
  ⟨linked.distinct, linked.nodup, linked.fresh, linked.keys, linked.known, imported, linked.settled,
    linked.owned⟩

lemma modify {id : ℕ} (out : some id = x) (same : ∀ r, (f r).id = r.id ∧ (f r).key = r.key)
    (pointer : ∀ r ∈ st.ripRoutes, r.id = id → ∀ q, (f r).route = some q → q < st.rt.nextId) :
    Linked I (st.modify id f) x p := by
  have outside {r : RIPRoute} (other : some r.id ≠ x) : r.id ≠ id := fun eq => other (eq ▸ out)
  refine linked.map (fun r => ?_) (fun r mem q => ?_) (fun r mem other => ?_)
    (fun r mem other => ?_) fun r mem other route routeMem mirrors => ?_
  · split_ifs
    · exact same r
    · exact ⟨rfl, rfl⟩
  · split_ifs with here
    · exact fun points => ⟨pointer r mem here q points, fun _ => here ▸ out⟩
    · exact linked.known r mem q
  · rw [if_neg (outside other)]
    exact linked.imported r mem other
  · rw [if_neg (outside other)]
    exact linked.settled r mem other
  · rw [if_neg (outside other)]
    exact mirrors

lemma routeDeleted {q : ℕ} (gone : ∀ route ∈ st.rt.routes, route.id ≠ q) :
    Linked I (st.routeDeleted q) x p := by
  refine linked.map (fun r => ?_) (fun r mem q' => ?_) (fun r mem other => ?_)
    (fun r mem other => ?_) fun r mem other route routeMem mirrors => ?_
  · split_ifs
    · exact ⟨rfl, rfl⟩
    · exact ⟨rfl, rfl⟩
  · split_ifs
    · exact fun points => nomatch points
    · exact linked.known r mem q'
  · split_ifs
    · exact fun type => ⟨(linked.imported r mem other type).fromAddr, fun lt => absurd lt (lt_irrefl _)⟩
    · exact linked.imported r mem other
  · split_ifs
    · exact .invalid rfl rfl
    · exact linked.settled r mem other
  · have other : r.route ≠ some q := fun points =>
      gone route routeMem (Option.some.inj (mirrors.pointer.symm.trans points))
    rw [if_neg other]
    exact mirrors

omit linked in
lemma push (linked : Linked I st none p) {r : RIPRoute} (id : r.id = st.nextId)
    (new : ∀ other ∈ st.ripRoutes, other.key ≠ r.key)
    (pointer : ∀ q, r.route = some q → q < st.rt.nextId) :
    Linked I { st with ripRoutes := st.ripRoutes ++ [r], nextId := st.nextId + 1 } (some r.id) p := by
  have old {other : RIPRoute} (mem : other ∈ st.ripRoutes ++ [r]) (outside : some other.id ≠ some r.id) :
      other ∈ st.ripRoutes := by
    rcases mem_append.mp mem with front | back
    · exact front
    · rw [mem_singleton.mp back] at outside
      exact absurd rfl outside
  have before {other : RIPRoute} (mem : other ∈ st.ripRoutes) : other.id ≠ r.id := by
    have := linked.fresh other mem
    omega
  constructor
  · exact linked.distinct
  · rw [map_append, map_singleton]
    refine nodup_append.mpr ⟨linked.nodup, nodup_singleton _, fun a aMem b bMem => ?_⟩
    obtain ⟨other, mem, rfl⟩ := mem_map.mp aMem
    rw [mem_singleton.mp bMem]
    exact before mem
  · intro other mem
    rcases mem_append.mp mem with front | back
    · exact (linked.fresh other front).trans (Nat.lt_succ_self _)
    · rw [mem_singleton.mp back, id]
      exact Nat.lt_succ_self _
  · rw [map_append, map_singleton]
    refine nodup_append.mpr ⟨linked.keys, nodup_singleton _, fun a aMem b bMem => ?_⟩
    obtain ⟨other, mem, rfl⟩ := mem_map.mp aMem
    rw [mem_singleton.mp bMem]
    exact new other mem
  · intro other mem q points
    rcases mem_append.mp mem with front | back
    · obtain ⟨lt, only⟩ := linked.known other front q points
      exact ⟨lt, fun eq => nomatch only eq⟩
    · rw [mem_singleton.mp back] at points ⊢
      exact ⟨pointer q points, fun _ => rfl⟩
  · intro other mem outside
    exact linked.imported other (old mem outside) nofun
  · intro other mem outside
    exact linked.settled other (old mem outside) nofun
  · intro route mem source out
    obtain ⟨other, otherMem, -, mirrors⟩ := linked.owned route mem source out
    refine ⟨other, mem_append_left _ otherMem, fun eq => ?_, mirrors⟩
    exact before otherMem (Option.some.inj eq)

omit linked in
lemma filter (linked : Linked I st x none) {keep : RIPRoute → Bool}
    (out : ∀ r ∈ st.ripRoutes, some r.id = x → keep r = false)
    (free : ∀ r ∈ st.ripRoutes, some r.id ≠ x → keep r = false →
      ∀ route ∈ st.rt.routes, ¬ Mirrors r route) :
    Linked I { st with ripRoutes := st.ripRoutes.filter keep } none none where
  distinct := linked.distinct
  nodup := linked.nodup.sublist (filter_sublist.map _)
  fresh := fun r mem => linked.fresh r (mem_filter.mp mem).1
  keys := linked.keys.sublist (filter_sublist.map _)
  known := fun r mem q points =>
    ⟨(linked.known r (mem_filter.mp mem).1 q points).1, fun eq => nomatch eq⟩
  imported := by
    intro r mem _
    obtain ⟨mem, kept⟩ := mem_filter.mp mem
    exact linked.imported r mem fun here => absurd kept (by rw [out r mem here]; exact nofun)
  settled := by
    intro r mem _
    obtain ⟨mem, kept⟩ := mem_filter.mp mem
    exact linked.settled r mem fun here => absurd kept (by rw [out r mem here]; exact nofun)
  owned := by
    intro route mem source _
    obtain ⟨r, rMem, outside, mirrors⟩ := linked.owned route mem source nofun
    refine ⟨r, mem_filter.mpr ⟨rMem, ?_⟩, nofun, mirrors⟩
    by_contra dropped
    exact free r rMem outside (Bool.eq_false_of_not_eq_true dropped) route mem mirrors

omit linked in
lemma focus (linked : Linked I st none none) (mem : r ∈ st.ripRoutes) :
    (r.Learned ∧ ∃ route ∈ st.rt.routes, Mirrors r route ∧
      Linked I st (some r.id) (some route.id)) ∨
    (¬ r.Learned ∧ Linked I st (some r.id) none ∧
      ∀ q, r.route = some q → ∀ route ∈ st.rt.routes, route.id = q → route.sourceType ≠ .RIP) := by
  have imported : ∀ r ∈ st.ripRoutes, some r.id ≠ none → r.type ≠ .RIP_ROUTE_RTE → Imported I r :=
    linked.imported
  have others {route : IPv4Route} (routeMem : route ∈ st.rt.routes) (source : route.sourceType = .RIP)
      (apart : ¬ Mirrors r route) : ∃ r' ∈ st.ripRoutes, some r'.id ≠ some r.id ∧ Mirrors r' route := by
    obtain ⟨r', mem', -, mirrors⟩ := linked.owned route routeMem source nofun
    refine ⟨r', mem', fun eq => apart ?_, mirrors⟩
    rwa [linked.eq_of_id mem mem' (Option.some.inj eq).symm]
  have plain (apart : ∀ route ∈ st.rt.routes, ¬ Mirrors r route) : Linked I st (some r.id) none :=
    ⟨linked.distinct, linked.nodup, linked.fresh, linked.keys,
      fun r mem q points => ⟨(linked.known r mem q points).1, nofun⟩,
      fun r mem _ => imported r mem nofun, fun r mem _ => linked.settled r mem nofun,
      fun route routeMem source _ => others routeMem source (apart route routeMem)⟩
  cases linked.settled r mem nofun with
  | invalid metric none =>
    refine .inr ⟨fun learned => ?_, plain fun route _ mirrors => ?_, fun q points => ?_⟩
    · exact absurd learned.2 (by rw [metric]; exact lt_irrefl _)
    · exact nomatch none.symm.trans mirrors.pointer
    · exact nomatch none.symm.trans points
  | learned learned route routeMem mirrors =>
    refine .inl ⟨learned, route, routeMem, mirrors, linked.distinct, linked.nodup, linked.fresh,
      linked.keys, fun r' mem' q points => ?_, fun r mem _ => imported r mem nofun,
      fun r mem _ => linked.settled r mem nofun, fun route' mem' source other => ?_⟩
    · refine ⟨(linked.known r' mem' q points).1, fun eq => ?_⟩
      obtain rfl := Option.some.inj eq
      obtain ⟨-, mirrors'⟩ := linked.mirrors_of_pointer mem' nofun routeMem mirrors.source points
      rw [linked.eq_of_mirrors mem mem' mirrors mirrors']
    · refine others mem' source fun mirrors' => other ?_
      rw [← mirrors'.pointer, mirrors.pointer]
  | imported type metric q pointer foreign =>
    refine .inr ⟨fun learned => type learned.1, plain fun route routeMem mirrors => ?_,
      fun q' points => ?_⟩
    · have eq := mirrors.pointer.symm.trans pointer
      exact foreign route routeMem (Option.some.inj eq) mirrors.source
    · obtain rfl := Option.some.inj (pointer.symm.trans points)
      exact foreign

lemma settle
    (imported : ∀ r ∈ st.ripRoutes, some r.id = x → r.type ≠ .RIP_ROUTE_RTE → Imported I r)
    (settled : ∀ r ∈ st.ripRoutes, some r.id = x → Settled st.rt r)
    (owned : ∀ route ∈ st.rt.routes, some route.id = p → route.sourceType = .RIP →
      ∃ r ∈ st.ripRoutes, Mirrors r route) : Linked I st none none where
  distinct := linked.distinct
  nodup := linked.nodup
  fresh := linked.fresh
  keys := linked.keys
  known := fun r mem q points => ⟨(linked.known r mem q points).1, nofun⟩
  imported := fun r mem _ => by
    by_cases here : some r.id = x
    · exact imported r mem here
    · exact linked.imported r mem here
  settled := fun r mem _ => by
    by_cases here : some r.id = x
    · exact settled r mem here
    · exact linked.settled r mem here
  owned := fun route mem source _ => by
    by_cases here : some route.id = p
    · obtain ⟨r, rMem, mirrors⟩ := owned route mem here source
      exact ⟨r, rMem, nofun, mirrors⟩
    · obtain ⟨r, rMem, -, mirrors⟩ := linked.owned route mem source here
      exact ⟨r, rMem, nofun, mirrors⟩

/-! ## Calls of the table -/

lemma notifyDeleted {en : IPv4Route}
    (gone : ∀ route ∈ st.rt.routes, route.id ≠ en.id) : Linked I (st.notifyDeleted en) x p := by
  rw [RIPRouting.notifyDeleted]
  split_ifs
  · exact linked
  · exact linked.routeDeleted gone

lemma deleteRoute_of_rt {q : ℕ} {p' : Option ℕ}
    (absent : (∀ route ∈ st.rt.routes, route.id ≠ q) → Linked I st x p')
    (erased : Linked I { st with rt := st.rt.deleteRoute q } x p') : Linked I (st.deleteRoute q) x p' := by
  rw [RIPRouting.deleteRoute]
  cases found : st.rt.routes.find? fun en => en.id = q with
  | none => exact absent fun route mem => by simpa using find?_eq_none.mp found route mem
  | some en =>
    have eq : en.id = q := by simpa using find?_some found
    refine erased.notifyDeleted fun route mem => ?_
    rw [eq]
    exact ((mem_removeRoute linked.distinct).mp mem).2

lemma deleteOwn {q : ℕ} (out : some q = p) : Linked I (st.deleteRoute q) x none := by
  refine linked.deleteRoute_of_rt (fun gone => ?_) ?_
  · exact linked.drop fun route mem eq => gone route mem (Option.some.inj (eq.trans out.symm))
  · have erased : Linked I { st with rt := st.rt.deleteRoute q } x p := by
      refine linked.of_rt linked.distinct.removeRoute (le_of_eq removeRoute_nextId.symm) ?_ ?_
      · exact fun route mem _ _ => ((mem_removeRoute linked.distinct).mp mem).1
      · intro route mem _ other
        refine (mem_removeRoute linked.distinct).mpr ⟨mem, fun eq => other ?_⟩
        rw [eq, out]
    refine erased.drop fun route mem eq => ?_
    exact ((mem_removeRoute linked.distinct).mp mem).2 (Option.some.inj (eq.trans out.symm))

lemma deleteOther {q : ℕ}
    (other : ∀ route ∈ st.rt.routes, route.id = q → route.sourceType ≠ .RIP) :
    Linked I (st.deleteRoute q) x p := by
  refine linked.deleteRoute_of_rt (fun _ => linked) ?_
  refine linked.of_rt linked.distinct.removeRoute (le_of_eq removeRoute_nextId.symm) ?_ ?_
  · exact fun route mem _ _ => ((mem_removeRoute linked.distinct).mp mem).1
  · intro route mem source _
    exact (mem_removeRoute linked.distinct).mpr ⟨mem, fun eq => other route mem eq source⟩

/-- A default route of this module is mirrored by the learned route for the empty prefix. -/
lemma key_of_default (mem : route ∈ st.rt.routes) (source : route.sourceType = .RIP)
    (other : some route.id ≠ p) (default : route.netmask = 0) :
    ∃ r ∈ st.ripRoutes, some r.id ≠ x ∧ r.key = (0, 0) := by
  obtain ⟨r, rMem, outside, mirrors⟩ := linked.owned route mem source other
  refine ⟨r, rMem, outside, ?_⟩
  have proper := mirrors.proper
  have netmask := mirrors.netmask
  rw [default] at proper netmask
  have dest := eq_zero_of_proper proper
  have zero : makeNetmask 0 = .ok 0 := rfl
  rw [RIPRoute.key, ← mirrors.dest, dest, makeNetmask_inj netmask zero]

lemma notifyReplaced {old : Option IPv4Route}
    (gone : ∀ en, old = some en → ∀ route ∈ st.rt.routes, route.id ≠ en.id) :
    Linked I (st.notifyReplaced old) x p := by
  cases old with
  | none => exact linked
  | some en => exact linked.notifyDeleted (gone en rfl)

end Linked

lemma notifyDeleted_rt (st : RIPRouting) (en : IPv4Route) : (st.notifyDeleted en).rt = st.rt := by
  rw [RIPRouting.notifyDeleted]
  split_ifs <;> rfl

lemma notifyReplaced_rt (st : RIPRouting) (old : Option IPv4Route) :
    (st.notifyReplaced old).rt = st.rt := by
  cases old with
  | none => rfl
  | some en => exact notifyDeleted_rt st en

lemma notifyReplaced_keys (st : RIPRouting) (old : Option IPv4Route) :
    (st.notifyReplaced old).ripRoutes.map RIPRoute.key = st.ripRoutes.map RIPRoute.key := by
  cases old with
  | none => rfl
  | some en =>
    rw [RIPRouting.notifyReplaced, RIPRouting.notifyDeleted]
    split_ifs
    · rfl
    · rw [RIPRouting.routeDeleted, map_map]
      refine map_congr_left fun r _ => ?_
      rw [Function.comp_apply]
      split_ifs <;> rfl

lemma mem_notifyReplaced {old : Option IPv4Route} (mem : r ∈ st.ripRoutes)
    (other : ∀ en, old = some en → r.route ≠ some en.id) :
    r ∈ (st.notifyReplaced old).ripRoutes := by
  cases old with
  | none => exact mem
  | some en =>
    rw [RIPRouting.notifyReplaced, RIPRouting.notifyDeleted]
    split_ifs
    · exact mem
    · exact mem_map.mpr ⟨r, mem, if_neg (other en rfl)⟩

lemma mem_notifyReplaced_back {old : Option IPv4Route} (mem : r ∈ (st.notifyReplaced old).ripRoutes) :
    ∃ r' ∈ st.ripRoutes, r.id = r'.id ∧ r.key = r'.key ∧ (r.route ≠ none → r.route = r'.route) := by
  have kept (mem : r ∈ st.ripRoutes) : ∃ r' ∈ st.ripRoutes, r.id = r'.id ∧ r.key = r'.key ∧
      (r.route ≠ none → r.route = r'.route) := ⟨r, mem, rfl, rfl, fun _ => rfl⟩
  cases old with
  | none => exact kept mem
  | some en =>
    rw [RIPRouting.notifyReplaced, RIPRouting.notifyDeleted] at mem
    split_ifs at mem
    · exact kept mem
    · obtain ⟨r', mem', rfl⟩ := mem_map.mp mem
      split_ifs
      · exact ⟨r', mem', rfl, rfl, fun points => absurd rfl points⟩
      · exact ⟨r', mem', rfl, rfl, fun _ => rfl⟩

/-- The errors thrown. -/
def Throws (e : SimError) : Prop := (∃ text, e = .runtimeError text) ∨ e = .nullPointer

namespace Linked

/-- What the state and the id of the new route are. -/
def Added (I : Set (RouteType × (IPv4Address × ℤ) × ℕ)) (st : RIPRouting) (x : Option ℕ)
    (entry : IPv4Route) (result : RIPRouting × ℕ) : Prop :=
  Linked I result.1 x (some result.2) ∧
    result.1.ripRoutes.map RIPRoute.key = st.ripRoutes.map RIPRoute.key ∧
    result.2 < result.1.rt.nextId ∧
    entry.dest &&& ~~~entry.netmask = 0 ∧ { entry with id := result.2 } ∈ result.1.rt.routes ∧
    ∀ r ∈ st.ripRoutes, r.route = none → r ∈ result.1.ripRoutes

/-- The new route is out of step until a `RIPRoute` points to it. -/
lemma rtAddRoute_of_notOwn (linked : Linked I st x none) {en : IPv4Route}
    (notOwn : en.dest &&& ~~~en.netmask = 0 → ∀ old,
      st.rt.replacedDefault en.netmask = some old → old.sourceType ≠ .RIP) :
    EndsIn Throws (Added I st x en) (st.rtAddRoute en) := by
  rw [RIPRouting.rtAddRoute]
  cases added : st.rt.addRoute en with
  | error e => exact .inl (addRoute_error added)
  | ok rt' =>
    obtain ⟨proper, next, distinct, mem⟩ := addRoute_mem linked.distinct added
    have raised : Linked I { st with rt := rt' } x (some st.rt.nextId) := by
      refine (linked.raise le_rfl).of_rt distinct (next ▸ Nat.le_succ _) ?_ ?_
      · intro route routeMem _ other
        rcases (mem route).mp routeMem with rfl | old
        · exact absurd rfl other
        · exact old.1
      · intro route routeMem own _
        refine (mem route).mpr (.inr ⟨routeMem, fun old replaced eq => ?_⟩)
        refine notOwn proper old replaced ?_
        rwa [← linked.route_eq routeMem (replacedDefault_mem replaced).1 eq]
    have gone : ∀ old, st.rt.replacedDefault en.netmask = some old →
        ∀ route ∈ rt'.routes, route.id ≠ old.id := by
      intro old replaced route routeMem
      rcases (mem route).mp routeMem with rfl | ⟨-, clear⟩
      · exact (linked.distinct.fresh old (replacedDefault_mem replaced).1).ne'
      · exact clear old replaced
    refine ⟨raised.notifyReplaced gone, notifyReplaced_keys .., ?_, proper, ?_, ?_⟩
    · rw [notifyReplaced_rt]
      change st.rt.nextId < rt'.nextId
      omega
    · rw [notifyReplaced_rt]
      exact (mem _).mpr (.inl rfl)
    · intro r rMem none
      have mem' : r ∈ ({ st with rt := rt' } : RIPRouting).ripRoutes := rMem
      refine mem_notifyReplaced mem' fun old _ points => ?_
      exact nomatch none.symm.trans points

/-- A default route of this module is not replaced when no `RIPRoute` in step has the empty prefix. -/
lemma rtAddRoute (linked : Linked I st x none) {en : IPv4Route}
    (free : en.dest = 0 → en.netmask = 0 → ∀ r ∈ st.ripRoutes, r.key = (0, 0) → some r.id = x) :
    EndsIn Throws (Added I st x en) (st.rtAddRoute en) := by
  refine linked.rtAddRoute_of_notOwn fun proper old replaced own => ?_
  obtain ⟨oldMem, empty, oldEmpty⟩ := replacedDefault_mem replaced
  obtain ⟨r, rMem, outside, key⟩ := linked.key_of_default oldMem own nofun oldEmpty
  rw [empty] at proper
  exact outside (free (eq_zero_of_proper proper) empty r rMem key)

lemma setField (linked : Linked I st x p) {q : ℕ} (out : some q = p) {change : IPv4Route.Change}
    (free : ∀ old, st.rt.readdedDefault q change = some old → old.sourceType ≠ .RIP) :
    EndsIn Throws (fun st' => Linked I st' x p ∧
        (∀ route ∈ st.rt.routes, route.id = q → change.apply route ∈ st'.rt.routes) ∧
        ∀ r ∈ st.ripRoutes, r.route = some q → r ∈ st'.ripRoutes)
      (st.setField q change) := by
  rw [RIPRouting.setField]
  cases set : st.rt.setField q change with
  | error e => exact .inl (setField_error linked.distinct set)
  | ok rt' =>
    have spec := setField_mem linked.distinct set
    have linked' : Linked I { st with rt := rt' } x p := by
      refine linked.of_rt spec.distinct (le_of_eq spec.nextId.symm) ?_ ?_
      · intro route mem _ other
        rcases spec.back route mem with ⟨-, old⟩ | ⟨old, -, eq, rfl⟩
        · exact old
        · rw [Change.apply_id, eq] at other
          exact absurd out other
      · intro route mem own other
        refine spec.kept route mem (fun eq => other (eq ▸ out)) fun old readded eq => ?_
        refine free old readded ?_
        rwa [← linked.route_eq mem (spec.gone old readded).1 eq]
    refine ⟨linked'.notifyReplaced fun old readded => (spec.gone old readded).2.2,
      ?_, fun r mem points => ?_⟩
    · rw [notifyReplaced_rt]
      exact spec.changed
    have mem' : r ∈ ({ st with rt := rt' } : RIPRouting).ripRoutes := mem
    refine mem_notifyReplaced mem' fun old readded points' => ?_
    exact (spec.gone old readded).2.1 (Option.some.inj (points'.symm.trans points))

end Linked

end Inet.Rip
