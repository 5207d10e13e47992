import Inet.Ipv6.RoutingTable6
import Inet.Lib.Outcome

/-!
# Longest prefix matching in the IPv6 routing table

`doLongestPrefixMatch` returns the first unexpired match of the list, unless an expired match that
was not learned from a router advertisement comes before it, on which the loop stays forever. In a
list in order the first unexpired match is the best one.

The setters of metric and administrative distance leave a route where it is; `KeepsOrder` is the
condition under which an event keeps the list in order.
-/

namespace Inet.Ipv6

open List

namespace RoutingTable6

section

variable {now : ℕ} {dest other : IPv6Address} {routes kept : List IPv6Route}
  {route : IPv6Route} {answer : Option IPv6Route}

/-- The first unexpired match. -/
def firstMatch (now : ℕ) (dest : IPv6Address) (routes : List IPv6Route) : Option IPv6Route :=
  routes.find? fun route => route.matchesAddr dest && !route.isExpired now

/-- The loop gets to an expired match that it does not erase. -/
def Stuck (now : ℕ) (dest : IPv6Address) (routes : List IPv6Route) : Prop :=
  ∃ pre route post, routes = pre ++ route :: post ∧ route.matchesAddr dest = true ∧
    route.isExpired now = true ∧ route.src ≠ .FROM_RA ∧
    ∀ other ∈ pre, other.matchesAddr dest = true → other.isExpired now = true

lemma stuck_cons : Stuck now dest (route :: routes) ↔
    (route.matchesAddr dest = true ∧ route.isExpired now = true ∧ route.src ≠ .FROM_RA) ∨
      ((route.matchesAddr dest = true → route.isExpired now = true) ∧ Stuck now dest routes) := by
  constructor
  · rintro ⟨pre, last, post, split, matching, expired, source, before⟩
    cases pre with
    | nil =>
      cases split
      exact .inl ⟨matching, expired, source⟩
    | cons first pre =>
      cases split
      refine .inr ⟨before route mem_cons_self, pre, last, post, rfl, matching, expired, source, ?_⟩
      intro other mem
      exact before other (mem_cons_of_mem _ mem)
  · rintro (⟨matching, expired, source⟩ | ⟨skipped, pre, last, post, rfl, matching, expired,
      source, before⟩)
    · exact ⟨[], route, routes, rfl, matching, expired, source, nofun⟩
    · refine ⟨route :: pre, last, post, rfl, matching, expired, source, ?_⟩
      intro other mem
      rcases mem_cons.mp mem with rfl | mem
      · exact skipped
      · exact before other mem

lemma firstMatch_cons (skipped : (route.matchesAddr dest && !route.isExpired now) = false) :
    firstMatch now dest (route :: routes) = firstMatch now dest routes :=
  find?_cons_of_neg (by rw [skipped]; exact Bool.false_ne_true)

lemma matchLoop_eq (now : ℕ) (dest : IPv6Address) (routes : List IPv6Route) :
    (¬ Stuck now dest routes ∧
      ∃ kept, matchLoop now dest routes = .ok (kept, firstMatch now dest routes) ∧
        kept.Sublist routes) ∨
    (Stuck now dest routes ∧ matchLoop now dest routes = .error .nonTermination) := by
  induction routes with
  | nil =>
    refine .inl ⟨?_, [], rfl, List.Sublist.refl _⟩
    rintro ⟨pre, route, post, split, -⟩
    cases pre <;> cases split
  | cons route routes ih =>
    rw [stuck_cons, matchLoop]
    cases matching : route.matchesAddr dest with
    | false =>
      rw [firstMatch_cons (by rw [matching]; rfl), if_neg Bool.false_ne_true]
      rcases ih with ⟨free, kept, eq, sub⟩ | ⟨stuck, eq⟩
      · refine .inl ⟨by simp [free], route :: kept, ?_, sub.cons_cons route⟩
        rw [eq]
        rfl
      · refine .inr ⟨by simp [stuck], ?_⟩
        rw [eq]
        rfl
    | true =>
      rw [if_pos rfl]
      cases expired : route.isExpired now with
      | false =>
        refine .inl ⟨by simp, route :: routes, ?_, List.Sublist.refl _⟩
        rw [if_neg Bool.false_ne_true, firstMatch,
          find?_cons_of_pos (by rw [matching, expired]; rfl)]
      | true =>
        rw [if_pos rfl, firstMatch_cons (by rw [matching, expired]; rfl)]
        by_cases source : route.src = .FROM_RA
        · -- the route is erased, and the loop goes on
          rw [if_pos source]
          rcases ih with ⟨free, kept, eq, sub⟩ | ⟨stuck, eq⟩
          · exact .inl ⟨by simp [source, free], kept, eq, sub.cons route⟩
          · exact .inr ⟨by simp [stuck], eq⟩
        · rw [if_neg source]
          exact .inr ⟨by simp [source], rfl⟩

lemma matchLoop_sublist (ok : matchLoop now dest routes = .ok (kept, answer)) :
    kept.Sublist routes := by
  rcases matchLoop_eq now dest routes with ⟨-, kept', eq, sub⟩ | ⟨-, eq⟩
  · rw [eq] at ok
    cases ok
    exact sub
  · rw [eq] at ok
    cases ok

end

/-! ## Lists in order -/

section

variable {a b a' b' route : IPv6Route} {rt rt' : RoutingTable6} {dest : IPv6Address} {id : ℕ}
  {c : IPv6Route.Change} {sorting : Sorting routeLessThan}

/-- `b` is no better than `a` for an address that both match. -/
def InOrder (a b : IPv6Route) : Prop :=
  ∀ dest, a.matchesAddr dest = true → b.matchesAddr dest = true → ¬ routeLessThan b a

/-- The fields that order and matching depend on. -/
structure SamePlace (a' a : IPv6Route) : Prop where
  destPrefix : a'.destPrefix = a.destPrefix
  prefixLength : a'.prefixLength = a.prefixLength
  adminDist : a'.adminDist = a.adminDist
  metric : a'.metric = a.metric

lemma InOrder.congr (ordered : InOrder a b) (same : SamePlace a' a) (same' : SamePlace b' b) :
    InOrder a' b' := by
  intro dest matching matching'
  rw [IPv6Route.matchesAddr, same.destPrefix, same.prefixLength] at matching
  rw [IPv6Route.matchesAddr, same'.destPrefix, same'.prefixLength] at matching'
  have least := ordered dest matching matching'
  rw [routeLessThan] at least ⊢
  rw [same.prefixLength, same.adminDist, same.metric, same'.prefixLength, same'.adminDist,
    same'.metric]
  exact least

/-- The routes are told apart by their pointers, and they are in order. -/
structure Arranged (rt : RoutingTable6) : Prop where
  nodup : (rt.routeList.map IPv6Route.id).Nodup
  fresh : ∀ route ∈ rt.routeList, route.id < rt.nextId
  inOrder : rt.routeList.Pairwise InOrder

variable (arranged : Arranged rt)
include arranged

lemma Arranged.of_sublist (sub : rt'.routeList.Sublist rt.routeList)
    (next : rt'.nextId = rt.nextId) : Arranged rt' where
  nodup := arranged.nodup.sublist (sub.map _)
  fresh route mem := next ▸ arranged.fresh route (sub.subset mem)
  inOrder := arranged.inOrder.sublist sub

lemma Arranged.of_routes (same : rt'.routeList = rt.routeList)
    (next : rt'.nextId = rt.nextId) : Arranged rt' :=
  arranged.of_sublist (same ▸ List.Sublist.refl _) next

lemma Arranged.addRoute (route : IPv6Route) : Arranged (rt.addRoute sorting route) := by
  have perm := sorting.perm (rt.routeList ++ [{ route with id := rt.nextId }])
  constructor
  · refine (perm.map IPv6Route.id).nodup_iff.mpr ?_
    rw [map_append, nodup_append]
    refine ⟨arranged.nodup, nodup_singleton _, ?_⟩
    intro i mem j new same
    obtain ⟨old, oldMem, rfl⟩ := mem_map.mp mem
    rw [map_singleton, mem_singleton] at new
    exact absurd (same.trans new) (arranged.fresh old oldMem).ne
  · intro r mem
    rcases mem_append.mp (perm.mem_iff.mp mem) with old | new
    · exact (arranged.fresh r old).trans (Nat.lt_succ_self _)
    · rw [mem_singleton.mp new]
      exact Nat.lt_succ_self _
  · exact (sorting.sorted _).imp fun least _ _ _ => least

omit arranged in
lemma Change.apply_id (c : IPv6Route.Change) (route : IPv6Route) :
    (c.apply route).id = route.id := by
  cases c <;> rfl

omit arranged in
lemma replaceRoute_ids (c : IPv6Route.Change) :
    (rt.replaceRoute id c).routeList.map IPv6Route.id = rt.routeList.map IPv6Route.id := by
  rw [replaceRoute, map_map]
  refine map_congr_left ?_
  intro route mem
  simp only [Function.comp_apply]
  split
  · exact Change.apply_id c route
  · rfl

lemma Arranged.replaceRoute (inOrder : (rt.replaceRoute id c).routeList.Pairwise InOrder) :
    Arranged (rt.replaceRoute id c) where
  nodup := by
    rw [replaceRoute_ids]
    exact arranged.nodup
  fresh := by
    intro route mem
    have here : route.id ∈ (rt.replaceRoute id c).routeList.map IPv6Route.id := mem_map_of_mem mem
    rw [replaceRoute_ids] at here
    obtain ⟨old, oldMem, same⟩ := mem_map.mp here
    rw [← same]
    exact arranged.fresh old oldMem
  inOrder := inOrder

/-- The changed route is in order where it stands. -/
def KeepsPlace (rt : RoutingTable6) (id : ℕ) (change : IPv6Route.Change) : Prop :=
  ∀ pre route post, rt.routeList = pre ++ route :: post → route.id = id →
    (∀ other ∈ pre, InOrder other (change.apply route)) ∧
      ∀ other ∈ post, InOrder (change.apply route) other

omit arranged in
lemma routeChanged_routeList (fieldCode : ChangeCode) :
    (rt.routeChanged fieldCode).routeList = rt.routeList ∧
      (rt.routeChanged fieldCode).nextId = rt.nextId := by
  rw [routeChanged]
  split <;> exact ⟨rfl, rfl⟩

lemma Arranged.setRouteField (inOrder : (rt.replaceRoute route.id c).routeList.Pairwise InOrder) :
    Arranged (rt.setRouteField route c) := by
  rw [RoutingTable6.setRouteField]
  split
  · exact arranged
  · exact (arranged.replaceRoute inOrder).of_routes (routeChanged_routeList _).1
      (routeChanged_routeList _).2

lemma Arranged.setField_keepsPlace (keeps : KeepsPlace rt id c) :
    Arranged (rt.setField id c) := by
  rw [setField]
  split
  · exact arranged
  · rename_i route found
    have mem := mem_of_find?_eq_some found
    have same : route.id = id := by simpa using find?_some found
    apply arranged.setRouteField
    obtain ⟨pre, post, split⟩ := append_of_mem mem
    obtain ⟨before, after⟩ := keeps pre route post split same
    have nodup := arranged.nodup
    have inOrder := arranged.inOrder
    rw [split] at nodup inOrder
    rw [RoutingTable6.replaceRoute]
    rw [split, map_replace nodup, pairwise_append, pairwise_cons]
    rw [pairwise_append, pairwise_cons] at inOrder
    refine ⟨inOrder.1, ⟨after, inOrder.2.1.2⟩, ?_⟩
    intro other otherMem next nextMem
    rcases mem_cons.mp nextMem with rfl | nextMem
    · exact before other otherMem
    · exact inOrder.2.2 other otherMem next (mem_cons_of_mem _ nextMem)

lemma Arranged.setRouteField_samePlace
    (same : ∀ route, SamePlace (c.apply route) route) : Arranged (rt.setRouteField route c) := by
  apply arranged.setRouteField
  have replaced : ∀ r : IPv6Route, SamePlace (if r.id = route.id then c.apply r else r) r := by
    intro r
    split
    · exact same r
    · exact ⟨rfl, rfl, rfl, rfl⟩
  refine pairwise_map.mpr (arranged.inOrder.imp ?_)
  intro a b inOrder
  exact inOrder.congr (replaced a) (replaced b)

lemma Arranged.setField_samePlace
    (same : ∀ route, SamePlace (c.apply route) route) : Arranged (rt.setField id c) := by
  rw [setField]
  split
  · exact arranged
  · exact arranged.setRouteField_samePlace same

lemma Arranged.addOrUpdatePrefix (src : RouteSrc) (destPrefix : IPv6Address)
    (prefixLength : Fin 129) (interfaceId expiryTime : ℤ) :
    Arranged (rt.addOrUpdatePrefix sorting src destPrefix prefixLength interfaceId expiryTime) := by
  rw [RoutingTable6.addOrUpdatePrefix]
  split
  · exact arranged.addRoute _
  · have interface : ∀ route, SamePlace
        (IPv6Route.Change.apply route (.interfaceId interfaceId)) route :=
      fun _ => ⟨rfl, rfl, rfl, rfl⟩
    have expiry : ∀ route, SamePlace
        (IPv6Route.Change.apply route (.expiryTime expiryTime)) route :=
      fun _ => ⟨rfl, rfl, rfl, rfl⟩
    exact (arranged.setRouteField_samePlace interface).setRouteField_samePlace expiry

lemma Arranged.doLongestPrefixMatch {result : RoutingTable6 × Option IPv6Route}
    (ok : rt.doLongestPrefixMatch dest = .ok result) : Arranged result.1 := by
  rw [RoutingTable6.doLongestPrefixMatch] at ok
  cases loop : matchLoop rt.now dest rt.routeList with
  | error e =>
    rw [loop] at ok
    cases ok
  | ok kept =>
    rw [loop] at ok
    cases ok
    exact arranged.of_sublist (matchLoop_sublist loop) rfl

omit arranged

lemma lookupDestCache_table (rt : RoutingTable6) (dest : IPv6Address) :
    ∃ cache, (rt.lookupDestCache dest).1 = { rt with destCache := cache } := by
  rw [lookupDestCache]
  split
  · exact ⟨_, rfl⟩
  · split <;> exact ⟨_, rfl⟩

/-- A call of `determineOutputInterface` is answered from the cache, or a match was made. -/
lemma determineOutputInterface_ok {result : RoutingTable6 × Option (ℤ × IPv6Address)}
    (ok : rt.determineOutputInterface dest = .ok result) :
    result.1 = (rt.lookupDestCache dest).1 ∨
      ∃ matched, (rt.lookupDestCache dest).1.doLongestPrefixMatch dest = .ok matched ∧
        ((matched.2 = none ∧ result.1 = matched.1) ∨ ∃ route, matched.2 = some route ∧ result.1 =
            matched.1.updateDestCache dest (nextHopFor route dest) route.interfaceId
              route.expiryTime) := by
  rw [determineOutputInterface] at ok
  dsimp only at ok
  split at ok
  · cases matched : (rt.lookupDestCache dest).1.doLongestPrefixMatch dest with
    | error e =>
      rw [matched] at ok
      cases ok
    | ok answer =>
      rw [matched] at ok
      refine .inr ⟨answer, rfl, ?_⟩
      cases found : answer.2 with
      | none =>
        simp only [Except.map, found, Except.ok.injEq] at ok
        exact .inl ⟨rfl, by rw [← ok]⟩
      | some route =>
        simp only [Except.map, found, Except.ok.injEq] at ok
        exact .inr ⟨route, rfl, by rw [← ok]⟩
  · cases ok
    exact .inl rfl

/-! ## Runs -/

/-- The order survives the event: a new metric or administrative distance leaves its route in
order where it stands. -/
def KeepsOrder (rt : RoutingTable6) : Event → Prop
  | .setField id (.metric metric) => KeepsPlace rt id (.metric metric)
  | .setField id (.adminDist adminDist) => KeepsPlace rt id (.adminDist adminDist)
  | _ => True

lemma Arranged.step {event : Event} (arranged : Arranged rt) (keeps : KeepsOrder rt event)
    (ok : rt.step sorting event = .ok rt') : Arranged rt' := by
  cases event with
  | addOrUpdateOnLinkPrefix destPrefix prefixLength interfaceId expiryTime
  | addOrUpdateOwnAdvPrefix destPrefix prefixLength interfaceId expiryTime =>
    cases ok
    exact arranged.addOrUpdatePrefix _ _ _ _ _
  | addStaticRoute destPrefix prefixLength interfaceId nextHop metric
  | addDefaultRoute nextHop ifID routerLifetime =>
    cases ok
    exact arranged.addRoute _
  | addRoutingProtocolRoute route =>
    rw [RoutingTable6.step, addRoutingProtocolRoute] at ok
    split at ok
    · cases ok
      exact arranged.addRoute _
    · cases ok
  | removeOnLinkPrefix destPrefix prefixLength =>
    cases ok
    exact arranged.of_sublist eraseP_sublist rfl
  | removeRoute id =>
    rw [RoutingTable6.step, removeRoute] at ok
    split at ok
    · cases ok
      exact arranged.of_sublist eraseP_sublist rfl
    · cases ok
  | removeDefaultRoutes interfaceID | removePrefixes interfaceID =>
    cases ok
    exact arranged.of_sublist filter_sublist rfl
  | removeAllRoutes =>
    cases ok
    exact arranged.of_sublist (nil_sublist _) rfl
  | setField id c =>
    cases ok
    cases c with
    | metric value | adminDist value => exact arranged.setField_keepsPlace keeps
    | nextHop value | interfaceId value | expiryTime value =>
      exact arranged.setField_samePlace fun _ => ⟨rfl, rfl, rfl, rfl⟩
  | purgeDestCacheEntriesToNeighbour nextHopAddr interfaceId =>
    cases ok
    exact arranged.of_routes rfl rfl
  | notification category =>
    cases ok
    cases category with
    | NF_INTERFACE_STATE_CHANGED interfaceId isUp =>
      cases isUp <;> exact arranged.of_routes rfl rfl
    | _ => exact arranged.of_routes rfl rfl
  | doLongestPrefixMatch dest =>
    obtain ⟨result, matched, rfl⟩ := Except.map_eq_ok ok
    exact arranged.doLongestPrefixMatch matched
  | determineOutputInterface dest =>
    obtain ⟨result, determined, rfl⟩ := Except.map_eq_ok ok
    obtain ⟨cache, table⟩ := lookupDestCache_table rt dest
    have looked : Arranged (rt.lookupDestCache dest).1 := by
      rw [table]
      exact arranged.of_routes rfl rfl
    rcases determineOutputInterface_ok determined with
      same | ⟨matched, isMatch, ⟨-, same⟩ | ⟨route, -, same⟩⟩
    · rw [same]
      exact looked
    · rw [same]
      exact looked.doLongestPrefixMatch isMatch
    · rw [same]
      exact (looked.doLongestPrefixMatch isMatch).of_routes rfl rfl
  | elapse duration =>
    cases ok
    exact arranged.of_routes rfl rfl

lemma Arranged.of_reached (reached : Reached sorting KeepsOrder rt) : Arranged rt := by
  induction reached with
  | initial now => exact ⟨nodup_nil, nofun, List.Pairwise.nil⟩
  | step _ keeps ok ih => exact ih.step keeps ok

/-- The best route: it matches and is not expired, with the longest prefix, and then the least
administrative distance and metric. -/
structure BestMatch (rt : RoutingTable6) (dest : IPv6Address) (route : IPv6Route) : Prop where
  mem : route ∈ rt.routeList
  matching : route.matchesAddr dest = true
  unexpired : route.isExpired rt.now = false
  longest : ∀ other ∈ rt.routeList, other.matchesAddr dest = true →
    other.isExpired rt.now = false → other.prefixLength ≤ route.prefixLength
  least : ∀ other ∈ rt.routeList, other.matchesAddr dest = true → other.isExpired rt.now = false →
    other.prefixLength = route.prefixLength →
    route.adminDist < other.adminDist ∨
      (route.adminDist = other.adminDist ∧ route.metric ≤ other.metric)

lemma Arranged.bestMatch (arranged : Arranged rt)
    (first : firstMatch rt.now dest rt.routeList = some route) : BestMatch rt dest route := by
  have passes := find?_some first
  rw [Bool.and_eq_true, Bool.not_eq_true'] at passes
  have least : ∀ other ∈ rt.routeList, other.matchesAddr dest = true →
      other.isExpired rt.now = false → ¬ routeLessThan other route := by
    intro other mem matching unexpired
    rcases eq_or_rel_of_find? arranged.inOrder first mem (by rw [matching, unexpired]; rfl) with
      rfl | inOrder
    · simp [routeLessThan]
    · exact inOrder dest passes.1 matching
  refine ⟨mem_of_find?_eq_some first, passes.1, passes.2, ?_, ?_⟩
  · intro other mem matching unexpired
    have notLess := least other mem matching unexpired
    rw [routeLessThan] at notLess
    split at notLess
    · exact not_lt.mp notLess
    · rename_i same
      exact (not_not.mp same).le
  · intro other mem matching unexpired same
    have notLess := least other mem matching unexpired
    rw [routeLessThan, if_neg (not_not.mpr same)] at notLess
    split at notLess
    · omega
    · omega

/-- In every state of a run whose events meet `KeepsOrder`, matching gives the best route and
terminates for exactly those addresses for which no expired match that was not learned from a router
advertisement comes before the first unexpired match. -/
theorem match_of_reached (reached : Reached sorting KeepsOrder rt) (dest : IPv6Address) :
    (∃ after answer, rt.doLongestPrefixMatch dest = .ok (after, answer) ∧
      match answer with
      | some route => BestMatch rt dest route
      | none => ∀ route ∈ rt.routeList, route.matchesAddr dest = true →
          route.isExpired rt.now = true) ↔
    ¬ Stuck rt.now dest rt.routeList := by
  rw [doLongestPrefixMatch]
  rcases matchLoop_eq rt.now dest rt.routeList with ⟨free, kept, eq, -⟩ | ⟨stuck, eq⟩
  · refine iff_of_true ?_ free
    rw [eq]
    refine ⟨_, _, rfl, ?_⟩
    cases first : firstMatch rt.now dest rt.routeList with
    | some route => exact (Arranged.of_reached reached).bestMatch first
    | none =>
      intro route mem matching
      have fails := find?_eq_none.mp first route mem
      rw [matching, Bool.true_and, Bool.not_eq_true, Bool.not_eq_false'] at fails
      exact fails
  · refine iff_of_false ?_ (not_not.mpr stuck)
    rw [eq]
    rintro ⟨after, answer, ok, -⟩
    cases ok

end

/-- The address 2001:db8::1. -/
def advertised : IPv6Address := 0x20010DB8000000000000000000000001

/-- After `addOrUpdateOwnAdvPrefix` for 2001:db8::/64 with expiry time 5. -/
def ownPrefixTable (now : ℕ) : RoutingTable6 where
  routeList := [{ prefixRoute .OWN_ADV_PREFIX 0x20010DB8000000000000000000000000 64 1 5 with id := 0 }]
  destCache := fun _ => none
  now := now
  nextId := 1

lemma ownPrefixTable_reached {condition : RoutingTable6 → Event → Prop} (now : ℕ)
    (adds : ∀ rt destPrefix prefixLength interfaceId expiryTime, condition rt
      (.addOrUpdateOwnAdvPrefix destPrefix prefixLength interfaceId expiryTime))
    (elapses : ∀ rt duration, condition rt (.elapse duration)) :
    Reached insertionSort condition (ownPrefixTable now) := by
  have added := @Reached.step insertionSort condition _ (ownPrefixTable 0)
    (.addOrUpdateOwnAdvPrefix 0x20010DB8000000000000000000000000 64 1 5) (.initial 0)
    (adds _ _ _ _ _) rfl
  refine @Reached.step _ _ _ _ (.elapse now) added (elapses _ _) ?_
  rw [step, ownPrefixTable, ownPrefixTable, Nat.zero_add]

/-- At time 5 the prefix is not expired yet. -/
theorem match_of_reached_ownPrefix :
    (∃ after answer, (ownPrefixTable 5).doLongestPrefixMatch advertised = .ok (after, answer) ∧
      match answer with
      | some route => BestMatch (ownPrefixTable 5) advertised route
      | none => ∀ route ∈ (ownPrefixTable 5).routeList, route.matchesAddr advertised = true →
          route.isExpired (ownPrefixTable 5).now = true) ↔
    ¬ Stuck (ownPrefixTable 5).now advertised (ownPrefixTable 5).routeList :=
  match_of_reached (ownPrefixTable_reached 5 (fun _ _ _ _ _ => trivial) fun _ _ => trivial) _

/-- At time 6 it is, and the loop never returns. -/
theorem doLongestPrefixMatch_hangs :
    ∃ rt, Reached insertionSort (fun _ _ => True) rt ∧
      rt.doLongestPrefixMatch advertised = .error .nonTermination :=
  ⟨ownPrefixTable 6, ownPrefixTable_reached 6 (fun _ _ _ _ _ => trivial) (fun _ _ => trivial),
    by rfl⟩

end RoutingTable6

end Inet.Ipv6
