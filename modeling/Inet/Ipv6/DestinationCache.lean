import Inet.Ipv6.PrefixMatch

/-!
# The IPv6 destination cache

A live entry names interface and next hop of the first match of the list, and does not outlive that
route (`Served`). `removeOnLinkPrefix`, `removeDefaultRoutes`, `removePrefixes`, `removeAllRoutes`
and `setExpiryTime` do not purge the cache: these must not touch a route that serves a live entry,
except for a later expiry (`KeepsServing`).
-/

namespace Inet.Ipv6.RoutingTable6

open Bool List

section

variable {now : ℕ} {dest : IPv6Address} {rs kept : List IPv6Route} {route old : IPv6Route}
  {answer : Option IPv6Route} {rt rt' : RoutingTable6} {en : DestCacheEntry} {id : ℕ}
  {c : IPv6Route.Change} {sorting : Sorting routeLessThan}

/-- The first route whose prefix matches. -/
def firstRoute (dest : IPv6Address) (routes : List IPv6Route) : Option IPv6Route :=
  routes.find? fun route => route.matchesAddr dest

/-- Expiry time `expiryTime` of a route is no earlier than that of the entry. -/
def Outlives (expiryTime : ℤ) (entry : DestCacheEntry) : Prop :=
  expiryTime = 0 ∨ (0 < entry.expiryTime ∧ entry.expiryTime ≤ expiryTime)

/-- The entry is what a match for the address gives, for as long as it is live. -/
structure ServedBy (rt : RoutingTable6) (dest : IPv6Address) (entry : DestCacheEntry)
    (route : IPv6Route) : Prop where
  first : firstRoute dest rt.routeList = some route
  interfaceId : route.interfaceId = entry.interfaceId
  nextHop : nextHopFor route dest = entry.nextHopAddr
  outlives : Outlives route.expiryTime entry

/-- Every live entry of the cache is served by some route. -/
def Served (rt : RoutingTable6) : Prop :=
  ∀ dest entry, rt.destCache dest = some entry → entry.isLive rt.now = true →
    ∃ route, ServedBy rt dest entry route

lemma Outlives.unexpired (outlives : Outlives route.expiryTime en)
    (live : en.isLive now = true) : route.isExpired now = false := by
  rw [DestCacheEntry.isLive, not_eq_true', and_eq_false_imp] at live
  rw [IPv6Route.isExpired, and_eq_false_iff, decide_eq_false_iff_not, decide_eq_false_iff_not]
  rcases outlives with never | ⟨pos, le⟩
  · exact .inr (not_not.mpr never)
  · have := live (by simpa using pos)
    simp only [decide_eq_false_iff_not, not_lt] at this
    exact .inl (by omega)

/-- A match for the address of a live entry gives the route that serves it, and changes nothing. -/
lemma ServedBy.doLongestPrefixMatch (served : ServedBy rt dest en route)
    (live : en.isLive rt.now = true) : rt.doLongestPrefixMatch dest = .ok (rt, some route) := by
  have unexpired := served.outlives.unexpired live
  have loop : ∀ rs : List IPv6Route, firstRoute dest rs = some route →
      matchLoop rt.now dest rs = .ok (rs, some route) := by
    intro rs first
    induction rs with
    | nil => cases first
    | cons head rs ih =>
      rw [firstRoute, find?_cons] at first
      rw [matchLoop]
      split at first
      · rename_i matching
        cases first
        rw [if_pos matching, if_neg (by rw [unexpired]; exact false_ne_true)]
      · rename_i matching
        rw [if_neg (by rw [matching]; exact false_ne_true), ih first]
        rfl
  rw [RoutingTable6.doLongestPrefixMatch, loop rt.routeList served.first]
  rfl

lemma firstRoute_filter {p : IPv6Route → Bool} (first : firstRoute dest rs = some route)
    (keeps : p route = true) : firstRoute dest (rs.filter p) = some route := by
  induction rs with
  | nil => cases first
  | cons head rs ih =>
    rw [firstRoute, find?_cons] at first
    split at first
    · rename_i matching
      cases first
      rw [filter_cons_of_pos keeps]
      exact find?_cons_of_pos matching
    · rename_i matching
      rw [filter_cons]
      split
      · rw [firstRoute, find?_cons_of_neg (by rw [matching]; exact false_ne_true)]
        exact ih first
      · exact ih first

lemma firstRoute_eraseP {p : IPv6Route → Bool} (first : firstRoute dest rs = some route)
    (other : rs.find? p ≠ some route) : firstRoute dest (rs.eraseP p) = some route := by
  induction rs with
  | nil => cases first
  | cons head rs ih =>
    rw [firstRoute, find?_cons] at first
    cases erased : p head with
    | true =>
      rw [find?_cons_of_pos erased] at other
      rw [eraseP_cons_of_pos erased]
      split at first
      · exact absurd first other
      · exact first
    | false =>
      rw [find?_cons_of_neg (by rw [erased]; exact false_ne_true)] at other
      rw [eraseP_cons_of_neg (by rw [erased]; exact false_ne_true)]
      rw [firstRoute, find?_cons]
      split at first
      · exact first
      · exact ih first other

lemma firstRoute_map {f : IPv6Route → IPv6Route} (first : firstRoute dest rs = some route)
    (same : ∀ r : IPv6Route, (f r).matchesAddr dest = r.matchesAddr dest) :
    firstRoute dest (rs.map f) = some (f route) := by
  rw [firstRoute, find?_map, show (fun r : IPv6Route => r.matchesAddr dest) ∘ f =
    fun r => r.matchesAddr dest from funext same]
  exact congrArg (Option.map f) first

lemma firstRoute_matchLoop {dest' : IPv6Address} (first : firstRoute dest rs = some route)
    (unexpired : route.isExpired now = false)
    (ok : matchLoop now dest' rs = .ok (kept, answer)) : firstRoute dest kept = some route := by
  induction rs generalizing kept with
  | nil => cases first
  | cons head rs ih =>
    rw [matchLoop] at ok
    split at ok
    · split at ok
      · rename_i expired
        split at ok
        · refine ih ?_ ok
          rw [firstRoute, find?_cons] at first
          split at first
          · cases first
            rw [expired] at unexpired
            cases unexpired
          · exact first
        · cases ok
      · cases ok
        exact first
    · cases loop : matchLoop now dest' rs with
      | error e =>
        rw [loop] at ok
        cases ok
      | ok result =>
        rw [loop] at ok
        cases ok
        rw [firstRoute, find?_cons] at first ⊢
        split at first
        · exact first
        · exact ih first loop

/-! ## Every event keeps the cache right -/

lemma Served.of_empty (empty : ∀ dest, rt.destCache dest = none) : Served rt := by
  intro dest en here
  rw [empty dest] at here
  cases here

variable (served : Served rt)
include served

lemma Served.of_firstRoute (now : rt'.now = rt.now)
    (cache : ∀ dest en, rt'.destCache dest = some en → rt.destCache dest = some en)
    (first : ∀ dest en route, rt'.destCache dest = some en → en.isLive rt.now = true →
      ServedBy rt dest en route → firstRoute dest rt'.routeList = some route) : Served rt' := by
  intro dest en here live
  rw [now] at live
  obtain ⟨route, serves⟩ := served dest en (cache dest en here) live
  exact ⟨route, first dest en route here live serves, serves.interfaceId, serves.nextHop,
    serves.outlives⟩

lemma Served.of_cache (now : rt'.now = rt.now) (rs : rt'.routeList = rt.routeList)
    (cache : ∀ dest en, rt'.destCache dest = some en → rt.destCache dest = some en) :
    Served rt' := by
  apply served.of_firstRoute now cache
  intro dest en route _ _ serves
  rw [rs]
  exact serves.first

lemma Served.purgeEntries (p : DestCacheEntry → Bool) : Served (rt.purgeEntries p) := by
  refine @Served.of_cache rt _ served rfl rfl ?_
  intro dest en here
  exact (Option.filter_eq_some_iff.mp here).1

lemma Served.lookupDestCache : Served (rt.lookupDestCache dest).1 := by
  rw [RoutingTable6.lookupDestCache]
  split
  · exact served
  · split
    · exact served
    · refine @Served.of_cache rt _ served rfl rfl ?_
      intro dest' en here
      by_cases same : dest' = dest
      · subst same
        simp only [Function.update_self] at here
        cases here
      · simpa only [Function.update_of_ne same] using here

lemma Served.doLongestPrefixMatch {result : RoutingTable6 × Option IPv6Route}
    (ok : rt.doLongestPrefixMatch dest = .ok result) : Served result.1 := by
  rw [RoutingTable6.doLongestPrefixMatch] at ok
  cases loop : matchLoop rt.now dest rt.routeList with
  | error e =>
    rw [loop] at ok
    cases ok
  | ok kept =>
    rw [loop] at ok
    cases ok
    refine served.of_firstRoute rfl (fun _ _ here => here) ?_
    intro dest' en route _ live serves
    exact firstRoute_matchLoop serves.first (serves.outlives.unexpired live) loop

omit served in
lemma firstRoute_of_match {result : RoutingTable6 × Option IPv6Route}
    (ok : rt.doLongestPrefixMatch dest = .ok result) (found : result.2 = some route) :
    firstRoute dest result.1.routeList = some route ∧ route.isExpired rt.now = false ∧
      result.1.now = rt.now := by
  have loop : ∀ rs kept answer, matchLoop rt.now dest rs = .ok (kept, answer) →
      answer = some route → firstRoute dest kept = some route ∧ route.isExpired rt.now = false := by
    intro rs
    induction rs with
    | nil =>
      rintro kept answer eq rfl
      cases eq
    | cons head rs ih =>
      rintro kept answer eq rfl
      rw [matchLoop] at eq
      split at eq
      · rename_i matching
        split at eq
        · split at eq
          · exact ih kept _ eq rfl
          · cases eq
        · rename_i unexpired
          cases eq
          exact ⟨find?_cons_of_pos matching, by simpa using unexpired⟩
      · rename_i matching
        cases rest : matchLoop rt.now dest rs with
        | error e =>
          rw [rest] at eq
          cases eq
        | ok result =>
          rw [rest] at eq
          obtain ⟨kept', answer'⟩ := result
          cases eq
          obtain ⟨first, unexpired⟩ := ih kept' _ rest rfl
          refine ⟨?_, unexpired⟩
          rw [firstRoute, find?_cons]
          split
          · rename_i here
            exact absurd here matching
          · exact first
  rw [RoutingTable6.doLongestPrefixMatch] at ok
  cases eq : matchLoop rt.now dest rt.routeList with
  | error e =>
    rw [eq] at ok
    cases ok
  | ok kept =>
    rw [eq] at ok
    cases ok
    obtain ⟨first, unexpired⟩ := loop _ _ _ eq found
    exact ⟨first, unexpired, rfl⟩

/-- A new entry takes everything from the first match, the expiry time included. -/
lemma Served.updateDestCache (first : firstRoute dest rt.routeList = some route)
    (unexpired : route.isExpired rt.now = false) :
    Served (rt.updateDestCache dest (nextHopFor route dest) route.interfaceId route.expiryTime) := by
  intro dest' en here live
  by_cases same : dest' = dest
  · subst same
    simp only [RoutingTable6.updateDestCache, Function.update_self, Option.some.injEq] at here
    subst here
    refine ⟨route, first, rfl, rfl, ?_⟩
    rw [IPv6Route.isExpired, and_eq_false_iff, decide_eq_false_iff_not,
      decide_eq_false_iff_not] at unexpired
    rw [Outlives]
    dsimp only
    omega
  · simp only [RoutingTable6.updateDestCache, Function.update_of_ne same] at here
    obtain ⟨other, serves⟩ := served dest' en here live
    exact ⟨other, serves.first, serves.interfaceId, serves.nextHop, serves.outlives⟩

omit served in
lemma Change.apply_matchesAddr (c : IPv6Route.Change) (route : IPv6Route) :
    (c.apply route).matchesAddr dest = route.matchesAddr dest := by
  cases c <;> rfl

/-- A setter purges the cache, or it keeps interface and next hop; a new expiry time must suit the
entries that the route serves. -/
lemma Served.setRouteField (keeps : ∀ value, c = .expiryTime value → c.apply old ≠ old →
      ∀ dest en route, rt.destCache dest = some en → en.isLive rt.now = true →
        ServedBy rt dest en route → route.id = old.id → Outlives value en) :
    Served (rt.setRouteField old c) := by
  rw [RoutingTable6.setRouteField]
  split
  · exact served
  · rename_i new
    rw [routeChanged]
    split
    · exact .of_empty fun _ => rfl
    · rename_i field
      intro dest en here live
      obtain ⟨route, serves⟩ := served dest en here live
      have first := @firstRoute_map dest rt.routeList route
        (fun r => if r.id = old.id then c.apply r else r) serves.first (by
          intro r
          split
          · exact Change.apply_matchesAddr c r
          · rfl)
      refine ⟨_, first, ?_, ?_, ?_⟩
      · split
        · cases c with
          | interfaceId value | nextHop value =>
            exact absurd (by simp [IPv6Route.Change.fieldCode]) field
          | metric value | expiryTime value | adminDist value => exact serves.interfaceId
        · exact serves.interfaceId
      · split
        · cases c with
          | interfaceId value | nextHop value =>
            exact absurd (by simp [IPv6Route.Change.fieldCode]) field
          | metric value | expiryTime value | adminDist value => exact serves.nextHop
        · exact serves.nextHop
      · split
        · rename_i same
          cases c with
          | interfaceId value | nextHop value | metric value | adminDist value =>
            exact serves.outlives
          | expiryTime value => exact keeps value rfl new dest en route here live serves same
        · exact serves.outlives

/-- An update that leaves the interface as it is changes the expiry time only. -/
lemma Served.addOrUpdatePrefix (src : RouteSrc) (destPrefix : IPv6Address)
    (prefixLength : Fin 129) (interfaceId expiryTime : ℤ)
    (keeps : ∀ dest en route, rt.destCache dest = some en → en.isLive rt.now = true →
      ServedBy rt dest en route →
      ∀ old, rt.routeList.find? (isPrefixRoute src destPrefix prefixLength) = some old →
        old.interfaceId = interfaceId → route.id = old.id → Outlives expiryTime en) :
    Served (rt.addOrUpdatePrefix sorting src destPrefix prefixLength interfaceId expiryTime) := by
  rw [RoutingTable6.addOrUpdatePrefix]
  split
  · exact .of_empty fun _ => rfl
  · rename_i old found
    by_cases same : IPv6Route.Change.apply old (.interfaceId interfaceId) = old
    · have interface : old.interfaceId = interfaceId := (congrArg IPv6Route.interfaceId same).symm
      have unchanged : rt.setRouteField old (.interfaceId interfaceId) = rt := if_pos same
      rw [unchanged, same]
      apply served.setRouteField
      rintro value ⟨⟩ - dest en route here live serves routeId
      exact keeps dest en route here live serves old found interface routeId
    · -- the new interface purges the cache
      have empty : Served (rt.setRouteField old (.interfaceId interfaceId)) := by
        rw [RoutingTable6.setRouteField, if_neg same]
        exact .of_empty fun _ => rfl
      apply empty.setRouteField
      rintro value - - dest en route here
      rw [RoutingTable6.setRouteField, if_neg same] at here
      cases here

/-! ## Runs -/

/-- The event neither removes a route that serves a live entry without a purge, nor has it expire
earlier than the entry. -/
def KeepsServing (rt : RoutingTable6) (event : Event) : Prop :=
  ∀ dest entry route, rt.destCache dest = some entry → entry.isLive rt.now = true →
    ServedBy rt dest entry route →
    match event with
    | .removeOnLinkPrefix destPrefix prefixLength =>
        rt.routeList.find? (isPrefixRoute .FROM_RA destPrefix prefixLength) ≠ some route
    | .removeDefaultRoutes interfaceID => ¬ (route.interfaceId = interfaceID ∧ route.prefixLength = 0)
    | .removePrefixes interfaceID => ¬ (route.interfaceId = interfaceID ∧ 0 < route.prefixLength)
    | .removeAllRoutes => False
    | .setField id (.expiryTime expiryTime) => route.id = id → Outlives expiryTime entry
    | .addOrUpdateOnLinkPrefix destPrefix prefixLength interfaceId expiryTime =>
        ∀ old, rt.routeList.find? (isPrefixRoute .FROM_RA destPrefix prefixLength) = some old →
          old.interfaceId = interfaceId → route.id = old.id → Outlives expiryTime entry
    | .addOrUpdateOwnAdvPrefix destPrefix prefixLength interfaceId expiryTime =>
        ∀ old, rt.routeList.find? (isPrefixRoute .OWN_ADV_PREFIX destPrefix prefixLength) = some old →
          old.interfaceId = interfaceId → route.id = old.id → Outlives expiryTime entry
    | _ => True

lemma Served.step {event : Event} (keeps : KeepsServing rt event)
    (ok : rt.step sorting event = .ok rt') : Served rt' := by
  cases event with
  | addOrUpdateOnLinkPrefix destPrefix prefixLength interfaceId expiryTime
  | addOrUpdateOwnAdvPrefix destPrefix prefixLength interfaceId expiryTime =>
    cases ok
    exact served.addOrUpdatePrefix _ _ _ _ _ keeps
  | addStaticRoute destPrefix prefixLength interfaceId nextHop metric
  | addDefaultRoute nextHop ifID routerLifetime =>
    cases ok
    exact .of_empty fun _ => rfl
  | addRoutingProtocolRoute route =>
    rw [RoutingTable6.step, addRoutingProtocolRoute] at ok
    split at ok <;> cases ok
    exact .of_empty fun _ => rfl
  | removeOnLinkPrefix destPrefix prefixLength =>
    cases ok
    refine @Served.of_firstRoute rt _ served rfl (fun _ _ here => here) ?_
    intro dest en route here live serves
    exact firstRoute_eraseP serves.first (keeps dest en route here live serves)
  | removeRoute id =>
    rw [RoutingTable6.step, removeRoute] at ok
    split at ok <;> cases ok
    exact .of_empty fun _ => rfl
  | removeDefaultRoutes interfaceID | removePrefixes interfaceID =>
    cases ok
    refine @Served.of_firstRoute rt _ served rfl (fun _ _ here => here) ?_
    intro dest en route here live serves
    have kept := keeps dest en route here live serves
    refine firstRoute_filter serves.first ?_
    rw [not_eq_true', ← not_eq_true, and_eq_true, decide_eq_true_iff, decide_eq_true_iff]
    exact kept
  | removeAllRoutes =>
    cases ok
    intro dest en here live
    obtain ⟨route, serves⟩ := served dest en here live
    exact absurd (keeps dest en route here live serves) id
  | setField id c =>
    cases ok
    rw [setField]
    split
    · exact served
    · rename_i old found
      have same : old.id = id := by simpa using find?_some found
      subst same
      apply served.setRouteField
      rintro value rfl - dest en route here live serves routeId
      exact keeps dest en route here live serves routeId
  | purgeDestCacheEntriesToNeighbour nextHopAddr interfaceId =>
    cases ok
    exact served.purgeEntries _
  | notification category =>
    cases ok
    cases category with
    | NF_INTERFACE_STATE_CHANGED interfaceId isUp =>
      cases isUp
      · exact served.purgeEntries _
      · exact served
    | NF_INTERFACE_DELETED interfaceId => exact served.purgeEntries _
    | _ => exact served
  | doLongestPrefixMatch dest =>
    obtain ⟨result, matched, rfl⟩ := Except.map_eq_ok ok
    exact served.doLongestPrefixMatch matched
  | determineOutputInterface dest =>
    obtain ⟨result, determined, rfl⟩ := Except.map_eq_ok ok
    have looked : Served (rt.lookupDestCache dest).1 := served.lookupDestCache
    rcases determineOutputInterface_ok determined with
      same | ⟨matched, isMatch, ⟨-, same⟩ | ⟨route, found, same⟩⟩
    · rw [same]
      exact looked
    · rw [same]
      exact looked.doLongestPrefixMatch isMatch
    · obtain ⟨first, unexpired, now⟩ := firstRoute_of_match isMatch found
      rw [same]
      exact (looked.doLongestPrefixMatch isMatch).updateDestCache first (now ▸ unexpired)
  | elapse duration =>
    cases ok
    intro dest en here live
    have earlier : en.isLive rt.now = true := by
      rw [DestCacheEntry.isLive, not_eq_true', and_eq_false_iff,
        decide_eq_false_iff_not, decide_eq_false_iff_not] at live ⊢
      dsimp only at live
      omega
    obtain ⟨route, serves⟩ := served dest en here earlier
    exact ⟨route, serves.first, serves.interfaceId, serves.nextHop, serves.outlives⟩

omit served

lemma Served.of_reached (reached : Reached sorting KeepsServing rt) : Served rt := by
  induction reached with
  | initial now => exact .of_empty fun _ => rfl
  | step _ keeps ok ih => exact ih.step keeps ok

/-- The destination cache does not outlive its routes: in a run whose events meet `KeepsServing`, a
lookup answered from the cache gives interface and next hop of a match at once. -/
theorem cache_of_reached (reached : Reached sorting KeepsServing rt) (dest : IPv6Address)
    (cached : (rt.lookupDestCache dest).2.1 ≠ -1) :
    ∃ after route, rt.doLongestPrefixMatch dest = .ok (after, some route) ∧
      (rt.lookupDestCache dest).2 = (route.interfaceId, nextHopFor route dest) := by
  rw [lookupDestCache] at cached ⊢
  split at cached
  · exact absurd rfl cached
  · rename_i en here
    split at cached
    · rename_i live
      obtain ⟨route, serves⟩ := Served.of_reached reached dest en here live
      refine ⟨rt, route, serves.doLongestPrefixMatch live, ?_⟩
      rw [if_pos live, serves.interfaceId, serves.nextHop]
    · exact absurd rfl cached

end

/-- The table with an on-link prefix of infinite lifetime, and the cache after a lookup. -/
def onLinkTable : RoutingTable6 where
  routeList := [{ prefixRoute .FROM_RA 0x20010DB8000000000000000000000000 64 1 0 with id := 0 }]
  destCache := Function.update (fun _ => none) advertised (some ⟨1, advertised, 0⟩)
  now := 0
  nextId := 1

lemma onLinkTable_reached {condition : RoutingTable6 → Event → Prop} (adds : condition (initial 0)
      (.addOrUpdateOnLinkPrefix 0x20010DB8000000000000000000000000 64 1 0))
    (looks : ∀ rt, condition rt (.determineOutputInterface advertised)) :
    Reached insertionSort condition onLinkTable := by
  have added := @Reached.step insertionSort condition _ { onLinkTable with destCache := fun _ => none }
    (.addOrUpdateOnLinkPrefix 0x20010DB8000000000000000000000000 64 1 0) (.initial 0) adds rfl
  exact @Reached.step _ _ _ _ (.determineOutputInterface advertised) added (looks _) rfl

theorem cache_of_reached_onLink : (onLinkTable.lookupDestCache advertised).2.1 ≠ -1 ∧
    ∃ after route, onLinkTable.doLongestPrefixMatch advertised = .ok (after, some route) ∧
      (onLinkTable.lookupDestCache advertised).2 = (route.interfaceId, nextHopFor route advertised) :=
  ⟨by decide, cache_of_reached (onLinkTable_reached nofun fun _ _ _ _ _ _ _ => trivial) advertised
    (by decide)⟩

/-- The prefix is removed, and the cache still answers for it. -/
theorem lookupDestCache_stale :
    ∃ rt, Reached insertionSort (fun _ _ => True) rt ∧
      (rt.lookupDestCache advertised).2 = (1, advertised) ∧
      (rt.doLongestPrefixMatch advertised).map Prod.snd = .ok none :=
  ⟨onLinkTable.removeOnLinkPrefix 0x20010DB8000000000000000000000000 64,
    @Reached.step _ _ _ _ (.removeOnLinkPrefix 0x20010DB8000000000000000000000000 64)
      (onLinkTable_reached trivial fun _ => trivial) trivial rfl, by decide, rfl⟩

end Inet.Ipv6.RoutingTable6
