import Inet.Ipv4.RoutingTable

/-!
# The caches of the IPv4 routing table

`Consistent`: the routes have distinct pointers and the routing cache holds the first valid match of
the vector, or a route that was it and has expired. Every operation keeps this. `LocalFresh` says
the same of the two address caches, which `deleteInterface` clears only if some route uses the
interface; `LocalKept` is the condition under which it leaves them right.
-/

namespace Inet.Ipv4.RoutingTable

open List

/-! ## The routing cache -/

/-- What a cache entry says about the address, as time goes on: the routes in front of the one
cached that match are expired. -/
def EntryOk (rt : RoutingTable) (dest : IPv4Address) : Option ℕ → Prop
  | none => ∀ route ∈ rt.routes, route.matchesAddr dest = true → route.isValid rt.now = false
  | some id => ∃ pre route post, rt.routes = pre ++ route :: post ∧ route.id = id ∧
      route.matchesAddr dest = true ∧
      ∀ other ∈ pre, other.matchesAddr dest = true → other.isValid rt.now = false

/-- The routes are told apart by their pointers. -/
structure Distinct (rt : RoutingTable) : Prop where
  nodup : (rt.routes.map IPv4Route.id).Nodup
  fresh : ∀ route ∈ rt.routes, route.id < rt.nextId

structure Consistent (rt : RoutingTable) : Prop extends Distinct rt where
  cached : ∀ dest entry, rt.routingCache dest = some entry → EntryOk rt dest entry

section

variable {rt rt' : RoutingTable} {dest : IPv4Address} {id : ℕ} {route entry : IPv4Route}

lemma Distinct.consistent (distinct : Distinct rt) : Consistent rt.invalidateCache where
  nodup := distinct.nodup
  fresh := distinct.fresh
  cached := nofun

lemma Distinct.find? (distinct : Distinct rt) (mem : route ∈ rt.routes) :
    rt.routes.find? (fun r => r.id = route.id) = some route := by
  have nodup := distinct.nodup
  generalize rt.routes = routes at mem nodup
  induction routes with
  | nil => cases mem
  | cons first routes ih =>
    rw [map_cons, nodup_cons] at nodup
    rcases mem_cons.mp mem with rfl | mem
    · exact find?_cons_of_pos (by simp)
    · have ne : first.id ≠ route.id := by
        intro eq
        exact nodup.1 (eq ▸ mem_map_of_mem mem)
      rw [find?_cons_of_neg (by simpa using ne)]
      exact ih mem nodup.2

lemma entryOk_searchBest : EntryOk rt dest ((rt.searchBest dest).map IPv4Route.id) := by
  cases best : rt.searchBest dest with
  | none =>
    intro route mem matches_
    have fails := find?_eq_none.mp best route mem
    rw [matches_, Bool.and_true, Bool.not_eq_true] at fails
    exact fails
  | some route =>
    obtain ⟨passes, pre, post, split, before⟩ := find?_eq_some_iff_append.mp best
    rw [Bool.and_eq_true] at passes
    refine ⟨pre, route, post, split, rfl, passes.2, ?_⟩
    intro other mem matches_
    have fails := before other mem
    rw [matches_, Bool.and_true, Bool.not_eq_true'] at fails
    exact fails

lemma EntryOk.searchBest_none (ok : EntryOk rt dest none) : rt.searchBest dest = none := by
  refine find?_eq_none.mpr ?_
  intro route mem
  cases matches_ : route.matchesAddr dest with
  | false => simp
  | true => simp [ok route mem matches_]

lemma EntryOk.searchBest_some (ok : EntryOk rt dest (some id)) :
    ∃ route ∈ rt.routes, route.id = id ∧
      (route.isValid rt.now = true → rt.searchBest dest = some route) := by
  obtain ⟨pre, route, post, split, eq, matches_, before⟩ := ok
  refine ⟨route, by rw [split]; simp, eq, ?_⟩
  intro valid
  refine find?_eq_some_iff_append.mpr ⟨by rw [valid, matches_]; rfl, pre, post, split, ?_⟩
  intro other mem
  cases otherMatches : other.matchesAddr dest with
  | false => simp
  | true => simp [before other mem otherMatches]

lemma Consistent.searchAndCache (consistent : Consistent rt) :
    Consistent (rt.searchAndCache dest).1 where
  nodup := consistent.nodup
  fresh := consistent.fresh
  cached := by
    intro dest' entry here
    by_cases same : dest' = dest
    · subst same
      simp only [RoutingTable.searchAndCache, Function.update_self, Option.some.injEq] at here
      rw [← here]
      exact entryOk_searchBest
    · simp only [RoutingTable.searchAndCache, Function.update_of_ne same] at here
      exact consistent.cached dest' entry here

lemma findBestMatchingRoute_eq (consistent : Consistent rt) (dest : IPv4Address) :
    ∃ rt', rt.findBestMatchingRoute dest = .ok (rt', rt.searchBest dest) ∧
      (rt' = rt ∨ rt' = (rt.searchAndCache dest).1) := by
  rw [findBestMatchingRoute]
  cases entry : rt.routingCache dest with
  | none => exact ⟨_, rfl, .inr rfl⟩
  | some cached =>
    have ok := consistent.cached dest cached entry
    cases cached with
    | none =>
      refine ⟨rt, ?_, .inl rfl⟩
      rw [ok.searchBest_none]
    | some id =>
      obtain ⟨route, mem, rfl, best⟩ := ok.searchBest_some
      dsimp only
      rw [consistent.toDistinct.find? mem]
      dsimp only
      split
      · rename_i valid
        exact ⟨rt, by rw [best valid], .inl rfl⟩
      · exact ⟨_, rfl, .inr rfl⟩

lemma Consistent.findBestMatchingRoute {answer : RoutingTable × Option IPv4Route}
    (consistent : Consistent rt) (ok : rt.findBestMatchingRoute dest = .ok answer) :
    Consistent answer.1 := by
  obtain ⟨after, found, same | searched⟩ := findBestMatchingRoute_eq consistent dest
  · rw [found] at ok
    cases ok
    rw [same]
    exact consistent
  · rw [found] at ok
    cases ok
    rw [searched]
    exact consistent.searchAndCache

/-! ## Operations keep the pointers apart -/

variable (distinct : Distinct rt)
include distinct

lemma Distinct.of_sublist (sub : rt'.routes.Sublist rt.routes)
    (next : rt.nextId ≤ rt'.nextId) : Distinct rt' where
  nodup := distinct.nodup.sublist (sub.map _)
  fresh route mem := lt_of_lt_of_le (distinct.fresh route (sub.subset mem)) next

lemma Distinct.removeRoute : Distinct (rt.removeRoute id) := by
  rw [RoutingTable.removeRoute]
  split
  · exact distinct.of_sublist eraseP_sublist le_rfl
  · exact distinct

lemma Distinct.insertRoute (new : ∀ r ∈ rt.routes, r.id ≠ entry.id)
    (lt : entry.id < rt.nextId) : Distinct (rt.insertRoute entry) where
  nodup := by
    have perm : ((rt.insertRoute entry).routes.map IPv4Route.id).Perm
        ((entry :: rt.routes).map IPv4Route.id) := (perm_orderedInsert _ _ _).map _
    rw [perm.nodup_iff, map_cons, nodup_cons]
    refine ⟨?_, distinct.nodup⟩
    intro mem
    obtain ⟨r, rMem, eq⟩ := mem_map.mp mem
    exact new r rMem eq
  fresh := by
    intro r mem
    rcases (mem_orderedInsert _).mp mem with rfl | mem
    · exact lt
    · exact distinct.fresh r mem

omit distinct in
lemma removeRoute_subset : (rt.removeRoute id).routes ⊆ rt.routes := by
  rw [RoutingTable.removeRoute]
  split
  · exact eraseP_subset
  · exact List.Subset.refl _

omit distinct in
lemma removeRoute_nextId : (rt.removeRoute id).nextId = rt.nextId := by
  rw [RoutingTable.removeRoute]
  split <;> rfl

omit distinct in
/-- What `internalAddRoute` does when it does not throw: the route is inserted after an old default
route, if it replaces one, has been removed. -/
lemma internalAddRoute_ok (ok : rt.internalAddRoute entry = .ok rt') :
    (entry.netmask.isValidNetmask ∧ entry.dest &&& ~~~entry.netmask = 0) ∧
      ∃ before, (before = rt ∨ ∃ old, before = rt.removeRoute old) ∧
        rt' = before.insertRoute entry := by
  simp only [internalAddRoute] at ok
  split_ifs at ok with mask zero outside null default <;> cases ok
  · refine ⟨⟨mask, not_not.mp outside⟩, ?_⟩
    cases rt.getDefaultRoute with
    | none => exact ⟨rt, .inl rfl, rfl⟩
    | some old => exact ⟨_, .inr ⟨old.id, rfl⟩, rfl⟩
  · exact ⟨⟨mask, not_not.mp outside⟩, rt, .inl rfl, rfl⟩

lemma Distinct.internalAddRoute (ok : rt.internalAddRoute entry = .ok rt')
    (new : ∀ r ∈ rt.routes, r.id ≠ entry.id) (lt : entry.id < rt.nextId) : Distinct rt' := by
  obtain ⟨-, before, which, rfl⟩ := internalAddRoute_ok ok
  rcases which with rfl | ⟨old, rfl⟩
  · exact distinct.insertRoute new lt
  · refine distinct.removeRoute.insertRoute (fun r mem => new r (removeRoute_subset mem)) ?_
    rw [removeRoute_nextId]
    exact lt

lemma Distinct.erase_ne : ∀ r ∈ (rt.internalRemoveRoute id).routes, r.id ≠ id := by
  have nodup := distinct.nodup
  rw [internalRemoveRoute]
  generalize rt.routes = routes at nodup
  induction routes with
  | nil => exact fun _ mem => nomatch mem
  | cons first routes ih =>
    rw [map_cons, nodup_cons] at nodup
    by_cases same : first.id = id
    · rw [eraseP_cons_of_pos (by simpa using same)]
      intro r mem eq
      exact nodup.1 (same.trans eq.symm ▸ mem_map_of_mem mem)
    · rw [eraseP_cons_of_neg (by simpa using same)]
      intro r mem
      rcases mem_cons.mp mem with rfl | mem
      · exact same
      · exact ih nodup.2 r mem

omit distinct in
lemma Change.apply_id (c : IPv4Route.Change) (route : IPv4Route) :
    (c.apply route).id = route.id := by
  cases c <;> rfl

omit distinct in
lemma replaceRoute_ids (c : IPv4Route.Change) :
    (rt.replaceRoute id c).routes.map IPv4Route.id = rt.routes.map IPv4Route.id := by
  rw [replaceRoute, map_map]
  refine map_congr_left ?_
  intro route mem
  simp only [Function.comp_apply]
  split
  · exact Change.apply_id c route
  · rfl

lemma Distinct.replaceRoute (c : IPv4Route.Change) :
    Distinct (rt.replaceRoute id c) where
  nodup := by
    rw [replaceRoute_ids]
    exact distinct.nodup
  fresh := by
    intro route mem
    have here : route.id ∈ (rt.replaceRoute id c).routes.map IPv4Route.id := mem_map_of_mem mem
    rw [replaceRoute_ids] at here
    obtain ⟨old, oldMem, eq⟩ := mem_map.mp here
    rw [← eq]
    exact distinct.fresh old oldMem

lemma Distinct.addNetmaskRoute (ie : InterfaceEntry) : Distinct (rt.addNetmaskRoute ie) := by
  rw [RoutingTable.addNetmaskRoute]
  split
  · split
    · have raised : Distinct { rt with nextId := rt.nextId + 1 } :=
        distinct.of_sublist (List.Sublist.refl _) (Nat.le_succ _)
      exact raised.insertRoute (fun r mem => (distinct.fresh r mem).ne) (Nat.lt_succ_self _)
    · exact distinct
  · exact distinct

lemma Distinct.foldl_addNetmaskRoute (ies : List InterfaceEntry) :
    Distinct (ies.foldl RoutingTable.addNetmaskRoute rt) := by
  induction ies generalizing rt with
  | nil => exact distinct
  | cons ie ies ih => exact ih (distinct.addNetmaskRoute ie)

lemma Distinct.updateNetmaskRoutes : Consistent rt.updateNetmaskRoutes := by
  have deleted : Distinct { rt with
      routes := rt.routes.filter fun route => route.sourceType ≠ .IFACENETMASK } :=
    distinct.of_sublist filter_sublist le_rfl
  exact (deleted.foldl_addNetmaskRoute rt.interfaces).consistent

omit distinct

/-! ## Every event keeps the routing cache right -/

/-- What the cache depends on: the routes' pointers, prefixes and validity, in their order. -/
lemma Consistent.of_map (consistent : Consistent rt) {f : IPv4Route → IPv4Route}
    (routes : rt'.routes = rt.routes.map f) (cache : rt'.routingCache = rt.routingCache)
    (next : rt'.nextId = rt.nextId) (ids : ∀ route, (f route).id = route.id)
    (matching : ∀ route dest, (f route).matchesAddr dest = route.matchesAddr dest)
    (expiry : ∀ route, (f route).isValid rt'.now = true → route.isValid rt.now = true) :
    Consistent rt' where
  nodup := by
    rw [routes, map_map, show IPv4Route.id ∘ f = IPv4Route.id from funext ids]
    exact consistent.nodup
  fresh := by
    intro route mem
    rw [routes] at mem
    obtain ⟨old, oldMem, rfl⟩ := mem_map.mp mem
    rw [ids, next]
    exact consistent.fresh old oldMem
  cached := by
    intro dest entry here
    rw [cache] at here
    have ok := consistent.cached dest entry here
    have expired : ∀ route, route.isValid rt.now = false → (f route).isValid rt'.now = false := by
      intro route invalid
      by_contra valid
      rw [Bool.not_eq_false] at valid
      rw [expiry route valid] at invalid
      cases invalid
    cases entry with
    | none =>
      intro route mem matches_
      rw [routes] at mem
      obtain ⟨old, oldMem, rfl⟩ := mem_map.mp mem
      rw [matching] at matches_
      exact expired old (ok old oldMem matches_)
    | some id =>
      obtain ⟨pre, route, post, split, eq, matches_, before⟩ := ok
      refine ⟨pre.map f, f route, post.map f, ?_, (ids route).trans eq,
        (matching route dest).trans matches_, ?_⟩
      · rw [routes, split, map_append, map_cons]
      · intro other mem otherMatches
        obtain ⟨old, oldMem, rfl⟩ := mem_map.mp mem
        rw [matching] at otherMatches
        exact expired old (before old oldMem otherMatches)

lemma Consistent.setField {c : IPv4Route.Change} (consistent : Consistent rt)
    (ok : rt.setField id c = .ok rt') : Consistent rt' := by
  rw [RoutingTable.setField] at ok
  split at ok
  · cases ok
    exact consistent
  · split at ok
    · cases ok
      exact consistent
    · rw [routeChanged] at ok
      split at ok
      · -- the route is taken out and put in again, and the caches are cleared
        have distinct : Distinct (rt.replaceRoute id c) := consistent.toDistinct.replaceRoute c
        split at ok
        · cases ok
        · rename_i entry found
          cases added : ((rt.replaceRoute id c).internalRemoveRoute id).internalAddRoute entry with
          | error e =>
            rw [added] at ok
            cases ok
          | ok inserted =>
            rw [added] at ok
            cases ok
            have entryId : entry.id = id := by simpa using find?_some found
            have mem := mem_of_find?_eq_some found
            have removed : Distinct ((rt.replaceRoute id c).internalRemoveRoute id) :=
              distinct.of_sublist eraseP_sublist le_rfl
            refine (removed.internalAddRoute added ?_ (distinct.fresh entry mem)).consistent
            rw [entryId]
            exact distinct.erase_ne
      · -- any other field leaves the prefixes and the order alone
        rename_i field
        cases ok
        refine consistent.of_map (f := fun route => if route.id = id then c.apply route else route)
          rfl rfl rfl ?_ ?_ ?_
        · intro route
          split
          · exact Change.apply_id c route
          · rfl
        · intro route dest
          split
          · cases c <;> first | rfl | exact absurd (by simp [IPv4Route.Change.fieldCode]) field
          · rfl
        · intro route valid
          split at valid
          · cases c <;> exact valid
          · exact valid

lemma Consistent.deleteInterfaceRoutes (consistent : Consistent rt) (entry : ℕ) :
    Consistent (rt.deleteInterfaceRoutes entry) := by
  simp only [RoutingTable.deleteInterfaceRoutes]
  split
  · have distinct : Distinct { rt with
        routes := rt.routes.filter fun route => route.interfacePtr ≠ some entry
        multicastRoutes := (rt.multicastRoutes.filter fun route =>
          route.inInterface ≠ some entry).map fun route =>
            { route with outInterfaces := route.outInterfaces.erase entry } } :=
      consistent.toDistinct.of_sublist filter_sublist le_rfl
    exact distinct.consistent
  · -- no route is deleted
    rename_i unused
    have same : rt.routes.filter (fun route => route.interfacePtr ≠ some entry) = rt.routes := by
      refine filter_eq_self.mpr ?_
      intro route mem
      rw [routesUse, Bool.or_eq_true, not_or, any_eq_true] at unused
      have := fun uses => unused.1 ⟨route, mem, uses⟩
      simpa using this
    refine consistent.of_map (f := fun route => route) ?_ rfl rfl (fun _ => rfl) (fun _ _ => rfl)
      (fun _ valid => valid)
    rw [same, map_id']

lemma Consistent.updateInterfaces (consistent : Consistent rt) (ifs : List InterfaceEntry) :
    Consistent { rt with interfaces := ifs } :=
  ⟨⟨consistent.nodup, consistent.fresh⟩, consistent.cached⟩

lemma isLocalAddress_table {answer : RoutingTable × Bool}
    (ok : rt.isLocalAddress dest = .ok answer) :
    ∃ addresses, answer.1 = { rt with localAddresses := addresses } := by
  rw [isLocalAddress] at ok
  split at ok
  · split at ok <;> cases ok
    exact ⟨_, rfl⟩
  · cases ok
    exact ⟨rt.localAddresses, rfl⟩

lemma isLocalBroadcastAddress_table {answer : RoutingTable × Bool}
    (ok : rt.isLocalBroadcastAddress dest = .ok answer) :
    ∃ addresses, answer.1 = { rt with localBroadcastAddresses := addresses } := by
  rw [isLocalBroadcastAddress] at ok
  split at ok
  · split at ok <;> cases ok
    exact ⟨_, rfl⟩
  · cases ok
    exact ⟨rt.localBroadcastAddresses, rfl⟩

lemma Consistent.step {event : Event} (consistent : Consistent rt)
    (ok : rt.step event = .ok rt') : Consistent rt' := by
  have distinct := consistent.toDistinct
  cases event with
  | addRoute entry =>
    rw [RoutingTable.step, addRoute] at ok
    cases added : { rt with nextId := rt.nextId + 1 }.internalAddRoute
      { entry with id := rt.nextId } with
    | error e =>
      rw [added] at ok
      cases ok
    | ok inserted =>
      rw [added] at ok
      cases ok
      have raised : Distinct { rt with nextId := rt.nextId + 1 } :=
        distinct.of_sublist (List.Sublist.refl _) (Nat.le_succ _)
      exact (raised.internalAddRoute added (fun r mem => (distinct.fresh r mem).ne)
        (Nat.lt_succ_self _)).consistent
  | removeRoute id | deleteRoute id =>
    cases ok
    simp only [deleteRoute, removeRoute]
    split
    · exact (distinct.of_sublist eraseP_sublist le_rfl :
        Distinct (rt.internalRemoveRoute id)).consistent
    · exact consistent
  | setField id c => exact consistent.setField ok
  | purge =>
    cases ok
    rw [purge]
    split
    · exact consistent
    · exact (distinct.of_sublist filter_sublist le_rfl : Distinct { rt with
        routes := rt.routes.filter fun route => route.isValid rt.now }).consistent
  | updateNetmaskRoutes =>
    cases ok
    exact distinct.updateNetmaskRoutes
  | multicastRoutes routes clears =>
    cases ok
    split
    · exact (distinct.of_sublist (List.Sublist.refl _) le_rfl : Distinct { rt with
        multicastRoutes := routes }).consistent
    · exact ⟨⟨consistent.nodup, consistent.fresh⟩, consistent.cached⟩
  | findBestMatchingRoute dest =>
    obtain ⟨answer, found, rfl⟩ := Except.map_eq_ok ok
    exact consistent.findBestMatchingRoute found
  | isLocalAddress dest =>
    obtain ⟨answer, found, rfl⟩ := Except.map_eq_ok ok
    obtain ⟨addresses, eq⟩ := isLocalAddress_table found
    rw [eq]
    exact ⟨⟨consistent.nodup, consistent.fresh⟩, consistent.cached⟩
  | isLocalBroadcastAddress dest =>
    obtain ⟨answer, found, rfl⟩ := Except.map_eq_ok ok
    obtain ⟨addresses, eq⟩ := isLocalBroadcastAddress_table found
    rw [eq]
    exact ⟨⟨consistent.nodup, consistent.fresh⟩, consistent.cached⟩
  | addInterface entry =>
    cases ok
    exact (consistent.updateInterfaces _).toDistinct.updateNetmaskRoutes
  | deleteInterface entry =>
    cases ok
    exact (consistent.deleteInterfaceRoutes entry).updateInterfaces _
  | interfaceChanged c entry =>
    cases ok
    have replaced := consistent.updateInterfaces (rt.interfaces.map fun ie : InterfaceEntry =>
      if ie.interfaceId = entry.interfaceId then entry else ie)
    cases c with
    | state => exact replaced.toDistinct.consistent
    | config => exact replaced.toDistinct.consistent
    | ipv4Config => exact replaced.toDistinct.updateNetmaskRoutes
  | elapse duration =>
    cases ok
    refine consistent.of_map (f := fun route => route) ?_ rfl rfl (fun _ => rfl) (fun _ _ => rfl) ?_
    · exact (map_id' _).symm
    · intro route valid
      simp only [IPv4Route.isValid, Bool.or_eq_true, decide_eq_true_eq] at valid ⊢
      omega

end

/-! ## The address caches -/

section

variable {rt rt' : RoutingTable} {address : IPv4InterfaceData → Option IPv4Address}
  {ifs : List InterfaceEntry} {cache addresses : List IPv4Address} {dest : IPv4Address}

/-- The interface has this address. -/
def HasAddress (address : IPv4InterfaceData → Option IPv4Address) (ie : InterfaceEntry)
    (addr : IPv4Address) : Prop :=
  ∃ data, ie.ipv4Data = some data ∧ address data = some addr

lemma mem_collectInterfaces (ok : collectInterfaces ifs address = .ok addresses) :
    (∀ ie ∈ ifs, ie.ipv4Data ≠ none) ∧
      ∀ addr, addr ∈ addresses ↔ ∃ ie ∈ ifs, HasAddress address ie addr := by
  induction ifs generalizing addresses with
  | nil =>
    cases ok
    exact ⟨nofun, fun addr => by simp⟩
  | cons ie rest ih =>
    simp only [collectInterfaces] at ok
    split at ok
    · cases ok
    · rename_i data here
      split at ok
      · cases ok
      · rename_i others collected
        cases ok
        obtain ⟨all, mem⟩ := ih collected
        constructor
        · intro ie' ieMem
          rcases mem_cons.mp ieMem with rfl | ieMem
          · rw [here]
            exact Option.some_ne_none data
          · exact all ie' ieMem
        · intro addr
          rw [mem_append, mem, Option.mem_toList]
          constructor
          · rintro (own | ⟨ie', ieMem, has⟩)
            · exact ⟨ie, mem_cons_self, data, here, own⟩
            · exact ⟨ie', mem_cons_of_mem ie ieMem, has⟩
          · rintro ⟨ie', ieMem, has⟩
            rcases mem_cons.mp ieMem with rfl | ieMem
            · obtain ⟨data', here', own⟩ := has
              rw [here] at here'
              cases here'
              exact .inl own
            · exact .inr ⟨ie', ieMem, has⟩

lemma collectInterfaces_ok (all : ∀ ie ∈ ifs, ie.ipv4Data ≠ none) :
    ∃ addresses, collectInterfaces ifs address = .ok addresses := by
  induction ifs with
  | nil => exact ⟨[], rfl⟩
  | cons ie rest ih =>
    obtain ⟨addresses, collected⟩ := ih fun ie' mem => all ie' (mem_cons_of_mem ie mem)
    obtain ⟨data, here⟩ := Option.ne_none_iff_exists'.mp (all ie mem_cons_self)
    exact ⟨(address data).toList ++ addresses, by
      simp only [collectInterfaces, here, collected]⟩

/-- The cache is empty or holds the addresses of the interfaces. -/
def CacheFresh (interfaces : List InterfaceEntry)
    (address : IPv4InterfaceData → Option IPv4Address) (cache : List IPv4Address) : Prop :=
  cache = [] ∨ ∃ addresses, collectInterfaces interfaces address = .ok addresses ∧
    ∀ addr, addr ∈ cache ↔ addr ∈ addresses

structure LocalFresh (rt : RoutingTable) : Prop where
  addresses : CacheFresh rt.interfaces localAddress rt.localAddresses
  broadcasts : CacheFresh rt.interfaces localBroadcastAddress rt.localBroadcastAddresses

lemma LocalFresh.of_invalidated (addresses : rt.localAddresses = [])
    (broadcasts : rt.localBroadcastAddresses = []) : LocalFresh rt :=
  ⟨.inl addresses, .inl broadcasts⟩

/-- Without `entry` the other interfaces still have all of its addresses. -/
def Covered (interfaces : List InterfaceEntry)
    (address : IPv4InterfaceData → Option IPv4Address) (entry : ℕ) : Prop :=
  ∀ ie ∈ interfaces, ie.interfaceId = entry → ∀ addr, HasAddress address ie addr →
    ∃ other ∈ interfaces, other.interfaceId ≠ entry ∧ HasAddress address other addr

lemma CacheFresh.delete {entry : ℕ} (fresh : CacheFresh ifs address cache)
    (kept : cache = [] ∨ Covered ifs address entry) :
    CacheFresh (ifs.filter fun ie => ie.interfaceId ≠ entry) address cache := by
  rcases fresh with empty | ⟨addresses, collected, same⟩
  · exact .inl empty
  · rcases kept with empty | covered
    · exact .inl empty
    · obtain ⟨all, mem⟩ := mem_collectInterfaces collected
      obtain ⟨rest, collected'⟩ := @collectInterfaces_ok address
        (ifs.filter fun ie => ie.interfaceId ≠ entry)
        fun ie ieMem => all ie (mem_of_mem_filter ieMem)
      refine .inr ⟨rest, collected', ?_⟩
      intro addr
      rw [same, mem, (mem_collectInterfaces collected').2]
      constructor
      · rintro ⟨ie, ieMem, has⟩
        by_cases deleted : ie.interfaceId = entry
        · obtain ⟨other, otherMem, ne, has'⟩ := covered ie ieMem deleted addr has
          exact ⟨other, mem_filter.mpr ⟨otherMem, by simpa using ne⟩, has'⟩
        · exact ⟨ie, mem_filter.mpr ⟨ieMem, by simpa using deleted⟩, has⟩
      · rintro ⟨ie, ieMem, has⟩
        exact ⟨ie, mem_of_mem_filter ieMem, has⟩

/-- The deletion leaves the address caches right: some route uses the interface, or each is empty or
needs nothing that only it has. -/
def LocalKept (rt : RoutingTable) (entry : ℕ) : Prop :=
  rt.routesUse entry = true ∨ (rt.localAddresses = [] ∨ Covered rt.interfaces localAddress entry) ∧
      (rt.localBroadcastAddresses = [] ∨ Covered rt.interfaces localBroadcastAddress entry)

lemma LocalFresh.of_eq (fresh : LocalFresh rt) (ifs : rt'.interfaces = rt.interfaces)
    (addresses : rt'.localAddresses = rt.localAddresses)
    (broadcasts : rt'.localBroadcastAddresses = rt.localBroadcastAddresses) : LocalFresh rt' := by
  constructor
  · rw [ifs, addresses]
    exact fresh.addresses
  · rw [ifs, broadcasts]
    exact fresh.broadcasts

lemma LocalFresh.removeRoute {id : ℕ} (fresh : LocalFresh rt) : LocalFresh (rt.removeRoute id) := by
  rw [RoutingTable.removeRoute]
  split
  · exact .of_invalidated rfl rfl
  · exact fresh

lemma map_invalidate {α : Except SimError RoutingTable}
    (ok : α.map invalidateCache = .ok rt') : LocalFresh rt' := by
  cases α with
  | error e => cases ok
  | ok before =>
    cases ok
    exact .of_invalidated rfl rfl

/-- Every event keeps the address caches right, as long as a deleted interface meets the
condition. -/
lemma LocalFresh.step {event : Event} (fresh : LocalFresh rt) (ok : rt.step event = .ok rt')
    (kept : ∀ entry, event = .deleteInterface entry → LocalKept rt entry) : LocalFresh rt' := by
  cases event with
  | addRoute entry => exact map_invalidate ok
  | removeRoute id | deleteRoute id =>
    cases ok
    exact fresh.removeRoute
  | setField id c =>
    rw [RoutingTable.step, setField] at ok
    split at ok
    · cases ok
      exact fresh
    · split at ok
      · cases ok
        exact fresh
      · rw [routeChanged] at ok
        split at ok
        · split at ok
          · cases ok
          · exact map_invalidate ok
        · cases ok
          exact fresh.of_eq rfl rfl rfl
  | purge =>
    cases ok
    rw [purge]
    split
    · exact fresh
    · exact .of_invalidated rfl rfl
  | updateNetmaskRoutes =>
    cases ok
    exact .of_invalidated rfl rfl
  | multicastRoutes routes clears =>
    cases ok
    split
    · exact .of_invalidated rfl rfl
    · exact fresh.of_eq rfl rfl rfl
  | findBestMatchingRoute dest =>
    obtain ⟨answer, found, rfl⟩ := Except.map_eq_ok ok
    rw [RoutingTable.findBestMatchingRoute] at found
    split at found
    · cases found
      exact fresh.of_eq rfl rfl rfl
    · cases found
      exact fresh
    · split at found
      · cases found
      · split at found <;> cases found
        · exact fresh
        · exact fresh.of_eq rfl rfl rfl
  | isLocalAddress dest =>
    obtain ⟨answer, found, rfl⟩ := Except.map_eq_ok ok
    rw [RoutingTable.isLocalAddress] at found
    split at found
    · split at found
      · cases found
      · rename_i addresses collected
        cases found
        exact ⟨.inr ⟨addresses, collected, fun _ => Iff.rfl⟩, fresh.broadcasts⟩
    · cases found
      exact fresh
  | isLocalBroadcastAddress dest =>
    obtain ⟨answer, found, rfl⟩ := Except.map_eq_ok ok
    rw [RoutingTable.isLocalBroadcastAddress] at found
    split at found
    · split at found
      · cases found
      · rename_i addresses collected
        cases found
        exact ⟨fresh.addresses, .inr ⟨addresses, collected, fun _ => Iff.rfl⟩⟩
    · cases found
      exact fresh
  | addInterface entry =>
    cases ok
    exact .of_invalidated rfl rfl
  | deleteInterface entry =>
    cases ok
    simp only [deleteInterface, receiveChangeNotification, Bool.false_eq_true, if_false,
      deleteInterfaceRoutes]
    split
    · exact .of_invalidated rfl rfl
    · rename_i unused
      obtain ⟨addresses, broadcasts⟩ := (kept entry rfl).resolve_left unused
      exact ⟨fresh.addresses.delete addresses, fresh.broadcasts.delete broadcasts⟩
  | interfaceChanged c entry =>
    cases ok
    cases c <;> exact .of_invalidated rfl rfl
  | elapse duration =>
    cases ok
    exact fresh.of_eq rfl rfl rfl

lemma CacheFresh.answer {ifs : List InterfaceEntry}
    {address : IPv4InterfaceData → Option IPv4Address} {cache : List IPv4Address}
    (fresh : CacheFresh ifs address cache) (filled : List IPv4Address → RoutingTable)
    (dest : IPv4Address) : Except.map Prod.snd (if cache = [] then
      match collectInterfaces ifs address with
      | .error e => .error e
      | .ok addresses => .ok (filled addresses, decide (dest ∈ addresses))
    else .ok (rt, decide (dest ∈ cache))) =
      (collectInterfaces ifs address).map fun addresses => decide (dest ∈ addresses) := by
  by_cases empty : cache = []
  · rw [if_pos empty]
    cases collectInterfaces ifs address <;> rfl
  · obtain ⟨addresses, collected, same⟩ := fresh.resolve_left empty
    rw [if_neg empty, collected]
    simp only [Except.map, same]

lemma isLocalAddress_answer (fresh : LocalFresh rt) (dest : IPv4Address) :
    (rt.isLocalAddress dest).map Prod.snd = (rt.invalidateCache.isLocalAddress dest).map Prod.snd := by
  have emptied : CacheFresh rt.interfaces localAddress rt.invalidateCache.localAddresses := .inl rfl
  exact (fresh.addresses.answer _ dest).trans (emptied.answer _ dest).symm

lemma isLocalBroadcastAddress_answer (fresh : LocalFresh rt) (dest : IPv4Address) :
    (rt.isLocalBroadcastAddress dest).map Prod.snd =
      (rt.invalidateCache.isLocalBroadcastAddress dest).map Prod.snd := by
  have emptied : CacheFresh rt.interfaces localBroadcastAddress
    rt.invalidateCache.localBroadcastAddresses := .inl rfl
  exact (fresh.broadcasts.answer _ dest).trans (emptied.answer _ dest).symm

lemma Consistent.initial (ifs : List InterfaceEntry) (now : ℤ) : Consistent (initial ifs now) :=
  ⟨⟨nodup_nil, nofun⟩, nofun⟩

lemma Consistent.of_reached {condition : RoutingTable → Event → Prop}
    (reached : Reached condition rt) : Consistent rt := by
  induction reached with
  | initial ifs now => exact .initial ifs now
  | step _ _ ok ih => exact ih.step ok

/-- Deleted interfaces meet `LocalKept`. -/
def DeletesKept (rt : RoutingTable) (event : Event) : Prop :=
  ∀ entry, event = .deleteInterface entry → LocalKept rt entry

lemma LocalFresh.of_reached (reached : Reached DeletesKept rt) : LocalFresh rt := by
  induction reached with
  | initial ifs now => exact .of_invalidated rfl rfl
  | step _ kept ok ih => exact ih.step ok kept

/-- In every state reached the three lookups answer as with empty caches, provided that each deleted
interface met `LocalKept`. -/
theorem answers_of_reached (reached : Reached DeletesKept rt) (dest : IPv4Address) :
    (rt.findBestMatchingRoute dest).map Prod.snd =
        (rt.invalidateCache.findBestMatchingRoute dest).map Prod.snd ∧
      (rt.isLocalAddress dest).map Prod.snd =
        (rt.invalidateCache.isLocalAddress dest).map Prod.snd ∧
      (rt.isLocalBroadcastAddress dest).map Prod.snd =
        (rt.invalidateCache.isLocalBroadcastAddress dest).map Prod.snd := by
  have consistent := Consistent.of_reached reached
  have fresh := LocalFresh.of_reached reached
  refine ⟨?_, isLocalAddress_answer fresh dest, isLocalBroadcastAddress_answer fresh dest⟩
  obtain ⟨after, found, -⟩ := findBestMatchingRoute_eq consistent dest
  obtain ⟨after', found', -⟩ := findBestMatchingRoute_eq consistent.toDistinct.consistent dest
  rw [found, found']
  rfl

/-- Whatever happens to the table and its interfaces, `findBestMatchingRoute` finds the first valid
match of the vector, and no pointer in its cache dangles. -/
theorem found_of_reached (reached : Reached (fun _ _ => True) rt) (dest : IPv4Address) :
    (rt.findBestMatchingRoute dest).map Prod.snd = .ok (rt.searchBest dest) := by
  obtain ⟨after, found, -⟩ := findBestMatchingRoute_eq (.of_reached reached) dest
  rw [found]
  rfl

end

/-- An interface with address 5; with a netmask of all ones it gets no route of its own. -/
def hostInterface (netmask : IPv4Address) : InterfaceEntry := ⟨1, 1500, false, some ⟨5, netmask, 1⟩⟩

/-- The table after a local address was looked up, the netmask routes made and the interface
deleted. -/
def afterDeletion (netmask : IPv4Address) : RoutingTable :=
  ({ initial [hostInterface netmask] 0 with localAddresses := [5] }.updateNetmaskRoutes)
    |>.deleteInterface 1

theorem answers_of_reached_netmaskRoute :
    ((afterDeletion 0xFFFFFF00).findBestMatchingRoute 5).map Prod.snd =
        ((afterDeletion 0xFFFFFF00).invalidateCache.findBestMatchingRoute 5).map Prod.snd ∧
      ((afterDeletion 0xFFFFFF00).isLocalAddress 5).map Prod.snd =
        ((afterDeletion 0xFFFFFF00).invalidateCache.isLocalAddress 5).map Prod.snd ∧
      ((afterDeletion 0xFFFFFF00).isLocalBroadcastAddress 5).map Prod.snd =
        ((afterDeletion 0xFFFFFF00).invalidateCache.isLocalBroadcastAddress 5).map Prod.snd := by
  refine answers_of_reached ?_ 5
  have looked : Reached DeletesKept
      { initial [hostInterface 0xFFFFFF00] 0 with localAddresses := [5] } :=
    @Reached.step _ _ _ (.isLocalAddress 5) (.initial [hostInterface 0xFFFFFF00] 0) nofun rfl
  have updated := @Reached.step _ _ _ .updateNetmaskRoutes looked nofun rfl
  refine @Reached.step _ _ _ (.deleteInterface 1) updated ?_ rfl
  intro entry eq
  cases eq
  exact .inl (by decide)

theorem found_of_reached_deleted :
    ((afterDeletion 0xFFFFFF00).findBestMatchingRoute 5).map Prod.snd = .ok none :=
  found_of_reached (@Reached.step _ _ _ (.deleteInterface 1)
    (@Reached.step _ _ _ .updateNetmaskRoutes
      (@Reached.step _ _ _ (.isLocalAddress 5) (.initial [hostInterface 0xFFFFFF00] 0) trivial rfl)
      trivial rfl) trivial rfl) 5

/-- The interface is deleted while the cache holds its address and no route uses it: its address
is still taken for a local one. -/
theorem isLocalAddress_stale :
    ∃ rt, Reached (fun _ _ => True) rt ∧ (rt.isLocalAddress 5).map Prod.snd = .ok true ∧
      (rt.invalidateCache.isLocalAddress 5).map Prod.snd = .ok false := by
  have looked : Reached (fun _ _ => True)
      { initial [hostInterface IPv4Address.ALLONES_ADDRESS] 0 with localAddresses := [5] } :=
    @Reached.step _ _ _ (.isLocalAddress 5)
      (.initial [hostInterface IPv4Address.ALLONES_ADDRESS] 0) trivial rfl
  exact ⟨_, @Reached.step _ _ _ (.deleteInterface 1) looked trivial rfl, rfl, rfl⟩

end Inet.Ipv4.RoutingTable
