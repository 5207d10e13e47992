import Inet.Ipv4.RoutingCaches
import Inet.Lib.BestMatch
import Mathlib.Data.Prod.Lex

/-!
# Which route is selected

`routeLessThan` is the order of a key, so a table sorted by it has the best match as its first match
(`BestMatch`). Every operation keeps the order but the setter of the administrative distance, on
whose field code `routeChanged` does not sort; `KeepsOrder` is the condition under which an event
keeps it all the same.
-/

namespace Inet.Ipv4

open List

/-- What `routeLessThan` compares. -/
def routeKey (route : IPv4Route) : ℕᵒᵈ ×ₗ ℕ ×ₗ ℕ ×ₗ ℤ :=
  toLex (OrderDual.toDual route.netmask.toNat,
    toLex (route.dest.toNat, toLex (route.adminDist, route.metric)))

section

variable {a b route other : IPv4Route}

lemma routeLessThan_iff : routeLessThan a b ↔ routeKey a < routeKey b := by
  simp only [routeLessThan, routeKey, Prod.Lex.toLex_lt_toLex, OrderDual.toDual_lt_toDual,
    BitVec.lt_def, EmbeddingLike.apply_eq_iff_eq, BitVec.toNat_inj]
  by_cases mask : a.netmask = b.netmask
  · by_cases dest : a.dest = b.dest
    · by_cases dist : a.adminDist = b.adminDist
      · simp [mask, dest, dist]
      · simp [mask, dest, dist]
    · simp [mask, dest]
  · simp [mask]

lemma routeKey_le_iff : routeKey a ≤ routeKey b ↔ ¬ routeLessThan b a := by
  rw [routeLessThan_iff, not_lt]

lemma netmask_le_of_routeKey_le (le : routeKey a ≤ routeKey b) : b.netmask ≤ a.netmask := by
  by_contra not_le
  refine routeKey_le_iff.mp le ?_
  rw [BitVec.le_def, Nat.not_le] at not_le
  have ne : b.netmask ≠ a.netmask := by
    rintro eq
    rw [eq] at not_le
    exact lt_irrefl _ not_le
  rw [routeLessThan, if_pos ne]
  exact not_le

lemma routeKey_le_iff_of_sameKind (mask : a.netmask = b.netmask) (dest : a.dest = b.dest) :
    routeKey a ≤ routeKey b ↔
      a.adminDist < b.adminDist ∨ (a.adminDist = b.adminDist ∧ a.metric ≤ b.metric) := by
  rw [routeKey_le_iff, routeLessThan, if_neg (not_not.mpr mask.symm), if_neg (not_not.mpr dest.symm)]
  by_cases dist : b.adminDist = a.adminDist
  · rw [if_neg (not_not.mpr dist)]
    omega
  · rw [if_pos dist]
    omega

lemma routeKey_le_of_prefix_ne {a' b' : IPv4Route} (apart : ¬ (a.netmask = b.netmask ∧ a.dest = b.dest))
    (masks : a'.netmask = a.netmask ∧ b'.netmask = b.netmask)
    (dests : a'.dest = a.dest ∧ b'.dest = b.dest) (le : routeKey a ≤ routeKey b) :
    routeKey a' ≤ routeKey b' := by
  rw [routeKey_le_iff] at le ⊢
  rw [routeLessThan] at le ⊢
  rw [masks.1, masks.2, dests.1, dests.2]
  by_cases mask : b.netmask = a.netmask
  · have dest : b.dest ≠ a.dest := fun dest => apart ⟨mask.symm, dest.symm⟩
    rw [if_neg (not_not.mpr mask), if_pos dest] at le ⊢
    exact le
  · rw [if_pos mask] at le ⊢
    exact le

end

namespace RoutingTable

section

variable {rt rt' : RoutingTable} {dest : IPv4Address} {id : ℕ} {route en : IPv4Route}

lemma insertRoute_routes : (rt.insertRoute en).routes = insertBy routeKey en rt.routes := by
  rw [insertRoute, insertBy]
  dsimp only
  induction rt.routes with
  | nil => rfl
  | cons first routes ih =>
    rw [orderedInsert_cons, orderedInsert_cons, ih]
    simp only [routeLessThan_iff]

/-- The route has a valid netmask and no destination bits outside of it. -/
structure ProperPrefix (route : IPv4Route) : Prop where
  valid : route.netmask.isValidNetmask
  inside : route.dest &&& ~~~route.netmask = 0

/-- The vector is sorted and its routes are proper. -/
structure Ordered (rt : RoutingTable) : Prop where
  sorted : SortedBy routeKey rt.routes
  proper : ∀ route ∈ rt.routes, ProperPrefix route

/-- The best route: valid and matching, with the longest netmask, and then the least administrative
distance and metric. -/
structure BestMatch (rt : RoutingTable) (dest : IPv4Address) (route : IPv4Route) : Prop where
  mem : route ∈ rt.routes
  valid : route.isValid rt.now = true
  matching : route.matchesAddr dest = true
  longest : ∀ other ∈ rt.routes, other.isValid rt.now = true → other.matchesAddr dest = true →
    other.netmask.getNetmaskLength ≤ route.netmask.getNetmaskLength
  least : ∀ other ∈ rt.routes, other.isValid rt.now = true → other.matchesAddr dest = true →
    other.netmask = route.netmask → other.dest = route.dest →
    route.adminDist < other.adminDist ∨
      (route.adminDist = other.adminDist ∧ route.metric ≤ other.metric)

variable (ordered : Ordered rt)
include ordered

lemma Ordered.bestMatch (best : rt.searchBest dest = some route) : BestMatch rt dest route := by
  have mem := mem_of_find?_eq_some best
  have passes := find?_some best
  rw [Bool.and_eq_true] at passes
  have least : ∀ other ∈ rt.routes, other.isValid rt.now = true → other.matchesAddr dest = true →
      routeKey route ≤ routeKey other := by
    intro other otherMem valid matching
    exact ordered.sorted.find?_le best otherMem (by rw [valid, matching]; rfl)
  refine ⟨mem, passes.1, passes.2, ?_, ?_⟩
  · intro other otherMem valid matching
    exact IPv4Address.getNetmaskLength_le (ordered.proper other otherMem).valid
      (ordered.proper route mem).valid
      (netmask_le_of_routeKey_le (least other otherMem valid matching))
  · intro other otherMem valid matching mask dest
    exact (routeKey_le_iff_of_sameKind mask.symm dest.symm).mp (least other otherMem valid matching)

lemma Ordered.of_sublist (sub : rt'.routes.Sublist rt.routes) :
    Ordered rt' where
  sorted := ordered.sorted.sublist sub
  proper route mem := ordered.proper route (sub.subset mem)

lemma Ordered.insertRoute (proper : ProperPrefix en) : Ordered (rt.insertRoute en) := by
  constructor
  · rw [insertRoute_routes]
    exact ordered.sorted.insertBy
  · intro route mem
    rw [insertRoute_routes, mem_insertBy] at mem
    rcases mem with rfl | mem
    · exact proper
    · exact ordered.proper route mem

lemma Ordered.removeRoute : Ordered (rt.removeRoute id) := by
  rw [RoutingTable.removeRoute]
  split
  · exact ordered.of_sublist eraseP_sublist
  · exact ordered

lemma Ordered.internalAddRoute (ok : rt.internalAddRoute en = .ok rt') : Ordered rt' := by
  obtain ⟨⟨valid, inside⟩, before, which, rfl⟩ := internalAddRoute_ok ok
  rcases which with rfl | ⟨old, rfl⟩
  · exact ordered.insertRoute ⟨valid, inside⟩
  · exact ordered.removeRoute.insertRoute ⟨valid, inside⟩

lemma Ordered.of_routes (same : rt'.routes = rt.routes) : Ordered rt' :=
  ordered.of_sublist (same ▸ List.Sublist.refl _)

/-- All interfaces with IPv4 data have valid netmasks. -/
def NetmasksValid (interfaces : List InterfaceEntry) : Prop :=
  ∀ ie ∈ interfaces, ∀ data, ie.ipv4Data = some data → data.netmask.isValidNetmask

lemma Ordered.addNetmaskRoute {ie : InterfaceEntry}
    (valid : ∀ data, ie.ipv4Data = some data → data.netmask.isValidNetmask) :
    Ordered (rt.addNetmaskRoute ie) := by
  rw [RoutingTable.addNetmaskRoute]
  split
  · rename_i data here
    split
    · have inserted : Ordered (rt.insertRoute (netmaskRoute rt.nextId ie data)) := by
        refine ordered.insertRoute ⟨valid data here, ?_⟩
        ext i
        simp only [netmaskRoute, BitVec.getElem_and, BitVec.getElem_not]
        cases data.inetAddr[i] <;> cases data.netmask[i] <;> simp
      exact inserted.of_routes rfl
    · exact ordered
  · exact ordered

lemma Ordered.updateNetmaskRoutes (valid : NetmasksValid rt.interfaces) :
    Ordered rt.updateNetmaskRoutes := by
  have deleted : Ordered { rt with
      routes := rt.routes.filter fun route => route.sourceType ≠ .IFACENETMASK } :=
    ordered.of_sublist filter_sublist
  have folded : ∀ (ies : List InterfaceEntry) (start : RoutingTable), Ordered start →
      NetmasksValid ies → Ordered (ies.foldl RoutingTable.addNetmaskRoute start) := by
    intro ies
    induction ies with
    | nil => exact fun _ startOrdered _ => startOrdered
    | cons ie ies ih =>
      intro start startOrdered iesValid
      exact ih _ (startOrdered.addNetmaskRoute (iesValid ie mem_cons_self))
        fun other mem => iesValid other (mem_cons_of_mem ie mem)
  exact (folded rt.interfaces _ deleted valid).of_routes rfl

/-! ## Changes of stored routes -/

omit ordered in
lemma internalRemoveRoute_replaceRoute (distinct : Distinct rt) (c : IPv4Route.Change) :
    ((rt.replaceRoute id c).internalRemoveRoute id).routes =
      (rt.internalRemoveRoute id).routes := by
  have nodup := distinct.nodup
  simp only [internalRemoveRoute, replaceRoute]
  generalize rt.routes = routes at nodup
  induction routes with
  | nil => rfl
  | cons first routes ih =>
    rw [map_cons, nodup_cons] at nodup
    rw [map_cons]
    by_cases same : first.id = id
    · have rest : routes.map (fun r : IPv4Route => if r.id = id then c.apply r else r) =
          routes := by
        refine (map_congr_left ?_).trans (map_id routes)
        intro r mem
        have ne : r.id ≠ id := by
          intro eq
          exact nodup.1 (same.trans eq.symm ▸ mem_map_of_mem mem)
        rw [if_neg ne]
        rfl
      rw [if_pos same, eraseP_cons_of_pos (by simp [Change.apply_id, same]), rest,
        eraseP_cons_of_pos (by simpa using same)]
    · rw [if_neg same, eraseP_cons_of_neg (by simpa using same),
        eraseP_cons_of_neg (by simpa using same), ih nodup.2]

/-- The new administrative distance leaves the route where it is among the routes with the same
destination and netmask. -/
def KeepsPlace (rt : RoutingTable) (id adminDist : ℕ) : Prop :=
  ∀ pre route post, rt.routes = pre ++ route :: post → route.id = id →
    (∀ other ∈ pre, other.netmask = route.netmask → other.dest = route.dest →
      other.adminDist < adminDist ∨ (other.adminDist = adminDist ∧ other.metric ≤ route.metric)) ∧
    ∀ other ∈ post, other.netmask = route.netmask → other.dest = route.dest →
      adminDist < other.adminDist ∨ (adminDist = other.adminDist ∧ route.metric ≤ other.metric)

lemma Ordered.replace_adminDist (distinct : Distinct rt) (mem : route ∈ rt.routes) {adminDist : ℕ}
    (keeps : KeepsPlace rt route.id adminDist) :
    Ordered (rt.replaceRoute route.id (.adminDist adminDist)) := by
  obtain ⟨pre, post, split⟩ := append_of_mem mem
  obtain ⟨before, after⟩ := keeps pre route post split rfl
  have routes : (rt.replaceRoute route.id (.adminDist adminDist)).routes =
      pre ++ { route with adminDist := adminDist } :: post := by
    have nodup := distinct.nodup
    rw [split] at nodup
    rw [replaceRoute]
    rw [split]
    exact map_replace nodup fun r => IPv4Route.Change.apply r (.adminDist adminDist)
  have sorted := ordered.sorted
  rw [split, SortedBy, pairwise_append, pairwise_cons] at sorted
  obtain ⟨preSorted, ⟨routePost, postSorted⟩, across⟩ := sorted
  constructor
  · rw [routes, SortedBy, pairwise_append, pairwise_cons]
    refine ⟨preSorted, ⟨?_, postSorted⟩, ?_⟩
    · intro other otherMem
      by_cases same : route.netmask = other.netmask ∧ route.dest = other.dest
      · exact (@routeKey_le_iff_of_sameKind { route with adminDist := adminDist } other
          same.1 same.2).mpr (after other otherMem same.1.symm same.2.symm)
      · exact routeKey_le_of_prefix_ne same ⟨rfl, rfl⟩ ⟨rfl, rfl⟩ (routePost other otherMem)
    · intro other otherMem next nextMem
      rcases mem_cons.mp nextMem with rfl | nextMem
      · have le := across other otherMem route mem_cons_self
        by_cases same : other.netmask = route.netmask ∧ other.dest = route.dest
        · exact (@routeKey_le_iff_of_sameKind other { route with adminDist := adminDist }
            same.1 same.2).mpr (before other otherMem same.1 same.2)
        · exact routeKey_le_of_prefix_ne same ⟨rfl, rfl⟩ ⟨rfl, rfl⟩ le
      · exact across other otherMem next (mem_cons_of_mem route nextMem)
  · intro other otherMem
    rw [routes] at otherMem
    have routeProper := ordered.proper route mem
    rcases mem_append.mp otherMem with otherMem | otherMem
    · exact ordered.proper other (split ▸ mem_append_left _ otherMem)
    · rcases mem_cons.mp otherMem with rfl | otherMem
      · exact ⟨routeProper.valid, routeProper.inside⟩
      · exact ordered.proper other (split ▸ mem_append_right _ (mem_cons_of_mem _ otherMem))

lemma Ordered.replace_key {c : IPv4Route.Change} (same : ∀ r, routeKey (c.apply r) = routeKey r ∧
      (c.apply r).netmask = r.netmask ∧ (c.apply r).dest = r.dest) :
    Ordered (rt.replaceRoute id c) := by
  constructor
  · have key : ∀ r : IPv4Route, routeKey (if r.id = id then c.apply r else r) = routeKey r := by
      intro r
      split
      · exact (same r).1
      · rfl
    refine SortedBy.map (ordered.sorted.imp ?_)
    intro a b le
    rw [key, key]
    exact le
  · intro changed changedMem
    obtain ⟨old, oldMem, rfl⟩ := mem_map.mp changedMem
    have proper := ordered.proper old oldMem
    split
    · obtain ⟨-, mask, dest⟩ := same old
      exact ⟨mask ▸ proper.valid, mask ▸ dest ▸ proper.inside⟩
    · exact proper

lemma Ordered.setField {c : IPv4Route.Change} (distinct : Distinct rt)
    (keeps : ∀ adminDist, c = .adminDist adminDist → KeepsPlace rt id adminDist)
    (ok : rt.setField id c = .ok rt') : Ordered rt' := by
  rw [RoutingTable.setField] at ok
  split at ok
  · cases ok
    exact ordered
  · rename_i route found
    have mem := mem_of_find?_eq_some found
    have same : route.id = id := by simpa using find?_some found
    split at ok
    · cases ok
      exact ordered
    · rw [routeChanged] at ok
      split at ok
      · -- the route is sorted in again among the others
        split at ok
        · cases ok
        · rename_i en _
          cases added : ((rt.replaceRoute id c).internalRemoveRoute id).internalAddRoute en with
          | error e =>
            rw [added] at ok
            cases ok
          | ok inserted =>
            rw [added] at ok
            cases ok
            have removed : Ordered ((rt.replaceRoute id c).internalRemoveRoute id) := by
              apply ordered.of_sublist
              rw [internalRemoveRoute_replaceRoute distinct c]
              exact eraseP_sublist
            exact (removed.internalAddRoute added).of_routes rfl
      · rename_i field
        cases ok
        cases c with
        | dest value | netmask value | metric value =>
          exact absurd (by simp [IPv4Route.Change.fieldCode]) field
        | adminDist value =>
          subst same
          exact ordered.replace_adminDist distinct mem (keeps value rfl)
        | gateway value | interfacePtr value | sourceType value =>
          exact ordered.replace_key fun _ => ⟨rfl, ⟨rfl, rfl⟩⟩

/-! ## Runs -/

/-- The order survives the event: a new administrative distance leaves its route in place, and
routes are made from valid netmasks only. -/
def KeepsOrder (rt : RoutingTable) : Event → Prop
  | .setField id (.adminDist adminDist) => KeepsPlace rt id adminDist
  | .updateNetmaskRoutes => NetmasksValid rt.interfaces
  | .addInterface entry => NetmasksValid (rt.interfaces ++ [entry])
  | .interfaceChanged .ipv4Config entry =>
      NetmasksValid (rt.interfaces.map fun ie : InterfaceEntry =>
        if ie.interfaceId = entry.interfaceId then entry else ie)
  | _ => True

lemma Ordered.findBestMatchingRoute {answer : RoutingTable × Option IPv4Route}
    (consistent : Consistent rt)
    (ok : rt.findBestMatchingRoute dest = .ok answer) : Ordered answer.1 := by
  obtain ⟨after, found, same | searched⟩ := findBestMatchingRoute_eq consistent dest
  · rw [found] at ok
    cases ok
    exact ordered.of_routes (by rw [same])
  · rw [found] at ok
    cases ok
    exact ordered.of_routes (by rw [searched]; rfl)

lemma Ordered.step {event : Event} (consistent : Consistent rt) (keeps : KeepsOrder rt event)
    (ok : rt.step event = .ok rt') : Ordered rt' := by
  cases event with
  | addRoute en =>
    rw [RoutingTable.step, addRoute] at ok
    cases added : { rt with nextId := rt.nextId + 1 }.internalAddRoute
      { en with id := rt.nextId } with
    | error e =>
      rw [added] at ok
      cases ok
    | ok inserted =>
      rw [added] at ok
      cases ok
      have raised : Ordered { rt with nextId := rt.nextId + 1 } := ordered.of_routes rfl
      exact (raised.internalAddRoute added).of_routes rfl
  | removeRoute id | deleteRoute id =>
    cases ok
    exact ordered.removeRoute
  | setField id c =>
    refine ordered.setField consistent.toDistinct ?_ ok
    rintro adminDist rfl
    exact keeps
  | purge =>
    cases ok
    rw [purge]
    split
    · exact ordered
    · exact ordered.of_sublist filter_sublist
  | updateNetmaskRoutes =>
    cases ok
    exact ordered.updateNetmaskRoutes keeps
  | multicastRoutes routes clears =>
    cases ok
    split <;> exact ordered.of_routes rfl
  | findBestMatchingRoute dest =>
    obtain ⟨answer, found, rfl⟩ := Except.map_eq_ok ok
    exact ordered.findBestMatchingRoute consistent found
  | isLocalAddress dest =>
    obtain ⟨answer, found, rfl⟩ := Except.map_eq_ok ok
    obtain ⟨addresses, same⟩ := isLocalAddress_table found
    exact ordered.of_routes (by rw [same])
  | isLocalBroadcastAddress dest =>
    obtain ⟨answer, found, rfl⟩ := Except.map_eq_ok ok
    obtain ⟨addresses, same⟩ := isLocalBroadcastAddress_table found
    exact ordered.of_routes (by rw [same])
  | addInterface en =>
    cases ok
    have more : Ordered { rt with interfaces := rt.interfaces ++ [en] } :=
      ordered.of_routes rfl
    exact more.updateNetmaskRoutes keeps
  | deleteInterface en =>
    cases ok
    simp only [deleteInterface, receiveChangeNotification, Bool.false_eq_true, if_false,
      deleteInterfaceRoutes]
    split <;> exact ordered.of_sublist filter_sublist
  | interfaceChanged c en =>
    cases ok
    cases c with
    | state | config => exact ordered.of_routes rfl
    | ipv4Config =>
      have changed : Ordered { rt with interfaces := rt.interfaces.map fun ie : InterfaceEntry =>
          if ie.interfaceId = en.interfaceId then en else ie } := ordered.of_routes rfl
      exact changed.updateNetmaskRoutes keeps
  | elapse duration =>
    cases ok
    exact ordered.of_routes rfl

omit ordered

lemma Ordered.of_reached (reached : Reached KeepsOrder rt) : Ordered rt := by
  induction reached with
  | initial interfaces now => exact ⟨SortedBy.nil, nofun⟩
  | step before keeps ok ih => exact ih.step (Consistent.of_reached before) keeps ok

/-- In every state of a run whose events meet `KeepsOrder` the vector is sorted, and each lookup
answers with the best match, or with `NULL` if no valid route matches. -/
theorem selection_of_reached (reached : Reached KeepsOrder rt) :
    (rt.routes.Pairwise fun a b => ¬ routeLessThan b a) ∧
      ∀ dest, ∃ after answer, rt.findBestMatchingRoute dest = .ok (after, answer) ∧
        match answer with
        | some route => BestMatch rt dest route
        | none => ∀ route ∈ rt.routes, route.isValid rt.now = true →
            route.matchesAddr dest = false := by
  have ordered := Ordered.of_reached reached
  refine ⟨ordered.sorted.imp routeKey_le_iff.mp, ?_⟩
  intro dest
  obtain ⟨after, found, -⟩ := findBestMatchingRoute_eq (Consistent.of_reached reached) dest
  refine ⟨after, rt.searchBest dest, found, ?_⟩
  cases best : rt.searchBest dest with
  | some route => exact ordered.bestMatch best
  | none =>
    intro route mem valid
    have fails := find?_eq_none.mp best route mem
    rw [valid, Bool.true_and, Bool.not_eq_true] at fails
    exact fails

end

/-- A route to 10.0.0.0/8. -/
def prefixRoute (adminDist : ℕ) : IPv4Route where
  id := 0
  dest := 0x0A000000
  netmask := 0xFF000000
  gateway := 0
  interfacePtr := some 1
  sourceType := .MANUAL
  adminDist := adminDist
  metric := 0
  expiryTime := 0

/-- The first route of the two is given an administrative distance. -/
def afterSetAdminDist (adminDist : ℕ) : RoutingTable where
  routes := [{ prefixRoute adminDist with id := 0 }, { prefixRoute 5 with id := 1 }]
  multicastRoutes := []
  routingCache := fun _ => none
  localAddresses := []
  localBroadcastAddresses := []
  interfaces := []
  now := 0
  nextId := 2

lemma afterSetAdminDist_reached {condition : RoutingTable → Event → Prop} (adminDist : ℕ)
    (ne : adminDist ≠ 1) (adds : ∀ rt en, condition rt (.addRoute en))
    (set : condition (afterSetAdminDist 1) (.setField 0 (.adminDist adminDist))) :
    Reached condition (afterSetAdminDist adminDist) := by
  have first := @Reached.step condition _ _ (.addRoute (prefixRoute 1)) (.initial [] 0)
    (adds _ _) rfl
  have second := @Reached.step condition _ (afterSetAdminDist 1) (.addRoute (prefixRoute 5)) first
    (adds _ _) rfl
  refine @Reached.step condition _ _ (.setField 0 (.adminDist adminDist)) second set ?_
  have changes : IPv4Route.Change.apply { prefixRoute 1 with id := 0 } (.adminDist adminDist) ≠
      { prefixRoute 1 with id := 0 } := by
    intro eq
    exact ne (congrArg IPv4Route.adminDist eq)
  have found : (afterSetAdminDist 1).routes.find? (fun route => route.id = 0) =
      some { prefixRoute 1 with id := 0 } := rfl
  rw [step, RoutingTable.setField, found]
  dsimp only
  rw [if_neg changes]
  rfl

/-- Administrative distance 3 keeps the first route in front of the other one. -/
theorem selection_of_reached_afterSetAdminDist :
    ((afterSetAdminDist 3).routes.Pairwise fun a b => ¬ routeLessThan b a) ∧
      ∀ dest, ∃ after answer,
        (afterSetAdminDist 3).findBestMatchingRoute dest = .ok (after, answer) ∧
        match answer with
        | some route => BestMatch (afterSetAdminDist 3) dest route
        | none => ∀ route ∈ (afterSetAdminDist 3).routes,
            route.isValid (afterSetAdminDist 3).now = true → route.matchesAddr dest = false := by
  refine selection_of_reached (afterSetAdminDist_reached 3 (by decide) (fun _ _ => trivial) ?_)
  intro pre route post split same
  cases pre with
  | nil =>
    cases split
    exact ⟨nofun, by decide⟩
  | cons first pre =>
    cases pre with
    | nil =>
      cases split
      cases same
    | cons second pre => cases pre <;> cases split

/-- Administrative distance 10 makes the first route the worse one, and it is still the one that a
lookup returns. -/
theorem findBestMatchingRoute_notLeast :
    ∃ rt, Reached (fun _ _ => True) rt ∧ (¬ rt.routes.Pairwise fun a b => ¬ routeLessThan b a) ∧
      ∃ after route, rt.findBestMatchingRoute 0x0A000001 = .ok (after, some route) ∧
        ¬ BestMatch rt 0x0A000001 route := by
  refine ⟨afterSetAdminDist 10, afterSetAdminDist_reached 10 (by decide) (fun _ _ => trivial) trivial,
    by decide, _, { prefixRoute 10 with id := 0 }, rfl, ?_⟩
  intro best
  exact absurd (best.least { prefixRoute 5 with id := 1 } (by decide) rfl rfl rfl rfl) (by decide)

end RoutingTable

end Inet.Ipv4
