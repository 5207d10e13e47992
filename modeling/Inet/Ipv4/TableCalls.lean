import Inet.Ipv4.RouteSelection
import Mathlib.Data.List.TakeWhile

/-!
# What a call of the routing table does to the routes

The routes after one has been deleted, added or changed, and how such a call can fail.
-/

namespace Inet.Ipv4.RoutingTable

open List

variable {rt rt' : RoutingTable} {id : ℕ} {route en : IPv4Route} {change : IPv4Route.Change}

/-- The default route that goes when a route with the netmask is added. -/
def replacedDefault (rt : RoutingTable) (netmask : IPv4Address) : Option IPv4Route :=
  if netmask.isUnspecified then rt.getDefaultRoute else none

/-- The default route that goes when a setter takes out the route and adds it again. -/
def readdedDefault (rt : RoutingTable) (id : ℕ) (change : IPv4Route.Change) : Option IPv4Route :=
  match rt.routes.find? fun route => route.id = id with
  | none => none
  | some route =>
      let readded := change.fieldCode = .F_DESTINATION ∨ change.fieldCode = .F_NETMASK ∨
        change.fieldCode = .F_METRIC
      if change.apply route ≠ route ∧ readded then
        (rt.internalRemoveRoute id).replacedDefault (change.apply route).netmask
      else none

lemma removeRoute_routes (rt : RoutingTable) (id : ℕ) :
    (rt.removeRoute id).routes = rt.routes.eraseP fun route => route.id = id := by
  rw [removeRoute]
  split_ifs with found
  · rfl
  · refine (eraseP_of_forall_not fun route mem here => found ?_).symm
    exact any_eq_true.mpr ⟨route, mem, here⟩

lemma mem_removeRoute (distinct : Distinct rt) :
    route ∈ (rt.removeRoute id).routes ↔ route ∈ rt.routes ∧ route.id ≠ id := by
  rw [removeRoute_routes]
  constructor
  · intro mem
    exact ⟨mem_of_mem_eraseP mem, distinct.erase_ne route mem⟩
  · rintro ⟨mem, other⟩
    exact (mem_eraseP_of_neg (by simpa using other)).mpr mem

lemma replacedDefault_mem {netmask : IPv4Address} {old : IPv4Route}
    (replaced : rt.replacedDefault netmask = some old) :
    old ∈ rt.routes ∧ netmask = 0 ∧ old.netmask = 0 := by
  rw [replacedDefault] at replaced
  split_ifs at replaced with empty
  have inBack := mem_of_find?_eq_some replaced
  refine ⟨mem_reverse.mp ((takeWhile_sublist _).subset inBack), empty, ?_⟩
  have mask := mem_takeWhile_imp inBack
  exact of_decide_eq_true mask

lemma internalAddRoute_mem (distinct : Distinct rt) (ok : rt.internalAddRoute en = .ok rt') :
    en.dest &&& ~~~en.netmask = 0 ∧ rt'.nextId = rt.nextId ∧
      ∀ route, route ∈ rt'.routes ↔ route = en ∨ (route ∈ rt.routes ∧
        ∀ old, rt.replacedDefault en.netmask = some old → route.id ≠ old.id) := by
  simp only [internalAddRoute] at ok
  split_ifs at ok with mask zero outside null default <;> cases ok
  · refine ⟨not_not.mp outside, ?_, fun route => ?_⟩
    · cases rt.getDefaultRoute with
      | none => rfl
      | some old => exact removeRoute_nextId
    · rw [insertRoute, mem_orderedInsert, replacedDefault, if_pos default]
      cases rt.getDefaultRoute with
      | none => simp
      | some old =>
        change route = en ∨ route ∈ (rt.removeRoute old.id).routes ↔ _
        rw [mem_removeRoute distinct]
        simp
  · refine ⟨not_not.mp outside, rfl, fun route => ?_⟩
    rw [insertRoute, mem_orderedInsert, replacedDefault, if_neg default]
    simp

variable {e : SimError}

lemma internalAddRoute_error (failed : rt.internalAddRoute en = .error e) :
    ∃ text, e = .runtimeError text := by
  simp only [internalAddRoute] at failed
  split_ifs at failed <;> cases failed <;> exact ⟨_, rfl⟩

lemma addRoute_mem (distinct : Distinct rt) (ok : rt.addRoute en = .ok rt') :
    en.dest &&& ~~~en.netmask = 0 ∧ rt'.nextId = rt.nextId + 1 ∧ Distinct rt' ∧
      ∀ route, route ∈ rt'.routes ↔ route = { en with id := rt.nextId } ∨ (route ∈ rt.routes ∧
        ∀ old, rt.replacedDefault en.netmask = some old → route.id ≠ old.id) := by
  rw [addRoute] at ok
  cases added : ({ rt with nextId := rt.nextId + 1 } : RoutingTable).internalAddRoute
      { en with id := rt.nextId } with
  | error e =>
    rw [added] at ok
    cases ok
  | ok inserted =>
    rw [added] at ok
    cases ok
    have raised : Distinct { rt with nextId := rt.nextId + 1 } :=
      distinct.of_sublist (List.Sublist.refl _) (Nat.le_succ _)
    obtain ⟨proper, next, mem⟩ := internalAddRoute_mem raised added
    have kept : Distinct inserted :=
      raised.internalAddRoute added (fun r mem => (distinct.fresh r mem).ne) (Nat.lt_succ_self _)
    exact ⟨proper, next, ⟨kept.nodup, kept.fresh⟩, mem⟩

lemma addRoute_error (failed : rt.addRoute en = .error e) : ∃ text, e = .runtimeError text := by
  rw [addRoute] at failed
  cases added : ({ rt with nextId := rt.nextId + 1 } : RoutingTable).internalAddRoute
      { en with id := rt.nextId } with
  | error e' =>
    rw [added] at failed
    cases failed
    exact internalAddRoute_error added
  | ok inserted =>
    rw [added] at failed
    cases failed

/-! ## Changes -/

/-- What a setter leaves of the other routes, and what becomes of the one it is called for. -/
structure SetField (rt : RoutingTable) (id : ℕ) (change : IPv4Route.Change) (rt' : RoutingTable) :
    Prop where
  distinct : Distinct rt'
  nextId : rt'.nextId = rt.nextId
  back : ∀ route ∈ rt'.routes, (route.id ≠ id ∧ route ∈ rt.routes) ∨
    ∃ old ∈ rt.routes, old.id = id ∧ route = change.apply old
  kept : ∀ route ∈ rt.routes, route.id ≠ id →
    (∀ old, rt.readdedDefault id change = some old → route.id ≠ old.id) → route ∈ rt'.routes
  changed : ∀ route ∈ rt.routes, route.id = id → change.apply route ∈ rt'.routes
  gone : ∀ old, rt.readdedDefault id change = some old → old ∈ rt.routes ∧ old.id ≠ id ∧
    ∀ route ∈ rt'.routes, route.id ≠ old.id

lemma mem_replaceRoute : route ∈ (rt.replaceRoute id change).routes ↔
    ∃ old ∈ rt.routes, route = if old.id = id then change.apply old else old := by
  rw [replaceRoute, mem_map]
  exact exists_congr fun old => and_congr_right fun _ => eq_comm

lemma setField_mem (distinct : Distinct rt) (ok : rt.setField id change = .ok rt') :
    SetField rt id change rt' := by
  rw [setField] at ok
  cases found : rt.routes.find? fun route => route.id = id with
  | none =>
    rw [found] at ok
    cases ok
    have absent := find?_eq_none.mp found
    refine ⟨distinct, rfl, fun route mem => ?_, fun route mem _ _ => mem, fun route mem here => ?_,
      fun old readded => ?_⟩
    · exact .inl ⟨by simpa using absent route mem, mem⟩
    · exact absurd here (by simpa using absent route mem)
    · rw [readdedDefault, found] at readded
      cases readded
  | some here =>
    have hereMem := mem_of_find?_eq_some found
    have hereId : here.id = id := by simpa using find?_some found
    have only {route : IPv4Route} (mem : route ∈ rt.routes) (eq : route.id = id) : route = here :=
      inj_on_of_nodup_map distinct.nodup mem hereMem (eq.trans hereId.symm)
    rw [found] at ok
    dsimp only at ok
    split_ifs at ok with same
    · cases ok
      refine ⟨distinct, rfl, fun route mem => ?_, fun route mem _ _ => mem, fun route mem eq => ?_,
        fun old readded => ?_⟩
      · by_cases eq : route.id = id
        · refine .inr ⟨here, hereMem, hereId, ?_⟩
          rw [same, only mem eq]
        · exact .inl ⟨eq, mem⟩
      · rw [only mem eq, same]
        exact hereMem
      · rw [readdedDefault, found] at readded
        dsimp only at readded
        rw [if_neg (fun both => both.1 same)] at readded
        cases readded
    · have replaced : Distinct (rt.replaceRoute id change) := distinct.replaceRoute change
      have back : ∀ route ∈ (rt.replaceRoute id change).routes,
          (route.id ≠ id ∧ route ∈ rt.routes) ∨
            ∃ old ∈ rt.routes, old.id = id ∧ route = change.apply old := by
        intro route mem
        obtain ⟨old, oldMem, rfl⟩ := mem_replaceRoute.mp mem
        split_ifs with eq
        · exact .inr ⟨old, oldMem, eq, rfl⟩
        · exact .inl ⟨eq, oldMem⟩
      have kept : ∀ route ∈ rt.routes, route.id ≠ id →
          route ∈ (rt.replaceRoute id change).routes := fun route mem other =>
        mem_replaceRoute.mpr ⟨route, mem, (if_neg other).symm⟩
      have changed : ∀ route ∈ rt.routes, route.id = id →
          change.apply route ∈ (rt.replaceRoute id change).routes := fun route mem eq =>
        mem_replaceRoute.mpr ⟨route, mem, (if_pos eq).symm⟩
      rw [routeChanged] at ok
      split_ifs at ok with field
      · -- the changed route is taken out and added again
        have entryMem := changed here hereMem hereId
        have foundNew : (rt.replaceRoute id change).routes.find? (fun route => route.id = id) =
            some (change.apply here) := by
          have eq := replaced.find? entryMem
          rwa [Change.apply_id, hereId] at eq
        rw [foundNew] at ok
        dsimp only at ok
        have removed : Distinct ((rt.replaceRoute id change).internalRemoveRoute id) :=
          replaced.of_sublist eraseP_sublist le_rfl
        cases added : ((rt.replaceRoute id change).internalRemoveRoute id).internalAddRoute
            (change.apply here) with
        | error e =>
          rw [added] at ok
          cases ok
        | ok inserted =>
          rw [added] at ok
          cases ok
          obtain ⟨-, next, mem⟩ := internalAddRoute_mem removed added
          have memRemoved {route : IPv4Route} :
              route ∈ ((rt.replaceRoute id change).internalRemoveRoute id).routes ↔
                route ∈ rt.routes ∧ route.id ≠ id := by
            rw [internalRemoveRoute_replaceRoute distinct change]
            have eq := removeRoute_routes rt id
            rw [← mem_removeRoute distinct, eq]
            rfl
          have sameDefault : rt.readdedDefault id change =
              ((rt.replaceRoute id change).internalRemoveRoute id).replacedDefault
                (change.apply here).netmask := by
            rw [readdedDefault, found]
            dsimp only
            rw [if_pos ⟨same, field⟩, replacedDefault, replacedDefault, getDefaultRoute,
              getDefaultRoute, internalRemoveRoute_replaceRoute distinct change]
            rfl
          have unchanged : Distinct inserted := by
            refine removed.internalAddRoute added (fun r mem => ?_) ?_
            · rw [Change.apply_id, hereId]
              exact (memRemoved.mp mem).2
            · rw [Change.apply_id]
              exact distinct.fresh here hereMem
          refine ⟨⟨unchanged.nodup, unchanged.fresh⟩, next, fun route routeMem => ?_,
            fun route routeMem other clear => ?_, fun route routeMem eq => ?_,
            fun old readded => ?_⟩
          · rcases (mem route).mp routeMem with rfl | ⟨old, -⟩
            · exact .inr ⟨here, hereMem, hereId, rfl⟩
            · obtain ⟨old, other⟩ := memRemoved.mp old
              exact .inl ⟨other, old⟩
          · refine (mem route).mpr (.inr ⟨memRemoved.mpr ⟨routeMem, other⟩, ?_⟩)
            rwa [sameDefault] at clear
          · rw [only routeMem eq]
            exact (mem _).mpr (.inl rfl)
          · rw [sameDefault] at readded
            obtain ⟨oldMem, otherId⟩ := memRemoved.mp (replacedDefault_mem readded).1
            refine ⟨oldMem, otherId, fun route routeMem => ?_⟩
            rcases (mem route).mp routeMem with rfl | ⟨-, clear⟩
            · rw [Change.apply_id, hereId]
              exact otherId.symm
            · exact clear old readded
      · cases ok
        refine ⟨replaced, rfl, back, fun route mem other _ => kept route mem other, changed,
          fun old readded => ?_⟩
        rw [readdedDefault, found] at readded
        dsimp only at readded
        rw [if_neg (fun both => field both.2)] at readded
        cases readded

lemma setField_error (distinct : Distinct rt)
    (failed : rt.setField id change = .error e) : ∃ text, e = .runtimeError text := by
  rw [setField] at failed
  cases found : rt.routes.find? fun route => route.id = id with
  | none =>
    rw [found] at failed
    cases failed
  | some here =>
    have hereMem := mem_of_find?_eq_some found
    have hereId : here.id = id := by simpa using find?_some found
    rw [found] at failed
    dsimp only at failed
    split_ifs at failed
    rw [routeChanged] at failed
    split_ifs at failed
    have entryMem : change.apply here ∈ (rt.replaceRoute id change).routes :=
      mem_replaceRoute.mpr ⟨here, hereMem, (if_pos hereId).symm⟩
    have foundNew := (distinct.replaceRoute change).find? entryMem
    rw [Change.apply_id, hereId] at foundNew
    rw [foundNew] at failed
    dsimp only at failed
    cases added : ((rt.replaceRoute id change).internalRemoveRoute id).internalAddRoute
        (change.apply here) with
    | error e' =>
      rw [added] at failed
      cases failed
      exact internalAddRoute_error added
    | ok inserted =>
      rw [added] at failed
      cases failed

lemma deleteInterface_routes (rt : RoutingTable) (ie : ℕ) :
    (rt.deleteInterface ie).routes = rt.routes.filter fun route => route.interfacePtr ≠ some ie := by
  change (rt.deleteInterfaceRoutes ie).routes = _
  rw [deleteInterfaceRoutes]
  split_ifs <;> rfl

lemma deleteInterface_nextId (rt : RoutingTable) (ie : ℕ) :
    (rt.deleteInterface ie).nextId = rt.nextId := by
  change (rt.deleteInterfaceRoutes ie).nextId = _
  rw [deleteInterfaceRoutes]
  split_ifs <;> rfl

lemma collectInterfaces_error {interfaces : List InterfaceEntry}
    {address : IPv4InterfaceData → Option IPv4Address}
    (failed : collectInterfaces interfaces address = .error e) : e = .nullPointer := by
  induction interfaces with
  | nil => cases failed
  | cons ie rest ih =>
    rw [collectInterfaces] at failed
    split at failed
    · cases failed
      rfl
    · split at failed
      · rename_i collected
        cases failed
        exact ih collected
      · cases failed

lemma isLocalAddress_error {dest : IPv4Address}
    (failed : rt.isLocalAddress dest = .error e) : e = .nullPointer := by
  rw [isLocalAddress] at failed
  split at failed
  · split at failed
    · rename_i collected
      cases failed
      exact collectInterfaces_error collected
    · cases failed
  · cases failed

end Inet.Ipv4.RoutingTable
