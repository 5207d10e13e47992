import Inet.Rip.TableRuns
import Inet.Rip.Tracking

/-!
# What a step does to a learned route that is followed

A route that is valid or waits to be announced stays so, for predicates that are `Robust`.
-/

namespace Inet.Rip

open Ipv4 List
open Ipv4.RoutingTable

variable {S : Set ℕ} {P : RIPRoute → Prop} {st st' : RIPRouting} {r : RIPRoute}
  {route en : IPv4Route} {key : IPv4Address × ℤ}

/-- What is followed does not end when the route is lost. -/
structure Robust (P : RIPRoute → Prop) : Prop where
  touch : ∀ r now, P r → P { r with lastUpdateTime := now }
  closed : Keeps.Closed P
  lost : ∀ r, P r → P { r with metric := RIP_INFINITE_METRIC, changed := true }

/-- Lost, and still to be announced. -/
structure Pending (key : IPv4Address × ℤ) (r : RIPRoute) : Prop where
  type : r.type = .RIP_ROUTE_RTE
  key : r.key = key
  metric : r.metric = RIP_INFINITE_METRIC
  changed : r.changed = true

/-- Valid, or still to be announced. -/
structure Alert (key : IPv4Address × ℤ) (r : RIPRoute) : Prop where
  type : r.type = .RIP_ROUTE_RTE
  key : r.key = key
  changed : r.metric < RIP_INFINITE_METRIC ∨ r.metric = RIP_INFINITE_METRIC ∧ r.changed = true

lemma robust_pending : Robust (Pending key) where
  touch := fun _ _ held => ⟨held.type, held.key, held.metric, held.changed⟩
  closed := fun _ held =>
    ⟨⟨held.type, held.key, held.metric, held.changed⟩, held.type, held.key, rfl, rfl⟩
  lost := fun _ held => ⟨held.type, held.key, rfl, rfl⟩

lemma robust_alert : Robust (Alert key) where
  touch := fun _ _ held => ⟨held.type, held.key, held.changed⟩
  closed := fun _ held => ⟨⟨held.type, held.key, held.changed⟩, held.type, held.key, .inr ⟨rfl, rfl⟩⟩
  lost := fun _ held => ⟨held.type, held.key, .inr ⟨rfl, rfl⟩⟩

lemma robust_false : Robust fun _ => False :=
  ⟨fun _ _ held => held, fun _ held => held.elim, fun _ held => held⟩

/-! ## Responses -/

/-- What is followed holds again at the end of an update of the route. -/
def Updatable (P : RIPRoute → Prop) : Prop :=
  ∃ Q : RIPRoute → Prop, Keeps.Free Q ∧ (∀ r, Q r → r.type = .RIP_ROUTE_RTE) ∧
    (∀ r, P r → Q r) ∧ ∀ r, Q r → r.changed = true → P r

lemma updatable_alert : Updatable (Alert key) := by
  refine ⟨fun r => r.type = .RIP_ROUTE_RTE ∧ r.key = key ∧ r.metric ≤ RIP_INFINITE_METRIC,
    fun r r' _ sameKey type metric held => ?_, fun r held => held.1, fun r held => ?_,
    fun r held changed => ?_⟩
  · exact ⟨type held.1, sameKey.trans held.2.1, metric held.2.2⟩
  · refine ⟨held.type, held.key, ?_⟩
    rcases held.changed with valid | ⟨infinite, -⟩
    · exact valid.le
    · exact infinite.le
  · refine ⟨held.1, held.2.1, ?_⟩
    rcases held.2.2.lt_or_eq with valid | infinite
    · exact .inl valid
    · exact .inr ⟨infinite, changed⟩

section

variable {ie metric routeTag : ℕ} {nextHop fromAddr srcAddr : IPv4Address}
  {incomingIe : RIPInterfaceEntry}

lemma updateRoute_keeps (keeps : Keeps S P st) (one : S.Subsingleton)
    (own : r.id ∈ S → Updatable P) (le : metric ≤ RIP_INFINITE_METRIC) :
    EndsIn (fun _ => True) (Keeps S P)
      (st.updateRoute r ie nextHop metric routeTag fromAddr) := by
  by_cases here : r.id ∈ S
  · obtain ⟨Q, free, learned, weaken, recover⟩ := own here
    have weak : Keeps S Q st := keeps.mono subset_rfl (fun r _ => weaken r) learned
    refine (weak.updateRoute (fun _ => free) le).mono fun st' kept => ?_
    refine kept.mono subset_rfl (fun r' mem held => ?_) keeps.learned
    exact recover r' held.1 (held.2 (one mem here))
  · refine (keeps.updateRoute (fun mem => absurd mem here) le).mono fun st' kept => ?_
    exact kept.mono subset_rfl (fun r' _ held => held.1) keeps.learned

/-- The entry changes no route that is followed, or one that may be updated. -/
def EntryFollowed (P : RIPRoute → Prop) (incomingIe : RIPInterfaceEntry) (srcAddr : IPv4Address)
    (entry : RIPEntry) : Prop :=
  ∀ r, P r → r.key = (entry.address, entry.prefixLength) → ((r.fromAddr = srcAddr ∧
        r.metric ≠ min (entry.metric + incomingIe.metric) RIP_INFINITE_METRIC) ∨
      min (entry.metric + incomingIe.metric) RIP_INFINITE_METRIC < r.metric) → Updatable P

lemma processEntry_keeps (robust : Robust P) (keeps : Keeps S P st) (one : S.Subsingleton)
    {en : RIPEntry} (follows : EntryFollowed P incomingIe srcAddr en) :
    EndsIn (fun _ => True) (Keeps S P) (st.processEntry incomingIe srcAddr en) := by
  rw [RIPRouting.processEntry]
  generalize (if en.nextHop.isUnspecified then srcAddr else en.nextHop) = nextHop
  cases found : st.findRoute en.address en.prefixLength with
  | none =>
    split_ifs
    · exact keeps.addRoute
    · exact keeps
  | some r =>
    obtain ⟨mem, sameKey⟩ := findRoute_some found
    have touched : Keeps S P (st.modify r.id fun r => { r with lastUpdateTime := st.rt.now }) :=
      keeps.modify (fun _ => ⟨rfl, rfl, rfl⟩) fun _ r' held => robust.touch r' st.rt.now held
    dsimp only
    split_ifs with static update
    · exact keeps
    · exact updateRoute_keeps touched one
        (fun followed => follows r (keeps.of_mem mem followed) sameKey update) (min_le_right _ _)
    · exact updateRoute_keeps keeps one
        (fun followed => follows r (keeps.of_mem mem followed) sameKey update) (min_le_right _ _)
    · exact touched
    · exact keeps

lemma processEntries_keeps (robust : Robust P) (one : S.Subsingleton) {entries : List RIPEntry}
    (follows : ∀ en ∈ entries, EntryFollowed P incomingIe srcAddr en)
    (keeps : Keeps S P st) :
    EndsIn (fun _ => True) (Keeps S P)
      (RIPRouting.processEntries incomingIe srcAddr entries st) := by
  induction entries generalizing st with
  | nil => exact keeps
  | cons en rest ih =>
    exact EndsIn.bind (processEntry_keeps robust keeps one (follows en mem_cons_self)) fun st' =>
        ih fun other mem => follows other (mem_cons_of_mem _ mem)

lemma isValidResponse_keeps (keeps : Keeps S P st) (p : RIPPacket)
    (ctrlInfo : UDPDataIndication) :
    EndsIn (fun _ => True) (fun result => Keeps S P result.1 ∧
        result.1.ripInterfaces = st.ripInterfaces) (st.isValidResponse p ctrlInfo) := by
  rw [RIPRouting.isValidResponse]
  split_ifs
  · exact ⟨keeps, rfl⟩
  · dsimp only [bind, Except.bind, pure, Except.pure]
    cases local' : st.rt.isLocalAddress ctrlInfo.srcAddr with
    | error e => exact trivial
    | ok answer =>
      obtain ⟨addresses, eq⟩ := isLocalAddress_table local'
      have kept : Keeps S P { st with rt := answer.1 } := by
        rw [eq]
        exact keeps.of_subset ⟨keeps.distinct.nodup, keeps.distinct.fresh⟩ le_rfl
          (List.Subset.refl _)
      dsimp only
      split_ifs <;> exact ⟨kept, rfl⟩

lemma processResponse_keeps (robust : Robust P) (keeps : Keeps S P st) (one : S.Subsingleton)
    (p : RIPPacket) (ctrlInfo : UDPDataIndication)
    (follows : ∀ st' incomingIe, st.isValidResponse p ctrlInfo = .ok (st', true) →
      st.findInterfaceById ctrlInfo.interfaceId = some incomingIe → ∀ en ∈ p.entries,
      EntryFollowed P incomingIe ctrlInfo.srcAddr en) :
    EndsIn (fun _ => True) (Keeps S P) (st.processResponse p ctrlInfo) := by
  refine EndsIn.bind (isValidResponse_keeps keeps p ctrlInfo).self fun result spec => ?_
  obtain ⟨valid, isValid⟩ := result
  obtain ⟨⟨kept, interfaces⟩, run⟩ := spec
  cases isValid with
  | false => exact kept
  | true =>
    dsimp only
    have same : valid.findInterfaceById ctrlInfo.interfaceId =
        st.findInterfaceById ctrlInfo.interfaceId := congrArg (List.find? _) interfaces
    rw [same]
    cases found : st.findInterfaceById ctrlInfo.interfaceId with
    | none => exact kept
    | some incomingIe =>
      exact processEntries_keeps robust one (follows valid incomingIe run found) kept

end

lemma purgeRoute_sameClock (st : RIPRouting) (id : ℕ) : SameClock st (st.purgeRoute id) := by
  have cut : LastKept st (st.deleteRouteOf id) := deleteRouteOf_lastKept id
  exact ⟨cut.now, cut.routeExpiryTime, cut.routePurgeTime, cut.ripInterfaces⟩

section

variable {st₀ : RIPRouting} {ri : RIPInterfaceEntry} {changedOnly : Bool}

lemma sendLoop_keeps (robust : Robust P) {rs : List RIPRoute}
    (due : ∀ r ∈ rs, r.id ∈ S → st₀.expiry r ≠ .purged) (keeps : Keeps S P st)
    (same : SameClock st₀ st) :
    EndsIn (fun _ => True) (fun result => Keeps S P result.1 ∧ SameClock st₀ result.1)
      (RIPRouting.sendLoop ri changedOnly rs st) := by
  have invalidated {st : RIPRouting} (keeps : Keeps S P st) (k : ℕ) : Keeps S P (st.invalidateRoute k) :=
    keeps.invalidateRoute fun _ => ⟨robust.closed, robust.lost⟩
  induction rs, st using RIPRouting.sendLoop.induct with
  | case1 st => exact ⟨keeps, same⟩
  | case2 r st valid =>
    rw [RIPRouting.sendLoop, valid]
    exact ⟨keeps, same⟩
  | case3 r st expired =>
    rw [RIPRouting.sendLoop, expired]
    exact ⟨invalidated keeps r.id, same.trans (invalidateRoute_lastKept r.id).toSameClock⟩
  | case4 r st purged =>
    rw [RIPRouting.sendLoop, purged]
    exact trivial
  | case5 r next rest st valid ih =>
    rw [RIPRouting.sendLoop, valid]
    exact (ih (fun other mem => due other (mem_cons_of_mem _ mem)) keeps same).bind
      fun result spec => spec
  | case6 r next rest st expired ih =>
    rw [RIPRouting.sendLoop, expired]
    exact ih (fun other mem => due other (mem_cons_of_mem _ mem)) (invalidated keeps r.id)
      (same.trans (invalidateRoute_lastKept r.id).toSameClock)
  | case7 r next rest st purged ih =>
    rw [RIPRouting.sendLoop, purged]
    have other : r.id ∉ S := by
      intro followed
      rw [same.expiry_eq ⟨rfl, rfl, rfl⟩] at purged
      exact due r mem_cons_self followed purged
    exact ih (fun later mem => due later (mem_cons_of_mem _ (mem_cons_of_mem _ mem)))
      (keeps.purgeRoute other) (same.trans (purgeRoute_sameClock st r.id))

lemma sendRoutes_keeps (robust : Robust P) (keeps : Keeps S P st)
    (due : ∀ r ∈ st.ripRoutes, r.id ∈ S → st.expiry r ≠ .purged) (address : Option IPv4Address) :
    EndsIn (fun _ => True) (fun result => Keeps S P result.1)
      (st.sendRoutes address ri changedOnly) := by
  refine EndsIn.bind (sendLoop_keeps robust due keeps ⟨rfl, rfl, rfl, rfl⟩) fun result spec => ?_
  exact EndsIn.bind (.of_forall (fun packets _ => trivial) fun e _ => trivial)
    fun packets (_ : True) => spec.1

lemma processRequest_keeps (robust : Robust P) (keeps : Keeps S P st) (p : RIPPacket)
    (ctrlInfo : UDPDataIndication) (due : st.answer p.entries.length p.entries = .ok none →
      st.findInterfaceById ctrlInfo.interfaceId ≠ none →
      ∀ r ∈ st.ripRoutes, r.id ∈ S → st.expiry r ≠ .purged) :
    EndsIn (fun _ => True) (fun result => Keeps S P result.1) (st.processRequest p ctrlInfo) := by
  rw [RIPRouting.processRequest]
  split_ifs with empty
  · exact keeps
  · dsimp only [pure, Except.pure, bind, Except.bind]
    cases answered : st.answer p.entries.length p.entries with
    | error e => exact trivial
    | ok result =>
      cases result with
      | some entries => exact keeps
      | none =>
        cases found : st.findInterfaceById ctrlInfo.interfaceId with
        | none => exact keeps
        | some ri =>
          refine sendRoutes_keeps robust keeps (due answered ?_) _
          rw [found]
          exact Option.some_ne_none ri

end

/-! ## Notifications -/

lemma invalidateRoutes_keeps (robust : Robust P) (keeps : Keeps S P st) (ie : ℕ) :
    Keeps S P (st.invalidateRoutes ie) := by
  rw [RIPRouting.invalidateRoutes]
  generalize (st.ripRoutes.filter fun r => r.ie = some ie) = rs
  induction rs generalizing st with
  | nil => exact keeps
  | cons r rest ih => exact ih (keeps.invalidateRoute fun _ => ⟨robust.closed, robust.lost⟩)

variable (keeps : Keeps S P st)
include keeps

lemma importRoute_keeps {type : RouteType} (imported : type ≠ .RIP_ROUTE_RTE) (metric tag : ℕ)
    (lt : route.id < st.rt.nextId) :
    EndsIn (fun _ => True) (fun st' => Keeps S P st' ∧ st'.rt = st.rt)
      (st.importRoute route type metric tag) := by
  rw [RIPRouting.importRoute, assert]
  split_ifs
  · refine ⟨keeps.push rfl fun q points => ?_, rfl⟩
    obtain rfl := Option.some.inj points
    exact ⟨lt, fun learned => absurd learned imported⟩
  · exact trivial

lemma modifyOther_keeps (mem : r ∈ st.ripRoutes) (imported : r.type ≠ .RIP_ROUTE_RTE)
    {f : RIPRoute → RIPRoute} (same : ∀ r, (f r).id = r.id ∧ (f r).type = r.type)
    (pointer : ∀ q, (f r).route = some q → q < st.rt.nextId) : Keeps S P (st.modify r.id f) := by
  have here {r' : RIPRoute} (mem' : r' ∈ st.ripRoutes) (eq : r'.id = r.id) : r' = r :=
    keeps.eq_of_id mem' mem eq
  refine keeps.map (fun r' => ?_) (fun r' mem' q points => ?_) (fun r' mem' followed held => ?_)
    keeps.learned
  · split_ifs
    · exact (same r').1
    · rfl
  · split_ifs at points ⊢ with eq
    · obtain rfl := here mem' eq
      exact ⟨pointer q points, fun learned => absurd ((same r').2.symm.trans learned) imported⟩
    · exact ⟨keeps.known r' mem' q points, fun type => keeps.own r' mem' type q points⟩
  · split_ifs with eq
    · obtain rfl := here mem' eq
      exact absurd (keeps.learned r' held) imported
    · exact held

lemma routeAdded_keeps (lt : route.id < st.rt.nextId) :
    EndsIn (fun _ => True) (Keeps S P) (st.routeAdded route) := by
  rw [RIPRouting.routeAdded]
  split_ifs
  · exact keeps
  cases st.isLocalInterfaceRoute route with
  | false => exact keeps
  | true =>
    cases route.interfacePtr with
    | none => exact keeps
    | some ie =>
      dsimp only
      cases found : st.findByInterface ie .RIP_ROUTE_INTERFACE with
      | none =>
        exact (importRoute_keeps keeps (by decide) _ 0 lt).mono fun st' spec => spec.1
      | some r =>
        obtain ⟨mem, type⟩ := findByInterface_some found
        refine modifyOther_keeps keeps mem ?_ (fun _ => ⟨rfl, rfl⟩) fun q points => ?_
        · rw [type]
          decide
        · obtain rfl := Option.some.inj points
          exact lt

lemma othersAddRoute_keeps (en : IPv4Route) :
    EndsIn (fun _ => True) (Keeps S P) (st.othersAddRoute en) := by
  rw [RIPRouting.othersAddRoute]
  split_ifs with interface
  · have raised : Distinct { st.rt with nextId := st.rt.nextId + 1 } :=
      keeps.distinct.of_sublist (List.Sublist.refl _) (Nat.le_succ _)
    have distinct : Distinct (RoutingTable.insertRoute { st.rt with nextId := st.rt.nextId + 1 }
        { en with id := st.rt.nextId }) := raised.insertRoute
      (fun route mem => (keeps.distinct.fresh route mem).ne) (Nat.lt_succ_self _)
    refine routeAdded_keeps (keeps.of_rt ⟨distinct.nodup, distinct.fresh⟩ (Nat.le_succ _) ?_)
      (Nat.lt_succ_self _)
    intro q lt own route mem eq
    rcases (mem_orderedInsert _).mp mem with rfl | old
    · exact absurd eq lt.ne'
    · exact own route old eq
  · refine (keeps.rtAddRoute en).self.bind fun result spec => ?_
    obtain ⟨⟨added, lt, -⟩, run⟩ := spec
    have pointer : result.2 = st.rt.nextId := by
      obtain ⟨rt', -, eq⟩ := Except.bind_eq_ok run
      cases eq
      rfl
    exact routeAdded_keeps added (pointer ▸ lt)

lemma othersChangeRoute_keeps (id : ℕ) {change : IPv4Route.Change}
    (source : ∀ route, (change.apply route).sourceType = route.sourceType) :
    EndsIn (fun _ => True) (Keeps S P) (st.othersChangeRoute id change) := by
  rw [RIPRouting.othersChangeRoute]
  cases found : st.rt.routes.find? fun route => route.id = id with
  | none => exact keeps
  | some route =>
    have mem := mem_of_find?_eq_some found
    have here : route.id = id := by simpa using find?_some found
    refine EndsIn.bind (keeps.setField source).self fun st' spec => ?_
    obtain ⟨kept, run⟩ := spec
    split_ifs with same
    · exact kept
    · have foreign : route.sourceType ≠ .RIP := fun own => same (.inr own)
      obtain ⟨rt', set, eq⟩ := Except.bind_eq_ok run
      cases eq
      have applied := (setField_mem keeps.distinct set).changed route mem here
      rw [RIPRouting.routeChanged]
      cases pointing : RIPRouting.findByRoute _ (change.apply route).id with
      | none => exact kept
      | some r =>
        have rMem := mem_of_find?_eq_some pointing
        have test := find?_some pointing
        have points : r.route = some (change.apply route).id := of_decide_eq_true test
        refine modifyOther_keeps kept rMem (fun learned => ?_) (fun _ => ⟨rfl, rfl⟩)
          fun q points => kept.known r rMem q points
        refine foreign ((source route).symm.trans ?_)
        refine kept.own r rMem learned _ points _ ?_ rfl
        rw [notifyReplaced_rt]
        exact applied

omit keeps in
lemma unpointed_notifyDeleted {other : IPv4Route} (unpointed : Keeps.Unpointed st other) :
    Keeps.Unpointed (st.notifyDeleted en) other := by
  rw [RIPRouting.notifyDeleted]
  split_ifs
  · exact unpointed
  · intro r mem learned points
    obtain ⟨old, oldMem, rfl⟩ := mem_map.mp mem
    split_ifs at learned points
    · cases points
    · exact unpointed old oldMem learned points

lemma foldl_notifyDeleted_keeps (deleted : List IPv4Route)
    (unpointed : ∀ en ∈ deleted, Keeps.Unpointed st en) :
    Keeps S P (deleted.foldl RIPRouting.notifyDeleted st) := by
  induction deleted generalizing st with
  | nil => exact keeps
  | cons en rest ih =>
    exact ih (keeps.notifyDeleted (unpointed en mem_cons_self)) fun other mem =>
      unpointed_notifyDeleted (unpointed other (mem_cons_of_mem _ mem))

lemma interfaceDeleted_keeps (ie : ℕ)
    (elsewhere : ∀ r ∈ st.ripRoutes, r.id ∈ S → r.ie ≠ some ie) :
    Keeps S P (st.interfaceDeleted ie) := by
  have next := deleteInterface_nextId st.rt ie
  have sub : (st.rt.deleteInterface ie).routes.Sublist st.rt.routes := by
    rw [deleteInterface_routes]
    exact filter_sublist
  have tabled : Keeps S P { st with rt := st.rt.deleteInterface ie } :=
    keeps.of_subset (keeps.distinct.of_sublist sub next.ge) next.ge sub.subset
  have cut : Keeps S P (RIPRouting.deleteInterface { st with rt := st.rt.deleteInterface ie } ie) := by
    have stays : ∀ r ∈ st.ripRoutes, r.id ∈ S → P r → decide (r.ie ≠ some ie) = true :=
      fun r mem followed _ => decide_eq_true (elsewhere r mem followed)
    have filtered := tabled.filter stays
    exact ⟨filtered.distinct, filtered.nodup, filtered.fresh, filtered.known, filtered.own,
      filtered.has, filtered.learned⟩
  rw [RIPRouting.interfaceDeleted, foldl_notifyDeleted_deleteInterface]
  refine foldl_notifyDeleted_keeps cut _ fun en deleted r mem learned points => ?_
  exact keeps.unpointed (mem_filter.mp deleted).1 r (mem_filter.mp mem).1 learned points

omit keeps

/-- No other module gives a route a new source. -/
def KeepsSource (_ : RIPRouting) : RIPRouting.Event → Prop
  | .othersChangeRoute _ change => ∀ value, change ≠ .sourceType value
  | _ => True

lemma sourceType_apply {change : IPv4Route.Change} (keeps : ∀ value, change ≠ .sourceType value)
    (route : IPv4Route) : (change.apply route).sourceType = route.sourceType := by
  cases change with
  | sourceType value => exact absurd rfl (keeps value)
  | _ => rfl

/-- The updates, in which the changed flags are cleared. -/
def IsUpdate : RIPRouting.Event → Prop
  | .updateTimer => True
  | .triggeredUpdateTimer => True
  | _ => False

/-- What a step other than an update must not do to the routes that are followed. -/
def Follows (S : Set ℕ) (P : RIPRoute → Prop) (st : RIPRouting) : RIPRouting.Event → Prop
  | .datagram packet ctrlInfo =>
      (packet.command = RIP_REQUEST → st.answer packet.entries.length packet.entries = .ok none →
        st.findInterfaceById ctrlInfo.interfaceId ≠ none →
        ∀ r ∈ st.ripRoutes, r.id ∈ S → st.expiry r ≠ .purged) ∧
      (packet.command = RIP_RESPONSE → ∀ st' incomingIe,
        st.isValidResponse packet ctrlInfo = .ok (st', true) →
        st.findInterfaceById ctrlInfo.interfaceId = some incomingIe → ∀ entry ∈ packet.entries,
        EntryFollowed P incomingIe ctrlInfo.srcAddr entry)
  | .interfaceDeleted ie => ∀ r ∈ st.ripRoutes, r.id ∈ S → r.ie ≠ some ie
  | _ => True

lemma step_keeps (robust : Robust P) (keeps : Keeps S P st) (one : S.Subsingleton)
    {event : RIPRouting.Event} (source : KeepsSource st event) (other : ¬ IsUpdate event)
    (follows : Follows S P st event) :
    EndsIn (fun _ => True) (fun result => Keeps S P result.1) (st.step event) := by
  cases event with
  | datagram p ctrlInfo =>
    rw [RIPRouting.step, RIPRouting.handlePacket]
    split_ifs with request response
    · exact processRequest_keeps robust keeps p ctrlInfo (follows.1 request)
    · exact (processResponse_keeps robust keeps one p ctrlInfo (follows.2 response)).bind
        fun st' kept => kept
    · exact trivial
  | updateTimer => exact absurd trivial other
  | triggeredUpdateTimer => exact absurd trivial other
  | interfaceCreated ri =>
    exact ⟨keeps.distinct, keeps.nodup, keeps.fresh, keeps.known, keeps.own, keeps.has, keeps.learned⟩
  | interfaceDeleted ie => exact interfaceDeleted_keeps keeps ie follows
  | interfaceStateChanged ie isUp =>
    rw [RIPRouting.step, RIPRouting.interfaceStateChanged]
    cases isUp with
    | false => exact invalidateRoutes_keeps robust keeps ie
    | true =>
      rw [if_pos rfl]
      cases st.findInterfaceById ie with
      | none => exact keeps
      | some ri =>
        dsimp only
        split_ifs <;> exact keeps
  | othersAddRoute en => exact (othersAddRoute_keeps keeps en).bind fun st' kept => kept
  | othersDeleteRoute id => exact keeps.deleteRoute id
  | othersChangeRoute id change =>
    exact (othersChangeRoute_keeps keeps id (sourceType_apply source)).bind fun st' kept => kept
  | elapse duration =>
    exact keeps.of_subset ⟨keeps.distinct.nodup, keeps.distinct.fresh⟩ le_rfl (List.Subset.refl _)

lemma configureInitialRoutes_keeps {rs : List IPv4Route} (keeps : Keeps S P st)
    (fresh : ∀ route ∈ rs, route.id < st.rt.nextId) :
    EndsIn (fun _ => True) (Keeps S P) (RIPRouting.configureInitialRoutes rs st) := by
  induction rs generalizing st with
  | nil => exact keeps
  | cons route rest ih =>
    have lt := fresh route mem_cons_self
    have kept : EndsIn (fun _ => True) (fun st' => Keeps S P st' ∧ st'.rt = st.rt)
        (st.configureInitialRoute route) := by
      have other : EndsIn (fun _ => True) (fun st' => Keeps S P st' ∧ st'.rt = st.rt)
          (if route.netmask.isUnspecified then st.importRoute route .RIP_ROUTE_DEFAULT 1 0
            else if isMulticast route.dest then .ok st
            else st.importRoute route .RIP_ROUTE_STATIC 1 0) := by
        split_ifs
        · exact importRoute_keeps keeps (by decide) 1 0 lt
        · exact ⟨keeps, rfl⟩
        · exact importRoute_keeps keeps (by decide) 1 0 lt
      rw [RIPRouting.configureInitialRoute]
      by_cases loopback : st.isLoopbackInterfaceRoute route = true
      · rw [if_pos loopback]
        exact ⟨keeps, rfl⟩
      · rw [if_neg loopback]
        cases st.isLocalInterfaceRoute route with
        | false => exact other
        | true =>
          cases route.interfacePtr with
          | none => exact other
          | some ie => exact importRoute_keeps keeps (by decide) _ 0 lt
    refine kept.bind fun st' spec => ih spec.1 fun route' mem => ?_
    rw [spec.2]
    exact fresh route' (mem_cons_of_mem _ mem)

lemma updateLoop_keeps {triggered : Bool} (ripInterfaces : List RIPInterfaceEntry)
    (robust : Robust P) (keeps : Keeps ∅ P st) :
    EndsIn (fun _ => True) (fun result => Keeps ∅ P result.1)
      (RIPRouting.updateLoop triggered ripInterfaces st) := by
  induction ripInterfaces generalizing st with
  | nil => exact keeps
  | cons ri rest ih =>
    rw [RIPRouting.updateLoop]
    split_ifs
    · exact ih keeps
    · refine (sendRoutes_keeps robust keeps (fun _ _ none => absurd none (Set.notMem_empty _))
        none).bind fun result kept => ?_
      exact (ih kept).bind fun more kept => kept

lemma processUpdate_keeps (robust : Robust P) (keeps : Keeps ∅ P st) (triggered : Bool) :
    EndsIn (fun _ => True) (fun result => Keeps ∅ P result.1) (st.processUpdate triggered) := by
  refine (updateLoop_keeps st.ripInterfaces robust keeps).bind fun result kept => ?_
  refine kept.map (fun _ => rfl) (fun r mem q points => ?_)
    (fun _ _ none => absurd none (Set.notMem_empty _)) kept.learned
  exact ⟨kept.known r mem q points, fun type => kept.own r mem type q points⟩

/-- What holds of a state whichever steps lead to it. -/
abbrev Sound (st : RIPRouting) : Prop := Keeps ∅ (fun _ => False) st

lemma step_sound (sound : Sound st) {event : RIPRouting.Event} (source : KeepsSource st event) :
    EndsIn (fun _ => True) (fun result => Sound result.1) (st.step event) := by
  by_cases update : IsUpdate event
  · cases event with
    | updateTimer => exact processUpdate_keeps robust_false sound false
    | triggeredUpdateTimer => exact processUpdate_keeps robust_false sound true
    | _ => exact update.elim
  · refine step_keeps robust_false sound Set.subsingleton_empty source update ?_
    cases event with
    | datagram p ctrlInfo =>
      exact ⟨fun _ _ _ _ _ none => absurd none (Set.notMem_empty _),
        fun _ _ _ _ _ _ _ _ held => held.elim⟩
    | interfaceDeleted ie => exact fun _ _ none => absurd none (Set.notMem_empty _)
    | _ => trivial

end Inet.Rip
