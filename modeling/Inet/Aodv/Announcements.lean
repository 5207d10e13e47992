import Inet.Aodv.AODVRouting

/-!
# What a node tells the others about a destination

A RREQ tells of its originator, and a RREP of its destination. With `T` for what the nodes have
told, `Ordered T` keeps the routes free of loops: an active route rests on what its next hop has
told, and is no worse than what the node itself has told. `Quiet` steps install no route and tell
nothing of others.
-/

namespace Inet.Aodv

open Ipv4 AODVRouting OrderedMap Inet.Except

variable {st st' st'' : AODVRouting} {now : ℤ} {addr src dest d : IPv4Address} {sn hc : ℕ}
  {route : AODVRoute} {T : IPv4Address → IPv4Address → ℕ → ℕ → Prop}

/-- The destination that a packet tells of, with its sequence number and the hop count. -/
def about : AODVControlPacket → Option (IPv4Address × ℕ × ℕ)
  | .RREQ rreq => some (rreq.originatorAddr, rreq.originatorSeqNum, rreq.hopCount)
  | .RREP rrep => some (rrep.destAddr, rrep.destSeqNum, rrep.hopCount)
  | _ => none

/-- The node has told of the destination with these numbers. -/
def Announced (st : AODVRouting) (d : IPv4Address) (sn hc : ℕ) : Prop :=
  ∃ packet ∈ st.sent, about packet.ctrlPacket = some (d, sn, hc)

/-- A higher sequence number, or the same one and no more hops. -/
def AtLeast (sn hc sn' hc' : ℕ) : Prop := sn' < sn ∨ (sn' = sn ∧ hc ≤ hc')

/-- Nothing that the node has told of the destination is better. -/
def NotBelow (st : AODVRouting) (d : IPv4Address) (sn hc : ℕ) : Prop :=
  ∀ sn' hc', Announced st d sn' hc' → AtLeast sn hc sn' hc'

/-- An active route of the node over another node is no worse than these numbers. -/
def Above (st : AODVRouting) (d : IPv4Address) (sn hc : ℕ) : Prop :=
  ∀ route, (d, route) ∈ st.routes → route.isActive = true → route.gateway ≠ d →
    AtLeast route.destSeqNum route.metric sn hc

structure Ordered (T : IPv4Address → IPv4Address → ℕ → ℕ → Prop) (st : AODVRouting) : Prop where
  noSelf : ∀ route, (st.selfIPAddress, route) ∉ st.routes
  told : ∀ {d route}, (d, route) ∈ st.routes → route.isActive = true → route.gateway ≠ d →
    ∃ hc, route.metric = hc + 1 ∧ T route.gateway d route.destSeqNum hc
  notBelow : ∀ {d route}, (d, route) ∈ st.routes → route.isActive = true → route.gateway ≠ d →
    NotBelow st d route.destSeqNum route.metric
  srcAddr : ∀ packet ∈ st.sent, packet.srcAddr = st.selfIPAddress

/-- The node stays the same, and what it has sent stays sent. -/
structure Grows (st st' : AODVRouting) : Prop where
  self : st'.selfIPAddress = st.selfIPAddress
  sent : st.sent ⊆ st'.sent

lemma Grows.refl (st : AODVRouting) : Grows st st := ⟨rfl, fun _ mem => mem⟩

lemma Grows.trans (first : Grows st st') (second : Grows st' st'') : Grows st st'' :=
  ⟨second.self.trans first.self, fun _ mem => second.sent (first.sent mem)⟩

/-! ## Steps that install no route -/

structure Quiet (st st' : AODVRouting) : Prop where
  grows : Grows st st'
  /-- What is sent tells of the node itself, or of no destination. -/
  sent : ∀ packet ∈ st'.sent, packet ∈ st.sent ∨ (packet.srcAddr = st.selfIPAddress ∧
    ∀ d sn hc, about packet.ctrlPacket = some (d, sn, hc) → d = st.selfIPAddress)
  /-- A route that is active was active, with the same next hop and numbers. -/
  routes : ∀ d route', (d, route') ∈ st'.routes → ∃ route, (d, route) ∈ st.routes ∧
    (route'.isActive = true → route.isActive = true ∧ route'.gateway = route.gateway ∧
      route'.metric = route.metric ∧ route'.destSeqNum = route.destSeqNum)

/-- The routes are those of the state before, some of them no longer active. -/
def Fewer (routes routes' : OrderedMap IPv4Address AODVRoute) : Prop :=
  ∀ d route', (d, route') ∈ routes' → ∃ route, (d, route) ∈ routes ∧
    (route'.isActive = true → route.isActive = true ∧ route'.gateway = route.gateway ∧
      route'.metric = route.metric ∧ route'.destSeqNum = route.destSeqNum)

namespace Fewer

variable {routes routes' routes'' : OrderedMap IPv4Address AODVRoute} {route' : AODVRoute}

lemma refl (routes : OrderedMap IPv4Address AODVRoute) : Fewer routes routes :=
  fun _ route mem => ⟨route, mem, fun active => ⟨active, rfl, rfl, rfl⟩⟩

lemma trans (first : Fewer routes routes') (second : Fewer routes' routes'') :
    Fewer routes routes'' := by
  intro d route'' mem
  obtain ⟨route', mem', same'⟩ := second d route'' mem
  obtain ⟨route, mem, same⟩ := first d route' mem'
  refine ⟨route, mem, fun active => ?_⟩
  obtain ⟨active', gateway', metric', seqNum'⟩ := same' active
  obtain ⟨active, gateway, metric, seqNum⟩ := same active'
  exact ⟨active, gateway'.trans gateway, metric'.trans metric, seqNum'.trans seqNum⟩

lemma put (mem : (d, route) ∈ routes) (same : route'.isActive = true → route.isActive = true ∧
    route'.gateway = route.gateway ∧ route'.metric = route.metric ∧
      route'.destSeqNum = route.destSeqNum) : Fewer routes (routes.put d route') := by
  intro d₁ route₁ mem₁
  rcases mem_put.mp mem₁ with eq | ⟨old, -⟩
  · obtain ⟨rfl, rfl⟩ := Prod.mk.inj eq
    exact ⟨route, mem, same⟩
  · exact refl routes d₁ route₁ old

lemma erase (routes : OrderedMap IPv4Address AODVRoute) (d : IPv4Address) :
    Fewer routes (routes.erase d) :=
  fun d₁ route₁ mem => refl routes d₁ route₁ (mem_erase.mp mem).1

lemma mapValues {f : IPv4Address → AODVRoute → AODVRoute}
    (weak : ∀ d route, f d route = route ∨ (f d route).isActive = false) :
    Fewer routes (routes.mapValues f) := by
  intro d route' mem
  obtain ⟨route, before, rfl⟩ := mem_mapValues.mp mem
  refine ⟨route, before, fun active => ?_⟩
  rcases weak d route with same | inactive
  · rw [same] at active ⊢
    exact ⟨active, rfl, rfl, rfl⟩
  · rw [inactive] at active
    cases active

lemma above (fewer : Fewer st.routes st'.routes) (above : Above st d sn hc) :
    Above st' d sn hc := by
  intro route' mem active notDirect
  obtain ⟨route, mem, same⟩ := fewer d route' mem
  obtain ⟨active, gateway, metric, seqNum⟩ := same active
  rw [gateway] at notDirect
  rw [metric, seqNum]
  exact above route mem active notDirect

end Fewer

namespace Quiet

lemma of_fewer (routes : Fewer st.routes st'.routes) (sent : st'.sent = st.sent)
    (self : st'.selfIPAddress = st.selfIPAddress) : Quiet st st' where
  grows := ⟨self, fun _ mem => sent ▸ mem⟩
  sent _ mem := Or.inl (sent ▸ mem)
  routes := routes

lemma refl (st : AODVRouting) : Quiet st st := of_fewer (Fewer.refl _) rfl rfl

lemma trans (first : Quiet st st') (second : Quiet st' st'') : Quiet st st'' where
  grows := first.grows.trans second.grows
  sent p mem := by
    rcases second.sent p mem with old | ⟨src, own⟩
    · exact first.sent p old
    · rw [first.grows.self] at src own
      exact Or.inr ⟨src, own⟩
  routes := Fewer.trans first.routes second.routes

lemma above (quiet : Quiet st st') (above : Above st d sn hc) : Above st' d sn hc :=
  Fewer.above quiet.routes above

lemma ordered (quiet : Quiet st st') (ordered : Ordered T st) : Ordered T st' where
  noSelf route' mem := by
    obtain ⟨route, mem, -⟩ := quiet.routes _ route' mem
    rw [quiet.grows.self] at mem
    exact ordered.noSelf route mem
  told mem active notDirect := by
    obtain ⟨route, mem, same⟩ := quiet.routes _ _ mem
    obtain ⟨active, gateway, metric, seqNum⟩ := same active
    rw [gateway] at notDirect
    rw [gateway, metric, seqNum]
    exact ordered.told mem active notDirect
  notBelow mem active notDirect := by
    obtain ⟨route, mem, same⟩ := quiet.routes _ _ mem
    obtain ⟨active, gateway, metric, seqNum⟩ := same active
    rw [gateway] at notDirect
    rw [metric, seqNum]
    rintro sn hc ⟨p, sent, tells⟩
    rcases quiet.sent p sent with old | ⟨-, own⟩
    · exact ordered.notBelow mem active notDirect sn hc ⟨p, old, tells⟩
    · obtain rfl := own _ _ _ tells
      exact absurd mem (ordered.noSelf route)
  srcAddr p mem := by
    rw [quiet.grows.self]
    rcases quiet.sent p mem with old | ⟨src, -⟩
    · exact ordered.srcAddr p old
    · exact src

lemma after (quiet : Quiet st' st'') (routes : Fewer st.routes st'.routes)
    (sent : st'.sent = st.sent) (self : st'.selfIPAddress = st.selfIPAddress) : Quiet st st'' :=
  (of_fewer routes sent self).trans quiet

lemma scheduleExpungeRoutes (ok : st.scheduleExpungeRoutes now = .ok st') : Quiet st st' := by
  rw [AODVRouting.scheduleExpungeRoutes] at ok
  split at ok
  · cases ok
    exact of_fewer (Fewer.refl _) rfl rfl
  · split_ifs at ok
    · cases ok
      exact refl _
    · obtain ⟨t, -, eq⟩ := bind_eq_ok ok
      cases eq
      exact of_fewer (Fewer.refl _) rfl rfl

lemma scheduleExpungeRoutesIf {changed : Bool}
    (ok : st.scheduleExpungeRoutesIf now changed = .ok st') : Quiet st st' := by
  rw [AODVRouting.scheduleExpungeRoutesIf] at ok
  split_ifs at ok
  · exact scheduleExpungeRoutes ok
  · cases ok
    exact refl _

lemma addPrecursor (st : AODVRouting) (dest precursor : IPv4Address) :
    Quiet st (st.addPrecursor dest precursor) := by
  rw [AODVRouting.addPrecursor]
  split
  · exact refl _
  · next route found =>
    exact of_fewer (Fewer.put (get?_eq_some.mp found) fun active => ⟨active, rfl, rfl, rfl⟩) rfl rfl

lemma updateValidRouteLifeTime (st : AODVRouting) (dest : IPv4Address) (lifetime : ℤ) :
    Quiet st (st.updateValidRouteLifeTime dest lifetime) := by
  rw [AODVRouting.updateValidRouteLifeTime]
  split
  · exact refl _
  · next route found =>
    split_ifs
    · exact of_fewer (Fewer.put (get?_eq_some.mp found)
        fun active => ⟨active, rfl, rfl, rfl⟩) rfl rfl
    · exact refl _

lemma updateGatewayLifeTime (st before : AODVRouting) (dest : IPv4Address) (lifetime : ℤ) :
    Quiet st (st.updateGatewayLifeTime dest lifetime before) := by
  rw [AODVRouting.updateGatewayLifeTime]
  split
  · exact updateValidRouteLifeTime ..
  · exact refl _

lemma sendAODVPacket {p : AODVControlPacket} {ttl : ℕ}
    (own : ∀ d sn hc, about p = some (d, sn, hc) → d = st.selfIPAddress)
    (ok : st.sendAODVPacket now p addr ttl = .ok st') : Quiet st st' := by
  obtain ⟨-, -, eq⟩ := bind_eq_ok ok
  cases eq
  refine ⟨⟨rfl, fun _ mem => List.mem_append_left _ mem⟩, fun p' mem => ?_, Fewer.refl _⟩
  rcases List.mem_append.mp mem with old | new
  · exact Or.inl old
  · obtain rfl := List.mem_singleton.mp new
    exact Or.inr ⟨rfl, own⟩

lemma broadcastRERR {nodes : List UnreachableNode} (ok : st.broadcastRERR now nodes = .ok st') :
    Quiet st st' := by
  rw [AODVRouting.broadcastRERR] at ok
  split_ifs at ok
  · cases ok
    exact refl _
  · exact (sendAODVPacket (fun _ _ _ tells => by cases tells) ok).after (Fewer.refl _) rfl rfl

lemma datagramWithoutRoute (ok : st.datagramWithoutRoute now addr = .ok st') : Quiet st st' := by
  rw [AODVRouting.datagramWithoutRoute] at ok
  split at ok
  · next route found =>
    by_cases active : route.isActive
    · rw [if_pos active] at ok
      cases ok
      exact refl _
    · rw [if_neg active] at ok
      exact (broadcastRERR ok).after (Fewer.put (get?_eq_some.mp found)
        fun active' => absurd active' active) rfl rfl
  · exact broadcastRERR ok

lemma datagramForwardHook {datagram : IPv4Datagram}
    (ok : st.datagramForwardHook now datagram = .ok st') : Quiet st st' := by
  rw [AODVRouting.datagramForwardHook] at ok
  split_ifs at ok
  · cases ok
    exact updateGatewayLifeTime ..
  · cases ok
    exact refl _
  · exact (updateValidRouteLifeTime ..).trans ((updateValidRouteLifeTime ..).trans
      ((updateGatewayLifeTime ..).trans ((updateGatewayLifeTime ..).trans
        (datagramWithoutRoute ok))))

lemma sendRREQ {rreq : AODVRREQ} {ttl : ℕ} (own : rreq.originatorAddr = st.selfIPAddress)
    (ok : st.sendRREQ now rreq addr ttl = .ok st') : Quiet st st' := by
  rw [AODVRouting.sendRREQ] at ok
  split_ifs at ok
  · cases ok
    exact refl _
  · obtain ⟨⟨ttl', timer⟩, -, ok⟩ := bind_eq_ok ok
    obtain ⟨t, -, ok⟩ := bind_eq_ok ok
    obtain ⟨st₁, sent, ok⟩ := bind_eq_ok ok
    cases ok
    have quiet := sendAODVPacket (fun d sn hc tells => by
      obtain ⟨rfl, -⟩ := Prod.mk.inj (Option.some.inj tells)
      exact own) sent
    exact (quiet.after (Fewer.refl st.routes) rfl rfl).trans (of_fewer (Fewer.refl _) rfl rfl)

lemma startRouteDiscovery {ttl : ℕ} (ok : st.startRouteDiscovery now dest ttl = .ok st') :
    Quiet st st' := by
  obtain ⟨_, -, ok⟩ := bind_eq_ok ok
  exact (sendRREQ rfl ok).after (Fewer.refl _) rfl rfl

lemma datagramHook {datagram : IPv4Datagram} {hookType : HookType}
    (ok : st.datagramHook now datagram hookType = .ok st') : Quiet st st' := by
  obtain ⟨⟨result, st₁⟩, ensured, ok⟩ := bind_eq_ok ok
  have first : Quiet st st₁ := by
    rw [ensureRouteForDatagram] at ensured
    dsimp only at ensured
    split_ifs at ensured
    · cases ensured
      exact refl _
    all_goals split at ensured
    · cases ensured
      exact (updateValidRouteLifeTime ..).trans (updateValidRouteLifeTime ..)
    · cases ensured
      exact of_fewer (Fewer.refl _) rfl rfl
    · cases ensured
      exact (updateValidRouteLifeTime ..).trans (updateValidRouteLifeTime ..)
    · obtain ⟨st₂, started, ensured⟩ := bind_eq_ok ensured
      cases ensured
      rw [startRouteDiscoveryFor] at started
      split at started
      · split_ifs at started
        · exact (startRouteDiscovery started).after (Fewer.refl _) rfl rfl
        · exact (startRouteDiscovery started).after (Fewer.refl _) rfl rfl
      · exact (startRouteDiscovery started).after (Fewer.refl _) rfl rfl
    · cases ensured
      exact (updateValidRouteLifeTime ..).trans (updateValidRouteLifeTime ..)
    · cases ensured
      exact refl _
  cases result with
  | ACCEPT =>
    cases ok
    exact first
  | QUEUE =>
    cases ok
    exact first.trans (of_fewer (Fewer.refl _) rfl rfl)

lemma handleWaitForRREP {timer : WaitForRREP} (ok : st.handleWaitForRREP now timer = .ok st') :
    Quiet st st' := by
  rw [AODVRouting.handleWaitForRREP] at ok
  split at ok
  · cases ok
  · next retries _ =>
    by_cases last : retries = st.par.rreqRetries
    · rw [if_pos last] at ok
      cases ok
      exact refl _
    · rw [if_neg last] at ok
      exact (sendRREQ rfl ok).after (Fewer.refl _) rfl rfl

lemma completeRouteDiscovery (ok : st.completeRouteDiscovery now dest = .ok st') :
    Quiet st st' := by
  obtain ⟨_, -, ok⟩ := bind_eq_ok ok
  obtain ⟨st₁, looped, ok⟩ := bind_eq_ok ok
  cases ok
  suffices all : ∀ {datagrams : List IPv4Datagram} {st : AODVRouting},
      reinjectLoop now datagrams st = .ok st₁ → Quiet st st₁ from
    (all looped).trans (of_fewer (Fewer.refl _) rfl rfl)
  intro datagrams
  induction datagrams with
  | nil =>
    intro st ok
    cases ok
    exact refl _
  | cons datagram datagrams ih =>
    intro st ok
    obtain ⟨st₂, first, ok⟩ := bind_eq_ok ok
    refine trans ?_ (ih ok)
    rw [reinjectQueuedDatagram] at first
    split at first
    · cases first
      exact refl _
    · split at first
      · cases first
        exact of_fewer (Fewer.refl _) rfl rfl
      · exact (datagramForwardHook first).after (Fewer.refl _) rfl rfl

lemma handleRERR {rerr : AODVRERR} (ok : st.handleRERR now rerr addr = .ok st') :
    Quiet st st' := by
  obtain ⟨st₁, scheduled, ok⟩ := bind_eq_ok ok
  have quiet : Quiet st st₁ := by
    refine (scheduleExpungeRoutesIf scheduled).after (Fewer.mapValues fun d route => ?_) rfl rfl
    rw [markLost]
    split
    · exact Or.inr rfl
    · exact Or.inl rfl
  split_ifs at ok
  · exact quiet.trans (broadcastRERR ok)
  · cases ok
    exact quiet

lemma receiveChangeNotification (ok : st.receiveChangeNotification now addr = .ok st') :
    Quiet st st' := by
  rw [AODVRouting.receiveChangeNotification] at ok
  split at ok
  · cases ok
    exact refl _
  · next nextRoute _ =>
    rw [handleLinkBreakSendRERR] at ok
    split at ok
    · cases ok
      exact refl _
    · split_ifs at ok
      obtain ⟨_, scheduled, ok⟩ := bind_eq_ok ok
      refine ((scheduleExpungeRoutesIf scheduled).trans (broadcastRERR ok)).after
        (Fewer.mapValues fun d route => ?_) rfl rfl
      rw [markBroken]
      by_cases broken : route.gateway = nextRoute.gateway
      · rw [if_pos broken]
        exact Or.inr rfl
      · rw [if_neg broken]
        exact Or.inl rfl

lemma sendHelloMessagesIfNeeded {nextHello : ℤ}
    (ok : st.sendHelloMessagesIfNeeded now nextHello = .ok st') : Quiet st st' := by
  rw [AODVRouting.sendHelloMessagesIfNeeded] at ok
  split_ifs at ok
  · refine (sendAODVPacket (fun d sn hc tells => ?_) ok).after (Fewer.refl _) rfl rfl
    exact (Prod.mk.inj (Option.some.inj tells)).1.symm
  · cases ok
    exact of_fewer (Fewer.refl _) rfl rfl

/-- The loop works on a copy of the entries. -/
lemma expungeLoop (st : AODVRouting) (now : ℤ) : ∀ (skip : Bool)
    (entries : List (IPv4Address × AODVRoute)) (routes : OrderedMap IPv4Address AODVRoute),
    entries.Pairwise (fun a b => a.1 ≠ b.1) → (∀ entry ∈ entries, entry ∈ routes) →
    Fewer routes (st.expungeLoop now skip entries routes) := by
  intro skip entries
  induction entries generalizing skip with
  | nil => exact fun routes _ _ => Fewer.refl routes
  | cons entry rest ih =>
    intro routes distinct inside
    obtain ⟨dest, route⟩ := entry
    obtain ⟨first, distinct⟩ := List.pairwise_cons.mp distinct
    have here : (dest, route) ∈ routes := inside _ List.mem_cons_self
    have others : ∀ entry ∈ rest, entry ∈ routes := fun entry mem =>
      inside entry (List.mem_cons_of_mem _ mem)
    have kept : ∀ route' : AODVRoute, ∀ entry ∈ rest, entry ∈ routes.put dest route' :=
      fun route' entry mem => mem_put.mpr
        (Or.inr ⟨others entry mem, (first entry mem).symm⟩)
    rw [AODVRouting.expungeLoop]
    split_ifs
    · exact (Fewer.put here fun active => Bool.noConfusion active).trans
        (ih false _ distinct (kept _))
    · have same : Fewer routes (routes.put dest
          { route with lifeTime := now + 2 * st.par.netTraversalTime }) :=
        Fewer.put here fun active => ⟨active, rfl, rfl, rfl⟩
      exact same.trans (ih false _ distinct (kept _))
    · exact (Fewer.erase routes dest).trans (ih true _ distinct fun entry mem =>
        mem_erase.mpr ⟨others entry mem, (first entry mem).symm⟩)
    · exact ih false _ distinct others

lemma expungeRoutes (ok : st.expungeRoutes now = .ok st') : Quiet st st' :=
  (scheduleExpungeRoutes ok).after (expungeLoop st now false _ _
    (st.routes.ascending.imp fun lt => lt.ne) fun _ mem => mem) rfl rfl

end Quiet

end Inet.Aodv
