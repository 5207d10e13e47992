import Inet.Aodv.Announcements

/-!
# Packets that do not set a node back

The handlers of RREQ, RREP and RREP-ACK keep the routes in order when the packet does not lead the
node behind what it has told the others (`ForwardRREQ`, `ForwardRREP`, `ForwardRREPACK`).
-/

namespace Inet.Aodv

open Ipv4 AODVRouting Inet.Except OrderedMap

variable {st st' : AODVRouting} {now : ℤ} {addr src dest d : IPv4Address} {sn hc : ℕ}
  {r : AODVRoute} {T : IPv4Address → IPv4Address → ℕ → ℕ → Prop}

variable {ttl : ℕ}

/-- What is sent about a destination is no better than the route to it. -/
lemma Ordered.announce {p : AODVControlPacket} (ordered : Ordered T st)
    (above : ∀ d sn hc, about p = some (d, sn, hc) → Above st d sn hc)
    (ok : st.sendAODVPacket now p addr ttl = .ok st') : Ordered T st' ∧ Grows st st' := by
  obtain ⟨-, -, eq⟩ := bind_eq_ok ok
  cases eq
  refine ⟨⟨ordered.noSelf, ordered.told, fun mem active notDirect => ?_, fun p' mem => ?_⟩,
    rfl, fun _ mem => List.mem_append_left _ mem⟩
  · rintro sn hc ⟨p', sent, tells⟩
    rcases List.mem_append.mp sent with old | new
    · exact ordered.notBelow mem active notDirect sn hc ⟨p', old, tells⟩
    · obtain rfl := List.mem_singleton.mp new
      exact above _ _ _ tells _ mem active notDirect
  · rcases List.mem_append.mp mem with old | new
    · exact ordered.srcAddr p' old
    · obtain rfl := List.mem_singleton.mp new
      rfl

lemma Ordered.quiet_announce {st₁ : AODVRouting} {p : AODVControlPacket}
    (ordered : Ordered T st) (quiet : Quiet st st₁)
    (above : ∀ d sn hc, about p = some (d, sn, hc) → Above st d sn hc)
    (ok : st₁.sendAODVPacket now p addr ttl = .ok st') : Ordered T st' ∧ Grows st st' := by
  obtain ⟨ordered', grows⟩ := (quiet.ordered ordered).announce
    (fun d sn hc tells => quiet.above (above d sn hc tells)) ok
  exact ⟨ordered', quiet.grows.trans grows⟩

/-! ## Routes that are installed -/

/-- A route may be installed: it is direct, or it rests on what its next hop has told, and is no
worse than what the node has told. -/
def MayInstall (T : IPv4Address → IPv4Address → ℕ → ℕ → Prop) (st : AODVRouting)
    (dest nextHop : IPv4Address) (sn hc : ℕ) : Prop :=
  nextHop ≠ dest → T nextHop dest sn hc ∧ NotBelow st dest sn (hc + 1)

lemma Ordered.put (ordered : Ordered T st) (other : dest ≠ st.selfIPAddress)
    (may : r.gateway ≠ dest → ∃ hc, r.metric = hc + 1 ∧
      T r.gateway dest r.destSeqNum hc ∧ NotBelow st dest r.destSeqNum r.metric) :
    Ordered T { st with routes := st.routes.put dest r } where
  noSelf r' mem := by
    rcases mem_put.mp mem with eq | ⟨old, -⟩
    · exact other (Prod.mk.inj eq).1.symm
    · exact ordered.noSelf r' old
  told mem active notDirect := by
    rcases mem_put.mp mem with eq | ⟨old, -⟩
    · obtain ⟨rfl, rfl⟩ := Prod.mk.inj eq
      obtain ⟨hc, metric, told, -⟩ := may notDirect
      exact ⟨hc, metric, told⟩
    · exact ordered.told old active notDirect
  notBelow mem active notDirect := by
    rcases mem_put.mp mem with eq | ⟨old, -⟩
    · obtain ⟨rfl, rfl⟩ := Prod.mk.inj eq
      obtain ⟨hc, -, -, notBelow⟩ := may notDirect
      exact notBelow
    · exact ordered.notBelow old active notDirect
  srcAddr := ordered.srcAddr

lemma Ordered.install (ordered : Ordered T st) (other : dest ≠ st.selfIPAddress)
    (may : MayInstall T st dest r.gateway r.destSeqNum hc) (metric : r.metric = hc + 1) :
    Ordered T { st with routes := st.routes.put dest r } :=
  ordered.put other fun notDirect => ⟨hc, metric, (may notDirect).1, metric ▸ (may notDirect).2⟩

/-- What a step leaves as it was, when it only changes routes. -/
structure SameTables (st st' : AODVRouting) : Prop where
  self : st'.selfIPAddress = st.selfIPAddress
  sent : st'.sent = st.sent
  seen : st'.rreqsArrivalTime = st.rreqsArrivalTime
  timers : st'.waitForRREPTimers = st.waitForRREPTimers
  par : st'.par = st.par

lemma SameTables.trans {st'' : AODVRouting} (first : SameTables st st')
    (second : SameTables st' st'') : SameTables st st'' :=
  ⟨second.self.trans first.self, second.sent.trans first.sent, second.seen.trans first.seen,
    second.timers.trans first.timers, second.par.trans first.par⟩

lemma SameTables.grows (same : SameTables st st') : Grows st st' :=
  ⟨same.self, fun _ mem => same.sent ▸ mem⟩

lemma SameTables.notBelow (same : SameTables st st') (notBelow : NotBelow st d sn hc) :
    NotBelow st' d sn hc := by
  rintro sn' hc' ⟨p, sent, tells⟩
  rw [same.sent] at sent
  exact notBelow sn' hc' ⟨p, sent, tells⟩

lemma scheduleExpungeRoutes_ok (ok : st.scheduleExpungeRoutes now = .ok st') :
    ∃ timer, st' = { st with expungeTimer := timer } := by
  rw [scheduleExpungeRoutes] at ok
  split at ok
  · cases ok
    exact ⟨_, rfl⟩
  · split_ifs at ok
    · cases ok
      exact ⟨_, rfl⟩
    · obtain ⟨t, -, eq⟩ := bind_eq_ok ok
      cases eq
      exact ⟨_, rfl⟩

/-- The entry that `createRoute` and `updateRoutingTable` leave. -/
structure Installed (st : AODVRouting) (dest nextHop : IPv4Address) (hopCount destSeqNum : ℕ)
    (st' : AODVRouting) : Prop where
  same : SameTables st st'
  entry : ∃ route, st'.routes = st.routes.put dest route ∧ route.gateway = nextHop ∧
    route.metric = hopCount ∧ route.destSeqNum = destSeqNum ∧ route.isActive = true

lemma installed_createRoute {nextHop : IPv4Address} {hopCount : ℕ} {valid : Bool} {lifeTime : ℤ}
    (ok : st.createRoute now dest nextHop hopCount valid sn true lifeTime = .ok st') :
    Installed st dest nextHop hopCount sn st' := by
  obtain ⟨timer, rfl⟩ := scheduleExpungeRoutes_ok ok
  exact ⟨⟨rfl, rfl, rfl, rfl, rfl⟩, _, rfl, rfl, rfl, rfl, rfl⟩

lemma installed_updateRoutingTable {nextHop : IPv4Address} {hopCount : ℕ} {valid : Bool}
    {lifeTime : ℤ}
    (ok : st.updateRoutingTable now dest nextHop hopCount valid sn true lifeTime = .ok st') :
    Installed st dest nextHop hopCount sn st' := by
  rw [updateRoutingTable] at ok
  split at ok
  · cases ok
  · obtain ⟨timer, rfl⟩ := scheduleExpungeRoutes_ok ok
    exact ⟨⟨rfl, rfl, rfl, rfl, rfl⟩, _, rfl, rfl, rfl, rfl, rfl⟩

namespace Installed

variable {nextHop : IPv4Address}

lemma ordered (installed : Installed st dest nextHop (hc + 1) sn st') (ordered : Ordered T st)
    (other : dest ≠ st.selfIPAddress) (may : MayInstall T st dest nextHop sn hc) :
    Ordered T st' := by
  obtain ⟨same, r, routes, rfl, metric, rfl, active⟩ := installed
  have put := ordered.install other may metric
  have quiet : Quiet { st with routes := st.routes.put dest r } st' :=
    Quiet.of_fewer (by rw [routes]; exact Fewer.refl _) same.sent same.self
  exact quiet.ordered put

variable (installed : Installed st dest nextHop hc sn st')
include installed

lemma get?_self : ∃ r,
    (dest, r) ∈ st'.routes ∧ r.gateway = nextHop ∧ r.metric = hc ∧ r.destSeqNum = sn := by
  obtain ⟨-, r, routes, gateway, metric, seqNum, -⟩ := installed
  refine ⟨r, ?_, gateway, metric, seqNum⟩
  rw [routes]
  exact mem_put.mpr (Or.inl rfl)

lemma get?_of_ne (ne : d ≠ dest) : st'.routes.get? d = st.routes.get? d := by
  obtain ⟨-, r, routes, -⟩ := installed
  rw [routes]
  refine Option.ext fun v => ?_
  rw [get?_eq_some, get?_eq_some, mem_put]
  constructor
  · rintro (eq | ⟨old, -⟩)
    · exact absurd (Prod.mk.inj eq).1 ne
    · exact old
  · exact fun old => Or.inr ⟨old, ne⟩

lemma above : Above st' dest sn hc := by
  intro r mem _ _
  obtain ⟨r', mem', -, metric, seqNum⟩ := installed.get?_self
  obtain rfl := eq_of_mem mem mem'
  exact Or.inr ⟨seqNum.symm, metric.le⟩

end Installed

/-! ## Replies -/

lemma installed_updatePreviousHop (ok : st.updatePreviousHop now src sn = .ok st') :
    Installed st src src (0 + 1) sn st' := by
  rw [updatePreviousHop] at ok
  split at ok
  · exact installed_createRoute ok
  · exact installed_updateRoutingTable ok

lemma Ordered.updatePreviousHop (ordered : Ordered T st) (other : src ≠ st.selfIPAddress)
    (ok : st.updatePreviousHop now src sn = .ok st') : Ordered T st' :=
  (installed_updatePreviousHop ok).ordered ordered other fun notDirect => absurd rfl notDirect

/-- The RREP, its hop count increased, takes the place of the route to its destination. -/
def TakenRREP (st : AODVRouting) (rrep : AODVRREP) : Prop :=
  (∀ route, st.routes.get? rrep.destAddr = some route → betterRREP route rrep) ∨
    (rrep.originatorAddr = st.selfIPAddress ∧ st.hasOngoingRouteDiscovery rrep.destAddr = true)

lemma Ordered.updateForwardRoute (ordered : Ordered T st) (rrep : AODVRREP)
    (other : rrep.destAddr ≠ st.selfIPAddress) (hops : rrep.hopCount = hc + 1)
    (may : TakenRREP st rrep → MayInstall T st rrep.destAddr src rrep.destSeqNum hc)
    (ok : st.updateForwardRoute now rrep src = .ok st') :
    Ordered T st' ∧ SameTables st st' ∧ Above st' rrep.destAddr rrep.destSeqNum (hc + 1) := by
  rw [AODVRouting.updateForwardRoute] at ok
  split at ok
  · next r found =>
    split_ifs at ok with better
    · rw [hops] at ok
      have installed := installed_updateRoutingTable ok
      refine ⟨installed.ordered ordered other (may (Or.inl fun r' found' => ?_)),
        installed.same, installed.above⟩
      rw [found] at found'
      obtain rfl := Option.some.inj found'
      exact better
    · cases ok
      refine ⟨ordered, ⟨rfl, rfl, rfl, rfl, rfl⟩, fun r' mem active notDirect => ?_⟩
      obtain rfl := eq_of_mem mem (get?_eq_some.mp found)
      obtain ⟨-, notLess, -, notFewer⟩ := by
        simpa only [betterRREP, not_or] using better
      rcases (not_lt.mp notLess).lt_or_eq with less | eq
      · exact Or.inl less
      · exact Or.inr ⟨eq, hops ▸ not_lt.mp fun fewer => notFewer ⟨eq, fewer⟩⟩
  · next none_ =>
    rw [hops] at ok
    have installed := installed_createRoute ok
    refine ⟨installed.ordered ordered other (may (Or.inl fun r' found' => ?_)),
      installed.same, installed.above⟩
    rw [none_] at found'
    cases found'

lemma Ordered.passOnRREP {rrep : AODVRREP} (ordered : Ordered T st)
    (above : Above st rrep.destAddr rrep.destSeqNum rrep.hopCount)
    (ok : st.passOnRREP now rrep src = .ok st') : Ordered T st' ∧ Grows st st' := by
  rw [AODVRouting.passOnRREP] at ok
  split at ok
  · cases ok
    exact ⟨ordered, Grows.refl _⟩
  · next originatorRoute found =>
    have lifeTime : Quiet st { st with
        routes := st.routes.put rrep.originatorAddr { originatorRoute with
          lifeTime := max (now + st.par.activeRouteTimeout) originatorRoute.lifeTime } } :=
      Quiet.of_fewer (Fewer.put (get?_eq_some.mp found)
        fun active => ⟨active, rfl, rfl, rfl⟩) rfl rfl
    dsimp only at ok
    split_ifs at ok
    · obtain ⟨⟨rrep', st₁⟩, acked, ok⟩ := bind_eq_ok ok
      obtain ⟨st₂, noted, ok⟩ := bind_eq_ok ok
      have first : Quiet st st₁ ∧ about (.RREP rrep') = about (.RREP rrep) := by
        rw [acknowledgeRREP] at acked
        split_ifs at acked
        · obtain ⟨st₃, sent, eq⟩ := bind_eq_ok acked
          cases eq
          exact ⟨lifeTime.trans (Quiet.sendAODVPacket (fun _ _ _ tells => by cases tells) sent), rfl⟩
        · cases acked
          exact ⟨lifeTime, rfl⟩
      have second : Quiet st₁ st₂ := by
        rw [notePrecursors] at noted
        split at noted
        · cases noted
        · dsimp only at noted
          split at noted
          · cases noted
          · cases noted
          · cases noted
            exact (Quiet.addPrecursor ..).trans (Quiet.addPrecursor ..)
      refine ordered.quiet_announce (first.1.trans second) (fun d sn hc tells => ?_) ok
      rw [first.2] at tells
      obtain ⟨rfl, rest⟩ := Prod.mk.inj (Option.some.inj tells)
      obtain ⟨rfl, rfl⟩ := Prod.mk.inj rest
      exact above
    · cases ok
      exact ⟨lifeTime.ordered ordered, lifeTime.grows⟩

/-- The RREP is a Hello message, or it does not set the node back. -/
def ForwardRREP (st : AODVRouting) (rrep : AODVRREP) (src : IPv4Address) : Prop :=
  rrep.destAddr ≠ st.selfIPAddress ∧
  (¬ rrep.originatorAddr.isUnspecified → src ≠ rrep.destAddr →
    TakenRREP st { rrep with hopCount := rrep.hopCount + 1 } →
      NotBelow st rrep.destAddr rrep.destSeqNum (rrep.hopCount + 1))

lemma Ordered.handleRREP {rrep : AODVRREP} (ordered : Ordered T st)
    (neighbor : src ≠ st.selfIPAddress) (told : T src rrep.destAddr rrep.destSeqNum rrep.hopCount)
    (forward : ForwardRREP st rrep src) (ok : st.handleRREP now rrep src = .ok st') :
    Ordered T st' ∧ Grows st st' := by
  obtain ⟨other, notBelow⟩ := forward
  rw [AODVRouting.handleRREP] at ok
  by_cases hello : rrep.originatorAddr.isUnspecified
  · rw [if_pos hello, handleHelloMessage] at ok
    have installed : Installed st rrep.destAddr rrep.destAddr (0 + 1) rrep.destSeqNum st' := by
      split at ok
      · exact installed_createRoute ok
      · exact installed_updateRoutingTable ok
    exact ⟨installed.ordered ordered other fun notDirect => absurd rfl notDirect,
      installed.same.grows⟩
  · rw [if_neg hello] at ok
    obtain ⟨st₁, hop, ok⟩ := bind_eq_ok ok
    obtain ⟨st₂, updated, ok⟩ := bind_eq_ok ok
    have first := installed_updatePreviousHop hop
    have ordered₁ := ordered.updatePreviousHop neighbor hop
    have taken_of : src ≠ rrep.destAddr →
        TakenRREP st₁ { rrep with hopCount := rrep.hopCount + 1 } →
        TakenRREP st { rrep with hopCount := rrep.hopCount + 1 } := by
      rintro ne (better | ⟨own, ongoing⟩)
      · refine Or.inl fun r found => better r ?_
        rw [first.get?_of_ne ne.symm]
        exact found
      · refine Or.inr ⟨own.trans first.same.self, ?_⟩
        rw [hasOngoingRouteDiscovery, ← first.same.timers]
        exact ongoing
    have may : TakenRREP st₁ { rrep with hopCount := rrep.hopCount + 1 } →
        MayInstall T st₁ rrep.destAddr src rrep.destSeqNum rrep.hopCount := fun taken ne =>
      ⟨told, first.same.notBelow (notBelow hello ne (taken_of ne taken))⟩
    have other₁ : rrep.destAddr ≠ st₁.selfIPAddress := by
      rw [first.same.self]
      exact other
    obtain ⟨ordered₂, second, above⟩ := ordered₁.updateForwardRoute
      { rrep with hopCount := rrep.hopCount + 1 } other₁ rfl may updated
    have grows := (first.same.trans second).grows
    split_ifs at ok with notOwn ongoing
    · obtain ⟨ordered', grows'⟩ := ordered₂.passOnRREP above ok
      exact ⟨ordered', grows.trans grows'⟩
    · obtain ⟨st₃, again, ok⟩ := bind_eq_ok ok
      have third := installed_updateRoutingTable again
      have taken : TakenRREP st₁ { rrep with hopCount := rrep.hopCount + 1 } := by
        refine Or.inr ⟨(not_not.mp notOwn).symm.trans second.self, ?_⟩
        rw [hasOngoingRouteDiscovery, ← second.timers]
        exact ongoing
      have ordered₃ := third.ordered ordered₂ (by rw [second.self]; exact other₁) fun ne =>
        ⟨told, second.notBelow (may taken ne).2⟩
      have quiet := Quiet.completeRouteDiscovery ok
      exact ⟨quiet.ordered ordered₃, grows.trans (third.same.grows.trans quiet.grows)⟩
    · cases ok
      exact ⟨ordered₂, grows⟩

/-! ## Requests -/

/-- The RREQ, its hop count increased, takes the place of the route to its originator. -/
def TakenRREQ (st : AODVRouting) (rreq : AODVRREQ) : Prop :=
  ∀ route, st.routes.get? rreq.originatorAddr = some route → betterRREQ route rreq

/-- The route to the originator is no newer than the RREQ. -/
def NotNewer (st : AODVRouting) (rreq : AODVRREQ) : Prop :=
  ∀ route, st.routes.get? rreq.originatorAddr = some route →
    route.destSeqNum ≤ rreq.originatorSeqNum

lemma Above.mono {sn' : ℕ} (above : Above st d sn hc) (le : sn' ≤ sn) : Above st d sn' hc := by
  intro r mem active notDirect
  rcases above r mem active notDirect with less | ⟨rfl, metric⟩
  · exact Or.inl (le.trans_lt less)
  · rcases le.lt_or_eq with less | rfl
    · exact Or.inl less
    · exact Or.inr ⟨rfl, metric⟩

lemma Ordered.updateReverseRoute (ordered : Ordered T st) (rreq : AODVRREQ)
    (other : rreq.originatorAddr ≠ st.selfIPAddress) (hops : rreq.hopCount = hc + 1)
    (may : TakenRREQ st rreq → MayInstall T st rreq.originatorAddr src rreq.originatorSeqNum hc)
    (notNewer : src ≠ rreq.originatorAddr → TakenRREQ st rreq → NotNewer st rreq)
    (ok : st.updateReverseRoute now rreq src = .ok st') :
    Ordered T st' ∧ SameTables st st' ∧
      Above st' rreq.originatorAddr rreq.originatorSeqNum (hc + 1) := by
  rw [AODVRouting.updateReverseRoute] at ok
  split at ok
  · next none_ =>
    rw [hops] at ok
    have installed := installed_createRoute ok
    refine ⟨installed.ordered ordered other (may fun r' found' => ?_),
      installed.same, installed.above⟩
    rw [none_] at found'
    cases found'
  · next r found =>
    split_ifs at ok with better
    · rw [hops] at ok
      have installed := installed_updateRoutingTable ok
      have taken : TakenRREQ st rreq := by
        intro r' found'
        rw [found] at found'
        obtain rfl := Option.some.inj found'
        exact better
      have mayMax : MayInstall T st rreq.originatorAddr src
          (max r.destSeqNum rreq.originatorSeqNum) hc := by
        intro notDirect
        rw [max_eq_right (notNewer notDirect taken r found)]
        exact may taken notDirect
      exact ⟨installed.ordered ordered other mayMax, installed.same,
        installed.above.mono (le_max_right ..)⟩
    · cases ok
      refine ⟨ordered, ⟨rfl, rfl, rfl, rfl, rfl⟩, fun r' mem active notDirect => ?_⟩
      obtain rfl := eq_of_mem mem (get?_eq_some.mp found)
      obtain ⟨notLess, notFewer, -⟩ := by
        simpa only [betterRREQ, not_or] using better
      rcases (not_lt.mp notLess).lt_or_eq with less | eq
      · exact Or.inl less
      · exact Or.inr ⟨eq, hops ▸ not_lt.mp fun fewer => notFewer ⟨eq, fewer⟩⟩

lemma Ordered.sendRREP {rrep : AODVRREP} (ordered : Ordered T st)
    (above : Above st rrep.destAddr rrep.destSeqNum rrep.hopCount)
    (ok : st.sendRREP now rrep addr ttl = .ok st') :
    Ordered T st' ∧ Grows st st' ∧ Fewer st.routes st'.routes := by
  have tells : ∀ ack d sn hc,
      about (.RREP { rrep with ackRequiredFlag := ack }) = some (d, sn, hc) → Above st d sn hc := by
    intro ack d sn hc tells
    obtain ⟨rfl, rest⟩ := Prod.mk.inj (Option.some.inj tells)
    obtain ⟨rfl, rfl⟩ := Prod.mk.inj rest
    exact above
  rw [AODVRouting.sendRREP] at ok
  split at ok
  · cases ok
  · cases ok
  · next destRoute _ =>
    have noted := Quiet.addPrecursor st addr destRoute.gateway
    split_ifs at ok
    · have failed : Quiet st { st.addPrecursor addr destRoute.gateway with
          failedNextHop := destRoute.gateway
          rrepAckTimer :=
            some (now + (st.addPrecursor addr destRoute.gateway).par.nextHopWait) } :=
        noted.trans (Quiet.of_fewer (Fewer.refl _) rfl rfl)
      obtain ⟨ordered', grows⟩ := ordered.quiet_announce failed (tells true) ok
      obtain ⟨-, -, eq⟩ := bind_eq_ok ok
      cases eq
      exact ⟨ordered', grows, noted.routes⟩
    · obtain ⟨ordered', grows⟩ := ordered.quiet_announce noted (tells rrep.ackRequiredFlag) ok
      obtain ⟨-, -, eq⟩ := bind_eq_ok ok
      cases eq
      exact ⟨ordered', grows, noted.routes⟩

lemma Ordered.above_self (ordered : Ordered T st) (sn hc : ℕ) : Above st st.selfIPAddress sn hc :=
  fun r mem => absurd mem (ordered.noSelf r)

variable {rreq : AODVRREQ}

lemma Ordered.replyAsDestination (ordered : Ordered T st) (own : rreq.destAddr = st.selfIPAddress)
    (ok : st.replyAsDestination now rreq = .ok st') : Ordered T st' ∧ Grows st st' := by
  have counted : ∀ sequenceNum, Quiet st { st with sequenceNum := sequenceNum } :=
    fun _ => Quiet.of_fewer (Fewer.refl _) rfl rfl
  have quiet := counted (if rreq.unknownSeqNumFlag = false ∧
    st.sequenceNum + 1 = rreq.destSeqNum then st.sequenceNum + 1 else st.sequenceNum)
  have ordered' := quiet.ordered ordered
  obtain ⟨done, grows, -⟩ := ordered'.sendRREP (by rw [own]; exact ordered'.above_self _ _) ok
  exact ⟨done, quiet.grows.trans grows⟩

lemma above_route (mem : (d, r) ∈ st.routes) : Above st d r.destSeqNum r.metric := by
  intro r' mem' _ _
  obtain rfl := eq_of_mem mem mem'
  exact Or.inr ⟨rfl, le_rfl⟩

lemma Ordered.replyAsIntermediate {destRoute : AODVRoute} (ordered : Ordered T st)
    (mem : (rreq.destAddr, destRoute) ∈ st.routes)
    (ok : st.replyAsIntermediate now rreq destRoute src = .ok st') :
    Ordered T st' ∧ Grows st st' ∧ Fewer st.routes st'.routes := by
  have quiet := (Quiet.addPrecursor st rreq.destAddr src).trans
    (Quiet.addPrecursor _ rreq.originatorAddr destRoute.gateway)
  obtain ⟨ordered', grows, fewer⟩ :=
    (quiet.ordered ordered).sendRREP (quiet.above (above_route mem)) ok
  exact ⟨ordered', quiet.grows.trans grows, Fewer.trans quiet.routes fewer⟩

lemma Ordered.replyGratuitously (ordered : Ordered T st)
    (above : Above st rreq.originatorAddr rreq.originatorSeqNum hc)
    (ok : st.replyGratuitously now rreq = .ok st') : Ordered T st' ∧ Grows st st' := by
  rw [AODVRouting.replyGratuitously] at ok
  split_ifs at ok
  · split at ok
    · cases ok
    · cases ok
    · next originatorRoute found =>
      rw [sendGRREP] at ok
      split at ok
      · cases ok
      · refine ordered.announce (fun d sn hops tells => ?_) ok
        obtain ⟨rfl, rest⟩ := Prod.mk.inj (Option.some.inj tells)
        obtain ⟨rfl, rfl⟩ := Prod.mk.inj rest
        intro r mem active notDirect
        rw [findBestMatchingRoute, get?_eq_some.mpr mem] at found
        cases found
        rcases above _ mem active notDirect with less | ⟨eq, -⟩
        · exact Or.inl less
        · exact Or.inr ⟨eq, le_rfl⟩
  · cases ok
    exact ⟨ordered, Grows.refl _⟩

lemma Ordered.passOnRREQ (ordered : Ordered T st)
    (above : Above st rreq.originatorAddr rreq.originatorSeqNum rreq.hopCount)
    (ok : st.passOnRREQ now rreq ttl = .ok st') : Ordered T st' ∧ Grows st st' := by
  rw [AODVRouting.passOnRREQ] at ok
  split_ifs at ok
  · refine ordered.announce (fun d sn hops tells => ?_) ok
    obtain ⟨rfl, rest⟩ := Prod.mk.inj (Option.some.inj tells)
    obtain ⟨rfl, rfl⟩ := Prod.mk.inj rest
    exact above
  · cases ok
    exact ⟨ordered, Grows.refl _⟩

lemma Ordered.answerRREQ (ordered : Ordered T st)
    (above : Above st rreq.originatorAddr rreq.originatorSeqNum rreq.hopCount)
    (ok : st.answerRREQ now rreq src ttl = .ok st') : Ordered T st' ∧ Grows st st' := by
  rw [AODVRouting.answerRREQ] at ok
  split_ifs at ok with own
  · exact ordered.replyAsDestination own ok
  · split at ok
    · next destRoute fresh =>
      have mem : (rreq.destAddr, destRoute) ∈ st.routes := by
        rw [freshRoute] at fresh
        split at fresh
        · next r found =>
          split_ifs at fresh
          cases fresh
          exact get?_eq_some.mp found
        · cases fresh
      split_ifs at ok
      · cases ok
        exact ⟨ordered, Grows.refl _⟩
      · obtain ⟨st₁, replied, ok⟩ := bind_eq_ok ok
        obtain ⟨ordered₁, grows, fewer⟩ := ordered.replyAsIntermediate mem replied
        obtain ⟨ordered', grows'⟩ := ordered₁.replyGratuitously (fewer.above above) ok
        exact ⟨ordered', grows.trans grows'⟩
    · exact ordered.passOnRREQ above ok

/-- The RREQ is ignored, or it does not set the node back. -/
def ForwardRREQ (st : AODVRouting) (now : ℤ) (rreq : AODVRREQ) (src : IPv4Address) : Prop :=
  (st.blacklist.get? src).isSome ∨ st.seenBefore now rreq ∨
    (rreq.originatorAddr ≠ st.selfIPAddress ∧
      (src ≠ rreq.originatorAddr → TakenRREQ st { rreq with hopCount := rreq.hopCount + 1 } →
        NotBelow st rreq.originatorAddr rreq.originatorSeqNum (rreq.hopCount + 1) ∧
          NotNewer st rreq))

lemma Ordered.handleRREQ (ordered : Ordered T st) (neighbor : src ≠ st.selfIPAddress)
    (told : T src rreq.originatorAddr rreq.originatorSeqNum rreq.hopCount)
    (forward : ForwardRREQ st now rreq src) (ok : st.handleRREQ now rreq src ttl = .ok st') :
    Ordered T st' ∧ Grows st st' := by
  rw [AODVRouting.handleRREQ] at ok
  by_cases blacklisted : (st.blacklist.get? src).isSome
  · rw [if_pos blacklisted] at ok
    cases ok
    exact ⟨ordered, Grows.refl _⟩
  · rw [if_neg blacklisted] at ok
    obtain ⟨st₁, hop, ok⟩ := bind_eq_ok ok
    have first := installed_updatePreviousHop hop
    have ordered₁ := ordered.updatePreviousHop neighbor hop
    have sameSeen : st₁.seenBefore now rreq ↔ st.seenBefore now rreq := by
      rw [seenBefore, seenBefore, first.same.seen, first.same.par]
    split_ifs at ok with seen
    · cases ok
      exact ⟨ordered₁, first.same.grows⟩
    · rcases forward with ignored | ignored | ⟨other, notBack⟩
      · exact absurd ignored blacklisted
      · exact absurd (sameSeen.mpr ignored) seen
      have noted : Quiet st₁
          { st₁ with rreqsArrivalTime := st₁.rreqsArrivalTime.put rreq.rreqId now } :=
        Quiet.of_fewer (Fewer.refl _) rfl rfl
      obtain ⟨st₂, updated, ok⟩ := bind_eq_ok ok
      have before : src ≠ rreq.originatorAddr →
          st₁.routes.get? rreq.originatorAddr = st.routes.get? rreq.originatorAddr :=
        fun ne => first.get?_of_ne ne.symm
      have taken_of : src ≠ rreq.originatorAddr →
          TakenRREQ { st₁ with rreqsArrivalTime := st₁.rreqsArrivalTime.put rreq.rreqId now }
            { rreq with hopCount := rreq.hopCount + 1 } →
          TakenRREQ st { rreq with hopCount := rreq.hopCount + 1 } := by
        intro ne taken r found
        refine taken r ?_
        rw [← found]
        exact before ne
      obtain ⟨ordered₂, second, above⟩ := (noted.ordered ordered₁).updateReverseRoute
        { rreq with hopCount := rreq.hopCount + 1 }
        (fun eq => other (eq.trans first.same.self)) rfl
        (fun taken ne => ⟨told, fun sn' hc' announced =>
          first.same.notBelow (notBack ne (taken_of ne taken)).1 sn' hc' announced⟩)
        (fun ne taken r found => (notBack ne (taken_of ne taken)).2 r (by
          rw [← found]
          exact (before ne).symm)) updated
      obtain ⟨ordered', grows⟩ := ordered₂.answerRREQ above ok
      exact ⟨ordered', (first.same.grows.trans noted.grows).trans (second.grows.trans grows)⟩

/-- An acknowledgement does not bring back a route that had been given up, unless it is direct. -/
def ForwardRREPACK (st : AODVRouting) (src : IPv4Address) : Prop :=
  ∀ route, st.routes.get? src = some route → route.isActive = true ∨ route.gateway = src

lemma Ordered.handleRREPACK (ordered : Ordered T st) (forward : ForwardRREPACK st src)
    (ok : st.handleRREPACK src = .ok st') : Ordered T st' ∧ Grows st st' := by
  obtain ⟨-, -, ok⟩ := bind_eq_ok ok
  split at ok
  · next r found =>
    cases ok
    have mem := get?_eq_some.mp found
    rcases forward r found with active | direct
    · have quiet : Quiet st { st with
          routes := st.routes.put src { r with isActive := true }
          rrepAckTimer := none } :=
        Quiet.of_fewer (Fewer.put mem fun _ => ⟨active, rfl, rfl, rfl⟩) rfl rfl
      exact ⟨quiet.ordered ordered, quiet.grows⟩
    · have other : src ≠ st.selfIPAddress := by
        rintro rfl
        exact ordered.noSelf r mem
      have put : Ordered T { st with
          routes := st.routes.put src { r with isActive := true } } :=
        ordered.put other fun notDirect => absurd direct notDirect
      have quiet : Quiet { st with routes := st.routes.put src { r with isActive := true } }
          { st with
            routes := st.routes.put src { r with isActive := true }
            rrepAckTimer := none } :=
        Quiet.of_fewer (Fewer.refl _) rfl rfl
      exact ⟨quiet.ordered put, rfl, fun _ mem => mem⟩
  · cases ok
    exact ⟨ordered, Grows.refl _⟩

end Inet.Aodv
