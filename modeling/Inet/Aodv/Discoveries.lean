import Inet.Aodv.AODVRouting

/-!
# Datagrams that wait for a route

The datagrams that wait, their discoveries and the queue change in few places (`SameQueue`). As long
as no request fails, a discovery whose timer runs belongs to the datagrams of each target
(`Waiting`).
-/

namespace Inet.Aodv

open Ipv4 AODVRouting Inet.Except

variable {st st' st'' : AODVRouting} {now : ℤ} {a target : IPv4Address} {datagram : IPv4Datagram}

/-! ## What leaves the waiting datagrams alone -/

structure SameQueue (st st' : AODVRouting) : Prop where
  par : st'.par = st.par
  retries : st'.addressToRreqRetries = st.addressToRreqRetries
  timers : st'.waitForRREPTimers = st.waitForRREPTimers
  delayed : st'.targetAddressToDelayedPackets = st.targetAddressToDelayedPackets
  queued : st'.queuedDatagramsForHooks = st.queuedDatagramsForHooks
  reinjected : st'.reinjected = st.reinjected
  dropped : st'.dropped = st.dropped
  self : st'.selfIPAddress = st.selfIPAddress

namespace SameQueue

lemma refl (st : AODVRouting) : SameQueue st st := ⟨rfl, rfl, rfl, rfl, rfl, rfl, rfl, rfl⟩

lemma trans (first : SameQueue st st') (second : SameQueue st' st'') : SameQueue st st'' :=
  ⟨second.par.trans first.par, second.retries.trans first.retries,
    second.timers.trans first.timers, second.delayed.trans first.delayed,
    second.queued.trans first.queued, second.reinjected.trans first.reinjected,
    second.dropped.trans first.dropped, second.self.trans first.self⟩

lemma after (second : SameQueue st' st'') (first : SameQueue st st') : SameQueue st st'' :=
  first.trans second

lemma scheduleExpungeRoutes (ok : st.scheduleExpungeRoutes now = .ok st') : SameQueue st st' := by
  rw [AODVRouting.scheduleExpungeRoutes] at ok
  split at ok
  · cases ok
    exact ⟨rfl, rfl, rfl, rfl, rfl, rfl, rfl, rfl⟩
  · split_ifs at ok
    · cases ok
      exact refl _
    · obtain ⟨t, -, eq⟩ := bind_eq_ok ok
      cases eq
      exact ⟨rfl, rfl, rfl, rfl, rfl, rfl, rfl, rfl⟩

lemma scheduleExpungeRoutesIf {changed : Bool}
    (ok : st.scheduleExpungeRoutesIf now changed = .ok st') : SameQueue st st' := by
  rw [AODVRouting.scheduleExpungeRoutesIf] at ok
  split_ifs at ok
  · exact scheduleExpungeRoutes ok
  · cases ok
    exact refl _

lemma of_routes {routes : OrderedMap IPv4Address AODVRoute}
    (same : SameQueue { st with routes := routes } st') : SameQueue st st' :=
  same.after ⟨rfl, rfl, rfl, rfl, rfl, rfl, rfl, rfl⟩

lemma updateRoutingTable {nextHop : IPv4Address} {hopCount destSeqNum : ℕ} {valid active : Bool}
    {lifeTime : ℤ} (ok : st.updateRoutingTable now a nextHop hopCount valid destSeqNum active
      lifeTime = .ok st') : SameQueue st st' := by
  rw [AODVRouting.updateRoutingTable] at ok
  split at ok
  · cases ok
  · exact of_routes (scheduleExpungeRoutes ok)

lemma createRoute {nextHop : IPv4Address} {hopCount destSeqNum : ℕ} {valid active : Bool}
    {lifeTime : ℤ} (ok : st.createRoute now a nextHop hopCount valid destSeqNum active
      lifeTime = .ok st') : SameQueue st st' :=
  of_routes (scheduleExpungeRoutes ok)

lemma addPrecursor (st : AODVRouting) (dest precursor : IPv4Address) :
    SameQueue st (st.addPrecursor dest precursor) := by
  rw [AODVRouting.addPrecursor]
  split
  · exact refl _
  · exact ⟨rfl, rfl, rfl, rfl, rfl, rfl, rfl, rfl⟩

lemma updateValidRouteLifeTime (st : AODVRouting) (dest : IPv4Address) (lifetime : ℤ) :
    SameQueue st (st.updateValidRouteLifeTime dest lifetime) := by
  rw [AODVRouting.updateValidRouteLifeTime]
  split
  · exact refl _
  · split_ifs
    · exact ⟨rfl, rfl, rfl, rfl, rfl, rfl, rfl, rfl⟩
    · exact refl _

lemma updateGatewayLifeTime (st before : AODVRouting) (dest : IPv4Address) (lifetime : ℤ) :
    SameQueue st (st.updateGatewayLifeTime dest lifetime before) := by
  rw [AODVRouting.updateGatewayLifeTime]
  split
  · exact updateValidRouteLifeTime ..
  · exact refl _

lemma sendAODVPacket {packet : AODVControlPacket} {ttl : ℕ}
    (ok : st.sendAODVPacket now packet a ttl = .ok st') : SameQueue st st' := by
  obtain ⟨-, -, eq⟩ := bind_eq_ok ok
  cases eq
  exact ⟨rfl, rfl, rfl, rfl, rfl, rfl, rfl, rfl⟩

lemma broadcastRERR {nodes : List UnreachableNode} (ok : st.broadcastRERR now nodes = .ok st') :
    SameQueue st st' := by
  rw [AODVRouting.broadcastRERR] at ok
  split_ifs at ok
  · cases ok
    exact refl _
  · exact (sendAODVPacket ok).after ⟨rfl, rfl, rfl, rfl, rfl, rfl, rfl, rfl⟩

variable {rrep : AODVRREP}

lemma sendRREP {ttl : ℕ} (ok : st.sendRREP now rrep a ttl = .ok st') : SameQueue st st' := by
  rw [AODVRouting.sendRREP] at ok
  split at ok
  · cases ok
  · cases ok
  · next destRoute _ =>
    have added := addPrecursor st a destRoute.gateway
    split_ifs at ok
    · have sent : SameQueue (st.addPrecursor a destRoute.gateway) st' :=
        (sendAODVPacket ok).after ⟨rfl, rfl, rfl, rfl, rfl, rfl, rfl, rfl⟩
      exact added.trans sent
    · exact added.trans (sendAODVPacket ok)

lemma sendGRREP {ttl : ℕ} (ok : st.sendGRREP now rrep a ttl = .ok st') : SameQueue st st' := by
  rw [AODVRouting.sendGRREP] at ok
  split at ok
  · cases ok
  · exact sendAODVPacket ok

lemma datagramWithoutRoute (ok : st.datagramWithoutRoute now a = .ok st') : SameQueue st st' := by
  rw [AODVRouting.datagramWithoutRoute] at ok
  split at ok
  · next route _ =>
    by_cases active : route.isActive
    · rw [if_pos active] at ok
      cases ok
      exact refl _
    · rw [if_neg active] at ok
      exact of_routes (broadcastRERR ok)
  · exact broadcastRERR ok

lemma datagramForwardHook (ok : st.datagramForwardHook now datagram = .ok st') :
    SameQueue st st' := by
  rw [AODVRouting.datagramForwardHook] at ok
  split_ifs at ok
  · cases ok
    exact updateGatewayLifeTime ..
  · cases ok
    exact refl _
  · exact (updateValidRouteLifeTime ..).trans ((updateValidRouteLifeTime ..).trans
      ((updateGatewayLifeTime ..).trans ((updateGatewayLifeTime ..).trans
        (datagramWithoutRoute ok))))

lemma handleHelloMessage {hello : AODVRREP} (ok : st.handleHelloMessage now hello = .ok st') :
    SameQueue st st' := by
  rw [AODVRouting.handleHelloMessage] at ok
  split at ok
  · exact createRoute ok
  · exact updateRoutingTable ok

lemma updatePreviousHop {seqNum : ℕ} (ok : st.updatePreviousHop now a seqNum = .ok st') :
    SameQueue st st' := by
  rw [AODVRouting.updatePreviousHop] at ok
  split at ok
  · exact createRoute ok
  · exact updateRoutingTable ok

lemma updateForwardRoute (ok : st.updateForwardRoute now rrep a = .ok st') :
    SameQueue st st' := by
  rw [AODVRouting.updateForwardRoute] at ok
  split at ok
  · split_ifs at ok
    · exact updateRoutingTable ok
    · cases ok
      exact refl _
  · exact createRoute ok

lemma acknowledgeRREP {rrep' : AODVRREP}
    (ok : st.acknowledgeRREP now rrep a = .ok (rrep', st')) : SameQueue st st' := by
  rw [AODVRouting.acknowledgeRREP] at ok
  split_ifs at ok
  · obtain ⟨_, sent, eq⟩ := bind_eq_ok ok
    cases eq
    exact sendAODVPacket sent
  · cases ok
    exact refl _

lemma notePrecursors {precursor : IPv4Address}
    (ok : st.notePrecursors a precursor = .ok st') : SameQueue st st' := by
  rw [AODVRouting.notePrecursors] at ok
  split at ok
  · cases ok
  · dsimp only at ok
    split at ok
    · cases ok
    · cases ok
    · cases ok
      exact (addPrecursor ..).trans (addPrecursor ..)

lemma passOnRREP (ok : st.passOnRREP now rrep a = .ok st') : SameQueue st st' := by
  rw [AODVRouting.passOnRREP] at ok
  split at ok
  · cases ok
    exact refl _
  · dsimp only at ok
    split_ifs at ok
    · obtain ⟨⟨_, _⟩, acked, ok⟩ := bind_eq_ok ok
      obtain ⟨_, noted, ok⟩ := bind_eq_ok ok
      exact of_routes ((acknowledgeRREP acked).trans ((notePrecursors noted).trans
        (sendAODVPacket ok)))
    · cases ok
      exact ⟨rfl, rfl, rfl, rfl, rfl, rfl, rfl, rfl⟩

lemma updateReverseRoute {rreq : AODVRREQ} (ok : st.updateReverseRoute now rreq a = .ok st') :
    SameQueue st st' := by
  rw [AODVRouting.updateReverseRoute] at ok
  split at ok
  · exact createRoute ok
  · split_ifs at ok
    · exact updateRoutingTable ok
    · cases ok
      exact refl _

lemma answerRREQ {rreq : AODVRREQ} {ttl : ℕ} (ok : st.answerRREQ now rreq a ttl = .ok st') :
    SameQueue st st' := by
  rw [AODVRouting.answerRREQ] at ok
  split_ifs at ok
  · exact (sendRREP ok).after ⟨rfl, rfl, rfl, rfl, rfl, rfl, rfl, rfl⟩
  · split at ok
    · split_ifs at ok
      · cases ok
        exact refl _
      · obtain ⟨st₁, replied, ok⟩ := bind_eq_ok ok
        have same : SameQueue st st₁ :=
          (addPrecursor ..).trans ((addPrecursor ..).trans (sendRREP replied))
        rw [replyGratuitously] at ok
        split_ifs at ok
        · split at ok
          · cases ok
          · cases ok
          · exact same.trans (sendGRREP ok)
        · cases ok
          exact same
    · rw [passOnRREQ] at ok
      split_ifs at ok
      · exact sendAODVPacket ok
      · cases ok
        exact refl _

lemma handleRREQ {rreq : AODVRREQ} {ttl : ℕ} (ok : st.handleRREQ now rreq a ttl = .ok st') :
    SameQueue st st' := by
  rw [AODVRouting.handleRREQ] at ok
  split_ifs at ok
  · cases ok
    exact refl _
  · obtain ⟨st₁, hop, ok⟩ := bind_eq_ok ok
    split_ifs at ok
    · cases ok
      exact updatePreviousHop hop
    · obtain ⟨st₂, reverse, ok⟩ := bind_eq_ok ok
      have answered := (updateReverseRoute reverse).trans (answerRREQ ok)
      exact (updatePreviousHop hop).trans (answered.after ⟨rfl, rfl, rfl, rfl, rfl, rfl, rfl, rfl⟩)

lemma handleRERR {rerr : AODVRERR} (ok : st.handleRERR now rerr a = .ok st') :
    SameQueue st st' := by
  obtain ⟨st₁, scheduled, ok⟩ := bind_eq_ok ok
  have same := of_routes (scheduleExpungeRoutesIf scheduled)
  split_ifs at ok
  · exact same.trans (broadcastRERR ok)
  · cases ok
    exact same

lemma handleRREPACK (ok : st.handleRREPACK a = .ok st') : SameQueue st st' := by
  obtain ⟨_, -, ok⟩ := bind_eq_ok ok
  split at ok
  · cases ok
    exact ⟨rfl, rfl, rfl, rfl, rfl, rfl, rfl, rfl⟩
  · cases ok
    exact refl _

lemma receiveChangeNotification (ok : st.receiveChangeNotification now a = .ok st') :
    SameQueue st st' := by
  rw [AODVRouting.receiveChangeNotification] at ok
  split at ok
  · cases ok
    exact refl _
  · rw [handleLinkBreakSendRERR] at ok
    split at ok
    · cases ok
      exact refl _
    · split_ifs at ok
      obtain ⟨st₁, scheduled, ok⟩ := bind_eq_ok ok
      exact of_routes ((scheduleExpungeRoutesIf scheduled).trans (broadcastRERR ok))

lemma sendHelloMessagesIfNeeded {nextHello : ℤ}
    (ok : st.sendHelloMessagesIfNeeded now nextHello = .ok st') : SameQueue st st' := by
  rw [AODVRouting.sendHelloMessagesIfNeeded] at ok
  split_ifs at ok
  · exact (sendAODVPacket ok).after ⟨rfl, rfl, rfl, rfl, rfl, rfl, rfl, rfl⟩
  · cases ok
    exact ⟨rfl, rfl, rfl, rfl, rfl, rfl, rfl, rfl⟩

end SameQueue

end Inet.Aodv
