import Inet.Aodv.ForwardPackets

/-!
# Loop freedom

Packets arrive late, more than once, or never. When none sets its node back (`Forward`), the next
hops never form a loop (`loop_free`). The handlers do not see to that (`loop_of_late_reply`).
-/

namespace Inet.Aodv

open Ipv4 AODVRouting

variable {st st' : AODVRouting} {now clock : ℤ} {event : Event} {d n m : IPv4Address} {sn hc : ℕ}
  {T T' : IPv4Address → IPv4Address → ℕ → ℕ → Prop}

/-- The event does not set the node back behind what it has told the others. -/
def Forward (st : AODVRouting) (now : ℤ) : Event → Prop
  | .packet packet =>
      match packet.ctrlPacket with
      | .RREQ rreq => ForwardRREQ st now rreq packet.srcAddr
      | .RREP rrep => ForwardRREP st rrep packet.srcAddr
      | .RERR _ => True
      | .RREPACK => ForwardRREPACK st packet.srcAddr
  | _ => True

/-- The packet comes from another node, which has told what it says. -/
def Heard (T : IPv4Address → IPv4Address → ℕ → ℕ → Prop) (st : AODVRouting) : Event → Prop
  | .packet packet => packet.srcAddr ≠ st.selfIPAddress ∧
      ∀ d sn hc, about packet.ctrlPacket = some (d, sn, hc) → T packet.srcAddr d sn hc
  | _ => True

lemma Ordered.handlePacket {packet : UDPPacket} (ordered : Ordered T st)
    (heard : Heard T st (.packet packet)) (forward : Forward st now (.packet packet))
    (ok : st.handlePacket now packet = .ok st') : Ordered T st' ∧ Grows st st' := by
  obtain ⟨srcAddr, destAddr, timeToLive, ctrlPacket⟩ := packet
  obtain ⟨neighbor, tells⟩ := heard
  cases ctrlPacket with
  | RREQ rreq => exact ordered.handleRREQ neighbor (tells _ _ _ rfl) forward ok
  | RREP rrep => exact ordered.handleRREP neighbor (tells _ _ _ rfl) forward ok
  | RERR rerr =>
    have quiet := Quiet.handleRERR ok
    exact ⟨quiet.ordered ordered, quiet.grows⟩
  | RREPACK => exact ordered.handleRREPACK forward ok

lemma Quiet.handle (noPacket : ∀ packet, event ≠ .packet packet)
    (ok : st.handle now event = .ok st') : Quiet st st' := by
  cases event with
  | datagram datagram hookType => exact Quiet.datagramHook ok
  | forwarded datagram => exact Quiet.datagramForwardHook ok
  | packet packet => exact absurd rfl (noPacket packet)
  | waitForRREP target =>
    rw [AODVRouting.handle] at ok
    split at ok
    · next timer st₁ fired =>
      have stopped : Quiet st st₁ := by
        rw [fire] at fired
        split at fired
        · split_ifs at fired
          cases fired
          exact Quiet.of_fewer (Fewer.refl _) rfl rfl
        · cases fired
      exact stopped.trans (Quiet.handleWaitForRREP ok)
    · cases ok
  | hello nextHello => exact Quiet.sendHelloMessagesIfNeeded ok
  | expunge => exact Quiet.expungeRoutes ok
  | counter =>
    cases ok
    exact Quiet.of_fewer (Fewer.refl _) rfl rfl
  | rrepAck =>
    cases ok
    exact Quiet.of_fewer (Fewer.refl _) rfl rfl
  | blacklist =>
    rw [AODVRouting.handle, handleBlackListTimer] at ok
    split_ifs at ok
    cases ok
    exact Quiet.of_fewer (Fewer.refl _) rfl rfl
  | linkBreak destAddress => exact Quiet.receiveChangeNotification ok
  | otherRoutes otherRoutes =>
    cases ok
    exact Quiet.of_fewer (Fewer.refl _) rfl rfl

lemma Ordered.handle (ordered : Ordered T st) (heard : Heard T st event)
    (forward : Forward st now event) (ok : st.handle now event = .ok st') :
    Ordered T st' ∧ Grows st st' := by
  by_cases isPacket : ∃ packet, event = .packet packet
  · obtain ⟨packet, rfl⟩ := isPacket
    exact ordered.handlePacket heard forward ok
  · have quiet := Quiet.handle (fun packet eq => isPacket ⟨packet, eq⟩) ok
    exact ⟨quiet.ordered ordered, quiet.grows⟩

/-! ## The network -/

/-- The nodes, by address. -/
abbrev Net := IPv4Address → AODVRouting

/-- A node that has been started and has done nothing yet. -/
def Started (n : IPv4Address) (st : AODVRouting) : Prop :=
  ∃ par localAddresses otherRoutes helloMsgTimer,
    st = AODVRouting.init par n localAddresses otherRoutes helloMsgTimer

/-- A packet that arrives at the node has been sent by another one, at any time before, and to this
node or to all. -/
def Arrives (net : Net) (n : IPv4Address) : Event → Prop
  | .packet packet => packet.srcAddr ≠ n ∧ packet ∈ (net packet.srcAddr).sent ∧
      (isLimitedBroadcastAddress packet.destAddr ∨ packet.destAddr = n)
  | _ => True

/-- What the network reaches by events that are allowed, with the time of the last one. -/
inductive Reached (allowed : AODVRouting → ℤ → Event → Prop) : ℤ → Net → Prop
  | start {net : Net} (started : ∀ n, Started n (net n)) : Reached allowed 0 net
  | event {clock : ℤ} {net : Net} (before : Reached allowed clock net) (n : IPv4Address) (now : ℤ)
      (later : clock ≤ now) (event : Event) (arrives : Arrives net n event)
      (can : (net n).Can now event) (may : allowed (net n) now event) (st : AODVRouting)
      (ok : (net n).handle now event = .ok st) : Reached allowed now (Function.update net n st)

/-- The node has an active route to the destination over the other one. -/
def NextHop (net : Net) (d n m : IPv4Address) : Prop :=
  ∃ route, (net n).routes.get? d = some route ∧ route.isActive = true ∧ route.gateway = m

def LoopFree (net : Net) : Prop := ∀ d n, ¬ Relation.TransGen (NextHop net d) n n

/-- What the nodes have told. -/
def Told (net : Net) (n : IPv4Address) : IPv4Address → ℕ → ℕ → Prop := Announced (net n)

def Sound (net : Net) : Prop := ∀ n, (net n).selfIPAddress = n ∧ Ordered (Told net) (net n)

lemma Ordered.mono (ordered : Ordered T st) (more : ∀ n d sn hc, T n d sn hc → T' n d sn hc) :
    Ordered T' st where
  noSelf := ordered.noSelf
  told mem active notDirect := by
    obtain ⟨hc, metric, told⟩ := ordered.told mem active notDirect
    exact ⟨hc, metric, more _ _ _ _ told⟩
  notBelow := ordered.notBelow
  srcAddr := ordered.srcAddr

variable {net : Net}

lemma sound_of_started (started : ∀ n, Started n (net n)) : Sound net := by
  intro n
  obtain ⟨par, localAddresses, otherRoutes, helloMsgTimer, eq⟩ := started n
  rw [eq]
  have noRoutes : ∀ entry, entry ∉ (OrderedMap.empty : OrderedMap IPv4Address AODVRoute) :=
    fun entry mem => List.not_mem_nil mem
  exact ⟨rfl, fun _ mem => noRoutes _ mem, fun mem => absurd mem (noRoutes _),
    fun mem => absurd mem (noRoutes _), fun _ mem => absurd mem List.not_mem_nil⟩

lemma Sound.heard (sound : Sound net) (arrives : Arrives net n event) :
    Heard (Told net) (net n) event := by
  cases event with
  | packet packet =>
    obtain ⟨neighbor, sent, -⟩ := arrives
    exact ⟨fun eq => neighbor (eq.trans (sound n).1), fun d sn hc tells => ⟨packet, sent, tells⟩⟩
  | _ => trivial

lemma Sound.update (sound : Sound net) (ordered : Ordered (Told net) st)
    (grows : Grows (net n) st) : Sound (Function.update net n st) := by
  have more : ∀ m d sn hc, Told net m d sn hc → Told (Function.update net n st) m d sn hc := by
    rintro m d sn hc ⟨packet, sent, tells⟩
    rw [Told]
    by_cases eq : m = n
    · subst eq
      rw [Function.update_self]
      exact ⟨packet, grows.sent sent, tells⟩
    · rw [Function.update_of_ne eq]
      exact ⟨packet, sent, tells⟩
  intro m
  by_cases eq : m = n
  · subst eq
    rw [Function.update_self]
    exact ⟨grows.self.trans (sound m).1, ordered.mono more⟩
  · rw [Function.update_of_ne eq]
    exact ⟨(sound m).1, (sound m).2.mono more⟩

lemma Reached.sound (reached : Reached Forward clock net) : Sound net := by
  induction reached with
  | start started => exact sound_of_started started
  | event before n now later event arrives can may st ok sound =>
    obtain ⟨ordered, grows⟩ := (sound n).2.handle (sound.heard arrives) may ok
    exact sound.update ordered grows

/-- A higher sequence number, or the same one and fewer hops. -/
def Better (closer route : AODVRoute) : Prop :=
  route.destSeqNum < closer.destSeqNum ∨
    (route.destSeqNum = closer.destSeqNum ∧ closer.metric < route.metric)

lemma Better.trans {a b c : AODVRoute} (first : Better b a) (second : Better c b) :
    Better c a := by
  rcases first with less | ⟨eq, fewer⟩ <;> rcases second with less' | ⟨eq', fewer'⟩
  · exact Or.inl (less.trans less')
  · exact Or.inl (eq' ▸ less)
  · exact Or.inl (eq ▸ less')
  · exact Or.inr ⟨eq.trans eq', fewer'.trans fewer⟩

/-- The other node is not the destination. -/
def Over (net : Net) (d n m : IPv4Address) : Prop := NextHop net d n m ∧ m ≠ d

lemma Sound.ne_of_nextHop (sound : Sound net) (edge : NextHop net d n m) : n ≠ d := by
  rintro rfl
  obtain ⟨route, found, -⟩ := edge
  refine (sound n).2.noSelf route ?_
  rw [(sound n).1]
  exact OrderedMap.get?_eq_some.mp found

lemma Sound.over_of_nextHop (sound : Sound net) {a b c : IPv4Address}
    (path : Relation.TransGen (NextHop net d) a b) (next : NextHop net d b c) :
    Relation.TransGen (Over net d) a b := by
  induction path generalizing c with
  | single edge => exact .single ⟨edge, sound.ne_of_nextHop next⟩
  | tail _ edge ih => exact .tail (ih edge) ⟨edge, sound.ne_of_nextHop next⟩

lemma Sound.better (sound : Sound net) {closer route : AODVRoute}
    (found : (net n).routes.get? d = some route) (active : route.isActive = true)
    (leads : route.gateway = m) (ne : m ≠ d) (found' : (net m).routes.get? d = some closer)
    (active' : closer.isActive = true) (ne' : closer.gateway ≠ d) : Better closer route := by
  subst leads
  obtain ⟨hc, metric, told⟩ := (sound n).2.told (OrderedMap.get?_eq_some.mp found) active ne
  rcases (sound _).2.notBelow (OrderedMap.get?_eq_some.mp found') active' ne' _ _ told with
    less | ⟨eq, le⟩
  · exact Or.inl less
  · exact Or.inr ⟨eq, metric ▸ Nat.lt_succ_of_le le⟩

lemma Sound.better_of_over (sound : Sound net) {a c : IPv4Address}
    (path : Relation.TransGen (Over net d) a c) {closer route : AODVRoute}
    (found : (net a).routes.get? d = some route) (active : route.isActive = true)
    (ne : route.gateway ≠ d) (found' : (net c).routes.get? d = some closer)
    (active' : closer.isActive = true) (ne' : closer.gateway ≠ d) : Better closer route := by
  induction path generalizing closer with
  | single edge =>
    obtain ⟨⟨route', found'', -, gateway⟩, -⟩ := edge
    rw [found] at found''
    obtain rfl := Option.some.inj found''
    exact sound.better found active rfl ne (gateway ▸ found') active' ne'
  | tail _ edge ih =>
    obtain ⟨⟨route', found'', active'', gateway⟩, neLast⟩ := edge
    have first := ih found'' active'' (gateway ▸ neLast)
    exact first.trans (sound.better found'' active'' gateway neLast found' active' ne')

lemma Sound.loopFree (sound : Sound net) : LoopFree net := by
  intro d n loop
  obtain ⟨m, first, -⟩ := Relation.TransGen.head'_iff.mp loop
  have path := sound.over_of_nextHop loop first
  obtain ⟨m', ⟨⟨route, found, active, gateway⟩, ne⟩, -⟩ := Relation.TransGen.head'_iff.mp path
  rw [← gateway] at ne
  rcases sound.better_of_over path found active ne found active ne with less | ⟨-, fewer⟩
  · exact less.false
  · exact fewer.false

theorem loop_free {net : Net} (reached : Reached Forward clock net) : LoopFree net :=
  reached.sound.loopFree

def inMilliseconds : AODVParameters where
  askGratuitousRREP := false
  activeRouteTimeout := 3000
  helloInterval := 1000
  allowedHelloLoss := 2
  netDiameter := 35
  nodeTraversalTime := 40
  rerrRatelimit := 10
  rreqRetries := 2
  rreqRatelimit := 10
  timeoutBuffer := 2
  ttlStart := 2
  ttlIncrement := 2
  ttlThreshold := 7
  myRouteTimeout := 6000
  deletePeriod := 15000
  blacklistTimeout := 5600
  netTraversalTime := 2800
  nextHopWait := 50
  pathDiscoveryTime := 5600

def startedNodes : Net := fun n => AODVRouting.init inMilliseconds n [n] [] none

lemma reached_startedNodes (allowed : AODVRouting → ℤ → Event → Prop) :
    Reached allowed 0 startedNodes :=
  .start fun n => ⟨inMilliseconds, [n], [], none, rfl⟩

/-- The network when an event at the node has been handled, at the start of the simulation. -/
def Net.after (net : Net) (n : IPv4Address) (event : Event) : Net :=
  Function.update net n (match (net n).handle 0 event with
    | .ok st => st
    | .error _ => net n)

lemma Reached.after {allowed : AODVRouting → ℤ → Event → Prop} (before : Reached allowed 0 net)
    (n : IPv4Address) (event : Event) (arrives : Arrives net n event) (can : (net n).Can 0 event)
    (may : allowed (net n) 0 event)
    (ok : ((net n).handle 0 event).isOk = true) : Reached allowed 0 (net.after n event) := by
  rw [Net.after]
  cases handled : (net n).handle 0 event with
  | ok st => exact before.event n 0 le_rfl event arrives can may st handled
  | error e =>
    rw [handled] at ok
    cases ok

/-- The request of the node for a route to the target. -/
def requestOf (n : IPv4Address) (rreqId : ℕ) (target : IPv4Address) : UDPPacket :=
  ⟨n, IPv4Address.ALLONES_ADDRESS, 2, .RREQ ⟨false, true, 0, rreqId, target, 0, n, rreqId⟩⟩

/-- The request of a neighbor as the node sends it on. -/
def requestOver (n neighbor : IPv4Address) (rreqId : ℕ) (target : IPv4Address) : UDPPacket :=
  ⟨n, IPv4Address.ALLONES_ADDRESS, 2, .RREQ ⟨false, false, 1, rreqId, target, 0, neighbor, rreqId⟩⟩

/-- A node asks, and two others hear of it. -/
theorem loop_free_request : ∃ net, Reached Forward 0 net ∧ NextHop net 1 3 2 ∧ NextHop net 1 2 1 ∧
    LoopFree net := by
  have asks := (reached_startedNodes Forward).after 1 (.datagram ⟨0, 1, 3⟩ .LOCALOUT) trivial
    (fun queued mem => absurd mem List.not_mem_nil) trivial rfl
  have hears := asks.after 2 (.packet (requestOf 1 1 3))
    ⟨by decide, List.mem_singleton_self _, Or.inl rfl⟩ trivial
    (Or.inr (Or.inr ⟨by decide, fun ne => absurd rfl ne⟩)) rfl
  have notBelow : ∀ st : AODVRouting, st.sent = [] → NotBelow st 1 1 2 := by
    rintro st none_ sn hc ⟨packet, sent, -⟩
    rw [none_] at sent
    cases sent
  have hearsToo := hears.after 3 (.packet (requestOver 2 1 1 3))
    ⟨by decide, List.mem_singleton_self _, Or.inl rfl⟩ trivial
    (Or.inr (Or.inr ⟨by decide, fun _ _ => ⟨notBelow _ rfl, fun _ found => by cases found⟩⟩)) rfl
  exact ⟨_, hearsToo, ⟨_, rfl, rfl, rfl⟩, ⟨_, rfl, rfl, rfl⟩, loop_free hearsToo⟩

/-- The reply of the node 3 to the request of 1, as it is sent to the next hop. -/
def replyTo (n nextHop : IPv4Address) (hopCount timeToLive : ℕ) : UDPPacket :=
  ⟨n, nextHop, timeToLive, .RREP ⟨false, hopCount, 3, 0, 1, 1, 6000⟩⟩

/-- The node 1 asks for 3, and 2 brings the reply, which comes late. Meanwhile 3 asks for others: 1
hears it, and 2 hears it from 1. -/
theorem loop_of_late_reply : ∃ net, Reached (fun _ _ _ => True) 0 net ∧ ¬ LoopFree net := by
  have asks := (reached_startedNodes fun _ _ _ => True).after 1
    (.datagram ⟨0, 1, 3⟩ .LOCALOUT) trivial (fun queued mem => absurd mem List.not_mem_nil)
    trivial rfl
  have hears := asks.after 2 (.packet (requestOf 1 1 3))
    ⟨by decide, List.mem_singleton_self _, Or.inl rfl⟩ trivial trivial rfl
  have answers := hears.after 3 (.packet (requestOver 2 1 1 3))
    ⟨by decide, List.mem_singleton_self _, Or.inl rfl⟩ trivial trivial rfl
  have bringsBack := answers.after 2 (.packet (replyTo 3 2 0 255))
    ⟨by decide, List.mem_singleton_self _, Or.inr rfl⟩ trivial trivial rfl
  have asksToo := bringsBack.after 3 (.datagram ⟨1, 3, 4⟩ .LOCALOUT) trivial
    (fun queued mem => absurd mem List.not_mem_nil) trivial rfl
  have asksAgain := asksToo.after 3 (.datagram ⟨2, 3, 5⟩ .LOCALOUT) trivial
    (fun queued mem same => by
      obtain rfl := List.mem_singleton.mp mem
      exact absurd (congrArg IPv4Datagram.id same) (by decide)) trivial rfl
  have hearsOfIt := asksAgain.after 1 (.packet (requestOf 3 2 5))
    ⟨by decide, .tail _ (.tail _ (.head _)), Or.inl rfl⟩ trivial trivial rfl
  have hearsOverIt := hearsOfIt.after 2 (.packet (requestOver 1 3 2 5))
    ⟨by decide, .tail _ (.head _), Or.inl rfl⟩ trivial trivial rfl
  have late := hearsOverIt.after 1 (.packet (replyTo 2 1 1 100))
    ⟨by decide, .tail _ (.head _), Or.inr rfl⟩ trivial trivial rfl
  refine ⟨_, late, fun loopFree => loopFree 3 1 ?_⟩
  exact .tail (.single ⟨_, rfl, rfl, rfl⟩) ⟨_, rfl, rfl, rfl⟩

end Inet.Aodv
