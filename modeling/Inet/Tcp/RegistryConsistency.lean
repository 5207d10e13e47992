import Inet.Lib.KeyIndex
import Inet.Tcp.SocketFrame

/-!
# The connection registry stays consistent

`Consistent`: either map leads to a connection exactly under its current key, and an ephemeral port
is in use as often as there are connections on it. Each container operation keeps its part of it,
and a message keeps the whole.
-/

namespace Inet.Tcp

open TCPConnection Function Inet.Except

namespace ConnectionObject

variable (conn : ConnectionObject)

/-- Does the connection have this local port? -/
def onLocalPort (port : UInt16) : Bool := conn.tcb.localPort = some port

end ConnectionObject

namespace TCP

variable {env : Env} {ptr newPtr : ℕ} {conn conn' newConn : ConnectionObject} {tcp tcp' : TCP}
  {pair : SockPair} {port : UInt16}

lemma count_markPort (ephemeral : isEphemeral port) (lp : Option UInt16)
    (used : Multiset UInt16) :
    (markPort lp used).count port = used.count port + (decide (lp = some port)).toNat := by
  unfold markPort
  cases lp with
  | none => rfl
  | some marked =>
    dsimp only
    by_cases same : marked = port
    · subst same
      rw [if_pos ephemeral, Multiset.count_cons_self, decide_eq_true rfl]
      rfl
    · have apart : some marked ≠ some port := fun eq => same (Option.some.inj eq)
      rw [decide_eq_false apart]
      split
      · exact Multiset.count_cons_of_ne (Ne.symm same) used
      · rfl

lemma count_releasePort (lp : Option UInt16) (used : Multiset UInt16) :
    (releasePort lp used).count port = used.count port - (decide (lp = some port)).toNat := by
  unfold releasePort
  cases lp with
  | none => rfl
  | some released =>
    by_cases same : released = port
    · subst same
      rw [Multiset.count_erase_self, decide_eq_true rfl]
      rfl
    · have apart : some released ≠ some port := fun eq => same (Option.some.inj eq)
      rw [decide_eq_false apart]
      exact Multiset.count_erase_of_ne (Ne.symm same) used

/-! ## The invariant -/

/-- The containers lead to the connections as they are now. -/
structure Indexed (tcp : TCP) : Prop where
  /-- Pointers from `next` on are not in use. -/
  unused : ∀ ptr, tcp.next ≤ ptr → tcp.conns ptr = none
  connMap : Indexes tcp.tcpConnMap tcp.conns ConnectionObject.sockPair
  appConnMap : Indexes tcp.tcpAppConnMap tcp.conns ConnectionObject.appConnKey
  ports : ∀ port, isEphemeral port → tcp.usedEphemeralPorts.count port =
    tally tcp.conns tcp.next (·.onLocalPort port)
  /-- Ids have been drawn. -/
  drawn : ∀ {ptr conn}, tcp.conns ptr = some conn → conn.connId < tcp.uniqueNumber

/-- Between messages every connection has also been opened. -/
structure Consistent (tcp : TCP) : Prop extends Indexed tcp where
  opened : ∀ {ptr conn}, tcp.conns ptr = some conn → conn.tcb.fsm ≠ .init

lemma Indexed.lt_next (indexed : Indexed tcp) (live : tcp.conns ptr = some conn) :
    ptr < tcp.next := by
  by_contra above
  rw [indexed.unused ptr (not_lt.mp above)] at live
  cases live

lemma forall_update {P : ConnectionObject → Prop} {conns : ℕ → Option ConnectionObject}
    (all : ∀ {p c}, conns p = some c → P c) (changed : ∀ c, some c = some conn' → P c)
    {p : ℕ} {c : ConnectionObject} (live : update conns ptr (some conn') p = some c) : P c := by
  by_cases at_ : p = ptr
  · subst at_
    rw [update_self] at live
    exact changed c live.symm
  · rw [update_of_ne at_] at live
    exact all live

lemma unused_update {n : ℕ} {conns : ℕ → Option ConnectionObject} (below : ptr < n)
    (unused : ∀ p, n ≤ p → conns p = none) (o : Option ConnectionObject) (p : ℕ) (above : n ≤ p) :
    update conns ptr o p = none := by
  rw [update_of_ne (by omega)]
  exact unused p above

lemma updateSockPair_eq (ok : tcp.updateSockPair ptr conn pair = .ok tcp') :
    conn.tcb.localPort = pair.localPort ∧
      tcp' = { tcp with
        conns := update tcp.conns ptr (some (conn.setSockPair pair))
        tcpConnMap := update (update tcp.tcpConnMap conn.sockPair none) pair
          (some ptr) } := by
  unfold updateSockPair at ok
  obtain ⟨-, ok⟩ := of_assert_bind ok
  obtain ⟨lp, ok⟩ := of_assert_bind ok
  cases ok
  exact ⟨lp, rfl⟩

lemma addSockPair_eq (ok : tcp.addSockPair ptr conn pair = .ok tcp') :
    tcp.tcpConnMap pair = none ∧
      tcp' = { tcp with
        conns := update tcp.conns ptr (some (conn.setSockPair pair))
        tcpConnMap := update tcp.tcpConnMap pair (some ptr)
        usedEphemeralPorts := markPort pair.localPort tcp.usedEphemeralPorts } := by
  unfold addSockPair at ok
  split at ok
  case isTrue => cases ok
  case isFalse free =>
    cases ok
    exact ⟨Option.not_isSome_iff_eq_none.mp free, rfl⟩

namespace Indexed

variable (indexed : Indexed tcp)
include indexed

variable (live : tcp.conns ptr = some conn)
include live

lemma write (sockPair : conn'.sockPair = conn.sockPair)
    (key : conn'.appConnKey = conn.appConnKey) :
    Indexed { tcp with conns := update tcp.conns ptr (some conn') } where
  unused := unused_update (indexed.lt_next live) indexed.unused _
  connMap := indexed.connMap.write live conn' sockPair
  appConnMap := indexed.appConnMap.write live conn' key
  ports port ephemeral := by
    have lp : conn'.tcb.localPort = conn.tcb.localPort := congrArg SockPair.localPort sockPair
    have same : conn'.onLocalPort port = conn.onLocalPort port := by
      unfold ConnectionObject.onLocalPort
      rw [lp]
    dsimp only
    rw [indexed.ports port ephemeral, tally_write (indexed.lt_next live) live same]
  drawn {p c} := by
    apply forall_update (P := fun c => c.connId < tcp.uniqueNumber) indexed.drawn
    intro c same
    cases same
    have connId : conn'.connId = conn.connId := congrArg AppConnKey.connId key
    rw [connId]
    exact indexed.drawn live

lemma remove :
    Indexed (tcp.removeConnection ptr conn) where
  unused := unused_update (indexed.lt_next live) indexed.unused _
  connMap := indexed.connMap.remove live
  appConnMap := indexed.appConnMap.remove live
  ports port ephemeral := by
    unfold removeConnection
    dsimp only
    rw [count_releasePort, indexed.ports port ephemeral, tally_remove (indexed.lt_next live) live]
    rfl
  drawn {p c} gone := by
    change update tcp.conns ptr none p = some c at gone
    by_cases at_ : p = ptr
    · subst at_
      rw [update_self] at gone
      cases gone
    · rw [update_of_ne at_] at gone
      exact indexed.drawn gone

lemma move (free : tcp.tcpConnMap pair = none ∨ tcp.tcpConnMap pair = some ptr)
    (lp : conn.tcb.localPort = pair.localPort) :
    Indexed { tcp with
      conns := update tcp.conns ptr (some (conn.setSockPair pair))
      tcpConnMap := update (update tcp.tcpConnMap conn.sockPair none) pair (some ptr) } where
  unused := unused_update (indexed.lt_next live) indexed.unused _
  connMap := indexed.connMap.rekey live (conn.setSockPair pair) free
  appConnMap := indexed.appConnMap.write live (conn.setSockPair pair) rfl
  ports port ephemeral := by
    have same : (conn.setSockPair pair).onLocalPort port = conn.onLocalPort port := by
      unfold ConnectionObject.onLocalPort
      rw [lp]
      rfl
    dsimp only
    rw [indexed.ports port ephemeral, tally_write (indexed.lt_next live) live same]
  drawn {p c} := by
    apply forall_update (P := fun c => c.connId < tcp.uniqueNumber) indexed.drawn
    intro c same
    cases same
    change conn.connId < tcp.uniqueNumber
    exact indexed.drawn live

omit live in
lemma addNew (conn : ConnectionObject) (pair : SockPair) (drawn : conn.connId < tcp.uniqueNumber)
    (keyFree : tcp.tcpAppConnMap conn.appConnKey = none) (pairFree : tcp.tcpConnMap pair = none) :
    Indexed { tcp with
      next := tcp.next + 1
      conns := update tcp.conns tcp.next (some (conn.setSockPair pair))
      tcpConnMap := update tcp.tcpConnMap pair (some tcp.next)
      tcpAppConnMap := update tcp.tcpAppConnMap conn.appConnKey (some tcp.next)
      usedEphemeralPorts := markPort pair.localPort tcp.usedEphemeralPorts } where
  unused := by
    apply unused_update (Nat.lt_succ_self _)
    exact fun p above => indexed.unused p (Nat.le_of_succ_le above)
  connMap := indexed.connMap.insert (conn.setSockPair pair) (indexed.unused _ le_rfl) pairFree
  appConnMap := indexed.appConnMap.insert (conn.setSockPair pair) (indexed.unused _ le_rfl) keyFree
  ports port ephemeral := by
    dsimp only
    rw [count_markPort ephemeral, indexed.ports port ephemeral,
      tally_insert (indexed.unused _ le_rfl)]
    rfl
  drawn {p c} := by
    apply forall_update (P := fun c => c.connId < tcp.uniqueNumber) indexed.drawn
    intro c same
    cases same
    exact drawn

omit live in
lemma newKey_free (appGateIndex : ℕ) :
    tcp.tcpAppConnMap ⟨appGateIndex, tcp.uniqueNumber⟩ = none := by
  cases found : tcp.tcpAppConnMap ⟨appGateIndex, tcp.uniqueNumber⟩ with
  | none => rfl
  | some other =>
    obtain ⟨conn, live, key⟩ := (indexed.appConnMap _ other).mp found
    have connId : conn.connId = tcp.uniqueNumber := congrArg AppConnKey.connId key
    exact absurd connId (indexed.drawn live).ne

lemma renew :
    Indexed { tcp with
      uniqueNumber := tcp.uniqueNumber + 1
      conns := update tcp.conns ptr (some { conn with connId := tcp.uniqueNumber })
      tcpAppConnMap :=
        update (update tcp.tcpAppConnMap conn.appConnKey none)
          ⟨conn.appGateIndex, tcp.uniqueNumber⟩ (some ptr) } where
  unused := unused_update (indexed.lt_next live) indexed.unused _
  connMap := indexed.connMap.write live { conn with connId := tcp.uniqueNumber } rfl
  appConnMap := indexed.appConnMap.rekey live { conn with connId := tcp.uniqueNumber }
    (.inl (indexed.newKey_free conn.appGateIndex))
  ports port ephemeral := by
    dsimp only
    rw [indexed.ports port ephemeral, tally_write (indexed.lt_next live) live]
    rfl
  drawn {p c} := by
    apply forall_update (P := fun c => c.connId < tcp.uniqueNumber + 1)
    · exact fun live => Nat.lt_succ_of_lt (indexed.drawn live)
    · intro c same
      cases same
      exact Nat.lt_succ_self _

lemma addForkedConnection (free : tcp.tcpConnMap pair = none ∨ tcp.tcpConnMap pair = some ptr)
    (ok : { tcp with next := tcp.next + 1 }.addForkedConnection ptr conn tcp.next newConn pair =
      .ok tcp') (key : newConn.appConnKey = conn.appConnKey) : Indexed tcp' := by
  have apart : ptr ≠ tcp.next := (indexed.lt_next live).ne
  unfold TCP.addForkedConnection at ok
  rcases Except.bind_eq_ok ok with ⟨t₁, update, ok⟩
  rcases Except.bind_eq_ok ok with ⟨t₂, add, ok⟩
  cases ok
  obtain ⟨lp, rfl⟩ := updateSockPair_eq update
  obtain ⟨pairFree, rfl⟩ := addSockPair_eq add
  have moved := indexed.move live free lp
  have atPtr : Function.update tcp.conns ptr (some (conn.setSockPair pair)) ptr =
      some (conn.setSockPair pair) := Function.update_self ..
  have renewed := moved.renew atPtr
  have connId : newConn.connId = conn.connId := congrArg AppConnKey.connId key
  have added := renewed.addNew newConn newConn.sockPair ?_ ?_ pairFree
  · dsimp only at added ⊢
    rw [Function.update_comm apart.symm]
    exact added
  · rw [connId]
    exact Nat.lt_succ_of_lt (indexed.drawn live)
  · -- the old id is free since `conn` has given it up
    have other : newConn.appConnKey ≠ ⟨conn.appGateIndex, tcp.uniqueNumber⟩ := by
      intro same
      have taken : newConn.connId = tcp.uniqueNumber := congrArg AppConnKey.connId same
      rw [connId] at taken
      exact absurd taken (indexed.drawn live).ne
    dsimp only
    rw [key] at other ⊢
    rw [Function.update_of_ne (by exact other)]
    exact Function.update_self ..

end Indexed

/-! ## Messages -/

variable {input : TcpInput}

/-- What a delivery does: the connection takes the input, and goes when it is then closed. -/
lemma deliver_cases (ok : tcp.deliver env ptr input = .ok tcp') :
    ∃ conn tcb, tcp.conns ptr = some conn ∧ handle env input conn.tcb = .ok tcb ∧
      (tcb.fsm = .closed ∧ tcp' = tcp.removeConnection ptr { conn with tcb := tcb } ∨
        tcp' = { tcp with
          conns := update tcp.conns ptr (some { conn with tcb := tcb }) }) := by
  unfold TCP.deliver at ok
  split at ok
  · cases ok
  · rename_i conn live
    rcases bind_eq_ok ok with ⟨tcb, handled, left⟩
    refine ⟨conn, tcb, live, handled, ?_⟩
    dsimp only at left
    split at left
    case isTrue closed =>
      cases left
      exact .inl ⟨closed, rfl⟩
    case isFalse =>
      cases left
      exact .inr rfl

lemma Consistent.deliver (indexed : Indexed tcp) (live : tcp.conns ptr = some conn)
    (filled : PortsFilledIn env input conn.tcb)
    (others : ∀ {p c}, p ≠ ptr → tcp.conns p = some c → c.tcb.fsm ≠ .init)
    (opened : ∀ {c'}, handle env input conn.tcb = .ok c' → c'.fsm ≠ .init)
    (ok : tcp.deliver env ptr input = .ok tcp') : Consistent tcp' := by
  obtain ⟨_, tcb, found, handled, left⟩ := deliver_cases ok
  obtain rfl := Option.some.inj (live.symm.trans found)
  obtain ⟨lp, remotePort⟩ := handle_onPorts filled handled
  have sockPair : ({ conn with tcb := tcb } : ConnectionObject).sockPair = conn.sockPair := by
    unfold ConnectionObject.sockPair
    rw [lp, remotePort]
  rcases left with ⟨closed, rfl⟩ | rfl
  · have same : tcp.removeConnection ptr { conn with tcb := tcb } =
        tcp.removeConnection ptr conn := by
      unfold removeConnection
      rw [sockPair, lp]
      rfl
    rw [same]
    refine ⟨indexed.remove live, fun {p c} left => ?_⟩
    change update tcp.conns ptr none p = some c at left
    by_cases at_ : p = ptr
    · subst at_
      rw [update_self] at left
      cases left
    · rw [update_of_ne at_] at left
      exact others at_ left
  · refine ⟨indexed.write live sockPair rfl, fun {p c} left => ?_⟩
    change update tcp.conns ptr _ p = some c at left
    by_cases at_ : p = ptr
    · subst at_
      rw [update_self] at left
      cases left
      exact opened handled
    · rw [update_of_ne at_] at left
      exact others at_ left

/-- An event that does not concern the containers. -/
lemma Consistent.deliver_inner (consistent : Consistent tcp)
    (filled : ∀ {conn}, tcp.conns ptr = some conn → PortsFilledIn env input conn.tcb)
    (ok : tcp.deliver env ptr input = .ok tcp') : Consistent tcp' := by
  obtain ⟨conn, tcb, live, -, -⟩ := deliver_cases ok
  exact .deliver consistent.toIndexed live (filled live) (fun _ => consistent.opened)
    (handle_ne_init (consistent.opened live)) ok

variable {localAddr remoteAddr : IPvXAddress} {command : AppCommand}

/-- An OPEN puts the connection under a socket pair that is free, with the ports that the
command then fills in. -/
lemma registerCommand_open (env : Env) {command' : AppCommand} (isOpen : isOpen command = true)
    (ok : tcp.registerCommand ptr conn localAddr remoteAddr command = .ok (command', tcp')) :
    TCPConnection.isOpen command' = true ∧ ∃ pair last, tcp.tcpConnMap pair = none ∧
      PortsFilledIn env (.command command') (conn.setSockPair pair).tcb ∧
      tcp' = { tcp with
        conns := update tcp.conns ptr (some (conn.setSockPair pair))
        tcpConnMap := update tcp.tcpConnMap pair (some ptr)
        usedEphemeralPorts := markPort pair.localPort tcp.usedEphemeralPorts
        lastEphemeralPort := last } := by
  unfold registerCommand at ok
  cases command with
  | openActive lp remotePort =>
    dsimp only at ok
    split at ok
    · cases ok
    · rcases bind_eq_ok ok with ⟨⟨port, t₁⟩, chosen, ok⟩
      rcases bind_eq_ok ok with ⟨t₂, add, ok⟩
      cases ok
      obtain ⟨free, rfl⟩ := addSockPair_eq add
      have last : ∃ last, t₁ = { tcp with lastEphemeralPort := last } := by
        unfold localPortFor at chosen
        cases lp with
        | some given =>
          cases chosen
          exact ⟨tcp.lastEphemeralPort, rfl⟩
        | none =>
          unfold getEphemeralPort at chosen
          rcases bind_eq_ok chosen with ⟨found, -, chosen⟩
          cases chosen
          exact ⟨_, rfl⟩
      obtain ⟨last, rfl⟩ := last
      exact ⟨rfl, _, last, free, ⟨rfl, rfl⟩, rfl⟩
  | openPassive lp fork =>
    dsimp only at ok
    split at ok
    · cases ok
    · rcases bind_eq_ok ok with ⟨t₁, add, ok⟩
      cases ok
      obtain ⟨free, rfl⟩ := addSockPair_eq add
      exact ⟨rfl, _, tcp.lastEphemeralPort, free, rfl, rfl⟩
  | _ => cases isOpen

lemma registerCommand_other {command' : AppCommand} (other : isOpen command = false)
    (ok : tcp.registerCommand ptr conn localAddr remoteAddr command = .ok (command', tcp')) :
    command' = command ∧ tcp' = tcp := by
  cases command with
  | openActive | openPassive => cases other
  | _ =>
    cases ok
    exact ⟨rfl, rfl⟩

lemma portsFilledIn_of_other (other : isOpen command = false)
    (c : TCPConnection) : PortsFilledIn env (.command command) c := by
  cases command with
  | openActive | openPassive => cases other
  | _ => trivial

lemma Consistent.handleCommand {key : AppConnKey} (consistent : Consistent tcp)
    (drawn : key.connId < tcp.uniqueNumber)
    (ok : tcp.handleCommand env key localAddr remoteAddr command = .ok tcp') : Consistent tcp' := by
  unfold TCP.handleCommand connectionForApp findConnForApp at ok
  cases found : tcp.tcpAppConnMap key with
  | some ptr =>
    obtain ⟨conn, live, -⟩ := (consistent.appConnMap key ptr).mp found
    rw [found] at ok
    dsimp only at ok
    rw [live] at ok
    rcases bind_eq_ok ok with ⟨⟨command', t⟩, registered, delivered⟩
    cases opens : isOpen command with
    | false =>
      obtain ⟨rfl, rfl⟩ := registerCommand_other opens registered
      exact consistent.deliver_inner (fun _ => portsFilledIn_of_other opens _) delivered
    | true =>
      -- the connection is open already
      obtain ⟨opens', pair, last, -, -, rfl⟩ := registerCommand_open env opens registered
      obtain ⟨_, tcb, found, handled, -⟩ := deliver_cases delivered
      cases (update_self ..).symm.trans found
      have init : conn.tcb.fsm = .init := (handle_open opens' handled).1
      exact absurd init (consistent.opened live)
  | none =>
    rw [found] at ok
    dsimp only [createConnection] at ok
    rw [update_self] at ok
    rcases bind_eq_ok ok with ⟨⟨command', t⟩, registered, delivered⟩
    cases opens : isOpen command with
    | false =>
      obtain ⟨rfl, rfl⟩ := registerCommand_other opens registered
      obtain ⟨_, tcb, found, handled, -⟩ := deliver_cases delivered
      cases (update_self ..).symm.trans found
      rw [isOpen_of_init rfl handled] at opens
      cases opens
    | true =>
      obtain ⟨opens', pair, last, free, filled, rfl⟩ := registerCommand_open env opens registered
      rw [update_idem] at delivered
      have added := consistent.toIndexed.addNew
        { appGateIndex := key.appGateIndex, connId := key.connId, tcb := new tcp.par } pair
        drawn found free
      have added : Indexed { tcp with
          next := tcp.next + 1
          conns := update tcp.conns tcp.next (some _)
          tcpConnMap := _
          tcpAppConnMap := _
          usedEphemeralPorts := _
          lastEphemeralPort := last } := ⟨added.unused, added.connMap, added.appConnMap,
            added.ports, added.drawn⟩
      refine .deliver added (update_self ..) filled (fun apart live => ?_) ?_ delivered
      · dsimp only at live
        rw [update_of_ne apart] at live
        exact consistent.opened live
      · intro c' handled
        rcases (handle_open opens' handled).2 with listen | synSent
        · rw [listen]
          exact nofun
        · rw [synSent]
          exact nofun

variable {seg : TCPSegment}

lemma sockPair_free_of_found {srcAddr destAddr : IPvXAddress}
    (found : tcp.findConnForSegment seg srcAddr destAddr = some ptr) :
    tcp.tcpConnMap (segmentSockPair seg srcAddr destAddr) = none ∨
      tcp.tcpConnMap (segmentSockPair seg srcAddr destAddr) = some ptr := by
  unfold findConnForSegment at found
  dsimp only at found
  split at found
  case h_1 other full =>
    cases found
    exact .inr full
  case h_2 full => exact .inl full

lemma addForkedConnection_conns
    (ok : tcp.addForkedConnection ptr conn newPtr newConn pair = .ok tcp') :
    tcp'.conns = update
      (update (update tcp.conns ptr (some (conn.setSockPair pair))) newPtr (some newConn))
      ptr (some { conn.setSockPair pair with connId := tcp.uniqueNumber }) := by
  rcases bind_eq_ok ok with ⟨t₁, update, ok⟩
  rcases bind_eq_ok ok with ⟨t₂, add, ok⟩
  cases ok
  obtain ⟨-, rfl⟩ := updateSockPair_eq update
  obtain ⟨-, rfl⟩ := addSockPair_eq add
  rfl

lemma Consistent.processTCPSegment {srcAddr destAddr : IPvXAddress} (consistent : Consistent tcp)
    (live : tcp.conns ptr = some conn)
    (free : tcp.tcpConnMap (segmentSockPair seg srcAddr destAddr) = none ∨
      tcp.tcpConnMap (segmentSockPair seg srcAddr destAddr) = some ptr)
    (ok : tcp.processTCPSegment env ptr conn seg srcAddr destAddr = .ok tcp') :
    Consistent tcp' := by
  rcases bind_eq_ok ok with ⟨-, -, handled⟩
  rcases bind_eq_ok handled with ⟨t, registered, delivered⟩
  unfold registerArrival at registered
  split at registered
  case isTrue takes =>
    have open_ := consistent.opened live
    have filled (c : TCPConnection) (lp : c.localPort = some seg.destPort)
        (remotePort : c.remotePort = some seg.srcPort) :
        PortsFilledIn env (.segment seg) c := fun _ => ⟨lp, remotePort⟩
    split at registered
    case isTrue =>
      have forked := consistent.toIndexed.addForkedConnection live free registered rfl
      have conns := addForkedConnection_conns registered
      refine .deliver forked (by rw [conns]; exact update_self ..) (filled _ rfl rfl)
        (fun {p c} apart other => ?_) (fun handled => handle_ne_init (by exact open_) handled)
        delivered
      rw [conns, update_of_ne apart] at other
      refine forall_update (P := fun c => c.tcb.fsm ≠ .init) (fun {p c} live' => ?_)
        (fun c same => by cases same; exact nofun) other
      exact forall_update (P := fun c => c.tcb.fsm ≠ .init) consistent.opened
        (fun c same => by cases same; exact open_) live'
    case isFalse =>
      have moved : Indexed t := by
        obtain ⟨lp, rfl⟩ := updateSockPair_eq registered
        exact consistent.toIndexed.move live free lp
      obtain ⟨lp, rfl⟩ := updateSockPair_eq registered
      refine .deliver moved (update_self ..) (filled _ rfl rfl) (fun apart other => ?_) ?_ delivered
      · dsimp only at other
        rw [update_of_ne apart] at other
        exact consistent.opened other
      · exact fun handled => handle_ne_init (by exact open_) handled
  case isFalse stays =>
    cases registered
    refine consistent.deliver_inner (fun {conn'} live' => ?_) delivered
    intro takes
    rw [live] at live'
    cases live'
    exact absurd takes stays

lemma Consistent.handleSegment {srcAddr destAddr : IPvXAddress} (consistent : Consistent tcp)
    (ok : tcp.handleSegment env seg srcAddr destAddr = .ok tcp') : Consistent tcp' := by
  unfold TCP.handleSegment at ok
  cases found : tcp.findConnForSegment seg srcAddr destAddr with
  | none =>
    rw [found] at ok
    cases ok
    exact consistent
  | some ptr =>
    rw [found] at ok
    dsimp only at ok
    cases live : tcp.conns ptr with
    | none =>
      rw [live] at ok
      cases ok
    | some conn =>
      rw [live] at ok
      have marked : Consistent { tcp with
          conns := update tcp.conns ptr (some (conn.noteEcn seg)) } := by
        have open_ : conn.tcb.fsm ≠ .init := consistent.opened live
        refine ⟨consistent.toIndexed.write live rfl rfl, fun {p c} left => ?_⟩
        exact forall_update (P := fun c => c.tcb.fsm ≠ .init) consistent.opened
          (fun c same => by cases same; exact open_) left
      exact marked.processTCPSegment (update_self ..) (sockPair_free_of_found found) ok

lemma Consistent.handleMessage {message : Message} (consistent : Consistent tcp)
    (admitted : tcp.admits message) (ok : tcp.handleMessage env message = .ok tcp') :
    Consistent tcp' := by
  cases message with
  | command key localAddr remoteAddr command => exact consistent.handleCommand admitted ok
  | segment seg srcAddr destAddr => exact consistent.handleSegment ok
  | timer ptr timer => exact consistent.deliver_inner (fun _ => (by exact trivial)) ok
  | algTimer ptr timer => exact consistent.deliver_inner (fun _ => (by exact trivial)) ok
  | resizeBuffer ptr maxRcvBuffer => exact consistent.deliver_inner (fun _ => (by exact trivial)) ok

lemma Consistent.step (consistent : Consistent tcp) (step : ModuleStep tcp tcp') :
    Consistent tcp' := by
  cases step with
  | message env message admitted handled => exact consistent.handleMessage admitted handled
  | draw =>
    exact ⟨⟨consistent.unused, consistent.connMap, consistent.appConnMap, consistent.ports,
      fun live => Nat.lt_succ_of_lt (consistent.drawn live)⟩, consistent.opened⟩

lemma consistent_start (par : TCPPar) (uniqueNumber : ℕ) : Consistent (start par uniqueNumber) where
  unused _ _ := rfl
  connMap := .empty
  appConnMap := .empty
  ports port _ := by
    unfold start tally
    rfl
  drawn live := nomatch live
  opened live := nomatch live

lemma consistent_of_reachable (reachable : ModuleReachable tcp) : Consistent tcp :=
  reachable.invariant consistent_start Consistent.step

variable {p : ℕ}

lemma deliver_others (apart : p ≠ ptr)
    (ok : tcp.deliver env ptr input = .ok tcp') : tcp'.conns p = tcp.conns p := by
  obtain ⟨conn, tcb, -, -, ⟨-, rfl⟩ | rfl⟩ := deliver_cases ok
  · exact update_of_ne apart ..
  · exact update_of_ne apart ..

lemma registerCommand_others {command' : AppCommand} (apart : p ≠ ptr)
    (ok : tcp.registerCommand ptr conn localAddr remoteAddr command = .ok (command', tcp')) :
    tcp'.conns p = tcp.conns p := by
  cases opens : isOpen command with
  | false =>
    obtain ⟨-, rfl⟩ := registerCommand_other opens ok
    rfl
  | true =>
    obtain ⟨-, pair, last, -, -, rfl⟩ := registerCommand_open {} opens ok
    exact update_of_ne apart ..

lemma registerArrival_others {srcAddr destAddr : IPvXAddress} (apart : p ≠ ptr)
    (used : p ≠ tcp.next) (ok : tcp.registerArrival ptr conn seg srcAddr destAddr = .ok tcp') :
    tcp'.conns p = tcp.conns p := by
  unfold registerArrival at ok
  split at ok
  · split at ok
    · rw [addForkedConnection_conns ok, update_of_ne apart, update_of_ne used, update_of_ne apart]
    · obtain ⟨-, rfl⟩ := updateSockPair_eq ok
      exact update_of_ne apart ..
  · cases ok
    rfl

lemma handleMessage_others {message : Message} (used : p ≠ tcp.next)
    (apart : some p ≠ tcp.target message) (ok : tcp.handleMessage env message = .ok tcp') :
    tcp'.conns p = tcp.conns p := by
  unfold handleMessage at ok
  unfold target at apart
  cases message with
  | command key localAddr remoteAddr command =>
    have apart : p ≠ (tcp.connectionForApp key).1 := fun same => apart (congrArg some same)
    have made : (tcp.connectionForApp key).2.conns p = tcp.conns p := by
      unfold connectionForApp
      split
      · rfl
      · exact update_of_ne used ..
    unfold handleCommand at ok
    dsimp only at ok
    split at ok
    · cases ok
    · rcases bind_eq_ok ok with ⟨⟨command', t⟩, registered, delivered⟩
      rw [deliver_others apart delivered, registerCommand_others apart registered, made]
  | segment seg srcAddr destAddr =>
    dsimp only at apart ok
    unfold handleSegment at ok
    cases found : tcp.findConnForSegment seg srcAddr destAddr with
    | none =>
      rw [found] at ok
      cases ok
      rfl
    | some ptr =>
      rw [found] at ok apart
      dsimp only at ok
      have apart : p ≠ ptr := fun same => apart (congrArg some same)
      split at ok
      · cases ok
      · rcases bind_eq_ok ok with ⟨-, -, handled⟩
        rcases bind_eq_ok handled with ⟨t, registered, delivered⟩
        rw [deliver_others apart delivered, registerArrival_others apart (by exact used) registered]
        exact update_of_ne apart ..
  | timer ptr timer => exact deliver_others (fun same => apart (congrArg some same)) ok
  | algTimer ptr timer => exact deliver_others (fun same => apart (congrArg some same)) ok
  | resizeBuffer ptr maxRcvBuffer =>
    exact deliver_others (fun same => apart (congrArg some same)) ok

/-- No message overwrites the entries of a connection it is not for. -/
def KeepsOthers (tcp : TCP) : Prop :=
  ∀ env message tcp', tcp.admits message → tcp.handleMessage env message = .ok tcp' →
    ∀ ptr conn, tcp.conns ptr = some conn → some ptr ≠ tcp.target message →
      tcp'.tcpConnMap conn.sockPair = some ptr ∧ tcp'.tcpAppConnMap conn.appConnKey = some ptr

/-- `updateSockPair` and `addForkedConnection` are called with keys that are free or
those of the connection itself. -/
def RegistersFree (tcp : TCP) : Prop :=
  (∀ tcpseg srcAddr destAddr ptr, tcp.findConnForSegment tcpseg srcAddr destAddr = some ptr →
    tcp.tcpConnMap (segmentSockPair tcpseg srcAddr destAddr) = none ∨
      tcp.tcpConnMap (segmentSockPair tcpseg srcAddr destAddr) = some ptr) ∧
  ∀ appGateIndex, tcp.tcpAppConnMap ⟨appGateIndex, tcp.uniqueNumber⟩ = none

/-- In every run the containers agree with the connections, and nothing is overwritten. -/
theorem registry_consistent (reachable : ModuleReachable tcp) :
    Consistent tcp ∧ KeepsOthers tcp ∧ RegistersFree tcp := by
  have consistent := consistent_of_reachable reachable
  refine ⟨consistent, ?_, fun _ _ _ _ => sockPair_free_of_found, consistent.toIndexed.newKey_free⟩
  intro env message tcp' admitted handled ptr conn live apart
  have after := consistent.handleMessage admitted handled
  have kept := handleMessage_others (consistent.lt_next live).ne apart handled
  rw [live] at kept
  exact ⟨after.connMap.find kept, after.appConnMap.find kept⟩

def forkedServer : List (Env × Message) :=
  [({}, .command ⟨0, 0⟩ none none (.openPassive (some 1030) true)),
   ({}, .segment { srcPort := 5000, destPort := 1030, synBit := true } (some 1) (some 2))]

/-- The port is in use twice, by the connection with the peer and by the listener. -/
theorem registry_consistent_forked :
    ∃ tcp, ModuleReachable tcp ∧ tcp.usedEphemeralPorts.count 1030 = 2 ∧
      Consistent tcp ∧ KeepsOthers tcp ∧ RegistersFree tcp := by
  have forked : (runMessages forkedServer
      (start { advertisedWindow := 14000, mss := 1000 } 1)).any
      (fun tcp => tcp.usedEphemeralPorts.count 1030 = 2) = true := by
    decide +kernel
  obtain ⟨tcp, reachable, test⟩ := exists_moduleReachable forked
  exact ⟨tcp, reachable, of_decide_eq_true test, registry_consistent reachable⟩

end TCP

end Inet.Tcp
