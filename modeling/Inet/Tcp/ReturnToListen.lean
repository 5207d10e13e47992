import Inet.Tcp.RegistryConsistency
import Inet.Tcp.StreamOutcome

/-!
# Back in LISTEN

A passively opened connection goes back to LISTEN at a RST or at the CONN-ESTAB timeout. The module
has it under the socket pair of that peer by then, and nothing puts it back under a blank one: it
hears that peer only.
-/

namespace Inet.Tcp

open TCPConnection Function Inet.Except

namespace TCPConnection

variable {env : Env} {input : TcpInput} {seg : TCPSegment} {event : TCPEventCode}
  {c c' : TCPConnection}

lemma takesSockPair_of_listen (listen : c.fsm = .listen)
    (ok : processSegmentInListen env seg c = .ok (.rcvSyn, c')) :
    TCP.takesSockPair seg c = true := by
  unfold processSegmentInListen at ok
  rw [TCP.takesSockPair, listen]
  unfold opens
  split at ok
  · cases ok
  case isFalse noRst =>
    split at ok
    · cases ok
    case isFalse noAck =>
      split at ok
      case isTrue syn =>
        rw [Bool.eq_false_iff.mpr noRst, Bool.eq_false_iff.mpr noAck, syn]
        rfl
      case isFalse => cases ok

lemma takesSockPair_of_synSent (synSent : c.fsm = .synSent)
    (ok : processSegmentInSynSent env seg c = .ok (.rcvSyn, c')) :
    TCP.takesSockPair seg c = true := by
  unfold processSegmentInSynSent at ok
  rw [TCP.takesSockPair, synSent]
  split at ok
  · cases ok
  case isFalse acceptable =>
    split at ok
    · split at ok
      · cases ok
      · cases ok
    case isFalse noRst =>
      split at ok
      case isTrue syn =>
        rw [Bool.eq_false_iff.mpr noRst, syn, decide_eq_false acceptable]
        rfl
      case isFalse => cases ok

lemma handle_synRcvd (opened : c.fsm ≠ .init) (ok : handle env input c = .ok c')
    (synRcvd : c'.fsm = .synRcvd) :
    c.fsm = .synRcvd ∨ ∃ seg, input = .segment seg ∧ TCP.takesSockPair seg c = true := by
  obtain ⟨event, d, timers, toApp, processed, -, rfl⟩ := handle_eq ok
  have kept := process_fsm processed
  rw [kept] at synRcvd
  -- the table leads to SYN_RCVD only by a SYN
  have bySyn : c.fsm = .synRcvd ∨ (c.fsm = .listen ∨ c.fsm = .synSent) ∧ event = .rcvSyn := by
    cases state : c.fsm with
    | synRcvd => exact .inl rfl
    | listen =>
      rw [state] at synRcvd
      cases event <;> cases synRcvd
      exact .inr ⟨.inl rfl, rfl⟩
    | synSent =>
      rw [state] at synRcvd
      cases event <;> cases synRcvd
      exact .inr ⟨.inr rfl, rfl⟩
    | _ =>
      rw [state] at synRcvd
      cases event <;> cases synRcvd
  rcases bySyn with already | ⟨state, rfl⟩
  · exact .inl already
  · refine .inr ?_
    cases arrival : input.arrival with
    | none => cases (process_local opened arrival processed).isLocal
    | some seg =>
      cases input <;> cases arrival
      refine ⟨seg, rfl, ?_⟩
      change processRcvSegment env seg c = .ok (.rcvSyn, d) at processed
      unfold processRcvSegment at processed
      rcases state with listen | synSent
      · rw [listen] at processed
        exact takesSockPair_of_listen listen processed
      · rw [synSent] at processed
        exact takesSockPair_of_synSent synSent processed

end TCPConnection

namespace TCP

variable {env : Env} {ptr p : ℕ} {conn conn' : ConnectionObject} {tcp tcp' : TCP}

/-- The connection is registered for one peer. -/
def Bound (conn : ConnectionObject) : Prop := conn.tcb.remotePort ≠ none

/-- In SYN_RCVD a connection is registered for its peer. -/
def BoundInSynRcvd (conn : ConnectionObject) : Prop := conn.tcb.fsm = .synRcvd → Bound conn

/-- What a change keeps of a connection. -/
structure StaysBound (conn conn' : ConnectionObject) : Prop where
  bound : Bound conn → Bound conn'
  inSynRcvd : BoundInSynRcvd conn → BoundInSynRcvd conn'

lemma StaysBound.refl (conn : ConnectionObject) : StaysBound conn conn := ⟨id, id⟩

lemma StaysBound.trans {middle : ConnectionObject} (first : StaysBound conn middle)
    (second : StaysBound middle conn') : StaysBound conn conn' :=
  ⟨second.bound ∘ first.bound, second.inSynRcvd ∘ first.inSynRcvd⟩

lemma deliver_bound {input : TcpInput} (live : tcp.conns ptr = some conn)
    (filled : PortsFilledIn env input conn.tcb) (opened : conn.tcb.fsm ≠ .init)
    (takes : ∀ seg, input = .segment seg → takesSockPair seg conn.tcb = true → Bound conn)
    (ok : tcp.deliver env ptr input = .ok tcp') (live' : tcp'.conns ptr = some conn') :
    StaysBound conn conn' := by
  obtain ⟨_, tcb, found, handled, left⟩ := deliver_cases ok
  obtain rfl := Option.some.inj (live.symm.trans found)
  have same : tcb.remotePort = conn.tcb.remotePort := (handle_onPorts filled handled).2
  rcases left with ⟨-, rfl⟩ | rfl
  · change update tcp.conns ptr none ptr = some conn' at live'
    rw [update_self] at live'
    cases live'
  · dsimp only at live'
    rw [update_self] at live'
    cases live'
    have bound : Bound conn → Bound { conn with tcb := tcb } := by
      unfold Bound
      rw [same]
      exact id
    refine ⟨bound, fun before synRcvd => bound ?_⟩
    rcases handle_synRcvd opened handled synRcvd with already | ⟨seg, rfl, taken⟩
    · exact before already
    · exact takes seg rfl taken

lemma processTCPSegment_bound {seg : TCPSegment} {srcAddr destAddr : IPvXAddress}
    (live : tcp.conns ptr = some conn) (opened : conn.tcb.fsm ≠ .init)
    (ok : tcp.processTCPSegment env ptr conn seg srcAddr destAddr = .ok tcp')
    (live' : tcp'.conns ptr = some conn') : StaysBound conn conn' := by
  rcases bind_eq_ok ok with ⟨-, -, handled⟩
  rcases bind_eq_ok handled with ⟨t, registered, delivered⟩
  unfold registerArrival at registered
  split at registered
  case isTrue takes =>
    -- the peer is filled in, fork or not
    have filled : ∃ conn₁, t.conns ptr = some conn₁ ∧ conn₁.tcb.fsm = conn.tcb.fsm ∧
        conn₁.tcb.localPort = some seg.destPort ∧
        conn₁.tcb.remotePort = some seg.srcPort := by
      split at registered
      · have conns := congrFun (addForkedConnection_conns registered) ptr
        rw [update_self] at conns
        exact ⟨_, conns, rfl, rfl, rfl⟩
      · obtain ⟨-, rfl⟩ := updateSockPair_eq registered
        exact ⟨_, update_self .., rfl, rfl, rfl⟩
    obtain ⟨conn₁, live₁, fsm, localPort, remotePort⟩ := filled
    have bound : Bound conn₁ := by
      unfold Bound
      rw [remotePort]
      exact nofun
    have portsFilledIn : PortsFilledIn env (.segment seg) conn₁.tcb :=
      fun _ => ⟨localPort, remotePort⟩
    have stays := deliver_bound live₁ portsFilledIn (by rw [fsm]; exact opened)
      (fun _ _ _ => bound) delivered live'
    exact ⟨fun _ => stays.bound bound, fun _ => stays.inSynRcvd fun _ => bound⟩
  case isFalse stays =>
    cases registered
    have portsFilledIn : PortsFilledIn env (.segment seg) conn.tcb :=
      fun takes => absurd takes stays
    refine deliver_bound live portsFilledIn opened ?_ delivered live'
    intro other same takes
    cases same
    exact absurd takes stays

variable {message : Message}

lemma handleMessage_bound (consistent : Consistent tcp) (live : tcp.conns p = some conn)
    (ok : tcp.handleMessage env message = .ok tcp')
    (live' : tcp'.conns p = some conn') : StaysBound conn conn' := by
  have opened := consistent.opened live
  have used : p ≠ tcp.next := (consistent.lt_next live).ne
  by_cases target : some p = tcp.target message
  · unfold handleMessage at ok
    unfold TCP.target at target
    cases message with
    | command key localAddr remoteAddr command =>
      dsimp only at target ok
      have target : p = (tcp.connectionForApp key).1 := Option.some.inj target
      unfold handleCommand at ok
      unfold connectionForApp at target ok
      split at target
      case h_1 ptr found =>
        subst target
        rw [found] at ok
        dsimp only at ok
        rw [live] at ok
        rcases bind_eq_ok ok with ⟨⟨command', t⟩, registered, delivered⟩
        cases opens : isOpen command with
        | false =>
          obtain ⟨rfl, rfl⟩ := registerCommand_other opens registered
          exact deliver_bound live (portsFilledIn_of_other opens _) opened nofun delivered live'
        | true =>
          obtain ⟨opens', pair, last, -, -, rfl⟩ := registerCommand_open env opens registered
          obtain ⟨_, tcb, found, handled, -⟩ := deliver_cases delivered
          cases (update_self ..).symm.trans found
          have init : conn.tcb.fsm = .init := (handle_open opens' handled).1
          exact absurd init opened
      case h_2 => exact absurd target used
    | segment seg srcAddr destAddr =>
      dsimp only at target ok
      unfold handleSegment at ok
      rw [← target] at ok
      dsimp only at ok
      rw [live] at ok
      have noted : StaysBound conn (conn.noteEcn seg) := ⟨id, id⟩
      exact noted.trans (processTCPSegment_bound (update_self ..) (by exact opened) ok live')
    | timer ptr timer =>
      cases target
      exact deliver_bound live (by exact trivial) opened (by intro _ other; cases other) ok live'
    | algTimer ptr timer =>
      cases target
      exact deliver_bound live (by exact trivial) opened (by intro _ other; cases other) ok live'
    | resizeBuffer ptr maxRcvBuffer =>
      cases target
      exact deliver_bound live (by exact trivial) opened (by intro _ other; cases other) ok live'
  · rw [handleMessage_others used target ok, live] at live'
    cases live'
    exact .refl conn

lemma step_bound (consistent : Consistent tcp) (step : ModuleStep tcp tcp')
    (live : tcp.conns p = some conn) (live' : tcp'.conns p = some conn') :
    StaysBound conn conn' := by
  cases step with
  | message env message _ handled => exact handleMessage_bound consistent live handled live'
  | draw =>
    rw [show tcp.conns p = some conn' from live'] at live
    cases live
    exact .refl conn

/-! ## Connections that come and go -/

lemma target_live (consistent : Consistent tcp) (target : tcp.target message = some p)
    (used : p ≠ tcp.next)
    (ok : tcp.handleMessage env message = .ok tcp') : ∃ conn, tcp.conns p = some conn := by
  have delivers {input : TcpInput} (ok : tcp.deliver env p input = .ok tcp') :
      ∃ conn, tcp.conns p = some conn := by
    obtain ⟨conn, -, live, -⟩ := deliver_cases ok
    exact ⟨conn, live⟩
  unfold TCP.target at target
  cases message with
  | command key localAddr remoteAddr command =>
    have target := Option.some.inj target
    unfold connectionForApp at target
    split at target
    case h_1 ptr found =>
      subst target
      obtain ⟨conn, live, -⟩ := (consistent.appConnMap key ptr).mp found
      exact ⟨conn, live⟩
    case h_2 => exact absurd target.symm used
  | segment seg srcAddr destAddr =>
    have found : ∃ key, tcp.tcpConnMap key = some p := by
      unfold findConnForSegment at target
      dsimp only at target
      split at target
      case h_1 ptr found => exact ⟨_, target ▸ found⟩
      · split at target
        case h_1 ptr found => exact ⟨_, target ▸ found⟩
        · split at target
          case h_1 ptr found => exact ⟨_, target ▸ found⟩
          · exact ⟨_, target⟩
    obtain ⟨key, found⟩ := found
    obtain ⟨conn, live, -⟩ := (consistent.connMap key p).mp found
    exact ⟨conn, live⟩
  | timer ptr timer =>
    cases target
    exact delivers ok
  | algTimer ptr timer =>
    cases target
    exact delivers ok
  | resizeBuffer ptr maxRcvBuffer =>
    cases target
    exact delivers ok

lemma handleMessage_gone (consistent : Consistent tcp) (gone : tcp.conns p = none)
    (used : p ≠ tcp.next)
    (ok : tcp.handleMessage env message = .ok tcp') : tcp'.conns p = none := by
  rw [← gone]
  refine handleMessage_others used (fun target => ?_) ok
  obtain ⟨conn, live⟩ := target_live consistent target.symm used ok
  rw [gone] at live
  cases live

lemma deliver_next {input : TcpInput} (ok : tcp.deliver env ptr input = .ok tcp') :
    tcp'.next = tcp.next := by
  obtain ⟨conn, tcb, -, -, ⟨-, rfl⟩ | rfl⟩ := deliver_cases ok
  · rfl
  · rfl

lemma registerArrival_next {seg : TCPSegment} {srcAddr destAddr : IPvXAddress}
    (ok : tcp.registerArrival ptr conn seg srcAddr destAddr = .ok tcp') : tcp.next ≤ tcp'.next := by
  unfold registerArrival at ok
  split at ok
  · split at ok
    · rcases bind_eq_ok ok with ⟨t₁, update, ok⟩
      rcases bind_eq_ok ok with ⟨t₂, add, ok⟩
      cases ok
      obtain ⟨-, rfl⟩ := updateSockPair_eq update
      obtain ⟨-, rfl⟩ := addSockPair_eq add
      exact Nat.le_succ _
    · obtain ⟨-, rfl⟩ := updateSockPair_eq ok
      exact le_rfl
  · cases ok
    exact le_rfl

lemma registerCommand_next {localAddr remoteAddr : IPvXAddress} {command command' : AppCommand}
    (ok : tcp.registerCommand ptr conn localAddr remoteAddr command = .ok (command', tcp')) :
    tcp'.next = tcp.next := by
  cases opens : isOpen command with
  | false =>
    obtain ⟨-, rfl⟩ := registerCommand_other opens ok
    rfl
  | true =>
    obtain ⟨-, pair, last, -, -, rfl⟩ := registerCommand_open {} opens ok
    rfl

lemma handleMessage_next (ok : tcp.handleMessage env message = .ok tcp') :
    tcp.next ≤ tcp'.next := by
  unfold handleMessage at ok
  cases message with
  | command key localAddr remoteAddr command =>
    unfold handleCommand at ok
    dsimp only at ok
    split at ok
    · cases ok
    · rcases bind_eq_ok ok with ⟨⟨command', t⟩, registered, delivered⟩
      rw [deliver_next delivered, registerCommand_next registered]
      unfold connectionForApp
      split
      · exact le_rfl
      · exact Nat.le_succ _
  | segment seg srcAddr destAddr =>
    dsimp only at ok
    unfold handleSegment at ok
    split at ok
    · cases ok
      exact le_rfl
    · split at ok
      · cases ok
      · rcases bind_eq_ok ok with ⟨-, -, handled⟩
        rcases bind_eq_ok handled with ⟨t, registered, delivered⟩
        have next := registerArrival_next registered
        rw [deliver_next delivered]
        exact next
  | timer ptr timer => exact (deliver_next ok).ge
  | algTimer ptr timer => exact (deliver_next ok).ge
  | resizeBuffer ptr maxRcvBuffer => exact (deliver_next ok).ge

lemma deliver_fsm {input : TcpInput} (live : tcp.conns ptr = some conn)
    (ok : tcp.deliver env ptr input = .ok tcp') (live' : tcp'.conns ptr = some conn') :
    handle env input conn.tcb = .ok conn'.tcb := by
  obtain ⟨_, tcb, found, handled, left⟩ := deliver_cases ok
  obtain rfl := Option.some.inj (live.symm.trans found)
  rcases left with ⟨-, rfl⟩ | rfl
  · change update tcp.conns ptr none ptr = some conn' at live'
    rw [update_self] at live'
    cases live'
  · dsimp only at live'
    rw [update_self] at live'
    cases live'
    exact handled

lemma handleMessage_new (consistent : Consistent tcp)
    (ok : tcp.handleMessage env message = .ok tcp') (live' : tcp'.conns tcp.next = some conn') :
    BoundInSynRcvd conn' := by
  have unused := consistent.unused tcp.next le_rfl
  have absent {ptr : ℕ} {input : TcpInput} (apart : tcp.next ≠ ptr)
      (ok : tcp.deliver env ptr input = .ok tcp') : False := by
    rw [deliver_others apart ok, unused] at live'
    cases live'
  have inner {ptr : ℕ} {input : TcpInput} (ok : tcp.deliver env ptr input = .ok tcp') : False := by
    by_cases apart : tcp.next = ptr
    · subst apart
      obtain ⟨conn, -, live, -⟩ := deliver_cases ok
      rw [unused] at live
      cases live
    · exact absent apart ok
  unfold handleMessage at ok
  cases message with
  | command key localAddr remoteAddr command =>
    dsimp only at ok
    unfold handleCommand connectionForApp findConnForApp at ok
    cases found : tcp.tcpAppConnMap key with
    | some ptr =>
      obtain ⟨conn, live, -⟩ := (consistent.appConnMap key ptr).mp found
      have apart : tcp.next ≠ ptr := (consistent.lt_next live).ne'
      rw [found] at ok
      dsimp only at ok
      rw [live] at ok
      rcases bind_eq_ok ok with ⟨⟨command', t⟩, registered, delivered⟩
      rw [deliver_others apart delivered, registerCommand_others apart registered, unused] at live'
      cases live'
    | none =>
      rw [found] at ok
      dsimp only [createConnection] at ok
      rw [update_self] at ok
      rcases bind_eq_ok ok with ⟨⟨command', t⟩, registered, delivered⟩
      cases opens : isOpen command with
      | false =>
        obtain ⟨rfl, rfl⟩ := registerCommand_other opens registered
        have handled := deliver_fsm (update_self ..) delivered live'
        rw [isOpen_of_init rfl handled] at opens
        cases opens
      | true =>
        obtain ⟨opens', pair, last, -, -, rfl⟩ := registerCommand_open env opens registered
        have handled := deliver_fsm (update_self ..) delivered live'
        intro synRcvd
        rcases (handle_open opens' handled).2 with listen | synSent
        · rw [listen] at synRcvd
          cases synRcvd
        · rw [synSent] at synRcvd
          cases synRcvd
  | segment seg srcAddr destAddr =>
    dsimp only at ok
    unfold handleSegment at ok
    split at ok
    · cases ok
      rw [unused] at live'
      cases live'
    · split at ok
      · cases ok
      case h_2 ptr found _ conn live =>
        have apart : tcp.next ≠ ptr := (consistent.lt_next live).ne'
        rcases bind_eq_ok ok with ⟨-, -, handled⟩
        rcases bind_eq_ok handled with ⟨t, registered, delivered⟩
        rw [deliver_others apart delivered] at live'
        unfold registerArrival at registered
        split at registered
        · split at registered
          · -- the clone of a fork
            rw [addForkedConnection_conns registered, update_of_ne apart, update_self] at live'
            cases live'
            exact nofun
          · obtain ⟨-, rfl⟩ := updateSockPair_eq registered
            dsimp only at live'
            rw [update_of_ne apart, update_of_ne apart, unused] at live'
            cases live'
        · cases registered
          dsimp only at live'
          rw [update_of_ne apart, unused] at live'
          cases live'
  | timer ptr timer => exact (inner ok).elim
  | algTimer ptr timer => exact (inner ok).elim
  | resizeBuffer ptr maxRcvBuffer => exact (inner ok).elim

/-! ## Runs -/

lemma boundInSynRcvd_of_reachable (reachable : ModuleReachable tcp)
    (live : tcp.conns p = some conn) : BoundInSynRcvd conn := by
  have all : Consistent tcp ∧ ∀ p conn, tcp.conns p = some conn → BoundInSynRcvd conn := by
    refine reachable.invariant (P := fun tcp => Consistent tcp ∧
      ∀ p conn, tcp.conns p = some conn → BoundInSynRcvd conn) ?_ ?_
    · intro par uniqueNumber
      exact ⟨consistent_start par uniqueNumber, fun _ _ live => nomatch live⟩
    · rintro tcp tcp' ⟨consistent, all⟩ step
      refine ⟨consistent.step step, fun p conn' live' => ?_⟩
      cases live : tcp.conns p with
      | some conn => exact (step_bound consistent step live live').inSynRcvd (all p conn live)
      | none =>
        cases step with
        | draw =>
          rw [show tcp.conns p = some conn' from live'] at live
          cases live
        | message env message _ handled =>
          by_cases used : p = tcp.next
          · subst used
            exact handleMessage_new consistent handled live'
          · rw [handleMessage_gone consistent live used handled] at live'
            cases live'
  exact all.2 p conn live

lemma bound_of_run (reachable : ModuleReachable tcp)
    (run : Relation.ReflTransGen ModuleStep tcp tcp') (live : tcp.conns p = some conn)
    (bound : Bound conn) :
    ModuleReachable tcp' ∧ p < tcp'.next ∧ ∀ conn', tcp'.conns p = some conn' → Bound conn' := by
  induction run with
  | refl =>
    refine ⟨reachable, (consistent_of_reachable reachable).lt_next live, fun conn' live' => ?_⟩
    rw [live] at live'
    cases live'
    exact bound
  | @tail middle last _ step ih =>
    obtain ⟨reached, below, all⟩ := ih
    have consistent := consistent_of_reachable reached
    obtain ⟨par, uniqueNumber, start⟩ := reached
    refine ⟨⟨par, uniqueNumber, start.tail step⟩, ?_, fun conn' live' => ?_⟩
    · cases step with
      | message env message _ handled => exact below.trans_le (handleMessage_next handled)
      | draw => exact below
    · cases before : middle.conns p with
      | some conn =>
        exact (step_bound consistent step before live').bound (all conn before)
      | none =>
        cases step with
        | message env message _ handled =>
          rw [handleMessage_gone consistent before below.ne handled] at live'
          cases live'
        | draw =>
          rw [show middle.conns p = some conn' from live'] at before
          cases before

lemma peer_of_found {seg : TCPSegment} {srcAddr destAddr : IPvXAddress}
    (consistent : Consistent tcp) (live : tcp.conns p = some conn) (bound : Bound conn)
    (found : tcp.findConnForSegment seg srcAddr destAddr = some p) :
    srcAddr = conn.remoteAddr ∧ some seg.srcPort = conn.tcb.remotePort := by
  have keyed {key : SockPair} (at_ : tcp.tcpConnMap key = some p) : conn.sockPair = key := by
    obtain ⟨conn', live', same⟩ := (consistent.connMap key p).mp at_
    rw [live] at live'
    cases live'
    exact same
  have blank {localAddr : IPvXAddress} {localPort : Option UInt16}
      (at_ : tcp.tcpConnMap ⟨localAddr, none, localPort, none⟩ = some p) : False :=
    bound (congrArg SockPair.remotePort (keyed at_))
  unfold findConnForSegment at found
  dsimp only at found
  split at found
  case h_1 ptr at_ =>
    cases found
    have same := keyed at_
    exact ⟨(congrArg SockPair.remoteAddr same).symm, (congrArg SockPair.remotePort same).symm⟩
  · split at found
    case h_1 ptr at_ =>
      cases found
      have same := keyed at_
      exact ⟨(congrArg SockPair.remoteAddr same).symm, (congrArg SockPair.remotePort same).symm⟩
    · split at found
      case h_1 ptr at_ =>
        cases found
        exact (blank at_).elim
      · exact (blank found).elim

/-- The connection is registered on its local socket with a blank remote one. -/
def RegisteredBlank (tcp : TCP) (ptr : ℕ) (conn : ConnectionObject) : Prop :=
  tcp.tcpConnMap ⟨conn.localAddr, none, conn.tcb.localPort, none⟩ = some ptr

/-- A connection that is back in LISTEN is not registered with a blank remote socket, and
no segment but of its former peer gets to it. -/
theorem return_to_listen_bound (reachable : ModuleReachable tcp)
    (run : Relation.ReflTransGen ModuleStep tcp tcp') (live : tcp.conns p = some conn)
    (synRcvd : conn.tcb.fsm = .synRcvd) (live' : tcp'.conns p = some conn')
    (_ : conn'.tcb.fsm = .listen) :
    ¬ RegisteredBlank tcp' p conn' ∧
      ∀ seg srcAddr destAddr, tcp'.findConnForSegment seg srcAddr destAddr = some p →
        srcAddr = conn'.remoteAddr ∧ some seg.srcPort = conn'.tcb.remotePort := by
  have bound := boundInSynRcvd_of_reachable reachable live synRcvd
  obtain ⟨reached, -, all⟩ := bound_of_run reachable run live bound
  have consistent := consistent_of_reachable reached
  have bound := all conn' live'
  refine ⟨fun blank => ?_, fun _ _ _ found => peer_of_found consistent live' bound found⟩
  obtain ⟨conn'', live'', same⟩ := (consistent.connMap _ p).mp blank
  rw [live'] at live''
  cases live''
  exact bound (congrArg SockPair.remotePort same)

def fromPeer (srcAddr : ℕ) (tcpseg : TCPSegment) : Env × Message :=
  ({}, .segment { tcpseg with srcPort := 5000, destPort := 80 } (some srcAddr) (some 9))

/-- A server on port 80 that does not fork answers the SYN of a peer. -/
def answerFirstPeer : List (Env × Message) :=
  [({}, .command ⟨0, 0⟩ none none (.openPassive (some 80) false)), fromPeer 1 { synBit := true }]

def resetByFirstPeer : List (Env × Message) := [fromPeer 1 { rstBit := true, sequenceNo := 1 }]

def listeningPar : TCPPar := { advertisedWindow := 14000, mss := 1000 }

/-- In SYN_RCVD, opened passively and without fork. -/
def answers (conn : ConnectionObject) : Bool :=
  conn.tcb.fsm = .synRcvd && !conn.tcb.active && !conn.tcb.fork

/-- Back in LISTEN, but no longer under a blank remote socket, and deaf for a second
peer. -/
def deaf (tcp : TCP) (conn : ConnectionObject) : Bool :=
  conn.tcb.fsm = .listen &&
    decide (tcp.tcpConnMap ⟨conn.localAddr, none, conn.tcb.localPort, none⟩ ≠ some 0) &&
    (tcp.findConnForSegment { synBit := true, srcPort := 5000, destPort := 80 }
      (some 2) (some 9)).isNone

lemma exists_returned : ∃ tcp tcp' conn conn', ModuleReachable tcp ∧
    Relation.ReflTransGen ModuleStep tcp tcp' ∧ tcp.conns 0 = some conn ∧ answers conn = true ∧
      tcp'.conns 0 = some conn' ∧ deaf tcp' conn' = true := by
  have runs : (runMessages answerFirstPeer (start listeningPar 1)).any (fun tcp =>
      (tcp.conns 0).any answers && (runMessages resetByFirstPeer tcp).any fun tcp' =>
        (tcp'.conns 0).any (deaf tcp')) = true := by
    decide +kernel
  obtain ⟨tcp, opened, runs⟩ := (Option.any_eq_true _ _).mp runs
  obtain ⟨before, runs⟩ := Bool.and_eq_true_iff.mp runs
  obtain ⟨conn, live, answered⟩ := (Option.any_eq_true _ _).mp before
  obtain ⟨tcp', run, runs⟩ := (Option.any_eq_true _ _).mp runs
  obtain ⟨conn', live', deaf⟩ := (Option.any_eq_true _ _).mp runs
  exact ⟨tcp, tcp', conn, conn', ⟨_, _, reflTransGen_of_runMessages opened⟩,
    reflTransGen_of_runMessages run, live, answered, live', deaf⟩

theorem second_peer_not_heard :
    ¬ ∀ tcp tcp' p conn conn', ModuleReachable tcp → Relation.ReflTransGen ModuleStep tcp tcp' →
      tcp.conns p = some conn → answers conn = true → tcp'.conns p = some conn' →
      conn'.tcb.fsm = .listen → RegisteredBlank tcp' p conn' := by
  intro complete
  obtain ⟨tcp, tcp', conn, conn', reachable, run, live, answered, live', deaf⟩ := exists_returned
  obtain ⟨test, -⟩ := Bool.and_eq_true_iff.mp deaf
  obtain ⟨listen, elsewhere⟩ := Bool.and_eq_true_iff.mp test
  exact of_decide_eq_true elsewhere
    (complete tcp tcp' 0 conn conn' reachable run live answered live' (of_decide_eq_true listen))

/-- The server of that run hears nobody but its first peer. -/
theorem return_to_listen_bound_to_first :
    ∃ tcp' conn', tcp'.conns 0 = some conn' ∧ conn'.tcb.fsm = .listen ∧
      ¬ RegisteredBlank tcp' 0 conn' ∧
        ∀ seg srcAddr destAddr, tcp'.findConnForSegment seg srcAddr destAddr = some 0 →
          srcAddr = conn'.remoteAddr ∧ some seg.srcPort = conn'.tcb.remotePort := by
  obtain ⟨tcp, tcp', conn, conn', reachable, run, live, answered, live', deaf⟩ := exists_returned
  obtain ⟨test, -⟩ := Bool.and_eq_true_iff.mp deaf
  obtain ⟨listen, -⟩ := Bool.and_eq_true_iff.mp test
  obtain ⟨answers, -⟩ := Bool.and_eq_true_iff.mp answered
  obtain ⟨synRcvd, -⟩ := Bool.and_eq_true_iff.mp answers
  have listen := of_decide_eq_true listen
  exact ⟨tcp', conn', live', listen, return_to_listen_bound reachable run live
    (of_decide_eq_true synRcvd) live' listen⟩

end TCP

end Inet.Tcp
