import Inet.Tcp.RegistryConsistency
import Inet.Tcp.StreamEnd
import Inet.Tcp.StreamOutcome

/-!
# A SYN that is dropped

By the time `processSegmentInListen` looks at the text of a SYN, the connection has been forked or
registered with the peer, and the SYN+ACK is out. There is never space for the text, so the SYN is
dropped, and the connection stays in LISTEN with all that.
-/

namespace Inet.Tcp

namespace TCPConnection

variable {env : Env} {seg : TCPSegment} {e : TCPEventCode} {c c' : TCPConnection}

/-- A SYN+ACK has gone out. -/
def SynAckSent (c c' : TCPConnection) : Prop :=
  ∃ synAck, c'.sent = c.sent ++ [synAck] ∧ synAck.synBit = true ∧ synAck.ackBit = true

/-- The event takes a connection that sent a SYN+ACK to SYN_RCVD. -/
def EntersSynRcvd (event : TCPEventCode) (c c' : TCPConnection) : Prop :=
  SynAckSent c c' → event = .rcvSyn ∧ nextState c'.active c'.fsm event = .synRcvd

lemma acceptSyn_outcome (ok : acceptSyn env seg c = .ok (e, c')) :
    SynAckSent c c' ∧ e = if 0 < seg.payloadLength then .ignore else .rcvSyn := by
  rcases Except.bind_eq_ok ok with ⟨c₁, socket, ok⟩
  rcases Except.bind_eq_ok ok with ⟨c₂, select, ok⟩
  rcases Except.bind_eq_ok ok with ⟨c₃, options, ok⟩
  rcases Except.bind_eq_ok ok with ⟨c₄, send, ok⟩
  have selected := selectInitialSeqNum_eq select
  have read := readSynOptions_kept options
  have queue : c₄.receiveQueue.getFirstSeqNo = seg.sequenceNo + 1 := by
    have opened : c₄.receiveQueue = c₃.receiveQueue := (sendSynAck_kept send).receiveQueue
    have kept : c₃.receiveQueue = c₂.receiveQueue :=
      (StreamKept.of_options read).receiveQueue.trans (updateWndInfo_stream ..).receiveQueue
    rw [opened, kept, selected]
    rfl
  have unsent : c₃.sent = c.sent := by
    have written : (updateWndInfo seg true c₂).sent = c₂.sent := by
      simp only [updateWndInfo]
      split_ifs <;> rfl
    rw [read.outputVars, written, selected]
    exact (takeForeignSocket_unsent socket :)
  obtain ⟨synAck, sent, -, synBit, ackBit, -⟩ := sendSynAck_sent send
  rw [acceptSynText_eq (by exact queue)] at ok
  have answered : c₄.sent = c.sent ++ [synAck] := sent.trans (by rw [← unsent])
  split at ok
  case isTrue text =>
    cases ok
    exact ⟨⟨synAck, answered, synBit, ackBit⟩, (if_pos text).symm⟩
  case isFalse empty =>
    cases ok
    exact ⟨⟨synAck, answered, synBit, ackBit⟩, (if_neg empty).symm⟩

lemma SynAckSent.ne (sent : SynAckSent c c') : c'.sent ≠ c.sent := by
  obtain ⟨synAck, sent, -⟩ := sent
  intro same
  rw [same] at sent
  exact List.cons_ne_nil _ _ (List.self_eq_append_right.mp sent)

end TCPConnection

namespace TCP

open TCPConnection

variable {env : Env} {ptr : ℕ} {conn conn' : ConnectionObject} {tcp tcp' : TCP}
  {seg : TCPSegment} {srcAddr destAddr : IPvXAddress} {e : TCPEventCode} {c' : TCPConnection}

lemma registerArrival_listener (live : tcp.conns ptr = some conn)
    (listening : conn.tcb.fsm = .listen)
    (registered : tcp.registerArrival ptr conn seg srcAddr destAddr = .ok tcp')
    (there : tcp'.conns ptr = some conn') :
    conn'.tcb.fsm = .listen ∧ conn'.tcb.sent = conn.tcb.sent ∧
      (opens seg = false → tcp' = tcp ∧ conn' = conn) := by
  unfold registerArrival takesSockPair at registered
  rw [listening] at registered
  dsimp only at registered
  split at registered
  case isTrue opens =>
    rw [opens]
    split at registered
    · rw [addForkedConnection_conns registered, Function.update_self] at there
      obtain rfl := Option.some.inj there
      exact ⟨listening, rfl, nofun⟩
    · obtain ⟨-, rfl⟩ := updateSockPair_eq registered
      dsimp only at there
      rw [Function.update_self] at there
      obtain rfl := Option.some.inj there
      exact ⟨listening, rfl, nofun⟩
  case isFalse =>
    obtain rfl := Except.ok.inj registered
    obtain rfl := Option.some.inj (live.symm.trans there)
    exact ⟨listening, rfl, fun _ => ⟨rfl, rfl⟩⟩

/-- The module and the connection are as they were before the segment arrived. -/
def Untouched (tcp tcp' : TCP) (conn : ConnectionObject) (c' : TCPConnection) : Prop :=
  tcp' = tcp ∧ c' = conn.tcb

/-- A segment with the SYN bit goes through as it should exactly when it carries no text, or is
stopped by the first two checks. A SYN that is dropped leaves the listener untouched exactly when it
carries no text or is a RST. -/
theorem listener_untouched_iff (live : tcp.conns ptr = some conn)
    (listening : conn.tcb.fsm = .listen) (syn : seg.synBit = true)
    (registered : tcp.registerArrival ptr conn seg srcAddr destAddr = .ok tcp')
    (there : tcp'.conns ptr = some conn')
    (ok : processSegmentInListen env seg conn'.tcb = .ok (e, c')) :
    (EntersSynRcvd e conn'.tcb c' ↔ seg.rstBit = true ∨ seg.ackBit = true ∨ seg.payloadLength = 0) ∧
    (seg.ackBit = false → ((e = .ignore → Untouched tcp tcp' conn c') ↔
        seg.rstBit = true ∨ seg.payloadLength = 0)) := by
  obtain ⟨fsm, unsent, stays⟩ := registerArrival_listener live listening registered there
  have kept := processSegmentInListen_kept ok
  unfold processSegmentInListen at ok
  cases rst : seg.rstBit with
  | true =>
    rw [if_pos rst] at ok
    cases ok
    obtain ⟨rfl, rfl⟩ := stays (by rw [opens, rst]; rfl)
    have silent : ¬ SynAckSent conn'.tcb conn'.tcb := fun sent => sent.ne rfl
    exact ⟨iff_of_true (fun sent => absurd sent silent) (.inl rfl),
      fun _ => iff_of_true (fun _ => ⟨rfl, rfl⟩) (.inl rfl)⟩
  | false =>
    rw [if_neg (Bool.eq_false_iff.mp rst)] at ok
    cases ack : seg.ackBit with
    | true =>
      rw [if_pos ack] at ok
      cases ok
      refine ⟨iff_of_true (fun answered => ?_) (.inr (.inl rfl)),
        fun noAck => absurd noAck (by decide)⟩
      -- what went out is a RST
      obtain ⟨synAck, sent, synBit, -⟩ := answered
      obtain rfl := List.singleton_inj.mp (List.append_cancel_left sent)
      cases synBit
    | false =>
      rw [if_neg (Bool.eq_false_iff.mp ack), if_pos syn] at ok
      obtain ⟨sent, outcome⟩ := acceptSyn_outcome ok
      have fsm : c'.fsm = .listen := kept.fsm.trans fsm
      split at outcome
      case isTrue text =>
        have touched : ¬ (e = .ignore → Untouched tcp tcp' conn c') := fun untouched =>
          sent.ne (by rw [(untouched outcome).2, unsent])
        have stuck : ¬ EntersSynRcvd e conn'.tcb c' := fun enters => by
          have other := (enters sent).1
          rw [outcome] at other
          cases other
        exact ⟨iff_of_false stuck (by simp [text.ne']),
          fun _ => iff_of_false touched (by simp [text.ne'])⟩
      case isFalse empty =>
        have noText : seg.payloadLength = 0 := Nat.eq_zero_of_not_pos empty
        refine ⟨iff_of_true (fun _ => ⟨outcome, ?_⟩) (.inr (.inr noText)),
          fun _ => iff_of_true (fun ignored => ?_) (.inr noText)⟩
        · rw [fsm, outcome]
          rfl
        · rw [outcome] at ignored
          cases ignored

/-- A SYN from port 5000 to port 1030. -/
def peerSynText (payloadLength : ℕ) : TCPSegment :=
  { srcPort := 5000, destPort := 1030, synBit := true, payloadLength := payloadLength }

def forkingListener : List (Env × Message) :=
  [({}, .command ⟨0, 0⟩ none none (.openPassive (some 1030) true))]

/-- What `processSegmentInListen` returns for the segment at the connection `0`. -/
def listenerEvent (tcpseg : TCPSegment) (tcp : TCP) : Option TCPEventCode :=
  (tcp.conns 0).bind fun conn =>
    if conn.tcb.fsm = .listen then
      (tcp.registerArrival 0 conn tcpseg (some 1) (some 2)).toOption.bind fun tcp' =>
        (tcp'.conns 0).bind fun conn' =>
          (processSegmentInListen {} tcpseg conn'.tcb).toOption.map Prod.fst
    else none

lemma exists_of_listenerEvent (test : listenerEvent seg tcp = some e) :
    ∃ conn conn' tcp' c', tcp.conns 0 = some conn ∧ conn.tcb.fsm = .listen ∧
      tcp.registerArrival 0 conn seg (some 1) (some 2) = .ok tcp' ∧
      tcp'.conns 0 = some conn' ∧ processSegmentInListen {} seg conn'.tcb = .ok (e, c') := by
  obtain ⟨conn, live, test⟩ := Option.bind_eq_some_iff.mp test
  split at test
  case isTrue listening =>
    obtain ⟨tcp', registered, test⟩ := Option.bind_eq_some_iff.mp test
    obtain ⟨conn', there, test⟩ := Option.bind_eq_some_iff.mp test
    obtain ⟨⟨e', c'⟩, ok, same⟩ := Option.map_eq_some_iff.mp test
    cases same
    exact ⟨conn, conn', tcp', c', live, listening, Except.eq_ok_of_toOption registered, there,
      Except.eq_ok_of_toOption ok⟩
  case isFalse => cases test

/-- A SYN with one octet is dropped by a server that has forked and answered it. -/
theorem dropped_syn_leaves_traces :
    ¬ ∀ env ptr tcp tcp' conn conn' seg srcAddr destAddr e c', ModuleReachable tcp →
      tcp.conns ptr = some conn → conn.tcb.fsm = .listen → seg.synBit = true →
      seg.ackBit = false → tcp.registerArrival ptr conn seg srcAddr destAddr = .ok tcp' →
      tcp'.conns ptr = some conn' →
      processSegmentInListen env seg conn'.tcb = .ok (e, c') →
      e = .ignore → Untouched tcp tcp' conn c' := by
  intro untouched
  have dropped : (runMessages forkingListener (start serverPar 1)).any
      (fun tcp => listenerEvent (peerSynText 1) tcp = some .ignore) = true := by
    decide +kernel
  obtain ⟨tcp, reachable, test⟩ := exists_moduleReachable dropped
  obtain ⟨conn, conn', tcp', c', live, listening, registered, there, ok⟩ :=
    exists_of_listenerEvent (of_decide_eq_true test)
  obtain ⟨-, same⟩ := untouched _ _ tcp tcp' conn conn' _ _ _ _ c' reachable live listening rfl rfl
    registered there ok rfl
  have unsent := (registerArrival_listener live listening registered there).2.1
  have answered := (acceptSyn_outcome ok).1
  exact answered.ne (by rw [same, unsent])

/-- A SYN without text takes it to SYN_RCVD. -/
theorem listener_untouched_plain_syn :
    ∃ tcp tcp' conn conn' e c', ModuleReachable tcp ∧ tcp.conns 0 = some conn ∧
      tcp.registerArrival 0 conn (peerSynText 0) (some 1) (some 2) = .ok tcp' ∧
      tcp'.conns 0 = some conn' ∧
      processSegmentInListen {} (peerSynText 0) conn'.tcb = .ok (e, c') ∧
      EntersSynRcvd e conn'.tcb c' ∧ (e = .ignore → Untouched tcp tcp' conn c') := by
  have taken : (runMessages forkingListener (start serverPar 1)).any
      (fun tcp => listenerEvent (peerSynText 0) tcp = some .rcvSyn) = true := by
    decide +kernel
  obtain ⟨tcp, reachable, test⟩ := exists_moduleReachable taken
  obtain ⟨conn, conn', tcp', c', live, listening, registered, there, ok⟩ :=
    exists_of_listenerEvent (of_decide_eq_true test)
  obtain ⟨enters, untouched⟩ := listener_untouched_iff live listening rfl registered there ok
  exact ⟨tcp, tcp', conn, conn', _, c', reachable, live, registered, there, ok,
    enters.mpr (.inr (.inr rfl)), (untouched rfl).mpr (.inr rfl)⟩

end TCP

end Inet.Tcp
