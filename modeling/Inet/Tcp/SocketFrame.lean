import Inet.Tcp.SegmentOutcome
import Inet.Tcp.ArrivalFrame
import Inet.Tcp.Registry

/-!
# The socket pair across an event

The ports of a connection change only where the module changes the socket pair with them: at an
OPEN, and at a SYN in LISTEN or SYN_SENT.
-/

namespace Inet.Tcp.TCPConnection

variable {env : Env} {input : TcpInput} {c c' : TCPConnection} {lp rp : Option UInt16}

lemma sendClosed_of_inputVars (H : InputVars → Prop) :
    SynClosed env (fun _ => True) (fun _ => True) (fun d => H d.toInputVars) where
  elsewhere _ := trivial
  noOptions := trivial
  algVars kept _ := kept
  sendVars kept _ := kept
  scoreboardVars kept _ := kept
  toApp kept _ := kept
  updateRcvWnd {c} kept := by
    refine .of_forall (fun ⟨window, d⟩ ok => ?_) fun _ _ => trivial
    rw [(updateRcvWnd_eq ok).1]
    exact kept
  writeHeaderOptions {c tcpseg} kept _ _ := by
    refine .of_forall (fun ⟨tcpseg', d⟩ ok => ⟨trivial, ?_⟩) fun _ _ => trivial
    have same : d.toInputVars = c.toInputVars := (writeHeaderOptions_written ok).inputVars
    dsimp only
    rw [same]
    exact kept
  emit kept _ _ _ := kept
  writeSynHeader {c tcpseg} kept _ := by
    refine .of_forall (fun ⟨tcpseg', d⟩ ok => ?_) fun _ _ => trivial
    have same : d.toInputVars = c.toInputVars := (writeHeaderOptions_written ok).inputVars
    dsimp only
    rw [same]
    exact kept
  emitSyn kept _ _ := kept

/-- The ports are these. -/
def OnPorts (localPort remotePort : Option UInt16) (c : TCPConnection) : Prop :=
  c.localPort = localPort ∧ c.remotePort = remotePort

lemma sendClosed_onPorts : SynClosed env (fun _ => True) (fun _ => True)
    (OnPorts lp rp) :=
  sendClosed_of_inputVars fun vars => vars.localPort = lp ∧ vars.remotePort = rp

lemma arrivalClosed_onPorts (tcpseg : TCPSegment) :
    ArrivalClosed env tcpseg (fun _ => True) (OnPorts lp rp) where
  elsewhere _ := trivial
  callback kept callback := sendClosed_onPorts.runCallback kept callback
  sendAck kept := sendClosed_onPorts.sendAck kept
  sendAckEcn kept ecn := sendClosed_onPorts.sendAckEcn kept ecn
  sendRst kept _ := kept
  readHeaderOptions {c} kept := by
    refine .of_forall (fun d ok => ?_) fun _ _ => trivial
    have read := readHeaderOptions_kept ok
    exact ⟨read.localPort.trans kept.1, read.remotePort.trans kept.2⟩
  algVars kept _ := kept
  toApp kept _ := kept
  timers kept _ := kept
  received kept _ _ _ _ := kept
  finSeen kept _ _ _ := kept
  counted kept _ _ _ := kept
  sndWindow kept _ _ _ := kept
  takeAck {c} kept _ vars := by
    refine .of_forall (fun d ok => ?_) fun _ _ => trivial
    obtain ⟨sendQueue, rexmitQueue, -, rfl⟩ := discardAcked_eq ok
    exact kept
  flush kept _ _ _ _ := kept

/-- The ports that the event fills in are those the connection has already. -/
def PortsFilledIn (env : Env) (input : TcpInput) (c : TCPConnection) : Prop :=
  match input with
  | .command (.openActive localPort remotePort) =>
      c.localPort = some (localPort.getD env.ephemeralPort) ∧ c.remotePort = remotePort
  | .command (.openPassive localPort _) => c.localPort = localPort
  | .segment tcpseg =>
      TCP.takesSockPair tcpseg c = true →
        c.localPort = some tcpseg.destPort ∧ c.remotePort = some tcpseg.srcPort
  | _ => True

lemma handshakeClosed_onPorts {tcpseg : TCPSegment} :
    HandshakeClosed env tcpseg (fun _ => True)
      (OnPorts (some tcpseg.destPort) (some tcpseg.srcPort)) where
  toArrivalClosed := arrivalClosed_onPorts tcpseg
  ports _ := ⟨rfl, rfl⟩
  synRexmitCount kept _ := kept
  sendSynAck kept := sendClosed_onPorts.sendSynAck kept
  reopen kept := sendClosed_onPorts.sendSynAck kept
  takeSynAck kept _ _ _ _ _ := kept

lemma configureStateVariables_onPorts (kept : OnPorts lp rp c)
    (ok : c.configureStateVariables = .ok c') : OnPorts lp rp c' := by
  obtain ⟨rcvWnd, rfl⟩ := configureStateVariables_eq ok
  exact kept

lemma selectInitialSeqNum_onPorts (kept : OnPorts lp rp c) :
    EndsIn (fun _ => True) (OnPorts lp rp) (selectInitialSeqNum env c) := by
  unfold selectInitialSeqNum
  split
  · exact kept
  · trivial

lemma processOpenActive_onPorts {port rp : Option UInt16} :
    EndsIn (fun _ => True)
      (fun result => OnPorts (some (port.getD env.ephemeralPort)) rp result.2)
      (processOpenActive env port rp c) := by
  unfold processOpenActive
  split
  · refine EndsIn.bind (.of_forall (fun _ _ => trivial) fun _ _ => trivial) fun c₁ _ => ?_
    split
    · trivial
    · refine EndsIn.bind (selectInitialSeqNum_onPorts ⟨rfl, rfl⟩) fun c₂ kept => ?_
      refine EndsIn.bind (sendClosed_onPorts.sendSyn kept) fun c₃ kept => ?_
      exact EndsIn.bind (.of_forall (fun _ _ => trivial) fun _ _ => trivial) fun _ _ => kept
  · trivial

lemma processOpenPassive_onPorts {port : Option UInt16} {fork : Bool} :
    EndsIn (fun _ => True) (fun result => OnPorts port c.remotePort result.2)
      (processOpenPassive port fork c) := by
  unfold processOpenPassive
  split
  · have init : EndsIn (fun _ => True) (OnPorts c.localPort c.remotePort) c.initConnection := by
      refine .of_forall (fun d ok => ?_) fun _ _ => trivial
      exact configureStateVariables_onPorts (by exact ⟨rfl, rfl⟩) ok
    refine EndsIn.bind init fun d kept => ?_
    split
    · trivial
    · exact ⟨rfl, kept.2⟩
  · trivial

lemma sendInState_onPorts {byteLength : ℕ} (kept : OnPorts lp rp c) :
    EndsIn (fun _ => True) (OnPorts lp rp) (sendInState env byteLength c) := by
  have queued {d : TCPConnection} (kept : OnPorts lp rp d) :
      EndsIn (fun _ => True) (OnPorts lp rp) (enqueue byteLength d) :=
    EndsIn.bind (.of_forall (fun _ _ => trivial) fun _ _ => trivial) fun _ _ => kept
  unfold sendInState
  split
  · refine EndsIn.bind (selectInitialSeqNum_onPorts (by exact kept)) fun c₁ kept => ?_
    refine EndsIn.bind (sendClosed_onPorts.sendSyn kept) fun c₂ kept => ?_
    exact EndsIn.bind (.of_forall (fun _ _ => trivial) fun _ _ => trivial) fun _ _ => queued kept
  iterate 2 exact queued kept
  iterate 2 exact (queued kept).bind fun c₁ kept => sendClosed_onPorts.runCallback kept _
  all_goals trivial

lemma closeSending_onPorts (kept : OnPorts lp rp c) :
    EndsIn (fun _ => True) (fun result => OnPorts lp rp result.2)
      (closeSending env c) := by
  have sent : EndsIn (fun _ => True) (fun result => OnPorts lp rp result.2)
      (sendFinOrDefer env c) := by
    unfold sendFinOrDefer
    split
    case isTrue atEnd =>
      have closed : SynClosed env (fun _ => True) (fun _ => True)
          (OnPorts lp rp) := sendClosed_onPorts
      have fin := closed.sendFIN (c := { c with sndNxt := c.sndMax }) kept atEnd
      have now : EndsIn (fun _ => True) (OnPorts lp rp) (sendFinNow env c) := by
        exact EndsIn.bind fin fun d kept => kept
      exact EndsIn.bind now fun d kept => kept
    case isFalse => exact kept
  exact sent.bind fun result kept => kept

lemma takeForeignSocket_onPorts {tcpseg : TCPSegment} :
    EndsIn (fun _ => True) (OnPorts (some tcpseg.destPort) (some tcpseg.srcPort))
      (takeForeignSocket tcpseg c) := by
  exact EndsIn.bind (.of_forall (fun _ _ => trivial) fun _ _ => trivial) fun _ _ => ⟨rfl, rfl⟩

lemma eventClosed_onPorts (filled : PortsFilledIn env input c) :
    EventClosed env input (fun _ => True) (OnPorts c.localPort c.remotePort) c where
  arrival tcpseg := arrivalClosed_onPorts tcpseg
  queueLimit kept _ := kept
  queueUpdate kept _ := kept
  synRexmitCount kept _ := kept
  resendSyn kept := by
    unfold resendSyn
    split
    · exact sendClosed_onPorts.sendSyn kept
    · exact sendClosed_onPorts.sendSynAck kept
    · trivial
  openActive input_eq := by
    subst input_eq
    obtain ⟨lp, rp⟩ := filled
    rw [lp, rp]
    exact processOpenActive_onPorts
  openPassive input_eq := by
    subst input_eq
    rw [show c.localPort = _ from filled]
    exact processOpenPassive_onPorts
  send _ := sendInState_onPorts ⟨rfl, rfl⟩
  close _ := closeSending_onPorts ⟨rfl, rfl⟩
  acceptSyn {tcpseg} input_eq listen opens := by
    subst input_eq
    obtain ⟨lp, rp⟩ := filled (by rw [TCP.takesSockPair, listen]; exact opens)
    rw [lp, rp]
    have closed : HandshakeClosed env tcpseg (fun _ => True) _ := handshakeClosed_onPorts
    refine closed.acceptSyn ?_
    exact takeForeignSocket_onPorts.bind fun d kept => selectInitialSeqNum_onPorts kept
  acceptSynInSynSent {tcpseg} input_eq synSent noRst syn acceptable := by
    subst input_eq
    have takes : TCP.takesSockPair tcpseg c = true := by
      rw [TCP.takesSockPair, synSent]
      dsimp only
      rw [syn, noRst, decide_eq_false acceptable]
      rfl
    obtain ⟨lp, rp⟩ := filled takes
    have closed : HandshakeClosed env tcpseg (fun _ => True) _ := handshakeClosed_onPorts
    rw [lp, rp]
    exact closed.acceptSynInSynSent ⟨lp, rp⟩ acceptable
  sendRstTo kept _ _ _ := kept
  resizeBuffer kept _ := kept

lemma handle_onPorts (filled : PortsFilledIn env input c) (ok : handle env input c = .ok c') :
    OnPorts c.localPort c.remotePort c' := by
  obtain ⟨e, d, timers, toApp, processed, -, rfl⟩ := handle_eq ok
  exact ((eventClosed_onPorts filled).process ⟨rfl, rfl⟩).of_ok processed

lemma nextState_ne_init {active : Bool} {state : TcpState} (open_ : state ≠ .init)
    (e : TCPEventCode) : nextState active state e ≠ .init := by
  cases state with
  | init => exact absurd rfl open_
  | _ => cases e <;> cases active <;> exact nofun

lemma handle_ne_init (open_ : c.fsm ≠ .init) (ok : handle env input c = .ok c') :
    c'.fsm ≠ .init := by
  obtain ⟨e, d, timers, toApp, processed, -, rfl⟩ := handle_eq ok
  have kept := process_fsm processed
  exact nextState_ne_init (by rw [kept]; exact open_) e

/-- Is this the command that opens a connection? -/
def isOpen : AppCommand → Bool
  | .openActive _ _ | .openPassive _ _ => true
  | _ => false

lemma isOpen_of_init {command : AppCommand} (init : c.fsm = .init)
    (ok : handle env (.command command) c = .ok c') : isOpen command = true := by
  obtain ⟨e, d, timers, toApp, processed, -, -⟩ := handle_eq ok
  change processCommand env command c = .ok (e, d) at processed
  unfold processCommand at processed
  cases command with
  | openActive lp rp => rfl
  | openPassive lp fork => rfl
  | send byteLength =>
    rcases Except.bind_eq_ok processed with ⟨d, sent, -⟩
    unfold sendInState at sent
    rw [init] at sent
    cases sent
  | close =>
    unfold processClose at processed
    rw [init] at processed
    cases processed
  | abort =>
    unfold processAbort at processed
    rw [init] at processed
    cases processed
  | status =>
    rw [if_pos init] at processed
    cases processed
  | queueBytesLimit limit =>
    dsimp only at processed
    rw [if_pos init] at processed
    cases processed

/-- A connection that is open cannot be opened, and one that is not goes to LISTEN or
SYN_SENT. -/
lemma handle_open {command : AppCommand} (opens : isOpen command = true)
    (ok : handle env (.command command) c = .ok c') :
    c.fsm = .init ∧ (c'.fsm = .listen ∨ c'.fsm = .synSent) := by
  obtain ⟨e, d, timers, toApp, processed, -, rfl⟩ := handle_eq ok
  have kept := process_fsm processed
  change processCommand env command c = .ok (e, d) at processed
  unfold processCommand at processed
  cases command with
  | openActive lp rp =>
    dsimp only at processed
    unfold processOpenActive at processed
    split at processed
    case isTrue init =>
      rcases Except.bind_eq_ok processed with ⟨c₁, -, processed⟩
      split at processed
      · cases processed
      · rcases Except.bind_eq_ok processed with ⟨c₂, -, processed⟩
        rcases Except.bind_eq_ok processed with ⟨c₃, -, processed⟩
        rcases Except.bind_eq_ok processed with ⟨connEstab, -, processed⟩
        cases processed
        rw [kept, init]
        exact ⟨rfl, .inr rfl⟩
    case isFalse => cases processed
  | openPassive lp fork =>
    dsimp only at processed
    unfold processOpenPassive at processed
    split at processed
    case isTrue init =>
      rcases Except.bind_eq_ok processed with ⟨c₁, -, processed⟩
      split at processed
      · cases processed
      · cases processed
        rw [kept, init]
        exact ⟨rfl, .inl rfl⟩
    case isFalse => cases processed
  | _ => cases opens

end Inet.Tcp.TCPConnection
