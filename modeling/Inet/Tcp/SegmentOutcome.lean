import Inet.Tcp.ReceiveFrame

/-!
# What a segment does to the closing of a connection

An event keeps `CloseVars`, up to what a command or a SYN sets anew (`CloseKept`), or it is a
segment that gets as far as its ACK field, and then `SegmentOutcome` lists what it may do.
-/

namespace Inet.Tcp.TCPConnection

open Inet.Except

variable {env : Env} {c c' d : TCPConnection} {tcpseg : TCPSegment} {event event' : TCPEventCode}

/-! ## Past the ACK field -/

/-- The segment gets as far as its ACK field. -/
def reachesAck (tcpseg : TCPSegment) (c : TCPConnection) : Bool :=
  isSegmentAcceptable tcpseg c && !tcpseg.rstBit && !tcpseg.synBit && tcpseg.ackBit &&
    (c.fsm ≠ .synRcvd || decide (seqLE c.sndUna tcpseg.ackNo ∧ seqLE tcpseg.ackNo c.sndNxt))

/-- The ACK number is new, has been sent, and is that of our FIN. -/
def takesFinAck (tcpseg : TCPSegment) (c : TCPConnection) : Bool :=
  c.acksFin tcpseg.ackNo && !decide (seqGE c.sndUna tcpseg.ackNo) &&
    (c.fsm = .synRcvd || decide (seqLE tcpseg.ackNo c.sndMax))

/-- The closing once the ACK field has been looked at; `takes` tells whether it is the
ACK of our FIN. -/
def AckTaken (takes : Prop) (c d : TCPConnection) : Prop :=
  d.toCloseVars = c.toCloseVars ∨ (processesAck c.fsm = true ∧ takes ∧
      d.toCloseVars = { c.toCloseVars with finAckRcvd := true })

/-- What a segment does from its ACK field on. -/
inductive SegmentOutcome (takes : Prop) (tcpseg : TCPSegment) (c : TCPConnection) :
    TCPEventCode → TCPConnection → Prop
  | unsentAck {c' : TCPConnection} (kept : c'.toCloseVars = c.toCloseVars) :
      SegmentOutcome takes tcpseg c .ignore c'
  | lastAck {c' : TCPConnection} (state : c.fsm = .lastAck) (acked : AckTaken takes c c') :
      SegmentOutcome takes tcpseg c .rcvAck c'
  | dropped {c' : TCPConnection} (acked : AckTaken takes c c')
      (text : c.takesText tcpseg = true) (noSpace : c.fsm = .finWait1 → c.textDropped tcpseg = true) :
      SegmentOutcome takes tcpseg c .ignore c'
  | handled {d c' : TCPConnection} {start event : TCPEventCode} (oldSndNxt : UInt32)
      (acked : AckTaken takes c d) (waits : c.fsm = .lastAck → d.toCloseVars = c.toCloseVars)
      (fin : FinHandled (c.finAtHand tcpseg = true) (d.eventAfterAck start) d event c') :
      SegmentOutcome takes tcpseg c (c'.deferredClose oldSndNxt event) c'

namespace SegmentOutcome

variable {takes takes' : Prop}

lemma transport (outcome : SegmentOutcome takes tcpseg d event c')
    (closeVars : d.toCloseVars = c.toCloseVars) (rcvNxt : d.rcvNxt = c.rcvNxt)
    (dropped : c.fsm = .finWait1 → d.textDropped tcpseg = c.textDropped tcpseg)
    (imp : takes → takes') : SegmentOutcome takes' tcpseg c event c' := by
  have taken {e : TCPConnection} (acked : AckTaken takes d e) : AckTaken takes' c e := by
    rcases acked with kept | ⟨processes, holds, set⟩
    · exact .inl (kept.trans closeVars)
    · rw [closeVars] at processes set
      exact .inr ⟨processes, imp holds, set⟩
  have takesText : d.takesText tcpseg = c.takesText tcpseg := by
    simp only [TCPConnection.takesText, closeVars]
  have finAtHand : d.finAtHand tcpseg = c.finAtHand tcpseg := by
    simp only [TCPConnection.finAtHand, takesText, closeVars, rcvNxt]
  cases outcome with
  | unsentAck kept => exact .unsentAck (kept.trans closeVars)
  | lastAck state acked => exact .lastAck (closeVars ▸ state) (taken acked)
  | dropped acked text noSpace =>
    rw [closeVars] at noSpace
    exact .dropped (taken acked) (takesText ▸ text) fun state => dropped state ▸ noSpace state
  | handled oldSndNxt acked waits fin =>
    rw [closeVars] at waits
    exact .handled oldSndNxt (taken acked) waits (finAtHand ▸ fin)

end SegmentOutcome

lemma textDropped_congr (rcvStreamVars : d.toRcvStreamVars = c.toRcvStreamVars)
    (rcvWndVars : d.toRcvWndVars = c.toRcvWndVars) :
    d.textDropped tcpseg = c.textDropped tcpseg := by
  simp only [textDropped, hasEnoughSpaceForSegmentInReceiveQueue, rcvStreamVars, rcvWndVars]

namespace AckTaken

variable {takes : Prop}

lemma fsm (acked : AckTaken takes c d) : d.fsm = c.fsm := by
  rcases acked with same | ⟨-, -, same⟩ <;> rw [same]

lemma finRcvd (acked : AckTaken takes c d) : d.finRcvd = c.finRcvd := by
  rcases acked with same | ⟨-, -, same⟩ <;> rw [same]

lemma acksFin (acked : AckTaken takes c d) (ackNo : UInt32) :
    d.acksFin ackNo = c.acksFin ackNo := by
  rcases acked with same | ⟨-, -, same⟩ <;> simp only [TCPConnection.acksFin, same]

end AckTaken

lemma processSegment5th_outcome {oldSndUna : UInt32}
    (ok : processSegment5th env oldSndUna tcpseg event c = .ok (event', c')) :
    SegmentOutcome (c.acksOurFin tcpseg = true) tcpseg c event' c' := by
  rcases bind_eq_ok ok with ⟨⟨goOn, d⟩, ack, ok⟩
  have taken := processAck_closing ack
  cases goOn with
  | false =>
    cases ok
    rcases taken with kept | ⟨-, -, goOn, -⟩
    · exact .unsentAck kept
    · cases goOn
  | true =>
    have kept := processAck_kept ack
    have acked : AckTaken (c.acksOurFin tcpseg = true) c d :=
      taken.imp_right fun ⟨processes, takes, _, set⟩ => ⟨processes, takes, set⟩
    rcases bind_eq_ok ok with ⟨phase, after, ok⟩
    rcases afterAck_cases after with ⟨rfl, state, -⟩ | ⟨e, rfl, timers, rcvWnd, waits⟩
    · cases ok
      exact .lastAck (acked.fsm ▸ state) acked
    · have same : e.toCloseVars = d.toCloseVars := by rw [timers]
      have rcvStream : e.toRcvStreamVars = c.toRcvStreamVars := by
        rw [timers, kept.rcvStreamVars]
      have acked' : AckTaken (c.acksOurFin tcpseg = true) c e := by
        unfold AckTaken
        rw [same]
        exact acked
      have takesText : e.takesText tcpseg = c.takesText tcpseg := by
        simp only [TCPConnection.takesText, acked'.fsm]
      have finAtHand : e.finAtHand tcpseg = c.finAtHand tcpseg := by
        simp only [TCPConnection.finAtHand, takesText, acked'.finRcvd, rcvStream]
      rcases processSegment7thThru8th_handled ok with
        ⟨rfl, closed, text, noSpace⟩ | ⟨event₁, rfl, handled⟩
      · rw [takesText] at text
        refine .dropped ?_ text fun state => ?_
        · unfold AckTaken
          rw [closed]
          exact acked'
        · have rcvWnd : e.toRcvWndVars = c.toRcvWndVars :=
            (rcvWnd (by rw [acked.fsm, state]; decide)).trans
              (kept.rcvWndVars (takesText_iff.mp text).2)
          rw [← textDropped_congr rcvStream rcvWnd]
          exact noSpace
      · have start : d.eventAfterAck event = e.eventAfterAck event := by
          simp only [eventAfterAck, same]
        rw [start, finAtHand] at handled
        refine .handled c.sndNxt acked' (fun state => ?_) handled
        have acksFin := waits (acked.fsm.trans state)
        rw [acked.acksFin] at acksFin
        rcases acked with closeVars | ⟨-, takes, -⟩
        · exact same.trans closeVars
        · simp [acksOurFin, acksFin] at takes

/-! ## From the sequence number on -/

lemma processSegmentInSynRcvd_outcome (synRcvd : c.fsm = .synRcvd)
    (ok : processSegmentInSynRcvd env tcpseg c = .ok (event, c')) :
    c'.toCloseVars = c.toCloseVars ∨ ((seqLE c.sndUna tcpseg.ackNo ∧ seqLE tcpseg.ackNo c.sndNxt) ∧
        SegmentOutcome (c.takesFinAck tcpseg = true) tcpseg c event c') := by
  unfold processSegmentInSynRcvd at ok
  split at ok
  case isTrue sent =>
    rcases bind_eq_ok ok with ⟨d, callback, ok⟩
    have inputVars := runCallback_inputVars callback
    refine .inr ⟨sent, (processSegment5th_outcome ok).transport ?_ ?_ ?_ ?_⟩
    · exact closeVars_of_inputVars inputVars
    · exact congrArg (fun vars : InputVars => vars.rcvNxt) inputVars
    · simp [synRcvd]
    · intro takes
      have same : acksOurFin tcpseg (sendToApp .established d) =
          (c.acksFin tcpseg.ackNo && !decide (seqGE c.sndUna tcpseg.ackNo) &&
            decide (seqLE tcpseg.ackNo d.sndMax)) := by
        unfold acksOurFin acksFin
        rw [← inputVars]
        rfl
      rw [same] at takes
      simp only [takesFinAck, synRcvd, decide_true, Bool.true_or, Bool.and_true]
      exact (Bool.and_eq_true_iff.mp takes).1
  case isFalse =>
    cases ok
    exact .inl rfl

lemma processRst_closeVars (ok : c.processRst = .ok (event, c')) :
    c'.toCloseVars = c.toCloseVars := by
  unfold processRst at ok
  split at ok
  · rcases bind_eq_ok ok with ⟨sendQueue, -, ok⟩
    rcases bind_eq_ok ok with ⟨rexmitQueue, -, ok⟩
    dsimp only at ok
    split at ok <;> cases ok <;> rfl
  all_goals
    cases ok
    try rfl

lemma processSegment1stThru8th_outcome
    (ok : processSegment1stThru8th env tcpseg c = .ok (event, c')) :
    c'.toCloseVars = c.toCloseVars ∨ (c.reachesAck tcpseg = true ∧
        SegmentOutcome (c.takesFinAck tcpseg = true) tcpseg c event c') := by
  rcases bind_eq_ok ok with ⟨⟨acceptable, d⟩, check, ok⟩
  obtain ⟨kept, accepted⟩ := checkSequenceNumber_kept check
  dsimp only at ok
  split at ok
  case isFalse =>
    rcases bind_eq_ok ok with ⟨e, answer, ok⟩
    cases ok
    exact .inl ((notAcceptable_closing answer).trans kept.closeVars)
  case isTrue acceptable =>
    unfold processSegment2ndThru8th at ok
    split at ok
    case isTrue => exact .inl ((processRst_closeVars ok).trans kept.closeVars)
    case isFalse noRst =>
      split at ok
      case isTrue =>
        rcases bind_eq_ok ok with ⟨-, -, ok⟩
        cases ok
        exact .inl kept.closeVars
      case isFalse noSyn =>
        split at ok
        case isTrue =>
          cases ok
          exact .inl kept.closeVars
        case isFalse ack =>
          have takesFinAck : d.takesFinAck tcpseg = c.takesFinAck tcpseg := by
            simp only [TCPConnection.takesFinAck, acksFin, kept.closeVars, kept.sndStreamVars,
              kept.sendVars]
          have outcome {takes : Prop} (imp : takes → c.takesFinAck tcpseg = true)
              (past : SegmentOutcome takes tcpseg d event c') :
              SegmentOutcome (c.takesFinAck tcpseg = true) tcpseg c event c' := by
            refine past.transport kept.closeVars ?_ (fun _ => ?_) imp
            · rw [kept.rcvStreamVars]
            · exact textDropped_congr kept.rcvStreamVars kept.rcvWndVars
          split at ok
          case isTrue synRcvd =>
            rcases processSegmentInSynRcvd_outcome synRcvd ok with same | ⟨sent, past⟩
            · exact .inl (same.trans kept.closeVars)
            · refine .inr ⟨?_, outcome (takesFinAck ▸ id) past⟩
              rw [kept.sndStreamVars, kept.sendVars] at sent
              simp_all [reachesAck]
          case isFalse notSynRcvd =>
            refine .inr ⟨?_, outcome (fun takes => ?_) (processSegment5th_outcome ok)⟩
            · rw [kept.closeVars] at notSynRcvd
              simp_all [reachesAck]
            · simp_all [acksOurFin, TCPConnection.takesFinAck]

/-- What an event that is no such segment does to the closing. -/
structure CloseKept (c c' : TCPConnection) : Prop where
  fsm : c'.fsm = c.fsm
  finAckRcvd : c'.finAckRcvd = true → c.finAckRcvd = true
  finPassed : c'.finPassed = c.finPassed ∨ c'.finPassed = none
  finRcvd : c'.finRcvd = true → c.finRcvd = true

namespace CloseKept

lemma of_closeVars (same : c'.toCloseVars = c.toCloseVars) : CloseKept c c' := by
  refine ⟨?_, ?_, .inl ?_, ?_⟩ <;> rw [same] <;> exact id

lemma of_inputVars (same : c'.toInputVars = c.toInputVars) : CloseKept c c' :=
  of_closeVars (closeVars_of_inputVars same)

lemma trans (first : CloseKept c d) (second : CloseKept d c') : CloseKept c c' where
  fsm := second.fsm.trans first.fsm
  finAckRcvd set := first.finAckRcvd (second.finAckRcvd set)
  finPassed := second.finPassed.elim (fun same => first.finPassed.imp same.trans same.trans) .inr
  finRcvd set := first.finRcvd (second.finRcvd set)

end CloseKept

lemma configureStateVariables_eq (ok : c.configureStateVariables = .ok c') :
    ∃ rcvWnd, c' = { c with
      wsSupport := c.par.windowScalingSupport
      rcvWnd := rcvWnd
      rcvAdv := rcvWnd
      maxRcvBuffer := UInt32.ofInt c.par.advertisedWindow
      delayedAcksEnabled := c.par.delayedAcksEnabled
      nagleEnabled := c.par.nagleEnabled
      limitedTransmitEnabled := c.par.limitedTransmitEnabled
      increasedIWEnabled := c.par.increasedIWEnabled
      sndMss := UInt32.ofInt c.par.mss
      tsSupport := c.par.timestampSupport
      sackSupport := c.par.sackSupport } := by
  unfold configureStateVariables at ok
  dsimp only at ok
  split at ok
  · cases ok
  · rcases bind_eq_ok ok with ⟨-, -, ok⟩
    cases ok
    exact ⟨_, rfl⟩

lemma selectInitialSeqNum_eq (ok : selectInitialSeqNum env c = .ok c') :
    c' = { c with
      iss := env.isn
      sndUna := env.isn
      sndNxt := env.isn
      sndMax := env.isn
      sendQueue := .init (env.isn + 1)
      rexmitQueue := c.rexmitQueue.init (env.isn + 1) } := by
  unfold selectInitialSeqNum at ok
  split at ok
  · cases ok
    rfl
  · cases ok

lemma configureStateVariables_closeVars (ok : c.configureStateVariables = .ok c') :
    c'.toCloseVars = c.toCloseVars := by
  obtain ⟨rcvWnd, rfl⟩ := configureStateVariables_eq ok
  rfl

lemma initConnection_kept (ok : c.initConnection = .ok c') : CloseKept c c' := by
  have same := configureStateVariables_closeVars ok
  refine ⟨?_, ?_, .inr ?_, ?_⟩ <;> rw [same]
  · exact fun set => nomatch set
  · exact fun set => nomatch set

lemma selectInitialSeqNum_closeVars (ok : selectInitialSeqNum env c = .ok c') :
    c'.toCloseVars = c.toCloseVars := by
  rw [selectInitialSeqNum_eq ok]

/-! ### Commands and timers -/

lemma processOpenActive_kept {lp remotePort : Option UInt16}
    (ok : processOpenActive env lp remotePort c = .ok (event, c')) : CloseKept c c' := by
  unfold processOpenActive at ok
  split at ok
  · rcases bind_eq_ok ok with ⟨d, init, ok⟩
    split at ok
    · cases ok
    · rcases bind_eq_ok ok with ⟨e, select, ok⟩
      rcases bind_eq_ok ok with ⟨f, send, ok⟩
      rcases bind_eq_ok ok with ⟨connEstab, -, ok⟩
      cases ok
      have same : f.toCloseVars = { d.toCloseVars with active := true } :=
        (closeVars_of_inputVars (sendSyn_inputVars send)).trans
          (selectInitialSeqNum_closeVars select)
      refine (initConnection_kept init).trans ?_
      refine ⟨?_, ?_, .inl ?_, ?_⟩ <;> simp only [same, startSynRexmitTimer] <;> exact id
  · cases ok

lemma processOpenPassive_kept {lp : Option UInt16} {fork : Bool}
    (ok : processOpenPassive lp fork c = .ok (event, c')) : CloseKept c c' := by
  unfold processOpenPassive at ok
  split at ok
  · rcases bind_eq_ok ok with ⟨d, init, ok⟩
    split at ok
    · cases ok
    · cases ok
      exact (initConnection_kept init).trans ⟨rfl, id, .inl rfl, id⟩
  · cases ok

lemma enqueue_closeVars {len : ℕ} (ok : c.enqueue len = .ok c') :
    c'.toCloseVars = c.toCloseVars := by
  rcases bind_eq_ok ok with ⟨queue, -, ok⟩
  cases ok
  rfl

lemma sendInState_kept {len : ℕ} (ok : sendInState env len c = .ok c') : CloseKept c c' := by
  unfold sendInState at ok
  split at ok
  · rcases bind_eq_ok ok with ⟨d, select, ok⟩
    rcases bind_eq_ok ok with ⟨e, send, ok⟩
    rcases bind_eq_ok ok with ⟨connEstab, -, ok⟩
    have same : c'.toCloseVars = { c.toCloseVars with active := true } :=
      (enqueue_closeVars ok).trans ((closeVars_of_inputVars (sendSyn_inputVars send)).trans
          (selectInitialSeqNum_closeVars select))
    refine ⟨?_, ?_, .inl ?_, ?_⟩ <;> rw [same] <;> exact id
  iterate 2 exact .of_closeVars (enqueue_closeVars ok)
  iterate 2
    rcases bind_eq_ok ok with ⟨d, queue, ok⟩
    exact .of_closeVars
      ((closeVars_of_inputVars (runCallback_inputVars ok)).trans (enqueue_closeVars queue))
  all_goals cases ok

lemma processSend_kept {len : ℕ} (ok : processSend env len c = .ok (event, c')) :
    CloseKept c c' := by
  rcases bind_eq_ok ok with ⟨d, send, ok⟩
  dsimp only at ok
  split at ok <;> cases ok <;> exact (sendInState_kept send).trans (.of_closeVars rfl)

lemma sendFinNow_inputVars (atEnd : c.sndMax = c.sendQueue.getBufferEndSeq)
    (ok : sendFinNow env c = .ok c') : c'.toInputVars = c.toInputVars := by
  rcases bind_eq_ok ok with ⟨d, send, ok⟩
  cases ok
  have kept := sendFIN_inputVars (c := { c with sndNxt := c.sndMax }) atEnd send
  exact kept

lemma sendFinOrDefer_inputVars (ok : sendFinOrDefer env c = .ok (event, c')) :
    c'.toInputVars = c.toInputVars := by
  unfold sendFinOrDefer at ok
  split at ok
  case isTrue atEnd =>
    rcases bind_eq_ok ok with ⟨d, send, ok⟩
    cases ok
    exact sendFinNow_inputVars atEnd send
  case isFalse =>
    cases ok
    rfl

lemma processClose_kept (ok : processClose env c = .ok (event, c')) : CloseKept c c' := by
  unfold processClose at ok
  split at ok
  iterate 2
    cases ok
    exact .of_closeVars rfl
  iterate 3
    rcases bind_eq_ok ok with ⟨⟨event, d⟩, send, ok⟩
    cases ok
    exact (CloseKept.of_inputVars (sendFinOrDefer_inputVars send)).trans ⟨rfl, id, .inl rfl, id⟩
  all_goals cases ok

lemma processAbort_kept (ok : c.processAbort = .ok (event, c')) : CloseKept c c' := by
  unfold processAbort at ok
  split at ok
  · cases ok
  all_goals
    cases ok
    exact .of_closeVars rfl

lemma processCommand_kept {command : AppCommand}
    (ok : processCommand env command c = .ok (event, c')) : CloseKept c c' := by
  cases command with
  | openActive lp remotePort => exact processOpenActive_kept ok
  | openPassive lp fork => exact processOpenPassive_kept ok
  | send len => exact processSend_kept ok
  | close => exact processClose_kept ok
  | abort => exact processAbort_kept ok
  | status =>
    unfold processCommand at ok
    dsimp only at ok
    split at ok <;> cases ok
    exact .of_closeVars rfl
  | queueBytesLimit limit =>
    unfold processCommand at ok
    dsimp only at ok
    split at ok <;> cases ok
    exact .of_closeVars rfl

lemma resendSyn_inputVars (ok : resendSyn env c = .ok c') : c'.toInputVars = c.toInputVars := by
  unfold resendSyn at ok
  split at ok
  · exact sendSyn_inputVars ok
  · exact sendSynAck_inputVars ok
  · cases ok

/-- What an expired timer does: the connection gives up or goes on waiting, or the SYN is
sent again. -/
lemma processTimer_cases {timer : ConnTimer}
    (ok : processTimer env timer c = .ok (event, c')) :
    (∃ timers toApp synRexmitCount,
      (event = .timeout2MSL ∨ event = .timeoutConnEstab ∨ event = .timeoutFinWait2 ∨
        event = .abort) ∧
      c' = { c with timers := timers, toApp := toApp, synRexmitCount := synRexmitCount }) ∨
    ∃ timers synRexmitCount d timers', event = .ignore ∧
      resendSyn env { c with timers := timers, synRexmitCount := synRexmitCount } = .ok d ∧
      c' = { d with timers := timers' } := by
  cases timer with
  | the2MSL =>
    unfold processTimer processTimeout2MSL at ok
    dsimp only at ok
    split at ok <;> cases ok
    exact .inl ⟨_, c.toApp, c.synRexmitCount, .inl rfl, rfl⟩
  | connEstab =>
    unfold processTimer processTimeoutConnEstab at ok
    dsimp only at ok
    split at ok
    case h_3 => cases ok
    all_goals
      cases ok
      split_ifs
      · exact .inl ⟨_, _, c.synRexmitCount, .inr (.inl rfl), rfl⟩
      · exact .inl ⟨_, c.toApp, c.synRexmitCount, .inr (.inl rfl), rfl⟩
  | finWait2 =>
    unfold processTimer processTimeoutFinWait2 at ok
    dsimp only at ok
    split at ok <;> cases ok
    exact .inl ⟨_, c.toApp, c.synRexmitCount, .inr (.inr (.inl rfl)), rfl⟩
  | synRexmit =>
    unfold processTimer processTimeoutSynRexmit at ok
    dsimp only at ok
    split at ok
    · cases ok
      exact .inl ⟨_, c.toApp, _, .inr (.inr (.inr rfl)), rfl⟩
    · rcases bind_eq_ok ok with ⟨d, resend, ok⟩
      rcases bind_eq_ok ok with ⟨synRexmit, -, ok⟩
      cases ok
      exact .inr ⟨_, _, d, _, rfl, resend, rfl⟩

lemma processTimer_kept {timer : ConnTimer}
    (ok : processTimer env timer c = .ok (event, c')) : CloseKept c c' := by
  rcases processTimer_cases ok with ⟨timers, toApp, count, -, rfl⟩ | ⟨_, _, d, _, -, resend, rfl⟩
  · exact .of_closeVars rfl
  · refine .of_closeVars ?_
    exact (closeVars_of_inputVars (resendSyn_inputVars resend) :)

lemma processAlgTimer_kept {timer : AlgTimer}
    (ok : processAlgTimer env timer c = .ok (event, c')) : CloseKept c c' := by
  rcases bind_eq_ok ok with ⟨d, callback, ok⟩
  cases ok
  exact .of_inputVars (runCallback_inputVars callback)

/-! ### Handshake -/

lemma acceptSynText_closeVars {start : TCPEventCode}
    (ok : acceptSynText start tcpseg c = .ok (event, c')) : c'.toCloseVars = c.toCloseVars := by
  unfold acceptSynText at ok
  split at ok
  · dsimp only at ok
    split at ok
    · rcases bind_eq_ok ok with ⟨queue, -, ok⟩
      cases ok
      rfl
    · cases ok
      rfl
  · cases ok
    rfl

lemma takeForeignSocket_closeVars (ok : takeForeignSocket tcpseg c = .ok c') :
    c'.toCloseVars = c.toCloseVars := by
  rcases bind_eq_ok ok with ⟨d, fork, ok⟩
  cases ok
  unfold afterFork at fork
  split at fork
  · exact (configureStateVariables_closeVars fork :)
  · cases fork
    rfl

lemma receiveSyn_kept (tcpseg : TCPSegment) (c : TCPConnection) :
    CloseKept c (c.receiveSyn tcpseg) :=
  ⟨rfl, id, .inr rfl, id⟩

lemma acceptSyn_kept (ok : acceptSyn env tcpseg c = .ok (event, c')) : CloseKept c c' := by
  rcases bind_eq_ok ok with ⟨c₁, socket, ok⟩
  rcases bind_eq_ok ok with ⟨c₂, select, ok⟩
  rcases bind_eq_ok ok with ⟨c₃, options, ok⟩
  rcases bind_eq_ok ok with ⟨c₄, send, ok⟩
  have sent : c₄.toCloseVars = c₃.toCloseVars := (closeVars_of_inputVars (sendSynAck_inputVars send) :)
  have text : c'.toCloseVars = c₄.toCloseVars := (acceptSynText_closeVars ok :)
  have read : c₃.toCloseVars = c₂.toCloseVars :=
    (readSynOptions_kept options).closeVars.trans updateWndInfo_closing
  refine (CloseKept.of_closeVars (takeForeignSocket_closeVars socket)).trans ?_
  refine (receiveSyn_kept tcpseg c₁).trans (.of_closeVars ?_)
  rw [text, sent, read, selectInitialSeqNum_closeVars select]

lemma processSegmentInListen_kept
    (ok : processSegmentInListen env tcpseg c = .ok (event, c')) : CloseKept c c' := by
  unfold processSegmentInListen at ok
  split at ok
  · cases ok
    exact .of_closeVars rfl
  · split at ok
    · cases ok
      exact .of_closeVars rfl
    · split at ok
      · exact acceptSyn_kept ok
      · cases ok
        exact .of_closeVars rfl

lemma acceptSynAckField_closeVars (ok : acceptSynAckField tcpseg c = .ok c') :
    c'.toCloseVars = c.toCloseVars := by
  unfold acceptSynAckField at ok
  split at ok
  · rcases bind_eq_ok ok with ⟨sendQueue, -, ok⟩
    rcases bind_eq_ok ok with ⟨rexmitQueue, -, ok⟩
    cases ok
    exact updateWndInfo_closing
  · cases ok
    rfl

lemma establishActively_closeVars (ok : establishActively env tcpseg c = .ok (event, c')) :
    c'.toCloseVars = c.toCloseVars := by
  rcases bind_eq_ok ok with ⟨⟨start, d⟩, text, ok⟩
  have kept := acceptSynText_closeVars text
  split at ok
  case h_1 same =>
    cases same
    cases ok
    exact kept
  case h_2 same =>
    cases same
    rcases bind_eq_ok ok with ⟨e, options, ok⟩
    rcases bind_eq_ok ok with ⟨f, callback, ok⟩
    cases ok
    have called : f.toCloseVars = e.toCloseVars :=
      (closeVars_of_inputVars (runCallback_inputVars callback) :)
    have read := (readSynOptions_kept options).closeVars
    exact called.trans (read.trans kept)

lemma openSimultaneously_closeVars (ok : openSimultaneously env tcpseg c = .ok (event, c')) :
    c'.toCloseVars = c.toCloseVars := by
  rcases bind_eq_ok ok with ⟨d, send, ok⟩
  have text : c'.toCloseVars = d.toCloseVars := (acceptSynText_closeVars ok :)
  exact text.trans (closeVars_of_inputVars (sendSynAck_inputVars send) :)

lemma processSegmentInSynSent_kept
    (ok : processSegmentInSynSent env tcpseg c = .ok (event, c')) : CloseKept c c' := by
  unfold processSegmentInSynSent at ok
  split at ok
  · cases ok
    split_ifs <;> exact .of_closeVars rfl
  · split at ok
    · split at ok <;> cases ok <;> exact .of_closeVars rfl
    · split at ok
      · rcases bind_eq_ok ok with ⟨d, ack, ok⟩
        refine (receiveSyn_kept tcpseg c).trans (.of_closeVars ?_)
        refine Eq.trans ?_ (acceptSynAckField_closeVars ack)
        dsimp only at ok
        split at ok
        · exact (establishActively_closeVars ok :)
        · exact (openSimultaneously_closeVars ok :)
      · cases ok
        exact .of_closeVars rfl

/-- The states in which the peer's SYN has not been received. -/
def beforeSyn (fsm : TcpState) : Bool := fsm = .init || fsm = .listen || fsm = .synSent

/-- What an event does to the closing of a connection. -/
lemma process_outcome {input : TcpInput} (ok : process env input c = .ok (event, c')) :
    CloseKept c c' ∨ ∃ tcpseg, input = .segment tcpseg ∧ beforeSyn c.fsm = false ∧
        c.reachesAck tcpseg = true ∧
        SegmentOutcome (c.takesFinAck tcpseg = true) tcpseg c event c' := by
  cases input with
  | command command => exact .inl (processCommand_kept ok)
  | timer timer => exact .inl (processTimer_kept ok)
  | algTimer timer => exact .inl (processAlgTimer_kept ok)
  | resizeBuffer maxRcvBuffer =>
    unfold process at ok
    dsimp only at ok
    split at ok <;> cases ok
    exact .inl (.of_closeVars rfl)
  | segment tcpseg =>
    unfold process processRcvSegment at ok
    dsimp only at ok
    split at ok
    · cases ok
    · exact .inl (processSegmentInListen_kept ok)
    · exact .inl (processSegmentInSynSent_kept ok)
    · rcases processSegment1stThru8th_outcome ok with same | ⟨reaches, outcome⟩
      · exact .inl (.of_closeVars same)
      · exact .inr ⟨tcpseg, rfl, by simp_all [beforeSyn], reaches, outcome⟩

/-- Only the transition at the end of an event writes the state. -/
lemma process_fsm {input : TcpInput} (ok : process env input c = .ok (event, c')) :
    c'.fsm = c.fsm := by
  rcases process_outcome ok with kept | ⟨tcpseg, -, -, -, outcome⟩
  · exact kept.fsm
  · cases outcome with
    | unsentAck kept => rw [kept]
    | lastAck state acked => exact acked.fsm
    | dropped acked text noSpace => exact acked.fsm
    | handled oldSndNxt acked waits fin => exact fin.fsm.trans acked.fsm

end Inet.Tcp.TCPConnection
