import Inet.Tcp.SendFrame

/-!
# What the steps of segment arrival leave alone

Reading header options touches little (`OptionsKept`). An ACK can only set `fin_ack_rcvd`, if it
acknowledges our FIN; text and FIN bit leave the event as it was or answer with that of the peer's
FIN (`FinHandled`).
-/

namespace Inet.Tcp.TCPConnection

open Inet.Except

variable {env : Env} {c c' : TCPConnection} {seg : TCPSegment}

lemma closeVars_of_inputVars (kept : c'.toInputVars = c.toInputVars) :
    c'.toCloseVars = c.toCloseVars :=
  congrArg InputVars.toCloseVars kept

/-! ## Header options -/

/-- What reading header options leaves alone. -/
structure OptionsKept (c c' : TCPConnection) : Prop where
  closeVars : c'.toCloseVars = c.toCloseVars
  rcvStreamVars : c'.toRcvStreamVars = c.toRcvStreamVars
  sndStreamVars : c'.toSndStreamVars = c.toSndStreamVars
  sendVars : c'.toSendVars = c.toSendVars
  rcvWndVars : c'.toRcvWndVars = c.toRcvWndVars
  rcvSackVars : c'.toRcvSackVars = c.toRcvSackVars
  algVars : c'.toAlgVars = c.toAlgVars
  outputVars : c'.toOutputVars = c.toOutputVars
  timers : c'.timers = c.timers
  sndWnd : c'.sndWnd = c.sndWnd
  par : c'.par = c.par
  localPort : c'.localPort = c.localPort
  remotePort : c'.remotePort = c.remotePort
  fork : c'.fork = c.fork
  synRexmitCount : c'.synRexmitCount = c.synRexmitCount

namespace OptionsKept

lemma refl (c : TCPConnection) : OptionsKept c c :=
  ⟨rfl, rfl, rfl, rfl, rfl, rfl, rfl, rfl, rfl, rfl, rfl, rfl, rfl, rfl, rfl⟩

lemma trans {d : TCPConnection} (first : OptionsKept c d) (second : OptionsKept d c') :
    OptionsKept c c' where
  closeVars := second.closeVars.trans first.closeVars
  rcvStreamVars := second.rcvStreamVars.trans first.rcvStreamVars
  sndStreamVars := second.sndStreamVars.trans first.sndStreamVars
  sendVars := second.sendVars.trans first.sendVars
  rcvWndVars := second.rcvWndVars.trans first.rcvWndVars
  rcvSackVars := second.rcvSackVars.trans first.rcvSackVars
  algVars := second.algVars.trans first.algVars
  outputVars := second.outputVars.trans first.outputVars
  timers := second.timers.trans first.timers
  sndWnd := second.sndWnd.trans first.sndWnd
  par := second.par.trans first.par
  localPort := second.localPort.trans first.localPort
  remotePort := second.remotePort.trans first.remotePort
  fork := second.fork.trans first.fork
  synRexmitCount := second.synRexmitCount.trans first.synRexmitCount

lemma isSegmentAcceptable (kept : OptionsKept c c') (seg : TCPSegment) :
    isSegmentAcceptable seg c' = isSegmentAcceptable seg c := by
  unfold TCPConnection.isSegmentAcceptable
  rw [kept.rcvStreamVars, kept.sndStreamVars, kept.sendVars, kept.rcvWndVars, kept.algVars]

end OptionsKept

variable {option : TCPOption}

lemma processMSSOption_kept (ok : processMSSOption option c = .ok c') : OptionsKept c c' := by
  unfold processMSSOption at ok
  split at ok
  · cases ok
    exact .refl c
  · split at ok
    · cases ok
    · cases ok
      exact ⟨rfl, rfl, rfl, rfl, rfl, rfl, rfl, rfl, rfl, rfl, rfl, rfl, rfl, rfl, rfl⟩

lemma processWSOption_kept (ok : processWSOption option c = .ok c') : OptionsKept c c' := by
  unfold processWSOption at ok
  split at ok
  · cases ok
    exact .refl c
  · split at ok
    · cases ok
    · cases ok
      exact ⟨rfl, rfl, rfl, rfl, rfl, rfl, rfl, rfl, rfl, rfl, rfl, rfl, rfl, rfl, rfl⟩

lemma processTSOption_kept (ok : processTSOption seg option c = .ok c') : OptionsKept c c' := by
  unfold processTSOption at ok
  split at ok
  · cases ok
    exact .refl c
  · split at ok
    · dsimp only at ok
      split at ok <;> split at ok <;> cases ok <;>
        exact ⟨rfl, rfl, rfl, rfl, rfl, rfl, rfl, rfl, rfl, rfl, rfl, rfl, rfl, rfl, rfl⟩
    · cases ok

lemma processSACKOption_kept
    (ok : processSACKOption seg option c = .ok c') : OptionsKept c c' := by
  unfold processSACKOption at ok
  dsimp only at ok
  split at ok
  · cases ok
    exact .refl c
  · rcases bind_eq_ok ok with ⟨queue, -, ok⟩
    cases ok
    exact ⟨rfl, rfl, rfl, rfl, rfl, rfl, rfl, rfl, rfl, rfl, rfl, rfl, rfl, rfl, rfl⟩

lemma processSACKPermittedOption_kept (option : TCPOption) :
    OptionsKept c (processSACKPermittedOption option c) := by
  unfold processSACKPermittedOption
  split
  · exact .refl c
  · exact ⟨rfl, rfl, rfl, rfl, rfl, rfl, rfl, rfl, rfl, rfl, rfl, rfl, rfl, rfl, rfl⟩

lemma readHeaderOption_kept (ok : readHeaderOption seg option c = .ok c') : OptionsKept c c' := by
  unfold readHeaderOption at ok
  split at ok
  · exact processMSSOption_kept ok
  · exact processWSOption_kept ok
  · cases ok
    exact processSACKPermittedOption_kept option
  · exact processSACKOption_kept ok
  · exact processTSOption_kept ok
  all_goals
    cases ok
    exact .refl c

lemma readHeaderOptions_kept (ok : readHeaderOptions seg c = .ok c') : OptionsKept c c' := by
  unfold readHeaderOptions at ok
  generalize seg.options = options at ok
  induction options generalizing c with
  | nil =>
    cases ok
    exact .refl _
  | cons option rest ih =>
    rcases bind_eq_ok ok with ⟨d, first, ok⟩
    exact (readHeaderOption_kept first).trans (ih ok)

lemma readSynOptions_kept (ok : readSynOptions seg c = .ok c') : OptionsKept c c' := by
  unfold readSynOptions at ok
  split at ok
  · exact readHeaderOptions_kept ok
  · cases ok
    exact .refl c

lemma checkSequenceNumber_kept {acceptable : Bool}
    (ok : checkSequenceNumber env seg c = .ok (acceptable, c')) :
    OptionsKept c c' ∧ (acceptable = true → isSegmentAcceptable seg c = true) := by
  unfold checkSequenceNumber at ok
  split at ok
  · rcases bind_eq_ok ok with ⟨rejected, -, ok⟩
    rcases bind_eq_ok ok with ⟨d, options, ok⟩
    cases ok
    have kept := readHeaderOptions_kept options
    refine ⟨kept, fun acceptable => ?_⟩
    rw [← kept.isSegmentAcceptable]
    exact (Bool.and_eq_true_iff.mp acceptable).2
  · cases ok
    exact ⟨.refl c, id⟩

/-! ## The ACK field -/

lemma notAcceptable_closing (ok : notAcceptable env seg c = .ok c') :
    c'.toCloseVars = c.toCloseVars := by
  rcases bind_eq_ok ok with ⟨d, answer, ok⟩
  cases ok
  unfold answerDuplicate at answer
  split at answer
  · cases answer
    rfl
  · refine (closeVars_of_inputVars (sendAckEcn_inputVars answer :)).trans ?_
    unfold noteDuplicate
    split_ifs <;> rfl

lemma updateWndInfo_closing {doAlways : Bool} :
    (updateWndInfo seg doAlways c).toCloseVars = c.toCloseVars := by
  simp only [updateWndInfo]
  split_ifs <;> rfl

variable {oldSndUna : UInt32}

lemma notifyDataAck_inputVars
    (ok : notifyDataAck env oldSndUna c = .ok c') : c'.toInputVars = c.toInputVars := by
  rcases bind_eq_ok ok with ⟨d, callback, ok⟩
  cases ok
  exact (runCallback_inputVars callback :)

lemma measureRtt_eq (ok : measureRtt env seg c = .ok c') :
    ∃ algVars, c' = { c with toAlgVars := algVars } := by
  unfold measureRtt at ok
  split at ok
  · rcases bind_eq_ok ok with ⟨echoedTS, -, ok⟩
    cases ok
    exact ⟨_, rfl⟩
  · cases ok
    exact ⟨c.toAlgVars, rfl⟩

/-- What becomes of the queues and of our FIN. -/
lemma discardAcked_eq {ackNo : UInt32} (ok : c.discardAcked ackNo = .ok c') :
    ∃ sendQueue rexmitQueue,
      c.sendQueue.discardUpTo (if c.acksFin ackNo then ackNo - 1 else ackNo) = .ok sendQueue ∧
        c' = { c with
          finAckRcvd := c.finAckRcvd || c.acksFin ackNo
          sendQueue := sendQueue
          rexmitQueue := rexmitQueue } := by
  unfold discardAcked at ok
  dsimp only at ok
  rcases bind_eq_ok ok with ⟨sendQueue, discarded, ok⟩
  rcases bind_eq_ok ok with ⟨rexmitQueue, -, ok⟩
  cases ok
  exact ⟨sendQueue, rexmitQueue, discarded, rfl⟩

lemma measureRtt_inputVars (ok : measureRtt env seg c = .ok c') :
    c'.toInputVars = c.toInputVars := by
  obtain ⟨algVars, rfl⟩ := measureRtt_eq ok
  rfl

lemma processOldAck_closing (ok : processOldAck env seg c = .ok c') :
    c'.toCloseVars = c.toCloseVars := by
  unfold processOldAck at ok
  split at ok
  · exact (closeVars_of_inputVars (runCallback_inputVars ok :)).trans updateWndInfo_closing
  · cases ok
    rfl

lemma discardAcked_closing {ackNo : UInt32} (ok : c.discardAcked ackNo = .ok c') :
    c'.toCloseVars =
      { c.toCloseVars with finAckRcvd := c.finAckRcvd || c.acksFin ackNo } := by
  obtain ⟨sendQueue, rexmitQueue, -, rfl⟩ := discardAcked_eq ok
  rfl

lemma processNewAck_closing (ok : processNewAck env seg c = .ok c') :
    c'.toCloseVars =
      { c.toCloseVars with finAckRcvd := c.finAckRcvd || c.acksFin seg.ackNo } := by
  unfold processNewAck at ok
  dsimp only at ok
  rcases bind_eq_ok ok with ⟨c₁, rtt, ok⟩
  rcases bind_eq_ok ok with ⟨c₂, discard, ok⟩
  have measured : c₁.toCloseVars = c.toCloseVars :=
    (closeVars_of_inputVars (measureRtt_inputVars rtt) :)
  have acked : c₂.toCloseVars =
      { c.toCloseVars with finAckRcvd := c.finAckRcvd || c.acksFin seg.ackNo } := by
    rw [discardAcked_closing discard]
    simp only [acksFin, measured]
  split at ok
  · rw [closeVars_of_inputVars (notifyDataAck_inputVars ok :), ← acked]
    exact updateWndInfo_closing
  · cases ok
    exact updateWndInfo_closing.trans acked

lemma updateWndInfo_rcvStream {doAlways : Bool} :
    (updateWndInfo seg doAlways c).toRcvStreamVars = c.toRcvStreamVars ∧
      (updateWndInfo seg doAlways c).toRcvWndVars = c.toRcvWndVars := by
  simp only [updateWndInfo]
  split_ifs <;> exact ⟨rfl, rfl⟩

/-- The ACK field leaves the received stream alone, and with text in the segment the window stays
too. -/
structure AckKept (tcpseg : TCPSegment) (c c' : TCPConnection) : Prop where
  rcvStreamVars : c'.toRcvStreamVars = c.toRcvStreamVars
  rcvWndVars : 0 < tcpseg.payloadLength → c'.toRcvWndVars = c.toRcvWndVars

lemma processOldAck_kept (ok : processOldAck env seg c = .ok c') : AckKept seg c c' := by
  unfold processOldAck at ok
  split at ok
  case isTrue duplicate =>
    refine ⟨?_, fun payload => absurd duplicate.2.1 payload.ne'⟩
    rw [runCallback_inputVars ok]
    exact updateWndInfo_rcvStream.1
  case isFalse =>
    cases ok
    exact ⟨rfl, fun _ => rfl⟩

lemma measureRtt_rcvWndVars (ok : measureRtt env seg c = .ok c') :
    c'.toRcvWndVars = c.toRcvWndVars := by
  obtain ⟨algVars, rfl⟩ := measureRtt_eq ok
  rfl

lemma discardAcked_rcvStream {ackNo : UInt32} (ok : c.discardAcked ackNo = .ok c') :
    c'.toRcvStreamVars = c.toRcvStreamVars ∧ c'.toRcvWndVars = c.toRcvWndVars := by
  obtain ⟨sendQueue, rexmitQueue, -, rfl⟩ := discardAcked_eq ok
  exact ⟨rfl, rfl⟩

lemma processNewAck_kept (ok : processNewAck env seg c = .ok c') : AckKept seg c c' := by
  unfold processNewAck at ok
  dsimp only at ok
  rcases bind_eq_ok ok with ⟨c₁, rtt, ok⟩
  rcases bind_eq_ok ok with ⟨c₂, discard, ok⟩
  have rcvStream : (updateWndInfo seg false c₂).toRcvStreamVars = c.toRcvStreamVars := by
    rw [updateWndInfo_rcvStream.1, (discardAcked_rcvStream discard).1, measureRtt_inputVars rtt]
    rfl
  have rcvWnd : (updateWndInfo seg false c₂).toRcvWndVars = c.toRcvWndVars := by
    rw [updateWndInfo_rcvStream.2, (discardAcked_rcvStream discard).2, measureRtt_rcvWndVars rtt]
    rfl
  split at ok
  case isTrue noText =>
    refine ⟨?_, fun payload => absurd noText.1 payload.ne'⟩
    rw [notifyDataAck_inputVars ok]
    exact rcvStream
  case isFalse =>
    cases ok
    exact ⟨rcvStream, fun _ => rcvWnd⟩

lemma processAck_kept (ok : processAck env seg c = .ok (true, c')) : AckKept seg c c' := by
  unfold processAck at ok
  split at ok
  · unfold processAckInEstabEtc at ok
    split at ok
    · rcases bind_eq_ok ok with ⟨d, old, ok⟩
      cases ok
      exact processOldAck_kept old
    · split at ok
      · rcases bind_eq_ok ok with ⟨d, ack, ok⟩
        cases ok
        exact processNewAck_kept ack
      · rcases bind_eq_ok ok with ⟨-, -, ok⟩
        rcases bind_eq_ok ok with ⟨d, -, ok⟩
        cases ok
  · cases ok
    exact ⟨rfl, fun _ => rfl⟩

/-- The ACK is one for our FIN that the connection takes. -/
def acksOurFin (tcpseg : TCPSegment) (c : TCPConnection) : Bool :=
  c.acksFin tcpseg.ackNo && !decide (seqGE c.sndUna tcpseg.ackNo) &&
    decide (seqLE tcpseg.ackNo c.sndMax)

/-- An ACK sets `fin_ack_rcvd` if it is one for our FIN, and changes nothing else of
the closing. -/
lemma processAck_closing {goOn : Bool} (ok : processAck env seg c = .ok (goOn, c')) :
    c'.toCloseVars = c.toCloseVars ∨
      (processesAck c.fsm = true ∧ c.acksOurFin seg = true ∧ goOn = true ∧
        c'.toCloseVars = { c.toCloseVars with finAckRcvd := true }) := by
  unfold processAck at ok
  split at ok
  case isFalse =>
    cases ok
    exact .inl rfl
  case isTrue processes =>
    unfold processAckInEstabEtc at ok
    split at ok
    case isTrue =>
      rcases bind_eq_ok ok with ⟨d, old, ok⟩
      cases ok
      exact .inl (processOldAck_closing old)
    case isFalse new =>
      split at ok
      case isTrue sent =>
        rcases bind_eq_ok ok with ⟨d, ack, ok⟩
        cases ok
        have acked := processNewAck_closing ack
        cases acksFin : c.acksFin seg.ackNo with
        | false =>
          rw [acksFin, Bool.or_false] at acked
          exact .inl acked
        | true =>
          rw [acksFin, Bool.or_true] at acked
          refine .inr ⟨processes, ?_, rfl, acked⟩
          simp [acksOurFin, acksFin, new, sent]
      case isFalse =>
        rcases bind_eq_ok ok with ⟨-, -, ok⟩
        rcases bind_eq_ok ok with ⟨d, callback, ok⟩
        cases ok
        exact .inl (closeVars_of_inputVars (runCallback_inputVars callback :))

/-- The event once the ACK of a closing connection has been looked at. -/
def eventAfterAck (event : TCPEventCode) (c : TCPConnection) : TCPEventCode :=
  if (c.fsm = .finWait1 ∨ c.fsm = .closing) ∧ c.finAckRcvd then .rcvAck else event

variable {ev : TCPEventCode}

lemma afterAck_cases {phase : Phase} (ok : afterAck env seg ev c = .ok phase) :
    (phase = .stop .rcvAck c ∧ c.fsm = .lastAck ∧ c.acksFin seg.ackNo = true) ∨
      ∃ c', phase = .go seg (c.eventAfterAck ev) c' ∧
        c'.toInputVars = { c.toInputVars with timers := c'.timers } ∧
        (c.fsm ≠ .timeWait → c'.toRcvWndVars = c.toRcvWndVars) ∧
        (c.fsm = .lastAck → c.acksFin seg.ackNo = false) := by
  unfold afterAck at ok
  split at ok
  case h_1 state =>
    cases ok
    refine .inr ⟨c, ?_, rfl, fun _ => rfl, by simp [state]⟩
    simp [eventAfterAck, state]
  case h_2 state =>
    split at ok
    case isTrue acked =>
      rcases bind_eq_ok ok with ⟨the2MSL, -, ok⟩
      cases ok
      rw [eventAfterAck, if_pos ⟨.inr state, acked⟩]
      exact .inr ⟨_, rfl, rfl, fun _ => rfl, by simp [state]⟩
    case isFalse notAcked =>
      cases ok
      refine .inr ⟨c, ?_, rfl, fun _ => rfl, by simp [state]⟩
      rw [eventAfterAck, if_neg fun both => notAcked both.2]
  case h_3 state =>
    split at ok
    case isTrue acked =>
      cases ok
      exact .inl ⟨rfl, state, acked⟩
    case isFalse notAcked =>
      cases ok
      refine .inr ⟨c, ?_, rfl, fun _ => rfl, fun _ => by simpa using notAcked⟩
      rw [eventAfterAck, if_neg (by simp [state])]
  case h_4 state =>
    rcases bind_eq_ok ok with ⟨d, ack, ok⟩
    cases ok
    rw [eventAfterAck, if_neg (by simp [state])]
    refine .inr ⟨_, rfl, ?_, fun other => absurd state other, by simp [state]⟩
    simp only [sendAck_inputVars ack]
  case h_5 notFinWait1 notClosing notLastAck _ =>
    cases ok
    refine .inr ⟨c, ?_, rfl, fun _ => rfl, fun state => absurd state notLastAck⟩
    rw [eventAfterAck, if_neg fun both => both.1.elim notFinWait1 notClosing]

/-! ## Text and FIN bit -/

/-- No FIN is passed and the event stays, or one is passed and the event is that of a FIN. `fin`:
there is one to pass, in this segment or an earlier one. -/
structure FinHandled (fin : Prop) (event : TCPEventCode) (c : TCPConnection)
    (event' : TCPEventCode) (c' : TCPConnection) : Prop where
  fsm : c'.fsm = c.fsm
  active : c'.active = c.active
  finAckRcvd : c'.finAckRcvd = c.finAckRcvd
  sendFin : c'.sendFin = c.sendFin
  sndFinSeq : c'.sndFinSeq = c.sndFinSeq
  event : (event' = event ∧ c'.finPassed = c.finPassed) ∨ (event' = c.finEvent ∧ fin)

namespace FinHandled

variable {fin : Prop} {ev ev' : TCPEventCode}

lemma of_closeVars (kept : c'.toCloseVars = c.toCloseVars) : FinHandled fin ev c ev c' := by
  refine ⟨?_, ?_, ?_, ?_, ?_, .inl ⟨rfl, ?_⟩⟩ <;> rw [kept]

lemma finEvent (handled : FinHandled fin ev c ev' c') : c'.finEvent = c.finEvent := by
  simp only [TCPConnection.finEvent, handled.fsm, handled.finAckRcvd]

lemma trans {d : TCPConnection} {ev₁ : TCPEventCode} (first : FinHandled fin ev c ev₁ d)
    (second : FinHandled fin ev₁ d ev' c') : FinHandled fin ev c ev' c' where
  fsm := second.fsm.trans first.fsm
  active := second.active.trans first.active
  finAckRcvd := second.finAckRcvd.trans first.finAckRcvd
  sendFin := second.sendFin.trans first.sendFin
  sndFinSeq := second.sndFinSeq.trans first.sndFinSeq
  event := by
    have same := first.finEvent
    rcases second.event with ⟨rfl, kept⟩ | passed
    · rcases first.event with ⟨rfl, kept₁⟩ | passed
      · exact .inl ⟨rfl, kept.trans kept₁⟩
      · exact .inr passed
    · exact .inr (same ▸ passed)

end FinHandled

variable {ev' : TCPEventCode}

lemma passFin_handled {fin : Prop} (ev : TCPEventCode) {finSeq : UInt32} (due : fin)
    (ok : c.passFin finSeq = .ok (ev', c')) : FinHandled fin ev c ev' c' := by
  rcases bind_eq_ok ok with ⟨timers, -, ok⟩
  cases ok
  exact ⟨rfl, rfl, rfl, rfl, rfl, .inr ⟨rfl, due⟩⟩

lemma forwardData_frame {fuel : ℕ} (ok : forwardData env seg fuel c = .ok c') :
    c'.toInputVars = { c.toInputVars with receiveQueue := c'.receiveQueue } := by
  induction fuel generalizing c with
  | zero => cases ok
  | succ fuel ih =>
    rcases bind_eq_ok ok with ⟨⟨byteLength, queue⟩, -, ok⟩
    cases byteLength with
    | none =>
      cases ok
      rfl
    | some byteLength =>
      exact (ih ok :)

lemma insertText_frame (ok : c.insertText seg = .ok c') :
    c'.toInputVars =
      { c.toInputVars with receiveQueue := c'.receiveQueue, rcvNxt := c'.rcvNxt } := by
  rcases bind_eq_ok ok with ⟨queue, -, ok⟩
  cases ok
  rfl

lemma notifyEarlierAck_inputVars
    (ok : notifyEarlierAck env oldSndUna c = .ok c') : c'.toInputVars = c.toInputVars := by
  unfold notifyEarlierAck at ok
  split at ok
  · exact notifyDataAck_inputVars ok
  · cases ok
    rfl

lemma noteOutOfOrder_inputVars (oldUsedRcvBuffer : UInt32) :
    (noteOutOfOrder oldUsedRcvBuffer seg c).toInputVars =
      { c.toInputVars with rcvOooseg := c.rcvOooseg + 1 } := by
  simp only [noteOutOfOrder]
  split_ifs <;> rfl

lemma deliverText_handled {oldRcvNxt oldUsedRcvBuffer : UInt32} {fin : Prop}
    (due : c.finRcvd = true → fin)
    (ok : deliverText env oldRcvNxt oldUsedRcvBuffer seg ev c = .ok (ev', c')) :
    FinHandled fin ev c ev' c' := by
  unfold deliverText at ok
  split at ok
  · rcases bind_eq_ok ok with ⟨d, callback, ok⟩
    cases ok
    refine .of_closeVars ?_
    rw [closeVars_of_inputVars (runCallback_inputVars callback), noteOutOfOrder_inputVars]
  · rcases bind_eq_ok ok with ⟨d, forward, ok⟩
    have kept : d.toCloseVars = c.toCloseVars := by rw [forwardData_frame forward]
    refine (FinHandled.of_closeVars kept).trans ?_
    unfold passEarlyFin at ok
    split at ok
    case isTrue reached =>
      refine passFin_handled _ (due ?_) ok
      rw [← kept]
      exact reached.1
    case isFalse =>
      cases ok
      exact .of_closeVars rfl

/-- Is text taken from this segment? -/
def takesText (tcpseg : TCPSegment) (c : TCPConnection) : Bool :=
  inDataTransfer c.fsm && 0 < tcpseg.payloadLength

lemma takesText_iff :
    c.takesText seg = true ↔ inDataTransfer c.fsm = true ∧ 0 < seg.payloadLength := by
  simp [takesText]

/-- Can this segment take `rcv_nxt` over a FIN? Text may reach its own FIN or one that
came early; without text the FIN has to be in order. -/
def finAtHand (tcpseg : TCPSegment) (c : TCPConnection) : Bool :=
  if c.takesText tcpseg then tcpseg.finBit || c.finRcvd
  else tcpseg.finBit && c.rcvNxt = tcpseg.endSequenceNo

/-- Is the text, cut to the window, beyond the end of the receive buffer? -/
def textDropped (tcpseg : TCPSegment) (c : TCPConnection) : Bool :=
  match tcpseg.truncateSegment c.rcvNxt (c.rcvNxt + c.rcvWnd) with
  | .ok cut => !c.hasEnoughSpaceForSegmentInReceiveQueue cut
  | .error _ => false

lemma processText_handled {phase : Phase} (ok : processText env oldSndUna seg ev c = .ok phase) :
    (∃ c', phase = .stop .ignore c' ∧ c'.toCloseVars = c.toCloseVars ∧
      c.takesText seg = true ∧ c.textDropped seg = true) ∨
    (phase = .go seg ev c) ∨
    ∃ cut ev' c', phase = .go cut ev' c' ∧ cut.finBit = seg.finBit ∧
      c.takesText seg = true ∧ FinHandled (c.finAtHand seg = true) ev c ev' c' := by
  unfold processText at ok
  split at ok
  case isFalse =>
    cases ok
    exact .inr (.inl rfl)
  case isTrue carries =>
    have takes := takesText_iff.mpr carries
    rcases bind_eq_ok ok with ⟨cut, truncate, ok⟩
    dsimp only at ok
    split at ok
    case isFalse noSpace =>
      cases ok
      refine .inl ⟨_, rfl, rfl, takes, ?_⟩
      have truncate : seg.truncateSegment c.rcvNxt (c.rcvNxt + c.rcvWnd) = .ok cut := truncate
      simp only [textDropped, truncate, Bool.not_eq_true']
      exact Bool.not_eq_true _ ▸ noSpace
    case isTrue =>
      rcases bind_eq_ok ok with ⟨d, insert, ok⟩
      rcases bind_eq_ok ok with ⟨e, notify, ok⟩
      rcases bind_eq_ok ok with ⟨⟨ev', c'⟩, deliver, ok⟩
      cases ok
      have kept : e.toCloseVars = c.toCloseVars := by
        rw [closeVars_of_inputVars (notifyEarlierAck_inputVars notify), insertText_frame insert]
        rfl
      have due : e.finRcvd = true → c.finAtHand seg = true := by
        rw [kept, finAtHand, if_pos takes]
        exact fun seen => Bool.or_eq_true_iff.mpr (.inr seen)
      exact .inr (.inr ⟨cut, ev', c', rfl, TCPSegment.truncateSegment_finBit truncate,
        takes, (FinHandled.of_closeVars kept).trans (deliverText_handled due deliver)⟩)

lemma processFinBit_handled {fin : Prop}
    (due : seg.finBit = true → c.rcvNxt = seg.endSequenceNo → fin)
    (ok : processFinBit seg ev c = .ok (ev', c')) : FinHandled fin ev c ev' c' := by
  unfold processFinBit at ok
  split at ok
  case isTrue set =>
    dsimp only at ok
    split at ok
    case isTrue reached =>
      have passed := passFin_handled ev (due set reached) ok
      exact ⟨passed.fsm, passed.active, passed.finAckRcvd, passed.sendFin, passed.sndFinSeq,
        passed.event⟩
    case isFalse =>
      cases ok
      exact ⟨rfl, rfl, rfl, rfl, rfl, .inl ⟨rfl, rfl⟩⟩
  case isFalse =>
    cases ok
    exact .of_closeVars rfl

lemma acknowledgeProgress_inputVars {oldRcvNxt : UInt32}
    (ok : acknowledgeProgress env oldRcvNxt seg c = .ok c') : c'.toInputVars = c.toInputVars := by
  unfold acknowledgeProgress at ok
  split at ok
  · cases ok
    rfl
  · refine (runCallback_inputVars ok).trans ?_
    split_ifs <;> rfl

lemma finAtHand_of_finBit (takes : c.takesText seg = true)
    (set : seg.finBit = true) : c.finAtHand seg = true := by
  rw [finAtHand, if_pos takes, set, Bool.true_or]

lemma finAtHand_of_inOrder (set : seg.finBit = true)
    (reached : c.rcvNxt = seg.endSequenceNo) : c.finAtHand seg = true := by
  unfold finAtHand
  split_ifs <;> simp [set, reached]

/-- Steps seven and eight. The event stays or is that of a FIN, unless the text was dropped or a
deferred CLOSE is completed. -/
lemma processSegment7thThru8th_handled {oldSndNxt : UInt32}
    (ok : processSegment7thThru8th env oldSndUna oldSndNxt seg ev c = .ok (ev', c')) :
    (ev' = .ignore ∧ c'.toCloseVars = c.toCloseVars ∧ c.takesText seg = true ∧
      c.textDropped seg = true) ∨
    ∃ ev₁, ev' = c'.deferredClose oldSndNxt ev₁ ∧
      FinHandled (c.finAtHand seg = true) ev c ev₁ c' := by
  rcases bind_eq_ok ok with ⟨phase, text, ok⟩
  rcases processText_handled text with ⟨d, rfl, dropped⟩ | rfl |
    ⟨cut, ev₁, d, rfl, finBit, takes, handled⟩
  · cases ok
    exact .inl ⟨rfl, dropped⟩
  · rcases bind_eq_ok ok with ⟨⟨ev₂, e⟩, fin, ok⟩
    rcases bind_eq_ok ok with ⟨f, acknowledge, ok⟩
    cases ok
    refine .inr ⟨ev₂, rfl, (processFinBit_handled finAtHand_of_inOrder fin).trans ?_⟩
    exact .of_closeVars (closeVars_of_inputVars (acknowledgeProgress_inputVars acknowledge))
  · rcases bind_eq_ok ok with ⟨⟨ev₂, e⟩, fin, ok⟩
    rcases bind_eq_ok ok with ⟨f, acknowledge, ok⟩
    cases ok
    refine .inr ⟨ev₂, rfl, (handled.trans (processFinBit_handled ?_ fin)).trans ?_⟩
    · rw [finBit]
      exact fun set _ => finAtHand_of_finBit takes set
    · exact .of_closeVars (closeVars_of_inputVars (acknowledgeProgress_inputVars acknowledge))

end Inet.Tcp.TCPConnection
