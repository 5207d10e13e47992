import Inet.Tcp.AdvertisedWindow

/-!
# What holds across sends

A send sets send variables, variables of the algorithm and the scoreboard, recomputes the window,
writes header options, and puts a segment on the wire. A property kept by each (`SendClosed`) is
kept by every function that sends, and by every callback. `InputVars` is written by none of them.
-/

namespace Inet.Tcp.TCPConnection

open Inet.Except

variable {env : Env} {c c' : TCPConnection}

/-! ## Segments under construction -/

section

variable {tcpseg tcpseg' : TCPSegment}

/-- Writing options writes nothing else into a segment. -/
def SameHeader (tcpseg tcpseg' : TCPSegment) : Prop :=
  tcpseg' = { tcpseg with options := tcpseg'.options, headerLength := tcpseg'.headerLength }

namespace SameHeader

lemma refl (tcpseg : TCPSegment) : SameHeader tcpseg tcpseg := rfl

lemma trans {tcpseg'' : TCPSegment} (first : SameHeader tcpseg tcpseg')
    (second : SameHeader tcpseg' tcpseg'') : SameHeader tcpseg tcpseg'' := by
  unfold SameHeader at *
  rw [second, first]

lemma finBit (same : SameHeader tcpseg tcpseg') : tcpseg'.finBit = tcpseg.finBit := by
  rw [same]

lemma synBit (same : SameHeader tcpseg tcpseg') : tcpseg'.synBit = tcpseg.synBit := by
  rw [same]

end SameHeader

lemma writeSynOptions_header (env : Env) (tcpseg : TCPSegment) (c : TCPConnection) :
    SameHeader tcpseg (writeSynOptions env tcpseg c).1 := by
  simp only [writeSynOptions, writeWindowScale, writeSackPermitted, writeInitialTimestamp]
  split_ifs <;> rfl

lemma writeTimestamp_header (env : Env) (tcpseg : TCPSegment) (c : TCPConnection) :
    SameHeader tcpseg (writeTimestamp env tcpseg c) := by
  unfold writeTimestamp
  split_ifs <;> rfl

lemma appendSacks_header {n : ℕ} {sacks : List Sack}
    (ok : appendSacks n sacks tcpseg = .ok tcpseg') : SameHeader tcpseg tcpseg' := by
  unfold appendSacks at ok
  split at ok
  · cases ok
    exact .refl tcpseg
  · rcases bind_eq_ok ok with ⟨-, -, ok⟩
    rcases bind_eq_ok ok with ⟨-, -, ok⟩
    cases ok
    rfl

lemma addSacks_header (ok : addSacks tcpseg c = .ok (tcpseg', c')) :
    SameHeader tcpseg tcpseg' := by
  rcases bind_eq_ok ok with ⟨survivors, -, ok⟩
  split at ok
  · cases ok
    exact .refl tcpseg
  · rcases bind_eq_ok ok with ⟨sacks, -, ok⟩
    rcases bind_eq_ok ok with ⟨written, append, ok⟩
    cases ok
    exact appendSacks_header append

lemma writeChangedBuffer_header (tcpseg : TCPSegment) (c : TCPConnection) :
    SameHeader tcpseg (writeChangedBuffer tcpseg c).1 := by
  simp only [writeChangedBuffer, writeWindowScale]
  split_ifs <;> rfl

lemma fitOptions_header (tcpseg : TCPSegment) : SameHeader tcpseg (fitOptions tcpseg) := by
  unfold fitOptions
  split_ifs <;> rfl

lemma writeStateOptions_header (ok : writeStateOptions env tcpseg c = .ok (tcpseg', c')) :
    SameHeader tcpseg tcpseg' := by
  unfold writeStateOptions at ok
  split at ok
  · have written : (writeSynOptions env tcpseg c).1 = tcpseg' :=
      congrArg Prod.fst (Except.ok.inj ok)
    rw [← written]
    exact writeSynOptions_header env tcpseg c
  · split at ok
    · unfold writeDataOptions at ok
      have timestamp := writeTimestamp_header env tcpseg c
      split at ok
      · exact timestamp.trans (addSacks_header ok)
      · cases ok
        exact timestamp
    · cases ok
      exact .refl tcpseg

lemma writeHeaderOptions_header (ok : writeHeaderOptions env tcpseg c = .ok (tcpseg', c')) :
    SameHeader tcpseg tcpseg' := by
  rcases bind_eq_ok ok with ⟨⟨middle, d⟩, first, ok⟩
  have written : fitOptions (writeChangedBuffer middle d).1 = tcpseg' :=
    congrArg Prod.fst (Except.ok.inj ok)
  rw [← written]
  exact ((writeStateOptions_header first).trans (writeChangedBuffer_header middle d)).trans
    (fitOptions_header _)

end

/-- A FIN stands at the end of the send queue, or where the connection has noted it. -/
def FinPlaced (tcpseg : TCPSegment) (c : TCPConnection) : Prop :=
  tcpseg.finBit = true → tcpseg.endSequenceNo = c.sendQueue.getBufferEndSeq ∨
      (c.sendFin = true ∧ tcpseg.endSequenceNo = c.sndFinSeq)

variable {tcpseg : TCPSegment}

lemma FinPlaced.of_finBit (none : tcpseg.finBit = false) : FinPlaced tcpseg c := by
  intro set
  rw [none] at set
  cases set

/-- The ways in which a send touches its connection keep `holds`; options are `fit`, failures are
`errors`, no SYN is sent. -/
structure SendClosed (env : Env) (errors : TcpError → Prop) (fit : List TCPOption → Prop)
    (holds : TCPConnection → Prop) : Prop where
  elsewhere : ∀ {error}, Elsewhere error → errors error
  noOptions : fit []
  algVars : ∀ {c}, holds c → ∀ vars, holds { c with toAlgVars := vars }
  sendVars : ∀ {c}, holds c → ∀ vars, holds { c with toSendVars := vars }
  scoreboardVars : ∀ {c}, holds c → ∀ vars, holds { c with toScoreboardVars := vars }
  toApp : ∀ {c}, holds c → ∀ indications, holds { c with toApp := indications }
  updateRcvWnd : ∀ {c}, holds c → EndsIn errors (fun result => holds result.2) c.updateRcvWnd
  writeHeaderOptions : ∀ {c} {tcpseg : TCPSegment}, holds c → tcpseg.options = [] →
    tcpseg.synBit = false →
    EndsIn errors (fun result => fit result.1.options ∧ holds result.2)
      (writeHeaderOptions env tcpseg c)
  emit : ∀ {c} {t : TCPSegment}, holds c → fit t.options → FinPlaced t c → t.synBit = false →
    holds { c with sent := c.sent ++ [t] }

/-- Sending a SYN keeps `holds` as well. -/
structure SynClosed (env : Env) (errors : TcpError → Prop) (fit : List TCPOption → Prop)
    (holds : TCPConnection → Prop) : Prop extends SendClosed env errors fit holds where
  writeSynHeader : ∀ {c} {tcpseg : TCPSegment}, holds c → tcpseg.synBit = true →
    EndsIn errors (fun result => holds result.2) (TCPConnection.writeHeaderOptions env tcpseg c)
  emitSyn : ∀ {c} {t : TCPSegment}, holds c → t.synBit = true → t.finBit = false →
    holds { c with sent := c.sent ++ [t] }

lemma ite_of {P : TCPConnection → Prop} {condition : Prop} [Decidable condition]
    (one : P c) (other : P c') : P (if condition then c else c') := by
  split
  · exact one
  · exact other

lemma checkSocketPair_fails : FailsElsewhere c.checkSocketPair := by
  unfold checkSocketPair
  split_ifs
  iterate 2 exact nofun
  trivial

lemma isLost_fails (seqNum : UInt32) : FailsElsewhere (c.isLost seqNum) := by
  refine .assert (by decide) (.assert (by decide) ?_)
  exact (TCPSACKRexmitQueue.getNumOfDiscontiguousSacks_fails _).andThen fun _ =>
    (TCPSACKRexmitQueue.getAmountOfSackedBytes_fails _).andThen fun _ => trivial

lemma pipeLoop_fails (fuel : ℕ) (s1 pipe : UInt32) :
    FailsElsewhere (c.pipeLoop fuel s1 pipe) := by
  induction fuel generalizing s1 pipe with
  | zero => exact nofun
  | succ fuel ih =>
    unfold pipeLoop
    split
    · refine (TCPSACKRexmitQueue.checkSackBlock_fails _).andThen fun block => ?_
      split
      · exact ih ..
      · exact FailsElsewhere.andThen (isLost_fails s1) fun lost => ih ..
    · trivial

lemma nextSegLoop_fails (onlyLost : Bool) (fuel : ℕ) (s2 : UInt32) :
    FailsElsewhere (c.nextSegLoop onlyLost fuel s2) := by
  induction fuel generalizing s2 with
  | zero => exact nofun
  | succ fuel ih =>
    unfold nextSegLoop
    split
    · refine (TCPSACKRexmitQueue.checkSackBlock_fails _).andThen fun block => ?_
      split
      · exact ih _
      · split
        · exact FailsElsewhere.andThen (isLost_fails s2) fun lost => trivial
        · trivial
    · trivial

lemma enqueueRexmit_eq {bs : UInt32} (ok : c.enqueueRexmit bs = .ok c') :
    c' = { c with rexmitQueue := c'.rexmitQueue } := by
  unfold enqueueRexmit at ok
  split at ok
  · rcases bind_eq_ok ok with ⟨queue, -, ok⟩
    cases ok
    rfl
  · cases ok
    rfl

lemma createSegmentWithBytes_eq {queue : VirtualDataSendQueue} {fromSeq bs : UInt32}
    (ok : queue.createSegmentWithBytes fromSeq bs = .ok tcpseg) :
    tcpseg = { sequenceNo := fromSeq, payloadLength := bs.toNat } := by
  obtain ⟨-, ok⟩ := of_assert_bind ok
  cases ok
  rfl

lemma advanceSndNxt_inputVars (bs : UInt32) :
    (c.advanceSndNxt bs).toInputVars = c.toInputVars := by
  simp only [advanceSndNxt]
  split_ifs <;> rfl

lemma finPlaced_of_sent {d e : TCPConnection} {bs : UInt32} {window : UInt16}
    (options : List TCPOption) (headerLength : ℕ)
    (created : c.sendQueue.createSegmentWithBytes c.sndNxt bs = .ok tcpseg)
    (enqueued : c.enqueueRexmit bs = .ok d) (updated : d.updateRcvWnd = .ok (window, e)) :
    FinPlaced
      { tcpseg with
        ackNo := (e.advanceSndNxt bs).rcvNxt
        ackBit := true
        window := window
        finBit := { e with sndNxt := e.sndNxt + bs }.finDue
        options := options
        headerLength := headerLength } (e.advanceSndNxt bs) := by
  intro due
  obtain ⟨set, reached⟩ := Bool.and_eq_true_iff.mp due
  have sndNxt : e.sndNxt = c.sndNxt := by rw [(updateRcvWnd_eq updated).1, enqueueRexmit_eq enqueued]
  rw [advanceSndNxt_inputVars]
  refine .inr ⟨set, ?_⟩
  have reached : c.sndNxt + bs = e.sndFinSeq := sndNxt ▸ of_decide_eq_true reached
  rw [← reached, createSegmentWithBytes_eq created]
  exact congrArg (c.sndNxt + ·) (serial_toNat bs)

namespace SendClosed

variable {errors : TcpError → Prop} {fit : List TCPOption → Prop} {holds : TCPConnection → Prop}
  (closed : SendClosed env errors fit holds)

include closed

lemma leaf {α β : Type} {x : Except TcpError α} {next : α → Except TcpError β}
    {results : β → Prop} (fails : FailsElsewhere x) (ends : ∀ a, EndsIn errors results (next a)) :
    EndsIn errors results (x >>= next) := by
  cases x with
  | error error => exact closed.elsewhere fails
  | ok a => exact ends a

lemma assert {α : Type} {condition : Prop} [Decidable condition] {text : String}
    {next : Unit → Except TcpError α} {results : α → Prop}
    (other : text ≠ "seqGE(it->getStart(), state->rcv_nxt)")
    (ends : condition → EndsIn errors results (next ())) :
    EndsIn errors results (Inet.Tcp.assert condition text >>= next) :=
  endsIn_assert (closed.elsewhere (.of_text other)) ends

variable (kept : holds c)
include kept

lemma sendToIP {tcpseg : TCPSegment} (options : fit tcpseg.options) (fin : FinPlaced tcpseg c)
    (noSyn : tcpseg.synBit = false) : EndsIn errors holds (sendToIP tcpseg c) := by
  unfold TCPConnection.sendToIP
  refine closed.assert (by decide) fun _ => closed.assert (by decide) fun _ => ?_
  have emitted := closed.emit (t := { tcpseg with
    srcPort := portNumber c.localPort, destPort := portNumber c.remotePort }) kept options fin noSyn
  exact closed.sendVars emitted _

lemma ackSent : holds (ackSent env c) := closed.algVars kept _

lemma dataSent (fromseq : UInt32) : holds (dataSent env fromseq c) :=
  closed.algVars kept _

lemma segmentRetransmitted (fromseq toseq : UInt32) :
    holds (segmentRetransmitted env fromseq toseq c) :=
  closed.algVars kept _

lemma restartRexmitTimer : holds (restartRexmitTimer env c) :=
  closed.algVars kept _

lemma writeOptions {tcpseg : TCPSegment} (bare : tcpseg.options = [])
    (noFin : tcpseg.finBit = false) (noSyn : tcpseg.synBit = false) :
    EndsIn errors
      (fun result => fit result.1.options ∧ holds result.2 ∧ result.1.finBit = false ∧
        result.1.synBit = false)
      (TCPConnection.writeHeaderOptions env tcpseg c) :=
  (closed.writeHeaderOptions kept bare noSyn).self.mono fun ⟨_, _⟩ ⟨⟨options, kept⟩, ok⟩ =>
    ⟨options, kept, (writeHeaderOptions_header ok).finBit.trans noFin,
      (writeHeaderOptions_header ok).synBit.trans noSyn⟩

lemma sendAck : EndsIn errors holds (sendAck env c) := by
  unfold TCPConnection.sendAck
  refine (closed.updateRcvWnd kept).bind fun ⟨window, d⟩ kept => ?_
  refine (closed.writeOptions kept rfl rfl rfl).bind
    fun ⟨tcpseg, e⟩ ⟨options, kept, noFin, noSyn⟩ => ?_
  exact (closed.sendToIP kept options (.of_finBit noFin) noSyn).bind fun f kept =>
    closed.ackSent kept

lemma sendAckEcn (ecn : Bool) : EndsIn errors holds (sendAckEcn env ecn c) := by
  unfold TCPConnection.sendAckEcn
  refine (closed.updateRcvWnd kept).bind fun ⟨window, d⟩ kept => ?_
  refine (closed.writeOptions kept rfl rfl rfl).bind
    fun ⟨tcpseg, e⟩ ⟨options, kept, noFin, noSyn⟩ => ?_
  exact EndsIn.bind (closed.sendToIP kept options (.of_finBit noFin) noSyn) fun f kept =>
    closed.ackSent kept

lemma sendFIN (atEnd : c.sndNxt = c.sendQueue.getBufferEndSeq) :
    EndsIn errors holds (sendFIN env c) := by
  unfold TCPConnection.sendFIN
  refine (closed.updateRcvWnd kept).self.bind fun ⟨window, d⟩ ⟨kept, ok⟩ => ?_
  refine EndsIn.bind (closed.sendToIP kept closed.noOptions (fun _ => .inl ?_) rfl) fun f kept =>
    closed.ackSent kept
  have same := (updateRcvWnd_eq ok).1
  rw [same]
  exact (UInt32.add_zero c.sndNxt).trans atEnd

lemma sendRstTo (srcPort destPort : UInt16) (seq : UInt32) :
    holds (sendRstTo srcPort destPort seq c) :=
  closed.emit kept closed.noOptions (.of_finBit rfl) rfl

lemma forwardSndNxt : EndsIn errors holds c.forwardSndNxt := by
  unfold TCPConnection.forwardSndNxt
  split
  · refine closed.leaf (TCPSACKRexmitQueue.checkRexmitQueue_fails _) fun forward => ?_
    exact closed.sendVars kept _
  · exact kept

lemma enqueueRexmit (bs : UInt32) : EndsIn errors holds (c.enqueueRexmit bs) := by
  unfold TCPConnection.enqueueRexmit
  split
  · refine closed.leaf (TCPSACKRexmitQueue.enqueueSentData_fails ..) fun queue => ?_
    exact closed.scoreboardVars kept _
  · exact kept

lemma advanceSndNxt (bs : UInt32) : holds (c.advanceSndNxt bs) := by
  have advanced : holds { c with sndNxt := c.sndNxt + bs } := closed.sendVars kept _
  refine ite_of (closed.sendVars ?_ _) ?_
  all_goals exact ite_of (closed.algVars advanced _) advanced

lemma requestMoreData : holds c.requestMoreData := by
  exact ite_of (closed.sendVars (closed.toApp kept _) _) kept

lemma sendSegment (bs : UInt32) : EndsIn errors holds (sendSegment env bs c) := by
  unfold TCPConnection.sendSegment
  refine (closed.forwardSndNxt kept).bind fun c₁ kept => ?_
  refine (closed.writeHeaderOptions kept rfl rfl).bind fun ⟨temp, c₂⟩ ⟨options, kept⟩ => ?_
  refine closed.assert (by decide) fun _ => ?_
  generalize c₂.segmentBytes bs _ = bs
  dsimp only
  cases created : c₂.sendQueue.createSegmentWithBytes c₂.sndNxt bs with
  | error error =>
    have fails := c₂.sendQueue.createSegmentWithBytes_fails c₂.sndNxt bs
    exact closed.elsewhere (fails.of_error created)
  | ok tcpseg =>
    refine (closed.enqueueRexmit kept _).self.bind fun c₃ ⟨kept, enqueued⟩ => ?_
    refine EndsIn.bind (closed.updateRcvWnd kept).self fun ⟨window, c₄⟩ ⟨kept, updated⟩ => ?_
    have placed := finPlaced_of_sent temp.options temp.headerLength created enqueued updated
    have noSyn : tcpseg.synBit = false := by rw [createSegmentWithBytes_eq created]
    refine EndsIn.bind (closed.sendToIP (closed.advanceSndNxt kept _) options placed noSyn)
      fun c₅ kept => ?_
    exact closed.requestMoreData kept

/-! ## Sending and retransmitting -/

lemma sendWholeSegments (effectiveMaxBytesSend : UInt32) (fuel : ℕ) (bytesToSend : UInt64) :
    EndsIn errors (fun result => holds result.2)
      (sendWholeSegments env effectiveMaxBytesSend fuel bytesToSend c) := by
  induction fuel generalizing bytesToSend c with
  | zero => exact closed.elsewhere nofun
  | succ fuel ih =>
    unfold TCPConnection.sendWholeSegments
    split
    · exact (closed.sendSegment kept _).bind fun d kept => ih kept _
    · exact kept

lemma sendFirstSegments (bytesToSend : UInt64) :
    EndsIn errors (fun result => holds result.2) (sendFirstSegments env bytesToSend c) := by
  unfold TCPConnection.sendFirstSegments
  split
  · exact (closed.sendSegment kept _).bind fun d kept => kept
  · exact closed.sendWholeSegments kept ..

lemma sendLastSegment (bytesToSend : UInt64) :
    EndsIn errors holds (sendLastSegment env bytesToSend c) := by
  unfold TCPConnection.sendLastSegment
  dsimp only
  split
  · exact closed.sendSegment kept _
  · exact kept

lemma raiseSndMax : holds c.raiseSndMax := by
  exact ite_of (closed.sendVars kept _) kept

lemma notifyDataSent (oldHighRxt oldSndNxt : UInt32) :
    holds (notifyDataSent env oldHighRxt oldSndNxt c) := by
  have acked := closed.ackSent kept
  exact ite_of (closed.restartRexmitTimer acked) (closed.dataSent acked _)

lemma startSending : holds c.startSending := by
  exact ite_of kept (closed.sendVars kept _)

lemma sendData (fullSegmentsOnly : Bool) (congestionWindow : UInt32) :
    EndsIn errors (fun result => holds result.2)
      (sendData env fullSegmentsOnly congestionWindow c) := by
  unfold TCPConnection.sendData
  dsimp only
  have kept := closed.startSending kept
  split
  · exact kept
  · refine (closed.sendFirstSegments kept _).bind fun ⟨left, d⟩ kept => ?_
    refine EndsIn.bind (closed.sendLastSegment kept left) fun e kept => ?_
    exact closed.notifyDataSent (closed.raiseSndMax kept) ..

lemma sendProbe : EndsIn errors (fun result => holds result.2) (sendProbe env c) := by
  unfold TCPConnection.sendProbe
  dsimp only
  have kept : holds { c with sndNxt := c.sndMax } := closed.sendVars kept _
  split
  · exact kept
  · refine EndsIn.bind (closed.sendSegment kept 1) fun d kept => ?_
    exact closed.dataSent (closed.ackSent (closed.sendVars kept _)) _

lemma resendFin {notify : TCPConnection → TCPConnection}
    (notified : ∀ {d}, holds d → holds (notify d)) :
    EndsIn errors holds (resendFin env notify c) := by
  unfold TCPConnection.resendFin
  refine EndsIn.bind (closed.sendFIN (closed.sendVars kept _) rfl) fun d kept => ?_
  exact closed.sendVars (notified kept) _

lemma retransmitOneSegment (calledAtRto : Bool) :
    EndsIn errors holds (retransmitOneSegment env calledAtRto c) := by
  unfold TCPConnection.retransmitOneSegment
  dsimp only
  have kept : holds { c with sndNxt := c.sndUna } := closed.sendVars kept _
  split
  · exact closed.resendFin kept fun kept => closed.segmentRetransmitted kept ..
  · refine closed.assert (by decide) fun _ => ?_
    refine EndsIn.bind (closed.sendSegment kept _) fun d kept => ?_
    have kept := closed.segmentRetransmitted kept d.sndUna d.sndNxt
    refine ite_of (closed.scoreboardVars (closed.ackSent ?_) _) (closed.ackSent ?_)
    all_goals exact ite_of (closed.sendVars kept _) kept

lemma retransmitLoop (fuel : ℕ) (bytesToSend : UInt32) :
    EndsIn errors holds (retransmitLoop env fuel bytesToSend c) := by
  induction fuel generalizing bytesToSend c with
  | zero => exact closed.elsewhere nofun
  | succ fuel ih =>
    unfold TCPConnection.retransmitLoop
    split
    · refine EndsIn.bind (closed.sendSegment kept _) fun d kept => ?_
      split
      · exact kept
      · exact ih kept _
    · exact kept

lemma retransmitData : EndsIn errors holds (retransmitData env c) := by
  unfold TCPConnection.retransmitData
  dsimp only
  have kept : holds { c with sndNxt := c.sndUna } := closed.sendVars kept _
  split
  · exact closed.resendFin kept id
  · refine closed.assert (by decide) fun _ => ?_
    refine EndsIn.bind (closed.retransmitLoop kept ..) fun d kept => ?_
    exact closed.segmentRetransmitted kept ..

lemma sendOneNewSegment (fullSegmentsOnly : Bool) (congestionWindow : UInt32) :
    EndsIn errors holds (sendOneNewSegment env fullSegmentsOnly congestionWindow c) := by
  unfold TCPConnection.sendOneNewSegment
  refine closed.assert (by decide) fun _ => ?_
  split
  · exact kept
  · split
    · exact kept
    · refine EndsIn.bind (closed.sendSegment (closed.sendVars kept _) _) fun d kept => ?_
      have kept := closed.raiseSndMax kept
      refine closed.dataSent (closed.ackSent ?_) _
      exact ite_of (closed.sendVars kept _) kept

lemma setPipe : EndsIn errors holds c.setPipe := by
  refine closed.assert (by decide) fun _ => ?_
  refine closed.leaf (pipeLoop_fails ..) fun pipe => ?_
  exact closed.scoreboardVars kept _

lemma nextSeg : EndsIn errors (fun result => holds result.2) c.nextSeg := by
  refine closed.assert (by decide) fun _ => ?_
  have kept : holds { c with highRxt := c.rexmitQueue.getHighestRexmittedSeqNum } :=
    closed.scoreboardVars kept _
  refine closed.leaf (nextSegLoop_fails ..) fun first => ?_
  split
  · exact kept
  · dsimp only
    split
    · exact kept
    · exact closed.leaf (nextSegLoop_fails ..) fun third => kept

lemma sendSegmentDuringLossRecoveryPhase (seqNum : UInt32) :
    EndsIn errors holds (sendSegmentDuringLossRecoveryPhase env seqNum c) := by
  unfold TCPConnection.sendSegmentDuringLossRecoveryPhase
  refine closed.assert (by decide) fun _ => ?_
  refine EndsIn.bind (closed.sendSegment (closed.sendVars kept _) _) fun d kept => ?_
  refine closed.assert (by decide) fun _ => ?_
  refine ite_of (closed.restartRexmitTimer (closed.ackSent ?_))
    (closed.dataSent (closed.ackSent ?_) _)
  all_goals
    refine ite_of (closed.sendVars ?_ _) ?_
    all_goals exact ite_of (closed.scoreboardVars kept _) kept

lemma lossRecoveryLoop (congestionWindow : UInt32) (fuel : ℕ) :
    EndsIn errors holds (lossRecoveryLoop env congestionWindow fuel c) := by
  induction fuel generalizing c with
  | zero => exact closed.elsewhere nofun
  | succ fuel ih =>
    unfold TCPConnection.lossRecoveryLoop
    split
    · refine (closed.nextSeg kept).bind fun ⟨seqNum, d⟩ kept => ?_
      cases seqNum with
      | none => exact kept
      | some seqNum =>
        refine EndsIn.bind (closed.sendSegmentDuringLossRecoveryPhase kept seqNum) fun e kept => ?_
        exact ih (closed.scoreboardVars kept _)
    · exact kept

lemma sendDataDuringLossRecoveryPhase (congestionWindow : UInt32) :
    EndsIn errors holds (sendDataDuringLossRecoveryPhase env congestionWindow c) := by
  unfold TCPConnection.sendDataDuringLossRecoveryPhase
  exact closed.assert (by decide) fun _ => closed.lossRecoveryLoop kept _ _

lemma perform (call : AlgCall) :
    EndsIn errors (fun result => holds result.2) (perform env call c) := by
  cases call with
  | sendData fullSegmentsOnly congestionWindow => exact closed.sendData kept ..
  | sendProbe => exact closed.sendProbe kept
  | resetSackedBit => exact closed.scoreboardVars kept _
  | resetRexmittedBit => exact closed.scoreboardVars kept _
  | signalConnectionTimeout => exact closed.toApp kept _
  | update vars => exact closed.algVars kept vars
  | sendAck => exact (closed.sendAck kept).bind fun d kept => kept
  | sendAckEcn ecn => exact (closed.sendAckEcn kept ecn).bind fun d kept => kept
  | sendOneNewSegment fullSegmentsOnly congestionWindow =>
    exact (closed.sendOneNewSegment kept ..).bind fun d kept => kept
  | retransmitOneSegment calledAtRto =>
    exact (closed.retransmitOneSegment kept calledAtRto).bind fun d kept => kept
  | retransmitData => exact (closed.retransmitData kept).bind fun d kept => kept
  | setPipe => exact (closed.setPipe kept).bind fun d kept => kept
  | sendDataDuringLossRecoveryPhase congestionWindow =>
    exact (closed.sendDataDuringLossRecoveryPhase kept congestionWindow).bind fun d kept => kept

lemma runCallback (callback : AlgCallback) : EndsIn errors holds (runCallback env callback c) :=
  CallTree.run_endsIn (fun _ kept => closed.perform kept _) callback.callsOnly_true kept

end SendClosed

namespace SynClosed

variable {errors : TcpError → Prop} {fit : List TCPOption → Prop} {holds : TCPConnection → Prop}
  (closed : SynClosed env errors fit holds)

include closed

lemma sendSynToIP {tcpseg : TCPSegment} (kept : holds c) (syn : tcpseg.synBit = true)
    (noFin : tcpseg.finBit = false) : EndsIn errors holds (sendToIP tcpseg c) := by
  refine closed.assert (by decide) fun _ => closed.assert (by decide) fun _ => ?_
  have emitted := closed.emitSyn (t := { tcpseg with
    srcPort := portNumber c.localPort, destPort := portNumber c.remotePort }) kept syn noFin
  exact closed.sendVars emitted _

lemma writeSyn {tcpseg : TCPSegment} (kept : holds c) (syn : tcpseg.synBit = true)
    (noFin : tcpseg.finBit = false) :
    EndsIn errors
      (fun result => holds result.2 ∧ result.1.synBit = true ∧ result.1.finBit = false)
      (TCPConnection.writeHeaderOptions env tcpseg c) :=
  (closed.writeSynHeader kept syn).self.mono fun ⟨_, _⟩ ⟨kept, ok⟩ =>
    ⟨kept, (writeHeaderOptions_header ok).synBit.trans syn,
      (writeHeaderOptions_header ok).finBit.trans noFin⟩

lemma sendSyn (kept : holds c) : EndsIn errors holds (sendSyn env c) := by
  unfold TCPConnection.sendSyn
  refine closed.leaf checkSocketPair_fails fun _ => ?_
  refine (closed.updateRcvWnd kept).bind fun ⟨window, d⟩ kept => ?_
  refine EndsIn.bind (closed.writeSyn (closed.sendVars kept _) rfl rfl)
    fun ⟨tcpseg, e⟩ ⟨kept, syn, noFin⟩ => ?_
  exact closed.sendSynToIP kept syn noFin

lemma sendSynAck (kept : holds c) : EndsIn errors holds (sendSynAck env c) := by
  unfold TCPConnection.sendSynAck
  refine (closed.updateRcvWnd kept).bind fun ⟨window, d⟩ kept => ?_
  refine EndsIn.bind (closed.writeSyn (closed.sendVars kept _) rfl rfl)
    fun ⟨tcpseg, e⟩ ⟨kept, syn, noFin⟩ => ?_
  exact (closed.sendSynToIP kept syn noFin).bind fun f kept => closed.ackSent kept

end SynClosed

/-- What writing header options leaves alone. -/
structure OptionsWritten (c c' : TCPConnection) : Prop where
  inputVars : c'.toInputVars = c.toInputVars
  sendVars : c'.toSendVars = c.toSendVars
  scoreboardVars : c'.toScoreboardVars = c.toScoreboardVars
  algVars : c'.toAlgVars = c.toAlgVars
  outputVars : c'.toOutputVars = c.toOutputVars
  rcvWnd : c'.rcvWnd = c.rcvWnd

namespace OptionsWritten

lemma refl (c : TCPConnection) : OptionsWritten c c := ⟨rfl, rfl, rfl, rfl, rfl, rfl⟩

lemma trans {d : TCPConnection} (first : OptionsWritten c d) (second : OptionsWritten d c') :
    OptionsWritten c c' where
  inputVars := second.inputVars.trans first.inputVars
  sendVars := second.sendVars.trans first.sendVars
  scoreboardVars := second.scoreboardVars.trans first.scoreboardVars
  algVars := second.algVars.trans first.algVars
  outputVars := second.outputVars.trans first.outputVars
  rcvWnd := second.rcvWnd.trans first.rcvWnd

end OptionsWritten

section

variable {tcpseg tcpseg' : TCPSegment}

lemma addSacks_eq (ok : addSacks tcpseg c = .ok (tcpseg', c')) :
    c' = { c with toRcvSackVars := c'.toRcvSackVars } := by
  rcases bind_eq_ok ok with ⟨survivors, -, ok⟩
  split at ok
  · cases ok
    rfl
  · rcases bind_eq_ok ok with ⟨sacks, -, ok⟩
    rcases bind_eq_ok ok with ⟨written, -, ok⟩
    cases ok
    rfl

lemma addSacks_written (ok : addSacks tcpseg c = .ok (tcpseg', c')) : OptionsWritten c c' := by
  rw [addSacks_eq ok]
  exact ⟨rfl, rfl, rfl, rfl, rfl, rfl⟩

lemma writeSynOptions_written (env : Env) (tcpseg : TCPSegment) (c : TCPConnection) :
    OptionsWritten c (writeSynOptions env tcpseg c).2 := by
  simp only [writeSynOptions, writeWindowScale, writeSackPermitted, writeInitialTimestamp]
  split_ifs <;> exact ⟨rfl, rfl, rfl, rfl, rfl, rfl⟩

lemma writeChangedBuffer_written (tcpseg : TCPSegment) (c : TCPConnection) :
    OptionsWritten c (writeChangedBuffer tcpseg c).2 := by
  simp only [writeChangedBuffer, writeWindowScale]
  split_ifs <;> exact ⟨rfl, rfl, rfl, rfl, rfl, rfl⟩

lemma writeStateOptions_written (ok : writeStateOptions env tcpseg c = .ok (tcpseg', c')) :
    OptionsWritten c c' := by
  unfold writeStateOptions at ok
  split at ok
  · have written : (writeSynOptions env tcpseg c).2 = c' := congrArg Prod.snd (Except.ok.inj ok)
    rw [← written]
    exact writeSynOptions_written env tcpseg c
  · split at ok
    · unfold writeDataOptions at ok
      split at ok
      · exact addSacks_written ok
      · cases ok
        exact .refl c
    · cases ok
      exact .refl c

lemma writeHeaderOptions_written (ok : writeHeaderOptions env tcpseg c = .ok (tcpseg', c')) :
    OptionsWritten c c' := by
  rcases bind_eq_ok ok with ⟨⟨middle, d⟩, first, ok⟩
  have written : (writeChangedBuffer middle d).2 = c' := congrArg Prod.snd (Except.ok.inj ok)
  rw [← written]
  exact (writeStateOptions_written first).trans (writeChangedBuffer_written middle d)

end

/-- Sends keep `InputVars`, and what holds of the window as long as it holds of every
window computed from them. -/
lemma sendClosed_rcvWnd {vars : InputVars} {H : UInt32 → Prop}
    (computed : ∀ {d : TCPConnection}, d.toInputVars = vars →
      (d.windowToAdvertise (d.receiveQueue.getAmountOfFreeBytes d.maxRcvBuffer)).toNat <
        1073741824 → H (d.windowToAdvertise (d.receiveQueue.getAmountOfFreeBytes d.maxRcvBuffer))) :
    SynClosed env (fun _ => True) (fun _ => True)
      (fun d => d.toInputVars = vars ∧ H d.rcvWnd) where
  elsewhere _ := trivial
  noOptions := trivial
  algVars kept _ := kept
  sendVars kept _ := kept
  scoreboardVars kept _ := kept
  toApp kept _ := kept
  updateRcvWnd {c} kept := by
    refine .of_forall (fun ⟨window, d⟩ ok => ?_) fun _ _ => trivial
    obtain ⟨same, win, small⟩ := updateRcvWnd_eq ok
    rw [win] at small
    refine ⟨?_, ?_⟩
    · dsimp only
      rw [same]
      exact kept.1
    · rw [win]
      exact computed kept.1 small
  writeHeaderOptions {c tcpseg} kept _ _ := by
    refine .of_forall (fun ⟨tcpseg', d⟩ ok => ⟨trivial, ?_⟩) fun _ _ => trivial
    have written := writeHeaderOptions_written ok
    exact ⟨written.inputVars.trans kept.1, written.rcvWnd ▸ kept.2⟩
  emit kept _ _ _ := kept
  writeSynHeader {c tcpseg} kept _ := by
    refine .of_forall (fun ⟨tcpseg', d⟩ ok => ?_) fun _ _ => trivial
    have written := writeHeaderOptions_written ok
    exact ⟨written.inputVars.trans kept.1, written.rcvWnd ▸ kept.2⟩
  emitSyn kept _ _ := kept

lemma sendClosed_inputVars (vars : InputVars) :
    SynClosed env (fun _ => True) (fun _ => True)
      (fun d => d.toInputVars = vars ∧ True) :=
  sendClosed_rcvWnd (H := fun _ => True) fun _ _ => trivial

lemma sendAck_inputVars (ok : sendAck env c = .ok c') : c'.toInputVars = c.toInputVars :=
  (((sendClosed_inputVars _).sendAck ⟨rfl, trivial⟩).of_ok ok).1

lemma sendAckEcn_inputVars {ecn : Bool} (ok : sendAckEcn env ecn c = .ok c') :
    c'.toInputVars = c.toInputVars :=
  (((sendClosed_inputVars _).sendAckEcn ⟨rfl, trivial⟩ ecn).of_ok ok).1

lemma sendFIN_inputVars (atEnd : c.sndNxt = c.sendQueue.getBufferEndSeq)
    (ok : sendFIN env c = .ok c') : c'.toInputVars = c.toInputVars :=
  (((sendClosed_inputVars _).sendFIN ⟨rfl, trivial⟩ atEnd).of_ok ok).1

lemma sendSyn_inputVars (ok : sendSyn env c = .ok c') : c'.toInputVars = c.toInputVars :=
  (((sendClosed_inputVars _).sendSyn ⟨rfl, trivial⟩).of_ok ok).1

lemma sendSynAck_inputVars (ok : sendSynAck env c = .ok c') : c'.toInputVars = c.toInputVars :=
  (((sendClosed_inputVars _).sendSynAck ⟨rfl, trivial⟩).of_ok ok).1

/-- A callback writes no `InputVars`, whatever it does. -/
lemma runCallback_inputVars {callback : AlgCallback} (ok : runCallback env callback c = .ok c') :
    c'.toInputVars = c.toInputVars :=
  (((sendClosed_inputVars _).runCallback ⟨rfl, trivial⟩ callback).of_ok ok).1

lemma sendToIP_eq (ok : sendToIP tcpseg c = .ok c') :
    c' = { c with
      sentBytes := serial tcpseg.payloadLength
      sent := c.sent ++
        [{ tcpseg with
            srcPort := portNumber c.localPort
            destPort := portNumber c.remotePort }] } := by
  unfold sendToIP at ok
  obtain ⟨-, ok⟩ := of_assert_bind ok
  obtain ⟨-, ok⟩ := of_assert_bind ok
  cases ok
  rfl

/-- What every control segment has in common. -/
structure Bare (tcpseg : TCPSegment) : Prop where
  payloadLength : tcpseg.payloadLength = 0
  finBit : tcpseg.finBit = false
  rstBit : tcpseg.rstBit = false

lemma sendSyn_sent (ok : sendSyn env c = .ok c') :
    ∃ tcpseg, c'.sent = c.sent ++ [tcpseg] ∧ Bare tcpseg ∧ tcpseg.synBit = true ∧
      tcpseg.ackBit = false ∧ tcpseg.sequenceNo = c.iss := by
  rcases bind_eq_ok ok with ⟨-, -, ok⟩
  rcases bind_eq_ok ok with ⟨⟨window, d⟩, update, ok⟩
  rcases bind_eq_ok ok with ⟨⟨tcpseg, e⟩, write, ok⟩
  have sent : e.sent = c.sent := by
    rw [(writeHeaderOptions_written write).outputVars, (updateRcvWnd_eq update).1]
  have iss : d.iss = c.iss := by rw [(updateRcvWnd_eq update).1]
  rw [sendToIP_eq ok, sent, ← iss, writeHeaderOptions_header write]
  exact ⟨_, rfl, ⟨rfl, rfl, rfl⟩, rfl, rfl, rfl⟩

lemma sendSynAck_sent (ok : sendSynAck env c = .ok c') :
    ∃ tcpseg, c'.sent = c.sent ++ [tcpseg] ∧ Bare tcpseg ∧ tcpseg.synBit = true ∧
      tcpseg.ackBit = true ∧ tcpseg.sequenceNo = c.iss ∧ tcpseg.ackNo = c.rcvNxt := by
  rcases bind_eq_ok ok with ⟨⟨window, d⟩, update, ok⟩
  rcases bind_eq_ok ok with ⟨⟨tcpseg, e⟩, write, ok⟩
  rcases bind_eq_ok ok with ⟨f, send, ok⟩
  cases ok
  have sent : e.sent = c.sent := by
    rw [(writeHeaderOptions_written write).outputVars, (updateRcvWnd_eq update).1]
  have same : d.iss = c.iss ∧ d.rcvNxt = c.rcvNxt := by
    rw [(updateRcvWnd_eq update).1]
    exact ⟨rfl, rfl⟩
  suffices emitted : ∃ tcpseg, f.sent = c.sent ++ [tcpseg] ∧ Bare tcpseg ∧
      tcpseg.synBit = true ∧ tcpseg.ackBit = true ∧ tcpseg.sequenceNo = c.iss ∧
      tcpseg.ackNo = c.rcvNxt from emitted
  rw [sendToIP_eq send, sent, ← same.1, ← same.2, writeHeaderOptions_header write]
  exact ⟨_, rfl, ⟨rfl, rfl, rfl⟩, rfl, rfl, rfl, rfl⟩

end Inet.Tcp.TCPConnection
