import Inet.Tcp.ReceiveFrame

/-!
# What holds across the arrival of a segment

The steps of segment arrival touch the sending side in few ways: the ACK number moves `snd_una`, the
peer's window is noted, options are read, and the algorithm is called. A property kept by each
(`ArrivalClosed`) is kept by `processSegment1stThru8th`, and one also kept by the commands and the
handshake (`EventClosed`) by every event up to its transition.
-/

namespace Inet.Tcp.TCPConnection

variable {env : Env} {seg : TCPSegment} {c : TCPConnection}

/-- The ACK number acknowledges something new that has been sent. -/
def NewAck (tcpseg : TCPSegment) (c : TCPConnection) : Prop :=
  ¬ seqGE c.sndUna tcpseg.ackNo ∧ seqLE tcpseg.ackNo c.sndMax

/-- The ways in which an arriving segment touches the sending side keep `holds`, and
nothing fails with other than `errors`. -/
structure ArrivalClosed (env : Env) (tcpseg : TCPSegment) (errors : TcpError → Prop)
    (holds : TCPConnection → Prop) : Prop where
  elsewhere : ∀ {error}, Elsewhere error → errors error
  callback : ∀ {c}, holds c → ∀ callback, EndsIn errors holds (runCallback env callback c)
  sendAck : ∀ {c}, holds c → EndsIn errors holds (sendAck env c)
  sendAckEcn : ∀ {c}, holds c → ∀ ecn, EndsIn errors holds (sendAckEcn env ecn c)
  sendRst : ∀ {c}, holds c → ∀ seqNo, holds (sendRst seqNo c)
  readHeaderOptions : ∀ {c}, holds c → EndsIn errors holds (readHeaderOptions tcpseg c)
  algVars : ∀ {c}, holds c → ∀ vars, holds { c with toAlgVars := vars }
  toApp : ∀ {c}, holds c → ∀ indications, holds { c with toApp := indications }
  timers : ∀ {c}, holds c → ∀ timers, holds { c with timers := timers }
  /-- The receiving side. -/
  received : ∀ {c : TCPConnection}, holds c → ∀ stream (wnd : RcvWndVars) sacks,
    wnd.maxRcvBufferChanged = c.maxRcvBufferChanged → holds { c with
      toRcvStreamVars := stream, toRcvWndVars := wnd, toRcvSackVars := sacks }
  finSeen : ∀ {c}, holds c → ∀ finRcvd rcvFinSeq finPassed, holds { c with
    finRcvd := finRcvd, rcvFinSeq := rcvFinSeq, finPassed := finPassed }
  counted : ∀ {c}, holds c → ∀ naseg oooseg drops, holds { c with
    rcvNaseg := naseg, rcvOooseg := oooseg, tcpRcvQueueDrops := drops }
  sndWindow : ∀ {c}, holds c → ∀ wnd wl1 wl2, holds { c with
    sndWnd := wnd, sndWl1 := wl1, sndWl2 := wl2 }
  takeAck : ∀ {c}, holds c → NewAck tcpseg c → ∀ vars, EndsIn errors holds
    (discardAcked tcpseg.ackNo { c.advanceSndUna tcpseg.ackNo with toAlgVars := vars })
  flush : ∀ {c}, holds c → ∀ sendQueue rexmitQueue,
    c.sendQueue.discardUpTo c.sendQueue.getBufferEndSeq = .ok sendQueue →
    c.discardSent c.rexmitQueue.end = .ok rexmitQueue →
    holds { c with sendQueue := sendQueue, rexmitQueue := rexmitQueue }

lemma getValues_fails (option : TCPOption) (k : ℕ) : FailsElsewhere (getValues option k) := by
  unfold getValues
  split
  · trivial
  · exact nofun

lemma timestampValue_fails (seg : TCPSegment) (k : ℕ) :
    FailsElsewhere (timestampValue seg k) := by
  unfold timestampValue
  split
  · exact getValues_fails ..
  · trivial

lemma pawsRejects_fails : FailsElsewhere (pawsRejects env seg c) := by
  unfold pawsRejects
  split
  · exact (timestampValue_fails seg 0).andThen fun _ => trivial
  · trivial

lemma discardSent_fails (seqNum : UInt32) : FailsElsewhere (c.discardSent seqNum) := by
  unfold discardSent
  split
  · exact TCPSACKRexmitQueue.discardUpTo_fails seqNum
  · trivial

lemma scheduled_fails (running : Bool) : FailsElsewhere (scheduled running) := by
  unfold scheduled
  split
  · exact nofun
  · trivial

lemma finTimers_fails : FailsElsewhere c.finTimers := by
  unfold finTimers
  split
  · exact (scheduled_fails _).andThen fun _ => trivial
  · exact (scheduled_fails _).andThen fun _ => trivial
  · trivial
  · trivial

/-- What a step hands on, or stops with. -/
def Phase.connection : Phase → TCPConnection
  | .stop _ c => c
  | .go _ _ c => c

namespace ArrivalClosed

variable {errors : TcpError → Prop} {holds : TCPConnection → Prop} {ev : TCPEventCode}
  (closed : ArrivalClosed env seg errors holds)

include closed

lemma leaf {α β : Type} {x : Except TcpError α} {next : α → Except TcpError β}
    {results : β → Prop} (fails : FailsElsewhere x)
    (ends : ∀ a, x = .ok a → EndsIn errors results (next a)) :
    EndsIn errors results (x >>= next) := by
  cases x with
  | error error => exact closed.elsewhere fails
  | ok a => exact ends a rfl

lemma assert {α : Type} {condition : Prop} [Decidable condition] {text : String}
    {next : Unit → Except TcpError α} {results : α → Prop}
    (other : text ≠ "seqGE(it->getStart(), state->rcv_nxt)")
    (ends : condition → EndsIn errors results (next ())) :
    EndsIn errors results (Inet.Tcp.assert condition text >>= next) :=
  endsIn_assert (closed.elsewhere (.of_text other)) ends

variable (kept : holds c)
include kept

lemma checkSequenceNumber :
    EndsIn errors (fun result => holds result.2) (checkSequenceNumber env seg c) := by
  unfold TCPConnection.checkSequenceNumber
  split
  · refine closed.leaf pawsRejects_fails fun rejected _ => ?_
    exact (closed.readHeaderOptions kept).bind fun d kept => kept
  · exact kept

lemma noteDuplicate : holds (noteDuplicate seg c) := by
  unfold TCPConnection.noteDuplicate
  exact ite_of (closed.received kept _ _ _ rfl) kept

lemma notAcceptable : EndsIn errors holds (notAcceptable env seg c) := by
  have answered : EndsIn errors holds (answerDuplicate env seg c) := by
    unfold answerDuplicate
    split
    · exact kept
    · exact closed.sendAckEcn (closed.noteDuplicate kept) _
  unfold TCPConnection.notAcceptable
  exact answered.bind fun d kept => closed.counted kept _ _ _

lemma processRstInSynReceived :
    EndsIn errors (fun result => holds result.2) c.processRstInSynReceived := by
  refine closed.leaf (VirtualDataSendQueue.discardUpTo_fails _) fun sendQueue sent => ?_
  refine closed.leaf (discardSent_fails _) fun rexmitQueue discarded => ?_
  have flushed := closed.flush kept sendQueue rexmitQueue sent discarded
  exact ite_of (closed.toApp flushed _) flushed

lemma processRst : EndsIn errors (fun result => holds result.2) c.processRst := by
  unfold TCPConnection.processRst
  split
  · exact closed.processRstInSynReceived kept
  iterate 4 exact closed.toApp kept _
  iterate 3 exact kept
  all_goals exact closed.elsewhere (.of_text (by decide))

lemma updateWndInfo (doAlways : Bool) : holds (updateWndInfo seg doAlways c) := by
  unfold TCPConnection.updateWndInfo
  exact ite_of (closed.sndWindow kept _ _ _) kept

lemma notifyDataAck (oldSndUna : UInt32) :
    EndsIn errors holds (notifyDataAck env oldSndUna c) := by
  unfold TCPConnection.notifyDataAck
  exact (closed.callback kept _).bind fun d kept => closed.algVars kept _

lemma processOldAck : EndsIn errors holds (processOldAck env seg c) := by
  unfold TCPConnection.processOldAck
  split
  · exact closed.callback (closed.updateWndInfo (closed.algVars kept _) _) _
  · exact closed.algVars kept _

lemma processNewAck (new : NewAck seg c) : EndsIn errors holds (processNewAck env seg c) := by
  have taken : EndsIn errors holds
      (measureRtt env seg (c.advanceSndUna seg.ackNo) >>= discardAcked seg.ackNo) := by
    unfold measureRtt
    split
    · refine closed.leaf (x := getTSecr seg >>= fun echoedTS => .ok _)
        ((timestampValue_fails seg 1).andThen fun _ => trivial) fun d measured => ?_
      rcases Except.bind_eq_ok measured with ⟨echoedTS, -, measured⟩
      cases measured
      exact closed.takeAck kept new _
    · exact closed.takeAck kept new c.toAlgVars
  unfold TCPConnection.processNewAck
  dsimp only
  rw [← bind_assoc]
  refine EndsIn.bind taken fun d kept => ?_
  have kept := closed.updateWndInfo kept false
  split
  · exact closed.notifyDataAck (closed.algVars kept _) _
  · exact kept

lemma processAck : EndsIn errors (fun result => holds result.2) (processAck env seg c) := by
  unfold TCPConnection.processAck
  split
  · unfold processAckInEstabEtc
    split
    · exact (closed.processOldAck kept).bind fun d kept => kept
    case isFalse above =>
      split
      case isTrue sent => exact (closed.processNewAck kept ⟨above, sent⟩).bind fun d kept => kept
      case isFalse =>
        refine closed.assert (by decide) fun _ => ?_
        exact (closed.callback kept _).bind fun d kept => closed.algVars kept _
  · exact kept

lemma afterAck : EndsIn errors (fun phase => holds phase.connection) (afterAck env seg ev c) := by
  unfold TCPConnection.afterAck
  split
  · exact kept
  · split
    · exact closed.leaf (scheduled_fails _) fun the2MSL _ => closed.timers kept _
    · exact kept
  · split
    · exact kept
    · exact kept
  · exact (closed.sendAck kept).bind fun d kept => closed.timers kept _
  · exact kept

/-! ## Seventh and eighth: text and FIN bit -/

lemma passFin (finSeq : UInt32) :
    EndsIn errors (fun result => holds result.2) (c.passFin finSeq) := by
  refine closed.leaf finTimers_fails fun timers _ => ?_
  have passed := closed.finSeen (closed.timers kept timers) c.finRcvd c.rcvFinSeq (some finSeq)
  have moved := closed.received passed { c.toRcvStreamVars with rcvNxt := finSeq + 1 }
    c.toRcvWndVars c.toRcvSackVars rfl
  exact closed.algVars moved { c.toAlgVars with ackNow := true }

lemma forwardData (fuel : ℕ) (cut : TCPSegment) :
    EndsIn errors holds (forwardData env cut fuel c) := by
  induction fuel generalizing c with
  | zero => exact closed.elsewhere nofun
  | succ fuel ih =>
    unfold TCPConnection.forwardData
    refine closed.leaf (VirtualDataRcvQueue.extractBytesUpTo_fails _) fun result _ => ?_
    rcases result with ⟨byteLength, queue⟩
    have extracted := closed.received kept { c.toRcvStreamVars with receiveQueue := queue }
      c.toRcvWndVars c.toRcvSackVars rfl
    cases byteLength with
    | none => exact extracted
    | some byteLength => exact ih (closed.toApp (closed.algVars extracted _) _)

lemma passEarlyFin : EndsIn errors (fun result => holds result.2) (c.passEarlyFin ev) := by
  unfold TCPConnection.passEarlyFin
  split
  · exact closed.passFin kept _
  · exact kept

lemma insertText (cut : TCPSegment) : EndsIn errors holds (c.insertText cut) := by
  refine closed.leaf (VirtualDataRcvQueue.insertBytesFromSegment_fails _) fun queue _ => ?_
  exact closed.received kept { c.toRcvStreamVars with receiveQueue := queue, rcvNxt := queue.rcvNxt }
    c.toRcvWndVars c.toRcvSackVars rfl

lemma noteOutOfOrder (oldUsedRcvBuffer : UInt32) (cut : TCPSegment) :
    holds (noteOutOfOrder oldUsedRcvBuffer cut c) := by
  unfold TCPConnection.noteOutOfOrder
  have noted := closed.counted kept c.rcvNaseg (c.rcvOooseg + 1) c.tcpRcvQueueDrops
  exact ite_of (closed.received noted c.toRcvStreamVars c.toRcvWndVars _ rfl) noted

lemma deliverText (oldRcvNxt oldUsedRcvBuffer : UInt32) (cut : TCPSegment) :
    EndsIn errors (fun result => holds result.2)
      (deliverText env oldRcvNxt oldUsedRcvBuffer cut ev c) := by
  unfold TCPConnection.deliverText
  split
  · exact (closed.callback (closed.noteOutOfOrder kept _ _) _).bind fun d kept => kept
  · exact (closed.forwardData kept _ _).bind fun d kept => closed.passEarlyFin kept

lemma notifyEarlierAck (oldSndUna : UInt32) :
    EndsIn errors holds (notifyEarlierAck env oldSndUna c) := by
  unfold TCPConnection.notifyEarlierAck
  split
  · exact closed.notifyDataAck kept _
  · exact kept

lemma processText (oldSndUna : UInt32) (text : TCPSegment) :
    EndsIn errors (fun phase => holds phase.connection)
      (processText env oldSndUna text ev c) := by
  unfold TCPConnection.processText
  split
  · unfold acceptText
    refine closed.leaf (TCPSegment.truncateSegment_fails _ _) fun cut _ => ?_
    have noted : holds (c.noteText text) := closed.algVars kept _
    have updated : holds (c.noteText text).updateRcvQueueVars := closed.received noted _ _ _ rfl
    dsimp only
    split
    · refine EndsIn.bind (closed.insertText updated cut) fun d kept => ?_
      refine EndsIn.bind (closed.notifyEarlierAck kept oldSndUna) fun e kept => ?_
      exact EndsIn.bind (closed.deliverText kept _ _ _) fun result kept => kept
    · exact closed.counted updated _ _ _
  · exact kept

lemma processFinBit (cut : TCPSegment) :
    EndsIn errors (fun result => holds result.2) (processFinBit cut ev c) := by
  unfold TCPConnection.processFinBit
  dsimp only
  split
  · have noted : holds { c with ackNow := true } := closed.algVars kept _
    split
    · exact closed.passFin noted _
    · exact closed.finSeen noted _ _ c.finPassed
  · exact kept

lemma acknowledgeProgress (oldRcvNxt : UInt32) (cut : TCPSegment) :
    EndsIn errors holds (acknowledgeProgress env oldRcvNxt cut c) := by
  unfold TCPConnection.acknowledgeProgress
  split
  · exact kept
  · refine closed.callback (ite_of ?_ kept) _
    have noted := closed.algVars kept { c.toAlgVars with ackNow := true }
    exact closed.received noted c.toRcvStreamVars c.toRcvWndVars _ rfl

lemma processSegment7thThru8th (oldSndUna oldSndNxt : UInt32) (text : TCPSegment) :
    EndsIn errors (fun result => holds result.2)
      (processSegment7thThru8th env oldSndUna oldSndNxt text ev c) := by
  unfold TCPConnection.processSegment7thThru8th
  refine (closed.processText kept oldSndUna text).bind fun phase kept => ?_
  cases phase with
  | stop ev d => exact kept
  | go cut ev d =>
    refine EndsIn.bind (closed.processFinBit (c := d) kept cut) fun result kept => ?_
    exact (closed.acknowledgeProgress kept _ _).bind fun e kept => kept

lemma processSegment5th (oldSndUna : UInt32) :
    EndsIn errors (fun result => holds result.2)
      (processSegment5th env oldSndUna seg ev c) := by
  unfold TCPConnection.processSegment5th
  refine (closed.processAck kept).bind fun ⟨goOn, d⟩ kept => ?_
  cases goOn with
  | false => exact kept
  | true =>
    refine EndsIn.bind (closed.afterAck kept) fun phase kept => ?_
    cases phase with
    | stop ev e => exact kept
    | go text ev e => exact closed.processSegment7thThru8th kept _ _ text

lemma processSegmentInSynRcvd :
    EndsIn errors (fun result => holds result.2) (processSegmentInSynRcvd env seg c) := by
  unfold TCPConnection.processSegmentInSynRcvd
  split
  · refine EndsIn.bind (closed.callback kept _) fun d kept => ?_
    exact closed.processSegment5th (closed.toApp kept _) _
  · exact closed.sendRst kept _

lemma processSegment1stThru8th :
    EndsIn errors (fun result => holds result.2) (processSegment1stThru8th env seg c) := by
  unfold TCPConnection.processSegment1stThru8th
  refine (closed.checkSequenceNumber kept).bind fun ⟨acceptable, d⟩ kept => ?_
  dsimp only
  split
  · unfold processSegment2ndThru8th
    split
    · exact closed.processRst kept
    split
    · exact closed.assert (by decide) fun _ => closed.toApp kept _
    split
    · exact kept
    split
    · exact closed.processSegmentInSynRcvd kept
    · exact closed.processSegment5th kept _
  · exact (closed.notAcceptable kept).bind fun e kept => kept

end ArrivalClosed

/-- The ways in which a SYN that is accepted touches its connection keep `holds`. -/
structure HandshakeClosed (env : Env) (tcpseg : TCPSegment) (errors : TcpError → Prop)
    (holds : TCPConnection → Prop) : Prop extends ArrivalClosed env tcpseg errors holds where
  ports : ∀ {c}, holds c → holds { c with
    localPort := some tcpseg.destPort, remotePort := some tcpseg.srcPort }
  synRexmitCount : ∀ {c}, holds c → ∀ count, holds { c with synRexmitCount := count }
  sendSynAck : ∀ {c}, holds c → EndsIn errors holds (sendSynAck env c)
  /-- The SYN+ACK of a simultaneous open. -/
  reopen : ∀ {c}, holds c → EndsIn errors holds
    (TCPConnection.sendSynAck env { c with sndMax := c.iss, sndNxt := c.iss })
  takeSynAck : ∀ {c}, holds c →
    ¬ (seqLE tcpseg.ackNo c.iss ∨ seqGreater tcpseg.ackNo c.sndNxt) →
    ∀ sendQueue rexmitQueue, c.sendQueue.discardUpTo tcpseg.ackNo = .ok sendQueue →
      c.discardSent tcpseg.ackNo = .ok rexmitQueue →
      holds { c with
        sndUna := tcpseg.ackNo, sendQueue := sendQueue, rexmitQueue := rexmitQueue }

namespace HandshakeClosed

variable {errors : TcpError → Prop} {holds : TCPConnection → Prop}
  (closed : HandshakeClosed env seg errors holds)

include closed

lemma receiveSyn (kept : holds c) : holds (c.receiveSyn seg) := by
  have passed := closed.finSeen kept c.finRcvd c.rcvFinSeq none
  exact closed.received passed (c.receiveSyn seg).toRcvStreamVars
    (c.receiveSyn seg).toRcvWndVars c.toRcvSackVars rfl

lemma readSynOptions (kept : holds c) : EndsIn errors holds (readSynOptions seg c) := by
  unfold TCPConnection.readSynOptions
  split
  · exact closed.readHeaderOptions kept
  · exact kept

lemma acceptSynText (kept : holds c) (ev : TCPEventCode) :
    EndsIn errors (fun result => holds result.2) (acceptSynText ev seg c) := by
  unfold TCPConnection.acceptSynText
  split
  · have updated : holds c.updateRcvQueueVars := closed.received kept _ _ _ rfl
    dsimp only
    split
    · refine closed.leaf (VirtualDataRcvQueue.insertBytesFromSegment_fails _) fun queue _ => ?_
      exact closed.received updated { c.toRcvStreamVars with receiveQueue := queue }
        c.updateRcvQueueVars.toRcvWndVars c.toRcvSackVars rfl
    · exact closed.counted updated _ _ _
  · exact kept

lemma startSynRexmitTimer (kept : holds c) : holds c.startSynRexmitTimer :=
  closed.timers (closed.synRexmitCount kept 0) _

lemma acceptSyn (selected : EndsIn errors holds do
      let c ← takeForeignSocket seg c
      selectInitialSeqNum env (c.receiveSyn seg)) :
    EndsIn errors (fun result => holds result.2) (acceptSyn env seg c) := by
  unfold TCPConnection.acceptSyn
  rw [← bind_assoc]
  refine selected.bind fun c₂ kept => ?_
  refine EndsIn.bind (closed.readSynOptions (closed.updateWndInfo kept true)) fun c₃ kept => ?_
  have kept := closed.algVars kept { c₃.toAlgVars with ackNow := true }
  refine EndsIn.bind (closed.sendSynAck kept) fun c₄ kept => ?_
  exact closed.acceptSynText (closed.timers (closed.startSynRexmitTimer kept) _) .rcvSyn

lemma acceptSynAckField (kept : holds c) (acceptable : ¬ (seg.ackBit = true ∧
      (seqLE seg.ackNo c.iss ∨ seqGreater seg.ackNo c.sndNxt))) :
    EndsIn errors holds (acceptSynAckField seg c) := by
  unfold TCPConnection.acceptSynAckField
  split
  case isTrue ack =>
    refine closed.leaf (VirtualDataSendQueue.discardUpTo_fails _) fun sendQueue discarded => ?_
    refine closed.leaf (discardSent_fails _) fun rexmitQueue discardedSent => ?_
    exact closed.updateWndInfo (closed.takeSynAck kept (fun bad => acceptable ⟨ack, bad⟩)
      sendQueue rexmitQueue discarded discardedSent) true
  case isFalse => exact kept

lemma establishActively (kept : holds c) :
    EndsIn errors (fun result => holds result.2) (establishActively env seg c) := by
  unfold TCPConnection.establishActively
  refine (closed.acceptSynText kept _).bind fun ⟨ev, d⟩ kept => ?_
  split
  case h_1 same =>
    cases same
    exact kept
  case h_2 same =>
    cases same
    refine EndsIn.bind (closed.readSynOptions kept) fun e kept => ?_
    refine EndsIn.bind (closed.callback (closed.algVars kept _) _) fun f kept => ?_
    exact closed.toApp kept _

lemma acceptSynInSynSent (kept : holds c) (acceptable : ¬ (seg.ackBit = true ∧
      (seqLE seg.ackNo c.iss ∨ seqGreater seg.ackNo c.sndNxt))) :
    EndsIn errors (fun result => holds result.2) (acceptSynInSynSent env seg c) := by
  unfold TCPConnection.acceptSynInSynSent
  refine EndsIn.bind (closed.acceptSynAckField (closed.receiveSyn kept) acceptable) fun d kept => ?_
  have kept := closed.ports kept
  dsimp only
  split
  · exact closed.establishActively kept
  · unfold openSimultaneously
    refine EndsIn.bind (closed.reopen kept) fun e kept => ?_
    exact closed.acceptSynText (closed.startSynRexmitTimer kept) .rcvSyn

end HandshakeClosed

/-! ## Events -/

/-- The events that do more to the sending side: opening, handshake, and the commands that queue
data or end the stream. -/
structure EventClosed (env : Env) (input : TcpInput) (errors : TcpError → Prop)
    (holds : TCPConnection → Prop) (c : TCPConnection) : Prop where
  arrival : ∀ tcpseg, ArrivalClosed env tcpseg errors holds
  queueLimit : ∀ {c}, holds c → ∀ limit, holds { c with sendQueueLimit := limit }
  queueUpdate : ∀ {c}, holds c → ∀ update, holds { c with queueUpdate := update }
  synRexmitCount : ∀ {c}, holds c → ∀ count, holds { c with synRexmitCount := count }
  resendSyn : ∀ {c}, holds c → EndsIn errors holds (resendSyn env c)
  openActive : ∀ {localPort remotePort}, input = .command (.openActive localPort remotePort) →
    EndsIn errors (fun result => holds result.2) (processOpenActive env localPort remotePort c)
  openPassive : ∀ {localPort fork}, input = .command (.openPassive localPort fork) →
    EndsIn errors (fun result => holds result.2) (processOpenPassive localPort fork c)
  send : ∀ {byteLength}, input = .command (.send byteLength) →
    EndsIn errors holds (sendInState env byteLength c)
  close : input = .command .close →
    EndsIn errors (fun result => holds result.2) (closeSending env c)
  acceptSyn : ∀ {tcpseg}, input = .segment tcpseg → c.fsm = .listen → opens tcpseg = true →
    EndsIn errors (fun result => holds result.2) (acceptSyn env tcpseg c)
  acceptSynInSynSent : ∀ {tcpseg}, input = .segment tcpseg → c.fsm = .synSent →
    tcpseg.rstBit = false → tcpseg.synBit = true →
    ¬ (tcpseg.ackBit = true ∧ (seqLE tcpseg.ackNo c.iss ∨ seqGreater tcpseg.ackNo c.sndNxt)) →
    EndsIn errors (fun result => holds result.2) (acceptSynInSynSent env tcpseg c)
  sendRstTo : ∀ {c}, holds c → ∀ srcPort destPort seq, holds (sendRstTo srcPort destPort seq c)
  resizeBuffer : ∀ {c}, holds c → ∀ maxRcvBuffer, holds { c with
    maxRcvBuffer := maxRcvBuffer, maxRcvBufferChanged := true }

namespace EventClosed

variable {input : TcpInput} {errors : TcpError → Prop} {holds : TCPConnection → Prop}
  (closed : EventClosed env input errors holds c)

include closed

lemma processCommand (kept : holds c) {command : AppCommand}
    (input_eq : input = .command command) :
    EndsIn errors (fun result => holds result.2) (processCommand env command c) := by
  have arrival := closed.arrival {}
  unfold TCPConnection.processCommand
  cases command with
  | openActive localPort remotePort => exact closed.openActive input_eq
  | openPassive localPort fork => exact closed.openPassive input_eq
  | send byteLength =>
    unfold processSend
    refine EndsIn.bind (closed.send input_eq) fun d kept => ?_
    exact ite_of (closed.queueUpdate kept _) kept
  | close =>
    unfold processClose
    dsimp only
    split
    iterate 2 exact kept
    iterate 3 exact closed.close input_eq
    all_goals exact arrival.elsewhere nofun
  | abort =>
    unfold processAbort
    dsimp only
    split
    · exact arrival.elsewhere nofun
    iterate 5 exact arrival.sendRst kept _
    all_goals exact kept
  | status =>
    dsimp only
    split
    · exact arrival.elsewhere nofun
    · exact arrival.toApp kept _
  | queueBytesLimit limit =>
    dsimp only
    split
    · exact arrival.elsewhere nofun
    · exact closed.queueLimit kept _

lemma processRcvSegment (kept : holds c) {seg : TCPSegment} (input_eq : input = .segment seg) :
    EndsIn errors (fun result => holds result.2) (processRcvSegment env seg c) := by
  have arrival := closed.arrival seg
  unfold TCPConnection.processRcvSegment
  split
  · exact arrival.elsewhere nofun
  case h_2 listen =>
    unfold processSegmentInListen
    split
    · exact kept
    split
    · exact closed.sendRstTo kept _ _ _
    split
    case isTrue syn =>
      refine closed.acceptSyn input_eq listen ?_
      simp_all [opens]
    case isFalse => exact kept
  case h_3 synSent =>
    unfold processSegmentInSynSent
    split
    · exact ite_of (P := holds) kept (closed.sendRstTo kept _ _ _)
    case isFalse acceptable =>
      split
      · split
        · exact arrival.toApp kept _
        · exact kept
      case isFalse noRst =>
        split
        case isTrue syn =>
          exact closed.acceptSynInSynSent input_eq synSent (Bool.eq_false_iff.mpr noRst) syn
            acceptable
        case isFalse => exact kept
  · exact arrival.processSegment1stThru8th kept

lemma processTimer (kept : holds c) (timer : ConnTimer) :
    EndsIn errors (fun result => holds result.2) (processTimer env timer c) := by
  have arrival := closed.arrival {}
  unfold TCPConnection.processTimer
  cases timer with
  | the2MSL =>
    have kept := arrival.timers kept { c.timers with the2MSL := false }
    unfold processTimeout2MSL
    dsimp only
    split
    · exact kept
    · exact arrival.elsewhere nofun
  | connEstab =>
    have kept := arrival.timers kept { c.timers with connEstab := false }
    unfold processTimeoutConnEstab
    dsimp only
    split
    iterate 2 exact ite_of (P := holds) (arrival.toApp kept _) kept
    exact arrival.elsewhere nofun
  | finWait2 =>
    have kept := arrival.timers kept { c.timers with finWait2 := false }
    unfold processTimeoutFinWait2
    dsimp only
    split
    · exact kept
    · exact arrival.elsewhere nofun
  | synRexmit =>
    have kept := arrival.timers kept { c.timers with synRexmit := false }
    have kept := closed.synRexmitCount kept (c.synRexmitCount + 1)
    unfold processTimeoutSynRexmit
    dsimp only
    split
    · exact kept
    · refine EndsIn.bind (closed.resendSyn kept) fun d kept => ?_
      exact arrival.leaf (scheduled_fails _) fun synRexmit _ => arrival.timers kept _

lemma process (kept : holds c) :
    EndsIn errors (fun result => holds result.2) (process env input c) := by
  have arrival := closed.arrival {}
  unfold TCPConnection.process
  cases input with
  | command command => exact closed.processCommand kept rfl
  | segment seg => exact closed.processRcvSegment kept rfl
  | timer timer => exact closed.processTimer kept timer
  | algTimer timer =>
    unfold processAlgTimer
    exact EndsIn.bind (arrival.callback kept _) fun d kept => kept
  | resizeBuffer maxRcvBuffer =>
    dsimp only
    split
    · exact arrival.elsewhere nofun
    · exact closed.resizeBuffer kept _

end EventClosed

end Inet.Tcp.TCPConnection
