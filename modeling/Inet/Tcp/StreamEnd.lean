import Inet.Tcp.ArrivalFrame
import Inet.Tcp.Closing

/-!
# The end of the outgoing stream

A CLOSE notes the end of the send queue in `snd_fin_seq`, and every FIN that goes out stands there
or at the end of the queue. These are the same unless `process_SEND` queues behind a CLOSE whose FIN
was deferred.
-/

namespace Inet.Tcp.TCPConnection

open Inet.Except

variable {env : Env} {input : TcpInput} {c c' : TCPConnection} {before : List TCPSegment}

/-- Once `send_fin` is set, `snd_fin_seq` is the end of the send queue. -/
def EndsStream (c : TCPConnection) : Prop :=
  c.sendFin = true → c.sndFinSeq = c.sendQueue.getBufferEndSeq

/-- What has been sent beyond `before` has its FIN at the end of the send queue. -/
def SentFinsAtEnd (before : List TCPSegment) (c : TCPConnection) : Prop :=
  ∃ new, c.sent = before ++ new ∧
    ∀ tcpseg ∈ new, tcpseg.finBit = true → tcpseg.endSequenceNo = c.sendQueue.getBufferEndSeq

/-- The stream ends where the FIN is noted, and where FINs have been sent. -/
structure StreamEnds (before : List TCPSegment) (c : TCPConnection) : Prop where
  fin : EndsStream c
  sent : SentFinsAtEnd before c

namespace StreamEnds

lemma congr {d : TCPConnection} (ends : StreamEnds before c) (sendFin : d.sendFin = c.sendFin)
    (sndFinSeq : d.sndFinSeq = c.sndFinSeq) (sendQueue : d.sendQueue.end = c.sendQueue.end)
    (sent : d.sent = c.sent) : StreamEnds before d := by
  refine ⟨?_, ?_⟩
  · unfold EndsStream VirtualDataSendQueue.getBufferEndSeq
    rw [sendFin, sndFinSeq, sendQueue]
    exact ends.fin
  · unfold SentFinsAtEnd VirtualDataSendQueue.getBufferEndSeq
    rw [sendQueue, sent]
    exact ends.sent

lemma emit {tcpseg : TCPSegment} (ends : StreamEnds before c) (placed : FinPlaced tcpseg c) :
    StreamEnds before { c with sent := c.sent ++ [tcpseg] } := by
  refine ⟨ends.fin, ?_⟩
  obtain ⟨new, sent, atEnd⟩ := ends.sent
  refine ⟨new ++ [tcpseg], by rw [sent, List.append_assoc], fun other mem set => ?_⟩
  rcases List.mem_append.mp mem with mem | mem
  · exact atEnd other mem set
  · obtain rfl := List.mem_singleton.mp mem
    rcases placed set with queueEnd | ⟨sendFin, noted⟩
    · exact queueEnd
    · exact noted.trans (ends.fin sendFin)

lemma of_noFin (ends : EndsStream c) (new : List TCPSegment) (sent : c.sent = before ++ new)
    (noFin : ∀ tcpseg ∈ new, tcpseg.finBit = false) : StreamEnds before c := by
  refine ⟨ends, new, sent, fun tcpseg mem set => ?_⟩
  rw [noFin tcpseg mem] at set
  cases set

lemma writeHeaderOptions {tcpseg tcpseg' : TCPSegment} (ends : StreamEnds before c)
    (ok : TCPConnection.writeHeaderOptions env tcpseg c = .ok (tcpseg', c')) :
    StreamEnds before c' := by
  have written := writeHeaderOptions_written ok
  have inputVars : c'.toInputVars = c.toInputVars := written.inputVars
  have outputVars : c'.toOutputVars = c.toOutputVars := written.outputVars
  refine ends.congr ?_ ?_ ?_ ?_
  iterate 3 rw [inputVars]
  rw [outputVars]

lemma of_unsent (ends : EndsStream c) (unsent : c.sent = before) : StreamEnds before c :=
  of_noFin ends [] (by rw [unsent, List.append_nil]) fun _ mem => nomatch mem

end StreamEnds

lemma sendClosed_streamEnds (env : Env) (before : List TCPSegment) :
    SynClosed env (fun _ => True) (fun _ => True) (StreamEnds before) where
  elsewhere _ := trivial
  noOptions := trivial
  algVars kept _ := kept.congr rfl rfl rfl rfl
  sendVars kept _ := kept.congr rfl rfl rfl rfl
  scoreboardVars kept _ := kept.congr rfl rfl rfl rfl
  toApp kept _ := kept.congr rfl rfl rfl rfl
  updateRcvWnd {c} kept := by
    refine .of_forall (fun ⟨window, d⟩ ok => ?_) fun _ _ => trivial
    have same := (updateRcvWnd_eq ok).1
    dsimp only
    rw [same]
    exact kept.congr rfl rfl rfl rfl
  writeHeaderOptions {c tcpseg} kept _ _ := by
    refine .of_forall (fun ⟨tcpseg', d⟩ ok => ⟨trivial, ?_⟩) fun _ _ => trivial
    exact kept.writeHeaderOptions ok
  emit kept _ placed _ := kept.emit placed
  writeSynHeader {c tcpseg} kept _ :=
    .of_forall (fun _ ok => kept.writeHeaderOptions ok) fun _ _ => trivial
  emitSyn kept _ noFin := kept.emit (.of_finBit noFin)

lemma discardUpTo_end {queue queue' : VirtualDataSendQueue} {seqNum : UInt32}
    (ok : queue.discardUpTo seqNum = .ok queue') : queue'.end = queue.end := by
  obtain ⟨-, ok⟩ := of_assert_bind ok
  cases ok
  rfl

lemma arrivalClosed_streamEnds (before : List TCPSegment) (tcpseg : TCPSegment) :
    ArrivalClosed env tcpseg (fun _ => True) (StreamEnds before) where
  elsewhere _ := trivial
  callback kept callback := (sendClosed_streamEnds env before).runCallback kept callback
  sendAck kept := (sendClosed_streamEnds env before).sendAck kept
  sendAckEcn kept ecn := (sendClosed_streamEnds env before).sendAckEcn kept ecn
  sendRst kept seqNo := (sendClosed_streamEnds env before).sendRstTo kept _ _ seqNo
  readHeaderOptions {c} kept := by
    refine .of_forall (fun d ok => ?_) fun _ _ => trivial
    have read := readHeaderOptions_kept ok
    refine kept.congr ?_ ?_ ?_ ?_
    iterate 2 rw [read.closeVars]
    · rw [read.sndStreamVars]
    · rw [read.outputVars]
  algVars kept _ := kept.congr rfl rfl rfl rfl
  toApp kept _ := kept.congr rfl rfl rfl rfl
  timers kept _ := kept.congr rfl rfl rfl rfl
  received kept _ _ _ _ := kept.congr rfl rfl rfl rfl
  finSeen kept _ _ _ := kept.congr rfl rfl rfl rfl
  counted kept _ _ _ := kept.congr rfl rfl rfl rfl
  sndWindow kept _ _ _ := kept.congr rfl rfl rfl rfl
  takeAck {c} kept _ vars := by
    refine .of_forall (fun d ok => ?_) fun _ _ => trivial
    obtain ⟨sendQueue, rexmitQueue, discarded, rfl⟩ := discardAcked_eq ok
    have queueEnd := discardUpTo_end discarded
    exact kept.congr rfl rfl queueEnd rfl
  flush kept _ _ discarded _ := kept.congr rfl rfl (discardUpTo_end discarded) rfl

lemma configureStateVariables_sent (ok : c.configureStateVariables = .ok c') :
    c'.toCloseVars = c.toCloseVars ∧ c'.toSndStreamVars = c.toSndStreamVars ∧
      c'.toOutputVars = c.toOutputVars := by
  obtain ⟨rcvWnd, rfl⟩ := configureStateVariables_eq ok
  exact ⟨rfl, rfl, rfl⟩

lemma handshakeClosed_streamEnds (before : List TCPSegment) (tcpseg : TCPSegment) :
    HandshakeClosed env tcpseg (fun _ => True) (StreamEnds before) where
  toArrivalClosed := arrivalClosed_streamEnds before tcpseg
  ports kept := kept.congr rfl rfl rfl rfl
  synRexmitCount kept _ := kept.congr rfl rfl rfl rfl
  sendSynAck kept := (sendClosed_streamEnds env before).sendSynAck kept
  reopen kept := (sendClosed_streamEnds env before).sendSynAck (kept.congr rfl rfl rfl rfl)
  takeSynAck kept _ _ _ discarded _ := kept.congr rfl rfl (discardUpTo_end discarded) rfl

/-- Nothing is queued behind a CLOSE, and the stream is not begun anew behind one. -/
def KeepsStreamEnd (env : Env) (input : TcpInput) (c : TCPConnection) : Prop :=
  c.sendFin = true →
    match input with
    | .command (.send byteLength) =>
        serial byteLength = 0 ∧ (c.fsm = .listen → c.sndFinSeq = env.isn + 1)
    | .segment tcpseg => c.fsm = .listen → opens tcpseg = true → c.sndFinSeq = env.isn + 1
    | _ => True

lemma selectInitialSeqNum_ends (atIsn : c.sendFin = true → c.sndFinSeq = env.isn + 1)
    (ok : selectInitialSeqNum env c = .ok c') : EndsStream c' ∧ c'.sent = c.sent := by
  obtain rfl := selectInitialSeqNum_eq ok
  exact ⟨atIsn, rfl⟩

lemma takeForeignSocket_unsent {tcpseg : TCPSegment} (ok : takeForeignSocket tcpseg c = .ok c') :
    c'.sent = c.sent := by
  rcases bind_eq_ok ok with ⟨d, fork, ok⟩
  cases ok
  unfold afterFork at fork
  split at fork
  · exact congrArg OutputVars.sent (configureStateVariables_sent fork).2.2
  · cases fork
    rfl

lemma enqueue_eq {byteLength : ℕ} (ok : enqueue byteLength c = .ok c') :
    c' = { c with sendQueue := c'.sendQueue } ∧
      c'.sendQueue.end = c.sendQueue.end + serial byteLength := by
  unfold enqueue at ok
  rcases bind_eq_ok ok with ⟨queue, queued, ok⟩
  cases ok
  unfold VirtualDataSendQueue.enqueueAppData at queued
  dsimp only at queued
  split at queued
  · cases queued
  · cases queued
    exact ⟨rfl, rfl⟩

lemma EndsStream.enqueue {byteLength : ℕ} (ends : EndsStream c)
    (nothing : c.sendFin = true → serial byteLength = 0) (ok : enqueue byteLength c = .ok c') :
    EndsStream c' := by
  obtain ⟨same, queueEnd⟩ := enqueue_eq ok
  have sendFin : c'.sendFin = c.sendFin := by rw [same]
  have sndFinSeq : c'.sndFinSeq = c.sndFinSeq := by rw [same]
  intro set
  rw [sendFin] at set
  unfold VirtualDataSendQueue.getBufferEndSeq
  rw [sndFinSeq, queueEnd, nothing set, UInt32.add_zero]
  exact ends set

lemma sendInState_ends {byteLength : ℕ} (ends : EndsStream c)
    (nothing : c.sendFin = true → serial byteLength = 0)
    (atIsn : c.fsm = .listen → c.sendFin = true → c.sndFinSeq = env.isn + 1) :
    EndsIn (fun _ => True) (StreamEnds c.sent) (sendInState env byteLength c) := by
  refine .of_forall (fun d ok => ?_) fun _ _ => trivial
  unfold sendInState at ok
  split at ok
  case h_1 listen =>
    rcases bind_eq_ok ok with ⟨c₁, select, ok⟩
    rcases bind_eq_ok ok with ⟨c₂, syn, ok⟩
    rcases bind_eq_ok ok with ⟨connEstab, -, ok⟩
    obtain ⟨ends, unsent⟩ :=
      selectInitialSeqNum_ends (c := { c with active := true }) (atIsn listen) select
    obtain ⟨tcpseg, sent, bare, -⟩ := sendSyn_sent syn
    have inputVars := sendSyn_inputVars syn
    have ends : EndsStream c₂ := by
      unfold EndsStream
      rw [inputVars]
      exact ends
    have nothing : c₂.sendFin = true → serial byteLength = 0 := by
      have sendFin : c₁.sendFin = c.sendFin := by
        rw [selectInitialSeqNum_closeVars select]
      rw [inputVars, sendFin]
      exact nothing
    have queued : EndsStream d := EndsStream.enqueue (by exact ends) (by exact nothing) ok
    refine .of_noFin queued [tcpseg] ?_ fun other mem => ?_
    · rw [(enqueue_eq ok).1]
      exact sent.trans (congrArg (· ++ [tcpseg]) unsent)
    · obtain rfl := List.mem_singleton.mp mem
      exact bare.finBit
  iterate 2
    refine .of_unsent (ends.enqueue nothing ok) ?_
    rw [(enqueue_eq ok).1]
  iterate 2
    rcases bind_eq_ok ok with ⟨c₁, queue, ok⟩
    have queued : StreamEnds c.sent c₁ :=
      .of_unsent (ends.enqueue nothing queue) (by rw [(enqueue_eq queue).1])
    exact ((sendClosed_streamEnds env c.sent).runCallback queued _).of_ok ok
  all_goals cases ok

lemma closeSending_ends (ends : EndsStream c) :
    EndsIn (fun _ => True) (fun result => StreamEnds c.sent result.2) (closeSending env c) := by
  have closed := sendClosed_streamEnds env c.sent
  have start : StreamEnds c.sent c := .of_unsent ends rfl
  have sent : EndsIn (fun _ => True) (fun result => StreamEnds c.sent result.2)
      (sendFinOrDefer env c) := by
    unfold sendFinOrDefer
    split
    case isTrue atEnd =>
      have atMax : StreamEnds c.sent { c with sndNxt := c.sndMax } := start.congr rfl rfl rfl rfl
      refine EndsIn.bind ((closed.sendFIN atMax atEnd).bind fun d kept => ?_) fun e kept => kept
      exact closed.sendVars (closed.restartRexmitTimer kept) _
    case isFalse => exact start
  refine EndsIn.bind sent fun ⟨event, d⟩ kept => ?_
  exact ⟨fun _ => rfl, kept.sent⟩

/-! ## Events -/

lemma initConnection_ends (ok : c.initConnection = .ok c') :
    c'.sendFin = false ∧ c'.sent = c.sent := by
  obtain ⟨closeVars, -, outputVars⟩ := configureStateVariables_sent ok
  refine ⟨by rw [closeVars], by rw [outputVars]⟩

lemma endsStream_of_sendFin (unset : c.sendFin = false) : EndsStream c := by
  intro set
  rw [unset] at set
  cases set

lemma processOpenActive_ends {lp remotePort : Option UInt16} :
    EndsIn (fun _ => True) (fun result => StreamEnds c.sent result.2)
      (processOpenActive env lp remotePort c) := by
  refine .of_forall (fun ⟨event, d⟩ ok => ?_) fun _ _ => trivial
  unfold processOpenActive at ok
  split at ok
  · rcases bind_eq_ok ok with ⟨c₁, init, ok⟩
    obtain ⟨unset, unsent⟩ := initConnection_ends init
    split at ok
    · cases ok
    · rcases bind_eq_ok ok with ⟨c₂, select, ok⟩
      rcases bind_eq_ok ok with ⟨c₃, syn, ok⟩
      rcases bind_eq_ok ok with ⟨connEstab, -, ok⟩
      cases ok
      obtain ⟨tcpseg, sent, bare, -⟩ := sendSyn_sent syn
      have selected : c₂.sendFin = false ∧ c₂.sent = c.sent := by
        have atIsn : c₁.sendFin = true → c₁.sndFinSeq = env.isn + 1 := fun set => by
          rw [unset] at set
          cases set
        have closeVars := selectInitialSeqNum_closeVars select
        obtain ⟨-, same⟩ := selectInitialSeqNum_ends (c := { c₁ with
          active := true
          localPort := some (lp.getD env.ephemeralPort)
          remotePort := remotePort }) atIsn select
        exact ⟨by rw [closeVars]; exact unset, same.trans unsent⟩
      have kept : c₃.sendFin = false := by
        rw [sendSyn_inputVars syn]
        exact selected.1
      refine .of_noFin (endsStream_of_sendFin kept) [tcpseg] ?_ fun other mem => ?_
      · rw [← selected.2]
        exact sent
      · obtain rfl := List.mem_singleton.mp mem
        exact bare.finBit
  · cases ok

lemma processOpenPassive_ends {lp : Option UInt16} {fork : Bool} :
    EndsIn (fun _ => True) (fun result => StreamEnds c.sent result.2)
      (processOpenPassive lp fork c) := by
  refine .of_forall (fun ⟨event, d⟩ ok => ?_) fun _ _ => trivial
  unfold processOpenPassive at ok
  split at ok
  · rcases bind_eq_ok ok with ⟨c₁, init, ok⟩
    obtain ⟨unset, unsent⟩ := initConnection_ends init
    split at ok
    · cases ok
    · cases ok
      exact .of_unsent (endsStream_of_sendFin (c := { c₁ with
        active := false, fork := fork, localPort := lp }) unset) unsent
  · cases ok

lemma eventClosed_streamEnds (ends : EndsStream c) (keeps : KeepsStreamEnd env input c) :
    EventClosed env input (fun _ => True) (StreamEnds c.sent) c where
  arrival tcpseg := arrivalClosed_streamEnds c.sent tcpseg
  queueLimit kept _ := kept.congr rfl rfl rfl rfl
  queueUpdate kept _ := kept.congr rfl rfl rfl rfl
  synRexmitCount kept _ := kept.congr rfl rfl rfl rfl
  resendSyn kept := by
    unfold resendSyn
    split
    · exact (sendClosed_streamEnds env c.sent).sendSyn kept
    · exact (sendClosed_streamEnds env c.sent).sendSynAck kept
    · trivial
  openActive _ := processOpenActive_ends
  openPassive _ := processOpenPassive_ends
  send input_eq := by
    subst input_eq
    exact sendInState_ends ends (fun set => (keeps set).1) fun listen set => (keeps set).2 listen
  close _ := closeSending_ends ends
  acceptSyn {tcpseg} input_eq listen opens := by
    subst input_eq
    refine (handshakeClosed_streamEnds c.sent tcpseg).acceptSyn ?_
    refine .of_forall (fun d ok => ?_) fun _ _ => trivial
    rcases bind_eq_ok ok with ⟨c₁, socket, select⟩
    have closeVars := takeForeignSocket_closeVars socket
    have atIsn : (c₁.receiveSyn tcpseg).sendFin = true →
        (c₁.receiveSyn tcpseg).sndFinSeq = env.isn + 1 := by
      intro set
      change c₁.sendFin = true at set
      change c₁.sndFinSeq = env.isn + 1
      rw [closeVars] at set ⊢
      exact keeps set listen opens
    obtain ⟨ends, unsent⟩ := selectInitialSeqNum_ends atIsn select
    have same : c₁.sent = c.sent := takeForeignSocket_unsent socket
    exact .of_unsent ends (unsent.trans same)
  acceptSynInSynSent {tcpseg} _ _ _ _ acceptable :=
    (handshakeClosed_streamEnds c.sent tcpseg).acceptSynInSynSent (.of_unsent ends rfl) acceptable
  sendRstTo kept srcPort destPort seq :=
    (sendClosed_streamEnds env c.sent).sendRstTo kept srcPort destPort seq
  resizeBuffer kept _ := kept.congr rfl rfl rfl rfl

lemma handle_streamEnds (ends : EndsStream c) (keeps : KeepsStreamEnd env input c)
    (ok : handle env input c = .ok c') : StreamEnds c.sent c' := by
  obtain ⟨event, d, timers, toApp, processed, -, rfl⟩ := handle_eq ok
  have kept : StreamEnds c.sent d :=
    ((eventClosed_streamEnds ends keeps).process (.of_unsent ends rfl)).of_ok processed
  exact kept.congr rfl rfl rfl rfl

lemma endsStream_of_reachable (reachable : Reachable KeepsStreamEnd c) : EndsStream c := by
  refine reachable.invariant ?_ ?_
  · intro c begun
    cases begun with
    | new par => exact endsStream_of_sendFin rfl
    | listeningClone c => exact endsStream_of_sendFin rfl
  · intro c c' ends step
    cases step with
    | handle env input _ keeps handled => exact (handle_streamEnds ends keeps handled).fin

/-- In a run in which nothing is queued behind a CLOSE, `snd_fin_seq` is the end of the
send queue, and there every FIN is sent. -/
theorem fin_ends_stream (reachable : Reachable KeepsStreamEnd c) :
    EndsStream c ∧ ∀ env input c', KeepsStreamEnd env input c → handle env input c = .ok c' →
      SentFinsAtEnd c.sent c' := by
  have ends := endsStream_of_reachable reachable
  exact ⟨ends, fun env input c' keeps ok => (handle_streamEnds ends keeps ok).sent⟩

/-- A server of 2000 octets is closed after it has sent the first 1000, and then queues
1000 octets more. -/
def sendAfterClose : List (Env × TcpInput) :=
  openServer 65535 ++
  [(renoAt 3, .command (.send 2000)), (renoAt 4, .command .close),
   (renoAt 5, .command (.send 1000))]

/-- The second SEND is accepted, in ESTABLISHED, and the FIN stays where it was. -/
theorem stream_continues_after_close : ¬ ∀ c, Reachable Unrestricted c → EndsStream c := by
  intro ends
  have behind : (run Unrestricted sendAfterClose (new serverPar)).any
      (fun c => c.sendFin ∧ c.sndFinSeq = 2001 ∧ c.sendQueue.end = 3001) = true := by
    decide +kernel
  obtain ⟨c, reachable, test⟩ := exists_reachable behind
  obtain ⟨sendFin, noted, queueEnd⟩ := of_decide_eq_true test
  have same := ends c reachable sendFin
  rw [noted, VirtualDataSendQueue.getBufferEndSeq, queueEnd] at same
  cases same

instance (env : Env) (input : TcpInput) (c : TCPConnection) :
    Decidable (KeepsStreamEnd env input c) := by
  unfold KeepsStreamEnd
  cases input with
  | command command => cases command <;> infer_instance
  | segment tcpseg => infer_instance
  | timer timer => infer_instance
  | algTimer timer => infer_instance
  | resizeBuffer maxRcvBuffer => infer_instance

/-- Without the second SEND the deferred FIN waits at the end of the queue. -/
theorem fin_ends_stream_deferred :
    ∃ c, Reachable KeepsStreamEnd c ∧ c.sendFin = true ∧
      EndsStream c ∧ ∀ env input c', KeepsStreamEnd env input c → handle env input c = .ok c' →
        SentFinsAtEnd c.sent c' := by
  have deferred : (run KeepsStreamEnd (openServer 65535 ++
      [(renoAt 3, .command (.send 2000)), (renoAt 4, .command .close)]) (new serverPar)).any
      (fun c => c.sendFin) = true := by
    decide +kernel
  obtain ⟨c, reachable, sendFin⟩ := exists_reachable deferred
  exact ⟨c, reachable, sendFin, fin_ends_stream reachable⟩

end Inet.Tcp.TCPConnection
