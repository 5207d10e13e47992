import Inet.Tcp.Closing

/-!
# The segment that is sent

What `sendSegment` puts on the wire and what it does to the variables of the sender.
-/

namespace Inet.Tcp.TCPConnection

open Inet.Except

variable {env : Env} {c c' d : TCPConnection} {bs optionsLen : UInt32} {tcpseg : TCPSegment}

/-- The octets that the header options of the next data segment take. -/
def optionsOctets (env : Env) (c : TCPConnection) : Except TcpError UInt32 :=
  (writeHeaderOptions env { ackBit := true } c).map fun written =>
    serial (written.1.headerLength - TCP_HEADER_OCTETS)

lemma forwardSndNxt_eq (ok : c.forwardSndNxt = .ok d) : d = { c with sndNxt := d.sndNxt } := by
  unfold forwardSndNxt at ok
  split at ok
  · rcases bind_eq_ok ok with ⟨forward, -, ok⟩
    cases ok
    rfl
  · cases ok
    rfl

/-- `c'` is `c` after a segment of `bytes` octets at most has been sent; `d` is `c` with
`snd_nxt` where the segment begins. -/
structure SegmentSent (env : Env) (bytes : UInt32) (c d : TCPConnection) (optionsLen : UInt32)
    (tcpseg : TCPSegment) (c' : TCPConnection) : Prop where
  forwarded : c.forwardSndNxt = .ok d
  options : optionsOctets env d = .ok optionsLen
  room : optionsLen < c.sndMss
  optionsShort : optionsLen.toNat ≤ 40
  sequenceNo : tcpseg.sequenceNo = d.sndNxt
  payloadLength : tcpseg.payloadLength = (d.segmentBytes bytes optionsLen).toNat
  sent : c'.sent = c.sent ++ [tcpseg]
  sentBytes : c'.sentBytes = d.segmentBytes bytes optionsLen
  enqueued : c.sackEnabled = true → d.segmentBytes bytes optionsLen ≠ 0
  inputVars : c'.toInputVars = c.toInputVars
  sndMax : c'.sndMax = c.sndMax
  afterRto : c'.afterRto = (c.afterRto &&
    !decide (seqGE (d.sndNxt + d.segmentBytes bytes optionsLen) c.sndMax))

lemma writeHeaderOptions_sackEnabled {tcpseg' : TCPSegment} (noSyn : tcpseg.synBit = false)
    (ok : writeHeaderOptions env tcpseg c = .ok (tcpseg', c')) :
    c'.sackEnabled = c.sackEnabled := by
  unfold writeHeaderOptions at ok
  rcases bind_eq_ok ok with ⟨⟨middle, d⟩, first, ok⟩
  have written : (writeChangedBuffer middle d).2 = c' := congrArg Prod.snd (Except.ok.inj ok)
  have changed : (writeChangedBuffer middle d).2.sackEnabled = d.sackEnabled := by
    simp only [writeChangedBuffer, writeWindowScale]
    split_ifs <;> rfl
  rw [← written, changed]
  unfold writeStateOptions carriesSynOptions at first
  rw [noSyn, Bool.false_and, if_neg Bool.false_ne_true] at first
  split at first
  · unfold writeDataOptions at first
    split at first
    · rw [addSacks_eq first]
    · cases first
      rfl
  · cases first
    rfl

lemma segmentBytes_congr (sendQueue : c'.sendQueue = c.sendQueue) (sndNxt : c'.sndNxt = c.sndNxt)
    (sndMss : c'.sndMss = c.sndMss) :
    c'.segmentBytes bs optionsLen = c.segmentBytes bs optionsLen := by
  unfold segmentBytes
  rw [sendQueue, sndNxt, sndMss]

lemma enqueueRexmit_ne_zero (enabled : c.sackEnabled = true)
    (ok : c.enqueueRexmit bs = .ok c') : bs ≠ 0 := by
  rintro rfl
  unfold enqueueRexmit at ok
  rw [if_pos enabled] at ok
  rcases bind_eq_ok ok with ⟨queue, enqueued, -⟩
  unfold TCPSACKRexmitQueue.enqueueSentData at enqueued
  obtain ⟨-, enqueued⟩ := of_assert_bind enqueued
  obtain ⟨less, -⟩ := of_assert_bind enqueued
  rw [UInt32.add_zero] at less
  exact not_seqLess_self _ less

lemma requestMoreData_frame :
    c.requestMoreData.toInputVars = c.toInputVars ∧ c.requestMoreData.sent = c.sent ∧
      c.requestMoreData.sentBytes = c.sentBytes ∧ c.requestMoreData.sndMax = c.sndMax ∧
      c.requestMoreData.sndNxt = c.sndNxt ∧ c.requestMoreData.toAlgVars = c.toAlgVars := by
  simp only [requestMoreData]
  split_ifs <;> exact ⟨rfl, rfl, rfl, rfl, rfl, rfl⟩

lemma advanceSndNxt_frame (bs : UInt32) :
    (c.advanceSndNxt bs).sent = c.sent ∧ (c.advanceSndNxt bs).sndMax = c.sndMax ∧
      (c.advanceSndNxt bs).afterRto = (c.afterRto && !decide (seqGE (c.sndNxt + bs) c.sndMax)) := by
  simp only [advanceSndNxt]
  split_ifs with passed <;> simp_all

lemma sendSegment_sent (ok : sendSegment env bs c = .ok c') :
    ∃ d optionsLen tcpseg, SegmentSent env bs c d optionsLen tcpseg c' := by
  unfold sendSegment at ok
  rcases bind_eq_ok ok with ⟨d, forwarded, ok⟩
  rcases bind_eq_ok ok with ⟨⟨tcpsegTemp, e⟩, written, ok⟩
  dsimp only at ok
  obtain ⟨room, ok⟩ := of_assert_bind ok
  rcases bind_eq_ok ok with ⟨created, create, ok⟩
  rcases bind_eq_ok ok with ⟨f, enqueued, ok⟩
  rcases bind_eq_ok ok with ⟨⟨window, g⟩, updated, ok⟩
  rcases bind_eq_ok ok with ⟨h, sent, ok⟩
  obtain rfl := Except.ok.inj ok
  have dEq := forwardSndNxt_eq forwarded
  have options := writeHeaderOptions_written written
  have fEq := enqueueRexmit_eq enqueued
  have gEq := (updateRcvWnd_eq updated).1
  have inputVars : g.toInputVars = c.toInputVars := by
    rw [gEq, fEq]
    exact options.inputVars.trans (by rw [dEq])
  have sendVars : g.toSendVars = d.toSendVars := by
    rw [gEq, fEq]
    exact options.sendVars
  have algVars : g.toAlgVars = c.toAlgVars := by
    rw [gEq, fEq]
    exact options.algVars.trans (by rw [dEq])
  have outputVars : g.sent = c.sent := by
    rw [gEq, fEq]
    exact (congrArg OutputVars.sent options.outputVars).trans (by rw [dEq])
  have enabled : e.sackEnabled = c.sackEnabled := by
    rw [writeHeaderOptions_sackEnabled rfl written, dEq]
  have sndMss : e.sndMss = c.sndMss := by
    rw [options.inputVars, dEq]
  have same : e.segmentBytes bs (serial (tcpsegTemp.headerLength - TCP_HEADER_OCTETS)) =
      d.segmentBytes bs (serial (tcpsegTemp.headerLength - TCP_HEADER_OCTETS)) :=
    segmentBytes_congr (by rw [options.inputVars]) (by rw [options.sendVars])
      (by rw [options.inputVars])
  have optionsShort : (serial (tcpsegTemp.headerLength - TCP_HEADER_OCTETS)).toNat ≤ 40 := by
    obtain ⟨-, rest⟩ := of_assert_bind sent
    obtain ⟨short, -⟩ := of_assert_bind rest
    change tcpsegTemp.headerLength ≤ 60 at short
    rw [toNat_serial]
    refine (Nat.mod_le ..).trans ?_
    unfold TCP_HEADER_OCTETS
    omega
  generalize lenEq : serial (tcpsegTemp.headerLength - TCP_HEADER_OCTETS) = optionsLen at *
  rw [same] at create enqueued sent
  generalize nEq : d.segmentBytes bs optionsLen = n at *
  have created := createSegmentWithBytes_eq create
  have advanced := advanceSndNxt_frame (c := g) n
  have inputs := advanceSndNxt_inputVars (c := g) n
  have more := requestMoreData_frame (c := h)
  have hEq := sendToIP_eq sent
  obtain ⟨tcpseg, emitted, sequenceNo, payloadLength⟩ : ∃ tcpseg, h.sent = c.sent ++ [tcpseg] ∧
      tcpseg.sequenceNo = d.sndNxt ∧ tcpseg.payloadLength = n.toNat := by
    rw [hEq, created, ← outputVars, ← advanced.1]
    exact ⟨_, rfl, congrArg SendVars.sndNxt options.sendVars, rfl⟩
  have sentBytes : h.sentBytes = n := by
    rw [hEq, created]
    exact serial_toNat n
  have kept : h.toInputVars = (g.advanceSndNxt n).toInputVars ∧
      h.sndMax = (g.advanceSndNxt n).sndMax ∧ h.toAlgVars = (g.advanceSndNxt n).toAlgVars := by
    rw [hEq]
    exact ⟨rfl, rfl, rfl⟩
  refine ⟨d, optionsLen, tcpseg, ?_⟩
  exact {
    forwarded := forwarded
    options := by
      unfold optionsOctets
      rw [written]
      exact congrArg Except.ok lenEq
    room := sndMss ▸ room
    optionsShort := optionsShort
    sequenceNo := sequenceNo
    payloadLength := by rw [nEq, payloadLength]
    sent := more.2.1.trans emitted
    sentBytes := by rw [more.2.2.1, sentBytes, nEq]
    enqueued := fun sack => by
      rw [nEq]
      exact enqueueRexmit_ne_zero (enabled.trans sack) enqueued
    inputVars := by rw [more.1, kept.1, inputs, inputVars]
    sndMax := by
      rw [more.2.2.2.1, kept.2.1, advanced.2.1, sendVars, dEq]
    afterRto := by
      rw [more.2.2.2.2.2, kept.2.2, advanced.2.2, algVars, sendVars, nEq, dEq] }

/-! ## Limited transmit after a retransmission timeout -/

variable {env : Env} {c c' : TCPConnection} {congestionWindow : UInt32} {fullSegmentsOnly : Bool}

/-- Being told of what was sent, the algorithm leaves `afterRto` alone. -/
structure KeepsAfterRto (alg : TCPAlgorithm) : Prop where
  ackSent : ∀ c, (alg.ackSent c).afterRto = c.afterRto
  dataSent : ∀ fromseq c, (alg.dataSent fromseq c).afterRto = c.afterRto

lemma tcpReno_keepsAfterRto (now rto : ℕ) : KeepsAfterRto (tcpReno now rto) where
  ackSent _ := rfl
  dataSent fromseq c := by
    simp only [tcpReno, TCPReno.dataSent, TCPReno.startRexmitTimer]
    split_ifs <;> rfl

/-- Limited transmit leaves the walk of `snd_nxt` alone: it sends one segment of new data at most,
inside the receiver's window and no more than two segments beyond the congestion window. -/
structure LeavesGoBackN (congestionWindow : UInt32) (c c' : TCPConnection) : Prop where
  sndNxt : c'.sndNxt = c.sndNxt
  afterRto : c'.afterRto = c.afterRto
  sent : c'.sent = c.sent ∨ ∃ tcpseg, c'.sent = c.sent ++ [tcpseg] ∧
    tcpseg.sequenceNo = c.sndMax ∧
    (c.sndMax - c.sndUna).toNat + tcpseg.payloadLength ≤ c.sndWnd.toNat ∧
    (c.sndMax - c.sndUna).toNat + tcpseg.payloadLength ≤ congestionWindow.toNat + 2 * c.sndMss.toNat

/-- Nothing may be sent: with SACK, nothing has been newly SACKed, or the windows and the
queue leave no segment to send. -/
def NothingToTransmit (fullSegmentsOnly : Bool) (congestionWindow : UInt32)
    (c : TCPConnection) : Prop :=
  (c.sackEnabled = true ∧ c.sackedBytesOld = c.sackedBytes) ∨
    c.limitedTransmitBytes fullSegmentsOnly congestionWindow = none

lemma getBytesAvailable_lt (queue : VirtualDataSendQueue) (fromSeq : UInt32) :
    (queue.getBytesAvailable fromSeq).toNat < 2147483648 := by
  unfold VirtualDataSendQueue.getBytesAvailable
  split
  case isTrue less => exact UInt32.lt_iff_toNat_lt.mp less.2
  case isFalse => decide

lemma segmentBytes_le {bytes optionsLen : UInt32} (room : optionsLen < c.sndMss) :
    c.segmentBytes bytes optionsLen ≤ c.sendQueue.getBytesAvailable c.sndNxt := by
  unfold segmentBytes
  dsimp only
  generalize c.sendQueue.getBytesAvailable c.sndNxt = buffered at *
  have least : (if buffered < bytes then buffered else bytes) ≤ buffered := by
    split
    case isTrue => exact UInt32.le_refl _
    case isFalse enough => exact UInt32.not_lt.mp enough
  generalize (if buffered < bytes then buffered else bytes) = n at *
  split
  case isTrue long =>
    rw [UInt32.le_iff_toNat_le] at least ⊢
    rw [UInt32.lt_iff_toNat_lt] at long room
    rw [UInt32.toNat_add] at long
    rw [UInt32.toNat_sub_of_le _ _ (UInt32.le_iff_toNat_le.mpr room.le)]
    omega
  case isFalse => exact least

lemma disturbs_of_sent {bytes : UInt32} {d : TCPConnection}
    (ok : sendSegment env bytes { c with sndNxt := c.sndMax } = .ok d) :
    d.afterRto = false ∨ d.sentBytes ≠ 0 := by
  obtain ⟨start, optionsLen, tcpseg, sent⟩ := sendSegment_sent ok
  cases enabled : c.sackEnabled with
  | true =>
    refine .inr ?_
    rw [sent.sentBytes]
    exact sent.enqueued enabled
  | false =>
    have forwarded := sent.forwarded
    unfold forwardSndNxt at forwarded
    rw [if_neg (by simp [enabled])] at forwarded
    have same : start = { c with sndNxt := c.sndMax } := (Except.ok.inj forwarded).symm
    have short : start.segmentBytes bytes optionsLen < 2147483648 := by
      have room : optionsLen < start.sndMss := by
        rw [same]
        exact sent.room
      exact UInt32.lt_of_le_of_lt (segmentBytes_le room)
        (UInt32.lt_iff_toNat_lt.mpr (getBytesAvailable_lt ..))
    have past : seqGE (start.sndNxt + start.segmentBytes bytes optionsLen) c.sndMax := by
      unfold seqGE
      have begins : start.sndNxt = c.sndMax := by rw [same]
      rw [begins, UInt32.add_comm, UInt32.add_sub_cancel]
      exact short
    left
    rw [sent.afterRto, decide_eq_true past]
    exact Bool.and_false _

/-- Limited transmit leaves the walk alone exactly when it sends nothing. -/
theorem leavesGoBackN_iff (keeps : KeepsAfterRto env.alg) (afterRto : c.afterRto = true)
    (ok : sendOneNewSegment env fullSegmentsOnly congestionWindow c = .ok c') :
    LeavesGoBackN congestionWindow c c' ↔
      NothingToTransmit fullSegmentsOnly congestionWindow c := by
  obtain ⟨-, ok⟩ := of_assert_bind ok
  split at ok
  case isTrue quiet =>
    obtain rfl := Except.ok.inj ok
    exact iff_of_true ⟨rfl, rfl, .inl rfl⟩ (.inl quiet)
  case isFalse news =>
    split at ok
    case h_1 none =>
      obtain rfl := Except.ok.inj ok
      exact iff_of_true ⟨rfl, rfl, .inl rfl⟩ (.inr none)
    case h_2 bytes some =>
      rcases Except.bind_eq_ok ok with ⟨d, sent, ok⟩
      have raised : d.raiseSndMax.afterRto = d.afterRto ∧
          d.raiseSndMax.sentBytes = d.sentBytes := by
        unfold raiseSndMax
        split <;> exact ⟨rfl, rfl⟩
      obtain rfl := Except.ok.inj ok
      refine iff_of_false (fun leaves => ?_) (not_or.mpr ⟨news, by rw [some]; exact nofun⟩)
      have flag := leaves.afterRto
      have position := leaves.sndNxt
      unfold dataSent ackSent at flag
      rw [keeps.dataSent] at flag
      rw [keeps.ackSent, afterRto] at flag
      by_cases still : d.raiseSndMax.afterRto = true
      · rw [if_pos still] at position
        change c.sndNxt + d.raiseSndMax.sentBytes = c.sndNxt at position
        rcases disturbs_of_sent sent with cleared | moved
        · rw [raised.1, cleared] at still
          cases still
        · rw [raised.2] at position
          exact moved (by simpa using position)
      · rw [if_neg still] at flag
        exact still flag

/-- A server of 10000 octets has sent three segments and had the first acknowledged when the
retransmission timer expires. -/
def timeoutRun (window : UInt16) : List (Env × TcpInput) :=
  openServer 65535 ++
  [(renoAt 3, .command (.send 10000)), (renoAt 4, .segment (peerAck 1001 window false)),
   (renoAt 3005, .algTimer .rexmit)]

def limitedPar : TCPPar := { serverPar with limitedTransmitEnabled := true }

/-- Does a duplicate ACK that comes after the timeout end the walk of `snd_nxt`? -/
def endsWalk (c : TCPConnection) : Bool :=
  match sendOneNewSegment (renoAt 3006) true c.sndCwnd c with
  | .ok c' => c.afterRto && !c'.afterRto
  | .error _ => false

/-- With a window of 65535 octets `[3001, 4001)` goes out, and `[2001, 3001)` will not be
retransmitted. -/
theorem limited_transmit_ends_walk :
    ¬ ∀ env c c' fullSegmentsOnly, Reachable Unrestricted c → KeepsAfterRto env.alg →
      c.afterRto = true → sendOneNewSegment env fullSegmentsOnly c.sndCwnd c = .ok c' →
      LeavesGoBackN c.sndCwnd c c' := by
  intro leaves
  have ends : (run Unrestricted (timeoutRun 65535) (new limitedPar)).any endsWalk = true := by
    decide +kernel
  obtain ⟨c, reachable, ends⟩ := exists_reachable ends
  unfold endsWalk at ends
  split at ends
  case h_1 c' ok =>
    obtain ⟨afterRto, cleared⟩ := (Bool.and_eq_true ..).mp ends
    have same := (leaves _ c c' true reachable (tcpReno_keepsAfterRto ..) afterRto ok).afterRto
    rw [same, afterRto] at cleared
    cases cleared
  case h_2 => cases ends

/-- With a window of 2000 octets, all of them outstanding, the walk goes on. -/
theorem leavesGoBackN_full_window :
    ∃ c c', Reachable Unrestricted c ∧ c.afterRto = true ∧
      sendOneNewSegment (renoAt 3006) true c.sndCwnd c = .ok c' ∧ LeavesGoBackN c.sndCwnd c c' := by
  have full : (run Unrestricted (timeoutRun 2000) (new limitedPar)).any (fun c =>
      c.afterRto && (sendOneNewSegment (renoAt 3006) true c.sndCwnd c).toOption.isSome &&
        (c.limitedTransmitBytes true c.sndCwnd).isNone) = true := by
    decide +kernel
  obtain ⟨c, reachable, test⟩ := exists_reachable full
  simp only [Bool.and_eq_true, Option.isNone_iff_eq_none] at test
  obtain ⟨⟨afterRto, returns⟩, none⟩ := test
  cases ok : sendOneNewSegment (renoAt 3006) true c.sndCwnd c with
  | error error =>
    rw [ok] at returns
    cases returns
  | ok c' =>
    refine ⟨c, c', reachable, afterRto, ok, ?_⟩
    exact (leavesGoBackN_iff (tcpReno_keepsAfterRto ..) afterRto ok).mpr (.inr none)

/-! ## New data and the receiver's window -/

variable {env : Env} {c c₁ c₂ d : TCPConnection} {optionsLen : UInt32}

lemma segmentBytes_sndMss (room : optionsLen < c.sndMss) (short : optionsLen.toNat ≤ 40) :
    (c.segmentBytes c.sndMss optionsLen).toNat = min (c.sendQueue.getBytesAvailable c.sndNxt).toNat
        (c.sndMss.toNat - optionsLen.toNat) := by
  unfold segmentBytes
  dsimp only
  have available := getBytesAvailable_lt c.sendQueue c.sndNxt
  generalize c.sendQueue.getBytesAvailable c.sndNxt = buffered at *
  generalize c.sndMss = mss at *
  have rest := UInt32.toNat_sub_of_le _ _ (UInt32.le_of_lt room)
  have bytes : (if buffered < mss then buffered else mss).toNat = min buffered.toNat mss.toNat := by
    split
    case isTrue less =>
      exact (min_eq_left (Nat.le_of_lt (UInt32.lt_iff_toNat_lt.mp less))).symm
    case isFalse enough =>
      exact (min_eq_right (Nat.le_of_not_lt enough)).symm
  generalize (if buffered < mss then buffered else mss) = n at *
  have sum : (n + optionsLen).toNat = n.toNat + optionsLen.toNat := by
    rw [UInt32.toNat_add]
    exact Nat.mod_eq_of_lt (by omega)
  split
  case isTrue long =>
    rw [UInt32.lt_iff_toNat_lt, sum] at long
    omega
  case isFalse fits =>
    rw [UInt32.lt_iff_toNat_lt, sum] at fits
    omega

lemma nextSegLoop_ne_sndMax {onlyLost : Bool} {fuel : ℕ} {s2 : UInt32} :
    c.nextSegLoop onlyLost fuel s2 ≠ .ok (some c.sndMax) := by
  induction fuel generalizing s2 with
  | zero => exact nofun
  | succ fuel ih =>
    unfold nextSegLoop
    intro answer
    split at answer
    case isTrue goesOn =>
      have below : s2 ≠ c.sndMax := goesOn.1.1
      rcases Except.bind_eq_ok answer with ⟨block, -, answer⟩
      split at answer
      · exact ih answer
      · split at answer
        · rcases Except.bind_eq_ok answer with ⟨lost, -, answer⟩
          cases lost
          · cases answer
          · exact below (Option.some.inj (Except.ok.inj answer))
        · exact below (Option.some.inj (Except.ok.inj answer))
    case isFalse => cases answer

lemma nextSeg_newData (next : c.nextSeg = .ok (some c.sndMax, c₁)) :
    c₁ = { c with highRxt := c.rexmitQueue.getHighestRexmittedSeqNum } ∧
      0 < c.sendQueue.getBytesAvailable c.sndMax ∧
      c.sndMss.toUInt64 ≤ c.sndWnd.toUInt64 - c.pipe.toUInt64 := by
  unfold nextSeg at next
  obtain ⟨-, next⟩ := of_assert_bind next
  rcases Except.bind_eq_ok next with ⟨first, loop, next⟩
  cases first with
  | some seqNum =>
    cases next
    exact absurd loop nextSegLoop_ne_sndMax
  | none =>
    dsimp only at next
    split at next
    case isTrue room =>
      cases next
      exact ⟨rfl, room⟩
    case isFalse =>
      rcases Except.bind_eq_ok next with ⟨second, loop, next⟩
      cases next
      exact absurd loop nextSegLoop_ne_sndMax

/-! ## The segment of new data -/

/-- One segment is sent, and it ends at or below `snd_una + snd_wnd`. -/
def SentInWindow (c c' : TCPConnection) : Prop :=
  ∃ tcpseg, c'.sent = c.sent ++ [tcpseg] ∧
    (tcpseg.sequenceNo - c.sndUna).toNat + tcpseg.payloadLength ≤ c.sndWnd.toNat

/-- The state from which rule (2) has its segment sent. -/
def startNewData (c : TCPConnection) : TCPConnection :=
  { c with sndNxt := c.sndMax, highRxt := c.rexmitQueue.getHighestRexmittedSeqNum }

/-- The window takes what is outstanding and what of the queue fits into one segment, which starts
behind the SACKed octets at `snd_max` after an RTO. -/
def WindowTakesSegment (env : Env) (c : TCPConnection) : Prop :=
  ∃ start optionsLen, c.startNewData.forwardSndNxt = .ok start ∧
    optionsOctets env start = .ok optionsLen ∧
    (start.sndNxt - c.sndUna).toNat + min (c.sendQueue.getBytesAvailable start.sndNxt).toNat
        (c.sndMss.toNat - optionsLen.toNat) ≤ c.sndWnd.toNat

lemma sendSegmentDuringLossRecoveryPhase_sent {seqNum : UInt32}
    (ok : sendSegmentDuringLossRecoveryPhase env seqNum c = .ok c₂) :
    ∃ d start optionsLen tcpseg,
      SegmentSent env c.sndMss { c with sndNxt := seqNum } start optionsLen tcpseg d ∧
        c₂.sent = d.sent := by
  unfold sendSegmentDuringLossRecoveryPhase at ok
  obtain ⟨-, ok⟩ := of_assert_bind ok
  rcases Except.bind_eq_ok ok with ⟨d, sent, ok⟩
  obtain ⟨start, optionsLen, tcpseg, segment⟩ := sendSegment_sent sent
  obtain ⟨-, ok⟩ := of_assert_bind ok
  obtain rfl := Except.ok.inj ok
  refine ⟨d, start, optionsLen, tcpseg, segment, ?_⟩
  simp only [ackSent]
  split_ifs <;> rfl

/-- The segment of rule (2) stays in the window exactly when the window takes it on top of
all that is outstanding; `pipe` has no part in it. -/
theorem sentInWindow_iff (next : c.nextSeg = .ok (some c.sndMax, c₁))
    (ok : sendSegmentDuringLossRecoveryPhase env c.sndMax c₁ = .ok c₂) :
    SentInWindow c c₂ ↔ WindowTakesSegment env c := by
  obtain ⟨rfl, -⟩ := nextSeg_newData next
  obtain ⟨d, start, optionsLen, tcpseg, segment, same⟩ := sendSegmentDuringLossRecoveryPhase_sent ok
  have startEq := forwardSndNxt_eq segment.forwarded
  have sndMss : start.sndMss = c.sndMss := by rw [startEq]
  have sendQueue : start.sendQueue = c.sendQueue := by rw [startEq]
  have length : tcpseg.payloadLength =
      min (c.sendQueue.getBytesAvailable start.sndNxt).toNat
        (c.sndMss.toNat - optionsLen.toNat) := by
    have room : optionsLen < start.sndMss := sndMss ▸ segment.room
    rw [← sendQueue, ← sndMss, ← segmentBytes_sndMss room segment.optionsShort, sndMss]
    exact segment.payloadLength
  constructor
  · rintro ⟨tcpseg', sent, inside⟩
    obtain rfl : tcpseg = tcpseg' := by
      rw [same, segment.sent] at sent
      exact List.singleton_inj.mp (List.append_cancel_left sent)
    rw [segment.sequenceNo, length] at inside
    exact ⟨start, optionsLen, segment.forwarded, segment.options, inside⟩
  · rintro ⟨start', optionsLen', forwarded, options, inside⟩
    obtain rfl : start = start' := Except.ok.inj (segment.forwarded.symm.trans forwarded)
    obtain rfl : optionsLen = optionsLen' := Except.ok.inj (segment.options.symm.trans options)
    refine ⟨tcpseg, same.trans segment.sent, ?_⟩
    rw [segment.sequenceNo, length]
    exact inside

/-- Five segments of 1000 octets fill a window of `window` octets. The first is sent again,
and the others have been SACKED. -/
def fiveSegments (window : UInt32) : TCPConnection :=
  { par := serverPar
    sackEnabled := true
    lossRecovery := true
    sndMss := 1000
    sndWnd := window
    sndUna := 1000
    sndNxt := 6000
    sndMax := 6000
    pipe := 1000
    sendQueue := { begin := 1000, «end» := 10000 }
    rexmitQueue :=
      { begin := 1000
        «end» := 6000
        rexmitQueue := [⟨1000, 2000, false, true⟩, ⟨2000, 6000, true, false⟩] } }

/-- Does new data go out, and stay in the window? -/
def newDataInWindow (c : TCPConnection) : Option Bool :=
  match c.nextSeg with
  | .ok (some seqNum, c₁) =>
      if seqNum = c.sndMax then
        match sendSegmentDuringLossRecoveryPhase (renoAt 0) c.sndMax c₁ with
        | .ok c₂ => some <| decide <|
            ∀ tcpseg ∈ c₂.sent, (tcpseg.sequenceNo - c.sndUna).toNat + tcpseg.payloadLength ≤
              c.sndWnd.toNat
        | .error _ => none
      else none
  | _ => none

lemma exists_of_newDataInWindow {inside : Bool} (test : newDataInWindow c = some inside) :
    ∃ c₁ c₂, c.nextSeg = .ok (some c.sndMax, c₁) ∧
      sendSegmentDuringLossRecoveryPhase (renoAt 0) c.sndMax c₁ = .ok c₂ ∧
      decide (∀ tcpseg ∈ c₂.sent, (tcpseg.sequenceNo - c.sndUna).toNat + tcpseg.payloadLength ≤
        c.sndWnd.toNat) = inside := by
  unfold newDataInWindow at test
  split at test
  case h_1 seqNum c₁ next =>
    split at test
    case isTrue newData =>
      subst newData
      split at test
      case h_1 c₂ ok => exact ⟨c₁, c₂, next, ok, Option.some.inj test⟩
      case h_2 => cases test
    case isFalse => cases test
  case h_2 => cases test

/-- A window of 5000 octets is full, but `pipe` counts 1000 octets. -/
theorem newData_leaves_window :
    ¬ ∀ env c c₁ c₂, c.nextSeg = .ok (some c.sndMax, c₁) →
      sendSegmentDuringLossRecoveryPhase env c.sndMax c₁ = .ok c₂ → SentInWindow c c₂ := by
  intro stays
  have leaves : newDataInWindow (fiveSegments 5000) = some false := by decide +kernel
  obtain ⟨c₁, c₂, next, ok, outside⟩ := exists_of_newDataInWindow leaves
  obtain ⟨tcpseg, sent, inside⟩ := stays _ _ c₁ c₂ next ok
  refine of_decide_eq_false outside fun tcpseg' mem => ?_
  rw [sent] at mem
  rw [List.mem_singleton.mp mem]
  exact inside

/-- A window of 6000 octets takes the segment. -/
theorem newData_in_window :
    ∃ c₁ c₂, (fiveSegments 6000).nextSeg = .ok (some 6000, c₁) ∧
      sendSegmentDuringLossRecoveryPhase (renoAt 0) 6000 c₁ = .ok c₂ ∧
      SentInWindow (fiveSegments 6000) c₂ := by
  have test : newDataInWindow (fiveSegments 6000) = some true := by decide +kernel
  obtain ⟨c₁, c₂, next, ok, -⟩ := exists_of_newDataInWindow test
  refine ⟨c₁, c₂, next, ok, (sentInWindow_iff next ok).mpr ?_⟩
  exact ⟨(fiveSegments 6000).startNewData, 0, rfl, rfl, by decide⟩

end Inet.Tcp.TCPConnection
