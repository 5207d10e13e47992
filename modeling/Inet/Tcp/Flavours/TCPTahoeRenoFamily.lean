import Inet.Tcp.State
import Mathlib.Data.Rat.Init

/-!
# TCPTahoeRenoFamily

What the algorithms with a slow start threshold share: `TCPBaseAlg::sendData`, the growth of the
congestion window, and what the connection does with an acknowledgment around the call. What a call
that sends does to `snd_nxt` and `snd_max` is an input; such calls write no other variable of the
algorithm. Timers and round-trip times are left out.
-/

namespace Inet.Tcp

structure TCPTahoeRenoFamilyStateVariables where
  sndUna : UInt32
  sndNxt : UInt32
  sndMax : UInt32
  sndWnd : UInt32
  sndMss : UInt32
  sndCwnd : UInt32
  ssthresh : UInt32 := 7500000
  dupacks : UInt32 := 0
  increasedIWEnabled : Bool := false
  limitedTransmitEnabled : Bool := false
  sackEnabled : Bool := false
  lossRecovery : Bool := false
  recoveryPoint : UInt32 := 0
  afterRto : Bool := false
  ece : Bool := false
  recover : UInt32 := 0
  firstPartialACK : Bool := false
  dctcpAlpha : ℚ := 0
  dctcpGamma : ℚ := 4 / 25
  dctcpWindEnd : UInt32 := 0
  dctcpBytesAcked : ℕ := 0
  dctcpBytesMarked : ℕ := 0
  dctcpCWR : Bool := false
  dctcpMarked : ℕ := 0
  dctcpTotal : ℕ := 0

/-- What a call that sends leaves in `snd_nxt` and `snd_max`. -/
structure Sent where
  sndNxt : UInt32
  sndMax : UInt32

/-- A call of `TCPBaseAlg::sendData`. Is there data to send after more than an RTO without? -/
structure SendDataCall extends Sent where
  restarts : Bool := false

/-- What `processAckInEstabEtc` reads of a segment, and the window that `updateWndInfo` settles
on. -/
structure AckSegment where
  ackNo : UInt32
  payloadLength : ℕ := 0
  eceBit : Bool := false
  sndWnd : UInt32

lemma toNat_max (a b : UInt32) : (max a b).toNat = max a.toNat b.toNat := by
  change (if a ≤ b then b else a).toNat = _
  simp only [UInt32.le_iff_toNat_le]
  split <;> omega

lemma toNat_min (a b : UInt32) : (min a b).toNat = min a.toNat b.toNat := by
  change (if a ≤ b then a else b).toNat = _
  simp only [UInt32.le_iff_toNat_le]
  split <;> omega

namespace TCPTahoeRenoFamilyStateVariables

variable (state : TCPTahoeRenoFamilyStateVariables)

def after (sent : Sent) : TCPTahoeRenoFamilyStateVariables :=
  { state with sndNxt := sent.sndNxt, sndMax := sent.sndMax }

/-- The initial window of RFC 3390. -/
def increasedIW : UInt32 := min (4 * state.sndMss) (max (2 * state.sndMss) 4380)

/-- The window that `TCPBaseAlg::established` starts with. -/
def initialCwnd (synRexmitCount : ℕ) : UInt32 :=
  if state.increasedIWEnabled ∧ synRexmitCount = 0 then state.increasedIW else state.sndMss

/-- The window after an idle period. -/
def restartCwnd : UInt32 :=
  if state.increasedIWEnabled then min state.increasedIW state.sndCwnd else state.sndMss

def sendData (call : SendDataCall) : TCPTahoeRenoFamilyStateVariables :=
  (if call.restarts then { state with sndCwnd := state.restartCwnd } else state).after call.toSent

/-- `TCPBaseAlg::receivedDuplicateAck`: limited transmit. -/
def baseReceivedDuplicateAck (sendOneNewSegment : Sent) : TCPTahoeRenoFamilyStateVariables :=
  if state.dupacks < DUPTHRESH ∧ state.limitedTransmitEnabled then state.after sendOneNewSegment
  else state

/-- The threshold that `recalculateSlowStartThreshold` computes. -/
def slowStartThreshold : UInt32 := max (min state.sndCwnd state.sndWnd / 2) (2 * state.sndMss)

/-- What congestion avoidance adds to the window. -/
def incr : UInt32 :=
  let incr := state.sndMss * state.sndMss / state.sndCwnd
  if incr = 0 then 1 else incr

/-- Slow start and congestion avoidance; `none` where the increment divides by zero. -/
def growCwnd : Option TCPTahoeRenoFamilyStateVariables :=
  if state.sndCwnd < state.ssthresh then some { state with sndCwnd := state.sndCwnd + state.sndMss }
  else if state.sndCwnd = 0 then none
  else some { state with sndCwnd := state.sndCwnd + state.incr }

/-- The window after growing, before it is cut to 32 bits. -/
def grownSize : ℕ :=
  state.sndCwnd.toNat + (if state.sndCwnd < state.ssthresh then state.sndMss else state.incr).toNat

/-! ## The connection -/

/-- Does the segment count as a duplicate ACK? -/
def duplicates (tcpseg : AckSegment) : Prop :=
  state.sndUna = tcpseg.ackNo ∧ tcpseg.payloadLength = 0 ∧ state.sndUna ≠ state.sndMax

instance (tcpseg : AckSegment) : Decidable (state.duplicates tcpseg) :=
  inferInstanceAs (Decidable (_ ∧ _ ∧ _))

/-- Does the segment acknowledge new data, and carry none? -/
def acksData (tcpseg : AckSegment) : Prop :=
  ¬ seqGE state.sndUna tcpseg.ackNo ∧ seqLE tcpseg.ackNo state.sndMax ∧ tcpseg.payloadLength = 0

instance (tcpseg : AckSegment) : Decidable (state.acksData tcpseg) :=
  inferInstanceAs (Decidable (¬ _ ∧ _ ∧ _))

/-- The variables once new data is acknowledged. -/
def acknowledge (tcpseg : AckSegment) : TCPTahoeRenoFamilyStateVariables :=
  let bytes := (tcpseg.ackNo - state.sndUna).toNat
  { state with
    dctcpBytesAcked := state.dctcpBytesAcked + bytes
    dctcpBytesMarked := state.dctcpBytesMarked + (if tcpseg.eceBit then bytes else 0)
    sndUna := tcpseg.ackNo
    sndNxt := if seqLess state.sndNxt tcpseg.ackNo then tcpseg.ackNo else state.sndNxt
    sndWnd := tcpseg.sndWnd }

/-- The variables that `receivedDataAck` finds. -/
def dataAcked (tcpseg : AckSegment) : TCPTahoeRenoFamilyStateVariables :=
  { state.acknowledge tcpseg with ece := tcpseg.eceBit }

/-- The variables when a duplicate ACK is counted. -/
def countDuplicate (tcpseg : AckSegment) : TCPTahoeRenoFamilyStateVariables :=
  { state with dupacks := state.dupacks + 1, sndWnd := tcpseg.sndWnd }

/-- `processAckInEstabEtc(tcpseg)` of an established connection whose algorithm has these
callbacks. -/
def processAckInEstabEtc
    (receivedDataAck : UInt32 → TCPTahoeRenoFamilyStateVariables →
      Option TCPTahoeRenoFamilyStateVariables)
    (receivedDuplicateAck : TCPTahoeRenoFamilyStateVariables → TCPTahoeRenoFamilyStateVariables)
    (tcpseg : AckSegment) : Option TCPTahoeRenoFamilyStateVariables :=
  if seqGE state.sndUna tcpseg.ackNo then
    if state.duplicates tcpseg then some (receivedDuplicateAck (state.countDuplicate tcpseg))
    else some { state with dupacks := 0 }
  else if seqLE tcpseg.ackNo state.sndMax then
    if tcpseg.payloadLength = 0 then do
      let acked ← receivedDataAck state.sndUna (state.dataAcked tcpseg)
      return { acked with dupacks := 0 }
    else some (state.acknowledge tcpseg)
  else some { state with dupacks := 0 }

lemma growCwnd_eq {grown : TCPTahoeRenoFamilyStateVariables}
    (grows : state.growCwnd = some grown) :
    grown = { state with sndCwnd := grown.sndCwnd } := by
  unfold growCwnd at grows
  split_ifs at grows
  · cases grows
    rfl
  · cases grows
    rfl

/-- The increment has a divisor where the threshold is positive. -/
lemma growCwnd_isSome (ssthresh : state.ssthresh ≠ 0) : state.growCwnd.isSome := by
  unfold growCwnd
  split_ifs with slow zero
  · rfl
  · have positive : 0 < state.ssthresh := UInt32.pos_iff_ne_zero.mpr ssthresh
    rw [zero] at slow
    exact absurd positive slow
  · rfl

section

variable {state} {state' : TCPTahoeRenoFamilyStateVariables} {tcpseg : AckSegment}
  {onDataAck : UInt32 → TCPTahoeRenoFamilyStateVariables → Option TCPTahoeRenoFamilyStateVariables}
  {onDuplicateAck : TCPTahoeRenoFamilyStateVariables → TCPTahoeRenoFamilyStateVariables}

lemma not_duplicates (newer : ¬ seqGE state.sndUna tcpseg.ackNo) : ¬ state.duplicates tcpseg := by
  intro duplicates
  rw [duplicates.1] at newer
  exact newer (seqGE_refl _)

lemma not_acksData (duplicates : state.duplicates tcpseg) : ¬ state.acksData tcpseg :=
  fun acksData => not_duplicates acksData.1 duplicates

/-- A segment is a duplicate ACK, or acknowledges data without carrying any, or goes past the
algorithm. -/
lemma processAckInEstabEtc_cases
    (next : state.processAckInEstabEtc onDataAck onDuplicateAck tcpseg = some state') :
    state.duplicates tcpseg ∧ state' = onDuplicateAck (state.countDuplicate tcpseg) ∨
      state.acksData tcpseg ∧ (∃ acked, onDataAck state.sndUna (state.dataAcked tcpseg) =
        some acked ∧ state' = { acked with dupacks := 0 }) ∨
      ¬ state.duplicates tcpseg ∧ ¬ state.acksData tcpseg ∧
        (state' = { state with dupacks := 0 } ∨ state' = state.acknowledge tcpseg) := by
  unfold processAckInEstabEtc at next
  split_ifs at next with old duplicates within noPayload
  · exact .inl ⟨duplicates, (Option.some.inj next).symm⟩
  · exact .inr (.inr ⟨duplicates, fun acksData => acksData.1 old, .inl (Option.some.inj next).symm⟩)
  · obtain ⟨acked, run, eq⟩ := Option.bind_eq_some_iff.mp next
    exact .inr (.inl ⟨⟨old, within, noPayload⟩, acked, run, (Option.some.inj eq).symm⟩)
  · exact .inr (.inr ⟨not_duplicates old, fun acksData => noPayload acksData.2.2,
      .inr (Option.some.inj next).symm⟩)
  · exact .inr (.inr ⟨not_duplicates old, fun acksData => within acksData.2.1,
      .inl (Option.some.inj next).symm⟩)

lemma processAckInEstabEtc_isSome
    (answers : state.acksData tcpseg → (onDataAck state.sndUna (state.dataAcked tcpseg)).isSome) :
    (state.processAckInEstabEtc onDataAck onDuplicateAck tcpseg).isSome := by
  unfold processAckInEstabEtc
  split_ifs with old duplicates within noPayload
  · rfl
  · rfl
  · obtain ⟨acked, run⟩ := Option.isSome_iff_exists.mp (answers ⟨old, within, noPayload⟩)
    rw [run]
    rfl
  · rfl
  · rfl

/-- Limited transmit only sends. -/
lemma exists_after_of_base (sendOneNewSegment : Sent) :
    ∃ sent, state.baseReceivedDuplicateAck sendOneNewSegment = state.after sent := by
  unfold baseReceivedDuplicateAck
  split
  · exact ⟨_, rfl⟩
  · exact ⟨⟨state.sndNxt, state.sndMax⟩, rfl⟩

end

section

variable (call : SendDataCall) (sent : Sent)

/-- `sendData` writes `snd_cwnd`, `snd_nxt` and `snd_max`. -/
lemma sendData_eq : state.sendData call =
    { state with
      sndCwnd := (state.sendData call).sndCwnd
      sndNxt := call.sndNxt
      sndMax := call.sndMax } := by
  unfold sendData
  split <;> rfl

@[simp] lemma sendData_sndMss : (state.sendData call).sndMss = state.sndMss := by
  rw [sendData_eq]

@[simp] lemma sendData_ssthresh : (state.sendData call).ssthresh = state.ssthresh := by
  rw [sendData_eq]

@[simp] lemma sendData_increasedIWEnabled :
    (state.sendData call).increasedIWEnabled = state.increasedIWEnabled := by
  rw [sendData_eq]

@[simp] lemma sendData_lossRecovery :
    (state.sendData call).lossRecovery = state.lossRecovery := by
  rw [sendData_eq]

lemma sendData_sndCwnd :
    (state.sendData call).sndCwnd = if call.restarts then state.restartCwnd else state.sndCwnd := by
  unfold sendData
  split <;> rfl

/-- The window after an idle period is no wider than before, or one segment. -/
lemma sendData_sndCwnd_le :
    (state.sendData call).sndCwnd.toNat ≤ max state.sndCwnd.toNat state.sndMss.toNat := by
  rw [sendData_sndCwnd]
  unfold restartCwnd
  split_ifs
  · rw [toNat_min]
    exact (min_le_right _ _).trans (le_max_left _ _)
  · exact le_max_right _ _
  · exact le_max_left _ _

end

end TCPTahoeRenoFamilyStateVariables

end Inet.Tcp
