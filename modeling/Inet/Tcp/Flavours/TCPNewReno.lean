import Inet.Lib.Along
import Inet.Tcp.Flavours.TCPTahoeRenoFamily

/-!
# TCPNewReno

The algorithm on an established connection. A retransmission timer that has expired too often ends
the connection; the timeouts here are the others.

A partial ACK takes the octets that it acknowledges out of the congestion window, without a check
that they are in it. `Recovery` keeps account of a fast recovery: the window it began with, one
segment for each duplicate ACK and each partial ACK of a segment or more, and the octets
acknowledged.
-/

namespace Inet.Tcp

open UInt32

abbrev TCPNewRenoStateVariables := TCPTahoeRenoFamilyStateVariables

namespace TCPNewReno

/-- What the calls of a callback that send leave, by the place they are called from. -/
structure Calls where
  sendOneNewSegment : Sent
  retransmitOneSegment : Sent
  sendDataAtPartialAck : SendDataCall
  sendData : SendDataCall

variable (state : TCPNewRenoStateVariables)

def recalculateSlowStartThreshold : TCPNewRenoStateVariables :=
  { state with ssthresh := state.slowStartThreshold }

/-- `processRexmitTimer` when the connection is not given up. -/
def processRexmitTimer (retransmitOneSegment : Sent) : TCPNewRenoStateVariables :=
  let state := recalculateSlowStartThreshold { state with
    recoveryPoint :=
      if state.sackEnabled ∧ state.lossRecovery then state.sndMax else state.recoveryPoint
    recover := state.sndMax - 1
    lossRecovery := false
    firstPartialACK := false }
  { state with sndCwnd := state.sndMss, afterRto := true }.after retransmitOneSegment

/-- Does the ACK cover `recover`? -/
def isFullAck : Prop := seqGE (state.sndUna - 1) state.recover

instance : Decidable (isFullAck state) := inferInstanceAs (Decidable (seqGE _ _))

/-- A full ACK ends fast recovery. -/
def exitFastRecovery : TCPNewRenoStateVariables :=
  let flightSize := state.sndMax - state.sndUna
  { state with
    sndCwnd := min state.ssthresh (flightSize + state.sndMss)
    lossRecovery := false
    firstPartialACK := false }

/-- The window after a partial ACK: less what is acknowledged, and a segment more where that is
a segment or more. -/
def deflatedCwnd (firstSeqAcked : UInt32) : UInt32 :=
  let acked := state.sndUna - firstSeqAcked
  let sndCwnd := state.sndCwnd - acked
  if state.sndMss ≤ acked then sndCwnd + state.sndMss else sndCwnd

/-- A partial ACK. Only the retransmission timer depends on `firstPartialACK`. -/
def partialAck (calls : Calls) (firstSeqAcked : UInt32) : TCPNewRenoStateVariables :=
  let state := state.after calls.retransmitOneSegment
  let state := { state with sndCwnd := deflatedCwnd state firstSeqAcked }
  let state := state.sendData calls.sendDataAtPartialAck
  { state with firstPartialACK := state.firstPartialACK || state.lossRecovery }

def receivedDataAck (calls : Calls) (firstSeqAcked : UInt32) :
    Option TCPNewRenoStateVariables :=
  if state.lossRecovery then
    if isFullAck state then some ((exitFastRecovery state).sendData calls.sendData)
    else some ((partialAck state calls firstSeqAcked).sendData calls.sendData)
  else do
    let grown ← state.growCwnd
    return { grown with recover := state.sndUna - 2 }.sendData calls.sendData

/-- Fast retransmit. -/
def enterFastRecovery (calls : Calls) : TCPNewRenoStateVariables :=
  let state := recalculateSlowStartThreshold state
  let state := { state with
    recover := state.sndMax - 1
    firstPartialACK := false
    lossRecovery := true
    sndCwnd := state.ssthresh + 3 * state.sndMss }
  (state.after calls.retransmitOneSegment).sendData calls.sendData

def receivedDuplicateAck (calls : Calls) : TCPNewRenoStateVariables :=
  let state := state.baseReceivedDuplicateAck calls.sendOneNewSegment
  if state.dupacks = DUPTHRESH then
    if ¬ state.lossRecovery ∧ state.recover < state.sndUna - 1 then enterFastRecovery state calls
    else state
  else if DUPTHRESH < state.dupacks ∧ state.lossRecovery then
    { state with sndCwnd := state.sndCwnd + state.sndMss }.sendData calls.sendData
  else state

inductive Event where
  | segment (tcpseg : AckSegment) (calls : Calls)
  | rexmitTimeout (retransmitOneSegment : Sent)
  | sendCommand (call : SendDataCall)

def step : TCPNewRenoStateVariables → Event → Option TCPNewRenoStateVariables
  | state, .segment tcpseg calls =>
      state.processAckInEstabEtc
        (fun firstSeqAcked state => receivedDataAck state calls firstSeqAcked)
        (fun state => receivedDuplicateAck state calls) tcpseg
  | state, .rexmitTimeout retransmitOneSegment =>
      some (processRexmitTimer state retransmitOneSegment)
  | state, .sendCommand call => some (state.sendData call)

/-- A partial ACK: it acknowledges new data in fast recovery, and not up to `recover`. -/
def isPartialAck (tcpseg : AckSegment) : Prop :=
  state.acksData tcpseg ∧ state.lossRecovery ∧ ¬ seqGE (tcpseg.ackNo - 1) state.recover

instance (tcpseg : AckSegment) : Decidable (isPartialAck state tcpseg) :=
  inferInstanceAs (Decidable (_ ∧ _ ∧ ¬ _))

/-- The third duplicate ACK, above `recover`. -/
def startsRecovery (tcpseg : AckSegment) : Prop :=
  state.duplicates tcpseg ∧ state.dupacks + 1 = DUPTHRESH ∧ ¬ state.lossRecovery ∧
    state.recover < state.sndUna - 1

instance (tcpseg : AckSegment) : Decidable (startsRecovery state tcpseg) :=
  inferInstanceAs (Decidable (_ ∧ _ ∧ ¬ _ ∧ _))

/-- A further duplicate ACK in fast recovery. -/
def inflates (tcpseg : AckSegment) : Prop :=
  state.duplicates tcpseg ∧ DUPTHRESH < state.dupacks + 1 ∧ state.lossRecovery

instance (tcpseg : AckSegment) : Decidable (inflates state tcpseg) :=
  inferInstanceAs (Decidable (_ ∧ _ ∧ _))

/-- No increment is divided by zero; a partial ACK takes no more out of the window than is in it,
and leaves it one segment wider at most. -/
def WindowSafe (state : TCPNewRenoStateVariables) (event : Event) : Prop :=
  (step state event).isSome ∧
    match event with
    | .segment tcpseg _ => isPartialAck state tcpseg →
        tcpseg.ackNo - state.sndUna ≤ state.sndCwnd ∧ ∀ state' ∈ step state event,
            state'.sndCwnd.toNat ≤ state.sndCwnd.toNat + state.sndMss.toNat
    | _ => True

instance : ∀ event, Decidable (WindowSafe state event)
  | .segment _ _ => inferInstanceAs (Decidable (_ ∧ (_ → _ ∧ _)))
  | .rexmitTimeout _ | .sendCommand _ => inferInstanceAs (Decidable (_ ∧ True))

/-! ## The account of a fast recovery -/

structure Recovery where
  base : ℕ := 0
  added : ℕ := 0
  acked : ℕ := 0

namespace Recovery

variable (recovery : Recovery)

/-- The octets that are left, in the 32 bits of the window. -/
def window : ℕ := (recovery.base + recovery.added - recovery.acked) % 4294967296

def add (bytes : ℕ) : Recovery := { recovery with added := recovery.added + bytes }

/-- Octets acknowledged by a partial ACK; a segment of them or more adds a segment. -/
def acknowledge (bytes mss : ℕ) : Recovery :=
  { recovery with
    acked := recovery.acked + bytes
    added := recovery.added + if mss ≤ bytes then mss else 0 }

/-- A new account where the window starts anew after an idle period. -/
def restart (state : TCPNewRenoStateVariables) (call : SendDataCall) : Recovery :=
  if call.restarts then
    { base := if state.increasedIWEnabled then min state.increasedIW.toNat recovery.window
        else state.sndMss.toNat }
  else recovery

/-- The account is that of a window of `sndCwnd`. -/
structure Tells (sndCwnd : UInt32) : Prop where
  window : sndCwnd.toNat = recovery.window
  covered : recovery.acked ≤ recovery.base + recovery.added

end Recovery

/-- How an event changes the account. -/
def account (state : TCPNewRenoStateVariables) : Event → Recovery → Recovery
  | .segment tcpseg calls, recovery =>
      if isPartialAck state tcpseg then
        ((recovery.acknowledge (tcpseg.ackNo - state.sndUna).toNat state.sndMss.toNat).restart
          state calls.sendDataAtPartialAck).restart state calls.sendData
      else if startsRecovery state tcpseg then
        let threshold := (state.countDuplicate tcpseg).slowStartThreshold
        ({ base := (threshold + 3 * state.sndMss).toNat } : Recovery).restart state calls.sendData
      else if inflates state tcpseg then
        (recovery.add state.sndMss.toNat).restart state calls.sendData
      else recovery
  | .rexmitTimeout _, recovery => recovery
  | .sendCommand call, recovery => recovery.restart state call

/-- A partial ACK acknowledges no more than the account holds. -/
def Covered : TCPNewRenoStateVariables × Recovery → Event → Prop
  | (state, recovery), .segment tcpseg _ =>
      isPartialAck state tcpseg → (tcpseg.ackNo - state.sndUna).toNat ≤ recovery.window
  | _, _ => True

instance : ∀ p event, Decidable (Covered p event)
  | (_, _), .segment _ _ => inferInstanceAs (Decidable (_ → _))
  | (_, _), .rexmitTimeout _ | (_, _), .sendCommand _ => inferInstanceAs (Decidable True)

namespace Recovery

variable {recovery : Recovery} {sndCwnd : UInt32} {state : TCPNewRenoStateVariables}

lemma tells_base (sndCwnd : UInt32) : Tells { base := sndCwnd.toNat } sndCwnd where
  window := (Nat.mod_eq_of_lt sndCwnd.toNat_lt).symm
  covered := Nat.zero_le _

lemma Tells.add (tells : recovery.Tells sndCwnd) (mss : UInt32) :
    (recovery.add mss.toNat).Tells (sndCwnd + mss) where
  window := by
    have before := tells.window
    have covered := tells.covered
    dsimp only [Recovery.window, Recovery.add] at before ⊢
    rw [UInt32.toNat_add, before, Nat.mod_add_mod]
    congr 1
    omega
  covered := tells.covered.trans (Nat.add_le_add_left (Nat.le_add_right _ _) _)

lemma Tells.acknowledge {mss bytes : UInt32} (tells : recovery.Tells sndCwnd)
    (enough : bytes.toNat ≤ recovery.window) :
    (recovery.acknowledge bytes.toNat mss.toNat).Tells
      (if mss ≤ bytes then sndCwnd - bytes + mss else sndCwnd - bytes) := by
  have deflated : Tells { recovery with acked := recovery.acked + bytes.toNat }
      (sndCwnd - bytes) := by
    have before := tells.window
    have covered := tells.covered
    have fits : bytes ≤ sndCwnd := le_iff_toNat_le.mpr (before ▸ enough)
    dsimp only [Recovery.window] at before enough
    constructor
    · rw [UInt32.toNat_sub_of_le _ _ fits]
      dsimp only [Recovery.window]
      omega
    · dsimp only
      omega
  dsimp only [Recovery.acknowledge]
  simp only [le_iff_toNat_le]
  split
  · exact deflated.add mss
  · exact deflated

lemma Tells.restart (tells : recovery.Tells state.sndCwnd) (call : SendDataCall) :
    (recovery.restart state call).Tells (state.sendData call).sndCwnd := by
  rw [TCPTahoeRenoFamilyStateVariables.sendData_sndCwnd]
  unfold Recovery.restart TCPTahoeRenoFamilyStateVariables.restartCwnd
  split_ifs
  · rw [← tells.window, ← toNat_min]
    exact tells_base _
  · exact tells_base _
  · exact tells

lemma restart_congr {state' : TCPNewRenoStateVariables} (state : TCPNewRenoStateVariables)
    (mss : state'.sndMss = state.sndMss) (iw : state'.increasedIWEnabled = state.increasedIWEnabled) (call : SendDataCall) :
    recovery.restart state' call = recovery.restart state call := by
  unfold restart TCPTahoeRenoFamilyStateVariables.increasedIW
  rw [mss, iw]

end Recovery

/-! ## The invariant -/

variable {state} {recovery : Recovery} {tcpseg : AckSegment} {calls : Calls}

/-- The threshold is positive, and in fast recovery the account tells the window. -/
structure Kept (state : TCPNewRenoStateVariables) (recovery : Recovery) : Prop where
  mss : 2 * state.sndMss ≠ 0
  ssthresh : state.ssthresh ≠ 0
  tells : state.lossRecovery = true → recovery.Tells state.sndCwnd

lemma slowStartThreshold_ne_zero (mss : 2 * state.sndMss ≠ 0) : state.slowStartThreshold ≠ 0 := by
  intro zero
  have least : (2 * state.sndMss).toNat ≤ state.slowStartThreshold.toNat := by
    unfold TCPTahoeRenoFamilyStateVariables.slowStartThreshold
    rw [toNat_max]
    exact le_max_right _ _
  rw [zero, UInt32.toNat_zero, Nat.le_zero] at least
  exact mss (UInt32.toNat_inj.mp least)

lemma Kept.sendData (kept : Kept state recovery) (call : SendDataCall) :
    Kept (state.sendData call) (recovery.restart state call) where
  mss := by
    rw [TCPTahoeRenoFamilyStateVariables.sendData_sndMss]
    exact kept.mss
  ssthresh := by
    rw [TCPTahoeRenoFamilyStateVariables.sendData_ssthresh]
    exact kept.ssthresh
  tells := by
    rw [TCPTahoeRenoFamilyStateVariables.sendData_lossRecovery]
    exact fun inRecovery => (kept.tells inRecovery).restart call

lemma Kept.of_not_lossRecovery (mss : 2 * state.sndMss ≠ 0) (ssthresh : state.ssthresh ≠ 0)
    (outside : state.lossRecovery = false) : Kept state recovery where
  mss := mss
  ssthresh := ssthresh
  tells inRecovery := by
    rw [outside] at inRecovery
    cases inRecovery

lemma receivedDuplicateAck_cases (duplicates : state.duplicates tcpseg) (calls : Calls) :
    ∃ sent, let counted := (state.countDuplicate tcpseg).after sent
      startsRecovery state tcpseg ∧
          receivedDuplicateAck (state.countDuplicate tcpseg) calls =
            enterFastRecovery counted calls ∨
        ¬ startsRecovery state tcpseg ∧ inflates state tcpseg ∧
          receivedDuplicateAck (state.countDuplicate tcpseg) calls =
            { counted with sndCwnd := counted.sndCwnd + counted.sndMss }.sendData calls.sendData ∨
        ¬ startsRecovery state tcpseg ∧ ¬ inflates state tcpseg ∧
          receivedDuplicateAck (state.countDuplicate tcpseg) calls = counted := by
  obtain ⟨sent, base⟩ := (state.countDuplicate tcpseg).exists_after_of_base calls.sendOneNewSegment
  refine ⟨sent, ?_⟩
  dsimp only
  unfold receivedDuplicateAck
  rw [base]
  dsimp only
  split_ifs with third enters inflating
  · exact .inl ⟨⟨duplicates, third, enters⟩, rfl⟩
  · refine .inr (.inr ⟨fun starts => enters starts.2.2, fun inflates => ?_, rfl⟩)
    have more : DUPTHRESH < DUPTHRESH := inflates.2.1.trans_eq third
    exact absurd more (UInt32.lt_irrefl _)
  · exact .inr (.inl ⟨fun starts => third starts.2.1, ⟨duplicates, inflating⟩, rfl⟩)
  · exact .inr (.inr ⟨fun starts => third starts.2.1, fun inflates => inflating inflates.2, rfl⟩)

lemma Kept.enterFastRecovery (state : TCPNewRenoStateVariables) (mss : 2 * state.sndMss ≠ 0)
    (calls : Calls) :
    Kept (enterFastRecovery state calls)
      (Recovery.restart { base := (state.slowStartThreshold + 3 * state.sndMss).toNat } state
        calls.sendData) := by
  refine @Kept.sendData (TCPTahoeRenoFamilyStateVariables.after _ _) _ ⟨?_, ?_, ?_⟩ _
  · exact mss
  · exact slowStartThreshold_ne_zero mss
  · exact fun _ => Recovery.tells_base _

lemma Kept.duplicate (kept : Kept state recovery) (duplicates : state.duplicates tcpseg) :
    Kept (receivedDuplicateAck (state.countDuplicate tcpseg) calls)
      (account state (.segment tcpseg calls) recovery) := by
  dsimp only [account]
  rw [if_neg fun isPartial : isPartialAck state tcpseg =>
    TCPTahoeRenoFamilyStateVariables.not_acksData duplicates isPartial.1]
  obtain ⟨sent, ⟨starts, eq⟩ | ⟨not, inflates, eq⟩ | ⟨not, not', eq⟩⟩ :=
    receivedDuplicateAck_cases duplicates calls
  · rw [eq, if_pos starts]
    exact Kept.enterFastRecovery ((state.countDuplicate tcpseg).after sent) kept.mss calls
  · rw [eq, if_neg not, if_pos inflates]
    refine @Kept.sendData { (state.countDuplicate tcpseg).after sent with
      sndCwnd := state.sndCwnd + state.sndMss } _ ⟨kept.mss, kept.ssthresh, ?_⟩ _
    exact fun inRecovery => (kept.tells inRecovery).add state.sndMss
  · rw [eq, if_neg not, if_neg not']
    exact ⟨kept.mss, kept.ssthresh, kept.tells⟩

lemma Kept.partialAck (kept : Kept state recovery) (calls : Calls)
    (isPartial : isPartialAck state tcpseg)
    (covered : (tcpseg.ackNo - state.sndUna).toNat ≤ recovery.window) :
    Kept ((partialAck (state.dataAcked tcpseg) calls state.sndUna).sendData calls.sendData)
      (account state (.segment tcpseg calls) recovery) := by
  dsimp only [account]
  rw [if_pos isPartial]
  have deflated : Kept { (state.dataAcked tcpseg).after calls.retransmitOneSegment with
        sndCwnd := deflatedCwnd ((state.dataAcked tcpseg).after calls.retransmitOneSegment)
          state.sndUna }
      (recovery.acknowledge (tcpseg.ackNo - state.sndUna).toNat state.sndMss.toNat) :=
    ⟨kept.mss, kept.ssthresh, fun inRecovery => (kept.tells inRecovery).acknowledge covered⟩
  have sent := deflated.sendData calls.sendDataAtPartialAck
  have marked : Kept (TCPNewReno.partialAck (state.dataAcked tcpseg) calls state.sndUna)
      ((recovery.acknowledge (tcpseg.ackNo - state.sndUna).toNat state.sndMss.toNat).restart state
        calls.sendDataAtPartialAck) :=
    ⟨sent.mss, sent.ssthresh, sent.tells⟩
  have again := marked.sendData calls.sendData
  rwa [Recovery.restart_congr state] at again
  · unfold TCPNewReno.partialAck
    exact TCPTahoeRenoFamilyStateVariables.sendData_sndMss _ _
  · unfold TCPNewReno.partialAck
    exact TCPTahoeRenoFamilyStateVariables.sendData_increasedIWEnabled _ _

variable {state' : TCPNewRenoStateVariables}

lemma receivedDataAck_of_not_lossRecovery {ack : UInt32} (outside : state.lossRecovery = false)
    (next : receivedDataAck state calls ack = some state') :
    state'.lossRecovery = false ∧ state'.sndMss = state.sndMss ∧
      state'.ssthresh = state.ssthresh := by
  unfold receivedDataAck at next
  rw [outside, if_neg Bool.false_ne_true] at next
  obtain ⟨grown, grows, eq⟩ := Option.bind_eq_some_iff.mp next
  have unchanged := state.growCwnd_eq grows
  cases eq
  rw [TCPTahoeRenoFamilyStateVariables.sendData_lossRecovery,
    TCPTahoeRenoFamilyStateVariables.sendData_sndMss,
    TCPTahoeRenoFamilyStateVariables.sendData_ssthresh]
  rw [unchanged]
  exact ⟨outside, rfl, rfl⟩

lemma segment_cases (next : step state (.segment tcpseg calls) = some state') :
    state.duplicates tcpseg ∧
        state' = receivedDuplicateAck (state.countDuplicate tcpseg) calls ∨
      isPartialAck state tcpseg ∧
        state' = { (partialAck (state.dataAcked tcpseg) calls state.sndUna).sendData
          calls.sendData with dupacks := 0 } ∨
      ¬ state.duplicates tcpseg ∧ ¬ isPartialAck state tcpseg ∧
        state'.sndMss = state.sndMss ∧ state'.ssthresh = state.ssthresh ∧
        (state'.lossRecovery = false ∨ state'.lossRecovery = state.lossRecovery ∧
          state'.sndCwnd = state.sndCwnd) := by
  dsimp only [step] at next
  rcases TCPTahoeRenoFamilyStateVariables.processAckInEstabEtc_cases next with
    duplicate | ⟨acksData, acked, run, rfl⟩ | ⟨notDuplicate, notAck, rfl | rfl⟩
  · exact .inl duplicate
  · have notDuplicate := TCPTahoeRenoFamilyStateVariables.not_duplicates acksData.1
    rcases outside : state.lossRecovery with - | -
    · obtain ⟨loss, mss, ssthresh⟩ :=
        receivedDataAck_of_not_lossRecovery
          (show (state.dataAcked tcpseg).lossRecovery = false from outside) run
      refine .inr (.inr ⟨notDuplicate, fun isPartial => ?_, mss, ssthresh, .inl loss⟩)
      exact Bool.false_ne_true (outside.symm.trans isPartial.2.1)
    · change receivedDataAck (state.dataAcked tcpseg) calls state.sndUna = some acked at run
      unfold receivedDataAck at run
      rw [if_pos (show (state.dataAcked tcpseg).lossRecovery = true from outside)] at run
      split_ifs at run with full
      · cases run
        refine .inr (.inr ⟨notDuplicate, fun isPartial => isPartial.2.2 full, ?_, ?_, .inl ?_⟩)
        · exact TCPTahoeRenoFamilyStateVariables.sendData_sndMss _ _
        · exact TCPTahoeRenoFamilyStateVariables.sendData_ssthresh _ _
        · exact TCPTahoeRenoFamilyStateVariables.sendData_lossRecovery _ _
      · cases run
        exact .inr (.inl ⟨⟨acksData, outside, full⟩, rfl⟩)
  · exact .inr (.inr ⟨notDuplicate, fun isPartial => notAck isPartial.1, rfl, rfl, .inr ⟨rfl, rfl⟩⟩)
  · exact .inr (.inr ⟨notDuplicate, fun isPartial => notAck isPartial.1, rfl, rfl, .inr ⟨rfl, rfl⟩⟩)

lemma Kept.step {event : Event} (kept : Kept state recovery)
    (covered : Covered (state, recovery) event)
    (next : step state event = some state') : Kept state' (account state event recovery) := by
  cases event with
  | segment tcpseg calls =>
    rcases segment_cases next with ⟨duplicates, rfl⟩ | ⟨isPartial, rfl⟩ |
      ⟨notDuplicate, notPartial, mss, ssthresh, window⟩
    · exact kept.duplicate duplicates
    · have after := kept.partialAck calls isPartial (covered isPartial)
      exact ⟨after.mss, after.ssthresh, after.tells⟩
    · dsimp only [account]
      rw [if_neg notPartial, if_neg fun starts => notDuplicate starts.1,
        if_neg fun inflates => notDuplicate inflates.1]
      refine ⟨mss ▸ kept.mss, ssthresh ▸ kept.ssthresh, fun inRecovery => ?_⟩
      rcases window with ended | ⟨same, sndCwnd⟩
      · exact absurd (ended.symm.trans inRecovery) Bool.false_ne_true
      · rw [sndCwnd]
        exact kept.tells (same ▸ inRecovery)
  | rexmitTimeout retransmitOneSegment =>
    cases next
    exact .of_not_lossRecovery kept.mss (slowStartThreshold_ne_zero kept.mss) rfl
  | sendCommand call =>
    cases next
    exact kept.sendData call

lemma receivedDataAck_isSome (ssthresh : state.ssthresh ≠ 0) (ack : UInt32) :
    (receivedDataAck state calls ack).isSome := by
  unfold receivedDataAck
  split_ifs
  · rfl
  · rfl
  · obtain ⟨grown, grows⟩ := Option.isSome_iff_exists.mp (state.growCwnd_isSome ssthresh)
    rw [grows]
    rfl

lemma Kept.step_isSome (kept : Kept state recovery) (event : Event) :
    (TCPNewReno.step state event).isSome := by
  cases event with
  | segment tcpseg calls =>
    dsimp only [TCPNewReno.step]
    refine TCPTahoeRenoFamilyStateVariables.processAckInEstabEtc_isSome fun _ => ?_
    exact receivedDataAck_isSome
      (show (state.dataAcked tcpseg).ssthresh ≠ 0 from kept.ssthresh) state.sndUna
  | rexmitTimeout | sendCommand => rfl

lemma partialAck_sndCwnd_le {ack : UInt32} (enough : state.sndUna - ack ≤ state.sndCwnd) :
    ((partialAck state calls ack).sendData calls.sendData).sndCwnd.toNat ≤
      state.sndCwnd.toNat + state.sndMss.toNat := by
  have deflated : (deflatedCwnd (state.after calls.retransmitOneSegment) ack).toNat ≤
      state.sndCwnd.toNat := by
    have rest := UInt32.toNat_sub_of_le _ _ enough
    rw [le_iff_toNat_le] at enough
    change (if state.sndMss ≤ state.sndUna - ack then
      state.sndCwnd - (state.sndUna - ack) + state.sndMss
      else state.sndCwnd - (state.sndUna - ack)).toNat ≤ _
    simp only [le_iff_toNat_le]
    split
    case isTrue segment =>
      rw [UInt32.toNat_add, rest]
      omega
    case isFalse short => omega
  have first : (partialAck state calls ack).sndCwnd.toNat ≤
      max state.sndCwnd.toNat state.sndMss.toNat := by
    refine (TCPTahoeRenoFamilyStateVariables.sendData_sndCwnd_le _ _).trans ?_
    exact Nat.max_le_of_le_of_le (deflated.trans (Nat.le_max_left _ _)) (Nat.le_max_right _ _)
  have mss : (partialAck state calls ack).sndMss = state.sndMss :=
    TCPTahoeRenoFamilyStateVariables.sendData_sndMss _ _
  have second := (partialAck state calls ack).sendData_sndCwnd_le calls.sendData
  rw [mss] at second
  omega

lemma Kept.windowSafe_iff (kept : Kept state recovery) (event : Event) :
    WindowSafe state event ↔ Covered (state, recovery) event := by
  cases event with
  | segment tcpseg calls =>
    constructor
    · intro safe isPartial
      have enough := (safe.2 isPartial).1
      rw [le_iff_toNat_le, (kept.tells isPartial.2.1).window] at enough
      exact enough
    · intro covered
      refine ⟨kept.step_isSome _, fun isPartial => ?_⟩
      have enough := covered isPartial
      rw [← (kept.tells isPartial.2.1).window, ← le_iff_toNat_le] at enough
      refine ⟨enough, fun state' next => ?_⟩
      rcases segment_cases next with ⟨duplicates, -⟩ | ⟨-, rfl⟩ | ⟨-, notPartial, -⟩
      · exact absurd isPartial.1 (TCPTahoeRenoFamilyStateVariables.not_acksData duplicates)
      · exact partialAck_sndCwnd_le (show (state.dataAcked tcpseg).sndUna - state.sndUna ≤
          (state.dataAcked tcpseg).sndCwnd from enough)
      · exact absurd isPartial notPartial
  | rexmitTimeout | sendCommand => exact iff_of_true ⟨kept.step_isSome _, trivial⟩ trivial

/-- A connection when it is established. -/
structure Established (state : TCPNewRenoStateVariables) : Prop where
  mss : 2 * state.sndMss ≠ 0
  ssthresh : state.ssthresh = 7500000
  sndCwnd : ∃ synRexmitCount, state.sndCwnd = state.initialCwnd synRexmitCount
  lossRecovery : state.lossRecovery = false

/-- Each partial ACK deflates the window within its bounds exactly when it acknowledges no more than
the account of its fast recovery holds. -/
theorem deflation_iff (established : Established state) (recovery : Recovery)
    (events : List Event) :
    Along step WindowSafe state events ↔
      Along (withHistory step account) Covered (state, recovery) events := by
  rw [← along_withHistory account recovery]
  refine along_iff (I := fun p => Kept p.1 p.2) (fun kept => kept.windowSafe_iff _)
    (fun {p event p'} kept covered next => ?_) ?_
  · obtain ⟨state', next', rfl⟩ := Option.map_eq_some_iff.mp next
    exact kept.step covered next'
  · refine .of_not_lossRecovery established.mss ?_ established.lossRecovery
    rw [established.ssthresh]
    decide

/-- A connection with segments of 1000 octets. -/
def newConnection : TCPNewRenoStateVariables :=
  { sndUna := 1, sndNxt := 1, sndMax := 1, sndWnd := 65535, sndMss := 1000, sndCwnd := 1000 }

/-- The ACK `ackNo`, after which everything up to `sndMax` is out. -/
def ackEvent (ackNo sndMax : UInt32) : Event :=
  .segment { ackNo := ackNo, sndWnd := 65535 }
    { sendOneNewSegment := ⟨sndMax, sndMax⟩
      retransmitOneSegment := ⟨sndMax, sndMax⟩
      sendDataAtPartialAck := { sndNxt := sndMax, sndMax := sndMax }
      sendData := { sndNxt := sndMax, sndMax := sndMax } }

/-- Slow start up to eleven segments. Then the first is lost, and all but three of the duplicate
ACKs, and a partial ACK arrives. -/
def lossyEvents (partialAckNo : UInt32) : List Event :=
  .sendCommand { sndNxt := 1001, sndMax := 1001 } ::
    (List.range 10).map (fun i => ackEvent (serial (1000 * i + 1001)) (serial (2000 * i + 3001))) ++
      List.replicate 3 (ackEvent 10001 21001) ++ [ackEvent partialAckNo 21001]

lemma established_newConnection : Established newConnection where
  mss := by decide
  ssthresh := rfl
  sndCwnd := ⟨0, by decide⟩
  lossRecovery := rfl

/-- Eight segments are in the account of the window of eight and a half. -/
theorem deflation_within : Along step WindowSafe newConnection (lossyEvents 18001) :=
  (deflation_iff established_newConnection {} _).mpr (by decide +kernel)

/-- The partial ACK of ten segments, all but the last one, leaves a window of almost 4 GiB. -/
theorem deflation_underflows :
    Established newConnection ∧
      (runFrom step newConnection (lossyEvents 20001)).map (fun state => state.sndCwnd) =
        some 4294966796 ∧
      ¬ Along step WindowSafe newConnection (lossyEvents 20001) := by
  refine ⟨established_newConnection, ?_, ?_⟩
  · decide +kernel
  · decide +kernel

lemma Kept.of_positive (mss : 2 * state.sndMss ≠ 0) (ssthresh : state.ssthresh ≠ 0) :
    Kept state { base := state.sndCwnd.toNat } :=
  ⟨mss, ssthresh, fun _ => Recovery.tells_base _⟩

open TCPTahoeRenoFamilyStateVariables in
lemma step_positive {event : Event} (mss : 2 * state.sndMss ≠ 0) (ssthresh : state.ssthresh ≠ 0)
    (next : step state event = some state') : 2 * state'.sndMss ≠ 0 ∧ state'.ssthresh ≠ 0 := by
  have kept := Kept.of_positive mss ssthresh
  cases event with
  | segment tcpseg calls =>
    rcases segment_cases next with ⟨duplicates, rfl⟩ | ⟨-, rfl⟩ | ⟨-, -, sndMss, threshold, -⟩
    · exact ⟨(kept.duplicate duplicates).mss, (kept.duplicate duplicates).ssthresh⟩
    · simp only [partialAck, sendData_sndMss, sendData_ssthresh]
      exact ⟨mss, ssthresh⟩
    · rw [sndMss, threshold]
      exact ⟨mss, ssthresh⟩
  | rexmitTimeout retransmitOneSegment =>
    cases next
    exact ⟨mss, slowStartThreshold_ne_zero mss⟩
  | sendCommand call =>
    cases next
    exact ⟨(kept.sendData call).mss, (kept.sendData call).ssthresh⟩

/-- TCPNewReno divides by no threshold of zero, even where its window has wrapped. -/
theorem never_divides_by_zero (established : Established state) (events : List Event) :
    (runFrom step state events).isSome := by
  have positive : 2 * state.sndMss ≠ 0 ∧ state.ssthresh ≠ 0 :=
    ⟨established.mss, by rw [established.ssthresh]; decide⟩
  clear established
  induction events generalizing state with
  | nil => rfl
  | cons event events ih =>
    obtain ⟨next, ok⟩ := Option.isSome_iff_exists.mp
      ((Kept.of_positive positive.1 positive.2).step_isSome event)
    rw [runFrom, ok]
    exact ih (step_positive positive.1 positive.2 ok)

theorem never_divides_by_zero_lossy : (runFrom step newConnection (lossyEvents 20001)).isSome :=
  never_divides_by_zero established_newConnection _

end TCPNewReno

end Inet.Tcp
