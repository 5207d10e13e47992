import Inet.Lib.Along
import Inet.Tcp.Flavours.TCPTahoeRenoFamily

/-!
# DCTCP

The algorithm on an established connection with `param2` at 0, where no logarithm is taken of the
ratio of marked octets. Rational numbers stand for the `double`s. The pace timer is never started.
-/

namespace Inet.Tcp.DCTCP

open Nat UInt32

/-- What the calls of a callback that send leave, by the place they are called from. -/
structure Calls where
  sendOneNewSegment : Sent
  retransmitOneSegment : Sent
  sendDataDuringLossRecoveryPhase : Sent
  sendData : SendDataCall

variable (state : TCPTahoeRenoFamilyStateVariables)

def recalculateSlowStartThreshold : TCPTahoeRenoFamilyStateVariables :=
  { state with ssthresh := state.slowStartThreshold }

/-- `processRexmitTimer` when the connection is not given up. -/
def processRexmitTimer (retransmitOneSegment : Sent) : TCPTahoeRenoFamilyStateVariables :=
  let state := recalculateSlowStartThreshold { state with
    recoveryPoint :=
      if state.sackEnabled ∧ state.lossRecovery then state.sndMax else state.recoveryPoint
    lossRecovery := state.lossRecovery && !state.sackEnabled }
  { state with sndCwnd := state.sndMss, afterRto := true }.after retransmitOneSegment

def countAck : TCPTahoeRenoFamilyStateVariables :=
  { state with
    dctcpTotal := state.dctcpTotal + 1
    dctcpMarked := state.dctcpMarked + if state.ece then 1 else 0 }

/-- The share of marked octets since the last window boundary. -/
def ratio : ℚ := state.dctcpBytesMarked / state.dctcpBytesAcked

/-- A window of data has been acknowledged: the estimate is updated. -/
def updateAlpha : TCPTahoeRenoFamilyStateVariables :=
  { state with
    dctcpAlpha := (1 - state.dctcpGamma) * state.dctcpAlpha + state.dctcpGamma * ratio state
    dctcpMarked := 0
    dctcpTotal := 0
    dctcpWindEnd := state.sndNxt
    dctcpBytesAcked := 0
    dctcpBytesMarked := 0
    dctcpCWR := false }

/-- The variables once the ACK is counted, `firstSeqAcked` being the first octet it acknowledges. -/
def estimate (firstSeqAcked : UInt32) : TCPTahoeRenoFamilyStateVariables :=
  let state := countAck state
  if state.dctcpWindEnd ≤ firstSeqAcked then updateAlpha state else state

/-- Is the window to be cut? -/
def mustCut : Prop := state.dctcpBytesMarked ≠ 0 ∧ ¬ state.dctcpCWR

instance : Decidable (mustCut state) := inferInstanceAs (Decidable (_ ∧ ¬ _))

/-- `snd_cwnd * (1 - dctcp_alpha / 2)` as an integer. -/
def cutCwnd : UInt32 := UInt32.ofNat ⌊(state.sndCwnd.toNat : ℚ) * (1 - state.dctcpAlpha / 2)⌋.toNat

def cut : TCPTahoeRenoFamilyStateVariables :=
  let flightSize := min (cutCwnd state) state.sndWnd
  { state with
    dctcpCWR := true
    sndCwnd := cutCwnd state
    ssthresh := max (3 * flightSize / 4) (2 * state.sndMss) }

/-- The window when something new is acknowledged. -/
def adjustWindow (firstSeqAcked : UInt32) : Option TCPTahoeRenoFamilyStateVariables :=
  if DUPTHRESH ≤ state.dupacks then some { state with sndCwnd := state.ssthresh }
  else
    let state := estimate state firstSeqAcked
    if mustCut state then some (cut state) else state.growCwnd

/-- The loss recovery of RFC 3517, where SACK is enabled. -/
def recover (calls : Calls) : TCPTahoeRenoFamilyStateVariables :=
  if state.sackEnabled ∧ state.lossRecovery then
    if seqGE state.sndUna state.recoveryPoint then { state with lossRecovery := false }
    else state.after calls.sendDataDuringLossRecoveryPhase
  else state

def receivedDataAck (calls : Calls) (firstSeqAcked : UInt32) :
    Option TCPTahoeRenoFamilyStateVariables := do
  let adjusted ← adjustWindow state firstSeqAcked
  return (recover adjusted calls).sendData calls.sendData

/-- The variables when fast recovery starts. -/
def enterFastRecovery : TCPTahoeRenoFamilyStateVariables :=
  let starts := state.sackEnabled ∧
    (state.recoveryPoint = 0 ∨ seqGE state.sndUna state.recoveryPoint)
  let state := recalculateSlowStartThreshold { state with
    recoveryPoint := if starts then state.sndMax else state.recoveryPoint
    lossRecovery := state.lossRecovery || starts }
  { state with sndCwnd := state.ssthresh + 3 * state.sndMss }

def fastRetransmit (calls : Calls) : TCPTahoeRenoFamilyStateVariables :=
  let state := (enterFastRecovery state).after calls.retransmitOneSegment
  let state :=
    if state.sackEnabled ∧ state.lossRecovery then
      state.after calls.sendDataDuringLossRecoveryPhase
    else state
  state.sendData calls.sendData

def receivedDuplicateAck (calls : Calls) : TCPTahoeRenoFamilyStateVariables :=
  let state := state.baseReceivedDuplicateAck calls.sendOneNewSegment
  if state.dupacks = DUPTHRESH then fastRetransmit state calls
  else if DUPTHRESH < state.dupacks then
    { state with sndCwnd := state.sndCwnd + state.sndMss }.sendData calls.sendData
  else state

inductive Event where
  | segment (tcpseg : AckSegment) (calls : Calls)
  | rexmitTimeout (retransmitOneSegment : Sent)
  | sendCommand (call : SendDataCall)

def step : TCPTahoeRenoFamilyStateVariables → Event → Option TCPTahoeRenoFamilyStateVariables
  | state, .segment tcpseg calls =>
      state.processAckInEstabEtc
        (fun firstSeqAcked state => receivedDataAck state calls firstSeqAcked)
        (fun state => receivedDuplicateAck state calls) tcpseg
  | state, .rexmitTimeout retransmitOneSegment =>
      some (processRexmitTimer state retransmitOneSegment)
  | state, .sendCommand call => some (state.sendData call)

/-- A window boundary: everything that was out at the last one is acknowledged. -/
def isBoundary (tcpseg : AckSegment) : Prop :=
  state.acksData tcpseg ∧ state.dupacks < DUPTHRESH ∧ state.dctcpWindEnd ≤ state.sndUna

instance (tcpseg : AckSegment) : Decidable (isBoundary state tcpseg) :=
  inferInstanceAs (Decidable (_ ∧ _ ∧ _))

/-- Does the segment make the window be cut? -/
def isCut (tcpseg : AckSegment) : Prop :=
  state.acksData tcpseg ∧ state.dupacks < DUPTHRESH ∧
    mustCut (estimate (state.dataAcked tcpseg) state.sndUna)

instance (tcpseg : AckSegment) : Decidable (isCut state tcpseg) :=
  inferInstanceAs (Decidable (_ ∧ _ ∧ _))

/-- The number of cuts since the last window boundary. -/
def countCuts (state : TCPTahoeRenoFamilyStateVariables) : Event → ℕ → ℕ
  | .segment tcpseg _, cuts =>
      (if isBoundary state tcpseg then 0 else cuts) + if isCut state tcpseg then 1 else 0
  | _, cuts => cuts

/-- What the step adds to `snd_cwnd` fits into its 32 bits. -/
def Fits (state : TCPTahoeRenoFamilyStateVariables) : Event → Prop
  | .segment tcpseg _ =>
      (state.duplicates tcpseg → state.dupacks + 1 = DUPTHRESH →
        (state.countDuplicate tcpseg).slowStartThreshold.toNat + 3 * state.sndMss.toNat <
          4294967296) ∧
      (state.duplicates tcpseg → DUPTHRESH < state.dupacks + 1 →
        state.sndCwnd.toNat + state.sndMss.toNat < 4294967296) ∧
      (state.acksData tcpseg → state.dupacks < DUPTHRESH → ¬ isCut state tcpseg →
        state.grownSize < 4294967296)
  | _ => True

instance : ∀ event, Decidable (Fits state event)
  | .segment _ _ => inferInstanceAs (Decidable ((_ → _ → _) ∧ (_ → _ → _) ∧ (_ → _ → _ → _)))
  | .rexmitTimeout _ | .sendCommand _ => inferInstanceAs (Decidable True)

variable {state} {tcpseg : AckSegment} {calls : Calls} {cuts : ℕ} {firstSeqAcked : UInt32}

structure EstimatorKept (state : TCPTahoeRenoFamilyStateVariables) (cuts : ℕ) : Prop where
  gamma : 0 ≤ state.dctcpGamma ∧ state.dctcpGamma ≤ 1
  alpha : 0 ≤ state.dctcpAlpha ∧ state.dctcpAlpha ≤ 1
  marked : state.dctcpBytesMarked ≤ state.dctcpBytesAcked
  atMostOnce : cuts ≤ 1
  uncut : state.dctcpCWR = false → cuts = 0

/-- The variables of the estimator and the flag of the cut. -/
def estimatorVars (state : TCPTahoeRenoFamilyStateVariables) : ℚ × ℚ × ℕ × ℕ × Bool :=
  (state.dctcpGamma, state.dctcpAlpha, state.dctcpBytesAcked, state.dctcpBytesMarked,
    state.dctcpCWR)

variable {state' : TCPTahoeRenoFamilyStateVariables}

lemma EstimatorKept.of_eq (kept : EstimatorKept state cuts)
    (same : estimatorVars state' = estimatorVars state) : EstimatorKept state' cuts := by
  simp only [estimatorVars, Prod.mk.injEq] at same
  obtain ⟨gamma, alpha, bytesAcked, bytesMarked, flag⟩ := same
  refine ⟨?_, ?_, ?_, kept.atMostOnce, ?_⟩
  · rw [gamma]
    exact kept.gamma
  · rw [alpha]
    exact kept.alpha
  · rw [bytesAcked, bytesMarked]
    exact kept.marked
  · rw [flag]
    exact kept.uncut

lemma ratio_range (marked : state.dctcpBytesMarked ≤ state.dctcpBytesAcked) :
    0 ≤ ratio state ∧ ratio state ≤ 1 := by
  have le : (state.dctcpBytesMarked : ℚ) ≤ state.dctcpBytesAcked := cast_le.mpr marked
  exact ⟨div_nonneg (cast_nonneg _) (cast_nonneg _), div_le_one_of_le₀ le (cast_nonneg _)⟩

lemma EstimatorKept.updateAlpha (kept : EstimatorKept state cuts) :
    EstimatorKept (updateAlpha state) 0 where
  gamma := kept.gamma
  alpha := by
    obtain ⟨gammaPos, gammaLe⟩ := kept.gamma
    obtain ⟨alphaPos, alphaLe⟩ := kept.alpha
    obtain ⟨ratioPos, ratioLe⟩ := ratio_range kept.marked
    have rest : 0 ≤ 1 - state.dctcpGamma := sub_nonneg.mpr gammaLe
    constructor
    · exact add_nonneg (mul_nonneg rest alphaPos) (mul_nonneg gammaPos ratioPos)
    · calc (1 - state.dctcpGamma) * state.dctcpAlpha + state.dctcpGamma * ratio state
          ≤ (1 - state.dctcpGamma) * 1 + state.dctcpGamma * 1 :=
            add_le_add (mul_le_mul_of_nonneg_left alphaLe rest)
              (mul_le_mul_of_nonneg_left ratioLe gammaPos)
        _ = 1 := by ring
  marked := le_rfl
  atMostOnce := zero_le 1
  uncut _ := rfl

lemma EstimatorKept.dataAcked (kept : EstimatorKept state cuts) (tcpseg : AckSegment) :
    EstimatorKept (state.dataAcked tcpseg) cuts where
  gamma := kept.gamma
  alpha := kept.alpha
  marked := by
    refine Nat.add_le_add kept.marked ?_
    split
    · exact le_rfl
    · exact Nat.zero_le _
  atMostOnce := kept.atMostOnce
  uncut := kept.uncut

lemma EstimatorKept.estimate (kept : EstimatorKept state cuts) (firstSeqAcked : UInt32) :
    EstimatorKept (estimate state firstSeqAcked)
      (if state.dctcpWindEnd ≤ firstSeqAcked then 0 else cuts) := by
  have counted : EstimatorKept (countAck state) cuts := kept.of_eq rfl
  unfold DCTCP.estimate
  dsimp only
  split_ifs with boundary others others
  · exact counted.updateAlpha
  · exact absurd boundary others
  · exact absurd others boundary
  · exact counted

lemma dataAcked_bytesAcked_pos (acksData : state.acksData tcpseg) :
    0 < (state.dataAcked tcpseg).dctcpBytesAcked := by
  have apart : tcpseg.ackNo - state.sndUna ≠ 0 := by
    intro zero
    have same := UInt32.sub_add_cancel tcpseg.ackNo state.sndUna
    rw [zero, UInt32.zero_add] at same
    have newer := acksData.1
    rw [same] at newer
    exact newer (seqGE_refl _)
  exact Nat.add_pos_right _ (UInt32.pos_iff_ne_zero.mpr apart)

/-! ## The window -/

/-- The window is half a segment at least. -/
structure WindowBase (state : TCPTahoeRenoFamilyStateVariables) : Prop where
  mss : 2 ≤ state.sndMss.toNat
  fits : 2 * state.sndMss.toNat < 4294967296
  initialFits : state.increasedIWEnabled = true → 4 * state.sndMss.toNat < 4294967296
  sndCwnd : state.sndMss.toNat / 2 ≤ state.sndCwnd.toNat
  threshold : 2 * state.sndMss.toNat ≤ state.ssthresh.toNat ∨
    0 < state.ssthresh.toNat ∧ state.dupacks < DUPTHRESH ∧ state.sndMss.toNat ≤ state.sndCwnd.toNat

/-- It is a segment at least where it may be cut. -/
structure WindowKept (state : TCPTahoeRenoFamilyStateVariables) : Prop
    extends WindowBase state where
  uncut : state.dctcpCWR = false → state.sndMss.toNat ≤ state.sndCwnd.toNat

/-- The variables that the invariant of the window is about. -/
def windowVars (state : TCPTahoeRenoFamilyStateVariables) :
    UInt32 × Bool × UInt32 × UInt32 × UInt32 :=
  (state.sndMss, state.increasedIWEnabled, state.sndCwnd, state.ssthresh, state.dupacks)

lemma WindowBase.of_eq (kept : WindowBase state)
    (same : windowVars state' = windowVars state) : WindowBase state' := by
  simp only [windowVars, Prod.mk.injEq] at same
  obtain ⟨mss, iw, sndCwnd, ssthresh, dupacks⟩ := same
  refine ⟨?_, ?_, ?_, ?_, ?_⟩
  · rw [mss]
    exact kept.mss
  · rw [mss]
    exact kept.fits
  · rw [mss, iw]
    exact kept.initialFits
  · rw [mss, sndCwnd]
    exact kept.sndCwnd
  · rw [mss, sndCwnd, ssthresh, dupacks]
    exact kept.threshold

lemma half_le_cutCwnd (alpha : 0 ≤ state.dctcpAlpha ∧ state.dctcpAlpha ≤ 1) :
    state.sndCwnd.toNat / 2 ≤ (cutCwnd state).toNat := by
  have below : ⌊(state.sndCwnd.toNat : ℚ) * (1 - state.dctcpAlpha / 2)⌋ ≤
      (state.sndCwnd.toNat : ℤ) := by
    refine Int.floor_le_iff.mpr ?_
    push_cast
    nlinarith
  have above : ((state.sndCwnd.toNat / 2 : ℕ) : ℤ) ≤
      ⌊(state.sndCwnd.toNat : ℚ) * (1 - state.dctcpAlpha / 2)⌋ := by
    refine Int.le_floor.mpr ?_
    calc ((state.sndCwnd.toNat / 2 : ℕ) : ℚ) ≤ (state.sndCwnd.toNat : ℚ) / 2 := cast_div_le
      _ ≤ state.sndCwnd.toNat * (1 - state.dctcpAlpha / 2) := by nlinarith
  have lt := state.sndCwnd.toNat_lt
  unfold cutCwnd
  generalize ⌊(state.sndCwnd.toNat : ℚ) * (1 - state.dctcpAlpha / 2)⌋ = window at below above ⊢
  have fits : window.toNat < 4294967296 := by omega
  rw [toNat_ofNat_of_lt' fits]
  omega

lemma toNat_mul_of_lt {a b : UInt32} (fits : a.toNat * b.toNat < 4294967296) :
    (a * b).toNat = a.toNat * b.toNat := by
  rw [UInt32.toNat_mul, Nat.mod_eq_of_lt fits]

lemma twoSegments_le_threshold (fits : 2 * state.sndMss.toNat < 4294967296) :
    2 * state.sndMss.toNat ≤ state.slowStartThreshold.toNat := by
  have twice : (2 * state.sndMss).toNat = 2 * state.sndMss.toNat := toNat_mul_of_lt fits
  unfold TCPTahoeRenoFamilyStateVariables.slowStartThreshold
  rw [toNat_max, twice]
  exact le_max_right _ _

lemma mss_le_increasedIW (fits : 2 * state.sndMss.toNat < 4294967296)
    (initialFits : 4 * state.sndMss.toNat < 4294967296) :
    state.sndMss.toNat ≤ state.increasedIW.toNat := by
  have twice : (2 * state.sndMss).toNat = 2 * state.sndMss.toNat := toNat_mul_of_lt fits
  have four : (4 * state.sndMss).toNat = 4 * state.sndMss.toNat := toNat_mul_of_lt initialFits
  unfold TCPTahoeRenoFamilyStateVariables.increasedIW
  rw [toNat_min, toNat_max, four, twice]
  omega

namespace WindowBase

variable (kept : WindowBase state)

include kept

lemma twoSegments : (2 * state.sndMss).toNat = 2 * state.sndMss.toNat :=
  toNat_mul_of_lt kept.fits

lemma mss_le_restartCwnd_or (call : SendDataCall) :
    state.sndMss.toNat ≤ (state.sendData call).sndCwnd.toNat ∨
      (state.sendData call).sndCwnd = state.sndCwnd := by
  rw [TCPTahoeRenoFamilyStateVariables.sendData_sndCwnd]
  unfold TCPTahoeRenoFamilyStateVariables.restartCwnd
  split_ifs with restarts increased
  · have wide := mss_le_increasedIW kept.fits (kept.initialFits increased)
    rcases Nat.le_total state.increasedIW.toNat state.sndCwnd.toNat with le | ge
    · rw [toNat_min]
      omega
    · right
      refine UInt32.toNat_inj.mp ?_
      rw [toNat_min]
      omega
  · exact .inl le_rfl
  · exact .inr rfl

lemma growCwnd {grown : TCPTahoeRenoFamilyStateVariables} (sumFits : state.grownSize < 4294967296)
    (grows : state.growCwnd = some grown) : WindowKept grown := by
  have wide : state.sndMss.toNat ≤ grown.sndCwnd.toNat := by
    unfold TCPTahoeRenoFamilyStateVariables.grownSize at sumFits
    unfold TCPTahoeRenoFamilyStateVariables.growCwnd at grows
    split_ifs at grows sumFits with slow zero
    · cases grows
      rw [UInt32.toNat_add, Nat.mod_eq_of_lt sumFits]
      exact le_add_left _ _
    · cases grows
      rw [UInt32.toNat_add, Nat.mod_eq_of_lt sumFits]
      rw [lt_iff_toNat_lt] at slow
      have threshold := kept.threshold
      omega
  have threshold := kept.threshold
  rw [state.growCwnd_eq grows]
  exact ⟨⟨kept.mss, kept.fits, kept.initialFits, (Nat.div_le_self _ _).trans wide,
    threshold.imp_right fun low => ⟨low.1, low.2.1, wide⟩⟩, fun _ => wide⟩

lemma cut (alpha : 0 ≤ state.dctcpAlpha ∧ state.dctcpAlpha ≤ 1)
    (wide : state.sndMss.toNat ≤ state.sndCwnd.toNat) : WindowKept (cut state) := by
  have half := half_le_cutCwnd alpha
  refine ⟨⟨kept.mss, kept.fits, kept.initialFits, ?_, .inl ?_⟩, nofun⟩
  · exact (Nat.div_le_div_right wide).trans half
  · change 2 * state.sndMss.toNat ≤ (max _ (2 * state.sndMss)).toNat
    rw [toNat_max, kept.twoSegments]
    exact le_max_right _ _

lemma twice_of_recovered (recovered : DUPTHRESH ≤ state.dupacks) :
    2 * state.sndMss.toNat ≤ state.ssthresh.toNat := by
  rcases kept.threshold with twice | ⟨-, early, -⟩
  · exact twice
  · exact absurd early (UInt32.not_lt.mpr recovered)

end WindowBase

lemma WindowKept.of_wide (kept : WindowBase state)
    (wide : state.sndMss.toNat ≤ state.sndCwnd.toNat) : WindowKept state :=
  ⟨kept, fun _ => wide⟩

lemma WindowKept.sendData (kept : WindowKept state) (call : SendDataCall) :
    WindowKept (state.sendData call) := by
  have window := kept.mss_le_restartCwnd_or call
  have threshold := kept.threshold
  have half := kept.sndCwnd
  have uncut := kept.uncut
  rw [TCPTahoeRenoFamilyStateVariables.sendData_eq]
  rcases window with wide | same
  · exact ⟨⟨kept.mss, kept.fits, kept.initialFits, (div_le_self _ _).trans wide,
      threshold.imp_right fun low => ⟨low.1, low.2.1, wide⟩⟩, fun _ => wide⟩
  · rw [same]
    exact ⟨⟨kept.mss, kept.fits, kept.initialFits, half, threshold⟩, uncut⟩

/-! ## Steps -/

/-- The estimator and the window. -/
structure Kept (state : TCPTahoeRenoFamilyStateVariables) (cuts : ℕ) : Prop where
  estimator : EstimatorKept state cuts
  window : WindowKept state

lemma EstimatorKept.sendData (kept : EstimatorKept state cuts) (call : SendDataCall) :
    EstimatorKept (state.sendData call) cuts := by
  rw [TCPTahoeRenoFamilyStateVariables.sendData_eq]
  exact kept.of_eq rfl

lemma Kept.sendData (kept : Kept state cuts) (call : SendDataCall) :
    Kept (state.sendData call) cuts :=
  ⟨kept.estimator.sendData call, kept.window.sendData call⟩

lemma Kept.of_eq (kept : Kept state cuts) (estimator : estimatorVars state' = estimatorVars state)
    (window : windowVars state' = windowVars state) : Kept state' cuts := by
  refine ⟨kept.estimator.of_eq estimator, kept.window.of_eq window, ?_⟩
  simp only [estimatorVars, windowVars, Prod.mk.injEq] at estimator window
  rw [estimator.2.2.2.2, window.1, window.2.2.1]
  exact kept.window.uncut

lemma Kept.recover (kept : Kept state cuts) (calls : Calls) :
    Kept (recover state calls) cuts := by
  unfold DCTCP.recover
  split_ifs
  · exact kept.of_eq rfl rfl
  · exact kept.of_eq rfl rfl
  · exact kept

lemma mustCut_estimate (must : mustCut (estimate state firstSeqAcked)) :
    ¬ state.dctcpWindEnd ≤ firstSeqAcked ∧ state.dctcpCWR = false := by
  unfold DCTCP.estimate at must
  dsimp only at must
  split_ifs at must with boundary
  · exact absurd rfl must.1
  · exact ⟨boundary, Bool.eq_false_of_not_eq_true must.2⟩

lemma WindowBase.estimate (kept : WindowBase state) (firstSeqAcked : UInt32) :
    WindowBase (estimate state firstSeqAcked) := by
  unfold DCTCP.estimate
  dsimp only
  split_ifs <;> exact kept.of_eq rfl

lemma estimate_grownSize (firstSeqAcked : UInt32) :
    (estimate state firstSeqAcked).grownSize = state.grownSize := by
  unfold DCTCP.estimate
  dsimp only
  split_ifs <;> rfl

lemma estimate_wide (wide : state.sndMss.toNat ≤ state.sndCwnd.toNat) :
    (estimate state firstSeqAcked).sndMss.toNat ≤ (estimate state firstSeqAcked).sndCwnd.toNat := by
  unfold DCTCP.estimate
  dsimp only
  split_ifs <;> exact wide

lemma adjustWindow_cases {adjusted : TCPTahoeRenoFamilyStateVariables}
    (adjusts : adjustWindow state firstSeqAcked = some adjusted) :
    DUPTHRESH ≤ state.dupacks ∧ adjusted = { state with sndCwnd := state.ssthresh } ∨
      state.dupacks < DUPTHRESH ∧ mustCut (estimate state firstSeqAcked) ∧
        adjusted = cut (estimate state firstSeqAcked) ∨
      state.dupacks < DUPTHRESH ∧ ¬ mustCut (estimate state firstSeqAcked) ∧
        (estimate state firstSeqAcked).growCwnd = some adjusted := by
  unfold adjustWindow at adjusts
  dsimp only at adjusts
  split_ifs at adjusts with recovered must
  · exact .inl ⟨recovered, (Option.some.inj adjusts).symm⟩
  · exact .inr (.inl ⟨UInt32.not_le.mp recovered, must, (Option.some.inj adjusts).symm⟩)
  · exact .inr (.inr ⟨UInt32.not_le.mp recovered, must, adjusts⟩)

/-- The number of cuts since the last boundary once new data is acknowledged. -/
def cutsAfter (state : TCPTahoeRenoFamilyStateVariables) (firstSeqAcked : UInt32) (cuts : ℕ) : ℕ :=
  if state.dupacks < DUPTHRESH then
    (if state.dctcpWindEnd ≤ firstSeqAcked then 0 else cuts) +
      if mustCut (estimate state firstSeqAcked) then 1 else 0
  else cuts

lemma Kept.adjustWindow {adjusted : TCPTahoeRenoFamilyStateVariables} (kept : Kept state cuts)
    (sumFits : state.dupacks < DUPTHRESH → ¬ mustCut (estimate state firstSeqAcked) →
      state.grownSize < 4294967296)
    (adjusts : adjustWindow state firstSeqAcked = some adjusted) :
    Kept adjusted (cutsAfter state firstSeqAcked cuts) := by
  obtain ⟨estimator, window⟩ := kept
  have estimated := estimator.estimate firstSeqAcked
  unfold cutsAfter
  rcases adjustWindow_cases adjusts with ⟨recovered, rfl⟩ | ⟨early, must, rfl⟩ |
    ⟨early, notCut, grows⟩
  · rw [if_neg (UInt32.not_lt.mpr recovered)]
    have twice := window.twice_of_recovered recovered
    refine ⟨estimator.of_eq rfl, .of_wide ⟨window.mss, window.fits, window.initialFits, ?_, .inl twice⟩ ?_⟩
    · dsimp only
      omega
    · dsimp only
      omega
  · obtain ⟨inside, uncut⟩ := mustCut_estimate must
    rw [if_pos early, if_pos must]
    rw [if_neg inside] at estimated ⊢
    rw [estimator.uncut uncut] at estimated ⊢
    exact ⟨⟨estimated.gamma, estimated.alpha, estimated.marked, le_rfl, nofun⟩,
      (window.estimate firstSeqAcked).cut estimated.alpha (estimate_wide (window.uncut uncut))⟩
  · rw [if_pos early, if_neg notCut]
    have sumFits := sumFits early notCut
    rw [← estimate_grownSize firstSeqAcked] at sumFits
    refine ⟨?_, (window.estimate firstSeqAcked).growCwnd sumFits grows⟩
    rw [(estimate state firstSeqAcked).growCwnd_eq grows]
    exact estimated.of_eq rfl

lemma Kept.receivedDataAck {acked : TCPTahoeRenoFamilyStateVariables} (kept : Kept state cuts)
    (sumFits : state.dupacks < DUPTHRESH → ¬ mustCut (estimate state firstSeqAcked) →
      state.grownSize < 4294967296)
    (run : receivedDataAck state calls firstSeqAcked = some acked) :
    Kept acked (cutsAfter state firstSeqAcked cuts) := by
  obtain ⟨adjusted, adjusts, eq⟩ := Option.bind_eq_some_iff.mp run
  cases eq
  exact ((kept.adjustWindow sumFits adjusts).recover calls).sendData calls.sendData

lemma Kept.dataAcked (kept : Kept state cuts) (tcpseg : AckSegment) :
    Kept (state.dataAcked tcpseg) cuts := by
  obtain ⟨estimator, window⟩ := kept
  exact ⟨estimator.dataAcked tcpseg, ⟨window.of_eq rfl, window.uncut⟩⟩

lemma zero_lt_dupthresh : (0 : UInt32) < DUPTHRESH := by decide

lemma Kept.resetDupacks (kept : Kept state cuts) : Kept { state with dupacks := 0 } cuts := by
  obtain ⟨estimator, window⟩ := kept
  refine ⟨estimator.of_eq rfl, ⟨⟨window.mss, window.fits, window.initialFits, window.sndCwnd,
    ?_⟩, window.uncut⟩⟩
  exact window.threshold.imp_right fun low => ⟨low.1, zero_lt_dupthresh, low.2.2⟩

lemma Kept.of_wide (kept : Kept state cuts) (estimator : EstimatorKept state' cuts)
    (mss : state'.sndMss = state.sndMss) (iw : state'.increasedIWEnabled = state.increasedIWEnabled)
    (twice : 2 * state.sndMss.toNat ≤ state'.ssthresh.toNat)
    (wide : state.sndMss.toNat ≤ state'.sndCwnd.toNat) : Kept state' cuts := by
  have window := kept.window
  rw [← mss] at twice wide
  refine ⟨estimator, .of_wide ⟨?_, ?_, ?_, (div_le_self _ _).trans wide, .inl twice⟩ wide⟩
  · rw [mss]
    exact window.mss
  · rw [mss]
    exact window.fits
  · rw [mss, iw]
    exact window.initialFits

lemma Kept.after (kept : Kept state cuts) (sent : Sent) : Kept (state.after sent) cuts :=
  kept.of_eq rfl rfl

lemma Kept.enterFastRecovery (kept : Kept state cuts) (sent : Sent)
    (sumFits : (state.countDuplicate tcpseg).slowStartThreshold.toNat + 3 * state.sndMss.toNat <
      4294967296) : Kept (enterFastRecovery ((state.countDuplicate tcpseg).after sent)) cuts := by
  have three : (3 * state.sndMss).toNat = 3 * state.sndMss.toNat :=
    toNat_mul_of_lt ((Nat.le_add_left _ _).trans_lt sumFits)
  have twice : 2 * (state.countDuplicate tcpseg).sndMss.toNat ≤
      (state.countDuplicate tcpseg).slowStartThreshold.toNat :=
    twoSegments_le_threshold kept.window.fits
  refine kept.of_wide (kept.estimator.of_eq rfl) rfl rfl twice ?_
  change state.sndMss.toNat ≤
    ((state.countDuplicate tcpseg).slowStartThreshold + 3 * state.sndMss).toNat
  rw [UInt32.toNat_add, three, Nat.mod_eq_of_lt sumFits]
  omega

lemma Kept.fastRetransmit (kept : Kept (DCTCP.enterFastRecovery state) cuts) (calls : Calls) :
    Kept (fastRetransmit state calls) cuts := by
  have entered := kept.after calls.retransmitOneSegment
  unfold DCTCP.fastRetransmit
  dsimp only
  split
  · exact (entered.after _).sendData _
  · exact entered.sendData _

lemma Kept.countDuplicate (kept : Kept state cuts)
    (early : ¬ DUPTHRESH ≤ state.dupacks + 1) : Kept (state.countDuplicate tcpseg) cuts := by
  obtain ⟨estimator, window⟩ := kept
  exact ⟨estimator.of_eq rfl, ⟨⟨window.mss, window.fits, window.initialFits, window.sndCwnd,
    window.threshold.imp_right fun low => ⟨low.1, UInt32.not_le.mp early, low.2.2⟩⟩,
    window.uncut⟩⟩

lemma Kept.inflate (kept : Kept state cuts) (sent : Sent) (more : DUPTHRESH < state.dupacks + 1)
    (sumFits : state.sndCwnd.toNat + state.sndMss.toNat < 4294967296) :
    Kept { (state.countDuplicate tcpseg).after sent with
      sndCwnd := state.sndCwnd + state.sndMss } cuts := by
  have recovered : DUPTHRESH ≤ state.dupacks := by
    rw [UInt32.lt_iff_toNat_lt, UInt32.toNat_add] at more
    rw [UInt32.le_iff_toNat_le]
    have one : (1 : UInt32).toNat = 1 := rfl
    omega
  refine kept.of_wide (kept.estimator.of_eq rfl) rfl rfl
    (kept.window.twice_of_recovered recovered) ?_
  rw [UInt32.toNat_add, Nat.mod_eq_of_lt sumFits]
  exact Nat.le_add_left _ _

lemma Kept.duplicate (kept : Kept state cuts) (duplicates : state.duplicates tcpseg)
    (fits : Fits state (.segment tcpseg calls)) :
    Kept (receivedDuplicateAck (state.countDuplicate tcpseg) calls) cuts := by
  obtain ⟨sent, base⟩ := (state.countDuplicate tcpseg).exists_after_of_base calls.sendOneNewSegment
  unfold receivedDuplicateAck
  rw [base]
  dsimp only
  split_ifs with third more
  · exact (kept.enterFastRecovery sent (fits.1 duplicates third)).fastRetransmit calls
  · exact (kept.inflate sent more (fits.2.1 duplicates more)).sendData _
  · refine (kept.countDuplicate fun enough => ?_).after sent
    rcases UInt32.lt_or_eq_of_le enough with lt | eq
    · exact more lt
    · exact third eq.symm

lemma Kept.acknowledge (kept : Kept state cuts) : Kept (state.acknowledge tcpseg) cuts :=
  (kept.dataAcked tcpseg).of_eq rfl rfl

lemma cutsAfter_eq (acksData : state.acksData tcpseg) :
    cutsAfter (state.dataAcked tcpseg) state.sndUna cuts =
      countCuts state (.segment tcpseg calls) cuts := by
  unfold cutsAfter countCuts isBoundary isCut
  by_cases early : state.dupacks < DUPTHRESH
  · rw [if_pos (show (state.dataAcked tcpseg).dupacks < DUPTHRESH from early)]
    simp only [acksData, early, true_and]
    rfl
  · rw [if_neg (show ¬ (state.dataAcked tcpseg).dupacks < DUPTHRESH from early)]
    simp only [early, false_and, and_false, if_false]
    rfl

lemma countCuts_of_not_acksData (notAck : ¬ state.acksData tcpseg) :
    countCuts state (.segment tcpseg calls) cuts = cuts := by
  unfold countCuts isBoundary isCut
  simp only [notAck, false_and, if_false]
  rfl

lemma Kept.processRexmitTimer (kept : Kept state cuts) (retransmitOneSegment : Sent) :
    Kept (processRexmitTimer state retransmitOneSegment) cuts := by
  exact kept.of_wide (kept.estimator.of_eq rfl) rfl rfl
    (twoSegments_le_threshold kept.window.fits) le_rfl

lemma Kept.step {e : Event} (kept : Kept state cuts) (fits : Fits state e)
    (next : step state e = some state') : Kept state' (countCuts state e cuts) := by
  cases e with
  | segment tcpseg calls =>
    dsimp only [DCTCP.step] at next
    rcases TCPTahoeRenoFamilyStateVariables.processAckInEstabEtc_cases next with
      ⟨duplicates, rfl⟩ | ⟨acksData, acked, run, rfl⟩ | ⟨notDuplicate, notAck, rfl | rfl⟩
    · rw [countCuts_of_not_acksData (TCPTahoeRenoFamilyStateVariables.not_acksData duplicates)]
      exact kept.duplicate duplicates fits
    · rw [← cutsAfter_eq acksData]
      refine ((kept.dataAcked tcpseg).receivedDataAck (fun early notCut => ?_) run).resetDupacks
      exact fits.2.2 acksData early fun isCut => notCut isCut.2.2
    · rw [countCuts_of_not_acksData notAck]
      exact kept.resetDupacks
    · rw [countCuts_of_not_acksData notAck]
      exact kept.acknowledge
  | rexmitTimeout retransmitOneSegment =>
    cases next
    exact kept.processRexmitTimer retransmitOneSegment
  | sendCommand call =>
    cases next
    exact kept.sendData call

/-! ## The result -/

/-- The increment of the window has a divisor, and the ratio at a window boundary is one of marked
octets among some acknowledged ones. -/
structure StepSafe (state : TCPTahoeRenoFamilyStateVariables) (event : Event) : Prop where
  divides : (step state event).isSome
  ratio : ∀ tcpseg calls, event = .segment tcpseg calls → isBoundary state tcpseg →
    0 < (state.dataAcked tcpseg).dctcpBytesAcked ∧
      (state.dataAcked tcpseg).dctcpBytesMarked ≤ (state.dataAcked tcpseg).dctcpBytesAcked

/-- What holds of the variables, and of the number of cuts since the last window boundary. -/
structure InRange (state : TCPTahoeRenoFamilyStateVariables) (cuts : ℕ) : Prop where
  marked : state.dctcpBytesMarked ≤ state.dctcpBytesAcked
  alpha : 0 ≤ state.dctcpAlpha ∧ state.dctcpAlpha ≤ 1
  sndCwnd : state.sndMss / 2 ≤ state.sndCwnd
  atMostOnce : cuts ≤ 1

/-- A connection when it is established. -/
structure Established (state : TCPTahoeRenoFamilyStateVariables) : Prop where
  mss : 2 ≤ state.sndMss
  fits : 2 * state.sndMss.toNat < 4294967296
  initialFits : state.increasedIWEnabled = true → 4 * state.sndMss.toNat < 4294967296
  gamma : 0 ≤ state.dctcpGamma ∧ state.dctcpGamma ≤ 1
  alpha : state.dctcpAlpha = 0
  ssthresh : state.ssthresh = 7500000
  dupacks : state.dupacks = 0
  sndCwnd : ∃ synRexmitCount, state.sndCwnd = state.initialCwnd synRexmitCount
  bytesAcked : state.dctcpBytesAcked = 0
  bytesMarked : state.dctcpBytesMarked = 0

lemma Kept.inRange (kept : Kept state cuts) : InRange state cuts where
  marked := kept.estimator.marked
  alpha := kept.estimator.alpha
  sndCwnd := by
    rw [UInt32.le_iff_toNat_le, UInt32.toNat_div]
    exact kept.window.sndCwnd
  atMostOnce := kept.estimator.atMostOnce

lemma WindowBase.ssthresh_ne_zero (kept : WindowBase state) : state.ssthresh ≠ 0 := by
  intro zero
  have threshold := kept.threshold
  have mss := kept.mss
  rw [zero, UInt32.toNat_zero] at threshold
  omega

lemma receivedDataAck_isSome (ssthresh : state.ssthresh ≠ 0) (firstSeqAcked : UInt32) :
    (receivedDataAck state calls firstSeqAcked).isSome := by
  have adjusts : (adjustWindow state firstSeqAcked).isSome := by
    unfold adjustWindow
    dsimp only
    split_ifs
    · rfl
    · rfl
    · refine (estimate state firstSeqAcked).growCwnd_isSome ?_
      unfold estimate
      dsimp only
      split_ifs <;> exact ssthresh
  obtain ⟨adjusted, adjusts⟩ := Option.isSome_iff_exists.mp adjusts
  unfold receivedDataAck
  rw [adjusts]
  rfl

lemma Kept.stepSafe (kept : Kept state cuts) (e : Event) : StepSafe state e where
  divides := by
    cases e with
    | segment tcpseg calls =>
      dsimp only [DCTCP.step]
      refine TCPTahoeRenoFamilyStateVariables.processAckInEstabEtc_isSome fun _ => ?_
      exact receivedDataAck_isSome (kept.dataAcked tcpseg).window.ssthresh_ne_zero state.sndUna
    | rexmitTimeout | sendCommand => rfl
  ratio := by
    rintro tcpseg calls - boundary
    exact ⟨dataAcked_bytesAcked_pos boundary.1, (kept.estimator.dataAcked tcpseg).marked⟩

lemma Established.kept (established : Established state) : Kept state 0 := by
  have mss := established.mss
  have wide : state.sndMss.toNat ≤ state.sndCwnd.toNat := by
    obtain ⟨synRexmitCount, sndCwnd⟩ := established.sndCwnd
    rw [sndCwnd]
    unfold TCPTahoeRenoFamilyStateVariables.initialCwnd
    split_ifs with increased
    · exact mss_le_increasedIW established.fits (established.initialFits increased.1)
    · exact le_rfl
  refine ⟨⟨established.gamma, ?_, ?_, zero_le 1, fun _ => rfl⟩, .of_wide ⟨mss,
    established.fits, established.initialFits, (div_le_self _ _).trans wide, .inr ?_⟩ wide⟩
  · rw [established.alpha]
    exact ⟨le_rfl, zero_le_one⟩
  · rw [established.bytesMarked]
    exact zero_le _
  · rw [established.ssthresh, established.dupacks]
    exact ⟨by decide, zero_lt_dupthresh, wide⟩

/-- While what is added to the window fits into 32 bits, the estimator and the window stay in range,
the window is cut once at most between two boundaries, and no increment is divided by zero. -/
theorem estimator_in_range (established : Established state) {events : List Event}
    (fits : Along step Fits state events) :
    Along step StepSafe state events ∧
      ∀ state' cuts, runFrom (withHistory step countCuts) (state, 0) events = some (state', cuts) →
        InRange state' cuts := by
  have counted := (along_withHistory countCuts 0).mpr fits
  have keeps {p : TCPTahoeRenoFamilyStateVariables × ℕ} {e : Event}
      {p' : TCPTahoeRenoFamilyStateVariables × ℕ} (kept : Kept p.1 p.2) (fits : Fits p.1 e)
      (next : withHistory step countCuts p e = some p') : Kept p'.1 p'.2 := by
    obtain ⟨state', next', rfl⟩ := Option.map_eq_some_iff.mp next
    exact kept.step fits next'
  constructor
  · rw [← along_withHistory countCuts 0]
    exact counted.imp (I := fun p => Kept p.1 p.2) keeps (fun kept _ => kept.stepSafe _)
      established.kept
  · intro state' cuts run
    exact (counted.keeps (I := fun p => Kept p.1 p.2) keeps established.kept run).inRange

/-- A connection with segments of 1024 octets. -/
def newConnection : TCPTahoeRenoFamilyStateVariables :=
  { sndUna := 1, sndNxt := 1, sndMax := 1, sndWnd := 65535, sndMss := 1024, sndCwnd := 1024 }

def ack (ackNo : UInt32) (eceBit : Bool) : AckSegment :=
  { ackNo := ackNo, eceBit := eceBit, sndWnd := 65535 }

/-- Calls after which everything up to `sndMax` is out. -/
def callsTo (sndMax : UInt32) : Calls where
  sendOneNewSegment := ⟨sndMax, sndMax⟩
  retransmitOneSegment := ⟨sndMax, sndMax⟩
  sendDataDuringLossRecoveryPhase := ⟨sndMax, sndMax⟩
  sendData := { sndNxt := sndMax, sndMax := sndMax }

/-- The segment that acknowledges up to `ackNo`, after which everything up to `sndMax` is out. -/
def ackEvent (ackNo : UInt32) (eceBit : Bool) (sndMax : UInt32) : Event :=
  .segment (ack ackNo eceBit) (callsTo sndMax)

lemma established_newConnection : Established newConnection where
  mss := by decide
  fits := by decide
  initialFits := by decide
  gamma := by decide +kernel
  alpha := rfl
  ssthresh := rfl
  dupacks := rfl
  sndCwnd := ⟨0, by decide⟩
  bytesAcked := rfl
  bytesMarked := rfl

/-- Two windows of data, the second one with a marked segment, for which the window is cut. -/
def markedEvents : List Event :=
  [.sendCommand { sndNxt := 1025, sndMax := 1025 }, ackEvent 1025 false 3073,
    ackEvent 2049 false 5121, ackEvent 3073 true 6145, ackEvent 4097 true 6145]

theorem marked_in_range :
    Along step StepSafe newConnection markedEvents ∧
      ∀ state' cuts, runFrom (withHistory step countCuts) (newConnection, 0) markedEvents =
        some (state', cuts) → InRange state' cuts :=
  estimator_in_range established_newConnection (by decide +kernel)

lemma step_inflate (calls : Calls) (duplicates : state.duplicates tcpseg)
    (more : DUPTHRESH < state.dupacks + 1) :
    step state (.segment tcpseg calls) = some
      ({ state.countDuplicate tcpseg with sndCwnd := state.sndCwnd + state.sndMss }.sendData
        calls.sendData) := by
  have old : seqGE state.sndUna tcpseg.ackNo := by
    rw [duplicates.1]
    exact seqGE_refl _
  have base : (state.countDuplicate tcpseg).baseReceivedDuplicateAck calls.sendOneNewSegment =
      state.countDuplicate tcpseg :=
    if_neg fun early => UInt32.lt_irrefl _ (UInt32.lt_trans more early.1)
  have third : (state.countDuplicate tcpseg).dupacks ≠ DUPTHRESH :=
    fun third => UInt32.lt_irrefl _ (third ▸ more)
  dsimp only [step]
  unfold TCPTahoeRenoFamilyStateVariables.processAckInEstabEtc
  rw [if_pos old, if_pos duplicates]
  unfold receivedDuplicateAck
  dsimp only
  rw [base, if_neg third, if_pos (show DUPTHRESH < (state.countDuplicate tcpseg).dupacks from more)]
  rfl

lemma runFrom_inflate {k : ℕ} (tcpseg : AckSegment) (calls : Calls)
    (una : state.sndUna = tcpseg.ackNo)
    (noPayload : tcpseg.payloadLength = 0) (noRestart : calls.sendData.restarts = false)
    (outstanding : state.sndUna ≠ state.sndMax)
    (sent : state.sndUna ≠ calls.sendData.sndMax) (recovered : 3 ≤ state.dupacks.toNat)
    (fits : state.dupacks.toNat + k < 4294967296) :
    ∃ state', runFrom step state (List.replicate k (.segment tcpseg calls)) = some state' ∧
      state'.sndMss = state.sndMss ∧
      state'.sndCwnd.toNat = (state.sndCwnd.toNat + k * state.sndMss.toNat) % 4294967296 := by
  induction k generalizing state with
  | zero =>
    refine ⟨state, rfl, rfl, ?_⟩
    rw [Nat.zero_mul, Nat.add_zero, Nat.mod_eq_of_lt state.sndCwnd.toNat_lt]
  | succ k ih =>
    have counted : (state.dupacks + 1).toNat = state.dupacks.toNat + 1 := by
      rw [UInt32.toNat_add]
      exact mod_eq_of_lt (by simp only [toNat_one]; omega)
    have more : DUPTHRESH < state.dupacks + 1 := by
      rw [lt_iff_toNat_lt, counted]
      exact lt_succ_of_le recovered
    have first := step_inflate calls ⟨una, noPayload, outstanding⟩ more
    rw [TCPTahoeRenoFamilyStateVariables.sendData_eq,
      TCPTahoeRenoFamilyStateVariables.sendData_sndCwnd, noRestart] at first
    obtain ⟨state', run, mss, sndCwnd⟩ := @ih { state.countDuplicate tcpseg with
      sndCwnd := state.sndCwnd + state.sndMss
      sndNxt := calls.sendData.sndNxt
      sndMax := calls.sendData.sndMax } una sent sent
      (by change 3 ≤ (state.dupacks + 1).toNat; omega)
      (by change (state.dupacks + 1).toNat + k < 4294967296; omega)
    refine ⟨state', ?_, mss, ?_⟩
    · rw [List.replicate_succ, runFrom, first]
      exact run
    · rw [sndCwnd, UInt32.toNat_add, Nat.mod_add_mod, Nat.succ_mul]
      change (_ + _ + k * state.sndMss.toNat) % _ = _
      omega

/-- One segment is sent, and the duplicate ACKs of its first octet begin. -/
def fastRetransmitEvents : List Event :=
  .sendCommand { sndNxt := 1025, sndMax := 1025 } :: List.replicate 3 (ackEvent 1 false 1025)

lemma sndCwnd_after_duplicates {k : ℕ} (fits : 3 + k < 4294967296) :
    ∃ state', runFrom step newConnection
        (fastRetransmitEvents ++ List.replicate k (ackEvent 1 false 1025)) = some state' ∧
      state'.sndMss = 1024 ∧ state'.sndCwnd.toNat = (5120 + k * 1024) % 4294967296 := by
  have first : (runFrom step newConnection fastRetransmitEvents).map
      (fun state => (state.sndUna, state.sndMax, state.sndMss, state.sndCwnd, state.dupacks)) =
        some (1, 1025, 1024, 5120, 3) := by decide +kernel
  obtain ⟨state, run, vars⟩ := Option.map_eq_some_iff.mp first
  simp only [Prod.mk.injEq] at vars
  obtain ⟨una, max, mss, cwnd, dupacks⟩ := vars
  rw [runFrom_append, run, Option.bind_some]
  obtain ⟨state', further, mss', sndCwnd⟩ := runFrom_inflate (ack 1 false) (callsTo 1025) una rfl
    rfl (by rw [una, max]; decide) (by rw [una]; decide) (by rw [dupacks]; decide)
    (by rw [dupacks]; exact fits)
  rw [cwnd, mss] at sndCwnd
  exact ⟨state', further, mss'.trans mss, sndCwnd⟩

/-- After four million duplicate ACKs the window is empty. -/
theorem window_wraps :
    Established newConnection ∧ ∃ state', runFrom step newConnection
          (fastRetransmitEvents ++ List.replicate 4194299 (ackEvent 1 false 1025)) = some state' ∧
        state'.sndCwnd < state'.sndMss / 2 := by
  obtain ⟨state', run, mss, sndCwnd⟩ := sndCwnd_after_duplicates (k := 4194299) (by decide)
  have empty : state'.sndCwnd = 0 := UInt32.toNat_inj.mp sndCwnd
  refine ⟨established_newConnection, state', run, ?_⟩
  rw [empty, mss]
  decide

end Inet.Tcp.DCTCP
