import Inet.Tcp.SegmentOutcome

/-!
# The two FINs and the state machine

Once `rcv_nxt` is past the peer's FIN, the state is one that knows about it (`PeerFinKept`); once
our own is acknowledged, it is FIN_WAIT_2, TIME_WAIT or CLOSED (`OwnFinKept`). Each holds in the
runs that keep clear of certain segments.
-/

namespace Inet.Tcp.TCPConnection

variable {env : Env} {input : TcpInput} {c c' : TCPConnection} {tcpseg : TCPSegment}

/-! ## The peer's FIN -/

/-- The states in which the peer's FIN has been received. -/
def pastPeerFin (fsm : TcpState) : Bool :=
  fsm = .closeWait || fsm = .closing || fsm = .lastAck || fsm = .timeWait || fsm = .closed

lemma pastPeerFin_nextState {active : Bool} {state : TcpState} (past : pastPeerFin state = true)
    (event : TCPEventCode) : pastPeerFin (nextState active state event) = true := by
  cases state <;> cases past <;> cases event <;> rfl

/-- A FIN that has been passed has reached the state machine. -/
def PeerFinKept (c : TCPConnection) : Prop := c.finPassed ≠ none → pastPeerFin c.fsm = true

/-- A segment can take `rcv_nxt` over the peer's FIN while a CLOSE is deferred. -/
def finMeetsDeferredClose (tcpseg : TCPSegment) (c : TCPConnection) : Bool :=
  (c.fsm = .established || c.fsm = .synRcvd) && c.sendFin && c.reachesAck tcpseg &&
    c.finAtHand tcpseg

/-- The event is no such segment. -/
def NoFinDuringDeferredClose (_ : Env) (input : TcpInput) (c : TCPConnection) : Prop :=
  ∀ tcpseg ∈ input.arrival, c.finMeetsDeferredClose tcpseg = false

instance (env : Env) (input : TcpInput) (c : TCPConnection) :
    Decidable (NoFinDuringDeferredClose env input c) :=
  inferInstanceAs (Decidable (∀ tcpseg ∈ input.arrival, c.finMeetsDeferredClose tcpseg = false))

lemma pastPeerFin_of_finEvent {oldSndNxt : UInt32} (synced : beforeSyn c.fsm = false)
    (clear : ¬ ((c.fsm = .established ∨ c.fsm = .synRcvd) ∧ c.sendFin = true)) :
    pastPeerFin (nextState c.active c.fsm (c.deferredClose oldSndNxt c.finEvent)) = true := by
  by_cases past : pastPeerFin c.fsm = true
  · exact pastPeerFin_nextState past _
  · cases state : c.fsm with
    | synRcvd | established =>
      have open_ : c.sendFin = false := by simpa [state] using clear
      simp [deferredClose, deferredFinSent, finEvent, state, open_, nextState, pastPeerFin]
    | finWait1 =>
      cases acked : c.finAckRcvd <;>
        simp [deferredClose, finEvent, state, acked, nextState, pastPeerFin]
    | finWait2 => simp [deferredClose, finEvent, state, nextState, pastPeerFin]
    | init | listen | synSent => simp [beforeSyn, state] at synced
    | closeWait | closing | lastAck | timeWait | closed => simp [pastPeerFin, state] at past

lemma PeerFinKept.handle (kept : PeerFinKept c) (clear : NoFinDuringDeferredClose env input c)
    (ok : handle env input c = .ok c') : PeerFinKept c' := by
  obtain ⟨event, d, timers, toApp, processed, -, rfl⟩ := handle_eq ok
  intro passed
  change d.finPassed ≠ none at passed
  have still (fsm : d.fsm = c.fsm) (same : d.finPassed = c.finPassed) :
      pastPeerFin (nextState d.active d.fsm event) = true :=
    pastPeerFin_nextState (fsm ▸ kept (same ▸ passed)) event
  rcases process_outcome processed with close | ⟨tcpseg, rfl, synced, reaches, outcome⟩
  · exact still close.fsm (close.finPassed.resolve_right passed)
  · have taken {e : TCPConnection} {takes : Prop} (acked : AckTaken takes c e) :
        e.finPassed = c.finPassed := by
      rcases acked with same | ⟨-, -, same⟩ <;> rw [same]
    cases outcome with
    | unsentAck same => exact still (by rw [same]) (by rw [same])
    | lastAck state acked => exact still acked.fsm (taken acked)
    | dropped acked text noSpace => exact still acked.fsm (taken acked)
    | @handled e _ start event oldSndNxt acked waits fin =>
      rcases fin.event with ⟨-, same⟩ | ⟨rfl, atHand⟩
      · exact still (fin.fsm.trans acked.fsm) (same.trans (taken acked))
      · have fsm := fin.fsm.trans acked.fsm
        have sendFin : d.sendFin = c.sendFin := by
          rw [fin.sendFin]
          rcases acked with same | ⟨-, -, same⟩ <;> rw [same]
        have same : e.finEvent = d.finEvent := by
          simp only [finEvent, fin.fsm, fin.finAckRcvd]
        rw [same]
        refine pastPeerFin_of_finEvent (fsm ▸ synced) fun both => ?_
        rw [fsm, sendFin] at both
        have apart := clear tcpseg rfl
        simp [finMeetsDeferredClose, both.2, reaches, atHand] at apart
        exact both.1.elim apart.1 apart.2

/-- The peer's SYN. -/
def peerSyn (window : UInt16) : TCPSegment :=
  { srcPort := 1024, destPort := 80, sequenceNo := 1000, synBit := true, window := window }

/-- A segment of the peer without data. -/
def peerAck (ackNo : UInt32) (window : UInt16) (finBit : Bool) : TCPSegment :=
  { srcPort := 1024, destPort := 80, sequenceNo := 1001, ackNo := ackNo, ackBit := true,
    finBit := finBit, window := window }

/-- The parameters of a server. -/
def serverPar : TCPPar := { advertisedWindow := 14000, mss := 1000 }

/-- The opening of a server by the peer, who announces `window`. -/
def openServer (window : UInt16) : List (Env × TcpInput) :=
  [(renoAt 0, .command (.openPassive (some 80) false)), (renoAt 1, .segment (peerSyn window)),
   (renoAt 2, .segment (peerAck 1 window false))]

/-- The states of a connection whose FIN has been acknowledged. -/
def pastOwnFin (fsm : TcpState) : Bool := fsm = .finWait2 || fsm = .timeWait || fsm = .closed

lemma pastOwnFin_nextState {active : Bool} {state : TcpState} (past : pastOwnFin state = true)
    (event : TCPEventCode) : pastOwnFin (nextState active state event) = true := by
  cases state <;> cases past <;> cases event <;> rfl

/-- An acknowledged FIN has reached the state machine. -/
def OwnFinKept (c : TCPConnection) : Prop := c.finAckRcvd = true → pastOwnFin c.fsm = true

/-- An ACK of our FIN that comes before the CLOSE has been completed, or in FIN_WAIT_1 with text
there is no room for, or in CLOSING with another FIN to pass. -/
def finAckUnheeded (tcpseg : TCPSegment) (c : TCPConnection) : Bool :=
  c.reachesAck tcpseg && c.takesFinAck tcpseg &&
    (c.fsm = .synRcvd || c.fsm = .established || c.fsm = .closeWait ||
      (c.fsm = .finWait1 && c.takesText tcpseg && c.textDropped tcpseg) ||
      (c.fsm = .closing && c.finAtHand tcpseg))

/-- The event brings no such ACK. -/
def NoFinAckUnheeded (_ : Env) (input : TcpInput) (c : TCPConnection) : Prop :=
  ∀ tcpseg ∈ input.arrival, c.finAckUnheeded tcpseg = false

instance (env : Env) (input : TcpInput) (c : TCPConnection) :
    Decidable (NoFinAckUnheeded env input c) :=
  inferInstanceAs (Decidable (∀ tcpseg ∈ input.arrival, c.finAckUnheeded tcpseg = false))

lemma state_of_heeded (reaches : c.reachesAck tcpseg = true)
    (takesAck : c.takesFinAck tcpseg = true) (processes : processesAck c.fsm = true)
    (heeded : c.finAckUnheeded tcpseg = false) :
    c.fsm = .lastAck ∨ c.fsm = .finWait2 ∨
      (c.fsm = .finWait1 ∧ ¬ (c.takesText tcpseg = true ∧ c.textDropped tcpseg = true)) ∨
      (c.fsm = .closing ∧ c.finAtHand tcpseg = false) := by
  cases state : c.fsm <;>
    simp_all [finAckUnheeded, processesAck, inDataTransfer]

lemma pastOwnFin_of_ack {active : Bool} {start event : TCPEventCode} (acked : c.finAckRcvd = true)
    (handled : event = c.eventAfterAck start ∨ (event = c.finEvent ∧ c.fsm = .finWait1))
    (state : c.fsm = .finWait1 ∨ c.fsm = .closing) :
    pastOwnFin (nextState active c.fsm event) = true := by
  rcases handled with rfl | ⟨rfl, state⟩
  · rcases state with state | state <;> simp [eventAfterAck, acked, state, nextState, pastOwnFin]
  · simp [finEvent, acked, state, nextState, pastOwnFin]

lemma OwnFinKept.handle (kept : OwnFinKept c) (heeded : NoFinAckUnheeded env input c)
    (ok : handle env input c = .ok c') : OwnFinKept c' := by
  obtain ⟨event, d, timers, toApp, processed, -, rfl⟩ := handle_eq ok
  intro acked
  change d.finAckRcvd = true at acked
  have still (fsm : d.fsm = c.fsm) (past : pastOwnFin c.fsm = true) :
      pastOwnFin (nextState d.active d.fsm event) = true :=
    pastOwnFin_nextState (fsm ▸ past) event
  rcases process_outcome processed with close | ⟨tcpseg, rfl, synced, reaches, outcome⟩
  · exact still close.fsm (kept (close.finAckRcvd acked))
  · have heeded := heeded tcpseg rfl
    cases outcome with
    | unsentAck same => exact still (by rw [same]) (kept (same ▸ acked))
    | lastAck state taken =>
      change pastOwnFin (nextState d.active d.fsm .rcvAck) = true
      rw [taken.fsm, state]
      rfl
    | dropped taken text noSpace =>
      rcases taken with same | ⟨processes, takesAck, same⟩
      · exact still (by rw [same]) (kept (same ▸ acked))
      · have transfer := (takesText_iff.mp text).1
        rcases state_of_heeded reaches takesAck processes heeded with
          state | state | ⟨state, room⟩ | ⟨state, -⟩
        · simp [state, inDataTransfer] at transfer
        · exact still (by rw [same]) (by rw [state]; rfl)
        · exact absurd ⟨text, noSpace state⟩ room
        · simp [state, inDataTransfer] at transfer
    | @handled e _ start event oldSndNxt taken waits fin =>
      rw [fin.finAckRcvd] at acked
      have fsm := fin.fsm.trans taken.fsm
      rcases taken with same | ⟨processes, takesAck, same⟩
      · exact still fsm (kept (same ▸ acked))
      · have heedful {state : TcpState} (eq : c.fsm = state)
            (progress : state = .finWait1 ∨ state = .closing)
            (atHand : state = .closing → c.finAtHand tcpseg = false) :
            pastOwnFin (nextState d.active d.fsm (d.deferredClose oldSndNxt event)) = true := by
          have eqE : e.fsm = state := by rw [same, ← eq]
          have plain : d.deferredClose oldSndNxt event = event := by
            rcases progress with rfl | rfl <;> simp [deferredClose, fsm, eq]
          have handled : event = e.eventAfterAck start ∨
              (event = e.finEvent ∧ e.fsm = .finWait1) := by
            rcases fin.event with ⟨rfl, -⟩ | ⟨passed, fin⟩
            · exact .inl rfl
            · refine .inr ⟨passed, eqE.trans (progress.resolve_right fun closing => ?_)⟩
              rw [atHand closing] at fin
              cases fin
          rw [plain, fin.fsm]
          exact pastOwnFin_of_ack acked handled (eqE ▸ progress)
        rcases state_of_heeded reaches takesAck processes heeded with
          state | state | ⟨state, -⟩ | ⟨state, atHand⟩
        · have before : c.finAckRcvd = true := by
            rw [← waits state]
            exact acked
          exact still fsm (kept before)
        · exact still fsm (by rw [state]; rfl)
        · exact heedful state (.inl rfl) fun closing => nomatch closing
        · exact heedful state (.inr rfl) fun _ => atHand

/-- Our acknowledged FIN drives the state machine forward in a run without an ACK of it that cannot
be followed, whatever the algorithm sends. -/
theorem ownFin_drives_fsm (reachable : Reachable NoFinAckUnheeded c) : OwnFinKept c := by
  refine reachable.invariant ?_ ?_
  · intro c begun acked
    cases begun <;> cases acked
  · intro c c' kept step
    cases step with
    | handle env input _ heeded handled => exact kept.handle heeded handled

/-- A server whose last octet waits for the peer's window is closed; the persist probe
takes octet and FIN along, and the peer acknowledges both. -/
def probedFinRun : List (Env × TcpInput) :=
  openServer 65535 ++
  [(renoAt 3, .command (.send 1)), (renoAt 4, .segment (peerAck 2 0 false)),
   (renoAt 5, .command (.send 1)), (renoAt 6, .command .close), (renoAt 5006, .algTimer .persist),
   (renoAt 5007, .segment (peerAck 4 65535 false))]

/-- After that run the FIN is acknowledged and the state is FIN_WAIT_1. -/
theorem ownFin_ignored_after_probe : ¬ ∀ c, Reachable Unrestricted c → OwnFinKept c := by
  intro kept
  have ignored : (run Unrestricted probedFinRun (new serverPar)).any
      (fun c => c.finAckRcvd = true ∧ c.fsm = .finWait1) = true := by
    decide +kernel
  obtain ⟨c, reachable, test⟩ := exists_reachable ignored
  obtain ⟨acked, state⟩ := of_decide_eq_true test
  have past := kept c reachable acked
  rw [state] at past
  cases past

/-- A FIN sent by the CLOSE itself and then acknowledged leads to FIN_WAIT_2. -/
theorem ownFin_drives_fsm_at_once :
    ∃ c, Reachable NoFinAckUnheeded c ∧ c.finAckRcvd = true ∧ pastOwnFin c.fsm = true := by
  have acked : (run NoFinAckUnheeded (openServer 65535 ++
      [(renoAt 3, .command .close), (renoAt 4, .segment (peerAck 2 65535 false))])
      (new serverPar)).any (fun c => c.finAckRcvd) = true := by
    decide +kernel
  obtain ⟨c, reachable, acked⟩ := exists_reachable acked
  exact ⟨c, reachable, acked, ownFin_drives_fsm reachable acked⟩

open Inet.Except

variable {condition : Env → TcpInput → TCPConnection → Prop}

/-- How far a connection has come; it is synchronized from 4 on. -/
def progress : TcpState → ℕ
  | .init => 0
  | .listen => 1
  | .synSent => 2
  | .synRcvd => 3
  | .established => 4
  | .closeWait | .finWait1 => 5
  | .lastAck | .finWait2 | .closing => 6
  | .timeWait => 7
  | .closed => 8

lemma progress_nextState (active : Bool) {state : TcpState} (synced : 4 ≤ progress state)
    (event : TCPEventCode) : progress state ≤ progress (nextState active state event) := by
  unfold nextState
  split
  all_goals first | exact le_rfl | (simp [progress] at synced ⊢)

lemma Step.progress (step : Step condition c c') : c.fsm ≠ .closed ∧
    (4 ≤ progress c.fsm → progress c.fsm ≤ progress c'.fsm) := by
  obtain ⟨env, input, -, -, ok⟩ := step
  obtain ⟨⟨event, d⟩, processed, ok⟩ := bind_eq_ok ok
  have same := process_fsm processed
  obtain ⟨notClosed, ok⟩ := of_assert_bind ok
  dsimp only at ok
  rw [same] at notClosed ok
  refine ⟨notClosed, fun synced => ?_⟩
  split_ifs at ok with stays
  · cases ok
    rw [same]
  · cases ok
    exact progress_nextState _ synced event

/-- A synchronized connection never goes back to an earlier state, and a closed one goes nowhere. -/
theorem state_advances (run : Relation.ReflTransGen (Step condition) c c') :
    (4 ≤ progress c.fsm → progress c.fsm ≤ progress c'.fsm) ∧ (c.fsm = .closed → c' = c) := by
  induction run with
  | refl => exact ⟨fun _ => le_rfl, fun _ => rfl⟩
  | tail _ last ih =>
    obtain ⟨open_, further⟩ := last.progress
    refine ⟨fun synced => (ih.1 synced).trans (further (synced.trans (ih.1 synced))), fun closed => ?_⟩
    rw [ih.2 closed] at open_
    exact absurd closed open_

/-- An established server is closed. -/
theorem state_advances_close :
    ∃ c c' : TCPConnection, c.fsm = .established ∧ c'.fsm = .finWait1 ∧
      progress c.fsm ≤ progress c'.fsm := by
  have ran : (run Unrestricted (openServer 65535) (new serverPar)).any (fun c =>
      c.fsm = .established && (run Unrestricted [(renoAt 3, .command .close)] c).any
        (fun c' => c'.fsm = .finWait1)) = true := by
    decide +kernel
  obtain ⟨c, -, test⟩ := exists_reachable ran
  obtain ⟨established, closed⟩ := Bool.and_eq_true_iff.mp test
  obtain ⟨c', ok, state⟩ := (Option.any_eq_true _ _).mp closed
  have established := of_decide_eq_true established
  exact ⟨c, c', established, of_decide_eq_true state,
    (state_advances (reflTransGen_of_run ok)).1 (by rw [established]; decide)⟩

/-! ## When a segment resets a connection -/

open Inet.Except

variable {env : Env} {c c' d : TCPConnection} {seg : TCPSegment} {event : TCPEventCode}

/-- The number lies in the window, its right edge included. -/
def inWindow (seqNo : UInt32) (c : TCPConnection) : Prop := seqNo - c.rcvNxt ≤ c.rcvWnd

instance (seqNo : UInt32) (c : TCPConnection) : Decidable (c.inWindow seqNo) :=
  inferInstanceAs (Decidable (_ ≤ _))

/-- The segment has text that begins outside the window and ends in it. -/
def textReachesWindow (tcpseg : TCPSegment) (c : TCPConnection) : Prop :=
  serial tcpseg.payloadLength ≠ 0 ∧ tcpseg.endSequenceNo ≠ c.rcvNxt ∧
    c.inWindow tcpseg.endSequenceNo

/-- The segment has no text and acknowledges something new. -/
def bringsNewAck (tcpseg : TCPSegment) (c : TCPConnection) : Bool :=
  serial tcpseg.payloadLength = 0 && decide (seqLess c.sndUna tcpseg.ackNo ∧
      seqLE tcpseg.ackNo (if c.afterRto then c.sndMax else c.sndNxt))

lemma inWindow_of_seqLE {seqNo : UInt32} (above : seqLE c.rcvNxt seqNo)
    (below : seqLE seqNo (c.rcvNxt + c.rcvWnd)) : c.inWindow seqNo := by
  unfold seqLE at above below
  unfold inWindow
  have half : (2147483648 : UInt32).toNat = 2147483648 := rfl
  rw [UInt32.lt_iff_toNat_lt, half, UInt32.toNat_sub] at above below
  rw [UInt32.toNat_add] at below
  rw [UInt32.le_iff_toNat_le, UInt32.toNat_sub]
  have := c.rcvNxt.toNat_lt
  have := c.rcvWnd.toNat_lt
  have := seqNo.toNat_lt
  omega

lemma inWindow_of_acceptable (acceptable : isSegmentAcceptable seg c = true) :
    c.inWindow seg.sequenceNo ∨ textReachesWindow seg c ∨ c.bringsNewAck seg = true := by
  unfold isSegmentAcceptable at acceptable
  dsimp only at acceptable
  split at acceptable
  case isTrue noText =>
    rcases Bool.or_eq_true_iff.mp acceptable with bySeqNo | byAckNo
    · refine .inl ?_
      split at bySeqNo
      · have same := of_decide_eq_true bySeqNo
        unfold inWindow
        rw [same, UInt32.sub_self]
        exact UInt32.zero_le
      · have ⟨above, below⟩ := of_decide_eq_true bySeqNo
        exact inWindow_of_seqLE above below
    · refine .inr (.inr ?_)
      unfold bringsNewAck
      split at byAckNo
      case isTrue afterRto =>
        rw [if_pos afterRto]
        exact Bool.and_eq_true_iff.mpr ⟨decide_eq_true noText, byAckNo⟩
      case isFalse notAfterRto =>
        rw [if_neg notAfterRto]
        exact Bool.and_eq_true_iff.mpr ⟨decide_eq_true noText, byAckNo⟩
  case isFalse text =>
    split at acceptable
    · cases acceptable
    · rcases of_decide_eq_true acceptable with ⟨above, below⟩ | ⟨above, below⟩
      · exact .inl (inWindow_of_seqLE above (seqLE_of_seqLess below))
      · exact .inr (.inl ⟨text, above.1.symm, inWindow_of_seqLE (seqLE_of_seqLess above) below⟩)

lemma acceptable_of_reset (ok : processSegment1stThru8th env seg c = .ok (event, c'))
    (resets : event = .rcvRst ∨ event = .rcvUnexpSyn) : isSegmentAcceptable seg c = true := by
  unfold processSegment1stThru8th at ok
  rcases bind_eq_ok ok with ⟨⟨acceptable, d⟩, check, ok⟩
  dsimp only at ok
  split at ok
  case isTrue passed => exact (checkSequenceNumber_kept check).2 passed
  case isFalse =>
    rcases bind_eq_ok ok with ⟨e, -, ok⟩
    cases ok
    exact resets.elim nofun nofun

/-- The segment lies in the window with its sequence number, or reaches into it with its text, or
has no text and brings a new ACK. -/
theorem reset_in_window (ok : processSegment1stThru8th env seg c = .ok (event, c'))
    (resets : event = .rcvRst ∨ event = .rcvUnexpSyn) (noNewAck : c.bringsNewAck seg = false) :
    c.inWindow seg.sequenceNo ∨ textReachesWindow seg c := by
  rcases inWindow_of_acceptable (acceptable_of_reset ok resets) with inside | reaches | newAck
  · exact .inl inside
  · exact .inr reaches
  · rw [noNewAck] at newAck
    cases newAck

def peerRst (sequenceNo : UInt32) (payloadLength : ℕ) : TCPSegment :=
  { srcPort := 1024, destPort := 80, sequenceNo := sequenceNo, rstBit := true,
    payloadLength := payloadLength }

/-- Does the segment reset the connection? -/
def resetBy (env : Env) (tcpseg : TCPSegment) (c : TCPConnection) : Bool :=
  match processSegment1stThru8th env tcpseg c with
  | .ok (event, _) => event = .rcvRst
  | .error _ => false

lemma exists_of_resetBy (reset : c.resetBy env seg = true) :
    ∃ c', processSegment1stThru8th env seg c = .ok (.rcvRst, c') := by
  unfold resetBy at reset
  split at reset
  case h_1 event c' ok =>
    have same := of_decide_eq_true reset
    exact ⟨c', same ▸ ok⟩
  case h_2 => cases reset

/-- A RST of two octets, of which the second is in the window, resets the connection
with a sequence number below the window. -/
theorem reset_below_window :
    ¬ ∀ env seg c event c', Reachable Unrestricted c →
      processSegment1stThru8th env seg c = .ok (event, c') →
      event = .rcvRst ∨ event = .rcvUnexpSyn → c.inWindow seg.sequenceNo := by
  intro inside
  have reset : (run Unrestricted (openServer 65535) (new serverPar)).any (fun c =>
      c.resetBy (renoAt 3) (peerRst 1000 2) && decide (¬ c.inWindow 1000)) = true := by
    decide +kernel
  obtain ⟨c, reachable, test⟩ := exists_reachable reset
  rw [Bool.and_eq_true] at test
  obtain ⟨reset, outside⟩ := test
  obtain ⟨c', ok⟩ := exists_of_resetBy reset
  have within := inside _ _ c _ c' reachable ok (.inl rfl)
  exact of_decide_eq_true outside within

/-- A RST with the number expected next resets the connection, and lies in the window. -/
theorem reset_in_window_expected : ∃ c c', Reachable Unrestricted c ∧
    processSegment1stThru8th (renoAt 3) (peerRst 1001 0) c = .ok (.rcvRst, c') ∧
    (c.inWindow 1001 ∨ textReachesWindow (peerRst 1001 0) c) := by
  have reset : (run Unrestricted (openServer 65535) (new serverPar)).any (fun c =>
      c.resetBy (renoAt 3) (peerRst 1001 0) && !c.bringsNewAck (peerRst 1001 0)) = true := by
    decide +kernel
  obtain ⟨c, reachable, test⟩ := exists_reachable reset
  rw [Bool.and_eq_true] at test
  obtain ⟨reset, noNewAck⟩ := test
  obtain ⟨c', ok⟩ := exists_of_resetBy reset
  have within := reset_in_window ok (.inl rfl) ((Bool.not_eq_true' _).mp noNewAck)
  exact ⟨c, c', reachable, ok, within⟩

end Inet.Tcp.TCPConnection
