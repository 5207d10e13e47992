import Inet.Tcp.Closing
import Inet.Tcp.SegmentHistory
import Inet.Tcp.StreamOutcome

/-!
# The position of the peer's FIN

`rcv_nxt` is advanced over a FIN behind the last octet of its segment as sent, when everything
before it has been received, in every run without a FIN whose segment is cut at the right edge of
the window: there the FIN moves to the edge with the text.
-/

namespace Inet.Tcp.TCPConnection

open Inet.Except

variable {env : Env} {c c' d e : TCPConnection} {tcpseg : TCPSegment}
  {ev ev' start : TCPEventCode} {h : History} {next lag taken : ℕ} {spans : List (Span ℕ)}

variable {oldSndUna : UInt32}

lemma notifyEarlierAck_kept (ok : notifyEarlierAck env oldSndUna c = .ok c') :
    StreamKept c c' := by
  unfold notifyEarlierAck at ok
  split at ok
  · exact notifyDataAck_stream ok
  · cases ok
    exact .refl c

lemma forwardData_stream {fuel : ℕ} (stream : Receives h taken next 0 spans c.toRcvStreamVars)
    (ok : forwardData env tcpseg fuel c = .ok c') :
    ∃ spans', Receives h next next 0 spans' c'.toRcvStreamVars := by
  induction fuel generalizing c taken spans with
  | zero => cases ok
  | succ fuel ih =>
    rcases bind_eq_ok ok with ⟨⟨byteLength, queue⟩, extract, ok⟩
    obtain ⟨spans', extracted, -⟩ := stream.extract extract
    cases byteLength with
    | none =>
      cases ok
      exact ⟨spans', extracted⟩
    | some byteLength => exact ih (c := forwardPacket env tcpseg byteLength _) extracted ok

lemma forwardData_rcvWndVars {fuel : ℕ} (ok : forwardData env tcpseg fuel c = .ok c') :
    c'.toRcvWndVars = c.toRcvWndVars := by
  induction fuel generalizing c with
  | zero => cases ok
  | succ fuel ih =>
    rcases bind_eq_ok ok with ⟨⟨byteLength, queue⟩, -, ok⟩
    cases byteLength with
    | none =>
      cases ok
      rfl
    | some byteLength =>
      exact (ih ok :)

/-- A FIN numbered `finSeq` was passed at its true position, at or before `position`,
with everything before it received. -/
def TrulyPassed (h : History) (position : ℕ) (finSeq : UInt32) : Prop :=
  ∃ f, h.Fin f ∧ serial f = finSeq ∧ f ≤ position ∧ ∀ p, h.start ≤ p → p < f → h.Received p

/-- The FIN noted for later is one that arrived, not far ahead of the first gap. -/
def FinNoted (h : History) (next : ℕ) (c : TCPConnection) : Prop :=
  c.finRcvd = true → ∃ f, h.Fin f ∧ serial f = c.rcvFinSeq ∧ f < next + 2147483650

variable {position : ℕ}

lemma TrulyPassed.mono {position' : ℕ} {finSeq : UInt32} (passed : TrulyPassed h position finSeq)
    (le : position ≤ position') : TrulyPassed h position' finSeq := by
  obtain ⟨f, fin, same, before, received⟩ := passed
  exact ⟨f, fin, same, before.trans le, received⟩

lemma FinNoted.mono {next' : ℕ} (noted : FinNoted h next c) (le : next ≤ next')
    (finRcvd : c'.finRcvd = c.finRcvd) (rcvFinSeq : c'.rcvFinSeq = c.rcvFinSeq) :
    FinNoted h next' c' := by
  unfold FinNoted
  rw [finRcvd, rcvFinSeq]
  intro set
  obtain ⟨f, fin, same, near⟩ := noted set
  exact ⟨f, fin, same, by omega⟩

/-- The stream up to `next + lag`, with the FINs passed and the one noted. -/
structure FinState (h : History) (next lag position : ℕ) (c : TCPConnection) : Prop where
  sound : WndSound c
  stream : ∃ spans, Receives h next next lag spans c.toRcvStreamVars
  noted : inDataTransfer c.fsm = true → FinNoted h next c
  passed : ∀ finSeq, c.finPassed = some finSeq → TrulyPassed h position finSeq

namespace FinState

variable {position position' : ℕ}

variable (state : FinState h next lag position c)
include state

lemma kept (kept : StreamKept c c') :
    FinState h next lag position c' where
  sound := kept.wnd state.sound
  stream := by
    obtain ⟨spans, stream⟩ := state.stream
    exact ⟨spans, stream.congr kept.rcvNxt kept.receiveQueue⟩
  noted := by
    unfold FinNoted
    rw [kept.fsm, kept.finRcvd, kept.rcvFinSeq]
    exact state.noted
  passed := by
    rw [kept.finPassed]
    exact state.passed

lemma mono (le : position ≤ position') :
    FinState h next lag position' c where
  sound := state.sound
  stream := state.stream
  noted := state.noted
  passed finSeq passed := (state.passed finSeq passed).mono le

lemma arrive (tcpseg : TCPSegment) :
    FinState (h.arrive tcpseg) next lag position c where
  sound := state.sound
  stream := by
    obtain ⟨spans, stream⟩ := state.stream
    exact ⟨spans, stream.arrive tcpseg⟩
  noted transfer set := by
    obtain ⟨f, fin, same, near⟩ := state.noted transfer set
    exact ⟨f, fin.arrive tcpseg, same, near⟩
  passed finSeq passed := by
    obtain ⟨f, fin, same, before, received⟩ := state.passed finSeq passed
    exact ⟨f, fin.arrive tcpseg, same, before, fun p ge lt => (received p ge lt).arrive tcpseg⟩

lemma congr {h' : History} (start : h'.start = h.start)
    (arrivals : h'.arrivals = h.arrivals) : FinState h' next lag position c := by
  rcases h with ⟨start₀, rcvPos, arrivals₀⟩
  cases start
  cases arrivals
  obtain ⟨spans, stream⟩ := state.stream
  exact ⟨state.sound, ⟨spans, stream.1, stream.2, stream.3, stream.4, stream.5, stream.6, stream.7⟩,
    state.noted, state.passed⟩

lemma moveTo (rcvNxt : UInt32) : FinState (h.moveTo rcvNxt) next lag position c := by
  have start : (h.moveTo rcvNxt).start = h.start := by
    unfold History.moveTo
    rfl
  have arrivals : (h.moveTo rcvNxt).arrivals = h.arrivals := by
    unfold History.moveTo
    rfl
  exact state.congr start arrivals

lemma pass {f : ℕ} (fin : h.Fin f) (same : serial f = c.rcvNxt) (before : f ≤ next + lag)
    (ok : c.passFin c.rcvNxt = .ok (ev, c')) :
    ev = c.finEvent ∧ c'.fsm = c.fsm ∧ FinState h next (lag + 1) (next + lag) c' := by
  rcases bind_eq_ok ok with ⟨timers, -, ok⟩
  cases ok
  obtain ⟨spans, stream⟩ := state.stream
  have atNext : serial f = serial (next + lag) := same.trans stream.rcvNxt
  refine ⟨rfl, rfl, state.sound, ⟨spans, stream.pass ⟨f, fin, atNext⟩⟩, state.noted, ?_⟩
  intro finSeq passed
  have numbered : serial f = finSeq := same.trans (Option.some.inj passed)
  exact ⟨f, fin, numbered, before, fun p ge lt => stream.received_of_lt ge (by omega)⟩

end FinState

/-! ## The text -/

/-- The segment has arrived, and `position` is where its text begins as seen from `m`. -/
structure Placed (h : History) (m position : ℕ) (tcpseg : TCPSegment) : Prop where
  mem : ⟨position, tcpseg⟩ ∈ h.arrivals
  serial_eq : serial position = tcpseg.sequenceNo
  below : m ≤ position + 2147483648
  above : position < m + 2147483648
  small : tcpseg.payloadLength < 2147483648

lemma passEarlyFin_fin (state : FinState h next 0 next c)
    (transfer : inDataTransfer c.fsm = true) (ok : c.passEarlyFin ev = .ok (ev', c')) :
    c'.fsm = c.fsm ∧ (ev' = ev ∧ FinState h next 0 next c' ∨
      ev' = c.finEvent ∧ FinState h next 1 next c') := by
  unfold passEarlyFin at ok
  split at ok
  case isTrue reached =>
    obtain ⟨set, atFin⟩ := reached
    obtain ⟨f, fin, same, near⟩ := state.noted transfer set
    obtain ⟨spans, stream⟩ := state.stream
    rw [← atFin] at ok same
    -- a FIN further ahead than `next` would be numbered otherwise
    have before : f ≤ next + 0 := by
      have numbered : serial f = serial next := same.trans stream.rcvNxt
      by_contra ahead
      have := (serial_inj (a := f) (b := next) (by omega) (by omega)).mp numbered
      omega
    obtain ⟨passed, fsm, state'⟩ := state.pass fin same before ok
    exact ⟨fsm, .inr ⟨passed, state'⟩⟩
  case isFalse =>
    cases ok
    exact ⟨rfl, .inl ⟨rfl, state⟩⟩

lemma deliverText_fin {oldRcvNxt oldUsedRcvBuffer : UInt32} {next' : ℕ} (sound : WndSound c)
    (stream : Receives h next next' 0 spans c.toRcvStreamVars) (le : next ≤ next')
    (old : oldRcvNxt = serial (next + lag)) (lagLe : lag ≤ 1) (noProgress : next' = next ∨ lag = 0)
    (noted : FinNoted h next c) (transfer : inDataTransfer c.fsm = true)
    (passed : ∀ finSeq, c.finPassed = some finSeq → TrulyPassed h next finSeq)
    (ok : deliverText env oldRcvNxt oldUsedRcvBuffer tcpseg ev c = .ok (ev', c')) :
    c'.fsm = c.fsm ∧ (ev' = ev ∧ FinState h next' 0 next' c' ∨
        ev' = c.finEvent ∧ FinState h next' 1 next' c' ∧ next + lag ≠ next') := by
  have near := stream.nextNear
  unfold deliverText at ok
  split at ok
  case isTrue unchanged =>
    rcases bind_eq_ok ok with ⟨d, callback, ok⟩
    cases ok
    rw [old, stream.rcvNxt, Nat.add_zero, serial_inj (by omega) (by omega)] at unchanged
    have same : next' = next := by omega
    subst same
    have state : FinState h next' 0 next' c := ⟨sound, ⟨spans, stream⟩, fun _ => noted, passed⟩
    have kept : StreamKept c (noteOutOfOrder oldUsedRcvBuffer tcpseg c) := by
      unfold noteOutOfOrder
      dsimp only
      split_ifs <;> exact ⟨rfl, rfl, rfl, rfl, rfl, rfl, id⟩
    have called := kept.trans (runCallback_kept callback)
    exact ⟨called.fsm, .inl ⟨rfl, state.kept called⟩⟩
  case isFalse moved =>
    have moved : next + lag ≠ next' := by
      intro same
      rw [old, stream.rcvNxt, same] at moved
      exact moved rfl
    rcases bind_eq_ok ok with ⟨d, forward, ok⟩
    have frame := forwardData_frame forward
    obtain ⟨spans', forwarded⟩ := forwardData_stream stream forward
    have fsm : d.fsm = c.fsm := by rw [frame]
    have finPassed : d.finPassed = c.finPassed := by rw [frame]
    have state : FinState h next' 0 next' d := by
      refine ⟨?_, ⟨spans', forwarded⟩, fun _ => ?_, fun finSeq passedD => ?_⟩
      · unfold WndSound
        rw [frame, forwardData_rcvWndVars forward]
        exact sound
      · exact FinNoted.mono noted le (by rw [frame]) (by rw [frame])
      · exact (passed finSeq (finPassed ▸ passedD)).mono le
    have finEvent : d.finEvent = c.finEvent := by
      unfold finEvent
      rw [frame]
    rw [← fsm] at transfer
    obtain ⟨fsm', happens⟩ := passEarlyFin_fin state transfer ok
    refine ⟨fsm'.trans fsm, happens.imp_right fun ⟨ev, state⟩ => ?_⟩
    exact ⟨ev.trans finEvent, state, moved⟩

/-- Is there room for the text, cut to the window? -/
def textFits (tcpseg : TCPSegment) (c : TCPConnection) : Bool :=
  match tcpseg.truncateSegment c.rcvNxt (c.rcvNxt + c.rcvWnd) with
  | .ok cut => c.hasEnoughSpaceForSegmentInReceiveQueue cut
  | .error _ => false

/-- What is known of the text that has been taken: the cut segment ends at `e`, and if
`rcv_nxt` is still there nothing but text has moved it. -/
structure TextTaken (h : History) (next lag e : ℕ) (event : TCPEventCode) (c : TCPConnection)
    (next' lag' : ℕ) (event' : TCPEventCode) (c' : TCPConnection) : Prop where
  fsm : c'.fsm = c.fsm
  finEvent : c'.finEvent = c.finEvent
  state : FinState h next' lag' next' c'
  le : next ≤ next'
  near : next' ≤ next + 1073741826
  happens : event' = event ∧ lag' = 0 ∨ event' = c.finEvent ∧ lag' = 1
  beyond : next + lag < e
  within : e ≤ next + lag + 1073741824
  atEnd : e = next' + lag' → lag' = 0

lemma acceptText_fin {phase : Phase} (state : FinState h next lag next c) (lagLe : lag ≤ 1)
    (transfer : inDataTransfer c.fsm = true) (opened : 0 < c.rcvWnd.toNat)
    (placed : Placed h (next + lag) position tcpseg)
    (ok : acceptText env oldSndUna tcpseg ev c = .ok phase) :
    (∃ c', phase = .stop .ignore c' ∧ StreamKept c c') ∨
      ∃ cut ev' c' next' lag' e, phase = .go cut ev' c' ∧ cut.finBit = tcpseg.finBit ∧
        cut.endSequenceNo = serial e ∧ c.textFits tcpseg = true ∧
        e = min (position + tcpseg.payloadLength) (next + lag + c.rcvWnd.toNat) ∧
        (¬ seqGreater tcpseg.endSequenceNo (c.rcvNxt + c.rcvWnd) →
          e = position + tcpseg.payloadLength) ∧ TextTaken h next lag e ev c next' lag' ev' c' := by
  obtain ⟨spans, stream⟩ := state.stream
  have small := state.sound.small
  have rcvNxt : c.rcvNxt = serial (next + lag) := stream.rcvNxt
  have edge : c.rcvNxt + c.rcvWnd = serial (next + lag + c.rcvWnd.toNat) := by
    rw [serial_add, serial_toNat, rcvNxt]
  rcases bind_eq_ok ok with ⟨cut, truncate, ok⟩
  have truncated : tcpseg.truncateSegment c.rcvNxt (c.rcvNxt + c.rcvWnd) = .ok cut := truncate
  have window := truncated
  rw [edge, rcvNxt] at window
  have text := (TCPSegment.truncateSegment_eq truncated).1
  obtain ⟨posLt, endGt, begins, ends⟩ := truncateSegment_window placed.small small
    placed.serial_eq placed.below placed.above window
  have uncut : ¬ seqGreater tcpseg.endSequenceNo (c.rcvNxt + c.rcvWnd) →
      min (position + tcpseg.payloadLength) (next + lag + c.rcvWnd.toNat) =
        position + tcpseg.payloadLength := by
    intro notGreater
    obtain ⟨-, starts, reaches, -⟩ := TCPSegment.truncateSegment_eq window
    have overlap := overlaps_window placed.small small placed.serial_eq placed.below placed.above
      starts reaches
    have endSerial : tcpseg.endSequenceNo = serial (position + tcpseg.payloadLength) :=
      (Arrival.serial_endPosition ⟨position, tcpseg⟩ placed.serial_eq).symm
    rw [endSerial, edge] at notGreater
    have := mt (seqGreater_serial (by omega) (by omega)).mpr notGreater
    omega
  dsimp only at ok
  split at ok
  case isFalse noSpace =>
    cases ok
    exact .inl ⟨_, rfl, ⟨rfl, rfl, rfl, rfl, rfl, rfl, id⟩⟩
  case isTrue space =>
    rcases bind_eq_ok ok with ⟨d, insert, ok⟩
    rcases bind_eq_ok ok with ⟨e, notify, ok⟩
    rcases bind_eq_ok ok with ⟨⟨ev', c'⟩, deliver, ok⟩
    cases ok
    -- the octets of the cut segment are among those that arrived
    let s : Span ℕ := ⟨max position (next + lag),
      min (position + tcpseg.payloadLength) (next + lag + c.rcvWnd.toNat), by omega⟩
    have arrived : ∀ p, s.lo ≤ p → p < s.hi → h.Octet p := fun p ge lt =>
      ⟨_, placed.mem, (le_max_left _ _).trans ge, lt.trans_le (min_le_left _ _)⟩
    rcases bind_eq_ok insert with ⟨queue, inserted, insert⟩
    cases insert
    obtain ⟨next', spans', stream', le, moves, -, -⟩ :=
      stream.insert (by omega) (s := s) (le_max_right _ _)
        ((min_le_right _ _).trans (by omega)) arrived begins ends inserted
    have inputVars := notifyEarlierAck_inputVars notify
    have sound : WndSound e := (notifyEarlierAck_kept notify).wnd state.sound
    have streamE : Receives h next next' 0 spans' e.toRcvStreamVars := by
      rw [inputVars]
      exact stream'
    have passed : ∀ finSeq, e.finPassed = some finSeq → TrulyPassed h next finSeq := by
      rw [inputVars]
      exact state.passed
    have fsm : e.fsm = c.fsm := by rw [inputVars]; rfl
    have finEvent : e.finEvent = c.finEvent := by
      unfold finEvent
      rw [inputVars]
      rfl
    have lo : next + lag ≤ s.lo := le_max_right _ _
    have notedE : FinNoted h next e :=
      (state.noted transfer).mono le_rfl (by rw [inputVars]; rfl) (by rw [inputVars]; rfl)
    obtain ⟨fsm', happens⟩ := deliverText_fin sound streamE le rcvNxt lagLe (by omega) notedE
      (fsm.symm ▸ transfer) passed deliver
    have fits : c.textFits tcpseg = true := by
      unfold textFits
      rw [truncated]
      exact space
    have sHi : s.hi = min (position + tcpseg.payloadLength) (next + lag + c.rcvWnd.toNat) := rfl
    have finEvent' : c'.finEvent = c.finEvent := by
      have handled : FinHandled True _ _ _ _ := deliverText_handled (fun _ => trivial) deliver
      rw [handled.finEvent, finEvent]
    rw [finEvent] at happens
    rw [fsm] at fsm'
    rcases happens with ⟨same, state'⟩ | ⟨passed, state', moved⟩
    · exact .inr ⟨cut, ev', c', next', 0, _, rfl, TCPSegment.truncateSegment_finBit truncated,
        ends, fits, rfl, uncut, fsm', finEvent', state', le, stream'.nextNear, .inl ⟨same, rfl⟩, by omega,
        by omega, fun _ => rfl⟩
    · exact .inr ⟨cut, ev', c', next', 1, _, rfl, TCPSegment.truncateSegment_finBit truncated,
        ends, fits, rfl, uncut, fsm', finEvent', state', le, stream'.nextNear, .inr ⟨passed, rfl⟩, by omega,
        by omega, by omega⟩

lemma processFinBit_fin {e : ℕ} (state : FinState h next lag position c)
    (numbered : tcpseg.endSequenceNo = serial e) (fin : tcpseg.finBit = true → h.Fin e)
    (below : next + lag ≤ e + 2147483648) (above : e < next + lag + 4294967296)
    (ahead : inDataTransfer c.fsm = true → e < next + 2147483650)
    (ok : processFinBit tcpseg ev c = .ok (ev', c')) :
    c'.fsm = c.fsm ∧ (ev' = ev ∧ FinState h next lag position c' ∨
      ev' = c.finEvent ∧ e = next + lag ∧ FinState h next (lag + 1) (next + lag) c') := by
  unfold processFinBit at ok
  split at ok
  case isTrue set =>
    dsimp only at ok
    split at ok
    case isTrue reached =>
      obtain ⟨spans, stream⟩ := state.stream
      have same : serial e = c.rcvNxt := numbered.symm.trans reached.symm
      have atNext : e = next + lag := by
        rw [stream.rcvNxt] at same
        exact (serial_inj (by omega) (by omega)).mp same
      rw [← reached] at ok
      have acked : FinState h next lag position { c with ackNow := true } :=
        ⟨state.sound, state.stream, state.noted, state.passed⟩
      obtain ⟨passed, fsm, state'⟩ := acked.pass (fin set) same (by omega) ok
      exact ⟨fsm, .inr ⟨passed, atNext, state'⟩⟩
    case isFalse =>
      cases ok
      refine ⟨rfl, .inl ⟨rfl, state.sound, state.stream, fun transfer _ => ?_, state.passed⟩⟩
      exact ⟨e, fin set, numbered.symm, ahead transfer⟩
  case isFalse =>
    cases ok
    exact ⟨rfl, .inl ⟨rfl, state⟩⟩

/-! ## Text and FIN bit -/

/-- How far a FIN that was passed can be: text can take `rcv_nxt` back to the first gap. -/
def finLimit (fsm : TcpState) (next lag : ℕ) : ℕ :=
  if inDataTransfer fsm then next else next + lag

/-- How far `rcv_nxt` can be behind the first gap. -/
def LagFits (fsm : TcpState) (lag : ℕ) : Prop :=
  (fsm = .synRcvd ∨ fsm = .established → lag = 0) ∧ (inDataTransfer fsm = true → lag ≤ 1)

lemma finLimit_le (fsm : TcpState) (next lag : ℕ) : finLimit fsm next lag ≤ next + lag := by
  unfold finLimit
  split_ifs <;> omega

/-- What text and FIN bit do to the received stream: no FIN is passed, or one is. -/
inductive FinOutcome (h : History) (next lag : ℕ) (start : TCPEventCode) (c : TCPConnection) :
    TCPEventCode → TCPConnection → Prop
  | waits {c' : TCPConnection} (next' lag' : ℕ) (le : next ≤ next')
      (near : next' ≤ next + 1073741826) (lagLe : lag' ≤ lag) (lagGe : lag ≤ lag' + 1) (fsm : c'.fsm = c.fsm)
      (state : FinState h next' lag' (finLimit c.fsm next' lag') c') :
      FinOutcome h next lag start c start c'
  | passes {c' : TCPConnection} (next' lag' : ℕ) (le : next ≤ next')
      (near : next' ≤ next + 1073741826) (lagLe : lag' ≤ lag) (lagGe : lag ≤ lag' + 1) (fsm : c'.fsm = c.fsm)
      (state : FinState h next' (lag' + 1) (next' + lag') c') :
      FinOutcome h next lag start c c.finEvent c'

lemma FinOutcome.kept {start : TCPEventCode} (outcome : FinOutcome h next lag start c ev d)
    (kept : StreamKept d c') : FinOutcome h next lag start c ev c' := by
  cases outcome with
  | waits next' lag' le near lagLe lagGe fsm state =>
    exact .waits next' lag' le near lagLe lagGe (kept.fsm.trans fsm) (state.kept kept)
  | passes next' lag' le near lagLe lagGe fsm state =>
    exact .passes next' lag' le near lagLe lagGe (kept.fsm.trans fsm) (state.kept kept)

lemma acknowledgeProgress_kept {oldRcvNxt : UInt32}
    (ok : acknowledgeProgress env oldRcvNxt tcpseg c = .ok c') : StreamKept c c' := by
  unfold acknowledgeProgress at ok
  split at ok
  · cases ok
    exact .refl c
  · refine StreamKept.trans ?_ (runCallback_kept ok)
    split_ifs
    · exact ⟨rfl, rfl, rfl, rfl, rfl, rfl, id⟩
    · exact .refl c

lemma processSegment7thThru8th_fin {oldSndNxt : UInt32}
    (state : FinState h next lag (finLimit c.fsm next lag) c) (fits : LagFits c.fsm lag)
    (opened : c.takesText tcpseg = true → 0 < c.rcvWnd.toNat)
    (placed : Placed h (next + lag) position tcpseg)
    (finAt : c.takesText tcpseg = true → tcpseg.finBit = true → c.textFits tcpseg = true →
      ∀ e, e = min (position + tcpseg.payloadLength) (next + lag + c.rcvWnd.toNat) →
      (¬ seqGreater tcpseg.endSequenceNo (c.rcvNxt + c.rcvWnd) →
        e = position + tcpseg.payloadLength) → h.Fin e)
    (ok : processSegment7thThru8th env oldSndUna oldSndNxt tcpseg start c = .ok (ev, c')) :
    ev = .ignore ∧ StreamKept c c' ∨ ∃ ev', ev = c'.deferredClose oldSndNxt ev' ∧
        FinOutcome h next lag start c ev' c' := by
  have atEnd : tcpseg.finBit = true → h.Fin (position + tcpseg.payloadLength) := fun set =>
    ⟨_, placed.mem, set, rfl⟩
  have endSerial : tcpseg.endSequenceNo = serial (position + tcpseg.payloadLength) :=
    (Arrival.serial_endPosition ⟨position, tcpseg⟩ placed.serial_eq).symm
  have small := placed.small
  have below := placed.below
  have above := placed.above
  rcases bind_eq_ok ok with ⟨phase, text, ok⟩
  unfold processText at text
  split at text
  case isTrue carries =>
    have takes := takesText_iff.mpr carries
    have limit : finLimit c.fsm next lag = next := by
      unfold finLimit
      rw [if_pos carries.1]
    rw [limit] at state
    have lagLe := fits.2 carries.1
    rcases acceptText_fin state lagLe carries.1 (opened takes) placed text with
      ⟨d, rfl, dropped⟩ | ⟨cut, ev₁, d, next', lag', e, rfl, finBit, ends, space, atEdge, whole, taken⟩
    · cases ok
      exact .inl ⟨rfl, dropped⟩
    · rcases bind_eq_ok ok with ⟨⟨ev₂, f⟩, fin, ok⟩
      rcases bind_eq_ok ok with ⟨g, acknowledge, ok⟩
      cases ok
      refine .inr ⟨ev₂, rfl, FinOutcome.kept ?_ (acknowledgeProgress_kept acknowledge)⟩
      have finAtEnd : cut.finBit = true → h.Fin e := by
        rw [finBit]
        intro set
        exact finAt takes set space e atEdge whole
      have le := taken.le
      have near := taken.near
      have beyond := taken.beyond
      have within := taken.within
      have limit' : finLimit c.fsm next' lag' = next' := by
        unfold finLimit
        rw [if_pos carries.1]
      have lag'Le : lag' ≤ 1 := by
        rcases taken.happens with ⟨-, rfl⟩ | ⟨-, rfl⟩ <;> omega
      obtain ⟨fsm, happens⟩ := processFinBit_fin taken.state ends finAtEnd (by omega) (by omega)
        (fun _ => by omega) fin
      have fsm := fsm.trans taken.fsm
      rcases happens with ⟨rfl, stateF⟩ | ⟨rfl, reached, stateF⟩
      · rcases taken.happens with ⟨rfl, rfl⟩ | ⟨rfl, rfl⟩
        · exact .waits next' 0 le near (Nat.zero_le lag) lagLe fsm (limit'.symm ▸ stateF)
        · exact .passes next' 0 le near (Nat.zero_le lag) lagLe fsm stateF
      · rw [taken.finEvent]
        have first := taken.atEnd reached
        subst first
        exact .passes next' 0 le near (Nat.zero_le lag) lagLe fsm stateF
  case isFalse noText =>
    cases text
    rcases bind_eq_ok ok with ⟨⟨ev₂, e⟩, fin, ok⟩
    rcases bind_eq_ok ok with ⟨f, acknowledge, ok⟩
    cases ok
    refine .inr ⟨ev₂, rfl, FinOutcome.kept ?_ (acknowledgeProgress_kept acknowledge)⟩
    have textless : inDataTransfer c.fsm = true → tcpseg.payloadLength = 0 := fun transfer =>
      Nat.eq_zero_of_not_pos fun text => noText ⟨transfer, text⟩
    obtain ⟨fsm, happens⟩ := processFinBit_fin state endSerial atEnd (by omega) (by omega)
      (fun transfer => by
        have := textless transfer
        have := fits.2 transfer
        omega) fin
    rcases happens with ⟨rfl, stateF⟩ | ⟨rfl, -, stateF⟩
    · exact .waits next lag le_rfl (by omega) le_rfl (Nat.le_succ lag) fsm stateF
    · exact .passes next lag le_rfl (by omega) le_rfl (Nat.le_succ lag) fsm stateF

variable {active : Bool} {state : TcpState}

lemma inDataTransfer_of_nextState {ev : TCPEventCode} (synced : beforeSyn state = false)
    (transfer : inDataTransfer (nextState active state ev) = true) :
    inDataTransfer state = true := by
  cases state <;> cases synced <;> cases ev <;> cases active <;> first | rfl | cases transfer

lemma early_of_nextState {ev : TCPEventCode} (synced : beforeSyn state = false)
    (early : nextState active state ev = .synRcvd ∨ nextState active state ev = .established) :
    state = .synRcvd ∨ state = .established := by
  cases state <;> cases synced <;> cases ev <;> cases active <;> first
    | exact .inl rfl
    | exact .inr rfl
    | exact early.elim nofun nofun

lemma LagFits.nextState (fits : LagFits state lag) (synced : beforeSyn state = false)
    (ev : TCPEventCode) : LagFits (nextState active state ev) lag :=
  ⟨fun early => fits.1 (early_of_nextState synced early),
    fun transfer => fits.2 (inDataTransfer_of_nextState synced transfer)⟩

lemma finLimit_le_nextState (active : Bool) (synced : beforeSyn state = false)
    (ev : TCPEventCode) (next lag : ℕ) :
    finLimit state next lag ≤ finLimit (nextState active state ev) next lag := by
  unfold finLimit
  split_ifs with transfer transfer' transfer'
  · exact le_rfl
  · exact Nat.le_add_right _ _
  · exact absurd (inDataTransfer_of_nextState synced transfer') transfer
  · exact le_rfl

lemma synced_nextState (active : Bool) (synced : beforeSyn state = false)
    (notSynRcvd : state ≠ .synRcvd) (ev : TCPEventCode) :
    beforeSyn (nextState active state ev) = false ∧ nextState active state ev ≠ .synRcvd := by
  cases state <;> cases synced <;> cases ev <;> cases active <;> first
    | exact absurd rfl notSynRcvd
    | exact ⟨rfl, nofun⟩

lemma deferredClose_cases (oldSndNxt : UInt32) (ev : TCPEventCode) (c : TCPConnection) :
    c.deferredClose oldSndNxt ev = ev ∨ c.deferredClose oldSndNxt ev = .close ∧
        (c.fsm = .established ∨ c.fsm = .synRcvd ∨ c.fsm = .closeWait) := by
  unfold deferredClose
  split_ifs with early late
  · exact .inr ⟨rfl, early.1.imp_right .inl⟩
  · exact .inr ⟨rfl, .inr (.inr late.1)⟩
  · exact .inl rfl

lemma finEvent_cases (c : TCPConnection) :
    c.finEvent = .rcvFin ∨ c.finEvent = .rcvFinAck ∧ c.fsm = .finWait1 := by
  unfold finEvent
  split_ifs with acked
  · exact .inr ⟨rfl, acked.1⟩
  · exact .inl rfl

lemma nextState_finEvent (active : Bool) (oldSndNxt : UInt32) (synced : beforeSyn c.fsm = false)
    (fsm : c'.fsm = c.fsm)
    (after : state = nextState active c.fsm (c'.deferredClose oldSndNxt c.finEvent)) :
    beforeSyn state = false ∧ state ≠ .synRcvd ∧ state ≠ .established ∧
      (inDataTransfer state = true → c.fsm = .synRcvd ∨ c.fsm = .established) := by
  rw [after]
  rcases c'.deferredClose_cases oldSndNxt c.finEvent with ev | ⟨ev, open_⟩
  · rw [ev]
    rcases c.finEvent_cases with ev | ⟨ev, finWait1⟩
    · rw [ev]
      cases state : c.fsm <;> simp [state, beforeSyn] at synced <;>
        simp [TCPConnection.nextState, beforeSyn, inDataTransfer]
    · rw [ev, finWait1]
      simp [TCPConnection.nextState, beforeSyn, inDataTransfer]
  · rw [ev, ← fsm]
    rcases open_ with state | state | state <;> rw [state] <;>
      simp [TCPConnection.nextState, beforeSyn, inDataTransfer]

/-! ## Whole events -/

/-- A segment whose FIN bit is looked at has its end beyond the window it is cut to. -/
def cutsFin (tcpseg : TCPSegment) (c : TCPConnection) : Bool :=
  c.reachesAck tcpseg && c.takesText tcpseg && tcpseg.finBit &&
    decide (seqGreater tcpseg.endSequenceNo (c.rcvNxt + c.leastWindow)) &&
    (c.fsm = .synRcvd || c.textFits tcpseg)

/-- The event brings no such segment, and none of half the number space or more. -/
def FinUncut (_ : Env) (input : TcpInput) (c : TCPConnection) : Prop :=
  ∀ tcpseg ∈ input.arrival, tcpseg.payloadLength < 2147483648 ∧ c.cutsFin tcpseg = false

instance (env : Env) (input : TcpInput) (c : TCPConnection) :
    Decidable (FinUncut env input c) :=
  inferInstanceAs (Decidable (∀ tcpseg ∈ input.arrival,
    tcpseg.payloadLength < 2147483648 ∧ c.cutsFin tcpseg = false))

/-- The FIN that `rcv_nxt` was advanced over was at its true position. -/
def FinAtTruePosition (h : History) (c : TCPConnection) : Prop :=
  ∀ finSeq, c.finPassed = some finSeq → TrulyPassed h h.rcvPos finSeq

/-- What holds of a run between two events. -/
structure FinInvariant (h : History) (c : TCPConnection) : Prop where
  sound : c.fsm = .synSent → WndSound c
  early : beforeSyn c.fsm = true ∨ c.fsm = .synRcvd → c.finPassed = none ∧ c.finRcvd = false
  fresh : c.fsm = .synRcvd → FreshStream c
  stream : beforeSyn c.fsm = false → c.fsm ≠ .closed → ∃ next lag,
    FinState h next lag (finLimit c.fsm next lag) c ∧ LagFits c.fsm lag ∧ h.rcvPos = next + lag
  passed : FinAtTruePosition h c

namespace FinInvariant

lemma of_state (next lag : ℕ) (state : FinState h next lag (finLimit c.fsm next lag) c)
    (fits : LagFits c.fsm lag) (rcvPos : h.rcvPos = next + lag) (synced : beforeSyn c.fsm = false)
    (early : c.fsm = .synRcvd → (c.finPassed = none ∧ c.finRcvd = false) ∧ FreshStream c) :
    FinInvariant h c where
  sound synSent := by
    rw [synSent] at synced
    cases synced
  early := by
    rw [synced]
    rintro (before | synRcvd)
    · cases before
    · exact (early synRcvd).1
  fresh synRcvd := (early synRcvd).2
  stream _ _ := ⟨next, lag, state, fits, rcvPos⟩
  passed finSeq passed := by
    rw [rcvPos]
    exact (state.passed finSeq passed).mono (finLimit_le _ _ _)

lemma of_unpassed (unpassed : c.finPassed = none ∧ c.finRcvd = false)
    (sound : c.fsm = .synSent → WndSound c)
    (unsynced : beforeSyn c.fsm = true ∨ c.fsm = .closed) : FinInvariant h c where
  sound := sound
  early _ := unpassed
  fresh synRcvd := by
    rw [synRcvd] at unsynced
    rcases unsynced with before | closed
    · cases before
    · cases closed
  stream synced notClosed := by
    rcases unsynced with before | closed
    · rw [synced] at before
      cases before
    · exact absurd closed notClosed
  passed finSeq passed := by
    rw [unpassed.1] at passed
    cases passed

end FinInvariant

lemma CloseKept.unpassed (kept : CloseKept c c')
    (unpassed : c.finPassed = none ∧ c.finRcvd = false) :
    c'.finPassed = none ∧ c'.finRcvd = false := by
  refine ⟨?_, ?_⟩
  · rcases kept.finPassed with same | cleared
    · exact same.trans unpassed.1
    · exact cleared
  · cases set : c'.finRcvd with
    | false => rfl
    | true =>
      have := kept.finRcvd set
      rw [unpassed.2] at this
      cases this

variable {input : TcpInput}

lemma FinInvariant.handle_beforeSyn (invariant : FinInvariant h c)
    (before : beforeSyn c.fsm = true) (ok : handle env input c = .ok c') :
    FinInvariant (.beginAt c'.rcvNxt) c' := by
  obtain ⟨ev, d, timers, toApp, processed, -, rfl⟩ := handle_eq ok
  have outcome := process_beforeSyn before invariant.sound processed
  have kept : CloseKept c d := by
    rcases process_outcome processed with kept | ⟨tcpseg, -, synced, -⟩
    · exact kept
    · rw [before] at synced
      cases synced
  have unpassed := kept.unpassed (invariant.early (.inl before))
  rw [kept.fsm]
  cases state : beforeSyn (nextState d.active c.fsm ev) with
  | true =>
    refine .of_unpassed unpassed (fun synSent => ?_) (.inl state)
    exact outcome.sound (fun init => by rw [init] at synSent; cases synSent)
      (fun listen => by rw [listen] at synSent; cases synSent)
      (fun closed => by rw [closed] at synSent; cases synSent)
  | false =>
    by_cases closed : nextState d.active c.fsm ev = .closed
    · exact .of_unpassed unpassed (fun synSent => by rw [closed] at synSent; cases synSent) (.inr closed)
    · obtain ⟨fresh, opened⟩ := outcome.fresh state closed
      have sound : WndSound d := outcome.sound
        (fun init => by rw [init] at state; cases state)
        (fun listen => by rw [listen] at state; cases state) closed
      have stream := Receives.empty d.rcvNxt d.irs d.maxRcvBuffer
      refine .of_state (4294967296 + d.rcvNxt.toNat) 0
        ⟨sound, ⟨[], stream.congr rfl fresh⟩, fun _ set => ?_, fun finSeq passed => ?_⟩
        ⟨fun _ => rfl, fun _ => Nat.zero_le 1⟩ rfl state
        fun _ => ⟨unpassed, fresh⟩
      · rw [unpassed.2] at set
        cases set
      · rw [unpassed.1] at passed
        cases passed

/-! ### After it -/

lemma FinState.arriving (state : FinState h next lag position c)
    (input : TcpInput) : FinState (h.arriving input) next lag position c := by
  unfold History.arriving
  split
  · exact state.arrive _
  · exact state

lemma FinState.enter (active : Bool) (ev : TCPEventCode) (timers : ConnTimers)
    (toApp : List TCPIndication) (state : FinState h next lag position d)
    (synced : beforeSyn d.fsm = false) :
    FinState h next lag position
      { d with fsm := nextState active d.fsm ev, timers := timers, toApp := toApp } where
  sound := state.sound
  stream := state.stream
  noted transfer := state.noted (inDataTransfer_of_nextState synced transfer)
  passed := state.passed

lemma placed_arrive {m : ℕ} (room : 2147483648 ≤ m) (rcvPos : h.rcvPos = m)
    (small : tcpseg.payloadLength < 2147483648) :
    Placed (h.arrive tcpseg) m (nearest m tcpseg.sequenceNo) tcpseg where
  mem := by
    unfold History.arrive
    rw [rcvPos]
    exact List.mem_append_right _ (List.mem_singleton_self _)
  serial_eq := serial_nearest m _
  below := le_nearest m _
  above := nearest_lt room _
  small := small

lemma TextReached.opened (reached : TextReached tcpseg c d start) (sound : WndSound c)
    (small : tcpseg.payloadLength < 2147483648) (fresh : c.fsm = .synRcvd → FreshStream c)
    (takes : d.takesText tcpseg = true) : 0 < d.rcvWnd.toNat := by
  obtain ⟨transfer, text⟩ := takesText_iff.mp takes
  rw [reached.kept.fsm] at transfer
  have carries : serial tcpseg.payloadLength ≠ 0 := by
    intro zero
    have := congrArg UInt32.toNat zero
    rw [toNat_serial] at this
    have zero : (0 : UInt32).toNat = 0 := rfl
    omega
  have opened : c.rcvWnd ≠ 0 := by
    intro shut
    have acceptable := reached.reaches
    simp [reachesAck, isSegmentAcceptable, carries, shut] at acceptable
  have positive {x : UInt32} (ne : x ≠ 0) : 0 < x.toNat :=
    Nat.pos_of_ne_zero fun zero => ne (UInt32.toNat_inj.mp zero)
  by_cases synRcvd : c.fsm = .synRcvd
  · have least := (reached.synRcvd synRcvd).2 text (by rw [fresh synRcvd]; rfl)
    unfold leastWindow at least
    rw [if_pos synRcvd] at least
    have buffer := sound.buffer opened
    have max : TCP_MAX_WIN ≠ 0 := by decide
    have some : min c.rcvWnd (min c.maxRcvBuffer TCP_MAX_WIN) ≠ 0 := by
      rcases Std.min_eq_or (a := c.rcvWnd) (b := min c.maxRcvBuffer TCP_MAX_WIN) with eq | eq
      · rw [eq]
        exact opened
      · rw [eq]
        rcases Std.min_eq_or (a := c.maxRcvBuffer) (b := TCP_MAX_WIN) with eq | eq <;> rw [eq]
        · exact buffer
        · exact max
    exact (positive some).trans_le (UInt32.le_iff_toNat_le.mp least)
  · rw [reached.rcvWnd text synRcvd transfer]
    exact positive opened

lemma TextReached.uncut {m : ℕ} (reached : TextReached tcpseg c d start) (sound : WndSound d)
    (rcvNxt : d.rcvNxt = serial m) (placed : Placed h m position tcpseg)
    (fresh : c.fsm = .synRcvd → FreshStream c) (clear : c.cutsFin tcpseg = false)
    (takes : d.takesText tcpseg = true) (set : tcpseg.finBit = true)
    (fits : d.textFits tcpseg = true) :
    ¬ seqGreater tcpseg.endSequenceNo (d.rcvNxt + d.rcvWnd) := by
  obtain ⟨transfer, text⟩ := takesText_iff.mp takes
  rw [reached.kept.fsm] at transfer
  have takesC : c.takesText tcpseg = true := takesText_iff.mpr ⟨transfer, text⟩
  by_cases synRcvd : c.fsm = .synRcvd
  · have least := (reached.synRcvd synRcvd).2 text (by rw [fresh synRcvd]; rfl)
    have least := UInt32.le_iff_toNat_le.mp least
    have within : ¬ seqGreater tcpseg.endSequenceNo (c.rcvNxt + c.leastWindow) := by
      simpa [cutsFin, reached.reaches, takesC, set, synRcvd] using clear
    have small := sound.small
    have edge (w : UInt32) : serial m + w = serial (m + w.toNat) := by
      rw [serial_add, serial_toNat]
    have endSerial : tcpseg.endSequenceNo = serial (position + tcpseg.payloadLength) :=
      (Arrival.serial_endPosition ⟨position, tcpseg⟩ placed.serial_eq).symm
    rw [← reached.kept.rcvNxt, rcvNxt, edge, endSerial] at within
    unfold textFits at fits
    rw [rcvNxt, edge] at fits ⊢
    split at fits
    case h_1 cut truncate =>
      obtain ⟨-, starts, reaches, -⟩ := TCPSegment.truncateSegment_eq truncate
      have overlap := overlaps_window placed.small small placed.serial_eq placed.below placed.above
        starts reaches
      have within := mt (seqGreater_serial (by omega) (by omega)).mpr within
      rw [endSerial]
      refine mt (seqGreater_serial (by omega) (by omega)).mp ?_
      omega
    case h_2 => cases fits
  · have rcvWnd := reached.rcvWnd text synRcvd transfer
    have same : c.textFits tcpseg = true := by
      rw [← fits]
      unfold textFits hasEnoughSpaceForSegmentInReceiveQueue
      rw [rcvWnd, reached.kept.rcvNxt, reached.kept.receiveQueue, reached.buffer]
    rw [reached.kept.rcvNxt, rcvWnd]
    simpa [cutsFin, reached.reaches, takesC, set, synRcvd, leastWindow, same] using clear

lemma History.arriving_rcvPos (input : TcpInput) : (h.arriving input).rcvPos = h.rcvPos := by
  unfold History.arriving History.arrive
  split <;> rfl

/-- The next segments are placed from where `rcv_nxt` ends up. -/
lemma FinInvariant.after {m next' lag' : ℕ} (rcvPos : h.rcvPos = m) (room : 2147483648 ≤ m)
    (below : m ≤ next' + lag' + 2147483648) (above : next' + lag' < m + 2147483648)
    (state : FinState (h.arriving input) next' lag' (finLimit c.fsm next' lag') c)
    (fits : LagFits c.fsm lag') (synced : beforeSyn c.fsm = false)
    (early : c.fsm = .synRcvd → (c.finPassed = none ∧ c.finRcvd = false) ∧ FreshStream c) :
    FinInvariant ((h.arriving input).moveTo c.rcvNxt) c := by
  refine .of_state _ _ (state.moveTo _) fits ?_ synced early
  obtain ⟨spans, stream⟩ := state.stream
  rw [stream.rcvNxt]
  apply History.moveTo_rcvPos <;> rw [History.arriving_rcvPos, rcvPos] <;> assumption

lemma FinInvariant.handle_kept {timers : ConnTimers} {toApp : List TCPIndication}
    (invariant : FinInvariant h c) (synced : beforeSyn c.fsm = false) (notClosed : c.fsm ≠ .closed)
    (kept : StreamKept c d) (ok : c' = { d with
      fsm := nextState active d.fsm ev, timers := timers, toApp := toApp }) :
    FinInvariant ((h.arriving input).moveTo c'.rcvNxt) c' := by
  obtain ⟨next, lag, state, fits, rcvPos⟩ := invariant.stream synced notClosed
  obtain ⟨spans, stream⟩ := state.stream
  have room := stream.room
  have taken := stream.start_le
  have fsm := kept.fsm
  have stateD := (state.arriving input).kept kept
  rw [← fsm] at fits synced stateD
  have entered := (stateD.enter active ev timers toApp synced).mono
    (finLimit_le_nextState active synced ev next lag)
  have unpassed (synRcvd : c.fsm = .synRcvd) : d.finPassed = none ∧ d.finRcvd = false := by
    rw [kept.finPassed, kept.finRcvd]
    exact invariant.early (.inr synRcvd)
  subst ok
  by_cases synRcvd : d.fsm = .synRcvd
  · cases back : beforeSyn (nextState active d.fsm ev) with
    | true =>
      refine .of_unpassed (unpassed (fsm ▸ synRcvd)) (fun synSent => ?_) (.inl back)
      change nextState active d.fsm ev = .synSent at synSent
      rw [synRcvd] at synSent
      cases ev <;> cases active <;> cases synSent
    | false =>
      refine .after rcvPos (by omega) (by omega) (by omega) entered (fits.nextState synced ev)
        back fun _ => ⟨unpassed (fsm ▸ synRcvd), ?_⟩
      have fresh : FreshStream d := (invariant.fresh (fsm ▸ synRcvd)).kept kept
      exact fresh
  · obtain ⟨still, notSynRcvd⟩ := synced_nextState active synced synRcvd ev
    exact .after rcvPos (by omega) (by omega) (by omega) entered (fits.nextState synced ev)
      still fun back => absurd back notSynRcvd

lemma FinInvariant.handle_reached {oldSndNxt : UInt32} {timers : ConnTimers}
    {toApp : List TCPIndication} (invariant : FinInvariant h c) (synced : beforeSyn c.fsm = false)
    (notClosed : c.fsm ≠ .closed) (small : tcpseg.payloadLength < 2147483648)
    (clear : c.cutsFin tcpseg = false) (reached : TextReached tcpseg c d start)
    (past : processSegment7thThru8th env oldSndUna oldSndNxt tcpseg start d = .ok (ev, e))
    (ok : c' = { e with
      fsm := nextState active e.fsm ev, timers := timers, toApp := toApp }) :
    FinInvariant ((h.arriving (.segment tcpseg)).moveTo c'.rcvNxt) c' := by
  obtain ⟨next, lag, state, fits, rcvPos⟩ := invariant.stream synced notClosed
  obtain ⟨spans, stream⟩ := state.stream
  have room := stream.room
  have taken := stream.start_le
  have fsm := reached.kept.fsm
  have stateD := (state.arriving (.segment tcpseg)).kept reached.kept
  have placed : Placed (h.arrive tcpseg) (next + lag) _ tcpseg :=
    placed_arrive (by omega) rcvPos small
  have rcvNxt : d.rcvNxt = serial (next + lag) := by
    rw [reached.kept.rcvNxt]
    exact stream.rcvNxt
  rw [← fsm] at fits stateD
  have finAt : d.takesText tcpseg = true → tcpseg.finBit = true → d.textFits tcpseg = true →
      ∀ e, e = min (nearest (next + lag) tcpseg.sequenceNo + tcpseg.payloadLength)
        (next + lag + d.rcvWnd.toNat) →
      (¬ seqGreater tcpseg.endSequenceNo (d.rcvNxt + d.rcvWnd) →
        e = nearest (next + lag) tcpseg.sequenceNo + tcpseg.payloadLength) →
      (h.arrive tcpseg).Fin e := by
    intro takes set space e _ whole
    rw [whole (reached.uncut stateD.sound rcvNxt placed invariant.fresh clear takes set space)]
    exact ⟨_, placed.mem, set, rfl⟩
  rcases processSegment7thThru8th_fin stateD fits
    (reached.opened state.sound small invariant.fresh) placed finAt past with
    ⟨rfl, kept⟩ | ⟨ev', rfl, outcome⟩
  · exact invariant.handle_kept synced notClosed (reached.kept.trans kept) ok
  · rw [← fsm] at synced
    cases outcome with
    | waits next' lag' le near lagLe lagGe fsmE stateE =>
      rw [← fsmE] at synced stateE fits
      have fits : LagFits e.fsm lag' := ⟨fun early => by have := fits.1 early; omega,
        fun transfer => by have := fits.2 transfer; omega⟩
      have entered := (stateE.enter active (e.deferredClose oldSndNxt start) timers toApp synced).mono
        (finLimit_le_nextState active synced (e.deferredClose oldSndNxt start) next' lag')
      -- in SYN_RCVD the event is at least that of the ACK
      have left : beforeSyn (nextState active e.fsm (e.deferredClose oldSndNxt start)) = false ∧
          nextState active e.fsm (e.deferredClose oldSndNxt start) ≠ .synRcvd := by
        by_cases synRcvd : e.fsm = .synRcvd
        · have ack := (reached.synRcvd (by rw [← fsm, ← fsmE]; exact synRcvd)).1
          rcases e.deferredClose_cases oldSndNxt start with same | ⟨close, -⟩
          · rw [same, ack, synRcvd]
            exact ⟨rfl, nofun⟩
          · rw [close, synRcvd]
            exact ⟨rfl, nofun⟩
        · exact synced_nextState active synced synRcvd _
      subst ok
      exact .after rcvPos (by omega) (by omega) (by omega) entered (fits.nextState synced _)
        left.1 fun back => absurd back left.2
    | passes next' lag' le near lagLe lagGe fsmE stateE =>
      obtain ⟨still, notSynRcvd, notEstablished, transfer⟩ :=
        nextState_finEvent active oldSndNxt synced fsmE rfl
      rw [← fsmE] at synced
      have first (transfers : inDataTransfer (nextState active d.fsm
          (e.deferredClose oldSndNxt d.finEvent)) = true) : lag' = 0 := by
        have := fits.1 (transfer transfers)
        omega
      have limit : next' + lag' ≤ finLimit (nextState active d.fsm
          (e.deferredClose oldSndNxt d.finEvent)) next' (lag' + 1) := by
        unfold finLimit
        split_ifs with transfers
        · have := first transfers
          omega
        · omega
      rw [← fsmE] at still notSynRcvd notEstablished first limit
      have entered := (stateE.enter active (e.deferredClose oldSndNxt d.finEvent) timers toApp
        synced).mono limit
      subst ok
      refine .after rcvPos (by omega) ?_ ?_ entered ⟨fun early => ?_, fun transfers => ?_⟩ still
        fun back => absurd back notSynRcvd
      · omega
      · omega
      · exact early.elim (fun same => absurd same notSynRcvd) fun same =>
          absurd same notEstablished
      · have := first transfers
        omega

lemma FinInvariant.handle (invariant : FinInvariant h c) (uncut : FinUncut env input c)
    (ok : handle env input c = .ok c') : FinInvariant (historyAfter input c c' h) c' := by
  unfold historyAfter
  split
  case isTrue before => exact invariant.handle_beforeSyn before ok
  case isFalse after =>
    have synced := Bool.not_eq_true _ ▸ after
    obtain ⟨ev, d, timers, toApp, processed, opened, same⟩ := handle_eq ok
    have notClosed : c.fsm ≠ .closed := by
      rw [← process_fsm processed]
      exact opened
    rcases process_stream synced processed with kept |
      ⟨tcpseg, e, start, oldSndUna, oldSndNxt, rfl, reached, past⟩
    · exact invariant.handle_kept synced notClosed kept same
    · obtain ⟨small, clear⟩ := uncut tcpseg rfl
      exact invariant.handle_reached synced notClosed small clear reached past same

/-- In a run in which no FIN is cut, every FIN is passed at its true position. -/
theorem fin_at_true_position (tracked : Tracked FinUncut h c) : FinAtTruePosition h c := by
  suffices invariant : FinInvariant h c from invariant.passed
  induction tracked with
  | begins h begun =>
    cases begun with
    | new par => exact .of_unpassed ⟨rfl, rfl⟩ nofun (.inl rfl)
    | listeningClone c => exact .of_unpassed ⟨rfl, rfl⟩ nofun (.inl rfl)
  | step env input tracked enabled meets handled invariant => exact invariant.handle meets handled

/-- Text of the peer from its first octet on, with its FIN. -/
def peerTextFin (payloadLength : ℕ) : TCPSegment :=
  { peerAck 1 65535 true with payloadLength := payloadLength }

/-- A FIN behind 14500 octets, with a window of 14000. -/
def cutFinRun : List (Env × TcpInput) :=
  openServer 65535 ++ [(renoAt 3, .segment (peerTextFin 14500))]

/-- After that run `rcv_nxt` is past a FIN numbered 15001, where the 14001st octet is to come. -/
theorem fin_cut_at_window : ¬ ∀ h c, Tracked Unrestricted h c → FinAtTruePosition h c := by
  intro truly
  have cut : (runTracked Unrestricted cutFinRun {} (new serverPar)).any (fun (h, c) =>
      c.finPassed = some 15001 ∧ ∀ arrival ∈ h.arrivals,
        arrival.tcpseg.finBit = true → serial arrival.endPosition ≠ 15001) = true := by
    decide +kernel
  obtain ⟨h, c, tracked, test⟩ := exists_tracked cut
  obtain ⟨passed, elsewhere⟩ := of_decide_eq_true test
  obtain ⟨f, ⟨arrival, mem, set, atEnd⟩, same, -⟩ := truly h c tracked 15001 passed
  exact elsewhere arrival mem set (atEnd.symm ▸ same)

/-- A FIN behind text that fits is passed behind the text. -/
theorem fin_at_true_position_in_window :
    ∃ h c, Tracked FinUncut h c ∧ c.finPassed = some 15001 ∧ FinAtTruePosition h c := by
  have passed : (runTracked FinUncut
      (openServer 65535 ++ [(renoAt 3, .segment (peerTextFin 14000))]) {} (new serverPar)).any
      (fun (_, c) => c.finPassed = some 15001) = true := by
    decide +kernel
  obtain ⟨h, c, tracked, test⟩ := exists_tracked passed
  exact ⟨h, c, tracked, of_decide_eq_true test, fin_at_true_position tracked⟩

end Inet.Tcp.TCPConnection
