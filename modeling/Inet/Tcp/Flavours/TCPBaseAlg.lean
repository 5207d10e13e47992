import Inet.Lib.Along
import Inet.Tcp.SeqNum
import Mathlib.Tactic.IntervalCases
import Mathlib.Tactic.Positivity

/-!
# The timers of TCPBaseAlg

The retransmission timer, the persist timer and the round-trip times. Times are rational numbers of
seconds; a timer is the time it is scheduled for. What the functions do to the scoreboard and the
congestion window is left out.
-/

namespace Inet.Tcp

namespace TCPBaseAlg

def MAX_REXMIT_COUNT : ℕ := 12

def MIN_REXMIT_TIMEOUT : ℚ := 3

def MAX_REXMIT_TIMEOUT : ℚ := 240

def MIN_PERSIST_TIMEOUT : ℚ := 5

def MAX_PERSIST_TIMEOUT : ℚ := 60

/-- The variables of the timers, as they are constructed, and the two timers. -/
structure TCPBaseAlgStateVariables where
  sndUna : UInt32
  sndMax : UInt32
  sndWnd : UInt32
  tsEnabled : Bool
  timeLastDataSent : ℚ := 0
  rexmitCount : ℕ := 0
  rexmitTimeout : ℚ := 3
  persistFactor : UInt32 := 0
  persistTimeout : ℚ := 5
  rtseq : UInt32 := 0
  rtseqSendtime : ℚ := 0
  srtt : ℚ := 0
  minrtt : ℚ := 1
  lastrtt : ℚ := 0
  rttvar : ℚ := 3 / 4
  numRtos : UInt32 := 0
  rexmitTimer : Option ℚ := none
  persistTimer : Option ℚ := none
  deriving DecidableEq

namespace TCPBaseAlgStateVariables

variable (state : TCPBaseAlgStateVariables) (now : ℚ)

def startRexmitTimer : TCPBaseAlgStateVariables :=
  { state with rexmitCount := 0, rexmitTimer := some (now + state.rexmitTimeout) }

def restartRexmitTimer : TCPBaseAlgStateVariables := state.startRexmitTimer now

/-- The retransmission has been given up where there is no result. -/
def processRexmitTimer : Option TCPBaseAlgStateVariables :=
  if MAX_REXMIT_COUNT < state.rexmitCount + 1 then none
  else
    let doubled := state.rexmitTimeout + state.rexmitTimeout
    let rexmitTimeout := if MAX_REXMIT_TIMEOUT < doubled then MAX_REXMIT_TIMEOUT else doubled
    some { state with
      rexmitCount := state.rexmitCount + 1
      rexmitTimeout := rexmitTimeout
      rexmitTimer := some (now + rexmitTimeout)
      rtseqSendtime := 0
      numRtos := state.numRtos + 1
      timeLastDataSent := now }

def dataSent (fromseq : UInt32) : TCPBaseAlgStateVariables :=
  let state := if state.rexmitTimer.isSome then state else state.startRexmitTimer now
  let state :=
    if ¬ state.tsEnabled ∧ state.rtseqSendtime = 0 then
      { state with rtseq := fromseq, rtseqSendtime := now }
    else state
  { state with timeLastDataSent := now }

/-- `TCPConnection::sendProbe`, with what it leaves in `snd_max` if there is something to send. -/
def sendProbe : Option UInt32 → TCPBaseAlgStateVariables
  | some sndMax => ({ state with sndMax := sndMax }).dataSent now state.sndMax
  | none => state

/-- The factor with which the interval is computed next. -/
def nextPersistFactor : UInt32 :=
  if state.persistFactor = 0 then state.persistFactor + 1
  else if state.persistFactor < 64 then state.persistFactor * 2
  else state.persistFactor

def processPersistTimer (probe : Option UInt32) : TCPBaseAlgStateVariables :=
  let persistTimeout := (state.nextPersistFactor.toNat : ℚ) * (3 / 2)
  let rexmitTimeout :=
    if persistTimeout < MIN_PERSIST_TIMEOUT then MIN_PERSIST_TIMEOUT else state.rexmitTimeout
  let rexmitTimeout :=
    if MAX_PERSIST_TIMEOUT < persistTimeout then MAX_PERSIST_TIMEOUT else rexmitTimeout
  ({ state with
    persistFactor := state.nextPersistFactor
    persistTimeout := persistTimeout
    rexmitTimeout := rexmitTimeout
    persistTimer := some (now + persistTimeout) }).sendProbe now probe

/-- Jacobson's algorithm. -/
def rttMeasurementComplete (tSent tAcked : ℚ) : TCPBaseAlgStateVariables :=
  let newRTT := tAcked - tSent
  let err := newRTT - state.srtt
  let srtt := state.srtt + err / 8
  let rttvar := state.rttvar + (|err| - state.rttvar) / 8
  let rto := srtt + 4 * rttvar
  { state with
    lastrtt := newRTT
    minrtt := if newRTT < state.minrtt then newRTT else state.minrtt
    srtt := srtt
    rttvar := rttvar
    rexmitTimeout :=
      if MAX_REXMIT_TIMEOUT < rto then MAX_REXMIT_TIMEOUT
      else if rto < MIN_REXMIT_TIMEOUT then MIN_REXMIT_TIMEOUT
      else rto }

/-! The three parts of `receivedDataAck`: a measurement that has come to its end, the
retransmission timer, and the persist timer. -/

def endMeasurement : TCPBaseAlgStateVariables :=
  if ¬ state.tsEnabled ∧ state.rtseqSendtime ≠ 0 ∧ seqLess state.rtseq state.sndUna then
    { state.rttMeasurementComplete state.rtseqSendtime now with rtseqSendtime := 0 }
  else state

def handleRexmitTimer : TCPBaseAlgStateVariables :=
  if state.sndUna = state.sndMax then { state with rexmitTimer := none }
  else state.startRexmitTimer now

def handlePersistTimer : TCPBaseAlgStateVariables :=
  if state.sndWnd = 0 then
    if state.rexmitTimer.isSome then
      if state.persistTimer.isSome then { state with persistTimer := none, persistFactor := 0 }
      else state
    else if state.persistTimer.isSome then state
    else { state with persistTimer := some (now + state.persistTimeout) }
  else if state.persistTimer.isSome then { state with persistTimer := none, persistFactor := 0 }
  else state

/-- `receivedDataAck`, when the connection has taken over the acknowledgment and the window. -/
def receivedDataAck : TCPBaseAlgStateVariables :=
  ((state.endMeasurement now).handleRexmitTimer now).handlePersistTimer now

end TCPBaseAlgStateVariables

open TCPBaseAlgStateVariables

/-- What happens to the timers and to the measurement. -/
inductive Event where
  | persistTimer (now : ℚ) (probe : Option UInt32)
  | rexmitTimer (now : ℚ)
  | ack (now : ℚ) (sndUna sndWnd : UInt32)
  | rttMeasurement (tSent tAcked : ℚ)
  | dataSent (now : ℚ) (fromseq sndMax : UInt32)
  | restartRexmitTimer (now : ℚ)

/-- A timer expires when it is scheduled to. -/
def step (state : TCPBaseAlgStateVariables) : Event → Option TCPBaseAlgStateVariables
  | .persistTimer now probe =>
      if state.persistTimer = some now then some (state.processPersistTimer now probe) else none
  | .rexmitTimer now =>
      if state.rexmitTimer = some now then state.processRexmitTimer now else none
  | .ack now sndUna sndWnd =>
      some (({ state with sndUna := sndUna, sndWnd := sndWnd }).receivedDataAck now)
  | .rttMeasurement tSent tAcked => some (state.rttMeasurementComplete tSent tAcked)
  | .dataSent now fromseq sndMax => some (({ state with sndMax := sndMax }).dataSent now fromseq)
  | .restartRexmitTimer now => some (state.restartRexmitTimer now)

/-- Does the acknowledgment cancel the persist timer? -/
def cancelsPersist (state : TCPBaseAlgStateVariables) (sndUna sndWnd : UInt32) : Bool :=
  state.persistTimer.isSome && (decide (sndWnd ≠ 0) || decide (sndUna ≠ state.sndMax))

/-- How often the persist timer has expired since it was cancelled last. -/
def noteExpiration (state : TCPBaseAlgStateVariables) (event : Event) (expirations : ℕ) : ℕ :=
  match event with
  | .persistTimer _ _ => expirations + 1
  | .ack _ sndUna sndWnd => if cancelsPersist state sndUna sndWnd then 0 else expirations
  | _ => expirations

/-- The factor is doubled from 1 to 64. -/
def backoff : ℕ → ℕ
  | 0 => 0
  | expirations + 1 => 2 ^ min expirations 6

def Backoff (state : TCPBaseAlgStateVariables) (expirations : ℕ) : Prop :=
  state.persistFactor.toNat = backoff expirations

section

variable {state state' : TCPBaseAlgStateVariables} {now : ℚ} {expirations : ℕ}

lemma dataSent_persistFactor (fromseq : UInt32) :
    (state.dataSent now fromseq).persistFactor = state.persistFactor := by
  rw [dataSent]
  split_ifs <;> rfl

lemma dataSent_persistTimer (fromseq : UInt32) :
    (state.dataSent now fromseq).persistTimer = state.persistTimer := by
  rw [dataSent]
  split_ifs <;> rfl

lemma dataSent_rexmitTimeout (fromseq : UInt32) :
    (state.dataSent now fromseq).rexmitTimeout = state.rexmitTimeout := by
  rw [dataSent]
  split_ifs <;> rfl

variable (probe : Option UInt32)

lemma sendProbe_persistFactor :
    (state.sendProbe now probe).persistFactor = state.persistFactor := by
  cases probe with
  | none => rfl
  | some sndMax => exact dataSent_persistFactor _

lemma sendProbe_persistTimer : (state.sendProbe now probe).persistTimer = state.persistTimer := by
  cases probe with
  | none => rfl
  | some sndMax => exact dataSent_persistTimer _

lemma sendProbe_rexmitTimeout :
    (state.sendProbe now probe).rexmitTimeout = state.rexmitTimeout := by
  cases probe with
  | none => rfl
  | some sndMax => exact dataSent_rexmitTimeout _

/-! ### How the factor changes -/

lemma nextPersistFactor_toNat : state.nextPersistFactor.toNat =
    if state.persistFactor.toNat = 0 then 1
    else if state.persistFactor.toNat < 64 then state.persistFactor.toNat * 2
    else state.persistFactor.toNat := by
  have zero : state.persistFactor = 0 ↔ state.persistFactor.toNat = 0 := UInt32.toNat_inj.symm
  have small : state.persistFactor < 64 ↔ state.persistFactor.toNat < 64 := UInt32.lt_iff_toNat_lt
  rw [nextPersistFactor]
  simp only [zero, small]
  split_ifs with none low
  · rw [UInt32.toNat_add, none]
    rfl
  · exact Nat.mod_eq_of_lt (by change state.persistFactor.toNat * 2 < _; omega)
  · rfl

lemma Backoff.next (factor : Backoff state expirations) :
    state.nextPersistFactor.toNat = backoff (expirations + 1) := by
  rw [nextPersistFactor_toNat, factor]
  cases expirations with
  | zero => rfl
  | succ expirations =>
    have positive : backoff (expirations + 1) ≠ 0 := by
      rw [backoff]
      positivity
    rw [if_neg positive]
    by_cases low : expirations < 6
    · have below : backoff (expirations + 1) < 64 := by
        rw [backoff, min_eq_left low.le]
        exact Nat.pow_lt_pow_right (by omega) low
      rw [if_pos below, backoff, backoff, min_eq_left low.le, min_eq_left (by omega), pow_succ]
    · have top : backoff (expirations + 1) = 64 := by
        rw [backoff, min_eq_right (by omega)]
        rfl
      rw [if_neg (by omega), backoff, backoff, min_eq_right (by omega), min_eq_right (by omega)]

lemma handlePersistTimer_persistFactor
    (running : state.rexmitTimer.isSome = decide (state.sndUna ≠ state.sndMax)) :
    (state.handlePersistTimer now).persistFactor =
      if cancelsPersist state state.sndUna state.sndWnd then 0 else state.persistFactor := by
  rw [handlePersistTimer, cancelsPersist, running]
  by_cases closed : state.sndWnd = 0 <;> by_cases all : state.sndUna = state.sndMax <;>
    cases persist : state.persistTimer <;> simp [closed, all]

lemma handleRexmitTimer_running : (state.handleRexmitTimer now).rexmitTimer.isSome =
    decide ((state.handleRexmitTimer now).sndUna ≠ (state.handleRexmitTimer now).sndMax) := by
  rw [handleRexmitTimer]
  split_ifs with all
  · simp [all]
  · simp [startRexmitTimer, all]

lemma handleRexmitTimer_endMeasurement
    (eq : state' = (state.endMeasurement now).handleRexmitTimer now) :
    state'.persistFactor = state.persistFactor ∧ cancelsPersist state' state'.sndUna state'.sndWnd =
        cancelsPersist state state.sndUna state.sndWnd := by
  subst eq
  rw [endMeasurement, handleRexmitTimer]
  split_ifs <;> exact ⟨rfl, rfl⟩

lemma receivedDataAck_persistFactor : (state.receivedDataAck now).persistFactor =
    if cancelsPersist state state.sndUna state.sndWnd then 0 else state.persistFactor := by
  obtain ⟨factor, cancels⟩ := @handleRexmitTimer_endMeasurement state _ now rfl
  rw [receivedDataAck, handlePersistTimer_persistFactor handleRexmitTimer_running, factor, cancels]

lemma Backoff.step {e : Event} (factor : Backoff state expirations)
    (next : step state e = some state') : Backoff state' (noteExpiration state e expirations) := by
  cases e with
  | persistTimer now probe =>
    obtain ⟨-, result⟩ := Option.ite_none_right_eq_some.mp next
    cases result
    exact (congrArg UInt32.toNat (sendProbe_persistFactor probe)).trans factor.next
  | rexmitTimer now =>
    obtain ⟨-, result⟩ := Option.ite_none_right_eq_some.mp next
    rw [processRexmitTimer] at result
    split_ifs at result
    cases result
    exact factor
  | ack now sndUna sndWnd =>
    cases next
    rw [Backoff, receivedDataAck_persistFactor, noteExpiration]
    change UInt32.toNat (if cancelsPersist state sndUna sndWnd then 0 else _) = _
    split_ifs
    · rfl
    · exact factor
  | rttMeasurement tSent tAcked =>
    cases next
    exact factor
  | dataSent now fromseq sndMax =>
    cases next
    exact (congrArg UInt32.toNat (dataSent_persistFactor fromseq)).trans factor
  | restartRexmitTimer now =>
    cases next
    exact factor

lemma backoff_bounded :
    (MIN_PERSIST_TIMEOUT ≤ (backoff (expirations + 1) : ℚ) * (3 / 2) ∧
      (backoff (expirations + 1) : ℚ) * (3 / 2) ≤ MAX_PERSIST_TIMEOUT) ↔
      2 ≤ expirations ∧ expirations ≤ 5 := by
  have place : (2 ≤ expirations ∧ expirations ≤ 5) ↔
      2 ≤ min expirations 6 ∧ min expirations 6 ≤ 5 := by omega
  have bound : min expirations 6 ≤ 6 := min_le_right _ _
  rw [place, backoff]
  generalize min expirations 6 = doublings at bound
  interval_cases doublings <;> norm_num [MIN_PERSIST_TIMEOUT, MAX_PERSIST_TIMEOUT]

lemma processPersistTimer_persistTimer :
    (state.processPersistTimer now probe).persistTimer =
      some (now + (state.nextPersistFactor.toNat : ℚ) * (3 / 2)) :=
  sendProbe_persistTimer probe

lemma processPersistTimer_rexmitTimeout
    (bounded : MIN_PERSIST_TIMEOUT ≤ (state.nextPersistFactor.toNat : ℚ) * (3 / 2) ∧
      (state.nextPersistFactor.toNat : ℚ) * (3 / 2) ≤ MAX_PERSIST_TIMEOUT) :
    (state.processPersistTimer now probe).rexmitTimeout = state.rexmitTimeout := by
  refine (sendProbe_rexmitTimeout probe).trans ?_
  rw [if_neg bounded.2.not_gt, if_neg bounded.1.not_gt]

end

/-- An expiration of the persist timer schedules the timer between its bounds and leaves the
retransmission timeout alone exactly when the timer has expired twice to five times since it was
cancelled last. -/
theorem processPersistTimer_iff {sndUna sndMax sndWnd : UInt32} {tsEnabled : Bool}
    {events : List Event} {state after : TCPBaseAlgStateVariables} {expirations : ℕ} {now : ℚ}
    {probe : Option UInt32} (run : runFrom (withHistory step noteExpiration)
      ({ sndUna := sndUna, sndMax := sndMax, sndWnd := sndWnd, tsEnabled := tsEnabled }, 0) events =
        some (state, expirations)) (expires : step state (.persistTimer now probe) = some after) :
    ((∃ interval, after.persistTimer = some (now + interval) ∧
        MIN_PERSIST_TIMEOUT ≤ interval ∧ interval ≤ MAX_PERSIST_TIMEOUT) ∧
      after.rexmitTimeout = state.rexmitTimeout) ↔ 2 ≤ expirations ∧ expirations ≤ 5 := by
  have factor : Backoff state expirations := by
    refine kept_of_reached (K := Backoff) ?_ ?_ run
    · exact fun kept next => kept.step next
    · rfl
  obtain ⟨-, result⟩ := Option.ite_none_right_eq_some.mp expires
  cases result
  rw [← backoff_bounded, ← factor.next]
  constructor
  · rintro ⟨⟨interval, scheduled, bounded⟩, -⟩
    rw [processPersistTimer_persistTimer] at scheduled
    rwa [add_left_cancel (Option.some_inj.mp scheduled)]
  · intro bounded
    exact ⟨⟨_, processPersistTimer_persistTimer probe, bounded⟩,
      processPersistTimer_rexmitTimeout probe bounded⟩

/-- Everything has been acknowledged, and the window is closed. -/
def idle : TCPBaseAlgStateVariables :=
  { sndUna := 100, sndMax := 100, sndWnd := 0, tsEnabled := true }

/-- The persist timer is started, and expires twice. -/
def closedWindow : List Event :=
  [.ack 10 100 0, .persistTimer 15 none, .persistTimer (33 / 2) none]

def persisting (events : List Event) : TCPBaseAlgStateVariables × ℕ :=
  (runFrom (withHistory step noteExpiration) (idle, 0) events).getD (idle, 0)

/-- The third expiration is the first one with an interval within bounds. -/
theorem processPersistTimer_third : let state := (persisting closedWindow).1
    let after := state.processPersistTimer (39 / 2) none
    ((∃ interval, after.persistTimer = some (39 / 2 + interval) ∧
        MIN_PERSIST_TIMEOUT ≤ interval ∧ interval ≤ MAX_PERSIST_TIMEOUT) ∧
      after.rexmitTimeout = state.rexmitTimeout) ↔ 2 ≤ 2 ∧ 2 ≤ 5 :=
  @processPersistTimer_iff 100 100 0 true closedWindow _ _ 2 (39 / 2) none (by decide +kernel)
    (by decide +kernel)

/-- The first one corrects the retransmission timeout. -/
theorem processPersistTimer_first :
    ¬ ∀ (sndUna sndMax sndWnd : UInt32) (tsEnabled : Bool) (events : List Event)
      (state after : TCPBaseAlgStateVariables) (expirations : ℕ) (now : ℚ)
      (probe : Option UInt32),
      runFrom (withHistory step noteExpiration)
        ({ sndUna := sndUna, sndMax := sndMax, sndWnd := sndWnd, tsEnabled := tsEnabled }, 0)
          events = some (state, expirations) →
      step state (.persistTimer now probe) = some after →
      (∃ interval, after.persistTimer = some (now + interval) ∧
        MIN_PERSIST_TIMEOUT ≤ interval ∧ interval ≤ MAX_PERSIST_TIMEOUT) ∧
      after.rexmitTimeout = state.rexmitTimeout := by
  intro claim
  have unchanged := (claim 100 100 0 true [.ack 10 100 0] (persisting [.ack 10 100 0]).1
    ((persisting [.ack 10 100 0]).1.processPersistTimer 15 none) 0 15 none
    (by decide +kernel) (by decide +kernel)).2
  revert unchanged
  decide +kernel

end TCPBaseAlg

end Inet.Tcp
