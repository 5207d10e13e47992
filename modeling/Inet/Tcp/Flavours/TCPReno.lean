import Inet.Tcp.State

/-!
# TCPReno

The algorithm with the parts of `TCPBaseAlg` it builds on. The retransmission timeout a finished
measurement leads to is the parameter `rto`, in milliseconds. The pace timer is never started.
-/

namespace Inet.Tcp

namespace TCPReno

variable (now rto : ℕ)

open CallTree

/-- Write the algorithm's variables. -/
def update (write : TCPConnection → AlgVars) : AlgCallback := single fun c => .update (write c)

/-- Look at the connection and go on. -/
def choose (next : TCPConnection → AlgCallback) : AlgCallback :=
  .call (fun c => .update c.toAlgVars) fun _ c => next c

/-- Make a call if the connection asks for it. -/
def callIf (test : TCPConnection → Bool) (choose : TCPConnection → AlgCall) : AlgCallback :=
  single fun c => if test c then choose c else .update c.toAlgVars

def MAX_REXMIT_COUNT : ℕ := 12

def MAX_REXMIT_TIMEOUT : ℕ := 240000

/-- The initial window of RFC 3390. -/
def increasedIW (c : TCPConnection) : UInt32 := min (4 * c.sndMss) (max (2 * c.sndMss) 4380)

def startRexmitTimer (vars : AlgVars) : AlgVars :=
  { vars with rexmitCount := 0, rexmitTimer := true }

def nothingOutstanding (c : TCPConnection) : Bool := c.sndUna = c.sndMax

/-- The congestion window after an idle period. -/
def restartWindow (c : TCPConnection) : AlgVars :=
  if c.sendQueue.getBytesAvailable c.sndNxt ≠ 0 ∧ c.rexmitTimeout < now - c.timeLastDataSent then
    { c.toAlgVars with
      sndCwnd := if c.increasedIWEnabled then min (increasedIW c) c.sndCwnd else c.sndMss }
  else c.toAlgVars

/-- `TCPBaseAlg::sendData`, going on with the answer. -/
def sendDataThen (sendCommandInvoked : Bool) (next : Bool → AlgCallback) : AlgCallback :=
  (update (restartWindow now)).andThen <|
    .call (fun c => .sendData
      (sendCommandInvoked && c.nagleEnabled && !nothingOutstanding c) c.sndCwnd)
      fun sent _ => next sent

def sendData (sendCommandInvoked : Bool) : AlgCallback :=
  sendDataThen now sendCommandInvoked fun _ => done

def established (active : Bool) : AlgCallback :=
  (update fun c => { c.toAlgVars with
    sndCwnd :=
      if c.increasedIWEnabled ∧ c.synRexmitCount = 0 then increasedIW c else c.sndMss }).andThen <|
  if active then
    sendDataThen now false fun sent => if sent then done else single fun _ => .sendAck
  else done

def receivedOutOfOrderSegment : AlgCallback :=
  (update fun c => { c.toAlgVars with ackNow := true }).andThen (single fun _ => .sendAck)

/-- Has an ACK of everything received already gone out? -/
def ackIsSent (c : TCPConnection) : Bool :=
  c.fullSizedSegmentCounter = 0 && !c.ackNow && c.lastAckSent = c.rcvNxt && !c.delayedAckTimer

def receiveSeqChanged : AlgCallback :=
  (update fun c => { c.toAlgVars with
    ackNow := if ackIsSent c then c.ackNow else c.ackNow || c.lossRecovery }).andThen <|
  single fun c =>
    if ackIsSent c then .update c.toAlgVars
    else if ¬ c.delayedAcksEnabled then .sendAckEcn c.ecn
    else if c.ackNow ∨ 2 ≤ c.fullSizedSegmentCounter then .sendAck
    else .update { c.toAlgVars with delayedAckTimer := true }

/-- The round-trip measurement and the timers when something is acknowledged. -/
def baseReceivedDataAck (c : TCPConnection) : AlgVars :=
  let vars := c.toAlgVars
  let measured := ¬ c.tsEnabled ∧ vars.rtseqSendtime ≠ 0 ∧ seqLess vars.rtseq c.sndUna
  let vars := if measured then { vars with rexmitTimeout := rto, rtseqSendtime := 0 } else vars
  let vars :=
    if nothingOutstanding c then { vars with rexmitTimer := false } else startRexmitTimer vars
  if c.sndWnd = 0 ∧ ¬ vars.rexmitTimer then { vars with persistTimer := true }
  else if vars.persistTimer then { vars with persistTimer := false, persistFactor := 0 }
  else vars

/-- Limited transmit on the first duplicate ACKs. -/
def baseReceivedDuplicateAck : AlgCallback :=
  callIf (fun c => decide (c.dupacks < DUPTHRESH) && c.limitedTransmitEnabled)
    fun c => .sendOneNewSegment (c.nagleEnabled && !nothingOutstanding c) c.sndCwnd

def ackSent (c : TCPConnection) : AlgVars :=
  { c.toAlgVars with
    fullSizedSegmentCounter := 0
    ackNow := false
    lastAckSent := c.rcvNxt
    delayedAckTimer := false }

def dataSent (fromseq : UInt32) (c : TCPConnection) : AlgVars :=
  let vars := if c.rexmitTimer then c.toAlgVars else startRexmitTimer c.toAlgVars
  let vars :=
    if ¬ c.tsEnabled ∧ vars.rtseqSendtime = 0 then
      { vars with rtseq := fromseq, rtseqSendtime := now }
    else vars
  { vars with timeLastDataSent := now }

/-- Variables after an expired retransmission timer. -/
def baseProcessRexmitTimer (c : TCPConnection) : AlgVars :=
  { c.toAlgVars with
    rexmitCount := c.rexmitCount + 1
    rexmitTimeout := min (c.rexmitTimeout + c.rexmitTimeout) MAX_REXMIT_TIMEOUT
    rexmitTimer := true
    rtseqSendtime := 0
    recoveryPoint := if c.sackEnabled ∧ c.lossRecovery then c.sndMax else c.recoveryPoint
    lossRecovery := c.lossRecovery && !c.sackEnabled
    timeLastDataSent := now }

/-! ## TCPReno -/

/-- `recalculateSlowStartThreshold()`. -/
def slowStartThreshold (c : TCPConnection) : UInt32 :=
  max (min c.sndCwnd c.sndWnd / 2) (2 * c.sndMss)

/-- The congestion window when something new is acknowledged. -/
def growWindow (c : TCPConnection) : AlgVars :=
  if DUPTHRESH ≤ c.dupacks then { c.toAlgVars with sndCwnd := c.ssthresh }
  else if c.sndCwnd < c.ssthresh then { c.toAlgVars with sndCwnd := c.sndCwnd + c.sndMss }
  else
    let incr := c.sndMss * c.sndMss / c.sndCwnd
    { c.toAlgVars with sndCwnd := c.sndCwnd + (if incr = 0 then 1 else incr) }

def inLossRecovery (c : TCPConnection) : Bool := c.sackEnabled && c.lossRecovery

/-- Does the pipe leave room for a segment of the congestion window? -/
def pipeHasRoom (c : TCPConnection) : Bool :=
  decide (c.sndMss.toInt32.toInt ≤ c.sndCwnd.toInt32.toInt - c.pipe.toInt32.toInt)

def recover : AlgCallback :=
  (callIf inLossRecovery fun _ => .setPipe).andThen <|
    callIf (fun c => inLossRecovery c && pipeHasRoom c)
      fun c => .sendDataDuringLossRecoveryPhase c.sndCwnd

def receivedDataAck : AlgCallback :=
  (update (baseReceivedDataAck rto)).andThen <| (update growWindow).andThen <|
  (update fun c => { c.toAlgVars with
    lossRecovery :=
      c.lossRecovery && !(c.sackEnabled && decide (seqGE c.sndUna c.recoveryPoint)) }).andThen <|
  recover.andThen (sendData now false)

/-- The variables when fast retransmit starts. -/
def enterFastRecovery (c : TCPConnection) : AlgVars :=
  let starts := c.sackEnabled ∧ (c.recoveryPoint = 0 ∨ seqGE c.sndUna c.recoveryPoint)
  { c.toAlgVars with
    recoveryPoint := if starts then c.sndMax else c.recoveryPoint
    lossRecovery := c.lossRecovery || starts
    ssthresh := slowStartThreshold c
    sndCwnd := slowStartThreshold c + 3 * c.sndMss }

def fastRetransmit : AlgCallback :=
  (update enterFastRecovery).andThen <|
  (single fun _ => .retransmitOneSegment false).andThen <|
  (callIf (fun c => c.sackEnabled) fun _ => .setPipe).andThen <|
  (update fun c => if inLossRecovery c then startRexmitTimer c.toAlgVars else c.toAlgVars).andThen <|
  (callIf (fun c => inLossRecovery c && pipeHasRoom c)
    fun c => .sendDataDuringLossRecoveryPhase c.sndCwnd).andThen (sendData now false)

/-- Inflate the window and send what it allows. -/
def inflateWindow : AlgCallback :=
  (update fun c => { c.toAlgVars with sndCwnd := c.sndCwnd + c.sndMss }).andThen
    (sendData now false)

def receivedDuplicateAck : AlgCallback :=
  baseReceivedDuplicateAck.andThen <| choose fun c =>
    if c.dupacks = DUPTHRESH then fastRetransmit now
    else if DUPTHRESH < c.dupacks then inflateWindow now
    else done

/-- Has the timer expired once too often? -/
def givesUp (c : TCPConnection) : Bool := MAX_REXMIT_COUNT ≤ c.rexmitCount

/-- Back to slow start with everything outstanding to be sent again. -/
def retransmitAtRto : AlgCallback :=
  (update (baseProcessRexmitTimer now)).andThen <|
  (callIf (fun c => c.sackEnabled) fun _ => .resetSackedBit).andThen <|
  (callIf (fun c => c.sackEnabled) fun _ => .resetRexmittedBit).andThen <|
  (update fun c => { c.toAlgVars with
    ssthresh := slowStartThreshold c
    sndCwnd := c.sndMss
    afterRto := true }).andThen (single fun _ => .retransmitOneSegment true)

def processRexmitTimer : AlgCallback :=
  choose fun c =>
    if givesUp c then single fun _ => .signalConnectionTimeout else retransmitAtRto now

/-- Back-off of the PERSIST timer. Where `persist_timeout` is out of bounds the source
corrects `rexmit_timeout`. -/
def backOffPersist (c : TCPConnection) : AlgVars :=
  let persistFactor :=
    if c.persistFactor = 0 then 1
    else if c.persistFactor < 64 then c.persistFactor * 2
    else c.persistFactor
  let persistTimeout := persistFactor * 1500
  { c.toAlgVars with
    persistFactor := persistFactor
    rexmitTimeout :=
      if persistTimeout < 5000 then 5000
      else if 60000 < persistTimeout then 60000
      else c.rexmitTimeout }

def processPersistTimer : AlgCallback :=
  (update backOffPersist).andThen (single fun _ => .sendProbe)

def processDelayedAckTimer : AlgCallback :=
  (update fun c => { c.toAlgVars with ackNow := true, delayedAckTimer := false }).andThen
    (single fun _ => .sendAck)

def processTimer : AlgTimer → AlgCallback
  | .rexmit => processRexmitTimer now
  | .persist => processPersistTimer
  | .delayedAck => processDelayedAckTimer
  | .keepAlive | .pace | .rateUpdate => done

end TCPReno

/-- The algorithm `TCPReno` at the time `now`. -/
def tcpReno (now rto : ℕ) : TCPAlgorithm where
  established := TCPReno.established now
  processTimer := TCPReno.processTimer now
  timerAborts timer c := timer = .rexmit && TCPReno.givesUp c
  sendCommandInvoked := TCPReno.sendData now true
  receivedOutOfOrderSegment := TCPReno.receivedOutOfOrderSegment
  receiveSeqChanged := TCPReno.receiveSeqChanged
  receivedDataAck _ := TCPReno.receivedDataAck now rto
  receivedDuplicateAck := TCPReno.receivedDuplicateAck now
  receivedAckForDataNotYetSent _ := .single fun _ => .sendAck
  ackSent := TCPReno.ackSent
  dataSent := TCPReno.dataSent now
  restartRexmitTimer c := TCPReno.startRexmitTimer c.toAlgVars
  rttMeasurementCompleteUsingTS _ c := { c.toAlgVars with rexmitTimeout := rto }

/-- An environment with `TCPReno` at the time `now`. -/
def renoAt (now : ℕ) : Env := { now := now, alg := tcpReno now 3000 }

end Inet.Tcp
