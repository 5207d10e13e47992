import Inet.Tcp.ConnectionUtil

/-!
# Segment arrival

`TCPConnectionRcvSegment.cc`, in the order of RFC 793. `processSegment1stThru8th` is cut at the
numbered steps: each ends the processing with an event for the state machine or hands segment, event
and connection to the next.
-/

namespace Inet.Tcp.TCPConnection

variable (env : Env)

/-- How a step ends: processing is over, or the next step goes on. -/
inductive Phase where
  | stop (event : TCPEventCode) (c : TCPConnection)
  | go (tcpseg : TCPSegment) (event : TCPEventCode) (c : TCPConnection)

/-- PAWS: is the segment an old duplicate by its timestamp? -/
def pawsRejects (tcpseg : TCPSegment) (c : TCPConnection) : Except TcpError Bool :=
  if c.tsEnabled then do
    let tsval ← getTSval tcpseg
    return tsval ≠ 0 && decide (seqLess tsval c.tsRecent) &&
      decide (PAWS_IDLE_TIME_THRESH < env.now - c.timeLastDataSent)
  else return false

/-- Read the options and test the sequence number. -/
def checkSequenceNumber (tcpseg : TCPSegment) (c : TCPConnection) :
    Except TcpError (Bool × TCPConnection) :=
  if TCP_HEADER_OCTETS < tcpseg.headerLength then do
    let rejected ← pawsRejects env tcpseg c
    let c ← readHeaderOptions tcpseg c
    return (!rejected && isSegmentAcceptable tcpseg c, c)
  else return (isSegmentAcceptable tcpseg c, c)

/-- Remember the octets of a duplicate segment for a D-SACK. -/
def noteDuplicate (tcpseg : TCPSegment) (c : TCPConnection) : TCPConnection :=
  if ¬ tcpseg.synBit ∧ 0 < tcpseg.payloadLength ∧ c.sackEnabled ∧
      seqLess tcpseg.endSequenceNo c.rcvNxt then
    { c with
      startSeqno := tcpseg.sequenceNo
      endSeqno := tcpseg.endSequenceNo
      sndDsack := true }
  else c

/-- The ACK for a segment that is not acceptable. -/
def answerDuplicate (tcpseg : TCPSegment) (c : TCPConnection) : Except TcpError TCPConnection :=
  if tcpseg.rstBit then .ok c else sendAckEcn env tcpseg.ecnBit (c.noteDuplicate tcpseg)

/-- A segment that is not acceptable. -/
def notAcceptable (tcpseg : TCPSegment) (c : TCPConnection) :
    Except TcpError TCPConnection := do
  let c ← answerDuplicate env tcpseg c
  return { c with rcvNaseg := c.rcvNaseg + 1 }

/-- The scoreboard without what lies below `seqNum`; it is only kept with SACK. -/
def discardSent (seqNum : UInt32) (c : TCPConnection) : Except TcpError TCPSACKRexmitQueue :=
  if c.sackEnabled then c.rexmitQueue.discardUpTo seqNum else .ok c.rexmitQueue

def processRstInSynReceived (c : TCPConnection) :
    Except TcpError (TCPEventCode × TCPConnection) := do
  let sendQueue ← c.sendQueue.discardUpTo c.sendQueue.getBufferEndSeq
  let rexmitQueue ← c.discardSent c.rexmitQueue.end
  let c := { c with sendQueue := sendQueue, rexmitQueue := rexmitQueue }
  return (.rcvRst, if c.active then sendToApp .connectionRefused c else c)

/-- The RST bit of an acceptable segment. -/
def processRst (c : TCPConnection) : Except TcpError (TCPEventCode × TCPConnection) :=
  match c.fsm with
  | .synRcvd => c.processRstInSynReceived
  | .established | .finWait1 | .finWait2 | .closeWait =>
      .ok (.rcvRst, sendToApp .connectionReset c)
  | .closing | .lastAck | .timeWait => .ok (.rcvRst, c)
  | .init | .closed | .listen | .synSent => .error (.assertion "0")

/-- `receivedDataAck` and what follows it. -/
def notifyDataAck (oldSndUna : UInt32) (c : TCPConnection) : Except TcpError TCPConnection := do
  let c ← runCallback env (env.alg.receivedDataAck oldSndUna) c
  return { c with dupacks := 0 }

/-- An ACK at or below `snd_una`. -/
def processOldAck (tcpseg : TCPSegment) (c : TCPConnection) : Except TcpError TCPConnection :=
  if c.sndUna = tcpseg.ackNo ∧ tcpseg.payloadLength = 0 ∧ c.sndUna ≠ c.sndMax then
    runCallback env env.alg.receivedDuplicateAck
      (updateWndInfo tcpseg false { c with dupacks := c.dupacks + 1 })
  else .ok { c with dupacks := 0 }

/-- Move `snd_una` up, and `snd_nxt` with it if it has been overtaken. -/
def advanceSndUna (ackNo : UInt32) (c : TCPConnection) : TCPConnection :=
  { c with sndUna := ackNo, sndNxt := if seqLess c.sndNxt ackNo then ackNo else c.sndNxt }

def measureRtt (tcpseg : TCPSegment) (c : TCPConnection) : Except TcpError TCPConnection :=
  if c.tsEnabled then do
    let echoedTS ← getTSecr tcpseg
    return { c with toAlgVars := env.alg.rttMeasurementCompleteUsingTS echoedTS c }
  else .ok c

/-- Does the ACK number acknowledge our FIN? -/
def acksFin (ackNo : UInt32) (c : TCPConnection) : Bool :=
  c.sendFin && ackNo = c.sndFinSeq + 1

/-- Note an acknowledged FIN and drop the acknowledged octets. -/
def discardAcked (ackNo : UInt32) (c : TCPConnection) : Except TcpError TCPConnection := do
  -- the FIN takes a sequence number but is not in the queues
  let discardUpToSeq := if c.acksFin ackNo then ackNo - 1 else ackNo
  let sendQueue ← c.sendQueue.discardUpTo discardUpToSeq
  let rexmitQueue ← c.discardSent discardUpToSeq
  return { c with
    finAckRcvd := c.finAckRcvd || c.acksFin ackNo
    sendQueue := sendQueue
    rexmitQueue := rexmitQueue }

/-- An ACK of something new. With data in the segment the algorithm is told later,
when the data has been taken in. -/
def processNewAck (tcpseg : TCPSegment) (c : TCPConnection) : Except TcpError TCPConnection := do
  let oldSndUna := c.sndUna
  let c ← measureRtt env tcpseg (c.advanceSndUna tcpseg.ackNo)
  let c ← c.discardAcked tcpseg.ackNo
  let c := updateWndInfo tcpseg false c
  if tcpseg.payloadLength = 0 ∧ c.fsm ≠ .synRcvd then
    notifyDataAck env oldSndUna { c with ece := tcpseg.eceBit }
  else return c

/-- `processAckInEstabEtc(tcpseg)`; `false` means drop the segment. -/
def processAckInEstabEtc (tcpseg : TCPSegment) (c : TCPConnection) :
    Except TcpError (Bool × TCPConnection) :=
  if seqGE c.sndUna tcpseg.ackNo then do return (true, ← processOldAck env tcpseg c)
  else if seqLE tcpseg.ackNo c.sndMax then do return (true, ← processNewAck env tcpseg c)
  else do
    assert (seqGreater tcpseg.ackNo c.sndMax) "seqGreater(tcpseg->getAckNo(), state->snd_max)"
    let c ← runCallback env (env.alg.receivedAckForDataNotYetSent tcpseg.ackNo) c
    return (false, { c with dupacks := 0 })

/-- The states whose ACK field is processed as in ESTABLISHED. -/
def processesAck (fsm : TcpState) : Bool :=
  inDataTransfer fsm || fsm = .closeWait || fsm = .closing || fsm = .lastAck

def processAck (tcpseg : TCPSegment) (c : TCPConnection) :
    Except TcpError (Bool × TCPConnection) :=
  if processesAck c.fsm then processAckInEstabEtc env tcpseg c else .ok (true, c)

/-- What the acknowledgment does to a connection that is closing. -/
def afterAck (tcpseg : TCPSegment) (event : TCPEventCode) (c : TCPConnection) :
    Except TcpError Phase :=
  match c.fsm with
  | .finWait1 => .ok (.go tcpseg (if c.finAckRcvd then .rcvAck else event) c)
  | .closing =>
      if c.finAckRcvd then do
        let the2MSL ← scheduled c.timers.the2MSL
        return .go tcpseg .rcvAck { c with timers := { c.timers with the2MSL := the2MSL } }
      else .ok (.go tcpseg event c)
  | .lastAck =>
      if c.acksFin tcpseg.ackNo then .ok (.stop .rcvAck c) else .ok (.go tcpseg event c)
  | .timeWait => do
      let c ← sendAck env c
      return .go tcpseg event { c with timers := { c.timers with the2MSL := true } }
  | _ => .ok (.go tcpseg event c)

/-- The event of a FIN that is reached. -/
def finEvent (c : TCPConnection) : TCPEventCode :=
  if c.fsm = .finWait1 ∧ c.finAckRcvd then .rcvFinAck else .rcvFin

/-- The timers of a FIN that is reached. -/
def finTimers (c : TCPConnection) : Except TcpError ConnTimers :=
  match c.fsm, c.finAckRcvd with
  | .finWait1, true | .finWait2, _ => do
      let the2MSL ← scheduled c.timers.the2MSL
      return { c.timers with finWait2 := false, the2MSL := the2MSL }
  | .timeWait, _ => .ok { c.timers with the2MSL := true }
  | _, _ => .ok c.timers

/-- Advance `rcv_nxt` over the FIN numbered `finSeq`. -/
def passFin (finSeq : UInt32) (c : TCPConnection) :
    Except TcpError (TCPEventCode × TCPConnection) := do
  let timers ← c.finTimers
  return (c.finEvent, { c with
    ackNow := true
    rcvNxt := finSeq + 1
    finPassed := some finSeq
    timers := timers })

/-! ## Seventh: the segment text -/

/-- Counters kept before the text is cut to the window. -/
def noteText (tcpseg : TCPSegment) (c : TCPConnection) : TCPConnection :=
  let full := tcpseg.payloadLength = c.sndMss.toNat ∨
    tcpseg.payloadLength + tcpseg.headerLength - TCP_HEADER_OCTETS = c.sndMss.toNat
  { c with
    fullSizedSegmentCounter := c.fullSizedSegmentCounter + (if full then 1 else 0)
    ackNow := c.ackNow || tcpseg.payloadLength = 1 }

/-- Remember an out-of-order segment for the next SACK option. -/
def noteOutOfOrder (oldUsedRcvBuffer : UInt32) (tcpseg : TCPSegment) (c : TCPConnection) :
    TCPConnection :=
  let c := { c with rcvOooseg := c.rcvOooseg + 1 }
  if c.sackEnabled then
    let duplicate := oldUsedRcvBuffer = c.receiveQueue.getAmountOfBufferedBytes
    { c with
      startSeqno := tcpseg.sequenceNo
      endSeqno := tcpseg.endSequenceNo
      sndDsack := c.sndDsack || duplicate
      sndSack := c.sndSack || !duplicate }
  else c

/-- Hand one packet up. A relay application may mark it and leaves its verdict in
`ecn`. -/
def forwardPacket (tcpseg : TCPSegment) (byteLength : UInt32) (c : TCPConnection) :
    TCPConnection :=
  sendToApp (.data byteLength)
    { c with ecn := (env.relayMark.map fun mark => tcpseg.ecnBit || mark).getD c.ecn }

/-- Hand up everything below `rcv_nxt`. Every round takes a region off the queue,
so `fuel` beyond the number of regions is never used up. -/
def forwardData (tcpseg : TCPSegment) : ℕ → TCPConnection → Except TcpError TCPConnection
  | 0, _ => .error .nonTermination
  | fuel + 1, c => do
      match ← c.receiveQueue.extractBytesUpTo c.rcvNxt with
      | (none, queue) => return { c with receiveQueue := queue }
      | (some byteLength, queue) =>
          forwardData tcpseg fuel
            (forwardPacket env tcpseg byteLength { c with receiveQueue := queue })

/-- A gap filled up to a FIN that came early. -/
def passEarlyFin (event : TCPEventCode) (c : TCPConnection) :
    Except TcpError (TCPEventCode × TCPConnection) :=
  if c.finRcvd ∧ c.rcvNxt = c.rcvFinSeq then c.passFin c.rcvFinSeq else .ok (event, c)

/-- Put the text into the receive queue. -/
def insertText (tcpseg : TCPSegment) (c : TCPConnection) : Except TcpError TCPConnection := do
  let queue ← c.receiveQueue.insertBytesFromSegment tcpseg
  return { c with receiveQueue := queue, rcvNxt := queue.rcvNxt }

/-- The text of a segment that is out of order, or of one that moves `rcv_nxt`. -/
def deliverText (oldRcvNxt oldUsedRcvBuffer : UInt32) (tcpseg : TCPSegment)
    (event : TCPEventCode) (c : TCPConnection) :
    Except TcpError (TCPEventCode × TCPConnection) :=
  if oldRcvNxt = c.rcvNxt then do
    let c ← runCallback env env.alg.receivedOutOfOrderSegment
      (c.noteOutOfOrder oldUsedRcvBuffer tcpseg)
    return (event, c)
  else do
    let c ← forwardData env tcpseg (c.receiveQueue.regionList.length + 1) c
    c.passEarlyFin event

/-- Tell the algorithm, now that the text is in, about an ACK that came with it. -/
def notifyEarlierAck (oldSndUna : UInt32) (c : TCPConnection) : Except TcpError TCPConnection :=
  if seqGreater c.sndUna oldSndUna then notifyDataAck env oldSndUna c else .ok c

/-- The text of a segment in a data transfer state. -/
def acceptText (oldSndUna : UInt32) (tcpseg : TCPSegment) (event : TCPEventCode)
    (c : TCPConnection) : Except TcpError Phase := do
  let c := c.noteText tcpseg
  let tcpseg ← tcpseg.truncateSegment c.rcvNxt (c.rcvNxt + c.rcvWnd)
  let c := c.updateRcvQueueVars
  if c.hasEnoughSpaceForSegmentInReceiveQueue tcpseg then do
    let oldRcvNxt := c.rcvNxt
    let oldUsedRcvBuffer := c.usedRcvBuffer
    let c ← c.insertText tcpseg
    let c ← notifyEarlierAck env oldSndUna c
    let (event, c) ← deliverText env oldRcvNxt oldUsedRcvBuffer tcpseg event c
    return .go tcpseg event c
  else return .stop .ignore { c with tcpRcvQueueDrops := c.tcpRcvQueueDrops + 1 }

def processText (oldSndUna : UInt32) (tcpseg : TCPSegment) (event : TCPEventCode)
    (c : TCPConnection) : Except TcpError Phase :=
  if inDataTransfer c.fsm ∧ 0 < tcpseg.payloadLength then
    acceptText env oldSndUna tcpseg event c
  else .ok (.go tcpseg event c)

/-- The FIN bit. The segment is the one left by the truncation of the text. -/
def processFinBit (tcpseg : TCPSegment) (event : TCPEventCode) (c : TCPConnection) :
    Except TcpError (TCPEventCode × TCPConnection) :=
  if tcpseg.finBit then
    let c := { c with ackNow := true }
    let finSeq := tcpseg.endSequenceNo
    if c.rcvNxt = finSeq then c.passFin finSeq
    else .ok (event, { c with finRcvd := true, rcvFinSeq := finSeq })
  else .ok (event, c)

/-- `rcv_nxt` changed: remember a gap that is still open, and have an ACK sent. -/
def acknowledgeProgress (oldRcvNxt : UInt32) (tcpseg : TCPSegment) (c : TCPConnection) :
    Except TcpError TCPConnection :=
  if oldRcvNxt = c.rcvNxt then .ok c
  else
    runCallback env env.alg.receiveSeqChanged
      (if c.sackEnabled ∧ c.receiveQueue.getQueueLength ≠ 0 then
        { c with
          startSeqno := tcpseg.sequenceNo
          endSeqno := tcpseg.endSequenceNo
          sndSack := true
          ackNow := true }
      else c)

/-- Has the FIN of a deferred CLOSE been sent, and nothing behind it? -/
def deferredFinSent (c : TCPConnection) : Bool := c.sendFin && c.sndNxt = c.sndFinSeq + 1

/-- The CLOSE that had to wait for its FIN replaces whatever event there is. -/
def deferredClose (oldSndNxt : UInt32) (event : TCPEventCode) (c : TCPConnection) :
    TCPEventCode :=
  if (c.fsm = .established ∨ c.fsm = .synRcvd) ∧ c.deferredFinSent then .close
  else if c.fsm = .closeWait ∧ c.deferredFinSent ∧ oldSndNxt ≠ c.sndNxt then .close
  else event

def processSegment7thThru8th (oldSndUna oldSndNxt : UInt32) (tcpseg : TCPSegment)
    (event : TCPEventCode) (c : TCPConnection) :
    Except TcpError (TCPEventCode × TCPConnection) := do
  let oldRcvNxt := c.rcvNxt
  match ← processText env oldSndUna tcpseg event c with
  | .stop event c => return (event, c)
  | .go tcpseg event c => do
      let (event, c) ← processFinBit tcpseg event c
      let c ← acknowledgeProgress env oldRcvNxt tcpseg c
      return (c.deferredClose oldSndNxt event, c)

/-- The ACK of a connection past SYN_RCVD, or entering ESTABLISHED. -/
def processSegment5th (oldSndUna : UInt32) (tcpseg : TCPSegment) (event : TCPEventCode)
    (c : TCPConnection) : Except TcpError (TCPEventCode × TCPConnection) := do
  let oldSndNxt := c.sndNxt
  match ← processAck env tcpseg c with
  | (false, c) => return (.ignore, c)
  | (true, c) => do
      match ← afterAck env tcpseg event c with
      | .stop event c => return (event, c)
      | .go tcpseg event c => processSegment7thThru8th env oldSndUna oldSndNxt tcpseg event c

/-- The ACK that SYN_RCVD waits for. -/
def processSegmentInSynRcvd (tcpseg : TCPSegment) (c : TCPConnection) :
    Except TcpError (TCPEventCode × TCPConnection) :=
  if seqLE c.sndUna tcpseg.ackNo ∧ seqLE tcpseg.ackNo c.sndNxt then do
    let oldSndUna := c.sndUna
    let c ← runCallback env (env.alg.established false) c
    processSegment5th env oldSndUna tcpseg .rcvAck (sendToApp .established c)
  else .ok (.ignore, sendRst tcpseg.ackNo c)

/-- Steps two to eight, for an acceptable segment. -/
def processSegment2ndThru8th (tcpseg : TCPSegment) (c : TCPConnection) :
    Except TcpError (TCPEventCode × TCPConnection) :=
  if tcpseg.rstBit then c.processRst
  else if tcpseg.synBit then do
    assert (isSegmentAcceptable tcpseg c = true) "isSegmentAcceptable(tcpseg)"
    return (.rcvUnexpSyn, sendToApp .connectionReset c)
  else if ¬ tcpseg.ackBit then .ok (.ignore, c)
  else if c.fsm = .synRcvd then processSegmentInSynRcvd env tcpseg c
  else processSegment5th env c.sndUna tcpseg .ignore c

def processSegment1stThru8th (tcpseg : TCPSegment) (c : TCPConnection) :
    Except TcpError (TCPEventCode × TCPConnection) := do
  let (acceptable, c) ← checkSequenceNumber env tcpseg c
  if acceptable then processSegment2ndThru8th env tcpseg c
  else return (.ignore, ← notAcceptable env tcpseg c)

/-! ## Handshake -/

/-- Text that comes with a SYN goes to the receive queue, if it fits. -/
def acceptSynText (event : TCPEventCode) (tcpseg : TCPSegment) (c : TCPConnection) :
    Except TcpError (TCPEventCode × TCPConnection) :=
  if 0 < tcpseg.payloadLength then
    let c := c.updateRcvQueueVars
    if c.hasEnoughSpaceForSegmentInReceiveQueue tcpseg then do
      return (event, { c with
        receiveQueue := ← c.receiveQueue.insertBytesFromSegment tcpseg })
    else .ok (.ignore, { c with tcpRcvQueueDrops := c.tcpRcvQueueDrops + 1 })
  else .ok (event, c)

/-- Take the peer's initial sequence number. -/
def receiveSyn (tcpseg : TCPSegment) (c : TCPConnection) : TCPConnection :=
  let rcvNxt := tcpseg.sequenceNo + 1
  { c with
    rcvNxt := rcvNxt
    rcvAdv := rcvNxt + c.rcvWnd
    irs := tcpseg.sequenceNo
    receiveQueue := .init rcvNxt
    finPassed := none }

/-- After a fork, `this` has a fresh retransmission queue and newly configured
variables. -/
def afterFork (c : TCPConnection) : Except TcpError TCPConnection :=
  if c.fork then configureStateVariables { c with rexmitQueue := {}, hasRexmitQueue := true }
  else .ok c

/-- Fork or not, `this` goes on with the peer. -/
def takeForeignSocket (tcpseg : TCPSegment) (c : TCPConnection) :
    Except TcpError TCPConnection := do
  let c ← c.afterFork
  return { c with localPort := some tcpseg.destPort, remotePort := some tcpseg.srcPort }

/-- The clone a forking connection leaves in LISTEN, with an unconfigured state
block. -/
def listeningClone (c : TCPConnection) : TCPConnection :=
  { par := c.par, fsm := .listen, fork := true, localPort := c.localPort }

def readSynOptions (tcpseg : TCPSegment) (c : TCPConnection) : Except TcpError TCPConnection :=
  if TCP_HEADER_OCTETS < tcpseg.headerLength then readHeaderOptions tcpseg c else .ok c

/-- A SYN in LISTEN. -/
def acceptSyn (tcpseg : TCPSegment) (c : TCPConnection) :
    Except TcpError (TCPEventCode × TCPConnection) := do
  let c ← takeForeignSocket tcpseg c
  let c ← selectInitialSeqNum env (c.receiveSyn tcpseg)
  let c ← readSynOptions tcpseg (updateWndInfo tcpseg true c)
  let c ← sendSynAck env { c with ackNow := true }
  let c := c.startSynRexmitTimer
  let c := { c with timers := { c.timers with connEstab := true } }
  acceptSynText .rcvSyn tcpseg c

/-- A SYN that a listening connection accepts. -/
def opens (tcpseg : TCPSegment) : Bool := !tcpseg.rstBit && !tcpseg.ackBit && tcpseg.synBit

def processSegmentInListen (tcpseg : TCPSegment) (c : TCPConnection) :
    Except TcpError (TCPEventCode × TCPConnection) :=
  if tcpseg.rstBit then .ok (.ignore, c)
  else if tcpseg.ackBit then
    .ok (.ignore, sendRstTo tcpseg.destPort tcpseg.srcPort tcpseg.ackNo c)
  else if tcpseg.synBit then acceptSyn env tcpseg c
  else .ok (.ignore, c)

/-- The ACK of our SYN in a SYN that arrives in SYN_SENT. -/
def acceptSynAckField (tcpseg : TCPSegment) (c : TCPConnection) :
    Except TcpError TCPConnection :=
  if tcpseg.ackBit then do
    let sendQueue ← c.sendQueue.discardUpTo tcpseg.ackNo
    let rexmitQueue ← c.discardSent tcpseg.ackNo
    return updateWndInfo tcpseg true
      { c with sndUna := tcpseg.ackNo, sendQueue := sendQueue, rexmitQueue := rexmitQueue }
  else .ok c

/-- SYN+ACK: text, options, then the algorithm acknowledges. -/
def establishActively (tcpseg : TCPSegment) (c : TCPConnection) :
    Except TcpError (TCPEventCode × TCPConnection) := do
  match ← acceptSynText .rcvSynAck tcpseg c with
  | (.ignore, c) => return (.ignore, c)
  | (event, c) => do
      let c ← readSynOptions tcpseg c
      let c ← runCallback env (env.alg.established true) { c with ackNow := true }
      return (event, sendToApp .established c)

/-- A SYN without ACK in SYN_SENT: both sides open at once. -/
def openSimultaneously (tcpseg : TCPSegment) (c : TCPConnection) :
    Except TcpError (TCPEventCode × TCPConnection) := do
  let c ← sendSynAck env { c with sndMax := c.iss, sndNxt := c.iss }
  acceptSynText .rcvSyn tcpseg c.startSynRexmitTimer

def acceptSynInSynSent (tcpseg : TCPSegment) (c : TCPConnection) :
    Except TcpError (TCPEventCode × TCPConnection) := do
  let c ← (c.receiveSyn tcpseg).acceptSynAckField tcpseg
  let c := { c with localPort := some tcpseg.destPort, remotePort := some tcpseg.srcPort }
  if seqGreater c.sndUna c.iss then establishActively env tcpseg c
  else openSimultaneously env tcpseg c

/-- `processSegmentInSynSent(tcpseg, srcAddr, destAddr)`. -/
def processSegmentInSynSent (tcpseg : TCPSegment) (c : TCPConnection) :
    Except TcpError (TCPEventCode × TCPConnection) :=
  if tcpseg.ackBit ∧ (seqLE tcpseg.ackNo c.iss ∨ seqGreater tcpseg.ackNo c.sndNxt) then
    .ok (.ignore,
      if tcpseg.rstBit then c else sendRstTo tcpseg.destPort tcpseg.srcPort tcpseg.ackNo c)
  else if tcpseg.rstBit then
    .ok (if tcpseg.ackBit then (.rcvRst, sendToApp .connectionReset c) else (.ignore, c))
  else if tcpseg.synBit then acceptSynInSynSent env tcpseg c
  else .ok (.ignore, c)

/-- `process_RCV_SEGMENT(tcpseg, src, dest)`. Without a state block there is
nothing to work on. -/
def processRcvSegment (tcpseg : TCPSegment) (c : TCPConnection) :
    Except TcpError (TCPEventCode × TCPConnection) :=
  match c.fsm with
  | .init => .error .nullPointer
  | .listen => processSegmentInListen env tcpseg c
  | .synSent => processSegmentInSynSent env tcpseg c
  | _ => processSegment1stThru8th env tcpseg c

/-- `segmentArrivalWhileClosed(tcpseg, srcAddr, destAddr)`: the answer to a segment that
belongs to no connection. -/
def segmentArrivalWhileClosed (tcpseg : TCPSegment) : List TCPSegment :=
  if tcpseg.rstBit then []
  else if ¬ tcpseg.ackBit then
    [{ srcPort := tcpseg.destPort, destPort := tcpseg.srcPort, rstBit := true, ackBit := true,
       ackNo := tcpseg.sequenceNo + tcpseg.getSegLen }]
  else
    [{ srcPort := tcpseg.destPort, destPort := tcpseg.srcPort, rstBit := true,
       sequenceNo := tcpseg.ackNo }]

end Inet.Tcp.TCPConnection
