import Inet.Tcp.ConnectionSackUtil

/-!
# Opening, windows, header options and sending

`TCPConnectionUtil.cc`, its long functions cut where the source makes a decision of its own; each
part is named for what it decides.
-/

namespace Inet.Tcp.TCPConnection

variable (env : Env)

/-- A port as the header carries it; `-1` when it is not set. -/
def portNumber (port : Option UInt16) : UInt16 := port.getD 65535

def sendToIP (tcpseg : TCPSegment) (c : TCPConnection) : Except TcpError TCPConnection := do
  assert (TCP_HEADER_OCTETS ≤ tcpseg.headerLength)
    "tcpseg->getHeaderLength() >= TCP_HEADER_OCTETS"
  assert (tcpseg.headerLength ≤ TCP_MAX_HEADER_OCTETS)
    "tcpseg->getHeaderLength() <= TCP_MAX_HEADER_OCTETS"
  let tcpseg := { tcpseg with
    srcPort := portNumber c.localPort
    destPort := portNumber c.remotePort }
  return { c with sentBytes := serial tcpseg.payloadLength, sent := c.sent ++ [tcpseg] }

/-- `sendToIP(tcpseg, src, dest)`, which leaves the variables alone. -/
def sendToIPStatic (tcpseg : TCPSegment) (c : TCPConnection) : TCPConnection :=
  { c with sent := c.sent ++ [tcpseg] }

def sendToApp (indication : TCPIndication) (c : TCPConnection) : TCPConnection :=
  { c with toApp := c.toApp ++ [indication] }

def ackSent (c : TCPConnection) : TCPConnection :=
  { c with toAlgVars := env.alg.ackSent c }

def dataSent (fromseq : UInt32) (c : TCPConnection) : TCPConnection :=
  { c with toAlgVars := env.alg.dataSent fromseq c }

def segmentRetransmitted (fromseq toseq : UInt32) (c : TCPConnection) : TCPConnection :=
  { c with toAlgVars := env.alg.segmentRetransmitted fromseq toseq c }

def restartRexmitTimer (c : TCPConnection) : TCPConnection :=
  { c with toAlgVars := env.alg.restartRexmitTimer c }

def configureStateVariables (c : TCPConnection) : Except TcpError TCPConnection := do
  let advertisedWindowPar := c.par.advertisedWindow
  if ¬ c.par.windowScalingSupport ∧ (65535 < advertisedWindowPar ∨ advertisedWindowPar ≤ 0) then
    .error (.runtimeError
      ("Invalid advertisedWindow parameter: " ++ toString advertisedWindowPar))
  else do
    let rcvWnd :=
      if c.par.windowScalingSupport ∧ 65535 < advertisedWindowPar then TCP_MAX_WIN
      else UInt32.ofInt advertisedWindowPar
    assert (c.par.sackSupport = true → c.par.tcpAlgorithmClass = "TCPReno") "false"
    return { c with
      wsSupport := c.par.windowScalingSupport
      rcvWnd := rcvWnd
      rcvAdv := rcvWnd
      maxRcvBuffer := UInt32.ofInt advertisedWindowPar
      delayedAcksEnabled := c.par.delayedAcksEnabled
      nagleEnabled := c.par.nagleEnabled
      limitedTransmitEnabled := c.par.limitedTransmitEnabled
      increasedIWEnabled := c.par.increasedIWEnabled
      sndMss := UInt32.ofInt c.par.mss
      tsSupport := c.par.timestampSupport
      sackSupport := c.par.sackSupport }

/-- `initConnection(openCmd)`: fresh queues, algorithm and state block. -/
def initConnection (c : TCPConnection) : Except TcpError TCPConnection :=
  configureStateVariables
    { par := c.par, fsm := c.fsm, timers := c.timers, localPort := c.localPort,
      remotePort := c.remotePort, hasRexmitQueue := true, sent := c.sent, toApp := c.toApp }

/-- `selectInitialSeqNum()`; the number comes from the clock. -/
def selectInitialSeqNum (c : TCPConnection) : Except TcpError TCPConnection :=
  if c.hasRexmitQueue then
    .ok { c with
      iss := env.isn
      sndUna := env.isn
      sndNxt := env.isn
      sndMax := env.isn
      sendQueue := .init (env.isn + 1)
      rexmitQueue := c.rexmitQueue.init (env.isn + 1) }
  else .error .nullPointer

/-- `scheduleTimeout` of a timer that must not be running. -/
def scheduled (running : Bool) : Except TcpError Bool :=
  if running then .error (.runtimeError "scheduleAt(): message is currently scheduled")
  else .ok true

def startSynRexmitTimer (c : TCPConnection) : TCPConnection :=
  { c with synRexmitCount := 0, timers := { c.timers with synRexmit := true } }

def isSegmentAcceptable (tcpseg : TCPSegment) (c : TCPConnection) : Bool :=
  let seqNo := tcpseg.sequenceNo
  let seqEnd := tcpseg.endSequenceNo
  let rcvWndEnd := c.rcvNxt + c.rcvWnd
  if serial tcpseg.payloadLength = 0 then
    (if c.rcvWnd = 0 then decide (seqNo = c.rcvNxt)
      else decide (seqLE c.rcvNxt seqNo ∧ seqLE seqNo rcvWndEnd)) ||
    (if c.afterRto then decide (seqLess c.sndUna tcpseg.ackNo ∧ seqLE tcpseg.ackNo c.sndMax)
      else decide (seqLess c.sndUna tcpseg.ackNo ∧ seqLE tcpseg.ackNo c.sndNxt))
  else if c.rcvWnd = 0 then false
  else decide ((seqLE c.rcvNxt seqNo ∧ seqLess seqNo rcvWndEnd) ∨
    (seqLess c.rcvNxt seqEnd ∧ seqLE seqEnd rcvWndEnd))

def hasEnoughSpaceForSegmentInReceiveQueue (tcpseg : TCPSegment) (c : TCPConnection) : Bool :=
  let firstSeq := c.receiveQueue.getFirstSeqNo
  decide (seqLE firstSeq tcpseg.sequenceNo ∧ seqLE tcpseg.endSequenceNo (firstSeq + c.maxRcvBuffer))

def updateRcvQueueVars (c : TCPConnection) : TCPConnection :=
  let freeRcvBuffer := c.receiveQueue.getAmountOfFreeBytes c.maxRcvBuffer
  { c with freeRcvBuffer := freeRcvBuffer, usedRcvBuffer := c.maxRcvBuffer - freeRcvBuffer }

/-- Shift `scaled` right until it fits into 16 bits, at most `left` more times. -/
def scaleLoop : ℕ → UInt32 → ℕ → UInt32 × ℕ
  | 0, scaled, scale => (scaled, scale)
  | left + 1, scaled, scale =>
      if TCP_MAX_WIN < scaled then scaleLoop left (scaled >>> 1) (scale + 1) else (scaled, scale)

/-- The window field and the shift for a window of `window` octets. -/
def scaleWindow (window : UInt32) : UInt32 × ℕ := scaleLoop 14 window 0

/-- The window `updateRcvWnd` settles on, from the free space of the buffer. -/
def windowToAdvertise (freeRcvBuffer : UInt32) (c : TCPConnection) : UInt32 :=
  -- no silly window: less than a quarter of the buffer and less than a full segment is nothing
  let win :=
    if freeRcvBuffer < c.maxRcvBuffer / 4 ∧ freeRcvBuffer < c.sndMss then 0 else freeRcvBuffer
  if TCP_MAX_WIN < win ∧ ¬ c.wsEnabled then TCP_MAX_WIN else win

/-- `updateRcvWnd()` with the window field it returns. -/
def updateRcvWnd (c : TCPConnection) : Except TcpError (UInt16 × TCPConnection) := do
  let c := c.updateRcvQueueVars
  let win := c.windowToAdvertise c.freeRcvBuffer
  let rcvAdv := if 0 < win ∧ seqGE (c.rcvNxt + win) c.rcvAdv then c.rcvNxt + win else c.rcvAdv
  let (scaledRcvWnd, rcvWndScale) := if c.wsEnabled then scaleWindow win else (win, 0)
  assert (scaledRcvWnd.toUInt16.toUInt32 = scaledRcvWnd)
    "scaled_rcv_wnd == (unsigned short)scaled_rcv_wnd"
  return (scaledRcvWnd.toUInt16,
    { c with rcvAdv := rcvAdv, rcvWnd := win, rcvWndScale := rcvWndScale })

/-- The window a segment announces: `SEG.WND << Snd.Wind.Scale`, unscaled in a SYN. -/
def trueWindow (tcpseg : TCPSegment) (c : TCPConnection) : UInt32 :=
  if c.wsEnabled ∧ ¬ tcpseg.synBit then tcpseg.window.toUInt32 <<< UInt32.ofNat c.sndWndScale
  else tcpseg.window.toUInt32

def updateWndInfo (tcpseg : TCPSegment) (doAlways : Bool) (c : TCPConnection) : TCPConnection :=
  let trueWindow := c.trueWindow tcpseg
  if doAlways ∨ (tcpseg.ackBit ∧ (seqLess c.sndWl1 tcpseg.sequenceNo ∨
        (c.sndWl1 = tcpseg.sequenceNo ∧ seqLE c.sndWl2 tcpseg.ackNo) ∨
        (c.sndWl2 = tcpseg.ackNo ∧ c.sndWnd < trueWindow))) then
    { c with sndWnd := trueWindow, sndWl1 := tcpseg.sequenceNo, sndWl2 := tcpseg.ackNo }
  else c

def getValues (option : TCPOption) (k : ℕ) : Except TcpError UInt32 :=
  match option.values[k]? with
  | some value => .ok value
  | none => .error .outOfBounds

/-- The value `k` of the first timestamp option, `0` without one. -/
def timestampValue (tcpseg : TCPSegment) (k : ℕ) : Except TcpError UInt32 :=
  match tcpseg.options.find? fun option => option.kind = .timestamp with
  | some option => getValues option k
  | none => .ok 0

def getTSval (tcpseg : TCPSegment) : Except TcpError UInt32 := timestampValue tcpseg 0

def getTSecr (tcpseg : TCPSegment) : Except TcpError UInt32 := timestampValue tcpseg 1

/-- The states in which a segment may still carry the options of a SYN. -/
def inHandshake (fsm : TcpState) : Bool := fsm = .listen || fsm = .synSent

def processMSSOption (option : TCPOption) (c : TCPConnection) : Except TcpError TCPConnection :=
  if option.length ≠ 4 ∨ ¬ inHandshake c.fsm then .ok c
  else
    match option.values with
    | [] => .error (.runtimeError
        "TCPOption for MSS does not contain the data its getLength() promises")
    | mss :: _ =>
        let sndMss := min c.sndMss mss
        .ok { c with sndMss := if sndMss = 0 then 536 else sndMss }

def processWSOption (option : TCPOption) (c : TCPConnection) : Except TcpError TCPConnection :=
  if option.length ≠ 3 then .ok c
  else
    match option.values with
    | [] => .error (.runtimeError
        "TCPOption for WS does not contain the data its getLength() promises")
    | shift :: _ =>
        .ok { c with
          rcvWs := true
          wsEnabled := c.wsSupport && c.sndWs
          sndWndScale := ⟨min shift.toNat 14, by omega⟩ }

/-- Is a timestamp option out of place in this state? -/
def timestampUnexpected (c : TCPConnection) : Bool :=
  if c.tsEnabled then !inDataTransfer c.fsm else !inHandshake c.fsm

def processTSOption (tcpseg : TCPSegment) (option : TCPOption) (c : TCPConnection) :
    Except TcpError TCPConnection :=
  if option.length ≠ 10 ∨ c.timestampUnexpected then .ok c
  else
    match option.values with
    | [tsVal, _] =>
        let c :=
          if c.tsEnabled then c
          else { c with rcvInitialTs := true, tsEnabled := c.tsSupport && c.sndInitialTs }
        if c.tsEnabled ∧ ¬ seqLess tsVal c.tsRecent ∧ seqLE tcpseg.sequenceNo c.lastAckSent then
          .ok { c with tsRecent := tsVal }
        else .ok c
    | _ => .error (.runtimeError
        "TCPOption for TS does not contain the data its getLength() promises")

def processSACKPermittedOption (option : TCPOption) (c : TCPConnection) : TCPConnection :=
  if option.length ≠ 2 ∨ ¬ inHandshake c.fsm then c
  else { c with rcvSackPerm := true, sackEnabled := c.sackSupport && c.sndSackPerm }

def readHeaderOption (tcpseg : TCPSegment) (option : TCPOption) (c : TCPConnection) :
    Except TcpError TCPConnection :=
  match option.kind with
  | .maximumSegmentSize => processMSSOption option c
  | .windowScale => processWSOption option c
  | .sackPermitted => .ok (processSACKPermittedOption option c)
  | .sack => processSACKOption tcpseg option c
  | .timestamp => processTSOption tcpseg option c
  | .endOfOptionList | .noOperation | .unsupported _ => .ok c

def readHeaderOptions (tcpseg : TCPSegment) (c : TCPConnection) : Except TcpError TCPConnection :=
  tcpseg.options.foldlM (fun c option => readHeaderOption tcpseg option c) c

/-! ## Header options sent -/

def addOptions (options : List TCPOption) (tcpseg : TCPSegment) : TCPSegment :=
  { tcpseg with options := tcpseg.options ++ options }

def mssOption (c : TCPConnection) : List TCPOption :=
  if 0 < c.sndMss then [{ kind := .maximumSegmentSize, length := 4, values := [c.sndMss] }] else []

/-- The state of a connection that is about to send, or resend, its own first SYN. -/
def sendsFirstSyn (c : TCPConnection) : Bool :=
  c.fsm = .init || (c.fsm = .synSent && decide (0 < c.synRexmitCount))

/-- A SYN of a connection in INIT or LISTEN, or one that is sent again. -/
def carriesSynOptions (tcpseg : TCPSegment) (c : TCPConnection) : Bool :=
  tcpseg.synBit && (c.fsm = .init || c.fsm = .listen ||
    ((c.fsm = .synSent || c.fsm = .synRcvd) && decide (0 < c.synRexmitCount)))

/-- Add a WINDOW_SCALE option with the shift of the current buffer space. -/
def writeWindowScale (tcpseg : TCPSegment) (c : TCPConnection) : TCPSegment × TCPConnection :=
  let scale := (scaleWindow (c.receiveQueue.getFirstSeqNo + c.maxRcvBuffer - c.rcvNxt)).2
  (addOptions
    [nopOption, { kind := .windowScale, length := 3, values := [UInt32.ofNat scale] }] tcpseg,
    { c with rcvWndScale := scale, sndWs := true, wsEnabled := c.wsSupport && c.rcvWs })

def writeSackPermitted (tcpseg : TCPSegment) (c : TCPConnection) : TCPSegment × TCPConnection :=
  (addOptions ((if c.tsSupport then [] else [nopOption, nopOption]) ++
      [{ kind := .sackPermitted, length := 2 }]) tcpseg,
    { c with sndSackPerm := true, sackEnabled := c.sackSupport && c.rcvSackPerm })

/-- The timestamp option for `tcpseg`: TSval is the clock, TSecr is only valid with
the ACK bit. -/
def timestampOption (tcpseg : TCPSegment) (c : TCPConnection) : TCPOption :=
  { kind := .timestamp, length := 10,
    values := [serial env.now, if tcpseg.ackBit then c.tsRecent else 0] }

def writeInitialTimestamp (tcpseg : TCPSegment) (c : TCPConnection) :
    TCPSegment × TCPConnection :=
  (addOptions ((if c.sackSupport then [] else [nopOption, nopOption]) ++
      [timestampOption env tcpseg c]) tcpseg,
    { c with sndInitialTs := true, tsEnabled := c.tsSupport && c.rcvInitialTs })

def writeSynOptions (tcpseg : TCPSegment) (c : TCPConnection) : TCPSegment × TCPConnection :=
  let tcpseg := addOptions c.mssOption tcpseg
  let (tcpseg, c) :=
    if c.wsSupport && (c.rcvWs || c.sendsFirstSyn) then writeWindowScale tcpseg c
    else (tcpseg, c)
  let (tcpseg, c) :=
    if c.sackSupport && (c.rcvSackPerm || c.sendsFirstSyn) then writeSackPermitted tcpseg c
    else (tcpseg, c)
  if c.tsSupport && (c.rcvInitialTs || c.sendsFirstSyn) then writeInitialTimestamp env tcpseg c
  else (tcpseg, c)

/-- Are SACK blocks waiting to be sent? -/
def sackPending (c : TCPConnection) : Bool := c.sackEnabled && (c.sndSack || c.sndDsack)

/-- The states in which segments carry timestamps and SACK blocks. -/
def carriesDataOptions (fsm : TcpState) : Bool :=
  fsm = .synSent || inDataTransfer fsm

def writeTimestamp (tcpseg : TCPSegment) (c : TCPConnection) : TCPSegment :=
  if c.tsEnabled then
    addOptions ((if c.sackPending then [] else [nopOption, nopOption]) ++
      [timestampOption env tcpseg c]) tcpseg
  else tcpseg

/-- The options of the data transfer states. -/
def writeDataOptions (tcpseg : TCPSegment) (c : TCPConnection) :
    Except TcpError (TCPSegment × TCPConnection) :=
  let tcpseg := writeTimestamp env tcpseg c
  if c.sackPending then addSacks tcpseg c else .ok (tcpseg, c)

/-- A WINDOW_SCALE option after the buffer size was changed from outside. -/
def writeChangedBuffer (tcpseg : TCPSegment) (c : TCPConnection) : TCPSegment × TCPConnection :=
  if c.maxRcvBufferChanged then
    let (tcpseg, c) := if c.wsSupport then writeWindowScale tcpseg c else (tcpseg, c)
    (tcpseg, { c with maxRcvBufferChanged := false })
  else (tcpseg, c)

/-- Set the header length; options that take more than 40 octets are all dropped. -/
def fitOptions (tcpseg : TCPSegment) : TCPSegment :=
  if tcpseg.options = [] then tcpseg
  else if tcpseg.getOptionsArrayLength ≤ TCP_OPTIONS_MAX_SIZE then
    { tcpseg with headerLength := TCP_HEADER_OCTETS + tcpseg.getOptionsArrayLength }
  else { tcpseg with headerLength := TCP_HEADER_OCTETS, options := [] }

/-- The options that go with the state of the connection. -/
def writeStateOptions (tcpseg : TCPSegment) (c : TCPConnection) :
    Except TcpError (TCPSegment × TCPConnection) :=
  if c.carriesSynOptions tcpseg then .ok (writeSynOptions env tcpseg c)
  else if carriesDataOptions c.fsm then writeDataOptions env tcpseg c
  else .ok (tcpseg, c)

def writeHeaderOptions (tcpseg : TCPSegment) (c : TCPConnection) :
    Except TcpError (TCPSegment × TCPConnection) := do
  let (tcpseg, c) ← writeStateOptions env tcpseg c
  let (tcpseg, c) := writeChangedBuffer tcpseg c
  return (fitOptions tcpseg, c)

/-- The checks of `sendSyn()` on the socket pair. -/
def checkSocketPair (c : TCPConnection) : Except TcpError Unit :=
  if c.remotePort = none then
    .error (.runtimeError "Error processing command OPEN_ACTIVE: foreign socket unspecified")
  else if c.localPort = none then
    .error (.runtimeError "Error processing command OPEN_ACTIVE: local port unspecified")
  else .ok ()

def sendSyn (c : TCPConnection) : Except TcpError TCPConnection := do
  c.checkSocketPair
  let (_, c) ← c.updateRcvWnd
  let c := { c with sndMax := c.iss + 1, sndNxt := c.iss + 1 }
  let (tcpseg, c) ← writeHeaderOptions env
    { sequenceNo := c.iss, synBit := true, window := c.rcvWnd.toUInt16 } c
  sendToIP tcpseg c

def sendSynAck (c : TCPConnection) : Except TcpError TCPConnection := do
  let (_, c) ← c.updateRcvWnd
  let c := { c with sndMax := c.iss + 1, sndNxt := c.iss + 1 }
  let (tcpseg, c) ← writeHeaderOptions env
    { sequenceNo := c.iss, ackNo := c.rcvNxt, synBit := true, ackBit := true,
      window := c.rcvWnd.toUInt16 } c
  return ackSent env (← sendToIP tcpseg c)

/-- `sendRst(seq, src, dest, srcPort, destPort)`. -/
def sendRstTo (srcPort destPort : UInt16) (seq : UInt32) (c : TCPConnection) : TCPConnection :=
  sendToIPStatic { srcPort := srcPort, destPort := destPort, rstBit := true, sequenceNo := seq } c

def sendRst (seqNo : UInt32) (c : TCPConnection) : TCPConnection :=
  sendRstTo (portNumber c.localPort) (portNumber c.remotePort) seqNo c

/-- The segment of `sendAck()` and `sendAck(ecn)` before its options. -/
def ackSegment (window : UInt16) (c : TCPConnection) : TCPSegment :=
  { ackBit := true, sequenceNo := c.sndNxt, ackNo := c.rcvNxt, window := window }

def sendAck (c : TCPConnection) : Except TcpError TCPConnection := do
  let (window, c) ← c.updateRcvWnd
  let (tcpseg, c) ← writeHeaderOptions env (c.ackSegment window) c
  return ackSent env (← sendToIP tcpseg c)

def sendAckEcn (ecn : Bool) (c : TCPConnection) : Except TcpError TCPConnection := do
  let (window, c) ← c.updateRcvWnd
  let (tcpseg, c) ← writeHeaderOptions env (c.ackSegment window) c
  return ackSent env (← sendToIP { tcpseg with eceBit := ecn } c)

/-- `sendFin()`, named apart from the flag `send_fin`. -/
def sendFIN (c : TCPConnection) : Except TcpError TCPConnection := do
  let (window, c) ← c.updateRcvWnd
  return ackSent env (← sendToIP { c.ackSegment window with finBit := true } c)

/-! ## Data segments -/

/-- After an RTO, move `snd_nxt` over what is SACKed or already sent again. -/
def forwardSndNxt (c : TCPConnection) : Except TcpError TCPConnection :=
  if c.sackEnabled && c.afterRto then do
    let forward ← c.rexmitQueue.checkRexmitQueueForSackedOrRexmittedSegments c.sndNxt
    return { c with sndNxt := c.sndNxt + forward }
  else .ok c

/-- The octets one segment takes: no more than asked for, than there are in the
queue, and than the options leave room for. -/
def segmentBytes (bytes optionsLen : UInt32) (c : TCPConnection) : UInt32 :=
  let buffered := c.sendQueue.getBytesAvailable c.sndNxt
  let bytes := if buffered < bytes then buffered else bytes
  if c.sndMss < bytes + optionsLen then c.sndMss - optionsLen else bytes

/-- Enter the octets being sent into the scoreboard. -/
def enqueueRexmit (bytes : UInt32) (c : TCPConnection) : Except TcpError TCPConnection :=
  if c.sackEnabled then do
    return { c with
      rexmitQueue := ← c.rexmitQueue.enqueueSentData c.sndNxt (c.sndNxt + bytes) }
  else .ok c

/-- Is the FIN due right behind the octets just sent? -/
def finDue (c : TCPConnection) : Bool := c.sendFin && c.sndNxt = c.sndFinSeq

/-- Advance `snd_nxt` over the octets sent, and over the FIN that goes with them. -/
def advanceSndNxt (bytes : UInt32) (c : TCPConnection) : TCPConnection :=
  let c := { c with sndNxt := c.sndNxt + bytes }
  let c := if c.afterRto ∧ seqGE c.sndNxt c.sndMax then { c with afterRto := false } else c
  if c.finDue then { c with sndNxt := c.sndFinSeq + 1 } else c

/-- Tell the application when the send queue has room again. -/
def requestMoreData (c : TCPConnection) : TCPConnection :=
  let alreadyQueued := c.sendQueue.getBytesAvailable c.sendQueue.getBufferStartSeq
  let abated := if alreadyQueued < c.sendQueueLimit then c.sendQueueLimit - alreadyQueued else 0
  if 0 < c.sendQueueLimit ∧ ¬ c.queueUpdate ∧ c.sndMss ≤ abated then
    { sendToApp (.sendMsg abated) c with queueUpdate := true }
  else c

def sendSegment (bytes : UInt32) (c : TCPConnection) : Except TcpError TCPConnection := do
  let c ← c.forwardSndNxt
  let (tcpsegTemp, c) ← writeHeaderOptions env { ackBit := true } c
  let optionsLen := serial (tcpsegTemp.headerLength - TCP_HEADER_OCTETS)
  assert (optionsLen < c.sndMss) "options_len < state->snd_mss"
  let bytes := c.segmentBytes bytes optionsLen
  let tcpseg ← c.sendQueue.createSegmentWithBytes c.sndNxt bytes
  let c ← c.enqueueRexmit bytes
  let (window, c) ← c.updateRcvWnd
  let finBit := { c with sndNxt := c.sndNxt + bytes }.finDue
  let c := c.advanceSndNxt bytes
  let c ← sendToIP { tcpseg with
    ackNo := c.rcvNxt
    ackBit := true
    window := window
    finBit := finBit
    options := tcpsegTemp.options
    headerLength := tcpsegTemp.headerLength } c
  return c.requestMoreData

/-- The loop over whole segments in `sendData`. After a round that sends nothing it never ends. -/
def sendWholeSegments (effectiveMaxBytesSend : UInt32) :
    ℕ → UInt64 → TCPConnection → Except TcpError (UInt64 × TCPConnection)
  | 0, _, _ => .error .nonTermination
  | fuel + 1, bytesToSend, c =>
      if effectiveMaxBytesSend.toUInt64 ≤ bytesToSend then do
        let c ← sendSegment env c.sndMss c
        sendWholeSegments effectiveMaxBytesSend fuel (bytesToSend - c.sentBytes.toUInt64) c
      else .ok (bytesToSend, c)

/-- Full-segment payload: the MSS less the timestamp option. -/
def effectiveMaxBytesSend (c : TCPConnection) : UInt32 :=
  if c.tsEnabled then c.sndMss - TCP_OPTION_TS_SIZE else c.sndMss

/-- What `sendData` sends before it looks at the last segment. -/
def sendFirstSegments (bytesToSend : UInt64) (c : TCPConnection) :
    Except TcpError (UInt64 × TCPConnection) :=
  if bytesToSend ≤ c.sndMss.toUInt64 then do
    let c ← sendSegment env bytesToSend.toUInt32 c
    return (bytesToSend - c.sentBytes.toUInt64, c)
  else
    sendWholeSegments env c.effectiveMaxBytesSend
      ((c.sendQueue.getBytesAvailable c.sndNxt).toNat + 2) bytesToSend c

/-- A last segment smaller than the MSS, if it takes all that is left. -/
def sendLastSegment (bytesToSend : UInt64) (c : TCPConnection) : Except TcpError TCPConnection :=
  let buffered := c.sendQueue.getBytesAvailable c.sndNxt
  if bytesToSend = buffered.toUInt64 ∧ buffered ≠ 0 then
    sendSegment env bytesToSend.toUInt32 c
  else .ok c

/-- `snd_max` follows `snd_nxt`. -/
def raiseSndMax (c : TCPConnection) : TCPConnection :=
  if seqGreater c.sndNxt c.sndMax then { c with sndMax := c.sndNxt } else c

/-- The notifications at the end of `sendData`. -/
def notifyDataSent (oldHighRxt oldSndNxt : UInt32) (c : TCPConnection) : TCPConnection :=
  let c := ackSent env c
  if c.sackEnabled ∧ c.lossRecovery ∧ oldHighRxt ≠ c.highRxt then restartRexmitTimer env c
  else dataSent env oldSndNxt c

/-- Octets the windows allow from `snd_nxt` on, as a `long`. -/
def effectiveWin (congestionWindow : UInt32) (c : TCPConnection) : ℤ :=
  ((min c.sndWnd congestionWindow).toNat : ℤ) - ((c.sndNxt - c.sndUna).toNat : ℤ)

/-- Where `sendData` starts: at `snd_max`, unless it goes back over what an RTO left. -/
def startSending (c : TCPConnection) : TCPConnection :=
  if c.afterRto then c else { c with sndNxt := c.sndMax }

/-- The octets `sendData` sets out to send: what is queued, up to the windows. -/
def bytesToSend (congestionWindow : UInt32) (c : TCPConnection) : UInt32 :=
  let buffered := c.sendQueue.getBytesAvailable c.sndNxt
  if (buffered.toNat : ℤ) < c.effectiveWin congestionWindow then buffered
  else UInt32.ofInt (c.effectiveWin congestionWindow)

/-- Does `sendData` give up before sending anything? -/
def cannotSend (fullSegmentsOnly : Bool) (congestionWindow : UInt32) (c : TCPConnection) : Bool :=
  c.sendQueue.getBytesAvailable c.sndNxt = 0 || decide (c.effectiveWin congestionWindow ≤ 0) ||
    (fullSegmentsOnly && decide (c.bytesToSend congestionWindow < c.effectiveMaxBytesSend))

def sendData (fullSegmentsOnly : Bool) (congestionWindow : UInt32) (c : TCPConnection) :
    Except TcpError (Bool × TCPConnection) := do
  let c := c.startSending
  let oldHighRxt := if c.sackEnabled then c.rexmitQueue.getHighestRexmittedSeqNum else 0
  if c.cannotSend fullSegmentsOnly congestionWindow then
    return (false, c)
  else do
    let oldSndNxt := c.sndNxt
    let (bytesToSend, c) ← sendFirstSegments env (c.bytesToSend congestionWindow).toUInt64 c
    let c ← sendLastSegment env bytesToSend c
    return (true, notifyDataSent env oldHighRxt oldSndNxt c.raiseSndMax)

/-- `sendProbe()`: one octet beyond the window. -/
def sendProbe (c : TCPConnection) : Except TcpError (Bool × TCPConnection) :=
  let c := { c with sndNxt := c.sndMax }
  if c.sendQueue.getBytesAvailable c.sndNxt = 0 then .ok (false, c)
  else do
    let oldSndNxt := c.sndNxt
    let c ← sendSegment env 1 c
    let c := { c with sndMax := c.sndNxt }
    return (true, dataSent env oldSndNxt (ackSent env c))

/-- Resend a FIN that went out without data; `notify` is what happens between the
FIN and the step of `snd_nxt` over it. -/
def resendFin (notify : TCPConnection → TCPConnection) (c : TCPConnection) :
    Except TcpError TCPConnection := do
  let «end» := c.sendQueue.getBufferEndSeq
  let c ← sendFIN env { c with sndMax := «end», sndNxt := «end» }
  let c := notify c
  return { c with sndNxt := c.sndNxt + 1, sndMax := c.sndNxt + 1 }

/-- Is the FIN the last thing in the send queue? -/
def finEndsQueue (c : TCPConnection) : Bool :=
  c.sendFin && c.sndFinSeq = c.sendQueue.getBufferEndSeq

def retransmitOneSegment (calledAtRto : Bool) (c : TCPConnection) :
    Except TcpError TCPConnection := do
  let oldSndNxt := c.sndNxt
  let c := { c with sndNxt := c.sndUna }
  let bytes := min (min c.sndMss (c.sndMax - c.sndNxt)) (c.sendQueue.getBytesAvailable c.sndNxt)
  if bytes = 0 ∧ c.finEndsQueue then
    resendFin env (fun c => segmentRetransmitted env c.sndNxt (c.sndNxt + 1) c) c
  else do
    assert (bytes ≠ 0) "bytes != 0"
    let c ← sendSegment env bytes c
    let c := segmentRetransmitted env c.sndUna c.sndNxt c
    let c :=
      if ¬ calledAtRto ∧ seqGreater oldSndNxt c.sndNxt then { c with sndNxt := oldSndNxt } else c
    let c := ackSent env c
    return if c.sackEnabled then
      { c with highRxt := c.rexmitQueue.getHighestRexmittedSeqNum }
    else c

/-- The loop of `retransmitData`, which also ends behind the FIN. -/
def retransmitLoop : ℕ → UInt32 → TCPConnection → Except TcpError TCPConnection
  | 0, _, _ => .error .nonTermination
  | fuel + 1, bytesToSend, c =>
      if 0 < bytesToSend then do
        let bytes := min (min bytesToSend c.sndMss) (c.sendQueue.getBytesAvailable c.sndNxt)
        let c ← sendSegment env bytes c
        if c.sendFin ∧ c.sndNxt = c.sndFinSeq + 1 then return c
        else retransmitLoop fuel (bytesToSend - c.sentBytes) c
      else .ok c

def retransmitData (c : TCPConnection) : Except TcpError TCPConnection := do
  let c := { c with sndNxt := c.sndUna }
  let bytesToSend := c.sndMax - c.sndNxt
  if bytesToSend = 0 ∧ c.finEndsQueue then resendFin env (fun c => c) c
  else do
    assert (bytesToSend ≠ 0) "bytesToSend != 0"
    let c ← retransmitLoop env (bytesToSend.toNat + 2) bytesToSend c
    return segmentRetransmitted env c.sndUna c.sndNxt c

/-- The octets limited transmit may send: one segment, inside the receiver's
window and no more than two segments beyond the congestion window. -/
def limitedTransmitBytes (fullSegmentsOnly : Bool) (congestionWindow : UInt32)
    (c : TCPConnection) : Option UInt32 :=
  let buffered := c.sendQueue.getBytesAvailable c.sndMax
  let outstandingData := c.sndMax - c.sndUna
  let bytes := min (min c.sndWnd congestionWindow - outstandingData + 2 * c.sndMss) c.sndMss
  if (c.sndMss ≤ buffered ∨ (¬ fullSegmentsOnly ∧ 0 < buffered)) ∧
      outstandingData.toNat + c.sndMss.toNat ≤ c.sndWnd.toNat ∧
      outstandingData.toNat + c.sndMss.toNat ≤ (congestionWindow + 2 * c.sndMss).toNat ∧
      (c.sndMss ≤ bytes ∨ (¬ fullSegmentsOnly ∧ 0 < bytes)) then some bytes
  else none

/-- `sendOneNewSegment(fullSegmentsOnly, congestionWindow)`. -/
def sendOneNewSegment (fullSegmentsOnly : Bool) (congestionWindow : UInt32) (c : TCPConnection) :
    Except TcpError TCPConnection := do
  assert (c.limitedTransmitEnabled = true) "state->limited_transmit_enabled"
  if c.sackEnabled ∧ c.sackedBytesOld = c.sackedBytes then return c
  else
    match c.limitedTransmitBytes fullSegmentsOnly congestionWindow with
    | none => return c
    | some bytes => do
        let oldSndNxt := c.sndNxt
        let c ← sendSegment env bytes { c with sndNxt := c.sndMax }
        let c := c.raiseSndMax
        let c := if c.afterRto then { c with sndNxt := oldSndNxt + c.sentBytes } else c
        return dataSent env oldSndNxt (ackSent env c)

def sendSegmentDuringLossRecoveryPhase (seqNum : UInt32) (c : TCPConnection) :
    Except TcpError TCPConnection := do
  assert ((c.sackEnabled && c.lossRecovery) = true) "state->sack_enabled && state->lossRecovery"
  let oldHighRxt := c.rexmitQueue.getHighestRexmittedSeqNum
  let c ← sendSegment env c.sndMss { c with sndNxt := seqNum }
  let sentSeqNum := seqNum + c.sentBytes
  assert (seqLE c.sndNxt (sentSeqNum + 1)) "seqLE(state->snd_nxt, sentSeqNum + 1)"
  let c :=
    if seqLess seqNum c.sndMax then
      { c with highRxt := c.rexmitQueue.getHighestRexmittedSeqNum }
    else c
  let c := if seqGreater sentSeqNum c.sndMax then { c with sndMax := sentSeqNum } else c
  let c := ackSent env c
  return if oldHighRxt ≠ c.highRxt then restartRexmitTimer env c else dataSent env seqNum c

/-- The test that the pipe leaves room for a segment, on `int`s. -/
def pipeHasRoom (congestionWindow : UInt32) (c : TCPConnection) : Bool :=
  decide (c.sndMss.toInt32.toInt ≤ congestionWindow.toInt32.toInt - c.pipe.toInt32.toInt)

/-- The loop of `sendDataDuringLossRecoveryPhase`. -/
def lossRecoveryLoop (congestionWindow : UInt32) :
    ℕ → TCPConnection → Except TcpError TCPConnection
  | 0, _ => .error .nonTermination
  | fuel + 1, c =>
      if c.pipeHasRoom congestionWindow then do
        match ← c.nextSeg with
        | (none, c) => return c
        | (some seqNum, c) => do
            let c ← sendSegmentDuringLossRecoveryPhase env seqNum c
            lossRecoveryLoop congestionWindow fuel { c with pipe := c.pipe + c.sentBytes }
      else .ok c

/-- `sendDataDuringLossRecoveryPhase(congestionWindow)`. The pipe grows by every
octet sent, so the loop is left before the fuel is. -/
def sendDataDuringLossRecoveryPhase (congestionWindow : UInt32) (c : TCPConnection) :
    Except TcpError TCPConnection := do
  assert ((c.sackEnabled && c.lossRecovery) = true) "state->sack_enabled && state->lossRecovery"
  lossRecoveryLoop env congestionWindow 4294967296 c

variable (env : Env)

/-- Carry out a call. The answer is that of `sendData` and `sendProbe`. -/
def perform : AlgCall → TCPConnection → Except TcpError (Bool × TCPConnection)
  | .sendAck, c => do return (true, ← sendAck env c)
  | .sendAckEcn ecn, c => do return (true, ← sendAckEcn env ecn c)
  | .sendData fullSegmentsOnly congestionWindow, c =>
      sendData env fullSegmentsOnly congestionWindow c
  | .sendProbe, c => sendProbe env c
  | .sendOneNewSegment fullSegmentsOnly congestionWindow, c => do
      return (true, ← sendOneNewSegment env fullSegmentsOnly congestionWindow c)
  | .retransmitOneSegment calledAtRto, c => do
      return (true, ← retransmitOneSegment env calledAtRto c)
  | .retransmitData, c => do return (true, ← retransmitData env c)
  | .setPipe, c => do return (true, ← c.setPipe)
  | .sendDataDuringLossRecoveryPhase congestionWindow, c => do
      return (true, ← sendDataDuringLossRecoveryPhase env congestionWindow c)
  | .resetSackedBit, c => .ok (true, { c with rexmitQueue := c.rexmitQueue.resetSackedBit })
  | .resetRexmittedBit, c =>
      .ok (true, { c with rexmitQueue := c.rexmitQueue.resetRexmittedBit })
  | .signalConnectionTimeout, c => .ok (true, sendToApp .timedOut c)
  | .update vars, c => .ok (true, { c with toAlgVars := vars })

def runCallback (callback : AlgCallback) (c : TCPConnection) : Except TcpError TCPConnection :=
  callback.run (perform env) c

end Inet.Tcp.TCPConnection
