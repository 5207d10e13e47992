import Inet.Tcp.Queues.VirtualDataRcvQueue
import Inet.Tcp.SACKRexmitQueue

/-!
# TCPConnection: states and variables

The states and events of the state machine, the send queue of virtual data, and the variables of a
connection. `TCPStateVariables` is split by who writes it: `InputVars` changes only while a segment,
a command or a timer is processed, the other groups also when something is sent.

Queues are those of `TCP_TRANSFER_BYTECOUNT`. Statistics, addresses beyond the ports, and the
variables of the congestion control other than `snd_cwnd` and `ssthresh` are left out.
-/

namespace Inet.Tcp

/-- The states `TCP_S_*`. -/
inductive TcpState where
  | init
  | closed
  | listen
  | synSent
  | synRcvd
  | established
  | closeWait
  | lastAck
  | finWait1
  | finWait2
  | closing
  | timeWait
  deriving DecidableEq

/-- The events `TCP_E_*` of the state machine. -/
inductive TCPEventCode where
  | ignore
  | openActive
  | openPassive
  | send
  | close
  | abort
  | status
  | queueBytesLimit
  | rcvData
  | rcvAck
  | rcvSyn
  | rcvSynAck
  | rcvFin
  | rcvFinAck
  | rcvRst
  | rcvUnexpSyn
  | timeout2MSL
  | timeoutConnEstab
  | timeoutFinWait2
  deriving DecidableEq

/-- What is handed up to the application, by kind `TCP_I_*`. -/
inductive TCPIndication where
  | data (byteLength : UInt32)
  | established
  | peerClosed
  | closed
  | connectionRefused
  | connectionReset
  | timedOut
  | status
  | sendMsg (abated : UInt32)

def TCP_MAX_WIN : UInt32 := 65535

def DUPTHRESH : UInt32 := 3

def MAX_SYN_REXMIT_COUNT : ℕ := 12

def TCP_OPTIONS_MAX_SIZE : ℕ := 40

def TCP_OPTION_SACK_MIN_SIZE : ℕ := 10

def TCP_OPTION_TS_SIZE : UInt32 := 12

/-- 24 days, in milliseconds. -/
def PAWS_IDLE_TIME_THRESH : ℕ := 24 * 24 * 3600 * 1000

/-- `TCPVirtualDataSendQueue`: the octets `[begin..end)` waiting or outstanding. -/
structure VirtualDataSendQueue where
  begin : UInt32 := 0
  «end» : UInt32 := 0

namespace VirtualDataSendQueue

variable (queue : VirtualDataSendQueue)

def init (startSeq : UInt32) : VirtualDataSendQueue := ⟨startSeq, startSeq⟩

def enqueueAppData (byteLength : ℕ) : Except TcpError VirtualDataSendQueue :=
  let «end» := queue.end + serial byteLength
  if seqLess «end» queue.begin then .error (.runtimeError "Send queue is full")
  else .ok { queue with «end» := «end» }

def getBufferStartSeq : UInt32 := queue.begin

def getBufferEndSeq : UInt32 := queue.end

def getBytesAvailable (fromSeq : UInt32) : UInt32 :=
  if seqLess fromSeq queue.getBufferEndSeq then queue.getBufferEndSeq - fromSeq else 0

def createSegmentWithBytes (fromSeq numBytes : UInt32) : Except TcpError TCPSegment := do
  assert (seqLE queue.begin fromSeq ∧ seqLE (fromSeq + numBytes) queue.end)
    "seqLE(begin, fromSeq) && seqLE(fromSeq + numBytes, end)"
  return { sequenceNo := fromSeq, payloadLength := numBytes.toNat }

def discardUpTo (seqNum : UInt32) : Except TcpError VirtualDataSendQueue := do
  assert (seqLE queue.begin seqNum ∧ seqLE seqNum queue.end)
    "seqLE(begin, seqNum) && seqLE(seqNum, end)"
  return { queue with begin := seqNum }

end VirtualDataSendQueue

/-! ## State variables -/

/-- The parameters of the TCP module. -/
structure TCPPar where
  advertisedWindow : ℤ
  mss : ℤ
  windowScalingSupport : Bool := false
  timestampSupport : Bool := false
  sackSupport : Bool := false
  delayedAcksEnabled : Bool := false
  nagleEnabled : Bool := true
  limitedTransmitEnabled : Bool := false
  increasedIWEnabled : Bool := false
  tcpAlgorithmClass : String := "TCPReno"

/-- Which of the connection's own timers are scheduled. -/
structure ConnTimers where
  the2MSL : Bool := false
  connEstab : Bool := false
  finWait2 : Bool := false
  synRexmit : Bool := false

/-- What the closing of a connection turns on. `finPassed` is a history variable:
the number of the last FIN that `rcv_nxt` was advanced over. -/
structure CloseVars where
  fsm : TcpState := .init
  active : Bool := false
  finAckRcvd : Bool := false
  sendFin : Bool := false
  sndFinSeq : UInt32 := 0
  finRcvd : Bool := false
  rcvFinSeq : UInt32 := 0
  finPassed : Option UInt32 := none

/-- The stream that is received. -/
structure RcvStreamVars where
  receiveQueue : VirtualDataRcvQueue Region := ⟨0, []⟩
  rcvNxt : UInt32 := 0
  irs : UInt32 := 0
  maxRcvBuffer : UInt32 := 0

/-- The stream that is sent, up to where it is acknowledged. -/
structure SndStreamVars where
  sendQueue : VirtualDataSendQueue := {}
  hasRexmitQueue : Bool := false
  iss : UInt32 := 0
  sndUna : UInt32 := 0

instance neZeroWndScales : NeZero 15 := ⟨by decide⟩

/-- What no send writes. The shift of the peer's window is at most 14: only
`processWSOption` sets it. -/
structure InputVars extends CloseVars, RcvStreamVars, SndStreamVars where
  par : TCPPar
  timers : ConnTimers := {}
  localPort : Option UInt16 := none
  remotePort : Option UInt16 := none
  fork : Bool := false
  sndMss : UInt32 := 0
  sndWnd : UInt32 := 0
  sndWl1 : UInt32 := 0
  sndWl2 : UInt32 := 0
  synRexmitCount : ℕ := 0
  nagleEnabled : Bool := false
  delayedAcksEnabled : Bool := false
  limitedTransmitEnabled : Bool := false
  increasedIWEnabled : Bool := false
  wsSupport : Bool := false
  sndWndScale : Fin 15 := 0
  tsSupport : Bool := false
  tsRecent : UInt32 := 0
  sackSupport : Bool := false
  sackedBytes : UInt32 := 0
  sackedBytesOld : UInt32 := 0
  sendQueueLimit : UInt32 := 0
  rcvSacks : ℕ := 0
  rcvOooseg : ℕ := 0
  rcvNaseg : ℕ := 0
  tcpRcvQueueDrops : ℕ := 0

/-- How far the sender has got. -/
structure SendVars where
  sndNxt : UInt32 := 0
  sndMax : UInt32 := 0
  sentBytes : UInt32 := 0
  queueUpdate : Bool := true

/-- The window this side advertises. -/
structure RcvWndVars where
  rcvWnd : UInt32 := 0
  rcvAdv : UInt32 := 0
  rcvWndScale : ℕ := 0
  usedRcvBuffer : UInt32 := 0
  freeRcvBuffer : UInt32 := 0
  maxRcvBufferChanged : Bool := false

/-- Which header options have been sent, received and thereby enabled. -/
structure NegotiationVars where
  wsEnabled : Bool := false
  sndWs : Bool := false
  rcvWs : Bool := false
  tsEnabled : Bool := false
  sndInitialTs : Bool := false
  rcvInitialTs : Bool := false
  sackEnabled : Bool := false
  sndSackPerm : Bool := false
  rcvSackPerm : Bool := false

/-- What this side reports in SACK options. -/
structure RcvSackVars where
  startSeqno : UInt32 := 0
  endSeqno : UInt32 := 0
  sndSack : Bool := false
  sndDsack : Bool := false
  sacksArray : List Sack := []
  sndSacks : ℕ := 0

/-- The scoreboard and what is computed from it. -/
structure ScoreboardVars where
  rexmitQueue : TCPSACKRexmitQueue := {}
  highRxt : UInt32 := 0
  pipe : UInt32 := 0

/-- The variables the congestion control algorithm works with. -/
structure AlgVars where
  sndCwnd : UInt32 := 0
  ssthresh : UInt32 := 7500000
  dupacks : UInt32 := 0
  fullSizedSegmentCounter : ℕ := 0
  ackNow : Bool := false
  afterRto : Bool := false
  lastAckSent : UInt32 := 0
  timeLastDataSent : ℕ := 0
  lossRecovery : Bool := false
  recoveryPoint : UInt32 := 0
  rexmitCount : ℕ := 0
  rexmitTimeout : ℕ := 3000
  rtseq : UInt32 := 0
  rtseqSendtime : ℕ := 0
  persistFactor : ℕ := 0
  rexmitTimer : Bool := false
  persistTimer : Bool := false
  delayedAckTimer : Bool := false
  ecn : Bool := false
  ece : Bool := false

/-- Everything handed to IP and to the application, in order. -/
structure OutputVars where
  sent : List TCPSegment := []
  toApp : List TCPIndication := []

/-- `TCPConnection` with its `TCPStateVariables`. -/
structure TCPConnection extends InputVars, SendVars, RcvWndVars, NegotiationVars, RcvSackVars,
  ScoreboardVars, AlgVars, OutputVars

/-- What a `TCPAlgorithm` can ask of its connection. `update` writes the variables
it shares with the connection. -/
inductive AlgCall where
  | sendAck
  | sendAckEcn (ecn : Bool)
  | sendData (fullSegmentsOnly : Bool) (congestionWindow : UInt32)
  | sendProbe
  | sendOneNewSegment (fullSegmentsOnly : Bool) (congestionWindow : UInt32)
  | retransmitOneSegment (calledAtRto : Bool)
  | retransmitData
  | setPipe
  | sendDataDuringLossRecoveryPhase (congestionWindow : UInt32)
  | resetSackedBit
  | resetRexmittedBit
  | signalConnectionTimeout
  | update (vars : AlgVars)

/-- A callback of an algorithm: calls chosen from the state of the connection and
from the answer of the last call. -/
abbrev AlgCallback := CallTree TCPConnection AlgCall Bool

/-- The timers that belong to the algorithm. -/
inductive AlgTimer where
  | rexmit
  | persist
  | delayedAck
  | keepAlive
  | pace
  | rateUpdate
  deriving DecidableEq

/-- `TCPAlgorithm`. The first group may send; the notifications of the second only
update the algorithm's variables. -/
structure TCPAlgorithm where
  established : Bool → AlgCallback := fun _ => .done
  processTimer : AlgTimer → AlgCallback := fun _ => .done
  /-- The event `processTimer` answers with: `TCP_E_IGNORE`, or `TCP_E_ABORT` to give up. -/
  timerAborts : AlgTimer → TCPConnection → Bool := fun _ _ => false
  sendCommandInvoked : AlgCallback := .done
  receivedOutOfOrderSegment : AlgCallback := .done
  receiveSeqChanged : AlgCallback := .done
  receivedDataAck : UInt32 → AlgCallback := fun _ => .done
  receivedDuplicateAck : AlgCallback := .done
  receivedAckForDataNotYetSent : UInt32 → AlgCallback := fun _ => .done
  ackSent : TCPConnection → AlgVars := fun c => c.toAlgVars
  dataSent : UInt32 → TCPConnection → AlgVars := fun _ c => c.toAlgVars
  segmentRetransmitted : UInt32 → UInt32 → TCPConnection → AlgVars := fun _ _ c => c.toAlgVars
  restartRexmitTimer : TCPConnection → AlgVars := fun c => c.toAlgVars
  rttMeasurementCompleteUsingTS : UInt32 → TCPConnection → AlgVars := fun _ c => c.toAlgVars

/-- What surrounds one event: the time in milliseconds, the initial sequence number and port that
would be picked now, what a relay application does to the segment's ECN bit (`none` for any other),
and the algorithm. -/
structure Env where
  now : ℕ := 0
  isn : UInt32 := 0
  ephemeralPort : UInt16 := 1024
  relayMark : Option Bool := none
  alg : TCPAlgorithm := {}

end Inet.Tcp
