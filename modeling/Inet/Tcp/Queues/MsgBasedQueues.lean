import Inet.Tcp.Queues.VirtualDataRcvQueue

/-!
# TCPMsgBasedSendQueue and TCPMsgBasedRcvQueue

The send queue keeps the application's packets with the sequence number behind their last octet; a
segment carries those whose last octet it carries. The receive queue keeps virtual regions and the
packets that have arrived, sorted by that number.
-/

namespace Inet.Tcp

structure MsgBasedSendQueue where
  begin : UInt32
  «end» : UInt32
  payloadQueue : List TCPPayloadMessage

namespace MsgBasedSendQueue

def init (startSeq : UInt32) : MsgBasedSendQueue := ⟨startSeq, startSeq, []⟩

def enqueueAppData (queue : MsgBasedSendQueue) (msg : CPacket) :
    Except TcpError MsgBasedSendQueue :=
  let «end» := queue.end + serial msg.byteLength
  if seqLess «end» queue.begin then .error (.runtimeError "Send queue is full")
  else .ok { queue with «end», payloadQueue := queue.payloadQueue ++ [⟨«end», msg⟩] }

def getBytesAvailable (queue : MsgBasedSendQueue) (fromSeq : UInt32) : ℕ :=
  if seqLess fromSeq queue.end then (queue.end - fromSeq).toNat else 0

def createSegmentWithBytes (queue : MsgBasedSendQueue) (fromSeq : UInt32) (numBytes : ℕ) :
    Except TcpError TCPSegment := do
  let toSeq := fromSeq + serial numBytes
  assert (seqLE queue.begin fromSeq ∧ seqLE toSeq queue.end)
    "seqLE(begin, fromSeq) && seqLE(fromSeq + numBytes, end)"
  let payloads := queue.payloadQueue.dropWhile fun payload =>
    decide (seqLE payload.endSequenceNo fromSeq)
  let payloads := payloads.takeWhile fun payload =>
    decide (seqLE payload.endSequenceNo toSeq)
  return { sequenceNo := fromSeq, payloadLength := numBytes, payloadList := payloads }

def discardUpTo (queue : MsgBasedSendQueue) (seqNum : UInt32) :
    Except TcpError MsgBasedSendQueue := do
  assert (seqLE queue.begin seqNum ∧ seqLE seqNum queue.end)
    "seqLE(begin, seqNum) && seqLE(seqNum, end)"
  return { queue with
    begin := seqNum
    payloadQueue := queue.payloadQueue.dropWhile fun payload =>
      decide (seqLE payload.endSequenceNo seqNum) }

end MsgBasedSendQueue

structure PayloadItem where
  seqNo : UInt32
  packet : CPacket
  deriving DecidableEq

structure MsgBasedRcvQueue extends VirtualDataRcvQueue Region where
  payloadList : List PayloadItem
  deriving DecidableEq

namespace MsgBasedRcvQueue

/-- `init` leaves the payload list as it is. -/
def init (queue : MsgBasedRcvQueue) (startSeq : UInt32) : MsgBasedRcvQueue :=
  { queue with toVirtualDataRcvQueue := .init startSeq }

/-- The loop of `insertBytesFromSegment` over the segment's payload messages.
The iterator `i` splits the payload list into `passed` and `rest`. -/
def insertPayloads : List TCPPayloadMessage → List PayloadItem → List PayloadItem →
    Except TcpError (List PayloadItem)
  | [], passed, rest => .ok (passed ++ rest)
  | payload :: payloads, passed, rest =>
      let before := fun item : PayloadItem => decide (seqLess item.seqNo payload.endSequenceNo)
      let passed := passed ++ rest.takeWhile before
      let rest := rest.dropWhile before
      if (rest.head?.map PayloadItem.seqNo) = some payload.endSequenceNo then
        insertPayloads payloads passed rest
      else do
        let rest := ⟨payload.endSequenceNo, payload.msg⟩ :: rest
        assert (∀ front ∈ (passed ++ rest).head?, ∀ back ∈ (passed ++ rest).getLast?,
          seqLE front.seqNo back.seqNo)
          "seqLE(payloadList.front().seqNo, payloadList.back().seqNo)"
        insertPayloads payloads passed rest

def insertBytesFromSegment (queue : MsgBasedRcvQueue) (tcpseg : TCPSegment) :
    Except TcpError MsgBasedRcvQueue := do
  let regions ← queue.toVirtualDataRcvQueue.insertBytesFromSegment tcpseg
  let payloadList ← insertPayloads tcpseg.payloadList [] queue.payloadList
  return ⟨regions, payloadList⟩

/-- Up to where `extractBytesUpTo(seq)` extracts: the first payload's end, when
that comes before `seq`. -/
def extractLimit (queue : MsgBasedRcvQueue) (seq : UInt32) : UInt32 :=
  match queue.payloadList.head? with
  | some item => if seqLess item.seqNo seq then item.seqNo else seq
  | none => seq

def extractBytesUpTo (queue : MsgBasedRcvQueue) (seq : UInt32) :
    Except TcpError (Option CPacket × MsgBasedRcvQueue) := do
  let (reg, regions) ← queue.toVirtualDataRcvQueue.extractTo (queue.extractLimit seq)
  match reg, queue.payloadList with
  | some reg, item :: payloadList =>
      if item.seqNo = reg.end then return (some item.packet, ⟨regions, payloadList⟩)
      else return (none, ⟨regions, queue.payloadList⟩)
  | _, _ => return (none, ⟨regions, queue.payloadList⟩)

/-- The caller's loop: extract up to `rcv_nxt` until nothing is returned. -/
def extractAll : ℕ → MsgBasedRcvQueue → Except TcpError (List CPacket × MsgBasedRcvQueue)
  | 0, _ => .error .nonTermination
  | fuel + 1, queue => do
      match ← queue.extractBytesUpTo queue.rcvNxt with
      | (none, queue) => return ([], queue)
      | (some msg, queue) => do
          let (msgs, queue) ← extractAll fuel queue
          return (msg :: msgs, queue)

/-- What the caller does with a segment: insert it, and extract when that moved `rcv_nxt`. Every
packet extracted leaves the payload list, which bounds the loop. -/
def receive (queue : MsgBasedRcvQueue) (tcpseg : TCPSegment) :
    Except TcpError (List CPacket × MsgBasedRcvQueue) := do
  let inserted ← queue.insertBytesFromSegment tcpseg
  if inserted.rcvNxt = queue.rcvNxt then return ([], inserted)
  else extractAll (inserted.payloadList.length + 1) inserted

end MsgBasedRcvQueue

end Inet.Tcp
