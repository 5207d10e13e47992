import Inet.Tcp.Queues.ByteStreamRcvQueue
import Inet.Tcp.Queues.ByteStreamSendQueue
import Inet.Tcp.Queues.MsgBasedQueues
import Inet.Tcp.SACKRexmitQueue

/-!
# Calling init on a queue in use

`init(startSeq)` is called again when a connection goes back to LISTEN and starts anew. The byte
stream queues give up what they hold; three others keep their list, with the old sequence numbers,
and are like new exactly when it was empty.
-/

namespace Inet.Tcp

/-- What a queue answers: nothing, a number, a flag, an item or a text. -/
inductive QueueAnswer (Item : Type) where
  | done
  | number (n : UInt32)
  | count (n : ℕ)
  | flag (set : Bool)
  | item (item : Item)
  | text (lines : List String)
  deriving DecidableEq

/-- `"[" << begin << ".." << end << ")"`. -/
def rangeText (lo hi : UInt32) : String := "[" ++ toString lo ++ ".." ++ toString hi ++ ")"

/-- The virtual functions of `TCPSendQueue`. -/
class SendQueue (Q : Type) (Msg : outParam Type) where
  new : Q
  init : Q → UInt32 → Q
  enqueueAppData : Q → Msg → Except TcpError Q
  getBufferStartSeq : Q → UInt32
  getBufferEndSeq : Q → UInt32
  createSegmentWithBytes : Q → UInt32 → ℕ → Except TcpError TCPSegment
  discardUpTo : Q → UInt32 → Except TcpError Q
  info : Q → String

namespace SendQueue

inductive Op (Msg : Type) where
  | init (startSeq : UInt32)
  | enqueueAppData (msg : Msg)
  | getBufferStartSeq
  | getBufferEndSeq
  | getBytesAvailable (fromSeq : UInt32)
  | createSegmentWithBytes (fromSeq : UInt32) (numBytes : ℕ)
  | discardUpTo (seqNum : UInt32)
  | info

variable {Q Msg : Type} [SendQueue Q Msg]

def getBytesAvailable (queue : Q) (fromSeq : UInt32) : ℕ :=
  let bufEndSeq := getBufferEndSeq queue
  if seqLess fromSeq bufEndSeq then (bufEndSeq - fromSeq).toNat else 0

def perform : Op Msg → Q → Except TcpError (QueueAnswer TCPSegment × Q)
  | .init startSeq, queue => .ok (.done, init queue startSeq)
  | .enqueueAppData msg, queue => do return (.done, ← enqueueAppData queue msg)
  | .getBufferStartSeq, queue => .ok (.number (getBufferStartSeq queue), queue)
  | .getBufferEndSeq, queue => .ok (.number (getBufferEndSeq queue), queue)
  | .getBytesAvailable fromSeq, queue => .ok (.count (getBytesAvailable queue fromSeq), queue)
  | .createSegmentWithBytes fromSeq numBytes, queue => do
      return (.item (← createSegmentWithBytes queue fromSeq numBytes), queue)
  | .discardUpTo seqNum, queue => do return (.done, ← discardUpTo queue seqNum)
  | .info, queue => .ok (.text [info queue], queue)

/-- After `init(startSeq)` the queue behaves like a new one after `init(startSeq)`. -/
def FlushedBy (queue : Q) (startSeq : UInt32) : Prop :=
  BehaveAlike perform (init queue startSeq) (init new startSeq)

end SendQueue

instance : SendQueue MsgBasedSendQueue CPacket where
  new := ⟨0, 0, []⟩
  -- the messages stay in `payloadQueue`
  init queue startSeq := { queue with begin := startSeq, «end» := startSeq }
  enqueueAppData := MsgBasedSendQueue.enqueueAppData
  getBufferStartSeq := MsgBasedSendQueue.begin
  getBufferEndSeq := MsgBasedSendQueue.end
  createSegmentWithBytes := MsgBasedSendQueue.createSegmentWithBytes
  discardUpTo := MsgBasedSendQueue.discardUpTo
  info queue := rangeText queue.begin queue.end ++ ", " ++
    toString queue.payloadQueue.length ++ " packets"

instance : SendQueue ByteStreamSendQueue ByteArrayMessage where
  new := {}
  init := ByteStreamSendQueue.init
  enqueueAppData := ByteStreamSendQueue.enqueueAppData
  getBufferStartSeq := ByteStreamSendQueue.begin
  getBufferEndSeq := ByteStreamSendQueue.end
  createSegmentWithBytes := ByteStreamSendQueue.createSegmentWithBytes
  discardUpTo := ByteStreamSendQueue.discardUpTo
  info queue := rangeText queue.begin queue.end ++ ", " ++
    toString queue.dataBuffer.dataLength ++ " bytes"

/-- The virtual functions that a subclass of `TCPVirtualDataRcvQueue` overrides. The constructor
leaves `rcv_nxt` as it is in memory. -/
class ReceiveQueue (Q : Type) (ρ Packet : outParam Type) where
  new : UInt32 → Q
  virtualData : Q → VirtualDataRcvQueue ρ
  init : Q → UInt32 → Q
  insertBytesFromSegment : Q → TCPSegment → Except TcpError Q
  extractBytesUpTo : Q → UInt32 → Except TcpError (Option Packet × Q)
  info : Q → String

namespace ReceiveQueue

inductive Op where
  | init (startSeq : UInt32)
  | insertBytesFromSegment (tcpseg : TCPSegment)
  | extractBytesUpTo (seq : UInt32)
  | getAmountOfBufferedBytes
  | getAmountOfFreeBytes (maxRcvBuffer : UInt32)
  | getQueueLength
  | getQueueStatus
  | getLE (fromSeqNum : UInt32)
  | getRE (toSeqNum : UInt32)
  | getFirstSeqNo
  | info

variable {Q ρ Packet : Type} [RcvRegion ρ] [ReceiveQueue Q ρ Packet]

def perform : Op → Q → Except TcpError (QueueAnswer (Option Packet) × Q)
  | .init startSeq, queue => .ok (.done, init queue startSeq)
  | .insertBytesFromSegment tcpseg, queue => do
      let queue ← insertBytesFromSegment queue tcpseg
      return (.number (virtualData queue).rcvNxt, queue)
  | .extractBytesUpTo seq, queue => do
      let (msg, queue) ← extractBytesUpTo queue seq
      return (.item msg, queue)
  | .getAmountOfBufferedBytes, queue =>
      .ok (.number (virtualData queue).getAmountOfBufferedBytes, queue)
  | .getAmountOfFreeBytes maxRcvBuffer, queue =>
      .ok (.number ((virtualData queue).getAmountOfFreeBytes maxRcvBuffer), queue)
  | .getQueueLength, queue => .ok (.number (virtualData queue).getQueueLength, queue)
  | .getQueueStatus, queue =>
      .ok (.text ["receiveQLength=" ++ toString (virtualData queue).regionList.length ++ " " ++
        info queue], queue)
  | .getLE fromSeqNum, queue => .ok (.number ((virtualData queue).getLE fromSeqNum), queue)
  | .getRE toSeqNum, queue => .ok (.number ((virtualData queue).getRE toSeqNum), queue)
  | .getFirstSeqNo, queue => .ok (.number (virtualData queue).getFirstSeqNo, queue)
  | .info, queue => .ok (.text [info queue], queue)

/-- After `init(startSeq)` the queue behaves like a new one after `init(startSeq)`. -/
def FlushedBy (queue : Q) (startSeq : UInt32) : Prop :=
  ∀ rcvNxt, BehaveAlike perform (init queue startSeq) (init (new rcvNxt : Q) startSeq)

end ReceiveQueue

/-- `"rcv_nxt=" << rcv_nxt` and the regions, the text every `info()` starts with. -/
def VirtualDataRcvQueue.regionsText {ρ : Type} [RcvRegion ρ] (queue : VirtualDataRcvQueue ρ) :
    String :=
  "rcv_nxt=" ++ toString queue.rcvNxt ++
    String.join (queue.regionList.map fun region =>
      " " ++ rangeText (RcvRegion.toRegion region).begin (RcvRegion.toRegion region).end)

instance : ReceiveQueue MsgBasedRcvQueue Region CPacket where
  new rcvNxt := ⟨⟨rcvNxt, []⟩, []⟩
  virtualData := MsgBasedRcvQueue.toVirtualDataRcvQueue
  init := MsgBasedRcvQueue.init
  insertBytesFromSegment := MsgBasedRcvQueue.insertBytesFromSegment
  extractBytesUpTo := MsgBasedRcvQueue.extractBytesUpTo
  info queue := queue.toVirtualDataRcvQueue.regionsText ++ " " ++
    toString queue.payloadList.length ++ " msgs"

instance : ReceiveQueue ByteStreamRcvQueue ByteStreamRegion (UInt32 × ByteArray) where
  new rcvNxt := ⟨rcvNxt, []⟩
  virtualData queue := queue
  -- `TCPVirtualDataRcvQueue::init` pops every region
  init _ startSeq := .init startSeq
  insertBytesFromSegment := VirtualDataRcvQueue.insertBytesFromSegment
  extractBytesUpTo := ByteStreamRcvQueue.extractBytesUpTo
  info queue := queue.regionsText ++ " " ++ toString queue.regionList.length ++ "msgs"

namespace TCPSACKRexmitQueue

deriving instance DecidableEq for SackBlock

inductive Op where
  | init (seqNum : UInt32)
  | str
  | info
  | getBufferStartSeq
  | getBufferEndSeq
  | discardUpTo (seqNum : UInt32)
  | enqueueSentData (fromSeqNum toSeqNum : UInt32)
  | setSackedBit (fromSeqNum toSeqNum : UInt32)
  | getSackedBit (seqNum : UInt32)
  | getQueueLength
  | getHighestSackedSeqNum
  | getHighestRexmittedSeqNum
  | checkRexmitQueueForSackedOrRexmittedSegments (fromSeqNum : UInt32)
  | resetSackedBit
  | resetRexmittedBit
  | getTotalAmountOfSackedBytes
  | getAmountOfSackedBytes (fromSeqNum : UInt32)
  | getNumOfDiscontiguousSacks (fromSeqNum : UInt32)
  | checkSackBlock (fromSeqNum : UInt32)

/-- A flag as a stream prints it. -/
def bitText (bit : Bool) : String := if bit then "1" else "0"

/-- The lines that `info()` prints. -/
def infoLines (queue : TCPSACKRexmitQueue) : List String :=
  rangeText queue.begin queue.end :: queue.rexmitQueue.mapIdx fun i region =>
    toString (i + 1) ++ ". region: " ++ rangeText region.beginSeqNum region.endSeqNum ++
      " \t sacked=" ++ bitText region.sacked ++ "\t rexmitted=" ++ bitText region.rexmitted

def perform : Op → TCPSACKRexmitQueue →
    Except TcpError (QueueAnswer SackBlock × TCPSACKRexmitQueue)
  | .init seqNum, queue => .ok (.done, queue.init seqNum)
  | .str, queue => .ok (.text [rangeText queue.begin queue.end], queue)
  | .info, queue => .ok (.text queue.infoLines, queue)
  | .getBufferStartSeq, queue => .ok (.number queue.begin, queue)
  | .getBufferEndSeq, queue => .ok (.number queue.end, queue)
  | .discardUpTo seqNum, queue => do return (.done, ← queue.discardUpTo seqNum)
  | .enqueueSentData fromSeqNum toSeqNum, queue => do
      return (.done, ← queue.enqueueSentData fromSeqNum toSeqNum)
  | .setSackedBit fromSeqNum toSeqNum, queue => do
      return (.done, ← queue.setSackedBit fromSeqNum toSeqNum)
  | .getSackedBit seqNum, queue => do return (.flag (← queue.getSackedBit seqNum), queue)
  | .getQueueLength, queue => .ok (.number (UInt32.ofNat queue.rexmitQueue.length), queue)
  | .getHighestSackedSeqNum, queue => .ok (.number queue.getHighestSackedSeqNum, queue)
  | .getHighestRexmittedSeqNum, queue => .ok (.number queue.getHighestRexmittedSeqNum, queue)
  | .checkRexmitQueueForSackedOrRexmittedSegments fromSeqNum, queue => do
      return (.number (← queue.checkRexmitQueueForSackedOrRexmittedSegments fromSeqNum), queue)
  | .resetSackedBit, queue => .ok (.done, queue.resetSackedBit)
  | .resetRexmittedBit, queue => .ok (.done, queue.resetRexmittedBit)
  | .getTotalAmountOfSackedBytes, queue => .ok (.number queue.getTotalAmountOfSackedBytes, queue)
  | .getAmountOfSackedBytes fromSeqNum, queue => do
      return (.number (← queue.getAmountOfSackedBytes fromSeqNum), queue)
  | .getNumOfDiscontiguousSacks fromSeqNum, queue => do
      return (.number (← queue.getNumOfDiscontiguousSacks fromSeqNum), queue)
  | .checkSackBlock fromSeqNum, queue => do
      return (.item (← queue.checkSackBlock fromSeqNum), queue)

/-- After `init(startSeq)` the queue behaves like a new one after `init(startSeq)`. -/
def FlushedBy (queue : TCPSACKRexmitQueue) (startSeq : UInt32) : Prop :=
  BehaveAlike perform (queue.init startSeq) (({} : TCPSACKRexmitQueue).init startSeq)

end TCPSACKRexmitQueue

/-! ## What init leaves behind -/

lemma eq_zero_of_sizeText {head tail : String} {n : ℕ}
    (same : head ++ toString n ++ tail = head ++ toString 0 ++ tail) : n = 0 := by
  have text : toString n = toString 0 :=
    (String.append_right_inj head).mp ((String.append_left_inj tail).mp same)
  exact Nat.repr_injective text

lemma MsgBasedSendQueue.flushedBy_iff (q : MsgBasedSendQueue) (startSeq : UInt32) :
    SendQueue.FlushedBy q startSeq ↔ q.payloadQueue = [] := by
  refine behaveAlike_iff_of_probe SendQueue.Op.info ?_ rfl rfl ?_
  · intro empty
    change MsgBasedSendQueue.mk _ _ q.payloadQueue = _
    rw [empty]
    rfl
  · intro same
    injection same with lines
    exact List.eq_nil_of_length_eq_zero (eq_zero_of_sizeText (List.cons.inj lines).1)

lemma ByteStreamSendQueue.flushedBy (q : ByteStreamSendQueue) (startSeq : UInt32) :
    SendQueue.FlushedBy q startSeq :=
  fun _ => rfl

lemma MsgBasedRcvQueue.flushedBy_iff (q : MsgBasedRcvQueue) (startSeq : UInt32) :
    ReceiveQueue.FlushedBy q startSeq ↔ q.payloadList = [] := by
  have step (rcvNxt : UInt32) :
      BehaveAlike ReceiveQueue.perform (ReceiveQueue.init q startSeq)
        (ReceiveQueue.init (ReceiveQueue.new rcvNxt : MsgBasedRcvQueue) startSeq) ↔
        q.payloadList = [] := by
    refine behaveAlike_iff_of_probe ReceiveQueue.Op.info ?_ rfl rfl ?_
    · intro empty
      change MsgBasedRcvQueue.mk _ q.payloadList = _
      rw [empty]
      rfl
    · intro same
      injection same with lines
      exact List.eq_nil_of_length_eq_zero (eq_zero_of_sizeText (List.cons.inj lines).1)
  exact ⟨fun flushed => (step 0).mp (flushed 0), fun empty rcvNxt => (step rcvNxt).mpr empty⟩

lemma ByteStreamRcvQueue.flushedBy (q : ByteStreamRcvQueue) (startSeq : UInt32) :
    ReceiveQueue.FlushedBy q startSeq :=
  fun _ _ => rfl

lemma TCPSACKRexmitQueue.flushedBy_iff (q : TCPSACKRexmitQueue) (startSeq : UInt32) :
    q.FlushedBy startSeq ↔ q.rexmitQueue = [] := by
  refine behaveAlike_iff_of_probe TCPSACKRexmitQueue.Op.info ?_ rfl rfl ?_
  · intro empty
    change TCPSACKRexmitQueue.mk _ _ q.rexmitQueue = _
    rw [empty]
    rfl
  · intro same
    injection same with lines
    have sizes := congrArg List.length lines
    rw [TCPSACKRexmitQueue.infoLines, TCPSACKRexmitQueue.infoLines, List.length_cons,
      List.length_cons, List.length_mapIdx, List.length_mapIdx] at sizes
    exact List.eq_nil_of_length_eq_zero (Nat.succ.inj sizes)

/-- A queue of one of the five classes. -/
inductive TCPQueue where
  | byteStreamSend (queue : ByteStreamSendQueue)
  | byteStreamRcv (queue : ByteStreamRcvQueue)
  | msgBasedSend (queue : MsgBasedSendQueue)
  | msgBasedRcv (queue : MsgBasedRcvQueue)
  | sackRexmit (queue : TCPSACKRexmitQueue)

namespace TCPQueue

def FlushedBy : TCPQueue → UInt32 → Prop
  | byteStreamSend queue => SendQueue.FlushedBy queue
  | byteStreamRcv queue => ReceiveQueue.FlushedBy queue
  | msgBasedSend queue => SendQueue.FlushedBy queue
  | msgBasedRcv queue => ReceiveQueue.FlushedBy queue
  | sackRexmit queue => queue.FlushedBy

/-- There is nothing in the list that `init` leaves alone. -/
def LeavesNothing : TCPQueue → Prop
  | byteStreamSend _ | byteStreamRcv _ => True
  | msgBasedSend queue => queue.payloadQueue = []
  | msgBasedRcv queue => queue.payloadList = []
  | sackRexmit queue => queue.rexmitQueue = []

end TCPQueue

/-- A byte stream queue is always like a new one after `init`, and each of the others exactly
when its list was empty. -/
theorem init_flushes_iff (q : TCPQueue) (startSeq : UInt32) :
    q.FlushedBy startSeq ↔ q.LeavesNothing := by
  cases q with
  | byteStreamSend q => exact iff_true_intro (q.flushedBy startSeq)
  | byteStreamRcv q => exact iff_true_intro (q.flushedBy startSeq)
  | msgBasedSend q => exact q.flushedBy_iff startSeq
  | msgBasedRcv q => exact q.flushedBy_iff startSeq
  | sackRexmit q => exact q.flushedBy_iff startSeq

/-- The send queue puts the old message into a segment of the new connection, the receive queue
hands the old packet to the new application, and the scoreboard's assertion fails at the first
octets sent. -/
theorem init_keeps_contents :
    ¬ (∀ ops (q : MsgBasedSendQueue), performAll SendQueue.perform ops SendQueue.new = .ok q →
        ∀ startSeq, SendQueue.FlushedBy q startSeq) ∧
    ¬ (∀ ops rcvNxt (q : MsgBasedRcvQueue),
        performAll ReceiveQueue.perform ops (ReceiveQueue.new rcvNxt) = .ok q →
        ∀ startSeq, ReceiveQueue.FlushedBy q startSeq) ∧
    ¬ (∀ ops (q : TCPSACKRexmitQueue), performAll TCPSACKRexmitQueue.perform ops {} = .ok q →
        ∀ startSeq, q.FlushedBy startSeq) := by
  refine ⟨fun flushed => ?_, fun flushed => ?_, fun flushed => ?_⟩
  · have alike := flushed [.init 0, .enqueueAppData ⟨1, 10⟩] _ rfl 0
      [.enqueueAppData ⟨2, 10⟩, .createSegmentWithBytes 0 10]
    revert alike
    decide +kernel
  · have alike := flushed [.init 0, .insertBytesFromSegment
        { sequenceNo := 10, payloadLength := 10, payloadList := [⟨20, ⟨1, 10⟩⟩] }] 0 _ rfl 0 0
      [.insertBytesFromSegment { payloadLength := 20 }, .extractBytesUpTo 20]
    revert alike
    decide +kernel
  · have alike := flushed [.init 0, .enqueueSentData 0 10] _ rfl 100 [.enqueueSentData 100 110]
    revert alike
    decide +kernel

end Inet.Tcp
