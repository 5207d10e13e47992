import Inet.Tcp.Segment

/-!
# TCPByteStreamSendQueue

The send queue of the byte stream mode and its `ByteArrayBuffer`, a list of the byte arrays pushed.
-/

namespace Inet.Tcp

/-- `ByteArrayBuffer`. `dataLength` is kept next to the list, as in the source. -/
structure ByteArrayBuffer where
  dataLength : ℕ := 0
  dataList : List ByteArray := []

namespace ByteArrayBuffer

variable (buffer : ByteArrayBuffer)

def clear (_buffer : ByteArrayBuffer) : ByteArrayBuffer := { dataLength := 0, dataList := [] }

def push (bytes : ByteArray) : ByteArrayBuffer :=
  { dataLength := buffer.dataLength + bytes.data.length, dataList := buffer.dataList ++ [bytes] }

/-- The loop of `getBytesToBuffer`: the octets copied from the slices. The offset gets smaller
only by slices that nothing was copied from. -/
def copySlices : List ByteArray → UInt32 → UInt32 → List UInt8
  | [], _, _ => []
  | slice :: slices, length, srcOffs =>
      if length = 0 then []
      else
        let copied := slice.copyDataToBuffer length srcOffs
        if copied = [] then copySlices slices length (srcOffs - slice.getDataArraySize)
        else copied ++ copySlices slices (length - serial copied.length) 0

def getBytesToBuffer (length srcOffs : UInt32) : List UInt8 :=
  copySlices buffer.dataList length srcOffs

/-- The loop of `drop`. -/
def dropSlices : List ByteArray → UInt32 → Except TcpError (List ByteArray)
  | slices, 0 => .ok slices
  | [], _ => .error .outOfBounds
  | slice :: slices, length =>
      if slice.getDataArraySize ≤ length then dropSlices slices (length - slice.getDataArraySize)
      else do
        let slice ← slice.truncateData length 0
        return slice :: slices

def drop (length : UInt32) : Except TcpError ByteArrayBuffer := do
  assert (length.toNat ≤ buffer.dataLength) "lengthP <= dataLengthM"
  let slices ← dropSlices buffer.dataList length
  return ⟨buffer.dataLength - length.toNat, slices⟩

end ByteArrayBuffer

/-- `ByteArrayMessage`: the byte length of the packet, and the byte array it carries. -/
structure ByteArrayMessage where
  byteLength : ℕ
  byteArray : ByteArray

structure ByteStreamSendQueue where
  begin : UInt32 := 0
  «end» : UInt32 := 0
  dataBuffer : ByteArrayBuffer := {}

namespace ByteStreamSendQueue

variable (queue : ByteStreamSendQueue)

def init (startSeq : UInt32) : ByteStreamSendQueue :=
  { begin := startSeq, «end» := startSeq, dataBuffer := queue.dataBuffer.clear }

def enqueueAppData (msg : ByteArrayMessage) : Except TcpError ByteStreamSendQueue := do
  assert (msg.byteLength = msg.byteArray.data.length)
    "bytes == bamsg->getByteArray().getDataArraySize()"
  return { queue with
    dataBuffer := queue.dataBuffer.push msg.byteArray
    «end» := queue.end + serial msg.byteLength }

/-- `createSegmentWithBytes(fromSeq, numBytes)`. The buffer is `numBytes` long; `getBytesToBuffer`
gets an `unsigned int`. -/
def createSegmentWithBytes (fromSeq : UInt32) (numBytes : ℕ) : Except TcpError TCPSegment := do
  assert (seqLE queue.begin fromSeq ∧ seqLE (fromSeq + serial numBytes) queue.end)
    "seqLE(begin, fromSeq) && seqLE(fromSeq+numBytes, end)"
  let fromOffs := fromSeq - queue.begin
  let bytes := queue.dataBuffer.getBytesToBuffer (serial numBytes) fromOffs
  assert (bytes.length = numBytes) "bytes == numBytes"
  return { sequenceNo := fromSeq
           payloadLength := numBytes
           byteArray := .setDataFromBuffer bytes (serial numBytes) }

def discardUpTo (seqNum : UInt32) : Except TcpError ByteStreamSendQueue := do
  assert (seqLE queue.begin seqNum ∧ seqLE seqNum queue.end)
    "seqLE(begin, seqNum) && seqLE(seqNum, end)"
  let dataBuffer ← queue.dataBuffer.drop (seqNum - queue.begin)
  return { queue with dataBuffer, begin := seqNum }

end ByteStreamSendQueue

end Inet.Tcp
