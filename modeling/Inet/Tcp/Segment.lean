import Inet.Lib.Outcome
import Inet.Tcp.SeqNum
import Mathlib

/-!
# TCP segments

`TCPSegment` with header options, SACK blocks, payload messages and bytes, and the truncation to a
window. Byte lengths are `unsigned int` in `ByteArray`, a `UInt32`, and `unsigned long` in
`payloadLength`, a natural number whose conversions are written out.
-/

namespace Inet.Tcp

/-- `ByteArray`: the owned buffer of a message, its size an `unsigned int`. -/
@[ext]
structure ByteArray where
  data : List UInt8
  size_lt : data.length < 4294967296
  deriving DecidableEq

namespace ByteArray

def empty : ByteArray := ⟨[], by decide⟩

def getDataArraySize (bytes : ByteArray) : UInt32 := UInt32.ofNat bytes.data.length

@[simp]
lemma toNat_getDataArraySize (bytes : ByteArray) :
    bytes.getDataArraySize.toNat = bytes.data.length := by
  simp [getDataArraySize, Nat.mod_eq_of_lt bytes.size_lt]

/-- `setDataFromBuffer(ptr, length)` on a buffer holding `source`. -/
def setDataFromBuffer (source : List UInt8) (length : UInt32) : ByteArray :=
  ⟨source.take length.toNat, lt_of_le_of_lt (List.length_take_le _ _) length.toNat_lt⟩

def setDataFromByteArray (other : ByteArray) (srcOffs length : UInt32) :
    Except TcpError ByteArray := do
  assert (srcOffs + length ≤ other.getDataArraySize) "srcOffs+length <= other.data_arraysize"
  return setDataFromBuffer (other.data.drop srcOffs.toNat) length

/-- The octets `copyDataToBuffer(ptr, length, srcOffs)` writes to `ptr`. -/
def copyDataToBuffer (bytes : ByteArray) (length srcOffs : UInt32) : List UInt8 :=
  if bytes.getDataArraySize ≤ srcOffs then []
  else if bytes.getDataArraySize < srcOffs + length then
    (bytes.data.drop srcOffs.toNat).take (bytes.getDataArraySize - srcOffs).toNat
  else (bytes.data.drop srcOffs.toNat).take length.toNat

def truncateData (bytes : ByteArray) (truncleft truncright : UInt32) :
    Except TcpError ByteArray := do
  assert (truncleft + truncright ≤ bytes.getDataArraySize)
    "data_arraysize >= (truncleft + truncright)"
  if truncleft ≠ 0 ∨ truncright ≠ 0 then
    return setDataFromBuffer (bytes.data.drop truncleft.toNat)
      (bytes.getDataArraySize - (truncleft + truncright))
  else
    return bytes

lemma copyDataToBuffer_zero {bytes : ByteArray} {length : UInt32}
    (le : length.toNat ≤ bytes.data.length) :
    bytes.copyDataToBuffer length 0 = bytes.data.take length.toNat := by
  simp only [copyDataToBuffer, UInt32.zero_add, UInt32.toNat_zero, List.drop_zero,
    UInt32.le_iff_toNat_le, UInt32.lt_iff_toNat_lt, toNat_getDataArraySize]
  split_ifs with none short
  · rw [List.length_eq_zero_iff.mp (Nat.le_zero.mp none), List.take_nil]
  · omega
  · rfl

end ByteArray

inductive TCPOptionNumbers where
  | endOfOptionList
  | noOperation
  | maximumSegmentSize
  | windowScale
  | sackPermitted
  | sack
  | timestamp
  | unsupported (kind : ℤ)
  deriving DecidableEq

structure TCPOption where
  kind : TCPOptionNumbers := .endOfOptionList
  length : ℕ := 1
  values : List UInt32 := []
  deriving DecidableEq

/-- A SACK block `[start, end)`. -/
structure Sack where
  start : UInt32
  «end» : UInt32

namespace Sack

def empty (block : Sack) : Prop := block.start = 0 ∧ block.end = 0

instance (block : Sack) : Decidable block.empty := inferInstanceAs (Decidable (_ ∧ _))

def contains (block other : Sack) : Prop :=
  seqLE block.start other.start ∧ seqLE other.end block.end

instance (block other : Sack) : Decidable (block.contains other) :=
  inferInstanceAs (Decidable (_ ∧ _))

end Sack

/-- An application packet: which object it is, and its byte length. -/
structure CPacket where
  id : ℕ
  byteLength : ℕ
  deriving DecidableEq

structure TCPPayloadMessage where
  endSequenceNo : UInt32
  msg : CPacket
  deriving DecidableEq

/-! ## Segments -/

def TCP_HEADER_OCTETS : ℕ := 20

def TCP_MAX_HEADER_OCTETS : ℕ := 60

def MAX_SACK_ENTRIES : ℕ := 4

structure TCPSegment where
  srcPort : UInt16 := 0
  destPort : UInt16 := 0
  sequenceNo : UInt32 := 0
  ackNo : UInt32 := 0
  headerLength : ℕ := TCP_HEADER_OCTETS
  urgBit : Bool := false
  ackBit : Bool := false
  pshBit : Bool := false
  rstBit : Bool := false
  synBit : Bool := false
  finBit : Bool := false
  ecnBit : Bool := false
  eceBit : Bool := false
  window : UInt16 := 0
  options : List TCPOption := []
  payloadLength : ℕ := 0
  payloadList : List TCPPayloadMessage := []
  byteArray : ByteArray := .empty
  deriving DecidableEq

namespace TCPSegment

/-- `sequenceNo + payloadLength`, passed on as a `uint32`. -/
def endSequenceNo (tcpseg : TCPSegment) : UInt32 :=
  tcpseg.sequenceNo + serial tcpseg.payloadLength

/-- RFC 793 SEG.LEN, which counts SYN and FIN. -/
def getSegLen (tcpseg : TCPSegment) : UInt32 :=
  serial (tcpseg.payloadLength + (if tcpseg.finBit then 1 else 0) +
    (if tcpseg.synBit then 1 else 0))

def getOptionsArrayLength (tcpseg : TCPSegment) : ℕ :=
  (tcpseg.options.map TCPOption.length).sum

def addPayloadMessage (tcpseg : TCPSegment) (msg : CPacket) (endSequenceNo : UInt32) :
    TCPSegment :=
  { tcpseg with payloadList := tcpseg.payloadList ++ [⟨endSequenceNo, msg⟩] }

/-- Cut `truncleft` octets off the front and `truncright` off the back; message
objects whose last octet goes are dropped. -/
def truncateData (tcpseg : TCPSegment) (truncleft truncright : UInt32) :
    Except TcpError TCPSegment := do
  assert ((truncleft + truncright).toNat ≤ tcpseg.payloadLength)
    "payloadLength_var >= truncleft + truncright"
  let byteArray ←
    if tcpseg.byteArray.getDataArraySize ≠ 0 then
      tcpseg.byteArray.truncateData truncleft truncright
    else .ok tcpseg.byteArray
  let payloadList := tcpseg.payloadList.dropWhile fun payload =>
    decide (payload.endSequenceNo - tcpseg.sequenceNo ≤ truncleft)
  let sequenceNo := tcpseg.sequenceNo + truncleft
  let payloadLength := tcpseg.payloadLength - (truncleft + truncright).toNat
  let payloadList := payloadList.rdropWhile fun payload =>
    decide (payloadLength < (payload.endSequenceNo - sequenceNo).toNat)
  return { tcpseg with
    byteArray := byteArray
    sequenceNo := sequenceNo
    payloadLength := payloadLength
    payloadList := payloadList }

/-- Octets `truncateSegment` cuts off the left end. -/
def truncleft (tcpseg : TCPSegment) (firstSeqNo : UInt32) : UInt32 :=
  if seqLess tcpseg.sequenceNo firstSeqNo then firstSeqNo - tcpseg.sequenceNo else 0

/-- Octets `truncateSegment` cuts off the right end. -/
def truncright (tcpseg : TCPSegment) (endSeqNo : UInt32) : UInt32 :=
  if seqGreater tcpseg.endSequenceNo endSeqNo then tcpseg.endSequenceNo - endSeqNo else 0

/-- Restrict the segment to the range `[firstSeqNo, endSeqNo)`. -/
def truncateSegment (tcpseg : TCPSegment) (firstSeqNo endSeqNo : UInt32) :
    Except TcpError TCPSegment := do
  assert (0 < tcpseg.payloadLength) "payloadLength_var > 0"
  if ¬ (seqLess tcpseg.sequenceNo endSeqNo ∧ seqLess firstSeqNo tcpseg.endSequenceNo) then
    .error (.runtimeError
      ("truncateSegment(" ++ toString firstSeqNo ++ "," ++ toString endSeqNo ++ ") called on [" ++
        toString tcpseg.sequenceNo ++ ", " ++ toString tcpseg.endSequenceNo ++ ") segment\n"))
  else
    tcpseg.truncateData (tcpseg.truncleft firstSeqNo) (tcpseg.truncright endSeqNo)

/-- A truncation fits into the payload and changes nothing but the range and what the
segment carries of it. -/
lemma truncateData_eq {seg cut : TCPSegment} {truncleft truncright : UInt32}
    (ok : seg.truncateData truncleft truncright = .ok cut) :
    (truncleft + truncright).toNat ≤ seg.payloadLength ∧
      cut = { seg with
        sequenceNo := seg.sequenceNo + truncleft
        payloadLength := seg.payloadLength - (truncleft + truncright).toNat
        byteArray := cut.byteArray
        payloadList := cut.payloadList } := by
  unfold truncateData at ok
  obtain ⟨fits, ok⟩ := of_assert_bind ok
  refine ⟨fits, ?_⟩
  dsimp only at ok
  split at ok
  · rcases Except.bind_eq_ok ok with ⟨byteArray, -, ok⟩
    cases ok
    rfl
  · cases ok
    rfl

lemma truncateSegment_eq {seg cut : TCPSegment} {firstSeqNo endSeqNo : UInt32}
    (ok : seg.truncateSegment firstSeqNo endSeqNo = .ok cut) :
    0 < seg.payloadLength ∧ seqLess seg.sequenceNo endSeqNo ∧ seqLess firstSeqNo seg.endSequenceNo ∧
      seg.truncateData (seg.truncleft firstSeqNo) (seg.truncright endSeqNo) = .ok cut := by
  obtain ⟨positive, ok⟩ := of_assert_bind ok
  split at ok
  · cases ok
  case isFalse overlaps =>
    rw [not_not] at overlaps
    exact ⟨positive, overlaps.1, overlaps.2, ok⟩

lemma truncateSegment_finBit {seg cut : TCPSegment} {firstSeqNo endSeqNo : UInt32}
    (ok : seg.truncateSegment firstSeqNo endSeqNo = .ok cut) : cut.finBit = seg.finBit := by
  rw [(truncateData_eq (truncateSegment_eq ok).2.2.2).2]

end TCPSegment

end Inet.Tcp
