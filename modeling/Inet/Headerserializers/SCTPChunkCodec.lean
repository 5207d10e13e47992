import Inet.Headerserializers.SCTPSerializer

/-!
# The bytes of SCTP chunks

What the serializer leaves in memory for a chunk, and to what chunk these bytes are parsed.
-/

namespace Inet.SCTPSerializer

open Memory

variable {mem mem' : Memory} {pos : ℕ}

/-- The data that the chunk carries. -/
def userData (chunk : SCTPDataChunk) : List UInt8 :=
  match chunk.encapsulated with
  | none => []
  | some smsg => smsg.data

structure IsData (chunk : SCTPDataChunk) (smsg : SCTPSimpleMessage) : Prop where
  encapsulated : chunk.encapsulated = some smsg
  data : smsg.data.length = smsg.dataLen
  byteLength : chunk.byteLength = SCTP_DATA_CHUNK_LENGTH + smsg.dataLen

/-- The chunk may be longer than what is reported in it, where reports have been left out. -/
structure IsSack (chunk : SCTPSackChunk) : Prop where
  chunkType : chunk.chunkType = SACK
  isNrSack : chunk.isNrSack = false
  words : 4 ∣ chunk.byteLength
  byteLength : 16 + 4 * (chunk.gaps.length + chunk.dupTsns.length) ≤ chunk.byteLength
  numGaps : chunk.gaps.length < 65536
  numDupTsns : chunk.dupTsns.length < 65536
  start : ∀ gap ∈ chunk.gaps, (gap.start - chunk.cumTsnAck).toNat < 65536

/-- The chunk is as long as its streams in 16 bits. -/
structure IsForwardTsn (chunk : SCTPForwardTsnChunk) : Prop where
  byteLength : chunk.byteLength = (8 + 4 * chunk.streams.length) % 65536

structure IsShutdown (chunk : SCTPShutdownChunk) : Prop where
  byteLength : chunk.byteLength = 8

/-- The offsets of the block in 16 bits. -/
def cutGap (cumtsnack : UInt32) (gap : SCTPGapBlock) : SCTPGapBlock where
  start := (gap.start - cumtsnack).toUInt16.toUInt32 + cumtsnack
  stop := (gap.stop - cumtsnack).toUInt16.toUInt32 + cumtsnack

/-- The header of a data chunk is in memory. -/
structure DataHeader (chunk : SCTPDataChunk) (mem : Memory) (dc : ℕ) : Prop where
  type : mem dc = DATA
  flags : mem (dc + 1) = dataFlags chunk
  length : mem.load16 (dc + 2) = UInt16.ofNat chunk.byteLength
  tsn : mem.load32 (dc + 4) = chunk.tsn
  sid : mem.load16 (dc + 8) = chunk.sid
  ssn : mem.load16 (dc + 10) = chunk.ssn
  ppi : mem.load32 (dc + 12) = chunk.ppid

lemma DataHeader.agree {c : SCTPDataChunk} (header : DataHeader c mem pos)
    (agree : Memory.Agree mem mem' pos 16) : DataHeader c mem' pos := by
  constructor
  case type => exact (agree pos le_rfl (by omega)).trans header.type
  case flags => exact (agree (pos + 1) (by omega) (by omega)).trans header.flags
  case length =>
    exact (agree.load16_within (by omega) (by omega)).trans header.length
  case tsn =>
    exact (agree.load32_within (by omega) (by omega)).trans header.tsn
  case sid =>
    exact (agree.load16_within (by omega) (by omega)).trans header.sid
  case ssn =>
    exact (agree.load16_within (by omega) (by omega)).trans header.ssn
  case ppi =>
    exact (agree.load32_within (by omega) (by omega)).trans header.ppi

lemma dataFlags_spec (c : SCTPDataChunk) :
    decide (dataFlags c &&& UNORDERED_BIT ≠ 0) = c.uBit ∧
      decide (dataFlags c &&& BEGIN_BIT ≠ 0) = c.bBit ∧
      decide (dataFlags c &&& END_BIT ≠ 0) = c.eBit ∧
      decide (dataFlags c &&& I_BIT ≠ 0) = c.iBit := by
  rw [dataFlags]
  generalize c.uBit = u
  generalize c.bBit = b
  generalize c.eBit = e
  generalize c.iBit = i
  revert u b e i
  decide

/-- The data are the same, where nothing is encapsulated if there are none. -/
structure SameData (chunk parsed : SCTPDataChunk) : Prop where
  uBit : parsed.uBit = chunk.uBit
  bBit : parsed.bBit = chunk.bBit
  eBit : parsed.eBit = chunk.eBit
  iBit : parsed.iBit = chunk.iBit
  tsn : parsed.tsn = chunk.tsn
  sid : parsed.sid = chunk.sid
  ssn : parsed.ssn = chunk.ssn
  ppid : parsed.ppid = chunk.ppid
  userData : userData parsed = userData chunk
  byteLength : parsed.byteLength = chunk.byteLength

lemma DataHeader.parse {c : SCTPDataChunk} {smsg : SCTPSimpleMessage}
    (header : DataHeader c mem pos) (isData : IsData c smsg)
    (data : mem.load (pos + 16) smsg.dataLen = smsg.data) :
    SameData c (parseData mem pos c.byteLength) := by
  obtain ⟨u, b, e, i⟩ := dataFlags_spec c
  rw [← header.flags] at u b e i
  have length : c.byteLength - 16 = smsg.dataLen := by
    rw [isData.byteLength, SCTP_DATA_CHUNK_LENGTH, Nat.add_sub_cancel_left]
  constructor
  case uBit => exact u
  case bBit => exact b
  case eBit => exact e
  case iBit => exact i
  case tsn => exact header.tsn
  case sid => exact header.sid
  case ssn => exact header.ssn
  case ppid => exact header.ppi
  case userData =>
    rw [userData, userData, isData.encapsulated, parseData]
    rw [length, data]
    split_ifs with any
    · rfl
    · have empty : smsg.data.length = 0 := by
        rw [isData.data]
        omega
      exact (List.length_eq_zero_iff.mp empty).symm
  case byteLength =>
    change SCTP_DATA_CHUNK_LENGTH + (c.byteLength - 16) = _
    rw [length, isData.byteLength]

/-- The header of a `SACK` is in memory, with no number of duplicates where it is read. -/
structure SackHeader (chunk : SCTPSackChunk) (mem : Memory) (sac : ℕ) : Prop where
  type : mem sac = SACK
  length : mem.load16 (sac + 2) = UInt16.ofNat chunk.byteLength
  cum_tsn_ack : mem.load32 (sac + 4) = chunk.cumTsnAck
  a_rwnd : mem.load32 (sac + 8) = chunk.a_rwnd
  nr_of_gaps : mem.load16 (sac + 12) = UInt16.ofNat chunk.gaps.length
  nr_of_dups : mem.load16 (sac + 14) = 0

variable {c : SCTPSackChunk}

lemma SackHeader.agree (header : SackHeader c mem pos)
    (agree : Memory.Agree mem mem' pos 16) : SackHeader c mem' pos := by
  constructor
  case type => exact (agree pos le_rfl (by omega)).trans header.type
  case length =>
    exact (agree.load16_within (by omega) (by omega)).trans header.length
  case cum_tsn_ack =>
    exact (agree.load32_within (by omega) (by omega)).trans header.cum_tsn_ack
  case a_rwnd =>
    exact (agree.load32_within (by omega) (by omega)).trans header.a_rwnd
  case nr_of_gaps =>
    exact (agree.load16_within (by omega) (by omega)).trans header.nr_of_gaps
  case nr_of_dups =>
    exact (agree.load16_within (by omega) (by omega)).trans header.nr_of_dups

/-- What a `SACK` is parsed to: the duplicates are lost, and the ends of the blocks are cut. -/
lemma SackHeader.parse (header : SackHeader c mem pos) (isSack : IsSack c) (cLen : ℕ)
    (gaps : parseGaps c.cumTsnAck mem c.gaps.length (pos + 16) = c.gaps.map (cutGap c.cumTsnAck)) :
    parseSack mem pos cLen = { chunkType := SACK
                               cumTsnAck := c.cumTsnAck
                               a_rwnd := c.a_rwnd
                               gaps := c.gaps.map (cutGap c.cumTsnAck)
                               dupTsns := []
                               byteLength := cLen } := by
  have ngaps : (mem.load16 (pos + 12)).toNat = c.gaps.length := by
    rw [header.nr_of_gaps, UInt16.toNat_ofNat', Nat.mod_eq_of_lt isSack.numGaps]
  rw [parseSack, header.cum_tsn_ack, header.a_rwnd, ngaps, header.nr_of_dups, gaps]
  rfl

/-- Type, length and a number are in memory. -/
structure NumberedHeader (chunkType : UInt8) (byteLength : ℕ) (number : UInt32) (mem : Memory)
    (pos : ℕ) : Prop where
  type : mem pos = chunkType
  length : mem.load16 (pos + 2) = UInt16.ofNat byteLength
  number : mem.load32 (pos + 4) = number

section

variable {chunkType : UInt8} {byteLength : ℕ} {number : UInt32}

lemma NumberedHeader.agree (header : NumberedHeader chunkType byteLength number mem pos)
    (agree : Memory.Agree mem mem' pos 8) :
    NumberedHeader chunkType byteLength number mem' pos := by
  constructor
  case type => exact (agree pos le_rfl (by omega)).trans header.type
  case length =>
    exact (agree.load16_within (by omega) (by omega)).trans header.length
  case number =>
    exact (agree.load32_within (by omega) (by omega)).trans header.number

end

end Inet.SCTPSerializer
