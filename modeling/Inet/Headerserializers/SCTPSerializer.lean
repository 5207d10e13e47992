import Inet.Base.SimError
import Inet.Lib.CyclicRedundancy
import Inet.Lib.Memory

/-!
# SCTPSerializer

CRC32c with a table, as in `headers/sctp.h`, and the chunks that carry data and acknowledge it. The
chunks of other types are parameters, `AUTH` apart, whose digest the serializer adds at the end.
-/

namespace Inet.SCTPSerializer

def crc_c : Array UInt32 := #[
  0x00000000, 0xF26B8303, 0xE13B70F7, 0x1350F3F4, 0xC79A971F, 0x35F1141C, 0x26A1E7E8, 0xD4CA64EB,
  0x8AD958CF, 0x78B2DBCC, 0x6BE22838, 0x9989AB3B, 0x4D43CFD0, 0xBF284CD3, 0xAC78BF27, 0x5E133C24,
  0x105EC76F, 0xE235446C, 0xF165B798, 0x030E349B, 0xD7C45070, 0x25AFD373, 0x36FF2087, 0xC494A384,
  0x9A879FA0, 0x68EC1CA3, 0x7BBCEF57, 0x89D76C54, 0x5D1D08BF, 0xAF768BBC, 0xBC267848, 0x4E4DFB4B,
  0x20BD8EDE, 0xD2D60DDD, 0xC186FE29, 0x33ED7D2A, 0xE72719C1, 0x154C9AC2, 0x061C6936, 0xF477EA35,
  0xAA64D611, 0x580F5512, 0x4B5FA6E6, 0xB93425E5, 0x6DFE410E, 0x9F95C20D, 0x8CC531F9, 0x7EAEB2FA,
  0x30E349B1, 0xC288CAB2, 0xD1D83946, 0x23B3BA45, 0xF779DEAE, 0x05125DAD, 0x1642AE59, 0xE4292D5A,
  0xBA3A117E, 0x4851927D, 0x5B016189, 0xA96AE28A, 0x7DA08661, 0x8FCB0562, 0x9C9BF696, 0x6EF07595,
  0x417B1DBC, 0xB3109EBF, 0xA0406D4B, 0x522BEE48, 0x86E18AA3, 0x748A09A0, 0x67DAFA54, 0x95B17957,
  0xCBA24573, 0x39C9C670, 0x2A993584, 0xD8F2B687, 0x0C38D26C, 0xFE53516F, 0xED03A29B, 0x1F682198,
  0x5125DAD3, 0xA34E59D0, 0xB01EAA24, 0x42752927, 0x96BF4DCC, 0x64D4CECF, 0x77843D3B, 0x85EFBE38,
  0xDBFC821C, 0x2997011F, 0x3AC7F2EB, 0xC8AC71E8, 0x1C661503, 0xEE0D9600, 0xFD5D65F4, 0x0F36E6F7,
  0x61C69362, 0x93AD1061, 0x80FDE395, 0x72966096, 0xA65C047D, 0x5437877E, 0x4767748A, 0xB50CF789,
  0xEB1FCBAD, 0x197448AE, 0x0A24BB5A, 0xF84F3859, 0x2C855CB2, 0xDEEEDFB1, 0xCDBE2C45, 0x3FD5AF46,
  0x7198540D, 0x83F3D70E, 0x90A324FA, 0x62C8A7F9, 0xB602C312, 0x44694011, 0x5739B3E5, 0xA55230E6,
  0xFB410CC2, 0x092A8FC1, 0x1A7A7C35, 0xE811FF36, 0x3CDB9BDD, 0xCEB018DE, 0xDDE0EB2A, 0x2F8B6829,
  0x82F63B78, 0x709DB87B, 0x63CD4B8F, 0x91A6C88C, 0x456CAC67, 0xB7072F64, 0xA457DC90, 0x563C5F93,
  0x082F63B7, 0xFA44E0B4, 0xE9141340, 0x1B7F9043, 0xCFB5F4A8, 0x3DDE77AB, 0x2E8E845F, 0xDCE5075C,
  0x92A8FC17, 0x60C37F14, 0x73938CE0, 0x81F80FE3, 0x55326B08, 0xA759E80B, 0xB4091BFF, 0x466298FC,
  0x1871A4D8, 0xEA1A27DB, 0xF94AD42F, 0x0B21572C, 0xDFEB33C7, 0x2D80B0C4, 0x3ED04330, 0xCCBBC033,
  0xA24BB5A6, 0x502036A5, 0x4370C551, 0xB11B4652, 0x65D122B9, 0x97BAA1BA, 0x84EA524E, 0x7681D14D,
  0x2892ED69, 0xDAF96E6A, 0xC9A99D9E, 0x3BC21E9D, 0xEF087A76, 0x1D63F975, 0x0E330A81, 0xFC588982,
  0xB21572C9, 0x407EF1CA, 0x532E023E, 0xA145813D, 0x758FE5D6, 0x87E466D5, 0x94B49521, 0x66DF1622,
  0x38CC2A06, 0xCAA7A905, 0xD9F75AF1, 0x2B9CD9F2, 0xFF56BD19, 0x0D3D3E1A, 0x1E6DCDEE, 0xEC064EED,
  0xC38D26C4, 0x31E6A5C7, 0x22B65633, 0xD0DDD530, 0x0417B1DB, 0xF67C32D8, 0xE52CC12C, 0x1747422F,
  0x49547E0B, 0xBB3FFD08, 0xA86F0EFC, 0x5A048DFF, 0x8ECEE914, 0x7CA56A17, 0x6FF599E3, 0x9D9E1AE0,
  0xD3D3E1AB, 0x21B862A8, 0x32E8915C, 0xC083125F, 0x144976B4, 0xE622F5B7, 0xF5720643, 0x07198540,
  0x590AB964, 0xAB613A67, 0xB831C993, 0x4A5A4A90, 0x9E902E7B, 0x6CFBAD78, 0x7FAB5E8C, 0x8DC0DD8F,
  0xE330A81A, 0x115B2B19, 0x020BD8ED, 0xF0605BEE, 0x24AA3F05, 0xD6C1BC06, 0xC5914FF2, 0x37FACCF1,
  0x69E9F0D5, 0x9B8273D6, 0x88D28022, 0x7AB90321, 0xAE7367CA, 0x5C18E4C9, 0x4F48173D, 0xBD23943E,
  0xF36E6F75, 0x0105EC76, 0x12551F82, 0xE03E9C81, 0x34F4F86A, 0xC69F7B69, 0xD5CF889D, 0x27A40B9E,
  0x79B737BA, 0x8BDCB4B9, 0x988C474D, 0x6AE7C44E, 0xBE2DA0A5, 0x4C4623A6, 0x5F16D052, 0xAD7D5351]

/-- `CRC32C(c, d)` -/
def crc32cStep (c : UInt32) (d : UInt8) : UInt32 :=
  (c >>> 8) ^^^ crc_c.getD ((c ^^^ d.toUInt32) &&& (0xFF : UInt32)).toNat 0

/-- The bytes in the other order. -/
def swapBytes (h : UInt32) : UInt32 :=
  let byte0 := h &&& (0xff : UInt32)
  let byte1 := (h >>> 8) &&& (0xff : UInt32)
  let byte2 := (h >>> 16) &&& (0xff : UInt32)
  let byte3 := (h >>> 24) &&& (0xff : UInt32)
  (byte0 <<< 24) ||| (byte1 <<< 16) ||| (byte2 <<< 8) ||| byte3

/-- The checksum as it is stored in network order. -/
def checksum (mem : Memory) (buf len : ℕ) : UInt32 :=
  swapBytes (~~~((mem.load buf len).foldl crc32cStep 0xFFFFFFFF))

open Redundancy

lemma crc_c_eq : ∀ i < 256, (crc_c.getD i 0).toNat = (shift 0x82F63B78)^[8] i := by
  decide +kernel

lemma crc32cStep_eq (c : UInt32) (d : UInt8) :
    (crc32cStep c d).toNat = (shift 0x82F63B78)^[8] (c.toNat ^^^ d.toNat) := by
  have low : ((c ^^^ d.toUInt32) &&& (0xFF : UInt32)).toNat = (c.toNat ^^^ d.toNat) % 2 ^ 8 := by
    rw [UInt32.toNat_and, UInt32.toNat_xor, UInt8.toNat_toUInt32]
    exact Nat.and_two_pow_sub_one_eq_mod _ 8
  have high : (c >>> 8).toNat = (c.toNat ^^^ d.toNat) / 2 ^ 8 := by
    rw [Nat.xor_div_two_pow, Nat.div_eq_of_lt d.toNat_lt, Nat.xor_zero]
    exact Nat.shiftRight_eq_div_pow _ 8
  rw [crc32cStep, UInt32.toNat_xor, low, crc_c_eq (_ % 2 ^ 8) (Nat.mod_lt _ (Nat.two_pow_pos 8)), high,
    ← shifts_eq]

lemma foldl_crc32cStep (bytes : List UInt8) (c : UInt32) : (bytes.foldl crc32cStep c).toNat =
    remainder 0x82F63B78 8 c.toNat (bytes.map UInt8.toNat) := by
  induction bytes generalizing c with
  | nil => rfl
  | cons d bytes ih =>
    rw [List.foldl_cons, ih, crc32cStep_eq]
    rfl

/-- The checksum is CRC-32C: the table gives what dividing bit by bit gives. -/
theorem checksum_eq_remainder (mem : Memory) (buf len : ℕ) : checksum mem buf len =
    swapBytes (~~~(UInt32.ofNat
      (remainder 0x82F63B78 8 0xFFFFFFFF ((mem.load buf len).map UInt8.toNat)))) := by
  have table := foldl_crc32cStep (mem.load buf len) 0xFFFFFFFF
  rw [checksum, ← UInt32.ofNat_toNat (x := List.foldl ..), table]
  rfl

end Inet.SCTPSerializer

/-! ## Chunks -/

namespace Inet

structure SCTPSimpleMessage where
  dataLen : ℕ
  data : List UInt8

structure SCTPDataChunk where
  eBit : Bool
  bBit : Bool
  uBit : Bool
  iBit : Bool
  tsn : UInt32
  sid : UInt16
  ssn : UInt16
  ppid : UInt32
  byteLength : ℕ
  encapsulated : Option SCTPSimpleMessage

structure SCTPGapBlock where
  start : UInt32
  stop : UInt32

/-- The blocks are the first `numGaps` and `numNrGaps` of the arrays. -/
structure SCTPSackChunk where
  chunkType : UInt8
  cumTsnAck : UInt32
  a_rwnd : UInt32
  isNrSack : Bool := false
  gaps : List SCTPGapBlock
  nrGaps : List SCTPGapBlock := []
  dupTsns : List UInt32
  byteLength : ℕ

structure SCTPForwardTsnStream where
  sid : UInt16
  /-- `-1` in case of unordered delivery. -/
  ssn : Int16

structure SCTPForwardTsnChunk where
  newCumTsn : UInt32
  streams : List SCTPForwardTsnStream
  byteLength : ℕ

structure SCTPShutdownChunk where
  cumTsnAck : UInt32
  byteLength : ℕ

inductive SCTPChunk (Other : Type) where
  | data (chunk : SCTPDataChunk)
  | sack (chunk : SCTPSackChunk)
  | forwardTsn (chunk : SCTPForwardTsnChunk)
  | shutdown (chunk : SCTPShutdownChunk)
  | other (chunk : Other)

structure SCTPMessage (Other : Type) where
  srcPort : UInt16
  destPort : UInt16
  tag : UInt32
  checksumOk : Bool := false
  chunks : List (SCTPChunk Other)

/-- How chunks of the other types are serialized, with the bytes that are taken for them, and parsed,
where the parser may change the buffer. -/
structure OtherChunks (Other : Type) where
  serialize : Other → Memory → ℕ → Except SimError (Memory × ℕ)
  parse : UInt8 → Memory → ℕ → ℕ → Except SimError (List Other × Memory)

namespace SCTPSerializer

def DATA : UInt8 := 0

def SACK : UInt8 := 3

def SHUTDOWN : UInt8 := 7

def NR_SACK : UInt8 := 16

def FORWARD_TSN : UInt8 := 192

def I_BIT : UInt8 := 0x08

def UNORDERED_BIT : UInt8 := 0x04

def BEGIN_BIT : UInt8 := 0x02

def END_BIT : UInt8 := 0x01

def SCTP_COMMON_HEADER : ℕ := 12

def SCTP_DATA_CHUNK_LENGTH : ℕ := 16

def addPadding (x : ℕ) : ℕ := (x + 3) / 4 * 4

/-- The number as an `int16`. -/
def int16 (n : ℕ) : ℤ := (UInt16.ofNat n).toInt16.toInt

def dataFlags (dataChunk : SCTPDataChunk) : UInt8 :=
  let flags : UInt8 := 0
  let flags := if dataChunk.uBit then flags ||| UNORDERED_BIT else flags
  let flags := if dataChunk.bBit then flags ||| BEGIN_BIT else flags
  let flags := if dataChunk.eBit then flags ||| END_BIT else flags
  if dataChunk.iBit then flags ||| I_BIT else flags

def storeDataHeader (dataChunk : SCTPDataChunk) (mem : Memory) (dc : ℕ) : Memory :=
  let mem := mem.store8 dc DATA
  let mem := mem.store8 (dc + 1) (dataFlags dataChunk)
  let mem := mem.store16 (dc + 2) (UInt16.ofNat dataChunk.byteLength)
  let mem := mem.store32 (dc + 4) dataChunk.tsn
  let mem := mem.store16 (dc + 8) dataChunk.sid
  let mem := mem.store16 (dc + 10) dataChunk.ssn
  mem.store32 (dc + 12) dataChunk.ppid

def serializeData (dataChunk : SCTPDataChunk) (mem : Memory) (dc : ℕ) :
    Except SimError (Memory × ℕ) :=
  let mem := storeDataHeader dataChunk mem dc
  match dataChunk.encapsulated with
  | none => .error (.runtimeError "check_and_cast")
  | some smsg =>
      let datalen := smsg.dataLen
      .ok (if datalen ≤ smsg.data.length then mem.store (dc + 16) (smsg.data.take datalen) else mem,
        SCTP_DATA_CHUNK_LENGTH + addPadding datalen)

/-- The block as offsets from the cumulative TSN. -/
def storeGap (cumtsnack : UInt32) (gap : SCTPGapBlock) (mem : Memory) (pos : ℕ) : Memory :=
  let mem := mem.store16 pos (gap.start - cumtsnack).toUInt16
  mem.store16 (pos + 2) (gap.stop - cumtsnack).toUInt16

def storeGaps (cumtsnack : UInt32) : List SCTPGapBlock → Memory → ℕ → Memory :=
  Memory.storeEach 4 (storeGap cumtsnack)

def storeTsns : List UInt32 → Memory → ℕ → Memory :=
  Memory.storeEach 4 fun tsn mem pos => mem.store32 pos tsn

/-- The header of a `SACK` is written as that of an `NR_SACK`. -/
def storeSackHeader (sackChunk : SCTPSackChunk) (mem : Memory) (sac : ℕ) : Memory :=
  let mem := mem.store8 sac sackChunk.chunkType
  let mem := mem.store16 (sac + 2) (UInt16.ofNat sackChunk.byteLength)
  let mem := mem.store32 (sac + 4) sackChunk.cumTsnAck
  let mem := mem.store32 (sac + 8) sackChunk.a_rwnd
  let mem := mem.store16 (sac + 12) (UInt16.ofNat sackChunk.gaps.length)
  mem.store16 (sac + 16) (UInt16.ofNat sackChunk.dupTsns.length)

/-- The counters of the loops are 16 bits wide and signed. -/
def serializeSack (sackChunk : SCTPSackChunk) (mem : Memory) (sac : ℕ) : Memory :=
  let cumtsnack := sackChunk.cumTsnAck
  let numgaps := int16 sackChunk.gaps.length
  let numdups := int16 sackChunk.dupTsns.length
  let numnrgaps := if sackChunk.isNrSack then int16 sackChunk.nrGaps.length else 0
  let size : ℕ := if sackChunk.isNrSack then 20 else 16
  let mem := storeSackHeader sackChunk mem sac
  let mem := storeGaps cumtsnack (sackChunk.gaps.take numgaps.toNat) mem (sac + size)
  let mem :=
    if sackChunk.isNrSack then
      let mem := mem.store16 (sac + 14) (UInt16.ofNat sackChunk.nrGaps.length)
      let mem := mem.store16 (sac + 18) 0
      storeGaps cumtsnack (sackChunk.nrGaps.take numnrgaps.toNat) mem
        ((sac + 20 : ℤ) + numgaps * 4).toNat
    else mem
  storeTsns (sackChunk.dupTsns.take numdups.toNat) mem
    ((sac + size : ℤ) + (numgaps + numnrgaps) * 4).toNat

def storeStream (stream : SCTPForwardTsnStream) (mem : Memory) (pos : ℕ) : Memory :=
  let mem := mem.store16 pos stream.sid
  mem.store16 (pos + 2) stream.ssn.toUInt16

def storeStreams : List SCTPForwardTsnStream → Memory → ℕ → Memory :=
  Memory.storeEach 4 storeStream

/-- A chunk with a number after type and length. -/
def storeNumbered (chunkType : UInt8) (byteLength : ℕ) (number : UInt32) (mem : Memory)
    (pos : ℕ) : Memory :=
  let mem := mem.store8 pos chunkType
  let mem := mem.store16 (pos + 2) (UInt16.ofNat byteLength)
  mem.store32 (pos + 4) number

def serializeForwardTsn (forward : SCTPForwardTsnChunk) (mem : Memory) (forw : ℕ) : Memory :=
  storeStreams forward.streams
    (storeNumbered FORWARD_TSN forward.byteLength forward.newCumTsn mem forw) (forw + 8)

def serializeShutdown (shutdownChunk : SCTPShutdownChunk) (mem : Memory) (sac : ℕ) : Memory :=
  storeNumbered SHUTDOWN shutdownChunk.byteLength shutdownChunk.cumTsnAck mem sac

variable {Other : Type} (others : OtherChunks Other)

/-- With the bytes that are taken for the chunk. -/
def serializeChunk : SCTPChunk Other → Memory → ℕ → Except SimError (Memory × ℕ)
  | .data chunk, mem, pos => serializeData chunk mem pos
  | .sack chunk, mem, pos => .ok (serializeSack chunk mem pos, chunk.byteLength)
  | .forwardTsn chunk, mem, pos => .ok (serializeForwardTsn chunk mem pos, chunk.byteLength)
  | .shutdown chunk, mem, pos => .ok (serializeShutdown chunk mem pos, chunk.byteLength)
  | .other chunk, mem, pos => others.serialize chunk mem pos

def serializeChunks : List (SCTPChunk Other) → Memory → ℕ → Except SimError (Memory × ℕ)
  | [], mem, pos => .ok (mem, pos)
  | chunk :: chunks, mem, pos => do
      let (mem, length) ← serializeChunk others chunk mem pos
      serializeChunks chunks mem (pos + length)

def serialize (msg : SCTPMessage Other) (mem : Memory) (buf : ℕ) :
    Except SimError (UInt32 × Memory) := do
  let mem := mem.store16 buf msg.srcPort
  let mem := mem.store16 (buf + 2) msg.destPort
  let mem := mem.store32 (buf + 4) msg.tag
  let (mem, stop) ← serializeChunks others msg.chunks mem (buf + SCTP_COMMON_HEADER)
  let writtenbytes := stop - buf
  return (UInt32.ofNat writtenbytes, mem.store32 (buf + 8) (checksum mem buf writtenbytes))

/-- There is no encapsulated packet where there are no data. -/
def parseData (mem : Memory) (dc woPadding : ℕ) : SCTPDataChunk :=
  let flags := mem (dc + 1)
  let datalen := woPadding - 16
  { uBit := flags &&& UNORDERED_BIT ≠ 0
    bBit := flags &&& BEGIN_BIT ≠ 0
    eBit := flags &&& END_BIT ≠ 0
    iBit := flags &&& I_BIT ≠ 0
    tsn := mem.load32 (dc + 4)
    sid := mem.load16 (dc + 8)
    ssn := mem.load16 (dc + 10)
    ppid := mem.load32 (dc + 12)
    byteLength := SCTP_DATA_CHUNK_LENGTH + datalen
    encapsulated :=
      if 16 < woPadding then some { dataLen := datalen, data := mem.load (dc + 16) datalen }
      else none }

def parseGap (cumtsnack : UInt32) (mem : Memory) (pos : ℕ) : SCTPGapBlock where
  start := (mem.load16 pos).toUInt32 + cumtsnack
  stop := (mem.load16 (pos + 2)).toUInt32 + cumtsnack

def parseGaps (cumtsnack : UInt32) (mem : Memory) (ngaps pos : ℕ) : List SCTPGapBlock :=
  mem.loadEach 4 (parseGap cumtsnack) ngaps pos

def parseTsns (mem : Memory) (ndups pos : ℕ) : List UInt32 := mem.loadEach 4 Memory.load32 ndups pos

def parseSack (mem : Memory) (sac cLen : ℕ) : SCTPSackChunk :=
  let cumtsnack := mem.load32 (sac + 4)
  let ngaps := (mem.load16 (sac + 12)).toNat
  let ndups := (mem.load16 (sac + 14)).toNat
  { chunkType := SACK
    cumTsnAck := cumtsnack
    a_rwnd := mem.load32 (sac + 8)
    gaps := parseGaps cumtsnack mem ngaps (sac + 16)
    dupTsns := parseTsns mem ndups (sac + 16 + ngaps * 4)
    byteLength := cLen }

def parseStream (mem : Memory) (pos : ℕ) : SCTPForwardTsnStream where
  sid := mem.load16 pos
  ssn := (mem.load16 (pos + 2)).toInt16

def parseStreams (mem : Memory) (count pos : ℕ) : List SCTPForwardTsnStream :=
  mem.loadEach 4 parseStream count pos

/-- The loop over the streams steps by four bytes until it has passed the length. -/
def parseForwardTsn (mem : Memory) (forward cLen : ℕ) : SCTPForwardTsnChunk where
  newCumTsn := mem.load32 (forward + 4)
  streams := parseStreams mem ((cLen - 8 + 3) / 4) (forward + 8)
  byteLength := cLen

def parseShutdown (mem : Memory) (sc cLen : ℕ) : SCTPShutdownChunk where
  cumTsnAck := mem.load32 (sc + 4)
  byteLength := cLen

def woPadding (mem : Memory) (pos : ℕ) : ℕ := (mem.load16 (pos + 2)).toNat

def cLen (mem : Memory) (pos : ℕ) : ℕ := addPadding (woPadding mem pos)

def parseChunk (mem : Memory) (pos bufsize : ℕ) : Except SimError (List (SCTPChunk Other) × Memory) :=
  let chunkType := mem pos
  if chunkType = DATA then
    if cLen mem pos = 0 then
      .error (.runtimeError "Incoming SCTP packet contains data chunk with length==0")
    else .ok ([.data (parseData mem pos (woPadding mem pos))], mem)
  else if chunkType = SACK then .ok ([.sack (parseSack mem pos (cLen mem pos))], mem)
  else if chunkType = SHUTDOWN then .ok ([.shutdown (parseShutdown mem pos (cLen mem pos))], mem)
  else if chunkType = FORWARD_TSN then
    .ok ([.forwardTsn (parseForwardTsn mem pos (cLen mem pos))], mem)
  else (others.parse chunkType mem pos bufsize).map fun (found, mem) => (found.map .other, mem)

/-- The loop over the chunks. Unless the length of a chunk is zero, it takes one round for four bytes
at most. -/
def parseChunks (limit : ℕ) : ℕ → Memory → ℕ → Except SimError (List (SCTPChunk Other))
  | 0, _, pos => if pos < limit then .error .nonTermination else .ok []
  | rounds + 1, mem, pos =>
      if pos < limit then do
        let (found, mem') ← parseChunk others mem pos (limit - pos)
        let rest ← parseChunks limit rounds mem' (pos + cLen mem pos)
        return found ++ rest
      else .ok []

/-- `parse(buf, bufsize, dest)` for a new message. -/
def parse (mem : Memory) (buf : ℕ) (bufsize : UInt32) : Except SimError (SCTPMessage Other) := do
  let tempChecksum := mem.load32 (buf + 8)
  let chksum := checksum (mem.store32 (buf + 8) 0) buf bufsize.toNat
  let size := (bufsize - 12).toNat
  let chunks ← parseChunks others (buf + SCTP_COMMON_HEADER + size) size mem
    (buf + SCTP_COMMON_HEADER)
  return {
    srcPort := mem.load16 buf
    destPort := mem.load16 (buf + 2)
    tag := mem.load32 (buf + 4)
    checksumOk := tempChecksum = chksum
    chunks := chunks }

end SCTPSerializer

end Inet
