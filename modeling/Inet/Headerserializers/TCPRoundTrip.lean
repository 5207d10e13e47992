import Inet.Headerserializers.TCPSerializer

/-!
# TCP segments on the wire

A segment as the connection builds it is parsed from its bytes as it was unless they do not say all
of it: they have no ECN bits, whole words for the options, and fixed widths for values.
-/

namespace Inet.TCPSerializer

open Tcp List

variable {tcpseg parsed : TCPPacket} {mem mem' : Memory} {buf : ℕ}

/-- A segment as the connection builds it, with its payload as bytes or without. -/
structure IsSegment (tcpseg : TCPPacket) : Prop where
  options : ∀ option ∈ tcpseg.options, IsOption option
  /-- `TCP_OPTIONS_MAX_SIZE` -/
  optionsArrayLength : tcpseg.getOptionsArrayLength ≤ 40
  headerLength : tcpseg.headerLength = TCP_HEADER_OCTETS + tcpseg.getOptionsArrayLength
  bytes : tcpseg.byteArray.data = [] ∨ tcpseg.byteArray.data.length = tcpseg.payloadLength
  byteLength : tcpseg.byteLength = tcpseg.headerLength + tcpseg.payloadLength

/-- A segment that has its payload as bytes. -/
structure IsBuilt (tcpseg : TCPPacket) : Prop extends IsSegment tcpseg where
  payload : tcpseg.byteArray.data.length = tcpseg.payloadLength
  bytes := Or.inr payload

/-- The parsed segment has the fields, the payload and the options, up to trailing padding. -/
structure Recovers (tcpseg parsed : TCPPacket) : Prop where
  srcPort : parsed.srcPort = tcpseg.srcPort
  destPort : parsed.destPort = tcpseg.destPort
  sequenceNo : parsed.sequenceNo = tcpseg.sequenceNo
  ackNo : parsed.ackNo = tcpseg.ackNo
  headerLength : parsed.headerLength = tcpseg.headerLength
  urgBit : parsed.urgBit = tcpseg.urgBit
  ackBit : parsed.ackBit = tcpseg.ackBit
  pshBit : parsed.pshBit = tcpseg.pshBit
  rstBit : parsed.rstBit = tcpseg.rstBit
  synBit : parsed.synBit = tcpseg.synBit
  finBit : parsed.finBit = tcpseg.finBit
  ecnBit : parsed.ecnBit = tcpseg.ecnBit
  eceBit : parsed.eceBit = tcpseg.eceBit
  window : parsed.window = tcpseg.window
  urgentPointer : parsed.urgentPointer = tcpseg.urgentPointer
  byteArray : parsed.byteArray = tcpseg.byteArray
  options : ∃ count, parsed.options = tcpseg.options ++
    List.replicate count { kind := .endOfOptionList, length := 1, values := [] }

/-- The segment is recovered from the bytes that were written at the pointer. -/
def RoundTrips (tcpseg : TCPPacket) (buf : ℕ) (written : Except SimError (UInt32 × Memory)) : Prop :=
  ∃ writtenbytes mem parsed, written = .ok (writtenbytes, mem) ∧
    parse mem buf writtenbytes true = .ok parsed ∧ Recovers tcpseg parsed

/-- The bytes say all of the segment. -/
structure Said (tcpseg : TCPPacket) : Prop where
  length : tcpseg.byteLength < 4294967296
  ecnBit : tcpseg.ecnBit = false
  eceBit : tcpseg.eceBit = false
  words : 4 ∣ tcpseg.getOptionsArrayLength
  values : ∀ option ∈ tcpseg.options, Fits option

/-! ## The bytes written -/

/-- The length of the options with their padding. -/
def paddedLength (tcpseg : TCPPacket) : ℕ :=
  tcpseg.getOptionsArrayLength + padding tcpseg.getOptionsArrayLength

/-- The structure `tcphdr` is in memory, without the checksum. -/
structure Header (tcpseg : TCPPacket) (offs : ℕ) (mem : Memory) (buf : ℕ) : Prop where
  srcPort : mem.load16 buf = tcpseg.srcPort
  destPort : mem.load16 (buf + 2) = tcpseg.destPort
  sequenceNo : mem.load32 (buf + 4) = tcpseg.sequenceNo
  ackNo : mem.load32 (buf + 8) = tcpseg.ackNo
  offs : loadOffs mem buf = offs
  flags : mem (buf + 13) = headerFlags tcpseg.toTCPSegment
  window : mem.load16 (buf + 14) = tcpseg.window
  urgentPointer : mem.load16 (buf + 18) = tcpseg.urgentPointer

/-- The options as they are parsed, where the padding is an option for each byte. -/
def paddedOptions (tcpseg : TCPPacket) : List TCPOption :=
  tcpseg.options ++ List.replicate (padding tcpseg.getOptionsArrayLength) ({} : TCPOption)

/-- The segment is in memory, with its payload if that is bytes. -/
structure Written (tcpseg : TCPPacket) (mem : Memory) (buf : ℕ) : Prop where
  header : Header tcpseg ((TCP_HEADER_OCTETS + paddedLength tcpseg) / 4) mem buf
  options : mem.load (buf + 20) (paddedLength tcpseg) = (paddedOptions tcpseg).flatMap optionBytes
  data : tcpseg.byteArray.data.length = tcpseg.payloadLength →
    mem.load (buf + 20 + paddedLength tcpseg) tcpseg.payloadLength = tcpseg.byteArray.data

lemma loadOffs_storeOffs {offs : ℕ} (lt : offs < 16) :
    loadOffs (storeOffs mem buf offs) buf = offs := by
  rw [loadOffs, storeOffs, Memory.store8_self]
  have low : ((mem (buf + 12)).toNat &&& 15) >>> 4 = 0 := by
    rw [Nat.shiftRight_and_distrib]
    exact Nat.and_zero _
  have shifted : (UInt8.ofNat offs <<< 4).toNat = offs <<< 4 := by
    rw [UInt8.toNat_shiftLeft, UInt8.toNat_ofNat', Nat.mod_eq_of_lt (by omega : offs < 2 ^ 8)]
    refine Nat.mod_eq_of_lt ?_
    rw [Nat.shiftLeft_eq]
    exact (Nat.mul_lt_mul_right (by decide)).mpr lt
  rw [UInt8.toNat_shiftRight, UInt8.toNat_or, UInt8.toNat_and, shifted]
  change (((mem (buf + 12)).toNat &&& 15) ||| offs <<< 4) >>> 4 = offs
  rw [Nat.shiftRight_or_distrib, low, Nat.zero_or, Nat.shiftLeft_shiftRight]

lemma header_storeHeader : Header tcpseg 5 (storeHeader tcpseg mem buf) buf := by
  constructor
  case offs =>
    have apart : loadOffs (storeHeader tcpseg mem buf) buf = loadOffs (storeOffs
        ((((mem.store16 (buf + 16) 0).store16 buf tcpseg.srcPort).store16 (buf + 2)
          tcpseg.destPort).store32 (buf + 4) tcpseg.sequenceNo |>.store32 (buf + 8) tcpseg.ackNo)
        buf 5) buf := by
      rw [loadOffs, loadOffs, storeHeader, Memory.store16_of_disjoint (by omega), Memory.store16_of_disjoint (by omega),
        Memory.store8_of_ne (by omega)]
      rfl
    rw [apart]
    exact loadOffs_storeOffs (by decide)
  case flags =>
    rw [storeHeader, Memory.store16_of_disjoint (by omega), Memory.store16_of_disjoint (by omega),
      Memory.store8_self]
  all_goals
    simp (disch := omega) only [storeHeader, storeOffs, Memory.load16, Memory.load32,
      Memory.load_store16, Memory.load_store32, Memory.load_store8]
    first | exact Memory.load16_store16 | exact Memory.load32_store32

lemma storeHeader_of_lt {i : ℕ} (lt : i < buf) : storeHeader tcpseg mem buf i = mem i := by
  rw [storeHeader, storeOffs]
  rw [Memory.store16_of_disjoint (by omega), Memory.store16_of_disjoint (by omega),
    Memory.store8_of_ne (by omega), Memory.store8_of_ne (by omega),
    Memory.store32_of_disjoint (by omega), Memory.store32_of_disjoint (by omega),
    Memory.store16_of_disjoint (by omega), Memory.store16_of_disjoint (by omega),
    Memory.store16_of_disjoint (by omega)]

lemma Header.congr {offs : ℕ} (header : Header tcpseg offs mem buf)
    (same : ∀ i < 20, i ≠ 16 → i ≠ 17 → mem' (buf + i) = mem (buf + i)) :
    Header tcpseg offs mem' buf := by
  have loads : ∀ pos count, pos + count ≤ 20 → (pos + count ≤ 16 ∨ 18 ≤ pos) →
      mem'.load (buf + pos) count = mem.load (buf + pos) count := by
    intro pos count le apart
    refine Memory.load_congr fun i lt => ?_
    rw [Nat.add_assoc]
    exact same (pos + i) (by omega) (by omega) (by omega)
  constructor
  case srcPort =>
    rw [Memory.load16, show buf = buf + 0 from rfl, loads 0 2 (by decide) (by decide)]
    exact header.srcPort
  case destPort =>
    rw [Memory.load16, loads 2 2 (by decide) (by decide)]
    exact header.destPort
  case sequenceNo =>
    rw [Memory.load32, loads 4 4 (by decide) (by decide)]
    exact header.sequenceNo
  case ackNo =>
    rw [Memory.load32, loads 8 4 (by decide) (by decide)]
    exact header.ackNo
  case offs =>
    rw [loadOffs, same 12 (by decide) (by decide) (by decide)]
    exact header.offs
  case flags =>
    rw [same 13 (by decide) (by decide) (by decide)]
    exact header.flags
  case window =>
    rw [Memory.load16, loads 14 2 (by decide) (by decide)]
    exact header.window
  case urgentPointer =>
    rw [Memory.load16, loads 18 2 (by decide) (by decide)]
    exact header.urgentPointer

lemma Header.storeOffs {offs offs' : ℕ} (header : Header tcpseg offs mem buf) (lt : offs' < 16) :
    Header tcpseg offs' (storeOffs mem buf offs') buf := by
  constructor
  case offs => exact loadOffs_storeOffs lt
  case flags =>
    rw [TCPSerializer.storeOffs, Memory.store8_of_ne (by omega)]
    exact header.flags
  all_goals
    simp (disch := omega) only [TCPSerializer.storeOffs, Memory.load16, Memory.load32,
      Memory.load_store8]
  · exact header.srcPort
  · exact header.destPort
  · exact header.sequenceNo
  · exact header.ackNo
  · exact header.window
  · exact header.urgentPointer

variable (segment : IsSegment tcpseg)
include segment

lemma IsSegment.length_options : tcpseg.options.length ≤ tcpseg.getOptionsArrayLength := by
  have pos : ∀ length ∈ tcpseg.options.map TCPOption.length, 1 ≤ length := by
    intro length mem
    obtain ⟨option, memO, rfl⟩ := mem_map.mp mem
    exact (segment.options option memO).length_pos
  have le := length_le_sum_of_one_le _ pos
  rw [length_map] at le
  exact le

lemma IsSegment.length_option {option : TCPOption}
    (mem : option ∈ tcpseg.options) : option.length < 256 := by
  have le : option.length ≤ tcpseg.getOptionsArrayLength :=
    single_le_sum (fun n _ => Nat.zero_le n) option.length
      (mem_map_of_mem (f := TCPOption.length) mem)
  have short := segment.optionsArrayLength
  omega

omit segment in
lemma paddedLength_eq (tcpseg : TCPPacket) :
    (TCP_HEADER_OCTETS + paddedLength tcpseg) / 4 * 4 = TCP_HEADER_OCTETS + paddedLength tcpseg := by
  rw [TCP_HEADER_OCTETS, paddedLength, padding]
  omega

lemma IsSegment.paddedLength_le : paddedLength tcpseg ≤ 40 := by
  have short := segment.optionsArrayLength
  rw [paddedLength, padding]
  omega

omit segment in
lemma padding_of_words (words : 4 ∣ tcpseg.getOptionsArrayLength) :
    padding tcpseg.getOptionsArrayLength = 0 := by
  rw [padding]
  omega

omit segment in
lemma flatMap_replicate_end (count : ℕ) :
    (List.replicate count ({} : TCPOption)).flatMap optionBytes = List.replicate count 0 := by
  induction count with
  | zero => rfl
  | succ count ih =>
    rw [replicate_succ, flatMap_cons, ih]
    rfl

lemma IsSegment.of_mem_paddedOptions :
    ∀ option ∈ paddedOptions tcpseg, IsOption option ∧ option.length < 256 := by
  intro option mem
  rcases mem_append.mp mem with mem | mem
  · exact ⟨segment.options option mem, segment.length_option mem⟩
  · cases eq_of_mem_replicate mem
    exact ⟨by decide, by decide⟩

omit segment in
lemma sum_paddedOptions (tcpseg : TCPPacket) :
    ((paddedOptions tcpseg).map TCPOption.length).sum = paddedLength tcpseg := by
  rw [paddedOptions, map_append, sum_append, map_replicate]
  rw [sum_replicate, nsmul_eq_mul, mul_one]
  rfl

omit segment in
lemma length_flatMap_optionBytes {options : List TCPOption}
    (areOptions : ∀ option ∈ options, IsOption option) :
    (options.flatMap optionBytes).length = (options.map TCPOption.length).sum := by
  rw [length_flatMap]
  refine congrArg List.sum (map_congr_left fun option mem => ?_)
  exact (areOptions option mem).length_optionBytes

/-! ## Serializing -/

lemma IsSegment.serializeOptions {mem : Memory} (header : Header tcpseg 5 mem buf) :
    ∃ mem', serializeOptions tcpseg mem buf = .ok (paddedLength tcpseg, mem') ∧
      Header tcpseg ((TCP_HEADER_OCTETS + paddedLength tcpseg) / 4) mem' buf ∧
      mem'.load (buf + 20) (paddedLength tcpseg) = (paddedOptions tcpseg).flatMap optionBytes ∧
      ∀ i < buf, mem' i = mem i := by
  have few := segment.length_options
  have short := segment.optionsArrayLength
  have words := segment.paddedLength_le
  have length := length_flatMap_optionBytes segment.options
  by_cases any : 0 < tcpseg.options.length
  · have max : (UInt32.ofNat tcpseg.headerLength - UInt32.ofNat TCP_HEADER_OCTETS).toNat =
        tcpseg.getOptionsArrayLength := by
      rw [segment.headerLength, UInt32.toNat_sub, UInt32.toNat_ofNat', UInt32.toNat_ofNat',
        TCP_HEADER_OCTETS]
      omega
    have fits : TCP_HEADER_OCTETS + paddedLength tcpseg ≤ TCP_MAX_HEADER_OCTETS :=
      Nat.add_le_add_left words 20
    have stored : storeOptions (buf + 20) tcpseg.getOptionsArrayLength tcpseg.options 0 mem =
        .ok (0 + tcpseg.getOptionsArrayLength,
          mem.store (buf + 20 + 0) (tcpseg.options.flatMap optionBytes)) :=
      storeOptions_eq segment.options (Nat.le_of_eq (Nat.zero_add _))
    rw [Nat.zero_add, Nat.add_zero] at stored
    -- The options and the padding are stored next to each other.
    have one : (mem.store (buf + 20) (tcpseg.options.flatMap optionBytes)).store
        (buf + 20 + tcpseg.getOptionsArrayLength)
          (List.replicate (padding tcpseg.getOptionsArrayLength) 0) =
        mem.store (buf + 20) ((paddedOptions tcpseg).flatMap optionBytes) := by
      rw [paddedOptions, flatMap_append, flatMap_replicate_end, ← Memory.store_append, length]
      rfl
    have run : TCPSerializer.serializeOptions tcpseg mem buf = .ok (paddedLength tcpseg,
        TCPSerializer.storeOffs ((mem.store (buf + 20) (tcpseg.options.flatMap optionBytes)).store
          (buf + 20 + tcpseg.getOptionsArrayLength)
          (List.replicate (padding tcpseg.getOptionsArrayLength) 0)) buf
          ((TCP_HEADER_OCTETS + paddedLength tcpseg) / 4)) := by
      rw [TCPSerializer.serializeOptions, Nat.mod_eq_of_lt (by omega), if_pos any]
      dsimp only
      rw [max, take_length]
      rw [stored]
      exact if_pos fits
    rw [one] at run
    refine ⟨_, run, ?_, ?_, fun i lt => ?_⟩
    · refine (header.congr fun i lt _ _ => ?_).storeOffs ?_
      · rw [Memory.store_of_disjoint (by omega)]
      · rw [TCP_HEADER_OCTETS]
        omega
    · rw [TCPSerializer.storeOffs, Memory.load_store8 (by omega)]
      refine Memory.load_store ?_
      rw [length_flatMap_optionBytes fun option mem => (segment.of_mem_paddedOptions option mem).1,
        sum_paddedOptions]
    · rw [TCPSerializer.storeOffs, Memory.store8_of_ne (by omega), Memory.store_of_disjoint (by omega)]
  · have none_ : tcpseg.options = [] := length_eq_zero_iff.mp (by omega)
    have zero : tcpseg.getOptionsArrayLength = 0 := by
      rw [TCPSegment.getOptionsArrayLength, none_]
      rfl
    have noPadding : paddedLength tcpseg = 0 := by
      rw [paddedLength, zero]
      rfl
    refine ⟨mem, ?_, ?_, ?_, fun _ _ => rfl⟩
    · rw [TCPSerializer.serializeOptions, none_, noPadding]
      rfl
    · rw [noPadding]
      exact header
    · rw [noPadding, paddedOptions, none_, zero]
      exact eq_nil_of_length_eq_zero Memory.length_load

lemma IsSegment.storeData (mem : Memory) (tcpData : ℕ) :
    ∃ bytes, storeData tcpseg mem tcpData = .ok (mem.store tcpData bytes) ∧
      (tcpseg.byteArray.data.length = tcpseg.payloadLength → bytes = tcpseg.byteArray.data) := by
  have byteLength := segment.byteLength
  rw [TCPSerializer.storeData]
  by_cases any : tcpseg.headerLength < tcpseg.byteLength
  · rw [if_pos any]
    dsimp only
    by_cases some_ : 0 < tcpseg.byteArray.getDataArraySize
    · have size : tcpseg.byteArray.data.length = tcpseg.payloadLength := by
        rw [UInt32.lt_iff_toNat_lt, ByteArray.toNat_getDataArraySize] at some_
        rcases segment.bytes with empty | size
        · rw [empty] at some_
          cases some_
        · exact size
      have dataLength : UInt32.ofNat (tcpseg.byteLength - tcpseg.headerLength) =
          tcpseg.byteArray.getDataArraySize := by
        rw [ByteArray.getDataArraySize, size, byteLength, Nat.add_sub_cancel_left]
      refine ⟨tcpseg.byteArray.data, ?_, fun _ => rfl⟩
      rw [if_pos some_, if_pos dataLength.symm, dataLength,
        ByteArray.copyDataToBuffer_zero (Nat.le_of_eq (ByteArray.toNat_getDataArraySize _)),
        ByteArray.toNat_getDataArraySize, take_length]
    · rw [if_neg some_]
      refine ⟨_, rfl, fun size => ?_⟩
      rw [UInt32.lt_iff_toNat_lt, ByteArray.toNat_getDataArraySize] at some_
      change ¬ 0 < _ at some_
      omega
  · rw [if_neg any]
    refine ⟨[], by rw [Memory.store_nil], fun size => ?_⟩
    exact (length_eq_zero_iff.mp (by omega)).symm

lemma IsSegment.serialize (mem : Memory) (buf : ℕ) :
    ∃ mem', serialize tcpseg mem buf = .ok (UInt32.ofNat tcpseg.byteLength, mem') ∧
      Written tcpseg mem' buf ∧ ∀ i < buf, mem' i = mem i := by
  have first : Header tcpseg 5 (TCPSerializer.storeHeader tcpseg mem buf) buf := header_storeHeader
  obtain ⟨mem₁, run₁, header, options, before⟩ := segment.serializeOptions first
  obtain ⟨bytes, run₂, payload⟩ := segment.storeData mem₁ (buf + 20 + paddedLength tcpseg)
  refine ⟨mem₁.store (buf + 20 + paddedLength tcpseg) bytes, ?_,
    ⟨header.congr fun i lt _ _ => ?_, ?_, fun size => ?_⟩, fun i lt => ?_⟩
  · rw [TCPSerializer.serialize, run₁]
    change (TCPSerializer.storeData tcpseg mem₁ (buf + 20 + paddedLength tcpseg) >>= _) = _
    rw [run₂]
    rfl
  · rw [Memory.store_of_disjoint (by omega)]
  · rw [Memory.load_store_of_disjoint (by omega)]
    exact options
  · rw [payload size]
    exact Memory.load_store size
  · rw [Memory.store_of_disjoint (by omega), before i lt, storeHeader_of_lt lt]

variable (written : Written tcpseg mem buf)
include written

omit segment in
lemma Written.congr (same : ∀ i, mem' (buf + i) = mem (buf + i)) : Written tcpseg mem' buf where
  header := written.header.congr fun i _ _ _ => same i
  options := by
    rw [← written.options]
    refine Memory.load_congr fun i _ => ?_
    rw [Nat.add_assoc]
    exact same (20 + i)
  data size := by
    rw [← written.data size]
    refine Memory.load_congr fun i _ => ?_
    rw [Nat.add_assoc, Nat.add_assoc]
    exact same (20 + (paddedLength tcpseg + i))

omit segment in
lemma Written.storeWord (th_sum : UInt16) :
    Written tcpseg (TCPIPchecksum.storeWord mem (buf + 16) th_sum) buf where
  header := written.header.congr fun i _ _ _ => Memory.store_of_disjoint (by
    change _ ∨ buf + 16 + 2 ≤ _
    omega)
  options := by
    rw [TCPIPchecksum.storeWord, Memory.load_store_of_disjoint]
    · exact written.options
    · change _ ∨ buf + 16 + 2 ≤ _
      omega
  data size := by
    rw [TCPIPchecksum.storeWord, Memory.load_store_of_disjoint]
    · exact written.data size
    · change _ ∨ buf + 16 + 2 ≤ _
      omega

omit written in
lemma IsSegment.serializeWithChecksum (protocol : UInt8) (mem : Memory) (buf : ℕ)
    {srcIp destIp : List UInt32} (same : srcIp.length = destIp.length) :
    ∃ mem', serializeWithChecksum protocol tcpseg mem buf srcIp destIp =
      .ok (UInt32.ofNat tcpseg.byteLength, mem') ∧ Written tcpseg mem' buf ∧
        ∀ i < buf, mem' i = mem i := by
  obtain ⟨mem₁, run, written, before⟩ := segment.serialize mem buf
  have sum : ∃ th_sum, checksum protocol mem₁ buf (UInt32.ofNat tcpseg.byteLength) srcIp destIp =
      .ok th_sum := ⟨_, if_pos same⟩
  obtain ⟨th_sum, run₂⟩ := sum
  refine ⟨TCPIPchecksum.storeWord mem₁ (buf + 16) th_sum, ?_, written.storeWord th_sum,
    fun i lt => ?_⟩
  · rw [TCPSerializer.serializeWithChecksum, run]
    change (checksum protocol mem₁ buf (UInt32.ofNat tcpseg.byteLength) srcIp destIp >>= _) = _
    rw [run₂]
    rfl
  · rw [TCPIPchecksum.storeWord, Memory.store_of_disjoint (by omega), before i lt]

/-! ## Parsing -/

omit segment in
omit written in
lemma headerFlags_spec (tcpseg : TCPSegment) :
    decide (headerFlags tcpseg &&& TH_FIN = TH_FIN) = tcpseg.finBit ∧
      decide (headerFlags tcpseg &&& TH_SYN = TH_SYN) = tcpseg.synBit ∧
      decide (headerFlags tcpseg &&& TH_RST = TH_RST) = tcpseg.rstBit ∧
      decide (headerFlags tcpseg &&& TH_PUSH = TH_PUSH) = tcpseg.pshBit ∧
      decide (headerFlags tcpseg &&& TH_ACK = TH_ACK) = tcpseg.ackBit ∧
      decide (headerFlags tcpseg &&& TH_URG = TH_URG) = tcpseg.urgBit := by
  rw [headerFlags]
  generalize tcpseg.finBit = fin
  generalize tcpseg.synBit = syn
  generalize tcpseg.rstBit = rst
  generalize tcpseg.pshBit = psh
  generalize tcpseg.ackBit = ack
  generalize tcpseg.urgBit = urg
  revert fin syn rst psh ack urg
  decide

omit segment in
lemma Written.headerLength : loadOffs mem buf * 4 = TCP_HEADER_OCTETS + paddedLength tcpseg := by
  rw [written.header.offs, paddedLength_eq]

/-- What the options are parsed to. -/
lemma Written.parseHeaderOptions :
    parseHeaderOptions mem buf (loadOffs mem buf * 4) =
      .ok ((paddedOptions tcpseg).map cutOption) := by
  rw [TCPSerializer.parseHeaderOptions, written.headerLength]
  have sum := sum_paddedOptions tcpseg
  split_ifs with any
  · rw [Nat.add_sub_cancel_left]
    refine parseOptions_eq (fun option mem => (segment.of_mem_paddedOptions option mem).1)
      (fun option mem => (segment.of_mem_paddedOptions option mem).2) ?_ (Nat.le_of_eq sum) ?_
    · rw [Nat.zero_add, sum]
    · rw [sum]
      exact written.options
  · have none_ : paddedOptions tcpseg = [] := by
      have pos : ∀ length ∈ (paddedOptions tcpseg).map TCPOption.length, 1 ≤ length := by
        intro length mem
        obtain ⟨option, memO, rfl⟩ := mem_map.mp mem
        exact (segment.of_mem_paddedOptions option memO).1.length_pos
      have le := length_le_sum_of_one_le _ pos
      rw [length_map] at le
      exact length_eq_zero_iff.mp (by omega)
    rw [none_]
    rfl

omit segment in
omit written in
lemma eceBit_parse {bufsize : UInt32} {withBytes : Bool}
    (ok : parse mem buf bufsize withBytes = .ok parsed) : parsed.eceBit = false := by
  obtain ⟨options, -, eq⟩ := Except.bind_eq_ok ok
  split_ifs at eq
  cases eq
  rfl

lemma Written.parse (bufsize : UInt32) : parse mem buf bufsize true =
      if bufsize.toNat < TCP_HEADER_OCTETS + paddedLength tcpseg then
        .error (.undefinedBehavior "memcpy(data_var, ptr, length)")
      else .ok (parsedSegment mem buf bufsize true ((paddedOptions tcpseg).map cutOption)) := by
  have words := segment.paddedLength_le
  have less : (true = true ∧ bufsize < UInt32.ofNat (loadOffs mem buf * 4)) ↔
      bufsize.toNat < TCP_HEADER_OCTETS + paddedLength tcpseg := by
    rw [written.headerLength, UInt32.lt_iff_toNat_lt, UInt32.toNat_ofNat', Nat.mod_eq_of_lt]
    · exact and_iff_right rfl
    · rw [TCP_HEADER_OCTETS]
      omega
  rw [TCPSerializer.parse, written.parseHeaderOptions segment]
  exact if_congr less rfl rfl

omit segment

lemma Written.recovers (built : IsBuilt tcpseg) (said : Said tcpseg) :
    Recovers tcpseg (parsedSegment mem buf (UInt32.ofNat tcpseg.byteLength) true tcpseg.options) := by
  obtain ⟨fin, syn, rst, psh, ack, urg⟩ := headerFlags_spec tcpseg.toTCPSegment
  rw [← written.header.flags] at fin syn rst psh ack urg
  have padded : paddedLength tcpseg = tcpseg.getOptionsArrayLength := by
    rw [paddedLength, padding_of_words said.words, Nat.add_zero]
  have headerLength : loadOffs mem buf * 4 = tcpseg.headerLength := by
    rw [written.headerLength, padded, built.headerLength]
  have size := tcpseg.byteArray.size_lt
  have payload := built.payload
  have length : UInt32.ofNat tcpseg.byteLength - UInt32.ofNat tcpseg.headerLength =
      UInt32.ofNat tcpseg.payloadLength := by
    rw [built.byteLength, ← UInt32.toNat_inj, UInt32.toNat_sub, UInt32.toNat_ofNat',
      UInt32.toNat_ofNat', UInt32.toNat_ofNat']
    omega
  have count : (UInt32.ofNat tcpseg.payloadLength).toNat = tcpseg.payloadLength := by
    rw [UInt32.toNat_ofNat', Nat.mod_eq_of_lt (by omega)]
  have data := written.data payload
  have start : 20 + tcpseg.getOptionsArrayLength = tcpseg.headerLength := built.headerLength.symm
  rw [padded, Nat.add_assoc, start] at data
  constructor
  case srcPort => exact written.header.srcPort
  case destPort => exact written.header.destPort
  case sequenceNo => exact written.header.sequenceNo
  case ackNo => exact written.header.ackNo
  case headerLength => exact headerLength
  case urgBit => exact urg
  case ackBit => exact ack
  case pshBit => exact psh
  case rstBit => exact rst
  case synBit => exact syn
  case finBit => exact fin
  case ecnBit => exact said.ecnBit.symm
  case eceBit => exact said.eceBit.symm
  case window => exact written.header.window
  case urgentPointer => exact written.header.urgentPointer
  case byteArray =>
    change ByteArray.setDataFromBuffer (mem.load (buf + loadOffs mem buf * 4)
      (UInt32.ofNat tcpseg.byteLength - UInt32.ofNat (loadOffs mem buf * 4)).toNat)
      (UInt32.ofNat tcpseg.byteLength - UInt32.ofNat (loadOffs mem buf * 4)) = _
    rw [headerLength, length, count, data]
    refine Tcp.ByteArray.ext ?_
    change tcpseg.byteArray.data.take (UInt32.ofNat tcpseg.payloadLength).toNat = _
    rw [count, ← payload, take_length]
  case options => exact ⟨0, (append_nil _).symm⟩

lemma Written.recovers_iff (built : IsBuilt tcpseg) :
    (∃ parsed, TCPSerializer.parse mem buf (UInt32.ofNat tcpseg.byteLength) true = .ok parsed ∧
      Recovers tcpseg parsed) ↔ Said tcpseg := by
  rw [written.parse built.toIsSegment, UInt32.toNat_ofNat']
  have size := tcpseg.byteArray.size_lt
  have payload := built.payload
  have byteLength := built.byteLength
  have headerLength := built.headerLength
  constructor
  · intro ⟨parsed, ok, recovers⟩
    split_ifs at ok with short
    have eq := (Except.ok.inj ok).symm
    have words : 4 ∣ tcpseg.getOptionsArrayLength := by
      have same : parsed.headerLength = tcpseg.headerLength := recovers.headerLength
      rw [eq] at same
      change loadOffs mem buf * 4 = _ at same
      rw [headerLength, TCP_HEADER_OCTETS] at same
      omega
    have noPadding : paddedOptions tcpseg = tcpseg.options := by
      rw [paddedOptions, padding_of_words words, replicate_zero, append_nil]
    refine ⟨?_, ?_, ?_, words, fun option mem => ?_⟩
    · by_contra long
      rw [paddedLength] at short
      omega
    · rw [← recovers.ecnBit, eq]
      rfl
    · rw [← recovers.eceBit, eq]
      rfl
    · obtain ⟨count, same⟩ := recovers.options
      have parsedOptions : parsed.options = tcpseg.options.map cutOption := by
        rw [eq, ← noPadding]
        rfl
      rw [parsedOptions] at same
      have lengths := congrArg List.length same
      rw [length_map, length_append, length_replicate] at lengths
      have zero : count = 0 := by omega
      rw [zero, replicate_zero, append_nil] at same
      refine (cutOption_eq_iff (built.options option mem)).mp ?_
      exact map_inj_left.mp (same.trans (map_id _).symm) option mem
  · intro said
    have same : (paddedOptions tcpseg).map cutOption = tcpseg.options := by
      rw [paddedOptions, padding_of_words said.words, replicate_zero, append_nil]
      refine (map_congr_left fun option mem => ?_).trans (map_id _)
      exact (cutOption_eq_iff (built.options option mem)).mpr (said.values option mem)
    have enough : ¬ tcpseg.byteLength % 2 ^ 32 < TCP_HEADER_OCTETS + paddedLength tcpseg := by
      have length := said.length
      rw [paddedLength, padding_of_words said.words]
      omega
    rw [if_neg enough, same]
    exact ⟨_, rfl, written.recovers built said⟩

lemma Written.roundTrips (built : IsBuilt tcpseg) :
    RoundTrips tcpseg buf (.ok (UInt32.ofNat tcpseg.byteLength, mem)) ↔ Said tcpseg := by
  rw [← written.recovers_iff built]
  constructor
  · intro ⟨writtenbytes, mem', parsed, run, ok, recovers⟩
    cases run
    exact ⟨parsed, ok, recovers⟩
  · intro ⟨parsed, ok, recovers⟩
    exact ⟨_, _, parsed, rfl, ok, recovers⟩

omit written

/-- A segment is recovered from its bytes, with or without a checksum in them, if and only if the
bytes say all of it. -/
theorem roundTrips_iff_said (built : IsBuilt tcpseg) (mem : Memory) (buf : ℕ) :
    (RoundTrips tcpseg buf (serialize tcpseg mem buf) ↔ Said tcpseg) ∧
      ∀ srcIp destIp : List UInt32, srcIp.length = destIp.length →
        (RoundTrips tcpseg buf (serialize1 tcpseg mem buf srcIp destIp) ↔ Said tcpseg) ∧
          (RoundTrips tcpseg buf (serialize2 tcpseg mem buf srcIp destIp) ↔ Said tcpseg) := by
  refine ⟨?_, fun srcIp destIp same => ⟨?_, ?_⟩⟩
  · obtain ⟨mem', run, written, -⟩ := built.serialize mem buf
    rw [run]
    exact written.roundTrips built
  · obtain ⟨mem', run, written, -⟩ := built.serializeWithChecksum IP_PROT_TCP mem buf same
    rw [serialize1, run]
    exact written.roundTrips built
  · obtain ⟨mem', run, written, -⟩ := built.serializeWithChecksum IP_PROT_TCP2 mem buf same
    rw [serialize2, run]
    exact written.roundTrips built

/-- A segment with timestamps and three bytes of data, which echoes ECN or not. -/
def echoSegment (eceBit : Bool) : TCPPacket where
  srcPort := 1000
  destPort := 80
  sequenceNo := 4294967295
  ackNo := 17
  headerLength := 32
  ackBit := true
  eceBit := eceBit
  window := 8760
  options := [⟨.noOperation, 1, []⟩, ⟨.noOperation, 1, []⟩, ⟨.timestamp, 10, [70000, 3]⟩]
  payloadLength := 3
  byteArray := ⟨[1, 2, 3], by decide⟩
  byteLength := 35

lemma isBuilt_echoSegment (eceBit : Bool) : IsBuilt (echoSegment eceBit) where
  options := by
    cases eceBit <;> decide
  optionsArrayLength := by
    cases eceBit <;> decide
  headerLength := rfl
  payload := rfl
  byteLength := rfl

theorem roundTrips_echoSegment :
    RoundTrips (echoSegment false) 0 (serialize (echoSegment false) (fun _ => 0) 0) := by
  refine (roundTrips_iff_said (isBuilt_echoSegment false) (fun _ => 0) 0).1.mpr
    ⟨by decide, rfl, rfl, ?_, ?_⟩
  · decide
  · decide

/-- The echo is not in the bytes. -/
theorem echo_lost : IsBuilt (echoSegment true) ∧
    ¬ RoundTrips (echoSegment true) 0 (serialize (echoSegment true) (fun _ => 0) 0) := by
  refine ⟨isBuilt_echoSegment true, ?_⟩
  intro ⟨writtenbytes, mem, parsed, _, ok, recovers⟩
  have echo := recovers.eceBit
  rw [eceBit_parse ok] at echo
  cases echo

end Inet.TCPSerializer
