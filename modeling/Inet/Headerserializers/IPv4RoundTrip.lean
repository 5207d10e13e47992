import Inet.Headerserializers.IPv4HeaderCodec
import Inet.Headerserializers.TCPRoundTrip

/-!
# IPv4 datagrams on the wire

When a datagram with an UDP packet, an echo or a TCP segment is parsed from its bytes as it was. The
header's numbers have fixed widths, and each packet says its length in its own way.
-/

namespace Inet.IPv4Serializer

open ICMPSerializer Memory UInt32

variable {IGMPMessage SCTPMessage : Type} {igmp : MessageSerializer IGMPMessage}
  {sctp : MessageSerializer SCTPMessage} {d : IPv4Header} {byteLength : ℕ}
  {contents encapPacket : Packet IGMPMessage SCTPMessage} {mem mem' : Memory} {buf : ℕ}

/-- The packets in such datagrams, with their protocols. -/
inductive Carries : ℤ → Packet IGMPMessage SCTPMessage → Prop where
  | udp (packet : UDPPacket) : Carries IP_PROT_UDP (.udp packet)
  | echo {type : ℤ} (code : ℤ) {byteLength : ℕ} {pp : PingPayload}
      (echo : type = ICMP_ECHO_REQUEST ∨ type = ICMP_ECHO_REPLY)
      (encapsulated : pp.byteLength ≤ byteLength) (size : pp.data.length < 4294967296) :
      Carries IP_PROT_ICMP (.icmp type code byteLength (.ping pp))
  | tcp {tcpseg : TCPPacket} (segment : TCPSerializer.IsSegment tcpseg) :
      Carries IP_PROT_TCP.toNat (.tcp tcpseg)
  | tcp2 {tcpseg : TCPPacket} (segment : TCPSerializer.IsSegment tcpseg) :
      Carries IP_PROT_TCP2.toNat (.tcp tcpseg)

/-- A datagram without options. -/
structure IsDatagram (igmp : MessageSerializer IGMPMessage) (sctp : MessageSerializer SCTPMessage)
    (dgram : IPv4Header) (byteLength : ℕ) (contents : Packet IGMPMessage SCTPMessage) : Prop where
  headerLength : dgram.headerLength = 20
  fragmentOffset : ∃ k : ℕ, k < 8192 ∧ dgram.fragmentOffset = 8 * k
  carries : Carries dgram.transportProtocol contents
  byteLength : byteLength = 20 + getByteLength igmp sctp contents

/-- A packet of the same kind, with the same ports or identifier and sequence number, and the same
length. -/
def SameContents : Packet IGMPMessage SCTPMessage → Packet IGMPMessage SCTPMessage → Prop
  | .udp packet, .udp parsed =>
      parsed.sourcePort = packet.sourcePort ∧ parsed.destinationPort = packet.destinationPort ∧
        parsed.byteLength = packet.byteLength
  | .icmp type _ byteLength (.ping pp), .icmp type' _ byteLength' (.ping pp') =>
      type' = type ∧ pp'.originatorId = pp.originatorId ∧ pp'.seqNo = pp.seqNo ∧
        byteLength' = byteLength
  | .tcp tcpseg, .tcp parsed =>
      parsed.srcPort = tcpseg.srcPort ∧ parsed.destPort = tcpseg.destPort ∧
        parsed.byteLength = tcpseg.byteLength
  | _, _ => False

/-- The bytes written are as many as the datagram has, and are parsed to its fields and contents. -/
def RoundTrips (igmp : MessageSerializer IGMPMessage) (sctp : MessageSerializer SCTPMessage)
    (dgram : IPv4Header) (byteLength : ℕ) (contents : Packet IGMPMessage SCTPMessage) (buf : ℕ)
    (written : Except SimError (UInt32 × Memory)) : Prop :=
  ∃ packetLength mem parsed parsedLength encapPacket, written = .ok (packetLength, mem) ∧
    packetLength.toNat = byteLength ∧
    parse igmp sctp mem buf packetLength = .ok (.ipv4 parsed parsedLength encapPacket) ∧
    RecoversFields dgram parsed ∧ SameContents contents encapPacket

/-- The bytes of data that are written for an echo. -/
def echoLength (type : ℤ) (pp : PingPayload) : ℤ :=
  if type = ICMP_ECHO_REQUEST then pp.byteLength - 4 else pp.data.length

/-- The bytes say the length of the contents. -/
def ContentsSaid (protocol : ℤ) : Packet IGMPMessage SCTPMessage → Prop
  | .udp packet => packet.byteLength = 8
  | .icmp type _ byteLength (.ping pp) =>
      0 ≤ echoLength type pp ∧ byteLength = 8 + echoLength type pp ∧
        (0 ≤ pp.originatorId ∧ pp.originatorId < 65536) ∧ 0 ≤ pp.seqNo ∧ pp.seqNo < 65536
  | .tcp tcpseg =>
      protocol = IP_PROT_TCP.toNat ∧
        TCPSerializer.padding tcpseg.getOptionsArrayLength ≤ tcpseg.payloadLength
  | _ => False

/-- The bytes say all of the datagram. -/
structure Said (dgram : IPv4Header) (byteLength : ℕ)
    (contents : Packet IGMPMessage SCTPMessage) : Prop where
  identification : 0 ≤ dgram.identification ∧ dgram.identification < 65536
  timeToLive : 0 ≤ dgram.timeToLive ∧ dgram.timeToLive < 256
  byteLength : byteLength < 65536
  contents : ContentsSaid dgram.transportProtocol contents

/-- The length that `parse` finds for the contents. -/
def encapLength (totalLength : UInt32) : UInt32 := totalLength.toUInt16.toUInt32 - IP_HEADER_BYTES

lemma Carries.protocol (carries : Carries d.transportProtocol contents) :
    ((UInt8.ofInt d.transportProtocol).toNat : ℤ) = d.transportProtocol := by
  rw [toNat_ofInt8]
  generalize d.transportProtocol = protocol at carries
  cases carries <;> rfl

/-- How a datagram is parsed whose header is in memory. -/
lemma Header.parse (header : Header d mem buf)
    (carries : Carries d.transportProtocol contents) {packetLength : UInt32}
    (ip_len : mem.load16 (buf + 2) = packetLength.toUInt16) :
    parse igmp sctp mem buf packetLength =
      (parsePacket igmp sctp d.transportProtocol mem (buf + 20) (encapLength packetLength)).map
        fun encapPacket => .ipv4 (parsedHeader mem buf) (20 + getByteLength igmp sctp encapPacket)
          encapPacket := by
  have total : (if packetLength.toUInt16.toUInt32 ≤ packetLength then packetLength.toUInt16.toUInt32
      else packetLength) = packetLength.toUInt16.toUInt32 := by
    refine if_pos ?_
    rw [le_iff_toNat_le]
    exact Nat.mod_le _ _
  have protocol : (parsedHeader mem buf).transportProtocol = d.transportProtocol := by
    change ((mem (buf + 9)).toNat : ℤ) = _
    rw [header.ip_p, carries.protocol]
  rw [IPv4Serializer.parse, header.ip_hl, ip_len, total, protocol]
  rfl

lemma finish_roundTrips (dg : IsDatagram igmp sctp d byteLength contents)
    (before : ∀ i < 20, mem' (buf + i) = storeHeader d mem buf (buf + i))
    (hasCalcChkSum : Bool) (packetLength : UInt32) :
    ∃ mem₂, (∀ i, mem₂ (buf + 20 + i) = mem' (buf + 20 + i)) ∧
      (RoundTrips igmp sctp d byteLength contents buf
          (.ok (finishHeader hasCalcChkSum buf packetLength mem')) ↔
        (IP_HEADER_BYTES + packetLength).toNat = byteLength ∧
          ((0 ≤ d.identification ∧ d.identification < 65536) ∧
            0 ≤ d.timeToLive ∧ d.timeToLive < 256) ∧
          ∃ encapPacket, parsePacket igmp sctp d.transportProtocol mem₂ (buf + 20)
              (encapLength (IP_HEADER_BYTES + packetLength)) = .ok encapPacket ∧
            SameContents contents encapPacket) := by
  obtain ⟨length, ip_len, same⟩ := finishHeader_spec hasCalcChkSum buf packetLength mem'
  obtain ⟨k, lt, offset⟩ := dg.fragmentOffset
  have first : Header d (storeHeader d mem buf) buf := header_storeHeader
  have header := (first.congr fun i lt _ _ _ _ => before i lt).congr
    fun i _ ne₁ ne₂ ne₃ ne₄ => same i ne₁ ne₂ ne₃ ne₄
  have parsed := @Header.parse _ _ igmp sctp _ _ _ _ header dg.carries _ ip_len
  refine ⟨(finishHeader hasCalcChkSum buf packetLength mem').2, fun i => ?_, ?_⟩
  · rw [Nat.add_assoc]
    exact same (20 + i) (by omega) (by omega) (by omega) (by omega)
  rw [← header.recoversFields_iff lt offset]
  constructor
  · intro ⟨packetLength', mem'', parsed', parsedLength, encapPacket, run, lengths, ok, fields, kept⟩
    have pair := Except.ok.inj run
    obtain ⟨rfl, rfl⟩ : (finishHeader hasCalcChkSum buf packetLength mem').1 = packetLength' ∧
        (finishHeader hasCalcChkSum buf packetLength mem').2 = mem'' := by
      rw [pair]
      exact ⟨rfl, rfl⟩
    rw [length] at lengths ok
    rw [parsed] at ok
    obtain ⟨encapPacket', p, eq⟩ := Except.map_eq_ok ok
    cases eq
    exact ⟨lengths, fields, _, p, kept⟩
  · intro ⟨lengths, fields, encapPacket, ok, kept⟩
    rw [ok] at parsed
    exact ⟨_, _, _, _, encapPacket, rfl, lengths, parsed, fields, kept⟩

/-- The header of an UDP packet is in memory, without the checksum. -/
structure UDPHeader (packet : UDPPacket) (mem : Memory) (buf : ℕ) : Prop where
  uh_sport : mem.load16 buf = packet.sourcePort
  uh_dport : mem.load16 (buf + 2) = packet.destinationPort
  uh_ulen : mem.load16 (buf + 4) = (UInt32.ofNat packet.byteLength).toUInt16

lemma UDPHeader.congr {p : UDPPacket} (header : UDPHeader p mem buf)
    (same : ∀ i < 6, mem' (buf + i) = mem (buf + i)) : UDPHeader p mem' buf := by
  have loads : ∀ pos count, pos + count ≤ 6 → mem'.load (buf + pos) count = mem.load (buf + pos) count := by
    intro pos count le
    refine load_congr fun i lt => ?_
    rw [Nat.add_assoc]
    exact same (pos + i) (by omega)
  constructor
  case uh_sport =>
    have eq := loads 0 2 (by decide)
    rw [Nat.add_zero] at eq
    rw [Memory.load16, eq]
    exact header.uh_sport
  case uh_dport =>
    rw [Memory.load16, loads 2 2 (by decide)]
    exact header.uh_dport
  case uh_ulen =>
    rw [Memory.load16, loads 4 2 (by decide)]
    exact header.uh_ulen

lemma udpHeader_serialize (p : UDPPacket) (mem : Memory) (buf : ℕ) :
    UDPHeader p (UDPSerializer.serialize p mem buf).2 buf ∧
      ∀ i < buf, (UDPSerializer.serialize p mem buf).2 i = mem i := by
  have apart : ∀ value : UInt16, (bigEndian 2 value.toNat).length = 2 := fun _ => length_bigEndian _ _
  constructor
  · constructor
    all_goals
      simp (disch := omega) only [UDPSerializer.serialize, TCPIPchecksum.storeWord, Memory.load16,
        load_store_of_disjoint, load_store16]
      exact load16_store16
  · intro i lt
    rw [UDPSerializer.serialize]
    dsimp only
    rw [TCPIPchecksum.storeWord, store_of_disjoint (by omega),
      store16_of_disjoint (by omega), store16_of_disjoint (by omega),
      store16_of_disjoint (by omega)]

variable {bufsize : UInt32}

lemma roundTrips_udp {p : UDPPacket} (udp : contents = .udp p)
    (dg : IsDatagram igmp sctp d byteLength contents) (mem : Memory) (buf : ℕ)
    (fits : byteLength ≤ bufsize.toNat) (hasCalcChkSum : Bool) :
    RoundTrips igmp sctp d byteLength contents buf
        (serialize igmp sctp (.ipv4 d byteLength contents) mem buf bufsize hasCalcChkSum) ↔
      Said d byteLength contents := by
  subst udp
  have protocol : d.transportProtocol = IP_PROT_UDP := by
    have carries := dg.carries
    generalize d.transportProtocol = protocol at carries
    cases carries
    rfl
  have length : byteLength = 20 + p.byteLength := dg.byteLength
  have small := bufsize.toNat_lt
  have run : serialize igmp sctp (.ipv4 d byteLength (.udp p)) mem buf bufsize
      hasCalcChkSum = .ok (finishHeader hasCalcChkSum buf (UInt32.ofNat p.byteLength)
        (UDPSerializer.serialize p (storeHeader d mem buf) (buf + 20)).2) := by
    rw [serialize, protocol, serialize]
    · rfl
    · intro _ same
      cases same
  obtain ⟨header, before⟩ := udpHeader_serialize p (storeHeader d mem buf) (buf + 20)
  obtain ⟨mem₂, same, iff⟩ := finish_roundTrips dg (fun i lt => before (buf + i) (by omega))
    hasCalcChkSum (UInt32.ofNat p.byteLength)
  have final := header.congr fun i _ => same i
  rw [run, iff]
  have packetLength : (IP_HEADER_BYTES + UInt32.ofNat p.byteLength).toNat = byteLength := by
    change (20 + p.byteLength % 2 ^ 32) % 2 ^ 32 = _
    omega
  have ulen : (UInt32.ofNat p.byteLength).toUInt16.toNat = p.byteLength % 65536 := by
    change p.byteLength % 2 ^ 32 % 2 ^ 16 = _
    omega
  have parsed : parsePacket igmp sctp d.transportProtocol mem₂ (buf + 20)
      (encapLength (IP_HEADER_BYTES + UInt32.ofNat p.byteLength)) =
        (UDPSerializer.parse mem₂ (buf + 20)).map .udp := by
    rw [protocol]
    rfl
  rw [parsed, UDPSerializer.parse, final.uh_ulen, final.uh_sport, final.uh_dport]
  constructor
  · intro ⟨_, fields, encapPacket, ok, kept⟩
    obtain ⟨p', run, rfl⟩ := Except.map_eq_ok ok
    dsimp only at run
    split_ifs at run
    cases run
    have eight : p.byteLength = 8 := kept.2.2.symm
    exact ⟨fields.1, fields.2, by omega, eight⟩
  · intro said
    have eight : p.byteLength = 8 := said.contents
    refine ⟨packetLength, ⟨said.identification, said.timeToLive⟩, ?_⟩
    rw [if_neg (by rw [UInt16.lt_iff_toNat_lt, ulen, eight]; decide)]
    exact ⟨_, rfl, rfl, rfl, eight.symm⟩

/-! ## ICMP -/

/-- An echo is in memory, without the checksum. -/
structure Echo (type : ℤ) (pp : PingPayload) (mem : Memory) (buf : ℕ) : Prop where
  icmp_type : mem buf = if type = ICMP_ECHO_REQUEST then ICMP_ECHO else ICMP_ECHOREPLY
  icmp_id : mem.load16 (buf + 4) = UInt16.ofInt pp.originatorId
  icmp_seq : mem.load16 (buf + 6) = UInt16.ofInt pp.seqNo

variable {type : ℤ} {pp : PingPayload}

lemma Echo.congr (echo : Echo type pp mem buf)
    (same : ∀ i < 8, i ≠ 2 → i ≠ 3 → mem' (buf + i) = mem (buf + i)) : Echo type pp mem' buf := by
  have loads : ∀ pos, 4 ≤ pos → pos ≤ 6 → mem'.load (buf + pos) 2 = mem.load (buf + pos) 2 := by
    intro pos ge le
    refine load_congr fun i lt => ?_
    rw [Nat.add_assoc]
    exact same (pos + i) (by omega) (by omega) (by omega)
  constructor
  case icmp_type => exact (same 0 (by decide) nofun nofun).trans echo.icmp_type
  case icmp_id =>
    rw [Memory.load16, loads 4 (by decide) (by decide)]
    exact echo.icmp_id
  case icmp_seq =>
    rw [Memory.load16, loads 6 (by decide) (by decide)]
    exact echo.icmp_seq

lemma storeEcho_spec (pp : PingPayload) (datalen : UInt32) (mem : Memory) (buf : ℕ)
    (bufsize : UInt32) {icmp_type : UInt8}
    (wire : icmp_type = if type = ICMP_ECHO_REQUEST then ICMP_ECHO else ICMP_ECHOREPLY) :
    ∃ mem', Echo type pp mem' buf ∧ (∀ i < buf, mem' i = mem i) ∧
      storeEcho icmp_type pp datalen mem buf bufsize =
        if bufsize.toNat < 8 + datalen.toNat then .error (.undefinedBehavior "icmp->icmp_data[i]")
        else .ok (ICMP_MINLEN + datalen, mem') := by
  refine ⟨_, ?_, fun i lt => ?_, rfl⟩
  · constructor
    case icmp_type =>
      rw [store_of_disjoint (by omega), store16_of_disjoint (by omega),
        store16_of_disjoint (by omega), storeType, store8_of_ne (by omega),
        store8_self, wire]
    all_goals
      simp (disch := omega) only [Memory.load16, load_store_of_disjoint, load_store16]
      exact load16_store16
  · rw [store_of_disjoint (by omega), store16_of_disjoint (by omega),
      store16_of_disjoint (by omega), storeType, store8_of_ne (by omega),
      store8_of_ne (by omega)]

lemma Echo.parse (echo : Echo type pp mem buf)
    (isEcho : type = ICMP_ECHO_REQUEST ∨ type = ICMP_ECHO_REPLY) (bufsize : UInt32) :
    (ICMPSerializer.parse mem buf bufsize : Except SimError (Packet IGMPMessage SCTPMessage)) =
      parseEcho type mem buf bufsize := by
  have icmp_type := echo.icmp_type
  rcases isEcho with rfl | rfl
  · rw [ICMPSerializer.parse, icmp_type]
    rfl
  · rw [ICMPSerializer.parse, icmp_type]
    rfl

/-- What the code takes for the length of the data. -/
def datalen (type : ℤ) (pp : PingPayload) : UInt32 :=
  if type = ICMP_ECHO_REQUEST then UInt32.ofInt (pp.byteLength - 4) else UInt32.ofNat pp.data.length

lemma storeMessage_echo {code : ℤ}
    {serializeDatagram : Memory → ℕ → UInt32 → Except SimError (UInt32 × Memory)}
    (isEcho : type = ICMP_ECHO_REQUEST ∨ type = ICMP_ECHO_REPLY) :
    storeMessage type code (.ping pp : Packet IGMPMessage SCTPMessage) serializeDatagram mem buf
        bufsize =
      storeEcho (if type = ICMP_ECHO_REQUEST then ICMP_ECHO else ICMP_ECHOREPLY) pp
        (datalen type pp) mem buf bufsize := by
  rcases isEcho with rfl | rfl
  · rfl
  · rfl

lemma toNat_datalen (type : ℤ) (pp : PingPayload) :
    ((datalen type pp).toNat : ℤ) = echoLength type pp % 4294967296 := by
  rw [datalen, echoLength]
  split_ifs
  · rw [UInt32.ofInt, toNat_ofNat']
    omega
  · rw [toNat_ofNat']
    omega

lemma toNat_encapLength (totalLength : UInt32) :
    (encapLength totalLength).toNat = (4294967276 + totalLength.toNat % 65536) % 4294967296 := by
  rw [encapLength, UInt32.toNat_sub]
  rfl

lemma serialize_echo {code : ℤ} {icmpLength : ℕ}
    (echo : contents = .icmp type code icmpLength (.ping pp))
    (isEcho : type = ICMP_ECHO_REQUEST ∨ type = ICMP_ECHO_REPLY)
    (protocol : d.transportProtocol = IP_PROT_ICMP) (mem : Memory) (buf : ℕ) (bufsize : UInt32)
    (hasCalcChkSum : Bool) :
    ∃ mem', Echo type pp mem' (buf + 20) ∧ (∀ i < buf + 20, mem' i = storeHeader d mem buf i) ∧
      serialize igmp sctp (.ipv4 d byteLength contents) mem buf bufsize hasCalcChkSum =
        if (bufsize - IP_HEADER_BYTES).toNat < 8 + (datalen type pp).toNat then
          .error (.undefinedBehavior "icmp->icmp_data[i]")
        else .ok (finishHeader hasCalcChkSum buf (ICMP_MINLEN + datalen type pp) mem') := by
  subst echo
  obtain ⟨mem₁, written, before, run⟩ := storeEcho_spec pp (datalen type pp)
    (storeHeader d mem buf) (buf + 20) (bufsize - IP_HEADER_BYTES) rfl
  refine ⟨TCPIPchecksum.storeWord mem₁ (buf + 20 + 2) (TCPIPchecksum.checksum mem₁ (buf + 20)
    (ICMP_MINLEN + datalen type pp).toNat), ?_, fun i lt => ?_, ?_⟩
  · refine written.congr fun i _ _ _ => store_of_disjoint ?_
    change _ ∨ buf + 20 + 2 + 2 ≤ _
    omega
  · rw [TCPIPchecksum.storeWord, store_of_disjoint (by omega), before i lt]
  · rw [serialize, protocol, serialize, storeMessage_echo isEcho, run]
    · change Except.map _ (Except.map _ _) = _
      split_ifs
      · rfl
      · rfl
    · intro _ same
      cases same

lemma roundTrips_echo {code : ℤ} {icmpLength : ℕ}
    (echo : contents = .icmp type code icmpLength (.ping pp))
    (isEcho : type = ICMP_ECHO_REQUEST ∨ type = ICMP_ECHO_REPLY)
    (encapsulated : pp.byteLength ≤ icmpLength) (size : pp.data.length < 4294967296)
    (protocol : d.transportProtocol = IP_PROT_ICMP)
    (dg : IsDatagram igmp sctp d byteLength contents) (mem : Memory) (buf : ℕ)
    (fits : byteLength ≤ bufsize.toNat) (hasCalcChkSum : Bool) :
    RoundTrips igmp sctp d byteLength contents buf
        (serialize igmp sctp (.ipv4 d byteLength contents) mem buf bufsize hasCalcChkSum) ↔
      Said d byteLength contents := by
  obtain ⟨mem₁, written, before, run⟩ := @serialize_echo _ _ igmp sctp _ byteLength _ _ _ _ _ echo
    isEcho protocol mem buf bufsize hasCalcChkSum
  subst echo
  have length : byteLength = 20 + icmpLength := dg.byteLength
  have small := bufsize.toNat_lt
  have data := toNat_datalen type pp
  have room : (bufsize - IP_HEADER_BYTES).toNat = bufsize.toNat - 20 := by
    rw [UInt32.toNat_sub]
    change (4294967276 + bufsize.toNat) % 4294967296 = _
    omega
  have bounds : -4 ≤ echoLength type pp ∧ echoLength type pp < 4294967296 := by
    rw [echoLength]
    split_ifs <;> omega
  rw [run]
  split_ifs with short
  · constructor
    · intro ⟨_, _, _, _, _, ok, _⟩
      cases ok
    · intro said
      have nonneg : 0 ≤ echoLength type pp := said.contents.1
      have lengths : (icmpLength : ℤ) = 8 + echoLength type pp := said.contents.2.1
      omega
  obtain ⟨mem₂, same, iff⟩ := finish_roundTrips dg (fun i lt => before (buf + i) (by omega))
    hasCalcChkSum (ICMP_MINLEN + datalen type pp)
  have final := written.congr fun i _ _ _ => same i
  have total : (IP_HEADER_BYTES + (ICMP_MINLEN + datalen type pp)).toNat =
      28 + (datalen type pp).toNat := by
    change (20 + (8 + (datalen type pp).toNat) % 4294967296) % 4294967296 = _
    omega
  have encap := toNat_encapLength (IP_HEADER_BYTES + (ICMP_MINLEN + datalen type pp))
  rw [total] at encap
  have parsed : parsePacket igmp sctp d.transportProtocol mem₂ (buf + 20)
      (encapLength (IP_HEADER_BYTES + (ICMP_MINLEN + datalen type pp))) =
        parseEcho type mem₂ (buf + 20)
          (encapLength (IP_HEADER_BYTES + (ICMP_MINLEN + datalen type pp))) := by
    rw [protocol]
    exact final.parse isEcho _
  generalize encapLength (IP_HEADER_BYTES + (ICMP_MINLEN + datalen type pp)) = rest at encap parsed iff
  rw [iff, total, parsed, parseEcho, final.icmp_id, final.icmp_seq]
  have restLength : ICMP_MINLEN ≤ rest → (rest - 4).toNat = rest.toNat - 4 := by
    intro long
    rw [le_iff_toNat_le] at long
    change 8 ≤ rest.toNat at long
    have lt := rest.toNat_lt
    rw [UInt32.toNat_sub]
    change (4294967292 + rest.toNat) % 4294967296 = _
    omega
  have few : rest < ICMP_MINLEN ↔ rest.toNat < 8 := lt_iff_toNat_lt
  have originatorId := toNat_ofInt16 pp.originatorId
  have seqNo := toNat_ofInt16 pp.seqNo
  constructor
  · intro ⟨lengths, fields, encapPacket, ok, kept⟩
    split_ifs at ok with none_
    cases ok
    obtain ⟨-, sameId, sameSeq, sameLength⟩ := kept
    dsimp only at sameId sameSeq
    have long : ICMP_MINLEN ≤ rest := UInt32.not_lt.mp none_
    rw [restLength long] at sameLength
    rw [few] at none_
    have inRange : 28 + (datalen type pp).toNat < 65536 := by omega
    exact ⟨fields.1, fields.2, by omega, by omega, by omega, by omega, by omega⟩
  · intro said
    obtain ⟨nonneg, lengths, id, seq⟩ := said.contents
    have inRange := said.byteLength
    have enough : ¬ rest < ICMP_MINLEN := by
      rw [few]
      omega
    refine ⟨by omega, ⟨said.identification, said.timeToLive⟩, ?_⟩
    rw [if_neg enough]
    refine ⟨_, rfl, rfl, ?_, ?_, ?_⟩
    · exact originatorId.trans (Int.emod_eq_of_lt id.1 id.2)
    · exact seqNo.trans (Int.emod_eq_of_lt seq.1 seq.2)
    rw [restLength (UInt32.not_lt.mp enough)]
    omega

/-! ## TCP -/

lemma serialize_tcp {seg : TCPPacket} (tcp : contents = .tcp seg)
    (segment : TCPSerializer.IsSegment seg) (protocol : d.transportProtocol = IP_PROT_TCP.toNat ∨
      d.transportProtocol = IP_PROT_TCP2.toNat) (mem : Memory) (buf : ℕ) (bufsize : UInt32)
    (hasCalcChkSum : Bool) :
    ∃ mem', TCPSerializer.Written seg mem' (buf + 20) ∧
      (∀ i < buf + 20, mem' i = storeHeader d mem buf i) ∧
      serialize igmp sctp (.ipv4 d byteLength contents) mem buf bufsize hasCalcChkSum =
        .ok (finishHeader hasCalcChkSum buf (UInt32.ofNat seg.byteLength) mem') := by
  subst tcp
  have addresses : [addressWord d.srcAddress].length = [addressWord d.destAddress].length := rfl
  rcases protocol with protocol | protocol
  · obtain ⟨mem', run, written, before⟩ := segment.serializeWithChecksum IP_PROT_TCP
      (storeHeader d mem buf) (buf + 20) addresses
    refine ⟨mem', written, before, ?_⟩
    rw [serialize, protocol]
    change Except.map _ (TCPSerializer.serialize1 _ _ _ _ _) = _
    rw [TCPSerializer.serialize1, run]
    rfl
  · obtain ⟨mem', run, written, before⟩ := segment.serializeWithChecksum IP_PROT_TCP2
      (storeHeader d mem buf) (buf + 20) addresses
    refine ⟨mem', written, before, ?_⟩
    rw [serialize, protocol]
    change Except.map _ (TCPSerializer.serialize2 _ _ _ _ _) = _
    rw [TCPSerializer.serialize2, run]
    rfl

lemma roundTrips_tcp {seg : TCPPacket} (tcp : contents = .tcp seg)
    (segment : TCPSerializer.IsSegment seg) (protocol : d.transportProtocol = IP_PROT_TCP.toNat ∨
      d.transportProtocol = IP_PROT_TCP2.toNat)
    (dg : IsDatagram igmp sctp d byteLength contents) (mem : Memory) (buf : ℕ)
    (fits : byteLength ≤ bufsize.toNat) (hasCalcChkSum : Bool) :
    RoundTrips igmp sctp d byteLength contents buf
        (serialize igmp sctp (.ipv4 d byteLength contents) mem buf bufsize hasCalcChkSum) ↔
      Said d byteLength contents := by
  obtain ⟨mem₁, written, before, run⟩ := @serialize_tcp _ _ igmp sctp _ byteLength _ _ tcp segment
    protocol mem buf bufsize hasCalcChkSum
  subst tcp
  have length : byteLength = 20 + seg.byteLength := dg.byteLength
  have small := bufsize.toNat_lt
  obtain ⟨mem₂, same, iff⟩ := finish_roundTrips dg (fun i lt => before (buf + i) (by omega))
    hasCalcChkSum (UInt32.ofNat seg.byteLength)
  have final := written.congr fun i => same i
  have total : (IP_HEADER_BYTES + UInt32.ofNat seg.byteLength).toNat = byteLength := by
    change (20 + seg.byteLength % 4294967296) % 4294967296 = _
    omega
  have encap := toNat_encapLength (IP_HEADER_BYTES + UInt32.ofNat seg.byteLength)
  rw [total] at encap
  rw [run, iff, total]
  generalize encapLength (IP_HEADER_BYTES + UInt32.ofNat seg.byteLength) = rest at encap ⊢
  have segmentLength := segment.byteLength
  have headerLength := segment.headerLength
  have padded : TCPSerializer.paddedLength seg =
    seg.getOptionsArrayLength + TCPSerializer.padding seg.getOptionsArrayLength := rfl
  rcases protocol with protocol | protocol
  · have parsed : parsePacket igmp sctp d.transportProtocol mem₂ (buf + 20) rest =
        (TCPSerializer.parse mem₂ (buf + 20) rest true).map .tcp := by
      rw [protocol]
      rfl
    rw [parsed, final.parse segment]
    constructor
    · intro ⟨_, fields, encapPacket, ok, kept⟩
      obtain ⟨seg', run, rfl⟩ := Except.map_eq_ok ok
      split_ifs at run with short
      cases run
      have sameLength : rest.toNat = seg.byteLength := kept.2.2
      refine ⟨fields.1, fields.2, by omega, protocol, ?_⟩
      omega
    · intro said
      have inRange := said.byteLength
      have pad : TCPSerializer.padding seg.getOptionsArrayLength ≤ seg.payloadLength :=
        said.contents.2
      have sameLength : rest.toNat = seg.byteLength := by omega
      refine ⟨rfl, ⟨said.identification, said.timeToLive⟩, ?_⟩
      rw [if_neg (by omega)]
      exact ⟨_, rfl, final.header.srcPort, final.header.destPort, sameLength⟩
  · constructor
    · intro ⟨_, _, encapPacket, ok, _⟩
      rw [protocol] at ok
      cases ok
    · intro said
      have other : d.transportProtocol = IP_PROT_TCP.toNat := said.contents.1
      rw [protocol] at other
      cases other

/-- A datagram is recovered from its bytes if and only if the bytes say all of it. -/
theorem datagram_roundTrips_iff (dg : IsDatagram igmp sctp d byteLength contents) (mem : Memory)
    (buf : ℕ) {bufsize : UInt32} (fits : byteLength ≤ bufsize.toNat) (hasCalcChkSum : Bool) :
    RoundTrips igmp sctp d byteLength contents buf
        (serialize igmp sctp (.ipv4 d byteLength contents) mem buf bufsize hasCalcChkSum) ↔
      Said d byteLength contents := by
  have carries := dg.carries
  generalize protocol : d.transportProtocol = number at carries
  cases carries with
  | udp p => exact roundTrips_udp rfl dg mem buf fits hasCalcChkSum
  | echo code isEcho encapsulated size =>
    exact roundTrips_echo rfl isEcho encapsulated size protocol dg mem buf fits hasCalcChkSum
  | tcp segment =>
    exact roundTrips_tcp rfl segment (Or.inl protocol) dg mem buf fits hasCalcChkSum
  | tcp2 segment =>
    exact roundTrips_tcp rfl segment (Or.inr protocol) dg mem buf fits hasCalcChkSum

/-- Where there are no messages of a kind. -/
def noMessages : MessageSerializer Empty where
  serialize := nofun
  parse _ _ _ := .error badCast
  getByteLength := nofun

/-- The first of two fragments, with this protocol. -/
def fragment (transportProtocol : ℤ) : IPv4Header where
  version := 4
  headerLength := 20
  srcAddress := 0x0A000001
  destAddress := 0x0A000002
  transportProtocol := transportProtocol
  timeToLive := 32
  identification := 65535
  moreFragments := true
  dontFragment := false
  fragmentOffset := 0
  typeOfService := 0

/-- An echo request with four bytes of data. -/
def request : Packet Empty Empty := .icmp ICMP_ECHO_REQUEST 0 12 (.ping ⟨7, 1, [1, 2, 3, 4], 8⟩)

theorem roundTrips_request : RoundTrips noMessages noMessages (fragment IP_PROT_ICMP) 32 request 0
    (serialize noMessages noMessages (.ipv4 (fragment IP_PROT_ICMP) 32 request) (fun _ => 0) 0 64
      true) := by
  have dg : IsDatagram noMessages noMessages (fragment IP_PROT_ICMP) 32 request :=
    ⟨rfl, ⟨0, by decide, rfl⟩, .echo 0 (Or.inl rfl) (by decide) (by decide), rfl⟩
  refine (datagram_roundTrips_iff dg (fun _ => 0) 0 (by decide) true).mpr ?_
  exact ⟨by decide, by decide, by decide, by decide, by decide, by decide, by decide⟩

/-- The length of four bytes of data is lost. -/
theorem data_without_length :
    IsDatagram noMessages noMessages (fragment IP_PROT_UDP) 32
        (.udp ⟨1000, 2000, some ⟨[1, 2, 3, 4], by decide⟩, 12⟩) ∧
      ¬ RoundTrips noMessages noMessages (fragment IP_PROT_UDP) 32
        (.udp ⟨1000, 2000, some ⟨[1, 2, 3, 4], by decide⟩, 12⟩) 0
        (serialize noMessages noMessages (.ipv4 (fragment IP_PROT_UDP) 32
          (.udp ⟨1000, 2000, some ⟨[1, 2, 3, 4], by decide⟩, 12⟩)) (fun _ => 0) 0 64 true) := by
  have dg : IsDatagram noMessages noMessages (fragment IP_PROT_UDP) 32
      (.udp ⟨1000, 2000, some ⟨[1, 2, 3, 4], by decide⟩, 12⟩) :=
    ⟨rfl, ⟨0, by decide, rfl⟩, .udp _, rfl⟩
  have fits : 32 ≤ (64 : UInt32).toNat := by decide
  refine ⟨dg, fun recovered => ?_⟩
  have said := (roundTrips_udp rfl dg (fun _ => 0) 0 fits true).mp recovered
  have eight : 12 = 8 := said.contents
  cases eight

end Inet.IPv4Serializer
