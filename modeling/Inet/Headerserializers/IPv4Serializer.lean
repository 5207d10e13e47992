import Inet.Headerserializers.TCPSerializer
import Inet.Ipv4.Address

/-!
# IPv4Serializer, with ICMPSerializer and UDPSerializer

The bytes of an IPv4 datagram and of the packet in it. The codecs for IGMP and SCTP messages are
parameters.
-/

namespace Inet

/-! ## Packets -/

structure PingPayload where
  originatorId : ℤ
  seqNo : ℤ
  data : List UInt8
  byteLength : ℕ

structure UDPPacket where
  sourcePort : UInt16
  destinationPort : UInt16
  /-- Of the `ByteArrayMessage` in the packet, if there is one. -/
  byteArray : Option Tcp.ByteArray
  byteLength : ℕ

/-- The fields of an `IPv4Datagram` without options. -/
structure IPv4Header where
  version : ℤ
  headerLength : ℤ
  srcAddress : Ipv4.IPv4Address
  destAddress : Ipv4.IPv4Address
  transportProtocol : ℤ
  timeToLive : ℤ
  identification : ℤ
  moreFragments : Bool
  dontFragment : Bool
  /-- In bytes. -/
  fragmentOffset : ℤ
  typeOfService : UInt8

/-- The packets, with what is encapsulated in them. -/
inductive Packet (IGMPMessage SCTPMessage : Type) where
  /-- `NULL`, where nothing is encapsulated. -/
  | null
  | ping (payload : PingPayload)
  | icmp (type code : ℤ) (byteLength : ℕ) (encapsulated : Packet IGMPMessage SCTPMessage)
  | udp (packet : UDPPacket)
  | tcp (segment : TCPPacket)
  | igmp (message : IGMPMessage)
  | sctp (message : SCTPMessage)
  | ipv4 (header : IPv4Header) (byteLength : ℕ) (encapsulated : Packet IGMPMessage SCTPMessage)

namespace Packet

variable {IGMPMessage SCTPMessage : Type}

def isICMPMessage : Packet IGMPMessage SCTPMessage → Bool
  | .icmp .. => true
  | _ => false

def isIGMPMessage : Packet IGMPMessage SCTPMessage → Bool
  | .igmp _ => true
  | _ => false

def isUDPPacket : Packet IGMPMessage SCTPMessage → Bool
  | .udp _ => true
  | _ => false

def isSCTPMessage : Packet IGMPMessage SCTPMessage → Bool
  | .sctp _ => true
  | _ => false

end Packet

/-- A serializer for messages of one type. -/
structure MessageSerializer (Message : Type) where
  serialize : Message → Memory → ℕ → UInt32 → Except SimError (UInt32 × Memory)
  parse : Memory → ℕ → UInt32 → Except SimError Message
  getByteLength : Message → ℕ

def IP_HEADER_BYTES : UInt32 := 20

def IP_PROT_ICMP : ℤ := 1

def IP_PROT_IGMP : ℤ := 2

def IP_PROT_UDP : ℤ := 17

def IP_PROT_SCTP : ℤ := 132

namespace UDPSerializer

def serialize (pkt : UDPPacket) (mem : Memory) (buf : ℕ) : UInt32 × Memory :=
  let packetLength := UInt32.ofNat pkt.byteLength
  let mem := mem.store16 buf pkt.sourcePort
  let mem := mem.store16 (buf + 2) pkt.destinationPort
  let mem := mem.store16 (buf + 4) packetLength.toUInt16
  (packetLength, TCPIPchecksum.storeWord mem (buf + 6)
    (TCPIPchecksum.checksum mem buf packetLength.toNat))

/-- The `ByteArrayMessage` in the packet has no length of its own. -/
def parse (mem : Memory) (buf : ℕ) : Except SimError UDPPacket :=
  let uh_ulen := mem.load16 (buf + 4)
  if uh_ulen < 8 then .error (.undefinedBehavior "memcpy(data_var, ptr, length)")
  else
    let length := uh_ulen.toUInt32 - 8
    .ok {
      sourcePort := mem.load16 buf
      destinationPort := mem.load16 (buf + 2)
      byteArray := some (.setDataFromBuffer (mem.load (buf + 8) length.toNat) length)
      byteLength := 8 }

end UDPSerializer

namespace ICMPSerializer

def ICMP_DESTINATION_UNREACHABLE : ℤ := 13

def ICMP_TIME_EXCEEDED : ℤ := 11

def ICMP_ECHO_REQUEST : ℤ := 128

def ICMP_ECHO_REPLY : ℤ := 129

/-- The types on the wire. -/
def ICMP_ECHOREPLY : UInt8 := 0

def ICMP_UNREACH : UInt8 := 3

def ICMP_ECHO : UInt8 := 8

def ICMP_TIMXCEED : UInt8 := 11

def ICMP_TIMXCEED_INTRANS : UInt8 := 0

def ICMP_MINLEN : UInt32 := 8

def storeType (mem : Memory) (buf : ℕ) (type code : UInt8) : Memory :=
  (mem.store8 buf type).store8 (buf + 1) code

/-- An echo with so many bytes of data; the loop over the data must not leave the buffer. -/
def storeEcho (type : UInt8) (pp : PingPayload) (datalen : UInt32) (mem : Memory) (buf : ℕ)
    (bufsize : UInt32) : Except SimError (UInt32 × Memory) :=
  let mem := storeType mem buf type 0
  let mem := mem.store16 (buf + 4) (UInt16.ofInt pp.originatorId)
  let mem := mem.store16 (buf + 6) (UInt16.ofInt pp.seqNo)
  if bufsize.toNat < ICMP_MINLEN.toNat + datalen.toNat then
    .error (.undefinedBehavior "icmp->icmp_data[i]")
  else
    .ok (ICMP_MINLEN + datalen, mem.store (buf + 8)
      ((List.range datalen.toNat).map fun i => pp.data.getD i 'a'.toUInt8))

/-- What is written before the checksum. -/
def storeMessage {IGMPMessage SCTPMessage : Type} (type code : ℤ)
    (encapsulated : Packet IGMPMessage SCTPMessage)
    (serializeDatagram : Memory → ℕ → UInt32 → Except SimError (UInt32 × Memory)) (mem : Memory)
    (buf : ℕ) (bufsize : UInt32) : Except SimError (UInt32 × Memory) :=
  if type = ICMP_ECHO_REQUEST then
    match encapsulated with
    | .ping pp => storeEcho ICMP_ECHO pp (UInt32.ofInt (pp.byteLength - 4)) mem buf bufsize
    | _ => .error (.runtimeError "check_and_cast")
  else if type = ICMP_ECHO_REPLY then
    match encapsulated with
    | .ping pp => storeEcho ICMP_ECHOREPLY pp (UInt32.ofNat pp.data.length) mem buf bufsize
    | _ => .error (.runtimeError "check_and_cast")
  else if type = ICMP_DESTINATION_UNREACHABLE then do
    let (packetLength, mem) ← serializeDatagram (storeType mem buf ICMP_UNREACH (UInt8.ofInt code))
      (buf + 8) (bufsize - ICMP_MINLEN)
    return (ICMP_MINLEN + packetLength, mem)
  else if type = ICMP_TIME_EXCEEDED then do
    let (packetLength, mem) ← serializeDatagram
      (storeType mem buf ICMP_TIMXCEED ICMP_TIMXCEED_INTRANS) (buf + 8) (bufsize - ICMP_MINLEN)
    return (ICMP_MINLEN + packetLength, mem)
  else .ok (0, mem)

variable {IGMPMessage SCTPMessage : Type}

def parseEcho (type : ℤ) (mem : Memory) (buf : ℕ) (bufsize : UInt32) :
    Except SimError (Packet IGMPMessage SCTPMessage) :=
  if bufsize < ICMP_MINLEN then .error (.undefinedBehavior "icmp->icmp_data[i]")
  else
    let byteLength := (bufsize - 4).toNat
    .ok (.icmp type 0 (4 + byteLength) (.ping {
      originatorId := (mem.load16 (buf + 4)).toNat
      seqNo := (mem.load16 (buf + 6)).toNat
      data := mem.load (buf + 8) (bufsize - ICMP_MINLEN).toNat
      byteLength := byteLength }))

def parse (mem : Memory) (buf : ℕ) (bufsize : UInt32) :
    Except SimError (Packet IGMPMessage SCTPMessage) :=
  if mem buf = ICMP_ECHO then parseEcho ICMP_ECHO_REQUEST mem buf bufsize
  else if mem buf = ICMP_ECHOREPLY then parseEcho ICMP_ECHO_REPLY mem buf bufsize
  else .ok (.icmp 0 0 0 .null)

end ICMPSerializer

/-! ## IPv4 -/

namespace IPv4Serializer

def IP_DF : UInt16 := 0x4000

def IP_MF : UInt16 := 0x2000

def IP_OFFMASK : UInt16 := 0x1fff

def addressWord (addr : Ipv4.IPv4Address) : UInt32 := UInt32.ofNat addr.toNat

def headerOff (dgram : IPv4Header) : UInt16 :=
  let ip_off := UInt16.ofInt (dgram.fragmentOffset.tdiv 8)
  let ip_off := if dgram.moreFragments then ip_off ||| IP_MF else ip_off
  if dgram.dontFragment then ip_off ||| IP_DF else ip_off

/-- The structure `ip`, without length and checksum. -/
def storeHeader (dgram : IPv4Header) (mem : Memory) (buf : ℕ) : Memory :=
  let mem := mem.store8 buf ((mem buf &&& (0xF0 : UInt8)) ||| (IP_HEADER_BYTES >>> 2).toUInt8)
  let mem := mem.store8 buf ((mem buf &&& (0x0F : UInt8)) ||| (UInt8.ofInt dgram.version <<< 4))
  let mem := mem.store8 (buf + 1) dgram.typeOfService
  let mem := mem.store16 (buf + 4) (UInt16.ofInt dgram.identification)
  let mem := mem.store16 (buf + 6) (headerOff dgram)
  let mem := mem.store8 (buf + 8) (UInt8.ofInt dgram.timeToLive)
  let mem := mem.store8 (buf + 9) (UInt8.ofInt dgram.transportProtocol)
  let mem := mem.store32 (buf + 12) (addressWord dgram.srcAddress)
  let mem := mem.store32 (buf + 16) (addressWord dgram.destAddress)
  mem.store16 (buf + 10) 0

/-- The length and the checksum, which come last. -/
def finishHeader (hasCalcChkSum : Bool) (buf : ℕ) (packetLength : UInt32) (mem : Memory) :
    UInt32 × Memory :=
  let packetLength := IP_HEADER_BYTES + packetLength
  let mem := mem.store16 (buf + 2) packetLength.toUInt16
  (packetLength,
    if hasCalcChkSum then
      TCPIPchecksum.storeWord mem (buf + 10) (TCPIPchecksum.checksum mem buf IP_HEADER_BYTES.toNat)
    else mem)

variable {IGMPMessage SCTPMessage : Type} (igmp : MessageSerializer IGMPMessage)
  (sctp : MessageSerializer SCTPMessage)

/-- `check_and_cast` does not find the class. -/
def badCast : SimError := .runtimeError "check_and_cast"

/-- `serialize` of the serializer for the packet, which may serialize another datagram in it. -/
def serialize : Packet IGMPMessage SCTPMessage → Memory → ℕ → UInt32 → Bool →
    Except SimError (UInt32 × Memory)
  | .icmp type code _ encapsulated, mem, buf, bufsize, _ =>
      (ICMPSerializer.storeMessage type code encapsulated
        (fun mem buf bufsize => serialize encapsulated mem buf bufsize false) mem buf bufsize).map
        fun (packetLength, mem) => (packetLength, TCPIPchecksum.storeWord mem (buf + 2)
          (TCPIPchecksum.checksum mem buf packetLength.toNat))
  | .igmp message, mem, buf, bufsize, _ => igmp.serialize message mem buf bufsize
  | .sctp message, mem, buf, bufsize, _ => sctp.serialize message mem buf bufsize
  | .udp packet, mem, buf, _, _ => .ok (UDPSerializer.serialize packet mem buf)
  | .ipv4 dgram _ encapPacket, mem, buf, bufsize, hasCalcChkSum =>
      let mem := storeHeader dgram mem buf
      let buf' := buf + 20
      let encapsulated := serialize encapPacket mem buf' (bufsize - IP_HEADER_BYTES) false
      let src := [addressWord dgram.srcAddress]
      let dest := [addressWord dgram.destAddress]
      let written :=
        if dgram.transportProtocol = IP_PROT_ICMP then
          if encapPacket.isICMPMessage then encapsulated else .error badCast
        else if dgram.transportProtocol = IP_PROT_IGMP then
          if encapPacket.isIGMPMessage then encapsulated else .error badCast
        else if dgram.transportProtocol = IP_PROT_UDP then
          if encapPacket.isUDPPacket then encapsulated else .error badCast
        else if dgram.transportProtocol = IP_PROT_SCTP then
          if encapPacket.isSCTPMessage then encapsulated else .error badCast
        else if dgram.transportProtocol = IP_PROT_TCP.toNat then
          match encapPacket with
          | .tcp tcpseg => TCPSerializer.serialize1 tcpseg mem buf' src dest
          | _ => .error badCast
        else if dgram.transportProtocol = IP_PROT_TCP2.toNat then
          match encapPacket with
          | .tcp tcpseg => TCPSerializer.serialize2 tcpseg mem buf' src dest
          | _ => .error badCast
        else .error (.runtimeError ("IPv4Serializer: cannot serialize protocol " ++
          toString dgram.transportProtocol))
      written.map fun (packetLength, mem) => finishHeader hasCalcChkSum buf packetLength mem
  | _, _, _, _, _ => .error badCast

/-- The header, as a datagram without options. -/
def parsedHeader (mem : Memory) (buf : ℕ) : IPv4Header :=
  let ip_off := mem.load16 (buf + 6)
  { version := (mem buf >>> 4).toNat
    headerLength := IP_HEADER_BYTES.toNat
    srcAddress := BitVec.ofNat 32 (mem.load32 (buf + 12)).toNat
    destAddress := BitVec.ofNat 32 (mem.load32 (buf + 16)).toNat
    transportProtocol := (mem (buf + 9)).toNat
    timeToLive := (mem (buf + 8)).toNat
    identification := (mem.load16 (buf + 4)).toNat
    moreFragments := ip_off &&& IP_MF ≠ 0
    dontFragment := ip_off &&& IP_DF ≠ 0
    fragmentOffset := (ip_off &&& IP_OFFMASK).toNat * 8
    typeOfService := mem (buf + 1) }

def parsePacket (protocol : ℤ) (mem : Memory) (buf : ℕ) (bufsize : UInt32) :
    Except SimError (Packet IGMPMessage SCTPMessage) :=
  if protocol = IP_PROT_ICMP then ICMPSerializer.parse mem buf bufsize
  else if protocol = IP_PROT_IGMP then (igmp.parse mem buf bufsize).map .igmp
  else if protocol = IP_PROT_UDP then (UDPSerializer.parse mem buf).map .udp
  else if protocol = IP_PROT_SCTP then (sctp.parse mem buf bufsize).map .sctp
  else if protocol = IP_PROT_TCP.toNat then (TCPSerializer.parse mem buf bufsize true).map .tcp
  else .error (.runtimeError ("IPv4Serializer: cannot parse protocol " ++ toString protocol))

def getByteLength : Packet IGMPMessage SCTPMessage → ℕ
  | .null => 0
  | .ping payload => payload.byteLength
  | .icmp _ _ byteLength _ => byteLength
  | .udp packet => packet.byteLength
  | .tcp segment => segment.byteLength
  | .igmp message => igmp.getByteLength message
  | .sctp message => sctp.getByteLength message
  | .ipv4 _ byteLength _ => byteLength

/-- `parse(buf, bufsize, dest)` for a new datagram. -/
def parse (mem : Memory) (buf : ℕ) (bufsize : UInt32) :
    Except SimError (Packet IGMPMessage SCTPMessage) := do
  let dest := parsedHeader mem buf
  let totalLength := (mem.load16 (buf + 2)).toUInt32
  let headerLength := ((mem buf &&& (0x0F : UInt8)) <<< 2).toUInt32
  let encapLength := (if totalLength ≤ bufsize then totalLength else bufsize) - headerLength
  let encapPacket ← parsePacket igmp sctp dest.transportProtocol mem (buf + headerLength.toNat)
    encapLength
  return .ipv4 dest (IP_HEADER_BYTES.toNat + getByteLength igmp sctp encapPacket) encapPacket

end IPv4Serializer

end Inet
