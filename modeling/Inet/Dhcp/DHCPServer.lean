import Inet.Base.SimError
import Inet.Ipv4.Address
import Inet.Lib.OrderedMap
import Mathlib.Data.Rat.Defs

/-!
# DHCPServer

The answers to DISCOVER and REQUEST. A lease is never released, and does not expire. A `DHCPLease *`
is the address under which the lease is kept in `leased`. Times are in seconds, and the server is
operational or it is not.
-/

namespace Inet.Dhcp

open Ipv4

scoped instance : LinearOrder IPv4Address :=
  LinearOrder.lift' BitVec.toNat IPv4Address.toNat_injective

abbrev MACAddress := BitVec 48

inductive DHCPOpcode where
  | unset
  | bootrequest
  | bootreply
  deriving DecidableEq

inductive DHCPMessageType where
  | unset
  | dhcpdiscover
  | dhcpoffer
  | dhcprequest
  | dhcpdecline
  | dhcpack
  | dhcpnak
  | dhcprelease
  | dhcpinform
  deriving DecidableEq

/-- The options that the server reads or writes. -/
structure DHCPOptions where
  messageType : DHCPMessageType := .unset
  requestedIp : IPv4Address := 0
  subnetMask : IPv4Address := 0
  router : List IPv4Address := []
  dns : List IPv4Address := []
  serverIdentifier : IPv4Address := 0
  renewalTime : ℚ := 0
  rebindingTime : ℚ := 0
  leaseTime : ℚ := 0

structure DHCPMessage where
  byteLength : ℕ := 0
  op : DHCPOpcode := .unset
  htype : ℕ := 0
  hlen : ℕ := 0
  hops : ℕ := 0
  xid : UInt32 := 0
  secs : ℕ := 0
  broadcast : Bool := false
  ciaddr : IPv4Address := 0
  yiaddr : IPv4Address := 0
  giaddr : IPv4Address := 0
  chaddr : MACAddress := 0
  sname : String := ""
  file : String := ""
  options : DHCPOptions := {}

/-- A message handed to UDP. -/
structure SentMessage where
  message : DHCPMessage
  srcPort : ℕ
  destAddr : IPv4Address
  destPort : ℕ
  outInterfaceId : ℤ

/-- A message from UDP, the time, and the address of the server's interface at that time. -/
structure Arrival where
  packet : DHCPMessage
  inputInterfaceId : ℤ
  now : ℚ
  ipAddress : IPv4Address

/-! ## The server -/

structure DHCPLease where
  xid : UInt32 := 0
  ip : IPv4Address := 0
  mac : MACAddress := 0
  gateway : IPv4Address := 0
  subnetMask : IPv4Address := 0
  dns : IPv4Address := 0
  leaseTime : ℚ := 0
  leased : Bool := false

structure DHCPServer where
  subnetMask : IPv4Address
  gateway : IPv4Address
  ipAddressStart : IPv4Address
  maxNumOfClients : UInt32
  leaseTime : UInt32
  clientPort : ℕ := 68
  serverPort : ℕ := 67
  isOperational : Bool := true
  /-- The id of the interface `ie`; `none` for `NULL`. -/
  ie : Option ℤ
  leased : OrderedMap IPv4Address DHCPLease := .empty
  numSent : ℕ := 0
  numReceived : ℕ := 0
  sent : List SentMessage := []

namespace DHCPServer

def sendToUDP (msg : DHCPMessage) (srcPort : ℕ) (destAddr : IPv4Address) (destPort : ℕ)
    (interfaceId : ℤ) (server : DHCPServer) : DHCPServer :=
  { server with
    numSent := server.numSent + 1
    sent := server.sent ++ [⟨msg, srcPort, destAddr, destPort, interfaceId⟩] }

def sendNAK (arrival : Arrival) (interfaceId : ℤ) (server : DHCPServer) : DHCPServer :=
  let msg := arrival.packet
  server.sendToUDP
    { op := .bootreply
      byteLength := 308
      htype := 1
      hlen := 6
      hops := 0
      xid := msg.xid
      secs := 0
      broadcast := msg.broadcast
      giaddr := msg.giaddr
      chaddr := msg.chaddr
      options := { serverIdentifier := arrival.ipAddress, messageType := .dhcpnak } }
    server.serverPort IPv4Address.ALLONES_ADDRESS server.clientPort interfaceId

/-- The options about the lease in an OFFER or an ACK. -/
def leaseOptions (messageType : DHCPMessageType) (lease : DHCPLease) (ipAddress : IPv4Address)
    (server : DHCPServer) : DHCPOptions :=
  { messageType := messageType
    subnetMask := lease.subnetMask
    renewalTime := server.leaseTime.toNat / 2
    rebindingTime := server.leaseTime.toNat * 7 / 8
    leaseTime := server.leaseTime.toNat
    router := [lease.gateway]
    dns := [lease.dns]
    serverIdentifier := ipAddress }

/-- The class A, B or C mask of an address. -/
def getNetworkMask (addr : IPv4Address) : IPv4Address :=
  if addr &&& 0x80000000 = 0 then 0xFF000000
  else if addr &&& 0xC0000000 = 0x80000000 then 0xFFFF0000
  else if addr &&& 0xE0000000 = 0xC0000000 then 0xFFFFFF00
  else 0

def broadcastAddress (addr : IPv4Address) : IPv4Address :=
  addr.makeBroadcastAddress (getNetworkMask addr)

/-- `sendACK(lease, packet)` for the lease kept under `ip`. -/
def sendACK (ip : IPv4Address) (lease : DHCPLease) (arrival : Arrival) (interfaceId : ℤ)
    (server : DHCPServer) : DHCPServer :=
  let packet := arrival.packet
  let ack : DHCPMessage :=
    { op := .bootreply
      byteLength := 308
      htype := 1
      hlen := 6
      hops := 0
      xid := lease.xid
      secs := 0
      broadcast := false
      ciaddr := lease.ip
      yiaddr := lease.ip
      chaddr := lease.mac
      sname := ""
      file := ""
      options := server.leaseOptions .dhcpack lease arrival.ipAddress }
  let destAddr :=
    if packet.giaddr.isUnspecified ∧ ¬ packet.ciaddr.isUnspecified then packet.ciaddr
    else broadcastAddress lease.ip
  { server with leased := server.leased.put ip { lease with leaseTime := arrival.now } }.sendToUDP
    ack server.serverPort destAddr server.clientPort interfaceId

/-- `sendOffer(lease)` for the lease kept under `ip`. -/
def sendOffer (ip : IPv4Address) (lease : DHCPLease) (arrival : Arrival) (interfaceId : ℤ)
    (server : DHCPServer) : DHCPServer :=
  let offer : DHCPMessage :=
    { op := .bootreply
      byteLength := 308
      htype := 1
      hlen := 6
      hops := 0
      xid := lease.xid
      secs := 0
      broadcast := false
      yiaddr := lease.ip
      giaddr := lease.gateway
      chaddr := lease.mac
      sname := ""
      file := ""
      options := server.leaseOptions .dhcpoffer lease arrival.ipAddress }
  { server with leased := server.leased.put ip { lease with leaseTime := arrival.now } }.sendToUDP
    offer server.serverPort (broadcastAddress lease.ip) server.clientPort interfaceId

/-- `getLeaseByMac(mac)`: the first lease of the client, with the address it is kept under. -/
def getLeaseByMac (mac : MACAddress) (server : DHCPServer) : Option (IPv4Address × DHCPLease) :=
  server.leased.find? fun entry => entry.2.mac = mac

/-- A lease that is not allocated yet. -/
def newLease (ip : IPv4Address) (server : DHCPServer) : DHCPLease :=
  { ip := ip, gateway := server.gateway, subnetMask := server.subnetMask }

/-- The `i`-th address of the pool. -/
def poolAddress (i : ℕ) (server : DHCPServer) : IPv4Address :=
  server.ipAddressStart + BitVec.ofNat 32 i

/-- The lease kept under an address if it is not allocated, or else a new one, which
overwrites it. -/
def leaseFor (ip : IPv4Address) (server : DHCPServer) : DHCPLease :=
  match server.leased.get? ip with
  | some lease => if lease.leased then server.newLease ip else lease
  | none => server.newLease ip

/-- `getAvailableLease(requestedAddress, clientMAC)`: the requested address, or the first of
the pool that is not allocated. -/
def getAvailableLease (requestedAddress : IPv4Address) (server : DHCPServer) :
    Option (IPv4Address × DHCPLease) :=
  if ¬ requestedAddress.isUnspecified then
    some (requestedAddress, server.leaseFor requestedAddress)
  else
    ((List.range server.maxNumOfClients.toNat).map server.poolAddress).find?
      (fun ip => (server.leased.get? ip).all fun lease => !lease.leased) |>.map
        fun ip => (ip, server.leaseFor ip)

def processDiscover (arrival : Arrival) (interfaceId : ℤ) (server : DHCPServer) : DHCPServer :=
  let packet := arrival.packet
  match server.getLeaseByMac packet.chaddr with
  | none =>
      match server.getAvailableLease packet.options.requestedIp with
      | some (ip, lease) =>
          server.sendOffer ip
            { lease with mac := packet.chaddr, xid := packet.xid, leased := true }
            arrival interfaceId
      | none => server
  | some (ip, lease) => server.sendOffer ip { lease with xid := packet.xid } arrival interfaceId

/-- Acknowledge a lease, which is thereby leased (again). -/
def acknowledge (ip : IPv4Address) (lease : DHCPLease) (arrival : Arrival) (interfaceId : ℤ)
    (server : DHCPServer) : DHCPServer :=
  server.sendACK ip
    { lease with xid := arrival.packet.xid, leaseTime := server.leaseTime.toNat, leased := true }
    arrival interfaceId

def processRequest (arrival : Arrival) (interfaceId : ℤ) (server : DHCPServer) : DHCPServer :=
  let packet := arrival.packet
  if packet.options.serverIdentifier = arrival.ipAddress then
    -- in response to an offer
    match server.getLeaseByMac packet.chaddr with
    | some (ip, lease) =>
        if lease.ip ≠ packet.options.requestedIp then server.sendNAK arrival interfaceId
        else server.acknowledge ip lease arrival interfaceId
    | none => server.sendNAK arrival interfaceId
  else if packet.ciaddr.isUnspecified then
    -- init-reboot
    let requestedAddress := packet.options.requestedIp
    match server.leased.get? requestedAddress with
    | none => server
    | some lease =>
        if IPv4Address.maskedAddrAreEqual requestedAddress lease.ip server.subnetMask then
          server.acknowledge requestedAddress lease arrival interfaceId
        else server.sendNAK arrival interfaceId
  else
    -- renewing or rebinding
    match server.leased.get? packet.ciaddr with
    | some lease => server.acknowledge packet.ciaddr lease arrival interfaceId
    | none => server.sendNAK arrival interfaceId

/-- What the server does with a message of its interface. -/
def answer (arrival : Arrival) (interfaceId : ℤ) (server : DHCPServer) : DHCPServer :=
  if arrival.packet.op = .bootrequest then
    match arrival.packet.options.messageType with
    | .dhcpdiscover => server.processDiscover arrival interfaceId
    | .dhcprequest => server.processRequest arrival interfaceId
    | _ => server
  else server

def processDHCPMessage (arrival : Arrival) (server : DHCPServer) : Except SimError DHCPServer :=
  match server.isOperational, server.ie with
  | true, some interfaceId =>
      if arrival.inputInterfaceId ≠ interfaceId then .ok server
      else
        let server := server.answer arrival interfaceId
        .ok { server with numReceived := server.numReceived + 1 }
  | _, _ => .error (.assertion "isOperational && ie != NULL")

/-- The messages in order. -/
def run : List Arrival → DHCPServer → Except SimError DHCPServer
  | [], server => .ok server
  | arrival :: rest, server => do run rest (← server.processDHCPMessage arrival)

end DHCPServer

end Inet.Dhcp
