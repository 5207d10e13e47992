import Inet.Tcp.ConnectionBase

/-!
# The TCP module

`TCP.cc`: connections in two maps, by socket pair and by the application's id, and the ephemeral
ports in use in a multiset. Connections are addressed by a number for their pointer.

A handler first carries out what the connection does to these containers, then the rest of the
event. Node shutdown, the display and ICMP are left out. Addresses are numbers, and texts of errors
leave them out.
-/

namespace Inet.Tcp

open TCPConnection

/-- `IPvXAddress`; `none` is the unspecified address. -/
abbrev IPvXAddress := Option ℕ

/-- `TCP::SockPair`. A port is `none` where the source has -1. -/
structure SockPair where
  localAddr : IPvXAddress
  remoteAddr : IPvXAddress
  localPort : Option UInt16
  remotePort : Option UInt16
  deriving DecidableEq

structure AppConnKey where
  appGateIndex : ℕ
  connId : ℕ
  deriving DecidableEq

/-- `TCPConnection` as the module sees it: its ids, its addresses, and the rest. -/
structure ConnectionObject where
  appGateIndex : ℕ
  connId : ℕ
  localAddr : IPvXAddress := none
  remoteAddr : IPvXAddress := none
  tcb : TCPConnection

namespace ConnectionObject

/-- The address/port quadruple the connection has now. -/
def sockPair (conn : ConnectionObject) : SockPair :=
  ⟨conn.localAddr, conn.remoteAddr, conn.tcb.localPort, conn.tcb.remotePort⟩

def appConnKey (conn : ConnectionObject) : AppConnKey := ⟨conn.appGateIndex, conn.connId⟩

def setSockPair (pair : SockPair) (conn : ConnectionObject) : ConnectionObject :=
  { conn with
    localAddr := pair.localAddr
    remoteAddr := pair.remoteAddr
    tcb := { conn.tcb with localPort := pair.localPort, remotePort := pair.remotePort } }

/-- `cloneListeningConnection()`: it has our ids and our local socket, and no peer. -/
def cloneListeningConnection (conn : ConnectionObject) : ConnectionObject :=
  { conn with remoteAddr := none, tcb := conn.tcb.listeningClone }

/-- `getState()->ecn = tcpseg->getEcnBit()`. -/
def noteEcn (tcpseg : TCPSegment) (conn : ConnectionObject) : ConnectionObject :=
  { conn with tcb := { conn.tcb with ecn := tcpseg.ecnBit } }

end ConnectionObject

def EPHEMERAL_PORTRANGE_START : UInt16 := 1024

def EPHEMERAL_PORTRANGE_END : UInt16 := 5000

def isEphemeral (port : UInt16) : Prop :=
  EPHEMERAL_PORTRANGE_START ≤ port ∧ port < EPHEMERAL_PORTRANGE_END

instance (port : UInt16) : Decidable (isEphemeral port) := inferInstanceAs (Decidable (_ ∧ _))

/-- `TCP`: the connections by pointer, unused from `next` on, and the containers. `uniqueNumber` is
what `ev.getUniqueNumber()` would answer now. -/
structure TCP where
  par : TCPPar
  uniqueNumber : ℕ := 0
  next : ℕ := 0
  conns : ℕ → Option ConnectionObject := fun _ => none
  tcpConnMap : SockPair → Option ℕ := fun _ => none
  tcpAppConnMap : AppConnKey → Option ℕ := fun _ => none
  usedEphemeralPorts : Multiset UInt16 := 0
  lastEphemeralPort : UInt16 := EPHEMERAL_PORTRANGE_START

namespace TCP

variable (env : Env) (ptr : ℕ) (conn : ConnectionObject) (tcp : TCP)

/-- The fully qualified socket pair of a segment that arrives. -/
def segmentSockPair (tcpseg : TCPSegment) (srcAddr destAddr : IPvXAddress) : SockPair :=
  ⟨destAddr, srcAddr, some tcpseg.destPort, some tcpseg.srcPort⟩

def findConnForSegment (tcpseg : TCPSegment) (srcAddr destAddr : IPvXAddress) : Option ℕ :=
  let key := segmentSockPair tcpseg srcAddr destAddr
  -- try with fully qualified SockPair
  match tcp.tcpConnMap key with
  | some ptr => some ptr
  | none =>
  -- try with localAddr missing
  match tcp.tcpConnMap { key with localAddr := none } with
  | some ptr => some ptr
  | none =>
  -- try fully qualified local socket and blank remote socket
  match tcp.tcpConnMap { key with remoteAddr := none, remotePort := none } with
  | some ptr => some ptr
  -- try with blank remote socket, and localAddr missing
  | none => tcp.tcpConnMap { key with localAddr := none, remoteAddr := none, remotePort := none }

def findConnForApp (key : AppConnKey) : Option ℕ := tcp.tcpAppConnMap key

/-- The port behind `port`, with wrap. -/
def portAfter (port : UInt16) : UInt16 :=
  if port + 1 = EPHEMERAL_PORTRANGE_END then EPHEMERAL_PORTRANGE_START else port + 1

/-- Go on from `port` to the first port that is not in use. The search ends where it began, so the
size of the range is fuel enough. -/
def searchPort (used : Multiset UInt16) (searchUntil : UInt16) :
    ℕ → UInt16 → Except TcpError UInt16
  | 0, _ => .error .nonTermination
  | fuel + 1, port =>
      if port ∈ used then
        if port = searchUntil then
          .error (.runtimeError "Ephemeral port range 1024..5000 exhausted, all ports occupied")
        else searchPort used searchUntil fuel (portAfter port)
      else .ok port

def getEphemeralPort : Except TcpError (UInt16 × TCP) := do
  let port ← searchPort tcp.usedEphemeralPorts tcp.lastEphemeralPort 3977
    (portAfter tcp.lastEphemeralPort)
  return (port, { tcp with lastEphemeralPort := port })

/-- The local port of an active OPEN, assigned if the command leaves it unspecified. -/
def localPortFor (localPort : Option UInt16) : Except TcpError (UInt16 × TCP) :=
  match localPort with
  | some port => .ok (port, tcp)
  | none => tcp.getEphemeralPort

/-- The multiset with a port of the ephemeral range marked as used. -/
def markPort (localPort : Option UInt16) (used : Multiset UInt16) : Multiset UInt16 :=
  match localPort with
  | some port => if isEphemeral port then port ::ₘ used else used
  | none => used

/-- The multiset without one occurrence of a port, if there is one. -/
def releasePort (localPort : Option UInt16) (used : Multiset UInt16) : Multiset UInt16 :=
  match localPort with
  | some port => used.erase port
  | none => used

/-- `createConnection`, and the entry in `tcpAppConnMap`. -/
def createConnection (key : AppConnKey) : TCP :=
  { tcp with
    next := tcp.next + 1
    conns := Function.update tcp.conns tcp.next
      (some { appGateIndex := key.appGateIndex, connId := key.connId, tcb := new tcp.par })
    tcpAppConnMap := Function.update tcp.tcpAppConnMap key (some tcp.next) }

/-- `addSockPair(conn, localAddr, remoteAddr, localPort, remotePort)`. -/
def addSockPair (pair : SockPair) : Except TcpError TCP :=
  if (tcp.tcpConnMap pair).isSome then
    .error (.runtimeError (
      if pair.remoteAddr = none ∧ pair.remotePort = none then
        "Address already in use: there is already a connection listening on"
      else "Address already in use: there is already a connection"))
  else .ok { tcp with
    conns := Function.update tcp.conns ptr (some (conn.setSockPair pair))
    tcpConnMap := Function.update tcp.tcpConnMap pair (some ptr)
    usedEphemeralPorts := markPort pair.localPort tcp.usedEphemeralPorts }

/-- `updateSockPair(conn, localAddr, remoteAddr, localPort, remotePort)`. -/
def updateSockPair (pair : SockPair) : Except TcpError TCP := do
  assert (tcp.tcpConnMap conn.sockPair = some ptr)
    "it != tcpConnMap.end() && it->second == conn"
  assert (conn.tcb.localPort = pair.localPort) "conn->localPort == localPort"
  return { tcp with
    conns := Function.update tcp.conns ptr (some (conn.setSockPair pair))
    tcpConnMap :=
      Function.update (Function.update tcp.tcpConnMap conn.sockPair none) pair (some ptr) }

/-- `addForkedConnection(conn, newConn, …)`: `conn` goes on with the peer under a new id,
`newConn` lives on with the old one. -/
def addForkedConnection (newPtr : ℕ) (newConn : ConnectionObject) (pair : SockPair) :
    Except TcpError TCP := do
  let tcp ← tcp.updateSockPair ptr conn pair
  let tcp ← tcp.addSockPair newPtr newConn newConn.sockPair
  let forked := { conn.setSockPair pair with connId := tcp.uniqueNumber }
  return { tcp with
    uniqueNumber := tcp.uniqueNumber + 1
    conns := Function.update tcp.conns ptr (some forked)
    tcpAppConnMap :=
      Function.update (Function.update (Function.update tcp.tcpAppConnMap conn.appConnKey none)
          forked.appConnKey (some ptr)) newConn.appConnKey (some newPtr) }

def removeConnection : TCP :=
  { tcp with
    conns := Function.update tcp.conns ptr none
    tcpAppConnMap := Function.update tcp.tcpAppConnMap conn.appConnKey none
    tcpConnMap := Function.update tcp.tcpConnMap conn.sockPair none
    usedEphemeralPorts := releasePort conn.tcb.localPort tcp.usedEphemeralPorts }

/-! ## Messages -/

/-- The connection processes an event; in CLOSED it is removed. -/
def deliver (input : TcpInput) : Except TcpError TCP :=
  match tcp.conns ptr with
  | none => .error .nullPointer
  | some conn => do
      let tcb ← conn.tcb.handle env input
      let conn := { conn with tcb := tcb }
      if tcb.fsm = .closed then return tcp.removeConnection ptr conn
      else return { tcp with conns := Function.update tcp.conns ptr (some conn) }

/-- What an OPEN does to the containers, and the command with the local port filled in. -/
def registerCommand (localAddr remoteAddr : IPvXAddress) (command : AppCommand) :
    Except TcpError (AppCommand × TCP) :=
  match command with
  | .openActive localPort remotePort =>
      if remoteAddr = none ∨ remotePort = none then
        .error (.runtimeError
          "Error processing command OPEN_ACTIVE: remote address and port must be specified")
      else do
        let (port, tcp) ← tcp.localPortFor localPort
        let tcp ← tcp.addSockPair ptr conn ⟨localAddr, remoteAddr, some port, remotePort⟩
        return (.openActive (some port) remotePort, tcp)
  | .openPassive localPort fork =>
      if localPort = none then
        .error (.runtimeError
          "Error processing command OPEN_PASSIVE: local port must be specified")
      else do
        let tcp ← tcp.addSockPair ptr conn ⟨localAddr, none, localPort, none⟩
        return (.openPassive localPort fork, tcp)
  | command => .ok (command, tcp)

/-- The connection of an application, made if there is none. -/
def connectionForApp (key : AppConnKey) : ℕ × TCP :=
  match tcp.findConnForApp key with
  | some ptr => (ptr, tcp)
  | none => (tcp.next, tcp.createConnection key)

/-- A command of an application. The addresses are those of an OPEN. -/
def handleCommand (key : AppConnKey) (localAddr remoteAddr : IPvXAddress)
    (command : AppCommand) : Except TcpError TCP :=
  let (ptr, tcp) := tcp.connectionForApp key
  match tcp.conns ptr with
  | none => .error .nullPointer
  | some conn => do
      let (command, tcp) ← tcp.registerCommand ptr conn localAddr remoteAddr command
      tcp.deliver env ptr (.command command)

/-- Is this SYN one that the connection takes its socket pair from? -/
def takesSockPair (tcpseg : TCPSegment) (c : TCPConnection) : Bool :=
  match c.fsm with
  | .listen => opens tcpseg
  | .synSent =>
      tcpseg.synBit && !tcpseg.rstBit && !decide (tcpseg.ackBit = true ∧
        (seqLE tcpseg.ackNo c.iss ∨ seqGreater tcpseg.ackNo c.sndNxt))
  | _ => false

/-- What a SYN does to the containers. -/
def registerArrival (tcpseg : TCPSegment) (srcAddr destAddr : IPvXAddress) :
    Except TcpError TCP :=
  let pair := segmentSockPair tcpseg srcAddr destAddr
  if takesSockPair tcpseg conn.tcb then
    if conn.tcb.fsm = .listen ∧ conn.tcb.fork then
      { tcp with next := tcp.next + 1 }.addForkedConnection ptr conn tcp.next
        conn.cloneListeningConnection pair
    else tcp.updateSockPair ptr conn pair
  else .ok tcp

/-- The addresses a connection knows are those of the segment. -/
def checkAddresses (tcpseg : TCPSegment) (srcAddr destAddr : IPvXAddress) :
    Except TcpError Unit := do
  assert (conn.localAddr ≠ none → conn.localAddr = destAddr) "localAddr == segDestAddr"
  assert (conn.localAddr ≠ none → conn.tcb.localPort = some tcpseg.destPort)
    "localPort == tcpseg->getDestPort()"
  assert (conn.remoteAddr ≠ none → conn.remoteAddr = srcAddr) "remoteAddr == segSrcAddr"
  assert (conn.remoteAddr ≠ none → conn.tcb.remotePort = some tcpseg.srcPort)
    "remotePort == tcpseg->getSrcPort()"

def processTCPSegment (tcpseg : TCPSegment) (srcAddr destAddr : IPvXAddress) :
    Except TcpError TCP := do
  checkAddresses conn tcpseg srcAddr destAddr
  let tcp ← tcp.registerArrival ptr conn tcpseg srcAddr destAddr
  tcp.deliver env ptr (.segment tcpseg)

/-- A segment from IP. If there is no connection for it, `segmentArrivalWhileClosed`
answers on its own. -/
def handleSegment (tcpseg : TCPSegment) (srcAddr destAddr : IPvXAddress) :
    Except TcpError TCP :=
  match tcp.findConnForSegment tcpseg srcAddr destAddr with
  | none => .ok tcp
  | some ptr =>
      match tcp.conns ptr with
      | none => .error .nullPointer
      | some conn =>
          { tcp with
            conns := Function.update tcp.conns ptr
              (some (conn.noteEcn tcpseg)) }.processTCPSegment env ptr (conn.noteEcn tcpseg) tcpseg
                srcAddr destAddr

/-- A command, a segment, a timer of a connection or of its algorithm, or the relay application of
the same node resizing a buffer. -/
inductive Message where
  | command (key : AppConnKey) (localAddr remoteAddr : IPvXAddress) (command : AppCommand)
  | segment (tcpseg : TCPSegment) (srcAddr destAddr : IPvXAddress)
  | timer (ptr : ℕ) (timer : ConnTimer)
  | algTimer (ptr : ℕ) (timer : AlgTimer)
  | resizeBuffer (ptr : ℕ) (maxRcvBuffer : UInt32)

def handleMessage (message : Message) : Except TcpError TCP :=
  match message with
  | .command key localAddr remoteAddr command =>
      tcp.handleCommand env key localAddr remoteAddr command
  | .segment tcpseg srcAddr destAddr => tcp.handleSegment env tcpseg srcAddr destAddr
  | .timer ptr timer => tcp.deliver env ptr (.timer timer)
  | .algTimer ptr timer => tcp.deliver env ptr (.algTimer timer)
  | .resizeBuffer ptr maxRcvBuffer => tcp.deliver env ptr (.resizeBuffer maxRcvBuffer)

/-- The connection that a message is for. -/
def target (message : Message) : Option ℕ :=
  match message with
  | .command key _ _ _ => some (tcp.connectionForApp key).1
  | .segment tcpseg srcAddr destAddr => tcp.findConnForSegment tcpseg srcAddr destAddr
  | .timer ptr _ | .algTimer ptr _ | .resizeBuffer ptr _ => some ptr

/-- A timer expires only while it is scheduled. The id in a command has been drawn from
`ev.getUniqueNumber()` before, by the socket. -/
def admits (message : Message) : Prop :=
  match message with
  | .command key _ _ _ => key.connId < tcp.uniqueNumber
  | .timer ptr timer => (tcp.conns ptr).any (·.tcb.enabled (.timer timer)) = true
  | .algTimer ptr timer => (tcp.conns ptr).any (·.tcb.enabled (.algTimer timer)) = true
  | .segment _ _ _ | .resizeBuffer _ _ => True

instance (message : Message) : Decidable (tcp.admits message) := by
  unfold admits
  cases message <;> infer_instance

/-- A message that does not stop the simulation, or someone else drawing a number. -/
inductive ModuleStep : TCP → TCP → Prop
  | message {tcp tcp' : TCP} (env : Env) (message : Message) (admitted : tcp.admits message)
      (handled : tcp.handleMessage env message = .ok tcp') : ModuleStep tcp tcp'
  | draw (tcp : TCP) : ModuleStep tcp { tcp with uniqueNumber := tcp.uniqueNumber + 1 }

/-- A module as `initialize` leaves it. -/
def start (par : TCPPar) (uniqueNumber : ℕ) : TCP := { par, uniqueNumber }

def ModuleReachable (tcp : TCP) : Prop :=
  ∃ par uniqueNumber, Relation.ReflTransGen ModuleStep (start par uniqueNumber) tcp

lemma ModuleReachable.invariant {P : TCP → Prop}
    (starts : ∀ par uniqueNumber, P (start par uniqueNumber))
    (step : ∀ {tcp tcp'}, P tcp → ModuleStep tcp tcp' → P tcp') {tcp : TCP}
    (reachable : ModuleReachable tcp) : P tcp := by
  obtain ⟨par, uniqueNumber, run⟩ := reachable
  induction run with
  | refl => exact starts par uniqueNumber
  | tail _ last ih => exact step ih last

/-- Carry out a list of messages, each with its environment, as long as they are
admitted. -/
def runMessages : List (Env × Message) → TCP → Option TCP
  | [], tcp => some tcp
  | (env, message) :: rest, tcp =>
      if tcp.admits message then (tcp.handleMessage env message).toOption.bind (runMessages rest)
      else none

lemma reflTransGen_of_runMessages {messages : List (Env × Message)} {tcp tcp' : TCP}
    (ok : runMessages messages tcp = some tcp') : Relation.ReflTransGen ModuleStep tcp tcp' := by
  induction messages generalizing tcp with
  | nil =>
    cases ok
    exact .refl
  | cons event rest ih =>
    unfold runMessages at ok
    split at ok
    case isTrue admitted =>
      cases handled : tcp.handleMessage event.1 event.2 with
      | error error =>
        rw [handled] at ok
        cases ok
      | ok t =>
        rw [handled] at ok
        exact .head (.message event.1 event.2 admitted handled) (ih ok)
    case isFalse => cases ok

/-- A test that the end of a run passes is passed in a reachable module. -/
lemma exists_moduleReachable {par : TCPPar} {uniqueNumber : ℕ} {messages : List (Env × Message)}
    {test : TCP → Bool} (passes : (runMessages messages (start par uniqueNumber)).any test = true) :
    ∃ tcp, ModuleReachable tcp ∧ test tcp = true := by
  cases ok : runMessages messages (start par uniqueNumber) with
  | none =>
    rw [ok] at passes
    cases passes
  | some tcp =>
    rw [ok] at passes
    exact ⟨tcp, ⟨par, uniqueNumber, reflTransGen_of_runMessages ok⟩, passes⟩

end TCP

end Inet.Tcp
