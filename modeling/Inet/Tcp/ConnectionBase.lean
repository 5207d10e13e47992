import Inet.Tcp.ConnectionRcvSegment

/-!
# Commands, timers and the state machine

`TCPConnectionEventProc.cc` and `TCPConnectionBase.cc`. `Step` is one event in any environment and
`Reachable` any run of them, restricted by a predicate on environment, input and state before each
event.
-/

namespace Inet.Tcp

/-- The connection's own timers. -/
inductive ConnTimer where
  | the2MSL
  | connEstab
  | finWait2
  | synRexmit

/-- Application commands. A port is `none` where the command leaves it, or the
address with it, unspecified. -/
inductive AppCommand where
  | openActive (localPort remotePort : Option UInt16)
  | openPassive (localPort : Option UInt16) (fork : Bool)
  | send (byteLength : ℕ)
  | close
  | abort
  | status
  | queueBytesLimit (limit : UInt32)

/-- What can happen to a connection. `resizeBuffer` is the relay application of the
same node setting `maxRcvBuffer` and `maxRcvBufferChanged`. -/
inductive TcpInput where
  | command (command : AppCommand)
  | segment (tcpseg : TCPSegment)
  | timer (timer : ConnTimer)
  | algTimer (timer : AlgTimer)
  | resizeBuffer (maxRcvBuffer : UInt32)

/-- The segment that arrives, if the event is an arrival. -/
def TcpInput.arrival : TcpInput → Option TCPSegment
  | .segment tcpseg => some tcpseg
  | _ => none

namespace TCPConnection

variable (env : Env)

/-! ## Application commands -/

def processOpenActive (localPort remotePort : Option UInt16) (c : TCPConnection) :
    Except TcpError (TCPEventCode × TCPConnection) :=
  if c.fsm = .init then do
    let c ← c.initConnection
    if remotePort = none then
      .error (.runtimeError
        "Error processing command OPEN_ACTIVE: remote address and port must be specified")
    else do
      let c := { c with
        active := true
        localPort := some (localPort.getD env.ephemeralPort)
        remotePort := remotePort }
      let c ← selectInitialSeqNum env c
      let c ← sendSyn env c
      let connEstab ← scheduled c.timers.connEstab
      let c := c.startSynRexmitTimer
      return (.openActive, { c with timers := { c.timers with connEstab := connEstab } })
  else .error (.runtimeError "Error processing command OPEN_ACTIVE: connection already exists")

def processOpenPassive (localPort : Option UInt16) (fork : Bool) (c : TCPConnection) :
    Except TcpError (TCPEventCode × TCPConnection) :=
  if c.fsm = .init then do
    let c ← c.initConnection
    if localPort = none then
      .error (.runtimeError "Error processing command OPEN_PASSIVE: local port must be specified")
    else return (.openPassive, { c with active := false, fork := fork, localPort := localPort })
  else .error (.runtimeError "Error processing command OPEN_PASSIVE: connection already exists")

/-- Queue application data. -/
def enqueue (byteLength : ℕ) (c : TCPConnection) : Except TcpError TCPConnection := do
  return { c with sendQueue := ← c.sendQueue.enqueueAppData byteLength }

/-- SEND in the states where it is allowed. -/
def sendInState (byteLength : ℕ) (c : TCPConnection) : Except TcpError TCPConnection :=
  match c.fsm with
  | .listen => do
      let c ← selectInitialSeqNum env { c with active := true }
      let c ← sendSyn env c
      let connEstab ← scheduled c.timers.connEstab
      let c := c.startSynRexmitTimer
      enqueue byteLength { c with timers := { c.timers with connEstab := connEstab } }
  | .synRcvd | .synSent => enqueue byteLength c
  | .established | .closeWait => do
      let c ← enqueue byteLength c
      runCallback env env.alg.sendCommandInvoked c
  | .lastAck | .finWait1 | .finWait2 | .closing | .timeWait =>
      .error (.runtimeError "Error processing command SEND: connection closing")
  | .init | .closed =>
      .error (.runtimeError "Error processing command SEND: connection not open")

def processSend (byteLength : ℕ) (c : TCPConnection) :
    Except TcpError (TCPEventCode × TCPConnection) := do
  let c ← sendInState env byteLength c
  let full := 0 < c.sendQueueLimit ∧ c.sendQueueLimit < c.sendQueue.getBytesAvailable c.sndUna
  return (.send, if full then { c with queueUpdate := false } else c)

/-- Send the FIN of a CLOSE right away. -/
def sendFinNow (c : TCPConnection) : Except TcpError TCPConnection := do
  let c ← sendFIN env { c with sndNxt := c.sndMax }
  let c := restartRexmitTimer env c
  return { c with sndNxt := c.sndNxt + 1, sndMax := c.sndNxt + 1 }

/-- The FIN of a CLOSE goes out now, or is left to the segment that empties the send
queue. -/
def sendFinOrDefer (c : TCPConnection) : Except TcpError (TCPEventCode × TCPConnection) :=
  if c.sndMax = c.sendQueue.getBufferEndSeq then do return (.close, ← sendFinNow env c)
  else .ok (.ignore, c)

/-- CLOSE while data can still be sent. -/
def closeSending (c : TCPConnection) : Except TcpError (TCPEventCode × TCPConnection) := do
  let (event, c) ← sendFinOrDefer env c
  return (event, { c with sendFin := true, sndFinSeq := c.sendQueue.getBufferEndSeq })

def processClose (c : TCPConnection) : Except TcpError (TCPEventCode × TCPConnection) :=
  match c.fsm with
  | .listen | .synSent => .ok (.close, c)
  | .synRcvd | .established | .closeWait => closeSending env c
  | .finWait1 | .finWait2 | .closing | .lastAck | .timeWait =>
      .error (.runtimeError "Duplicate CLOSE command: connection already closing")
  | .init | .closed =>
      .error (.runtimeError "Error processing command CLOSE: connection not open")

def processAbort (c : TCPConnection) : Except TcpError (TCPEventCode × TCPConnection) :=
  match c.fsm with
  | .init => .error (.runtimeError "Error processing command ABORT: connection not open")
  | .synRcvd | .established | .finWait1 | .finWait2 | .closeWait =>
      .ok (.abort, sendRst c.sndNxt c)
  | .closed | .listen | .synSent | .lastAck | .closing | .timeWait => .ok (.abort, c)

def processCommand (command : AppCommand) (c : TCPConnection) :
    Except TcpError (TCPEventCode × TCPConnection) :=
  match command with
  | .openActive localPort remotePort => processOpenActive env localPort remotePort c
  | .openPassive localPort fork => processOpenPassive localPort fork c
  | .send byteLength => processSend env byteLength c
  | .close => processClose env c
  | .abort => processAbort c
  | .status =>
      if c.fsm = .init then
        .error (.runtimeError "Error processing command STATUS: connection not open")
      else .ok (.status, sendToApp .status c)
  | .queueBytesLimit limit =>
      if c.fsm = .init then
        .error (.runtimeError
          "Called process_QUEUE_BYTES_LIMIT on uninitialized TCPConnection!")
      else .ok (.queueBytesLimit, { c with sendQueueLimit := limit })

def processTimeoutConnEstab (c : TCPConnection) :
    Except TcpError (TCPEventCode × TCPConnection) :=
  match c.fsm with
  | .synRcvd | .synSent =>
      .ok (.timeoutConnEstab, if c.active then sendToApp .timedOut c else c)
  | _ => .error (.runtimeError "Internal error: received CONN_ESTAB timeout")

def processTimeout2MSL (c : TCPConnection) : Except TcpError (TCPEventCode × TCPConnection) :=
  match c.fsm with
  | .timeWait => .ok (.timeout2MSL, c)
  | _ => .error (.runtimeError "Internal error: received time-wait (2MSL) timeout")

def processTimeoutFinWait2 (c : TCPConnection) :
    Except TcpError (TCPEventCode × TCPConnection) :=
  match c.fsm with
  | .finWait2 => .ok (.timeoutFinWait2, c)
  | _ => .error (.runtimeError "Internal error: received FIN_WAIT_2 timeout")

/-- Resend the SYN or SYN+ACK. -/
def resendSyn (c : TCPConnection) : Except TcpError TCPConnection :=
  match c.fsm with
  | .synSent => sendSyn env c
  | .synRcvd => sendSynAck env c
  | _ => .error (.runtimeError "Internal error: SYN-REXMIT timer expired")

def processTimeoutSynRexmit (c : TCPConnection) :
    Except TcpError (TCPEventCode × TCPConnection) :=
  let c := { c with synRexmitCount := c.synRexmitCount + 1 }
  if MAX_SYN_REXMIT_COUNT < c.synRexmitCount then .ok (.abort, c)
  else do
    let c ← resendSyn env c
    let synRexmit ← scheduled c.timers.synRexmit
    return (.ignore, { c with timers := { c.timers with synRexmit := synRexmit } })

/-- An expired timer is no longer scheduled. -/
def processTimer (timer : ConnTimer) (c : TCPConnection) :
    Except TcpError (TCPEventCode × TCPConnection) :=
  match timer with
  | .the2MSL =>
      processTimeout2MSL { c with timers := { c.timers with the2MSL := false } }
  | .connEstab =>
      processTimeoutConnEstab { c with timers := { c.timers with connEstab := false } }
  | .finWait2 =>
      processTimeoutFinWait2 { c with timers := { c.timers with finWait2 := false } }
  | .synRexmit =>
      processTimeoutSynRexmit env { c with timers := { c.timers with synRexmit := false } }

/-- `tcpAlgorithm->processTimer(msg, event)`. -/
def processAlgTimer (timer : AlgTimer) (c : TCPConnection) :
    Except TcpError (TCPEventCode × TCPConnection) := do
  let event := if env.alg.timerAborts timer c then TCPEventCode.abort else .ignore
  return (event, ← runCallback env (env.alg.processTimer timer) c)

/-- The transition table. -/
def nextState (active : Bool) (state : TcpState) (event : TCPEventCode) : TcpState :=
  match state, event with
  | .init, .openPassive => .listen
  | .init, .openActive => .synSent
  | .listen, .openActive | .listen, .send => .synSent
  | .listen, .close | .listen, .abort => .closed
  | .listen, .rcvSyn => .synRcvd
  | .synRcvd, .close => .finWait1
  | .synRcvd, .abort => .closed
  | .synRcvd, .timeoutConnEstab | .synRcvd, .rcvRst => if active then .closed else .listen
  | .synRcvd, .rcvAck => .established
  | .synRcvd, .rcvFin => .closeWait
  | .synRcvd, .rcvUnexpSyn => .closed
  | .synSent, .close | .synSent, .abort | .synSent, .timeoutConnEstab | .synSent, .rcvRst =>
      .closed
  | .synSent, .rcvSynAck => .established
  | .synSent, .rcvSyn => .synRcvd
  | .established, .close => .finWait1
  | .established, .rcvFin => .closeWait
  | .established, .abort | .established, .rcvRst | .established, .rcvUnexpSyn => .closed
  | .closeWait, .close => .lastAck
  | .closeWait, .abort | .closeWait, .rcvRst | .closeWait, .rcvUnexpSyn => .closed
  | .lastAck, .abort | .lastAck, .rcvAck | .lastAck, .rcvRst | .lastAck, .rcvUnexpSyn => .closed
  | .finWait1, .rcvFin => .closing
  | .finWait1, .rcvAck => .finWait2
  | .finWait1, .rcvFinAck => .timeWait
  | .finWait1, .abort | .finWait1, .rcvRst | .finWait1, .rcvUnexpSyn => .closed
  | .finWait2, .rcvFin => .timeWait
  | .finWait2, .abort | .finWait2, .timeoutFinWait2 | .finWait2, .rcvRst
  | .finWait2, .rcvUnexpSyn => .closed
  | .closing, .rcvAck => .timeWait
  | .closing, .abort | .closing, .rcvRst | .closing, .rcvUnexpSyn => .closed
  | .timeWait, .abort | .timeWait, .timeout2MSL | .timeWait, .rcvRst
  | .timeWait, .rcvUnexpSyn => .closed
  | state, _ => state

/-- The timers that stay scheduled when a state is entered. -/
def timersOnEntry (state : TcpState) (timers : ConnTimers) : ConnTimers :=
  match state with
  | .listen | .established | .closeWait | .lastAck | .finWait1 | .finWait2 | .closing =>
      { timers with connEstab := false, synRexmit := false }
  | .closed => {}
  | .init | .synRcvd | .synSent | .timeWait => timers

/-- The indication the application gets when a state is entered. -/
def indicationOnEntry (state oldState : TcpState) (event : TCPEventCode) :
    List TCPIndication :=
  match state with
  | .closeWait => [.peerClosed]
  | .timeWait => [.closed]
  | .closed => if oldState ≠ .timeWait ∧ event ≠ .abort then [.closed] else []
  | _ => []

/-- `performStateTransition(event)` with the actions of `stateEntered`. -/
def performStateTransition (event : TCPEventCode) (c : TCPConnection) :
    Except TcpError TCPConnection := do
  assert (c.fsm ≠ .closed) "fsm.getState() != TCP_S_CLOSED"
  let state := nextState c.active c.fsm event
  if state = c.fsm then return c
  else return { c with
    fsm := state
    timers := timersOnEntry state c.timers
    toApp := c.toApp ++ indicationOnEntry state c.fsm event }

/-! ## Events -/

/-- Actions and event code of an input. -/
def process (input : TcpInput) (c : TCPConnection) :
    Except TcpError (TCPEventCode × TCPConnection) :=
  match input with
  | .command command => processCommand env command c
  | .segment tcpseg => processRcvSegment env tcpseg c
  | .timer timer => processTimer env timer c
  | .algTimer timer => processAlgTimer env timer c
  | .resizeBuffer maxRcvBuffer =>
      if c.fsm = .init then .error .nullPointer
      else .ok (.ignore, { c with
        maxRcvBuffer := max maxRcvBuffer 3000
        maxRcvBufferChanged := true })

/-- One event: the actions, then the state transition. -/
def handle (input : TcpInput) (c : TCPConnection) : Except TcpError TCPConnection := do
  let (event, c) ← process env input c
  performStateTransition event c

/-- A timer of the connection expires only while it is scheduled, one of the
algorithm only once there is an algorithm. -/
def enabled (input : TcpInput) (c : TCPConnection) : Bool :=
  match input with
  | .timer .the2MSL => c.timers.the2MSL
  | .timer .connEstab => c.timers.connEstab
  | .timer .finWait2 => c.timers.finWait2
  | .timer .synRexmit => c.timers.synRexmit
  | .algTimer _ => c.fsm ≠ .init
  | .command _ | .segment _ | .resizeBuffer _ => true

/-- A connection as its constructor leaves it. -/
def new (par : TCPPar) : TCPConnection := { par := par }

/-- Where a connection begins: newly made, or left listening by a fork. -/
inductive Begins : TCPConnection → Prop
  | new (par : TCPPar) : Begins (new par)
  | listeningClone (c : TCPConnection) : Begins c.listeningClone

/-- An event that meets `condition` and does not stop the simulation. -/
inductive Step (condition : Env → TcpInput → TCPConnection → Prop) :
    TCPConnection → TCPConnection → Prop
  | handle {c c' : TCPConnection} (env : Env) (input : TcpInput)
      (enabled : c.enabled input = true) (meets : condition env input c)
      (handled : c.handle env input = .ok c') : Step condition c c'

/-- `c` is reached by events that all meet `condition`. -/
def Reachable (condition : Env → TcpInput → TCPConnection → Prop) (c : TCPConnection) : Prop :=
  ∃ start, Begins start ∧ Relation.ReflTransGen (Step condition) start c

lemma Reachable.invariant {condition : Env → TcpInput → TCPConnection → Prop}
    {P : TCPConnection → Prop} (begins : ∀ {c}, Begins c → P c)
    (step : ∀ {c c'}, P c → Step condition c c' → P c') {c : TCPConnection}
    (reachable : Reachable condition c) : P c := by
  obtain ⟨start, begun, run⟩ := reachable
  induction run with
  | refl => exact begins begun
  | tail _ last ih => exact step ih last

/-- The condition that leaves every event in. -/
abbrev Unrestricted (_ : Env) (_ : TcpInput) (_ : TCPConnection) : Prop := True

section Runs

variable (condition : Env → TcpInput → TCPConnection → Prop)
  [∀ env input c, Decidable (condition env input c)]

/-- Carry out a list of events, each with its environment, as long as they are enabled
and meet the condition. -/
def run : List (Env × TcpInput) → TCPConnection → Option TCPConnection
  | [], c => some c
  | (env, input) :: rest, c =>
      if c.enabled input = true ∧ condition env input c then
        (handle env input c).toOption.bind (run rest)
      else none

variable {condition}

lemma reflTransGen_of_run {events : List (Env × TcpInput)} {start c : TCPConnection}
    (ok : run condition events start = some c) :
    Relation.ReflTransGen (Step condition) start c := by
  induction events generalizing start with
  | nil =>
    cases ok
    exact .refl
  | cons e rest ih =>
    unfold run at ok
    split at ok
    case isTrue meets =>
      cases handled : handle e.1 e.2 start with
      | error error => simp [handled, Except.toOption] at ok
      | ok d =>
        rw [handled] at ok
        exact .head (.handle e.1 e.2 meets.1 meets.2 handled) (ih ok)
    case isFalse => cases ok

/-- A test that the end of a run passes is passed in a reachable state. -/
lemma exists_reachable {par : TCPPar} {events : List (Env × TcpInput)}
    {test : TCPConnection → Bool} (passes : (run condition events (new par)).any test = true) :
    ∃ c, Reachable condition c ∧ test c = true := by
  cases ok : run condition events (new par) with
  | none => simp [ok] at passes
  | some c =>
    rw [ok] at passes
    exact ⟨c, ⟨new par, .new par, reflTransGen_of_run ok⟩, passes⟩

end Runs

lemma performStateTransition_eq {e : TCPEventCode} {d c' : TCPConnection}
    (ok : performStateTransition e d = .ok c') :
    d.fsm ≠ .closed ∧ ∃ timers toApp, c' = { d with
      fsm := nextState d.active d.fsm e
      timers := timers
      toApp := toApp } := by
  unfold performStateTransition at ok
  obtain ⟨opened, ok⟩ := of_assert_bind ok
  refine ⟨opened, ?_⟩
  dsimp only at ok
  split at ok
  case isTrue same =>
    cases ok
    refine ⟨d.timers, d.toApp, ?_⟩
    rw [same]
  case isFalse =>
    cases ok
    exact ⟨_, _, rfl⟩

/-- An event is its actions, and then a transition. -/
lemma handle_eq {env : Env} {input : TcpInput} {c c' : TCPConnection}
    (ok : handle env input c = .ok c') :
    ∃ e d timers toApp, process env input c = .ok (e, d) ∧ d.fsm ≠ .closed ∧
      c' = { d with
        fsm := nextState d.active d.fsm e
        timers := timers
        toApp := toApp } := by
  unfold handle at ok
  rcases Except.bind_eq_ok ok with ⟨⟨e, d⟩, processed, ok⟩
  obtain ⟨opened, timers, toApp, same⟩ := performStateTransition_eq ok
  exact ⟨e, d, timers, toApp, processed, opened, same⟩

end TCPConnection

/-! ## Two connections -/

open TCPConnection Option

structure ConnectionPair where
  client : TCPConnection
  server : TCPConnection

namespace ConnectionPair

/-- An event on one side; what arrives has been sent by the other. -/
inductive PairStep : ConnectionPair → ConnectionPair → Prop
  | client {pair : ConnectionPair} {c' : TCPConnection} (env : Env) (input : TcpInput)
      (enabled : pair.client.enabled input = true)
      (sent : ∀ tcpseg ∈ input.arrival, tcpseg ∈ pair.server.sent)
      (handled : pair.client.handle env input = .ok c') : PairStep pair { pair with client := c' }
  | server {pair : ConnectionPair} {c' : TCPConnection} (env : Env) (input : TcpInput)
      (enabled : pair.server.enabled input = true)
      (sent : ∀ tcpseg ∈ input.arrival, tcpseg ∈ pair.client.sent)
      (handled : pair.server.handle env input = .ok c') : PairStep pair { pair with server := c' }

def PairReachable (pair : ConnectionPair) : Prop :=
  ∃ client server, Relation.ReflTransGen PairStep ⟨new client, new server⟩ pair

/-- An event at the client or else at the server: a command or timer, or the arrival of the other
side's segment number `index`. -/
inductive PairEvent where
  | act (atClient : Bool) (env : Env) (command : AppCommand)
  | deliver (toClient : Bool) (env : Env) (index : ℕ)

/-- One event, `none` if it is not enabled or stops the simulation. -/
def runEvent (pair : ConnectionPair) : PairEvent → Option ConnectionPair
  | .act true env command => do
      let c ← (pair.client.handle env (.command command)).toOption
      return { pair with client := c }
  | .act false env command => do
      let c ← (pair.server.handle env (.command command)).toOption
      return { pair with server := c }
  | .deliver true env index => do
      let tcpseg ← pair.server.sent[index]?
      let c ← (pair.client.handle env (.segment tcpseg)).toOption
      return { pair with client := c }
  | .deliver false env index => do
      let tcpseg ← pair.client.sent[index]?
      let c ← (pair.server.handle env (.segment tcpseg)).toOption
      return { pair with server := c }

def runEvents : List PairEvent → ConnectionPair → Option ConnectionPair
  | [], pair => some pair
  | event :: rest, pair => (pair.runEvent event).bind (runEvents rest)

lemma pairStep_of_runEvent {pair pair' : ConnectionPair} {event : PairEvent}
    (ok : pair.runEvent event = some pair') : PairStep pair pair' := by
  unfold runEvent at ok
  split at ok
  case h_1 env command =>
    rcases bind_eq_some_iff.mp ok with ⟨c, handled, ok⟩
    cases ok
    exact .client env _ rfl (by simp [TcpInput.arrival]) (Except.eq_ok_of_toOption handled)
  case h_2 env command =>
    rcases bind_eq_some_iff.mp ok with ⟨c, handled, ok⟩
    cases ok
    exact .server env _ rfl (by simp [TcpInput.arrival]) (Except.eq_ok_of_toOption handled)
  case h_3 env index =>
    rcases bind_eq_some_iff.mp ok with ⟨tcpseg, found, ok⟩
    rcases bind_eq_some_iff.mp ok with ⟨c, handled, ok⟩
    cases ok
    refine .client env _ rfl ?_ (Except.eq_ok_of_toOption handled)
    simpa [TcpInput.arrival] using List.mem_of_getElem? found
  case h_4 env index =>
    rcases bind_eq_some_iff.mp ok with ⟨tcpseg, found, ok⟩
    rcases bind_eq_some_iff.mp ok with ⟨c, handled, ok⟩
    cases ok
    refine .server env _ rfl ?_ (Except.eq_ok_of_toOption handled)
    simpa [TcpInput.arrival] using List.mem_of_getElem? found

lemma reflTransGen_of_runEvents {events : List PairEvent} {start pair : ConnectionPair}
    (ok : runEvents events start = some pair) : Relation.ReflTransGen PairStep start pair := by
  induction events generalizing start with
  | nil =>
    cases ok
    exact .refl
  | cons event rest ih =>
    rcases bind_eq_some_iff.mp ok with ⟨middle, first, ok⟩
    exact .head (pairStep_of_runEvent first) (ih ok)

/-- A test that the end of a run of a pair passes is passed in a reachable pair. -/
lemma exists_pairReachable {client server : TCPPar} {events : List PairEvent}
    {test : ConnectionPair → Bool}
    (passes : (runEvents events ⟨new client, new server⟩).any test = true) :
    ∃ pair, PairReachable pair ∧ test pair = true := by
  cases ok : runEvents events ⟨new client, new server⟩ with
  | none => simp [ok] at passes
  | some pair =>
    rw [ok] at passes
    exact ⟨pair, ⟨client, server, reflTransGen_of_runEvents ok⟩, passes⟩

end ConnectionPair

end Inet.Tcp
