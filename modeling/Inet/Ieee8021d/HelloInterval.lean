import Inet.Ieee8021d.STP

/-!
# The Hello interval

What an STP bridge does when its module is initialized, started and stopped, at every tick and with
what it receives. `helloTime` is both the parameter and the time since the last Hello, and the
latter becomes the current Hello time of a root bridge (`Copied`): from the second tick on it sends
Hellos at every tick, with a wrong Hello time in them (`onSchedule_iff`).
-/

namespace Inet.Ieee8021d

open List

/-- The BPDUs of `generateHelloBDPUs`, if it is executed. -/
abbrev Hello (numPorts : ℕ) := Option (List (Fin numPorts × BPDU))

namespace STP

variable {numPorts : ℕ} (st : STP numPorts)

/-- One second, in the units of `simtime_t`. -/
def second : ℤ := 1000000000000

def tickInterval : ℤ := second

def setPort (i : Fin numPorts) (port : InterfaceData) : STP numPorts :=
  { st with ports := Function.update st.ports i port }

def initInterfacedata (portNum : Fin numPorts) : STP numPorts :=
  st.setPort portNum { st.ports portNum with
    role := .NOTASSIGNED
    state := .DISCARDING
    rootPriority := st.bridgePriority
    rootAddress := st.bridgeAddress
    rootPathCost := 0
    age := 0
    bridgePriority := st.bridgePriority
    bridgeAddress := st.bridgeAddress
    portPriority := -1
    portNum := -1
    lostBPDU := 0 }

def initPortTable : STP numPorts :=
  (List.finRange numPorts).foldl initInterfacedata st

def lostRoot : Except SimError (STP numPorts) :=
  tryRoot { st with topologyChangeNotification := true }

def lostAlternate : STP numPorts :=
  { st.selectDesignatedPorts with topologyChangeNotification := true }

/-- What `reset`, `start` and `initialize` have in common. -/
def becomeRoot : STP numPorts :=
  { st with
    isRoot := true
    rootPriority := st.bridgePriority
    rootAddress := st.bridgeAddress
    rootPathCost := 0
    currentHelloTime := st.helloTime
    currentMaxAge := st.maxAge
    currentFwdDelay := st.forwardDelay }

def reset : STP numPorts := st.becomeRoot.setAllDesignated

/-! ## Timers -/

def generateHelloBDPUs : STP numPorts :=
  (List.finRange numPorts).foldl (fun st i => st.generateBPDU i false false) st

/-- What `generateHelloBDPUs` sends. -/
def helloBPDUs : List (Fin numPorts × BPDU) :=
  (List.finRange numPorts).map fun i => (i, st.configurationBPDU i false false)

/-- The loop of `handleTick` for one port. -/
def countPort (port : InterfaceData) : InterfaceData :=
  if port.role = .DISABLED then port
  else
    let port :=
      if port.role ≠ .DESIGNATED then { port with age := port.age + tickInterval } else port
    if port.role = .ROOT ∨ port.role = .DESIGNATED then
      { port with fdWhile := port.fdWhile + tickInterval }
    else port

/-- `handleTick` before `checkTimers`. -/
def countTick : STP numPorts :=
  { st with
    helloTime := if st.isRoot then st.helloTime + second else 0
    ports := fun i => countPort (st.ports i) }

/-- The hello timer check. -/
def checkHello : Hello numPorts × STP numPorts :=
  if st.currentHelloTime ≤ st.helloTime then
    if st.isRoot then (some st.helloBPDUs, { st.generateHelloBDPUs with helloTime := 0 })
    else (none, { st with helloTime := 0 })
  else (none, st)

/-- The information age check of a port. -/
def checkAge (i : Fin numPorts) : Except SimError (STP numPorts) :=
  if st.currentMaxAge ≤ (st.ports i).age then
    if (st.ports i).role = .ROOT then (st.initInterfacedata i).lostRoot
    else .ok (st.initInterfacedata i).lostAlternate
  else .ok st

def checkFdWhile (i : Fin numPorts) : STP numPorts :=
  let port := st.ports i
  if port.role = .ROOT ∨ port.role = .DESIGNATED then
    if st.currentFwdDelay ≤ port.fdWhile then
      match port.state with
      | .DISCARDING => st.setPort i { port with state := .LEARNING, fdWhile := 0 }
      | .LEARNING => st.setPort i { port with state := .FORWARDING, fdWhile := 0 }
      | .FORWARDING => st.setPort i { port with fdWhile := 0 }
    else st
  else st.setPort i { port with fdWhile := 0, state := .DISCARDING }

/-- `checkTimers` behind the hello timer check. -/
def checkPorts : Except SimError (STP numPorts) := do
  let st ← (List.finRange numPorts).foldlM checkAge st
  .ok ((List.finRange numPorts).foldl checkFdWhile st)

end STP

/-- The module of an STP bridge. -/
structure STPModule (numPorts : ℕ) extends STP numPorts where
  isOperational : Bool
  currentBridgePriority : Unsigned
  /-- The ports at which TCNs have been sent so far. -/
  tcnOut : List ℕ
  deriving DecidableEq

namespace STPModule

variable {numPorts : ℕ} (st : STPModule numPorts)

/-- Stage 1 of `initialize`; the parameters are read in stage 0. -/
def initialization : STPModule numPorts :=
  let stp := { st.initPortTable with
    topologyChangeNotification := false
    topologyChangeRecvd := true
    rootPort := 0 }.becomeRoot
  { st with
    toSTP := { stp with helloTime := 0 }.setAllDesignated
    currentBridgePriority := st.bridgePriority }

def start (bridgeAddress : MACAddress) : STPModule numPorts :=
  let stp := { { st.toSTP with bridgeAddress := bridgeAddress }.initPortTable with
    topologyChangeNotification := true
    topologyChangeRecvd := true
    rootPort := 0 }.becomeRoot
  { st with
    isOperational := true
    toSTP := { stp with helloTime := 0 }.setAllDesignated
    currentBridgePriority := st.bridgePriority }

def stop : STPModule numPorts :=
  { st with isOperational := false, isRoot := false, topologyChangeNotification := true }

def checkParametersChange : STPModule numPorts :=
  let st :=
    if st.isRoot then
      { st with
        currentHelloTime := st.helloTime
        currentMaxAge := st.maxAge
        currentFwdDelay := st.forwardDelay }
    else st
  if st.currentBridgePriority ≠ st.bridgePriority then
    { st with toSTP := st.reset, currentBridgePriority := st.bridgePriority }
  else st

def generateTCN : Except SimError (STPModule numPorts) :=
  if st.topologyChangeNotification = true ∨ st.topologyChangeRecvd = false then
    if lt : st.rootPort < numPorts then
      if (st.ports ⟨st.rootPort, lt⟩).role = .ROOT then
        .ok { st with
          topologyChangeNotification := false
          tcnOut := st.tcnOut ++ [st.rootPort] }
      else .ok st
    else .error (.runtimeError "gate(): index out of range")
  else .ok st

def handleTick : Except SimError (Hello numPorts × STPModule numPorts) := do
  let (hello, stp) := st.countTick.checkHello
  let stp ← stp.checkPorts
  let st ← { st with toSTP := stp }.checkParametersChange.generateTCN
  .ok (hello, st)

def handleTCN (arrivalGate : Fin numPorts) : STPModule numPorts :=
  let stp := { st.toSTP with topologyChangeNotification := true }
  { st with
    toSTP := stp.generateBPDU arrivalGate false true
    tcnOut := if st.isRoot then st.tcnOut else st.tcnOut ++ [st.rootPort] }

/-- A BPDU that arrives at a port. -/
inductive Received (numPorts : ℕ) where
  | config (arrivalGate : Fin numPorts) (bpdu : BPDU)
  | tcn (arrivalGate : Fin numPorts)

def receive : Received numPorts → Except SimError (STPModule numPorts)
  | .config arrivalGate bpdu =>
      if st.isOperational then do
        let stp ← st.handleBPDU arrivalGate bpdu
        .ok { st with toSTP := stp }
      else .ok st
  | .tcn arrivalGate => .ok (if st.isOperational then st.handleTCN arrivalGate else st)

def receiveTick : Except SimError (Hello numPorts × STPModule numPorts) :=
  if st.isOperational then st.handleTick else .ok (none, st)

end STPModule

/-! ## What the steps do to the times -/

namespace STP

variable {numPorts : ℕ} {st st' : STP numPorts}

/-- The time since the last Hello, and the parameters. -/
def times (st : STP numPorts) : ℤ × ℤ × ℤ := (st.helloTime, st.maxAge, st.forwardDelay)

/-- The current times are the bridge's own, the time since the last Hello among them. -/
structure Copied (st : STP numPorts) : Prop where
  helloTime : st.currentHelloTime = st.helloTime
  maxAge : st.currentMaxAge = st.maxAge
  fwdDelay : st.currentFwdDelay = st.forwardDelay

/-- The step keeps the times. -/
abbrev KeepsTimes (st : STP numPorts) : Except SimError (STP numPorts) → Prop :=
  EndsIn (fun _ => True) fun st' => st'.times = st.times

lemma tryRoot_ends (st : STP numPorts) :
    EndsIn (fun _ => True)
      (fun st' => st'.times = st.times ∧ (st'.isRoot = true → Copied st')) st.tryRoot := by
  rw [tryRoot]
  split_ifs
  · exact ⟨rfl, fun _ => ⟨rfl, rfl, rfl⟩⟩
  · rw [selectRootPort]
    split_ifs
    · exact ⟨rfl, fun root => nomatch root⟩
    · trivial

lemma initPortTable_times (st : STP numPorts) : st.initPortTable.times = st.times :=
  List.foldlRecOn (motive := fun st' : STP numPorts => st'.times = st.times) _ _ rfl
    fun _ same _ _ => same

lemma checkAge_keepsTimes (st : STP numPorts) (i : Fin numPorts) :
    KeepsTimes st (st.checkAge i) := by
  rw [checkAge]
  split_ifs
  · exact (tryRoot_ends _).mono fun _ ends => ends.1
  · rfl
  · rfl

lemma checkFdWhile_times (st : STP numPorts) (i : Fin numPorts) :
    (st.checkFdWhile i).times = st.times := by
  rw [checkFdWhile]
  split_ifs
  · split <;> rfl
  · rfl
  · rfl

lemma checkPorts_keepsTimes (st : STP numPorts) : KeepsTimes st st.checkPorts := by
  have aged : KeepsTimes st ((List.finRange numPorts).foldlM checkAge st) :=
    EndsIn.foldlM rfl fun st₁ same i _ =>
      (checkAge_keepsTimes st₁ i).mono fun st₂ same₂ => same₂.trans same
  refine aged.bind fun st₁ same => ?_
  exact List.foldlRecOn (motive := fun st' : STP numPorts => st'.times = st.times) _ _ same
    fun st₂ same₂ i _ => (checkFdWhile_times st₂ i).trans same₂

lemma isSuperiorBPDU_times (st : STP numPorts) (i : Fin numPorts) (bpdu : BPDU) :
    (st.isSuperiorBPDU i bpdu).2.times = st.times := by
  rw [isSuperiorBPDU]
  split_ifs
  · rfl
  · rw [setSuperiorBPDU]
    split_ifs <;> rfl
  · rw [setSuperiorBPDU]
    split_ifs <;> rfl

lemma passOnBPDU_times (st : STP numPorts) (bpdu : BPDU) :
    (st.passOnBPDU bpdu).times = st.times :=
  List.foldlRecOn (motive := fun st' : STP numPorts => st'.times = st.times) _ _ rfl
    fun _ same _ _ => same

lemma handleBPDU_ends (st : STP numPorts) (i : Fin numPorts) (bpdu : BPDU) :
    EndsIn (fun _ => True)
      (fun st' => st'.times = st.times ∧ (st'.isRoot = true → Copied st'))
      (st.handleBPDU i bpdu) := by
  have keep : ∀ st₁ : STP numPorts, st₁.times = st.times → EndsIn (fun _ => True)
      (fun st' => st'.times = st.times ∧ (st'.isRoot = true → Copied st')) st₁.tryRoot :=
    fun st₁ same => (tryRoot_ends st₁).mono fun st' ends => ⟨ends.1.trans same, ends.2⟩
  rw [handleBPDU]
  dsimp only
  have same := fun st₁ : STP numPorts => isSuperiorBPDU_times st₁ i bpdu
  split_ifs
  all_goals refine keep _ ?_
  all_goals first | exact same _ | exact (passOnBPDU_times _ _).trans (same _)

end STP

namespace STPModule

open STP

variable {numPorts : ℕ} {st st' : STPModule numPorts} {helloTime : ℤ} {hello : Hello numPorts}
  {message : Received numPorts} {messages : List (Received numPorts)}
  {rounds : List (List (Received numPorts))} {ticks : List (Hello numPorts)}

lemma checkParametersChange_spec (st : STPModule numPorts) :
    st.checkParametersChange.times = st.times ∧
      (st.checkParametersChange.isRoot = true → st.checkParametersChange.Copied) := by
  rw [checkParametersChange]
  split_ifs with root
  · exact ⟨rfl, fun _ => ⟨rfl, rfl, rfl⟩⟩
  · exact ⟨rfl, fun _ => ⟨rfl, rfl, rfl⟩⟩
  · exact ⟨rfl, fun _ => ⟨rfl, rfl, rfl⟩⟩
  · exact ⟨rfl, fun isRoot => absurd isRoot root⟩

lemma handleTick_ends (st : STPModule numPorts) :
    EndsIn (fun _ => True)
      (fun result => result.1 = st.countTick.checkHello.1 ∧
        result.2.times = st.countTick.checkHello.2.times ∧
        (result.2.isRoot = true → result.2.Copied)) st.handleTick := by
  refine (checkPorts_keepsTimes _).bind fun stp same => ?_
  have checked := checkParametersChange_spec { st with toSTP := stp }
  generalize checkParametersChange { st with toSTP := stp } = st₁ at checked ⊢
  have generated : EndsIn (fun _ => True) (fun st₂ => st₂.times = st₁.times ∧
      (st₂.isRoot = true → st₂.Copied)) st₁.generateTCN := by
    rw [generateTCN]
    split_ifs
    · exact ⟨rfl, fun root => ⟨(checked.2 root).1, (checked.2 root).2, (checked.2 root).3⟩⟩
    · exact ⟨rfl, checked.2⟩
    · trivial
    · exact ⟨rfl, checked.2⟩
  refine generated.bind fun st₂ ends => ?_
  exact ⟨rfl, ends.1.trans (checked.1.trans same), ends.2⟩

/-- What has happened to the module since its initialization with this parameter. -/
inductive Reachable (helloTime : ℤ) : STPModule numPorts → Prop
  | initialization (st : STPModule numPorts) (parameter : st.helloTime = helloTime) :
      Reachable helloTime st.initialization
  | receive {st st' : STPModule numPorts} (reachable : Reachable helloTime st)
      (message : Received numPorts) (ok : st.receive message = .ok st') : Reachable helloTime st'
  | tick {st st' : STPModule numPorts} {hello : Hello numPorts}
      (reachable : Reachable helloTime st) (ok : st.receiveTick = .ok (hello, st')) :
      Reachable helloTime st'
  | start {st : STPModule numPorts} (reachable : Reachable helloTime st)
      (bridgeAddress : MACAddress) : Reachable helloTime (st.start bridgeAddress)
  | stop {st : STPModule numPorts} (reachable : Reachable helloTime st) :
      Reachable helloTime st.stop

/-- The bridge is up, and root. -/
def Active (st : STPModule numPorts) : Prop := st.isOperational = true ∧ st.isRoot = true

/-- The bridge receives the messages, and remains root. -/
inductive Receives : STPModule numPorts → List (Received numPorts) → STPModule numPorts → Prop
  | nil {st : STPModule numPorts} (active : st.Active) : Receives st [] st
  | cons {st st₁ st' : STPModule numPorts} {message : Received numPorts}
      {messages : List (Received numPorts)} (active : st.Active)
      (ok : st.receive message = .ok st₁) (rest : Receives st₁ messages st') :
      Receives st (message :: messages) st'

/-- The ticks of a bridge that remains root, with what it receives before each, and the BPDUs of
`generateHelloBDPUs` if it is executed in the tick. -/
inductive RootRun : STPModule numPorts → List (List (Received numPorts)) →
    List (Hello numPorts) → STPModule numPorts → Prop
  | nil {st : STPModule numPorts} (active : st.Active) : RootRun st [] [] st
  | tick {st st₁ st₂ st' : STPModule numPorts} {messages : List (Received numPorts)}
      {rounds : List (List (Received numPorts))} {hello : Hello numPorts}
      {ticks : List (Hello numPorts)} (received : Receives st messages st₁)
      (ok : st₁.receiveTick = .ok (hello, st₂)) (rest : RootRun st₂ rounds ticks st') :
      RootRun st (messages :: rounds) (hello :: ticks) st'

/-- Hellos are sent once in so many ticks as the parameter says, and they carry the parameters. -/
structure OnSchedule (helloTime : ℤ) (st : STPModule numPorts)
    (ticks : List (Hello numPorts)) : Prop where
  once : ∀ window, window <:+: ticks → window.length * tickInterval = helloTime →
    window.countP Option.isSome = 1
  carried : ∀ sent, some sent ∈ ticks → ∀ i bpdu, (i, bpdu) ∈ sent →
    bpdu.helloTime = helloTime ∧ bpdu.maxAge = st.maxAge ∧ bpdu.forwardDelay = st.forwardDelay

/-! ## The Hello times that a bridge has -/

/-- A value that the time since the last Hello may have. -/
def Short (helloTime time : ℤ) : Prop := time = 0 ∨ time = second ∧ second < helloTime

/-- The parameter is not the current Hello time any more. -/
structure Settled (helloTime : ℤ) (st : STP numPorts) : Prop where
  since : Short helloTime st.helloTime
  current : st.isRoot = true → Short helloTime st.currentHelloTime

structure Fresh (helloTime : ℤ) (st : STP numPorts) : Prop where
  root : st.isRoot = true
  since : st.helloTime = 0
  current : st.currentHelloTime = helloTime

structure Timed (helloTime : ℤ) (st : STP numPorts) : Prop where
  phase : Fresh helloTime st ∨ Settled helloTime st
  ages : st.isRoot = true → st.currentMaxAge = st.maxAge ∧ st.currentFwdDelay = st.forwardDelay

lemma Short.nonneg {time : ℤ} (short : Short helloTime time) : 0 ≤ time ∧ time ≤ second := by
  obtain eq | ⟨eq, -⟩ := short <;> rw [eq, second] <;> decide

lemma Short.ne {time : ℤ} (short : Short helloTime time) (nonzero : helloTime ≠ 0) :
    time ≠ helloTime := by
  obtain eq | ⟨eq, lt⟩ := short <;> omega

lemma Timed.since (timed : Timed helloTime st.toSTP) : Short helloTime st.helloTime := by
  obtain fresh | settled := timed.phase
  · exact .inl fresh.since
  · exact settled.since

lemma timed_of_copied {stp : STP numPorts} (since : Short helloTime stp.helloTime)
    (copied : stp.isRoot = true → stp.Copied) : Settled helloTime stp ∧ Timed helloTime stp := by
  have settled : Settled helloTime stp := by
    refine ⟨since, fun root => ?_⟩
    rw [(copied root).helloTime]
    exact since
  exact ⟨settled, .inr settled, fun root => ⟨(copied root).maxAge, (copied root).fwdDelay⟩⟩

lemma handleTCN_timed (timed : Timed helloTime st.toSTP) (i : Fin numPorts) :
    Timed helloTime (st.handleTCN i).toSTP ∧
      (Settled helloTime st.toSTP → Settled helloTime (st.handleTCN i).toSTP) :=
  have keep : Settled helloTime st.toSTP → Settled helloTime (st.handleTCN i).toSTP :=
    fun settled => ⟨settled.1, settled.2⟩
  ⟨⟨timed.phase.imp (fun fresh => ⟨fresh.1, fresh.2, fresh.3⟩) keep, timed.ages⟩, keep⟩

lemma receive_timed (timed : Timed helloTime st.toSTP) (ok : st.receive message = .ok st') :
    Timed helloTime st'.toSTP ∧ (Settled helloTime st.toSTP → Settled helloTime st'.toSTP) ∧
      (st.isOperational = true → ∀ i bpdu, message = .config i bpdu →
        Settled helloTime st'.toSTP) := by
  cases message with
  | tcn i =>
    cases ok
    split_ifs
    · obtain ⟨timed', settled⟩ := handleTCN_timed timed i
      exact ⟨timed', settled, fun _ _ _ eq => nomatch eq⟩
    · exact ⟨timed, id, fun _ _ _ eq => nomatch eq⟩
  | config i bpdu =>
    rw [receive] at ok
    split_ifs at ok with up
    · obtain ⟨stp, handled, eq⟩ := Except.bind_eq_ok ok
      cases eq
      obtain ⟨same, copied⟩ := (handleBPDU_ends st.toSTP i bpdu).of_ok handled
      have since : Short helloTime stp.helloTime := by
        rw [show stp.helloTime = st.helloTime from congrArg Prod.fst same]
        exact timed.since
      obtain ⟨settled, timed'⟩ := timed_of_copied since copied
      exact ⟨timed', fun _ => settled, fun _ _ _ _ => settled⟩
    · cases ok
      exact ⟨timed, id, fun isUp => absurd isUp up⟩

lemma since_checkHello (timed : Timed helloTime st.toSTP) :
    Short helloTime st.countTick.checkHello.2.helloTime := by
  rw [checkHello]
  split_ifs with due
  · exact .inl rfl
  · exact .inl rfl
  · change ¬ st.currentHelloTime ≤ if st.isRoot = true then st.helloTime + second else 0 at due
    change Short helloTime (if st.isRoot = true then st.helloTime + second else 0)
    split_ifs at due ⊢ with root
    · obtain fresh | settled := timed.phase
      · rw [fresh.since, fresh.current] at due
        rw [fresh.since]
        exact .inr ⟨by omega, by omega⟩
      · have since := settled.since.nonneg
        have current := (settled.current root).nonneg
        omega
    · exact .inl rfl

lemma receiveTick_timed (timed : Timed helloTime st.toSTP)
    (ok : st.receiveTick = .ok (hello, st')) :
    Timed helloTime st'.toSTP ∧ (st.isOperational = true → Settled helloTime st'.toSTP) := by
  rw [receiveTick] at ok
  split_ifs at ok with up
  · obtain ⟨-, same, copied⟩ := (handleTick_ends st).of_ok ok
    have since : Short helloTime st'.helloTime := by
      rw [show st'.helloTime = _ from congrArg Prod.fst same]
      exact since_checkHello timed
    obtain ⟨settled, timed'⟩ := timed_of_copied since copied
    exact ⟨timed', fun _ => settled⟩
  · cases ok
    exact ⟨timed, fun isUp => absurd isUp up⟩

lemma Reachable.timed (reachable : Reachable helloTime st) : Timed helloTime st.toSTP := by
  induction reachable with
  | initialization st parameter =>
    have same : st.initPortTable.times = st.times := initPortTable_times st.toSTP
    refine ⟨.inl ⟨rfl, rfl, ?_⟩, fun _ => ⟨rfl, rfl⟩⟩
    rw [← parameter]
    exact congrArg Prod.fst same
  | receive _ message ok timed => exact (receive_timed timed ok).1
  | tick _ ok timed => exact (receiveTick_timed timed ok).1
  | @start st _ bridgeAddress timed =>
    have same := initPortTable_times { st.toSTP with bridgeAddress := bridgeAddress }
    refine ⟨.inr ⟨.inl rfl, fun _ => ?_⟩, fun _ => ⟨rfl, rfl⟩⟩
    have current : (st.start bridgeAddress).currentHelloTime = st.helloTime :=
      congrArg Prod.fst same
    rw [current]
    exact timed.since
  | stop _ timed =>
    exact ⟨.inr ⟨timed.since, fun root => nomatch root⟩, fun root => nomatch root⟩

/-! ## Ticks as root -/

lemma Receives.active (received : Receives st messages st') :
    st'.Active := by
  induction received with
  | nil active => exact active
  | cons _ _ _ ih => exact ih

lemma Receives.timed (received : Receives st messages st')
    (timed : Timed helloTime st.toSTP) : Timed helloTime st'.toSTP ∧
      (Settled helloTime st.toSTP ∨ (∃ i bpdu, .config i bpdu ∈ messages) →
        Settled helloTime st'.toSTP) := by
  induction received with
  | nil _ =>
    refine ⟨timed, fun or => or.resolve_right ?_⟩
    rintro ⟨i, bpdu, mem⟩
    cases mem
  | cons active ok _ ih =>
    obtain ⟨timed₁, keeps, settles⟩ := receive_timed timed ok
    obtain ⟨timed', settled⟩ := ih timed₁
    refine ⟨timed', fun or => settled ?_⟩
    obtain settled₀ | ⟨i, bpdu, mem⟩ := or
    · exact .inl (keeps settled₀)
    · obtain eq | mem := mem_cons.mp mem
      · exact .inl (settles active.1 i bpdu eq.symm)
      · exact .inr ⟨i, bpdu, mem⟩

lemma receiveTick_hello (active : st.Active) (ok : st.receiveTick = .ok (hello, st')) :
    hello = if st.currentHelloTime ≤ st.helloTime + second then some st.countTick.helloBPDUs
      else none := by
  rw [receiveTick, if_pos active.1] at ok
  obtain ⟨eq, -, -⟩ := (handleTick_ends st).of_ok ok
  refine eq.trans ?_
  have counted : st.countTick.helloTime = st.helloTime + second := if_pos active.2
  rw [checkHello, counted]
  change (if st.currentHelloTime ≤ st.helloTime + second then
    if st.isRoot = true then (some st.countTick.helloBPDUs, _) else _ else _).1 = _
  rw [if_pos active.2]
  split_ifs <;> rfl

lemma mem_helloBPDUs {stp : STP numPorts} {i : Fin numPorts} {bpdu : BPDU} :
    (i, bpdu) ∈ stp.helloBPDUs ↔ bpdu = stp.configurationBPDU i false false := by
  rw [helloBPDUs, mem_map]
  constructor
  · rintro ⟨j, -, eq⟩
    cases eq
    rfl
  · rintro rfl
    exact ⟨i, mem_finRange i, rfl⟩

lemma Settled.wrong_hello (nonzero : helloTime ≠ 0) (timed : Timed helloTime st.toSTP)
    (settles : Settled helloTime st.toSTP ∨ ∃ i bpdu, .config i bpdu ∈ messages)
    (run : RootRun st (messages :: rounds) ticks st') (i : Fin numPorts) :
    ∃ sent, some sent ∈ ticks ∧ ∃ bpdu, (i, bpdu) ∈ sent ∧ bpdu.helloTime ≠ helloTime := by
  cases run with
  | @tick _ st₁ st₂ _ _ _ hello _ received ok rest =>
    have settled := (received.timed timed).2 settles
    have current := settled.current received.active.2
    have due : st₁.currentHelloTime ≤ st₁.helloTime + second := by
      have since := settled.since.nonneg
      have current := current.nonneg
      omega
    have sent := receiveTick_hello received.active ok
    rw [if_pos due] at sent
    rw [sent]
    exact ⟨_, mem_cons_self, _, mem_helloBPDUs.mpr rfl, current.ne nonzero⟩

lemma Receives.same (received : Receives st messages st')
    (none : ∀ i bpdu, .config i bpdu ∉ messages) :
    st'.times = st.times ∧ st'.currentHelloTime = st.currentHelloTime := by
  induction received with
  | nil _ => exact ⟨rfl, rfl⟩
  | @cons st st₁ _ message _ _ ok _ ih =>
    obtain ⟨times, current⟩ := ih fun i bpdu mem => none i bpdu (mem_cons_of_mem _ mem)
    cases message with
    | config i bpdu => exact absurd mem_cons_self (none i bpdu)
    | tcn i =>
      rw [receive] at ok
      split_ifs at ok
      · cases ok
        exact ⟨times, current⟩
      · cases ok
        exact ⟨times, current⟩

/-- The parameter is not 0, and there is at most one tick, without a configuration BPDU before it,
while the current Hello time is still the parameter. -/
def StartsUp (helloTime : ℤ) (st : STPModule numPorts) (rounds : List (List (Received numPorts))) :
    Prop :=
  helloTime ≠ 0 ∧ (rounds = [] ∨ ∃ messages, rounds = [messages] ∧
    (∀ i bpdu, .config i bpdu ∉ messages) ∧ st.currentHelloTime = helloTime)

lemma StartsUp.onSchedule (startsUp : StartsUp helloTime st rounds)
    (timed : Timed helloTime st.toSTP) (run : RootRun st rounds ticks st') :
    OnSchedule helloTime st ticks := by
  obtain ⟨nonzero, rfl | ⟨messages, rfl, none, current⟩⟩ := startsUp
  · cases run
    refine ⟨fun window infix_ length => absurd ?_ nonzero, fun sent mem => nomatch mem⟩
    rw [infix_nil.mp infix_, length_nil] at length
    exact ((Int.zero_mul _).symm.trans length).symm
  · cases run with | @tick _ st₁ _ _ _ _ hello _ received ok rest =>
    cases rest
    obtain ⟨times, same⟩ := received.same none
    have timed₁ := (received.timed timed).1
    have since := timed₁.since.nonneg
    have sent := receiveTick_hello received.active ok
    constructor
    · intro window infix_ length
      have le := infix_.length_le
      have one : window = [hello] := infix_.eq_of_length (by
        cases window with
        | nil => exact absurd ((Int.zero_mul _).symm.trans length).symm nonzero
        | cons _ _ => simp only [length_cons, length_nil] at le ⊢; omega)
      rw [one] at length
      have length : second = helloTime := (Int.one_mul _).symm.trans length
      rw [if_pos (by omega)] at sent
      rw [one, sent]
      rfl
    · intro bpdus mem i bpdu mem'
      rw [← mem_singleton.mp mem] at sent
      split_ifs at sent
      cases sent
      rw [mem_helloBPDUs.mp mem']
      obtain ⟨maxAge, fwdDelay⟩ := timed₁.ages received.active.2
      have parameters := Prod.mk.inj (Prod.mk.inj times).2
      exact ⟨same.trans current, maxAge.trans parameters.1, fwdDelay.trans parameters.2⟩

lemma OnSchedule.startsUp (timed : Timed helloTime st.toSTP)
    (run : RootRun st rounds ticks st') (onSchedule : OnSchedule helloTime st ticks)
    (port : Fin numPorts) : StartsUp helloTime st rounds := by
  have nonzero : helloTime ≠ 0 := fun eq =>
    absurd (onSchedule.once [] nil_infix ((Int.zero_mul _).trans eq.symm)) zero_ne_one
  refine ⟨nonzero, ?_⟩
  cases run with
  | nil _ => exact .inl rfl
  | @tick _ st₁ st₂ _ messages rounds hello ticks received ok rest =>
    have right : ∀ sent, some sent ∈ hello :: ticks → ∀ bpdu, (port, bpdu) ∈ sent →
        bpdu.helloTime = helloTime :=
      fun sent mem bpdu mem' => (onSchedule.carried sent mem port bpdu mem').1
    have unsettled : ¬ (Settled helloTime st.toSTP ∨ ∃ i bpdu, .config i bpdu ∈ messages) := by
      intro settles
      obtain ⟨sent, mem, bpdu, mem', ne⟩ :=
        Settled.wrong_hello nonzero timed settles (.tick received ok rest) port
      exact ne (right sent mem bpdu mem')
    rw [not_or, not_exists] at unsettled
    have last : rounds = [] := by
      cases rounds with
      | nil => rfl
      | cons messages' rounds =>
        obtain ⟨timed₂, settled⟩ := receiveTick_timed (received.timed timed).1 ok
        obtain ⟨sent, mem, bpdu, mem', ne⟩ :=
          Settled.wrong_hello nonzero timed₂ (.inl (settled received.active.1)) rest port
        exact absurd (right sent (mem_cons_of_mem _ mem) bpdu mem') ne
    obtain fresh | settled := timed.phase
    · exact .inr ⟨messages, by rw [last], fun i bpdu mem => unsettled.2 i ⟨bpdu, mem⟩,
        fresh.current⟩
    · exact absurd settled unsettled.1

/-- The ticks of a bridge that remains root, from a reachable state on, keep to the schedule while
it starts up; and, if it has a port, only then. -/
theorem onSchedule_iff (reachable : Reachable helloTime st) (run : RootRun st rounds ticks st') :
    (StartsUp helloTime st rounds → OnSchedule helloTime st ticks) ∧
      (0 < numPorts → OnSchedule helloTime st ticks → StartsUp helloTime st rounds) :=
  ⟨fun startsUp => startsUp.onSchedule reachable.timed run,
    fun ports onSchedule => onSchedule.startsUp reachable.timed run ⟨0, ports⟩⟩

/-- One port, a Hello time of two seconds, and the other parameters by default. -/
def newBridge : STPModule 1 where
  bridgePriority := 32768
  bridgeAddress := 1
  maxAge := 20 * second
  helloTime := 2 * second
  forwardDelay := 15 * second
  ports := fun _ =>
    ⟨128, 19, false, .DISCARDING, .NOTASSIGNED, 0, 0, 0, 0, 0, 0, 0, 0, 0, 0, 0, 0, 0, 0, 0⟩
  isRoot := false
  topologyChangeNotification := false
  topologyChangeRecvd := false
  rootPriority := 0
  rootAddress := 0
  rootPathCost := 0
  rootPort := 0
  currentHelloTime := 0
  currentMaxAge := 0
  currentFwdDelay := 0
  desPorts := []
  agingTime := none
  relayOut := []
  isOperational := true
  currentBridgePriority := 0
  tcnOut := []

def firstTick : STPModule 1 :=
  { newBridge.initialization with
    ports := fun i => countPort (newBridge.initialization.ports i)
    helloTime := second
    currentHelloTime := second }

lemma firstTick_run : RootRun newBridge.initialization [[]] [none] firstTick :=
  .tick (.nil ⟨rfl, rfl⟩) (by decide +kernel) (.nil ⟨rfl, rfl⟩)

/-- The first tick is on schedule. -/
theorem onSchedule_firstTick : OnSchedule (2 * second) newBridge.initialization [none] :=
  (onSchedule_iff (.initialization newBridge rfl) firstTick_run).1
    ⟨by decide, .inr ⟨[], rfl, (fun _ _ mem => nomatch mem), rfl⟩⟩

/-- The second tick comes with a Hello that says one second. -/
theorem hello_of_one_second : ∃ (st' : STPModule 1) (hello : Hello 1),
    RootRun newBridge.initialization [[], []] [none, hello] st' ∧
      ¬ OnSchedule (2 * second) newBridge.initialization [none, hello] := by
  have ok : ∃ sent st', firstTick.receiveTick = .ok (some sent, st') ∧ st'.Active ∧
      ∃ bpdu, (0, bpdu) ∈ sent ∧ bpdu.helloTime = second :=
    ⟨_, _, rfl, ⟨rfl, rfl⟩, _, mem_cons_self, rfl⟩
  obtain ⟨sent, st', ok, active, bpdu, mem, wrong⟩ := ok
  have first := firstTick_run
  cases first with | tick received ok₁ rest =>
  cases rest
  refine ⟨st', some sent, .tick received ok₁ (.tick (.nil ⟨rfl, rfl⟩) ok (.nil active)), ?_⟩
  intro onSchedule
  have right := (onSchedule.carried sent (mem_cons_of_mem _ mem_cons_self) 0 bpdu mem).1
  rw [wrong] at right
  exact absurd right (by decide)

end STPModule

end Inet.Ieee8021d
