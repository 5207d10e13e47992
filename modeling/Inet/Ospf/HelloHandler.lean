import Inet.Lib.Along
import Inet.Ospf.DesignatedRouter

/-!
# Hello packets on a broadcast network

`HelloHandler::processPacket` for packets that pass its checks, with its events to neighbor and
interface, and `Neighbor::needAdjacency`. Of a neighbor's state machine the events are here that
Hello packets and elections cause (`nextState`).

For the Designated Router and the Backup a neighbor has the router IDs that the addresses in its
packets were looked up to. They are compared with the roles of the interface where the neighbor
itself should be.
-/

namespace Inet.Ospf.MultiAccess

open Ipv4 Flooding Exchange List

/-- An `OSPFHelloPacket` with its source address. -/
structure HelloPacket where
  source : IPv4Address
  routerID : RouterID
  routerPriority : ℕ
  designatedRouter : IPv4Address
  backupDesignatedRouter : IPv4Address
  neighbors : List IPv4Address
  deriving DecidableEq

/-- What becomes of a neighbor's state, apart from the events of the database exchange. -/
def nextState (needAdjacency : Bool) (state : NeighborStateType) :
    NeighborEventType → NeighborStateType
  | .KILL_NEIGHBOR | .LINK_DOWN | .INACTIVITY_TIMER => .DOWN_STATE
  | .START => if state = .DOWN_STATE then .ATTEMPT_STATE else state
  | .HELLO_RECEIVED =>
      if state = .DOWN_STATE ∨ state = .ATTEMPT_STATE then .INIT_STATE else state
  | .TWOWAY_RECEIVED =>
      if state = .INIT_STATE then
        if needAdjacency then .EXCHANGE_START_STATE else .TWOWAY_STATE
      else state
  | .ONEWAY_RECEIVED =>
      if NeighborStateType.TWOWAY_STATE.toNat ≤ state.toNat then .INIT_STATE else state
  | .IS_ADJACENCY_OK =>
      if state = .TWOWAY_STATE then
        if needAdjacency then .EXCHANGE_START_STATE else .TWOWAY_STATE
      else if NeighborStateType.EXCHANGE_START_STATE.toNat ≤ state.toNat then
        if needAdjacency then state else .TWOWAY_STATE
      else state
  | _ => state

namespace Interface

variable (intf : Interface)

def needAdjacency (neighbor : Neighbor) : Bool :=
  decide (intf.interfaceType = .POINTTOPOINT) || decide (intf.interfaceType = .POINTTOMULTIPOINT) ||
    decide (intf.interfaceType = .VIRTUAL) ||
    decide (intf.designatedRouter.routerID = intf.routerID) ||
    decide (intf.backupDesignatedRouter.routerID = intf.routerID) ||
    (decide (neighbor.neighborsDesignatedRouter.routerID = intf.designatedRouter.routerID) ||
      !neighbor.designatedRoutersSetUp &&
        decide (neighbor.neighborsDesignatedRouter.ipInterfaceAddress =
          intf.designatedRouter.ipInterfaceAddress)) ||
    (decide (neighbor.neighborsBackupDesignatedRouter.routerID =
        intf.backupDesignatedRouter.routerID) ||
      !neighbor.designatedRoutersSetUp &&
        decide (neighbor.neighborsBackupDesignatedRouter.ipInterfaceAddress =
          intf.backupDesignatedRouter.ipInterfaceAddress))

def getNeighborByAddress (address : IPv4Address) : Option Neighbor :=
  intf.neighboringRouters.find? fun neighbor => neighbor.neighborIPAddress = address

/-- A change to the neighbor with the address. -/
def updateNeighbor (address : IPv4Address) (f : Neighbor → Neighbor) : Interface :=
  { intf with
    neighboringRouters := intf.neighboringRouters.map fun neighbor =>
      if neighbor.neighborIPAddress = address then f neighbor else neighbor }

/-- `neighbor->processEvent(event)`. -/
def neighborEvent (event : NeighborEventType) (neighbor : Neighbor) : Neighbor :=
  { neighbor with state := nextState (intf.needAdjacency neighbor) neighbor.state event }

/-- The election, with its events for the neighbors when the roles have been set. -/
def runElection : Interface :=
  let elected := intf.calculateDesignatedRouter.1
  { elected with
    neighboringRouters := elected.neighboringRouters.map fun neighbor =>
      (intf.neighborEvents intf.electTwice neighbor).foldl
        (fun neighbor event => elected.neighborEvent event neighbor) neighbor }

/-- `intf->processEvent(NEIGHBOR_CHANGE)`. -/
def neighborChange : Interface :=
  if intf.state = .NOT_DESIGNATED_ROUTER_STATE ∨ intf.state = .BACKUP_STATE ∨
      intf.state = .DESIGNATED_ROUTER_STATE then
    intf.runElection
  else intf

/-- `intf->processEvent(BACKUP_SEEN)`, or the end of `WAIT_TIMER`. -/
def backupSeen : Interface :=
  if intf.state = .WAITING_STATE then intf.runElection else intf

/-! ### What is recorded -/

/-- The router ID that an address is looked up to, when the packet's sender has its ID. -/
def lookUp (packet : HelloPacket) (address : IPv4Address) : Option RouterID :=
  if address = packet.source then some packet.routerID
  else (intf.getNeighborByAddress address).map Neighbor.neighborID

/-- The record of a neighbor that is known. The addresses are looked up unless both of them have
been found before. -/
def hear (packet : HelloPacket) (neighbor : Neighbor) : Neighbor :=
  let drChanged :=
    decide (packet.designatedRouter ≠ neighbor.neighborsDesignatedRouter.ipInterfaceAddress) ||
      decide (packet.backupDesignatedRouter ≠
        neighbor.neighborsBackupDesignatedRouter.ipInterfaceAddress)
  let neighbor :=
    { neighbor with
      neighborID := packet.routerID
      neighborPriority := packet.routerPriority
      neighborIPAddress := packet.source
      neighborsDesignatedRouter := ⟨packet.designatedRouter, packet.designatedRouter⟩
      neighborsBackupDesignatedRouter :=
        ⟨packet.backupDesignatedRouter, packet.backupDesignatedRouter⟩
      designatedRoutersSetUp := neighbor.designatedRoutersSetUp && !drChanged }
  if neighbor.designatedRoutersSetUp then neighbor
  else
    let designated := intf.lookUp packet packet.designatedRouter
    let backup := intf.lookUp packet packet.backupDesignatedRouter
    { neighbor with
      neighborsDesignatedRouter :=
        ⟨designated.getD packet.designatedRouter, packet.designatedRouter⟩
      neighborsBackupDesignatedRouter :=
        ⟨backup.getD packet.backupDesignatedRouter, packet.backupDesignatedRouter⟩
      designatedRoutersSetUp := designated.isSome && backup.isSome }

/-- A new neighbor, which is not found itself yet. -/
def newNeighbor (packet : HelloPacket) : Neighbor :=
  let designated :=
    (intf.getNeighborByAddress packet.designatedRouter).map Neighbor.neighborID
  let backup :=
    (intf.getNeighborByAddress packet.backupDesignatedRouter).map Neighbor.neighborID
  { neighborID := packet.routerID
    neighborPriority := packet.routerPriority
    neighborIPAddress := packet.source
    state := .DOWN_STATE
    neighborsDesignatedRouter :=
      ⟨designated.getD packet.designatedRouter, packet.designatedRouter⟩
    neighborsBackupDesignatedRouter :=
      ⟨backup.getD packet.backupDesignatedRouter, packet.backupDesignatedRouter⟩
    designatedRoutersSetUp := designated.isSome && backup.isSome }

/-- The neighbor is recorded, known or new. -/
def recordHello (packet : HelloPacket) : Interface :=
  match intf.getNeighborByAddress packet.source with
  | some _ => intf.updateNeighbor packet.source (intf.hear packet)
  | none =>
      { intf with neighboringRouters := intf.neighboringRouters ++ [intf.newNeighbor packet] }

/-- A declaration that the neighbor makes and did not make, or makes no longer. -/
def declarationChanged (source new old : IPv4Address) : Bool :=
  (decide (new = source) && decide (new ≠ old)) || (decide (new ≠ source) && decide (source = old))

/-- The events for the interface: `neighborChanged` and `backupSeen`. Priorities are compared
as signed characters. -/
def changes (packet : HelloPacket) (neighbor : Neighbor) : Bool × Bool :=
  let waiting := decide (intf.state = .WAITING_STATE)
  let designatedSeen := decide (packet.designatedRouter = packet.source) &&
    decide (packet.backupDesignatedRouter = 0) && waiting
  let backupSeen := decide (packet.backupDesignatedRouter = packet.source) && waiting
  ((decide (neighbor.neighborPriority ≠ packet.routerPriority) ||
      decide (128 ≤ packet.routerPriority)) ||
    (!designatedSeen && declarationChanged packet.source packet.designatedRouter
      neighbor.neighborsDesignatedRouter.ipInterfaceAddress) ||
    (!backupSeen && declarationChanged packet.source packet.backupDesignatedRouter
      neighbor.neighborsBackupDesignatedRouter.ipInterfaceAddress), designatedSeen || backupSeen)

/-- `HelloHandler::processPacket`, on a network where neighbors are known by their address. -/
def processPacket (packet : HelloPacket) : Interface :=
  let (neighborChanged, seen) :=
    match intf.getNeighborByAddress packet.source with
    | some neighbor => intf.changes packet neighbor
    | none => (false, false)
  let heard := intf.recordHello packet
  let heard := heard.updateNeighbor packet.source (heard.neighborEvent .HELLO_RECEIVED)
  let heard := heard.updateNeighbor packet.source <| heard.neighborEvent <|
    if intf.interfaceAddress ∈ packet.neighbors then .TWOWAY_RECEIVED else .ONEWAY_RECEIVED
  let changed :=
    if neighborChanged then
      let elected := heard.neighborChange
      { elected with
        neighboringRouters := elected.neighboringRouters.map fun neighbor =>
          if neighbor.state = .TWOWAY_STATE then elected.neighborEvent .IS_ADJACENCY_OK neighbor
          else neighbor }
    else heard
  if seen then changed.backupSeen else changed

end Interface

/-- What happens to an interface. -/
inductive HelloEvent where
  | hello (packet : HelloPacket)
  | waitTimer
  | interfaceUp
  | interfaceDown
  | loopIndication
  | unloopIndication
  /-- A timer of the neighbor, or an event that ends it. -/
  | neighbor (address : IPv4Address) (event : NeighborEventType)
  /-- The database exchange with a neighbor goes on, or starts again. -/
  | exchange (address : IPv4Address) (state : NeighborStateType)

namespace Interface

variable (intf : Interface)

/-- `Interface::reset`, and the state that follows it. -/
def resetTo (state : InterfaceStateType) : Interface :=
  let cleared :=
    { intf with
      designatedRouter := NULL_DESIGNATEDROUTERID
      backupDesignatedRouter := NULL_DESIGNATEDROUTERID
      state := state }
  { cleared with
    neighboringRouters := intf.neighboringRouters.map (cleared.neighborEvent .KILL_NEIGHBOR) }

/-- `InterfaceStateDown::processEvent(INTERFACE_UP)`. -/
def goUp : Interface :=
  match intf.interfaceType with
  | .POINTTOPOINT | .POINTTOMULTIPOINT | .VIRTUAL => { intf with state := .POINTTOPOINT_STATE }
  | .NBMA =>
      if intf.routerPriority = 0 then { intf with state := .NOT_DESIGNATED_ROUTER_STATE }
      else
        { intf with
          state := .WAITING_STATE
          neighboringRouters := intf.neighboringRouters.map fun neighbor =>
            if 0 < neighbor.neighborPriority then intf.neighborEvent .START neighbor
            else neighbor }
  | .BROADCAST =>
      { intf with
        state :=
          if intf.routerPriority = 0 then .NOT_DESIGNATED_ROUTER_STATE else .WAITING_STATE }
  | _ => intf

def step : HelloEvent → Option Interface
  | .hello packet => some (intf.processPacket packet)
  | .waitTimer => some intf.backupSeen
  | .interfaceUp => some (if intf.state = .DOWN_STATE then intf.goUp else intf)
  | .interfaceDown => some (if intf.state = .DOWN_STATE then intf else intf.resetTo .DOWN_STATE)
  | .loopIndication =>
      some (if intf.state = .LOOPBACK_STATE then intf else intf.resetTo .LOOPBACK_STATE)
  | .unloopIndication =>
      some (if intf.state = .LOOPBACK_STATE then { intf with state := .DOWN_STATE } else intf)
  | .neighbor address event => some (intf.updateNeighbor address (intf.neighborEvent event))
  | .exchange address state => some (intf.updateNeighbor address fun neighbor =>
      if NeighborStateType.EXCHANGE_START_STATE.toNat ≤ neighbor.state.toNat ∧
          NeighborStateType.EXCHANGE_START_STATE.toNat ≤ state.toNat then
        { neighbor with state := state }
      else neighbor)

end Interface

namespace Hellos

/-- The last Hello packet of a neighbor; the newest packet is the first of the list. -/
def last (address : IPv4Address) (hellos : List HelloPacket) : Option HelloPacket :=
  hellos.find? fun packet => packet.source = address

/-- The router ID that a neighbor has given for its address. -/
def routerID? (address : IPv4Address) (hellos : List HelloPacket) : Option RouterID :=
  (last address hellos).map HelloPacket.routerID

def sameRoles (packet other : HelloPacket) : Bool :=
  decide (packet.designatedRouter = other.designatedRouter) &&
    decide (packet.backupDesignatedRouter = other.backupDesignatedRouter)

/-- The packets that count when the first packet of the list names an address: a neighbor does not
find itself at its first packet. -/
def known (packet : HelloPacket) (earlier : List HelloPacket) : List HelloPacket :=
  if (last packet.source earlier).isSome then packet :: earlier else earlier

/-- The neighbor has named its two routers before, and both of them have been found. -/
def setUp (address : IPv4Address) : List HelloPacket → Bool
  | [] => false
  | packet :: earlier =>
      if packet.source = address then
        ((last address earlier).any (sameRoles packet) && setUp address earlier) ||
          ((routerID? packet.designatedRouter (known packet earlier)).isSome &&
            (routerID? packet.backupDesignatedRouter (known packet earlier)).isSome)
      else setUp address earlier

/-- The router that a neighbor names by `role`. The address is not looked up again when both routers
have been found before. -/
def named (role : HelloPacket → IPv4Address) (address : IPv4Address) :
    List HelloPacket → RouterID
  | [] => NULL_ROUTERID
  | packet :: earlier =>
      if packet.source = address then
        if (last address earlier).any (sameRoles packet) && setUp address earlier then role packet
        else (routerID? (role packet) (known packet earlier)).getD (role packet)
      else named role address earlier

end Hellos

open Hellos

/-- The neighbor's record is what its packets have said. -/
structure Recorded (hellos : List HelloPacket) (neighbor : Neighbor) : Prop where
  heard : ∃ packet, last neighbor.neighborIPAddress hellos = some packet ∧
    neighbor.neighborID = packet.routerID ∧
    neighbor.neighborsDesignatedRouter.ipInterfaceAddress = packet.designatedRouter ∧
    neighbor.neighborsBackupDesignatedRouter.ipInterfaceAddress = packet.backupDesignatedRouter
  designated : neighbor.neighborsDesignatedRouter.routerID =
    named HelloPacket.designatedRouter neighbor.neighborIPAddress hellos
  backup : neighbor.neighborsBackupDesignatedRouter.routerID =
    named HelloPacket.backupDesignatedRouter neighbor.neighborIPAddress hellos
  setUp : neighbor.designatedRoutersSetUp = setUp neighbor.neighborIPAddress hellos

/-- The neighbors of the interface are those heard of. -/
structure AllRecorded (hellos : List HelloPacket) (intf : Interface) : Prop where
  recorded : ∀ neighbor ∈ intf.neighboringRouters, Recorded hellos neighbor
  known : ∀ address, (last address hellos).isSome →
    ∃ neighbor ∈ intf.neighboringRouters, neighbor.neighborIPAddress = address

/-- The packets of a run, the newest first. -/
def noteHello (_ : Interface) (event : HelloEvent) (hellos : List HelloPacket) :
    List HelloPacket :=
  match event with
  | .hello packet => packet :: hellos
  | _ => hellos

/-- What an event other than a Hello packet leaves alone. -/
def Neighbor.record (neighbor : Neighbor) :
    RouterID × IPv4Address × DesignatedRouterID × DesignatedRouterID × Bool :=
  (neighbor.neighborID, neighbor.neighborIPAddress, neighbor.neighborsDesignatedRouter,
    neighbor.neighborsBackupDesignatedRouter, neighbor.designatedRoutersSetUp)

def Interface.records (intf : Interface) : OSPFInterfaceType ×
    List (RouterID × IPv4Address × DesignatedRouterID × DesignatedRouterID × Bool) :=
  (intf.interfaceType, intf.neighboringRouters.map Neighbor.record)

section

variable {intf intf' : Interface} {hellos : List HelloPacket} {packet : HelloPacket}
  {neighbor neighbor' : Neighbor} {address : IPv4Address} {event : NeighborEventType}

lemma Recorded.congr (same : neighbor'.record = neighbor.record)
    (recorded : Recorded hellos neighbor) : Recorded hellos neighbor' := by
  obtain ⟨id, priority, ip, state, designated, backup, setUp⟩ := neighbor
  cases same
  exact ⟨recorded.heard, recorded.designated, recorded.backup, recorded.setUp⟩

lemma AllRecorded.congr (same : intf'.records = intf.records)
    (all : AllRecorded hellos intf) : AllRecorded hellos intf' := by
  have neighbors : intf'.neighboringRouters.map Neighbor.record =
      intf.neighboringRouters.map Neighbor.record := (Prod.mk.inj same).2
  constructor
  · intro neighbor' mem'
    have here := neighbors ▸ mem_map_of_mem mem'
    obtain ⟨neighbor, mem, eq⟩ := mem_map.mp here
    exact (all.recorded neighbor mem).congr eq.symm
  · intro address heard
    obtain ⟨neighbor, mem, rfl⟩ := all.known address heard
    have here := neighbors.symm ▸ mem_map_of_mem mem
    obtain ⟨neighbor', mem', eq⟩ := mem_map.mp here
    exact ⟨neighbor', mem', (Prod.mk.inj (Prod.mk.inj eq).2).1⟩

lemma records_map {f : Neighbor → Neighbor}
    (same : ∀ neighbor, (f neighbor).record = neighbor.record) :
    { intf with neighboringRouters := intf.neighboringRouters.map f }.records = intf.records := by
  refine Prod.ext rfl ?_
  refine map_map.trans (map_congr_left fun neighbor _ => same neighbor)

lemma record_neighborEvent : (intf.neighborEvent event neighbor).record = neighbor.record := rfl

lemma records_updateNeighbor {f : Neighbor → Neighbor}
    (same : ∀ neighbor, (f neighbor).record = neighbor.record) :
    (intf.updateNeighbor address f).records = intf.records := by
  refine records_map fun neighbor => ?_
  split_ifs
  · exact same neighbor
  · rfl

lemma records_runElection : intf.runElection.records = intf.records := by
  refine (@records_map intf.calculateDesignatedRouter.1 _ fun neighbor => ?_).trans rfl
  generalize intf.neighborEvents intf.electTwice neighbor = events
  induction events generalizing neighbor with
  | nil => rfl
  | cons event events ih => exact (ih _).trans record_neighborEvent

lemma records_backupSeen : intf.backupSeen.records = intf.records := by
  rw [Interface.backupSeen]
  split_ifs
  · exact records_runElection
  · rfl

lemma records_neighborChange : intf.neighborChange.records = intf.records := by
  rw [Interface.neighborChange]
  split_ifs
  · exact records_runElection
  · rfl

lemma records_processPacket :
    (intf.processPacket packet).records = (intf.recordHello packet).records := by
  have event : ∀ (intf : Interface) event,
      (intf.updateNeighbor packet.source (intf.neighborEvent event)).records = intf.records :=
    fun intf event => records_updateNeighbor fun _ => record_neighborEvent
  rw [Interface.processPacket]
  dsimp only
  rw [← event (intf.recordHello packet) .HELLO_RECEIVED]
  generalize (intf.recordHello packet).updateNeighbor packet.source
    ((intf.recordHello packet).neighborEvent .HELLO_RECEIVED) = heard
  rw [← event heard]
  generalize heard.updateNeighbor packet.source _ = heard'
  have changed : ∀ b : Bool, (if b = true then
      { heard'.neighborChange with
        neighboringRouters := heard'.neighborChange.neighboringRouters.map fun neighbor =>
          if neighbor.state = .TWOWAY_STATE then
            heard'.neighborChange.neighborEvent .IS_ADJACENCY_OK neighbor
          else neighbor }
      else heard').records = heard'.records := by
    intro b
    split_ifs
    · refine (records_map fun neighbor => ?_).trans records_neighborChange
      split_ifs <;> rfl
    · rfl
  split_ifs
  all_goals first
    | exact records_backupSeen.trans (changed true)
    | exact changed true
    | exact records_backupSeen
    | rfl

/-! ### A Hello packet -/

lemma last_cons_of_ne (ne : packet.source ≠ address) :
    last address (packet :: hellos) = last address hellos :=
  find?_cons_of_neg (by simpa using ne)

lemma last_cons_self : last packet.source (packet :: hellos) = some packet :=
  find?_cons_of_pos (decide_eq_true rfl)

lemma Recorded.cons (recorded : Recorded hellos neighbor)
    (ne : packet.source ≠ neighbor.neighborIPAddress) : Recorded (packet :: hellos) neighbor := by
  refine ⟨?_, ?_, ?_, ?_⟩
  · rw [last_cons_of_ne ne]
    exact recorded.heard
  · rw [named, if_neg ne]
    exact recorded.designated
  · rw [named, if_neg ne]
    exact recorded.backup
  · rw [Hellos.setUp, if_neg ne]
    exact recorded.setUp

variable (all : AllRecorded hellos intf)
include all

lemma AllRecorded.routerID? (address : IPv4Address) :
    (intf.getNeighborByAddress address).map Neighbor.neighborID = routerID? address hellos := by
  rw [Hellos.routerID?]
  cases found : intf.getNeighborByAddress address with
  | some neighbor =>
    have test := find?_some found
    have here : neighbor.neighborIPAddress = address := of_decide_eq_true test
    obtain ⟨packet, heard, id, -⟩ := (all.recorded neighbor (mem_of_find?_eq_some found)).heard
    rw [here] at heard
    rw [heard, Option.map_some, Option.map_some, id]
  | none =>
    cases heard : last address hellos with
    | none => rfl
    | some packet =>
      obtain ⟨neighbor, mem, here⟩ := all.known address (Option.isSome_iff_exists.mpr ⟨_, heard⟩)
      exact absurd (decide_eq_true here) (find?_eq_none.mp found neighbor mem)

lemma AllRecorded.lookUp (address : IPv4Address) :
    intf.lookUp packet address = Hellos.routerID? address (packet :: hellos) := by
  rw [Interface.lookUp]
  split_ifs with self
  · rw [Hellos.routerID?, self, last_cons_self]
    rfl
  · rw [all.routerID?, Hellos.routerID?, Hellos.routerID?, last_cons_of_ne (Ne.symm self)]

lemma Recorded.hear (recorded : Recorded hellos neighbor)
    (self : neighbor.neighborIPAddress = packet.source) :
    Recorded (packet :: hellos) (intf.hear packet neighbor) := by
  obtain ⟨old, heard, -, designated, backup⟩ := recorded.heard
  have setUp := recorded.setUp
  rw [self] at heard setUp
  have knownHere : known packet hellos = packet :: hellos := by
    rw [known, heard]
    rfl
  have again : ((last packet.source hellos).any (sameRoles packet) &&
      Hellos.setUp packet.source hellos) = (neighbor.designatedRoutersSetUp &&
        !(decide (packet.designatedRouter ≠
            neighbor.neighborsDesignatedRouter.ipInterfaceAddress) ||
          decide (packet.backupDesignatedRouter ≠
            neighbor.neighborsBackupDesignatedRouter.ipInterfaceAddress))) := by
    rw [heard, setUp, Option.any_some, sameRoles, designated, backup, Bool.and_comm]
    simp
  rw [Interface.hear]
  rw [← again, all.lookUp, all.lookUp]
  cases settled : (last packet.source hellos).any (sameRoles packet) &&
      Hellos.setUp packet.source hellos with
  | true =>
    rw [if_pos rfl]
    refine ⟨⟨packet, last_cons_self, rfl, rfl, rfl⟩, ?_, ?_, ?_⟩
    · rw [named, if_pos rfl, if_pos settled]
    · rw [named, if_pos rfl, if_pos settled]
    · rw [Hellos.setUp, if_pos rfl, settled, Bool.true_or]
  | false =>
    rw [if_neg Bool.false_ne_true]
    refine ⟨⟨packet, last_cons_self, rfl, rfl, rfl⟩, ?_, ?_, ?_⟩
    · rw [named, if_pos rfl, if_neg (Bool.eq_false_iff.mp settled), knownHere]
    · rw [named, if_pos rfl, if_neg (Bool.eq_false_iff.mp settled), knownHere]
    · rw [Hellos.setUp, if_pos rfl, settled, Bool.false_or, knownHere]

lemma Recorded.newNeighbor (unknown : intf.getNeighborByAddress packet.source = none) :
    Recorded (packet :: hellos) (intf.newNeighbor packet) := by
  have never : last packet.source hellos = none := by
    have id := all.routerID? packet.source
    rw [unknown, Option.map_none, Hellos.routerID?] at id
    exact Option.map_eq_none_iff.mp id.symm
  have knownHere : known packet hellos = hellos := by
    rw [known, never]
    rfl
  refine ⟨⟨packet, last_cons_self, rfl, rfl, rfl⟩, ?_, ?_, ?_⟩
  · rw [Interface.newNeighbor, named, if_pos rfl, never, knownHere, ← all.routerID?]
    rfl
  · rw [Interface.newNeighbor, named, if_pos rfl, never, knownHere, ← all.routerID?]
    rfl
  · rw [Interface.newNeighbor, Hellos.setUp, if_pos rfl, never, knownHere, ← all.routerID?,
      ← all.routerID?]
    rfl

lemma AllRecorded.recordHello : AllRecorded (packet :: hellos) (intf.recordHello packet) := by
  rw [Interface.recordHello]
  cases found : intf.getNeighborByAddress packet.source with
  | some sender =>
    have test := find?_some found
    have source : sender.neighborIPAddress = packet.source := of_decide_eq_true test
    have address : ∀ neighbor, (if neighbor.neighborIPAddress = packet.source then
        intf.hear packet neighbor else neighbor).neighborIPAddress =
          neighbor.neighborIPAddress := by
      intro neighbor
      split_ifs with self
      · rw [self, Interface.hear]
        split_ifs <;> rfl
      · rfl
    constructor
    · intro neighbor mem
      obtain ⟨before, here, rfl⟩ := mem_map.mp mem
      split_ifs with self
      · exact (all.recorded before here).hear all self
      · exact (all.recorded before here).cons (Ne.symm self)
    · intro a heard
      by_cases self : packet.source = a
      · refine ⟨_, mem_map_of_mem (mem_of_find?_eq_some found), ?_⟩
        rw [address, source, self]
      · rw [last_cons_of_ne self] at heard
        obtain ⟨neighbor, here, rfl⟩ := all.known a heard
        exact ⟨_, mem_map_of_mem here, address neighbor⟩
  | none =>
    constructor
    · intro neighbor mem
      rcases mem_append.mp mem with here | new
      · refine (all.recorded neighbor here).cons ?_
        intro self
        exact absurd (decide_eq_true self.symm) (find?_eq_none.mp found neighbor here)
      · obtain rfl := mem_singleton.mp new
        exact .newNeighbor all found
    · intro a heard
      by_cases self : packet.source = a
      · exact ⟨_, mem_append_right _ (mem_singleton_self _), self⟩
      · rw [last_cons_of_ne self] at heard
        obtain ⟨neighbor, here, eq⟩ := all.known a heard
        exact ⟨neighbor, mem_append_left _ here, eq⟩

/-! ### A run -/

omit all in
lemma records_resetTo (state : InterfaceStateType) :
    (intf.resetTo state).records = intf.records :=
  @records_map { intf with
    designatedRouter := NULL_DESIGNATEDROUTERID
    backupDesignatedRouter := NULL_DESIGNATEDROUTERID
    state := state } _ fun _ => rfl

omit all in
lemma records_goUp : intf.goUp.records = intf.records := by
  rw [Interface.goUp]
  split
  case h_4 =>
    split_ifs
    · rfl
    · refine @records_map { intf with state := .WAITING_STATE } _ fun neighbor => ?_
      split_ifs <;> rfl
  all_goals rfl

lemma AllRecorded.step {e : HelloEvent}
    (next : intf.step e = some intf') : AllRecorded (noteHello intf e hellos) intf' := by
  cases e with
  | hello packet =>
    cases next
    exact all.recordHello.congr records_processPacket
  | waitTimer =>
    cases next
    exact all.congr records_backupSeen
  | interfaceUp =>
    cases next
    split_ifs
    · exact all.congr records_goUp
    · exact all
  | interfaceDown =>
    cases next
    split_ifs
    · exact all
    · exact all.congr (records_resetTo _)
  | loopIndication =>
    cases next
    split_ifs
    · exact all
    · exact all.congr (records_resetTo _)
  | unloopIndication =>
    cases next
    refine all.congr ?_
    split_ifs <;> rfl
  | neighbor address event =>
    cases next
    exact all.congr (records_updateNeighbor fun _ => rfl)
  | exchange address state =>
    cases next
    refine all.congr (records_updateNeighbor fun neighbor => ?_)
    split_ifs <;> rfl

omit all

lemma interfaceType_step {e : HelloEvent} (next : intf.step e = some intf') :
    intf'.interfaceType = intf.interfaceType := by
  have type : ∀ {a b : Interface}, a.records = b.records → a.interfaceType = b.interfaceType :=
    fun same => (Prod.mk.inj same).1
  cases e with
  | hello packet =>
    cases next
    refine (type records_processPacket).trans ?_
    rw [Interface.recordHello]
    split <;> rfl
  | waitTimer =>
    cases next
    exact type records_backupSeen
  | interfaceUp =>
    cases next
    split_ifs
    · exact type records_goUp
    · rfl
  | interfaceDown | loopIndication | unloopIndication =>
    cases next
    split_ifs <;> rfl
  | neighbor | exchange =>
    cases next
    rfl

lemma AllRecorded.nil (noNeighbors : intf.neighboringRouters = []) : AllRecorded [] intf :=
  ⟨fun _ mem => absurd (noNeighbors ▸ mem) not_mem_nil, fun _ heard => by cases heard⟩

end

lemma recorded_of_reached {intf intf' : Interface} {hellos hellos' : List HelloPacket}
    {events : List HelloEvent} (all : AllRecorded hellos intf)
    (run : runFrom (withHistory Interface.step noteHello) (intf, hellos) events =
      some (intf', hellos')) :
    AllRecorded hellos' intf' ∧ intf'.interfaceType = intf.interfaceType := by
  refine kept_of_reached (K := fun later said => AllRecorded said later ∧
    later.interfaceType = intf.interfaceType) ?_ ⟨all, rfl⟩ run
  intro middle said e after kept next
  exact ⟨kept.1.step next, (interfaceType_step next).trans kept.2⟩

/-- The router itself is Designated Router or Backup, or the neighbor is. -/
def Interface.OwnRole (intf : Interface) : Prop :=
  intf.designatedRouter.routerID = intf.routerID ∨
    intf.backupDesignatedRouter.routerID = intf.routerID

def Interface.NeighborsRole (intf : Interface) (neighbor : Neighbor) : Prop :=
  neighbor.neighborID = intf.designatedRouter.routerID ∨
    neighbor.neighborID = intf.backupDesignatedRouter.routerID

/-- The neighbor names the router that has the role here: by the router ID, or by the address as
long as not both of its routers have been found. -/
def NamesSame (role : HelloPacket → IPv4Address) (router : DesignatedRouterID)
    (address : IPv4Address) (hellos : List HelloPacket) : Prop :=
  named role address hellos = router.routerID ∨ (setUp address hellos = false ∧
      (last address hellos).map role = some router.ipInterfaceAddress)

/-- The neighbor agrees about one of the two routers. -/
def Interface.AgreesAbout (intf : Interface) (neighbor : Neighbor) (hellos : List HelloPacket) :
    Prop :=
  NamesSame HelloPacket.designatedRouter intf.designatedRouter neighbor.neighborIPAddress hellos ∨
    NamesSame HelloPacket.backupDesignatedRouter intf.backupDesignatedRouter
      neighbor.neighborIPAddress hellos

lemma needAdjacency_eq_true {intf : Interface} {neighbor : Neighbor} {hellos : List HelloPacket}
    (broadcast : intf.interfaceType = .BROADCAST) (recorded : Recorded hellos neighbor) :
    intf.needAdjacency neighbor = true ↔ intf.OwnRole ∨ intf.AgreesAbout neighbor hellos := by
  obtain ⟨packet, heard, -, designated, backup⟩ := recorded.heard
  have test : ∀ (role : HelloPacket → IPv4Address) (router theirs : DesignatedRouterID),
      theirs.routerID = named role neighbor.neighborIPAddress hellos →
      theirs.ipInterfaceAddress = role packet →
      ((theirs.routerID = router.routerID ∨ neighbor.designatedRoutersSetUp = false ∧
        theirs.ipInterfaceAddress = router.ipInterfaceAddress) ↔
          NamesSame role router neighbor.neighborIPAddress hellos) := by
    intro role router theirs id address
    rw [NamesSame, id, address, recorded.setUp, heard, Option.map_some, Option.some_inj]
  rw [Interface.OwnRole, Interface.AgreesAbout,
    ← test _ intf.designatedRouter _ recorded.designated designated,
    ← test _ intf.backupDesignatedRouter _ recorded.backup backup]
  simp [Interface.needAdjacency, broadcast, or_assoc]

/-- A broadcast interface forms adjacencies with the Designated Router and the Backup exactly when
the neighbors that agree about one of the two are these routers themselves, or the router itself is
one of them. Two other routers stay in 2-Way only when they agree about neither. -/
theorem needAdjacency_iff {start intf : Interface} {hellos : List HelloPacket}
    {events : List HelloEvent} (broadcast : start.interfaceType = .BROADCAST)
    (noNeighbors : start.neighboringRouters = [])
    (run : runFrom (withHistory Interface.step noteHello) (start, []) events = some (intf, hellos))
    (neighbor : Neighbor) (mem : neighbor ∈ intf.neighboringRouters) :
    (((intf.needAdjacency neighbor = true ↔ intf.OwnRole ∨ intf.NeighborsRole neighbor) ↔
      intf.OwnRole ∨ (intf.AgreesAbout neighbor hellos ↔ intf.NeighborsRole neighbor))) ∧
    (¬ intf.OwnRole → ¬ intf.NeighborsRole neighbor → neighbor.state = .TWOWAY_STATE →
      ((intf.neighborEvent .IS_ADJACENCY_OK neighbor).state = .TWOWAY_STATE ↔
        ¬ intf.AgreesAbout neighbor hellos)) := by
  obtain ⟨all, type⟩ := recorded_of_reached (.nil noNeighbors) run
  have test := needAdjacency_eq_true (type.trans broadcast) (all.recorded neighbor mem)
  constructor
  · rw [test]
    by_cases own : intf.OwnRole
    · exact iff_of_true (iff_of_true (.inl own) (.inl own)) (.inl own)
    · rw [or_iff_right own, or_iff_right own, or_iff_right own]
  · intro notOwn _ state
    have agrees : intf.needAdjacency neighbor = true ↔ intf.AgreesAbout neighbor hellos :=
      test.trans (or_iff_right notOwn)
    rw [← agrees, Interface.neighborEvent, state]
    cases intf.needAdjacency neighbor <;> simp [nextState]

/-- A router that may be elected, with an interface that waits for Hello packets. -/
def otherRouter : Interface where
  routerID := 33
  interfaceType := .BROADCAST
  state := .WAITING_STATE
  interfaceAddress := 3
  routerPriority := 1
  designatedRouter := NULL_DESIGNATEDROUTERID
  backupDesignatedRouter := NULL_DESIGNATEDROUTERID
  neighboringRouters := []

/-- The Hello packet of a router that takes the first two addresses for the Designated Router's and
the Backup's. -/
def agreeingHello (source : IPv4Address) (routerID : RouterID) : HelloEvent :=
  .hello ⟨source, routerID, 1, 1, 2, [1, 2, 3, 4]⟩

/-- Both routers are heard of twice, and then another router. -/
def agreeing : List HelloEvent :=
  [agreeingHello 1 11, agreeingHello 2 22, agreeingHello 1 11, agreeingHello 2 22,
    agreeingHello 4 44]

def agreed : Interface × List HelloPacket :=
  (runFrom (withHistory Interface.step noteHello) (otherRouter, []) agreeing).getD (otherRouter, [])

lemma agreed_eq :
    runFrom (withHistory Interface.step noteHello) (otherRouter, []) agreeing = some agreed := by
  decide +kernel

def agreedOther : Neighbor := agreed.1.neighboringRouters.get ⟨2, by decide +kernel⟩

/-- Everybody agrees, and there is an adjacency with the last router as well. -/
theorem needAdjacency_agreed :
    (((agreed.1.needAdjacency agreedOther = true ↔
        agreed.1.OwnRole ∨ agreed.1.NeighborsRole agreedOther) ↔
      agreed.1.OwnRole ∨
        (agreed.1.AgreesAbout agreedOther agreed.2 ↔ agreed.1.NeighborsRole agreedOther))) ∧
    (¬ agreed.1.OwnRole → ¬ agreed.1.NeighborsRole agreedOther → agreedOther.state = .TWOWAY_STATE →
      ((agreed.1.neighborEvent .IS_ADJACENCY_OK agreedOther).state = .TWOWAY_STATE ↔
        ¬ agreed.1.AgreesAbout agreedOther agreed.2)) :=
  @needAdjacency_iff otherRouter _ _ agreeing rfl rfl agreed_eq agreedOther (get_mem _ _)

/-- The last router is neither Designated Router nor Backup, as this one is not. -/
theorem needAdjacency_otherRouters :
    ¬ ∀ (start intf : Interface) (hellos : List HelloPacket) (events : List HelloEvent),
      start.interfaceType = .BROADCAST → start.neighboringRouters = [] →
      runFrom (withHistory Interface.step noteHello) (start, []) events = some (intf, hellos) →
      ∀ neighbor ∈ intf.neighboringRouters,
        (intf.needAdjacency neighbor = true ↔ intf.OwnRole ∨ intf.NeighborsRole neighbor) := by
  intro claim
  have onlyWithRole := claim otherRouter agreed.1 agreed.2 agreeing rfl rfl agreed_eq
  have last : ∃ neighbor ∈ agreed.1.neighboringRouters, agreed.1.needAdjacency neighbor = true ∧
      ¬ (agreed.1.OwnRole ∨ agreed.1.NeighborsRole neighbor) := by
    simp only [Interface.OwnRole, Interface.NeighborsRole]
    decide +kernel
  obtain ⟨neighbor, mem, needed, noRole⟩ := last
  exact noRole ((onlyWithRole neighbor mem).mp needed)

end Inet.Ospf.MultiAccess
