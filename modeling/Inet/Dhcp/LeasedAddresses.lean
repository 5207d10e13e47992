import Inet.Dhcp.DHCPServer
import Inet.Lib.Ledger
import Inet.Lib.Outcome

/-!
# Who is told of which address

The leases with the announced addresses are a ledger. A DISCOVER that asks for an address gets it,
free or not and in the pool or not; without these the server never tells two clients of one address.
-/

namespace Inet.Dhcp.DHCPServer

open Ipv4 Ledger OrderedMap

variable {server server' : DHCPServer} {a : Arrival} {interfaceId : ℤ} {ip : IPv4Address}
  {lease : DHCPLease} {msg : DHCPMessage}

/-! ## The ledger of a server -/

/-- The address and the client of an OFFER or an ACK. -/
def told (msg : DHCPMessage) : Option (IPv4Address × MACAddress) :=
  if msg.options.messageType = .dhcpoffer ∨ msg.options.messageType = .dhcpack then
    some (msg.yiaddr, msg.chaddr)
  else none

def ledger (server : DHCPServer) : Ledger IPv4Address MACAddress where
  holder ip := (server.leased.get? ip).map DHCPLease.mac
  announced := server.sent.filterMap fun sent => told sent.message

/-- The address is one of the pool. -/
def inPool (server : DHCPServer) (ip : IPv4Address) : Prop :=
  (ip - server.ipAddressStart).toNat < server.maxNumOfClients.toNat

instance (server : DHCPServer) (ip : IPv4Address) : Decidable (server.inPool ip) :=
  inferInstanceAs (Decidable (_ < _))

/-- Between messages every lease is leased, and kept under its address. -/
def Booked (server : DHCPServer) : Prop :=
  ∀ ip lease, (ip, lease) ∈ server.leased → lease.ip = ip ∧ lease.leased = true

variable {mac : MACAddress}

lemma holder_eq_some :
    server.ledger.holder ip = some mac ↔
      ∃ lease, (ip, lease) ∈ server.leased ∧ lease.mac = mac := by
  unfold ledger
  simp only [Option.map_eq_some_iff, get?_eq_some]

lemma holder_eq_none : server.ledger.holder ip = none ↔ server.leased.get? ip = none := by
  unfold ledger
  simp only [Option.map_eq_none_iff]

/-- A lease is written, and its client told of it. -/
structure Writes (ip : IPv4Address) (lease : DHCPLease) (server server' : DHCPServer) : Prop where
  leased : server'.leased = server.leased.put ip lease
  announced : server'.ledger.announced = server.ledger.announced ++ [(lease.ip, lease.mac)]
  ipAddressStart : server'.ipAddressStart = server.ipAddressStart
  maxNumOfClients : server'.maxNumOfClients = server.maxNumOfClients

lemma sendOffer_writes (a : Arrival) (interfaceId : ℤ) :
    Writes ip { lease with leaseTime := a.now } server
      (server.sendOffer ip lease a interfaceId) where
  leased := rfl
  announced := List.filterMap_append ..
  ipAddressStart := rfl
  maxNumOfClients := rfl

lemma sendACK_writes (a : Arrival) (interfaceId : ℤ) :
    Writes ip { lease with leaseTime := a.now } server (server.sendACK ip lease a interfaceId) where
  leased := rfl
  announced := List.filterMap_append ..
  ipAddressStart := rfl
  maxNumOfClients := rfl

lemma sendNAK_ledger :
    (server.sendNAK a interfaceId).ledger = server.ledger := by
  unfold ledger
  congr 1
  exact (List.filterMap_append ..).trans (List.append_nil _)

namespace Writes

variable (writes : Writes ip lease server server')
include writes

lemma booked (booked : Booked server) (own : lease.ip = ip)
    (isLeased : lease.leased = true) : Booked server' := by
  intro ip' lease' mem
  rw [writes.leased] at mem
  rcases mem_put.mp mem with new | ⟨before, -⟩
  · cases new
    exact ⟨own, isLeased⟩
  · exact booked ip' lease' before

lemma holder :
    server'.ledger.holder = Function.update server.ledger.holder ip (some lease.mac) := by
  funext ip'
  refine Option.ext fun mac => ?_
  rw [holder_eq_some, Function.update_apply, writes.leased]
  simp only [mem_put]
  split
  case isTrue same =>
    subst same
    constructor
    · rintro ⟨lease', new | ⟨-, apart⟩, rfl⟩
      · cases new
        rfl
      · exact absurd rfl apart
    · intro eq
      exact ⟨lease, .inl rfl, Option.some.inj eq⟩
  case isFalse apart =>
    rw [holder_eq_some]
    refine exists_congr fun lease' => and_congr_left' ⟨?_, fun mem => .inr ⟨mem, apart⟩⟩
    rintro (new | ⟨before, -⟩)
    · cases new
      exact absurd rfl apart
    · exact before

lemma announce (own : lease.ip = ip) (holds : server.ledger.holder ip = some lease.mac) :
    server'.ledger = server.ledger.make (.announce ip lease.mac) := by
  have holder := writes.holder
  rw [← holds, Function.update_eq_self] at holder
  have announced := writes.announced
  rw [own] at announced
  exact congrArg₂ Ledger.mk holder announced

lemma grant (own : lease.ip = ip) :
    server'.ledger = server.ledger.make (.grant ip lease.mac) := by
  have announced := writes.announced
  rw [own] at announced
  exact congrArg₂ Ledger.mk writes.holder announced

end Writes

lemma getLeaseByMac_some (found : server.getLeaseByMac mac = some (ip, lease)) :
    (ip, lease) ∈ server.leased ∧ lease.mac = mac := by
  obtain ⟨mem, test, -⟩ := find?_eq_some.mp found
  exact ⟨mem, of_decide_eq_true test⟩

lemma getLeaseByMac_none (unknown : server.getLeaseByMac mac = none)
    (ip : IPv4Address) : server.ledger.holder ip ≠ some mac := by
  intro holds
  obtain ⟨lease, mem, same⟩ := holder_eq_some.mp holds
  exact of_decide_eq_false (find?_eq_none.mp unknown _ mem) same

lemma leaseFor_ip (booked : Booked server) : (server.leaseFor ip).ip = ip := by
  unfold leaseFor
  split
  case h_1 lease found =>
    split
    · rfl
    · exact (booked ip lease (get?_eq_some.mp found)).1
  case h_2 => rfl

lemma inPool_poolAddress {i : ℕ} (lt : i < server.maxNumOfClients.toNat) :
    server.inPool (server.poolAddress i) := by
  unfold inPool poolAddress
  rw [add_comm, add_sub_cancel_right, BitVec.toNat_ofNat,
    Nat.mod_eq_of_lt (lt.trans server.maxNumOfClients.toNat_lt)]
  exact lt

lemma getAvailableLease_unspecified {requestedAddress : IPv4Address} (booked : Booked server)
    (unspecified : requestedAddress.isUnspecified)
    (found : server.getAvailableLease requestedAddress = some (ip, lease)) :
    lease = server.leaseFor ip ∧ server.leased.get? ip = none ∧ server.inPool ip := by
  unfold getAvailableLease at found
  rw [if_neg (not_not.mpr unspecified)] at found
  obtain ⟨ip', first, same⟩ := Option.map_eq_some_iff.mp found
  cases same
  obtain ⟨i, mem, rfl⟩ := List.mem_map.mp (List.mem_of_find?_eq_some first)
  have free := List.find?_some first
  refine ⟨rfl, ?_, inPool_poolAddress (List.mem_range.mp mem)⟩
  cases held : server.leased.get? (server.poolAddress i) with
  | none => rfl
  | some lease =>
    rw [held] at free
    have isLeased := (booked _ lease (get?_eq_some.mp held)).2
    simp [isLeased] at free

/-! ## One message -/

/-- A DISCOVER of a client that holds no lease asks for no address, or for a free one of the
pool. -/
def AsksForFree (arrival : Arrival) (server : DHCPServer) : Prop :=
  arrival.packet.op = .bootrequest → arrival.packet.options.messageType = .dhcpdiscover →
    server.getLeaseByMac arrival.packet.chaddr = none →
    ¬ arrival.packet.options.requestedIp.isUnspecified →
    server.leased.get? arrival.packet.options.requestedIp = none ∧
      server.inPool arrival.packet.options.requestedIp

instance (arrival : Arrival) (server : DHCPServer) : Decidable (AsksForFree arrival server) :=
  inferInstanceAs (Decidable (_ → _ → _ → _ → _ ∧ _))

/-- A message is a legal move in the ledger, and a fresh one exactly under the condition. -/
structure Moves (condition : Prop) (server server' : DHCPServer)
    (move : Move IPv4Address MACAddress) : Prop where
  legal : Legal server.ledger move
  made : server'.ledger = server.ledger.make move
  booked : Booked server'
  inPool : server'.inPool = server.inPool
  fresh : Fresh server.inPool server.ledger move ↔ condition

lemma Writes.inPool (writes : Writes ip lease server server') :
    server'.inPool = server.inPool := by
  unfold DHCPServer.inPool
  rw [writes.ipAddressStart, writes.maxNumOfClients]

variable {condition : Prop}

lemma Moves.keep (booked : Booked server') (made : server'.ledger = server.ledger)
    (inPool : server'.inPool = server.inPool) (holds : condition) :
    Moves condition server server' .keep :=
  ⟨trivial, made, booked, inPool, iff_of_true trivial holds⟩

lemma Moves.announce {before : DHCPLease} (booked : Booked server)
    (mem : (ip, before) ∈ server.leased) (writes : Writes ip lease server server')
    (own : lease.ip = before.ip) (mac : lease.mac = before.mac) (isLeased : lease.leased = true)
    (holds : condition) : Moves condition server server' (.announce ip lease.mac) := by
  have own : lease.ip = ip := own.trans (booked ip before mem).1
  have holder : server.ledger.holder ip = some lease.mac :=
    holder_eq_some.mpr ⟨before, mem, mac.symm⟩
  exact {
    legal := holder
    made := writes.announce own holder
    booked := writes.booked booked own isLeased
    inPool := writes.inPool
    fresh := iff_of_true trivial holds }

lemma processDiscover_moves (booked : Booked server) (op : a.packet.op = .bootrequest)
    (discover : a.packet.options.messageType = .dhcpdiscover) :
    ∃ move, Moves (AsksForFree a server) server (server.processDiscover a interfaceId) move := by
  unfold processDiscover
  dsimp only
  split
  case h_1 unknown =>
    split
    case h_1 ip lease found =>
      refine ⟨.grant ip a.packet.chaddr, ?_⟩
      suffices granted : lease.ip = ip ∧
          (Fresh server.inPool server.ledger (.grant ip a.packet.chaddr) ↔ AsksForFree a server) by
        let offered := { lease with
          mac := a.packet.chaddr, xid := a.packet.xid, leased := true }
        have writes : Writes ip { offered with leaseTime := a.now } server
            (server.sendOffer ip offered a interfaceId) :=
          sendOffer_writes a interfaceId
        exact {
          legal := getLeaseByMac_none unknown
          made := writes.grant granted.1
          booked := writes.booked booked granted.1 rfl
          inPool := writes.inPool
          fresh := granted.2 }
      change lease.ip = ip ∧ (server.ledger.holder ip = none ∧ server.inPool ip ↔ _)
      rw [holder_eq_none]
      by_cases asks : a.packet.options.requestedIp.isUnspecified
      · obtain ⟨rfl, free, pool⟩ := getAvailableLease_unspecified booked asks found
        exact ⟨leaseFor_ip booked, iff_of_true ⟨free, pool⟩ fun _ _ _ asks' => absurd asks asks'⟩
      · unfold getAvailableLease at found
        rw [if_pos asks] at found
        cases found
        exact ⟨leaseFor_ip booked, fun free _ _ _ _ => free,
          fun free => free op discover unknown asks⟩
    case h_2 none =>
      refine ⟨.keep, .keep booked rfl rfl fun _ _ _ asks => ?_⟩
      unfold getAvailableLease at none
      rw [if_pos asks] at none
      cases none
  case h_2 ip lease known =>
    obtain ⟨mem, mac⟩ := getLeaseByMac_some known
    have isLeased := (booked ip lease mem).2
    refine ⟨_, .announce booked mem (sendOffer_writes ..) rfl rfl isLeased fun _ _ unknown => ?_⟩
    rw [known] at unknown
    cases unknown

lemma acknowledge_moves (booked : Booked server) (mem : (ip, lease) ∈ server.leased)
    (holds : condition) :
    ∃ move, Moves condition server (server.acknowledge ip lease a interfaceId) move :=
  ⟨_, .announce booked mem (sendACK_writes ..) rfl rfl rfl holds⟩

lemma sendNAK_moves (booked : Booked server) (holds : condition) :
    ∃ move, Moves condition server (server.sendNAK a interfaceId) move :=
  ⟨_, .keep booked sendNAK_ledger rfl holds⟩

lemma processRequest_moves (booked : Booked server) (holds : condition) :
    ∃ move, Moves condition server (server.processRequest a interfaceId) move := by
  unfold processRequest
  dsimp only
  split
  · split
    case h_1 ip lease known =>
      split
      · exact sendNAK_moves booked holds
      · exact acknowledge_moves booked (getLeaseByMac_some known).1 holds
    case h_2 => exact sendNAK_moves booked holds
  · split
    · split
      case h_1 => exact ⟨_, .keep booked rfl rfl holds⟩
      case h_2 lease found =>
        split
        · exact acknowledge_moves booked (get?_eq_some.mp found) holds
        · exact sendNAK_moves booked holds
    · split
      case h_1 lease found =>
        exact acknowledge_moves booked (get?_eq_some.mp found) holds
      case h_2 => exact sendNAK_moves booked holds

lemma answer_moves (booked : Booked server) (a : Arrival) (interfaceId : ℤ) :
    ∃ move, Moves (AsksForFree a server) server (server.answer a interfaceId) move := by
  unfold answer
  split
  case isTrue op =>
    split
    case h_1 discover => exact processDiscover_moves booked op discover
    case h_2 request =>
      refine processRequest_moves booked fun _ discover => ?_
      rw [request] at discover
      cases discover
    case h_3 notDiscover _ =>
      exact ⟨.keep, .keep booked rfl rfl fun _ discover => absurd discover notDiscover⟩
  case isFalse notRequest =>
    exact ⟨.keep, .keep booked rfl rfl fun op => absurd op notRequest⟩

/-- The condition on a message that arrives at the interface of the server. -/
def KeepsApart (arrival : Arrival) (server : DHCPServer) : Prop :=
  server.ie = some arrival.inputInterfaceId → AsksForFree arrival server

instance (arrival : Arrival) (server : DHCPServer) : Decidable (KeepsApart arrival server) :=
  inferInstanceAs (Decidable (_ → _))

lemma processDHCPMessage_moves (booked : Booked server)
    (ok : server.processDHCPMessage a = .ok server') :
    ∃ move, Moves (KeepsApart a server) server server' move := by
  unfold processDHCPMessage at ok
  split at ok
  case h_1 interfaceId operational ie =>
    split at ok
    case isTrue other =>
      cases ok
      refine ⟨.keep, .keep booked rfl rfl fun here => absurd ?_ other⟩
      exact Option.some.inj (here.symm.trans ie)
    case isFalse here =>
      cases ok
      obtain ⟨move, moves⟩ := answer_moves booked a interfaceId
      have matches_ : server.ie = some a.inputInterfaceId := by
        rw [ie, not_not.mp here]
      exact ⟨move, moves.legal, moves.made, moves.booked, moves.inPool,
        moves.fresh.trans ⟨fun asks _ => asks, fun apart => apart matches_⟩⟩
  case h_2 => cases ok

/-! ## Runs -/

/-- Every message meets the condition in the state in which it arrives. -/
def EachMeets (condition : Arrival → DHCPServer → Prop) : List Arrival → DHCPServer → Prop
  | [], _ => True
  | arrival :: rest, server =>
      condition arrival server ∧
        ∀ server' ∈ (server.processDHCPMessage arrival).toOption, EachMeets condition rest server'

instance decidableEachMeets (condition : Arrival → DHCPServer → Prop)
    [∀ arrival server, Decidable (condition arrival server)] :
    ∀ arrivals server, Decidable (EachMeets condition arrivals server)
  | [], _ => .isTrue trivial
  | arrival :: rest, server =>
      have := decidableEachMeets condition rest
      inferInstanceAs (Decidable (condition arrival server ∧
        ∀ server' ∈ (server.processDHCPMessage arrival).toOption, EachMeets condition rest server'))

lemma run_moves {arrivals : List Arrival} (booked : Booked server)
    (ok : run arrivals server = .ok server') :
    ∃ moves, Legals moves server.ledger ∧ server'.ledger = moves.foldl Ledger.make server.ledger ∧
      server'.inPool = server.inPool ∧
      (Freshes server.inPool moves server.ledger ↔ EachMeets KeepsApart arrivals server) := by
  induction arrivals generalizing server with
  | nil =>
    cases ok
    exact ⟨[], trivial, rfl, rfl, iff_of_true trivial trivial⟩
  | cons a rest ih =>
    rcases Except.bind_eq_ok ok with ⟨middle, first, ok⟩
    obtain ⟨move, moved⟩ := processDHCPMessage_moves booked first
    obtain ⟨moves, legals, made, inPool, freshes⟩ := ih moved.booked ok
    rw [moved.made] at legals made
    rw [moved.made, moved.inPool] at freshes
    refine ⟨move :: moves, ⟨moved.legal, legals⟩, made, inPool.trans moved.inPool, ?_⟩
    refine and_congr moved.fresh (freshes.trans ?_)
    rw [first]
    exact ⟨fun meets server' mem => Option.some.inj mem ▸ meets, fun meets => meets _ rfl⟩

lemma answer_lifecycle :
    (server.answer a interfaceId).isOperational = server.isOperational ∧
    (server.answer a interfaceId).ie = server.ie := by
  unfold answer processDiscover processRequest
  dsimp only
  split
  · split
    · split
      · split <;> exact ⟨rfl, rfl⟩
      · exact ⟨rfl, rfl⟩
    · split
      · split
        · split <;> exact ⟨rfl, rfl⟩
        · exact ⟨rfl, rfl⟩
      · split
        · split
          · exact ⟨rfl, rfl⟩
          · split <;> exact ⟨rfl, rfl⟩
        · split <;> exact ⟨rfl, rfl⟩
    · exact ⟨rfl, rfl⟩
  · exact ⟨rfl, rfl⟩

lemma run_returns (operational : server.isOperational = true) (ie : server.ie = some interfaceId)
    (arrivals : List Arrival) : ∃ server', run arrivals server = .ok server' := by
  induction arrivals generalizing server with
  | nil => exact ⟨server, rfl⟩
  | cons a rest ih =>
    unfold run processDHCPMessage
    rw [operational, ie]
    dsimp only
    split
    · exact ih operational ie
    · exact ih (answer_lifecycle.1.trans operational) (answer_lifecycle.2.trans ie)

/-- A server that has had no message yet. -/
structure Starts (server : DHCPServer) : Prop where
  leased : server.leased = .empty
  sent : server.sent = []

/-- An OFFER or an ACK. -/
def grants (msg : DHCPMessage) : Prop :=
  msg.options.messageType = .dhcpoffer ∨ msg.options.messageType = .dhcpack

instance (msg : DHCPMessage) : Decidable (grants msg) := inferInstanceAs (Decidable (_ ∨ _))

/-- No address is offered or acknowledged to two clients, none outside the pool, and no client
has two leases. -/
structure AddressesApart (server : DHCPServer) : Prop where
  one : ∀ sent ∈ server.sent, ∀ sent' ∈ server.sent, grants sent.message → grants sent'.message →
    sent.message.yiaddr = sent'.message.yiaddr → sent.message.chaddr = sent'.message.chaddr
  oneLease : ∀ ip lease ip' lease', (ip, lease) ∈ server.leased → (ip', lease') ∈ server.leased →
    lease.mac = lease'.mac → ip = ip'
  inPool : ∀ sent ∈ server.sent, grants sent.message → server.inPool sent.message.yiaddr

lemma mem_announced {sent : SentMessage} (mem : sent ∈ server.sent)
    (grants : grants sent.message) :
    (sent.message.yiaddr, sent.message.chaddr) ∈ server.ledger.announced :=
  List.mem_filterMap.mpr ⟨sent, mem, if_pos grants⟩

lemma exists_of_announced (mem : (ip, mac) ∈ server.ledger.announced) :
    ∃ sent ∈ server.sent, grants sent.message ∧ sent.message.yiaddr = ip ∧
      sent.message.chaddr = mac := by
  obtain ⟨sent, here, same⟩ := List.mem_filterMap.mp mem
  unfold told at same
  split at same
  case isTrue grants =>
    cases same
    exact ⟨sent, here, grants, rfl, rfl⟩
  case isFalse => cases same

lemma addressesApart_iff (kept : Kept server.ledger) :
    AddressesApart server ↔ Exclusive server.inPool server.ledger := by
  constructor
  · intro apart
    constructor
    · intro ip mac mac' mem mem'
      obtain ⟨sent, here, grants, rfl, rfl⟩ := exists_of_announced mem
      obtain ⟨sent', here', grants', same, rfl⟩ := exists_of_announced mem'
      exact apart.one sent here sent' here' grants grants' same.symm
    · intro ip mac mem
      obtain ⟨sent, here, grants, rfl, -⟩ := exists_of_announced mem
      exact apart.inPool sent here grants
  · intro exclusive
    constructor
    · intro sent mem sent' mem' grants grants' same
      have announced := mem_announced mem grants
      rw [same] at announced
      exact exclusive.one announced (mem_announced mem' grants')
    · intro ip lease ip' lease' mem mem' same
      exact kept.one (holder_eq_some.mpr ⟨lease, mem, same⟩)
        (holder_eq_some.mpr ⟨lease', mem', rfl⟩)
    · exact fun sent mem grants => exclusive.allowed (mem_announced mem grants)

lemma Starts.ledger (starts : Starts server) : server.ledger = Ledger.empty := by
  unfold DHCPServer.ledger
  rw [starts.leased, starts.sent]
  rfl

lemma Starts.booked (starts : Starts server) : Booked server := by
  intro ip lease mem
  rw [starts.leased] at mem
  exact absurd mem notMem_empty

/-- The addresses of the clients stay apart, and in the pool, exactly when every DISCOVER of a
client without a lease that asks for an address asks for a free one of the pool. -/
theorem addressesApart_run_iff {arrivals : List Arrival} (starts : Starts server)
    (ok : run arrivals server = .ok server') :
    AddressesApart server' ↔ EachMeets KeepsApart arrivals server := by
  obtain ⟨moves, legals, made, inPool, freshes⟩ := run_moves starts.booked ok
  rw [starts.ledger] at legals made freshes
  have kept : Kept server'.ledger := by
    rw [made]
    exact kept_empty.foldl legals
  rw [addressesApart_iff kept, made, inPool, exclusive_iff kept_empty current_empty legals]
  exact freshes

/-- Whatever the clients ask for, a client has one lease at most, and has been told of it. -/
theorem lease_told {arrivals : List Arrival} (starts : Starts server)
    (ok : run arrivals server = .ok server') {lease : DHCPLease}
    (mem : (ip, lease) ∈ server'.leased) :
    (∀ ip' lease', (ip', lease') ∈ server'.leased → lease'.mac = lease.mac → ip' = ip) ∧
      ∃ sent ∈ server'.sent, grants sent.message ∧ sent.message.yiaddr = ip ∧
        sent.message.chaddr = lease.mac := by
  obtain ⟨moves, legals, made, -, -⟩ := run_moves starts.booked ok
  rw [starts.ledger] at legals made
  have kept : Kept server'.ledger := by
    rw [made]
    exact kept_empty.foldl legals
  have holds := holder_eq_some.mpr ⟨lease, mem, rfl⟩
  refine ⟨fun ip' lease' mem' same => ?_, exists_of_announced (kept.told holds)⟩
  exact kept.one (holder_eq_some.mpr ⟨lease', mem', same⟩) holds

def tenAddresses : DHCPServer :=
  { subnetMask := 0xFFFFFF00
    gateway := 0x0A0000FE
    ipAddressStart := 0x0A000001
    maxNumOfClients := 10
    leaseTime := 3600
    ie := some 1 }

/-- A DISCOVER that asks for an address. -/
def discover (mac : MACAddress) (requestedIp : IPv4Address) : Arrival :=
  { packet :=
      { op := .bootrequest
        chaddr := mac
        options := { messageType := .dhcpdiscover, requestedIp := requestedIp } }
    inputInterfaceId := 1
    now := 0
    ipAddress := 0x0A0000FD }

theorem lease_told_first : ∃ server' : DHCPServer, ∃ sent ∈ server'.sent, grants sent.message ∧
    sent.message.yiaddr = 0x0A000001 ∧ sent.message.chaddr = 1 := by
  obtain ⟨server', ok, lease, mem, mac⟩ : ∃ server',
      run [discover 1 0x0A000001] tenAddresses = .ok server' ∧
        ∃ lease, ((0x0A000001 : IPv4Address), lease) ∈ server'.leased ∧ lease.mac = 1 :=
    ⟨_, rfl, _, .head _, rfl⟩
  exact ⟨server', mac ▸ (lease_told ⟨rfl, rfl⟩ ok mem).2⟩

/-- Two clients ask for 10.0.0.1, and both get it. -/
theorem one_address_for_two :
    ¬ ∀ arrivals server server', Starts server → run arrivals server = .ok server' →
      AddressesApart server' := by
  intro apart
  have offers : ∀ server' ∈ (run [discover 1 0x0A000001, discover 2 0x0A000001]
      tenAddresses).toOption, ∃ sent ∈ server'.sent, ∃ sent' ∈ server'.sent,
        grants sent.message ∧ grants sent'.message ∧ sent.message.yiaddr = sent'.message.yiaddr ∧
          sent.message.chaddr ≠ sent'.message.chaddr := by
    decide +kernel
  obtain ⟨server', ok⟩ : ∃ server', run [discover 1 0x0A000001, discover 2 0x0A000001]
      tenAddresses = .ok server' := run_returns rfl rfl _
  obtain ⟨sent, mem, sent', mem', grants, grants', same, ne⟩ := offers server' (by rw [ok]; rfl)
  exact ne ((apart _ _ _ ⟨rfl, rfl⟩ ok).one sent mem sent' mem' grants grants' same)

/-- The second client asks for 10.0.0.2, a third for nothing, and the first one again. -/
theorem three_addresses_apart :
    ∃ server', run [discover 1 0x0A000001, discover 2 0x0A000002, discover 3 0,
      discover 1 0x0A000002] tenAddresses = .ok server' ∧ AddressesApart server' := by
  obtain ⟨server', ok⟩ : ∃ server', run [discover 1 0x0A000001, discover 2 0x0A000002,
      discover 3 0, discover 1 0x0A000002] tenAddresses = .ok server' := run_returns rfl rfl _
  exact ⟨server', ok, (addressesApart_run_iff ⟨rfl, rfl⟩ ok).mpr (by decide +kernel)⟩

end Inet.Dhcp.DHCPServer
