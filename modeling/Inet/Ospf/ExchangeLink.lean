import Inet.Ospf.ExchangeEvents

/-!
# Two neighbors on a link

The link loses and duplicates packets but keeps them in order; they are kept with their sender. No
timer guards a packet sent in `Exchange`: the state has no branch for the event, and the timer of
`ExchangeStart` is stopped on the way.
-/

namespace Inet.Ospf.Exchange

open Inet.Ospf.Flooding Exchange.Neighbor

variable {B : Type}

/-- The event comes from the hello protocol, the interface, the requests or the updates. -/
def isOutside (event : NeighborEventType) : Prop :=
  event ≠ .NEGOTIATION_DONE ∧ event ≠ .EXCHANGE_DONE ∧ event ≠ .SEQUENCE_NUMBER_MISMATCH ∧
    event ≠ .DD_RETRANSMISSION_TIMER ∧ event ≠ .REQUEST_RETRANSMISSION_TIMER

instance : DecidablePred isOutside := fun _ => inferInstanceAs (Decidable (_ ∧ _))

/-- A neighbor structure whose exchange has not begun: it has sent nothing but packets that offer
to negotiate. -/
structure Waiting (intf : Endpoint B) (neighborID : RouterID) (neighbor : Neighbor) : Prop where
  neighborID : neighbor.neighborID = neighborID
  state : neighbor.state.toNat ≤ NeighborStateType.EXCHANGE_START_STATE.toNat
  timer : TimerRight neighbor
  databaseSummaryList : neighbor.databaseSummaryList = []
  linkStateRequestList : neighbor.linkStateRequestList = []
  sent : ∀ ddPacket ∈ neighbor.sent, ∃ number ≤ neighbor.ddSequenceNumber,
    ddPacket = intf.initPacket number
  last : ∀ ddPacket, neighbor.lastTransmittedDDPacket = some ddPacket →
    ∃ number ≤ neighbor.ddSequenceNumber, ddPacket = intf.initPacket number
  fresh : neighbor.firstAdjacencyInited = false → neighbor.sent = [] ∧
    neighbor.lastTransmittedDDPacket = none ∧ neighbor.state ≠ .EXCHANGE_START_STATE

/-- What happens to a neighbor structure, whatever is sent to it. -/
inductive NeighborStep (intf : Endpoint B) : Neighbor → Neighbor → Prop
  | event (neighbor : Neighbor) (env : Surroundings) {event : NeighborEventType}
      (outside : isOutside event) : NeighborStep intf neighbor (neighbor.processEvent intf env event)
  | ddTimer (neighbor : Neighbor) (env : Surroundings) :
      NeighborStep intf neighbor (neighbor.expireDDRetransmissionTimer intf env)
  | requestTimer (neighbor : Neighbor) (env : Surroundings) :
      NeighborStep intf neighbor (neighbor.processEvent intf env .REQUEST_RETRANSMISSION_TIMER)
  | packet (neighbor : Neighbor) (env : Surroundings) (ddPacket : OSPFDatabaseDescriptionPacket) :
      NeighborStep intf neighbor (neighbor.processPacket intf env ddPacket)
  | link (neighbor : Neighbor) (sent : List OSPFDatabaseDescriptionPacket) :
      NeighborStep intf neighbor { neighbor with sent := sent }

inductive NeighborReached (intf : Endpoint B) (neighborID : RouterID) : Neighbor → Prop
  | start {neighbor : Neighbor} (waiting : Waiting intf neighborID neighbor) :
      NeighborReached intf neighborID neighbor
  | step {neighbor after : Neighbor} (reached : NeighborReached intf neighborID neighbor)
      (step : NeighborStep intf neighbor after) : NeighborReached intf neighborID after

/-- In `Exchange` the timer does not run, and the packet sent last carries the current number: it has
not been answered. -/
structure Unguarded (neighbor : Neighbor) : Prop where
  timer : TimerRight neighbor
  unanswered : neighbor.state = .EXCHANGE_STATE → ∃ ddPacket,
    neighbor.lastTransmittedDDPacket = some ddPacket ∧
      ddPacket.ddSequenceNumber = neighbor.ddSequenceNumber

namespace Unguarded

variable {i : Endpoint B} {neighbor after : Neighbor}

variable (unguarded : Unguarded neighbor)
include unguarded

lemma of_quiet (quiet : Quiet neighbor after) : Unguarded after := by
  refine ⟨quiet.timer unguarded.timer, fun exchange => ?_⟩
  obtain ⟨before, -, -, -, last⟩ := quiet.kept exchange
  rw [last, quiet.number]
  exact unguarded.unanswered before

omit unguarded in
lemma of_start (state : mayRetransmit after.state) : Unguarded after := by
  refine ⟨fun _ => state, fun exchange => ?_⟩
  exact absurd state (not_mayRetransmit exchange)

lemma of_link (sent : List OSPFDatabaseDescriptionPacket) :
    Unguarded { neighbor with sent := sent } :=
  ⟨unguarded.timer, unguarded.unanswered⟩

lemma of_moves (moves : Moves i neighbor after) : Unguarded after := by
  cases moves with
  | quiet quiet => exact unguarded.of_quiet quiet
  | resent last quiet =>
    exact (unguarded.of_link _).of_quiet quiet
  | negotiated negotiates => exact of_start (.inl rfl)

omit unguarded in
lemma of_replies {headers summary : List LSAHeader} {number : ℕ}
    {relationship : DatabaseExchangeRelationshipType} (right : TimerRight after)
    (takes : Takes i headers relationship number neighbor after)
    (replies : Replies i relationship number summary neighbor after) : Unguarded after :=
  ⟨right, fun _ => ⟨_, replies.last, takes.number.symm⟩⟩

lemma timer_off (exchange : neighbor.state = .EXCHANGE_STATE) :
    neighbor.ddRetransmissionTimer = false := by
  cases running : neighbor.ddRetransmissionTimer with
  | false => rfl
  | true => exact absurd (unguarded.timer running) (not_mayRetransmit exchange)

lemma of_packet (env : Surroundings)
    (p : OSPFDatabaseDescriptionPacket) : Unguarded (neighbor.processPacket i env p) := by
  have outcome := processPacket_cases i env neighbor p
  generalize neighbor.processPacket i env p = after at outcome ⊢
  rcases outcome with moves | ⟨start, negotiation⟩ | ⟨exchange, -, -, accepts⟩
  · exact unguarded.of_moves moves
  · cases negotiation with
    | ignored => exact unguarded
    | repeated => exact of_start (.inl start)
    | refused agrees quiet state => exact of_start (.inl state)
    | entered agrees takes replies state off =>
      refine of_replies (fun running => ?_) takes replies
      rw [off] at running
      cases running
  · have off := unguarded.timer_off exchange
    cases accepts with
    | answered takes replies state timer =>
      refine of_replies (fun running => ?_) takes replies
      rw [timer, off] at running
      cases running
    | finished takes more state summary sent => exact of_start (.inr state)

lemma of_step (step : NeighborStep i neighbor after) : Unguarded after := by
  cases step with
  | event env outside =>
    exact unguarded.of_moves (processEvent_moves outside.1 outside.2.1)
  | ddTimer env => exact unguarded.of_moves expireDDRetransmissionTimer_moves
  | requestTimer env =>
    exact unguarded.of_moves (processEvent_moves (by decide) (by decide))
  | packet env p => exact unguarded.of_packet env p
  | link sent => exact unguarded.of_link sent

omit unguarded

lemma of_reached {neighborID : RouterID} (reached : NeighborReached i neighborID neighbor) :
    Unguarded neighbor := by
  induction reached with
  | start waiting =>
    refine ⟨waiting.timer, fun exchange => ?_⟩
    have state := waiting.state
    rw [exchange] at state
    exact absurd state (by decide)
  | step _ step unguarded => exact unguarded.of_step step

end Unguarded

/-- The neighbor structures of the two routers, by their router IDs. -/
structure Link where
  higher : Neighbor
  lower : Neighbor

/-- A packet is lost. -/
inductive Loses : Link → Link → Prop
  | higher (s : Link) {before after : List OSPFDatabaseDescriptionPacket}
      {ddPacket : OSPFDatabaseDescriptionPacket}
      (sent : s.higher.sent = before ++ ddPacket :: after) :
      Loses s { s with higher := { s.higher with sent := before ++ after } }
  | lower (s : Link) {before after : List OSPFDatabaseDescriptionPacket}
      {ddPacket : OSPFDatabaseDescriptionPacket}
      (sent : s.lower.sent = before ++ ddPacket :: after) :
      Loses s { s with lower := { s.lower with sent := before ++ after } }

/-- A packet is on the link once more, behind itself. -/
inductive Duplicates : Link → Link → Prop
  | higher (s : Link) {before after : List OSPFDatabaseDescriptionPacket}
      {ddPacket : OSPFDatabaseDescriptionPacket}
      (sent : s.higher.sent = before ++ ddPacket :: after) :
      Duplicates s
        { s with higher := { s.higher with sent := before ++ ddPacket :: ddPacket :: after } }
  | lower (s : Link) {before after : List OSPFDatabaseDescriptionPacket}
      {ddPacket : OSPFDatabaseDescriptionPacket}
      (sent : s.lower.sent = before ++ ddPacket :: after) :
      Duplicates s
        { s with lower := { s.lower with sent := before ++ ddPacket :: ddPacket :: after } }

/-- What happens by itself: the first packet on the link arrives, a timer fires, or a packet is lost
or duplicated. -/
inductive Proceeds (hi lo : Endpoint B) : Link → Link → Prop
  | higherReceives (s : Link) (env : Surroundings) {ddPacket : OSPFDatabaseDescriptionPacket}
      {rest : List OSPFDatabaseDescriptionPacket} (first : s.lower.sent = ddPacket :: rest) :
      Proceeds hi lo s ⟨s.higher.processPacket hi env ddPacket, { s.lower with sent := rest }⟩
  | lowerReceives (s : Link) (env : Surroundings) {ddPacket : OSPFDatabaseDescriptionPacket}
      {rest : List OSPFDatabaseDescriptionPacket} (first : s.higher.sent = ddPacket :: rest) :
      Proceeds hi lo s ⟨{ s.higher with sent := rest }, s.lower.processPacket lo env ddPacket⟩
  | higherDDTimer (s : Link) (env : Surroundings) :
      Proceeds hi lo s { s with higher := s.higher.expireDDRetransmissionTimer hi env }
  | lowerDDTimer (s : Link) (env : Surroundings) :
      Proceeds hi lo s { s with lower := s.lower.expireDDRetransmissionTimer lo env }
  | higherRequestTimer (s : Link) (env : Surroundings)
      (active : s.higher.requestRetransmissionTimerActive = true) :
      Proceeds hi lo s
        { s with higher := s.higher.processEvent hi env .REQUEST_RETRANSMISSION_TIMER }
  | lowerRequestTimer (s : Link) (env : Surroundings)
      (active : s.lower.requestRetransmissionTimerActive = true) :
      Proceeds hi lo s { s with lower := s.lower.processEvent lo env .REQUEST_RETRANSMISSION_TIMER }
  | loses {s s' : Link} (loses : Loses s s') : Proceeds hi lo s s'
  | duplicates {s s' : Link} (duplicates : Duplicates s s') : Proceeds hi lo s s'

inductive Step (hi lo : Endpoint B) : Link → Link → Prop
  | proceeds {s s' : Link} (proceeds : Proceeds hi lo s s') : Step hi lo s s'
  | higherEvent (s : Link) (env : Surroundings) {event : NeighborEventType}
      (outside : isOutside event) :
      Step hi lo s { s with higher := s.higher.processEvent hi env event }
  | lowerEvent (s : Link) (env : Surroundings) {event : NeighborEventType}
      (outside : isOutside event) :
      Step hi lo s { s with lower := s.lower.processEvent lo env event }

/-- The states of a run in which the databases stay as they are. -/
inductive Reached (hi lo : Endpoint B) : Link → Prop
  | start {s : Link} (higher : Waiting hi lo.router.routerID s.higher)
      (lower : Waiting lo hi.router.routerID s.lower) : Reached hi lo s
  | step {s s' : Link} (reached : Reached hi lo s) (step : Step hi lo s s') : Reached hi lo s'

namespace Reached

variable {hi lo : Endpoint B} {s s' : Link}

lemma sides (reached : Reached hi lo s) :
    NeighborReached hi lo.router.routerID s.higher ∧
      NeighborReached lo hi.router.routerID s.lower := by
  induction reached with
  | start higher lower => exact ⟨.start higher, .start lower⟩
  | @step s s' _ step sides =>
    obtain ⟨higher, lower⟩ := sides
    cases step with
    | higherEvent env outside => exact ⟨higher.step (.event _ env outside), lower⟩
    | lowerEvent env outside => exact ⟨higher, lower.step (.event _ env outside)⟩
    | proceeds proceeds =>
      cases proceeds with
      | higherReceives env first =>
        exact ⟨higher.step (.packet _ env _), lower.step (.link _ _)⟩
      | lowerReceives env first =>
        exact ⟨higher.step (.link _ _), lower.step (.packet _ env _)⟩
      | higherDDTimer env => exact ⟨higher.step (.ddTimer _ env), lower⟩
      | lowerDDTimer env => exact ⟨higher, lower.step (.ddTimer _ env)⟩
      | higherRequestTimer env active => exact ⟨higher.step (.requestTimer _ env), lower⟩
      | lowerRequestTimer env active => exact ⟨higher, lower.step (.requestTimer _ env)⟩
      | loses loses =>
        cases loses with
        | higher sent => exact ⟨higher.step (.link _ _), lower⟩
        | lower sent => exact ⟨higher, lower.step (.link _ _)⟩
      | duplicates duplicates =>
        cases duplicates with
        | higher sent => exact ⟨higher.step (.link _ _), lower⟩
        | lower sent => exact ⟨higher, lower.step (.link _ _)⟩

lemma losing (reached : Reached hi lo s) (losses : Relation.ReflTransGen Loses s s') :
    Reached hi lo s' := by
  induction losses with
  | refl => exact reached
  | tail _ loses reached' => exact reached'.step (.proceeds (.loses loses))

end Reached

/-! ## The packet that is lost -/

/-- Nothing is on the link, no timer runs that would send a packet, and whatever happens by itself
changes nothing. -/
structure Stuck (hi lo : Endpoint B) (s : Link) : Prop where
  higher : s.higher.state = .EXCHANGE_STATE ∧ s.higher.ddRetransmissionTimer = false ∧
    s.higher.sent = []
  lower : s.lower.state = .EXCHANGE_STATE ∧ s.lower.ddRetransmissionTimer = false ∧
    s.lower.sent = []
  stays : ∀ s', Proceeds hi lo s s' → s' = s

section Silence

variable {hi lo i : Endpoint B} {s : Link} {neighbor : Neighbor} {neighborID : RouterID}

lemma expire_of_off (off : neighbor.ddRetransmissionTimer = false) (env : Surroundings) :
    neighbor.expireDDRetransmissionTimer i env = neighbor := by
  rw [expireDDRetransmissionTimer, off]
  exact if_neg Bool.false_ne_true

lemma processEvent_ddTimer (exchange : neighbor.state = .EXCHANGE_STATE) (env : Surroundings) :
    neighbor.processEvent i env .DD_RETRANSMISSION_TIMER = neighbor := by
  rw [processEvent_exchange i env neighbor exchange]
  rfl

lemma processEvent_requestTimer (exchange : neighbor.state = .EXCHANGE_STATE)
    (active : neighbor.requestRetransmissionTimerActive = true) (env : Surroundings) :
    neighbor.processEvent i env .REQUEST_RETRANSMISSION_TIMER = neighbor := by
  rw [processEvent_exchange i env neighbor exchange, processEventExchange,
    startRequestRetransmissionTimer, ← active]

lemma stuck_of_silent (reached : Reached hi lo s) (higher : s.higher.state = .EXCHANGE_STATE)
    (lower : s.lower.state = .EXCHANGE_STATE) (fromHigher : s.higher.sent = [])
    (fromLower : s.lower.sent = []) : Stuck hi lo s := by
  have higherOff := (Unguarded.of_reached reached.sides.1).timer_off higher
  have lowerOff := (Unguarded.of_reached reached.sides.2).timer_off lower
  refine ⟨⟨higher, higherOff, fromHigher⟩, ⟨lower, lowerOff, fromLower⟩, fun s' proceeds => ?_⟩
  cases proceeds with
  | higherReceives env first =>
    rw [fromLower] at first
    cases first
  | lowerReceives env first =>
    rw [fromHigher] at first
    cases first
  | higherDDTimer env => rw [expire_of_off higherOff]
  | lowerDDTimer env => rw [expire_of_off lowerOff]
  | higherRequestTimer env active => rw [processEvent_requestTimer higher active]
  | lowerRequestTimer env active => rw [processEvent_requestTimer lower active]
  | loses loses =>
    cases loses with
    | higher sent => exact absurd (fromHigher.symm.trans sent) (by simp)
    | lower sent => exact absurd (fromLower.symm.trans sent) (by simp)
  | duplicates duplicates =>
    cases duplicates with
    | higher sent => exact absurd (fromHigher.symm.trans sent) (by simp)
    | lower sent => exact absurd (fromLower.symm.trans sent) (by simp)

lemma lose_all (s : Link) : ∃ s', Relation.ReflTransGen Loses s s' ∧
    s'.higher = { s.higher with sent := [] } ∧ s'.lower = { s.lower with sent := [] } := by
  have higher (sent : List OSPFDatabaseDescriptionPacket) : ∀ s : Link, s.higher.sent = sent →
      Relation.ReflTransGen Loses s { s with higher := { s.higher with sent := [] } } := by
    induction sent with
    | nil =>
      intro s empty
      rw [← empty]
    | cons p sent ih =>
      intro s first
      have lost : Loses s { s with higher := { s.higher with sent := [] ++ sent } } :=
        .higher s first
      exact .head lost (ih _ rfl)
  have lower (sent : List OSPFDatabaseDescriptionPacket) : ∀ s : Link, s.lower.sent = sent →
      Relation.ReflTransGen Loses s { s with lower := { s.lower with sent := [] } } := by
    induction sent with
    | nil =>
      intro s empty
      rw [← empty]
    | cons p sent ih =>
      intro s first
      have lost : Loses s { s with lower := { s.lower with sent := [] ++ sent } } :=
        .lower s first
      exact .head lost (ih _ rfl)
  exact ⟨_, (higher _ s rfl).trans (lower _ _ rfl), rfl, rfl⟩

/-- The packet sent last in `Exchange` as master, which has not been answered. -/
def AwaitsAnswer (neighbor : Neighbor) : Prop :=
  neighbor.state = .EXCHANGE_STATE ∧ neighbor.databaseExchangeRelationship = .MASTER ∧
    ∃ ddPacket, neighbor.lastTransmittedDDPacket = some ddPacket ∧
      ddPacket.ddSequenceNumber = neighbor.ddSequenceNumber

/-- The timer runs, and when it fires the last packet is sent again. -/
def Guarded (intf : Endpoint B) (neighbor : Neighbor) : Prop :=
  neighbor.ddRetransmissionTimer = true ∧
    ∃ ddPacket, neighbor.lastTransmittedDDPacket = some ddPacket ∧
      ∀ env, (neighbor.processEvent intf env .DD_RETRANSMISSION_TIMER).sent =
        neighbor.sent ++ [ddPacket]

end Silence

/-- No packet awaited in `Exchange` is guarded by the timer: two neighbors stop once the packets on
the link are lost. -/
theorem never_guarded :
    (∀ (i : Endpoint B) (neighborID : RouterID) (neighbor : Neighbor),
      NeighborReached i neighborID neighbor → AwaitsAnswer neighbor →
        neighbor.ddRetransmissionTimer = false ∧
          (∀ env, neighbor.processEvent i env .DD_RETRANSMISSION_TIMER = neighbor) ∧
          ¬ Guarded i neighbor) ∧
    ∀ (hi lo : Endpoint B) (s : Link), Reached hi lo s → s.higher.state = .EXCHANGE_STATE →
      s.lower.state = .EXCHANGE_STATE →
        ∃ s', Relation.ReflTransGen Loses s s' ∧ Reached hi lo s' ∧ Stuck hi lo s' := by
  refine ⟨fun i neighborID neighbor reached awaits => ?_, fun hi lo s reached higher lower => ?_⟩
  · have off := (Unguarded.of_reached reached).timer_off awaits.1
    refine ⟨off, processEvent_ddTimer awaits.1, fun guarded => ?_⟩
    exact Bool.false_ne_true (off.symm.trans guarded.1)
  · obtain ⟨s', losses, higher', lower'⟩ := lose_all s
    have reached' := reached.losing losses
    refine ⟨s', losses, reached', stuck_of_silent reached' ?_ ?_ ?_ ?_⟩
    · rw [higher']
      exact higher
    · rw [lower']
      exact lower
    · rw [higher']
    · rw [lower']

/-! A link between two routers without any LSA. -/

namespace Example

def endpoint (routerID : RouterID) : Endpoint Unit :=
  { router :=
      { routerID := routerID
        areas := []
        asExternalLSAs := []
        routingTable := []
        interfaceAt := fun _ => ⟨.POINTTOPOINT, 0, 0, []⟩
        neighborAt := fun _ => ⟨0, .DOWN_STATE, [], [], []⟩ }
    interfaceType := .POINTTOPOINT
    mtu := 1500
    areaID := 0 }

def higherRouter : Endpoint Unit := endpoint 2

def lowerRouter : Endpoint Unit := endpoint 1

def env : Surroundings := ⟨true, 0⟩

/-- A neighbor that has offered to negotiate. -/
def negotiating (intf : Endpoint Unit) (neighborID : RouterID) (number : ℕ) : Neighbor :=
  { state := .EXCHANGE_START_STATE
    neighborID := neighborID
    ddRetransmissionTimer := true
    requestRetransmissionTimerActive := false
    databaseExchangeRelationship := .MASTER
    firstAdjacencyInited := true
    ddSequenceNumber := number
    lastReceivedDDPacket := ⟨⟨true, true, false⟩, intf.options, 0⟩
    neighborOptions := intf.options
    databaseSummaryList := []
    linkStateRequestList := []
    lastTransmittedDDPacket := some (intf.initPacket number)
    sent := [intf.initPacket number]
    processed := [] }

lemma waiting_negotiating (i : Endpoint Unit) (neighborID : RouterID) (number : ℕ) :
    Waiting i neighborID (negotiating i neighborID number) where
  neighborID := rfl
  state := le_rfl
  timer := fun _ => .inl rfl
  databaseSummaryList := rfl
  linkStateRequestList := rfl
  sent := fun _ mem => ⟨number, le_rfl, List.mem_singleton.mp mem⟩
  last := fun _ last => ⟨number, le_rfl, (Option.some.inj last).symm⟩
  fresh := nofun

/-- The reply to the offer of the higher router arrives, and the answer to it is lost. -/
def stopped : Link :=
  let reply := (negotiating lowerRouter 2 7).processPacket lowerRouter env
    (higherRouter.initPacket 5)
  let master := ({ negotiating higherRouter 1 5 with sent := [] }).processPacket higherRouter env
    (lowerRouter.dataPacket .SLAVE 5 [])
  ⟨{ master with sent := [] }, { reply with sent := [] }⟩

lemma reached_stopped : Reached higherRouter lowerRouter stopped := by
  have start : Reached higherRouter lowerRouter
      ⟨negotiating higherRouter 1 5, negotiating lowerRouter 2 7⟩ :=
    .start (waiting_negotiating _ _ _) (waiting_negotiating _ _ _)
  have replied := start.step (.proceeds (.lowerReceives _ env rfl))
  have lost := replied.step (.proceeds (.loses (.lower _ (show _ = [] ++ _ :: _ from rfl))))
  have answered := lost.step (.proceeds (.higherReceives _ env rfl))
  exact answered.step (.proceeds (.loses (.higher _ (show _ = [] ++ _ :: _ from rfl))))

end Example

theorem never_guarded_stopped :
    Example.stopped.higher.ddRetransmissionTimer = false ∧
      ∃ s', Relation.ReflTransGen Loses Example.stopped s' ∧
        Stuck Example.higherRouter Example.lowerRouter s' := by
  have reached := Example.reached_stopped
  obtain ⟨off, -, -⟩ := never_guarded.1 _ _ _ reached.sides.1 ⟨rfl, rfl, _, rfl, rfl⟩
  obtain ⟨s', losses, -, stuck⟩ := never_guarded.2 _ _ _ reached rfl rfl
  exact ⟨off, s', losses, stuck⟩

/-- A run with one packet lost, after which nothing happens any more. -/
theorem not_guarded_stopped :
    NeighborReached Example.higherRouter Example.lowerRouter.router.routerID
        Example.stopped.higher ∧
      AwaitsAnswer Example.stopped.higher ∧ ¬ Guarded Example.higherRouter Example.stopped.higher ∧
      Stuck Example.higherRouter Example.lowerRouter Example.stopped := by
  have reached := Example.reached_stopped
  refine ⟨reached.sides.1, ⟨rfl, rfl, _, rfl, rfl⟩, fun guarded => ?_,
    stuck_of_silent reached rfl rfl rfl rfl⟩
  exact Bool.false_ne_true guarded.1

end Inet.Ospf.Exchange
