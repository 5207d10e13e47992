import Inet.Ospf.DatabaseDescription
import Inet.Lib.Batches

/-!
# What events and packets do to a neighbor

Each event is quiet, or sends the last packet once more, or begins a negotiation; a packet may also
end a negotiation or be the next one of the exchange.
-/

namespace Inet.Ospf.Exchange

open Inet.Ospf.Flooding

variable {B : Type}

namespace Endpoint

variable (intf : Endpoint B)

/-- The packet by which a negotiation begins. -/
def initPacket (ddSequenceNumber : ℕ) : OSPFDatabaseDescriptionPacket :=
  ⟨intf.interfaceMTU, intf.options, ⟨true, true, true⟩, ddSequenceNumber, []⟩

/-- A summary list is divided into the headers of the next packet and the rest. -/
def deal (databaseSummaryList : List LSAHeader) : List LSAHeader × List LSAHeader :=
  intf.fillPacket (OSPF_HEADER_LENGTH + OSPF_DD_HEADER_LENGTH) databaseSummaryList

/-- A packet of the exchange. -/
def dataPacket (relationship : DatabaseExchangeRelationshipType) (ddSequenceNumber : ℕ)
    (databaseSummaryList : List LSAHeader) : OSPFDatabaseDescriptionPacket :=
  let dealt := intf.deal databaseSummaryList
  ⟨intf.interfaceMTU, intf.options, ⟨false, !dealt.2.isEmpty, decide (relationship = .MASTER)⟩,
    ddSequenceNumber, dealt.1⟩

lemma fillPacket_append (packetSize : ℕ) (headers : List LSAHeader) :
    (intf.fillPacket packetSize headers).1 ++ (intf.fillPacket packetSize headers).2 = headers := by
  induction headers generalizing packetSize with
  | nil => rfl
  | cons header headers ih =>
    rw [fillPacket]
    split
    · exact congrArg (header :: ·) (ih _)
    · rfl

lemma isDeal : IsDeal intf.deal := intf.fillPacket_append _

end Endpoint

namespace Neighbor

variable (intf : Endpoint B) (env : Surroundings) (neighbor : Neighbor)

lemma sendDatabaseDescriptionPacket_false :
    neighbor.sendDatabaseDescriptionPacket intf false =
      let p := intf.dataPacket neighbor.databaseExchangeRelationship
        neighbor.ddSequenceNumber neighbor.databaseSummaryList
      { neighbor with
        databaseSummaryList := (intf.deal neighbor.databaseSummaryList).2
        lastTransmittedDDPacket := some p
        sent := neighbor.sent ++ [p] } := by
  have filled : (if false = true ∨ neighbor.databaseSummaryList = [] then
      ([], neighbor.databaseSummaryList)
      else intf.fillPacket (OSPF_HEADER_LENGTH + OSPF_DD_HEADER_LENGTH)
        neighbor.databaseSummaryList) = intf.deal neighbor.databaseSummaryList := by
    by_cases empty : neighbor.databaseSummaryList = []
    · rw [if_pos (.inr empty), empty]
      rfl
    · rw [if_neg fun or => or.elim Bool.noConfusion empty]
      rfl
  rw [sendDatabaseDescriptionPacket, filled]
  rfl

/-- Headers are taken in, and those that the database lacks are requested. -/
def noteHeaders (headers : List LSAHeader) : Neighbor :=
  { neighbor with
    linkStateRequestList := neighbor.linkStateRequestList ++ headers.filter intf.lacks
    processed := neighbor.processed ++ headers }

lemma noteHeaders_nil : neighbor.noteHeaders intf [] = neighbor := by
  rw [noteHeaders, List.filter_nil, List.append_nil, List.append_nil]

lemma noteHeaders_cons (header : LSAHeader) (headers : List LSAHeader) :
    neighbor.noteHeaders intf (header :: headers) =
      (neighbor.noteHeaders intf [header]).noteHeaders intf headers := by
  by_cases lacks : intf.lacks header = true <;> simp [noteHeaders, lacks]

lemma processHeaders_cases (headers : List LSAHeader) :
    neighbor.processHeaders intf env headers = (neighbor.noteHeaders intf headers, true) ∨
      ∃ taken, neighbor.processHeaders intf env headers =
        ((neighbor.noteHeaders intf taken).processEvent intf env .SEQUENCE_NUMBER_MISMATCH,
          false) := by
  induction headers generalizing neighbor with
  | nil => exact .inl (by rw [noteHeaders_nil]; rfl)
  | cons header headers ih =>
    rw [processHeaders]
    split
    · exact .inr ⟨[], by rw [noteHeaders_nil]⟩
    · have noted : (if intf.lacks header = true then
          ({ neighbor with processed := neighbor.processed ++ [header] }).addToRequestList header
          else { neighbor with processed := neighbor.processed ++ [header] }) =
          neighbor.noteHeaders intf [header] := by
        by_cases lacks : intf.lacks header = true <;> simp [noteHeaders, addToRequestList, lacks]
      dsimp only
      rw [noted]
      rcases ih (neighbor.noteHeaders intf [header]) with all | ⟨taken, left⟩
      · exact .inl (by rw [all, ← noteHeaders_cons])
      · exact .inr ⟨header :: taken, by rw [left, ← noteHeaders_cons]⟩

/-! ## The events -/

lemma processEvent_exchangeStart (state : neighbor.state = .EXCHANGE_START_STATE)
    (event : NeighborEventType) : neighbor.processEvent intf env event =
      neighbor.processEventExchangeStart intf env event := by
  rw [processEvent, state]

lemma processEvent_exchange (state : neighbor.state = .EXCHANGE_STATE)
    (event : NeighborEventType) : neighbor.processEvent intf env event =
      neighbor.processEventExchange intf env event := by
  rw [processEvent, state]

/-- The retransmission timer runs in these states alone. -/
def mayRetransmit (state : NeighborStateType) : Prop :=
  state = .EXCHANGE_START_STATE ∨ state = .LOADING_STATE ∨ state = .FULL_STATE

instance : DecidablePred mayRetransmit := fun _ => inferInstanceAs (Decidable (_ ∨ _))

def TimerRight (neighbor : Neighbor) : Prop :=
  neighbor.ddRetransmissionTimer = true → mayRetransmit neighbor.state

/-- Nothing is sent, and what the exchange rests on stays or the adjacency is given up. -/
structure Quiet (neighbor after : Neighbor) : Prop where
  sent : after.sent = neighbor.sent
  neighborID : after.neighborID = neighbor.neighborID
  number : after.ddSequenceNumber = neighbor.ddSequenceNumber
  relationship : after.databaseExchangeRelationship = neighbor.databaseExchangeRelationship
  inited : after.firstAdjacencyInited = neighbor.firstAdjacencyInited
  last : after.lastTransmittedDDPacket = neighbor.lastTransmittedDDPacket ∨
    after.lastTransmittedDDPacket = none
  kept : after.state = .EXCHANGE_STATE → neighbor.state = .EXCHANGE_STATE ∧
    after.databaseSummaryList = neighbor.databaseSummaryList ∧
    after.linkStateRequestList = neighbor.linkStateRequestList ∧
    after.processed = neighbor.processed ∧
    after.lastTransmittedDDPacket = neighbor.lastTransmittedDDPacket
  ended : after.state ≠ .EXCHANGE_STATE → after.databaseSummaryList = [] ∨
    neighbor.state ≠ .EXCHANGE_STATE ∧ after.databaseSummaryList = neighbor.databaseSummaryList
  timer : TimerRight neighbor → TimerRight after
  begun : mayRetransmit after.state → after.state = neighbor.state ∨
    neighbor.state = .LOADING_STATE ∧ after.state = .FULL_STATE

/-- What a neighbor is when it begins a negotiation with a number of its own. -/
structure Negotiates (neighbor before : Neighbor) : Prop where
  sent : before.sent = neighbor.sent
  neighborID : before.neighborID = neighbor.neighborID
  relationship : before.databaseExchangeRelationship = neighbor.databaseExchangeRelationship
  number : before.firstAdjacencyInited = true ∧ neighbor.firstAdjacencyInited = false ∨
    (neighbor.firstAdjacencyInited = true ∨ mayRetransmit neighbor.state ∨
      neighbor.state = .EXCHANGE_STATE) ∧
    before.firstAdjacencyInited = neighbor.firstAdjacencyInited ∧
    before.ddSequenceNumber = neighbor.ddSequenceNumber + 1
  summary : before.databaseSummaryList = [] ∨
    neighbor.state ≠ .EXCHANGE_STATE ∧ before.databaseSummaryList = neighbor.databaseSummaryList

/-- What an event does, but for the end of a negotiation or an exchange. -/
inductive Moves (neighbor : Neighbor) : Neighbor → Prop
  | quiet {after : Neighbor} (quiet : Quiet neighbor after) : Moves neighbor after
  | resent {after : Neighbor} {ddPacket : OSPFDatabaseDescriptionPacket}
      (last : neighbor.lastTransmittedDDPacket = some ddPacket)
      (quiet : Quiet { neighbor with sent := neighbor.sent ++ [ddPacket] } after) :
      Moves neighbor after
  | negotiated {before : Neighbor} (negotiates : Negotiates neighbor before) :
      Moves neighbor (before.negotiate intf)

variable {neighbor} {after : Neighbor} {state : NeighborStateType} {event : NeighborEventType}
variable {intf env}

lemma not_mayRetransmit (state : neighbor.state = .EXCHANGE_STATE) :
    ¬ mayRetransmit neighbor.state := by
  rw [state]
  rintro (h | h | h) <;> cases h

namespace Quiet

lemma refl : Quiet neighbor neighbor :=
  ⟨rfl, rfl, rfl, rfl, rfl, .inl rfl, fun h => ⟨h, rfl, rfl, rfl, rfl⟩, fun h => .inr ⟨h, rfl⟩, id,
    fun _ => .inl rfl⟩

lemma resetTo (h : ¬ mayRetransmit state) (h' : state ≠ .EXCHANGE_STATE) :
    Quiet neighbor (neighbor.reset.changeState state) :=
  ⟨rfl, rfl, rfl, rfl, rfl, .inr rfl, fun eq => absurd eq h', fun _ => .inl rfl,
    fun _ running => Bool.noConfusion running, fun may => absurd may h⟩

lemma changeTo (before : neighbor.state ≠ .EXCHANGE_STATE)
    (below : ¬ mayRetransmit neighbor.state) (h : ¬ mayRetransmit state)
    (h' : state ≠ .EXCHANGE_STATE) : Quiet neighbor (neighbor.changeState state) :=
  ⟨rfl, rfl, rfl, rfl, rfl, .inl rfl, fun eq => absurd eq h', fun _ => .inr ⟨before, rfl⟩,
    fun right running => absurd (right running) below, fun may => absurd may h⟩

end Quiet

lemma Moves.refl : Moves intf neighbor neighbor := .quiet .refl

lemma formAdjacency_moves (state : neighbor.state ≠ .EXCHANGE_STATE) :
    Moves intf neighbor (neighbor.formAdjacency intf env) := by
  rw [formAdjacency]
  cases inited : neighbor.firstAdjacencyInited with
  | false => exact .negotiated ⟨rfl, rfl, rfl, .inl ⟨rfl, inited⟩, .inr ⟨state, rfl⟩⟩
  | true => exact .negotiated ⟨rfl, rfl, rfl, .inr ⟨.inl inited, rfl, rfl⟩, .inr ⟨state, rfl⟩⟩

lemma renegotiate_moves (begun : mayRetransmit neighbor.state ∨ neighbor.state = .EXCHANGE_STATE) :
    Moves intf neighbor (neighbor.renegotiate intf) :=
  .negotiated ⟨rfl, rfl, rfl, .inr ⟨.inr begun, rfl, rfl⟩, .inl rfl⟩

lemma adjacencyOk_moves :
    Moves intf neighbor
      (if env.needAdjacency then neighbor else neighbor.reset.changeState .TWOWAY_STATE) := by
  split
  · exact .refl
  · exact .quiet (.resetTo (by decide) (by decide))

lemma processEventDown_moves (state : neighbor.state = .DOWN_STATE) :
    Moves intf neighbor (neighbor.processEventDown event) := by
  have changed {to' : NeighborStateType} (h : ¬ mayRetransmit to') (h' : to' ≠ .EXCHANGE_STATE) :
      Moves intf neighbor (neighbor.changeState to') :=
    .quiet (.changeTo (by rw [state]; decide) (by rw [state]; decide) h h')
  cases event with
  | START => exact changed (by decide) (by decide)
  | HELLO_RECEIVED => exact changed (by decide) (by decide)
  | _ => exact .refl

lemma processEventAttempt_moves (state : neighbor.state = .ATTEMPT_STATE) :
    Moves intf neighbor (neighbor.processEventAttempt event) := by
  cases event with
  | KILL_NEIGHBOR | LINK_DOWN | INACTIVITY_TIMER =>
    exact .quiet (.resetTo (by decide) (by decide))
  | HELLO_RECEIVED =>
    exact .quiet (.changeTo (by rw [state]; decide) (by rw [state]; decide) (by decide) (by decide))
  | _ => exact .refl

lemma processEventInit_moves (state : neighbor.state = .INIT_STATE) :
    Moves intf neighbor (neighbor.processEventInit intf env event) := by
  cases event with
  | KILL_NEIGHBOR | LINK_DOWN | INACTIVITY_TIMER =>
    exact .quiet (.resetTo (by decide) (by decide))
  | TWOWAY_RECEIVED =>
    rw [processEventInit]
    split
    · exact formAdjacency_moves (by rw [state]; decide)
    · exact .quiet (.changeTo (by rw [state]; decide) (by rw [state]; decide) (by decide)
        (by decide))
  | _ => exact .refl

lemma processEventTwoWay_moves (state : neighbor.state = .TWOWAY_STATE) :
    Moves intf neighbor (neighbor.processEventTwoWay intf env event) := by
  cases event with
  | KILL_NEIGHBOR | LINK_DOWN | INACTIVITY_TIMER | ONEWAY_RECEIVED =>
    exact .quiet (.resetTo (by decide) (by decide))
  | IS_ADJACENCY_OK =>
    rw [processEventTwoWay]
    split
    · exact formAdjacency_moves (by rw [state]; decide)
    · exact .refl
  | _ => exact .refl

variable {p : OSPFDatabaseDescriptionPacket}

lemma retransmit_of_last (last : neighbor.lastTransmittedDDPacket = some p) :
    neighbor.retransmitDatabaseDescriptionPacket =
      ({ neighbor with sent := neighbor.sent ++ [p] }, true) := by
  rw [retransmitDatabaseDescriptionPacket, last]

lemma retransmit_of_none (last : neighbor.lastTransmittedDDPacket = none) :
    neighbor.retransmitDatabaseDescriptionPacket = (neighbor, false) := by
  rw [retransmitDatabaseDescriptionPacket, last]

lemma processEventExchangeStart_moves (state : neighbor.state = .EXCHANGE_START_STATE)
    (unnegotiated : event ≠ .NEGOTIATION_DONE) :
    Moves intf neighbor (neighbor.processEventExchangeStart intf env event) := by
  have unlike : neighbor.state ≠ .EXCHANGE_STATE := by
    rw [state]
    decide
  cases event with
  | KILL_NEIGHBOR | LINK_DOWN | INACTIVITY_TIMER | ONEWAY_RECEIVED =>
    exact .quiet (.resetTo (by decide) (by decide))
  | IS_ADJACENCY_OK => exact adjacencyOk_moves
  | NEGOTIATION_DONE => exact absurd rfl unnegotiated
  | DD_RETRANSMISSION_TIMER =>
    rw [processEventExchangeStart]
    cases last : neighbor.lastTransmittedDDPacket with
    | none =>
      rw [retransmit_of_none last]
      exact .quiet ⟨rfl, rfl, rfl, rfl, rfl, .inl rfl, fun h => absurd h unlike,
        fun _ => .inr ⟨unlike, rfl⟩, fun _ _ => .inl state, fun _ => .inl rfl⟩
    | some p =>
      rw [retransmit_of_last last]
      exact .resent last ⟨rfl, rfl, rfl, rfl, rfl, .inl rfl, fun h => absurd h unlike,
        fun _ => .inr ⟨unlike, rfl⟩, fun _ _ => .inl state, fun _ => .inl rfl⟩
  | _ => exact .refl

lemma processEventExchange_moves (state : neighbor.state = .EXCHANGE_STATE)
    (unfinished : event ≠ .EXCHANGE_DONE) :
    Moves intf neighbor (neighbor.processEventExchange intf env event) := by
  cases event with
  | KILL_NEIGHBOR | LINK_DOWN | INACTIVITY_TIMER | ONEWAY_RECEIVED =>
    exact .quiet (.resetTo (by decide) (by decide))
  | IS_ADJACENCY_OK => exact adjacencyOk_moves
  | SEQUENCE_NUMBER_MISMATCH | BAD_LINK_STATE_REQUEST => exact renegotiate_moves (.inr state)
  | EXCHANGE_DONE => exact absurd rfl unfinished
  | REQUEST_RETRANSMISSION_TIMER =>
    exact .quiet ⟨rfl, rfl, rfl, rfl, rfl, .inl rfl, fun h => ⟨h, rfl, rfl, rfl, rfl⟩,
      fun h => .inr ⟨h, rfl⟩, id, fun _ => .inl rfl⟩
  | _ => exact .refl

lemma processEventLoading_moves (state : neighbor.state = .LOADING_STATE) :
    Moves intf neighbor (neighbor.processEventLoading intf env event) := by
  have unlike : neighbor.state ≠ .EXCHANGE_STATE := by
    rw [state]
    decide
  cases event with
  | KILL_NEIGHBOR | LINK_DOWN | INACTIVITY_TIMER | ONEWAY_RECEIVED =>
    exact .quiet (.resetTo (by decide) (by decide))
  | IS_ADJACENCY_OK => exact adjacencyOk_moves
  | SEQUENCE_NUMBER_MISMATCH | BAD_LINK_STATE_REQUEST =>
    exact renegotiate_moves (.inl (.inr (.inl state)))
  | LOADING_DONE =>
    exact .quiet ⟨rfl, rfl, rfl, rfl, rfl, .inl rfl, nofun, fun _ => .inr ⟨unlike, rfl⟩,
      fun _ _ => .inr (.inr rfl), fun _ => .inr ⟨state, rfl⟩⟩
  | REQUEST_RETRANSMISSION_TIMER =>
    exact .quiet ⟨rfl, rfl, rfl, rfl, rfl, .inl rfl, fun h => absurd h unlike,
      fun h => .inr ⟨h, rfl⟩, id, fun _ => .inl rfl⟩
  | DD_RETRANSMISSION_TIMER =>
    exact .quiet ⟨rfl, rfl, rfl, rfl, rfl, .inr rfl, fun h => absurd h unlike,
      fun h => .inr ⟨h, rfl⟩, id, fun _ => .inl rfl⟩
  | _ => exact .refl

lemma processEventFull_moves (state : neighbor.state = .FULL_STATE) :
    Moves intf neighbor (neighbor.processEventFull intf env event) := by
  have unlike : neighbor.state ≠ .EXCHANGE_STATE := by
    rw [state]
    decide
  cases event with
  | KILL_NEIGHBOR | LINK_DOWN | INACTIVITY_TIMER | ONEWAY_RECEIVED =>
    exact .quiet (.resetTo (by decide) (by decide))
  | IS_ADJACENCY_OK => exact adjacencyOk_moves
  | SEQUENCE_NUMBER_MISMATCH | BAD_LINK_STATE_REQUEST =>
    exact renegotiate_moves (.inl (.inr (.inr state)))
  | DD_RETRANSMISSION_TIMER =>
    exact .quiet ⟨rfl, rfl, rfl, rfl, rfl, .inr rfl, fun h => absurd h unlike,
      fun h => .inr ⟨h, rfl⟩, id, fun _ => .inl rfl⟩
  | _ => exact .refl

/-- Each event is quiet, or it sends the last packet once more or begins a negotiation. -/
lemma processEvent_moves (unnegotiated : event ≠ .NEGOTIATION_DONE)
    (unfinished : event ≠ .EXCHANGE_DONE) :
    Moves intf neighbor (neighbor.processEvent intf env event) := by
  rw [processEvent]
  cases state : neighbor.state with
  | DOWN_STATE => exact processEventDown_moves state
  | ATTEMPT_STATE => exact processEventAttempt_moves state
  | INIT_STATE => exact processEventInit_moves state
  | TWOWAY_STATE => exact processEventTwoWay_moves state
  | EXCHANGE_START_STATE => exact processEventExchangeStart_moves state unnegotiated
  | EXCHANGE_STATE => exact processEventExchange_moves state unfinished
  | LOADING_STATE => exact processEventLoading_moves state
  | FULL_STATE => exact processEventFull_moves state

lemma Moves.unticked
    (moves : Moves intf { neighbor with ddRetransmissionTimer := false } after) :
    Moves intf neighbor after := by
  have off {n : Neighbor} : TimerRight { n with ddRetransmissionTimer := false } := nofun
  cases moves with
  | quiet quiet => exact .quiet { quiet with timer := fun _ => quiet.timer off }
  | resent last quiet => exact .resent last { quiet with timer := fun _ => quiet.timer off }
  | negotiated negotiates => exact .negotiated { negotiates with }

lemma expireDDRetransmissionTimer_moves :
    Moves intf neighbor (neighbor.expireDDRetransmissionTimer intf env) := by
  rw [expireDDRetransmissionTimer]
  split
  · apply Moves.unticked
    apply processEvent_moves
    · decide
    · decide
  · exact .refl

/-- The contents of a packet have been taken in, under a number. -/
structure Takes (intf : Endpoint B) (headers : List LSAHeader)
    (relationship : DatabaseExchangeRelationshipType) (number : ℕ) (neighbor after : Neighbor) :
    Prop where
  neighborID : after.neighborID = neighbor.neighborID
  inited : after.firstAdjacencyInited = neighbor.firstAdjacencyInited
  relationship : after.databaseExchangeRelationship = relationship
  number : after.ddSequenceNumber = number
  requests : after.linkStateRequestList =
    neighbor.linkStateRequestList ++ headers.filter intf.lacks
  processed : after.processed = neighbor.processed ++ headers

/-- The next part of a summary list has been sent. -/
structure Replies (intf : Endpoint B) (relationship : DatabaseExchangeRelationshipType)
    (number : ℕ) (summary : List LSAHeader) (neighbor after : Neighbor) : Prop where
  sent : after.sent = neighbor.sent ++ [intf.dataPacket relationship number summary]
  last : after.lastTransmittedDDPacket = some (intf.dataPacket relationship number summary)
  rest : after.databaseSummaryList = (intf.deal summary).2

lemma requestMissing_eq (neighbor : Neighbor) : ∃ active, neighbor.requestMissing =
    { neighbor with requestRetransmissionTimerActive := active } := by
  rw [requestMissing]
  split
  · exact ⟨true, rfl⟩
  · exact ⟨neighbor.requestRetransmissionTimerActive, rfl⟩

/-! ### Packets in `ExchangeStart` -/

/-- The packet ends the negotiation, and with what outcome. -/
inductive Agrees (intf : Endpoint B) (neighbor : Neighbor)
    (ddPacket : OSPFDatabaseDescriptionPacket) : DatabaseExchangeRelationshipType → ℕ → Prop
  | slave (init : ddPacket.ddOptions.I_Init = true) (empty : ddPacket.lsaHeaders = [])
      (lower : intf.router.routerID < neighbor.neighborID) :
      Agrees intf neighbor ddPacket .SLAVE ddPacket.ddSequenceNumber
  | master (init : ddPacket.ddOptions.I_Init = false)
      (slave : ddPacket.ddOptions.MS_MasterSlave = false)
      (answers : ddPacket.ddSequenceNumber = neighbor.ddSequenceNumber)
      (higher : neighbor.neighborID < intf.router.routerID) :
      Agrees intf neighbor ddPacket .MASTER (neighbor.ddSequenceNumber + 1)

/-- What a packet does in `ExchangeStart`. -/
inductive Negotiation (intf : Endpoint B) (neighbor : Neighbor)
    (ddPacket : OSPFDatabaseDescriptionPacket) : Neighbor → Prop
  | ignored : Negotiation intf neighbor ddPacket neighbor
  | repeated : Negotiation intf neighbor ddPacket (neighbor.sendDatabaseDescriptionPacket intf true)
  | refused {number : ℕ} {after : Neighbor} (agrees : Agrees intf neighbor ddPacket .MASTER number)
      (quiet : Quiet { neighbor with databaseExchangeRelationship := .MASTER } after)
      (state : after.state = .EXCHANGE_START_STATE) : Negotiation intf neighbor ddPacket after
  | entered {relationship : DatabaseExchangeRelationshipType} {number : ℕ} {after : Neighbor}
      (agrees : Agrees intf neighbor ddPacket relationship number)
      (takes : Takes intf ddPacket.lsaHeaders relationship number neighbor after)
      (replies : Replies intf relationship number
        (neighbor.databaseSummaryList ++ intf.databaseSummary) neighbor after)
      (state : after.state = .EXCHANGE_STATE) (off : after.ddRetransmissionTimer = false) :
      Negotiation intf neighbor ddPacket after

variable (start : neighbor.state = .EXCHANGE_START_STATE)
include start

lemma answerDDPacket_exchangeStart (p : OSPFDatabaseDescriptionPacket) :
    neighbor.answerDDPacket intf env p true =
      { neighbor with
        ddSequenceNumber :=
          if neighbor.databaseExchangeRelationship = .MASTER then neighbor.ddSequenceNumber + 1
          else p.ddSequenceNumber } := by
  have ignores {n : Neighbor} (h : n.state = .EXCHANGE_START_STATE) :
      n.processEvent intf env .EXCHANGE_DONE = n := by
    rw [processEvent_exchangeStart intf env n h]
    rfl
  rw [answerDDPacket]
  by_cases master : neighbor.databaseExchangeRelationship = .MASTER
  · rw [if_pos master, if_pos master]
    dsimp only
    rw [ignores (n := neighbor.incrementDDSequenceNumber) start, if_neg Bool.false_ne_true.symm]
    exact ite_self _
  · rw [if_neg master, if_neg master]
    simp only [reduceCtorEq, if_false]
    rw [ignores (n := { neighbor with ddSequenceNumber := p.ddSequenceNumber }) start]
    exact ite_self _

variable (intf env) in
lemma negotiationDone :
    (neighbor.processEvent intf env .NEGOTIATION_DONE).requestMissing.state = .EXCHANGE_STATE ∧
      (neighbor.processEvent intf env .NEGOTIATION_DONE).requestMissing.ddRetransmissionTimer =
        false ∧
      Takes intf [] neighbor.databaseExchangeRelationship neighbor.ddSequenceNumber neighbor
        (neighbor.processEvent intf env .NEGOTIATION_DONE).requestMissing ∧
      Replies intf neighbor.databaseExchangeRelationship neighbor.ddSequenceNumber
        (neighbor.databaseSummaryList ++ intf.databaseSummary) neighbor
        (neighbor.processEvent intf env .NEGOTIATION_DONE).requestMissing := by
  obtain ⟨active, eq⟩ := requestMissing_eq (neighbor.processEvent intf env .NEGOTIATION_DONE)
  rw [eq, processEvent_exchangeStart intf env neighbor start, processEventExchangeStart,
    sendDatabaseDescriptionPacket_false]
  exact ⟨rfl, rfl, ⟨rfl, rfl, rfl, rfl, (List.append_nil _).symm, (List.append_nil _).symm⟩,
    ⟨rfl, rfl, rfl⟩⟩

/-- The terms of an agreement. -/
def agreed (neighbor : Neighbor) (ddPacket : OSPFDatabaseDescriptionPacket)
    (relationship : DatabaseExchangeRelationshipType) (sequenceNumber : ℕ) : Neighbor :=
  { neighbor with
    neighborOptions := ddPacket.options
    databaseExchangeRelationship := relationship
    ddSequenceNumber := sequenceNumber
    lastReceivedDDPacket := ddPacket.packetID }

variable (intf env) in
lemma concludeNegotiation_cases (p : OSPFDatabaseDescriptionPacket)
    (rel : DatabaseExchangeRelationshipType) {number number' : ℕ}
    (next : number' = if rel = .MASTER then number + 1 else p.ddSequenceNumber) :
    ∃ after, neighbor.concludeNegotiation intf env p rel number = after ∧
      ((∃ taken, p.lsaHeaders ≠ [] ∧
          after = (neighbor.agreed p rel number).noteHeaders intf taken) ∨
        after.state = .EXCHANGE_STATE ∧ after.ddRetransmissionTimer = false ∧
          Takes intf p.lsaHeaders rel number' neighbor after ∧
          Replies intf rel number'
            (neighbor.databaseSummaryList ++ intf.databaseSummary) neighbor after) := by
  refine ⟨_, rfl, ?_⟩
  have terms : neighbor.concludeNegotiation intf env p rel number =
      let contents := (neighbor.agreed p rel number).processDDPacket intf env p true
      if contents.2 then (contents.1.processEvent intf env .NEGOTIATION_DONE).requestMissing
      else contents.1 := rfl
  rw [terms, processDDPacket]
  rcases processHeaders_cases intf env (neighbor.agreed p rel number)
    p.lsaHeaders with all | ⟨taken, left⟩
  · right
    rw [all]
    have noted : ((neighbor.agreed p rel number).noteHeaders intf
        p.lsaHeaders).state = .EXCHANGE_START_STATE := start
    obtain ⟨counted, answer, start', sent, summary, takes⟩ : ∃ counted,
        ((neighbor.agreed p rel number).noteHeaders intf
          p.lsaHeaders).answerDDPacket intf env p true = counted ∧
        counted.state = .EXCHANGE_START_STATE ∧ counted.sent = neighbor.sent ∧
        counted.databaseSummaryList = neighbor.databaseSummaryList ∧
        Takes intf p.lsaHeaders rel number' neighbor counted :=
      ⟨_, answerDDPacket_exchangeStart noted p, start, rfl, rfl, rfl, rfl, rfl, next.symm, rfl, rfl⟩
    obtain ⟨state, off, taken, replies⟩ := negotiationDone intf env start'
    rw [takes.relationship, takes.number, summary] at replies
    rw [if_pos rfl, answer]
    exact ⟨state, off, ⟨taken.neighborID.trans takes.neighborID, taken.inited.trans takes.inited,
        taken.relationship.trans takes.relationship, taken.number.trans takes.number,
        taken.requests.trans ((List.append_nil _).trans takes.requests),
        taken.processed.trans ((List.append_nil _).trans takes.processed)⟩,
      ⟨replies.sent.trans (by rw [sent]), replies.last, replies.rest⟩⟩
  · left
    rw [left]
    rw [if_neg Bool.false_ne_true]
    refine ⟨taken, ?_, ?_⟩
    · intro empty
      rw [empty] at left
      exact Bool.noConfusion (congrArg Prod.snd left)
    · exact processEvent_exchangeStart intf env
        ((neighbor.agreed p rel number).noteHeaders intf taken) start _

lemma processPacketExchangeStart_cases (p : OSPFDatabaseDescriptionPacket) :
    Negotiation intf neighbor p (neighbor.processPacketExchangeStart intf env p) := by
  rw [processPacketExchangeStart]
  split_ifs with init higher answers
  · have agrees : Agrees intf neighbor p .SLAVE p.ddSequenceNumber :=
      .slave init.1 init.2.2.2 higher
    obtain ⟨after, eq, ⟨taken, refused, -⟩ | ⟨state, off, takes, replies⟩⟩ :=
      concludeNegotiation_cases intf env start p .SLAVE
        rfl
    · exact absurd init.2.2.2 refused
    · rw [eq]
      exact .entered agrees takes replies state off
  · exact .repeated
  · obtain ⟨init, slave, number, higher⟩ := answers
    have agrees : Agrees intf neighbor p .MASTER (neighbor.ddSequenceNumber + 1) :=
      .master init slave number higher
    obtain ⟨after, eq, ⟨taken, -, refused⟩ | ⟨state, off, takes, replies⟩⟩ :=
      concludeNegotiation_cases intf env start p .MASTER
        rfl
    · rw [eq, refused]
      have unlike : neighbor.state ≠ .EXCHANGE_STATE := by
        rw [start]
        decide
      exact .refused agrees ⟨rfl, rfl, rfl, rfl, rfl, .inl rfl, fun h => absurd h unlike,
        fun h => .inr ⟨h, rfl⟩, id, fun _ => .inl rfl⟩ start
    · rw [eq]
      exact .entered agrees takes replies state off
  · exact .ignored

omit start

/-! ### Packets in `Exchange` and after it -/

/-- The number under which the contents of a packet are taken in. -/
def countOn (neighbor : Neighbor) (ddPacket : OSPFDatabaseDescriptionPacket) : ℕ :=
  if neighbor.databaseExchangeRelationship = .MASTER then neighbor.ddSequenceNumber + 1
  else ddPacket.ddSequenceNumber

/-- What a packet that comes next does in `Exchange`: it is answered, or it ends the exchange. -/
inductive Accepts (intf : Endpoint B) (neighbor : Neighbor)
    (ddPacket : OSPFDatabaseDescriptionPacket) : Neighbor → Prop
  | answered {after : Neighbor}
      (takes : Takes intf ddPacket.lsaHeaders neighbor.databaseExchangeRelationship
        (neighbor.countOn ddPacket) neighbor after)
      (replies : Replies intf neighbor.databaseExchangeRelationship (neighbor.countOn ddPacket)
        neighbor.databaseSummaryList neighbor after)
      (state : after.state = .EXCHANGE_STATE)
      (timer : after.ddRetransmissionTimer = neighbor.ddRetransmissionTimer) :
      Accepts intf neighbor ddPacket after
  | finished {after : Neighbor}
      (takes : Takes intf ddPacket.lsaHeaders neighbor.databaseExchangeRelationship
        (neighbor.countOn ddPacket) neighbor after)
      (more : ddPacket.ddOptions.M_More = false)
      (state : after.state = .LOADING_STATE ∨ after.state = .FULL_STATE)
      (summary : after.databaseSummaryList = [])
      (sent : neighbor.databaseExchangeRelationship = .MASTER ∧ after.sent = neighbor.sent ∧
          after.lastTransmittedDDPacket = neighbor.lastTransmittedDDPacket ∨
        neighbor.databaseExchangeRelationship = .SLAVE ∧
          Replies intf neighbor.databaseExchangeRelationship (neighbor.countOn ddPacket)
            neighbor.databaseSummaryList neighbor after) : Accepts intf neighbor ddPacket after

/-- The packet that comes next is one of the other side, and no offer. -/
lemma in_order (matching : neighbor.mismatches p = false) (next : neighbor.isNext p = true) :
    p.ddOptions.I_Init = false ∧ (neighbor.databaseExchangeRelationship = .MASTER ∧
          p.ddOptions.MS_MasterSlave = false ∧
          p.ddSequenceNumber = neighbor.ddSequenceNumber ∨
        neighbor.databaseExchangeRelationship = .SLAVE ∧ p.ddOptions.MS_MasterSlave = true ∧
          p.ddSequenceNumber = neighbor.ddSequenceNumber + 1) := by
  have none := of_decide_eq_false matching
  push Not at none
  obtain ⟨master, slave, init, -⟩ := none
  refine ⟨eq_false_of_ne_true init, ?_⟩
  rcases of_decide_eq_true next with ⟨relation, number⟩ | ⟨relation, number⟩
  · refine .inl ⟨relation, eq_false_of_ne_true fun bit => ?_, number⟩
    rw [relation] at master
    exact absurd (master bit) (by decide)
  · refine .inr ⟨relation, eq_true_of_ne_false fun bit => ?_, number⟩
    rw [relation] at slave
    exact absurd (slave bit) (by decide)

variable (intf env) in
lemma exchangeDone (exchange : neighbor.state = .EXCHANGE_STATE) :
    ∃ state active, (state = .LOADING_STATE ∨ state = .FULL_STATE) ∧
      neighbor.processEvent intf env .EXCHANGE_DONE =
        { neighbor with
          ddRetransmissionTimer := true
          requestRetransmissionTimerActive := active
          state := state } := by
  rw [processEvent_exchange intf env neighbor exchange, processEventExchange]
  split
  · exact ⟨_, _, .inr rfl, rfl⟩
  · exact ⟨_, _, .inl rfl, rfl⟩

lemma answerDDPacket_exchange (exchange : neighbor.state = .EXCHANGE_STATE)
    (p : OSPFDatabaseDescriptionPacket) :
    Accepts intf neighbor p ((neighbor.noteHeaders intf p.lsaHeaders).answerDDPacket
      intf env p false).requestMissing := by
  have finishes {n : Neighbor} (h : n.state = .EXCHANGE_STATE) : ∃ state timer active,
      (state = .LOADING_STATE ∨ state = .FULL_STATE) ∧
      (n.processEvent intf env .EXCHANGE_DONE).requestMissing =
        { n with
          ddRetransmissionTimer := timer
          requestRetransmissionTimerActive := active
          state := state } := by
    obtain ⟨state, active, ended, eq⟩ := exchangeDone intf env h
    obtain ⟨active', eq'⟩ := requestMissing_eq (n.processEvent intf env .EXCHANGE_DONE)
    exact ⟨state, true, active', ended, by rw [eq', eq]⟩
  rw [answerDDPacket]
  by_cases master : neighbor.databaseExchangeRelationship = .MASTER
  · have number : neighbor.countOn p = neighbor.ddSequenceNumber + 1 := if_pos master
    rw [if_pos (show (neighbor.noteHeaders intf
      p.lsaHeaders).databaseExchangeRelationship = .MASTER from master)]
    dsimp only
    split
    · rename_i done
      obtain ⟨state, timer, active, ended, eq⟩ := finishes
        (n := (neighbor.noteHeaders intf p.lsaHeaders).incrementDDSequenceNumber) exchange
      rw [eq]
      exact .finished ⟨rfl, rfl, rfl, number.symm, rfl, rfl⟩ done.2 ended done.1
        (.inl ⟨master, rfl, rfl⟩)
    · rw [if_pos rfl, sendDatabaseDescriptionPacket_false]
      obtain ⟨active, eq⟩ := requestMissing_eq _
      rw [eq]
      refine .answered ⟨rfl, rfl, rfl, number.symm, rfl, rfl⟩ ?_ exchange rfl
      rw [number]
      exact ⟨rfl, rfl, rfl⟩
  · have slave : neighbor.databaseExchangeRelationship = .SLAVE := by
      cases h : neighbor.databaseExchangeRelationship with
      | MASTER => exact absurd h master
      | SLAVE => rfl
    have number : neighbor.countOn p = p.ddSequenceNumber := if_neg master
    rw [if_neg (show (neighbor.noteHeaders intf
      p.lsaHeaders).databaseExchangeRelationship ≠ .MASTER from master)]
    obtain ⟨sent, eq, state, timer, takes, replies⟩ : ∃ sent,
        ({ neighbor.noteHeaders intf p.lsaHeaders with
          ddSequenceNumber := p.ddSequenceNumber }).sendDatabaseDescriptionPacket intf
            false = sent ∧
        sent.state = .EXCHANGE_STATE ∧
        sent.ddRetransmissionTimer = neighbor.ddRetransmissionTimer ∧
        Takes intf p.lsaHeaders neighbor.databaseExchangeRelationship
          (neighbor.countOn p) neighbor sent ∧
        Replies intf neighbor.databaseExchangeRelationship (neighbor.countOn p)
          neighbor.databaseSummaryList neighbor sent := by
      rw [sendDatabaseDescriptionPacket_false, number]
      exact ⟨_, rfl, exchange, rfl, ⟨rfl, rfl, rfl, rfl, rfl, rfl⟩, ⟨rfl, rfl, rfl⟩⟩
    simp only [if_true]
    rw [eq]
    split
    · rename_i done
      obtain ⟨ended, timer', active, late, eq'⟩ := finishes state
      rw [eq']
      exact .finished { takes with } done.1 late done.2 (.inr ⟨slave, { replies with }⟩)
    · obtain ⟨active, eq'⟩ := requestMissing_eq sent
      rw [eq']
      exact .answered { takes with } { replies with } state timer

lemma Accepts.unreceived {id : DDPacketID}
    (accepts : Accepts intf { neighbor with lastReceivedDDPacket := id } p after) :
    Accepts intf neighbor p after := by
  cases accepts with
  | answered takes replies state timer => exact .answered { takes with } { replies with } state timer
  | finished takes more state summary sent =>
    refine .finished { takes with } more state summary ?_
    rcases sent with master | ⟨slave, replies⟩
    · exact .inl master
    · exact .inr ⟨slave, { replies with }⟩

lemma processPacketExchange_cases (exchange : neighbor.state = .EXCHANGE_STATE)
    (p : OSPFDatabaseDescriptionPacket) :
    Moves intf neighbor (neighbor.processPacketExchange intf env p) ∨
      neighbor.mismatches p = false ∧ neighbor.isNext p = true ∧
        Accepts intf neighbor p (neighbor.processPacketExchange intf env p) := by
  have restart {n : Neighbor} (h : n.state = .EXCHANGE_STATE) :
      n.processEvent intf env .SEQUENCE_NUMBER_MISMATCH = n.renegotiate intf := by
    rw [processEvent_exchange intf env n h]
    rfl
  rw [processPacketExchange]
  split_ifs with new mismatches next slave
  · rw [restart exchange]
    exact .inl (renegotiate_moves (.inr exchange))
  · rw [processDDPacket]
    rcases processHeaders_cases intf env
      { neighbor with lastReceivedDDPacket := p.packetID } p.lsaHeaders with
      all | ⟨taken, refused⟩
    · right
      rw [all]
      refine ⟨eq_false_of_ne_true mismatches, next, ?_⟩
      have received : ({ neighbor with
          lastReceivedDDPacket := p.packetID } : Neighbor).state = .EXCHANGE_STATE := exchange
      exact (answerDDPacket_exchange received p).unreceived
    · left
      rw [refused]
      rw [if_neg Bool.false_ne_true]
      rw [if_neg Bool.false_ne_true, restart (n := noteHeaders intf
        { neighbor with lastReceivedDDPacket := p.packetID } taken) exchange]
      exact .negotiated ⟨rfl, rfl, rfl, .inr ⟨.inr (.inr exchange), rfl, rfl⟩, .inl rfl⟩
  · rw [restart exchange]
    exact .inl (renegotiate_moves (.inr exchange))
  · left
    cases last : neighbor.lastTransmittedDDPacket with
    | none =>
      rw [retransmit_of_none last]
      exact .refl
    | some lastPacket =>
      rw [retransmit_of_last last]
      exact .resent last .refl
  · exact .inl .refl

lemma processPacketLoading_moves (p : OSPFDatabaseDescriptionPacket) :
    Moves intf neighbor (neighbor.processPacketLoading intf env p) := by
  have mismatch : Moves intf neighbor
      (neighbor.processEvent intf env .SEQUENCE_NUMBER_MISMATCH) :=
    processEvent_moves (by decide) (by decide)
  rw [processPacketLoading]
  split_ifs
  · exact mismatch
  · cases last : neighbor.lastTransmittedDDPacket with
    | none =>
      rw [retransmit_of_none last]
      exact mismatch
    | some lastPacket =>
      rw [retransmit_of_last last]
      exact .resent last .refl
  · exact .refl

variable (intf env neighbor) in
/-- What a packet does: in `ExchangeStart` it may end the negotiation, in `Exchange` be the next
one, and else it acts like an event. -/
lemma processPacket_cases (p : OSPFDatabaseDescriptionPacket) :
    Moves intf neighbor (neighbor.processPacket intf env p) ∨
      neighbor.state = .EXCHANGE_START_STATE ∧
        Negotiation intf neighbor p (neighbor.processPacket intf env p) ∨
      neighbor.state = .EXCHANGE_STATE ∧ neighbor.mismatches p = false ∧ neighbor.isNext p = true ∧
        Accepts intf neighbor p (neighbor.processPacket intf env p) := by
  rw [processPacket]
  split
  · cases state : neighbor.state with
    | DOWN_STATE | ATTEMPT_STATE | TWOWAY_STATE => exact .inl .refl
    | INIT_STATE => exact .inl (processEvent_moves (by decide) (by decide))
    | EXCHANGE_START_STATE => exact .inr (.inl ⟨rfl, processPacketExchangeStart_cases state _⟩)
    | EXCHANGE_STATE =>
      rcases processPacketExchange_cases state p with moves | accepted
      · exact .inl moves
      · exact .inr (.inr ⟨rfl, accepted⟩)
    | LOADING_STATE | FULL_STATE => exact .inl (processPacketLoading_moves _)
  · exact .inl .refl

end Neighbor

end Inet.Ospf.Exchange
