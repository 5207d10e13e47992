import Inet.Ospf.ExchangeLink

/-!
# The database exchange is complete

The master counts the packets of all its negotiations on, so each number belongs to one packet:
`base` tells the number of its negotiation, and the difference which part of the summary list goes
with it (`Offers`). The slave answers under these numbers (`Answers`).
-/

namespace Inet.Ospf.Exchange

open Inet.Ospf.Flooding Exchange.Neighbor List Function

variable {B : Type}

/-! ## The packets on the link -/

/-- All packets of a neighbor structure that are on the link or may be sent again. -/
def Sends (P : OSPFDatabaseDescriptionPacket → Prop) (neighbor : Neighbor) : Prop :=
  (∀ ddPacket ∈ neighbor.sent, P ddPacket) ∧
    ∀ ddPacket, neighbor.lastTransmittedDDPacket = some ddPacket → P ddPacket

namespace Sends

variable {P Q R : OSPFDatabaseDescriptionPacket → Prop} {i : Endpoint B} {neighbor after : Neighbor}
variable {ddPacket : OSPFDatabaseDescriptionPacket}

variable (sends : Sends P neighbor)
include sends

lemma mono (imp : ∀ ddPacket, P ddPacket → Q ddPacket) : Sends Q neighbor :=
  ⟨fun _ mem => imp _ (sends.1 _ mem), fun _ last => imp _ (sends.2 _ last)⟩

lemma both (sends' : Sends Q neighbor)
    (imp : ∀ ddPacket, P ddPacket → Q ddPacket → R ddPacket) : Sends R neighbor :=
  ⟨fun _ mem => imp _ (sends.1 _ mem) (sends'.1 _ mem),
    fun _ last => imp _ (sends.2 _ last) (sends'.2 _ last)⟩

lemma of_quiet (quiet : Quiet neighbor after) : Sends P after := by
  refine ⟨fun ddPacket mem => ?_, fun ddPacket last => ?_⟩
  · rw [quiet.sent] at mem
    exact sends.1 ddPacket mem
  · rcases quiet.last with same | none
    · rw [same] at last
      exact sends.2 ddPacket last
    · rw [none] at last
      cases last

lemma of_link {sent : List OSPFDatabaseDescriptionPacket}
    (subset : ∀ ddPacket ∈ sent, ddPacket ∈ neighbor.sent) :
    Sends P { neighbor with sent := sent } :=
  ⟨fun ddPacket mem => sends.1 ddPacket (subset ddPacket mem), sends.2⟩

lemma of_resent (last : neighbor.lastTransmittedDDPacket = some ddPacket) :
    Sends P { neighbor with sent := neighbor.sent ++ [ddPacket] } := by
  refine ⟨fun other mem => ?_, sends.2⟩
  rcases mem_append.mp mem with old | new
  · exact sends.1 other old
  · rw [mem_singleton.mp new]
    exact sends.2 ddPacket last

omit sends

lemma of_sent {before : List OSPFDatabaseDescriptionPacket} (sends : ∀ other ∈ before, P other)
    (sent : after.sent = before ++ [ddPacket])
    (last : after.lastTransmittedDDPacket = some ddPacket) (new : P ddPacket) : Sends P after := by
  refine ⟨fun other mem => ?_, fun other last' => ?_⟩
  · rw [sent] at mem
    rcases mem_append.mp mem with old | mem'
    · exact sends other old
    · rwa [mem_singleton.mp mem']
  · rw [last] at last'
    rwa [← Option.some.inj last']

end Sends

/-- For each number the number of its negotiation. -/
structure Numbering (base : ℕ → ℕ) (number : ℕ) : Prop where
  le : ∀ q ≤ number, base q ≤ q
  next : ∀ q < number, base (q + 1) = q + 1 ∨ base (q + 1) = base q

/-- A packet of the master is the offer of a negotiation or a part of its summary list. -/
def Offers (hi : Endpoint B) (base : ℕ → ℕ) (relationship : DatabaseExchangeRelationshipType)
    (number : ℕ) (ddPacket : OSPFDatabaseDescriptionPacket) : Prop :=
  ∃ q ≤ number, base q = q ∧ ddPacket = hi.initPacket q ∨
    relationship = .MASTER ∧ base q < q ∧ ddPacket = hi.dataPacket .MASTER q
      (restAfter hi.deal (q - base q - 1) hi.databaseSummary)

/-- A packet of the slave is an offer of its own or the part of its summary list that answers the
packet with that number. -/
def Answers (lo : Endpoint B) (base : ℕ → ℕ) (relationship : DatabaseExchangeRelationshipType)
    (number : ℕ) (ddPacket : OSPFDatabaseDescriptionPacket) : Prop :=
  (∃ q, ddPacket = lo.initPacket q) ∨ ∃ q ≤ number, relationship = .SLAVE ∧
    ddPacket = lo.dataPacket .SLAVE q (restAfter lo.deal (q - base q) lo.databaseSummary)

/-- A header has been taken in, and is requested if the LSA is lacking. -/
def Noted (intf : Endpoint B) (neighbor : Neighbor) (header : LSAHeader) : Prop :=
  header ∈ neighbor.processed ∧ (intf.lacks header = true → header ∈ neighbor.linkStateRequestList)

lemma Noted.congr {i : Endpoint B} {neighbor after : Neighbor} {header : LSAHeader}
    (noted : Noted i neighbor header)
    (requests : after.linkStateRequestList = neighbor.linkStateRequestList)
    (processed : after.processed = neighbor.processed) : Noted i after header := by
  rwa [Noted, requests, processed]

lemma Neighbor.Takes.taken {i other : Endpoint B} {neighbor after : Neighbor}
    {headers : List LSAHeader} {rel : DatabaseExchangeRelationshipType} {number part : ℕ}
    (takes : Takes i headers rel number neighbor after)
    (taken : Taken (Noted i neighbor) other.databaseSummary
      (restAfter other.deal part other.databaseSummary))
    (batch : headers = batchAt other.deal part other.databaseSummary) :
    Taken (Noted i after) other.databaseSummary
      (restAfter other.deal (part + 1) other.databaseSummary) := by
  refine taken.batch other.isDeal (fun header noted => ?_) fun header mem => ?_
  · rw [Noted, takes.processed, takes.requests]
    exact ⟨mem_append_left _ noted.1, fun lacks => mem_append_left _ (noted.2 lacks)⟩
  · rw [← batch] at mem
    rw [Noted, takes.processed, takes.requests]
    exact ⟨mem_append_right _ mem, fun lacks => mem_append_right _ (mem_filter.mpr ⟨mem, lacks⟩)⟩

structure MasterSide (hi lo : Endpoint B) (base : ℕ → ℕ) (neighbor : Neighbor) : Prop where
  neighborID : neighbor.neighborID = lo.router.routerID
  sends : Sends (Offers hi base neighbor.databaseExchangeRelationship neighbor.ddSequenceNumber)
    neighbor
  start : neighbor.state = .EXCHANGE_START_STATE →
    base neighbor.ddSequenceNumber = neighbor.ddSequenceNumber
  exchange : neighbor.state = .EXCHANGE_STATE →
    neighbor.databaseExchangeRelationship = .MASTER ∧
    base neighbor.ddSequenceNumber < neighbor.ddSequenceNumber ∧
    neighbor.databaseSummaryList = restAfter hi.deal
      (neighbor.ddSequenceNumber - base neighbor.ddSequenceNumber) hi.databaseSummary ∧
    Taken (Noted hi neighbor) lo.databaseSummary (restAfter lo.deal
      (neighbor.ddSequenceNumber - base neighbor.ddSequenceNumber) lo.databaseSummary)
  summary : neighbor.state ≠ .EXCHANGE_STATE → neighbor.databaseSummaryList = []

structure SlaveSide (hi lo : Endpoint B) (base : ℕ → ℕ) (number : ℕ) (neighbor : Neighbor) :
    Prop where
  neighborID : neighbor.neighborID = hi.router.routerID
  sends : Sends (Answers lo base neighbor.databaseExchangeRelationship number) neighbor
  exchange : neighbor.state = .EXCHANGE_STATE →
    neighbor.databaseExchangeRelationship = .SLAVE ∧ neighbor.ddSequenceNumber ≤ number ∧
    neighbor.databaseSummaryList = restAfter lo.deal
      (neighbor.ddSequenceNumber - base neighbor.ddSequenceNumber + 1) lo.databaseSummary ∧
    Taken (Noted lo neighbor) hi.databaseSummary (restAfter hi.deal
      (neighbor.ddSequenceNumber - base neighbor.ddSequenceNumber) hi.databaseSummary)
  summary : neighbor.state ≠ .EXCHANGE_STATE → neighbor.databaseSummaryList = []

/-- Before its first negotiation the master has sent nothing, and so the slave no answer. -/
structure Fresh (higher lower : Neighbor) : Prop where
  sent : higher.sent = []
  last : higher.lastTransmittedDDPacket = none
  state : ¬ mayRetransmit higher.state ∧ higher.state ≠ .EXCHANGE_STATE
  offers : Sends (fun ddPacket => ddPacket.ddOptions.I_Init = true) lower
  waits : lower.state ≠ .EXCHANGE_STATE

structure Consistent (hi lo : Endpoint B) (base : ℕ → ℕ) (s : Link) : Prop where
  numbering : Numbering base s.higher.ddSequenceNumber
  master : MasterSide hi lo base s.higher
  slave : SlaveSide hi lo base s.higher.ddSequenceNumber s.lower
  fresh : s.higher.firstAdjacencyInited = false → Fresh s.higher s.lower

section Counting

variable {hi lo : Endpoint B} {base base' : ℕ → ℕ} {number number' : ℕ}
variable {rel : DatabaseExchangeRelationshipType} {ddPacket : OSPFDatabaseDescriptionPacket}

/-- The numbers given so far keep their negotiation. -/
def Extends (number : ℕ) (base base' : ℕ → ℕ) : Prop := ∀ q ≤ number, base' q = base q

lemma Extends.refl : Extends number base base := fun _ _ => rfl

lemma extends_update (value : ℕ) : Extends number base (update base (number + 1) value) :=
  fun _ le => update_of_ne (by omega) ..

/-- The next number begins a negotiation or belongs to the current one. -/
lemma Numbering.update (numbering : Numbering base number) {value : ℕ}
    (cases' : value = number + 1 ∨ value = base number) :
    Numbering (update base (number + 1) value) (number + 1) := by
  have extend : Extends number base _ := extends_update value
  refine ⟨fun q le => ?_, fun q lt => ?_⟩
  · rcases Nat.lt_or_eq_of_le le with below | rfl
    · rw [extend q (by omega)]
      exact numbering.le q (by omega)
    · rw [update_self]
      have := numbering.le number le_rfl
      omega
  · rcases Nat.lt_or_eq_of_le (Nat.le_of_lt_succ lt) with below | rfl
    · rw [extend q (by omega), extend (q + 1) (by omega)]
      exact numbering.next q below
    · rw [update_self, extend q le_rfl]
      exact cases'

lemma Offers.mono (offers : Offers hi base rel number ddPacket)
    (extend : Extends number base base') (le : number ≤ number') :
    Offers hi base' rel number' ddPacket := by
  obtain ⟨q, qLe, cases'⟩ := offers
  refine ⟨q, qLe.trans le, ?_⟩
  rwa [extend q qLe]

lemma Answers.mono (answers : Answers lo base rel number ddPacket)
    (extend : Extends number base base') (le : number ≤ number') :
    Answers lo base' rel number' ddPacket := by
  rcases answers with init | ⟨q, qLe, slave, eq⟩
  · exact .inl init
  · refine .inr ⟨q, qLe.trans le, slave, ?_⟩
    rwa [extend q qLe]

lemma SlaveSide.mono {neighbor : Neighbor} (slave : SlaveSide hi lo base number neighbor)
    (extend : Extends number base base') (le : number ≤ number') :
    SlaveSide hi lo base' number' neighbor := by
  refine ⟨slave.neighborID, slave.sends.mono fun _ answers => answers.mono extend le,
    fun exchange => ?_, slave.summary⟩
  obtain ⟨rel, qLe, summary, taken⟩ := slave.exchange exchange
  rw [extend _ qLe]
  exact ⟨rel, qLe.trans le, summary, taken⟩

end Counting

/-! ## The master -/

namespace MasterSide

variable {hi lo : Endpoint B} {base : ℕ → ℕ} {neighbor after : Neighbor}

lemma of_quiet (master : MasterSide hi lo base neighbor) (quiet : Quiet neighbor after) :
    MasterSide hi lo base after := by
  have sends := master.sends.of_quiet quiet
  refine ⟨quiet.neighborID.trans master.neighborID, ?_, fun start => ?_, fun exchange => ?_,
    fun ended => ?_⟩
  · rwa [quiet.relationship, quiet.number]
  · rcases quiet.begun (.inl start) with same | ⟨-, full⟩
    · rw [quiet.number]
      exact master.start (same.symm.trans start)
    · rw [full] at start
      cases start
  · obtain ⟨before, summary, requests, processed, -⟩ := quiet.kept exchange
    rw [quiet.relationship, quiet.number, summary]
    obtain ⟨rel, lt, dealt, taken⟩ := master.exchange before
    exact ⟨rel, lt, dealt, taken.mono fun _ noted => noted.congr requests processed⟩
  · rcases quiet.ended ended with empty | ⟨before, same⟩
    · exact empty
    · rw [same]
      exact master.summary before

/-- The master goes on: what has a number keeps its place. -/
def Continues (hi lo : Endpoint B) (base : ℕ → ℕ) (number : ℕ) (after : Neighbor) : Prop :=
  ∃ base', Extends number base base' ∧ number ≤ after.ddSequenceNumber ∧
    Numbering base' after.ddSequenceNumber ∧ MasterSide hi lo base' after ∧
    after.firstAdjacencyInited = true

lemma continues (master : MasterSide hi lo base after) (inited : after.firstAdjacencyInited = true)
    {number : ℕ} (numbering : Numbering base number) (same : after.ddSequenceNumber = number) :
    Continues hi lo base number after :=
  ⟨base, .refl, same.ge, same.symm ▸ numbering, master, inited⟩

lemma negotiate {before : Neighbor} (neighborID : before.neighborID = lo.router.routerID)
    (sent : ∀ ddPacket ∈ before.sent,
      Offers hi base before.databaseExchangeRelationship before.ddSequenceNumber ddPacket)
    (own : base before.ddSequenceNumber = before.ddSequenceNumber)
    (summary : before.databaseSummaryList = []) : MasterSide hi lo base (before.negotiate hi) :=
  ⟨neighborID, .of_sent sent rfl rfl ⟨before.ddSequenceNumber, le_rfl, .inl ⟨own, rfl⟩⟩,
    fun _ => own, nofun, fun _ => summary⟩

lemma of_moves (master : MasterSide hi lo base neighbor)
    (numbering : Numbering base neighbor.ddSequenceNumber)
    (inited : neighbor.firstAdjacencyInited = true) (moves : Moves hi neighbor after) :
    Continues hi lo base neighbor.ddSequenceNumber after := by
  cases moves with
  | quiet quiet =>
    exact (master.of_quiet quiet).continues (quiet.inited.trans inited) numbering quiet.number
  | @resent after ddPacket last quiet =>
    have resent : MasterSide hi lo base { neighbor with sent := neighbor.sent ++ [ddPacket] } :=
      { master with sends := master.sends.of_resent last }
    exact (resent.of_quiet quiet).continues (quiet.inited.trans inited) numbering quiet.number
  | @negotiated before negotiates =>
    rcases negotiates.number with ⟨-, fresh⟩ | ⟨-, same, number⟩
    · rw [inited] at fresh
      cases fresh
    · have number' : (before.negotiate hi).ddSequenceNumber = neighbor.ddSequenceNumber + 1 :=
        number
      have extend : Extends neighbor.ddSequenceNumber base _ :=
        extends_update (neighbor.ddSequenceNumber + 1)
      refine ⟨_, extend, by omega, number' ▸ numbering.update (.inl rfl), ?_, same.trans inited⟩
      refine negotiate (negotiates.neighborID.trans master.neighborID) (fun ddPacket mem => ?_) ?_
        ?_
      · rw [negotiates.sent] at mem
        rw [negotiates.relationship, number]
        exact (master.sends.1 ddPacket mem).mono extend (Nat.le_succ _)
      · rw [number, update_self]
      · rcases negotiates.summary with empty | ⟨before', same'⟩
        · exact empty
        · rw [same']
          exact master.summary before'

lemma of_first (master : MasterSide hi lo base neighbor) (sent : neighbor.sent = [])
    {before : Neighbor} (negotiates : Negotiates neighbor before)
    (state : neighbor.state ≠ .EXCHANGE_STATE) : MasterSide hi lo id (before.negotiate hi) := by
  refine negotiate (negotiates.neighborID.trans master.neighborID) (fun ddPacket mem => ?_) rfl ?_
  · rw [negotiates.sent, sent] at mem
    cases mem
  · rcases negotiates.summary with empty | ⟨-, same⟩
    · exact empty
    · rw [same]
      exact master.summary state

section Answered

variable {ddPacket : OSPFDatabaseDescriptionPacket} {part : ℕ}

/-- What has been sent keeps its place under the next number. -/
lemma sends_next (master : MasterSide hi lo base neighbor) :
    Sends (Offers hi (update base (neighbor.ddSequenceNumber + 1)
      (base neighbor.ddSequenceNumber)) .MASTER (neighbor.ddSequenceNumber + 1)) neighbor := by
  refine master.sends.mono fun ddPacket offers => ?_
  obtain ⟨q, qLe, cases'⟩ :=
    offers.mono (extends_update (base neighbor.ddSequenceNumber)) (Nat.le_succ _)
  exact ⟨q, qLe, cases'.imp_right fun data => ⟨rfl, data.2⟩⟩

lemma reply (master : MasterSide hi lo base neighbor)
    (numbering : Numbering base neighbor.ddSequenceNumber)
    (inited : neighbor.firstAdjacencyInited = true)
    (partEq : part = neighbor.ddSequenceNumber - base neighbor.ddSequenceNumber)
    (taken : Taken (Noted hi neighbor) lo.databaseSummary
      (restAfter lo.deal part lo.databaseSummary))
    (answer : ddPacket.lsaHeaders = batchAt lo.deal part lo.databaseSummary)
    (takes : Takes hi ddPacket.lsaHeaders .MASTER (neighbor.ddSequenceNumber + 1) neighbor after)
    (replies : Replies hi .MASTER (neighbor.ddSequenceNumber + 1)
      (restAfter hi.deal part hi.databaseSummary) neighbor after)
    (state : after.state = .EXCHANGE_STATE) :
    Continues hi lo base neighbor.ddSequenceNumber after := by
  have le := numbering.le _ le_rfl
  refine ⟨update base (neighbor.ddSequenceNumber + 1) (base neighbor.ddSequenceNumber),
    extends_update _, ?_, ?_, ⟨takes.neighborID.trans master.neighborID, ?_, ?_, ?_, ?_⟩,
    takes.inited.trans inited⟩
  · rw [takes.number]
    exact Nat.le_succ _
  · rw [takes.number]
    exact numbering.update (.inr rfl)
  · rw [takes.relationship, takes.number]
    refine .of_sent master.sends_next.1 replies.sent replies.last
      ⟨neighbor.ddSequenceNumber + 1, le_rfl, .inr ⟨rfl, ?_, ?_⟩⟩
    · rw [update_self]
      omega
    · rw [update_self, partEq]
      congr 2
      omega
  · rw [state]
    nofun
  · intro _
    have next : neighbor.ddSequenceNumber + 1 - base neighbor.ddSequenceNumber = part + 1 := by
      omega
    rw [takes.number, update_self, next, replies.rest, restAfter_succ]
    exact ⟨takes.relationship, by omega, rfl, takes.taken taken answer⟩
  · intro ended
    exact absurd state ended

lemma finish (master : MasterSide hi lo base neighbor)
    (numbering : Numbering base neighbor.ddSequenceNumber)
    (inited : neighbor.firstAdjacencyInited = true)
    (takes : Takes hi ddPacket.lsaHeaders .MASTER (neighbor.ddSequenceNumber + 1) neighbor after)
    (sent : after.sent = neighbor.sent)
    (last : after.lastTransmittedDDPacket = neighbor.lastTransmittedDDPacket)
    (state : after.state = .LOADING_STATE ∨ after.state = .FULL_STATE)
    (summary : after.databaseSummaryList = []) :
    Continues hi lo base neighbor.ddSequenceNumber after := by
  have ended : after.state ≠ .EXCHANGE_STATE ∧ after.state ≠ .EXCHANGE_START_STATE := by
    rcases state with loading | full
    · rw [loading]
      decide
    · rw [full]
      decide
  refine ⟨update base (neighbor.ddSequenceNumber + 1) (base neighbor.ddSequenceNumber),
    extends_update _, ?_, ?_, ⟨takes.neighborID.trans master.neighborID, ?_,
      fun start => absurd start ended.2, fun exchange => absurd exchange ended.1, fun _ => summary⟩,
    takes.inited.trans inited⟩
  · rw [takes.number]
    exact Nat.le_succ _
  · rw [takes.number]
    exact numbering.update (.inr rfl)
  · rw [takes.relationship, takes.number, Sends, sent, last]
    exact master.sends_next

lemma answer_part {rel : DatabaseExchangeRelationshipType} {number : ℕ}
    (answers : Answers lo base rel number ddPacket) (init : ddPacket.ddOptions.I_Init = false)
    (number : ddPacket.ddSequenceNumber = neighbor.ddSequenceNumber) :
    rel = .SLAVE ∧ ddPacket = lo.dataPacket .SLAVE neighbor.ddSequenceNumber
      (restAfter lo.deal (neighbor.ddSequenceNumber - base neighbor.ddSequenceNumber)
        lo.databaseSummary) := by
  rcases answers with ⟨q, eq⟩ | ⟨q, -, slave, eq⟩
  · rw [eq] at init
    cases init
  · have same : q = neighbor.ddSequenceNumber := by
      rw [← number, eq]
      rfl
    exact ⟨slave, same ▸ eq⟩

lemma of_packet (lt : lo.router.routerID < hi.router.routerID)
    (master : MasterSide hi lo base neighbor) (numbering : Numbering base neighbor.ddSequenceNumber)
    (inited : neighbor.firstAdjacencyInited = true) {rel : DatabaseExchangeRelationshipType}
    (answers : Answers lo base rel neighbor.ddSequenceNumber ddPacket) (env : Surroundings) :
    Continues hi lo base neighbor.ddSequenceNumber (neighbor.processPacket hi env ddPacket) := by
  have outcome := processPacket_cases hi env neighbor ddPacket
  generalize neighbor.processPacket hi env ddPacket = after at outcome ⊢
  rcases outcome with moves | ⟨start, negotiation⟩ | ⟨exchange, mismatches, next, accepts⟩
  · exact master.of_moves numbering inited moves
  · have own := master.start start
    have empty := master.summary (by rw [start]; decide)
    cases negotiation with
    | ignored => exact master.continues inited numbering rfl
    | repeated =>
      have repeated : MasterSide hi lo base (neighbor.sendDatabaseDescriptionPacket hi true) :=
        ⟨master.neighborID, .of_sent master.sends.1 rfl rfl ⟨_, le_rfl, .inl ⟨own, rfl⟩⟩,
          fun _ => own, fun exchange => absurd (start.symm.trans exchange) (by decide),
          fun _ => empty⟩
      exact repeated.continues inited numbering rfl
    | refused agrees quiet state =>
      have agreed : MasterSide hi lo base
          { neighbor with databaseExchangeRelationship := .MASTER } := by
        refine ⟨master.neighborID, ?_, fun _ => own,
          fun exchange => absurd (start.symm.trans exchange) (by decide), fun _ => empty⟩
        have sends : Sends (Offers hi base .MASTER neighbor.ddSequenceNumber) neighbor := by
          refine master.sends.mono fun ddPacket offers => ?_
          obtain ⟨q, qLe, cases'⟩ := offers
          exact ⟨q, qLe, cases'.imp_right fun data => ⟨rfl, data.2⟩⟩
        exact sends
      exact (agreed.of_quiet quiet).continues (quiet.inited.trans inited) numbering quiet.number
    | entered agrees takes replies state off =>
      cases agrees with
      | slave init none lower =>
        rw [master.neighborID] at lower
        exact absurd lower (BitVec.lt_asymm lt)
      | master init slave number higher =>
        obtain ⟨-, eq⟩ := answer_part answers init number
        rw [own, Nat.sub_self] at eq
        rw [empty, nil_append] at replies
        exact master.reply numbering inited
          (show 0 = neighbor.ddSequenceNumber - base neighbor.ddSequenceNumber by omega) .start
          (by rw [eq]; rfl) takes replies state
  · obtain ⟨relation, above, summary, taken⟩ := master.exchange exchange
    obtain ⟨init, ⟨-, slave, number⟩ | ⟨slave, -⟩⟩ := in_order mismatches next
    · obtain ⟨-, eq⟩ := answer_part answers init number
      have counted : neighbor.countOn ddPacket = neighbor.ddSequenceNumber + 1 := if_pos relation
      cases accepts with
      | answered takes replies state timer =>
        rw [relation, counted] at takes replies
        rw [summary] at replies
        exact master.reply numbering inited rfl taken (by rw [eq]; rfl) takes replies state
      | finished takes more state empty sent =>
        rw [relation, counted] at takes
        rcases sent with ⟨-, sent, last⟩ | ⟨slave, -⟩
        · exact master.finish numbering inited takes sent last state empty
        · rw [relation] at slave
          cases slave
    · rw [relation] at slave
      cases slave

end Answered

end MasterSide

/-! ## The slave -/

namespace SlaveSide

variable {hi lo : Endpoint B} {base : ℕ → ℕ} {number : ℕ} {neighbor after : Neighbor}

lemma of_quiet (slave : SlaveSide hi lo base number neighbor) (quiet : Quiet neighbor after) :
    SlaveSide hi lo base number after := by
  have sends := slave.sends.of_quiet quiet
  refine ⟨quiet.neighborID.trans slave.neighborID, ?_, fun exchange => ?_, fun ended => ?_⟩
  · rwa [quiet.relationship]
  · obtain ⟨before, summary, requests, processed, -⟩ := quiet.kept exchange
    rw [quiet.relationship, quiet.number, summary]
    obtain ⟨rel, le, dealt, taken⟩ := slave.exchange before
    exact ⟨rel, le, dealt, taken.mono fun _ noted => noted.congr requests processed⟩
  · rcases quiet.ended ended with empty | ⟨before, same⟩
    · exact empty
    · rw [same]
      exact slave.summary before

lemma of_moves (slave : SlaveSide hi lo base number neighbor) (moves : Moves lo neighbor after) :
    SlaveSide hi lo base number after := by
  cases moves with
  | quiet quiet => exact slave.of_quiet quiet
  | @resent after ddPacket last quiet =>
    have resent : SlaveSide hi lo base number
        { neighbor with sent := neighbor.sent ++ [ddPacket] } :=
      { slave with sends := slave.sends.of_resent last }
    exact resent.of_quiet quiet
  | @negotiated before negotiates =>
    refine ⟨negotiates.neighborID.trans slave.neighborID, ?_, nofun, fun _ => ?_⟩
    · refine .of_sent (fun ddPacket mem => ?_) rfl rfl (.inl ⟨_, rfl⟩)
      rw [negotiates.sent] at mem
      exact negotiates.relationship ▸ slave.sends.1 ddPacket mem
    · rcases negotiates.summary with empty | ⟨before', same⟩
      · exact empty
      · exact same.trans (slave.summary before')

section Answering

variable {ddPacket : OSPFDatabaseDescriptionPacket} {part q : ℕ}

lemma sends_next (slave : SlaveSide hi lo base number neighbor) :
    Sends (Answers lo base .SLAVE number) neighbor := by
  refine slave.sends.mono fun ddPacket answers => ?_
  rcases answers with init | ⟨q, le, -, eq⟩
  · exact .inl init
  · exact .inr ⟨q, le, rfl, eq⟩

/-- The slave takes a part in and answers it with one of its own. -/
lemma reply (slave : SlaveSide hi lo base number neighbor) (le : q ≤ number)
    (takes : Takes lo ddPacket.lsaHeaders .SLAVE q neighbor after)
    (replies : Replies lo .SLAVE q (restAfter lo.deal (q - base q) lo.databaseSummary) neighbor
      after)
    (taken : Taken (Noted lo after) hi.databaseSummary
      (restAfter hi.deal (q - base q) hi.databaseSummary))
    (ended : after.state ≠ .EXCHANGE_STATE → after.databaseSummaryList = []) :
    SlaveSide hi lo base number after := by
  refine ⟨takes.neighborID.trans slave.neighborID, ?_, fun _ => ?_, ended⟩
  · rw [takes.relationship]
    exact .of_sent slave.sends_next.1 replies.sent replies.last (.inr ⟨q, le, rfl, rfl⟩)
  · rw [takes.number, replies.rest, restAfter_succ]
    exact ⟨takes.relationship, le, rfl, taken⟩

lemma offer_part {rel : DatabaseExchangeRelationshipType}
    (numbering : Numbering base number) (offers : Offers hi base rel number ddPacket)
    (init : ddPacket.ddOptions.I_Init = false) (next : ddPacket.ddSequenceNumber = q + 1) :
    rel = .MASTER ∧ q + 1 ≤ number ∧ base (q + 1) = base q ∧ base q ≤ q ∧
      ddPacket = hi.dataPacket .MASTER (q + 1)
        (restAfter hi.deal (q - base q) hi.databaseSummary) := by
  obtain ⟨q', le, ⟨-, eq⟩ | ⟨master, lt, eq⟩⟩ := offers
  · rw [eq] at init
    cases init
  · have same : q' = q + 1 := by
      rw [← next, eq]
      rfl
    subst same
    have kept : base (q + 1) = base q := by
      rcases numbering.next q le with own | kept
      · omega
      · exact kept
    have part : q + 1 - base (q + 1) - 1 = q - base q := by omega
    rw [part] at eq
    exact ⟨master, le, kept, numbering.le q (by omega), eq⟩

lemma of_packet (lt : lo.router.routerID < hi.router.routerID)
    (slave : SlaveSide hi lo base number neighbor) (numbering : Numbering base number)
    {rel : DatabaseExchangeRelationshipType}
    (offers : Offers hi base rel number ddPacket) (env : Surroundings) :
    SlaveSide hi lo base number (neighbor.processPacket lo env ddPacket) := by
  have outcome := processPacket_cases lo env neighbor ddPacket
  generalize neighbor.processPacket lo env ddPacket = after at outcome ⊢
  rcases outcome with moves | ⟨start, negotiation⟩ | ⟨exchange, mismatches, next, accepts⟩
  · exact slave.of_moves moves
  · have unlike : neighbor.state ≠ .EXCHANGE_STATE := by
      rw [start]
      decide
    have empty := slave.summary unlike
    cases negotiation with
    | ignored => exact slave
    | repeated =>
      exact ⟨slave.neighborID, .of_sent slave.sends.1 rfl rfl (.inl ⟨_, rfl⟩),
        fun exchange => absurd exchange unlike, fun _ => empty⟩
    | refused agrees quiet state =>
      cases agrees with
      | master init slave' number higher =>
        rw [slave.neighborID] at higher
        exact absurd higher (BitVec.lt_asymm lt)
    | entered agrees takes replies state off =>
      cases agrees with
      | master init slave' number higher =>
        rw [slave.neighborID] at higher
        exact absurd higher (BitVec.lt_asymm lt)
      | slave init none lower =>
        obtain ⟨q, le, ⟨own, eq⟩ | ⟨-, -, eq⟩⟩ := offers
        · subst eq
          rw [empty, nil_append] at replies
          refine slave.reply le takes ?_ ?_ fun ended => absurd state ended
          · rw [own, Nat.sub_self]
            exact replies
          · rw [own, Nat.sub_self]
            exact .start
        · rw [eq] at init
          cases init
  · obtain ⟨relation, le, summary, taken⟩ := slave.exchange exchange
    obtain ⟨init, ⟨master, -⟩ | ⟨-, master, number'⟩⟩ := in_order mismatches next
    · rw [relation] at master
      cases master
    · obtain ⟨-, le', kept, baseLe, eq⟩ := offer_part numbering offers init number'
      have counted : neighbor.countOn ddPacket = neighbor.ddSequenceNumber + 1 := by
        rw [countOn, relation, number']
        exact if_neg (by decide)
      have part : neighbor.ddSequenceNumber + 1 - base (neighbor.ddSequenceNumber + 1) =
          neighbor.ddSequenceNumber - base neighbor.ddSequenceNumber + 1 := by omega
      have replied (takes : Takes lo ddPacket.lsaHeaders neighbor.databaseExchangeRelationship
            (neighbor.countOn ddPacket) neighbor after)
          (replies : Replies lo neighbor.databaseExchangeRelationship (neighbor.countOn ddPacket)
            neighbor.databaseSummaryList neighbor after)
          (ended : after.state ≠ .EXCHANGE_STATE → after.databaseSummaryList = []) :
          SlaveSide hi lo base number after := by
        rw [relation, counted] at takes replies
        rw [summary] at replies
        refine slave.reply le' takes (part ▸ replies) ?_ ended
        rw [part]
        exact takes.taken taken (by rw [eq]; rfl)
      cases accepts with
      | answered takes replies state timer =>
        exact replied takes replies fun ended => absurd state ended
      | finished takes more state empty sent =>
        rcases sent with ⟨master, -⟩ | ⟨-, replies⟩
        · rw [relation] at master
          cases master
        · exact replied takes replies fun _ => empty

end Answering

end SlaveSide

/-! ## The link -/

namespace Consistent

variable {hi lo : Endpoint B} {base : ℕ → ℕ} {s s' : Link} {higher : Neighbor}
variable {sent : List OSPFDatabaseDescriptionPacket}

lemma start (master : Waiting hi lo.router.routerID s.higher)
    (slave : Waiting lo hi.router.routerID s.lower) : Consistent hi lo id s := by
  have before {n : Neighbor} {id : RouterID} {i : Endpoint B} (waiting : Waiting i id n) :
      n.state ≠ .EXCHANGE_STATE := by
    intro exchange
    have state := waiting.state
    rw [exchange] at state
    exact absurd state (by decide)
  refine ⟨⟨fun _ _ => le_rfl, fun _ _ => .inl rfl⟩, ?_, ?_, fun fresh => ?_⟩
  · refine ⟨master.neighborID, ⟨fun ddPacket mem => ?_, fun ddPacket last => ?_⟩, fun _ => rfl,
      fun exchange => absurd exchange (before master), fun _ => master.databaseSummaryList⟩
    · obtain ⟨q, le, eq⟩ := master.sent ddPacket mem
      exact ⟨q, le, .inl ⟨rfl, eq⟩⟩
    · obtain ⟨q, le, eq⟩ := master.last ddPacket last
      exact ⟨q, le, .inl ⟨rfl, eq⟩⟩
  · refine ⟨slave.neighborID, ⟨fun ddPacket mem => ?_, fun ddPacket last => ?_⟩,
      fun exchange => absurd exchange (before slave), fun _ => slave.databaseSummaryList⟩
    · obtain ⟨q, -, eq⟩ := slave.sent ddPacket mem
      exact .inl ⟨q, eq⟩
    · obtain ⟨q, -, eq⟩ := slave.last ddPacket last
      exact .inl ⟨q, eq⟩
  · obtain ⟨sent, last, state⟩ := master.fresh fresh
    have low := master.state
    refine ⟨sent, last, ⟨?_, before master⟩, ⟨fun ddPacket mem => ?_, fun ddPacket last => ?_⟩,
      before slave⟩
    · rintro (h | h | h)
      · exact state h
      · rw [h] at low
        exact absurd low (by decide)
      · rw [h] at low
        exact absurd low (by decide)
    · obtain ⟨q, -, eq⟩ := slave.sent ddPacket mem
      rw [eq]
      rfl
    · obtain ⟨q, -, eq⟩ := slave.last ddPacket last
      rw [eq]
      rfl

variable (consistent : Consistent hi lo base s)
include consistent

lemma of_continues (continues : MasterSide.Continues hi lo base s.higher.ddSequenceNumber higher)
    (subset : ∀ ddPacket ∈ sent, ddPacket ∈ s.lower.sent) :
    ∃ base', Consistent hi lo base' ⟨higher, { s.lower with sent := sent }⟩ := by
  obtain ⟨base', extend, le, numbering, master, inited⟩ := continues
  have slave := consistent.slave.mono extend le
  refine ⟨base', numbering, master, { slave with sends := slave.sends.of_link subset },
    fun fresh => ?_⟩
  rw [inited] at fresh
  cases fresh

lemma of_higherLink (subset : ∀ ddPacket ∈ sent, ddPacket ∈ s.higher.sent) :
    Consistent hi lo base { s with higher := { s.higher with sent := sent } } := by
  refine ⟨consistent.numbering,
    { consistent.master with sends := consistent.master.sends.of_link subset }, consistent.slave,
    fun inited => ?_⟩
  have fresh := consistent.fresh inited
  refine { fresh with sent := eq_nil_iff_forall_not_mem.mpr fun ddPacket mem => ?_ }
  have before := subset ddPacket mem
  rw [fresh.sent] at before
  cases before

lemma of_lowerLink (subset : ∀ ddPacket ∈ sent, ddPacket ∈ s.lower.sent) :
    Consistent hi lo base { s with lower := { s.lower with sent := sent } } :=
  ⟨consistent.numbering, consistent.master,
    { consistent.slave with sends := consistent.slave.sends.of_link subset }, fun inited =>
      { consistent.fresh inited with offers := (consistent.fresh inited).offers.of_link subset }⟩

lemma of_higherMoves_fresh (inited : s.higher.firstAdjacencyInited = false)
    (moves : Moves hi s.higher higher) :
    ∃ base', Consistent hi lo base' { s with higher := higher } := by
  have fresh := consistent.fresh inited
  cases moves with
  | quiet quiet =>
    refine ⟨base, quiet.number ▸ consistent.numbering, consistent.master.of_quiet quiet,
      quiet.number ▸ consistent.slave, fun _ => ⟨quiet.sent.trans fresh.sent, ?_, ⟨?_, ?_⟩,
        fresh.offers, fresh.waits⟩⟩
    · rcases quiet.last with same | none
      · rw [same]
        exact fresh.last
      · exact none
    · intro may
      rcases quiet.begun may with same | ⟨loading, -⟩
      · rw [same] at may
        exact fresh.state.1 may
      · exact fresh.state.1 (.inr (.inl loading))
    · exact fun exchange => fresh.state.2 (quiet.kept exchange).1
  | resent last quiet =>
    rw [fresh.last] at last
    cases last
  | @negotiated before negotiates =>
    rcases negotiates.number with ⟨started, -⟩ | ⟨begun, -⟩
    · refine ⟨id, ⟨fun _ _ => le_rfl, fun _ _ => .inl rfl⟩,
        consistent.master.of_first fresh.sent negotiates fresh.state.2,
        ⟨consistent.slave.neighborID,
          consistent.slave.sends.both fresh.offers fun ddPacket answers init => ?_,
          fun exchange => absurd exchange fresh.waits, consistent.slave.summary⟩,
        fun none => absurd (started.symm.trans none) (by decide)⟩
      rcases answers with offer | ⟨q, -, -, eq⟩
      · exact .inl offer
      · rw [eq] at init
        cases init
    · rcases begun with done | may | exchange
      · rw [inited] at done
        cases done
      · exact absurd may fresh.state.1
      · exact absurd exchange fresh.state.2

lemma of_higherMoves (moves : Moves hi s.higher higher) :
    ∃ base', Consistent hi lo base' { s with higher := higher } := by
  cases inited : s.higher.firstAdjacencyInited with
  | false => exact consistent.of_higherMoves_fresh inited moves
  | true =>
    exact consistent.of_continues (consistent.master.of_moves consistent.numbering inited moves)
      fun _ mem => mem

lemma of_lowerMoves {lower : Neighbor}
    (moves : Moves lo s.lower lower) : Consistent hi lo base { s with lower := lower } := by
  refine ⟨consistent.numbering, consistent.master, consistent.slave.of_moves moves, fun inited => ?_⟩
  obtain ⟨sent, last, state, offers, waits⟩ := consistent.fresh inited
  refine ⟨sent, last, state, ?_, ?_⟩
  · cases moves with
    | quiet quiet => exact offers.of_quiet quiet
    | resent last quiet => exact (offers.of_resent last).of_quiet quiet
    | negotiated negotiates =>
      exact .of_sent (fun ddPacket mem => offers.1 ddPacket (negotiates.sent ▸ mem)) rfl rfl rfl
  · cases moves with
    | quiet quiet => exact fun exchange => waits (quiet.kept exchange).1
    | resent last quiet => exact fun exchange => waits (quiet.kept exchange).1
    | negotiated negotiates => nofun

omit consistent

variable {ddPacket : OSPFDatabaseDescriptionPacket}

variable (lt : lo.router.routerID < hi.router.routerID)
include lt

lemma of_higherReceives (consistent : Consistent hi lo base s) (env : Surroundings)
    (first : s.lower.sent = ddPacket :: sent) :
    ∃ base', Consistent hi lo base'
      ⟨s.higher.processPacket hi env ddPacket, { s.lower with sent := sent }⟩ := by
  have subset : ∀ other ∈ sent, other ∈ s.lower.sent := fun other mem => by
    rw [first]
    exact mem_cons_of_mem _ mem
  cases inited : s.higher.firstAdjacencyInited with
  | true =>
    have answers := consistent.slave.sends.1 ddPacket (by rw [first]; exact mem_cons_self)
    exact consistent.of_continues
      (consistent.master.of_packet lt consistent.numbering inited answers env) subset
  | false =>
    have fresh := consistent.fresh inited
    rcases processPacket_cases hi env s.higher ddPacket with moves | ⟨start, -⟩ | ⟨exchange, -⟩
    · exact (consistent.of_lowerLink subset).of_higherMoves moves
    · exact absurd (.inl start) fresh.state.1
    · exact absurd exchange fresh.state.2

lemma of_lowerReceives (consistent : Consistent hi lo base s) (env : Surroundings)
    (first : s.higher.sent = ddPacket :: sent) :
    Consistent hi lo base
      ⟨{ s.higher with sent := sent }, s.lower.processPacket lo env ddPacket⟩ := by
  have linked : Consistent hi lo base { s with higher := { s.higher with sent := sent } } :=
    consistent.of_higherLink fun other mem => by
      rw [first]
      exact mem_cons_of_mem _ mem
  have offers := consistent.master.sends.1 ddPacket (by rw [first]; exact mem_cons_self)
  refine ⟨linked.numbering, linked.master,
    consistent.slave.of_packet lt consistent.numbering offers env, fun inited => ?_⟩
  have none := (consistent.fresh inited).sent
  rw [first] at none
  cases none

omit lt in
lemma mem_disturbed {other : OSPFDatabaseDescriptionPacket}
    {before after : List OSPFDatabaseDescriptionPacket}
    (mem : other ∈ before ++ ddPacket :: ddPacket :: after) :
    other ∈ before ++ ddPacket :: after := by
  simp only [mem_append, mem_cons] at mem ⊢
  tauto

lemma step (consistent : Consistent hi lo base s)
    (step : Step hi lo s s') : ∃ base', Consistent hi lo base' s' := by
  cases step with
  | higherEvent env outside =>
    exact consistent.of_higherMoves (processEvent_moves outside.1 outside.2.1)
  | lowerEvent env outside =>
    exact ⟨base, consistent.of_lowerMoves (processEvent_moves outside.1 outside.2.1)⟩
  | proceeds proceeds =>
    cases proceeds with
    | higherReceives env first => exact consistent.of_higherReceives lt env first
    | lowerReceives env first => exact ⟨base, consistent.of_lowerReceives lt env first⟩
    | higherDDTimer env => exact consistent.of_higherMoves expireDDRetransmissionTimer_moves
    | lowerDDTimer env => exact ⟨base, consistent.of_lowerMoves expireDDRetransmissionTimer_moves⟩
    | higherRequestTimer env active =>
      exact consistent.of_higherMoves (processEvent_moves (by decide) (by decide))
    | lowerRequestTimer env active =>
      exact ⟨base, consistent.of_lowerMoves (processEvent_moves (by decide) (by decide))⟩
    | loses loses =>
      cases loses with
      | higher sent =>
        refine ⟨base, consistent.of_higherLink fun other mem => ?_⟩
        rw [sent]
        exact mem_append.mpr ((mem_append.mp mem).imp_right (.tail _))
      | lower sent =>
        refine ⟨base, consistent.of_lowerLink fun other mem => ?_⟩
        rw [sent]
        exact mem_append.mpr ((mem_append.mp mem).imp_right (.tail _))
    | duplicates duplicates =>
      cases duplicates with
      | higher sent =>
        exact ⟨base, consistent.of_higherLink fun other mem => sent ▸ mem_disturbed mem⟩
      | lower sent =>
        exact ⟨base, consistent.of_lowerLink fun other mem => sent ▸ mem_disturbed mem⟩

lemma of_reached (reached : Reached hi lo s) : ∃ base, Consistent hi lo base s := by
  induction reached with
  | start master slave => exact ⟨id, start master slave⟩
  | step _ step ih =>
    obtain ⟨base, consistent⟩ := ih
    exact consistent.step lt step

end Consistent

/-! ## The end of the exchange -/

section Ending

variable {i hi lo : Endpoint B} {neighbor after : Neighbor} {s s' : Link}

lemma Neighbor.Moves.not_ended (exchange : neighbor.state = .EXCHANGE_STATE)
    (moves : Moves i neighbor after) :
    ¬ (after.state = .LOADING_STATE ∨ after.state = .FULL_STATE) := by
  have stays {n : Neighbor} (h : n.state = .EXCHANGE_STATE) (quiet : Quiet n after) :
      ¬ (after.state = .LOADING_STATE ∨ after.state = .FULL_STATE) := by
    intro ended
    rcases quiet.begun (.inr ended) with same | ⟨loading, -⟩
    · exact not_mayRetransmit (same.trans h) (.inr ended)
    · exact absurd (h.symm.trans loading) (by decide)
  cases moves with
  | quiet quiet => exact stays exchange quiet
  | @resent after ddPacket last quiet =>
    have exchange' : ({ neighbor with sent := neighbor.sent ++ [ddPacket] } : Neighbor).state =
        .EXCHANGE_STATE := exchange
    exact stays exchange' quiet
  | negotiated negotiates => rintro (h | h) <;> cases h

/-- All of the other router's summary list has been taken in, and what is lacking is requested. -/
def HasAll (intf other : Endpoint B) (neighbor : Neighbor) : Prop :=
  ∀ header ∈ other.databaseSummary, header ∈ neighbor.processed ∧
    (intf.lacks header = true → header ∈ neighbor.linkStateRequestList)

lemma hasAll_of_last {other : Endpoint B} {rel : DatabaseExchangeRelationshipType}
    {q part : ℕ} (taken : Taken (Noted i neighbor) other.databaseSummary
      (restAfter other.deal (part + 1) other.databaseSummary))
    (last : (other.dataPacket rel q
      (restAfter other.deal part other.databaseSummary)).ddOptions.M_More = false) :
    HasAll i other neighbor := by
  have empty : restAfter other.deal (part + 1) other.databaseSummary = [] := by
    rw [restAfter_succ]
    simpa [Endpoint.dataPacket] using last
  rw [empty] at taken
  exact taken.done

variable {ddPacket : OSPFDatabaseDescriptionPacket}

lemma ended_by_packet {env : Surroundings} (exchange : neighbor.state = .EXCHANGE_STATE)
    (ended : (neighbor.processPacket i env ddPacket).state = .LOADING_STATE ∨
      (neighbor.processPacket i env ddPacket).state = .FULL_STATE) :
    neighbor.mismatches ddPacket = false ∧ neighbor.isNext ddPacket = true ∧
      ddPacket.ddOptions.M_More = false ∧
      Takes i ddPacket.lsaHeaders neighbor.databaseExchangeRelationship
        (neighbor.countOn ddPacket) neighbor (neighbor.processPacket i env ddPacket) := by
  have outcome := processPacket_cases i env neighbor ddPacket
  rcases outcome with moves | ⟨start, -⟩ | ⟨-, mismatches, next, accepts⟩
  · exact absurd ended (moves.not_ended exchange)
  · exact absurd (exchange.symm.trans start) (by decide)
  · cases accepts with
    | answered takes replies state timer =>
      exact absurd (.inr ended) (not_mayRetransmit state)
    | finished takes more state summary sent => exact ⟨mismatches, next, more, takes⟩

lemma master_hasAll {base : ℕ → ℕ} (consistent : Consistent hi lo base s) {env : Surroundings}
    (mem : ddPacket ∈ s.lower.sent) (exchange : s.higher.state = .EXCHANGE_STATE)
    (ended : (s.higher.processPacket hi env ddPacket).state = .LOADING_STATE ∨
      (s.higher.processPacket hi env ddPacket).state = .FULL_STATE) :
    HasAll hi lo (s.higher.processPacket hi env ddPacket) ∧
      (s.higher.processPacket hi env ddPacket).databaseExchangeRelationship = .MASTER ∧
      s.lower.databaseExchangeRelationship = .SLAVE := by
  obtain ⟨mismatches, next, more, takes⟩ := ended_by_packet exchange ended
  obtain ⟨relation, -, -, taken⟩ := consistent.master.exchange exchange
  obtain ⟨init, ⟨-, -, number⟩ | ⟨slave, -⟩⟩ := in_order mismatches next
  · obtain ⟨slave, eq⟩ := MasterSide.answer_part (consistent.slave.sends.1 ddPacket mem) init number
    rw [eq] at more
    exact ⟨hasAll_of_last (takes.taken taken (by rw [eq]; rfl)) more,
      takes.relationship.trans relation, slave⟩
  · rw [relation] at slave
    cases slave

lemma slave_hasAll {base : ℕ → ℕ} (consistent : Consistent hi lo base s) {env : Surroundings}
    (mem : ddPacket ∈ s.higher.sent) (exchange : s.lower.state = .EXCHANGE_STATE)
    (ended : (s.lower.processPacket lo env ddPacket).state = .LOADING_STATE ∨
      (s.lower.processPacket lo env ddPacket).state = .FULL_STATE) :
    HasAll lo hi (s.lower.processPacket lo env ddPacket) ∧
      (s.lower.processPacket lo env ddPacket).databaseExchangeRelationship = .SLAVE ∧
      s.higher.databaseExchangeRelationship = .MASTER := by
  obtain ⟨mismatches, next, more, takes⟩ := ended_by_packet exchange ended
  obtain ⟨relation, -, -, taken⟩ := consistent.slave.exchange exchange
  obtain ⟨init, ⟨master, -⟩ | ⟨-, -, number⟩⟩ := in_order mismatches next
  · rw [relation] at master
    cases master
  · obtain ⟨master, -, -, -, eq⟩ := SlaveSide.offer_part consistent.numbering
      (consistent.master.sends.1 ddPacket mem) init number
    rw [eq] at more
    exact ⟨hasAll_of_last (takes.taken taken (by rw [eq]; rfl)) more,
      takes.relationship.trans relation, master⟩

end Ending

/-- Whoever leaves `Exchange` at its end has taken in all that the other router has listed, requests
what it lacks, and has the opposite role. -/
theorem exchange_complete {hi lo : Endpoint B} (lt : lo.router.routerID < hi.router.routerID)
    {s s' : Link} (reached : Reached hi lo s) (step : Step hi lo s s') :
    (s.higher.state = .EXCHANGE_STATE →
      s'.higher.state = .LOADING_STATE ∨ s'.higher.state = .FULL_STATE →
        HasAll hi lo s'.higher ∧ s'.higher.databaseExchangeRelationship = .MASTER ∧
          s'.lower.databaseExchangeRelationship = .SLAVE) ∧
    (s.lower.state = .EXCHANGE_STATE →
      s'.lower.state = .LOADING_STATE ∨ s'.lower.state = .FULL_STATE →
        HasAll lo hi s'.lower ∧ s'.lower.databaseExchangeRelationship = .SLAVE ∧
          s'.higher.databaseExchangeRelationship = .MASTER) := by
  obtain ⟨base, consistent⟩ := Consistent.of_reached lt reached
  have still {n : Neighbor} (h : n.state = .EXCHANGE_STATE) :
      ¬ (n.state = .LOADING_STATE ∨ n.state = .FULL_STATE) := fun ended =>
    not_mayRetransmit h (.inr ended)
  have moved {i : Endpoint B} {n after : Neighbor} (moves : Moves i n after)
      (h : n.state = .EXCHANGE_STATE) :
      ¬ (after.state = .LOADING_STATE ∨ after.state = .FULL_STATE) := moves.not_ended h
  cases step with
  | higherEvent env outside =>
    exact ⟨fun h ended => absurd ended (moved (processEvent_moves outside.1 outside.2.1) h),
      fun h ended => absurd ended (still h)⟩
  | lowerEvent env outside =>
    exact ⟨fun h ended => absurd ended (still h),
      fun h ended => absurd ended (moved (processEvent_moves outside.1 outside.2.1) h)⟩
  | proceeds proceeds =>
    cases proceeds with
    | @higherReceives env ddPacket rest first =>
      have mem : ddPacket ∈ s.lower.sent := by
        rw [first]
        exact mem_cons_self
      exact ⟨master_hasAll consistent mem, fun h ended => absurd ended (still h)⟩
    | @lowerReceives env ddPacket rest first =>
      have mem : ddPacket ∈ s.higher.sent := by
        rw [first]
        exact mem_cons_self
      exact ⟨fun h ended => absurd ended (still h), slave_hasAll consistent mem⟩
    | higherDDTimer env =>
      exact ⟨fun h ended => absurd ended (moved expireDDRetransmissionTimer_moves h),
        fun h ended => absurd ended (still h)⟩
    | lowerDDTimer env =>
      exact ⟨fun h ended => absurd ended (still h),
        fun h ended => absurd ended (moved expireDDRetransmissionTimer_moves h)⟩
    | higherRequestTimer env active =>
      exact ⟨fun h ended => absurd ended (moved (processEvent_moves (by decide) (by decide)) h),
        fun h ended => absurd ended (still h)⟩
    | lowerRequestTimer env active =>
      exact ⟨fun h ended => absurd ended (still h),
        fun h ended => absurd ended (moved (processEvent_moves (by decide) (by decide)) h)⟩
    | loses loses =>
      cases loses with
      | higher sent | lower sent =>
        exact ⟨fun h ended => absurd ended (still h), fun h ended => absurd ended (still h)⟩
    | duplicates duplicates =>
      cases duplicates with
      | higher sent | lower sent =>
        exact ⟨fun h ended => absurd ended (still h), fun h ended => absurd ended (still h)⟩

/-! The higher router has no LSA, and the lower one has its own Router-LSA. -/

/-- The exchange goes on in lockstep: the router with the higher ID is the master and the other one
the slave, which is at most as far; of what is listed each has taken in what has been answered. -/
theorem exchange_lockstep {hi lo : Endpoint B} {s : Link}
    (lt : lo.router.routerID < hi.router.routerID) (reached : Reached hi lo s) :
    (s.higher.state = .EXCHANGE_STATE → s.higher.databaseExchangeRelationship = .MASTER ∧
      ∃ k, s.higher.databaseSummaryList = restAfter hi.deal k hi.databaseSummary ∧
        Taken (Noted hi s.higher) lo.databaseSummary (restAfter lo.deal k lo.databaseSummary)) ∧
    (s.lower.state = .EXCHANGE_STATE → s.lower.databaseExchangeRelationship = .SLAVE ∧
      s.lower.ddSequenceNumber ≤ s.higher.ddSequenceNumber ∧
      ∃ k, s.lower.databaseSummaryList = restAfter lo.deal (k + 1) lo.databaseSummary ∧
        Taken (Noted lo s.lower) hi.databaseSummary (restAfter hi.deal k hi.databaseSummary)) := by
  obtain ⟨base, consistent⟩ := Consistent.of_reached lt reached
  refine ⟨fun exchange => ?_, fun exchange => ?_⟩
  · obtain ⟨master, -, summary, taken⟩ := consistent.master.exchange exchange
    exact ⟨master, _, summary, taken⟩
  · obtain ⟨slave, number, summary, taken⟩ := consistent.slave.exchange exchange
    exact ⟨slave, number, _, summary, taken⟩

namespace Example

def header : LSAHeader :=
  { lsAge := 1
    lsOptions := ⟨false, false, false, false, false⟩
    linkStateID := 1
    advertisingRouter := 1
    lsType := .ROUTERLSA_TYPE
    lsSequenceNumber := 1 }

def listingRouter : Endpoint Unit :=
  { lowerRouter with
    router :=
      { lowerRouter.router with
        areas :=
          [{ areaID := 0
             externalRoutingCapability := false
             associatedInterfaces := []
             routerLSAs := [⟨⟨header, .other ()⟩, .ORIGINATED, 1⟩]
             networkLSAs := []
             summaryLSAs := [] }] } }

/-- Both have offered to negotiate, and the offer of the lower router has been lost. -/
def offered : Link :=
  ⟨negotiating higherRouter 1 5, { negotiating listingRouter 2 7 with sent := [] }⟩

/-- The lower router has answered the offer. -/
def answered : Link :=
  ⟨{ offered.higher with sent := [] },
    offered.lower.processPacket listingRouter env (higherRouter.initPacket 5)⟩

/-- The higher router has taken the answer in and sent its own summary list, which is empty. -/
def replied : Link :=
  ⟨answered.higher.processPacket higherRouter env
      (listingRouter.dataPacket .SLAVE 5 listingRouter.databaseSummary),
    { answered.lower with sent := [] }⟩

/-- The lower router is done, and the last answer is on the link. -/
def answeredLast : Link :=
  ⟨{ replied.higher with sent := [] },
    replied.lower.processPacket listingRouter env (higherRouter.dataPacket .MASTER 6 [])⟩

/-- The higher router is done too, and requests what it lacks. -/
def ended : Link :=
  ⟨answeredLast.higher.processPacket higherRouter env (listingRouter.dataPacket .SLAVE 6 []),
    { answeredLast.lower with sent := [] }⟩

lemma reached_answeredLast : Reached higherRouter listingRouter answeredLast := by
  have start : Reached higherRouter listingRouter
      ⟨negotiating higherRouter 1 5, negotiating listingRouter 2 7⟩ :=
    .start (waiting_negotiating _ _ _) (waiting_negotiating _ _ _)
  have offer : Reached higherRouter listingRouter offered :=
    start.step (.proceeds (.loses (.lower _ (show _ = [] ++ _ :: _ from rfl))))
  have answer : Reached higherRouter listingRouter answered :=
    offer.step (.proceeds (.lowerReceives _ env rfl))
  have reply : Reached higherRouter listingRouter replied :=
    answer.step (.proceeds (.higherReceives _ env rfl))
  exact reply.step (.proceeds (.lowerReceives _ env rfl))

lemma step_ended : Step higherRouter listingRouter answeredLast ended :=
  .proceeds (.higherReceives _ env rfl)

end Example

theorem exchange_complete_ended :
    Example.ended.higher.state = .LOADING_STATE ∧
      Example.header ∈ Example.ended.higher.linkStateRequestList := by
  have complete := exchange_complete (by decide) Example.reached_answeredLast Example.step_ended
  have listed : Example.header ∈ Example.listingRouter.databaseSummary := by decide
  exact ⟨rfl, ((complete.1 rfl (.inl rfl)).1 Example.header listed).2 rfl⟩

theorem exchange_lockstep_answered :
    Example.answeredLast.higher.databaseExchangeRelationship = .MASTER :=
  ((exchange_lockstep (by decide) Example.reached_answeredLast).1 rfl).1

end Inet.Ospf.Exchange
