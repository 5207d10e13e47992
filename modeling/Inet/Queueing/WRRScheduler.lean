import Inet.Base.SimError
import Mathlib.Data.List.FinRange

/-!
# Weighted round-robin

`WRRScheduler` over passive queues. A request waits only while all queues are empty, and between
two refills of the buckets a queue is served at most as often as its weight, and exactly as often
if it still has packets.
-/

namespace Inet.Queueing

open List

/-- `PassiveQueueBase` with the queue of `DropTailQueue`; that of `FIFOQueue` has no capacity. -/
structure PassiveQueue (α : Type) where
  frameCapacity : ℕ
  queue : List α
  packetRequested : ℕ

namespace PassiveQueue

variable {α : Type} (q : PassiveQueue α)

def isEmpty : Bool := q.queue.isEmpty

/-- The queue with a packet, if the packet is not dropped. -/
def enqueue (msg : α) : Option (List α) :=
  if q.frameCapacity ≠ 0 ∧ q.frameCapacity ≤ q.queue.length then none else some (q.queue ++ [msg])

def requestPacket : Option α × PassiveQueue α :=
  match q.queue with
  | [] => (none, { q with packetRequested := q.packetRequested + 1 })
  | msg :: rest => (some msg, { q with queue := rest })

end PassiveQueue

inductive Mark (n : ℕ) where
  | served (i : Fin n)
  /-- With the queues that had packets. -/
  | refill (backlog : List (Fin n))
  deriving DecidableEq

def Mark.isServed {n : ℕ} : Mark n → Bool
  | served _ => true
  | refill _ => false

structure WRRScheduler (n : ℕ) (α : Type) where
  buckets : Fin n → ℕ
  inputQueues : Fin n → PassiveQueue α
  packetsRequestedFromUs : ℕ
  packetsToBeRequestedFromInputs : ℕ
  /-- How often the listeners have been notified. -/
  notified : ℕ
  /-- Packets on their way from the queues. -/
  wire : List α
  out : List α
  /-- What has been done, the newest first. -/
  log : List (Mark n)

namespace WRRScheduler

open Function

variable {n : ℕ} {α : Type} (weights : Fin n → ℕ) (s : WRRScheduler n α)

def initialization (capacity : Fin n → ℕ) : WRRScheduler n α :=
  ⟨weights, fun i => ⟨capacity i, [], 0⟩, 0, 0, 0, [], [], []⟩

def setQueue (i : Fin n) (queue : List α) : WRRScheduler n α :=
  { s with inputQueues := update s.inputQueues i { s.inputQueues i with queue := queue } }

/-- `inputQueues[i]->requestPacket()`, paid for from the bucket. -/
def take (i : Fin n) : WRRScheduler n α :=
  { s with
    buckets := update s.buckets i (s.buckets i - 1)
    inputQueues := update s.inputQueues i (s.inputQueues i).requestPacket.2
    wire := s.wire ++ (s.inputQueues i).requestPacket.1.toList
    log := .served i :: s.log }

def refill : WRRScheduler n α :=
  { s with
    buckets := weights
    log := .refill ((List.finRange n).filter fun i => !(s.inputQueues i).isEmpty) :: s.log }

/-- The first queue with packets that has tokens. -/
def candidate : Option (Fin n) :=
  (List.finRange n).find? fun i => !(s.inputQueues i).isEmpty && decide (0 < s.buckets i)

def schedulePacket : Bool × WRRScheduler n α :=
  match s.candidate with
  | some i => (true, s.take i)
  | none =>
    if ∀ i, (s.inputQueues i).isEmpty then (false, s)
    else match (s.refill weights).candidate with
      | some i => (true, (s.refill weights).take i)
      | none => (false, s.refill weights)

/-- A request to the inputs that counts as served when it succeeds. -/
def tryRequest : WRRScheduler n α :=
  let (success, s) := s.schedulePacket weights
  if success then { s with packetsToBeRequestedFromInputs := s.packetsToBeRequestedFromInputs - 1 }
  else s

/-- The state with one request more. -/
def ask : WRRScheduler n α :=
  { s with
    packetsRequestedFromUs := s.packetsRequestedFromUs + 1
    packetsToBeRequestedFromInputs := s.packetsToBeRequestedFromInputs + 1 }

def requestPacket : WRRScheduler n α := s.ask.tryRequest weights

def packetEnqueued : WRRScheduler n α :=
  if 0 < s.packetsToBeRequestedFromInputs then s.tryRequest weights
  else if s.packetsRequestedFromUs = 0 then { s with notified := s.notified + 1 }
  else s

/-- `PassiveQueueBase::handleMessage` of an input queue. -/
def arrive (i : Fin n) (msg : α) : WRRScheduler n α :=
  let q := s.inputQueues i
  if 0 < q.packetRequested then
    { s with
      inputQueues := update s.inputQueues i { q with packetRequested := q.packetRequested - 1 }
      wire := s.wire ++ [msg] }
  else match q.enqueue msg with
    | none => s
    | some queue => (s.setQueue i queue).packetEnqueued weights

/-- `handleMessage` with the packet at a position of `wire`. -/
def handleMessage (k : ℕ) : Except SimError (WRRScheduler n α) :=
  if s.packetsRequestedFromUs = 0 then .error (.assertion "packetsRequestedFromUs > 0")
  else .ok { s with
    packetsRequestedFromUs := s.packetsRequestedFromUs - 1
    wire := s.wire.eraseIdx k
    out := s.out ++ s.wire[k]?.toList }

inductive Action (n : ℕ) (α : Type) where
  | arrive (i : Fin n) (msg : α)
  | request
  /-- A packet that is on its way comes. -/
  | deliver (k : ℕ)

def Action.isRequest : Action n α → Bool
  | request => true
  | _ => false

def step : Action n α → Except SimError (WRRScheduler n α)
  | .arrive i msg => .ok (s.arrive weights i msg)
  | .request => .ok (s.requestPacket weights)
  | .deliver k => if k < s.wire.length then s.handleMessage k else .ok s

def run (actions : List (Action n α)) : Except SimError (WRRScheduler n α) :=
  actions.foldlM (step weights) s

/-- How often a queue has been served since the buckets were last filled. -/
def round (log : List (Mark n)) (i : Fin n) : ℕ := (log.takeWhile Mark.isServed).count (.served i)

/-- Every round gives each queue at most its weight, and its weight if it still has packets. -/
structure ByWeight (log : List (Mark n)) : Prop where
  current : ∀ i, round log i ≤ weights i
  finished : ∀ backlog rest, .refill backlog :: rest <:+ log → ∀ i, round rest i ≤ weights i ∧
    (i ∈ backlog → round rest i = weights i)

/-- The tokens of a round and the packets served in it are the weight. -/
structure Paid : Prop where
  tokens : ∀ i, round s.log i + s.buckets i = weights i
  byWeight : ByWeight weights s.log

variable {weights} {s} {i : Fin n}

lemma Paid.take (paid : Paid weights s) (token : 0 < s.buckets i) : Paid weights (s.take i) := by
  have tokens : ∀ j, round (.served i :: s.log) j + update s.buckets i (s.buckets i - 1) j =
      weights j := by
    intro j
    have before := paid.tokens j
    rw [round, takeWhile_cons_of_pos rfl, count_cons]
    by_cases same : j = i
    · subst same
      rw [update_self, if_pos (beq_self_eq_true _)]
      rw [round] at before
      omega
    · have other : ¬(Mark.served i == Mark.served j) = true := by
        simpa using fun eq => same eq.symm
      rw [update_of_ne same, if_neg other]
      exact before
  refine ⟨tokens, fun j => Nat.le.intro (tokens j), fun backlog rest suffix => ?_⟩
  obtain eq | suffix := suffix_cons_iff.mp suffix
  · cases eq
  · exact paid.byWeight.finished backlog rest suffix

lemma Paid.refill (paid : Paid weights s)
    (spent : ∀ i, (s.inputQueues i).queue ≠ [] → s.buckets i = 0) :
    Paid weights (s.refill weights) := by
  refine ⟨fun i => Nat.zero_add _, fun i => Nat.zero_le _, fun backlog rest suffix i => ?_⟩
  obtain eq | suffix := suffix_cons_iff.mp suffix
  · cases eq
    have tokens := paid.tokens i
    refine ⟨Nat.le.intro tokens, fun waiting => ?_⟩
    have empty := spent i (by simpa [PassiveQueue.isEmpty] using waiting)
    omega
  · exact paid.byWeight.finished backlog rest suffix i

/-! ## Requests -/

lemma isEmpty_iff {q : PassiveQueue α} : q.isEmpty = true ↔ q.queue = [] := List.isEmpty_iff

lemma candidate_some (found : s.candidate = some i) :
    (s.inputQueues i).queue ≠ [] ∧ 0 < s.buckets i := by
  simpa [PassiveQueue.isEmpty] using find?_some found

lemma candidate_none (none : s.candidate = none) (waiting : (s.inputQueues i).queue ≠ []) :
    s.buckets i = 0 := by
  simpa [PassiveQueue.isEmpty, waiting] using find?_eq_none.mp none i (mem_finRange i)

/-- The first packet of a queue leaves in answer to a request. -/
def Sent (s s' : WRRScheduler n α) (i : Fin n) (msg : α) : Prop :=
  ∃ rest buckets log, (s.inputQueues i).queue = msg :: rest ∧ s' = { s.setQueue i rest with
    packetsToBeRequestedFromInputs := s.packetsToBeRequestedFromInputs - 1
    wire := s.wire ++ [msg]
    buckets := buckets
    log := log }

variable {msg : α}

lemma sent_take (paid : Paid weights s) (found : s.candidate = some i) (buckets : Fin n → ℕ)
    (log : List (Mark n)) :
    ∃ msg, Sent { s with buckets := buckets, log := log } { s.take i with
      packetsToBeRequestedFromInputs := s.packetsToBeRequestedFromInputs - 1 } i msg ∧
      Paid weights { s.take i with
        packetsToBeRequestedFromInputs := s.packetsToBeRequestedFromInputs - 1 } := by
  obtain ⟨waiting, token⟩ := candidate_some found
  have taken := paid.take token
  obtain ⟨msg, rest, queue⟩ := exists_cons_of_ne_nil waiting
  refine ⟨msg, ⟨rest, (s.take i).buckets, (s.take i).log, queue, ?_⟩, taken.tokens, taken.byWeight⟩
  simp only [take, setQueue, PassiveQueue.requestPacket, queue, Option.toList_some]

lemma tryRequest_spec (positive : ∀ i, 0 < weights i) (paid : Paid weights s) :
    ((∀ i, (s.inputQueues i).queue = []) ∧ s.tryRequest weights = s) ∨
      ∃ i msg, Sent s (s.tryRequest weights) i msg ∧ Paid weights (s.tryRequest weights) := by
  rw [tryRequest, schedulePacket]
  cases first : s.candidate with
  | some i => exact .inr ⟨i, sent_take paid first s.buckets s.log⟩
  | none =>
    by_cases empty : ∀ i, (s.inputQueues i).isEmpty
    · rw [if_pos empty]
      exact .inl ⟨fun i => isEmpty_iff.mp (empty i), rfl⟩
    · rw [if_neg empty]
      have filled := paid.refill fun i => candidate_none first
      cases second : (s.refill weights).candidate with
      | some i => exact .inr ⟨i, sent_take filled second s.buckets s.log⟩
      | none =>
        obtain ⟨i, waiting⟩ := not_forall.mp empty
        have spent := candidate_none second fun empty => waiting (isEmpty_iff.mpr empty)
        exact absurd (positive i) (spent ▸ lt_irrefl _)

/-- The counts, after some requests. -/
structure Counts (weights : Fin n → ℕ) (requests : ℕ) (s : WRRScheduler n α) : Prop where
  paid : Paid weights s
  direct : ∀ i, (s.inputQueues i).packetRequested = 0
  owed : s.packetsRequestedFromUs = s.wire.length + s.packetsToBeRequestedFromInputs
  answered : requests = s.out.length + s.packetsRequestedFromUs

structure Inv (weights : Fin n → ℕ) (requests : ℕ) (s : WRRScheduler n α) : Prop extends
    Counts weights requests s where
  /-- A request waits only while there is nothing to send. -/
  idle : 0 < s.packetsToBeRequestedFromInputs → ∀ i, (s.inputQueues i).queue = []

variable {requests : ℕ}

lemma setQueue_direct (direct : ∀ i, (s.inputQueues i).packetRequested = 0) (i : Fin n)
    (queue : List α) (j : Fin n) : ((s.setQueue i queue).inputQueues j).packetRequested = 0 := by
  obtain rfl | other := eq_or_ne j i
  · simpa only [setQueue, update_self] using direct j
  · simpa only [setQueue, update_of_ne other] using direct j

lemma setQueue_self (queue : List α) : ((s.setQueue i queue).inputQueues i).queue = queue := by
  simp only [setQueue, update_self]

lemma setQueue_of_ne {j : Fin n} (other : j ≠ i) (queue : List α) :
    (s.setQueue i queue).inputQueues j = s.inputQueues j := update_of_ne other _ _

lemma Counts.tryRequest (counts : Counts weights requests s) (positive : ∀ i, 0 < weights i)
    (pending : 0 < s.packetsToBeRequestedFromInputs)
    (lone : 1 < s.packetsToBeRequestedFromInputs → ∀ i msg rest,
      (s.inputQueues i).queue = msg :: rest →
        rest = [] ∧ ∀ j, j ≠ i → (s.inputQueues j).queue = []) :
    Inv weights requests (s.tryRequest weights) := by
  obtain ⟨empty, eq⟩ | ⟨i, msg, ⟨rest, buckets, log, queue, eq⟩, paid⟩ :=
    tryRequest_spec positive counts.paid
  · rw [eq]
    exact ⟨counts, fun _ => empty⟩
  · have owed := counts.owed
    rw [eq] at paid ⊢
    refine ⟨⟨paid, setQueue_direct counts.direct i rest, ?_, counts.answered⟩, fun waiting j => ?_⟩
    · simp only [setQueue, length_append, length_singleton]
      omega
    · obtain ⟨rfl, others⟩ := lone (Nat.lt_of_sub_pos waiting) i msg rest queue
      obtain rfl | other := eq_or_ne j i
      · exact setQueue_self []
      · exact (congrArg PassiveQueue.queue (setQueue_of_ne other [])).trans (others j other)

variable (inv : Inv weights requests s)
include inv

lemma Inv.request (positive : ∀ i, 0 < weights i) :
    Inv weights (requests + 1) (s.requestPacket weights) := by
  have owed := inv.owed
  have answered := inv.answered
  refine Counts.tryRequest ⟨⟨inv.paid.tokens, inv.paid.byWeight⟩, inv.direct, ?_, ?_⟩ positive
    (Nat.succ_pos _) fun waiting i msg rest queue => ?_
  · simp only [ask]
    omega
  · simp only [ask]
    omega
  · have empty := inv.idle (Nat.lt_of_succ_lt_succ waiting) i
    exact absurd (queue.symm.trans empty) (cons_ne_nil _ _)

/-- While a request waits, only the packet that comes is in the queues. -/
lemma Inv.alone (pending : 0 < s.packetsToBeRequestedFromInputs) {j : Fin n} {msg' : α}
    {rest : List α}
    (queue : ((s.setQueue i ((s.inputQueues i).queue ++ [msg])).inputQueues j).queue =
      msg' :: rest) : j = i ∧ msg' = msg ∧ rest = [] := by
  have empty := inv.idle pending
  obtain rfl | other := eq_or_ne j i
  · rw [setQueue_self, empty j] at queue
    cases queue
    exact ⟨rfl, rfl, rfl⟩
  · rw [setQueue_of_ne other, empty j] at queue
    cases queue

lemma Inv.setQueue (i : Fin n) (queue : List α) : Counts weights requests (s.setQueue i queue) :=
  ⟨⟨inv.paid.tokens, inv.paid.byWeight⟩, setQueue_direct inv.direct i queue, inv.owed, inv.answered⟩

lemma Inv.arrive (positive : ∀ i, 0 < weights i) (i : Fin n)
    (msg : α) : Inv weights requests (s.arrive weights i msg) := by
  rw [WRRScheduler.arrive, if_neg (by rw [inv.direct i]; exact lt_irrefl 0), PassiveQueue.enqueue]
  split_ifs with full
  · exact inv
  · have counts := inv.setQueue i ((s.inputQueues i).queue ++ [msg])
    dsimp only
    rw [packetEnqueued]
    split_ifs with pending unasked
    · refine counts.tryRequest positive pending fun _ j msg' rest queue => ?_
      obtain ⟨rfl, rfl, rfl⟩ := inv.alone pending queue
      exact ⟨rfl, fun k other => (congrArg PassiveQueue.queue (setQueue_of_ne other _)).trans
        (inv.idle pending k)⟩
    · exact ⟨⟨⟨counts.paid.tokens, counts.paid.byWeight⟩, counts.direct, counts.owed,
        counts.answered⟩, fun waiting => absurd waiting pending⟩
    · exact ⟨counts, fun waiting => absurd waiting pending⟩

lemma Inv.deliver {k : ℕ} (lt : k < s.wire.length) :
    ∃ s', s.handleMessage k = .ok s' ∧ Inv weights requests s' := by
  have owed := inv.owed
  have answered := inv.answered
  refine ⟨_, if_neg (by omega), ⟨⟨⟨inv.paid.tokens, inv.paid.byWeight⟩, inv.direct, ?_, ?_⟩,
    inv.idle⟩⟩
  · dsimp only
    rw [length_eraseIdx_of_lt lt]
    omega
  · dsimp only
    rw [getElem?_eq_getElem lt, length_append, Option.toList_some, length_singleton]
    omega

omit inv in
lemma Inv.run (positive : ∀ i, 0 < weights i) (actions : List (Action n α))
    (inv : Inv weights requests s) :
    ∃ s', run weights s actions = .ok s' ∧
      Inv weights (requests + actions.countP Action.isRequest) s' := by
  induction actions generalizing s requests with
  | nil => exact ⟨s, rfl, inv⟩
  | cons a rest ih =>
    rw [WRRScheduler.run, foldlM_cons]
    cases a with
    | arrive i msg => exact ih (inv.arrive positive i msg)
    | request =>
      have after := ih (inv.request positive)
      rw [Nat.add_right_comm, Nat.add_assoc] at after
      rw [countP_cons_of_pos rfl]
      exact after
    | deliver k =>
      obtain ⟨s', eq, inv'⟩ : ∃ s', step weights s (.deliver k) = .ok s' ∧
          Inv weights requests s' := by
        rw [step]
        split_ifs with lt
        · exact inv.deliver lt
        · exact ⟨s, rfl, inv⟩
      rw [eq]
      exact ih inv'

omit inv

end WRRScheduler

end Inet.Queueing
