import Inet.Lib.Outcome
import Inet.Lib.Service
import Inet.Sctp.FragmentPieces

/-!
# The send streams as a service

The queues of the streams are those of a `Service` whose jobs are the messages and whose pieces
their fragments (`Simulates`). `dequeueOutboundDataMsg` takes the next piece, as long as no other
message gets between the fragments of the one that is being sent (`Keeps`).
-/

namespace Inet.Sctp

open List

variable {n : ℕ} {cfg : SendConfig}

abbrev MsgService (outboundStreams : ℕ) :=
  Service (Fin outboundStreams × Bool) (SCTPDataMsg outboundStreams) (SCTPDataMsg outboundStreams)

/-- What a message is sent as. -/
def piecesOf (cfg : SendConfig) (msg : SCTPDataMsg outboundStreams) :
    List (SCTPDataMsg outboundStreams) :=
  (entries cfg msg).map taken

/-- Does the queue begin with a fragment that is not the first of its message? -/
def begun (queue : List (SCTPDataMsg outboundStreams)) : Bool :=
  queue.head?.any fun msg => msg.fragment && !msg.bBit

/-- No unordered message is sent on the stream of an ordered one whose fragments are being sent, and
the scheduler that maps streams to paths goes on with the message being sent. -/
def Keeps [NeZero outboundStreams] (cfg : SendConfig) (st : SendState outboundStreams) :
    SendCall → Prop
  | .send command smsg _ _ _ => Sendable cfg smsg ∧
      (command.sendUnordered = 1 →
        ∀ sid : Fin outboundStreams, sid.val = command.sid → begun (st.queue sid true) = false)
  | .dequeue _ _ _ => cfg.scheduler = .pathMapToPath →
      ∀ sid ordered, begun (st.queue sid ordered) = true →
        sid = st.schedulerState.lastStreamScheduled ∨
          (st.sendStreams st.schedulerState.lastStreamScheduled).hasData = false
  | _ => True

/-- A message that waits, as it was sent. -/
structure Waiting (cfg : SendConfig) (k : Fin outboundStreams × Bool)
    (msg : SCTPDataMsg outboundStreams) : Prop where
  sid : msg.sid = k.1
  ordered : msg.ordered = k.2
  whole : msg.fragment = false
  sendable : Sendable cfg msg.encapsulated

/-- The queue stands for these messages; the first may have been cut. -/
def QueueStands (cfg : SendConfig) (queue waiting : List (SCTPDataMsg outboundStreams)) : Prop :=
  queue = waiting ∨ ∃ msg rest, waiting = msg :: rest ∧ queue = entries cfg msg ++ rest

/-- The last fragments of a message: some, but not all. -/
structure LastFragments (cfg : SendConfig) (frags : List (SCTPDataMsg outboundStreams)) : Prop where
  fragment : ∀ frag ∈ frags, frag.fragment = true
  short : ∀ frag ∈ frags, needsFragmentation cfg frag = false
  begun : ∀ frag ∈ frags, frag.bBit = false
  ends : frags.map (·.eBit) = List.replicate (frags.length - 1) false ++ [true]

variable {frags : List (SCTPDataMsg n)}

lemma LastFragments.ne_nil (last : LastFragments cfg frags) : frags ≠ [] := by
  intro nil
  have ends := last.ends
  rw [nil] at ends
  simp at ends

lemma LastFragments.eBit_head {frag : SCTPDataMsg n} (last : LastFragments cfg (frag :: frags)) :
    frag.eBit = frags.isEmpty := by
  have ends := last.ends
  cases frags with
  | nil => simpa using ends
  | cons frag' frags =>
    simp only [map_cons, length_cons, Nat.add_sub_cancel, replicate_succ,
      cons_append, List.cons.injEq] at ends
    exact ends.1

lemma LastFragments.tail {frag : SCTPDataMsg n}
    (last : LastFragments cfg (frag :: frags)) (more : frags ≠ []) : LastFragments cfg frags where
  fragment f mem := last.fragment f (mem_cons_of_mem _ mem)
  short f mem := last.short f (mem_cons_of_mem _ mem)
  begun f mem := last.begun f (mem_cons_of_mem _ mem)
  ends := by
    obtain ⟨frag', frags, rfl⟩ := exists_cons_of_ne_nil more
    have ends := last.ends
    simp only [map_cons, length_cons, Nat.add_sub_cancel, replicate_succ,
      cons_append, List.cons.injEq] at ends
    simpa using ends.2

variable {msg : SCTPDataMsg n}

lemma allFragments_cons (sendable : Sendable cfg msg.encapsulated)
    (cut : needsFragmentation cfg msg = true) :
    ∃ first last, allFragments cfg msg = first :: last ∧ first.fragment = true ∧
      first.eBit = false ∧ needsFragmentation cfg first = false ∧ LastFragments cfg last := by
  obtain ⟨pieces, two⟩ := pieces_cut sendable cut
  obtain ⟨each, -⟩ := allFragments_taken sendable cut
  generalize allFragments cfg msg = frags at pieces two each
  match frags, two with
  | first :: second :: rest, _ =>
    have begins := pieces.begins
    have ends := pieces.ends
    simp only [map_cons, length_cons, Nat.add_sub_cancel, replicate_succ,
      cons_append, List.cons.injEq] at begins ends
    obtain ⟨marked, short⟩ := each first (by simp)
    refine ⟨first, second :: rest, rfl, marked, ends.1, short, ?_⟩
    constructor
    · exact fun frag mem => (each frag (mem_cons_of_mem _ mem)).1
    · exact fun frag mem => (each frag (mem_cons_of_mem _ mem)).2
    · intro frag mem
      have bit : frag.bBit ∈ List.map (·.bBit) (second :: rest) := mem_map_of_mem mem
      rw [map_cons, begins.2.1, begins.2.2, ← replicate_succ] at bit
      exact eq_of_mem_replicate bit
    · simpa [replicate_succ] using ends.2

/-! ## The simulation -/

structure Simulates (cfg : SendConfig) (st : SendState outboundStreams)
    (service : MsgService outboundStreams) : Prop where
  waiting : ∀ k, ∀ msg ∈ service.waiting k, Waiting cfg k msg
  idle : ∀ k, (∀ left, service.current ≠ some (k, left)) →
    QueueStands cfg (st.queue k.1 k.2) (service.waiting k)
  busy : ∀ k left, service.current = some (k, left) →
    st.queue k.1 k.2 = left ++ service.waiting k ∧ LastFragments cfg left
  fragment : ∀ k left, service.current = some (k, left) → st.lastMsgWasFragment = true
  alone : ∀ sid left, service.current = some ((sid, true), left) → st.queue sid false = []
  scheduled : cfg.scheduler ≠ .pathMapToPath → ∀ k left, service.current = some (k, left) →
    st.schedulerState.lastStreamScheduled = k.1

lemma SendState.queue_setQueue_self (st : SendState n) (sid : Fin n)
    (ordered : Bool) (msgs : List (SCTPDataMsg n)) :
    (st.setQueue sid ordered msgs).queue sid ordered = msgs := by
  cases ordered <;> simp [SendState.queue, SendState.setQueue]

variable {k : Fin n × Bool}

lemma SendState.queue_setQueue_of_ne (st : SendState n)
    {k' : Fin n × Bool} (ne : k' ≠ k) (msgs : List (SCTPDataMsg n)) :
    (st.setQueue k.1 k.2 msgs).queue k'.1 k'.2 = st.queue k'.1 k'.2 := by
  obtain ⟨sid, ordered⟩ := k
  obtain ⟨sid', ordered'⟩ := k'
  by_cases same : sid' = sid
  · subst same
    cases ordered <;> cases ordered' <;>
      first | exact absurd rfl ne | simp [SendState.queue, SendState.setQueue]
  · cases ordered' <;> simp [SendState.queue, SendState.setQueue, Function.update_of_ne same]

lemma cutFront_of_stands {q : List (SCTPDataMsg n)}
    {rest : List (SCTPDataMsg n)} (stands : QueueStands cfg q (msg :: rest))
    (waiting : Waiting cfg k msg) : ∃ cut, cutFront cfg q = .ok (entries cfg msg ++ rest, cut) := by
  have small : ¬ 2 ^ 32 ≤ msg.encapsulated.byteLength := by
    have padded := waiting.sendable.padded
    have := le_padTo4 (msg.encapsulated.byteLength + 16)
    omega
  cases cut : needsFragmentation cfg msg with
  | false =>
    have same : q = msg :: rest := by
      rcases stands with eq | ⟨msg', rest', eq, here⟩
      · exact eq
      · obtain ⟨rfl, rfl⟩ := List.cons.inj eq
        rw [here, entries, cut]
        rfl
    refine ⟨false, ?_⟩
    rw [same, cutFront, cut, entries, cut]
    rfl
  | true =>
    rcases stands with eq | ⟨msg', rest', eq, here⟩
    · refine ⟨true, ?_⟩
      rw [eq, cutFront, if_pos cut, fragments, if_neg small, entries, if_pos cut]
      rfl
    · obtain ⟨rfl, rfl⟩ := List.cons.inj eq
      obtain ⟨first, last, made, -, -, short, -⟩ := allFragments_cons waiting.sendable cut
      refine ⟨false, ?_⟩
      rw [here, entries, if_pos cut, made, cons_append, cutFront, short]
      rfl

/-- What `takeFront` does once the front of the queue was cut. -/
lemma takeFront_cases {sid : Fin n} {ordered : Bool} {space cwnd : ℤ}
    {st st' : SendState n} {out : Option (SCTPDataMsg n)}
    (run : takeFront cfg sid ordered space cwnd st = .ok (out, st')) :
    ∃ q cut, cutFront cfg (st.queue sid ordered) = .ok (q, cut) ∧
      ((out = none ∧ st' = { st.setQueue sid ordered q with
          lastMsgWasFragment := st.lastMsgWasFragment || cut }) ∨
        ∃ msg rest, q = msg :: rest ∧ out = some (taken msg) ∧
          st' = { st.setQueue sid ordered rest with lastMsgWasFragment := !(taken msg).eBit }) := by
  unfold takeFront at run
  obtain ⟨⟨q, cut⟩, made, run⟩ := Except.bind_eq_ok run
  refine ⟨q, cut, made, ?_⟩
  match q with
  | [] => cases run
  | msg :: rest =>
    dsimp only at run
    by_cases fits : (chunkBytes msg ≤ space && int32 msg.booksize ≤ cwnd) = true
    · rw [if_pos fits] at run
      right
      refine ⟨msg, rest, rfl, ?_⟩
      cases marked : msg.fragment with
      | false =>
        rw [marked] at run
        cases run
        simp [taken, marked]
      | true =>
        rw [marked] at run
        cases run
        simp [taken, marked]
    · rw [if_neg fits] at run
      cases run
      exact Or.inl ⟨rfl, rfl⟩

lemma entries_cons (waiting : Waiting cfg k msg) :
    ∃ front back, entries cfg msg = front :: back ∧ piecesOf cfg msg = taken front :: back ∧
      (back = [] ∨ LastFragments cfg back ∧ (taken front).eBit = false) := by
  cases cut : needsFragmentation cfg msg with
  | false =>
    have one : entries cfg msg = [msg] := by rw [entries, cut]; rfl
    exact ⟨msg, [], one, by rw [piecesOf, one]; rfl, Or.inl rfl⟩
  | true =>
    obtain ⟨first, last, made, marked, going, -, fragments⟩ :=
      allFragments_cons waiting.sendable cut
    have all : entries cfg msg = first :: last := by rw [entries, if_pos cut, made]
    have same := (allFragments_taken waiting.sendable cut).2
    rw [made, map_cons, List.cons.injEq] at same
    refine ⟨first, last, all, ?_, Or.inr ⟨fragments, ?_⟩⟩
    · rw [piecesOf, all, map_cons, same.2]
    · rw [same.1, going]

lemma hasData_eq (st : SendState n) (sid : Fin n) :
    (st.sendStreams sid).hasData = false ↔ st.queue sid false = [] ∧ st.queue sid true = [] := by
  simp [SCTPSendStream.hasData, SendState.queue]

section

variable [NeZero n]

lemma nextStream_cases {st : SendState n} {call : SchedulerCall} {peek : Bool} {sid : Option (Fin n)}
    {st₁ : SendState n} (made : nextStream cfg call st peek = (sid, st₁)) :
    (∀ sid ordered, st₁.queue sid ordered = st.queue sid ordered) ∧
      st₁.lastMsgWasFragment = st.lastMsgWasFragment ∧
      (st.lastMsgWasFragment = true → sid = some st.schedulerState.lastStreamScheduled ∧ st₁ = st) ∧
      (cfg.scheduler ≠ .pathMapToPath → peek = false →
        ∀ s, sid = some s → st₁.schedulerState.lastStreamScheduled = s) ∧
      (peek = true →
        st₁.schedulerState.lastStreamScheduled = st.schedulerState.lastStreamScheduled) := by
  unfold nextStream at made
  cases frag : st.lastMsgWasFragment with
  | true =>
    rw [frag] at made
    cases made
    refine ⟨fun _ _ => rfl, frag, fun _ => ⟨rfl, rfl⟩, ?_, fun _ => rfl⟩
    intro _ _ s here
    exact Option.some.inj here
  | false =>
    rw [frag, if_neg (by simp)] at made
    cases made
    refine ⟨fun _ _ => rfl, rfl, fun impossible => absurd impossible (by simp), ?_, ?_⟩
    · intro other peeks s here
      subst peeks
      exact SchedulerState.ssGetNextSid_last _ other here
    · intro peeks
      subst peeks
      exact SchedulerState.ssGetNextSid_peek_last _ _

lemma nextChunkFitsIntoPacket_state (cfg : SendConfig) (call : SchedulerCall)
    (st : SendState n) (bytes : ℤ) :
    (nextChunkFitsIntoPacket cfg call st bytes).2 = (nextStream cfg call st true).2 := by
  obtain ⟨sid, st₁, made⟩ : ∃ sid st₁, nextStream cfg call st true = (sid, st₁) := ⟨_, _, rfl⟩
  unfold nextChunkFitsIntoPacket
  rw [made]
  cases sid with
  | none => rfl
  | some sid =>
    dsimp only
    split <;> rfl

end

namespace Simulates

variable {st : SendState n} {service : MsgService n}
variable {k : Fin n × Bool}

variable (sim : Simulates cfg st service)
include sim

/-- Only the queues and, as long as a message is being sent, two fields of the state matter. -/
lemma congr {st' : SendState n}
    (queues : ∀ sid ordered, st'.queue sid ordered = st.queue sid ordered)
    (frag : st'.lastMsgWasFragment = st.lastMsgWasFragment) (last : service.current ≠ none →
      st'.schedulerState.lastStreamScheduled = st.schedulerState.lastStreamScheduled) :
    Simulates cfg st' service where
  waiting := sim.waiting
  idle k free := by
    rw [queues]
    exact sim.idle k free
  busy k left here := by
    rw [queues]
    exact sim.busy k left here
  fragment k left here := frag.trans (sim.fragment k left here)
  alone sid left here := (queues sid false).trans (sim.alone sid left here)
  scheduled other k left here :=
    (last (by rw [here]; simp)).trans (sim.scheduled other k left here)

lemma submit {msg : SCTPDataMsg n} (new : Waiting cfg k msg)
    (apart : k.2 = false → ∀ left, service.current ≠ some ((k.1, true), left)) :
    Simulates cfg (st.setQueue k.1 k.2 (st.queue k.1 k.2 ++ [msg])) (service.submit k msg) where
  waiting k' msg' mem := by
    by_cases same : k' = k
    · subst same
      rw [service.waiting_submit_self, mem_append, mem_singleton] at mem
      rcases mem with old | rfl
      · exact sim.waiting k' msg' old
      · exact new
    · rw [service.waiting_submit_of_ne same] at mem
      exact sim.waiting k' msg' mem
  idle k' free := by
    by_cases same : k' = k
    · subst same
      rw [SendState.queue_setQueue_self, service.waiting_submit_self]
      rcases sim.idle k' free with eq | ⟨first, rest, eq, here⟩
      · exact Or.inl (congrArg (· ++ [msg]) eq)
      · refine Or.inr ⟨first, rest ++ [msg], ?_, ?_⟩
        · rw [eq, cons_append]
        · rw [here, append_assoc]
    · rw [SendState.queue_setQueue_of_ne _ same, service.waiting_submit_of_ne same]
      exact sim.idle k' free
  busy k' left here := by
    obtain ⟨q, last⟩ := sim.busy k' left here
    refine ⟨?_, last⟩
    by_cases same : k' = k
    · subst same
      rw [SendState.queue_setQueue_self, service.waiting_submit_self, q, append_assoc]
    · rw [SendState.queue_setQueue_of_ne _ same, service.waiting_submit_of_ne same, q]
  fragment k' left here := sim.fragment k' left here
  alone sid left here := by
    have other : (sid, false) ≠ k := by
      intro same
      subst same
      exact apart rfl left here
    have frame := st.queue_setQueue_of_ne other (st.queue k.1 k.2 ++ [msg])
    exact frame.trans (sim.alone sid left here)
  scheduled other k' left here := sim.scheduled other k' left here

lemma stay {q : List (SCTPDataMsg n)} {flag : Bool} (idle : service.current = none)
    (stands : QueueStands cfg q (service.waiting k)) :
    Simulates cfg { st.setQueue k.1 k.2 q with lastMsgWasFragment := flag } service where
  waiting := sim.waiting
  idle k' free := by
    by_cases same : k' = k
    · subst same
      have self := st.queue_setQueue_self k'.1 k'.2 q
      exact self.symm ▸ stands
    · have frame := st.queue_setQueue_of_ne same q
      exact frame.symm ▸ sim.idle k' free
  busy _ _ here := by rw [idle] at here; cases here
  fragment _ _ here := by rw [idle] at here; cases here
  alone _ _ here := by rw [idle] at here; cases here
  scheduled _ _ _ here := by rw [idle] at here; cases here

variable {left : List (SCTPDataMsg n)}

omit sim in
lemma currentWith_eq {left' : List (SCTPDataMsg n)} {k' : Fin n × Bool}
    (here : Service.currentWith k left = some (k', left')) : k' = k ∧ left' = left ∧ left ≠ [] := by
  cases left with
  | nil => cases here
  | cons msg left =>
    cases here
    exact ⟨rfl, rfl, cons_ne_nil _ _⟩

lemma popped {msgs rest : List (SCTPDataMsg n)} {flag : Bool} {service' : MsgService n}
    (before : ∀ k', k' ≠ k → ∀ left, service.current ≠ some (k', left))
    (waiting : service'.waiting = Function.update service.waiting k rest)
    (sub : ∀ msg ∈ rest, msg ∈ service.waiting k)
    (current : service'.current = Service.currentWith k left) (q : msgs = left ++ rest)
    (last : left = [] ∨ LastFragments cfg left ∧ flag = true)
    (alone : k.2 = true → st.queue k.1 false = []) (scheduled : cfg.scheduler ≠ .pathMapToPath →
      st.schedulerState.lastStreamScheduled = k.1) :
    Simulates cfg { st.setQueue k.1 k.2 msgs with lastMsgWasFragment := flag } service' where
  waiting k' msg mem := by
    rw [waiting] at mem
    by_cases same : k' = k
    · subst same
      rw [Function.update_self] at mem
      exact sim.waiting k' msg (sub msg mem)
    · rw [Function.update_of_ne same] at mem
      exact sim.waiting k' msg mem
  idle k' free := by
    rw [waiting]
    by_cases same : k' = k
    · subst same
      have none : left = [] := by
        by_contra more
        obtain ⟨msg, left', rfl⟩ := exists_cons_of_ne_nil more
        exact free _ current
      have self := st.queue_setQueue_self k'.1 k'.2 msgs
      rw [Function.update_self]
      left
      exact self.trans (by rw [q, none, nil_append])
    · have frame := st.queue_setQueue_of_ne same msgs
      rw [Function.update_of_ne same]
      exact frame.symm ▸ sim.idle k' (before k' same)
  busy k' left' here := by
    rw [current] at here
    obtain ⟨rfl, rfl, more⟩ := currentWith_eq here
    have self := st.queue_setQueue_self k'.1 k'.2 msgs
    refine ⟨?_, (last.resolve_left more).1⟩
    rw [waiting, Function.update_self]
    exact self.trans q
  fragment k' left' here := by
    rw [current] at here
    obtain ⟨rfl, rfl, more⟩ := currentWith_eq here
    exact (last.resolve_left more).2
  alone sid left' here := by
    rw [current] at here
    obtain ⟨rfl, -, -⟩ := currentWith_eq here
    have other : ((sid, false) : Fin n × Bool) ≠ (sid, true) := by simp
    have frame := st.queue_setQueue_of_ne other msgs
    exact frame.trans (alone rfl)
  scheduled other k' left' here := by
    rw [current] at here
    obtain ⟨rfl, -, -⟩ := currentWith_eq here
    exact scheduled other

/-- Nothing was taken, or the next piece that the service hands out. -/
def Goes (cfg : SendConfig) (service : MsgService outboundStreams)
    (out : Option (SCTPDataMsg outboundStreams)) (st' : SendState outboundStreams) : Prop :=
  (out = none ∧ Simulates cfg st' service) ∨
    ∃ piece service', out = some piece ∧ Simulates cfg st' service' ∧
      service'.output = service.output ++ [piece] ∧
      ∀ submitted, Service.Served (piecesOf cfg) submitted service →
        Service.Served (piecesOf cfg) submitted service'

variable {st' : SendState n} {out : Option (SCTPDataMsg n)}
variable {space cwnd : ℤ}

lemma takeFront_idle (idle : service.current = none) (some' : st.queue k.1 k.2 ≠ [])
    (alone : k.2 = true → st.queue k.1 false = [])
    (scheduled : cfg.scheduler ≠ .pathMapToPath → st.schedulerState.lastStreamScheduled = k.1)
    (run : takeFront cfg k.1 k.2 space cwnd st = .ok (out, st')) : Goes cfg service out st' := by
  have free : ∀ k' left, service.current ≠ some (k', left) := by
    intro k' left here
    rw [idle] at here
    cases here
  have stands := sim.idle k (free k)
  obtain ⟨msg, rest, first⟩ : ∃ msg rest, service.waiting k = msg :: rest := by
    apply exists_cons_of_ne_nil
    intro nil
    rcases stands with eq | ⟨msg, rest, eq, -⟩
    · exact some' (eq.trans nil)
    · rw [nil] at eq
      cases eq
  have waits : Waiting cfg k msg := sim.waiting k msg (first ▸ mem_cons_self)
  rw [first] at stands
  obtain ⟨cut, made⟩ := cutFront_of_stands stands waits
  obtain ⟨q, cut', made', here⟩ := takeFront_cases run
  cases made.symm.trans made'
  rcases here with ⟨rfl, rfl⟩ | ⟨front, back, eq, rfl, rfl⟩
  · exact Or.inl ⟨rfl, sim.stay idle (first.symm ▸ Or.inr ⟨msg, rest, rfl, rfl⟩)⟩
  · obtain ⟨front', back', all, pieces, last⟩ := entries_cons waits
    rw [all, cons_append, List.cons.injEq] at eq
    obtain ⟨rfl, rfl⟩ := eq
    refine Or.inr ⟨taken front', service.begin k msg rest (taken front') back', rfl, ?_, rfl,
      fun submitted served => served.begin idle first pieces⟩
    apply sim.popped
    · exact fun k' _ => free k'
    · rfl
    · exact fun m mem => first ▸ mem_cons_of_mem _ mem
    · rfl
    · rfl
    · exact last.imp_right fun l => ⟨l.1, by rw [l.2]; rfl⟩
    · exact alone
    · exact scheduled

lemma takeFront_busy (busy : service.current = some (k, left))
    (run : takeFront cfg k.1 k.2 space cwnd st = .ok (out, st')) : Goes cfg service out st' := by
  obtain ⟨q, last⟩ := sim.busy k left busy
  obtain ⟨frag, left, rfl⟩ := exists_cons_of_ne_nil last.ne_nil
  have marked := last.fragment frag mem_cons_self
  have short := last.short frag mem_cons_self
  have made : cutFront cfg (st.queue k.1 k.2) =
      .ok (frag :: (left ++ service.waiting k), false) := by
    rw [q, cons_append, cutFront, short]
    rfl
  obtain ⟨q', cut, made', here⟩ := takeFront_cases run
  cases made.symm.trans made'
  rcases here with ⟨rfl, rfl⟩ | ⟨front, back, eq, rfl, rfl⟩
  · refine Or.inl ⟨rfl, sim.congr ?_ ?_ fun _ => rfl⟩
    · intro sid ordered
      by_cases same : (sid, ordered) = k
      · subst same
        have self := st.queue_setQueue_self sid ordered (frag :: (left ++ service.waiting (sid, ordered)))
        exact self.trans q.symm
      · have frame := st.queue_setQueue_of_ne same (frag :: (left ++ service.waiting k))
        exact frame
    · rw [sim.fragment k _ busy]
      rfl
  · obtain ⟨rfl, rfl⟩ := List.cons.inj eq
    have same : taken frag = frag := by simp [taken, marked]
    rw [same]
    refine Or.inr ⟨frag, service.next k frag left, rfl, ?_, rfl,
      fun submitted served => served.next busy⟩
    apply sim.popped
    · intro k' ne l here
      rw [busy] at here
      cases here
      exact ne rfl
    · exact (Function.update_eq_self k service.waiting).symm
    · exact fun m mem => mem
    · rfl
    · rfl
    · by_cases none : left = []
      · exact Or.inl none
      · refine Or.inr ⟨last.tail none, ?_⟩
        rw [last.eBit_head]
        simp [none]
    · intro ordered
      obtain ⟨sid, o⟩ := k
      subst ordered
      exact sim.alone sid _ busy
    · exact fun other => sim.scheduled other k _ busy

lemma begun_of_busy (busy : service.current = some (k, left)) :
    begun (st.queue k.1 k.2) = true ∧ st.queue k.1 k.2 ≠ [] := by
  obtain ⟨q, last⟩ := sim.busy k left busy
  obtain ⟨frag, left, rfl⟩ := exists_cons_of_ne_nil last.ne_nil
  rw [q]
  simp [begun, last.fragment frag mem_cons_self, last.begun frag mem_cons_self]

omit sim

section

variable [NeZero n] {call : SchedulerCall}

lemma dequeue (sim : Simulates cfg st service) (keeps : cfg.scheduler = .pathMapToPath →
      ∀ sid ordered, begun (st.queue sid ordered) = true →
        sid = st.schedulerState.lastStreamScheduled ∨
          (st.sendStreams st.schedulerState.lastStreamScheduled).hasData = false)
    (run : dequeueOutboundDataMsg cfg call st space cwnd = .ok (out, st')) :
    Goes cfg service out st' := by
  unfold dequeueOutboundDataMsg at run
  obtain ⟨sid, st₁, made⟩ : ∃ sid st₁, nextStream cfg call st false = (sid, st₁) := ⟨_, _, rfl⟩
  rw [made] at run
  obtain ⟨queues, frag, going, scheduled, -⟩ := nextStream_cases made
  cases current : service.current with
  | some entry =>
    obtain ⟨k, left⟩ := entry
    obtain ⟨rfl, rfl⟩ := going (sim.fragment k left current)
    obtain ⟨started, nonempty⟩ := sim.begun_of_busy current
    dsimp only at run
    have here : k.1 = st₁.schedulerState.lastStreamScheduled ∨
        (st₁.sendStreams st₁.schedulerState.lastStreamScheduled).hasData = false := by
      by_cases other : cfg.scheduler = .pathMapToPath
      · exact keeps other k.1 k.2 started
      · exact Or.inl (sim.scheduled other k left current).symm
    rcases here with same | empty
    · rw [← same] at run
      obtain ⟨sid, ordered⟩ := k
      cases ordered with
      | false =>
        rw [if_pos nonempty] at run
        exact sim.takeFront_busy current run
      | true =>
        rw [if_neg (not_not_intro (sim.alone sid left current)), if_pos nonempty] at run
        exact sim.takeFront_busy current run
    · obtain ⟨none, none'⟩ := (hasData_eq _ _).mp empty
      rw [if_neg (not_not_intro none), if_neg (not_not_intro none')] at run
      cases run
      exact Or.inl ⟨rfl, sim⟩
  | none =>
    have sim₁ : Simulates cfg st₁ service := sim.congr queues frag fun busy => absurd current busy
    cases sid with
    | none =>
      cases run
      exact Or.inl ⟨rfl, sim₁⟩
    | some sid =>
      dsimp only at run
      have last : cfg.scheduler ≠ .pathMapToPath →
          st₁.schedulerState.lastStreamScheduled = sid :=
        fun other => scheduled other rfl sid rfl
      by_cases unordered : st₁.queue sid false = []
      · rw [if_neg (not_not_intro unordered)] at run
        by_cases empty : st₁.queue sid true = []
        · rw [if_neg (not_not_intro empty)] at run
          cases run
          exact Or.inl ⟨rfl, sim₁⟩
        · rw [if_pos empty] at run
          exact sim₁.takeFront_idle (k := (sid, true)) current empty (fun _ => unordered) last run
      · rw [if_pos unordered] at run
        exact sim₁.takeFront_idle (k := (sid, false)) current unordered
          (fun impossible => nomatch impossible) last run

lemma peek (sim : Simulates cfg st service) (bytes : ℤ) :
    Simulates cfg (nextChunkFitsIntoPacket cfg call st bytes).2 service := by
  obtain ⟨sid, st₁, made⟩ : ∃ sid st₁, nextStream cfg call st true = (sid, st₁) := ⟨_, _, rfl⟩
  obtain ⟨queues, frag, -, -, last⟩ := nextStream_cases made
  rw [nextChunkFitsIntoPacket_state, made]
  exact sim.congr queues frag fun _ => last rfl

end

end Simulates

end Inet.Sctp
