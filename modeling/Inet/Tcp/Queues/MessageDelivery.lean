import Inet.Tcp.Queues.MsgBasedReading

/-!
# Message delivery

Messages are enqueued, arbitrary ranges are cut, and segments already cut arrive any number of times
and in any order, truncated to the receiver's window. The check behind `Send queue is full` looks at the sum only after it has wrapped.
-/

namespace Inet.Tcp

/-- The two queues, the segments cut so far, the messages enqueued, the octets that arrived, and the
packets handed out. -/
structure MessageTransfer where
  sendQueue : MsgBasedSendQueue
  network : List TCPSegment
  rcvQueue : MsgBasedRcvQueue
  enqueued : List CPacket
  arrived : Set ℕ
  delivered : List CPacket

namespace MessageTransfer

/-- Both queues initialised to the sequence number `s`; the first octet is at
position `s.toNat`. -/
def start (s : UInt32) : MessageTransfer where
  sendQueue := .init s
  network := []
  rcvQueue := ⟨.init s, []⟩
  enqueued := []
  arrived := ∅
  delivered := []

/-- Positions of the octets a segment carries, in a stream that begins at `s`. -/
def octets (s : UInt32) (tcpseg : TCPSegment) : Set ℕ :=
  Set.Ico (unwrap s.toNat tcpseg.sequenceNo) (unwrap s.toNat tcpseg.sequenceNo + tcpseg.payloadLength)

/-- One event. `Admits` restricts the messages of the runs considered. -/
inductive Step (s : UInt32) (Admits : MsgBasedSendQueue → CPacket → Prop) :
    MessageTransfer → MessageTransfer → Prop
  | enqueue {transfer : MessageTransfer} {msg : CPacket} {sendQueue : MsgBasedSendQueue}
      (positive : 0 < msg.byteLength) (admits : Admits transfer.sendQueue msg)
      (enqueues : transfer.sendQueue.enqueueAppData msg = .ok sendQueue) :
      Step s Admits transfer { transfer with sendQueue, enqueued := transfer.enqueued ++ [msg] }
  | cut {transfer : MessageTransfer} {fromSeq : UInt32} {numBytes : ℕ} {tcpseg : TCPSegment}
      (positive : 0 < numBytes)
      (available : numBytes ≤ transfer.sendQueue.getBytesAvailable fromSeq)
      (creates : transfer.sendQueue.createSegmentWithBytes fromSeq numBytes = .ok tcpseg) :
      Step s Admits transfer { transfer with network := tcpseg :: transfer.network }
  | deliver {transfer : MessageTransfer} {tcpseg truncated : TCPSegment} {wnd : UInt32}
      {rcvQueue : MsgBasedRcvQueue} {msgs : List CPacket} (sent : tcpseg ∈ transfer.network)
      (opened : wnd ≠ 0)
      (truncates : tcpseg.truncateSegment transfer.rcvQueue.rcvNxt
        (transfer.rcvQueue.rcvNxt + wnd) = .ok truncated)
      (receives : transfer.rcvQueue.receive truncated = .ok (msgs, rcvQueue)) :
      Step s Admits transfer
        { transfer with
          rcvQueue
          arrived := transfer.arrived ∪ octets s truncated
          delivered := transfer.delivered ++ msgs }

/-- Transfers that a run of such events leads to. -/
def Reachable (s : UInt32) (Admits : MsgBasedSendQueue → CPacket → Prop) :
    MessageTransfer → Prop :=
  Relation.ReflTransGen (Step s Admits) (start s)

/-- The message does not take the length of the send queue past `2 ^ 32`. -/
def DoesNotWrap (sendQueue : MsgBasedSendQueue) (msg : CPacket) : Prop :=
  (sendQueue.end - sendQueue.begin).toNat + msg.byteLength < 4294967296

open Classical in
/-- Messages that have arrived completely but end above `next`. -/
noncomputable def pending (next : ℕ) (arrived : Set ℕ) (x : ℕ × CPacket) : Bool :=
  decide (next < x.1 ∧ x.1 - 1 ∈ arrived)

structure Inv (s : UInt32) (transfer : MessageTransfer) (spans : List (Span ℕ)) (next : ℕ) :
    Prop where
  positive : ∀ msg ∈ transfer.enqueued, 0 < msg.byteLength
  streamEnd_le : streamEnd s.toNat transfer.enqueued ≤ s.toNat + 2147483648
  sendBegin : transfer.sendQueue.begin = s
  sendEnd : transfer.sendQueue.end = serial (streamEnd s.toNat transfer.enqueued)
  payloadQueue : transfer.sendQueue.payloadQueue =
    (endPositions s.toNat transfer.enqueued).map payloadAt
  network : ∀ tcpseg ∈ transfer.network, ∃ lo hi, s.toNat ≤ lo ∧ lo < hi ∧
    hi ≤ streamEnd s.toNat transfer.enqueued ∧
    CarriesMessages (endPositions s.toNat transfer.enqueued) tcpseg lo hi
  represents : transfer.rcvQueue.Represents Region.reading spans next
  reassembly : Reassembly s.toNat next next transfer.arrived spans
  spansIn : ∀ t ∈ spans, t.Within s.toNat (s.toNat + 2147483648)
  arrived_lt : ∀ p ∈ transfer.arrived, p < streamEnd s.toNat transfer.enqueued
  payloadList : transfer.rcvQueue.payloadList =
    ((endPositions s.toNat transfer.enqueued).filter (pending next transfer.arrived)).map itemAt
  delivered : transfer.delivered =
    ((endPositions s.toNat transfer.enqueued).filter fun x => decide (x.1 ≤ next)).map Prod.snd

variable {s : UInt32} {tr : MessageTransfer} {spans : List (Span ℕ)} {next : ℕ}

lemma Inv.start (s : UInt32) : (start s).Inv s [] s.toNat where
  positive := by simp [MessageTransfer.start]
  streamEnd_le := by simp [MessageTransfer.start, streamEnd]
  sendBegin := rfl
  sendEnd := by simp [MessageTransfer.start, streamEnd, MsgBasedSendQueue.init]
  payloadQueue := rfl
  network := by simp [MessageTransfer.start]
  represents := ⟨.nil, List.Pairwise.nil, (serial_toNat s).symm⟩
  reassembly := Reassembly.empty s.toNat
  spansIn := by simp
  arrived_lt := by simp [MessageTransfer.start]
  payloadList := rfl
  delivered := rfl

variable (inv : tr.Inv s spans next)
include inv

lemma Inv.endsInOrder :
    EndsInOrder s.toNat (endPositions s.toNat tr.enqueued) where
  sorted := endPositions_sorted inv.positive
  bounds := fun x mem => by
    have := endPositions_bounds inv.positive mem
    have := inv.streamEnd_le
    omega

lemma Inv.next_le : next ≤ streamEnd s.toNat tr.enqueued := by
  rcases Nat.eq_or_lt_of_le inv.reassembly.start_le with same | lt
  · have := le_streamEnd s.toNat tr.enqueued
    omega
  · have := inv.arrived_lt (next - 1) (inv.reassembly.received_of_lt _ (by omega) (by omega))
    omega

omit inv in
lemma endingIn_append {ends : List (ℕ × CPacket)} {lo hi : ℕ} {x : ℕ × CPacket}
    (behind : hi < x.1) : endingIn lo hi (ends ++ [x]) = endingIn lo hi ends := by
  rw [endingIn, List.filter_append, List.filter_cons_of_neg (by simp; omega), List.filter_nil,
    List.append_nil, endingIn]

lemma Inv.enqueue {msg : CPacket} {sendQueue : MsgBasedSendQueue} (positive : 0 < msg.byteLength)
    (fits : DoesNotWrap tr.sendQueue msg)
    (enqueues : tr.sendQueue.enqueueAppData msg = .ok sendQueue) :
    Inv s { tr with sendQueue, enqueued := tr.enqueued ++ [msg] } spans next := by
  have bound := inv.streamEnd_le
  have startLe := le_streamEnd s.toNat tr.enqueued
  have nextLe := inv.next_le
  have grown := streamEnd_append_singleton s.toNat tr.enqueued msg
  have ends := endPositions_append_singleton s.toNat tr.enqueued msg
  have newEnd : tr.sendQueue.end + serial msg.byteLength =
      serial (streamEnd s.toNat (tr.enqueued ++ [msg])) := by
    rw [inv.sendEnd, ← serial_add, grown]
  have begin_eq : tr.sendQueue.begin = serial s.toNat := by
    rw [inv.sendBegin, serial_toNat]
  rw [DoesNotWrap, inv.sendEnd, begin_eq, toNat_serial_sub (by omega) (by omega)] at fits
  simp only [MsgBasedSendQueue.enqueueAppData, newEnd] at enqueues
  split at enqueues
  · cases enqueues
  case isFalse notFull =>
  cases enqueues
  have newBound : streamEnd s.toNat (tr.enqueued ++ [msg]) ≤ s.toNat + 2147483648 := by
    by_contra far
    refine notFull ⟨?_, ?_⟩
    · rw [begin_eq, ne_eq, serial_inj (by omega) (by omega)]
      omega
    · rw [begin_eq, UInt32.lt_iff_toNat_lt, UInt32.toNat_sub, toNat_serial, toNat_serial]
      have half : (2147483648 : UInt32).toNat = 2147483648 := rfl
      omega
  have notPending : ¬ pending next tr.arrived
      (streamEnd s.toNat tr.enqueued + msg.byteLength, msg) := by
    simp only [pending, decide_eq_true_eq, not_and]
    intro _ mem
    have := inv.arrived_lt _ mem
    omega
  refine ⟨?_, newBound, inv.sendBegin, rfl, ?_, ?_, inv.represents, inv.reassembly, inv.spansIn,
    ?_, ?_, ?_⟩
  · intro m mem
    rcases List.mem_append.mp mem with mem | mem
    · exact inv.positive m mem
    · rwa [List.mem_singleton.mp mem]
  · simp only [ends, List.map_append, List.map_singleton, inv.payloadQueue, payloadAt, grown]
  · intro seg mem
    obtain ⟨lo, hi, loGe, lt, hiLe, carries⟩ := inv.network seg mem
    refine ⟨lo, hi, loGe, lt, by simp only [grown]; omega, carries.sequenceNo,
      carries.payloadLength, ?_, carries.byteArray⟩
    rw [carries.payloadList, ends, endingIn_append (by simp only; omega)]
  · intro p mem
    have := inv.arrived_lt p mem
    simp only [grown]
    omega
  · simp only [ends, List.filter_append, List.filter_cons_of_neg notPending, List.filter_nil,
      List.append_nil, inv.payloadList]
  · rw [inv.delivered, ends, List.filter_append,
      List.filter_cons_of_neg (by simp; omega), List.filter_nil, List.append_nil]

lemma Inv.cut {fromSeq : UInt32} {numBytes : ℕ} {seg : TCPSegment} (positive : 0 < numBytes)
    (available : numBytes ≤ tr.sendQueue.getBytesAvailable fromSeq)
    (creates : tr.sendQueue.createSegmentWithBytes fromSeq numBytes = .ok seg) :
    Inv s { tr with network := seg :: tr.network } spans next := by
  have bound := inv.streamEnd_le
  have startLe := le_streamEnd s.toNat tr.enqueued
  have begin_eq : tr.sendQueue.begin = serial s.toNat := by
    rw [inv.sendBegin, serial_toNat]
  -- The range lies inside the queue, so `fromSeq` has one position there.
  obtain ⟨lo, from_eq, loGe, loLt⟩ : ∃ lo, fromSeq = serial lo ∧ s.toNat ≤ lo ∧
      lo < s.toNat + 4294967296 :=
    ⟨unwrap s.toNat fromSeq, (serial_unwrap _ _).symm, le_unwrap _ _, unwrap_lt _ _⟩
  have near : lo < s.toNat + 2147483648 := by
    have inside := (of_assert_bind creates).1.1
    rw [seqLE, from_eq, begin_eq, UInt32.lt_iff_toNat_lt,
      toNat_serial_sub (by omega) (by omega)] at inside
    have half : (2147483648 : UInt32).toNat = 2147483648 := rfl
    omega
  rw [MsgBasedSendQueue.getBytesAvailable, inv.sendEnd, from_eq] at available
  split at available
  case isFalse => omega
  case isTrue below =>
  have lt := lt_of_seqLess_serial (by omega) (by omega) below
  rw [toNat_serial_sub (by omega) (by omega)] at available
  have hiLe : lo + numBytes ≤ streamEnd s.toNat tr.enqueued := by omega
  have carries : CarriesMessages (endPositions s.toNat tr.enqueued) seg lo
      (lo + numBytes) :=
    createSegmentWithBytes_carries inv.endsInOrder inv.payloadQueue loGe (by omega) (by omega) (by
      rw [Nat.add_sub_cancel_left, ← from_eq]
      exact creates)
  exact { inv with
    network := List.forall_mem_cons.mpr
      ⟨⟨lo, lo + numBytes, loGe, by omega, hiLe, carries⟩, inv.network⟩ }

/-! ## Delivery -/

/-- A truncated segment `[lo, hi)` at or above `next` arrives, and the messages it completes are
handed out. -/
lemma Inv.receive {truncated : TCPSegment} {lo hi : ℕ}
    (carries : CarriesMessages (endPositions s.toNat tr.enqueued) truncated lo hi)
    (above : next ≤ lo) (lt : lo < hi) (hiLe : hi ≤ streamEnd s.toNat tr.enqueued) :
    ∃ msgs rcvQueue spans' next', tr.rcvQueue.receive truncated = .ok (msgs, rcvQueue) ∧
      Inv s { tr with
        rcvQueue
        arrived := tr.arrived ∪ Set.Ico lo hi
        delivered := tr.delivered ++ msgs } spans' next' := by
  have bound := inv.streamEnd_le
  have startLe := inv.reassembly.start_le
  have order := inv.endsInOrder
  generalize ends_eq : endPositions s.toNat tr.enqueued = ends at carries order
  have hi_eq : truncated.endSequenceNo = serial hi := by
    rw [TCPSegment.endSequenceNo, carries.sequenceNo, carries.payloadLength, ← serial_add]
    congr 1; omega
  have rep : Region.reading.Rep ⟨truncated.sequenceNo, truncated.endSequenceNo⟩ ⟨lo, hi, lt⟩ :=
    ⟨carries.sequenceNo, hi_eq⟩
  have segIn : Span.Within s.toNat (s.toNat + 2147483648) ⟨lo, hi, lt⟩ :=
    ⟨by simp only; omega, by simp only; omega⟩
  obtain ⟨regions, inserts, represents⟩ := inv.represents.insertRegion inv.spansIn startLe
    (by omega) rep segIn (fun _ _ _ _ => trivial)
  have reassembly := inv.reassembly.insert ⟨lo, hi, lt⟩ above
  have spansIn := SpanList.within_insertBack segIn
    (fun t mem => inv.spansIn t (List.mem_reverse.mp mem))
    (by simp : ∀ t ∈ ([] : List (Span ℕ)), t.Within s.toNat (s.toNat + 2147483648))
  have next'Le := nextOfSpans_le spansIn (by omega : next ≤ s.toNat + 2147483648)
  generalize SpanList.insertBack ⟨lo, hi, lt⟩ spans.reverse [] = spans' at *
  generalize nextOfSpans spans' next = next' at *
  have nextLe : next ≤ next' := by
    by_contra below
    exact reassembly.next_notMem
      (.inl (inv.reassembly.received_of_lt next' reassembly.isLeast.1.1 (not_le.mp below)))
  have arrivedLt : ∀ p ∈ tr.arrived ∪ Set.Ico lo hi, p < streamEnd s.toNat tr.enqueued := by
    rintro p (mem | ⟨-, below⟩)
    · exact inv.arrived_lt p mem
    · omega
  -- The payload list: what was pending and what the segment completes.
  have payloads : MsgBasedRcvQueue.insertPayloads truncated.payloadList []
      tr.rcvQueue.payloadList =
      .ok ((ends.filter (pending next (tr.arrived ∪ Set.Ico lo hi))).map itemAt) := by
    have inserted := insertPayloads_eq ((List.nil_append ends).symm ▸ order)
      (pending next tr.arrived) fun x => decide (lo < x.1 ∧ x.1 ≤ hi)
    rw [carries.payloadList, inv.payloadList, ends_eq]
    refine inserted.trans ?_
    rw [List.nil_append]
    congr 2
    refine List.filter_congr fun x mem => ?_
    have := order.bounds x mem
    rw [Bool.eq_iff_iff, Bool.or_eq_true]
    simp only [pending, decide_eq_true_eq]
    refine ⟨?_, ?_⟩
    · rintro (⟨late, mem⟩ | ⟨low, high⟩)
      · exact ⟨late, .inl mem⟩
      · exact ⟨by omega, .inr ⟨by omega, by omega⟩⟩
    · rintro ⟨late, mem | ⟨low, high⟩⟩
      · exact .inl ⟨late, mem⟩
      · exact .inr ⟨by omega, by omega⟩
  have insertsAll : tr.rcvQueue.insertBytesFromSegment truncated =
      .ok ⟨regions, (ends.filter (pending next (tr.arrived ∪ Set.Ico lo hi))).map itemAt⟩ := by
    change (do
      let regions ← tr.rcvQueue.insertRegion ⟨truncated.sequenceNo, truncated.endSequenceNo⟩
      let payloadList ← MsgBasedRcvQueue.insertPayloads truncated.payloadList []
        tr.rcvQueue.payloadList
      return (⟨regions, payloadList⟩ : MsgBasedRcvQueue)) = _
    rw [inserts, payloads]
    rfl
  have nxt_iff : regions.rcvNxt = tr.rcvQueue.rcvNxt ↔ next' = next := by
    rw [represents.rcvNxt, inv.represents.rcvNxt, serial_inj (by omega) (by omega)]
  by_cases same : next' = next
  · subst same
    refine ⟨[], ⟨regions, (ends.filter (pending next' (tr.arrived ∪ Set.Ico lo hi))).map
      itemAt⟩, spans', next', ?_, { inv with
        represents, reassembly, spansIn
        arrived_lt := arrivedLt
        payloadList := by rw [ends_eq]
        delivered := by rw [List.append_nil, inv.delivered] }⟩
    simp only [MsgBasedRcvQueue.receive, insertsAll, bind, Except.bind, if_pos (nxt_iff.mpr rfl)]
    rfl
  · -- `rcv_nxt` advanced: the loop hands out what is now complete.
    let complete := ends.filter (pending next (tr.arrived ∪ Set.Ico lo hi))
    obtain ⟨drained, drainedSpans, extracts, represents', reassembly', spansIn'⟩ :=
      extractAll_drained represents reassembly spansIn next'Le (order.filter _ : EndsInOrder _ complete)
        (fun x mem => by
          have := List.of_mem_filter mem
          simp only [pending, decide_eq_true_eq] at this
          exact this.1) (Nat.lt_succ_self _)
    have kept : complete.filter (fun x => decide (next' < x.1)) =
        ends.filter (pending next' (tr.arrived ∪ Set.Ico lo hi)) := by
      rw [List.filter_filter]
      refine List.filter_congr fun x _ => ?_
      rw [Bool.eq_iff_iff, Bool.and_eq_true]
      simp only [pending, decide_eq_true_eq]
      constructor
      · rintro ⟨late, -, mem⟩
        exact ⟨late, mem⟩
      · rintro ⟨late, mem⟩
        exact ⟨late, by omega, mem⟩
    -- Everything below `next'` has arrived, so `complete` misses no message up to there.
    have handed : ends.filter (fun x => decide (x.1 ≤ next)) ++
        complete.filter (fun x => decide (x.1 ≤ next')) =
        ends.filter fun x => decide (x.1 ≤ next') := by
      have order' : ends.Pairwise fun x y =>
          decide (y.1 ≤ next) = true → decide (x.1 ≤ next) = true :=
        order.sorted.imp fun lt later => by
          simp only [decide_eq_true_eq] at later ⊢
          omega
      have split := filter_append_filter order' fun x => decide (x.1 ≤ next')
      have later : complete.filter (fun x => decide (x.1 ≤ next')) =
          ends.filter fun x => !decide (x.1 ≤ next) && decide (x.1 ≤ next') := by
        rw [List.filter_filter]
        refine List.filter_congr fun x mem => ?_
        have := order.bounds x mem
        rw [Bool.eq_iff_iff, Bool.and_eq_true, Bool.and_eq_true]
        simp only [pending, decide_eq_true_eq, Bool.not_eq_true', decide_eq_false_iff_not, not_le]
        constructor
        · rintro ⟨done, late, -⟩
          exact ⟨late, done⟩
        · rintro ⟨late, done⟩
          exact ⟨done, late, reassembly.received_of_lt _ (by omega) (by omega)⟩
      rw [later, split]
      refine List.filter_congr fun x _ => ?_
      rw [Bool.eq_iff_iff, Bool.or_eq_true]
      simp only [decide_eq_true_eq]
      omega
    refine ⟨(complete.filter fun x => decide (x.1 ≤ next')).map Prod.snd,
      ⟨drained, (complete.filter fun x => decide (next' < x.1)).map itemAt⟩, drainedSpans, next',
      ?_, { inv with
        represents := represents', reassembly := reassembly', spansIn := spansIn'
        arrived_lt := arrivedLt
        payloadList := by rw [ends_eq, ← kept]
        delivered := by rw [inv.delivered, ends_eq, ← List.map_append, handed] }⟩
    simp only [MsgBasedRcvQueue.receive, insertsAll, bind, Except.bind]
    rw [if_neg (mt nxt_iff.mp same), List.length_map]
    exact extracts

/-- Whatever `truncateSegment` lets through of a sent segment is received. -/
lemma Inv.deliver {seg truncated : TCPSegment} {wnd : UInt32} (sent : seg ∈ tr.network)
    (opened : wnd ≠ 0) (truncates : seg.truncateSegment tr.rcvQueue.rcvNxt
      (tr.rcvQueue.rcvNxt + wnd) = .ok truncated) :
    ∃ msgs rcvQueue spans' next', tr.rcvQueue.receive truncated = .ok (msgs, rcvQueue) ∧
      Inv s { tr with
        rcvQueue
        arrived := tr.arrived ∪ octets s truncated
        delivered := tr.delivered ++ msgs } spans' next' := by
  obtain ⟨lo, hi, loGe, lt, hiLe, carries⟩ := inv.network seg sent
  have bound := inv.streamEnd_le
  have nextLe := inv.next_le
  rw [inv.represents.rcvNxt] at truncates
  obtain ⟨hi', inside, hi'Le, cut⟩ := carries.truncateSegment inv.endsInOrder loGe lt (by omega)
    inv.reassembly.start_le (by omega) opened truncates
  have octets_eq : octets s truncated = Set.Ico (max lo next) hi' := by
    rw [octets, cut.sequenceNo, cut.payloadLength, unwrap_serial (by omega) (by omega)]
    congr 1
    omega
  rw [octets_eq]
  exact inv.receive cut (le_max_right lo next) inside (by omega)

omit inv

lemma Inv.of_reachable (reachable : Reachable s DoesNotWrap tr) :
    ∃ spans next, tr.Inv s spans next := by
  induction reachable with
  | refl => exact ⟨_, _, Inv.start s⟩
  | tail _ step ih =>
    obtain ⟨spans, next, inv⟩ := ih
    cases step with
    | enqueue positive fits enqueues => exact ⟨_, _, inv.enqueue positive fits enqueues⟩
    | cut positive available creates => exact ⟨_, _, inv.cut positive available creates⟩
    | deliver sent opened truncates receives =>
      obtain ⟨msgs, rcvQueue, spans', next', receives', inv'⟩ := inv.deliver sent opened truncates
      cases receives.symm.trans receives'
      exact ⟨spans', next', inv'⟩

/-- While no message wraps the send queue, `rcv_nxt` is the first octet that has not arrived, the
packets handed out are the messages that end at or below it, in order, and receiving a truncated
segment does not fail. -/
theorem delivers (s : UInt32) (tr : MessageTransfer) (reachable : Reachable s DoesNotWrap tr) :
    ∃ next, IsLeast {p | s.toNat ≤ p ∧ p ∉ tr.arrived} next ∧
      tr.rcvQueue.rcvNxt = serial next ∧
      tr.delivered = ((endPositions s.toNat tr.enqueued).filter
        fun x => decide (x.1 ≤ next)).map Prod.snd ∧
      ∀ seg ∈ tr.network, ∀ wnd truncated, wnd ≠ 0 →
        seg.truncateSegment tr.rcvQueue.rcvNxt (tr.rcvQueue.rcvNxt + wnd) = .ok truncated →
        ∃ result, tr.rcvQueue.receive truncated = .ok result := by
  obtain ⟨spans, next, inv⟩ := Inv.of_reachable reachable
  refine ⟨next, inv.reassembly.isLeast, inv.represents.rcvNxt, inv.delivered, ?_⟩
  intro seg sent wnd truncated opened truncates
  obtain ⟨msgs, rcvQueue, spans', next', receives, -⟩ := inv.deliver sent opened truncates
  exact ⟨_, receives⟩

/-- A two octet message enqueued, cut whole and delivered. -/
theorem delivers_one : ∃ tr : MessageTransfer, Reachable 0 DoesNotWrap tr ∧
    tr.delivered = [⟨7, 2⟩] ∧
    ∃ next, tr.rcvQueue.rcvNxt = serial next ∧
      tr.delivered = ((endPositions (0 : UInt32).toNat tr.enqueued).filter
        fun x => decide (x.1 ≤ next)).map Prod.snd := by
  let sendQueue : MsgBasedSendQueue := ⟨0, 2, [⟨2, ⟨7, 2⟩⟩]⟩
  let seg : TCPSegment := { payloadLength := 2, payloadList := [⟨2, ⟨7, 2⟩⟩] }
  have enqueued : Step 0 DoesNotWrap (start 0)
      { start 0 with sendQueue, enqueued := [⟨7, 2⟩] } :=
    .enqueue (by decide) (by unfold DoesNotWrap; decide) rfl
  have cut : Step 0 DoesNotWrap { start 0 with sendQueue, enqueued := [⟨7, 2⟩] }
      { start 0 with sendQueue, enqueued := [⟨7, 2⟩], network := [seg] } :=
    .cut (by decide : 0 < 2) (by decide : 2 ≤ sendQueue.getBytesAvailable 0) (by decide)
  have delivered : Step 0 DoesNotWrap
      { start 0 with sendQueue, enqueued := [⟨7, 2⟩], network := [seg] }
      ⟨sendQueue, [seg], ⟨⟨2, []⟩, []⟩, [⟨7, 2⟩], ∅ ∪ octets 0 seg, [⟨7, 2⟩]⟩ :=
    .deliver List.mem_cons_self (by decide : (8 : UInt32) ≠ 0)
      (by decide : seg.truncateSegment 0 8 = .ok seg) (by decide)
  have run : Reachable 0 DoesNotWrap _ :=
    ((Relation.ReflTransGen.single enqueued).tail cut).tail delivered
  obtain ⟨next, -, nxt, messages, -⟩ := delivers 0 _ run
  exact ⟨_, run, rfl, next, nxt, messages⟩

/-- A message of `2 ^ 32 + 1` octets takes one octet of the queue: it is handed
out when `rcv_nxt` is 1, although it does not end there. -/
theorem delivers_fails_on_wrap : ∃ tr : MessageTransfer,
    Reachable 0 (fun _ _ => True) tr ∧ tr.rcvQueue.rcvNxt = 1 ∧
      tr.delivered = [⟨7, 4294967297⟩] ∧
      endPositions 0 tr.enqueued = [(4294967297, ⟨7, 4294967297⟩)] := by
  let sendQueue : MsgBasedSendQueue := ⟨0, 1, [⟨1, ⟨7, 4294967297⟩⟩]⟩
  let seg : TCPSegment := { payloadLength := 1, payloadList := [⟨1, ⟨7, 4294967297⟩⟩] }
  have enqueued : Step 0 (fun _ _ => True) (start 0)
      { start 0 with sendQueue, enqueued := [⟨7, 4294967297⟩] } :=
    .enqueue (by decide) trivial rfl
  have cut : Step 0 (fun _ _ => True) { start 0 with sendQueue, enqueued := [⟨7, 4294967297⟩] }
      { start 0 with sendQueue, enqueued := [⟨7, 4294967297⟩], network := [seg] } :=
    .cut (by decide : 0 < 1) (by decide : 1 ≤ sendQueue.getBytesAvailable 0) (by decide)
  have delivered : Step 0 (fun _ _ => True)
      { start 0 with sendQueue, enqueued := [⟨7, 4294967297⟩], network := [seg] }
      ⟨sendQueue, [seg], ⟨⟨1, []⟩, []⟩, [⟨7, 4294967297⟩], ∅ ∪ octets 0 seg, [⟨7, 4294967297⟩]⟩ :=
    .deliver List.mem_cons_self (by decide : (8 : UInt32) ≠ 0)
      (by decide : seg.truncateSegment 0 8 = .ok seg) (by decide)
  exact ⟨_, ((Relation.ReflTransGen.single enqueued).tail cut).tail delivered, rfl, rfl, rfl⟩

end MessageTransfer

end Inet.Tcp
