import Inet.Lib.SortedFilter
import Inet.Tcp.Queues.MsgBasedQueues
import Inet.Tcp.Queues.RcvQueueReading
import Mathlib

/-!
# Reading the message based queues over positions

All lists of the object transfer mode are the messages enqueued, filtered by where they end; the
lemmas say which filter each operation computes.
-/

namespace Inet.Tcp

/-- Messages laid end to end from `start`, each with the position behind its
last octet. -/
def endPositions : ℕ → List CPacket → List (ℕ × CPacket)
  | _, [] => []
  | start, msg :: msgs =>
      (start + msg.byteLength, msg) :: endPositions (start + msg.byteLength) msgs

/-- Position behind the last message. -/
def streamEnd (start : ℕ) (msgs : List CPacket) : ℕ :=
  start + (msgs.map CPacket.byteLength).sum

section EndPositions

variable {start : ℕ} {msgs : List CPacket}

lemma endPositions_append_singleton (start : ℕ) (msgs : List CPacket) (msg : CPacket) :
    endPositions start (msgs ++ [msg]) =
      endPositions start msgs ++ [(streamEnd start msgs + msg.byteLength, msg)] := by
  induction msgs generalizing start with
  | nil => simp [endPositions, streamEnd]
  | cons head msgs ih =>
    simp only [List.cons_append, endPositions, ih, streamEnd, List.map_cons, List.sum_cons,
      Nat.add_assoc]

lemma streamEnd_append_singleton (start : ℕ) (msgs : List CPacket) (msg : CPacket) :
    streamEnd start (msgs ++ [msg]) = streamEnd start msgs + msg.byteLength := by
  simp [streamEnd, Nat.add_assoc]

lemma le_streamEnd (start : ℕ) (msgs : List CPacket) : start ≤ streamEnd start msgs :=
  Nat.le_add_right _ _

/-- Every message ends above the start and at or below the end of the stream. -/
lemma endPositions_bounds (positive : ∀ msg ∈ msgs, 0 < msg.byteLength)
    {x : ℕ × CPacket} (mem : x ∈ endPositions start msgs) :
    start < x.1 ∧ x.1 ≤ streamEnd start msgs := by
  induction msgs generalizing start with
  | nil => cases mem
  | cons head msgs ih =>
    obtain ⟨headPos, restPos⟩ := List.forall_mem_cons.mp positive
    have tailEnd : streamEnd start (head :: msgs) = streamEnd (start + head.byteLength) msgs := by
      simp [streamEnd, Nat.add_assoc]
    rw [tailEnd]
    rcases List.mem_cons.mp mem with rfl | mem
    · exact ⟨by simp only; omega, le_streamEnd _ _⟩
    · have := ih restPos mem
      omega

lemma endPositions_sorted (positive : ∀ msg ∈ msgs, 0 < msg.byteLength) :
    (endPositions start msgs).Pairwise fun x y => x.1 < y.1 := by
  induction msgs generalizing start with
  | nil => exact List.Pairwise.nil
  | cons head msgs ih =>
    obtain ⟨headPos, restPos⟩ := List.forall_mem_cons.mp positive
    refine List.pairwise_cons.mpr ⟨fun x mem => ?_, ih restPos⟩
    exact (endPositions_bounds restPos mem).1

end EndPositions

/-! ## Payload lists as filters -/

/-- A message as it stands in the send queue and in segments. -/
def payloadAt (x : ℕ × CPacket) : TCPPayloadMessage := ⟨serial x.1, x.2⟩

/-- A message as it stands in the receive queue. -/
def itemAt (x : ℕ × CPacket) : PayloadItem := ⟨serial x.1, x.2⟩

/-- The messages of `ends` that end in `(lo, hi]`. -/
def endingIn (lo hi : ℕ) (ends : List (ℕ × CPacket)) : List (ℕ × CPacket) :=
  ends.filter fun x => decide (lo < x.1 ∧ x.1 ≤ hi)

/-- `tcpseg` carries the octets `[lo, hi)` and the messages that end there. -/
structure CarriesMessages (ends : List (ℕ × CPacket)) (tcpseg : TCPSegment) (lo hi : ℕ) :
    Prop where
  sequenceNo : tcpseg.sequenceNo = serial lo
  payloadLength : tcpseg.payloadLength = hi - lo
  payloadList : tcpseg.payloadList = (endingIn lo hi ends).map payloadAt
  byteArray : tcpseg.byteArray = .empty

section Filters

variable {ends : List (ℕ × CPacket)} {start : ℕ}

/-- What the filters need of the messages: sorted, and ending within `2 ^ 31`
octets of the start. -/
structure EndsInOrder (start : ℕ) (ends : List (ℕ × CPacket)) : Prop where
  sorted : ends.Pairwise fun x y => x.1 < y.1
  bounds : ∀ x ∈ ends, start < x.1 ∧ x.1 ≤ start + 2147483648

variable (order : EndsInOrder start ends)
include order

lemma EndsInOrder.filter (p : ℕ × CPacket → Bool) : EndsInOrder start (ends.filter p) :=
  ⟨order.sorted.filter p, fun x mem => order.bounds x (List.mem_of_mem_filter mem)⟩

variable {p : ℕ × CPacket → Bool}

lemma EndsInOrder.dropWhile {n : ℕ} (test : ∀ x ∈ ends, p x = decide (x.1 ≤ n)) :
    ends.dropWhile p = ends.filter fun x => decide (n < x.1) := by
  rw [dropWhile_eq_filter]
  · refine List.filter_congr fun x mem => ?_
    grind
  · refine order.sorted.imp_of_mem fun {x y} xMem yMem lt later => ?_
    simp only [test x xMem, test y yMem, decide_eq_true_eq] at later ⊢
    omega

lemma EndsInOrder.takeWhile {n : ℕ} (test : ∀ x ∈ ends, p x = decide (x.1 ≤ n)) :
    ends.takeWhile p = ends.filter fun x => decide (x.1 ≤ n) := by
  rw [takeWhile_eq_filter]
  · exact List.filter_congr fun x mem => test x mem
  · refine order.sorted.imp_of_mem fun {x y} xMem yMem lt later => ?_
    simp only [test x xMem, test y yMem, decide_eq_true_eq] at later ⊢
    omega

lemma EndsInOrder.rdropWhile {n : ℕ} (test : ∀ x ∈ ends, p x = decide (n < x.1)) :
    ends.rdropWhile p = ends.filter fun x => decide (x.1 ≤ n) := by
  rw [rdropWhile_eq_filter]
  · refine List.filter_congr fun x mem => ?_
    grind
  · refine order.sorted.imp_of_mem fun {x y} xMem yMem lt earlier => ?_
    simp only [test x xMem, test y yMem, decide_eq_true_eq] at earlier ⊢
    omega

/-- Cutting `[lo, hi)` takes the messages that end in it. -/
lemma createSegmentWithBytes_carries {queue : MsgBasedSendQueue}
    (payloads : queue.payloadQueue = ends.map payloadAt) {lo hi : ℕ} (loGe : start ≤ lo)
    (lt : lo < hi) (hiLe : hi ≤ start + 2147483648) {seg : TCPSegment}
    (creates : queue.createSegmentWithBytes (serial lo) (hi - lo) = .ok seg) :
    CarriesMessages ends seg lo hi := by
  have toSeq : serial lo + serial (hi - lo) = serial hi := by
    rw [← serial_add]; congr 1; omega
  obtain ⟨-, created⟩ := of_assert_bind creates
  rw [toSeq] at created
  cases created
  refine ⟨rfl, rfl, ?_, rfl⟩
  simp only [payloads, List.dropWhile_map, List.takeWhile_map]
  rw [order.dropWhile (n := lo), (order.filter _).takeWhile (n := hi), List.filter_filter, endingIn]
  · simp only [Bool.decide_and, Bool.and_comm]
  · intro x mem
    have := order.bounds x (List.mem_of_mem_filter mem)
    simp only [Function.comp_apply, payloadAt,
      seqLE_serial (a := x.1) (b := hi) (by omega) (by omega)]
  · intro x mem
    have := order.bounds x mem
    simp only [Function.comp_apply, payloadAt,
      seqLE_serial (a := x.1) (b := lo) (by omega) (by omega)]

/-- Cutting octets off both ends leaves the messages that end in what is left. -/
lemma CarriesMessages.truncateData {seg : TCPSegment} {lo hi lo' hi' : ℕ}
    (carries : CarriesMessages ends seg lo hi) (loGe : start ≤ lo) (loLe : lo ≤ lo')
    (lt : lo' < hi') (hiLe : hi' ≤ hi) (hiEnd : hi ≤ start + 2147483648) :
    ∃ cut, seg.truncateData (serial (lo' - lo)) (serial (hi - hi')) = .ok cut ∧
      CarriesMessages ends cut lo' hi' := by
  have leftNat : (serial (lo' - lo)).toNat = lo' - lo := by rw [toNat_serial]; omega
  have sum : (serial (lo' - lo) + serial (hi - hi')).toNat = lo' - lo + (hi - hi') := by
    rw [← serial_add, toNat_serial]; omega
  have fits : (serial (lo' - lo) + serial (hi - hi')).toNat ≤ seg.payloadLength := by
    rw [sum, carries.payloadLength]; omega
  have begin_eq : seg.sequenceNo + serial (lo' - lo) = serial lo' := by
    rw [carries.sequenceNo, ← serial_add]; congr 1; omega
  have length_eq : seg.payloadLength - (serial (lo' - lo) + serial (hi - hi')).toNat =
      hi' - lo' := by
    rw [sum, carries.payloadLength]; omega
  have noBytes : ¬ seg.byteArray.getDataArraySize ≠ 0 := by rw [carries.byteArray]; decide
  simp only [TCPSegment.truncateData, assert_pos fits, if_neg noBytes, bind, Except.bind, pure,
    Except.pure, begin_eq, length_eq]
  refine ⟨_, rfl, rfl, rfl, ?_, carries.byteArray⟩
  have inSegment : ∀ x ∈ endingIn lo hi ends, lo < x.1 ∧ x.1 ≤ hi := fun x mem => by
    simpa using List.of_mem_filter mem
  simp only [carries.payloadList, carries.sequenceNo, List.dropWhile_map, rdropWhile_map]
  rw [endingIn, (order.filter _).dropWhile (n := lo'),
    ((order.filter _).filter _).rdropWhile (n := hi'), List.filter_filter, List.filter_filter,
    endingIn]
  · congr 1
    refine List.filter_congr fun x _ => ?_
    simp only [← Bool.decide_and]
    congr 1
    exact propext ⟨by omega, by omega⟩
  · intro x mem
    have above : lo' < x.1 := by simpa using List.of_mem_filter mem
    have inside := inSegment x (List.mem_of_mem_filter mem)
    refine decide_eq_decide.mpr ?_
    rw [payloadAt, toNat_serial_sub (by omega) (by omega)]
    omega
  · intro x mem
    have inside := inSegment x mem
    refine decide_eq_decide.mpr ?_
    rw [payloadAt, UInt32.le_iff_toNat_le, leftNat, toNat_serial_sub (by omega) (by omega)]
    omega

/-- A segment that `truncateSegment` accepts for a nonempty window keeps a
nonempty range starting at or above `rcv_nxt`. -/
lemma CarriesMessages.truncateSegment {seg cut : TCPSegment} {lo hi next : ℕ} {wnd : UInt32}
    (carries : CarriesMessages ends seg lo hi) (loGe : start ≤ lo) (lt : lo < hi)
    (hiEnd : hi ≤ start + 2147483648) (nextGe : start ≤ next) (nextLe : next ≤ start + 2147483648)
    (opened : wnd ≠ 0)
    (truncates : seg.truncateSegment (serial next) (serial next + wnd) = .ok cut) :
    ∃ hi', max lo next < hi' ∧ hi' ≤ hi ∧ CarriesMessages ends cut (max lo next) hi' := by
  have wndPos : 0 < wnd.toNat := by
    rcases Nat.eq_zero_or_pos wnd.toNat with zero | pos
    · exact absurd (UInt32.toNat_inj.mp zero) opened
    · exact pos
  have wndLt := wnd.toNat_lt
  have hi_eq : seg.endSequenceNo = serial hi := by
    rw [TCPSegment.endSequenceNo, carries.sequenceNo, carries.payloadLength, ← serial_add]
    congr 1; omega
  have wndEnd : serial next + wnd = serial (next + wnd.toNat) := by rw [serial_add, serial_toNat]
  obtain ⟨-, truncates⟩ := of_assert_bind truncates
  split at truncates
  · cases truncates
  case isFalse common =>
  rw [not_not, carries.sequenceNo, hi_eq] at common
  obtain ⟨beforeEnd, afterFirst⟩ := common
  have nextLt : next < hi := lt_of_seqLess_serial (by omega) (by omega) afterFirst
  have left_eq : seg.truncleft (serial next) = serial (max lo next - lo) := by
    rw [TCPSegment.truncleft, carries.sequenceNo]
    by_cases low : lo < next
    · rw [if_pos ((seqLess_serial (by omega) (by omega)).mpr low), ← serial_sub (by omega),
        max_eq_right (by omega)]
    · rw [if_neg (mt (lt_of_seqLess_serial (by omega) (by omega)) low), max_eq_left (by omega),
        Nat.sub_self]
      rfl
  by_cases beyond : seqGreater seg.endSequenceNo (serial next + wnd)
  · have right_eq : seg.truncright (serial next + wnd) = serial hi - serial (next + wnd.toNat) := by
      rw [TCPSegment.truncright, if_pos beyond, hi_eq, wndEnd]
    rw [hi_eq, wndEnd] at beyond
    have rightLt := UInt32.lt_iff_toNat_lt.mp beyond.2
    have rightPos : serial hi ≠ serial (next + wnd.toNat) := beyond.1
    have rightNat : (serial hi - serial (next + wnd.toNat)).toNat =
        (4294967296 - (next + wnd.toNat) % 4294967296 + hi % 4294967296) % 4294967296 := by
      rw [UInt32.toNat_sub, toNat_serial, toNat_serial]
    -- The assertion of `truncateData` rules out a window so large that its end wraps.
    have fits : (seg.truncleft (serial next) + seg.truncright (serial next + wnd)).toNat ≤
        seg.payloadLength := (of_assert_bind truncates).1
    have half : (2147483648 : UInt32).toNat = 2147483648 := rfl
    rw [left_eq, right_eq, UInt32.toNat_add, rightNat, toNat_serial, carries.payloadLength] at fits
    have differ : next + wnd.toNat ≠ hi := fun same => rightPos (by rw [same])
    have beforeEnd' : lo < next + wnd.toNat := by
      rw [wndEnd] at beforeEnd
      exact lt_of_seqLess_serial (by omega) (by omega) beforeEnd
    obtain ⟨cut', truncates', carries'⟩ := carries.truncateData order loGe
      (le_max_left lo next) (by omega : max lo next < next + wnd.toNat) (by omega) hiEnd
    rw [left_eq, right_eq, ← serial_sub (by omega), truncates'] at truncates
    cases truncates
    exact ⟨_, by omega, by omega, carries'⟩
  · have right_eq : seg.truncright (serial next + wnd) = serial (hi - hi) := by
      rw [TCPSegment.truncright, if_neg beyond, Nat.sub_self]
      rfl
    obtain ⟨cut', truncates', carries'⟩ := carries.truncateData order loGe
      (le_max_left lo next) (by omega : max lo next < hi) le_rfl hiEnd
    rw [left_eq, right_eq, truncates'] at truncates
    cases truncates
    exact ⟨hi, by omega, le_rfl, carries'⟩

omit order

/-! ### The payload list of the receiver -/

variable {payloads : List TCPPayloadMessage}

lemma MsgBasedRcvQueue.insertPayloads_skip {passed rest : List PayloadItem} {item : PayloadItem}
    (before : ∀ payload ∈ payloads.head?, seqLess item.seqNo payload.endSequenceNo) :
    insertPayloads payloads passed (item :: rest) =
      insertPayloads payloads (passed ++ [item]) rest := by
  cases payloads with
  | nil => simp [insertPayloads]
  | cons payload payloads =>
    have less := before payload rfl
    simp only [insertPayloads]
    rw [List.takeWhile_cons_of_pos (by simpa using less),
      List.dropWhile_cons_of_pos (by simpa using less)]
    simp only [List.append_assoc, List.singleton_append]

lemma MsgBasedRcvQueue.iterator_stays {endSequenceNo : UInt32} {rest : List PayloadItem}
    (behind : ∀ item ∈ rest.head?, ¬ seqLess item.seqNo endSequenceNo) :
    rest.takeWhile (fun item => decide (seqLess item.seqNo endSequenceNo)) = [] ∧
      rest.dropWhile (fun item => decide (seqLess item.seqNo endSequenceNo)) = rest := by
  cases rest with
  | nil => exact ⟨rfl, rfl⟩
  | cons item rest =>
    have stays : ¬ decide (seqLess item.seqNo endSequenceNo) = true := by
      simpa using behind item rfl
    exact ⟨List.takeWhile_cons_of_neg stays, List.dropWhile_cons_of_neg stays⟩

lemma MsgBasedRcvQueue.insertPayloads_duplicate {payload : TCPPayloadMessage}
    {passed rest : List PayloadItem} {item : PayloadItem}
    (same : item.seqNo = payload.endSequenceNo) :
    insertPayloads (payload :: payloads) passed (item :: rest) =
      insertPayloads payloads passed (item :: rest) := by
  have behind : ∀ front ∈ (item :: rest).head?, ¬ seqLess front.seqNo payload.endSequenceNo := by
    simp [same]
  obtain ⟨take, drop⟩ := iterator_stays behind
  rw [insertPayloads, take, drop, List.append_nil]
  exact if_pos (by simp [same])

lemma MsgBasedRcvQueue.insertPayloads_new {payload : TCPPayloadMessage}
    {passed rest : List PayloadItem}
    (behind : ∀ item ∈ rest.head?, ¬ seqLess item.seqNo payload.endSequenceNo ∧
      item.seqNo ≠ payload.endSequenceNo)
    (sorted : ∀ front ∈ (passed ++ ⟨payload.endSequenceNo, payload.msg⟩ :: rest).head?,
      ∀ back ∈ (passed ++ ⟨payload.endSequenceNo, payload.msg⟩ :: rest).getLast?,
      seqLE front.seqNo back.seqNo) :
    insertPayloads (payload :: payloads) passed rest =
      insertPayloads payloads passed (⟨payload.endSequenceNo, payload.msg⟩ :: rest) := by
  obtain ⟨take, drop⟩ := iterator_stays fun item head => (behind item head).1
  have differs : rest.head?.map PayloadItem.seqNo ≠ some payload.endSequenceNo := by
    intro same
    obtain ⟨item, head, eq⟩ := Option.map_eq_some_iff.mp same
    exact (behind item head).2 eq
  rw [insertPayloads, take, drop, List.append_nil]
  simp only [if_neg differs, assert_pos sorted, bind, Except.bind]

lemma EndsInOrder.seqLess_iff (order : EndsInOrder start ends) {x y : ℕ × CPacket}
    (xMem : x ∈ ends) (yMem : y ∈ ends) : seqLess (serial x.1) (serial y.1) ↔ x.1 < y.1 := by
  have := order.bounds x xMem
  have := order.bounds y yMem
  exact seqLess_serial (by omega) (by omega)

lemma EndsInOrder.tail {x : ℕ × CPacket} (order : EndsInOrder start (x :: ends)) :
    EndsInOrder start ends :=
  ⟨order.sorted.of_cons, fun y mem => order.bounds y (List.mem_cons_of_mem _ mem)⟩

lemma EndsInOrder.front_le_back (order : EndsInOrder start ends) {items : List PayloadItem}
    (items_eq : items = ends.map itemAt) :
    ∀ front ∈ items.head?, ∀ back ∈ items.getLast?, seqLE front.seqNo back.seqNo := by
  subst items_eq
  intro front frontHead back backLast
  cases ends with
  | nil => cases frontHead
  | cons x ends =>
    cases frontHead
    obtain ⟨y, mem, rfl⟩ := List.mem_map.mp (List.mem_of_mem_getLast? backLast)
    have := order.bounds x List.mem_cons_self
    have := order.bounds y mem
    refine (seqLE_serial (by omega) (by omega)).mpr ?_
    rcases List.mem_cons.mp mem with rfl | mem
    · exact le_rfl
    · exact le_of_lt ((List.pairwise_cons.mp order.sorted).1 y mem)

/-- Inserting the messages selected by `Q` next to those selected by `P` leaves
the messages selected by either, none of them twice. -/
lemma insertPayloads_eq {passed : List (ℕ × CPacket)}
    (order : EndsInOrder start (passed ++ ends)) (P Q : ℕ × CPacket → Bool) :
    MsgBasedRcvQueue.insertPayloads ((ends.filter Q).map payloadAt) (passed.map itemAt)
        ((ends.filter P).map itemAt) =
      .ok ((passed ++ ends.filter fun x => P x || Q x).map itemAt) := by
  induction ends generalizing passed with
  | nil => simp [MsgBasedRcvQueue.insertPayloads]
  | cons x ends ih =>
    have order' : EndsInOrder start (passed ++ [x] ++ ends) := by
      simpa only [List.append_assoc, List.singleton_append] using order
    have advance := ih order'
    rw [List.map_append, List.map_singleton] at advance
    have xMem : x ∈ passed ++ x :: ends := List.mem_append_right _ List.mem_cons_self
    have later : ∀ y ∈ ends, x.1 < y.1 :=
      (List.pairwise_cons.mp (List.pairwise_append.mp order.sorted).2.1).1
    have yMem : ∀ y ∈ ends, y ∈ passed ++ x :: ends := fun y mem =>
      List.mem_append_right _ (List.mem_cons_of_mem _ mem)
    -- Once `x` has its place, the iterator steps over it.
    have skip : MsgBasedRcvQueue.insertPayloads ((ends.filter Q).map payloadAt)
          (passed.map itemAt) (itemAt x :: (ends.filter P).map itemAt) =
        .ok ((passed ++ [x] ++ ends.filter fun x => P x || Q x).map itemAt) := by
      rw [MsgBasedRcvQueue.insertPayloads_skip, advance]
      intro payload head
      obtain ⟨y, mem, rfl⟩ := List.mem_map.mp (List.mem_of_mem_head? head)
      have mem := List.mem_of_mem_filter mem
      exact (order.seqLess_iff xMem (yMem y mem)).mpr (later y mem)
    by_cases old : P x
    · by_cases new : Q x
      · simp only [List.filter_cons_of_pos old, List.filter_cons_of_pos new, List.map_cons]
        rw [MsgBasedRcvQueue.insertPayloads_duplicate (by simp [itemAt, payloadAt]), skip,
          List.filter_cons_of_pos (by simp [old])]
        simp
      · simp only [List.filter_cons_of_pos old, List.filter_cons_of_neg new, List.map_cons]
        rw [skip, List.filter_cons_of_pos (by simp [old])]
        simp
    · by_cases new : Q x
      · simp only [List.filter_cons_of_neg old, List.filter_cons_of_pos new, List.map_cons]
        have behind : ∀ item ∈ ((ends.filter P).map itemAt).head?,
            ¬ seqLess item.seqNo (payloadAt x).endSequenceNo ∧
              item.seqNo ≠ (payloadAt x).endSequenceNo := by
          intro item head
          obtain ⟨y, mem, rfl⟩ := List.mem_map.mp (List.mem_of_mem_head? head)
          have mem := List.mem_of_mem_filter mem
          have lt := later y mem
          have less := (order.seqLess_iff xMem (yMem y mem)).mpr lt
          exact ⟨fun before => not_seqLE_of_seqLess less (seqLE_of_seqLess before),
            fun same => less.1 same.symm⟩
        have inOrder : EndsInOrder start (passed ++ x :: ends.filter P) :=
          ⟨order.sorted.sublist (List.Sublist.append_left
            (List.Sublist.cons_cons x List.filter_sublist) _), fun y mem => order.bounds y (by
              rcases List.mem_append.mp mem with mem | mem
              · exact List.mem_append_left _ mem
              · rcases List.mem_cons.mp mem with rfl | mem
                · exact xMem
                · exact yMem y (List.mem_of_mem_filter mem))⟩
        refine (MsgBasedRcvQueue.insertPayloads_new behind
          (inOrder.front_le_back (by simp [itemAt, payloadAt]))).trans (skip.trans ?_)
        rw [List.filter_cons_of_pos (by simp [new])]
        simp
      · simp only [List.filter_cons_of_neg old, List.filter_cons_of_neg new]
        rw [List.filter_cons_of_neg (by simp [old, new])]
        have order'' : EndsInOrder start (passed ++ ends) :=
          ⟨order.sorted.sublist (List.Sublist.append_left (List.sublist_cons_self _ _) _),
            fun y mem => order.bounds y (by
              rcases List.mem_append.mp mem with mem | mem
              · exact List.mem_append_left _ mem
              · exact yMem y mem)⟩
        exact ih order''

end Filters

/-! ## Extraction -/

section Extraction

variable {start taken next : ℕ} {received : Set ℕ} {spans : List (Span ℕ)}
  {rs : VirtualDataRcvQueue Region} {items : List (ℕ × CPacket)}

variable (represents : rs.Represents Region.reading spans next)
include represents

variable (reassembly : Reassembly start taken next received spans)
include reassembly

variable (spansIn : ∀ t ∈ spans, t.Within start (start + 2147483648))
include spansIn

variable (nextLe : next ≤ start + 2147483648)
include nextLe

lemma extractBytesUpTo_message {x : ℕ × CPacket} (pending : taken < x.1) (complete : x.1 ≤ next) :
    ∃ rs', MsgBasedRcvQueue.extractBytesUpTo ⟨rs, (x :: items).map itemAt⟩
        rs.rcvNxt = .ok (some x.2, ⟨rs', items.map itemAt⟩) ∧
      rs'.Represents Region.reading (SpanList.cutFirst x.1 spans) next ∧
      Reassembly start x.1 next received (SpanList.cutFirst x.1 spans) := by
  have startLe := reassembly.start_le
  have limit : MsgBasedRcvQueue.extractLimit ⟨rs, (x :: items).map itemAt⟩ rs.rcvNxt =
      serial x.1 := by
    simp only [MsgBasedRcvQueue.extractLimit, List.map_cons, List.head?_cons, itemAt,
      represents.rcvNxt, seqLess_serial (a := x.1) (b := next) (by omega) (by omega)]
    split
    · rfl
    · congr 1; omega
  obtain ⟨takes, cut⟩ := reassembly.take (le_of_lt pending) complete
  obtain ⟨reg, rs', extracts, represents', extracted⟩ := represents.extractTo spansIn
    (by omega : start ≤ x.1) complete nextLe (by omega)
  rw [takes, dif_pos pending] at extracted
  cases extracted with
  | @some reg span rep =>
    have last : (itemAt x).seqNo = reg.end := rep.2.symm
    refine ⟨rs', ?_, represents', cut⟩
    rw [MsgBasedRcvQueue.extractBytesUpTo, limit]
    simp only [extracts, bind, Except.bind, List.map_cons, if_pos last]
    rfl

lemma extractBytesUpTo_none (order : EndsInOrder start items) (later : ∀ x ∈ items, next < x.1) :
    ∃ rs', MsgBasedRcvQueue.extractBytesUpTo ⟨rs, items.map itemAt⟩
        rs.rcvNxt = .ok (none, ⟨rs', items.map itemAt⟩) ∧
      rs'.Represents Region.reading (SpanList.cutFirst next spans) next ∧
      Reassembly start next next received (SpanList.cutFirst next spans) := by
  have startLe := reassembly.start_le
  have takenLe := reassembly.taken_le
  have limit : MsgBasedRcvQueue.extractLimit ⟨rs, items.map itemAt⟩ rs.rcvNxt = serial next := by
    rw [MsgBasedRcvQueue.extractLimit, represents.rcvNxt]
    cases items with
    | nil => rfl
    | cons x items =>
      have := order.bounds x List.mem_cons_self
      have := later x List.mem_cons_self
      simp only [List.map_cons, List.head?_cons, itemAt,
        seqLess_serial (a := x.1) (b := next) (by omega) (by omega)]
      rw [if_neg (by omega)]
  obtain ⟨takes, cut⟩ := reassembly.take takenLe le_rfl
  obtain ⟨reg, rs', extracts, represents', extracted⟩ := represents.extractTo spansIn
    (by omega : start ≤ next) le_rfl nextLe (by omega)
  refine ⟨rs', ?_, represents', cut⟩
  rw [MsgBasedRcvQueue.extractBytesUpTo, limit]
  simp only [extracts, bind, Except.bind]
  -- What was taken ends at `next`, where no pending message ends.
  have differs : ∀ reg' ∈ reg, ∀ x ∈ items, (itemAt x).seqNo ≠ reg'.end := by
    intro reg' some x mem same
    have := order.bounds x mem
    have := later x mem
    rw [Option.mem_def.mp some, takes] at extracted
    split at extracted
    · cases extracted with
      | some rep =>
        have same : serial x.1 = serial next := same.trans rep.2
        rw [serial_inj (by omega) (by omega)] at same
        omega
    · cases extracted
  cases reg with
  | none => rfl
  | some reg =>
    cases items with
    | nil => rfl
    | cons x items => simp only [List.map_cons, if_neg (differs reg rfl x List.mem_cons_self)]; rfl

/-- The messages in `items` up to `next` are handed out, the others kept, and everything below
`next` is taken out of the regions. -/
def Drained (start next : ℕ) (received : Set ℕ) (items : List (ℕ × CPacket))
    (result : Except TcpError (List CPacket × MsgBasedRcvQueue)) : Prop :=
  ∃ regions spans, result =
      .ok ((items.filter fun x => decide (x.1 ≤ next)).map Prod.snd,
        ⟨regions, (items.filter fun x => decide (next < x.1)).map itemAt⟩) ∧
    regions.Represents Region.reading spans next ∧ Reassembly start next next received spans ∧
    ∀ t ∈ spans, t.Within start (start + 2147483648)

omit nextLe in
omit reassembly in
omit represents in
lemma within_cutFirst {upTo : ℕ}
    (cut : Reassembly start upTo next received (SpanList.cutFirst upTo spans)) :
    ∀ t ∈ SpanList.cutFirst upTo spans, t.Within start (start + 2147483648) := by
  intro t mem
  have covered := (cut.mem_cover t.lo).mp (mem_cover_of_mem mem le_rfl t.lo_lt_hi)
  exact ⟨cut.start_le.trans covered.2, SpanList.hi_le_of_mem_cutFirst spansIn mem⟩

lemma extractAll_none {fuel : ℕ} (order : EndsInOrder start items)
    (later : ∀ x ∈ items, next < x.1) :
    Drained start next received items
      (MsgBasedRcvQueue.extractAll (fuel + 1) ⟨rs, items.map itemAt⟩) := by
  obtain ⟨rs', extracts, represents', cut⟩ :=
    extractBytesUpTo_none represents reassembly spansIn nextLe order later
  refine ⟨rs', _, ?_, represents', cut, within_cutFirst spansIn cut⟩
  rw [List.filter_eq_nil_iff.mpr (by simpa using later),
    List.filter_eq_self.mpr (by simpa using later)]
  simp only [MsgBasedRcvQueue.extractAll, extracts, bind, Except.bind]
  rfl

/-- The caller's loop hands out, in order, the pending messages that end at or
below `rcv_nxt`. -/
lemma extractAll_drained {fuel : ℕ} (order : EndsInOrder start items)
    (pending : ∀ x ∈ items, taken < x.1) (enough : items.length < fuel) :
    Drained start next received items
      (MsgBasedRcvQueue.extractAll fuel ⟨rs, items.map itemAt⟩) := by
  obtain ⟨fuel, rfl⟩ := Nat.exists_eq_succ_of_ne_zero (by omega : fuel ≠ 0)
  induction items generalizing taken spans rs fuel with
  | nil => exact extractAll_none represents reassembly spansIn nextLe order (by simp)
  | cons x items ih =>
    have sorted := List.pairwise_cons.mp order.sorted
    by_cases complete : x.1 ≤ next
    · obtain ⟨rs', extracts, represents', cut⟩ := extractBytesUpTo_message represents
        reassembly spansIn nextLe (pending x List.mem_cons_self) complete
      have rest : items.length < fuel := by simpa using enough
      obtain ⟨fuel, rfl⟩ := Nat.exists_eq_succ_of_ne_zero (by omega : fuel ≠ 0)
      obtain ⟨rs'', spans'', extractsAll, result⟩ := ih represents' cut
        (within_cutFirst spansIn cut) order.tail sorted.1 fuel rest
      refine ⟨rs'', spans'', ?_, result⟩
      rw [List.filter_cons_of_pos (by simpa using complete),
        List.filter_cons_of_neg (by simpa using complete)]
      rw [MsgBasedRcvQueue.extractAll, extracts]
      simp only [bind, Except.bind]
      rw [extractsAll]
      rfl
    · refine extractAll_none represents reassembly spansIn nextLe order ?_
      refine List.forall_mem_cons.mpr ⟨not_le.mp complete, fun y mem => ?_⟩
      exact lt_trans (not_le.mp complete) (sorted.1 y mem)

end Extraction

end Inet.Tcp
