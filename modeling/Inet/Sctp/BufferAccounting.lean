import Inet.Sctp.QueuedChunks

/-!
# The accounts of the receive buffer

`queuedReceivedBytes` and `bufferedMessages` count the bytes of the chunks in all queues, and those
chunks that are whole messages.
-/

namespace Inet.Sctp

open Receiver SCTPQueue Option Inet.Except Finset

/-- A message, from its first to its last fragment. -/
def SCTPDataVariables.whole (chunk : SCTPDataVariables) : Bool := chunk.bbit && chunk.ebit

/-- The measure of the one counter: bytes. -/
def bytes (chunk : SCTPDataVariables) : ℕ := chunk.len.toNat / 8

/-- The measure of the other: messages. -/
def messages (chunk : SCTPDataVariables) : ℕ := if chunk.whole then 1 else 0

variable {queue queue' : SCTPQueue} {chunk dchunk : SCTPDataVariables} {K : Set UInt32}
  {tsn key : UInt32} {rs rs' : SCTPReceiveStream}

/-! ## The fragments of a message -/

namespace SCTPQueue

/-- The TSN at which the search for the first fragment ends. -/
def firstTsn (queue : SCTPQueue) (tsn : UInt32) : UInt32 := queue.walkDown queue.size tsn

/-- The TSN at which the search for the last fragment ends. -/
def lastTsn (queue : SCTPQueue) (tsn : UInt32) : UInt32 :=
  queue.walkUp queue.size (queue.firstTsn tsn)

/-- Both searches are successful. -/
def allFragments (queue : SCTPQueue) (tsn : UInt32) : Bool :=
  (queue.getChunk (queue.firstTsn tsn)).isSome && (queue.getChunk (queue.lastTsn tsn)).isSome

/-- The bits of the chunks between two TSNs. -/
def bitsBetween (queue : SCTPQueue) (first last : UInt32) : ℕ :=
  queue.total fun chunk => if first ≤ chunk.tsn ∧ chunk.tsn ≤ last then chunk.len.toNat else 0

/-- The queue does not hold all TSNs, those of the fragments do not wrap, no chunk between them is a
message of its own, and their length fits. -/
structure Joinable (queue : SCTPQueue) (tsn : UInt32) : Prop where
  size : queue.size < 4294967296
  ascending : queue.firstTsn tsn ≤ queue.lastTsn tsn
  bounded : queue.lastTsn tsn ≠ 0xffffffff
  fragments : ∀ e ∈ queue, queue.firstTsn tsn ≤ e.1 → e.1 ≤ queue.lastTsn tsn → ¬ e.2.whole
  short : queue.bitsBetween (queue.firstTsn tsn) (queue.lastTsn tsn) < 4294967296

end SCTPQueue

lemma walkDown_present {steps : ℕ} {t : UInt32}
    (found : queue.getChunk (queue.walkDown steps t) = some chunk) (more : chunk.bbit = false) :
    ∀ i ≤ steps, (queue.getChunk (t - UInt32.ofNat i)).isSome := by
  induction steps generalizing t with
  | zero =>
    rintro i le
    obtain rfl := Nat.le_zero.mp le
    rw [walkDown] at found
    rw [show t - UInt32.ofNat 0 = t from UInt32.sub_zero t, found]
    rfl
  | succ steps ih =>
    rw [walkDown] at found
    cases here : queue.getChunk t with
    | none =>
      rw [here] at found
      rw [here] at found
      cases found
    | some c =>
      rw [here] at found
      dsimp only at found
      split_ifs at found with begins
      · rw [here] at found
        cases found
        rw [more] at begins
        cases begins
      · intro i le
        cases i with
        | zero =>
          rw [show t - UInt32.ofNat 0 = t from UInt32.sub_zero t, here]
          rfl
        | succ i =>
          have rest := ih found i (by omega)
          rwa [show t - UInt32.ofNat (i + 1) = t - 1 - UInt32.ofNat i by
            rw [← UInt32.toNat_inj]
            simp only [UInt32.toNat_sub, UInt32.toNat_ofNat', UInt32.toNat_one]
            omega]

lemma firstTsn_bbit (size : queue.size < 4294967296)
    (found : queue.getChunk (queue.firstTsn tsn) = some chunk) : chunk.bbit = true := by
  by_contra more
  have present := walkDown_present found (Bool.eq_false_of_not_eq_true more)
  have inKeys (i : ℕ) (mem : i ∈ Finset.range (queue.size + 1)) :
      tsn - UInt32.ofNat i ∈ (queue.entries.map Prod.fst).toFinset := by
    obtain ⟨c, found⟩ := OrderedMap.get?_isSome.mp
      (present i (Nat.lt_succ_iff.mp (mem_range.mp mem)))
    exact List.mem_toFinset.mpr (List.mem_map_of_mem found)
  have apart : Set.InjOn (fun i => tsn - UInt32.ofNat i) (Finset.range (queue.size + 1)) := by
    intro i memI j memJ eq
    have ltI := mem_range.mp memI
    have ltJ := mem_range.mp memJ
    have eq' := congrArg UInt32.toNat eq
    simp only [UInt32.toNat_sub, UInt32.toNat_ofNat'] at eq'
    omega
  have le := card_le_card_of_injOn _ inKeys apart
  have few := (List.toFinset_card_le (queue.entries.map Prod.fst)).trans_eq (List.length_map _)
  rw [card_range] at le
  exact absurd (le.trans few) (Nat.not_succ_le_self _)

/-- The lengths are whole numbers of bytes. -/
def Eighths (queue : SCTPQueue) : Prop := ∀ e ∈ queue, 8 ∣ e.2.len.toNat

lemma Eighths.erase (eighths : Eighths queue) (key : UInt32) : Eighths (queue.erase key) :=
  fun e mem => eighths e (OrderedMap.mem_erase.mp mem).1

lemma Eighths.put (eighths : Eighths queue) (fits : 8 ∣ chunk.len.toNat) :
    Eighths (queue.put key chunk) := by
  intro e mem
  rcases OrderedMap.mem_put.mp mem with rfl | ⟨mem, -⟩
  · exact fits
  · exact eighths e mem

lemma checkAndInsertChunk_new (new : queue.getChunk key = none) (chunk : SCTPDataVariables) :
    queue.checkAndInsertChunk key chunk = (true, queue.put key chunk) := by
  rw [checkAndInsertChunk]
  rw [getChunk] at new
  rw [new]
  rfl

lemma total_put_new (new : queue.getChunk key = none) (chunk : SCTPDataVariables)
    (w : SCTPDataVariables → ℕ) : (queue.put key chunk).total w = w chunk + queue.total w :=
  OrderedMap.total_put w (OrderedMap.get?_eq_none.mp new)

lemma total_get (found : queue.getChunk key = some chunk) (w : SCTPDataVariables → ℕ) :
    queue.total w = w chunk + (queue.erase key).total w :=
  OrderedMap.total_erase w (OrderedMap.get?_eq_some.mp found)

lemma total_replace (found : queue.getChunk key = some chunk) (w : SCTPDataVariables → ℕ)
    (chunk' : SCTPDataVariables) :
    (queue.put key chunk').total w + w chunk = w chunk' + queue.total w := by
  have same : queue.put key chunk' = (queue.erase key).put key chunk' := by
    refine OrderedMap.ext_mem fun e => ?_
    rw [OrderedMap.mem_put, OrderedMap.mem_put, OrderedMap.mem_erase, and_assoc, and_self]
  have absent : getChunk (queue.erase key) key = none :=
    OrderedMap.get?_eq_none.mpr fun v mem => (OrderedMap.mem_erase.mp mem).2 rfl
  rw [same, total_put_new absent, total_get found]
  omega

/-! ## Joining fragments -/

lemma bitsBetween_le {first first' last : UInt32} (le : first ≤ first') :
    queue.bitsBetween first' last ≤ queue.bitsBetween first last := by
  refine List.sum_le_sum fun e _ => ?_
  dsimp only
  split_ifs with inner outer
  · exact le_rfl
  · exact absurd ⟨le.trans inner.1, inner.2⟩ outer
  · exact Nat.zero_le _
  · exact le_rfl

lemma toNat_succ {begintsn endtsn : UInt32} (le : begintsn ≤ endtsn)
    (bounded : endtsn ≠ 0xffffffff) : (begintsn + 1).toNat = begintsn.toNat + 1 := by
  have one : (1 : UInt32).toNat = 1 := rfl
  have last : (0xffffffff : UInt32).toNat = 4294967295 := rfl
  have lt := endtsn.toNat_lt
  rw [UInt32.le_iff_toNat_le] at le
  rw [Ne, ← UInt32.toNat_inj, last] at bounded
  rw [UInt32.toNat_add, one]
  omega

lemma addFragments_totals {endtsn begintsn : UInt32} {firstVar firstVar' : SCTPDataVariables}
    {rounds : ℕ} (files : Files queue K) (eighths : Eighths queue)
    (fits : 8 ∣ firstVar.len.toNat) (bounded : endtsn ≠ 0xffffffff) (le : begintsn ≤ endtsn)
    (fragments : ∀ e ∈ queue, begintsn < e.1 → e.1 ≤ endtsn → ¬ e.2.whole)
    (short : firstVar.len.toNat + queue.bitsBetween (begintsn + 1) endtsn < 4294967296)
    (ok : SCTPQueue.addFragments endtsn rounds begintsn firstVar queue = .ok (firstVar', queue')) :
    bytes firstVar' + queue'.total bytes = bytes firstVar + queue.total bytes ∧
      queue'.total messages = queue.total messages ∧ Eighths queue' ∧ 8 ∣ firstVar'.len.toNat ∧
      firstVar'.bbit = firstVar.bbit ∧ (∀ e ∈ queue', e ∈ queue) ∧
      ∀ e ∈ queue, e.1 ≤ begintsn → e ∈ queue' := by
  induction rounds generalizing begintsn firstVar queue K with
  | zero =>
    rw [SCTPQueue.addFragments] at ok
    split_ifs at ok
    cases ok
    exact ⟨rfl, rfl, eighths, fits, rfl, fun e mem => mem, fun e mem _ => mem⟩
  | succ rounds ih =>
    rw [SCTPQueue.addFragments] at ok
    split_ifs at ok with more
    · obtain ⟨extracted, found, rest⟩ := bind_eq_ok ok
      cases extracted with
      | none => cases rest
      | some pair =>
        obtain ⟨processVar, rest'⟩ := pair
        obtain ⟨added, ok', rest⟩ := bind_eq_ok rest
        obtain ⟨here, rfl⟩ := getAndExtractChunk_some found
        have mem := OrderedMap.get?_eq_some.mp here
        have next := toNat_succ le bounded
        have next' := toNat_succ more bounded
        have same := (files _ mem).1
        have fitsP := eighths _ mem
        have notWhole := fragments _ mem
          (by rw [UInt32.lt_iff_toNat_lt, next]; exact Nat.lt_succ_self _) more
        have split := total_get here
        have shorter : queue.bitsBetween (begintsn + 1) endtsn =
            processVar.len.toNat + bitsBetween (queue.erase (begintsn + 1)) (begintsn + 1) endtsn := by
          rw [bitsBetween, split, same, if_pos ⟨le_rfl, more⟩]
          rfl
        have len : (firstVar.len + processVar.len).toNat =
            firstVar.len.toNat + processVar.len.toNat := by
          rw [UInt32.toNat_add]
          omega
        obtain ⟨userData, -, rest'⟩ := bind_eq_ok ok'
        cases rest'
        have narrow : bitsBetween (queue.erase (begintsn + 1)) (begintsn + 1 + 1) endtsn ≤
            bitsBetween (queue.erase (begintsn + 1)) (begintsn + 1) endtsn :=
          bitsBetween_le (by rw [UInt32.le_iff_toNat_le]; omega)
        obtain ⟨totalBytes, totalMessages, eighths', fits', bbit, only, kept⟩ :=
          ih (files.erase _) (eighths.erase _) (by dsimp only; rw [len]; exact fits.add fitsP) more
            (fun e mem' above upTo => fragments e (OrderedMap.mem_erase.mp mem').1
              (by rw [UInt32.lt_iff_toNat_lt] at above ⊢; omega) upTo)
            (by dsimp only; omega) rest
        refine ⟨?_, ?_, eighths', fits', bbit, fun e mem' =>
          (OrderedMap.mem_erase.mp (only e mem')).1, fun e mem' upTo => kept e ?_ ?_⟩
        · rw [totalBytes, split bytes, bytes, bytes, bytes]
          rw [len]
          omega
        · rw [totalMessages, split messages, messages, if_neg notWhole, Nat.zero_add]
        · refine OrderedMap.mem_erase.mpr ⟨mem', ?_⟩
          rintro eq
          rw [eq, UInt32.le_iff_toNat_le] at upTo
          omega
        · rw [UInt32.le_iff_toNat_le] at upTo ⊢
          omega
    · cases ok
      exact ⟨rfl, rfl, eighths, fits, rfl, fun e mem => mem, fun e mem _ => mem⟩

lemma reassemble_totals (files : Files queue K) (eighths : Eighths queue)
    (joinable : queue.allFragments tsn = true → queue.Joinable tsn)
    (ok : queue.reassemble tsn = .ok (key, queue')) :
    queue'.total bytes = queue.total bytes ∧ Eighths queue' ∧
      if queue.allFragments tsn then
        queue'.total messages = queue.total messages + 1 ∧
          ∃ c, getChunk queue' key = some c ∧ c.whole = true
      else queue' = queue ∧ key = tsn := by
  rw [SCTPQueue.reassemble] at ok
  dsimp only at ok
  rw [← firstTsn] at ok
  cases first : queue.getChunk (queue.firstTsn tsn) with
  | none =>
    rw [first] at ok
    cases ok
    rw [allFragments, first, isSome_none, Bool.false_and, if_neg Bool.false_ne_true]
    exact ⟨rfl, eighths, rfl, rfl⟩
  | some firstVar =>
    rw [first] at ok
    rw [← lastTsn] at ok
    cases last : queue.getChunk (queue.lastTsn tsn) with
    | none =>
      rw [last] at ok
      cases ok
      rw [allFragments, last, isSome_none, Bool.and_false, if_neg Bool.false_ne_true]
      exact ⟨rfl, eighths, rfl, rfl⟩
    | some lastVar =>
      rw [last] at ok
      obtain ⟨⟨firstVar', rest'⟩, ok', rest⟩ := bind_eq_ok ok
      cases rest
      have all : queue.allFragments tsn = true := by
        rw [allFragments, first, last]
        rfl
      obtain ⟨size, ascending, bounded, fragments, short⟩ := joinable all
      have mem := OrderedMap.get?_eq_some.mp first
      have same := (files _ mem).1
      have notWhole := fragments _ mem le_rfl ascending
      have begins := firstTsn_bbit size first
      have next := toNat_succ ascending bounded
      have above : queue.firstTsn tsn ≤ queue.firstTsn tsn + 1 := by
        rw [UInt32.le_iff_toNat_le]
        omega
      have beyond : ¬ queue.firstTsn tsn + 1 ≤ queue.firstTsn tsn := by
        rw [UInt32.le_iff_toNat_le]
        omega
      have wide : queue.bitsBetween (queue.firstTsn tsn) (queue.lastTsn tsn) =
          firstVar.len.toNat + bitsBetween (queue.erase (queue.firstTsn tsn))
            (queue.firstTsn tsn) (queue.lastTsn tsn) := by
        rw [bitsBetween, total_get first, same, if_pos ⟨le_rfl, ascending⟩]
        rfl
      have narrow : queue.bitsBetween (queue.firstTsn tsn + 1) (queue.lastTsn tsn) =
          bitsBetween (queue.erase (queue.firstTsn tsn)) (queue.firstTsn tsn + 1)
            (queue.lastTsn tsn) := by
        rw [bitsBetween, total_get first, same, if_neg fun both => beyond both.1, Nat.zero_add]
        rfl
      have less : bitsBetween (queue.erase (queue.firstTsn tsn)) (queue.firstTsn tsn + 1)
          (queue.lastTsn tsn) ≤ bitsBetween (queue.erase (queue.firstTsn tsn))
            (queue.firstTsn tsn) (queue.lastTsn tsn) := bitsBetween_le above
      obtain ⟨totalBytes, totalMessages, eighths', fits', bbit, -, kept⟩ :=
        addFragments_totals files eighths (eighths _ mem) bounded ascending
          (fun e mem' after => fragments e mem' after.le) (by dsimp only; omega) ok'
      have there : getChunk rest' (queue.firstTsn tsn) = some firstVar :=
        OrderedMap.get?_eq_some.mpr (kept _ mem le_rfl)
      obtain ⟨-, sameTsn, -⟩ := files.addFragments ok'
      have whole : ({ firstVar' with ebit := true } : SCTPDataVariables).whole = true := by
        rw [SCTPDataVariables.whole, bbit, begins]
        rfl
      rw [if_pos all]
      refine ⟨?_, eighths'.put fits', ?_, _, ?_, whole⟩
      · have replaced := total_replace there bytes { firstVar' with ebit := true }
        rw [show bytes { firstVar' with ebit := true } = bytes firstVar' from rfl] at replaced
        dsimp only at *
        omega
      · have replaced := total_replace there messages { firstVar' with ebit := true }
        rw [messages, messages, if_pos whole, if_neg notWhole] at replaced
        dsimp only
        omega
      · refine OrderedMap.get?_eq_some.mpr (OrderedMap.mem_put.mpr (.inl ?_))
        rw [sameTsn, same]

/-! ## The queues of a stream -/

/-- The sum of a measure over the queues. -/
def SCTPReceiveStream.total (rStream : SCTPReceiveStream) (w : SCTPDataVariables → ℕ) : ℕ :=
  rStream.orderedQ.total w + rStream.unorderedQ.total w + rStream.deliveryQ.total w

/-- No chunk is in two queues, lengths are whole numbers of bytes, and what is to be delivered is a
whole message. -/
structure WellFiled (rStream : SCTPReceiveStream) : Prop where
  holds : Holds rStream rStream.keys
  eighths : ∀ name, Eighths (rStream.queue name)
  whole : ∀ e ∈ rStream.deliveryQ, e.2.whole = true

/-- Where fragments are joined. -/
def SCTPDataVariables.fragmentQueue (chunk : SCTPDataVariables) : QueueName :=
  if chunk.ordered then .ordered else .unordered

/-- The queue in which the fragments of the message are, with this one. -/
def SCTPReceiveStream.joinQueue (rStream : SCTPReceiveStream) (dchunk : SCTPDataVariables) :
    SCTPQueue :=
  (rStream.queue dchunk.fragmentQueue).put dchunk.tsn dchunk

/-- Does the fragment complete its message? -/
def SCTPReceiveStream.completes (rStream : SCTPReceiveStream) (dchunk : SCTPDataVariables) : Bool :=
  (rStream.joinQueue dchunk).allFragments dchunk.tsn

/-- A fragment can be joined; an ordered chunk completes a message just when one is then there that
is next; an unordered one that is the first of its message completes it. -/
structure Countable (rStream : SCTPReceiveStream) (dchunk : SCTPDataVariables) : Prop where
  new : ∀ name, (rStream.queue name).getChunk dchunk.tsn = none
  joinable : dchunk.whole = false → rStream.completes dchunk = true →
    (rStream.joinQueue dchunk).Joinable dchunk.tsn
  next : dchunk.whole = false → dchunk.ordered = true →
    ∀ key orderedQ, (rStream.joinQueue dchunk).reassemble dchunk.tsn = .ok (key, orderedQ) →
      (rStream.completes dchunk = true ↔
        (orderedQ.dequeueChunkBySSN rStream.expectedSSN).isSome = true)
  first : dchunk.whole = false → dchunk.ordered = false → dchunk.bbit = true →
    rStream.completes dchunk = true

lemma Countable.notMem (countable : Countable rs dchunk) : dchunk.tsn ∉ rs.keys := by
  rintro ⟨name, ⟨key, v⟩, mem, same⟩
  exact OrderedMap.get?_eq_none.mp (countable.new name) v (same ▸ mem)

lemma WellFiled.init : WellFiled .init where
  holds := Holds.init
  eighths name := by cases name <;> exact nofun
  whole := nofun

variable (filed : WellFiled rs)
include filed

lemma WellFiled.setExpected (expected : ℤ) :
    WellFiled { rs with expectedStreamSeqNum := expected } where
  holds := (filed.holds.setExpected expected).keys
  eighths := filed.eighths
  whole := filed.whole

omit filed in
lemma dequeueChunkBySSN_eq_some {ssn : UInt16}
    (found : queue.dequeueChunkBySSN ssn = some (chunk, queue')) :
    ∃ key, (key, chunk) ∈ queue ∧ chunk.whole = true ∧ queue' = queue.erase key := by
  rw [dequeueChunkBySSN, map_eq_some_iff] at found
  obtain ⟨⟨key, c⟩, found, eq⟩ := found
  cases eq
  obtain ⟨mem, passes, -⟩ := OrderedMap.find?_eq_some.mp found
  refine ⟨key, mem, ?_, rfl⟩
  simp only [Bool.and_eq_true] at passes
  rw [SCTPDataVariables.whole, passes.1.2, passes.2]
  rfl

lemma WellFiled.dequeueExpected {inserted : Bool}
    (moves : rs.dequeueExpected = some (chunk, inserted, rs')) :
    inserted = true ∧ WellFiled rs' ∧ chunk.whole = true ∧ (∀ w, w chunk ≤ rs.total w) ∧
      ∀ w, rs'.total w = rs.total w := by
  have holds' := (filed.holds.dequeueExpected moves).keys
  obtain ⟨ordered, unordered, delivery, apart, -⟩ := filed.holds
  rw [SCTPReceiveStream.dequeueExpected, map_eq_some_iff] at moves
  obtain ⟨⟨c, orderedQ⟩, found, eq⟩ := moves
  obtain ⟨key, mem, whole, rfl⟩ := dequeueChunkBySSN_eq_some found
  obtain ⟨same, -, inOrdered⟩ := apart.orderedQ _ mem
  have absent : rs.deliveryQ.getChunk c.tsn = none := by
    refine OrderedMap.get?_eq_none.mpr fun v mem' => ?_
    have inDelivery := (apart.deliveryQ _ mem').2.2
    rw [same] at inDelivery
    exact Set.disjoint_left.mp apart.ordered_delivery inOrdered inDelivery
  dsimp only at eq
  rw [checkAndInsertChunk_new absent] at eq
  cases eq
  have split := total_get (OrderedMap.get?_eq_some.mpr mem)
  refine ⟨rfl, ⟨holds', ?_, ?_⟩, whole, fun w => ?_, fun w => ?_⟩
  · intro name
    cases name with
    | ordered => exact (filed.eighths .ordered).erase key
    | unordered => exact filed.eighths .unordered
    | delivery => exact (filed.eighths .delivery).put (filed.eighths .ordered _ mem)
  · intro e mem'
    rcases OrderedMap.mem_put.mp mem' with rfl | ⟨mem', -⟩
    · exact whole
    · exact filed.whole e mem'
  · rw [SCTPReceiveStream.total, split w, Nat.add_assoc, Nat.add_assoc]
    exact Nat.le_add_right _ _
  · have put := total_put_new absent chunk w
    have split' := split w
    rw [if_pos rfl, SCTPReceiveStream.advanceExpected, SCTPReceiveStream.total,
      SCTPReceiveStream.total]
    dsimp only at put split' ⊢
    omega

lemma WellFiled.files (name : QueueName) : ∃ K, Files (rs.queue name) K := by
  obtain ⟨ordered, unordered, delivery, apart, -⟩ := filed.holds
  cases name with
  | ordered => exact ⟨_, apart.orderedQ⟩
  | unordered => exact ⟨_, apart.unorderedQ⟩
  | delivery => exact ⟨_, apart.deliveryQ⟩

lemma WellFiled.reassemble (countable : Countable rs dchunk) (fragment : dchunk.whole = false)
    (fits : 8 ∣ dchunk.len.toNat) (single : dchunk.fragments = 1)
    (ok : (rs.joinQueue dchunk).reassemble dchunk.tsn = .ok (key, queue')) :
    queue'.total bytes = bytes dchunk + (rs.queue dchunk.fragmentQueue).total bytes ∧
      Eighths queue' ∧
      if rs.completes dchunk then
        queue'.total messages = (rs.queue dchunk.fragmentQueue).total messages + 1 ∧
          ∃ c, getChunk queue' key = some c ∧ c.whole = true
      else queue'.total messages = (rs.queue dchunk.fragmentQueue).total messages ∧
        queue' = rs.joinQueue dchunk ∧ key = dchunk.tsn := by
  obtain ⟨K, files⟩ := filed.files dchunk.fragmentQueue
  have none : messages dchunk = 0 := by
    rw [messages, fragment]
    rfl
  have put (w : SCTPDataVariables → ℕ) : (rs.joinQueue dchunk).total w =
      w dchunk + (rs.queue dchunk.fragmentQueue).total w :=
    total_put_new (countable.new _) dchunk w
  have files' : Files (rs.joinQueue dchunk) _ := files.put _ _ rfl single
  have eighths : Eighths (rs.joinQueue dchunk) := (filed.eighths _).put fits
  obtain ⟨sameBytes, eighths', rest⟩ :=
    reassemble_totals files' eighths (countable.joinable fragment) ok
  refine ⟨sameBytes.trans (put bytes), eighths', ?_⟩
  by_cases all : rs.completes dchunk = true
  · rw [if_pos all]
    rw [SCTPReceiveStream.completes] at all
    rw [if_pos all] at rest
    obtain ⟨more, found⟩ := rest
    exact ⟨by rw [more, put, none, Nat.zero_add], found⟩
  · rw [if_neg all]
    rw [SCTPReceiveStream.completes] at all
    rw [if_neg all] at rest
    obtain ⟨rfl, same⟩ := rest
    exact ⟨by rw [put, none, Nat.zero_add], rfl, same⟩

lemma WellFiled.enqueueOrdered (countable : Countable rs dchunk)
    (isOrdered : dchunk.ordered = true) (fits : 8 ∣ dchunk.len.toNat)
    (single : dchunk.fragments = 1) {ret : ℕ} (ok : rs.enqueueOrdered dchunk = .ok (ret, rs')) :
    WellFiled rs' ∧ 0 < ret ∧ rs'.total bytes = rs.total bytes + bytes dchunk ∧
      rs'.total messages = rs.total messages + (if ret < 3 then 1 else 0) := by
  obtain ⟨⟨delivery, orderedQ⟩, ok', rest⟩ := bind_eq_ok ok
  have name : dchunk.fragmentQueue = .ordered := if_pos isOrdered
  have absent : rs.orderedQ.getChunk dchunk.tsn = none := countable.new .ordered
  have holds' := filed.holds.insertOrdered countable.notMem single ok'
  rw [SCTPReceiveStream.insertOrdered, checkAndInsertChunk_new absent] at ok'
  dsimp only at ok' rest
  -- the stream with the chunk, before a message moves
  have inserted : Eighths orderedQ ∧
      orderedQ.total bytes = bytes dchunk + rs.orderedQ.total bytes ∧
      orderedQ.total messages = rs.orderedQ.total messages +
        (if dchunk.whole = true ∨ rs.completes dchunk = true then 1 else 0) ∧
      delivery = (if dchunk.whole then 1 else 3) ∧
      (dchunk.whole = false → (rs.completes dchunk = true ↔
        (orderedQ.dequeueChunkBySSN rs.expectedSSN).isSome = true)) := by
    by_cases whole : dchunk.whole = true
    · have both : ¬ (¬ dchunk.bbit ∨ ¬ dchunk.ebit) := by
        rw [SCTPDataVariables.whole, Bool.and_eq_true] at whole
        rintro (none | none)
        · exact none whole.1
        · exact none whole.2
      rw [if_neg both] at ok'
      cases ok'
      refine ⟨(filed.eighths .ordered).put fits, total_put_new absent dchunk bytes, ?_, ?_, ?_⟩
      · rw [if_pos (.inl whole), total_put_new absent dchunk messages, messages, if_pos whole,
          Nat.add_comm]
      · rw [if_pos whole, if_pos rfl]
      · intro fragment
        rw [whole] at fragment
        cases fragment
    · have fragment := Bool.eq_false_of_not_eq_true whole
      have either : ¬ dchunk.bbit ∨ ¬ dchunk.ebit := by
        by_contra both
        rw [not_or, not_not, not_not] at both
        exact whole (by rw [SCTPDataVariables.whole, both.1, both.2]; rfl)
      rw [if_pos either] at ok'
      obtain ⟨⟨key, joined⟩, ok'', rest'⟩ := bind_eq_ok ok'
      cases rest'
      have queue : rs.joinQueue dchunk = rs.orderedQ.put dchunk.tsn dchunk := by
        rw [SCTPReceiveStream.joinQueue, name]
        rfl
      rw [← queue] at ok''
      obtain ⟨totalBytes, eighths, rest'⟩ := filed.reassemble countable fragment fits single ok''
      rw [name] at totalBytes rest'
      refine ⟨eighths, totalBytes, ?_, ?_, fun _ => countable.next fragment isOrdered key _ ok''⟩
      · split_ifs at rest' with all
        · rw [if_pos (.inr all)]
          exact rest'.1
        · rw [if_neg (not_or.mpr ⟨whole, all⟩)]
          exact rest'.1
      · rw [if_neg whole]
  obtain ⟨eighths, totalBytes, totalMessages, code, next⟩ := inserted
  have filed' : WellFiled { rs with orderedQ := orderedQ } := by
    refine ⟨holds'.keys, fun name => ?_, filed.whole⟩
    cases name with
    | ordered => exact eighths
    | unordered => exact filed.eighths .unordered
    | delivery => exact filed.eighths .delivery
  have grown (w : SCTPDataVariables → ℕ) :
      SCTPReceiveStream.total { rs with orderedQ := orderedQ } w + rs.orderedQ.total w =
        rs.total w + orderedQ.total w := by
    rw [SCTPReceiveStream.total, SCTPReceiveStream.total]
    dsimp only
    omega
  have grownBytes := grown bytes
  have grownMessages := grown messages
  cases moves : SCTPReceiveStream.dequeueExpected { rs with orderedQ := orderedQ } with
  | none =>
    rw [moves] at rest
    cases rest
    have nothing : (orderedQ.dequeueChunkBySSN rs.expectedSSN).isSome = false := by
      rw [SCTPReceiveStream.dequeueExpected, map_eq_none_iff] at moves
      exact isSome_eq_false_iff.mpr (isNone_iff_eq_none.mpr moves)
    refine ⟨filed', ?_, by omega, ?_⟩
    · rw [code]
      split_ifs <;> omega
    · rw [code]
      by_cases whole : dchunk.whole = true
      · rw [if_pos (.inl whole)] at totalMessages
        rw [if_pos whole, if_pos (by omega)]
        omega
      · have notAll : ¬ rs.completes dchunk = true := by
          rw [next (Bool.eq_false_of_not_eq_true whole), nothing]
          exact Bool.false_ne_true
        rw [if_neg (not_or.mpr ⟨whole, notAll⟩)] at totalMessages
        rw [if_neg whole, if_neg (by omega)]
        omega
  | some moved =>
    obtain ⟨chunk, wasInserted, moved⟩ := moved
    rw [moves] at rest
    obtain ⟨rfl, filed'', -, -, same⟩ := filed'.dequeueExpected moves
    cases rest
    have something : (orderedQ.dequeueChunkBySSN rs.expectedSSN).isSome = true := by
      rw [SCTPReceiveStream.dequeueExpected, map_eq_some_iff] at moves
      obtain ⟨pair, found, -⟩ := moves
      exact isSome_iff_exists.mpr ⟨pair, found⟩
    have more : dchunk.whole = true ∨ rs.completes dchunk = true := by
      by_cases whole : dchunk.whole = true
      · exact .inl whole
      · exact .inr ((next (Bool.eq_false_of_not_eq_true whole)).mpr something)
    rw [if_pos more] at totalMessages
    rw [if_pos rfl, same, same, if_pos (by omega)]
    exact ⟨filed'', by omega, by omega, by omega⟩

lemma WellFiled.enqueueUnordered (countable : Countable rs dchunk)
    (isUnordered : dchunk.ordered = false) (fits : 8 ∣ dchunk.len.toNat)
    (single : dchunk.fragments = 1) {ret : ℕ} (ok : rs.enqueueUnordered dchunk = .ok (ret, rs')) :
    WellFiled rs' ∧ 0 < ret ∧ rs'.total bytes = rs.total bytes + bytes dchunk ∧
      rs'.total messages = rs.total messages + (if ret < 3 then 1 else 0) := by
  have holds' := (filed.holds.enqueueUnordered countable.notMem single ok).keys
  have name : dchunk.fragmentQueue = .unordered :=
    if_neg (by rw [isUnordered]; exact Bool.false_ne_true)
  have absent : rs.deliveryQ.getChunk dchunk.tsn = none := countable.new .delivery
  have absent' : rs.unorderedQ.getChunk dchunk.tsn = none := countable.new .unordered
  rw [SCTPReceiveStream.enqueueUnordered] at ok
  by_cases whole : dchunk.whole = true
  · have both := whole
    rw [SCTPDataVariables.whole, Bool.and_eq_true] at both
    rw [if_pos both, checkAndInsertChunk_new absent] at ok
    cases ok
    refine ⟨⟨holds', fun name => ?_, fun e mem => ?_⟩, by rw [if_pos rfl]; omega, ?_, ?_⟩
    · cases name with
      | ordered => exact filed.eighths .ordered
      | unordered => exact filed.eighths .unordered
      | delivery => exact (filed.eighths .delivery).put fits
    · rcases OrderedMap.mem_put.mp mem with rfl | ⟨mem, -⟩
      · exact whole
      · exact filed.whole e mem
    · have put := total_put_new absent dchunk bytes
      rw [SCTPReceiveStream.total, SCTPReceiveStream.total]
      dsimp only
      omega
    · have put := total_put_new absent dchunk messages
      rw [messages, if_pos whole] at put
      rw [if_pos rfl, if_pos (by omega), SCTPReceiveStream.total, SCTPReceiveStream.total]
      dsimp only
      omega
  · have fragment := Bool.eq_false_of_not_eq_true whole
    have notBoth : ¬ (dchunk.bbit = true ∧ dchunk.ebit = true) := by
      rw [← Bool.and_eq_true]
      exact whole
    rw [if_neg notBoth, checkAndInsertChunk_new absent'] at ok
    obtain ⟨⟨key, unorderedQ⟩, joined, rest⟩ := bind_eq_ok ok
    have queue : rs.joinQueue dchunk = rs.unorderedQ.put dchunk.tsn dchunk := by
      rw [SCTPReceiveStream.joinQueue, name]
      rfl
    have elsewhere : ∀ c, unorderedQ.getChunk key = some c → rs.deliveryQ.getChunk key = none := by
      obtain ⟨ordered, unordered, delivery, apart, -⟩ := filed.holds
      intro c found
      have files := (apart.unorderedQ.put dchunk.tsn dchunk rfl single).reassemble joined
      rcases (files.get found).2.2 with rfl | inUnordered
      · exact absent
      · refine OrderedMap.get?_eq_none.mpr fun v mem => ?_
        exact Set.disjoint_left.mp apart.unordered_delivery inUnordered (apart.deliveryQ _ mem).2.2
    dsimp only at joined rest
    rw [← queue] at joined
    obtain ⟨totalBytes, eighths, totals⟩ := filed.reassemble countable fragment fits single joined
    rw [name] at totalBytes totals
    cases found : unorderedQ.getChunk key with
    | none =>
      rw [found] at rest
      cases rest
    | some chunk =>
      rw [found] at rest
      dsimp only at rest
      by_cases all : rs.completes dchunk = true
      · rw [if_pos all] at totals
        obtain ⟨totalMessages, c, found', complete⟩ := totals
        obtain rfl : chunk = c := Option.some.inj (found.symm.trans found')
        have begins : chunk.bbit = true := (Bool.and_eq_true_iff.mp complete).1
        rw [if_pos begins, checkAndInsertChunk_new (elsewhere chunk found)] at rest
        cases rest
        have put := total_put_new (elsewhere chunk found) chunk
        have split := total_get found
        rw [if_pos rfl, if_pos (by omega)]
        refine ⟨⟨holds', fun name => ?_, fun e mem => ?_⟩, by omega, ?_, ?_⟩
        · cases name with
          | ordered => exact filed.eighths .ordered
          | unordered => exact eighths.erase key
          | delivery =>
            exact (filed.eighths .delivery).put (eighths _ (OrderedMap.get?_eq_some.mp found))
        · rcases OrderedMap.mem_put.mp mem with rfl | ⟨mem, -⟩
          · exact complete
          · exact filed.whole e mem
        · have putBytes := put bytes
          have splitBytes := split bytes
          rw [SCTPReceiveStream.total, SCTPReceiveStream.total]
          dsimp only [SCTPReceiveStream.queue] at totalBytes ⊢
          omega
        · have putMessages := put messages
          have splitMessages := split messages
          rw [SCTPReceiveStream.total, SCTPReceiveStream.total]
          dsimp only [SCTPReceiveStream.queue] at totalMessages ⊢
          omega
      · rw [if_neg all] at totals
        obtain ⟨totalMessages, rfl, rfl⟩ := totals
        have self : chunk = dchunk := by
          rw [queue, getChunk, OrderedMap.get?_eq_some] at found
          exact OrderedMap.eq_of_mem found (OrderedMap.mem_put.mpr (.inl rfl))
        subst self
        have more : ¬ chunk.bbit = true := fun begins =>
          all (countable.first fragment isUnordered begins)
        rw [if_neg more] at rest
        cases rest
        rw [if_neg (by omega)]
        refine ⟨⟨holds', fun name => ?_, filed.whole⟩, by omega, ?_, ?_⟩
        · cases name with
          | ordered => exact filed.eighths .ordered
          | unordered => exact eighths
          | delivery => exact filed.eighths .delivery
        · rw [SCTPReceiveStream.total, SCTPReceiveStream.total]
          dsimp only [SCTPReceiveStream.queue] at totalBytes ⊢
          omega
        · rw [SCTPReceiveStream.total, SCTPReceiveStream.total]
          dsimp only [SCTPReceiveStream.queue] at totalMessages ⊢
          omega

lemma WellFiled.enqueue (countable : Countable rs dchunk) (fits : 8 ∣ dchunk.len.toNat)
    (single : dchunk.fragments = 1) {ret : ℕ}
    (ok : rs.enqueueNewDataChunk dchunk = .ok (ret, rs')) :
    WellFiled rs' ∧ 0 < ret ∧ rs'.total bytes = rs.total bytes + bytes dchunk ∧
      rs'.total messages = rs.total messages + (if ret < 3 then 1 else 0) := by
  rw [SCTPReceiveStream.enqueueNewDataChunk] at ok
  split_ifs at ok with isOrdered
  · exact filed.enqueueOrdered countable isOrdered fits single ok
  · exact filed.enqueueUnordered countable (Bool.eq_false_of_not_eq_true isOrdered) fits single ok

lemma WellFiled.take {name : QueueName} (found : (rs.queue name).getChunk key = some chunk) :
    WellFiled (rs.setQueue name ((rs.queue name).erase key)) ∧ ∀ w, rs.total w =
        w chunk + (rs.setQueue name ((rs.queue name).erase key)).total w := by
  have split := total_get found
  refine ⟨⟨(filed.holds.drop found).2.keys, fun name' => ?_, fun e mem => ?_⟩, fun w => ?_⟩
  · rw [SCTPReceiveStream.queue_setQueue]
    split_ifs
    · exact (filed.eighths name).erase key
    · exact filed.eighths name'
  · cases name with
    | delivery => exact filed.whole e (OrderedMap.mem_erase.mp mem).1
    | ordered => exact filed.whole e mem
    | unordered => exact filed.whole e mem
  · have here := split w
    cases name <;>
      (rw [SCTPReceiveStream.total, SCTPReceiveStream.total]
       dsimp only [SCTPReceiveStream.queue, SCTPReceiveStream.setQueue] at here ⊢
       omega)

lemma WellFiled.extractMessage {deliveryQ : SCTPQueue}
    (taken : extractMessage rs.deliveryQ = some (chunk, deliveryQ)) :
    chunk.whole = true ∧ WellFiled { rs with deliveryQ := deliveryQ } ∧
      ∀ w, rs.total w =
        w chunk + SCTPReceiveStream.total { rs with deliveryQ := deliveryQ } w := by
  rw [SCTPQueue.extractMessage, map_eq_some_iff] at taken
  obtain ⟨⟨key, c⟩, found, eq⟩ := taken
  cases eq
  have mem := (OrderedMap.first?_eq_some.mp found).1
  have here : (rs.queue .delivery).getChunk key = some chunk := OrderedMap.get?_eq_some.mpr mem
  exact ⟨filed.whole _ mem, filed.take here⟩

omit filed

namespace Receiver

variable {st st' : Receiver} {sid : ℕ}

/-- The sum of a measure over all streams. -/
def total (st : Receiver) (w : SCTPDataVariables → ℕ) : ℕ :=
  ∑ sid ∈ Finset.range st.params.inboundStreams, (st.receiveStreams sid).total w

/-- The counters are what is in the queues. -/
structure Accounted (st : Receiver) : Prop where
  filed : ∀ sid < st.params.inboundStreams, WellFiled (st.receiveStreams sid)
  bytes : st.queuedReceivedBytes.toNat = st.total bytes
  messages : st.bufferedMessages.toNat = st.total messages

/-- The chunk can be taken off the counters. -/
def Counts (st : Receiver) (chunk : SCTPDataVariables) : Prop :=
  1 ≤ st.bufferedMessages ∧ (chunk.len / 8).toUInt64 ≤ st.queuedReceivedBytes

lemma total_replace_stream (lt : sid < st.params.inboundStreams) (params : st'.params = st.params)
    (streams : st'.receiveStreams = Function.update st.receiveStreams sid rs)
    (w : SCTPDataVariables → ℕ) :
    st'.total w + (st.receiveStreams sid).total w = st.total w + rs.total w := by
  have mem := mem_range.mpr lt
  rw [total, total, params, ← add_sum_erase _ _ mem, ← add_sum_erase _ _ mem, streams]
  have others : ∑ i ∈ (Finset.range st.params.inboundStreams).erase sid,
      (Function.update st.receiveStreams sid rs i).total w =
      ∑ i ∈ (Finset.range st.params.inboundStreams).erase sid, (st.receiveStreams i).total w :=
    sum_congr rfl fun i inRest => by
      rw [Function.update_of_ne (ne_of_mem_erase inRest)]
  rw [others, Function.update_self]
  omega

lemma total_stream_le (lt : sid < st.params.inboundStreams) (w : SCTPDataVariables → ℕ) :
    (st.receiveStreams sid).total w ≤ st.total w :=
  single_le_sum (f := fun sid => (st.receiveStreams sid).total w)
    (fun _ _ => Nat.zero_le _) (mem_range.mpr lt)

lemma toNat_bytes (chunk : SCTPDataVariables) : (chunk.len / 8).toUInt64.toNat = Sctp.bytes chunk := by
  rfl

namespace Accounted

lemma replace (accounted : Accounted st) (lt : sid < st.params.inboundStreams)
    (params : st'.params = st.params)
    (streams : st'.receiveStreams = Function.update st.receiveStreams sid rs) (filed : WellFiled rs)
    (changeBytes : st'.queuedReceivedBytes.toNat + (st.receiveStreams sid).total Sctp.bytes =
      st.queuedReceivedBytes.toNat + rs.total Sctp.bytes)
    (changeMessages : st'.bufferedMessages.toNat + (st.receiveStreams sid).total Sctp.messages =
      st.bufferedMessages.toNat + rs.total Sctp.messages) : Accounted st' := by
  have totals := total_replace_stream lt params streams
  refine ⟨fun i ltI => ?_, ?_, ?_⟩
  · rw [streams]
    by_cases here : i = sid
    · rw [here, Function.update_self]
      exact filed
    · rw [Function.update_of_ne here]
      exact accounted.filed i (params ▸ ltI)
  · have change := totals Sctp.bytes
    have before := accounted.bytes
    omega
  · have change := totals Sctp.messages
    have before := accounted.messages
    omega

lemma counts (accounted : Accounted st) (lt : sid < st.params.inboundStreams)
    (whole : chunk.whole = true) (within : ∀ w, w chunk ≤ (st.receiveStreams sid).total w) :
    st.Counts chunk := by
  have one : Sctp.messages chunk = 1 := if_pos whole
  have upTo (w : SCTPDataVariables → ℕ) : w chunk ≤ st.total w :=
    (within w).trans (total_stream_le lt w)
  have upToBytes := upTo Sctp.bytes
  have upToMessages := upTo Sctp.messages
  rw [← accounted.bytes] at upToBytes
  rw [← accounted.messages, one] at upToMessages
  refine ⟨UInt32.le_iff_toNat_le.mpr upToMessages, UInt64.le_iff_toNat_le.mpr ?_⟩
  exact upToBytes

end Accounted

/-! ## What is taken off the counters -/

/-- Each chunk that `putInDeliveryQ` moves can be taken off the counters. -/
def MovesCounted (sid : ℕ) : ℕ → Receiver → Prop
  | 0, _ => True
  | rounds + 1, st =>
      ∀ chunk inserted rStream,
        (st.receiveStreams sid).dequeueExpected = some (chunk, inserted, rStream) →
        st.Counts chunk ∧ MovesCounted sid rounds (st.countMoved sid chunk inserted rStream)

def AllMovesCounted : ℕ → ℕ → Receiver → Prop
  | 0, _, _ => True
  | count + 1, sid, st =>
      MovesCounted sid (st.receiveStreams sid).orderedQ.size st ∧
        ∀ st', st.putInDeliveryQ sid = .ok st' → AllMovesCounted count (sid + 1) st'

def PushStreamCounted (restrict : Bool) (sid : ℕ) : ℕ → Receiver → Prop
  | 0, _ => True
  | rounds + 1, st =>
      let rStream := st.receiveStreams sid
      ∀ chunk deliveryQ, extractMessage rStream.deliveryQ = some (chunk, deliveryQ) →
        (!restrict || 0 < st.pushMessagesLeft) → st.Counts chunk ∧
        ∀ st', (st.setStream sid { rStream with deliveryQ := deliveryQ }).push chunk = .ok st' →
          PushStreamCounted restrict sid rounds st'

def PushStreamsCounted (restrict : Bool) : ℕ → ℕ → Receiver → Prop
  | 0, _, _ => True
  | count + 1, i, st =>
      ∀ rStream, st.findStream i = .ok rStream →
        PushStreamCounted restrict i rStream.deliveryQ.size st ∧
        ∀ toApp r, pushStream restrict i rStream.deliveryQ.size st toApp = .ok r →
          PushStreamsCounted restrict count ((i + 1) % r.1.params.inboundStreams) r.1

/-- Each chunk that `pushUlp` moves or delivers can be taken off the counters. -/
def PushCounted (st : Receiver) : Prop :=
  AllMovesCounted st.params.inboundStreams 0 st ∧
  ∀ st', st.startPush = .ok st' →
    PushStreamsCounted (0 < st'.pushMessagesLeft) (max 1 st'.params.inboundStreams) st'.nextRSid st'

/-- The chunk that goes when `tryTSN` is dropped. -/
def dropped (st : Receiver) (uBit : Bool) (tryTSN : UInt32) : ℕ → ℕ → Option SCTPDataVariables
  | 0, _ => none
  | count + 1, sid =>
      match st.chunkToDrop uBit tryTSN sid with
      | some (_, chunk) => some chunk
      | none => st.dropped uBit tryTSN count (sid + 1)

/-- What holds of each chunk that `makeRoomForTsn` drops. -/
def EachDrop (P : Receiver → SCTPDataVariables → Prop) (tsn length : UInt32) (uBit : Bool) :
    ℕ → UInt32 → UInt32 → Receiver → Prop
  | 0, _, _, _ => True
  | rounds + 1, tryTSN, sum, st =>
      sum < length → st.gapList.cumAckTSN < tryTSN → tsnGt tsn tryTSN = false →
        (∀ chunk, st.dropped uBit tryTSN st.params.inboundStreams 0 = some chunk → P st chunk) ∧
        ∀ r, st.dropFromStreams uBit tryTSN st.params.inboundStreams 0 = .ok r →
          EachDrop P tsn length uBit rounds (tryTSN - 1) (sum + r.1) r.2

def AdmitDrops (P : Receiver → SCTPDataVariables → Prop) (st : Receiver)
    (dataChunk : SCTPDataChunk) : Prop :=
  let highest := st.gapList.getHighestTSNReceived
  st.bufferFull = true → tsnGt dataChunk.tsn highest = false → dataChunk.tsn < highest →
    st.params.disableReneging = false →
    EachDrop P dataChunk.tsn (UInt32.ofNat (8 * dataChunk.userData.byteLength)) dataChunk.ubit
      (highest.toNat - st.gapList.cumAckTSN.toNat) highest 0 st

def EnqueueCounted (st : Receiver) (dataChunk : SCTPDataChunk) : Prop :=
  let sid := dataChunk.sid.toNat
  ∀ before, st.findStream sid = .ok before →
    ∀ ret rStream, before.enqueueNewDataChunk dataChunk.makeVar = .ok (ret, rStream) →
      0 < ret → ret < 3 → MovesCounted sid rStream.orderedQ.size (st.countNew dataChunk ret rStream)

/-- The chunk is taken in for new in this state. -/
def TakenIn (st st' : Receiver) (dataChunk : SCTPDataChunk) : Prop :=
  ∃ covered lists advanced lists', st.gapList.updateGapList dataChunk.tsn st.newChunkReceived
      (!st.params.disableReneging) = .ok (covered, true, lists) ∧
    lists.tryToAdvanceCumAckTSN = .ok (advanced, lists') ∧
    st' = { st with gapList := lists', newChunkReceived := true }

/-- What holds of the states in which an arriving chunk makes others go or is itself enqueued. -/
def EachArrival (P : Receiver → SCTPDataVariables → Prop) (Q : Receiver → SCTPDataChunk → Prop)
    (st : Receiver) (dataChunk : SCTPDataChunk) : Prop :=
  st.params.stopReceiving = false → tsnLe dataChunk.tsn st.gapList.cumAckTSN = false →
    st.tsnIsDuplicate dataChunk.tsn = false → AdmitDrops P st dataChunk ∧
    ∀ st' st'', st.admitChunk dataChunk = .ok (true, st') → st'.TakenIn st'' dataChunk → Q st'' dataChunk

/-- In a step no counter is decremented below 0. -/
def NoUnderflow (st : Receiver) : Event → Prop
  | .data dataChunk =>
      EachArrival Counts EnqueueCounted { st with newChunkReceived := false } dataChunk
  | .forwardTsn _ => True
  | .receive => st.PushCounted
  | .sack => True

/-- The chunk counts, with its length, and the counters have room for it. -/
structure EnqueueExact (st : Receiver) (dataChunk : SCTPDataChunk) : Prop where
  countable : Countable (st.receiveStreams dataChunk.sid.toNat) dataChunk.makeVar
  length : Sctp.bytes dataChunk.makeVar = dataChunk.payloadLength.toNat
  roomBytes : st.queuedReceivedBytes.toNat + dataChunk.payloadLength.toNat < 18446744073709551616
  roomMessages : st.bufferedMessages.toNat + 1 < 4294967296

/-- The queues of all streams are empty. -/
def QueuesEmpty (st : Receiver) : Prop :=
  ∀ sid < st.params.inboundStreams, ∀ name, (st.receiveStreams sid).queue name = .empty

/-- A SACK can open the whole window: it fits into the field that it is tested in, reaches the limit
of the silly-window avoidance, and that is not on. -/
structure CanOpen (st : Receiver) : Prop where
  positive : 0 < st.params.localRwnd.toNat
  small : st.params.localRwnd.toNat < 2147483648
  limit : st.params.swsLimit.toNat ≤ st.params.localRwnd.toNat
  counted : st.params.tellArwnd = true → st.params.messageAcceptLimit = 0 ∧ st.swsMsgInvoked = false
  avoidance : st.params.tellArwnd = false → st.swsAvoidanceInvoked = false

/-- What is dropped is a whole message, what is enqueued is counted as what it is, and the window
can open when the queues are empty. -/
def StepExact (st : Receiver) : Event → Prop
  | .data dataChunk =>
      EachArrival (fun _ chunk => chunk.whole = true) EnqueueExact
        { st with newChunkReceived := false } dataChunk
  | .forwardTsn _ => True
  | .receive => True
  | .sack => st.QueuesEmpty → st.CanOpen

/-! ## Delivery -/

lemma Counts.toNat_sub (counts : st.Counts chunk) :
    (st.queuedReceivedBytes - (chunk.len / 8).toUInt64).toNat + Sctp.bytes chunk =
        st.queuedReceivedBytes.toNat ∧
      (st.bufferedMessages - 1).toNat + 1 = st.bufferedMessages.toNat := by
  obtain ⟨one, fits⟩ := counts
  have le := UInt64.le_iff_toNat_le.mp fits
  have atLeastOne : 1 ≤ st.bufferedMessages.toNat := UInt32.le_iff_toNat_le.mp one
  rw [UInt64.toNat_sub_of_le _ _ fits, UInt32.toNat_sub_of_le _ _ one, toNat_bytes]
  exact ⟨Nat.sub_add_cancel le, Nat.sub_add_cancel atLeastOne⟩

lemma openWindow_params (st : Receiver) (tempQueuedBytes : UInt64) :
    (st.openWindow tempQueuedBytes).params = st.params := by
  obtain ⟨dupList, avoidance, messages, eq⟩ := st.openWindow_eq tempQueuedBytes
  rw [eq]

namespace Accounted

variable (accounted : Accounted st)
include accounted

lemma same (params : st'.params = st.params) (streams : st'.receiveStreams = st.receiveStreams)
    (sameBytes : st'.queuedReceivedBytes = st.queuedReceivedBytes)
    (sameMessages : st'.bufferedMessages = st.bufferedMessages) : Accounted st' := by
  refine ⟨?_, ?_, ?_⟩
  · rw [params, streams]
    exact accounted.filed
  · rw [sameBytes, total, params, streams]
    exact accounted.bytes
  · rw [sameMessages, total, params, streams]
    exact accounted.messages

lemma countMoved (lt : sid < st.params.inboundStreams) {inserted : Bool}
    (moves : (st.receiveStreams sid).dequeueExpected = some (chunk, inserted, rs)) :
    st.Counts chunk ∧ Accounted (st.countMoved sid chunk inserted rs) ∧
      (st.countMoved sid chunk inserted rs).params = st.params := by
  obtain ⟨rfl, filed, whole, within, same⟩ := (accounted.filed sid lt).dequeueExpected moves
  refine ⟨accounted.counts lt whole within, accounted.replace lt rfl rfl filed ?_ ?_, rfl⟩
  · rw [Receiver.countMoved, if_pos rfl, same]
    dsimp only [setStream]
    rw [UInt64.sub_add_cancel]
  · rw [Receiver.countMoved, if_pos rfl, same]
    dsimp only [setStream]
    rw [UInt32.sub_add_cancel]

lemma putInDeliveryLoop (lt : sid < st.params.inboundStreams) (rounds : ℕ) : MovesCounted sid rounds st ∧ Accounted (Receiver.putInDeliveryLoop sid rounds st) ∧
      (Receiver.putInDeliveryLoop sid rounds st).params = st.params := by
  induction rounds generalizing st with
  | zero => exact ⟨trivial, accounted, rfl⟩
  | succ rounds ih =>
    rw [Receiver.putInDeliveryLoop]
    cases moves : (st.receiveStreams sid).dequeueExpected with
    | none =>
      refine ⟨fun chunk inserted rs moves' => ?_, accounted, rfl⟩
      rw [moves] at moves'
      cases moves'
    | some moved =>
      obtain ⟨counts, accounted', params⟩ := accounted.countMoved lt moves
      obtain ⟨counted, accounted'', params'⟩ := ih accounted' (params ▸ lt)
      refine ⟨fun chunk' inserted' rs' moves' => ?_, accounted'', params'.trans params⟩
      rw [moves] at moves'
      cases moves'
      exact ⟨counts, counted⟩

lemma putInDeliveryQ (ok : st.putInDeliveryQ sid = .ok st') :
    MovesCounted sid (st.receiveStreams sid).orderedQ.size st ∧ Accounted st' ∧
      st'.params = st.params := by
  obtain ⟨rs, found, rest⟩ := bind_eq_ok ok
  rw [findStream] at found
  split_ifs at found with lt
  cases found
  cases rest
  exact accounted.putInDeliveryLoop lt _

lemma putAllInDeliveryQ {count : ℕ} (within : sid + count ≤ st.params.inboundStreams) :
    AllMovesCounted count sid st ∧ ∀ st', Receiver.putAllInDeliveryQ count sid st = .ok st' →
      Accounted st' ∧ st'.params = st.params := by
  induction count generalizing sid st with
  | zero =>
    refine ⟨trivial, fun st' ok => ?_⟩
    cases ok
    exact ⟨accounted, rfl⟩
  | succ count ih =>
    have lt : sid < st.params.inboundStreams := by omega
    obtain ⟨counted, -, -⟩ := accounted.putInDeliveryLoop lt (st.receiveStreams sid).orderedQ.size
    refine ⟨⟨counted, fun st₁ ok₁ => ?_⟩, fun st' ok => ?_⟩
    · obtain ⟨-, accounted₁, params₁⟩ := accounted.putInDeliveryQ ok₁
      exact (ih accounted₁ (by rw [params₁]; omega)).1
    · obtain ⟨st₁, ok₁, rest⟩ := bind_eq_ok ok
      obtain ⟨-, accounted₁, params₁⟩ := accounted.putInDeliveryQ ok₁
      obtain ⟨accounted', params'⟩ := (ih accounted₁ (by rw [params₁]; omega)).2 st' rest
      exact ⟨accounted', params'.trans params₁⟩

lemma startPush (ok : st.startPush = .ok st') : Accounted st' := by
  obtain ⟨st₁, ok₁, rest⟩ := bind_eq_ok ok
  obtain ⟨accounted₁, -⟩ := (accounted.putAllInDeliveryQ (by omega)).2 st₁ ok₁
  split_ifs at rest
  · cases rest
    exact accounted₁.same rfl rfl rfl rfl
  · cases rest
    exact accounted₁

lemma openWindow (tempQueuedBytes : UInt64) : Accounted (st.openWindow tempQueuedBytes) := by
  obtain ⟨dupList, avoidance, messages, eq⟩ := st.openWindow_eq tempQueuedBytes
  rw [eq]
  exact accounted.same rfl rfl rfl rfl

lemma sendSack : Accounted st.sendSack := by
  obtain ⟨dupList, avoidance, messages, eq⟩ := st.sendSack_eq
  rw [eq]
  exact accounted.same rfl rfl rfl rfl

lemma push (lt : sid < st.params.inboundStreams) {deliveryQ : SCTPQueue}
    (taken : extractMessage (st.receiveStreams sid).deliveryQ = some (chunk, deliveryQ)) :
    st.Counts chunk ∧
      ∀ st', (st.setStream sid { st.receiveStreams sid with deliveryQ := deliveryQ }).push chunk =
        .ok st' → Accounted st' ∧ st'.params = st.params := by
  obtain ⟨whole, filed', split⟩ := (accounted.filed sid lt).extractMessage taken
  have counts := accounted.counts lt whole fun w => (Nat.le_add_right _ _).trans_eq (split w).symm
  refine ⟨counts, fun st' ok => ?_⟩
  obtain ⟨lists, -, rest⟩ := bind_eq_ok ok
  cases rest
  obtain ⟨lessBytes, lessMessages⟩ := counts.toNat_sub
  have splitBytes := split Sctp.bytes
  have splitMessages := split Sctp.messages
  have one : Sctp.messages chunk = 1 := if_pos whole
  have counted : Accounted ((st.setStream sid
      { st.receiveStreams sid with deliveryQ := deliveryQ }).countPushed chunk lists) := by
    refine accounted.replace lt rfl rfl filed' ?_ ?_
    · dsimp only [countPushed, setStream]
      omega
    · dsimp only [countPushed, setStream]
      omega
  exact ⟨counted.openWindow _, openWindow_params _ _⟩

lemma pushStream (lt : sid < st.params.inboundStreams) (restrict : Bool)
    (rounds : ℕ) : PushStreamCounted restrict sid rounds st ∧
      ∀ toApp r, Receiver.pushStream restrict sid rounds st toApp = .ok r →
        Accounted r.1 ∧ r.1.params = st.params := by
  induction rounds generalizing st with
  | zero =>
    refine ⟨trivial, fun toApp r ok => ?_⟩
    cases ok
    exact ⟨accounted, rfl⟩
  | succ rounds ih =>
    refine ⟨fun chunk deliveryQ taken more => ?_, fun toApp r ok => ?_⟩
    · obtain ⟨counts, pushed⟩ := accounted.push lt taken
      refine ⟨counts, fun st₁ ok₁ => ?_⟩
      obtain ⟨accounted₁, params₁⟩ := pushed st₁ ok₁
      exact (ih accounted₁ (params₁ ▸ lt)).1
    · rw [Receiver.pushStream] at ok
      cases taken : extractMessage (st.receiveStreams sid).deliveryQ with
      | none =>
        rw [taken] at ok
        cases ok
        exact ⟨accounted, rfl⟩
      | some pair =>
        rw [taken] at ok
        split_ifs at ok with more
        · obtain ⟨st₁, ok₁, rest⟩ := bind_eq_ok ok
          obtain ⟨accounted₁, params₁⟩ := (accounted.push lt taken).2 st₁ ok₁
          obtain ⟨accounted', params'⟩ := (ih accounted₁ (params₁ ▸ lt)).2 _ r rest
          exact ⟨accounted', params'.trans params₁⟩
        · cases ok
          exact ⟨accounted, rfl⟩

lemma pushStreams (restrict : Bool) (count i : ℕ) :
    PushStreamsCounted restrict count i st ∧
      ∀ toApp r, Receiver.pushStreams restrict count i st toApp = .ok r → Accounted r.1 := by
  induction count generalizing st i with
  | zero =>
    refine ⟨trivial, fun toApp r ok => ?_⟩
    cases ok
    exact accounted
  | succ count ih =>
    have found {rs : SCTPReceiveStream} (ok : st.findStream i = .ok rs) :
        i < st.params.inboundStreams := by
      rw [findStream] at ok
      split_ifs at ok with lt
      exact lt
    refine ⟨fun rs ok₁ => ?_, fun toApp r ok => ?_⟩
    · obtain ⟨counted, pushed⟩ := accounted.pushStream (found ok₁) restrict rs.deliveryQ.size
      exact ⟨counted, fun toApp r ok => (ih (pushed toApp r ok).1 _).1⟩
    · obtain ⟨rs, ok₁, rest⟩ := bind_eq_ok ok
      obtain ⟨⟨st₂, toApp₂⟩, ok₂, rest⟩ := bind_eq_ok rest
      have pushed := (accounted.pushStream (found ok₁) restrict rs.deliveryQ.size).2
      exact (ih (pushed toApp _ ok₂).1 _).2 toApp₂ r rest

lemma pushUlp : st.PushCounted ∧
    ∀ r, st.pushUlp = .ok r → Accounted r.1 := by
  refine ⟨⟨(accounted.putAllInDeliveryQ (by omega)).1, fun st₁ ok₁ =>
    ((accounted.startPush ok₁).pushStreams _ _ _).1⟩, fun r ok => ?_⟩
  obtain ⟨st₁, ok₁, rest⟩ := bind_eq_ok ok
  obtain ⟨⟨st₂, toApp⟩, ok₂, rest⟩ := bind_eq_ok rest
  cases rest
  have pushed := ((accounted.startPush ok₁).pushStreams _ _ _).2 [] _ ok₂
  exact pushed.same rfl rfl rfl rfl

lemma dropChunk (lt : sid < st.params.inboundStreams) {tryTSN : UInt32} {name : QueueName}
    (found : ((st.receiveStreams sid).queue name).getChunk tryTSN = some chunk)
    (whole : chunk.whole = true) :
    st.Counts chunk ∧ ∀ st', st.dropChunk tryTSN sid name chunk = .ok st' →
      Accounted st' ∧ st'.params = st.params := by
  obtain ⟨filed', split⟩ := (accounted.filed sid lt).take found
  have counts := accounted.counts lt whole fun w => (Nat.le_add_right _ _).trans_eq (split w).symm
  refine ⟨counts, fun st' ok => ?_⟩
  obtain ⟨lists, -, rest⟩ := bind_eq_ok ok
  cases rest
  obtain ⟨lessBytes, lessMessages⟩ := counts.toNat_sub
  have splitBytes := split Sctp.bytes
  have splitMessages := split Sctp.messages
  have one : Sctp.messages chunk = 1 := if_pos whole
  split_ifs
  · refine ⟨accounted.replace lt rfl rfl (filed'.setExpected _) ?_ ?_, rfl⟩
    · dsimp only [setStream, SCTPReceiveStream.total] at splitBytes ⊢
      omega
    · dsimp only [setStream, SCTPReceiveStream.total] at splitMessages ⊢
      omega
  · refine ⟨accounted.replace lt rfl rfl filed' ?_ ?_, rfl⟩
    · dsimp only [setStream]
      omega
    · dsimp only [setStream]
      omega

lemma dropFromStreams {uBit : Bool} {tryTSN : UInt32} {count : ℕ}
    (within : sid + count ≤ st.params.inboundStreams)
    (whole : ∀ chunk, st.dropped uBit tryTSN count sid = some chunk → chunk.whole = true) :
    (∀ chunk, st.dropped uBit tryTSN count sid = some chunk → st.Counts chunk) ∧
      ∀ r, st.dropFromStreams uBit tryTSN count sid = .ok r →
        Accounted r.2 ∧ r.2.params = st.params := by
  induction count generalizing sid with
  | zero =>
    refine ⟨nofun, fun r ok => ?_⟩
    cases ok
    exact ⟨accounted, rfl⟩
  | succ count ih =>
    rw [Receiver.dropped] at whole ⊢
    rw [Receiver.dropFromStreams]
    cases found : st.chunkToDrop uBit tryTSN sid with
    | none =>
      rw [found] at whole
      exact ih (by omega) whole
    | some pair =>
      obtain ⟨name, chunk⟩ := pair
      rw [found] at whole
      obtain ⟨counts, drops⟩ :=
        accounted.dropChunk (by omega) (chunkToDrop_some found) (whole chunk rfl)
      refine ⟨fun chunk' eq => ?_, fun r ok => ?_⟩
      · cases eq
        exact counts
      · obtain ⟨st₁, ok₁, rest⟩ := bind_eq_ok ok
        cases rest
        exact drops st₁ ok₁

lemma makeRoomLoop {tsn length tryTSN sum : UInt32} {uBit : Bool} {rounds : ℕ}
    (whole : EachDrop (fun _ chunk => chunk.whole = true) tsn length uBit rounds tryTSN sum st) :
    EachDrop Counts tsn length uBit rounds tryTSN sum st ∧
      ∀ r, Receiver.makeRoomLoop tsn length uBit rounds tryTSN sum st = .ok r → Accounted r.2 := by
  induction rounds generalizing st tryTSN sum with
  | zero =>
    refine ⟨trivial, fun r ok => ?_⟩
    cases ok
    exact accounted
  | succ rounds ih =>
    refine ⟨fun less above before => ?_, fun r ok => ?_⟩
    · obtain ⟨wholes, next⟩ := whole less above before
      obtain ⟨counts, drops⟩ := accounted.dropFromStreams (by omega) wholes
      exact ⟨counts, fun r ok => (ih (drops r ok).1 (next r ok)).1⟩
    · rw [Receiver.makeRoomLoop] at ok
      split_ifs at ok with more beyond
      · cases ok
        exact accounted
      · obtain ⟨wholes, next⟩ := whole more.1 more.2 (Bool.eq_false_of_not_eq_true beyond)
        obtain ⟨⟨len, st₁⟩, ok₁, rest⟩ := bind_eq_ok ok
        have drops := (accounted.dropFromStreams (by omega) wholes).2 _ ok₁
        exact (ih drops.1 (next _ ok₁)).2 r rest
      · cases ok
        exact accounted

variable {dataChunk : SCTPDataChunk}

lemma admitChunk (whole : AdmitDrops (fun _ chunk => chunk.whole = true) st dataChunk) :
    AdmitDrops Counts st dataChunk ∧ ∀ r, st.admitChunk dataChunk = .ok r → Accounted r.2 := by
  refine ⟨fun full before below able =>
    (accounted.makeRoomLoop (whole full before below able)).1, fun r ok => ?_⟩
  rw [Receiver.admitChunk] at ok
  by_cases full : st.bufferFull = true
  · rw [if_pos full] at ok
    dsimp only at ok
    by_cases beyond : tsnGt dataChunk.tsn st.gapList.getHighestTSNReceived = true
    · rw [if_pos beyond] at ok
      cases ok
      exact accounted
    · split_ifs at ok with room
      · rw [makeRoomForTsn, room.2] at ok
        exact (accounted.makeRoomLoop
          (whole full (Bool.eq_false_of_not_eq_true beyond) room.1 room.2)).2 r ok
      · cases ok
        exact accounted
  · rw [if_neg full] at ok
    cases ok
    exact accounted

/-! ## Arrivals -/

omit accounted in
lemma eight_dvd_makeVar (dataChunk : SCTPDataChunk) : 8 ∣ dataChunk.makeVar.len.toNat := by
  rw [SCTPDataChunk.makeVar]
  have eight : (8 : UInt32).toNat = 8 := rfl
  split_ifs
  · rw [UInt32.toNat_ofNat']
    omega
  · rw [UInt32.toNat_mul, eight]
    omega

lemma countNew (enqueueExact : st.EnqueueExact dataChunk)
    (lt : dataChunk.sid.toNat < st.params.inboundStreams) {ret : ℕ}
    (ok : (st.receiveStreams dataChunk.sid.toNat).enqueueNewDataChunk dataChunk.makeVar =
      .ok (ret, rs)) : 0 < ret ∧ Accounted (st.countNew dataChunk ret rs) := by
  obtain ⟨countable, length, roomBytes, roomMessages⟩ := enqueueExact
  obtain ⟨filed, positive, totalBytes, totalMessages⟩ :=
    (accounted.filed _ lt).enqueue countable (eight_dvd_makeVar dataChunk) rfl ok
  refine ⟨positive, accounted.replace lt rfl rfl filed ?_ ?_⟩
  · dsimp only [Receiver.countNew, setStream]
    rw [UInt64.toNat_add, UInt32.toNat_toUInt64]
    omega
  · dsimp only [Receiver.countNew, setStream]
    split_ifs at totalMessages ⊢
    · rw [UInt32.toNat_add, show (1 : UInt32).toNat = 1 from rfl]
      omega
    · omega

lemma enqueueChunk (enqueueExact : st.EnqueueExact dataChunk) {ev : SCTPEventCode}
    (ok : st.enqueueChunk dataChunk = .ok (ev, st')) : Accounted st' := by
  obtain ⟨rs, found, rest⟩ := bind_eq_ok ok
  rw [findStream] at found
  split_ifs at found with lt
  cases found
  obtain ⟨⟨ret, rs'⟩, ok', rest⟩ := bind_eq_ok rest
  obtain ⟨positive, counted⟩ := accounted.countNew enqueueExact lt ok'
  dsimp only at rest
  split_ifs at rest
  · obtain ⟨st₁, ok₁, rest⟩ := bind_eq_ok rest
    cases rest
    exact (counted.putInDeliveryQ ok₁).2.1
  · cases rest
    exact counted

lemma enqueueCounted
    (enqueueExact : st.EnqueueExact dataChunk) : st.EnqueueCounted dataChunk := by
  intro before found ret rs ok _ _
  rw [findStream] at found
  split_ifs at found with lt
  cases found
  have counted := (accounted.countNew enqueueExact lt ok).2
  have moves := (counted.putInDeliveryLoop lt rs.orderedQ.size).1
  exact moves

lemma takeIn (takenIn : ∀ st', st.TakenIn st' dataChunk → st'.EnqueueExact dataChunk)
    {ev : SCTPEventCode} (ok : st.takeIn dataChunk = .ok (ev, st')) : Accounted st' := by
  obtain ⟨⟨covered, fresh, lists⟩, ok₁, rest⟩ := bind_eq_ok ok
  obtain ⟨⟨advanced, lists'⟩, ok₂, rest⟩ := bind_eq_ok rest
  have accounted' : Accounted { st with gapList := lists', newChunkReceived := fresh } :=
    accounted.same rfl rfl rfl rfl
  dsimp only at rest
  cases fresh with
  | true =>
    obtain ⟨⟨ev', st₁⟩, ok₃, rest⟩ := bind_eq_ok rest
    cases rest
    have queued := accounted'.enqueueChunk
      (takenIn _ ⟨covered, lists, advanced, lists', ok₁, ok₂, rfl⟩) ok₃
    exact queued.same rfl rfl rfl rfl
  | false =>
    cases rest
    exact accounted'

lemma processDataArrived (arrival : EachArrival (fun _ chunk => chunk.whole = true) EnqueueExact
      { st with newChunkReceived := false } dataChunk) :
    EachArrival Counts EnqueueCounted { st with newChunkReceived := false } dataChunk ∧
      ∀ r, st.processDataArrived dataChunk = .ok r → Accounted r.2 := by
  have accounted₀ : Accounted { st with newChunkReceived := false } :=
    accounted.same rfl rfl rfl rfl
  refine ⟨fun running uncovered new => ?_, fun r ok => ?_⟩
  · obtain ⟨wholes, next⟩ := arrival running uncovered new
    obtain ⟨counts, admits⟩ := accounted₀.admitChunk wholes
    refine ⟨counts, fun st₁ st₂ ok₁ takenIn => ?_⟩
    have enqueueExact := next st₁ st₂ ok₁ takenIn
    obtain ⟨covered, lists, advanced, lists', -, -, rfl⟩ := takenIn
    have accounted₂ : Accounted { st₁ with gapList := lists', newChunkReceived := true } :=
      (admits _ ok₁).same rfl rfl rfl rfl
    exact accounted₂.enqueueCounted enqueueExact
  · rw [Receiver.processDataArrived] at ok
    dsimp only at ok
    split_ifs at ok with stopped covered old duplicate
    · cases ok
      exact accounted₀
    · cases ok
      exact accounted.same rfl rfl rfl rfl
    · cases ok
      exact accounted.same rfl rfl rfl rfl
    · cases ok
      exact accounted.same rfl rfl rfl rfl
    · obtain ⟨⟨admitted, st₁⟩, ok₁, rest⟩ := bind_eq_ok ok
      obtain ⟨wholes, next⟩ := arrival (Bool.eq_false_of_not_eq_true stopped)
        (Bool.eq_false_of_not_eq_true covered) (Bool.eq_false_of_not_eq_true duplicate)
      have accounted₁ := (accounted₀.admitChunk wholes).2 _ ok₁
      dsimp only at rest
      split_ifs at rest with taken
      · rw [taken] at ok₁
        exact accounted₁.takeIn (fun st₂ takenIn => next st₁ st₂ ok₁ takenIn) rest
      · cases rest
        exact accounted₁

lemma skipEntry {entry : UInt16 × ℤ} (ok : st.skipEntry entry = .ok st') : Accounted st' := by
  rw [Receiver.skipEntry] at ok
  by_cases marked : entry.2 ≠ -1
  · rw [if_pos marked] at ok
    obtain ⟨rs, found, rest⟩ := bind_eq_ok ok
    rw [findStream] at found
    split_ifs at found with lt
    cases found
    obtain ⟨expected, -, rest'⟩ := bind_eq_ok rest
    cases rest'
    exact accounted.replace lt rfl rfl ((accounted.filed _ lt).setExpected _) rfl rfl
  · rw [if_neg marked] at ok
    cases ok
    exact accounted

lemma skipEntries {entries : List (UInt16 × ℤ)}
    (ok : Receiver.skipEntries entries st = .ok st') : Accounted st' := by
  induction entries generalizing st with
  | nil =>
    cases ok
    exact accounted
  | cons entry entries ih =>
    obtain ⟨st₁, ok₁, rest⟩ := bind_eq_ok ok
    exact ih (accounted.skipEntry ok₁) rest

lemma abandonTsns {count : ℕ} {i : UInt32}
    (ok : Receiver.abandonTsns count i st = .ok st') : Accounted st' := by
  induction count generalizing st i with
  | zero =>
    cases ok
    exact accounted
  | succ count ih =>
    obtain ⟨st₁, ok₁, rest⟩ := bind_eq_ok ok
    refine ih ?_ rest
    rw [abandonTsn] at ok₁
    split_ifs at ok₁
    · obtain ⟨r, -, rest₁⟩ := bind_eq_ok ok₁
      obtain ⟨r', -, rest₁⟩ := bind_eq_ok rest₁
      cases rest₁
      exact accounted.same rfl rfl rfl rfl
    · cases ok₁
      exact accounted

lemma processForwardTsnArrived {fwChunk : SCTPForwardTsnChunk}
    (ok : st.processForwardTsnArrived fwChunk = .ok st') : Accounted st' := by
  rw [Receiver.processForwardTsnArrived] at ok
  by_cases old : fwChunk.newCumTsn ≤ st.gapList.cumAckTSN
  · rw [if_pos old] at ok
    cases ok
    exact accounted
  · rw [if_neg old] at ok
    obtain ⟨st₁, ok₁, rest⟩ := bind_eq_ok ok
    split_ifs at rest
    exact (accounted.skipEntries ok₁).abandonTsns rest

lemma step {ev : Event} (stepExact : st.StepExact ev) :
    st.NoUnderflow ev ∧ ∀ r, st.step ev = .ok r → Accounted r.1 := by
  cases ev with
  | data dataChunk =>
    obtain ⟨counted, arrives⟩ := accounted.processDataArrived stepExact
    refine ⟨counted, fun r ok => ?_⟩
    obtain ⟨r', ok', rfl⟩ := map_eq_ok ok
    exact arrives r' ok'
  | forwardTsn fwChunk =>
    refine ⟨trivial, fun r ok => ?_⟩
    obtain ⟨st₁, ok', rfl⟩ := map_eq_ok ok
    exact accounted.processForwardTsnArrived ok'
  | receive => exact accounted.pushUlp
  | sack =>
    refine ⟨trivial, fun r ok => ?_⟩
    cases ok
    exact accounted.sendSack

/-! ## The advertised window -/

lemma counters_empty (empty : st.QueuesEmpty) :
    st.queuedReceivedBytes = 0 ∧ st.bufferedMessages = 0 := by
  have nothing (w : SCTPDataVariables → ℕ) : st.total w = 0 := by
    refine sum_eq_zero fun sid mem => ?_
    have each := empty sid (mem_range.mp mem)
    have ordered : (st.receiveStreams sid).orderedQ = .empty := each .ordered
    have unordered : (st.receiveStreams sid).unorderedQ = .empty := each .unordered
    have delivery : (st.receiveStreams sid).deliveryQ = .empty := each .delivery
    simp only [SCTPReceiveStream.total, ordered, unordered, delivery, OrderedMap.total_empty,
      Nat.add_zero]
  have noBytes := accounted.bytes
  have noMessages := accounted.messages
  rw [nothing] at noBytes noMessages
  exact ⟨UInt64.toNat_inj.mp noBytes, UInt32.toNat_inj.mp noMessages⟩

lemma advertise_empty (empty : st.QueuesEmpty) (canOpen : st.CanOpen) :
    st.advertise.1.toNat = st.params.localRwnd.toNat := by
  obtain ⟨noBytes, noMessages⟩ := accounted.counters_empty empty
  obtain ⟨positive, small, limit, counted, avoidance⟩ := canOpen
  have window : st.params.localRwnd - st.queuedReceivedBytes = st.params.localRwnd := by
    rw [noBytes, UInt64.sub_zero]
  have free : st.freeWindow = st.params.localRwnd := by
    rw [freeWindow, window, noMessages, UInt32.zero_mul]
    exact UInt64.sub_zero _
  have narrow : st.params.localRwnd.toUInt32.toNat = st.params.localRwnd.toNat := by
    exact Nat.mod_eq_of_lt (by omega)
  have signed : int32 st.params.localRwnd.toUInt32 = st.params.localRwnd.toNat := by
    rw [int32_eq, narrow, if_pos small]
  have notFull : ¬ int32 st.params.localRwnd.toUInt32 ≤ 0 := by
    omega
  have enough : ¬ st.params.localRwnd < st.params.swsLimit.toUInt64 := by
    rw [UInt64.lt_iff_toNat_lt, UInt32.toNat_toUInt64]
    omega
  rw [advertise]
  dsimp only
  rw [window]
  by_cases told : st.params.tellArwnd = true
  · obtain ⟨noLimit, off⟩ := counted told
    have noLimit' : ¬ 0 < st.params.messageAcceptLimit := by
      rw [noLimit]
      exact lt_irrefl _
    rw [if_pos told, msgRwnd]
    rw [free, off, if_neg, if_neg, if_neg noLimit']
    · exact narrow
    · rintro (⟨some_, -⟩ | ⟨-, low⟩ | on)
      · exact noLimit' some_
      · exact enough low
      · cases on
    · rintro (⟨some_, -⟩ | ⟨-, low⟩)
      · exact noLimit' some_
      · exact notFull low
  · have off := avoidance (Bool.eq_false_of_not_eq_true told)
    rw [if_neg told, if_neg notFull, if_neg]
    · exact narrow
    · rintro (low | on)
      · exact enough low
      · rw [off] at on
        cases on

omit accounted

lemma start (params : ReceiverParams) (cumAckTSN : UInt32) :
    Accounted (Receiver.start params cumAckTSN) := by
  have nothing (w : SCTPDataVariables → ℕ) : (Receiver.start params cumAckTSN).total w = 0 :=
    sum_eq_zero fun _ _ => rfl
  exact ⟨fun _ _ => .init, (nothing _).symm, (nothing _).symm⟩

end Accounted

/-- A step that meets the condition. -/
def ExactStep (st st' : Receiver) : Prop :=
  ∃ event toApp, st.StepExact event ∧ st.step event = .ok (st', toApp)

/-- The counters are what is in the queues, never go below 0, and the advertised window opens when
the queues are empty. -/
theorem accounts_along_run {params : ReceiverParams} {cumAckTSN : UInt32}
    (reached : Relation.ReflTransGen ExactStep (start params cumAckTSN) st) :
    st.queuedReceivedBytes.toNat = st.total Sctp.bytes ∧
      st.bufferedMessages.toNat = st.total Sctp.messages ∧
      (∀ ev, st.StepExact ev → st.NoUnderflow ev) ∧
      (st.StepExact .sack → st.QueuesEmpty → st.advertise.1.toNat = st.params.localRwnd.toNat) := by
  have accounted : Accounted st := by
    induction reached with
    | refl => exact Accounted.start params cumAckTSN
    | tail _ safe ih =>
      obtain ⟨ev, toApp, stepExact, ok⟩ := safe
      exact (ih.step stepExact).2 _ ok
  exact ⟨accounted.bytes, accounted.messages, fun ev stepExact => (accounted.step stepExact).1,
    fun canOpen empty => accounted.advertise_empty empty (canOpen empty)⟩

theorem accounts_along_run_one :
    ∃ st, (start oneByOne 0).step (.data (wholeByte 1)) = .ok (st, []) ∧
      st.queuedReceivedBytes.toNat = 1 ∧ st.total Sctp.bytes = 1 := by
  have exactly : (start oneByOne 0).StepExact (.data (wholeByte 1)) := by
    intro _ _ _
    refine ⟨fun full => absurd full (by decide), fun st' st'' admitted takenIn => ?_⟩
    cases admitted
    obtain ⟨covered, lists, advanced, lists', -, -, rfl⟩ := takenIn
    have room : (0 : UInt64).toNat + (wholeByte 1).payloadLength.toNat < 18446744073709551616 := by
      decide
    have roomMessages : (0 : UInt32).toNat + 1 < 4294967296 := by decide
    refine ⟨⟨fun name => ?_, nofun, nofun, nofun⟩, by decide, room, roomMessages⟩
    cases name <;> rfl
  refine ⟨_, rfl, by decide, ?_⟩
  exact (accounts_along_run (.single ⟨_, _, exactly, rfl⟩)).1.symm.trans (by decide)

/-- The message with SSN 1 comes first, in two fragments, and is not counted when it is complete. -/
theorem accounts_miss_message :
    ∃ sts, states [.data (oneByte 2 1 true false false), .data (oneByte 3 1 false true false),
        .data (oneByte 1 0 true true false), .receive, .receive] (start oneByOne 0) = .ok sts ∧
      ∃ st ∈ sts, st.bufferedMessages.toNat ≠ st.total Sctp.messages := by
  refine ⟨_, rfl, _, .tail _ (.tail _ (.tail _ (.tail _ (.head _)))), ?_⟩
  decide

end Receiver

end Inet.Sctp
