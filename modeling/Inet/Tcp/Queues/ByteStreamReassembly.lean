import Inet.Tcp.Queues.ByteStreamRcvQueue

/-!
# Byte stream reassembly

Segments of one byte stream are inserted in any order, and now and then everything below `rcv_nxt`
is extracted.
-/

namespace Inet.Tcp

/-- A queue together with what an observer of it has seen: the bytes extracted
so far, and the positions inserted so far. -/
structure ByteStreamReceiver where
  queue : ByteStreamRcvQueue
  extracted : List UInt8
  inserted : Set ℕ

namespace ByteStreamReceiver

/-- A queue initialised to the start sequence number `s`; the stream's octets
occupy the positions from `s.toNat` on. -/
def start (s : UInt32) : ByteStreamReceiver := ⟨.init s, [], ∅⟩

/-- Position of the first octet not extracted yet. -/
def unextracted (receiver : ByteStreamReceiver) (s : UInt32) : ℕ :=
  s.toNat + receiver.extracted.length

/-- `tcpseg` carries the octets of `B` at `[lo, hi)`, starts at or above
`rcv_nxt` and ends less than `2 ^ 31` above the first unextracted octet. -/
structure Arrives (B : ℕ → UInt8) (s : UInt32) (receiver : ByteStreamReceiver)
    (tcpseg : TCPSegment) (lo hi : ℕ) : Prop where
  lo_lt_hi : lo < hi
  sequenceNo : tcpseg.sequenceNo = serial lo
  payloadLength : tcpseg.payloadLength = hi - lo
  bytes : tcpseg.byteArray.data = slice B lo hi
  unextracted_le : receiver.unextracted s ≤ lo
  atOrAboveNxt : seqGE tcpseg.sequenceNo receiver.queue.rcvNxt
  hi_lt : hi < receiver.unextracted s + 2147483648

/-- One operation on the queue. `Admits` restricts the insertions of the runs
considered. -/
inductive Step (B : ℕ → UInt8) (s : UInt32) (Admits : ByteStreamRcvQueue → TCPSegment → Prop) :
    ByteStreamReceiver → ByteStreamReceiver → Prop
  | insert {receiver : ByteStreamReceiver} {tcpseg : TCPSegment} {lo hi : ℕ}
      {queue : ByteStreamRcvQueue} (arrives : receiver.Arrives B s tcpseg lo hi)
      (admits : Admits receiver.queue tcpseg)
      (inserts : receiver.queue.insertBytesFromSegment tcpseg = .ok queue) :
      Step B s Admits receiver ⟨queue, receiver.extracted, receiver.inserted ∪ Set.Ico lo hi⟩
  | extract {receiver : ByteStreamReceiver} {msg : Option (UInt32 × ByteArray)}
      {queue : ByteStreamRcvQueue}
      (extracts : ByteStreamRcvQueue.extractBytesUpTo receiver.queue receiver.queue.rcvNxt =
        .ok (msg, queue)) :
      Step B s Admits receiver
        ⟨queue, receiver.extracted ++ (msg.map fun msg => msg.2.data).getD [], receiver.inserted⟩

/-- Receivers that a run of such operations leads to. -/
def Reachable (B : ℕ → UInt8) (s : UInt32) (Admits : ByteStreamRcvQueue → TCPSegment → Prop) :
    ByteStreamReceiver → Prop :=
  Relation.ReflTransGen (Step B s Admits) (start s)

/-- Every region the segment meets merges cleanly with it. -/
def MergesCleanly (queue : ByteStreamRcvQueue) (tcpseg : TCPSegment) : Prop :=
  ∀ region ∈ queue.regionList, ByteStreamRegion.MergesCleanly
      ⟨⟨tcpseg.sequenceNo, tcpseg.endSequenceNo⟩, tcpseg.byteArray⟩ region

/-! ## The invariant -/

/-- The queue represents a reassembly buffer over the inserted positions, and
the extracted bytes are the stream up to where that buffer has been emptied. -/
structure Inv (B : ℕ → UInt8) (s : UInt32) (receiver : ByteStreamReceiver)
    (spans : List (Span ℕ)) (next : ℕ) : Prop where
  represents : receiver.queue.Represents (ByteStreamRegion.reading B) spans next
  reassembly : Reassembly s.toNat (receiver.unextracted s) next receiver.inserted spans
  spansIn : ∀ t ∈ spans,
    t.Within (receiver.unextracted s) (receiver.unextracted s + 2147483647)
  next_le : next ≤ receiver.unextracted s + 2147483647
  extracted_eq : receiver.extracted = slice B s.toNat (receiver.unextracted s)

variable {B : ℕ → UInt8} {s : UInt32} {receiver : ByteStreamReceiver} {spans : List (Span ℕ)}
  {next : ℕ}

lemma Inv.start (B : ℕ → UInt8) (s : UInt32) : (start s).Inv B s [] s.toNat where
  represents := by
    exact ⟨.nil, List.Pairwise.nil, (serial_toNat s).symm⟩
  reassembly := Reassembly.empty s.toNat
  spansIn := by simp
  next_le := by simp [unextracted, ByteStreamReceiver.start]
  extracted_eq := by simp [unextracted, ByteStreamReceiver.start]

lemma Arrives.createRegion {tcpseg : TCPSegment} {lo hi : ℕ}
    (arrives : receiver.Arrives B s tcpseg lo hi) :
    ∃ r, ByteStreamRegion.createRegionFromSegment tcpseg = .ok r ∧
      r = ⟨⟨tcpseg.sequenceNo, tcpseg.endSequenceNo⟩, tcpseg.byteArray⟩ ∧
      r.Holds B ⟨lo, hi, arrives.lo_lt_hi⟩ := by
  have size : tcpseg.payloadLength = tcpseg.byteArray.getDataArraySize.toNat := by
    rw [ByteArray.toNat_getDataArraySize, arrives.bytes, length_slice, arrives.payloadLength]
  have lt := arrives.lo_lt_hi
  refine ⟨_, ?_, rfl, arrives.sequenceNo, ?_, arrives.bytes⟩
  · simp only [ByteStreamRegion.createRegionFromSegment, assert_pos size, bind, Except.bind]
    rfl
  · change tcpseg.endSequenceNo = serial hi
    rw [TCPSegment.endSequenceNo, arrives.sequenceNo, arrives.payloadLength, ← serial_add]
    congr 1
    omega

lemma mergeable_of_mergesCleanly {seg r : ByteStreamRegion} {s t : Span ℕ} {base : ℕ}
    (segHolds : seg.Holds B s) (holds : r.Holds B t)
    (sIn : s.Within base (base + 2147483647)) (tIn : t.Within base (base + 2147483647))
    (clean : seg.MergesCleanly r) (notBefore : ¬ t.Before s) (notAfter : ¬ s.Before t) :
    r.Mergeable t s := by
  simp only [Span.Before, Span.Within, not_lt] at notBefore notAfter sIn tIn
  obtain ⟨head, tail⟩ := clean
  rw [holds.begin_eq, holds.end_eq, segHolds.begin_eq, seqLess_serial (by omega) (by omega),
    seqLE_serial (by omega) (by omega)] at head
  rw [holds.begin_eq, holds.end_eq, segHolds.begin_eq, segHolds.end_eq,
    seqLess_serial (by omega) (by omega), seqLE_serial (by omega) (by omega),
    seqMin_serial (by omega) (by omega)] at tail
  refine ⟨fun low => head low notBefore, fun high => ?_⟩
  rw [toNat_serial_sub (by omega) (by omega), toNat_serial_sub (by omega) (by omega)] at tail
  exact tail notAfter high

lemma Inv.insert (inv : receiver.Inv B s spans next) {tcpseg : TCPSegment} {lo hi : ℕ}
    (arrives : receiver.Arrives B s tcpseg lo hi) (clean : MergesCleanly receiver.queue tcpseg) :
    ∃ queue, receiver.queue.insertBytesFromSegment tcpseg = .ok queue ∧ ∃ spans' next', Inv B s
        ⟨queue, receiver.extracted, receiver.inserted ∪ Set.Ico lo hi⟩ spans' next' := by
  obtain ⟨r, create, region_eq, holds⟩ := arrives.createRegion
  have nextGe := inv.reassembly.taken_le
  have nextLe := inv.next_le
  have above : next ≤ lo := by
    have ge := arrives.atOrAboveNxt
    have := arrives.unextracted_le
    have := arrives.hi_lt
    have := arrives.lo_lt_hi
    rwa [arrives.sequenceNo, inv.represents.rcvNxt, seqGE_serial (by omega) (by omega)] at ge
  have segIn : Span.Within (receiver.unextracted s) (receiver.unextracted s + 2147483647)
      ⟨lo, hi, arrives.lo_lt_hi⟩ := ⟨arrives.unextracted_le, Nat.le_of_lt_succ arrives.hi_lt⟩
  have widen : ∀ {t : Span ℕ},
      t.Within (receiver.unextracted s) (receiver.unextracted s + 2147483647) →
      t.Within (receiver.unextracted s) (receiver.unextracted s + 2147483648) :=
    fun tIn => tIn.mono le_rfl (by omega)
  obtain ⟨queue, inserts, represents⟩ := inv.represents.insertRegion
    (fun t mem => widen (inv.spansIn t mem)) nextGe (by omega) holds (widen segIn) (by
      intro pair mem notBefore notAfter
      have tIn := inv.spansIn pair.2 (List.of_mem_zip mem).2
      have tHolds := List.forall₂_zip inv.represents.regions mem
      refine mergeable_of_mergesCleanly holds tHolds segIn tIn ?_ notBefore notAfter
      rw [region_eq]
      exact clean pair.1 (List.of_mem_zip mem).1)
  refine ⟨queue, ?_, _, _, represents, inv.reassembly.insert ⟨lo, hi, arrives.lo_lt_hi⟩ above,
    ?_, ?_, inv.extracted_eq⟩
  · change (do
      let r ← ByteStreamRegion.createRegionFromSegment tcpseg
      receiver.queue.insertRegion r) = _
    rw [create]
    exact inserts
  · exact SpanList.within_insertBack segIn
      (fun t mem => inv.spansIn t (List.mem_reverse.mp mem)) (by simp)
  · exact nextOfSpans_le (SpanList.within_insertBack segIn
      (fun t mem => inv.spansIn t (List.mem_reverse.mp mem)) (by simp)) nextLe

lemma Inv.extract (inv : receiver.Inv B s spans next) :
    ∃ msg queue, ByteStreamRcvQueue.extractBytesUpTo receiver.queue receiver.queue.rcvNxt =
        .ok (msg, queue) ∧
      ∃ spans', Inv B s ⟨queue, receiver.extracted ++ (msg.map fun msg => msg.2.data).getD [],
        receiver.inserted⟩ spans' next := by
  have le := inv.reassembly.taken_le
  have startLe := inv.reassembly.start_le
  have nextLe := inv.next_le
  obtain ⟨taken, cut⟩ := inv.reassembly.take le le_rfl
  obtain ⟨r, queue, extracts, represents, extracted⟩ :=
    inv.represents.extractTo (fun t mem => (inv.spansIn t mem).mono le_rfl (by omega)) le le_rfl
      (by omega) (by omega)
  rw [← inv.represents.rcvNxt] at extracts
  -- Once the bytes handed out are known to be `[unextracted, next)`, the rest is bookkeeping.
  have finish : ∀ msg : Option (UInt32 × ByteArray),
      (msg.map fun msg => msg.2.data).getD [] = slice B (receiver.unextracted s) next →
      ∃ spans', Inv B s ⟨queue, receiver.extracted ++ (msg.map fun msg => msg.2.data).getD [],
        receiver.inserted⟩ spans' next := by
    intro msg bytes
    have appended : receiver.extracted ++ slice B (receiver.unextracted s) next =
        slice B s.toNat next := by
      conv_lhs => rw [inv.extracted_eq]
      exact slice_append startLe le
    have unextracted_eq : unextracted ⟨queue, slice B s.toNat next, receiver.inserted⟩ s = next := by
      simp only [unextracted, length_slice]
      omega
    rw [bytes, appended]
    refine ⟨_, represents, by rwa [unextracted_eq], ?_, by rw [unextracted_eq]; omega, by
      rw [unextracted_eq]⟩
    intro t mem
    rw [unextracted_eq]
    have covered := (cut.mem_cover t.lo).mp (mem_cover_of_mem mem le_rfl t.lo_lt_hi)
    have := SpanList.hi_le_of_mem_cutFirst inv.spansIn mem
    exact ⟨covered.2, by omega⟩
  rw [taken] at extracted
  by_cases lt : receiver.unextracted s < next
  · rw [dif_pos lt] at extracted
    cases extracted with
    | @some r span holds =>
      have size : r.getLength = r.data.getDataArraySize := by
        apply UInt32.toNat_inj.mp
        rw [ByteArray.toNat_getDataArraySize, holds.data_eq, length_slice, Region.getLength,
          holds.begin_eq, holds.end_eq,
          toNat_serial_sub (by simp only; omega) (by simp only; omega)]
      refine ⟨some (r.getLength, r.data), queue, ?_, finish _ holds.data_eq⟩
      simp only [ByteStreamRcvQueue.extractBytesUpTo, extracts, ByteStreamRegion.toMessage,
        assert_pos size, bind, Except.bind, pure, Except.pure]
  · rw [dif_neg lt] at extracted
    cases extracted with
    | none =>
      refine ⟨none, queue, ?_, finish none ?_⟩
      · simp only [ByteStreamRcvQueue.extractBytesUpTo, extracts, bind, Except.bind, pure,
          Except.pure]
      · have same : receiver.unextracted s = next := by omega
        simp [same]

lemma Inv.of_reachable (reachable : Reachable B s MergesCleanly receiver) :
    ∃ spans next, receiver.Inv B s spans next := by
  induction reachable with
  | refl => exact ⟨_, _, Inv.start B s⟩
  | tail _ step ih =>
    obtain ⟨spans, next, inv⟩ := ih
    cases step with
    | insert arrives clean inserts =>
      obtain ⟨queue', inserts', inv'⟩ := inv.insert arrives clean
      cases inserts.symm.trans inserts'
      exact inv'
    | extract extracts =>
      obtain ⟨msg', queue', extracts', spans', inv'⟩ := inv.extract
      cases extracts.symm.trans extracts'
      exact ⟨spans', next, inv'⟩

/-- While insertions merge cleanly, the bytes extracted are a prefix of the stream made of inserted
octets, `rcv_nxt` is the least sequence number not inserted, and no further operation of the run can
fail. -/
theorem reassembles (B : ℕ → UInt8) (s : UInt32) (receiver : ByteStreamReceiver)
    (reachable : Reachable B s MergesCleanly receiver) :
    receiver.extracted = slice B s.toNat (s.toNat + receiver.extracted.length) ∧
      (∃ next, IsLeast {p | s.toNat ≤ p ∧ p ∉ receiver.inserted} next ∧
        receiver.queue.rcvNxt = serial next ∧ s.toNat + receiver.extracted.length ≤ next) ∧
      (∀ tcpseg lo hi, receiver.Arrives B s tcpseg lo hi → MergesCleanly receiver.queue tcpseg →
        ∃ queue, receiver.queue.insertBytesFromSegment tcpseg = .ok queue) ∧
      ∃ msg queue, ByteStreamRcvQueue.extractBytesUpTo receiver.queue receiver.queue.rcvNxt =
        .ok (msg, queue) := by
  obtain ⟨spans, next, inv⟩ := Inv.of_reachable reachable
  refine ⟨inv.extracted_eq, ⟨next, inv.reassembly.isLeast, inv.represents.rcvNxt,
    inv.reassembly.taken_le⟩, ?_, ?_⟩
  · intro tcpseg lo hi arrives clean
    obtain ⟨queue, inserts, -⟩ := inv.insert arrives clean
    exact ⟨queue, inserts⟩
  · obtain ⟨msg, queue, extracts, -⟩ := inv.extract
    exact ⟨msg, queue, extracts⟩

/-- The stream of octets `0, 1, 2, …`. -/
def counting (p : ℕ) : UInt8 := UInt8.ofNat p

/-- The octets of `counting` at `[lo, hi)` as a segment. -/
def countingSegment (lo hi : UInt8) : TCPSegment where
  sequenceNo := serial lo.toNat
  payloadLength := hi.toNat - lo.toNat
  byteArray := ⟨slice counting lo.toNat hi.toNat, by
    rw [length_slice]; have := hi.toNat_lt; omega⟩

/-- `[2, 4)` inserted before `[0, 2)`, then everything extracted. -/
theorem reassembles_outOfOrder : ∃ receiver : ByteStreamReceiver,
    Reachable counting 0 MergesCleanly receiver ∧ receiver.extracted.length = 4 ∧
      receiver.extracted =
        slice counting (0 : UInt32).toNat ((0 : UInt32).toNat + receiver.extracted.length) := by
  have later : Step counting 0 MergesCleanly (start 0)
      ⟨⟨0, [⟨⟨2, 4⟩, ⟨[2, 3], by decide⟩⟩]⟩, [], ∅ ∪ Set.Ico 2 4⟩ :=
    .insert (⟨by decide, rfl, rfl, rfl, by decide, by decide, by decide⟩ :
      Arrives counting 0 _ (countingSegment 2 4) 2 4)
      (by intro r mem; cases mem) rfl
  have earlier : Step counting 0 MergesCleanly
      ⟨⟨0, [⟨⟨2, 4⟩, ⟨[2, 3], by decide⟩⟩]⟩, [], ∅ ∪ Set.Ico 2 4⟩
      ⟨⟨4, [⟨⟨0, 4⟩, ⟨[0, 1, 2, 3], by decide⟩⟩]⟩, [], ∅ ∪ Set.Ico 2 4 ∪ Set.Ico 0 2⟩ :=
    .insert (⟨by decide, rfl, rfl, rfl, by decide, by decide, by decide⟩ :
      Arrives counting 0 _ (countingSegment 0 2) 0 2)
      (by
        intro r mem
        rw [List.mem_singleton.mp mem]
        exact ⟨by decide, fun _ _ => ⟨by decide, by decide⟩⟩) rfl
  have extracts : ByteStreamRcvQueue.extractBytesUpTo
      ⟨4, [⟨⟨0, 4⟩, ⟨[0, 1, 2, 3], by decide⟩⟩]⟩ 4 = .ok (some (4, ⟨[0, 1, 2, 3], by decide⟩), ⟨4, []⟩) := rfl
  have all : Step counting 0 MergesCleanly
      ⟨⟨4, [⟨⟨0, 4⟩, ⟨[0, 1, 2, 3], by decide⟩⟩]⟩, [], ∅ ∪ Set.Ico 2 4 ∪ Set.Ico 0 2⟩
      ⟨⟨4, []⟩, [0, 1, 2, 3], ∅ ∪ Set.Ico 2 4 ∪ Set.Ico 0 2⟩ :=
    (.extract extracts : Step counting 0 MergesCleanly ⟨⟨4, _⟩, [], _⟩ _)
  have run : Reachable counting 0 MergesCleanly _ :=
    ((Relation.ReflTransGen.single later).tail earlier).tail all
  exact ⟨_, run, rfl, (reassembles _ _ _ run).1⟩

/-- A segment that ends inside a buffered region takes the octets behind its end from the region's
start. -/
theorem reassembles_fails_on_overlap : ∃ receiver : ByteStreamReceiver,
    Reachable counting 0 (fun _ _ => True) receiver ∧ receiver.extracted = [0, 1, 2, 2] ∧
      receiver.extracted ≠ slice counting 0 receiver.extracted.length := by
  have later : Step counting 0 (fun _ _ => True) (start 0)
      ⟨⟨0, [⟨⟨2, 4⟩, ⟨[2, 3], by decide⟩⟩]⟩, [], ∅ ∪ Set.Ico 2 4⟩ :=
    .insert (⟨by decide, rfl, rfl, rfl, by decide, by decide, by decide⟩ :
      Arrives counting 0 _ (countingSegment 2 4) 2 4) trivial rfl
  have overlapping : Step counting 0 (fun _ _ => True)
      ⟨⟨0, [⟨⟨2, 4⟩, ⟨[2, 3], by decide⟩⟩]⟩, [], ∅ ∪ Set.Ico 2 4⟩
      ⟨⟨4, [⟨⟨0, 4⟩, ⟨[0, 1, 2, 2], by decide⟩⟩]⟩, [], ∅ ∪ Set.Ico 2 4 ∪ Set.Ico 0 3⟩ :=
    .insert (⟨by decide, rfl, rfl, rfl, by decide, by decide, by decide⟩ :
      Arrives counting 0 _ (countingSegment 0 3) 0 3) trivial rfl
  have extracts : ByteStreamRcvQueue.extractBytesUpTo
      ⟨4, [⟨⟨0, 4⟩, ⟨[0, 1, 2, 2], by decide⟩⟩]⟩ 4 = .ok (some (4, ⟨[0, 1, 2, 2], by decide⟩), ⟨4, []⟩) := rfl
  have all : Step counting 0 (fun _ _ => True)
      ⟨⟨4, [⟨⟨0, 4⟩, ⟨[0, 1, 2, 2], by decide⟩⟩]⟩, [], ∅ ∪ Set.Ico 2 4 ∪ Set.Ico 0 3⟩
      ⟨⟨4, []⟩, [0, 1, 2, 2], ∅ ∪ Set.Ico 2 4 ∪ Set.Ico 0 3⟩ :=
    (.extract extracts : Step counting 0 (fun _ _ => True) ⟨⟨4, _⟩, [], _⟩ _)
  exact ⟨_, ((Relation.ReflTransGen.single later).tail overlapping).tail all, rfl, by decide⟩

end ByteStreamReceiver

end Inet.Tcp
