import Inet.Lib.Slice
import Inet.Tcp.Queues.RcvQueueReading

/-!
# TCPByteStreamRcvQueue

The receive queue whose regions carry the bytes. Two things in `merge` go wrong for some inputs and
are kept: the copy behind the old end reads the other region's data from offset 0, and the copy
targets `buff + begin - nbegin` are pointers, wider than sequence numbers, so where these wrap in
between the target lies outside the buffer. `ByteStreamRegion.MergesCleanly` states when neither
matters.
-/

namespace Inet.Tcp

/-- `TCPByteStreamRcvQueue::Region`. -/
structure ByteStreamRegion extends Region where
  data : ByteArray

namespace ByteStreamRegion

/-- `copyDataToBuffer(buff + seq - nbegin, …)`: the octets `source` go to the
offset `seq - nbegin`, computed without wrapping. -/
def copyTo (buff : List UInt8) (seq nbegin : UInt32) (source : List UInt8) :
    Except TcpError (List UInt8) :=
  match writeAt buff (seq.toNat - nbegin.toNat) source with
  | some buff => .ok buff
  | none => .error .outOfBounds

/-- `if (needed) copyDataToBuffer(…)`. -/
def copyToIf (needed : Prop) [Decidable needed] (buff : List UInt8) (seq nbegin : UInt32)
    (source : List UInt8) : Except TcpError (List UInt8) :=
  if needed then copyTo buff seq nbegin source else .ok buff

/-- The buffer `merge` assembles for `[nbegin, nend)`; octets of a new buffer
that no copy reaches are zero here. -/
def mergedBuffer (self other : ByteStreamRegion) (nbegin nend : UInt32) :
    Except TcpError (List UInt8) := do
  let buff := List.replicate (nend - nbegin).toNat 0
  let buff ← copyToIf (nbegin ≠ self.begin) buff nbegin nbegin
    (other.data.copyDataToBuffer (self.begin - nbegin) 0)
  let buff ← copyTo buff self.begin nbegin (self.data.copyDataToBuffer (self.end - self.begin) 0)
  copyToIf (nend ≠ self.end) buff self.end nbegin (other.data.copyDataToBuffer (nend - self.end) 0)

def merge (self other : ByteStreamRegion) : Except TcpError (Option ByteStreamRegion) :=
  if seqLess self.end other.begin ∨ seqLess other.end self.begin then .ok none
  else
    let nbegin := seqMin self.begin other.begin
    let nend := seqMax self.end other.end
    if nbegin ≠ self.begin ∨ nend ≠ self.end then do
      let buff ← mergedBuffer self other nbegin nend
      return some ⟨⟨nbegin, nend⟩, .setDataFromBuffer buff (nend - nbegin)⟩
    else .ok (some self)

def split (self : ByteStreamRegion) (seq : UInt32) :
    Except TcpError (ByteStreamRegion × ByteStreamRegion) := do
  assert (seqGreater seq self.begin ∧ seqLess seq self.end)
    "seqGreater(seq, begin) && seqLess(seq, end)"
  let front ← ByteArray.setDataFromByteArray self.data 0 (seq - self.begin)
  let back ← self.data.truncateData (seq - self.begin) 0
  return (⟨⟨self.begin, seq⟩, front⟩, ⟨⟨seq, self.end⟩, back⟩)

/-- The `ByteArrayMessage` made from a region: byte length and byte array. -/
def toMessage (region : ByteStreamRegion) : Except TcpError (UInt32 × ByteArray) := do
  assert (region.getLength = region.data.getDataArraySize)
    "getLength() == data.getDataArraySize()"
  return (region.getLength, region.data)

def createRegionFromSegment (tcpseg : TCPSegment) : Except TcpError ByteStreamRegion := do
  assert (tcpseg.payloadLength = tcpseg.byteArray.getDataArraySize.toNat)
    "tcpseg->getPayloadLength() == tcpseg->getByteArray().getDataArraySize()"
  return ⟨⟨tcpseg.sequenceNo, tcpseg.endSequenceNo⟩, tcpseg.byteArray⟩

instance : RcvRegion ByteStreamRegion where
  toRegion := ByteStreamRegion.toRegion
  merge := ByteStreamRegion.merge
  split := ByteStreamRegion.split
  createRegionFromSegment := ByteStreamRegion.createRegionFromSegment

end ByteStreamRegion

abbrev ByteStreamRcvQueue := VirtualDataRcvQueue ByteStreamRegion

namespace ByteStreamRcvQueue

def extractBytesUpTo (queue : ByteStreamRcvQueue) (seq : UInt32) :
    Except TcpError (Option (UInt32 × ByteArray) × ByteStreamRcvQueue) := do
  let (region, queue) ← queue.extractTo seq
  match region with
  | some region =>
      let msg ← region.toMessage
      return (some msg, queue)
  | none => return (none, queue)

end ByteStreamRcvQueue

/-! ## When merging keeps the bytes -/

/-- What `seg` absorbing `region` needs: below the segment the numbers do not wrap in between; above
it they do not wrap inside the segment and the region's first octets equal its last ones. -/
structure ByteStreamRegion.MergesCleanly (seg region : ByteStreamRegion) : Prop where
  head : seqLess region.begin seg.begin → seqLE seg.begin region.end →
    region.begin ≤ seg.begin
  tail : seqLE region.begin seg.end → seqLess seg.end region.end →
    seqMin seg.begin region.begin ≤ seg.end ∧ region.data.data.take (region.end - seg.end).toNat =
        region.data.data.drop (seg.end - region.begin).toNat

section Reading

variable (B : ℕ → UInt8)

/-- A region holding the octets of `B` in its range. -/
structure ByteStreamRegion.Holds (region : ByteStreamRegion) (s : Span ℕ) : Prop where
  begin_eq : region.begin = serial s.lo
  end_eq : region.end = serial s.hi
  data_eq : region.data.data = slice B s.lo s.hi

variable {B}

lemma ByteStreamRegion.copyTo_middle {left middle right source : List UInt8}
    {seq nbegin : UInt32} (le : nbegin ≤ seq)
    (atLeft : (seq - nbegin).toNat = left.length) (fits : source.length = middle.length) :
    copyTo (left ++ middle ++ right) seq nbegin source = .ok (left ++ source ++ right) := by
  have offset : (seq.toNat - nbegin.toNat : ℤ) = left.length := by
    rw [← atLeft, UInt32.toNat_sub_of_le _ _ le]
    have := UInt32.le_iff_toNat_le.mp le
    omega
  rw [copyTo, writeAt_middle offset fits]

/-- `copyDataToBuffer` from offset 0 reads the first octets of the range. -/
lemma ByteStreamRegion.Holds.copyDataToBuffer {r : ByteStreamRegion} {s : Span ℕ}
    (holds : r.Holds B s) {length : UInt32} {mid : ℕ} (eq : s.lo + length.toNat = mid)
    (le : mid ≤ s.hi) : r.data.copyDataToBuffer length 0 = slice B s.lo mid := by
  rw [ByteArray.copyDataToBuffer_zero (by rw [holds.data_eq, length_slice]; omega), holds.data_eq,
    take_slice eq le]

/-- `MergesCleanly` read over positions: `seg` stands for `s`, `region` for `t`. -/
def ByteStreamRegion.Mergeable (region : ByteStreamRegion) (t s : Span ℕ) : Prop :=
  (t.lo < s.lo → serial t.lo ≤ serial s.lo) ∧ (s.hi < t.hi → serial (min s.lo t.lo) ≤ serial s.hi ∧
      region.data.data.take (t.hi - s.hi) = region.data.data.drop (s.hi - t.lo))

lemma ByteStreamRegion.mergedBuffer_eq {seg r : ByteStreamRegion} {s t : Span ℕ}
    (segHolds : seg.Holds B s) (holds : r.Holds B t) (notBefore : ¬ s.Before t)
    (notAfter : ¬ t.Before s) (near : (s.hull t).hi ≤ (s.hull t).lo + 2147483648)
    (mergeable : r.Mergeable t s) :
    mergedBuffer seg r (serial (s.hull t).lo) (serial (s.hull t).hi) =
      .ok (slice B (s.hull t).lo (s.hull t).hi) := by
  have sLt := s.lo_lt_hi
  simp only [Span.Before, not_lt] at notBefore notAfter
  simp only [Span.hull_lo, Span.hull_hi] at near ⊢
  generalize nLo : min s.lo t.lo = lo at near ⊢
  generalize nHi : max s.hi t.hi = hi at near ⊢
  have blank : List.replicate (serial hi - serial lo).toNat (0 : UInt8) =
      List.replicate (s.lo - lo) 0 ++ (List.replicate (s.hi - s.lo) 0 ++
        List.replicate (hi - s.hi) 0) := by
    rw [toNat_serial_sub (by omega) (by omega), List.replicate_append_replicate,
      List.replicate_append_replicate]
    congr 1
    omega
  have head : copyToIf (serial lo ≠ seg.begin) (List.replicate (serial hi - serial lo).toNat 0)
        (serial lo) (serial lo) (r.data.copyDataToBuffer (seg.begin - serial lo) 0) =
      .ok (slice B lo s.lo ++ List.replicate (s.hi - s.lo) 0 ++ List.replicate (hi - s.hi) 0) := by
    rw [segHolds.begin_eq, blank, copyToIf]
    by_cases low : t.lo < s.lo
    · have lo_eq : lo = t.lo := by omega
      subst lo_eq
      rw [if_pos (by rw [ne_eq, serial_inj (by omega) (by omega)]; omega),
        holds.copyDataToBuffer (by
          rw [toNat_serial_sub (by omega) (by omega)]; omega : t.lo + _ = s.lo) (by omega),
        ← List.nil_append (List.replicate _ _ ++ _), ← List.append_assoc,
        copyTo_middle (UInt32.le_refl _) (by simp) (by simp), List.nil_append, List.append_assoc]
    · have lo_eq : lo = s.lo := by omega
      subst lo_eq
      simp
  have middle : copyTo (slice B lo s.lo ++ List.replicate (s.hi - s.lo) 0 ++
        List.replicate (hi - s.hi) 0) seg.begin (serial lo)
        (seg.data.copyDataToBuffer (seg.end - seg.begin) 0) =
      .ok (slice B lo s.hi ++ List.replicate (hi - s.hi) 0) := by
    have ordered : serial lo ≤ serial s.lo := by
      by_cases low : t.lo < s.lo
      · have lo_eq : lo = t.lo := by omega
        exact lo_eq ▸ mergeable.1 low
      · have lo_eq : lo = s.lo := by omega
        exact lo_eq ▸ UInt32.le_refl _
    rw [segHolds.begin_eq, segHolds.end_eq, segHolds.copyDataToBuffer (by
        rw [toNat_serial_sub (by omega) (by omega)]; omega : s.lo + _ = s.hi) le_rfl,
      copyTo_middle ordered (by
        rw [toNat_serial_sub (by omega) (by omega), length_slice]) (by simp),
      slice_append (by omega) (by omega)]
  have tail : copyToIf (serial hi ≠ seg.end) (slice B lo s.hi ++ List.replicate (hi - s.hi) 0)
        seg.end (serial lo) (r.data.copyDataToBuffer (serial hi - seg.end) 0) =
      .ok (slice B lo hi) := by
    rw [segHolds.end_eq, copyToIf]
    by_cases high : s.hi < t.hi
    · have hi_eq : hi = t.hi := by omega
      subst hi_eq
      obtain ⟨ordered, same⟩ := mergeable.2 high
      rw [nLo] at ordered
      -- The copy reads the first octets; by `same` these are the wanted ones.
      have source : r.data.copyDataToBuffer (serial t.hi - serial s.hi) 0 = slice B s.hi t.hi := by
        have length : (serial t.hi - serial s.hi).toNat = t.hi - s.hi :=
          toNat_serial_sub (by omega) (by omega)
        rw [ByteArray.copyDataToBuffer_zero (by rw [holds.data_eq, length_slice]; omega), length,
          same, holds.data_eq, drop_slice (by omega : t.lo + (s.hi - t.lo) = s.hi) (by omega)]
      rw [if_pos (by rw [ne_eq, serial_inj (by omega) (by omega)]; omega), source,
        ← List.append_nil (slice B lo s.hi ++ _), copyTo_middle ordered (by
          rw [toNat_serial_sub (by omega) (by omega), length_slice]) (by simp),
        List.append_nil, slice_append (by omega) (by omega)]
    · have hi_eq : hi = s.hi := by omega
      subst hi_eq
      simp
  simp only [mergedBuffer, bind, Except.bind, head, middle, tail]

section

variable {B : ℕ → UInt8} {seg region : ByteStreamRegion} {s t : Span ℕ}

lemma ByteStreamRegion.Holds.merge_reads (segHolds : seg.Holds B s) (holds : region.Holds B t)
    (notBefore : ¬ s.Before t) (notAfter : ¬ t.Before s)
    (near : (s.hull t).hi ≤ (s.hull t).lo + 2147483648) (mergeable : region.Mergeable t s) :
    ∃ merged, RcvRegion.merge seg region = .ok (some merged) ∧ merged.Holds B (s.hull t) := by
  have buffer := mergedBuffer_eq segHolds holds notBefore notAfter near mergeable
  have sLt := s.lo_lt_hi
  have tLt := t.lo_lt_hi
  simp only [Span.Before, not_lt, Span.hull_lo, Span.hull_hi] at notBefore notAfter near buffer
  have nbegin : seqMin seg.begin region.begin = serial (min s.lo t.lo) := by
    rw [segHolds.begin_eq, holds.begin_eq, seqMin_serial (by omega) (by omega)]
  have nend : seqMax seg.end region.end = serial (max s.hi t.hi) := by
    rw [segHolds.end_eq, holds.end_eq, seqMax_serial (by omega) (by omega)]
  have meet : ¬ (seqLess seg.end region.begin ∨ seqLess region.end seg.begin) := by
    rw [segHolds.begin_eq, segHolds.end_eq, holds.begin_eq, holds.end_eq,
      seqLess_serial (by omega) (by omega), seqLess_serial (by omega) (by omega)]
    omega
  change ∃ merged, ByteStreamRegion.merge seg region = .ok (some merged) ∧ merged.Holds B _
  rw [ByteStreamRegion.merge, if_neg meet]
  simp only [nbegin, nend]
  split_ifs with grown
  · refine ⟨⟨⟨_, _⟩, .setDataFromBuffer (slice B (min s.lo t.lo) (max s.hi t.hi)) _⟩, by
      rw [buffer]; rfl, rfl, rfl, ?_⟩
    simp only [ByteArray.setDataFromBuffer, Span.hull_lo, Span.hull_hi]
    rw [toNat_serial_sub (by omega) (by omega)]
    exact List.take_of_length_le (by simp)
  · rw [segHolds.begin_eq, segHolds.end_eq, ne_eq, ne_eq, serial_inj (by omega) (by omega),
      serial_inj (by omega) (by omega), not_or, not_not, not_not] at grown
    have same : s.hull t = s := Span.ext grown.1 grown.2
    exact ⟨seg, rfl, by rw [same]; exact segHolds⟩

lemma ByteStreamRegion.Mergeable.hull {u : Span ℕ} (mergeable : region.Mergeable t s)
    (tBefore : t.Before u) (notBefore : ¬ s.Before u) (apart : ¬ t.Before (s.hull u)) :
    region.Mergeable t (s.hull u) := by
  have := t.lo_lt_hi
  have := u.lo_lt_hi
  simp only [Span.Before, not_lt, Span.hull_lo, lt_min_iff, not_and_or] at *
  have lo_eq : min s.lo u.lo = s.lo := by omega
  refine ⟨?_, fun high => ?_⟩
  · rw [Span.hull_lo, lo_eq]
    exact mergeable.1
  · rw [Span.hull_hi] at high
    omega

lemma ByteStreamRegion.Holds.split_reads {m : ℕ} (holds : region.Holds B s)
    (near : s.hi ≤ s.lo + 2147483648) (above : s.lo < m) (below : m < s.hi) :
    ∃ extracted left, RcvRegion.split region (serial m) = .ok (extracted, left) ∧
      extracted.Holds B ⟨s.lo, m, above⟩ ∧ left.Holds B ⟨m, s.hi, below⟩ := by
  have inside : seqGreater (serial m) region.begin ∧ seqLess (serial m) region.end := by
    rw [holds.begin_eq, holds.end_eq, seqGreater_serial (by omega) (by omega),
      seqLess_serial (by omega) (by omega)]
    exact ⟨above, below⟩
  have cut : (serial m - region.begin).toNat = m - s.lo := by
    rw [holds.begin_eq, toNat_serial_sub (by omega) (by omega)]
  have size : region.data.data.length = s.hi - s.lo := by rw [holds.data_eq, length_slice]
  have fits : serial m - region.begin ≤ region.data.getDataArraySize := by
    rw [UInt32.le_iff_toNat_le, cut, ByteArray.toNat_getDataArraySize, size]
    omega
  have nonzero : serial m - region.begin ≠ 0 := by
    intro zero
    rw [zero, UInt32.toNat_zero] at cut
    omega
  have rest : (region.data.getDataArraySize - (serial m - region.begin)).toNat = s.hi - m := by
    rw [UInt32.toNat_sub_of_le _ _ fits, cut, ByteArray.toNat_getDataArraySize, size]
    omega
  refine ⟨⟨⟨region.begin, serial m⟩, .setDataFromBuffer region.data.data (serial m - region.begin)⟩,
    ⟨⟨serial m, region.end⟩, .setDataFromBuffer
      (region.data.data.drop (serial m - region.begin).toNat)
      (region.data.getDataArraySize - (serial m - region.begin))⟩, ?_,
    ⟨holds.begin_eq, rfl, ?_⟩, ⟨rfl, holds.end_eq, ?_⟩⟩
  · change ByteStreamRegion.split region (serial m) = _
    simp only [ByteStreamRegion.split, ByteArray.setDataFromByteArray, ByteArray.truncateData,
      assert_pos inside, UInt32.zero_add, UInt32.add_zero, assert_pos fits, bind, Except.bind,
      pure, Except.pure, UInt32.toNat_zero, List.drop_zero, if_pos (Or.inl nonzero)]
  · simp only [ByteArray.setDataFromBuffer, cut, holds.data_eq]
    exact take_slice (by omega) (by omega)
  · simp only [ByteArray.setDataFromBuffer, cut, rest, holds.data_eq]
    rw [drop_slice (by omega : s.lo + (m - s.lo) = m) (by omega)]
    exact List.take_of_length_le (by simp)

end

/-- Byte stream regions read as the octets of `B` in their range. -/
def ByteStreamRegion.reading (B : ℕ → UInt8) : RegionReading ByteStreamRegion where
  Rep region s := region.Holds B s
  Mergeable := ByteStreamRegion.Mergeable
  begin_eq holds := holds.begin_eq
  end_eq holds := holds.end_eq
  merge := Holds.merge_reads
  mergeable_hull := Mergeable.hull
  split := Holds.split_reads

end Reading

end Inet.Tcp
