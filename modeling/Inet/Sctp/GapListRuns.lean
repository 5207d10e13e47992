import Inet.Sctp.GapListSets

/-!
# Runs of the gap list

Calls of `updateGapList`, with `tryToAdvanceCumAckTSN`, and of `removeFromGapList`, on a list that
is empty at first.
-/

namespace Inet.Sctp

namespace GapState

variable (st : GapState) (tsn : UInt32)

/-- The first TSN of the gap in front of the block at `i`. -/
def lowEnd (i : ℕ) : UInt32 :=
  if i = 0 then st.cTsnAck + 1 else st.gapList.gapStopList (i - 1) + 1

def inGap (i : ℕ) : Bool := tsnBetween (st.lowEnd i) tsn (st.gapList.gapStartList i - 1)

/-- In the gap, and next to neither of its ends. -/
def inMiddle (i : ℕ) : Bool :=
  st.inGap tsn i && tsn ≠ st.lowEnd i && tsn ≠ st.gapList.gapStartList i - 1

/-- The search passes over no block that starts at TSN 0, where that matters, and puts no block in
between others in a full list. -/
structure UpdateSafe : Prop where
  room : ∀ i < st.gapList.numGaps, st.gapList.gapStartList i ≠ 0 → st.inMiddle tsn i = true →
    st.gapList.numGaps < MAX_GAP_COUNT
  inBlock : ∀ i < st.gapList.numGaps, st.gapList.gapStartList i = 0 →
    st.gapList.inBlock tsn i = true → i + 1 = st.gapList.numGaps
  behind : ∀ i < st.gapList.numGaps, st.gapList.gapStartList i = 0 →
    tsn ≠ st.gapList.gapStopList i + 1
  inGap : ∀ i < st.gapList.numGaps, st.gapList.gapStartList i = 0 → st.inGap tsn i = true →
    (i = 0 ∧ tsn = st.cTsnAck + 1 ∧ tsn + 1 ≠ 0) ∨
      (i + 1 = st.gapList.numGaps ∧ st.gapList.numGaps = MAX_GAP_COUNT ∧ st.inMiddle tsn i = true)

/-- A full list loses neither a block of one TSN nor one from the middle of a block. -/
def RemoveSafe : Prop :=
  st.gapList.numGaps = MAX_GAP_COUNT → ∀ i < st.gapList.numGaps, st.gapList.inBlock tsn i = true →
    st.gapList.gapStartList i ≠ st.gapList.gapStopList i ∧
      (tsn = st.gapList.gapStartList i ∨ tsn = st.gapList.gapStopList i)

/-- There is a block or the cumulative ack next to the TSN, or room for a block of its own. -/
def CanStore (R : Set ℕ) (p : ℕ) : Prop :=
  p ∈ R ∨ p - 1 ∈ R ∨ p + 1 ∈ R ∨ st.gapList.numGaps < MAX_GAP_COUNT

/-- The TSN is taken in if it is new and can be stored. -/
structure Updates (cum : ℕ) (R : Set ℕ) (p : ℕ) (st' : GapState) : Prop where
  kept : p ∈ R ∨ ¬ st.CanStore R p → st' = st
  taken : p ∉ R → st.CanStore R p → TakesIn cum R p st'

end GapState

open GapState

variable {st : GapState} {cum p : ℕ} {pre rest spans : List (Span ℕ)} {s : Span ℕ}

lemma lowEnd_eq (acked : st.cTsnAck = serial cum)
    (placed : Placed st.gapList cum (pre ++ s :: rest)) :
    st.lowEnd pre.length = serial (gapStart cum pre) := by
  rcases List.eq_nil_or_concat pre with rfl | ⟨init, last, rfl⟩
  · rw [lowEnd, List.length_nil, if_pos rfl, acked, serial_succ, gapStart_nil]
  · rw [List.concat_eq_append] at *
    have index : (init ++ [last]).length - 1 = init.length := by simp
    have pos : (init ++ [last]).length ≠ 0 := by simp
    have span := last.lo_lt_hi
    rw [List.append_assoc, List.singleton_append] at placed
    rw [lowEnd, if_neg pos, index, placed.stop_at, serial_succ, gapStart_concat]
    congr 1
    omega

/-- What the two comparisons of the search find out about the gap in front of `s`. -/
structure GapReading (st : GapState) (cum : ℕ) (pre : List (Span ℕ)) (s : Span ℕ) (p : ℕ) : Prop where
  order : cum + 1 ≤ gapStart cum pre ∧ gapStart cum pre < s.lo ∧ s.lo < s.hi ∧
    s.hi ≤ cum + 2147483648
  start : st.gapList.gapStartList pre.length = serial s.lo
  stop : st.gapList.gapStopList pre.length + 1 = serial s.hi
  inGap : st.inGap (serial p) pre.length = decide (gapStart cum pre ≤ p ∧ p < s.lo)
  inMiddle : st.inMiddle (serial p) pre.length =
    decide (gapStart cum pre < p ∧ p + 1 < s.lo)
  inBlock : st.gapList.inBlock (serial p) pre.length = decide (s.lo ≤ p ∧ p < s.hi)

lemma gapReading (acked : st.cTsnAck = serial cum)
    (placed : Placed st.gapList cum (pre ++ s :: rest)) (above : cum < p)
    (lt : p < cum + 2147483648) : GapReading st cum pre s p := by
  obtain ⟨sAbove, sNear⟩ := placed.above s (List.mem_append_right _ List.mem_cons_self)
  have open_ := gapStart_lt placed.separated sAbove
  have gapAbove : cum + 1 ≤ gapStart cum pre :=
    succ_le_gapStart fun a mem => (placed.above a (List.mem_append_left _ mem)).1
  have span := s.lo_lt_hi
  have low := lowEnd_eq acked placed
  have top : st.gapList.gapStartList pre.length - 1 = serial (s.lo - 1) := by
    rw [placed.start_at, serial_pred (by omega)]
  have inGap : st.inGap (serial p) pre.length = decide (gapStart cum pre ≤ p ∧ p < s.lo) := by
    rw [GapState.inGap, low, top, tsnBetween_serial (by omega) (by omega) (by omega) (by omega),
      decide_eq_decide]
    omega
  refine ⟨⟨gapAbove, open_, span, sNear⟩, placed.start_at, ?_, inGap, ?_, ?_⟩
  · rw [placed.stop_at, serial_succ]
    congr 1
    omega
  · rw [GapState.inMiddle, inGap, low, top]
    have atLow : serial p = serial (gapStart cum pre) ↔ p = gapStart cum pre :=
      serial_inj (by omega) (by omega)
    have atTop : serial p = serial (s.lo - 1) ↔ p = s.lo - 1 := serial_inj (by omega) (by omega)
    rw [Bool.eq_iff_iff]
    simp only [Bool.and_eq_true, decide_eq_true_eq, ne_eq, atLow, atTop]
    omega
  · rw [SCTPSimpleGapList.inBlock, placed.start_at, placed.stop_at,
      tsnBetween_serial (by omega) (by omega) (by omega) (by omega), decide_eq_decide]
    omega

/-! ## The search -/

/-- A position in the gap in front of `s` is in no block, nor covered by the cumulative ack. -/
lemma notMem_of_gap (separated : Separated (pre ++ s :: rest)) (above : cum < gapStart cum pre)
    (ge : gapStart cum pre ≤ p) (lt : p < s.lo) : p ∉ Set.Iic cum ∪ cover (pre ++ s :: rest) := by
  obtain ⟨front, back, -⟩ := List.pairwise_append.mp separated
  rintro (acked | covered)
  · exact absurd (Set.mem_Iic.mp acked) (by omega)
  · rcases mem_cover_append.mp covered with inFront | inBack
    · have : p < gapStart cum pre := lt_gapStart front inFront
      omega
    · have := Separated.head_lo_le back inBack
      omega

lemma notMem_of_behind (separated : Separated spans) (above : cum < gapStart cum spans)
    (ge : gapStart cum spans ≤ p) : p ∉ Set.Iic cum ∪ cover spans := by
  rintro (acked | covered)
  · exact absurd (Set.mem_Iic.mp acked) (by omega)
  · have : p < gapStart cum spans := lt_gapStart separated covered
    omega

/-- What comes behind the last block, or in a gap where it fits, is taken in. -/
lemma updates_of_takesIn {R : Set ℕ} {st' : GapState} (new : p ∉ R) (room : st.CanStore R p)
    (takes : TakesIn cum R p st') : st.Updates cum R p st' :=
  ⟨fun either => absurd room (either.resolve_left new), fun _ _ => takes⟩

lemma updates_self {R : Set ℕ} (kept : p ∈ R ∨ ¬ st.CanStore R p) : st.Updates cum R p st :=
  ⟨fun _ => rfl, fun new room => absurd room (kept.resolve_left new)⟩

lemma reachEnd_of_lt {lo : ℕ} (placed : Placed st.gapList cum spans) (above : cum < p)
    (lt : p < gapStart cum spans) (other : serial p ≠ serial lo) :
    st.reachEnd (serial p) (serial lo) = .ok st := by
  unfold GapState.reachEnd GapState.beyondLast
  rw [if_neg other, placed.numGaps]
  rcases List.eq_nil_or_concat spans with rfl | ⟨init, last, rfl⟩
  · rw [gapStart_nil] at lt
    omega
  · rw [List.concat_eq_append] at *
    have lastAbove := placed.above last (by simp)
    have index : (init ++ [last]).length - 1 = init.length := by simp
    have pos : (init ++ [last]).length ≠ 0 := by simp
    rw [gapStart_concat] at lt
    rw [if_neg pos, index, SCTPSimpleGapList.getStop_eq placed.lt_max, placed.stop_at, Except.map,
      serial_succ, tsnGt_serial (by omega) (by omega)]
    have less : ¬ last.hi - 1 + 1 < p := by omega
    dsimp only [bind, Except.bind]
    rw [decide_eq_false less, if_neg (fun both => nomatch both.1)]
    rfl

lemma fillGap_next {hi i : ℕ} (acked : st.cTsnAck = serial cum) (wide : cum + 2 < hi)
    (near : hi < cum + 2147483648) :
    st.fillGap (serial (cum + 1)) (serial (cum + 1)) (serial hi) i =
      .ok { st.received st.gapList with cTsnAck := st.cTsnAck + 1 } := by
  have size : serial hi - serial (cum + 1) + 1 = serial (hi - cum) := by
    rw [← serial_sub (by omega), serial_succ]
    congr 1
    omega
  have one : (1 : UInt32).toNat = 1 := rfl
  have several : 1 < serial hi - serial (cum + 1) + 1 := by
    rw [size, UInt32.lt_iff_toNat_lt, toNat_serial, Nat.mod_eq_of_lt (by omega), one]
    omega
  have other : serial (cum + 1) ≠ serial hi := by
    rw [Ne, serial_inj (by omega) (by omega)]
    omega
  have next : serial (cum + 1) = st.cTsnAck + 1 := by rw [acked, serial_succ]
  unfold GapState.fillGap
  rw [if_pos several, if_neg other, if_pos rfl, if_pos next]
  rfl

lemma serial_pos_iff : 0 < serial p ↔ serial p ≠ 0 := by
  rw [UInt32.lt_iff_toNat_lt, Ne, ← UInt32.toNat_inj]
  exact Nat.pos_iff_ne_zero

lemma searchGaps_cons (placed : Placed st.gapList cum (pre ++ s :: rest)) {tsn lo : UInt32}
    {count : ℕ} : st.searchGaps tsn (count + 1) pre.length lo =
      if serial s.lo = 0 then st.searchGaps tsn count (pre.length + 1) lo
      else if tsnBetween lo tsn (serial (s.lo - 1)) then
        st.fillGap tsn lo (serial (s.lo - 1)) pre.length
      else st.searchGaps tsn count (pre.length + 1) (serial s.hi) := by
  have above := (placed.above s (List.mem_append_right _ List.mem_cons_self)).1
  have span := s.lo_lt_hi
  have stop : serial (s.hi - 1) + 1 = serial s.hi := by
    rw [serial_succ]
    congr 1
    omega
  rw [GapState.searchGaps, SCTPSimpleGapList.getStart_eq placed.lt_max, placed.start_at]
  dsimp only [bind, Except.bind]
  by_cases zero : serial s.lo = 0
  · rw [if_pos zero, if_neg (fun pos => serial_pos_iff.mp pos zero)]
  · rw [if_neg zero, if_pos (serial_pos_iff.mpr zero), serial_pred (by omega),
      SCTPSimpleGapList.getStop_eq placed.lt_max, placed.stop_at]
    dsimp only
    rw [stop]

lemma gapStart_beside (start : p = gapStart cum pre) : p - 1 ∈ Set.Iic cum ∪ cover pre := by
  rcases List.eq_nil_or_concat pre with rfl | ⟨init, last, rfl⟩
  · rw [gapStart_nil] at start
    exact .inl (Set.mem_Iic.mpr (by omega))
  · rw [List.concat_eq_append] at *
    have span := last.lo_lt_hi
    rw [gapStart_concat] at start
    exact .inr (mem_cover_of_mem (s := last) (by simp) (by omega) (by omega))

lemma reach_concat (reach : p ∈ cover pre ∨ s.lo ≤ p) :
    p ∈ cover (pre ++ [s]) ∨ gapStart cum (pre ++ [s]) ≤ p := by
  rw [gapStart_concat]
  rcases reach with covered | ge
  · exact .inl (mem_cover_append.mpr (.inl covered))
  · by_cases inside : p < s.hi
    · exact .inl (mem_cover_of_mem (s := s) (by simp) ge inside)
    · exact .inr (not_lt.mp inside)

/-- A TSN that is new, as a position. -/
structure New (st : GapState) (cum p : ℕ) : Prop where
  acked : st.cTsnAck = serial cum
  above : cum < p
  lt : p < cum + 2147483648
  safe : st.UpdateSafe (serial p)

namespace New

variable (new : New st cum p)

include new

lemma atEnd (placed : Placed st.gapList cum spans)
    (reach : p ∈ cover spans ∨ gapStart cum spans ≤ p) {lo : ℕ}
    (stale : p = gapStart cum spans → lo = p) (loAbove : cum < lo)
    (near : lo ≤ cum + 2147483648) (other : p ≠ gapStart cum spans → p ≠ lo) :
    ∃ st', st.reachEnd (serial p) (serial lo) = .ok st' ∧
      st.Updates cum (Set.Iic cum ∪ cover spans) p st' := by
  have above := new.above
  have lt := new.lt
  by_cases covered : p ∈ cover spans
  · have below : p < gapStart cum spans := lt_gapStart placed.separated covered
    have apart : serial p ≠ serial lo := by
      rw [Ne, serial_inj (by omega) (by omega)]
      exact other (by omega)
    exact ⟨st, reachEnd_of_lt placed above below apart, updates_self (.inl (.inr covered))⟩
  · have ge := reach.resolve_left covered
    have behind : Behind st cum spans p := ⟨new.acked, placed, ge, lt⟩
    have gapAbove := behind.above
    have notMem : ∀ q, gapStart cum spans ≤ q → q ∉ Set.Iic cum ∪ cover spans :=
      fun q => notMem_of_behind placed.separated (by omega)
    obtain ⟨st', ok, full, takes⟩ :=
      behind.reachEnd stale near loAbove fun clear => other (by omega)
    refine ⟨st', ok, ?_⟩
    by_cases next : p = gapStart cum spans
    · have beside := gapStart_beside next
      exact updates_of_takesIn (notMem p ge) (.inr (.inl beside)) (takes (.inl next))
    · by_cases room : spans.length < MAX_GAP_COUNT
      · refine updates_of_takesIn (notMem p ge) (.inr (.inr (.inr ?_))) (takes (.inr room))
        rwa [placed.numGaps]
      · obtain rfl := full (by omega) (le_antisymm placed.fits (not_lt.mp room))
        refine updates_self (.inr ?_)
        rintro (mem | mem | mem | free)
        · exact notMem p ge mem
        · exact notMem (p - 1) (by omega) mem
        · exact notMem (p + 1) (by omega) mem
        · rw [placed.numGaps] at free
          exact room free

lemma inGap (placed : Placed st.gapList cum (pre ++ s :: rest)) {lo : ℕ}
    (loLe : lo ≤ gapStart cum pre) (loAbove : cum < lo)
    (stale : p = gapStart cum pre → lo = gapStart cum pre)
    (ge : gapStart cum pre ≤ p) (below : p < s.lo) (pos : serial s.lo ≠ 0) :
    ∃ st', st.fillGap (serial p) (serial lo) (serial (s.lo - 1)) pre.length = .ok st' ∧
      st.Updates cum (Set.Iic cum ∪ cover (pre ++ s :: rest)) p st' := by
  have reading := gapReading new.acked placed new.above new.lt
  have order := reading.order
  have gap : InGap st cum pre s rest lo p := ⟨new.acked, placed, loLe, loAbove, stale, ge, below⟩
  have index : pre.length < st.gapList.numGaps := by
    rw [placed.numGaps, List.length_append, List.length_cons]
    omega
  have room : gapStart cum pre < p → p + 1 < s.lo → st.gapList.numGaps < MAX_GAP_COUNT := by
    intro clear clear'
    refine new.safe.room pre.length index ?_ ?_
    · rwa [reading.start]
    · rw [reading.inMiddle]
      exact decide_eq_true ⟨clear, clear'⟩
  obtain ⟨st', ok, takes⟩ := gap.fillGap (by rwa [placed.numGaps] at room)
  have notMem := notMem_of_gap placed.separated (by omega) ge below
  refine ⟨st', ok, updates_of_takesIn notMem ?_ takes⟩
  by_cases start : p = gapStart cum pre
  · have beside := gapStart_beside start
    exact .inr (.inl (beside.imp_right fun mem => mem_cover_append.mpr (.inl mem)))
  · by_cases end_ : p + 1 = s.lo
    · right; right; left
      exact .inr (mem_cover_of_mem (s := s) (by simp) (by omega) (by omega))
    · exact .inr (.inr (.inr (room (by omega) (by omega))))

lemma overLast (placed : Placed st.gapList cum (pre ++ [s])) (zero : serial s.lo = 0)
    (reach : p ∈ cover pre ∨ gapStart cum pre ≤ p) :
    ∃ st', st.reachEnd (serial p) (serial (gapStart cum pre)) = .ok st' ∧
      st.Updates cum (Set.Iic cum ∪ cover (pre ++ [s])) p st' := by
  have above := new.above
  have lt := new.lt
  have reading := gapReading new.acked placed above lt
  have order := reading.order
  have safe := new.safe
  have index : pre.length < st.gapList.numGaps := by
    rw [placed.numGaps, List.length_append, List.length_singleton]
    exact Nat.lt_succ_self _
  have zeroAt : st.gapList.gapStartList pre.length = 0 := reading.start.trans zero
  by_cases gap : gapStart cum pre ≤ p ∧ p < s.lo
  · have notMem := notMem_of_gap placed.separated (by omega) gap.1 gap.2
    rcases safe.inGap pre.length index zeroAt (reading.inGap.trans (decide_eq_true gap)) with
      ⟨first, next, more⟩ | ⟨-, full, middle⟩
    · obtain rfl := List.length_eq_zero_iff.mp first
      rw [new.acked, serial_succ, serial_inj (by omega) (by omega)] at next
      have clear : p + 1 < s.lo := by
        rw [serial_succ, ← zero, Ne, serial_inj (by omega) (by omega)] at more
        omega
      have inGap : InGap st cum [] s [] (cum + 1) p :=
        ⟨new.acked, placed, le_rfl, Nat.lt_succ_self cum, fun _ => rfl, gap.1, gap.2⟩
      have behind : st.reachEnd (serial p) (serial (gapStart cum [])) =
          .ok { st.received st.gapList with cTsnAck := st.cTsnAck + 1 } := by
        unfold GapState.reachEnd
        rw [gapStart_nil, next, if_pos rfl, new.acked, serial_succ, if_pos rfl]
        rfl
      refine ⟨_, behind, updates_of_takesIn notMem (.inr (.inl (.inl ?_))) (inGap.raise next clear)⟩
      exact Set.mem_Iic.mpr (by omega)
    · have middle := of_decide_eq_true (reading.inMiddle.symm.trans middle)
      have apart : serial p ≠ serial (gapStart cum pre) := by
        rw [Ne, serial_inj (by omega) (by omega)]
        omega
      have short : p < gapStart cum (pre ++ [s]) := by
        rw [gapStart_concat]
        omega
      refine ⟨st, reachEnd_of_lt placed above short apart, updates_self (.inr ?_)⟩
      rintro (mem | mem | mem | room)
      · exact notMem mem
      · exact notMem_of_gap placed.separated (by omega) (by omega : _ ≤ p - 1) (by omega) mem
      · exact notMem_of_gap placed.separated (by omega) (by omega : _ ≤ p + 1) (by omega) mem
      · omega
  · have other : p ≠ gapStart cum pre := by
      rcases reach with covered | ge
      · exact (lt_gapStart (List.pairwise_append.mp placed.separated).1 covered).ne
      · omega
    have apart : p ≠ s.hi := by
      have behind := safe.behind pre.length index zeroAt
      rw [reading.stop, Ne, serial_inj (by omega) (by omega)] at behind
      exact behind
    refine new.atEnd placed ?_ (fun next => ?_) (by omega) (by omega) fun _ => other
    · rcases reach with covered | ge
      · exact .inl (mem_cover_append.mpr (.inl covered))
      · rw [gapStart_concat]
        by_cases inside : p < s.hi
        · exact .inl (mem_cover_of_mem (s := s) (by simp) (by omega) inside)
        · exact .inr (not_lt.mp inside)
    · rw [gapStart_concat] at next
      exact absurd next apart

lemma overNext {y : Span ℕ} (placed : Placed st.gapList cum (pre ++ s :: y :: rest))
    (zero : serial s.lo = 0) (between : gapStart cum pre ≤ p ∧ p < y.lo) :
    ∃ st', st.fillGap (serial p) (serial (gapStart cum pre)) (serial (y.lo - 1)) (pre.length + 1) =
        .ok st' ∧ st.Updates cum (Set.Iic cum ∪ cover (pre ++ s :: y :: rest)) p st' := by
  have above := new.above
  have lt := new.lt
  have reading := gapReading new.acked placed above lt
  have order := reading.order
  have safe := new.safe
  have count : st.gapList.numGaps = pre.length + (rest.length + 2) := by
    rw [placed.numGaps]
    simp
  have index : pre.length < st.gapList.numGaps := by omega
  have zeroAt : st.gapList.gapStartList pre.length = 0 := reading.start.trans zero
  have regrouped : pre ++ s :: y :: rest = (pre ++ [s]) ++ y :: rest := by simp
  have placed' := placed
  rw [regrouped] at placed'
  have reading' := gapReading new.acked placed' above lt
  have order' := reading'.order
  rw [gapStart_concat] at order'
  by_cases gap : p < s.lo
  · -- next to the cumulative ack
    have notMem := notMem_of_gap placed.separated (by omega) between.1 gap
    rcases safe.inGap pre.length index zeroAt
      (reading.inGap.trans (decide_eq_true ⟨between.1, gap⟩)) with
        ⟨first, next, more⟩ | ⟨last, -, -⟩
    · obtain rfl := List.length_eq_zero_iff.mp first
      rw [new.acked, serial_succ, serial_inj (by omega) (by omega)] at next
      have clear : p + 1 < s.lo := by
        rw [serial_succ, ← zero, Ne, serial_inj (by omega) (by omega)] at more
        omega
      have inGap : InGap st cum [] s (y :: rest) (cum + 1) p :=
        ⟨new.acked, placed, le_rfl, Nat.lt_succ_self cum, fun _ => rfl, between.1, gap⟩
      have takes := inGap.raise next clear
      subst next
      refine ⟨_, fillGap_next new.acked (by omega) (by omega), updates_of_takesIn notMem ?_ takes⟩
      exact .inr (.inl (.inl (Set.mem_Iic.mpr (by omega))))
    · omega
  · have outside : ¬ (s.lo ≤ p ∧ p < s.hi) := by
      intro inside
      have last := safe.inBlock pre.length index zeroAt (reading.inBlock.trans (decide_eq_true inside))
      omega
    have apart : p ≠ s.hi := by
      have behind := safe.behind pre.length index zeroAt
      rw [reading.stop, Ne, serial_inj (by omega) (by omega)] at behind
      exact behind
    have pos : serial y.lo ≠ 0 := by
      rw [← zero, Ne, serial_inj (by omega) (by omega)]
      omega
    rw [regrouped]
    have behind : gapStart cum pre ≤ gapStart cum (pre ++ [s]) := by
      rw [gapStart_concat]
      omega
    have found := new.inGap placed' behind
      (by omega) (fun next => absurd (by rwa [gapStart_concat] at next) apart)
      (by rw [gapStart_concat]; omega) between.2 pos
    rwa [List.length_append, List.length_singleton] at found

lemma search (placed : Placed st.gapList cum (pre ++ rest))
    (reach : p ∈ cover pre ∨ gapStart cum pre ≤ p) :
    ∃ st', st.searchGaps (serial p) rest.length pre.length (serial (gapStart cum pre)) = .ok st' ∧
      st.Updates cum (Set.Iic cum ∪ cover (pre ++ rest)) p st' := by
  have above := new.above
  have lt := new.lt
  induction count : rest.length using Nat.strong_induction_on generalizing pre rest with
  | h n ih =>
  cases rest with
  | nil =>
    rw [List.append_nil] at placed ⊢
    subst count
    have gapAbove : cum + 1 ≤ gapStart cum pre :=
      succ_le_gapStart fun a mem => (placed.above a mem).1
    have near : gapStart cum pre ≤ cum + 2147483648 := by
      rcases List.eq_nil_or_concat pre with rfl | ⟨init, last, rfl⟩
      · rw [gapStart_nil]
        omega
      · rw [List.concat_eq_append] at *
        rw [gapStart_concat]
        exact (placed.above last (by simp)).2
    exact new.atEnd placed reach (fun next => next.symm) (by omega) near id
  | cons s rest =>
    subst count
    have order := (gapReading new.acked placed above lt).order
    rw [List.length_cons, searchGaps_cons placed]
    by_cases zero : serial s.lo = 0
    · rw [if_pos zero]
      cases rest with
      | nil => exact new.overLast placed zero reach
      | cons y rest =>
        have regrouped : pre ++ s :: y :: rest = (pre ++ [s]) ++ y :: rest := by simp
        have regrouped' : pre ++ s :: y :: rest = ((pre ++ [s]) ++ [y]) ++ rest := by simp
        have length : (pre ++ [s]).length = pre.length + 1 := by simp
        have length' : ((pre ++ [s]) ++ [y]).length = pre.length + 1 + 1 := by simp
        have placed' := placed
        rw [regrouped] at placed'
        have order' := (gapReading new.acked placed' above lt).order
        rw [gapStart_concat] at order'
        have pos : serial y.lo ≠ 0 := by
          rw [← zero, Ne, serial_inj (by omega) (by omega)]
          omega
        have test := tsnBetween_serial (p := gapStart cum pre) (q := p) (r := y.lo - 1)
          (by omega) (by omega) (by omega) (by omega)
        rw [← length, List.length_cons, searchGaps_cons placed', if_neg pos, test, length]
        by_cases between : gapStart cum pre ≤ p ∧ p ≤ y.lo - 1
        · rw [decide_eq_true between, if_pos rfl]
          exact new.overNext placed zero ⟨between.1, by omega⟩
        · rw [decide_eq_false between, if_neg Bool.false_ne_true]
          rw [regrouped'] at placed ⊢
          have passed : p ∈ cover (pre ++ [s]) ∨ y.lo ≤ p := by
            rcases reach with covered | ge
            · exact .inl (mem_cover_append.mpr (.inl covered))
            · exact .inr (by omega)
          have found := ih rest.length (by simp only [List.length_cons]; omega) placed
            (reach_concat passed) rfl
          rwa [length', gapStart_concat] at found
    · have test := tsnBetween_serial (p := gapStart cum pre) (q := p) (r := s.lo - 1)
        (by omega) (by omega) (by omega) (by omega)
      rw [if_neg zero, test]
      by_cases between : gapStart cum pre ≤ p ∧ p ≤ s.lo - 1
      · rw [decide_eq_true between, if_pos rfl]
        exact new.inGap placed le_rfl (by omega) (fun _ => rfl) between.1 (by omega) zero
      · rw [decide_eq_false between, if_neg Bool.false_ne_true]
        have regrouped : pre ++ s :: rest = (pre ++ [s]) ++ rest := by simp
        rw [regrouped] at placed ⊢
        have found := ih rest.length (by simp) placed
          (reach_concat (reach.imp_right fun _ => by omega)) rfl
        rwa [List.length_append, List.length_singleton, gapStart_concat] at found

end New

end Inet.Sctp
