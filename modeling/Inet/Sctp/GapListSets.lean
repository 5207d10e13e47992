import Inet.Lib.SerialNumber
import Inet.Lib.Slots
import Inet.Lib.SpanList
import Inet.Lib.Outcome
import Inet.Sctp.GapList

/-!
# The gap list as a set of TSNs

The cumulative ack TSN and the blocks stand for the positions at or below the one and in the others
(`Tracks`). `updateGapList` adds a TSN and `removeFromGapList` takes it out, except where the search
passes over a block that starts at TSN 0, and where the list is full (`UpdateSafe`, `RemoveSafe`).
-/

namespace Inet.Sctp

open Function

variable {p q r : ℕ}

lemma int32_serial_sub (above : p < q + 2147483648) (below : q ≤ p + 2147483648) :
    int32 (serial p - serial q) = (p : ℤ) - q := by
  rw [int32_eq]
  rcases le_total q p with le | le
  · rw [toNat_serial_sub le (by omega), if_pos (by omega)]
    omega
  · rw [UInt32.toNat_sub, toNat_serial, toNat_serial]
    split_ifs <;> omega

lemma tsnLe_serial (above : p < q + 2147483648) (below : q ≤ p + 2147483648) :
    tsnLe (serial p) (serial q) = decide (p ≤ q) := by
  rw [tsnLe, int32_serial_sub above below, decide_eq_decide]
  omega

lemma tsnGt_serial (above : p < q + 2147483648) (below : q ≤ p + 2147483648) :
    tsnGt (serial p) (serial q) = decide (q < p) := by
  rw [tsnGt, int32_serial_sub above below, decide_eq_decide]
  omega

lemma tsnBetween_serial (le : p ≤ r) (above : q < p + 4294967296) (near : r < p + 4294967296)
    (below : r < q + 4294967296) :
    tsnBetween (serial p) (serial q) (serial r) = decide (p ≤ q ∧ q ≤ r) := by
  rw [tsnBetween, decide_eq_decide, UInt32.le_iff_toNat_le, toNat_serial_sub le near]
  rcases le_or_gt p q with behind | before
  · rw [toNat_serial_sub behind above]
    omega
  · rw [UInt32.toNat_sub, toNat_serial, toNat_serial]
    omega

lemma serial_succ (p : ℕ) : serial p + 1 = serial (p + 1) := (serial_add p 1).symm

lemma serial_pred (pos : 0 < p) : serial p - 1 = serial (p - 1) := (serial_sub pos).symm

/-- The position of a TSN: at most `2 ^ 31` below the cumulative ack, or less than that above it. -/
def position (cum : ℕ) (tsn : UInt32) : ℕ :=
  if (tsn - serial cum).toNat < 2147483648 then cum + (tsn - serial cum).toNat
  else cum - (serial cum - tsn).toNat

lemma serial_position {cum : ℕ} (far : 4294967296 ≤ cum) (tsn : UInt32) :
    serial (position cum tsn) = tsn := by
  rw [← UInt32.toNat_inj, toNat_serial, position, UInt32.toNat_sub, UInt32.toNat_sub, toNat_serial]
  have := tsn.toNat_lt
  split_ifs <;> omega

lemma position_lt (cum : ℕ) (tsn : UInt32) : position cum tsn < cum + 2147483648 := by
  rw [position]
  split_ifs <;> omega

lemma le_position (cum : ℕ) (tsn : UInt32) : cum ≤ position cum tsn + 2147483648 := by
  rw [position, UInt32.toNat_sub, UInt32.toNat_sub, toNat_serial]
  have := tsn.toNat_lt
  split_ifs <;> omega

lemma position_serial {cum : ℕ} (above : p < cum + 2147483648) (below : cum ≤ p + 2147483648) :
    position cum (serial p) = p := by
  rw [position, UInt32.toNat_sub, UInt32.toNat_sub, toNat_serial, toNat_serial]
  split_ifs <;> omega

namespace SCTPSimpleGapList

variable {g : SCTPSimpleGapList} {i j count : ℕ} {start stop : UInt32}

variable (lt : i < MAX_GAP_COUNT)
include lt

lemma getStart_eq : g.getStart i = .ok (g.gapStartList i) := by
  rw [getStart, index, if_pos lt]
  rfl

lemma getStop_eq : g.getStop i = .ok (g.gapStopList i) := by
  rw [getStop, index, if_pos lt]
  rfl

lemma setStart_eq : g.setStart i start =
    .ok { g with gapStartList := update g.gapStartList i start } := by
  rw [setStart, index, if_pos lt]
  rfl

lemma setStop_eq : g.setStop i stop =
    .ok { g with gapStopList := update g.gapStopList i stop } := by
  rw [setStop, index, if_pos lt]
  rfl

lemma setBlock_eq : g.setBlock i start stop =
    .ok { g with
      gapStartList := update g.gapStartList i start
      gapStopList := update g.gapStopList i stop } := by
  rw [setBlock, setStart_eq lt]
  exact setStop_eq lt

lemma copyBlock_eq (lt' : j < MAX_GAP_COUNT) : g.copyBlock i j =
    .ok { g with
      gapStartList := update g.gapStartList i (g.gapStartList j)
      gapStopList := update g.gapStopList i (g.gapStopList j) } := by
  rw [copyBlock, getStart_eq lt', getStop_eq lt']
  exact setBlock_eq lt

omit lt

lemma moveUp_eq (lt : j < MAX_GAP_COUNT) : moveUp i j g =
    .ok { g with
      gapStartList := movedUp i j g.gapStartList
      gapStopList := movedUp i j g.gapStopList } := by
  induction j generalizing g with
  | zero => rw [moveUp, movedUp_of_le (Nat.zero_le i), movedUp_of_le (Nat.zero_le i)]
  | succ j ih =>
    rw [moveUp]
    split_ifs with inside
    · rw [copyBlock_eq lt (by omega)]
      change moveUp i j _ = _
      rw [ih (by omega), movedUp_succ inside, movedUp_succ inside]
    · rw [movedUp_of_le (by omega), movedUp_of_le (by omega)]

lemma moveDown_eq (lt : j + count < MAX_GAP_COUNT) : moveDown count j g =
    .ok { g with
      gapStartList := movedDown count j g.gapStartList
      gapStopList := movedDown count j g.gapStopList } := by
  induction count generalizing j g with
  | zero =>
    have still (a : ℕ → UInt32) : movedDown 0 j a = a := by
      funext k
      exact if_neg (by omega)
    rw [moveDown, still, still]
  | succ count ih =>
    rw [moveDown, copyBlock_eq (by omega) (by omega)]
    change moveDown count (j + 1) _ = _
    rw [ih (by omega), movedDown_succ, movedDown_succ]

end SCTPSimpleGapList

/-! ## Blocks and spans -/

/-- The blocks of the list are the spans, each with its last position for a stop. -/
structure Laid (gapList : SCTPSimpleGapList) (spans : List (Span ℕ)) : Prop where
  numGaps : gapList.numGaps = spans.length
  fits : spans.length ≤ MAX_GAP_COUNT
  starts : Stores gapList.gapStartList (spans.map fun s => serial s.lo)
  stops : Stores gapList.gapStopList (spans.map fun s => serial (s.hi - 1))

/-- The blocks are apart from each other and from what `cum` covers. -/
structure Placed (gapList : SCTPSimpleGapList) (cum : ℕ) (spans : List (Span ℕ)) : Prop
    extends Laid gapList spans where
  separated : Separated spans
  above : ∀ s ∈ spans, cum + 1 < s.lo ∧ s.hi ≤ cum + 2147483648

/-- The set of the TSNs that the cumulative ack and the blocks stand for. -/
def Tracks (st : GapState) (cum : ℕ) (R : Set ℕ) : Prop :=
  st.cTsnAck = serial cum ∧ ∃ spans, Placed st.gapList cum spans ∧ R = Set.Iic cum ∪ cover spans

namespace Laid

variable {g g' : SCTPSimpleGapList} {pre rest : List (Span ℕ)} {s : Span ℕ}

variable (laid : Laid g (pre ++ s :: rest))
include laid

lemma start_at : g.gapStartList pre.length = serial s.lo := by
  have starts := laid.starts
  rw [List.map_append, List.map_cons] at starts
  simpa using starts.get

lemma stop_at : g.gapStopList pre.length = serial (s.hi - 1) := by
  have stops := laid.stops
  rw [List.map_append, List.map_cons] at stops
  simpa using stops.get

lemma lt_max : pre.length < MAX_GAP_COUNT := by
  have fits := laid.fits
  rw [List.length_append, List.length_cons] at fits
  omega

lemma replace (s' : Span ℕ) :
    Laid { g with
      gapStartList := Function.update g.gapStartList pre.length (serial s'.lo)
      gapStopList := Function.update g.gapStopList pre.length (serial (s'.hi - 1)) }
      (pre ++ s' :: rest) where
  numGaps := by simpa using laid.numGaps
  fits := by simpa using laid.fits
  starts := by
    have starts := laid.starts
    rw [List.map_append, List.map_cons] at starts ⊢
    simpa using starts.set (serial s'.lo)
  stops := by
    have stops := laid.stops
    rw [List.map_append, List.map_cons] at stops ⊢
    simpa using stops.set (serial (s'.hi - 1))

lemma replaceStart {p : ℕ} (lt : p < s.hi) :
    Laid { g with
      gapStartList := update g.gapStartList pre.length (serial p) }
      (pre ++ ⟨p, s.hi, lt⟩ :: rest) := by
  have replaced := laid.replace ⟨p, s.hi, lt⟩
  have same : update g.gapStopList pre.length (serial (s.hi - 1)) =
      g.gapStopList := by
    rw [← laid.stop_at, update_eq_self]
  rw [same] at replaced
  exact replaced

lemma replaceStop {p : ℕ} (lt : s.lo < p) :
    Laid { g with
      gapStopList := update g.gapStopList pre.length (serial (p - 1)) }
      (pre ++ ⟨s.lo, p, lt⟩ :: rest) := by
  have replaced := laid.replace ⟨s.lo, p, lt⟩
  have same : update g.gapStartList pre.length (serial s.lo) =
      g.gapStartList := by
    rw [← laid.start_at, update_eq_self]
  rw [same] at replaced
  exact replaced

omit laid in
lemma insert (laid : Laid g (pre ++ rest)) (room : (pre ++ rest).length < MAX_GAP_COUNT)
    (s : Span ℕ) :
    Laid
      { numGaps := (pre ++ rest).length + 1
        gapStartList := Function.update
          (movedUp pre.length (pre ++ rest).length g.gapStartList) pre.length (serial s.lo)
        gapStopList := Function.update
          (movedUp pre.length (pre ++ rest).length g.gapStopList) pre.length
          (serial (s.hi - 1)) } (pre ++ s :: rest) where
  numGaps := by
    rw [List.length_append, List.length_append, List.length_cons]
    rfl
  fits := by
    rw [List.length_append] at room ⊢
    rw [List.length_cons]
    omega
  starts := by
    have starts := laid.starts
    rw [List.map_append] at starts
    have inserted := starts.insert (n := (pre ++ rest).length) (by simp) (serial s.lo)
    rw [List.map_append, List.map_cons]
    simpa using inserted
  stops := by
    have stops := laid.stops
    rw [List.map_append] at stops
    have inserted := stops.insert (n := (pre ++ rest).length) (by simp) (serial (s.hi - 1))
    rw [List.map_append, List.map_cons]
    simpa using inserted

lemma erase (numGaps : g'.numGaps = g.numGaps - 1)
    (starts : ∀ i < (pre ++ rest).length, g'.gapStartList i =
      movedDown rest.length pre.length g.gapStartList i)
    (stops : ∀ i < (pre ++ rest).length, g'.gapStopList i =
      movedDown rest.length pre.length g.gapStopList i) : Laid g' (pre ++ rest) where
  numGaps := by
    rw [numGaps, laid.numGaps, List.length_append, List.length_append, List.length_cons]
    rfl
  fits := by
    have fits := laid.fits
    rw [List.length_append, List.length_cons] at fits
    rw [List.length_append]
    omega
  starts := by
    have before := laid.starts
    rw [List.map_append, List.map_cons] at before
    have erased := before.erase (List.length_map _).le
    rw [← List.map_append, List.length_map] at erased
    exact erased.congr (by simpa using starts)
  stops := by
    have before := laid.stops
    rw [List.map_append, List.map_cons] at before
    have erased := before.erase (List.length_map _).le
    rw [← List.map_append, List.length_map] at erased
    exact erased.congr (by simpa using stops)

omit laid

lemma dropBlock (st : GapState) (laid : Laid st.gapList (pre ++ s :: rest)) :
    ∃ g', st.dropBlock pre.length = .ok g' ∧ Laid g' (pre ++ rest) := by
  have count : st.gapList.numGaps = pre.length + (rest.length + 1) := by
    rw [laid.numGaps, List.length_append, List.length_cons]
  have max := laid.fits
  rw [List.length_append, List.length_cons] at max
  unfold GapState.dropBlock
  by_cases last : pre.length = st.gapList.numGaps - 1
  · have none : rest.length = 0 := by omega
    rw [if_pos last, SCTPSimpleGapList.setBlock_eq laid.lt_max]
    refine ⟨_, rfl, laid.erase rfl ?_ ?_⟩
    all_goals
      intro i lt
      rw [List.length_append] at lt
      rw [none, movedDown, if_neg (by omega)]
      exact Function.update_of_ne (by omega) ..
  · have moved : st.gapList.numGaps - 1 - pre.length = rest.length := by omega
    rw [if_neg last, moved, SCTPSimpleGapList.moveDown_eq (by omega)]
    exact ⟨_, rfl, laid.erase rfl (fun _ _ => rfl) fun _ _ => rfl⟩

end Laid

namespace Placed

variable {g g' : SCTPSimpleGapList} {cum : ℕ} {spans pre rest : List (Span ℕ)} {s : Span ℕ}

lemma replace (placed : Placed g cum (pre ++ s :: rest)) {s' : Span ℕ}
    (laid : Laid g' (pre ++ s' :: rest)) (separated : Separated (pre ++ s' :: rest))
    (above : cum + 1 < s'.lo ∧ s'.hi ≤ cum + 2147483648) : Placed g' cum (pre ++ s' :: rest) := by
  refine ⟨laid, separated, fun x mem => ?_⟩
  rcases List.mem_cons.mp (List.perm_middle.mem_iff.mp mem) with rfl | mem
  · exact above
  · exact placed.above x (List.perm_middle.mem_iff.mpr (List.mem_cons_of_mem s mem))

lemma insert (placed : Placed g cum (pre ++ rest))
    (laid : Laid g' (pre ++ s :: rest)) (separated : Separated (pre ++ s :: rest))
    (above : cum + 1 < s.lo ∧ s.hi ≤ cum + 2147483648) : Placed g' cum (pre ++ s :: rest) := by
  refine ⟨laid, separated, fun x mem => ?_⟩
  rcases List.mem_cons.mp (List.perm_middle.mem_iff.mp mem) with rfl | mem
  · exact above
  · exact placed.above x mem

lemma erase (placed : Placed g cum (pre ++ s :: rest))
    (laid : Laid g' (pre ++ rest)) : Placed g' cum (pre ++ rest) := by
  refine ⟨laid, placed.separated.sublist ((List.sublist_cons_self s rest).append_left pre),
    fun x mem => placed.above x ?_⟩
  exact List.perm_middle.mem_iff.mpr (List.mem_cons_of_mem s mem)

lemma raise (placed : Placed g cum spans) {cum' : ℕ} (le : cum ≤ cum')
    (below : ∀ s ∈ spans, cum' + 1 < s.lo) : Placed g cum' spans :=
  ⟨placed.toLaid, placed.separated, fun s mem =>
    ⟨below s mem, (placed.above s mem).2.trans (Nat.add_le_add_right le _)⟩⟩

end Placed

/-- The position behind the last of the spans, or behind the cumulative ack. -/
def gapStart (cum : ℕ) (pre : List (Span ℕ)) : ℕ := (pre.getLast?.map Span.hi).getD (cum + 1)

@[simp] lemma gapStart_nil (cum : ℕ) : gapStart cum [] = cum + 1 := rfl

@[simp] lemma gapStart_concat (cum : ℕ) (pre : List (Span ℕ)) (s : Span ℕ) :
    gapStart cum (pre ++ [s]) = s.hi := by
  rw [gapStart, List.getLast?_concat]
  rfl

lemma mem_cover_middle {pre rest : List (Span ℕ)} {s : Span ℕ} : p ∈ cover (pre ++ s :: rest) ↔
    p ∈ cover pre ∨ (s.lo ≤ p ∧ p < s.hi) ∨ p ∈ cover rest := by
  rw [mem_cover_append, mem_cover_cons, Set.mem_Ico]

section

variable {cum : ℕ} {pre rest : List (Span ℕ)} {s : Span ℕ}

lemma hi_le_gapStart (separated : Separated pre) {a : Span ℕ} (mem : a ∈ pre) :
    a.hi ≤ gapStart cum pre := by
  rcases List.eq_nil_or_concat pre with rfl | ⟨front, last, rfl⟩
  · cases mem
  · rw [List.concat_eq_append] at *
    rw [gapStart_concat]
    rcases List.mem_append.mp mem with inFront | isLast
    · have before : a.hi < last.lo :=
        (List.pairwise_append.mp separated).2.2 a inFront last List.mem_cons_self
      exact (before.trans last.lo_lt_hi).le
    · rw [List.mem_singleton.mp isLast]

lemma lt_gapStart (separated : Separated pre) (covered : p ∈ cover pre) :
    p < gapStart cum pre := by
  obtain ⟨a, mem, -, lt⟩ := covered
  exact lt.trans_le (hi_le_gapStart separated mem)

lemma gapStart_lt (separated : Separated (pre ++ s :: rest)) (above : cum + 1 < s.lo) :
    gapStart cum pre < s.lo := by
  rcases List.eq_nil_or_concat pre with rfl | ⟨front, last, rfl⟩
  · exact above
  · rw [List.concat_eq_append] at *
    rw [gapStart_concat]
    exact (List.pairwise_append.mp separated).2.2 last (by simp) s List.mem_cons_self

lemma succ_le_gapStart (above : ∀ a ∈ pre, cum + 1 < a.lo) : cum + 1 ≤ gapStart cum pre := by
  rcases List.eq_nil_or_concat pre with rfl | ⟨front, last, rfl⟩
  · exact le_rfl
  · rw [List.concat_eq_append] at *
    rw [gapStart_concat]
    exact ((above last (by simp)).trans last.lo_lt_hi).le

lemma Separated.of_gap (separated : Separated (pre ++ rest)) (clear : gapStart cum pre < s.lo)
    (before : ∀ b ∈ rest, s.Before b) : Separated (pre ++ s :: rest) := by
  obtain ⟨front, back, -⟩ := List.pairwise_append.mp separated
  refine List.pairwise_append.mpr ⟨front, List.pairwise_cons.mpr ⟨before, back⟩, ?_⟩
  intro a aMem b bMem
  rcases List.mem_cons.mp bMem with rfl | bMem
  · exact (hi_le_gapStart front aMem).trans_lt clear
  · have below : a.hi < b.lo :=
      ((hi_le_gapStart front aMem).trans_lt clear).trans (s.lo_lt_hi.trans (before b bMem))
    exact below

end

/-! ## Taking a TSN in -/

/-- The TSN is new and goes into the set. -/
def TakesIn (cum : ℕ) (R : Set ℕ) (p : ℕ) (st' : GapState) : Prop :=
  st'.newChunkReceived = true ∧ ∃ cum', cum ≤ cum' ∧ Tracks st' cum' (insert p R)

section

variable {cum : ℕ} {pre rest spans spans' : List (Span ℕ)} {s : Span ℕ} {st : GapState}
  {g : SCTPSimpleGapList}

/-- The blocks change, and now cover the TSN too. -/
lemma takesIn_of_cover (acked : st.cTsnAck = serial cum) (placed : Placed g cum spans')
    (covers : ∀ q, q ∈ cover spans' ↔ q = p ∨ q ∈ cover spans) :
    TakesIn cum (Set.Iic cum ∪ cover spans) p (st.received g) := by
  refine ⟨rfl, cum, le_rfl, acked, spans', placed, ?_⟩
  ext q
  simp only [Set.mem_insert_iff, Set.mem_union, covers]
  tauto

lemma takesIn_of_raise {cum' : ℕ} {g : SCTPSimpleGapList} (up : cum < cum')
    (placed : Placed g cum spans') (below : ∀ s ∈ spans', cum' + 1 < s.lo)
    (covers : ∀ q, q ≤ cum' ∨ q ∈ cover spans' ↔ q = cum + 1 ∨ q ≤ cum ∨ q ∈ cover spans) :
    TakesIn cum (Set.Iic cum ∪ cover spans) (cum + 1)
      { st.received g with cTsnAck := serial cum' } := by
  refine ⟨rfl, cum', up.le, rfl, spans', placed.raise up.le below, ?_⟩
  ext q
  simp only [Set.mem_insert_iff, Set.mem_union, Set.mem_Iic, covers]

lemma cover_replace {s' : Span ℕ}
    (covers : ∀ q, s'.lo ≤ q ∧ q < s'.hi ↔ q = p ∨ (s.lo ≤ q ∧ q < s.hi)) (q : ℕ) :
    q ∈ cover (pre ++ s' :: rest) ↔ q = p ∨ q ∈ cover (pre ++ s :: rest) := by
  rw [mem_cover_middle, mem_cover_middle, covers]
  tauto

lemma cover_insert (covers : ∀ q, s.lo ≤ q ∧ q < s.hi ↔ q = p) (q : ℕ) :
    q ∈ cover (pre ++ s :: rest) ↔ q = p ∨ q ∈ cover (pre ++ rest) := by
  rw [mem_cover_middle, mem_cover_append, covers]
  tauto

/-- The search has come to the gap in front of `s`, where the TSN is, and may have passed over
blocks of `pre`. -/
structure InGap (st : GapState) (cum : ℕ) (pre : List (Span ℕ)) (s : Span ℕ)
    (rest : List (Span ℕ)) (lo p : ℕ) : Prop where
  acked : st.cTsnAck = serial cum
  placed : Placed st.gapList cum (pre ++ s :: rest)
  loLe : lo ≤ gapStart cum pre
  loAbove : cum < lo
  stale : p = gapStart cum pre → lo = gapStart cum pre
  ge : gapStart cum pre ≤ p
  lt : p < s.lo

namespace InGap

variable {lo : ℕ} (gap : InGap st cum pre s rest lo p)

include gap

lemma above : cum + 1 < s.lo ∧ s.hi ≤ cum + 2147483648 :=
  gap.placed.above s (List.mem_append_right _ List.mem_cons_self)

lemma before {b : Span ℕ} (mem : b ∈ rest) : s.hi < b.lo :=
  (List.pairwise_cons.mp (List.pairwise_append.mp gap.placed.separated).2.1).1 b mem

lemma preAbove {a : Span ℕ} (mem : a ∈ pre) : cum + 1 < a.lo :=
  (gap.placed.above a (List.mem_append_left _ mem)).1

lemma order : cum + 1 ≤ gapStart cum pre ∧ gapStart cum pre < s.lo ∧ s.lo < s.hi ∧
    s.hi ≤ cum + 2147483648 :=
  ⟨succ_le_gapStart fun _ mem => gap.preAbove mem, gapStart_lt gap.placed.separated gap.above.1,
    s.lo_lt_hi, gap.above.2⟩

lemma wide : 1 < serial (s.lo - 1) - serial lo + 1 ↔ lo + 1 < s.lo := by
  have := gap.order
  have := gap.loLe
  have := gap.loAbove
  have size : serial (s.lo - 1) - serial lo + 1 = serial (s.lo - lo) := by
    rw [← serial_sub (by omega), serial_succ]
    congr 1
    omega
  have one : (1 : UInt32).toNat = 1 := rfl
  rw [size, UInt32.lt_iff_toNat_lt, toNat_serial, Nat.mod_eq_of_lt (by omega), one]
  omega

lemma atEnd : serial p = serial (s.lo - 1) ↔ p + 1 = s.lo := by
  have := gap.order
  have := gap.lt
  have := gap.ge
  rw [serial_inj (by omega) (by omega)]
  omega

lemma atStart : serial p = serial lo ↔ p = lo := by
  have := gap.order
  have := gap.lt
  have := gap.ge
  have := gap.loLe
  have := gap.loAbove
  exact serial_inj (by omega) (by omega)

/-- The position next to the cumulative ack, where the gap is the first one. -/
lemma nextToAck : serial p = st.cTsnAck + 1 ↔ p = cum + 1 := by
  have := gap.order
  have := gap.lt
  have := gap.ge
  rw [gap.acked, serial_succ, serial_inj (by omega) (by omega)]

lemma first (next : p = cum + 1) : pre = [] := by
  rcases List.eq_nil_or_concat pre with rfl | ⟨init, last, rfl⟩
  · rfl
  · rw [List.concat_eq_append] at gap
    have lastAbove := gap.preAbove (a := last) (by simp)
    have span := last.lo_lt_hi
    have ge := gap.ge
    rw [gapStart_concat] at ge
    omega

lemma growDown (end_ : p + 1 = s.lo) (clear : gapStart cum pre < p) :
    TakesIn cum (Set.Iic cum ∪ cover (pre ++ s :: rest)) p (st.received { st.gapList with
      gapStartList := update st.gapList.gapStartList pre.length (serial p) }) := by
  have order := gap.order
  have apart : Separated (pre ++ rest) :=
    gap.placed.separated.sublist ((List.sublist_cons_self s rest).append_left pre)
  have inside : p < s.hi := by omega
  have grown : Separated (pre ++ ⟨p, s.hi, inside⟩ :: rest) :=
    Separated.of_gap apart clear fun b mem => gap.before mem
  have placed := gap.placed.replace (gap.placed.toLaid.replaceStart inside) grown
    ⟨by dsimp only; omega, order.2.2.2⟩
  refine takesIn_of_cover gap.acked placed (cover_replace fun q => ?_)
  dsimp only
  omega

lemma growUp {init : List (Span ℕ)} {last : Span ℕ} (pre_eq : pre = init ++ [last])
    (start : p = gapStart cum pre) (clear : p + 1 < s.lo) :
    TakesIn cum (Set.Iic cum ∪ cover (pre ++ s :: rest)) p (st.received { st.gapList with
      gapStopList := Function.update st.gapList.gapStopList init.length (serial p) }) := by
  subst pre_eq
  have order := gap.order
  rw [gapStart_concat] at start order
  have span := last.lo_lt_hi
  have before := gap.placed.separated
  have placed := gap.placed
  rw [List.append_assoc, List.singleton_append] at before placed
  obtain ⟨front, back, across⟩ := List.pairwise_append.mp before
  obtain ⟨lastBefore, tail⟩ := List.pairwise_cons.mp back
  have inside : last.lo < p + 1 := by omega
  have grown : Separated (init ++ ⟨last.lo, p + 1, inside⟩ :: s :: rest) := by
    refine List.pairwise_append.mpr ⟨front, List.pairwise_cons.mpr ⟨?_, tail⟩, ?_⟩
    · intro b mem
      rcases List.mem_cons.mp mem with rfl | mem
      · exact clear
      · have := gap.before mem
        exact show p + 1 < b.lo by omega
    · intro a aMem b bMem
      rcases List.mem_cons.mp bMem with rfl | bMem
      · exact across a aMem last List.mem_cons_self
      · exact across a aMem b (List.mem_cons_of_mem last bMem)
  have lastAbove := (placed.above last (List.mem_append_right _ List.mem_cons_self)).1
  have placed := placed.replace (placed.toLaid.replaceStop inside) grown
    ⟨lastAbove, by dsimp only; omega⟩
  rw [List.append_assoc, List.singleton_append]
  refine takesIn_of_cover gap.acked placed (cover_replace fun q => ?_)
  dsimp only
  omega

lemma insert (clear : gapStart cum pre < p) (clear' : p + 1 < s.lo)
    (room : (pre ++ s :: rest).length < MAX_GAP_COUNT) :
    ∃ g', SCTPSimpleGapList.moveUp pre.length
        (min (st.gapList.numGaps + 1) MAX_GAP_COUNT - 1)
        { st.gapList with numGaps := min (st.gapList.numGaps + 1) MAX_GAP_COUNT } = .ok g' ∧
      ∃ g'', g'.setBlock pre.length (serial p) (serial p) = .ok g'' ∧
        TakesIn cum (Set.Iic cum ∪ cover (pre ++ s :: rest)) p (st.received g'') := by
  have order := gap.order
  have count := gap.placed.numGaps
  have max : min (st.gapList.numGaps + 1) MAX_GAP_COUNT = (pre ++ s :: rest).length + 1 := by
    rw [count]
    omega
  have apart : Separated (pre ++ ⟨p, p + 1, Nat.lt_succ_self p⟩ :: s :: rest) := by
    refine Separated.of_gap gap.placed.separated clear fun b mem => ?_
    rcases List.mem_cons.mp mem with rfl | mem
    · exact clear'
    · have := gap.before mem
      exact show p + 1 < b.lo by omega
  have placed := gap.placed.insert (gap.placed.toLaid.insert room ⟨p, p + 1, Nat.lt_succ_self p⟩)
    apart ⟨by dsimp only; omega, by dsimp only; omega⟩
  rw [max, SCTPSimpleGapList.moveUp_eq (by omega)]
  refine ⟨_, rfl, _, SCTPSimpleGapList.setBlock_eq gap.placed.lt_max, ?_⟩
  refine takesIn_of_cover gap.acked placed (cover_insert fun q => ?_)
  dsimp only
  omega

lemma merge {init : List (Span ℕ)} {last : Span ℕ} (pre_eq : pre = init ++ [last])
    (start : p = gapStart cum pre) (end_ : p + 1 = s.lo) :
    ∃ g', GapState.dropBlock { st with gapList := { st.gapList with
        gapStopList := Function.update st.gapList.gapStopList init.length
          (serial (s.hi - 1)) } } pre.length = .ok g' ∧
      TakesIn cum (Set.Iic cum ∪ cover (pre ++ s :: rest)) p (st.received g') := by
  subst pre_eq
  have order := gap.order
  rw [gapStart_concat] at start order
  have span := last.lo_lt_hi
  have placed := gap.placed
  rw [List.append_assoc, List.singleton_append] at placed
  obtain ⟨front, back, across⟩ := List.pairwise_append.mp placed.separated
  have inside : last.lo < s.hi := by omega
  have joined : Separated (init ++ ⟨last.lo, s.hi, inside⟩ :: rest) := by
    refine List.pairwise_append.mpr ⟨front, List.pairwise_cons.mpr ⟨fun b mem => gap.before mem,
      (List.pairwise_cons.mp (List.pairwise_cons.mp back).2).2⟩, ?_⟩
    intro a aMem b bMem
    rcases List.mem_cons.mp bMem with rfl | bMem
    · exact across a aMem last List.mem_cons_self
    · exact across a aMem b (List.mem_cons_of_mem last (List.mem_cons_of_mem s bMem))
  have widened := placed.toLaid.replaceStop inside
  have regrouped : init ++ ⟨last.lo, s.hi, inside⟩ :: s :: rest =
      (init ++ [⟨last.lo, s.hi, inside⟩]) ++ s :: rest := by simp
  rw [regrouped] at widened
  have dropped := Laid.dropBlock { st with gapList := _ } widened
  rw [List.length_append, List.length_singleton] at dropped ⊢
  obtain ⟨g', ok, laid⟩ := dropped
  rw [List.append_assoc, List.singleton_append] at laid
  refine ⟨g', ok, ?_⟩
  have lastAbove := (placed.above last (List.mem_append_right _ List.mem_cons_self)).1
  refine takesIn_of_cover gap.acked ⟨laid, joined, fun x mem => ?_⟩ fun q => ?_
  · rcases List.mem_append.mp mem with front | back
    · exact placed.above x (List.mem_append_left _ front)
    · rcases List.mem_cons.mp back with rfl | back
      · exact ⟨lastAbove, order.2.2.2⟩
      · exact gap.placed.above x (List.mem_append_right _ (List.mem_cons_of_mem s back))
  · have covers : last.lo ≤ q ∧ q < s.hi ↔
        q = p ∨ (last.lo ≤ q ∧ q < last.hi) ∨ (s.lo ≤ q ∧ q < s.hi) := by omega
    rw [List.append_assoc, List.singleton_append, mem_cover_middle, mem_cover_middle,
      mem_cover_cons, Set.mem_Ico, covers]
    simp only [or_assoc, or_left_comm]

lemma raise (next : p = cum + 1) (clear : p + 1 < s.lo) :
    TakesIn cum (Set.Iic cum ∪ cover (pre ++ s :: rest)) p
      { st.received st.gapList with cTsnAck := st.cTsnAck + 1 } := by
  obtain rfl := gap.first next
  subst next
  rw [gap.acked, serial_succ]
  refine takesIn_of_raise (Nat.lt_succ_self cum) gap.placed (fun a mem => ?_) fun q => ?_
  · rcases List.mem_cons.mp mem with rfl | mem
    · exact clear
    · have := gap.before mem
      have := s.lo_lt_hi
      omega
  · have covers : q ≤ cum + 1 ↔ q = cum + 1 ∨ q ≤ cum := by omega
    rw [covers, or_assoc]

lemma raiseOver (next : p = cum + 1) (end_ : p + 1 = s.lo) :
    ∃ g', st.dropBlock pre.length = .ok g' ∧
      TakesIn cum (Set.Iic cum ∪ cover (pre ++ s :: rest)) p
        { st.received g' with cTsnAck := serial (s.hi - 1) } := by
  obtain rfl := gap.first next
  subst next
  have order := gap.order
  obtain ⟨g', ok, laid⟩ := gap.placed.toLaid.dropBlock st
  have placed := gap.placed.erase laid
  refine ⟨g', ok, takesIn_of_raise (by omega) placed (fun a mem => ?_) fun q => ?_⟩
  · have := gap.before mem
    omega
  · have covers : q ≤ s.hi - 1 ↔ q = cum + 1 ∨ q ≤ cum ∨ (s.lo ≤ q ∧ q < s.hi) := by omega
    rw [List.nil_append, List.nil_append, mem_cover_cons, Set.mem_Ico, covers]
    simp only [or_assoc]

/-- A TSN in the gap is taken in, unless it would need a block of its own and the list is full. -/
lemma fillGap (room : gapStart cum pre < p → p + 1 < s.lo →
      (pre ++ s :: rest).length < MAX_GAP_COUNT) :
    ∃ st', st.fillGap (serial p) (serial lo) (serial (s.lo - 1)) pre.length = .ok st' ∧
      TakesIn cum (Set.Iic cum ∪ cover (pre ++ s :: rest)) p st' := by
  have order := gap.order
  have ge := gap.ge
  have lt := gap.lt
  have loLe := gap.loLe
  have stale := gap.stale
  unfold GapState.fillGap
  dsimp only
  by_cases single : lo + 1 < s.lo
  · rw [if_pos (gap.wide.mpr single)]
    by_cases end_ : p + 1 = s.lo
    · rw [if_pos (gap.atEnd.mpr end_), SCTPSimpleGapList.setStart_eq gap.placed.lt_max]
      exact ⟨_, rfl, gap.growDown end_ (by omega)⟩
    rw [if_neg (mt gap.atEnd.mp end_)]
    by_cases start : p = lo
    · rw [if_pos (gap.atStart.mpr start)]
      by_cases next : p = cum + 1
      · rw [if_pos (gap.nextToAck.mpr next)]
        exact ⟨_, rfl, gap.raise next (by omega)⟩
      · rw [if_neg (mt gap.nextToAck.mp next)]
        rcases List.eq_nil_or_concat pre with rfl | ⟨init, last, pre_eq⟩
        · rw [gapStart_nil] at *
          omega
        · rw [List.concat_eq_append] at pre_eq
          have index : pre.length - 1 = init.length := by rw [pre_eq]; simp
          have lt := gap.placed.lt_max
          rw [index, SCTPSimpleGapList.setStop_eq (by omega)]
          exact ⟨_, rfl, gap.growUp pre_eq (by omega) (by omega)⟩
    · rw [if_neg (mt gap.atStart.mp start)]
      have clear : gapStart cum pre < p := by omega
      obtain ⟨g', moved, g'', set, takes⟩ := gap.insert clear (by omega) (room clear (by omega))
      rw [moved]
      change ∃ st', (g'.setBlock pre.length (serial p) (serial p) >>= fun list =>
        .ok (st.received list)) = .ok st' ∧ _
      rw [set]
      exact ⟨_, rfl, takes⟩
  · have start : p = gapStart cum pre := by omega
    have first : serial lo = st.cTsnAck + 1 ↔ p = cum + 1 := by
      rw [gap.acked, serial_succ, serial_inj (by omega) (by omega)]
      omega
    rw [if_neg (mt gap.wide.mp single), SCTPSimpleGapList.getStop_eq gap.placed.lt_max,
      gap.placed.stop_at]
    dsimp only [bind, Except.bind]
    by_cases next : p = cum + 1
    · rw [if_pos (first.mpr next)]
      obtain ⟨g', dropped, takes⟩ := gap.raiseOver next (by omega)
      rw [dropped]
      exact ⟨_, rfl, takes⟩
    · rw [if_neg (mt first.mp next)]
      rcases List.eq_nil_or_concat pre with rfl | ⟨init, last, pre_eq⟩
      · rw [gapStart_nil] at start
        omega
      · rw [List.concat_eq_append] at pre_eq
        have index : pre.length - 1 = init.length := by rw [pre_eq]; simp
        have lt := gap.placed.lt_max
        obtain ⟨g', dropped, takes⟩ := gap.merge pre_eq start (by omega)
        rw [index, SCTPSimpleGapList.setStop_eq (by omega)]
        dsimp only
        rw [dropped]
        exact ⟨_, rfl, takes⟩

end InGap

/-! ## Behind the last block -/

/-- The search has come to the end of the list, and the TSN is behind the last block. -/
structure Behind (st : GapState) (cum : ℕ) (spans : List (Span ℕ)) (p : ℕ) : Prop where
  acked : st.cTsnAck = serial cum
  placed : Placed st.gapList cum spans
  ge : gapStart cum spans ≤ p
  lt : p < cum + 2147483648

namespace Behind

variable (behind : Behind st cum spans p)

include behind

lemma above : cum + 1 ≤ gapStart cum spans :=
  succ_le_gapStart fun _ mem => (behind.placed.above _ mem).1

lemma nextToAck : serial p = st.cTsnAck + 1 ↔ p = cum + 1 := by
  have := behind.above
  have := behind.ge
  have := behind.lt
  rw [behind.acked, serial_succ, serial_inj (by omega) (by omega)]

lemma raise (next : p = cum + 1) : TakesIn cum (Set.Iic cum ∪ cover spans) p
    { st.received st.gapList with cTsnAck := serial p } := by
  have ge := behind.ge
  have none : spans = [] := by
    rcases List.eq_nil_or_concat spans with rfl | ⟨init, last, rfl⟩
    · rfl
    · rw [List.concat_eq_append] at behind ge
      have lastAbove := (behind.placed.above last (by simp)).1
      have span := last.lo_lt_hi
      rw [gapStart_concat] at ge
      omega
  have placed := behind.placed
  subst none next
  refine takesIn_of_raise (Nat.lt_succ_self cum) placed (fun a mem => nomatch mem) fun q => ?_
  have covers : q ≤ cum + 1 ↔ q = cum + 1 ∨ q ≤ cum := by omega
  rw [covers, or_assoc]

lemma growUp {init : List (Span ℕ)} {last : Span ℕ} (spans_eq : spans = init ++ [last])
    (next : p = last.hi) : TakesIn cum (Set.Iic cum ∪ cover spans) p
      (st.received { st.gapList with
        gapStopList := Function.update st.gapList.gapStopList init.length (serial p) }) := by
  subst spans_eq next
  have span := last.lo_lt_hi
  have lt := behind.lt
  have placed := behind.placed
  obtain ⟨lastAbove, -⟩ := placed.above last (by simp)
  obtain ⟨front, -, across⟩ := List.pairwise_append.mp placed.separated
  have inside : last.lo < last.hi + 1 := by omega
  have grown : Separated (init ++ [⟨last.lo, last.hi + 1, inside⟩]) := by
    refine List.pairwise_append.mpr ⟨front, List.pairwise_singleton .., ?_⟩
    intro a aMem b bMem
    rw [List.mem_singleton.mp bMem]
    exact across a aMem last List.mem_cons_self
  have placed := placed.replace (placed.toLaid.replaceStop inside) grown
    ⟨lastAbove, by dsimp only; omega⟩
  refine takesIn_of_cover behind.acked placed (cover_replace fun q => ?_)
  dsimp only
  omega

lemma append (clear : gapStart cum spans < p) (room : spans.length < MAX_GAP_COUNT) :
    TakesIn cum (Set.Iic cum ∪ cover spans) p (st.received
      { numGaps := spans.length + 1
        gapStartList := Function.update st.gapList.gapStartList spans.length (serial p)
        gapStopList := Function.update st.gapList.gapStopList spans.length (serial p) }) := by
  have above := behind.above
  have lt := behind.lt
  have placed := behind.placed
  rw [← List.append_nil spans] at placed
  have apart : Separated (spans ++ [⟨p, p + 1, Nat.lt_succ_self p⟩]) :=
    Separated.of_gap placed.separated clear fun b mem => nomatch mem
  have laid := placed.toLaid.insert (by rwa [List.append_nil]) ⟨p, p + 1, Nat.lt_succ_self p⟩
  rw [List.append_nil, movedUp_of_le le_rfl, movedUp_of_le le_rfl] at laid
  have appended := placed.insert laid apart ⟨by dsimp only; omega, by dsimp only; omega⟩
  refine takesIn_of_cover behind.acked appended fun q => ?_
  have covers : q ∈ cover (spans ++ [⟨p, p + 1, Nat.lt_succ_self p⟩]) ↔
      q = p ∨ q ∈ cover (spans ++ []) := cover_insert (fun q => by dsimp only; omega) q
  rwa [List.append_nil] at covers

lemma beyondLast (clear : gapStart cum spans < p) : st.beyondLast (serial p) = .ok true := by
  have lt := behind.lt
  unfold GapState.beyondLast
  rw [behind.placed.numGaps]
  rcases List.eq_nil_or_concat spans with rfl | ⟨init, last, rfl⟩
  · rfl
  · rw [List.concat_eq_append] at *
    have span := last.lo_lt_hi
    have lastAbove := (behind.placed.above last (by simp)).1
    have index : (init ++ [last]).length - 1 = init.length := by simp
    have pos : (init ++ [last]).length ≠ 0 := by simp
    rw [gapStart_concat] at clear
    rw [if_neg pos, index, SCTPSimpleGapList.getStop_eq behind.placed.lt_max,
      behind.placed.stop_at, Except.map, serial_succ, tsnGt_serial (by omega) (by omega)]
    have less : last.hi - 1 + 1 < p := by omega
    rw [decide_eq_true less]

/-- The TSN is taken in, unless it would need a block of its own and the list is full. -/
lemma reachEnd {lo : ℕ} (stale : p = gapStart cum spans → lo = p)
    (near : lo ≤ cum + 2147483648) (loAbove : cum < lo) (apart : gapStart cum spans < p → p ≠ lo) :
    ∃ st', st.reachEnd (serial p) (serial lo) = .ok st' ∧
      (gapStart cum spans < p → spans.length = MAX_GAP_COUNT → st' = st) ∧
      (p = gapStart cum spans ∨ spans.length < MAX_GAP_COUNT →
        TakesIn cum (Set.Iic cum ∪ cover spans) p st') := by
  have above := behind.above
  have lt := behind.lt
  have ge := behind.ge
  have atStart : serial p = serial lo ↔ p = lo := serial_inj (by omega) (by omega)
  unfold GapState.reachEnd
  by_cases start : p = lo
  · have next : p = gapStart cum spans := by
      by_contra other
      exact apart (by omega) start
    rw [if_pos (atStart.mpr start)]
    by_cases first : p = cum + 1
    · rw [if_pos (behind.nextToAck.mpr first)]
      refine ⟨_, rfl, fun clear => ?_, fun _ => behind.raise first⟩
      omega
    · rw [if_neg (mt behind.nextToAck.mp first), behind.placed.numGaps]
      rcases List.eq_nil_or_concat spans with rfl | ⟨init, last, spans_eq⟩
      · rw [gapStart_nil] at next
        omega
      · rw [List.concat_eq_append] at spans_eq
        have next : p = last.hi := by rw [next, spans_eq, gapStart_concat]
        have index : spans.length - 1 = init.length := by rw [spans_eq]; simp
        have placed := behind.placed
        rw [spans_eq] at placed
        have stop : serial (last.hi - 1) + 1 = serial p := by
          rw [serial_succ]
          congr 1
          omega
        rw [index, SCTPSimpleGapList.getStop_eq placed.lt_max, placed.stop_at]
        dsimp only [bind, Except.bind]
        rw [stop, SCTPSimpleGapList.setStop_eq placed.lt_max]
        refine ⟨_, rfl, fun clear => ?_, fun _ => behind.growUp spans_eq next⟩
        omega
  · have clear : gapStart cum spans < p := by
      by_contra other
      exact start (stale (by omega)).symm
    rw [if_neg (mt atStart.mp start), behind.beyondLast clear, behind.placed.numGaps]
    dsimp only [bind, Except.bind]
    by_cases room : spans.length < MAX_GAP_COUNT
    · rw [if_pos ⟨rfl, room⟩, SCTPSimpleGapList.setBlock_eq room]
      refine ⟨_, rfl, fun _ full => ?_, fun _ => ?_⟩
      · omega
      · exact behind.append clear room
    · rw [if_neg (fun both => room both.2)]
      refine ⟨st, rfl, fun _ _ => rfl, fun either => ?_⟩
      omega

end Behind

end

end Inet.Sctp
