import Inet.Sctp.GapListRuns
import Mathlib.Data.List.Induction

/-!
# The gap list refines a set of TSNs

`removeFromGapList` takes the TSN out of the blocks, and nothing else. Beside a run of calls of
`updateGapList`, each followed by `tryToAdvanceCumAckTSN`, and of `removeFromGapList` runs the set
of TSNs the list stands for.
-/

namespace Inet.Sctp

variable {cum p : ℕ} {pre rest spans : List (Span ℕ)} {s : Span ℕ} {gapList : SCTPSimpleGapList}

/-- The TSN goes from the blocks, and nothing else does. -/
def TakesOut (cum : ℕ) (spans : List (Span ℕ)) (p : ℕ) (gapList' : SCTPSimpleGapList) : Prop :=
  ∃ spans', Placed gapList' cum spans' ∧ ∀ q, q ∈ cover spans' ↔ q ∈ cover spans ∧ q ≠ p

lemma notMem_elsewhere (separated : Separated (pre ++ s :: rest))
    (inside : s.lo ≤ p ∧ p < s.hi) : p ∉ cover pre ∧ p ∉ cover rest := by
  obtain ⟨-, back, across⟩ := List.pairwise_append.mp separated
  constructor
  · rintro ⟨a, mem, -, lt⟩
    have apart := across a mem s List.mem_cons_self
    rw [Span.Before] at apart
    omega
  · intro covered
    have := Separated.head_hi_lt back covered
    omega

lemma mem_without (separated : Separated (pre ++ s :: rest)) (inside : s.lo ≤ p ∧ p < s.hi)
    {q : ℕ} {left : Prop} (covers : left ↔ (s.lo ≤ q ∧ q < s.hi) ∧ q ≠ p) :
    (q ∈ cover pre ∨ left ∨ q ∈ cover rest) ↔ q ∈ cover (pre ++ s :: rest) ∧ q ≠ p := by
  obtain ⟨front, back⟩ := notMem_elsewhere separated inside
  have inFront : q ∈ cover pre → q ≠ p := fun covered eq => front (eq ▸ covered)
  have inBack : q ∈ cover rest → q ≠ p := fun covered eq => back (eq ▸ covered)
  rw [mem_cover_middle, covers]
  tauto

lemma takesOut_of_replace {gapList gapList' : SCTPSimpleGapList} {s' : Span ℕ}
    (placed : Placed gapList cum (pre ++ s :: rest)) (laid : Laid gapList' (pre ++ s' :: rest))
    (low : s.lo ≤ s'.lo) (high : s'.hi ≤ s.hi) (inside : s.lo ≤ p ∧ p < s.hi)
    (covers : ∀ q, s'.lo ≤ q ∧ q < s'.hi ↔ (s.lo ≤ q ∧ q < s.hi) ∧ q ≠ p) :
    TakesOut cum (pre ++ s :: rest) p gapList' := by
  obtain ⟨front, back, across⟩ := List.pairwise_append.mp placed.separated
  obtain ⟨before, tail⟩ := List.pairwise_cons.mp back
  obtain ⟨above, near⟩ := placed.above s (List.mem_append_right _ List.mem_cons_self)
  have separated : Separated (pre ++ s' :: rest) := by
    refine List.pairwise_append.mpr ⟨front, List.pairwise_cons.mpr ⟨fun b mem => ?_, tail⟩, ?_⟩
    · exact high.trans_lt (before b mem)
    · intro a aMem b bMem
      rcases List.mem_cons.mp bMem with rfl | bMem
      · exact (across a aMem s List.mem_cons_self).trans_le low
      · exact across a aMem b (List.mem_cons_of_mem s bMem)
  refine ⟨_, placed.replace laid separated ⟨above.trans_le low, high.trans near⟩, fun q => ?_⟩
  rw [mem_cover_middle]
  exact mem_without placed.separated inside (covers q)

lemma movedUp_self {α : Type*} (i n : ℕ) (a : ℕ → α) {x : α} (eq : a i = x) :
    Function.update (movedUp i n a) i x = movedUp i n a := by
  have same : movedUp i n a i = x := by rw [movedUp, if_neg (by omega), eq]
  rw [← same, Function.update_eq_self]

variable (placed : Placed gapList cum (pre ++ s :: rest))
include placed

lemma takesOut_split (low : s.lo < p) (high : p + 1 < s.hi)
    (room : (pre ++ s :: rest).length < MAX_GAP_COUNT) :
    TakesOut cum (pre ++ s :: rest) p
      { numGaps := (pre ++ s :: rest).length + 1
        gapStartList := Function.update
          (movedUp pre.length (pre ++ s :: rest).length gapList.gapStartList) (pre.length + 1)
          (serial (p + 1))
        gapStopList := Function.update
          (movedUp pre.length (pre ++ s :: rest).length gapList.gapStopList) pre.length
          (serial (p - 1)) } := by
  have doubled := placed.toLaid.insert room s
  rw [movedUp_self _ _ _ placed.start_at, movedUp_self _ _ _ placed.stop_at] at doubled
  have lower := doubled.replaceStop low
  have regrouped : pre ++ ⟨s.lo, p, low⟩ :: s :: rest = (pre ++ [⟨s.lo, p, low⟩]) ++ s :: rest := by
    simp
  rw [regrouped] at lower
  have laid := lower.replaceStart high
  have index : (pre ++ [(⟨s.lo, p, low⟩ : Span ℕ)]).length = pre.length + 1 := by simp
  rw [List.append_assoc, List.singleton_append, index] at laid
  obtain ⟨front, back, across⟩ := List.pairwise_append.mp placed.separated
  obtain ⟨before, tail⟩ := List.pairwise_cons.mp back
  obtain ⟨above, near⟩ := placed.above s (List.mem_append_right _ List.mem_cons_self)
  have separated : Separated (pre ++ ⟨s.lo, p, low⟩ :: ⟨p + 1, s.hi, high⟩ :: rest) := by
    refine List.pairwise_append.mpr ⟨front, List.pairwise_cons.mpr
      ⟨fun b mem => ?_, List.pairwise_cons.mpr ⟨before, tail⟩⟩, fun a aMem b bMem => ?_⟩
    · rcases List.mem_cons.mp mem with rfl | mem
      · exact Nat.lt_succ_self p
      · have := before b mem
        rw [Span.Before] at this ⊢
        dsimp only
        omega
    · have apart := across a aMem s List.mem_cons_self
      rcases List.mem_cons.mp bMem with rfl | bMem
      · exact apart
      rcases List.mem_cons.mp bMem with rfl | bMem
      · rw [Span.Before] at apart ⊢
        dsimp only
        omega
      · exact across a aMem b (List.mem_cons_of_mem s bMem)
  refine ⟨_, ⟨laid, separated, fun x mem => ?_⟩, fun q => ?_⟩
  · rcases List.mem_append.mp mem with inFront | inBack
    · exact placed.above x (List.mem_append_left _ inFront)
    rcases List.mem_cons.mp inBack with rfl | inBack
    · exact ⟨above, by dsimp only; omega⟩
    rcases List.mem_cons.mp inBack with rfl | inBack
    · exact ⟨by dsimp only; omega, near⟩
    · exact placed.above x (List.mem_append_right _ (List.mem_cons_of_mem s inBack))
  · rw [mem_cover_middle, mem_cover_cons, Set.mem_Ico]
    refine (or_congr_right or_assoc.symm).trans (mem_without placed.separated ⟨low.le, by omega⟩ ?_)
    dsimp only
    omega

lemma takesOut_erase {gapList' : SCTPSimpleGapList} (laid : Laid gapList' (pre ++ rest))
    (low : s.lo = p) (high : p + 1 = s.hi) : TakesOut cum (pre ++ s :: rest) p gapList' := by
  refine ⟨_, placed.erase laid, fun q => ?_⟩
  have inside : s.lo ≤ p ∧ p < s.hi := ⟨low.le, by omega⟩
  have none : False ↔ (s.lo ≤ q ∧ q < s.hi) ∧ q ≠ p := by
    refine ⟨False.elim, ?_⟩
    rintro ⟨within, other⟩
    omega
  rw [mem_cover_append, ← mem_without placed.separated inside none, false_or]

lemma cutBlock_takesOut (inside : s.lo ≤ p ∧ p < s.hi)
    (room : (pre ++ s :: rest).length = MAX_GAP_COUNT →
      s.lo + 1 ≠ s.hi ∧ (p = s.lo ∨ p + 1 = s.hi)) :
    ∃ gapList', gapList.cutBlock (serial p) pre.length = .ok gapList' ∧
      TakesOut cum (pre ++ s :: rest) p gapList' := by
  obtain ⟨above, near⟩ := placed.above s (List.mem_append_right _ List.mem_cons_self)
  have count := placed.numGaps
  have fits := placed.fits
  have lt := placed.lt_max
  have size : int32 (serial (s.hi - 1) - serial s.lo + 1) = s.hi - s.lo := by
    rw [← serial_sub (by omega), serial_succ, int32_eq, toNat_serial, Nat.mod_eq_of_lt (by omega),
      if_pos (by omega)]
    omega
  have atStop : serial (s.hi - 1) = serial p ↔ s.hi - 1 = p := serial_inj (by omega) (by omega)
  have atStart : serial s.lo = serial p ↔ s.lo = p := serial_inj (by omega) (by omega)
  rw [SCTPSimpleGapList.cutBlock, SCTPSimpleGapList.getStart_eq lt,
    SCTPSimpleGapList.getStop_eq lt, placed.start_at, placed.stop_at]
  dsimp only [bind, Except.bind]
  by_cases several : s.lo + 1 < s.hi
  · rw [if_pos (by omega)]
    by_cases top : s.hi - 1 = p
    · rw [if_pos (atStop.mpr top), serial_pred (by omega), SCTPSimpleGapList.setStop_eq lt]
      refine ⟨_, rfl, takesOut_of_replace placed (placed.toLaid.replaceStop (by omega)) le_rfl
        (Nat.sub_le _ _) inside fun q => ?_⟩
      dsimp only
      omega
    rw [if_neg (mt atStop.mp top)]
    by_cases bottom : s.lo = p
    · rw [if_pos (atStart.mpr bottom), serial_succ, SCTPSimpleGapList.setStart_eq lt]
      refine ⟨_, rfl, takesOut_of_replace placed (placed.toLaid.replaceStart several)
        (Nat.le_succ _) le_rfl inside fun q => ?_⟩
      dsimp only
      omega
    rw [if_neg (mt atStart.mp bottom)]
    have free : (pre ++ s :: rest).length < MAX_GAP_COUNT := by
      refine lt_of_le_of_ne fits fun full => ?_
      omega
    have more : min (gapList.numGaps + 1) MAX_GAP_COUNT = (pre ++ s :: rest).length + 1 := by
      omega
    have index : pre.length + 1 < (pre ++ s :: rest).length + 1 := by
      rw [List.length_append, List.length_cons]
      omega
    rw [more, Nat.add_sub_cancel, SCTPSimpleGapList.moveUp_eq free]
    dsimp only
    rw [SCTPSimpleGapList.setStop_eq lt]
    dsimp only
    rw [if_pos index, SCTPSimpleGapList.setStart_eq (by omega), serial_pred (by omega), serial_succ]
    exact ⟨_, rfl, takesOut_split placed (by omega) (by omega) free⟩
  · have free : (pre ++ s :: rest).length < MAX_GAP_COUNT := by
      refine lt_of_le_of_ne fits fun full => ?_
      omega
    rw [List.length_append, List.length_cons] at free count
    have moved : pre.length + (gapList.numGaps - pre.length) < MAX_GAP_COUNT := by omega
    rw [if_neg (by omega), SCTPSimpleGapList.moveDown_eq moved]
    dsimp only
    rw [SCTPSimpleGapList.setBlock_eq (by omega)]
    refine ⟨_, rfl, takesOut_erase placed (placed.toLaid.erase rfl ?_ ?_) (by omega) (by omega)⟩
    all_goals
      intro i lt
      rw [List.length_append] at lt
      dsimp only
      rw [Function.update_of_ne (by omega), movedDown, movedDown]
      split_ifs <;> first | rfl | omega

omit placed

lemma removeFrom_takesOut (placed : Placed gapList cum spans)
    (near : cum ≤ p + 2147483648) (lt : p < cum + 2147483648)
    (safe : spans.length = MAX_GAP_COUNT → ∀ s ∈ spans, s.lo ≤ p ∧ p < s.hi →
      s.lo + 1 ≠ s.hi ∧ (p = s.lo ∨ p + 1 = s.hi))
    (eq : spans = pre ++ rest) (notBehind : p ∉ cover rest) :
    ∃ gapList', gapList.removeFrom (serial p) pre.length = .ok gapList' ∧
      TakesOut cum spans p gapList' := by
  induction pre using List.reverseRecOn generalizing rest with
  | nil =>
    subst eq
    refine ⟨gapList, rfl, spans, placed, fun q => ?_⟩
    exact ⟨fun covered => ⟨covered, fun same => notBehind (same ▸ covered)⟩, And.left⟩
  | append_singleton front s ih =>
    have regrouped : front ++ [s] ++ rest = front ++ s :: rest := by simp
    rw [regrouped] at eq
    subst eq
    obtain ⟨above, sNear⟩ := placed.above s (List.mem_append_right _ List.mem_cons_self)
    have span := s.lo_lt_hi
    rw [List.length_append, List.length_singleton, SCTPSimpleGapList.removeFrom,
      SCTPSimpleGapList.getStart_eq placed.lt_max, SCTPSimpleGapList.getStop_eq placed.lt_max,
      placed.start_at, placed.stop_at]
    dsimp only [bind, Except.bind]
    rw [tsnBetween_serial (by omega) (by omega) (by omega) (by omega)]
    by_cases inside : s.lo ≤ p ∧ p ≤ s.hi - 1
    · rw [decide_eq_true inside, if_pos rfl]
      have within : s.lo ≤ p ∧ p < s.hi := ⟨inside.1, by omega⟩
      exact cutBlock_takesOut placed within fun full =>
        safe full s (List.mem_append_right _ List.mem_cons_self) within
    · rw [decide_eq_false inside, if_neg Bool.false_ne_true]
      refine ih rfl ?_
      rw [mem_cover_cons, Set.mem_Ico]
      rintro (within | covered)
      · omega
      · exact notBehind covered

lemma removeFromGapList_takesOut {st : GapState} (acked : st.cTsnAck = serial cum)
    (placed : Placed st.gapList cum spans) (near : cum ≤ p + 2147483648)
    (lt : p < cum + 2147483648) (safe : st.RemoveSafe (serial p)) :
    ∃ st', st.removeFromGapList (serial p) = .ok st' ∧ st'.cTsnAck = st.cTsnAck ∧
      st'.newChunkReceived = st.newChunkReceived ∧ TakesOut cum spans p st'.gapList := by
  have whole : spans = spans ++ [] := (List.append_nil spans).symm
  have safe' : spans.length = MAX_GAP_COUNT → ∀ s ∈ spans, s.lo ≤ p ∧ p < s.hi →
      s.lo + 1 ≠ s.hi ∧ (p = s.lo ∨ p + 1 = s.hi) := by
    intro full s mem inside
    obtain ⟨above, sNear⟩ := placed.above s mem
    obtain ⟨pre, rest, rfl⟩ := List.append_of_mem mem
    have reading := gapReading acked placed (by omega) lt
    have index : pre.length < st.gapList.numGaps := by
      rw [placed.numGaps, List.length_append, List.length_cons]
      omega
    obtain ⟨several, atEnd⟩ := safe (placed.numGaps.trans full) pre.length index
      (reading.inBlock.trans (decide_eq_true inside))
    rw [placed.start_at, placed.stop_at] at several atEnd
    rw [Ne, serial_inj (by omega) (by omega)] at several
    rw [serial_inj (by omega) (by omega), serial_inj (by omega) (by omega)] at atEnd
    omega
  have notBehind : p ∉ cover ([] : List (Span ℕ)) := by
    rw [cover_nil]
    exact Set.notMem_empty p
  obtain ⟨gapList', ok, out⟩ := removeFrom_takesOut placed near lt safe' whole notBehind
  refine ⟨{ st with gapList := gapList' }, ?_, rfl, rfl, out⟩
  rw [GapState.removeFromGapList, SCTPSimpleGapList.removeFromGapList, placed.numGaps, ok]
  rfl

/-! ## Refinement -/

/-- `cum` is the last of the contiguous positions from the first one on. -/
def EndsPrefix (R : Set ℕ) (cum : ℕ) : Prop := Set.Iic cum ⊆ R ∧ cum + 1 ∉ R

lemma EndsPrefix.unique {R : Set ℕ} {cum cum' : ℕ} (ends : EndsPrefix R cum)
    (ends' : EndsPrefix R cum') : cum = cum' := by
  by_contra other
  rcases lt_or_gt_of_ne other with lt | gt
  · exact ends.2 (ends'.1 (Set.mem_Iic.mpr lt))
  · exact ends'.2 (ends.1 (Set.mem_Iic.mpr gt))

namespace GapState

variable (st : GapState) (tsn : UInt32)

/-- The cumulative ack or a block covers the TSN. -/
def covers : Bool := tsnLe tsn st.cTsnAck || st.gapList.tsnInGapList tsn

/-- A TSN has arrived. -/
def receive : Except SimError GapState := do
  let (_, st) ← st.updateGapList tsn
  let (_, st) ← st.tryToAdvanceCumAckTSN
  return st

/-- The set with the TSN, if that can be stored. -/
def stored (cum : ℕ) (R : Set ℕ) : Set ℕ :=
  {q | q ∈ R ∨ (q = position cum tsn ∧ st.CanStore R q)}

/-- The condition on a TSN that arrives. -/
def ReceiveSafe : Prop := tsnLe tsn st.cTsnAck = false → st.UpdateSafe tsn

end GapState

/-- The set without the TSN, where the cumulative ack does not cover it. -/
def removed (cum : ℕ) (R : Set ℕ) (tsn : UInt32) : Set ℕ :=
  {q | q ∈ R ∧ (cum < q → q ≠ position cum tsn)}

open GapState

/-- The list after some calls, the last contiguous position and the set. -/
inductive Reached : GapState → ℕ → Set ℕ → Prop
  | empty (cTsnAck : UInt32) (flag : Bool) :
    Reached ⟨.init, cTsnAck, flag⟩ (4294967296 + cTsnAck.toNat)
      (Set.Iic (4294967296 + cTsnAck.toNat))
  | update {st st' : GapState} {cum cum' : ℕ} {R : Set ℕ} (tsn : UInt32) :
    Reached st cum R → st.ReceiveSafe tsn → st.receive tsn = .ok st' →
    EndsPrefix (st.stored tsn cum R) cum' → Reached st' cum' (st.stored tsn cum R)
  | remove {st st' : GapState} {cum : ℕ} {R : Set ℕ} (tsn : UInt32) :
    Reached st cum R → st.RemoveSafe tsn → st.removeFromGapList tsn = .ok st' →
    Reached st' cum (removed cum R tsn)

/-- The list stands for the set. -/
structure RefinesSet (st : GapState) (cum : ℕ) (R : Set ℕ) : Prop where
  check : st.gapList.check st.cTsnAck = .ok ()
  acked : st.cTsnAck = serial cum
  ends : EndsPrefix R cum
  near : ∀ q ∈ R, q < cum + 2147483648
  member : ∀ tsn, st.covers tsn = true ↔ position cum tsn ∈ R

variable {st : GapState} {cum p : ℕ} {pre rest spans : List (Span ℕ)} {s : Span ℕ} {R : Set ℕ}

lemma assert_true (text : String) : assert true text = .ok () := rfl

lemma checkFrom_ok (acked : st.cTsnAck = serial cum)
    (placed : Placed st.gapList cum (pre ++ rest)) :
    st.gapList.checkFrom st.cTsnAck rest.length pre.length = .ok () := by
  induction rest generalizing pre with
  | nil => rfl
  | cons s rest ih =>
    have order := (gapReading (p := cum + 1) acked placed (by omega) (by omega)).order
    have clear : tsnGt (serial s.lo) (st.lowEnd pre.length) = true := by
      rw [lowEnd_eq acked placed, tsnGt_serial (by omega) (by omega)]
      exact decide_eq_true order.2.1
    have ordered : tsnLe (serial s.lo) (serial (s.hi - 1)) = true := by
      rw [tsnLe_serial (by omega) (by omega)]
      exact decide_eq_true (by omega)
    have regrouped : pre ++ s :: rest = (pre ++ [s]) ++ rest := by simp
    have next : st.gapList.checkFrom st.cTsnAck rest.length (pre ++ [s]).length = .ok () :=
      ih (by rwa [regrouped] at placed)
    rw [List.length_append, List.length_singleton] at next
    have lt := placed.lt_max
    rw [List.length_cons, SCTPSimpleGapList.checkFrom, SCTPSimpleGapList.getStart_eq lt,
      SCTPSimpleGapList.getStop_eq lt, placed.start_at, placed.stop_at]
    dsimp only [bind, Except.bind]
    rw [ordered, assert_true]
    by_cases first : pre.length = 0
    · rw [GapState.lowEnd, if_pos first] at clear
      rw [if_pos first, clear, assert_true]
      exact next
    · rw [GapState.lowEnd, if_neg first] at clear
      rw [if_neg first, SCTPSimpleGapList.getStop_eq (by omega)]
      dsimp only
      rw [clear, assert_true]
      exact next

lemma inBlock_serial (placed : Placed st.gapList cum (pre ++ s :: rest))
    (near : cum ≤ p + 2147483648) (lt : p < cum + 2147483648) :
    st.gapList.inBlock (serial p) pre.length = decide (s.lo ≤ p ∧ p < s.hi) := by
  obtain ⟨above, sNear⟩ := placed.above s (List.mem_append_right _ List.mem_cons_self)
  have span := s.lo_lt_hi
  rw [SCTPSimpleGapList.inBlock, placed.start_at, placed.stop_at,
    tsnBetween_serial (by omega) (by omega) (by omega) (by omega), decide_eq_decide]
  omega

lemma tsnInGapList_serial (placed : Placed st.gapList cum spans)
    (near : cum ≤ p + 2147483648) (lt : p < cum + 2147483648) :
    st.gapList.tsnInGapList (serial p) = true ↔ p ∈ cover spans := by
  rw [SCTPSimpleGapList.tsnInGapList, List.any_eq_true]
  constructor
  · rintro ⟨i, mem, inside⟩
    have index : i < spans.length := by
      rwa [List.mem_range, placed.numGaps] at mem
    have split : spans = spans.take i ++ spans[i] :: spans.drop (i + 1) := by simp
    have length : (spans.take i).length = i := List.length_take_of_le index.le
    rw [split] at placed
    have eq := inBlock_serial placed near lt
    rw [length, inside] at eq
    obtain ⟨low, high⟩ := of_decide_eq_true eq.symm
    exact mem_cover_of_mem (List.getElem_mem index) low high
  · rintro ⟨s, mem, low, high⟩
    obtain ⟨pre, rest, rfl⟩ := List.append_of_mem mem
    refine ⟨pre.length, ?_, ?_⟩
    · rw [List.mem_range, placed.numGaps, List.length_append, List.length_cons]
      omega
    · rw [inBlock_serial placed near lt]
      exact decide_eq_true ⟨low, high⟩

lemma Tracks.refines (far : 4294967296 ≤ cum) (tracks : Tracks st cum R) :
    RefinesSet st cum R := by
  obtain ⟨acked, spans, placed, rfl⟩ := tracks
  refine ⟨?_, acked, ⟨Set.subset_union_left, ?_⟩, ?_, fun tsn => ?_⟩
  · rw [SCTPSimpleGapList.check, placed.numGaps]
    have whole : Placed st.gapList cum ([] ++ spans) := placed
    exact checkFrom_ok acked whole
  · rintro (mem | ⟨s, mem, low, -⟩)
    · exact absurd (Set.mem_Iic.mp mem) (by omega)
    · have := (placed.above s mem).1
      omega
  · rintro q (mem | ⟨s, mem, -, high⟩)
    · have := Set.mem_Iic.mp mem
      omega
    · exact high.trans_le (placed.above s mem).2
  · have near := le_position cum tsn
    have lt := position_lt cum tsn
    have here := serial_position far tsn
    rw [covers, acked, Bool.or_eq_true, Set.mem_union, Set.mem_Iic]
    nth_rewrite 1 2 [← here]
    rw [tsnLe_serial lt near, decide_eq_true_iff, tsnInGapList_serial placed near lt]

/-! ## Calls -/

/-- The cumulative ack never stands right in front of the first block. -/
lemma advanceLoop_tracks (tracks : Tracks st cum R) (count : ℕ) (le : count ≤ st.gapList.numGaps) :
    st.advanceLoop count false = .ok (false, st) := by
  obtain ⟨acked, spans, placed, -⟩ := tracks
  induction count with
  | zero => rfl
  | succ count ih =>
    have pos : spans ≠ [] := by
      rintro rfl
      have := placed.numGaps
      rw [List.length_nil] at this
      omega
    obtain ⟨s, rest, rfl⟩ := List.exists_cons_of_ne_nil pos
    have placed' : Placed st.gapList cum ([] ++ s :: rest) := placed
    obtain ⟨above, near⟩ := placed.above s List.mem_cons_self
    have span := s.lo_lt_hi
    have start := placed'.start_at
    have lt := placed'.lt_max
    rw [List.length_nil] at start lt
    have apart : serial cum + 1 ≠ serial s.lo := by
      rw [serial_succ, Ne, serial_inj (by omega) (by omega)]
      omega
    rw [advanceLoop, SCTPSimpleGapList.getStart_eq lt, start, acked]
    dsimp only [bind, Except.bind]
    rw [if_neg apart]
    exact ih (by omega)

lemma receive_of_updateGapList {st' : GapState} {tsn : UInt32} {flag : Bool}
    (ok : st.updateGapList tsn = .ok (flag, st')) (tracks : Tracks st' cum R) :
    st.receive tsn = .ok st' := by
  rw [receive, ok]
  change (st'.tryToAdvanceCumAckTSN >>= fun x => Except.ok x.2) = _
  rw [tryToAdvanceCumAckTSN, advanceLoop_tracks tracks _ le_rfl]
  rfl

/-- What a call of `updateGapList` comes to. -/
lemma updateGapList_tracks (far : 4294967296 ≤ cum) (tracks : Tracks st cum R) {tsn : UInt32}
    (safe : st.ReceiveSafe tsn) :
    ∃ st', st.updateGapList tsn = .ok (!tsnLe tsn st.cTsnAck, st') ∧
      (st'.newChunkReceived = true ↔ st.newChunkReceived = true ∨
        (position cum tsn ∉ R ∧ st.CanStore R (position cum tsn))) ∧
      ∃ cum', cum ≤ cum' ∧ Tracks st' cum' (st.stored tsn cum R) := by
  have near := le_position cum tsn
  have lt := position_lt cum tsn
  have here := serial_position far tsn
  have acked := tracks.1
  have same (kept : position cum tsn ∈ R ∨ ¬ st.CanStore R (position cum tsn)) :
      st.stored tsn cum R = R := by
    ext q
    refine ⟨?_, .inl⟩
    rintro (mem | ⟨rfl, room⟩)
    · exact mem
    · exact kept.resolve_right (not_not.mpr room)
  by_cases below : position cum tsn ≤ cum
  · have covered : tsnLe tsn st.cTsnAck = true := by
      rw [acked, ← here, tsnLe_serial lt near]
      exact decide_eq_true below
    have mem : position cum tsn ∈ R := by
      obtain ⟨-, spans, -, rfl⟩ := tracks
      exact .inl below
    refine ⟨st, ?_, ?_, cum, le_rfl, ?_⟩
    · rw [updateGapList, if_pos covered, covered, Bool.not_true]
    · exact ⟨.inl, fun either => either.resolve_right fun new => new.1 mem⟩
    · rwa [same (.inl mem)]
  · have uncovered : tsnLe tsn st.cTsnAck = false := by
      rw [acked, ← here, tsnLe_serial lt near]
      exact decide_eq_false below
    have safe : st.UpdateSafe (serial (position cum tsn)) := by
      rw [here]
      exact safe uncovered
    have new : New st cum (position cum tsn) := ⟨acked, not_le.mp below, lt, safe⟩
    obtain ⟨-, spans, placed, rfl⟩ := id tracks
    have whole : Placed st.gapList cum ([] ++ spans) := placed
    obtain ⟨st', found, updates⟩ := new.search whole (.inr (by rw [gapStart_nil]; omega))
    rw [here, gapStart_nil, List.length_nil, ← serial_succ, ← acked, ← placed.numGaps] at found
    have ok : st.updateGapList tsn = .ok (!tsnLe tsn st.cTsnAck, st') := by
      rw [updateGapList, uncovered, if_neg Bool.false_ne_true, found]
      rfl
    by_cases kept : position cum tsn ∈ Set.Iic cum ∪ cover spans ∨
        ¬ st.CanStore (Set.Iic cum ∪ cover spans) (position cum tsn)
    · obtain rfl := updates.kept kept
      refine ⟨_, ok, ⟨.inl, ?_⟩, cum, le_rfl, ?_⟩
      · rintro (flag | ⟨fresh, room⟩)
        · exact flag
        · exact absurd room (kept.resolve_left fresh)
      · rwa [same kept]
    · obtain ⟨fresh, room⟩ := not_or.mp kept
      rw [not_not] at room
      obtain ⟨flag, cum', le, tracks'⟩ := updates.taken fresh room
      refine ⟨st', ok, ?_, cum', le, ?_⟩
      · exact ⟨fun _ => .inr ⟨fresh, room⟩, fun _ => flag⟩
      · have grown : st.stored tsn cum (Set.Iic cum ∪ cover spans) =
            insert (position cum tsn) (Set.Iic cum ∪ cover spans) := by
          ext q
          rw [Set.mem_insert_iff, or_comm]
          refine or_congr_right ?_
          exact ⟨And.left, fun eq => ⟨eq, eq ▸ room⟩⟩
        rwa [grown]

lemma receive_tracks (far : 4294967296 ≤ cum) (tracks : Tracks st cum R) {tsn : UInt32}
    (safe : st.ReceiveSafe tsn) :
    ∃ st', st.receive tsn = .ok st' ∧ (st'.newChunkReceived = true ↔ st.newChunkReceived = true ∨
        (position cum tsn ∉ R ∧ st.CanStore R (position cum tsn))) ∧
      ∃ cum', cum ≤ cum' ∧ Tracks st' cum' (st.stored tsn cum R) := by
  obtain ⟨st', ok, flag, cum', le, tracks'⟩ := updateGapList_tracks far tracks safe
  exact ⟨st', receive_of_updateGapList ok tracks', flag, cum', le, tracks'⟩

lemma removeFromGapList_tracks (far : 4294967296 ≤ cum) (tracks : Tracks st cum R) {tsn : UInt32}
    (safe : st.RemoveSafe tsn) :
    ∃ st', st.removeFromGapList tsn = .ok st' ∧ Tracks st' cum (removed cum R tsn) := by
  have here := serial_position far tsn
  obtain ⟨acked, spans, placed, rfl⟩ := tracks
  rw [← here] at safe
  obtain ⟨st', ok, cTsnAck, -, spans', placed', cover'⟩ := removeFromGapList_takesOut acked placed
    (le_position cum tsn) (position_lt cum tsn) safe
  rw [here] at ok
  refine ⟨st', ok, cTsnAck.trans acked, spans', placed', ?_⟩
  ext q
  have above : q ∈ cover spans → cum < q := by
    rintro ⟨s, mem, low, -⟩
    have := (placed.above s mem).1
    omega
  simp only [removed, Set.mem_ofPred_eq, Set.mem_union, Set.mem_Iic, cover']
  by_cases below : q ≤ cum
  · have notIn : q ∉ cover spans := fun covered => absurd (above covered) (not_lt.mpr below)
    simp [below, notIn]
  · simp [below, not_le.mp below]

lemma Reached.tracks (reached : Reached st cum R) : 4294967296 ≤ cum ∧ Tracks st cum R := by
  induction reached with
  | empty cTsnAck flag =>
    refine ⟨Nat.le_add_right .., ?_, [], ⟨⟨rfl, Nat.zero_le _, .nil _, .nil _⟩, .nil, ?_⟩, ?_⟩
    · rw [Nat.add_comm, serial_add_cycle, serial_toNat]
    · intro s mem
      cases mem
    · rw [cover_nil, Set.union_empty]
  | @update st st' cum cum' R tsn _ safe ok ends ih =>
    obtain ⟨st'', ok', -, cum'', le, tracks⟩ := receive_tracks ih.1 ih.2 safe
    rw [ok] at ok'
    obtain rfl := Except.ok.inj ok'
    obtain rfl := ends.unique (tracks.refines (ih.1.trans le)).ends
    exact ⟨ih.1.trans le, tracks⟩
  | @remove st st' cum R tsn _ safe ok ih =>
    obtain ⟨st'', ok', tracks⟩ := removeFromGapList_tracks ih.1 ih.2 safe
    rw [ok] at ok'
    obtain rfl := Except.ok.inj ok'
    exact ⟨ih.1, tracks⟩

/-- Along every run of safe calls the list refines the set of the TSNs taken in and not removed, and
the next call does not fail. -/
theorem Reached.refinesSet (reached : Reached st cum R) :
    RefinesSet st cum R ∧
    (∀ tsn, st.ReceiveSafe tsn → ∃ st' cum', st.receive tsn = .ok st' ∧
      Reached st' cum' (st.stored tsn cum R) ∧
      (st'.newChunkReceived = true ↔ st.newChunkReceived = true ∨
        (position cum tsn ∉ R ∧ st.CanStore R (position cum tsn)))) ∧
    ∀ tsn, st.RemoveSafe tsn → ∃ st', st.removeFromGapList tsn = .ok st' ∧
      Reached st' cum (removed cum R tsn) := by
  obtain ⟨far, tracks⟩ := reached.tracks
  refine ⟨tracks.refines far, fun tsn safe => ?_, fun tsn safe => ?_⟩
  · obtain ⟨st', ok, flag, cum', le, tracks'⟩ := receive_tracks far tracks safe
    exact ⟨st', cum', ok, reached.update tsn safe ok (tracks'.refines (far.trans le)).ends, flag⟩
  · obtain ⟨st', ok, -⟩ := removeFromGapList_tracks far tracks safe
    exact ⟨st', ok, reached.remove tsn safe ok⟩

theorem refinesSet_gap : ∃ st cum, (⟨.init, 7, false⟩ : GapState).receive 9 = .ok st ∧
    RefinesSet st cum (GapState.stored ⟨.init, 7, false⟩ 9 4294967303 (Set.Iic 4294967303)) := by
  have empty := Reached.empty 7 false
  have safe : (⟨.init, 7, false⟩ : GapState).ReceiveSafe 9 := fun _ =>
    ⟨fun i lt => absurd lt i.not_lt_zero, fun i lt => absurd lt i.not_lt_zero,
      fun i lt => absurd lt i.not_lt_zero, fun i lt => absurd lt i.not_lt_zero⟩
  obtain ⟨st, cum, ok, reached, -⟩ := empty.refinesSet.2.1 9 safe
  exact ⟨st, cum, ok, reached.refinesSet.1⟩

/-- A block that starts at TSN 0 is passed over: the TSN in front of it is new and there is room, but
it is neither stored nor reported. -/
theorem receive_passes_over_zero : ∃ st st',
    (⟨.init, 0xfffffff0, false⟩ : GapState).receive 0 = .ok st ∧
    st.covers 0xfffffffa = false ∧ st.gapList.numGaps < MAX_GAP_COUNT ∧
    GapState.receive { st with newChunkReceived := false } 0xfffffffa = .ok st' ∧
    st'.covers 0xfffffffa = false ∧ st'.newChunkReceived = false :=
  ⟨_, _, rfl, by decide, by decide, rfl, by decide, by decide⟩

end Inet.Sctp
