import Inet.Sctp.GapListRefinement

/-!
# The gap lists as a partition

The three lists stand for three sets of TSNs: those of the revokable and the non-revokable TSNs have
the combined one for their union and nothing in common above the cumulative ack (`Parts`). Every
call keeps it.
-/

namespace Inet.Sctp

open SCTPSimpleGapList Set

variable {g : SCTPSimpleGapList} {st : GapState} {cum cum' p q : ℕ} {R : Set ℕ}
  {tsn : UInt32} {flag : Bool} {spans pre mid rest : List (Span ℕ)}

namespace Tracks

lemma covered (tracks : Tracks st cum R) : Set.Iic cum ⊆ R := by
  obtain ⟨-, spans, -, rfl⟩ := tracks
  exact subset_union_left

lemma next_notMem (tracks : Tracks st cum R) : cum + 1 ∉ R := by
  obtain ⟨-, spans, placed, rfl⟩ := tracks
  rintro (mem | ⟨s, mem, low, -⟩)
  · exact absurd (mem_Iic.mp mem) (by omega)
  · have := (placed.above s mem).1
    omega

lemma near (tracks : Tracks st cum R) (mem : q ∈ R) : q < cum + 2147483648 := by
  obtain ⟨-, spans, placed, rfl⟩ := tracks
  rcases mem with mem | ⟨s, mem, -, high⟩
  · have := mem_Iic.mp mem
    omega
  · exact high.trans_le (placed.above s mem).2

lemma ends (tracks : Tracks st cum R) : EndsPrefix R cum := ⟨tracks.covered, tracks.next_notMem⟩

lemma tsnLe_eq (far : 4294967296 ≤ cum) (tracks : Tracks st cum R) (tsn : UInt32) :
    tsnLe tsn st.cTsnAck = decide (position cum tsn ≤ cum) := by
  have here := serial_position far tsn
  rw [tracks.1]
  nth_rewrite 1 [← here]
  exact tsnLe_serial (position_lt cum tsn) (le_position cum tsn)

lemma tsnInGapList (far : 4294967296 ≤ cum) (tracks : Tracks st cum R) (tsn : UInt32) :
    st.gapList.tsnInGapList tsn = true ↔ position cum tsn ∈ R ∧ cum < position cum tsn := by
  have here := serial_position far tsn
  obtain ⟨-, spans, placed, rfl⟩ := tracks
  have inList := tsnInGapList_serial placed (le_position cum tsn) (position_lt cum tsn)
  rw [here] at inList
  rw [inList, mem_union, mem_Iic]
  have above : position cum tsn ∈ cover spans → cum < position cum tsn := by
    rintro ⟨s, mem, low, -⟩
    have := (placed.above s mem).1
    omega
  constructor
  · intro mem
    exact ⟨.inr mem, above mem⟩
  · rintro ⟨below | mem, gt⟩
    · omega
    · exact mem

end Tracks

/-! ## Forwarding the cumulative ack -/

lemma tsnGe_serial (above : p < q + 2147483648) (below : q ≤ p + 2147483648) :
    tsnGe (serial p) (serial q) = decide (q ≤ p) := by
  rw [tsnGe, int32_serial_sub above below, decide_eq_decide]
  omega

lemma exists_split (separated : Separated spans) (c : ℕ) :
    ∃ pre rest, spans = pre ++ rest ∧ (∀ s ∈ pre, s.lo ≤ c) ∧ ∀ s ∈ rest, c < s.lo := by
  induction spans with
  | nil => exact ⟨[], [], rfl, nofun, nofun⟩
  | cons s spans ih =>
    by_cases le : s.lo ≤ c
    · obtain ⟨pre, rest, rfl, low, high⟩ := ih (Separated.tail separated)
      exact ⟨s :: pre, rest, rfl, List.forall_mem_cons.mpr ⟨le, low⟩, high⟩
    · refine ⟨[], s :: spans, rfl, nofun, List.forall_mem_cons.mpr ⟨not_le.mp le, ?_⟩⟩
      intro t mem
      exact (not_le.mp le).trans (s.lo_lt_hi.trans (Separated.head_before separated mem))

lemma countAdvance_eq (placed : Placed g cum (pre ++ (mid ++ rest)))
    (near : cum ≤ cum') (lt : cum' < cum + 2147483648) (low : ∀ s ∈ mid, s.lo ≤ cum')
    (high : ∀ s ∈ rest, cum' < s.lo) :
    g.countAdvance (serial cum') (mid ++ rest).length pre.length =
      .ok (pre.length + mid.length) := by
  induction mid generalizing pre with
  | nil =>
    cases rest with
    | nil => rfl
    | cons s rest =>
      obtain ⟨above, sNear⟩ := placed.above s (by simp)
      have after := high s List.mem_cons_self
      have span := s.lo_lt_hi
      rw [List.nil_append] at placed ⊢
      rw [List.length_cons, countAdvance, getStart_eq placed.lt_max, placed.start_at]
      dsimp only [bind, Except.bind]
      rw [tsnGe_serial (by omega) (by omega), decide_eq_false (not_le.mpr after),
        if_neg Bool.false_ne_true]
      rfl
  | cons s mid ih =>
    obtain ⟨above, sNear⟩ := placed.above s (by simp)
    have before := low s List.mem_cons_self
    have regrouped : pre ++ (s :: mid ++ rest) = (pre ++ [s]) ++ (mid ++ rest) := by simp
    rw [List.cons_append] at placed ⊢
    rw [List.length_cons, countAdvance, getStart_eq placed.lt_max, placed.start_at]
    dsimp only [bind, Except.bind]
    rw [tsnGe_serial (by omega) (by omega), decide_eq_true before, if_pos rfl]
    rw [← List.cons_append, regrouped] at placed
    have length : (pre ++ [s]).length = pre.length + 1 := by simp
    have counted := ih placed fun t mem => low t (List.mem_cons_of_mem s mem)
    rw [length] at counted
    rw [counted, List.length_cons, Nat.add_assoc, Nat.add_comm 1]

lemma moveFront_eq {advance count i : ℕ} {a b : ℕ → UInt32}
    (fits : i + count + advance ≤ MAX_GAP_COUNT)
    (starts : g.gapStartList = movedFront advance i a)
    (stops : g.gapStopList = movedFront advance i b) :
    moveFront advance count i g = .ok { g with
      gapStartList := movedFront advance (i + count) a
      gapStopList := movedFront advance (i + count) b } := by
  induction count generalizing i g with
  | zero => rw [Nat.add_zero, ← starts, ← stops, moveFront]
  | succ count ih =>
    have still (c : ℕ → UInt32) (pos : 0 < advance) :
        movedFront advance i c (i + advance) = c (i + advance) := if_neg (by omega)
    have copied (c : ℕ → UInt32) : Function.update (movedFront advance i c) i
        (movedFront advance i c (i + advance)) = movedFront advance (i + 1) c := by
      rcases Nat.eq_zero_or_pos advance with rfl | pos
      · funext k
        simp only [movedFront, Function.update_apply, Nat.add_zero, ite_self]
        split_ifs with here
        · rw [here]
        · rfl
      · rw [still c pos, movedFront_succ]
    rw [moveFront, copyBlock_eq (by omega) (by omega), starts, stops, copied, copied]
    dsimp only [bind, Except.bind]
    rw [ih (by omega) rfl rfl, Nat.add_right_comm, Nat.add_assoc]

/-- The cumulative ack moves up to a position that ends a contiguous stretch. -/
lemma Tracks.forward (tracks : Tracks ⟨g, serial cum, flag⟩ cum R) (le : cum ≤ cum')
    (lt : cum' < cum + 2147483648) (next : cum' + 1 ∉ R) :
    ∃ g', g.forwardCumAckTSN (serial cum') = .ok g' ∧
      Tracks ⟨g', serial cum', flag⟩ cum' (R ∪ Set.Iic cum') := by
  obtain ⟨-, spans, placed, rfl⟩ := tracks
  dsimp only at placed
  obtain ⟨pre, rest, rfl, low, high⟩ := exists_split placed.separated cum'
  have outside : ∀ s ∈ pre ++ rest, s.lo ≤ cum' + 1 → s.hi ≤ cum' + 1 := by
    intro s mem starts
    by_contra longer
    exact next (.inr (mem_cover_of_mem mem starts (not_le.mp longer)))
  have above : ∀ s ∈ rest, cum' + 1 < s.lo := by
    intro s mem
    have after := high s mem
    have span := s.lo_lt_hi
    by_contra close
    have ends := outside s (List.mem_append_right _ mem) (not_lt.mp close)
    omega
  have whole : Set.Iic cum ∪ cover (pre ++ rest) ∪ Set.Iic cum' = Set.Iic cum' ∪ cover rest := by
    ext q
    simp only [mem_union, mem_Iic, mem_cover_append]
    constructor
    · rintro ((below | ⟨s, mem, -, high⟩ | mem) | below)
      · exact .inl (below.trans le)
      · have ends := outside s (List.mem_append_left _ mem) ((low s mem).trans (Nat.le_succ _))
        exact .inl (by omega)
      · exact .inr mem
      · exact .inl below
    · rintro (below | mem)
      · exact .inr below
      · exact .inl (.inr (.inr mem))
  have counted : g.countAdvance (serial cum') g.numGaps 0 = .ok pre.length := by
    have placed' : Placed g cum ([] ++ (pre ++ rest)) := placed
    have counted := countAdvance_eq placed' le lt low high
    rwa [List.length_nil, Nat.zero_add, ← placed.numGaps] at counted
  rw [whole, forwardCumAckTSN, counted]
  dsimp only [bind, Except.bind]
  by_cases some_ : 0 < pre.length
  · have numGaps := placed.numGaps
    have fits := placed.fits
    rw [List.length_append] at numGaps fits
    have here (a : ℕ → UInt32) : a = movedFront pre.length 0 a := rfl
    rw [if_pos some_, moveFront_eq (by omega) (here _) (here _)]
    refine ⟨_, rfl, rfl, rest, ?_, rfl⟩
    have length : g.numGaps - pre.length = rest.length := by omega
    refine ⟨⟨length, by omega, ?_, ?_⟩, ?_, fun s mem => ⟨above s mem, ?_⟩⟩
    · have starts := placed.starts
      rw [List.map_append] at starts
      have moved := starts.dropFront
      rwa [List.length_map, List.length_map, ← length, ← Nat.zero_add (_ - _)] at moved
    · have stops := placed.stops
      rw [List.map_append] at stops
      have moved := stops.dropFront
      rwa [List.length_map, List.length_map, ← length, ← Nat.zero_add (_ - _)] at moved
    · exact (List.pairwise_append.mp placed.separated).2.1
    · have := (placed.above s (List.mem_append_right _ mem)).2
      omega
  · obtain rfl := List.length_eq_zero_iff.mp (Nat.eq_zero_of_not_pos some_)
    exact ⟨g, rfl, rfl, rest, placed.raise le above, rfl⟩

/-- The list with a cumulative ack at `cum` stands for the set. -/
def Stands (gapList : SCTPSimpleGapList) (cum : ℕ) (R : Set ℕ) : Prop :=
  Tracks ⟨gapList, serial cum, false⟩ cum R

lemma ReceiveSafe.withFlag (safe : (⟨g, serial cum, flag⟩ : GapState).ReceiveSafe tsn)
    (flag' : Bool) : (⟨g, serial cum, flag'⟩ : GapState).ReceiveSafe tsn := fun uncovered =>
  { safe uncovered with }

namespace Stands

variable (stands : Stands g cum R)

include stands

lemma update (far : 4294967296 ≤ cum)
    (room : (⟨g, serial cum, false⟩ : GapState).CanStore R (position cum tsn))
    (safe : (⟨g, serial cum, false⟩ : GapState).ReceiveSafe tsn) (flag : Bool) :
    ∃ g' cum' flag', (⟨g, serial cum, flag⟩ : GapState).updateGapList tsn =
        .ok (!decide (position cum tsn ≤ cum), ⟨g', serial cum', flag'⟩) ∧
      (flag' = true ↔ flag = true ∨ position cum tsn ∉ R) ∧ cum ≤ cum' ∧
      Stands g' cum' (insert (position cum tsn) R) := by
  have tracks : Tracks ⟨g, serial cum, flag⟩ cum R := stands
  obtain ⟨⟨g', acked', flag'⟩, ok, flags, cum', le, tracks'⟩ :=
    updateGapList_tracks far tracks (ReceiveSafe.withFlag safe flag)
  obtain rfl : acked' = serial cum' := tracks'.1
  have room' : GapState.CanStore ⟨g, serial cum, flag⟩ R (position cum tsn) := room
  have grown : GapState.stored ⟨g, serial cum, flag⟩ tsn cum R = insert (position cum tsn) R := by
    ext q
    rw [mem_insert_iff, or_comm]
    exact or_congr_right ⟨And.left, fun eq => ⟨eq, eq ▸ room'⟩⟩
  refine ⟨g', cum', flag', ?_, ?_, le, ?_⟩
  · rw [ok, tracks.tsnLe_eq far]
  · rw [flags]
    exact or_congr_right ⟨And.left, fun new => ⟨new, room'⟩⟩
  · rw [← grown]
    exact tracks'

lemma remove (far : 4294967296 ≤ cum)
    (safe : (⟨g, serial cum, false⟩ : GapState).RemoveSafe tsn) :
    ∃ g', g.removeFromGapList tsn = .ok g' ∧ Stands g' cum (removed cum R tsn) := by
  obtain ⟨⟨g', acked', flag'⟩, ok, tracks'⟩ := removeFromGapList_tracks far stands safe
  cases taken : g.removeFromGapList tsn with
  | error e =>
    rw [GapState.removeFromGapList, taken] at ok
    cases ok
  | ok removed =>
    rw [GapState.removeFromGapList, taken] at ok
    cases ok
    exact ⟨g', rfl, tracks'⟩

lemma forward (le : cum ≤ cum') (lt : cum' < cum + 2147483648) (next : cum' + 1 ∉ R) :
    ∃ g', g.forwardCumAckTSN (serial cum') = .ok g' ∧ Stands g' cum' (R ∪ Set.Iic cum') :=
  Tracks.forward stands le lt next

lemma mem_iff (far : 4294967296 ≤ cum) (tsn : UInt32) :
    g.tsnInGapList tsn = true ↔ position cum tsn ∈ R ∧ cum < position cum tsn :=
  Tracks.tsnInGapList far stands tsn

end Stands

lemma canStore_of_lt (notFull : g.numGaps < MAX_GAP_COUNT) (p : ℕ) :
    (⟨g, serial cum, false⟩ : GapState).CanStore R p := .inr (.inr (.inr notFull))

lemma removeSafe_of_lt (notFull : g.numGaps < MAX_GAP_COUNT) (tsn : UInt32) :
    (⟨g, serial cum, false⟩ : GapState).RemoveSafe tsn := fun full => absurd full notFull.ne

lemma EndsPrefix.mono {R R' : Set ℕ} (ends : EndsPrefix R cum) (ends' : EndsPrefix R' cum')
    (subset : R ⊆ R') : cum ≤ cum' := by
  by_contra below
  exact ends'.2 (subset (ends.1 (mem_Iic.mpr (not_le.mp below))))

/-! ## The partition -/

/-- The three lists stand for two sets of TSNs and for all of them. -/
structure Parts (lists : SCTPGapList) (cum : ℕ) (R N C : Set ℕ) : Prop where
  far : 4294967296 ≤ cum
  acked : lists.cumAckTSN = serial cum
  revokable : Stands lists.revokableGapList cum R
  nonRevokable : Stands lists.nonRevokableGapList cum N
  combined : Stands lists.combinedGapList cum C
  union : R ∪ N = C
  inter : R ∩ N = Set.Iic cum

namespace SCTPGapList

variable (lists : SCTPGapList)

structure NotFull : Prop where
  revokable : lists.revokableGapList.numGaps < MAX_GAP_COUNT
  nonRevokable : lists.nonRevokableGapList.numGaps < MAX_GAP_COUNT
  combined : lists.combinedGapList.numGaps < MAX_GAP_COUNT

/-- The list that is to have the TSN for its own. -/
def ownList (tsnIsRevokable : Bool) : SCTPSimpleGapList :=
  if tsnIsRevokable then lists.revokableGapList else lists.nonRevokableGapList

/-- No search passes over a block that starts at TSN 0, where that makes a difference. -/
structure UpdateSafe (tsn : UInt32) (tsnIsRevokable : Bool) : Prop where
  own : (⟨lists.ownList tsnIsRevokable, lists.cumAckTSN, false⟩ : GapState).ReceiveSafe tsn
  combined : (⟨lists.combinedGapList, lists.cumAckTSN, false⟩ : GapState).ReceiveSafe tsn

end SCTPGapList

namespace Parts

variable {lists : SCTPGapList} {R N C : Set ℕ}

variable (parts : Parts lists cum R N C)
include parts

lemma covered : Set.Iic cum ⊆ R ∧ Set.Iic cum ⊆ N := by
  rw [← parts.inter]
  exact ⟨inter_subset_left, inter_subset_right⟩

lemma tsnLe_eq (tsn : UInt32) : tsnLe tsn lists.cumAckTSN = decide (position cum tsn ≤ cum) := by
  rw [parts.acked]
  exact Tracks.tsnLe_eq parts.far parts.revokable tsn

lemma mem_combined (tsn : UInt32) :
    lists.tsnInGapList tsn = true ↔ position cum tsn ∈ C ∧ cum < position cum tsn :=
  parts.combined.mem_iff parts.far tsn

lemma mem_revokable (tsn : UInt32) :
    lists.tsnIsRevokable tsn = true ↔ position cum tsn ∈ R ∧ cum < position cum tsn :=
  parts.revokable.mem_iff parts.far tsn

lemma mem_nonRevokable (tsn : UInt32) :
    lists.tsnIsNonRevokable tsn = true ↔ position cum tsn ∈ N ∧ cum < position cum tsn :=
  parts.nonRevokable.mem_iff parts.far tsn

omit parts in
lemma init (cumAckTSN : UInt32) :
    Parts { SCTPGapList.init with cumAckTSN := cumAckTSN } (4294967296 + cumAckTSN.toNat)
      (Set.Iic (4294967296 + cumAckTSN.toNat)) (Set.Iic (4294967296 + cumAckTSN.toNat))
      (Set.Iic (4294967296 + cumAckTSN.toNat)) := by
  obtain ⟨far, tracks⟩ := (Reached.empty cumAckTSN false).tracks
  have stands : Stands .init (4294967296 + cumAckTSN.toNat)
      (Set.Iic (4294967296 + cumAckTSN.toNat)) := by
    rw [Stands, ← tracks.1]
    exact tracks
  exact ⟨far, tracks.1, stands, stands, stands, union_self _, inter_self _⟩

lemma remove (notFull : lists.NotFull) (tsn : UInt32) :
    ∃ lists', lists.removeFromGapList tsn = .ok lists' ∧
      Parts lists' cum (removed cum R tsn) (removed cum N tsn) (removed cum C tsn) := by
  obtain ⟨revokable, okR, standsR⟩ := parts.revokable.remove parts.far (removeSafe_of_lt notFull.revokable tsn)
  obtain ⟨nonRevokable, okN, standsN⟩ :=
    parts.nonRevokable.remove parts.far (removeSafe_of_lt notFull.nonRevokable tsn)
  obtain ⟨combined, okC, standsC⟩ :=
    parts.combined.remove parts.far (removeSafe_of_lt notFull.combined tsn)
  refine ⟨⟨lists.cumAckTSN, revokable, nonRevokable, combined⟩, ?_, parts.far, parts.acked,
    standsR, standsN, standsC, ?_, ?_⟩
  · rw [SCTPGapList.removeFromGapList, okR, okN, okC]
    rfl
  · rw [← parts.union]
    ext q
    simp only [removed, mem_union, mem_ofPred_eq, or_and_right]
  · have inter := Set.ext_iff.mp parts.inter
    ext q
    have here := inter q
    constructor
    · rintro ⟨⟨memR, -⟩, memN, -⟩
      exact here.mp ⟨memR, memN⟩
    · intro below
      obtain ⟨memR, memN⟩ := here.mpr below
      have kept : cum < q → q ≠ position cum tsn := fun above => absurd below (not_le.mpr above)
      exact ⟨⟨memR, kept⟩, memN, kept⟩

omit parts in
lemma updateCombined {cumR cumN : ℕ} (lists : SCTPGapList) (far : 4294967296 ≤ cum)
    (acked : lists.cumAckTSN = serial cum)
    (revokable : Stands lists.revokableGapList cumR R) (leR : cum ≤ cumR)
    (nonRevokable : Stands lists.nonRevokableGapList cumN N) (leN : cum ≤ cumN)
    (combined : Stands lists.combinedGapList cum C)
    (union : R ∪ N = insert (position cum tsn) C) (inter : R ∩ N = Set.Iic cum)
    (room : (⟨lists.combinedGapList, serial cum, false⟩ : GapState).CanStore C (position cum tsn))
    (safe : (⟨lists.combinedGapList, serial cum, false⟩ : GapState).ReceiveSafe tsn) (flag : Bool) :
    ∃ lists' cum' flag', lists.updateCombined tsn flag =
        .ok (!decide (position cum tsn ≤ cum), flag', lists') ∧
      (flag' = true ↔ flag = true ∨ position cum tsn ∉ C) ∧ cum ≤ cum' ∧
      Parts lists' cum' (R ∪ Set.Iic cum') (N ∪ Set.Iic cum') (insert (position cum tsn) C) := by
  obtain ⟨g', cum', flag', ok, flags, le, combined'⟩ := combined.update far room safe flag
  have ends := Tracks.ends combined'
  have subR : R ⊆ insert (position cum tsn) C := union ▸ subset_union_left
  have subN : N ⊆ insert (position cum tsn) C := union ▸ subset_union_right
  have upR := (Tracks.ends revokable).mono ends subR
  have upN := (Tracks.ends nonRevokable).mono ends subN
  have near : cum' < cum + 2147483648 := by
    rcases ends.1 (mem_Iic.mpr le_rfl) with here | old
    · rw [here]
      exact position_lt cum tsn
    · exact Tracks.near combined old
  have unite : R ∪ Set.Iic cum' ∪ (N ∪ Set.Iic cum') = insert (position cum tsn) C := by
    rw [union_union_union_comm, union_self, union, union_eq_left]
    exact ends.1
  have meet : (R ∪ Set.Iic cum') ∩ (N ∪ Set.Iic cum') = Set.Iic cum' := by
    rw [← inter_union_distrib_right, inter, union_eq_right]
    exact Set.Iic_subset_Iic.mpr le
  rw [SCTPGapList.updateCombined, acked, ok]
  dsimp only [bind, Except.bind]
  by_cases moved : cum = cum'
  · subst moved
    obtain rfl := le_antisymm upR leR
    obtain rfl := le_antisymm upN leN
    rw [if_neg (not_not.mpr rfl)]
    refine ⟨_, _, flag', rfl, flags, le_rfl, ?_⟩
    rw [union_eq_left.mpr (Tracks.covered revokable),
      union_eq_left.mpr (Tracks.covered nonRevokable)]
    exact ⟨far, rfl, revokable, nonRevokable, combined', union, inter⟩
  · have apart : serial cum ≠ serial cum' := by
      rw [Ne, serial_inj (by omega) (by omega)]
      exact moved
    obtain ⟨revokable', okR, standsR⟩ := revokable.forward upR (by omega) fun mem => ends.2 (subR mem)
    obtain ⟨nonRevokable', okN, standsN⟩ :=
      nonRevokable.forward upN (by omega) fun mem => ends.2 (subN mem)
    rw [if_pos apart, SCTPGapList.forwardOthers, okR, okN]
    exact ⟨_, cum', flag', rfl, flags, le, far.trans le, rfl, standsR, standsN, combined', unite, meet⟩

lemma updateRevokable (notFull : lists.NotFull) (safe : lists.UpdateSafe tsn true) (flag : Bool)
    (fresh : position cum tsn ∈ N → position cum tsn ≤ cum) :
    ∃ lists' cum' flag', lists.updateGapList tsn flag true =
        .ok (!decide (position cum tsn ≤ cum), flag', lists') ∧
      (flag' = true ↔ flag = true ∨ position cum tsn ∉ C) ∧ cum ≤ cum' ∧
      Parts lists' cum' (insert (position cum tsn) R ∪ Set.Iic cum') (N ∪ Set.Iic cum')
        (insert (position cum tsn) C) := by
  have own := safe.own
  have combined := safe.combined
  rw [parts.acked] at own combined
  obtain ⟨g', cumR, flagR, ok, flagsR, leR, stands⟩ :=
    parts.revokable.update parts.far (canStore_of_lt notFull.revokable _) own flag
  have union : insert (position cum tsn) R ∪ N = insert (position cum tsn) C := by
    rw [insert_union, parts.union]
  have inter : insert (position cum tsn) R ∩ N = Set.Iic cum := by
    rw [← parts.inter]
    ext q
    refine and_congr_left fun memN => ⟨?_, .inr⟩
    rintro (rfl | memR)
    · exact parts.covered.1 (mem_Iic.mpr (fresh memN))
    · exact memR
  obtain ⟨lists', cum', flag', okC, flags, le, parts'⟩ := updateCombined
    { lists with revokableGapList := g' } parts.far parts.acked stands leR
    parts.nonRevokable le_rfl parts.combined union inter (canStore_of_lt notFull.combined _) combined
    flagR
  refine ⟨lists', cum', flag', ?_, ?_, le, parts'⟩
  · rw [parts.acked] at okC
    rw [SCTPGapList.updateGapList, SCTPGapList.updateOwnList, if_pos rfl, parts.acked, ok]
    exact okC
  · have same : position cum tsn ∉ R → position cum tsn ∉ C := by
      intro newR mem
      rw [← parts.union] at mem
      exact newR (mem.resolve_right fun memN =>
        newR (parts.covered.1 (mem_Iic.mpr (fresh memN))))
    rw [flags, flagsR, or_assoc, or_iff_right_of_imp same]

lemma storeNonRevokable
    (room : (⟨lists.nonRevokableGapList, serial cum, false⟩ : GapState).CanStore N (position cum tsn))
    (roomC : (⟨lists.combinedGapList, serial cum, false⟩ : GapState).CanStore C (position cum tsn))
    (removable : (⟨lists.revokableGapList, serial cum, false⟩ : GapState).RemoveSafe tsn)
    (safe : lists.UpdateSafe tsn false) (flag : Bool) :
    ∃ lists' cum' flag', lists.updateGapList tsn flag false =
        .ok (!decide (position cum tsn ≤ cum), flag', lists') ∧
      (flag' = true ↔ flag = true ∨ position cum tsn ∉ N) ∧ cum ≤ cum' ∧
      Parts lists' cum' (removed cum R tsn ∪ Set.Iic cum')
        (insert (position cum tsn) N ∪ Set.Iic cum') (insert (position cum tsn) C) := by
  have own := safe.own
  have combined := safe.combined
  rw [parts.acked] at own combined
  obtain ⟨g', cumN, flagN, ok, flagsN, leN, standsN⟩ :=
    parts.nonRevokable.update parts.far room own flag
  obtain ⟨revokable', removes, standsR⟩ := parts.revokable.remove parts.far removable
  have still (below : position cum tsn ≤ cum) : removed cum R tsn = R := by
    ext q
    refine ⟨And.left, fun mem => ⟨mem, ?_⟩⟩
    rintro above rfl
    exact absurd below (not_le.mpr above)
  have union : removed cum R tsn ∪ insert (position cum tsn) N = insert (position cum tsn) C := by
    rw [← parts.union]
    ext q
    simp only [removed, mem_union, mem_insert_iff, mem_ofPred_eq]
    tauto
  have inter : removed cum R tsn ∩ insert (position cum tsn) N = Set.Iic cum := by
    have meets := Set.ext_iff.mp parts.inter
    ext q
    have here := meets q
    by_cases below : q ≤ cum
    · obtain ⟨memR, memN⟩ := here.mpr below
      exact iff_of_true ⟨⟨memR, fun above => absurd below (not_le.mpr above)⟩, .inr memN⟩ below
    · refine iff_of_false ?_ below
      rintro ⟨⟨memR, other⟩, same | memN⟩
      · exact other (not_le.mp below) same
      · exact below (here.mp ⟨memR, memN⟩)
  have flagSame : position cum tsn ∉ C → position cum tsn ∉ N := fun new memN =>
    new (parts.union ▸ .inr memN)
  by_cases below : position cum tsn ≤ cum
  · rw [still below] at union inter ⊢
    obtain ⟨lists', cum', flag', okC, flags, le, parts'⟩ := updateCombined
      { lists with nonRevokableGapList := g' } parts.far parts.acked
      parts.revokable le_rfl standsN leN parts.combined union inter roomC combined flagN
    rw [parts.acked] at okC
    refine ⟨lists', cum', flag', ?_, ?_, le, parts'⟩
    · rw [SCTPGapList.updateGapList, SCTPGapList.updateOwnList, if_neg Bool.false_ne_true,
        parts.acked, ok]
      dsimp only [bind, Except.bind]
      rw [decide_eq_true below, Bool.not_true, if_neg Bool.false_ne_true]
      rw [decide_eq_true below] at okC
      exact okC
    · rw [flags, flagsN, or_assoc, or_iff_left_of_imp flagSame]
  · obtain ⟨lists', cum', flag', okC, flags, le, parts'⟩ := updateCombined
      { lists with nonRevokableGapList := g', revokableGapList := revokable' }
      parts.far parts.acked standsR le_rfl standsN leN parts.combined union inter roomC
      combined flagN
    rw [parts.acked] at okC
    refine ⟨lists', cum', flag', ?_, ?_, le, parts'⟩
    · rw [SCTPGapList.updateGapList, SCTPGapList.updateOwnList, if_neg Bool.false_ne_true,
        parts.acked, ok]
      dsimp only [bind, Except.bind]
      rw [decide_eq_false below, Bool.not_false, if_pos rfl, removes]
      rw [decide_eq_false below] at okC
      exact okC
    · rw [flags, flagsN, or_assoc, or_iff_left_of_imp flagSame]

lemma updateNonRevokable (notFull : lists.NotFull) (safe : lists.UpdateSafe tsn false)
    (flag : Bool) :
    ∃ lists' cum' flag', lists.updateGapList tsn flag false =
        .ok (!decide (position cum tsn ≤ cum), flag', lists') ∧
      (flag' = true ↔ flag = true ∨ position cum tsn ∉ N) ∧ cum ≤ cum' ∧
      Parts lists' cum' (removed cum R tsn ∪ Set.Iic cum')
        (insert (position cum tsn) N ∪ Set.Iic cum') (insert (position cum tsn) C) :=
  parts.storeNonRevokable (canStore_of_lt notFull.nonRevokable _)
    (canStore_of_lt notFull.combined _) (removeSafe_of_lt notFull.revokable tsn) safe flag

lemma tryToAdvanceCumAckTSN : lists.tryToAdvanceCumAckTSN = .ok (false, lists) := by
  have tracks : Tracks ⟨lists.combinedGapList, lists.cumAckTSN, false⟩ cum C := by
    rw [parts.acked]
    exact parts.combined
  rw [SCTPGapList.tryToAdvanceCumAckTSN, GapState.tryToAdvanceCumAckTSN,
    advanceLoop_tracks tracks _ le_rfl]
  rfl

lemma highest : ∃ h ∈ C, lists.getHighestTSNReceived = serial h ∧ ∀ q ∈ C, q ≤ h := by
  obtain ⟨-, spans, placed, rfl⟩ := parts.combined
  dsimp only at placed
  rw [SCTPGapList.getHighestTSNReceived]
  rcases List.eq_nil_or_concat spans with rfl | ⟨init, last, rfl⟩
  · have numGaps := placed.numGaps
    rw [List.length_nil] at numGaps
    refine ⟨cum, .inl (mem_Iic.mpr le_rfl), ?_, ?_⟩
    · rw [if_neg (by omega), parts.acked]
    · rintro q (mem | ⟨s, mem, -⟩)
      · exact mem
      · cases mem
  · rw [List.concat_eq_append] at *
    have span := last.lo_lt_hi
    have above := (placed.above last (by simp)).1
    have numGaps := placed.numGaps
    rw [List.length_append, List.length_singleton] at numGaps
    have placed' : Placed lists.combinedGapList cum (init ++ last :: []) := placed
    refine ⟨last.hi - 1, .inr (mem_cover_of_mem (s := last) (by simp) (by omega) (by omega)), ?_, ?_⟩
    · rw [if_pos (by omega), numGaps, Nat.add_sub_cancel, placed'.stop_at]
    · rintro q (mem | ⟨s, mem, -, high⟩)
      · have := mem_Iic.mp mem
        omega
      · rcases List.mem_append.mp mem with front | back
        · have before := (List.pairwise_append.mp placed.separated).2.2 s front last (by simp)
          rw [Span.Before] at before
          omega
        · rw [List.mem_singleton] at back
          subst back
          omega

end Parts

end Inet.Sctp
