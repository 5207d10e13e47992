import Inet.Lib.MarkedRuns
import Inet.Lib.Outcome
import Inet.Tcp.SACKRexmitQueue
import Mathlib.Algebra.BigOperators.Intervals

/-!
# The scoreboard as a map of octets

`TCPSACKRexmitQueue` stands for a range of positions with two marks for every octet
(`ScoreboardHolds`). Each operation, called with arguments in range, succeeds and does to that map
what its name says.
-/

namespace Inet.Tcp

open List

structure OctetMarks where
  sacked : Bool := false
  rexmitted : Bool := false

/-- The region stands for `[lo, hi)`, all octets marked alike. -/
def RexmitRegion.Reads (region : RexmitRegion) (lo hi : ℕ) (marks : OctetMarks) : Prop :=
  region = ⟨serial lo, serial hi, marks.sacked, marks.rexmitted⟩

/-- Is the octet with this sequence number in the region? -/
def RexmitRegion.covers (region : RexmitRegion) (seqNum : UInt32) : Prop :=
  seqLE region.beginSeqNum seqNum ∧ seqLess seqNum region.endSeqNum

namespace TCPSACKRexmitQueue

variable {q : TCPSACKRexmitQueue} {lo hi a b m e s : ℕ} {marks marks' : ℕ → OctetMarks}
  {regions rest : List RexmitRegion} {r : RexmitRegion}

/-- The regions stand for `[b, e)`. -/
abbrev Octets (marks : ℕ → OctetMarks) (b : ℕ) (regions : List RexmitRegion) (e : ℕ) : Prop :=
  Follows RexmitRegion.Reads marks b regions e

/-- The queue stands for the octets `[lo, hi)` with their marks. -/
structure Holds (queue : TCPSACKRexmitQueue) (lo hi : ℕ) (marks : ℕ → OctetMarks) : Prop where
  begin : queue.begin = serial lo
  «end» : queue.end = serial hi
  regions : Octets marks lo queue.rexmitQueue hi
  span : hi < lo + 2147483648

variable (holds : q.Holds lo hi marks)
include holds

lemma Holds.le : lo ≤ hi := holds.regions.le

omit holds in
lemma chained_of_octets (octets : Octets marks b regions e) (span : e < b + 2147483648) :
    chained (serial b) regions (serial e) := by
  induction regions generalizing b with
  | nil =>
    obtain rfl := Follows.eq_of_nil octets
    rfl
  | cons r rest ih =>
    obtain ⟨m, mark, lt, rfl, -, octets⟩ := octets
    have le := octets.le
    refine ⟨rfl, ?_, ih octets (by omega)⟩
    exact (seqLess_serial (by omega) (by omega)).mpr lt

lemma Holds.checkQueue : q.checkQueue := by
  unfold TCPSACKRexmitQueue.checkQueue
  rw [holds.begin, holds.end]
  exact chained_of_octets holds.regions holds.span

lemma Holds.inside {s : ℕ} (ge : lo ≤ s) (le : s ≤ hi) :
    seqLE q.begin (serial s) ∧ seqLE (serial s) q.end := by
  have span := holds.span
  rw [holds.begin, holds.end]
  exact ⟨(seqLE_serial (by omega) (by omega)).mpr ge, (seqLE_serial (by omega) (by omega)).mpr le⟩

omit holds

lemma head_begin (octets : Octets marks b regions e) :
    (regions.head?.map RexmitRegion.beginSeqNum).getD (serial b) = serial b := by
  cases regions with
  | nil => rfl
  | cons r rest =>
    obtain ⟨m, mark, -, rfl, -, -⟩ := octets
    rfl

lemma last_end (octets : Octets marks b regions e) :
    (regions.getLast?.map RexmitRegion.endSeqNum).getD (serial b) = serial e := by
  induction regions generalizing b with
  | nil =>
    obtain rfl := Follows.eq_of_nil octets
    rfl
  | cons r rest ih =>
    obtain ⟨m, mark, -, rfl, -, octets⟩ := octets
    have := ih octets
    cases rest with
    | nil => exact this
    | cons second rest =>
      rw [getLast?_cons_cons]
      exact this

lemma cutAt (octets : Octets marks b regions e) (below : b ≤ s) (above : s < b + 2147483648)
    (span : e < b + 2147483648) :
    ∃ m, Octets marks b (passed (serial s) regions) m ∧
      ((onward (serial s) regions = [] ∧ m = e ∧ e ≤ s) ∨
        ∃ r rest h mark, onward (serial s) regions = r :: rest ∧
          Follows.CutHead RexmitRegion.Reads marks m s e r rest h mark) := by
  refine octets.cutAt _ below fun {r lo hi mark} reads ge lt le => ?_
  obtain rfl := reads
  rw [decide_eq_true_eq]
  exact seqLE_serial (by omega) (by omega)

/-- An octet of the queue is in a region. -/
lemma Holds.cutAt {q : TCPSACKRexmitQueue} {lo hi : ℕ} (holds : q.Holds lo hi marks)
    (ge : lo ≤ s) (lt : s < hi) : ∃ m r rest h mark,
      Octets marks lo (passed (serial s) q.rexmitQueue) m ∧
      onward (serial s) q.rexmitQueue = r :: rest ∧
      Follows.CutHead RexmitRegion.Reads marks m s hi r rest h mark ∧
      seqLE r.beginSeqNum (serial s) ∧ seqLess (serial s) r.endSeqNum := by
  have span := holds.span
  obtain ⟨m, first, ⟨-, -, le⟩ | ⟨r, rest, h, mark, some, head⟩⟩ :=
    TCPSACKRexmitQueue.cutAt holds.regions ge (by omega) span
  · omega
  · refine ⟨m, r, rest, h, mark, first, some, head, ?_⟩
    have := first.le
    have := head.follows.le
    have le := head.le
    have lt := head.lt
    obtain rfl := head.reads
    exact ⟨(seqLE_serial (by omega) (by omega)).mpr le, (seqLess_serial (by omega) (by omega)).mpr lt⟩

lemma chunk_octets {h : ℕ} {mark : OctetMarks}
    (head : Follows.CutHead RexmitRegion.Reads marks m s e r rest h mark)
    (span : e < m + 2147483648) :
    Octets marks m (chunk r (serial s)).1 s ∧ (chunk r (serial s)).2.Reads s h mark ∧
      ∀ x, s ≤ x → x < h → marks x = mark := by
  have le := head.le
  have lt := head.lt
  have hLe := head.follows.le
  obtain rfl := head.reads
  have same : ∀ x, s ≤ x → x < h → marks x = mark := fun x ge => head.same x (le.trans ge)
  unfold chunk
  split
  case isTrue different =>
    have apart : m ≠ s := fun equal => different (by rw [equal])
    refine ⟨?_, rfl, same⟩
    exact .cons (lt_of_le_of_ne le apart) rfl (fun x ge below => head.same x ge (below.trans lt))
      .nil
  case isFalse equal =>
    have equal : m = s := (serial_inj (by omega) (by omega)).mp (not_not.mp equal)
    subst equal
    exact ⟨.nil, rfl, same⟩

/-! ## Sending -/

/-- The marks once `[a, b)` has been sent: octets below `hi` have been sent again, the
others are new. -/
def sentMarks (marks : ℕ → OctetMarks) (a b hi x : ℕ) : OctetMarks :=
  if x < hi then if a ≤ x ∧ x < b then { marks x with rexmitted := true } else marks x else {}

lemma overwrite_octets (octets : Octets marks a regions e) (lt : a < b) (aLt : a < e)
    (above : b < a + 2147483648) (span : e < a + 2147483648) :
    ∃ regions', overwrite (serial a) (serial b) regions = .ok regions' ∧
      Octets (sentMarks marks a b e) a regions' (max e b) := by
  obtain ⟨n, first, second⟩ := cutAt octets lt.le above span
  have nLe := first.le
  have resent := first.map (fun r => { r with rexmitted := true })
    (fun mark : OctetMarks => { mark with rexmitted := true })
    fun {r lo hi mark} reads _ _ _ => by
      obtain rfl := reads
      rfl
  unfold overwrite
  dsimp only
  rw [last_end resent]
  rcases second with ⟨none, rfl, eLe⟩ | ⟨r, rest, h, mark, some, head⟩
  · -- everything there was has been sent again
    have resent : Octets (sentMarks marks a b n) a _ n := resent.congr fun x ge below => by
      unfold sentMarks
      rw [if_pos below, if_pos ⟨ge, by omega⟩]
    rw [none, max_eq_right eLe]
    split
    case isTrue same =>
      have same : n = b := (serial_inj (by omega) (by omega)).mp same
      rw [append_nil]
      exact ⟨_, rfl, same ▸ resent⟩
    case isFalse different =>
      have apart : n ≠ b := fun same => different (by rw [same])
      refine ⟨_, rfl, resent.append (.cons (v := {}) (lt_of_le_of_ne eLe apart) rfl ?_ .nil)⟩
      intro x ge below
      unfold sentMarks
      rw [if_neg (by omega)]
  · have nLeB := head.le
    have bLt := head.lt
    have hLe := head.follows.le
    have resent : Octets (sentMarks marks a b e) a _ n := resent.congr fun x ge below => by
      unfold sentMarks
      rw [if_pos (by omega), if_pos ⟨ge, by omega⟩]
    have beyond (x : ℕ) (ge : b ≤ x) (below : x < e) : sentMarks marks a b e x = marks x := by
      unfold sentMarks
      rw [if_pos below, if_neg (by omega)]
    have kept := head.follows.congr fun x ge below => beyond x (by omega) below
    obtain rfl := head.reads
    have after : ∀ x, b ≤ x → x < h → sentMarks marks a b e x = mark := fun x ge below => by
      rw [beyond x ge (by omega), head.same x (by omega) below]
    rw [some, max_eq_left (by omega)]
    split
    case isTrue same =>
      have same : n = b := (serial_inj (by omega) (by omega)).mp same
      subst same
      exact ⟨_, rfl, resent.append (.cons bLt rfl after kept)⟩
    case isFalse different =>
      have apart : n ≠ b := fun same => different (by rw [same])
      have nLt := lt_of_le_of_ne nLeB apart
      dsimp only
      rw [assert_pos ((seqLess_serial (by omega) (by omega)).mpr nLt)]
      refine ⟨_, rfl, resent.append (.cons (v := { mark with rexmitted := true }) nLt rfl ?_
        (.cons bLt rfl after kept))⟩
      intro x ge below
      unfold sentMarks
      rw [if_pos (by omega), if_pos ⟨by omega, below⟩, head.same x ge (by omega)]

include holds

lemma sentRegions_octets (ge : lo ≤ a) (le : a ≤ hi) (lt : a < b) (above : b < lo + 2147483648) :
    ∃ regions', q.sentRegions (serial a) (serial b) = .ok regions' ∧
      Octets (sentMarks marks a b hi) lo regions' (max hi b) := by
  have span := holds.span
  have before (x : ℕ) (below : x < a) : sentMarks marks a b hi x = marks x := by
    unfold sentMarks
    rw [if_pos (by omega), if_neg (by omega)]
  unfold sentRegions
  split
  case isTrue atEnd =>
    have atEnd : a = hi := by
      rcases atEnd with empty | atEnd
      · have := holds.regions
        rw [empty] at this
        have := Follows.eq_of_nil this
        omega
      · rw [holds.end] at atEnd
        exact ((serial_inj (by omega) (by omega)).mp atEnd).symm
    subst atEnd
    rw [max_eq_right lt.le]
    refine ⟨_, rfl, (holds.regions.congr fun x ge below => before x below).append
      (.cons (v := {}) lt rfl (fun x ge below => ?_) .nil)⟩
    unfold sentMarks
    rw [if_neg (by omega)]
  case isFalse inside =>
    have aLt : a < hi := by
      refine lt_of_le_of_ne le fun same => inside (.inr ?_)
      rw [holds.end, same]
    obtain ⟨m, r, rest, h, mark, first, some, head, inside⟩ := holds.cutAt ge (by omega)
    have mGe := first.le
    have mLe := head.le
    obtain ⟨kept, reads, same⟩ := chunk_octets head (by omega)
    obtain ⟨tail, run, sent⟩ := overwrite_octets
      (.cons head.lt reads same head.follows) lt aLt (by omega) (by omega)
    rw [some]
    dsimp only
    rw [assert_pos inside, run]
    have first := first.congr (g := sentMarks marks a b hi)
      fun x _ below => before x (by omega)
    have kept := kept.congr (g := sentMarks marks a b hi) fun x _ below => before x below
    exact ⟨_, rfl, (first.append kept).append sent⟩

/-- Sending octets again marks them retransmitted; new octets come without marks. -/
lemma enqueueSentData_holds (ge : lo ≤ a) (le : a ≤ hi) (lt : a < b)
    (above : b < lo + 2147483648) :
    ∃ q', q.enqueueSentData (serial a) (serial b) = .ok q' ∧
      q'.Holds lo (max hi b) (sentMarks marks a b hi) := by
  have span := holds.span
  obtain ⟨regions, run, octets⟩ := sentRegions_octets holds ge le lt above
  have sent : Holds
      { begin := (regions.head?.map RexmitRegion.beginSeqNum).getD q.begin
        «end» := (regions.getLast?.map RexmitRegion.endSeqNum).getD q.end
        rexmitQueue := regions } lo (max hi b) (sentMarks marks a b hi) := by
    have some : regions ≠ [] := by
      rintro rfl
      have := Follows.eq_of_nil octets
      omega
    refine ⟨?_, ?_, octets, by omega⟩
    · rw [holds.begin]
      exact head_begin octets
    · have last := last_end octets
      obtain ⟨last', eq⟩ := Option.isSome_iff_exists.mp (getLast?_isSome.mpr some)
      rw [eq] at last ⊢
      exact last
  unfold enqueueSentData
  rw [assert_pos (by
      rw [holds.begin, holds.end]
      exact ⟨(seqLE_serial (by omega) (by omega)).mpr ge, (seqLE_serial (by omega) (by omega)).mpr le⟩),
    assert_pos ((seqLess_serial (by omega) (by omega)).mpr lt), run]
  refine ⟨_, ?_, sent⟩
  dsimp only [bind, Except.bind]
  rw [assert_pos sent.checkQueue]
  rfl

/-! ## Receiving reports -/

/-- The marks once `[a, b)` has been reported as received. -/
def reportedMarks (marks : ℕ → OctetMarks) (a b x : ℕ) : OctetMarks :=
  if a ≤ x ∧ x < b then { marks x with sacked := true } else marks x

omit holds in
lemma reportedMarks_of_lt {x : ℕ} (lt : x < a) : reportedMarks marks a b x = marks x :=
  if_neg (by omega)

omit holds in
lemma reportedMarks_of_ge {x : ℕ} (ge : b ≤ x) : reportedMarks marks a b x = marks x :=
  if_neg (by omega)

omit holds in
lemma reportedMarks_of_mem {x : ℕ} (ge : a ≤ x) (lt : x < b) :
    reportedMarks marks a b x = { marks x with sacked := true } :=
  if_pos ⟨ge, lt⟩

lemma sackedRegions_octets (ge : lo ≤ a) (lt : a < b) (le : b ≤ hi) :
    ∃ regions', q.sackedRegions (serial a) (serial b) = .ok regions' ∧
      Octets (reportedMarks marks a b) lo regions' hi := by
  have span := holds.span
  obtain ⟨m, r, rest, h, mark, first, some, head, inside⟩ := holds.cutAt ge (by omega)
  have mGe := first.le
  have mLe := head.le
  obtain ⟨kept, reads, same⟩ := chunk_octets head (by omega)
  obtain ⟨n, covered, beyond⟩ := cutAt (s := b) (.cons head.lt reads same head.follows) lt.le
    (by omega) (by omega)
  have first := first.congr (g := reportedMarks marks a b)
    fun x _ below => reportedMarks_of_lt (by omega)
  have kept := kept.congr (g := reportedMarks marks a b)
    fun x _ below => reportedMarks_of_lt below
  have nGe := covered.le
  have nLe : n ≤ b := by
    rcases beyond with ⟨-, rfl, hiLe⟩ | ⟨_, _, _, _, _, head'⟩
    · exact hiLe
    · exact head'.le
  have reported := covered.map (fun r =>
      { r with sacked := r.sacked || decide (seqGE r.beginSeqNum (serial a)) })
    (fun mark : OctetMarks => { mark with sacked := true })
    fun {r lo' hi' mark} reads ge' lt' le' => by
      obtain rfl := reads
      have above : seqGE (serial lo') (serial a) := (seqGE_serial (by omega) (by omega)).mpr ge'
      unfold RexmitRegion.Reads
      rw [decide_eq_true above, Bool.or_true]
  have reported := reported.congr (g := reportedMarks marks a b)
    fun x ge' below => reportedMarks_of_mem ge' (by omega)
  have front := (first.append kept).append reported
  unfold sackedRegions
  have nonempty : q.rexmitQueue ≠ [] := fun none => by
    rw [none] at some
    cases some
  obtain ⟨r', rest', queued⟩ := exists_cons_of_ne_nil nonempty
  rw [some]
  rw [queued] at front ⊢
  dsimp only
  rw [assert_pos inside]
  refine ⟨_, rfl, front.append ?_⟩
  rcases beyond with ⟨none, rfl, -⟩ | ⟨r, rest, h', mark', some', head'⟩
  · rw [none]
    exact .nil
  · rw [some']
    have bLt := head'.lt
    have hLe := head'.follows.le
    have tail := head'.follows.congr (g := reportedMarks marks a b)
      fun x ge' _ => reportedMarks_of_ge (by omega)
    have after : ∀ x, b ≤ x → x < h' → reportedMarks marks a b x = mark' := fun x ge' below => by
      rw [reportedMarks_of_ge ge']
      exact head'.same x (by omega) below
    obtain rfl := head'.reads
    dsimp only
    split
    case isTrue inside =>
      have nLt : n < b := (seqLess_serial (by omega) (by omega)).mp inside.1
      refine .cons (v := { mark' with sacked := true }) nLt rfl (fun x ge' below => ?_)
        (.cons bLt rfl after tail)
      rw [reportedMarks_of_mem (by omega) below, head'.same x ge' (by omega)]
    case isFalse atStart =>
      have same : n = b := by
        by_contra apart
        refine atStart ⟨?_, (seqLess_serial (by omega) (by omega)).mpr bLt⟩
        exact (seqLess_serial (by omega) (by omega)).mpr (lt_of_le_of_ne nLe apart)
      subst same
      exact .cons bLt rfl after tail

/-- A report marks the octets from its start, or the start of the queue, to its end. -/
lemma setSackedBit_holds {fromSeqNum : UInt32}
    (clipped : (if seqLess fromSeqNum q.begin then q.begin else fromSeqNum) = serial a)
    (ge : lo ≤ a) (lt : a < b) (le : b ≤ hi) :
    ∃ q', q.setSackedBit fromSeqNum (serial b) = .ok q' ∧
      q'.Holds lo hi (reportedMarks marks a b) := by
  have span := holds.span
  obtain ⟨regions, run, octets⟩ := sackedRegions_octets holds ge lt le
  have reported : Holds { q with rexmitQueue := regions } lo hi (reportedMarks marks a b) :=
    ⟨holds.begin, holds.end, octets, span⟩
  have endsBelow : seqLess q.begin (serial b) ∧ seqLE (serial b) q.end := by
    rw [holds.begin, holds.end]
    exact ⟨(seqLess_serial (by omega) (by omega)).mpr (by omega),
      (seqLE_serial (by omega) (by omega)).mpr le⟩
  have startsBelow : seqLess (serial a) q.end := by
    rw [holds.end]
    exact (seqLess_serial (by omega) (by omega)).mpr (by omega)
  unfold setSackedBit
  dsimp only
  rw [clipped, assert_pos startsBelow, assert_pos endsBelow,
    assert_pos ((seqLess_serial (by omega) (by omega)).mpr lt), run]
  refine ⟨_, ?_, reported⟩
  dsimp only [bind, Except.bind]
  rw [assert_pos reported.checkQueue]
  rfl

lemma discardUpTo_holds (ge : lo ≤ a) (le : a ≤ hi) :
    ∃ q', q.discardUpTo (serial a) = .ok q' ∧ q'.Holds a hi marks := by
  have span := holds.span
  have inside := holds.inside ge le
  obtain ⟨regions, run, octets⟩ :
      ∃ regions, q.regionsFrom (serial a) = .ok regions ∧ Octets marks a regions hi := by
    obtain ⟨m, first, second⟩ := cutAt holds.regions ge (by omega) span
    unfold regionsFrom
    rcases second with ⟨none, -, hiLe⟩ | ⟨r, rest, h, mark, some, head⟩
    · obtain rfl := le_antisymm le hiLe
      rw [none]
      exact ⟨_, rfl, .nil⟩
    · have := first.le
      have mLe := head.le
      have aLt := head.lt
      have := head.follows.le
      have same : ∀ x, a ≤ x → x < h → marks x = mark := fun x ge' => head.same x (by omega)
      have tail := head.follows
      obtain rfl := head.reads
      rw [some]
      dsimp only
      rw [assert_pos ⟨(seqLE_serial (by omega) (by omega)).mpr mLe,
        (seqLess_serial (by omega) (by omega)).mpr aLt⟩]
      exact ⟨_, rfl, .cons aLt rfl same tail⟩
  have kept : Holds { q with begin := serial a, rexmitQueue := regions } a hi marks :=
    ⟨rfl, holds.end, octets, by omega⟩
  unfold discardUpTo
  rw [assert_pos inside, run]
  refine ⟨_, ?_, kept⟩
  dsimp only [bind, Except.bind]
  rw [assert_pos kept.checkQueue]
  rfl

lemma resetSackedBit_holds :
    q.resetSackedBit.Holds lo hi fun x => { marks x with sacked := false } := by
  refine ⟨holds.begin, holds.end, ?_, holds.span⟩
  refine Follows.map _ (fun mark : OctetMarks => { mark with sacked := false }) holds.regions ?_
  intro r lo hi mark reads _ _ _
  obtain rfl := reads
  rfl

lemma resetRexmittedBit_holds :
    q.resetRexmittedBit.Holds lo hi fun x => { marks x with rexmitted := false } := by
  refine ⟨holds.begin, holds.end, ?_, holds.span⟩
  refine Follows.map _ (fun mark : OctetMarks => { mark with rexmitted := false }) holds.regions ?_
  intro r lo hi mark reads _ _ _
  obtain rfl := reads
  rfl

omit holds

/-! ## Counting -/

/-- How many octets of `[b, e)` are SACKed. -/
def sackedCount (marks : ℕ → OctetMarks) (b e : ℕ) : ℕ :=
  ((Finset.Ico b e).filter fun x => (marks x).sacked = true).card

lemma sackedCount_self : sackedCount marks b b = 0 := by
  simp [sackedCount]

lemma sackedCount_add (le : b ≤ m) (le' : m ≤ e) :
    sackedCount marks b m + sackedCount marks m e = sackedCount marks b e := by
  simp only [sackedCount, Finset.card_filter]
  exact Finset.sum_Ico_consecutive _ le le'

lemma sackedCount_run {mark : OctetMarks} (same : ∀ x, b ≤ x → x < e → marks x = mark) :
    sackedCount marks b e = if mark.sacked then e - b else 0 := by
  have eq : sackedCount marks b e = ((Finset.Ico b e).filter fun _ => mark.sacked = true).card := by
    refine congrArg Finset.card (Finset.filter_congr fun x mem => ?_)
    obtain ⟨ge, lt⟩ := Finset.mem_Ico.mp mem
    rw [same x ge lt]
  rw [eq]
  cases mark.sacked with
  | true => simp
  | false => simp

lemma sackedLength_cons :
    sackedLength (r :: rest) =
      (if r.sacked then r.endSeqNum - r.beginSeqNum else 0) + sackedLength rest := by
  unfold sackedLength
  cases marked : r.sacked with
  | true => simp [marked]
  | false => simp [marked]

lemma sackedLength_reverse : sackedLength regions.reverse = sackedLength regions := by
  unfold sackedLength
  rw [filter_reverse, map_reverse, sum_reverse]

lemma sackedLength_octets (octets : Octets marks b regions e) :
    sackedLength regions = serial (sackedCount marks b e) := by
  induction regions generalizing b with
  | nil =>
    obtain rfl := Follows.eq_of_nil octets
    rw [sackedCount_self]
    rfl
  | cons r rest ih =>
    obtain ⟨m, mark, lt, rfl, same, octets⟩ := octets
    rw [sackedLength_cons, ih octets, ← sackedCount_add lt.le octets.le, sackedCount_run same,
      serial_add]
    split
    · rw [serial_sub lt.le]
    · rfl

include holds

lemma getTotalAmountOfSackedBytes_holds :
    q.getTotalAmountOfSackedBytes = serial (sackedCount marks lo hi) :=
  sackedLength_octets holds.regions

omit holds in
lemma reverse_split {above : RexmitRegion → Bool} {front back : List RexmitRegion}
    (under : ∀ r ∈ front, above r = false) (behind : ∀ r ∈ back, above r = true) :
    (front ++ back).reverse.takeWhile above = back.reverse ∧
      (front ++ back).reverse.dropWhile above = front.reverse := by
  have behind : ∀ r ∈ back.reverse, above r = true := fun r mem =>
    behind r (mem_reverse.mp mem)
  rw [reverse_append, takeWhile_append_of_pos behind, dropWhile_append_of_pos behind]
  cases rev : front.reverse with
  | nil => exact ⟨append_nil _, rfl⟩
  | cons last rest =>
    have fails : ¬ above last = true := by
      rw [under last (mem_reverse.mp (rev ▸ mem_cons_self))]
      exact Bool.false_ne_true
    rw [takeWhile_cons_of_neg fails, dropWhile_cons_of_neg fails]
    exact ⟨append_nil _, rfl⟩

/-- What a region that starts below `fromSeqNum` adds. -/
def tailBytes (fromSeqNum : UInt32) : Option RexmitRegion → UInt32
  | none => 0
  | some region =>
      if seqLess region.beginSeqNum fromSeqNum ∧ seqLess fromSeqNum region.endSeqNum ∧
          region.sacked then
        region.endSeqNum - fromSeqNum
      else 0

omit holds in
lemma getAmountOfSackedBytes_split {fromSeqNum : UInt32} {front back : List RexmitRegion}
    (inside : seqLE q.begin fromSeqNum ∧ seqLE fromSeqNum q.end)
    (whole : q.rexmitQueue = front ++ back)
    (under : ∀ r ∈ front, decide (seqLE fromSeqNum r.beginSeqNum) = false)
    (behind : ∀ r ∈ back, decide (seqLE fromSeqNum r.beginSeqNum) = true) :
    q.getAmountOfSackedBytes fromSeqNum =
      .ok (sackedLength back + tailBytes fromSeqNum front.getLast?) := by
  obtain ⟨taken, dropped⟩ := reverse_split under behind
  unfold getAmountOfSackedBytes
  rw [assert_pos inside, whole]
  dsimp only [bind, Except.bind]
  rw [taken, dropped, sackedLength_reverse, ← head?_reverse]
  cases front.reverse with
  | nil => exact congrArg Except.ok (UInt32.add_zero _).symm
  | cons r rest =>
    unfold tailBytes
    dsimp only [head?_cons]
    split
    · rfl
    · exact congrArg Except.ok (UInt32.add_zero _).symm

lemma getAmountOfSackedBytes_holds (ge : lo ≤ s) (le : s ≤ hi) :
    q.getAmountOfSackedBytes (serial s) = .ok (serial (sackedCount marks s hi)) := by
  have span := holds.span
  have inside := holds.inside ge le
  obtain ⟨m, first, second⟩ := cutAt holds.regions ge (by omega) span
  have whole : q.rexmitQueue =
      passed (serial s) q.rexmitQueue ++ onward (serial s) q.rexmitQueue :=
    takeWhile_append_dropWhile.symm
  have mGe := first.le
  -- the regions that end at `s` or before start before it
  have under (mLe : m ≤ s) : ∀ r ∈ passed (serial s) q.rexmitQueue,
      decide (seqLE (serial s) r.beginSeqNum) = false ∧ ¬ seqLess (serial s) r.endSeqNum := by
    intro r mem
    obtain ⟨b, e, mark, bGe, lt, eLe, rfl, -⟩ := first.of_mem mem
    refine ⟨decide_eq_false ?_, ?_⟩
    · exact mt (seqLE_serial (by omega) (by omega)).mp (by omega)
    · exact mt (seqLess_serial (by omega) (by omega)).mp (by omega)
  have atOrAbove {back : List RexmitRegion} {n : ℕ} (octets : Octets marks n back hi) (above : s ≤ n) :
      ∀ r ∈ back, decide (seqLE (serial s) r.beginSeqNum) = true := by
    intro r mem
    obtain ⟨b, e, mark, bGe, lt, eLe, rfl, -⟩ := octets.of_mem mem
    exact decide_eq_true ((seqLE_serial (by omega) (by omega)).mpr (by omega))
  -- with no region across `s`, the regions from `s` on are all that counts
  have clean (mLe : m ≤ s) (octets : Octets marks s (onward (serial s) q.rexmitQueue) hi) :
      q.getAmountOfSackedBytes (serial s) = .ok (serial (sackedCount marks s hi)) := by
    have none : tailBytes (serial s) (passed (serial s) q.rexmitQueue).getLast? = 0 := by
      cases last : (passed (serial s) q.rexmitQueue).getLast? with
      | none => rfl
      | some r =>
        have mem := mem_of_getLast? last
        exact if_neg fun cond => (under mLe r mem).2 cond.2.1
    rw [getAmountOfSackedBytes_split inside whole (fun r mem => (under mLe r mem).1)
      (atOrAbove octets le_rfl), none, sackedLength_octets octets, UInt32.add_zero]
  rcases second with ⟨none, rfl, hiLe⟩ | ⟨r, rest, h, mark, some, head⟩
  · obtain rfl := le_antisymm le hiLe
    exact clean le_rfl (by rw [none]; exact .nil)
  · have mLe := head.le
    have lt := head.lt
    have hLe := head.follows.le
    rcases Nat.eq_or_lt_of_le mLe with rfl | mLt
    · refine clean le_rfl ?_
      rw [some]
      exact .cons lt head.reads head.same head.follows
    · have counted : sackedCount marks s hi =
          (if mark.sacked then h - s else 0) + sackedCount marks h hi := by
        rw [← sackedCount_add lt.le hLe, sackedCount_run fun x ge' => head.same x (by omega)]
      have tail := head.follows
      obtain rfl := head.reads
      have across : tailBytes (serial s)
          (passed (serial s) q.rexmitQueue ++
            [(⟨serial m, serial h, mark.sacked, mark.rexmitted⟩ : RexmitRegion)]).getLast? = if mark.sacked then serial h - serial s else 0 := by
        rw [getLast?_concat]
        unfold tailBytes
        have begins := (seqLess_serial (a := m) (b := s) (by omega) (by omega)).mpr mLt
        have ends := (seqLess_serial (a := s) (b := h) (by omega) (by omega)).mpr lt
        simp only [begins, ends, true_and]
      rw [some, append_cons] at whole
      rw [getAmountOfSackedBytes_split inside whole ?_ (atOrAbove tail lt.le), across,
        sackedLength_octets tail, counted, Nat.add_comm, serial_add]
      · cases mark.sacked with
        | true => rw [if_pos rfl, if_pos rfl, serial_sub lt.le]
        | false => rfl
      · intro r mem
        rcases mem_append.mp mem with mem | mem
        · exact (under mLe r mem).1
        · obtain rfl := mem_singleton.mp mem
          exact decide_eq_false (mt (seqLE_serial (by omega) (by omega)).mp (by omega))

lemma getSackedBit_holds (ge : lo ≤ s) (le : s ≤ hi) :
    q.getSackedBit (serial s) = .ok (decide (s < hi) && (marks s).sacked) := by
  have span := holds.span
  have inside := holds.inside ge le
  unfold getSackedBit
  rw [assert_pos inside, holds.end]
  split
  case isTrue same =>
    have same : hi = s := (serial_inj (by omega) (by omega)).mp same
    rw [decide_eq_false (by omega), Bool.false_and]
    rfl
  case isFalse different =>
    have apart : s ≠ hi := fun same => different (by rw [same])
    obtain ⟨m, r, rest, h, mark, first, some, head, inside⟩ := holds.cutAt ge (by omega)
    have mLe := head.le
    have lt := head.lt
    have same := head.same s mLe lt
    obtain rfl := head.reads
    rw [some]
    dsimp only
    rw [assert_pos inside, same, decide_eq_true (by omega), Bool.true_and]
    rfl

lemma Holds.exists_covers (ge : lo ≤ s) (lt : s < hi) :
    ∃ r ∈ q.rexmitQueue, r.covers (serial s) := by
  have span := holds.span
  obtain ⟨r, mem, b, e, bGe, bLe, ltE, eLe, reads⟩ := holds.regions.exists_run ge lt
  obtain rfl := reads
  exact ⟨_, mem, (seqLE_serial (by omega) (by omega)).mpr bLe,
    (seqLess_serial (by omega) (by omega)).mpr ltE⟩

lemma Holds.marks_of_covers (ge : lo ≤ s) (lt : s < hi) (mem : r ∈ q.rexmitQueue)
    (covers : r.covers (serial s)) :
    r.sacked = (marks s).sacked ∧ r.rexmitted = (marks s).rexmitted := by
  have span := holds.span
  obtain ⟨b, e, mark, bGe, bLt, eLe, rfl, same⟩ := holds.regions.of_mem mem
  obtain ⟨begins, ends⟩ := covers
  have begins : b ≤ s := (seqLE_serial (by omega) (by omega)).mp begins
  have ends : s < e := (seqLess_serial (by omega) (by omega)).mp ends
  rw [same s begins ends]
  exact ⟨rfl, rfl⟩

end TCPSACKRexmitQueue

end Inet.Tcp
