import Inet.Lib.SpanList
import Inet.Tcp.Queues.VirtualDataRcvQueue
import Mathlib.Data.List.Forall2

/-!
# Reading a receive queue over positions

`RegionReading` says which span of positions a region stands for and when `merge` and `split` keep
that; `Represents` lifts it to a queue. With everything in sight within `2 ^ 31` positions, `merge`
is insertion into a separated span list, `insertBytesFromSegment` updates `rcv_nxt` from the first
span, and `extractTo` cuts that.
-/

namespace Inet.Tcp

open RcvRegion

/-- How a kind of region is read. `Mergeable region t s` is what `merge` needs of the region for `t`
when that for `s` absorbs it. -/
structure RegionReading (ρ : Type) [RcvRegion ρ] where
  Rep : ρ → Span ℕ → Prop
  Mergeable : ρ → Span ℕ → Span ℕ → Prop
  begin_eq : ∀ {region s}, Rep region s → (toRegion region).begin = serial s.lo
  end_eq : ∀ {region s}, Rep region s → (toRegion region).end = serial s.hi
  merge : ∀ {seg region s t}, Rep seg s → Rep region t → ¬ s.Before t → ¬ t.Before s →
    (s.hull t).hi ≤ (s.hull t).lo + 2147483648 → Mergeable region t s →
    ∃ merged, RcvRegion.merge seg region = .ok (some merged) ∧ Rep merged (s.hull t)
  mergeable_hull : ∀ {region t s u}, Mergeable region t s → t.Before u → ¬ s.Before u →
    ¬ t.Before (s.hull u) → Mergeable region t (s.hull u)
  split : ∀ {region s} {m : ℕ}, Rep region s → s.hi ≤ s.lo + 2147483648 →
    ∀ (above : s.lo < m) (below : m < s.hi),
    ∃ extracted left, RcvRegion.split region (serial m) = .ok (extracted, left) ∧
      Rep extracted ⟨s.lo, m, above⟩ ∧ Rep left ⟨m, s.hi, below⟩

lemma Region.merge_reads {seg region : Region} {s t : Span ℕ}
    (segRep : seg.begin = serial s.lo ∧ seg.end = serial s.hi)
    (rep : region.begin = serial t.lo ∧ region.end = serial t.hi) (notBefore : ¬ s.Before t)
    (notAfter : ¬ t.Before s) (near : (s.hull t).hi ≤ (s.hull t).lo + 2147483648) :
    ∃ merged, RcvRegion.merge seg region = .ok (some merged) ∧
      merged.begin = serial (s.hull t).lo ∧ merged.end = serial (s.hull t).hi := by
  obtain ⟨segBegin, segEnd⟩ := segRep
  obtain ⟨begin_eq, end_eq⟩ := rep
  have := s.lo_lt_hi
  have := t.lo_lt_hi
  simp only [Span.Before, not_lt, Span.hull_lo, Span.hull_hi] at notBefore notAfter near
  change ∃ merged, Except.ok (Region.merge seg region) = .ok (some merged) ∧ _
  simp only [Region.merge, segBegin, segEnd, begin_eq, end_eq]
  rw [if_neg (by
    rw [seqLess_serial (by omega) (by omega), seqLess_serial (by omega) (by omega)]
    omega)]
  refine ⟨_, rfl, ?_, ?_⟩
  · simp only [seqLess_serial (a := t.lo) (b := s.lo) (by omega) (by omega), Span.hull_lo]
    split
    · rw [min_eq_right (by omega)]
    · rw [min_eq_left (by omega)]
  · simp only [seqLess_serial (a := s.hi) (b := t.hi) (by omega) (by omega), Span.hull_hi]
    split
    · rw [max_eq_right (by omega)]
    · rw [max_eq_left (by omega)]

lemma Region.split_reads {region : Region} {s : Span ℕ} {m : ℕ}
    (rep : region.begin = serial s.lo ∧ region.end = serial s.hi)
    (near : s.hi ≤ s.lo + 2147483648) (above : s.lo < m) (below : m < s.hi) :
    ∃ extracted left, RcvRegion.split region (serial m) = .ok (extracted, left) ∧
      (extracted.begin = serial s.lo ∧ extracted.end = serial m) ∧
      (left.begin = serial m ∧ left.end = serial s.hi) := by
  obtain ⟨begin_eq, end_eq⟩ := rep
  have inside : seqGreater (serial m) region.begin ∧ seqLess (serial m) region.end := by
    rw [begin_eq, end_eq, seqGreater_serial (by omega) (by omega),
      seqLess_serial (by omega) (by omega)]
    exact ⟨above, below⟩
  refine ⟨⟨region.begin, serial m⟩, ⟨serial m, region.end⟩, ?_, ⟨begin_eq, rfl⟩, rfl, end_eq⟩
  change Region.split region (serial m) = _
  simp only [Region.split, assert_pos inside, bind, Except.bind, pure, Except.pure]

/-- Plain regions read as the range between their ends. -/
def Region.reading : RegionReading Region where
  Rep region s := region.begin = serial s.lo ∧ region.end = serial s.hi
  Mergeable _ _ _ := True
  begin_eq rep := rep.1
  end_eq rep := rep.2
  merge segRep rep notBefore notAfter near _ := merge_reads segRep rep notBefore notAfter near
  mergeable_hull := fun _ _ _ _ => trivial
  split := split_reads

section

variable {ρ : Type} [RcvRegion ρ] (R : RegionReading ρ)

namespace RegionReading

variable {R} {base : ℕ} {seg r : ρ} {s t : Span ℕ}

lemma compare_before (segRep : R.Rep seg s) (rep : R.Rep r t)
    (sIn : s.Within base (base + 2147483648)) (tIn : t.Within base (base + 2147483648)) (before : t.Before s) :
    (toRegion r).compare (toRegion seg) = .before := by
  have := s.lo_lt_hi
  have := t.lo_lt_hi
  simp only [Span.Before, Span.Within] at before sIn tIn
  simp only [Region.compare, R.begin_eq segRep, R.begin_eq rep, R.end_eq segRep, R.end_eq rep]
  rw [if_neg (by rw [serial_inj (by omega) (by omega)]; omega),
    if_neg (by rw [serial_inj (by omega) (by omega)]; omega),
    if_pos (by rw [seqLess_serial (by omega) (by omega)]; omega)]

lemma compare_after (segRep : R.Rep seg s) (rep : R.Rep r t)
    (sIn : s.Within base (base + 2147483648)) (tIn : t.Within base (base + 2147483648)) (after : s.Before t) :
    (toRegion r).compare (toRegion seg) = .after := by
  have := s.lo_lt_hi
  have := t.lo_lt_hi
  simp only [Span.Before, Span.Within] at after sIn tIn
  simp only [Region.compare, R.begin_eq segRep, R.begin_eq rep, R.end_eq segRep, R.end_eq rep]
  rw [if_neg (by rw [serial_inj (by omega) (by omega)]; omega),
    if_neg (by rw [serial_inj (by omega) (by omega)]; omega),
    if_neg (by rw [seqLess_serial (by omega) (by omega)]; omega),
    if_pos (by rw [seqLess_serial (by omega) (by omega)]; omega)]

lemma compare_meet (segRep : R.Rep seg s) (rep : R.Rep r t)
    (sIn : s.Within base (base + 2147483648)) (tIn : t.Within base (base + 2147483648)) (notBefore : ¬ t.Before s)
    (notAfter : ¬ s.Before t) :
    (toRegion r).compare (toRegion seg) ≠ .before ∧
      (toRegion r).compare (toRegion seg) ≠ .after := by
  simp only [Span.Before, Span.Within, not_lt] at notBefore notAfter sIn tIn
  have notLess : ¬ seqLess (toRegion r).end (toRegion seg).begin := by
    rw [R.begin_eq segRep, R.end_eq rep, seqLess_serial (by omega) (by omega)]
    omega
  have notGreater : ¬ seqLess (toRegion seg).end (toRegion r).begin := by
    rw [R.begin_eq rep, R.end_eq segRep, seqLess_serial (by omega) (by omega)]
    omega
  rw [Region.compare, if_neg notLess, if_neg notGreater]
  split_ifs <;> simp

end RegionReading

lemma VirtualDataRcvQueue.mergeLoop_meet {seg r : ρ} {below above : List ρ}
    (notBefore : (toRegion r).compare (toRegion seg) ≠ .before)
    (notAfter : (toRegion r).compare (toRegion seg) ≠ .after) {merged : ρ}
    (merge : RcvRegion.merge seg r = .ok (some merged)) :
    mergeLoop seg (r :: below) above = mergeLoop merged below above := by
  rw [mergeLoop]
  cases status : (toRegion r).compare (toRegion seg) with
  | before => exact absurd status notBefore
  | after => exact absurd status notAfter
  | beforeTouch => simp only [merge, bind, Except.bind]
  | overlap => simp only [merge, bind, Except.bind]
  | afterTouch => simp only [merge, bind, Except.bind]

lemma RegionReading.mergeLoop {base : ℕ} {seg : ρ} {s : Span ℕ} {below above : List ρ}
    {belowSpans aboveSpans : List (Span ℕ)} (segRep : R.Rep seg s)
    (segIn : s.Within base (base + 2147483648)) (belowRep : List.Forall₂ R.Rep below belowSpans)
    (mergeable : ∀ pair ∈ below.zip belowSpans,
      ¬ pair.2.Before s → ¬ s.Before pair.2 → R.Mergeable pair.1 pair.2 s)
    (belowIn : ∀ t ∈ belowSpans, t.Within base (base + 2147483648))
    (sep : Separated belowSpans.reverse) (aboveRep : List.Forall₂ R.Rep above aboveSpans) :
    ∃ regions, VirtualDataRcvQueue.mergeLoop seg below above = .ok regions ∧
      List.Forall₂ R.Rep regions (SpanList.insertBack s belowSpans aboveSpans) := by
  induction belowRep generalizing seg s above aboveSpans with
  | nil => exact ⟨_, rfl, .cons segRep aboveRep⟩
  | @cons r t below belowSpans rep rest ih =>
    rw [List.zip_cons_cons, List.forall_mem_cons] at mergeable
    obtain ⟨headMergeable, mergeable⟩ := mergeable
    obtain ⟨tIn, restIn⟩ := List.forall_mem_cons.mp belowIn
    rw [List.reverse_cons] at sep
    have restSep : Separated belowSpans.reverse := (List.pairwise_append.mp sep).1
    have restBefore : ∀ u ∈ belowSpans, u.Before t := fun u mem =>
      (List.pairwise_append.mp sep).2.2 u (List.mem_reverse.mpr mem) t List.mem_cons_self
    rw [SpanList.insertBack]
    by_cases before : t.Before s
    · have stop := R.compare_before segRep rep segIn tIn before
      refine ⟨_, by rw [VirtualDataRcvQueue.mergeLoop, stop], ?_⟩
      rw [if_pos before]
      exact List.rel_append (List.rel_reverse rest) (.cons rep (.cons segRep aboveRep))
    · rw [if_neg before]
      by_cases after : s.Before t
      · have skip := R.compare_after segRep rep segIn tIn after
        rw [if_pos after, VirtualDataRcvQueue.mergeLoop, skip]
        exact ih segRep segIn mergeable restIn restSep (.cons rep aboveRep)
      · rw [if_neg after]
        obtain ⟨notBefore, notAfter⟩ := R.compare_meet segRep rep segIn tIn before after
        have hullIn := segIn.hull tIn
        obtain ⟨merged, merge, mergedRep⟩ := R.merge segRep rep after before
          (by have := hullIn.1; have := hullIn.2; omega) (headMergeable before after)
        rw [VirtualDataRcvQueue.mergeLoop_meet notBefore notAfter merge]
        refine ih mergedRep hullIn ?_ restIn restSep aboveRep
        -- What is left lies below `t`, so it can only meet the hull where it already met `s`.
        intro pair mem apart _
        have uBefore := restBefore pair.2 (List.of_mem_zip mem).2
        refine R.mergeable_hull (mergeable pair mem ?_ ?_) uBefore after apart
        · exact fun early => apart (lt_min early uBefore)
        · exact fun late => after (late.trans uBefore)

/-! ## Whole queues -/

/-- The queue's regions stand for `spans` and its `rcv_nxt` for `next`. -/
structure VirtualDataRcvQueue.Represents (queue : VirtualDataRcvQueue ρ)
    (spans : List (Span ℕ)) (next : ℕ) : Prop where
  regions : List.Forall₂ R.Rep queue.regionList spans
  separated : Separated spans
  rcvNxt : queue.rcvNxt = serial next

namespace VirtualDataRcvQueue.Represents

variable {R} {q : VirtualDataRcvQueue ρ} {spans : List (Span ℕ)} {next base : ℕ}

variable (represents : q.Represents R spans next)
include represents

variable (spansIn : ∀ t ∈ spans, t.Within base (base + 2147483648))
include spansIn

lemma checkRange {r : ρ} {s : Span ℕ} (rep : R.Rep r s)
    (segIn : s.Within base (base + 2147483648)) : q.checkRange r = .ok () := by
  obtain ⟨rcvNxt, regionList⟩ := q
  obtain ⟨regions, sep, -⟩ := represents
  cases regions with
  | nil => rfl
  | @cons front t rest spans frontRep restRep =>
    obtain ⟨last, lastMem, lastRep⟩ := exists_right_of_forall₂
      (.cons frontRep restRep) (List.getLast_mem (List.cons_ne_nil front rest))
    have firstIn := spansIn t List.mem_cons_self
    have lastIn := spansIn last lastMem
    have lastLo : t.lo ≤ last.lo := sep.head_lo_le (mem_cover_of_mem lastMem le_rfl last.lo_lt_hi)
    have := s.lo_lt_hi
    have := last.lo_lt_hi
    simp only [Span.Within] at firstIn lastIn segIn
    simp only [VirtualDataRcvQueue.checkRange, List.head?_cons,
      List.getLast?_eq_some_getLast (List.cons_ne_nil front rest), R.begin_eq frontRep,
      R.end_eq lastRep, R.begin_eq rep, R.end_eq rep]
    rw [seqMin_serial (by omega) (by omega), seqMax_serial (by omega) (by omega)]
    refine if_neg ?_
    rw [seqGE_serial (by omega) (by omega), seqGE_serial (by omega) (by omega),
      seqGE_serial (by omega) (by omega), seqGE_serial (by omega) (by omega)]
    omega

lemma nextAfter (nextGe : base ≤ next)
    (nextLt : next < base + 2147483648) : q.nextAfter = serial (nextOfSpans spans next) := by
  obtain ⟨rcvNxt, regionList⟩ := q
  obtain ⟨regions, -, rcvNxt_eq⟩ := represents
  simp only at rcvNxt_eq
  cases regions with
  | nil => exact rcvNxt_eq
  | @cons front t rest spans frontRep restRep =>
    have firstIn := spansIn t List.mem_cons_self
    have := t.lo_lt_hi
    simp only [Span.Within] at firstIn
    simp only [VirtualDataRcvQueue.nextAfter, nextOfSpans, List.head?_cons, R.begin_eq frontRep,
      R.end_eq frontRep, rcvNxt_eq, seqGE_serial (a := next) (b := t.lo) (by omega) (by omega)]
    split <;> rfl

/-- Inserting a region that lies within reach of the queue adds its span. -/
lemma insertRegion (nextGe : base ≤ next) (nextLt : next < base + 2147483648) {r : ρ} {s : Span ℕ}
    (rep : R.Rep r s) (segIn : s.Within base (base + 2147483648))
    (mergeable : ∀ pair ∈ q.regionList.zip spans,
      ¬ pair.2.Before s → ¬ s.Before pair.2 → R.Mergeable pair.1 pair.2 s) :
    ∃ q', q.insertRegion r = .ok q' ∧ q'.Represents R (SpanList.insertBack s spans.reverse [])
        (nextOfSpans (SpanList.insertBack s spans.reverse []) next) := by
  have sep := represents.separated
  obtain ⟨regions, loop, regionsRep⟩ := RegionReading.mergeLoop R rep segIn
    (List.rel_reverse represents.regions) (by
      rw [List.zip_eq_zipWith, ← List.reverse_zipWith represents.regions.length_eq]
      exact fun pair mem => mergeable pair (List.mem_reverse.mp mem))
    (fun t mem => spansIn t (List.mem_reverse.mp mem))
    (by rwa [List.reverse_reverse]) .nil
  have merged : ({ q with regionList := regions } : VirtualDataRcvQueue ρ).Represents R
      (SpanList.insertBack s spans.reverse []) next :=
    ⟨regionsRep, sep.insertBack s, represents.rcvNxt⟩
  refine ⟨{ q with regionList := regions, rcvNxt := _ }, ?_, regionsRep, sep.insertBack s,
    merged.nextAfter ?_ nextGe nextLt⟩
  · simp only [VirtualDataRcvQueue.insertRegion, represents.checkRange spansIn rep segIn,
      VirtualDataRcvQueue.merge, loop, bind, Except.bind, pure, Except.pure]
    rfl
  · exact SpanList.within_insertBack segIn (fun t mem => spansIn t (List.mem_reverse.mp mem))
      (by simp)

/-- `extractTo` hands out the part of the first span below the requested
position, and nothing when the first span starts at or above it. -/
lemma extractTo {upTo : ℕ} (upToGe : base ≤ upTo) (upToLe : upTo ≤ next)
    (nextLe : next ≤ base + 2147483648) (nextLt : next < upTo + 2147483648) :
    ∃ extracted q', q.extractTo (serial upTo) = .ok (extracted, q') ∧
      q'.Represents R (SpanList.cutFirst upTo spans) next ∧
      Option.Rel R.Rep extracted (SpanList.takeFirst upTo spans) := by
  obtain ⟨rcvNxt, regionList⟩ := q
  obtain ⟨regions, sep, rcvNxt_eq⟩ := represents
  simp only at rcvNxt_eq regions
  have reached : seqLE (serial upTo) rcvNxt := by
    rw [rcvNxt_eq, seqLE_serial (by omega) (by omega)]
    exact upToLe
  cases regions with
  | nil =>
    refine ⟨none, ⟨rcvNxt, []⟩, ?_, ⟨.nil, sep, rcvNxt_eq⟩, .none⟩
    simp only [VirtualDataRcvQueue.extractTo, assert_pos reached, bind, Except.bind]
    rfl
  | @cons front t rest spans frontRep restRep =>
    have firstIn := spansIn t List.mem_cons_self
    have := t.lo_lt_hi
    simp only [Span.Within] at firstIn
    have atBegin : seqLE (serial upTo) (toRegion front).begin ↔ upTo ≤ t.lo := by
      rw [R.begin_eq frontRep, seqLE_serial (by omega) (by omega)]
    have atEnd : seqGE (serial upTo) (toRegion front).end ↔ t.hi ≤ upTo := by
      rw [R.end_eq frontRep, seqGE_serial (by omega) (by omega)]
    simp only [VirtualDataRcvQueue.extractTo, assert_pos reached, bind, Except.bind, atBegin,
      atEnd, SpanList.cutFirst, SpanList.takeFirst]
    by_cases empty : upTo ≤ t.lo
    · refine ⟨none, ⟨rcvNxt, front :: rest⟩, by rw [if_pos empty]; rfl, ?_, ?_⟩
      · rw [dif_pos (by omega), if_neg (by omega)]
        exact ⟨.cons frontRep restRep, sep, rcvNxt_eq⟩
      · rw [dif_neg (by omega)]
        exact .none
    · rw [if_neg empty, dif_pos (by omega : t.lo < upTo)]
      by_cases whole : t.hi ≤ upTo
      · refine ⟨some front, ⟨rcvNxt, rest⟩, by rw [if_pos whole]; rfl, ?_, .some ?_⟩
        · rw [dif_neg (by omega)]
          exact ⟨restRep, sep.tail, rcvNxt_eq⟩
        · simpa only [min_eq_right whole] using frontRep
      · obtain ⟨extracted, left, split, extractedRep, leftRep⟩ :=
          R.split frontRep (by omega) (m := upTo) (by omega) (by omega)
        refine ⟨some extracted, ⟨rcvNxt, left :: rest⟩, by
          rw [if_neg whole, split]; rfl, ?_, .some ?_⟩
        · rw [dif_pos (by omega), if_pos (by omega)]
          refine ⟨.cons leftRep restRep, ?_, rcvNxt_eq⟩
          exact List.pairwise_cons.mpr ⟨fun u mem => sep.head_before mem, sep.tail⟩
        · simpa only [min_eq_left (by omega : upTo ≤ t.hi)] using extractedRep

end VirtualDataRcvQueue.Represents

end

end Inet.Tcp
