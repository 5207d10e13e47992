import Mathlib.Data.Set.Lattice
import Mathlib.Order.MinMax
import Mathlib.Order.Nat
import Mathlib.Tactic.Common

/-!
# Sorted lists of separated spans

A finite union of half-open intervals is kept as a list of nonempty spans, ascending and with gaps
between them; `cover` is the set it stands for. `insertBack` adds a span from the back: spans above
it are stepped over, those that overlap or touch it are absorbed.
-/

namespace Inet

open List

variable {α : Type*} [LinearOrder α]

/-- A nonempty half-open interval `[lo, hi)`. -/
@[ext]
structure Span (α : Type*) [LinearOrder α] where
  lo : α
  hi : α
  lo_lt_hi : lo < hi

namespace Span

/-- `s` ends strictly below the start of `t`, so the two do not even touch. -/
def Before (s t : Span α) : Prop := s.hi < t.lo

instance (s t : Span α) : Decidable (s.Before t) := inferInstanceAs (Decidable (_ < _))

/-- Smallest span containing both arguments. -/
def hull (s t : Span α) : Span α :=
  ⟨min s.lo t.lo, max s.hi t.hi,
    lt_of_le_of_lt (min_le_left _ _) (lt_of_lt_of_le s.lo_lt_hi (le_max_left _ _))⟩

@[simp] lemma hull_lo (s t : Span α) : (s.hull t).lo = min s.lo t.lo := rfl

@[simp] lemma hull_hi (s t : Span α) : (s.hull t).hi = max s.hi t.hi := rfl

/-- `s` keeps inside `[lo, hi)`. -/
def Within (lo hi : α) (s : Span α) : Prop := lo ≤ s.lo ∧ s.hi ≤ hi

lemma Within.hull {lo hi : α} {s t : Span α} (sIn : s.Within lo hi) (tIn : t.Within lo hi) :
    (s.hull t).Within lo hi :=
  ⟨le_min sIn.1 tIn.1, max_le sIn.2 tIn.2⟩

lemma Within.mono {lo hi lo' hi' : α} {s : Span α} (sIn : s.Within lo hi) (lower : lo' ≤ lo)
    (upper : hi ≤ hi') : s.Within lo' hi' :=
  ⟨le_trans lower sIn.1, le_trans sIn.2 upper⟩

lemma Before.trans {s t u : Span α} (st : s.Before t) (tu : t.Before u) : s.Before u :=
  lt_trans st (lt_trans t.lo_lt_hi tu)

lemma mem_hull_iff {s t : Span α} (st : ¬ s.Before t) (ts : ¬ t.Before s) (p : α) :
    p ∈ Set.Ico (s.hull t).lo (s.hull t).hi ↔ p ∈ Set.Ico s.lo s.hi ∨ p ∈ Set.Ico t.lo t.hi := by
  simp only [Before, not_lt] at st ts
  simp only [hull_lo, hull_hi, Set.mem_Ico, min_le_iff, lt_max_iff]
  constructor
  · rintro ⟨low | low, high | high⟩
    · exact .inl ⟨low, high⟩
    · rcases lt_or_ge p s.hi with inside | above
      · exact .inl ⟨low, inside⟩
      · exact .inr ⟨le_trans st above, high⟩
    · rcases lt_or_ge p t.hi with inside | above
      · exact .inr ⟨low, inside⟩
      · exact .inl ⟨le_trans ts above, high⟩
    · exact .inr ⟨low, high⟩
  · rintro (⟨low, high⟩ | ⟨low, high⟩)
    · exact ⟨.inl low, .inl high⟩
    · exact ⟨.inr low, .inr high⟩

end Span

/-! ## Covers and separation -/

/-- Every point lying in one of the spans. -/
def cover (ss : List (Span α)) : Set α := {p | ∃ s ∈ ss, p ∈ Set.Ico s.lo s.hi}

/-- Ascending spans with a gap between any two of them. -/
def Separated (ss : List (Span α)) : Prop := ss.Pairwise Span.Before

@[simp] lemma cover_nil : cover ([] : List (Span α)) = ∅ := by
  simp [cover]

variable {ss : List (Span α)}

lemma mem_cover_cons {s : Span α} {p : α} :
    p ∈ cover (s :: ss) ↔ p ∈ Set.Ico s.lo s.hi ∨ p ∈ cover ss := by
  simp [cover]

lemma mem_cover_append {ts : List (Span α)} {p : α} :
    p ∈ cover (ss ++ ts) ↔ p ∈ cover ss ∨ p ∈ cover ts := by
  simp [cover, or_and_right, exists_or]

lemma mem_cover_reverse {p : α} : p ∈ cover ss.reverse ↔ p ∈ cover ss := by
  simp [cover]

lemma exists_right_of_forall₂ {β γ : Type*} {R : β → γ → Prop} {bs : List β}
    {cs : List γ} (related : List.Forall₂ R bs cs) {b : β} (mem : b ∈ bs) : ∃ c ∈ cs, R b c := by
  induction related with
  | nil => cases mem
  | cons head _ ih =>
    rcases mem_cons.mp mem with rfl | mem
    · exact ⟨_, mem_cons_self, head⟩
    · obtain ⟨c, cMem, held⟩ := ih mem
      exact ⟨c, mem_cons_of_mem _ cMem, held⟩

lemma mem_cover_of_mem {s : Span α} (mem : s ∈ ss) {p : α} (low : s.lo ≤ p)
    (high : p < s.hi) : p ∈ cover ss :=
  ⟨s, mem, low, high⟩

namespace Separated

variable {s : Span α} {ss : List (Span α)}

lemma tail (sep : Separated (s :: ss)) : Separated ss := (pairwise_cons.mp sep).2

lemma head_before (sep : Separated (s :: ss)) {t : Span α} (mem : t ∈ ss) : s.Before t :=
  (pairwise_cons.mp sep).1 t mem

lemma head_lo_le (sep : Separated (s :: ss)) {p : α} (covered : p ∈ cover (s :: ss)) :
    s.lo ≤ p := by
  obtain ⟨t, mem, low, _⟩ := covered
  rcases mem_cons.mp mem with rfl | mem
  · exact low
  · exact le_trans (le_of_lt (lt_trans s.lo_lt_hi (sep.head_before mem))) low

/-- Points covered by the rest of the list lie strictly above the first span's
end, which is therefore itself uncovered. -/
lemma head_hi_lt (sep : Separated (s :: ss)) {p : α} (covered : p ∈ cover ss) : s.hi < p := by
  obtain ⟨t, mem, low, _⟩ := covered
  exact lt_of_lt_of_le (sep.head_before mem) low

lemma head_hi_notMem (sep : Separated (s :: ss)) : s.hi ∉ cover (s :: ss) := by
  rw [mem_cover_cons]
  rintro (⟨_, below⟩ | covered)
  · exact lt_irrefl _ below
  · exact lt_irrefl _ (sep.head_hi_lt covered)

lemma hi_notMem (sep : Separated ss) {t : Span α} (mem : t ∈ ss) : t.hi ∉ cover ss := by
  induction ss with
  | nil => cases mem
  | cons s ss ih =>
    rcases mem_cons.mp mem with rfl | mem
    · exact sep.head_hi_notMem
    · rw [mem_cover_cons]
      rintro (⟨_, below⟩ | covered)
      · exact lt_asymm below (lt_trans (sep.head_before mem) t.lo_lt_hi)
      · exact ih sep.tail mem covered

/-- What is covered without a gap lies in one span. -/
lemma exists_span_of_subset (sep : Separated ss) (s : Span α)
    (covered : ∀ p, p ∈ Set.Ico s.lo s.hi → p ∈ cover ss) :
    ∃ t ∈ ss, t.lo ≤ s.lo ∧ s.hi ≤ t.hi := by
  obtain ⟨t, mem, lo, hi⟩ := covered s.lo ⟨le_rfl, s.lo_lt_hi⟩
  refine ⟨t, mem, lo, ?_⟩
  by_contra short
  exact sep.hi_notMem mem (covered t.hi ⟨hi.le, not_le.mp short⟩)

end Separated

namespace SpanList

/-- Insert `s` while scanning `below`, the part not yet visited, from its last element (descending);
`above` are the spans stepped over, ascending. -/
def insertBack (s : Span α) : List (Span α) → List (Span α) → List (Span α)
  | [], above => s :: above
  | t :: below, above =>
      if t.Before s then below.reverse ++ t :: s :: above
      else if s.Before t then insertBack s below (t :: above)
      else insertBack (s.hull t) below above

lemma mem_cover_insertBack {s : Span α} {below above : List (Span α)} {p : α} :
    p ∈ cover (insertBack s below above) ↔
      p ∈ cover below ∨ p ∈ Set.Ico s.lo s.hi ∨ p ∈ cover above := by
  induction below generalizing s above with
  | nil => simp [insertBack, mem_cover_cons]
  | cons t below ih =>
    simp only [insertBack]
    split_ifs with before after
    · rw [mem_cover_append, mem_cover_reverse, mem_cover_cons, mem_cover_cons, mem_cover_cons]
      tauto
    · rw [ih, mem_cover_cons, mem_cover_cons]
      tauto
    · rw [ih, mem_cover_cons, Span.mem_hull_iff after before]
      tauto

lemma separated_insertBack {s : Span α} {below above : List (Span α)}
    (sep : Separated (below.reverse ++ above)) (next : ∀ t ∈ above, s.Before t) :
    Separated (insertBack s below above) := by
  induction below generalizing s above with
  | nil => exact pairwise_cons.mpr ⟨next, sep⟩
  | cons t below ih =>
    rw [reverse_cons, append_assoc] at sep
    obtain ⟨sepBelow, sepAbove, across⟩ := pairwise_append.mp sep
    have tNext : ∀ u ∈ above, t.Before u := (pairwise_cons.mp sepAbove).1
    have tPrev : ∀ u ∈ below.reverse, u.Before t := fun u mem =>
      across u mem t mem_cons_self
    simp only [insertBack]
    split_ifs with before after
    · refine pairwise_append.mpr ⟨sepBelow, ?_, ?_⟩
      · refine pairwise_cons.mpr ⟨?_, pairwise_cons.mpr ⟨next, sepAbove.of_cons⟩⟩
        intro u mem
        rcases mem_cons.mp mem with rfl | mem
        · exact before
        · exact before.trans (next u mem)
      · intro u uMem v vMem
        rcases mem_cons.mp vMem with rfl | vMem
        · exact tPrev u uMem
        · rcases mem_cons.mp vMem with rfl | vMem
          · exact (tPrev u uMem).trans before
          · exact across u uMem v (mem_cons_of_mem _ vMem)
    · refine ih sep ?_
      intro u mem
      rcases mem_cons.mp mem with rfl | mem
      · exact after
      · exact next u mem
    · refine ih ?_ ?_
      · exact pairwise_append.mpr ⟨sepBelow, sepAbove.of_cons,
          fun u uMem v vMem => across u uMem v (mem_cons_of_mem _ vMem)⟩
      · intro u mem
        exact max_lt (next u mem) (tNext u mem)

end SpanList

namespace SpanList

/-- The part of the first span that lies below `upTo`. -/
def takeFirst (upTo : α) : List (Span α) → Option (Span α)
  | [] => none
  | front :: _ =>
      if below : front.lo < upTo then
        some ⟨front.lo, min upTo front.hi, lt_min below front.lo_lt_hi⟩
      else none

/-- The spans left when everything below `upTo` is cut off the first one. -/
def cutFirst (upTo : α) : List (Span α) → List (Span α)
  | [] => []
  | front :: rest =>
      if above : upTo < front.hi then
        if front.lo < upTo then ⟨upTo, front.hi, above⟩ :: rest else front :: rest
      else rest

lemma hi_le_of_mem_cutFirst {lo hi upTo : α} {ss : List (Span α)}
    (ssIn : ∀ s ∈ ss, s.Within lo hi) {t : Span α} (mem : t ∈ cutFirst upTo ss) : t.hi ≤ hi := by
  cases ss with
  | nil => cases mem
  | cons front rest =>
    have restIn : ∀ s ∈ rest, s.hi ≤ hi := fun s mem => (ssIn s (mem_cons_of_mem _ mem)).2
    have frontIn : front.hi ≤ hi := (ssIn front mem_cons_self).2
    simp only [cutFirst] at mem
    split_ifs at mem
    · rcases mem_cons.mp mem with rfl | mem
      · exact frontIn
      · exact restIn t mem
    · rcases mem_cons.mp mem with rfl | mem
      · exact frontIn
      · exact restIn t mem
    · exact restIn t mem

end SpanList

lemma SpanList.within_insertBack {lo hi : α} {s : Span α} {below above : List (Span α)}
    (sIn : s.Within lo hi) (belowIn : ∀ t ∈ below, t.Within lo hi)
    (aboveIn : ∀ t ∈ above, t.Within lo hi) :
    ∀ t ∈ SpanList.insertBack s below above, t.Within lo hi := by
  induction below generalizing s above with
  | nil => exact forall_mem_cons.mpr ⟨sIn, aboveIn⟩
  | cons t below ih =>
    obtain ⟨tIn, restIn⟩ := forall_mem_cons.mp belowIn
    simp only [insertBack]
    split_ifs
    · intro u mem
      rcases mem_append.mp mem with mem | mem
      · exact restIn u (mem_reverse.mp mem)
      · exact forall_mem_cons.mpr ⟨tIn, forall_mem_cons.mpr ⟨sIn, aboveIn⟩⟩ u mem
    · exact ih sIn restIn (forall_mem_cons.mpr ⟨tIn, aboveIn⟩)
    · exact ih (sIn.hull tIn) restIn aboveIn

lemma Separated.insertBack {ss : List (Span α)} (sep : Separated ss) (s : Span α) :
    Separated (SpanList.insertBack s ss.reverse []) :=
  SpanList.separated_insertBack (by simpa using sep) (by simp)

lemma cover_insertBack (ss : List (Span α)) (s : Span α) :
    cover (SpanList.insertBack s ss.reverse []) = cover ss ∪ Set.Ico s.lo s.hi := by
  ext p
  rw [SpanList.mem_cover_insertBack, mem_cover_reverse, cover_nil]
  simp

/-! ## In-order reassembly of a numbered stream -/

open SpanList

/-- The first item still missing once `spans` have been updated. -/
def nextOfSpans (spans : List (Span ℕ)) (next : ℕ) : ℕ :=
  match spans.head? with
  | some front => if front.lo ≤ next then front.hi else next
  | none => next

lemma nextOfSpans_le {spans : List (Span ℕ)} {lo hi next : ℕ}
    (spansIn : ∀ t ∈ spans, t.Within lo hi) (le : next ≤ hi) : nextOfSpans spans next ≤ hi := by
  cases spans with
  | nil => exact le
  | cons front rest =>
    simp only [nextOfSpans, List.head?_cons]
    split
    · exact (spansIn front List.mem_cons_self).2
    · exact le

structure Reassembly (start taken next : ℕ) (received : Set ℕ) (spans : List (Span ℕ)) :
    Prop where
  start_le : start ≤ taken
  taken_le : taken ≤ next
  separated : Separated spans
  mem_cover : ∀ p, p ∈ cover spans ↔ p ∈ received ∧ taken ≤ p
  received_of_lt : ∀ p, start ≤ p → p < next → p ∈ received
  next_notMem : next ∉ received
  start_le_of_mem : ∀ p ∈ received, start ≤ p

namespace Reassembly

variable {start taken next : ℕ} {received : Set ℕ} {spans : List (Span ℕ)}

lemma empty (start : ℕ) : Reassembly start start start ∅ [] where
  start_le := le_rfl
  taken_le := le_rfl
  separated := List.Pairwise.nil
  mem_cover := by simp
  received_of_lt := fun _ ge lt => absurd lt (not_lt.mpr ge)
  next_notMem := Set.notMem_empty _
  start_le_of_mem := by simp

variable (state : Reassembly start taken next received spans)
include state

lemma isLeast : IsLeast {p | start ≤ p ∧ p ∉ received} next := by
  refine ⟨⟨state.start_le.trans state.taken_le, state.next_notMem⟩, ?_⟩
  rintro p ⟨ge, missing⟩
  by_contra below
  exact missing (state.received_of_lt p ge (not_le.mp below))

lemma head_of_lt (lt : taken < next) :
    ∃ front rest, spans = front :: rest ∧ front.lo = taken ∧ front.hi = next := by
  have takenCovered : taken ∈ cover spans :=
    (state.mem_cover taken).mpr ⟨state.received_of_lt taken state.start_le lt, le_rfl⟩
  cases spans with
  | nil => simp at takenCovered
  | cons front rest =>
    have sep := state.separated
    have frontLo : taken ≤ front.lo :=
      ((state.mem_cover front.lo).mp (mem_cover_of_mem List.mem_cons_self le_rfl front.lo_lt_hi)).2
    have loLe := sep.head_lo_le takenCovered
    have hiGe : next ≤ front.hi := by
      by_contra below
      have := front.lo_lt_hi
      have := state.start_le
      have received : front.hi ∈ received :=
        state.received_of_lt front.hi (by omega) (not_le.mp below)
      exact sep.head_hi_notMem ((state.mem_cover front.hi).mpr ⟨received, by omega⟩)
    have hiLe : front.hi ≤ next := by
      by_contra above
      have inside : next ∈ cover (front :: rest) :=
        mem_cover_of_mem List.mem_cons_self (by omega) (not_le.mp above)
      exact state.next_notMem ((state.mem_cover next).mp inside).1
    exact ⟨front, rest, rfl, le_antisymm loLe frontLo, le_antisymm hiLe hiGe⟩

lemma next_lt_of_mem {t : Span ℕ}
    (mem : t ∈ spans) : taken ≤ t.lo ∧ (taken = next → next < t.lo) := by
  have covered := (state.mem_cover t.lo).mp (mem_cover_of_mem mem le_rfl t.lo_lt_hi)
  refine ⟨covered.2, fun same => ?_⟩
  rcases Nat.lt_or_ge next t.lo with above | below
  · exact above
  · have : t.lo = next := by omega
    exact absurd (this ▸ covered.1) state.next_notMem

lemma insert (s : Span ℕ) (above : next ≤ s.lo) :
    Reassembly start taken (nextOfSpans (insertBack s spans.reverse []) next)
      (received ∪ Set.Ico s.lo s.hi) (insertBack s spans.reverse []) := by
  have sep := state.separated.insertBack s
  have covers : ∀ p, p ∈ cover (insertBack s spans.reverse []) ↔
      p ∈ received ∪ Set.Ico s.lo s.hi ∧ taken ≤ p := by
    intro p
    have := state.taken_le
    rw [cover_insertBack, Set.mem_union, Set.mem_union, state.mem_cover, Set.mem_Ico]
    constructor
    · rintro (⟨mem, ge⟩ | ⟨ge, lt⟩)
      · exact ⟨.inl mem, ge⟩
      · exact ⟨.inr ⟨ge, lt⟩, by omega⟩
    · rintro ⟨mem | inside, ge⟩
      · exact .inl ⟨mem, ge⟩
      · exact .inr inside
  have startLe : ∀ p ∈ received ∪ Set.Ico s.lo s.hi, start ≤ p := by
    rintro p (mem | ⟨ge, -⟩)
    · exact state.start_le_of_mem p mem
    · have := state.start_le
      have := state.taken_le
      omega
  -- Either the first span has reached `next`, or `next` is still missing.
  have front_cases : (∃ front rest, insertBack s spans.reverse [] = front :: rest ∧
        front.lo ≤ next ∧ nextOfSpans (insertBack s spans.reverse []) next = front.hi) ∨
      (nextOfSpans (insertBack s spans.reverse []) next = next ∧
        next ∉ received ∪ Set.Ico s.lo s.hi) := by
    cases shape : insertBack s spans.reverse [] with
    | nil =>
      have : s.lo ∈ cover (insertBack s spans.reverse []) := by
        rw [cover_insertBack]
        exact .inr ⟨le_rfl, s.lo_lt_hi⟩
      simp [shape] at this
    | cons front rest =>
      by_cases reached : front.lo ≤ next
      · exact .inl ⟨front, rest, rfl, reached, by simp [nextOfSpans, reached]⟩
      · refine .inr ⟨by simp [nextOfSpans, reached], fun mem => reached ?_⟩
        rw [shape] at sep covers
        exact sep.head_lo_le ((covers next).mpr ⟨mem, state.taken_le⟩)
  rcases front_cases with ⟨front, rest, shape, reached, eq⟩ | ⟨eq, missing⟩
  · rw [eq]
    have frontLo : taken ≤ front.lo :=
      ((covers front.lo).mp (by
        rw [shape]
        exact mem_cover_of_mem List.mem_cons_self le_rfl front.lo_lt_hi)).2
    have frontLt := front.lo_lt_hi
    refine ⟨state.start_le, by omega, sep, covers, ?_, ?_, startLe⟩
    · intro p ge lt
      rcases Nat.lt_or_ge p next with below | atLeast
      · exact .inl (state.received_of_lt p ge below)
      · exact ((covers p).mp (by
          rw [shape]
          exact mem_cover_of_mem List.mem_cons_self (by omega) lt)).1
    · intro mem
      have : front.hi ∈ cover (front :: rest) := by
        rw [← shape]
        exact (covers front.hi).mpr ⟨mem, by omega⟩
      rw [shape] at sep
      exact sep.head_hi_notMem this
  · rw [eq]
    exact ⟨state.start_le, state.taken_le, sep, covers,
      fun p ge lt => .inl (state.received_of_lt p ge lt), missing, startLe⟩

/-- Asking for everything below `upTo` hands out exactly `[taken, upTo)`. -/
lemma take {upTo : ℕ} (ge : taken ≤ upTo) (le : upTo ≤ next) :
    takeFirst upTo spans = (if lt : taken < upTo then some ⟨taken, upTo, lt⟩ else none) ∧
      Reassembly start upTo next received (cutFirst upTo spans) := by
  by_cases lt : taken < upTo
  · obtain ⟨front, rest, shape, frontLo, frontHi⟩ := state.head_of_lt (by omega)
    subst shape
    refine ⟨?_, state.start_le.trans ge, le, ?_, ?_, state.received_of_lt, state.next_notMem,
      state.start_le_of_mem⟩
    · rw [dif_pos lt, takeFirst, dif_pos (by omega)]
      congr 1
      exact Span.ext frontLo (by simp only; omega)
    · simp only [cutFirst]
      split_ifs with more low
      · exact List.pairwise_cons.mpr ⟨fun t mem => state.separated.head_before mem,
          state.separated.tail⟩
      · exact state.separated
      · exact state.separated.tail
    · intro p
      have covered := state.mem_cover p
      rw [mem_cover_cons, Set.mem_Ico] at covered
      have restAbove : p ∈ cover rest → front.hi < p := state.separated.head_hi_lt
      simp only [cutFirst]
      split_ifs with more low
      · rw [mem_cover_cons, Set.mem_Ico]
        constructor
        · rintro (⟨low', high⟩ | mem)
          · simp only at low' high
            exact ⟨(covered.mp (.inl ⟨by omega, high⟩)).1, low'⟩
          · have := restAbove mem
            exact ⟨(covered.mp (.inr mem)).1, by omega⟩
        · rintro ⟨mem, low'⟩
          rcases covered.mpr ⟨mem, by omega⟩ with ⟨-, high⟩ | mem
          · exact .inl ⟨low', high⟩
          · exact .inr mem
      · omega
      · constructor
        · intro mem
          have := restAbove mem
          exact ⟨(covered.mp (.inr mem)).1, by omega⟩
        · rintro ⟨mem, low'⟩
          rcases covered.mpr ⟨mem, by omega⟩ with ⟨-, high⟩ | mem
          · omega
          · exact mem
  · have same : upTo = taken := by omega
    subst same
    rw [dif_neg lt]
    cases spans with
    | nil => exact ⟨rfl, state⟩
    | cons front rest =>
      have frontLo := (state.next_lt_of_mem List.mem_cons_self).1
      have := front.lo_lt_hi
      refine ⟨by rw [takeFirst, dif_neg (by omega)], ?_⟩
      rw [cutFirst, dif_pos (by omega), if_neg (by omega)]
      exact state

end Reassembly

end Inet
