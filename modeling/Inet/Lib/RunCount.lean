import Mathlib

/-!
# Counting runs

How often a predicate on an interval of naturals turns true (`runCount`), and where its last point
ends (`highestEnd`). A run that goes on from in front of the interval is not counted again.
-/

namespace Inet

open Finset

variable {p : ℕ → Bool} {before v : Bool} {b m e x : ℕ}

/-- Does a run start at `x`, with `before` for the truth in front of `b`? -/
def startsRun (p : ℕ → Bool) (before : Bool) (b x : ℕ) : Bool :=
  p x && !(if x = b then before else p (x - 1))

/-- The number of runs that start in `[b, e)`. -/
def runCount (p : ℕ → Bool) (before : Bool) (b e : ℕ) : ℕ :=
  ((Finset.Ico b e).filter fun x => startsRun p before b x = true).card

lemma runCount_self : runCount p before b b = 0 := by
  simp [runCount]

lemma runCount_le_length : runCount p before b e ≤ e - b := by
  calc _ ≤ (Finset.Ico b e).card := card_filter_le _ _
    _ = e - b := Nat.card_Ico b e

/-- A stretch `[b, m)` on which the predicate is constant has at most one start. -/
lemma runCount_stretch (lt : b < m) (le : m ≤ e) (same : ∀ x, b ≤ x → x < m → p x = v) :
    runCount p before b e = (if v && !before then 1 else 0) + runCount p v m e := by
  unfold runCount
  rw [card_filter, card_filter, ← sum_Ico_consecutive _ lt.le le]
  congr 1
  · rw [sum_eq_single_of_mem b (mem_Ico.mpr ⟨le_rfl, lt⟩)]
    · simp [startsRun, same b le_rfl lt]
    · intro x mem apart
      obtain ⟨ge, below⟩ := mem_Ico.mp mem
      have := same (x - 1) (by omega) (by omega)
      simp [startsRun, *]
  · refine sum_congr rfl fun x mem => ?_
    obtain ⟨ge, -⟩ := mem_Ico.mp mem
    have apart : x ≠ b := by omega
    unfold startsRun
    rw [if_neg apart]
    by_cases first : x = m
    · rw [if_pos first, first, same (m - 1) (by omega) (by omega)]
    · rw [if_neg first]

lemma runCount_false_le : runCount p false b e ≤ runCount p true b e + 1 := by
  rcases Nat.lt_or_ge b e with lt | ge
  · have first before : runCount p before b e =
        (if p b && !before then 1 else 0) + runCount p (p b) (b + 1) e :=
      runCount_stretch (Nat.lt_succ_self b) lt fun x ge below => congrArg p (by omega : x = b)
    rw [first false, first true]
    split <;> split <;> omega
  · simp [runCount, Finset.Ico_eq_empty_of_le ge]

lemma runCount_anti {b' : ℕ} (le : b ≤ b') (le' : b' ≤ e) :
    runCount p false b' e ≤ runCount p false b e := by
  induction b', le using Nat.le_induction with
  | base => exact le_rfl
  | succ b' le ih =>
    refine le_trans ?_ (ih (by omega))
    rw [runCount_stretch (b := b') (Nat.lt_succ_self b') le'
      fun x ge below => congrArg p (by omega : x = b')]
    cases p b' with
    | false => exact Nat.le_add_left _ _
    | true => exact runCount_false_le.trans (Nat.add_comm _ _).le

/-- Points without the predicate may be left out in front. -/
lemma runCount_skip (lt : b < m) (le : m ≤ e) (clear : ∀ x, b ≤ x → x < m → p x = false) :
    runCount p false b e = runCount p false m e := by
  rw [runCount_stretch lt le clear]
  exact Nat.zero_add _

/-- The end of the last point of `[b, e)` with the predicate, or `b`. -/
def highestEnd (p : ℕ → Bool) (b e : ℕ) : ℕ :=
  max b (((Finset.Ico b e).filter fun x => p x = true).sup fun x => x + 1)

lemma le_highestEnd : b ≤ highestEnd p b e := le_max_left _ _

lemma highestEnd_le (le : b ≤ e) : highestEnd p b e ≤ e :=
  max_le le (Finset.sup_le fun _ mem => (Finset.mem_Ico.mp (Finset.mem_filter.mp mem).1).2)

lemma lt_highestEnd_iff (ge : b ≤ x) :
    x < highestEnd p b e ↔ ∃ y, x ≤ y ∧ y < e ∧ p y = true := by
  unfold highestEnd
  rw [lt_max_iff, Finset.lt_sup_iff]
  constructor
  · rintro (lt | ⟨y, mem, lt⟩)
    · omega
    · obtain ⟨mem, holds⟩ := mem_filter.mp mem
      exact ⟨y, by omega, (mem_Ico.mp mem).2, holds⟩
  · rintro ⟨y, le, lt, holds⟩
    refine .inr ⟨y, mem_filter.mpr ⟨mem_Ico.mpr ⟨by omega, lt⟩, holds⟩, by omega⟩

lemma highestEnd_eq_of_last (le : b ≤ m) (lt : m < e) (last : p m = true)
    (clear : ∀ x, m < x → x < e → p x = false) : highestEnd p b e = m + 1 := by
  refine eq_of_forall_lt_iff fun x => ?_
  rcases Nat.lt_or_ge x b with below | ge
  · exact iff_of_true (below.trans_le le_highestEnd) (by omega)
  · rw [lt_highestEnd_iff ge]
    constructor
    · rintro ⟨y, xLe, yLt, holds⟩
      by_contra above
      rw [clear y (by omega) yLt] at holds
      cases holds
    · exact fun below => ⟨m, by omega, lt, last⟩

/-- Points without the predicate may be left out behind. -/
lemma highestEnd_skip (le : m ≤ e) (clear : ∀ x, m ≤ x → x < e → p x = false) :
    highestEnd p b e = highestEnd p b m := by
  refine eq_of_forall_lt_iff fun x => ?_
  rcases Nat.lt_or_ge x b with below | ge
  · exact iff_of_true (below.trans_le le_highestEnd) (below.trans_le le_highestEnd)
  · rw [lt_highestEnd_iff ge, lt_highestEnd_iff ge]
    constructor
    · rintro ⟨y, xLe, yLt, holds⟩
      refine ⟨y, xLe, ?_, holds⟩
      by_contra above
      rw [clear y (by omega) yLt] at holds
      cases holds
    · exact fun ⟨y, xLe, yLt, holds⟩ => ⟨y, xLe, yLt.trans_le le, holds⟩

lemma highestEnd_eq_of_none (clear : ∀ x, b ≤ x → x < e → p x = false) :
    highestEnd p b e = b := by
  refine le_antisymm (not_lt.mp fun lt => ?_) le_highestEnd
  obtain ⟨y, ge, below, holds⟩ := (lt_highestEnd_iff le_rfl).mp lt
  rw [clear y ge below] at holds
  cases holds

end Inet
