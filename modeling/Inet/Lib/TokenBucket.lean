import Mathlib.Tactic.Linarith

/-!
# Buckets of tokens

A meter with a bucket that is refilled at a rate: what passes in any window of time is bounded by
the bucket and by what the rate gives in the window.
-/

namespace Inet

variable {S A : Type} {step : S → A → S} {time : A → ℚ} {used : S → A → ℚ}

/-- What passes between `lo` and `hi`. -/
def passed (step : S → A → S) (time : A → ℚ) (used : S → A → ℚ) (lo hi : ℚ) : S → List A → ℚ
  | _, [] => 0
  | s, a :: rest =>
      (if lo ≤ time a ∧ time a ≤ hi then used s a else 0) + passed step time used lo hi (step s a) rest

/-- What passes is taken out of the tokens that are left, in the states that meet `I`. -/
structure TokenBucket (step : S → A → S) (time : A → ℚ) (used : S → A → ℚ) (I : S → Prop)
    (last credit : S → ℚ) (burst rate : ℚ) : Prop where
  last_step : ∀ s a, last (step s a) = time a
  refill : ∀ {s a}, I s → last s ≤ time a →
    used s a + credit (step s a) ≤ credit s + rate * (time a - last s)
  limit : ∀ {s a}, I s → last s ≤ time a → used s a + credit (step s a) ≤ burst
  left : ∀ {s}, I s → 0 ≤ credit s
  used_nonneg : ∀ s a, 0 ≤ used s a
  keeps : ∀ {s a}, I s → last s ≤ time a → I (step s a)
  burst_nonneg : 0 ≤ burst
  rate_nonneg : 0 ≤ rate

namespace TokenBucket

variable {I : S → Prop} {last credit : S → ℚ} {burst rate lo hi : ℚ} {s : S} {arrivals : List A}

variable (bucket : TokenBucket step time used I last credit burst rate)
include bucket

lemma foldl_keeps (inv : I s)
    (ordered : (last s :: arrivals.map time).Pairwise (· ≤ ·)) : I (arrivals.foldl step s) := by
  induction arrivals generalizing s with
  | nil => exact inv
  | cons a rest ih =>
    obtain ⟨first, later⟩ := List.pairwise_cons.mp ordered
    refine ih (bucket.keeps inv (first _ List.mem_cons_self)) ?_
    rwa [bucket.last_step]

omit bucket in
lemma passed_eq_zero (after : ∀ a ∈ arrivals, hi < time a) :
    passed step time used lo hi s arrivals = 0 := by
  induction arrivals generalizing s with
  | nil => rfl
  | cons a rest ih =>
    obtain ⟨first, later⟩ := List.forall_mem_cons.mp after
    rw [passed, if_neg fun inside => not_lt.mpr inside.2 first, zero_add, ih later]

omit bucket in
lemma passed_of_after {a : A} (ordered : (time a :: arrivals.map time).Pairwise (· ≤ ·))
    (after : hi < time a) : passed step time used lo hi s (a :: arrivals) = 0 :=
  passed_eq_zero (List.forall_mem_cons.mpr ⟨after, fun _ mem => after.trans_le
    ((List.pairwise_cons.mp ordered).1 _ (List.mem_map_of_mem mem))⟩)

lemma passed_le_credit (inv : I s) (ordered : (last s :: arrivals.map time).Pairwise (· ≤ ·))
    (le : last s ≤ hi) :
    passed step time used lo hi s arrivals ≤ credit s + rate * (hi - last s) := by
  induction arrivals generalizing s with
  | nil => exact add_nonneg (bucket.left inv) (mul_nonneg bucket.rate_nonneg (sub_nonneg.mpr le))
  | cons a rest ih =>
    obtain ⟨first, later⟩ := List.pairwise_cons.mp ordered
    have here := first _ List.mem_cons_self
    rcases lt_or_ge hi (time a) with after | inside
    · rw [passed_of_after later after]
      exact add_nonneg (bucket.left inv) (mul_nonneg bucket.rate_nonneg (sub_nonneg.mpr le))
    · have rest' := ih (bucket.keeps inv here) (by rwa [bucket.last_step])
        (by rwa [bucket.last_step])
      rw [bucket.last_step] at rest'
      have taken := bucket.refill inv here
      rw [passed]
      by_cases counted : lo ≤ time a ∧ time a ≤ hi
      · rw [if_pos counted]
        linarith
      · rw [if_neg counted]
        have nonneg := bucket.used_nonneg s a
        linarith

lemma passed_le (inv : I s) (ordered : (last s :: arrivals.map time).Pairwise (· ≤ ·))
    (le : lo ≤ hi) : passed step time used lo hi s arrivals ≤ burst + rate * (hi - lo) := by
  have room := add_nonneg bucket.burst_nonneg (mul_nonneg bucket.rate_nonneg (sub_nonneg.mpr le))
  induction arrivals generalizing s with
  | nil => exact room
  | cons a rest ih =>
    obtain ⟨first, later⟩ := List.pairwise_cons.mp ordered
    have here := first _ List.mem_cons_self
    have later' : (last (step s a) :: rest.map time).Pairwise (· ≤ ·) := by rwa [bucket.last_step]
    rcases lt_or_ge hi (time a) with after | inside
    · rw [passed_of_after later after]
      exact room
    · rw [passed]
      by_cases before : time a < lo
      · rw [if_neg fun counted => not_le.mpr before counted.1, zero_add]
        exact ih (bucket.keeps inv here) later'
      · rw [if_pos ⟨not_lt.mp before, inside⟩]
        -- the first packet of the window finds no more than a full bucket
        have full := bucket.limit inv here
        have rest' : passed step time used lo hi (step s a) rest ≤
            credit (step s a) + rate * (hi - last (step s a)) :=
          bucket.passed_le_credit (bucket.keeps inv here) later' (by rwa [bucket.last_step])
        rw [bucket.last_step] at rest'
        have gained : rate * (hi - time a) ≤ rate * (hi - lo) :=
          mul_le_mul_of_nonneg_left (by linarith) bucket.rate_nonneg
        linarith

end TokenBucket

end Inet
