import Mathlib.Data.List.DropRight

/-!
# Cutting lists along monotone tests

Along a list on which a test switches once at most, `takeWhile`, `dropWhile` and `rdropWhile` select
the same items as a filter.
-/

namespace Inet

open List

variable {β : Type*} {p : β → Bool} {xs : List β}

lemma takeWhile_eq_filter (once : xs.Pairwise fun a b => p b → p a) :
    xs.takeWhile p = xs.filter p := by
  induction xs with
  | nil => rfl
  | cons x xs ih =>
    obtain ⟨head, tail⟩ := pairwise_cons.mp once
    by_cases holds : p x
    · rw [takeWhile_cons_of_pos holds, filter_cons_of_pos holds, ih tail]
    · rw [takeWhile_cons_of_neg holds, filter_cons_of_neg holds]
      exact (filter_eq_nil_iff.mpr fun y mem later => holds (head y mem later)).symm

lemma dropWhile_eq_filter (once : xs.Pairwise fun a b => p b → p a) :
    xs.dropWhile p = xs.filter fun x => !p x := by
  induction xs with
  | nil => rfl
  | cons x xs ih =>
    obtain ⟨head, tail⟩ := pairwise_cons.mp once
    by_cases holds : p x
    · rw [dropWhile_cons_of_pos holds, ih tail, filter_cons_of_neg (by simpa using holds)]
    · rw [dropWhile_cons_of_neg holds]
      refine (filter_eq_self.mpr fun y mem => ?_).symm
      rcases mem_cons.mp mem with rfl | mem
      · simpa using holds
      · simpa using fun later => holds (head y mem later)

lemma rdropWhile_eq_filter (once : xs.Pairwise fun a b => p a → p b) :
    xs.rdropWhile p = xs.filter fun x => !p x := by
  rw [List.rdropWhile, dropWhile_eq_filter (pairwise_reverse.mpr once), filter_reverse,
    reverse_reverse]

/-- The items below the switch come first, so selecting them and then the later
ones selected by `q` loses no order. -/
lemma filter_append_filter (once : xs.Pairwise fun a b => p b → p a) (q : β → Bool) :
    xs.filter p ++ xs.filter (fun x => !p x && q x) = xs.filter fun x => p x || q x := by
  induction xs with
  | nil => rfl
  | cons x xs ih =>
    obtain ⟨head, tail⟩ := pairwise_cons.mp once
    by_cases holds : p x
    · simp only [filter_cons_of_pos holds, cons_append, holds, Bool.not_true,
        Bool.false_and, Bool.false_eq_true, not_false_eq_true, filter_cons_of_neg,
        Bool.true_or, filter_cons_of_pos, ih tail]
    · have none : ∀ y ∈ xs, ¬ p y := fun y mem later => holds (head y mem later)
      have noneHere : ∀ y ∈ x :: xs, ¬ p y := by
        intro y mem
        rcases mem_cons.mp mem with rfl | mem
        · exact holds
        · exact none y mem
      have empty : (x :: xs).filter p = [] := filter_eq_nil_iff.mpr noneHere
      rw [empty, nil_append]
      refine filter_congr fun y mem => ?_
      have notHolds : p y = false := by simpa using noneHere y mem
      rw [notHolds, Bool.not_false, Bool.true_and, Bool.false_or]

lemma rdropWhile_map {γ : Type*} (f : γ → β) (p : β → Bool) (ys : List γ) :
    (ys.map f).rdropWhile p = (ys.rdropWhile (p ∘ f)).map f := by
  simp only [List.rdropWhile, ← map_reverse, dropWhile_map]

end Inet
