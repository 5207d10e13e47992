import Mathlib.Data.List.Pairwise
import Mathlib.Data.Set.Lattice
import Mathlib.Tactic.Common

/-!
# Lists of sets, none inside of another

A new element is taken in when no extent has its own in it, and the elements inside of it are left
out then: the list covers the new extent too, and no extent has another in it.
-/

namespace Inet

variable {α β : Type*} {extent : α → Set β} {xs : List α} {x a b : α} {keep : α → Bool}

/-- No extent has another one in it. -/
def Incomparable (extent : α → Set β) (xs : List α) : Prop :=
  xs.Pairwise fun a b => ¬ extent a ⊆ extent b ∧ ¬ extent b ⊆ extent a

/-- The union of the extents. -/
def covered (extent : α → Set β) (xs : List α) : Set β := {p | ∃ a ∈ xs, p ∈ extent a}

namespace Incomparable

lemma eq_of_subset (apart : Incomparable extent xs) (mem : a ∈ xs) (mem' : b ∈ xs)
    (inside : extent a ⊆ extent b) : a = b := by
  have symmetric : Std.Symm fun a b => ¬ extent a ⊆ extent b ∧ ¬ extent b ⊆ extent a :=
    ⟨fun _ _ => And.symm⟩
  by_contra ne
  exact (List.Pairwise.forall apart mem mem' ne).1 inside

lemma nodup (apart : Incomparable extent xs) : xs.Nodup := by
  refine apart.imp ?_
  rintro a _ ⟨notInside, -⟩ rfl
  exact notInside subset_rfl

lemma takeIn (apart : Incomparable extent xs)
    (keeps : ∀ a ∈ xs, keep a = true ↔ ¬ extent a ⊆ extent x)
    (outside : ∀ a ∈ xs, ¬ extent x ⊆ extent a) : Incomparable extent (xs.filter keep ++ [x]) := by
  refine List.pairwise_append.mpr ⟨apart.filter _, List.pairwise_singleton _ _, ?_⟩
  intro a mem b new
  obtain rfl := List.mem_singleton.mp new
  obtain ⟨mem, kept⟩ := List.mem_filter.mp mem
  exact ⟨(keeps a mem).mp kept, outside a mem⟩

end Incomparable

lemma exists_takeIn (keeps : ∀ a ∈ xs, keep a = true ↔ ¬ extent a ⊆ extent x) (mem : a ∈ xs) :
    ∃ b ∈ xs.filter keep ++ [x], extent a ⊆ extent b := by
  by_cases kept : keep a = true
  · exact ⟨a, List.mem_append_left _ (List.mem_filter.mpr ⟨mem, kept⟩), subset_rfl⟩
  · refine ⟨x, List.mem_append_right _ (List.mem_singleton_self x), ?_⟩
    exact not_not.mp (mt (keeps a mem).mpr kept)

lemma covered_takeIn (keeps : ∀ a ∈ xs, keep a = true ↔ ¬ extent a ⊆ extent x) :
    covered extent (xs.filter keep ++ [x]) = covered extent xs ∪ extent x := by
  ext p
  constructor
  · rintro ⟨a, mem, inside⟩
    rcases List.mem_append.mp mem with old | new
    · exact .inl ⟨a, (List.mem_filter.mp old).1, inside⟩
    · obtain rfl := List.mem_singleton.mp new
      exact .inr inside
  · rintro (⟨a, mem, inside⟩ | new)
    · obtain ⟨b, kept, within⟩ := exists_takeIn keeps mem
      exact ⟨b, kept, within inside⟩
    · exact ⟨x, List.mem_append_right _ (List.mem_singleton_self x), new⟩

end Inet
