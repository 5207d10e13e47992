import Mathlib.Data.List.Sort

/-!
# First matches in sorted lists

The first item of a list kept ascending by a key that passes a test has the least key of all that
pass. `insertBy` behind the items that are not greater keeps the order. `Sorting` is a sort that
promises nothing about equivalent items.
-/

namespace Inet

open List

section

variable {α : Type*} {R : α → α → Prop} {xs : List α} {x y : α}

lemma eq_or_rel_of_find? (pairwise : xs.Pairwise R) {p : α → Bool} (found : xs.find? p = some x)
    (mem : y ∈ xs) (passes : p y = true) : y = x ∨ R x y := by
  obtain ⟨-, before, after, rfl, none⟩ := find?_eq_some_iff_append.mp found
  rcases mem_append.mp mem with early | late
  · have fails := none y early
    rw [passes] at fails
    cases fails
  · rcases mem_cons.mp late with same | late
    · exact .inl same
    · have tail := (pairwise_append.mp pairwise).2.1
      exact .inr ((pairwise_cons.mp tail).1 y late)

lemma map_replace {ι : Type*} [DecidableEq ι] {id : α → ι} {pre post : List α}
    (nodup : ((pre ++ x :: post).map id).Nodup) (f : α → α) :
    (pre ++ x :: post).map (fun y => if id y = id x then f y else y) = pre ++ f x :: post := by
  rw [map_append, map_cons] at nodup
  obtain ⟨-, tail, apart⟩ := nodup_append.mp nodup
  have unchanged : ∀ ys : List α, (∀ y ∈ ys, id y ≠ id x) →
      ys.map (fun y => if id y = id x then f y else y) = ys := by
    intro ys ne
    refine (map_congr_left ?_).trans (map_id ys)
    intro y mem
    rw [if_neg (ne y mem)]
    rfl
  rw [map_append, map_cons, if_pos rfl, unchanged pre, unchanged post]
  · intro y mem same
    exact (nodup_cons.mp tail).1 (same ▸ mem_map_of_mem mem)
  · intro y mem same
    exact apart _ (mem_map_of_mem mem) _ mem_cons_self same

/-- The result of a sorting function is some sorted permutation. -/
structure Sorting (lessThan : α → α → Prop) where
  sort : List α → List α
  perm : ∀ xs, (sort xs).Perm xs
  sorted : ∀ xs, (sort xs).Pairwise fun a b => ¬ lessThan b a

end

variable {α β : Type*} [LinearOrder β] (key : α → β)

/-- Ascending by the key. -/
def SortedBy (xs : List α) : Prop := xs.Pairwise fun a b => key a ≤ key b

/-- Insertion in front of the first item with a greater key. -/
def insertBy (a : α) (xs : List α) : List α := xs.orderedInsert (fun x y => key x < key y) a

variable {key} {a x y : α} {xs ys : List α}

lemma mem_insertBy : x ∈ insertBy key a xs ↔ x = a ∨ x ∈ xs := mem_orderedInsert _

namespace SortedBy

lemma nil : SortedBy key ([] : List α) := List.Pairwise.nil

lemma sublist (sorted : SortedBy key xs) (sub : ys.Sublist xs) : SortedBy key ys :=
  List.Pairwise.sublist sub sorted

lemma insertBy (sorted : SortedBy key xs) : SortedBy key (insertBy key a xs) := by
  induction xs with
  | nil => exact pairwise_singleton _ a
  | cons x xs ih =>
    obtain ⟨head, tail⟩ := pairwise_cons.mp sorted
    rw [Inet.insertBy, orderedInsert_cons]
    split
    · rename_i before
      refine pairwise_cons.mpr ⟨?_, sorted⟩
      intro y mem
      rcases mem_cons.mp mem with rfl | mem
      · exact before.le
      · exact before.le.trans (head y mem)
    · rename_i notBefore
      refine pairwise_cons.mpr ⟨?_, ih tail⟩
      intro y mem
      rcases mem_insertBy.mp mem with rfl | mem
      · exact not_lt.mp notBefore
      · exact head y mem

lemma find?_le (sorted : SortedBy key xs) {p : α → Bool} (found : xs.find? p = some x)
    (mem : y ∈ xs) (passes : p y = true) : key x ≤ key y := by
  rcases eq_or_rel_of_find? sorted found mem passes with rfl | le
  · exact le_rfl
  · exact le

end SortedBy

lemma SortedBy.map {f : α → α}
    (kept : xs.Pairwise fun a b => key (f a) ≤ key (f b)) : SortedBy key (xs.map f) :=
  pairwise_map.mpr kept

end Inet
