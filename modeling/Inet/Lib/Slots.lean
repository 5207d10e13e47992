import Mathlib.Algebra.Order.Group.Nat
import Mathlib.Data.List.Basic

/-!
# Lists in the front of an array

To make room for an item the entries behind it are moved up by one, and to take one out they are
moved down.
-/

namespace Inet

open Function List

variable {α : Type*}

/-- The first entries of the array are the items of the list. -/
def Stores (a : ℕ → α) (xs : List α) : Prop := ∀ i x, xs[i]? = some x → a i = x

/-- The entries `i, …, n - 1` moved up by one. -/
def movedUp (i n : ℕ) (a : ℕ → α) : ℕ → α := fun k => if i < k ∧ k ≤ n then a (k - 1) else a k

/-- The `count` entries behind `j` moved down by one. -/
def movedDown (count j : ℕ) (a : ℕ → α) : ℕ → α :=
  fun k => if j ≤ k ∧ k < j + count then a (k + 1) else a k

/-- The entries behind the first `d`, the first `count` of them, moved to the front. -/
def movedFront (d count : ℕ) (a : ℕ → α) : ℕ → α := fun k => if k < count then a (k + d) else a k

lemma movedUp_of_le {i n : ℕ} (le : n ≤ i) (a : ℕ → α) : movedUp i n a = a := by
  funext k
  exact if_neg (by omega)

lemma movedUp_succ {i n : ℕ} (lt : i < n + 1) (a : ℕ → α) :
    movedUp i n (update a (n + 1) (a n)) = movedUp i (n + 1) a := by
  funext k
  simp only [movedUp, update_apply]
  by_cases last : k = n + 1
  · subst last
    rw [if_neg (by omega), if_pos rfl, if_pos (by omega), Nat.add_sub_cancel]
  · by_cases inside : i < k ∧ k ≤ n
    · rw [if_pos inside, if_neg (by omega), if_pos (by omega)]
    · rw [if_neg inside, if_neg last, if_neg (by omega)]

lemma movedDown_succ (count j : ℕ) (a : ℕ → α) :
    movedDown count (j + 1) (update a j (a (j + 1))) = movedDown (count + 1) j a := by
  funext k
  simp only [movedDown, update_apply]
  by_cases first : k = j
  · subst first
    rw [if_neg (by omega), if_pos rfl, if_pos (by omega)]
  · by_cases inside : j + 1 ≤ k ∧ k < j + 1 + count
    · rw [if_pos inside, if_neg (by omega), if_pos (by omega)]
    · rw [if_neg inside, if_neg first, if_neg (by omega)]

lemma movedFront_succ (d count : ℕ) (a : ℕ → α) :
    update (movedFront d count a) count (a (count + d)) = movedFront d (count + 1) a := by
  funext k
  simp only [movedFront, update_apply]
  by_cases last : k = count
  · subst last
    rw [if_pos rfl, if_pos (by omega)]
  · by_cases inside : k < count
    · rw [if_neg last, if_pos inside, if_pos (by omega)]
    · rw [if_neg last, if_neg inside, if_neg (by omega)]

namespace Stores

variable {a b : ℕ → α} {xs ys : List α} {x y : α}

lemma nil (a : ℕ → α) : Stores a [] := by
  intro i x mem
  cases mem

lemma get (stores : Stores a (xs ++ y :: ys)) : a xs.length = y :=
  stores xs.length y (by simp)

lemma congr (stores : Stores a xs) (same : ∀ i < xs.length, b i = a i) : Stores b xs := by
  intro i x mem
  rw [same i (List.getElem?_eq_some_iff.mp mem).1]
  exact stores i x mem

lemma set (stores : Stores a (xs ++ y :: ys)) (z : α) :
    Stores (update a xs.length z) (xs ++ z :: ys) := by
  intro i x mem
  by_cases at_ : i = xs.length
  · subst at_
    simpa using mem
  · rw [update_of_ne at_]
    refine stores i x ?_
    rcases lt_or_gt_of_ne at_ with before | behind
    · rw [getElem?_append_left before] at mem ⊢
      exact mem
    · rw [getElem?_append_right behind.le] at mem ⊢
      obtain ⟨k, eq⟩ := Nat.exists_eq_add_of_lt behind
      have index : i - xs.length = k + 1 := by omega
      rw [index, getElem?_cons_succ] at mem ⊢
      exact mem

lemma insert (stores : Stores a (xs ++ ys)) {n : ℕ} (le : xs.length + ys.length ≤ n) (x : α) :
    Stores (update (movedUp xs.length n a) xs.length x) (xs ++ x :: ys) := by
  intro i y mem
  rcases Nat.lt_trichotomy i xs.length with before | at_ | behind
  · rw [update_of_ne before.ne, movedUp, if_neg (by omega)]
    rw [getElem?_append_left before] at mem
    exact stores i y (by rw [getElem?_append_left before, mem])
  · subst at_
    simpa using mem
  · obtain ⟨k, rfl⟩ := Nat.exists_eq_add_of_lt behind
    have inside : k < ys.length := by
      have := (List.getElem?_eq_some_iff.mp mem).1
      rw [length_append, length_cons] at this
      omega
    rw [update_of_ne behind.ne', movedUp, if_pos (by omega), Nat.add_sub_cancel]
    refine stores _ y ?_
    rw [getElem?_append_right (by omega), Nat.add_sub_cancel_left]
    rw [getElem?_append_right (by omega)] at mem
    have index : xs.length + k + 1 - xs.length = k + 1 := by omega
    rw [index, getElem?_cons_succ] at mem
    exact mem

lemma erase (stores : Stores a (xs ++ y :: ys)) {count : ℕ} (le : ys.length ≤ count) :
    Stores (movedDown count xs.length a) (xs ++ ys) := by
  intro i x mem
  have inside : i < xs.length + ys.length := by
    have := (List.getElem?_eq_some_iff.mp mem).1
    rwa [length_append] at this
  by_cases before : i < xs.length
  · rw [movedDown, if_neg (by omega)]
    rw [getElem?_append_left before] at mem
    exact stores i x (by rw [getElem?_append_left before, mem])
  · rw [movedDown, if_pos (by omega)]
    rw [getElem?_append_right (by omega)] at mem
    refine stores (i + 1) x ?_
    have index : i + 1 - xs.length = i - xs.length + 1 := by omega
    rw [getElem?_append_right (by omega), index, getElem?_cons_succ, mem]

lemma dropFront (stores : Stores a (xs ++ ys)) :
    Stores (movedFront xs.length ys.length a) ys := by
  intro i x mem
  rw [movedFront, if_pos (List.getElem?_eq_some_iff.mp mem).1]
  refine stores (i + xs.length) x ?_
  rw [getElem?_append_right (by omega), Nat.add_sub_cancel, mem]

end Stores

end Inet
