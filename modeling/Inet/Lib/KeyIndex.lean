import Mathlib.Algebra.BigOperators.Group.Finset.Piecewise

/-!
# Objects indexed by a key

A heap of objects that can change their keys, an index from keys to objects, and how many objects
pass a test. `Indexes`: the index leads to an object exactly under its current key. Each change of
the heap has a change of the index that keeps this.
-/

namespace Inet

open Function Finset

variable {P V K : Type}

/-- The index leads to an object exactly under the key the object has now. -/
def Indexes (index : K → Option P) (heap : P → Option V) (key : V → K) : Prop :=
  ∀ k p, index k = some p ↔ ∃ v, heap p = some v ∧ key v = k

variable {index : K → Option P} {heap : P → Option V} {key : V → K} {p q : P} {v v' : V}

namespace Indexes

lemma empty : Indexes (fun _ => none) (fun _ : P => none) key := by
  intro k p
  constructor
  · intro found
    cases found
  · rintro ⟨v, live, -⟩
    cases live

variable (indexes : Indexes index heap key)
include indexes

lemma find (live : heap p = some v) : index (key v) = some p :=
  (indexes (key v) p).mpr ⟨v, live, rfl⟩

variable [DecidableEq P] [DecidableEq K]

lemma insert (v : V) (new : heap p = none) (free : index (key v) = none) :
    Indexes (update index (key v) (some p)) (update heap p (some v)) key := by
  intro k q
  by_cases at_ : q = p
  · subst at_
    rw [update_self]
    constructor
    · intro found
      by_cases same : k = key v
      · exact ⟨v, rfl, same.symm⟩
      · rw [update_of_ne same, indexes k q] at found
        obtain ⟨w, live, -⟩ := found
        rw [new] at live
        cases live
    · rintro ⟨w, live, rfl⟩
      cases live
      rw [update_self]
  · rw [update_of_ne at_, ← indexes k q]
    by_cases same : k = key v
    · subst same
      rw [update_self, free]
      constructor
      · intro found
        cases found
        exact absurd rfl at_
      · intro found
        cases found
    · rw [update_of_ne same]

lemma remove (live : heap p = some v) :
    Indexes (update index (key v) none) (update heap p none) key := by
  intro k q
  by_cases at_ : q = p
  · subst at_
    rw [update_self]
    constructor
    · intro found
      by_cases same : k = key v
      · subst same
        rw [update_self] at found
        cases found
      · rw [update_of_ne same, indexes k q] at found
        obtain ⟨w, live', rfl⟩ := found
        rw [live] at live'
        cases live'
        exact absurd rfl same
    · rintro ⟨w, gone, -⟩
      cases gone
  · rw [update_of_ne at_, ← indexes k q]
    by_cases same : k = key v
    · subst same
      rw [update_self, indexes.find live]
      constructor
      · intro found
        cases found
      · intro found
        cases found
        exact absurd rfl at_
    · rw [update_of_ne same]

lemma rekey (live : heap p = some v) (v' : V)
    (free : index (key v') = none ∨ index (key v') = some p) :
    Indexes (update (update index (key v) none) (key v') (some p))
      (update heap p (some v')) key := by
  have removed := indexes.remove live
  have inserted := removed.insert v' (update_self ..) ?_
  · rw [update_idem] at inserted
    exact inserted
  · by_cases same : key v' = key v
    · rw [same, update_self]
    · rw [update_of_ne same]
      rcases free with free | own
      · exact free
      · obtain ⟨w, live', keyed⟩ := (indexes _ p).mp own
        rw [live] at live'
        cases live'
        exact absurd keyed.symm same

lemma write (live : heap p = some v) (v' : V)
    (same : key v' = key v) : Indexes index (update heap p (some v')) key := by
  have rekeyed := indexes.rekey live v' (.inr (by rw [same]; exact indexes.find live))
  rw [same, update_idem, ← indexes.find live, update_eq_self] at rekeyed
  exact rekeyed

end Indexes

/-- How many of the first `n` objects pass the test. -/
def tally (heap : ℕ → Option V) (n : ℕ) (test : V → Bool) : ℕ :=
  ∑ p ∈ Finset.range n, ((heap p).any test).toNat

variable {heap : ℕ → Option V} {n p : ℕ} {test : V → Bool}

lemma tally_update (heap : ℕ → Option V) (test : V → Bool) (below : p < n) (v : Option V) :
    tally (update heap p v) n test + ((heap p).any test).toNat =
      tally heap n test + (v.any test).toNat := by
  have mem : p ∈ Finset.range n := mem_range.mpr below
  unfold tally
  have others : ∑ q ∈ Finset.range n \ {p}, ((update heap p v q).any test).toNat =
      ∑ q ∈ Finset.range n \ {p}, ((heap q).any test).toNat := by
    apply sum_congr rfl
    intro q memq
    have apart : q ≠ p := fun same => (mem_sdiff.mp memq).2 (mem_singleton.mpr same)
    rw [update_of_ne apart]
  rw [sum_eq_add_sum_sdiff_singleton_of_mem mem,
    sum_eq_add_sum_sdiff_singleton_of_mem mem (f := fun q => ((heap q).any test).toNat),
    others, update_self]
  omega

lemma tally_write {v v' : V} (below : p < n) (live : heap p = some v) (same : test v' = test v) :
    tally (update heap p (some v')) n test = tally heap n test := by
  have counted := tally_update heap test below (some v')
  rw [live, Option.any_some, Option.any_some, same] at counted
  exact Nat.add_right_cancel counted

lemma tally_remove {v : V} (below : p < n) (live : heap p = some v) :
    tally (update heap p none) n test = tally heap n test - (test v).toNat := by
  have counted := tally_update heap test below none
  rw [live, Option.any_some, Option.any_none] at counted
  exact Nat.eq_sub_of_add_eq counted

lemma tally_insert (new : heap n = none) (v : V) :
    tally (update heap n (some v)) (n + 1) test = tally heap n test + (test v).toNat := by
  have before : tally heap (n + 1) test = tally heap n test := by
    unfold tally
    rw [sum_range_succ, new]
    rfl
  have counted := tally_update heap test (Nat.lt_succ_self n) (some v)
  rw [new, Option.any_none, Option.any_some, before] at counted
  exact counted

end Inet
