import Mathlib.Data.List.Nodup

/-!
# Lists of what is to be acknowledged

A sender keeps what it has sent in a list with one item for each key (`putByKey`). `awaited` is what
the receiver still owes an answer for, whatever the sender does with its list; `Outbox` says that
the list has all of it.
-/

namespace Inet

open List

section

variable {A K : Type*} (key : A → K)

structure Outbox (queued awaited : List A) : Prop where
  nodup : (queued.map key).Nodup
  kept : awaited ⊆ queued

variable {key} {x y : A} {queued awaited : List A}

namespace Outbox

lemma empty : Outbox key ([] : List A) [] := ⟨nodup_nil, List.Subset.refl _⟩

lemma forget (outbox : Outbox key queued awaited) (p : A → Bool) :
    Outbox key queued (awaited.filter p) :=
  ⟨outbox.nodup, List.Subset.trans (filter_subset_self awaited) outbox.kept⟩

lemma eq_of_key (outbox : Outbox key queued awaited) (xMem : x ∈ queued)
    (yMem : y ∈ queued) (same : key x = key y) : x = y :=
  inj_on_of_nodup_map outbox.nodup xMem yMem same

end Outbox

end

variable {A K : Type*} [DecidableEq K] (key : A → K)

/-- The item replaces the one with its key, or is added at the end. -/
def putByKey (a : A) : List A → List A
  | [] => [a]
  | x :: xs => if key x = key a then a :: xs else x :: putByKey a xs

/-- The items with another key. -/
def dropKey (k : K) (xs : List A) : List A := xs.filter fun x => key x ≠ k

variable {key} {a x : A} {k : K} {xs queued awaited : List A}

lemma mem_putByKey_self : a ∈ putByKey key a xs := by
  induction xs with
  | nil => exact mem_singleton_self a
  | cons x xs ih =>
    rw [putByKey]
    split_ifs
    · exact mem_cons_self
    · exact mem_cons_of_mem x ih

lemma mem_putByKey_of_ne (mem : x ∈ xs) (ne : key x ≠ key a) : x ∈ putByKey key a xs := by
  induction xs with
  | nil => cases mem
  | cons y xs ih =>
    rw [putByKey]
    rcases mem_cons.mp mem with rfl | mem
    · rw [if_neg ne]
      exact mem_cons_self
    · split_ifs
      · exact mem_cons_of_mem a mem
      · exact mem_cons_of_mem y (ih mem)

lemma of_mem_putByKey (mem : x ∈ putByKey key a xs) : x = a ∨ x ∈ xs := by
  induction xs with
  | nil => exact .inl (mem_singleton.mp mem)
  | cons y xs ih =>
    rw [putByKey] at mem
    split_ifs at mem
    · exact (mem_cons.mp mem).imp_right (mem_cons_of_mem y)
    · rcases mem_cons.mp mem with rfl | mem
      · exact .inr mem_cons_self
      · exact (ih mem).imp_right (mem_cons_of_mem y)

lemma putByKey_nodup (nodup : (xs.map key).Nodup) : ((putByKey key a xs).map key).Nodup := by
  induction xs with
  | nil => exact nodup_singleton _
  | cons y xs ih =>
    rw [map_cons, nodup_cons] at nodup
    rw [putByKey]
    split_ifs with same
    · rw [map_cons, nodup_cons, ← same]
      exact nodup
    · rw [map_cons, nodup_cons]
      refine ⟨?_, ih nodup.2⟩
      intro known
      obtain ⟨x, mem, eq⟩ := mem_map.mp known
      rcases of_mem_putByKey mem with rfl | mem
      · exact same eq.symm
      · exact nodup.1 (eq ▸ mem_map_of_mem mem)

lemma mem_dropKey : x ∈ dropKey key k xs ↔ x ∈ xs ∧ key x ≠ k := by
  rw [dropKey, mem_filter, decide_eq_true_eq]

lemma dropKey_eq_self (absent : ∀ x ∈ xs, key x ≠ k) : dropKey key k xs = xs := by
  rw [dropKey, filter_eq_self]
  intro x mem
  exact decide_eq_true (absent x mem)

namespace Outbox

lemma put (outbox : Outbox key queued awaited) {superseded : A → Bool}
    (older : ∀ x ∈ queued, key x = key a → superseded x = true) :
    Outbox key (putByKey key a queued) ((awaited.filter fun x => !superseded x) ++ [a]) where
  nodup := putByKey_nodup outbox.nodup
  kept := by
    intro x mem
    rcases mem_append.mp mem with old | new
    · obtain ⟨wasAwaited, notSuperseded⟩ := mem_filter.mp old
      have queuedBefore := outbox.kept wasAwaited
      refine mem_putByKey_of_ne queuedBefore ?_
      intro same
      rw [older x queuedBefore same] at notSuperseded
      cases notSuperseded
    · rw [mem_singleton.mp new]
      exact mem_putByKey_self

lemma drop (outbox : Outbox key queued awaited)
    (answered : ∀ x ∈ queued, key x = k → x ∉ awaited) :
    Outbox key (dropKey key k queued) awaited where
  nodup := outbox.nodup.sublist (filter_sublist.map key)
  kept := by
    intro x mem
    have queuedBefore := outbox.kept mem
    refine mem_dropKey.mpr ⟨queuedBefore, ?_⟩
    intro same
    exact answered x queuedBefore same mem

end Outbox

end Inet
