import Mathlib

/-!
# Tables with one entry for each key

An item whose key is new is appended as an entry, and one whose key is known changes its entry.
`Gathers`: the table has one entry for each key of the items so far, which fits the items of that
key. `Least` is such a fit: the least cost, with everything that the items of that cost give.
-/

namespace Inet

open List

section

variable {A H C : Type*} [LinearOrder C] (cost : A → C) (gives : A → List H)

structure Least (items : List A) (c : C) (hs : List H) : Prop where
  attained : ∃ a ∈ items, cost a = c
  least : ∀ a ∈ items, c ≤ cost a
  given : ∀ h, h ∈ hs ↔ ∃ a ∈ items, cost a = c ∧ h ∈ gives a

variable {cost gives} {items : List A} {a : A} {c : C} {hs : List H}

lemma Least.single : Least cost gives [a] (cost a) (gives a) where
  attained := ⟨a, mem_singleton_self a, rfl⟩
  least b mem := (congrArg cost (mem_singleton.mp mem)).ge
  given h := by simp

lemma Least.keep (least : Least cost gives items c hs) (more : c < cost a) :
    Least cost gives (items ++ [a]) c hs where
  attained := by
    obtain ⟨b, mem, eq⟩ := least.attained
    exact ⟨b, mem_append_left _ mem, eq⟩
  least b mem := by
    rcases mem_append.mp mem with old | new
    · exact least.least b old
    · rw [mem_singleton.mp new]
      exact more.le
  given h := by
    rw [least.given]
    constructor
    · rintro ⟨b, mem, here⟩
      exact ⟨b, mem_append_left _ mem, here⟩
    · rintro ⟨b, mem, eq, here⟩
      rcases mem_append.mp mem with old | new
      · exact ⟨b, old, eq, here⟩
      · rw [mem_singleton.mp new] at eq
        exact absurd eq more.ne'

lemma Least.replace (least : Least cost gives items c hs) (less : cost a < c) :
    Least cost gives (items ++ [a]) (cost a) (gives a) where
  attained := ⟨a, by simp, rfl⟩
  least b mem := by
    rcases mem_append.mp mem with old | new
    · exact less.le.trans (least.least b old)
    · exact (congrArg cost (mem_singleton.mp new)).ge
  given h := by
    constructor
    · intro here
      exact ⟨a, by simp, rfl, here⟩
    · rintro ⟨b, mem, eq, here⟩
      rcases mem_append.mp mem with old | new
      · have le := least.least b old
        rw [eq] at le
        exact absurd le less.not_ge
      · rwa [mem_singleton.mp new] at here

lemma Least.join (least : Least cost gives items c hs) (same : cost a = c) :
    Least cost gives (items ++ [a]) c (hs ++ gives a) where
  attained := ⟨a, by simp, same⟩
  least b mem := by
    rcases mem_append.mp mem with old | new
    · exact least.least b old
    · exact (same.symm.trans (congrArg cost (mem_singleton.mp new)).symm).le
  given h := by
    rw [mem_append, least.given]
    constructor
    · rintro (⟨b, mem, eq, here⟩ | here)
      · exact ⟨b, mem_append_left _ mem, eq, here⟩
      · exact ⟨a, by simp, same, here⟩
    · rintro ⟨b, mem, eq, here⟩
      rcases mem_append.mp mem with old | new
      · exact .inl ⟨b, old, eq, here⟩
      · rw [mem_singleton.mp new] at here
        exact .inr here

end

/-! ## One entry for each key -/

section

variable {A E K : Type*} [DecidableEq K] (itemKey : A → K) (key : E → Option K)
  (Fits : List A → E → Prop)

structure Gathers (items : List A) (table : List E) : Prop where
  nodup : (table.filterMap key).Nodup
  keys : ∀ k, k ∈ table.filterMap key ↔ k ∈ items.map itemKey
  fits : ∀ e ∈ table, ∀ k, key e = some k → Fits (items.filter fun a => itemKey a = k) e

variable {itemKey key Fits} {items : List A} {t pre post : List E} {a : A} {e e' : E}

namespace Gathers

lemma nil : Gathers itemKey key Fits [] [] where
  nodup := nodup_nil
  keys _ := Iff.rfl
  fits := nofun

lemma filter_append_of_ne {k : K} (ne : itemKey a ≠ k) :
    (items ++ [a]).filter (fun b => itemKey b = k) = items.filter fun b => itemKey b = k := by
  simp [filter_append, ne]

lemma filter_append_self : (items ++ [a]).filter (fun b => itemKey b = itemKey a) =
    (items.filter fun b => itemKey b = itemKey a) ++ [a] := by
  simp [filter_append]

lemma ignore (gathers : Gathers itemKey key Fits items t) (noKey : key e = none) :
    Gathers itemKey key Fits items (t ++ [e]) := by
  have same : (t ++ [e]).filterMap key = t.filterMap key := by
    simp [filterMap_append, noKey]
  constructor
  · rw [same]
    exact gathers.nodup
  · rw [same]
    exact gathers.keys
  · intro x mem k isKey
    rcases mem_append.mp mem with old | new
    · exact gathers.fits x old k isKey
    · rw [mem_singleton.mp new, noKey] at isKey
      cases isKey

lemma insert (gathers : Gathers itemKey key Fits items t)
    (fresh : itemKey a ∉ items.map itemKey) (isKey : key e = some (itemKey a)) (fits : Fits [a] e) :
    Gathers itemKey key Fits (items ++ [a]) (t ++ [e]) := by
  have more : (t ++ [e]).filterMap key = t.filterMap key ++ [itemKey a] := by
    simp [filterMap_append, isKey]
  constructor
  · rw [more]
    refine List.Nodup.append gathers.nodup (nodup_singleton _) ?_
    intro k mem eq
    rw [mem_singleton.mp eq, gathers.keys] at mem
    exact fresh mem
  · intro k
    rw [more, mem_append, gathers.keys, map_append, mem_append]
    rfl
  · intro x mem k xKey
    rcases mem_append.mp mem with old | new
    · have known : k ∈ t.filterMap key := mem_filterMap.mpr ⟨x, old, xKey⟩
      have ne : itemKey a ≠ k := by
        rintro rfl
        exact fresh ((gathers.keys _).mp known)
      rw [filter_append_of_ne ne]
      exact gathers.fits x old k xKey
    · rw [mem_singleton.mp new] at xKey ⊢
      rw [isKey] at xKey
      obtain rfl := Option.some.inj xKey
      have empty : items.filter (fun b => itemKey b = itemKey a) = [] := by
        rw [filter_eq_nil_iff]
        intro b bMem same
        rw [decide_eq_true_eq] at same
        exact fresh (same ▸ mem_map_of_mem bMem)
      rw [filter_append_self, empty]
      exact fits

lemma update (gathers : Gathers itemKey key Fits items (pre ++ e :: post))
    (isKey : key e = some (itemKey a)) (sameKey : key e' = key e)
    (fits : Fits ((items.filter fun b => itemKey b = itemKey a) ++ [a]) e') :
    Gathers itemKey key Fits (items ++ [a]) (pre ++ e' :: post) := by
  have same : (pre ++ e' :: post).filterMap key = (pre ++ e :: post).filterMap key := by
    rw [filterMap_append, filterMap_append, filterMap_cons, filterMap_cons, sameKey]
  have known : itemKey a ∈ items.map itemKey := by
    rw [← gathers.keys, mem_filterMap]
    exact ⟨e, by simp, isKey⟩
  constructor
  · rw [same]
    exact gathers.nodup
  · intro k
    rw [same, gathers.keys, map_append, mem_append]
    constructor
    · exact Or.inl
    · rintro (old | new)
      · exact old
      · rw [mem_singleton.mp new]
        exact known
  · have nodup := gathers.nodup
    rw [filterMap_append, filterMap_cons_some isKey] at nodup
    obtain ⟨-, tail, apart⟩ := nodup_append.mp nodup
    have others : ∀ x, x ∈ pre ∨ x ∈ post → key x ≠ some (itemKey a) := by
      rintro x (before | after) xKey
      · exact apart _ (mem_filterMap.mpr ⟨x, before, xKey⟩) _ mem_cons_self rfl
      · exact (nodup_cons.mp tail).1 (mem_filterMap.mpr ⟨x, after, xKey⟩)
    have unchanged : ∀ x, x ∈ pre ∨ x ∈ post → ∀ k, key x = some k →
        Fits ((items ++ [a]).filter fun b => itemKey b = k) x := by
      intro x mem k xKey
      have ne : itemKey a ≠ k := by
        rintro rfl
        exact others x mem xKey
      rw [filter_append_of_ne ne]
      refine gathers.fits x ?_ k xKey
      rw [mem_append, mem_cons]
      exact mem.imp_right Or.inr
    intro x mem k xKey
    rcases mem_append.mp mem with before | here
    · exact unchanged x (.inl before) k xKey
    · rcases mem_cons.mp here with rfl | after
      · rw [sameKey, isKey] at xKey
        obtain rfl := Option.some.inj xKey
        rw [filter_append_self]
        exact fits
      · exact unchanged x (.inr after) k xKey

end Gathers

end

end Inet
