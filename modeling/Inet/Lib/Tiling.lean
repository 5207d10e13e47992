import Mathlib.Order.Nat
import Mathlib.Data.Set.Insert
import Mathlib.Tactic.Common

/-!
# Tilings of an interval

A list of items, each occupying a half-open interval, tiles `[a, b)` when they follow one another
without gap or overlap. `Assembled`: the items arrived so far fill `[a, m)` and `m` does not cut
through an item; provided the item at `m` has not arrived, `m` is the end exactly when all have.
-/

namespace Inet

variable {α : Type*}

/-- The items follow one another from `a` to `b`, none of them empty. -/
def Tiles {ι : Type*} [LT ι] (lo hi : α → ι) : ι → List α → ι → Prop
  | a, [], b => a = b
  | a, x :: xs, b => lo x = a ∧ lo x < hi x ∧ Tiles lo hi (hi x) xs b

lemma Tiles.embed {ι κ : Type*} [LT ι] [LT κ] {lo hi : α → ι} {lo' hi' : α → κ} {f : ι → κ}
    {a b : ι} {xs : List α} (tiles : Tiles lo hi a xs b) (mono : ∀ i j, i < j → f i < f j)
    (loEq : ∀ x ∈ xs, lo' x = f (lo x)) (hiEq : ∀ x ∈ xs, hi' x = f (hi x)) :
    Tiles lo' hi' (f a) xs (f b) := by
  induction xs generalizing a with
  | nil =>
    obtain rfl : a = b := tiles
    rfl
  | cons x xs ih =>
    obtain ⟨rfl, lt, rest⟩ := tiles
    have xLo := loEq x List.mem_cons_self
    have xHi := hiEq x List.mem_cons_self
    refine ⟨xLo, by rw [xLo, xHi]; exact mono _ _ lt, ?_⟩
    rw [xHi]
    exact ih rest (fun y mem => loEq y (List.mem_cons_of_mem _ mem))
      (fun y mem => hiEq y (List.mem_cons_of_mem _ mem))

lemma Tiles.of_cast {lo hi : α → ℕ} {a b : ℕ} {xs : List α}
    (tiles : Tiles (fun x => (lo x : ℤ)) (fun x => (hi x : ℤ)) a xs b) : Tiles lo hi a xs b := by
  induction xs generalizing a with
  | nil => exact Int.ofNat.inj tiles
  | cons x xs ih =>
    obtain ⟨eq, lt, rest⟩ := tiles
    exact ⟨Int.ofNat.inj eq, Int.ofNat_lt.mp lt, ih rest⟩

variable {lo hi : α → ℕ} {a b c m : ℕ} {x y : α} {xs ys : List α}

namespace Tiles

lemma append (left : Tiles lo hi a xs b) (right : Tiles lo hi b ys c) :
    Tiles lo hi a (xs ++ ys) c := by
  induction xs generalizing a with
  | nil =>
    obtain rfl : a = b := left
    exact right
  | cons x xs ih => exact ⟨left.1, left.2.1, ih left.2.2⟩

variable (tiles : Tiles lo hi a xs b)
include tiles

lemma le : a ≤ b := by
  induction xs generalizing a with
  | nil => exact tiles.le
  | cons x xs ih => exact tiles.1 ▸ tiles.2.1.le.trans (ih tiles.2.2)

lemma le_lo (mem : x ∈ xs) : a ≤ lo x := by
  induction xs generalizing a with
  | nil => cases mem
  | cons y xs ih =>
    obtain ⟨rfl, lt, rest⟩ := tiles
    rcases List.mem_cons.mp mem with rfl | mem
    · exact le_rfl
    · exact lt.le.trans (ih rest mem)

lemma lo_lt_hi (mem : x ∈ xs) : lo x < hi x := by
  induction xs generalizing a with
  | nil => cases mem
  | cons y xs ih =>
    rcases List.mem_cons.mp mem with rfl | mem
    · exact tiles.2.1
    · exact ih tiles.2.2 mem

lemma hi_le (mem : x ∈ xs) : hi x ≤ b := by
  induction xs generalizing a with
  | nil => cases mem
  | cons y xs ih =>
    rcases List.mem_cons.mp mem with rfl | mem
    · exact tiles.2.2.le
    · exact ih tiles.2.2 mem

lemma eq_or_disjoint (xMem : x ∈ xs) (yMem : y ∈ xs) : x = y ∨ hi x ≤ lo y ∨ hi y ≤ lo x := by
  induction xs generalizing a with
  | nil => cases xMem
  | cons z xs ih =>
    have rest := tiles.2.2
    rcases List.mem_cons.mp xMem with rfl | xIn <;> rcases List.mem_cons.mp yMem with rfl | yIn
    · exact .inl rfl
    · exact .inr (.inl (rest.le_lo yIn))
    · exact .inr (.inr (rest.le_lo xIn))
    · exact ih rest xIn yIn

/-- Every position that cuts through no item, short of the end, is where an item starts. -/
lemma exists_lo_eq (uncut : ∀ x ∈ xs, hi x ≤ m ∨ m ≤ lo x) (ge : a ≤ m)
    (lt : m < b) : ∃ x ∈ xs, lo x = m := by
  induction xs generalizing a with
  | nil =>
    obtain rfl : a = b := tiles
    omega
  | cons x xs ih =>
    obtain ⟨rfl, nonempty, rest⟩ := tiles
    rcases uncut x List.mem_cons_self with past | before
    · obtain ⟨y, mem, eq⟩ := ih rest (fun y mem => uncut y (List.mem_cons_of_mem _ mem)) past
      exact ⟨y, List.mem_cons_of_mem _ mem, eq⟩
    · exact ⟨x, List.mem_cons_self, le_antisymm ge before⟩

end Tiles

variable (lo hi) in
/-- Of the items `xs`, those that end by `m` have arrived, and `m` cuts through none. -/
structure Assembled (xs : List α) (arrived : Set α) (m : ℕ) : Prop where
  uncut : ∀ x ∈ xs, hi x ≤ m ∨ m ≤ lo x
  arrived_of_hi_le : ∀ x ∈ xs, hi x ≤ m → x ∈ arrived

namespace Assembled

variable {arrived arrived' : Set α}

lemma start (tiles : Tiles lo hi a xs b) : Assembled lo hi xs ∅ a where
  uncut _ mem := .inr (tiles.le_lo mem)
  arrived_of_hi_le _ mem le :=
    absurd (tiles.lo_lt_hi mem) (not_lt.mpr (le.trans (tiles.le_lo mem)))

lemma mono (filled : Assembled lo hi xs arrived m) (sub : arrived ⊆ arrived') :
    Assembled lo hi xs arrived' m where
  uncut := filled.uncut
  arrived_of_hi_le x mem le := sub (filled.arrived_of_hi_le x mem le)

/-- The item that starts where the assembled part ends extends it. -/
lemma grow (filled : Assembled lo hi xs arrived m) (tiles : Tiles lo hi a xs b) (mem : x ∈ xs)
    (here : x ∈ arrived) (next : lo x = m) : Assembled lo hi xs arrived (hi x) where
  uncut y yMem := by
    rcases tiles.eq_or_disjoint mem yMem with rfl | apart | apart
    · exact .inl le_rfl
    · exact .inr apart
    · exact .inl (apart.trans (tiles.lo_lt_hi mem).le)
  arrived_of_hi_le y yMem le := by
    have yLt := tiles.lo_lt_hi yMem
    rcases tiles.eq_or_disjoint mem yMem with rfl | apart | apart
    · exact here
    · omega
    · exact filled.arrived_of_hi_le y yMem (next ▸ apart)

/-- The assembled part reaches the end exactly when every item has arrived, once the
item that would extend it has not. -/
lemma eq_end_iff (filled : Assembled lo hi xs arrived m) (tiles : Tiles lo hi a xs b)
    (ge : a ≤ m) (le : m ≤ b) (waits : ∀ x ∈ xs, lo x = m → x ∉ arrived) :
    m = b ↔ ∀ x ∈ xs, x ∈ arrived := by
  constructor
  · rintro rfl x mem
    exact filled.arrived_of_hi_le x mem (tiles.hi_le mem)
  · intro all
    by_contra short
    obtain ⟨x, mem, next⟩ := tiles.exists_lo_eq filled.uncut ge (lt_of_le_of_ne le short)
    exact waits x mem next (all x mem)

end Assembled

end Inet
