import Mathlib.Data.Int.Basic
import Mathlib.Data.List.Basic

/-!
# Slices of a numbered stream

`slice B lo hi` lists the items of `B` at the positions `[lo, hi)`; `writeAt` is the overwriting
copy into a buffer.
-/

namespace Inet

variable {β : Type*}

/-- The items of `B` at positions `lo, …, hi - 1`. -/
def slice (B : ℕ → β) (lo hi : ℕ) : List β := (List.range' lo (hi - lo)).map B

@[simp] lemma length_slice (B : ℕ → β) (lo hi : ℕ) : (slice B lo hi).length = hi - lo := by
  simp [slice]

@[simp] lemma slice_self (B : ℕ → β) (lo : ℕ) : slice B lo lo = [] := by
  simp [slice]

lemma slice_append {B : ℕ → β} {lo mid hi : ℕ} (left : lo ≤ mid) (right : mid ≤ hi) :
    slice B lo mid ++ slice B mid hi = slice B lo hi := by
  rw [slice, slice, ← List.map_append, slice]
  obtain ⟨a, rfl⟩ := Nat.exists_eq_add_of_le left
  obtain ⟨b, rfl⟩ := Nat.exists_eq_add_of_le right
  rw [Nat.add_sub_cancel_left, Nat.add_sub_cancel_left, Nat.add_assoc, Nat.add_sub_cancel_left,
    ← List.range'_append_1]

lemma take_slice {B : ℕ → β} {lo mid hi n : ℕ} (eq : lo + n = mid) (le : mid ≤ hi) :
    (slice B lo hi).take n = slice B lo mid := by
  rw [← slice_append (by omega : lo ≤ mid) le]
  exact List.take_left' (by rw [length_slice]; omega)

lemma drop_slice {B : ℕ → β} {lo mid hi n : ℕ} (eq : lo + n = mid) (le : mid ≤ hi) :
    (slice B lo hi).drop n = slice B mid hi := by
  rw [← slice_append (by omega : lo ≤ mid) le]
  exact List.drop_left' (by rw [length_slice]; omega)

/-- Copy `source` over the items of `buffer` from `offset` on; `none` when that
reaches outside the buffer. -/
def writeAt (buffer : List β) (offset : ℤ) (source : List β) : Option (List β) :=
  if source.length = 0 then some buffer
  else if 0 ≤ offset ∧ offset + source.length ≤ buffer.length then
    some (buffer.take offset.toNat ++ source ++ buffer.drop (offset.toNat + source.length))
  else none

lemma writeAt_middle {left middle right source : List β} {offset : ℤ}
    (atLeft : offset = left.length) (fits : source.length = middle.length) :
    writeAt (left ++ middle ++ right) offset source = some (left ++ source ++ right) := by
  subst atLeft
  simp only [writeAt]
  split_ifs with none inside
  · rw [List.length_eq_zero_iff.mp none, List.length_eq_zero_iff.mp (fits.symm.trans none)]
  · have front : (left ++ middle ++ right).take left.length = left := by
      rw [List.append_assoc, List.take_left]
    have back : (left ++ middle ++ right).drop (left.length + source.length) = right := by
      rw [fits, ← List.length_append, List.drop_left]
    rw [Int.toNat_natCast, front, back]
  · simp only [List.length_append] at inside
    omega

end Inet
