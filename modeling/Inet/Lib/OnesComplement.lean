import Mathlib.Algebra.Order.Ring.Nat
import Mathlib.Data.UInt

/-!
# One's complement sums

Sums of 16 bit words with an end-around carry. They are residues modulo 65535, and zero is either of
two words (`Same`).
-/

namespace Inet.OnesComplement

/-- Two numbers stand for one word: only zero itself is the word of zeros. -/
def Same (a b : ℕ) : Prop := a % 65535 = b % 65535 ∧ (a = 0 ↔ b = 0)

section

variable {a b c d : ℕ}

lemma Same.rfl : Same a a := ⟨Eq.refl _, Iff.refl _⟩

lemma Same.symm (same : Same a b) : Same b a := ⟨same.1.symm, same.2.symm⟩

lemma Same.trans (first : Same a b) (second : Same b c) : Same a c :=
  ⟨first.1.trans second.1, first.2.trans second.2⟩

lemma Same.add (first : Same a b) (second : Same c d) : Same (a + c) (b + d) := by
  obtain ⟨mod, zero⟩ := first
  obtain ⟨mod', zero'⟩ := second
  exact ⟨by omega, by omega⟩

lemma Same.mul (same : Same a b) : Same (256 * a) (256 * b) := by
  obtain ⟨mod, zero⟩ := same
  exact ⟨by omega, by omega⟩

lemma Same.eq {v w : UInt16} (same : Same v.toNat w.toNat) : v = w := by
  obtain ⟨mod, zero⟩ := same
  have lt := v.toNat_lt
  have lt' := w.toNat_lt
  exact UInt16.toNat_inj.mp (by omega)

end

/-- The sum of two words, with the carry added at the other end. -/
def add (v w : UInt16) : UInt16 := v + w + if 65536 ≤ v.toNat + w.toNat then 1 else 0

def sum (words : List UInt16) : UInt16 := words.foldr add 0

/-- The sum of the words as numbers. -/
def total (words : List UInt16) : ℕ := (words.map UInt16.toNat).sum

@[simp]
lemma total_nil : total [] = 0 := Eq.refl _

@[simp]
lemma total_cons (w : UInt16) (words : List UInt16) :
    total (w :: words) = w.toNat + total words := List.sum_cons

@[simp]
lemma total_append (words more : List UInt16) :
    total (words ++ more) = total words + total more := by
  rw [total, List.map_append, List.sum_append]
  exact Eq.refl _

lemma same_add (v w : UInt16) : Same (add v w).toNat (v.toNat + w.toNat) := by
  have lt := v.toNat_lt
  have lt' := w.toNat_lt
  have one : (1 : UInt16).toNat = 1 := Eq.refl _
  have zero : (0 : UInt16).toNat = 0 := Eq.refl _
  rw [add]
  split_ifs with carry
  · rw [UInt16.toNat_add, UInt16.toNat_add, one]
    exact ⟨by omega, by omega⟩
  · rw [UInt16.toNat_add, UInt16.toNat_add, zero]
    exact ⟨by omega, by omega⟩

lemma same_sum (words : List UInt16) : Same (sum words).toNat (total words) := by
  induction words with
  | nil => exact .rfl
  | cons w words ih =>
    exact (same_add w (sum words)).trans (Same.rfl.add ih)

lemma total_set {words : List UInt16} {i : ℕ} (lt : i < words.length) (w : UInt16) :
    total (words.set i w) + words[i].toNat = total words + w.toNat := by
  induction words generalizing i with
  | nil => cases lt
  | cons v words ih =>
    cases i with
    | zero =>
      rw [List.set_cons_zero, total_cons, total_cons, List.getElem_cons_zero]
      omega
    | succ i =>
      have rest := ih (Nat.lt_of_succ_lt_succ lt)
      rw [List.set_cons_succ, total_cons, total_cons, List.getElem_cons_succ]
      omega

lemma sum_set_ne {words : List UInt16} {i : ℕ} (lt : i < words.length) {w : UInt16}
    (other : w.toNat % 65535 ≠ words[i].toNat % 65535) : sum (words.set i w) ≠ sum words := by
  intro eq
  have changed := (same_sum (words.set i w)).1
  rw [eq, (same_sum words).1] at changed
  have set := total_set lt w
  omega

lemma sum_complement {words words' : List UInt16}
    (more : total words' = total words + (~~~sum words).toNat) : sum words' = 0xFFFF := by
  have same := same_sum words
  have lt := (sum words).toNat_lt
  have not : (~~~sum words).toNat = 65535 - (sum words).toNat := UInt16.toNat_not _
  refine Same.eq ((same_sum words').trans ?_)
  have full : (0xFFFF : UInt16).toNat = 65535 := Eq.refl _
  obtain ⟨mod, zero⟩ := same
  exact ⟨by omega, by omega⟩

end Inet.OnesComplement
