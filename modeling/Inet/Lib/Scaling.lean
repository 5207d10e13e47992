import Mathlib.Tactic.Ring

/-!
# Numbers sent with a shift

A number too big for a field is sent shifted right, by the least shift that makes it fit, and
shifted left by who reads it. What is read is the number, up to the bits shifted out, exactly if the
shifts are equal.
-/

namespace Inet

/-- `shift` is the least one by which `value` fits below `2 * half`. -/
structure LeastShift (half value shift : ℕ) : Prop where
  fits : value < 2 * half * 2 ^ shift
  least : shift = 0 ∨ half * 2 ^ shift ≤ value

/-- What a reader makes of `value`, sent with `sent` and read with `read`. -/
def decoded (value sent read : ℕ) : ℕ := value / 2 ^ sent * 2 ^ read

/-- `decoded` does not exceed `value`, and misses it by less than `2 ^ read`. -/
def Decodes (value sent read : ℕ) : Prop :=
  decoded value sent read ≤ value ∧ value - decoded value sent read < 2 ^ read

lemma decodes_zero (sent read : ℕ) : Decodes 0 sent read := by
  simp [Decodes, decoded]

lemma decodes_self (value shift : ℕ) : Decodes value shift shift := by
  refine ⟨Nat.div_mul_le_self value (2 ^ shift), ?_⟩
  have split := Nat.div_add_mod' value (2 ^ shift)
  unfold decoded
  omega

namespace LeastShift

variable {half value sent read : ℕ}

variable (least : LeastShift half value sent)
include least

lemma one_le_quotient (halfPos : 0 < half) (pos : 0 < value) : 1 ≤ value / 2 ^ sent := by
  rw [Nat.one_le_div_iff (Nat.two_pow_pos sent)]
  rcases least.least with rfl | least
  · exact pos
  · exact le_trans (Nat.le_mul_of_pos_left _ halfPos) least

lemma lt_decoded (halfPos : 0 < half) (pos : 0 < value)
    (lt : sent < read) : value < decoded value sent read := by
  obtain ⟨more, rfl⟩ := Nat.exists_eq_add_of_lt lt
  have one := least.one_le_quotient halfPos pos
  have split := Nat.div_add_mod' value (2 ^ sent)
  have grows : 2 * 2 ^ sent ≤ 2 ^ (sent + more + 1) := by
    rw [← pow_succ']
    exact Nat.pow_le_pow_right two_pos (by omega)
  calc value < value / 2 ^ sent * 2 ^ sent + 2 ^ sent := by omega
    _ ≤ value / 2 ^ sent * 2 ^ sent + value / 2 ^ sent * 2 ^ sent :=
        Nat.add_le_add_left (Nat.le_mul_of_pos_left _ one) _
    _ = value / 2 ^ sent * (2 * 2 ^ sent) := by ring
    _ ≤ value / 2 ^ sent * 2 ^ (sent + more + 1) := Nat.mul_le_mul_left _ grows

lemma decoded_add_le (halfPos : 0 < half)
    (lt : read < sent) : decoded value sent read + 2 ^ read ≤ value := by
  obtain ⟨more, rfl⟩ := Nat.exists_eq_add_of_lt lt
  have large : half * 2 ^ (read + more + 1) ≤ value := least.least.resolve_left (by omega)
  have one : 1 ≤ value / 2 ^ (read + more + 1) := by
    rw [Nat.one_le_div_iff (Nat.two_pow_pos _)]
    exact le_trans (Nat.le_mul_of_pos_left _ halfPos) large
  have shrinks : 2 * 2 ^ read ≤ 2 ^ (read + more + 1) := by
    rw [← pow_succ']
    exact Nat.pow_le_pow_right two_pos (by omega)
  calc value / 2 ^ (read + more + 1) * 2 ^ read + 2 ^ read
      ≤ value / 2 ^ (read + more + 1) * 2 ^ read + value / 2 ^ (read + more + 1) * 2 ^ read :=
        Nat.add_le_add_left (Nat.le_mul_of_pos_left _ one) _
    _ = value / 2 ^ (read + more + 1) * (2 * 2 ^ read) := by ring
    _ ≤ value / 2 ^ (read + more + 1) * 2 ^ (read + more + 1) := Nat.mul_le_mul_left _ shrinks
    _ ≤ value := Nat.div_mul_le_self _ _

lemma decodes_iff (halfPos : 0 < half) : Decodes value sent read ↔ value = 0 ∨ sent = read := by
  constructor
  · intro decodes
    rcases Nat.eq_zero_or_pos value with zero | pos
    · exact .inl zero
    · rcases Nat.lt_trichotomy sent read with lt | eq | gt
      · exact absurd decodes.1 (Nat.not_le.mpr (least.lt_decoded halfPos pos lt))
      · exact .inr eq
      · have short := least.decoded_add_le halfPos gt
        have close := decodes.2
        omega
  · rintro (rfl | rfl)
    · exact decodes_zero _ _
    · exact decodes_self _ _

omit least

lemma not_lt (first : LeastShift half value sent) (second : LeastShift half value read) :
    ¬ sent < read := by
  intro lt
  have large : half * 2 ^ read ≤ value := second.least.resolve_left (by omega)
  have grows : 2 * 2 ^ sent ≤ 2 ^ read := by
    rw [← pow_succ']
    exact Nat.pow_le_pow_right two_pos lt
  have fits := first.fits
  have below : 2 * half * 2 ^ sent ≤ half * 2 ^ read :=
    calc 2 * half * 2 ^ sent = half * (2 * 2 ^ sent) := by ring
      _ ≤ half * 2 ^ read := Nat.mul_le_mul_left _ grows
  omega

lemma unique (first : LeastShift half value sent) (second : LeastShift half value read) :
    sent = read :=
  Nat.le_antisymm (Nat.not_lt.mp (second.not_lt first)) (Nat.not_lt.mp (first.not_lt second))

end LeastShift

end Inet
