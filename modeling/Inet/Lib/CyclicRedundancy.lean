import Mathlib.Data.Nat.Bitwise

/-!
# Cyclic redundancy checks

Digits of `m` bits are divided by a polynomial over the field with two elements, low bits first. The
division is linear, so what it makes of a digit can be looked up.
-/

namespace Inet.Redundancy

/-- One bit is divided out. -/
def shift (poly c : ℕ) : ℕ := if c % 2 = 0 then c / 2 else c / 2 ^^^ poly

/-- The remainder after the digits, of `m` bits each, when it was `c` before. -/
def remainder (poly m c : ℕ) (ds : List ℕ) : ℕ :=
  ds.foldl (fun c d => (shift poly)^[m] (c ^^^ d)) c

variable {poly m n a b c : ℕ}

lemma shift_xor : shift poly (a ^^^ b) = shift poly a ^^^ shift poly b := by
  simp only [shift, Nat.xor_div_two, Nat.xor_mod_two_eq, Nat.add_mod a b]
  rcases Nat.mod_two_eq_zero_or_one a with left | left <;>
    rcases Nat.mod_two_eq_zero_or_one b with right | right <;>
    simp [left, right, Nat.xor_comm, Nat.xor_left_comm]

lemma shifts_xor : (shift poly)^[n] (a ^^^ b) = (shift poly)^[n] a ^^^ (shift poly)^[n] b := by
  induction n generalizing a b with
  | zero => rfl
  | succ n ih => rw [Function.iterate_succ_apply, shift_xor, ih]; rfl

lemma shifts_two_pow_mul : (shift poly)^[n] (2 ^ n * c) = c := by
  induction n with
  | zero => exact one_mul c
  | succ n ih =>
    have half : shift poly (2 ^ (n + 1) * c) = 2 ^ n * c := by
      rw [Nat.pow_succ', mul_assoc, shift, if_pos (Nat.mul_mod_right 2 _),
        Nat.mul_div_cancel_left _ Nat.two_pos]
    rw [Function.iterate_succ_apply, half, ih]

/-- What is shifted out of the low bits is all that has to be known of them. -/
lemma shifts_eq : (shift poly)^[m] c = c / 2 ^ m ^^^ (shift poly)^[m] (c % 2 ^ m) := by
  have high : c ^^^ c % 2 ^ m = 2 ^ m * (c / 2 ^ m) := by
    have := Nat.div_add_mod (c ^^^ c % 2 ^ m) (2 ^ m)
    rwa [Nat.xor_mod_two_pow, Nat.mod_mod, Nat.xor_self, Nat.xor_div_two_pow,
      Nat.div_eq_of_lt (Nat.mod_lt c (Nat.two_pow_pos m)), Nat.xor_zero, add_zero, eq_comm] at this
  have whole : (shift poly)^[m] (c ^^^ c % 2 ^ m ^^^ c % 2 ^ m) =
      c / 2 ^ m ^^^ (shift poly)^[m] (c % 2 ^ m) := by
    rw [shifts_xor, high, shifts_two_pow_mul]
  rwa [Nat.xor_assoc, Nat.xor_self, Nat.xor_zero] at whole

end Inet.Redundancy
