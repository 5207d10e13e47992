import Mathlib.Data.Nat.Basic
import Mathlib.Tactic.Common

/-!
# Serial numbers

Stream positions are sent modulo `2 ^ 32`. The test `(b - a) < 2 ^ 31` orders serial numbers as
their positions as long as these lie less than half the number space apart. `unwrap base x` is the
first position at or above `base` whose serial number is `x`.
-/

namespace Inet

/-- Serial number of an unbounded position. -/
def serial (p : ℕ) : UInt32 := UInt32.ofNat p

/-- Least position at or above `base` carrying the serial number `x`. -/
def unwrap (base : ℕ) (x : UInt32) : ℕ := base + (x - serial base).toNat

@[simp]
lemma serial_toNat (x : UInt32) : serial x.toNat = x := by
  simp [serial]

lemma toNat_serial (p : ℕ) : (serial p).toNat = p % 4294967296 := by
  simp [serial]

lemma serial_add (a b : ℕ) : serial (a + b) = serial a + serial b := by
  simp [serial, UInt32.ofNat_add]

lemma toNat_serial_sub {a b : ℕ} (le : a ≤ b) (lt : b < a + 4294967296) :
    (serial b - serial a).toNat = b - a := by
  rw [UInt32.toNat_sub, toNat_serial, toNat_serial]
  omega

lemma serial_sub {a b : ℕ} (le : a ≤ b) : serial (b - a) = serial b - serial a := by
  apply UInt32.toNat_inj.mp
  rw [UInt32.toNat_sub, toNat_serial, toNat_serial, toNat_serial]
  omega

/-- The half-range test on serial numbers decides `≤` on positions. -/
lemma serial_sub_lt_half_iff {a b : ℕ} (above : b < a + 2147483648) (below : a ≤ b + 2147483648) :
    serial b - serial a < 2147483648 ↔ a ≤ b := by
  rw [UInt32.lt_iff_toNat_lt, UInt32.toNat_sub, toNat_serial, toNat_serial]
  have half : (2147483648 : UInt32).toNat = 2147483648 := rfl
  omega

lemma serial_inj {a b : ℕ} (above : b < a + 4294967296) (below : a < b + 4294967296) :
    serial a = serial b ↔ a = b := by
  rw [← UInt32.toNat_inj, toNat_serial, toNat_serial]
  omega

lemma serial_add_cycle (p : ℕ) : serial (p + 4294967296) = serial p := by
  rw [← UInt32.toNat_inj, toNat_serial, toNat_serial, Nat.add_mod_right]

@[simp]
lemma serial_unwrap (base : ℕ) (x : UInt32) : serial (unwrap base x) = x := by
  rw [unwrap, serial_add, serial_toNat]
  apply UInt32.toNat_inj.mp
  rw [UInt32.toNat_add, UInt32.toNat_sub]
  have := x.toNat_lt
  have := (serial base).toNat_lt
  omega

lemma le_unwrap (base : ℕ) (x : UInt32) : base ≤ unwrap base x :=
  Nat.le_add_right _ _

lemma unwrap_lt (base : ℕ) (x : UInt32) : unwrap base x < base + 4294967296 := by
  have := (x - serial base).toNat_lt
  simp only [unwrap]
  omega

lemma unwrap_serial {base p : ℕ} (le : base ≤ p) (lt : p < base + 4294967296) :
    unwrap base (serial p) = p := by
  rw [unwrap, toNat_serial_sub le lt]
  omega

end Inet
