import Inet.Lib.SerialNumber

/-!
# Sequence number comparison

The comparison functions of `TCPSegment.h` look only at a difference modulo `2 ^ 32`; the `_serial`
lemmas state how far each one reaches on stream positions.

`TcpError` has the ways a function can stop: a failed `ASSERT`, a thrown `cRuntimeError`, an access
outside an object or through a `NULL` pointer, or an endless loop.
-/

namespace Inet.Tcp

/-- How a modelled function stops without a result. -/
inductive TcpError where
  /-- `ASSERT(condition)` does not hold. -/
  | assertion (condition : String)
  /-- `throw cRuntimeError(text)`. -/
  | runtimeError (text : String)
  /-- A memory or array access outside its object. -/
  | outOfBounds
  /-- A use of a `NULL` pointer. -/
  | nullPointer
  /-- A loop of the source that never leaves. -/
  | nonTermination
  deriving DecidableEq

/-- `ASSERT(condition)`. -/
def assert (condition : Prop) [Decidable condition] (text : String) : Except TcpError Unit :=
  if condition then .ok () else .error (.assertion text)

lemma assert_pos {condition : Prop} [Decidable condition] (holds : condition) (text : String) :
    assert condition text = .ok () :=
  if_pos holds

/-- A function that got past an `ASSERT` went on with the condition true. -/
lemma of_assert_bind {α : Type} {condition : Prop} [Decidable condition] {text : String}
    {next : Unit → Except TcpError α} {result : α}
    (ok : (assert condition text >>= next) = .ok result) : condition ∧ next () = .ok result := by
  by_cases holds : condition
  · rw [assert_pos holds] at ok
    exact ⟨holds, ok⟩
  · rw [assert, if_neg holds] at ok
    cases ok

def seqLess (a b : UInt32) : Prop := a ≠ b ∧ b - a < 2147483648

def seqLE (a b : UInt32) : Prop := b - a < 2147483648

def seqGreater (a b : UInt32) : Prop := a ≠ b ∧ a - b < 2147483648

def seqGE (a b : UInt32) : Prop := a - b < 2147483648

instance (a b : UInt32) : Decidable (seqLess a b) := inferInstanceAs (Decidable (_ ∧ _))
instance (a b : UInt32) : Decidable (seqLE a b) := inferInstanceAs (Decidable (_ < _))
instance (a b : UInt32) : Decidable (seqGreater a b) := inferInstanceAs (Decidable (_ ∧ _))
instance (a b : UInt32) : Decidable (seqGE a b) := inferInstanceAs (Decidable (_ < _))

def seqMin (a b : UInt32) : UInt32 := if b - a < 2147483648 then a else b

def seqMax (a b : UInt32) : UInt32 := if a - b < 2147483648 then a else b

section Positions

variable {a b : ℕ}

lemma seqLE_serial (above : b < a + 2147483648) (below : a ≤ b + 2147483648) :
    seqLE (serial a) (serial b) ↔ a ≤ b :=
  serial_sub_lt_half_iff above below

lemma seqGE_serial (above : a < b + 2147483648) (below : b ≤ a + 2147483648) :
    seqGE (serial a) (serial b) ↔ b ≤ a :=
  serial_sub_lt_half_iff above below

lemma seqLess_serial (above : b < a + 2147483648) (below : a ≤ b + 2147483648) :
    seqLess (serial a) (serial b) ↔ a < b := by
  rw [seqLess, serial_sub_lt_half_iff above below, ne_eq, serial_inj (by omega) (by omega)]
  omega

lemma seqGreater_serial (above : a < b + 2147483648) (below : b ≤ a + 2147483648) :
    seqGreater (serial a) (serial b) ↔ b < a := by
  rw [seqGreater, serial_sub_lt_half_iff above below, ne_eq, serial_inj (by omega) (by omega)]
  omega

/-- Less than a cycle apart, the test tells which half of the cycle `b` is in. -/
lemma seqLE_serial_iff_near (le : a ≤ b) (lt : b < a + 4294967296) :
    seqLE (serial a) (serial b) ↔ b < a + 2147483648 := by
  have half : (2147483648 : UInt32).toNat = 2147483648 := rfl
  rw [seqLE, UInt32.lt_iff_toNat_lt, toNat_serial_sub le lt, half]
  omega

lemma lt_of_seqLess_serial (above : b ≤ a + 2147483648) (below : a ≤ b + 2147483648)
    (less : seqLess (serial a) (serial b)) : a < b := by
  rcases Nat.lt_or_ge b (a + 2147483648) with near | far
  · exact (seqLess_serial near below).mp less
  · omega

lemma seqMin_serial (above : b < a + 2147483648) (below : a ≤ b + 2147483648) :
    seqMin (serial a) (serial b) = serial (min a b) := by
  rw [seqMin]
  by_cases le : a ≤ b
  · rw [if_pos ((serial_sub_lt_half_iff above below).mpr le), min_eq_left le]
  · rw [if_neg (mt (serial_sub_lt_half_iff above below).mp le), min_eq_right (by omega)]

lemma seqMax_serial (above : a < b + 2147483648) (below : b ≤ a + 2147483648) :
    seqMax (serial a) (serial b) = serial (max a b) := by
  rw [seqMax]
  by_cases le : b ≤ a
  · rw [if_pos ((serial_sub_lt_half_iff above below).mpr le), max_eq_left le]
  · rw [if_neg (mt (serial_sub_lt_half_iff above below).mp le), max_eq_right (by omega)]

end Positions

@[simp] lemma seqLE_refl (a : UInt32) : seqLE a a := by
  simp [seqLE]

@[simp] lemma seqGE_refl (a : UInt32) : seqGE a a := by
  simp [seqGE]

@[simp] lemma not_seqLess_self (a : UInt32) : ¬ seqLess a a := by
  simp [seqLess]

lemma seqLE_of_seqLess {a b : UInt32} (less : seqLess a b) : seqLE a b := less.2

lemma not_seqLE_of_seqLess {a b : UInt32} (less : seqLess a b) : ¬ seqLE b a := by
  simp only [seqLess, seqLE] at *
  grind

lemma seqGreater_iff_seqLess {a b : UInt32} : seqGreater a b ↔ seqLess b a := by
  simp only [seqGreater, seqLess, ne_comm]

end Inet.Tcp
