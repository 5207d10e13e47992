import Inet.Lib.Memory

/-!
# The Internet checksum

`TCPIPchecksum` sums the 16 bit words as the host has them, which is little endian here.
-/

namespace Inet.TCPIPchecksum

/-- A word of the host at the pointer. -/
def word (mem : Memory) (addr : ℕ) : UInt32 :=
  (mem addr).toUInt32 + ((mem (addr + 1)).toUInt32 <<< 8)

/-- `htons`, which swaps the bytes. -/
def htons (value : UInt16) : UInt16 := (value <<< 8) ||| (value >>> 8)

def foldCarry (sum : UInt32) : UInt32 := (sum &&& (0xFFFF : UInt32)) + (sum >>> 16)

/-- The loop over the words, and over a last byte. -/
def sumWords (mem : Memory) : ℕ → ℕ → UInt32 → UInt32
  | _, 0, sum => sum
  | addr, 1, sum => sum + (mem addr).toUInt32
  | addr, count + 2, sum =>
      let sum := sum + word mem addr
      sumWords mem (addr + 2) count (if sum &&& 0x80000000 = 0 then sum else foldCarry sum)

/-- The last loop, with the rounds that are left. -/
def foldCarries : ℕ → UInt32 → UInt32
  | 0, sum => sum
  | rounds + 1, sum => if sum >>> 16 = 0 then sum else foldCarries rounds (foldCarry sum)

lemma toNat_foldCarry (sum : UInt32) :
    (foldCarry sum).toNat = sum.toNat % 65536 + sum.toNat / 65536 := by
  have low : (sum &&& (0xFFFF : UInt32)).toNat = sum.toNat % 65536 := by
    exact Nat.and_two_pow_sub_one_eq_mod sum.toNat 16
  have high : (sum >>> 16).toNat = sum.toNat / 65536 := by
    exact Nat.shiftRight_eq_div_pow sum.toNat 16
  have lt := sum.toNat_lt
  rw [foldCarry, UInt32.toNat_add, low, high, Nat.mod_eq_of_lt (by omega)]

lemma foldCarries_lt (sum : UInt32) : (foldCarries 2 sum).toNat < 65536 := by
  have stop : ∀ s : UInt32, s >>> 16 = 0 → s.toNat < 65536 := by
    intro s none_
    have high : (s >>> 16).toNat = s.toNat / 65536 := by
      exact Nat.shiftRight_eq_div_pow s.toNat 16
    rw [none_] at high
    have zero : (0 : UInt32).toNat = 0 := rfl
    omega
  have lt := sum.toNat_lt
  have first := toNat_foldCarry sum
  have second := toNat_foldCarry (foldCarry sum)
  rw [foldCarries, foldCarries]
  split_ifs with one two
  · exact stop sum one
  · exact stop _ two
  · rw [foldCarries]
    omega

/-- `_checksum(addr, count)`. -/
def partialChecksum (mem : Memory) (addr count : ℕ) : UInt16 :=
  (foldCarries 2 (sumWords mem addr count 0)).toUInt16

def checksum (mem : Memory) (addr count : ℕ) : UInt16 := ~~~(partialChecksum mem addr count)

/-- A field of the host in memory. -/
def storeWord (mem : Memory) (addr : ℕ) (value : UInt16) : Memory :=
  mem.store addr [value.toUInt8, (value >>> 8).toUInt8]

end Inet.TCPIPchecksum
