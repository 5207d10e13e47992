import Inet.Lib.Slice
import Mathlib.Algebra.Order.Ring.Nat
import Mathlib.Data.List.GetD

/-!
# Memory

The memory from a pointer on, byte by byte, with numbers in network order. What has been stored is
loaded again until something else is stored there.
-/

namespace Inet

open List Nat

/-- The lowest bytes of the number, as many as asked for, the highest one first. -/
def bigEndian : ℕ → ℕ → List UInt8
  | 0, _ => []
  | n + 1, value => bigEndian n (value / 256) ++ [UInt8.ofNat value]

def ofBigEndian (bytes : List UInt8) : ℕ :=
  bytes.foldl (fun value byte => value * 256 + byte.toNat) 0

@[simp]
lemma length_bigEndian (count value : ℕ) : (bigEndian count value).length = count := by
  induction count generalizing value with
  | zero => rfl
  | succ count ih => rw [bigEndian, length_append, ih, length_singleton]

lemma ofBigEndian_append_singleton (bytes : List UInt8) (byte : UInt8) :
    ofBigEndian (bytes ++ [byte]) = ofBigEndian bytes * 256 + byte.toNat := by
  rw [ofBigEndian, foldl_append]
  rfl

lemma ofBigEndian_bigEndian (count value : ℕ) :
    ofBigEndian (bigEndian count value) = value % 256 ^ count := by
  induction count generalizing value with
  | zero => rw [pow_zero, mod_one]; rfl
  | succ count ih =>
    have split : value % (256 * 256 ^ count) = value % 256 + 256 * (value / 256 % 256 ^ count) :=
      mod_mul
    have byte : (UInt8.ofNat value).toNat = value % 256 := UInt8.toNat_ofNat'
    rw [bigEndian, ofBigEndian_append_singleton, ih, byte, pow_succ', split, mul_comm, add_comm]

abbrev Memory := ℕ → UInt8

namespace Memory

variable (mem : Memory) {pos pos' count : ℕ} {bytes : List UInt8}

def store (pos : ℕ) (bytes : List UInt8) : Memory := fun i =>
  if pos ≤ i then bytes.getD (i - pos) (mem i) else mem i

def load (pos count : ℕ) : List UInt8 := slice mem pos (pos + count)

variable {mem}

@[simp]
lemma length_load : (mem.load pos count).length = count := by
  rw [load, length_slice, Nat.add_sub_cancel_left]

lemma getElem?_load {i : ℕ} (lt : i < count) : (mem.load pos count)[i]? = some (mem (pos + i)) := by
  rw [load, slice, Nat.add_sub_cancel_left, List.getElem?_map, List.getElem?_range' lt, one_mul,
    Option.map_some]

lemma load_congr {mem' : Memory} (same : ∀ i < count, mem' (pos + i) = mem (pos + i)) :
    mem'.load pos count = mem.load pos count := by
  refine ext_getElem? fun i => ?_
  by_cases lt : i < count
  · rw [getElem?_load lt, getElem?_load lt, same i lt]
  · rw [getElem?_eq_none (by rw [length_load]; omega),
      getElem?_eq_none (by rw [length_load]; omega)]

lemma load_add {count' : ℕ} :
    mem.load pos (count + count') = mem.load pos count ++ mem.load (pos + count) count' := by
  rw [load, load, load, ← add_assoc]
  exact (slice_append (le_add_right _ _) (le_add_right _ _)).symm

lemma load_one : mem.load pos 1 = [mem pos] := by
  rw [load, slice, Nat.add_sub_cancel_left]
  rfl

lemma store_of_disjoint {i : ℕ} (disjoint : i < pos ∨ pos + bytes.length ≤ i) :
    mem.store pos bytes i = mem i := by
  rw [store]
  split_ifs with le
  · rw [getD_eq_default _ _ (by omega)]
  · rfl

lemma store_add {i : ℕ} (lt : i < bytes.length) : mem.store pos bytes (pos + i) = bytes[i] := by
  rw [store, if_pos (Nat.le_add_right _ _), Nat.add_sub_cancel_left, List.getD_eq_getElem _ _ lt]

lemma load_store_of_disjoint (disjoint : pos' + count ≤ pos ∨ pos + bytes.length ≤ pos') :
    (mem.store pos bytes).load pos' count = mem.load pos' count :=
  load_congr fun i lt => store_of_disjoint (by omega)

lemma load_store (length : bytes.length = count) : (mem.store pos bytes).load pos count = bytes := by
  refine ext_getElem? fun i => ?_
  by_cases lt : i < count
  · rw [getElem?_load lt, store_add (by omega), getElem?_eq_getElem]
  · rw [getElem?_eq_none (by rw [length_load]; omega), getElem?_eq_none (by omega)]

@[simp]
lemma store_nil : mem.store pos [] = mem :=
  funext fun i => store_of_disjoint (by rw [length_nil]; omega)

lemma store_append {more : List UInt8} :
    (mem.store pos bytes).store (pos + bytes.length) more = mem.store pos (bytes ++ more) := by
  funext i
  by_cases before : i < pos
  · rw [store_of_disjoint (by omega), store_of_disjoint (Or.inl before),
      store_of_disjoint (Or.inl before)]
  · obtain ⟨k, rfl⟩ := Nat.exists_eq_add_of_le (not_lt.mp before)
    by_cases first : k < bytes.length
    · have lt : k < (bytes ++ more).length := by rw [length_append]; omega
      rw [store_of_disjoint (by omega), store_add first, store_add lt, getElem_append_left first]
    · obtain ⟨l, rfl⟩ := Nat.exists_eq_add_of_le (not_lt.mp first)
      by_cases second : l < more.length
      · have lt : bytes.length + l < (bytes ++ more).length := by rw [length_append]; omega
        rw [← add_assoc, store_add second, add_assoc, store_add lt,
          getElem_append_right (le_add_right _ _)]
        congr 1
        omega
      · rw [store_of_disjoint (by omega), store_of_disjoint (by omega),
          store_of_disjoint (by rw [length_append]; omega)]

lemma store_comm {pos' : ℕ} {more : List UInt8}
    (disjoint : pos' + more.length ≤ pos ∨ pos + bytes.length ≤ pos') :
    (mem.store pos bytes).store pos' more = (mem.store pos' more).store pos bytes := by
  funext i
  by_cases first : i < pos ∨ pos + bytes.length ≤ i
  · have same : mem.store pos bytes i = mem i := store_of_disjoint first
    rw [store_of_disjoint first, store, same]
    rfl
  · obtain ⟨k, rfl⟩ := Nat.exists_eq_add_of_le (show pos ≤ i by omega)
    rw [store_of_disjoint (by omega), store_add (by omega), store_add (by omega)]

/-! ## Numbers in memory -/

def store16 (mem : Memory) (pos : ℕ) (value : UInt16) : Memory :=
  mem.store pos (bigEndian 2 value.toNat)

def load16 (mem : Memory) (pos : ℕ) : UInt16 := UInt16.ofNat (ofBigEndian (mem.load pos 2))

def store32 (mem : Memory) (pos : ℕ) (value : UInt32) : Memory :=
  mem.store pos (bigEndian 4 value.toNat)

def load32 (mem : Memory) (pos : ℕ) : UInt32 := UInt32.ofNat (ofBigEndian (mem.load pos 4))

def store8 (mem : Memory) (pos : ℕ) (value : UInt8) : Memory := mem.store pos [value]

section

variable {v8 : UInt8} {v16 : UInt16} {v32 : UInt32}

@[simp]
lemma store8_self : mem.store8 pos v8 pos = v8 := by
  have lt : 0 < [v8].length := zero_lt_one
  exact store_add lt

lemma store8_of_ne {i : ℕ} (ne : i ≠ pos) : mem.store8 pos v8 i = mem i :=
  store_of_disjoint (by rw [length_singleton]; omega)

lemma store16_of_disjoint {i : ℕ} (disjoint : i < pos ∨ pos + 2 ≤ i) :
    mem.store16 pos v16 i = mem i :=
  store_of_disjoint (by rw [length_bigEndian]; exact disjoint)

lemma store32_of_disjoint {i : ℕ} (disjoint : i < pos ∨ pos + 4 ≤ i) :
    mem.store32 pos v32 i = mem i :=
  store_of_disjoint (by rw [length_bigEndian]; exact disjoint)

@[simp]
lemma load16_store16 : (mem.store16 pos v16).load16 pos = v16 := by
  rw [load16, store16, load_store (length_bigEndian _ _), ofBigEndian_bigEndian]
  have lt := v16.toNat_lt
  rw [mod_eq_of_lt (by omega), UInt16.ofNat_toNat]

@[simp]
lemma load32_store32 : (mem.store32 pos v32).load32 pos = v32 := by
  rw [load32, store32, load_store (length_bigEndian _ _), ofBigEndian_bigEndian]
  have lt := v32.toNat_lt
  rw [mod_eq_of_lt (by omega), UInt32.ofNat_toNat]

lemma load_store8 (disjoint : pos' + count ≤ pos ∨ pos + 1 ≤ pos') :
    (mem.store8 pos v8).load pos' count = mem.load pos' count :=
  load_store_of_disjoint disjoint

lemma load_store16 (disjoint : pos' + count ≤ pos ∨ pos + 2 ≤ pos') :
    (mem.store16 pos v16).load pos' count = mem.load pos' count :=
  load_store_of_disjoint (by rw [length_bigEndian]; exact disjoint)

lemma load_store32 (disjoint : pos' + count ≤ pos ∨ pos + 4 ≤ pos') :
    (mem.store32 pos v32).load pos' count = mem.load pos' count :=
  load_store_of_disjoint (by rw [length_bigEndian]; exact disjoint)

end

/-- The memories have the same bytes here. -/
def Agree (mem mem' : Memory) (pos count : ℕ) : Prop :=
  ∀ i, pos ≤ i → i < pos + count → mem' i = mem i

section

variable {mem' : Memory}

lemma Agree.mono {pos' count' : ℕ} (agree : Agree mem mem' pos count) (le : pos ≤ pos')
    (stop : pos' + count' ≤ pos + count) : Agree mem mem' pos' count' :=
  fun i from_ lt => agree i (le.trans from_) (lt.trans_le stop)

lemma Agree.load (agree : Agree mem mem' pos count) : mem'.load pos count = mem.load pos count :=
  load_congr fun i lt => agree (pos + i) (Nat.le_add_right _ _) (Nat.add_lt_add_left lt _)

lemma Agree.load16 (agree : Agree mem mem' pos 2) : mem'.load16 pos = mem.load16 pos := by
  rw [Memory.load16, agree.load, Memory.load16]

lemma Agree.load32 (agree : Agree mem mem' pos 4) : mem'.load32 pos = mem.load32 pos := by
  rw [Memory.load32, agree.load, Memory.load32]

lemma Agree.load16_within {pos' : ℕ} (agree : Agree mem mem' pos count) (le : pos ≤ pos')
    (stop : pos' + 2 ≤ pos + count) : mem'.load16 pos' = mem.load16 pos' :=
  (agree.mono le stop).load16

lemma Agree.load32_within {pos' : ℕ} (agree : Agree mem mem' pos count) (le : pos ≤ pos')
    (stop : pos' + 4 ≤ pos + count) : mem'.load32 pos' = mem.load32 pos' :=
  (agree.mono le stop).load32

end

section

variable {α β : Type*} {width : ℕ} {storeOne : α → Memory → ℕ → Memory} {loadOne : Memory → ℕ → β}

/-- The records one behind the other. -/
def storeEach (width : ℕ) (storeOne : α → Memory → ℕ → Memory) : List α → Memory → ℕ → Memory
  | [], mem, _ => mem
  | record :: records, mem, pos =>
      storeEach width storeOne records (storeOne record mem pos) (pos + width)

def loadEach (width : ℕ) (loadOne : Memory → ℕ → β) (mem : Memory) : ℕ → ℕ → List β
  | 0, _ => []
  | count + 1, pos => loadOne mem pos :: loadEach width loadOne mem count (pos + width)

end

end Memory

end Inet
