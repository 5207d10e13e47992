import Inet.Headerserializers.TCPSerializer
import Inet.Lib.OnesComplement

/-!
# The checksum is exact

The partial sums, folded and swapped one by one, add up to the one's complement sum of all words of
segment and pseudo header.
-/

namespace Inet

open Nat List Memory

open OnesComplement (Same total)

/-- The words of the bytes, as the host has them. A last byte is padded with zero. -/
def hostWords : List UInt8 → List UInt16
  | [] => []
  | [byte] => [byte.toUInt16]
  | byte :: byte' :: rest => (byte.toUInt16 + (byte'.toUInt16 <<< 8)) :: hostWords rest

lemma toNat_hostWord (byte byte' : UInt8) :
    (byte.toUInt16 + (byte'.toUInt16 <<< 8)).toNat = byte.toNat + 256 * byte'.toNat := by
  have lt := byte.toNat_lt
  have lt' := byte'.toNat_lt
  have high : (byte'.toUInt16 <<< 8).toNat = byte'.toNat <<< 8 % 65536 := UInt16.toNat_shiftLeft _ _
  rw [UInt16.toNat_add, high, UInt8.toNat_toUInt16]
  omega

lemma hostWords_append {bytes : List UInt8} (even : bytes.length % 2 = 0) (more : List UInt8) :
    hostWords (bytes ++ more) = hostWords bytes ++ hostWords more := by
  induction bytes using hostWords.induct with
  | case1 => rfl
  | case2 byte => simp at even
  | case3 byte byte' rest ih =>
    rw [length_cons, length_cons, add_assoc, add_mod_right] at even
    exact congrArg (_ :: ·) (ih even)

lemma total_hostWords (byte byte' : UInt8) (rest : List UInt8) :
    total (hostWords (byte :: byte' :: rest)) =
      byte.toNat + 256 * byte'.toNat + total (hostWords rest) := by
  rw [hostWords, OnesComplement.total_cons, toNat_hostWord]

namespace TCPIPchecksum

variable {mem : Memory} {a count : ℕ}

/-! ## The loops -/

lemma toNat_word : (word mem a).toNat = (mem a).toNat + 256 * (mem (a + 1)).toNat := by
  have lt := (mem a).toNat_lt
  have lt' := (mem (a + 1)).toNat_lt
  have high : ((mem (a + 1)).toUInt32 <<< 8).toNat = (mem (a + 1)).toNat <<< 8 % 4294967296 :=
    UInt32.toNat_shiftLeft _ _
  rw [word, UInt32.toNat_add, high, UInt8.toNat_toUInt32]
  omega

lemma foldCarry_same (sum : UInt32) : Same (foldCarry sum).toNat sum.toNat := by
  rw [toNat_foldCarry]
  exact ⟨by omega, by omega⟩

lemma foldCarries_same (rounds : ℕ) (sum : UInt32) :
    Same (foldCarries rounds sum).toNat sum.toNat := by
  induction rounds generalizing sum with
  | zero => exact .rfl
  | succ rounds ih =>
    rw [foldCarries]
    split_ifs
    · exact .rfl
    · exact (ih _).trans (foldCarry_same sum)

/-- One round of the loop over the words. -/
def addWord (sum word : UInt32) : UInt32 :=
  if (sum + word) &&& 0x80000000 = 0 then sum + word else foldCarry (sum + word)

lemma addWord_spec (mem : Memory) (a : ℕ) {sum : UInt32} (room : sum.toNat < 2147483648) :
    (addWord sum (word mem a)).toNat < 2147483648 ∧
      Same (addWord sum (word mem a)).toNat (sum.toNat + (word mem a).toNat) := by
  have lt := (mem a).toNat_lt
  have lt' := (mem (a + 1)).toNat_lt
  have added : (sum + word mem a).toNat = sum.toNat + (word mem a).toNat := by
    rw [UInt32.toNat_add, toNat_word]
    omega
  rw [addWord]
  split_ifs with top
  · have bits := congrArg UInt32.toNat top
    have and : ((sum + word mem a) &&& 0x80000000).toNat =
        ((sum + word mem a).toNat.testBit 31).toNat * 2 ^ 31 :=
      (UInt32.toNat_and _ _).trans (Nat.and_two_pow _ 31)
    rw [and, testBit_eq_decide_div_mod_eq] at bits
    have zero : (0 : UInt32).toNat = 0 := rfl
    refine ⟨?_, added ▸ .rfl⟩
    by_contra large
    have bound := (sum + word mem a).toNat_lt
    rw [decide_eq_true (by omega), zero] at bits
    cases bits
  · have folded := toNat_foldCarry (sum + word mem a)
    have bound := (sum + word mem a).toNat_lt
    exact ⟨by omega, added ▸ foldCarry_same _⟩

lemma load_two : mem.load a (count + 2) =
    mem a :: mem (a + 1) :: mem.load (a + 2) count := by
  have split : count + 2 = 1 + (1 + count) := by omega
  rw [split, load_add, load_add, load_one, load_one]
  rfl

lemma sumWords_two (sum : UInt32) : sumWords mem a (count + 2) sum =
    sumWords mem (a + 2) count (addWord sum (word mem a)) := rfl

lemma sumWords_same {sum : UInt32} (room : sum.toNat < 2147483648) :
    Same (sumWords mem a count sum).toNat (sum.toNat + total (hostWords (mem.load a count))) := by
  induction count using Nat.twoStepInduction generalizing a sum with
  | zero =>
    have nil : mem.load a 0 = [] := eq_nil_of_length_eq_zero length_load
    rw [nil]
    exact .rfl
  | one =>
    have lt := (mem a).toNat_lt
    rw [Memory.load_one, sumWords, UInt32.toNat_add, UInt8.toNat_toUInt32, mod_eq_of_lt (by omega)]
    exact .rfl
  | more count ih _ =>
    obtain ⟨room', same⟩ := addWord_spec mem a room
    rw [sumWords_two, load_two, total_hostWords, ← toNat_word, ← add_assoc]
    exact (ih room').trans (same.add .rfl)

lemma sumWords_split (mem : Memory) (a count words : ℕ) {sum : UInt32}
    (room : sum.toNat < 2147483648) :
    (sumWords mem a (2 * words) sum).toNat < 2147483648 ∧ sumWords mem a (2 * words + count) sum =
        sumWords mem (a + 2 * words) count (sumWords mem a (2 * words) sum) := by
  induction words generalizing a sum with
  | zero =>
    rw [Nat.mul_zero, Nat.zero_add]
    exact ⟨room, rfl⟩
  | succ words ih =>
    obtain ⟨small, rest⟩ := ih (a + 2) (addWord_spec mem a room).1
    have order : 2 * (words + 1) + count = 2 * words + count + 2 := by omega
    have next : a + 2 + 2 * words = a + 2 * (words + 1) := by omega
    rw [order, sumWords_two, rest, next]
    exact ⟨small, rfl⟩

lemma partialChecksum_toNat :
    (partialChecksum mem a count).toNat = (foldCarries 2 (sumWords mem a count 0)).toNat := by
  exact mod_eq_of_lt (foldCarries_lt _)

lemma partialChecksum_same :
    Same (partialChecksum mem a count).toNat (total (hostWords (mem.load a count))) := by
  have sums : Same (sumWords mem a count 0).toNat _ := sumWords_same (by decide)
  have zero : (0 : UInt32).toNat = 0 := rfl
  rw [zero, zero_add] at sums
  rw [partialChecksum_toNat]
  exact (foldCarries_same 2 _).trans sums

lemma partialChecksum_eq :
    partialChecksum mem a count = OnesComplement.sum (hostWords (mem.load a count)) :=
  (partialChecksum_same.trans (OnesComplement.same_sum _).symm).eq

lemma toNat_htons (value : UInt16) :
    (htons value).toNat = value.toNat % 256 * 256 + value.toNat / 256 := by
  have lt := value.toNat_lt
  have low : (value <<< 8).toNat = (value.toNat % 256) <<< 8 := by
    have shifted : (value <<< 8).toNat = value.toNat <<< 8 % 65536 := UInt16.toNat_shiftLeft _ _
    omega
  have high : (value >>> 8).toNat = value.toNat / 256 :=
    (UInt16.toNat_shiftRight _ _).trans (Nat.shiftRight_eq_div_pow _ 8)
  rw [htons, UInt16.toNat_or, low, high, ← Nat.shiftLeft_add_eq_or_of_lt (by omega),
    Nat.shiftLeft_eq]

lemma htons_same (value : UInt16) : Same (htons value).toNat (256 * value.toNat) := by
  rw [toNat_htons]
  exact ⟨by omega, by omega⟩

end TCPIPchecksum

/-! ## Segments -/

namespace TCPSerializer

open TCPIPchecksum

variable {mem : Memory} {a : ℕ} {count : UInt32} {protocol : UInt8} {srcIp destIp : List UInt32}

/-- The words of an address, in network order. -/
def addressWords (words : List UInt32) : List UInt16 :=
  words.flatMap fun word => hostWords (bigEndian 4 word.toNat)

/-- The words of the segment and of its pseudo header, in network order. -/
def checkedWords (protocol : UInt8) (segment : List UInt8) (srcIp destIp : List UInt32) :
    List UInt16 :=
  hostWords segment ++ addressWords srcIp ++ addressWords destIp ++
    hostWords (bigEndian 2 segment.length) ++ hostWords [0, protocol]

/-- The bytes of a word as the host has them. -/
def hostBytes (word : UInt32) : List UInt8 :=
  [word.toUInt8, (word >>> 8).toUInt8, (word >>> 16).toUInt8, (word >>> 24).toUInt8]

lemma load_addressMemory (words : List UInt32) :
    (addressMemory words).load 0 (4 * words.length) = words.flatMap hostBytes := by
  have length : (words.flatMap hostBytes).length = 4 * words.length := by
    induction words with
    | nil => rfl
    | cons word words ih =>
      rw [flatMap_cons, length_append, ih, length_cons, mul_add, add_comm]
      rfl
  refine ext_getElem (by rw [length_load, length]) fun i lt lt' => ?_
  have here : ((addressMemory words).load 0 (4 * words.length))[i]? = _ :=
    getElem?_load (by rwa [length_load] at lt)
  rw [getElem?_eq_getElem lt, Option.some_inj, zero_add] at here
  rw [here]
  exact getD_eq_getElem _ _ lt'

lemma hostBytes_same (word : UInt32) : Same (256 * total (hostWords (hostBytes word)))
    (total (hostWords (bigEndian 4 word.toNat))) := by
  have network : bigEndian 4 word.toNat = (hostBytes word).reverse := by
    have shifted : ∀ shift : UInt32, (word >>> shift).toUInt8 =
        UInt8.ofNat (word.toNat / 2 ^ (shift.toNat % 32)) := by
      intro shift
      rw [← Nat.shiftRight_eq_div_pow, ← UInt32.toNat_shiftRight]
      rfl
    rw [hostBytes, shifted, shifted, shifted]
    simp [bigEndian, Nat.div_div_eq_div_mul]
  rw [network, hostBytes]
  simp only [List.reverse_cons, List.reverse_nil, List.nil_append, List.cons_append,
    total_hostWords]
  have none : total (hostWords []) = 0 := rfl
  exact ⟨by omega, by omega⟩

lemma addressSum_same (words : List UInt32) :
    Same (addressSum words).toNat (total (addressWords words)) := by
  have swapped : Same (256 * total (hostWords (words.flatMap hostBytes)))
      (total (addressWords words)) := by
    induction words with
    | nil => exact .rfl
    | cons word words ih =>
      rw [flatMap_cons, hostWords_append (by simp [hostBytes]), OnesComplement.total_append,
        mul_add, addressWords, flatMap_cons, OnesComplement.total_append]
      exact (hostBytes_same word).add ih
  have summed : Same (partialChecksum (addressMemory words) 0 (4 * words.length)).toNat _ :=
    partialChecksum_same
  rw [load_addressMemory] at summed
  exact ((htons_same _).trans summed.mul).trans swapped

lemma checksum_eq (fits : count.toNat ≤ 65535) (same : srcIp.length = destIp.length) :
    checksum protocol mem a count srcIp destIp = .ok (~~~OnesComplement.sum
      (checkedWords protocol (mem.load a count.toNat) srcIp destIp)) := by
  have bound : ∀ value : UInt16, value.toUInt32.toNat < 65536 := fun value => by
    exact value.toNat_lt
  have length : Same (htons count.toUInt16).toUInt32.toNat
      (total (hostWords (bigEndian 2 (mem.load a count.toNat).length))) := by
    have bytes : bigEndian 2 count.toNat =
        [UInt8.ofNat (count.toNat / 256), UInt8.ofNat count.toNat] := rfl
    have small : count.toUInt16.toNat = count.toNat :=
      (UInt32.toNat_toUInt16 _).trans (Nat.mod_eq_of_lt (by omega))
    rw [Memory.length_load, UInt16.toNat_toUInt32, toNat_htons, small, bytes, total_hostWords,
      UInt8.toNat_ofNat', UInt8.toNat_ofNat', hostWords, OnesComplement.total_nil,
      Nat.mod_eq_of_lt (by omega : count.toNat / 256 < 2 ^ 8), Nat.add_comm, Nat.mul_comm]
    exact .rfl
  have type : Same (htons protocol.toUInt16).toUInt32.toNat (total (hostWords [0, protocol])) := by
    have small : protocol.toUInt16.toNat = protocol.toNat := UInt8.toNat_toUInt16 _
    have zero : (0 : UInt8).toNat = 0 := rfl
    rw [UInt16.toNat_toUInt32, toNat_htons, small, total_hostWords, zero, hostWords,
      OnesComplement.total_nil]
    exact ⟨by omega, by omega⟩
  rw [checksum, if_pos same]
  refine congrArg (fun sum : UInt16 => Except.ok (~~~sum)) (Same.eq ?_)
  rw [UInt32.toNat_toUInt16, Nat.mod_eq_of_lt (foldCarries_lt _)]
  refine ((foldCarries_same 2 _).trans ?_).trans (OnesComplement.same_sum _).symm
  have segment := bound (partialChecksum mem a count.toNat)
  have src := bound (htons (partialChecksum (addressMemory srcIp) 0 (4 * srcIp.length)))
  have dest := bound (htons (partialChecksum (addressMemory destIp) 0 (4 * destIp.length)))
  have tcpLength := bound (htons count.toUInt16)
  have ptcl := bound (htons protocol.toUInt16)
  rw [← addressSum] at src dest
  rw [UInt32.toNat_add, UInt32.toNat_add, UInt32.toNat_add, UInt32.toNat_add,
    Nat.mod_eq_of_lt (by omega), Nat.mod_eq_of_lt (by omega), Nat.mod_eq_of_lt (by omega),
    Nat.mod_eq_of_lt (by omega), checkedWords, OnesComplement.total_append,
    OnesComplement.total_append, OnesComplement.total_append, OnesComplement.total_append,
    UInt16.toNat_toUInt32]
  exact (((partialChecksum_same.add (addressSum_same srcIp)).add (addressSum_same destIp)).add
    length).add type

lemma total_stored (room : 18 ≤ count.toNat) (empty : mem.load (a + 16) 2 = [0, 0])
    (th_sum : UInt16) :
    total (checkedWords protocol ((storeWord mem (a + 16) th_sum).load a count.toNat) srcIp
      destIp) =
    total (checkedWords protocol (mem.load a count.toNat) srcIp destIp) + th_sum.toNat := by
  have split : ∀ mem : Memory, mem.load a count.toNat =
      mem.load a 16 ++ (mem.load (a + 16) 2 ++ mem.load (a + 18) (count.toNat - 18)) := by
    intro mem
    have sizes : count.toNat = 16 + (2 + (count.toNat - 18)) := by omega
    rw [← load_add, ← load_add, ← sizes]
  have words : ∀ mem : Memory, total (hostWords (mem.load a count.toNat)) =
      total (hostWords (mem.load a 16)) + (total (hostWords (mem.load (a + 16) 2)) +
        total (hostWords (mem.load (a + 18) (count.toNat - 18)))) := by
    intro mem
    rw [split, hostWords_append (by rw [length_load]),
      hostWords_append (by rw [length_load]), OnesComplement.total_append,
      OnesComplement.total_append]
  have stored : total (hostWords ((storeWord mem (a + 16) th_sum).load (a + 16) 2)) =
      th_sum.toNat := by
    have two : [th_sum.toUInt8, (th_sum >>> 8).toUInt8].length = 2 := rfl
    have lt := th_sum.toNat_lt
    have low : th_sum.toUInt8.toNat = th_sum.toNat % 256 := UInt16.toNat_toUInt8 _
    have high : (th_sum >>> 8).toUInt8.toNat = th_sum.toNat / 256 % 256 :=
      (UInt16.toNat_toUInt8 _).trans
        (congrArg (· % 256) ((UInt16.toNat_shiftRight _ _).trans (shiftRight_eq_div_pow _ 8)))
    rw [storeWord, load_store two, total_hostWords, low, high, hostWords, OnesComplement.total_nil]
    omega
  have length : ∀ mem : Memory, (mem.load a count.toNat).length = count.toNat :=
    fun _ => length_load
  simp only [checkedWords, OnesComplement.total_append, words, stored, empty, length]
  rw [storeWord, load_store_of_disjoint (.inl (by omega)), load_store_of_disjoint (.inr (by simp))]
  have zero : total (hostWords [0, 0]) = 0 := rfl
  omega

theorem checksum_exact (fits : count.toNat ≤ 65535) (same : srcIp.length = destIp.length) :
    let words := checkedWords protocol (mem.load a count.toNat) srcIp destIp
    partialChecksum mem a count.toNat = OnesComplement.sum (hostWords (mem.load a count.toNat)) ∧
      (∀ words rest, 2 * words + rest = count.toNat → sumWords mem a count.toNat 0 =
          sumWords mem (a + 2 * words) rest (sumWords mem a (2 * words) 0) ∧
        (sumWords mem a (2 * words) 0).toNat + 65535 < 4294967296) ∧
      checksum protocol mem a count srcIp destIp = .ok (~~~OnesComplement.sum words) ∧
      (18 ≤ count.toNat → mem.load (a + 16) 2 = [0, 0] →
        checksum protocol (storeWord mem (a + 16) (~~~OnesComplement.sum words)) a count srcIp
          destIp = .ok 0) ∧
      ∀ (protocol' : UInt8) (mem' : Memory) (a' : ℕ) (count' : UInt32)
        (srcIp' destIp' : List UInt32) (i : ℕ) (lt : i < words.length) (word : UInt16),
        count'.toNat ≤ 65535 → srcIp'.length = destIp'.length →
        checkedWords protocol' (mem'.load a' count'.toNat) srcIp' destIp' = words.set i word →
        word.toNat % 65535 ≠ words[i].toNat % 65535 →
        checksum protocol' mem' a' count' srcIp' destIp' ≠
          checksum protocol mem a count srcIp destIp := by
  refine ⟨partialChecksum_eq, fun n rest eq => ?_, checksum_eq fits same, fun room empty => ?_, ?_⟩
  · have room : (0 : UInt32).toNat < 2147483648 := by decide
    obtain ⟨small, split⟩ := sumWords_split mem a rest n room
    rw [← eq]
    exact ⟨split, by omega⟩
  · rw [checksum_eq fits same, OnesComplement.sum_complement (total_stored room empty _)]
    rfl
  · intro protocol' mem' a' count' srcIp' destIp' i lt word fits' same' changed other eq
    rw [checksum_eq fits' same', checksum_eq fits same, changed] at eq
    have sums := UInt16.not_inj.mp (Except.ok.inj eq)
    exact OnesComplement.sum_set_ne lt other sums

/-- A header of zeros. -/
def zeros : Memory := fun _ => 0

theorem checksum_zeros : checksum IP_PROT_TCP zeros 0 20 [1] [2] =
    .ok (~~~OnesComplement.sum
      (checkedWords IP_PROT_TCP (zeros.load 0 (20 : UInt32).toNat) [1] [2])) := by
  have fits : (20 : UInt32).toNat ≤ 65535 := by decide
  have same : [(1 : UInt32)].length = [(2 : UInt32)].length := rfl
  obtain ⟨-, -, exact, -⟩ := @checksum_exact zeros 0 20 IP_PROT_TCP [1] [2] fits same
  exact exact

end TCPSerializer

end Inet
