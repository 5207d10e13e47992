import Inet.Ipv4.Address
import Mathlib.Data.List.TakeWhile

/-!
# The text of an IPv4 address

`parseIPAddress` reads the numbers into an `int`, without a check before the end of a number. An
`int` wraps here, so some numbers with more than nine digits pass.
-/

namespace Inet.Ipv4.IPv4Address

open List

def set (i0 i1 i2 i3 : UInt8) : IPv4Address :=
  BitVec.ofNat 32 i0.toNat <<< 24 ||| BitVec.ofNat 32 i1.toNat <<< 16 |||
    BitVec.ofNat 32 i2.toNat <<< 8 ||| BitVec.ofNat 32 i3.toNat

/-- The loop over the digits of a number. -/
def readNumber : List Char → ℤ → ℤ × List Char
  | [], num => (num, [])
  | c :: s, num =>
      if c.isDigit then readNumber s ((10 * num + (c.toNat - '0'.toNat : ℕ)).bmod 4294967296)
      else (num, c :: s)

/-- The loop over the numbers, with how many of the four are left. -/
def readNumbers : ℕ → List Char → Option (List UInt8)
  | 0, _ => none
  | left + 1, s =>
      if s.head?.any Char.isDigit then
        let (num, s) := readNumber s 0
        if 255 < num then none
        else match s with
          | [] => if left = 0 then some [UInt8.ofInt num] else none
          | c :: s =>
              if c ≠ '.' ∨ left = 0 then none
              else (readNumbers left s).map (UInt8.ofInt num :: ·)
      else none

/-- The bytes, if the text is one of an address. -/
def parseIPAddress (text : List Char) : Option (List UInt8) :=
  if text = "<unspec>".toList then some [0, 0, 0, 0] else readNumbers 4 text

/-- So many numbers without sign, separated by single dots. -/
structure IsNumbers (count : ℕ) (text : List Char) : Prop where
  length : (text.splitOn '.').length = count
  digits : ∀ part ∈ text.splitOn '.', part ≠ [] ∧ ∀ c ∈ part, c.isDigit = true

def numbers (text : List Char) : List ℕ := (text.splitOn '.').map (Nat.ofDigitChars 10 · 0)

/-- Four numbers, each of them a byte. -/
def DottedQuad (text : List Char) (bytes : List UInt8) : Prop :=
  IsNumbers 4 text ∧ numbers text = bytes.map UInt8.toNat

/-- The parser accepts the dotted quads and the text of the unspecified address. -/
def ParsesQuads (text : List Char) : Prop :=
  ∀ bytes, parseIPAddress text = some bytes ↔
    (text = "<unspec>".toList ∧ bytes = [0, 0, 0, 0]) ∨ DottedQuad text bytes

/-- Modulo `2 ^ 32` the number is at most 255 or one that is negative as an `int`. -/
def Passes (n : ℕ) : Prop := n % 4294967296 ≤ 255 ∨ 2147483648 ≤ n % 4294967296

/-- Four numbers that pass, one of which is too big. -/
def WrapsAround (text : List Char) : Prop :=
  IsNumbers 4 text ∧ (∀ n ∈ numbers text, Passes n) ∧ ∃ n ∈ numbers text, 255 < n

/-! ## What is read -/

variable {text part rest : List Char} {left count n : ℕ} {bytes : List UInt8}

/-- What an `int` holds of the number. -/
def wrapped (n : ℕ) : ℤ := (n : ℤ).bmod 4294967296

lemma wrapped_eq (n : ℕ) : wrapped n =
    if (n : ℤ) % 4294967296 < 2147483648 then (n : ℤ) % 4294967296
    else (n : ℤ) % 4294967296 - 4294967296 :=
  Int.bmod_def _ _

lemma passes_iff : Passes n ↔ ¬ 255 < wrapped n := by
  rw [Passes, wrapped_eq]
  split_ifs <;> omega

lemma ofInt_wrapped (le : n ≤ 255) : UInt8.ofInt (wrapped n) = UInt8.ofNat n := by
  have same : wrapped n = n := by
    rw [wrapped_eq, if_pos (by omega)]
    omega
  have lt : (n : ℤ) % 256 = n := Int.emod_eq_of_lt (by omega) (by omega)
  rw [same, UInt8.ofInt]
  exact congrArg (UInt8.ofNat ·.toNat) lt

lemma dot_notMem (digits : ∀ c ∈ part, c.isDigit = true) : '.' ∉ part :=
  fun mem => absurd (digits _ mem) (by decide)

lemma IsNumbers.mem (isNumbers : IsNumbers count text) {c : Char} (mem : c ∈ text) :
    c.isDigit = true ∨ c = '.' := by
  have inside : ∀ parts : List (List Char), (∀ part ∈ parts, ∀ c ∈ part, c.isDigit = true) →
      c ∈ ['.'].intercalate parts → c.isDigit = true ∨ c = '.' := by
    intro parts digits
    induction parts with
    | nil => exact fun mem => absurd mem not_mem_nil
    | cons part parts ih =>
      rw [forall_mem_cons] at digits
      cases parts with
      | nil =>
        rw [intercalate_singleton]
        exact fun mem => .inl (digits.1 c mem)
      | cons next parts =>
        rw [intercalate_cons_cons, append_assoc, mem_append, mem_append, mem_singleton]
        exact fun mem => mem.elim (.inl ∘ digits.1 c) fun mem => mem.elim .inr (ih digits.2)
  refine inside (text.splitOn '.') (fun part mem => (isNumbers.digits part mem).2) ?_
  rwa [intercalate_splitOn]

lemma readNumber_append (digits : ∀ c ∈ part, c.isDigit = true)
    (stop : rest.head?.any Char.isDigit = false) :
    readNumber (part ++ rest) (wrapped n) = (wrapped (Nat.ofDigitChars 10 part n), rest) := by
  induction part generalizing n with
  | nil =>
    cases rest with
    | nil => rfl
    | cons c rest => exact if_neg (by simpa using stop)
  | cons c part ih =>
    rw [forall_mem_cons] at digits
    have step : (10 * wrapped n + (c.toNat - '0'.toNat : ℕ)).bmod 4294967296 =
        wrapped (10 * n + (c.toNat - '0'.toNat)) := by
      refine Int.bmod_add_bmod.symm.trans ?_
      have times : (10 * wrapped n).bmod 4294967296 = (10 * (n : ℤ)).bmod 4294967296 :=
        Int.mul_bmod_bmod
      rw [times]
      exact Int.bmod_add_bmod
    rw [cons_append, readNumber, if_pos digits.1, step, ih digits.2, Nat.ofDigitChars_cons]

lemma readNumbers_eq_some : readNumbers count text = some bytes ↔
    IsNumbers count text ∧ (∀ n ∈ numbers text, Passes n) ∧
      bytes = (numbers text).map fun n => UInt8.ofInt (wrapped n) := by
  induction count generalizing text bytes with
  | zero =>
    refine iff_of_false nofun fun isNumbers => ?_
    exact splitOn_ne_nil _ _ (eq_nil_of_length_eq_zero isNumbers.1.length)
  | succ left ih =>
    obtain ⟨part, rest, rfl, digits, stop⟩ : ∃ part rest, text = part ++ rest ∧
        (∀ c ∈ part, c.isDigit = true) ∧ rest.head?.any Char.isDigit = false := by
      refine ⟨text.takeWhile Char.isDigit, text.dropWhile Char.isDigit,
        takeWhile_append_dropWhile.symm, fun c mem => mem_takeWhile_imp mem, ?_⟩
      cases later : text.dropWhile Char.isDigit with
      | nil => rfl
      | cons c rest =>
        have first := head?_dropWhile_not Char.isDigit text
        rw [later] at first
        simpa using first
    rw [readNumbers]
    cases part with
    | nil =>
      rw [nil_append, stop, if_neg Bool.false_ne_true]
      refine iff_of_false nofun fun isNumbers => ?_
      cases rest with
      | nil => exact (isNumbers.1.digits [] mem_cons_self).1 rfl
      | cons c rest =>
        rcases isNumbers.1.mem mem_cons_self with digit | rfl
        · exact absurd digit (by simpa using stop)
        · have first := isNumbers.1.digits []
          exact (first mem_cons_self).1 rfl
    | cons d part =>
      have ne : d :: part ≠ [] := cons_ne_nil d part
      rw [if_pos (by simpa using digits d mem_cons_self)]
      have read : readNumber (d :: part ++ rest) 0 = _ := readNumber_append (n := 0) digits stop
      rw [read]
      generalize d :: part = part at *
      cases rest with
      | nil =>
        have split : (part ++ []).splitOn '.' = [part] := by
          rw [append_nil, splitOn_eq_singleton (dot_notMem digits)]
        have isNumbers : IsNumbers (left + 1) (part ++ []) ↔ left = 0 := by
          constructor
          · intro isNumbers
            have length := isNumbers.length
            rw [split] at length
            exact (Nat.succ.inj length).symm
          · rintro rfl
            refine ⟨by rw [split]; rfl, fun part' mem => ?_⟩
            rw [split] at mem
            exact mem_singleton.mp mem ▸ ⟨ne, digits⟩
        rw [isNumbers, numbers, split, map_singleton, forall_mem_singleton, passes_iff]
        by_cases big : 255 < wrapped (Nat.ofDigitChars 10 part 0)
        · simp [big]
        · by_cases zero : left = 0
          · simp [big, zero, eq_comm]
          · simp [big, zero]
      | cons c rest =>
        by_cases dot : c = '.'
        · subst dot
          have split : (part ++ '.' :: rest).splitOn '.' = part :: rest.splitOn '.' :=
            splitOn_append_cons_self_of_not_mem (dot_notMem digits) rest
          have isNumbers : IsNumbers (left + 1) (part ++ '.' :: rest) ↔ IsNumbers left rest := by
            constructor
            · rintro ⟨length, all⟩
              rw [split] at length all
              exact ⟨Nat.succ.inj length, fun part' mem => all part' (mem_cons_of_mem _ mem)⟩
            · rintro ⟨length, all⟩
              refine ⟨by rw [split, length_cons, length], ?_⟩
              rw [split]
              exact forall_mem_cons.mpr ⟨⟨ne, digits⟩, all⟩
          have skip : ∀ byte : UInt8, (if '.' ≠ '.' ∨ left = 0 then none
              else (readNumbers left rest).map (byte :: ·)) =
                (readNumbers left rest).map (byte :: ·) := by
            intro byte
            cases left <;> rfl
          rw [isNumbers, numbers, split, map_cons, forall_mem_cons, passes_iff]
          dsimp only
          rw [skip]
          by_cases big : 255 < wrapped (Nat.ofDigitChars 10 part 0)
          · simp [big]
          · rw [if_neg big, Option.map_eq_some_iff]
            constructor
            · rintro ⟨later, read, rfl⟩
              obtain ⟨isNumbers, passes, rfl⟩ := ih.mp read
              exact ⟨isNumbers, ⟨big, passes⟩, rfl⟩
            · rintro ⟨isNumbers, ⟨-, passes⟩, rfl⟩
              exact ⟨_, ih.mpr ⟨isNumbers, passes, rfl⟩, rfl⟩
        · refine iff_of_false ?_ fun isNumbers => ?_
          · split_ifs <;> simp_all
          · rcases isNumbers.1.mem (mem_append_right part mem_cons_self) with digit | same
            · exact absurd digit (by simpa using stop)
            · exact dot same

lemma not_isNumbers_unspec : ¬ IsNumbers count "<unspec>".toList := by
  intro isNumbers
  rcases isNumbers.mem (c := '<') (by decide) with digit | same
  · exact absurd digit (by decide)
  · exact absurd same (by decide)

lemma parsesQuads_iff (text : List Char) : ParsesQuads text ↔ ¬ WrapsAround text := by
  by_cases unspec : text = "<unspec>".toList
  · subst unspec
    refine iff_of_true (fun bytes => ?_) fun wraps => not_isNumbers_unspec wraps.1
    rw [parseIPAddress, if_pos rfl, Option.some_inj, and_iff_right rfl, DottedQuad,
      or_iff_left fun quad => not_isNumbers_unspec quad.1]
    exact eq_comm
  · have reads (bytes : List UInt8) : (parseIPAddress text = some bytes ↔
        (text = "<unspec>".toList ∧ bytes = [0, 0, 0, 0]) ∨ DottedQuad text bytes) ↔
        (readNumbers 4 text = some bytes ↔ DottedQuad text bytes) := by
      rw [parseIPAddress, if_neg unspec, or_iff_right fun both => unspec both.1]
    rw [ParsesQuads, forall_congr' reads]
    constructor
    · rintro exact_ ⟨isNumbers, passes, n, mem, big⟩
      obtain ⟨-, same⟩ := (exact_ _).mp (readNumbers_eq_some.mpr ⟨isNumbers, passes, rfl⟩)
      rw [same] at mem
      obtain ⟨byte, -, rfl⟩ := mem_map.mp mem
      exact absurd byte.toNat_lt (by omega)
    · intro fits bytes
      rw [readNumbers_eq_some, DottedQuad]
      refine and_congr_right fun isNumbers => ?_
      constructor
      · rintro ⟨passes, rfl⟩
        have small : ∀ n ∈ numbers text, n ≤ 255 := fun n mem =>
          not_lt.mp fun big => fits ⟨isNumbers, passes, n, mem, big⟩
        rw [map_map]
        refine (map_id _).symm.trans (map_congr_left fun n mem => ?_)
        rw [Function.comp_apply, ofInt_wrapped (small n mem), UInt8.toNat_ofNat']
        exact (Nat.mod_eq_of_lt (Nat.lt_succ_of_le (small n mem))).symm
      · intro same
        rw [same, forall_mem_map, map_map]
        refine ⟨fun byte _ => ?_, (map_id _).symm.trans (map_congr_left fun byte _ => ?_)⟩
        · have lt := byte.toNat_lt
          exact .inl (by omega)
        · rw [Function.comp_apply, ofInt_wrapped (Nat.le_of_lt_succ byte.toNat_lt)]
          exact UInt8.ofNat_toNat.symm

lemma getElem_255 (i : ℕ) (lt : i < 32) : (255#32)[i] = decide (i < 8) := by
  revert i
  decide

lemma splitOn_toDigits (n : ℕ) (text : List Char) :
    (Nat.toDigits 10 n ++ '.' :: text).splitOn '.' = Nat.toDigits 10 n :: text.splitOn '.' :=
  splitOn_append_cons_self_of_not_mem (dot_notMem fun c mem =>
    Nat.isDigit_of_mem_toDigits (by decide) (by decide) mem) text

lemma dottedQuad_strNumeric (addr : IPv4Address) : ∃ i0 i1 i2 i3 : UInt8,
    DottedQuad addr.strNumeric.toList [i0, i1, i2, i3] ∧ set i0 i1 i2 i3 = addr := by
  have lt (x : IPv4Address) : (x &&& 255#32).toNat < 256 := by
    exact Nat.and_lt_two_pow _ (by decide : 255 < 2 ^ 8)
  have back (x : IPv4Address) : BitVec.ofNat 32 (UInt8.ofNat (x &&& 255#32).toNat).toNat =
      x &&& 255#32 := by
    rw [UInt8.toNat_ofNat', Nat.mod_eq_of_lt (lt x), BitVec.ofNat_toNat, BitVec.setWidth_eq]
  have byte (x : IPv4Address) : (UInt8.ofNat (x &&& 255#32).toNat).toNat = (x &&& 255#32).toNat :=
    UInt8.toNat_ofNat'.trans (Nat.mod_eq_of_lt (lt x))
  have last (n : ℕ) : (Nat.toDigits 10 n).splitOn '.' = [Nat.toDigits 10 n] :=
    splitOn_eq_singleton (dot_notMem fun c mem =>
      Nat.isDigit_of_mem_toDigits (by decide) (by decide) mem)
  have split : addr.strNumeric.toList.splitOn '.' =
      [addr >>> 24 &&& 255#32, addr >>> 16 &&& 255#32, addr >>> 8 &&& 255#32, addr &&& 255#32].map
        fun x => Nat.toDigits 10 x.toNat := by
    simp only [strNumeric, String.toList_append, Nat.toString_eq_repr, Nat.toList_repr]
    simp only [String.reduceToList, append_assoc, cons_append, nil_append]
    rw [splitOn_toDigits, splitOn_toDigits, splitOn_toDigits, last]
    rfl
  refine ⟨UInt8.ofNat (addr >>> 24 &&& 255#32).toNat, UInt8.ofNat (addr >>> 16 &&& 255#32).toNat,
    UInt8.ofNat (addr >>> 8 &&& 255#32).toNat, UInt8.ofNat (addr &&& 255#32).toNat,
    ⟨⟨by rw [split]; rfl, ?_⟩, ?_⟩, ?_⟩
  · rw [split, forall_mem_map]
    exact fun x _ => ⟨Nat.toDigits_ne_nil, fun c mem =>
      Nat.isDigit_of_mem_toDigits (by decide) (by decide) mem⟩
  · rw [numbers, split]
    simp only [map_cons, map_nil, byte, Nat.ofDigitChars_ten_toDigits]
  · simp only [set, back]
    grind [getElem_255]

/-- The text of every address is parsed to its bytes, and a text as it should be just when it is no
four numbers that pass, one of which is too big. -/
theorem parseIPAddress_iff (addr : IPv4Address) (text : List Char) :
    (∃ i0 i1 i2 i3 : UInt8,
      parseIPAddress addr.strNumeric.toList = some [i0, i1, i2, i3] ∧ set i0 i1 i2 i3 = addr) ∧
    (ParsesQuads text ↔ ¬ WrapsAround text) := by
  refine ⟨?_, parsesQuads_iff text⟩
  obtain ⟨i0, i1, i2, i3, quad, same⟩ := dottedQuad_strNumeric addr
  have fits : ¬ WrapsAround addr.strNumeric.toList := by
    rintro ⟨-, -, n, mem, big⟩
    rw [quad.2] at mem
    obtain ⟨byte, -, rfl⟩ := mem_map.mp mem
    exact absurd byte.toNat_lt (by omega)
  exact ⟨i0, i1, i2, i3, ((parsesQuads_iff _).mpr fits _).mpr (.inr quad), same⟩

theorem parseIPAddress_wraps : ¬ ParsesQuads "4294967296.0.0.0".toList := by
  have parts : "4294967296.0.0.0".toList.splitOn '.' =
      ["4294967296".toList, ['0'], ['0'], ['0']] := by decide
  have numbers : numbers "4294967296.0.0.0".toList = [4294967296, 0, 0, 0] := by decide
  rw [parsesQuads_iff, not_not, WrapsAround, numbers]
  refine ⟨⟨by decide, ?_⟩, ?_, 4294967296, mem_cons_self, by decide⟩
  · rw [parts]
    simp
  · simp [Passes]

end Inet.Ipv4.IPv4Address
