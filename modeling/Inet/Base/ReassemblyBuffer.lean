import Inet.Lib.Along
import Inet.Lib.Tiling

/-!
# The reassembly buffer

One main range `[0, end)` that grows as fragments connect to it, and a vector of the regions that do
not connect yet. Offsets are `ushort`: what a caller passes is reduced modulo `2 ^ 16`.

`Reassembling.addFragment`: for the fragments of a tiling of `[0, n)` the buffer reports completion
exactly when all have arrived, with total length `n`.
-/

namespace Inet

open List

/-- The value that an `int` has when it is passed as a `ushort`. -/
def toUshort (value : ℕ) : ℕ := value % 65536

lemma toUshort_of_le {value : ℕ} (le : value ≤ 65535) : toUshort value = value :=
  Nat.mod_eq_of_lt (by omega)

structure Region where
  beg : ℕ
  end_ : ℕ
  islast : Bool
  deriving DecidableEq

/-- The vector `fragments` is allocated with its first region; a `NULL` pointer is an empty vector
here. -/
structure ReassemblyBuffer where
  main : Region
  fragments : List Region
  deriving DecidableEq

namespace ReassemblyBuffer

/-- The constructor. -/
def new : ReassemblyBuffer := ⟨⟨0, 0, false⟩, []⟩

/-! ## mergeFragments -/

/-- What one region of the vector does to `main`; `none` when it stays in the vector. -/
def absorb (main frag : Region) : Option Region :=
  if main.end_ = frag.beg then
    some { main with end_ := frag.end_, islast := main.islast || frag.islast }
  else if main.beg = frag.end_ then some { main with beg := frag.beg }
  else if main.beg ≤ frag.beg ∧ frag.end_ ≤ main.end_ then some main
  else none

/-- One walk over the vector: `main` and the vector after it, and `oncemore`. -/
def mergePass : Region → List Region → Region × List Region × Bool
  | main, [] => (main, [], false)
  | main, frag :: frags =>
      match absorb main frag with
      | some main' =>
          let result := mergePass main' frags
          (result.1, result.2.1, true)
      | none =>
          let result := mergePass main frags
          (result.1, frag :: result.2.1, result.2.2)

/-- The `do … while (oncemore)` loop, walking at most `fuel` times. -/
def mergeLoop : ℕ → Region → List Region → ReassemblyBuffer
  | 0, main, frags => ⟨main, frags⟩
  | fuel + 1, main, frags =>
      let result := mergePass main frags
      if result.2.2 then mergeLoop fuel result.1 result.2.1 else ⟨result.1, result.2.1⟩

/-- A walk that is followed by another one shortens the vector, so `length + 1` walks are enough
(`mergeLoop_invariant`). -/
def mergeFragments (buf : ReassemblyBuffer) : ReassemblyBuffer :=
  mergeLoop (buf.fragments.length + 1) buf.main buf.fragments

lemma mergePass_length (main : Region) (frags : List Region) :
    (mergePass main frags).2.1.length ≤ frags.length ∧ ((mergePass main frags).2.2 = true →
        (mergePass main frags).2.1.length < frags.length) := by
  induction frags generalizing main with
  | nil => simp [mergePass]
  | cons frag frags ih =>
    simp only [mergePass]
    cases absorb main frag with
    | some main' =>
      have rest := (ih main').1
      simp only [length_cons]
      omega
    | none =>
      obtain ⟨le, lt⟩ := ih main
      simp only [length_cons]
      exact ⟨by omega, fun more => Nat.succ_lt_succ (lt more)⟩

lemma mergePass_idle {main : Region} {frags : List Region}
    (idle : (mergePass main frags).2.2 = false) :
    mergePass main frags = (main, frags, false) ∧ ∀ frag ∈ frags, absorb main frag = none := by
  induction frags with
  | nil => simp [mergePass]
  | cons frag frags ih =>
    simp only [mergePass] at idle ⊢
    cases absorbed : absorb main frag with
    | some main' => simp [absorbed] at idle
    | none =>
      simp only [absorbed] at idle
      obtain ⟨same, stuck⟩ := ih idle
      refine ⟨by simp only [same], ?_⟩
      intro other mem
      rcases mem_cons.mp mem with rfl | mem
      · exact absorbed
      · exact stuck other mem

lemma mergePass_invariant {inv : Region → List Region → Prop}
    (step : ∀ main main' pre frag post, absorb main frag = some main' →
      inv main (pre ++ frag :: post) → inv main' (pre ++ post))
    {main : Region} {pre frags : List Region} (holds : inv main (pre ++ frags)) :
    inv (mergePass main frags).1 (pre ++ (mergePass main frags).2.1) := by
  induction frags generalizing main pre with
  | nil => exact holds
  | cons frag frags ih =>
    simp only [mergePass]
    cases absorbed : absorb main frag with
    | some main' => exact ih (step main main' pre frag frags absorbed holds)
    | none =>
      have shifted : inv main ((pre ++ [frag]) ++ frags) := by
        rw [append_assoc]
        exact holds
      have walked := ih shifted
      rw [append_assoc] at walked
      exact walked

lemma mergeLoop_invariant {inv : Region → List Region → Prop}
    (step : ∀ main main' pre frag post, absorb main frag = some main' →
      inv main (pre ++ frag :: post) → inv main' (pre ++ post))
    {fuel : ℕ} {main : Region} {frags : List Region} (enough : frags.length < fuel)
    (holds : inv main frags) :
    inv (mergeLoop fuel main frags).main (mergeLoop fuel main frags).fragments ∧
      ∀ frag ∈ (mergeLoop fuel main frags).fragments,
        absorb (mergeLoop fuel main frags).main frag = none := by
  induction fuel generalizing main frags with
  | zero => omega
  | succ fuel ih =>
    simp only [mergeLoop]
    have walked : inv (mergePass main frags).1 ([] ++ (mergePass main frags).2.1) :=
      mergePass_invariant step (by exact holds)
    split
    · rename_i more
      have shorter := (mergePass_length main frags).2 more
      exact ih (by omega) walked
    · rename_i idle
      obtain ⟨same, stuck⟩ := mergePass_idle (Bool.eq_false_iff.mpr idle)
      rw [same]
      exact ⟨holds, stuck⟩

def merge (buf : ReassemblyBuffer) (beg end_ : ℕ) (islast : Bool) : ReassemblyBuffer :=
  if buf.main.end_ = beg then
    mergeFragments
      { buf with main := { buf.main with end_ := end_, islast := buf.main.islast || islast } }
  else if buf.main.beg = end_ then
    mergeFragments { buf with main := { buf.main with beg := beg } }
  else if buf.main.end_ < beg ∨ end_ < buf.main.beg then
    { buf with fragments := buf.fragments ++ [⟨beg, end_, islast⟩] }
  else buf

/-- In an empty buffer only a fragment at offset 0 can set the flag of `main`. -/
lemma merge_new_islast {beg end_ : ℕ} {islast : Bool} (open_ : beg = 0 → islast = false) :
    (new.merge beg end_ islast).main.islast = false := by
  rw [merge]
  split_ifs with follows precedes disjoint
  · exact open_ follows.symm
  · rfl
  · rfl
  · rfl

/-- The answer says whether everything from offset 0 to the last fragment is there. -/
def addFragment (buf : ReassemblyBuffer) (beg end_ : ℕ) (islast : Bool) :
    ReassemblyBuffer × Bool :=
  let merged := buf.merge (toUshort beg) (toUshort end_) islast
  (merged, decide (merged.main.beg = 0) && merged.main.islast)

def getTotalLength (buf : ReassemblyBuffer) : ℕ := buf.main.end_

end ReassemblyBuffer

/-! ## Reassembling a tiling -/

open ReassemblyBuffer

variable {α : Type} (region : α → Region)

/-- What holds between two regions absorbed: what arrived is in `main`, which is `[0, m)`, or in the
vector. -/
structure Merging (xs : List α) (n : ℕ) (arrived : Set α) (main : Region)
    (fragments : List Region) : Prop where
  beg_eq : main.beg = 0
  assembled : Assembled (fun x => (region x).beg) (fun x => (region x).end_) xs arrived main.end_
  end_le : main.end_ ≤ n
  islast_iff : main.islast = true ↔ main.end_ = n
  kept : ∀ x ∈ arrived, (region x).end_ ≤ main.end_ ∨ region x ∈ fragments
  mem_arrived : ∀ frag ∈ fragments, ∃ x ∈ arrived, region x = frag

/-- Between two calls, moreover, no region of the vector connects to `main`. -/
structure Reassembling (xs : List α) (n : ℕ) (arrived : Set α) (buf : ReassemblyBuffer) : Prop
    extends Merging region xs n arrived buf.main buf.fragments where
  apart : ∀ frag ∈ buf.fragments, buf.main.end_ < frag.beg

section

variable {region} {xs : List α} {n : ℕ} {arrived : Set α} {main main' frag : Region}
  {pre post : List Region} {buf : ReassemblyBuffer} {x : α}

/-- The fragments of a datagram of `n` bytes: they tile it and the last one says so. -/
structure Fragments (region : α → Region) (xs : List α) (n : ℕ) : Prop where
  tiles : Tiles (fun x => (region x).beg) (fun x => (region x).end_) 0 xs n
  islast_iff : ∀ x ∈ xs, (region x).islast = true ↔ (region x).end_ = n
  pos : 0 < n

lemma Merging.absorb (frags : Fragments region xs n) (sub : arrived ⊆ {x | x ∈ xs})
    (absorbed : absorb main frag = some main')
    (merging : Merging region xs n arrived main (pre ++ frag :: post)) :
    Merging region xs n arrived main' (pre ++ post) := by
  obtain ⟨x, here, rfl⟩ := merging.mem_arrived frag (by simp)
  have mem : x ∈ xs := sub here
  have nonempty := frags.tiles.lo_lt_hi mem
  have rest : ∀ y ∈ arrived, (region y).end_ ≤ main.end_ ∨ region y ∈ pre ++ post ∨
      region y = region x := by
    intro y yHere
    rcases merging.kept y yHere with inside | stored
    · exact .inl inside
    · refine .inr ?_
      simp only [mem_append, mem_cons] at stored ⊢
      tauto
  have stays : ∀ frag ∈ pre ++ post, ∃ y ∈ arrived, region y = frag := by
    intro frag mem
    refine merging.mem_arrived frag ?_
    simp only [mem_append, mem_cons] at mem ⊢
    tauto
  simp only [ReassemblyBuffer.absorb] at absorbed
  split_ifs at absorbed with follows precedes inside <;> cases absorbed
  · -- the region follows `main`
    refine ⟨merging.beg_eq, merging.assembled.grow frags.tiles mem here follows.symm,
      frags.tiles.hi_le mem, ?_, ?_, stays⟩
    · have notYet : main.islast = false := by
        rw [Bool.eq_false_iff, Ne, merging.islast_iff]
        have le := frags.tiles.hi_le mem
        omega
      simp only [notYet, Bool.false_or]
      exact frags.islast_iff x mem
    · intro y yHere
      rcases rest y yHere with inside | stored | same
      · exact .inl (by dsimp only at *; omega)
      · exact .inr stored
      · exact .inl (by rw [same])
  · -- no region ends at offset 0
    have zero := merging.beg_eq
    omega
  · -- a duplicate of something in `main`
    refine ⟨merging.beg_eq, merging.assembled, merging.end_le, merging.islast_iff, ?_, stays⟩
    intro y yHere
    rcases rest y yHere with within | stored | same
    · exact .inl within
    · exact .inr stored
    · exact .inl (by rw [same]; exact inside.2)

lemma Merging.mergeFragments (frags : Fragments region xs n) (sub : arrived ⊆ {x | x ∈ xs})
    (merging : Merging region xs n arrived buf.main buf.fragments) :
    Reassembling region xs n arrived buf.mergeFragments := by
  have step : ∀ main main' pre frag post, ReassemblyBuffer.absorb main frag = some main' →
      Merging region xs n arrived main (pre ++ frag :: post) →
      Merging region xs n arrived main' (pre ++ post) :=
    fun _ _ _ _ _ absorbed holds => holds.absorb frags sub absorbed
  obtain ⟨merged, stuck⟩ := mergeLoop_invariant step (Nat.lt_succ_self buf.fragments.length) merging
  refine ⟨merged, ?_⟩
  intro frag mem
  obtain ⟨x, here, rfl⟩ := merged.mem_arrived frag mem
  have held := stuck _ mem
  have zero := merged.beg_eq
  simp only [ReassemblyBuffer.absorb] at held
  split_ifs at held with follows precedes inside
  -- it does not start where `main` ends, nor lie in it, and `main` cuts through no fragment
  rcases merged.assembled.uncut x (sub here) with within | beyond
  · exact absurd ⟨by omega, within⟩ inside
  · exact lt_of_le_of_ne beyond follows

namespace Reassembling

variable (frags : Fragments region xs n)
include frags

lemma new : Reassembling region xs n ∅ ReassemblyBuffer.new where
  beg_eq := rfl
  assembled := Assembled.start frags.tiles
  end_le := Nat.zero_le n
  islast_iff := by
    have pos := frags.pos
    simp only [ReassemblyBuffer.new, Bool.false_eq_true, false_iff]
    omega
  kept := fun _ mem => absurd mem (Set.notMem_empty _)
  mem_arrived := by simp [ReassemblyBuffer.new]
  apart := by simp [ReassemblyBuffer.new]

variable (s : Reassembling region xs n arrived buf)
include s

lemma complete_iff : buf.main.end_ = n ↔ ∀ x ∈ xs, x ∈ arrived := by
  refine s.assembled.eq_end_iff frags.tiles (Nat.zero_le _) s.end_le ?_
  intro x mem next here
  have nonempty := frags.tiles.lo_lt_hi mem
  rcases s.kept x here with inside | stored
  · omega
  · have := s.apart _ stored
    omega

lemma merge (sub : arrived ⊆ {x | x ∈ xs}) (mem : x ∈ xs) :
    Reassembling region xs n (insert x arrived)
      (buf.merge (region x).beg (region x).end_ (region x).islast) := by
  have nonempty : (region x).beg < (region x).end_ := frags.tiles.lo_lt_hi mem
  have sub' : insert x arrived ⊆ {x | x ∈ xs} := Set.insert_subset mem sub
  have assembled := s.assembled.mono (Set.subset_insert x arrived)
  have zero := s.beg_eq
  simp only [ReassemblyBuffer.merge]
  split_ifs with follows precedes disjoint
  · -- the fragment follows `main`
    refine Merging.mergeFragments frags sub' ?_
    have le := frags.tiles.hi_le mem
    refine ⟨zero, assembled.grow frags.tiles mem (Set.mem_insert x arrived) follows.symm, le,
      ?_, ?_, ?_⟩
    · have notYet : buf.main.islast = false := by
        rw [Bool.eq_false_iff, Ne, s.islast_iff]
        omega
      simp only [notYet, Bool.false_or]
      exact frags.islast_iff x mem
    · rintro y (rfl | here)
      · exact .inl le_rfl
      · rcases s.kept y here with inside | stored
        · exact .inl (by dsimp only; omega)
        · exact .inr stored
    · intro frag stored
      obtain ⟨y, here, eq⟩ := s.mem_arrived frag stored
      exact ⟨y, Set.mem_insert_of_mem x here, eq⟩
  · omega
  · -- it is put aside
    refine ⟨⟨zero, assembled, s.end_le, s.islast_iff, ?_, ?_⟩, ?_⟩
    · rintro y (rfl | here)
      · exact .inr (mem_append_right _ mem_cons_self)
      · exact (s.kept y here).imp_right (mem_append_left _)
    · intro frag stored
      rcases mem_append.mp stored with stored | last
      · obtain ⟨y, here, eq⟩ := s.mem_arrived frag stored
        exact ⟨y, Set.mem_insert_of_mem x here, eq⟩
      · exact ⟨x, Set.mem_insert x arrived, (mem_singleton.mp last).symm⟩
    · intro frag stored
      rcases mem_append.mp stored with stored | last
      · exact s.apart frag stored
      · rw [mem_singleton.mp last]
        dsimp only
        omega
  · -- it is a duplicate of something in `main`
    have inside : (region x).end_ ≤ buf.main.end_ := by
      rcases assembled.uncut x mem with within | beyond
      · exact within
      · omega
    refine ⟨⟨zero, assembled, s.end_le, s.islast_iff, ?_, ?_⟩, s.apart⟩
    · rintro y (rfl | here)
      · exact .inl inside
      · exact s.kept y here
    · intro frag stored
      obtain ⟨y, here, eq⟩ := s.mem_arrived frag stored
      exact ⟨y, Set.mem_insert_of_mem x here, eq⟩

/-- The buffer reports completion exactly when every fragment has arrived, and its total length
is then that of the datagram. -/
lemma addFragment (sub : arrived ⊆ {x | x ∈ xs}) (small : n ≤ 65535) (mem : x ∈ xs) :
    let result := buf.addFragment (region x).beg (region x).end_ (region x).islast
    Reassembling region xs n (insert x arrived) result.1 ∧
      (result.2 = true ↔ ∀ y ∈ xs, y ∈ insert x arrived) ∧
      (result.2 = true → result.1.getTotalLength = n) := by
  have le : (region x).end_ ≤ n := frags.tiles.hi_le mem
  have nonempty : (region x).beg < (region x).end_ := frags.tiles.lo_lt_hi mem
  have merged := s.merge frags sub mem
  simp only [ReassemblyBuffer.addFragment, toUshort_of_le (show (region x).beg ≤ 65535 by omega),
    toUshort_of_le (show (region x).end_ ≤ 65535 by omega), Bool.and_eq_true, decide_eq_true_eq,
    merged.beg_eq, true_and, merged.islast_iff]
  exact ⟨merged, merged.complete_iff frags, id⟩

end Reassembling

end

/-! ## Fragments that overlap -/

namespace ReassemblyBuffer

/-- The region has the offset in it. -/
def Covered (offset : ℕ) (frag : Region) : Prop := frag.beg ≤ offset ∧ offset < frag.end_

/-- Everything below `total` has been received. -/
def Covers (total : ℕ) (received : List Region) : Prop :=
  ∀ offset < total, ∃ frag ∈ received, Covered offset frag

/-- A range of a datagram of `total` bytes. -/
structure RangeOf (total : ℕ) (frag : Region) : Prop where
  le : frag.beg ≤ frag.end_
  end_le : frag.end_ ≤ total
  islast_iff : frag.islast = true ↔ frag.end_ = total

/-- The region begins inside of `main` and ends behind it. -/
def Cut (main frag : Region) : Prop := frag.beg < main.end_ ∧ main.end_ < frag.end_

instance (main frag : Region) : Decidable (Cut main frag) := inferInstanceAs (Decidable (_ ∧ _))

/-- There is a region that `mergeFragments` skips. -/
def Stranded (buf : ReassemblyBuffer) : Prop := ∃ frag ∈ buf.fragments, Cut buf.main frag

instance (buf : ReassemblyBuffer) : Decidable (Stranded buf) :=
  inferInstanceAs (Decidable (∃ frag ∈ buf.fragments, Cut buf.main frag))

/-- `addFragment` as a step. -/
def receive (buf : ReassemblyBuffer) (frag : Region) : Option ReassemblyBuffer :=
  some (buf.addFragment frag.beg frag.end_ frag.islast).1

/-- The ranges received, the last one first. -/
def noteRange (_ : ReassemblyBuffer) (frag : Region) (received : List Region) : List Region :=
  frag :: received

/-- The range is not dropped, and strands no region. -/
structure Fits (buf : ReassemblyBuffer) (frag : Region) : Prop where
  kept : ¬ Cut buf.main frag
  connects : ¬ Stranded (buf.merge frag.beg frag.end_ frag.islast)

instance (buf : ReassemblyBuffer) (frag : Region) : Decidable (Fits buf frag) :=
  decidable_of_iff (_ ∧ _) ⟨fun fits => ⟨fits.1, fits.2⟩, fun fits => ⟨fits.kept, fits.connects⟩⟩

/-- The answer to a call says whether everything has been received, and then the total length is
right. -/
structure Complete (total : ℕ) (received : List Region) (buf : ReassemblyBuffer)
    (frag : Region) : Prop where
  answer : (buf.addFragment frag.beg frag.end_ frag.islast).2 = true ↔
    Covers total (frag :: received)
  totalLength : (buf.addFragment frag.beg frag.end_ frag.islast).2 = true →
    (buf.addFragment frag.beg frag.end_ frag.islast).1.getTotalLength = total

/-- Everything received is in `main` or in the vector. -/
structure Holding (total : ℕ) (received : List Region) (main : Region) (fragments : List Region) :
    Prop where
  beg_eq : main.beg = 0
  end_le : main.end_ ≤ total
  islast_iff : main.islast = true ↔ main.end_ = total ∧ received ≠ []
  started : received = [] → main.end_ = 0
  stored : ∀ frag ∈ fragments, frag ∈ received ∧ RangeOf total frag
  received_iff : ∀ offset, (∃ frag ∈ received, Covered offset frag) ↔
    offset < main.end_ ∨ ∃ frag ∈ fragments, Covered offset frag

section

variable {total : ℕ} {received : List Region} {buf : ReassemblyBuffer}
  {main main' frag call : Region} {fragments pre post : List Region}

lemma Holding.new : Holding total [] ReassemblyBuffer.new.main [] where
  beg_eq := rfl
  end_le := Nat.zero_le total
  islast_iff := by simp [ReassemblyBuffer.new]
  started := fun _ => rfl
  stored := fun _ mem => absurd mem not_mem_nil
  received_iff := by simp [ReassemblyBuffer.new]

/-- What a region that is absorbed covers is in `main` then. -/
lemma Holding.absorb (absorbed : absorb main frag = some main')
    (holding : Holding total received main (pre ++ frag :: post)) :
    Holding total received main' (pre ++ post) := by
  obtain ⟨here, le, end_le, last⟩ := holding.stored frag (by simp)
  have beg_eq := holding.beg_eq
  have some : received ≠ [] := ne_nil_of_mem here
  have stored : ∀ other ∈ pre ++ post, other ∈ received ∧ RangeOf total other := by
    intro other mem
    refine holding.stored other ?_
    simp only [mem_append, mem_cons] at mem ⊢
    tauto
  have split : ∀ offset, (∃ other ∈ received, Covered offset other) ↔
      (offset < main.end_ ∨ Covered offset frag) ∨ ∃ other ∈ pre ++ post, Covered offset other := by
    intro offset
    rw [holding.received_iff]
    simp only [mem_append, mem_cons]
    grind
  have atEnd : main.islast = true → main.end_ = total := fun set => (holding.islast_iff.mp set).1
  simp only [ReassemblyBuffer.absorb] at absorbed
  split_ifs at absorbed with follows precedes inside <;> cases absorbed
  · -- the region follows `main`
    refine ⟨beg_eq, end_le, ?_, fun none => absurd none some, stored,
      fun offset => (split offset).trans (or_congr ?_ Iff.rfl)⟩
    · rw [Bool.or_eq_true, last, and_iff_left some]
      dsimp only
      constructor
      · rintro (set | eq)
        · have := atEnd set
          omega
        · exact eq
      · exact .inr
    · rw [Covered]
      dsimp only
      omega
  · -- it is empty, at offset 0
    refine ⟨by dsimp only; omega, holding.end_le, holding.islast_iff, holding.started, stored,
      fun offset => (split offset).trans (or_congr ?_ Iff.rfl)⟩
    rw [Covered]
    dsimp only
    omega
  · -- `main` covers it
    refine ⟨beg_eq, holding.end_le, holding.islast_iff, holding.started, stored,
      fun offset => (split offset).trans (or_congr ?_ Iff.rfl)⟩
    rw [Covered]
    omega

variable (holding : Holding total received buf.main buf.fragments)
include holding

/-- Behind the loop nothing connects to `main`: a region lies behind it, or is stranded. -/
lemma Holding.mergeFragments :
    Holding total received buf.mergeFragments.main buf.mergeFragments.fragments ∧
      (¬ Stranded buf.mergeFragments →
        ∀ frag ∈ buf.mergeFragments.fragments, buf.mergeFragments.main.end_ < frag.beg) := by
  have step : ∀ main main' pre frag post, ReassemblyBuffer.absorb main frag = some main' →
      Holding total received main (pre ++ frag :: post) →
      Holding total received main' (pre ++ post) :=
    fun _ _ _ _ _ absorbed holds => holds.absorb absorbed
  have merged : Holding total received buf.mergeFragments.main buf.mergeFragments.fragments ∧
      ∀ frag ∈ buf.mergeFragments.fragments,
        ReassemblyBuffer.absorb buf.mergeFragments.main frag = none :=
    mergeLoop_invariant step (Nat.lt_succ_self buf.fragments.length) holding
  obtain ⟨merged, stuck⟩ := merged
  refine ⟨merged, fun connected frag mem => ?_⟩
  have held := stuck frag mem
  have zero := merged.beg_eq
  have whole : ¬ Cut buf.mergeFragments.main frag := fun cut => connected ⟨frag, mem, cut⟩
  simp only [ReassemblyBuffer.absorb] at held
  split_ifs at held with follows precedes inside
  rw [Cut] at whole
  omega

/-- A range that is not cut is received, whatever it strands. -/
lemma Holding.merge (live : ∀ frag ∈ buf.fragments, buf.main.end_ < frag.beg)
    (range : RangeOf total call) (whole : ¬ Cut buf.main call) :
    Holding total (call :: received) (buf.merge call.beg call.end_ call.islast).main
        (buf.merge call.beg call.end_ call.islast).fragments ∧
      (¬ Stranded (buf.merge call.beg call.end_ call.islast) →
        ∀ frag ∈ (buf.merge call.beg call.end_ call.islast).fragments,
          (buf.merge call.beg call.end_ call.islast).main.end_ < frag.beg) := by
  obtain ⟨le, end_le, last⟩ := range
  have beg_eq := holding.beg_eq
  have stored : ∀ frag ∈ buf.fragments, frag ∈ call :: received ∧ RangeOf total frag :=
    fun frag mem => (holding.stored frag mem).imp_left (mem_cons_of_mem _)
  have split : ∀ offset, (∃ frag ∈ call :: received, Covered offset frag) ↔
      Covered offset call ∨ offset < buf.main.end_ ∨
        ∃ frag ∈ buf.fragments, Covered offset frag := by
    intro offset
    simp only [mem_cons, exists_eq_or_imp, holding.received_iff]
  have islast_iff : buf.main.end_ ≠ call.beg →
      (buf.main.islast = true ↔ buf.main.end_ = total ∧ call :: received ≠ []) := by
    intro apart
    rw [holding.islast_iff, and_iff_left (cons_ne_nil _ _)]
    refine and_iff_left_of_imp fun full none => ?_
    have zero := holding.started none
    omega
  have atEnd : buf.main.islast = true → buf.main.end_ = total :=
    fun set => (holding.islast_iff.mp set).1
  rw [ReassemblyBuffer.merge]
  split_ifs with follows precedes disjoint
  · -- the range follows `main`
    refine Holding.mergeFragments ⟨beg_eq, end_le, ?_, fun none => (nomatch none), stored, ?_⟩
    · rw [Bool.or_eq_true, last, and_iff_left (cons_ne_nil _ _)]
      dsimp only
      constructor
      · rintro (set | eq)
        · have := atEnd set
          omega
        · exact eq
      · exact .inr
    · intro offset
      rw [split, ← or_assoc]
      refine or_congr ?_ Iff.rfl
      rw [Covered]
      dsimp only
      omega
  · -- it is empty, at offset 0
    refine Holding.mergeFragments ⟨by dsimp only; omega, holding.end_le, islast_iff follows,
      fun none => (nomatch none), stored, fun offset => (split offset).trans ?_⟩
    rw [← or_assoc]
    refine or_congr ?_ Iff.rfl
    rw [Covered]
    dsimp only
    omega
  · -- it is stored
    have isCall : ∀ frag, frag ∈ buf.fragments ++ [⟨call.beg, call.end_, call.islast⟩] ↔
        frag ∈ buf.fragments ∨ frag = call := by
      intro frag
      rw [mem_append, mem_singleton]
    refine ⟨⟨beg_eq, holding.end_le, islast_iff follows, fun none => (nomatch none), ?_, ?_⟩, ?_⟩
    · intro frag mem
      rcases (isCall frag).mp mem with old | rfl
      · exact stored frag old
      · exact ⟨mem_cons_self, le, end_le, last⟩
    · intro offset
      grind
    · intro _ frag mem
      rcases (isCall frag).mp mem with old | rfl
      · exact live frag old
      · dsimp only
        omega
  · -- it is in `main`
    refine ⟨⟨beg_eq, holding.end_le, islast_iff follows, fun none => (nomatch none), stored,
      fun offset => (split offset).trans ?_⟩, fun _ => live⟩
    refine or_iff_right_of_imp fun covered => .inl ?_
    rw [Covered] at covered
    rw [Cut] at whole
    omega

lemma Holding.covers_iff (live : ∀ frag ∈ buf.fragments, buf.main.end_ < frag.beg) :
    Covers total received ↔ buf.main.end_ = total := by
  constructor
  · intro covers
    by_contra incomplete
    have next : buf.main.end_ < total := lt_of_le_of_ne holding.end_le incomplete
    rcases (holding.received_iff _).mp (covers _ next) with inside | ⟨frag, mem, begun, -⟩
    · exact absurd inside (lt_irrefl _)
    · exact absurd (live frag mem) (not_lt.mpr begun)
  · intro full offset below
    exact (holding.received_iff offset).mpr (.inl (full ▸ below))

omit holding

lemma addFragment_of_range (small : total ≤ 65535) (range : RangeOf total call) :
    buf.addFragment call.beg call.end_ call.islast = (buf.merge call.beg call.end_ call.islast,
        decide ((buf.merge call.beg call.end_ call.islast).main.beg = 0) &&
          (buf.merge call.beg call.end_ call.islast).main.islast) := by
  have end_le := range.end_le
  have le := range.le
  rw [addFragment, toUshort_of_le (by omega), toUshort_of_le (by omega)]

lemma complete_iff_of_not (no : (buf.addFragment call.beg call.end_ call.islast).2 = false) :
    Complete total received buf call ↔ ¬ Covers total (call :: received) := by
  constructor
  · intro complete covers
    have yes := complete.answer.mpr covers
    rw [no] at yes
    cases yes
  · intro missing
    constructor
    · rw [no]
      exact iff_of_false Bool.false_ne_true missing
    · rw [no]
      exact nofun

/-- The first call that does not fit is right only if something is missing. -/
lemma Holding.complete_iff (small : total ≤ 65535)
    (holding : Holding total received buf.main buf.fragments)
    (live : ∀ frag ∈ buf.fragments, buf.main.end_ < frag.beg) (range : RangeOf total call) :
    Complete total received buf call ↔ Fits buf call ∨ ¬ Covers total (call :: received) := by
  have added := @addFragment_of_range total buf call small range
  have end_le := range.end_le
  by_cases whole : Cut buf.main call
  · -- the range is dropped, and `main` does not reach the end of the datagram
    have notFits : ¬ Fits buf call := fun fits => fits.kept whole
    rw [or_iff_right notFits]
    refine complete_iff_of_not ?_
    have dropped : buf.merge call.beg call.end_ call.islast = buf := by
      have beg_eq := holding.beg_eq
      rw [Cut] at whole
      rw [ReassemblyBuffer.merge, if_neg (by omega), if_neg (by omega), if_neg (by omega)]
    have open_ : buf.main.islast = false := by
      rw [Bool.eq_false_iff, Ne, holding.islast_iff]
      rw [Cut] at whole
      omega
    rw [added, dropped, open_, Bool.and_false]
  · obtain ⟨held, connected⟩ := holding.merge live range whole
    have answer : (buf.addFragment call.beg call.end_ call.islast).2 = true ↔
        (buf.merge call.beg call.end_ call.islast).main.end_ = total := by
      rw [added]
      simp [held.beg_eq, held.islast_iff]
    by_cases stranded : Stranded (buf.merge call.beg call.end_ call.islast)
    · -- the region that is stranded ends behind `main`
      have notFits : ¬ Fits buf call := fun fits => fits.connects stranded
      rw [or_iff_right notFits]
      refine complete_iff_of_not ?_
      obtain ⟨frag, mem, cut⟩ := stranded
      have bound := (held.stored frag mem).2.end_le
      rw [Bool.eq_false_iff, Ne, answer]
      rw [Cut] at cut
      omega
    · refine iff_of_true ⟨?_, fun full => ?_⟩ (.inl ⟨whole, stranded⟩)
      · rw [answer, held.covers_iff (connected stranded)]
      · rw [answer] at full
        rw [added]
        exact full

lemma Holding.run {calls : List Region} {start : ReassemblyBuffer} {before : List Region}
    (small : total ≤ 65535) (ranges : ∀ frag ∈ calls, RangeOf total frag)
    (fits : Along (withHistory receive noteRange) (fun state frag => Fits state.1 frag)
      (start, before) calls)
    (run : runFrom (withHistory receive noteRange) (start, before) calls = some (buf, received))
    (holding : Holding total before start.main start.fragments)
    (live : ∀ frag ∈ start.fragments, start.main.end_ < frag.beg) :
    Holding total received buf.main buf.fragments ∧
      ∀ frag ∈ buf.fragments, buf.main.end_ < frag.beg := by
  induction calls generalizing start before with
  | nil =>
    cases run
    exact ⟨holding, live⟩
  | cons call calls ih =>
    obtain ⟨range, ranges⟩ := forall_mem_cons.mp ranges
    have next : withHistory receive noteRange (start, before) call =
        some (start.merge call.beg call.end_ call.islast, call :: before) := by
      rw [withHistory, receive, addFragment_of_range small range]
      rfl
    obtain ⟨fit, fits⟩ := fits
    obtain ⟨held, connected⟩ := holding.merge live range fit.kept
    refine ih ranges (fits _ next) ?_ held (connected fit.connects)
    rw [runFrom, next] at run
    exact run

end

/-- While every range fits, an answer is right exactly if its range fits, too, or something is
missing. -/
theorem addFragment_complete_iff {total : ℕ} (small : total ≤ 65535) {calls : List Region}
    (ranges : ∀ frag ∈ calls, RangeOf total frag)
    (fits : Along (withHistory receive noteRange) (fun state frag => Fits state.1 frag)
      (ReassemblyBuffer.new, []) calls) {buf : ReassemblyBuffer} {received : List Region}
    (run : runFrom (withHistory receive noteRange) (ReassemblyBuffer.new, []) calls =
      some (buf, received)) {call : Region} (range : RangeOf total call) :
    Complete total received buf call ↔ Fits buf call ∨ ¬ Covers total (call :: received) := by
  obtain ⟨holding, live⟩ := Holding.run small ranges fits run .new
    fun _ mem => absurd mem not_mem_nil
  exact holding.complete_iff small live range

/-- Three overlapping ranges that fit: the first one lies in the second one, which is put aside. -/
def nested : List Region := [⟨12, 15, false⟩, ⟨10, 20, false⟩, ⟨0, 10, false⟩]

/-- The last range overlaps them all and connects. -/
theorem addFragment_nested :
    Complete 30 nested.reverse ⟨⟨0, 20, false⟩, []⟩ ⟨20, 30, true⟩ ↔
      Fits ⟨⟨0, 20, false⟩, []⟩ ⟨20, 30, true⟩ ∨
        ¬ Covers 30 (⟨20, 30, true⟩ :: nested.reverse) := by
  have ranges : ∀ frag ∈ nested, RangeOf 30 frag := by
    rintro frag mem
    simp only [nested, mem_cons, not_mem_nil, or_false] at mem
    rcases mem with rfl | rfl | rfl <;> exact ⟨by decide, by decide, by decide⟩
  exact addFragment_complete_iff (by decide) ranges (by decide) (by decide)
    ⟨by decide, by decide, by decide⟩

/-- The second half of a datagram that begins in the first one is dropped. -/
theorem addFragment_overlapping :
    ¬ ∀ (total : ℕ) (calls : List Region) (buf : ReassemblyBuffer) (received : List Region)
      (call : Region), total ≤ 65535 → (∀ frag ∈ calls, RangeOf total frag) →
      runFrom (withHistory receive noteRange) (ReassemblyBuffer.new, []) calls =
        some (buf, received) → RangeOf total call → Complete total received buf call := by
  intro claim
  have complete := claim 20 [⟨0, 10, false⟩] ⟨⟨0, 10, false⟩, []⟩ [⟨0, 10, false⟩] ⟨5, 20, true⟩
    (by decide) (by simpa using ⟨by decide, by decide, by decide⟩) (by decide)
    ⟨by decide, by decide, by decide⟩
  have covers : Covers 20 [⟨5, 20, true⟩, ⟨0, 10, false⟩] := by
    intro offset below
    rcases lt_or_ge offset 10 with first | second
    · exact ⟨⟨0, 10, false⟩, by simp, Nat.zero_le _, first⟩
    · exact ⟨⟨5, 20, true⟩, by simp, by dsimp only; omega, below⟩
  have no : (addFragment ⟨⟨0, 10, false⟩, []⟩ 5 20 true).2 = false := by decide
  have yes := complete.answer.mpr covers
  cases yes

end ReassemblyBuffer

end Inet
