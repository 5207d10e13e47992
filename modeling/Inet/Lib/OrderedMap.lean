import Mathlib

/-!
# Maps in the order of their keys

A finite map is the list of its entries, ascending by key. Two maps with the same entries are equal.
-/

namespace Inet

open List

variable {K V : Type*} [LinearOrder K]

/-- Ascending keys. -/
def Ascending (entries : List (K × V)) : Prop := entries.Pairwise fun a b => a.1 < b.1

@[ext]
structure OrderedMap (K V : Type*) [LinearOrder K] where
  entries : List (K × V)
  ascending : Ascending entries

namespace OrderedMap

instance : Membership (K × V) (OrderedMap K V) := ⟨fun m e => e ∈ m.entries⟩

def empty : OrderedMap K V := ⟨[], .nil⟩

def size (m : OrderedMap K V) : ℕ := m.entries.length

def get? (m : OrderedMap K V) (k : K) : Option V :=
  (m.entries.find? fun e => e.1 = k).map Prod.snd

/-- The entry with the least key. -/
def first? (m : OrderedMap K V) : Option (K × V) := m.entries.head?

/-- The first entry that passes the test. -/
def find? (m : OrderedMap K V) (p : K × V → Bool) : Option (K × V) := m.entries.find? p

def erase (m : OrderedMap K V) (k : K) : OrderedMap K V :=
  ⟨m.entries.filter fun e => e.1 ≠ k, m.ascending.filter _⟩

/-- The entries with one more, or another one, under the key. -/
def putEntry (k : K) (v : V) : List (K × V) → List (K × V)
  | [] => [(k, v)]
  | e :: rest =>
      if k < e.1 then (k, v) :: e :: rest
      else if k = e.1 then (k, v) :: rest
      else e :: putEntry k v rest

lemma mem_putEntry {k : K} {v : V} {entries : List (K × V)} (ascending : Ascending entries)
    {e : K × V} : e ∈ putEntry k v entries ↔ e = (k, v) ∨ (e ∈ entries ∧ e.1 ≠ k) := by
  induction entries with
  | nil => simp [putEntry]
  | cons a rest ih =>
    obtain ⟨first, restAscending⟩ := pairwise_cons.mp ascending
    rw [putEntry]
    split_ifs with before same
    · have apart : ∀ b ∈ a :: rest, b.1 ≠ k := by
        intro b mem
        rcases mem_cons.mp mem with rfl | mem
        · exact before.ne'
        · exact (before.trans (first b mem)).ne'
      rw [mem_cons]
      exact or_congr_right ⟨fun mem => ⟨mem, apart e mem⟩, And.left⟩
    · subst same
      rw [mem_cons, mem_cons]
      refine or_congr_right ⟨fun mem => ⟨.inr mem, (first e mem).ne'⟩, ?_⟩
      rintro ⟨rfl | mem, ne⟩
      · exact absurd rfl ne
      · exact mem
    · rw [mem_cons, ih restAscending, mem_cons]
      constructor
      · rintro (rfl | rfl | ⟨mem, ne⟩)
        · exact .inr ⟨.inl rfl, fun eq => same eq.symm⟩
        · exact .inl rfl
        · exact .inr ⟨.inr mem, ne⟩
      · rintro (rfl | ⟨rfl | mem, ne⟩)
        · exact .inr (.inl rfl)
        · exact .inl rfl
        · exact .inr (.inr ⟨mem, ne⟩)

lemma ascending_putEntry {k : K} {v : V} {entries : List (K × V)}
    (ascending : Ascending entries) : Ascending (putEntry k v entries) := by
  induction entries with
  | nil => exact pairwise_singleton _ _
  | cons a rest ih =>
    obtain ⟨first, restAscending⟩ := pairwise_cons.mp ascending
    rw [putEntry]
    split_ifs with before same
    · refine pairwise_cons.mpr ⟨fun b mem => ?_, ascending⟩
      rcases mem_cons.mp mem with rfl | mem
      · exact before
      · exact before.trans (first b mem)
    · subst same
      exact pairwise_cons.mpr ⟨first, restAscending⟩
    · refine pairwise_cons.mpr ⟨fun b mem => ?_, ih restAscending⟩
      rcases (mem_putEntry restAscending).mp mem with rfl | ⟨mem, -⟩
      · exact lt_of_le_of_ne (not_lt.mp before) (Ne.symm same)
      · exact first b mem

def put (m : OrderedMap K V) (k : K) (v : V) : OrderedMap K V :=
  ⟨putEntry k v m.entries, ascending_putEntry m.ascending⟩

def mapValues (m : OrderedMap K V) (f : K → V → V) : OrderedMap K V :=
  ⟨m.entries.map fun e => (e.1, f e.1 e.2), List.pairwise_map.mpr (m.ascending.imp fun lt => lt)⟩

variable {m m' : OrderedMap K V} {k k' : K} {v v' : V} {e : K × V} {p : K × V → Bool}

lemma mem_put : e ∈ m.put k v ↔ e = (k, v) ∨ (e ∈ m ∧ e.1 ≠ k) := mem_putEntry m.ascending

lemma mem_erase : e ∈ m.erase k ↔ e ∈ m ∧ e.1 ≠ k := by
  change e ∈ m.entries.filter _ ↔ _
  rw [mem_filter, decide_eq_true_iff]
  exact Iff.rfl

lemma mem_mapValues {f : K → V → V} :
    (k, v) ∈ m.mapValues f ↔ ∃ v', (k, v') ∈ m ∧ f k v' = v := by
  change (k, v) ∈ m.entries.map _ ↔ _
  rw [mem_map]
  constructor
  · rintro ⟨⟨k', v'⟩, mem, eq⟩
    obtain ⟨rfl, rfl⟩ := Prod.mk.inj eq
    exact ⟨v', mem, rfl⟩
  · rintro ⟨v', mem, rfl⟩
    exact ⟨(k, v'), mem, rfl⟩

lemma notMem_empty : e ∉ (empty : OrderedMap K V) := not_mem_nil

lemma eq_of_mem (mem : (k, v) ∈ m) (mem' : (k, v') ∈ m) : v = v' := by
  obtain ⟨pre, post, split⟩ := append_of_mem mem
  have ascending := m.ascending
  change (k, v') ∈ m.entries at mem'
  rw [split] at mem'
  rw [split] at ascending
  obtain ⟨-, rest, across⟩ := pairwise_append.mp ascending
  rcases mem_append.mp mem' with before | here
  · exact absurd (across _ before _ mem_cons_self) (lt_irrefl k)
  · rcases mem_cons.mp here with same | after
    · exact (Prod.mk.inj same).2.symm
    · exact absurd ((pairwise_cons.mp rest).1 _ after) (lt_irrefl k)

lemma get?_eq_some : m.get? k = some v ↔ (k, v) ∈ m := by
  rw [get?, Option.map_eq_some_iff]
  constructor
  · rintro ⟨⟨k', v'⟩, found, rfl⟩
    have test := find?_some found
    obtain rfl : k' = k := of_decide_eq_true test
    exact mem_of_find?_eq_some found
  · intro mem
    obtain ⟨e, found⟩ := Option.isSome_iff_exists.mp
      (find?_isSome.mpr ⟨(k, v), mem, decide_eq_true rfl⟩ :
        (m.entries.find? fun e => e.1 = k).isSome)
    obtain ⟨k', v'⟩ := e
    have test := find?_some found
    obtain rfl : k' = k := of_decide_eq_true test
    exact ⟨_, found, eq_of_mem (mem_of_find?_eq_some found) mem⟩

lemma get?_eq_none : m.get? k = none ↔ ∀ v, (k, v) ∉ m := by
  rw [Option.eq_none_iff_forall_ne_some]
  exact forall_congr' fun v => not_congr get?_eq_some

lemma get?_isSome : (m.get? k).isSome ↔ ∃ v, (k, v) ∈ m := by
  rw [Option.isSome_iff_exists]
  exact exists_congr fun v => get?_eq_some

lemma find?_eq_some : m.find? p = some e ↔ e ∈ m ∧ p e ∧ ∀ e' ∈ m, p e' → e.1 ≤ e'.1 := by
  rw [find?, find?_eq_some_iff_append]
  constructor
  · rintro ⟨holds, pre, post, split, fails⟩
    have ascending := m.ascending
    rw [split] at ascending
    obtain ⟨-, rest, -⟩ := pairwise_append.mp ascending
    have mem : e ∈ m.entries := by simp [split]
    refine ⟨mem, holds, fun e' mem' holds' => ?_⟩
    change e' ∈ m.entries at mem'
    rw [split] at mem'
    rcases mem_append.mp mem' with before | here
    · exact absurd holds' (by simpa using fails e' before)
    · rcases mem_cons.mp here with rfl | after
      · exact le_rfl
      · exact ((pairwise_cons.mp rest).1 e' after).le
  · rintro ⟨mem, holds, least⟩
    obtain ⟨pre, post, split⟩ := append_of_mem mem
    have ascending := m.ascending
    rw [split] at ascending
    obtain ⟨-, -, across⟩ := pairwise_append.mp ascending
    refine ⟨holds, pre, post, split, fun e' before => ?_⟩
    have below := across e' before e mem_cons_self
    have mem' : e' ∈ m.entries := by simp [split, before]
    by_contra holds'
    exact absurd (least e' mem' (by simpa using holds')) (not_le.mpr below)

lemma find?_eq_none : m.find? p = none ↔ ∀ e ∈ m, p e = false := by
  rw [find?, List.find?_eq_none]
  exact forall₂_congr fun e _ => Bool.not_eq_true (p e) ▸ Iff.rfl

lemma first?_eq_some : m.first? = some e ↔ e ∈ m ∧ ∀ e' ∈ m, e.1 ≤ e'.1 := by
  have here : m.first? = m.find? fun _ => true := by
    rw [first?, find?]
    cases m.entries <;> rfl
  rw [here, find?_eq_some]
  simp

lemma first?_eq_none : m.first? = none ↔ m = empty := by
  rw [first?, head?_eq_none_iff, OrderedMap.ext_iff]
  exact Iff.rfl

lemma nodup (m : OrderedMap K V) : m.entries.Nodup :=
  m.ascending.imp fun lt eq => lt.ne (congrArg Prod.fst eq)

lemma ext_mem (same : ∀ e, e ∈ m ↔ e ∈ m') : m = m' := by
  have perm : m.entries.Perm m'.entries := (perm_ext_iff_of_nodup m.nodup m'.nodup).mpr same
  exact OrderedMap.ext (perm.eq_of_pairwise (fun a b _ _ ab ba => absurd ab ba.asymm)
    m.ascending m'.ascending)

lemma put_perm (absent : ∀ v', (k, v') ∉ m) : (m.put k v).entries.Perm ((k, v) :: m.entries) := by
  refine (perm_ext_iff_of_nodup (nodup _) ?_).mpr fun e => ?_
  · exact nodup_cons.mpr ⟨absent v, nodup m⟩
  · refine mem_put.trans ?_
    rw [mem_cons]
    refine or_congr_right ⟨And.left, fun mem => ⟨mem, ?_⟩⟩
    rintro rfl
    exact absent e.2 mem

lemma erase_perm (mem : (k, v) ∈ m) : m.entries.Perm ((k, v) :: (m.erase k).entries) := by
  refine (perm_ext_iff_of_nodup (nodup _) ?_).mpr fun e => ?_
  · exact nodup_cons.mpr ⟨fun mem' => (mem_erase.mp mem').2 rfl, nodup _⟩
  · rw [mem_cons]
    constructor
    · intro mem'
      by_cases same : e.1 = k
      · obtain ⟨k', v'⟩ := e
        subst same
        exact .inl (congrArg _ (eq_of_mem mem' mem))
      · exact .inr (mem_erase.mpr ⟨mem', same⟩)
    · rintro (rfl | mem')
      · exact mem
      · exact (mem_erase.mp mem').1

/-- The sum of a measure over the entries. -/
def total (m : OrderedMap K V) (f : V → ℕ) : ℕ := (m.entries.map fun e => f e.2).sum

variable (f : V → ℕ)

lemma total_empty : (empty : OrderedMap K V).total f = 0 := rfl

lemma total_put (absent : ∀ v', (k, v') ∉ m) : (m.put k v).total f = f v + m.total f := by
  rw [total, ((put_perm absent).map _).sum_eq]
  rfl

lemma total_erase (mem : (k, v) ∈ m) : m.total f = f v + (m.erase k).total f := by
  rw [total, ((erase_perm mem).map _).sum_eq]
  rfl

end OrderedMap

end Inet
