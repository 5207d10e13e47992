import Inet.Ipv6.Address
import Mathlib.Data.List.Chain
import Mathlib.Tactic.IntervalCases

/-!
# The text of an IPv6 address

`str` prints a longest run of zero groups as `::`, and `tryParse` fills it in again.
-/

namespace Inet.Ipv6.IPv6Address

open List Nat Option

def hexDigit (c : Char) : Option ℕ :=
  if c.isDigit then some (c.toNat - '0'.toNat)
  else if 'a' ≤ c ∧ c ≤ 'f' then some (c.toNat - 'a'.toNat + 10)
  else if 'A' ≤ c ∧ c ≤ 'F' then some (c.toNat - 'A'.toNat + 10)
  else none

/-- The digits at the front, behind those that are read already. -/
def hexDigits : List Char → ℕ → ℕ × List Char
  | [], n => (n, [])
  | c :: s, n =>
      match hexDigit c with
      | some digit => hexDigits s (16 * n + digit)
      | none => (n, c :: s)

/-- Whether the number is negative. -/
def skipSign : List Char → Bool × List Char
  | '-' :: s => (true, s)
  | '+' :: s => (false, s)
  | s => (false, s)

/-- `0x` is skipped if a digit is behind it. -/
def skipPrefix : List Char → List Char
  | '0' :: x :: c :: s =>
      if (x = 'x' ∨ x = 'X') ∧ (hexDigit c).isSome then c :: s else '0' :: x :: c :: s
  | s => s

/-- `strtoul(s, &e, 16)` of a 64-bit `unsigned long`; nothing if no digit is converted. -/
def strtoul (s : List Char) : Option (ℕ × List Char) :=
  let (negative, s) := skipSign (s.dropWhile fun c => c = ' ' ∨ '\t' ≤ c ∧ c ≤ '\r')
  let s := skipPrefix s
  if s.head?.any fun c => (hexDigit c).isSome then
    let (n, e) := hexDigits s 0
    some (if 2 ^ 64 ≤ n then 2 ^ 64 - 1 else if negative then (2 ^ 64 - n) % 2 ^ 64 else n, e)
  else none

/-- The loop, with how many of the eight groups are left. -/
def parseGroups : ℕ → List Char → List (BitVec 16) × List Char
  | 0, s => ([], s)
  | left + 1, s =>
      match strtoul s with
      | none => ([], if left = 7 then s else ':' :: s)
      | some (grp, e) =>
          if 0xffff < grp then ([], s)
          else match e with
            | ':' :: s =>
                if left = 0 then ([.ofNat 16 grp], e)
                else ((parseGroups left s).map (.ofNat 16 grp :: ·) id)
            | _ => ([.ofNat 16 grp], e)

def ofGroups (groups : List (BitVec 16)) : IPv6Address :=
  groups.foldl (fun d group => d <<< 16 ||| group.setWidth 128) 0

/-- The address, and the text behind it. -/
def doTryParse (addr : List Char) : Option (IPv6Address × List Char) :=
  if addr = "<unspec>".toList then some (0, [])
  else
    let (groups, addr) := parseGroups 8 addr
    match addr with
    | ':' :: ':' :: addr =>
        let (suffixGroups, addr) := parseGroups 8 addr
        if 8 < groups.length + suffixGroups.length then none
        else some (ofGroups (groups ++
          List.replicate (8 - (groups.length + suffixGroups.length)) 0 ++ suffixGroups), addr)
    | addr => if groups.length ≠ 8 then none else some (ofGroups groups, addr)

/-- Whether the text is accepted, and the address `d` afterwards. -/
def tryParse (d : IPv6Address) (addr : List Char) : Bool × IPv6Address :=
  match doTryParse addr with
  | none => (false, d)
  | some (d, addr) => (addr.isEmpty, d)

def groups (addr : IPv6Address) : List (BitVec 16) :=
  [112, 96, 80, 64, 48, 32, 16, 0].map fun i => addr.extractLsb' i 16

/-- The loop from group `i` on: `beg`, or nothing for -1, and `start` and `end`. -/
def findGapLoop : List (BitVec 16) → ℕ → Option ℕ → ℕ × ℕ → Option ℕ × ℕ × ℕ
  | [], _, beg, gap => (beg, gap)
  | group :: groups, i, none, gap =>
      findGapLoop groups (i + 1) (if group = 0 then some i else none) gap
  | group :: groups, i, some beg, (start, stop) =>
      if group ≠ 0 then
        findGapLoop groups (i + 1) none
          (if 2 ≤ i - beg ∧ stop - start < i - beg then (beg, i) else (start, stop))
      else findGapLoop groups (i + 1) (some beg) (start, stop)

def findGap (groups : List (BitVec 16)) : ℕ × ℕ :=
  match findGapLoop groups 0 none (0, 0) with
  | (none, gap) => gap
  | (some beg, start, stop) =>
      if beg ≤ 6 ∧ stop - start < 8 - beg then (beg, 8) else (start, stop)

/-- Hexadecimal numbers with colons between them. -/
def print (groups : List (BitVec 16)) : List Char :=
  [':'].intercalate (groups.map fun group => Nat.toDigits 16 group.toNat)

def str (addr : IPv6Address) : List Char :=
  if addr.isUnspecified then "<unspec>".toList
  else
    let (start, stop) := findGap addr.groups
    if start = 0 ∧ stop = 8 then "::0".toList
    else print (addr.groups.take start) ++ (if start ≠ stop then [':', ':'] else []) ++
      print (addr.groups.drop stop)

/-! ## The gap -/

/-- The groups from `i` up to `j` are zero. -/
structure ZeroRun (groups : List (BitVec 16)) (i j : ℕ) : Prop where
  le : i ≤ j
  zero : ∀ k, i ≤ k → k < j → groups[k]? = some 0

/-- A longest run of zero groups, or no gap where no two zero groups are next to each other. -/
structure IsGap (groups : List (BitVec 16)) (gap : ℕ × ℕ) : Prop where
  run : ZeroRun groups gap.1 gap.2
  two : gap = (0, 0) ∨ gap.1 + 2 ≤ gap.2
  longest : ∀ i j, ZeroRun groups i j → j - i ≤ max 1 (gap.2 - gap.1)

variable {all rest gs : List (BitVec 16)} {i : ℕ} {beg : Option ℕ} {gap : ℕ × ℕ}

/-- Where the groups up to `i` are searched, only the run at `beg` may go on. -/
structure Searched (all : List (BitVec 16)) (i : ℕ) (beg : Option ℕ) (gap : ℕ × ℕ) : Prop where
  run : ZeroRun all gap.1 gap.2
  two : gap = (0, 0) ∨ gap.1 + 2 ≤ gap.2
  going : ∀ b ∈ beg, b < i ∧ ZeroRun all b i
  apart : ∀ a c, ZeroRun all a c → c ≤ beg.getD i ∨ beg.getD i ≤ a
  longest : ∀ a c, ZeroRun all a c → c ≤ beg.getD i → c - a ≤ max 1 (gap.2 - gap.1)

lemma ZeroRun.le_length {j : ℕ} (run : ZeroRun all i j) (lt : i < j) : j ≤ all.length := by
  have zero := run.zero (j - 1) (by omega) (by omega)
  have := (List.getElem?_eq_some_iff.mp zero).1
  omega

lemma ZeroRun.concat {b : ℕ} (run : ZeroRun all b i) (zero : all[i]? = some 0) :
    ZeroRun all b (i + 1) :=
  ⟨le_succ_of_le run.le, fun k ge lt => by
    rcases Nat.lt_succ_iff_lt_or_eq.mp lt with lt | rfl
    · exact run.zero k ge lt
    · exact zero⟩

/-- A run is on one side of a group that is not zero. -/
lemma ZeroRun.apart {a c : ℕ} {group : BitVec 16} (run : ZeroRun all a c)
    (here : all[i]? = some group) (ne : group ≠ 0) : c ≤ i ∨ i + 1 ≤ a := by
  by_contra inside
  have zero := run.zero i (by omega) (by omega)
  rw [here] at zero
  exact ne (Option.some.inj zero)

lemma Searched.zero (searched : Searched all i beg gap) (zero : all[i]? = some 0) :
    Searched all (i + 1) (some (beg.getD i)) gap where
  run := searched.run
  two := searched.two
  going b mem := by
    obtain rfl := mem_some.mp mem
    cases beg with
    | none =>
      have empty : ZeroRun all i i := ⟨le_rfl, fun k ge lt => absurd lt (not_lt.mpr ge)⟩
      exact ⟨lt_succ_self i, empty.concat zero⟩
    | some b =>
      obtain ⟨lt, run⟩ := searched.going b rfl
      exact ⟨lt_succ_of_lt lt, run.concat zero⟩
  apart := searched.apart
  longest := searched.longest

/-- A run ends; it is the gap if it is longer. -/
lemma Searched.stop {group : BitVec 16} {gap' : ℕ × ℕ} (searched : Searched all i beg gap)
    (here : all[i]? = some group) (ne : group ≠ 0)
    (best : gap' = gap ∧ i - beg.getD i ≤ max 1 (gap.2 - gap.1) ∨
      gap' = (beg.getD i, i) ∧ 2 ≤ i - beg.getD i ∧ gap.2 - gap.1 < i - beg.getD i) :
    Searched all (i + 1) none gap' := by
  have larger : max 1 (gap.2 - gap.1) ≤ max 1 (gap'.2 - gap'.1) ∧
      i - beg.getD i ≤ max 1 (gap'.2 - gap'.1) := by
    rcases best with ⟨rfl, le⟩ | ⟨rfl, two, lt⟩
    · exact ⟨le_rfl, le⟩
    · omega
  refine ⟨?_, ?_, nofun, fun a c run => ?_, fun a c run le => ?_⟩
  · rcases best with ⟨rfl, -⟩ | ⟨rfl, two, -⟩
    · exact searched.run
    · cases beg with
      | none => exact absurd two (by simp)
      | some b => exact (searched.going b rfl).2
  · rcases best with ⟨rfl, -⟩ | ⟨rfl, two, -⟩
    · exact searched.two
    · exact .inr (by dsimp only; omega)
  · exact (run.apart here ne).imp_left le_succ_of_le
  · have side := run.apart here ne
    change c ≤ i + 1 at le
    rcases searched.apart a c run with before | behind
    · exact (searched.longest a c run before).trans larger.1
    · exact le_trans (by omega) larger.2

lemma findGapLoop_searched (searched : Searched all i beg gap) (later : all.drop i = rest)
    (le : i ≤ all.length) :
    Searched all all.length (findGapLoop rest i beg gap).1 (findGapLoop rest i beg gap).2 := by
  induction rest generalizing i beg gap with
  | nil =>
    obtain rfl : i = all.length := le_antisymm le (drop_eq_nil_iff.mp later)
    exact searched
  | cons group rest ih =>
    have here : all[i]? = some group := by
      rw [← head?_drop, later, head?_cons]
    have next : all.drop (i + 1) = rest := by
      rw [← tail_drop, later, tail_cons]
    have lt : i < all.length := (List.getElem?_eq_some_iff.mp here).1
    cases beg with
    | none =>
      rw [findGapLoop]
      by_cases zero : group = 0
      · rw [if_pos zero]
        exact ih (searched.zero (zero ▸ here)) next lt
      · rw [if_neg zero]
        exact ih (searched.stop here zero (.inl ⟨rfl, by simp⟩)) next lt
    | some b =>
      rw [findGapLoop]
      by_cases zero : group = 0
      · rw [if_neg (not_not.mpr zero)]
        exact ih (searched.zero (zero ▸ here)) next lt
      · rw [if_pos zero]
        refine ih (searched.stop here zero ?_) next lt
        split
        · rename_i longer
          exact .inr ⟨rfl, longer⟩
        · rename_i short
          exact .inl ⟨rfl, by dsimp only [getD_some]; omega⟩

lemma isGap_findGap (length : all.length = 8) : IsGap all (findGap all) := by
  have start : Searched all 0 none (0, 0) :=
    ⟨⟨le_rfl, fun k _ _ => by omega⟩, .inl rfl, nofun, fun _ _ _ => .inr (zero_le _),
      fun a c _ le => by dsimp only [getD_none] at le; omega⟩
  have searched := findGapLoop_searched start drop_zero (zero_le _)
  rw [findGap]
  rcases found : findGapLoop all 0 none (0, 0) with ⟨beg, start, stop⟩
  rw [found, length] at searched
  cases beg with
  | none =>
    refine ⟨searched.run, searched.two, fun i j run => ?_⟩
    by_cases empty : j ≤ i
    · omega
    · exact searched.longest i j run (length ▸ run.le_length (not_le.mp empty))
  | some beg =>
    obtain ⟨small, run⟩ := searched.going beg rfl
    dsimp only
    split
    · rename_i longer
      refine ⟨run, .inr (by dsimp only; omega), fun i j other => ?_⟩
      rcases searched.apart i j other with before | behind
      · have le := searched.longest i j other before
        dsimp only at le ⊢
        omega
      · have := other.le_length
        dsimp only [getD_some] at behind ⊢
        omega
    · rename_i short
      refine ⟨searched.run, searched.two, fun i j other => ?_⟩
      rcases searched.apart i j other with before | behind
      · exact searched.longest i j other before
      · have := other.le_length
        dsimp only [getD_some] at behind ⊢
        omega

lemma toDigits_induction {motive : ℕ → List Char → Prop} (n : ℕ)
    (digit : ∀ n < 16, motive n [Nat.digitChar n]) (concat : ∀ n digits, ∀ d < 16, motive n digits →
      motive (16 * n + d) (digits ++ [Nat.digitChar d])) : motive n (Nat.toDigits 16 n) := by
  induction n using Nat.strong_induction_on with
  | _ n ih =>
    by_cases lt : n < 16
    · rw [toDigits_of_lt_base lt]
      exact digit n lt
    · rw [toDigits_of_base_le (by decide) (not_lt.mp lt)]
      have := concat (n / 16) _ (n % 16) (mod_lt n (by decide)) (ih (n / 16) (by omega))
      rwa [div_add_mod] at this

lemma exists_toDigits (n : ℕ) : ∃ c digits, Nat.toDigits 16 n = c :: digits :=
  exists_cons_of_ne_nil toDigits_ne_nil

lemma hexDigit_digitChar : ∀ d < 16, hexDigit (Nat.digitChar d) = some d := by
  decide

lemma hexDigits_toDigits (n : ℕ) (text : List Char) :
    hexDigits (Nat.toDigits 16 n ++ text) 0 = hexDigits text n := by
  refine toDigits_induction (motive := fun n digits => ∀ text,
    hexDigits (digits ++ text) 0 = hexDigits text n) n (fun n lt text => ?_)
    (fun n digits d lt ih text => ?_) text
  · rw [singleton_append, hexDigits, hexDigit_digitChar n lt]
    change hexDigits text (16 * 0 + n) = hexDigits text n
    rw [mul_zero, zero_add]
  · rw [append_assoc, ih, singleton_append, hexDigits, hexDigit_digitChar d lt]

lemma hexDigit_of_mem (n : ℕ) : ∀ c ∈ Nat.toDigits 16 n, (hexDigit c).isSome := by
  refine toDigits_induction (motive := fun _ digits => ∀ c ∈ digits, (hexDigit c).isSome) n
    (fun n lt => ?_) fun n digits d lt ih => ?_
  · rw [forall_mem_singleton, hexDigit_digitChar n lt]
    rfl
  · rw [forall_mem_append, forall_mem_singleton, hexDigit_digitChar d lt]
    exact ⟨ih, rfl⟩

lemma zero_le_of_hexDigit {c : Char} (hex : (hexDigit c).isSome) : 48 ≤ c.toNat := by
  rw [hexDigit] at hex
  split_ifs at hex with digit lower upper
  · exact (Char.isDigit_iff_toNat.mp digit).1
  · exact le_trans (by decide) (Char.le_def.mp lower.1)
  · exact le_trans (by decide) (Char.le_def.mp upper.1)
  · cases hex

lemma strtoul_toDigits (group : BitVec 16) {text : List Char} (stop : ∀ c ∈ text.head?, c = ':') :
    strtoul (Nat.toDigits 16 group.toNat ++ text) = some (group.toNat, text) := by
  have hex := hexDigit_of_mem group.toNat
  have value := hexDigits_toDigits group.toNat text
  have behind : hexDigits text group.toNat = (group.toNat, text) := by
    cases text with
    | nil => rfl
    | cons c text =>
      obtain rfl := stop c rfl
      rfl
  rw [behind] at value
  obtain ⟨c, digits, eq⟩ := exists_toDigits group.toNat
  rw [eq] at hex value ⊢
  rw [cons_append] at value ⊢
  have first := hex c mem_cons_self
  have ge := zero_le_of_hexDigit first
  have second : ∀ x ∈ (digits ++ text).head?, ¬ (x = 'x' ∨ x = 'X') := by
    intro x mem
    cases digits with
    | nil =>
      obtain rfl := stop x mem
      decide
    | cons d digits =>
      obtain rfl := mem_some.mp mem
      have later := hex d (mem_cons_of_mem c mem_cons_self)
      rintro (rfl | rfl)
      · exact absurd later (by decide)
      · exact absurd later (by decide)
  have trimmed : (c :: (digits ++ text)).dropWhile (fun c => c = ' ' ∨ '\t' ≤ c ∧ c ≤ '\r') =
      c :: (digits ++ text) := by
    refine dropWhile_cons_of_neg fun space => ?_
    rcases of_decide_eq_true space with rfl | ⟨-, le⟩
    · exact absurd ge (by decide)
    · exact absurd (ge.trans le) (by decide)
  have unsigned : skipSign (c :: (digits ++ text)) = (false, c :: (digits ++ text)) := by
    unfold skipSign
    split
    · rename_i same
      obtain ⟨rfl, -⟩ := List.cons.inj same
      exact absurd ge (by decide)
    · rename_i same
      obtain ⟨rfl, -⟩ := List.cons.inj same
      exact absurd ge (by decide)
    · rfl
  have bare : skipPrefix (c :: (digits ++ text)) = c :: (digits ++ text) := by
    unfold skipPrefix
    split
    · rename_i same
      rw [(List.cons.inj same).2] at second
      rw [if_neg fun both => second _ rfl both.1, same]
    · rfl
  simp only [strtoul, trimmed, unsigned, bare, head?_cons, any_some, first, value, if_true]
  rw [if_neg (by omega), if_neg Bool.false_ne_true]

/-! ## The round trip -/

/-- Nothing, or the gap. -/
def Ends (text : List Char) : Prop := text = [] ∨ ∃ s, text = ':' :: ':' :: s

lemma print_singleton (group : BitVec 16) : print [group] = Nat.toDigits 16 group.toNat :=
  intercalate_singleton

lemma print_cons_cons (group next : BitVec 16) (groups : List (BitVec 16)) :
    print (group :: next :: groups) =
      Nat.toDigits 16 group.toNat ++ ':' :: print (next :: groups) := by
  rfl

variable {text : List Char}

lemma parseGroups_cons {left : ℕ} (group : BitVec 16) (le : gs.length ≤ left) (most : left ≤ 7)
    (ends : Ends text) :
    parseGroups (left + 1) (print (group :: gs) ++ text) = (group :: gs, text) := by
  have small (group : BitVec 16) : ¬ 0xffff < group.toNat := not_lt.mpr (le_of_lt_succ group.isLt)
  have same (group : BitVec 16) : BitVec.ofNat 16 group.toNat = group := by
    rw [BitVec.ofNat_toNat, BitVec.setWidth_eq]
  induction gs generalizing left group with
  | nil =>
    rw [print_singleton]
    rcases ends with rfl | ⟨s, rfl⟩
    · rw [parseGroups, strtoul_toDigits group (by simp)]
      simp only [small, same, if_false]
    · rw [parseGroups, strtoul_toDigits group (by simp)]
      simp only [small, same, if_false]
      cases left with
      | zero => rfl
      | succ left =>
        have none : strtoul (':' :: s) = none := rfl
        rw [if_neg (succ_ne_zero left), parseGroups, none]
        rw [if_neg (by omega)]
        rfl
  | cons next gs ih =>
    obtain ⟨left, rfl⟩ := Nat.exists_eq_add_of_lt le
    rw [print_cons_cons, append_assoc, parseGroups, strtoul_toDigits group (by simp)]
    simp only [small, same, if_false, cons_append]
    rw [if_neg (by omega), ih next (by omega) (by omega)]
    rfl

lemma parseGroups_print (le : gs.length ≤ 8) (ends : Ends text) :
    parseGroups 8 (print gs ++ text) = (gs, text) := by
  cases gs with
  | nil =>
    have none : strtoul text = none := by
      rcases ends with rfl | ⟨s, rfl⟩
      · rfl
      · rfl
    rw [print, map_nil, intercalate_nil, nil_append, parseGroups, none]
    rfl
  | cons group gs => exact parseGroups_cons group (le_of_succ_le_succ le) le_rfl ends

lemma shift_step (addr : IPv6Address) (i : ℕ) :
    (addr >>> (i + 16)) <<< 16 ||| (addr.extractLsb' i 16).setWidth 128 = addr >>> i := by
  ext j lt
  by_cases low : j < 16
  · simp [low]
  · have same : i + 16 + (j - 16) = i + j := by omega
    simp [low, same]

lemma ofGroups_groups (addr : IPv6Address) : ofGroups addr.groups = addr := by
  have start : (0 : IPv6Address) = addr >>> (112 + 16) := (BitVec.ushiftRight_eq_zero le_rfl).symm
  rw [ofGroups, groups, start]
  simp only [map_cons, map_nil, foldl_cons, foldl_nil]
  rw [shift_step addr 112, shift_step addr 96, shift_step addr 80, shift_step addr 64,
    shift_step addr 48, shift_step addr 32, shift_step addr 16, shift_step addr 0]
  exact BitVec.ushiftRight_zero addr

lemma ne_unspec (le : gs.length ≤ 8) (ends : Ends text) :
    print gs ++ text ≠ "<unspec>".toList := by
  intro same
  have parsed := parseGroups_print le ends
  rw [same] at parsed
  obtain rfl : "<unspec>".toList = text := (Prod.mk.inj parsed).2
  rcases ends with none | ⟨s, two⟩
  · cases none
  · cases two

lemma doTryParse_print (length : gs.length = 8) :
    doTryParse (print gs) = some (ofGroups gs, []) := by
  have ends : Ends [] := .inl rfl
  have ne := ne_unspec length.le ends
  have parsed := parseGroups_print length.le ends
  rw [append_nil] at ne parsed
  rw [doTryParse, if_neg ne, parsed]
  dsimp only
  rw [if_neg (not_not.mpr length)]

lemma doTryParse_gap {suffixGroups : List (BitVec 16)}
    (le : gs.length + suffixGroups.length ≤ 8) :
    doTryParse (print gs ++ ':' :: ':' :: print suffixGroups) =
      some (ofGroups (gs ++ List.replicate (8 - (gs.length + suffixGroups.length)) 0 ++
        suffixGroups), []) := by
  have ends : Ends (':' :: ':' :: print suffixGroups) := .inr ⟨_, rfl⟩
  have behind : parseGroups 8 (print suffixGroups ++ []) = (suffixGroups, []) :=
    parseGroups_print (by omega) (.inl rfl)
  rw [append_nil] at behind
  rw [doTryParse, if_neg (ne_unspec (by omega) ends), parseGroups_print (by omega) ends]
  simp only [behind]
  exact if_neg (not_lt.mpr le)

lemma ZeroRun.filled {j : ℕ} (run : ZeroRun all i j) (le : j ≤ all.length) :
    all.take i ++ List.replicate (j - i) 0 ++ all.drop j = all := by
  have middle : (all.drop i).take (j - i) = List.replicate (j - i) 0 := by
    refine eq_replicate_iff.mpr ⟨?_, fun group mem => ?_⟩
    · rw [length_take, length_drop]
      omega
    · obtain ⟨k, at_⟩ := mem_iff_getElem?.mp mem
      rw [getElem?_take] at at_
      split at at_
      · rename_i lt
        rw [getElem?_drop, run.zero (i + k) (by omega) (by omega)] at at_
        exact (Option.some.inj at_).symm
      · cases at_
  have behind : all.drop j = (all.drop i).drop (j - i) := by
    rw [List.drop_drop, Nat.add_sub_cancel' run.le]
  rw [← middle, behind, append_assoc, take_append_drop, take_append_drop]

/-- Not two colons. -/
def NotColons (c next : Char) : Prop := ¬ (c = ':' ∧ next = ':')

lemma digits_isChain {c : Char} {digits : List Char} (ne : ∀ d ∈ c :: digits, d ≠ ':') :
    (c :: (digits ++ [':'])).IsChain NotColons := by
  induction digits generalizing c with
  | nil => exact isChain_pair.mpr fun both => ne c mem_cons_self both.1
  | cons d digits ih =>
    rw [cons_append, isChain_cons_cons]
    exact ⟨fun both => ne c mem_cons_self both.1, ih (forall_mem_cons.mp ne).2⟩

lemma print_isChain (group : BitVec 16) (gs : List (BitVec 16)) :
    (':' :: (print (group :: gs) ++ [':'])).IsChain NotColons := by
  have number (group : BitVec 16) :
      (':' :: (Nat.toDigits 16 group.toNat ++ [':'])).IsChain NotColons := by
    have ne : ∀ d ∈ Nat.toDigits 16 group.toNat, d ≠ ':' := by
      rintro d mem rfl
      exact absurd (hexDigit_of_mem _ _ mem) (by decide)
    obtain ⟨c, digits, eq⟩ := exists_toDigits group.toNat
    rw [eq] at ne ⊢
    rw [cons_append, isChain_cons_cons]
    exact ⟨fun both => ne c mem_cons_self both.2, digits_isChain ne⟩
  induction gs generalizing group with
  | nil => exact print_singleton group ▸ number group
  | cons next gs ih =>
    rw [print_cons_cons, append_assoc, cons_append, isChain_cons_split]
    exact ⟨number group, ih next⟩

lemma print_sides (gs : List (BitVec 16)) :
    (print gs ++ [':']).IsChain NotColons ∧ (':' :: print gs).IsChain NotColons := by
  cases gs with
  | nil => exact ⟨isChain_singleton ':', isChain_singleton ':'⟩
  | cons group gs =>
    have both : ((':' :: print (group :: gs)) ++ [':']).IsChain NotColons := print_isChain group gs
    exact ⟨both.tail, both.left_of_append⟩

lemma eq_of_isChain {left right before after : List Char}
    (first : (left ++ [':']).IsChain NotColons) (second : (':' :: right).IsChain NotColons)
    (same : left ++ ':' :: ':' :: right = before ++ ':' :: ':' :: after) :
    before = left ∧ after = right := by
  have split : (left ++ [':']) ++ ':' :: right = (before ++ [':']) ++ ':' :: after := by
    rw [append_assoc, append_assoc]
    exact same
  rw [isChain_iff_forall_rel_of_append_cons_cons] at first second
  rcases append_eq_append_iff.mp split with ⟨x, eq, eq'⟩ | ⟨x, eq, eq'⟩
  · rcases eq_nil_or_concat x with rfl | ⟨init, last, rfl⟩
    · rw [append_nil, append_cancel_right_eq] at eq
      exact ⟨eq, (List.cons.inj eq').2.symm⟩
    · rw [concat_eq_append] at eq eq'
      have final : last = ':' := by
        rw [← append_assoc] at eq
        exact (List.cons.inj (append_inj_right' eq rfl)).1.symm
      rw [final, append_assoc] at eq'
      exact absurd ⟨rfl, rfl⟩ (second eq')
  · cases x with
    | nil =>
      rw [append_nil, append_cancel_right_eq] at eq
      exact ⟨eq.symm, (List.cons.inj eq').2⟩
    | cons c x =>
      obtain ⟨rfl, -⟩ := List.cons.inj eq'
      rw [append_assoc] at eq
      exact absurd ⟨rfl, rfl⟩ (first eq)

/-- A printed address is parsed to itself. A longest run of zero groups is the gap, and the only
two colons next to each other are in its place. -/
theorem tryParse_str (addr d : IPv6Address) (specified : ¬ addr.isUnspecified) :
    tryParse d addr.str = (true, addr) ∧ IsGap addr.groups (findGap addr.groups) ∧
      ∀ before after, addr.str = before ++ ':' :: ':' :: after ↔
        findGap addr.groups ≠ (0, 0) ∧ before = print (addr.groups.take (findGap addr.groups).1) ∧
          after = print (addr.groups.drop (findGap addr.groups).2) := by
  have length : addr.groups.length = 8 := rfl
  have back := ofGroups_groups addr
  have isGap := isGap_findGap length
  rw [str, if_neg specified]
  generalize addr.groups = gs at *
  rcases found : findGap gs with ⟨start, stop⟩
  rw [found] at isGap
  have filled := isGap.run.filled
  dsimp only at filled ⊢
  rcases isGap.two with none | two
  · obtain ⟨rfl, rfl⟩ := Prod.mk.inj none
    have text : (if 0 = 0 ∧ 0 = 8 then "::0".toList else
        print (gs.take 0) ++ (if 0 ≠ 0 then [':', ':'] else []) ++ print (gs.drop 0)) = print gs :=
      rfl
    rw [text, tryParse, doTryParse_print length, back]
    refine ⟨rfl, isGap, fun before after => iff_of_false (fun two => ?_) fun gap => gap.1 rfl⟩
    have chain := (print_sides gs).1.left_of_append
    rw [two, isChain_iff_forall_rel_of_append_cons_cons] at chain
    exact chain rfl ⟨rfl, rfl⟩
  · have le := isGap.run.le_length (by dsimp only at two ⊢; omega)
    have filled := filled le
    have partly : ¬ (start = 0 ∧ stop = 8) := by
      rintro ⟨rfl, rfl⟩
      have zeros : gs = List.replicate 8 0 := by
        rw [drop_eq_nil_of_le length.le, append_nil] at filled
        exact filled.symm
      refine specified (back.symm.trans ?_)
      rw [zeros]
      rfl
    have text : print (gs.take start) ++ [':', ':'] ++ print (gs.drop stop) =
        print (gs.take start) ++ ':' :: ':' :: print (gs.drop stop) := append_assoc ..
    have fits : (gs.take start).length + (gs.drop stop).length = 8 - (stop - start) := by
      rw [length_take, length_drop]
      omega
    have zeros : 8 - (8 - (stop - start)) = stop - start := by omega
    rw [if_neg partly, if_pos (by omega), text, tryParse, doTryParse_gap (by omega), fits, zeros,
      filled, back]
    refine ⟨rfl, isGap, fun before after => ?_⟩
    constructor
    · intro same
      have at_ := eq_of_isChain (print_sides _).1 (print_sides _).2 same
      exact ⟨fun none => by cases none; omega, at_⟩
    · rintro ⟨-, rfl, rfl⟩
      rfl

theorem tryParse_ff02 :
    tryParse 0 (0xFF020000000000010000000000000001 : IPv6Address).str =
      (true, 0xFF020000000000010000000000000001) := by
  obtain ⟨parsed, -, -⟩ := tryParse_str 0xFF020000000000010000000000000001 0 (by decide)
  exact parsed

end Inet.Ipv6.IPv6Address
