import Mathlib.Order.Lattice
import Mathlib.Tactic.Common

/-!
# Functions kept as runs

A function on an interval is kept as a list of consecutive nonempty intervals, on each of which it
is constant: `Follows Reads g b runs e` says that the list stands for `g` on `[b, e)`, where `Reads
r lo hi mark` tells what an entry stands for. Lists are cut, appended and mapped.
-/

namespace Inet

variable {ρ α β : Type*} [LinearOrder α] {Reads : ρ → α → α → β → Prop}

/-- The entries stand for `g` on `[b, e)`. -/
def Follows (Reads : ρ → α → α → β → Prop) (g : α → β) : α → List ρ → α → Prop
  | b, [], e => b = e
  | b, run :: rest, e =>
      ∃ m mark, b < m ∧ Reads run b m mark ∧ (∀ x, b ≤ x → x < m → g x = mark) ∧
        Follows Reads g m rest e

namespace Follows

variable {g g' : α → β} {b m e s : α} {run : ρ} {runs rest : List ρ}

lemma nil : Follows Reads g b [] b := rfl

lemma cons {v : β} (lt : b < m) (reads : Reads run b m v)
    (same : ∀ x, b ≤ x → x < m → g x = v) (follows : Follows Reads g m rest e) :
    Follows Reads g b (run :: rest) e :=
  ⟨m, v, lt, reads, same, follows⟩

lemma le (follows : Follows Reads g b runs e) : b ≤ e := by
  induction runs generalizing b with
  | nil => exact le_of_eq follows
  | cons run rest ih =>
    obtain ⟨m, -, lt, -, -, follows⟩ := follows
    exact lt.le.trans (ih follows)

lemma eq_of_nil (follows : Follows Reads g b [] e) : b = e := follows

lemma congr (follows : Follows Reads g' b runs e) (same : ∀ x, b ≤ x → x < e → g x = g' x) :
    Follows Reads g b runs e := by
  induction runs generalizing b with
  | nil => exact follows
  | cons run rest ih =>
    obtain ⟨m, mark, lt, reads, eq, follows⟩ := follows
    refine ⟨m, mark, lt, reads, fun x ge below => ?_, ?_⟩
    · exact (same x ge (below.trans_le follows.le)).trans (eq x ge below)
    · exact ih follows fun x ge below => same x (lt.le.trans ge) below

lemma append {runs' : List ρ} (first : Follows Reads g b runs m)
    (second : Follows Reads g m runs' e) : Follows Reads g b (runs ++ runs') e := by
  induction runs generalizing b with
  | nil =>
    obtain rfl := eq_of_nil first
    exact second
  | cons run rest ih =>
    obtain ⟨n, mark, lt, reads, same, first⟩ := first
    exact ⟨n, mark, lt, reads, same, ih first⟩

lemma of_append {runs' : List ρ} (follows : Follows Reads g b (runs ++ runs') e) :
    ∃ m, Follows Reads g b runs m ∧ Follows Reads g m runs' e := by
  induction runs generalizing b with
  | nil => exact ⟨b, rfl, follows⟩
  | cons run rest ih =>
    obtain ⟨n, mark, lt, reads, same, follows⟩ := follows
    obtain ⟨m, first, second⟩ := ih follows
    exact ⟨m, ⟨n, mark, lt, reads, same, first⟩, second⟩

/-- A change of the entries that changes their marks by `φ`. -/
lemma map (change : ρ → ρ) (φ : β → β) (follows : Follows Reads g b runs e)
    (changes : ∀ {r lo hi mark}, Reads r lo hi mark → b ≤ lo → lo < hi → hi ≤ e →
      Reads (change r) lo hi (φ mark)) :
    Follows Reads (fun x => φ (g x)) b (runs.map change) e := by
  induction runs generalizing b with
  | nil => exact follows
  | cons run rest ih =>
    obtain ⟨m, mark, lt, reads, same, follows⟩ := follows
    refine ⟨m, φ mark, lt, changes reads le_rfl lt follows.le, ?_, ?_⟩
    · exact fun x ge below => congrArg φ (same x ge below)
    · exact ih follows fun reads ge => changes reads (lt.le.trans ge)

lemma exists_run (follows : Follows Reads g b runs e) {x : α} (ge : b ≤ x) (lt : x < e) :
    ∃ run ∈ runs, ∃ lo hi, b ≤ lo ∧ lo ≤ x ∧ x < hi ∧ hi ≤ e ∧ Reads run lo hi (g x) := by
  induction runs generalizing b with
  | nil =>
    obtain rfl := eq_of_nil follows
    exact absurd lt (not_lt.mpr ge)
  | cons run rest ih =>
    obtain ⟨m, mark, bLt, reads, same, follows⟩ := follows
    rcases lt_or_ge x m with below | atLeast
    · refine ⟨run, List.mem_cons_self, b, m, le_rfl, ge, below, follows.le, ?_⟩
      rw [same x ge below]
      exact reads
    · obtain ⟨run', mem, lo, hi, bLe, found⟩ := ih follows atLeast
      exact ⟨run', List.mem_cons_of_mem _ mem, lo, hi, bLt.le.trans bLe, found⟩

lemma of_mem (follows : Follows Reads g b runs e) (mem : run ∈ runs) :
    ∃ lo hi mark, b ≤ lo ∧ lo < hi ∧ hi ≤ e ∧ Reads run lo hi mark ∧
      ∀ x, lo ≤ x → x < hi → g x = mark := by
  induction runs generalizing b with
  | nil => cases mem
  | cons first rest ih =>
    obtain ⟨m, mark, lt, reads, same, follows⟩ := follows
    rcases List.mem_cons.mp mem with rfl | mem
    · exact ⟨b, m, mark, le_rfl, lt, follows.le, reads, same⟩
    · obtain ⟨lo, hi, mark', bLe, found⟩ := ih follows mem
      exact ⟨lo, hi, mark', lt.le.trans bLe, found⟩

/-- The entries from the one that contains `s` on. -/
structure CutHead (Reads : ρ → α → α → β → Prop) (g : α → β) (m s e : α) (run : ρ)
    (rest : List ρ) (hi : α) (mark : β) : Prop where
  le : m ≤ s
  lt : s < hi
  reads : Reads run m hi mark
  same : ∀ x, m ≤ x → x < hi → g x = mark
  follows : Follows Reads g hi rest e

/-- A list is cut at `s`: into the entries that end there at the latest, and the one that contains
`s` with what comes behind it. -/
lemma cutAt (endsBy : ρ → Bool) (follows : Follows Reads g b runs e) (ge : b ≤ s)
    (test : ∀ {r lo hi mark}, Reads r lo hi mark → b ≤ lo → lo < hi → hi ≤ e →
      (endsBy r = true ↔ hi ≤ s)) :
    ∃ m, Follows Reads g b (runs.takeWhile endsBy) m ∧
      ((runs.dropWhile endsBy = [] ∧ m = e ∧ e ≤ s) ∨
        ∃ run rest hi mark, runs.dropWhile endsBy = run :: rest ∧
          CutHead Reads g m s e run rest hi mark) := by
  induction runs generalizing b with
  | nil =>
    obtain rfl := eq_of_nil follows
    exact ⟨b, rfl, .inl ⟨rfl, rfl, ge⟩⟩
  | cons run rest ih =>
    obtain ⟨m, mark, lt, reads, same, follows⟩ := follows
    by_cases ends : endsBy run = true
    · obtain ⟨n, first, second⟩ := ih follows
        ((test reads le_rfl lt follows.le).mp ends) fun reads ge => test reads (lt.le.trans ge)
      rw [List.takeWhile_cons_of_pos ends, List.dropWhile_cons_of_pos ends]
      exact ⟨n, ⟨m, mark, lt, reads, same, first⟩, second⟩
    · rw [List.takeWhile_cons_of_neg ends, List.dropWhile_cons_of_neg ends]
      have inside := not_le.mp (mt (test reads le_rfl lt follows.le).mpr ends)
      exact ⟨b, rfl, .inr ⟨run, rest, m, mark, rfl, ge, inside, reads, same, follows⟩⟩

end Follows

end Inet
