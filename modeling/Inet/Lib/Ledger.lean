import Mathlib.Data.List.Basic

/-!
# A ledger of holders

A party gives out resources and announces who holds them, to an owner that holds none; nothing says
that the resource is free. What was announced never contradicts itself exactly when it always was
(`exclusive_iff`).
-/

namespace Inet

variable {R O : Type*}

structure Ledger (R O : Type*) where
  holder : R → Option O
  announced : List (R × O)

/-- What the party can do: nothing that matters, announce who holds a resource, or give one
out and announce that. -/
inductive Ledger.Move (R O : Type*) where
  | keep
  | announce (resource : R) (owner : O)
  | grant (resource : R) (owner : O)

namespace Ledger

variable {ledger : Ledger R O} {move : Move R O} {moves : List (Move R O)} {allowed : R → Prop}

/-- Nothing given out. -/
def empty : Ledger R O := ⟨fun _ => none, []⟩

/-- Only what is so is announced, and a grant goes to an owner that holds nothing. -/
def Legal (ledger : Ledger R O) : Move R O → Prop
  | .keep => True
  | .announce resource owner => ledger.holder resource = some owner
  | .grant _ owner => ∀ resource, ledger.holder resource ≠ some owner

def make [DecidableEq R] (ledger : Ledger R O) : Move R O → Ledger R O
  | .keep => ledger
  | .announce resource owner =>
      { ledger with announced := ledger.announced ++ [(resource, owner)] }
  | .grant resource owner =>
      { holder := Function.update ledger.holder resource (some owner)
        announced := ledger.announced ++ [(resource, owner)] }

/-- What is given out is free, and may be given out. -/
def Fresh (allowed : R → Prop) (ledger : Ledger R O) : Move R O → Prop
  | .grant resource _ => ledger.holder resource = none ∧ allowed resource
  | _ => True

/-- An owner holds one resource at most, and has been told of it. -/
structure Kept (ledger : Ledger R O) : Prop where
  one : ∀ {r r' o}, ledger.holder r = some o → ledger.holder r' = some o → r = r'
  told : ∀ {r o}, ledger.holder r = some o → (r, o) ∈ ledger.announced

lemma kept_empty : Kept (empty : Ledger R O) := ⟨nofun, nofun⟩

variable [DecidableEq R]

lemma holder_grant {r resource : R} {o owner : O} :
    (ledger.make (.grant resource owner)).holder r = some o ↔
      (r = resource ∧ owner = o) ∨ (r ≠ resource ∧ ledger.holder r = some o) := by
  dsimp only [make]
  rw [Function.update_apply]
  split
  case isTrue same => simp [same]
  case isFalse apart => simp [apart]

lemma Kept.make (kept : Kept ledger) (legal : Legal ledger move) : Kept (ledger.make move) := by
  cases move with
  | keep => exact kept
  | announce resource owner =>
    exact ⟨kept.one, fun holds => List.mem_append_left _ (kept.told holds)⟩
  | grant resource owner =>
    constructor
    · intro r r' o holds holds'
      rcases holder_grant.mp holds with ⟨rfl, rfl⟩ | ⟨-, before⟩
      · rcases holder_grant.mp holds' with ⟨rfl, -⟩ | ⟨-, before'⟩
        · rfl
        · exact absurd before' (legal r')
      · rcases holder_grant.mp holds' with ⟨-, rfl⟩ | ⟨-, before'⟩
        · exact absurd before (legal r)
        · exact kept.one before before'
    · intro r o holds
      rcases holder_grant.mp holds with ⟨rfl, rfl⟩ | ⟨-, before⟩
      · exact List.mem_append_right _ (List.mem_singleton.mpr rfl)
      · exact List.mem_append_left _ (kept.told before)

/-- No resource is announced to two owners, and none that may not be given out. -/
structure Exclusive (allowed : R → Prop) (ledger : Ledger R O) : Prop where
  one : ∀ {r o o'}, (r, o) ∈ ledger.announced → (r, o') ∈ ledger.announced → o = o'
  allowed : ∀ {r o}, (r, o) ∈ ledger.announced → allowed r

/-- What has been announced is still so. -/
def Current (allowed : R → Prop) (ledger : Ledger R O) : Prop :=
  ∀ {r o}, (r, o) ∈ ledger.announced → ledger.holder r = some o ∧ allowed r

omit [DecidableEq R] in
lemma current_empty : Current allowed (empty : Ledger R O) := nofun

omit [DecidableEq R] in
lemma Current.exclusive (current : Current allowed ledger) : Exclusive allowed ledger where
  one mem mem' := Option.some.inj ((current mem).1.symm.trans (current mem').1)
  allowed mem := (current mem).2

lemma Current.make (current : Current allowed ledger) (kept : Kept ledger)
    (legal : Legal ledger move) (fresh : Fresh allowed ledger move) :
    Current allowed (ledger.make move) := by
  intro r o mem
  cases move with
  | keep => exact current mem
  | announce resource owner =>
    rcases List.mem_append.mp mem with before | new
    · exact current before
    · cases List.mem_singleton.mp new
      exact ⟨legal, (current (kept.told legal)).2⟩
  | grant resource owner =>
    rw [holder_grant]
    rcases List.mem_append.mp mem with before | new
    · obtain ⟨holds, may⟩ := current before
      refine ⟨.inr ⟨fun same => ?_, holds⟩, may⟩
      rw [same, fresh.1] at holds
      cases holds
    · cases List.mem_singleton.mp new
      exact ⟨.inl ⟨rfl, rfl⟩, fresh.2⟩

lemma not_exclusive_make (kept : Kept ledger) (legal : Legal ledger move)
    (taken : ¬ Fresh allowed ledger move) : ¬ Exclusive allowed (ledger.make move) := by
  intro exclusive
  cases move with
  | keep => exact taken trivial
  | announce => exact taken trivial
  | grant resource owner =>
    have new : (resource, owner) ∈ (ledger.make (.grant resource owner)).announced :=
      List.mem_append_right _ (List.mem_singleton.mpr rfl)
    refine taken ⟨?_, exclusive.allowed new⟩
    rw [Option.eq_none_iff_forall_ne_some]
    intro holder holds
    have before : (resource, holder) ∈ (ledger.make (.grant resource owner)).announced :=
      List.mem_append_left _ (kept.told holds)
    rw [exclusive.one before new] at holds
    exact legal resource holds

def Legals : List (Move R O) → Ledger R O → Prop
  | [], _ => True
  | move :: rest, ledger => Legal ledger move ∧ Legals rest (ledger.make move)

def Freshes (allowed : R → Prop) : List (Move R O) → Ledger R O → Prop
  | [], _ => True
  | move :: rest, ledger => Fresh allowed ledger move ∧ Freshes allowed rest (ledger.make move)

lemma announced_make (ledger : Ledger R O) (move : Move R O) :
    ledger.announced ⊆ (ledger.make move).announced := by
  cases move with
  | keep => exact fun _ mem => mem
  | announce | grant => exact List.subset_append_left ..

lemma announced_foldl (moves : List (Move R O)) (ledger : Ledger R O) :
    ledger.announced ⊆ (moves.foldl make ledger).announced := by
  induction moves generalizing ledger with
  | nil => exact fun _ mem => mem
  | cons move rest ih => exact List.Subset.trans (announced_make ledger move) (ih _)

omit [DecidableEq R] in
lemma Exclusive.of_subset {later : Ledger R O} (exclusive : Exclusive allowed later)
    (subset : ledger.announced ⊆ later.announced) : Exclusive allowed ledger where
  one mem mem' := exclusive.one (subset mem) (subset mem')
  allowed mem := exclusive.allowed (subset mem)

lemma Kept.foldl (kept : Kept ledger) (legal : Legals moves ledger) :
    Kept (moves.foldl Ledger.make ledger) := by
  induction moves generalizing ledger with
  | nil => exact kept
  | cons move rest ih => exact ih (kept.make legal.1) legal.2

/-- In a run everything announced is exclusive exactly when every resource was free when it
was given out. -/
lemma exclusive_iff (kept : Kept ledger) (current : Current allowed ledger)
    (legal : Legals moves ledger) :
    Exclusive allowed (moves.foldl make ledger) ↔ Freshes allowed moves ledger := by
  induction moves generalizing ledger with
  | nil => exact iff_of_true current.exclusive trivial
  | cons move rest ih =>
    have next := kept.make legal.1
    by_cases fresh : Fresh allowed ledger move
    · exact (ih next (current.make kept legal.1 fresh) legal.2).trans (and_iff_right fresh).symm
    · refine iff_of_false (fun exclusive => ?_) fun fresh' => fresh fresh'.1
      exact not_exclusive_make kept legal.1 fresh (exclusive.of_subset (announced_foldl rest _))

end Ledger

end Inet
