import Mathlib.Logic.Function.Iterate
import Mathlib.Tactic.Common

/-!
# Lists dealt out in batches

A list is consumed from its front, as `deal` divides what is left into the next batch and the rest.
-/

namespace Inet

variable {α : Type*} (deal : List α → List α × List α)

/-- What is left after some batches. -/
def restAfter (n : ℕ) (l : List α) : List α := (fun rest => (deal rest).2)^[n] l

/-- A batch, by its number. -/
def batchAt (n : ℕ) (l : List α) : List α := (deal (restAfter deal n l)).1

lemma restAfter_succ (n : ℕ) (l : List α) :
    restAfter deal (n + 1) l = (deal (restAfter deal n l)).2 := by
  rw [restAfter, Function.iterate_succ_apply']
  rfl

/-- Nothing is lost in the dealing. -/
def IsDeal : Prop := ∀ l, (deal l).1 ++ (deal l).2 = l

variable {deal}

lemma IsDeal.batchAt_append (fair : IsDeal deal) (n : ℕ) (l : List α) :
    batchAt deal n l ++ restAfter deal (n + 1) l = restAfter deal n l := by
  rw [restAfter_succ, batchAt]
  exact fair _

/-- All of the list has been taken, but for the rest. -/
def Taken (P : α → Prop) (l rest : List α) : Prop := ∀ x ∈ l, x ∈ rest ∨ P x

namespace Taken

variable {P Q : α → Prop} {l rest : List α} {n : ℕ}

lemma start : Taken P l l := fun _ mem => .inl mem

lemma done (taken : Taken P l []) : ∀ x ∈ l, P x :=
  fun x mem => (taken x mem).resolve_left List.not_mem_nil

lemma mono (taken : Taken P l rest) (imp : ∀ x, P x → Q x) : Taken Q l rest :=
  fun x mem => (taken x mem).imp_right (imp x)

lemma batch (fair : IsDeal deal) (taken : Taken P l (restAfter deal n l))
    (imp : ∀ x, P x → Q x) (next : ∀ x ∈ batchAt deal n l, Q x) :
    Taken Q l (restAfter deal (n + 1) l) := by
  intro x mem
  rcases taken x mem with left | already
  · rw [← fair.batchAt_append n l] at left
    rcases List.mem_append.mp left with now | later
    · exact .inr (next x now)
    · exact .inl later
  · exact .inr (imp x already)

end Taken

end Inet
