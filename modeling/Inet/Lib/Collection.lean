import Mathlib.Data.Set.Insert
import Mathlib.Tactic.Common

/-!
# Collecting items out of a stream of events

Some events bring an item, and a machine is to answer once it has all items of a list. Which events
may come is a relation `allowed` with a state of its own. A run that leaves an item missing answers
none of the items' events and keeps what came (`Collector.run_pending`).
-/

namespace Inet

open List

variable {S E R α τ ε : Type}

/-- A run: the state after it and what each event was answered. -/
def runAnswers (step : S → E → Except ε (S × Option R)) :
    S → List E → Except ε (S × List (Option R))
  | s, [] => .ok (s, [])
  | s, event :: events =>
      match step s event with
      | .error e => .error e
      | .ok (after, answer) =>
          match runAnswers step after events with
          | .error e => .error e
          | .ok (last, answers) => .ok (last, answer :: answers)

lemma runAnswers_cons {step : S → E → Except ε (S × Option R)} {s after last : S} {e : E}
    {events : List E} {answer : Option R} {answers : List (Option R)}
    (first : step s e = .ok (after, answer))
    (rest : runAnswers step after events = .ok (last, answers)) :
    runAnswers step s (e :: events) = .ok (last, answer :: answers) := by
  simp only [runAnswers, first, rest]

/-- A list of events each allowed when it comes. -/
inductive AllowedRun (allowed : τ → E → τ → Prop) : τ → List E → τ → Prop
  | nil {t : τ} : AllowedRun allowed t [] t
  | cons {t t' t'' : τ} {event : E} {events : List E} :
    allowed t event t' → AllowedRun allowed t' events t'' →
    AllowedRun allowed t (event :: events) t''

/-- What one event does to a machine that collects the items `all`: `inv t arrived s` holds when
the items `arrived` are kept in `s`. -/
structure Collector (step : S → E → Except ε (S × Option R)) (item : E → Option α) (all : List α)
    (allowed : τ → E → τ → Prop) (inv : τ → Set α → S → Prop) : Prop where
  own : ∀ {t t' arrived s event x}, inv t arrived s → arrived ⊆ {y | y ∈ all} →
    allowed t event t' → item event = some x → x ∈ all → (∃ y ∈ all, y ∉ insert x arrived) →
    ∃ after, step s event = .ok (after, none) ∧ inv t' (insert x arrived) after
  other : ∀ {t t' arrived s event}, inv t arrived s → allowed t event t' →
    (∀ x, item event = some x → x ∉ all) →
    ∃ after answer, step s event = .ok (after, answer) ∧ inv t' arrived after

/-- What has been collected after the events, starting from `arrived`. -/
def collected (item : E → Option α) (all : List α) (arrived : Set α) (events : List E) : Set α :=
  {x | x ∈ all ∧ (x ∈ arrived ∨ x ∈ events.filterMap item)}

section

variable {step : S → E → Except ε (S × Option R)} {item : E → Option α} {all : List α}
  {allowed : τ → E → τ → Prop} {inv : τ → Set α → S → Prop} {t t' : τ} {arrived : Set α} {s : S}
  {e : E} {events : List E} {x : α}

lemma mem_collected : x ∈ collected item all arrived events ↔
    x ∈ all ∧ (x ∈ arrived ∨ x ∈ events.filterMap item) :=
  Iff.rfl

lemma mem_insert_collected {y : α} (mem : x ∈ all) :
    x ∈ insert y (collected item all ∅ events) ↔ x ∈ y :: events.filterMap item := by
  rw [Set.mem_insert_iff, mem_collected, mem_cons]
  simp only [mem, true_and, Set.mem_empty_iff_false, false_or]

lemma collected_nil (sub : arrived ⊆ {y | y ∈ all}) : collected item all arrived [] = arrived := by
  ext x
  rw [mem_collected, filterMap_nil]
  simp only [not_mem_nil, or_false]
  exact ⟨And.right, fun here => ⟨sub here, here⟩⟩

lemma collected_cons_own (brings : item e = some x) :
    collected item all arrived (e :: events) = collected item all (insert x arrived) events := by
  ext y
  rw [mem_collected, mem_collected, filterMap_cons_some brings, mem_cons, Set.mem_insert_iff]
  tauto

lemma collected_cons_other (other : ∀ x, item e = some x → x ∉ all) :
    collected item all arrived (e :: events) = collected item all arrived events := by
  ext y
  rw [mem_collected, mem_collected]
  cases brings : item e with
  | none => rw [filterMap_cons_none brings]
  | some x =>
    rw [filterMap_cons_some brings, mem_cons]
    constructor
    · rintro ⟨own, here | rfl | here⟩
      · exact ⟨own, .inl here⟩
      · exact absurd own (other y brings)
      · exact ⟨own, .inr here⟩
    · rintro ⟨own, here⟩
      exact ⟨own, here.imp_right .inr⟩

/-- A run that leaves an item missing answers none of the items, and everything that came is
kept. -/
lemma Collector.run_pending (collector : Collector step item all allowed inv)
    (holds : inv t arrived s) (sub : arrived ⊆ {y | y ∈ all}) (run : AllowedRun allowed t events t')
    (pending : ∃ y ∈ all, y ∉ arrived ∧ y ∉ events.filterMap item) :
    ∃ last answers, runAnswers step s events = .ok (last, answers) ∧
      (∀ e answer x, (e, answer) ∈ events.zip answers → item e = some x → x ∈ all → answer = none) ∧
      inv t' (collected item all arrived events) last := by
  induction run generalizing s arrived with
  | nil =>
    refine ⟨s, [], rfl, (fun _ _ _ mem => nomatch mem), ?_⟩
    rw [collected_nil sub]
    exact holds
  | @cons t t₁ t' e events allow _ ih =>
    obtain ⟨y, yMem, notArrived, notComing⟩ := pending
    by_cases own : ∃ x, item e = some x ∧ x ∈ all
    · obtain ⟨x, brings, xMem⟩ := own
      rw [filterMap_cons_some brings, mem_cons, not_or] at notComing
      have missing : y ∉ insert x arrived := by
        rintro (eq | here)
        · exact notComing.1 eq
        · exact notArrived here
      obtain ⟨after, stepped, holds⟩ := collector.own holds sub allow brings xMem ⟨y, yMem, missing⟩
      obtain ⟨last, answers, ran, silent, holds⟩ :=
        ih holds (Set.insert_subset xMem sub) ⟨y, yMem, missing, notComing.2⟩
      refine ⟨last, none :: answers, runAnswers_cons stepped ran, ?_, ?_⟩
      · intro e' answer x' mem brings' own'
        rcases mem_cons.mp mem with eq | mem
        · exact (Prod.mk.inj eq).2
        · exact silent e' answer x' mem brings' own'
      · rw [collected_cons_own brings]
        exact holds
    · have other : ∀ x, item e = some x → x ∉ all := fun x brings mem => own ⟨x, brings, mem⟩
      have notComing : y ∉ events.filterMap item := by
        intro here
        refine notComing ?_
        cases brings : item e with
        | none =>
          rw [filterMap_cons_none brings]
          exact here
        | some x =>
          rw [filterMap_cons_some brings]
          exact mem_cons_of_mem x here
      obtain ⟨after, answer, stepped, holds⟩ := collector.other holds allow other
      obtain ⟨last, answers, ran, silent, holds⟩ := ih holds sub ⟨y, yMem, notArrived, notComing⟩
      refine ⟨last, answer :: answers, runAnswers_cons stepped ran, ?_, ?_⟩
      · intro e' answer' x' mem brings' own'
        rcases mem_cons.mp mem with eq | mem
        · rw [(Prod.mk.inj eq).1] at brings'
          exact absurd own' (other x' brings')
        · exact silent e' answer' x' mem brings' own'
      · rw [collected_cons_other other]
        exact holds

end

end Inet
