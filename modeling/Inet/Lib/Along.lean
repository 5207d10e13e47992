import Mathlib.Data.Option.Basic
import Mathlib.Tactic.Common

/-!
# What holds at every step of a run

A system takes a step for each event of a list, and may stop early. `Along step P s events` says
that `P` holds of every step of the run from `s`. What holds at each step may use an invariant that
it keeps, and a history kept next to the states changes nothing.
-/

namespace Inet

variable {S E : Type*} {step : S → E → Option S} {P Q : S → E → Prop} {I : S → Prop}
  {s s' : S} {events : List E}

def Along (step : S → E → Option S) (P : S → E → Prop) : S → List E → Prop
  | _, [] => True
  | s, e :: events => P s e ∧ ∀ s' ∈ step s e, Along step P s' events

/-- The state behind the events. -/
def runFrom (step : S → E → Option S) : S → List E → Option S
  | s, [] => some s
  | s, e :: events => (step s e).bind fun s' => runFrom step s' events

lemma runFrom_append (s : S) (events events' : List E) :
    runFrom step s (events ++ events') =
      (runFrom step s events).bind fun s' => runFrom step s' events' := by
  induction events generalizing s with
  | nil => rfl
  | cons e events ih =>
    change (step s e).bind (fun s' => runFrom step s' (events ++ events')) =
      ((step s e).bind fun s' => runFrom step s' events).bind _
    rw [Option.bind_assoc]
    exact congrArg _ (funext ih)

/-- Decide what holds along a run by running it. -/
def decidableAlong [∀ s e, Decidable (P s e)] : ∀ s events, Decidable (Along step P s events)
  | _, [] => inferInstanceAs (Decidable True)
  | s, e :: events =>
      have : ∀ s', Decidable (Along step P s' events) := fun s' => decidableAlong s' events
      inferInstanceAs (Decidable (P s e ∧ ∀ s' ∈ step s e, Along step P s' events))

instance [∀ s e, Decidable (P s e)] : Decidable (Along step P s events) := decidableAlong s events

/-- What follows at each step from the invariant and from what keeps the invariant. -/
lemma Along.imp (along : Along step Q s events)
    (keeps : ∀ {s e s'}, I s → Q s e → step s e = some s' → I s')
    (gives : ∀ {s e}, I s → Q s e → P s e) (inv : I s) : Along step P s events := by
  induction events generalizing s with
  | nil => trivial
  | cons e events ih =>
    obtain ⟨holds, rest⟩ := along
    exact ⟨gives inv holds, fun s' next => ih (rest s' next) (keeps inv holds next)⟩

lemma along_iff (agree : ∀ {s e}, I s → (P s e ↔ Q s e))
    (keeps : ∀ {s e s'}, I s → Q s e → step s e = some s' → I s') (inv : I s) :
    Along step P s events ↔ Along step Q s events := by
  constructor
  · intro along
    refine along.imp (fun inv holds next => ?_) (fun inv => (agree inv).mp) inv
    exact keeps inv ((agree inv).mp holds) next
  · intro along
    exact along.imp keeps (fun inv => (agree inv).mpr) inv

/-- The system with a history, which is noted at every step and which no step depends on. -/
def withHistory {H : Type*} (step : S → E → Option S) (note : S → E → H → H) :
    S × H → E → Option (S × H)
  | (s, history), e => (step s e).map fun s' => (s', note s e history)

lemma along_withHistory {H : Type*} (note : S → E → H → H) (history : H) :
    Along (withHistory step note) (fun state => P state.1) (s, history) events ↔
      Along step P s events := by
  induction events generalizing s history with
  | nil => exact Iff.rfl
  | cons e events ih =>
    refine and_congr Iff.rfl ?_
    constructor
    · intro rest s' next
      exact (ih _).mp (rest (s', note s e history) (Option.map_eq_some_iff.mpr ⟨s', next, rfl⟩))
    · intro rest later next
      obtain ⟨s', next', rfl⟩ := Option.map_eq_some_iff.mp next
      exact (ih _).mpr (rest s' next')

lemma Along.keeps (along : Along step Q s events)
    (keeps : ∀ {s e s'}, I s → Q s e → step s e = some s' → I s') (inv : I s)
    (run : runFrom step s events = some s') : I s' := by
  induction events generalizing s with
  | nil =>
    cases run
    exact inv
  | cons e events ih =>
    obtain ⟨middle, next, run⟩ := Option.bind_eq_some_iff.mp run
    exact ih (along.2 middle next) (keeps inv along.1 next) run

/-- What every step keeps of a state and its history holds wherever a run ends. -/
lemma kept_of_reached {H : Type*} {note : S → E → H → H} {K : S → H → Prop} {h h' : H}
    (keeps : ∀ {s h e s'}, K s h → step s e = some s' → K s' (note s e h)) (start : K s h)
    (run : runFrom (withHistory step note) (s, h) events = some (s', h')) : K s' h' := by
  induction events generalizing s h with
  | nil =>
    cases run
    exact start
  | cons e events ih =>
    obtain ⟨middle, next, rest⟩ := Option.bind_eq_some_iff.mp run
    obtain ⟨after, stepped, rfl⟩ := Option.map_eq_some_iff.mp next
    exact ih (keeps start stepped) rest

end Inet
