import Mathlib.Tactic.Common

/-!
# Successful runs of fallible functions

`Except.bind_eq_ok` takes a successful run apart at a bind. `EndsIn errors results x`: `x` ends with
one of the `errors`, or with one of the `results`.
-/

namespace Inet

variable {ε α β : Type}

/-- A successful run of `x >>= f` is one of `x` followed by one of `f`. -/
lemma Except.bind_eq_ok {x : Except ε α} {f : α → Except ε β} {b : β}
    (run : (x >>= f) = .ok b) : ∃ a, x = .ok a ∧ f a = .ok b := by
  cases x with
  | error e => cases run
  | ok a => exact ⟨a, rfl, run⟩

lemma Except.map_eq_ok {x : Except ε α} {f : α → β} {b : β} (run : x.map f = .ok b) :
    ∃ a, x = .ok a ∧ f a = b := by
  cases x with
  | error e => cases run
  | ok a =>
    cases run
    exact ⟨a, rfl, rfl⟩

lemma Except.eq_ok_of_toOption {x : Except ε α} {a : α} (run : x.toOption = some a) :
    x = .ok a := by
  cases x with
  | error e => cases run
  | ok b =>
    cases run
    rfl

/-- Every end of the computation is one of these errors or one of these results. -/
def EndsIn (errors : ε → Prop) (results : α → Prop) : Except ε α → Prop
  | .ok a => results a
  | .error e => errors e

namespace EndsIn

variable {errors : ε → Prop} {results results' : α → Prop} {x : Except ε α}

variable (ends : EndsIn errors results x)
include ends

lemma of_ok {a : α} (run : x = .ok a) : results a := by
  rw [run] at ends
  exact ends

lemma of_error {e : ε} (run : x = .error e) : errors e := by
  rw [run] at ends
  exact ends

lemma mono (imp : ∀ a, results a → results' a) : EndsIn errors results' x := by
  cases x with
  | error e => exact ends
  | ok a => exact imp a ends

lemma self : EndsIn errors (fun a => results a ∧ x = .ok a) x := by
  cases x with
  | error e => exact ends
  | ok a => exact ⟨ends, rfl⟩

omit ends

lemma bind {more : β → Prop} {f : α → Except ε β} (first : EndsIn errors results x)
    (next : ∀ a, results a → EndsIn errors more (f a)) : EndsIn errors more (x >>= f) := by
  cases x with
  | error e => exact first
  | ok a => exact next a first

/-- A loop whose steps keep `inv`. -/
lemma foldlM {γ : Type} {inv : β → Prop} {f : β → γ → Except ε β} {l : List γ} {b : β}
    (start : inv b) (step : ∀ b, inv b → ∀ a ∈ l, EndsIn errors inv (f b a)) :
    EndsIn errors inv (l.foldlM f b) := by
  induction l generalizing b with
  | nil => exact start
  | cons a l ih =>
    exact (step b start a List.mem_cons_self).bind fun b' inv' =>
      ih inv' fun b inv a mem => step b inv a (List.mem_cons_of_mem _ mem)

/-- What a run gives, it gives with a witness that it is a run. -/
lemma of_forall (oks : ∀ a, x = .ok a → results a) (fails : ∀ e, x = .error e → errors e) :
    EndsIn errors results x := by
  cases x with
  | error e => exact fails e rfl
  | ok a => exact oks a rfl

end EndsIn

/-- A client of an object with states `σ` that makes calls `κ` and is given
answers `α`. -/
inductive CallTree (σ κ α : Type) where
  | done
  | call (choose : σ → κ) (next : α → σ → CallTree σ κ α)

namespace CallTree

variable {σ κ α ε : Type}

/-- Carry the calls out one after the other. -/
def run (perform : κ → σ → Except ε (α × σ)) : CallTree σ κ α → σ → Except ε σ
  | done, state => .ok state
  | call choose next, state => do
      let (answer, state) ← perform (choose state) state
      run perform (next answer state) state

/-- The client that makes one call and stops. -/
def single (choose : σ → κ) : CallTree σ κ α := call choose fun _ _ => done

/-- One client after another. -/
def andThen : CallTree σ κ α → CallTree σ κ α → CallTree σ κ α
  | done, second => second
  | call choose next, second => call choose fun answer state => (next answer state).andThen second

/-- The client makes only calls that are `permitted` in the state it makes them in. -/
def CallsOnly (permitted : σ → κ → Prop) : CallTree σ κ α → Prop
  | done => True
  | call choose next =>
      (∀ state, permitted state (choose state)) ∧
        ∀ answer state, CallsOnly permitted (next answer state)

variable {perform : κ → σ → Except ε (α × σ)} {permitted : σ → κ → Prop}

/-- What every permitted call keeps is kept by the whole client, which fails only where a
call does. -/
lemma run_endsIn {errors : ε → Prop} {holds : σ → Prop}
    (step : ∀ {s k}, permitted s k → holds s →
      EndsIn errors (fun result => holds result.2) (perform k s))
    {tree : CallTree σ κ α} (only : tree.CallsOnly permitted) {s : σ} (kept : holds s) :
    EndsIn errors holds (tree.run perform s) := by
  induction tree generalizing s with
  | done => exact kept
  | call choose next ih =>
    refine (step (only.1 s) kept).bind fun ⟨answer, middle⟩ kept => ?_
    exact ih answer middle (only.2 answer middle) kept

lemma callsOnly_true (tree : CallTree σ κ α) : tree.CallsOnly fun _ _ => True := by
  induction tree with
  | done => trivial
  | call choose next ih => exact ⟨fun _ => trivial, ih⟩

end CallTree

variable {Op State : Type*} {Answer Failure : Type} {left right fresh : State}
  {perform : Op → State → Except Failure (Answer × State)}

/-- The answers to the operations, up to and with the first failure. -/
def answers (perform : Op → State → Except Failure (Answer × State)) :
    List Op → State → List (Except Failure Answer)
  | [], _ => []
  | op :: ops, state =>
      match perform op state with
      | .error failure => [.error failure]
      | .ok (answer, state) => .ok answer :: answers perform ops state

def BehaveAlike (perform : Op → State → Except Failure (Answer × State))
    (left right : State) : Prop :=
  ∀ ops, answers perform ops left = answers perform ops right

/-- The object after the operations, none of which fails. -/
def performAll (perform : Op → State → Except Failure (Answer × State)) :
    List Op → State → Except Failure State
  | [], state => .ok state
  | op :: ops, state =>
      match perform op state with
      | .error failure => .error failure
      | .ok (_, state) => performAll perform ops state

lemma BehaveAlike.answer_eq {leftAnswer rightAnswer : Answer} {leftNext rightNext : State}
    {op : Op} (alike : BehaveAlike perform left right)
    (atLeft : perform op left = .ok (leftAnswer, leftNext))
    (atRight : perform op right = .ok (rightAnswer, rightNext)) : leftAnswer = rightAnswer := by
  have same := alike [op]
  rw [answers, answers, atLeft, atRight] at same
  exact Except.ok.inj (List.cons.inj same).1

/-- An object behaves like a fresh one exactly when it is `clean`: clean ones are fresh, and `probe`
answers otherwise at the others. -/
lemma behaveAlike_iff_of_probe {clean : Prop} {answer freshAnswer : Answer}
    {next freshNext : State} (probe : Op) (same : clean → left = fresh)
    (atLeft : perform probe left = .ok (answer, next))
    (atFresh : perform probe fresh = .ok (freshAnswer, freshNext))
    (shows : answer = freshAnswer → clean) : BehaveAlike perform left fresh ↔ clean := by
  constructor
  · intro alike
    exact shows (alike.answer_eq atLeft atFresh)
  · intro isClean ops
    rw [same isClean]

end Inet
