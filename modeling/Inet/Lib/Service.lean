import Mathlib.Data.List.Basic

/-!
# A server that hands out jobs piece by piece

Jobs wait in one queue for each key. The server hands out the pieces of a job one after the other
before it starts another. So what has been handed out is the pieces of the jobs started, less those
the current job still has, and the jobs of a queue start in the order of their arrival.
-/

namespace Inet

variable {K J M : Type*} [DecidableEq K]

structure Service (K J M : Type*) where
  waiting : K → List J
  /-- The key of the job that is being handed out, and the pieces that it still has. -/
  current : Option (K × List M)
  started : List (K × J)
  output : List M

namespace Service

def start : Service K J M := ⟨fun _ => [], none, [], []⟩

variable (service : Service K J M)

/-- The pieces that are still to come of the current job. -/
def left : List M := (service.current.map Prod.snd).getD []

/-- The jobs of the queue that were started. -/
def startedAt (k : K) : List J := (service.started.filter fun e => e.1 = k).map Prod.snd

def submit (k : K) (job : J) : Service K J M :=
  { service with waiting := Function.update service.waiting k (service.waiting k ++ [job]) }

/-- The server with these pieces to come at the key. -/
def currentWith (k : K) (left : List M) : Option (K × List M) :=
  if left.isEmpty then none else some (k, left)

/-- The first job of the queue is started: its first piece is handed out. -/
def begin (k : K) (job : J) (rest : List J) (piece : M) (left : List M) : Service K J M :=
  { waiting := Function.update service.waiting k rest
    current := currentWith k left
    started := service.started ++ [(k, job)]
    output := service.output ++ [piece] }

/-- The next piece of the current job is handed out. -/
def next (k : K) (piece : M) (left : List M) : Service K J M :=
  { service with
    current := currentWith k left
    output := service.output ++ [piece] }

/-- How the server goes on. `submitted` are the jobs that arrived, by key. -/
inductive Served (pieces : J → List M) : (K → List J) → Service K J M → Prop where
  | start : Served pieces (fun _ => []) start
  | submit {submitted : K → List J} {service : Service K J M} (k : K) (job : J)
      (served : Served pieces submitted service) :
      Served pieces (Function.update submitted k (submitted k ++ [job])) (service.submit k job)
  | begin {submitted : K → List J} {service : Service K J M} {k : K} {job : J} {rest : List J}
      {piece : M} {left : List M} (served : Served pieces submitted service)
      (idle : service.current = none) (first : service.waiting k = job :: rest)
      (split : pieces job = piece :: left) :
      Served pieces submitted (service.begin k job rest piece left)
  | next {submitted : K → List J} {service : Service K J M} {k : K} {piece : M} {left : List M}
      (served : Served pieces submitted service)
      (busy : service.current = some (k, piece :: left)) :
      Served pieces submitted (service.next k piece left)

lemma waiting_submit_self (k : K) (job : J) :
    (service.submit k job).waiting k = service.waiting k ++ [job] :=
  Function.update_self ..

lemma waiting_submit_of_ne {k k' : K} (ne : k' ≠ k) (job : J) :
    (service.submit k job).waiting k' = service.waiting k' :=
  Function.update_of_ne ne ..

variable {service} {pieces : J → List M} {submitted : K → List J}

omit [DecidableEq K] in
lemma left_currentWith {k : K} {left : List M} :
    ((currentWith k left).map Prod.snd).getD [] = left := by
  cases left <;> rfl

variable (served : Served pieces submitted service)
include served

lemma Served.queue (k : K) : service.startedAt k ++ service.waiting k = submitted k := by
  induction served with
  | start => rfl
  | @submit submitted service at' job _ ih =>
    by_cases same : k = at'
    · subst same
      simpa [Service.submit, startedAt] using congrArg (· ++ [job]) ih
    · simpa [Service.submit, startedAt, Function.update_of_ne same] using ih
  | @begin submitted service at' job rest piece left _ _ first _ ih =>
    by_cases same : k = at'
    · subst same
      rw [first] at ih
      simpa [Service.begin, startedAt] using ih
    · have other : at' ≠ k := fun eq => same eq.symm
      simpa [Service.begin, startedAt, Function.update_of_ne same, other] using ih
  | next _ _ ih => exact ih

/-- What was handed out is the pieces of the jobs that were started, less those to come. -/
lemma Served.output :
    service.output ++ service.left = service.started.flatMap fun e => pieces e.2 := by
  induction served with
  | start => rfl
  | submit _ _ _ ih => exact ih
  | @begin submitted service k job rest piece left _ idle _ split ih =>
    have before : service.output = service.started.flatMap fun e => pieces e.2 := by
      rw [← ih, Service.left, idle]
      simp
    rw [Service.left, Service.begin, left_currentWith]
    simp [before, split]
  | @next submitted service k piece left _ busy ih =>
    rw [Service.left, busy] at ih
    rw [Service.left, Service.next, left_currentWith, ← ih]
    simp

/-- The pieces to come are not all those of the job that was started last. -/
lemma Served.left_lt (busy : service.left ≠ []) :
    ∃ k job, service.started.getLast? = some (k, job) ∧
      service.left.length < (pieces job).length := by
  induction served with
  | start => exact absurd rfl busy
  | submit _ _ _ ih => exact ih busy
  | @begin submitted service k job rest piece left _ _ _ split _ =>
    refine ⟨k, job, by simp [Service.begin], ?_⟩
    rw [Service.left, Service.begin, left_currentWith, split]
    simp
  | @next submitted service k piece left _ here ih =>
    have old : service.left = piece :: left := by rw [Service.left, here]; rfl
    obtain ⟨k', job, last, shorter⟩ := ih (by rw [old]; simp)
    rw [old, List.length_cons] at shorter
    refine ⟨k', job, last, ?_⟩
    rw [Service.left, Service.next, left_currentWith]
    omega

end Service

end Inet
