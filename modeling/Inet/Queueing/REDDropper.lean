import Mathlib.Algebra.Order.Field.Rat

/-!
# RED with ECN marks

`REDDropper` and `REDDropperNUM`. A decision to mark that meets a marked packet is noted in
`markNext`; but then the next decision that meets an unmarked packet marks nothing and clears the
note.
-/

namespace Inet.Queueing

/-- The two modules, which accept a packet with different probabilities. -/
inductive Variant where
  | REDDropper
  | REDDropperNUM

structure IPv4Datagram where
  explicitCongestionNotification : ℕ

def IPv4Datagram.isMarkedECN (packet : IPv4Datagram) : Bool :=
  decide (0 < packet.explicitCongestionNotification)

structure REDDropper (numGates : ℕ) where
  variant : Variant
  markNext : Bool
  wq : ℚ
  minths : Fin numGates → ℚ
  maxths : Fin numGates → ℚ
  maxps : Fin numGates → ℚ
  pkrates : Fin numGates → ℚ
  count : Fin numGates → ℚ
  marks : Fin numGates → ℚ
  avg : ℚ
  q_time : ℚ

/-- A packet with what the dropper finds: the length of the queues when it comes and when it has
been sent, the time, and the random number. -/
structure Arrival (numGates : ℕ) where
  packet : IPv4Datagram
  gate : Fin numGates
  queueLength : ℕ
  lengthSent : ℕ
  now : ℚ
  dblrand : ℚ

namespace REDDropper

-- `pow` is the one of the mathematical library
variable {numGates : ℕ} (pow : ℚ → ℚ → ℚ) (st : REDDropper numGates) (a : Arrival numGates)

def average : ℚ :=
  if 0 < a.queueLength then (1 - st.wq) * st.avg + st.wq * a.queueLength
  else pow (1 - st.wq) ((a.now - st.q_time) * st.pkrates a.gate) * st.avg

/-- `pa`. Division by zero gives infinity, which is above every random number like 1. -/
def probability (count pb : ℚ) : Variant → ℚ
  | .REDDropper => if 1 - count * pb ≤ 0 then 1 else pb / (1 - count * pb)
  | .REDDropperNUM => pb

/-- The decision of `shouldDrop` by the new `avg`, and the new `count`. -/
def decision (avg : ℚ) : Bool × ℚ :=
  let minth := st.minths a.gate
  let maxth := st.maxths a.gate
  if minth ≤ avg ∧ avg < maxth then
    let count := st.count a.gate + 1
    let pb := st.maxps a.gate * (avg - minth) / (maxth - minth)
    if a.dblrand < probability count pb st.variant then (true, 0) else (false, count)
  else if maxth ≤ avg then (true, 0)
  else if maxth ≤ a.queueLength then (true, 0)
  else (false, -1)

def decides : Bool := (st.decision a (st.average pow a)).1

def markECN (packet : IPv4Datagram) : REDDropper numGates × IPv4Datagram :=
  if packet.isMarkedECN then ({ st with markNext := true }, packet)
  else if !st.markNext then (st, { packet with explicitCongestionNotification := 3 })
  else ({ st with markNext := false }, packet)

/-- Whether the packet is dropped, and the packet. -/
def shouldDrop : Bool × REDDropper numGates × IPv4Datagram :=
  let avg := st.average pow a
  let (decided, count) := st.decision a avg
  let st := { st with avg := avg, count := Function.update st.count a.gate count }
  if decided then
    if st.marks a.gate = 0 then (true, st, a.packet) else (false, st.markECN a.packet)
  else (false, st, a.packet)

def sendOut : REDDropper numGates :=
  if a.lengthSent = 0 then { st with q_time := a.now } else st

/-- What goes out, if the packet is not dropped. -/
def handleMessage : Option IPv4Datagram × REDDropper numGates :=
  let (dropped, st, packet) := st.shouldDrop pow a
  if dropped then (none, st) else (some packet, st.sendOut a)

/-- Each packet of a sequence, with whether it was to be marked, and what went out. -/
def run : List (Arrival numGates) → REDDropper numGates →
    List (Bool × IPv4Datagram × Option IPv4Datagram)
  | [], _ => []
  | a :: rest, st =>
      (st.decides pow a, a.packet, (st.handleMessage pow a).1) ::
        run rest (st.handleMessage pow a).2

/-- The mark is new on the packet. -/
def newlyMarked (sent : Bool × IPv4Datagram × Option IPv4Datagram) : Bool :=
  !sent.2.1.isMarkedECN && sent.2.2.any IPv4Datagram.isMarkedECN

/-- Whether the packet was to be marked, and whether it was marked before. -/
def ask (sent : Bool × IPv4Datagram × Option IPv4Datagram) : Bool × Bool :=
  (sent.1, sent.2.1.isMarkedECN)

/-- The marks that are due, one for each decision: on the packet, or on the first later one that is
not marked. -/
def marksDue : ℕ → List (Bool × Bool) → List Bool
  | _, [] => []
  | owed, (decided, marked) :: rest =>
      let owed := if decided then owed + 1 else owed
      if marked then false :: marksDue owed rest
      else decide (0 < owed) :: marksDue (owed - 1) rest

/-- No mark is lost, and none comes without a decision. -/
def LosesNoMark (arrivals : List (Arrival numGates)) : Prop :=
  (run pow arrivals st).map newlyMarked = marksDue 0 ((run pow arrivals st).map ask)

/-- Once a decision meets a marked packet, all packets that follow are marked. -/
def NoMarkWaits : List (Bool × Bool) → Prop
  | [] => True
  | (decided, marked) :: rest =>
      (decided = true → marked = true → ∀ later ∈ rest, later.2 = true) ∧ NoMarkWaits rest

/-! ## Marks -/

/-- The marks of the source. -/
def marksSet : Bool → List (Bool × Bool) → List Bool
  | _, [] => []
  | markNext, (decided, marked) :: rest =>
      if marked then false :: marksSet (markNext || decided) rest
      else (decided && !markNext) :: marksSet (markNext && !decided) rest

variable {pow : ℚ → ℚ → ℚ} {st : REDDropper numGates} {a : Arrival numGates}

lemma handleMessage_marks (marking : st.marks a.gate ≠ 0) :
    (st.handleMessage pow a).2.marks = st.marks ∧
      newlyMarked (st.decides pow a, a.packet, (st.handleMessage pow a).1) =
        (!a.packet.isMarkedECN && (st.decides pow a && !st.markNext)) ∧
      (st.handleMessage pow a).2.markNext =
        if a.packet.isMarkedECN then st.markNext || st.decides pow a
        else st.markNext && !st.decides pow a := by
  have sent (st : REDDropper numGates) :
      (st.sendOut a).marks = st.marks ∧ (st.sendOut a).markNext = st.markNext := by
    rw [sendOut]
    split_ifs <;> exact ⟨rfl, rfl⟩
  simp only [handleMessage, shouldDrop, decides, newlyMarked]
  cases decided : (st.decision a (st.average pow a)).1 with
  | false =>
    refine ⟨(sent _).1, ?_, (sent _).2.trans ?_⟩
    · cases marked : a.packet.isMarkedECN <;> simp [marked]
    · cases a.packet.isMarkedECN <;> simp
  | true =>
    rw [if_pos rfl, if_neg marking, if_neg Bool.false_ne_true]
    rw [(sent _).1, (sent _).2, markECN]
    cases marked : a.packet.isMarkedECN with
    | true => exact ⟨rfl, rfl, by simp⟩
    | false =>
      cases pending : st.markNext with
      | true => exact ⟨rfl, by simp [marked], rfl⟩
      | false => exact ⟨rfl, by simp [IPv4Datagram.isMarkedECN], rfl⟩

lemma run_marks {arrivals : List (Arrival numGates)} (marking : ∀ i, st.marks i ≠ 0) :
    (run pow arrivals st).map newlyMarked =
      marksSet st.markNext ((run pow arrivals st).map ask) := by
  induction arrivals generalizing st with
  | nil => rfl
  | cons a rest ih =>
    obtain ⟨marks, marked, markNext⟩ := @handleMessage_marks _ pow st a (marking a.gate)
    have later : ∀ i, (st.handleMessage pow a).2.marks i ≠ 0 := marks ▸ marking
    rw [run, List.map_cons, List.map_cons, marked, ih later, markNext, ask, marksSet]
    cases a.packet.isMarkedECN <;> rfl

lemma marksSet_eq_of_waiting {asked : List (Bool × Bool)} {owed : ℕ} (waiting : 0 < owed) :
    marksSet true asked = marksDue owed asked ↔ ∀ later ∈ asked, later.2 = true := by
  induction asked generalizing owed with
  | nil => exact iff_of_true rfl nofun
  | cons ask rest ih =>
    obtain ⟨decided, marked⟩ := ask
    have more : 0 < if decided then owed + 1 else owed := by
      split_ifs
      · exact Nat.succ_pos owed
      · exact waiting
    rw [marksSet, marksDue, List.forall_mem_cons]
    cases marked with
    | true =>
      rw [if_pos rfl, if_pos rfl, List.cons.injEq, Bool.true_or, ih more]
      simp
    | false =>
      refine iff_of_false (fun same => ?_) fun all => Bool.false_ne_true all.1
      have first := (List.cons.inj same).1
      rw [decide_eq_true more] at first
      cases decided <;> cases first

lemma marksSet_eq_iff {asked : List (Bool × Bool)} :
    marksSet false asked = marksDue 0 asked ↔ NoMarkWaits asked := by
  induction asked with
  | nil => exact iff_of_true rfl trivial
  | cons ask rest ih =>
    obtain ⟨decided, marked⟩ := ask
    have quiet (all : ∀ later ∈ rest, later.2 = true) : NoMarkWaits rest := by
      clear ih
      induction rest with
      | nil => trivial
      | cons next rest ih =>
        have behind := fun later mem => all later (List.mem_cons_of_mem _ mem)
        exact ⟨fun _ _ => behind, ih behind⟩
    rw [marksSet, marksDue, NoMarkWaits]
    cases decided <;> cases marked
    · simpa using ih
    · simpa using ih
    · simpa using ih
    · simp only [if_true, Bool.or_true, List.cons.injEq, true_and, forall_const]
      rw [marksSet_eq_of_waiting Nat.one_pos]
      exact ⟨fun all => ⟨all, quiet all⟩, And.left⟩

/-- From the start, no mark is lost exactly if none has to wait for an unmarked packet. -/
theorem losesNoMark_iff (pow : ℚ → ℚ → ℚ) (st : REDDropper numGates) (marking : ∀ i, st.marks i ≠ 0)
    (start : st.markNext = false) (arrivals : List (Arrival numGates)) :
    st.LosesNoMark pow arrivals ↔ NoMarkWaits ((run pow arrivals st).map ask) := by
  rw [LosesNoMark, run_marks marking, start]
  exact marksSet_eq_iff

/-- A queue that is above the threshold, so that every packet is to be marked. -/
def overThreshold : REDDropper 1 where
  variant := .REDDropper
  markNext := false
  wq := 1
  minths _ := 1
  maxths _ := 2
  maxps _ := 1
  pkrates _ := 150
  count _ := -1
  marks _ := 1
  avg := 0
  q_time := 0

/-- A packet that is marked already, and one that is not. -/
def markedFirst : List (Arrival 1) :=
  [⟨⟨3⟩, 0, 5, 5, 1, 1 / 2⟩, ⟨⟨0⟩, 0, 5, 5, 2, 1 / 2⟩]

theorem not_losesNoMark_markedFirst : ¬ overThreshold.LosesNoMark (fun _ _ => 1) markedFirst := by
  rw [LosesNoMark]
  decide +kernel

theorem losesNoMark_iff_markedFirst : overThreshold.LosesNoMark (fun _ _ => 1) markedFirst ↔
    NoMarkWaits ((run (fun _ _ => 1) markedFirst overThreshold).map ask) :=
  losesNoMark_iff (fun _ _ => 1) overThreshold (by decide) rfl markedFirst

/-! ## Short queues -/

/-- Every threshold is above the length, and the average is not. -/
structure Below (st : REDDropper numGates) (length : ℚ) : Prop where
  wq : 0 ≤ st.wq ∧ st.wq ≤ 1
  gates : ∀ i, 0 ≤ st.pkrates i ∧ length < st.minths i ∧ length < st.maxths i
  avg : 0 ≤ st.avg ∧ st.avg ≤ length

section

variable {length : ℚ} (below : Below st length)
  (power : ∀ x y : ℚ, 0 ≤ x → x ≤ 1 → 0 ≤ y → 0 ≤ pow x y ∧ pow x y ≤ 1)
include below power

lemma Below.average (time : st.q_time ≤ a.now) (short : (a.queueLength : ℚ) ≤ length) :
    0 ≤ st.average pow a ∧ st.average pow a ≤ length := by
  obtain ⟨nonneg, le⟩ := below.avg
  have rest : 0 ≤ 1 - st.wq := sub_nonneg.mpr below.wq.2
  rw [REDDropper.average]
  split_ifs
  · refine ⟨add_nonneg (mul_nonneg rest nonneg) (mul_nonneg below.wq.1 (Nat.cast_nonneg _)), ?_⟩
    calc (1 - st.wq) * st.avg + st.wq * a.queueLength
        ≤ (1 - st.wq) * length + st.wq * length :=
          add_le_add (mul_le_mul_of_nonneg_left le rest) (mul_le_mul_of_nonneg_left short below.wq.1)
      _ = length := by rw [← add_mul, sub_add_cancel, one_mul]
  · obtain ⟨least, most⟩ := power (1 - st.wq) ((a.now - st.q_time) * st.pkrates a.gate) rest
      (sub_le_self 1 below.wq.1) (mul_nonneg (sub_nonneg.mpr time) (below.gates a.gate).1)
    exact ⟨mul_nonneg least nonneg, (mul_le_of_le_one_left nonneg most).trans le⟩

end

end REDDropper

end Inet.Queueing
