import Inet.Tcp.Scoreboard

/-!
# Runs of scoreboard calls

From a fresh queue, calls with arguments in range leave the scoreboard in agreement with a plain map
of octets.
-/

namespace Inet.Tcp

/-- A call of an operation that changes the scoreboard. -/
inductive ScoreboardCall where
  | enqueueSentData (fromSeqNum toSeqNum : UInt32)
  | setSackedBit (fromSeqNum toSeqNum : UInt32)
  | discardUpTo (seqNum : UInt32)
  | resetSackedBit
  | resetRexmittedBit

/-- The map of octets the scoreboard is meant to be. -/
structure OctetMap where
  begin : ℕ
  «end» : ℕ
  marks : ℕ → OctetMarks

/-- The octet with the sequence number. -/
def OctetMap.position (map : OctetMap) (seqNum : UInt32) : ℕ := unwrap map.begin seqNum

namespace ScoreboardCall

open TCPSACKRexmitQueue

/-- The call on the scoreboard. -/
def perform (queue : TCPSACKRexmitQueue) : ScoreboardCall → Except TcpError TCPSACKRexmitQueue
  | enqueueSentData fromSeqNum toSeqNum => queue.enqueueSentData fromSeqNum toSeqNum
  | setSackedBit fromSeqNum toSeqNum => queue.setSackedBit fromSeqNum toSeqNum
  | discardUpTo seqNum => queue.discardUpTo seqNum
  | resetSackedBit => .ok queue.resetSackedBit
  | resetRexmittedBit => .ok queue.resetRexmittedBit

/-- Are the arguments in the range that the operation asserts? What is sent keeps the
window below half of the sequence space. -/
def InRange (queue : TCPSACKRexmitQueue) : ScoreboardCall → Prop
  | enqueueSentData fromSeqNum toSeqNum =>
      (seqLE queue.begin fromSeqNum ∧ seqLE fromSeqNum queue.end) ∧ seqLess fromSeqNum toSeqNum ∧
        toSeqNum - queue.begin < 2147483648
  | setSackedBit fromSeqNum toSeqNum =>
      let fromSeqNum := if seqLess fromSeqNum queue.begin then queue.begin else fromSeqNum
      seqLess fromSeqNum queue.end ∧
        (seqLess queue.begin toSeqNum ∧ seqLE toSeqNum queue.end) ∧ seqLess fromSeqNum toSeqNum
  | discardUpTo seqNum => seqLE queue.begin seqNum ∧ seqLE seqNum queue.end
  | resetSackedBit => True
  | resetRexmittedBit => True

instance (queue : TCPSACKRexmitQueue) : (call : ScoreboardCall) → Decidable (call.InRange queue)
  | enqueueSentData _ _ => inferInstanceAs (Decidable ((_ ∧ _) ∧ _ ∧ _))
  | setSackedBit _ _ => inferInstanceAs (Decidable (_ ∧ (_ ∧ _) ∧ _))
  | discardUpTo _ => inferInstanceAs (Decidable (_ ∧ _))
  | resetSackedBit => inferInstanceAs (Decidable True)
  | resetRexmittedBit => inferInstanceAs (Decidable True)

/-- The call on the map of octets. -/
def performOn (map : OctetMap) : ScoreboardCall → OctetMap
  | enqueueSentData fromSeqNum toSeqNum =>
      { map with
        «end» := max map.end (map.position toSeqNum)
        marks := sentMarks map.marks (map.position fromSeqNum) (map.position toSeqNum) map.end }
  | setSackedBit fromSeqNum toSeqNum =>
      let start :=
        if seqLess fromSeqNum (serial map.begin) then map.begin else map.position fromSeqNum
      { map with marks := reportedMarks map.marks start (map.position toSeqNum) }
  | discardUpTo seqNum => { map with begin := map.position seqNum }
  | resetSackedBit => { map with marks := fun x => { map.marks x with sacked := false } }
  | resetRexmittedBit => { map with marks := fun x => { map.marks x with rexmitted := false } }

end ScoreboardCall

namespace TCPSACKRexmitQueue

variable {q : TCPSACKRexmitQueue}

/-- The scoreboard shows what the map tells. -/
structure Agrees (queue : TCPSACKRexmitQueue) (map : OctetMap) : Prop where
  checkQueue : queue.checkQueue
  begin : queue.begin = serial map.begin
  «end» : queue.end = serial map.end
  /-- Every octet of the window lies in a region, … -/
  covered : ∀ x, map.begin ≤ x → x < map.end →
    ∃ region ∈ queue.rexmitQueue, region.covers (serial x)
  /-- … and the region it lies in has its marks. -/
  marks : ∀ x, map.begin ≤ x → x < map.end → ∀ region ∈ queue.rexmitQueue,
    region.covers (serial x) →
      region.sacked = (map.marks x).sacked ∧ region.rexmitted = (map.marks x).rexmitted
  total : queue.getTotalAmountOfSackedBytes = serial (sackedCount map.marks map.begin map.end)
  amount : ∀ x, map.begin ≤ x → x ≤ map.end →
    queue.getAmountOfSackedBytes (serial x) = .ok (serial (sackedCount map.marks x map.end))
  bit : ∀ x, map.begin ≤ x → x ≤ map.end →
    queue.getSackedBit (serial x) = .ok (decide (x < map.end) && (map.marks x).sacked)

/-- The queue stands for the map. -/
abbrev StandsFor (queue : TCPSACKRexmitQueue) (map : OctetMap) : Prop :=
  queue.Holds map.begin map.end map.marks

variable {map : OctetMap}

lemma StandsFor.agrees (stands : q.StandsFor map) : q.Agrees map where
  checkQueue := stands.checkQueue
  begin := stands.begin
  «end» := stands.end
  covered _ ge lt := stands.exists_covers ge lt
  marks _ ge lt _ mem covers := stands.marks_of_covers ge lt mem covers
  total := getTotalAmountOfSackedBytes_holds stands
  amount _ ge le := getAmountOfSackedBytes_holds stands ge le
  bit _ ge le := getSackedBit_holds stands ge le

lemma init_standsFor (seqNum : UInt32) (none : ℕ → OctetMarks) :
    (({} : TCPSACKRexmitQueue).init seqNum).StandsFor ⟨seqNum.toNat, seqNum.toNat, none⟩ where
  begin := (serial_toNat seqNum).symm
  «end» := (serial_toNat seqNum).symm
  regions := .nil
  span := Nat.lt_add_of_pos_right (by decide)

lemma exists_position (map : OctetMap) (seqNum : UInt32) :
    ∃ p, seqNum = serial p ∧ map.position (serial p) = p ∧ map.begin ≤ p ∧
      p < map.begin + 4294967296 := by
  have ge := le_unwrap map.begin seqNum
  have lt := unwrap_lt map.begin seqNum
  exact ⟨_, (serial_unwrap map.begin seqNum).symm, unwrap_serial ge lt, ge, lt⟩

lemma exists_position_inside {seqNum : UInt32} (stands : q.StandsFor map)
    (inside : seqLE q.begin seqNum ∧ seqLE seqNum q.end) :
    ∃ p, seqNum = serial p ∧ map.position (serial p) = p ∧ map.begin ≤ p ∧ p ≤ map.end := by
  have span := stands.span
  have le := stands.le
  obtain ⟨p, rfl, eq, ge, lt⟩ := exists_position map seqNum
  rw [stands.begin, stands.end] at inside
  have near := (seqLE_serial_iff_near ge lt).mp inside.1
  exact ⟨p, rfl, eq, ge, (seqLE_serial (by omega) (by omega)).mp inside.2⟩

lemma exists_start {p : ℕ} (stands : q.StandsFor map) (eq : map.position (serial p) = p)
    (ge : map.begin ≤ p) (lt : p < map.begin + 4294967296)
    (below : seqLess (if seqLess (serial p) q.begin then q.begin else serial p) q.end) :
    ∃ start, (if seqLess (serial p) q.begin then q.begin else serial p) = serial start ∧
      (if seqLess (serial p) (serial map.begin) then map.begin else map.position (serial p)) =
        start ∧ map.begin ≤ start ∧ start < map.end := by
  have span := stands.span
  have le := stands.le
  rw [stands.begin] at below ⊢
  by_cases less : seqLess (serial p) (serial map.begin)
  · rw [if_pos less, stands.end] at below
    rw [if_pos less, if_pos less]
    have some : map.begin < map.end := (seqLess_serial (by omega) (by omega)).mp below
    exact ⟨map.begin, rfl, rfl, le_rfl, some⟩
  · rw [if_neg less, stands.end] at below
    rw [if_neg less, if_neg less, eq]
    -- otherwise `p` would be in the half of the sequence space below the queue
    have near : p ≤ map.begin + 2147483648 := by
      by_contra far
      refine less ?_
      rw [← serial_add_cycle map.begin]
      exact (seqLess_serial (a := p) (by omega) (by omega)).mpr lt
    exact ⟨p, rfl, rfl, ge, (seqLess_serial (by omega) (by omega)).mp below⟩

lemma perform_standsFor (stands : q.StandsFor map) (call : ScoreboardCall)
    (inRange : call.InRange q) :
    ∃ q', call.perform q = .ok q' ∧ q'.StandsFor (call.performOn map) := by
  have span := stands.span
  cases call with
  | enqueueSentData fromSeqNum toSeqNum =>
    obtain ⟨inside, less, near⟩ := inRange
    obtain ⟨a, rfl, aEq, aGe, aLe⟩ := exists_position_inside stands inside
    obtain ⟨b, rfl, bEq, bGe, bLt⟩ := exists_position map toSeqNum
    rw [stands.begin] at near
    have near : b < map.begin + 2147483648 := (seqLE_serial_iff_near bGe bLt).mp near
    have less : a < b := (seqLess_serial (by omega) (by omega)).mp less
    have sent := enqueueSentData_holds stands aGe aLe less near
    simp only [ScoreboardCall.perform, ScoreboardCall.performOn, aEq, bEq]
    exact sent
  | setSackedBit fromSeqNum toSeqNum =>
    obtain ⟨below, inside, less⟩ := inRange
    obtain ⟨p, rfl, pEq, pGe, pLt⟩ := exists_position map fromSeqNum
    obtain ⟨b, rfl, bEq, bGe, bLe⟩ := exists_position_inside stands
      ⟨seqLE_of_seqLess inside.1, inside.2⟩
    obtain ⟨a, clipped, start, aGe, aLt⟩ := exists_start stands pEq pGe pLt below
    rw [clipped] at less
    have less : a < b := (seqLess_serial (by omega) (by omega)).mp less
    have reported := setSackedBit_holds stands clipped aGe less bLe
    simp only [ScoreboardCall.perform, ScoreboardCall.performOn, start, bEq]
    exact reported
  | discardUpTo seqNum =>
    obtain ⟨a, rfl, eq, ge, le⟩ := exists_position_inside stands inRange
    have kept := discardUpTo_holds stands ge le
    simp only [ScoreboardCall.perform, ScoreboardCall.performOn, eq]
    exact kept
  | resetSackedBit => exact ⟨_, rfl, resetSackedBit_holds stands⟩
  | resetRexmittedBit => exact ⟨_, rfl, resetRexmittedBit_holds stands⟩

/-- The calls one after the other. -/
def performAll : TCPSACKRexmitQueue → List ScoreboardCall → Except TcpError TCPSACKRexmitQueue
  | queue, [] => .ok queue
  | queue, call :: calls => do performAll (← call.perform queue) calls

/-- Every call of the run finds its arguments in range. -/
def AllInRange : TCPSACKRexmitQueue → List ScoreboardCall → Prop
  | _, [] => True
  | queue, call :: calls =>
      call.InRange queue ∧ ∀ queue', call.perform queue = .ok queue' → AllInRange queue' calls

lemma AllInRange.cons {q' : TCPSACKRexmitQueue} {call : ScoreboardCall}
    {calls : List ScoreboardCall} (inRange : call.InRange q)
    (run : call.perform q = .ok q') (rest : AllInRange q' calls) :
    AllInRange q (call :: calls) := by
  refine ⟨inRange, fun other ran => ?_⟩
  cases run.symm.trans ran
  exact rest

lemma performAll_standsFor {calls : List ScoreboardCall} (stands : q.StandsFor map)
    (inRange : AllInRange q calls) :
    ∃ q', performAll q calls = .ok q' ∧
      q'.StandsFor (calls.foldl ScoreboardCall.performOn map) := by
  induction calls generalizing q map with
  | nil => exact ⟨q, rfl, stands⟩
  | cons call calls ih =>
    obtain ⟨q', run, stands⟩ := perform_standsFor stands call inRange.1
    obtain ⟨last, rest, stands⟩ := ih stands (inRange.2 q' run)
    refine ⟨last, ?_, stands⟩
    unfold performAll
    rw [run]
    exact rest

/-- The scoreboard refines the map of octets. -/
theorem performAll_agrees (seqNum : UInt32) (calls : List ScoreboardCall)
    (inRange : AllInRange (({} : TCPSACKRexmitQueue).init seqNum) calls) :
    ∃ q, performAll (({} : TCPSACKRexmitQueue).init seqNum) calls = .ok q ∧
      q.Agrees (calls.foldl ScoreboardCall.performOn
        ⟨seqNum.toNat, seqNum.toNat, fun _ => {}⟩) := by
  obtain ⟨q, run, stands⟩ := performAll_standsFor (init_standsFor seqNum fun _ => {}) inRange
  exact ⟨q, run, stands.agrees⟩

/-- Sixteen octets across the wrap of the sequence numbers: five of them are reported, four
are sent again and two acknowledged. -/
theorem performAll_agrees_across_wrap :
    ∃ q, performAll (({} : TCPSACKRexmitQueue).init 4294967290)
        [.enqueueSentData 4294967290 10, .setSackedBit 4294967292 1,
          .enqueueSentData 4294967294 2, .discardUpTo 4294967292] = .ok q ∧
      q.Agrees (List.foldl ScoreboardCall.performOn
        ⟨(4294967290 : UInt32).toNat, (4294967290 : UInt32).toNat, fun _ => {}⟩
        [.enqueueSentData 4294967290 10, .setSackedBit 4294967292 1,
          .enqueueSentData 4294967294 2, .discardUpTo 4294967292]) :=
  performAll_agrees _ _ (.cons (by decide) rfl (.cons (by decide) rfl (.cons (by decide) rfl
    (.cons (by decide) rfl trivial))))

end TCPSACKRexmitQueue

end Inet.Tcp
