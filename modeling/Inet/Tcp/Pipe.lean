import Inet.Tcp.ConnectionSackUtil

/-!
# The pipe of RFC 3517

`setPipe` looks at one octet of every region and multiplies by the length of the region.
The sum it arrives at is the sum over the octets.
-/

namespace Inet.Tcp.TCPConnection

open TCPSACKRexmitQueue Finset Nat

variable {c : TCPConnection} {marks : ℕ → OctetMarks} {una max s h : ℕ}

/-- `IsLost`: are three runs, or three full segments, SACKed above the octet? -/
def Lost (marks : ℕ → OctetMarks) (sMss max octet : ℕ) : Prop :=
  3 ≤ sackedRuns marks (octet + 1) max ∨ 3 * sMss ≤ sackedCount marks (octet + 1) max

instance (marks : ℕ → OctetMarks) (sMss max octet : ℕ) : Decidable (Lost marks sMss max octet) :=
  inferInstanceAs (Decidable (_ ∨ _))

/-- `HighRxt`, one behind the highest octet sent again. -/
def highRxtOf (marks : ℕ → OctetMarks) (una max : ℕ) : ℕ :=
  highestEnd (fun x => (marks x).rexmitted) una max

/-- What an octet that is not SACKed adds to the pipe. -/
def octetWeight (marks : ℕ → OctetMarks) (sMss una max octet : ℕ) : ℕ :=
  (if Lost marks sMss max octet then 0 else 1) + (if octet < highRxtOf marks una max then 1 else 0)

/-- The pipe, octet by octet from `s` on. -/
def octetPipeFrom (marks : ℕ → OctetMarks) (sMss una max s : ℕ) : ℕ :=
  ∑ octet ∈ (Finset.Ico s max).filter fun octet => (marks octet).sacked = false,
    octetWeight marks sMss una max octet

/-- The pipe of the octets in `[una, max)`. -/
def octetPipe (marks : ℕ → OctetMarks) (sMss una max : ℕ) : ℕ :=
  octetPipeFrom marks sMss una max una

variable {sMss : ℕ}

lemma octetPipeFrom_end : octetPipeFrom marks sMss una max max = 0 := by
  simp [octetPipeFrom]

lemma octetPipeFrom_stretch {w : ℕ} (lt : s < h) (le : h ≤ max)
    (clear : ∀ x, s ≤ x → x < h → (marks x).sacked = false)
    (same : ∀ x, s ≤ x → x < h → octetWeight marks sMss una max x = w) :
    octetPipeFrom marks sMss una max s = (h - s) * w + octetPipeFrom marks sMss una max h := by
  unfold octetPipeFrom
  rw [sum_filter, sum_filter, ← sum_Ico_consecutive _ lt.le le]
  rw [sum_congr rfl (g := fun _ => w)]
  · rw [sum_const, card_Ico]
    rfl
  · intro x mem
    obtain ⟨ge, below⟩ := mem_Ico.mp mem
    rw [if_pos (clear x ge below), same x ge below]

lemma octetPipeFrom_skip (lt : s < h) (le : h ≤ max)
    (sacked : ∀ x, s ≤ x → x < h → (marks x).sacked = true) :
    octetPipeFrom marks sMss una max s = octetPipeFrom marks sMss una max h := by
  unfold octetPipeFrom
  rw [sum_filter, sum_filter, ← sum_Ico_consecutive _ lt.le le, sum_eq_zero, zero_add]
  intro x mem
  obtain ⟨ge, below⟩ := mem_Ico.mp mem
  rw [if_neg (by rw [sacked x ge below]; decide)]

section Region

variable {sMss x : ℕ} (same : ∀ x, s ≤ x → x < h → marks x = marks s)
  (clear : (marks s).sacked = false)

include same clear

lemma sackedAbove_region (ge : s ≤ x) (below : x ≤ h) (le : h ≤ max) :
    sackedRuns marks x max = sackedRuns marks h max ∧
      sackedCount marks x max = sackedCount marks h max := by
  rcases eq_or_lt_of_le below with rfl | lt
  · exact ⟨rfl, rfl⟩
  · have here (y : ℕ) (ge' : x ≤ y) (below' : y < h) : marks y = marks s :=
      same y (ge.trans ge') below'
    refine ⟨runCount_skip lt le fun y ge' below' => ?_, ?_⟩
    · rw [here y ge' below', clear]
    · rw [← sackedCount_add lt.le le, sackedCount_run here, if_neg (by rw [clear]; decide),
        zero_add]

lemma octetWeight_region (inside : una ≤ s) (lt : s < h) (le : h ≤ max)
    (fits : c.lossThreshold = 3 * sMss) (ge : s ≤ x) (below : x < h) :
    octetWeight marks sMss una max x =
      (if lostFrom marks c.lossThreshold max s = true then 0 else 1) +
        (if s < highRxtOf marks una max then 1 else 0) := by
  have above := sackedAbove_region same clear (x := x + 1) (by omega) below le
  have first := sackedAbove_region same clear le_rfl lt.le le
  have lost : Lost marks sMss max x ↔ lostFrom marks c.lossThreshold max s = true := by
    simp only [Lost, lostFrom, Bool.or_eq_true, decide_eq_true_eq, above, first, fits]
  have sentAgain : x < highRxtOf marks una max ↔ s < highRxtOf marks una max := by
    refine ⟨fun less => by omega, fun less => ?_⟩
    obtain ⟨y, sLe, yLt, marked⟩ := (lt_highestEnd_iff inside).mp less
    refine (lt_highestEnd_iff (inside.trans ge)).mpr ?_
    rcases lt_or_ge x y with xLt | yLe
    · exact ⟨y, xLt.le, yLt, marked⟩
    · -- the highest octet sent again is in this very region
      refine ⟨x, le_rfl, by omega, ?_⟩
      rw [same x ge below, ← same y sLe (by omega)]
      exact marked
  unfold octetWeight
  simp only [lost, sentAgain]

end Region

/-! ## The loop -/

lemma highRxt_eq (board : c.Scoreboard marks una max) :
    c.rexmitQueue.getHighestRexmittedSeqNum = serial (highRxtOf marks una max) :=
  getHighestRexmittedSeqNum_holds board.holds

lemma pipeLoop_eq (board : c.Scoreboard marks una max) (fits : c.lossThreshold = 3 * sMss)
    (highRxt : c.highRxt = serial (highRxtOf marks una max)) {fuel : ℕ} {pipe : UInt32}
    (enough : (onward (serial s) c.rexmitQueue.rexmitQueue).length < fuel) (ge : una ≤ s)
    (le : s ≤ max) :
    c.pipeLoop fuel (serial s) pipe = .ok (pipe + serial (octetPipeFrom marks sMss una max s)) := by
  have span := board.holds.span
  induction fuel generalizing s pipe with
  | zero => exact absurd enough (not_lt_zero _)
  | succ fuel ih =>
    unfold pipeLoop
    rw [board.sndMax]
    split
    case isFalse atEnd =>
      have atEnd : s = max := by
        by_contra apart
        exact atEnd ((seqLess_serial (by omega) (by omega)).mpr (by omega))
      rw [atEnd, octetPipeFrom_end]
      exact congrArg Except.ok (UInt32.add_zero _).symm
    case isTrue less =>
      have less : s < max := (seqLess_serial (by omega) (by omega)).mp less
      obtain ⟨h, lt, hLe, same, block, shorter⟩ := checkSackBlock_holds board.holds ge less
      have next (pipe : UInt32) : c.pipeLoop fuel (serial h) pipe =
          .ok (pipe + serial (octetPipeFrom marks sMss una max h)) :=
        ih (by omega) (by omega) hLe
      have reaches : serial s + (serial h - serial s) = serial h := by
        rw [← serial_sub lt.le, ← serial_add, Nat.add_sub_cancel' lt.le]
      rw [block]
      dsimp only [bind, Except.bind]
      rw [reaches]
      split
      case isTrue sacked =>
        rw [next, octetPipeFrom_skip lt hLe fun x ge' below => by rw [same x ge' below, sacked]]
      case isFalse clear =>
        have clear : (marks s).sacked = false := Bool.eq_false_iff.mpr clear
        have weights (x : ℕ) (ge' : s ≤ x) (below : x < h) :=
          octetWeight_region same clear ge lt hLe fits ge' below
        have sentAgain : seqLess (serial s) c.highRxt ↔ s < highRxtOf marks una max := by
          have : una ≤ highRxtOf marks una max := le_highestEnd
          have : highRxtOf marks una max ≤ max := highestEnd_le (by omega)
          rw [highRxt]
          exact seqLess_serial (by omega) (by omega)
        rw [isLost_eq board ge le, octetPipeFrom_stretch lt hLe
          (fun x ge' below => by rw [same x ge' below, clear]) weights]
        dsimp only
        rw [next, serial_add, ← serial_sub lt.le]
        simp only [sentAgain]
        refine congrArg Except.ok ?_
        rw [← UInt32.add_assoc]
        refine congrArg (· + _) ?_
        by_cases lost : lostFrom marks c.lossThreshold max s = true
        · rw [if_pos lost, if_pos lost, zero_add]
          split
          · rw [mul_one]
          · exact (UInt32.add_zero _).symm
        · split
          · rw [mul_add, mul_one, serial_add, UInt32.add_assoc]
          · rw [add_zero, mul_one]

lemma octetPipe_le : octetPipe marks sMss una max ≤ (max - una) * 2 := by
  unfold octetPipe octetPipeFrom
  calc _ ≤ ∑ octet ∈ (Finset.Ico una max).filter fun octet => (marks octet).sacked = false, 2 := by
        refine sum_le_sum fun octet _ => ?_
        unfold octetWeight
        split <;> split <;> omega
    _ = ((Finset.Ico una max).filter fun octet => (marks octet).sacked = false).card * 2 := by
        rw [sum_const]
        rfl
    _ ≤ (max - una) * 2 := by
        refine mul_le_mul_right 2 ?_
        rw [← card_Ico]
        exact card_filter_le _ _

/-- `setPipe` computes the pipe of RFC 3517, unless three segments exceed 32 bits. -/
theorem setPipe_computes_pipe (board : c.Scoreboard marks una max)
    (fits : 3 * c.sndMss.toNat < 4294967296) :
    c.setPipe.map (fun c' => c'.pipe.toNat) = .ok (octetPipe marks c.sndMss.toNat una max) := by
  have span := board.holds.span
  have threshold : c.lossThreshold = 3 * c.sndMss.toNat := by
    unfold lossThreshold
    exact mod_eq_of_lt fits
  let c' := { c with highRxt := c.rexmitQueue.getHighestRexmittedSeqNum }
  have board' : c'.Scoreboard marks una max :=
    ⟨board.enabled, board.holds, board.sndUna, board.sndMax⟩
  have enough : (onward (serial una) c'.rexmitQueue.rexmitQueue).length <
      c.rexmitQueue.rexmitQueue.length + 1 :=
    lt_succ_of_le (List.length_dropWhile_le _ _)
  have loop : c'.pipeLoop (c.rexmitQueue.rexmitQueue.length + 1) (serial una) 0 =
      .ok (0 + serial (octetPipe marks c.sndMss.toNat una max)) :=
    pipeLoop_eq board' threshold (highRxt_eq board) enough le_rfl board.holds.le
  unfold setPipe
  rw [assert_pos board.enabled]
  change Except.map _ (c'.pipeLoop _ c.sndUna 0 >>= fun pipe => .ok { c' with pipe := pipe }) = _
  rw [board.sndUna, loop, UInt32.zero_add]
  refine congrArg Except.ok ?_
  change (serial (octetPipe marks c.sndMss.toNat una max)).toNat = _
  have : octetPipe marks c.sndMss.toNat una max ≤ (max - una) * 2 := octetPipe_le
  exact mod_eq_of_lt (by omega)

/-- None of the seven octets is lost, and two of them have been sent again. -/
theorem setPipe_computes_nine :
    (threeOfTen 536).setPipe.map (fun c' => c'.pipe.toNat) =
      .ok (octetPipe threeOfTenMarks (threeOfTen 536).sndMss.toNat 4294967292 4294967302) :=
  setPipe_computes_pipe (threeOfTen_scoreboard 536) (by decide)

/-- Three segments of 1431655766 octets are two octets modulo `2 ^ 32`, so three SACKed
octets make the five below them lost. -/
theorem setPipe_threshold_wraps :
    ¬ ∀ (c : TCPConnection) (marks : ℕ → OctetMarks) (una max : ℕ), c.Scoreboard marks una max →
      c.setPipe.map (fun c' => c'.pipe.toNat) = .ok (octetPipe marks c.sndMss.toNat una max) := by
  intro computes
  have wrong := computes _ _ _ _ (threeOfTen_scoreboard 1431655766)
  have code : (threeOfTen 1431655766).setPipe.map (fun c' => c'.pipe.toNat) = .ok 4 := by
    decide +kernel
  have octets : octetPipe threeOfTenMarks 1431655766 4294967292 4294967302 = 9 := by
    decide +kernel
  cases wrong.trans (congrArg Except.ok octets)

/-! ## The next segment to send -/

open TCPSACKRexmitQueue

variable {c : TCPConnection} {marks : ℕ → OctetMarks} {una max s h : ℕ}

/-- The octet `s2` meets the criteria of rule (1): not sent again yet and below the
highest SACKed octet, not SACKed, and lost. -/
structure ToSendAgain (c : TCPConnection) (marks : ℕ → OctetMarks) (una max s2 : ℕ) : Prop where
  aboveRxt : highestEnd (fun x => (marks x).rexmitted) una max ≤ s2
  belowSacked : ∃ y, s2 < y ∧ y < max ∧ (marks y).sacked = true
  unsacked : (marks s2).sacked = false
  lost : c.isLost (serial s2) = .ok true

lemma isLost_anti (board : c.Scoreboard marks una max) {s s' : ℕ} (ge : una ≤ s) (le : s ≤ s')
    (le' : s' ≤ max) (lost : c.isLost (serial s') = .ok true) : c.isLost (serial s) = .ok true := by
  rw [isLost_eq board (ge.trans le) le', Except.ok.injEq] at lost
  rw [isLost_eq board ge (le.trans le')]
  exact congrArg Except.ok (lostFrom_anti le le' lost)

/-- The lowest of the octets from `s` on that rule (1) lets go. -/
def LowestFrom (c : TCPConnection) (marks : ℕ → OctetMarks) (una max s s2 : ℕ) : Prop :=
  IsLeast {x | s ≤ x ∧ ToSendAgain c marks una max x} s2

/-- The answer of the loop from `s` on, as a position. -/
def Answers (c : TCPConnection) (marks : ℕ → OctetMarks) (una max s : ℕ)
    (answer : Option UInt32) : Prop :=
  ∀ s2, answer = some s2 ↔ ∃ x, s2 = serial x ∧ LowestFrom c marks una max s x

lemma Answers.none (nothing : ∀ x, s ≤ x → ¬ ToSendAgain c marks una max x) :
    Answers c marks una max s .none := by
  intro s2
  constructor
  · intro answer
    cases answer
  · rintro ⟨x, -, ⟨ge, sendable⟩, -⟩
    exact absurd sendable (nothing x ge)

lemma Answers.skip {answer : Option UInt32} (answers : Answers c marks una max h answer)
    (le : s ≤ h) (nothing : ∀ x, s ≤ x → x < h → ¬ ToSendAgain c marks una max x) :
    Answers c marks una max s answer := by
  have same : {x | s ≤ x ∧ ToSendAgain c marks una max x} =
      {x | h ≤ x ∧ ToSendAgain c marks una max x} := by
    ext x
    refine ⟨fun ⟨ge, sendable⟩ => ⟨?_, sendable⟩, fun ⟨ge, sendable⟩ => ⟨le.trans ge, sendable⟩⟩
    by_contra below
    exact nothing x ge (Nat.lt_of_not_le below) sendable
  intro s2
  rw [answers s2]
  unfold LowestFrom
  rw [same]

lemma Answers.some (sendable : ToSendAgain c marks una max s) :
    Answers c marks una max s (.some (serial s)) := by
  intro s2
  have lowest : LowestFrom c marks una max s s := ⟨⟨le_rfl, sendable⟩, fun x mem => mem.1⟩
  constructor
  · intro answer
    cases answer
    exact ⟨s, rfl, lowest⟩
  · rintro ⟨x, rfl, least⟩
    rw [least.unique lowest]

lemma nextSegLoop_answers (board : c.Scoreboard marks una max) {fuel : ℕ}
    (enough : (onward (serial s) c.rexmitQueue.rexmitQueue).length < fuel) (ge : una ≤ s)
    (above : highestEnd (fun x => (marks x).rexmitted) una max ≤ s) (le : s ≤ max) :
    ∃ answer, c.nextSegLoop true fuel (serial s) = .ok answer ∧
      Answers c marks una max s answer := by
  have span := board.holds.span
  induction fuel generalizing s with
  | zero => exact absurd enough (Nat.not_lt_zero _)
  | succ fuel ih =>
    have highest : highestEnd (fun x => (marks x).sacked) una max ≤ max :=
      highestEnd_le board.holds.le
    have : una ≤ highestEnd (fun x => (marks x).sacked) una max := le_highestEnd
    unfold nextSegLoop
    rw [board.sndMax, getHighestSackedSeqNum_holds board.holds]
    split
    case isFalse done =>
      refine ⟨none, rfl, .none fun x sLe sendable => done ?_⟩
      obtain ⟨y, xLt, yLt, sacked⟩ := sendable.belowSacked
      have below : s < highestEnd (fun x => (marks x).sacked) una max :=
        (lt_highestEnd_iff ge).mpr ⟨y, by omega, yLt, sacked⟩
      exact ⟨(seqLess_serial (by omega) (by omega)).mpr (by omega),
        (seqLess_serial (by omega) (by omega)).mpr below⟩
    case isTrue goesOn =>
      have less : s < max := (seqLess_serial (by omega) (by omega)).mp goesOn.1
      have below := (seqLess_serial (by omega) (by omega)).mp goesOn.2
      obtain ⟨h, lt, hLe, same, block, shorter⟩ := checkSackBlock_holds board.holds ge less
      have reaches : serial s + (serial h - serial s) = serial h := by
        rw [← serial_sub lt.le, ← serial_add, Nat.add_sub_cancel' lt.le]
      rw [block]
      dsimp only [bind, Except.bind]
      rw [reaches]
      split
      case isTrue sacked =>
        obtain ⟨answer, run, answers⟩ := ih (s := h) (by omega) (by omega) (by omega) hLe
        refine ⟨answer, run, answers.skip lt.le fun x ge' below' sendable => ?_⟩
        have := sendable.unsacked
        rw [same x ge' below', sacked] at this
        cases this
      case isFalse clear =>
        have clear : (marks s).sacked = false := Bool.eq_false_iff.mpr clear
        rw [if_pos rfl, isLost_eq board ge le]
        cases lost : lostFrom marks c.lossThreshold max s with
        | true =>
          refine ⟨_, rfl, .some ⟨above, ?_, clear, ?_⟩⟩
          · obtain ⟨y, sLe, yLt, sacked⟩ := (lt_highestEnd_iff ge).mp below
            refine ⟨y, lt_of_le_of_ne sLe fun eq => ?_, yLt, sacked⟩
            rw [← eq, clear] at sacked
            cases sacked
          · rw [isLost_eq board ge le, lost]
        | false =>
          refine ⟨_, rfl, .none fun x sLe sendable => ?_⟩
          -- if a later octet were lost, this one would be
          obtain ⟨y, xLt, yLt, -⟩ := sendable.belowSacked
          have := isLost_anti board ge sLe (by omega) sendable.lost
          rw [isLost_eq board ge le, lost] at this
          cases this

lemma nextSegLoop_highRxt {highRxt : UInt32} {onlyLost : Bool} {fuel : ℕ} {s2 : UInt32} :
    ({ c with highRxt := highRxt } : TCPConnection).nextSegLoop onlyLost fuel s2 =
      c.nextSegLoop onlyLost fuel s2 := by
  induction fuel generalizing s2 with
  | zero => rfl
  | succ fuel ih =>
    unfold nextSegLoop
    simp only [ih]
    rfl

/-- Rule (1) finds the lowest octet to send again, if there is one; the early exit loses nothing
because `isLost` is antitone. -/
theorem nextSeg_rule_one (board : c.Scoreboard marks una max) :
    (∃ answer,
      c.nextSegLoop true (c.rexmitQueue.rexmitQueue.length + 1)
          c.rexmitQueue.getHighestRexmittedSeqNum = .ok answer ∧
        (∀ s2, answer = some s2 ↔
          ∃ x, s2 = serial x ∧ IsLeast {x | ToSendAgain c marks una max x} x) ∧
        ∀ s2, answer = some s2 → c.nextSeg =
          .ok (some s2, { c with highRxt := c.rexmitQueue.getHighestRexmittedSeqNum })) ∧
      ∀ s s', una ≤ s → s ≤ s' → s' ≤ max → c.isLost (serial s') = .ok true →
        c.isLost (serial s) = .ok true := by
  refine ⟨?_, fun s s' ge le le' => isLost_anti board ge le le'⟩
  have highest : highestEnd (fun x => (marks x).rexmitted) una max ≤ max :=
    highestEnd_le board.holds.le
  obtain ⟨answer, run, answers⟩ := nextSegLoop_answers board
    (Nat.lt_succ_of_le (List.length_dropWhile_le _ _)) le_highestEnd le_rfl highest
  rw [← getHighestRexmittedSeqNum_holds board.holds] at run
  refine ⟨answer, run, fun s2 => ?_, fun s2 some => ?_⟩
  · have all : {x | highestEnd (fun x => (marks x).rexmitted) una max ≤ x ∧
        ToSendAgain c marks una max x} = {x | ToSendAgain c marks una max x} := by
      ext x
      exact and_iff_right_of_imp ToSendAgain.aboveRxt
    rw [answers s2]
    unfold LowestFrom
    rw [all]
  · subst some
    unfold nextSeg
    rw [assert_pos board.enabled]
    dsimp only [bind, Except.bind]
    rw [nextSegLoop_highRxt, run]
    rfl

/-- With segments of one octet the third octet is the lowest to send again. -/
theorem nextSeg_rule_one_ten :
    (∃ answer,
      (threeOfTen 1).nextSegLoop true ((threeOfTen 1).rexmitQueue.rexmitQueue.length + 1)
          (threeOfTen 1).rexmitQueue.getHighestRexmittedSeqNum = .ok answer ∧
        (∀ s2, answer = some s2 ↔ ∃ x, s2 = serial x ∧
            IsLeast {x | ToSendAgain (threeOfTen 1) threeOfTenMarks 4294967292 4294967302 x} x) ∧
        ∀ s2, answer = some s2 → (threeOfTen 1).nextSeg =
          .ok (some s2, { threeOfTen 1 with
            highRxt := (threeOfTen 1).rexmitQueue.getHighestRexmittedSeqNum })) ∧
      ∀ s s', 4294967292 ≤ s → s ≤ s' → s' ≤ 4294967302 →
        (threeOfTen 1).isLost (serial s') = .ok true →
          (threeOfTen 1).isLost (serial s) = .ok true :=
  nextSeg_rule_one (threeOfTen_scoreboard 1)

end Inet.Tcp.TCPConnection
