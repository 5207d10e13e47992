import Inet.Lib.RunCount
import Inet.Tcp.Scoreboard
import Inet.Tcp.State

/-!
# Selective acknowledgments

`TCPConnectionSackUtil.cc` up to the sending of segments: reading a SACK option, the pipe and
next-segment computations of RFC 3517, and the SACK blocks reported.
-/

namespace Inet.Tcp.TCPConnection

/-- The blocks in the values of a SACK option. -/
def sackBlocks : List UInt32 → List Sack
  | start :: «end» :: rest => ⟨start, «end»⟩ :: sackBlocks rest
  | _ => []

/-- Enter the received blocks into the scoreboard. A first block that is a D-SACK
gets no treatment of its own. -/
def markSacked (ackNo sndUna : UInt32) :
    List Sack → TCPSACKRexmitQueue → Except TcpError TCPSACKRexmitQueue
  | [], queue => .ok queue
  | sack :: rest, queue =>
      if seqGreater sack.end ackNo ∧ seqGreater sack.end sndUna then do
        let queue ← queue.setSackedBit sack.start sack.end
        markSacked ackNo sndUna rest queue
      else markSacked ackNo sndUna rest queue

/-- The states in which segment text is accepted, and SACK options with it. -/
def inDataTransfer (fsm : TcpState) : Bool :=
  fsm = .synRcvd || fsm = .established || fsm = .finWait1 || fsm = .finWait2

def processSACKOption (tcpseg : TCPSegment) (option : TCPOption) (c : TCPConnection) :
    Except TcpError TCPConnection :=
  let n := option.values.length / 2
  if option.length % 8 ≠ 2 ∨ ¬ c.sackEnabled ∨ ¬ inDataTransfer c.fsm ∨ n = 0 then .ok c
  else do
    let queue ← markSacked tcpseg.ackNo c.sndUna (sackBlocks option.values) c.rexmitQueue
    return { c with
      rexmitQueue := queue
      rcvSacks := c.rcvSacks + n
      sackedBytesOld := c.sackedBytes
      sackedBytes := queue.getTotalAmountOfSackedBytes }

def isLost (seqNum : UInt32) (c : TCPConnection) : Except TcpError Bool := do
  assert (c.sackEnabled = true) "state->sack_enabled"
  assert (seqGE seqNum c.sndUna) "seqGE(seqNum, state->snd_una)"
  let sacks ← c.rexmitQueue.getNumOfDiscontiguousSacks seqNum
  let bytes ← c.rexmitQueue.getAmountOfSackedBytes seqNum
  return decide (DUPTHRESH ≤ sacks) || decide (DUPTHRESH * c.sndMss ≤ bytes)

/-- The loop of `setPipe`, from `s1` on. Every round moves on to the end of a
region, so `fuel` beyond the number of regions is never used up. -/
def pipeLoop (c : TCPConnection) : ℕ → UInt32 → UInt32 → Except TcpError UInt32
  | 0, _, _ => .error .nonTermination
  | fuel + 1, s1, pipe =>
      if seqLess s1 c.sndMax then do
        let block ← c.rexmitQueue.checkSackBlock s1
        if block.sacked then pipeLoop c fuel (s1 + block.length) pipe
        else do
          let lost ← c.isLost s1
          let pipe := if lost then pipe else pipe + block.length
          let pipe := if seqLess s1 c.highRxt then pipe + block.length else pipe
          pipeLoop c fuel (s1 + block.length) pipe
      else .ok pipe

def setPipe (c : TCPConnection) : Except TcpError TCPConnection := do
  assert (c.sackEnabled = true) "state->sack_enabled"
  let c := { c with highRxt := c.rexmitQueue.getHighestRexmittedSeqNum }
  return { c with pipe := ← c.pipeLoop (c.rexmitQueue.rexmitQueue.length + 1) c.sndUna 0 }

/-- Rules (1) and (3) of `nextSeg` from `s2` on: the first octet that is not SACKed,
under rule (1) only if it is lost. -/
def nextSegLoop (c : TCPConnection) (onlyLost : Bool) : ℕ → UInt32 →
    Except TcpError (Option UInt32)
  | 0, _ => .error .nonTermination
  | fuel + 1, s2 =>
      if seqLess s2 c.sndMax ∧ seqLess s2 c.rexmitQueue.getHighestSackedSeqNum then do
        let block ← c.rexmitQueue.checkSackBlock s2
        if block.sacked then nextSegLoop c onlyLost fuel (s2 + block.length)
        else if onlyLost then do
          let lost ← c.isLost s2
          return if lost then some s2 else none
        else return some s2
      else return none

/-- `nextSeg(seqNum)`, `none` where the source returns `false`. -/
def nextSeg (c : TCPConnection) : Except TcpError (Option UInt32 × TCPConnection) := do
  assert (c.sackEnabled = true) "state->sack_enabled"
  let c := { c with highRxt := c.rexmitQueue.getHighestRexmittedSeqNum }
  let fuel := c.rexmitQueue.rexmitQueue.length + 1
  match ← c.nextSegLoop true fuel c.highRxt with
  | some seqNum => return (some seqNum, c)
  | none => do
      -- the window is `unsigned long`, so it wraps when pipe exceeds snd_wnd
      let effectiveWin := c.sndWnd.toUInt64 - c.pipe.toUInt64
      if 0 < c.sendQueue.getBytesAvailable c.sndMax ∧ c.sndMss.toUInt64 ≤ effectiveWin then
        return (some c.sndMax, c)
      else return (← c.nextSegLoop false fuel c.highRxt, c)

/-- Drop the blocks below `rcv_nxt`; no other block may straddle it. -/
def deleteOldSacks (rcvNxt : UInt32) : List Sack → Except TcpError (List Sack)
  | [] => .ok []
  | sack :: rest =>
      if seqLE sack.end rcvNxt ∨ sack.empty then deleteOldSacks rcvNxt rest
      else do
        assert (seqGE sack.start rcvNxt) "seqGE(it->getStart(), state->rcv_nxt)"
        return sack :: (← deleteOldSacks rcvNxt rest)

/-- Drop every block contained in one that stands before it and is `kept`. -/
def pruneContained (kept : List Sack) : List Sack → Except TcpError (List Sack)
  | [] => .ok kept
  | sack :: rest =>
      if kept.any fun earlier => decide (earlier.contains sack) then pruneContained kept rest
      else do
        assert (¬ sack.empty) "!it->empty()"
        pruneContained (kept ++ [sack]) rest

def resetSackFlags (c : TCPConnection) : TCPConnection :=
  { c with sndSack := false, sndDsack := false, startSeqno := 0, endSeqno := 0 }

/-- Is a D-SACK block about to be put in front of `sacks_array`? -/
def dsackInserted (c : TCPConnection) : Bool := c.startSeqno ≠ c.endSeqno && c.sndDsack

/-- The D-SACK block, cut off at `rcv_nxt`. -/
def dsackBlock (c : TCPConnection) : Sack :=
  ⟨c.startSeqno,
    if seqLess c.startSeqno c.rcvNxt ∧ seqLess c.rcvNxt c.endSeqno then c.rcvNxt else c.endSeqno⟩

/-- The block of contiguous data around the last segment. -/
def contiguousBlock (c : TCPConnection) : Sack :=
  ⟨c.receiveQueue.getLE c.startSeqno, c.receiveQueue.getRE c.endSeqno⟩

/-- `sacks_array` once the last segment has been entered and the blocks contained
in others have gone. -/
def insertSack (c : TCPConnection) : Except TcpError (List Sack) :=
  if c.startSeqno = c.endSeqno then .ok c.sacksArray
  else if c.sndDsack then do
    return c.dsackBlock :: (← pruneContained [] c.sacksArray)
  else pruneContained [] (c.contiguousBlock :: c.sacksArray)

/-- Blocks that fit into the options next to the `usedOptionsLen` octets there. -/
def sackCount (usedOptionsLen : ℕ) (sacks : List Sack) : ℕ :=
  min sacks.length ((TCP_OPTIONS_MAX_SIZE - usedOptionsLen - 2) / 8)

def sackValues (sacks : List Sack) : List UInt32 :=
  sacks.flatMap fun sack => [sack.start, sack.end]

def nopOption : TCPOption := { kind := .noOperation, length := 1 }

/-- Padding up to the place where a SACK option leaves the options aligned. -/
def sackPadding (usedOptionsLen : ℕ) : List TCPOption :=
  List.replicate ((6 - usedOptionsLen % 4) % 4) nopOption

/-- Append a SACK option with the first `n` blocks. -/
def writeSacks (n : ℕ) (sacks : List Sack) (tcpseg : TCPSegment) : Except TcpError TCPSegment := do
  let blocks := sacks.take n
  let padding := sackPadding tcpseg.getOptionsArrayLength
  assert (∀ sack ∈ blocks, sack.start ≠ sack.end) "it->getStart() != it->getEnd()"
  assert (tcpseg.getOptionsArrayLength + padding.length + 8 * n + 2 ≤ TCP_OPTIONS_MAX_SIZE)
    "options_len <= TCP_OPTIONS_MAX_SIZE"
  return { tcpseg with
    options := tcpseg.options ++ padding ++
      [{ kind := .sack, length := 8 * n + 2, values := sackValues blocks }] }

/-- `writeSacks`, unless there is no block to write. -/
def appendSacks (n : ℕ) (sacks : List Sack) (tcpseg : TCPSegment) : Except TcpError TCPSegment :=
  if n = 0 then .ok tcpseg else writeSacks n sacks tcpseg

/-- `addSacks(tcpseg)`. The branch that would set `snd_dsack` while the options are
printed (`t == 1` for an even `t`) is never taken. -/
def addSacks (tcpseg : TCPSegment) (c : TCPConnection) :
    Except TcpError (TCPSegment × TCPConnection) := do
  let c := { c with sacksArray := ← deleteOldSacks c.rcvNxt c.sacksArray }
  if TCP_OPTIONS_MAX_SIZE - TCP_OPTION_SACK_MIN_SIZE < tcpseg.getOptionsArrayLength then
    return (tcpseg, c.resetSackFlags)
  else do
    let sacks ← c.insertSack
    let n := sackCount tcpseg.getOptionsArrayLength sacks
    let tcpseg ← appendSacks n sacks tcpseg
    let c := { c with
      sacksArray := if c.dsackInserted then sacks.tail else sacks
      sndSacks := c.sndSacks + n }
    return (tcpseg, c.resetSackFlags)

end Inet.Tcp.TCPConnection

/-! ## Lost octets -/

namespace Inet.Tcp

namespace TCPSACKRexmitQueue

variable {q : TCPSACKRexmitQueue} {lo hi b e s : ℕ} {marks : ℕ → OctetMarks}
  {regions : List RexmitRegion}

/-- The number of runs of SACKed octets from `b` on. -/
def sackedRuns (marks : ℕ → OctetMarks) (b e : ℕ) : ℕ :=
  runCount (fun x => (marks x).sacked) false b e

lemma countSackedRuns_octets {prevSacked : Bool} {counter : UInt32}
    (octets : Octets marks b regions e) :
    countSackedRuns regions prevSacked counter =
      counter + serial (runCount (fun x => (marks x).sacked) prevSacked b e) := by
  induction regions generalizing b prevSacked counter with
  | nil =>
    obtain rfl := Follows.eq_of_nil octets
    rw [runCount_self]
    exact (UInt32.add_zero _).symm
  | cons region rest ih =>
    obtain ⟨m, mark, lt, rfl, same, octets⟩ := octets
    have sacked x (ge : b ≤ x) (below : x < m) : (marks x).sacked = mark.sacked :=
      congrArg OctetMarks.sacked (same x ge below)
    unfold countSackedRuns
    rw [ih octets, runCount_stretch lt octets.le sacked, serial_add]
    split
    · exact UInt32.add_assoc _ _ _
    · rw [show serial 0 = 0 from rfl, UInt32.zero_add]

lemma getNumOfDiscontiguousSacks_holds (holds : q.Holds lo hi marks) (ge : lo ≤ s) (le : s ≤ hi) :
    q.getNumOfDiscontiguousSacks (serial s) = .ok (serial (sackedRuns marks s hi)) := by
  have span := holds.span
  have inside := holds.inside ge le
  unfold getNumOfDiscontiguousSacks
  rw [assert_pos inside, holds.end]
  split
  case isTrue atEnd =>
    have atEnd : s = hi := by
      rcases atEnd with none | same
      · have octets := holds.regions
        rw [none] at octets
        have := Follows.eq_of_nil octets
        omega
      · exact (serial_inj (by omega) (by omega)).mp same
    rw [atEnd, sackedRuns, runCount_self]
    rfl
  case isFalse inside =>
    have apart : s ≠ hi := fun same => inside (.inr (by rw [same]))
    obtain ⟨m, region, rest, h, mark, first, some, head, inside⟩ := holds.cutAt ge (by omega)
    have mLe := head.le
    have onward : Octets marks s ({ region with beginSeqNum := serial s } :: rest) hi := by
      have lt := head.lt
      have tail := head.follows
      have same := head.same
      obtain rfl := head.reads
      exact .cons lt rfl (fun x ge' => same x (mLe.trans ge')) tail
    rw [some]
    -- where the first region begins plays no part in the count
    change Except.ok (countSackedRuns ({ region with beginSeqNum := serial s } :: rest) false 0) = _
    rw [countSackedRuns_octets onward, UInt32.zero_add]
    rfl

/-! ## Regions -/

/-- The answer about the region of an octet, and the regions behind it. -/
lemma checkSackBlock_holds (holds : q.Holds lo hi marks) (ge : lo ≤ s) (lt : s < hi) :
    ∃ h, s < h ∧ h ≤ hi ∧ (∀ x, s ≤ x → x < h → marks x = marks s) ∧ q.checkSackBlock (serial s) =
        .ok ⟨serial h - serial s, (marks s).sacked, (marks s).rexmitted⟩ ∧
      (onward (serial s) q.rexmitQueue).length = (onward (serial h) q.rexmitQueue).length + 1 := by
  have span := holds.span
  have inside : seqLE q.begin (serial s) ∧ seqLess (serial s) q.end := by
    rw [holds.begin, holds.end]
    exact ⟨(seqLE_serial (by omega) (by omega)).mpr ge,
      (seqLess_serial (by omega) (by omega)).mpr lt⟩
  obtain ⟨m, region, rest, h, mark, first, some, head, here⟩ := holds.cutAt ge lt
  have mLe := head.le
  have sLt := head.lt
  have hLe := head.follows.le
  have same := head.same s mLe sLt
  have behind : onward (serial h) q.rexmitQueue = rest := by
    have split : q.rexmitQueue =
        passed (serial s) q.rexmitQueue ++ onward (serial s) q.rexmitQueue :=
      List.takeWhile_append_dropWhile.symm
    have under : ∀ region ∈ passed (serial s) q.rexmitQueue,
        decide (seqLE region.endSeqNum (serial h)) = true := fun region mem => by
      obtain ⟨b, e, mark, bGe, bLt, eLe, rfl, -⟩ := first.of_mem mem
      exact decide_eq_true ((seqLE_serial (by omega) (by omega)).mpr (by omega))
    have tail := head.follows
    have reads := head.reads
    rw [split, some]
    unfold onward at *
    rw [List.dropWhile_append_of_pos under, List.dropWhile_cons_of_pos (by
      obtain rfl := reads
      exact decide_eq_true (seqLE_refl _))]
    cases rest with
    | nil => rfl
    | cons next rest =>
      obtain ⟨n, mark', hLt, rfl, -, tail⟩ := tail
      have := tail.le
      exact List.dropWhile_cons_of_neg fun ends => by
        have := (seqLE_serial (by omega) (by omega)).mp (of_decide_eq_true ends)
        omega
  refine ⟨h, sLt, hLe, fun x ge' below => ?_, ?_, ?_⟩
  · rw [head.same x (mLe.trans ge') below, same]
  · unfold checkSackBlock
    obtain rfl := head.reads
    rw [assert_pos inside, some, same]
    dsimp only [bind, Except.bind]
    rw [assert_pos here]
    rfl
  · rw [some, behind, List.length_cons]

lemma highest_octets {marked : RexmitRegion → Bool} {p : OctetMarks → Bool}
    (agree : ∀ {region lo hi mark}, RexmitRegion.Reads region lo hi mark → marked region = p mark)
    (octets : Octets marks b regions e) :
    ((regions.reverse.find? marked).map RexmitRegion.endSeqNum).getD (serial b) =
      serial (highestEnd (fun x => p (marks x)) b e) := by
  induction regions using List.reverseRecOn generalizing e with
  | nil =>
    obtain rfl := Follows.eq_of_nil octets
    rw [highestEnd_eq_of_none fun x ge lt => absurd ge (not_le.mpr lt)]
    rfl
  | append_singleton front last ih =>
    obtain ⟨m, first, n, mark, lt, reads, same, ends⟩ := octets.of_append
    obtain rfl : n = e := ends
    have := first.le
    rw [List.reverse_concat]
    cases here : p mark with
    | true =>
      rw [List.find?_cons_of_pos (by rw [agree reads, here])]
      have last : highestEnd (fun x => p (marks x)) b n = n - 1 + 1 := by
        refine highestEnd_eq_of_last (by omega) (by omega) ?_ fun x ge lt => by omega
        rw [same (n - 1) (by omega) (by omega), here]
      rw [last, Nat.sub_add_cancel (by omega)]
      obtain rfl := reads
      rfl
    | false =>
      rw [List.find?_cons_of_neg (by rw [agree reads, here]; exact Bool.false_ne_true),
        ih first, highestEnd_skip lt.le fun x ge below => by rw [same x ge below, here]]

lemma getHighestRexmittedSeqNum_holds (holds : q.Holds lo hi marks) :
    q.getHighestRexmittedSeqNum = serial (highestEnd (fun x => (marks x).rexmitted) lo hi) := by
  unfold getHighestRexmittedSeqNum
  rw [holds.begin]
  refine highest_octets (fun reads => ?_) holds.regions
  obtain rfl := reads
  rfl

lemma getHighestSackedSeqNum_holds (holds : q.Holds lo hi marks) :
    q.getHighestSackedSeqNum = serial (highestEnd (fun x => (marks x).sacked) lo hi) := by
  unfold getHighestSackedSeqNum
  rw [holds.begin]
  refine highest_octets (fun reads => ?_) holds.regions
  obtain rfl := reads
  rfl

lemma sackedCount_anti {b' : ℕ} (le : b ≤ b') (le' : b' ≤ e) :
    sackedCount marks b' e ≤ sackedCount marks b e := by
  rw [← sackedCount_add le le']
  exact Nat.le_add_left _ _

lemma sackedCount_le : sackedCount marks b e ≤ e - b := by
  calc _ ≤ (Finset.Ico b e).card := Finset.card_filter_le _ _
    _ = e - b := Nat.card_Ico b e

end TCPSACKRexmitQueue

namespace TCPConnection

open TCPSACKRexmitQueue

variable {c : TCPConnection} {marks : ℕ → OctetMarks} {una max s s' : ℕ}

/-- The scoreboard is well-formed and stands for `[snd_una, snd_max)`. -/
structure Scoreboard (c : TCPConnection) (marks : ℕ → OctetMarks) (una max : ℕ) : Prop where
  enabled : c.sackEnabled = true
  holds : c.rexmitQueue.Holds una max marks
  sndUna : c.sndUna = serial una
  sndMax : c.sndMax = serial max

/-- Are three runs or `threshold` octets SACKed from `s` on? -/
def lostFrom (marks : ℕ → OctetMarks) (threshold max s : ℕ) : Bool :=
  decide (3 ≤ sackedRuns marks s max) || decide (threshold ≤ sackedCount marks s max)

/-- The number of SACKed octets above a lost one, as the code computes it. -/
def lossThreshold (c : TCPConnection) : ℕ := (DUPTHRESH * c.sndMss).toNat

lemma isLost_eq (board : c.Scoreboard marks una max) (ge : una ≤ s) (le : s ≤ max) :
    c.isLost (serial s) = .ok (lostFrom marks c.lossThreshold max s) := by
  have span := board.holds.span
  have runs : (serial (sackedRuns marks s max)).toNat = sackedRuns marks s max := by
    have : sackedRuns marks s max ≤ max - s := runCount_le_length
    exact Nat.mod_eq_of_lt (by omega)
  have bytes : (serial (sackedCount marks s max)).toNat = sackedCount marks s max := by
    have : sackedCount marks s max ≤ max - s := sackedCount_le
    exact Nat.mod_eq_of_lt (by omega)
  unfold isLost
  rw [assert_pos board.enabled, board.sndUna,
    assert_pos ((seqGE_serial (by omega) (by omega)).mpr ge)]
  dsimp only [bind, Except.bind]
  rw [getNumOfDiscontiguousSacks_holds board.holds ge le,
    getAmountOfSackedBytes_holds board.holds ge le]
  simp only [UInt32.le_iff_toNat_le, runs, bytes]
  rfl

lemma lostFrom_anti {threshold : ℕ} (le : s ≤ s') (le' : s' ≤ max)
    (lost : lostFrom marks threshold max s' = true) : lostFrom marks threshold max s = true := by
  simp only [lostFrom, Bool.or_eq_true, decide_eq_true_eq] at lost ⊢
  exact lost.imp (fun runs => runs.trans (runCount_anti le le'))
    fun bytes => bytes.trans (sackedCount_anti le le')

/-- Ten octets across the wrap are outstanding; the sixth to the eighth are SACKed, the first two
have been sent again. -/
def threeOfTen (sMss : UInt32) : TCPConnection :=
  { par := { advertisedWindow := 65535, mss := 536 }
    sackEnabled := true
    sndMss := sMss
    sndUna := 4294967292
    sndMax := 6
    rexmitQueue :=
      { begin := 4294967292
        «end» := 6
        rexmitQueue :=
          [⟨4294967292, 4294967294, false, true⟩, ⟨4294967294, 1, false, false⟩,
            ⟨1, 4, true, false⟩, ⟨4, 6, false, false⟩] } }

def threeOfTenMarks (x : ℕ) : OctetMarks :=
  ⟨decide (4294967297 ≤ x ∧ x < 4294967300), decide (x < 4294967294)⟩

lemma threeOfTen_octets :
    Octets threeOfTenMarks 4294967292 (threeOfTen 0).rexmitQueue.rexmitQueue 4294967302 := by
  refine .cons (m := 4294967294) (v := ⟨false, true⟩) (by decide) ?_ ?_
    (.cons (m := 4294967297) (v := ⟨false, false⟩) (by decide) ?_ ?_
      (.cons (m := 4294967300) (v := ⟨true, false⟩) (by decide) ?_ ?_
        (.cons (m := 4294967302) (v := ⟨false, false⟩) (by decide) ?_ ?_ .nil)))
  all_goals first
    | unfold RexmitRegion.Reads
      decide
    | intro x ge lt
      simp only [threeOfTenMarks, OctetMarks.mk.injEq, decide_eq_true_eq, decide_eq_false_iff_not]
      omega

lemma threeOfTen_scoreboard (sMss : UInt32) :
    (threeOfTen sMss).Scoreboard threeOfTenMarks 4294967292 4294967302 where
  enabled := rfl
  sndUna := rfl
  sndMax := rfl
  holds := ⟨rfl, rfl, threeOfTen_octets, by decide⟩

end TCPConnection

end Inet.Tcp
