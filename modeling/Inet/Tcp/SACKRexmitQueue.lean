import Inet.Tcp.SeqNum
import Mathlib

/-!
# TCPSACKRexmitQueue

The sender's scoreboard: the octets sent and not yet acknowledged as consecutive regions, each with
its SACKed and retransmitted mark. The iterator of the source is a `takeWhile`/`dropWhile` pair, and
an insertion in front of it goes between the two.
-/

namespace Inet.Tcp

/-- `TCPSACKRexmitQueue::Region`. -/
structure RexmitRegion where
  beginSeqNum : UInt32
  endSeqNum : UInt32
  sacked : Bool
  rexmitted : Bool
  deriving DecidableEq

structure TCPSACKRexmitQueue where
  begin : UInt32 := 0
  «end» : UInt32 := 0
  rexmitQueue : List RexmitRegion := []

namespace TCPSACKRexmitQueue

variable (queue : TCPSACKRexmitQueue)

/-- `init(seqNum)`. The regions stay in the list. -/
def init (seqNum : UInt32) : TCPSACKRexmitQueue :=
  { queue with begin := seqNum, «end» := seqNum }

/-- Do the regions run from `b` to `e` without gap or empty region? -/
def chained : UInt32 → List RexmitRegion → UInt32 → Prop
  | b, [], e => b = e
  | b, region :: rest, e =>
      b = region.beginSeqNum ∧ seqLess region.beginSeqNum region.endSeqNum ∧
        chained region.endSeqNum rest e

instance : ∀ b regions e, Decidable (chained b regions e)
  | b, [], e => inferInstanceAs (Decidable (b = e))
  | _, region :: rest, e =>
      have := instDecidableChained region.endSeqNum rest e
      inferInstanceAs (Decidable (_ ∧ _ ∧ _))

def checkQueue : Prop := chained queue.begin queue.rexmitQueue queue.end

instance : Decidable queue.checkQueue := inferInstanceAs (Decidable (chained _ _ _))

/-- The regions the iterator steps over on its way to `seqNum`. -/
def passed (seqNum : UInt32) (regions : List RexmitRegion) : List RexmitRegion :=
  regions.takeWhile fun region => decide (seqLE region.endSeqNum seqNum)

/-- The regions from the iterator on. -/
def onward (seqNum : UInt32) (regions : List RexmitRegion) : List RexmitRegion :=
  regions.dropWhile fun region => decide (seqLE region.endSeqNum seqNum)

/-- The regions from `seqNum` on. -/
def regionsFrom (seqNum : UInt32) : Except TcpError (List RexmitRegion) :=
  match onward seqNum queue.rexmitQueue with
  | [] => .ok []
  | region :: rest => do
      assert (seqLE region.beginSeqNum seqNum ∧ seqLess seqNum region.endSeqNum)
        "seqLE(i->beginSeqNum, seqNum) && seqLess(seqNum, i->endSeqNum)"
      return { region with beginSeqNum := seqNum } :: rest

def discardUpTo (seqNum : UInt32) : Except TcpError TCPSACKRexmitQueue := do
  assert (seqLE queue.begin seqNum ∧ seqLE seqNum queue.end)
    "seqLE(begin, seqNum) && seqLE(seqNum, end)"
  let regions ← queue.regionsFrom seqNum
  let queue := { queue with begin := seqNum, rexmitQueue := regions }
  assert queue.checkQueue "checkQueue()"
  return queue

/-- Split the region under the iterator at `seqNum`: what stays in front of the
iterator, and the region the iterator is left on. -/
def chunk (region : RexmitRegion) (seqNum : UInt32) : List RexmitRegion × RexmitRegion :=
  if region.beginSeqNum ≠ seqNum then
    ([{ region with endSeqNum := seqNum }], { region with beginSeqNum := seqNum })
  else ([], region)

/-- What `enqueueSentData` makes of the regions from the iterator on, when the
sent octets do not simply extend the queue. -/
def overwrite (fromSeqNum toSeqNum : UInt32) (regions : List RexmitRegion) :
    Except TcpError (List RexmitRegion) := do
  let resent := (passed toSeqNum regions).map fun region => { region with rexmitted := true }
  let fromSeqNum := (resent.getLast?.map RexmitRegion.endSeqNum).getD fromSeqNum
  if fromSeqNum = toSeqNum then
    return resent ++ onward toSeqNum regions
  else
    match onward toSeqNum regions with
    | [] => return resent ++ [⟨fromSeqNum, toSeqNum, false, false⟩]
    | region :: rest => do
        assert (seqLess region.beginSeqNum toSeqNum)
          "i == rexmitQueue.end() || seqLess(i->beginSeqNum, toSeqNum)"
        return resent ++ ⟨fromSeqNum, toSeqNum, region.sacked, true⟩ ::
          { region with beginSeqNum := toSeqNum } :: rest

/-- The regions once `[fromSeqNum, toSeqNum)` has been sent. -/
def sentRegions (fromSeqNum toSeqNum : UInt32) : Except TcpError (List RexmitRegion) :=
  if queue.rexmitQueue = [] ∨ queue.end = fromSeqNum then
    .ok (queue.rexmitQueue ++ [⟨fromSeqNum, toSeqNum, false, false⟩])
  else
    match onward fromSeqNum queue.rexmitQueue with
    | [] => .error (.assertion "i != rexmitQueue.end()")
    | region :: rest => do
        assert (seqLE region.beginSeqNum fromSeqNum ∧ seqLess fromSeqNum region.endSeqNum)
          "seqLE(i->beginSeqNum, fromSeqNum) && seqLess(fromSeqNum, i->endSeqNum)"
        let (kept, region) := chunk region fromSeqNum
        return passed fromSeqNum queue.rexmitQueue ++ kept ++
          (← overwrite fromSeqNum toSeqNum (region :: rest))

/-- `enqueueSentData(fromSeqNum, toSeqNum)`. The assertions `found` and
`fromSeqNum == toSeqNum` at its end hold on every path that reaches them. -/
def enqueueSentData (fromSeqNum toSeqNum : UInt32) : Except TcpError TCPSACKRexmitQueue := do
  assert (seqLE queue.begin fromSeqNum ∧ seqLE fromSeqNum queue.end)
    "seqLE(begin, fromSeqNum) && seqLE(fromSeqNum, end)"
  assert (seqLess fromSeqNum toSeqNum) "seqLess(fromSeqNum, toSeqNum)"
  let regions ← queue.sentRegions fromSeqNum toSeqNum
  let queue :=
    { begin := (regions.head?.map RexmitRegion.beginSeqNum).getD queue.begin
      «end» := (regions.getLast?.map RexmitRegion.endSeqNum).getD queue.end
      rexmitQueue := regions }
  assert queue.checkQueue "checkQueue()"
  return queue

/-- The regions once `[fromSeqNum, toSeqNum)` has been reported as received. -/
def sackedRegions (fromSeqNum toSeqNum : UInt32) : Except TcpError (List RexmitRegion) :=
  match queue.rexmitQueue, onward fromSeqNum queue.rexmitQueue with
  | [], _ => .ok []
  | _, [] => .error (.assertion "i != rexmitQueue.end()")
  | _, region :: rest => do
      assert (seqLE region.beginSeqNum fromSeqNum ∧ seqLess fromSeqNum region.endSeqNum)
        "seqLE(i->beginSeqNum, fromSeqNum) && seqLess(fromSeqNum, i->endSeqNum)"
      let (kept, region) := chunk region fromSeqNum
      let regions := region :: rest
      let reported := (passed toSeqNum regions).map fun region =>
        { region with
          sacked := region.sacked || decide (seqGE region.beginSeqNum fromSeqNum) }
      let beyond :=
        match onward toSeqNum regions with
        | [] => []
        | region :: rest =>
            if seqLess region.beginSeqNum toSeqNum ∧ seqLess toSeqNum region.endSeqNum then
              { region with endSeqNum := toSeqNum, sacked := true } ::
                { region with beginSeqNum := toSeqNum } :: rest
            else region :: rest
      return passed fromSeqNum queue.rexmitQueue ++ kept ++ reported ++ beyond

def setSackedBit (fromSeqNum toSeqNum : UInt32) : Except TcpError TCPSACKRexmitQueue := do
  let fromSeqNum := if seqLess fromSeqNum queue.begin then queue.begin else fromSeqNum
  assert (seqLess fromSeqNum queue.end) "seqLess(fromSeqNum, end)"
  assert (seqLess queue.begin toSeqNum ∧ seqLE toSeqNum queue.end)
    "seqLess(begin, toSeqNum) && seqLE(toSeqNum, end)"
  assert (seqLess fromSeqNum toSeqNum) "seqLess(fromSeqNum, toSeqNum)"
  let queue := { queue with rexmitQueue := ← queue.sackedRegions fromSeqNum toSeqNum }
  assert queue.checkQueue "checkQueue()"
  return queue

def getSackedBit (seqNum : UInt32) : Except TcpError Bool := do
  assert (seqLE queue.begin seqNum ∧ seqLE seqNum queue.end)
    "seqLE(begin, seqNum) && seqLE(seqNum, end)"
  if queue.end = seqNum then return false
  else
    match onward seqNum queue.rexmitQueue with
    | [] => .error (.assertion "i != rexmitQueue.end()")
    | region :: _ => do
        assert (seqLE region.beginSeqNum seqNum ∧ seqLess seqNum region.endSeqNum)
          "seqLE(i->beginSeqNum, seqNum) && seqLess(seqNum, i->endSeqNum)"
        return region.sacked

def getHighestSackedSeqNum : UInt32 :=
  ((queue.rexmitQueue.reverse.find? RexmitRegion.sacked).map RexmitRegion.endSeqNum).getD
    queue.begin

def getHighestRexmittedSeqNum : UInt32 :=
  ((queue.rexmitQueue.reverse.find? RexmitRegion.rexmitted).map RexmitRegion.endSeqNum).getD
    queue.begin

/-- The second loop of `checkRexmitQueueForSackedOrRexmittedSegments`. -/
def forwardLoop : List RexmitRegion → UInt32 → UInt32 → Except TcpError UInt32
  | [], _, bytes => .ok bytes
  | region :: rest, fromSeqNum, bytes =>
      if region.sacked || region.rexmitted then do
        assert (seqLE region.beginSeqNum fromSeqNum ∧ seqLess fromSeqNum region.endSeqNum)
          "seqLE(i->beginSeqNum, fromSeqNum) && seqLess(fromSeqNum, i->endSeqNum)"
        forwardLoop rest region.endSeqNum (bytes + (region.endSeqNum - fromSeqNum))
      else .ok bytes

/-- How many octets from `fromSeqNum` on need not be sent again. -/
def checkRexmitQueueForSackedOrRexmittedSegments (fromSeqNum : UInt32) :
    Except TcpError UInt32 := do
  assert (seqLE queue.begin fromSeqNum ∧ seqLE fromSeqNum queue.end)
    "seqLE(begin, fromSeqNum) && seqLE(fromSeqNum, end)"
  if queue.rexmitQueue = [] ∨ queue.end = fromSeqNum then return 0
  else forwardLoop (onward fromSeqNum queue.rexmitQueue) fromSeqNum 0

def resetSackedBit : TCPSACKRexmitQueue :=
  { queue with
    rexmitQueue := queue.rexmitQueue.map fun region => { region with sacked := false } }

def resetRexmittedBit : TCPSACKRexmitQueue :=
  { queue with
    rexmitQueue := queue.rexmitQueue.map fun region => { region with rexmitted := false } }

/-- Octets in the SACKed ones of `regions`. -/
def sackedLength (regions : List RexmitRegion) : UInt32 :=
  ((regions.filter RexmitRegion.sacked).map fun region =>
    region.endSeqNum - region.beginSeqNum).sum

def getTotalAmountOfSackedBytes : UInt32 := sackedLength queue.rexmitQueue

def getAmountOfSackedBytes (fromSeqNum : UInt32) : Except TcpError UInt32 := do
  assert (seqLE queue.begin fromSeqNum ∧ seqLE fromSeqNum queue.end)
    "seqLE(begin, fromSeqNum) && seqLE(fromSeqNum, end)"
  let above (region : RexmitRegion) := decide (seqLE fromSeqNum region.beginSeqNum)
  let bytes := sackedLength (queue.rexmitQueue.reverse.takeWhile above)
  match queue.rexmitQueue.reverse.dropWhile above with
  | [] => return bytes
  | region :: _ =>
      if seqLess region.beginSeqNum fromSeqNum ∧ seqLess fromSeqNum region.endSeqNum ∧
          region.sacked then
        return bytes + (region.endSeqNum - fromSeqNum)
      else return bytes

/-- The counting loop of `getNumOfDiscontiguousSacks`. -/
def countSackedRuns : List RexmitRegion → Bool → UInt32 → UInt32
  | [], _, counter => counter
  | region :: rest, prevSacked, counter =>
      countSackedRuns rest region.sacked
        (if region.sacked && !prevSacked then counter + 1 else counter)

def getNumOfDiscontiguousSacks (fromSeqNum : UInt32) : Except TcpError UInt32 := do
  assert (seqLE queue.begin fromSeqNum ∧ seqLE fromSeqNum queue.end)
    "seqLE(begin, fromSeqNum) && seqLE(fromSeqNum, end)"
  if queue.rexmitQueue = [] ∨ fromSeqNum = queue.end then return 0
  else return countSackedRuns (onward fromSeqNum queue.rexmitQueue) false 0

/-- The answers of `checkSackBlock`. -/
structure SackBlock where
  length : UInt32
  sacked : Bool
  rexmitted : Bool

def checkSackBlock (fromSeqNum : UInt32) : Except TcpError SackBlock := do
  assert (seqLE queue.begin fromSeqNum ∧ seqLess fromSeqNum queue.end)
    "seqLE(begin, fromSeqNum) && seqLess(fromSeqNum, end)"
  match onward fromSeqNum queue.rexmitQueue with
  | [] => .error (.assertion "i != rexmitQueue.end()")
  | region :: _ => do
      assert (seqLE region.beginSeqNum fromSeqNum ∧ seqLess fromSeqNum region.endSeqNum)
        "seqLE(i->beginSeqNum, fromSeqNum) && seqLess(fromSeqNum, i->endSeqNum)"
      return ⟨region.endSeqNum - fromSeqNum, region.sacked, region.rexmitted⟩

end TCPSACKRexmitQueue

end Inet.Tcp
