import Inet.Base.SimError
import Mathlib.Data.Int.Basic

/-!
# The gap lists of an SCTP association

`SCTPSimpleGapList`: the blocks of TSNs received above the cumulative ack TSN, in two arrays of
`MAX_GAP_COUNT` entries. An access beyond is an error.
-/

namespace Inet.Sctp

def MAX_GAP_COUNT : ℕ := 500

/-- `(int32)x`. -/
def int32 (x : UInt32) : ℤ := x.toBitVec.toInt

lemma int32_eq (x : UInt32) :
    int32 x = if x.toNat < 2147483648 then (x.toNat : ℤ) else x.toNat - 4294967296 := by
  rw [int32, BitVec.toInt_eq_toNat_cond, UInt32.toNat_toBitVec]
  split_ifs <;> first | rfl | omega

def tsnLe (tsn1 tsn2 : UInt32) : Bool := int32 (tsn1 - tsn2) ≤ 0

def tsnGt (tsn1 tsn2 : UInt32) : Bool := 0 < int32 (tsn1 - tsn2)

def tsnBetween (tsn1 midtsn tsn2 : UInt32) : Bool := midtsn - tsn1 ≤ tsn2 - tsn1

def assert (condition : Bool) (text : String) : Except SimError Unit :=
  if condition then .ok () else .error (.assertion text)

structure SCTPSimpleGapList where
  numGaps : ℕ
  gapStartList : ℕ → UInt32
  gapStopList : ℕ → UInt32

/-- What `updateGapList` and `tryToAdvanceCumAckTSN` are handed by reference, with the list. -/
structure GapState where
  gapList : SCTPSimpleGapList
  cTsnAck : UInt32
  newChunkReceived : Bool

namespace SCTPSimpleGapList

/-- The constructor. -/
def init : SCTPSimpleGapList := ⟨0, fun _ => 0xffff00ff, fun _ => 0xffff0000⟩

variable (gapList : SCTPSimpleGapList)

/-- An index of the arrays. -/
def index (i : ℕ) : Except SimError Unit :=
  if i < MAX_GAP_COUNT then .ok () else .error (.undefinedBehavior "array index out of bounds")

def getStart (i : ℕ) : Except SimError UInt32 := do
  index i
  return gapList.gapStartList i

def getStop (i : ℕ) : Except SimError UInt32 := do
  index i
  return gapList.gapStopList i

def setStart (i : ℕ) (tsn : UInt32) : Except SimError SCTPSimpleGapList := do
  index i
  return { gapList with gapStartList := Function.update gapList.gapStartList i tsn }

def setStop (i : ℕ) (tsn : UInt32) : Except SimError SCTPSimpleGapList := do
  index i
  return { gapList with gapStopList := Function.update gapList.gapStopList i tsn }

/-- Sets both ends of entry `i`. -/
def setBlock (i : ℕ) (start stop : UInt32) : Except SimError SCTPSimpleGapList := do
  let gapList ← gapList.setStart i start
  gapList.setStop i stop

/-- Copies the entry at `j` to `i`. -/
def copyBlock (i j : ℕ) : Except SimError SCTPSimpleGapList := do
  gapList.setBlock i (← gapList.getStart j) (← gapList.getStop j)

/-- The loop that moves the entries from `i` on up, where `j` is its counter. -/
def moveUp (i : ℕ) : ℕ → SCTPSimpleGapList → Except SimError SCTPSimpleGapList
  | 0, gapList => .ok gapList
  | j + 1, gapList =>
      if i < j + 1 then do moveUp i j (← gapList.copyBlock (j + 1) j) else .ok gapList

/-- The loop that moves the `count` entries behind `j` down. -/
def moveDown : ℕ → ℕ → SCTPSimpleGapList → Except SimError SCTPSimpleGapList
  | 0, _, gapList => .ok gapList
  | count + 1, j, gapList => do moveDown count (j + 1) (← gapList.copyBlock j (j + 1))

/-- The asserts of `check(cTsnAck)` for the entries from `i` on. -/
def checkFrom (cTsnAck : UInt32) : ℕ → ℕ → Except SimError Unit
  | 0, _ => .ok ()
  | count + 1, i => do
      let start ← gapList.getStart i
      if i = 0 then
        assert (tsnGt start (cTsnAck + 1)) "tsnGt(GapStartList[i], cTsnAck + 1)"
      else
        assert (tsnGt start ((← gapList.getStop (i - 1)) + 1))
          "tsnGt(GapStartList[i], GapStopList[i - 1] + 1)"
      assert (tsnLe start (← gapList.getStop i)) "tsnLe(GapStartList[i], GapStopList[i])"
      checkFrom cTsnAck count (i + 1)

def check (cTsnAck : UInt32) : Except SimError Unit := gapList.checkFrom cTsnAck gapList.numGaps 0

/-- Is the TSN in the block at `i`? -/
def inBlock (tsn : UInt32) (i : ℕ) : Bool :=
  tsnBetween (gapList.gapStartList i) tsn (gapList.gapStopList i)

def tsnInGapList (tsn : UInt32) : Bool := (List.range gapList.numGaps).any (gapList.inBlock tsn)

/-- Cuts the TSN out of the block at `i`. -/
def cutBlock (removedTSN : UInt32) (i : ℕ) : Except SimError SCTPSimpleGapList := do
  let initialNumGaps := gapList.numGaps
  let start ← gapList.getStart i
  let stop ← gapList.getStop i
  if 1 < int32 (stop - start + 1) then
    if stop = removedTSN then gapList.setStop i (stop - 1)
    else if start = removedTSN then gapList.setStart i (start + 1)
    else do
      -- at the limit the last block gives way
      let numGaps := min (initialNumGaps + 1) MAX_GAP_COUNT
      let gapList ← moveUp i (numGaps - 1) { gapList with numGaps := numGaps }
      let gapList ← gapList.setStop i (removedTSN - 1)
      if i + 1 < numGaps then gapList.setStart (i + 1) (removedTSN + 1) else .ok gapList
  else do
    let gapList ← moveDown (initialNumGaps - i) i gapList
    let gapList ← gapList.setBlock (initialNumGaps - 1) 0 0
    return { gapList with numGaps := initialNumGaps - 1 }

/-- The loop of `removeFromGapList`, from the last block on. -/
def removeFrom (removedTSN : UInt32) : ℕ → Except SimError SCTPSimpleGapList
  | 0 => .ok gapList
  | i + 1 => do
      if tsnBetween (← gapList.getStart i) removedTSN (← gapList.getStop i) then
        gapList.cutBlock removedTSN i
      else removeFrom removedTSN i

def removeFromGapList (removedTSN : UInt32) : Except SimError SCTPSimpleGapList :=
  gapList.removeFrom removedTSN gapList.numGaps

end SCTPSimpleGapList

namespace GapState

variable (st : GapState)

def removeFromGapList (removedTSN : UInt32) : Except SimError GapState := do
  return { st with gapList := ← st.gapList.removeFromGapList removedTSN }

/-- The TSN has been taken in. -/
def received (gapList : SCTPSimpleGapList) : GapState :=
  { st with gapList := gapList, newChunkReceived := true }

/-- Takes the block at `i` out of the list. -/
def dropBlock (i : ℕ) : Except SimError SCTPSimpleGapList := do
  let numGaps := st.gapList.numGaps
  let gapList ←
    if i = numGaps - 1 then st.gapList.setBlock i 0 0
    else SCTPSimpleGapList.moveDown (numGaps - 1 - i) i st.gapList
  return { gapList with numGaps := numGaps - 1 }

/-- The TSN is in the gap `[lo, hi]` in front of the block at `i`. -/
def fillGap (receivedTSN lo hi : UInt32) (i : ℕ) : Except SimError GapState := do
  let gapList := st.gapList
  if 1 < hi - lo + 1 then
    if receivedTSN = hi then return st.received (← gapList.setStart i receivedTSN)
    else if receivedTSN = lo then
      if receivedTSN = st.cTsnAck + 1 then
        return { st.received gapList with cTsnAck := st.cTsnAck + 1 }
      else return st.received (← gapList.setStop (i - 1) receivedTSN)
    else do
      -- at the limit the last block gives way
      let numGaps := min (gapList.numGaps + 1) MAX_GAP_COUNT
      let gapList ← SCTPSimpleGapList.moveUp i (numGaps - 1) { gapList with numGaps := numGaps }
      return st.received (← gapList.setBlock i receivedTSN receivedTSN)
  else do
    let stop ← gapList.getStop i
    if lo = st.cTsnAck + 1 then
      return { st.received (← st.dropBlock i) with cTsnAck := stop }
    else do
      let widened ← gapList.setStop (i - 1) stop
      return st.received (← dropBlock { st with gapList := widened } i)

/-- Does the TSN lie beyond the last block, and not next to it? -/
def beyondLast (receivedTSN : UInt32) : Except SimError Bool :=
  if st.gapList.numGaps = 0 then .ok true
  else (st.gapList.getStop (st.gapList.numGaps - 1)).map fun stop => tsnGt receivedTSN (stop + 1)

/-- No gap in front of a block has the TSN. -/
def reachEnd (receivedTSN lo : UInt32) : Except SimError GapState := do
  let gapList := st.gapList
  let numGaps := gapList.numGaps
  if receivedTSN = lo then
    if receivedTSN = st.cTsnAck + 1 then
      return { st.received gapList with cTsnAck := receivedTSN }
    else return st.received (← gapList.setStop (numGaps - 1) ((← gapList.getStop (numGaps - 1)) + 1))
  else
    if (← st.beyondLast receivedTSN) ∧ numGaps < MAX_GAP_COUNT then
      let gapList ← gapList.setBlock numGaps receivedTSN receivedTSN
      return st.received { gapList with numGaps := numGaps + 1 }
    else return st

/-- The loop of `updateGapList` over the gaps in front of the blocks from `i` on. A block that starts
at 0 is passed over as if it were none. -/
def searchGaps (receivedTSN : UInt32) : ℕ → ℕ → UInt32 → Except SimError GapState
  | 0, _, lo => st.reachEnd receivedTSN lo
  | count + 1, i, lo => do
      let start ← st.gapList.getStart i
      if 0 < start then
        let hi := start - 1
        if tsnBetween lo receivedTSN hi then st.fillGap receivedTSN lo hi i
        else searchGaps receivedTSN count (i + 1) ((← st.gapList.getStop i) + 1)
      else searchGaps receivedTSN count (i + 1) lo

/-- `updateGapList`, which returns `false` only for a TSN that the cumulative ack covers. -/
def updateGapList (receivedTSN : UInt32) : Except SimError (Bool × GapState) :=
  if tsnLe receivedTSN st.cTsnAck then .ok (false, st)
  else do return (true, ← st.searchGaps receivedTSN st.gapList.numGaps 0 (st.cTsnAck + 1))

/-- The loop of `tryToAdvanceCumAckTSN`. -/
def advanceLoop : ℕ → GapState → Bool → Except SimError (Bool × GapState)
  | 0, st, progress => .ok (progress, st)
  | count + 1, st, progress => do
      if st.cTsnAck + 1 = (← st.gapList.getStart 0) then
        let stop ← st.gapList.getStop 0
        let gapList ← SCTPSimpleGapList.moveDown (st.gapList.numGaps - 1) 0 st.gapList
        advanceLoop count { st with gapList := gapList, cTsnAck := stop } true
      else advanceLoop count st progress

def tryToAdvanceCumAckTSN : Except SimError (Bool × GapState) :=
  advanceLoop st.gapList.numGaps st false

end GapState

def tsnGe (tsn1 tsn2 : UInt32) : Bool := 0 ≤ int32 (tsn1 - tsn2)

namespace SCTPSimpleGapList

variable (gapList : SCTPSimpleGapList)

/-- The loop that counts the blocks, from `counter` on, that start at or below the new cumulative
ack. -/
def countAdvance (cTsnAck : UInt32) : ℕ → ℕ → Except SimError ℕ
  | 0, counter => .ok counter
  | count + 1, counter => do
      if tsnGe cTsnAck (← gapList.getStart counter) then countAdvance cTsnAck count (counter + 1)
      else .ok counter

/-- The loop that copies the blocks from `i + advance` on to `i` and up. -/
def moveFront (advance : ℕ) : ℕ → ℕ → SCTPSimpleGapList → Except SimError SCTPSimpleGapList
  | 0, _, gapList => .ok gapList
  | count + 1, i, gapList => do
      moveFront advance count (i + 1) (← gapList.copyBlock i (i + advance))

def forwardCumAckTSN (cTsnAck : UInt32) : Except SimError SCTPSimpleGapList := do
  let numGaps := gapList.numGaps
  let advance ← gapList.countAdvance cTsnAck numGaps 0
  if 0 < advance then
    let gapList ← moveFront advance (numGaps - advance) 0 gapList
    return { gapList with numGaps := numGaps - advance }
  else return gapList

end SCTPSimpleGapList

structure SCTPGapList where
  cumAckTSN : UInt32
  revokableGapList : SCTPSimpleGapList
  nonRevokableGapList : SCTPSimpleGapList
  combinedGapList : SCTPSimpleGapList

namespace SCTPGapList

/-- The constructor. -/
def init : SCTPGapList := ⟨0, .init, .init, .init⟩

variable (gapList : SCTPGapList)

def setInitialCumAckTSN (cumAckTSN : UInt32) : Except SimError SCTPGapList := do
  assert (gapList.combinedGapList.numGaps = 0) "CombinedGapList.getNumGaps() == 0"
  return { gapList with cumAckTSN := cumAckTSN }

def tsnInGapList (tsn : UInt32) : Bool := gapList.combinedGapList.tsnInGapList tsn

def tsnIsRevokable (tsn : UInt32) : Bool := gapList.revokableGapList.tsnInGapList tsn

def tsnIsNonRevokable (tsn : UInt32) : Bool := gapList.nonRevokableGapList.tsnInGapList tsn

def getHighestTSNReceived : UInt32 :=
  let numGaps := gapList.combinedGapList.numGaps
  if 0 < numGaps then gapList.combinedGapList.gapStopList (numGaps - 1) else gapList.cumAckTSN

/-- Carries the cumulative ack over to the lists of the revokable and the non-revokable TSNs. -/
def forwardOthers : Except SimError SCTPGapList := do
  let revokable ← gapList.revokableGapList.forwardCumAckTSN gapList.cumAckTSN
  let nonRevokable ← gapList.nonRevokableGapList.forwardCumAckTSN gapList.cumAckTSN
  return { gapList with revokableGapList := revokable, nonRevokableGapList := nonRevokable }

def tryToAdvanceCumAckTSN : Except SimError (Bool × SCTPGapList) := do
  let (progress, st) ←
    (⟨gapList.combinedGapList, gapList.cumAckTSN, false⟩ : GapState).tryToAdvanceCumAckTSN
  let gapList := { gapList with cumAckTSN := st.cTsnAck, combinedGapList := st.gapList }
  if progress then return (true, ← gapList.forwardOthers) else return (false, gapList)

def removeFromGapList (removedTSN : UInt32) : Except SimError SCTPGapList := do
  let revokable ← gapList.revokableGapList.removeFromGapList removedTSN
  let nonRevokable ← gapList.nonRevokableGapList.removeFromGapList removedTSN
  let combined ← gapList.combinedGapList.removeFromGapList removedTSN
  return { gapList with
    revokableGapList := revokable, nonRevokableGapList := nonRevokable, combinedGapList := combined }

/-- One of the two lists takes the TSN in, with a copy of the cumulative ack. Gives back the flag
`newChunkReceived` with the lists. -/
def updateOwnList (receivedTSN : UInt32) (newChunkReceived tsnIsRevokable : Bool) :
    Except SimError (Bool × SCTPGapList) := do
  if tsnIsRevokable then
    let (_, st) ← (⟨gapList.revokableGapList, gapList.cumAckTSN, newChunkReceived⟩ :
      GapState).updateGapList receivedTSN
    return (st.newChunkReceived, { gapList with revokableGapList := st.gapList })
  else
    let (uncovered, st) ← (⟨gapList.nonRevokableGapList, gapList.cumAckTSN, newChunkReceived⟩ :
      GapState).updateGapList receivedTSN
    let gapList := { gapList with nonRevokableGapList := st.gapList }
    if uncovered then
      let revokable ← gapList.revokableGapList.removeFromGapList receivedTSN
      return (st.newChunkReceived, { gapList with revokableGapList := revokable })
    else return (st.newChunkReceived, gapList)

/-- Adds the TSN to the combined list and sets the cumulative ack. -/
def updateCombined (receivedTSN : UInt32) (newChunkReceived : Bool) :
    Except SimError (Bool × Bool × SCTPGapList) := do
  let (newChunk, st) ← (⟨gapList.combinedGapList, gapList.cumAckTSN, newChunkReceived⟩ :
    GapState).updateGapList receivedTSN
  let gapList' := { gapList with cumAckTSN := st.cTsnAck, combinedGapList := st.gapList }
  if gapList.cumAckTSN ≠ gapList'.cumAckTSN then
    return (newChunk, st.newChunkReceived, ← gapList'.forwardOthers)
  else return (newChunk, st.newChunkReceived, gapList')

/-- `updateGapList`: what it returns, the flag `newChunkReceived`, and the lists. -/
def updateGapList (receivedTSN : UInt32) (newChunkReceived tsnIsRevokable : Bool) :
    Except SimError (Bool × Bool × SCTPGapList) := do
  let (newChunkReceived, gapList) ←
    gapList.updateOwnList receivedTSN newChunkReceived tsnIsRevokable
  gapList.updateCombined receivedTSN newChunkReceived

end SCTPGapList

end Inet.Sctp
