import Inet.Tcp.Segment
import Mathlib

/-!
# TCPVirtualDataRcvQueue

The receive queue shared by all transfer modes: a sorted list of regions and the next expected
sequence number. The kind of region is a parameter, as `merge`, `split` and
`createRegionFromSegment` are virtual; the plain `Region` of byte counts is the instance here.
-/

namespace Inet.Tcp

structure Region where
  begin : UInt32
  «end» : UInt32
  deriving DecidableEq

inductive CompareStatus where
  | before
  | beforeTouch
  | overlap
  | afterTouch
  | after

namespace Region

def getLength (region : Region) : UInt32 := region.end - region.begin

def merge (self other : Region) : Option Region :=
  if seqLess self.end other.begin ∨ seqLess other.end self.begin then none
  else some
    { begin := if seqLess other.begin self.begin then other.begin else self.begin
      «end» := if seqLess self.end other.end then other.end else self.end }

/-- The new region `[begin..seq)` and what is left of `self`. -/
def split (self : Region) (seq : UInt32) : Except TcpError (Region × Region) := do
  assert (seqGreater seq self.begin ∧ seqLess seq self.end)
    "seqGreater(seq, begin) && seqLess(seq, end)"
  return (⟨self.begin, seq⟩, ⟨seq, self.end⟩)

def compare (self other : Region) : CompareStatus :=
  if self.end = other.begin then .beforeTouch
  else if self.begin = other.end then .afterTouch
  else if seqLess self.end other.begin then .before
  else if seqLess other.end self.begin then .after
  else .overlap

end Region

/-- The virtual functions of a region class. `merge` answers `none` where the
source returns `false`. -/
class RcvRegion (ρ : Type) where
  toRegion : ρ → Region
  merge : ρ → ρ → Except TcpError (Option ρ)
  split : ρ → UInt32 → Except TcpError (ρ × ρ)
  createRegionFromSegment : TCPSegment → Except TcpError ρ

instance : RcvRegion Region where
  toRegion region := region
  merge self other := .ok (self.merge other)
  split := Region.split
  createRegionFromSegment tcpseg := .ok ⟨tcpseg.sequenceNo, tcpseg.endSequenceNo⟩

/-! ## The queue -/

structure VirtualDataRcvQueue (ρ : Type) where
  rcvNxt : UInt32
  regionList : List ρ
  deriving DecidableEq

namespace VirtualDataRcvQueue

variable {ρ : Type} [RcvRegion ρ]

open RcvRegion

def init (startSeq : UInt32) : VirtualDataRcvQueue ρ := ⟨startSeq, []⟩

/-- The range check at the head of `insertBytesFromSegment`. The text leaves out
the dump of the queue that `info()` appends. -/
def checkRange (queue : VirtualDataRcvQueue ρ) (region : ρ) : Except TcpError Unit :=
  match queue.regionList.head?, queue.regionList.getLast? with
  | some front, some back =>
      let ob := (toRegion front).begin
      let oe := (toRegion back).end
      let nb := (toRegion region).begin
      let ne := (toRegion region).end
      let minb := seqMin ob nb
      let maxe := seqMax oe ne
      if seqGE minb oe ∨ seqGE minb ne ∨ seqGE ob maxe ∨ seqGE nb maxe then
        .error (.runtimeError ("The new segment is [" ++ toString nb ++ ", " ++ toString ne ++
          ") out of the acceptable range at the queue"))
      else .ok ()
  | _, _ => .ok ()

/-- The loop of `merge`. `below` are the regions not reached, last one first; `above` those stepped
over, in order. -/
def mergeLoop (seg : ρ) : List ρ → List ρ → Except TcpError (List ρ)
  | [], above => .ok (seg :: above)
  | region :: below, above =>
      match (toRegion region).compare (toRegion seg) with
      | .before => .ok (below.reverse ++ region :: seg :: above)
      | .after => mergeLoop seg below (region :: above)
      | _ => do
          match ← RcvRegion.merge seg region with
          | some merged => mergeLoop merged below above
          | none =>
              .error (.runtimeError ("Model error: merge of region [" ++
                toString (toRegion region).begin ++ "," ++ toString (toRegion region).end ++
                ") with [" ++ toString (toRegion seg).begin ++ "," ++
                toString (toRegion seg).end ++ ") unsuccessful"))

def merge (queue : VirtualDataRcvQueue ρ) (seg : ρ) :
    Except TcpError (VirtualDataRcvQueue ρ) := do
  return { queue with regionList := ← mergeLoop seg queue.regionList.reverse [] }

/-- `rcv_nxt` once the regions have been updated. -/
def nextAfter (queue : VirtualDataRcvQueue ρ) : UInt32 :=
  match queue.regionList.head? with
  | some front =>
      if seqGE queue.rcvNxt (toRegion front).begin then (toRegion front).end else queue.rcvNxt
  | none => queue.rcvNxt

/-- Insert a region; the new `rcv_nxt` is the field of the result. -/
def insertRegion (queue : VirtualDataRcvQueue ρ) (region : ρ) :
    Except TcpError (VirtualDataRcvQueue ρ) := do
  queue.checkRange region
  let queue ← queue.merge region
  return { queue with rcvNxt := queue.nextAfter }

def insertBytesFromSegment (queue : VirtualDataRcvQueue ρ) (tcpseg : TCPSegment) :
    Except TcpError (VirtualDataRcvQueue ρ) := do
  let region ← createRegionFromSegment tcpseg
  queue.insertRegion region

def extractTo (queue : VirtualDataRcvQueue ρ) (seq : UInt32) :
    Except TcpError (Option ρ × VirtualDataRcvQueue ρ) := do
  assert (seqLE seq queue.rcvNxt) "seqLE(seq, rcv_nxt)"
  match queue.regionList with
  | [] => return (none, queue)
  | front :: rest =>
      if seqLE seq (toRegion front).begin then return (none, queue)
      else if seqGE seq (toRegion front).end then
        return (some front, { queue with regionList := rest })
      else do
        let (extracted, left) ← RcvRegion.split front seq
        return (some extracted, { queue with regionList := left :: rest })

def getAmountOfBufferedBytes (queue : VirtualDataRcvQueue ρ) : UInt32 :=
  (queue.regionList.map fun region => (toRegion region).getLength).sum

def getAmountOfFreeBytes (queue : VirtualDataRcvQueue ρ) (maxRcvBuffer : UInt32) : UInt32 :=
  let usedRcvBuffer := queue.getAmountOfBufferedBytes
  if usedRcvBuffer < maxRcvBuffer then maxRcvBuffer - usedRcvBuffer else 0

def getQueueLength (queue : VirtualDataRcvQueue ρ) : UInt32 :=
  UInt32.ofNat queue.regionList.length

def getLE (queue : VirtualDataRcvQueue ρ) (fromSeqNum : UInt32) : UInt32 :=
  match queue.regionList.find? fun region =>
      decide (seqLE (toRegion region).begin fromSeqNum ∧
        seqLess fromSeqNum (toRegion region).end) with
  | some region => (toRegion region).begin
  | none => fromSeqNum

def getRE (queue : VirtualDataRcvQueue ρ) (toSeqNum : UInt32) : UInt32 :=
  match queue.regionList.find? fun region =>
      decide (seqLess (toRegion region).begin toSeqNum ∧
        seqLE toSeqNum (toRegion region).end) with
  | some region => (toRegion region).end
  | none => toSeqNum

def getFirstSeqNo (queue : VirtualDataRcvQueue ρ) : UInt32 :=
  match queue.regionList.head? with
  | some front => seqMin (toRegion front).begin queue.rcvNxt
  | none => queue.rcvNxt

/-- `extractBytesUpTo(seq)` of the virtual data queue: the byte length of the
packet handed out. -/
def extractBytesUpTo (queue : VirtualDataRcvQueue ρ) (seq : UInt32) :
    Except TcpError (Option UInt32 × VirtualDataRcvQueue ρ) := do
  let (region, queue) ← queue.extractTo seq
  return (region.map fun region => (toRegion region).getLength, queue)

end VirtualDataRcvQueue

end Inet.Tcp
