import Inet.Lib.OrderedMap
import Inet.Sctp.GapList
import Mathlib.Data.UInt

/-!
# The queues of a stream that is received

`SCTPQueue`, a map from TSNs to chunks, and the three queues of `SCTPReceiveStream`: ordered chunks,
fragments of unordered messages, and messages ready for the application.
-/

namespace Inet.Sctp

instance linearOrderUInt32 : LinearOrder UInt32 where
  le_refl := UInt32.le_refl
  le_trans := fun _ _ _ => UInt32.le_trans
  le_antisymm := fun _ _ => UInt32.le_antisymm
  lt_iff_le_not_ge _ _ := Std.LawfulOrderLT.lt_iff _ _
  le_total := UInt32.le_total
  toDecidableLE := inferInstance

instance linearOrderUInt16 : LinearOrder UInt16 where
  le_refl := UInt16.le_refl
  le_trans := fun _ _ _ => UInt16.le_trans
  le_antisymm := fun _ _ => UInt16.le_antisymm
  lt_iff_le_not_ge _ _ := Std.LawfulOrderLT.lt_iff _ _
  le_total := UInt16.le_total
  toDecidableLE := inferInstance

/-- A packet of the application, or a fragment of one. Its length is in bytes. -/
structure SCTPSimpleMessage where
  byteLength : ℕ
  dataLen : UInt32
  data : List UInt8
  encaps : Bool

/-- What the receiving side keeps of a DATA chunk. The length is in bits. -/
structure SCTPDataVariables where
  userData : SCTPSimpleMessage
  len : UInt32
  tsn : UInt32
  sid : UInt16
  ssn : UInt16
  ppid : UInt32
  fragments : UInt32
  bbit : Bool
  ebit : Bool
  ordered : Bool

abbrev SCTPQueue := OrderedMap UInt32 SCTPDataVariables

namespace SCTPQueue

variable (queue : SCTPQueue)

/-- `checkAndInsertChunk` does not replace a chunk. -/
def checkAndInsertChunk (key : UInt32) (chunk : SCTPDataVariables) : Bool × SCTPQueue :=
  if (queue.get? key).isSome then (false, queue) else (true, queue.put key chunk)

def getChunk (tsn : UInt32) : Option SCTPDataVariables := queue.get? tsn

/-- The chunk with the least key. -/
def extractMessage : Option (SCTPDataVariables × SCTPQueue) :=
  queue.first?.map fun (key, chunk) => (chunk, queue.erase key)

/-- `getAndExtractChunk` returns `NULL` from an empty queue only. -/
def getAndExtractChunk (tsn : UInt32) : Except SimError (Option (SCTPDataVariables × SCTPQueue)) :=
  if queue.size = 0 then .ok none
  else
    match queue.get? tsn with
    | none => .error (.undefinedBehavior "iterator->second at payloadQueue.end()")
    | some chunk => .ok (some (chunk, queue.erase tsn))

/-- The first chunk with the SSN that is a whole message. -/
def dequeueChunkBySSN (ssn : UInt16) : Option (SCTPDataVariables × SCTPQueue) :=
  (queue.find? fun e => e.2.ssn = ssn && e.2.bbit && e.2.ebit).map fun (key, chunk) =>
    (chunk, queue.erase key)

def getFirstSsnInQueue : Except SimError UInt16 :=
  match queue.first? with
  | none => .error (.undefinedBehavior "payloadQueue.begin()->second of an empty queue")
  | some (_, chunk) => .ok chunk.ssn

end SCTPQueue

namespace SCTPSimpleMessage

variable (first process : SCTPSimpleMessage)

/-- The loop that copies the data of a fragment, from index `i` on, to the places behind `offset`. -/
def copyData (offset : ℕ) : ℕ → ℕ → SCTPSimpleMessage → Except SimError SCTPSimpleMessage
  | 0, _, first => .ok first
  | count + 1, i, first =>
      match process.data[i]? with
      | none => .error (.runtimeError "Array of size data_arraysize indexed by k")
      | some byte =>
          if i + offset < first.data.length then
            copyData offset count (i + 1) { first with data := first.data.set (i + offset) byte }
          else .error (.runtimeError "Array of size data_arraysize indexed by k")

end SCTPSimpleMessage

/-- The data of a fragment goes behind that of the first one, if both have any. -/
def joinData (firstVar processVar : SCTPDataVariables) : Except SimError SCTPSimpleMessage :=
  let first := firstVar.userData
  let process := processVar.userData
  if 0 < first.data.length ∧ 0 < process.data.length then
    process.copyData (firstVar.len / 8).toNat (processVar.len / 8).toNat 0
      { first with
        data := first.data ++ List.replicate process.data.length 0
        dataLen := first.dataLen + process.dataLen
        byteLength := first.byteLength + process.byteLength }
  else .ok first

/-- A fragment is added to the first one. -/
def addFragment (firstVar processVar : SCTPDataVariables) : Except SimError SCTPDataVariables := do
  let userData ← joinData firstVar processVar
  return { firstVar with userData := userData, len := firstVar.len + processVar.len }

namespace SCTPQueue

/-- The loop down to the first fragment. A queue has no more chunks than `size`. -/
def walkDown (queue : SCTPQueue) : ℕ → UInt32 → UInt32
  | 0, begintsn => begintsn
  | steps + 1, begintsn =>
      match queue.getChunk begintsn with
      | some chunk => if chunk.bbit then begintsn else walkDown queue steps (begintsn - 1)
      | none => begintsn

/-- The loop up to the last fragment. -/
def walkUp (queue : SCTPQueue) : ℕ → UInt32 → UInt32
  | 0, endtsn => endtsn
  | steps + 1, endtsn =>
      match queue.getChunk endtsn with
      | some chunk => if chunk.ebit then endtsn else walkUp queue steps (endtsn + 1)
      | none => endtsn

/-- The loop `while (++begintsn <= endtsn)`. Each round takes a chunk out of the queue. -/
def addFragments (endtsn : UInt32) : ℕ → UInt32 → SCTPDataVariables → SCTPQueue →
    Except SimError (SCTPDataVariables × SCTPQueue)
  | 0, begintsn, firstVar, queue =>
      if begintsn + 1 ≤ endtsn then .error .nullPointer else .ok (firstVar, queue)
  | rounds + 1, begintsn, firstVar, queue =>
      if begintsn + 1 ≤ endtsn then do
        match ← queue.getAndExtractChunk (begintsn + 1) with
        | none => .error .nullPointer
        | some (processVar, queue) =>
            addFragments endtsn rounds (begintsn + 1) (← addFragment firstVar processVar) queue
      else .ok (firstVar, queue)

/-- `reassemble`: the TSN of the message, if all fragments are there, and the queue. -/
def reassemble (queue : SCTPQueue) (tsn : UInt32) : Except SimError (UInt32 × SCTPQueue) := do
  let begintsn := queue.walkDown queue.size tsn
  match queue.getChunk begintsn with
  | none => return (tsn, queue)
  | some firstVar =>
      let endtsn := queue.walkUp queue.size begintsn
      match queue.getChunk endtsn with
      | none => return (tsn, queue)
      | some _ =>
          let (firstVar, queue) ← addFragments endtsn queue.size begintsn firstVar queue
          return (firstVar.tsn, queue.put begintsn { firstVar with ebit := true })

end SCTPQueue

structure SCTPReceiveStream where
  expectedStreamSeqNum : ℤ
  deliveryQ : SCTPQueue
  orderedQ : SCTPQueue
  unorderedQ : SCTPQueue

namespace SCTPReceiveStream

/-- The constructor. -/
def init : SCTPReceiveStream := ⟨0, .empty, .empty, .empty⟩

variable (rStream : SCTPReceiveStream)

/-- The SSN that the queue is searched for. -/
def expectedSSN : UInt16 := UInt16.ofNat (rStream.expectedStreamSeqNum % 65536).toNat

/-- `++expectedStreamSeqNum`, with 0 behind 65535. -/
def advanceExpected : SCTPReceiveStream :=
  { rStream with expectedStreamSeqNum :=
      if 65535 < rStream.expectedStreamSeqNum + 1 then 0 else rStream.expectedStreamSeqNum + 1 }

/-- Moves the message with the expected SSN from the one queue to the other, and says whether there
was one and whether it was inserted. -/
def dequeueExpected : Option (SCTPDataVariables × Bool × SCTPReceiveStream) :=
  (rStream.orderedQ.dequeueChunkBySSN rStream.expectedSSN).map fun (chunk, orderedQ) =>
    let (inserted, deliveryQ) := rStream.deliveryQ.checkAndInsertChunk chunk.tsn chunk
    let rStream := { rStream with orderedQ := orderedQ, deliveryQ := deliveryQ }
    (chunk, inserted, if inserted then rStream.advanceExpected else rStream)

/-- `enqueueNewDataChunk` for an unordered chunk. A `NULL` from the queue is used like a chunk. -/
def enqueueUnordered (dchunk : SCTPDataVariables) : Except SimError (ℕ × SCTPReceiveStream) := do
  if dchunk.bbit ∧ dchunk.ebit then
    let (inserted, deliveryQ) := rStream.deliveryQ.checkAndInsertChunk dchunk.tsn dchunk
    return (if inserted then 2 else 0, { rStream with deliveryQ := deliveryQ })
  else
    let (_, unorderedQ) := rStream.unorderedQ.checkAndInsertChunk dchunk.tsn dchunk
    let (reassembled, unorderedQ) ← unorderedQ.reassemble dchunk.tsn
    match unorderedQ.getChunk reassembled with
    | none => .error .nullPointer
    | some chunk =>
        -- the source tests the B bit twice, and never the E bit
        if chunk.bbit then
          let (inserted, deliveryQ) := rStream.deliveryQ.checkAndInsertChunk reassembled chunk
          return (if inserted then 2 else 3,
            { rStream with unorderedQ := unorderedQ.erase reassembled, deliveryQ := deliveryQ })
        else return (3, { rStream with unorderedQ := unorderedQ })

/-- Puts an ordered chunk into its queue, and joins fragments there. -/
def insertOrdered (dchunk : SCTPDataVariables) : Except SimError (ℕ × SCTPQueue) :=
  let (inserted, orderedQ) := rStream.orderedQ.checkAndInsertChunk dchunk.tsn dchunk
  if ¬ dchunk.bbit ∨ ¬ dchunk.ebit then do
    let (_, orderedQ) ← orderedQ.reassemble dchunk.tsn
    return (3, orderedQ)
  else return (if inserted then 1 else 0, orderedQ)

/-- `enqueueNewDataChunk` for an ordered chunk. -/
def enqueueOrdered (dchunk : SCTPDataVariables) : Except SimError (ℕ × SCTPReceiveStream) := do
  let (delivery, orderedQ) ← rStream.insertOrdered dchunk
  let rStream := { rStream with orderedQ := orderedQ }
  match rStream.dequeueExpected with
  | none => return (delivery, rStream)
  | some (_, inserted, rStream) => return (if inserted then 2 else delivery, rStream)

/-- 0 if nothing was inserted, 1 for an ordered message that is not next, 2 if one went to the
delivery queue, 3 for a fragment. -/
def enqueueNewDataChunk (dchunk : SCTPDataVariables) : Except SimError (ℕ × SCTPReceiveStream) :=
  if dchunk.ordered then rStream.enqueueOrdered dchunk else rStream.enqueueUnordered dchunk

end SCTPReceiveStream

end Inet.Sctp
