import Inet.Sctp.GapPartition
import Inet.Sctp.ReceiveStream

/-!
# The receiving side of an association

`processDataArrived`, `processForwardTsnArrived`, `pushUlp`, `makeRoomForTsn` and the receiver
window of `createSack`. Statistics and notifications are left out.
-/

namespace Inet.Sctp

/-- `(int16)x`. -/
def int16 (x : UInt16) : ℤ := x.toBitVec.toInt

def ssnGt (ssn1 ssn2 : UInt16) : Bool := 0 < int16 (ssn1 - ssn2)

inductive SCTPEventCode where
  | ignore
  | dupReceived
  | send
  | delivered

structure SCTPDataChunk where
  tsn : UInt32
  sid : UInt16
  ssn : UInt16
  ppid : UInt32
  bbit : Bool
  ebit : Bool
  ubit : Bool
  userData : SCTPSimpleMessage

/-- The chunk's entries: a stream with the SSN up to which messages are skipped, or -1. -/
structure SCTPForwardTsnChunk where
  newCumTsn : UInt32
  skipped : List (UInt16 × ℤ)

/-- What a message is handed to the application with. -/
structure SCTPRcvCommand where
  sid : UInt16
  ssn : UInt16
  sendUnordered : Bool
  ppid : UInt32
  tsn : UInt32
  userData : SCTPSimpleMessage

/-- The parameters of the receiving side. `reportsDups` says whether a SACK with these lists, which
may have to be shortened, has room for duplicates. -/
structure ReceiverParams where
  inboundStreams : ℕ
  localRwnd : UInt64
  messageAcceptLimit : UInt32
  localMsgRwnd : UInt32
  bytesToAddPerRcvdChunk : UInt32
  swsLimit : UInt32
  assocPmtu : UInt32
  tellArwnd : Bool
  messagesToPush : UInt32
  disableReneging : Bool
  stopReceiving : Bool
  reportsDups : SCTPGapList → List UInt32 → Bool

structure Receiver where
  params : ReceiverParams
  gapList : SCTPGapList
  newChunkReceived : Bool
  stopOldData : Bool
  peerTsnAfterReset : UInt32
  dupList : List UInt32
  queuedReceivedBytes : UInt64
  bufferedMessages : UInt32
  swsAvoidanceInvoked : Bool
  swsMsgInvoked : Bool
  pushMessagesLeft : ℤ
  nextRSid : ℕ
  receiveStreams : ℕ → SCTPReceiveStream

/-- `std::list::unique`: of equal neighbors the first stays. -/
def unique : List UInt32 → List UInt32
  | a :: b :: rest => if a = b then unique (a :: rest) else a :: unique (b :: rest)
  | rest => rest

/-- `makeVarFromMsg`. -/
def SCTPDataChunk.makeVar (dataChunk : SCTPDataChunk) : SCTPDataVariables where
  userData := dataChunk.userData
  len :=
    if dataChunk.userData.encaps then UInt32.ofNat (8 * dataChunk.userData.byteLength)
    else dataChunk.userData.dataLen * 8
  tsn := dataChunk.tsn
  sid := dataChunk.sid
  ssn := dataChunk.ssn
  ppid := dataChunk.ppid
  fragments := 1
  bbit := dataChunk.bbit
  ebit := dataChunk.ebit
  ordered := !dataChunk.ubit

/-- `getByteLength() - SCTP_DATA_CHUNK_LENGTH`. -/
def SCTPDataChunk.payloadLength (dataChunk : SCTPDataChunk) : UInt32 :=
  UInt32.ofNat dataChunk.userData.byteLength

namespace Receiver

variable (st : Receiver)

/-- `receiveStreams.find(sid)->second`. -/
def findStream (sid : ℕ) : Except SimError SCTPReceiveStream :=
  if sid < st.params.inboundStreams then .ok (st.receiveStreams sid)
  else .error (.undefinedBehavior "iter->second at receiveStreams.end()")

def setStream (sid : ℕ) (rStream : SCTPReceiveStream) : Receiver :=
  { st with receiveStreams := Function.update st.receiveStreams sid rStream }

@[simp]
lemma setStream_self (sid : ℕ) (rStream : SCTPReceiveStream) :
    (st.setStream sid rStream).receiveStreams sid = rStream := Function.update_self ..

lemma setStream_of_ne {sid sid' : ℕ} (ne : sid' ≠ sid) (rStream : SCTPReceiveStream) :
    (st.setStream sid rStream).receiveStreams sid' = st.receiveStreams sid' :=
  Function.update_of_ne ne ..

def tsnIsDuplicate (tsn : UInt32) : Bool := st.dupList.contains tsn || st.gapList.tsnInGapList tsn

/-- `dupList.push_back(tsn)` and `dupList.unique()`. -/
def addDuplicate (tsn : UInt32) : Receiver := { st with dupList := unique (st.dupList ++ [tsn]) }

/-- `localRwnd - queuedReceivedBytes - bufferedMessages * bytesToAddPerRcvdChunk`. -/
def freeWindow : UInt64 :=
  st.params.localRwnd - st.queuedReceivedBytes -
    (st.bufferedMessages * st.params.bytesToAddPerRcvdChunk).toUInt64

/-- Is there no room in the receiver buffer? -/
def bufferFull : Bool :=
  (0 < st.params.messageAcceptLimit && st.params.localMsgRwnd - st.bufferedMessages ≤ 0) ||
  (st.params.messageAcceptLimit = 0 && int32 st.freeWindow.toUInt32 ≤ 0)

/-- The window of `createSack` that counts messages, and whether it is kept shut from now on. -/
def msgRwnd : UInt32 × Bool :=
  let params := st.params
  let messages := params.localMsgRwnd - st.bufferedMessages
  if 0 < params.messageAcceptLimit ∧ int32 messages ≤ 0 ∨
      params.messageAcceptLimit = 0 ∧ int32 st.freeWindow.toUInt32 ≤ 0 then (0, st.swsMsgInvoked)
  else if 0 < params.messageAcceptLimit ∧ int32 messages < 3 ∨
      params.messageAcceptLimit = 0 ∧ st.freeWindow < params.swsLimit.toUInt64 ∨
      st.swsMsgInvoked = true then (1, true)
  else (if 0 < params.messageAcceptLimit then messages else st.freeWindow.toUInt32, st.swsMsgInvoked)

/-- The window that `createSack` puts into the chunk. -/
def advertise : UInt32 × Receiver :=
  let (msgRwnd, swsMsgInvoked) := st.msgRwnd
  let st := { st with swsMsgInvoked := swsMsgInvoked }
  let window := st.params.localRwnd - st.queuedReceivedBytes
  let avoided := { st with
    swsAvoidanceInvoked := st.swsAvoidanceInvoked || decide (0 < st.params.swsLimit) }
  if st.params.tellArwnd then (msgRwnd, st)
  else if int32 window.toUInt32 ≤ 0 then (0, avoided)
  else if window < st.params.swsLimit.toUInt64 ∨ st.swsAvoidanceInvoked = true then (1, avoided)
  else (window.toUInt32, st)

/-- The state after `createSack`. What has been reported is no duplicate any more. -/
def sendSack : Receiver :=
  { st.advertise.2 with
    dupList := if st.params.reportsDups st.gapList st.dupList then [] else st.dupList }

/-- Sends a SACK after a delivery, if it opens the window far enough. -/
def openWindow (tempQueuedBytes : UInt64) : Receiver :=
  let params := st.params
  let messages := params.localMsgRwnd - st.bufferedMessages
  let window := int32 st.freeWindow.toUInt32
  if st.swsAvoidanceInvoked then
    if 0 < params.messageAcceptLimit ∧ 3 ≤ messages ∧ messages ≤ 8 ∨
        params.messageAcceptLimit = 0 ∧ int32 params.swsLimit ≤ window ∧
          window ≤ int32 (params.swsLimit + params.assocPmtu) then
      { st with swsMsgInvoked := false, swsAvoidanceInvoked := false }.sendSack
    else st
  else if int32 params.swsLimit = 0 then st.sendSack
  else if params.localRwnd * 3 / 4 < tempQueuedBytes ∧
      st.queuedReceivedBytes ≤ params.localRwnd * 3 / 4 then st.sendSack
  else st

lemma sendSack_eq : ∃ dupList avoidance messages, st.sendSack = { st with
    dupList := dupList, swsAvoidanceInvoked := avoidance, swsMsgInvoked := messages } := by
  rw [sendSack, advertise]
  dsimp only
  split_ifs <;> exact ⟨_, _, _, rfl⟩

/-- A SACK changes nothing but the list of duplicates and what is kept for the window. -/
lemma openWindow_eq (tempQueuedBytes : UInt64) : ∃ dupList avoidance messages,
    st.openWindow tempQueuedBytes = { st with
      dupList := dupList, swsAvoidanceInvoked := avoidance, swsMsgInvoked := messages } := by
  rw [openWindow]
  split_ifs
  · exact sendSack_eq _
  · exact ⟨_, _, _, rfl⟩
  · exact st.sendSack_eq
  · exact st.sendSack_eq
  · exact ⟨_, _, _, rfl⟩

/-- A chunk has been taken out of the ordered queue, and perhaps put into the delivery queue. -/
def countMoved (sid : ℕ) (chunk : SCTPDataVariables) (inserted : Bool)
    (rStream : SCTPReceiveStream) : Receiver :=
  let bytes := (chunk.len / 8).toUInt64
  let st := { st with
    bufferedMessages := st.bufferedMessages - 1
    queuedReceivedBytes := st.queuedReceivedBytes - bytes }
  let st :=
    if inserted then { st with
      bufferedMessages := st.bufferedMessages + 1
      queuedReceivedBytes := st.queuedReceivedBytes + bytes }
    else st
  st.setStream sid rStream

/-- The loop of `putInDeliveryQ`. Each round takes a chunk out of the ordered queue. -/
def putInDeliveryLoop (sid : ℕ) : ℕ → Receiver → Receiver
  | 0, st => st
  | rounds + 1, st =>
      match (st.receiveStreams sid).dequeueExpected with
      | none => st
      | some (chunk, inserted, rStream) =>
          putInDeliveryLoop sid rounds (st.countMoved sid chunk inserted rStream)

def putInDeliveryQ (sid : ℕ) : Except SimError Receiver := do
  let rStream ← st.findStream sid
  return putInDeliveryLoop sid rStream.orderedQ.size st

/-- The loop over the streams from `sid` on. -/
def putAllInDeliveryQ : ℕ → ℕ → Receiver → Except SimError Receiver
  | 0, _, st => .ok st
  | count + 1, sid, st => do putAllInDeliveryQ count (sid + 1) (← st.putInDeliveryQ sid)

/-- The loop `for (j = chunk->tsn; j < chunk->tsn + chunk->fragments; j++)`. -/
def nonRevokablyAck : ℕ → UInt32 → SCTPGapList → Except SimError SCTPGapList
  | 0, _, gapList => .ok gapList
  | count + 1, j, gapList => do
      let (_, _, gapList) ← gapList.updateGapList j false false
      nonRevokablyAck count (j + 1) gapList

/-- How often that loop runs. -/
def ackRounds (chunk : SCTPDataVariables) : ℕ := (chunk.tsn + chunk.fragments).toNat - chunk.tsn.toNat

def command (chunk : SCTPDataVariables) : SCTPRcvCommand where
  sid := chunk.sid
  ssn := chunk.ssn
  sendUnordered := !chunk.ordered
  ppid := chunk.ppid
  tsn := chunk.tsn
  userData := chunk.userData

/-- The chunk counts no more. -/
def countPushed (chunk : SCTPDataVariables) (gapList : SCTPGapList) : Receiver :=
  { st with
    gapList := gapList
    pushMessagesLeft := if 0 < st.pushMessagesLeft then st.pushMessagesLeft - 1 else st.pushMessagesLeft
    queuedReceivedBytes := st.queuedReceivedBytes - (chunk.len / 8).toUInt64
    bufferedMessages := st.bufferedMessages - 1 }

/-- Hands the chunk, which has been taken out of the delivery queue, to the application. -/
def push (chunk : SCTPDataVariables) : Except SimError Receiver := do
  let gapList ← nonRevokablyAck (ackRounds chunk) chunk.tsn st.gapList
  return (st.countPushed chunk gapList).openWindow st.queuedReceivedBytes

/-- The loop that empties the delivery queue of a stream. Each round takes a chunk out. -/
def pushStream (restrict : Bool) (sid : ℕ) : ℕ → Receiver → List SCTPRcvCommand →
    Except SimError (Receiver × List SCTPRcvCommand)
  | 0, st, toApp => .ok (st, toApp)
  | rounds + 1, st, toApp =>
      let rStream := st.receiveStreams sid
      match rStream.deliveryQ.extractMessage with
      | none => .ok (st, toApp)
      | some (chunk, deliveryQ) =>
          if !restrict || 0 < st.pushMessagesLeft then do
            let st ← (st.setStream sid { rStream with deliveryQ := deliveryQ }).push chunk
            pushStream restrict sid rounds st (toApp ++ [command chunk])
          else .ok (st, toApp)

/-- The `do` loop over the streams, which ends when it is back at the first one. -/
def pushStreams (restrict : Bool) : ℕ → ℕ → Receiver → List SCTPRcvCommand →
    Except SimError (Receiver × List SCTPRcvCommand)
  | 0, _, st, toApp => .ok (st, toApp)
  | count + 1, i, st, toApp => do
      let rStream ← st.findStream i
      let (st, toApp) ← pushStream restrict i rStream.deliveryQ.size st toApp
      pushStreams restrict count ((i + 1) % st.params.inboundStreams) st toApp

/-- The first part of `pushUlp`: what is in order goes to the delivery queues, and it is settled how
many messages may be handed over. -/
def startPush : Except SimError Receiver := do
  let st ← putAllInDeliveryQ st.params.inboundStreams 0 st
  if st.pushMessagesLeft ≤ 0 then
    return { st with pushMessagesLeft := int32 st.params.messagesToPush }
  else return st

/-- `pushUlp`, with what is handed to the application. -/
def pushUlp : Except SimError (Receiver × List SCTPRcvCommand) := do
  let st ← st.startPush
  let (st, toApp) ←
    pushStreams (0 < st.pushMessagesLeft) (max 1 st.params.inboundStreams) st.nextRSid st []
  return ({ st with nextRSid := (st.nextRSid + 1) % st.params.inboundStreams }, toApp)

/-- Which queue of a stream. -/
inductive QueueName where
  | ordered
  | unordered
  | delivery
  deriving DecidableEq

end Receiver

def SCTPReceiveStream.queue (rStream : SCTPReceiveStream) : Receiver.QueueName → SCTPQueue
  | .ordered => rStream.orderedQ
  | .unordered => rStream.unorderedQ
  | .delivery => rStream.deliveryQ

def SCTPReceiveStream.setQueue (rStream : SCTPReceiveStream) (name : Receiver.QueueName)
    (queue : SCTPQueue) : SCTPReceiveStream :=
  match name with
  | .ordered => { rStream with orderedQ := queue }
  | .unordered => { rStream with unorderedQ := queue }
  | .delivery => { rStream with deliveryQ := queue }

lemma SCTPReceiveStream.queue_setQueue (rStream : SCTPReceiveStream)
    (name name' : Receiver.QueueName) (queue : SCTPQueue) :
    (rStream.setQueue name queue).queue name' =
      if name' = name then queue else rStream.queue name' := by
  cases name <;> cases name' <;> rfl

namespace Receiver

variable (st : Receiver)

/-- The chunk of a stream that is to be dropped, and where it is. -/
def chunkToDrop (uBit : Bool) (tryTSN : UInt32) (sid : ℕ) : Option (QueueName × SCTPDataVariables) :=
  let rStream := st.receiveStreams sid
  let name := if uBit then QueueName.unordered else .ordered
  match (rStream.queue name).getChunk tryTSN with
  | some chunk => some (name, chunk)
  | none => (rStream.deliveryQ.getChunk tryTSN).map fun chunk => (.delivery, chunk)

variable {st} in
lemma chunkToDrop_some {uBit : Bool} {tryTSN : UInt32} {sid : ℕ} {name : QueueName}
    {chunk : SCTPDataVariables} (found : st.chunkToDrop uBit tryTSN sid = some (name, chunk)) :
    ((st.receiveStreams sid).queue name).getChunk tryTSN = some chunk := by
  rw [chunkToDrop] at found
  cases first : ((st.receiveStreams sid).queue
      (if uBit then QueueName.unordered else .ordered)).getChunk tryTSN with
  | some c =>
    rw [first] at found
    cases found
    exact first
  | none =>
    rw [first, Option.map_eq_some_iff] at found
    obtain ⟨c, found, eq⟩ := found
    cases eq
    exact found

def dropChunk (tryTSN : UInt32) (sid : ℕ) (name : QueueName) (chunk : SCTPDataVariables) :
    Except SimError Receiver := do
  let rStream := st.receiveStreams sid
  let rStream := rStream.setQueue name ((rStream.queue name).erase tryTSN)
  let rStream :=
    if ssnGt rStream.expectedSSN chunk.ssn then
      { rStream with expectedStreamSeqNum := chunk.ssn.toNat }
    else rStream
  let gapList ← st.gapList.removeFromGapList tryTSN
  return { st.setStream sid rStream with
    bufferedMessages := st.bufferedMessages - 1
    queuedReceivedBytes := st.queuedReceivedBytes - (chunk.len / 8).toUInt64
    gapList := gapList }

/-- The loop over the streams from `sid` on: the first chunk that is found is dropped. Gives back
its length in bits. -/
def dropFromStreams (uBit : Bool) (tryTSN : UInt32) : ℕ → ℕ → Except SimError (UInt32 × Receiver)
  | 0, _ => .ok (0, st)
  | count + 1, sid =>
      match st.chunkToDrop uBit tryTSN sid with
      | some (name, chunk) => do return (chunk.len, ← st.dropChunk tryTSN sid name chunk)
      | none => dropFromStreams uBit tryTSN count (sid + 1)

/-- The loop of `makeRoomForTsn`, which counts down to the cumulative ack. -/
def makeRoomLoop (tsn length : UInt32) (uBit : Bool) : ℕ → UInt32 → UInt32 → Receiver →
    Except SimError (Bool × Receiver)
  | 0, _, _, st => .ok (true, st)
  | rounds + 1, tryTSN, sum, st =>
      if sum < length ∧ st.gapList.cumAckTSN < tryTSN then
        if tsnGt tsn tryTSN then .ok (false, st)
        else do
          let (len, st) ← st.dropFromStreams uBit tryTSN st.params.inboundStreams 0
          makeRoomLoop tsn length uBit rounds (tryTSN - 1) (sum + len) st
      else .ok (true, st)

def makeRoomForTsn (tsn length : UInt32) (uBit : Bool) : Except SimError (Bool × Receiver) := do
  assert (st.params.disableReneging = false) "state->disableReneging == false"
  let highest := st.gapList.getHighestTSNReceived
  makeRoomLoop tsn length uBit (highest.toNat - st.gapList.cumAckTSN.toNat) highest 0 st

/-! ## Arrivals -/

/-- Makes room for the chunk if there is none, and says whether it is to be taken in. -/
def admitChunk (dataChunk : SCTPDataChunk) : Except SimError (Bool × Receiver) :=
  if st.bufferFull then
    let highest := st.gapList.getHighestTSNReceived
    if tsnGt dataChunk.tsn highest then .ok (false, st)
    else if dataChunk.tsn < highest ∧ st.params.disableReneging = false then
      st.makeRoomForTsn dataChunk.tsn (UInt32.ofNat (8 * dataChunk.userData.byteLength)) dataChunk.ubit
    else .ok (true, st)
  else .ok (true, st)

/-- A chunk has gone into a queue of its stream: `ret` is the code of `enqueueNewDataChunk`. -/
def countNew (dataChunk : SCTPDataChunk) (ret : ℕ) (rStream : SCTPReceiveStream) : Receiver :=
  let st := { st with
    queuedReceivedBytes := st.queuedReceivedBytes + dataChunk.payloadLength.toUInt64
    bufferedMessages := if ret < 3 then st.bufferedMessages + 1 else st.bufferedMessages }
  st.setStream dataChunk.sid.toNat rStream

/-- A new chunk is put into the queues of its stream. -/
def enqueueChunk (dataChunk : SCTPDataChunk) : Except SimError (SCTPEventCode × Receiver) := do
  let sid := dataChunk.sid.toNat
  let rStream ← st.findStream sid
  let (ret, rStream) ← rStream.enqueueNewDataChunk dataChunk.makeVar
  if 0 < ret then
    let st := st.countNew dataChunk ret rStream
    if ret < 3 then return (.delivered, ← st.putInDeliveryQ sid) else return (.delivered, st)
  else return (.send, st.setStream sid rStream)

/-- What happens to a chunk for which there is room. -/
def takeIn (dataChunk : SCTPDataChunk) : Except SimError (SCTPEventCode × Receiver) := do
  let (_, newChunkReceived, gapList) ←
    st.gapList.updateGapList dataChunk.tsn st.newChunkReceived (!st.params.disableReneging)
  let (_, gapList) ← gapList.tryToAdvanceCumAckTSN
  let st := { st with gapList := gapList, newChunkReceived := newChunkReceived }
  if st.newChunkReceived then
    let (event, st) ← st.enqueueChunk dataChunk
    return (event, { st with newChunkReceived := false })
  else return (.send, st)

def processDataArrived (dataChunk : SCTPDataChunk) : Except SimError (SCTPEventCode × Receiver) := do
  let tsn := dataChunk.tsn
  let st := { st with newChunkReceived := false }
  if st.params.stopReceiving then return (.ignore, st)
  else if tsnLe tsn st.gapList.cumAckTSN then
    if st.stopOldData then
      return (.ignore, { st with stopOldData := !tsnGe tsn st.peerTsnAfterReset })
    else return (.dupReceived, st.addDuplicate tsn)
  else if st.tsnIsDuplicate tsn then return (.ignore, st.addDuplicate tsn)
  else
    let (admitted, st) ← st.admitChunk dataChunk
    if admitted then st.takeIn dataChunk else return (.ignore, st)

/-- The SSN that is next after a skip: that of the first chunk in the queue, if there is one. -/
def expectedAfterSkip (rStream : SCTPReceiveStream) (ssn : ℤ) : Except SimError ℤ :=
  if 0 < rStream.orderedQ.size then
    (rStream.orderedQ.getFirstSsnInQueue).map fun ssn => (ssn.toNat : ℤ)
  else .ok (if rStream.expectedStreamSeqNum ≤ ssn then ssn + 1 else rStream.expectedStreamSeqNum)

/-- What an entry of a FORWARD-TSN chunk does to its stream. -/
def skipEntry (entry : UInt16 × ℤ) : Except SimError Receiver :=
  if entry.2 ≠ -1 then do
    let sid := entry.1.toNat
    let rStream ← st.findStream sid
    let expected ← expectedAfterSkip rStream entry.2
    let expected := if 65535 < expected then 0 else expected
    return st.setStream sid { rStream with expectedStreamSeqNum := expected }
  else .ok st

def skipEntries : List (UInt16 × ℤ) → Receiver → Except SimError Receiver
  | [], st => .ok st
  | entry :: entries, st => do skipEntries entries (← st.skipEntry entry)

/-- A TSN that is missing counts as received. -/
def abandonTsn (i : UInt32) : Except SimError Receiver :=
  if st.gapList.cumAckTSN < i ∧ st.gapList.tsnInGapList i = false then do
    let (_, _, gapList) ← st.gapList.updateGapList i false false
    let (_, gapList) ← gapList.tryToAdvanceCumAckTSN
    return { st with gapList := gapList }
  else .ok st

/-- The loop `for (i = cumAckTSN + 1; i <= newCumTsn; i++)`. -/
def abandonTsns : ℕ → UInt32 → Receiver → Except SimError Receiver
  | 0, _, st => .ok st
  | count + 1, i, st => do abandonTsns count (i + 1) (← st.abandonTsn i)

def processForwardTsnArrived (fwChunk : SCTPForwardTsnChunk) : Except SimError Receiver :=
  if fwChunk.newCumTsn ≤ st.gapList.cumAckTSN then .ok st
  else do
    let st ← skipEntries fwChunk.skipped st
    -- no TSN is above the largest one
    if fwChunk.newCumTsn = 0xffffffff then .error .nonTermination
    else
      let first := st.gapList.cumAckTSN + 1
      abandonTsns (fwChunk.newCumTsn.toNat + 1 - first.toNat) first st

/-- A new association. The first TSN is the one behind the cumulative ack. -/
def start (params : ReceiverParams) (cumAckTSN : UInt32) : Receiver where
  params := params
  gapList := { SCTPGapList.init with cumAckTSN := cumAckTSN }
  newChunkReceived := false
  stopOldData := false
  peerTsnAfterReset := 0
  dupList := []
  queuedReceivedBytes := 0
  bufferedMessages := 0
  swsAvoidanceInvoked := false
  swsMsgInvoked := false
  pushMessagesLeft := 0
  nextRSid := 0
  receiveStreams := fun _ => .init

inductive Event where
  | data (dataChunk : SCTPDataChunk)
  | forwardTsn (fwChunk : SCTPForwardTsnChunk)
  | receive
  | sack

/-- An event, with what is handed to the application. -/
def step : Event → Except SimError (Receiver × List SCTPRcvCommand)
  | .data dataChunk => (st.processDataArrived dataChunk).map fun r => (r.2, [])
  | .forwardTsn fwChunk => (st.processForwardTsnArrived fwChunk).map fun st => (st, [])
  | .receive => st.pushUlp
  | .sack => .ok (st.sendSack, [])

/-- The states that a run comes through. -/
def states : List Event → Receiver → Except SimError (List Receiver)
  | [], _ => .ok []
  | event :: events, st => do
      let (st, _) ← st.step event
      return st :: (← states events st)

/-- One stream, and one message for each call of the application. -/
def oneByOne : ReceiverParams where
  inboundStreams := 1
  localRwnd := 65536
  messageAcceptLimit := 0
  localMsgRwnd := 0
  bytesToAddPerRcvdChunk := 0
  swsLimit := 3000
  assocPmtu := 1500
  tellArwnd := false
  messagesToPush := 1
  disableReneging := false
  stopReceiving := false
  reportsDups := fun _ _ => true

/-- A chunk of one byte for that stream. -/
def oneByte (tsn : UInt32) (ssn : UInt16) (bbit ebit ubit : Bool) : SCTPDataChunk where
  tsn := tsn
  sid := 0
  ssn := ssn
  ppid := 0
  bbit := bbit
  ebit := ebit
  ubit := ubit
  userData := ⟨1, 1, [7], true⟩

/-- An unordered message of one byte. -/
def wholeByte (tsn : UInt32) : SCTPDataChunk := oneByte tsn 0 true true true

end Receiver

/-! ## FORWARD-TSN chunks -/

/-- What is read of a chunk in `retransmissionQ`. The length is in bits. -/
structure SCTPSentVariables where
  tsn : UInt32
  sid : UInt16
  ssn : UInt16
  len : UInt32
  booksize : UInt32
  ordered : Bool
  hasBeenAbandoned : Bool
  hasBeenAcked : Bool
  hasBeenFastRetransmitted : Bool
  enqueuedInTransmissionQ : Bool
  sendForwardIfAbandoned : Bool
  gapReports : UInt32
  numberOfRetransmissions : UInt32
  sendTime : ℕ
  lastDestination : Option ℕ

structure Sender where
  retransmissionQ : OrderedMap UInt32 SCTPSentVariables
  transmissionQ : List UInt32
  roomTransQ : ℕ → UInt32
  bookedTransQ : ℕ → UInt32
  advancedPeerAckPoint : UInt32
  ackPointAdvanced : Bool

def SCTP_DATA_CHUNK_LENGTH : UInt32 := 16

def addPadding (x : UInt32) : UInt32 := (x + 3) >>> 2 <<< 2

namespace Sender

variable (st : Sender)

/-- The loop of `advancePeerTsn`: the point, and whether it has been advanced. -/
def advanceLoop : List (UInt32 × SCTPSentVariables) → UInt32 × Bool → UInt32 × Bool
  | [], out => out
  | (_, chunk) :: rest, out =>
      if chunk.hasBeenAbandoned then advanceLoop rest (chunk.tsn, true)
      else if chunk.hasBeenAcked then advanceLoop rest out
      else out

/-- The loop starts at the TSN behind the point. -/
def advancePeerTsn : Sender :=
  let next := st.advancedPeerAckPoint + 1
  let (point, advanced) := advanceLoop (st.retransmissionQ.entries.dropWhile fun e => e.1 ≠ next)
    (st.advancedPeerAckPoint, st.ackPointAdvanced)
  { st with advancedPeerAckPoint := point, ackPointAdvanced := advanced }

/-- Is the chunk one for a FORWARD-TSN chunk on the path? -/
def reports (pid : ℕ) (newCumTsn : UInt32) (chunk : SCTPSentVariables) : Bool :=
  chunk.lastDestination = some pid && chunk.hasBeenAbandoned && chunk.tsn ≤ newCumTsn

/-- What `sidMap` gets for the chunk. -/
def mapSid (sidMap : OrderedMap UInt16 ℤ) (chunk : SCTPSentVariables) : OrderedMap UInt16 ℤ :=
  sidMap.put chunk.sid (if chunk.ordered then int16 chunk.ssn else -1)

/-- The fake retransmission of the chunk under the key. -/
def fakeRetransmission (pid now : ℕ) (key : UInt32) (chunk : SCTPSentVariables) : Sender :=
  if chunk.sendForwardIfAbandoned then
    let sent := { chunk with
      gapReports := 0
      hasBeenFastRetransmitted := false
      sendTime := now
      numberOfRetransmissions := chunk.numberOfRetransmissions + 1
      sendForwardIfAbandoned := false }
    if st.transmissionQ.contains chunk.tsn then
      { st with
        retransmissionQ := st.retransmissionQ.put key { sent with enqueuedInTransmissionQ := false }
        transmissionQ := st.transmissionQ.erase chunk.tsn
        roomTransQ := Function.update st.roomTransQ pid
          (st.roomTransQ pid - addPadding (chunk.len / 8 + SCTP_DATA_CHUNK_LENGTH))
        bookedTransQ := Function.update st.bookedTransQ pid (st.bookedTransQ pid - chunk.booksize) }
    else { st with retransmissionQ := st.retransmissionQ.put key sent }
  else st

/-- The loop of `createForwardTsnChunk` over `retransmissionQ`. -/
def collectSids (pid now : ℕ) (newCumTsn : UInt32) : List (UInt32 × SCTPSentVariables) →
    OrderedMap UInt16 ℤ → Sender → OrderedMap UInt16 ℤ × Sender
  | [], sidMap, st => (sidMap, st)
  | (key, chunk) :: rest, sidMap, st =>
      if reports pid newCumTsn chunk then
        collectSids pid now newCumTsn rest (mapSid sidMap chunk)
          (st.fakeRetransmission pid now key chunk)
      else collectSids pid now newCumTsn rest sidMap st

def createForwardTsnChunk (pid now : ℕ) : SCTPForwardTsnChunk × Sender :=
  let st := st.advancePeerTsn
  let newCumTsn := st.advancedPeerAckPoint
  let (sidMap, st) := collectSids pid now newCumTsn st.retransmissionQ.entries .empty st
  (⟨newCumTsn, sidMap.entries⟩, st)

end Sender

/-! ## Skipped TSNs -/

variable {g : SCTPSimpleGapList} {cum p q : ℕ} {R N C : Set ℕ} {flag : Bool}

/-! ## The TSN behind the cumulative ack -/

lemma receiveSafe_next (tracks : Tracks ⟨g, serial cum, flag⟩ cum R)
    (notLast : serial (cum + 1) + 1 ≠ 0) :
    (⟨g, serial cum, flag⟩ : GapState).ReceiveSafe (serial (cum + 1)) := by
  intro _
  obtain ⟨-, spans, placed, -⟩ := tracks
  have reading : ∀ i < g.numGaps, ∃ pre s rest, spans = pre ++ s :: rest ∧ pre.length = i ∧
      GapReading ⟨g, serial cum, flag⟩ cum pre s (cum + 1) := by
    intro i lt
    rw [placed.numGaps] at lt
    have split : spans = spans.take i ++ spans[i] :: spans.drop (i + 1) := by simp
    have at_i : Placed g cum (spans.take i ++ spans[i] :: spans.drop (i + 1)) := by
      rw [← split]
      exact placed
    exact ⟨spans.take i, spans[i], spans.drop (i + 1), split, List.length_take_of_le lt.le,
      gapReading rfl at_i (by omega) (by omega)⟩
  have first : ∀ pre s rest, spans = pre ++ s :: rest → gapStart cum pre ≤ cum + 1 → pre = [] := by
    intro pre s rest split le
    rcases List.eq_nil_or_concat pre with rfl | ⟨init, last, rfl⟩
    · rfl
    · rw [List.concat_eq_append, gapStart_concat] at le
      have above := (placed.above last (by rw [split]; simp)).1
      have span := last.lo_lt_hi
      omega
  refine ⟨?_, ?_, ?_, ?_⟩
  · intro i lt _ middle
    obtain ⟨pre, s, rest, -, rfl, read⟩ := reading i lt
    rw [read.inMiddle, decide_eq_true_iff] at middle
    have := read.order
    omega
  · intro i lt _ inside
    obtain ⟨pre, s, rest, -, rfl, read⟩ := reading i lt
    rw [read.inBlock, decide_eq_true_iff] at inside
    have := read.order
    omega
  · intro i lt _
    obtain ⟨pre, s, rest, -, rfl, read⟩ := reading i lt
    have := read.order
    rw [read.stop, Ne, serial_inj (by omega) (by omega)]
    omega
  · intro i lt _ inside
    obtain ⟨pre, s, rest, split, rfl, read⟩ := reading i lt
    rw [read.inGap, decide_eq_true_iff] at inside
    rw [first pre s rest split inside.1]
    exact .inl ⟨rfl, (serial_succ cum).symm, notLast⟩

lemma canStore_next (stands : Stands g cum R) :
    (⟨g, serial cum, false⟩ : GapState).CanStore R (cum + 1) :=
  .inr (.inl (Tracks.covered stands (Set.mem_Iic.mpr le_rfl)))

lemma removeSafe_of_notMem (stands : Stands g cum R) (notMem : p ∉ R)
    (below : cum ≤ p + 2147483648) (above : p < cum + 2147483648) :
    (⟨g, serial cum, false⟩ : GapState).RemoveSafe (serial p) := by
  obtain ⟨-, spans, placed, rfl⟩ := stands
  intro _ i lt inside
  exfalso
  have inList : g.tsnInGapList (serial p) = true :=
    List.any_eq_true.mpr ⟨i, List.mem_range.mpr lt, inside⟩
  exact notMem (.inr ((tsnInGapList_serial placed below above).mp inList))

namespace Parts

variable {lists : SCTPGapList}

lemma storeNext (parts : Parts lists cum R N C) (notLast : serial (cum + 1) + 1 ≠ 0) (flag : Bool) :
    ∃ lists' cum' flag' R' N', lists.updateGapList (serial (cum + 1)) flag false =
        .ok (true, flag', lists') ∧ cum < cum' ∧ Parts lists' cum' R' N' (insert (cum + 1) C) := by
  have here : position cum (serial (cum + 1)) = cum + 1 := position_serial (by omega) (by omega)
  have notMem : cum + 1 ∉ R := Tracks.next_notMem parts.revokable
  have room := canStore_next parts.nonRevokable
  have roomC := canStore_next parts.combined
  rw [← here] at room roomC
  have removable := removeSafe_of_notMem parts.revokable notMem (by omega) (by omega)
  have safe : lists.UpdateSafe (serial (cum + 1)) false := by
    constructor
    · rw [parts.acked]
      exact receiveSafe_next parts.nonRevokable notLast
    · rw [parts.acked]
      exact receiveSafe_next parts.combined notLast
  have stored := parts.storeNonRevokable room roomC removable safe flag
  rw [here, decide_eq_false (by omega)] at stored
  obtain ⟨lists', cum', flag', ok, -, le, parts'⟩ := stored
  refine ⟨lists', cum', flag', _, _, ok, ?_, parts'⟩
  by_contra same
  have up : cum' = cum := by omega
  subst up
  exact Tracks.next_notMem parts'.combined (Set.mem_insert _ _)

lemma updateCovered (parts : Parts lists cum R N C) (le : q ≤ cum) (near : cum ≤ q + 2147483647)
    (flag : Bool) : lists.updateGapList (serial q) flag false = .ok (false, flag, lists) := by
  have covered : tsnLe (serial q) lists.cumAckTSN = true := by
    rw [parts.acked, tsnLe_serial (by omega) (by omega), decide_eq_true_iff]
    exact le
  rw [SCTPGapList.updateGapList, SCTPGapList.updateOwnList, if_neg Bool.false_ne_true,
    GapState.updateGapList, if_pos covered]
  dsimp only [bind, Except.bind]
  rw [if_neg Bool.false_ne_true]
  dsimp only [pure, Except.pure]
  rw [SCTPGapList.updateCombined, GapState.updateGapList, if_pos covered]
  dsimp only [bind, Except.bind]
  rw [if_neg (not_not.mpr rfl)]
  rfl

end Parts

open Receiver

variable {st : Receiver}

lemma abandonTsn_parts (parts : Parts st.gapList cum R N C) (le : q ≤ cum + 1)
    (near : cum ≤ q + 2147483647) (pos : 0 < (serial q).toNat)
    (notLast : (serial q).toNat < 4294967295) :
    ∃ lists' cum' R' N', st.abandonTsn (serial q) = .ok { st with gapList := lists' } ∧
      Parts lists' cum' R' N' (insert q C) ∧ q ≤ cum' ∧ cum ≤ cum' ∧ cum' ≤ q + 2147483647 := by
  by_cases next : q = cum + 1
  · subst next
    have up : st.gapList.cumAckTSN < serial (cum + 1) := by
      rw [parts.acked, UInt32.lt_iff_toNat_lt]
      rw [toNat_serial] at *
      rw [toNat_serial]
      omega
    have new : st.gapList.tsnInGapList (serial (cum + 1)) = false := by
      rw [Bool.eq_false_iff, Ne, parts.mem_combined, position_serial (by omega) (by omega)]
      exact fun mem => Tracks.next_notMem parts.combined mem.1
    have apart : serial (cum + 1) + 1 ≠ 0 := by
      rw [serial_succ, Ne, ← UInt32.toNat_inj, toNat_serial, UInt32.toNat_zero]
      rw [toNat_serial] at notLast
      omega
    obtain ⟨lists', cum', flag', R', N', ok, lt, parts'⟩ := parts.storeNext apart false
    refine ⟨lists', cum', R', N', ?_, parts', lt, lt.le, ?_⟩
    · rw [abandonTsn, if_pos ⟨up, new⟩, ok]
      dsimp only [bind, Except.bind]
      rw [parts'.tryToAdvanceCumAckTSN]
      rfl
    · rcases Tracks.covered parts'.combined (Set.mem_Iic.mpr le_rfl) with here | old
      · omega
      · have := Tracks.near parts.combined old
        omega
  · have within : q ≤ cum := by omega
    have kept : insert q C = C :=
      Set.insert_eq_self.mpr (Tracks.covered parts.combined (Set.mem_Iic.mpr within))
    refine ⟨st.gapList, cum, R, N, ?_, kept.symm ▸ parts, within, le_rfl, near⟩
    rw [abandonTsn]
    split_ifs
    · rw [parts.updateCovered within near]
      dsimp only [bind, Except.bind]
      rw [parts.tryToAdvanceCumAckTSN]
      rfl
    · rfl

lemma abandonTsns_parts {count : ℕ} (parts : Parts st.gapList cum R N C) (le : q ≤ cum + 1)
    (near : cum ≤ q + 2147483647) (pos : 0 < (serial q).toNat)
    (notLast : (serial q).toNat + count ≤ 4294967295) :
    ∃ lists' cum' R' N', abandonTsns count (serial q) st = .ok { st with gapList := lists' } ∧
      Parts lists' cum' R' N' (C ∪ Set.Ico q (q + count)) ∧ q + count ≤ cum' + 1 ∧ cum ≤ cum' := by
  induction count generalizing st cum R N C q with
  | zero =>
    refine ⟨st.gapList, cum, R, N, rfl, ?_, le, le_rfl⟩
    rw [Nat.add_zero, Set.Ico_self, Set.union_empty]
    exact parts
  | succ count ih =>
    obtain ⟨lists₁, cum₁, R₁, N₁, ok₁, parts₁, upTo, up, near₁⟩ :=
      abandonTsn_parts parts le near pos (by omega)
    have succ : (serial (q + 1)).toNat = (serial q).toNat + 1 := by
      rw [toNat_serial] at *
      rw [toNat_serial]
      omega
    have stored : Parts (Receiver.gapList { st with gapList := lists₁ }) cum₁ R₁ N₁
      (insert q C) := parts₁
    obtain ⟨lists', cum', R', N', ok, parts', last, up'⟩ :=
      ih (q := q + 1) stored (by omega) (by omega) (by omega) (by omega)
    refine ⟨lists', cum', R', N', ?_, ?_, by omega, up.trans up'⟩
    · rw [abandonTsns, ok₁]
      dsimp only [bind, Except.bind]
      rw [serial_succ]
      exact ok
    · have whole : insert q C ∪ Set.Ico (q + 1) (q + 1 + count) = C ∪ Set.Ico q (q + (count + 1)) := by
        ext p
        simp only [Set.mem_union, Set.mem_insert_iff, Set.mem_Ico]
        by_cases mem : p ∈ C
        · exact iff_of_true (.inl (.inr mem)) (.inl mem)
        · rw [or_iff_left mem, or_iff_right mem]
          omega
      rw [whole] at parts'
      exact parts'

end Inet.Sctp
