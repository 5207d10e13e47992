import Inet.Sctp.ReceiveStream

/-!
# Send streams and their schedulers

The messages wait in the two queues of a stream, ordered and unordered. A scheduler tells from which
stream the next chunk is taken. `initStreams` makes the streams `0 .. outboundStreams - 1`, a `Fin
outboundStreams`, and nothing removes one. A path is a number, for its remote address.
-/

namespace Inet.Sctp

variable {outboundStreams : ℕ}

/-- A message of the application, or a fragment of one. `encapsulated` is the encapsulated packet.
-/
structure SCTPDataMsg (outboundStreams : ℕ) where
  eBit : Bool := false
  bBit : Bool := false
  enqueuingTime : ℕ := 0
  expiryTime : ℕ := 0
  ppid : UInt32
  initialDestination : Option ℕ := none
  msgNum : UInt32 := 0
  sid : Fin outboundStreams
  ordered : Bool := false
  booksize : UInt32 := 0
  rtx : UInt32 := 0
  fragment : Bool := false
  prMethod : UInt32 := 0
  priority : UInt32 := 0
  strReset : Bool := false
  sackNow : Bool
  encapsulated : SCTPSimpleMessage

structure SCTPSendStream (outboundStreams : ℕ) where
  nextStreamSeqNum : UInt16 := 0
  streamQ : List (SCTPDataMsg outboundStreams) := []
  uStreamQ : List (SCTPDataMsg outboundStreams) := []

/-- Does the stream have a message? -/
def SCTPSendStream.hasData (stream : SCTPSendStream outboundStreams) : Bool :=
  0 < stream.uStreamQ.length || 0 < stream.streamQ.length

structure SCTPPath where
  remoteAddress : ℕ
  activePath : Bool

inductive StreamScheduler where
  | roundRobin | roundRobinPacket | randomSchedule | randomSchedulePacket | fairBandwith
  | fairBandwithPacket | priority | fcfs | pathManual | pathMapToPath
  deriving DecidableEq

/-- The fields of the state that the schedulers use. A map of the streams that is still empty is
`none`. -/
structure SchedulerState (outboundStreams : ℕ) where
  lastStreamScheduled : Fin outboundStreams
  ssNextStream : Bool
  ssLastDataChunkSizeSet : Bool
  ssPriorityMap : Fin outboundStreams → UInt32
  ssFairBandwidthMap : Option (Fin outboundStreams → Int32)
  ssStreamToPathMap : Option (Fin outboundStreams → ℤ)

/-- What else a call of a scheduler sees: the path and all paths, what `uniform` draws, and the numbers
of the parameter `streamsToPaths`. -/
structure SchedulerCall where
  path : ℕ
  sctpPathMap : List SCTPPath
  drawn : ℕ
  streamsToPaths : List ℤ

namespace SchedulerState

variable [NeZero outboundStreams]
variable (sendStreams : Fin outboundStreams → SCTPSendStream outboundStreams)
variable (call : SchedulerCall) (peek : Bool) (st : SchedulerState outboundStreams)

/-- The streams that a loop `do testsid = (testsid + 1) % outboundStreams` visits from the last
stream on: all, and that one at the end. -/
def visitedFromLast : List (Fin outboundStreams) :=
  (List.finRange outboundStreams).map fun i => st.lastStreamScheduled + 1 + i

/-- The same when the loop starts with `testsid = -1`: it ends at the last stream as well. -/
def visitedFromFirst : List (Fin outboundStreams) :=
  (List.finRange outboundStreams).filter fun i => i ≤ st.lastStreamScheduled

/-- `if (!peek) state->lastStreamScheduled = sid`. -/
def note (sid : Fin outboundStreams) : SchedulerState outboundStreams :=
  if peek then st else { st with lastStreamScheduled := sid }

/-- The next stream with data, in turn. -/
def nextInTurn : Option (Fin outboundStreams) × SchedulerState outboundStreams :=
  match st.visitedFromLast.find? fun sid => (sendStreams sid).hasData with
  | none => (none, st)
  | some sid => (some sid, st.note peek sid)

/-- The last stream, when it has data. -/
def again : Option (Fin outboundStreams) :=
  if (sendStreams st.lastStreamScheduled).hasData then some st.lastStreamScheduled else none

def streamScheduler : Option (Fin outboundStreams) × SchedulerState outboundStreams :=
  let (sid, st) :=
    if (!st.ssLastDataChunkSizeSet || !st.ssNextStream) &&
        (sendStreams st.lastStreamScheduled).hasData then
      (some st.lastStreamScheduled, { st with ssNextStream := true })
    else st.nextInTurn sendStreams peek
  (sid, if sid.isSome && !peek then { st with ssLastDataChunkSizeSet := false } else st)

def streamSchedulerRoundRobinPacket :
    Option (Fin outboundStreams) × SchedulerState outboundStreams :=
  let (sid, st) :=
    if st.ssNextStream then st.nextInTurn sendStreams peek else (st.again sendStreams, st)
  (sid, if sid.isSome && !peek then { st with ssNextStream := false } else st)

/-- An element of the list of waiting streams, the one that is drawn. -/
def drawWaiting : Option (Fin outboundStreams) × SchedulerState outboundStreams :=
  let waiting := (List.finRange outboundStreams).filter fun sid => (sendStreams sid).hasData
  match waiting[call.drawn % waiting.length]? with
  | none => (none, st)
  | some sid => (some sid, st.note peek sid)

def streamSchedulerRandomPacket : Option (Fin outboundStreams) × SchedulerState outboundStreams :=
  let (sid, st) :=
    if st.ssNextStream then st.drawWaiting sendStreams call peek else (st.again sendStreams, st)
  (sid, if sid.isSome && !peek then { st with ssNextStream := false } else st)

def streamSchedulerRandom : Option (Fin outboundStreams) × SchedulerState outboundStreams :=
  { st with ssNextStream := true }.streamSchedulerRandomPacket sendStreams call peek

/-- The first of the streams with data whose priority value is least. -/
def leastPriority : List (Fin outboundStreams) → Option (Fin outboundStreams) →
    Option (Fin outboundStreams)
  | [], sid => sid
  | testsid :: rest, sid =>
      if (sendStreams testsid).hasData &&
          sid.all fun sid => st.ssPriorityMap testsid < st.ssPriorityMap sid then
        leastPriority rest (some testsid)
      else leastPriority rest sid

def streamSchedulerPriority : Option (Fin outboundStreams) × SchedulerState outboundStreams :=
  if !st.ssLastDataChunkSizeSet && st.ssNextStream &&
      (sendStreams st.lastStreamScheduled).hasData then
    (some st.lastStreamScheduled, st)
  else
    let visited := if st.ssNextStream then st.visitedFromLast else st.visitedFromFirst
    let st := { st with ssNextStream := true }
    match st.leastPriority sendStreams visited none with
    | none => (none, st)
    | some sid =>
        (some sid, if peek then st
          else { st with lastStreamScheduled := sid, ssLastDataChunkSizeSet := false })

/-- The size of the first packet of the stream. -/
def packetSize (stream : SCTPSendStream outboundStreams) : Option Int32 :=
  (stream.uStreamQ ++ stream.streamQ).head?.map fun msg => Int32.ofNat msg.encapsulated.byteLength

/-- The entry of the stream in the fair bandwidth map, when the last chunk had this size. -/
def bandwidthEntry (lastDataChunkSize : Int32) (map : Fin outboundStreams → Int32)
    (sid : Fin outboundStreams) : Int32 :=
  match packetSize (sendStreams sid) with
  | none => -1
  | some size =>
      if map sid < 0 then (if size ≠ 0 then size else map sid)
      else if st.ssLastDataChunkSizeSet then
        let entry := map sid - lastDataChunkSize
        let entry := if entry < 0 then 0 else entry
        if sid = st.lastStreamScheduled then entry + size else entry
      else map sid

/-- The first of the streams with the least entry, of those that are not negative. -/
def leastBandwidth (map : Fin outboundStreams → Int32) : List (Fin outboundStreams) →
    Option (Fin outboundStreams) → Option (Fin outboundStreams)
  | [], sid => sid
  | testsid :: rest, sid =>
      if (sid.all fun sid => map testsid < map sid) && 0 ≤ map testsid then
        leastBandwidth map rest (some testsid)
      else leastBandwidth map rest sid

/-- A peek changes a copy of the map. The size of the last chunk is read once, before the loop. -/
def streamSchedulerFairBandwidthPacket :
    Option (Fin outboundStreams) × SchedulerState outboundStreams :=
  let old := st.ssFairBandwidthMap.getD fun _ => -1
  let map := st.bandwidthEntry sendStreams (old st.lastStreamScheduled) old
  let sid := if st.ssNextStream then leastBandwidth map (List.finRange outboundStreams) none
    else st.again sendStreams
  if peek then (sid, { st with ssFairBandwidthMap := some old })
  else
    let st := { st with ssFairBandwidthMap := some map, ssLastDataChunkSizeSet := false }
    match sid with
    | none => (none, st)
    | some sid => (some sid, { st with lastStreamScheduled := sid, ssNextStream := false })

def streamSchedulerFairBandwidth : Option (Fin outboundStreams) × SchedulerState outboundStreams :=
  { st with ssNextStream := true }.streamSchedulerFairBandwidthPacket sendStreams peek

/-- The first of the streams whose oldest message is oldest. -/
def oldestEnqueuing : List (Fin outboundStreams) → Option (Fin outboundStreams × ℕ) →
    Option (Fin outboundStreams)
  | [], best => best.map Prod.fst
  | testsid :: rest, best =>
      let test (queue : List (SCTPDataMsg outboundStreams)) (best : Option (Fin outboundStreams × ℕ)) :=
        match queue.head? with
        | none => best
        | some msg => if best.all fun b => b.2 > msg.enqueuingTime then some (testsid, msg.enqueuingTime)
            else best
      oldestEnqueuing rest
        (test (sendStreams testsid).streamQ (test (sendStreams testsid).uStreamQ best))

def streamSchedulerFCFS : Option (Fin outboundStreams) × SchedulerState outboundStreams :=
  let visited := if st.ssNextStream then st.visitedFromLast else st.visitedFromFirst
  let st := { st with ssNextStream := true }
  match oldestEnqueuing sendStreams visited none with
  | none => (none, st)
  | some sid => (some sid, st.note peek sid)

/-- The stream need not have data. -/
def pathStreamSchedulerManual : Option (Fin outboundStreams) × SchedulerState outboundStreams :=
  let map := st.ssStreamToPathMap.getD fun sid => call.streamsToPaths.getD sid 0
  let pathNo := call.sctpPathMap.findIdx fun path => path.remoteAddress = call.path
  let st := { st with ssStreamToPathMap := some map }
  match st.visitedFromLast.find? fun sid => map sid = pathNo with
  | none => (none, st)
  | some sid => (some sid, st.note peek sid)

/-- This scheduler leaves `lastStreamScheduled` as it is. -/
def pathStreamSchedulerMapToPath : Option (Fin outboundStreams) × SchedulerState outboundStreams :=
  let working := call.sctpPathMap.filter SCTPPath.activePath
  if working.any fun path => path.remoteAddress = call.path then
    let thisPath := working.findIdx fun path => path.remoteAddress = call.path
    ((List.finRange outboundStreams).find? fun sid =>
      sid.val % working.length = thisPath && (sendStreams sid).hasData, st)
  else (none, st)

def ssGetNextSid (scheduler : StreamScheduler) :
    Option (Fin outboundStreams) × SchedulerState outboundStreams :=
  match scheduler with
  | .roundRobin => st.streamScheduler sendStreams peek
  | .roundRobinPacket => st.streamSchedulerRoundRobinPacket sendStreams peek
  | .randomSchedule => st.streamSchedulerRandom sendStreams call peek
  | .randomSchedulePacket => st.streamSchedulerRandomPacket sendStreams call peek
  | .fairBandwith => st.streamSchedulerFairBandwidth sendStreams peek
  | .fairBandwithPacket => st.streamSchedulerFairBandwidthPacket sendStreams peek
  | .priority => st.streamSchedulerPriority sendStreams peek
  | .fcfs => st.streamSchedulerFCFS sendStreams peek
  | .pathManual => st.pathStreamSchedulerManual call peek
  | .pathMapToPath => st.pathStreamSchedulerMapToPath sendStreams call

/-! ## The stream that was scheduled last -/

variable {sendStreams call peek}

/-- What a call leaves as the stream scheduled last: the stream that it returns, and a peek nothing
new. -/
def Noted (peek : Bool) (st : SchedulerState outboundStreams)
    (out : Option (Fin outboundStreams) × SchedulerState outboundStreams) : Prop :=
  out.2.lastStreamScheduled =
    if peek then st.lastStreamScheduled else out.1.getD st.lastStreamScheduled

omit [NeZero outboundStreams] in
lemma note_last (sid : Fin outboundStreams) : (st.note peek sid).lastStreamScheduled =
    if peek then st.lastStreamScheduled else sid := by
  cases peek <;> rfl

omit [NeZero outboundStreams] in
lemma again_eq {sid : Fin outboundStreams} (here : st.again sendStreams = some sid) :
    sid = st.lastStreamScheduled := by
  unfold again at here
  split at here
  · exact (Option.some.inj here).symm
  · cases here

omit [NeZero outboundStreams] in
lemma noted_again : Noted peek st (st.again sendStreams, st) := by
  cases here : st.again sendStreams with
  | none => simp [Noted]
  | some sid =>
    rw [st.again_eq here]
    simp [Noted]

lemma noted_nextInTurn : Noted peek st (st.nextInTurn sendStreams peek) := by
  unfold nextInTurn Noted
  split
  · simp
  · simp [note_last]

omit [NeZero outboundStreams] in
lemma noted_drawWaiting : Noted peek st (st.drawWaiting sendStreams call peek) := by
  unfold drawWaiting Noted
  dsimp only
  split
  · simp
  · simp [note_last]

omit [NeZero outboundStreams] in
/-- The scheduler's other flags do not matter. -/
lemma Noted.congr {st : SchedulerState outboundStreams}
    {out out' : Option (Fin outboundStreams) × SchedulerState outboundStreams}
    (noted : Noted peek st out) (sid : out'.1 = out.1)
    (last : out'.2.lastStreamScheduled = out.2.lastStreamScheduled) : Noted peek st out' := by
  unfold Noted
  rw [last, sid]
  exact noted

lemma noted_streamScheduler : Noted peek st (st.streamScheduler sendStreams peek) := by
  unfold streamScheduler
  split
  rename_i out sid st' made
  have inner : Noted peek st (sid, st') := by
    rw [← made]
    split
    · simp [Noted]
    · exact st.noted_nextInTurn
  refine inner.congr rfl ?_
  split <;> rfl

lemma noted_streamSchedulerRoundRobinPacket :
    Noted peek st (st.streamSchedulerRoundRobinPacket sendStreams peek) := by
  unfold streamSchedulerRoundRobinPacket
  split
  rename_i out sid st' made
  have inner : Noted peek st (sid, st') := by
    rw [← made]
    split
    · exact st.noted_nextInTurn
    · exact st.noted_again
  refine inner.congr rfl ?_
  split <;> rfl

omit [NeZero outboundStreams] in
lemma noted_streamSchedulerRandomPacket :
    Noted peek st (st.streamSchedulerRandomPacket sendStreams call peek) := by
  unfold streamSchedulerRandomPacket
  split
  rename_i out sid st' made
  have inner : Noted peek st (sid, st') := by
    rw [← made]
    split
    · exact st.noted_drawWaiting
    · exact st.noted_again
  refine inner.congr rfl ?_
  split <;> rfl

lemma noted_streamSchedulerPriority :
    Noted peek st (st.streamSchedulerPriority sendStreams peek) := by
  unfold streamSchedulerPriority Noted
  split
  · simp
  · dsimp only
    split
    · simp
    · cases peek <;> rfl

omit [NeZero outboundStreams] in
lemma noted_streamSchedulerFairBandwidthPacket :
    Noted peek st (st.streamSchedulerFairBandwidthPacket sendStreams peek) := by
  unfold streamSchedulerFairBandwidthPacket Noted
  cases peek with
  | true => rfl
  | false =>
    simp only [Bool.false_eq_true, if_false]
    generalize (if st.ssNextStream then _ else _ : Option (Fin outboundStreams)) = sid
    cases sid <;> rfl

lemma noted_streamSchedulerFCFS : Noted peek st (st.streamSchedulerFCFS sendStreams peek) := by
  unfold streamSchedulerFCFS Noted
  dsimp only
  split
  · simp
  · simp [note_last]

lemma noted_pathStreamSchedulerManual :
    Noted peek st (st.pathStreamSchedulerManual call peek) := by
  unfold pathStreamSchedulerManual Noted
  dsimp only
  split
  · simp
  · simp [note_last]

lemma noted_ssGetNextSid {scheduler : StreamScheduler} (other : scheduler ≠ .pathMapToPath) :
    Noted peek st (st.ssGetNextSid sendStreams call peek scheduler) := by
  cases scheduler with
  | roundRobin => exact st.noted_streamScheduler
  | roundRobinPacket => exact st.noted_streamSchedulerRoundRobinPacket
  | randomSchedule => exact noted_streamSchedulerRandomPacket { st with ssNextStream := true }
  | randomSchedulePacket => exact st.noted_streamSchedulerRandomPacket
  | fairBandwith => exact noted_streamSchedulerFairBandwidthPacket { st with ssNextStream := true }
  | fairBandwithPacket => exact st.noted_streamSchedulerFairBandwidthPacket
  | priority => exact st.noted_streamSchedulerPriority
  | fcfs => exact st.noted_streamSchedulerFCFS
  | pathManual => exact st.noted_pathStreamSchedulerManual
  | pathMapToPath => exact absurd rfl other

lemma ssGetNextSid_mapToPath :
    (st.ssGetNextSid sendStreams call peek .pathMapToPath).2 = st := by
  simp only [ssGetNextSid, pathStreamSchedulerMapToPath]
  split <;> rfl

lemma ssGetNextSid_peek_last (scheduler : StreamScheduler) :
    (st.ssGetNextSid sendStreams call true scheduler).2.lastStreamScheduled =
      st.lastStreamScheduled := by
  by_cases other : scheduler = .pathMapToPath
  · rw [other, st.ssGetNextSid_mapToPath]
  · exact st.noted_ssGetNextSid other

lemma ssGetNextSid_last {scheduler : StreamScheduler} (other : scheduler ≠ .pathMapToPath)
    {sid : Fin outboundStreams}
    (chosen : (st.ssGetNextSid sendStreams call false scheduler).1 = some sid) :
    (st.ssGetNextSid sendStreams call false scheduler).2.lastStreamScheduled = sid := by
  have noted : Noted false st (st.ssGetNextSid sendStreams call false scheduler) :=
    st.noted_ssGetNextSid other
  rw [noted, chosen]
  rfl

end SchedulerState

/-! ## From messages of the application to DATA chunks -/

variable {outboundStreams : ℕ}

structure SendConfig where
  scheduler : StreamScheduler
  /-- A packet of the association, its IP header included, has at most this many bytes. -/
  assocPmtu : ℕ
  /-- There is room for data behind the headers. -/
  aboveHeaders : 48 < assocPmtu
  /-- It is the least of some MTUs, which are of type `int`. -/
  isInt : assocPmtu < 2 ^ 31
  padding : Bool
  header : UInt32
  sackNow : Bool

structure SendState (outboundStreams : ℕ) where
  sendStreams : Fin outboundStreams → SCTPSendStream outboundStreams
  schedulerState : SchedulerState outboundStreams
  lastMsgWasFragment : Bool
  nextTSN : UInt32
  msgNum : UInt32

structure SCTPSendCommand where
  sid : ℕ
  sendUnordered : UInt32
  ppid : UInt32
  sackNow : Bool
  prMethod : UInt32
  prValue : ℕ
  primary : Bool
  /-- `none` for the unspecified address. -/
  remoteAddr : Option ℕ

/-- How full the send buffer is. -/
structure SendBuffer where
  appSendAllowed : Bool
  sendQueueLimit : ℕ
  queuedDroppableBytes : ℕ
  sendBuffer : ℕ

/-- What is kept of a DATA chunk that is sent. The length is in bits. -/
structure SCTPOutboundVariables (outboundStreams : ℕ) where
  initialDestination : ℕ
  bbit : Bool
  ebit : Bool
  ibit : Bool
  enqueuingTime : ℕ
  expiryTime : ℕ
  ppid : UInt32
  len : UInt32
  sid : Fin outboundStreams
  allowedNoRetransmissions : UInt32
  booksize : UInt32
  prMethod : UInt32
  priority : UInt32
  strReset : Bool
  userData : SCTPSimpleMessage
  ssn : UInt16
  ordered : Bool
  tsn : UInt32

namespace SendState

variable (st : SendState outboundStreams)

/-- `getStreamQ()` and `getUnorderedStreamQ()` of a stream. -/
def queue (sid : Fin outboundStreams) (ordered : Bool) : List (SCTPDataMsg outboundStreams) :=
  if ordered then (st.sendStreams sid).streamQ else (st.sendStreams sid).uStreamQ

def setQueue (sid : Fin outboundStreams) (ordered : Bool)
    (msgs : List (SCTPDataMsg outboundStreams)) : SendState outboundStreams :=
  { st with
    sendStreams := Function.update st.sendStreams sid
      (if ordered then { st.sendStreams sid with streamQ := msgs }
        else { st.sendStreams sid with uStreamQ := msgs }) }

end SendState

/-- `ADD_PADDING`, of an `int64`. -/
def padTo4 (bytes : ℕ) : ℕ := (bytes + 3) / 4 * 4

/-- The booksize of a message with these bytes. -/
def booksizeOf (cfg : SendConfig) (bytes : ℕ) : UInt32 :=
  if cfg.padding then .ofNat (padTo4 (bytes + cfg.header.toNat))
  else .ofNat (bytes + cfg.header.toNat)

/-- The message that `process_SEND` makes of the application's packet. -/
def newDataMsg (cfg : SendConfig) (st : SendState outboundStreams) (command : SCTPSendCommand)
    (sid : Fin outboundStreams) (remoteAddr now : ℕ) (smsg : SCTPSimpleMessage) :
    SCTPDataMsg outboundStreams where
  enqueuingTime := now
  expiryTime := if command.prMethod = 1 && 0 < command.prValue then now + command.prValue else 0
  ppid := command.ppid
  initialDestination :=
    if command.primary then some (command.remoteAddr.getD remoteAddr) else none
  msgNum := st.msgNum + 1
  sid := sid
  ordered := command.sendUnordered ≠ 1
  booksize := booksizeOf cfg smsg.byteLength
  rtx := if command.prMethod = 2 then .ofNat command.prValue else 0
  prMethod := command.prMethod
  priority := if command.prMethod = 3 then .ofNat command.prValue else 0
  sackNow := command.sackNow
  encapsulated := smsg

/-- Is the message accepted? The search for one to drop only ends when the new one has a higher
priority value than all others. -/
def acceptsMsg (buffer : SendBuffer) (msg : SCTPDataMsg outboundStreams)
    (queue : List (SCTPDataMsg outboundStreams)) : Except SimError Bool :=
  let lowestPriority :=
    queue.foldl (fun lowest msg => if lowest < msg.priority then msg.priority else lowest) 0
  if buffer.appSendAllowed && 0 < buffer.sendQueueLimit && 0 < buffer.queuedDroppableBytes &&
      buffer.sendQueueLimit ≤ buffer.sendBuffer then
    if lowestPriority < msg.priority then .ok false else .error .nonTermination
  else .ok true

/-- `process_SEND` in the established state: the message that it puts into a stream, if any. -/
def processSend (cfg : SendConfig) (command : SCTPSendCommand) (smsg : SCTPSimpleMessage)
    (remoteAddr now : ℕ) (buffer : SendBuffer) (st : SendState outboundStreams) :
    Except SimError (Option (SCTPDataMsg outboundStreams) × SendState outboundStreams) :=
  if found : command.sid < outboundStreams then do
    let msg := newDataMsg cfg st command ⟨command.sid, found⟩ remoteAddr now smsg
    let queue := st.queue msg.sid msg.ordered
    if ← acceptsMsg buffer msg queue then
      return (some msg,
        { st.setQueue msg.sid msg.ordered (queue ++ [msg]) with msgNum := st.msgNum + 1 })
    else return (none, st)
  else .error (.runtimeError "Stream with id not found")

/-! ## Fragments -/

/-- The length of the message's DATA chunk with its padding, as an `int32`. -/
def chunkBytes (msg : SCTPDataMsg outboundStreams) : ℤ :=
  int32 (.ofNat (padTo4 (msg.encapsulated.byteLength + 16)))

/-- Is the chunk too long for a packet, behind the IP header and the common header? -/
def needsFragmentation (cfg : SendConfig) (msg : SCTPDataMsg outboundStreams) : Bool :=
  (cfg.assocPmtu : ℤ) - 20 - 12 < chunkBytes msg

/-- The bytes of a message that a fragment has room for. -/
def SendConfig.msgbytes (cfg : SendConfig) : ℕ := cfg.assocPmtu - 20 - 12 - 16

/-- The part of the packet that a fragment carries. A packet without so much data is only given the
length. -/
def SCTPSimpleMessage.part (smsg : SCTPSimpleMessage) (offset size : ℕ) : SCTPSimpleMessage :=
  if offset + size ≤ smsg.data.length then
    { smsg with
      byteLength := size
      dataLen := .ofNat size
      data := (smsg.data.drop offset).take size }
  else { smsg with byteLength := size }

/-- The fragment with `size` bytes of the message. -/
def fragmentOf (cfg : SendConfig) (queued : SCTPDataMsg outboundStreams) (offset size : ℕ)
    (sackNow : Bool) : SCTPDataMsg outboundStreams :=
  { queued with
    bBit := offset = 0
    eBit := offset + size = queued.encapsulated.byteLength
    sackNow := sackNow || queued.sackNow
    fragment := true
    booksize := booksizeOf cfg size
    encapsulated := queued.encapsulated.part offset size }

/-- The loop of the fragmentation from an offset on: every round takes at least a byte. -/
def fragmentLoop (cfg : SendConfig) (queued : SCTPDataMsg outboundStreams)
    (fullSizedPackets : UInt16) : ℕ → ℕ → UInt16 → List (SCTPDataMsg outboundStreams)
  | 0, _, _ => []
  | rounds + 1, offset, pcounter =>
      let size := min cfg.msgbytes (queued.encapsulated.byteLength - offset)
      let last : Bool := offset + size = queued.encapsulated.byteLength
      let fragment := fragmentOf cfg queued offset size
        ((pcounter + 1 = fullSizedPackets || last) && cfg.sackNow)
      if last then [fragment]
      else fragment :: fragmentLoop cfg queued fullSizedPackets rounds (offset + size) (pcounter + 1)

/-- The fragments of a message. The offset is a `uint32`, so the end of a longer message is never
met. -/
def fragments (cfg : SendConfig) (queued : SCTPDataMsg outboundStreams) :
    Except SimError (List (SCTPDataMsg outboundStreams)) :=
  if 2 ^ 32 ≤ queued.encapsulated.byteLength then .error .nonTermination
  else
    let fullSizedPackets : UInt16 := .ofNat (queued.encapsulated.byteLength / cfg.msgbytes)
    .ok (fragmentLoop cfg queued fullSizedPackets queued.encapsulated.byteLength 0 0)

/-- The fragments take the place of a message at the front that is too long. -/
def cutFront (cfg : SendConfig) :
    List (SCTPDataMsg outboundStreams) → Except SimError (List (SCTPDataMsg outboundStreams) × Bool)
  | [] => .ok ([], false)
  | msg :: rest =>
      if needsFragmentation cfg msg then do
        let cut ← fragments cfg msg
        return (cut ++ rest, true)
      else .ok (msg :: rest, false)

/-- The front of the stream's queue, when it fits; first it is cut into fragments when it is too long
for a packet. -/
def takeFront (cfg : SendConfig) (sid : Fin outboundStreams) (ordered : Bool)
    (availableSpace availableCwnd : ℤ) (st : SendState outboundStreams) :
    Except SimError (Option (SCTPDataMsg outboundStreams) × SendState outboundStreams) := do
  let (queue, cut) ← cutFront cfg (st.queue sid ordered)
  match queue with
  | [] => .error .nullPointer
  | msg :: rest =>
      if chunkBytes msg ≤ availableSpace && int32 msg.booksize ≤ availableCwnd then
        if !msg.fragment then
          return (some { msg with bBit := true, eBit := true },
            { st.setQueue sid ordered rest with lastMsgWasFragment := false })
        else
          return (some msg, { st.setQueue sid ordered rest with lastMsgWasFragment := !msg.eBit })
      else
        return (none, { st.setQueue sid ordered queue with
          lastMsgWasFragment := st.lastMsgWasFragment || cut })

section

variable [NeZero outboundStreams] (cfg : SendConfig) (call : SchedulerCall)
variable (st : SendState outboundStreams)

/-- The stream that is next: the last one as long as a fragmented message is not finished. -/
def nextStream (peek : Bool) : Option (Fin outboundStreams) × SendState outboundStreams :=
  if st.lastMsgWasFragment then (some st.schedulerState.lastStreamScheduled, st)
  else
    let (sid, schedulerState) :=
      st.schedulerState.ssGetNextSid st.sendStreams call peek cfg.scheduler
    (sid, { st with schedulerState := schedulerState })

/-- Unordered messages are taken first. -/
def dequeueOutboundDataMsg (availableSpace availableCwnd : ℤ) :
    Except SimError (Option (SCTPDataMsg outboundStreams) × SendState outboundStreams) :=
  match nextStream cfg call st false with
  | (none, st) => .ok (none, st)
  | (some sid, st) =>
      if st.queue sid false ≠ [] then takeFront cfg sid false availableSpace availableCwnd st
      else if st.queue sid true ≠ [] then takeFront cfg sid true availableSpace availableCwnd st
      else .ok (none, st)

def nextChunkFitsIntoPacket (bytes : ℤ) : Bool × SendState outboundStreams :=
  match nextStream cfg call st true with
  | (none, st) => (false, st)
  | (some sid, st) =>
      match (st.queue sid false ++ st.queue sid true).head? with
      | none => (false, st)
      | some msg =>
          (if needsFragmentation cfg msg then (cfg.assocPmtu : ℤ) - 20 - 12 - 16 ≤ bytes
            else chunkBytes msg ≤ bytes, st)

end

/-- The stream sequence number after the one that was used. -/
def nextSsn (ssn : UInt16) : UInt16 := if 65535 < ssn.toNat + 1 then 0 else ssn + 1

/-- The chunk of a message, with the stream's next SSN and the TSN. -/
def chunkOf (msg : SCTPDataMsg outboundStreams) (path : ℕ) (ssn : UInt16) (tsn : UInt32) :
    SCTPOutboundVariables outboundStreams where
  initialDestination := path
  bbit := msg.bBit
  ebit := msg.eBit
  ibit := msg.sackNow
  enqueuingTime := msg.enqueuingTime
  expiryTime := msg.expiryTime
  ppid := msg.ppid
  len := .ofNat (8 * msg.encapsulated.byteLength)
  sid := msg.sid
  allowedNoRetransmissions := msg.rtx
  booksize := msg.booksize
  prMethod := msg.prMethod
  priority := msg.priority
  strReset := msg.strReset
  userData := msg.encapsulated
  ssn := if msg.ordered then ssn else 0
  ordered := msg.ordered
  tsn := tsn

/-- `makeDataVarFromDataMsg`, and the TSN that `sendOnPath` gives to the chunk. -/
def makeDataVarFromDataMsg (msg : SCTPDataMsg outboundStreams) (path : ℕ)
    (st : SendState outboundStreams) :
    SCTPOutboundVariables outboundStreams × SendState outboundStreams :=
  let stream := st.sendStreams msg.sid
  (chunkOf msg path stream.nextStreamSeqNum st.nextTSN,
   { st with
     sendStreams :=
       if msg.ordered && msg.eBit then
         Function.update st.sendStreams msg.sid
           { stream with nextStreamSeqNum := nextSsn stream.nextStreamSeqNum }
       else st.sendStreams
     schedulerState := { st.schedulerState with ssLastDataChunkSizeSet := true }
     nextTSN := st.nextTSN + 1 })

inductive SendCall where
  | send (command : SCTPSendCommand) (smsg : SCTPSimpleMessage) (remoteAddr now : ℕ)
      (buffer : SendBuffer)
  | dequeue (call : SchedulerCall) (availableSpace availableCwnd : ℤ)
  | peek (call : SchedulerCall) (bytes : ℤ)
  /-- A packet with DATA chunks is sent. -/
  | packetSent
  | setStreamPriority (sid : ℕ) (priority : UInt32)

/-- What a call gives: a message that is in a stream now, or a chunk that is transmitted for the first
time. -/
structure SendOutcome (outboundStreams : ℕ) where
  state : SendState outboundStreams
  sent : Option (SCTPDataMsg outboundStreams) := none
  chunk : Option (SCTPOutboundVariables outboundStreams) := none

variable [NeZero outboundStreams]

/-- A message is dequeued and its chunk made. -/
def dequeueChunk (cfg : SendConfig) (call : SchedulerCall) (availableSpace availableCwnd : ℤ)
    (st : SendState outboundStreams) : Except SimError (SendOutcome outboundStreams) := do
  match ← dequeueOutboundDataMsg cfg call st availableSpace availableCwnd with
  | (none, st) => return { state := st }
  | (some msg, st) =>
      let (chunk, st) := makeDataVarFromDataMsg msg call.path st
      return { state := st, chunk := some chunk }

def SendState.perform (cfg : SendConfig) (st : SendState outboundStreams) :
    SendCall → Except SimError (SendOutcome outboundStreams)
  | .send command smsg remoteAddr now buffer => do
      let (sent, st) ← processSend cfg command smsg remoteAddr now buffer st
      return { state := st, sent := sent }
  | .dequeue call availableSpace availableCwnd =>
      dequeueChunk cfg call availableSpace availableCwnd st
  | .peek call bytes => .ok { state := (nextChunkFitsIntoPacket cfg call st bytes).2 }
  | .packetSent =>
      .ok { state := { st with schedulerState := { st.schedulerState with ssNextStream := true } } }
  | .setStreamPriority sid priority =>
      .ok { state := { st with schedulerState := { st.schedulerState with
        ssPriorityMap := fun s =>
          if s.val = sid then priority else st.schedulerState.ssPriorityMap s } } }

def SendState.initial (tsn : UInt32) : SendState outboundStreams where
  sendStreams := fun _ => {}
  schedulerState :=
    { lastStreamScheduled := 0
      ssNextStream := false
      ssLastDataChunkSizeSet := false
      ssPriorityMap := fun _ => 0
      ssFairBandwidthMap := none
      ssStreamToPathMap := none }
  lastMsgWasFragment := false
  nextTSN := tsn
  msgNum := 0

/-- The runs from `tsn` whose calls may be made where they are, with the messages sent and the
chunks first transmitted, in order. -/
inductive SendReached (cfg : SendConfig) (tsn : UInt32)
    (may : SendState outboundStreams → SendCall → Prop) :
    List (SCTPDataMsg outboundStreams) → List (SCTPOutboundVariables outboundStreams) →
      SendState outboundStreams → Prop where
  | initial : SendReached cfg tsn may [] [] (.initial tsn)
  | perform {sent : List (SCTPDataMsg outboundStreams)}
      {chunks : List (SCTPOutboundVariables outboundStreams)} {st : SendState outboundStreams}
      {call : SendCall} {out : SendOutcome outboundStreams}
      (reached : SendReached cfg tsn may sent chunks st) (allowed : may st call)
      (run : st.perform cfg call = .ok out) :
      SendReached cfg tsn may (sent ++ out.sent.toList) (chunks ++ out.chunk.toList) out.state

end Inet.Sctp
