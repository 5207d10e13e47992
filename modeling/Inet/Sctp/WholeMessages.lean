import Inet.Sctp.SendService

/-!
# First transmissions, message by message

Along a run that keeps the fragments of a message together (`Keeps`) the chunks made of what the
service hands out are a sequence of whole messages (`Together`).
-/

namespace Inet.Sctp

open List

variable {n : ℕ} {cfg : SendConfig}

def SendState.ssns (st : SendState outboundStreams) : Fin outboundStreams → UInt16 :=
  fun sid => (st.sendStreams sid).nextStreamSeqNum

lemma SendState.ssns_setQueue (st : SendState n) (sid : Fin n)
    (ordered : Bool) (msgs : List (SCTPDataMsg n)) :
    (st.setQueue sid ordered msgs).ssns = st.ssns := by
  funext s
  by_cases same : s = sid
  · subst same
    cases ordered <;> simp [SendState.ssns, SendState.setQueue]
  · simp [SendState.ssns, SendState.setQueue, Function.update_of_ne same]

section

variable {st st' : SendState n} {space cwnd : ℤ}
variable {out : Option (SCTPDataMsg n)}

lemma takeFront_numbers {sid : Fin n} {ordered : Bool}
    (run : takeFront cfg sid ordered space cwnd st = .ok (out, st')) :
    st'.ssns = st.ssns ∧ st'.nextTSN = st.nextTSN := by
  obtain ⟨queue, cut, -, here⟩ := takeFront_cases run
  rcases here with ⟨-, rfl⟩ | ⟨msg, rest, -, -, rfl⟩
  · exact ⟨st.ssns_setQueue sid ordered queue, rfl⟩
  · exact ⟨st.ssns_setQueue sid ordered rest, rfl⟩

lemma nextStream_numbers [NeZero n] (cfg : SendConfig) (call : SchedulerCall)
    (st : SendState n) (peek : Bool) :
    (nextStream cfg call st peek).2.ssns = st.ssns ∧
      (nextStream cfg call st peek).2.nextTSN = st.nextTSN := by
  unfold nextStream
  split <;> exact ⟨rfl, rfl⟩

lemma dequeueOutboundDataMsg_numbers [NeZero n] {call : SchedulerCall}
    (run : dequeueOutboundDataMsg cfg call st space cwnd = .ok (out, st')) :
    st'.ssns = st.ssns ∧ st'.nextTSN = st.nextTSN := by
  unfold dequeueOutboundDataMsg at run
  have chosen := nextStream_numbers cfg call st false
  obtain ⟨sid, st₁, made⟩ : ∃ sid st₁, nextStream cfg call st false = (sid, st₁) := ⟨_, _, rfl⟩
  rw [made] at run chosen
  cases sid with
  | none =>
    cases run
    exact chosen
  | some sid =>
    dsimp only at run chosen
    split at run
    · exact ⟨(takeFront_numbers run).1.trans chosen.1, (takeFront_numbers run).2.trans chosen.2⟩
    · split at run
      · exact ⟨(takeFront_numbers run).1.trans chosen.1, (takeFront_numbers run).2.trans chosen.2⟩
      · cases run
        exact chosen

lemma makeDataVarFromDataMsg_stream (msg : SCTPDataMsg n) (path : ℕ)
    (st : SendState n) (sid : Fin n) :
    (makeDataVarFromDataMsg msg path st).2.sendStreams sid =
      { st.sendStreams sid with nextStreamSeqNum := ssnsAfter st.ssns msg sid } := by
  by_cases ends : (msg.ordered && msg.eBit) = true
  · by_cases same : sid = msg.sid
    · subst same
      simp only [makeDataVarFromDataMsg, ssnsAfter, ends, if_true, Function.update_self]
      rfl
    · simp only [makeDataVarFromDataMsg, ssnsAfter, ends, if_true, Function.update_of_ne same]
      rfl
  · simp only [makeDataVarFromDataMsg, ssnsAfter, ends, Bool.false_eq_true, if_false]
    rfl

lemma makeDataVarFromDataMsg_ssns (msg : SCTPDataMsg n) (path : ℕ) (st : SendState n) :
    (makeDataVarFromDataMsg msg path st).2.ssns = ssnsAfter st.ssns msg := by
  funext sid
  simp only [SendState.ssns, makeDataVarFromDataMsg_stream]

lemma makeDataVarFromDataMsg_queue (msg : SCTPDataMsg n) (path : ℕ)
    (st : SendState n) (sid : Fin n) (ordered : Bool) :
    (makeDataVarFromDataMsg msg path st).2.queue sid ordered = st.queue sid ordered := by
  simp only [SendState.queue, makeDataVarFromDataMsg_stream]

end

/-! ## Runs -/

/-- The messages that were sent on the stream, ordered or not. -/
def sentOn (sent : List (SCTPDataMsg outboundStreams)) (k : Fin outboundStreams × Bool) :
    List (SCTPDataMsg outboundStreams) :=
  sent.filter fun msg => (msg.sid, msg.ordered) = k

/-- The state simulates a service that was given the messages, and the chunks were made of what that
handed out. -/
structure Sending (cfg : SendConfig) (tsn : UInt32) (sent : List (SCTPDataMsg outboundStreams))
    (chunks : List (SCTPOutboundVariables outboundStreams)) (st : SendState outboundStreams)
    (service : MsgService outboundStreams) : Prop where
  sim : Simulates cfg st service
  served : Service.Served (piecesOf cfg) (sentOn sent) service
  waiting : ∀ msg ∈ sent, Waiting cfg (msg.sid, msg.ordered) msg
  chunked : Chunked (fun _ => 0) tsn service.output chunks st.ssns st.nextTSN

lemma Sending.initial [NeZero n] (tsn : UInt32) :
    Sending cfg tsn [] [] (.initial tsn : SendState n) .start where
  sim :=
    { waiting := fun _ _ mem => absurd mem not_mem_nil
      idle := fun k _ => by
        left
        obtain ⟨sid, ordered⟩ := k
        cases ordered <;> rfl
      busy := fun _ _ here => by cases here
      fragment := fun _ _ here => by cases here
      alone := fun _ _ here => by cases here
      scheduled := fun _ _ _ here => by cases here }
  served := .start
  waiting := fun _ mem => absurd mem not_mem_nil
  chunked := .nil

section

variable {tsn : UInt32} {sent : List (SCTPDataMsg n)}
variable {chunks : List (SCTPOutboundVariables n)} {st st' : SendState n}
variable {service : MsgService n}

variable (sending : Sending cfg tsn sent chunks st service)
include sending

lemma Sending.congr (sim : Simulates cfg st' service) (ssns : st'.ssns = st.ssns)
    (next : st'.nextTSN = st.nextTSN) : Sending cfg tsn sent chunks st' service where
  sim := sim
  served := sending.served
  waiting := sending.waiting
  chunked := by
    rw [ssns, next]
    exact sending.chunked

lemma Sending.processSend {command : SCTPSendCommand} {smsg : SCTPSimpleMessage}
    {remoteAddr now : ℕ} {buffer : SendBuffer} {out : Option (SCTPDataMsg n)}
    (sendable : Sendable cfg smsg) (apart : command.sendUnordered = 1 →
      ∀ sid : Fin n, sid.val = command.sid → begun (st.queue sid true) = false)
    (run : Inet.Sctp.processSend cfg command smsg remoteAddr now buffer st = .ok (out, st')) :
    ∃ service', Sending cfg tsn (sent ++ out.toList) chunks st' service' := by
  unfold Inet.Sctp.processSend at run
  split at run
  · rename_i found
    obtain ⟨accepted, -, run⟩ := Except.bind_eq_ok run
    cases accepted with
    | false =>
      cases run
      rw [Option.toList_none, append_nil]
      exact ⟨service, sending⟩
    | true =>
      cases run
      generalize made : newDataMsg cfg st command ⟨command.sid, found⟩ remoteAddr now smsg = msg
      have new : Waiting cfg (msg.sid, msg.ordered) msg := by
        subst made
        exact ⟨rfl, rfl, rfl, sendable⟩
      refine ⟨service.submit (msg.sid, msg.ordered) msg, ?_, ?_, ?_, ?_⟩
      · have sim := sending.sim.submit (k := (msg.sid, msg.ordered)) new ?_
        · exact sim.congr (fun _ _ => rfl) rfl fun _ => rfl
        · intro unordered left busy
          obtain ⟨started, -⟩ := sending.sim.begun_of_busy busy
          have one : command.sendUnordered = 1 := by
            subst made
            simpa [newDataMsg] using unordered
          have apart' := apart one msg.sid (by subst made; rfl)
          rw [apart'] at started
          cases started
      · have served := sending.served.submit (msg.sid, msg.ordered) msg
        convert served using 1
        funext k
        by_cases same : k = (msg.sid, msg.ordered)
        · subst same
          simp [sentOn, filter_append]
        · have other : ¬ (msg.sid, msg.ordered) = k := fun eq => same eq.symm
          simp [sentOn, filter_append, Function.update_of_ne same, other]
      · intro m mem
        rcases mem_append.mp mem with old | here
        · exact sending.waiting m old
        · have eq : m = msg := by simpa using here
          exact eq ▸ new
      · have ssns := st.ssns_setQueue msg.sid msg.ordered (st.queue msg.sid msg.ordered ++ [msg])
        have chunked := sending.chunked
        rw [← ssns] at chunked
        exact chunked
  · cases run

variable [NeZero n] {call : SchedulerCall} {space cwnd : ℤ}

lemma Sending.dequeueChunk {out : SendOutcome n}
    (keeps : cfg.scheduler = .pathMapToPath → ∀ sid ordered, begun (st.queue sid ordered) = true →
        sid = st.schedulerState.lastStreamScheduled ∨
          (st.sendStreams st.schedulerState.lastStreamScheduled).hasData = false)
    (run : Inet.Sctp.dequeueChunk cfg call space cwnd st = .ok out) :
    ∃ service', Sending cfg tsn (sent ++ out.sent.toList) (chunks ++ out.chunk.toList) out.state
      service' := by
  obtain ⟨⟨taken', st₁⟩, took, run⟩ := Except.bind_eq_ok run
  obtain ⟨ssns, next⟩ := dequeueOutboundDataMsg_numbers took
  rcases sending.sim.dequeue keeps took with ⟨rfl, sim⟩ | ⟨piece, service', rfl, sim, output, serves⟩
  · cases run
    refine ⟨service, ?_⟩
    simpa using sending.congr sim ssns next
  · cases run
    have queues := makeDataVarFromDataMsg_queue piece call.path st₁
    refine ⟨service', sim.congr queues rfl fun _ => rfl, ?_, ?_, ?_⟩
    · simpa using serves _ sending.served
    · simpa using sending.waiting
    · have before := sending.chunked
      rw [← ssns, ← next] at before
      have one : Chunked st₁.ssns st₁.nextTSN [piece]
          [(makeDataVarFromDataMsg piece call.path st₁).1]
          (makeDataVarFromDataMsg piece call.path st₁).2.ssns
          (makeDataVarFromDataMsg piece call.path st₁).2.nextTSN := by
        rw [makeDataVarFromDataMsg_ssns]
        exact .cons call.path .nil
      rw [output]
      exact before.append one

lemma Sending.perform {call : SendCall} {out : SendOutcome n} (keeps : Keeps cfg st call)
    (run : st.perform cfg call = .ok out) :
    ∃ service', Sending cfg tsn (sent ++ out.sent.toList) (chunks ++ out.chunk.toList) out.state
      service' := by
  cases call with
  | send command smsg remoteAddr now buffer =>
    obtain ⟨⟨sent', st'⟩, ran, run⟩ := Except.bind_eq_ok run
    cases run
    obtain ⟨service', after⟩ := sending.processSend keeps.1 keeps.2 ran
    refine ⟨service', ?_⟩
    simpa using after
  | dequeue call space cwnd => exact sending.dequeueChunk keeps run
  | peek call bytes =>
    cases run
    refine ⟨service, ?_⟩
    obtain ⟨ssns, next⟩ := nextStream_numbers cfg call st true
    rw [← nextChunkFitsIntoPacket_state cfg call st bytes] at ssns next
    simpa using sending.congr (sending.sim.peek bytes) ssns next
  | packetSent =>
    cases run
    refine ⟨service, ?_⟩
    have sim : Simulates cfg { st with
        schedulerState := { st.schedulerState with ssNextStream := true } } service :=
      sending.sim.congr (fun _ _ => rfl) rfl fun _ => rfl
    simpa using sending.congr sim rfl rfl
  | setStreamPriority sid priority =>
    cases run
    refine ⟨service, ?_⟩
    have sim : Simulates cfg { st with
        schedulerState := { st.schedulerState with
          ssPriorityMap := fun s =>
            if s.val = sid then priority else st.schedulerState.ssPriorityMap s } } service :=
      sending.sim.congr (fun _ _ => rfl) rfl fun _ => rfl
    simpa using sending.congr sim rfl rfl

omit sending

lemma sending_of_reached (reached : SendReached cfg tsn (Keeps cfg) sent chunks st) :
    ∃ service, Sending cfg tsn sent chunks st service := by
  induction reached with
  | initial => exact ⟨.start, .initial tsn⟩
  | perform _ allowed run ih =>
    obtain ⟨service, sending⟩ := ih
    exact sending.perform allowed run

end

/-! ## Whole messages -/

/-- The chunks, in the order of their first transmission, have consecutive TSNs and are those of one
message after the other, with `more` still to come. On every stream the messages, ordered or not,
are transmitted in the order in which they were sent, each once. -/
def Together (cfg : SendConfig) (tsn : UInt32) (sent : List (SCTPDataMsg outboundStreams))
    (chunks : List (SCTPOutboundVariables outboundStreams)) : Prop :=
  (∀ (i : ℕ) (_ : i < chunks.length), chunks[i].tsn = tsn + .ofNat i) ∧
    ∃ (messages : List (SCTPDataMsg outboundStreams))
      (groups : List (List (SCTPOutboundVariables outboundStreams)))
      (more : List (SCTPOutboundVariables outboundStreams)),
      List.Forall₂ (Carries cfg) messages groups ∧ chunks ++ more = groups.flatten ∧
        (∀ group, groups.getLast? = some group → more.length < group.length) ∧
        ∀ k, sentOn messages k <+: sentOn sent k

lemma Carries.length_pos {msg : SCTPDataMsg n}
    {chunks : List (SCTPOutboundVariables n)} (carries : Carries cfg msg chunks) :
    0 < chunks.length := by
  have begins := congrArg List.length carries.begins
  simp only [length_map, length_cons, length_replicate] at begins
  omega

lemma Chunked.groups {ssns ssns' : Fin n → UInt16} {tsn tsn' : UInt32}
    {messages : List (SCTPDataMsg n)} {chunks : List (SCTPOutboundVariables n)}
    (waiting : ∀ msg ∈ messages, ∃ k, Waiting cfg k msg)
    (all : Chunked ssns tsn (messages.flatMap (piecesOf cfg)) chunks ssns' tsn') :
    ∃ groups, List.Forall₂ (Carries cfg) messages groups ∧ chunks = groups.flatten ∧
      groups.map List.length = messages.map fun msg => (piecesOf cfg msg).length := by
  induction messages generalizing ssns tsn chunks with
  | nil =>
    cases all
    exact ⟨[], .nil, rfl, rfl⟩
  | cons msg messages ih =>
    obtain ⟨here, later, ssns₁, tsn₁, rfl, first, rest⟩ := all.split
    obtain ⟨k, waits⟩ := waiting msg mem_cons_self
    obtain ⟨pieces, fits⟩ := pieces_entries waits.sendable waits.whole
    have carries : Carries cfg msg here := first.carries pieces fits waits.sendable.bits
    obtain ⟨groups, related, rfl, lengths⟩ :=
      ih (fun m mem => waiting m (mem_cons_of_mem _ mem)) rest
    refine ⟨here :: groups, .cons carries related, rfl, ?_⟩
    rw [map_cons, map_cons, lengths, first.length_eq]

lemma Sending.together {tsn : UInt32} {sent : List (SCTPDataMsg n)}
    {chunks : List (SCTPOutboundVariables n)} {st : SendState n}
    {service : MsgService n} (sending : Sending cfg tsn sent chunks st service) :
    Together cfg tsn sent chunks := by
  refine ⟨sending.chunked.tsn_eq, ?_⟩
  have started_at : ∀ k job, (k, job) ∈ service.started → job ∈ sentOn sent k := by
    intro k job mem
    rw [← sending.served.queue k]
    apply mem_append_left
    exact mem_map.mpr ⟨(k, job), mem_filter.mpr ⟨mem, by simp⟩, rfl⟩
  have key : ∀ k job, (k, job) ∈ service.started → (job.sid, job.ordered) = k := by
    intro k job mem
    simpa using (mem_filter.mp (started_at k job mem)).2
  obtain ⟨more, ssns', tsn', rest⟩ := Chunked.exists_chunks st.ssns st.nextTSN service.left
  have all := sending.chunked.append rest
  have output := sending.served.output
  rw [output, ← flatMap_map] at all
  obtain ⟨groups, related, flat, lengths⟩ := Chunked.groups (fun job mem => by
    obtain ⟨⟨k, job⟩, here, rfl⟩ := mem_map.mp mem
    exact ⟨_, sending.waiting job (mem_filter.mp (started_at k job here)).1⟩) all
  refine ⟨service.started.map Prod.snd, groups, more, related, flat, ?_, ?_⟩
  · intro group last
    rw [rest.length_eq]
    by_cases left : service.left = []
    · rw [left, length_nil]
      obtain ⟨i, lt, rfl⟩ := getElem_of_mem (mem_of_getLast? last)
      exact (related.get (related.length_eq ▸ lt) lt).length_pos
    · obtain ⟨k, job, at', shorter⟩ := sending.served.left_lt left
      have eq := congrArg List.getLast? lengths
      rw [getLast?_map, getLast?_map, getLast?_map, last, at'] at eq
      have same : group.length = (piecesOf cfg job).length := Option.some.inj eq
      omega
  · intro k
    have same : sentOn (service.started.map Prod.snd) k = service.startedAt k := by
      unfold sentOn Service.startedAt
      rw [filter_map]
      congr 1
      apply filter_congr
      intro e mem
      simp [key e.1 e.2 mem]
    rw [same, ← sending.served.queue k]
    exact prefix_append _ _

variable [NeZero n] {tsn : UInt32} {sent : List (SCTPDataMsg n)}
variable {chunks : List (SCTPOutboundVariables n)} {st : SendState n}

/-- When no call gets between the fragments of a message, what is transmitted for the first time are
whole messages, whatever the scheduler. -/
theorem fragments_together (reached : SendReached cfg tsn (Keeps cfg) sent chunks st) :
    Together cfg tsn sent chunks := by
  obtain ⟨service, sending⟩ := sending_of_reached reached
  exact sending.together

/-- Packets of 52 bytes have room for 4 bytes of data. -/
def smallPackets : SendConfig where
  scheduler := .roundRobin
  assocPmtu := 52
  aboveHeaders := by decide
  isInt := by decide
  padding := false
  header := 16
  sackNow := false

/-- The application sends some bytes on stream 0. -/
def sendBytes (sendUnordered : UInt32) (data : List UInt8) : SendCall :=
  .send ⟨0, sendUnordered, 0, false, 0, 0, true, none⟩
    ⟨data.length, .ofNat data.length, data, false⟩ 1 0 ⟨true, 0, 0, 0⟩

/-- A packet is filled, on path 1. -/
def takeOne : SendCall := .dequeue ⟨1, [⟨1, true⟩], 0, []⟩ 20 1000

/-- A message of six bytes is sent as two chunks. -/
theorem fragments_together_two :
    ∃ (sent : List (SCTPDataMsg 1)) (chunks : List (SCTPOutboundVariables 1)) (st : SendState 1),
      SendReached smallPackets 4294967295 (Keeps smallPackets) sent chunks st ∧
        chunks.map (fun chunk => (chunk.tsn, chunk.userData.data)) =
          [(4294967295, [1, 2, 3, 4]), (0, [5, 6])] ∧
        Together smallPackets 4294967295 sent chunks := by
  have sendable : Sendable smallPackets ⟨6, 6, [1, 2, 3, 4, 5, 6], false⟩ :=
    ⟨Or.inr rfl, by decide, by decide, Or.inr (by decide)⟩
  have reached : SendReached smallPackets 4294967295 (Keeps smallPackets) [] []
      (.initial 4294967295 : SendState 1) := .initial
  have may : Keeps smallPackets (.initial 4294967295 : SendState 1)
      (sendBytes 0 [1, 2, 3, 4, 5, 6]) :=
    ⟨sendable, fun impossible => absurd impossible (by decide)⟩
  have next : ∀ st : SendState 1, Keeps smallPackets st takeOne :=
    fun _ impossible => by cases impossible
  exact ⟨_, _, _, ((reached.perform may rfl).perform (next _) rfl).perform (next _) rfl, rfl,
    fragments_together (((reached.perform may rfl).perform (next _) rfl).perform (next _) rfl)⟩

omit [NeZero n] in
lemma not_together {first second : SCTPOutboundVariables n}
    {later : List (SCTPOutboundVariables n)} (going : first.ebit = false)
    (begins : second.bbit = true) : ¬ Together cfg tsn sent (first :: second :: later) := by
  rintro ⟨-, messages, groups, more, related, flat, -⟩
  cases related with
  | nil => cases flat
  | @cons msg group messages groups carries _ =>
    have first_bits := carries.begins
    have last_bits := carries.ends
    match group with
    | [] => cases first_bits
    | [chunk] =>
      obtain ⟨rfl, -⟩ := List.cons.inj flat
      have ends : [first.ebit] = [true] := last_bits
      rw [going] at ends
      cases ends
    | chunk :: chunk' :: group =>
      obtain ⟨-, flat⟩ := List.cons.inj flat
      obtain ⟨rfl, -⟩ := List.cons.inj flat
      have bits : second.bbit :: group.map (·.bbit) = List.replicate (group.length + 1) false :=
        (List.cons.inj first_bits).2
      rw [begins] at bits
      cases bits

/-- The loss of order without it: an unordered message gets between two fragments of an ordered one. -/
theorem fragments_interleaved :
    ∃ (sent : List (SCTPDataMsg 1)) (chunks : List (SCTPOutboundVariables 1)) (st : SendState 1),
      SendReached smallPackets 7 (fun _ _ => True) sent chunks st ∧
        chunks.map (fun chunk => (chunk.tsn, chunk.ordered, chunk.userData.data)) =
          [(7, true, [1, 2, 3, 4]), (8, false, [9]), (9, true, [5, 6])] ∧
        ¬ Together smallPackets 7 sent chunks := by
  have reached : SendReached smallPackets 7 (fun _ _ => True) [] [] (.initial 7 : SendState 1) :=
    .initial
  have long := reached.perform trivial
    (rfl : SendState.perform _ _ (sendBytes 0 [1, 2, 3, 4, 5, 6]) = _)
  have begun := long.perform trivial (rfl : SendState.perform _ _ takeOne = _)
  have short := begun.perform trivial (rfl : SendState.perform _ _ (sendBytes 1 [9]) = _)
  have between := short.perform trivial (rfl : SendState.perform _ _ takeOne = _)
  have ended := between.perform trivial (rfl : SendState.perform _ _ takeOne = _)
  exact ⟨_, _, _, ended, rfl, not_together rfl rfl⟩

end Inet.Sctp
