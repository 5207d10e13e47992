import Inet.Sctp.Receiver

/-!
# Skipped messages

A FORWARD-TSN chunk is to make the receiver pass over the abandoned messages up to the new
cumulative TSN, and nothing else. That depends on which chunk of a stream the sender lists and on
what is in its queue.
-/

namespace Inet.Sctp

open OrderedMap

/-- An abandoned ordered message of a stream. -/
def Sender.Abandoned (snd : Sender) (sid ssn : UInt16) : Prop :=
  ∃ e ∈ snd.retransmissionQ.entries, e.2.hasBeenAbandoned = true ∧ e.2.ordered = true ∧
    e.2.sid = sid ∧ e.2.ssn = ssn

/-- The SSN is past all messages of the stream that are abandoned at or below the TSN. -/
def Sender.Past (snd : Sender) (newCumTsn : UInt32) (sid next : UInt16) : Prop :=
  ∀ e ∈ snd.retransmissionQ.entries, e.2.hasBeenAbandoned = true → e.2.ordered = true →
    e.2.sid = sid → tsnLe e.2.tsn newCumTsn = true → ssnGt next e.2.ssn = true

/-- Only abandoned messages lie from the one SSN up to the other. -/
def Sender.OnlyAbandoned (snd : Sender) (sid expected next : UInt16) : Prop :=
  ∀ i < (next - expected).toNat, snd.Abandoned sid (expected + UInt16.ofNat i)

/-- `processDataArrived` takes a chunk with the TSN for one that it has got. -/
def Receiver.counts (st : Receiver) (tsn : UInt32) : Bool :=
  tsnLe tsn st.gapList.cumAckTSN || st.gapList.tsnInGapList tsn

/-- What a FORWARD-TSN chunk is to do. -/
structure SkipsAbandoned (snd : Sender) (newCumTsn : UInt32) (st st' : Receiver) : Prop where
  past : ∀ sid : UInt16, sid.toNat < st.params.inboundStreams →
    snd.Past newCumTsn sid (st'.receiveStreams sid.toNat).expectedSSN
  only : ∀ sid : UInt16, sid.toNat < st.params.inboundStreams →
    snd.OnlyAbandoned sid (st.receiveStreams sid.toNat).expectedSSN
      (st'.receiveStreams sid.toNat).expectedSSN
  chunks : ∀ e ∈ snd.retransmissionQ.entries, e.2.hasBeenAbandoned = false →
    st.counts e.1 = false → st'.counts e.1 = false

/-- The last chunk of the stream for the FORWARD-TSN chunk, in the order of the numbers. -/
def Sender.lastReported (snd : Sender) (pid : ℕ) (newCumTsn : UInt32) (sid : UInt16) :
    Option SCTPSentVariables :=
  ((snd.retransmissionQ.entries.map Prod.snd).filter fun chunk =>
    Sender.reports pid newCumTsn chunk && chunk.sid = sid).getLast?

/-- The entry of the FORWARD-TSN chunk for the stream skips up to some SSN. -/
def SCTPSentVariables.listed (chunk : SCTPSentVariables) : Prop :=
  chunk.ordered = true ∧ chunk.ssn ≠ 65535

/-- The state of a stream on both sides is such that the right messages are skipped. -/
structure StreamReady (snd : Sender) (pid : ℕ) (newCumTsn : UInt32) (sid : UInt16)
    (rStream : SCTPReceiveStream) : Prop where
  /-- Nothing is listed for the stream, and nothing has to be. -/
  unlisted : (∀ chunk, snd.lastReported pid newCumTsn sid = some chunk → ¬ chunk.listed) →
    snd.Past newCumTsn sid rStream.expectedSSN
  /-- The first chunk in the queue is the one to go on with. -/
  queued : ∀ chunk key head, snd.lastReported pid newCumTsn sid = some chunk → chunk.listed →
    rStream.orderedQ.first? = some (key, head) →
    snd.Past newCumTsn sid head.ssn ∧ snd.OnlyAbandoned sid rStream.expectedSSN head.ssn
  /-- With an empty queue it goes on behind the message that is listed. -/
  ahead : ∀ chunk, snd.lastReported pid newCumTsn sid = some chunk → chunk.listed →
    rStream.orderedQ.first? = none → rStream.expectedStreamSeqNum ≤ int16 chunk.ssn →
    snd.Past newCumTsn sid (chunk.ssn + 1) ∧
      snd.OnlyAbandoned sid rStream.expectedSSN (chunk.ssn + 1)
  /-- A number that is not greater, as a signed one, changes nothing. -/
  behind : ∀ chunk, snd.lastReported pid newCumTsn sid = some chunk → chunk.listed →
    rStream.orderedQ.first? = none → int16 chunk.ssn < rStream.expectedStreamSeqNum →
    snd.Past newCumTsn sid rStream.expectedSSN

structure ForwardReady (snd : Sender) (pid : ℕ) (newCumTsn : UInt32) (st : Receiver) : Prop where
  /-- A chunk that is taken for an old one has nothing to skip. -/
  stale : newCumTsn ≤ st.gapList.cumAckTSN → ∀ sid : UInt16,
    sid.toNat < st.params.inboundStreams →
    snd.Past newCumTsn sid (st.receiveStreams sid.toNat).expectedSSN
  ends : st.gapList.cumAckTSN < newCumTsn → newCumTsn ≠ 0xffffffff
  /-- What is not abandoned is with the receiver. -/
  received : st.gapList.cumAckTSN < newCumTsn → ∀ e ∈ snd.retransmissionQ.entries,
    e.2.hasBeenAbandoned = false → tsnLe e.1 newCumTsn = true → st.counts e.1 = true
  streams : st.gapList.cumAckTSN < newCumTsn → ∀ sid : UInt16,
    sid.toNat < st.params.inboundStreams →
    StreamReady snd pid newCumTsn sid (st.receiveStreams sid.toNat)

/-- The number in an entry. -/
def SCTPSentVariables.entry (chunk : SCTPSentVariables) : ℤ :=
  if chunk.ordered then int16 chunk.ssn else -1

lemma int16_eq (x : UInt16) :
    int16 x = if x.toNat < 32768 then (x.toNat : ℤ) else x.toNat - 65536 := by
  rw [int16, BitVec.toInt_eq_toNat_cond, UInt16.toNat_toBitVec]
  split_ifs <;> first | rfl | omega

lemma entry_eq_neg_one {c : SCTPSentVariables} : c.entry = -1 ↔ ¬ c.listed := by
  rw [SCTPSentVariables.entry, SCTPSentVariables.listed]
  by_cases ordered : c.ordered = true
  · rw [if_pos ordered, int16_eq, and_iff_right ordered, not_not, ← UInt16.toNat_inj]
    have last : (65535 : UInt16).toNat = 65535 := rfl
    by_cases small : c.ssn.toNat < 32768
    · omega
    · omega
  · rw [if_neg ordered]
    exact iff_of_true rfl fun both => ordered both.1

open Sender

variable {snd : Sender} {pid now : ℕ} {newCumTsn : UInt32} {sid : UInt16} {st st' : Receiver}

lemma collectSids_fst (entries : List (UInt32 × SCTPSentVariables)) (sidMap : OrderedMap UInt16 ℤ)
    (snd : Sender) : (collectSids pid now newCumTsn entries sidMap snd).1 =
      ((entries.map Prod.snd).filter (reports pid newCumTsn)).foldl mapSid sidMap := by
  induction entries generalizing sidMap snd with
  | nil => rfl
  | cons e entries ih =>
    obtain ⟨key, c⟩ := e
    rw [collectSids, List.map_cons]
    by_cases reported : reports pid newCumTsn c = true
    · rw [if_pos reported, ih, List.filter_cons_of_pos reported, List.foldl_cons]
    · rw [if_neg reported, ih, List.filter_cons_of_neg reported]

lemma get?_foldl_mapSid (chunks : List SCTPSentVariables) (sidMap : OrderedMap UInt16 ℤ) :
    (chunks.foldl mapSid sidMap).get? sid =
      (((chunks.filter fun c => c.sid = sid).getLast?).map SCTPSentVariables.entry).or
        (sidMap.get? sid) := by
  induction chunks generalizing sidMap with
  | nil => rfl
  | cons c chunks ih =>
    have put : ∀ value : ℤ, (sidMap.put c.sid value).get? sid =
        if c.sid = sid then some value else sidMap.get? sid := by
      intro value
      by_cases same : c.sid = sid
      · rw [if_pos same, get?_eq_some, mem_put]
        exact .inl (by rw [same])
      · rw [if_neg same]
        ext v
        rw [get?_eq_some, get?_eq_some, mem_put]
        constructor
        · rintro (eq | ⟨mem, -⟩)
          · exact absurd (Prod.mk.inj eq).1.symm same
          · exact mem
        · exact fun mem => .inr ⟨mem, fun eq => same eq.symm⟩
    rw [List.foldl_cons, ih, mapSid, put]
    by_cases same : c.sid = sid
    · rw [if_pos same, List.filter_cons_of_pos (by rw [same]; exact decide_eq_true rfl)]
      cases last : (chunks.filter fun c => c.sid = sid).getLast? with
      | none =>
        rw [List.getLast?_eq_none_iff.mp last]
        rfl
      | some c' =>
        rw [List.getLast?_cons, last]
        rfl
    · rw [if_neg same, List.filter_cons_of_neg (by rw [decide_eq_true_iff]; exact same)]

lemma createForwardTsnChunk_skipped (snd : Sender) (pid now : ℕ) (sid : UInt16) (ssn : ℤ) :
    (sid, ssn) ∈ (snd.createForwardTsnChunk pid now).1.skipped ↔
      ∃ c, snd.lastReported pid snd.advancePeerTsn.advancedPeerAckPoint sid = some c ∧
        c.entry = ssn := by
  have queue : snd.advancePeerTsn.retransmissionQ = snd.retransmissionQ := rfl
  have entries : (snd.createForwardTsnChunk pid now).1.skipped =
      (collectSids pid now snd.advancePeerTsn.advancedPeerAckPoint
        snd.advancePeerTsn.retransmissionQ.entries .empty snd.advancePeerTsn).1.entries := rfl
  rw [entries, collectSids_fst, queue]
  change (sid, ssn) ∈ List.foldl mapSid OrderedMap.empty _ ↔ _
  rw [← OrderedMap.get?_eq_some, get?_foldl_mapSid, List.filter_filter, lastReported]
  have swap : (fun c : SCTPSentVariables => decide (c.sid = sid) &&
      reports pid snd.advancePeerTsn.advancedPeerAckPoint c) = fun c =>
      reports pid snd.advancePeerTsn.advancedPeerAckPoint c && decide (c.sid = sid) := by
    funext c
    exact Bool.and_comm _ _
  rw [swap]
  have empty : (OrderedMap.empty : OrderedMap UInt16 ℤ).get? sid = none := rfl
  rw [empty, Option.or_none, Option.map_eq_some_iff]

/-! ## What the receiver does with the entries -/

/-- The SSN that is next after an entry. -/
def nextExpected (rStream : SCTPReceiveStream) (ssn : ℤ) : ℤ :=
  match rStream.orderedQ.first? with
  | some (_, head) => head.ssn.toNat
  | none => if rStream.expectedStreamSeqNum ≤ ssn then ssn + 1 else rStream.expectedStreamSeqNum

/-- The stream after an entry. -/
def skipStream (rStream : SCTPReceiveStream) (ssn : ℤ) : SCTPReceiveStream :=
  if ssn = -1 then rStream else { rStream with expectedStreamSeqNum := nextExpected rStream ssn }

lemma expectedAfterSkip_eq (rStream : SCTPReceiveStream) (ssn : ℤ) :
    Receiver.expectedAfterSkip rStream ssn = .ok (nextExpected rStream ssn) := by
  rw [Receiver.expectedAfterSkip, nextExpected, SCTPQueue.getFirstSsnInQueue]
  cases first : rStream.orderedQ.first? with
  | none =>
    have empty := first?_eq_none.mp first
    rw [if_neg]
    rw [empty]
    exact Nat.not_lt_zero 0
  | some e =>
    have mem := (first?_eq_some.mp first).1
    rw [if_pos]
    · rfl
    · exact List.length_pos_of_mem mem

variable {rStream : SCTPReceiveStream}

lemma nextExpected_le {ssn : ℤ} (upTo : ssn ≤ 32767)
    (le : rStream.expectedStreamSeqNum ≤ 65535) : nextExpected rStream ssn ≤ 65535 := by
  rw [nextExpected]
  cases rStream.orderedQ.first? with
  | none =>
    dsimp only
    split_ifs <;> omega
  | some e =>
    have := e.2.ssn.toNat_lt
    dsimp only
    omega

lemma skipEntry_eq {ssn : ℤ} (inRange : sid.toNat < st.params.inboundStreams)
    (upTo : ssn ≤ 32767) (le : (st.receiveStreams sid.toNat).expectedStreamSeqNum ≤ 65535) :
    st.skipEntry (sid, ssn) =
      .ok (st.setStream sid.toNat (skipStream (st.receiveStreams sid.toNat) ssn)) := by
  rw [Receiver.skipEntry, skipStream]
  dsimp only
  by_cases none_ : ssn = -1
  · rw [if_neg (not_not.mpr none_), if_pos none_, Receiver.setStream, Function.update_eq_self]
  · rw [if_pos none_, if_neg none_, Receiver.findStream, if_pos inRange]
    dsimp only [bind, Except.bind]
    rw [expectedAfterSkip_eq]
    dsimp only
    rw [if_neg (not_lt.mpr (nextExpected_le upTo le))]
    rfl

/-- What the entries do to the streams. -/
structure Skipped (entries : List (UInt16 × ℤ)) (st st' : Receiver) : Prop where
  params : st'.params = st.params
  gapList : st'.gapList = st.gapList
  listed : ∀ e ∈ entries, st'.receiveStreams e.1.toNat =
    skipStream (st.receiveStreams e.1.toNat) e.2
  others : ∀ sid, (∀ e ∈ entries, e.1.toNat ≠ sid) → st'.receiveStreams sid = st.receiveStreams sid

lemma skipEntries_skipped {entries : List (UInt16 × ℤ)}
    (distinct : entries.Pairwise fun a b => a.1 ≠ b.1)
    (inRange : ∀ e ∈ entries, e.1.toNat < st.params.inboundStreams)
    (upTo : ∀ e ∈ entries, e.2 ≤ 32767)
    (expected : ∀ sid, (st.receiveStreams sid).expectedStreamSeqNum ≤ 65535) :
    ∃ st', Receiver.skipEntries entries st = .ok st' ∧ Skipped entries st st' := by
  induction entries generalizing st with
  | nil => exact ⟨st, rfl, rfl, rfl, List.forall_mem_nil _, fun _ _ => rfl⟩
  | cons entry entries ih =>
    obtain ⟨sid, ssn⟩ := entry
    obtain ⟨apart, distinct⟩ := List.pairwise_cons.mp distinct
    have here := skipEntry_eq (inRange _ List.mem_cons_self) (upTo _ List.mem_cons_self)
      (expected sid.toNat)
    have apart' : ∀ e ∈ entries, e.1.toNat ≠ sid.toNat :=
      fun e mem same => apart e mem (UInt16.toNat_inj.mp same).symm
    have bound : ∀ sid', ((st.setStream sid.toNat (skipStream (st.receiveStreams sid.toNat)
        ssn)).receiveStreams sid').expectedStreamSeqNum ≤ 65535 := by
      intro sid'
      by_cases same : sid' = sid.toNat
      · rw [same, Receiver.setStream_self, skipStream]
        split_ifs
        · exact expected _
        · exact nextExpected_le (upTo _ List.mem_cons_self) (expected _)
      · rw [Receiver.setStream_of_ne _ same]
        exact expected _
    obtain ⟨st', ok, skipped⟩ := @ih (st.setStream sid.toNat (skipStream
      (st.receiveStreams sid.toNat) ssn)) distinct
      (fun e mem => inRange e (List.mem_cons_of_mem _ mem))
      (fun e mem => upTo e (List.mem_cons_of_mem _ mem)) bound
    refine ⟨st', ?_, skipped.params, skipped.gapList, ?_, ?_⟩
    · rw [Receiver.skipEntries, here]
      exact ok
    · intro e mem
      rcases List.mem_cons.mp mem with rfl | later
      · rw [skipped.others _ apart', Receiver.setStream_self]
      · rw [skipped.listed e later, Receiver.setStream_of_ne _ (apart' e later)]
    · intro sid' absent
      rw [skipped.others sid' fun e mem => absent e (List.mem_cons_of_mem _ mem),
        Receiver.setStream_of_ne _ (absent _ List.mem_cons_self).symm]

variable {cum : ℕ} {R N C : Set ℕ} {tsn : UInt32}

lemma counts_iff (parts : Parts st.gapList cum R N C) :
    st.counts tsn = true ↔ position cum tsn ∈ C := by
  have covered := Tracks.covered parts.combined
  rw [Receiver.counts, Bool.or_eq_true, parts.tsnLe_eq, decide_eq_true_iff, parts.mem_combined]
  constructor
  · rintro (below | ⟨mem, -⟩)
    · exact covered (Set.mem_Iic.mpr below)
    · exact mem
  · intro mem
    rcases le_or_gt (position cum tsn) cum with below | above
    · exact .inl below
    · exact .inr ⟨mem, above⟩

lemma counts_after {count cum' : ℕ} {R' N' : Set ℕ} (parts : Parts st.gapList cum R N C)
    (parts' : Parts st'.gapList cum' R' N' (C ∪ Set.Ico (cum + 1) (cum + 1 + count)))
    (last : cum + count ≤ cum') (bound : count < 4294967296) (new : position cum tsn ∉ C) :
    st'.counts tsn = true ↔ tsnLe tsn (serial (cum + count)) = true := by
  have lt := position_lt cum tsn
  have here := serial_position parts.far tsn
  have lt' := position_lt cum' tsn
  have ge' := le_position cum' tsn
  have here' := serial_position parts'.far tsn
  have above : cum < position cum tsn := by
    by_contra below
    exact new (Tracks.covered parts.combined (Set.mem_Iic.mpr (not_lt.mp below)))
  have near : ∀ q ∈ C, q < cum + 2147483648 := fun q mem => Tracks.near parts.combined mem
  rw [counts_iff parts', Set.mem_union, Set.mem_Ico]
  have top := Tracks.covered parts'.combined (Set.mem_Iic.mpr le_rfl)
  rw [Set.mem_union, Set.mem_Ico] at top
  by_cases short : count < 2147483648
  · have upTo : cum' < cum + 2147483648 := by
      rcases top with old | range
      · exact near cum' old
      · omega
    have same : position cum' tsn = position cum tsn := by
      rw [← here, position_serial (by omega) (by omega), here]
    rw [same, or_iff_right new, ← here, tsnLe_serial (by omega) (by omega), decide_eq_true_iff, here]
    omega
  · have end_ : cum' = cum + count := by
      rcases top with old | range
      · have := near cum' old
        omega
      · omega
    rw [← end_, ← here', tsnLe_serial (by omega) (by omega), decide_eq_true_iff, here']
    constructor
    · rintro (old | range)
      · have := near _ old
        omega
      · omega
    · intro le
      by_cases low : position cum' tsn ≤ cum
      · exact .inl (Tracks.covered parts.combined (Set.mem_Iic.mpr low))
      · exact .inr (by omega)

/-! ## One stream -/

lemma onlyAbandoned_self (snd : Sender) (sid expected : UInt16) :
    snd.OnlyAbandoned sid expected expected := by
  intro i lt
  rw [UInt16.sub_self] at lt
  cases lt

/-- The last chunk reported decides what happens to the stream. -/
def afterReport (rStream : SCTPReceiveStream) : Option SCTPSentVariables → SCTPReceiveStream
  | some chunk => skipStream rStream chunk.entry
  | none => rStream

lemma expectedSSN_head {head : SCTPDataVariables} {key : UInt32} {ssn : ℤ} (apart : ssn ≠ -1)
    (first : rStream.orderedQ.first? = some (key, head)) :
    (skipStream rStream ssn).expectedSSN = head.ssn := by
  have lt := head.ssn.toNat_lt
  rw [skipStream, if_neg apart, SCTPReceiveStream.expectedSSN, nextExpected, first,
    ← UInt16.toNat_inj, UInt16.toNat_ofNat']
  dsimp only
  omega

lemma expectedSSN_ahead {ssn : UInt16} (pos : 0 ≤ rStream.expectedStreamSeqNum)
    (apart : int16 ssn ≠ -1) (first : rStream.orderedQ.first? = none)
    (le : rStream.expectedStreamSeqNum ≤ int16 ssn) :
    (skipStream rStream (int16 ssn)).expectedSSN = ssn + 1 := by
  have lt := ssn.toNat_lt
  have value : int16 ssn = ssn.toNat := by
    rw [int16_eq] at le ⊢
    split_ifs at le ⊢
    · rfl
    · omega
  rw [skipStream, if_neg apart, SCTPReceiveStream.expectedSSN, nextExpected, first,
    ← UInt16.toNat_inj, UInt16.toNat_ofNat', UInt16.toNat_add]
  dsimp only
  have one : (1 : UInt16).toNat = 1 := rfl
  omega

lemma skipStream_behind {ssn : ℤ} (first : rStream.orderedQ.first? = none)
    (lt : ssn < rStream.expectedStreamSeqNum) : skipStream rStream ssn = rStream := by
  rw [skipStream, nextExpected, first]
  rw [if_neg (not_le.mpr lt)]
  split_ifs <;> rfl

namespace StreamReady

variable {rStream : SCTPReceiveStream} {c : SCTPSentVariables}

lemma of_unlisted (none_ : ∀ c, snd.lastReported pid newCumTsn sid = some c → ¬ c.listed)
    (past : snd.Past newCumTsn sid rStream.expectedSSN) :
    StreamReady snd pid newCumTsn sid rStream where
  unlisted _ := past
  queued c _ _ last listed _ := absurd listed (none_ c last)
  ahead c last listed _ _ := absurd listed (none_ c last)
  behind c last listed _ _ := absurd listed (none_ c last)

variable (last : snd.lastReported pid newCumTsn sid = some c)
include last

lemma of_queued {key : UInt32} {head : SCTPDataVariables} (listed : c.listed)
    (first : rStream.orderedQ.first? = some (key, head)) (skips : snd.Past newCumTsn sid head.ssn ∧
      snd.OnlyAbandoned sid rStream.expectedSSN head.ssn) :
    StreamReady snd pid newCumTsn sid rStream where
  unlisted none_ := absurd listed (none_ c last)
  queued _ _ head' _ _ here := by
    rw [first] at here
    cases here
    exact skips
  ahead _ _ _ empty := by
    rw [first] at empty
    cases empty
  behind _ _ _ empty := by
    rw [first] at empty
    cases empty

lemma of_ahead (listed : c.listed) (first : rStream.orderedQ.first? = none)
    (le : rStream.expectedStreamSeqNum ≤ int16 c.ssn) (skips : snd.Past newCumTsn sid (c.ssn + 1) ∧
      snd.OnlyAbandoned sid rStream.expectedSSN (c.ssn + 1)) :
    StreamReady snd pid newCumTsn sid rStream where
  unlisted none_ := absurd listed (none_ c last)
  queued _ _ _ _ _ here := by
    rw [first] at here
    cases here
  ahead _ same _ _ _ := by
    cases Option.some.inj (last.symm.trans same)
    exact skips
  behind _ same _ _ lt := by
    cases Option.some.inj (last.symm.trans same)
    exact absurd le (not_le.mpr lt)

lemma of_behind (listed : c.listed) (first : rStream.orderedQ.first? = none)
    (lt : int16 c.ssn < rStream.expectedStreamSeqNum)
    (past : snd.Past newCumTsn sid rStream.expectedSSN) :
    StreamReady snd pid newCumTsn sid rStream where
  unlisted none_ := absurd listed (none_ c last)
  queued _ _ _ _ _ here := by
    rw [first] at here
    cases here
  ahead _ same _ _ le := by
    cases Option.some.inj (last.symm.trans same)
    exact absurd le (not_le.mpr lt)
  behind _ _ _ _ _ := past

end StreamReady

lemma streamReady_iff (pos : 0 ≤ rStream.expectedStreamSeqNum) :
    snd.Past newCumTsn sid (afterReport rStream (snd.lastReported pid newCumTsn sid)).expectedSSN ∧
      snd.OnlyAbandoned sid rStream.expectedSSN
        (afterReport rStream (snd.lastReported pid newCumTsn sid)).expectedSSN ↔
    StreamReady snd pid newCumTsn sid rStream := by
  cases last : snd.lastReported pid newCumTsn sid with
  | none =>
    have none_ : ∀ c, snd.lastReported pid newCumTsn sid = some c → ¬ c.listed := by
      rw [last]
      nofun
    rw [afterReport, and_iff_left (onlyAbandoned_self _ _ _)]
    exact ⟨.of_unlisted none_, fun ready => ready.unlisted none_⟩
  | some c =>
    rw [afterReport]
    by_cases listed : c.listed
    · have apart : c.entry ≠ -1 := fun same => entry_eq_neg_one.mp same listed
      have value : c.entry = int16 c.ssn := if_pos listed.1
      cases first : rStream.orderedQ.first? with
      | some e =>
        obtain ⟨key, head⟩ := e
        rw [expectedSSN_head apart first]
        exact ⟨.of_queued last listed first, fun ready => ready.queued c key head last listed first⟩
      | none =>
        by_cases le : rStream.expectedStreamSeqNum ≤ int16 c.ssn
        · rw [value, expectedSSN_ahead pos (value ▸ apart) first le]
          exact ⟨.of_ahead last listed first le, fun ready => ready.ahead c last listed first le⟩
        · have lt := not_le.mp le
          rw [value, skipStream_behind first lt, and_iff_left (onlyAbandoned_self _ _ _)]
          exact ⟨.of_behind last listed first lt, fun ready => ready.behind c last listed first lt⟩
    · have value : c.entry = -1 := entry_eq_neg_one.mpr listed
      have none_ : ∀ c, snd.lastReported pid newCumTsn sid = some c → ¬ c.listed := by
        intro c' same
        cases Option.some.inj (last.symm.trans same)
        exact listed
      rw [skipStream, if_pos value, and_iff_left (onlyAbandoned_self _ _ _)]
      exact ⟨.of_unlisted none_, fun ready => ready.unlisted none_⟩

/-! ## The whole step -/

lemma processForwardTsnArrived_fresh (parts : Parts st.gapList cum R N C)
    (streams : ∀ e ∈ snd.retransmissionQ.entries, e.2.sid.toNat < st.params.inboundStreams)
    (expected : ∀ sid, (st.receiveStreams sid).expectedStreamSeqNum ≤ 65535)
    (fresh : st.gapList.cumAckTSN < snd.advancePeerTsn.advancedPeerAckPoint)
    (ends : snd.advancePeerTsn.advancedPeerAckPoint ≠ 0xffffffff) :
    ∃ st', st.processForwardTsnArrived (snd.createForwardTsnChunk pid now).1 = .ok st' ∧
      (∀ sid : UInt16, sid.toNat < st.params.inboundStreams → st'.receiveStreams sid.toNat =
        afterReport (st.receiveStreams sid.toNat)
          (snd.lastReported pid snd.advancePeerTsn.advancedPeerAckPoint sid)) ∧
      ∀ tsn, st.counts tsn = false →
        (st'.counts tsn = true ↔ tsnLe tsn snd.advancePeerTsn.advancedPeerAckPoint = true) := by
  have listed := createForwardTsnChunk_skipped snd pid now
  have newCum : (snd.createForwardTsnChunk pid now).1.newCumTsn =
    snd.advancePeerTsn.advancedPeerAckPoint := rfl
  have distinct : (snd.createForwardTsnChunk pid now).1.skipped.Pairwise fun a b => a.1 ≠ b.1 :=
    (OrderedMap.ascending _).imp fun lt => lt.ne
  generalize snd.advancePeerTsn.advancedPeerAckPoint = point at *
  have reported : ∀ sid c, snd.lastReported pid point sid = some c →
      sid.toNat < st.params.inboundStreams := by
    intro sid c last
    obtain ⟨mem, passes⟩ := List.mem_filter.mp (List.mem_of_getLast? last)
    obtain ⟨e, memE, rfl⟩ := List.mem_map.mp mem
    rw [Bool.and_eq_true, decide_eq_true_iff] at passes
    exact passes.2 ▸ streams e memE
  obtain ⟨st₁, ok₁, skipped⟩ := skipEntries_skipped distinct (fun e mem => by
      obtain ⟨c, last, -⟩ := (listed e.1 e.2).mp mem
      exact reported e.1 c last)
    (fun e mem => by
      obtain ⟨c, -, value⟩ := (listed e.1 e.2).mp mem
      have lt := c.ssn.toNat_lt
      rw [← value, SCTPSentVariables.entry, int16_eq]
      split_ifs <;> omega)
    expected
  have acked := parts.acked
  rw [acked, UInt32.lt_iff_toNat_lt] at fresh
  have bound := point.toNat_lt
  have last : point.toNat ≠ 4294967295 := fun same => ends (UInt32.toNat_inj.mp same)
  have succ : (serial (cum + 1)).toNat = (serial cum).toNat + 1 := by
    rw [toNat_serial] at *
    rw [toNat_serial]
    omega
  have parts₁ : Parts st₁.gapList cum R N C := skipped.gapList ▸ parts
  have notLast : (serial (cum + 1)).toNat + (point.toNat - (serial cum).toNat) ≤ 4294967295 := by
    omega
  obtain ⟨lists', cum', R', N', ok, parts', upTo, -⟩ :=
    abandonTsns_parts parts₁ le_rfl (by omega) (by omega) notLast
  refine ⟨{ st₁ with gapList := lists' }, ?_, ?_, ?_⟩
  · rw [Receiver.processForwardTsnArrived, newCum, acked, if_neg (by
      rw [UInt32.le_iff_toNat_le]
      omega), ok₁]
    dsimp only [bind, Except.bind]
    rw [if_neg ends, skipped.gapList, acked, serial_succ, succ,
      show point.toNat + 1 - ((serial cum).toNat + 1) = point.toNat - (serial cum).toNat by omega]
    exact ok
  · intro sid inRange
    cases report : snd.lastReported pid point sid with
    | some c => exact skipped.listed (sid, c.entry) ((listed sid _).mpr ⟨c, report, rfl⟩)
    | none =>
      refine skipped.others sid.toNat fun e mem same => ?_
      obtain ⟨c, here, -⟩ := (listed e.1 e.2).mp mem
      rw [UInt16.toNat_inj.mp same, report] at here
      cases here
  · intro tsn new
    have notMem : position cum tsn ∉ C := fun mem => by
      rw [(counts_iff parts).mpr mem] at new
      cases new
    have kept : Parts { st₁ with gapList := lists' }.gapList cum' R' N' _ := parts'
    have after := counts_after parts kept (by omega) (by omega) notMem
    have point_eq : serial (cum + (point.toNat - (serial cum).toNat)) = point := by
      rw [← UInt32.toNat_inj, toNat_serial]
      rw [toNat_serial] at *
      omega
    rwa [point_eq] at after

/-- A FORWARD-TSN chunk skips the abandoned messages and nothing else just when both sides are ready
for it. -/
theorem forwardTsn_skips_iff (snd : Sender) (pid now : ℕ) (st : Receiver)
    (streams : ∀ e ∈ snd.retransmissionQ.entries, e.2.sid.toNat < st.params.inboundStreams)
    (expected : ∀ sid, 0 ≤ (st.receiveStreams sid).expectedStreamSeqNum ∧
      (st.receiveStreams sid).expectedStreamSeqNum ≤ 65535) (parts : Parts st.gapList cum R N C) :
    (∃ st', st.processForwardTsnArrived (snd.createForwardTsnChunk pid now).1 = .ok st' ∧
      SkipsAbandoned snd snd.advancePeerTsn.advancedPeerAckPoint st st') ↔
    ForwardReady snd pid snd.advancePeerTsn.advancedPeerAckPoint st := by
  have newCum : (snd.createForwardTsnChunk pid now).1.newCumTsn =
    snd.advancePeerTsn.advancedPeerAckPoint := rfl
  by_cases stale : snd.advancePeerTsn.advancedPeerAckPoint ≤ st.gapList.cumAckTSN
  · -- the chunk is ignored
    have ignored : st.processForwardTsnArrived (snd.createForwardTsnChunk pid now).1 = .ok st := by
      rw [Receiver.processForwardTsnArrived, newCum, if_pos stale]
    have notFresh := not_lt.mpr stale
    rw [ignored]
    constructor
    · rintro ⟨st', same, skips⟩
      cases same
      exact ⟨fun _ => skips.past, fun fresh => absurd fresh notFresh,
        fun fresh => absurd fresh notFresh, fun fresh => absurd fresh notFresh⟩
    · intro ready
      exact ⟨st, rfl, ready.stale stale, fun sid _ => onlyAbandoned_self _ _ _,
        fun _ _ _ new => new⟩
  · have fresh := not_le.mp stale
    by_cases last : snd.advancePeerTsn.advancedPeerAckPoint = 0xffffffff
    · -- the loop over the TSNs does not end
      constructor
      · rintro ⟨st', ok, -⟩
        rw [Receiver.processForwardTsnArrived, newCum, if_neg stale] at ok
        obtain ⟨st₁, -, rest⟩ := Except.bind_eq_ok ok
        rw [if_pos last] at rest
        cases rest
      · intro ready
        exact absurd last (ready.ends fresh)
    · obtain ⟨st', ok, after, counted⟩ : ∃ st', st.processForwardTsnArrived
          (snd.createForwardTsnChunk pid now).1 = .ok st' ∧ _ :=
        processForwardTsnArrived_fresh parts streams (fun sid => (expected sid).2) fresh last
      rw [ok]
      have stream : ∀ sid : UInt16, _ ↔ StreamReady snd pid
          snd.advancePeerTsn.advancedPeerAckPoint sid (st.receiveStreams sid.toNat) :=
        fun sid => streamReady_iff (expected sid.toNat).1
      constructor
      · rintro ⟨st'', same, skips⟩
        cases same
        refine ⟨fun old => absurd old stale, fun _ => last, ?_, ?_⟩
        · intro _ e mem kept le
          by_contra new
          rw [Bool.not_eq_true] at new
          have missed := skips.chunks e mem kept new
          rw [(counted e.1 new).mpr le] at missed
          cases missed
        · intro _ sid inRange
          rw [← stream, ← after sid inRange]
          exact ⟨skips.past sid inRange, skips.only sid inRange⟩
      · intro ready
        refine ⟨st', rfl, ?_, ?_, ?_⟩
        · intro sid inRange
          rw [after sid inRange]
          exact ((stream sid).mpr (ready.streams fresh sid inRange)).1
        · intro sid inRange
          rw [after sid inRange]
          exact ((stream sid).mpr (ready.streams fresh sid inRange)).2
        · intro e mem kept new
          rw [← Bool.not_eq_true, counted e.1 new]
          intro le
          rw [ready.received fresh e mem kept le] at new
          cases new

/-- A chunk of stream 0, last sent on path 1. -/
def sentChunk (tsn : UInt32) (ssn : UInt16) (abandoned acked : Bool) : SCTPSentVariables where
  tsn := tsn
  sid := 0
  ssn := ssn
  len := 8
  booksize := 1
  ordered := true
  hasBeenAbandoned := abandoned
  hasBeenAcked := acked
  hasBeenFastRetransmitted := false
  enqueuedInTransmissionQ := false
  sendForwardIfAbandoned := false
  gapReports := 0
  numberOfRetransmissions := 0
  sendTime := 0
  lastDestination := some 1

def oneAbandoned : Sender where
  retransmissionQ := OrderedMap.empty.put 1 (sentChunk 1 0 true false)
  transmissionQ := []
  roomTransQ := fun _ => 0
  bookedTransQ := fun _ => 0
  advancedPeerAckPoint := 0
  ackPointAdvanced := false

/-- Two more messages have been sent, and the last one has arrived. -/
def twoBehind : Sender :=
  { oneAbandoned with
    retransmissionQ := (oneAbandoned.retransmissionQ.put 2 (sentChunk 2 1 false false)).put 3
      (sentChunk 3 2 false true) }

lemma oneAbandoned_ready : ForwardReady oneAbandoned 1 1 (Receiver.start Receiver.oneByOne 0) := by
  have only : ∀ e ∈ oneAbandoned.retransmissionQ.entries, e = (1, sentChunk 1 0 true false) :=
    fun e mem => List.mem_singleton.mp mem
  have zero : ∀ sid : UInt16, sid.toNat < 1 → sid = 0 := fun sid lt =>
    UInt16.toNat_inj.mp (Nat.lt_one_iff.mp lt)
  have past : oneAbandoned.Past 1 0 1 := by
    intro e mem _ _ _ _
    rw [only e mem]
    decide
  refine ⟨fun le => absurd le (by decide), fun _ => by decide, ?_, ?_⟩
  · intro _ e mem kept
    rw [only e mem] at kept
    cases kept
  · intro _ sid inRange
    rw [zero sid inRange]
    refine ⟨?_, ?_, ?_, ?_⟩
    · intro unlisted
      exact absurd ⟨rfl, by decide⟩ (unlisted (sentChunk 1 0 true false) rfl)
    · intro _ _ _ _ _ first
      cases first
    · intro c last _ _ _
      cases last
      refine ⟨past, fun i lt => ?_⟩
      have first : i = 0 := Nat.lt_one_iff.mp lt
      subst first
      exact ⟨_, List.mem_singleton_self _, rfl, rfl, rfl, rfl⟩
    · intro c last _ _ lt
      cases last
      exact absurd lt (by decide)

theorem forwardTsn_skips_one :
    ∃ st', (Receiver.start Receiver.oneByOne 0).processForwardTsnArrived
        (oneAbandoned.createForwardTsnChunk 1 0).1 = .ok st' ∧
      SkipsAbandoned oneAbandoned oneAbandoned.advancePeerTsn.advancedPeerAckPoint
        (Receiver.start Receiver.oneByOne 0) st' :=
  (forwardTsn_skips_iff oneAbandoned 1 0 (Receiver.start Receiver.oneByOne 0) (by
      intro e mem
      rw [List.mem_singleton.mp mem]
      decide)
    (fun _ => ⟨le_rfl, (by decide : (0 : ℤ) ≤ 65535)⟩) (Parts.init 0)).mpr oneAbandoned_ready

/-- The third message heads the queue of the receiver, which goes on with it: the second one is
skipped, though it has not been abandoned. -/
theorem forwardTsn_skips_sent_message :
    ∃ st event st', (Receiver.start Receiver.oneByOne 0).processDataArrived
        (Receiver.oneByte 3 2 true true false) = .ok (event, st) ∧
      st.processForwardTsnArrived (twoBehind.createForwardTsnChunk 1 0).1 = .ok st' ∧
      ¬ SkipsAbandoned twoBehind twoBehind.advancePeerTsn.advancedPeerAckPoint st st' := by
  refine ⟨_, _, _, rfl, rfl, fun skips => ?_⟩
  obtain ⟨e, mem, abandoned, -, -, ssn⟩ := skips.only 0 (by decide) 1 (by decide)
  have entries : ∀ e ∈ twoBehind.retransmissionQ.entries,
      e.2.hasBeenAbandoned = true → e.2.ssn ≠ 1 := by decide
  exact entries e mem abandoned ssn

end Inet.Sctp
