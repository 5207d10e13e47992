import Inet.Sctp.QueuedChunks
import Mathlib

/-!
# Revokable and non-revokable TSNs along a run

What is still in a queue is revokable: a chunk becomes non-revokable when it leaves for the
application.
-/

namespace Inet.Sctp

open SCTPQueue Function Inet.Except Set

namespace Receiver

variable {st st' : Receiver} {cum cum' : ℕ} {R N C R' N' C' : Set ℕ}

/-! ## The queues and the gap lists -/

/-- What is queued has been received, and may still be reneged if anything may. -/
structure Tidy (st : Receiver) (cum : ℕ) (R N C : Set ℕ) : Prop where
  parts : Parts st.gapList cum R N C
  holds : ∀ sid, Holds (st.receiveStreams sid) (st.receiveStreams sid).keys
  apart : ∀ sid sid', sid ≠ sid' →
    Disjoint (st.receiveStreams sid).keys (st.receiveStreams sid').keys
  received : ∀ sid, ∀ tsn ∈ (st.receiveStreams sid).keys, position cum tsn ∈ C
  revokable : st.params.disableReneging = false →
    ∀ sid, ∀ tsn ∈ (st.receiveStreams sid).keys, position cum tsn ∈ R

/-- The queues are bounded by sets of TSNs. -/
lemma Tidy.of_holds {K : ℕ → Set UInt32} (parts : Parts st.gapList cum R N C)
    (holds : ∀ sid, Holds (st.receiveStreams sid) (K sid))
    (apart : ∀ sid sid', sid ≠ sid' → Disjoint (K sid) (K sid'))
    (received : ∀ sid, ∀ tsn ∈ K sid, position cum tsn ∈ C)
    (revokable : st.params.disableReneging = false → ∀ sid, ∀ tsn ∈ K sid, position cum tsn ∈ R) :
    Tidy st cum R N C where
  parts := parts
  holds sid := (holds sid).keys
  apart sid sid' ne := (apart sid sid' ne).mono (holds sid).keys_subset (holds sid').keys_subset
  received sid tsn mem := received sid tsn ((holds sid).keys_subset mem)
  revokable able sid tsn mem := revokable able sid tsn ((holds sid).keys_subset mem)

/-- Nothing has come or gone. -/
structure Moved (st st' : Receiver) : Prop where
  gapList : st'.gapList = st.gapList
  params : st'.params = st.params
  holds : ∀ sid K, Holds (st.receiveStreams sid) K → Holds (st'.receiveStreams sid) K

namespace Moved

lemma refl (st : Receiver) : Moved st st := ⟨rfl, rfl, fun _ _ holds => holds⟩

lemma trans {st'' : Receiver} (first : Moved st st') (second : Moved st' st'') : Moved st st'' where
  gapList := second.gapList.trans first.gapList
  params := second.params.trans first.params
  holds sid K holds := second.holds sid K (first.holds sid K holds)

lemma setStream (sid : ℕ) (rs : SCTPReceiveStream) (gapList : st'.gapList = st.gapList)
    (params : st'.params = st.params)
    (streams : st'.receiveStreams = update st.receiveStreams sid rs)
    (holds : ∀ K, Holds (st.receiveStreams sid) K → Holds rs K) : Moved st st' where
  gapList := gapList
  params := params
  holds sid' K before := by
    rw [streams]
    by_cases same : sid' = sid
    · subst same
      rw [update_self]
      exact holds K before
    · rwa [update_of_ne same]

lemma putInDeliveryLoop {sid : ℕ} (rounds : ℕ) (st : Receiver) :
    Moved st (putInDeliveryLoop sid rounds st) := by
  induction rounds generalizing st with
  | zero => exact refl st
  | succ rounds ih =>
    rw [Receiver.putInDeliveryLoop]
    cases moves : (st.receiveStreams sid).dequeueExpected with
    | none => exact refl st
    | some moved =>
      obtain ⟨ch, inserted, rs⟩ := moved
      refine trans (setStream sid rs ?_ ?_ ?_ ?_) (ih _)
      · rw [countMoved]
        split_ifs <;> rfl
      · rw [countMoved]
        split_ifs <;> rfl
      · rw [countMoved]
        split_ifs <;> rfl
      · exact fun K holds => holds.dequeueExpected moves

lemma putInDeliveryQ {sid : ℕ} (ok : st.putInDeliveryQ sid = .ok st') : Moved st st' := by
  obtain ⟨rs, -, rest⟩ := bind_eq_ok ok
  cases rest
  exact putInDeliveryLoop _ st

lemma putAllInDeliveryQ {count sid : ℕ} (ok : putAllInDeliveryQ count sid st = .ok st') :
    Moved st st' := by
  induction count generalizing sid st with
  | zero =>
    cases ok
    exact refl _
  | succ count ih =>
    obtain ⟨st₁, ok₁, rest⟩ := bind_eq_ok ok
    exact trans (putInDeliveryQ ok₁) (ih rest)

lemma startPush (ok : st.startPush = .ok st') : Moved st st' := by
  obtain ⟨st₁, ok₁, rest⟩ := bind_eq_ok ok
  have moved := putAllInDeliveryQ ok₁
  split_ifs at rest
  · cases rest
    exact { moved with }
  · cases rest
    exact moved

lemma skipEntry {entry : UInt16 × ℤ} (ok : st.skipEntry entry = .ok st') : Moved st st' := by
  rw [Receiver.skipEntry] at ok
  by_cases marked : entry.2 ≠ -1
  · rw [if_pos marked] at ok
    obtain ⟨rs, found, rest⟩ := bind_eq_ok ok
    rw [findStream] at found
    split_ifs at found
    cases found
    obtain ⟨expected, -, rest'⟩ := bind_eq_ok rest
    cases rest'
    exact setStream _ _ rfl rfl rfl fun K holds => holds.setExpected _
  · rw [if_neg marked] at ok
    cases ok
    exact refl st

lemma skipEntries {entries : List (UInt16 × ℤ)} (ok : skipEntries entries st = .ok st') :
    Moved st st' := by
  induction entries generalizing st with
  | nil =>
    cases ok
    exact refl _
  | cons entry entries ih =>
    obtain ⟨st₁, ok₁, rest⟩ := bind_eq_ok ok
    exact trans (skipEntry ok₁) (ih rest)

end Moved

variable (tidy : Tidy st cum R N C)
include tidy

lemma Tidy.moved (moved : Moved st st') : Tidy st' cum R N C := by
  refine Tidy.of_holds ?_ (fun sid => moved.holds sid _ (tidy.holds sid)) tidy.apart tidy.received ?_
  · rw [moved.gapList]
    exact tidy.parts
  · rw [moved.params]
    exact tidy.revokable

/-- No list is full, and no search passes over a block that starts at TSN 0, where that makes a
difference. -/
structure CallSafe (lists : SCTPGapList) (tsn : UInt32) (tsnIsRevokable : Bool) : Prop where
  notFull : lists.NotFull
  update : lists.UpdateSafe tsn tsnIsRevokable

/-- The highest TSN received, counting this one. -/
def highestWith (st : Receiver) (tsn : UInt32) : UInt32 :=
  let highest := st.gapList.getHighestTSNReceived
  if tsnGt tsn highest then tsn else highest

/-- No chunk is queued that is more than half the number space behind the highest TSN. -/
def Recent (st : Receiver) (tsn : UInt32) : Prop :=
  ∀ sid, ∀ key ∈ (st.receiveStreams sid).keys, tsnLe key (st.highestWith tsn)

/-- The calls of `nonRevokablyAck` are safe. -/
def AckSafe : ℕ → UInt32 → SCTPGapList → Prop
  | 0, _, _ => True
  | count + 1, j, lists =>
      CallSafe lists j false ∧ ∀ r, lists.updateGapList j false false = .ok r →
        AckSafe count (j + 1) r.2.2

def PushStreamSafe (restrict : Bool) (sid : ℕ) : ℕ → Receiver → Prop
  | 0, _ => True
  | rounds + 1, st =>
      let rStream := st.receiveStreams sid
      ∀ chunk deliveryQ, extractMessage rStream.deliveryQ = some (chunk, deliveryQ) →
        (!restrict || 0 < st.pushMessagesLeft) → AckSafe (ackRounds chunk) chunk.tsn st.gapList ∧
        ∀ st', (st.setStream sid { rStream with deliveryQ := deliveryQ }).push chunk = .ok st' →
          PushStreamSafe restrict sid rounds st'

def PushStreamsSafe (restrict : Bool) : ℕ → ℕ → Receiver → Prop
  | 0, _, _ => True
  | count + 1, i, st =>
      let rounds := (st.receiveStreams i).deliveryQ.size
      PushStreamSafe restrict i rounds st ∧
        ∀ toApp r, pushStream restrict i rounds st toApp = .ok r →
          PushStreamsSafe restrict count ((i + 1) % r.1.params.inboundStreams) r.1

def PushSafe (st : Receiver) : Prop :=
  ∀ st', st.startPush = .ok st' →
    PushStreamsSafe (0 < st'.pushMessagesLeft) (max 1 st'.params.inboundStreams) st'.nextRSid st'

/-- No list is full when `makeRoomForTsn` drops a chunk. -/
def MakeRoomSafe (tsn length : UInt32) (uBit : Bool) : ℕ → UInt32 → UInt32 → Receiver → Prop
  | 0, _, _, _ => True
  | rounds + 1, tryTSN, sum, st =>
      sum < length → st.gapList.cumAckTSN < tryTSN → tsnGt tsn tryTSN = false → st.gapList.NotFull ∧
        ∀ r, st.dropFromStreams uBit tryTSN st.params.inboundStreams 0 = .ok r →
          MakeRoomSafe tsn length uBit rounds (tryTSN - 1) (sum + r.1) r.2

def AdmitSafe (st : Receiver) (dataChunk : SCTPDataChunk) : Prop :=
  let highest := st.gapList.getHighestTSNReceived
  st.bufferFull = true → tsnGt dataChunk.tsn highest = false → dataChunk.tsn < highest →
    st.params.disableReneging = false →
    MakeRoomSafe dataChunk.tsn (UInt32.ofNat (8 * dataChunk.userData.byteLength)) dataChunk.ubit
      (highest.toNat - st.gapList.cumAckTSN.toNat) highest 0 st

structure TakeInSafe (st : Receiver) (dataChunk : SCTPDataChunk) : Prop where
  call : CallSafe st.gapList dataChunk.tsn (!st.params.disableReneging)
  recent : st.Recent dataChunk.tsn

def DataSafe (st : Receiver) (dataChunk : SCTPDataChunk) : Prop :=
  st.params.stopReceiving = false → tsnLe dataChunk.tsn st.gapList.cumAckTSN = false →
    st.tsnIsDuplicate dataChunk.tsn = false → st.AdmitSafe dataChunk ∧
    ∀ st', st.admitChunk dataChunk = .ok (true, st') → st'.TakeInSafe dataChunk

def AbandonSafe : ℕ → UInt32 → Receiver → Prop
  | 0, _, _ => True
  | count + 1, i, st =>
      (st.gapList.cumAckTSN < i → st.gapList.tsnInGapList i = false → CallSafe st.gapList i false) ∧
      ∀ st', st.abandonTsn i = .ok st' → AbandonSafe count (i + 1) st'

/-- A FORWARD-TSN chunk that is not ignored is not an old one. -/
structure ForwardSafe (st : Receiver) (fwChunk : SCTPForwardTsnChunk) : Prop where
  notOld : st.gapList.cumAckTSN < fwChunk.newCumTsn →
    tsnGt fwChunk.newCumTsn st.gapList.cumAckTSN
  recent : st.gapList.cumAckTSN < fwChunk.newCumTsn → st.Recent fwChunk.newCumTsn
  abandon : ∀ st', skipEntries fwChunk.skipped st = .ok st' →
    AbandonSafe (fwChunk.newCumTsn.toNat + 1 - (st'.gapList.cumAckTSN + 1).toNat)
      (st'.gapList.cumAckTSN + 1) st'

def StepSafe (st : Receiver) : Event → Prop
  | .data dataChunk => { st with newChunkReceived := false }.DataSafe dataChunk
  | .forwardTsn fwChunk => st.ForwardSafe fwChunk
  | .receive => st.PushSafe
  | .sack => True

/-! ## Reneging -/

variable {ch : SCTPDataVariables}

lemma Tidy.dropChunk (able : st.params.disableReneging = false) (notFull : st.gapList.NotFull)
    {tryTSN : UInt32} {sid : ℕ} {name : QueueName}
    (found : ((st.receiveStreams sid).queue name).getChunk tryTSN = some ch)
    (ok : st.dropChunk tryTSN sid name ch = .ok st') :
    ∃ R' C', Tidy st' cum R' N C' ∧ C' ⊆ C ∧ st'.params = st.params := by
  obtain ⟨lists', ok', parts'⟩ := tidy.parts.remove notFull tryTSN
  obtain ⟨inKeys, dropped⟩ := (tidy.holds sid).drop found
  have revokable := tidy.revokable able sid tryTSN inKeys
  have same : removed cum N tryTSN = N := by
    ext q
    refine ⟨And.left, fun mem => ⟨mem, ?_⟩⟩
    rintro above rfl
    have both : position cum tryTSN ∈ R ∩ N := ⟨revokable, mem⟩
    rw [tidy.parts.inter] at both
    exact absurd (mem_Iic.mp both) (not_le.mpr above)
  rw [same] at parts'
  rw [Receiver.dropChunk, ok'] at ok
  cases ok
  have others {K : Set UInt32} {R : Set ℕ} (inR : ∀ tsn ∈ K, position cum tsn ∈ R)
      (ne : tryTSN ∉ K) : ∀ tsn ∈ K, position cum tsn ∈ removed cum R tryTSN := by
    intro tsn mem
    refine ⟨inR tsn mem, fun _ eq => ne ?_⟩
    have eq' := congrArg serial eq
    rw [serial_position tidy.parts.far, serial_position tidy.parts.far] at eq'
    exact eq' ▸ mem
  have notIn (sid' : ℕ) : tryTSN ∉ (st.receiveStreams sid').keys \ {tryTSN} := fun mem => mem.2 rfl
  refine ⟨_, _, Tidy.of_holds (K := fun sid => (st.receiveStreams sid).keys \ {tryTSN}) parts'
    (fun sid' => ?_) (fun sid₁ sid₂ ne => ?_) (fun sid' => ?_) fun _ sid' => ?_,
    fun q mem => mem.1, rfl⟩
  · by_cases here : sid' = sid
    · subst here
      dsimp only [setStream]
      rw [update_self]
      split_ifs
      · exact dropped.setExpected _
      · exact dropped
    · dsimp only [setStream]
      rw [update_of_ne here]
      refine (tidy.holds sid').mono fun tsn mem => ⟨mem, ?_⟩
      rintro rfl
      exact disjoint_left.mp (tidy.apart sid' sid here) mem inKeys
  · exact (tidy.apart sid₁ sid₂ ne).mono sdiff_subset sdiff_subset
  · exact others (fun tsn mem => tidy.received sid' tsn mem.1) (notIn sid')
  · exact others (fun tsn mem => tidy.revokable able sid' tsn mem.1) (notIn sid')

lemma Tidy.dropFromStreams (able : st.params.disableReneging = false)
    (notFull : st.gapList.NotFull) {uBit : Bool} {tryTSN len : UInt32} {count sid : ℕ}
    (ok : st.dropFromStreams uBit tryTSN count sid = .ok (len, st')) :
    ∃ R' C', Tidy st' cum R' N C' ∧ C' ⊆ C ∧ st'.params = st.params := by
  induction count generalizing sid with
  | zero =>
    cases ok
    exact ⟨R, C, tidy, subset_rfl, rfl⟩
  | succ count ih =>
    rw [Receiver.dropFromStreams] at ok
    cases found : st.chunkToDrop uBit tryTSN sid with
    | none =>
      rw [found] at ok
      exact ih ok
    | some pair =>
      obtain ⟨name, ch⟩ := pair
      rw [found] at ok
      obtain ⟨st₁, ok', rest⟩ := bind_eq_ok ok
      cases rest
      exact tidy.dropChunk able notFull (chunkToDrop_some found) ok'

lemma Tidy.makeRoomLoop (able : st.params.disableReneging = false)
    {tsn length tryTSN sum : UInt32} {uBit admitted : Bool} {rounds : ℕ}
    (safe : MakeRoomSafe tsn length uBit rounds tryTSN sum st)
    (ok : Receiver.makeRoomLoop tsn length uBit rounds tryTSN sum st = .ok (admitted, st')) :
    ∃ R' C', Tidy st' cum R' N C' ∧ C' ⊆ C ∧ st'.params = st.params := by
  induction rounds generalizing st R C tryTSN sum with
  | zero =>
    cases ok
    exact ⟨R, C, tidy, subset_rfl, rfl⟩
  | succ rounds ih =>
    rw [Receiver.makeRoomLoop] at ok
    split_ifs at ok with more beyond
    · cases ok
      exact ⟨R, C, tidy, subset_rfl, rfl⟩
    · obtain ⟨notFull, next⟩ := safe more.1 more.2 (Bool.eq_false_of_not_eq_true beyond)
      obtain ⟨⟨len, st₁⟩, ok', rest⟩ := bind_eq_ok ok
      obtain ⟨R₁, C₁, tidy₁, sub₁, params₁⟩ := tidy.dropFromStreams able notFull ok'
      obtain ⟨R₂, C₂, tidy₂, sub₂, params₂⟩ := ih tidy₁ (params₁ ▸ able) (next (len, st₁) ok') rest
      exact ⟨R₂, C₂, tidy₂, sub₂.trans sub₁, params₂.trans params₁⟩
    · cases ok
      exact ⟨R, C, tidy, subset_rfl, rfl⟩

variable {c : SCTPDataChunk}

lemma Tidy.admitChunk {admitted : Bool} (safe : st.AdmitSafe c)
    (ok : st.admitChunk c = .ok (admitted, st')) :
    ∃ R' C', Tidy st' cum R' N C' ∧ C' ⊆ C ∧ st'.params = st.params := by
  rw [Receiver.admitChunk] at ok
  by_cases full : st.bufferFull = true
  · rw [if_pos full] at ok
    dsimp only at ok
    by_cases beyond : tsnGt c.tsn st.gapList.getHighestTSNReceived = true
    · rw [if_pos beyond] at ok
      cases ok
      exact ⟨R, C, tidy, subset_rfl, rfl⟩
    · rw [if_neg beyond] at ok
      split_ifs at ok with room
      · rw [makeRoomForTsn, room.2] at ok
        exact tidy.makeRoomLoop room.2
          (safe full (Bool.eq_false_of_not_eq_true beyond) room.1 room.2) ok
      · cases ok
        exact ⟨R, C, tidy, subset_rfl, rfl⟩
  · rw [if_neg full] at ok
    cases ok
    exact ⟨R, C, tidy, subset_rfl, rfl⟩

omit tidy in
lemma position_eq {h : ℕ} {key : UInt32} (far : 4294967296 ≤ cum) (le : cum ≤ cum')
    (upTo : cum' ≤ h) (near : h < cum + 2147483648) (recent : tsnLe key (serial h) = true) :
    position cum' key = position cum key := by
  have here := serial_position far key
  have lt := position_lt cum key
  have ge := le_position cum key
  have close : h ≤ position cum key + 2147483648 := by
    by_contra behind
    rw [← here, tsnLe, decide_eq_true_iff, int32_eq, UInt32.toNat_sub, toNat_serial,
      toNat_serial] at recent
    split_ifs at recent <;> omega
  rw [← here, position_serial (by omega) (by omega), here]

/-- The highest TSN received, counting one above the cumulative ack. -/
lemma Tidy.highestWith {tsn : UInt32} (above : cum < position cum tsn) :
    ∃ h, st.highestWith tsn = serial h ∧ cum ≤ h ∧ h < cum + 2147483648 ∧
      position cum tsn ≤ h ∧ ∀ q ∈ C, q ≤ h := by
  obtain ⟨h, inC, eq, greatest⟩ := tidy.parts.highest
  have near := Tracks.near tidy.parts.combined inC
  have low : cum ≤ h := greatest cum (Tracks.covered tidy.parts.combined (mem_Iic.mpr le_rfl))
  have here := serial_position tidy.parts.far tsn
  have lt := position_lt cum tsn
  have test : tsnGt tsn (serial h) = decide (h < position cum tsn) := by
    nth_rewrite 1 [← here]
    exact tsnGt_serial (by omega) (by omega)
  rw [Receiver.highestWith, eq, test]
  by_cases higher : h < position cum tsn
  · rw [decide_eq_true higher, if_pos rfl]
    exact ⟨position cum tsn, here.symm, above.le, lt, le_rfl,
      fun q mem => (greatest q mem).trans higher.le⟩
  · rw [decide_eq_false higher, if_neg Bool.false_ne_true]
    exact ⟨h, rfl, low, near, not_lt.mp higher, greatest⟩

lemma Tidy.acknowledge {tsn : UInt32} (safe : CallSafe st.gapList tsn false)
    {flag flag' new : Bool} {lists' : SCTPGapList}
    (ok : st.gapList.updateGapList tsn flag false = .ok (new, flag', lists'))
    (still : ∀ cum', cum ≤ cum' → EndsPrefix (insert (position cum tsn) C) cum' →
      ∀ sid, ∀ key ∈ (st.receiveStreams sid).keys, position cum' key = position cum key)
    (other : st.params.disableReneging = false → ∀ sid, ∀ key ∈ (st.receiveStreams sid).keys,
      position cum key = position cum tsn → position cum tsn ≤ cum) :
    ∃ cum' R' N', Tidy { st with gapList := lists' } cum' R' N' (insert (position cum tsn) C) ∧
      cum ≤ cum' ∧ N ⊆ N' ∧ EndsPrefix (insert (position cum tsn) C) cum' := by
  obtain ⟨lists, cum', flags, ok', -, le, parts'⟩ :=
    tidy.parts.updateNonRevokable safe.notFull safe.update flag
  rw [ok'] at ok
  cases ok
  have ends := Tracks.ends parts'.combined
  have same := still cum' le ends
  refine ⟨cum', _, _, Tidy.of_holds parts' tidy.holds tidy.apart (fun sid key mem => ?_)
    (fun able sid key mem => ?_), le, ?_, ends⟩
  · rw [same sid key mem]
    exact .inr (tidy.received sid key mem)
  · rw [same sid key mem]
    refine .inl ⟨tidy.revokable able sid key mem, fun above eq => ?_⟩
    have below := other able sid key mem eq
    omega
  · exact (subset_insert _ _).trans subset_union_left

lemma Tidy.push (single : ch.fragments = 1) (received : position cum ch.tsn ∈ C)
    (left : ∀ sid, ch.tsn ∉ (st.receiveStreams sid).keys)
    (safe : AckSafe (ackRounds ch) ch.tsn st.gapList) (ok : st.push ch = .ok st') :
    ∃ R' N', Tidy st' cum R' N' C ∧ N ⊆ N' ∧ st'.params = st.params := by
  have rounds : ackRounds ch ≤ 1 := by
    rw [ackRounds, single, UInt32.toNat_add]
    have := ch.tsn.toNat_lt
    have one : (1 : UInt32).toNat = 1 := rfl
    omega
  obtain ⟨lists', ok', rest⟩ := bind_eq_ok ok
  cases rest
  obtain ⟨dupList, avoidance, messages, eq⟩ :=
    (st.countPushed ch lists').openWindow_eq st.queuedReceivedBytes
  rw [eq]
  rcases Nat.le_one_iff_eq_zero_or_eq_one.mp rounds with none_ | one
  · rw [none_] at ok'
    cases ok'
    exact ⟨R, N, { tidy with }, subset_rfl, rfl⟩
  · rw [one] at ok' safe
    obtain ⟨⟨new, flag, lists₁⟩, ok₁, rest⟩ := bind_eq_ok ok'
    cases rest
    have same : insert (position cum ch.tsn) C = C := insert_eq_of_mem received
    obtain ⟨cum', R', N', tidy', le, sub, ends⟩ := tidy.acknowledge safe.1 ok₁ (by
        intro cum' le ends sid key mem
        rw [same] at ends
        rw [ends.unique (Tracks.ends tidy.parts.combined)])
      (by
        intro able sid key mem eq
        have eq' := congrArg serial eq
        rw [serial_position tidy.parts.far, serial_position tidy.parts.far] at eq'
        exact absurd (eq' ▸ mem) (left sid))
    rw [same] at tidy' ends
    obtain rfl := ends.unique (Tracks.ends tidy.parts.combined)
    exact ⟨R', N', { tidy' with }, sub, rfl⟩

lemma Tidy.extract {sid : ℕ} {deliveryQ : SCTPQueue}
    (taken : extractMessage (st.receiveStreams sid).deliveryQ = some (ch, deliveryQ)) :
    ch.fragments = 1 ∧ position cum ch.tsn ∈ C ∧
      Tidy (st.setStream sid { st.receiveStreams sid with deliveryQ := deliveryQ }) cum R N C ∧
      ∀ sid', ch.tsn ∉ ((st.setStream sid
        { st.receiveStreams sid with deliveryQ := deliveryQ }).receiveStreams sid').keys := by
  obtain ⟨inKeys, single, taken'⟩ := (tidy.holds sid).extractMessage taken
  have holds (sid' : ℕ) : Holds ((st.setStream sid
      { st.receiveStreams sid with deliveryQ := deliveryQ }).receiveStreams sid')
      ((st.receiveStreams sid').keys \ {ch.tsn}) := by
    by_cases here : sid' = sid
    · subst here
      rw [setStream_self]
      exact taken'
    · rw [st.setStream_of_ne here]
      refine (tidy.holds sid').mono fun tsn mem => ⟨mem, ?_⟩
      rintro rfl
      exact disjoint_left.mp (tidy.apart sid' sid here) mem inKeys
  refine ⟨single, tidy.received sid _ inKeys, Tidy.of_holds tidy.parts holds ?_ ?_ ?_, ?_⟩
  · exact fun sid₁ sid₂ ne => (tidy.apart sid₁ sid₂ ne).mono sdiff_subset sdiff_subset
  · exact fun sid' tsn mem => tidy.received sid' tsn mem.1
  · exact fun able sid' tsn mem => tidy.revokable able sid' tsn mem.1
  · exact fun sid' mem => ((holds sid').keys_subset mem).2 rfl

variable {toApp : List SCTPRcvCommand}

lemma Tidy.pushStream {restrict : Bool} {sid rounds : ℕ} {toApp' : List SCTPRcvCommand}
    (safe : PushStreamSafe restrict sid rounds st)
    (ok : Receiver.pushStream restrict sid rounds st toApp = .ok (st', toApp')) :
    ∃ R' N', Tidy st' cum R' N' C ∧ N ⊆ N' ∧ st'.params = st.params := by
  induction rounds generalizing st R N toApp with
  | zero =>
    cases ok
    exact ⟨R, N, tidy, subset_rfl, rfl⟩
  | succ rounds ih =>
    rw [Receiver.pushStream] at ok
    cases taken : extractMessage (st.receiveStreams sid).deliveryQ with
    | none =>
      rw [taken] at ok
      cases ok
      exact ⟨R, N, tidy, subset_rfl, rfl⟩
    | some pair =>
      obtain ⟨ch, deliveryQ⟩ := pair
      rw [taken] at ok
      dsimp only at ok
      split_ifs at ok with more
      · obtain ⟨st₁, ok₁, rest⟩ := bind_eq_ok ok
        obtain ⟨ackSafe, next⟩ := safe ch deliveryQ taken more
        obtain ⟨single, received, tidy₀, left⟩ := tidy.extract taken
        obtain ⟨R₁, N₁, tidy₁, sub₁, params₁⟩ := tidy₀.push single received left ackSafe ok₁
        obtain ⟨R₂, N₂, tidy₂, sub₂, params₂⟩ := ih tidy₁ (next st₁ ok₁) rest
        exact ⟨R₂, N₂, tidy₂, sub₁.trans sub₂, params₂.trans params₁⟩
      · cases ok
        exact ⟨R, N, tidy, subset_rfl, rfl⟩

lemma Tidy.pushStreams {restrict : Bool} {count i : ℕ} {toApp' : List SCTPRcvCommand}
    (safe : PushStreamsSafe restrict count i st)
    (ok : Receiver.pushStreams restrict count i st toApp = .ok (st', toApp')) :
    ∃ R' N', Tidy st' cum R' N' C ∧ N ⊆ N' ∧ st'.params = st.params := by
  induction count generalizing st R N i toApp with
  | zero =>
    cases ok
    exact ⟨R, N, tidy, subset_rfl, rfl⟩
  | succ count ih =>
    obtain ⟨rs, found, rest⟩ := bind_eq_ok ok
    rw [findStream] at found
    split_ifs at found
    cases found
    obtain ⟨⟨st₁, toApp₁⟩, ok₁, rest⟩ := bind_eq_ok rest
    obtain ⟨R₁, N₁, tidy₁, sub₁, params₁⟩ := tidy.pushStream safe.1 ok₁
    obtain ⟨R₂, N₂, tidy₂, sub₂, params₂⟩ := ih tidy₁ (safe.2 toApp (st₁, toApp₁) ok₁) rest
    exact ⟨R₂, N₂, tidy₂, sub₁.trans sub₂, params₂.trans params₁⟩

lemma Tidy.pushUlp (safe : st.PushSafe)
    (ok : st.pushUlp = .ok (st', toApp)) : ∃ R' N', Tidy st' cum R' N' C ∧ N ⊆ N' := by
  obtain ⟨st₁, ok₁, rest⟩ := bind_eq_ok ok
  obtain ⟨⟨st₂, toApp₂⟩, ok₂, rest⟩ := bind_eq_ok rest
  cases rest
  obtain ⟨R', N', tidy', sub, -⟩ :=
    (tidy.moved (Moved.startPush ok₁)).pushStreams (safe st₁ ok₁) ok₂
  exact ⟨R', N', { tidy' with }, sub⟩

/-! ## Arrivals -/

lemma Tidy.enqueueChunk (new : ∀ sid, c.tsn ∉ (st.receiveStreams sid).keys)
    (received : position cum c.tsn ∈ C)
    (revokable : st.params.disableReneging = false → position cum c.tsn ∈ R) {event : SCTPEventCode}
    (ok : st.enqueueChunk c = .ok (event, st')) : Tidy st' cum R N C := by
  obtain ⟨rs, found, rest⟩ := bind_eq_ok ok
  rw [findStream] at found
  split_ifs at found
  cases found
  obtain ⟨⟨ret, rs'⟩, ok', rest⟩ := bind_eq_ok rest
  have grown : Holds rs' (insert c.tsn (st.receiveStreams c.sid.toNat).keys) :=
    (tidy.holds _).enqueue (new _) rfl ok'
  have set : Tidy (st.setStream c.sid.toNat rs') cum R N C := by
    refine Tidy.of_holds (K := update (fun sid => (st.receiveStreams sid).keys)
      c.sid.toNat (insert c.tsn (st.receiveStreams c.sid.toNat).keys))
      tidy.parts (fun sid => ?_) (fun sid sid' ne => ?_) (fun sid => ?_) fun able sid => ?_
    · by_cases here : sid = c.sid.toNat
      · subst here
        rw [setStream_self, update_self]
        exact grown
      · rw [st.setStream_of_ne here, update_of_ne here]
        exact tidy.holds sid
    · by_cases here : sid = c.sid.toNat
      · subst here
        rw [update_self, update_of_ne ne.symm]
        exact disjoint_insert_left.mpr ⟨new sid', tidy.apart _ _ ne⟩
      · rw [update_of_ne here]
        by_cases there : sid' = c.sid.toNat
        · subst there
          rw [update_self]
          exact disjoint_insert_right.mpr ⟨new sid, tidy.apart _ _ ne⟩
        · rw [update_of_ne there]
          exact tidy.apart _ _ ne
    · by_cases here : sid = c.sid.toNat
      · subst here
        rw [update_self]
        rintro tsn (rfl | mem)
        · exact received
        · exact tidy.received _ tsn mem
      · rw [update_of_ne here]
        exact tidy.received sid
    · by_cases here : sid = c.sid.toNat
      · subst here
        rw [update_self]
        rintro tsn (rfl | mem)
        · exact revokable able
        · exact tidy.revokable able _ tsn mem
      · rw [update_of_ne here]
        exact tidy.revokable able sid
  dsimp only at rest
  split_ifs at rest with some_ whole
  · obtain ⟨st₁, ok₁, rest⟩ := bind_eq_ok rest
    cases rest
    have moved := Moved.putInDeliveryQ ok₁
    refine Tidy.moved ?_ moved
    rw [countNew]
    exact { set with }
  · cases rest
    exact { set with }
  · cases rest
    exact set

lemma Tidy.takeInTsn {tsn : UInt32} (new : position cum tsn ∉ C)
    (safe : CallSafe st.gapList tsn (!st.params.disableReneging)) (flag : Bool) :
    ∃ lists' cum' flag' R' N' covered, st.gapList.updateGapList tsn flag (!st.params.disableReneging) =
        .ok (covered, flag', lists') ∧ cum ≤ cum' ∧
      Parts lists' cum' R' N' (insert (position cum tsn) C) ∧ N ⊆ N' ∧
      (st.params.disableReneging = false → insert (position cum tsn) R ⊆ R') := by
  cases able : st.params.disableReneging with
  | false =>
    rw [able] at safe
    have fresh : position cum tsn ∈ N → position cum tsn ≤ cum := fun mem =>
      absurd (tidy.parts.union ▸ .inr mem) new
    obtain ⟨lists', cum', flag', ok, -, le, parts'⟩ :=
      tidy.parts.updateRevokable safe.notFull safe.update flag fresh
    exact ⟨lists', cum', flag', _, _, _, ok, le, parts', subset_union_left,
      fun _ => subset_union_left⟩
  | true =>
    rw [able] at safe
    obtain ⟨lists', cum', flag', ok, -, le, parts'⟩ :=
      tidy.parts.updateNonRevokable safe.notFull safe.update flag
    exact ⟨lists', cum', flag', _, _, _, ok, le, parts',
      (subset_insert _ _).trans subset_union_left, fun able => by cases able⟩

lemma Tidy.takeIn (above : cum < position cum c.tsn) (new : position cum c.tsn ∉ C)
    (safe : st.TakeInSafe c) {event : SCTPEventCode} (ok : st.takeIn c = .ok (event, st')) :
    ∃ cum' R' N' C', Tidy st' cum' R' N' C' ∧ cum ≤ cum' ∧ cum' < cum + 2147483648 ∧ N ⊆ N' := by
  have far := tidy.parts.far
  have here := serial_position far c.tsn
  have lt := position_lt cum c.tsn
  obtain ⟨lists', cum', flag', R', N', covered, ok', le, parts', sub, inR⟩ :=
    tidy.takeInTsn new safe.call st.newChunkReceived
  obtain ⟨h, eq, low, near, up, greatest⟩ := tidy.highestWith above
  have upTo : cum' ≤ h := by
    rcases Tracks.covered parts'.combined (mem_Iic.mpr le_rfl) with here | old
    · exact here ▸ up
    · exact greatest cum' old
  have recent := safe.recent
  rw [Recent, eq] at recent
  have still (sid : ℕ) (key : UInt32) (mem : key ∈ (st.receiveStreams sid).keys) :
      position cum' key = position cum key :=
    position_eq far le upTo near (recent sid key mem)
  have stillNew : position cum' c.tsn = position cum c.tsn := by
    nth_rewrite 1 [← here]
    exact position_serial (by omega) (by omega)
  have tidy' : Tidy { st with gapList := lists', newChunkReceived := flag' } cum' R' N'
      (insert (position cum c.tsn) C) := by
    refine Tidy.of_holds parts' tidy.holds tidy.apart (fun sid key mem => ?_)
      fun able sid key mem => ?_
    · rw [still sid key mem]
      exact .inr (tidy.received sid key mem)
    · rw [still sid key mem]
      exact inR able (.inr (tidy.revokable able sid key mem))
  refine ⟨cum', R', N', insert (position cum c.tsn) C, ?_, le, by omega, sub⟩
  rw [Receiver.takeIn, ok'] at ok
  dsimp only [bind, Except.bind] at ok
  rw [parts'.tryToAdvanceCumAckTSN] at ok
  dsimp only at ok
  split_ifs at ok with fresh
  · obtain ⟨⟨event', st₁⟩, ok₁, rest⟩ := bind_eq_ok ok
    cases rest
    have queued := tidy'.enqueueChunk
      (fun sid mem => new (tidy.received sid _ mem))
      (by rw [stillNew]; exact mem_insert _ _)
      (fun able => by rw [stillNew]; exact inR able (mem_insert _ _)) ok₁
    exact { queued with }
  · cases ok
    exact tidy'

lemma Tidy.processDataArrived (safe : { st with newChunkReceived := false }.DataSafe c)
    {event : SCTPEventCode} (ok : st.processDataArrived c = .ok (event, st')) :
    ∃ cum' R' N' C', Tidy st' cum' R' N' C' ∧ cum ≤ cum' ∧ cum' < cum + 2147483648 ∧ N ⊆ N' := by
  have tidy₀ : Tidy { st with newChunkReceived := false } cum R N C := { tidy with }
  have kept {st' : Receiver} (tidy' : Tidy st' cum R N C) : ∃ cum' R' N' C',
      Tidy st' cum' R' N' C' ∧ cum ≤ cum' ∧ cum' < cum + 2147483648 ∧ N ⊆ N' :=
    ⟨cum, R, N, C, tidy', le_rfl, by omega, subset_rfl⟩
  rw [Receiver.processDataArrived] at ok
  dsimp only at ok
  split_ifs at ok with stopped covered old duplicate
  · cases ok
    exact kept tidy₀
  · cases ok
    exact kept { tidy with }
  · cases ok
    exact kept { tidy with }
  · cases ok
    exact kept { tidy with }
  · obtain ⟨⟨admitted, st₁⟩, ok₁, rest⟩ := bind_eq_ok ok
    have uncovered := Bool.eq_false_of_not_eq_true covered
    have notDuplicate := Bool.eq_false_of_not_eq_true duplicate
    obtain ⟨admitSafe, takeInSafe⟩ :=
      safe (Bool.eq_false_of_not_eq_true stopped) uncovered notDuplicate
    obtain ⟨R₁, C₁, tidy₁, sub, -⟩ := tidy₀.admitChunk admitSafe ok₁
    rw [tidy.parts.tsnLe_eq, decide_eq_false_iff_not] at uncovered
    have new : position cum c.tsn ∉ C := by
      intro mem
      have inList := (tidy.parts.mem_combined c.tsn).mpr ⟨mem, not_le.mp uncovered⟩
      rw [tsnIsDuplicate, inList, Bool.or_true] at notDuplicate
      cases notDuplicate
    dsimp only at rest
    split_ifs at rest with taken
    · rw [taken] at ok₁
      exact tidy₁.takeIn (not_le.mp uncovered) (fun mem => new (sub mem)) (takeInSafe st₁ ok₁) rest
    · cases rest
      exact ⟨cum, R₁, N, C₁, tidy₁, le_rfl, by omega, subset_rfl⟩

lemma Tidy.abandonTsn {q h : ℕ} (above : q < cum + 2147483648) (below : cum ≤ q + 2147483648)
    (upTo : q ≤ h) (near : h < cum + 2147483648) (within : ∀ p ∈ C, p ≤ h)
    (recent : ∀ sid, ∀ key ∈ (st.receiveStreams sid).keys, tsnLe key (serial h) = true)
    (safe : st.gapList.cumAckTSN < serial q → st.gapList.tsnInGapList (serial q) = false →
      CallSafe st.gapList (serial q) false) (ok : st.abandonTsn (serial q) = .ok st') :
    ∃ cum' R' N' C', Tidy st' cum' R' N' C' ∧ cum ≤ cum' ∧ (∀ p ∈ C', p ≤ h) ∧ N ⊆ N' ∧
      st'.receiveStreams = st.receiveStreams := by
  have here : position cum (serial q) = q := position_serial above below
  rw [Receiver.abandonTsn] at ok
  split_ifs at ok with missing
  · obtain ⟨⟨new, flag, lists₁⟩, ok₁, rest⟩ := bind_eq_ok ok
    have grown : ∀ p ∈ insert q C, p ≤ h := by
      rintro p (rfl | mem)
      · exact upTo
      · exact within p mem
    obtain ⟨cum', R', N', tidy', le, sub, -⟩ := tidy.acknowledge (safe missing.1 missing.2) ok₁ (by
        rw [here]
        intro cum' le ends sid key mem
        exact position_eq tidy.parts.far le (grown cum' (ends.1 (mem_Iic.mpr le_rfl))) near
          (recent sid key mem))
      (by
        intro _ sid key mem eq
        by_contra beyond
        have inList := (tidy.parts.mem_combined (serial q)).mpr
          ⟨eq ▸ tidy.received sid key mem, not_le.mp beyond⟩
        rw [inList] at missing
        cases missing.2)
    rw [here] at tidy'
    dsimp only at rest
    rw [tidy'.parts.tryToAdvanceCumAckTSN] at rest
    cases rest
    exact ⟨cum', R', N', _, tidy', le, grown, sub, rfl⟩
  · cases ok
    exact ⟨cum, R, N, C, tidy, le_rfl, within, subset_rfl, rfl⟩

lemma Tidy.abandonTsns {count q h b : ℕ} (first : b < q) (last : q + count ≤ h + 1)
    (near : h < b + 2147483648) (low : b ≤ cum) (within : ∀ p ∈ C, p ≤ h)
    (recent : ∀ sid, ∀ key ∈ (st.receiveStreams sid).keys, tsnLe key (serial h) = true)
    (safe : AbandonSafe count (serial q) st)
    (ok : Receiver.abandonTsns count (serial q) st = .ok st') :
    ∃ cum' R' N' C', Tidy st' cum' R' N' C' ∧ cum ≤ cum' ∧ cum' ≤ h ∧ N ⊆ N' := by
  induction count generalizing st cum R N C q with
  | zero =>
    cases ok
    exact ⟨cum, R, N, C, tidy, le_rfl,
      within cum (tidy.parts.combined.ends.1 (mem_Iic.mpr le_rfl)), subset_rfl⟩
  | succ count ih =>
    obtain ⟨st₁, ok₁, rest⟩ := bind_eq_ok ok
    have upTo : cum ≤ h := within cum (Tracks.covered tidy.parts.combined (mem_Iic.mpr le_rfl))
    obtain ⟨cum₁, R₁, N₁, C₁, tidy₁, le₁, within₁, sub₁, same⟩ :=
      tidy.abandonTsn (by omega) (by omega) (by omega) (by omega) within recent safe.1 ok₁
    have next := safe.2 st₁ ok₁
    rw [serial_succ] at rest next
    obtain ⟨cum₂, R₂, N₂, C₂, tidy₂, le₂, upTo₂, sub₂⟩ :=
      ih tidy₁ (by omega) (by omega) (by omega) within₁ (same ▸ recent) next rest
    exact ⟨cum₂, R₂, N₂, C₂, tidy₂, le₁.trans le₂, upTo₂, sub₁.trans sub₂⟩

lemma Tidy.processForwardTsnArrived {fwChunk : SCTPForwardTsnChunk}
    (safe : st.ForwardSafe fwChunk) (ok : st.processForwardTsnArrived fwChunk = .ok st') :
    ∃ cum' R' N' C', Tidy st' cum' R' N' C' ∧ cum ≤ cum' ∧ cum' < cum + 2147483648 ∧ N ⊆ N' := by
  rw [Receiver.processForwardTsnArrived] at ok
  by_cases old : fwChunk.newCumTsn ≤ st.gapList.cumAckTSN
  · rw [if_pos old] at ok
    cases ok
    exact ⟨cum, R, N, C, tidy, le_rfl, by omega, subset_rfl⟩
  · rw [if_neg old] at ok
    obtain ⟨st₁, ok₁, rest⟩ := bind_eq_ok ok
    split_ifs at rest
    have moved := Moved.skipEntries ok₁
    have new := not_le.mp old
    have beyond := safe.notOld new
    have recent := safe.recent new
    have abandon := safe.abandon st₁ ok₁
    have far := tidy.parts.far
    have here := serial_position far fwChunk.newCumTsn
    have lt := position_lt cum fwChunk.newCumTsn
    have ge := le_position cum fwChunk.newCumTsn
    rw [tidy.parts.acked, ← here, tsnGt_serial lt ge, decide_eq_true_iff] at beyond
    obtain ⟨h, eq, low, near, up, greatest⟩ := tidy.highestWith beyond
    rw [Recent, eq] at recent
    have recent₁ (sid : ℕ) (key : UInt32) (mem : key ∈ (st₁.receiveStreams sid).keys) :
        tsnLe key (serial h) = true :=
      recent sid key ((moved.holds sid _ (tidy.holds sid)).keys_subset mem)
    have acked : st₁.gapList.cumAckTSN + 1 = serial (cum + 1) := by
      rw [moved.gapList, tidy.parts.acked, serial_succ]
    rw [acked] at rest abandon
    have count : fwChunk.newCumTsn.toNat + 1 - (serial (cum + 1)).toNat ≤
        position cum fwChunk.newCumTsn - cum := by
      rw [tidy.parts.acked, UInt32.lt_iff_toNat_lt, ← here] at new
      nth_rewrite 1 [← here]
      rw [toNat_serial, toNat_serial] at *
      omega
    obtain ⟨cum', R', N', C', tidy', le, upTo, sub⟩ := (tidy.moved moved).abandonTsns
      (h := h) (b := cum) (Nat.lt_succ_self cum) (by omega) near le_rfl greatest recent₁ abandon rest
    exact ⟨cum', R', N', C', tidy', le, by omega, sub⟩

/-! ## Runs -/

lemma Tidy.step {event : Event} (safe : st.StepSafe event)
    (ok : st.step event = .ok (st', toApp)) :
    ∃ cum' R' N' C', Tidy st' cum' R' N' C' ∧ cum ≤ cum' ∧ cum' < cum + 2147483648 ∧ N ⊆ N' := by
  cases event with
  | data c =>
    obtain ⟨r, ok', rest⟩ := map_eq_ok ok
    cases rest
    exact tidy.processDataArrived safe ok'
  | forwardTsn fwChunk =>
    obtain ⟨r, ok', rest⟩ := map_eq_ok ok
    cases rest
    exact tidy.processForwardTsnArrived safe ok'
  | receive =>
    obtain ⟨R', N', tidy', sub⟩ := tidy.pushUlp safe ok
    exact ⟨cum, R', N', C, tidy', le_rfl, by omega, sub⟩
  | sack =>
    cases ok
    obtain ⟨dupList, avoidance, messages, eq⟩ := st.sendSack_eq
    rw [eq]
    exact ⟨cum, R, N, C, { tidy with }, le_rfl, by omega, subset_rfl⟩

omit tidy

lemma Tidy.start (params : ReceiverParams) (cumAckTSN : UInt32) :
    Tidy (Receiver.start params cumAckTSN) (4294967296 + cumAckTSN.toNat)
      (Set.Iic (4294967296 + cumAckTSN.toNat)) (Set.Iic (4294967296 + cumAckTSN.toNat))
      (Set.Iic (4294967296 + cumAckTSN.toNat)) := by
  refine Tidy.of_holds (K := fun _ => ∅) (Parts.init cumAckTSN) (fun sid => Holds.init) ?_ ?_ ?_
  · exact fun sid sid' ne => disjoint_empty _
  · exact fun sid tsn mem => absurd mem (notMem_empty tsn)
  · exact fun able sid tsn mem => absurd mem (notMem_empty tsn)

end Receiver

/-- Each TSN above the cumulative ack is on the combined list and on one of the others, or on none. -/
structure SCTPGapList.Partitioned (lists : SCTPGapList) : Prop where
  disjoint : ∀ tsn, lists.tsnIsRevokable tsn = true → lists.tsnIsNonRevokable tsn = false
  union : ∀ tsn, lists.tsnInGapList tsn = (lists.tsnIsRevokable tsn || lists.tsnIsNonRevokable tsn)
  above : ∀ tsn, lists.tsnInGapList tsn = true → tsnGt tsn (lists.cumAckTSN + 1) = true

lemma Parts.partitioned {lists : SCTPGapList} {cum : ℕ} {R N C : Set ℕ}
    (parts : Parts lists cum R N C) : lists.Partitioned := by
  have both (tsn : UInt32) : lists.tsnIsRevokable tsn = true → lists.tsnIsNonRevokable tsn = true →
      False := by
    rw [parts.mem_revokable, parts.mem_nonRevokable]
    rintro ⟨memR, above⟩ ⟨memN, -⟩
    have inter : position cum tsn ∈ R ∩ N := ⟨memR, memN⟩
    rw [parts.inter] at inter
    exact absurd (mem_Iic.mp inter) (not_le.mpr above)
  refine ⟨fun tsn memR => Bool.eq_false_of_not_eq_true (both tsn memR), fun tsn => ?_, fun tsn => ?_⟩
  · rw [Bool.eq_iff_iff, Bool.or_eq_true, parts.mem_combined, parts.mem_revokable,
      parts.mem_nonRevokable, ← parts.union, mem_union, or_and_right]
  · rw [parts.mem_combined, parts.acked, serial_succ]
    rintro ⟨mem, above⟩
    have next := parts.combined.next_notMem
    have here := serial_position parts.far tsn
    have lt := position_lt cum tsn
    have ne : position cum tsn ≠ cum + 1 := fun eq => next (eq ▸ mem)
    rw [← here, tsnGt_serial (by omega) (by omega), decide_eq_true_iff]
    omega

namespace Receiver

variable {st st' : Receiver}

/-- A step that meets the condition. -/
def SafeStep (st st' : Receiver) : Prop :=
  ∃ event toApp, st.StepSafe event ∧ st.step event = .ok (st', toApp)

lemma Tidy.safeSteps {cum : ℕ} {R N C : Set ℕ} (tidy : Tidy st cum R N C)
    (run : Relation.ReflTransGen SafeStep st st') : ∃ cum' R' N' C', Tidy st' cum' R' N' C' := by
  induction run with
  | refl => exact ⟨cum, R, N, C, tidy⟩
  | tail _ safe ih =>
    obtain ⟨cum₁, R₁, N₁, C₁, tidy₁⟩ := ih
    obtain ⟨event, toApp, safe, ok⟩ := safe
    obtain ⟨cum₂, R₂, N₂, C₂, tidy₂, -⟩ := tidy₁.step safe ok
    exact ⟨cum₂, R₂, N₂, C₂, tidy₂⟩

lemma Tidy.nonRevokable_step {cum : ℕ} {R N C : Set ℕ} (tidy : Tidy st cum R N C)
    (safe : SafeStep st st') {tsn : UInt32} (nonRevokable : st.gapList.tsnIsNonRevokable tsn = true) :
    st'.gapList.tsnIsNonRevokable tsn = true ∨ tsnLe tsn st'.gapList.cumAckTSN = true := by
  obtain ⟨event, toApp, safe, ok⟩ := safe
  obtain ⟨cum', R', N', C', tidy', le, lt, sub⟩ := tidy.step safe ok
  obtain ⟨memN, above⟩ := (tidy.parts.mem_nonRevokable tsn).mp nonRevokable
  have same : position cum' tsn = position cum tsn := by
    have here := serial_position tidy.parts.far tsn
    have high := position_lt cum tsn
    nth_rewrite 1 [← here]
    exact position_serial (by omega) (by omega)
  by_cases covered : position cum tsn ≤ cum'
  · refine .inr ?_
    rw [tidy'.parts.tsnLe_eq, same]
    exact decide_eq_true covered
  · refine .inl ((tidy'.parts.mem_nonRevokable tsn).mpr ?_)
    rw [same]
    exact ⟨sub memN, not_le.mp covered⟩

/-- Along a run the two lists partition the combined one, and what is not revokable stays so until
the cumulative ack covers it. -/
theorem partition_along_run {params : ReceiverParams} {cumAckTSN : UInt32}
    (reached : Relation.ReflTransGen SafeStep (start params cumAckTSN) st) :
    st.gapList.Partitioned ∧ ∀ st', Relation.ReflTransGen SafeStep st st' →
        ∀ tsn, st.gapList.tsnIsNonRevokable tsn = true → st'.gapList.tsnIsNonRevokable tsn = true ∨
            ∃ mid, Relation.ReflTransGen SafeStep st mid ∧ Relation.ReflTransGen SafeStep mid st' ∧
              tsnLe tsn mid.gapList.cumAckTSN = true := by
  obtain ⟨cum, R, N, C, tidy⟩ := (Tidy.start params cumAckTSN).safeSteps reached
  refine ⟨tidy.parts.partitioned, fun st' run tsn nonRevokable => ?_⟩
  induction run with
  | refl => exact .inl nonRevokable
  | tail run safe ih =>
    rcases ih with still | ⟨mid, before, after, covered⟩
    · obtain ⟨cum₁, R₁, N₁, C₁, tidy₁⟩ := tidy.safeSteps run
      rcases tidy₁.nonRevokable_step safe still with kept | covered
      · exact .inl kept
      · exact .inr ⟨_, run.tail safe, .refl, covered⟩
    · exact .inr ⟨mid, before, after.tail safe, covered⟩

/-- TSN 0 is delivered first, and the block of non-revokable TSNs that starts there is passed over
when 0xfffffffa is. -/
theorem partition_passes_over_zero :
    ∃ sts, states [.data (wholeByte 0xffffffff), .data (wholeByte 0), .receive,
        .data (wholeByte 0xfffffffa), .receive] (start oneByOne 0xfffffff0) = .ok sts ∧
      (∀ st ∈ sts, st.gapList.NotFull) ∧ ∃ st ∈ sts, ¬ st.gapList.Partitioned := by
  refine ⟨_, rfl, ?_, _, .tail _ (.tail _ (.tail _ (.tail _ (.head _)))), ?_⟩
  · intro st mem
    repeat
      cases mem with
      | head => exact ⟨by decide, by decide, by decide⟩
      | tail _ mem => ?_
    cases mem
  · intro partitioned
    have union := partitioned.union 0xfffffffa
    revert union
    decide

/-- A receiver that may not renege. -/
theorem partition_along_run_two :
    ∃ st, (start { oneByOne with disableReneging := true } 0).step (.data (wholeByte 2)) =
        .ok (st, []) ∧ st.gapList.Partitioned ∧ st.gapList.tsnIsNonRevokable 2 = true := by
  refine ⟨_, rfl, (@partition_along_run _ { oneByOne with disableReneging := true } 0
    (.tail .refl ⟨.data (wholeByte 2), [], ?_, rfl⟩)).1, by decide⟩
  intro _ _ _
  refine ⟨fun full => absurd full (by decide), fun st' admitted => ?_⟩
  cases admitted
  refine ⟨⟨⟨by decide, by decide, by decide⟩, ⟨fun _ => ?_, fun _ => ?_⟩⟩, ?_⟩
  · exact ⟨nofun, nofun, nofun, nofun⟩
  · exact ⟨nofun, nofun, nofun, nofun⟩
  · rintro sid key ⟨name, e, mem, -⟩
    cases name <;> cases mem

end Receiver

end Inet.Sctp
