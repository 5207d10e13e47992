import Inet.Tcp.SegmentOutcome

/-!
# What an event does to the received stream

An event of a synchronized connection keeps the received stream and what is known of the peer's FIN
(`StreamKept`), or it is a segment that gets as far as its text and FIN bit. Before that the
handshake leaves a stream of which nothing has arrived. `WndSound` is kept along: the window is one
that `updateRcvWnd` computed.
-/

namespace Inet.Tcp.TCPConnection

open Inet.Except

variable {env : Env} {c c' d : TCPConnection} {seg : TCPSegment} {ev : TCPEventCode}

/-- A window that `updateRcvWnd` can have computed for a buffer of that size. -/
structure SoundWindow (maxRcvBuffer rcvWnd : UInt32) : Prop where
  small : rcvWnd.toNat < 1073741824
  buffer : rcvWnd ≠ 0 → maxRcvBuffer ≠ 0

abbrev WndSound (c : TCPConnection) : Prop := SoundWindow c.maxRcvBuffer c.rcvWnd

lemma windowToAdvertise_zero (empty : c.maxRcvBuffer = 0) :
    c.windowToAdvertise (c.receiveQueue.getAmountOfFreeBytes c.maxRcvBuffer) = 0 := by
  have none : c.receiveQueue.getAmountOfFreeBytes 0 = 0 := by
    unfold VirtualDataRcvQueue.getAmountOfFreeBytes
    exact if_neg UInt32.not_lt_zero
  simp [windowToAdvertise, empty, none, TCP_MAX_WIN]

lemma updateRcvWnd_sound :
    EndsIn (fun _ => True) (fun result => result.2.toInputVars = c.toInputVars ∧
      WndSound result.2) c.updateRcvWnd := by
  refine .of_forall (fun ⟨window, d⟩ ok => ?_) fun _ _ => trivial
  obtain ⟨same, win, small⟩ := updateRcvWnd_eq ok
  have inputVars : d.toInputVars = c.toInputVars := by rw [same]
  refine ⟨inputVars, small, fun open_ empty => open_ ?_⟩
  rw [inputVars] at empty
  rw [win]
  exact windowToAdvertise_zero empty

lemma sendClosed_sound (env : Env) (c : TCPConnection) :
    SynClosed env (fun _ => True) (fun _ => True)
      (fun d => d.toInputVars = c.toInputVars ∧
        (WndSound c → SoundWindow c.maxRcvBuffer d.rcvWnd)) :=
  sendClosed_rcvWnd (H := fun window => WndSound c → SoundWindow c.maxRcvBuffer window)
    fun {d} same small _ => by
      refine ⟨small, fun open_ empty => open_ (windowToAdvertise_zero ?_)⟩
      rw [same]
      exact empty

/-- The received stream and what is known of the peer's FIN stay, and so does the
soundness of the window. -/
structure StreamKept (c c' : TCPConnection) : Prop where
  rcvNxt : c'.rcvNxt = c.rcvNxt
  receiveQueue : c'.receiveQueue = c.receiveQueue
  fsm : c'.fsm = c.fsm
  finRcvd : c'.finRcvd = c.finRcvd
  rcvFinSeq : c'.rcvFinSeq = c.rcvFinSeq
  finPassed : c'.finPassed = c.finPassed
  wnd : WndSound c → WndSound c'

namespace StreamKept

lemma refl (c : TCPConnection) : StreamKept c c := ⟨rfl, rfl, rfl, rfl, rfl, rfl, id⟩

lemma trans (first : StreamKept c d) (second : StreamKept d c') : StreamKept c c' where
  rcvNxt := second.rcvNxt.trans first.rcvNxt
  receiveQueue := second.receiveQueue.trans first.receiveQueue
  fsm := second.fsm.trans first.fsm
  finRcvd := second.finRcvd.trans first.finRcvd
  rcvFinSeq := second.rcvFinSeq.trans first.rcvFinSeq
  finPassed := second.finPassed.trans first.finPassed
  wnd sound := second.wnd (first.wnd sound)

lemma of_sent (sent : d.toInputVars = c.toInputVars ∧
    (WndSound c → SoundWindow c.maxRcvBuffer d.rcvWnd)) : StreamKept c d := by
  obtain ⟨same, sound⟩ := sent
  refine ⟨?_, ?_, ?_, ?_, ?_, ?_, fun wnd => ?_⟩
  iterate 6 rw [same]
  unfold WndSound
  rw [same]
  exact sound wnd

lemma of_options (kept : OptionsKept c c') : StreamKept c c' := by
  refine ⟨?_, ?_, ?_, ?_, ?_, ?_, fun wnd => ?_⟩
  iterate 2 rw [kept.rcvStreamVars]
  iterate 4 rw [kept.closeVars]
  unfold WndSound
  rw [kept.rcvStreamVars, kept.rcvWndVars]
  exact wnd

end StreamKept

lemma runCallback_kept {callback : AlgCallback} (ok : runCallback env callback c = .ok c') :
    StreamKept c c' :=
  .of_sent (((sendClosed_sound env c).runCallback ⟨rfl, id⟩ callback).of_ok ok)

lemma sendAck_kept (ok : sendAck env c = .ok c') : StreamKept c c' :=
  .of_sent (((sendClosed_sound env c).sendAck ⟨rfl, id⟩).of_ok ok)

lemma sendAckEcn_kept {ecn : Bool} (ok : sendAckEcn env ecn c = .ok c') : StreamKept c c' :=
  .of_sent (((sendClosed_sound env c).sendAckEcn ⟨rfl, id⟩ ecn).of_ok ok)

lemma sendFIN_kept (atEnd : c.sndNxt = c.sendQueue.getBufferEndSeq)
    (ok : sendFIN env c = .ok c') : StreamKept c c' :=
  .of_sent (((sendClosed_sound env c).sendFIN ⟨rfl, id⟩ atEnd).of_ok ok)

lemma sendSyn_sound (ok : sendSyn env c = .ok c') : WndSound c' := by
  have ends : EndsIn (fun _ => True) (fun d => WndSound d) (sendSyn env c) := by
    refine EndsIn.bind (.of_forall (fun _ _ => trivial) fun _ _ => trivial) fun _ _ => ?_
    refine updateRcvWnd_sound.bind fun ⟨window, d⟩ ⟨_, sound⟩ => ?_
    have closed := sendClosed_sound env d
    refine EndsIn.bind (closed.writeSyn (closed.sendVars ⟨rfl, id⟩ _) rfl rfl)
      fun ⟨seg, e⟩ ⟨kept, syn, noFin⟩ => ?_
    exact (closed.sendSynToIP kept syn noFin).mono fun f kept =>
      (StreamKept.of_sent kept).wnd sound
  exact ends.of_ok ok

lemma sendSynAck_sound (ok : sendSynAck env c = .ok c') : WndSound c' := by
  have ends : EndsIn (fun _ => True) (fun d => WndSound d) (sendSynAck env c) := by
    refine updateRcvWnd_sound.bind fun ⟨window, d⟩ ⟨_, sound⟩ => ?_
    have closed := sendClosed_sound env d
    refine EndsIn.bind (closed.writeSyn (closed.sendVars ⟨rfl, id⟩ _) rfl rfl)
      fun ⟨seg, e⟩ ⟨kept, syn, noFin⟩ => ?_
    exact (closed.sendSynToIP kept syn noFin).bind fun f kept =>
      (StreamKept.of_sent kept).wnd sound
  exact ends.of_ok ok

/-! ## Segments, up to the text -/

lemma notAcceptable_stream (ok : notAcceptable env seg c = .ok c') : StreamKept c c' := by
  rcases bind_eq_ok ok with ⟨d, answer, ok⟩
  cases ok
  suffices kept : StreamKept c d from ⟨kept.1, kept.2, kept.3, kept.4, kept.5, kept.6, kept.7⟩
  unfold answerDuplicate at answer
  split at answer
  · cases answer
    exact .refl c
  · have sent := sendAckEcn_kept answer
    refine StreamKept.trans ?_ sent
    unfold noteDuplicate
    split_ifs
    · exact ⟨rfl, rfl, rfl, rfl, rfl, rfl, id⟩
    · exact .refl c

lemma processRst_stream (ok : c.processRst = .ok (ev, c')) : StreamKept c c' := by
  unfold processRst at ok
  split at ok
  · rcases bind_eq_ok ok with ⟨sendQueue, -, ok⟩
    rcases bind_eq_ok ok with ⟨rexmitQueue, -, ok⟩
    dsimp only at ok
    split at ok <;> cases ok <;> exact ⟨rfl, rfl, rfl, rfl, rfl, rfl, id⟩
  all_goals
    cases ok
    try exact ⟨rfl, rfl, rfl, rfl, rfl, rfl, id⟩

lemma updateWndInfo_stream (seg : TCPSegment) (doAlways : Bool) (c : TCPConnection) :
    StreamKept c (updateWndInfo seg doAlways c) := by
  simp only [updateWndInfo]
  split_ifs
  · exact ⟨rfl, rfl, rfl, rfl, rfl, rfl, id⟩
  · exact .refl c

lemma notifyDataAck_stream {oldSndUna : UInt32}
    (ok : notifyDataAck env oldSndUna c = .ok c') : StreamKept c c' := by
  rcases bind_eq_ok ok with ⟨d, callback, ok⟩
  cases ok
  exact (runCallback_kept callback).trans ⟨rfl, rfl, rfl, rfl, rfl, rfl, id⟩

lemma processOldAck_stream (ok : processOldAck env seg c = .ok c') : StreamKept c c' := by
  unfold processOldAck at ok
  split at ok
  · have noted : StreamKept c { c with dupacks := c.dupacks + 1 } :=
      ⟨rfl, rfl, rfl, rfl, rfl, rfl, id⟩
    exact (noted.trans (updateWndInfo_stream seg false _)).trans (runCallback_kept ok)
  · cases ok
    exact ⟨rfl, rfl, rfl, rfl, rfl, rfl, id⟩

lemma measureRtt_stream (ok : measureRtt env seg c = .ok c') : StreamKept c c' := by
  obtain ⟨algVars, rfl⟩ := measureRtt_eq ok
  exact ⟨rfl, rfl, rfl, rfl, rfl, rfl, id⟩

lemma discardAcked_stream {ackNo : UInt32} (ok : c.discardAcked ackNo = .ok c') :
    StreamKept c c' := by
  obtain ⟨sendQueue, rexmitQueue, -, rfl⟩ := discardAcked_eq ok
  exact ⟨rfl, rfl, rfl, rfl, rfl, rfl, id⟩

lemma processNewAck_stream (ok : processNewAck env seg c = .ok c') : StreamKept c c' := by
  unfold processNewAck at ok
  dsimp only at ok
  rcases bind_eq_ok ok with ⟨c₁, rtt, ok⟩
  rcases bind_eq_ok ok with ⟨c₂, discard, ok⟩
  have advanced : StreamKept c (c.advanceSndUna seg.ackNo) := ⟨rfl, rfl, rfl, rfl, rfl, rfl, id⟩
  have updated := ((advanced.trans (measureRtt_stream rtt)).trans
    (discardAcked_stream discard)).trans (updateWndInfo_stream seg false c₂)
  split at ok
  · refine (updated.trans ?_).trans (notifyDataAck_stream ok)
    exact ⟨rfl, rfl, rfl, rfl, rfl, rfl, id⟩
  · cases ok
    exact updated

lemma processAck_stream {goOn : Bool} (ok : processAck env seg c = .ok (goOn, c')) :
    StreamKept c c' := by
  unfold processAck at ok
  split at ok
  · unfold processAckInEstabEtc at ok
    split at ok
    · rcases bind_eq_ok ok with ⟨d, old, ok⟩
      cases ok
      exact processOldAck_stream old
    · split at ok
      · rcases bind_eq_ok ok with ⟨d, ack, ok⟩
        cases ok
        exact processNewAck_stream ack
      · rcases bind_eq_ok ok with ⟨-, -, ok⟩
        rcases bind_eq_ok ok with ⟨d, callback, ok⟩
        cases ok
        exact (runCallback_kept callback).trans ⟨rfl, rfl, rfl, rfl, rfl, rfl, id⟩
  · cases ok
    exact .refl c

lemma afterAck_stream {phase : Phase} (ok : afterAck env seg ev c = .ok phase) :
    (∃ ev' c', phase = .stop ev' c' ∧ StreamKept c c') ∨
      ∃ ev' c', phase = .go seg ev' c' ∧ StreamKept c c' ∧ (c.fsm = .synRcvd → ev' = ev) := by
  unfold afterAck at ok
  split at ok
  case h_1 s =>
    cases ok
    exact .inr ⟨_, _, rfl, .refl c, fun synRcvd => by simp [s] at synRcvd⟩
  case h_2 s =>
    split at ok
    · rcases bind_eq_ok ok with ⟨the2MSL, -, ok⟩
      cases ok
      refine .inr ⟨_, _, rfl, ?_, fun synRcvd => by simp [s] at synRcvd⟩
      exact ⟨rfl, rfl, rfl, rfl, rfl, rfl, id⟩
    · cases ok
      exact .inr ⟨_, _, rfl, .refl c, fun _ => rfl⟩
  case h_3 s =>
    split at ok
    · cases ok
      exact .inl ⟨_, _, rfl, .refl c⟩
    · cases ok
      exact .inr ⟨_, _, rfl, .refl c, fun _ => rfl⟩
  case h_4 s =>
    rcases bind_eq_ok ok with ⟨d, ack, ok⟩
    cases ok
    refine .inr ⟨_, _, rfl, (sendAck_kept ack).trans ?_, fun _ => rfl⟩
    exact ⟨rfl, rfl, rfl, rfl, rfl, rfl, id⟩
  case h_5 =>
    cases ok
    exact .inr ⟨_, _, rfl, .refl c, fun _ => rfl⟩

/-! ## A segment that reaches its text -/

/-- The least window text in SYN_RCVD can be cut to: the algorithm may have a segment
sent first, and with it the window computed anew. -/
def leastWindow (c : TCPConnection) : UInt32 :=
  if c.fsm = .synRcvd then min c.rcvWnd (min c.maxRcvBuffer TCP_MAX_WIN) else c.rcvWnd

/-- The state in which text and FIN bit of a segment are looked at. -/
structure TextReached (tcpseg : TCPSegment) (c d : TCPConnection) (start : TCPEventCode) :
    Prop where
  reaches : c.reachesAck tcpseg = true
  kept : StreamKept c d
  buffer : d.maxRcvBuffer = c.maxRcvBuffer
  rcvWnd : 0 < tcpseg.payloadLength → c.fsm ≠ .synRcvd → inDataTransfer c.fsm = true →
    d.rcvWnd = c.rcvWnd
  synRcvd : c.fsm = .synRcvd → start = .rcvAck ∧
    (0 < tcpseg.payloadLength → c.receiveQueue.regionList = [] → c.leastWindow ≤ d.rcvWnd)

lemma processSegment5th_stream {oldSndUna : UInt32} {ev' : TCPEventCode}
    (ok : processSegment5th env oldSndUna seg ev c = .ok (ev', c')) :
    StreamKept c c' ∨ ∃ d start oldSndNxt, StreamKept c d ∧ d.toRcvStreamVars = c.toRcvStreamVars ∧
      (0 < seg.payloadLength → c.fsm ≠ .timeWait → d.rcvWnd = c.rcvWnd) ∧
      (c.fsm = .synRcvd → start = ev) ∧
      processSegment7thThru8th env oldSndUna oldSndNxt seg start d = .ok (ev', c') := by
  rcases bind_eq_ok ok with ⟨⟨goOn, d⟩, ack, ok⟩
  have kept := processAck_stream ack
  cases goOn with
  | false =>
    cases ok
    exact .inl kept
  | true =>
    have ackKept := processAck_kept ack
    rcases bind_eq_ok ok with ⟨phase, after, ok⟩
    rcases afterAck_stream after with ⟨ev₁, e, rfl, keptE⟩ | ⟨ev₁, e, rfl, keptE, synRcvd⟩
    · cases ok
      exact .inl (kept.trans keptE)
    · rcases afterAck_cases after with ⟨stop, -⟩ | ⟨e', go, timers, rcvWnd, -⟩
      · cases stop
      · cases go
        refine .inr ⟨e, _, c.sndNxt, kept.trans keptE, ?_, fun text open_ => ?_, ?_, ok⟩
        · rw [timers, ackKept.rcvStreamVars]
        · have window := rcvWnd (by rwa [kept.fsm])
          rw [window, ackKept.rcvWndVars text]
        · rw [← kept.fsm]
          exact synRcvd

lemma le_windowToAdvertise (empty : c.receiveQueue.regionList = []) :
    min c.maxRcvBuffer TCP_MAX_WIN ≤
      c.windowToAdvertise (c.receiveQueue.getAmountOfFreeBytes c.maxRcvBuffer) := by
  have free : c.receiveQueue.getAmountOfFreeBytes c.maxRcvBuffer = c.maxRcvBuffer := by
    unfold VirtualDataRcvQueue.getAmountOfFreeBytes VirtualDataRcvQueue.getAmountOfBufferedBytes
    rw [empty]
    dsimp only [List.map_nil, List.sum_nil]
    split
    case isTrue => exact UInt32.sub_zero c.maxRcvBuffer
    case isFalse none => exact (UInt32.le_zero_iff.mp (UInt32.not_lt.mp none)).symm
  have whole : ¬ (c.maxRcvBuffer < c.maxRcvBuffer / 4 ∧ c.maxRcvBuffer < c.sndMss) := by
    rintro ⟨less, -⟩
    have less := UInt32.lt_iff_toNat_lt.mp less
    exact absurd (Nat.div_le_self _ _) (not_le.mpr less)
  rw [free]
  unfold windowToAdvertise
  dsimp only
  rw [if_neg whole]
  split
  · exact Std.min_le_right
  · exact Std.min_le_left

lemma runCallback_leastWindow (synRcvd : c.fsm = .synRcvd)
    (empty : c.receiveQueue.regionList = []) {callback : AlgCallback}
    (ok : runCallback env callback c = .ok c') : c.leastWindow ≤ c'.rcvWnd := by
  have closed : SynClosed env (fun _ => True) (fun _ => True) (fun d =>
      d.toInputVars = c.toInputVars ∧ c.leastWindow ≤ d.rcvWnd) :=
    sendClosed_rcvWnd (H := fun window => c.leastWindow ≤ window) fun {d} same _ => by
      have atLeast := le_windowToAdvertise (c := d) (by rw [same]; exact empty)
      rw [same] at atLeast
      unfold leastWindow
      rw [if_pos synRcvd, same]
      exact UInt32.le_trans Std.min_le_right atLeast
  refine ((closed.runCallback ⟨rfl, ?_⟩ callback).of_ok ok).2
  unfold leastWindow
  rw [if_pos synRcvd]
  exact Std.min_le_left

lemma processSegment1stThru8th_stream (ok : processSegment1stThru8th env seg c = .ok (ev, c')) :
    StreamKept c c' ∨ ∃ d start oldSndUna oldSndNxt, TextReached seg c d start ∧
      processSegment7thThru8th env oldSndUna oldSndNxt seg start d = .ok (ev, c') := by
  rcases bind_eq_ok ok with ⟨⟨acceptable, b⟩, check, ok⟩
  obtain ⟨options, accepted⟩ := checkSequenceNumber_kept check
  have kept := StreamKept.of_options options
  dsimp only at ok
  split at ok
  case isFalse =>
    rcases bind_eq_ok ok with ⟨e, answer, ok⟩
    cases ok
    exact .inl (kept.trans (notAcceptable_stream answer))
  case isTrue acceptable =>
    unfold processSegment2ndThru8th at ok
    split at ok
    case isTrue => exact .inl (kept.trans (processRst_stream ok))
    case isFalse noRst =>
      split at ok
      case isTrue =>
        rcases bind_eq_ok ok with ⟨-, -, ok⟩
        cases ok
        exact .inl (kept.trans ⟨rfl, rfl, rfl, rfl, rfl, rfl, id⟩)
      case isFalse noSyn =>
        split at ok
        case isTrue =>
          cases ok
          exact .inl kept
        case isFalse ack =>
          split at ok
          case isTrue synRcvd =>
            unfold processSegmentInSynRcvd at ok
            split at ok
            case isFalse =>
              cases ok
              exact .inl (kept.trans ⟨rfl, rfl, rfl, rfl, rfl, rfl, id⟩)
            case isTrue sent =>
              rcases bind_eq_ok ok with ⟨e, callback, ok⟩
              have called := runCallback_kept callback
              have told : StreamKept e (sendToApp .established e) :=
                ⟨rfl, rfl, rfl, rfl, rfl, rfl, id⟩
              have before := (kept.trans called).trans told
              rcases processSegment5th_stream ok with past | ⟨d, start, oldSndNxt, keptD, rcvStream,
                rcvWnd, same, ok⟩
              · exact .inl (before.trans past)
              · have inputVars := runCallback_inputVars callback
                have synRcvdE : e.fsm = .synRcvd := by rw [inputVars]; exact synRcvd
                have synRcvdC : c.fsm = .synRcvd := by rw [← kept.fsm]; exact synRcvd
                rw [options.sndStreamVars, options.sendVars] at sent
                refine .inr ⟨d, start, _, oldSndNxt, ⟨?_, before.trans keptD, ?_, ?_, ?_⟩, ok⟩
                · simp_all [reachesAck]
                · rw [rcvStream]
                  change e.maxRcvBuffer = c.maxRcvBuffer
                  rw [inputVars, options.rcvStreamVars]
                · exact fun _ notSynRcvd => absurd synRcvdC notSynRcvd
                · refine fun _ => ⟨same synRcvdE, fun text empty => ?_⟩
                  have least : c.leastWindow = b.leastWindow := by
                    unfold leastWindow
                    rw [options.closeVars, options.rcvStreamVars, options.rcvWndVars]
                  have queue : b.receiveQueue.regionList = [] := by
                    rw [options.rcvStreamVars]
                    exact empty
                  have window : d.rcvWnd = e.rcvWnd := rcvWnd text (by
                    change e.fsm ≠ _
                    rw [synRcvdE]
                    decide)
                  rw [least, window]
                  exact runCallback_leastWindow synRcvd queue callback
          case isFalse notSynRcvd =>
            rcases processSegment5th_stream ok with past | ⟨d, start, oldSndNxt, keptD, rcvStream,
              rcvWnd, same, ok⟩
            · exact .inl (kept.trans past)
            · rw [kept.fsm] at notSynRcvd rcvWnd
              refine .inr ⟨d, start, _, oldSndNxt, ⟨?_, kept.trans keptD, ?_, ?_, ?_⟩, ok⟩
              · simp_all [reachesAck]
              · rw [rcvStream, options.rcvStreamVars]
              · intro text _ transfer
                rw [rcvWnd text fun timeWait => by simp [timeWait, inDataTransfer] at transfer,
                  options.rcvWndVars]
              · exact fun synRcvd => absurd synRcvd notSynRcvd

/-! ## Commands and timers -/

/-- The events a command or a timer can have once the connection is open. -/
def localEvent (event : TCPEventCode) : Bool :=
  match event with
  | .ignore | .send | .close | .abort | .status | .queueBytesLimit | .timeout2MSL
  | .timeoutConnEstab | .timeoutFinWait2 => true
  | _ => false

/-- A command or timer keeps the stream. A SEND in LISTEN sends a SYN. -/
structure LocalOutcome (c : TCPConnection) (event : TCPEventCode) (c' : TCPConnection) :
    Prop where
  kept : StreamKept c c'
  isLocal : localEvent event = true
  syn : c.fsm = .listen → event = .send → WndSound c'

lemma LocalOutcome.of_kept (kept : StreamKept c c') (isLocal : localEvent ev = true)
    (other : ev ≠ .send) : LocalOutcome c ev c' :=
  ⟨kept, isLocal, fun _ send => absurd send other⟩

lemma enqueue_stream {len : ℕ} (ok : c.enqueue len = .ok c') : StreamKept c c' := by
  rcases bind_eq_ok ok with ⟨queue, -, ok⟩
  cases ok
  exact ⟨rfl, rfl, rfl, rfl, rfl, rfl, id⟩

lemma selectInitialSeqNum_stream (ok : selectInitialSeqNum env c = .ok c') : StreamKept c c' := by
  obtain rfl := selectInitialSeqNum_eq ok
  exact ⟨rfl, rfl, rfl, rfl, rfl, rfl, id⟩

lemma sendSyn_kept (ok : sendSyn env c = .ok c') : StreamKept c c' :=
  .of_sent (((sendClosed_sound env c).sendSyn ⟨rfl, id⟩).of_ok ok)

lemma sendSynAck_kept (ok : sendSynAck env c = .ok c') : StreamKept c c' :=
  .of_sent (((sendClosed_sound env c).sendSynAck ⟨rfl, id⟩).of_ok ok)

lemma sendInState_stream {len : ℕ} (ok : sendInState env len c = .ok c') :
    StreamKept c c' ∧ (c.fsm = .listen → WndSound c') := by
  unfold sendInState at ok
  split at ok
  case h_1 =>
    rcases bind_eq_ok ok with ⟨d, select, ok⟩
    rcases bind_eq_ok ok with ⟨e, send, ok⟩
    rcases bind_eq_ok ok with ⟨connEstab, -, ok⟩
    have queued := enqueue_stream ok
    have active : StreamKept c { c with active := true } := ⟨rfl, rfl, rfl, rfl, rfl, rfl, id⟩
    have opened := (active.trans (selectInitialSeqNum_stream select)).trans (sendSyn_kept send)
    have timed : StreamKept e { e.startSynRexmitTimer with
        timers := { e.startSynRexmitTimer.timers with connEstab := connEstab } } :=
      ⟨rfl, rfl, rfl, rfl, rfl, rfl, id⟩
    exact ⟨(opened.trans timed).trans queued, fun _ => queued.wnd (timed.wnd (sendSyn_sound send))⟩
  case h_2 s => exact ⟨enqueue_stream ok, fun listen => by simp [s] at listen⟩
  case h_3 s => exact ⟨enqueue_stream ok, fun listen => by simp [s] at listen⟩
  case h_4 s =>
    rcases bind_eq_ok ok with ⟨d, queue, ok⟩
    exact ⟨(enqueue_stream queue).trans (runCallback_kept ok), fun listen => by simp [s] at listen⟩
  case h_5 s =>
    rcases bind_eq_ok ok with ⟨d, queue, ok⟩
    exact ⟨(enqueue_stream queue).trans (runCallback_kept ok), fun listen => by simp [s] at listen⟩
  all_goals cases ok

lemma processSend_local {len : ℕ} (ok : processSend env len c = .ok (ev, c')) :
    LocalOutcome c ev c' := by
  rcases bind_eq_ok ok with ⟨d, send, ok⟩
  obtain ⟨kept, syn⟩ := sendInState_stream send
  dsimp only at ok
  split at ok
  · cases ok
    exact ⟨kept.trans ⟨rfl, rfl, rfl, rfl, rfl, rfl, id⟩, rfl, fun listen _ => syn listen⟩
  · cases ok
    exact ⟨kept, rfl, fun listen _ => syn listen⟩

lemma closeSending_local (ok : closeSending env c = .ok (ev, c')) : LocalOutcome c ev c' := by
  rcases bind_eq_ok ok with ⟨⟨ev₁, d⟩, send, ok⟩
  cases ok
  suffices sent : StreamKept c d ∧ localEvent ev = true ∧ ev ≠ .send from
    .of_kept (sent.1.trans ⟨rfl, rfl, rfl, rfl, rfl, rfl, id⟩) sent.2.1 sent.2.2
  unfold sendFinOrDefer at send
  split at send
  case isTrue atEnd =>
    rcases bind_eq_ok send with ⟨e, now, send⟩
    cases send
    refine ⟨?_, rfl, nofun⟩
    rcases bind_eq_ok now with ⟨f, fin, now⟩
    cases now
    have atMax : StreamKept c { c with sndNxt := c.sndMax } := ⟨rfl, rfl, rfl, rfl, rfl, rfl, id⟩
    have kept := sendFIN_kept (c := { c with sndNxt := c.sndMax }) atEnd fin
    exact (atMax.trans kept).trans ⟨rfl, rfl, rfl, rfl, rfl, rfl, id⟩
  case isFalse =>
    cases send
    exact ⟨.refl c, rfl, nofun⟩

lemma processClose_local (ok : processClose env c = .ok (ev, c')) : LocalOutcome c ev c' := by
  unfold processClose at ok
  split at ok
  iterate 2
    cases ok
    exact .of_kept (.refl c) rfl nofun
  iterate 3 exact closeSending_local ok
  all_goals cases ok

lemma processAbort_local (ok : c.processAbort = .ok (ev, c')) : LocalOutcome c ev c' := by
  unfold processAbort at ok
  split at ok
  · cases ok
  all_goals
    cases ok
    exact .of_kept ⟨rfl, rfl, rfl, rfl, rfl, rfl, id⟩ rfl nofun

lemma processCommand_local {command : AppCommand} (opened : c.fsm ≠ .init)
    (ok : processCommand env command c = .ok (ev, c')) : LocalOutcome c ev c' := by
  cases command with
  | openActive lp rp =>
    change processOpenActive env lp rp c = .ok (ev, c') at ok
    unfold processOpenActive at ok
    split at ok
    case isTrue init => exact absurd init opened
    case isFalse => cases ok
  | openPassive lp fork =>
    change processOpenPassive lp fork c = .ok (ev, c') at ok
    unfold processOpenPassive at ok
    split at ok
    case isTrue init => exact absurd init opened
    case isFalse => cases ok
  | send len => exact processSend_local ok
  | close => exact processClose_local ok
  | abort => exact processAbort_local ok
  | status =>
    unfold processCommand at ok
    rw [if_neg opened] at ok
    cases ok
    exact .of_kept ⟨rfl, rfl, rfl, rfl, rfl, rfl, id⟩ rfl nofun
  | queueBytesLimit limit =>
    unfold processCommand at ok
    dsimp only at ok
    rw [if_neg opened] at ok
    cases ok
    exact .of_kept ⟨rfl, rfl, rfl, rfl, rfl, rfl, id⟩ rfl nofun

lemma resendSyn_stream (ok : resendSyn env c = .ok c') : StreamKept c c' := by
  unfold resendSyn at ok
  split at ok
  · exact sendSyn_kept ok
  · exact sendSynAck_kept ok
  · cases ok

lemma processTimer_local {timer : ConnTimer} (ok : processTimer env timer c = .ok (ev, c')) :
    LocalOutcome c ev c' := by
  rcases processTimer_cases ok with
    ⟨timers, toApp, count, gives, rfl⟩ | ⟨timers, count, d, timers', rfl, resend, rfl⟩
  · have kept : StreamKept c
        { c with timers := timers, toApp := toApp, synRexmitCount := count } :=
      ⟨rfl, rfl, rfl, rfl, rfl, rfl, id⟩
    rcases gives with rfl | rfl | rfl | rfl <;> exact .of_kept kept rfl nofun
  · refine .of_kept ?_ rfl nofun
    have counted : StreamKept c { c with timers := timers, synRexmitCount := count } :=
      ⟨rfl, rfl, rfl, rfl, rfl, rfl, id⟩
    have resent : StreamKept c d := counted.trans (resendSyn_stream resend)
    exact resent.trans ⟨rfl, rfl, rfl, rfl, rfl, rfl, id⟩

lemma processAlgTimer_local {timer : AlgTimer}
    (ok : processAlgTimer env timer c = .ok (ev, c')) : LocalOutcome c ev c' := by
  rcases bind_eq_ok ok with ⟨d, callback, ok⟩
  cases ok
  refine .of_kept (runCallback_kept callback) ?_ ?_
  · split_ifs <;> rfl
  · split_ifs <;> exact nofun

variable {input : TcpInput}

lemma process_local (opened : c.fsm ≠ .init) (noSegment : input.arrival = none)
    (ok : process env input c = .ok (ev, c')) : LocalOutcome c ev c' := by
  cases input with
  | command command => exact processCommand_local opened ok
  | segment seg => cases noSegment
  | timer timer => exact processTimer_local ok
  | algTimer timer => exact processAlgTimer_local ok
  | resizeBuffer maxRcvBuffer =>
    unfold process at ok
    dsimp only at ok
    rw [if_neg opened] at ok
    cases ok
    refine .of_kept ⟨rfl, rfl, rfl, rfl, rfl, rfl, fun sound => ⟨sound.small, fun _ => ?_⟩⟩ rfl nofun
    intro empty
    change (if maxRcvBuffer ≤ 3000 then (3000 : UInt32) else maxRcvBuffer) = 0 at empty
    split at empty
    case isTrue => exact absurd empty (by decide)
    case isFalse large => exact large (empty ▸ by decide)

/-! ## Handshake -/

lemma noSpace_for_synText (first : c.receiveQueue.getFirstSeqNo = seg.sequenceNo + 1) :
    ¬ c.hasEnoughSpaceForSegmentInReceiveQueue seg = true := by
  intro fits
  have fits := (of_decide_eq_true fits).1
  rw [first] at fits
  unfold seqLE at fits
  have behind : seg.sequenceNo - (seg.sequenceNo + 1) = 4294967295 := by
    apply UInt32.toNat_inj.mp
    rw [UInt32.toNat_sub, UInt32.toNat_add]
    have one : (1 : UInt32).toNat = 1 := rfl
    have max : (4294967295 : UInt32).toNat = 4294967295 := rfl
    omega
  rw [behind] at fits
  exact absurd fits (by decide)

/-- A SYN with text is dropped, whatever the text. -/
lemma acceptSynText_eq {start : TCPEventCode}
    (first : c.receiveQueue.getFirstSeqNo = seg.sequenceNo + 1) : acceptSynText start seg c = .ok (
      if 0 < seg.payloadLength then
        (.ignore, { c.updateRcvQueueVars with tcpRcvQueueDrops := c.tcpRcvQueueDrops + 1 })
      else (start, c)) := by
  unfold acceptSynText
  split
  · exact if_neg (noSpace_for_synText (c := c.updateRcvQueueVars) first)
  · rfl

lemma acceptSynText_of_syn {start : TCPEventCode}
    (seqNo : c.rcvNxt = seg.sequenceNo + 1) (queue : c.receiveQueue = .init c.rcvNxt)
    (ok : acceptSynText start seg c = .ok (ev, c')) :
    StreamKept c c' ∧ (ev = start ∨ ev = .ignore) := by
  have first : c.receiveQueue.getFirstSeqNo = seg.sequenceNo + 1 := by
    rw [queue, ← seqNo]
    rfl
  rw [acceptSynText_eq first] at ok
  split at ok
  · cases ok
    exact ⟨⟨rfl, rfl, rfl, rfl, rfl, rfl, id⟩, .inr rfl⟩
  · cases ok
    exact ⟨.refl c, .inl rfl⟩

/-- A stream of which nothing has arrived. -/
def FreshStream (c : TCPConnection) : Prop := c.receiveQueue = .init c.rcvNxt

lemma FreshStream.kept (fresh : FreshStream c) (kept : StreamKept c d) : FreshStream d := by
  unfold FreshStream
  rw [kept.receiveQueue, kept.rcvNxt]
  exact fresh

lemma readSynOptions_stream (ok : readSynOptions seg c = .ok c') : StreamKept c c' :=
  .of_options (readSynOptions_kept ok)

lemma processSegmentInListen_stream (ok : processSegmentInListen env seg c = .ok (ev, c')) :
    ev = .ignore ∨ ev = .rcvSyn ∧ FreshStream c' ∧ WndSound c' := by
  unfold processSegmentInListen at ok
  split at ok
  · cases ok
    exact .inl rfl
  · split at ok
    · cases ok
      exact .inl rfl
    · split at ok
      · rcases bind_eq_ok ok with ⟨c₁, -, ok⟩
        rcases bind_eq_ok ok with ⟨c₂, select, ok⟩
        rcases bind_eq_ok ok with ⟨c₃, options, ok⟩
        rcases bind_eq_ok ok with ⟨c₄, send, ok⟩
        have acked : StreamKept c₃ { c₃ with ackNow := true } :=
          ⟨rfl, rfl, rfl, rfl, rfl, rfl, id⟩
        have read := (updateWndInfo_stream seg true c₂).trans (readSynOptions_stream options)
        have opened : StreamKept (c₁.receiveSyn seg) c₄ :=
          (((selectInitialSeqNum_stream select).trans read).trans acked).trans
            (sendSynAck_kept send)
        have timed : StreamKept c₄ { c₄.startSynRexmitTimer with
            timers := { c₄.startSynRexmitTimer.timers with connEstab := true } } :=
          ⟨rfl, rfl, rfl, rfl, rfl, rfl, id⟩
        have seqNo := (opened.trans timed).rcvNxt
        have fresh : FreshStream (c₁.receiveSyn seg) := rfl
        obtain ⟨kept, happens⟩ := acceptSynText_of_syn seqNo (fresh.kept (opened.trans timed)) ok
        rcases happens with rfl | rfl
        · refine .inr ⟨rfl, (fresh.kept (opened.trans timed)).kept kept, ?_⟩
          exact kept.wnd (timed.wnd (sendSynAck_sound send))
        · exact .inl rfl
      · cases ok
        exact .inl rfl

lemma acceptSynAckField_stream (ok : acceptSynAckField seg c = .ok c') : StreamKept c c' := by
  unfold acceptSynAckField at ok
  split at ok
  · rcases bind_eq_ok ok with ⟨sendQueue, -, ok⟩
    rcases bind_eq_ok ok with ⟨rexmitQueue, -, ok⟩
    cases ok
    have acked : StreamKept c
        { c with sndUna := seg.ackNo, sendQueue := sendQueue, rexmitQueue := rexmitQueue } :=
      ⟨rfl, rfl, rfl, rfl, rfl, rfl, id⟩
    exact acked.trans (updateWndInfo_stream seg true _)
  · cases ok
    exact .refl c

lemma establishActively_stream (seqNo : c.rcvNxt = seg.sequenceNo + 1) (fresh : FreshStream c)
    (ok : establishActively env seg c = .ok (ev, c')) :
    StreamKept c c' ∧ (ev = .ignore ∨ ev = .rcvSynAck) := by
  rcases bind_eq_ok ok with ⟨⟨start, d⟩, text, ok⟩
  obtain ⟨kept, happens⟩ := acceptSynText_of_syn seqNo fresh text
  split at ok
  case h_1 same =>
    cases same
    cases ok
    exact ⟨kept, .inl rfl⟩
  case h_2 notIgnored same =>
    cases same
    rcases bind_eq_ok ok with ⟨e, options, ok⟩
    rcases bind_eq_ok ok with ⟨f, callback, ok⟩
    cases ok
    have acked : StreamKept e { e with ackNow := true } := ⟨rfl, rfl, rfl, rfl, rfl, rfl, id⟩
    have called := (acked.trans (runCallback_kept callback)).trans
      (⟨rfl, rfl, rfl, rfl, rfl, rfl, id⟩ : StreamKept f (sendToApp .established f))
    exact ⟨(kept.trans (readSynOptions_stream options)).trans called, happens.symm⟩

lemma openSimultaneously_stream (seqNo : c.rcvNxt = seg.sequenceNo + 1)
    (fresh : FreshStream c) (ok : openSimultaneously env seg c = .ok (ev, c')) :
    StreamKept c c' ∧ (ev = .ignore ∨ ev = .rcvSyn) := by
  rcases bind_eq_ok ok with ⟨d, send, ok⟩
  have back : StreamKept c { c with sndMax := c.iss, sndNxt := c.iss } :=
    ⟨rfl, rfl, rfl, rfl, rfl, rfl, id⟩
  have timed : StreamKept d d.startSynRexmitTimer := ⟨rfl, rfl, rfl, rfl, rfl, rfl, id⟩
  have before := (back.trans (sendSynAck_kept send)).trans timed
  obtain ⟨kept, happens⟩ := acceptSynText_of_syn (before.rcvNxt.trans seqNo) (fresh.kept before) ok
  exact ⟨before.trans kept, happens.symm⟩

lemma processSegmentInSynSent_stream (sound : WndSound c)
    (ok : processSegmentInSynSent env seg c = .ok (ev, c')) :
    WndSound c' ∧ (ev = .ignore ∨ ev = .rcvRst ∨
      (ev = .rcvSyn ∨ ev = .rcvSynAck) ∧ FreshStream c') := by
  unfold processSegmentInSynSent at ok
  split at ok
  · cases ok
    refine ⟨?_, .inl rfl⟩
    split_ifs <;> exact sound
  · split at ok
    · split at ok
      · cases ok
        exact ⟨sound, .inr (.inl rfl)⟩
      · cases ok
        exact ⟨sound, .inl rfl⟩
    · split at ok
      · rcases bind_eq_ok ok with ⟨d, ack, ok⟩
        have fresh : FreshStream (c.receiveSyn seg) := rfl
        have opened : StreamKept (c.receiveSyn seg) { d with
            localPort := some seg.destPort, remotePort := some seg.srcPort } :=
          (acceptSynAckField_stream ack).trans ⟨rfl, rfl, rfl, rfl, rfl, rfl, id⟩
        have seqNo := opened.rcvNxt
        dsimp only at ok
        split at ok
        · obtain ⟨kept, happens⟩ := establishActively_stream seqNo (fresh.kept opened) ok
          refine ⟨kept.wnd (opened.wnd sound), happens.imp_right fun synAck => ?_⟩
          exact .inr ⟨.inr synAck, (fresh.kept opened).kept kept⟩
        · obtain ⟨kept, happens⟩ := openSimultaneously_stream seqNo (fresh.kept opened) ok
          refine ⟨kept.wnd (opened.wnd sound), happens.imp_right fun syn => ?_⟩
          exact .inr ⟨.inl syn, (fresh.kept opened).kept kept⟩
      · cases ok
        exact ⟨sound, .inl rfl⟩

/-! ## Whole events -/

/-- What is known once an event has been processed before the peer's SYN was in. -/
structure EarlyOutcome (state : TcpState) (c' : TCPConnection) : Prop where
  sound : state ≠ .init → state ≠ .listen → state ≠ .closed → WndSound c'
  fresh : beforeSyn state = false → state ≠ .closed →
    FreshStream c' ∧ (state = .synRcvd ∨ state = .established)

lemma EarlyOutcome.of_state {s : TcpState}
    (unopened : s = .init ∨ s = .listen ∨ s = .closed) : EarlyOutcome s c' := by
  refine ⟨fun notInit notListen notClosed => ?_, fun synced notClosed => ?_⟩
  · rcases unopened with same | same | same <;> contradiction
  · rcases unopened with rfl | rfl | same
    · cases synced
    · cases synced
    · contradiction

lemma EarlyOutcome.of_synSent (sound : WndSound c') : EarlyOutcome .synSent c' :=
  ⟨fun _ _ _ => sound, fun synced => by cases synced⟩

lemma processOpenActive_sound {lp rp : Option UInt16}
    (ok : processOpenActive env lp rp c = .ok (ev, c')) : ev = .openActive ∧ WndSound c' := by
  unfold processOpenActive at ok
  split at ok
  · rcases bind_eq_ok ok with ⟨d, init, ok⟩
    split at ok
    · cases ok
    · rcases bind_eq_ok ok with ⟨e, select, ok⟩
      rcases bind_eq_ok ok with ⟨f, send, ok⟩
      rcases bind_eq_ok ok with ⟨connEstab, -, ok⟩
      cases ok
      have sound := sendSyn_sound send
      exact ⟨rfl, (sound :)⟩
  · cases ok

lemma nextState_init {active : Bool} (isLocal : localEvent ev = true) :
    nextState active .init ev = .init := by
  cases ev <;> first | rfl | cases isLocal

lemma process_init (init : c.fsm = .init) (ok : process env input c = .ok (ev, c')) :
    EarlyOutcome (nextState c'.active .init ev) c' := by
  cases input with
  | command command =>
    cases command with
    | openActive lp rp =>
      obtain ⟨rfl, sound⟩ := processOpenActive_sound ok
      exact .of_synSent sound
    | openPassive lp fork =>
      change processOpenPassive lp fork c = .ok (ev, c') at ok
      unfold processOpenPassive at ok
      rw [if_pos init] at ok
      rcases bind_eq_ok ok with ⟨d, -, ok⟩
      split at ok
      · cases ok
      · cases ok
        exact .of_state (.inr (.inl rfl))
    | send len =>
      rcases bind_eq_ok ok with ⟨d, send, -⟩
      unfold sendInState at send
      rw [init] at send
      cases send
    | close =>
      change processClose env c = .ok (ev, c') at ok
      unfold processClose at ok
      rw [init] at ok
      cases ok
    | abort =>
      change processAbort c = .ok (ev, c') at ok
      unfold processAbort at ok
      rw [init] at ok
      cases ok
    | status =>
      unfold process processCommand at ok
      rw [if_pos init] at ok
      cases ok
    | queueBytesLimit limit =>
      unfold process processCommand at ok
      dsimp only at ok
      rw [if_pos init] at ok
      cases ok
  | segment seg =>
    unfold process processRcvSegment at ok
    rw [init] at ok
    cases ok
  | timer timer =>
    rw [nextState_init (processTimer_local ok).isLocal]
    exact .of_state (.inl rfl)
  | algTimer timer =>
    rw [nextState_init (processAlgTimer_local ok).isLocal]
    exact .of_state (.inl rfl)
  | resizeBuffer maxRcvBuffer =>
    unfold process at ok
    dsimp only at ok
    rw [if_pos init] at ok
    cases ok

lemma process_listen (listen : c.fsm = .listen) (ok : process env input c = .ok (ev, c')) :
    EarlyOutcome (nextState c'.active .listen ev) c' := by
  cases arrival : input.arrival with
  | none =>
    have outcome := process_local (by rw [listen]; nofun) arrival ok
    have isLocal := outcome.isLocal
    cases ev with
    | send => exact .of_synSent (outcome.syn listen rfl)
    | close | abort => exact .of_state (.inr (.inr rfl))
    | ignore | status | queueBytesLimit | timeout2MSL | timeoutConnEstab | timeoutFinWait2 =>
      exact .of_state (.inr (.inl rfl))
    | _ => cases isLocal
  | some seg =>
    cases input <;> cases arrival
    unfold process processRcvSegment at ok
    rw [listen] at ok
    rcases processSegmentInListen_stream ok with rfl | ⟨rfl, fresh, sound⟩
    · exact .of_state (.inr (.inl rfl))
    · exact ⟨fun _ _ _ => sound, fun _ _ => ⟨fresh, .inl rfl⟩⟩

lemma process_synSent (synSent : c.fsm = .synSent) (sound : WndSound c)
    (ok : process env input c = .ok (ev, c')) :
    EarlyOutcome (nextState c'.active .synSent ev) c' := by
  cases arrival : input.arrival with
  | none =>
    have outcome := process_local (by rw [synSent]; nofun) arrival ok
    have isLocal := outcome.isLocal
    cases ev with
    | close | abort | timeoutConnEstab => exact .of_state (.inr (.inr rfl))
    | ignore | send | status | queueBytesLimit | timeout2MSL | timeoutFinWait2 =>
      exact .of_synSent (outcome.kept.wnd sound)
    | _ => cases isLocal
  | some seg =>
    cases input <;> cases arrival
    unfold process processRcvSegment at ok
    rw [synSent] at ok
    obtain ⟨soundAfter, happens⟩ := processSegmentInSynSent_stream sound ok
    rcases happens with rfl | rfl | ⟨rfl | rfl, fresh⟩
    · exact .of_synSent soundAfter
    · exact .of_state (.inr (.inr rfl))
    · exact ⟨fun _ _ _ => soundAfter, fun _ _ => ⟨fresh, .inl rfl⟩⟩
    · exact ⟨fun _ _ _ => soundAfter, fun _ _ => ⟨fresh, .inr rfl⟩⟩

/-- An event before the peer's SYN is in. -/
lemma process_beforeSyn (early : beforeSyn c.fsm = true) (sound : c.fsm = .synSent → WndSound c)
    (ok : process env input c = .ok (ev, c')) : EarlyOutcome (nextState c'.active c.fsm ev) c' := by
  cases s : c.fsm with
  | init => exact process_init s ok
  | listen => exact process_listen s ok
  | synSent => exact process_synSent s (sound s) ok
  | _ => simp [beforeSyn, s] at early

lemma process_stream (synced : beforeSyn c.fsm = false)
    (ok : process env input c = .ok (ev, c')) :
    StreamKept c c' ∨ ∃ seg d start oldSndUna oldSndNxt, input = .segment seg ∧
      TextReached seg c d start ∧
      processSegment7thThru8th env oldSndUna oldSndNxt seg start d = .ok (ev, c') := by
  cases arrival : input.arrival with
  | none =>
    refine .inl (process_local (fun init => ?_) arrival ok).kept
    rw [init] at synced
    cases synced
  | some seg =>
    cases input <;> cases arrival
    unfold process processRcvSegment at ok
    dsimp only at ok
    split at ok
    · cases ok
    · simp_all [beforeSyn]
    · simp_all [beforeSyn]
    · rcases processSegment1stThru8th_stream ok with kept | ⟨d, start, oldSndUna, oldSndNxt, past⟩
      · exact .inl kept
      · exact .inr ⟨seg, d, start, oldSndUna, oldSndNxt, rfl, past⟩

end Inet.Tcp.TCPConnection
