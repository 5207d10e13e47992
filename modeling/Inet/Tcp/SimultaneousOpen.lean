import Inet.Tcp.SocketFrame

/-!
# Simultaneous open

Both sides issue OPEN_ACTIVE and their SYNs cross; everything is delivered once, in any order. A
SYN+ACK takes a peer in SYN_SENT to ESTABLISHED, and closes one in SYN_RCVD, where it is a SYN
inside the window. So no order of deliveries takes both sides through SYN_RCVD.
-/

namespace Inet.Tcp

open TCPConnection Inet.Except List Option

namespace TCPConnection

variable {env : Env} {seg seg' : TCPSegment} {event : TCPEventCode} {c c' : TCPConnection}

/-- Nothing has been acknowledged yet, and no timestamp has come in. -/
structure Fresh (c : TCPConnection) : Prop where
  sndUna : c.sndUna = c.iss
  sndNxt : c.sndNxt = c.iss + 1
  sndMax : c.sndMax = c.iss + 1
  tsEnabled : c.tsEnabled = false
  rcvInitialTs : c.rcvInitialTs = false

lemma writeHeaderOptions_untimed (untimed : c.tsEnabled = false ∧ c.rcvInitialTs = false)
    (ok : writeHeaderOptions env seg c = .ok (seg', c')) :
    c'.tsEnabled = false ∧ c'.rcvInitialTs = false := by
  rcases bind_eq_ok ok with ⟨⟨middle, d⟩, first, ok⟩
  have changed : (writeChangedBuffer middle d).2 = c' := congrArg Prod.snd (Except.ok.inj ok)
  suffices written : d.tsEnabled = false ∧ d.rcvInitialTs = false by
    rw [← changed]
    simp only [writeChangedBuffer, writeWindowScale]
    split_ifs <;> exact written
  unfold writeStateOptions at first
  split at first
  · have written : (writeSynOptions env seg c).2 = d := congrArg Prod.snd (Except.ok.inj first)
    rw [← written]
    simp only [writeSynOptions, writeWindowScale, writeSackPermitted, writeInitialTimestamp]
    split_ifs <;> simp [untimed]
  · split at first
    · unfold writeDataOptions at first
      split at first
      · rw [addSacks_eq first]
        exact untimed
      · cases first
        exact untimed
    · cases first
      exact untimed

lemma Fresh.of_syn {d e : TCPConnection} {window : UInt16} (sndUna : c.sndUna = c.iss)
    (untimed : c.tsEnabled = false ∧ c.rcvInitialTs = false)
    (update : c.updateRcvWnd = .ok (window, d))
    (write : writeHeaderOptions env seg { d with sndMax := d.iss + 1, sndNxt := d.iss + 1 } =
      .ok (seg', e))
    (send : sendToIP seg' e = .ok c') : Fresh c' := by
  have written := writeHeaderOptions_written write
  have una : d.sndUna = d.iss := by
    rw [(updateRcvWnd_eq update).1]
    exact sndUna
  have still : d.tsEnabled = false ∧ d.rcvInitialTs = false := by
    rw [(updateRcvWnd_eq update).1]
    exact untimed
  obtain ⟨tsEnabled, rcvInitialTs⟩ := writeHeaderOptions_untimed (by exact still) write
  have iss : e.iss = d.iss := by rw [written.inputVars]
  have sndUna : e.sndUna = e.iss := by
    rw [written.inputVars]
    exact una
  have sndNxt : e.sndNxt = e.iss + 1 := by rw [written.sendVars, iss]
  have sndMax : e.sndMax = e.iss + 1 := by rw [written.sendVars, iss]
  rw [sendToIP_eq send]
  exact ⟨sndUna, sndNxt, sndMax, tsEnabled, rcvInitialTs⟩

lemma sendSyn_fresh (sndUna : c.sndUna = c.iss)
    (untimed : c.tsEnabled = false ∧ c.rcvInitialTs = false) (ok : sendSyn env c = .ok c') :
    Fresh c' := by
  rcases bind_eq_ok ok with ⟨-, -, ok⟩
  rcases bind_eq_ok ok with ⟨⟨window, d⟩, update, ok⟩
  rcases bind_eq_ok ok with ⟨⟨seg, e⟩, write, send⟩
  exact .of_syn sndUna untimed update write send

lemma sendSynAck_fresh (sndUna : c.sndUna = c.iss)
    (untimed : c.tsEnabled = false ∧ c.rcvInitialTs = false) (ok : sendSynAck env c = .ok c') :
    Fresh c' := by
  rcases bind_eq_ok ok with ⟨⟨window, d⟩, update, ok⟩
  rcases bind_eq_ok ok with ⟨⟨seg, e⟩, write, ok⟩
  rcases bind_eq_ok ok with ⟨f, send, ok⟩
  cases ok
  have sent : Fresh f := .of_syn sndUna untimed update write send
  exact ⟨sent.sndUna, sent.sndNxt, sent.sndMax, sent.tsEnabled, sent.rcvInitialTs⟩

/-! ## One side -/

lemma handle_openActive {par : TCPPar} {localPort remotePort : Option UInt16}
    (ok : handle env (.command (.openActive localPort remotePort)) (new par) = .ok c) :
    c.fsm = .synSent ∧ Fresh c ∧
      ∃ syn, c.sent = [syn] ∧ Bare syn ∧ syn.synBit = true ∧ syn.ackBit = false ∧
        syn.sequenceNo = c.iss := by
  obtain ⟨event, d, timers, toApp, processed, -, rfl⟩ := handle_eq ok
  have fsm := process_fsm processed
  change processOpenActive env localPort remotePort (new par) = .ok (event, d) at processed
  unfold processOpenActive at processed
  rcases bind_eq_ok processed with ⟨c₁, init, processed⟩
  split at processed
  · cases processed
  · rcases bind_eq_ok processed with ⟨c₂, select, processed⟩
    rcases bind_eq_ok processed with ⟨c₃, syn, processed⟩
    rcases bind_eq_ok processed with ⟨connEstab, -, processed⟩
    cases processed
    obtain ⟨rcvWnd, rfl⟩ := configureStateVariables_eq init
    obtain rfl := selectInitialSeqNum_eq select
    have fresh : Fresh c₃ := sendSyn_fresh rfl ⟨rfl, rfl⟩ syn
    obtain ⟨seg, sent, bare, synBit, ackBit, sequenceNo⟩ := sendSyn_sent syn
    have iss : c₃.iss = env.isn := by rw [sendSyn_inputVars syn]
    refine ⟨?_, ⟨fresh.sndUna, fresh.sndNxt, fresh.sndMax, fresh.tsEnabled, fresh.rcvInitialTs⟩,
      seg, sent, bare, synBit, ackBit, sequenceNo.trans iss.symm⟩
    rw [fsm]
    rfl

lemma acceptSynText_of_bare (bare : Bare seg) (event : TCPEventCode) (c : TCPConnection) :
    acceptSynText event seg c = .ok (event, c) := by
  unfold acceptSynText
  rw [bare.payloadLength]
  rfl

/-- The number behind a SYN is above that of the SYN, and only it. -/
lemma seqLess_add_one (a : UInt32) : seqLess a (a + 1) := by
  have gap : a + 1 - a = 1 := by rw [UInt32.add_comm, UInt32.add_sub_cancel]
  refine ⟨fun same => ?_, ?_⟩
  · rw [← same, UInt32.sub_self] at gap
    cases gap
  · rw [gap]
    decide

lemma acceptSynAckField_noAck (noAck : seg.ackBit = false) (c : TCPConnection) :
    acceptSynAckField seg c = .ok c := by
  unfold acceptSynAckField
  rw [if_neg (by simp [noAck])]

lemma acceptSynAckField_ack (ack : seg.ackBit = true)
    (ok : acceptSynAckField seg c = .ok c') : c'.sndUna = seg.ackNo ∧ c'.iss = c.iss := by
  unfold acceptSynAckField at ok
  rw [if_pos ack] at ok
  rcases bind_eq_ok ok with ⟨sendQueue, -, ok⟩
  rcases bind_eq_ok ok with ⟨rexmitQueue, -, ok⟩
  cases ok
  simp [updateWndInfo, trueWindow]

lemma process_syn_synSent (synSent : c.fsm = .synSent) (bare : Bare seg) (syn : seg.synBit = true)
    (acceptable : ¬ (seg.ackBit = true ∧ (seqLE seg.ackNo c.iss ∨ seqGreater seg.ackNo c.sndNxt)))
    (ok : process env (.segment seg) c = .ok (event, c')) :
    acceptSynInSynSent env seg c = .ok (event, c') := by
  change processRcvSegment env seg c = .ok (event, c') at ok
  unfold processRcvSegment at ok
  rw [synSent] at ok
  unfold processSegmentInSynSent at ok
  rw [if_neg acceptable, if_neg (by simp [bare.rstBit]), if_pos syn] at ok
  exact ok

lemma handle_syn_synSent (synSent : c.fsm = .synSent) (fresh : Fresh c) (bare : Bare seg)
    (syn : seg.synBit = true) (noAck : seg.ackBit = false)
    (ok : handle env (.segment seg) c = .ok c') :
    c'.fsm = .synRcvd ∧ Fresh c' ∧ c'.iss = c.iss ∧
      ∃ synAck, c'.sent = c.sent ++ [synAck] ∧ Bare synAck ∧ synAck.synBit = true ∧
        synAck.ackBit = true ∧ synAck.ackNo = seg.sequenceNo + 1 := by
  obtain ⟨event, d, timers, toApp, processed, -, rfl⟩ := handle_eq ok
  have fsm := process_fsm processed
  have opened := process_syn_synSent synSent bare syn (by simp [noAck]) processed
  unfold acceptSynInSynSent at opened
  rw [acceptSynAckField_noAck noAck] at opened
  rcases bind_eq_ok opened with ⟨c₁, received, opened⟩
  cases received
  have waiting : ¬ seqGreater c.sndUna c.iss := by
    rw [fresh.sndUna]
    exact fun greater => greater.1 rfl
  dsimp only [receiveSyn] at opened
  rw [if_neg waiting] at opened
  rcases bind_eq_ok opened with ⟨c₂, synAck, opened⟩
  rw [acceptSynText_of_bare bare] at opened
  cases opened
  have after : Fresh c₂ := sendSynAck_fresh (by exact fresh.sndUna)
    (by exact ⟨fresh.tsEnabled, fresh.rcvInitialTs⟩) synAck
  have iss : c₂.iss = c.iss := by rw [sendSynAck_inputVars synAck]
  obtain ⟨segment, sent, plain, synBit, ackBit, -, ackNo⟩ := sendSynAck_sent synAck
  refine ⟨?_, ⟨after.sndUna, after.sndNxt, after.sndMax, after.tsEnabled, after.rcvInitialTs⟩,
    iss, segment, sent, plain, synBit, ackBit, ackNo⟩
  have state : c₂.fsm = .synSent := fsm.trans synSent
  dsimp only [startSynRexmitTimer]
  rw [state]
  rfl

lemma handle_synAck_synSent (synSent : c.fsm = .synSent) (fresh : Fresh c) (bare : Bare seg)
    (syn : seg.synBit = true) (ack : seg.ackBit = true) (ackNo : seg.ackNo = c.iss + 1)
    (ok : handle env (.segment seg) c = .ok c') : c'.fsm = .established := by
  obtain ⟨event, d, timers, toApp, processed, -, rfl⟩ := handle_eq ok
  have fsm := process_fsm processed
  have acceptable : ¬ (seg.ackBit = true ∧
      (seqLE seg.ackNo c.iss ∨ seqGreater seg.ackNo c.sndNxt)) := by
    rintro ⟨-, old | new⟩
    · rw [ackNo] at old
      exact not_seqLE_of_seqLess (seqLess_add_one c.iss) old
    · rw [ackNo, fresh.sndNxt] at new
      exact new.1 rfl
  have opened := process_syn_synSent synSent bare syn acceptable processed
  rcases bind_eq_ok opened with ⟨c₁, received, opened⟩
  obtain ⟨una, iss⟩ := acceptSynAckField_ack ack received
  have above : seqGreater c₁.sndUna c₁.iss := by
    rw [una, iss, ackNo, seqGreater_iff_seqLess]
    exact seqLess_add_one c.iss
  rw [if_pos above] at opened
  unfold establishActively at opened
  rw [acceptSynText_of_bare bare] at opened
  rcases bind_eq_ok opened with ⟨result, text, opened⟩
  cases text
  rcases bind_eq_ok opened with ⟨c₂, -, opened⟩
  rcases bind_eq_ok opened with ⟨c₃, -, opened⟩
  cases opened
  rw [fsm, synSent]
  rfl

lemma handle_synAck_synRcvd (synRcvd : c.fsm = .synRcvd) (fresh : Fresh c) (bare : Bare seg)
    (syn : seg.synBit = true) (ackNo : seg.ackNo = c.iss + 1)
    (ok : handle env (.segment seg) c = .ok c') : c'.fsm = .closed := by
  obtain ⟨event, d, timers, toApp, processed, -, rfl⟩ := handle_eq ok
  have fsm := process_fsm processed
  change processRcvSegment env seg c = .ok (event, d) at processed
  unfold processRcvSegment at processed
  rw [synRcvd] at processed
  rcases bind_eq_ok processed with ⟨⟨acceptable, c₁⟩, checked, processed⟩
  have passes : isSegmentAcceptable seg c = true := by
    have above : seqLess c.sndUna seg.ackNo := by
      rw [fresh.sndUna, ackNo]
      exact seqLess_add_one c.iss
    have sent : seqLE seg.ackNo c.sndMax ∧ seqLE seg.ackNo c.sndNxt := by
      rw [fresh.sndMax, fresh.sndNxt, ackNo]
      exact ⟨seqLE_refl _, seqLE_refl _⟩
    unfold isSegmentAcceptable
    rw [bare.payloadLength]
    rw [if_pos (by decide), Bool.or_eq_true]
    right
    split
    · exact decide_eq_true ⟨above, sent.1⟩
    · exact decide_eq_true ⟨above, sent.2⟩
  have accepted : acceptable = true := by
    unfold checkSequenceNumber at checked
    split at checked
    · rcases bind_eq_ok checked with ⟨rejected, paws, checked⟩
      rcases bind_eq_ok checked with ⟨c₂, read, checked⟩
      unfold pawsRejects at paws
      rw [if_neg (by simp [fresh.tsEnabled])] at paws
      cases paws
      cases checked
      rw [(readHeaderOptions_kept read).isSegmentAcceptable, passes]
      rfl
    · cases checked
      exact passes
  dsimp only at processed
  rw [if_pos accepted] at processed
  unfold processSegment2ndThru8th at processed
  rw [if_neg (by simp [bare.rstBit]), if_pos syn] at processed
  obtain ⟨-, processed⟩ := of_assert_bind processed
  cases processed
  rw [fsm, synRcvd]
  rfl

end TCPConnection

/-! ## Two sides -/

/-- One side of an open: the connection, the states it has been in since OPEN_ACTIVE, and
the segments that are on their way to it. -/
structure Opener where
  conn : TCPConnection
  states : List TcpState
  inbox : List TCPSegment

namespace Opener

variable {env : Env} {seg : TCPSegment} {index : ℕ} {x y x' y' : Opener}

/-- A segment arrives, and is answered: by the connection or, when it is closed, by the
module. -/
def arrive (env : Env) (tcpseg : TCPSegment) (x : Opener) :
    Except TcpError (List TCPSegment × Opener) :=
  if x.conn.fsm = .closed then .ok (segmentArrivalWhileClosed tcpseg, x)
  else do
    let conn ← x.conn.handle env (.segment tcpseg)
    return (conn.sent.drop x.conn.sent.length, { x with
      conn := conn
      states := if conn.fsm = x.conn.fsm then x.states else x.states ++ [conn.fsm] })

/-- Deliver one of the segments on their way to `x`; the answer goes to its peer `y`. -/
def deliver (env : Env) (index : ℕ) (x y : Opener) : Option (Opener × Opener) := do
  let tcpseg ← x.inbox[index]?
  let (answer, x) ← (arrive env tcpseg { x with inbox := x.inbox.eraseIdx index }).toOption
  return (x, { y with inbox := y.inbox ++ answer })

/-- A delivery to either side, in any environment. -/
inductive Delivery : Opener × Opener → Opener × Opener → Prop
  | first {x y x' y' : Opener} (env : Env) (index : ℕ)
      (delivered : deliver env index x y = some (x', y')) : Delivery (x, y) (x', y')
  | second {x y x' y' : Opener} (env : Env) (index : ℕ)
      (delivered : deliver env index y x = some (y', x')) : Delivery (x, y) (x', y')

/-- Both sides have been opened towards each other, and no segment has arrived. -/
inductive BothOpened : Opener × Opener → Prop
  | opened {envX envY : Env} {parX parY : TCPPar} {portX portY : UInt16}
      {connX connY : TCPConnection}
      (openX : (new parX).handle envX (.command (.openActive (some portX) (some portY))) =
        .ok connX)
      (openY : (new parY).handle envY (.command (.openActive (some portY) (some portX))) =
        .ok connY) : BothOpened (⟨connX, [connX.fsm], connY.sent⟩, ⟨connY, [connY.fsm], connX.sent⟩)

/-- The pair after both have been opened and some of the segments have been delivered. -/
def OpenReachable (pair : Opener × Opener) : Prop :=
  ∃ start, BothOpened start ∧ Relation.ReflTransGen Delivery start pair

/-- SYN_SENT, SYN_RCVD, ESTABLISHED, and then perhaps more. -/
def ViaSynRcvd (x : Opener) : Prop := [.synSent, .synRcvd, .established] <+: x.states

/-- Whatever states are to come, the side has not gone through SYN_RCVD to ESTABLISHED. -/
def Misses (x : Opener) : Prop :=
  ∀ later, ¬ [.synSent, .synRcvd, .established] <+: x.states ++ later

/-- A side that is not yet past SYN_RCVD, its peer being `y`. -/
structure Awaits (x y : Opener) : Prop where
  states : x.conn.fsm = .synSent ∧ x.states = [.synSent] ∨
    x.conn.fsm = .synRcvd ∧ x.states = [.synSent, .synRcvd]
  fresh : Fresh x.conn
  syns : ∀ tcpseg ∈ x.inbox, Bare tcpseg ∧ tcpseg.synBit = true
  ackNo : ∀ tcpseg ∈ x.inbox, tcpseg.ackBit = true → tcpseg.ackNo = x.conn.iss + 1
  sequenceNo : ∀ tcpseg ∈ x.inbox, tcpseg.ackBit = false → tcpseg.sequenceNo = y.conn.iss
  /-- The SYN is on its way or has been answered. -/
  oneSyn : (x.inbox.countP fun tcpseg => !tcpseg.ackBit) ≤ 1 ∧
    (x.conn.fsm = .synRcvd → (x.inbox.countP fun tcpseg => !tcpseg.ackBit) = 0)

lemma Misses.arrive {answer : List TCPSegment} (misses : Misses x)
    (ok : arrive env seg x = .ok (answer, x')) : Misses x' := by
  unfold Opener.arrive at ok
  split at ok
  · cases ok
    exact misses
  · rcases bind_eq_ok ok with ⟨conn, -, ok⟩
    cases ok
    intro later
    dsimp only
    split
    · exact misses later
    · rw [append_assoc]
      exact misses _

/-- A side that waits, and the segment that arrives there: it moves on to SYN_RCVD and
answers the SYN, or it is bound to miss. -/
lemma Awaits.arrive {answer : List TCPSegment} (awaits : Awaits x y) (mem : seg ∈ x.inbox)
    (ok : Opener.arrive env seg { x with inbox := x.inbox.eraseIdx index } = .ok (answer, x')) :
    Misses x' ∨ x.conn.fsm = .synSent ∧ seg.ackBit = false ∧ x'.conn.fsm = .synRcvd ∧
        x'.states = [.synSent, .synRcvd] ∧ x'.inbox = x.inbox.eraseIdx index ∧
        Fresh x'.conn ∧ x'.conn.iss = x.conn.iss ∧
        ∃ synAck, answer = [synAck] ∧ Bare synAck ∧ synAck.synBit = true ∧
          synAck.ackBit = true ∧ synAck.ackNo = seg.sequenceNo + 1 := by
  obtain ⟨bare, syn⟩ := awaits.syns seg mem
  unfold Opener.arrive at ok
  dsimp only at ok
  rcases awaits.states with ⟨synSent, states⟩ | ⟨synRcvd, states⟩
  · rw [if_neg (by rw [synSent]; decide)] at ok
    rcases bind_eq_ok ok with ⟨conn, handled, ok⟩
    cases ok
    cases ack : seg.ackBit with
    | false =>
      obtain ⟨fsm, fresh, iss, synAck, sent, answered⟩ :=
        handle_syn_synSent synSent awaits.fresh bare syn ack handled
      refine .inr ⟨synSent, rfl, fsm, ?_, rfl, fresh, iss, synAck, ?_, answered⟩
      · dsimp only
        rw [fsm, synSent, states]
        rfl
      · rw [sent, drop_left]
    | true =>
      have fsm := handle_synAck_synSent synSent awaits.fresh bare syn ack
        (awaits.ackNo seg mem ack) handled
      left
      rintro later ⟨rest, same⟩
      dsimp only at same
      rw [fsm, synSent, states] at same
      cases same
  · rw [if_neg (by rw [synRcvd]; decide)] at ok
    rcases bind_eq_ok ok with ⟨conn, handled, ok⟩
    cases ok
    have ack : seg.ackBit = true := by
      have none := countP_eq_zero.mp (awaits.oneSyn.2 synRcvd) seg mem
      simpa using none
    have fsm := handle_synAck_synRcvd synRcvd awaits.fresh bare syn
      (awaits.ackNo seg mem ack) handled
    left
    rintro later ⟨rest, same⟩
    dsimp only at same
    rw [fsm, synRcvd, states] at same
    cases same

lemma deliver_eq (ok : deliver env index x y = some (x', y')) :
    ∃ seg answer, x.inbox[index]? = some seg ∧
      arrive env seg { x with inbox := x.inbox.eraseIdx index } = .ok (answer, x') ∧
      y' = { y with inbox := y.inbox ++ answer } := by
  unfold deliver at ok
  rcases bind_eq_some_iff.mp ok with ⟨seg, queued, ok⟩
  rcases bind_eq_some_iff.mp ok with ⟨⟨answer, x₁⟩, arrived, ok⟩
  cases ok
  exact ⟨seg, answer, queued, eq_ok_of_toOption arrived, rfl⟩

/-- After a delivery both sides still wait, or the one that got the segment misses. -/
lemma Awaits.deliver (awaits : Awaits x y) (peer : Awaits y x)
    (ok : deliver env index x y = some (x', y')) : Misses x' ∨ Awaits x' y' ∧ Awaits y' x' := by
  obtain ⟨seg, answer, queued, arrived, rfl⟩ := deliver_eq ok
  have mem := mem_of_getElem? queued
  rcases awaits.arrive mem arrived with misses | moved
  · exact .inl misses
  · obtain ⟨synSent, noAck, fsm, states, inbox, fresh, iss, synAck, rfl, bare, syn, ack, ackNo⟩ :=
      moved
    have remains : ∀ other ∈ x'.inbox, other ∈ x.inbox := fun other mem => by
      rw [inbox] at mem
      exact mem_of_mem_eraseIdx mem
    have answered : (x'.inbox.countP fun seg => !seg.ackBit) = 0 := by
      obtain ⟨inRange, rfl⟩ := List.getElem?_eq_some_iff.mp queued
      have counted := (getElem_cons_eraseIdx_perm inRange).countP_eq (fun seg => !seg.ackBit)
      rw [countP_cons_of_pos (by simp [noAck]), ← inbox] at counted
      have one := awaits.oneSyn.1
      omega
    right
    refine ⟨⟨.inr ⟨fsm, states⟩, fresh, ?_, ?_, ?_, ?_⟩, ⟨peer.states, peer.fresh, ?_, ?_, ?_, ?_⟩⟩
    · intro other mem
      exact awaits.syns other (remains other mem)
    · intro other mem ack
      rw [iss]
      exact awaits.ackNo other (remains other mem) ack
    · intro other mem noAck
      exact awaits.sequenceNo other (remains other mem) noAck
    · exact ⟨answered.le.trans (Nat.zero_le 1), fun _ => answered⟩
    · intro other mem
      rcases mem_append.mp mem with mem | mem
      · exact peer.syns other mem
      · obtain rfl := mem_singleton.mp mem
        exact ⟨bare, syn⟩
    · intro other mem ack
      rcases mem_append.mp mem with mem | mem
      · exact peer.ackNo other mem ack
      · obtain rfl := mem_singleton.mp mem
        rw [ackNo, awaits.sequenceNo seg (mem_of_getElem? queued) noAck]
    · intro other mem noAck
      rcases mem_append.mp mem with mem | mem
      · rw [iss]
        exact peer.sequenceNo other mem noAck
      · obtain rfl := mem_singleton.mp mem
        rw [ack] at noAck
        cases noAck
    · have same : ((y.inbox ++ [synAck]).countP fun seg => !seg.ackBit) =
          y.inbox.countP fun seg => !seg.ackBit := by
        rw [countP_append, countP_cons_of_neg (by simp [ack]), countP_nil, Nat.add_zero]
      dsimp only
      rw [same]
      exact peer.oneSyn

lemma Misses.deliver (misses : Misses x) (ok : deliver env index x y = some (x', y')) :
    Misses x' := by
  obtain ⟨seg, answer, -, arrived, -⟩ := deliver_eq ok
  exact Misses.arrive (x := { x with inbox := x.inbox.eraseIdx index }) misses arrived

lemma deliver_peer (ok : deliver env index x y = some (x', y')) : y'.states = y.states := by
  obtain ⟨seg, answer, -, -, rfl⟩ := deliver_eq ok
  rfl

/-- Both sides wait, or one of them misses. -/
def Undecided (x y : Opener) : Prop := Misses x ∨ Misses y ∨ Awaits x y ∧ Awaits y x

lemma Undecided.symm (undecided : Undecided x y) : Undecided y x := by
  rcases undecided with misses | misses | ⟨awaits, peer⟩
  · exact .inr (.inl misses)
  · exact .inl misses
  · exact .inr (.inr ⟨peer, awaits⟩)

lemma Undecided.deliver (undecided : Undecided x y)
    (ok : deliver env index x y = some (x', y')) : Undecided x' y' := by
  rcases undecided with misses | misses | ⟨awaits, peer⟩
  · exact .inl (misses.deliver ok)
  · right; left
    unfold Misses
    rw [deliver_peer ok]
    exact misses
  · rcases awaits.deliver peer ok with misses | both
    · exact .inl misses
    · exact .inr (.inr both)

lemma awaits_of_opened {envX envY : Env} {parX parY : TCPPar} {portX portY : UInt16}
    {connX connY : TCPConnection}
    (openX : (new parX).handle envX (.command (.openActive (some portX) (some portY))) = .ok connX)
    (openY : (new parY).handle envY (.command (.openActive (some portY) (some portX))) =
      .ok connY) : Awaits ⟨connX, [connX.fsm], connY.sent⟩ ⟨connY, [connY.fsm], connX.sent⟩ := by
  obtain ⟨synSent, fresh, -⟩ := handle_openActive openX
  obtain ⟨-, -, syn, sent, bare, synBit, noAck, sequenceNo⟩ := handle_openActive openY
  rw [sent]
  refine ⟨.inl ⟨synSent, by rw [synSent]⟩, fresh, ?_, ?_, ?_, ?_⟩
  · intro other mem
    obtain rfl := mem_singleton.mp mem
    exact ⟨bare, synBit⟩
  · intro other mem ack
    obtain rfl := mem_singleton.mp mem
    rw [noAck] at ack
    cases ack
  · intro other mem _
    obtain rfl := mem_singleton.mp mem
    exact sequenceNo
  · refine ⟨countP_le_length, fun synRcvd => ?_⟩
    rw [show connX.fsm = .synRcvd from synRcvd] at synSent
    cases synSent

lemma undecided_of_reachable (reachable : OpenReachable (x, y)) : Undecided x y := by
  obtain ⟨start, opened, run⟩ := reachable
  suffices all : ∀ pair, Relation.ReflTransGen Delivery start pair → Undecided pair.1 pair.2 from
    all _ run
  intro pair run
  induction run with
  | refl =>
    obtain ⟨openX, openY⟩ := opened
    exact .inr (.inr ⟨awaits_of_opened openX openY, awaits_of_opened openY openX⟩)
  | tail _ last ih =>
    cases last with
    | first env index delivered => exact ih.deliver delivered
    | second env index delivered => exact (ih.symm.deliver delivered).symm

/-- Both sides have gone through SYN_RCVD to ESTABLISHED, and neither was reset. -/
def OpensBoth (x y : Opener) : Prop :=
  ViaSynRcvd x ∧ ViaSynRcvd y ∧ TCPIndication.connectionReset ∉ x.conn.toApp ∧
    TCPIndication.connectionReset ∉ y.conn.toApp

lemma Awaits.not_viaSynRcvd (awaits : Awaits x y) : ¬ ViaSynRcvd x := by
  rintro ⟨rest, same⟩
  rcases awaits.states with ⟨-, states⟩ | ⟨-, states⟩
  · rw [states] at same
    cases same
  · rw [states] at same
    cases same

lemma Misses.not_viaSynRcvd (misses : Misses x) : ¬ ViaSynRcvd x := by
  intro via
  apply misses []
  rw [append_nil]
  exact via

/-- No order of deliveries takes both sides through SYN_RCVD to ESTABLISHED. -/
theorem never_opens_both (reachable : OpenReachable (x, y)) : ¬ OpensBoth x y := by
  rintro ⟨viaX, viaY, -⟩
  rcases undecided_of_reachable reachable with misses | misses | ⟨awaits, -⟩
  · exact misses.not_viaSynRcvd viaX
  · exact misses.not_viaSynRcvd viaY
  · exact awaits.not_viaSynRcvd viaX

/-- A delivery to the first side, or else to the second. -/
def deliverTo (toFirst : Bool) (index : ℕ) (pair : Opener × Opener) : Option (Opener × Opener) :=
  if toFirst then deliver {} index pair.1 pair.2
  else (deliver {} index pair.2 pair.1).map Prod.swap

lemma delivery_of_deliverTo {toFirst : Bool} {pair pair' : Opener × Opener}
    (ok : deliverTo toFirst index pair = some pair') : Delivery pair pair' := by
  unfold deliverTo at ok
  split at ok
  · exact .first {} index ok
  · obtain ⟨swapped, delivered, rfl⟩ := map_eq_some_iff.mp ok
    exact .second {} index delivered

def deliverAll : List (Bool × ℕ) → Opener × Opener → Option (Opener × Opener)
  | [], pair => some pair
  | (toFirst, index) :: rest, pair => (deliverTo toFirst index pair).bind (deliverAll rest)

lemma reflTransGen_of_deliverAll {deliveries : List (Bool × ℕ)} {pair pair' : Opener × Opener}
    (ok : deliverAll deliveries pair = some pair') : Relation.ReflTransGen Delivery pair pair' := by
  induction deliveries generalizing pair with
  | nil =>
    cases ok
    exact .refl
  | cons delivery rest ih =>
    rcases bind_eq_some_iff.mp ok with ⟨middle, first, ok⟩
    exact .head (delivery_of_deliverTo first) (ih ok)

def peerPar : TCPPar := { advertisedWindow := 14000, mss := 1000 }

def openTowards (isn : UInt32) (localPort remotePort : UInt16) : Except TcpError TCPConnection :=
  (new peerPar).handle { isn := isn } (.command (.openActive (some localPort) (some remotePort)))

/-- Both SYNs are delivered, then both SYN+ACKs, and the answers to those. -/
def crossingSyns : Option (Opener × Opener) := do
  let connX ← (openTowards 100 1000 2000).toOption
  let connY ← (openTowards 500 2000 1000).toOption
  deliverAll [(true, 0), (false, 0), (true, 0), (false, 0)]
    (⟨connX, [connX.fsm], connY.sent⟩, ⟨connY, [connY.fsm], connX.sent⟩)

/-- Closed out of SYN_RCVD, with nothing left to arrive. -/
def closedAtRest (x : Opener) : Bool :=
  x.inbox.isEmpty && x.conn.fsm = .closed && x.states = [.synSent, .synRcvd, .closed]

lemma exists_closed : ∃ x y, OpenReachable (x, y) ∧ closedAtRest x = true ∧
    closedAtRest y = true := by
  have runs : crossingSyns.any (fun pair => closedAtRest pair.1 && closedAtRest pair.2) = true := by
    decide +kernel
  obtain ⟨⟨x, y⟩, crossed, closed⟩ := (any_eq_true _ _).mp runs
  unfold crossingSyns at crossed
  rcases bind_eq_some_iff.mp crossed with ⟨connX, openX, crossed⟩
  rcases bind_eq_some_iff.mp crossed with ⟨connY, openY, delivered⟩
  have openX := eq_ok_of_toOption openX
  have openY := eq_ok_of_toOption openY
  exact ⟨x, y, ⟨_, .opened openX openY, reflTransGen_of_deliverAll delivered⟩,
    Bool.and_eq_true_iff.mp closed⟩

lemma of_closedAtRest (closed : closedAtRest x = true) :
    x.inbox = [] ∧ x.conn.fsm = .closed ∧ x.states = [.synSent, .synRcvd, .closed] := by
  simpa [closedAtRest, and_assoc] using closed

theorem crossing_syns_close :
    ¬ ∀ x y, OpenReachable (x, y) → x.inbox = [] → y.inbox = [] → OpensBoth x y := by
  intro succeeds
  obtain ⟨x, y, reachable, closedX, closedY⟩ := exists_closed
  obtain ⟨emptyX, -, states⟩ := of_closedAtRest closedX
  obtain ⟨emptyY, -⟩ := of_closedAtRest closedY
  obtain ⟨⟨rest, same⟩, -⟩ := succeeds x y reachable emptyX emptyY
  rw [states] at same
  cases same

theorem never_opens_both_crossing :
    ∃ x y, OpenReachable (x, y) ∧ x.conn.fsm = .closed ∧ y.conn.fsm = .closed ∧
      ¬ OpensBoth x y := by
  obtain ⟨x, y, reachable, closedX, closedY⟩ := exists_closed
  obtain ⟨-, fsmX, -⟩ := of_closedAtRest closedX
  obtain ⟨-, fsmY, -⟩ := of_closedAtRest closedY
  exact ⟨x, y, reachable, fsmX, fsmY, never_opens_both reachable⟩

end Opener

end Inet.Tcp
