import Inet.Tcp.OptionNegotiation

/-!
# Both ends agree on the options

Over a network that loses, duplicates and reorders, what reaches the listener in a SYN is the offer
of the opener, and what reaches the opener in a SYN+ACK is what both offer.
-/

namespace Inet.Tcp

open TCPConnection SynOffer Inet.Except Option

namespace TCPConnection

variable {env : Env} {seg seg' : TCPSegment} {own peer offer : SynOffer} {ackBit : Bool}
  {ev : TCPEventCode} {c c' : TCPConnection} {known : TCPConnection → Prop} {fsm : TcpState}

/-- Every SYN sent is one with this offer, and nothing else speaks of window scaling. -/
def Speaks (ackBit : Bool) (offer : SynOffer) (sent : List TCPSegment) : Prop :=
  ∀ tcpseg ∈ sent, (tcpseg.synBit = true → SynSegment ackBit offer tcpseg) ∧
    (tcpseg.synBit = false → NoWindowScale tcpseg.options)

variable {sent : List TCPSegment}

lemma Speaks.append (speaks : Speaks ackBit offer sent)
    (syn : seg.synBit = true → SynSegment ackBit offer seg)
    (noSyn : seg.synBit = false → NoWindowScale seg.options) :
    Speaks ackBit offer (sent ++ [seg]) := by
  intro other mem
  rcases List.mem_append.mp mem with mem | mem
  · exact speaks other mem
  · obtain rfl := List.mem_singleton.mp mem
    exact ⟨syn, noSyn⟩

lemma Speaks.append_syn (speaks : Speaks ackBit offer sent)
    (syn : SynSegment ackBit offer seg) : Speaks ackBit offer (sent ++ [seg]) :=
  speaks.append (fun _ => syn) fun noSyn => by rw [syn.synBit] at noSyn; cases noSyn

lemma Speaks.append_noSyn (speaks : Speaks ackBit offer sent) (noSyn : seg.synBit = false)
    (none : NoWindowScale seg.options) : Speaks ackBit offer (sent ++ [seg]) :=
  speaks.append (fun syn => by rw [noSyn] at syn; cases syn) fun _ => none

lemma updateRcvWnd_sameOptions {window : UInt16} (ok : c.updateRcvWnd = .ok (window, c')) :
    SameOptions c c' := by
  unfold updateRcvWnd at ok
  obtain ⟨-, ok⟩ := of_assert_bind ok
  cases ok
  exact ⟨rfl, rfl, rfl, rfl, rfl, rfl, rfl⟩

lemma sendToIP_syn {d : TCPConnection} (plain : Bare seg) (syn : seg.synBit = true)
    (ack : seg.ackBit = ackBit) (carries : c.carriesSynOptions seg = true)
    (unchanged : c.maxRcvBufferChanged = false)
    (carried : Carried offer (writeSynOptions env seg c).1.options)
    (write : writeHeaderOptions env seg c = .ok (seg', d)) (send : sendToIP seg' d = .ok c') :
    SameOptions (writeSynOptions env seg c).2 c' ∧
      ∃ sent, c'.sent = c.sent ++ [sent] ∧ SynSegment ackBit offer sent := by
  obtain ⟨same, options, long⟩ := writeHeaderOptions_syn carries unchanged carried write
  have sent : d.sent = c.sent := by rw [(writeHeaderOptions_written write).outputVars]
  have header := writeHeaderOptions_header write
  rw [← same, sendToIP_eq send]
  refine ⟨⟨rfl, rfl, rfl, rfl, rfl, rfl, rfl⟩, _, by rw [← sent], ?_⟩
  rw [header]
  exact ⟨⟨plain.payloadLength, plain.finBit, plain.rstBit⟩, syn, ack, options, long⟩

lemma sendSyn_offered (offering : Offering own c) (positive : 0 < own.mss)
    (first : c.sendsFirstSyn = true) (ok : sendSyn env c = .ok c') :
    Offered own c' ∧ ∃ syn, c'.sent = c.sent ++ [syn] ∧ SynSegment false own syn := by
  rcases bind_eq_ok ok with ⟨-, -, ok⟩
  rcases bind_eq_ok ok with ⟨⟨window, d⟩, update, ok⟩
  rcases bind_eq_ok ok with ⟨⟨seg, e⟩, write, send⟩
  have state : d.toInputVars = c.toInputVars := by rw [(updateRcvWnd_eq update).1]
  have sent : d.sent = c.sent := by rw [(updateRcvWnd_eq update).1]
  generalize conn : TCPConnection.mk .. = f at write
  generalize begun : TCPSegment.mk .. = syn at write
  have offering : Offering own f := by
    subst conn
    exact (offering.congr (updateRcvWnd_sameOptions update)).congr
      ⟨rfl, rfl, rfl, rfl, rfl, rfl, rfl⟩
  have first : f.sendsFirstSyn = true := by
    subst conn
    unfold sendsFirstSyn at first ⊢
    rw [state]
    exact first
  have carries : f.carriesSynOptions syn = true := by
    subst begun
    unfold carriesSynOptions
    unfold sendsFirstSyn at first
    simp only [Bool.or_eq_true, Bool.and_eq_true] at first ⊢
    tauto
  obtain ⟨carried, offered⟩ :=
    writeSynOptions_offered env offering positive first (show syn.options = [] by rw [← begun])
  obtain ⟨same, segment, appended, spoken⟩ := sendToIP_syn (by subst begun; exact ⟨rfl, rfl, rfl⟩)
    (by rw [← begun]) (by rw [← begun]) carries offering.maxRcvBufferChanged carried write send
  refine ⟨offered.congr same, segment, ?_, spoken⟩
  rw [appended, ← conn]
  exact congrArg (· ++ [segment]) sent

lemma sendSynAck_agreed (heard : Heard own peer c) (positive : 0 < min own.mss peer.mss)
    (answers : c.fsm = .listen ∨ c.fsm = .synRcvd ∧ 0 < c.synRexmitCount)
    (ok : sendSynAck env c = .ok c') :
    Agreed own peer c' ∧
      ∃ synAck, c'.sent = c.sent ++ [synAck] ∧ SynSegment true (own.meet peer) synAck := by
  rcases bind_eq_ok ok with ⟨⟨window, d⟩, update, ok⟩
  rcases bind_eq_ok ok with ⟨⟨seg, e⟩, write, ok⟩
  rcases bind_eq_ok ok with ⟨g, send, ok⟩
  cases ok
  have state : d.toInputVars = c.toInputVars := by rw [(updateRcvWnd_eq update).1]
  have sent : d.sent = c.sent := by rw [(updateRcvWnd_eq update).1]
  generalize conn : TCPConnection.mk .. = f at write
  generalize begun : TCPSegment.mk .. = synAck at write
  have heard : Heard own peer f := by
    subst conn
    exact (heard.congr (updateRcvWnd_sameOptions update)).congr ⟨rfl, rfl, rfl, rfl, rfl, rfl, rfl⟩
  have answers : f.fsm = .listen ∨ f.fsm = .synRcvd ∧ 0 < f.synRexmitCount := by
    subst conn
    rw [state]
    exact answers
  have later : f.sendsFirstSyn = false := by
    unfold sendsFirstSyn
    rcases answers with listen | ⟨synRcvd, -⟩
    · rw [listen]
      rfl
    · rw [synRcvd]
      rfl
  have carries : f.carriesSynOptions synAck = true := by
    subst begun
    unfold carriesSynOptions
    rcases answers with listen | ⟨synRcvd, again⟩
    · simp [listen]
    · simp [synRcvd, again]
  obtain ⟨carried, agreed⟩ := writeSynOptions_agreed env heard positive later
    (show synAck.options = [] by rw [← begun])
  obtain ⟨same, segment, appended, spoken⟩ := sendToIP_syn (by subst begun; exact ⟨rfl, rfl, rfl⟩)
    (by rw [← begun]) (by rw [← begun]) carries heard.maxRcvBufferChanged carried write send
  refine ⟨(agreed.congr same).congr ⟨rfl, rfl, rfl, rfl, rfl, rfl, rfl⟩, segment, ?_, spoken⟩
  change g.sent = _
  rw [appended, ← conn]
  exact congrArg (· ++ [segment]) sent

/-! ## Outside the handshake -/

/-- What is known turns on the options only. -/
structure Stable (known : TCPConnection → Prop) : Prop where
  congr : ∀ {c c'}, known c → SameOptions c c' → known c'
  unchanged : ∀ {c}, known c → c.maxRcvBufferChanged = false

lemma stable_ready : Stable (Ready own peer) :=
  ⟨Ready.congr, fun ready => ready.maxRcvBufferChanged⟩

lemma stable_offered : Stable (Offered own) :=
  ⟨Offered.congr, fun offered => offered.maxRcvBufferChanged⟩

lemma stable_agreed : Stable (Agreed own peer) :=
  ⟨Agreed.congr, fun agreed => agreed.maxRcvBufferChanged⟩

/-- What a side knows, what it has sent, and its state. -/
structure Talks (known : TCPConnection → Prop) (ackBit : Bool) (offer : SynOffer)
    (fsm : TcpState) (c : TCPConnection) : Prop where
  known : known c
  speaks : Speaks ackBit offer c.sent
  fsm : c.fsm = fsm

lemma Talks.congr (stable : Stable known) (talks : Talks known ackBit offer fsm c)
    (same : SameOptions c c') (sent : c'.sent = c.sent) (state : c'.fsm = c.fsm) :
    Talks known ackBit offer fsm c' where
  known := stable.congr talks.known same
  speaks := sent ▸ talks.speaks
  fsm := state.trans talks.fsm

lemma sendClosed_talks (stable : Stable known) :
    SendClosed env (fun _ => True) NoWindowScale (Talks known ackBit offer fsm) where
  elsewhere _ := trivial
  noOptions _ mem := nomatch mem
  algVars talks _ := talks.congr stable ⟨rfl, rfl, rfl, rfl, rfl, rfl, rfl⟩ rfl rfl
  sendVars talks _ := talks.congr stable ⟨rfl, rfl, rfl, rfl, rfl, rfl, rfl⟩ rfl rfl
  scoreboardVars talks _ := talks.congr stable ⟨rfl, rfl, rfl, rfl, rfl, rfl, rfl⟩ rfl rfl
  toApp talks _ := talks.congr stable ⟨rfl, rfl, rfl, rfl, rfl, rfl, rfl⟩ rfl rfl
  updateRcvWnd {c} talks := by
    refine .of_forall (fun ⟨window, d⟩ ok => ?_) fun _ _ => trivial
    have same := (updateRcvWnd_eq ok).1
    refine talks.congr stable (updateRcvWnd_sameOptions ok) ?_ ?_
    all_goals
      dsimp only
      rw [same]
  writeHeaderOptions {c seg} talks bare noSyn := by
    refine .of_forall (fun ⟨seg', d⟩ ok => ?_) fun _ _ => trivial
    have written := writeHeaderOptions_written ok
    have unchanged := stable.unchanged talks.known
    obtain ⟨none, negotiation, still⟩ := writeHeaderOptions_noSyn unchanged bare noSyn ok
    refine ⟨none, talks.congr stable ⟨?_, ?_, ?_, ?_, still.trans unchanged.symm, ?_, negotiation⟩
      ?_ ?_⟩
    iterate 5
      dsimp only
      rw [written.inputVars]
    · dsimp only
      rw [written.outputVars]
    · dsimp only
      rw [written.inputVars]
  emit talks none _ noSyn :=
    ⟨stable.congr talks.known ⟨rfl, rfl, rfl, rfl, rfl, rfl, rfl⟩,
      talks.speaks.append_noSyn noSyn none, talks.fsm⟩

lemma Talks.sendRstTo (stable : Stable known) (talks : Talks known ackBit offer fsm c)
    (srcPort destPort : UInt16) (seq : UInt32) :
    Talks known ackBit offer fsm (sendRstTo srcPort destPort seq c) where
  known := stable.congr talks.known ⟨rfl, rfl, rfl, rfl, rfl, rfl, rfl⟩
  speaks := talks.speaks.append_noSyn rfl fun _ mem => nomatch mem
  fsm := talks.fsm

lemma arrivalClosed_agreed (later : inHandshake fsm = false)
    (only : ScalesOnly peer seg.options) :
    ArrivalClosed env seg (fun _ => True) (Talks (Agreed own peer) ackBit offer fsm) where
  elsewhere _ := trivial
  callback talks callback := (sendClosed_talks stable_agreed).runCallback talks callback
  sendAck talks := (sendClosed_talks stable_agreed).sendAck talks
  sendAckEcn talks ecn := (sendClosed_talks stable_agreed).sendAckEcn talks ecn
  sendRst talks seqNo := talks.sendRstTo stable_agreed _ _ seqNo
  readHeaderOptions {c} talks := by
    refine .of_forall (fun d ok => ?_) fun _ _ => trivial
    have kept := readHeaderOptions_kept ok
    refine ⟨talks.known.read (by rw [talks.fsm]; exact later) only ok, ?_, ?_⟩
    · rw [kept.outputVars]
      exact talks.speaks
    · rw [kept.closeVars]
      exact talks.fsm
  algVars talks _ := talks.congr stable_agreed ⟨rfl, rfl, rfl, rfl, rfl, rfl, rfl⟩ rfl rfl
  toApp talks _ := talks.congr stable_agreed ⟨rfl, rfl, rfl, rfl, rfl, rfl, rfl⟩ rfl rfl
  timers talks _ := talks.congr stable_agreed ⟨rfl, rfl, rfl, rfl, rfl, rfl, rfl⟩ rfl rfl
  received talks _ _ _ unchanged :=
    talks.congr stable_agreed ⟨rfl, rfl, rfl, rfl, unchanged, rfl, rfl⟩ rfl rfl
  finSeen talks _ _ _ := talks.congr stable_agreed ⟨rfl, rfl, rfl, rfl, rfl, rfl, rfl⟩ rfl rfl
  counted talks _ _ _ := talks.congr stable_agreed ⟨rfl, rfl, rfl, rfl, rfl, rfl, rfl⟩ rfl rfl
  sndWindow talks _ _ _ := talks.congr stable_agreed ⟨rfl, rfl, rfl, rfl, rfl, rfl, rfl⟩ rfl rfl
  takeAck {c} talks _ vars := by
    refine .of_forall (fun d ok => ?_) fun _ _ => trivial
    obtain ⟨sendQueue, rexmitQueue, -, rfl⟩ := discardAcked_eq ok
    exact talks.congr stable_agreed ⟨rfl, rfl, rfl, rfl, rfl, rfl, rfl⟩ rfl rfl
  flush talks _ _ _ _ := talks.congr stable_agreed ⟨rfl, rfl, rfl, rfl, rfl, rfl, rfl⟩ rfl rfl

/-- While connections open segments arrive and timers expire. In SYN_SENT the algorithm has no timer
running. -/
def occursInOpening (input : TcpInput) (c : TCPConnection) : Bool :=
  match input with
  | .segment _ | .timer _ => true
  | .algTimer _ => c.fsm ≠ .synSent
  | .command _ | .resizeBuffer _ => false

variable (talks : Talks (Agreed own peer) ackBit offer fsm c)
include talks

lemma resendSyn_agreed (later : inHandshake fsm = false) (counted : 0 < c.synRexmitCount)
    (answers : fsm = .synRcvd → ackBit = true ∧ offer = own.meet peer ∧ 0 < min own.mss peer.mss) :
    EndsIn (fun _ => True) (Talks (Agreed own peer) ackBit offer fsm) (resendSyn env c) := by
  unfold resendSyn
  split
  case h_1 synSent =>
    rw [← talks.fsm, synSent] at later
    cases later
  case h_2 synRcvd =>
    obtain ⟨rfl, rfl, positive⟩ := answers (talks.fsm.symm.trans synRcvd)
    refine .of_forall (fun d ok => ?_) fun _ _ => trivial
    obtain ⟨agreed, synAck, sent, spoken⟩ :=
      sendSynAck_agreed talks.known.heard positive (.inr ⟨synRcvd, counted⟩) ok
    refine ⟨agreed, ?_, ?_⟩
    · rw [sent]
      exact talks.speaks.append_syn spoken
    · rw [sendSynAck_inputVars ok]
      exact talks.fsm
  case h_3 => trivial

lemma processTimer_agreed (later : inHandshake fsm = false)
    (answers : fsm = .synRcvd → ackBit = true ∧ offer = own.meet peer ∧
      0 < min own.mss peer.mss) (timer : ConnTimer) :
    EndsIn (fun _ => True) (fun result => Talks (Agreed own peer) ackBit offer fsm result.2)
      (processTimer env timer c) := by
  have arrival : ArrivalClosed env {} (fun _ => True) (Talks (Agreed own peer) ackBit offer fsm) :=
    arrivalClosed_agreed later fun _ mem => nomatch mem
  unfold processTimer
  cases timer with
  | the2MSL =>
    have talks := arrival.timers talks { c.timers with the2MSL := false }
    unfold processTimeout2MSL
    dsimp only
    split
    · exact talks
    · trivial
  | connEstab =>
    have talks := arrival.timers talks { c.timers with connEstab := false }
    unfold processTimeoutConnEstab
    dsimp only
    split
    iterate 2 exact ite_of (arrival.toApp talks _) talks
    trivial
  | finWait2 =>
    have talks := arrival.timers talks { c.timers with finWait2 := false }
    unfold processTimeoutFinWait2
    dsimp only
    split
    · exact talks
    · trivial
  | synRexmit =>
    have talks : Talks (Agreed own peer) ackBit offer fsm { c with
        timers := { c.timers with synRexmit := false }
        synRexmitCount := c.synRexmitCount + 1 } :=
      talks.congr stable_agreed ⟨rfl, rfl, rfl, rfl, rfl, rfl, rfl⟩ rfl rfl
    unfold processTimeoutSynRexmit
    dsimp only
    split
    · exact talks
    · refine EndsIn.bind (resendSyn_agreed talks later (Nat.succ_pos _) answers) fun d talks => ?_
      exact arrival.leaf (scheduled_fails _) fun synRexmit _ => arrival.timers talks _

variable {input : TcpInput}

lemma process_agreed (occurs : occursInOpening input c = true) (later : inHandshake fsm = false)
    (arrives : ∀ seg ∈ input.arrival, ScalesOnly peer seg.options)
    (answers : fsm = .synRcvd → ackBit = true ∧ offer = own.meet peer ∧ 0 < min own.mss peer.mss) :
    EndsIn (fun _ => True) (fun result => Talks (Agreed own peer) ackBit offer fsm result.2)
      (process env input c) := by
  unfold process
  cases input with
  | command command => cases occurs
  | resizeBuffer maxRcvBuffer => cases occurs
  | segment seg =>
    have closed : ArrivalClosed env seg (fun _ => True)
        (Talks (Agreed own peer) ackBit offer fsm) :=
      arrivalClosed_agreed later (arrives seg rfl)
    unfold processRcvSegment
    dsimp only
    split
    · trivial
    case h_2 listen =>
      rw [← talks.fsm, listen] at later
      cases later
    case h_3 synSent =>
      rw [← talks.fsm, synSent] at later
      cases later
    case h_4 => exact closed.processSegment1stThru8th talks
  | timer timer => exact processTimer_agreed talks later answers timer
  | algTimer timer =>
    exact ((sendClosed_talks stable_agreed).runCallback talks _).bind fun d talks => talks

omit talks

/-! ## The listener -/

lemma takeForeignSocket_ready (ready : Ready own peer c)
    (ok : takeForeignSocket seg c = .ok c') : Ready own peer c' ∧ c'.sent = c.sent ∧
      c'.fsm = c.fsm := by
  rcases bind_eq_ok ok with ⟨d, forked, ok⟩
  cases ok
  suffices all : Ready own peer d ∧ d.sent = c.sent ∧ d.fsm = c.fsm from
    ⟨all.1.congr ⟨rfl, rfl, rfl, rfl, rfl, rfl, rfl⟩, all.2⟩
  unfold afterFork at forked
  split at forked
  · obtain ⟨rcvWnd, rfl⟩ := configureStateVariables_eq forked
    refine ⟨?_, rfl, rfl⟩
    have par := ready.par
    exact {
      par := par
      wsSupport := congrArg SynOffer.ws par
      tsSupport := congrArg SynOffer.ts par
      sackSupport := congrArg SynOffer.sack par
      maxRcvBufferChanged := ready.maxRcvBufferChanged
      sndMss := .inl (congrArg SynOffer.mss par)
      rcvWs := ready.rcvWs
      wsEnabled := ready.wsEnabled
      rcvInitialTs := ready.rcvInitialTs
      tsEnabled := ready.tsEnabled
      rcvSackPerm := ready.rcvSackPerm
      sackEnabled := ready.sackEnabled }
  · cases forked
    exact ⟨ready, rfl, rfl⟩

lemma acceptSyn_agreed (talks : Talks (Ready own peer) true (own.meet peer) .listen c)
    (syn : SynSegment ackBit peer seg) (positive : 0 < min own.mss peer.mss)
    (ok : acceptSyn env seg c = .ok (ev, c')) :
    ev = .rcvSyn ∧ Talks (Agreed own peer) true (own.meet peer) .listen c' := by
  rcases bind_eq_ok ok with ⟨c₁, taken, ok⟩
  rcases bind_eq_ok ok with ⟨c₂, selected, ok⟩
  rcases bind_eq_ok ok with ⟨c₃, read, ok⟩
  rcases bind_eq_ok ok with ⟨c₄, synAck, ok⟩
  rw [acceptSynText_of_bare syn.toBare] at ok
  cases ok
  obtain ⟨ready, sent, state⟩ := takeForeignSocket_ready talks.known taken
  obtain rfl := selectInitialSeqNum_eq selected
  unfold readSynOptions at read
  rw [if_pos syn.headerLength] at read
  generalize begun : updateWndInfo seg true _ = d at read
  have kept : Ready own peer d ∧ d.sent = c.sent ∧ d.fsm = .listen := by
    subst begun
    unfold updateWndInfo
    exact ⟨ready.congr ⟨rfl, rfl, rfl, rfl, rfl, rfl, rfl⟩, sent, state.trans talks.fsm⟩
  have heard : Heard own peer c₃ := kept.1.read syn.carried (by rw [kept.2.2]; rfl) positive read
  have same := readHeaderOptions_kept read
  have listen : c₃.fsm = .listen := by
    rw [same.closeVars]
    exact kept.2.2
  have heard : Heard own peer { c₃ with ackNow := true } :=
    heard.congr ⟨rfl, rfl, rfl, rfl, rfl, rfl, rfl⟩
  obtain ⟨agreed, segment, appended, spoken⟩ :=
    sendSynAck_agreed heard positive (.inl (by exact listen)) synAck
  refine ⟨rfl, agreed.congr ⟨rfl, rfl, rfl, rfl, rfl, rfl, rfl⟩, ?_, ?_⟩
  · change Speaks _ _ c₄.sent
    rw [appended]
    refine Speaks.append_syn ?_ spoken
    rw [same.outputVars, kept.2.1]
    exact talks.speaks
  · change c₄.fsm = _
    rw [sendSynAck_inputVars synAck]
    exact listen

lemma process_ready (talks : Talks (Ready own peer) true (own.meet peer) .listen c)
    (occurs : occursInOpening input c = true) (positive : 0 < min own.mss peer.mss)
    (arrives : ∀ seg ∈ input.arrival, seg.synBit = true → SynSegment false peer seg)
    (ok : process env input c = .ok (ev, c')) :
    ev = .rcvSyn ∧ Talks (Agreed own peer) true (own.meet peer) .listen c' ∨
      (ev = .ignore ∨ ev = .abort) ∧ Talks (Ready own peer) true (own.meet peer) .listen c' := by
  cases input with
  | command command => cases occurs
  | resizeBuffer maxRcvBuffer => cases occurs
  | segment seg =>
    change processRcvSegment env seg c = .ok (ev, c') at ok
    unfold processRcvSegment at ok
    rw [talks.fsm] at ok
    dsimp only at ok
    unfold processSegmentInListen at ok
    split at ok
    · cases ok
      exact .inr ⟨.inl rfl, talks⟩
    split at ok
    · cases ok
      exact .inr ⟨.inl rfl, talks.sendRstTo stable_ready _ _ _⟩
    split at ok
    case isTrue syn =>
      exact .inl (acceptSyn_agreed talks (arrives seg rfl syn) positive ok)
    case isFalse =>
      cases ok
      exact .inr ⟨.inl rfl, talks⟩
  | timer timer =>
    right
    change processTimer env timer c = .ok (ev, c') at ok
    unfold processTimer at ok
    cases timer with
    | the2MSL =>
      unfold processTimeout2MSL at ok
      rw [talks.fsm] at ok
      cases ok
    | connEstab =>
      unfold processTimeoutConnEstab at ok
      rw [talks.fsm] at ok
      cases ok
    | finWait2 =>
      unfold processTimeoutFinWait2 at ok
      rw [talks.fsm] at ok
      cases ok
    | synRexmit =>
      unfold processTimeoutSynRexmit at ok
      dsimp only at ok
      split at ok
      · cases ok
        exact ⟨.inr rfl, talks.congr stable_ready ⟨rfl, rfl, rfl, rfl, rfl, rfl, rfl⟩ rfl rfl⟩
      · unfold resendSyn at ok
        rw [talks.fsm] at ok
        cases ok
  | algTimer timer =>
    right
    change processAlgTimer env timer c = .ok (ev, c') at ok
    rcases bind_eq_ok ok with ⟨d, called, ok⟩
    cases ok
    refine ⟨?_, ((sendClosed_talks stable_ready).runCallback talks _).of_ok called⟩
    split
    · exact .inr rfl
    · exact .inl rfl

/-! ## The opener -/

lemma ackNo_of_acceptable {ackNo iss : UInt32} (notOld : ¬ seqLE ackNo iss)
    (notNew : ¬ seqGreater ackNo (iss + 1)) : ackNo = iss + 1 := by
  simp only [seqLE, seqGreater] at notOld notNew
  grind

lemma acceptSynAckField_sameOptions (ok : acceptSynAckField seg c = .ok c') :
    SameOptions c c' ∧ c'.sent = c.sent ∧ c'.fsm = c.fsm := by
  unfold acceptSynAckField at ok
  split at ok
  · rcases bind_eq_ok ok with ⟨sendQueue, -, ok⟩
    rcases bind_eq_ok ok with ⟨rexmitQueue, -, ok⟩
    cases ok
    exact ⟨⟨rfl, rfl, rfl, rfl, rfl, rfl, rfl⟩, rfl, rfl⟩
  · cases ok
    exact ⟨⟨rfl, rfl, rfl, rfl, rfl, rfl, rfl⟩, rfl, rfl⟩

lemma acceptSynInSynSent_agreed (talks : Talks (Offered own) false own .synSent c)
    (syn : SynSegment true peer seg) (positive : 0 < min own.mss peer.mss)
    (next : c.sndNxt = c.iss + 1) (acceptable : ¬ (seg.ackBit = true ∧
      (seqLE seg.ackNo c.iss ∨ seqGreater seg.ackNo c.sndNxt)))
    (ok : acceptSynInSynSent env seg c = .ok (ev, c')) :
    ev = .rcvSynAck ∧ Talks (Agreed own peer) false own .synSent c' := by
  rcases bind_eq_ok ok with ⟨c₁, received, ok⟩
  obtain ⟨una, iss⟩ := acceptSynAckField_ack syn.ackBit received
  obtain ⟨same, sent, state⟩ := acceptSynAckField_sameOptions received
  have ackNo : seg.ackNo = c.iss + 1 := by
    obtain ⟨notOld, notNew⟩ := not_or.mp fun bad => acceptable ⟨syn.ackBit, bad⟩
    rw [next] at notNew
    exact ackNo_of_acceptable notOld notNew
  have above : seqGreater c₁.sndUna c₁.iss := by
    rw [una, iss, ackNo, seqGreater_iff_seqLess]
    exact seqLess_add_one c.iss
  rw [if_pos above] at ok
  generalize ported : TCPConnection.mk .. = c₂ at ok
  have talks : Talks (Offered own) false own .synSent c₂ := by
    subst ported
    refine ⟨?_, ?_, state.trans talks.fsm⟩
    · have kept : Offered own (c.receiveSyn seg) :=
        talks.known.congr ⟨rfl, rfl, rfl, rfl, rfl, rfl, rfl⟩
      exact (kept.congr same).congr ⟨rfl, rfl, rfl, rfl, rfl, rfl, rfl⟩
    · rw [sent]
      exact talks.speaks
  unfold establishActively at ok
  rw [acceptSynText_of_bare syn.toBare] at ok
  rcases bind_eq_ok ok with ⟨result, text, ok⟩
  cases text
  rcases bind_eq_ok ok with ⟨c₃, read, ok⟩
  rcases bind_eq_ok ok with ⟨c₄, called, ok⟩
  cases ok
  unfold readSynOptions at read
  rw [if_pos syn.headerLength] at read
  have kept := readHeaderOptions_kept read
  have agreed : Agreed own peer c₃ :=
    talks.known.read syn.carried (by rw [talks.fsm]; rfl) positive read
  have settled : Talks (Agreed own peer) false own .synSent { c₃ with ackNow := true } := by
    refine ⟨agreed.congr ⟨rfl, rfl, rfl, rfl, rfl, rfl, rfl⟩, ?_, ?_⟩
    · rw [kept.outputVars]
      exact talks.speaks
    · rw [kept.closeVars]
      exact talks.fsm
  have called := ((sendClosed_talks stable_agreed).runCallback settled _).of_ok called
  exact ⟨rfl, called.congr stable_agreed ⟨rfl, rfl, rfl, rfl, rfl, rfl, rfl⟩ rfl rfl⟩

/-- An opener that has sent its SYN and waits for the answer. -/
structure Waits (own : SynOffer) (c : TCPConnection) : Prop where
  talks : Talks (Offered own) false own .synSent c
  fresh : Fresh c

lemma Waits.congr (waits : Waits own c) (same : SameOptions c c') (sent : c'.sent = c.sent)
    (state : c'.fsm = c.fsm) (iss : c'.iss = c.iss) (una : c'.sndUna = c.sndUna)
    (nxt : c'.sndNxt = c.sndNxt) (max : c'.sndMax = c.sndMax) : Waits own c' where
  talks := ⟨waits.talks.known.congr same, sent ▸ waits.talks.speaks, state.trans waits.talks.fsm⟩
  fresh := by
    refine ⟨?_, ?_, ?_, ?_, ?_⟩
    · rw [una, iss, waits.fresh.sndUna]
    · rw [nxt, iss, waits.fresh.sndNxt]
    · rw [max, iss, waits.fresh.sndMax]
    · rw [same.negotiation, waits.fresh.tsEnabled]
    · rw [same.negotiation, waits.fresh.rcvInitialTs]

lemma process_waits (waits : Waits own c) (occurs : occursInOpening input c = true)
    (positive : 0 < own.mss) (met : 0 < min own.mss peer.mss)
    (arrives : ∀ seg ∈ input.arrival, seg.synBit = true → SynSegment true peer seg)
    (ok : process env input c = .ok (ev, c')) :
    ev = .rcvSynAck ∧ Talks (Agreed own peer) false own .synSent c' ∨ ev = .ignore ∧ Waits own c' ∨
      nextState c'.active .synSent ev = .closed ∧ Speaks false own c'.sent := by
  cases input with
  | command command => cases occurs
  | resizeBuffer maxRcvBuffer => cases occurs
  | algTimer timer => simp [occursInOpening, waits.talks.fsm] at occurs
  | segment seg =>
    change processRcvSegment env seg c = .ok (ev, c') at ok
    unfold processRcvSegment at ok
    rw [waits.talks.fsm] at ok
    dsimp only at ok
    unfold processSegmentInSynSent at ok
    split at ok
    · split at ok
      · cases ok
        exact .inr (.inl ⟨rfl, waits⟩)
      · cases ok
        refine .inr (.inl ⟨rfl, waits.talks.sendRstTo stable_offered _ _ _, ?_⟩)
        exact ⟨waits.fresh.sndUna, waits.fresh.sndNxt, waits.fresh.sndMax,
          waits.fresh.tsEnabled, waits.fresh.rcvInitialTs⟩
    case isFalse acceptable =>
      split at ok
      · split at ok
        · cases ok
          exact .inr (.inr ⟨rfl, waits.talks.speaks⟩)
        · cases ok
          exact .inr (.inl ⟨rfl, waits⟩)
      split at ok
      case isTrue syn =>
        exact .inl (acceptSynInSynSent_agreed waits.talks (arrives seg rfl syn) met
          waits.fresh.sndNxt acceptable ok)
      case isFalse =>
        cases ok
        exact .inr (.inl ⟨rfl, waits⟩)
  | timer timer =>
    change processTimer env timer c = .ok (ev, c') at ok
    unfold processTimer at ok
    cases timer with
    | the2MSL =>
      unfold processTimeout2MSL at ok
      rw [waits.talks.fsm] at ok
      cases ok
    | connEstab =>
      unfold processTimeoutConnEstab at ok
      rw [waits.talks.fsm] at ok
      cases ok
      right; right
      refine ⟨rfl, ?_⟩
      split <;> exact waits.talks.speaks
    | finWait2 =>
      unfold processTimeoutFinWait2 at ok
      rw [waits.talks.fsm] at ok
      cases ok
    | synRexmit =>
      unfold processTimeoutSynRexmit at ok
      dsimp only at ok
      split at ok
      · cases ok
        exact .inr (.inr ⟨rfl, waits.talks.speaks⟩)
      rcases bind_eq_ok ok with ⟨d, resent, ok⟩
      rcases bind_eq_ok ok with ⟨synRexmit, -, ok⟩
      cases ok
      generalize counted : TCPConnection.mk .. = e at resent
      have waits : Waits own e := by
        subst counted
        exact waits.congr ⟨rfl, rfl, rfl, rfl, rfl, rfl, rfl⟩ rfl rfl rfl rfl rfl rfl
      have first : e.sendsFirstSyn = true := by
        unfold sendsFirstSyn
        rw [waits.talks.fsm, ← counted]
        simp
      unfold resendSyn at resent
      rw [waits.talks.fsm] at resent
      obtain ⟨offered, syn, sent, spoken⟩ :=
        sendSyn_offered waits.talks.known.toOffering positive first resent
      have fresh := sendSyn_fresh waits.fresh.sndUna
        ⟨waits.fresh.tsEnabled, waits.fresh.rcvInitialTs⟩ resent
      have talks : Talks (Offered own) false own .synSent d := by
        refine ⟨offered, ?_, ?_⟩
        · rw [sent]
          exact waits.talks.speaks.append_syn spoken
        · rw [sendSyn_inputVars resent]
          exact waits.talks.fsm
      have resent : Waits own d := ⟨talks, fresh⟩
      exact .inr (.inl ⟨rfl, resent.congr ⟨rfl, rfl, rfl, rfl, rfl, rfl, rfl⟩
        rfl rfl rfl rfl rfl rfl⟩)

/-! ## The state of either side -/

lemma nextState_later {active : Bool} (later : inHandshake fsm = false) (begun : fsm ≠ .init) :
    inHandshake (nextState active fsm ev) = false ∨
      fsm = .synRcvd ∧ nextState active fsm ev = .listen := by
  cases fsm with
  | init => exact absurd rfl begun
  | listen => cases later
  | synSent => cases later
  | synRcvd =>
    cases ev <;> cases active <;> first | exact .inl rfl | exact .inr ⟨rfl, rfl⟩
  | _ => cases ev <;> exact .inl rfl

lemma nextState_ne_synRcvd {active : Bool} (later : inHandshake fsm = false)
    (passed : fsm ≠ .synRcvd) : nextState active fsm ev ≠ .synRcvd := by
  cases fsm with
  | listen => cases later
  | synSent => cases later
  | synRcvd => exact absurd rfl passed
  | _ => cases ev <;> exact nofun

/-- The opener waits, has agreed with its peer, or is closed. -/
structure OpenerSide (own peer : SynOffer) (c : TCPConnection) : Prop where
  speaks : Speaks false own c.sent
  phase : c.fsm = .closed ∨ Waits own c ∨
    Agreed own peer c ∧ inHandshake c.fsm = false ∧ c.fsm ≠ .init ∧ c.fsm ≠ .synRcvd

/-- The listener is ready, has agreed with its peer, or is closed. -/
structure ListenerSide (own peer : SynOffer) (c : TCPConnection) : Prop where
  speaks : Speaks true (own.meet peer) c.sent
  phase : c.fsm = .closed ∨ Ready own peer c ∧ c.fsm = .listen ∨
    Agreed own peer c ∧ inHandshake c.fsm = false ∧ c.fsm ≠ .init

lemma Speaks.scalesOnly (speaks : Speaks ackBit offer sent)
    (mem : seg ∈ sent) : ScalesOnly offer seg.options := by
  obtain ⟨syn, noSyn⟩ := speaks seg mem
  cases carries : seg.synBit with
  | true => exact Carried.scalesOnly (syn carries).carried id
  | false => exact (noSyn carries).scalesOnly

/-- An event at the opener, to which what arrives has been sent by a listener. -/
lemma OpenerSide.handle (side : OpenerSide own peer c) (positive : 0 < own.mss)
    (met : 0 < min own.mss peer.mss) (speaks : Speaks true peer sent)
    (arrives : ∀ seg ∈ input.arrival, seg ∈ sent) (occurs : occursInOpening input c = true)
    (ok : handle env input c = .ok c') : OpenerSide own peer c' := by
  obtain ⟨ev, d, timers, toApp, processed, opened, rfl⟩ := handle_eq ok
  have state := process_fsm processed
  rcases side.phase with closed | waits | ⟨agreed, later, begun, passed⟩
  · exact absurd (state.trans closed) opened
  · rcases process_waits waits occurs positive met
      (fun seg mem syn => (speaks seg (arrives seg mem)).1 syn) processed with
      ⟨rfl, talks⟩ | ⟨rfl, waits⟩ | ⟨closed, spoken⟩
    · refine ⟨talks.speaks, .inr (.inr ⟨?_, ?_⟩)⟩
      · exact talks.known.congr ⟨rfl, rfl, rfl, rfl, rfl, rfl, rfl⟩
      · dsimp only
        rw [talks.fsm]
        exact ⟨rfl, nofun, nofun⟩
    · refine ⟨waits.talks.speaks, .inr (.inl ?_)⟩
      refine waits.congr ⟨rfl, rfl, rfl, rfl, rfl, rfl, rfl⟩ rfl ?_ rfl rfl rfl rfl
      dsimp only
      rw [waits.talks.fsm]
      rfl
    · refine ⟨spoken, .inl ?_⟩
      dsimp only
      rw [state, waits.talks.fsm]
      exact closed
  · have talks : Talks (Agreed own peer) false own c.fsm c := ⟨agreed, side.speaks, rfl⟩
    have talks := (process_agreed talks occurs later
      (fun seg mem => speaks.scalesOnly (arrives seg mem))
      (fun synRcvd => absurd synRcvd passed)).of_ok processed
    refine ⟨talks.speaks, .inr (.inr ⟨?_, ?_, ?_, ?_⟩)⟩
    · exact talks.known.congr ⟨rfl, rfl, rfl, rfl, rfl, rfl, rfl⟩
    all_goals
      dsimp only
      rw [state]
    · exact (nextState_later later begun).resolve_right fun back => passed back.1
    · exact nextState_ne_init begun ev
    · exact nextState_ne_synRcvd later passed

/-- An event at the listener, to which what arrives has been sent by an opener. -/
lemma ListenerSide.handle (side : ListenerSide own peer c) (met : 0 < min own.mss peer.mss)
    (speaks : Speaks false peer sent) (arrives : ∀ seg ∈ input.arrival, seg ∈ sent)
    (occurs : occursInOpening input c = true) (ok : handle env input c = .ok c') :
    ListenerSide own peer c' := by
  obtain ⟨ev, d, timers, toApp, processed, opened, rfl⟩ := handle_eq ok
  have state := process_fsm processed
  rcases side.phase with closed | ⟨ready, listen⟩ | ⟨agreed, later, begun⟩
  · exact absurd (state.trans closed) opened
  · have talks : Talks (Ready own peer) true (own.meet peer) .listen c :=
      ⟨ready, side.speaks, listen⟩
    rcases process_ready talks occurs met
      (fun seg mem syn => (speaks seg (arrives seg mem)).1 syn) processed with
      ⟨rfl, talks⟩ | ⟨stays, talks⟩
    · refine ⟨talks.speaks, .inr (.inr ⟨?_, ?_⟩)⟩
      · exact talks.known.congr ⟨rfl, rfl, rfl, rfl, rfl, rfl, rfl⟩
      · dsimp only
        rw [talks.fsm]
        exact ⟨rfl, nofun⟩
    · refine ⟨talks.speaks, ?_⟩
      dsimp only
      rw [talks.fsm]
      rcases stays with rfl | rfl
      · exact .inr (.inl ⟨talks.known.congr ⟨rfl, rfl, rfl, rfl, rfl, rfl, rfl⟩, rfl⟩)
      · exact .inl rfl
  · have talks : Talks (Agreed own peer) true (own.meet peer) c.fsm c := ⟨agreed, side.speaks, rfl⟩
    have talks := (process_agreed talks occurs later
      (fun seg mem => speaks.scalesOnly (arrives seg mem))
      (fun _ => ⟨rfl, rfl, met⟩)).of_ok processed
    refine ⟨talks.speaks, .inr ?_⟩
    dsimp only
    rw [state]
    rcases nextState_later later begun with later | ⟨-, listen⟩
    · refine .inr ⟨?_, later, nextState_ne_init begun ev⟩
      exact talks.known.congr ⟨rfl, rfl, rfl, rfl, rfl, rfl, rfl⟩
    · refine .inl ⟨?_, listen⟩
      exact talks.known.ready.congr ⟨rfl, rfl, rfl, rfl, rfl, rfl, rfl⟩

lemma initConnection_offering {par : TCPPar} (ok : (new par).initConnection = .ok c) :
    Offering (ofPar par) c ∧ c.sent = [] ∧ c.fsm = .init := by
  obtain ⟨rcvWnd, rfl⟩ := configureStateVariables_eq ok
  exact ⟨⟨⟨rfl, rfl, rfl, rfl, rfl⟩, rfl, rfl, rfl, rfl, rfl, rfl, rfl⟩, rfl, rfl⟩

lemma openerSide_of_openActive {par : TCPPar} {localPort remotePort : Option UInt16}
    (positive : 0 < (ofPar par).mss)
    (ok : (new par).handle env (.command (.openActive localPort remotePort)) = .ok c) :
    OpenerSide (ofPar par) peer c := by
  obtain ⟨synSent, fresh, -⟩ := handle_openActive ok
  suffices offered : Offered (ofPar par) c ∧ Speaks false (ofPar par) c.sent from
    ⟨offered.2, .inr (.inl ⟨⟨offered.1, offered.2, synSent⟩, fresh⟩)⟩
  obtain ⟨ev, d, timers, toApp, processed, -, rfl⟩ := handle_eq ok
  change processOpenActive env localPort remotePort (new par) = .ok (ev, d) at processed
  unfold processOpenActive at processed
  rcases bind_eq_ok processed with ⟨c₁, init, processed⟩
  split at processed
  · cases processed
  · rcases bind_eq_ok processed with ⟨c₂, select, processed⟩
    rcases bind_eq_ok processed with ⟨c₃, syn, processed⟩
    rcases bind_eq_ok processed with ⟨connEstab, -, processed⟩
    cases processed
    obtain ⟨offering, sent, state⟩ := initConnection_offering init
    have selected : Offering (ofPar par) c₂ ∧ c₂.sent = [] ∧ c₂.fsm = .init := by
      rw [selectInitialSeqNum_eq select]
      exact ⟨offering.congr ⟨rfl, rfl, rfl, rfl, rfl, rfl, rfl⟩, sent, state⟩
    obtain ⟨offered, segment, appended, spoken⟩ :=
      sendSyn_offered selected.1 positive (by simp [sendsFirstSyn, selected.2.2]) syn
    refine ⟨offered.congr ⟨rfl, rfl, rfl, rfl, rfl, rfl, rfl⟩, ?_⟩
    change Speaks _ _ c₃.sent
    rw [appended, selected.2.1]
    exact Speaks.append_syn (fun _ mem => nomatch mem) spoken

lemma listenerSide_of_openPassive {par : TCPPar} {port : Option UInt16} {fork : Bool}
    (ok : (new par).handle env (.command (.openPassive port fork)) = .ok c) :
    ListenerSide (ofPar par) peer c := by
  obtain ⟨ev, d, timers, toApp, processed, -, rfl⟩ := handle_eq ok
  change processOpenPassive port fork (new par) = .ok (ev, d) at processed
  unfold processOpenPassive at processed
  rcases bind_eq_ok processed with ⟨c₁, init, processed⟩
  obtain ⟨offering, sent, state⟩ := initConnection_offering init
  split at processed
  · cases processed
  · cases processed
    refine ⟨?_, .inr (.inl ⟨?_, ?_⟩)⟩
    · rw [sent]
      exact fun _ mem => nomatch mem
    · exact offering.ready.congr ⟨rfl, rfl, rfl, rfl, rfl, rfl, rfl⟩
    · rw [state]
      rfl

/-- What a connection has enabled, and the segment size it sends with. -/
def negotiated (c : TCPConnection) : SynOffer where
  ws := c.wsEnabled
  ts := c.tsEnabled
  sack := c.sackEnabled
  mss := c.sndMss

lemma Agreed.negotiated (agreed : Agreed own peer c) : c.negotiated = own.meet peer := by
  unfold TCPConnection.negotiated meet
  rw [agreed.wsEnabled, agreed.tsEnabled, agreed.sackEnabled, agreed.sndMss]

end TCPConnection

namespace ConnectionPair

variable {clientPar serverPar : TCPPar} {pair pair' : ConnectionPair}

/-- The client has just been opened actively, the server passively. -/
inductive Opened (clientPar serverPar : TCPPar) : ConnectionPair → Prop
  | opened {clientEnv serverEnv : Env} {localPort remotePort listenPort : Option UInt16}
      {fork : Bool} {client server : TCPConnection} (openActive : (new clientPar).handle clientEnv
        (.command (.openActive localPort remotePort)) = .ok client)
      (openPassive : (new serverPar).handle serverEnv
        (.command (.openPassive listenPort fork)) = .ok server) :
      Opened clientPar serverPar ⟨client, server⟩

/-- An event on one side while the two open; what arrives has been sent by the other. -/
inductive OpeningStep : ConnectionPair → ConnectionPair → Prop
  | client {pair : ConnectionPair} {c' : TCPConnection} (env : Env) (input : TcpInput)
      (occurs : occursInOpening input pair.client = true)
      (enabled : pair.client.enabled input = true)
      (sent : ∀ tcpseg ∈ input.arrival, tcpseg ∈ pair.server.sent)
      (handled : pair.client.handle env input = .ok c') :
      OpeningStep pair { pair with client := c' }
  | server {pair : ConnectionPair} {c' : TCPConnection} (env : Env) (input : TcpInput)
      (occurs : occursInOpening input pair.server = true)
      (enabled : pair.server.enabled input = true)
      (sent : ∀ tcpseg ∈ input.arrival, tcpseg ∈ pair.client.sent)
      (handled : pair.server.handle env input = .ok c') :
      OpeningStep pair { pair with server := c' }

/-- The pair after some of the segments have been lost, some delivered, once or more often
and in any order, and some sent again. -/
def OpeningReachable (clientPar serverPar : TCPPar) (pair : ConnectionPair) : Prop :=
  ∃ start, Opened clientPar serverPar start ∧ Relation.ReflTransGen OpeningStep start pair

/-- Either side has its part of the agreement. -/
structure Sides (clientOffer serverOffer : SynOffer) (pair : ConnectionPair) : Prop where
  client : OpenerSide clientOffer (serverOffer.meet clientOffer) pair.client
  server : ListenerSide serverOffer clientOffer pair.server

lemma min_pos {a b : UInt32} (left : 0 < a) (right : 0 < b) : 0 < min a b := by
  rw [Std.min_eq_if]
  split
  · exact left
  · exact right

lemma Sides.step {clientOffer serverOffer : SynOffer} (sides : Sides clientOffer serverOffer pair)
    (clientMss : 0 < clientOffer.mss) (serverMss : 0 < serverOffer.mss)
    (step : OpeningStep pair pair') : Sides clientOffer serverOffer pair' := by
  have met := min_pos serverMss clientMss
  cases step with
  | client env input occurs enabled sent handled =>
    exact ⟨sides.client.handle clientMss (min_pos clientMss met) sides.server.speaks sent occurs
      handled, sides.server⟩
  | server env input occurs enabled sent handled =>
    exact ⟨sides.client, sides.server.handle met sides.client.speaks sent occurs handled⟩

lemma sides_of_reachable (reachable : OpeningReachable clientPar serverPar pair)
    (clientMss : 0 < (ofPar clientPar).mss) (serverMss : 0 < (ofPar serverPar).mss) :
    Sides (ofPar clientPar) (ofPar serverPar) pair := by
  obtain ⟨start, ⟨openActive, openPassive⟩, run⟩ := reachable
  induction run with
  | refl =>
    exact ⟨openerSide_of_openActive clientMss openActive, listenerSide_of_openPassive openPassive⟩
  | tail _ last ih => exact ih.step clientMss serverMss last

lemma meet_comm (a b : SynOffer) : a.meet b = b.meet a := by
  have mss : min a.mss b.mss = min b.mss a.mss := by grind
  unfold meet
  rw [Bool.and_comm, Bool.and_comm a.ts, Bool.and_comm a.sack, mss]

lemma meet_meet (a b : SynOffer) : a.meet (b.meet a) = a.meet b := by
  have mss : min a.mss (min b.mss a.mss) = min a.mss b.mss := by grind
  have both (x y : Bool) : (x && (y && x)) = (x && y) := by
    rw [Bool.and_comm y, ← Bool.and_assoc, Bool.and_self]
  unfold meet
  rw [mss, both, both, both]

lemma OpenerSide.agreed {own peer : SynOffer} {c : TCPConnection} (side : OpenerSide own peer c)
    (established : c.fsm = .established) : Agreed own peer c := by
  rcases side.phase with closed | waits | ⟨agreed, -⟩
  · rw [established] at closed
    cases closed
  · have synSent := waits.talks.fsm
    rw [established] at synSent
    cases synSent
  · exact agreed

lemma ListenerSide.agreed {own peer : SynOffer} {c : TCPConnection}
    (side : ListenerSide own peer c) (established : c.fsm = .established) : Agreed own peer c := by
  rcases side.phase with closed | ⟨-, listen⟩ | ⟨agreed, -⟩
  · rw [established] at closed
    cases closed
  · rw [established] at listen
    cases listen
  · exact agreed

/-- Once both sides are established they have enabled what both support, and send with the
smaller segment size. -/
theorem negotiation_agrees (reachable : OpeningReachable clientPar serverPar pair)
    (clientMss : 0 < (ofPar clientPar).mss) (serverMss : 0 < (ofPar serverPar).mss)
    (client : pair.client.fsm = .established) (server : pair.server.fsm = .established) :
    pair.client.negotiated = (ofPar clientPar).meet (ofPar serverPar) ∧
      pair.server.negotiated = (ofPar clientPar).meet (ofPar serverPar) := by
  have sides := sides_of_reachable reachable clientMss serverMss
  have clientAgreed := OpenerSide.agreed sides.client client
  have serverAgreed := ListenerSide.agreed sides.server server
  rw [clientAgreed.negotiated, serverAgreed.negotiated, meet_meet]
  exact ⟨rfl, meet_comm ..⟩

/-- The input of an event: the segment of the other side with this number, or else the
expiry of the SYN-REXMIT timer. -/
def openingInput (index : Option ℕ) (sent : List TCPSegment) : Option TcpInput :=
  match index with
  | some index => sent[index]?.map .segment
  | none => some (.timer .synRexmit)

/-- An event at the client or else at the server. -/
def runOpeningEvent (atClient : Bool) (index : Option ℕ) (pair : ConnectionPair) :
    Option ConnectionPair :=
  if atClient then do
    let input ← openingInput index pair.server.sent
    if pair.client.enabled input then
      let c ← (pair.client.handle (renoAt 0) input).toOption
      return { pair with client := c }
    else none
  else do
    let input ← openingInput index pair.client.sent
    if pair.server.enabled input then
      let c ← (pair.server.handle (renoAt 0) input).toOption
      return { pair with server := c }
    else none

def runOpening : List (Bool × Option ℕ) → ConnectionPair → Option ConnectionPair
  | [], pair => some pair
  | (atClient, index) :: rest, pair =>
      (runOpeningEvent atClient index pair).bind (runOpening rest)

lemma openingInput_spec {index : Option ℕ} {sent : List TCPSegment} {input : TcpInput}
    (ok : openingInput index sent = some input) (c : TCPConnection) :
    occursInOpening input c = true ∧ ∀ seg ∈ input.arrival, seg ∈ sent := by
  unfold openingInput at ok
  split at ok
  · obtain ⟨seg, found, rfl⟩ := map_eq_some_iff.mp ok
    refine ⟨rfl, ?_⟩
    simpa [TcpInput.arrival] using List.mem_of_getElem? found
  · cases ok
    exact ⟨rfl, fun _ mem => absurd mem (Option.not_mem_none _)⟩

lemma openingStep_of_run {atClient : Bool} {index : Option ℕ}
    (ok : runOpeningEvent atClient index pair = some pair') : OpeningStep pair pair' := by
  unfold runOpeningEvent at ok
  split at ok
  · obtain ⟨input, chosen, ok⟩ := bind_eq_some_iff.mp ok
    obtain ⟨occurs, sent⟩ := openingInput_spec chosen pair.client
    split at ok
    case isTrue enabled =>
      obtain ⟨c, handled, ok⟩ := bind_eq_some_iff.mp ok
      cases ok
      exact .client (renoAt 0) input occurs enabled sent (eq_ok_of_toOption handled)
    case isFalse => cases ok
  · obtain ⟨input, chosen, ok⟩ := bind_eq_some_iff.mp ok
    obtain ⟨occurs, sent⟩ := openingInput_spec chosen pair.server
    split at ok
    case isTrue enabled =>
      obtain ⟨c, handled, ok⟩ := bind_eq_some_iff.mp ok
      cases ok
      exact .server (renoAt 0) input occurs enabled sent (eq_ok_of_toOption handled)
    case isFalse => cases ok

lemma reflTransGen_of_runOpening {events : List (Bool × Option ℕ)}
    (ok : runOpening events pair = some pair') : Relation.ReflTransGen OpeningStep pair pair' := by
  induction events generalizing pair with
  | nil =>
    cases ok
    exact .refl
  | cons ev rest ih =>
    obtain ⟨middle, first, ok⟩ := bind_eq_some_iff.mp ok
    exact .head (openingStep_of_run first) (ih ok)

def openerPar : TCPPar :=
  { advertisedWindow := 100000, mss := 1000, windowScalingSupport := true,
    timestampSupport := true, sackSupport := true }

def listenerPar : TCPPar :=
  { advertisedWindow := 14000, mss := 1400, timestampSupport := true, sackSupport := true }

/-- The SYN is sent twice and the second arrives, the SYN+ACKs arrive in the other order, and the
ACK of the first to arrive gets through. -/
def reopened : Option ConnectionPair := do
  let client ← ((new openerPar).handle { isn := 100 }
    (.command (.openActive (some 1000) (some 2000)))).toOption
  let server ← ((new listenerPar).handle {} (.command (.openPassive (some 2000) false))).toOption
  runOpening [(true, none), (false, some 1), (false, none), (true, some 1), (false, some 2)]
    ⟨client, server⟩

def bothEstablished (pair : ConnectionPair) : Bool :=
  pair.client.fsm = .established && pair.server.fsm = .established

lemma exists_bothEstablished :
    ∃ pair, OpeningReachable openerPar listenerPar pair ∧ bothEstablished pair = true := by
  have runs : reopened.any bothEstablished = true := by decide +kernel
  obtain ⟨pair, reopened_, established⟩ := (any_eq_true _ _).mp runs
  unfold reopened at reopened_
  obtain ⟨client, openActive, reopened_⟩ := bind_eq_some_iff.mp reopened_
  obtain ⟨server, openPassive, run⟩ := bind_eq_some_iff.mp reopened_
  exact ⟨pair, ⟨_, .opened (eq_ok_of_toOption openActive)
    (eq_ok_of_toOption openPassive), reflTransGen_of_runOpening run⟩, established⟩

theorem negotiation_agrees_reopened :
    ∃ pair, OpeningReachable openerPar listenerPar pair ∧
      pair.client.negotiated = ⟨false, true, true, 1000⟩ ∧
      pair.server.negotiated = ⟨false, true, true, 1000⟩ := by
  obtain ⟨pair, reachable, established⟩ := exists_bothEstablished
  obtain ⟨client, server⟩ : pair.client.fsm = .established ∧ pair.server.fsm = .established := by
    simpa [bothEstablished] using established
  have met : (ofPar openerPar).meet (ofPar listenerPar) = ⟨false, true, true, 1000⟩ := rfl
  rw [← met]
  exact ⟨pair, reachable, negotiation_agrees reachable (by decide) (by decide) client server⟩

end ConnectionPair

end Inet.Tcp
