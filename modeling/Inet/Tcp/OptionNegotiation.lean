import Inet.Tcp.SimultaneousOpen

/-!
# What SYN options say and do

`Carried`: which options spell an offer out; `Heard`: what a connection knows that has read its
peer's offer; `Agreed`: what it has settled on once it has answered or been answered.
-/

namespace Inet.Tcp

open List Inet.Except

/-- What a side is ready to use. -/
structure SynOffer where
  ws : Bool
  ts : Bool
  sack : Bool
  mss : UInt32

namespace SynOffer

open TCPConnection

/-- The settings of a module. -/
def ofPar (par : TCPPar) : SynOffer where
  ws := par.windowScalingSupport
  ts := par.timestampSupport
  sack := par.sackSupport
  mss := UInt32.ofInt par.mss

/-- What both sides are ready to use. -/
@[simps]
def meet (a b : SynOffer) : SynOffer where
  ws := a.ws && b.ws
  ts := a.ts && b.ts
  sack := a.sack && b.sack
  mss := min a.mss b.mss

/-- Padding in front of an option. -/
def IsPadding (options : List TCPOption) : Prop :=
  options = [] ∨ options = [nopOption, nopOption]

/-- The options that spell an offer out. -/
def Carried (offer : SynOffer) (options : List TCPOption) : Prop :=
  ∃ scale tsVal tsEcr sackPad tsPad, IsPadding sackPad ∧ IsPadding tsPad ∧
    options = [{ kind := .maximumSegmentSize, length := 4, values := [offer.mss] }] ++
      (if offer.ws then
        [nopOption, { kind := .windowScale, length := 3, values := [scale] }] else []) ++
      (if offer.sack then sackPad ++ [{ kind := .sackPermitted, length := 2 }] else []) ++
      (if offer.ts then
        tsPad ++ [{ kind := .timestamp, length := 10, values := [tsVal, tsEcr] }] else [])

lemma Carried.length {offer : SynOffer} {tcpseg : TCPSegment}
    (carried : Carried offer tcpseg.options) :
    0 < tcpseg.getOptionsArrayLength ∧ tcpseg.getOptionsArrayLength ≤ TCP_OPTIONS_MAX_SIZE := by
  obtain ⟨scale, tsVal, tsEcr, sackPad, tsPad, sackPadding, tsPadding, options⟩ := carried
  unfold TCPSegment.getOptionsArrayLength TCP_OPTIONS_MAX_SIZE
  rw [options]
  rcases sackPadding with rfl | rfl <;> rcases tsPadding with rfl | rfl <;>
    split_ifs <;> simp [nopOption]

end SynOffer

namespace TCPConnection

open SynOffer

variable {env : Env} {tcpseg tcpseg' : TCPSegment} {own p : SynOffer} {c c' : TCPConnection}

/-- The settings of a connection are those of its module. -/
structure Configured (own : SynOffer) (c : TCPConnection) : Prop where
  par : ofPar c.par = own
  wsSupport : c.wsSupport = own.ws
  tsSupport : c.tsSupport = own.ts
  sackSupport : c.sackSupport = own.sack
  maxRcvBufferChanged : c.maxRcvBufferChanged = false

/-- Nothing is known of the peer. -/
structure Offering (own : SynOffer) (c : TCPConnection) : Prop extends Configured own c where
  sndMss : c.sndMss = own.mss
  rcvWs : c.rcvWs = false
  wsEnabled : c.wsEnabled = false
  rcvInitialTs : c.rcvInitialTs = false
  tsEnabled : c.tsEnabled = false
  rcvSackPerm : c.rcvSackPerm = false
  sackEnabled : c.sackEnabled = false

/-- The own SYN has been sent, with everything there is to offer. -/
structure Offered (own : SynOffer) (c : TCPConnection) : Prop extends Offering own c where
  sndWs : own.ws = true → c.sndWs = true
  sndInitialTs : own.ts = true → c.sndInitialTs = true
  sndSackPerm : own.sack = true → c.sndSackPerm = true

/-- What may be known before the SYN of the peer has been read. -/
structure Ready (own peer : SynOffer) (c : TCPConnection) : Prop extends Configured own c where
  sndMss : c.sndMss = own.mss ∨ c.sndMss = min own.mss peer.mss
  rcvWs : c.rcvWs = true → peer.ws = true
  wsEnabled : c.wsEnabled = true → own.ws = true ∧ peer.ws = true
  rcvInitialTs : c.rcvInitialTs = true → peer.ts = true
  tsEnabled : c.tsEnabled = true → own.ts = true ∧ c.rcvInitialTs = true
  rcvSackPerm : c.rcvSackPerm = true → peer.sack = true
  sackEnabled : c.sackEnabled = true → own.sack = true ∧ peer.sack = true

/-- The offer of the peer is known. -/
structure Heard (own peer : SynOffer) (c : TCPConnection) : Prop extends Configured own c where
  sndMss : c.sndMss = min own.mss peer.mss
  rcvWs : c.rcvWs = peer.ws
  wsEnabled : c.wsEnabled = true → own.ws = true ∧ peer.ws = true
  rcvInitialTs : c.rcvInitialTs = peer.ts
  tsEnabled : c.tsEnabled = true → own.ts = true ∧ peer.ts = true
  rcvSackPerm : c.rcvSackPerm = peer.sack
  sackEnabled : c.sackEnabled = true → own.sack = true ∧ peer.sack = true

/-- What both sides offer is enabled, and nothing else. -/
structure Agreed (own peer : SynOffer) (c : TCPConnection) : Prop extends Configured own c where
  sndMss : c.sndMss = min own.mss peer.mss
  rcvWs : c.rcvWs = peer.ws
  sndWs : own.ws = true → peer.ws = true → c.sndWs = true
  wsEnabled : c.wsEnabled = (own.ws && peer.ws)
  rcvInitialTs : c.rcvInitialTs = peer.ts
  tsEnabled : c.tsEnabled = (own.ts && peer.ts)
  rcvSackPerm : c.rcvSackPerm = peer.sack
  sndSackPerm : own.sack = true → peer.sack = true → c.sndSackPerm = true
  sackEnabled : c.sackEnabled = (own.sack && peer.sack)

lemma Offering.ready (offering : Offering own c) : Ready own p c where
  toConfigured := offering.toConfigured
  sndMss := .inl offering.sndMss
  rcvWs := by simp [offering.rcvWs]
  wsEnabled := by simp [offering.wsEnabled]
  rcvInitialTs := by simp [offering.rcvInitialTs]
  tsEnabled := by simp [offering.tsEnabled]
  rcvSackPerm := by simp [offering.rcvSackPerm]
  sackEnabled := by simp [offering.sackEnabled]

lemma Agreed.heard (agreed : Agreed own p c) : Heard own p c where
  toConfigured := agreed.toConfigured
  sndMss := agreed.sndMss
  rcvWs := agreed.rcvWs
  wsEnabled := by simp [agreed.wsEnabled]
  rcvInitialTs := agreed.rcvInitialTs
  tsEnabled := by simp [agreed.tsEnabled]
  rcvSackPerm := agreed.rcvSackPerm
  sackEnabled := by simp [agreed.sackEnabled]

lemma Agreed.ready (agreed : Agreed own p c) : Ready own p c where
  toConfigured := agreed.toConfigured
  sndMss := .inr agreed.sndMss
  rcvWs := by simp [agreed.rcvWs]
  wsEnabled := by simp [agreed.wsEnabled]
  rcvInitialTs := by simp [agreed.rcvInitialTs]
  tsEnabled := by simp [agreed.tsEnabled, agreed.rcvInitialTs]
  rcvSackPerm := by simp [agreed.rcvSackPerm]
  sackEnabled := by simp [agreed.sackEnabled]

/-- The variables that the options turn on are the same. -/
structure SameOptions (c c' : TCPConnection) : Prop where
  par : c'.par = c.par
  wsSupport : c'.wsSupport = c.wsSupport
  tsSupport : c'.tsSupport = c.tsSupport
  sackSupport : c'.sackSupport = c.sackSupport
  maxRcvBufferChanged : c'.maxRcvBufferChanged = c.maxRcvBufferChanged
  sndMss : c'.sndMss = c.sndMss
  negotiation : c'.toNegotiationVars = c.toNegotiationVars

lemma Configured.congr (configured : Configured own c) (same : SameOptions c c') :
    Configured own c' where
  par := by rw [same.par, configured.par]
  wsSupport := same.wsSupport.trans configured.wsSupport
  tsSupport := same.tsSupport.trans configured.tsSupport
  sackSupport := same.sackSupport.trans configured.sackSupport
  maxRcvBufferChanged := same.maxRcvBufferChanged.trans configured.maxRcvBufferChanged

lemma Offering.congr (offering : Offering own c) (same : SameOptions c c') : Offering own c' where
  toConfigured := offering.toConfigured.congr same
  sndMss := same.sndMss.trans offering.sndMss
  rcvWs := by rw [same.negotiation, offering.rcvWs]
  wsEnabled := by rw [same.negotiation, offering.wsEnabled]
  rcvInitialTs := by rw [same.negotiation, offering.rcvInitialTs]
  tsEnabled := by rw [same.negotiation, offering.tsEnabled]
  rcvSackPerm := by rw [same.negotiation, offering.rcvSackPerm]
  sackEnabled := by rw [same.negotiation, offering.sackEnabled]

lemma Offered.congr (offered : Offered own c) (same : SameOptions c c') : Offered own c' where
  toOffering := offered.toOffering.congr same
  sndWs := by rw [same.negotiation]; exact offered.sndWs
  sndInitialTs := by rw [same.negotiation]; exact offered.sndInitialTs
  sndSackPerm := by rw [same.negotiation]; exact offered.sndSackPerm

lemma Ready.congr (ready : Ready own p c) (same : SameOptions c c') : Ready own p c' where
  toConfigured := ready.toConfigured.congr same
  sndMss := by rw [same.sndMss]; exact ready.sndMss
  rcvWs := by rw [same.negotiation]; exact ready.rcvWs
  wsEnabled := by rw [same.negotiation]; exact ready.wsEnabled
  rcvInitialTs := by rw [same.negotiation]; exact ready.rcvInitialTs
  tsEnabled := by rw [same.negotiation]; exact ready.tsEnabled
  rcvSackPerm := by rw [same.negotiation]; exact ready.rcvSackPerm
  sackEnabled := by rw [same.negotiation]; exact ready.sackEnabled

lemma Heard.congr (heard : Heard own p c) (same : SameOptions c c') : Heard own p c' where
  toConfigured := heard.toConfigured.congr same
  sndMss := same.sndMss.trans heard.sndMss
  rcvWs := by rw [same.negotiation, heard.rcvWs]
  wsEnabled := by rw [same.negotiation]; exact heard.wsEnabled
  rcvInitialTs := by rw [same.negotiation, heard.rcvInitialTs]
  tsEnabled := by rw [same.negotiation]; exact heard.tsEnabled
  rcvSackPerm := by rw [same.negotiation, heard.rcvSackPerm]
  sackEnabled := by rw [same.negotiation]; exact heard.sackEnabled

lemma Agreed.congr (agreed : Agreed own p c) (same : SameOptions c c') : Agreed own p c' where
  toConfigured := agreed.toConfigured.congr same
  sndMss := same.sndMss.trans agreed.sndMss
  rcvWs := by rw [same.negotiation, agreed.rcvWs]
  sndWs := by rw [same.negotiation]; exact agreed.sndWs
  wsEnabled := by rw [same.negotiation, agreed.wsEnabled]
  rcvInitialTs := by rw [same.negotiation, agreed.rcvInitialTs]
  tsEnabled := by rw [same.negotiation, agreed.tsEnabled]
  rcvSackPerm := by rw [same.negotiation, agreed.rcvSackPerm]
  sndSackPerm := by rw [same.negotiation]; exact agreed.sndSackPerm
  sackEnabled := by rw [same.negotiation, agreed.sackEnabled]

/-! ## Writing -/

/-- Is the option of this kind written: supported, and the first SYN or one that answers
the option? -/
def writesOption (support received : Bool) (c : TCPConnection) : Bool :=
  support && (received || c.sendsFirstSyn)

section Steps

variable (env) (tcpseg) (c)

/-- The window scale among the options of a SYN. -/
def synWindowScale : TCPSegment × TCPConnection :=
  if c.writesOption c.wsSupport c.rcvWs then writeWindowScale tcpseg c else (tcpseg, c)

def synSackPermitted : TCPSegment × TCPConnection :=
  if c.writesOption c.sackSupport c.rcvSackPerm then writeSackPermitted tcpseg c else (tcpseg, c)

def synTimestamp : TCPSegment × TCPConnection :=
  if c.writesOption c.tsSupport c.rcvInitialTs then writeInitialTimestamp env tcpseg c
  else (tcpseg, c)

lemma writeSynOptions_eq :
    writeSynOptions env tcpseg c =
      (fun (tcpseg, c) => synTimestamp env tcpseg c)
        ((fun (tcpseg, c) => synSackPermitted tcpseg c)
          (synWindowScale (addOptions c.mssOption tcpseg) c)) := rfl

variable {c}

lemma synWindowScale_eq {writes : Bool} (writes_eq : c.writesOption c.wsSupport c.rcvWs = writes) :
    ∃ scale rcvWndScale, synWindowScale tcpseg c = (addOptions (if writes then
        [nopOption, { kind := .windowScale, length := 3, values := [scale] }] else []) tcpseg,
      { c with
        rcvWndScale := rcvWndScale
        sndWs := c.sndWs || writes
        wsEnabled := if writes then c.wsSupport && c.rcvWs else c.wsEnabled }) := by
  subst writes_eq
  unfold synWindowScale
  split
  case isTrue writes =>
    rw [writes, Bool.or_true]
    exact ⟨_, _, rfl⟩
  case isFalse writes =>
    rw [Bool.eq_false_iff.mpr writes, Bool.or_false]
    refine ⟨0, c.rcvWndScale, ?_⟩
    simp [addOptions]

lemma synSackPermitted_eq {writes : Bool}
    (writes_eq : c.writesOption c.sackSupport c.rcvSackPerm = writes) :
    ∃ padding, IsPadding padding ∧ synSackPermitted tcpseg c =
      (addOptions (if writes then padding ++ [{ kind := .sackPermitted, length := 2 }] else [])
        tcpseg,
      { c with
        sndSackPerm := c.sndSackPerm || writes
        sackEnabled := if writes then c.sackSupport && c.rcvSackPerm else c.sackEnabled }) := by
  subst writes_eq
  unfold synSackPermitted
  split
  case isTrue writes =>
    rw [writes, Bool.or_true]
    refine ⟨if c.tsSupport then [] else [nopOption, nopOption], ?_, rfl⟩
    split
    · exact .inl rfl
    · exact .inr rfl
  case isFalse writes =>
    rw [Bool.eq_false_iff.mpr writes, Bool.or_false]
    refine ⟨[], .inl rfl, ?_⟩
    simp [addOptions]

lemma synTimestamp_eq {writes : Bool}
    (writes_eq : c.writesOption c.tsSupport c.rcvInitialTs = writes) :
    ∃ padding tsVal tsEcr, IsPadding padding ∧ synTimestamp env tcpseg c =
      (addOptions (if writes then
        padding ++ [{ kind := .timestamp, length := 10, values := [tsVal, tsEcr] }] else []) tcpseg,
      { c with
        sndInitialTs := c.sndInitialTs || writes
        tsEnabled := if writes then c.tsSupport && c.rcvInitialTs else c.tsEnabled }) := by
  subst writes_eq
  unfold synTimestamp
  split
  case isTrue writes =>
    rw [writes, Bool.or_true]
    refine ⟨if c.sackSupport then [] else [nopOption, nopOption], _, _, ?_, rfl⟩
    split
    · exact .inl rfl
    · exact .inr rfl
  case isFalse writes =>
    rw [Bool.eq_false_iff.mpr writes, Bool.or_false]
    refine ⟨[], 0, 0, .inl rfl, ?_⟩
    simp [addOptions]

end Steps

lemma writeSynOptions_spec (env : Env) (offer : SynOffer) (positive : 0 < c.sndMss)
    (bare : tcpseg.options = []) (mss : offer.mss = c.sndMss)
    (ws : c.writesOption c.wsSupport c.rcvWs = offer.ws)
    (sack : c.writesOption c.sackSupport c.rcvSackPerm = offer.sack)
    (ts : c.writesOption c.tsSupport c.rcvInitialTs = offer.ts) :
    ∃ rcvWndScale, Carried offer (writeSynOptions env tcpseg c).1.options ∧
      (writeSynOptions env tcpseg c).2 = { c with
        rcvWndScale := rcvWndScale
        sndWs := c.sndWs || offer.ws
        wsEnabled := if offer.ws then c.wsSupport && c.rcvWs else c.wsEnabled
        sndSackPerm := c.sndSackPerm || offer.sack
        sackEnabled := if offer.sack then c.sackSupport && c.rcvSackPerm else c.sackEnabled
        sndInitialTs := c.sndInitialTs || offer.ts
        tsEnabled := if offer.ts then c.tsSupport && c.rcvInitialTs else c.tsEnabled } := by
  obtain ⟨scale, rcvWndScale, first⟩ := synWindowScale_eq (addOptions c.mssOption tcpseg) ws
  rw [writeSynOptions_eq, first]
  dsimp only
  generalize scaled : addOptions _ (addOptions c.mssOption tcpseg) = tcpseg₁
  generalize conn₁ : TCPConnection.mk .. = c₁
  have sack : c₁.writesOption c₁.sackSupport c₁.rcvSackPerm = offer.sack := by
    rw [← conn₁]
    exact sack
  obtain ⟨sackPad, sackPadding, second⟩ := synSackPermitted_eq tcpseg₁ sack
  rw [second]
  dsimp only
  generalize permitted : addOptions _ tcpseg₁ = tcpseg₂
  generalize conn₂ : TCPConnection.mk .. = c₂
  have ts : c₂.writesOption c₂.tsSupport c₂.rcvInitialTs = offer.ts := by
    rw [← conn₂, ← conn₁]
    exact ts
  obtain ⟨tsPad, tsVal, tsEcr, tsPadding, third⟩ := synTimestamp_eq env tcpseg₂ ts
  rw [third]
  refine ⟨rcvWndScale, ⟨scale, tsVal, tsEcr, sackPad, tsPad, sackPadding, tsPadding, ?_⟩, ?_⟩
  · rw [← permitted, ← scaled]
    dsimp only [addOptions]
    rw [bare, nil_append, mssOption, if_pos positive, mss]
  · rw [← conn₂, ← conn₁]

lemma writeSynOptions_offered (env : Env) (offering : Offering own c) (positive : 0 < own.mss)
    (first : c.sendsFirstSyn = true) (bare : tcpseg.options = []) :
    Carried own (writeSynOptions env tcpseg c).1.options ∧
      Offered own (writeSynOptions env tcpseg c).2 := by
  have writes {support received : Bool} : c.writesOption support received = support := by
    unfold writesOption
    rw [first, Bool.or_true, Bool.and_true]
  obtain ⟨rcvWndScale, carried, conn⟩ := writeSynOptions_spec env own
    (by rw [offering.sndMss]; exact positive) bare offering.sndMss.symm
    (writes.trans offering.wsSupport) (writes.trans offering.sackSupport)
    (writes.trans offering.tsSupport)
  refine ⟨carried, ?_⟩
  rw [conn]
  exact {
    par := offering.par
    wsSupport := offering.wsSupport
    tsSupport := offering.tsSupport
    sackSupport := offering.sackSupport
    maxRcvBufferChanged := offering.maxRcvBufferChanged
    sndMss := offering.sndMss
    rcvWs := offering.rcvWs
    wsEnabled := by simp [offering.rcvWs, offering.wsEnabled]
    rcvInitialTs := offering.rcvInitialTs
    tsEnabled := by simp [offering.rcvInitialTs, offering.tsEnabled]
    rcvSackPerm := offering.rcvSackPerm
    sackEnabled := by simp [offering.rcvSackPerm, offering.sackEnabled]
    sndWs := fun set => by simp [set]
    sndInitialTs := fun set => by simp [set]
    sndSackPerm := fun set => by simp [set] }

lemma writeSynOptions_agreed (env : Env) (heard : Heard own p c)
    (positive : 0 < min own.mss p.mss) (answers : c.sendsFirstSyn = false)
    (bare : tcpseg.options = []) :
    Carried (own.meet p) (writeSynOptions env tcpseg c).1.options ∧
      Agreed own p (writeSynOptions env tcpseg c).2 := by
  have writes {support received : Bool} :
      c.writesOption support received = (support && received) := by
    unfold writesOption
    rw [answers, Bool.or_false]
  obtain ⟨rcvWndScale, carried, conn⟩ := writeSynOptions_spec env (own.meet p)
    (by rw [heard.sndMss]; exact positive) bare heard.sndMss.symm
    (by rw [writes, heard.wsSupport, heard.rcvWs]; rfl)
    (by rw [writes, heard.sackSupport, heard.rcvSackPerm]; rfl)
    (by rw [writes, heard.tsSupport, heard.rcvInitialTs]; rfl)
  have settled {enabled support received : Bool} {both : Bool} (only : enabled = true → both = true)
      (same : (support && received) = both) :
      (if both then support && received else enabled) = both := by
    cases both with
    | true => exact same
    | false => exact Bool.eq_false_iff.mpr fun set => nomatch only set
  refine ⟨carried, ?_⟩
  rw [conn]
  exact {
    par := heard.par
    wsSupport := heard.wsSupport
    tsSupport := heard.tsSupport
    sackSupport := heard.sackSupport
    maxRcvBufferChanged := heard.maxRcvBufferChanged
    sndMss := heard.sndMss
    rcvWs := heard.rcvWs
    sndWs := fun own p => by simp [meet, own, p]
    wsEnabled := settled (fun set => by simpa using heard.wsEnabled set)
      (by rw [heard.wsSupport, heard.rcvWs]; rfl)
    rcvInitialTs := heard.rcvInitialTs
    tsEnabled := settled (fun set => by simpa using heard.tsEnabled set)
      (by rw [heard.tsSupport, heard.rcvInitialTs]; rfl)
    rcvSackPerm := heard.rcvSackPerm
    sndSackPerm := fun own p => by simp [meet, own, p]
    sackEnabled := settled (fun set => by simpa using heard.sackEnabled set)
      (by rw [heard.sackSupport, heard.rcvSackPerm]; rfl) }

/-- A SYN with these options, as it arrives at the peer. -/
structure SynSegment (ackBit : Bool) (offer : SynOffer) (tcpseg : TCPSegment) : Prop
    extends Bare tcpseg where
  synBit : tcpseg.synBit = true
  ackBit : tcpseg.ackBit = ackBit
  carried : Carried offer tcpseg.options
  headerLength : TCP_HEADER_OCTETS < tcpseg.headerLength

lemma writeHeaderOptions_syn {offer : SynOffer} (carries : c.carriesSynOptions tcpseg = true)
    (unchanged : c.maxRcvBufferChanged = false)
    (carried : Carried offer (writeSynOptions env tcpseg c).1.options)
    (ok : writeHeaderOptions env tcpseg c = .ok (tcpseg', c')) :
    c' = (writeSynOptions env tcpseg c).2 ∧ Carried offer tcpseg'.options ∧
      TCP_HEADER_OCTETS < tcpseg'.headerLength := by
  unfold writeHeaderOptions writeStateOptions at ok
  rw [if_pos carries] at ok
  have same : (writeSynOptions env tcpseg c).2.maxRcvBufferChanged = c.maxRcvBufferChanged := by
    simp only [writeSynOptions, writeWindowScale, writeSackPermitted, writeInitialTimestamp]
    split_ifs <;> rfl
  rcases bind_eq_ok ok with ⟨⟨middle, d⟩, written, ok⟩
  rw [Except.ok.inj written] at carried same ⊢
  have still : d.maxRcvBufferChanged = false := same.trans unchanged
  have kept : writeChangedBuffer middle d = (middle, d) := by
    unfold writeChangedBuffer
    rw [if_neg (by simp [still])]
  dsimp only at ok
  rw [kept] at ok
  cases ok
  obtain ⟨some, fits⟩ := carried.length
  have options : middle.options ≠ [] := fun none => by
    simp [TCPSegment.getOptionsArrayLength, none] at some
  unfold fitOptions
  rw [if_neg options, if_pos fits]
  exact ⟨rfl, carried, Nat.lt_add_of_pos_right some⟩

/-- The options of a segment without SYN do not speak of the window scale. -/
def NoWindowScale (options : List TCPOption) : Prop :=
  ∀ option ∈ options, option.kind ≠ .windowScale

variable {options : List TCPOption}

lemma NoWindowScale.append {more : List TCPOption} (first : NoWindowScale options)
    (second : NoWindowScale more) : NoWindowScale (options ++ more) := by
  intro option mem
  rcases mem_append.mp mem with mem | mem
  · exact first option mem
  · exact second option mem

lemma addSacks_noWindowScale (none : NoWindowScale tcpseg.options)
    (ok : addSacks tcpseg c = .ok (tcpseg', c')) : NoWindowScale tcpseg'.options := by
  rcases bind_eq_ok ok with ⟨survivors, -, ok⟩
  split at ok
  · cases ok
    exact none
  · rcases bind_eq_ok ok with ⟨sacks, -, ok⟩
    rcases bind_eq_ok ok with ⟨written, append, ok⟩
    cases ok
    unfold appendSacks at append
    split at append
    · cases append
      exact none
    · rcases bind_eq_ok append with ⟨-, -, append⟩
      rcases bind_eq_ok append with ⟨-, -, append⟩
      cases append
      refine (none.append ?_).append ?_
      · intro option mem
        rw [eq_of_mem_replicate mem]
        exact nofun
      · simp [NoWindowScale]

lemma writeTimestamp_noWindowScale (env : Env) (none : NoWindowScale tcpseg.options) :
    NoWindowScale (writeTimestamp env tcpseg c).options := by
  unfold writeTimestamp
  split
  · refine none.append (.append ?_ ?_)
    · split
      · exact fun _ mem => nomatch mem
      · simp [NoWindowScale, nopOption]
    · simp [NoWindowScale, timestampOption]
  · exact none

lemma writeHeaderOptions_noSyn (unchanged : c.maxRcvBufferChanged = false)
    (bare : tcpseg.options = []) (noSyn : tcpseg.synBit = false)
    (ok : writeHeaderOptions env tcpseg c = .ok (tcpseg', c')) :
    NoWindowScale tcpseg'.options ∧ c'.toNegotiationVars = c.toNegotiationVars ∧
      c'.maxRcvBufferChanged = false := by
  have none : NoWindowScale tcpseg.options := by
    rw [bare]
    exact fun _ mem => nomatch mem
  rcases bind_eq_ok ok with ⟨⟨middle, d⟩, written, ok⟩
  have first : NoWindowScale middle.options ∧ d.toNegotiationVars = c.toNegotiationVars ∧
      d.maxRcvBufferChanged = false := by
    unfold writeStateOptions carriesSynOptions at written
    rw [if_neg (by simp [noSyn])] at written
    split at written
    · unfold writeDataOptions at written
      have stamped := writeTimestamp_noWindowScale (c := c) env none
      split at written
      · rw [addSacks_eq written]
        exact ⟨addSacks_noWindowScale stamped written, rfl, unchanged⟩
      · cases written
        exact ⟨stamped, rfl, unchanged⟩
    · cases written
      exact ⟨none, rfl, unchanged⟩
  have kept : writeChangedBuffer middle d = (middle, d) := by
    unfold writeChangedBuffer
    rw [if_neg (by simp [first.2.2])]
  dsimp only at ok
  rw [kept] at ok
  cases ok
  refine ⟨?_, first.2⟩
  unfold fitOptions
  split
  · exact first.1
  · split
    · exact first.1
    · exact fun _ mem => nomatch mem

/-! ## Reading -/

variable {padding : List TCPOption}

lemma readOptions_padding (padding_ : IsPadding padding) (c : TCPConnection) :
    padding.foldlM (fun c option => readHeaderOption tcpseg option c) c = .ok c := by
  rcases padding_ with rfl | rfl
  · rfl
  · rfl

lemma readOptions_mss {mss : UInt32} (handshake : inHandshake c.fsm = true)
    (positive : 0 < min c.sndMss mss)
    (ok : [{ kind := .maximumSegmentSize, length := 4, values := [mss] }].foldlM
      (fun c option => readHeaderOption tcpseg option c) c = .ok c') :
    c' = { c with sndMss := min c.sndMss mss } := by
  rcases bind_eq_ok ok with ⟨d, read, ok⟩
  cases ok
  change processMSSOption _ c = .ok c' at read
  unfold processMSSOption at read
  rw [if_neg (by simp [handshake])] at read
  dsimp only at read
  have nonzero : min c.sndMss mss ≠ 0 := fun zero => by
    rw [zero] at positive
    cases positive
  rw [if_neg nonzero] at read
  cases read
  rfl

lemma readOptions_ws {ws : Bool} {scale : UInt32}
    (ok : (if ws then [nopOption, { kind := .windowScale, length := 3, values := [scale] }]
      else []).foldlM (fun c option => readHeaderOption tcpseg option c) c = .ok c') :
    ∃ sndWndScale, c' = { c with
      rcvWs := c.rcvWs || ws
      wsEnabled := if ws then c.wsSupport && c.sndWs else c.wsEnabled
      sndWndScale := sndWndScale } := by
  cases ws with
  | true =>
    cases ok
    exact ⟨_, by rw [Bool.or_true]; rfl⟩
  | false =>
    cases ok
    exact ⟨c.sndWndScale, by rw [Bool.or_false]; rfl⟩

lemma readOptions_sack {sack : Bool} (padding_ : IsPadding padding)
    (handshake : inHandshake c.fsm = true)
    (ok : (if sack then padding ++ [{ kind := .sackPermitted, length := 2 }] else []).foldlM
      (fun c option => readHeaderOption tcpseg option c) c = .ok c') :
    c' = { c with
      rcvSackPerm := c.rcvSackPerm || sack
      sackEnabled := if sack then c.sackSupport && c.sndSackPerm else c.sackEnabled } := by
  cases sack with
  | true =>
    rw [if_pos rfl, foldlM_append, readOptions_padding padding_] at ok
    change Except.ok (processSACKPermittedOption _ c) = .ok c' at ok
    unfold processSACKPermittedOption at ok
    rw [if_neg (by simp [handshake])] at ok
    cases ok
    rw [Bool.or_true]
    rfl
  | false =>
    cases ok
    rw [Bool.or_false]
    rfl

lemma not_inDataTransfer {fsm : TcpState} (handshake : inHandshake fsm = true) :
    inDataTransfer fsm = false := by
  cases fsm <;> first | rfl | cases handshake

lemma processTSOption_handshake (tcpseg : TCPSegment) (handshake : inHandshake c.fsm = true)
    (tsVal tsEcr : UInt32) :
    ∃ tsRecent, processTSOption tcpseg
        { kind := .timestamp, length := 10, values := [tsVal, tsEcr] } c =
      .ok { c with
        rcvInitialTs := c.rcvInitialTs || !c.tsEnabled
        tsEnabled := c.tsEnabled || (c.tsSupport && c.sndInitialTs)
        tsRecent := tsRecent } := by
  by_cases enabled : c.tsEnabled = true
  · have unexpected : c.timestampUnexpected = true := by
      unfold timestampUnexpected
      rw [if_pos enabled, not_inDataTransfer handshake]
      rfl
    unfold processTSOption
    rw [if_pos (.inr unexpected)]
    have received : (c.rcvInitialTs || !c.tsEnabled) = c.rcvInitialTs := by
      rw [enabled, Bool.not_true, Bool.or_false]
    have still : (c.tsEnabled || (c.tsSupport && c.sndInitialTs)) = c.tsEnabled := by
      rw [enabled, Bool.true_or]
    rw [received, still]
    exact ⟨c.tsRecent, rfl⟩
  · have expected : c.timestampUnexpected = false := by
      unfold timestampUnexpected
      rw [if_neg enabled, handshake]
      rfl
    unfold processTSOption
    rw [if_neg (by simp [expected])]
    dsimp only
    rw [if_neg enabled, Bool.eq_false_iff.mpr enabled]
    split
    · exact ⟨tsVal, by rw [Bool.not_false, Bool.or_true, Bool.false_or]⟩
    · exact ⟨c.tsRecent, by rw [Bool.not_false, Bool.or_true, Bool.false_or]⟩

lemma readOptions_ts {ts : Bool} {tsVal tsEcr : UInt32} (padding_ : IsPadding padding)
    (handshake : inHandshake c.fsm = true) (ok : (if ts then
        padding ++ [{ kind := .timestamp, length := 10, values := [tsVal, tsEcr] }] else []).foldlM
      (fun c option => readHeaderOption tcpseg option c) c = .ok c') :
    ∃ tsRecent, c' = { c with
      rcvInitialTs := c.rcvInitialTs || (ts && !c.tsEnabled)
      tsEnabled := c.tsEnabled || (ts && (c.tsSupport && c.sndInitialTs))
      tsRecent := tsRecent } := by
  cases ts with
  | true =>
    obtain ⟨tsRecent, read⟩ := processTSOption_handshake tcpseg handshake tsVal tsEcr
    rw [if_pos rfl, foldlM_append, readOptions_padding padding_] at ok
    rcases bind_eq_ok ok with ⟨d, padded, ok⟩
    cases padded
    rcases bind_eq_ok ok with ⟨d, stamped, ok⟩
    cases ok
    change processTSOption tcpseg _ c = .ok c' at stamped
    rw [read] at stamped
    cases stamped
    exact ⟨tsRecent, by simp only [Bool.true_and]⟩
  | false =>
    cases ok
    exact ⟨c.tsRecent, by simp only [Bool.false_and, Bool.or_false]⟩

lemma readHeaderOptions_carried {offer : SynOffer} (carried : Carried offer tcpseg.options)
    (handshake : inHandshake c.fsm = true) (positive : 0 < min c.sndMss offer.mss)
    (ok : readHeaderOptions tcpseg c = .ok c') :
    ∃ sndWndScale tsRecent, c' = { c with
      sndMss := min c.sndMss offer.mss
      rcvWs := c.rcvWs || offer.ws
      wsEnabled := if offer.ws then c.wsSupport && c.sndWs else c.wsEnabled
      sndWndScale := sndWndScale
      rcvSackPerm := c.rcvSackPerm || offer.sack
      sackEnabled := if offer.sack then c.sackSupport && c.sndSackPerm else c.sackEnabled
      rcvInitialTs := c.rcvInitialTs || (offer.ts && !c.tsEnabled)
      tsEnabled := c.tsEnabled || (offer.ts && (c.tsSupport && c.sndInitialTs))
      tsRecent := tsRecent } := by
  obtain ⟨scale, tsVal, tsEcr, sackPad, tsPad, sackPadding, tsPadding, options⟩ := carried
  unfold readHeaderOptions at ok
  rw [options, foldlM_append, foldlM_append, foldlM_append] at ok
  rcases bind_eq_ok ok with ⟨c₃, ok, stamped⟩
  rcases bind_eq_ok ok with ⟨c₂, ok, permitted⟩
  rcases bind_eq_ok ok with ⟨c₁, sized, scaled⟩
  obtain rfl := readOptions_mss handshake positive sized
  obtain ⟨sndWndScale, rfl⟩ := readOptions_ws scaled
  obtain rfl := readOptions_sack sackPadding (by exact handshake) permitted
  obtain ⟨tsRecent, rfl⟩ := readOptions_ts tsPadding (by exact handshake) stamped
  exact ⟨sndWndScale, tsRecent, rfl⟩

lemma min_min_self (a b : UInt32) : min (min a b) b = min a b := by
  rw [Std.min_eq_if, if_pos Std.min_le_right]

section Flags

variable {support offered sent received enabled : Bool}

lemma received_or_offered (known : received = true → offered = true) :
    (received || offered) = offered := by
  cases received with
  | true => exact (known rfl).symm
  | false => rfl

lemma supported_of_enabled (known : enabled = true → support = true ∧ offered = true)
    (set : (if offered then support && sent else enabled) = true) :
    support = true ∧ offered = true := by
  cases offered with
  | true => exact ⟨(Bool.and_eq_true_iff.mp set).1, rfl⟩
  | false => exact known set

lemma enabled_of_sent (known : support = true → sent = true) :
    (if offered then support && sent else false) = (support && offered) := by
  cases support with
  | true => cases offered <;> simp [known rfl]
  | false => cases offered <;> rfl

end Flags

lemma Ready.read (ready : Ready own p c) (carried : Carried p tcpseg.options)
    (handshake : inHandshake c.fsm = true) (positive : 0 < min own.mss p.mss)
    (ok : readHeaderOptions tcpseg c = .ok c') : Heard own p c' := by
  have least : min c.sndMss p.mss = min own.mss p.mss := by
    rcases ready.sndMss with own | met
    · rw [own]
    · rw [met, min_min_self]
  obtain ⟨sndWndScale, tsRecent, rfl⟩ :=
    readHeaderOptions_carried carried handshake (by rw [least]; exact positive) ok
  have offersTs : c.tsEnabled = true → p.ts = true := fun enabled =>
    ready.rcvInitialTs (ready.tsEnabled enabled).2
  exact {
    par := ready.par
    wsSupport := ready.wsSupport
    tsSupport := ready.tsSupport
    sackSupport := ready.sackSupport
    maxRcvBufferChanged := ready.maxRcvBufferChanged
    sndMss := least
    rcvWs := received_or_offered ready.rcvWs
    wsEnabled := by
      rw [ready.wsSupport]
      exact supported_of_enabled ready.wsEnabled
    rcvInitialTs := by
      cases enabled : c.tsEnabled with
      | true => simp [(ready.tsEnabled enabled).2, offersTs enabled]
      | false => simpa using received_or_offered ready.rcvInitialTs
    tsEnabled := by
      intro set
      rcases Bool.or_eq_true_iff.mp set with enabled | set
      · exact ⟨(ready.tsEnabled enabled).1, offersTs enabled⟩
      · obtain ⟨offered, set⟩ := Bool.and_eq_true_iff.mp set
        exact ⟨ready.tsSupport ▸ (Bool.and_eq_true_iff.mp set).1, offered⟩
    rcvSackPerm := received_or_offered ready.rcvSackPerm
    sackEnabled := by
      rw [ready.sackSupport]
      exact supported_of_enabled ready.sackEnabled }

lemma Offered.read (offered : Offered own c) (carried : Carried p tcpseg.options)
    (handshake : inHandshake c.fsm = true) (positive : 0 < min own.mss p.mss)
    (ok : readHeaderOptions tcpseg c = .ok c') : Agreed own p c' := by
  obtain ⟨sndWndScale, tsRecent, rfl⟩ :=
    readHeaderOptions_carried carried handshake (by rw [offered.sndMss]; exact positive) ok
  exact {
    par := offered.par
    wsSupport := offered.wsSupport
    tsSupport := offered.tsSupport
    sackSupport := offered.sackSupport
    maxRcvBufferChanged := offered.maxRcvBufferChanged
    sndMss := by rw [offered.sndMss]
    rcvWs := by simp [offered.rcvWs]
    sndWs := fun own _ => offered.sndWs own
    wsEnabled := by
      rw [offered.wsSupport, offered.wsEnabled]
      exact enabled_of_sent offered.sndWs
    rcvInitialTs := by simp [offered.rcvInitialTs, offered.tsEnabled]
    tsEnabled := by
      have enabled : (if p.ts then own.ts && c.sndInitialTs else false) = (own.ts && p.ts) :=
        enabled_of_sent offered.sndInitialTs
      rw [offered.tsSupport, offered.tsEnabled, Bool.false_or, ← enabled]
      cases p.ts <;> simp
    rcvSackPerm := by simp [offered.rcvSackPerm]
    sndSackPerm := fun own _ => offered.sndSackPerm own
    sackEnabled := by
      rw [offered.sackSupport, offered.sackEnabled]
      exact enabled_of_sent offered.sndSackPerm }

/-! ## Reading later -/

/-- Window scale options come only from a peer that offers window scaling. -/
def ScalesOnly (peer : SynOffer) (options : List TCPOption) : Prop :=
  ∀ option ∈ options, option.kind = .windowScale → peer.ws = true

lemma NoWindowScale.scalesOnly (none : NoWindowScale options) : ScalesOnly p options :=
  fun option mem kind => absurd kind (none option mem)

lemma Carried.scalesOnly {offer : SynOffer} (carried : Carried offer options)
    (only : offer.ws = true → p.ws = true) : ScalesOnly p options := by
  intro option mem kind
  by_contra none
  have off : offer.ws = false := Bool.eq_false_iff.mpr (mt only none)
  obtain ⟨scale, tsVal, tsEcr, sackPad, tsPad, sackPadding, tsPadding, rfl⟩ := carried
  have padded {padding : List TCPOption} (padding_ : IsPadding padding) :
      option ∉ padding := fun mem => by
    rcases padding_ with rfl | rfl
    · cases mem
    · simp only [mem_cons, not_mem_nil, or_false, or_self] at mem
      rw [mem] at kind
      cases kind
  rw [off] at mem
  rcases mem_append.mp mem with mem | mem
  · rcases mem_append.mp mem with mem | mem
    · obtain rfl : option = _ := by simpa using mem
      cases kind
    · split at mem
      · rcases mem_append.mp mem with mem | mem
        · exact padded sackPadding mem
        · obtain rfl := mem_singleton.mp mem
          cases kind
      · cases mem
  · split at mem
    · rcases mem_append.mp mem with mem | mem
      · exact padded tsPadding mem
      · obtain rfl := mem_singleton.mp mem
        cases kind
    · cases mem

lemma Agreed.readOption (agreed : Agreed own p c) (later : inHandshake c.fsm = false)
    {option : TCPOption} (only : option.kind = .windowScale → p.ws = true)
    (ok : readHeaderOption tcpseg option c = .ok c') : Agreed own p c' := by
  unfold readHeaderOption at ok
  split at ok
  · unfold processMSSOption at ok
    rw [if_pos (.inr (by simp [later]))] at ok
    cases ok
    exact agreed
  case h_2 kind =>
    have offered := only kind
    unfold processWSOption at ok
    split at ok
    · cases ok
      exact agreed
    · split at ok
      · cases ok
      · cases ok
        exact {
          par := agreed.par
          wsSupport := agreed.wsSupport
          tsSupport := agreed.tsSupport
          sackSupport := agreed.sackSupport
          maxRcvBufferChanged := agreed.maxRcvBufferChanged
          sndMss := agreed.sndMss
          rcvWs := offered.symm
          sndWs := agreed.sndWs
          wsEnabled := by
            rw [agreed.wsSupport, offered, Bool.and_true]
            cases own_ : own.ws with
            | true => rw [agreed.sndWs own_ offered, Bool.and_true]
            | false => rfl
          rcvInitialTs := agreed.rcvInitialTs
          tsEnabled := agreed.tsEnabled
          rcvSackPerm := agreed.rcvSackPerm
          sndSackPerm := agreed.sndSackPerm
          sackEnabled := agreed.sackEnabled }
  · cases ok
    unfold processSACKPermittedOption
    rw [if_pos (.inr (by simp [later]))]
    exact agreed
  · unfold processSACKOption at ok
    dsimp only at ok
    split at ok
    · cases ok
      exact agreed
    · rcases bind_eq_ok ok with ⟨queue, -, ok⟩
      cases ok
      exact agreed.congr ⟨rfl, rfl, rfl, rfl, rfl, rfl, rfl⟩
  · unfold processTSOption at ok
    split at ok
    · cases ok
      exact agreed
    case isFalse expected =>
      obtain ⟨-, expected⟩ := not_or.mp expected
      have enabled : c.tsEnabled = true := by
        by_contra off
        unfold timestampUnexpected at expected
        rw [if_neg off, later] at expected
        exact expected rfl
      split at ok
      · dsimp only at ok
        rw [if_pos enabled] at ok
        split at ok
        · cases ok
          exact agreed.congr ⟨rfl, rfl, rfl, rfl, rfl, rfl, rfl⟩
        · cases ok
          exact agreed
      · cases ok
  all_goals
    cases ok
    exact agreed

lemma Agreed.read (agreed : Agreed own p c) (later : inHandshake c.fsm = false)
    (only : ScalesOnly p tcpseg.options) (ok : readHeaderOptions tcpseg c = .ok c') :
    Agreed own p c' := by
  unfold readHeaderOptions at ok
  generalize tcpseg.options = options at ok only
  induction options generalizing c with
  | nil =>
    cases ok
    exact agreed
  | cons option rest ih =>
    rcases bind_eq_ok ok with ⟨d, first, ok⟩
    have fsm : d.fsm = c.fsm := by rw [(readHeaderOption_kept first).closeVars]
    exact ih (agreed.readOption later (only option mem_cons_self) first) (fsm ▸ later) ok
      fun other mem => only other (mem_cons_of_mem option mem)

end TCPConnection

end Inet.Tcp
