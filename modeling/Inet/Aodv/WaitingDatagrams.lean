import Inet.Aodv.Discoveries

/-!
# No datagram waits for ever

`Served` is what a step owes to the datagrams that wait: each has a discovery whose timer runs, a
failed discovery drops its datagrams, and one that succeeds reinjects each once.
-/

namespace Inet.Aodv

open Ipv4 AODVRouting Inet.Except List OrderedMap

variable {st st' st'' : AODVRouting} {now : ℤ} {addr target : IPv4Address} {datagram : IPv4Datagram}
  {event : Event}

/-- A request for the target is due, and it is sent unless the rate limit has been reached. -/
def Asked (st : AODVRouting) (target : IPv4Address) (retries : ℕ) (st' : AODVRouting) : Prop :=
  (st.par.rreqRatelimit ≤ st.rreqCount ∧
    SameQueue { st with addressToRreqRetries := st.addressToRreqRetries.put target retries } st') ∨
  (st.rreqCount < st.par.rreqRatelimit ∧ ∃ timer : WaitForRREP,
    timer.destAddr = target ∧ timer.arrivalTime.isSome ∧
    SameQueue { st with
      addressToRreqRetries := st.addressToRreqRetries.put target retries
      waitForRREPTimers := st.waitForRREPTimers.put target timer } st')

lemma nextRing_destAddr {ttl ttl' : ℕ} {timer : WaitForRREP}
    (ok : st.nextRing addr ttl = .ok (ttl', timer)) : timer.destAddr = addr := by
  rw [nextRing] at ok
  split at ok
  · dsimp only at ok
    split_ifs at ok
    · cases ok
      rfl
    · obtain ⟨_, -, ok⟩ := bind_eq_ok ok
      cases ok
      rfl
    · obtain ⟨_, -, ok⟩ := bind_eq_ok ok
      cases ok
      rfl
  · cases ok
    rfl

lemma asked_of_sendRREQ {retries ttl : ℕ}
    (ok : sendRREQ { (st.createRREQ now target).2 with
        addressToRreqRetries := st.addressToRreqRetries.put target retries } now
      (st.createRREQ now target).1 addr ttl = .ok st') : Asked st target retries st' := by
  rw [sendRREQ] at ok
  split_ifs at ok with limit
  · cases ok
    exact Or.inl ⟨limit, rfl, rfl, rfl, rfl, rfl, rfl, rfl, rfl⟩
  · obtain ⟨⟨ttl', timer⟩, ring, ok⟩ := bind_eq_ok ok
    obtain ⟨t, -, ok⟩ := bind_eq_ok ok
    obtain ⟨st₁, sent, ok⟩ := bind_eq_ok ok
    cases ok
    have destAddr : timer.destAddr = target := nextRing_destAddr ring
    refine Or.inr ⟨not_le.mp limit, { timer with arrivalTime := some t }, destAddr, rfl, ?_⟩
    have same := SameQueue.sendAODVPacket sent
    exact ⟨same.par, same.retries, same.timers, same.delayed, same.queued, same.reinjected,
      same.dropped, same.self⟩

lemma asked_of_startRouteDiscovery {ttl : ℕ}
    (ok : st.startRouteDiscovery now target ttl = .ok st') : Asked st target 0 st' := by
  obtain ⟨_, -, ok⟩ := bind_eq_ok ok
  exact asked_of_sendRREQ ok

lemma asked_of_startRouteDiscoveryFor (ok : st.startRouteDiscoveryFor now target = .ok st') :
    Asked st target 0 st' := by
  rw [startRouteDiscoveryFor] at ok
  split at ok
  · split_ifs at ok
    · exact asked_of_startRouteDiscovery ok
    · exact asked_of_startRouteDiscovery ok
  · exact asked_of_startRouteDiscovery ok

/-- The datagram is not one for the node itself or for many, there is no active route for it, and
it comes from the node. -/
def HasToWait (st : AODVRouting) (datagram : IPv4Datagram) : Prop :=
  ¬ (isLimitedBroadcastAddress datagram.destAddress ∨ st.isLocalAddress datagram.destAddress ∨
    isMulticast datagram.destAddress) ∧
  st.activeRoute datagram.destAddress = none ∧
  (datagram.srcAddress.isUnspecified ∨ st.isLocalAddress datagram.srcAddress)

/-- The state when the datagram has been queued, except for its discovery. -/
def queueDatagram (st : AODVRouting) (datagram : IPv4Datagram) (hookType : HookType) :
    AODVRouting :=
  { st.delayDatagram datagram with
    queuedDatagramsForHooks := st.queuedDatagramsForHooks ++ [⟨datagram, hookType⟩] }

lemma datagramHook_cases {hookType : HookType}
    (ok : st.datagramHook now datagram hookType = .ok st') :
    (¬ HasToWait st datagram ∧ SameQueue st st') ∨
    (HasToWait st datagram ∧ st.hasOngoingRouteDiscovery datagram.destAddress = true ∧
      SameQueue (queueDatagram st datagram hookType) st') ∨
    (HasToWait st datagram ∧ st.hasOngoingRouteDiscovery datagram.destAddress = false ∧
      Asked (queueDatagram st datagram hookType) datagram.destAddress 0 st') := by
  obtain ⟨⟨result, st₁⟩, ensured, ok⟩ := bind_eq_ok ok
  rw [ensureRouteForDatagram] at ensured
  dsimp only at ensured
  by_cases direct : isLimitedBroadcastAddress datagram.destAddress ∨
    st.isLocalAddress datagram.destAddress ∨ isMulticast datagram.destAddress
  · rw [if_pos direct] at ensured
    cases ensured
    cases ok
    exact Or.inl ⟨fun waits => waits.1 direct, SameQueue.refl _⟩
  · rw [if_neg direct] at ensured
    split at ensured
    · next route active =>
      cases ensured
      cases ok
      refine Or.inl ⟨fun waits => ?_, (SameQueue.updateValidRouteLifeTime ..).trans
        (SameQueue.updateValidRouteLifeTime ..)⟩
      rw [waits.2.1] at active
      cases active
    · next inactive =>
      split_ifs at ensured with own ongoing
      · cases ensured
        cases ok
        exact Or.inr (Or.inl ⟨⟨direct, inactive, own⟩, ongoing, SameQueue.refl _⟩)
      · obtain ⟨st₂, started, ensured⟩ := bind_eq_ok ensured
        cases ensured
        cases ok
        refine Or.inr (Or.inr ⟨⟨direct, inactive, own⟩, Bool.eq_false_iff.mpr ongoing, ?_⟩)
        rcases asked_of_startRouteDiscoveryFor started with
          ⟨limit, same⟩ | ⟨limit, timer, destAddr, runs, same⟩
        · refine Or.inl ⟨limit, same.par, same.retries, same.timers, same.delayed, ?_,
            same.reinjected, same.dropped, same.self⟩
          exact congrArg (· ++ [_]) same.queued
        · refine Or.inr ⟨limit, timer, destAddr, runs, same.par, same.retries, same.timers,
            same.delayed, ?_, same.reinjected, same.dropped, same.self⟩
          exact congrArg (· ++ [_]) same.queued
      · cases ensured
        cases ok
        exact Or.inl ⟨fun waits => own waits.2.2, SameQueue.refl _⟩

/-- The datagrams in the queue of the IPv4 module. -/
def queuedDatagrams (st : AODVRouting) : List IPv4Datagram :=
  st.queuedDatagramsForHooks.map QueuedDatagramForHook.datagram

lemma reinjectQueuedDatagram_ok (mem : datagram ∈ queuedDatagrams st)
    (ok : st.reinjectQueuedDatagram now datagram = .ok st') : ∃ hooks reinjected,
      SameQueue { st with queuedDatagramsForHooks := hooks, reinjected := reinjected } st' ∧
      reinjected = st.reinjected ++ [datagram] ∧
      (datagram :: hooks.map QueuedDatagramForHook.datagram).Perm (queuedDatagrams st) := by
  rw [reinjectQueuedDatagram] at ok
  split at ok
  · next absent =>
    obtain ⟨queued, queuedMem, eq⟩ := mem_map.mp mem
    exact absurd (decide_eq_true eq) (find?_eq_none.mp absent queued queuedMem)
  · next queued found =>
    have same := find?_some found
    obtain rfl := of_decide_eq_true same
    have perm := (perm_cons_erase (mem_of_find?_eq_some found)).map QueuedDatagramForHook.datagram
    refine ⟨_, _, ?_, rfl, perm.symm⟩
    dsimp only at ok
    split at ok
    · cases ok
      exact SameQueue.refl _
    · exact SameQueue.datagramForwardHook ok

lemma reinjectLoop_ok : ∀ {datagrams : List IPv4Datagram} {st : AODVRouting},
    (∃ rest, (datagrams ++ rest).Perm (queuedDatagrams st)) →
    reinjectLoop now datagrams st = .ok st' → ∃ hooks reinjected,
      SameQueue { st with queuedDatagramsForHooks := hooks, reinjected := reinjected } st' ∧
      reinjected = st.reinjected ++ datagrams ∧
      (datagrams ++ hooks.map QueuedDatagramForHook.datagram).Perm (queuedDatagrams st) := by
  intro datagrams
  induction datagrams with
  | nil =>
    intro st _ ok
    cases ok
    exact ⟨_, _, SameQueue.refl _, (append_nil _).symm, List.Perm.refl _⟩
  | cons datagram datagrams ih =>
    intro st split ok
    obtain ⟨rest, perm⟩ := split
    obtain ⟨st₁, first, ok⟩ := bind_eq_ok ok
    have mem : datagram ∈ queuedDatagrams st := perm.subset mem_cons_self
    obtain ⟨hooks₁, reinjected₁, same₁, eq₁, perm₁⟩ := reinjectQueuedDatagram_ok mem first
    have queued₁ : queuedDatagrams st₁ = hooks₁.map QueuedDatagramForHook.datagram :=
      congrArg (List.map _) same₁.queued
    have tail : (datagrams ++ rest).Perm (queuedDatagrams st₁) := by
      rw [queued₁]
      exact (perm_cons datagram).mp (perm.trans perm₁.symm)
    obtain ⟨hooks, reinjected, same, eq, perm'⟩ := ih ⟨rest, tail⟩ ok
    refine ⟨hooks, reinjected, ⟨?_, ?_, ?_, ?_, same.queued, same.reinjected, ?_, ?_⟩, ?_, ?_⟩
    · exact same.par.trans same₁.par
    · exact same.retries.trans same₁.retries
    · exact same.timers.trans same₁.timers
    · exact same.delayed.trans same₁.delayed
    · exact same.dropped.trans same₁.dropped
    · exact same.self.trans same₁.self
    · rw [eq, same₁.reinjected, eq₁, append_assoc]
      rfl
    · rw [queued₁] at perm'
      exact (perm'.cons datagram).trans perm₁

/-! ## The invariant -/

/-- The datagrams that wait, their discoveries and the queue of the IPv4 module agree. -/
structure Waiting (st : AODVRouting) : Prop where
  /-- The timer of a discovery runs, and datagrams wait for its end. -/
  discovery : ∀ {target timer}, (target, timer) ∈ st.waitForRREPTimers →
    timer.destAddr = target ∧ timer.arrivalTime.isSome ∧
      (st.addressToRreqRetries.get? target).isSome ∧
      ∃ datagram, (target, datagram) ∈ st.targetAddressToDelayedPackets
  timer : ∀ {target datagram}, (target, datagram) ∈ st.targetAddressToDelayedPackets →
    ∃ timer, (target, timer) ∈ st.waitForRREPTimers
  queued : (st.targetAddressToDelayedPackets.map Prod.snd).Perm (queuedDatagrams st)
  nodup : (st.targetAddressToDelayedPackets.map Prod.snd).Nodup

namespace Waiting

variable (waiting : Waiting st)

include waiting

lemma congr (same : SameQueue st st') : Waiting st' where
  discovery mem := by
    rw [same.timers] at mem
    rw [same.retries, same.delayed]
    exact waiting.discovery mem
  timer mem := by
    rw [same.delayed] at mem
    rw [same.timers]
    exact waiting.timer mem
  queued := by
    rw [queuedDatagrams, same.queued, same.delayed]
    exact waiting.queued
  nodup := by
    rw [same.delayed]
    exact waiting.nodup

omit waiting in
lemma mem_delayedPackets : datagram ∈ st.delayedPackets target ↔
    (target, datagram) ∈ st.targetAddressToDelayedPackets := by
  rw [delayedPackets, mem_map]
  constructor
  · rintro ⟨⟨target', datagram'⟩, mem, rfl⟩
    obtain ⟨inside, eq⟩ := mem_filter.mp mem
    obtain rfl : target' = target := of_decide_eq_true eq
    exact inside
  · exact fun mem => ⟨_, mem_filter.mpr ⟨mem, decide_eq_true rfl⟩, rfl⟩

omit waiting in
lemma hasOngoing_iff :
    st.hasOngoingRouteDiscovery target = true ↔ ∃ timer, (target, timer) ∈ st.waitForRREPTimers :=
  get?_isSome

/-- A timer runs for each datagram that waits. -/
lemma runs (waits : st.delayedPackets target ≠ []) : ∃ timer,
    st.waitForRREPTimers.get? target = some timer ∧ timer.arrivalTime.isSome := by
  obtain ⟨datagram, mem⟩ := exists_mem_of_ne_nil _ waits
  obtain ⟨timer, found⟩ := waiting.timer (mem_delayedPackets.mp mem)
  exact ⟨timer, get?_eq_some.mpr found, (waiting.discovery found).2.1⟩

lemma nodup_delayedPackets (target : IPv4Address) : (st.delayedPackets target).Nodup :=
  waiting.nodup.sublist (filter_sublist.map _)

lemma join (hookType : HookType) (fresh : ∀ queued ∈ st.queuedDatagramsForHooks,
      queued.datagram ≠ datagram) (timers : OrderedMap IPv4Address WaitForRREP)
    (retries : OrderedMap IPv4Address ℕ)
    (discovery : ∀ {target timer}, (target, timer) ∈ timers →
      (target, timer) ∈ st.waitForRREPTimers ∨ (target = datagram.destAddress ∧
        timer.destAddr = target ∧ timer.arrivalTime.isSome))
    (kept : ∀ {target timer}, (target, timer) ∈ st.waitForRREPTimers →
      ∃ timer', (target, timer') ∈ timers)
    (known : ∀ {target timer}, (target, timer) ∈ timers → (retries.get? target).isSome)
    (here : ∃ timer, (datagram.destAddress, timer) ∈ timers) :
    Waiting { queueDatagram st datagram hookType with
      waitForRREPTimers := timers, addressToRreqRetries := retries } where
  discovery mem := by
    rcases discovery mem with old | ⟨rfl, destAddr, runs⟩
    · obtain ⟨destAddr, runs, -, datagram', waits⟩ := waiting.discovery old
      exact ⟨destAddr, runs, known mem, datagram', mem_append_left _ waits⟩
    · exact ⟨destAddr, runs, known mem, datagram, mem_append_right _ (mem_singleton_self _)⟩
  timer mem := by
    rcases mem_append.mp mem with old | new
    · obtain ⟨timer, found⟩ := waiting.timer old
      exact kept found
    · obtain ⟨rfl, rfl⟩ := Prod.mk.inj (mem_singleton.mp new)
      exact here
  queued := by
    change ((st.targetAddressToDelayedPackets ++ [_]).map _).Perm
      ((st.queuedDatagramsForHooks ++ [_]).map _)
    rw [map_append, map_append]
    exact waiting.queued.append_right _
  nodup := by
    change ((st.targetAddressToDelayedPackets ++ [_]).map _).Nodup
    rw [map_append]
    refine List.Nodup.append waiting.nodup (nodup_singleton _) fun datagram' mem mem' => ?_
    obtain rfl := mem_singleton.mp mem'
    obtain ⟨queued, queuedMem, eq⟩ := mem_map.mp (waiting.queued.subset mem)
    exact fresh queued queuedMem eq

lemma completeRouteDiscovery (ok : st.completeRouteDiscovery now target = .ok st') :
    Waiting st' ∧ st'.reinjected = st.reinjected ++ st.delayedPackets target ∧
      st'.delayedPackets target = [] := by
  obtain ⟨_, -, ok⟩ := bind_eq_ok ok
  obtain ⟨st₁, looped, ok⟩ := bind_eq_ok ok
  cases ok
  let others := (st.targetAddressToDelayedPackets.filter fun entry => ¬ entry.1 = target).map
    Prod.snd
  have split : (st.delayedPackets target ++ others).Perm
      (st.targetAddressToDelayedPackets.map Prod.snd) := by
    rw [delayedPackets, ← map_append]
    have parts := filter_append_perm (fun entry : IPv4Address × IPv4Datagram =>
      decide (entry.1 = target)) st.targetAddressToDelayedPackets
    simp only [decide_not] at parts ⊢
    exact parts.map _
  have perm : (st.delayedPackets target ++ others).Perm (queuedDatagrams st) :=
    split.trans waiting.queued
  obtain ⟨hooks, reinjected, same, eq, perm'⟩ := reinjectLoop_ok ⟨_, perm⟩ looped
  have delayed : (st₁.eraseDelayedPackets target).targetAddressToDelayedPackets =
      st.targetAddressToDelayedPackets.filter fun entry => entry.1 ≠ target :=
    congrArg (List.filter _) same.delayed
  have left : ∀ {target' datagram'}, (target', datagram') ∈
      (st₁.eraseDelayedPackets target).targetAddressToDelayedPackets ↔
      (target', datagram') ∈ st.targetAddressToDelayedPackets ∧ target' ≠ target := by
    intro target' datagram'
    rw [delayed, mem_filter, decide_eq_true_iff]
  refine ⟨⟨fun mem => ?_, fun mem => ?_, ?_, ?_⟩, same.reinjected.trans eq, ?_⟩
  · obtain ⟨mem, ne⟩ := mem_erase.mp mem
    change _ ∈ st₁.waitForRREPTimers at mem
    rw [same.timers] at mem
    obtain ⟨destAddr, runs, known, datagram', waits⟩ := waiting.discovery mem
    refine ⟨destAddr, runs, ?_, datagram', left.mpr ⟨waits, ne⟩⟩
    change (st₁.addressToRreqRetries.get? _).isSome
    rw [same.retries]
    exact known
  · obtain ⟨waits, ne⟩ := left.mp mem
    obtain ⟨timer, found⟩ := waiting.timer waits
    refine ⟨timer, mem_erase.mpr ⟨?_, ne⟩⟩
    change _ ∈ st₁.waitForRREPTimers
    rw [same.timers]
    exact found
  · change ((st₁.eraseDelayedPackets target).targetAddressToDelayedPackets.map _).Perm
      (st₁.queuedDatagramsForHooks.map _)
    rw [delayed, same.queued]
    exact (perm_append_left_iff _).mp (perm.trans perm'.symm)
  · rw [delayed]
    exact waiting.nodup.sublist (filter_sublist.map _)
  · refine eq_nil_iff_forall_not_mem.mpr fun datagram' mem => ?_
    exact (left.mp (mem_delayedPackets.mp mem)).2 rfl

end Waiting

/-- The RREP ends the discovery of a route to the target. -/
def Completes (st : AODVRouting) (target : IPv4Address) (event : Event) : Prop :=
  ∃ packet rrep, event = .packet packet ∧ packet.ctrlPacket = .RREP rrep ∧
    ¬ rrep.originatorAddr.isUnspecified ∧ rrep.originatorAddr = st.selfIPAddress ∧
    rrep.destAddr = target ∧ st.hasOngoingRouteDiscovery target = true

/-- What a step owes to the datagrams that wait. -/
structure Served (st : AODVRouting) (event : Event) (st' : AODVRouting) : Prop where
  /-- Each of them has a discovery whose timer is scheduled. -/
  waits : ∀ target, st'.delayedPackets target ≠ [] → ∃ timer,
    st'.waitForRREPTimers.get? target = some timer ∧ timer.arrivalTime.isSome
  /-- When the retries are exhausted, the datagrams are dropped and the discovery is removed. -/
  exhausted : ∀ target, event = .waitForRREP target →
    st.addressToRreqRetries.get? target = some st.par.rreqRetries →
    st'.dropped = st.dropped ++ st.delayedPackets target ∧ st'.delayedPackets target = [] ∧
      st'.hasOngoingRouteDiscovery target = false
  /-- When the discovery succeeds, each of its datagrams is reinjected once. -/
  completed : ∀ target, Completes st target event →
    st'.reinjected = st.reinjected ++ st.delayedPackets target ∧
      (st.delayedPackets target).Nodup ∧ st'.delayedPackets target = []
  /-- Nothing else reinjects a datagram. -/
  otherwise : (∀ target, ¬ Completes st target event) → st'.reinjected = st.reinjected

/-- The step needs no request beyond the rate limit, and ends no discovery whose retries are
exhausted. -/
def Unhindered (st : AODVRouting) : Event → Prop
  | .datagram datagram _ => HasToWait st datagram →
      st.hasOngoingRouteDiscovery datagram.destAddress = false →
      st.rreqCount < st.par.rreqRatelimit
  | .waitForRREP target => st.rreqCount < st.par.rreqRatelimit ∧
      st.addressToRreqRetries.get? target ≠ some st.par.rreqRetries
  | _ => True

lemma Served.of_sameQueue (waiting : Waiting st) (same : SameQueue st st')
    (noTimer : ∀ target, event ≠ .waitForRREP target)
    (open_ : ∀ target, ¬ Completes st target event) : Waiting st' ∧ Served st event st' :=
  ⟨waiting.congr same, fun _ waits => (waiting.congr same).runs waits,
    fun target eq => absurd eq (noTimer target), fun target done => absurd done (open_ target),
    fun _ => same.reinjected⟩

lemma not_completes_of_ne (ne : ∀ packet, event ≠ .packet packet) (target : IPv4Address) :
    ¬ Completes st target event := by
  rintro ⟨packet, -, eq, -⟩
  exact ne packet eq

lemma delayedPackets_queueDatagram (st : AODVRouting) (datagram : IPv4Datagram)
    (hookType : HookType) :
    datagram ∈ (queueDatagram st datagram hookType).delayedPackets datagram.destAddress :=
  Waiting.mem_delayedPackets.mpr (mem_append_right _ (mem_singleton_self _))

lemma served_datagram {hookType : HookType} (waiting : Waiting st)
    (can : st.Can now (.datagram datagram hookType))
    (ok : st.datagramHook now datagram hookType = .ok st') :
    (Unhindered st (.datagram datagram hookType) →
      Waiting st' ∧ Served st (.datagram datagram hookType) st') ∧
    (Served st (.datagram datagram hookType) st' →
      Unhindered st (.datagram datagram hookType)) := by
  have served : Waiting st' → st'.reinjected = st.reinjected →
      Waiting st' ∧ Served st (.datagram datagram hookType) st' := fun waiting' reinjected =>
    ⟨waiting', fun _ waits => waiting'.runs waits, fun _ eq => Event.noConfusion eq,
      fun target done => absurd done (not_completes_of_ne (fun _ eq => Event.noConfusion eq) target),
      fun _ => reinjected⟩
  rcases datagramHook_cases ok with ⟨goesOn, same⟩ | ⟨waits, ongoing, same⟩ | ⟨waits, fresh, asked⟩
  · exact ⟨fun _ => served (waiting.congr same) same.reinjected, fun _ waits => absurd waits goesOn⟩
  · refine ⟨fun _ => served ?_ same.reinjected, fun _ _ fresh => ?_⟩
    · have joined := waiting.join hookType can st.waitForRREPTimers
        st.addressToRreqRetries Or.inl (fun mem => ⟨_, mem⟩)
        (fun mem => (waiting.discovery mem).2.2.1) (Waiting.hasOngoing_iff.mp ongoing)
      exact joined.congr same
    · rw [ongoing] at fresh
      cases fresh
  · rcases asked with ⟨limit, same⟩ | ⟨limit, timer, destAddr, runs, same⟩
    · -- the datagram waits without a discovery
      have stranded : st'.waitForRREPTimers.get? datagram.destAddress = none := by
        rw [same.timers]
        exact Option.not_isSome_iff_eq_none.mp (Bool.eq_false_iff.mp fresh)
      have waits' : st'.delayedPackets datagram.destAddress ≠ [] := by
        refine ne_nil_of_mem (a := datagram) ?_
        rw [Waiting.mem_delayedPackets, same.delayed]
        exact Waiting.mem_delayedPackets.mp (delayedPackets_queueDatagram st datagram hookType)
      refine ⟨fun unhindered => absurd limit (not_le.mpr (unhindered waits fresh)), fun done => ?_⟩
      obtain ⟨timer, found, -⟩ := done.waits _ waits'
      rw [stranded] at found
      cases found
    · refine ⟨fun _ => served ?_ same.reinjected, fun _ _ _ => limit⟩
      have joined := waiting.join hookType can
        (st.waitForRREPTimers.put datagram.destAddress timer)
        (st.addressToRreqRetries.put datagram.destAddress 0)
        (fun mem => ?_) (fun {target timer'} mem => ?_) (fun {target timer'} mem => ?_)
        ⟨timer, mem_put.mpr (Or.inl rfl)⟩
      · exact joined.congr same
      · rcases mem_put.mp mem with eq | ⟨old, -⟩
        · obtain ⟨rfl, rfl⟩ := Prod.mk.inj eq
          exact Or.inr ⟨rfl, destAddr, runs⟩
        · exact Or.inl old
      · by_cases eq : target = datagram.destAddress
        · exact ⟨timer, mem_put.mpr (Or.inl (by rw [eq]))⟩
        · exact ⟨timer', mem_put.mpr (Or.inr ⟨mem, eq⟩)⟩
      · refine get?_isSome.mpr ?_
        rcases mem_put.mp mem with eq | ⟨old, ne⟩
        · exact ⟨0, mem_put.mpr (Or.inl (by rw [(Prod.mk.inj eq).1]))⟩
        · obtain ⟨retries, known⟩ := get?_isSome.mp (waiting.discovery old).2.2.1
          exact ⟨retries, mem_put.mpr (Or.inr ⟨known, ne⟩)⟩

lemma fire_eq_some {timer : WaitForRREP} (fired : st.fire now target = some (timer, st')) :
    ∃ before, (target, before) ∈ st.waitForRREPTimers ∧ timer.destAddr = before.destAddr ∧
      timer.arrivalTime = none ∧
      st' = { st with waitForRREPTimers := st.waitForRREPTimers.put target timer } := by
  rw [fire] at fired
  split at fired
  · next before found =>
    split_ifs at fired
    obtain ⟨rfl, rfl⟩ := Prod.mk.inj (Option.some.inj fired)
    exact ⟨before, get?_eq_some.mp found, rfl, rfl, rfl⟩
  · cases fired

lemma handleWaitForRREP_cases {timer : WaitForRREP} (ok : st.handleWaitForRREP now timer = .ok st') :
    (st.addressToRreqRetries.get? timer.destAddr = some st.par.rreqRetries ∧ st' = st) ∨
    (st.addressToRreqRetries.get? timer.destAddr ≠ some st.par.rreqRetries ∧
      ∃ retries, Asked st timer.destAddr retries st') := by
  rw [handleWaitForRREP] at ok
  split at ok
  · cases ok
  · next retries known =>
    by_cases last : retries = st.par.rreqRetries
    · rw [if_pos last] at ok
      cases ok
      exact Or.inl ⟨known.trans (congrArg some last), rfl⟩
    · rw [if_neg last] at ok
      refine Or.inr ⟨fun eq => last ?_, _, asked_of_sendRREQ ok⟩
      rw [known] at eq
      exact Option.some.inj eq

lemma served_waitForRREP (waiting : Waiting st)
    (ok : st.handle now (.waitForRREP target) = .ok st') :
    (Unhindered st (.waitForRREP target) → Waiting st' ∧ Served st (.waitForRREP target) st') ∧
    (Served st (.waitForRREP target) st' → Unhindered st (.waitForRREP target)) := by
  rw [handle] at ok
  split at ok
  · next timer st₁ fired =>
    obtain ⟨before, found, destAddr, stopped, rfl⟩ := fire_eq_some fired
    obtain ⟨here, -, known, datagram, waits⟩ := waiting.discovery found
    rw [here] at destAddr
    rcases handleWaitForRREP_cases ok with ⟨last, rfl⟩ | ⟨notLast, retries, asked⟩
    · rw [destAddr] at last
      refine ⟨fun unhindered => absurd last unhindered.2, fun done => ?_⟩
      -- the discovery stays, with its timer stopped
      have removed := (done.exhausted target rfl last).2.2
      have there : hasOngoingRouteDiscovery { st with
          waitForRREPTimers := st.waitForRREPTimers.put target timer } target = true :=
        Waiting.hasOngoing_iff.mpr ⟨timer, mem_put.mpr (Or.inl rfl)⟩
      rw [there] at removed
      cases removed
    · rw [destAddr] at asked notLast
      rcases asked with ⟨limit, same⟩ | ⟨limit, timer', destAddr', runs, same⟩
      · refine ⟨fun unhindered => absurd limit (not_le.mpr unhindered.1), fun done => ?_⟩
        have waits' : st'.delayedPackets target ≠ [] := by
          refine ne_nil_of_mem (a := datagram) ?_
          rw [Waiting.mem_delayedPackets, same.delayed]
          exact waits
        obtain ⟨timer', found', runs⟩ := done.waits _ waits'
        have mem := get?_eq_some.mp found'
        rw [same.timers] at mem
        obtain rfl := eq_of_mem mem (mem_put.mpr (Or.inl rfl))
        rw [stopped] at runs
        cases runs
      · have waiting' : Waiting st' := by
          refine ⟨fun {target' timer''} mem => ?_, fun {target' datagram'} mem => ?_, ?_, ?_⟩
          · rw [same.timers] at mem
            rw [same.delayed, same.retries]
            rcases mem_put.mp mem with eq | ⟨old, ne⟩
            · obtain ⟨rfl, rfl⟩ := Prod.mk.inj eq
              exact ⟨destAddr', runs, get?_isSome.mpr
                ⟨retries, mem_put.mpr (Or.inl rfl)⟩, datagram, waits⟩
            · rcases mem_put.mp old with eq | ⟨old, -⟩
              · exact absurd (Prod.mk.inj eq).1 ne
              · obtain ⟨eq, runs', known', others⟩ := waiting.discovery old
                obtain ⟨count, mem'⟩ := get?_isSome.mp known'
                exact ⟨eq, runs', get?_isSome.mpr ⟨count, mem_put.mpr (Or.inr ⟨mem', ne⟩)⟩, others⟩
          · rw [same.delayed] at mem
            rw [same.timers]
            by_cases eq : target' = target
            · exact ⟨timer', mem_put.mpr (Or.inl (by rw [eq]))⟩
            · obtain ⟨other, mem'⟩ := waiting.timer mem
              exact ⟨other, mem_put.mpr (Or.inr ⟨mem_put.mpr (Or.inr ⟨mem', eq⟩), eq⟩)⟩
          · rw [queuedDatagrams, same.queued, same.delayed]
            exact waiting.queued
          · rw [same.delayed]
            exact waiting.nodup
        refine ⟨fun _ => ⟨waiting', fun _ => waiting'.runs, fun other eq last => ?_,
          fun other done => ?_, fun _ => same.reinjected⟩, fun _ => ⟨limit, notLast⟩⟩
        · obtain rfl := Event.waitForRREP.inj eq
          exact absurd last notLast
        · exact absurd done (not_completes_of_ne (fun _ eq => Event.noConfusion eq) other)
  · cases ok

/-! ### Packets -/

lemma served_packet {packet : UDPPacket} (waiting : Waiting st)
    (ok : st.handlePacket now packet = .ok st') : Waiting st' ∧ Served st (.packet packet) st' := by
  have noTimer : ∀ target, Event.packet packet ≠ .waitForRREP target :=
    fun _ eq => Event.noConfusion eq
  rw [handlePacket] at ok
  split at ok
  · next rreq isRREQ =>
    refine Served.of_sameQueue waiting (SameQueue.handleRREQ ok) noTimer ?_
    rintro target ⟨packet', rrep, eq, isRREP, -⟩
    obtain rfl := Event.packet.inj eq
    rw [isRREQ] at isRREP
    cases isRREP
  · next rrep isRREP =>
    have only : ∀ {target}, Completes st target (.packet packet) →
        ¬ rrep.originatorAddr.isUnspecified ∧ rrep.originatorAddr = st.selfIPAddress ∧
          rrep.destAddr = target ∧ st.hasOngoingRouteDiscovery target = true := by
      rintro target ⟨packet', rrep', eq, isRREP', rest⟩
      obtain rfl := Event.packet.inj eq
      rw [isRREP] at isRREP'
      obtain rfl := AODVControlPacket.RREP.inj isRREP'
      exact rest
    rw [handleRREP] at ok
    split_ifs at ok with hello
    · exact Served.of_sameQueue waiting (SameQueue.handleHelloMessage ok) noTimer
        fun target done => (only done).1 hello
    · obtain ⟨st₁, hop, ok⟩ := bind_eq_ok ok
      obtain ⟨st₂, forward, ok⟩ := bind_eq_ok ok
      have same := (SameQueue.updatePreviousHop hop).trans (SameQueue.updateForwardRoute forward)
      have ongoing_eq : ∀ target,
          st₂.hasOngoingRouteDiscovery target = st.hasOngoingRouteDiscovery target := fun target =>
        congrArg (fun timers => (OrderedMap.get? timers target).isSome) same.timers
      split_ifs at ok with other ongoing
      · refine Served.of_sameQueue waiting (same.trans (SameQueue.passOnRREP ok)) noTimer
          fun target done => other ?_
        exact same.self.trans (only done).2.1.symm
      · obtain ⟨st₃, updated, ok⟩ := bind_eq_ok ok
        have same₃ := same.trans (SameQueue.updateRoutingTable updated)
        obtain ⟨waiting', reinjected, gone⟩ := (waiting.congr same₃).completeRouteDiscovery ok
        have delayed : ∀ target, st₃.delayedPackets target = st.delayedPackets target :=
          fun target => congrArg (fun packets => (List.filter _ packets).map _) same₃.delayed
        refine ⟨waiting', fun _ => waiting'.runs, fun target eq => absurd eq (noTimer target),
          fun target done => ?_, fun none_ => ?_⟩
        · obtain rfl := (only done).2.2.1
          rw [delayed, same₃.reinjected] at reinjected
          exact ⟨reinjected, waiting.nodup_delayedPackets _, gone⟩
        · refine absurd ⟨packet, rrep, rfl, isRREP, hello, ?_, rfl, ?_⟩ (none_ rrep.destAddr)
          · exact (not_not.mp other).symm.trans same.self
          · exact (ongoing_eq _).symm.trans ongoing
      · cases ok
        refine Served.of_sameQueue waiting same noTimer fun target done => ongoing ?_
        obtain ⟨-, -, rfl, going⟩ := only done
        exact (ongoing_eq _).trans going
  · next rerr isRERR =>
    refine Served.of_sameQueue waiting (SameQueue.handleRERR ok) noTimer ?_
    rintro target ⟨packet', rrep, eq, isRREP, -⟩
    obtain rfl := Event.packet.inj eq
    rw [isRERR] at isRREP
    cases isRREP
  · next isRREPACK =>
    refine Served.of_sameQueue waiting (SameQueue.handleRREPACK ok) noTimer ?_
    rintro target ⟨packet', rrep, eq, isRREP, -⟩
    obtain rfl := Event.packet.inj eq
    rw [isRREPACK] at isRREP
    cases isRREP

lemma served_quiet (waiting : Waiting st) (same : SameQueue st st')
    (noPacket : ∀ packet, event ≠ .packet packet) (noTimer : ∀ target, event ≠ .waitForRREP target)
    (free : Unhindered st event) :
    (Unhindered st event → Waiting st' ∧ Served st event st') ∧
    (Served st event st' → Unhindered st event) :=
  ⟨fun _ => Served.of_sameQueue waiting same noTimer (not_completes_of_ne noPacket), fun _ => free⟩

lemma served_step (waiting : Waiting st) (can : st.Can now event)
    (ok : st.handle now event = .ok st') :
    (Unhindered st event → Waiting st' ∧ Served st event st') ∧
    (Served st event st' → Unhindered st event) := by
  cases event with
  | datagram datagram hookType => exact served_datagram waiting can ok
  | waitForRREP target => exact served_waitForRREP waiting ok
  | packet packet => exact ⟨fun _ => served_packet waiting ok, fun _ => trivial⟩
  | forwarded datagram =>
    exact served_quiet waiting (SameQueue.datagramForwardHook ok) nofun nofun trivial
  | hello nextHello =>
    exact served_quiet waiting (SameQueue.sendHelloMessagesIfNeeded ok) nofun nofun trivial
  | expunge =>
    have scheduled := SameQueue.scheduleExpungeRoutes ok
    exact served_quiet waiting (scheduled.after ⟨rfl, rfl, rfl, rfl, rfl, rfl, rfl, rfl⟩) nofun nofun
      trivial
  | counter | rrepAck | otherRoutes otherRoutes =>
    cases ok
    exact served_quiet waiting ⟨rfl, rfl, rfl, rfl, rfl, rfl, rfl, rfl⟩ nofun nofun trivial
  | blacklist =>
    rw [handle, handleBlackListTimer] at ok
    split_ifs at ok
    cases ok
    exact served_quiet waiting ⟨rfl, rfl, rfl, rfl, rfl, rfl, rfl, rfl⟩ nofun nofun trivial
  | linkBreak destAddress =>
    exact served_quiet waiting (SameQueue.receiveChangeNotification ok) nofun nofun trivial

structure Step where
  before : AODVRouting
  now : ℤ
  event : Event
  after : AODVRouting

/-- The steps of a node, from its initialization. -/
inductive Run : List Step → AODVRouting → Prop
  | start (par : AODVParameters) (self : IPv4Address) (localAddresses : List IPv4Address)
      (otherRoutes : List OtherRoute) (helloMsgTimer : Option ℤ) :
    Run [] (.init par self localAddresses otherRoutes helloMsgTimer)
  | step (now : ℤ) (event : Event) {steps : List Step} {st st' : AODVRouting} :
    Run steps st → st.Can now event → st.handle now event = .ok st' →
    Run (steps ++ [⟨st, now, event, st'⟩]) st'

/-- The datagrams are served in every step if and only if no step is hindered. -/
theorem served_iff_unhindered {steps : List Step} (run : Run steps st) :
    (∀ step ∈ steps, Served step.before step.event step.after) ↔
      ∀ step ∈ steps, Unhindered step.before step.event := by
  suffices both : ((∀ step ∈ steps, Served step.before step.event step.after) ↔
      ∀ step ∈ steps, Unhindered step.before step.event) ∧
      ((∀ step ∈ steps, Unhindered step.before step.event) → Waiting st) from both.1
  induction run with
  | start par self localAddresses otherRoutes helloMsgTimer =>
    refine ⟨⟨fun _ _ mem => absurd mem not_mem_nil, fun _ _ mem =>
      absurd mem not_mem_nil⟩, fun _ => ⟨fun mem => ?_, fun mem => ?_, ?_, ?_⟩⟩
    · exact absurd mem notMem_empty
    · exact absurd mem not_mem_nil
    · exact List.Perm.refl _
    · exact nodup_nil
  | step now event _ can ok ih =>
    simp only [forall_mem_append, forall_mem_singleton]
    obtain ⟨iff, waiting⟩ := ih
    refine ⟨⟨fun served => ?_, fun free => ?_⟩, fun free => ?_⟩
    · have free := iff.mp served.1
      exact ⟨free, (served_step (waiting free) can ok).2 served.2⟩
    · exact ⟨iff.mpr free.1, ((served_step (waiting free.1) can ok).1 free.2).2⟩
    · exact ((served_step (waiting free.1) can ok).1 free.2).1

/-- The times in milliseconds; one request is allowed in a second. -/
def oneRequest : AODVParameters where
  askGratuitousRREP := false
  activeRouteTimeout := 3000
  helloInterval := 1000
  allowedHelloLoss := 2
  netDiameter := 35
  nodeTraversalTime := 40
  rerrRatelimit := 10
  rreqRetries := 2
  rreqRatelimit := 1
  timeoutBuffer := 2
  ttlStart := 2
  ttlIncrement := 2
  ttlThreshold := 7
  myRouteTimeout := 6000
  deletePeriod := 15000
  blacklistTimeout := 5600
  netTraversalTime := 2800
  nextHopWait := 50
  pathDiscoveryTime := 5600

/-- The node 1 asks for a route to 7. -/
theorem served_first_datagram : ∃ steps st, Run steps st ∧ steps.length = 1 ∧
    ∀ step ∈ steps, Served step.before step.event step.after := by
  have run := Run.step 0 (.datagram ⟨0, 1, 7⟩ .LOCALOUT) (Run.start oneRequest 1 [1] [] none)
    (fun queued mem => absurd mem not_mem_nil) rfl
  refine ⟨_, _, run, rfl, (served_iff_unhindered run).mpr fun step mem => ?_⟩
  obtain rfl := mem_singleton.mp mem
  exact fun _ _ => Nat.zero_lt_one

/-- The node asks for a route to 7, and at once for one to 8: the second datagram is stranded. -/
theorem stranded_second_datagram : ∃ steps st, Run steps st ∧
    ∃ step ∈ steps, ¬ Served step.before step.event step.after := by
  have first := Run.step 0 (.datagram ⟨0, 1, 7⟩ .LOCALOUT) (Run.start oneRequest 1 [1] [] none)
    (fun queued mem => absurd mem not_mem_nil) rfl
  have second := Run.step 0 (.datagram ⟨1, 1, 8⟩ .LOCALOUT) first (fun queued mem same => by
      obtain rfl := mem_singleton.mp mem
      exact absurd (congrArg IPv4Datagram.id same) (by decide)) rfl
  refine ⟨_, _, second, _, mem_append_right _ (mem_singleton_self _), fun served => ?_⟩
  obtain ⟨timer, found, -⟩ := served.waits 8 (fun gone => by cases gone)
  cases found

end Inet.Aodv
