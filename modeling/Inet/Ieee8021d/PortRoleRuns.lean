import Inet.Ieee8021d.PortRoles
import Mathlib

/-!
# Runs of an RSTP bridge

The ports stay consistent as long as the BPDUs meet the condition `Met`, and no longer. A BPDU of
the bridge's own that comes back at the root port leaves an alternate without a root port; ports on
one LAN, as BPDUs carry no port priority, put themselves behind every port that they hear.
-/

namespace Inet.Ieee8021d.RSTP

variable {numPorts : ℕ} {st st' : RSTP numPorts} {now : ℤ} {i j r arrival : Fin numPorts}
  {frame : BPDU} {ev : RSTPEvent numPorts} {src : MACAddress}

/-- Only `TCWhile` of the ports may differ. -/
structure OnlyTC (st st' : RSTP numPorts) : Prop where
  ports : ∀ i, ∃ t, st'.ports i = { st.ports i with TCWhile := t }
  bridgeAddress : st'.bridgeAddress = st.bridgeAddress

lemma onlyTC_checkTC (st : RSTP numPorts) (now : ℤ) (frame : BPDU) (arrival : Fin numPorts) :
    OnlyTC st (st.checkTC now frame arrival) := by
  have refl : OnlyTC st st := ⟨fun i => ⟨(st.ports i).TCWhile, rfl⟩, rfl⟩
  rw [checkTC]
  split_ifs
  · refine List.foldlRecOn (motive := fun st' : RSTP numPorts => OnlyTC st st') _ _ refl
      fun st' only j _ => ?_
    by_cases ne : j ≠ arrival
    · rw [if_pos ne]
      refine ⟨fun i => ?_, only.bridgeAddress⟩
      obtain ⟨t, eq⟩ := only.ports i
      by_cases same : i = j
      · refine ⟨now + st'.tcWhileTime, ?_⟩
        rw [same, setTCWhile, modifyPort_self]
        rw [same] at eq
        change { st'.ports j with TCWhile := now + st'.tcWhileTime } = _
        rw [eq]
      · rw [setTCWhile, modifyPort_of_ne same]
        exact ⟨t, eq⟩
    · rw [if_neg ne]
      exact only
  · exact refl

namespace OnlyTC

variable (only : OnlyTC st st')

include only

lemma view : st'.view = st.view := by
  funext i
  obtain ⟨t, eq⟩ := only.ports i
  rw [RSTP.view, RSTP.view, eq]

lemma compareInterfacedata (frame : BPDU) (i j : Fin numPorts) :
    st'.compareInterfacedata i frame (st'.ports j).linkCost =
      st.compareInterfacedata i frame (st.ports j).linkCost := by
  obtain ⟨t, eq⟩ := only.ports i
  obtain ⟨t', eq'⟩ := only.ports j
  rw [RSTP.compareInterfacedata, RSTP.compareInterfacedata, eq, eq']
  rfl

lemma noEdge (frame : BPDU) (arrival : Fin numPorts) :
    NoEdge st' frame arrival ↔ NoEdge st frame arrival := by
  refine forall_congr' fun r => ?_
  obtain ⟨t, eq⟩ := only.ports r
  rw [BetterRoot, BetterRoot, only.compareInterfacedata, eq]

lemma noAlternate (frame : BPDU) (arrival : Fin numPorts) :
    NoAlternate st' frame arrival ↔ NoAlternate st frame arrival := by
  have same : backupPort st' frame arrival = backupPort st frame arrival := by
    obtain ⟨t, eq⟩ := only.ports arrival
    rw [backupPort, backupPort, eq]
  have role : ∀ i, (st'.ports i).role = (st.ports i).role := by
    intro i
    obtain ⟨t, eq⟩ := only.ports i
    rw [eq]
  simp only [NoAlternate, same, role]

end OnlyTC

/-! ## One event -/

/-- The frame is better than what the port has stored. -/
def Improves (st : RSTP numPorts) (frame : BPDU) (arrival : Fin numPorts) : Prop :=
  0 < (st.compareInterfacedata arrival frame (st.ports arrival).linkCost).toInt ∧
    frame.rootAddress ≠ st.bridgeAddress

/-- A BPDU of the bridge itself leaves no alternate without a root port, and one of another bridge
leaves no edge port beside the new root port. -/
def Met (st : RSTP numPorts) : RSTPEvent numPorts → Prop
  | .frame frame arrival src => st.isOperational = true → frame.messageAge < st.maxAge →
      (src = st.bridgeAddress → NoAlternate st frame arrival) ∧
        (src ≠ st.bridgeAddress → Improves st frame arrival → NoEdge st frame arrival)
  | _ => True

lemma handleIncomingFrame_keeps (consistent : Consistent st) (met :
      (src = st.bridgeAddress → NoAlternate st frame arrival) ∧
        (src ≠ st.bridgeAddress → Improves st frame arrival → NoEdge st frame arrival)) :
    Keeps (st.handleIncomingFrame now frame arrival src) := by
  have only := onlyTC_checkTC st now frame arrival
  have kept : ∃ root, Roles root (st.checkTC now frame arrival).view := by
    rw [only.view]
    exact consistent_iff.mp consistent
  rw [handleIncomingFrame]
  by_cases fresh : frame.messageAge < st.maxAge
  · dsimp only
    rw [only.bridgeAddress]
    split_ifs with own
    · exact handleBackup_keeps kept ((only.noAlternate frame arrival).mpr (met.1 own))
    · refine processBPDU_keeps kept fun better => (only.noEdge frame arrival).mpr (met.2 own ?_)
      rw [only.compareInterfacedata, only.bridgeAddress] at better
      exact better
  · rw [if_neg fresh]
    exact consistent_iff.mp consistent

lemma handleIncomingFrame_breaks (consistent : Consistent st)
    (fresh : frame.messageAge < st.maxAge) (unmet :
      ¬ ((src = st.bridgeAddress → NoAlternate st frame arrival) ∧
        (src ≠ st.bridgeAddress → Improves st frame arrival → NoEdge st frame arrival))) :
    Safe (fun st' => ¬ ∃ root, Roles root st'.view)
      (st.handleIncomingFrame now frame arrival src) := by
  have only := onlyTC_checkTC st now frame arrival
  have kept : ∃ root, Roles root (st.checkTC now frame arrival).view := by
    rw [only.view]
    exact consistent_iff.mp consistent
  rw [handleIncomingFrame, if_pos fresh]
  dsimp only
  rw [only.bridgeAddress]
  by_cases own : src = st.bridgeAddress
  · rw [if_pos own]
    refine handleBackup_breaks kept fun noAlternate => unmet ⟨fun _ => ?_, fun other => ?_⟩
    · exact (only.noAlternate frame arrival).mp noAlternate
    · exact absurd own other
  · rw [if_neg own]
    have unmet' : ¬ (Improves st frame arrival → NoEdge st frame arrival) :=
      fun met => unmet ⟨fun eq => absurd eq own, fun _ => met⟩
    obtain ⟨improves, edge⟩ := Classical.not_imp.mp unmet'
    refine processBPDU_breaks kept ?_ fun noEdge => edge ((only.noEdge frame arrival).mp noEdge)
    rw [only.compareInterfacedata, only.bridgeAddress]
    exact improves

lemma receiveChangeNotification_keeps (kept : ∃ root, Roles root st.view) (i : Fin numPorts) :
    Keeps (st.receiveChangeNotification now i) := by
  obtain ⟨root, roles⟩ := kept
  rw [receiveChangeNotification]
  by_cases carrier : st.hasCarrier i = true
  · rw [if_pos carrier]
    refine (scheduleNextUpgrde_keeps ?_).mono fun st' roles' => ⟨root, roles'⟩
    split_ifs
    · rw [view_setNextUpgrade]
      exact roles
    · rw [view_setNextUpgrade]
      exact roles
    · exact roles
  · rw [if_neg carrier]
    exact ⟨root, roles⟩

lemma handle_keeps (consistent : Consistent st) (met : Met st ev) : Keeps (st.handle now ev) := by
  have kept := consistent_iff.mp consistent
  have down : ∀ results : RSTP numPorts → Prop, Safe results (.error downError) :=
    fun _ eq => by cases eq
  cases ev with
  | frame frame arrival src =>
    rw [handle]
    split_ifs with up
    · by_cases fresh : frame.messageAge < st.maxAge
      · exact handleIncomingFrame_keeps consistent (met up fresh)
      · rw [handleIncomingFrame, if_neg fresh]
        exact kept
    · exact kept
  | hello =>
    rw [handle]
    split_ifs
    · exact handleHelloTime_keeps kept
    · exact down _
  | upgrade =>
    rw [handle]
    split_ifs
    · obtain ⟨root, roles⟩ := kept
      have roles₁ : Roles root ({ st with upgradeTimer := none } : RSTP numPorts).view := roles
      exact (handleUpgrade_keeps roles₁).mono fun st' roles' => ⟨root, roles'⟩
    · exact down _
  | carrier i hasCarrier =>
    have kept₁ : ∃ root, Roles root ({ st with
        hasCarrier := Function.update st.hasCarrier i hasCarrier } : RSTP numPorts).view := kept
    exact receiveChangeNotification_keeps kept₁ i
  | start =>
    refine (initPorts_safe { st with isOperational := true } now).bind fun st₁ roles₁ => ?_
    exact ⟨none, roles₁⟩
  | stop => exact kept

lemma handle_breaks (consistent : Consistent st) (unmet : ¬ Met st ev) :
    Safe (fun st' => ¬ Consistent st') (st.handle now ev) := by
  have lift : ∀ st' : RSTP numPorts, (¬ ∃ root, Roles root st'.view) → ¬ Consistent st' :=
    fun st' broken consistent => broken (consistent_iff.mp consistent)
  cases ev with
  | frame frame arrival src =>
    obtain ⟨up, unmet⟩ := Classical.not_imp.mp unmet
    obtain ⟨fresh, unmet⟩ := Classical.not_imp.mp unmet
    rw [handle, if_pos up]
    exact (handleIncomingFrame_breaks consistent fresh unmet).mono lift
  | _ => exact absurd trivial unmet

structure RSTPStep (numPorts : ℕ) where
  before : RSTP numPorts
  now : ℤ
  event : RSTPEvent numPorts
  after : RSTP numPorts

inductive Run : List (RSTPStep numPorts) → RSTP numPorts → Prop
  | start (st₀ : RSTP numPorts) (now : ℤ) {st : RSTP numPorts}
      (ok : st₀.initialization now = .ok st) : Run [] st
  | step {steps : List (RSTPStep numPorts)} {st : RSTP numPorts} (run : Run steps st) (now : ℤ)
      (event : RSTPEvent numPorts) (can : st.Can now event) {st' : RSTP numPorts}
      (ok : st.handle now event = .ok st') : Run (steps ++ [⟨st, now, event, st'⟩]) st'

/-- The ports are consistent, and whatever happens next, the root index exists when a vector is
contested. -/
def Kept (st : RSTP numPorts) : Prop :=
  Consistent st ∧ ∀ now event, st.Can now event → st.handle now event ≠ .error noRootPort

lemma Consistent.kept (consistent : Consistent st) : Kept st := by
  refine ⟨consistent, fun now ev _ eq => ?_⟩
  by_cases met : Met st ev
  · have keeps : Keeps (st.handle now ev) := handle_keeps consistent met
    rw [eq] at keeps
    exact keeps rfl
  · have breaks : Safe (fun st' => ¬ Consistent st') (st.handle now ev) :=
      handle_breaks consistent met
    rw [eq] at breaks
    exact breaks rfl

lemma consistent_initialization (ok : st.initialization now = .ok st') : Consistent st' := by
  have safe : Safe Consistent (st.initialization now) :=
    (initPorts_safe st now).bind fun st₁ roles => consistent_iff.mpr ⟨none, roles⟩
  exact safe.of_ok ok

variable {steps : List (RSTPStep numPorts)}

lemma Run.consistent (run : Run steps st) (met : ∀ step ∈ steps, Met step.before step.event) :
    Consistent st ∧ ∀ step ∈ steps, Kept step.before ∧ Kept step.after := by
  induction run with
  | start st₀ now ok =>
    exact ⟨consistent_initialization ok, fun step mem => absurd mem List.not_mem_nil⟩
  | step run now ev can ok ih =>
    obtain ⟨consistent, kept⟩ := ih fun step mem => met step (List.mem_append_left _ mem)
    have here := met _ (List.mem_append_right _ (List.mem_singleton_self _))
    have consistent' := consistent_iff.mpr ((handle_keeps consistent here).of_ok ok)
    refine ⟨consistent', fun step mem => ?_⟩
    rcases List.mem_append.mp mem with old | new
    · exact kept step old
    · obtain rfl := List.mem_singleton.mp new
      exact ⟨consistent.kept, consistent'.kept⟩

lemma Run.ok_of_mem (run : Run steps st) {step : RSTPStep numPorts} (mem : step ∈ steps) :
    step.before.handle step.now step.event = .ok step.after := by
  induction run with
  | start => exact absurd mem List.not_mem_nil
  | step run now ev can ok ih =>
    rcases List.mem_append.mp mem with old | new
    · exact ih old
    · obtain rfl := List.mem_singleton.mp new
      exact ok

theorem kept_iff_met {steps : List (RSTPStep numPorts)} (run : Run steps st) :
    (∀ step ∈ steps, Kept step.before ∧ Kept step.after) ↔
      ∀ step ∈ steps, Met step.before step.event := by
  constructor
  · intro kept step mem
    by_contra unmet
    obtain ⟨⟨consistent, -⟩, ⟨consistent', -⟩⟩ := kept step mem
    exact (handle_breaks consistent unmet).of_ok (run.ok_of_mem mem) consistent'
  · exact fun met => (run.consistent met).2

def unusedPort : InterfaceData where
  priority := 128
  linkCost := 1
  edge := false
  state := .FORWARDING
  role := .NOTASSIGNED
  rootPriority := 0
  rootAddress := 0
  rootPathCost := 0
  bridgePriority := 0
  bridgeAddress := 0
  portPriority := 0
  portNum := 0
  age := 0
  maxAge := 0
  fdWhile := 0
  fwdDelay := 0
  helloTime := 0
  TCWhile := 0
  lostBPDU := 0
  nextUpgrade := 0

/-- A bridge with three ports and the default parameters. -/
def threePorts : RSTP 3 where
  isOperational := true
  bridgePriority := 32768
  bridgeAddress := 9
  maxAge := 20
  helloTime := 2
  forwardDelay := 6
  migrateTime := 3
  tcWhileTime := 6
  ports := fun _ => unusedPort
  hasCarrier := fun _ => true
  helloTimer := none
  upgradeTimer := none
  relayOut := []
  macTable := []

/-- A BPDU that tells of the root 1. -/
def bpduOf (bridgeAddress : MACAddress) (rootPathCost portNum : Unsigned) : BPDU where
  tcaFlag := false
  tcFlag := false
  rootAddress := 1
  rootPriority := 32768
  rootPathCost := rootPathCost
  bridgeAddress := bridgeAddress
  bridgePriority := 32768
  portNum := portNum
  portPriority := 0
  messageAge := 0
  maxAge := 20
  helloTime := 2
  forwardDelay := 6

/-- The bridge after its initialization, at the start of the simulation. -/
def initialized (st : RSTP numPorts) : RSTP numPorts :=
  match st.initialization 0 with
  | .ok st => st
  | .error _ => st

/-- The bridge when an event has been handled, at the start of the simulation. -/
def after (st : RSTP numPorts) (event : RSTPEvent numPorts) : RSTP numPorts :=
  match st.handle 0 event with
  | .ok st => st
  | .error _ => st

lemma Run.initialized (st : RSTP numPorts) (ok : (st.initialization 0).isOk = true) :
    Run [] st.initialized := by
  rw [RSTP.initialized]
  cases done : st.initialization 0 with
  | ok st' => exact .start st 0 done
  | error e =>
    rw [done] at ok
    cases ok

lemma Run.after (run : Run steps st) (ev : RSTPEvent numPorts) (can : st.Can 0 ev)
    (ok : (st.handle 0 ev).isOk = true) :
    Run (steps ++ [⟨st, 0, ev, st.after ev⟩]) (st.after ev) := by
  rw [RSTP.after]
  cases done : st.handle 0 ev with
  | ok st' => exact run.step 0 ev can done
  | error e =>
    rw [done] at ok
    cases ok

/-- The root 1 makes port 1 the root port. -/
theorem kept_first_root : ∃ (steps : List (RSTPStep 3)) (st : RSTP 3), Run steps st ∧
    st.getRootIndex = some 1 ∧ ∀ step ∈ steps, Kept step.before ∧ Kept step.after := by
  have run := (Run.initialized threePorts (by decide +kernel)).after
    (.frame (bpduOf 1 0 0) 1 1) trivial (by decide +kernel)
  refine ⟨_, _, run, by decide +kernel, (kept_iff_met run).mpr fun step mem => ?_⟩
  obtain rfl := List.mem_singleton.mp mem
  have noEdge : ∀ r, (threePorts.initialized.ports r).edge = false := by decide +kernel
  exact fun _ _ => ⟨fun own => absurd own (by decide +kernel), fun _ _ r _ _ => noEdge r⟩

/-- Port 1 is the root port, port 2 an alternate. The bridge's own BPDU of port 0 comes back at port
1; then bridge 2 loses its route. -/
theorem alternate_without_root : ∃ (steps : List (RSTPStep 3)) (st : RSTP 3), Run steps st ∧
    ¬ Consistent st ∧ ∃ now ev, st.Can now ev ∧ st.handle now ev = .error noRootPort := by
  have first := (Run.initialized threePorts (by decide +kernel)).after
    (.frame (bpduOf 1 0 0) 1 1) trivial (by decide +kernel)
  have second := first.after (.frame (bpduOf 2 1 0) 2 2) trivial (by decide +kernel)
  have third := second.after (.frame (bpduOf 9 1 0) 1 9) trivial (by decide +kernel)
  refine ⟨_, _, third, fun consistent => ?_, 0, .frame (bpduOf 2 5 0) 2 2, trivial, ?_⟩
  · exact absurd (consistent.rootOfAlternate 2 (by decide +kernel)) (by decide +kernel)
  · rfl

/-! ## Ports on one LAN -/

variable {numPorts : ℕ} {st st' : RSTP numPorts} {now : ℤ} {i j k m : Fin numPorts} {frame : BPDU}
  {lan : List (Fin numPorts)}

/-- A BPDU of the bridge, heard at another port. -/
structure Hearing (numPorts : ℕ) where
  now : ℤ
  sender : Fin numPorts
  frame : BPDU
  arrival : Fin numPorts

def hear (st : RSTP numPorts) (h : Hearing numPorts) : Except SimError (RSTP numPorts) :=
  st.handleIncomingFrame h.now h.frame h.arrival st.bridgeAddress

/-- What a port sends. -/
def Sends (st : RSTP numPorts) (i : Fin numPorts) (frame : BPDU) : Prop :=
  ∃ now, (st.sendBPDU now i).relayOut = st.relayOut ++ [(i, frame)]

/-- The BPDU of each port of the LAN is heard by all others, in any order. -/
structure AllHeard (st : RSTP numPorts) (lan : List (Fin numPorts))
    (hearings : List (Hearing numPorts)) : Prop where
  sent : ∀ h ∈ hearings, h.sender ∈ lan ∧ h.arrival ∈ lan ∧ h.sender ≠ h.arrival ∧
    Sends st h.sender h.frame
  complete : ∀ i ∈ lan, ∀ j ∈ lan, i ≠ j → ∃ h ∈ hearings, h.sender = i ∧ h.arrival = j

/-- The port has the least priority and number of the LAN. -/
def First (st : RSTP numPorts) (lan : List (Fin numPorts)) (m : Fin numPorts) : Prop :=
  m ∈ lan ∧ ∀ i ∈ lan, (st.ports m).priority < (st.ports i).priority ∨
    ((st.ports m).priority = (st.ports i).priority ∧ m ≤ i)

/-- The first port, and only it, is still designated. -/
def OneDesignated (st : RSTP numPorts) (lan : List (Fin numPorts)) (st' : RSTP numPorts) : Prop :=
  ∃ m, First st lan m ∧ (st'.ports m).role = .DESIGNATED ∧
    ∀ i ∈ lan, i ≠ m → (st'.ports i).role = .BACKUP

/-- The message age in the BPDUs of the bridge. -/
def sentAge (st : RSTP numPorts) : ℤ := ((st.getRootIndex.map st.ports).map InterfaceData.age).getD 0

/-- The port that a hearing sets back. -/
def loser (st : RSTP numPorts) (i j : Fin numPorts) : Fin numPorts :=
  if (st.ports j).portPriority = 0 ∧ j < i then i else j

lemma Sends.fields (sends : Sends st i frame) : frame.portPriority = 0 ∧
    frame.portNum = BitVec.ofNat 32 i ∧ frame.messageAge = st.sentAge := by
  obtain ⟨now, eq⟩ := sends
  rw [sendBPDU] at eq
  split_ifs at eq
  · cases List.append_cancel_left eq
    exact ⟨rfl, rfl, rfl⟩
  · have length := congrArg List.length eq
    rw [List.length_append, List.length_singleton] at length
    exact absurd length.symm (Nat.succ_ne_self _)

/-- The hearings so far have set back the ports of `back`. -/
structure Heard (st : RSTP numPorts) (back : Fin numPorts → Prop) (st' : RSTP numPorts) :
    Prop where
  portPriority : ∀ i, (st'.ports i).portPriority = (st.ports i).portPriority
  maxAge : st'.maxAge = st.maxAge
  set : ∀ i, back i → (st'.ports i).role = .BACKUP
  same : ∀ i, ¬ back i → (st'.ports i).role = (st.ports i).role

lemma checkTC_maxAge (st : RSTP numPorts) (now : ℤ) (frame : BPDU) (arrival : Fin numPorts) :
    (st.checkTC now frame arrival).maxAge = st.maxAge := by
  rw [checkTC]
  split_ifs
  · refine List.foldlRecOn (motive := fun st' : RSTP numPorts => st'.maxAge = st.maxAge) _ _ rfl
      fun st' same j _ => ?_
    split_ifs <;> exact same
  · rfl

variable {back : Fin numPorts → Prop}

lemma Heard.checkTC (heard : Heard st back st') (now : ℤ) (frame : BPDU) (arrival : Fin numPorts) :
    Heard st back (st'.checkTC now frame arrival) := by
  have only := (onlyTC_checkTC st' now frame arrival).ports
  have ports : ∀ i, ((st'.checkTC now frame arrival).ports i).portPriority =
      (st'.ports i).portPriority ∧
      ((st'.checkTC now frame arrival).ports i).role = (st'.ports i).role := by
    intro i
    obtain ⟨t, eq⟩ := only i
    rw [eq]
    exact ⟨rfl, rfl⟩
  exact ⟨fun i => (ports i).1.trans (heard.portPriority i),
    (checkTC_maxAge ..).trans heard.maxAge, fun i mem => (ports i).2.trans (heard.set i mem),
    fun i notMem => (ports i).2.trans (heard.same i notMem)⟩

lemma Heard.setBackup (heard : Heard st back st') (k : Fin numPorts) :
    Heard st (fun i => back i ∨ i = k) (st'.setBackup k) := by
  have here : ((st'.setBackup k).ports k).role = .BACKUP :=
    congrArg Prod.fst ((congrFun view_setBackup k).trans (Function.update_self ..))
  have other (i : Fin numPorts) (ne : i ≠ k) :
      ((st'.setBackup k).ports i).role = (st'.ports i).role :=
    congrArg Prod.fst ((congrFun view_setBackup i).trans (Function.update_of_ne ne ..))
  refine ⟨fun i => ?_, heard.maxAge, fun i mem => ?_, fun i notMem => ?_⟩
  · refine Eq.trans ?_ (heard.portPriority i)
    simp only [RSTP.setBackup, setLostBPDU, setState, setRole, flush, modifyPort]
    obtain rfl | ne := eq_or_ne i k
    · simp only [Function.update_self]
    · simp only [Function.update_of_ne ne]
  · obtain rfl | ne := eq_or_ne i k
    · exact here
    · exact (other i ne).trans (heard.set i (mem.resolve_right ne))
  · obtain ⟨notBack, ne⟩ := not_or.mp notMem
    exact (other i ne).trans (heard.same i notBack)

lemma Heard.hear (heard : Heard st back st') {h : Hearing numPorts} (fits : numPorts ≤ 2 ^ 32)
    (fresh : st.sentAge < st.maxAge) (sends : Sends st h.sender h.frame)
    (ne : h.sender ≠ h.arrival) :
    ∃ st'', st'.hear h = .ok st'' ∧
      Heard st (fun i => back i ∨ i = loser st h.sender h.arrival) st'' := by
  obtain ⟨priority, number, age⟩ := sends.fields
  have sameNumber : h.frame.portNum.toNat = h.sender := by
    rw [number, BitVec.toNat_ofNat]
    exact Nat.mod_eq_of_lt (h.sender.isLt.trans_le fits)
  have checked := heard.checkTC h.now h.frame h.arrival
  rw [RSTP.hear, handleIncomingFrame, if_pos (by rw [age, heard.maxAge]; exact fresh)]
  rw [if_pos (onlyTC_checkTC ..).bridgeAddress.symm, handleBackup]
  simp only [priority, sameNumber, checked.portPriority, loser]
  by_cases behind : (st.ports h.arrival).portPriority = 0 ∧ h.arrival < h.sender
  · have found : portAt h.frame.portNum = .ok h.sender := by
      rw [portAt, dif_pos (by rw [sameNumber]; exact h.sender.isLt)]
      exact congrArg Except.ok (Fin.ext sameNumber)
    rw [if_neg, if_pos (.inr ⟨behind.1.symm, behind.2⟩), found, if_pos behind]
    · exact ⟨_, rfl, checked.setBackup _⟩
    · rw [behind.1]
      rintro (below | ⟨-, below⟩)
      · exact absurd below (by decide)
      · exact absurd behind.2 below.not_gt
  · rw [if_pos, if_neg behind]
    · exact ⟨_, rfl, checked.setBackup _⟩
    · rcases eq_or_ne (st.ports h.arrival).portPriority 0 with zero | stored
      · have before : ¬ h.arrival < h.sender := fun lt => behind ⟨zero, lt⟩
        exact .inr ⟨zero.symm, lt_of_le_of_ne (not_lt.mp before) (Fin.val_ne_of_ne ne)⟩
      · exact .inl (BitVec.lt_def.mpr (Nat.pos_of_ne_zero fun zero =>
          stored (BitVec.eq_of_toNat_eq zero)))

lemma Heard.run (heard : Heard st back st') (fits : numPorts ≤ 2 ^ 32)
    (fresh : st.sentAge < st.maxAge) {hearings : List (Hearing numPorts)}
    (sent : ∀ h ∈ hearings, Sends st h.sender h.frame ∧ h.sender ≠ h.arrival) :
    ∃ st'', hearings.foldlM RSTP.hear st' = .ok st'' ∧ Heard st
      (fun i => back i ∨ ∃ h ∈ hearings, i = loser st h.sender h.arrival) st'' := by
  induction hearings generalizing st' back with
  | nil => exact ⟨st', rfl, by simpa using heard⟩
  | cons h rest ih =>
    obtain ⟨first, later⟩ := List.forall_mem_cons.mp sent
    obtain ⟨st₁, ok, heard₁⟩ := heard.hear fits fresh first.1 first.2
    obtain ⟨st₂, ok', heard₂⟩ := ih heard₁ later
    refine ⟨st₂, by rw [List.foldlM_cons, ok]; exact ok', ?_⟩
    simpa only [List.exists_mem_cons_iff, or_assoc] using heard₂

lemma run_expired (expired : ¬ st.sentAge < st.maxAge) {hearings : List (Hearing numPorts)}
    (sent : ∀ h ∈ hearings, Sends st h.sender h.frame) :
    hearings.foldlM RSTP.hear st = .ok st := by
  induction hearings with
  | nil => rfl
  | cons h rest ih =>
    obtain ⟨first, later⟩ := List.forall_mem_cons.mp sent
    rw [List.foldlM_cons, RSTP.hear, handleIncomingFrame,
      if_neg (by rw [first.fields.2.2]; exact expired)]
    exact ih later

/-- The port that the code leaves designated is the one with the least number, if its stored priority
is 0; and the BPDUs must not be too old. -/
def LeavesFirst (st : RSTP numPorts) (lan : List (Fin numPorts)) : Prop :=
  ∃ m, First st lan m ∧ ((∀ i ∈ lan, i = m) ∨
    (st.sentAge < st.maxAge ∧ (st.ports m).portPriority = 0 ∧ ∀ i ∈ lan, m ≤ i))

theorem oneDesignated_iff (fits : numPorts ≤ 2 ^ 32)
    (designated : ∀ i ∈ lan, (st.ports i).role = .DESIGNATED)
    {hearings : List (Hearing numPorts)} (heard : AllHeard st lan hearings) :
    ∃ st', hearings.foldlM hear st = .ok st' ∧ (OneDesignated st lan st' ↔ LeavesFirst st lan) := by
  by_cases fresh : st.sentAge < st.maxAge
  · have start : Heard st (fun _ => False) st := ⟨fun _ => rfl, rfl, nofun, fun _ _ => rfl⟩
    obtain ⟨st', ok, ends⟩ := start.run fits fresh fun h mem =>
      ⟨(heard.sent h mem).2.2.2, (heard.sent h mem).2.2.1⟩
    refine ⟨st', ok, ?_⟩
    simp only [false_or] at ends
    -- a port that is not set back has no port before it, and has a stored priority of 0
    have setBack : ∀ m ∈ lan, ∀ i ∈ lan, i ≠ m →
        ((st.ports m).portPriority = 0 ∧ m < i → ∃ h ∈ hearings, i = loser st h.sender h.arrival) ∧
        (¬ ((st.ports m).portPriority = 0 ∧ m < i) →
          ∃ h ∈ hearings, m = loser st h.sender h.arrival) := by
      intro m mMem i iMem ne
      obtain ⟨h, mem, rfl, rfl⟩ := heard.complete i iMem m mMem ne
      exact ⟨fun wins => ⟨h, mem, (if_pos wins).symm⟩, fun loses => ⟨h, mem, (if_neg loses).symm⟩⟩
    constructor
    · rintro ⟨m, first, still, -⟩
      refine ⟨m, first, ?_⟩
      have notBack : ¬ ∃ h ∈ hearings, m = loser st h.sender h.arrival := fun lost => by
        rw [ends.set m lost] at still
        cases still
      by_cases alone : ∀ i ∈ lan, i = m
      · exact .inl alone
      · have wins : ∀ i ∈ lan, i ≠ m → (st.ports m).portPriority = 0 ∧ m < i :=
          fun i mem ne => not_not.mp fun loses =>
            notBack ((setBack m first.1 i mem ne).2 loses)
        obtain ⟨i, mem, ne⟩ : ∃ i ∈ lan, i ≠ m := by simpa using alone
        refine .inr ⟨fresh, (wins i mem ne).1, fun i mem => ?_⟩
        obtain rfl | ne := eq_or_ne i m
        · exact le_rfl
        · exact (wins i mem ne).2.le
    · rintro ⟨m, first, leaves⟩
      have others : ∀ i ∈ lan, i ≠ m → (st.ports m).portPriority = 0 ∧ m < i := by
        rintro i mem ne
        rcases leaves with alone | ⟨-, zero, least⟩
        · exact absurd (alone i mem) ne
        · exact ⟨zero, lt_of_le_of_ne (least i mem) ne.symm⟩
      refine ⟨m, first, ?_, fun i mem ne => ends.set i ((setBack m first.1 i mem ne).1
        (others i mem ne))⟩
      refine (ends.same m ?_).trans (designated m first.1)
      rintro ⟨h, mem, eq⟩
      obtain ⟨sender, arrival, ne, -⟩ := heard.sent h mem
      rw [loser] at eq
      split_ifs at eq with behind
      · subst eq
        exact absurd (others _ arrival ne.symm).2 behind.2.not_gt
      · subst eq
        exact behind (others _ sender ne)
  · refine ⟨st, run_expired fresh fun h mem => (heard.sent h mem).2.2.2, ?_⟩
    refine exists_congr fun m => and_congr_right fun first => ⟨fun ⟨_, backup⟩ => ?_, ?_⟩
    · refine .inl fun i mem => by_contra fun ne => ?_
      have role := backup i mem ne
      rw [designated i mem] at role
      cases role
    · rintro (alone | ⟨fresh', -⟩)
      · exact ⟨designated m first.1, fun i mem ne => absurd (alone i mem) ne⟩
      · exact absurd fresh' fresh

/-- The bridge when its ports have become designated ports. -/
def designated : RSTP 3 :=
  match handleUpgrade (initialized threePorts) 3 with
  | .ok st => st
  | .error _ => threePorts

/-- What the bridge sends through a port. -/
def sentBPDU (st : RSTP numPorts) (i : Fin numPorts) : BPDU :=
  match (st.sendBPDU 9 i).relayOut.getLast? with
  | some (_, frame) => frame
  | none => bpduOf 0 0 0

def bothHeard : List (Hearing 3) :=
  [⟨9, 0, sentBPDU designated 0, 1⟩, ⟨9, 1, sentBPDU designated 1, 0⟩]

lemma allHeard_bothHeard : AllHeard designated [0, 1] bothHeard where
  sent := by
    refine List.forall_mem_cons.mpr ⟨⟨by decide, by decide, by decide, 9, ?_⟩,
      List.forall_mem_singleton.mpr ⟨by decide, by decide, by decide, 9, ?_⟩⟩ <;> decide
  complete := by decide

theorem oneDesignated_iff_both :
    ∃ st', bothHeard.foldlM hear designated = .ok st' ∧
      (OneDesignated designated [0, 1] st' ↔ LeavesFirst designated [0, 1]) :=
  oneDesignated_iff (by decide) (by decide) allHeard_bothHeard

theorem not_oneDesignated_both : AllHeard designated [0, 1] bothHeard ∧
    (∀ i ∈ [0, 1], (designated.ports i).role = .DESIGNATED) ∧
    ∀ st', bothHeard.foldlM hear designated = .ok st' → ¬ OneDesignated designated [0, 1] st' := by
  refine ⟨allHeard_bothHeard, by decide, ?_⟩
  rintro st' ok ⟨m, ⟨mem, -⟩, still, -⟩
  have none : (bothHeard.foldlM hear designated).toOption.all fun st =>
      ∀ m ∈ [0, 1], (st.ports m).role ≠ .DESIGNATED := by decide
  rw [ok] at none
  exact of_decide_eq_true none m mem still

end Inet.Ieee8021d.RSTP
