import Inet.Ieee8021d.RSTP
import Inet.Lib.Outcome

/-!
# Roles and states of the ports of an RSTP bridge

The handlers keep `Consistent` unless a BPDU of the bridge's own takes the role of the root port
away while there is an alternate (`NoAlternate`), or a port hears of a better root while the root
port is an edge port (`NoEdge`).
-/

namespace Inet.Ieee8021d.RSTP

open Function List Option

variable {numPorts : ℕ} {st st' : RSTP numPorts} {now : ℤ} {i j r arrival : Fin numPorts}
  {frame : BPDU}

/-! ## Roles and states -/

/-- The role and the state of each port. -/
abbrev View (numPorts : ℕ) := Fin numPorts → PortRole × PortState

def view (st : RSTP numPorts) : View numPorts := fun i => ((st.ports i).role, (st.ports i).state)

/-- The roles in which a port takes no part. -/
def Passive (role : PortRole) : Prop := role = .ALTERNATE ∨ role = .BACKUP ∨ role = .DISABLED

structure Consistent (st : RSTP numPorts) : Prop where
  oneRoot : ∀ i j, (st.ports i).role = .ROOT → (st.ports j).role = .ROOT → i = j
  rootForwards : ∀ i, (st.ports i).role = .ROOT → (st.ports i).state = .FORWARDING
  passiveDiscards : ∀ i, Passive (st.ports i).role → (st.ports i).state = .DISCARDING
  rootOfAlternate : ∀ i, (st.ports i).role = .ALTERNATE → ∃ r, (st.ports r).role = .ROOT

/-- What a port may be, when this is the root port. -/
structure Fits (root : Option (Fin numPorts)) (i : Fin numPorts) (port : PortRole × PortState) :
    Prop where
  isRoot : port.1 = .ROOT ↔ root = some i
  forwards : port.1 = .ROOT → port.2 = .FORWARDING
  discards : Passive port.1 → port.2 = .DISCARDING
  hasRoot : port.1 = .ALTERNATE → root ≠ none

def Roles (root : Option (Fin numPorts)) (v : View numPorts) : Prop := ∀ i, Fits root i (v i)

lemma consistent_iff : Consistent st ↔ ∃ root, Roles root st.view := by
  constructor
  · intro consistent
    by_cases some_ : ∃ r, (st.ports r).role = .ROOT
    · obtain ⟨r, isRoot⟩ := some_
      refine ⟨some r, fun i => ⟨⟨fun other => ?_, fun eq => ?_⟩, consistent.rootForwards i,
        consistent.passiveDiscards i, fun _ => some_ne_none r⟩⟩
      · exact congrArg some (consistent.oneRoot r i isRoot other)
      · obtain rfl := Option.some.inj eq
        exact isRoot
    · refine ⟨none, fun i => ⟨⟨fun other => absurd ⟨i, other⟩ some_, fun eq => by cases eq⟩,
        consistent.rootForwards i, consistent.passiveDiscards i, fun alternate => ?_⟩⟩
      exact absurd (consistent.rootOfAlternate i alternate) some_
  · intro ⟨root, roles⟩
    refine ⟨fun i j first second => ?_, fun i => (roles i).forwards, fun i => (roles i).discards,
      fun i alternate => ?_⟩
    · exact Option.some.inj (((roles i).isRoot.mp first).symm.trans ((roles j).isRoot.mp second))
    · obtain ⟨r, eq⟩ := ne_none_iff_exists'.mp ((roles i).hasRoot alternate)
      exact ⟨r, (roles r).isRoot.mpr eq⟩

namespace Fits

variable {root root' : Option (Fin numPorts)} {port : PortRole × PortState}

lemma self (i : Fin numPorts) : Fits (some i) i (.ROOT, .FORWARDING) where
  isRoot := ⟨fun _ => rfl, fun _ => rfl⟩
  forwards _ := rfl
  discards passive := by rcases passive with eq | eq | eq <;> cases eq
  hasRoot _ := some_ne_none i

lemma of_other (other : root ≠ some i) (notRoot : port.1 ≠ .ROOT)
    (discards : Passive port.1 → port.2 = .DISCARDING)
    (hasRoot : port.1 = .ALTERNATE → root ≠ none) : Fits root i port where
  isRoot := ⟨fun isRoot => absurd isRoot notRoot, fun eq => absurd eq other⟩
  forwards isRoot := absurd isRoot notRoot
  discards := discards
  hasRoot := hasRoot

lemma change (fits : Fits root i port) (other : root ≠ some i) (other' : root' ≠ some i)
    (hasRoot : port.1 = .ALTERNATE → root' ≠ none) : Fits root' i port :=
  of_other other' (fun isRoot => other (fits.isRoot.mp isRoot)) fits.discards hasRoot

lemma designated (other : root ≠ some i) (s : PortState) : Fits root i (.DESIGNATED, s) :=
  of_other other (fun eq => by cases eq)
    (fun passive => by rcases passive with eq | eq | eq <;> cases eq) fun eq => by cases eq

lemma alternate {r : Fin numPorts} (other : some r ≠ some i) :
    Fits (some r) i (.ALTERNATE, .DISCARDING) :=
  of_other other (fun eq => by cases eq) (fun _ => rfl) fun _ => some_ne_none r

end Fits

namespace Roles

variable {root : Option (Fin numPorts)} {v : View numPorts} {port : PortRole × PortState}

lemma set (roles : Roles root v) (fits : Fits root i port) : Roles root (update v i port) := by
  intro j
  by_cases eq : j = i
  · rw [eq, update_self]
    exact fits
  · rw [update_of_ne eq]
    exact roles j

lemma promote (roles : Roles none v) (i : Fin numPorts) :
    Roles (some i) (update v i (.ROOT, .FORWARDING)) := by
  intro j
  by_cases eq : j = i
  · rw [eq, update_self]
    exact Fits.self i
  · rw [update_of_ne eq]
    exact (roles j).change (by simp) (fun eq' => eq (Option.some.inj eq').symm)
      fun _ => some_ne_none i

lemma demote (roles : Roles (some r) v) (noAlternate : ∀ i, (v i).1 ≠ .ALTERNATE)
    (fits : Fits none r port) : Roles none (update v r port) := by
  intro j
  by_cases eq : j = r
  · rw [eq, update_self]
    exact fits
  · rw [update_of_ne eq]
    exact (roles j).change (fun eq' => eq (Option.some.inj eq').symm) (by simp)
      fun alternate => absurd alternate (noAlternate j)

lemma switch (roles : Roles (some r) v) (fits : Fits (some i) r port) :
    Roles (some i) (update (update v r port) i (.ROOT, .FORWARDING)) := by
  intro j
  by_cases eq : j = i
  · rw [eq, update_self]
    exact Fits.self i
  · rw [update_of_ne eq]
    by_cases old : j = r
    · rw [old, update_self]
      exact fits
    · rw [update_of_ne old]
      exact (roles j).change (fun eq' => old (Option.some.inj eq').symm)
        (fun eq' => eq (Option.some.inj eq').symm) fun _ => some_ne_none i

lemma resettle {temporary : PortRole × PortState} (roles : Roles (some r) v) (ne : i ≠ r)
    (fits : Fits (some i) r port) : Roles (some i) (update (update
      (update v i (.ROOT, .FORWARDING)) r temporary) r port) := by
  rw [update_idem, update_comm ne]
  exact roles.switch fits

lemma again (roles : Roles (some r) v) : Roles (some r) (update v r (.ROOT, .FORWARDING)) :=
  roles.set (Fits.self r)

end Roles

/-! ## What the setters do -/

@[simp] lemma modifyPort_self (f : InterfaceData → InterfaceData) :
    (st.modifyPort i f).ports i = f (st.ports i) :=
  update_self ..

lemma modifyPort_of_ne (ne : j ≠ i) (f : InterfaceData → InterfaceData) :
    (st.modifyPort i f).ports j = st.ports j :=
  update_of_ne ne ..

lemma view_modifyPort (st : RSTP numPorts) (i : Fin numPorts)
    (f : InterfaceData → InterfaceData) : (st.modifyPort i f).view =
      update st.view i ((f (st.ports i)).role, (f (st.ports i)).state) := by
  funext j
  by_cases eq : j = i
  · rw [eq, update_self, view, modifyPort_self]
  · rw [update_of_ne eq, view, modifyPort_of_ne eq]
    rfl

lemma edge_modifyPort {f : InterfaceData → InterfaceData} (st : RSTP numPorts)
    (same : ∀ port, (f port).edge = port.edge) (i j : Fin numPorts) :
    ((st.modifyPort i f).ports j).edge = (st.ports j).edge := by
  by_cases eq : j = i
  · rw [eq, modifyPort_self, same]
  · rw [modifyPort_of_ne eq]

@[simp] lemma edge_setRole (role : PortRole) :
    ((st.setRole i role).ports j).edge = (st.ports j).edge := by
  apply edge_modifyPort
  exact fun _ => rfl

@[simp] lemma edge_setState (s : PortState) :
    ((st.setState i s).ports j).edge = (st.ports j).edge := by
  apply edge_modifyPort
  exact fun _ => rfl

@[simp] lemma edge_setNextUpgrade (t : ℤ) :
    ((st.setNextUpgrade i t).ports j).edge = (st.ports j).edge := by
  apply edge_modifyPort
  exact fun _ => rfl

@[simp] lemma edge_setTCWhile (t : ℤ) :
    ((st.setTCWhile i t).ports j).edge = (st.ports j).edge := by
  apply edge_modifyPort
  exact fun _ => rfl

@[simp] lemma edge_initInterfacedata :
    ((st.initInterfacedata i).ports j).edge = (st.ports j).edge := by
  apply edge_modifyPort
  exact fun _ => rfl

@[simp] lemma edge_updateInterfacedata :
    ((st.updateInterfacedata frame i).ports j).edge = (st.ports j).edge := by
  apply edge_modifyPort
  exact fun _ => rfl

lemma view_modifyPort_same {f : InterfaceData → InterfaceData}
    (same : (f (st.ports i)).role = (st.ports i).role ∧
      (f (st.ports i)).state = (st.ports i).state) : (st.modifyPort i f).view = st.view := by
  rw [view_modifyPort, same.1, same.2]
  exact update_eq_self i st.view

@[simp] lemma view_setRole (role : PortRole) :
    (st.setRole i role).view = update st.view i (role, (st.ports i).state) :=
  view_modifyPort ..

@[simp] lemma view_setState (s : PortState) :
    (st.setState i s).view = update st.view i ((st.ports i).role, s) :=
  view_modifyPort ..

@[simp] lemma view_setNextUpgrade (t : ℤ) : (st.setNextUpgrade i t).view = st.view :=
  view_modifyPort_same ⟨rfl, rfl⟩

@[simp] lemma view_setLostBPDU (n : ℕ) : (st.setLostBPDU i n).view = st.view :=
  view_modifyPort_same ⟨rfl, rfl⟩

@[simp] lemma view_setTCWhile (t : ℤ) : (st.setTCWhile i t).view = st.view :=
  view_modifyPort_same ⟨rfl, rfl⟩

@[simp] lemma view_initInterfacedata : (st.initInterfacedata i).view = st.view :=
  view_modifyPort_same ⟨rfl, rfl⟩

@[simp] lemma view_updateInterfacedata : (st.updateInterfacedata frame i).view = st.view :=
  view_modifyPort_same ⟨rfl, rfl⟩

@[simp] lemma view_flush : (st.flush i).view = st.view := rfl

@[simp] lemma view_copyTable : (st.copyTable i j).view = st.view := rfl

lemma view_setRole_setState (role : PortRole) (s : PortState) :
    ((st.setRole i role).setState i s).view = update st.view i (role, s) := by
  rw [view_setState, view_setRole, update_idem, setRole, modifyPort_self]

@[simp] lemma view_setRoot : (st.setRoot i).view = update st.view i (.ROOT, .FORWARDING) :=
  view_setRole_setState ..

@[simp] lemma view_setAlternate :
    (st.setAlternate i).view = update st.view i (.ALTERNATE, .DISCARDING) :=
  view_setRole_setState ..

@[simp] lemma view_contend :
    (st.contend now i).view = update st.view i (.DESIGNATED, .DISCARDING) := by
  rw [contend, view_setNextUpgrade, view_setRole_setState]

@[simp] lemma view_setBackup :
    (st.setBackup i).view = update st.view i (.BACKUP, .DISCARDING) := by
  rw [setBackup, view_setLostBPDU, view_setRole_setState, view_flush]

@[simp] lemma view_flushOtherPorts : (st.flushOtherPorts now i).view = st.view := by
  refine List.foldlRecOn (motive := fun st' : RSTP numPorts => st'.view = st.view) _ _ rfl fun st' same j _ => ?_
  split_ifs
  · rw [view_flush, view_setTCWhile, same]
  · rw [view_setTCWhile, same]

@[simp] lemma view_sendBPDU : (st.sendBPDU now i).view = st.view := by
  rw [sendBPDU]
  split_ifs <;> rfl

@[simp] lemma view_sendBPDUs : (st.sendBPDUs now).view = st.view := by
  refine List.foldlRecOn (motive := fun st' : RSTP numPorts => st'.view = st.view) _ _ rfl fun st' same j _ => ?_
  split_ifs
  · rw [view_sendBPDU, same]
  · exact same

@[simp] lemma view_sendTCNtoRoot : (st.sendTCNtoRoot now).view = st.view := by
  rw [sendTCNtoRoot]
  split
  · rfl
  · split_ifs <;> rfl

variable {root : Option (Fin numPorts)}

lemma Roles.getRootIndex (roles : Roles root st.view) : st.getRootIndex = root := by
  rw [RSTP.getRootIndex]
  cases root with
  | none =>
    rw [find?_eq_none]
    intro i _ isRoot
    exact absurd ((roles i).isRoot.mp (of_decide_eq_true isRoot)) (by simp)
  | some r =>
    cases found : (List.finRange numPorts).find? fun i => (st.ports i).role = .ROOT with
    | none =>
      rw [find?_eq_none] at found
      exact absurd (decide_eq_true ((roles r).isRoot.mpr rfl)) (found r (mem_finRange r))
    | some i =>
      have isRoot : (st.ports i).role = .ROOT := by simpa using find?_some found
      exact ((roles i).isRoot.mp isRoot).symm

lemma getRootIndex_isSome (isRoot : (st.view r).1 = .ROOT) : st.getRootIndex ≠ none := by
  intro none_
  rw [getRootIndex, find?_eq_none] at none_
  exact absurd (decide_eq_true isRoot) (none_ r (mem_finRange r))

lemma getBestAlternate_role (best : st.getBestAlternate = some i) :
    (st.ports i).role = .ALTERNATE := by
  revert i
  refine List.foldlRecOn (motive := fun candidate : Option (Fin numPorts) => ∀ {i},
    candidate = some i → (st.ports i).role = .ALTERNATE) _ _ (fun eq => by cases eq)
    fun candidate ih j _ => ?_
  intro i eq
  split_ifs at eq with alternate
  · cases candidate with
    | none =>
      obtain rfl := Option.some.inj eq
      exact alternate
    | some best =>
      dsimp only at eq
      split_ifs at eq
      · obtain rfl := Option.some.inj eq
        exact alternate
      · exact ih eq
  · exact ih eq

lemma ne_of_getBestAlternate {alternative : Fin numPorts} (roles : Roles (some i) st.view)
    (best : st.getBestAlternate = some alternative) : alternative ≠ i := by
  rintro rfl
  have alternate := getBestAlternate_role best
  cases alternate.symm.trans ((roles alternative).isRoot.mpr rfl)

/-! ## Handlers -/

/-- The root index exists whenever a vector is contested, and these states may come out. -/
abbrev Safe (results : RSTP numPorts → Prop) : Except SimError (RSTP numPorts) → Prop :=
  EndsIn (fun e => e ≠ noRootPort) results

lemma scheduleNextUpgrde_safe (st : RSTP numPorts) (now : ℤ) :
    Safe (fun st' => st'.ports = st.ports) (st.scheduleNextUpgrde now) := by
  rw [scheduleNextUpgrde]
  split
  · exact rfl
  · split_ifs
    · exact rfl
    · intro eq
      cases eq

lemma view_eq_of_ports (same : st'.ports = st.ports) : st'.view = st.view := by
  unfold view
  rw [same]

lemma contestInterfacedata_safe (isRoot : (st.view r).1 = .ROOT) (i : Fin numPorts) :
    EndsIn (fun e => e ≠ noRootPort) (fun _ => True) (st.contestInterfacedata i) := by
  rw [contestInterfacedata]
  split
  · next none_ => exact absurd none_ (getRootIndex_isSome isRoot)
  · trivial

lemma contestFrame_safe (isRoot : (st.view r).1 = .ROOT) (frame : BPDU) (i : Fin numPorts) :
    EndsIn (fun e => e ≠ noRootPort) (fun _ => True) (st.contestFrame frame i) := by
  rw [contestFrame]
  split
  · next none_ => exact absurd none_ (getRootIndex_isSome isRoot)
  · trivial

/-- The handler keeps the ports consistent. -/
abbrev Keeps : Except SimError (RSTP numPorts) → Prop :=
  Safe fun st' => ∃ root, Roles root st'.view

lemma scheduleNextUpgrde_keeps (roles : Roles root st.view) :
    Safe (fun st' => Roles root st'.view) (st.scheduleNextUpgrde now) :=
  (scheduleNextUpgrde_safe st now).mono fun _ same => view_eq_of_ports same ▸ roles

/-- A port of `initPorts`. -/
def Fresh (port : PortRole × PortState) : Prop :=
  port = (.NOTASSIGNED, .DISCARDING) ∨ port = (.DESIGNATED, .FORWARDING)

lemma Fresh.fits {port : PortRole × PortState} (fresh : Fresh port)
    (other : root ≠ some i) : Fits root i port := by
  rcases fresh with rfl | rfl
  · exact Fits.of_other other (by decide) (fun _ => rfl) fun eq => by cases eq
  · exact Fits.designated other _

lemma fresh_initPort_self (st : RSTP numPorts) (now : ℤ) (j : Fin numPorts) :
    Fresh ((st.initPort now j).view j) := by
  rw [initPort]
  split_ifs
  · rw [view_flush, view_initInterfacedata, view_setNextUpgrade, view_setRole_setState, update_self]
    exact Or.inl rfl
  · rw [view_flush, view_initInterfacedata, view_setRole_setState, update_self]
    exact Or.inr rfl

lemma view_initPort_of_ne (ne : i ≠ j) : (st.initPort now j).view i = st.view i := by
  rw [initPort]
  split_ifs
  · rw [view_flush, view_initInterfacedata, view_setNextUpgrade, view_setRole_setState,
      update_of_ne ne]
  · rw [view_flush, view_initInterfacedata, view_setRole_setState, update_of_ne ne]

lemma fresh_initLoop : ∀ (l : List (Fin numPorts)) (st : RSTP numPorts) (i : Fin numPorts),
    i ∈ l ∨ Fresh (st.view i) → Fresh ((l.foldl (fun st j => st.initPort now j) st).view i) := by
  intro l
  induction l with
  | nil => exact fun st i start => start.resolve_left not_mem_nil
  | cons j l ih =>
    intro st i start
    refine ih _ i ?_
    by_cases eq : i = j
    · rw [eq]
      exact Or.inr (fresh_initPort_self st now j)
    · rw [view_initPort_of_ne eq]
      exact start.imp_left fun mem => (mem_cons.mp mem).resolve_left eq

lemma initPorts_safe (st : RSTP numPorts) (now : ℤ) :
    Safe (fun st' => Roles none st'.view) (st.initPorts now) :=
  scheduleNextUpgrde_keeps fun i =>
    (fresh_initLoop _ st i (Or.inl (mem_finRange i))).fits (by simp)

lemma handleUpgrade_keeps (roles : Roles root st.view) :
    Safe (fun st' => Roles root st'.view) (st.handleUpgrade now) := by
  refine scheduleNextUpgrde_keeps ?_
  refine List.foldlRecOn (motive := fun st' : RSTP numPorts => Roles root st'.view) _ _ roles
    fun st' roles i _ => ?_
  rw [upgradePort]
  split_ifs
  · have designate : ∀ {role : PortRole} (s : PortState), (st'.ports i).role = role →
        role ≠ .ROOT → Roles root (update st'.view i (.DESIGNATED, s)) :=
      fun s eq notRoot => roles.set (Fits.designated
        (fun isRoot => notRoot (eq ▸ (roles i).isRoot.mpr isRoot)) s)
    split
    · next role =>
      rw [view_contend]
      exact designate _ role (by decide)
    · next role _ =>
      rw [view_setNextUpgrade, view_setState, role]
      exact designate _ role (by decide)
    · next role _ =>
      rw [view_flushOtherPorts, view_setState, role]
      exact designate _ role (by decide)
    · exact roles
  · exact roles

lemma contend_keeps (roles : Roles root st.view) (other : root ≠ some i) :
    Safe (fun st' => Roles root st'.view) ((st.contend now i).scheduleNextUpgrde now) := by
  refine scheduleNextUpgrde_keeps ?_
  rw [view_contend]
  exact roles.set (Fits.designated other _)

lemma lostRoot_keeps (roles : Roles (some i) st.view) : Keeps (st.lostRoot now i) := by
  rw [lostRoot]
  split
  · next candidate best =>
    have ne := ne_of_getBestAlternate roles best
    refine (scheduleNextUpgrde_safe _ now).bind fun st₁ same => ⟨some candidate, ?_⟩
    have view₁ := view_eq_of_ports same
    have view₂ : (st₁.initInterfacedata i).view = _ := view_initInterfacedata
    rw [view_copyTable, view_flushOtherPorts, view_setLostBPDU, view_setRole_setState, view₂, view₁,
      view_contend]
    exact roles.switch (Fits.designated (fun eq => ne (Option.some.inj eq)) _)
  · exact (initPorts_safe st now).mono fun st' roles => ⟨none, roles⟩

lemma lostPort_keeps (roles : Roles root st.view)
    (i : Fin numPorts) : Keeps (st.lostPort now i) := by
  rw [lostPort]
  split_ifs with isRoot
  · have eq := (roles i).isRoot.mp isRoot
    subst eq
    exact lostRoot_keeps roles
  · refine (contend_keeps roles fun eq => isRoot ((roles i).isRoot.mpr eq)).bind
      fun st₁ roles₁ => ⟨root, ?_⟩
    rw [view_initInterfacedata]
    exact roles₁

lemma helloPort_keeps (kept : ∃ root, Roles root st.view) (i : Fin numPorts) :
    Keeps (st.helloPort now i) := by
  obtain ⟨root, roles⟩ := kept
  have counted : Roles root (st.setLostBPDU i ((st.ports i).lostBPDU + 1)).view := by
    rw [view_setLostBPDU]
    exact roles
  rw [helloPort]
  by_cases counts : (st.ports i).edge = false ∧ ((st.ports i).role = .ROOT ∨
      (st.ports i).role = .ALTERNATE ∨ (st.ports i).role = .BACKUP)
  · dsimp only
    split_ifs
    · refine (lostPort_keeps counted i).bind fun st₁ kept => ?_
      obtain ⟨root', roles'⟩ := kept
      exact ⟨root', by rw [view_setLostBPDU]; exact roles'⟩
    · exact ⟨root, counted⟩
  · rw [if_neg counts]
    exact ⟨root, roles⟩

lemma handleHelloTime_keeps (roles : ∃ root, Roles root st.view) :
    Keeps (st.handleHelloTime now) := by
  have looped : Keeps ((List.finRange numPorts).foldlM (fun st i => st.helloPort now i) st) :=
    EndsIn.foldlM roles fun st' kept i _ => helloPort_keeps kept i
  refine looped.bind fun st' kept => ?_
  obtain ⟨root, roles⟩ := kept
  refine ⟨root, ?_⟩
  have sent : ((st'.sendBPDUs now).sendTCNtoRoot now).view = st'.view := by
    rw [view_sendTCNtoRoot, view_sendBPDUs]
  exact sent ▸ roles

lemma compareRSTPData_self (a : PriorityVector) : compareRSTPData a a = .SIMILAR := by
  have same : ∀ address : MACAddress, address.compareTo address = 0 := by
    simp [MACAddress.compareTo]
  simp [compareRSTPData, same]

lemma compareInterfacedata_updateInterfacedata (st : RSTP numPorts) (frame : BPDU)
    (i : Fin numPorts) : (st.updateInterfacedata frame i).compareInterfacedata i frame
      ((st.updateInterfacedata frame i).ports i).linkCost = .SIMILAR := by
  rw [compareInterfacedata, updateInterfacedata, modifyPort_self]
  exact compareRSTPData_self _

lemma breakTie_roles (roles : Roles (some r) st.view) (arrival : Fin numPorts) :
    ∃ root, Roles root (st.breakTie now r arrival).view := by
  rw [breakTie]
  by_cases rootStays : (st.ports r).portPriority < (st.ports arrival).portPriority ∨
      ((st.ports r).portPriority = (st.ports arrival).portPriority ∧ r < arrival)
  · rw [if_pos rootStays, view_setLostBPDU, view_setAlternate, view_flush]
    have ne : r ≠ arrival := by
      rintro rfl
      rcases rootStays with lt | ⟨-, lt⟩
      · exact Nat.lt_irrefl _ (BitVec.lt_def.mp lt)
      · exact lt_irrefl _ lt
    exact ⟨some r, roles.set (Fits.alternate fun eq => ne (Option.some.inj eq))⟩
  · rw [if_neg rootStays]
    have flushed : (if (st.ports arrival).state ≠ .FORWARDING then st.flushOtherPorts now arrival
        else st.flush r).view = st.view := by
      split_ifs
      · exact view_flushOtherPorts
      · exact view_flush
    refine ⟨some arrival, ?_⟩
    rw [view_copyTable, view_setLostBPDU, view_setRoot, view_setAlternate, flushed]
    by_cases eq : arrival = r
    · rw [eq, update_idem]
      exact roles.again
    · exact roles.switch (Fits.alternate fun eq' => eq (Option.some.inj eq'))

lemma replaceRoot_keeps (roles : Roles (some r) st.view) (ne : arrival ≠ r) :
    Keeps (st.replaceRoot now r arrival) := by
  rw [replaceRoot]
  have flushed : (if (st.ports arrival).state ≠ .FORWARDING then st.flushOtherPorts now arrival
      else st).view = st.view := by
    split_ifs
    · exact view_flushOtherPorts
    · rfl
  generalize (if (st.ports arrival).state ≠ .FORWARDING then st.flushOtherPorts now arrival
    else st) = st₁ at flushed ⊢
  -- the old root port is set once more below, so its state does not matter
  have view₂ : ∃ s, (((((st₁.setRoot arrival).setLostBPDU arrival 0).setRole r
      .ALTERNATE).copyTable r arrival)).view = update
        (update st.view arrival (.ROOT, .FORWARDING)) r (.ALTERNATE, s) :=
    ⟨_, by rw [view_copyTable, view_setRole, view_setLostBPDU, view_setRoot, flushed]⟩
  obtain ⟨s, view₂⟩ := view₂
  generalize ((((st₁.setRoot arrival).setLostBPDU arrival 0).setRole r
    .ALTERNATE).copyTable r arrival) = st₂ at view₂ ⊢
  have isRoot : (st₂.view arrival).1 = .ROOT := by
    rw [view₂, update_of_ne ne, update_self]
  refine (contestInterfacedata_safe isRoot r).bind fun case3 _ => ?_
  have other : some arrival ≠ some r := fun eq => ne (Option.some.inj eq)
  split_ifs
  · refine ⟨some arrival, ?_⟩
    rw [view_flush, view_setAlternate, view₂]
    exact roles.resettle ne (Fits.alternate other)
  · refine (scheduleNextUpgrde_keeps ?_).mono fun st' roles' => ⟨some arrival, roles'⟩
    rw [view_contend, view₂]
    exact roles.resettle ne (Fits.designated other _)

lemma contestArrival_keeps (roles : Roles (some r) st.view) (ne : arrival ≠ r) (frame : BPDU) :
    Keeps (st.contestArrival now frame arrival) := by
  have other : some r ≠ some arrival := fun eq => ne (Option.some.inj eq).symm
  refine (contestFrame_safe ((roles r).isRoot.mpr rfl) frame arrival).bind fun case3 _ => ?_
  split_ifs
  · refine (contend_keeps roles other).bind fun st' roles' => ⟨some r, ?_⟩
    rw [view_sendBPDU]
    exact roles'
  · refine ⟨some r, ?_⟩
    rw [view_setLostBPDU, view_setAlternate, view_flush]
    exact roles.set (Fits.alternate other)

/-! ## A better root -/

/-- The port is reset when another port hears of a better root. -/
def IsReset (st : RSTP numPorts) (arrival i : Fin numPorts) : Prop :=
  i ≠ arrival ∧ (st.ports i).edge = false

/-- A port that is reset, and the other ports. -/
structure ResetTo (st : RSTP numPorts) (arrival : Fin numPorts) (l : List (Fin numPorts))
    (st' : RSTP numPorts) : Prop where
  edge : ∀ i, (st'.ports i).edge = (st.ports i).edge
  reset : ∀ i ∈ l, IsReset st arrival i → st'.view i = (.NOTASSIGNED, .DISCARDING)
  kept : ∀ i, ¬ (i ∈ l ∧ IsReset st arrival i) → st'.view i = st.view i

lemma resetPort_safe (st : RSTP numPorts) (now : ℤ) (arrival i : Fin numPorts) :
    Safe (ResetTo st arrival [i]) (st.resetPort now arrival i) := by
  have untouched : ∀ st' : RSTP numPorts, ¬ IsReset st arrival i → st'.view = st.view →
      (∀ j, (st'.ports j).edge = (st.ports j).edge) → ResetTo st arrival [i] st' :=
    fun st' none_ view edge => ⟨edge, fun j mem reset =>
      absurd (mem_singleton.mp mem ▸ reset) none_, fun j _ => congrFun view j⟩
  rw [resetPort]
  by_cases edge : (st.ports i).edge = false
  · rw [if_pos edge]
    have noted : (if (st.ports arrival).state ≠ .FORWARDING then
        st.setTCWhile i (now + st.tcWhileTime) else st).view = st.view ∧
        ∀ j, ((if (st.ports arrival).state ≠ .FORWARDING then
          st.setTCWhile i (now + st.tcWhileTime) else st).ports j).edge = (st.ports j).edge := by
      split_ifs
      · exact ⟨view_setTCWhile _, fun _ => edge_setTCWhile _⟩
      · exact ⟨rfl, fun _ => rfl⟩
    generalize (if (st.ports arrival).state ≠ .FORWARDING then
      st.setTCWhile i (now + st.tcWhileTime) else st) = st₁ at noted ⊢
    obtain ⟨view₁, edge₁⟩ := noted
    by_cases ne : i ≠ arrival
    · rw [if_pos ne]
      refine (scheduleNextUpgrde_safe _ now).bind fun st₂ same => ?_
      have view₂ : (st₂.initInterfacedata i).view =
          update st.view i (.NOTASSIGNED, .DISCARDING) := by
        rw [view_initInterfacedata, view_eq_of_ports same, view_setNextUpgrade,
          view_setRole_setState, view_flush, view₁]
      refine ⟨fun j => ?_, fun j mem _ => ?_, fun j not => ?_⟩
      · have edge₂ : (st₂.ports j).edge = (st₁.ports j).edge := by
          rw [same, edge_setNextUpgrade, edge_setState, edge_setRole]
          rfl
        rw [edge_initInterfacedata, edge₂, edge₁]
      · rw [view₂, mem_singleton.mp mem, update_self]
      · have other : j ≠ i := fun eq => not ⟨mem_singleton.mpr eq, eq ▸ ⟨ne, edge⟩⟩
        rw [view₂, update_of_ne other]
    · rw [if_neg ne]
      exact untouched _ (fun reset => ne reset.1) view₁ edge₁
  · rw [if_neg edge]
    exact untouched _ (fun reset => edge reset.2) rfl fun _ => rfl

lemma resetLoop_safe : ∀ (l : List (Fin numPorts)) (st : RSTP numPorts),
    Safe (ResetTo st arrival l) (l.foldlM (fun st i => st.resetPort now arrival i) st) := by
  intro l
  induction l with
  | nil =>
    exact fun st => ⟨fun _ => rfl, fun i mem => absurd mem not_mem_nil, fun _ _ => rfl⟩
  | cons j l ih =>
    intro st
    refine (resetPort_safe st now arrival j).bind fun st₁ first => (ih st₁).mono fun st₂ rest => ?_
    have same : ∀ i, IsReset st₁ arrival i ↔ IsReset st arrival i := by
      intro i
      rw [IsReset, IsReset, first.edge]
    refine ⟨fun i => (rest.edge i).trans (first.edge i), fun i mem reset => ?_, fun i not => ?_⟩
    · by_cases inRest : i ∈ l
      · exact rest.reset i inRest ((same i).mpr reset)
      · rw [rest.kept i fun both => inRest both.1]
        have here := (mem_cons.mp mem).resolve_right inRest
        exact first.reset i (mem_singleton.mpr here) reset
    · rw [rest.kept i fun both => not ⟨mem_cons_of_mem j both.1, (same i).mp both.2⟩]
      refine first.kept i fun both => not ⟨?_, both.2⟩
      rw [mem_singleton.mp both.1]
      exact mem_cons_self

lemma ResetTo.roles (reset : ResetTo st arrival (List.finRange numPorts) st')
    (roles : Roles (some r) st.view) (notEdge : r ≠ arrival → (st.ports r).edge = false) :
    Roles (some arrival) (update st'.view arrival (.ROOT, .FORWARDING)) := by
  intro i
  by_cases eq : i = arrival
  · rw [eq, update_self]
    exact Fits.self arrival
  · rw [update_of_ne eq]
    have other : some arrival ≠ some i := fun eq' => eq (Option.some.inj eq').symm
    by_cases isReset : IsReset st arrival i
    · rw [reset.reset i (mem_finRange i) isReset]
      exact Fits.of_other other (by decide) (fun _ => rfl) fun eq => by cases eq
    · rw [reset.kept i fun both => isReset both.2]
      refine (roles i).change (fun eq' => ?_) other fun _ => some_ne_none arrival
      obtain rfl := Option.some.inj eq'
      exact isReset ⟨eq, notEdge eq⟩

/-- The frame beats what the root port, another one than that of its arrival, has stored, by a better
root. -/
def BetterRoot (st : RSTP numPorts) (frame : BPDU) (arrival r : Fin numPorts) : Prop :=
  r ≠ arrival ∧ st.compareInterfacedata r frame (st.ports arrival).linkCost = .BETTER_ROOT

/-- No root port keeps its role when a better root comes up. -/
def NoEdge (st : RSTP numPorts) (frame : BPDU) (arrival : Fin numPorts) : Prop :=
  ∀ r, (st.ports r).role = .ROOT → BetterRoot st frame arrival r → (st.ports r).edge = false

/-- Results of the two parts of `processBPDU`. -/
abbrev KeepsToo : Except SimError (Bool × RSTP numPorts) → Prop :=
  EndsIn (fun e => e ≠ noRootPort) fun result => ∃ root, Roles root result.2.view

lemma processBetterSource_keeps (roles : Roles root st.view)
    (noEdge : NoEdge st frame arrival) : KeepsToo (st.processBetterSource now frame arrival) := by
  have roles₁ : Roles root (st.updateInterfacedata frame arrival).view := by
    rw [view_updateInterfacedata]
    exact roles
  rw [processBetterSource]
  rw [roles₁.getRootIndex]
  cases root with
  | none =>
    refine ⟨some arrival, ?_⟩
    rw [view_flushOtherPorts, view_setLostBPDU, view_setRoot]
    exact roles₁.promote arrival
  | some r =>
    dsimp only
    by_cases eq : r = arrival
    · subst eq
      rw [compareInterfacedata_updateInterfacedata]
      exact breakTie_roles roles₁ r
    · have ne : arrival ≠ r := fun eq' => eq eq'.symm
      split
      · exact breakTie_roles roles₁ arrival
      · next better =>
        have notEdge : ((st.updateInterfacedata frame arrival).ports r).edge = false := by
          rw [edge_updateInterfacedata]
          refine noEdge r ((roles r).isRoot.mpr rfl) ⟨eq, ?_⟩
          rw [compareInterfacedata, updateInterfacedata, modifyPort_of_ne eq,
            modifyPort_self] at better
          exact better
        refine (resetLoop_safe _ _).bind fun st₂ reset => ⟨some arrival, ?_⟩
        rw [view_setLostBPDU, view_setRoot]
        exact reset.roles roles₁ fun _ => notEdge
      iterate 3
        · refine (replaceRoot_keeps roles₁ ne).bind fun st₂ kept => ?_
          exact kept
      · refine ⟨some r, ?_⟩
        rw [view_sendBPDU]
        exact roles₁
      iterate 3
        · refine (contestArrival_keeps roles₁ ne frame).bind fun st₂ kept => ?_
          exact kept

/-! ## The same source -/

lemma flushLoop_view (l : List (Fin numPorts)) (st : RSTP numPorts) :
    (l.foldl flush st).view = st.view :=
  List.foldlRecOn (motive := fun st' : RSTP numPorts => st'.view = st.view) _ _ rfl
    fun _ same _ _ => same

lemma worseRootAtRoot_keeps (roles : Roles (some arrival) st.view) (frame : BPDU) :
    KeepsToo (st.worseRootAtRoot now frame arrival) := by
  rw [worseRootAtRoot]
  split
  · next alternative best =>
    have ne := ne_of_getBestAlternate roles best
    refine (scheduleNextUpgrde_safe _ now).bind fun st₁ same => ⟨some alternative, ?_⟩
    rw [view_sendBPDU, view_updateInterfacedata, view_setRoot, view_flushOtherPorts, view_copyTable,
      view_eq_of_ports same, view_contend]
    exact roles.switch (Fits.designated (fun eq => ne (Option.some.inj eq)) _)
  · refine (initPorts_safe st now).bind fun st₁ roles₁ => ?_
    rw [← flushLoop_view (List.finRange numPorts) st₁] at roles₁
    dsimp only
    split_ifs
    · refine ⟨some arrival, ?_⟩
      rw [view_setRoot, view_updateInterfacedata]
      exact roles₁.promote arrival
    · exact ⟨none, roles₁⟩

lemma yieldRoot_keeps {alternative : Fin numPorts} (roles : Roles (some arrival) st.view)
    (ne : alternative ≠ arrival) (frame : BPDU) :
    Keeps (st.yieldRoot now frame arrival alternative) := by
  rw [yieldRoot]
  have view₁ : ∃ temporary, ((st.setRoot alternative).setRole arrival .DESIGNATED).view =
      update (update st.view alternative (.ROOT, .FORWARDING)) arrival temporary :=
    ⟨_, by rw [view_setRole, view_setRoot]⟩
  obtain ⟨temporary, view₁⟩ := view₁
  generalize (st.setRoot alternative).setRole arrival .DESIGNATED = st₁ at view₁ ⊢
  have isRoot : (st₁.view alternative).1 = .ROOT := by
    rw [view₁, update_of_ne ne, update_self]
  have other : some alternative ≠ some arrival := fun eq => ne (Option.some.inj eq)
  refine (contestFrame_safe isRoot frame arrival).bind fun case3 _ => ?_
  have yielded : Safe (fun st' => Roles (some alternative) st'.view)
      (st₁.yieldArrival now arrival case3) := by
    rw [yieldArrival]
    split_ifs
    · refine scheduleNextUpgrde_keeps ?_
      rw [view_contend, view₁]
      exact roles.resettle ne (Fits.designated other _)
    · change Roles (some alternative) (st₁.setAlternate arrival).view
      rw [view_setAlternate, view₁]
      exact roles.resettle ne (Fits.alternate other)
  refine yielded.bind fun st₂ roles₂ => ⟨some alternative, ?_⟩
  rw [view_copyTable, view_flushOtherPorts]
  exact roles₂

lemma worseRouteAtRoot_keeps (roles : Roles (some arrival) st.view) (frame : BPDU) :
    Keeps (st.worseRouteAtRoot now frame arrival) := by
  have roles₁ : Roles (some arrival) (st.setLostBPDU arrival 0).view := by
    rw [view_setLostBPDU]
    exact roles
  have yielded : Keeps ((st.setLostBPDU arrival 0).yieldToAlternate now frame arrival) := by
    rw [yieldToAlternate]
    split
    · next alternative best =>
      split_ifs
      · exact yieldRoot_keeps roles₁ (ne_of_getBestAlternate roles₁ best) frame
      · exact ⟨some arrival, roles₁⟩
    · exact ⟨some arrival, roles₁⟩
  refine yielded.bind fun st₁ kept => ?_
  obtain ⟨root, roles'⟩ := kept
  exact ⟨root, by rw [view_updateInterfacedata]; exact roles'⟩

lemma worseRouteAtAlternate_keeps (roles : Roles root st.view)
    (alternate : (st.ports arrival).role = .ALTERNATE) (frame : BPDU) :
    Safe (fun st' => Roles root st'.view) (st.worseRouteAtAlternate now frame arrival) := by
  obtain ⟨r, rfl⟩ := ne_none_iff_exists'.mp ((roles arrival).hasRoot alternate)
  have other : some r ≠ some arrival := fun eq => by
    have isRoot := (roles arrival).isRoot.mpr eq
    cases alternate.symm.trans isRoot
  refine (contestFrame_safe ((roles r).isRoot.mpr rfl) frame arrival).bind fun case2 _ => ?_
  split_ifs
  · refine (contend_keeps roles other).bind fun st₁ roles₁ => ?_
    change Roles (some r) (st₁.sendBPDU now arrival).view
    rw [view_sendBPDU]
    exact roles₁
  · change Roles (some r) (st.setLostBPDU arrival 0).view
    rw [view_setLostBPDU]
    exact roles

lemma processSameSource_keeps (roles : Roles root st.view)
    (frame : BPDU) : KeepsToo (st.processSameSource now frame arrival) := by
  have updated : Roles root (st.updateInterfacedata frame arrival).view := by
    rw [view_updateInterfacedata]
    exact roles
  have rootIs : (st.ports arrival).role = .ROOT → Roles (some arrival) st.view := by
    intro isRoot
    rw [← (roles arrival).isRoot.mp isRoot]
    exact roles
  rw [processSameSource]
  split
  · refine ⟨root, ?_⟩
    rw [view_setLostBPDU]
    exact roles
  · split
    · next isRoot => exact worseRootAtRoot_keeps (rootIs isRoot) frame
    · next alternate =>
      have other : root ≠ some arrival := fun eq => by
        cases alternate.symm.trans ((roles arrival).isRoot.mpr eq)
      refine (contend_keeps roles other).bind fun st₁ roles₁ => ⟨root, ?_⟩
      rw [view_sendBPDU, view_updateInterfacedata]
      exact roles₁
    · exact ⟨root, roles⟩
  -- a worse route, by each of the three comparisons
  iterate 3
    · split
      · next isRoot =>
        refine (worseRouteAtRoot_keeps (rootIs isRoot) frame).bind fun st₁ kept => ?_
        exact kept
      · next alternate =>
        refine (worseRouteAtAlternate_keeps roles alternate frame).bind fun st₁ roles₁ => ⟨root, ?_⟩
        rw [view_updateInterfacedata]
        exact roles₁
      · exact ⟨root, updated⟩
  · exact ⟨root, roles⟩

lemma processBPDU_keeps (kept : ∃ root, Roles root st.view) (noEdge : 0 <
      (st.compareInterfacedata arrival frame (st.ports arrival).linkCost).toInt ∧
        frame.rootAddress ≠ st.bridgeAddress → NoEdge st frame arrival) :
    Keeps (st.processBPDU now frame arrival) := by
  obtain ⟨root, roles⟩ := kept
  have contested : KeepsToo (st.contestBPDU now frame arrival) := by
    rw [contestBPDU]
    split_ifs with better
    · exact processBetterSource_keeps roles (noEdge better)
    · exact processSameSource_keeps roles frame
    · exact ⟨root, roles⟩
  refine contested.bind fun result kept => ?_
  obtain ⟨root', roles'⟩ := kept
  dsimp only
  split_ifs
  · refine ⟨root', ?_⟩
    rw [view_sendTCNtoRoot, view_sendBPDUs]
    exact roles'
  · exact ⟨root', roles'⟩

/-! ## BPDUs of the bridge itself -/

/-- The port that a BPDU of the bridge itself sets back. -/
def backupPort (st : RSTP numPorts) (frame : BPDU) (arrival : Fin numPorts) :
    Except SimError (Fin numPorts) :=
  if frame.portPriority < (st.ports arrival).portPriority ∨
      (frame.portPriority = (st.ports arrival).portPriority ∧ frame.portNum.toNat < arrival) then
    .ok arrival
  else portAt frame.portNum

/-- A port that goes back, to backup or disabled. -/
def SetBack (port : PortRole × PortState) : Prop :=
  port = (.BACKUP, .DISCARDING) ∨ port = (.DISABLED, .DISCARDING)

lemma SetBack.fits {port : PortRole × PortState} (back : SetBack port)
    (other : root ≠ some i) : Fits root i port := by
  rcases back with rfl | rfl
  · exact Fits.of_other other (by decide) (fun _ => rfl) fun eq => by cases eq
  · exact Fits.of_other other (by decide) (fun _ => rfl) fun eq => by cases eq

lemma portAt_safe (portNum : Unsigned) :
    EndsIn (fun e => e ≠ noRootPort) (fun i : Fin numPorts => portAt portNum = .ok i)
      (portAt portNum) := by
  rw [portAt]
  split_ifs
  · exact rfl
  · intro eq
    cases eq

lemma handleBackup_safe (st : RSTP numPorts) (frame : BPDU) (arrival : Fin numPorts) :
    Safe (fun st' => ∃ i port, backupPort st frame arrival = .ok i ∧ SetBack port ∧
      st'.view = update st.view i port) (st.handleBackup frame arrival) := by
  rw [handleBackup, backupPort]
  split_ifs
  · exact ⟨arrival, _, rfl, Or.inl rfl, view_setBackup⟩
  · exact (portAt_safe frame.portNum).bind fun port2 found =>
      ⟨port2, _, found, Or.inl rfl, view_setBackup⟩
  · refine (portAt_safe frame.portNum).bind fun port2 found =>
      ⟨port2, _, found, Or.inr rfl, ?_⟩
    rw [view_setRole_setState, view_flush]

/-- No root port is set back while there is an alternate. -/
def NoAlternate (st : RSTP numPorts) (frame : BPDU) (arrival : Fin numPorts) : Prop :=
  ∀ i, backupPort st frame arrival = .ok i → (st.ports i).role = .ROOT →
    ∀ j, (st.ports j).role ≠ .ALTERNATE

lemma handleBackup_keeps (kept : ∃ root, Roles root st.view)
    (noAlternate : NoAlternate st frame arrival) : Keeps (st.handleBackup frame arrival) := by
  obtain ⟨root, roles⟩ := kept
  refine (handleBackup_safe st frame arrival).mono fun st' ends => ?_
  obtain ⟨i, port, found, back, eq⟩ := ends
  rw [eq]
  by_cases isRoot : root = some i
  · subst isRoot
    exact ⟨none, roles.demote (noAlternate i found ((roles i).isRoot.mpr rfl))
      (back.fits (by simp))⟩
  · exact ⟨root, roles.set (back.fits isRoot)⟩

lemma handleBackup_breaks (kept : ∃ root, Roles root st.view)
    (alternate : ¬ NoAlternate st frame arrival) :
    Safe (fun st' => ¬ ∃ root, Roles root st'.view) (st.handleBackup frame arrival) := by
  obtain ⟨root, roles⟩ := kept
  refine (handleBackup_safe st frame arrival).mono fun st' ends kept' => alternate ?_
  obtain ⟨i, port, found, back, eq⟩ := ends
  obtain ⟨root', roles'⟩ := kept'
  intro i' found' isRoot j isAlternate
  obtain rfl : i = i' := by
    rw [found] at found'
    cases found'
    rfl
  have notBack : port.1 ≠ .ROOT ∧ port.1 ≠ .ALTERNATE := by
    rcases back with rfl | rfl
    · exact ⟨fun eq => (by cases eq), fun eq => (by cases eq)⟩
    · exact ⟨fun eq => (by cases eq), fun eq => (by cases eq)⟩
  rw [eq] at roles'
  -- the alternate needs a root port, and the only one has gone back
  have ne : j ≠ i := by
    rintro rfl
    cases isAlternate.symm.trans isRoot
  have stays : (update st.view i port j).1 = .ALTERNATE := by
    rw [update_of_ne ne]
    exact isAlternate
  obtain ⟨r, rfl⟩ := ne_none_iff_exists'.mp ((roles' j).hasRoot stays)
  have newRoot := (roles' r).isRoot.mpr rfl
  by_cases same : r = i
  · rw [same, update_self] at newRoot
    exact notBack.1 newRoot
  · rw [update_of_ne same] at newRoot
    have first := (roles r).isRoot.mp newRoot
    have second := (roles i).isRoot.mp isRoot
    exact same (Option.some.inj (first.symm.trans second))

lemma processBetterSource_breaks (roles : Roles root st.view)
    (edge : ¬ NoEdge st frame arrival) : EndsIn (fun e => e ≠ noRootPort)
      (fun result => ¬ ∃ root, Roles root result.2.view)
      (st.processBetterSource now frame arrival) := by
  have roles₁ : Roles root (st.updateInterfacedata frame arrival).view := by
    rw [view_updateInterfacedata]
    exact roles
  rw [NoEdge] at edge
  push Not at edge
  obtain ⟨r, isRoot, ⟨ne, better⟩, isEdge⟩ := edge
  have eq := (roles r).isRoot.mp isRoot
  subst eq
  have better₁ : (st.updateInterfacedata frame arrival).compareInterfacedata r frame
      ((st.updateInterfacedata frame arrival).ports arrival).linkCost = .BETTER_ROOT := by
    rw [compareInterfacedata, updateInterfacedata, modifyPort_of_ne ne, modifyPort_self]
    exact better
  rw [processBetterSource]
  rw [roles₁.getRootIndex]
  dsimp only
  rw [better₁]
  refine (resetLoop_safe _ _).bind fun st₂ reset kept => ?_
  obtain ⟨root', roles'⟩ := kept
  rw [view_setLostBPDU, view_setRoot] at roles'
  have first := (roles' arrival).isRoot.mp (by rw [update_self])
  have second := (roles' r).isRoot.mp (by
    rw [update_of_ne ne, reset.kept r fun both => isEdge (by
      have notEdge := both.2.2
      rw [edge_updateInterfacedata] at notEdge
      exact notEdge), view_updateInterfacedata]
    exact isRoot)
  exact ne (Option.some.inj (second.symm.trans first))

lemma processBPDU_breaks (kept : ∃ root, Roles root st.view) (better : 0 <
      (st.compareInterfacedata arrival frame (st.ports arrival).linkCost).toInt ∧
        frame.rootAddress ≠ st.bridgeAddress) (edge : ¬ NoEdge st frame arrival) :
    Safe (fun st' => ¬ ∃ root, Roles root st'.view) (st.processBPDU now frame arrival) := by
  obtain ⟨root, roles⟩ := kept
  have contested : EndsIn (fun e => e ≠ noRootPort)
      (fun result => ¬ ∃ root, Roles root result.2.view) (st.contestBPDU now frame arrival) := by
    rw [contestBPDU, if_pos better]
    exact processBetterSource_breaks roles edge
  refine contested.bind fun result broken => ?_
  obtain ⟨flood, st₁⟩ := result
  dsimp only at broken ⊢
  split_ifs
  · change ¬ ∃ root, Roles root ((st₁.sendBPDUs now).sendTCNtoRoot now).view
    rw [view_sendTCNtoRoot, view_sendBPDUs]
    exact broken
  · exact broken

end Inet.Ieee8021d.RSTP
