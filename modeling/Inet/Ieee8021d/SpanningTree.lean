import Inet.Ieee8021d.STP

/-!
# Stable states are spanning trees

A stable state is a stable election of a root as long as no path cost wraps and BPDUs have a
lifetime, and so its active ports make a spanning tree.
-/

namespace Inet.Ieee8021d

namespace STP

variable {numPorts : ℕ} {st st' : STP numPorts} {i r : Fin numPorts}

/-! ## Bridges that `tryRoot` does not change -/

lemma not_better_of_betterPort {a b : InterfaceData} (better : betterPort a b = true) :
    ¬ b.vector.advert.Better a.vector.advert := by
  intro worse
  rw [betterPort, comparePorts_of_worse worse] at better
  cases better

lemma not_better_of_not_betterPort {a b : InterfaceData} (notBetter : betterPort a b ≠ true) :
    ¬ a.vector.advert.Better b.vector.advert := by
  intro better
  rw [betterPort, comparePorts_of_better better] at notBetter
  exact notBetter rfl

lemma not_better_trans {a b c : Advert} (first : ¬ a.Better b) (second : ¬ b.Better c) :
    ¬ a.Better c := by
  simp only [Advert.Better] at first second ⊢
  omega

lemma bestPort_loop (st : STP numPorts) : ∀ (l : List (Fin numPorts)) (best : Fin numPorts),
    let last := l.foldl (fun best i => if betterPort (st.ports i) (st.ports best) then i else best)
      best
    ¬ (st.ports best).vector.advert.Better (st.ports last).vector.advert ∧
      ∀ i ∈ l, ¬ (st.ports i).vector.advert.Better (st.ports last).vector.advert := by
  intro l
  induction l with
  | nil =>
    intro best
    refine ⟨?_, fun i mem => absurd mem List.not_mem_nil⟩
    simp only [List.foldl_nil, Advert.Better]
    omega
  | cons j l ih =>
    intro best
    rw [List.foldl_cons]
    obtain ⟨first, rest⟩ := ih (if betterPort (st.ports j) (st.ports best) then j else best)
    by_cases better : betterPort (st.ports j) (st.ports best) = true
    · rw [if_pos better] at first rest ⊢
      refine ⟨not_better_trans (not_better_of_betterPort better) first, fun i mem => ?_⟩
      rcases List.mem_cons.mp mem with rfl | inRest
      · exact first
      · exact rest i inRest
    · rw [if_neg better] at first rest ⊢
      refine ⟨first, fun i mem => ?_⟩
      rcases List.mem_cons.mp mem with rfl | inRest
      · exact not_better_trans (not_better_of_not_betterPort better) first
      · exact rest i inRest

lemma not_better_bestPort (st : STP numPorts) (first i : Fin numPorts) :
    ¬ (st.ports i).vector.advert.Better (st.ports (st.bestPort first)).vector.advert :=
  (bestPort_loop st (List.finRange numPorts) first).2 i (List.mem_finRange i)

lemma checkRootEligibility_iff :
    st.checkRootEligibility = true ↔ ∀ i, st.id ≤ (st.ports i).vector.advert.root := by
  simp only [checkRootEligibility, List.all_eq_true, List.mem_finRange, forall_const,
    decide_eq_true_eq]
  refine forall_congr' fun i => ?_
  rw [compareBridgeIDs_eq]
  change _ ↔ bridgeID st.bridgePriority st.bridgeAddress ≤
    bridgeID (st.ports i).rootPriority (st.ports i).rootAddress
  split_ifs <;> omega

/-- A bridge that is the root, and stays it. -/
structure StaysRoot (st : STP numPorts) : Prop where
  isRoot : st.isRoot = true
  eligible : ∀ i, st.id ≤ (st.ports i).vector.advert.root
  root : bridgeID st.rootPriority st.rootAddress = st.id
  rootPathCost : st.rootPathCost = 0
  currentMaxAge : st.currentMaxAge = st.maxAge
  role : ∀ i, (st.ports i).role ≠ .DISABLED → (st.ports i).role = .DESIGNATED

/-- A bridge that has a root port, and keeps it. -/
structure StaysBelow (st : STP numPorts) (r : Fin numPorts) : Prop where
  isRoot : st.isRoot = false
  notEligible : ∃ i, (st.ports i).vector.advert.root < st.id
  best : ∀ i, ¬ (st.ports i).vector.advert.Better (st.ports r).vector.advert
  rootPriority : st.rootPriority = (st.ports r).rootPriority
  rootAddress : st.rootAddress = (st.ports r).rootAddress
  rootPathCost : st.rootPathCost = (st.ports r).rootPathCost
  currentMaxAge : st.currentMaxAge = (st.ports r).maxAge
  role : ∀ i, (st.ports i).role = if i = r then .ROOT
    else if 0 < st.compareGlobal i then .DESIGNATED
    else if st.compareGlobal i < 0 then .ALTERNATE
    else .NOTASSIGNED

lemma tryRoot_unchanged (unchanged : st.tryRoot = .ok st) :
    StaysRoot st ∨ ∃ r, StaysBelow st r := by
  rw [tryRoot] at unchanged
  by_cases eligible : st.checkRootEligibility = true
  · rw [if_pos eligible] at unchanged
    have same := Except.ok.inj unchanged
    have rootPriority := congrArg STP.rootPriority same
    have rootAddress := congrArg STP.rootAddress same
    refine Or.inl ⟨(congrArg STP.isRoot same).symm, checkRootEligibility_iff.mp eligible, ?_,
      (congrArg STP.rootPathCost same).symm, (congrArg STP.currentMaxAge same).symm,
      fun i enabled => ?_⟩
    · rw [← rootPriority, ← rootAddress]
      rfl
    · have role := congrArg (fun st : STP numPorts => (st.ports i).role) same
      simp only [setAllDesignated, if_neg enabled] at role
      exact role.symm
  · rw [if_neg eligible] at unchanged
    obtain ⟨st₁, selected, eq⟩ := Except.bind_eq_ok unchanged
    have same := Except.ok.inj eq
    rw [selectRootPort] at selected
    split at selected
    · next lt =>
      have def₁ := (Except.ok.inj selected).symm
      have notEligible : ∃ i, (st.ports i).vector.advert.root < st.id := by
        by_contra none_
        push Not at none_
        exact eligible (checkRootEligibility_iff.mpr none_)
      have rootPriority : st.rootPriority = (st.ports (st.bestPort ⟨0, lt⟩)).rootPriority :=
        (congrArg STP.rootPriority same).symm.trans (congrArg STP.rootPriority def₁)
      have rootAddress : st.rootAddress = (st.ports (st.bestPort ⟨0, lt⟩)).rootAddress :=
        (congrArg STP.rootAddress same).symm.trans (congrArg STP.rootAddress def₁)
      have rootPathCost : st.rootPathCost = (st.ports (st.bestPort ⟨0, lt⟩)).rootPathCost :=
        (congrArg STP.rootPathCost same).symm.trans (congrArg STP.rootPathCost def₁)
      refine Or.inr ⟨st.bestPort ⟨0, lt⟩,
        (congrArg STP.isRoot same).symm.trans (congrArg STP.isRoot def₁), notEligible,
        not_better_bestPort st ⟨0, lt⟩, rootPriority, rootAddress, rootPathCost,
        (congrArg STP.currentMaxAge same).symm.trans (congrArg STP.currentMaxAge def₁), fun i => ?_⟩
      have role : st₁.selectedRole i = (st.ports i).role :=
        congrArg (fun st : STP numPorts => (st.ports i).role) same
      have role₁ : (st₁.ports i).role =
          if i = st.bestPort ⟨0, lt⟩ then .ROOT else .NOTASSIGNED :=
        congrArg (fun st : STP numPorts => (st.ports i).role) def₁
      have global : st₁.compareGlobal i = st.compareGlobal i := by
        rw [compareGlobal, compareGlobal, bridgeGlobal, bridgeGlobal, rootPriority, rootAddress,
          rootPathCost, def₁]
        rfl
      rw [← role, selectedRole]
      by_cases isBest : i = st.bestPort ⟨0, lt⟩
      · have skips : st₁.skipped i := Or.inl (role₁.trans (if_pos isBest))
        rw [if_pos skips, role₁]
        rw [if_pos isBest, if_pos isBest]
      · have notSkipped : ¬ st₁.skipped i := by
          rintro (eq | eq)
          · rw [role₁, if_neg isBest] at eq
            cases eq
          · rw [role₁, if_neg isBest] at eq
            cases eq
        rw [if_neg notSkipped, role₁, global]
        rw [if_neg isBest, if_neg isBest]
    · cases selected

lemma ports_passOnBPDU (bpdu : BPDU) : (st.passOnBPDU bpdu).ports = st.ports := by
  exact List.foldlRecOn (motive := fun st' : STP numPorts => st'.ports = st.ports) _ _ rfl
    fun st' same j _ => same

lemma vector_tryRoot (ok : st.tryRoot = .ok st') (i : Fin numPorts) :
    (st'.ports i).vector = (st.ports i).vector := by
  rw [tryRoot] at ok
  split_ifs at ok
  · cases ok
    change (if (st.ports i).role = .DISABLED then st.ports i
      else { st.ports i with role := .DESIGNATED }).vector = _
    split_ifs <;> rfl
  · obtain ⟨st₁, selected, eq⟩ := Except.bind_eq_ok ok
    cases eq
    rw [selectRootPort] at selected
    split at selected
    · cases selected
      rfl
    · cases selected

lemma vector_handleBPDU {bpdu : BPDU} (fresh : bpdu.messageAge < bpdu.maxAge)
    (better : (bpdu.vector (st.ports i).linkCost).advert.Better (st.ports i).vector.advert)
    (ok : st.handleBPDU i bpdu = .ok st') :
    (st'.ports i).vector = bpdu.vector (st.ports i).linkCost := by
  rw [handleBPDU] at ok
  generalize acknowledged : (if bpdu.tcaFlag then { st with
    topologyChangeRecvd := true
    topologyChangeNotification := false } else st : STP numPorts) = st₁ at ok
  have ports₁ : st₁.ports = st.ports := by
    rw [← acknowledged]
    split_ifs <;> rfl
  have superior : comparePorts (st₁.ports i).vector (bpdu.vector (st₁.ports i).linkCost) = -1 := by
    rw [ports₁]
    exact comparePorts_of_worse better
  rw [isSuperiorBPDU, superior] at ok
  simp only [Int.reduceNeg, Left.neg_pos_iff, Int.reduceLT, if_false, if_true, reduceCtorEq] at ok
  have stored : ((setSuperiorBPDU { st₁ with ports := Function.update st₁.ports i { st₁.ports i with
      fdWhile := 0
      state := .DISCARDING } } i bpdu).ports i).vector = bpdu.vector (st.ports i).linkCost := by
    rw [setSuperiorBPDU, if_neg (not_le.mpr fresh)]
    simp only [Function.update_self, ports₁]
    rfl
  rw [vector_tryRoot ok]
  split_ifs
  · rw [ports_passOnBPDU]
    exact stored
  · exact stored

end STP

/-! ## The election of the network -/

namespace BridgedNetwork

variable {Bridge LAN : Type} (net : BridgedNetwork Bridge LAN) (st : net.State)

/-- The port with the role ROOT. -/
def rootPort? {numPorts : ℕ} (st : STP numPorts) : Option (Fin numPorts) :=
  (List.finRange numPorts).find? fun i => (st.ports i).role = .ROOT

def election : Election Bridge LAN where
  Port b := Fin (net.numPorts b)
  medium := net.lan
  linkCost b p := ((st b).ports p).linkCost.toNat
  id b := (st b).id
  root b := bridgeID (st b).rootPriority (st b).rootAddress
  cost b := (st b).rootPathCost.toNat
  rootPort b := rootPort? (st b)
  designated b p := ((st b).ports p).role = .DESIGNATED
  stored b p := ((st b).ports p).vector.advert

variable {net st}

lemma rootPort?_eq_none {numPorts : ℕ} {st : STP numPorts} :
    rootPort? st = none ↔ ∀ i, (st.ports i).role ≠ .ROOT := by
  simp [rootPort?]

lemma role_of_rootPort? {numPorts : ℕ} {st : STP numPorts} {r : Fin numPorts}
    (found : rootPort? st = some r) : (st.ports r).role = .ROOT := by
  simpa using List.find?_some found

lemma NoWrap.advert_configurationBPDU (noWrap : net.NoWrap st) {a b : Bridge}
    {q : Fin (net.numPorts a)} {p : Fin (net.numPorts b)} (same : net.lan a q = net.lan b p) (tcFlag tcaFlag : Bool) :
    (((st a).configurationBPDU q tcFlag tcaFlag).vector ((st b).ports p).linkCost).advert =
      (net.election st).advert a ((net.election st).linkCost b p) := by
  have cost : ((st a).rootPathCost + ((st b).ports p).linkCost).toNat =
      (st a).rootPathCost.toNat + ((st b).ports p).linkCost.toNat := by
    rw [BitVec.toNat_add, Nat.mod_eq_of_lt (noWrap a q b p same)]
  change (⟨_, ((st a).rootPathCost + ((st b).ports p).linkCost).toNat, _⟩ : Advert) = _
  rw [cost]
  rfl

namespace Stable

variable (stable : net.Stable st)

include stable

/-- Each bridge is the root and stays it, or keeps its root port. -/
lemma cases (b : Bridge) : ((st b).StaysRoot ∧ rootPort? (st b) = none) ∨
    ∃ r, (st b).StaysBelow r ∧ rootPort? (st b) = some r := by
  rcases STP.tryRoot_unchanged (stable.tryRoot b) with root | ⟨r, below⟩
  · refine Or.inl ⟨root, rootPort?_eq_none.mpr fun i isRoot => ?_⟩
    cases isRoot.symm.trans (root.role i (stable.enabled b i))
  · refine Or.inr ⟨r, below, ?_⟩
    have isRoot : ((st b).ports r).role = .ROOT := by rw [below.role, if_pos rfl]
    cases found : rootPort? (st b) with
    | none => exact absurd isRoot (rootPort?_eq_none.mp found r)
    | some r' =>
      have isRoot' := role_of_rootPort? found
      rw [below.role] at isRoot'
      split_ifs at isRoot' with eq
      rw [eq]

lemma staysRoot {b : Bridge} (port : rootPort? (st b) = none) : (st b).StaysRoot := by
  rcases stable.cases b with ⟨root, -⟩ | ⟨r, -, found⟩
  · exact root
  · rw [port] at found
    cases found

lemma staysBelow {b : Bridge} {r : Fin (net.numPorts b)} (port : rootPort? (st b) = some r) :
    (st b).StaysBelow r := by
  rcases stable.cases b with ⟨-, found⟩ | ⟨r', below, found⟩
  · rw [port] at found
    cases found
  · rw [port] at found
    obtain rfl := Option.some.inj found
    exact below

variable (noWrap : net.NoWrap st)

include noWrap

lemma heard_advert (b : Bridge) (p : Fin (net.numPorts b)) :
    (net.election st).stored b p = (net.election st).initialAdvert b ∨ ∃ a q, a ≠ b ∧
      net.lan a q = net.lan b p ∧ (net.election st).stored b p =
        (net.election st).advert a ((net.election st).linkCost b p) ∧
          ((st b).ports p).maxAge = (st a).currentMaxAge := by
  rcases stable.heard b p with initial | ⟨a, q, tcFlag, tcaFlag, ne, same, set⟩
  · refine Or.inl ?_
    change ((st b).ports p).vector.advert = _
    rw [initial]
    rfl
  · refine Or.inr ⟨a, q, ne, same, ?_, set.maxAge⟩
    change ((st b).ports p).vector.advert = _
    rw [set.vector]
    exact noWrap.advert_configurationBPDU same tcFlag tcaFlag

lemma currentMaxAge_pos (lasting : net.LastingBPDUs st) (b : Bridge) : 0 < (st b).currentMaxAge := by
  induction h : (st b).rootPathCost.toNat using Nat.strong_induction_on generalizing b with
  | _ n ih =>
    rcases stable.cases b with ⟨root, -⟩ | ⟨r, below, -⟩
    · rw [root.currentMaxAge]
      exact lasting b
    · rw [below.currentMaxAge]
      obtain ⟨i, lower⟩ := below.notEligible
      have best := below.best i
      rcases stable.heard_advert noWrap b r with initial | ⟨a, q, -, same, heard, maxAge⟩
      · have root : (((st b).ports r).vector.advert).root = (st b).id :=
          congrArg Advert.root initial
        simp only [Advert.Better] at best
        omega
      · rw [maxAge]
        have cost : (((st b).ports r).vector.advert).cost =
            (st a).rootPathCost.toNat + ((st b).ports r).linkCost.toNat :=
          congrArg Advert.cost heard
        have cost' : (st b).rootPathCost.toNat = (((st b).ports r).vector.advert).cost :=
          congrArg BitVec.toNat below.rootPathCost
        have pos := stable.linkCost_pos b r
        exact ih (st a).rootPathCost.toNat (by omega) a rfl

lemma designated_iff {b : Bridge} {r : Fin (net.numPorts b)} (below : (st b).StaysBelow r)
    (p : Fin (net.numPorts b)) : ((st b).ports p).role = .DESIGNATED ↔ p ≠ r ∧
      ((net.election st).advert b ((net.election st).linkCost b p)).Better
        ((net.election st).stored b p) := by
  have global : ((st b).bridgeGlobal p).advert =
      (net.election st).advert b ((net.election st).linkCost b p) :=
    noWrap.advert_configurationBPDU rfl false false
  rw [below.role]
  constructor
  · intro isDesignated
    split_ifs at isDesignated with isRoot superior
    refine ⟨isRoot, ?_⟩
    have notWorse : ¬ ((net.election st).stored b p).Better
        ((net.election st).advert b ((net.election st).linkCost b p)) := by
      intro worse
      rw [← global] at worse
      rw [STP.compareGlobal, STP.comparePorts_of_worse worse] at superior
      omega
    obtain ⟨i, lower⟩ := below.notEligible
    have best := below.best i
    have rootLower : (net.election st).root b < (st b).id := by
      have root : (net.election st).root b = (((st b).ports r).vector.advert).root := by
        change bridgeID (st b).rootPriority (st b).rootAddress = _
        rw [below.rootPriority, below.rootAddress]
        rfl
      simp only [Advert.Better] at best
      omega
    rcases stable.heard_advert noWrap b p with initial | ⟨a, q, ne, same, heard, -⟩
    · rw [initial]
      exact Or.inl rootLower
    · rw [heard] at notWorse ⊢
      have other : (st a).id ≠ (st b).id := fun eq => ne (stable.id_injective eq)
      have other' : (net.election st).id a ≠ (net.election st).id b := other
      simp only [Advert.Better, Election.advert] at notWorse ⊢
      omega
  · rintro ⟨notRoot, better⟩
    rw [← global] at better
    have superior : (st b).compareGlobal p = 1 := STP.comparePorts_of_better better
    rw [if_neg notRoot, superior, if_pos (by decide)]

lemma stable_election (lasting : net.LastingBPDUs st) : (net.election st).Stable where
  medium_injective := stable.lan_injective
  linkCost_pos := stable.linkCost_pos
  id_injective := stable.id_injective
  attached := stable.attached
  connected := stable.connected
  heard b p := by
    rcases stable.heard_advert noWrap b p with initial | ⟨a, q, ne, same, heard, -⟩
    · exact Or.inl initial
    · exact Or.inr ⟨a, q, ne, same, heard⟩
  isRoot {b} port := by
    have root := stable.staysRoot port
    refine ⟨root.eligible, root.root, ?_, fun p => root.role p (stable.enabled b p)⟩
    change (st b).rootPathCost.toNat = 0
    rw [root.rootPathCost]
    rfl
  hasRoot {b r} port := by
    have below := stable.staysBelow port
    obtain ⟨i, lower⟩ := below.notEligible
    have best := below.best i
    refine ⟨?_, ?_, congrArg BitVec.toNat below.rootPathCost, below.best⟩
    · change (((st b).ports r).vector.advert).root < (st b).id
      simp only [Advert.Better] at best
      omega
    · change bridgeID (st b).rootPriority (st b).rootAddress = _
      rw [below.rootPriority, below.rootAddress]
      rfl
  designated port p := stable.designated_iff noWrap (stable.staysBelow port) p
  delivered {b p} designated {a q} ne same better := by
    obtain ⟨st', ok, unchanged⟩ := stable.delivered b p designated a q ne same
    rw [← noWrap.advert_configurationBPDU same.symm false false] at better
    have changed := STP.vector_handleBPDU (stable.currentMaxAge_pos noWrap lasting b) better ok
    rw [(unchanged q).1] at changed
    change (PriorityVector.advert _).Better (PriorityVector.advert _) at better
    rw [← changed] at better
    simp only [Advert.Better] at better
    omega

omit noWrap in
lemma isRoot_iff (b : Bridge) : (st b).isRoot = true ↔ (net.election st).rootPort b = none := by
  change _ ↔ rootPort? (st b) = none
  rcases stable.cases b with ⟨root, found⟩ | ⟨r, below, found⟩
  · rw [found, root.isRoot]
    exact ⟨fun _ => rfl, fun _ => rfl⟩
  · rw [found, below.isRoot]
    exact ⟨fun eq => (by cases eq), fun eq => (by cases eq)⟩

omit noWrap in
lemma role_eq_root_iff {b : Bridge} {p : Fin (net.numPorts b)} :
    ((st b).ports p).role = .ROOT ↔ rootPort? (st b) = some p := by
  refine ⟨fun isRoot => ?_, role_of_rootPort?⟩
  rcases stable.cases b with ⟨-, found⟩ | ⟨r, below, found⟩
  · exact absurd isRoot (rootPort?_eq_none.mp found p)
  · rw [below.role] at isRoot
    split_ifs at isRoot with eq
    rw [eq]
    exact found

omit noWrap in
lemma election_tree : (net.election st).tree = net.activePorts st := by
  have joined : ∀ v w, (net.election st).Joined v w ↔ net.Joined st v w := by
    intro v w
    constructor
    · rintro ⟨active | active⟩
      · exact .port (Or.inl active)
      · exact .port (Or.inr (role_of_rootPort? active))
    · rintro ⟨active | active⟩
      · exact .port (Or.inl active)
      · exact .port (Or.inr (stable.role_eq_root_iff.mp active))
  ext v w
  rw [Election.tree, activePorts, SimpleGraph.fromRel_adj, SimpleGraph.fromRel_adj, joined, joined]

omit noWrap in
lemma exists_least : ∃ x, ∀ b, (st x).id ≤ (st b).id := by
  obtain ⟨b⟩ := stable.nonempty
  obtain ⟨x, -, minimal⟩ := (InvImage.wf (fun b => (st b).id) wellFounded_lt).has_min Set.univ
    ⟨b, trivial⟩
  exact ⟨x, fun b => not_lt.mp (minimal b trivial)⟩

/-- What a stable state is: a spanning tree. -/
theorem spanningTree (lasting : net.LastingBPDUs st) : net.SpanningTree st where
  isRoot b := (stable.isRoot_iff b).trans ((stable.stable_election noWrap lasting).isRoot_iff b)
  rootPathCost x isRoot b :=
    have elected := stable.stable_election noWrap lasting
    elected.isDistance_cost ((elected.isRoot_iff x).mp ((stable.isRoot_iff x).mp isRoot)) b
  rootPort b notRoot := by
    rcases stable.cases b with ⟨root, -⟩ | ⟨r, below, found⟩
    · rw [root.isRoot] at notRoot
      cases notRoot
    · obtain ⟨a, q, ne, same, -, cost⟩ := (stable.stable_election noWrap lasting).upstream found
      refine ⟨r, fun q => ?_, a, q, ne, same, cost⟩
      rw [stable.role_eq_root_iff, found]
      exact ⟨fun eq => (Option.some.inj eq).symm, fun eq => congrArg some eq.symm⟩
  designated l := by
    obtain ⟨b, p, lan, designated, unique⟩ :=
      (stable.stable_election noWrap lasting).existsUnique_designated l
    refine ⟨⟨b, p⟩, ⟨lan, designated⟩, fun port other => ?_⟩
    obtain ⟨a, q⟩ := port
    obtain ⟨lan', designated'⟩ := other
    have eq : a = b := unique a q lan' designated'
    subst eq
    exact congrArg (Sigma.mk a) (stable.lan_injective a (lan'.trans lan.symm))
  tree := by
    obtain ⟨x, least⟩ := stable.exists_least
    rw [← stable.election_tree]
    exact (stable.stable_election noWrap lasting).isTree least

end Stable

end BridgedNetwork

/-! ## A chain of bridges -/

/-- Three bridges with two ports each, and four LANs. -/
abbrev chain : BridgedNetwork (Fin 3) (Fin 4) where
  numPorts _ := 2
  lan b p := ⟨b + p, by omega⟩

def chainPort (linkCost : Unsigned) (role : PortRole) (vector : PriorityVector) :
    InterfaceData where
  priority := 128
  linkCost := linkCost
  edge := false
  state := .FORWARDING
  role := role
  rootPriority := vector.rootPriority
  rootAddress := vector.rootAddress
  rootPathCost := vector.rootPathCost
  bridgePriority := vector.bridgePriority
  bridgeAddress := vector.bridgeAddress
  portPriority := vector.portPriority
  portNum := vector.portNum
  age := 0
  maxAge := 20
  fdWhile := 0
  fwdDelay := 15
  helloTime := 0
  TCWhile := 0
  lostBPDU := 0
  nextUpgrade := 0

def chainBridge (maxAge : ℤ) (bridgeAddress rootAddress : MACAddress) (rootPathCost : Unsigned)
    (desPorts : List (Fin 2)) (ports : Fin 2 → InterfaceData) : STP 2 where
  bridgePriority := 32768
  bridgeAddress := bridgeAddress
  maxAge := maxAge
  helloTime := 0
  forwardDelay := 15
  ports := ports
  isRoot := bridgeAddress = rootAddress
  topologyChangeNotification := false
  topologyChangeRecvd := true
  rootPriority := 32768
  rootAddress := rootAddress
  rootPathCost := rootPathCost
  rootPort := 0
  currentHelloTime := 0
  currentMaxAge := maxAge
  currentFwdDelay := 15
  desPorts := desPorts
  agingTime := none
  relayOut := []

/-- The link of the second bridge to the root costs `c`. -/
def chainState (c : Unsigned) : chain.State
  | 0 => chainBridge 20 1 1 0 [0, 1] fun _ => chainPort 1 .DESIGNATED ⟨32768, 1, 0, 32768, 1, -1, -1⟩
  | 1 => chainBridge 20 2 1 c [1] fun
      | 0 => chainPort c .ROOT ⟨32768, 1, c, 32768, 1, 128, 1⟩
      | 1 => chainPort 1 .DESIGNATED ⟨32768, 2, 0, 32768, 2, -1, -1⟩
  | 2 => chainBridge 20 3 1 (c + 1) [1] fun
      | 0 => chainPort 1 .ROOT ⟨32768, 1, c + 1, 32768, 2, 128, 1⟩
      | 1 => chainPort 1 .DESIGNATED ⟨32768, 3, 0, 32768, 3, -1, -1⟩

/-- The BPDUs have no lifetime, and each bridge is the root of its own. -/
def agedChainState : chain.State := fun b =>
  chainBridge 0 (b.val + 1 : ℕ) (b.val + 1 : ℕ) 0 [0, 1] fun _ =>
    chainPort 1 .DESIGNATED ⟨32768, (b.val + 1 : ℕ), 0, 32768, (b.val + 1 : ℕ), -1, -1⟩

lemma connected_chain (a b : Fin 3) : Relation.ReflTransGen chain.Neighbor a b := by
  have up : ∀ a, Relation.ReflTransGen chain.Neighbor a 1
    | 0 => .single ⟨1, 0, rfl⟩
    | 1 => .refl
    | 2 => .single ⟨0, 1, rfl⟩
  have down : ∀ b, Relation.ReflTransGen chain.Neighbor 1 b
    | 0 => .single ⟨0, 1, rfl⟩
    | 1 => .refl
    | 2 => .single ⟨1, 0, rfl⟩
  exact (up a).trans (down b)

lemma lan_injective_chain (b : Fin 3) : Function.Injective (chain.lan b) := by
  intro p q same
  have same := congrArg Fin.val same
  exact Fin.ext (Nat.add_left_cancel same)

lemma attached_chain (l : Fin 4) : ∃ b p, chain.lan b p = l := by
  revert l
  decide

/-- The outcome is the state itself. -/
def Unchanged {numPorts : ℕ} (st : STP numPorts) : Except SimError (STP numPorts) → Prop
  | .ok st' => (∀ i, st'.ports i = st.ports i) ∧ { st' with ports := st.ports } = st
  | .error _ => False

instance {numPorts : ℕ} (st : STP numPorts) : ∀ r, Decidable (Unchanged st r)
  | .ok st' => inferInstanceAs (Decidable ((∀ i, st'.ports i = st.ports i) ∧ _ = st))
  | .error _ => inferInstanceAs (Decidable False)

lemma eq_ok_of_unchanged {numPorts : ℕ} {st : STP numPorts} {r : Except SimError (STP numPorts)}
    (unchanged : Unchanged st r) : r = .ok st := by
  cases r with
  | ok st' =>
    obtain ⟨ports, rest⟩ := unchanged
    rw [← funext ports] at rest
    exact congrArg Except.ok rest
  | error _ => exact unchanged.elim

/-- The outcome has the vectors and the roles of the state. -/
def Settled {numPorts : ℕ} (st : STP numPorts) : Except SimError (STP numPorts) → Prop
  | .ok st' => ∀ i, (st'.ports i).vector = (st.ports i).vector ∧
      (st'.ports i).role = (st.ports i).role
  | .error _ => False

instance {numPorts : ℕ} (st : STP numPorts) : ∀ r, Decidable (Settled st r)
  | .ok st' => inferInstanceAs (Decidable (∀ i, (st'.ports i).vector = (st.ports i).vector ∧
      (st'.ports i).role = (st.ports i).role))
  | .error _ => inferInstanceAs (Decidable False)

lemma exists_of_settled {numPorts : ℕ} {st : STP numPorts} {r : Except SimError (STP numPorts)}
    (settled : Settled st r) : ∃ st', r = .ok st' ∧ ∀ i, (st'.ports i).vector =
      (st.ports i).vector ∧ (st'.ports i).role = (st.ports i).role := by
  cases r with
  | ok st' => exact ⟨st', rfl, settled⟩
  | error _ => exact settled.elim

lemma stable_chain (c : Unsigned) (cost : c = 1 ∨ c = -1) : chain.Stable (chainState c) where
  nonempty := ⟨0⟩
  id_injective := by
    rcases cost with rfl | rfl <;> decide +kernel
  lan_injective := lan_injective_chain
  attached := attached_chain
  connected := connected_chain
  linkCost_pos := by
    rcases cost with rfl | rfl <;> decide +kernel
  enabled := by
    rcases cost with rfl | rfl <;> decide +kernel
  heard
    | 0, 0 => Or.inl rfl
    | 0, 1 => Or.inl rfl
    | 1, 0 => Or.inr ⟨0, 1, false, false, by decide, rfl, ⟨by
        rcases cost with rfl | rfl <;> decide +kernel, rfl, rfl, rfl⟩⟩
    | 1, 1 => Or.inl rfl
    | 2, 0 => Or.inr ⟨1, 1, false, false, by decide, rfl, ⟨rfl, rfl, rfl, rfl⟩⟩
    | 2, 1 => Or.inl rfl
  tryRoot b := by
    have unchanged : ∀ b, Unchanged (chainState c b) (chainState c b).tryRoot := by
      rcases cost with rfl | rfl <;> decide +kernel
    exact eq_ok_of_unchanged (unchanged b)
  delivered b p designated a q ne same := by
    have settled : ∀ b p, ((chainState c b).ports p).role = .DESIGNATED → ∀ a q, a ≠ b →
        chain.lan a q = chain.lan b p → Settled (chainState c a)
          ((chainState c a).handleBPDU q ((chainState c b).configurationBPDU p false false)) := by
      rcases cost with rfl | rfl <;> decide +kernel
    exact exists_of_settled (settled b p designated a q ne same)

lemma stable_agedChain : chain.Stable agedChainState where
  nonempty := ⟨0⟩
  id_injective := by decide +kernel
  lan_injective := lan_injective_chain
  attached := attached_chain
  connected := connected_chain
  linkCost_pos := by decide +kernel
  enabled := by decide +kernel
  heard _ _ := Or.inl rfl
  tryRoot b := by
    have unchanged : ∀ b, Unchanged (agedChainState b) (agedChainState b).tryRoot := by
      decide +kernel
    exact eq_ok_of_unchanged (unchanged b)
  delivered b p designated a q ne same := by
    have settled : ∀ b p, ((agedChainState b).ports p).role = .DESIGNATED → ∀ a q, a ≠ b →
        chain.lan a q = chain.lan b p → Settled (agedChainState a)
          ((agedChainState a).handleBPDU q ((agedChainState b).configurationBPDU p false false)) := by
      decide +kernel
    exact exists_of_settled (settled b p designated a q ne same)

lemma noWrap_chain : chain.NoWrap (chainState 1) := by
  unfold BridgedNetwork.NoWrap
  decide +kernel

lemma lastingBPDUs_chain (c : Unsigned) : chain.LastingBPDUs (chainState c)
  | 0 => (by decide : (0 : ℤ) < 20)
  | 1 => (by decide : (0 : ℤ) < 20)
  | 2 => (by decide : (0 : ℤ) < 20)

theorem spanningTree_chain : chain.SpanningTree (chainState 1) :=
  (stable_chain 1 (Or.inl rfl)).spanningTree noWrap_chain (lastingBPDUs_chain 1)

/-- The cost of the way of the last bridge to the root may wrap to zero, and without a lifetime of
the BPDUs each bridge is a root. -/
theorem stable_without_spanningTree :
    (∃ st, chain.Stable st ∧ chain.LastingBPDUs st ∧ ¬ chain.SpanningTree st) ∧
      ∃ st, chain.Stable st ∧ chain.NoWrap st ∧ ¬ chain.SpanningTree st := by
  constructor
  · have stable := stable_chain (-1) (Or.inr rfl)
    refine ⟨_, stable, lastingBPDUs_chain (-1), fun tree => ?_⟩
    have distance := tree.rootPathCost 0 rfl 2
    have zero : (chainState (-1) 2).rootPathCost.toNat = 0 := by decide +kernel
    rw [zero] at distance
    generalize zero : 0 = d at distance
    obtain ⟨path, -⟩ := distance
    cases path with
    | step first hop =>
      obtain ⟨p, q, -, -, cost⟩ := hop
      have pos := stable.linkCost_pos 2 p
      omega
  · refine ⟨_, stable_agedChain, ?_, fun tree => ?_⟩
    · unfold BridgedNetwork.NoWrap
      decide +kernel
    · have least := (tree.isRoot 2).mp rfl 0
      revert least
      decide +kernel

end Inet.Ieee8021d
