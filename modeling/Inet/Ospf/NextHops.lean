import Inet.Ospf.Distances

/-!
# Next hops of routers

`FirstHop h v d`: a path of cost `d` from the root to `v` starts through the interface and the
neighbor of `h`. Next hops are taken from the root's interfaces for the routers next to the root,
and behind a network whose parent is the root, and inherited else. Such a network keeps the root as
its parent when a shorter path is found, and of several interfaces the first ones or all are taken,
whatever their costs; `HopsDirect` is the condition that these are of least cost.
-/

namespace Inet.Ospf

open List Function

namespace Area

variable (area : Area)

/-- The interface that a link in the router's own LSA stands for. -/
def IsLinkOf (link : Link) (intf : Interface) : Prop :=
  link.linkCost = intf.interfaceOutputCost ∧
    match link.type with
    | .POINTTOPOINT_LINK => intf.interfaceType = .POINTTOPOINT ∧
        (∃ neighbor, intf.firstNeighbor = some neighbor ∧ neighbor.neighborID = link.linkID) ∧
        link.linkData = if intf.interfaceAddressRange.address ≠ 0 then
          intf.interfaceAddressRange.address else BitVec.ofInt 32 intf.ifIndex
    | .TRANSIT_LINK => intf.isMultiAccess = true ∧ intf.designatedRouter = link.linkID ∧
        link.linkData = intf.interfaceAddressRange.address
    | _ => False

/-- Interface and neighbor with which a path from the root starts. -/
inductive FirstHop : NextHop → OSPFLSA → ℕ → Prop
  | pointToPoint {link : Link} {v : RouterLSA} {intf : Interface} {neighbor : Neighbor} :
    link ∈ area.spfTreeRoot.links → link.isToRouter v.header.linkStateID = true →
    area.Edge area.root (.router v) link.linkCost →
    intf ∈ area.associatedInterfaces → IsLinkOf link intf → intf.firstNeighbor = some neighbor →
    FirstHop ⟨intf.ifIndex, neighbor.neighborIPAddress, v.header.advertisingRouter⟩ (.router v)
      link.linkCost
  | transit {link : Link} {n : NetworkLSA} {v : RouterLSA} {intf : Interface}
    {neighbor : Neighbor} :
    link ∈ area.spfTreeRoot.links → link.isTransitTo n = true →
    area.Edge area.root (.network n) link.linkCost → area.Edge (.network n) (.router v) 0 →
    intf ∈ area.associatedInterfaces → IsLinkOf link intf →
    intf.getNeighborByID v.header.linkStateID = some neighbor →
    FirstHop ⟨intf.ifIndex, neighbor.neighborIPAddress, v.header.advertisingRouter⟩ (.router v)
      link.linkCost
  | step {h : NextHop} {u v : OSPFLSA} {d c : ℕ} :
    FirstHop h u d → area.Edge u v c → FirstHop h v (d + c)

/-- The least cost of a path to the vertex. -/
abbrev Distance : OSPFLSA → ℕ → Prop := IsDistance area.Edge area.root

/-- The first interface with the router as its neighbor. -/
def firstInterface (v : RouterLSA) : Option Interface :=
  area.associatedInterfaces.find? fun intf => intf.isPointToPoint &&
    decide (intf.firstNeighbor.map Neighbor.neighborID = some v.header.linkStateID)

/-- The next hops that are taken from the root's interfaces belong to links of least cost. -/
structure HopsDirect : Prop where
  /-- If a link to a router is a shortest path, then so is the link of the first interface to it. -/
  router : ∀ v c intf, area.Edge area.root (.router v) c → area.Distance (.router v) c →
    area.firstInterface v = some intf →
    ∃ link ∈ area.spfTreeRoot.links, link.isToRouter v.header.linkStateID = true ∧
      IsLinkOf link intf ∧ link.linkCost = c
  /-- A network with another router behind it that the root has a link to is not reached at a lower
  cost than over some such link. -/
  network : ∀ n v c d, area.Edge area.root (.network n) c → area.Edge (.network n) (.router v) 0 →
    .router v ≠ area.root → area.Distance (.network n) d → area.Distance (.router v) d →
    area.Edge area.root (.network n) d
  /-- Every interface to the network on which that router is a neighbor has such a link. -/
  attached : ∀ n v intf neighbor d, area.Edge area.root (.network n) d →
    area.Edge (.network n) (.router v) 0 → .router v ≠ area.root →
    area.Distance (.network n) d → area.Distance (.router v) d →
    intf ∈ area.associatedInterfaces → intf.isMultiAccess = true →
    intf.designatedRouter = n.header.linkStateID →
    intf.getNeighborByID v.header.linkStateID = some neighbor →
    ∃ link ∈ area.spfTreeRoot.links, link.isTransitTo n = true ∧ IsLinkOf link intf ∧
      link.linkCost = d

/-- Point-to-point and broadcast interfaces only. -/
def PlainInterfaces : Prop :=
  ∀ intf ∈ area.associatedInterfaces,
    intf.interfaceType = .POINTTOPOINT ∨ intf.interfaceType = .BROADCAST

section

variable {area} {u v w : OSPFLSA} {st st' result : Spf} {fuel c cost : ℕ} {h : NextHop}
  {relaxed : OSPFLSA → OSPFLSA → ℕ → Prop}

lemma mem_routerHops (plain : PlainInterfaces area) {dest : RouterLSA}
    (mem : h ∈ area.routerHops dest area.associatedInterfaces) :
    ∃ intf neighbor, intf ∈ area.associatedInterfaces ∧
      area.firstInterface dest = some intf ∧ intf.firstNeighbor = some neighbor ∧
      h = ⟨intf.ifIndex, neighbor.neighborIPAddress, dest.header.advertisingRouter⟩ := by
  rw [PlainInterfaces] at plain
  rw [firstInterface]
  generalize area.associatedInterfaces = interfaces at plain mem
  induction interfaces with
  | nil => cases mem
  | cons intf interfaces ih =>
    rw [routerHops] at mem
    split at mem
    · rename_i neighbor found
      obtain ⟨first, passes⟩ := Option.filter_eq_some_iff.mp found
      rw [Bool.and_eq_true, decide_eq_true_eq] at passes
      refine ⟨intf, neighbor, mem_cons_self, ?_, first, mem_singleton.mp mem⟩
      exact find?_cons_of_pos (by simp [passes.1, first, passes.2])
    · rename_i none
      have fails : (intf.isPointToPoint && decide (intf.firstNeighbor.map Neighbor.neighborID =
          some dest.header.linkStateID)) = false := by
        rw [Bool.eq_false_iff]
        intro passes
        rw [Bool.and_eq_true, decide_eq_true_eq] at passes
        obtain ⟨neighbor, first, id⟩ := Option.map_eq_some_iff.mp passes.2
        rw [first, Option.filter_some, passes.1, id] at none
        simp at none
      have notMultipoint : ¬ (intf.interfaceType = .POINTTOMULTIPOINT ∧
          (intf.getNeighborByID dest.header.linkStateID).isSome) := by
        rintro ⟨type, -⟩
        rcases plain intf mem_cons_self with here | here <;> rw [here] at type <;> cases type
      rw [if_neg notMultipoint] at mem
      obtain ⟨other, neighbor, otherMem, first, rest⟩ :=
        ih (fun i iMem => plain i (mem_cons_of_mem _ iMem)) mem
      refine ⟨other, neighbor, mem_cons_of_mem _ otherMem, ?_, rest⟩
      rw [find?_cons_of_neg (by rw [fails]; exact Bool.false_ne_true)]
      exact first

lemma mem_attachedLinkHops {n : NetworkLSA} {dest : RouterLSA} {link : Link}
    (mem : h ∈ area.attachedLinkHops n dest link) :
    ∃ intf neighbor, intf ∈ area.associatedInterfaces ∧ intf.isMultiAccess = true ∧
      intf.designatedRouter = n.header.linkStateID ∧
      intf.getNeighborByID dest.header.linkStateID = some neighbor ∧
      h = ⟨intf.ifIndex, neighbor.neighborIPAddress, dest.header.advertisingRouter⟩ := by
  rw [attachedLinkHops] at mem
  split at mem
  · obtain ⟨intf, intfMem, hop⟩ := mem_filterMap.mp mem
    split at hop
    · rename_i attached
      rw [Bool.and_eq_true, decide_eq_true_eq] at attached
      obtain ⟨neighbor, found, rfl⟩ := Option.map_eq_some_iff.mp hop
      exact ⟨intf, neighbor, intfMem, attached.1, attached.2, found, rfl⟩
    · cases hop
  · cases mem

lemma mem_joinVertex_nextHops (notTree : v ∉ st.treeVertices)
    (fresh : v ∉ st.candidateVertices → (st.info v).nextHops = [])
    (mem : h ∈ ((area.joinVertex st cost v).info v).nextHops) :
    (h ∈ (st.info v).nextHops ∧ v ∈ st.candidateVertices ∧
      ((area.joinVertex st cost v).info v).distance = (st.info v).distance) ∨
    (h ∈ area.calculateNextHops st.info v st.justAddedVertex ∧
      ((area.joinVertex st cost v).info v).distance = cost) := by
  rw [joinVertex, if_neg notTree] at mem ⊢
  split_ifs at mem ⊢ with candidate more less
  · exact .inl ⟨mem, candidate, rfl⟩
  · dsimp only at mem ⊢
    rw [update_self] at mem ⊢
    exact .inr ⟨mem, rfl⟩
  · dsimp only at mem ⊢
    rw [update_self] at mem ⊢
    rcases mem_append.mp mem with old | new
    · exact .inl ⟨old, candidate, rfl⟩
    · exact .inr ⟨new, (not_lt.mp less).antisymm (not_lt.mp more)⟩
  · dsimp only at mem ⊢
    rw [update_self] at mem ⊢
    rw [fresh candidate, nil_append] at mem
    exact .inr ⟨mem, rfl⟩

lemma calculateNextHops_subset (notTree : v ∉ st.treeVertices)
    (same : ((area.joinVertex st cost v).info v).distance = cost) :
    area.calculateNextHops st.info v st.justAddedVertex ⊆
      ((area.joinVertex st cost v).info v).nextHops := by
  rw [joinVertex, if_neg notTree] at same ⊢
  split_ifs at same ⊢ with candidate more less
  · rw [same] at more
    exact absurd more (lt_irrefl _)
  · dsimp only
    rw [update_self]
    exact List.Subset.refl _
  · dsimp only
    rw [update_self]
    exact subset_append_right _ _
  · dsimp only
    rw [update_self]
    exact subset_append_right _ _

lemma nextHops_subset (candidate : v ∈ st.candidateVertices)
    (same : (st.info v).distance ≤ ((area.joinVertex st cost v).info v).distance) :
    (st.info v).nextHops ⊆ ((area.joinVertex st cost v).info v).nextHops := by
  rw [joinVertex] at same ⊢
  split_ifs at same ⊢ with onTree more less
  · exact List.Subset.refl _
  · exact List.Subset.refl _
  · dsimp only at same
    rw [update_self] at same
    exact absurd less (not_lt.mpr same)
  · dsimp only
    rw [update_self]
    exact subset_append_left _ _

lemma joinVertex_parent : ((area.joinVertex st cost v).info v).parent =
    if v ∈ st.treeVertices ∨ v ∈ st.candidateVertices then (st.info v).parent
    else some st.justAddedVertex := by
  rw [joinVertex]
  by_cases onTree : v ∈ st.treeVertices
  · rw [if_pos onTree, if_pos (.inl onTree)]
  · by_cases candidate : v ∈ st.candidateVertices
    · have known : v ∈ st.treeVertices ∨ v ∈ st.candidateVertices := .inr candidate
      split_ifs
      · rfl
      · dsimp only
        rw [update_self]
      · dsimp only
        rw [update_self]
    · rw [if_neg onTree, if_neg candidate, if_neg (not_or.mpr ⟨onTree, candidate⟩)]
      dsimp only
      rw [update_self]

/-! ## The invariant -/

/-- The vertex is on the tree or a candidate. -/
def Known (st : Spf) (v : OSPFLSA) : Prop := v ∈ st.treeVertices ∨ v ∈ st.candidateVertices

/-- A next hop that may be stored: one of a shortest path, or any for a network that the root has a
link to. -/
def Sound (area : Area) (h : NextHop) (v : OSPFLSA) (d : ℕ) : Prop :=
  FirstHop area h v d ∨ ∃ n c, v = .network n ∧ area.Edge area.root v c

/-- Beside the search: parents, next hops, and what the routers behind a network inherit. -/
structure HopState (area : Area) (relaxed : OSPFLSA → OSPFLSA → ℕ → Prop) (st : Spf) : Prop where
  first : ∃ others, st.treeVertices = area.root :: others
  last : ∃ others, st.treeVertices = others ++ [st.justAddedVertex]
  fresh : ∀ v, ¬ Known st v → (st.info v).nextHops = []
  root_hops : (st.info area.root).nextHops = []
  parent : ∀ n, Known st (.network n) →
    ((st.info (.network n)).parent = some area.root ↔ ∃ c, area.Edge area.root (.network n) c)
  sound : ∀ v, v ≠ area.root → Known st v → area.Distance v (st.info v).distance →
    ∀ h ∈ (st.info v).nextHops, Sound area h v (st.info v).distance
  inherited : ∀ n v c, .network n ∈ st.treeVertices → relaxed (.network n) v c →
    (∀ c, ¬ area.Edge area.root (.network n) c) →
    [v, .network n].Sublist st.treeVertices ∨
      ((st.info v).distance = (st.info (.network n)).distance →
        (st.info (.network n)).nextHops ⊆ (st.info v).nextHops)

lemma Edge.cost_eq_zero {n : NetworkLSA} (edge : area.Edge (.network n) v c) :
    c = 0 ∧ ∃ r, v = .router r := by
  cases edge
  exact ⟨rfl, _, rfl⟩

lemma sound_calculateNextHops (plain : PlainInterfaces area) (direct : HopsDirect area)
    (edge : area.Edge u v c) (uDist : area.Distance u (st.info u).distance)
    (vDist : area.Distance v ((st.info u).distance + c)) (notRoot : v ≠ area.root)
    (parent : ∀ n, u = .network n →
      ((st.info u).parent = some area.root ↔ ∃ c, area.Edge area.root u c))
    (sound : u ≠ area.root → ∀ h ∈ (st.info u).nextHops, Sound area h u (st.info u).distance)
    (mem : h ∈ area.calculateNextHops st.info v u) : Sound area h v ((st.info u).distance + c) := by
  cases u with
  | router uLSA =>
    simp only [calculateNextHops] at mem
    split at mem
    · -- inherited from a router
      rename_i other
      have ne : OSPFLSA.router uLSA ≠ area.root := fun eq => other (OSPFLSA.router.inj eq)
      rcases sound ne h mem with first | ⟨n, -, eq, -⟩
      · exact .inl (first.step edge)
      · cases eq
    · rename_i isRoot
      rw [not_not] at isRoot
      subst isRoot
      have zero : (st.info (.router area.spfTreeRoot)).distance = 0 :=
        uDist.unique ⟨.root, fun _ _ => Nat.zero_le _⟩
      rw [zero, Nat.zero_add] at vDist ⊢
      cases v with
      | router vLSA =>
        obtain ⟨intf, neighbor, intfMem, first, isFirst, rfl⟩ := mem_routerHops plain mem
        obtain ⟨link, linkMem, toRouter, isLink, rfl⟩ := direct.router vLSA c intf edge vDist first
        exact .inl (.pointToPoint linkMem toRouter edge intfMem isLink isFirst)
      | network n => exact .inr ⟨n, c, rfl, edge⟩
  | network n =>
    obtain ⟨rfl, vLSA, rfl⟩ := edge.cost_eq_zero
    rw [calculateNextHops] at mem
    split at mem
    · -- inherited from a network that the root has no link to
      rename_i other
      have ne : OSPFLSA.network n ≠ area.root := nofun
      rcases sound ne h mem with first | ⟨-, c, -, attached⟩
      · exact .inl (first.step edge)
      · exact absurd ((parent n rfl).mpr ⟨c, attached⟩) other
    · rename_i isRoot
      rw [not_not] at isRoot
      obtain ⟨c, attached⟩ := (parent n rfl).mp isRoot
      obtain ⟨ownLink, -, hop⟩ := mem_flatMap.mp mem
      obtain ⟨intf, neighbor, intfMem, multiAccess, designated, found, rfl⟩ :=
        mem_attachedLinkHops hop
      have least := direct.network n vLSA c _ attached edge notRoot uDist vDist
      obtain ⟨link, linkMem, transit, isLink, linkCost⟩ := direct.attached n vLSA intf neighbor _
        least edge notRoot uDist vDist intfMem multiAccess designated found
      rw [← linkCost] at least ⊢
      exact .inl (.transit linkMem transit least edge intfMem isLink found)

lemma known_joinVertex : Known (area.joinVertex st cost v) w ↔ Known st w ∨ w = v := by
  rw [Known, Known, joinVertex_treeVertices, mem_joinVertex_candidateVertices]
  constructor
  · rintro (onTree | candidate | ⟨rfl, -⟩)
    · exact .inl (.inl onTree)
    · exact .inl (.inr candidate)
    · exact .inr rfl
  · rintro ((onTree | candidate) | rfl)
    · exact .inl onTree
    · exact .inr (.inl candidate)
    · by_cases onTree : w ∈ st.treeVertices
      · exact .inl onTree
      · exact .inr (.inr ⟨rfl, onTree⟩)

lemma HopState.joinEdge (plain : PlainInterfaces area) (direct : HopsDirect area)
    (s : HopState area relaxed st)
    (search : Search area.Edge area.root relaxed (labels st))
    (all : ∀ u v c, u ≠ st.justAddedVertex → area.Edge u v c → relaxed u v c)
    (edges : ∀ u v c, relaxed u v c → area.Edge u v c)
    (edge : area.Edge st.justAddedVertex v c) :
    HopState area (fun x w d => relaxed x w d ∨ (x = st.justAddedVertex ∧ w = v ∧ d = c))
      (area.joinEdge st (v, c)) := by
  obtain ⟨others, tree⟩ := s.last
  have justMem : st.justAddedVertex ∈ st.treeVertices := by
    rw [tree]
    exact mem_append_right _ (mem_singleton_self _)
  rw [Area.joinEdge]
  by_cases onTree : v ∈ st.treeVertices
  · -- nothing changes
    rw [joinVertex_of_mem onTree]
    refine ⟨s.first, s.last, s.fresh, s.root_hops, s.parent, s.sound, ?_⟩
    rintro n w d nMem (before | ⟨just, rfl, rfl⟩) apart
    · exact s.inherited n w d nMem before apart
    · left
      have ne : w ≠ st.justAddedVertex := by
        obtain ⟨-, r, rfl⟩ := (just ▸ edge).cost_eq_zero
        rw [← just]
        intro same
        cases same
      rw [tree, mem_append, mem_singleton] at onTree
      rw [tree, just]
      exact (singleton_sublist.mpr (onTree.resolve_right ne)).append
        (List.Sublist.refl [st.justAddedVertex])
  · have notRoot : v ≠ area.root := by
      rintro rfl
      exact onTree search.root_mem
    have fresh := fun new => s.fresh v (not_or.mpr ⟨onTree, new⟩)
    constructor
    · rw [joinVertex_treeVertices]
      exact s.first
    · rw [joinVertex_treeVertices, joinVertex_justAddedVertex]
      exact s.last
    · intro w unknown
      rw [known_joinVertex, not_or] at unknown
      rw [joinVertex_info_of_ne unknown.2]
      exact s.fresh w unknown.1
    · rw [joinVertex_info_of_ne notRoot.symm]
      exact s.root_hops
    · intro n known
      by_cases same : .network n = v
      · subst same
        rw [joinVertex_parent]
        split_ifs with before
        · exact s.parent n before
        · rw [Option.some.injEq]
          constructor
          · intro just
            rw [just] at edge
            exact ⟨c, edge⟩
          · rintro ⟨d, attached⟩
            by_contra notJust
            rcases search.relaxed _ _ _ search.root_mem
              (all _ _ _ (Ne.symm notJust) attached) with treeMem | ⟨candidate, -⟩
            · exact onTree treeMem
            · exact before (.inr candidate)
      · rw [joinVertex_info_of_ne same]
        exact s.parent n ((known_joinVertex.mp known).resolve_right same)
    · intro w wNotRoot known exactDist h mem
      by_cases same : w = v
      · subst same
        rcases mem_joinVertex_nextHops onTree fresh mem with ⟨old, candidate, dist⟩ | ⟨new, dist⟩
        · rw [dist] at exactDist ⊢
          exact s.sound w wNotRoot (.inr candidate) exactDist h old
        · rw [dist] at exactDist ⊢
          refine sound_calculateNextHops plain direct edge (search.exact _ justMem) exactDist notRoot
            ?_ ?_ new
          · intro n isNetwork
            rw [isNetwork]
            exact s.parent n (.inl (isNetwork ▸ justMem))
          · exact fun ne => s.sound _ ne (.inl justMem) (search.exact _ justMem)
      · rw [joinVertex_info_of_ne same] at exactDist mem ⊢
        exact s.sound w wNotRoot ((known_joinVertex.mp known).resolve_right same) exactDist h mem
    · rintro n w d nMem looked apart
      rw [joinVertex_treeVertices] at nMem ⊢
      have nNe : .network n ≠ v := by
        rintro rfl
        exact onTree nMem
      rw [joinVertex_info_of_ne nNe]
      rcases looked with before | ⟨just, rfl, rfl⟩
      · by_cases same : w = v
        · subst same
          right
          intro dist
          obtain ⟨candidate, le⟩ := (search.relaxed _ _ _ nMem before).resolve_left onTree
          obtain ⟨rfl, -⟩ := (edges _ _ _ before).cost_eq_zero
          change w ∈ st.candidateVertices at candidate
          change (st.info w).distance ≤ (st.info (.network n)).distance at le
          have smaller := @joinVertex_distance area w st
            ((st.info st.justAddedVertex).distance + c) onTree
          rw [if_pos candidate, dist] at smaller
          have old : (st.info w).distance = (st.info (.network n)).distance :=
            le.antisymm (smaller ▸ min_le_left _ _)
          rcases s.inherited n w 0 nMem before apart with earlier | subset
          · exact absurd (earlier.subset mem_cons_self) onTree
          · exact List.Subset.trans (subset old) (nextHops_subset candidate (old.trans dist.symm).le)
        · rw [joinVertex_info_of_ne same]
          exact s.inherited n w d nMem before apart
      · right
        intro dist
        obtain ⟨rfl, -⟩ := (just ▸ edge).cost_eq_zero
        have atCost : ((area.joinVertex st ((st.info st.justAddedVertex).distance + 0) w).info
            w).distance = (st.info st.justAddedVertex).distance + 0 := by
          rw [dist, just]
          rfl
        have new := calculateNextHops_subset onTree atCost
        have parent : (st.info (.network n)).parent ≠ some area.root := by
          intro isRoot
          obtain ⟨d, attached⟩ := (s.parent n (.inl nMem)).mp isRoot
          exact apart d attached
        have inherits : area.calculateNextHops st.info w (.network n) =
            (st.info (.network n)).nextHops := if_pos parent
        rw [← just, inherits] at new
        rw [← just]
        exact new

lemma HopState.processVertex (plain : PlainInterfaces area) (direct : HopsDirect area)
    (searchState : SearchState area st)
    (s : HopState area (fun u v c => u ≠ st.justAddedVertex ∧ area.Edge u v c) st) :
    HopState area area.Edge (area.processVertex st) := by
  have processed := (searchState.processVertex_induction (P := fun done before =>
    HopState area (Looked area st.justAddedVertex done) before) ?_ ?_).2
  · rw [looked_edgesFrom] at processed
    exact processed
  · rw [looked_nil]
    exact s
  · intro done v c before holds just tree search edges edge
    rw [looked_append, ← just]
    rw [← just] at holds search edges edge
    exact holds.joinEdge plain direct search (fun _ _ _ ne edge => .inl ⟨ne, edge⟩) edges edge

/-! ## Rounds -/

lemma known_addVertex {closest : OSPFLSA} (candidate : closest ∈ st.candidateVertices) :
    Known (area.addVertex st closest) w ↔ Known st w := by
  dsimp only [Known, Area.addVertex]
  rw [mem_append, mem_singleton]
  constructor
  · rintro ((onTree | rfl) | other)
    · exact .inl onTree
    · exact .inr candidate
    · exact .inr (mem_of_mem_erase other)
  · rintro (onTree | other)
    · exact .inl (.inl onTree)
    · by_cases same : w = closest
      · exact .inl (.inr same)
      · exact .inr ((mem_erase_of_ne same).mpr other)

/-- The vertex added is the next whose edges are looked at. -/
lemma HopState.addVertex {closest : OSPFLSA} (s : HopState area area.Edge st)
    (candidate : closest ∈ st.candidateVertices) :
    HopState area (fun u v c => u ≠ closest ∧ area.Edge u v c) (area.addVertex st closest) where
  first := by
    obtain ⟨others, tree⟩ := s.first
    refine ⟨others ++ [closest], ?_⟩
    dsimp only [Area.addVertex]
    rw [tree, cons_append]
  last := ⟨st.treeVertices, rfl⟩
  fresh v unknown := s.fresh v fun known => unknown ((known_addVertex candidate).mpr known)
  root_hops := s.root_hops
  parent n known := s.parent n ((known_addVertex candidate).mp known)
  sound v ne known := s.sound v ne ((known_addVertex candidate).mp known)
  inherited := by
    rintro n v c nMem ⟨ne, edge⟩ apart
    have onTree : .network n ∈ st.treeVertices := by
      rcases mem_append.mp nMem with onTree | new
      · exact onTree
      · exact absurd (mem_singleton.mp new) ne
    rcases s.inherited n v c onTree edge apart with earlier | subset
    · exact .inl (earlier.trans (sublist_append_left _ _))
    · exact .inr subset

lemma hopState_initialSpf (info : OSPFLSA → RoutingInfo) (table : List RoutingTableEntry) :
    HopState area (fun u v c => u ≠ area.root ∧ area.Edge u v c) (area.initialSpf info table) where
  first := ⟨[], rfl⟩
  last := ⟨[], rfl⟩
  fresh := by
    intro v unknown
    have ne : v ≠ area.root := by
      rintro rfl
      exact unknown (.inl (mem_singleton_self _))
    dsimp only [initialSpf]
    rw [update_of_ne ne]
  root_hops := by
    dsimp only [initialSpf]
    rw [update_self]
  parent := by
    rintro n (known | known)
    · cases mem_singleton.mp known
    · cases known
  sound := by
    rintro v ne (known | known)
    · exact absurd (mem_singleton.mp known) ne
    · cases known
  inherited := by
    rintro n v c mem - -
    cases mem_singleton.mp mem

lemma HopState.of_rounds (plain : PlainInterfaces area) (direct : HopsDirect area)
    (finite : CostsFinite area) (searchState : SearchState area st)
    (s : HopState area (fun u v c => u ≠ st.justAddedVertex ∧ area.Edge u v c) st)
    (rounds : Relation.ReflTransGen (Round area) st st') :
    HopState area (fun u v c => u ≠ st'.justAddedVertex ∧ area.Edge u v c) st' := by
  induction rounds with
  | refl => exact s
  | @tail mid _ before round ih =>
    have midState := searchState.of_rounds finite before
    cases round with
    | intro chosen =>
      have processed := ih.processVertex plain direct midState
      exact processed.addVertex (midState.nearest finite chosen).1

lemma not_sublist_swap {α : Type} {xs : List α} {a b : α} (nodup : xs.Nodup)
    (sub : [a, b].Sublist xs) : ¬ [b, a].Sublist xs := by
  induction xs with
  | nil => cases sub
  | cons x xs ih =>
    obtain ⟨notMem, rest⟩ := nodup_cons.mp nodup
    rw [cons_sublist_cons', singleton_sublist] at sub ⊢
    rintro (later | ⟨rfl, aMem⟩)
    · rcases sub with earlier | ⟨rfl, -⟩
      · exact ih rest earlier later
      · exact notMem (later.subset (by simp))
    · rcases sub with earlier | ⟨rfl, -⟩
      · exact notMem (earlier.subset (by simp))
      · exact notMem aMem

/-- Under the condition `HopsDirect`, every next hop stored with a router is the first hop of a
shortest path to it, and a router behind a network inherits the network's next hops unless the root
reaches that at least cost over a link of its own. -/
theorem nextHops_of_calculateShortestPathTree (plain : PlainInterfaces area)
    (finite : CostsFinite area) (direct : HopsDirect area) (info : OSPFLSA → RoutingInfo)
    (table : List RoutingTableEntry) (enough : area.vertices.length ≤ fuel) :
    ∃ result, area.calculateShortestPathTree fuel info table = some result ∧
      (∀ v : RouterLSA, .router v ∈ result.treeVertices → ∀ h ∈ (result.info (.router v)).nextHops,
          FirstHop area h (.router v) (result.info (.router v)).distance ∧
          area.Distance (.router v) (result.info (.router v)).distance) ∧
      ∀ (n : NetworkLSA) (v : RouterLSA), area.Edge (.network n) (.router v) 0 →
        [.network n, .router v].Sublist result.treeVertices →
        (result.info (.router v)).distance = (result.info (.network n)).distance →
        ¬ area.Edge area.root (.network n) (result.info (.network n)).distance →
        (result.info (.network n)).nextHops ⊆ (result.info (.router v)).nextHops := by
  obtain ⟨last, rounds, lastState, ok, -⟩ := calculateShortestPathTree_last finite info table enough
  have search := lastState.processVertex
  have s := (hopState_initialSpf info table).of_rounds plain direct finite
    (searchState_initialSpf info table) rounds
  have processed := s.processVertex plain direct lastState
  refine ⟨_, ok, ?_, ?_⟩
  · intro v mem h hMem
    have exactDist := search.exact _ mem
    refine ⟨?_, exactDist⟩
    by_cases isRoot : .router v = area.root
    · change h ∈ ((area.processVertex last).info (.router v)).nextHops at hMem
      rw [isRoot, processed.root_hops] at hMem
      cases hMem
    · rcases processed.sound _ isRoot (.inl mem) exactDist h hMem with first | ⟨n, -, eq, -⟩
      · exact first
      · cases eq
  · intro n v edge order sameDist notDirect
    have nMem : .network n ∈ (area.processVertex last).treeVertices := order.subset mem_cons_self
    have vMem : .router v ∈ (area.processVertex last).treeVertices := order.subset (by simp)
    have nodup := (@processVertex_frame area last).2.1 ▸ lastState.tree_nodup
    have later := not_sublist_swap nodup order
    have notRoot : .router v ≠ area.root := by
      obtain ⟨others, tree⟩ := processed.first
      intro isRoot
      apply later
      rw [tree, isRoot]
      rw [tree] at nMem
      refine (singleton_sublist.mpr ?_).cons_cons area.root
      exact (mem_cons.mp nMem).resolve_left nofun
    have apart : ∀ c, ¬ area.Edge area.root (.network n) c := by
      intro c attached
      have vDist := search.exact _ vMem
      have nDist := search.exact _ nMem
      change area.Distance (.router v) ((area.processVertex last).info (.router v)).distance at vDist
      change ((area.processVertex last).info (.router v)).distance = _ at sameDist
      rw [sameDist] at vDist
      exact notDirect (direct.network n v c _ attached edge notRoot nDist vDist)
    exact (processed.inherited n _ 0 nMem edge apart).resolve_left later sameDist

end

end Area

/-! ## A network cheaper through another router -/

namespace TwoWays

open Area

def options : OSPFOptions := ⟨false, false, false, false, false⟩

/-- The root, with a point-to-point link to one router and a transit link to the network. -/
def rootLSA (transitCost : ℕ) : RouterLSA :=
  ⟨⟨0, options, 1, 1⟩, false, false, [⟨2, 0x0A000101, .POINTTOPOINT_LINK, 1⟩,
    ⟨0x0A000003, 0x0A000001, .TRANSIT_LINK, transitCost⟩]⟩

def nearLSA : RouterLSA :=
  ⟨⟨0, options, 2, 2⟩, false, false, [⟨1, 0x0A000102, .POINTTOPOINT_LINK, 1⟩,
    ⟨0x0A000003, 0x0A000002, .TRANSIT_LINK, 1⟩]⟩

/-- The designated router of the network, with no other link. -/
def farLSA : RouterLSA :=
  ⟨⟨0, options, 3, 3⟩, false, false, [⟨0x0A000003, 0x0A000003, .TRANSIT_LINK, 1⟩]⟩

def networkLSA : NetworkLSA := ⟨⟨0, options, 0x0A000003, 3⟩, 0xFFFFFF00, [1, 2, 3]⟩

def pointToPoint : Interface :=
  ⟨.POINTTOPOINT, .POINTTOPOINT_STATE, 1, ⟨0x0A000101, 0xFFFFFF00⟩, [⟨2, 0x0A000102⟩], 0, 1⟩

def broadcast (transitCost : ℕ) : Interface :=
  ⟨.BROADCAST, .NOT_DESIGNATED_ROUTER_STATE, 2, ⟨0x0A000001, 0xFFFFFF00⟩,
    [⟨2, 0x0A000002⟩, ⟨3, 0x0A000003⟩], 0x0A000003, transitCost⟩

def area (transitCost : ℕ) : Area where
  areaID := 0
  routerID := 1
  routerLSAs := [rootLSA transitCost, nearLSA, farLSA]
  networkLSAs := [networkLSA]
  spfTreeRoot := rootLSA transitCost
  associatedInterfaces := [pointToPoint, broadcast transitCost]
  hostRoutes := []
  routerIDs := by
    change [(1 : LinkStateID), 2, 3].Nodup
    decide
  networkIDs := by decide
  root_mem := List.mem_cons_self

def info : OSPFLSA → RoutingInfo := fun _ => ⟨[], 0, none⟩

variable (transitCost : ℕ)

lemma plainInterfaces : PlainInterfaces (area transitCost) := by
  intro intf mem
  simp only [area, mem_cons, not_mem_nil, or_false] at mem
  rcases mem with rfl | rfl
  · exact .inl rfl
  · exact .inr rfl

lemma hasLinks : ∀ intf ∈ (area transitCost).associatedInterfaces,
    ∃ link ∈ (rootLSA transitCost).links, IsLinkOf link intf := by
  intro intf mem
  simp only [area, mem_cons, not_mem_nil, or_false] at mem
  rcases mem with rfl | rfl
  · exact ⟨_, mem_cons_self, rfl, rfl, ⟨_, rfl, rfl⟩, rfl⟩
  · exact ⟨_, mem_cons_of_mem _ mem_cons_self, rfl, rfl, rfl, rfl⟩

lemma edgesFrom_root :
    (area transitCost).edgesFrom (area transitCost).root =
      [(.router nearLSA, 1), (.network networkLSA, transitCost)] := rfl

lemma path_network :
    Path (area transitCost).Edge (area transitCost).root (.network networkLSA) (0 + 1 + 1) := by
  have toNear : Path (area transitCost).Edge (area transitCost).root (.router nearLSA) (0 + 1) :=
    .step .root (mem_edgesFrom.mp mem_cons_self)
  apply toNear.step
  apply mem_edgesFrom.mp
  exact mem_cons_of_mem _ mem_cons_self

lemma path_far :
    Path (area transitCost).Edge (area transitCost).root (.router farLSA) (0 + 1 + 1 + 0) := by
  apply (path_network transitCost).step
  apply mem_edgesFrom.mp
  exact mem_cons_of_mem _ (mem_cons_of_mem _ mem_cons_self)

lemma transitCost_le {transitCost : ℕ} {h : NextHop} {v : OSPFLSA} {d : ℕ}
    (first : FirstHop (area transitCost) h v d) (broadcasts : h.ifIndex = 2) : transitCost ≤ d := by
  have ofInterface : ∀ {link : Link} {intf : Interface},
      intf ∈ (area transitCost).associatedInterfaces → IsLinkOf link intf → intf.ifIndex = 2 →
      transitCost ≤ link.linkCost := by
    intro link intf mem isLink index
    simp only [area, mem_cons, not_mem_nil, or_false] at mem
    rcases mem with rfl | rfl
    · cases index
    · exact isLink.1.ge
  induction first with
  | pointToPoint _ _ _ mem isLink _ => exact ofInterface mem isLink broadcasts
  | transit _ _ _ _ mem isLink _ => exact ofInterface mem isLink broadcasts
  | step _ _ ih => exact (ih broadcasts).trans (Nat.le_add_right _ _)

/-- The network and the router behind it are reached at cost 2 through the other router, and yet the
root's next hop to the router is on its own interface to the network. -/
theorem nextHops_directly_attached :
    PlainInterfaces (area 10) ∧
      (∀ intf ∈ (area 10).associatedInterfaces, ∃ link ∈ (rootLSA 10).links, IsLinkOf link intf) ∧
      ∃ result, (area 10).calculateShortestPathTree 4 info [] = some result ∧
        .router farLSA ∈ result.treeVertices ∧
        ⟨2, 0x0A000003, 3⟩ ∈ (result.info (.router farLSA)).nextHops ∧
        ∀ d, (area 10).Distance (.router farLSA) d →
          ¬ FirstHop (area 10) ⟨2, 0x0A000003, 3⟩ (.router farLSA) d := by
  have evaluated : ((area 10).calculateShortestPathTree 4 info []).map (fun result =>
      (result.treeVertices, (result.info (.router farLSA)).nextHops)) =
        some ([.router (rootLSA 10), .router nearLSA, .network networkLSA, .router farLSA],
          [⟨2, 0x0A000003, 3⟩]) := by decide
  obtain ⟨result, ok, values⟩ := Option.map_eq_some_iff.mp evaluated
  obtain ⟨tree, hops⟩ := Prod.mk.inj values
  refine ⟨plainInterfaces 10, hasLinks 10, result, ok, ?_, ?_, ?_⟩
  · rw [tree]
    simp
  · rw [hops]
    exact mem_cons_self
  · intro d distance first
    have atMost := distance.least _ (path_far 10)
    have atLeast := transitCost_le first rfl
    omega

lemma costsFinite : CostsFinite (area 1) := by
  intro v d path
  have mem : v ∈ (area 1).vertices := by
    refine path.mem_of_closed (area 1).root_mem_vertices ?_
    intro u _ w c edge
    exact edge.mem_vertices
  simp only [vertices, area, map_cons, map_nil, cons_append, nil_append,
    mem_cons, not_mem_nil, or_false] at mem
  rcases mem with rfl | rfl | rfl | rfl
  · exact ⟨0, by decide, .root⟩
  · exact ⟨0 + 1, by decide, .step .root (mem_edgesFrom.mp mem_cons_self)⟩
  · exact ⟨_, by decide, path_far 1⟩
  · exact ⟨_, by decide, path_network 1⟩

lemma distance_network : (area 1).Distance (.network networkLSA) 1 := by
  obtain ⟨result, ok, -, -, distances⟩ :=
    @calculateShortestPathTree_exact (area 1) 4 costsFinite info [] (by decide)
  have evaluated : ((area 1).calculateShortestPathTree 4 info []).map (fun result =>
      (result.treeVertices, (result.info (.network networkLSA)).distance)) =
        some ([.router (rootLSA 1), .network networkLSA, .router nearLSA, .router farLSA], 1) := by
    decide
  rw [ok] at evaluated
  obtain ⟨tree, distance⟩ := Prod.mk.inj (Option.some.inj evaluated)
  have isDistance := distances (.network networkLSA) (by simp [tree])
  rwa [distance] at isDistance

lemma hopsDirect : HopsDirect (area 1) where
  router := by
    intro v c intf edge _ first
    have mem := mem_edgesFrom.mpr edge
    rw [edgesFrom_root] at mem
    simp only [mem_cons, Prod.mk.injEq, OSPFLSA.router.injEq, not_mem_nil, or_false,
      reduceCtorEq, false_and] at mem
    obtain ⟨rfl, rfl⟩ := mem
    have isPointToPoint : intf = pointToPoint := Option.some.inj (first.symm.trans rfl)
    subst isPointToPoint
    exact ⟨_, mem_cons_self, rfl, ⟨rfl, rfl, ⟨_, rfl, rfl⟩, rfl⟩, rfl⟩
  network := by
    intro n v c d edge _ _ distance _
    have mem := mem_edgesFrom.mpr edge
    rw [edgesFrom_root] at mem
    simp only [mem_cons, Prod.mk.injEq, OSPFLSA.network.injEq, not_mem_nil, or_false,
      reduceCtorEq, false_and, false_or] at mem
    obtain ⟨rfl, rfl⟩ := mem
    rw [distance.unique distance_network]
    exact edge
  attached := by
    intro n v intf neighbor d edge _ _ _ _ mem multiAccess _ _
    have edgeMem := mem_edgesFrom.mpr edge
    rw [edgesFrom_root] at edgeMem
    simp only [mem_cons, Prod.mk.injEq, OSPFLSA.network.injEq, not_mem_nil, or_false,
      reduceCtorEq, false_and, false_or] at edgeMem
    obtain ⟨rfl, rfl⟩ := edgeMem
    simp only [area, mem_cons, not_mem_nil, or_false] at mem
    rcases mem with rfl | rfl
    · cases multiAccess
    · exact ⟨_, mem_cons_of_mem _ mem_cons_self, rfl, ⟨rfl, rfl, rfl, rfl⟩, rfl⟩

theorem nextHops_of_calculateShortestPathTree_transit :
    ∃ result, (area 1).calculateShortestPathTree 4 info [] = some result ∧
      (∀ v : RouterLSA, .router v ∈ result.treeVertices → ∀ h ∈ (result.info (.router v)).nextHops,
          FirstHop (area 1) h (.router v) (result.info (.router v)).distance ∧
          (area 1).Distance (.router v) (result.info (.router v)).distance) ∧
      ∀ (n : NetworkLSA) (v : RouterLSA), (area 1).Edge (.network n) (.router v) 0 →
        [.network n, .router v].Sublist result.treeVertices →
        (result.info (.router v)).distance = (result.info (.network n)).distance →
        ¬ (area 1).Edge (area 1).root (.network n) (result.info (.network n)).distance →
        (result.info (.network n)).nextHops ⊆ (result.info (.router v)).nextHops :=
  nextHops_of_calculateShortestPathTree (plainInterfaces 1) costsFinite hopsDirect info []
    (by decide)

end TwoWays

end Inet.Ospf
