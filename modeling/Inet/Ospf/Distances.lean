import Inet.Lib.ShortestPath
import Inet.Ospf.ShortestPathTree

/-!
# Shortest path distances

`Linked`: the links that count are in the LSAs of both end points, and the LSA that is joined is not
at maximum age. One round of the loop is a step of a search. What a router's LSA must have for its
link to a network is a parameter: the back link check takes a stub link for one (`attaches`).
-/

namespace Inet.Ospf

open List

namespace Area

variable (area : Area)

/-- The links that count. `back` says which links of a router's LSA answer to a network that lists
the router. -/
inductive Linked (back : Link → NetworkLSA → Bool) : OSPFLSA → OSPFLSA → ℕ → Prop
  | routerToRouter {u v : RouterLSA} {link : Link} :
    link ∈ u.links → link.isToRouter v.header.linkStateID = true →
    v ∈ area.routerLSAs → v.header.lsAge ≠ MAX_AGE →
    (∃ reverse ∈ v.links, reverse.isToRouter u.header.linkStateID = true) →
    Linked back (.router u) (.router v) link.linkCost
  | routerToNetwork {u : RouterLSA} {n : NetworkLSA} {link : Link} :
    link ∈ u.links → link.isTransitTo n = true →
    n ∈ area.networkLSAs → n.header.lsAge ≠ MAX_AGE → u.header.linkStateID ∈ n.attachedRouters →
    Linked back (.router u) (.network n) link.linkCost
  | networkToRouter {n : NetworkLSA} {v : RouterLSA} :
    v.header.linkStateID ∈ n.attachedRouters →
    v ∈ area.routerLSAs → v.header.lsAge ≠ MAX_AGE → (∃ reverse ∈ v.links, back reverse n = true) →
    Linked back (.network n) (.router v) 0

/-- A link that makes the router count as attached to the network: a transit link to it, or a stub
link with the network's address. -/
def attaches (link : Link) (network : NetworkLSA) : Bool :=
  link.isTransitTo network || link.isStubOf network

/-- The links that the calculation follows. -/
abbrev Edge : OSPFLSA → OSPFLSA → ℕ → Prop := area.Linked attaches

/-- Path costs stay below infinity: every vertex that is reached at all is reached at such a cost. -/
def CostsFinite : Prop :=
  ∀ v d, Path area.Edge area.root v d → ∃ d' < LS_INFINITY, Path area.Edge area.root v d'

section

variable {area} {u v w : OSPFLSA} {st st' result : Spf} {fuel c cost : ℕ}

/-- The vertices of the database. -/
def vertices (area : Area) : List OSPFLSA :=
  area.routerLSAs.map .router ++ area.networkLSAs.map .network

lemma find?_linkStateID {α : Type} {lsas : List α} {id : α → LinkStateID}
    (nodup : (lsas.map id).Nodup) {key : LinkStateID} {lsa : α} :
    lsas.find? (fun x => id x = key) = some lsa ↔ lsa ∈ lsas ∧ id lsa = key := by
  constructor
  · intro found
    exact ⟨mem_of_find?_eq_some found, by simpa using find?_some found⟩
  · rintro ⟨mem, rfl⟩
    induction lsas with
    | nil => cases mem
    | cons first lsas ih =>
      rw [map_cons, nodup_cons] at nodup
      rcases mem_cons.mp mem with rfl | mem
      · exact find?_cons_of_pos (by simp)
      · have ne : id first ≠ id lsa := by
          intro eq
          exact nodup.1 (eq ▸ mem_map_of_mem mem)
        rw [find?_cons_of_neg (by simpa using ne)]
        exact ih nodup.2 mem

lemma findRouterLSA_iff {id : LinkStateID} {lsa : RouterLSA} :
    area.findRouterLSA id = some lsa ↔ lsa ∈ area.routerLSAs ∧ lsa.header.linkStateID = id :=
  find?_linkStateID area.routerIDs

lemma findNetworkLSA_iff {id : LinkStateID} {lsa : NetworkLSA} :
    area.findNetworkLSA id = some lsa ↔ lsa ∈ area.networkLSAs ∧ lsa.header.linkStateID = id :=
  find?_linkStateID area.networkIDs

/-! ## The edges of a vertex -/

/-- The vertices that a vertex joins, with the costs, in the order in which they are looked at. -/
def edgesFrom (area : Area) (u : OSPFLSA) : List (OSPFLSA × ℕ) :=
  match u with
  | .router routerVertex => routerVertex.links.filterMap fun link =>
      ((area.joiningVertex link).filter fun v => isUsable v u).map fun v => (v, link.linkCost)
  | .network networkVertex => networkVertex.attachedRouters.filterMap fun attachedRouter =>
      ((area.findRouterLSA attachedRouter).filter fun v => isUsable (.router v) u).map fun v =>
        (.router v, 0)

lemma mem_edgesFrom : (v, c) ∈ area.edgesFrom u ↔ area.Edge u v c := by
  cases u with
  | router routerVertex =>
    simp only [edgesFrom, mem_filterMap, Option.map_eq_some_iff, Option.filter_eq_some_iff,
      isUsable, Bool.and_eq_true, decide_eq_true_eq, Prod.mk.injEq]
    constructor
    · rintro ⟨link, mem, w, ⟨joins, age, back⟩, rfl, rfl⟩
      rw [joiningVertex] at joins
      split at joins
      · cases joins
      · rename_i transit
        obtain ⟨n, found, rfl⟩ := Option.map_eq_some_iff.mp joins
        obtain ⟨inDatabase, id⟩ := findNetworkLSA_iff.mp found
        refine .routerToNetwork mem ?_ inDatabase age (by simpa [hasLink] using back)
        rw [Link.isTransitTo, transit, id]
        simp
      · rename_i notStub notTransit
        obtain ⟨r, found, rfl⟩ := Option.map_eq_some_iff.mp joins
        obtain ⟨inDatabase, id⟩ := findRouterLSA_iff.mp found
        refine .routerToRouter mem ?_ inDatabase age (by simpa [hasLink] using back)
        rw [Link.isToRouter, id]
        cases type : link.type <;> simp_all
    · intro edge
      cases edge with
      | @routerToRouter u' v link mem toRouter inDatabase age back =>
        rw [Link.isToRouter, Bool.and_eq_true, decide_eq_true_eq] at toRouter
        refine ⟨link, mem, .router v, ⟨?_, age, by simpa [hasLink] using back⟩, rfl, rfl⟩
        rw [joiningVertex]
        have found := findRouterLSA_iff.mpr ⟨inDatabase, toRouter.2.symm⟩
        split
        · simp_all
        · simp_all
        · rw [found]
          rfl
      | @routerToNetwork u' n link mem transit inDatabase age back =>
        rw [Link.isTransitTo, Bool.and_eq_true, decide_eq_true_eq, decide_eq_true_eq] at transit
        refine ⟨link, mem, .network n, ⟨?_, age, by simpa [hasLink] using back⟩, rfl, rfl⟩
        rw [joiningVertex, transit.1]
        rw [findNetworkLSA_iff.mpr ⟨inDatabase, transit.2.symm⟩]
        rfl
  | network networkVertex =>
    simp only [edgesFrom, mem_filterMap, Option.map_eq_some_iff, Option.filter_eq_some_iff,
      isUsable, Bool.and_eq_true, decide_eq_true_eq, Prod.mk.injEq]
    constructor
    · rintro ⟨id, attached, r, ⟨found, age, back⟩, rfl, rfl⟩
      obtain ⟨inDatabase, rfl⟩ := findRouterLSA_iff.mp found
      exact .networkToRouter attached inDatabase age (by simpa [hasLink, attaches] using back)
    · intro edge
      cases edge with
      | @networkToRouter n v attached inDatabase age back =>
        exact ⟨_, attached, v, ⟨findRouterLSA_iff.mpr ⟨inDatabase, rfl⟩, age,
          by simpa [hasLink, attaches] using back⟩, rfl, rfl⟩

lemma Edge.mem_vertices (edge : area.Edge u v c) : v ∈ area.vertices := by
  cases edge with
  | routerToRouter _ _ inDatabase _ _ | networkToRouter _ inDatabase _ _ =>
    exact mem_append_left _ (mem_map_of_mem inDatabase)
  | routerToNetwork _ _ inDatabase _ _ =>
    exact mem_append_right _ (mem_map_of_mem inDatabase)

/-- The vertex just added joins another one at its distance plus the cost. -/
def joinEdge (area : Area) (st : Spf) (edge : OSPFLSA × ℕ) : Spf :=
  area.joinVertex st ((st.info st.justAddedVertex).distance + edge.2) edge.1

lemma joinVertex_justAddedVertex : (area.joinVertex st cost v).justAddedVertex = st.justAddedVertex := by
  rw [joinVertex]
  split_ifs <;> rfl

lemma joinVertex_treeVertices : (area.joinVertex st cost v).treeVertices = st.treeVertices := by
  rw [joinVertex]
  split_ifs <;> rfl

lemma joinVertex_newRoutingTable :
    (area.joinVertex st cost v).newRoutingTable = st.newRoutingTable := by
  rw [joinVertex]
  split_ifs <;> rfl

lemma processVertex_eq (st : Spf) :
    area.processVertex st = (area.edgesFrom st.justAddedVertex).foldl area.joinEdge st := by
  rw [processVertex]
  cases here : st.justAddedVertex with
  | router routerVertex =>
    rw [edgesFrom, foldl_filterMap]
    dsimp only
    generalize routerVertex.links = links
    induction links generalizing st with
    | nil => rfl
    | cons link links ih =>
      rw [foldl_cons, foldl_cons, processLink]
      cases joins : area.joiningVertex link with
      | none => exact ih st here
      | some v =>
        rw [here]
        by_cases usable : isUsable v (.router routerVertex) = true
        · simp only [usable, if_true, Option.filter_some, Option.map_some]
          rw [ih _ (joinVertex_justAddedVertex.trans here), joinEdge, here]
        · simp only [usable, Option.filter_some]
          exact ih st here
  | network networkVertex =>
    rw [edgesFrom, foldl_filterMap]
    dsimp only
    generalize networkVertex.attachedRouters = routers
    induction routers generalizing st with
    | nil => rfl
    | cons id routers ih =>
      rw [foldl_cons, foldl_cons, processAttachedRouter]
      cases joins : area.findRouterLSA id with
      | none => exact ih st here
      | some v =>
        rw [here]
        by_cases usable : isUsable (.router v) (.network networkVertex) = true
        · simp only [usable, if_true, Option.filter_some, Option.map_some]
          rw [ih _ (joinVertex_justAddedVertex.trans here), joinEdge, here]
          rfl
        · simp only [usable, Option.filter_some]
          exact ih st here

/-! ## One round -/

/-- The state as that of a search. -/
def labels (st : Spf) : Labels OSPFLSA where
  tree v := v ∈ st.treeVertices
  cand v := v ∈ st.candidateVertices
  dist v := (st.info v).distance

lemma joinVertex_candidateVertices : (area.joinVertex st cost v).candidateVertices =
    if v ∈ st.treeVertices ∨ v ∈ st.candidateVertices then st.candidateVertices
    else st.candidateVertices ++ [v] := by
  rw [joinVertex]
  by_cases onTree : v ∈ st.treeVertices
  · rw [if_pos onTree, if_pos (.inl onTree)]
  · by_cases candidate : v ∈ st.candidateVertices
    · have known : v ∈ st.treeVertices ∨ v ∈ st.candidateVertices := .inr candidate
      split_ifs <;> rfl
    · rw [if_neg onTree, if_neg candidate, if_neg (not_or.mpr ⟨onTree, candidate⟩)]

lemma mem_joinVertex_candidateVertices :
    w ∈ (area.joinVertex st cost v).candidateVertices ↔
      w ∈ st.candidateVertices ∨ (w = v ∧ v ∉ st.treeVertices) := by
  rw [joinVertex_candidateVertices]
  split_ifs with known
  · rw [iff_self_or]
    rintro ⟨rfl, notTree⟩
    exact known.resolve_left notTree
  · simp [(not_or.mp known).1]

lemma joinVertex_info_of_ne (ne : w ≠ v) : (area.joinVertex st cost v).info w = st.info w := by
  rw [joinVertex]
  split_ifs <;> dsimp only
  · rw [Function.update_of_ne ne]
  · rw [Function.update_of_ne ne]
  · rw [Function.update_of_ne ne]

lemma joinVertex_of_mem (onTree : v ∈ st.treeVertices) : area.joinVertex st cost v = st := by
  rw [joinVertex, if_pos onTree]

/-- The distance of a vertex that joins: the new cost if it is no candidate yet, else the smaller
one. -/
lemma joinVertex_distance (notTree : v ∉ st.treeVertices) :
    ((area.joinVertex st cost v).info v).distance =
      if v ∈ st.candidateVertices then min (st.info v).distance cost else cost := by
  rw [joinVertex, if_neg notTree]
  split_ifs with candidate more less
  · exact (min_eq_left more.le).symm
  · dsimp only
    rw [Function.update_self]
    exact (min_eq_right less.le).symm
  · dsimp only
    rw [Function.update_self]
    exact (min_eq_left (not_lt.mp less)).symm
  · dsimp only
    rw [Function.update_self]

variable {relaxed : OSPFLSA → OSPFLSA → ℕ → Prop}

lemma Search.joinEdge (search : Search area.Edge area.root relaxed (labels st))
    (mem : st.justAddedVertex ∈ st.treeVertices) (edge : area.Edge st.justAddedVertex v c) :
    Search area.Edge area.root
      (fun x w d => relaxed x w d ∨ (x = st.justAddedVertex ∧ w = v ∧ d = c))
      (labels (area.joinEdge st (v, c))) := by
  rw [Area.joinEdge]
  refine Search.relax search mem edge ?_ ?_ ?_ ?_ ?_
  · intro w
    dsimp only [labels]
    rw [joinVertex_treeVertices]
  · intro w
    exact mem_joinVertex_candidateVertices
  · intro notTree
    dsimp only [labels]
    rw [joinVertex_distance notTree]
    split_ifs with candidate
    · rcases min_choice (st.info v).distance ((st.info st.justAddedVertex).distance + c) with
        old | new
      · exact .inr ⟨old, candidate⟩
      · exact .inl new
    · exact .inl rfl
  · intro notTree
    dsimp only [labels]
    rw [joinVertex_distance notTree]
    split_ifs with candidate
    · exact ⟨min_le_right _ _, fun _ => min_le_left _ _⟩
    · exact ⟨le_rfl, fun was => absurd was candidate⟩
  · rintro w (ne | onTree)
    · dsimp only [labels]
      rw [joinVertex_info_of_ne ne]
    · rw [joinVertex_of_mem onTree]

/-- What holds in front of each round: all edges have been looked at but those of the vertex just
added. -/
structure SearchState (area : Area) (st : Spf) : Prop where
  search : Search area.Edge area.root (fun u v c => u ≠ st.justAddedVertex ∧ area.Edge u v c)
    (labels st)
  just_mem : st.justAddedVertex ∈ st.treeVertices
  tree_nodup : st.treeVertices.Nodup
  cand_nodup : st.candidateVertices.Nodup
  tree_subset : st.treeVertices ⊆ area.vertices
  cand_subset : st.candidateVertices ⊆ area.vertices

/-- A fact about the state that each edge of the vertex just added keeps. -/
lemma processVertex_induction {P : List (OSPFLSA × ℕ) → Spf → Prop} (start : P [] st)
    (step : ∀ done edge before, P done before →
      before.justAddedVertex = st.justAddedVertex → before.treeVertices = st.treeVertices →
      edge ∈ area.edgesFrom st.justAddedVertex → P (done ++ [edge]) (area.joinEdge before edge)) :
    P (area.edgesFrom st.justAddedVertex) (area.processVertex st) := by
  rw [processVertex_eq]
  have general : ∀ rest done before, P done before →
      before.justAddedVertex = st.justAddedVertex → before.treeVertices = st.treeVertices →
      rest ⊆ area.edgesFrom st.justAddedVertex →
      P (done ++ rest) (rest.foldl area.joinEdge before) := by
    intro rest
    induction rest with
    | nil =>
      intro done before holds _ _ _
      rw [append_nil]
      exact holds
    | cons edge rest ih =>
      intro done before holds just tree subset
      have next := ih (done ++ [edge]) (area.joinEdge before edge)
        (step done edge before holds just tree (subset mem_cons_self))
        (joinVertex_justAddedVertex.trans just) (joinVertex_treeVertices.trans tree)
        fun e mem => subset (mem_cons_of_mem edge mem)
      rw [append_assoc, singleton_append] at next
      exact next
  exact general (area.edgesFrom st.justAddedVertex) [] st start rfl rfl (List.Subset.refl _)

lemma processVertex_frame :
    (area.processVertex st).justAddedVertex = st.justAddedVertex ∧
      (area.processVertex st).treeVertices = st.treeVertices ∧
      (area.processVertex st).newRoutingTable = st.newRoutingTable := by
  refine @processVertex_induction area st (fun _ before =>
    before.justAddedVertex = st.justAddedVertex ∧ before.treeVertices = st.treeVertices ∧
      before.newRoutingTable = st.newRoutingTable) ⟨rfl, rfl, rfl⟩ ?_
  rintro done edge before ⟨-, -, t⟩ just tree -
  exact ⟨joinVertex_justAddedVertex.trans just, joinVertex_treeVertices.trans tree,
    joinVertex_newRoutingTable.trans t⟩

/-- The edges looked at when those in `done` of the vertex just added have been. -/
def Looked (area : Area) (just : OSPFLSA) (done : List (OSPFLSA × ℕ)) (u v : OSPFLSA) (c : ℕ) : Prop :=
  (u ≠ just ∧ area.Edge u v c) ∨ (u = just ∧ (v, c) ∈ done)

lemma looked_nil {just : OSPFLSA} :
    Looked area just [] = fun u v c => u ≠ just ∧ area.Edge u v c := by
  funext u v c
  simp [Looked]

lemma looked_append {just : OSPFLSA} {done : List (OSPFLSA × ℕ)} :
    Looked area just (done ++ [(v, c)]) =
      fun x w d => Looked area just done x w d ∨ (x = just ∧ w = v ∧ d = c) := by
  funext x w d
  simp only [Looked, mem_append, mem_singleton, Prod.mk.injEq, and_or_left, or_assoc]

lemma looked_edgesFrom {just : OSPFLSA} : Looked area just (area.edgesFrom just) = area.Edge := by
  funext u v c
  rw [Looked, eq_iff_iff, mem_edgesFrom]
  by_cases same : u = just
  · simp [same]
  · simp [same]

variable (s : SearchState area st)
include s

/-- The search goes on edge by edge, and with it whatever else each edge keeps. -/
lemma SearchState.processVertex_induction {P : List (OSPFLSA × ℕ) → Spf → Prop} (start : P [] st)
    (step : ∀ done v c before, P done before →
      before.justAddedVertex = st.justAddedVertex → before.treeVertices = st.treeVertices →
      Search area.Edge area.root (Looked area st.justAddedVertex done) (labels before) →
      (∀ u v c, Looked area st.justAddedVertex done u v c → area.Edge u v c) →
      area.Edge st.justAddedVertex v c → P (done ++ [(v, c)]) (area.joinEdge before (v, c))) :
    Search area.Edge area.root area.Edge (labels (area.processVertex st)) ∧
      P (area.edgesFrom st.justAddedVertex) (area.processVertex st) := by
  have processed := @Area.processVertex_induction area st (fun done before =>
    Search area.Edge area.root (Looked area st.justAddedVertex done) (labels before) ∧
      P done before ∧ done ⊆ area.edgesFrom st.justAddedVertex)
    ⟨by rw [looked_nil]; exact s.search, start, nil_subset _⟩ ?_
  · rw [looked_edgesFrom] at processed
    exact ⟨processed.1, processed.2.1⟩
  · rintro done ⟨v, c⟩ before ⟨search, holds, subset⟩ just tree mem
    have edge := mem_edgesFrom.mp mem
    have edges : ∀ u v c, Looked area st.justAddedVertex done u v c → area.Edge u v c := by
      rintro u v c (⟨-, edge⟩ | ⟨rfl, mem⟩)
      · exact edge
      · exact mem_edgesFrom.mp (subset mem)
    refine ⟨?_, step done v c before holds just tree search edges edge,
      append_subset.mpr ⟨subset, cons_subset.mpr ⟨mem, nil_subset _⟩⟩⟩
    rw [looked_append, ← just]
    rw [← just] at search edge
    refine Search.joinEdge search ?_ edge
    rw [just, tree]
    exact s.just_mem

/-- After a round all edges of the tree have been looked at. -/
lemma SearchState.processVertex :
    Search area.Edge area.root area.Edge (labels (area.processVertex st)) :=
  (s.processVertex_induction (P := fun _ _ => True) trivial fun _ _ _ _ _ _ _ _ _ _ => trivial).1

lemma SearchState.candidates :
    (area.processVertex st).candidateVertices.Nodup ∧
      (area.processVertex st).candidateVertices ⊆ area.vertices := by
  refine @Area.processVertex_induction area st (fun _ before =>
    before.candidateVertices.Nodup ∧ before.candidateVertices ⊆ area.vertices)
    ⟨s.cand_nodup, s.cand_subset⟩ ?_
  rintro done ⟨v, c⟩ before ⟨nodup, subset⟩ - - mem
  constructor
  · rw [joinEdge, joinVertex_candidateVertices]
    split_ifs with known
    · exact nodup
    · refine List.Nodup.append nodup (nodup_singleton v) ?_
      intro w wMem eq
      rw [mem_singleton.mp eq] at wMem
      exact known (.inr wMem)
  · intro w wMem
    rcases mem_joinVertex_candidateVertices.mp wMem with was | ⟨rfl, -⟩
    · exact subset was
    · exact (mem_edgesFrom.mp mem).mem_vertices

variable {info : OSPFLSA → RoutingInfo} {candidates : List OSPFLSA} {closest : OSPFLSA}

omit s in
lemma foldl_closer {start : OSPFLSA × ℕ} (mem : start.1 ∈ candidates)
    (found : start.2 < LS_INFINITY → (info start.1).distance = start.2) (rest : List OSPFLSA)
    (subset : rest ⊆ candidates) :
    (rest.foldl (closer info) start).1 ∈ candidates ∧ (rest.foldl (closer info) start).2 ≤ start.2 ∧
      (∀ v ∈ rest, (rest.foldl (closer info) start).2 ≤ (info v).distance) ∧
      ((rest.foldl (closer info) start).2 < LS_INFINITY →
        (info (rest.foldl (closer info) start).1).distance = (rest.foldl (closer info) start).2) := by
  induction rest generalizing start with
  | nil => exact ⟨mem, le_rfl, nofun, found⟩
  | cons v rest ih =>
    have vMem := subset mem_cons_self
    have step : (closer info start v).1 ∈ candidates ∧ (closer info start v).2 ≤ start.2 ∧
        (closer info start v).2 ≤ (info v).distance ∧
        ((closer info start v).2 < LS_INFINITY →
          (info (closer info start v).1).distance = (closer info start v).2) := by
      rw [closer]
      split_ifs with less tie
      · exact ⟨vMem, less.le, le_rfl, fun _ => rfl⟩
      · exact ⟨vMem, le_rfl, tie.1.ge, fun _ => tie.1⟩
      · exact ⟨mem, le_rfl, not_lt.mp less, found⟩
    obtain ⟨nextMem, le, leV, nextFound⟩ := step
    obtain ⟨lastMem, lastLe, least, lastFound⟩ := ih nextMem nextFound
      fun w wMem => subset (mem_cons_of_mem v wMem)
    refine ⟨lastMem, lastLe.trans le, ?_, lastFound⟩
    intro w wMem
    rcases mem_cons.mp wMem with rfl | wMem
    · exact lastLe.trans leV
    · exact least w wMem

omit s in
lemma closestVertex_eq_none : closestVertex info candidates = none ↔ candidates = [] := by
  cases candidates with
  | nil => simp [closestVertex]
  | cons first candidates => simp [closestVertex]

omit s in
lemma closestVertex_some (some : closestVertex info candidates = some closest)
    (near : ∃ v ∈ candidates, (info v).distance < LS_INFINITY) :
    closest ∈ candidates ∧ ∀ v ∈ candidates, (info closest).distance ≤ (info v).distance := by
  cases candidates with
  | nil => cases some
  | cons first candidates =>
    obtain rfl := Option.some.inj some
    obtain ⟨mem, -, least, found⟩ := @foldl_closer info (first :: candidates) (first, LS_INFINITY)
      mem_cons_self (fun less => absurd less (lt_irrefl _)) (first :: candidates)
      (List.Subset.refl _)
    obtain ⟨v, vMem, less⟩ := near
    refine ⟨mem, ?_⟩
    rw [found ((least v vMem).trans_lt less)]
    exact least

lemma SearchState.near (finite : CostsFinite area)
    (candidate : v ∈ (area.processVertex st).candidateVertices) :
    ∃ w ∈ (area.processVertex st).candidateVertices,
      ((area.processVertex st).info w).distance < LS_INFINITY := by
  have search := s.processVertex
  obtain ⟨d, less, path⟩ := finite v _ (search.path v candidate)
  rcases search.frontier path with onTree | ⟨w, wCand, le⟩
  · exact absurd onTree (search.apart v candidate)
  · exact ⟨w, wCand, le.trans_lt less⟩

lemma SearchState.nearest (finite : CostsFinite area)
    (some : closestVertex (area.processVertex st).info (area.processVertex st).candidateVertices =
      some closest) :
    closest ∈ (area.processVertex st).candidateVertices ∧
      ∀ v ∈ (area.processVertex st).candidateVertices,
        ((area.processVertex st).info closest).distance ≤
          ((area.processVertex st).info v).distance := by
  have nonempty : ∃ v, v ∈ (area.processVertex st).candidateVertices := by
    apply exists_mem_of_ne_nil
    intro empty
    rw [closestVertex_eq_none.mpr empty] at some
    cases some
  obtain ⟨v, candidate⟩ := nonempty
  exact closestVertex_some some (s.near finite candidate)

lemma SearchState.addVertex (finite : CostsFinite area)
    (some : closestVertex (area.processVertex st).info (area.processVertex st).candidateVertices =
      some closest) : SearchState area (area.addVertex (area.processVertex st) closest) := by
  have search := s.processVertex
  obtain ⟨just, tree, -⟩ := @processVertex_frame area st
  obtain ⟨candNodup, candSubset⟩ := s.candidates
  obtain ⟨mem, nearest⟩ := s.nearest finite some
  constructor
  · refine Search.select search mem nearest ?_ ?_ (fun _ => rfl)
    · intro w
      dsimp only [labels, Area.addVertex]
      rw [mem_append, mem_singleton]
    · intro w
      dsimp only [labels, Area.addVertex]
      rw [candNodup.mem_erase_iff, and_comm]
  · exact mem_append_right _ (mem_singleton_self closest)
  · have notTree : closest ∉ (area.processVertex st).treeVertices := search.apart closest mem
    refine List.Nodup.append (tree ▸ s.tree_nodup) (nodup_singleton closest) ?_
    intro w wMem eq
    rw [mem_singleton.mp eq] at wMem
    exact notTree wMem
  · exact candNodup.erase closest
  · intro w wMem
    rcases mem_append.mp wMem with old | new
    · exact s.tree_subset (tree ▸ old)
    · rw [mem_singleton.mp new]
      exact candSubset mem
  · exact fun w wMem => candSubset (mem_of_mem_erase wMem)

omit s in
lemma root_mem_vertices (area : Area) : area.root ∈ area.vertices :=
  mem_append_left _ (mem_map_of_mem area.root_mem)

omit s in
lemma searchState_initialSpf (info : OSPFLSA → RoutingInfo) (t : List RoutingTableEntry) :
    SearchState area (area.initialSpf info t) where
  search := by
    refine Search.start (fun w => mem_singleton) nofun ?_
    dsimp only [labels, initialSpf]
    rw [Function.update_self]
  just_mem := mem_singleton_self _
  tree_nodup := nodup_singleton _
  cand_nodup := nodup_nil
  tree_subset := by
    intro w mem
    rw [mem_singleton.mp mem]
    exact area.root_mem_vertices
  cand_subset := nofun

/-- One round of the loop. -/
inductive Round (area : Area) : Spf → Spf → Prop
  | intro {st : Spf} {closest : OSPFLSA} :
    closestVertex (area.processVertex st).info (area.processVertex st).candidateVertices =
      some closest → Round area st (area.addVertex (area.processVertex st) closest)

omit s in
lemma spfLoop_eq_some (loop : area.spfLoop fuel st = some result) :
    ∃ last, Relation.ReflTransGen (Round area) st last ∧ result = area.processVertex last ∧
      result.candidateVertices = [] := by
  induction fuel generalizing st with
  | zero => cases loop
  | succ fuel ih =>
    rw [spfLoop] at loop
    split at loop
    · rename_i none
      cases loop
      exact ⟨st, .refl, rfl, closestVertex_eq_none.mp none⟩
    · rename_i closest some
      obtain ⟨last, rounds, same, empty⟩ := ih loop
      exact ⟨last, .head (.intro some) rounds, same, empty⟩

lemma SearchState.of_rounds (finite : CostsFinite area)
    (rounds : Relation.ReflTransGen (Round area) st st') : SearchState area st' := by
  induction rounds with
  | refl => exact s
  | tail _ round ih =>
    cases round with
    | intro some => exact ih.addVertex finite some

lemma spfLoop_terminates (finite : CostsFinite area)
    (enough : area.vertices.length < st.treeVertices.length + fuel) :
    ∃ result, area.spfLoop fuel st = some result := by
  induction fuel generalizing st with
  | zero =>
    have le := (subperm_of_subset s.tree_nodup s.tree_subset).length_le
    omega
  | succ fuel ih =>
    rw [spfLoop]
    split
    · exact ⟨_, rfl⟩
    · rename_i closest some
      apply ih (s.addVertex finite some)
      dsimp only [Area.addVertex]
      rw [(@processVertex_frame area st).2.1, length_append, length_singleton]
      omega

omit s

/-- With as many rounds as there are vertices the calculation ends: with the tree of a last round
that leaves no candidate, and the stub links added to the table. -/
lemma calculateShortestPathTree_last (finite : CostsFinite area)
    (info : OSPFLSA → RoutingInfo) (t : List RoutingTableEntry)
    (enough : area.vertices.length ≤ fuel) :
    ∃ last, Relation.ReflTransGen (Round area) (area.initialSpf info t) last ∧
      SearchState area last ∧
      area.calculateShortestPathTree fuel info t =
        some (area.addAllStubLinks (area.processVertex last)) ∧
      (area.processVertex last).candidateVertices = [] := by
  have s : SearchState area (area.initialSpf info t) := searchState_initialSpf info t
  obtain ⟨result, loop⟩ := @spfLoop_terminates area _ fuel s finite (by
    rw [initialSpf]
    dsimp only [length_singleton]
    omega)
  obtain ⟨last, rounds, rfl, empty⟩ := spfLoop_eq_some loop
  refine ⟨last, rounds, s.of_rounds finite rounds, ?_, empty⟩
  rw [calculateShortestPathTree, loop]
  rfl

/-- With as many rounds as there are vertices the calculation ends, and the tree holds exactly the
vertices reached over links that count, once each, with the least cost of a path from the root. -/
theorem calculateShortestPathTree_exact (finite : CostsFinite area) (info : OSPFLSA → RoutingInfo)
    (t : List RoutingTableEntry) (enough : area.vertices.length ≤ fuel) :
    ∃ result, area.calculateShortestPathTree fuel info t = some result ∧ result.treeVertices.Nodup ∧
      (∀ v, v ∈ result.treeVertices ↔ ∃ d, Path area.Edge area.root v d) ∧
      ∀ v ∈ result.treeVertices, IsDistance area.Edge area.root v (result.info v).distance := by
  obtain ⟨last, -, lastState, ok, empty⟩ := calculateShortestPathTree_last finite info t enough
  have search := lastState.processVertex
  refine ⟨_, ok, ?_, ?_, search.exact⟩
  · dsimp only [addAllStubLinks]
    rw [(@processVertex_frame area last).2.1]
    exact lastState.tree_nodup
  · intro v
    refine search.mem_tree_iff ?_
    intro w candidate
    change w ∈ (area.processVertex last).candidateVertices at candidate
    rw [empty] at candidate
    cases candidate

end

end Area

namespace StubOnly

open Area

def options : OSPFOptions := ⟨false, false, false, false, false⟩

/-- The root, with a transit link to the network. -/
def rootLSA : RouterLSA :=
  ⟨⟨0, options, 1, 1⟩, false, false, [⟨0x0A000001, 0x0A000001, .TRANSIT_LINK, 1⟩]⟩

/-- A network that lists both routers. -/
def networkLSA : NetworkLSA := ⟨⟨0, options, 0x0A000001, 1⟩, 0xFFFFFF00, [1, 2]⟩

/-- A router that has no transit link to the network, only a stub link with its address. -/
def routerLSA : RouterLSA :=
  ⟨⟨0, options, 2, 2⟩, false, false, [⟨0x0A000000, 0xFFFFFF00, .STUB_LINK, 1⟩]⟩

def area : Area where
  areaID := 0
  routerID := 1
  routerLSAs := [rootLSA, routerLSA]
  networkLSAs := [networkLSA]
  spfTreeRoot := rootLSA
  associatedInterfaces := []
  hostRoutes := []
  routerIDs := by decide
  networkIDs := by decide
  root_mem := by decide

def info : OSPFLSA → RoutingInfo := fun _ => ⟨[], 0, none⟩

lemma costsFinite : CostsFinite area := by
  intro v d path
  have mem : v ∈ area.vertices := by
    refine path.mem_of_closed area.root_mem_vertices ?_
    intro u _ w c edge
    exact edge.mem_vertices
  have toNetwork : Path area.Edge area.root (.network networkLSA) (0 + 1) :=
    .step .root (mem_edgesFrom.mp (by decide))
  have toRouter : Path area.Edge area.root (.router routerLSA) (0 + 1 + 0) :=
    .step toNetwork (mem_edgesFrom.mp (by decide))
  simp only [vertices, area, map_cons, map_nil, cons_append, nil_append,
    mem_cons, not_mem_nil, or_false] at mem
  rcases mem with rfl | rfl | rfl
  · exact ⟨0, by decide, .root⟩
  · exact ⟨_, by decide, toRouter⟩
  · exact ⟨_, by decide, toNetwork⟩

theorem calculateShortestPathTree_exact_stubOnly :
    ∃ result, area.calculateShortestPathTree 3 info [] = some result ∧ result.treeVertices.Nodup ∧
      (∀ v, v ∈ result.treeVertices ↔ ∃ d, Path area.Edge area.root v d) ∧
      ∀ v ∈ result.treeVertices, IsDistance area.Edge area.root v (result.info v).distance :=
  calculateShortestPathTree_exact costsFinite info [] (by decide)

/-- The router is put on the tree, although no path over links in both end points' LSAs leads to
it. -/
theorem calculateShortestPathTree_stubLink :
    (area.calculateShortestPathTree 3 info []).map Spf.treeVertices =
        some [.router rootLSA, .network networkLSA, .router routerLSA] ∧
      ∀ d, ¬ Path (area.Linked Link.isTransitTo) area.root (.router routerLSA) d := by
  refine ⟨by decide, ?_⟩
  intro d path
  have mem : .router routerLSA ∈ [area.root, .network networkLSA] := by
    refine path.mem_of_closed mem_cons_self ?_
    intro u uMem v c linked
    cases linked with
    | @routerToRouter u' v' link mem toRouter inDatabase age back =>
      have isRoot : u' = rootLSA := by simpa [root, area] using uMem
      subst isRoot
      rw [mem_singleton.mp mem] at toRouter
      simp [Link.isToRouter] at toRouter
    | routerToNetwork _ _ inDatabase _ _ =>
      rw [mem_singleton.mp inDatabase]
      simp
    | @networkToRouter n v' attached inDatabase age back =>
      have isNetwork : n = networkLSA := by simpa [root] using uMem
      subst isNetwork
      simp only [area, mem_cons, not_mem_nil, or_false] at inDatabase
      rcases inDatabase with rfl | rfl
      · exact mem_cons_self
      · revert back
        decide
  revert mem
  decide

end StubOnly

end Inet.Ospf
