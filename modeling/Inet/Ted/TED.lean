import Inet.Base.SimError
import Inet.Ipv4.Address
import Inet.Lib.LeastCost
import Inet.Lib.Outcome
import Mathlib.Algebra.Order.Ring.Rat

/-!
# The traffic engineering database

Constrained shortest paths over exact numbers. A path shorter than `LS_INFINITY` is found whatever
the links are; a vertex that is farther counts as unreachable.
-/

namespace Inet.Ted

open Function Ipv4 List

structure TELinkStateInfo where
  /-- The router that has the link. -/
  advrouter : IPv4Address
  /-- The peer. -/
  linkid : IPv4Address
  metric : ℚ
  unResvBandwidth : Fin 8 → ℚ
  state : Bool

/-- The vertices of the graph in the order of their indices, and their labels by address. -/
structure Vertices where
  nodes : List IPv4Address
  dist : IPv4Address → ℚ
  /-- `none` is the index -1. -/
  parent : IPv4Address → Option IPv4Address

namespace TED

def LS_INFINITY : ℚ := 10000000000000000

/-- The vertices with this one. -/
def assignIndex (vertices : List IPv4Address) (nodeAddr : IPv4Address) : List IPv4Address :=
  if nodeAddr ∈ vertices then vertices else vertices ++ [nodeAddr]

/-- Is the link up, with enough bandwidth left? -/
def selects (req_bandwidth : ℚ) (priority : Fin 8) (link : TELinkStateInfo) : Bool :=
  link.state && decide (req_bandwidth ≤ link.unResvBandwidth priority)

/-- One round of the inner loop; the flag is `mod`. -/
def relax (state : Vertices × Bool) (edge : TELinkStateInfo) : Except SimError (Vertices × Bool) :=
  let (vertices, mod) := state
  if edge.advrouter = edge.linkid then .error (.assertion "src != dest")
  else if vertices.dist edge.linkid ≤ edge.metric + vertices.dist edge.advrouter then
    .ok (vertices, mod)
  else .ok ({ vertices with
    dist := update vertices.dist edge.linkid (edge.metric + vertices.dist edge.advrouter)
    parent := update vertices.parent edge.linkid (some edge.advrouter) }, true)

def relaxRounds (edges : List TELinkStateInfo) : ℕ → Vertices → Except SimError Vertices
  | 0, vertices => .ok vertices
  | rounds + 1, vertices => do
    let (vertices, mod) ← edges.foldlM relax (vertices, false)
    if mod then relaxRounds edges rounds vertices else .ok vertices

/-- The vertices before the search. -/
def collectVertices (routerId : IPv4Address) (edges : List TELinkStateInfo) : Vertices where
  nodes := assignIndex (edges.foldl (fun nodes edge =>
    assignIndex (assignIndex nodes edge.advrouter) edge.linkid) []) routerId
  dist := update (fun _ => LS_INFINITY) routerId 0
  parent _ := none

def calculateShortestPaths (routerId : IPv4Address) (topology : List TELinkStateInfo)
    (req_bandwidth : ℚ) (priority : Fin 8) : Except SimError Vertices :=
  let edges := topology.filter (selects req_bandwidth priority)
  let vertices := collectVertices routerId edges
  relaxRounds edges (vertices.nodes.length - 1) vertices

/-- The vertex of the set that is nearest so far, with its distance. -/
def nearer (dest : List IPv4Address) (dist : IPv4Address → ℚ)
    (best : Option IPv4Address × ℚ) (node : IPv4Address) : Option IPv4Address × ℚ :=
  if best.2 ≤ dist node then best
  else if node ∉ dest then best
  else (some node, dist node)

/-- The loop that puts the parents in front. -/
def pathTo (parent : IPv4Address → Option IPv4Address) :
    ℕ → IPv4Address → List IPv4Address → Except SimError (List IPv4Address)
  | 0, _, _ => .error .nonTermination
  | fuel + 1, node, result =>
    match parent node with
    | none => .ok (node :: result)
    | some next => pathTo parent fuel next (node :: result)

def calculateShortestPath (routerId : IPv4Address) (dest : List IPv4Address)
    (topology : List TELinkStateInfo) (req_bandwidth : ℚ) (priority : Fin 8) :
    Except SimError (List IPv4Address) := do
  let V ← calculateShortestPaths routerId topology req_bandwidth priority
  match (V.nodes.foldl (nearer dest V.dist) (none, LS_INFINITY)).1 with
  | none => .ok []
  | some node => pathTo V.parent V.nodes.length node []

/-- The feasible links, from their ends back. A route is a path from the router. -/
def feasible (topology : List TELinkStateInfo) (req_bandwidth : ℚ) (priority : Fin 8) :
    Network IPv4Address TELinkStateInfo ℚ where
  src link := link.linkid
  dest link := link.advrouter
  price link := link.metric
  usable link := link ∈ topology.filter (selects req_bandwidth priority)

/-- The labels are those of a search that has not ended. -/
def Labelled (routerId : IPv4Address) (topology : List TELinkStateInfo) (b : ℚ)
    (p : Fin 8) (s : Vertices) : Prop :=
  (feasible topology b p).Labelled routerId LS_INFINITY s.dist s.parent

/-- What relaxing some links does. -/
structure Relaxes (edges : List TELinkStateInfo) (s s' : Vertices × Bool) : Prop where
  nodes : s'.1.nodes = s.1.nodes
  le : ∀ v, s'.1.dist v ≤ s.1.dist v
  relaxed : ∀ edge ∈ edges, s'.1.dist edge.linkid ≤ edge.metric + s.1.dist edge.advrouter
  same : s'.2 = false → s' = s

variable {routerId v : IPv4Address} {topology edges : List TELinkStateInfo} {b : ℚ}
  {p : Fin 8} {s s' : Vertices} {mod : Bool}

lemma mem_assignIndex {nodes : List IPv4Address} {a b : IPv4Address} :
    a ∈ assignIndex nodes b ↔ a ∈ nodes ∨ a = b := by
  rw [assignIndex]
  split_ifs with mem
  · exact ⟨.inl, fun either => either.elim id fun same => same ▸ mem⟩
  · rw [mem_append, mem_singleton]

lemma mem_foldl_assignIndex {a : IPv4Address} (nodes : List IPv4Address) :
    a ∈ edges.foldl (fun nodes edge => assignIndex (assignIndex nodes edge.advrouter) edge.linkid)
      nodes ↔ a ∈ nodes ∨ ∃ edge ∈ edges, a = edge.advrouter ∨ a = edge.linkid := by
  induction edges generalizing nodes with
  | nil => simp
  | cons edge rest ih =>
    rw [foldl_cons, ih, mem_assignIndex, mem_assignIndex, or_assoc, or_assoc,
      exists_mem_cons_iff, or_assoc]

lemma mem_collectVertices {a : IPv4Address} : a ∈ (collectVertices routerId edges).nodes ↔
    a = routerId ∨ ∃ edge ∈ edges, a = edge.advrouter ∨ a = edge.linkid := by
  rw [collectVertices, mem_assignIndex, mem_foldl_assignIndex, or_comm]
  exact or_congr_right (or_iff_right not_mem_nil)

lemma labelled_collectVertices : Labelled routerId topology b p
    (collectVertices routerId edges) where
  root_dist := by simp only [collectVertices, update_self]
  root_parent := rfl
  positive v other := by
    simp only [collectVertices, update_of_ne other]
    decide
  unreached v other _ := by simp only [collectVertices, update_of_ne other]
  reached := nofun

lemma pathTo_climbs {parent : IPv4Address → Option IPv4Address} {us : List IPv4Address}
    (climbs : Network.Climbs parent routerId v us) {fuel : ℕ} (fits : us.length ≤ fuel) (result : List IPv4Address) :
    pathTo parent fuel v result = .ok (us.reverse ++ result) := by
  induction climbs generalizing fuel result with
  | root top =>
    obtain ⟨fuel, rfl⟩ := Nat.exists_eq_succ_of_ne_zero (Nat.ne_zero_of_lt fits)
    rw [pathTo, top]
    rfl
  | step link _ ih =>
    obtain ⟨fuel, rfl⟩ := Nat.exists_eq_succ_of_ne_zero (Nat.ne_zero_of_lt fits)
    rw [pathTo, link, reverse_cons, append_assoc]
    exact ih (Nat.succ_le_succ_iff.mp fits) _

/-- The vertex is in the set and less than infinitely far, and this is its distance. -/
structure Chosen (dest : List IPv4Address) (dist : IPv4Address → ℚ)
    (best : Option IPv4Address × ℚ) : Prop where
  some : ∀ v, best.1 = some v → v ∈ dest ∧ dist v = best.2 ∧ best.2 < LS_INFINITY
  none : best.1 = none → best.2 = LS_INFINITY

lemma foldl_nearer {dest : List IPv4Address} {dist : IPv4Address → ℚ} (nodes : List IPv4Address)
    {best : Option IPv4Address × ℚ} (chosen : Chosen dest dist best) :
    Chosen dest dist (nodes.foldl (nearer dest dist) best) ∧
      (nodes.foldl (nearer dest dist) best).2 ≤ best.2 ∧
      ∀ v ∈ nodes, v ∈ dest → (nodes.foldl (nearer dest dist) best).2 ≤ dist v := by
  induction nodes generalizing best with
  | nil => exact ⟨chosen, le_rfl, nofun⟩
  | cons node rest ih =>
    have step : Chosen dest dist (nearer dest dist best node) ∧
        (nearer dest dist best node).2 ≤ best.2 ∧
        (node ∈ dest → (nearer dest dist best node).2 ≤ dist node) := by
      rw [nearer]
      split_ifs with le mem
      · exact ⟨chosen, le_rfl, fun _ => le⟩
      · have less := lt_of_not_ge le
        have capped : best.2 ≤ LS_INFINITY := by
          cases found : best.1 with
          | none => exact (chosen.none found).le
          | some v => exact (chosen.some v found).2.2.le
        refine ⟨⟨fun v eq => ?_, nofun⟩, less.le, fun _ => le_rfl⟩
        cases eq
        exact ⟨mem, rfl, less.trans_le capped⟩
      · exact ⟨chosen, le_rfl, fun inDest => absurd inDest mem⟩
    obtain ⟨chosen', le, here⟩ := step
    obtain ⟨chosen'', le', all⟩ := ih chosen'
    exact ⟨chosen'', le'.trans le, forall_mem_cons.mpr ⟨fun mem => le'.trans (here mem), all⟩⟩

/-! ## The search -/

/-- Without self-links, and with positive metrics. -/
structure Proper (topology : List TELinkStateInfo) : Prop where
  apart : ∀ link ∈ topology, link.advrouter ≠ link.linkid
  positive : ∀ link ∈ topology, 0 < link.metric

variable (proper : Proper topology)
include proper

lemma price_pos (link : TELinkStateInfo) (usable : (feasible topology b p).usable link) :
    0 < (feasible topology b p).price link :=
  proper.positive link (mem_filter.mp usable).1

lemma relax_relaxes (labelled : Labelled routerId topology b p s) {edge : TELinkStateInfo}
    (mem : edge ∈ topology.filter (selects b p)) (mod : Bool) :
    ∃ s', relax (s, mod) edge = .ok s' ∧ Labelled routerId topology b p s'.1 ∧
      Relaxes [edge] (s, mod) s' := by
  rw [relax, if_neg (proper.apart edge (mem_filter.mp mem).1)]
  split_ifs with le
  · exact ⟨_, rfl, labelled, rfl, fun _ => le_rfl, forall_mem_singleton.mpr le, fun _ => rfl⟩
  · have less := lt_of_not_ge le
    refine ⟨_, rfl, Network.Labelled.relax labelled mem (price_pos proper edge mem) less, rfl,
      fun v => ?_, forall_mem_singleton.mpr ?_, nofun⟩
    · dsimp only
      obtain rfl | other := eq_or_ne v edge.linkid
      · rw [update_self]
        exact less.le
      · rw [update_of_ne other]
    · dsimp only
      rw [update_self]

lemma foldlM_relaxes (labelled : Labelled routerId topology b p s)
    (mem : ∀ edge ∈ edges, edge ∈ topology.filter (selects b p)) (mod : Bool) :
    ∃ s', edges.foldlM relax (s, mod) = .ok s' ∧
      Labelled routerId topology b p s'.1 ∧ Relaxes edges (s, mod) s' := by
  induction edges generalizing s mod with
  | nil => exact ⟨_, rfl, labelled, rfl, fun _ => le_rfl, nofun, fun _ => rfl⟩
  | cons edge rest ih =>
    obtain ⟨first, mem⟩ := forall_mem_cons.mp mem
    obtain ⟨⟨s₁, mod₁⟩, ok₁, labelled₁, one⟩ := relax_relaxes proper labelled first mod
    obtain ⟨s', ok, labelled', more⟩ := ih labelled₁ mem mod₁
    refine ⟨s', ?_, labelled', more.nodes.trans one.nodes, fun v => (more.le v).trans (one.le v),
      forall_mem_cons.mpr ⟨?_, fun edge' mem' => ?_⟩, fun unmodified => ?_⟩
    · rw [foldlM_cons, ok₁]
      exact ok
    · exact (more.le _).trans (one.relaxed edge mem_cons_self)
    · exact (more.relaxed edge' mem').trans (add_le_add_right (one.le _) _)
    · have eq := more.same unmodified
      rw [eq] at unmodified ⊢
      exact one.same unmodified

lemma relaxRounds_exact (labelled : Labelled routerId topology b p s) {k : ℕ}
    (within : (feasible topology b p).Within routerId s.dist k) (rounds : ℕ) :
    ∃ s', relaxRounds (topology.filter (selects b p)) rounds s = .ok s' ∧
      Labelled routerId topology b p s' ∧ s'.nodes = s.nodes ∧
      ((feasible topology b p).Within routerId s'.dist (k + rounds) ∨
        (feasible topology b p).Relaxed s'.dist) := by
  induction rounds generalizing s k with
  | zero => exact ⟨s, rfl, labelled, rfl, .inl within⟩
  | succ rounds ih =>
    obtain ⟨⟨s₁, mod⟩, ok, labelled₁, round⟩ :=
      foldlM_relaxes proper labelled (fun _ mem => mem) false
    rw [relaxRounds, ok]
    cases mod with
    | false =>
      have eq := congrArg Prod.fst (round.same rfl)
      subst eq
      exact ⟨s₁, rfl, labelled, rfl, .inr round.relaxed⟩
    | true =>
      have within₁ := within.succ labelled₁.root_dist.le round.relaxed
      obtain ⟨s', ok', labelled', nodes, exact⟩ := ih labelled₁ within₁
      rw [Nat.add_right_comm, Nat.add_assoc] at exact
      exact ⟨s', ok', labelled', nodes.trans round.nodes, exact⟩

/-- The labels at the end: a vertex has the least metric of its paths, which the parents give, or
counts as unreachable. -/
structure ShortestPathTree (net : Network IPv4Address TELinkStateInfo ℚ) (routerId : IPv4Address)
    (s : Vertices) : Prop where
  least : ∀ v ls, net.Route routerId v ls → s.dist v ≤ net.cost ls
  reached : ∀ v, s.dist v < LS_INFINITY → ∃ ls, net.Route routerId v ls ∧
    net.cost ls = s.dist v ∧ Network.Climbs s.parent routerId v (net.nodes v ls) ∧
    (net.nodes v ls).Nodup ∧ ls.length < s.nodes.length
  unreached : ∀ v, ¬ s.dist v < LS_INFINITY → s.dist v = LS_INFINITY ∧ s.parent v = none

lemma Labelled.tree (labelled : Labelled routerId topology b p s)
    (least : ∀ v ls, (feasible topology b p).Route routerId v ls →
      s.dist v ≤ (feasible topology b p).cost ls) (root_mem : routerId ∈ s.nodes)
    (ends : ∀ edge ∈ topology.filter (selects b p), edge.advrouter ∈ s.nodes ∧
      edge.linkid ∈ s.nodes) : ShortestPathTree (feasible topology b p) routerId s where
  least := least
  reached v near := by
    obtain ⟨ls, route, le, climbs, falling⟩ := Network.Labelled.climb labelled (price_pos proper)
      (fun link usable => mem_toFinset.mpr (ends link usable).1) (.inr near)
    have simple : ((feasible topology b p).nodes v ls).Nodup := by
      refine falling.imp fun less same => ?_
      rw [same] at less
      exact lt_irrefl _ less
    have few := route.length_lt simple (mem_toFinset.mpr root_mem)
      fun link usable => mem_toFinset.mpr (ends link usable).2
    exact ⟨ls, route, le.antisymm (least v ls route), climbs, simple,
      few.trans_le s.nodes.toFinset_card_le⟩
  unreached v far := by
    have other : v ≠ routerId := by
      rintro rfl
      rw [labelled.root_dist] at far
      exact far (by decide)
    have noParent : s.parent v = none := by
      cases link : s.parent v with
      | none => rfl
      | some u => exact absurd (labelled.reached v u link).1 far
    exact ⟨labelled.unreached v other noParent, noParent⟩

lemma calculateShortestPaths_tree (routerId : IPv4Address) (b : ℚ) (p : Fin 8) :
    ∃ s, calculateShortestPaths routerId topology b p = .ok s ∧
      ShortestPathTree (feasible topology b p) routerId s ∧
      ∀ v ls, (feasible topology b p).Route routerId v ls → v ∈ s.nodes := by
  have start : Labelled routerId topology b p
      (collectVertices routerId (topology.filter (selects b p))) := labelled_collectVertices
  obtain ⟨s, ok, labelled, nodes, exact⟩ :=
    relaxRounds_exact proper start (Network.Within.zero start.root_dist.le) _
  have root_mem : routerId ∈ s.nodes := by
    rw [nodes, mem_collectVertices]
    exact .inl rfl
  have ends (edge : TELinkStateInfo) (selected : edge ∈ topology.filter (selects b p)) :
      edge.advrouter ∈ s.nodes ∧ edge.linkid ∈ s.nodes := by
    rw [nodes, mem_collectVertices, mem_collectVertices]
    exact ⟨.inr ⟨edge, selected, .inl rfl⟩, .inr ⟨edge, selected, .inr rfl⟩⟩
  refine ⟨s, ok, labelled.tree proper (fun v ls route => ?_) root_mem ends, fun v ls route => ?_⟩
  · obtain within | relaxed := exact
    · have within' : (feasible topology b p).Within routerId s.dist
          (s.nodes.toFinset.card - 1) := by
        intro v ls route short
        have few := s.nodes.toFinset_card_le
        rw [nodes] at few short
        exact within v ls route (by omega)
      exact within'.le_cost (fun link usable => (price_pos proper link usable).le)
        (mem_toFinset.mpr root_mem)
        (fun link usable => mem_toFinset.mpr (ends link usable).2) route
    · exact relaxed.le_cost labelled.root_dist.le route
  · cases route with
    | root => exact root_mem
    | link usable _ => exact (ends _ usable).2

omit proper in
/-- What `calculateShortestPath` gives: the vertices of a simple path of least metric to a
destination, or nothing when all destinations count as unreachable. -/
def BestPath (net : Network IPv4Address TELinkStateInfo ℚ) (routerId : IPv4Address)
    (dest path : List IPv4Address) : Prop :=
  (path = [] ∧ ∀ v ∈ dest, ∀ ls, net.Route routerId v ls → LS_INFINITY ≤ net.cost ls) ∨
    ∃ v ∈ dest, ∃ ls, net.Route routerId v ls ∧ net.cost ls < LS_INFINITY ∧
      path = (net.nodes v ls).reverse ∧ path.Nodup ∧
      ∀ w ∈ dest, ∀ ls', net.Route routerId w ls' → net.cost ls ≤ net.cost ls'

omit proper in
lemma ShortestPathTree.calculateShortestPath (ok : calculateShortestPaths routerId topology b p = .ok s)
    (tree : ShortestPathTree (feasible topology b p) routerId s)
    (collected : ∀ v ls, (feasible topology b p).Route routerId v ls → v ∈ s.nodes)
    (dest : List IPv4Address) :
    ∃ path, calculateShortestPath routerId dest topology b p = .ok path ∧
      BestPath (feasible topology b p) routerId dest path := by
  have start : Chosen dest s.dist (none, LS_INFINITY) := ⟨nofun, fun _ => rfl⟩
  obtain ⟨chosen, -, all⟩ := foldl_nearer s.nodes start
  have least (w : IPv4Address) (mem : w ∈ dest) (ls : List TELinkStateInfo)
      (route : (feasible topology b p).Route routerId w ls) :
      (s.nodes.foldl (nearer dest s.dist) (none, LS_INFINITY)).2 ≤
        (feasible topology b p).cost ls :=
    (all w (collected w ls route) mem).trans (tree.least w ls route)
  rw [TED.calculateShortestPath, ok]
  cases found : (s.nodes.foldl (nearer dest s.dist) (none, LS_INFINITY)).1 with
  | none =>
    refine ⟨[], ?_, .inl ⟨rfl, fun v mem ls route => ?_⟩⟩
    · dsimp only [bind, Except.bind]
      rw [found]
    · exact (chosen.none found).ge.trans (least v mem ls route)
  | some v =>
    obtain ⟨mem, dist, near⟩ := chosen.some v found
    obtain ⟨ls, route, cost, climbs, simple, few⟩ := tree.reached v (dist.trans_lt near)
    have length : ((feasible topology b p).nodes v ls).length ≤ s.nodes.length := by
      rwa [Network.nodes, length_cons, length_map]
    rw [← dist, ← cost] at near least
    refine ⟨_, ?_, .inr ⟨v, mem, ls, route, near, rfl, nodup_reverse.mpr simple, least⟩⟩
    dsimp only [bind, Except.bind]
    rw [found]
    dsimp only
    rw [pathTo_climbs climbs length, append_nil]

omit proper in
/-- The search ends with the least metrics below `LS_INFINITY` and a tree of parents, and the path
to a set of destinations is simple and no longer than any other. -/
theorem shortestPaths_exact (topology : List TELinkStateInfo) (proper : Proper topology)
    (routerId : IPv4Address) (req_bandwidth : ℚ) (priority : Fin 8) :
    ∃ s, calculateShortestPaths routerId topology req_bandwidth priority = .ok s ∧
      ShortestPathTree (feasible topology req_bandwidth priority) routerId s ∧
      ∀ dest, ∃ path,
        calculateShortestPath routerId dest topology req_bandwidth priority = .ok path ∧
        BestPath (feasible topology req_bandwidth priority) routerId dest path := by
  obtain ⟨s, ok, tree, collected⟩ :=
    calculateShortestPaths_tree proper routerId req_bandwidth priority
  exact ⟨s, ok, tree, tree.calculateShortestPath ok collected⟩

/-- A link from router 1 to router 2, with unlimited bandwidth. -/
def link12 (metric : ℚ) : TELinkStateInfo := ⟨1, 2, metric, fun _ => 0, true⟩

omit proper in
lemma proper_link12 {metric : ℚ} (positive : 0 < metric) : Proper [link12 metric] where
  apart := forall_mem_singleton.mpr (by simp [link12])
  positive := forall_mem_singleton.mpr positive

omit proper in
theorem shortestPaths_exact_link12 :
    ∃ s, calculateShortestPaths 1 [link12 3] 0 7 = .ok s ∧
      ShortestPathTree (feasible [link12 3] 0 7) 1 s := by
  obtain ⟨s, ok, tree, -⟩ := shortestPaths_exact [link12 3] (proper_link12 (by decide)) 1 0 7
  exact ⟨s, ok, tree⟩

omit proper in
/-- A path whose metric is `LS_INFINITY` is not found. -/
theorem unreachable_far : Proper [link12 LS_INFINITY] ∧
    (calculateShortestPaths 1 [link12 LS_INFINITY] 0 7).map (fun s => s.dist 2) =
      .ok LS_INFINITY ∧
    ∃ ls, (feasible [link12 LS_INFINITY] 0 7).Route 1 2 ls := by
  have usable : (feasible [link12 LS_INFINITY] 0 7).usable (link12 LS_INFINITY) :=
    mem_filter.mpr ⟨mem_singleton_self _, by decide⟩
  exact ⟨proper_link12 (by decide), by decide +kernel, _, .link usable .root⟩

end TED

end Inet.Ted
