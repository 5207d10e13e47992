import Inet.Base.SimError
import Inet.Base.Topology
import Inet.Lib.LeastCost
import Mathlib.Algebra.Order.Group.Nat
import Mathlib.Algebra.Order.Monoid.WithTop

/-!
# Shortest paths in a topology

`calculateWeightedSingleShortestPathsTo` labels every node with its distance to the target and the
first link of a shortest path. A host that does not route has the weight `⊤`. The search is
Dijkstra's, with a link's weight and that of the node behind it as the price of the link, and a
sorted list as its queue.
-/

namespace Inet

open List

namespace Topology

/-- The results of a search, `dist` and `outPath` of every node, and its queue. -/
structure Search (N L R : Type*) where
  dist : N → WithTop R
  outPath : N → Option L
  q : List N

variable {N L R : Type*}

/-- Links that lead from a node to the target; disabled links and nodes are not in the graph. -/
inductive Path (topo : Topology N L R) (target : N) : N → List L → Prop
  | target : Path topo target target []
  | link {v w : N} {l : L} {ls : List L} : (topo.node v).enabled = true →
      l ∈ (topo.node v).outLinks → (topo.link l).enabled = true →
      (topo.link l).destNode = some w → Path topo target w ls → Path topo target v (l :: ls)

section

variable [AddCommMonoid R]

/-- The weight of the node at the far end of the link. -/
def destWeight (topo : Topology N L R) (l : L) : WithTop R :=
  ((topo.link l).destNode.map fun v => (topo.node v).weight).getD 0

/-- The weights of the links, and those of the intermediate nodes: every link but the last one
leads to one of them. -/
def pathWeight (topo : Topology N L R) (path : List L) : WithTop R :=
  (path.map fun l => (topo.link l).weight).sum + (path.dropLast.map topo.destWeight).sum

/-- A link, or an intermediate node, with the weight `INFINITY`. -/
def Blocked (topo : Topology N L R) (path : List L) : Prop :=
  (∃ l ∈ path, (topo.link l).weight = ⊤) ∨ ∃ l ∈ path.dropLast, topo.destWeight l = ⊤

end

def pathNodes (topo : Topology N L R) (v : N) (path : List L) : List N :=
  v :: path.filterMap fun l => (topo.link l).destNode

/-- The path that `getPath(0)` gives, node by node. -/
def followPaths [DecidableEq N] (topo : Topology N L R) (target : N) (outPath : N → Option L) :
    ℕ → N → Option (List L)
  | 0, _ => none
  | fuel + 1, v =>
    if v = target then some []
    else
      match outPath v with
      | none => none
      | some l =>
        match (topo.link l).destNode with
        | none => none
        | some next => (topo.followPaths target outPath fuel next).map (l :: ·)

section

variable [DecidableEq N] [AddCommMonoid R] [LinearOrder R]

/-- One round of the inner loop, for `dest->inLinks[i]`. -/
def relaxLink (topo : Topology N L R) (target dest : N) (search : Search N L R) (l : L) :
    Except SimError (Search N L R) :=
  if (topo.link l).enabled = false then .ok search
  else
    match (topo.link l).srcNode with
    | none => .error .nullPointer
    | some src =>
      if (topo.node src).enabled = false then .ok search
      else
        let linkWeight := (topo.link l).weight
        if ¬ 0 < linkWeight then .error (.assertion "linkWeight > 0.0")
        else
          let newdist := search.dist dest + linkWeight
          let newdist := if dest ≠ target then newdist + (topo.node dest).weight else newdist
          if newdist ≠ ⊤ ∧ newdist < search.dist src then
            let q := if search.dist src ≠ ⊤ then search.q.filter (· ≠ src) else search.q
            let dist := Function.update search.dist src newdist
            .ok { dist := dist
                  outPath := Function.update search.outPath src (some l)
                  q := insertBy dist src q }
          else .ok search

/-- The rounds of the inner loop. -/
def relaxLinks (topo : Topology N L R) (target dest : N) (search : Search N L R)
    (inLinks : List L) : Except SimError (Search N L R) :=
  inLinks.foldlM (topo.relaxLink target dest) search

/-- `while (!q.empty())` -/
def searchLoop (topo : Topology N L R) (target : N) :
    ℕ → Search N L R → Except SimError (Search N L R)
  | 0, _ => .error .nonTermination
  | fuel + 1, search =>
    match search.q with
    | [] => .ok search
    | dest :: q =>
      if ¬ 0 ≤ (topo.node dest).weight then .error (.assertion "dest->getWeight() >= 0.0")
      else do
        let search ← topo.relaxLinks target dest { search with q := q } (topo.node dest).inLinks
        topo.searchLoop target fuel search

def calculateWeightedSingleShortestPathsTo (topo : Topology N L R) (target : Option N)
    (fuel : ℕ) : Except SimError (Search N L R) :=
  match target with
  | none => .error (.runtimeError "..ShortestPathTo(): target node is NULL")
  | some target =>
    topo.searchLoop target fuel
      { dist := Function.update (fun _ => ⊤) target 0
        outPath := fun _ => none
        q := [target] }

end

/-- A link is usable if it and the node it starts at are enabled; its price has the weight of the
node behind it unless that is the target. -/
def network [DecidableEq N] [AddCommMonoid R] (topo : Topology N L R) (target : N) :
    Network N L (WithTop R) where
  src l := (topo.link l).srcNode.getD target
  dest l := (topo.link l).destNode.getD target
  price l := (topo.link l).weight +
    if (topo.link l).destNode = some target then 0 else topo.destWeight l
  usable l := (topo.link l).enabled = true ∧
    ∃ v, (topo.link l).srcNode = some v ∧ (topo.node v).enabled = true

section

variable {topo : Topology N L R} {target v w : N} {l : L}

lemma exists_dest (src : (topo.link l).srcNode = some v) :
    ∃ w ∈ topo.nodes, (topo.link l).destNode = some w := by
  have some : (topo.link l).destNode.isSome = true := by
    rw [← topo.isSome_ends l, src]
    rfl
  obtain ⟨w, dest⟩ := Option.isSome_iff_exists.mp some
  exact ⟨w, topo.destNode_mem l w dest, dest⟩

variable [AddCommMonoid R]

lemma destWeight_eq (dest : (topo.link l).destNode = some v) :
    topo.destWeight l = (topo.node v).weight := by
  rw [destWeight, dest, Option.map_some, Option.getD_some]

lemma sum_eq_top {ws : List (WithTop R)} : ws.sum = ⊤ ↔ ⊤ ∈ ws := by
  induction ws with
  | nil => exact iff_of_false WithTop.zero_ne_top not_mem_nil
  | cons w ws ih => rw [sum_cons, WithTop.add_eq_top, ih, mem_cons, eq_comm]

variable {path : List L}

lemma pathWeight_eq_top : topo.pathWeight path = ⊤ ↔ topo.Blocked path := by
  rw [pathWeight, WithTop.add_eq_top, sum_eq_top, sum_eq_top, mem_map, mem_map, Blocked]

lemma pathWeight_single : topo.pathWeight [l] = (topo.link l).weight := by
  simp [pathWeight]

lemma pathWeight_cons {m : L} {ls : List L} : topo.pathWeight (l :: m :: ls) =
    (topo.link l).weight + topo.destWeight l + topo.pathWeight (m :: ls) := by
  exact add_add_add_comm ..

variable [DecidableEq N]

lemma network_src (src : (topo.link l).srcNode = some v) : (topo.network target).src l = v := by
  simp only [network, src, Option.getD_some]

lemma network_dest (dest : (topo.link l).destNode = some v) :
    (topo.network target).dest l = v := by
  simp only [network, dest, Option.getD_some]

lemma network_price (dest : (topo.link l).destNode = some v) :
    (topo.network target).price l =
      (topo.link l).weight + if v = target then 0 else (topo.node v).weight := by
  simp only [network, destWeight_eq dest, dest, Option.some.injEq]

variable (walk : topo.Path target v path)
include walk

lemma Path.route : (topo.network target).Route target v path := by
  induction walk with
  | target => exact .root
  | @link v w l ls runs out enabled dest _ ih =>
    have src : (topo.link l).srcNode = some v := (topo.mem_outLinks v l).mp out
    have usable : (topo.network target).usable l := ⟨enabled, v, src, runs⟩
    have route := Network.Route.link usable ((network_dest dest).symm ▸ ih)
    exact network_src src ▸ route

omit walk in
lemma path_of_route (route : (topo.network target).Route target v path) :
    topo.Path target v path := by
  induction route with
  | root => exact .target
  | @link l ls usable _ ih =>
    obtain ⟨enabled, v, src, runs⟩ := usable
    obtain ⟨w, _, dest⟩ := exists_dest src
    rw [network_src src]
    exact .link runs ((topo.mem_outLinks v l).mpr src) enabled dest (network_dest dest ▸ ih)

lemma pathWeight_of_follows {outPath : N → Option L}
    (follows : (topo.network target).Follows outPath target v path) :
    topo.pathWeight path = (topo.network target).cost path := by
  induction walk with
  | target => exact add_zero _
  | @link v w l ls _ _ _ dest walk ih =>
    cases follows with
    | link _ _ follows =>
      rw [network_dest dest] at follows
      rw [Network.cost_cons, network_price dest]
      cases follows with
      | root => rw [if_pos rfl, pathWeight_single, Network.cost_nil, add_zero, add_zero]
      | link other noted rest =>
        rw [pathWeight_cons, destWeight_eq dest, if_neg other, ih (.link other noted rest)]

lemma followPaths_of_follows {outPath : N → Option L}
    (follows : (topo.network target).Follows outPath target v path) (fuel : ℕ)
    (more : path.length < fuel) : topo.followPaths target outPath fuel v = some path := by
  induction walk generalizing fuel with
  | target =>
    obtain ⟨fuel, rfl⟩ := Nat.exists_eq_add_of_lt more
    rw [followPaths, if_pos rfl]
  | @link v w l ls _ _ _ dest walk ih =>
    cases follows with
    | link other noted follows =>
      rw [network_dest dest] at follows
      obtain ⟨fuel, rfl⟩ := Nat.exists_eq_add_of_lt more
      have rest := ih follows ((l :: ls).length + fuel) (by rw [length_cons]; omega)
      rw [followPaths, if_neg other, noted]
      simp only
      rw [dest]
      simp only
      rw [rest, Option.map_some]

lemma pathNodes_eq : topo.pathNodes v path = v :: path.map (topo.network target).dest := by
  rw [pathNodes]
  induction walk with
  | target => rfl
  | @link v w l ls _ _ _ dest _ ih =>
    simp only [filterMap_cons, dest, map_cons, network_dest dest, ih]

end

/-! ### The steps of the search -/

section

variable [DecidableEq N] [AddCommMonoid R] {topo : Topology N L R} {target dest : N} {l : L}

lemma newdist_eq (isDest : (topo.link l).destNode = some dest) (d : WithTop R) :
    (if dest ≠ target then d + (topo.link l).weight + (topo.node dest).weight
      else d + (topo.link l).weight) = (topo.network target).price l + d := by
  rw [network_price isDest, add_comm _ d]
  by_cases eq : dest = target
  · rw [if_neg (not_not.mpr eq), if_pos eq, add_zero]
  · rw [if_pos eq, if_neg eq, add_assoc]

variable [LinearOrder R] {relaxed : L → Prop} {search : Search N L R} {finished : List N}

/-- The invariant of the search. -/
def Labels (topo : Topology N L R) (target : N) (relaxed : L → Prop) (finished : List N)
    (search : Search N L R) : Prop :=
  (topo.network target).Searching target relaxed search.dist search.outPath finished search.q

lemma Labels.filter_q (labels : topo.Labels target relaxed finished search) (src : N) :
    (if search.dist src ≠ ⊤ then search.q.filter (· ≠ src) else search.q) =
      search.q.filter (· ≠ src) := by
  by_cases top : search.dist src = ⊤
  · rw [if_neg (not_not.mpr top)]
    refine (filter_eq_self.mpr fun v mem => decide_eq_true ?_).symm
    rintro rfl
    exact (labels.labelled v).mpr (mem_append_right finished mem) top
  · rw [if_pos top]

lemma Labels.mem_nodes (labels : topo.Labels target relaxed finished search)
    (isNode : target ∈ topo.nodes) {v : N} (mem : v ∈ finished ++ search.q) : v ∈ topo.nodes := by
  rcases labels.root_or_src mem with rfl | ⟨l, ⟨-, w, isSrc, -⟩, rfl⟩
  · exact isNode
  · rw [network_src isSrc]
    exact topo.srcNode_mem l w isSrc

lemma labels_start (target : N) :
    topo.Labels target (fun _ => True) []
      { dist := Function.update (fun _ => ⊤) target 0
        outPath := fun _ => none
        q := [target] } := by
  have root_dist : Function.update (fun _ : N => (⊤ : WithTop R)) target 0 target = 0 :=
    Function.update_self ..
  have others (v : N) (ne : v ≠ target) :
      Function.update (fun _ : N => (⊤ : WithTop R)) target 0 v = ⊤ :=
    Function.update_of_ne ne ..
  exact .start root_dist others WithTop.zero_ne_top

variable [IsOrderedAddMonoid R]

lemma Labels.relaxLink (labels : topo.Labels target relaxed (finished ++ [dest]) search)
    (isDest : (topo.link l).destNode = some dest) (link_pos : 0 < (topo.link l).weight)
    (node_nonneg : 0 ≤ (topo.node dest).weight) :
    ∃ search', topo.relaxLink target dest search l = .ok search' ∧
      topo.Labels target (fun m => relaxed m ∨ m = l) (finished ++ [dest]) search' := by
  have some : (topo.link l).srcNode.isSome = true := by
    rw [topo.isSome_ends l, isDest]
    rfl
  obtain ⟨src, isSrc⟩ := Option.isSome_iff_exists.mp some
  have skip (usable : (topo.network target).usable l → search.dist src ≤
      (topo.network target).price l + search.dist dest) :
      topo.Labels target (fun m => relaxed m ∨ m = l) (finished ++ [dest]) search :=
    Network.Searching.skip labels (network_src isSrc ▸ network_dest isDest ▸ usable)
  rw [Topology.relaxLink, isSrc]
  simp only
  by_cases off : (topo.link l).enabled = false
  · rw [if_pos off]
    refine ⟨search, rfl, skip fun usable => ?_⟩
    exact absurd usable.1 (by rw [off]; decide)
  rw [if_neg off]
  by_cases stopped : (topo.node src).enabled = false
  · rw [if_pos stopped]
    refine ⟨search, rfl, skip fun usable => ?_⟩
    obtain ⟨-, v, isSrc', runs⟩ := usable
    cases isSrc.symm.trans isSrc'
    exact absurd runs (by rw [stopped]; decide)
  rw [if_neg stopped, if_neg (not_not.mpr link_pos), newdist_eq isDest]
  have usable : (topo.network target).usable l :=
    ⟨Bool.eq_true_of_not_eq_false off, src, isSrc, Bool.eq_true_of_not_eq_false stopped⟩
  by_cases better : (topo.network target).price l + search.dist dest ≠ ⊤ ∧
      (topo.network target).price l + search.dist dest < search.dist src
  · rw [if_pos better, labels.filter_q src]
    have nonneg : 0 ≤ (topo.network target).price l := by
      rw [network_price isDest]
      refine add_nonneg link_pos.le ?_
      split
      · exact le_rfl
      · exact node_nonneg
    have dest_eq : (topo.network target).dest l = dest := network_dest isDest
    have src_eq : (topo.network target).src l = src := network_src isSrc
    have mem : (topo.network target).dest l ∈ finished ++ [dest] :=
      dest_eq.symm ▸ mem_append_right finished (mem_singleton_self dest)
    have relabelled := Network.Searching.relax labels usable nonneg mem
      (fun x mem => dest_eq.symm ▸ Network.Searching.le_last labels mem)
      (dest_eq.symm ▸ better.1) (dest_eq.symm ▸ src_eq.symm ▸ better.2) rfl
    rw [dest_eq, src_eq] at relabelled
    exact ⟨_, rfl, relabelled⟩
  · rw [if_neg better]
    refine ⟨search, rfl, skip fun _ => ?_⟩
    by_contra worse
    have less := not_le.mp worse
    exact better ⟨less.ne_top, less⟩

lemma Labels.relaxLinks (node_nonneg : 0 ≤ (topo.node dest).weight) {links : List L}
    (isDest : ∀ l ∈ links, (topo.link l).destNode = some dest)
    (link_pos : ∀ l ∈ links, 0 < (topo.link l).weight)
    (labels : topo.Labels target relaxed (finished ++ [dest]) search) :
    ∃ search', topo.relaxLinks target dest search links = .ok search' ∧
      topo.Labels target (fun m => relaxed m ∨ m ∈ links) (finished ++ [dest]) search' := by
  induction links generalizing relaxed search with
  | nil =>
    exact ⟨search, rfl, labels.mono fun m _ _ seen => seen.resolve_right not_mem_nil⟩
  | cons l links ih =>
    obtain ⟨next, round, labels⟩ := labels.relaxLink (isDest l mem_cons_self)
      (link_pos l mem_cons_self) node_nonneg
    obtain ⟨search', rest, labels⟩ := ih (fun m mem => isDest m (mem_cons_of_mem l mem))
      (fun m mem => link_pos m (mem_cons_of_mem l mem)) labels
    refine ⟨search', ?_, labels.mono fun m _ _ seen => ?_⟩
    · rw [Topology.relaxLinks, foldlM_cons, round]
      exact rest
    · rw [or_assoc, ← mem_cons]
      exact seen

/-- Weights that the assertions of the search admit. -/
structure Weighted (topo : Topology N L R) : Prop where
  link_pos : ∀ v ∈ topo.nodes, ∀ l ∈ (topo.node v).inLinks, 0 < (topo.link l).weight
  node_nonneg : ∀ v ∈ topo.nodes, 0 ≤ (topo.node v).weight

lemma Labels.searchLoop (weighted : topo.Weighted) (isNode : target ∈ topo.nodes) (n : ℕ)
    (labels : topo.Labels target (fun _ => True) finished search)
    (rounds : topo.nodes.length ≤ finished.length + n) :
    ∃ result finished', (∀ fuel, n < fuel → topo.searchLoop target fuel search = .ok result) ∧
      topo.Labels target (fun _ => True) finished' result ∧ result.q = [] := by
  induction n generalizing search finished with
  | zero =>
    have distinct : (finished ++ search.q).Nodup := labels.nodup
    have sub : finished ++ search.q ⊆ topo.nodes := fun v mem => labels.mem_nodes isNode mem
    have le := (subperm_of_subset distinct sub).length_le
    rw [length_append] at le
    have empty : search.q = [] := length_eq_zero_iff.mp (by omega)
    refine ⟨search, finished, fun fuel more => ?_, labels, empty⟩
    obtain ⟨fuel, rfl⟩ := Nat.exists_eq_add_of_lt more
    rw [Topology.searchLoop, empty]
  | succ n ih =>
    cases queue : search.q with
    | nil =>
      refine ⟨search, finished, fun fuel more => ?_, labels, queue⟩
      obtain ⟨fuel, rfl⟩ := Nat.exists_eq_add_of_lt more
      rw [Topology.searchLoop, queue]
    | cons dest q =>
      have inGraph : dest ∈ topo.nodes :=
        labels.mem_nodes isNode (queue ▸ mem_append_right finished mem_cons_self)
      have selected : topo.Labels target (fun l => (topo.network target).dest l ≠ dest)
          (finished ++ [dest]) { search with q := q } := by
        have waiting := labels
        rw [Labels, queue] at waiting
        exact waiting.select
      obtain ⟨next, round, labels⟩ := selected.relaxLinks (weighted.node_nonneg dest inGraph)
        (fun l => (topo.mem_inLinks dest l).mp) (weighted.link_pos dest inGraph)
      -- a usable link to another node has been looked at when that node was the head
      have all : topo.Labels target (fun _ => True) (finished ++ [dest]) next := by
        refine labels.mono fun l usable _ _ => ?_
        rw [or_iff_not_imp_left, not_not]
        intro isDest
        obtain ⟨-, v, isSrc, -⟩ := usable
        obtain ⟨w, -, eq⟩ := exists_dest isSrc
        rw [network_dest eq] at isDest
        exact (topo.mem_inLinks dest l).mpr (isDest ▸ eq)
      obtain ⟨result, finished', loop, labels', empty⟩ := ih all (by
        rw [length_append, length_singleton]
        omega)
      refine ⟨result, finished', fun fuel more => ?_, labels', empty⟩
      obtain ⟨fuel, rfl⟩ := Nat.exists_eq_add_of_lt more
      rw [Topology.searchLoop, queue]
      simp only
      rw [if_neg (not_not.mpr (weighted.node_nonneg dest inGraph)), round]
      exact loop _ (by omega)

lemma calculateWeightedSingleShortestPathsTo_labels (weighted : topo.Weighted)
    (isNode : target ∈ topo.nodes) :
    ∃ result finished, (∀ fuel, topo.nodes.length < fuel →
        topo.calculateWeightedSingleShortestPathsTo (some target) fuel = .ok result) ∧
      topo.Labels target (fun _ => True) finished result ∧ result.q = [] := by
  obtain ⟨result, finished, loop, labels, empty⟩ :=
    (labels_start target).searchLoop weighted isNode topo.nodes.length (Nat.le_add_left _ _)
  exact ⟨result, finished, loop, labels, empty⟩

/-! ### Shortest paths -/

lemma cost_le_pathWeight (weighted : topo.Weighted) {v : N} {path : List L}
    (walk : topo.Path target v path) : (topo.network target).cost path ≤ topo.pathWeight path := by
  induction walk with
  | target => exact (add_zero _).ge
  | @link v w l ls _ _ _ dest walk ih =>
    rw [Network.cost_cons, network_price dest]
    cases ls with
    | nil =>
      cases walk
      rw [if_pos rfl, pathWeight_single, Network.cost_nil, add_zero, add_zero]
    | cons m ls =>
      rw [pathWeight_cons, destWeight_eq dest]
      refine add_le_add (add_le_add_right ?_ _) ih
      split
      · exact weighted.node_nonneg w (topo.destNode_mem l w dest)
      · exact le_rfl

lemma Weighted.price_nonneg (weighted : topo.Weighted) (usable : (topo.network target).usable l) :
    0 ≤ (topo.network target).price l := by
  obtain ⟨-, v, isSrc, -⟩ := usable
  obtain ⟨w, mem, dest⟩ := exists_dest isSrc
  rw [network_price dest]
  refine add_nonneg (weighted.link_pos w mem l ((topo.mem_inLinks w l).mpr dest)).le ?_
  split
  · exact le_rfl
  · exact weighted.node_nonneg w mem

/-- The search returns. A distance is at most the weight of any path, infinite if and only if every
path has an infinite weight, and otherwise `getPath(0)` is a path of this weight, over no node
twice. -/
theorem shortest_paths (weighted : topo.Weighted) (isNode : target ∈ topo.nodes) :
    ∃ result, (∀ fuel, topo.nodes.length < fuel →
        topo.calculateWeightedSingleShortestPathsTo (some target) fuel = .ok result) ∧
      ∀ v ∈ topo.nodes, (∀ path, topo.Path target v path → result.dist v ≤ topo.pathWeight path) ∧
        (result.dist v = ⊤ ↔ ∀ path, topo.Path target v path → topo.Blocked path) ∧
        (result.dist v ≠ ⊤ → ∃ path, topo.Path target v path ∧
          topo.pathWeight path = result.dist v ∧ (topo.pathNodes v path).Nodup ∧
          ∀ fuel, topo.nodes.length ≤ fuel →
            topo.followPaths target result.outPath fuel v = some path) := by
  obtain ⟨result, finished, returned, labels, empty⟩ :=
    calculateWeightedSingleShortestPathsTo_labels weighted isNode
  have search : (topo.network target).Searching target (fun _ => True) result.dist result.outPath
      finished [] := empty ▸ labels
  have least (v : N) (path : List L) (walk : topo.Path target v path) :
      result.dist v ≤ topo.pathWeight path :=
    (search.le_cost (fun _ => weighted.price_nonneg) walk.route).trans
      (cost_le_pathWeight weighted walk)
  have followed (v : N) (finite : result.dist v ≠ ⊤) : ∃ path, topo.Path target v path ∧
      topo.pathWeight path = result.dist v ∧ (topo.pathNodes v path).Nodup ∧
      ∀ fuel, topo.nodes.length ≤ fuel →
        topo.followPaths target result.outPath fuel v = some path := by
    obtain ⟨path, follows, route, cost, nodup, sub⟩ := search.exists_follows finite
    have walk := path_of_route route
    refine ⟨path, walk, (pathWeight_of_follows walk follows).trans cost,
      pathNodes_eq walk ▸ nodup, fun fuel more => ?_⟩
    have inGraph : v :: path.map (topo.network target).dest ⊆ topo.nodes := fun w mem =>
      labels.mem_nodes isNode (mem_append_left result.q (sub mem))
    have length := (subperm_of_subset nodup inGraph).length_le
    rw [length_cons, length_map] at length
    exact followPaths_of_follows walk follows fuel (by omega)
  refine ⟨result, returned, fun v _ => ⟨least v, ?_, followed v⟩⟩
  constructor
  · intro top path walk
    exact pathWeight_eq_top.mp (top_le_iff.mp (top ▸ least v path walk))
  · intro blocked
    by_contra finite
    obtain ⟨path, walk, weight, -⟩ := followed v finite
    exact finite (weight ▸ pathWeight_eq_top.mpr (blocked path walk))

end

/-- A server, two routers with a shortcut between them, a host that does not route and a host
behind it. -/
def campusEnds (l : Fin 5) : Fin 5 × Fin 5 :=
  match l with
  | 0 => (1, 0)
  | 1 => (2, 0)
  | 2 => (2, 1)
  | 3 => (3, 2)
  | 4 => (4, 3)

def campusTopology : Topology (Fin 5) (Fin 5) ℕ where
  nodes := [0, 1, 2, 3, 4]
  node v :=
    { moduleId := BitVec.ofNat 32 v
      weight := if v = 3 then ⊤ else 1
      enabled := true
      inLinks := (List.finRange 5).filter fun l => (campusEnds l).2 = v
      outLinks := (List.finRange 5).filter fun l => (campusEnds l).1 = v }
  link l :=
    { srcNode := some (campusEnds l).1
      destNode := some (campusEnds l).2
      weight := if l = 1 then 5 else 1
      enabled := true }
  nodes_nodup := by decide
  outLinks_nodup := by decide
  inLinks_nodup := by decide
  mem_outLinks := by decide
  mem_inLinks := by decide
  isSome_ends := by decide
  srcNode_mem := by decide
  destNode_mem := by decide

/-- A host goes, with the link to it. -/
theorem graph_of_run_campus : ∃ topo : Topology (Fin 5) (Fin 5) ℕ,
    topo.graph = campusTopology.graph.perform (.deleteNode 1) ∧ ∀ v l,
      (l ∈ (topo.node v).outLinks ↔ ∃ w, topo.graph.ends l = some (v, w)) ∧
      (l ∈ (topo.node v).inLinks ↔ ∃ w, topo.graph.ends l = some (w, v)) :=
  ⟨_, graph_of_run (show runFrom perform campusTopology [.deleteNode 1] = some _ from rfl)⟩

lemma campusTopology_weighted : campusTopology.Weighted := ⟨by decide, by decide⟩

/-- The router without the shortcut has its distance over the other one. -/
theorem shortest_paths_campus :
    ∃ result, (∀ fuel, 5 < fuel →
        campusTopology.calculateWeightedSingleShortestPathsTo (some 0) fuel = .ok result) ∧
      ∀ v ∈ campusTopology.nodes, (∀ path, campusTopology.Path 0 v path →
          result.dist v ≤ campusTopology.pathWeight path) ∧
        (result.dist v = ⊤ ↔ ∀ path, campusTopology.Path 0 v path → campusTopology.Blocked path) ∧
        (result.dist v ≠ ⊤ → ∃ path, campusTopology.Path 0 v path ∧
          campusTopology.pathWeight path = result.dist v ∧
          (campusTopology.pathNodes v path).Nodup ∧
          ∀ fuel, 5 ≤ fuel → campusTopology.followPaths 0 result.outPath fuel v = some path) :=
  shortest_paths campusTopology_weighted (by decide)

/-- There is a path from the last host, over the host that does not route. -/
theorem shortest_paths_blocked :
    ¬ ∀ (topo : Topology (Fin 5) (Fin 5) ℕ) (target : Fin 5), topo.Weighted →
      target ∈ topo.nodes → ∀ fuel result,
        topo.calculateWeightedSingleShortestPathsTo (some target) fuel = .ok result →
        ∀ v ∈ topo.nodes, result.dist v = ⊤ ↔ ¬ ∃ path, topo.Path target v path := by
  intro claim
  have run : ∃ result, campusTopology.calculateWeightedSingleShortestPathsTo (some 0) 6 =
      .ok result ∧ result.dist 4 = ⊤ := ⟨_, rfl, by decide +kernel⟩
  obtain ⟨result, returned, top⟩ := run
  have noPath := (claim campusTopology 0 campusTopology_weighted (by decide) 6 result returned 4
    (by decide)).mp top
  have behind : campusTopology.Path 0 2 [1] := .link rfl (by decide) rfl rfl .target
  exact noPath ⟨[4, 3, 1], .link rfl (by decide) rfl rfl (.link rfl (by decide) rfl rfl behind)⟩

end Topology

end Inet
