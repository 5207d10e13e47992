import Inet.Lib.Along
import Mathlib.Data.List.NodupEquivFin
import Mathlib.Order.WithBot

/-!
# Topologies

Node objects, and link objects on the lists of the nodes at their two ends. The lists and the ends
agree after every `addNode`, `addLink`, `deleteNode` and `deleteLink`. Weights are exact, and `⊤` is
`INFINITY`.
-/

namespace Inet

/-- `Topology::Node`, without the results of the last search. -/
structure Topology.Node (L R : Type*) where
  moduleId : BitVec 32
  weight : WithTop R
  enabled : Bool
  inLinks : List L
  outLinks : List L

/-- `Topology::Link`; a link that is not in the graph has no ends. -/
structure Topology.Link (N R : Type*) where
  srcNode : Option N
  destNode : Option N
  weight : WithTop R
  enabled : Bool

/-- Node objects `N` and link objects `L`: a link in the graph is once on the list of each of
its two ends, which are nodes of the graph. -/
structure Topology (N L R : Type*) where
  nodes : List N
  node : N → Topology.Node L R
  link : L → Topology.Link N R
  nodes_nodup : nodes.Nodup
  outLinks_nodup : ∀ v, (node v).outLinks.Nodup
  inLinks_nodup : ∀ v, (node v).inLinks.Nodup
  mem_outLinks : ∀ v l, l ∈ (node v).outLinks ↔ (link l).srcNode = some v
  mem_inLinks : ∀ v l, l ∈ (node v).inLinks ↔ (link l).destNode = some v
  isSome_ends : ∀ l, (link l).srcNode.isSome = (link l).destNode.isSome
  srcNode_mem : ∀ l v, (link l).srcNode = some v → v ∈ nodes
  destNode_mem : ∀ l v, (link l).destNode = some v → v ∈ nodes

namespace Topology

variable {N L R : Type*}

/-- Nodes are ordered by their module IDs, behind them come those that have none. -/
def addNode (topo : Topology N L R) (v : N) (fresh : v ∉ topo.nodes) : Topology N L R :=
  { topo with
    nodes :=
      if (topo.node v).moduleId = BitVec.allOnes 32 then topo.nodes ++ [v]
      else topo.nodes.orderedInsert (fun v w => (topo.node v).moduleId ≤ (topo.node w).moduleId) v
    nodes_nodup := by
      have distinct : (v :: topo.nodes).Nodup := List.nodup_cons.mpr ⟨fresh, topo.nodes_nodup⟩
      split
      · exact (List.perm_append_singleton v topo.nodes).nodup_iff.mpr distinct
      · exact (List.perm_orderedInsert _ v topo.nodes).nodup_iff.mpr distinct
    srcNode_mem := fun l w src => by
      have mem := topo.srcNode_mem l w src
      split
      · exact List.mem_append_left [v] mem
      · exact (List.mem_orderedInsert _).mpr (.inr mem)
    destNode_mem := fun l w dest => by
      have mem := topo.destNode_mem l w dest
      split
      · exact List.mem_append_left [v] mem
      · exact (List.mem_orderedInsert _).mpr (.inr mem) }

lemma nodup_pushBack {links : List L} {l : L} (nodup : links.Nodup) (notMem : l ∉ links)
    (here : Prop) [Decidable here] : (links ++ if here then [l] else []).Nodup := by
  split
  · exact List.nodup_append.mpr ⟨nodup, List.nodup_singleton l, fun m mem m' mem' =>
      List.mem_singleton.mp mem' ▸ ne_of_mem_of_not_mem mem notMem⟩
  · simpa using nodup

variable [DecidableEq L]

/-- `unlinkFromSourceNode` and `unlinkFromDestNode`: a link is on no other list than those of its
ends. -/
def unlink (topo : Topology N L R) (l : L) : Topology N L R where
  nodes := topo.nodes
  node v :=
    { topo.node v with
      inLinks := (topo.node v).inLinks.erase l
      outLinks := (topo.node v).outLinks.erase l }
  link := Function.update topo.link l { topo.link l with srcNode := none, destNode := none }
  nodes_nodup := topo.nodes_nodup
  outLinks_nodup v := (topo.outLinks_nodup v).erase l
  inLinks_nodup v := (topo.inLinks_nodup v).erase l
  mem_outLinks v m := by
    rw [(topo.outLinks_nodup v).mem_erase_iff, topo.mem_outLinks]
    by_cases same : m = l
    · simp [same]
    · simp [same]
  mem_inLinks v m := by
    rw [(topo.inLinks_nodup v).mem_erase_iff, topo.mem_inLinks]
    by_cases same : m = l
    · simp [same]
    · simp [same]
  isSome_ends m := by
    by_cases same : m = l
    · simp [same]
    · simp [same, topo.isSome_ends m]
  srcNode_mem m v src := by
    by_cases same : m = l
    · simp [same] at src
    · exact topo.srcNode_mem m v (by simpa [same] using src)
  destNode_mem m v dest := by
    by_cases same : m = l
    · simp [same] at dest
    · exact topo.destNode_mem m v (by simpa [same] using dest)

variable (topo : Topology N L R)

lemma unlink_link (l m : L) : (topo.unlink l).link m =
      if m = l then { topo.link l with srcNode := none, destNode := none } else topo.link m :=
  Function.update_apply ..

lemma link_notMem_outLinks (l : L) (v : N) : l ∉ ((topo.unlink l).node v).outLinks := by
  rw [(topo.unlink l).mem_outLinks, unlink_link, if_pos rfl]
  exact (Option.some_ne_none v).symm

lemma link_notMem_inLinks (l : L) (v : N) : l ∉ ((topo.unlink l).node v).inLinks := by
  rw [(topo.unlink l).mem_inLinks, unlink_link, if_pos rfl]
  exact (Option.some_ne_none v).symm

def deleteLink (topo : Topology N L R) (l : L) : Topology N L R := topo.unlink l

/-- The loops of `deleteNode`. -/
def deleteLinks (topo : Topology N L R) (links : List L) : Topology N L R :=
  links.foldl deleteLink topo

lemma deleteLinks_link (links : List L) (m : L) : (topo.deleteLinks links).link m =
      if m ∈ links then { topo.link m with srcNode := none, destNode := none }
      else topo.link m := by
  induction links generalizing topo with
  | nil => rfl
  | cons l links ih =>
    rw [deleteLinks, List.foldl_cons]
    refine (ih (topo.deleteLink l)).trans ?_
    rw [deleteLink, unlink_link]
    by_cases same : m = l
    · simp [same]
    · simp [same]

lemma deleteLinks_outLinks (v : N) (m : L) :
    ((topo.deleteLinks (topo.node v).outLinks).link m).srcNode ≠ some v := by
  rw [deleteLinks_link]
  split
  · exact (Option.some_ne_none v).symm
  · rename_i notMem
    exact fun src => notMem ((topo.mem_outLinks v m).mpr src)

lemma deleteLinks_inLinks (v : N) (m : L) :
    ((topo.deleteLinks (topo.node v).inLinks).link m).destNode ≠ some v := by
  rw [deleteLinks_link]
  split
  · exact (Option.some_ne_none v).symm
  · rename_i notMem
    exact fun dest => notMem ((topo.mem_inLinks v m).mpr dest)

lemma srcNode_of_deleteLinks {links : List L} {m : L} {v : N}
    (src : ((topo.deleteLinks links).link m).srcNode = some v) :
    (topo.link m).srcNode = some v := by
  rw [deleteLinks_link] at src
  split at src
  · exact absurd src (Option.some_ne_none v).symm
  · exact src

variable [DecidableEq N]

/-- A link that is in the graph is removed first. -/
def addLink (topo : Topology N L R) (l : L) (srcNode destNode : N) (src_mem : srcNode ∈ topo.nodes)
    (dest_mem : destNode ∈ topo.nodes) : Topology N L R where
  nodes := topo.nodes
  node v :=
    { (topo.unlink l).node v with
      inLinks := ((topo.unlink l).node v).inLinks ++ if destNode = v then [l] else []
      outLinks := ((topo.unlink l).node v).outLinks ++ if srcNode = v then [l] else [] }
  link := Function.update (topo.unlink l).link l
    { (topo.unlink l).link l with srcNode := some srcNode, destNode := some destNode }
  nodes_nodup := topo.nodes_nodup
  outLinks_nodup v :=
    nodup_pushBack ((topo.unlink l).outLinks_nodup v) (topo.link_notMem_outLinks l v) _
  inLinks_nodup v :=
    nodup_pushBack ((topo.unlink l).inLinks_nodup v) (topo.link_notMem_inLinks l v) _
  mem_outLinks v m := by
    rw [List.mem_append, (topo.unlink l).mem_outLinks, Function.update_apply]
    by_cases same : m = l
    · simp [same, unlink_link]
    · simp [same]
  mem_inLinks v m := by
    rw [List.mem_append, (topo.unlink l).mem_inLinks, Function.update_apply]
    by_cases same : m = l
    · simp [same, unlink_link]
    · simp [same]
  isSome_ends m := by
    by_cases same : m = l
    · simp [same]
    · simp [same, (topo.unlink l).isSome_ends m]
  srcNode_mem m v src := by
    by_cases same : m = l
    · simp only [same, Function.update_self, Option.some.injEq] at src
      exact src ▸ src_mem
    · exact (topo.unlink l).srcNode_mem m v (by simpa [same] using src)
  destNode_mem m v dest := by
    by_cases same : m = l
    · simp only [same, Function.update_self, Option.some.injEq] at dest
      exact dest ▸ dest_mem
    · exact (topo.unlink l).destNode_mem m v (by simpa [same] using dest)

def deleteNode (topo : Topology N L R) (v : N) : Topology N L R :=
  let outgoing := topo.deleteLinks (topo.node v).outLinks
  let incoming := outgoing.deleteLinks (outgoing.node v).inLinks
  { incoming with
    nodes := incoming.nodes.erase v
    nodes_nodup := incoming.nodes_nodup.erase v
    srcNode_mem := fun l w src => by
      refine incoming.nodes_nodup.mem_erase_iff.mpr ⟨?_, incoming.srcNode_mem l w src⟩
      rintro rfl
      exact topo.deleteLinks_outLinks w l (outgoing.srcNode_of_deleteLinks src)
    destNode_mem := fun l w dest => by
      refine incoming.nodes_nodup.mem_erase_iff.mpr ⟨?_, incoming.destNode_mem l w dest⟩
      rintro rfl
      exact outgoing.deleteLinks_inLinks w l dest }

/-! ## The graph -/

variable {topo topo' : Topology N L R}

/-- A directed multigraph: its nodes, and the ends of the links that are in it. -/
@[ext]
structure Digraph (N L : Type*) where
  nodes : Set N
  ends : L → Option (N × N)

def graph (topo : Topology N L R) : Digraph N L where
  nodes := {v | v ∈ topo.nodes}
  ends l := Option.map₂ Prod.mk (topo.link l).srcNode (topo.link l).destNode

inductive Op (N L : Type*) where
  | addNode (v : N)
  | addLink (l : L) (srcNode destNode : N)
  | deleteLink (l : L)
  | deleteNode (v : N)

/-- `none` where the source asserts that the object is in the graph, or relies on it. -/
def perform (topo : Topology N L R) : Op N L → Option (Topology N L R)
  | .addNode v => if fresh : v ∉ topo.nodes then some (topo.addNode v fresh) else none
  | .addLink l srcNode destNode =>
      if mem : srcNode ∈ topo.nodes ∧ destNode ∈ topo.nodes then
        some (topo.addLink l srcNode destNode mem.1 mem.2)
      else none
  | .deleteLink l => if (topo.link l).srcNode.isSome then some (topo.deleteLink l) else none
  | .deleteNode v => if v ∈ topo.nodes then some (topo.deleteNode v) else none

def Digraph.perform (graph : Digraph N L) : Op N L → Digraph N L
  | .addNode v => { graph with nodes := insert v graph.nodes }
  | .addLink l srcNode destNode =>
      { graph with ends := Function.update graph.ends l (some (srcNode, destNode)) }
  | .deleteLink l => { graph with ends := Function.update graph.ends l none }
  | .deleteNode v =>
      { nodes := graph.nodes \ {v}
        ends := fun l => (graph.ends l).filter fun e => e.1 ≠ v ∧ e.2 ≠ v }

lemma perform_graph {op : Op N L} (ok : topo.perform op = some topo') :
    topo'.graph = topo.graph.perform op := by
  cases op with
  | addNode v =>
    rw [perform] at ok
    split_ifs at ok with fresh
    cases ok
    refine Digraph.ext (Set.ext fun w => ?_) rfl
    dsimp only [graph, addNode, Digraph.perform]
    split_ifs <;> simp [or_comm]
  | addLink l srcNode destNode =>
    rw [perform] at ok
    split_ifs at ok with mem
    cases ok
    refine Digraph.ext rfl (funext fun m => ?_)
    obtain rfl | other := eq_or_ne m l
    · simp [graph, addLink, Digraph.perform]
    · simp [graph, addLink, Digraph.perform, unlink_link, other]
  | deleteLink l =>
    rw [perform] at ok
    split_ifs at ok
    cases ok
    refine Digraph.ext rfl (funext fun m => ?_)
    obtain rfl | other := eq_or_ne m l
    · simp [graph, deleteLink, Digraph.perform, unlink_link]
    · simp [graph, deleteLink, Digraph.perform, unlink_link, other]
  | deleteNode v =>
    rw [perform] at ok
    split_ifs at ok with mem
    cases ok
    refine Digraph.ext (Set.ext fun w => ?_) (funext fun m => ?_)
    · have same (topo : Topology N L R) (links : List L) :
          (topo.deleteLinks links).nodes = topo.nodes := by
        induction links generalizing topo with
        | nil => rfl
        | cons l links ih => exact ih (topo.unlink l)
      simp only [graph, deleteNode, same, Digraph.perform, Set.mem_ofPred_eq, Set.mem_sdiff,
        Set.mem_singleton_iff, topo.nodes_nodup.mem_erase_iff, and_comm]
    · have ends := topo.isSome_ends m
      dsimp only [graph, deleteNode, Digraph.perform]
      simp only [deleteLinks_link, mem_inLinks, mem_outLinks]
      split_ifs <;> cases src : (topo.link m).srcNode <;> cases dest : (topo.link m).destNode <;>
        simp_all [Option.filter_some]

/-- Whatever is added and deleted, the lists of links stand for the graph. -/
theorem graph_of_run {ops : List (Op N L)} (run : runFrom perform topo ops = some topo') :
    topo'.graph = ops.foldl Digraph.perform topo.graph ∧ ∀ v l,
      (l ∈ (topo'.node v).outLinks ↔ ∃ w, topo'.graph.ends l = some (v, w)) ∧
      (l ∈ (topo'.node v).inLinks ↔ ∃ w, topo'.graph.ends l = some (w, v)) := by
  constructor
  · induction ops generalizing topo with
    | nil => cases run; rfl
    | cons op ops ih =>
      obtain ⟨next, ok, run⟩ := Option.bind_eq_some_iff.mp run
      rw [ih run, perform_graph ok]
      rfl
  · intro v l
    have ends := topo'.isSome_ends l
    rw [topo'.mem_outLinks, topo'.mem_inLinks, graph]
    cases src : (topo'.link l).srcNode <;> cases dest : (topo'.link l).destNode <;>
      simp_all

end Topology

end Inet
