import Mathlib.Order.Lattice
import Mathlib.Tactic.Common

/-!
# Shortest paths

`Path edge root v d`: a path of cost `d` from `root` to `v`. `Search` holds between the steps of a
search that grows a tree of vertices with exact distances and keeps candidates with the cost of some
path. With no candidate left the tree holds all reachable vertices.
-/

namespace Inet

variable {V : Type*} {edge : V → V → ℕ → Prop} {root : V}

inductive Path (edge : V → V → ℕ → Prop) (root : V) : V → ℕ → Prop
  | root : Path edge root root 0
  | step {u v : V} {d c : ℕ} : Path edge root u d → edge u v c → Path edge root v (d + c)

lemma Path.mem_of_closed {vs : List V} (mem : root ∈ vs)
    (closed : ∀ u ∈ vs, ∀ v c, edge u v c → v ∈ vs) {v : V} {d : ℕ} (path : Path edge root v d) :
    v ∈ vs := by
  induction path with
  | root => exact mem
  | step _ here ih => exact closed _ ih _ _ here

/-- The least cost of a path. -/
structure IsDistance (edge : V → V → ℕ → Prop) (root v : V) (d : ℕ) : Prop where
  path : Path edge root v d
  least : ∀ d', Path edge root v d' → d ≤ d'

lemma IsDistance.unique {v : V} {d d' : ℕ} (h : IsDistance edge root v d)
    (h' : IsDistance edge root v d') : d = d' :=
  (h.least d' h'.path).antisymm (h'.least d h.path)

/-- The tree, the candidates and the costs found so far. -/
structure Labels (V : Type*) where
  tree : V → Prop
  cand : V → Prop
  dist : V → ℕ

/-- `relaxed` are the edges already looked at. -/
structure Search (edge : V → V → ℕ → Prop) (root : V) (relaxed : V → V → ℕ → Prop)
    (labels : Labels V) : Prop where
  root_mem : labels.tree root
  apart : ∀ v, labels.cand v → ¬ labels.tree v
  exact : ∀ v, labels.tree v → IsDistance edge root v (labels.dist v)
  path : ∀ v, labels.cand v → Path edge root v (labels.dist v)
  relaxed : ∀ u v c, labels.tree u → relaxed u v c →
    labels.tree v ∨ (labels.cand v ∧ labels.dist v ≤ labels.dist u + c)

namespace Search

variable {relaxed relaxed' : V → V → ℕ → Prop} {labels labels' : Labels V} {u v : V} {c d : ℕ}

/-- A path to a vertex outside of the tree costs no less than some candidate. -/
lemma frontier (search : Search edge root edge labels) (path : Path edge root v d) :
    labels.tree v ∨ ∃ w, labels.cand w ∧ labels.dist w ≤ d := by
  induction path with
  | root => exact .inl search.root_mem
  | step path here ih =>
    rcases ih with mem | ⟨w, candidate, le⟩
    · rcases search.relaxed _ _ _ mem here with onTree | ⟨candidate, le⟩
      · exact .inl onTree
      · refine .inr ⟨_, candidate, le.trans ?_⟩
        exact Nat.add_le_add_right ((search.exact _ mem).least _ path) _
    · exact .inr ⟨w, candidate, le.trans (Nat.le_add_right _ _)⟩

lemma select (search : Search edge root edge labels) (candidate : labels.cand v)
    (nearest : ∀ w, labels.cand w → labels.dist v ≤ labels.dist w)
    (tree : ∀ w, labels'.tree w ↔ labels.tree w ∨ w = v)
    (cand : ∀ w, labels'.cand w ↔ labels.cand w ∧ w ≠ v)
    (dist : ∀ w, labels'.dist w = labels.dist w) :
    Search edge root (fun u w c => u ≠ v ∧ edge u w c) labels' where
  root_mem := (tree root).mpr (.inl search.root_mem)
  apart := by
    intro w mem
    obtain ⟨wasCand, ne⟩ := (cand w).mp mem
    rw [tree]
    rintro (onTree | eq)
    · exact search.apart w wasCand onTree
    · exact ne eq
  exact := by
    intro w mem
    rw [dist]
    rcases (tree w).mp mem with onTree | rfl
    · exact search.exact w onTree
    · refine ⟨search.path w candidate, ?_⟩
      intro d path
      rcases search.frontier path with onTree | ⟨x, xCand, le⟩
      · exact absurd onTree (search.apart w candidate)
      · exact (nearest x xCand).trans le
  path := by
    intro w mem
    rw [dist]
    exact search.path w ((cand w).mp mem).1
  relaxed := by
    rintro u w c mem ⟨ne, here⟩
    rw [dist, dist]
    have onTree := ((tree u).mp mem).resolve_right ne
    rcases search.relaxed u w c onTree here with wTree | ⟨wCand, le⟩
    · exact .inl ((tree w).mpr (.inl wTree))
    · by_cases eq : w = v
      · exact .inl ((tree w).mpr (.inr eq))
      · exact .inr ⟨(cand w).mpr ⟨wCand, eq⟩, le⟩

/-- The target of the edge is on the tree already, or becomes a candidate unless it is one with no
greater cost. -/
lemma relax (search : Search edge root relaxed labels) (mem : labels.tree u) (here : edge u v c)
    (tree : ∀ w, labels'.tree w ↔ labels.tree w)
    (cand : ∀ w, labels'.cand w ↔ labels.cand w ∨ (w = v ∧ ¬ labels.tree v))
    (target : ¬ labels.tree v → labels'.dist v = labels.dist u + c ∨
      (labels'.dist v = labels.dist v ∧ labels.cand v))
    (least : ¬ labels.tree v → labels'.dist v ≤ labels.dist u + c ∧
      (labels.cand v → labels'.dist v ≤ labels.dist v))
    (others : ∀ w, w ≠ v ∨ labels.tree v → labels'.dist w = labels.dist w) :
    Search edge root (fun x w d => relaxed x w d ∨ (x = u ∧ w = v ∧ d = c)) labels' := by
  have same : ∀ w, labels.tree w → labels'.dist w = labels.dist w := by
    intro w onTree
    apply others
    by_cases eq : w = v
    · exact .inr (eq ▸ onTree)
    · exact .inl eq
  constructor
  · exact (tree root).mpr search.root_mem
  · intro w wCand
    rw [tree]
    rcases (cand w).mp wCand with wasCand | ⟨rfl, notTree⟩
    · exact search.apart w wasCand
    · exact notTree
  · intro w onTree
    rw [tree] at onTree
    rw [same w onTree]
    exact search.exact w onTree
  · intro w wCand
    have uPath := (search.exact u mem).path.step here
    by_cases eq : w = v
    · subst eq
      have notTree : ¬ labels.tree w := by
        rcases (cand w).mp wCand with wasCand | ⟨-, notTree⟩
        · exact search.apart w wasCand
        · exact notTree
      rcases target notTree with through | ⟨kept, wasCand⟩
      · rw [through]
        exact uPath
      · rw [kept]
        exact search.path w wasCand
    · rw [others w (.inl eq)]
      rcases (cand w).mp wCand with wasCand | ⟨new, -⟩
      · exact search.path w wasCand
      · exact absurd new eq
  · intro x w d xMem looked
    rw [tree] at xMem ⊢
    rw [same x xMem]
    by_cases onTree : labels.tree w
    · exact .inl onTree
    · right
      rcases looked with before | ⟨rfl, rfl, rfl⟩
      · obtain ⟨wasCand, le⟩ := (search.relaxed x w d xMem before).resolve_left onTree
        refine ⟨(cand w).mpr (.inl wasCand), ?_⟩
        by_cases eq : w = v
        · subst eq
          exact ((least onTree).2 wasCand).trans le
        · rw [others w (.inl eq)]
          exact le
      · exact ⟨(cand w).mpr (.inr ⟨rfl, onTree⟩), (least onTree).1⟩

/-- When no candidate is left, the tree holds the reachable vertices. -/
lemma mem_tree_iff (search : Search edge root edge labels) (none : ∀ w, ¬ labels.cand w) :
    labels.tree v ↔ ∃ d, Path edge root v d := by
  constructor
  · exact fun mem => ⟨_, (search.exact v mem).path⟩
  · rintro ⟨d, path⟩
    rcases search.frontier path with mem | ⟨w, candidate, -⟩
    · exact mem
    · exact absurd candidate (none w)

lemma start (tree : ∀ w, labels.tree w ↔ w = root) (cand : ∀ w, ¬ labels.cand w)
    (dist : labels.dist root = 0) :
    Search edge root (fun u w c => u ≠ root ∧ edge u w c) labels where
  root_mem := (tree root).mpr rfl
  apart w candidate := absurd candidate (cand w)
  exact := by
    intro w mem
    rw [(tree w).mp mem, dist]
    exact ⟨.root, fun _ _ => Nat.zero_le _⟩
  path w candidate := absurd candidate (cand w)
  relaxed u w c mem looked := absurd ((tree u).mp mem) looked.1

end Search

end Inet
