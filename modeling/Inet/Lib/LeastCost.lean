import Inet.Lib.BestMatch
import Mathlib.Algebra.BigOperators.Group.List.Basic
import Mathlib.Algebra.Order.Group.Defs
import Mathlib.Data.Finset.Card

/-!
# Routes of least cost

Dijkstra's search to one root: the finished vertices and the waiting ones behind them are one list
sorted by distance (`Searching`). When nothing waits, a distance is at most the cost of every route,
and the links noted lead to the root at exactly that cost.

Relaxing all links: after `k` rounds a distance is at most the cost of every route of `k` links, and
simple routes need no more links than there are other vertices.
-/

namespace Inet

open List

/-- Links with a source, a destination and a price. -/
structure Network (V L W : Type*) where
  src : L → V
  dest : L → V
  price : L → W
  usable : L → Prop

namespace Network

variable {V L W : Type*} {net : Network V L W} {root : V}

/-- Usable links from a vertex to the root. -/
inductive Route (net : Network V L W) (root : V) : V → List L → Prop
  | root : Route net root root []
  | link {l : L} {ls : List L} : net.usable l → Route net root (net.dest l) ls →
      Route net root (net.src l) (l :: ls)

/-- The links that one gets by following `parent` to the root. -/
inductive Follows (net : Network V L W) (parent : V → Option L) (root : V) : V → List L → Prop
  | root : Follows net parent root root []
  | link {v : V} {l : L} {ls : List L} : v ≠ root → parent v = some l →
      Follows net parent root (net.dest l) ls → Follows net parent root v (l :: ls)

variable [AddCommMonoid W]

/-- The prices of the links. -/
def cost (net : Network V L W) (ls : List L) : W := (ls.map net.price).sum

@[simp] lemma cost_nil : net.cost [] = 0 := rfl

@[simp] lemma cost_cons (l : L) (ls : List L) : net.cost (l :: ls) = net.price l + net.cost ls :=
  sum_cons

/-- The root, or a vertex whose link leads to one of the known vertices. -/
def Attached (net : Network V L W) (root : V) (dist : V → W) (parent : V → Option L)
    (known : List V) (v : V) : Prop :=
  v = root ∨ ∃ l, parent v = some l ∧ net.usable l ∧ net.src l = v ∧ net.dest l ∈ known ∧
    dist v = net.price l + dist (net.dest l)

variable [LinearOrder W] [OrderTop W]

/-- `relaxed` are the links looked at so far. -/
structure Searching (net : Network V L W) (root : V) (relaxed : L → Prop) (dist : V → W)
    (parent : V → Option L) (finished waiting : List V) : Prop where
  nodup : (finished ++ waiting).Nodup
  sorted : SortedBy dist (finished ++ waiting)
  labelled : ∀ v, dist v ≠ ⊤ ↔ v ∈ finished ++ waiting
  root_dist : dist root = 0
  finished_attached : ∀ pre v post, finished = pre ++ v :: post →
    net.Attached root dist parent pre v
  waiting_attached : ∀ v ∈ waiting, net.Attached root dist parent finished v
  relaxed : ∀ l, relaxed l → net.usable l → net.dest l ∈ finished →
    dist (net.src l) ≤ net.price l + dist (net.dest l)

namespace Searching

variable {relaxed relaxed' : L → Prop} {dist : V → W} {parent : V → Option L}
  {finished waiting : List V} {l : L} {v : V}

variable (search : net.Searching root relaxed dist parent finished waiting)
include search

lemma mono (of_relaxed : ∀ l, net.usable l → net.dest l ∈ finished → relaxed' l → relaxed l) :
    net.Searching root relaxed' dist parent finished waiting :=
  { search with
    relaxed := fun l seen usable mem =>
      search.relaxed l (of_relaxed l usable mem seen) usable mem }

omit search in
lemma start (root_dist : dist root = 0) (others : ∀ v, v ≠ root → dist v = ⊤)
    (zero_ne_top : (0 : W) ≠ ⊤) : net.Searching root relaxed dist parent [] [root] where
  nodup := nodup_singleton root
  sorted := pairwise_singleton _ root
  labelled v := by
    rw [nil_append, mem_singleton]
    constructor
    · intro ne
      by_contra other
      exact ne (others v other)
    · rintro rfl
      exact root_dist ▸ zero_ne_top
  root_dist := root_dist
  finished_attached pre v post eq := absurd eq (by simp)
  waiting_attached v mem := .inl (mem_singleton.mp mem)
  relaxed l _ _ mem := absurd mem not_mem_nil

omit search in
lemma select (search : net.Searching root (fun _ => True) dist parent finished (v :: waiting)) :
    net.Searching root (fun l => net.dest l ≠ v) dist parent (finished ++ [v]) waiting := by
  have shift : finished ++ v :: waiting = (finished ++ [v]) ++ waiting :=
    append_cons finished v waiting
  refine ⟨shift ▸ search.nodup, shift ▸ search.sorted, shift ▸ search.labelled, search.root_dist,
    ?_, ?_, ?_⟩
  · intro pre w post eq
    rcases eq_nil_or_concat post with rfl | ⟨post, last, rfl⟩
    · obtain ⟨rfl, same⟩ := append_inj' eq rfl
      cases same
      exact search.waiting_attached _ mem_cons_self
    · have eq' : finished ++ [v] = (pre ++ w :: post) ++ [last] := by
        simp only [eq, concat_eq_append, append_assoc, cons_append]
      exact search.finished_attached pre w post (append_inj' eq' rfl).1
  · intro w mem
    rcases search.waiting_attached w (mem_cons_of_mem v mem) with isRoot | attached
    · exact .inl isRoot
    · obtain ⟨l, noted, usable, src, dest, dist_eq⟩ := attached
      exact .inr ⟨l, noted, usable, src, mem_append_left [v] dest, dist_eq⟩
  · intro l other usable mem
    rcases mem_append.mp mem with mem | mem
    · exact search.relaxed l trivial usable mem
    · exact absurd (mem_singleton.mp mem) other

lemma skip (no_better : net.usable l → dist (net.src l) ≤ net.price l + dist (net.dest l)) :
    net.Searching root (fun m => relaxed m ∨ m = l) dist parent finished waiting :=
  { search with
    relaxed := fun m seen usable mem => by
      rcases seen with seen | rfl
      · exact search.relaxed m seen usable mem
      · exact no_better usable }

lemma root_mem (mem : v ∈ finished) : root ∈ finished := by
  cases finished with
  | nil => exact absurd mem not_mem_nil
  | cons first rest =>
    rcases search.finished_attached [] first rest rfl with rfl | ⟨l, _, _, _, dest, _⟩
    · exact mem_cons_self
    · exact absurd dest not_mem_nil

omit search in
lemma le_last (search : net.Searching root relaxed dist parent (finished ++ [v]) waiting) {x : V}
    (mem : x ∈ finished ++ [v]) : dist x ≤ dist v := by
  rcases mem_append.mp mem with done | mem
  · have sorted : (finished ++ [v]).Pairwise fun x y => dist x ≤ dist y :=
      (pairwise_append.mp search.sorted).1
    exact (pairwise_append.mp sorted).2.2 x done v (mem_singleton_self v)
  · exact (congrArg dist (mem_singleton.mp mem)).le

lemma root_or_src
    (mem : v ∈ finished ++ waiting) : v = root ∨ ∃ l, net.usable l ∧ net.src l = v := by
  have attached : ∃ known, net.Attached root dist parent known v := by
    rcases mem_append.mp mem with done | waits
    · obtain ⟨pre, post, split⟩ := append_of_mem done
      exact ⟨pre, search.finished_attached pre v post split⟩
    · exact ⟨finished, search.waiting_attached v waits⟩
  obtain ⟨known, isRoot | ⟨l, _, usable, src, _⟩⟩ := attached
  · exact .inl isRoot
  · exact .inr ⟨l, usable, src⟩

variable [IsOrderedAddMonoid W]

/-- A better distance for the source of a link to a vertex that no finished vertex is farther away
than. -/
lemma relax [DecidableEq V] (usable : net.usable l) (nonneg : 0 ≤ net.price l)
    (mem : net.dest l ∈ finished) (last : ∀ x ∈ finished, dist x ≤ dist (net.dest l))
    (finite : net.price l + dist (net.dest l) ≠ ⊤)
    (better : net.price l + dist (net.dest l) < dist (net.src l)) {dist' : V → W}
    (relabelled : dist' = Function.update dist (net.src l) (net.price l + dist (net.dest l))) :
    net.Searching root (fun m => relaxed m ∨ m = l) dist'
      (Function.update parent (net.src l) (some l)) finished
      (insertBy dist' (net.src l) (waiting.filter (· ≠ net.src l))) := by
  have le_new : dist (net.dest l) ≤ net.price l + dist (net.dest l) := le_add_of_nonneg_left nonneg
  have notMem : net.src l ∉ finished := fun done =>
    ((last _ done).trans le_new).not_gt better
  have dist_src : dist' (net.src l) = net.price l + dist (net.dest l) :=
    relabelled ▸ Function.update_self ..
  have dist_ne (v : V) (ne : v ≠ net.src l) : dist' v = dist v :=
    relabelled ▸ Function.update_of_ne ne ..
  have dist_finished (v : V) (done : v ∈ finished) : dist' v = dist v :=
    dist_ne v (ne_of_mem_of_not_mem done notMem)
  have dist_le (v : V) : dist' v ≤ dist v := by
    by_cases eq : v = net.src l
    · exact eq ▸ dist_src.trans_le better.le
    · exact (dist_ne v eq).le
  have mem_queue (v : V) : v ∈ insertBy dist' (net.src l) (waiting.filter (· ≠ net.src l)) ↔
      v = net.src l ∨ v ∈ waiting := by
    rw [mem_insertBy, mem_filter, decide_eq_true_iff]
    tauto
  have attached (pre : List V) (v : V) (sub : pre ⊆ finished) (ne : v ≠ net.src l)
      (attached : net.Attached root dist parent pre v) :
      net.Attached root dist' (Function.update parent (net.src l) (some l)) pre v := by
    rcases attached with isRoot | ⟨m, noted, usable, src, dest, eq⟩
    · exact .inl isRoot
    · refine .inr ⟨m, (Function.update_of_ne ne ..).trans noted, usable, src, dest, ?_⟩
      rw [dist_ne v ne, dist_finished _ (sub dest), eq]
  obtain ⟨finished_nodup, waiting_nodup, apart⟩ := nodup_append.mp search.nodup
  obtain ⟨finished_sorted, waiting_sorted, across⟩ := pairwise_append.mp search.sorted
  refine ⟨?nodup, ?sorted, ?labelled, ?root_dist, ?finished_attached, ?waiting_attached, ?relaxed⟩
  case nodup =>
    have others : (net.src l :: waiting.filter (· ≠ net.src l)).Nodup :=
      nodup_cons.mpr ⟨fun mem => by simpa using of_mem_filter mem,
        waiting_nodup.filter _⟩
    refine nodup_append.mpr ⟨finished_nodup, (perm_orderedInsert _ _ _).nodup_iff.mpr others, ?_⟩
    intro v done w waits
    rcases (mem_queue w).mp waits with rfl | waits
    · exact ne_of_mem_of_not_mem done notMem
    · exact apart v done w waits
  case sorted =>
    have others : SortedBy dist' (waiting.filter (· ≠ net.src l)) := by
      refine (waiting_sorted.sublist filter_sublist).imp_of_mem fun mem mem' le => ?_
      have ne := of_decide_eq_true (mem_filter.mp mem).2
      have ne' := of_decide_eq_true (mem_filter.mp mem').2
      rwa [dist_ne _ ne, dist_ne _ ne']
    refine pairwise_append.mpr ⟨?_, others.insertBy, ?_⟩
    · refine finished_sorted.imp_of_mem fun done done' le => ?_
      rwa [dist_finished _ done, dist_finished _ done']
    · intro v done w waits
      rw [dist_finished v done]
      by_cases eq : w = net.src l
      · exact eq ▸ dist_src ▸ (last v done).trans le_new
      · rw [dist_ne w eq]
        exact across v done w (((mem_queue w).mp waits).resolve_left eq)
  case labelled =>
    intro v
    rw [mem_append, mem_queue v]
    by_cases eq : v = net.src l
    · simp only [eq, dist_src, ne_eq, finite, not_false_eq_true, true_or, or_true]
    · rw [dist_ne v eq, search.labelled v, mem_append, or_iff_right eq]
  case root_dist =>
    rw [dist_finished root (search.root_mem mem), search.root_dist]
  case finished_attached =>
    intro pre v post eq
    have done : v ∈ finished := eq ▸ mem_append_right pre mem_cons_self
    have sub : pre ⊆ finished := eq ▸ subset_append_left ..
    exact attached pre v sub (ne_of_mem_of_not_mem done notMem)
      (search.finished_attached pre v post eq)
  case waiting_attached =>
    intro v waits
    by_cases eq : v = net.src l
    · subst eq
      refine .inr ⟨l, Function.update_self .., usable, rfl, mem, ?_⟩
      rw [dist_src, dist_finished _ mem]
    · exact attached finished v (List.Subset.refl _) eq
        (search.waiting_attached v (((mem_queue v).mp waits).resolve_left eq))
  case relaxed =>
    intro m seen usable done
    rw [dist_finished _ done]
    rcases seen with seen | rfl
    · exact (dist_le _).trans (search.relaxed m seen usable done)
    · exact dist_src.le

end Searching

namespace Searching

variable {dist : V → W} {parent : V → Option L} {finished : List V} {v : V}

section

variable (search : net.Searching root (fun _ => True) dist parent finished [])

include search

lemma mem_finished (finite : dist v ≠ ⊤) : v ∈ finished := by
  simpa using (search.labelled v).mp finite

lemma follows_of_split (pre : List V) (v : V) (post : List V)
    (split : finished = pre ++ v :: post) :
    ∃ ls, net.Follows parent root v ls ∧ net.Route root v ls ∧ net.cost ls = dist v ∧
      (v :: ls.map net.dest).Nodup ∧ v :: ls.map net.dest ⊆ pre ++ [v] := by
  by_cases isRoot : v = root
  · subst isRoot
    refine ⟨[], .root, .root, search.root_dist.symm, nodup_singleton v, ?_⟩
    exact subset_append_right pre [v]
  · obtain ⟨l, noted, usable, src, dest, eq⟩ :=
      (search.finished_attached pre v post split).resolve_left isRoot
    obtain ⟨before, behind, here⟩ := append_of_mem dest
    have split' : finished = before ++ net.dest l :: (behind ++ v :: post) := by
      rw [split, here, append_assoc, cons_append]
    obtain ⟨ls, follows, route, cost, nodup, sub⟩ :=
      follows_of_split before (net.dest l) (behind ++ v :: post) split'
    have sub' : net.dest l :: ls.map net.dest ⊆ pre := by
      rw [here, append_cons]
      exact fun w mem => mem_append_left behind (sub mem)
    have apart : v ∉ pre := fun mem => by
      have nodup : (pre ++ v :: post).Nodup := by
        rw [← split, ← append_nil finished]
        exact search.nodup
      exact (nodup_append.mp nodup).2.2 v mem v mem_cons_self rfl
    refine ⟨l :: ls, .link isRoot noted follows, src ▸ .link usable route, ?_, ?_, ?_⟩
    · rw [cost_cons, cost, eq]
    · exact nodup_cons.mpr ⟨fun mem => apart (sub' mem), nodup⟩
    · refine cons_subset.mpr ⟨mem_append_right pre mem_cons_self, ?_⟩
      exact fun w mem => mem_append_left [v] (sub' mem)
termination_by pre.length
decreasing_by
  rw [here, List.length_append, List.length_cons]
  omega

lemma exists_follows (finite : dist v ≠ ⊤) :
    ∃ ls, net.Follows parent root v ls ∧ net.Route root v ls ∧ net.cost ls = dist v ∧
      (v :: ls.map net.dest).Nodup ∧ v :: ls.map net.dest ⊆ finished := by
  obtain ⟨pre, post, split⟩ := append_of_mem (search.mem_finished finite)
  obtain ⟨ls, follows, route, cost, nodup, sub⟩ := search.follows_of_split pre v post split
  refine ⟨ls, follows, route, cost, nodup, fun w mem => ?_⟩
  rw [split, append_cons]
  exact mem_append_left post (sub mem)

end

variable [IsOrderedAddMonoid W]

lemma le_cost (search : net.Searching root (fun _ => True) dist parent finished [])
    (nonneg : ∀ l, net.usable l → 0 ≤ net.price l) {ls : List L}
    (route : net.Route root v ls) : dist v ≤ net.cost ls := by
  induction route with
  | root => exact search.root_dist.le
  | @link l ls usable _ ih =>
    rw [cost_cons]
    have through : net.price l + dist (net.dest l) ≤ net.price l + net.cost ls :=
      add_le_add_right ih _
    by_cases finite : dist (net.dest l) = ⊤
    · have top : (⊤ : W) ≤ net.price l + dist (net.dest l) :=
        finite ▸ le_add_of_nonneg_left (nonneg l usable)
      exact le_top.trans (top.trans through)
    · exact (search.relaxed l trivial usable (search.mem_finished finite)).trans through

end Searching

end Network

/-! ## Relaxing all links round after round -/

open Function

namespace Network

variable {V L W : Type*} {net : Network V L W} {root v : V} {l : L} {ls : List L}

/-- The vertices of a route, the root last. -/
def nodes (net : Network V L W) (v : V) (ls : List L) : List V := v :: ls.map net.dest

/-- The vertices that one gets by climbing to the root, where the climb ends. -/
inductive Climbs (parent : V → Option V) (root : V) : V → List V → Prop
  | root : parent root = none → Climbs parent root root [root]
  | step {v u : V} {us : List V} : parent v = some u → Climbs parent root u us →
      Climbs parent root v (v :: us)

lemma Route.length_lt [DecidableEq V] {vs : Finset V} (route : net.Route root v ls)
    (simple : (net.nodes v ls).Nodup) (root_mem : root ∈ vs)
    (ends : ∀ l, net.usable l → net.src l ∈ vs) : ls.length < vs.card := by
  have all : ∀ w ∈ net.nodes v ls, w ∈ vs := by
    clear simple
    induction route with
    | root => exact forall_mem_singleton.mpr root_mem
    | link usable _ ih => exact forall_mem_cons.mpr ⟨ends _ usable, ih⟩
  have few := Finset.card_le_card fun w mem => all w (List.mem_toFinset.mp mem)
  rwa [toFinset_card_of_nodup simple, nodes, length_cons, length_map] at few

variable [AddCommGroup W] [LinearOrder W]

/-- No route of so few links costs less than the distance. -/
def Within (net : Network V L W) (root : V) (dist : V → W) (k : ℕ) : Prop :=
  ∀ v ls, net.Route root v ls → ls.length ≤ k → dist v ≤ net.cost ls

/-- No link would improve a distance. -/
def Relaxed (net : Network V L W) (dist : V → W) : Prop :=
  ∀ l, net.usable l → dist (net.src l) ≤ net.price l + dist (net.dest l)

/-- The root has no parent; another vertex without one is at infinity, and one with a parent is
farther from the root. -/
structure Labelled (net : Network V L W) (root : V) (cap : W) (dist : V → W)
    (parent : V → Option V) : Prop where
  root_dist : dist root = 0
  root_parent : parent root = none
  positive : ∀ v, v ≠ root → 0 < dist v
  unreached : ∀ v, v ≠ root → parent v = none → dist v = cap
  reached : ∀ v u, parent v = some u → dist v < cap ∧ ∃ l, net.usable l ∧ net.src l = v ∧
    net.dest l = u ∧ net.price l + dist u ≤ dist v

variable {dist dist' : V → W} {cap : W} {parent : V → Option V}

lemma Within.zero (root_le : dist root ≤ 0) : net.Within root dist 0 := by
  intro v ls route short
  cases route with
  | root => exact root_le
  | link => exact absurd short (Nat.not_succ_le_zero _)

lemma Labelled.nonneg (labelled : net.Labelled root cap dist parent) (v : V) : 0 ≤ dist v := by
  by_cases same : v = root
  · rw [same, labelled.root_dist]
  · exact (labelled.positive v same).le

lemma Labelled.le_cap (labelled : net.Labelled root cap dist parent) (other : v ≠ root) :
    dist v ≤ cap := by
  cases link : parent v with
  | none => exact (labelled.unreached v other link).le
  | some u => exact (labelled.reached v u link).1.le

variable [IsOrderedAddMonoid W]

lemma Route.suffix (nonneg : ∀ l, net.usable l → 0 ≤ net.price l) (route : net.Route root v ls)
    {w : V} (mem : w ∈ net.nodes v ls) :
    ∃ ls', net.Route root w ls' ∧ net.cost ls' ≤ net.cost ls ∧
      net.nodes w ls' <:+ net.nodes v ls := by
  induction route with
  | root =>
    obtain rfl := mem_singleton.mp mem
    exact ⟨[], .root, le_rfl, suffix_rfl⟩
  | @link l ls usable rest ih =>
    obtain rfl | mem := mem_cons.mp mem
    · exact ⟨l :: ls, .link usable rest, le_rfl, suffix_rfl⟩
    · obtain ⟨ls', route, le, suffix⟩ := ih mem
      refine ⟨ls', route, le.trans ?_, suffix.trans (suffix_cons _ _)⟩
      exact le_add_of_nonneg_left (nonneg l usable)

lemma Route.exists_simple (nonneg : ∀ l, net.usable l → 0 ≤ net.price l)
    (route : net.Route root v ls) :
    ∃ ls', net.Route root v ls' ∧ net.cost ls' ≤ net.cost ls ∧ (net.nodes v ls').Nodup := by
  induction route with
  | root => exact ⟨[], .root, le_rfl, nodup_singleton _⟩
  | @link l ls usable _ ih =>
    obtain ⟨ls', route, le, simple⟩ := ih
    by_cases mem : net.src l ∈ net.nodes (net.dest l) ls'
    · obtain ⟨ls'', route', le', suffix⟩ := route.suffix nonneg mem
      exact ⟨ls'', route', (le'.trans le).trans (le_add_of_nonneg_left (nonneg l usable)),
        suffix.sublist.nodup simple⟩
    · refine ⟨l :: ls', .link usable route, ?_, nodup_cons.mpr ⟨mem, simple⟩⟩
      exact add_le_add_right le _

lemma Within.succ {k : ℕ} (within : net.Within root dist k) (root_le : dist' root ≤ 0)
    (relaxed : ∀ l, net.usable l → dist' (net.src l) ≤ net.price l + dist (net.dest l)) :
    net.Within root dist' (k + 1) := by
  intro v ls route short
  cases route with
  | root => exact root_le
  | link usable rest =>
    refine (relaxed _ usable).trans ?_
    exact add_le_add_right (within _ _ rest (Nat.succ_le_succ_iff.mp short)) _

lemma Relaxed.le_cost (relaxed : net.Relaxed dist) (root_le : dist root ≤ 0)
    (route : net.Route root v ls) : dist v ≤ net.cost ls := by
  induction route with
  | root => exact root_le
  | link usable _ ih =>
    refine (relaxed _ usable).trans ?_
    exact add_le_add_right ih _

variable [DecidableEq V] {vs : Finset V}

/-- As many rounds as there are other vertices do. -/
lemma Within.le_cost (within : net.Within root dist (vs.card - 1))
    (nonneg : ∀ l, net.usable l → 0 ≤ net.price l) (root_mem : root ∈ vs)
    (ends : ∀ l, net.usable l → net.src l ∈ vs) (route : net.Route root v ls) :
    dist v ≤ net.cost ls := by
  obtain ⟨ls', route', le, simple⟩ := route.exists_simple nonneg
  have few := route'.length_lt simple root_mem ends
  exact (within v ls' route' (Nat.le_sub_one_of_lt few)).trans le

namespace Labelled

variable (labelled : net.Labelled root cap dist parent)
include labelled

lemma relax (usable : net.usable l)
    (positive : 0 < net.price l) (less : net.price l + dist (net.dest l) < dist (net.src l)) :
    net.Labelled root cap (update dist (net.src l) (net.price l + dist (net.dest l)))
      (update parent (net.src l) (some (net.dest l))) := by
  have sum : 0 < net.price l + dist (net.dest l) :=
    add_pos_of_pos_of_nonneg positive (labelled.nonneg _)
  have other : net.src l ≠ root := by
    intro same
    rw [same, labelled.root_dist] at less
    exact less.not_gt sum
  have closer : net.dest l ≠ net.src l := by
    intro same
    rw [same] at less
    exact less.not_gt (lt_add_of_pos_left _ positive)
  have le (w : V) : update dist (net.src l) (net.price l + dist (net.dest l)) w ≤ dist w := by
    obtain rfl | ne := eq_or_ne w (net.src l)
    · rw [update_self]
      exact less.le
    · rw [update_of_ne ne]
  refine ⟨?_, ?_, fun v ne => ?_, fun v ne none => ?_, fun v u link => ?_⟩
  · rw [update_of_ne other.symm, labelled.root_dist]
  · rw [update_of_ne other.symm, labelled.root_parent]
  · obtain rfl | apart := eq_or_ne v (net.src l)
    · rw [update_self]
      exact sum
    · rw [update_of_ne apart]
      exact labelled.positive v ne
  · obtain rfl | apart := eq_or_ne v (net.src l)
    · rw [update_self] at none
      cases none
    · rw [update_of_ne apart] at none ⊢
      exact labelled.unreached v ne none
  · obtain rfl | apart := eq_or_ne v (net.src l)
    · rw [update_self] at link
      cases link
      rw [update_self, update_of_ne closer]
      exact ⟨less.trans_le (labelled.le_cap other), l, usable, rfl, rfl, le_rfl⟩
    · rw [update_of_ne apart] at link
      rw [update_of_ne apart]
      obtain ⟨below, m, usable', src, dest, noted⟩ := labelled.reached v u link
      exact ⟨below, m, usable', src, dest, (add_le_add_right (le u) _).trans noted⟩

/-- Climbing goes to ever smaller distances, so it gets to the root. -/
lemma climb (prices : ∀ l, net.usable l → 0 < net.price l)
    (ends : ∀ l, net.usable l → net.dest l ∈ vs) (near : v = root ∨ dist v < cap) :
    ∃ ls, net.Route root v ls ∧ net.cost ls ≤ dist v ∧ Climbs parent root v (net.nodes v ls) ∧
      (net.nodes v ls).Pairwise fun a b => dist b < dist a := by
  induction closer : (vs.filter fun w => dist w < dist v).card using Nat.strong_induction_on
    generalizing v with
  | _ n ih =>
    by_cases same : v = root
    · rw [same]
      exact ⟨[], .root, labelled.root_dist.ge, .root labelled.root_parent, pairwise_singleton _ _⟩
    · have below := near.resolve_left same
      cases link : parent v with
      | none => exact absurd (labelled.unreached v same link) below.ne
      | some u =>
        obtain ⟨-, l, usable, rfl, rfl, noted⟩ := labelled.reached _ u link
        have less : dist (net.dest l) < dist (net.src l) :=
          (lt_add_of_pos_left _ (prices l usable)).trans_le noted
        have fewer : (vs.filter fun w => dist w < dist (net.dest l)).card < n := by
          rw [← closer]
          refine Finset.card_lt_card ((Finset.ssubset_iff_of_subset
            (Finset.monotone_filter_right _ fun w _ lt => lt.trans less)).mpr
            ⟨net.dest l, Finset.mem_filter.mpr ⟨ends l usable, less⟩, fun mem => ?_⟩)
          exact lt_irrefl _ (Finset.mem_filter.mp mem).2
        obtain ⟨ls, route, le, climbs, falling⟩ := ih _ fewer (.inr (less.trans below)) rfl
        refine ⟨l :: ls, .link usable route, ?_, .step link climbs, ?_⟩
        · exact (add_le_add_right le _).trans noted
        · refine pairwise_cons.mpr ⟨fun w mem => ?_, falling⟩
          obtain rfl | mem := mem_cons.mp mem
          · exact less
          · exact ((pairwise_cons.mp falling).1 w mem).trans less

end Labelled

end Network

end Inet
