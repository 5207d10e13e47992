import Inet.Lib.ShortestPath
import Mathlib.Combinatorics.SimpleGraph.Acyclic

/-!
# The election of a root by advertisements

Stations on shared media advertise the best root they know, with the cost of reaching it. When
nothing changes any more (`Stable`) there is one root, the one with the least identifier, the costs
are those of cheapest paths, each medium has one designated port, and the designated and root ports
make a tree (`IsParent`).
-/

namespace Inet

section

variable {V : Type*} {G : SimpleGraph V} {parent : V → V → Prop} {rank : V → ℕ} {root : V}

structure IsParent (G : SimpleGraph V) (parent : V → V → Prop) (rank : V → ℕ) (root : V) :
    Prop where
  adj : ∀ v w, G.Adj v w ↔ parent v w ∨ parent w v
  unique : ∀ {v w w'}, parent v w → parent v w' → w = w'
  lower : ∀ {v w}, parent v w → rank w < rank v
  exists_of_ne : ∀ v, v ≠ root → ∃ w, parent v w

namespace IsParent

variable (tree : IsParent G parent rank root)

include tree

lemma parent_of_adj {v w : V} (adj : G.Adj v w) (le : rank w ≤ rank v) : parent v w := by
  rcases (tree.adj v w).mp adj with up | down
  · exact up
  · exact absurd (tree.lower down) (not_lt.mpr le)

lemma isAcyclic : G.IsAcyclic := by
  classical
  intro v c cycle
  obtain ⟨u, mem, highest⟩ := c.support.toFinset.exists_max_image rank
    ⟨v, List.mem_toFinset.mpr c.start_mem_support⟩
  have mem' : u ∈ c.support := List.mem_toFinset.mp mem
  have cycle' : (c.rotate u mem').IsCycle := cycle.rotate mem'
  have le : ∀ w ∈ (c.rotate u mem').support, rank w ≤ rank u := by
    intro w mem
    exact highest w (List.mem_toFinset.mpr ((c.mem_support_rotate_iff u mem').mp mem))
  have first := tree.parent_of_adj ((c.rotate u mem').adj_snd cycle'.not_nil)
    (le _ ((c.rotate u mem').getVert_mem_support 1))
  have last := tree.parent_of_adj ((c.rotate u mem').adj_penultimate cycle'.not_nil).symm
    (le _ ((c.rotate u mem').getVert_mem_support _))
  exact cycle'.snd_ne_penultimate (tree.unique first last)

lemma reachable (v : V) : G.Reachable v root := by
  induction h : rank v using Nat.strong_induction_on generalizing v with
  | _ n ih =>
    by_cases eq : v = root
    · rw [eq]
    · obtain ⟨w, up⟩ := tree.exists_of_ne v eq
      have adj : G.Adj v w := (tree.adj v w).mpr (Or.inl up)
      exact adj.reachable.trans (ih (rank w) (h ▸ tree.lower up) w rfl)

lemma isTree : G.IsTree where
  preconnected v w := (tree.reachable v).trans (tree.reachable w).symm
  nonempty := ⟨root⟩
  isAcyclic := tree.isAcyclic

end IsParent

end

structure Advert where
  root : ℕ
  cost : ℕ
  station : ℕ

/-- A lower root, else a lower cost, else a lower station. -/
def Advert.Better (a b : Advert) : Prop :=
  a.root < b.root ∨ (a.root = b.root ∧ (a.cost < b.cost ∨ (a.cost = b.cost ∧ a.station < b.station)))

structure Election (Station Medium : Type*) where
  Port : Station → Type
  medium : (s : Station) → Port s → Medium
  linkCost : (s : Station) → Port s → ℕ
  id : Station → ℕ
  root : Station → ℕ
  cost : Station → ℕ
  /-- `none` at a station that takes itself for the root. -/
  rootPort : (s : Station) → Option (Port s)
  designated : (s : Station) → Port s → Prop
  stored : (s : Station) → Port s → Advert

namespace Election

variable {Station Medium : Type*}

/-- What the station advertises, behind a link with this cost. -/
def advert (e : Election Station Medium) (s : Station) (linkCost : ℕ) : Advert :=
  ⟨e.root s, e.cost s + linkCost, e.id s⟩

/-- What a port has stored that has heard nothing. -/
def initialAdvert (e : Election Station Medium) (s : Station) : Advert := ⟨e.id s, 0, e.id s⟩

def Neighbor (e : Election Station Medium) (s t : Station) : Prop :=
  ∃ p q, e.medium s p = e.medium t q

/-- The cost of one hop towards the root is that of the port of the station farther away. -/
def Hop (e : Election Station Medium) (t s : Station) (c : ℕ) : Prop :=
  ∃ p q, t ≠ s ∧ e.medium t q = e.medium s p ∧ c = e.linkCost s p

/-- A root port or designated port joins its station and its medium. -/
inductive Joined (e : Election Station Medium) : Station ⊕ Medium → Station ⊕ Medium → Prop
  | port {s : Station} {p : e.Port s} (active : e.designated s p ∨ e.rootPort s = some p) :
      Joined e (.inl s) (.inr (e.medium s p))

def tree (e : Election Station Medium) : SimpleGraph (Station ⊕ Medium) := .fromRel e.Joined

structure IsNetwork (e : Election Station Medium) : Prop where
  medium_injective : ∀ s, Function.Injective (e.medium s)
  linkCost_pos : ∀ s p, 0 < e.linkCost s p
  id_injective : Function.Injective e.id
  attached : ∀ m, ∃ s p, e.medium s p = m
  connected : ∀ s t, Relation.ReflTransGen e.Neighbor s t

structure Stable (e : Election Station Medium) : Prop extends IsNetwork e where
  /-- Each port has stored what another station on its medium advertises, or nothing. -/
  heard : ∀ s p, e.stored s p = e.initialAdvert s ∨ ∃ t q, t ≠ s ∧ e.medium t q = e.medium s p ∧
    e.stored s p = e.advert t (e.linkCost s p)
  isRoot : ∀ {s}, e.rootPort s = none → (∀ p, e.id s ≤ (e.stored s p).root) ∧ e.root s = e.id s ∧
    e.cost s = 0 ∧ ∀ p, e.designated s p
  hasRoot : ∀ {s r}, e.rootPort s = some r → (e.stored s r).root < e.id s ∧
    e.root s = (e.stored s r).root ∧ e.cost s = (e.stored s r).cost ∧
      ∀ p, ¬ (e.stored s p).Better (e.stored s r)
  designated : ∀ {s r}, e.rootPort s = some r → ∀ p, e.designated s p ↔
    p ≠ r ∧ (e.advert s (e.linkCost s p)).Better (e.stored s p)
  /-- What a designated port advertises changes nothing at the others. -/
  delivered : ∀ {s p}, e.designated s p → ∀ {t q}, t ≠ s → e.medium t q = e.medium s p →
    ¬ (e.advert s (e.linkCost t q)).Better (e.stored t q)

namespace Stable

variable {e : Election Station Medium} (stable : e.Stable)

include stable

/-- The root port has heard of the root from a station that is closer to it. -/
lemma upstream {s : Station} {r : e.Port s} (port : e.rootPort s = some r) : ∃ t q, t ≠ s ∧
    e.medium t q = e.medium s r ∧ e.root t = e.root s ∧ e.cost s = e.cost t + e.linkCost s r := by
  obtain ⟨lower, root, cost, -⟩ := stable.hasRoot port
  rcases stable.heard s r with initial | ⟨t, q, ne, medium, heard⟩
  · rw [initial] at lower
    exact absurd lower (lt_irrefl _)
  · rw [heard] at root cost
    exact ⟨t, q, ne, medium, root.symm, cost⟩

lemma exists_root (s : Station) : ∃ t, e.rootPort t = none ∧ e.root s = e.id t := by
  induction h : e.cost s using Nat.strong_induction_on generalizing s with
  | _ n ih =>
    cases port : e.rootPort s with
    | none => exact ⟨s, port, (stable.isRoot port).2.1⟩
    | some r =>
      obtain ⟨t, q, -, -, root, cost⟩ := stable.upstream port
      have pos := stable.linkCost_pos s r
      obtain ⟨t', isRoot, eq⟩ := ih (e.cost t) (by omega) t rfl
      exact ⟨t', isRoot, root.symm.trans eq⟩

variable {x : Station} (least : ∀ s, e.id x ≤ e.id s)

include least

lemma least_le_root (s : Station) : e.id x ≤ e.root s := by
  obtain ⟨t, -, eq⟩ := stable.exists_root s
  rw [eq]
  exact least t

lemma least_le_stored (s : Station) (p : e.Port s) : e.id x ≤ (e.stored s p).root := by
  rcases stable.heard s p with initial | ⟨t, q, -, -, heard⟩
  · rw [initial]
    exact least s
  · rw [heard]
    exact stable.least_le_root least t

lemma rootPort_least : e.rootPort x = none := by
  cases port : e.rootPort x with
  | none => rfl
  | some r =>
    have lower := (stable.hasRoot port).1
    have le := stable.least_le_stored least x r
    omega

/-! ## The designated port of a medium -/

omit least in
lemma exists_best (m : Medium) : ∃ s p, e.medium s p = m ∧
    ∀ t q, e.medium t q = m → ¬ (e.advert t 0).Better (e.advert s 0) := by
  let key : Station → ℕ ×ₗ ℕ ×ₗ ℕ := fun s => toLex (e.root s, toLex (e.cost s, e.id s))
  let onMedium : Set Station := {s | ∃ p, e.medium s p = m}
  have nonempty : onMedium.Nonempty := by
    obtain ⟨s, p, eq⟩ := stable.attached m
    exact ⟨s, p, eq⟩
  obtain ⟨s, ⟨p, eq⟩, best⟩ := (InvImage.wf key wellFounded_lt).has_min onMedium nonempty
  refine ⟨s, p, eq, fun t q eq' better => best t ⟨q, eq'⟩ ?_⟩
  rw [InvImage, Prod.Lex.lt_iff, Prod.Lex.lt_iff]
  exact better

omit least in
lemma designated_best {s : Station} {p : e.Port s}
    (best : ∀ t q, e.medium t q = e.medium s p → ¬ (e.advert t 0).Better (e.advert s 0)) :
    e.designated s p := by
  cases port : e.rootPort s with
  | none => exact (stable.isRoot port).2.2.2 p
  | some r =>
    obtain ⟨lower, root, cost, -⟩ := stable.hasRoot port
    refine (stable.designated port p).mpr ⟨?_, ?_⟩
    · rintro rfl
      obtain ⟨t, q, -, medium, root', cost'⟩ := stable.upstream port
      have pos := stable.linkCost_pos s p
      refine best t q medium (Or.inr ⟨root', Or.inl ?_⟩)
      simp only [advert]
      omega
    · rcases stable.heard s p with initial | ⟨t, q, ne, medium, heard⟩
      · rw [initial]
        refine Or.inl ?_
        simp only [advert, initialAdvert]
        omega
      · rw [heard]
        have notBetter := best t q medium
        have other : e.id t ≠ e.id s := fun eq => ne (stable.id_injective eq)
        simp only [Advert.Better, advert] at notBetter ⊢
        omega

omit least in
lemma best_of_designated {s : Station} {p : e.Port s} (designated : e.designated s p) :
    ∀ t q, e.medium t q = e.medium s p → ¬ (e.advert t 0).Better (e.advert s 0) := by
  obtain ⟨t, q, medium, best⟩ := stable.exists_best (e.medium s p)
  by_cases eq : t = s
  · subst eq
    exact best
  · exfalso
    have bestHere := stable.designated_best fun t' q' same => best t' q' (same.trans medium)
    have silent := stable.delivered bestHere (fun eq' => eq eq'.symm) medium.symm
    have notBetter := best s p rfl
    have other : e.id t ≠ e.id s := fun eq' => eq (stable.id_injective eq')
    cases port : e.rootPort s with
    | none =>
      obtain ⟨notLower, root, cost, -⟩ := stable.isRoot port
      have notLower := notLower p
      cases portT : e.rootPort t with
      | none =>
        obtain ⟨-, rootT, -⟩ := stable.isRoot portT
        simp only [Advert.Better, advert] at notBetter silent
        omega
      | some r =>
        obtain ⟨t', q', -, -, -, costT⟩ := stable.upstream portT
        have pos := stable.linkCost_pos t r
        simp only [Advert.Better, advert] at notBetter silent
        omega
    | some r =>
      have better := ((stable.designated port p).mp designated).2
      simp only [Advert.Better, advert] at notBetter silent better
      omega

omit least in
lemma existsUnique_designated (m : Medium) : ∃ s p, e.medium s p = m ∧ e.designated s p ∧
    ∀ t q, e.medium t q = m → e.designated t q → t = s := by
  obtain ⟨s, p, medium, best⟩ := stable.exists_best m
  refine ⟨s, p, medium, stable.designated_best fun t q eq => best t q (eq.trans medium),
    fun t q eq designated => ?_⟩
  have first := best t q eq
  have second := stable.best_of_designated designated s p (medium.trans eq.symm)
  apply stable.id_injective
  simp only [Advert.Better, advert] at first second
  omega

lemma root_of_neighbor {s t : Station} (neighbor : e.Neighbor s t) (root : e.root s = e.id x) :
    e.root t = e.id x := by
  obtain ⟨p, q, same⟩ := neighbor
  obtain ⟨d, pd, medium, designated, -⟩ := stable.existsUnique_designated (e.medium s p)
  have rootD : e.root d = e.id x := by
    have notBetter := stable.best_of_designated designated s p medium.symm
    have le := stable.least_le_root least d
    simp only [Advert.Better, advert] at notBetter
    omega
  by_cases eq : t = d
  · rw [eq]
    exact rootD
  · have silent := stable.delivered designated eq (same.symm.trans medium.symm)
    have le := stable.least_le_stored least t q
    have leRoot := stable.least_le_root least t
    have storedRoot : (e.stored t q).root = e.id x := by
      simp only [Advert.Better, advert] at silent
      omega
    cases port : e.rootPort t with
    | none =>
      obtain ⟨notLower, root', -⟩ := stable.isRoot port
      have notLower := notLower q
      omega
    | some r =>
      obtain ⟨-, root', -, best⟩ := stable.hasRoot port
      have notBetter := best q
      simp only [Advert.Better] at notBetter
      omega

lemma root_eq (s : Station) : e.root s = e.id x := by
  have path := stable.connected x s
  induction path with
  | refl => exact (stable.isRoot (stable.rootPort_least least)).2.1
  | tail _ neighbor ih => exact stable.root_of_neighbor least neighbor ih

omit least in
lemma isRoot_iff (s : Station) : e.rootPort s = none ↔ ∀ t, e.id s ≤ e.id t := by
  refine ⟨fun port t => ?_, fun least => stable.rootPort_least least⟩
  obtain ⟨-, root, -⟩ := stable.isRoot port
  obtain ⟨x, -, minimal⟩ := (InvImage.wf e.id wellFounded_lt).has_min Set.univ ⟨s, trivial⟩
  have least : ∀ s, e.id x ≤ e.id s := fun s => not_lt.mp (minimal s trivial)
  rw [← root, stable.root_eq least s]
  exact least t

lemma cost_le_of_hop {s t : Station} {c : ℕ} (hop : e.Hop t s c) : e.cost s ≤ e.cost t + c := by
  obtain ⟨p, q, -, same, rfl⟩ := hop
  obtain ⟨d, pd, medium, designated, -⟩ := stable.existsUnique_designated (e.medium s p)
  have rootS := stable.root_eq least s
  have rootT := stable.root_eq least t
  have rootD := stable.root_eq least d
  have best := stable.best_of_designated designated t q (same.trans medium.symm)
  have costD : e.cost d ≤ e.cost t := by
    simp only [Advert.Better, advert] at best
    omega
  by_cases eq : s = d
  · subst eq
    omega
  · have silent := stable.delivered designated eq medium.symm
    have le := stable.least_le_stored least s p
    cases port : e.rootPort s with
    | none =>
      have cost := (stable.isRoot port).2.2.1
      omega
    | some r =>
      obtain ⟨-, root, cost, bestPort⟩ := stable.hasRoot port
      have notBetter := bestPort p
      simp only [Advert.Better, advert] at silent notBetter
      omega

lemma path_cost (s : Station) : Path e.Hop x s (e.cost s) := by
  induction h : e.cost s using Nat.strong_induction_on generalizing s with
  | _ n ih =>
    cases port : e.rootPort s with
    | none =>
      have eq : s = x := stable.id_injective (((stable.isRoot_iff s).mp port x).antisymm (least s))
      have cost := (stable.isRoot port).2.2.1
      rw [← h, eq, ← eq, cost, eq]
      exact .root
    | some r =>
      obtain ⟨t, q, ne, medium, -, cost⟩ := stable.upstream port
      have pos := stable.linkCost_pos s r
      have path := ih (e.cost t) (by omega) t rfl
      rw [← h, cost]
      exact .step path ⟨r, q, ne, medium, rfl⟩

lemma isDistance_cost (s : Station) : IsDistance e.Hop x s (e.cost s) where
  path := stable.path_cost least s
  least d path := by
    induction path with
    | root =>
      have cost := (stable.isRoot (stable.rootPort_least least)).2.2.1
      omega
    | step _ hop ih =>
      have le := stable.cost_le_of_hop least hop
      omega

omit stable least in
/-- A medium is below the station of its designated port, a station below the medium of its root
port. -/
inductive Parent (e : Election Station Medium) : Station ⊕ Medium → Station ⊕ Medium → Prop
  | medium {s : Station} {p : e.Port s} (designated : e.designated s p) :
      Parent e (.inr (e.medium s p)) (.inl s)
  | station {s : Station} {p : e.Port s} (port : e.rootPort s = some p) :
      Parent e (.inl s) (.inr (e.medium s p))

omit least in
lemma cost_lt_of_designated {s t : Station} {r : e.Port s} {q : e.Port t}
    (port : e.rootPort s = some r) (designated : e.designated t q)
    (same : e.medium t q = e.medium s r) : e.cost t < e.cost s := by
  obtain ⟨u, q', -, medium, root, cost⟩ := stable.upstream port
  have best := stable.best_of_designated designated u q' (medium.trans same.symm)
  have pos := stable.linkCost_pos s r
  obtain ⟨x, -, minimal⟩ := (InvImage.wf e.id wellFounded_lt).has_min Set.univ ⟨s, trivial⟩
  have least : ∀ s, e.id x ≤ e.id s := fun s => not_lt.mp (minimal s trivial)
  have rootT := stable.root_eq least t
  have rootU := stable.root_eq least u
  simp only [Advert.Better, advert] at best
  omega

omit stable least in
/-- Twice the cost, and one more at a medium. -/
noncomputable def rank (e : Election Station Medium) (cost : Medium → ℕ) : Station ⊕ Medium → ℕ
  | .inl s => 2 * e.cost s
  | .inr m => 2 * cost m + 1

lemma isParent : ∃ rank, IsParent e.tree (Parent e) rank (.inl x) := by
  choose designator port medium designated unique using stable.existsUnique_designated
  refine ⟨rank e fun m => e.cost (designator m), fun v w => ?_, ?_, ?_, ?_⟩
  · rw [tree, SimpleGraph.fromRel_adj]
    constructor
    · rintro ⟨-, joined | joined⟩
      · obtain ⟨active | active⟩ := joined
        · exact Or.inr (.medium active)
        · exact Or.inl (.station active)
      · obtain ⟨active | active⟩ := joined
        · exact Or.inl (.medium active)
        · exact Or.inr (.station active)
    · rintro (up | down)
      · cases up with
        | medium active => exact ⟨Sum.inr_ne_inl, Or.inr (.port (Or.inl active))⟩
        | station active => exact ⟨Sum.inl_ne_inr, Or.inl (.port (Or.inr active))⟩
      · cases down with
        | medium active => exact ⟨Sum.inl_ne_inr, Or.inl (.port (Or.inl active))⟩
        | station active => exact ⟨Sum.inr_ne_inl, Or.inr (.port (Or.inr active))⟩
  · intro v w w' first second
    cases first with
    | @medium s p active =>
      generalize eq : e.medium s p = m at second
      cases second with
      | @medium s' p' active' =>
        exact congrArg Sum.inl ((unique _ s p eq active).trans (unique _ s' p' rfl active').symm)
    | @station s p port =>
      cases second with
      | @station _ p' port' =>
        rw [port] at port'
        obtain rfl := Option.some.inj port'
        rfl
  · intro v w up
    cases up with
    | @medium s p active =>
      have eq := unique _ s p rfl active
      simp only [rank, ← eq]
      omega
    | @station s p root =>
      have lt := stable.cost_lt_of_designated root (designated (e.medium s p))
        (medium (e.medium s p))
      simp only [rank]
      omega
  · intro v ne
    cases v with
    | inr m =>
      have up : Parent e (.inr (e.medium (designator m) (port m))) (.inl (designator m)) :=
        .medium (designated m)
      rw [medium m] at up
      exact ⟨_, up⟩
    | inl s =>
      cases root : e.rootPort s with
      | none =>
        have eq : s = x := stable.id_injective
          (((stable.isRoot_iff s).mp root x).antisymm (least s))
        exact absurd (congrArg Sum.inl eq) ne
      | some r => exact ⟨_, .station root⟩

lemma isTree : e.tree.IsTree := by
  obtain ⟨rank, isParent⟩ := stable.isParent least
  exact isParent.isTree

end Stable

end Election

end Inet
