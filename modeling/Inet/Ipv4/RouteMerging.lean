import Inet.Ipv4.NetworkConfigurator

/-!
# One merge

A merge disables the two routes, puts the merged one in, and attaches what they had to the entries
behind them. Meanwhile (`Merging`) only the merged entry can be in front of entries with original
routes it matches.
-/

namespace Inet.Ipv4

open List

namespace IPv4NetworkConfigurator

/-- The original routes match and have the color of an entry that is not disabled. -/
def RouteInfo.Own (routeInfo : RouteInfo) : Prop :=
  routeInfo.enabled = true → ∀ original ∈ routeInfo.originalRouteInfos,
    routeInfo.contains original.destination = true ∧ routeInfo.color = original.color

/-- What an entry in front of another one must be to match an original route of that one. -/
def Ahead (allowed : ℕ → OriginalRouteInfo → Prop) (e' e : RouteInfo) : Prop :=
  e'.enabled = true → e.enabled = true → ∀ original ∈ e.originalRouteInfos,
    e'.contains original.destination = true → allowed e'.color original

/-- The table while originals are moved behind the disabled routes. -/
structure Merging (allowed : ℕ → OriginalRouteInfo → Prop) (m : ℕ)
    (inserted table : RoutingTableInfo) : Prop where
  same : table.map RouteInfo.bare = inserted.map RouteInfo.bare
  own : ∀ (k : ℕ) (e : RouteInfo), table[k]? = some e → e.Own
  ahead : ∀ (k' k : ℕ) (e' e : RouteInfo), k' < k → k' ≠ m → table[k']? = some e' → table[k]? = some e →
    Ahead allowed e' e
  disabled : ∀ (k : ℕ) (e : RouteInfo), inserted[k]? = some e → e.enabled = false → table[k]? = some e
  behind : table.drop (m + 1) = inserted.drop (m + 1)

variable {allowed : ℕ → OriginalRouteInfo → Prop} {table table' inserted : RoutingTableInfo}
  {info e e' : RouteInfo} {i j k m first last : ℕ} {original : OriginalRouteInfo}
  {os : List OriginalRouteInfo}

lemma modify_entry {f : RouteInfo → RouteInfo} {n : ℕ} (entry : (table.modify k f)[n]? = some e) :
    ∃ e₀, table[n]? = some e₀ ∧ e = if k = n then f e₀ else e₀ := by
  rw [getElem?_modify] at entry
  obtain ⟨e₀, entry₀, equal⟩ := Option.map_eq_some_iff.mp entry
  exact ⟨e₀, entry₀, equal.symm⟩

lemma attach_bare (k : ℕ) (original : OriginalRouteInfo) (table : RoutingTableInfo) :
    (table.modify k fun info => info.attach original).map RouteInfo.bare =
      table.map RouteInfo.bare :=
  map_modify (f := fun info => info.attach original) (fun _ => rfl) table k

lemma attach_perm (entry : table[k]? = some e) :
    ((table.modify k fun info => info.attach original).flatMap
      RouteInfo.originalRouteInfos).Perm (original :: table.flatMap RouteInfo.originalRouteInfos) := by
  induction table generalizing k with
  | nil => cases entry
  | cons x xs ih =>
    cases k with
    | zero =>
      rw [modify_zero_cons, flatMap_cons, flatMap_cons, RouteInfo.attach]
      rw [append_assoc]
      exact perm_middle
    | succ k =>
      have rest := ih (getElem?_cons_succ.symm.trans entry)
      exact (rest.append_left _).trans perm_middle

lemma Merging.attach (merging : Merging allowed m inserted table) (le : k ≤ m)
    (matched : Matches inserted k original.destination) (colored : HasColor inserted k original.color)
    (before : ∀ k' < k, ∀ e', inserted[k']? = some e' → e'.enabled = true →
      e'.contains original.destination = true → allowed e'.color original) :
    Merging allowed m inserted (table.modify k fun info => info.attach original) where
  same := (attach_bare k original table).trans merging.same
  own := by
    intro n e entry
    obtain ⟨e₀, entry₀, rfl⟩ := modify_entry entry
    split_ifs with here
    · subst here
      intro enabled o mem
      rcases mem_append.mp mem with old | new
      · exact merging.own k e₀ entry₀ enabled o old
      · rw [mem_singleton.mp new]
        obtain ⟨e', entry', -, contains⟩ := matched.of_bare merging.same.symm
        obtain ⟨e'', entry'', color⟩ := hasColor_iff.mp (colored.of_bare merging.same.symm)
        cases entry₀.symm.trans entry'
        cases entry₀.symm.trans entry''
        exact ⟨contains, color⟩
    · exact merging.own n e₀ entry₀
  ahead := by
    intro n' n e' e lt ne entry' entry
    obtain ⟨e₀', entry₀', rfl⟩ := modify_entry entry'
    obtain ⟨e₀, entry₀, rfl⟩ := modify_entry entry
    have old := merging.ahead n' n e₀' e₀ lt ne entry₀' entry₀
    have front : Ahead allowed e₀' (if k = n then e₀.attach original else e₀) := by
      split_ifs with here
      · subst here
        intro enabled' enabled o mem contains
        rcases mem_append.mp mem with before' | new
        · exact old enabled' enabled o before' contains
        · rw [mem_singleton.mp new] at contains ⊢
          obtain ⟨e₁, entry₁, bare⟩ := bare_entry merging.same entry₀'
          rw [← color_bare bare]
          exact before n' lt e₁ entry₁ ((enabled_bare bare).trans enabled')
            ((contains_bare bare _).trans contains)
      · exact old
    by_cases there : k = n'
    · rw [if_pos there]
      exact front
    · rw [if_neg there]
      exact front
  disabled := by
    intro n e entry off
    have still := merging.disabled n e entry off
    by_cases here : k = n
    · subst here
      obtain ⟨e', entry', enabled, -⟩ := matched
      cases entry.symm.trans entry'
      rw [off] at enabled
      cases enabled
    · rw [getElem?_modify_ne _ _ here, still]
  behind := by
    rw [← merging.behind]
    refine ext_getElem? fun n => ?_
    rw [getElem?_drop, getElem?_drop, getElem?_modify_ne]
    omega

lemma Merging.addOriginalRouteInfos (merging : Merging allowed m inserted table)
    (le : last ≤ m + 1) (found : ∀ original ∈ os, ∃ k,
      findBestMatchingRouteInfo inserted original.destination first last = some k ∧
        HasColor inserted k original.color)
    (before : ∀ original ∈ os, ∀ k < first, ∀ e, inserted[k]? = some e → e.enabled = true →
      e.contains original.destination = true → allowed e.color original) :
    ∃ table', addOriginalRouteInfos first last os table = .ok table' ∧
      Merging allowed m inserted table' ∧
      (table'.flatMap RouteInfo.originalRouteInfos).Perm
        (os ++ table.flatMap RouteInfo.originalRouteInfos) := by
  induction os generalizing table with
  | nil => exact ⟨table, rfl, merging, List.Perm.refl _⟩
  | cons original os ih =>
    obtain ⟨k, best, colored⟩ := found original mem_cons_self
    obtain ⟨matched, ge, lt, earlier⟩ := findBestMatchingRouteInfo_some.mp best
    have best' : findBestMatchingRouteInfo table original.destination first last = some k :=
      findBestMatchingRouteInfo_some.mpr ⟨matched.of_bare merging.same.symm, ge, lt,
        fun k' ge' lt' matched' => earlier k' ge' lt' (matched'.of_bare merging.same)⟩
    have one : Merging allowed m inserted (table.modify k fun info => info.attach original) := by
      refine merging.attach (by omega) matched colored ?_
      intro k' lt' e' entry' enabled' contains'
      by_cases inRange : first ≤ k'
      · exact absurd ⟨e', entry', enabled', contains'⟩ (earlier k' inRange lt')
      · exact before original mem_cons_self k' (by omega) e' entry' enabled' contains'
    obtain ⟨table', run, merging', perm⟩ := ih one
      (fun o mem => found o (mem_cons_of_mem _ mem))
      (fun o mem => before o (mem_cons_of_mem _ mem))
    obtain ⟨e, entry, -⟩ := matched.of_bare merging.same.symm
    refine ⟨table', ?_, merging', (perm.trans ((attach_perm entry).append_left _)).trans ?_⟩
    · have color := colored.of_bare merging.same.symm
      rw [HasColor] at color
      rw [IPv4NetworkConfigurator.addOriginalRouteInfos, best']
      dsimp only
      rw [if_pos color, run]
    · exact perm_middle

/-! ## What the merged entry takes over -/

variable {merged : RouteInfo}

lemma moveOriginals_eq
    (colored : ∀ original ∈ os, merged.contains original.destination = true →
      merged.color = original.color) :
    moveOriginals merged os =
      .ok (os.filter fun original => !merged.contains original.destination,
        os.filter fun original => merged.contains original.destination) := by
  induction os with
  | nil => rfl
  | cons original os ih =>
    have rest := ih fun o mem => colored o (mem_cons_of_mem _ mem)
    rw [moveOriginals]
    by_cases contains : merged.contains original.destination = true
    · rw [if_pos contains, if_pos (colored original mem_cons_self contains), rest,
        filter_cons, filter_cons, contains]
      rfl
    · rw [if_neg contains, rest, filter_cons, filter_cons, Bool.eq_false_iff.mpr contains]
      rfl

/-- What an entry behind the merged one keeps. -/
def RouteInfo.keep (merged routeInfo : RouteInfo) : RouteInfo :=
  { routeInfo with
    originalRouteInfos := routeInfo.originalRouteInfos.filter fun original =>
      !merged.contains original.destination }

def takenOver (merged : RouteInfo) (following : List RouteInfo) : List OriginalRouteInfo :=
  following.flatMap fun routeInfo => routeInfo.originalRouteInfos.filter fun original =>
    merged.contains original.destination

lemma moveFollowing_eq {following : List RouteInfo}
    (colored : ∀ e ∈ following, ∀ original ∈ e.originalRouteInfos,
      merged.contains original.destination = true → merged.color = original.color) :
    moveFollowing merged following =
      .ok (following.map (RouteInfo.keep merged), takenOver merged following) := by
  induction following with
  | nil => rfl
  | cons e following ih =>
    rw [moveFollowing, moveOriginals_eq (colored e mem_cons_self),
      ih fun e' mem => colored e' (mem_cons_of_mem _ mem)]
    rfl

lemma takenOver_perm (merged : RouteInfo) (following : List RouteInfo) :
    (takenOver merged following ++ (following.map (RouteInfo.keep merged)).flatMap
      RouteInfo.originalRouteInfos).Perm (following.flatMap RouteInfo.originalRouteInfos) := by
  induction following with
  | nil => exact List.Perm.refl _
  | cons e following ih =>
    rw [takenOver, flatMap_cons, map_cons, flatMap_cons, flatMap_cons]
    have both := filter_append_perm
      (fun original : OriginalRouteInfo => merged.contains original.destination)
      e.originalRouteInfos
    refine List.Perm.trans ?_ (both.append ih)
    rw [append_assoc, append_assoc]
    refine List.Perm.append_left _ ?_
    rw [← append_assoc, ← append_assoc]
    exact List.Perm.append_right _ perm_append_comm

/-- The table after the last move. -/
def movedTable (m : ℕ) (merged routeInfo : RouteInfo) (table : RoutingTableInfo) :
    RoutingTableInfo :=
  table.take m ++
    { routeInfo with
      originalRouteInfos := routeInfo.originalRouteInfos ++ takenOver merged (table.drop (m + 1)) } ::
    (table.drop (m + 1)).map (RouteInfo.keep merged)

section

variable {merged : RouteInfo}

variable (entry : table[m]? = some info)
include entry

lemma moveToMerged_eq (colored : ∀ e ∈ table.drop (m + 1), ∀ original ∈ e.originalRouteInfos,
      merged.contains original.destination = true → merged.color = original.color) :
    moveToMerged table m merged = .ok (movedTable m merged info table) := by
  obtain ⟨lt, rfl⟩ := List.getElem?_eq_some_iff.mp entry
  have lt' : m < (table.take (m + 1)).length := by
    rw [length_take_of_le lt]
    exact Nat.lt_succ_self m
  rw [moveToMerged, moveFollowing_eq colored]
  refine congrArg Except.ok ?_
  rw [modify_eq_take_cons_drop lt', take_take, min_eq_left (Nat.le_succ m),
    getElem_take, drop_take_self]
  exact append_assoc _ _ _

lemma eq_around : table = table.take m ++ info :: table.drop (m + 1) := by
  obtain ⟨lt, rfl⟩ := List.getElem?_eq_some_iff.mp entry
  rw [← drop_eq_getElem_cons lt, take_append_drop]

lemma movedTable_perm :
    ((movedTable m merged info table).flatMap RouteInfo.originalRouteInfos).Perm
      (table.flatMap RouteInfo.originalRouteInfos) := by
  have whole := eq_around entry
  have flat := congrArg (List.flatMap RouteInfo.originalRouteInfos) whole
  rw [flatMap_append, flatMap_cons] at flat
  rw [flat, movedTable, flatMap_append, flatMap_cons]
  refine List.Perm.append_left _ ?_
  rw [append_assoc]
  exact (takenOver_perm merged _).append_left _

lemma movedTable_entry {n : ℕ} (moved : (movedTable m merged info table)[n]? = some e) :
    ∃ e₀, table[n]? = some e₀ ∧
      (n < m ∧ e = e₀ ∨
        n = m ∧ e = { e₀ with
          originalRouteInfos := e₀.originalRouteInfos ++ takenOver merged (table.drop (m + 1)) } ∨
        m < n ∧ e = RouteInfo.keep merged e₀) := by
  have length : (table.take m).length = m :=
    List.length_take_of_le (List.getElem?_eq_some_iff.mp entry).1.le
  rw [movedTable, getElem?_append, length] at moved
  rcases Nat.lt_trichotomy n m with lt | rfl | gt
  · rw [if_pos lt, getElem?_take_of_lt lt] at moved
    exact ⟨e, moved, .inl ⟨lt, rfl⟩⟩
  · rw [if_neg (lt_irrefl n), Nat.sub_self] at moved
    cases moved
    exact ⟨info, entry, .inr (.inl ⟨rfl, rfl⟩)⟩
  · obtain ⟨k, rfl⟩ := Nat.exists_eq_add_of_lt gt
    rw [if_neg (by omega), show m + k + 1 - m = k + 1 by omega, getElem?_cons_succ,
      getElem?_map, getElem?_drop] at moved
    obtain ⟨e₀, entry₀, rfl⟩ := Option.map_eq_some_iff.mp moved
    refine ⟨e₀, ?_, .inr (.inr ⟨gt, rfl⟩)⟩
    rwa [show m + k + 1 = m + 1 + k by omega]

lemma movedTable_bare :
    (movedTable m merged info table).map RouteInfo.bare = table.map RouteInfo.bare := by
  have whole := eq_around entry
  have mapped := congrArg (List.map RouteInfo.bare) whole
  rw [map_append, map_cons] at mapped
  rw [mapped, movedTable, map_append, map_cons, map_map]
  rfl

lemma movedTable_before {n : ℕ} (lt : n < m) :
    (movedTable m merged info table)[n]? = table[n]? := by
  have length : (table.take m).length = m :=
    List.length_take_of_le (List.getElem?_eq_some_iff.mp entry).1.le
  rw [movedTable, getElem?_append, length, if_pos lt, getElem?_take_of_lt lt]

omit entry

/-- Once the merged entry has taken over what it matches, it may be in front of the rest too. -/
lemma Merging.moved (merging : Merging allowed m inserted table)
    (entry : table[m]? = some info) (bare : info.bare = merged.bare)
    (enabled : ∀ e ∈ table.drop (m + 1), e.enabled = true)
    (colored : ∀ e ∈ table.drop (m + 1), ∀ original ∈ e.originalRouteInfos,
      merged.contains original.destination = true → merged.color = original.color) :
    (∀ e ∈ movedTable m merged info table, e.Own) ∧
      (movedTable m merged info table).Pairwise (Ahead allowed) := by
  have taken : ∀ original ∈ takenOver merged (table.drop (m + 1)),
      ∃ k e, m < k ∧ table[k]? = some e ∧ e.enabled = true ∧ original ∈ e.originalRouteInfos ∧
        merged.contains original.destination = true ∧ merged.color = original.color := by
    intro original mem
    obtain ⟨e, memE, filtered⟩ := mem_flatMap.mp mem
    obtain ⟨memO, contains⟩ := mem_filter.mp filtered
    obtain ⟨k, entryE⟩ := mem_iff_getElem?.mp memE
    rw [getElem?_drop] at entryE
    exact ⟨m + 1 + k, e, by omega, entryE, enabled e memE, memO, contains,
      colored e memE original memO contains⟩
  constructor
  · intro e mem
    obtain ⟨n, entryE⟩ := mem_iff_getElem?.mp mem
    obtain ⟨e₀, entry₀, ⟨-, rfl⟩ | ⟨rfl, rfl⟩ | ⟨-, rfl⟩⟩ := movedTable_entry entry entryE
    · exact merging.own n e entry₀
    · cases entry.symm.trans entry₀
      intro on original memO
      rcases mem_append.mp memO with old | new
      · exact merging.own n info entry₀ on original old
      · obtain ⟨-, -, -, -, -, -, contains, color⟩ := taken original new
        exact ⟨(contains_bare bare _).trans contains, (color_bare bare).trans color⟩
    · intro on original memO
      exact merging.own n e₀ entry₀ on original (mem_filter.mp memO).1
  · rw [pairwise_iff_getElem]
    intro n' n lt' lt before
    have moved' := getElem?_eq_getElem lt'
    have moved := getElem?_eq_getElem lt
    generalize (movedTable m merged info table)[n'] = e' at moved' ⊢
    generalize (movedTable m merged info table)[n] = e at moved ⊢
    obtain ⟨e₀', entry₀', front⟩ := movedTable_entry entry moved'
    obtain ⟨e₀, entry₀, ⟨le, rfl⟩ | ⟨rfl, rfl⟩ | ⟨gt, rfl⟩⟩ := movedTable_entry entry moved
    · obtain ⟨-, rfl⟩ | ⟨same, -⟩ | ⟨gt, -⟩ := front
      · exact merging.ahead n' n e' e before (by omega) entry₀' entry₀
      · omega
      · omega
    · obtain ⟨lt, rfl⟩ | ⟨same, -⟩ | ⟨gt, -⟩ := front
      · intro on' on original memO contains
        rcases mem_append.mp memO with old | new
        · exact merging.ahead n' n e' e₀ before lt.ne entry₀' entry₀ on' on original old contains
        · obtain ⟨k, e, behind, entryE, onE, memE, -⟩ := taken original new
          exact merging.ahead n' k e' e (before.trans behind) lt.ne entry₀' entryE on' onE original
            memE contains
      · omega
      · omega
    · intro on' on original memO contains
      obtain ⟨memE, kept⟩ := mem_filter.mp memO
      obtain ⟨lt, rfl⟩ | ⟨rfl, rfl⟩ | ⟨gt', rfl⟩ := front
      · exact merging.ahead n' n e' e₀ before lt.ne entry₀' entry₀ on' on original memE contains
      · -- What the merged entry matches has been taken over.
        cases entry.symm.trans entry₀'
        have matched := (contains_bare bare original.destination).symm.trans contains
        rw [matched] at kept
        cases kept
      · exact merging.ahead n' n e₀' e₀ before gt'.ne' entry₀' entry₀ on' on original memE contains

end

def RouteInfo.disable (routeInfo : RouteInfo) : RouteInfo := { routeInfo with enabled := false }

def RouteInfo.enable (routeInfo : RouteInfo) : RouteInfo := { routeInfo with enabled := true }

/-- The table with two entries disabled. -/
def disabledTable (i j : ℕ) (table : RoutingTableInfo) : RoutingTableInfo :=
  (table.modify i RouteInfo.disable).modify j RouteInfo.disable

lemma disabledTable_map {β : Type} {g : RouteInfo → β} (same : ∀ e : RouteInfo, g e.disable = g e)
    (i j : ℕ) (table : RoutingTableInfo) : (disabledTable i j table).map g = table.map g := by
  rw [disabledTable, map_modify same, map_modify same]

lemma disabledTable_sorted (sorted : SortedBy place table) :
    SortedBy place (disabledTable i j table) := by
  have mapped : ((disabledTable i j table).map place).Pairwise fun a b => a ≤ b := by
    rw [disabledTable_map fun _ => rfl]
    exact pairwise_map.mpr sorted
  exact pairwise_map.mp mapped

lemma disabledTable_getElem? (i j n : ℕ) (table : RoutingTableInfo) :
    (disabledTable i j table)[n]? =
      table[n]?.map fun e => if n = i ∨ n = j then e.disable else e := by
  rw [disabledTable, getElem?_modify, getElem?_modify]
  cases table[n]? with
  | none => rfl
  | some e =>
    refine congrArg some ?_
    split_ifs <;> first | rfl | omega

lemma disabledTable_enabled {n : ℕ} (entry : (disabledTable i j table)[n]? = some e)
    (on : e.enabled = true) : n ≠ i ∧ n ≠ j ∧ table[n]? = some e := by
  rw [disabledTable_getElem?] at entry
  obtain ⟨e₀, entry₀, rfl⟩ := Option.map_eq_some_iff.mp entry
  by_cases either : n = i ∨ n = j
  · rw [if_pos either] at on
    cases on
  · rw [if_neg either]
    exact ⟨fun same => either (.inl same), fun same => either (.inr same), entry₀⟩

/-- The entries that are enabled once the merged one is in, at `m`. -/
lemma inserted_entry {n : ℕ} (entry : ((disabledTable i j table).insertIdx m merged)[n]? = some e)
    (on : e.enabled = true) :
    n = m ∧ e = merged ∨ ∃ n₀, n₀ = (if n < m then n else n - 1) ∧ n ≠ m ∧ n₀ ≠ i ∧ n₀ ≠ j ∧
      table[n₀]? = some e := by
  rw [getElem?_insertIdx] at entry
  rcases Nat.lt_trichotomy n m with lt | rfl | gt
  · rw [if_pos lt] at entry
    exact .inr ⟨n, (if_pos lt).symm, lt.ne, disabledTable_enabled entry on⟩
  · rw [if_neg (lt_irrefl n), if_pos rfl] at entry
    split_ifs at entry
    cases entry
    exact .inl ⟨rfl, rfl⟩
  · rw [if_neg gt.not_gt, if_neg gt.ne'] at entry
    exact .inr ⟨n - 1, (if_neg gt.not_gt).symm, gt.ne', disabledTable_enabled entry on⟩

lemma modify_enable_disable (enabled : ∀ e ∈ table, e.enabled = true) (k : ℕ) :
    table.modify k (RouteInfo.enable ∘ RouteInfo.disable) = table := by
  refine ext_getElem? fun n => ?_
  rw [getElem?_modify]
  cases entry : table[n]? with
  | none => rfl
  | some e =>
    have on := enabled e (mem_of_getElem? entry)
    refine congrArg some ?_
    dsimp only
    split_ifs
    · rw [Function.comp_apply, RouteInfo.enable, RouteInfo.disable, ← on]
    · rfl

lemma restored_eq (enabled : ∀ e ∈ table, e.enabled = true) (differ : i ≠ j) (ltI : i < m)
    (ltJ : j < m) :
    ((((disabledTable i j table).insertIdx m merged).modify i RouteInfo.enable).modify j
      RouteInfo.enable).eraseIdx m = table := by
  rw [eraseIdx_modify_of_gt _ _ _ _ ltJ, eraseIdx_modify_of_gt _ _ _ _ ltI,
    eraseIdx_insertIdx_self, disabledTable, modify_modify_ne _ _ (table.modify i _) differ.symm,
    modify_modify_eq, modify_modify_eq, modify_enable_disable enabled,
    modify_enable_disable enabled]

/-! ## Tables that route the originals -/

/-- What a merge keeps. -/
structure Routed (allowed : ℕ → OriginalRouteInfo → Prop) (originals : List OriginalRouteInfo)
    (table : RoutingTableInfo) : Prop where
  enabled : ∀ e ∈ table, e.enabled = true
  masked : ∀ e ∈ table, e.Masked
  colored : ∀ e ∈ table, ∃ original ∈ originals, original.color = e.color
  sorted : SortedBy place table
  own : ∀ e ∈ table, e.Own
  ahead : table.Pairwise (Ahead allowed)
  attached : (table.flatMap RouteInfo.originalRouteInfos).Perm originals

section

variable {infoI infoJ merged : RouteInfo}

lemma Routed.ahead_of_lt (routed : Routed allowed os table) (lt : k < m)
    (entry' : table[k]? = some e') (entry : table[m]? = some e) : Ahead allowed e' e := by
  obtain ⟨lt', rfl⟩ := List.getElem?_eq_some_iff.mp entry'
  obtain ⟨lt'', rfl⟩ := List.getElem?_eq_some_iff.mp entry
  exact pairwise_iff_getElem.mp routed.ahead k m lt' lt'' lt

lemma Routed.merging (routed : Routed allowed os table) (fresh : merged.originalRouteInfos = []) :
    Merging allowed m ((disabledTable i j table).insertIdx m merged)
      ((disabledTable i j table).insertIdx m merged) where
  same := rfl
  own := by
    intro n e entry on original mem
    rcases inserted_entry entry on with ⟨-, rfl⟩ | ⟨n₀, -, -, -, -, entry₀⟩
    · rw [fresh] at mem
      cases mem
    · exact routed.own e (mem_of_getElem? entry₀) on original mem
  ahead := by
    intro n' n e' e lt ne entry' entry on' on original mem
    rcases inserted_entry entry on with ⟨-, rfl⟩ | ⟨n₀, index, apart, -, -, entry₀⟩
    · rw [fresh] at mem
      cases mem
    rcases inserted_entry entry' on' with ⟨same, -⟩ | ⟨n₀', index', apart', -, -, entry₀'⟩
    · exact absurd same ne
    have order : n₀' < n₀ := by
      rw [index, index']
      split_ifs <;> omega
    exact routed.ahead_of_lt order entry₀' entry₀ on' on original mem
  disabled := fun _ _ entry _ => entry
  behind := rfl

lemma disabledTable_perm (i j : ℕ) (table : RoutingTableInfo) :
    ((disabledTable i j table).flatMap RouteInfo.originalRouteInfos) =
      table.flatMap RouteInfo.originalRouteInfos := by
  rw [flatMap_def, flatMap_def, disabledTable_map fun _ => rfl]

/-- The table with the merged entry. -/
abbrev insertedTable (i j m : ℕ) (merged : RouteInfo) (table : RoutingTableInfo) :
    RoutingTableInfo :=
  (disabledTable i j table).insertIdx m merged

/-- The merged entry is at `m`, behind the two that are disabled. -/
structure Inserted (i j m : ℕ) (routeInfoI routeInfoJ merged : RouteInfo)
    (table : RoutingTableInfo) : Prop where
  entryI : table[i]? = some routeInfoI
  entryJ : table[j]? = some routeInfoJ
  order : j < i
  before : i < m
  index : (addRouteInfo (disabledTable i j table) merged).1 = m
  color : routeInfoI.color = routeInfoJ.color
  merged : merged = mergedRouteInfo routeInfoI routeInfoJ

variable (site : Inserted i j m infoI infoJ merged table)

include site

lemma Inserted.at_m : (insertedTable i j m merged table)[m]? = some merged := by
  have le : m ≤ (disabledTable i j table).length := by
    rw [← site.index]
    exact (List.takeWhile_prefix _).length_le
  rw [getElem?_insertIdx_self, if_pos le]

lemma Inserted.at_i : (insertedTable i j m merged table)[i]? = some infoI.disable := by
  rw [getElem?_insertIdx_of_lt site.before, disabledTable_getElem?, site.entryI,
    Option.map_some, if_pos (.inl rfl)]

lemma Inserted.at_j : (insertedTable i j m merged table)[j]? = some infoJ.disable := by
  rw [getElem?_insertIdx_of_lt (site.order.trans site.before), disabledTable_getElem?,
    site.entryJ, Option.map_some, if_pos (.inr rfl)]

lemma Inserted.not_matches_i {destination : IPv4Address} :
    ¬ Matches (insertedTable i j m merged table) i destination := by
  intro ⟨e, entry, on, _⟩
  cases site.at_i.symm.trans entry
  cases on

lemma Inserted.found (contains : merged.contains original.destination = true)
    (color : merged.color = original.color) (le : first ≤ m) (free : ∀ k, first ≤ k → k < m →
      Matches (insertedTable i j m merged table) k original.destination →
      (∀ k', first ≤ k' → k' < k →
        ¬ Matches (insertedTable i j m merged table) k' original.destination) →
      HasColor (insertedTable i j m merged table) k original.color) :
    ∃ k, findBestMatchingRouteInfo (insertedTable i j m merged table) original.destination first
        (m + 1) = some k ∧ HasColor (insertedTable i j m merged table) k original.color := by
  have on : merged.enabled = true := by
    rw [site.merged]
    rfl
  obtain ⟨k, best⟩ := findBestMatchingRouteInfo_isSome ⟨merged, site.at_m, on, contains⟩ le
    (Nat.lt_succ_self m)
  obtain ⟨matched, ge, lt, earlier⟩ := findBestMatchingRouteInfo_some.mp best
  refine ⟨k, best, ?_⟩
  rcases Nat.lt_or_eq_of_le (Nat.lt_succ_iff.mp lt) with before | rfl
  · exact free k ge before matched earlier
  · exact hasColor_iff.mpr ⟨merged, site.at_m, color⟩

lemma Inserted.attached (routed : Routed allowed os table)
    (freeJI : interruptsAnyOriginalRoute (insertedTable i j m merged table) (j + 1) i
      infoJ.originalRouteInfos = false)
    (freeJM : interruptsAnyOriginalRoute (insertedTable i j m merged table) (i + 1) m
      infoJ.originalRouteInfos = false)
    (freeIM : interruptsAnyOriginalRoute (insertedTable i j m merged table) (i + 1) m
      infoI.originalRouteInfos = false) :
    ∃ table₁ table₂, addOriginalRouteInfos (i + 1) (m + 1) infoI.originalRouteInfos
        (insertedTable i j m merged table) = .ok table₁ ∧
      addOriginalRouteInfos (j + 1) (m + 1) infoJ.originalRouteInfos table₁ = .ok table₂ ∧
      Merging allowed m (insertedTable i j m merged table) table₂ ∧
      (table₂.flatMap RouteInfo.originalRouteInfos).Perm
        (infoJ.originalRouteInfos ++ (infoI.originalRouteInfos ++
          (insertedTable i j m merged table).flatMap RouteInfo.originalRouteInfos)) := by
  have memI := mem_of_getElem? site.entryI
  have memJ := mem_of_getElem? site.entryJ
  have order := site.order
  have beforeM := site.before
  have fresh : merged.originalRouteInfos = [] := by
    rw [site.merged]
    rfl
  have front : ∀ n r, table[n]? = some r → n < m → (n = i ∨ n = j) →
      ∀ original ∈ r.originalRouteInfos, ∀ k < n + 1, ∀ e,
        (insertedTable i j m merged table)[k]? = some e → e.enabled = true →
        e.contains original.destination = true → allowed e.color original := by
    intro n r entry lt disabled original mem k le e entryE on contains
    rcases inserted_entry entryE on with ⟨same, -⟩ | ⟨n₀, index, -, neI, neJ, entry₀⟩
    · omega
    · rw [if_pos (by omega)] at index
      have strict : n₀ < n := by omega
      exact routed.ahead_of_lt strict entry₀ entry on (routed.enabled r (mem_of_getElem? entry))
        original mem contains
  have start : Merging allowed m (insertedTable i j m merged table)
    (insertedTable i j m merged table) := routed.merging fresh
  have forI : ∀ original ∈ infoI.originalRouteInfos, ∃ k,
      findBestMatchingRouteInfo (insertedTable i j m merged table) original.destination (i + 1)
        (m + 1) = some k ∧ HasColor (insertedTable i j m merged table) k original.color := by
    intro original mem
    obtain ⟨contains, color⟩ := routed.own infoI memI (routed.enabled _ memI) original mem
    have whole : merged.contains original.destination = true ∧ merged.color = original.color := by
      rw [site.merged]
      exact ⟨mergedRouteInfo_contains (.inl contains), color⟩
    refine site.found whole.1 whole.2 beforeM ?_
    intro k ge lt matched earlier
    exact not_interruptsAnyOriginalRoute freeIM mem
      (findBestMatchingRouteInfo_some.mpr ⟨matched, ge, lt, earlier⟩)
  have forJ : ∀ original ∈ infoJ.originalRouteInfos, ∃ k,
      findBestMatchingRouteInfo (insertedTable i j m merged table) original.destination (j + 1)
        (m + 1) = some k ∧ HasColor (insertedTable i j m merged table) k original.color := by
    intro original mem
    obtain ⟨contains, color⟩ := routed.own infoJ memJ (routed.enabled _ memJ) original mem
    have whole : merged.contains original.destination = true ∧ merged.color = original.color := by
      rw [site.merged]
      exact ⟨mergedRouteInfo_contains (.inr contains), site.color.trans color⟩
    refine site.found whole.1 whole.2 (order.trans beforeM) ?_
    intro k ge lt matched earlier
    rcases Nat.lt_trichotomy k i with early | rfl | late
    · exact not_interruptsAnyOriginalRoute freeJI mem
        (findBestMatchingRouteInfo_some.mpr ⟨matched, ge, early, earlier⟩)
    · exact absurd matched site.not_matches_i
    · exact not_interruptsAnyOriginalRoute freeJM mem
        (findBestMatchingRouteInfo_some.mpr ⟨matched, late, lt,
          fun k' ge' lt' => earlier k' (by omega) lt'⟩)
  obtain ⟨table₁, run₁, merging₁, perm₁⟩ := start.addOriginalRouteInfos le_rfl forI
    (front i infoI site.entryI beforeM (.inl rfl))
  obtain ⟨table₂, run₂, merging₂, perm₂⟩ := merging₁.addOriginalRouteInfos le_rfl forJ
    (front j infoJ site.entryJ (order.trans beforeM) (.inr rfl))
  exact ⟨table₁, table₂, run₁, run₂, merging₂, perm₂.trans (perm₁.append_left _)⟩

lemma Inserted.eq_insertBy :
    insertedTable i j m merged table = insertBy place merged (disabledTable i j table) := by
  rw [← addRouteInfo_eq, insertedTable, ← site.index]
  rfl

lemma Inserted.perm : (insertedTable i j m merged table).Perm (merged :: disabledTable i j table) := by
  rw [site.eq_insertBy]
  exact perm_orderedInsert _ _ _

lemma Inserted.sorted (sorted : SortedBy place table) :
    SortedBy place (insertedTable i j m merged table) := by
  rw [site.eq_insertBy]
  exact (disabledTable_sorted sorted).insertBy

lemma Inserted.flatMap :
    ((insertedTable i j m merged table).flatMap RouteInfo.originalRouteInfos).Perm
      (table.flatMap RouteInfo.originalRouteInfos) := by
  have whole := site.perm.flatMap_right RouteInfo.originalRouteInfos
  rw [flatMap_cons, site.merged, disabledTable_perm] at whole
  rw [site.merged]
  exact whole

/-- The originals behind the merged entry that it matches have its color. -/
lemma Inserted.colored
    (free : interruptsSubsequentOriginalRoutes (insertedTable i j m merged table) m = false) :
    ∀ e ∈ (insertedTable i j m merged table).drop (m + 1), ∀ original ∈ e.originalRouteInfos,
      merged.contains original.destination = true → merged.color = original.color := by
  intro e mem original memO contains
  have one := any_eq_false.mp free e mem
  rw [Bool.not_eq_true] at one
  have on : merged.enabled = true := by
    rw [site.merged]
    rfl
  have best : findBestMatchingRouteInfo (insertedTable i j m merged table) original.destination m
      (m + 1) = some m :=
    findBestMatchingRouteInfo_some.mpr ⟨⟨merged, site.at_m, on, contains⟩, le_rfl, Nat.lt_succ_self m,
      fun k ge lt => absurd lt ge.not_gt⟩
  obtain ⟨e', entry', color⟩ := hasColor_iff.mp (not_interruptsAnyOriginalRoute one memO best)
  cases site.at_m.symm.trans entry'
  exact color

lemma Inserted.enabled_at {n : ℕ} (routed : Routed allowed os table) (neI : n ≠ i)
    (neJ : n ≠ j) (entry : (insertedTable i j m merged table)[n]? = some e) : e.enabled = true := by
  have order := site.order
  have before := site.before
  have old : ∀ n₀, n₀ ≠ i → n₀ ≠ j → (disabledTable i j table)[n₀]? = some e → e.enabled = true := by
    intro n₀ neI₀ neJ₀ entry'
    rw [disabledTable_getElem?] at entry'
    obtain ⟨e₀, entry₀, rfl⟩ := Option.map_eq_some_iff.mp entry'
    rw [if_neg fun either => either.elim neI₀ neJ₀]
    exact routed.enabled e₀ (mem_of_getElem? entry₀)
  rcases Nat.lt_trichotomy n m with lt | rfl | gt
  · rw [getElem?_insertIdx_of_lt lt] at entry
    exact old n neI neJ entry
  · cases site.at_m.symm.trans entry
    rw [site.merged]
    rfl
  · rw [getElem?_insertIdx_of_gt gt] at entry
    exact old (n - 1) (by omega) (by omega) entry

lemma Inserted.masked (routed : Routed allowed os table) :
    ∀ e ∈ insertedTable i j m merged table, e.Masked := by
  intro e mem
  rcases mem_cons.mp (site.perm.mem_iff.mp mem) with rfl | mem
  · rw [site.merged]
    exact mergedRouteInfo_masked
  · obtain ⟨n, entry⟩ := mem_iff_getElem?.mp mem
    rw [disabledTable_getElem?] at entry
    obtain ⟨e₀, entry₀, rfl⟩ := Option.map_eq_some_iff.mp entry
    have masked := routed.masked e₀ (mem_of_getElem? entry₀)
    split_ifs
    · exact masked
    · exact masked

lemma Inserted.colors (routed : Routed allowed os table) :
    ∀ e ∈ insertedTable i j m merged table, ∃ original ∈ os, original.color = e.color := by
  intro e mem
  rcases mem_cons.mp (site.perm.mem_iff.mp mem) with rfl | mem
  · rw [site.merged]
    exact routed.colored infoI (mem_of_getElem? site.entryI)
  · obtain ⟨n, entry⟩ := mem_iff_getElem?.mp mem
    rw [disabledTable_getElem?] at entry
    obtain ⟨e₀, entry₀, rfl⟩ := Option.map_eq_some_iff.mp entry
    have colored := routed.colored e₀ (mem_of_getElem? entry₀)
    split_ifs
    · exact colored
    · exact colored

omit site in
lemma place_bare (same : table.map RouteInfo.bare = table'.map RouteInfo.bare)
    (sorted : SortedBy place table') : SortedBy place table := by
  have mapped := congrArg (List.map place) same
  rw [map_map, map_map] at mapped
  have placed : (table.map place).Pairwise fun a b => a ≤ b := by
    refine (congrArg (List.Pairwise _) mapped).mpr ?_
    exact pairwise_map.mpr sorted
  exact pairwise_map.mp placed

omit site in
lemma erase_perm (entry : table[k]? = some e) :
    (e.originalRouteInfos ++ (table.eraseIdx k).flatMap RouteInfo.originalRouteInfos).Perm
      (table.flatMap RouteInfo.originalRouteInfos) := by
  obtain ⟨lt, rfl⟩ := List.getElem?_eq_some_iff.mp entry
  exact (getElem_cons_eraseIdx_perm lt).flatMap_right RouteInfo.originalRouteInfos

lemma Inserted.finished (routed : Routed allowed os table)
    (merging : Merging allowed m (insertedTable i j m merged table) table')
    (perm : (table'.flatMap RouteInfo.originalRouteInfos).Perm
      (infoJ.originalRouteInfos ++ (infoI.originalRouteInfos ++
        (insertedTable i j m merged table).flatMap RouteInfo.originalRouteInfos)))
    (free : interruptsSubsequentOriginalRoutes (insertedTable i j m merged table) m = false) :
    ∃ moved, moveToMerged table' m merged = .ok moved ∧
      Routed allowed os ((moved.eraseIdx i).eraseIdx j) ∧
      ((moved.eraseIdx i).eraseIdx j).length + 1 = table.length := by
  have order := site.order
  have before := site.before
  obtain ⟨info, entry, bare⟩ := bare_entry merging.same.symm site.at_m
  have colored := site.colored free
  have enabled : ∀ e ∈ (insertedTable i j m merged table).drop (m + 1), e.enabled = true := by
    intro e mem
    obtain ⟨k, entryE⟩ := mem_iff_getElem?.mp mem
    rw [getElem?_drop] at entryE
    exact site.enabled_at routed (by omega) (by omega) entryE
  rw [← merging.behind] at colored enabled
  obtain ⟨own, ahead⟩ := merging.moved entry bare enabled colored
  have moved : (movedTable m merged info table').map RouteInfo.bare =
      table'.map RouteInfo.bare := movedTable_bare entry
  have same := moved.trans merging.same
  have sub : (((movedTable m merged info table').eraseIdx i).eraseIdx j).Sublist
      (movedTable m merged info table') :=
    (eraseIdx_sublist _ _).trans (eraseIdx_sublist _ _)
  have atI : (movedTable m merged info table')[i]? = some infoI.disable := by
    rw [movedTable_before entry before]
    exact merging.disabled i _ site.at_i rfl
  have atJ : ((movedTable m merged info table').eraseIdx i)[j]? = some infoJ.disable := by
    rw [getElem?_eraseIdx_of_lt order, movedTable_before entry (order.trans before)]
    exact merging.disabled j _ site.at_j rfl
  have kept : ∀ e ∈ ((movedTable m merged info table').eraseIdx i).eraseIdx j,
      ∃ n e', n ≠ i ∧ n ≠ j ∧ (insertedTable i j m merged table)[n]? = some e' ∧
        e'.bare = e.bare := by
    intro e mem
    obtain ⟨n, neJ, entryE⟩ := mem_eraseIdx_iff_getElem?.mp mem
    rw [getElem?_eraseIdx] at entryE
    split_ifs at entryE with lt
    · obtain ⟨e', entry', bare'⟩ := bare_entry same entryE
      exact ⟨n, e', lt.ne, neJ, entry', bare'⟩
    · obtain ⟨e', entry', bare'⟩ := bare_entry same entryE
      exact ⟨n + 1, e', by omega, by omega, entry', bare'⟩
  refine ⟨movedTable m merged info table', moveToMerged_eq entry colored, ?_, ?_⟩
  · refine ⟨?_, ?_, ?_, (place_bare same (site.sorted routed.sorted)).sublist sub,
      fun e mem => own e (sub.subset mem), ahead.sublist sub, ?_⟩
    · intro e mem
      obtain ⟨n, e', neI, neJ, entry', bare'⟩ := kept e mem
      exact (enabled_bare bare').symm.trans (site.enabled_at routed neI neJ entry')
    · intro e mem
      obtain ⟨n, e', -, -, entry', bare'⟩ := kept e mem
      have masked := site.masked routed e' (mem_of_getElem? entry')
      have masked' : e'.bare.Masked := masked
      rw [bare'] at masked'
      exact masked'
    · intro e mem
      obtain ⟨n, e', -, -, entry', bare'⟩ := kept e mem
      rw [← color_bare bare']
      exact site.colors routed e' (mem_of_getElem? entry')
    · -- What was attached to the two routes is now attached to others.
      have erased := ((erase_perm atJ).append_left infoI.disable.originalRouteInfos).trans
        (erase_perm atI)
      have all := (erased.trans (movedTable_perm entry)).trans
        (perm.trans ((site.flatMap.append_left _).append_left _))
      have swapped := all.trans (perm_append_comm_assoc _ _ _)
      exact ((perm_append_left_iff _).mp ((perm_append_left_iff _).mp swapped)).trans
        routed.attached
  · have whole := congrArg List.length same
    rw [length_map, length_map, site.perm.length_eq, length_cons, disabledTable,
      length_modify, length_modify] at whole
    have ltI := (List.getElem?_eq_some_iff.mp atI).1
    have ltJ := (List.getElem?_eq_some_iff.mp atJ).1
    have first := length_eraseIdx_of_lt ltI
    have second := length_eraseIdx_of_lt ltJ
    omega

end

section

variable {infoI infoJ : RouteInfo}

lemma Routed.insertion (routed : Routed allowed os table)
    (entryI : table[i]? = some infoI) (entryJ : table[j]? = some infoJ) (lt : j < i)
    (color : infoI.color = infoJ.color) :
    Inserted i j (addRouteInfo (disabledTable i j table) (mergedRouteInfo infoI infoJ)).1
      infoI infoJ (mergedRouteInfo infoI infoJ) table := by
  obtain ⟨prefixed, same, inFirst, inSecond⟩ := mergedRouteInfo_common infoI infoJ
  have placed : place infoI.disable ≤ place (mergedRouteInfo infoI infoJ) :=
    place_le_of_and inFirst (routed.masked infoI (mem_of_getElem? entryI)) prefixed
  have entry : (disabledTable i j table)[i]? = some infoI.disable := by
    rw [disabledTable_getElem?, entryI, Option.map_some, if_pos (.inl rfl)]
  exact ⟨entryI, entryJ, lt, addRouteInfo_lt (disabledTable_sorted routed.sorted) entry placed, rfl,
    color, rfl⟩

lemma Routed.tryToMergeTwoRoutes (routed : Routed allowed os table)
    (entryI : table[i]? = some infoI) (entryJ : table[j]? = some infoJ) (lt : j < i)
    (color : infoI.color = infoJ.color) :
    ∃ merged table', tryToMergeTwoRoutes table i j infoI infoJ = .ok (merged, table') ∧
      (merged = false → table' = table) ∧
      (merged = true → Routed allowed os table' ∧ table'.length + 1 = table.length) := by
  have site := routed.insertion entryI entryJ lt color
  rw [IPv4NetworkConfigurator.tryToMergeTwoRoutes]
  have added : insertMerged table i j (mergedRouteInfo infoI infoJ) =
      ((addRouteInfo (disabledTable i j table) (mergedRouteInfo infoI infoJ)).1,
        insertedTable i j (addRouteInfo (disabledTable i j table)
          (mergedRouteInfo infoI infoJ)).1 (mergedRouteInfo infoI infoJ) table) :=
    rfl
  rw [added]
  dsimp only
  generalize (addRouteInfo (disabledTable i j table) (mergedRouteInfo infoI infoJ)).1 = m at site
  rw [if_pos ⟨site.before, lt.trans site.before⟩]
  by_cases free : noInterruption (insertedTable i j m (mergedRouteInfo infoI infoJ) table)
      i j m infoI.originalRouteInfos infoJ.originalRouteInfos = true
  · rw [if_pos free]
    simp only [noInterruption, Bool.and_eq_true, Bool.not_eq_true'] at free
    obtain ⟨⟨⟨freeJI, freeJM⟩, freeIM⟩, behind⟩ := free
    obtain ⟨table₁, table₂, run₁, run₂, merging, perm⟩ := site.attached routed freeJI freeJM freeIM
    obtain ⟨moved, run₃, routed', length⟩ := site.finished routed merging perm behind
    refine ⟨true, (moved.eraseIdx i).eraseIdx j, ?_, nofun, fun _ => ⟨routed', length⟩⟩
    rw [run₁]
    dsimp only [bind, Except.bind]
    rw [run₂]
    dsimp only
    rw [run₃]
    rfl
  · rw [if_neg free]
    exact ⟨false, _, rfl, fun _ => restored_eq routed.enabled lt.ne' site.before
      (lt.trans site.before), nofun⟩

end

end IPv4NetworkConfigurator

end Inet.Ipv4
