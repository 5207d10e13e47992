import Inet.Ipv4.RouteMerging

/-!
# The optimizer keeps every destination's next hop

The tables of a run are `Routed`: for the routes as they come, by the initial check, and after every
merge. Each merge shortens the table, so the main loop ends.
-/

namespace Inet.Ipv4

open List

namespace IPv4NetworkConfigurator

variable {allowed : ℕ → OriginalRouteInfo → Prop} {table table' : RoutingTableInfo}
  {os : List OriginalRouteInfo} {original : OriginalRouteInfo} {e e' : RouteInfo}

/-- What an attempt to merge comes to: no error, and a table that is as before, or one that is
shorter and routes the originals too. -/
def Attempt (allowed : ℕ → OriginalRouteInfo → Prop) (originals : List OriginalRouteInfo)
    (table : RoutingTableInfo) (result : Except SimError (Bool × RoutingTableInfo)) : Prop :=
  ∃ merged table', result = .ok (merged, table') ∧ (merged = false → table' = table) ∧
    (merged = true → Routed allowed originals table' ∧ table'.length + 1 = table.length)

lemma Attempt.none : Attempt allowed os table (.ok (false, table)) :=
  ⟨false, table, rfl, fun _ => rfl, nofun⟩

lemma Attempt.orElse {result : Except SimError (Bool × RoutingTableInfo)}
    {next : RoutingTableInfo → Except SimError (Bool × RoutingTableInfo)}
    (first : Attempt allowed os table result)
    (second : Attempt allowed os table (next table)) :
    Attempt allowed os table
      (result >>= fun x => if x.1 = true then pure (true, x.2) else next x.2) := by
  obtain ⟨merged, table', rfl, failed, done⟩ := first
  cases merged with
  | true => exact ⟨true, table', rfl, failed, done⟩
  | false =>
    cases failed rfl
    exact second

lemma Routed.tryToMergeBackward (routed : Routed allowed os table) {i count : ℕ}
    {infoI : RouteInfo} (entryI : table[i]? = some infoI) (le : count ≤ i) :
    Attempt allowed os table (tryToMergeBackward i infoI count table) := by
  induction count with
  | zero => exact Attempt.none
  | succ j ih =>
    have lt := (List.getElem?_eq_some_iff.mp entryI).1
    have entryJ : table[j]? = some table[j] := getElem?_eq_getElem (by omega)
    have rest := ih (by omega)
    rw [IPv4NetworkConfigurator.tryToMergeBackward, entryJ]
    dsimp only
    split_ifs with candidates
    · have one : Attempt allowed os table
          (IPv4NetworkConfigurator.tryToMergeTwoRoutes table i j infoI table[j]) :=
        routed.tryToMergeTwoRoutes entryI entryJ le candidates.1
      exact one.orElse rest
    · exact rest

lemma Routed.tryToMergeFrom (routed : Routed allowed os table) {i count : ℕ}
    (whole : i + count = table.length) :
    Attempt allowed os table (tryToMergeFrom count i table) := by
  induction count generalizing i with
  | zero => exact Attempt.none
  | succ count ih =>
    have entryI : table[i]? = some table[i] := getElem?_eq_getElem (by omega)
    rw [IPv4NetworkConfigurator.tryToMergeFrom, entryI]
    exact (routed.tryToMergeBackward entryI le_rfl).orElse (ih (by omega))

lemma Routed.tryToMergeAnyTwoRoutes (routed : Routed allowed os table) :
    Attempt allowed os table (tryToMergeAnyTwoRoutes table) :=
  routed.tryToMergeFrom (Nat.zero_add _)

/-- The main loop ends, with a table that routes the originals. -/
lemma Routed.mergeRoutes (routed : Routed allowed os table) {rounds : ℕ}
    (enough : table.length < rounds) :
    ∃ table', mergeRoutes rounds table = .ok table' ∧ Routed allowed os table' := by
  induction rounds generalizing table with
  | zero => omega
  | succ rounds ih =>
    obtain ⟨merged, table', run, failed, done⟩ := routed.tryToMergeAnyTwoRoutes
    rw [IPv4NetworkConfigurator.mergeRoutes, run]
    cases merged with
    | false =>
      cases failed rfl
      exact ⟨_, rfl, routed⟩
    | true =>
      obtain ⟨routed', length⟩ := done rfl
      exact ih routed' (by omega)

lemma checkOriginalRoutes_iff : checkOriginalRoutes table os = .ok () ↔
    ∀ original ∈ os, ∃ k,
      findBestMatchingRouteInfo table original.destination 0 table.length = some k ∧
        HasColor table k original.color := by
  induction os with
  | nil =>
    constructor
    · intro _ original mem
      cases mem
    · intro _
      rfl
  | cons original os ih =>
    rw [checkOriginalRoutes, forall_mem_cons]
    cases found : findBestMatchingRouteInfo table original.destination 0 table.length with
    | none =>
      constructor
      · intro check
        cases check
      · rintro ⟨⟨k, same, -⟩, -⟩
        cases same
    | some k =>
      dsimp only
      by_cases colored : HasColor table k original.color
      · have color := colored
        rw [HasColor] at color
        rw [if_pos color, ih]
        exact ⟨fun rest => ⟨⟨k, rfl, colored⟩, rest⟩, And.right⟩
      · have color := colored
        rw [HasColor] at color
        rw [if_neg color]
        constructor
        · intro check
          cases check
        · rintro ⟨⟨k', same, colored'⟩, -⟩
          cases same
          exact absurd colored' colored

/-- What an original route is attached to. -/
structure AttachedTo (allowed : ℕ → OriginalRouteInfo → Prop) (original : OriginalRouteInfo)
    (front : List RouteInfo) (e : RouteInfo) (back : List RouteInfo) : Prop where
  mem : original ∈ e.originalRouteInfos
  contains : e.contains original.destination = true
  color : e.color = original.color
  alone : ∀ e' ∈ front ++ back, original ∉ e'.originalRouteInfos
  ahead : ∀ e' ∈ front, e'.contains original.destination = true → allowed e'.color original

lemma Routed.attachedTo (routed : Routed allowed os table) (nodup : os.Nodup)
    (mem : original ∈ os) :
    ∃ front e back, table = front ++ e :: back ∧ AttachedTo allowed original front e back := by
  obtain ⟨e, memE, memO⟩ := mem_flatMap.mp (routed.attached.mem_iff.mpr mem)
  obtain ⟨front, back, rfl⟩ := append_of_mem memE
  have once := routed.attached.nodup_iff.mpr nodup
  rw [flatMap_append, flatMap_cons] at once
  obtain ⟨-, rest, apartFront⟩ := nodup_append.mp once
  obtain ⟨-, -, apartBack⟩ := nodup_append.mp rest
  have on := routed.enabled e memE
  obtain ⟨contains, color⟩ := routed.own e memE on original memO
  refine ⟨front, e, back, rfl, memO, contains, color, ?_, ?_⟩
  · intro e' memE' memO'
    rcases mem_append.mp memE' with inFront | inBack
    · exact apartFront original (mem_flatMap.mpr ⟨e', inFront, memO'⟩) original
        (mem_append_left _ memO) rfl
    · exact apartBack original memO original (mem_flatMap.mpr ⟨e', inBack, memO'⟩) rfl
  · intro e' inFront
    have ahead := (pairwise_append.mp routed.ahead).2.2 e' inFront e mem_cons_self
    exact ahead (routed.enabled e' (mem_append_left _ inFront)) on original memO

/-- The first match of an original route's destination has its color. -/
lemma Routed.check (routed : Routed (fun color original => color = original.color) os table) :
    checkOriginalRoutes table os = .ok () := by
  rw [checkOriginalRoutes_iff]
  intro original mem
  obtain ⟨e, memE, memO⟩ := List.mem_flatMap.mp (routed.attached.mem_iff.mpr mem)
  obtain ⟨n, entry⟩ := List.mem_iff_getElem?.mp memE
  have on := routed.enabled e memE
  obtain ⟨contains, color⟩ := routed.own e memE on original memO
  have lt := (List.getElem?_eq_some_iff.mp entry).1
  have matched : Matches table n original.destination := ⟨e, entry, on, contains⟩
  obtain ⟨k, best⟩ := findBestMatchingRouteInfo_isSome matched (Nat.zero_le _) lt
  obtain ⟨⟨e', entry', on', contains'⟩, -, -, earlier⟩ := findBestMatchingRouteInfo_some.mp best
  refine ⟨k, best, hasColor_iff.mpr ⟨e', entry', ?_⟩⟩
  rcases Nat.lt_trichotomy k n with before | rfl | behind
  · exact routed.ahead_of_lt before entry' entry on' on original memO contains'
  · cases entry.symm.trans entry'
    exact color
  · exact absurd matched (earlier n (Nat.zero_le _) behind)

/-! ## The table as it comes -/

/-- The copy of an original route in the table. -/
def OriginalRouteInfo.copy (original : OriginalRouteInfo) : RouteInfo :=
  ⟨original.color, true, original.destination, original.netmask, [original]⟩

/-- The original route is as the route says, and the color has the action of the route. -/
structure ClassifiedAs (colorToRoute : List IPv4Route) (route : IPv4Route)
    (original : OriginalRouteInfo) : Prop where
  destination : original.destination = route.dest
  netmask : original.netmask = route.netmask
  color : ∃ routeColor, colorToRoute[original.color]? = some routeColor ∧
    routesHaveSameColor routeColor route = true

/-- What the first step builds of the routes. -/
structure IsClassified (routes : List IPv4Route) (classified : Classified) : Prop where
  as : List.Forall₂ (ClassifiedAs classified.colorToRoute) routes classified.originalRouteInfos
  index : classified.originalRouteInfos.map OriginalRouteInfo.index = List.range routes.length
  sorted : SortedBy place classified.routeInfos
  perm : classified.routeInfos.Perm (classified.originalRouteInfos.map OriginalRouteInfo.copy)

lemma colorOf_spec (colorToRoute : List IPv4Route) (route : IPv4Route) :
    (∃ routeColor, (colorOf colorToRoute route).2[(colorOf colorToRoute route).1]? = some routeColor ∧
      routesHaveSameColor routeColor route = true) ∧
    ∀ (color : ℕ) (routeColor : IPv4Route), colorToRoute[color]? = some routeColor →
      (colorOf colorToRoute route).2[color]? = some routeColor := by
  rw [colorOf]
  cases found : findRouteIndexWithSameColor colorToRoute route with
  | some color =>
    obtain ⟨lt, same, -⟩ := findIdx?_eq_some_iff_getElem.mp found
    exact ⟨⟨colorToRoute[color], getElem?_eq_getElem lt, same⟩, fun _ _ entry => entry⟩
  | none =>
    refine ⟨⟨route, getElem?_concat_length, ?_⟩, ?_⟩
    · rw [routesHaveSameColor, decide_eq_true_iff]
      exact ⟨rfl, rfl, rfl, rfl⟩
    · intro color routeColor entry
      rw [List.getElem?_append_left (List.getElem?_eq_some_iff.mp entry).1, entry]

lemma classify_spec (routes : List IPv4Route) : IsClassified routes (classify routes) := by
  induction routes using List.reverseRecOn with
  | nil => exact ⟨.nil, rfl, .nil, .nil⟩
  | append_singleton routes route ih =>
    obtain ⟨as, index, sorted, perm⟩ := ih
    have step : classify (routes ++ [route]) = classifyRoute (classify routes) route := by
      rw [classify, foldl_append]
      rfl
    obtain ⟨colored, kept⟩ := colorOf_spec (classify routes).colorToRoute route
    have length : (classify routes).originalRouteInfos.length = routes.length := as.length_eq.symm
    rw [step]
    constructor
    · refine rel_append ?_ (.cons ⟨rfl, rfl, colored⟩ .nil)
      refine as.imp fun r original classified => ⟨classified.destination, classified.netmask, ?_⟩
      obtain ⟨routeColor, entry, same⟩ := classified.color
      exact ⟨routeColor, kept _ _ entry, same⟩
    · simp only [classifyRoute, map_append, index, length, length_append,
        length_singleton, range_succ, map_cons, map_nil]
    · simp only [classifyRoute, addRouteInfo_eq]
      exact sorted.insertBy
    · simp only [classifyRoute, addRouteInfo_eq, map_append]
      refine (perm_orderedInsert _ _ _).trans ?_
      exact (perm.cons _).trans (perm_append_singleton _ _).symm

/-- A route with a netmask that is one, and no bits outside of it. -/
structure ProperPrefix (route : IPv4Route) : Prop where
  valid : route.netmask.isValidNetmask
  masked : route.dest &&& route.netmask = route.dest

lemma place_le_netmask {e' e : RouteInfo} (le : place e' ≤ place e) : e.netmask ≤ e'.netmask := by
  rw [place, place] at le
  rw [BitVec.le_def]
  omega

section

variable {routes : List IPv4Route} {classified : Classified}

lemma exists_of_forall₂ {α β : Type} {R : α → β → Prop} {xs : List α} {ys : List β} {y : β}
    (related : List.Forall₂ R xs ys) (mem : y ∈ ys) : ∃ x ∈ xs, R x y := by
  induction related with
  | nil => cases mem
  | cons head _ ih =>
    rcases mem_cons.mp mem with rfl | later
    · exact ⟨_, mem_cons_self, head⟩
    · obtain ⟨x, memX, holds⟩ := ih later
      exact ⟨x, mem_cons_of_mem _ memX, holds⟩

variable (built : IsClassified routes classified)
include built

lemma IsClassified.proper (proper : ∀ route ∈ routes, ProperPrefix route) :
    ∀ original ∈ classified.originalRouteInfos, original.netmask.isValidNetmask ∧
      original.destination &&& original.netmask = original.destination := by
  intro original mem
  obtain ⟨route, memR, as⟩ := exists_of_forall₂ built.as mem
  rw [as.destination, as.netmask]
  exact ⟨(proper route memR).valid, (proper route memR).masked⟩

omit built in
lemma copy_contains {original original' : OriginalRouteInfo}
    (valid : original.netmask.isValidNetmask) (valid' : original'.netmask.isValidNetmask)
    (masked : original.destination &&& original.netmask = original.destination)
    (masked' : original'.destination &&& original'.netmask = original'.destination)
    (le : place original'.copy ≤ place original.copy)
    (contains : original'.copy.contains original.destination = true) :
    original'.destination = original.destination := by
  have inside := IPv4Address.and_eq_of_le valid valid' (place_le_netmask le)
  have matched : original.destination &&& original'.netmask =
    original'.destination &&& original'.netmask := contains_iff.mp contains
  rw [masked', ← masked, BitVec.and_assoc, inside, masked] at matched
  exact matched.symm

lemma IsClassified.routed (proper : ∀ route ∈ routes, ProperPrefix route)
    (alike : classified.originalRouteInfos.Pairwise fun o' o =>
      o'.destination = o.destination → allowed o'.color o ∧ allowed o.color o') :
    Routed allowed classified.originalRouteInfos classified.routeInfos := by
  have prefixes := built.proper proper
  have copies : ∀ e ∈ classified.routeInfos, ∃ o ∈ classified.originalRouteInfos, o.copy = e :=
    fun e mem => mem_map.mp (built.perm.mem_iff.mp mem)
  refine ⟨?_, ?_, ?_, built.sorted, ?_, ?_, ?_⟩
  · intro e mem
    obtain ⟨o, -, rfl⟩ := copies e mem
    rfl
  · intro e mem
    obtain ⟨o, memO, rfl⟩ := copies e mem
    exact (prefixes o memO).2
  · intro e mem
    obtain ⟨o, memO, rfl⟩ := copies e mem
    exact ⟨o, memO, rfl⟩
  · intro e mem _ original memO
    obtain ⟨o, -, rfl⟩ := copies e mem
    rw [mem_singleton.mp memO]
    exact ⟨contains_iff.mpr rfl, rfl⟩
  · -- The order of two copies is not known, so what is said of two routes is said both ways.
    have both : (classified.originalRouteInfos.map OriginalRouteInfo.copy).Pairwise fun e' e =>
        e'.destination = e.destination → (∀ o ∈ e.originalRouteInfos, allowed e'.color o) ∧
          ∀ o' ∈ e'.originalRouteInfos, allowed e.color o' := by
      rw [pairwise_map]
      refine alike.imp fun {o' o} apart same => ?_
      obtain ⟨first, second⟩ := apart same
      constructor
      · intro x mem
        rw [mem_singleton.mp mem]
        exact first
      · intro x mem
        rw [mem_singleton.mp mem]
        exact second
    have table := built.perm.symm.pairwise both fun one same => (one same.symm).symm
    refine (table.and built.sorted).imp_of_mem fun {e' e} mem' mem related on' on o memO contains => ?_
    obtain ⟨o', memO', rfl⟩ := copies e' mem'
    obtain ⟨o'', memO'', rfl⟩ := copies e mem
    cases mem_singleton.mp memO
    have same := copy_contains (prefixes o memO'').1 (prefixes o' memO').1 (prefixes o memO'').2
      (prefixes o' memO').2 related.2 contains
    exact (related.1 same).1 o mem_cons_self
  · have flat := built.perm.flatMap_right RouteInfo.originalRouteInfos
    rw [flatMap_map] at flat
    refine flat.trans (List.Perm.of_eq ?_)
    exact flatMap_singleton' _

lemma IsClassified.routed_colors (proper : ∀ route ∈ routes, ProperPrefix route)
    (checked : checkOriginalRoutes classified.routeInfos classified.originalRouteInfos = .ok ()) :
    Routed (fun color original => color = original.color) classified.originalRouteInfos
      classified.routeInfos := by
  refine built.routed proper (pairwise_of_forall_mem_list fun o' mem' o mem same => ?_)
  obtain ⟨k', best', colored'⟩ := checkOriginalRoutes_iff.mp checked o' mem'
  obtain ⟨k, best, colored⟩ := checkOriginalRoutes_iff.mp checked o mem
  rw [same, best] at best'
  cases best'
  obtain ⟨e', entry', color'⟩ := hasColor_iff.mp colored'
  obtain ⟨e, entry, color⟩ := hasColor_iff.mp colored
  cases entry.symm.trans entry'
  exact ⟨color'.symm.trans color, color.symm.trans color'⟩

omit built in
lemma classified_destinations {colorToRoute : List IPv4Route}
    (as : List.Forall₂ (ClassifiedAs colorToRoute) routes os) :
    os.map OriginalRouteInfo.destination = routes.map IPv4Route.dest := by
  induction as with
  | nil => rfl
  | cons head _ ih => rw [map_cons, map_cons, head.destination, ih]

lemma IsClassified.routed_apart (proper : ∀ route ∈ routes, ProperPrefix route)
    (apart : (routes.map IPv4Route.dest).Nodup) :
    Routed (fun _ _ => False) classified.originalRouteInfos classified.routeInfos := by
  rw [← classified_destinations built.as, List.Nodup, pairwise_map] at apart
  exact built.routed proper (apart.imp fun differ same => absurd same differ)

lemma IsClassified.nodup : classified.originalRouteInfos.Nodup :=
  List.Nodup.of_map OriginalRouteInfo.index (built.index ▸ nodup_range)

end

/-- The new route has the prefix of the entry and the action of its color. -/
structure OptimizedAs (colorToRoute : List IPv4Route) (e : RouteInfo) (route : IPv4Route) : Prop where
  destination : route.dest = e.destination
  netmask : route.netmask = e.netmask
  color : ∃ routeColor, colorToRoute[e.color]? = some routeColor ∧
    routesHaveSameColor routeColor route = true

lemma optimizedRoutes_spec {colorToRoute : List IPv4Route}
    (colors : ∀ e ∈ table, ∃ routeColor, colorToRoute[e.color]? = some routeColor) (id : ℕ) :
    ∃ routes, optimizedRoutes colorToRoute id table = .ok routes ∧
      List.Forall₂ (OptimizedAs colorToRoute) table routes := by
  induction table generalizing id with
  | nil => exact ⟨[], rfl, .nil⟩
  | cons e table ih =>
    obtain ⟨routeColor, entry⟩ := colors e mem_cons_self
    obtain ⟨routes, run, as⟩ := ih (fun e' mem => colors e' (mem_cons_of_mem _ mem)) (id + 1)
    rw [optimizedRoutes, optimizedRoute, entry, run]
    refine ⟨_, rfl, .cons ⟨rfl, rfl, routeColor, entry, ?_⟩ as⟩
    rw [routesHaveSameColor, decide_eq_true_iff]
    exact ⟨rfl, rfl, rfl, rfl⟩

lemma first_match {colorToRoute routes : List IPv4Route} {destination : IPv4Address}
    (as : List.Forall₂ (OptimizedAs colorToRoute) table routes)
    (first : table.find? (fun e => e.contains destination) = some e) :
    ∃ route, routes.find? (fun route => route.matchesAddr destination) = some route ∧
      OptimizedAs colorToRoute e route := by
  induction as with
  | nil => cases first
  | @cons e' route table routes head _ ih =>
    have alike : route.matchesAddr destination = e'.contains destination := by
      rw [IPv4Route.matchesAddr, head.destination, head.netmask]
      rfl
    by_cases here : e'.contains destination = true
    · rw [find?_cons_of_pos (p := fun e : RouteInfo => e.contains destination) here] at first
      cases first
      exact ⟨route, find?_cons_of_pos (alike.trans here), head⟩
    · rw [find?_cons_of_neg (p := fun e : RouteInfo => e.contains destination) here] at first
      obtain ⟨route', found, as'⟩ := ih first
      refine ⟨route', ?_, as'⟩
      rw [find?_cons_of_neg (p := fun route : IPv4Route => route.matchesAddr destination), found]
      rw [alike]
      exact here

lemma Routed.first (routed : Routed (fun color original => color = original.color) os table)
    (mem : original ∈ os) :
    ∃ e, table.find? (fun e => e.contains original.destination) = some e ∧
      e.color = original.color := by
  obtain ⟨e, memE, memO⟩ := mem_flatMap.mp (routed.attached.mem_iff.mpr mem)
  have on := routed.enabled e memE
  obtain ⟨contains, color⟩ := routed.own e memE on original memO
  cases found : table.find? (fun e => e.contains original.destination) with
  | none => exact absurd contains (find?_eq_none.mp found e memE)
  | some e' =>
    refine ⟨e', rfl, ?_⟩
    rcases eq_or_rel_of_find? routed.ahead found memE contains with rfl | ahead
    · exact color
    · have contains' : e'.contains original.destination = true := by
        have passed := find?_some found
        exact passed
      exact ahead (routed.enabled e' (mem_of_find?_eq_some found)) on original memO contains'

/-! ## Every run -/

/-- One round of the main loop that merges two routes. -/
def Merge (table table' : RoutingTableInfo) : Prop :=
  tryToMergeAnyTwoRoutes table = .ok (true, table')

lemma Routed.merges (routed : Routed allowed os table)
    (merges : Relation.ReflTransGen Merge table table') : Routed allowed os table' := by
  induction merges with
  | refl => exact routed
  | tail _ last ih =>
    obtain ⟨merged, next, run, -, done⟩ := ih.tryToMergeAnyTwoRoutes
    cases last.symm.trans run
    exact (done rfl).1

/-- The optimizer ends without a failed assertion, and every destination keeps its next hop. An
original route is attached to one entry, which no entry of another color comes before that matches,
and no entry at all if the destinations differ. A merge that fails changes nothing. -/
theorem optimizeRoutes_keeps_next_hops (originalRoutes : List IPv4Route)
    (proper : ∀ route ∈ originalRoutes, ProperPrefix route)
    (checked : checkOriginalRoutes (classify originalRoutes).routeInfos
      (classify originalRoutes).originalRouteInfos = .ok ()) :
    (∃ routes, optimizeRoutes originalRoutes = .ok routes ∧
      ∀ original ∈ originalRoutes, ∃ route,
        routes.find? (fun route => route.matchesAddr original.dest) = some route ∧
          route.gateway = original.gateway ∧ route.interfacePtr = original.interfacePtr ∧
            route.sourceType = original.sourceType ∧ route.metric = original.metric) ∧
    ∀ table, Relation.ReflTransGen Merge (classify originalRoutes).routeInfos table →
      (∀ original ∈ (classify originalRoutes).originalRouteInfos, ∃ front e back,
        table = front ++ e :: back ∧
          AttachedTo (fun color original => color = original.color) original front e back) ∧
      ((originalRoutes.map IPv4Route.dest).Nodup →
        ∀ original ∈ (classify originalRoutes).originalRouteInfos, ∃ front e back,
          table = front ++ e :: back ∧ AttachedTo (fun _ _ => False) original front e back) ∧
      ∀ i j infoI routeInfoJ, table[i]? = some infoI → table[j]? = some routeInfoJ →
        j < i → infoI.color = routeInfoJ.color →
        ∃ merged table', tryToMergeTwoRoutes table i j infoI routeInfoJ = .ok (merged, table') ∧
          (merged = false → table' = table) := by
  have built := classify_spec originalRoutes
  have routed := built.routed_colors proper checked
  constructor
  · obtain ⟨table, run, done⟩ := routed.mergeRoutes (Nat.lt_succ_self _)
    have colors : ∀ e ∈ table, ∃ routeColor,
        (classify originalRoutes).colorToRoute[e.color]? = some routeColor := by
      intro e mem
      obtain ⟨original, memO, color⟩ := done.colored e mem
      obtain ⟨route, -, as⟩ := exists_of_forall₂ built.as memO
      obtain ⟨routeColor, entry, -⟩ := as.color
      exact ⟨routeColor, color ▸ entry⟩
    obtain ⟨routes, converted, as⟩ := optimizedRoutes_spec colors 0
    refine ⟨routes, ?_, ?_⟩
    · rw [optimizeRoutes]
      rw [checked]
      dsimp only [bind, Except.bind]
      rw [run]
      dsimp only
      rw [done.check]
      exact converted
    · intro route mem
      obtain ⟨original, memO, classified⟩ := exists_of_forall₂ built.as.flip mem
      obtain ⟨e, first, color⟩ := done.first memO
      rw [classified.destination] at first
      obtain ⟨new, found, asNew⟩ := first_match as first
      obtain ⟨routeColor, entry, same⟩ := asNew.color
      obtain ⟨routeColor', entry', same'⟩ := classified.color
      rw [color] at entry
      cases entry.symm.trans entry'
      rw [routesHaveSameColor, decide_eq_true_iff] at same same'
      obtain ⟨source, metric, gateway, interface⟩ := same
      obtain ⟨source', metric', gateway', interface'⟩ := same'
      exact ⟨new, found, gateway.symm.trans gateway', interface.symm.trans interface',
        source.symm.trans source', metric.symm.trans metric'⟩
  · intro table merges
    have now := routed.merges merges
    refine ⟨fun original mem => now.attachedTo built.nodup mem, ?_, ?_⟩
    · intro apart original mem
      exact ((built.routed_apart proper apart).merges merges).attachedTo built.nodup mem
    · intro i j infoI routeInfoJ entryI entryJ lt color
      obtain ⟨merged, table', run, failed, -⟩ := now.tryToMergeTwoRoutes entryI entryJ lt color
      exact ⟨merged, table', run, failed⟩

def staticRoute (dest : IPv4Address) (length : ℕ) (gateway : IPv4Address) : IPv4Route :=
  { id := 0, dest := dest, netmask := IPv4Address.makeNetmask length, gateway := gateway
    interfacePtr := some 1, sourceType := .MANUAL, adminDist := 0, metric := 0, expiryTime := 0 }

/-- Two hosts behind one gateway, and two nested networks that start at one address. -/
def nestedRoutes : List IPv4Route :=
  [staticRoute 0x0a000000 16 0xc0a80001, staticRoute 0x0a000000 24 0xc0a80001,
    staticRoute 0x0a010000 32 0xc0a80002, staticRoute 0x0a010001 32 0xc0a80002]

lemma nestedRoutes_proper : ∀ route ∈ nestedRoutes, ProperPrefix route := by
  intro route mem
  have both : ∀ route ∈ nestedRoutes, route.netmask.isValidNetmask ∧
      route.dest &&& route.netmask = route.dest := by decide +kernel
  exact ⟨(both route mem).1, (both route mem).2⟩

lemma nestedRoutes_checked : checkOriginalRoutes (classify nestedRoutes).routeInfos
    (classify nestedRoutes).originalRouteInfos = .ok () := by
  rfl

theorem optimizeRoutes_keeps_next_hops_nested : ∃ routes, optimizeRoutes nestedRoutes = .ok routes ∧
    ∀ original ∈ nestedRoutes, ∃ route,
      routes.find? (fun route => route.matchesAddr original.dest) = some route ∧
        route.gateway = original.gateway ∧ route.interfacePtr = original.interfacePtr ∧
          route.sourceType = original.sourceType ∧ route.metric = original.metric :=
  (optimizeRoutes_keeps_next_hops nestedRoutes nestedRoutes_proper nestedRoutes_checked).1

/-- The hosts are merged first, and then the wider one of the networks has its original route, which
the other network matches in front of it. -/
theorem merge_keeps_original_behind_match :
    checkOriginalRoutes (classify nestedRoutes).routeInfos
        (classify nestedRoutes).originalRouteInfos = .ok () ∧
      ∃ table e e', Merge (classify nestedRoutes).routeInfos table ∧
        (⟨0, 0, 0x0a000000, 0xffff0000⟩ : OriginalRouteInfo) ∈
          (classify nestedRoutes).originalRouteInfos ∧
        table.find? (fun e => e.contains 0x0a000000) = some e ∧ e ∈ table ∧ e' ∈ table ∧
        (⟨0, 0, 0x0a000000, 0xffff0000⟩ : OriginalRouteInfo) ∉ e.originalRouteInfos ∧
        (⟨0, 0, 0x0a000000, 0xffff0000⟩ : OriginalRouteInfo) ∈ e'.originalRouteInfos := by
  refine ⟨rfl, [⟨1, true, 0x0a010000, 0xfffffffe, [⟨3, 1, 0x0a010001, 0xffffffff⟩,
      ⟨2, 1, 0x0a010000, 0xffffffff⟩]⟩,
    ⟨0, true, 0x0a000000, 0xffffff00, [⟨1, 0, 0x0a000000, 0xffffff00⟩]⟩,
    ⟨0, true, 0x0a000000, 0xffff0000, [⟨0, 0, 0x0a000000, 0xffff0000⟩]⟩],
    ⟨0, true, 0x0a000000, 0xffffff00, [⟨1, 0, 0x0a000000, 0xffffff00⟩]⟩,
    ⟨0, true, 0x0a000000, 0xffff0000, [⟨0, 0, 0x0a000000, 0xffff0000⟩]⟩, rfl, ?_⟩
  decide +kernel

end IPv4NetworkConfigurator

end Inet.Ipv4
