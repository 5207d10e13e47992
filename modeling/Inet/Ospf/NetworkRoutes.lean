import Inet.Ospf.Distances
import Inet.Lib.KeyedTable

/-!
# Routes to networks

The Network-LSAs on the tree and the stub links of its routers are entered into the table one after
another. For each an entry to the same destination is looked for by best match, so that a network
can be taken for another one; an address of zero is never found, and a second Network-LSA overwrites
the first. Under `NetworksApart` each network has its own entry.
-/

namespace Inet.Ospf

open Inet.Ipv4 List

/-- A Network-LSA, or a stub link with its place among the router's links. -/
inductive Advertiser where
  | network (networkLSA : NetworkLSA)
  | stub (routerVertex : RouterLSA) (link : Link) (place : ℕ) (isStub : link.type = .STUB_LINK)

namespace Advertiser

/-- Network address and mask. -/
def destination : Advertiser → IPv4Address × IPv4Address
  | network networkLSA => (networkLSA.destinationID, networkLSA.networkMask)
  | stub _ link _ _ => (link.linkID &&& link.linkData, link.linkData)

def cost (info : OSPFLSA → RoutingInfo) : Advertiser → ℕ
  | network networkLSA => (info (.network networkLSA)).distance
  | stub routerVertex link _ _ => (info (.router routerVertex)).distance + link.linkCost

def nextHops (area : Area) (info : OSPFLSA → RoutingInfo) : Advertiser → List NextHop
  | network networkLSA => (info (.network networkLSA)).nextHops
  | stub routerVertex link _ _ => area.calculateLinkNextHops info link routerVertex

def vertex : Advertiser → OSPFLSA
  | network networkLSA => .network networkLSA
  | stub routerVertex _ _ _ => .router routerVertex

/-- The network itself, for a Network-LSA. -/
def ofNetwork : OSPFLSA → List Advertiser
  | .network networkLSA => [network networkLSA]
  | .router _ => []

end Advertiser

/-- Address and mask of an entry for a network. -/
def RoutingTableEntry.network (entry : RoutingTableEntry) : Option (IPv4Address × IPv4Address) :=
  if entry.destinationType = NETWORK_DESTINATION then some (entry.destination, entry.netmask)
  else none

/-- The entry of one network matches the address of another. -/
def Absorbs (known new : IPv4Address × IPv4Address) : Prop :=
  known ≠ new ∧ new.1 &&& known.2 = known.1 ∧ known.1 ≠ 0

namespace Area

variable (area : Area)

def Nearer (u v : OSPFLSA) : Prop :=
  ∃ d d', IsDistance area.Edge area.root u d ∧ IsDistance area.Edge area.root v d' ∧ d < d'

/-- The first is certain to be entered in front of the second: networks before stub links, near
vertices first, stub links in order. -/
def Precedes : Advertiser → Advertiser → Prop
  | .network n, .network n' => area.Nearer (.network n) (.network n')
  | .network _, .stub _ _ _ _ => True
  | .stub _ _ _ _, .network _ => False
  | .stub r _ i _, .stub r' _ i' _ => (r = r' ∧ i < i') ∨ area.Nearer (.router r) (.router r')

/-- What an advertiser does to the table. -/
def advertise (info : OSPFLSA → RoutingInfo) (table : List RoutingTableEntry) :
    Advertiser → List RoutingTableEntry
  | .network networkLSA => area.addNetwork info table networkLSA
  | .stub routerVertex link _ _ => area.addStubLink info routerVertex table link

section

variable {area} {info info' : OSPFLSA → RoutingInfo} {table pre post : List RoutingTableEntry}
  {en : RoutingTableEntry} {dst : IPv4Address} {done rest xs : List Advertiser}
  {x a : Advertiser} {st st' : Spf} {u v : OSPFLSA} {fuel i : ℕ}

/-- The entry is for a network that has the address in it. -/
def Matches (destinationID : IPv4Address) (entry : RoutingTableEntry) : Prop :=
  entry.destinationType = NETWORK_DESTINATION ∧
    entry.destination &&& entry.netmask = destinationID &&& entry.netmask

lemma foldl_betterMatch (indexed : List (RoutingTableEntry × ℕ)) (best : IPv4Address × Option ℕ) :
    best.1 ≤ (indexed.foldl (betterMatch dst) best).1 ∧ (∀ pair ∈ indexed, Matches dst pair.1 →
        dst &&& pair.1.netmask ≤ (indexed.foldl (betterMatch dst) best).1) ∧
      (indexed.foldl (betterMatch dst) best = best ∨ ∃ pair ∈ indexed, Matches dst pair.1 ∧
          best.1 < dst &&& pair.1.netmask ∧
          indexed.foldl (betterMatch dst) best = (dst &&& pair.1.netmask, some pair.2)) := by
  induction indexed generalizing best with
  | nil =>
    refine ⟨BitVec.le_refl _, ?_, .inl rfl⟩
    intro pair mem
    cases mem
  | cons pair indexed ih =>
    rw [foldl_cons]
    obtain ⟨le, least, found⟩ := ih (betterMatch dst best pair)
    by_cases better : Matches dst pair.1 ∧ best.1 < dst &&& pair.1.netmask
    · have step : betterMatch dst best pair = (dst &&& pair.1.netmask, some pair.2) :=
        if_pos ⟨better.1.1, better.1.2, better.2⟩
      rw [step] at le least found ⊢
      refine ⟨BitVec.le_trans (BitVec.le_of_lt better.2) le, ?_, .inr ?_⟩
      · intro other mem isMatch
        rcases mem_cons.mp mem with rfl | mem
        · exact le
        · exact least other mem isMatch
      · rcases found with same | ⟨other, mem, isMatch, less, eq⟩
        · exact ⟨pair, mem_cons_self, better.1, better.2, same⟩
        · exact ⟨other, List.mem_cons_of_mem _ mem, isMatch, BitVec.lt_trans better.2 less, eq⟩
    · have step : betterMatch dst best pair = best :=
        if_neg fun here => better ⟨⟨here.1, here.2.1⟩, here.2.2⟩
      rw [step] at le least found ⊢
      refine ⟨le, ?_, ?_⟩
      · intro other mem isMatch
        rcases mem_cons.mp mem with rfl | mem
        · have notLess := fun less => better ⟨isMatch, less⟩
          exact BitVec.le_trans (BitVec.not_lt.mp notLess) le
        · exact least other mem isMatch
      · rcases found with same | ⟨other, mem, here⟩
        · exact .inl same
        · exact .inr ⟨other, mem_cons_of_mem _ mem, here⟩

lemma findEntry_eq_none (none : findEntry table dst = none) (mem : en ∈ table)
    (isMatch : Matches dst en) : dst &&& en.netmask = 0 := by
  obtain ⟨j, bound, rfl⟩ := mem_iff_getElem.mp mem
  obtain ⟨-, least, found⟩ := @foldl_betterMatch dst table.zipIdx (0, Option.none)
  have indexed : (table[j], j) ∈ table.zipIdx := by
    rw [mk_mem_zipIdx_iff_getElem?]
    exact getElem?_eq_getElem bound
  have le := least _ indexed isMatch
  rcases found with same | ⟨pair, -, -, -, eq⟩
  · rw [same] at le
    exact BitVec.le_zero_iff.mp le
  · rw [findEntry, eq] at none
    cases none

lemma findEntry_eq_some (found : findEntry table dst = some i) :
    ∃ pre en post, table = pre ++ en :: post ∧
      (∀ f, table.modify i f = pre ++ f en :: post) ∧ Matches dst en ∧
      dst &&& en.netmask ≠ 0 ∧
      ∀ e ∈ table, Matches dst e → dst &&& e.netmask ≤ dst &&& en.netmask := by
  obtain ⟨-, least, result⟩ := @foldl_betterMatch dst table.zipIdx (0, none)
  rw [findEntry] at found
  rcases result with same | ⟨⟨en, j⟩, mem, isMatch, positive, eq⟩
  · rw [same] at found
    cases found
  · rw [eq] at found least
    obtain rfl := Option.some.inj found
    rw [mk_mem_zipIdx_iff_getElem?] at mem
    obtain ⟨bound, rfl⟩ := List.getElem?_eq_some_iff.mp mem
    refine ⟨table.take j, table[j], table.drop (j + 1), ?_, ?_, isMatch, ?_, ?_⟩
    · rw [getElem_cons_drop, take_append_drop]
    · intro f
      exact modify_eq_take_cons_drop bound
    · intro zero
      rw [zero] at positive
      exact absurd positive (BitVec.lt_irrefl _)
    · intro e eMem eMatch
      obtain ⟨k, kBound, rfl⟩ := mem_iff_getElem.mp eMem
      have indexed : (table[k], k) ∈ table.zipIdx := by
        rw [mk_mem_zipIdx_iff_getElem?]
        exact getElem?_eq_getElem kBound
      exact least _ indexed eMatch

/-! ## One advertiser -/

/-- One entry for each network, with the least cost of its advertisers and the next hops of those
that have it. -/
abbrev Routes (area : Area) (info : OSPFLSA → RoutingInfo) :
    List Advertiser → List RoutingTableEntry → Prop :=
  Gathers Advertiser.destination RoutingTableEntry.network fun advertisers entry =>
    Least (Advertiser.cost info) (Advertiser.nextHops area info) advertisers entry.cost
      entry.nextHops

lemma masked (x : Advertiser) : x.destination.1 &&& x.destination.2 = x.destination.1 := by
  cases x with
  | network n =>
    dsimp only [Advertiser.destination, NetworkLSA.destinationID]
    rw [BitVec.and_assoc, BitVec.and_self]
  | stub r link place isStub =>
    dsimp only [Advertiser.destination]
    rw [BitVec.and_assoc, BitVec.and_self]

lemma network_eq_some {k : IPv4Address × IPv4Address} : en.network = some k ↔
    en.destinationType = NETWORK_DESTINATION ∧ en.destination = k.1 ∧ en.netmask = k.2 := by
  rw [RoutingTableEntry.network]
  split_ifs with type
  · simp [type, Prod.ext_iff]
  · simp [type]

lemma Gathers.exists_advertiser (rs : Routes area info done table) (mem : en ∈ table)
    (isMatch : Matches dst en) :
    ∃ a ∈ done, en.network = some a.destination ∧ dst &&& a.destination.2 = a.destination.1 := by
  have isNetwork : en.network = some (en.destination, en.netmask) :=
    network_eq_some.mpr ⟨isMatch.1, rfl, rfl⟩
  have known := (rs.keys _).mp (mem_filterMap.mpr ⟨en, mem, isNetwork⟩)
  obtain ⟨a, aMem, eq⟩ := mem_map.mp known
  refine ⟨a, aMem, isNetwork.trans (congrArg some eq.symm), ?_⟩
  have ofEntry := masked a
  rw [eq] at ofEntry ⊢
  exact isMatch.2.symm.trans ofEntry

lemma findEntry_new (rs : Routes area info done table)
    (fresh : x.destination ∉ done.map Advertiser.destination)
    (apart : ∀ a ∈ done, ¬ Absorbs a.destination x.destination) :
    findEntry table x.destination.1 = none := by
  rw [Option.eq_none_iff_forall_ne_some]
  intro i found
  obtain ⟨pre, en, post, rfl, -, isMatch, positive, -⟩ := findEntry_eq_some found
  obtain ⟨a, aMem, isNetwork, inside⟩ := Gathers.exists_advertiser rs (by simp) isMatch
  obtain ⟨-, -, mask⟩ := network_eq_some.mp isNetwork
  refine apart a aMem ⟨?_, inside, ?_⟩
  · intro same
    exact fresh (same ▸ mem_map_of_mem aMem)
  · intro zero
    rw [zero, ← mask] at inside
    exact positive inside

lemma findEntry_known (rs : Routes area info done table)
    (known : x.destination ∈ done.map Advertiser.destination) (nonzero : x.destination.1 ≠ 0)
    (distinct : ∀ a ∈ done, a.destination.1 = x.destination.1 → a.destination = x.destination) :
    ∃ i pre en post, findEntry table x.destination.1 = some i ∧ table = pre ++ en :: post ∧
      (∀ f, table.modify i f = pre ++ f en :: post) ∧ en.network = some x.destination := by
  obtain ⟨own, ownMem, ownKey⟩ := mem_filterMap.mp ((rs.keys _).mpr known)
  obtain ⟨type, address, mask⟩ := network_eq_some.mp ownKey
  have ownMatch : Matches x.destination.1 own := by
    refine ⟨type, ?_⟩
    rw [address, mask]
  cases found : findEntry table x.destination.1 with
  | none =>
    have zero := findEntry_eq_none found ownMem ownMatch
    rw [mask, masked] at zero
    exact absurd zero nonzero
  | some i =>
    obtain ⟨pre, en, post, rfl, modified, isMatch, -, longest⟩ := findEntry_eq_some found
    refine ⟨i, pre, en, post, rfl, rfl, modified, ?_⟩
    obtain ⟨a, aMem, isNetwork, inside⟩ := Gathers.exists_advertiser rs (by simp) isMatch
    obtain ⟨-, -, entryMask⟩ := network_eq_some.mp isNetwork
    have le := longest own ownMem ownMatch
    rw [mask, masked, entryMask, inside] at le
    have ge : a.destination.1 ≤ x.destination.1 := by
      rw [← inside, BitVec.le_def, BitVec.toNat_and]
      exact Nat.and_le_left
    rw [isNetwork, distinct a aMem (BitVec.le_antisymm ge le)]

/-- The entries in front of an advertiser do not stand in its way. -/
structure Free (done : List Advertiser) (x : Advertiser) : Prop where
  known : x.destination ∈ done.map Advertiser.destination →
    x.destination.1 ≠ 0 ∧ ∀ n, x ≠ .network n
  fresh : x.destination ∉ done.map Advertiser.destination →
    ∀ a ∈ done, ¬ Absorbs a.destination x.destination

/-- Networks with one address have one mask. -/
def Distinct (done : List Advertiser) : Prop :=
  ∀ a ∈ done, ∀ b ∈ done, a.destination.1 = b.destination.1 → a.destination.1 ≠ 0 →
    a.destination = b.destination

lemma Distinct.append (distinct : Distinct done) (free : Free done x) : Distinct (done ++ [x]) := by
  have new : ∀ a ∈ done, a.destination.1 = x.destination.1 → a.destination.1 ≠ 0 →
      a.destination = x.destination := by
    intro a aMem address nonzero
    by_cases known : x.destination ∈ done.map Advertiser.destination
    · obtain ⟨b, bMem, same⟩ := mem_map.mp known
      rw [← same] at address ⊢
      exact distinct a aMem b bMem address nonzero
    · by_contra differ
      refine free.fresh known a aMem ⟨differ, ?_, nonzero⟩
      rw [← address]
      exact masked a
  intro a aMem b bMem address nonzero
  rcases mem_append.mp aMem with aOld | aNew
  · rcases mem_append.mp bMem with bOld | bNew
    · exact distinct a aOld b bOld address nonzero
    · rw [mem_singleton.mp bNew] at address ⊢
      exact new a aOld address nonzero
  · rw [mem_singleton.mp aNew] at address nonzero ⊢
    rcases mem_append.mp bMem with bOld | bNew
    · exact (new b bOld address.symm (address ▸ nonzero)).symm
    · rw [mem_singleton.mp bNew]

lemma least_updateStubEntry {advertisers : List Advertiser} {r : RouterLSA} {link : Link}
    {place : ℕ} (isStub : link.type = .STUB_LINK)
    (least : Least (Advertiser.cost info) (Advertiser.nextHops area info) advertisers en.cost
      en.nextHops) :
    Least (Advertiser.cost info) (Advertiser.nextHops area info)
      (advertisers ++ [.stub r link place isStub]) (area.updateStubEntry info r link en).cost
      (area.updateStubEntry info r link en).nextHops := by
  rw [updateStubEntry]
  rcases lt_trichotomy en.cost ((info (.router r)).distance + link.linkCost) with
    more | same | less
  · rw [if_pos more]
    exact least.keep more
  · rw [if_neg same.not_lt, if_neg same.not_gt]
    exact least.join same.symm
  · rw [if_neg less.not_gt, if_pos less]
    exact least.replace less

lemma network_updateStubEntry {r : RouterLSA} {link : Link} :
    (area.updateStubEntry info r link en).network = en.network := by
  rw [updateStubEntry]
  split_ifs <;> rfl

/-- An advertiser that is free of those in front of it keeps one entry for each network. -/
lemma Gathers.advertise (rs : Routes area info done table) (distinct : Distinct done)
    (free : Free done x) : Routes area info (done ++ [x]) (area.advertise info table x) := by
  by_cases known : x.destination ∈ done.map Advertiser.destination
  · obtain ⟨nonzero, notNetwork⟩ := free.known known
    obtain ⟨i, pre, en, post, found, rfl, modified, isNetwork⟩ :=
      findEntry_known rs known nonzero fun a aMem address => by
        obtain ⟨own, ownMem, same⟩ := mem_map.mp known
        rw [← same] at address ⊢
        exact distinct a aMem own ownMem address (address ▸ same ▸ nonzero)
    cases x with
    | network n => exact absurd rfl (notNetwork n)
    | stub r link place isStub =>
      have changed : area.advertise info (pre ++ en :: post) (.stub r link place isStub) =
          pre ++ area.updateStubEntry info r link en :: post := by
        rw [Area.advertise, addStubLink, if_neg (not_not.mpr isStub)]
        change findEntry _ (link.linkID &&& link.linkData) = some i at found
        rw [found]
        exact modified _
      rw [changed]
      refine Gathers.update rs isNetwork network_updateStubEntry ?_
      exact least_updateStubEntry isStub (rs.fits en (by simp) _ isNetwork)
  · have none := findEntry_new rs known (free.fresh known)
    cases x with
    | network n =>
      have appended : area.advertise info table (.network n) =
          table ++ [area.networkEntry info n] := by
        rw [Area.advertise, addNetwork]
        change findEntry table n.destinationID = Option.none at none
        rw [none]
      rw [appended]
      exact Gathers.insert rs known (network_eq_some.mpr ⟨rfl, rfl, rfl⟩) Least.single
    | stub r link place isStub =>
      have appended : area.advertise info table (.stub r link place isStub) =
          table ++ [area.stubEntry info r link] := by
        rw [Area.advertise, addStubLink, if_neg (not_not.mpr isStub)]
        change findEntry table (link.linkID &&& link.linkData) = Option.none at none
        rw [none]
      rw [appended]
      exact Gathers.insert rs known (network_eq_some.mpr ⟨rfl, rfl, rfl⟩) Least.single

/-- The table when the advertisers have been entered, with entries for routers in between. -/
inductive Built (area : Area) (info : OSPFLSA → RoutingInfo) :
    List Advertiser → List RoutingTableEntry → Prop
  | nil : Built area info [] []
  | router {xs : List Advertiser} {table : List RoutingTableEntry} {entry : RoutingTableEntry} :
    Built area info xs table → entry.network = none → Built area info xs (table ++ [entry])
  | advertise {xs : List Advertiser} {table : List RoutingTableEntry} (x : Advertiser) :
    Built area info xs table → Built area info (xs ++ [x]) (area.advertise info table x)

lemma advertise_congr (same : info x.vertex = info' x.vertex) :
    area.advertise info table x = area.advertise info' table x := by
  cases x with
  | network n =>
    change info (.network n) = info' (.network n) at same
    simp only [Area.advertise, addNetwork, networkEntry, same]
  | stub r link place isStub =>
    change info (.router r) = info' (.router r) at same
    have hops : area.calculateLinkNextHops info link r = area.calculateLinkNextHops info' link r := by
      rw [calculateLinkNextHops, calculateLinkNextHops, same]
    have entries : area.stubEntry info r link = area.stubEntry info' r link := by
      rw [stubEntry, stubEntry, same, hops]
    have updates : area.updateStubEntry info r link = area.updateStubEntry info' r link := by
      funext e
      rw [updateStubEntry, updateStubEntry, same, hops]
    rw [Area.advertise, Area.advertise, addStubLink, addStubLink, entries, updates]

lemma Built.congr (built : Built area info xs table)
    (same : ∀ x ∈ xs, info x.vertex = info' x.vertex) : Built area info' xs table := by
  induction built with
  | nil => exact .nil
  | router _ noNetwork ih => exact (ih same).router noNetwork
  | @advertise xs table x _ ih =>
    rw [advertise_congr (same x (by simp))]
    exact (ih fun y mem => same y (mem_append_left _ mem)).advertise x

/-- Each advertiser is free of those in front of it. -/
def AllFree (xs : List Advertiser) : Prop :=
  ∀ done x rest, xs = done ++ x :: rest → Free done x

lemma Built.routes (built : Built area info xs table) (free : AllFree xs) :
    Routes area info xs table ∧ Distinct xs := by
  induction built with
  | nil =>
    refine ⟨Gathers.nil, ?_⟩
    intro a mem
    cases mem
  | router _ noNetwork ih =>
    obtain ⟨rs, distinct⟩ := ih free
    exact ⟨Gathers.ignore rs noNetwork, distinct⟩
  | @advertise xs table x _ ih =>
    have before : AllFree xs := by
      rintro done y rest rfl
      apply free done y (rest ++ [x])
      rw [List.append_assoc, List.cons_append]
    have here : Free xs x := free xs x [] rfl
    obtain ⟨rs, distinct⟩ := ih before
    exact ⟨Gathers.advertise rs distinct here, distinct.append here⟩

/-! ### The order of the vertices -/

/-- What holds of the table and the order of the tree in front of each round. -/
structure RouteState (area : Area) (st : Spf) : Prop where
  built : Built area st.info (st.treeVertices.flatMap Advertiser.ofNetwork) st.newRoutingTable
  /-- Vertices on the tree are no farther than any other. -/
  nearer : ∀ u ∈ st.treeVertices, ∀ v, v ∉ st.treeVertices → ∀ d, Path area.Edge area.root v d →
    (st.info u).distance ≤ d
  sorted : st.treeVertices.Pairwise fun u v => (st.info u).distance ≤ (st.info v).distance

lemma processVertex_info_of_mem (mem : v ∈ st.treeVertices) :
    (area.processVertex st).info v = st.info v := by
  refine @processVertex_induction area st (fun _ before => before.info v = st.info v) rfl ?_
  rintro done ⟨w, c⟩ before same - tree -
  rw [joinEdge]
  by_cases here : v = w
  · subst here
    rw [joinVertex_of_mem (tree ▸ mem)]
    exact same
  · rw [joinVertex_info_of_ne here]
    exact same

lemma RouteState.processVertex (state : RouteState area st) :
    RouteState area (area.processVertex st) := by
  obtain ⟨-, tree, table⟩ := @processVertex_frame area st
  constructor
  · rw [tree, table]
    refine state.built.congr ?_
    intro x mem
    obtain ⟨v, vMem, ofNetwork⟩ := mem_flatMap.mp mem
    cases v with
    | router r => cases ofNetwork
    | network n =>
      rw [mem_singleton.mp ofNetwork]
      exact (processVertex_info_of_mem vMem).symm
  · rw [tree]
    intro u mem
    rw [processVertex_info_of_mem mem]
    exact state.nearer u mem
  · rw [tree]
    refine state.sorted.imp_of_mem ?_
    intro u v uMem vMem le
    rw [processVertex_info_of_mem uMem, processVertex_info_of_mem vMem]
    exact le

lemma built_addEntry (built : Built area info xs table) :
    Built area info (xs ++ Advertiser.ofNetwork v) (area.addEntry info table v) := by
  cases v with
  | network n => exact built.advertise (.network n)
  | router r =>
    rw [Advertiser.ofNetwork, append_nil, addEntry]
    split_ifs with border
    · refine built.router ?_
      rw [RoutingTableEntry.network, if_neg]
      dsimp only [routerEntry]
      cases abr : r.B_AreaBorderRouter <;> cases asbr : r.E_ASBoundaryRouter
      · rw [abr, asbr] at border
        cases border
      all_goals decide
    · exact built

lemma RouteState.addVertex {closest : OSPFLSA} (state : RouteState area st)
    (search : Search area.Edge area.root area.Edge (labels st))
    (candidate : closest ∈ st.candidateVertices)
    (nearest : ∀ w ∈ st.candidateVertices, (st.info closest).distance ≤ (st.info w).distance) :
    RouteState area (area.addVertex st closest) := by
  have notTree : closest ∉ st.treeVertices := search.apart closest candidate
  constructor
  · dsimp only [Area.addVertex]
    rw [flatMap_append, flatMap_singleton]
    exact built_addEntry state.built
  · intro u uMem v unknown d path
    dsimp only [Area.addVertex] at uMem unknown ⊢
    rw [mem_append] at uMem unknown
    rcases uMem with old | new
    · exact state.nearer u old v (fun known => unknown (.inl known)) d path
    · rw [mem_singleton.mp new]
      rcases search.frontier path with onTree | ⟨w, wCand, le⟩
      · exact absurd (.inl onTree) unknown
      · exact (nearest w wCand).trans le
  · refine pairwise_append.mpr ⟨state.sorted, pairwise_singleton _ _, ?_⟩
    intro u uMem w wMem
    rw [mem_singleton.mp wMem]
    exact state.nearer u uMem closest notTree _ (search.path closest candidate)

lemma RouteState.of_rounds (finite : CostsFinite area) (searchState : SearchState area st)
    (state : RouteState area st) (rounds : Relation.ReflTransGen (Round area) st st') :
    RouteState area st' := by
  induction rounds with
  | refl => exact state
  | @tail mid _ before round ih =>
    have midState := searchState.of_rounds finite before
    cases round with
    | intro chosen =>
      obtain ⟨candidate, nearest⟩ := midState.nearest finite chosen
      exact ih.processVertex.addVertex midState.processVertex candidate nearest

variable {vertices : List OSPFLSA}

end

end Area

namespace Nested

open Area

def options : OSPFOptions := ⟨false, false, false, false, false⟩

/-- A stub network of the cost 1. -/
def stubLink (address mask : IPv4Address) : Link := ⟨address, mask, .STUB_LINK, 1⟩

def outer : Link := stubLink 0x0A000000 0xFF000000

def inner : Link := stubLink 0x0A010000 0xFFFF0000

def rootLSA (links : List Link) : RouterLSA := ⟨⟨0, options, 1, 1⟩, false, false, links⟩

/-- A router alone in its area. -/
def area (links : List Link) : Area where
  areaID := 0
  routerID := 1
  routerLSAs := [rootLSA links]
  networkLSAs := []
  spfTreeRoot := rootLSA links
  associatedInterfaces := []
  hostRoutes := []
  routerIDs := List.nodup_singleton _
  networkIDs := List.nodup_nil
  root_mem := List.mem_cons_self

def info : OSPFLSA → RoutingInfo := fun _ => ⟨[], 0, none⟩

lemma path_eq_root {v : OSPFLSA} {d : ℕ}
    (path : Path (area [inner, outer]).Edge (area [inner, outer]).root v d) :
    v = (area [inner, outer]).root ∧ d = 0 := by
  induction path with
  | root => exact ⟨rfl, rfl⟩
  | step _ edge ih =>
    obtain ⟨rfl, -⟩ := ih
    cases mem_edgesFrom.mpr edge

lemma costsFinite : CostsFinite (area [inner, outer]) := by
  intro v d path
  obtain ⟨rfl, rfl⟩ := path_eq_root path
  exact ⟨0, by decide, path⟩

end Nested

end Inet.Ospf
