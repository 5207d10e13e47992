import Inet.Ipv4.RoutingTable
import Inet.Lib.BestMatch

/-!
# The route optimizer of the network configurator

`IPv4NetworkConfigurator::optimizeRoutes`: two routes of one color are merged into their longest
common prefix as long as that leaves every original route where it goes.

A pointer to an original route is a record with its position in the vector, and a pointer into the
table a position.
-/

namespace Inet.Ipv4

namespace IPv4NetworkConfigurator

/-- A `RouteInfo` for a route of the original vector. -/
structure OriginalRouteInfo where
  index : ℕ
  color : ℕ
  destination : IPv4Address
  netmask : IPv4Address
  deriving DecidableEq

/-- A `RouteInfo` of the table. -/
structure RouteInfo where
  color : ℕ
  enabled : Bool
  destination : IPv4Address
  netmask : IPv4Address
  originalRouteInfos : List OriginalRouteInfo
  deriving DecidableEq

/-- The prefix has the address in it. -/
def RouteInfo.contains (routeInfo : RouteInfo) (destination : IPv4Address) : Bool :=
  (destination ^^^ routeInfo.destination) &&& routeInfo.netmask = 0

/-- `routeInfos` of the table. -/
abbrev RoutingTableInfo := List RouteInfo

def routeInfoLessThan (a b : RouteInfo) : Bool :=
  if a.netmask ≠ b.netmask then b.netmask < a.netmask else a.destination < b.destination

variable (routeInfos : RoutingTableInfo)

/-- The index at which the route is put in, by `upper_bound`, and the table with it. -/
def addRouteInfo (routeInfo : RouteInfo) : ℕ × RoutingTableInfo :=
  let index := (routeInfos.takeWhile fun e => !routeInfoLessThan routeInfo e).length
  (index, routeInfos.insertIdx index routeInfo)

def removeRouteInfo (index : ℕ) : RoutingTableInfo := routeInfos.eraseIdx index

/-- The first enabled route from `first` on and before `last` that matches. -/
def findBestMatchingRouteInfo (destination : IPv4Address) (first last : ℕ) : Option ℕ :=
  (List.range' first (last - first)).find? fun index =>
    routeInfos[index]?.any fun routeInfo => routeInfo.enabled && routeInfo.contains destination

def routesHaveSameColor (route1 route2 : IPv4Route) : Bool :=
  route1.sourceType = route2.sourceType ∧ route1.metric = route2.metric ∧
    route1.gateway = route2.gateway ∧ route1.interfacePtr = route2.interfacePtr

def findRouteIndexWithSameColor (routes : List IPv4Route) (route : IPv4Route) : Option ℕ :=
  routes.findIdx? fun r => routesHaveSameColor r route

def routesCanBeSwapped (routeInfo1 routeInfo2 : RouteInfo) : Bool :=
  if routeInfo1.color = routeInfo2.color then true
  else
    let netmask := routeInfo1.netmask &&& routeInfo2.netmask
    routeInfo1.destination &&& netmask ≠ routeInfo2.destination &&& netmask

/-- The routes strictly between two indexes can be swapped with the one at the lower index. -/
def routesCanBeNeighbors (i j : ℕ) : Bool :=
  let first := min i j
  let last := max i j
  (List.range' (first + 1) (last - (first + 1))).all fun index =>
    match routeInfos[first]?, routeInfos[index]? with
    | some firstRouteInfo, some routeInfo => routesCanBeSwapped firstRouteInfo routeInfo
    | _, _ => true

def interruptsOriginalRoute (first last : ℕ) (original : OriginalRouteInfo) : Bool :=
  match findBestMatchingRouteInfo routeInfos original.destination first last with
  | some index => routeInfos[index]?.any fun routeInfo => routeInfo.color ≠ original.color
  | none => false

def interruptsAnyOriginalRoute (first last : ℕ) (originals : List OriginalRouteInfo) : Bool :=
  first < last && originals.any fun original => interruptsOriginalRoute routeInfos first last original

def interruptsSubsequentOriginalRoutes (index : ℕ) : Bool :=
  (routeInfos.drop (index + 1)).any fun routeInfo =>
    interruptsAnyOriginalRoute routeInfos index (index + 1) routeInfo.originalRouteInfos

/-- The routes that match have the colors of the original routes. -/
def checkOriginalRoutes : List OriginalRouteInfo → Except SimError Unit
  | [] => .ok ()
  | original :: originals =>
      match findBestMatchingRouteInfo routeInfos original.destination 0 routeInfos.length with
      | some index =>
          if routeInfos[index]?.any fun routeInfo => routeInfo.color = original.color then
            checkOriginalRoutes originals
          else .error (.assertion "matchingRouteInfo && matchingRouteInfo->color == originalRouteInfo->color")
      | none =>
          .error (.assertion "matchingRouteInfo && matchingRouteInfo->color == originalRouteInfo->color")

def RouteInfo.attach (routeInfo : RouteInfo) (original : OriginalRouteInfo) : RouteInfo :=
  { routeInfo with originalRouteInfos := routeInfo.originalRouteInfos ++ [original] }

/-- Attaches each of the original routes to the first route in the range that matches it. -/
def addOriginalRouteInfos (first last : ℕ) :
    List OriginalRouteInfo → RoutingTableInfo → Except SimError RoutingTableInfo
  | [], routeInfos => .ok routeInfos
  | original :: originals, routeInfos =>
      match findBestMatchingRouteInfo routeInfos original.destination first last with
      | some index =>
          if routeInfos[index]?.any fun routeInfo => routeInfo.color = original.color then
            addOriginalRouteInfos first last originals
              (routeInfos.modify index fun routeInfo => routeInfo.attach original)
          else .error (.assertion "matchingRouteInfo && matchingRouteInfo->color == originalRouteInfo->color")
      | none =>
          .error (.assertion "matchingRouteInfo && matchingRouteInfo->color == originalRouteInfo->color")

/-! ## Merging -/

/-- The loop over the bits below `count`, from the highest one down: the common prefix so far, as
destination and netmask. -/
def commonPrefix (destination1 netmask1 destination2 netmask2 : IPv4Address) :
    ℕ → IPv4Address × IPv4Address → IPv4Address × IPv4Address
  | 0, out => out
  | bitIndex + 1, (destinationOut, netmaskOut) =>
      let mask := BitVec.twoPow 32 bitIndex
      if destination1 &&& mask = destination2 &&& mask ∧ netmask1 &&& mask ≠ 0 ∧
          netmask2 &&& mask ≠ 0 then
        commonPrefix destination1 netmask1 destination2 netmask2 bitIndex
          (destinationOut ||| (destination1 &&& mask), netmaskOut ||| mask)
      else (destinationOut, netmaskOut)

def findLongestCommonDestinationPrefix (destination1 netmask1 destination2 netmask2 : IPv4Address) :
    IPv4Address × IPv4Address :=
  commonPrefix destination1 netmask1 destination2 netmask2 32 (0, 0)

/-- The originals of a route behind the merged one, which takes over those that it matches: what
stays, and what is moved. -/
def moveOriginals (merged : RouteInfo) :
    List OriginalRouteInfo → Except SimError (List OriginalRouteInfo × List OriginalRouteInfo)
  | [] => .ok ([], [])
  | original :: originals => do
      if merged.contains original.destination then
        if merged.color = original.color then
          let (kept, moved) ← moveOriginals merged originals
          return (kept, original :: moved)
        else .error (.assertion "mergedRouteInfo->color == originalRouteInfo->color")
      else
        let (kept, moved) ← moveOriginals merged originals
        return (original :: kept, moved)

/-- The loop over the routes behind the merged one: these routes, and what is moved. -/
def moveFollowing (merged : RouteInfo) :
    List RouteInfo → Except SimError (List RouteInfo × List OriginalRouteInfo)
  | [] => .ok ([], [])
  | following :: rest => do
      let (kept, moved) ← moveOriginals merged following.originalRouteInfos
      let (rest, moved') ← moveFollowing merged rest
      return ({ following with originalRouteInfos := kept } :: rest, moved ++ moved')

/-- The routes behind index `m` give their original routes to the merged one there. -/
def moveToMerged (m : ℕ) (merged : RouteInfo) : Except SimError RoutingTableInfo := do
  let (following, moved) ← moveFollowing merged (routeInfos.drop (m + 1))
  return (routeInfos.take (m + 1)).modify m (fun routeInfo =>
    { routeInfo with originalRouteInfos := routeInfo.originalRouteInfos ++ moved }) ++ following

/-- The table with the routes at `i` and `j` disabled and the merged one in it. -/
def insertMerged (i j : ℕ) (merged : RouteInfo) : ℕ × RoutingTableInfo :=
  let disable := fun routeInfo : RouteInfo => { routeInfo with enabled := false }
  addRouteInfo ((routeInfos.modify i disable).modify j disable) merged

def mergedRouteInfo (routeInfoI routeInfoJ : RouteInfo) : RouteInfo :=
  let (destination, netmask) := findLongestCommonDestinationPrefix routeInfoI.destination
    routeInfoI.netmask routeInfoJ.destination routeInfoJ.netmask
  { color := routeInfoI.color, enabled := true, destination := destination, netmask := netmask
    originalRouteInfos := [] }

/-- The four conditions of a merge. -/
def noInterruption (i j m : ℕ) (originalsI originalsJ : List OriginalRouteInfo) : Bool :=
  !interruptsAnyOriginalRoute routeInfos (j + 1) i originalsJ &&
  !interruptsAnyOriginalRoute routeInfos (i + 1) m originalsJ &&
  !interruptsAnyOriginalRoute routeInfos (i + 1) m originalsI &&
  !interruptsSubsequentOriginalRoutes routeInfos m

/-- `tryToMergeTwoRoutes` for the routes at `i` and `j`, where `j` is less. -/
def tryToMergeTwoRoutes (i j : ℕ) (routeInfoI routeInfoJ : RouteInfo) :
    Except SimError (Bool × RoutingTableInfo) := do
  let merged := mergedRouteInfo routeInfoI routeInfoJ
  let (m, inserted) := insertMerged routeInfos i j merged
  if i < m ∧ j < m then
    if noInterruption inserted i j m routeInfoI.originalRouteInfos routeInfoJ.originalRouteInfos then
      let table ← addOriginalRouteInfos (i + 1) (m + 1) routeInfoI.originalRouteInfos inserted
      let table ← addOriginalRouteInfos (j + 1) (m + 1) routeInfoJ.originalRouteInfos table
      let table ← moveToMerged table m merged
      return (true, removeRouteInfo (removeRouteInfo table i) j)
    else
      let enable := fun routeInfo : RouteInfo => { routeInfo with enabled := true }
      return (false, removeRouteInfo ((inserted.modify i enable).modify j enable) m)
  else .error (.assertion "m > i && m > j")

/-- The loop over `j`, backward from below `count`. -/
def tryToMergeBackward (i : ℕ) (routeInfoI : RouteInfo) :
    ℕ → RoutingTableInfo → Except SimError (Bool × RoutingTableInfo)
  | 0, routeInfos => .ok (false, routeInfos)
  | j + 1, routeInfos =>
      match routeInfos[j]? with
      | none => .error (.runtimeError "vector::_M_range_check")
      | some routeInfoJ =>
          if routeInfoI.color = routeInfoJ.color ∧ routesCanBeNeighbors routeInfos i j then do
            let (merged, table) ← tryToMergeTwoRoutes routeInfos i j routeInfoI routeInfoJ
            if merged then return (true, table) else tryToMergeBackward i routeInfoI j table
          else tryToMergeBackward i routeInfoI j routeInfos

/-- The loop over `i`, of which `count` rounds are left. -/
def tryToMergeFrom : ℕ → ℕ → RoutingTableInfo → Except SimError (Bool × RoutingTableInfo)
  | 0, _, routeInfos => .ok (false, routeInfos)
  | count + 1, i, routeInfos =>
      match routeInfos[i]? with
      | none => .error (.runtimeError "vector::_M_range_check")
      | some routeInfoI => do
          let (merged, table) ← tryToMergeBackward i routeInfoI i routeInfos
          if merged then return (true, table) else tryToMergeFrom count (i + 1) table

def tryToMergeAnyTwoRoutes : Except SimError (Bool × RoutingTableInfo) :=
  tryToMergeFrom routeInfos.length 0 routeInfos

/-- The main loop, which is left when no two routes can be merged, in at most `rounds` rounds. -/
def mergeRoutes : ℕ → RoutingTableInfo → Except SimError RoutingTableInfo
  | 0, _ => .error .nonTermination
  | rounds + 1, routeInfos => do
      let (merged, table) ← tryToMergeAnyTwoRoutes routeInfos
      if merged then mergeRoutes rounds table else return table

/-- What the first step builds. -/
structure Classified where
  colorToRoute : List IPv4Route
  originalRouteInfos : List OriginalRouteInfo
  routeInfos : RoutingTableInfo

/-- The color of a route, which may be a new one. -/
def colorOf (colorToRoute : List IPv4Route) (route : IPv4Route) : ℕ × List IPv4Route :=
  match findRouteIndexWithSameColor colorToRoute route with
  | some color => (color, colorToRoute)
  | none => (colorToRoute.length, colorToRoute ++ [route])

def classifyRoute (classified : Classified) (originalRoute : IPv4Route) : Classified :=
  let (color, colorToRoute) := colorOf classified.colorToRoute originalRoute
  let original : OriginalRouteInfo :=
    ⟨classified.originalRouteInfos.length, color, originalRoute.dest, originalRoute.netmask⟩
  { colorToRoute := colorToRoute
    originalRouteInfos := classified.originalRouteInfos ++ [original]
    routeInfos := (addRouteInfo classified.routeInfos
      ⟨color, true, originalRoute.dest, originalRoute.netmask, [original]⟩).2 }

def classify (originalRoutes : List IPv4Route) : Classified :=
  originalRoutes.foldl classifyRoute ⟨[], [], []⟩

/-- A new route with the action of the color. -/
def optimizedRoute (colorToRoute : List IPv4Route) (id : ℕ) (routeInfo : RouteInfo) :
    Except SimError IPv4Route :=
  match colorToRoute[routeInfo.color]? with
  | none => .error (.undefinedBehavior "colorToRoute[routeInfo->color]")
  | some routeColor => .ok
      { id := id, dest := routeInfo.destination, netmask := routeInfo.netmask
        gateway := routeColor.gateway, interfacePtr := routeColor.interfacePtr
        sourceType := routeColor.sourceType, adminDist := 255, metric := routeColor.metric
        expiryTime := 0 }

/-- The third step. The routes get their positions for ids. -/
def optimizedRoutes (colorToRoute : List IPv4Route) :
    ℕ → RoutingTableInfo → Except SimError (List IPv4Route)
  | _, [] => .ok []
  | id, routeInfo :: rest => do
      return (← optimizedRoute colorToRoute id routeInfo) :: (← optimizedRoutes colorToRoute (id + 1) rest)

def optimizeRoutes (originalRoutes : List IPv4Route) : Except SimError (List IPv4Route) := do
  let classified := classify originalRoutes
  checkOriginalRoutes classified.routeInfos classified.originalRouteInfos
  let table ← mergeRoutes (classified.routeInfos.length + 1) classified.routeInfos
  checkOriginalRoutes table classified.originalRouteInfos
  optimizedRoutes classified.colorToRoute 0 table

end IPv4NetworkConfigurator

/-! ## Merged routes keep every original route where it goes -/

open List

namespace IPv4NetworkConfigurator

/-! ## Common prefixes -/

/-- A prefix of both destinations that lies in both netmasks. -/
structure CommonPrefix (destination1 netmask1 destination2 netmask2 : IPv4Address)
    (out : IPv4Address × IPv4Address) : Prop where
  destination : out.1 = destination1 &&& out.2
  same : destination1 &&& out.2 = destination2 &&& out.2
  inFirst : out.2 &&& netmask1 = out.2
  inSecond : out.2 &&& netmask2 = out.2

section

variable {destination1 netmask1 destination2 netmask2 : IPv4Address}

lemma twoPow_and_of_ne {netmask : IPv4Address} {bitIndex : ℕ}
    (bit : netmask &&& BitVec.twoPow 32 bitIndex ≠ 0) :
    BitVec.twoPow 32 bitIndex &&& netmask = BitVec.twoPow 32 bitIndex := by
  rw [BitVec.and_twoPow] at bit
  rw [BitVec.and_comm, BitVec.and_twoPow]
  split_ifs at bit ⊢
  · rfl
  · exact absurd rfl bit

lemma CommonPrefix.extend {out : IPv4Address × IPv4Address} {bitIndex : ℕ}
    (common : CommonPrefix destination1 netmask1 destination2 netmask2 out)
    (same : destination1 &&& BitVec.twoPow 32 bitIndex = destination2 &&& BitVec.twoPow 32 bitIndex)
    (bit1 : netmask1 &&& BitVec.twoPow 32 bitIndex ≠ 0)
    (bit2 : netmask2 &&& BitVec.twoPow 32 bitIndex ≠ 0) :
    CommonPrefix destination1 netmask1 destination2 netmask2
      (out.1 ||| (destination1 &&& BitVec.twoPow 32 bitIndex), out.2 ||| BitVec.twoPow 32 bitIndex) where
  destination := by
    dsimp only
    rw [BitVec.and_or_distrib_left, ← common.destination]
  same := by
    dsimp only
    rw [BitVec.and_or_distrib_left, BitVec.and_or_distrib_left, common.same, same]
  inFirst := by
    dsimp only
    rw [BitVec.and_or_distrib_right, common.inFirst, twoPow_and_of_ne bit1]
  inSecond := by
    dsimp only
    rw [BitVec.and_or_distrib_right, common.inSecond, twoPow_and_of_ne bit2]

lemma CommonPrefix.loop {out : IPv4Address × IPv4Address} (count : ℕ)
    (common : CommonPrefix destination1 netmask1 destination2 netmask2 out) :
    CommonPrefix destination1 netmask1 destination2 netmask2
      (commonPrefix destination1 netmask1 destination2 netmask2 count out) := by
  induction count generalizing out with
  | zero => exact common
  | succ bitIndex ih =>
    rw [commonPrefix]
    split_ifs with more
    · exact ih (common.extend more.1 more.2.1 more.2.2)
    · exact common

lemma findLongestCommonDestinationPrefix_spec :
    CommonPrefix destination1 netmask1 destination2 netmask2
      (findLongestCommonDestinationPrefix destination1 netmask1 destination2 netmask2) :=
  CommonPrefix.loop 32
    ⟨BitVec.and_zero.symm, BitVec.and_zero.trans BitVec.and_zero.symm, BitVec.zero_and,
      BitVec.zero_and⟩

end

/-- The destination has no bits outside of the netmask. -/
def RouteInfo.Masked (routeInfo : RouteInfo) : Prop :=
  routeInfo.destination &&& routeInfo.netmask = routeInfo.destination

lemma contains_iff {info : RouteInfo} {destination : IPv4Address} :
    info.contains destination = true ↔
      destination &&& info.netmask = info.destination &&& info.netmask := by
  rw [RouteInfo.contains, decide_eq_true_iff]
  exact IPv4Address.maskedAddrAreEqual_iff

section

variable {infoI infoJ : RouteInfo} {destination : IPv4Address}

lemma mergedRouteInfo_common (infoI infoJ : RouteInfo) :
    CommonPrefix infoI.destination infoI.netmask infoJ.destination
      infoJ.netmask ((mergedRouteInfo infoI infoJ).destination,
        (mergedRouteInfo infoI infoJ).netmask) :=
  findLongestCommonDestinationPrefix_spec

lemma mergedRouteInfo_masked : (mergedRouteInfo infoI infoJ).Masked := by
  have destination := (mergedRouteInfo_common infoI infoJ).destination
  rw [RouteInfo.Masked]
  dsimp only at destination
  rw [destination, BitVec.and_assoc, BitVec.and_self]

/-- The merged route matches what the two match. -/
lemma mergedRouteInfo_contains (either : infoI.contains destination = true ∨
    infoJ.contains destination = true) :
    (mergedRouteInfo infoI infoJ).contains destination = true := by
  obtain ⟨prefixed, same, inFirst, inSecond⟩ := mergedRouteInfo_common infoI infoJ
  dsimp only at prefixed same inFirst inSecond
  rw [contains_iff, prefixed, BitVec.and_assoc, BitVec.and_self]
  rcases either with matched | matched
  · rw [contains_iff] at matched
    rw [← inFirst, BitVec.and_comm _ infoI.netmask, ← BitVec.and_assoc, matched, BitVec.and_assoc]
  · rw [contains_iff] at matched
    rw [same, ← inSecond, BitVec.and_comm _ infoJ.netmask, ← BitVec.and_assoc, matched,
      BitVec.and_assoc]

end

/-- The place of a route in the table: longer netmasks first, then smaller destinations. -/
def place (routeInfo : RouteInfo) : ℕ :=
  (4294967295 - routeInfo.netmask.toNat) * 4294967296 + routeInfo.destination.toNat

lemma routeInfoLessThan_eq (a b : RouteInfo) :
    routeInfoLessThan a b = decide (place a < place b) := by
  rw [routeInfoLessThan, place, place]
  split_ifs with differ
  · rw [Ne, ← BitVec.toNat_inj] at differ
    rw [decide_eq_decide, BitVec.lt_def]
    omega
  · rw [not_not] at differ
    rw [differ, decide_eq_decide, BitVec.lt_def]
    omega

lemma place_le_of_and {info merged : RouteInfo}
    (inside : merged.netmask &&& info.netmask = merged.netmask) (masked : info.Masked)
    (prefixed : merged.destination = info.destination &&& merged.netmask) :
    place info ≤ place merged := by
  have le : merged.netmask.toNat ≤ info.netmask.toNat := by
    rw [← inside, BitVec.toNat_and]
    exact Nat.and_le_right
  rw [place, place]
  by_cases equal : merged.netmask = info.netmask
  · rw [prefixed, equal, masked]
  · rw [← BitVec.toNat_inj] at equal
    omega

variable {table table' : RoutingTableInfo} {info e e' : RouteInfo} {i j k m first last : ℕ}
  {destination : IPv4Address} {o : OriginalRouteInfo}

lemma insertIdx_takeWhile {α : Type} (p : α → Bool) (a : α) (xs : List α) :
    xs.insertIdx (xs.takeWhile p).length a = xs.takeWhile p ++ a :: xs.dropWhile p := by
  induction xs with
  | nil => rfl
  | cons x xs ih =>
    by_cases passes : p x = true
    · rw [takeWhile_cons_of_pos passes, dropWhile_cons_of_pos passes, length_cons,
        insertIdx_succ_cons, ih, cons_append]
    · rw [takeWhile_cons_of_neg passes, dropWhile_cons_of_neg passes]
      rfl

lemma map_modify {α β : Type} {f : α → α} {g : α → β} (same : ∀ a, g (f a) = g a) (xs : List α)
    (k : ℕ) : (xs.modify k f).map g = xs.map g := by
  refine ext_getElem? fun n => ?_
  rw [getElem?_map, getElem?_map, getElem?_modify]
  cases xs[n]? with
  | none => rfl
  | some x =>
    refine congrArg some ?_
    split_ifs
    · exact same x
    · rfl

lemma addRouteInfo_lt (sorted : SortedBy place table) (entry : table[k]? = some e)
    (le : place e ≤ place info) : k < (addRouteInfo table info).1 := by
  rw [addRouteInfo]
  induction table generalizing k with
  | nil => cases entry
  | cons x xs ih =>
    have head : (!routeInfoLessThan info x) = true := by
      rw [routeInfoLessThan_eq, Bool.not_eq_true', decide_eq_false_iff_not, not_lt]
      cases k with
      | zero =>
        cases entry
        exact le
      | succ k =>
        have mem := mem_of_getElem? (getElem?_cons_succ.symm.trans entry)
        exact ((pairwise_cons.mp sorted).1 e mem).trans le
    rw [takeWhile_cons_of_pos (p := fun e => !routeInfoLessThan info e) head, length_cons]
    cases k with
    | zero => exact Nat.succ_pos _
    | succ k => exact Nat.succ_lt_succ (ih (pairwise_cons.mp sorted).2 entry)

lemma addRouteInfo_eq (table : RoutingTableInfo) (info : RouteInfo) :
    (addRouteInfo table info).2 = insertBy place info table := by
  rw [insertBy, orderedInsert_eq_take_drop, addRouteInfo]
  simp only [routeInfoLessThan_eq, decide_not]
  exact insertIdx_takeWhile _ _ _

/-- The entry at the index is enabled and matches. -/
def Matches (table : RoutingTableInfo) (k : ℕ) (destination : IPv4Address) : Prop :=
  ∃ e, table[k]? = some e ∧ e.enabled = true ∧ e.contains destination = true

lemma matches_iff : Matches table k destination ↔
    (table[k]?.any fun info => info.enabled && info.contains destination) = true := by
  rw [Matches]
  cases table[k]? with
  | none =>
    constructor
    · intro ⟨_, entry, _⟩
      cases entry
    · intro found
      cases found
  | some e =>
    rw [Option.any_some, Bool.and_eq_true]
    exact ⟨fun ⟨_, same, both⟩ => Option.some.inj same ▸ both, fun both => ⟨e, rfl, both⟩⟩

lemma findBestMatchingRouteInfo_some :
    findBestMatchingRouteInfo table destination first last = some k ↔
      Matches table k destination ∧ first ≤ k ∧ k < last ∧
        ∀ k', first ≤ k' → k' < k → ¬ Matches table k' destination := by
  simp only [findBestMatchingRouteInfo, find?_range'_eq_some, mem_range'_1, matches_iff,
    Bool.not_eq_true', Bool.not_eq_true]
  constructor
  · intro ⟨matched, ⟨from_first, before⟩, first⟩
    exact ⟨matched, from_first, by omega, first⟩
  · intro ⟨matched, from_first, before, first⟩
    exact ⟨matched, ⟨from_first, by omega⟩, first⟩

lemma findBestMatchingRouteInfo_isSome (matched : Matches table k destination) (le : first ≤ k)
    (lt : k < last) : ∃ k', findBestMatchingRouteInfo table destination first last = some k' := by
  rw [← Option.isSome_iff_exists, findBestMatchingRouteInfo, find?_isSome]
  exact ⟨k, mem_range'_1.mpr ⟨le, by omega⟩, matches_iff.mp matched⟩

/-- What a table is, but for the original routes. -/
def RouteInfo.bare (routeInfo : RouteInfo) : RouteInfo := { routeInfo with originalRouteInfos := [] }

lemma bare_entry (same : table.map RouteInfo.bare = table'.map RouteInfo.bare)
    (entry : table[k]? = some e) : ∃ e', table'[k]? = some e' ∧ e'.bare = e.bare := by
  have bare := congrArg (fun l => l[k]?) same
  rw [getElem?_map, getElem?_map, entry] at bare
  exact Option.map_eq_some_iff.mp bare.symm

lemma contains_bare (same : e'.bare = e.bare) (destination : IPv4Address) :
    e'.contains destination = e.contains destination :=
  congrArg (fun e => e.contains destination) same

lemma color_bare (same : e'.bare = e.bare) : e'.color = e.color := congrArg (fun e => e.color) same

lemma enabled_bare (same : e'.bare = e.bare) : e'.enabled = e.enabled :=
  congrArg (fun e => e.enabled) same

lemma Matches.of_bare (same : table.map RouteInfo.bare = table'.map RouteInfo.bare)
    (matched : Matches table k destination) : Matches table' k destination := by
  obtain ⟨e, entry, enabled, contains⟩ := matched
  obtain ⟨e', entry', equal⟩ := bare_entry same entry
  exact ⟨e', entry', (enabled_bare equal).trans enabled, (contains_bare equal destination).trans contains⟩

/-- The color of the entry at the index. -/
def HasColor (table : RoutingTableInfo) (k color : ℕ) : Prop :=
  (table[k]?.any fun routeInfo => routeInfo.color = color) = true

lemma hasColor_iff {color : ℕ} : HasColor table k color ↔ ∃ e, table[k]? = some e ∧ e.color = color := by
  rw [HasColor]
  cases table[k]? with
  | none =>
    constructor
    · intro colored
      cases colored
    · intro ⟨_, entry, _⟩
      cases entry
  | some e =>
    rw [Option.any_some, decide_eq_true_iff]
    exact ⟨fun colored => ⟨e, rfl, colored⟩, fun ⟨_, same, colored⟩ => Option.some.inj same ▸ colored⟩

lemma HasColor.of_bare {color : ℕ} (same : table.map RouteInfo.bare = table'.map RouteInfo.bare)
    (colored : HasColor table k color) : HasColor table' k color := by
  obtain ⟨e, entry, equal⟩ := hasColor_iff.mp colored
  obtain ⟨e', entry', bare⟩ := bare_entry same entry
  exact hasColor_iff.mpr ⟨e', entry', (color_bare bare).trans equal⟩

lemma not_interruptsOriginalRoute (free : interruptsOriginalRoute table first last o = false)
    (found : findBestMatchingRouteInfo table o.destination first last = some k) :
    HasColor table k o.color := by
  rw [interruptsOriginalRoute, found] at free
  dsimp only at free
  obtain ⟨e, entry, -⟩ := (findBestMatchingRouteInfo_some.mp found).1
  rw [entry, Option.any_some, decide_eq_false_iff_not, not_not] at free
  rw [HasColor, entry, Option.any_some, decide_eq_true_iff]
  exact free

lemma not_interruptsAnyOriginalRoute {originals : List OriginalRouteInfo}
    (free : interruptsAnyOriginalRoute table first last originals = false) (mem : o ∈ originals)
    (found : findBestMatchingRouteInfo table o.destination first last = some k) :
    HasColor table k o.color := by
  obtain ⟨-, ge, lt, -⟩ := findBestMatchingRouteInfo_some.mp found
  rw [interruptsAnyOriginalRoute, Bool.and_eq_false_iff] at free
  rcases free with empty | free
  · exact absurd (ge.trans_lt lt) (of_decide_eq_false empty)
  · have one := any_eq_false.mp free o mem
    exact not_interruptsOriginalRoute (Bool.not_eq_true _ ▸ one) found

end IPv4NetworkConfigurator

end Inet.Ipv4
