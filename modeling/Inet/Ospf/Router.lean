import Inet.Ospf.AddressRanges
import Inet.Ospf.ShortestPathTree
import Mathlib.Data.List.MinMax

/-!
# The routing table of a router

`lookup` takes the entry that contains the destination and under whose mask that is the greatest
number. A range with an intra-area network in it is active, and hides the entry if the destination
is a greater number under its mask. `getPreferredEntry` is the entry for the router an LSA comes
from, or for its forwarding address.

The destination is a greater number under a longer mask only if it has a one bit there, so `lookup`
need not find the longest prefix (`lookup_iff`).
-/

namespace Inet.Ospf

open Ipv4 List

structure SummaryLSA where
  header : OSPFLSAHeader
  lsType : ℕ
  lsSequenceNumber : ℤ
  networkMask : IPv4Address
  routeCost : ℕ
  deriving DecidableEq

structure OSPFASExternalLSAContents where
  networkMask : IPv4Address
  E_ExternalMetricType : Bool
  routeCost : ℕ
  forwardingAddress : IPv4Address
  deriving DecidableEq

structure ASExternalLSA where
  header : OSPFLSAHeader
  contents : OSPFASExternalLSAContents
  deriving DecidableEq

/-- The LSA that an entry comes from. -/
inductive LinkStateOrigin where
  | ofArea (lsa : OSPFLSA)
  | summary (lsa : SummaryLSA)
  | asExternal (lsa : ASExternalLSA)
  deriving DecidableEq

/-- An `OSPF::RoutingTableEntry` with any origin. -/
structure RouterEntry where
  destination : IPv4Address
  netmask : IPv4Address
  destinationType : ℕ
  optionalCapabilities : OSPFOptions
  area : AreaID
  pathType : RoutingPathType
  cost : ℕ
  type2Cost : ℕ
  linkStateOrigin : Option LinkStateOrigin
  nextHops : List NextHop
  deriving DecidableEq

def BACKBONE_AREAID : AreaID := 0

/-- What the router knows of an area. -/
structure RouterArea where
  areaID : AreaID
  ranges : AddressRanges

structure Router where
  routerID : RouterID
  areas : List RouterArea
  rfc1583Compatibility : Bool

namespace RouterEntry

/-- The destination is in the network. -/
def Contains (entry : RouterEntry) (dest : IPv4Address) : Prop :=
  entry.destinationType = NETWORK_DESTINATION ∧
    entry.destination &&& entry.netmask = dest &&& entry.netmask

instance (entry : RouterEntry) (dest : IPv4Address) : Decidable (entry.Contains dest) :=
  inferInstanceAs (Decidable (_ ∧ _))

end RouterEntry

/-- The entry is an intra-area network in the range. -/
def IPv4AddressRange.isActive (range : IPv4AddressRange) (entry : RouterEntry) : Bool :=
  decide (entry.destinationType = NETWORK_DESTINATION) &&
    decide (range.containsRange entry.destination entry.netmask) &&
    decide (entry.pathType = .INTRAAREA)

namespace Router

/-- The entry that stands for an active address range. Its cost is not set, and not read. -/
def discardEntry (areaID : AreaID) (range : IPv4AddressRange) : RouterEntry where
  destination := range.address
  netmask := range.mask
  destinationType := NETWORK_DESTINATION
  optionalCapabilities := ⟨false, false, false, false, false⟩
  area := areaID
  pathType := .INTERAREA
  cost := 0
  type2Cost := 0
  linkStateOrigin := none
  nextHops := []

/-- The first loop of `lookup`. -/
def discard (router : Router) (rTable : List RouterEntry) : List RouterEntry :=
  router.areas.flatMap fun area =>
    (area.ranges.areaAddressRanges.filter fun range => rTable.any range.isActive).map
      (discardEntry area.areaID)

/-- One round of the second loop: the best match so far, and the destination under its mask. -/
def betterMatch (dest : IPv4Address) (best : Option RouterEntry × IPv4Address)
    (entry : RouterEntry) : Option RouterEntry × IPv4Address :=
  if entry.Contains dest ∧ best.2 < dest &&& entry.netmask then
    (some entry, dest &&& entry.netmask)
  else best

def lookup (router : Router) (destination : IPv4Address) (rTable : List RouterEntry) :
    Option RouterEntry :=
  match rTable.foldl (betterMatch destination) (none, 0) with
  | (none, _) => none
  | (some bestMatch, longestMatch) =>
      if (router.discard rTable).any fun entry =>
          decide (entry.destination &&& entry.netmask = destination &&& entry.netmask) &&
            decide (longestMatch < destination &&& entry.netmask) then
        none
      else some bestMatch

end Router

namespace LinkStateOrigin

def header : LinkStateOrigin → OSPFLSAHeader
  | ofArea lsa => lsa.header
  | summary lsa => lsa.header
  | asExternal lsa => lsa.header

def forwardingAddress : LinkStateOrigin → IPv4Address
  | asExternal lsa => lsa.contents.forwardingAddress
  | _ => IPv4Address.UNSPECIFIED_ADDRESS

end LinkStateOrigin

namespace RouterEntry

end RouterEntry

namespace Router

variable (router : Router) (rTable : List RouterEntry) (dest : IPv4Address)

/-- The range is one of an area, has an intra-area network in it, and has the destination in it. -/
def Active (range : IPv4AddressRange) : Prop :=
  (∃ area ∈ router.areas, range ∈ area.ranges.areaAddressRanges) ∧
    rTable.any range.isActive = true ∧ range.containsAddress dest

/-- No entry for the destination has a longer mask. -/
def Longest (entry : RouterEntry) : Prop :=
  ∀ e ∈ rTable, e.Contains dest → e.netmask ≤ entry.netmask

/-- An active range is longer than all entries for the destination. -/
def Hidden : Prop :=
  ∃ range, router.Active rTable dest range ∧ ∀ e ∈ rTable, e.Contains dest → e.netmask < range.mask

/-- The entry with the longest mask, and none exactly if there is no entry or an active range hides
it. -/
structure LongestPrefix (result : Option RouterEntry) : Prop where
  entry : ∀ entry, result = some entry →
    entry ∈ rTable ∧ entry.Contains dest ∧ Longest rTable dest entry
  none : result = none ↔ (∀ e ∈ rTable, ¬ e.Contains dest) ∨ router.Hidden rTable dest

/-- Under the entry's mask the destination is a greater number than under those in front of it, and
no smaller one than under those behind it. -/
structure FirstGreatest (pre : List RouterEntry) (entry : RouterEntry) (post : List RouterEntry) :
    Prop where
  contains : entry.Contains dest
  positive : 0 < dest &&& entry.netmask
  pre : ∀ e ∈ pre, e.Contains dest → dest &&& e.netmask < dest &&& entry.netmask
  post : ∀ e ∈ post, e.Contains dest → dest &&& e.netmask ≤ dest &&& entry.netmask

/-- The destination is ordered under the masks as the masks themselves are, where that matters. -/
def OrderedAsMasks : Prop :=
  (∀ e ∈ rTable, ¬ e.Contains dest) ∨ (router.Hidden rTable dest ∧
      ((∀ e ∈ rTable, e.Contains dest → dest &&& e.netmask = 0) ∨
        ∃ range, router.Active rTable dest range ∧
          ∀ e ∈ rTable, e.Contains dest → dest &&& e.netmask < dest &&& range.mask)) ∨
    (¬ router.Hidden rTable dest ∧
      ∃ pre entry post, rTable = pre ++ entry :: post ∧ FirstGreatest dest pre entry post ∧
        Longest rTable dest entry ∧
        ∀ range, router.Active rTable dest range → dest &&& range.mask ≤ dest &&& entry.netmask)

variable {router rTable dest} {pre post : List RouterEntry} {en : RouterEntry}
  {longestMatch : IPv4Address}

lemma lt_of_le_of_lt {a b c : IPv4Address} (le : a ≤ b) (lt : b < c) : a < c :=
  BitVec.lt_def.mpr (Nat.lt_of_le_of_lt (BitVec.le_def.mp le) (BitVec.lt_def.mp lt))

lemma betterMatch_of_not {best : Option RouterEntry × IPv4Address}
    (not : en.Contains dest → dest &&& en.netmask ≤ best.2) : betterMatch dest best en = best :=
  if_neg fun better => BitVec.not_lt.mpr (not better.1) better.2

lemma foldl_betterMatch_of_le {best : Option RouterEntry × IPv4Address}
    (le : ∀ e ∈ rTable, e.Contains dest → dest &&& e.netmask ≤ best.2) :
    rTable.foldl (betterMatch dest) best = best := by
  induction rTable with
  | nil => rfl
  | cons e rTable ih =>
    rw [foldl_cons, betterMatch_of_not (le e mem_cons_self)]
    exact ih fun e mem => le e (mem_cons_of_mem _ mem)

lemma foldl_betterMatch_cases :
    (rTable.foldl (betterMatch dest) (none, 0) = (none, 0) ∧
      ∀ e ∈ rTable, e.Contains dest → dest &&& e.netmask = 0) ∨
    ∃ pre en post, rTable = pre ++ en :: post ∧ FirstGreatest dest pre en post ∧
      rTable.foldl (betterMatch dest) (none, 0) = (some en, dest &&& en.netmask) := by
  induction rTable using List.reverseRecOn with
  | nil => exact .inl ⟨rfl, fun _ mem => absurd mem not_mem_nil⟩
  | append_singleton rTable e ih =>
    rw [foldl_append, foldl_cons, foldl_nil]
    rcases ih with ⟨eq, zero⟩ | ⟨pre, en, post, rfl, greatest, eq⟩
    · rw [eq]
      by_cases better : e.Contains dest ∧ 0 < dest &&& e.netmask
      · right
        refine ⟨rTable, e, [], rfl, ⟨better.1, better.2, ?_, by simp⟩, if_pos better⟩
        intro e' mem contains
        rw [zero e' mem contains]
        exact better.2
      · left
        refine ⟨if_neg better, ?_⟩
        intro e' mem contains
        rcases mem_append.mp mem with old | new
        · exact zero e' old contains
        · obtain rfl := mem_singleton.mp new
          have notPositive := fun positive => better ⟨contains, positive⟩
          exact BitVec.le_zero_iff.mp (BitVec.not_lt.mp notPositive)
    · rw [eq]
      right
      by_cases better : e.Contains dest ∧ dest &&& en.netmask < dest &&& e.netmask
      · refine ⟨pre ++ en :: post, e, [], rfl, ⟨better.1, ?_, ?_, by simp⟩, if_pos better⟩
        · exact BitVec.lt_trans greatest.positive better.2
        · intro e' mem contains
          refine lt_of_le_of_lt ?_ better.2
          rcases mem_append.mp mem with before | here
          · exact BitVec.le_of_lt (greatest.pre e' before contains)
          · rcases mem_cons.mp here with rfl | behind
            · exact BitVec.le_refl _
            · exact greatest.post e' behind contains
      · refine ⟨pre, en, post ++ [e], by simp, ⟨greatest.contains, greatest.positive,
          greatest.pre, ?_⟩, if_neg better⟩
        intro e' mem contains
        rcases mem_append.mp mem with old | new
        · exact greatest.post e' old contains
        · obtain rfl := mem_singleton.mp new
          exact BitVec.not_lt.mp fun less => better ⟨contains, less⟩

lemma FirstGreatest.foldl (greatest : FirstGreatest dest pre en post) :
    (pre ++ en :: post).foldl (betterMatch dest) (none, 0) = (some en, dest &&& en.netmask) := by
  rw [foldl_append, foldl_cons]
  have taken : betterMatch dest (pre.foldl (betterMatch dest) (none, 0)) en =
      (some en, dest &&& en.netmask) := by
    have less : (pre.foldl (betterMatch dest) (none, 0)).2 < dest &&& en.netmask := by
      rcases @foldl_betterMatch_cases pre dest with ⟨eq, -⟩ | ⟨before, e, behind, eq, first, found⟩
      · rw [eq]
        exact greatest.positive
      · have mem : e ∈ pre := eq ▸ mem_append_right _ mem_cons_self
        rw [found]
        exact greatest.pre e mem first.contains
    exact if_pos ⟨greatest.contains, less⟩
  rw [taken]
  exact foldl_betterMatch_of_le greatest.post

lemma FirstGreatest.le (greatest : FirstGreatest dest pre en post) :
    ∀ e ∈ pre ++ en :: post, e.Contains dest → dest &&& e.netmask ≤ dest &&& en.netmask := by
  intro e mem contains
  rcases mem_append.mp mem with before | here
  · exact BitVec.le_of_lt (greatest.pre e before contains)
  · rcases mem_cons.mp here with rfl | behind
    · exact BitVec.le_refl _
    · exact greatest.post e behind contains

lemma any_discard_iff : ((router.discard rTable).any fun en =>
      decide (en.destination &&& en.netmask = dest &&& en.netmask) &&
        decide (longestMatch < dest &&& en.netmask)) = true ↔
    ∃ range, router.Active rTable dest range ∧ longestMatch < dest &&& range.mask := by
  rw [any_eq_true]
  constructor
  · rintro ⟨en, mem, test⟩
    obtain ⟨area, areaMem, here⟩ := mem_flatMap.mp mem
    obtain ⟨range, rangeMem, rfl⟩ := mem_map.mp here
    obtain ⟨rangeMem, active⟩ := mem_filter.mp rangeMem
    rw [Bool.and_eq_true, decide_eq_true_iff, decide_eq_true_iff] at test
    exact ⟨range, ⟨⟨area, areaMem, rangeMem⟩, active,
      IPv4Address.maskedAddrAreEqual_iff.mpr test.1⟩, test.2⟩
  · rintro ⟨range, ⟨⟨area, areaMem, rangeMem⟩, active, contains⟩, less⟩
    refine ⟨discardEntry area.areaID range, mem_flatMap.mpr ⟨area, areaMem, ?_⟩, ?_⟩
    · exact mem_map_of_mem (mem_filter.mpr ⟨rangeMem, active⟩)
    · rw [Bool.and_eq_true, decide_eq_true_iff, decide_eq_true_iff]
      exact ⟨IPv4Address.maskedAddrAreEqual_iff.mp contains, less⟩

lemma lookup_of_none (eq : rTable.foldl (betterMatch dest) (none, 0) = (none, 0)) :
    router.lookup dest rTable = none := by
  rw [lookup, eq]

lemma lookup_of_some (eq : rTable.foldl (betterMatch dest) (none, 0) = (some en, longestMatch)) :
    ((∃ range, router.Active rTable dest range ∧ longestMatch < dest &&& range.mask) ∧
        router.lookup dest rTable = none) ∨
      ((∀ range, router.Active rTable dest range → dest &&& range.mask ≤ longestMatch) ∧
        router.lookup dest rTable = some en) := by
  rw [lookup, eq]
  dsimp only
  split_ifs with unreachable
  · exact .inl ⟨any_discard_iff.mp unreachable, rfl⟩
  · refine .inr ⟨fun range active => ?_, rfl⟩
    rw [any_discard_iff] at unreachable
    exact BitVec.not_lt.mp fun less => unreachable ⟨range, active, less⟩

/-- Route lookup is longest prefix match exactly if the destination is ordered under the masks as
the masks are. -/
theorem lookup_iff (router : Router) (rTable : List RouterEntry) (dest : IPv4Address) :
    router.LongestPrefix rTable dest (router.lookup dest rTable) ↔
      router.OrderedAsMasks rTable dest := by
  rcases @foldl_betterMatch_cases rTable dest with
    ⟨eq, zero⟩ | ⟨pre, en, post, split, greatest, eq⟩
  · rw [lookup_of_none eq]
    constructor
    · intro correct
      rcases correct.none.mp rfl with unknown | hidden
      · exact .inl unknown
      · exact .inr (.inl ⟨hidden, .inl zero⟩)
    · intro ordered
      refine ⟨by simp, iff_of_true rfl ?_⟩
      rcases ordered with unknown | ⟨hidden, -⟩ | ⟨-, pre, en, post, rfl, greatest, -⟩
      · exact .inl unknown
      · exact .inr hidden
      · rw [greatest.foldl] at eq
        cases eq
  · have mem : en ∈ rTable := split ▸ mem_append_right _ mem_cons_self
    have known : ¬ ∀ e ∈ rTable, ¬ e.Contains dest := fun unknown =>
      unknown en mem greatest.contains
    have le : ∀ e ∈ rTable, e.Contains dest → dest &&& e.netmask ≤ dest &&& en.netmask :=
      split ▸ greatest.le
    rcases @lookup_of_some router _ _ _ _ eq with
      ⟨⟨range, active, less⟩, result⟩ | ⟨notLess, result⟩
    · rw [result]
      have hides : ∀ e ∈ rTable, e.Contains dest → dest &&& e.netmask < dest &&& range.mask :=
        fun e mem contains => lt_of_le_of_lt (le e mem contains) less
      constructor
      · intro correct
        have hidden := (correct.none.mp rfl).resolve_left known
        exact .inr (.inl ⟨hidden, .inr ⟨range, active, hides⟩⟩)
      · intro ordered
        refine ⟨by simp, iff_of_true rfl (.inr ?_)⟩
        rcases ordered with unknown | ⟨hidden, -⟩ | ⟨-, pre', en', post', rfl, greatest', -, above⟩
        · exact absurd unknown known
        · exact hidden
        · exact absurd (hides en' (by simp) greatest'.contains)
            (BitVec.not_lt.mpr (above range active))
    · rw [result]
      constructor
      · intro correct
        have notHidden : ¬ router.Hidden rTable dest := fun hidden => by
          cases correct.none.mpr (.inr hidden)
        exact .inr (.inr ⟨notHidden, pre, en, post, split, greatest,
          (correct.entry en rfl).2.2, notLess⟩)
      · intro ordered
        rcases ordered with unknown | ⟨-, zero | ⟨range, active, hides⟩⟩ |
          ⟨notHidden, pre', en', post', split', greatest', longest, -⟩
        · exact absurd unknown known
        · have positive := greatest.positive
          rw [zero en mem greatest.contains] at positive
          exact absurd positive (BitVec.lt_irrefl _)
        · exact absurd (hides en mem greatest.contains) (BitVec.not_lt.mpr (notLess range active))
        · rw [split', greatest'.foldl] at eq
          obtain rfl := Option.some.inj (Prod.mk.inj eq).1
          refine ⟨?_, iff_of_false (Option.some_ne_none _) (not_or.mpr ⟨known, notHidden⟩)⟩
          intro other same
          obtain rfl := Option.some.inj same
          exact ⟨mem, greatest.contains, longest⟩

/-- An intra-area network of the cost 1. -/
def networkRoute (destination netmask : IPv4Address) : RouterEntry where
  destination := destination
  netmask := netmask
  destinationType := NETWORK_DESTINATION
  optionalCapabilities := ⟨false, false, false, false, false⟩
  area := BACKBONE_AREAID
  pathType := .INTRAAREA
  cost := 1
  type2Cost := 0
  linkStateOrigin := none
  nextHops := []

def singleArea : Router := ⟨1, [⟨BACKBONE_AREAID, .empty⟩], true⟩

/-- A default route is never found, and 10.0.0.0/8 hides 10.0.0.0/16 from 10.0.0.1. -/
theorem lookup_not_longest :
    ¬ singleArea.LongestPrefix [networkRoute 0 0] 0x08080808
        (singleArea.lookup 0x08080808 [networkRoute 0 0]) ∧
      ¬ singleArea.LongestPrefix
        [networkRoute 0x0A000000 0xFF000000, networkRoute 0x0A000000 0xFFFF0000] 0x0A000001
        (singleArea.lookup 0x0A000001
          [networkRoute 0x0A000000 0xFF000000, networkRoute 0x0A000000 0xFFFF0000]) := by
  have noRange : ∀ rTable dest, ¬ singleArea.Hidden rTable dest := by
    rintro rTable dest ⟨range, ⟨⟨area, areaMem, rangeMem⟩, -⟩, -⟩
    obtain rfl := mem_singleton.mp areaMem
    exact absurd rangeMem not_mem_nil
  constructor
  · intro correct
    have nothing : singleArea.lookup 0x08080808 [networkRoute 0 0] = none := by decide
    rcases correct.none.mp nothing with unknown | hidden
    · exact unknown _ (mem_singleton_self _) (by decide)
    · exact noRange _ _ hidden
  · intro correct
    have outer : singleArea.lookup 0x0A000001
        [networkRoute 0x0A000000 0xFF000000, networkRoute 0x0A000000 0xFFFF0000] =
          some (networkRoute 0x0A000000 0xFF000000) := by
      decide
    have longest := (correct.entry _ outer).2.2 (networkRoute 0x0A000000 0xFFFF0000)
      (mem_cons_of_mem _ (mem_singleton_self _)) (by decide)
    exact absurd longest (by decide)

end Router

end Inet.Ospf
