import Inet.Base.SimError
import Inet.Lib.OrderedMap
import Inet.Lib.SetCover
import Inet.Ospf.Area

/-!
# The address ranges of an area

`areaAddressRanges` is the vector of the configured ranges, `advertiseAddressRanges` has their
flags. `addAddressRange` marks the ranges inside of the new one with `NULL_IPV4ADDRESSRANGE` and
then erases them. That a range is inside of another is told by comparing the masks as numbers; under
masks that are not `Nested` a range may be erased that the new one does not cover.
-/

namespace Inet.Ospf

open Ipv4 List

namespace IPv4AddressRange

/-- `operator<`: longer masks first. -/
instance : LinearOrder IPv4AddressRange :=
  LinearOrder.lift' (fun range => toLex (OrderDual.toDual range.mask.toNat, range.address.toNat))
    (by
      rintro ⟨address, mask⟩ ⟨address', mask'⟩ eq
      obtain ⟨masks, addresses⟩ := Prod.mk.inj (toLex.injective eq)
      obtain rfl : address = address' := BitVec.eq_of_toNat_eq addresses
      obtain rfl : mask = mask' := BitVec.eq_of_toNat_eq (OrderDual.toDual.injective masks)
      rfl)

def containsAddress (range : IPv4AddressRange) (other : IPv4Address) : Prop :=
  IPv4Address.maskedAddrAreEqual range.address other range.mask

instance (range : IPv4AddressRange) (other : IPv4Address) :
    Decidable (range.containsAddress other) :=
  inferInstanceAs (Decidable (IPv4Address.maskedAddrAreEqual _ _ _))

def containsRange (range : IPv4AddressRange) (otherAddress otherMask : IPv4Address) : Prop :=
  IPv4Address.maskedAddrAreEqual range.address otherAddress range.mask ∧ range.mask ≤ otherMask

instance (range : IPv4AddressRange) (otherAddress otherMask : IPv4Address) :
    Decidable (range.containsRange otherAddress otherMask) :=
  inferInstanceAs (Decidable (_ ∧ _))

def contains (range other : IPv4AddressRange) : Prop :=
  range.containsRange other.address other.mask

instance (range other : IPv4AddressRange) : Decidable (range.contains other) :=
  inferInstanceAs (Decidable (range.containsRange _ _))

def str (range : IPv4AddressRange) : String :=
  range.address.strNumeric ++ "/" ++ range.mask.strNumeric

end IPv4AddressRange

def NULL_IPV4ADDRESSRANGE : IPv4AddressRange := ⟨0, 0⟩

structure AddressRanges where
  areaAddressRanges : List IPv4AddressRange
  advertiseAddressRanges : OrderedMap IPv4AddressRange Bool

/-- The state of the loop of `addAddressRange`: the ranges that have been looked at, some of
them replaced, and the two flags. -/
structure RangeScan extends AddressRanges where
  found : Bool
  erased : Bool

def inconsistentAdvertise (areaID : AreaID) (addressRange curRange : IPv4AddressRange) : SimError :=
  .runtimeError ("Inconsistent advertise settings for " ++ addressRange.str ++ " and " ++
    curRange.str ++ " address ranges in area " ++ areaID.strNumeric)

def badContents : SimError :=
  .runtimeError "Model error: bad contents in areaAddressRanges vector"

namespace AddressRanges

/-- No range configured. -/
def empty : AddressRanges := ⟨[], .empty⟩

/-- `advertiseAddressRanges[range]`, which enters the range with `false` if it has no flag. -/
def advertiseFlag (ranges : AddressRanges) (range : IPv4AddressRange) : Bool × AddressRanges :=
  match ranges.advertiseAddressRanges.get? range with
  | some advertise => (advertise, ranges)
  | none =>
      (false, { ranges with
        advertiseAddressRanges := ranges.advertiseAddressRanges.put range false })

/-- The loop body of `addAddressRange`. -/
def scanRange (areaID : AreaID) (addressRange : IPv4AddressRange) (advertise : Bool)
    (scan : RangeScan) (curRange : IPv4AddressRange) : Except SimError RangeScan :=
  let (flag, ranges) := scan.advertiseFlag curRange
  if curRange.contains addressRange then
    if flag ≠ advertise then throw (inconsistentAdvertise areaID addressRange curRange)
    else
      pure { scan with
        areaAddressRanges := ranges.areaAddressRanges ++ [curRange]
        advertiseAddressRanges := ranges.advertiseAddressRanges
        found := true }
  else if addressRange.contains curRange then
    if flag ≠ advertise then throw (inconsistentAdvertise areaID addressRange curRange)
    else
      pure { scan with
        areaAddressRanges := ranges.areaAddressRanges ++ [NULL_IPV4ADDRESSRANGE]
        advertiseAddressRanges := ranges.advertiseAddressRanges.erase curRange
        erased := true }
  else pure { scan with areaAddressRanges := scan.areaAddressRanges ++ [curRange] }

def addAddressRange (areaID : AreaID) (ranges : AddressRanges) (addressRange : IPv4AddressRange)
    (advertise : Bool) : Except SimError AddressRanges := do
  let scan ← ranges.areaAddressRanges.foldlM (scanRange areaID addressRange advertise)
    ⟨⟨[], ranges.advertiseAddressRanges⟩, false, false⟩
  if scan.erased && scan.found then throw badContents
  let areaAddressRanges :=
    if scan.erased then scan.areaAddressRanges.filter (· ≠ NULL_IPV4ADDRESSRANGE)
    else scan.areaAddressRanges
  if scan.found then pure ⟨areaAddressRanges, scan.advertiseAddressRanges⟩
  else
    pure ⟨areaAddressRanges ++ [addressRange],
      scan.advertiseAddressRanges.put addressRange advertise⟩

/-- One call after the other, from an area without ranges. -/
def addAddressRanges (areaID : AreaID) (calls : List (IPv4AddressRange × Bool)) :
    Except SimError AddressRanges :=
  calls.foldlM (fun ranges call => ranges.addAddressRange areaID call.1 call.2) empty

/-- What the ranges of an area are, after the calls so far. -/
structure Holds (calls : List (IPv4AddressRange × Bool)) (ranges : AddressRanges) : Prop where
  /-- No range contains another. -/
  antichain : ranges.areaAddressRanges.Pairwise fun a b => ¬ a.contains b ∧ ¬ b.contains a
  keys : ∀ range, range ∈ ranges.areaAddressRanges ↔
    ∃ advertise, (range, advertise) ∈ ranges.advertiseAddressRanges
  /-- The addresses of the ranges are those of all ranges added. -/
  covers : ∀ address, (∃ range ∈ ranges.areaAddressRanges, range.containsAddress address) ↔
    ∃ call ∈ calls, call.1.containsAddress address
  /-- A range added is in some range, and every one that it is in has its flag. -/
  flags : ∀ call ∈ calls, (∃ range ∈ ranges.areaAddressRanges, range.contains call.1) ∧
    ∀ range ∈ ranges.areaAddressRanges, range.contains call.1 →
      (range, call.2) ∈ ranges.advertiseAddressRanges
  added : ∀ range ∈ ranges.areaAddressRanges, ∃ call ∈ calls, call.1 = range

/-- Among these masks the smaller number is inside of the greater one. -/
def Nested (masks : List IPv4Address) : Prop :=
  ∀ mask ∈ masks, ∀ mask' ∈ masks, mask ≤ mask' → mask &&& mask' = mask

instance (masks : List IPv4Address) : Decidable (Nested masks) :=
  have (mask : IPv4Address) : Decidable (∀ mask' ∈ masks, mask ≤ mask' → mask &&& mask' = mask) :=
    List.decidableBAll _ masks
  List.decidableBAll _ masks

end AddressRanges

namespace AddressRanges

variable {id : AreaID} {addressRange curRange range range' : IPv4AddressRange}
  {advertise : Bool} {ranges : AddressRanges} {scan : RangeScan} {pre rest : List IPv4AddressRange}
  {flags : OrderedMap IPv4AddressRange Bool} {calls : List (IPv4AddressRange × Bool)}
  {masks : List IPv4Address}

def addresses (range : IPv4AddressRange) : Set IPv4Address := {a | range.containsAddress a}

lemma mem_addresses {address : IPv4Address} : address ∈ addresses range ↔
    range.address &&& range.mask = address &&& range.mask := IPv4Address.maskedAddrAreEqual_iff

lemma contains_iff : range.contains range' ↔
    range.address &&& range.mask = range'.address &&& range.mask ∧ range.mask ≤ range'.mask :=
  and_congr_left' IPv4Address.maskedAddrAreEqual_iff

/-- Under nested masks a range is told to contain another one when its addresses are among its
own. -/
lemma contains_iff_subset (nested : range.mask ≤ range'.mask →
    range.mask &&& range'.mask = range.mask) :
    range.contains range' ↔ addresses range' ⊆ addresses range := by
  rw [contains_iff]
  constructor
  · rintro ⟨same, le⟩ address mem
    rw [mem_addresses] at mem ⊢
    have inside := nested le
    calc range.address &&& range.mask = range'.address &&& range'.mask &&& range.mask := by
          rw [same, BitVec.and_assoc, BitVec.and_comm range'.mask, inside]
      _ = address &&& range'.mask &&& range.mask := by rw [mem]
      _ = address &&& range.mask := by rw [BitVec.and_assoc, BitVec.and_comm range'.mask, inside]
  · intro subset
    have here := mem_addresses.mp (subset (mem_addresses.mpr rfl))
    refine ⟨here, ?_⟩
    -- the bits outside of the inner mask are free there, so the outer one has none of them
    have flipped := mem_addresses.mp (subset (mem_addresses.mpr
      (show range'.address &&& range'.mask = (range'.address ^^^ ~~~range'.mask) &&& range'.mask by
        ext i lt
        simp only [BitVec.getElem_and, BitVec.getElem_xor, BitVec.getElem_not]
        cases range'.mask[i] <;> simp)))
    rw [here] at flipped
    have inside : range.mask &&& range'.mask = range.mask := by
      ext i lt
      have bit := congrArg (fun b : IPv4Address => b[i]) flipped
      simp only [BitVec.getElem_and, BitVec.getElem_xor, BitVec.getElem_not] at bit ⊢
      cases own : range.mask[i] <;> cases other : range'.mask[i] <;> simp_all
    rw [BitVec.le_def, ← inside, BitVec.toNat_and]
    exact Nat.and_le_right

/-! ## The loop -/

/-- The range gives way to the new one. -/
abbrev GivesWay (addressRange curRange : IPv4AddressRange) : Prop :=
  ¬ curRange.contains addressRange ∧ addressRange.contains curRange

/-- What the loop has found among the ranges looked at. -/
structure Scanned (addressRange : IPv4AddressRange) (advertise : Bool)
    (flags : OrderedMap IPv4AddressRange Bool) (pre : List IPv4AddressRange) (scan : RangeScan) :
    Prop where
  areaAddressRanges : scan.areaAddressRanges = pre.map fun curRange =>
    if GivesWay addressRange curRange then NULL_IPV4ADDRESSRANGE else curRange
  found : scan.found = true ↔ ∃ curRange ∈ pre, curRange.contains addressRange
  erased : scan.erased = true ↔ ∃ curRange ∈ pre, GivesWay addressRange curRange
  advertiseAddressRanges : ∀ range flag, (range, flag) ∈ scan.advertiseAddressRanges ↔
    (range, flag) ∈ flags ∧ ¬ (range ∈ pre ∧ GivesWay addressRange range)
  same : ∀ curRange ∈ pre, curRange.contains addressRange ∨ addressRange.contains curRange →
    (curRange, advertise) ∈ flags

lemma advertiseFlag_eq (here : (range, advertise) ∈ ranges.advertiseAddressRanges) :
    ranges.advertiseFlag range = (advertise, ranges) := by
  rw [advertiseFlag, OrderedMap.get?_eq_some.mpr here]

lemma Scanned.append (scanned : Scanned addressRange advertise flags pre scan) {scan' : RangeScan}
    (areaAddressRanges : scan'.areaAddressRanges = scan.areaAddressRanges ++
      [if GivesWay addressRange curRange then NULL_IPV4ADDRESSRANGE else curRange])
    (found : scan'.found = (scan.found || decide (curRange.contains addressRange)))
    (erased : scan'.erased = (scan.erased || decide (GivesWay addressRange curRange)))
    (advertised : ∀ range flag, (range, flag) ∈ scan'.advertiseAddressRanges ↔
      (range, flag) ∈ scan.advertiseAddressRanges ∧
        ¬ (range = curRange ∧ GivesWay addressRange range))
    (same : curRange.contains addressRange ∨ addressRange.contains curRange →
      (curRange, advertise) ∈ flags) :
    Scanned addressRange advertise flags (pre ++ [curRange]) scan' where
  areaAddressRanges := by
    rw [areaAddressRanges, scanned.areaAddressRanges, List.map_append]
    rfl
  found := by
    rw [found, Bool.or_eq_true, scanned.found, decide_eq_true_iff]
    simp [or_and_right, exists_or]
  erased := by
    rw [erased, Bool.or_eq_true, scanned.erased, decide_eq_true_iff]
    simp [or_and_right, exists_or]
  advertiseAddressRanges := by
    intro range flag
    rw [advertised, scanned.advertiseAddressRanges, List.mem_append, List.mem_singleton, and_assoc,
      ← not_or, ← or_and_right]
  same := by
    intro range mem related
    rcases List.mem_append.mp mem with old | new
    · exact scanned.same range old related
    · obtain rfl := List.mem_singleton.mp new
      exact same related

/-- One range more: its flag is another one, or it stays, or it gives way. -/
lemma Scanned.scanRange (id : AreaID)
    (scanned : Scanned addressRange advertise flags pre scan) (fresh : curRange ∉ pre)
    {flag : Bool} (here : (curRange, flag) ∈ flags) :
    scanRange id addressRange advertise scan curRange =
        .error (inconsistentAdvertise id addressRange curRange) ∨
      ∃ scan', scanRange id addressRange advertise scan curRange = .ok scan' ∧
        Scanned addressRange advertise flags (pre ++ [curRange]) scan' := by
  have kept : (curRange, flag) ∈ scan.advertiseAddressRanges :=
    (scanned.advertiseAddressRanges _ _).mpr ⟨here, fun old => fresh old.1⟩
  rw [AddressRanges.scanRange, advertiseFlag_eq kept]
  dsimp only
  by_cases outer : curRange.contains addressRange
  · rw [if_pos outer]
    have stays : ¬ GivesWay addressRange curRange := fun gives => gives.1 outer
    by_cases differs : flag ≠ advertise
    · exact .inl (if_pos differs)
    · rw [if_neg differs]
      obtain rfl := not_not.mp differs
      refine .inr ⟨_, rfl, scanned.append ?_ ?_ ?_ ?_ fun _ => here⟩
      · rw [if_neg stays]
      · rw [decide_eq_true outer, Bool.or_true]
      · rw [decide_eq_false stays, Bool.or_false]
      · refine fun range _ => (and_iff_left ?_).symm
        rintro ⟨rfl, gives⟩
        exact stays gives
  · rw [if_neg outer]
    by_cases inner : addressRange.contains curRange
    · rw [if_pos inner]
      have gives : GivesWay addressRange curRange := ⟨outer, inner⟩
      by_cases differs : flag ≠ advertise
      · exact .inl (if_pos differs)
      · rw [if_neg differs]
        obtain rfl := not_not.mp differs
        refine .inr ⟨_, rfl, scanned.append ?_ ?_ ?_ ?_ fun _ => here⟩
        · rw [if_pos gives]
        · rw [decide_eq_false outer, Bool.or_false]
        · rw [decide_eq_true gives, Bool.or_true]
        · intro range _
          refine OrderedMap.mem_erase.trans (and_congr_right' (not_congr ⟨?_, And.left⟩))
          rintro rfl
          exact ⟨rfl, gives⟩
    · rw [if_neg inner]
      have stays : ¬ GivesWay addressRange curRange := fun gives => inner gives.2
      refine .inr ⟨_, rfl, scanned.append ?_ ?_ ?_ ?_ ?_⟩
      · rw [if_neg stays]
      · rw [decide_eq_false outer, Bool.or_false]
      · rw [decide_eq_false stays, Bool.or_false]
      · refine fun range _ => (and_iff_left ?_).symm
        rintro ⟨rfl, gives⟩
        exact stays gives
      · exact fun related => absurd related (not_or.mpr ⟨outer, inner⟩)

lemma Scanned.foldlM (id : AreaID)
    (scanned : Scanned addressRange advertise flags pre scan) (nodup : (pre ++ rest).Nodup)
    (known : ∀ range ∈ rest, ∃ flag, (range, flag) ∈ flags) :
    (∃ curRange, rest.foldlM (AddressRanges.scanRange id addressRange advertise) scan =
        .error (inconsistentAdvertise id addressRange curRange)) ∨
      ∃ scan', rest.foldlM (AddressRanges.scanRange id addressRange advertise) scan = .ok scan' ∧
        Scanned addressRange advertise flags (pre ++ rest) scan' := by
  induction rest generalizing pre scan with
  | nil =>
    rw [append_nil]
    exact .inr ⟨scan, rfl, scanned⟩
  | cons curRange rest ih =>
    have fresh : curRange ∉ pre := by
      intro old
      exact (nodup_append.mp nodup).2.2 curRange old curRange mem_cons_self rfl
    obtain ⟨flag, here⟩ := known curRange mem_cons_self
    rw [foldlM_cons]
    rcases scanned.scanRange id fresh here with error | ⟨scan', ok, scanned'⟩
    · rw [error]
      exact .inl ⟨curRange, rfl⟩
    · rw [ok]
      rw [append_cons] at nodup ⊢
      exact ih scanned' nodup fun range mem => known range (mem_cons_of_mem _ mem)

lemma NULL_contains : NULL_IPV4ADDRESSRANGE.contains range :=
  contains_iff.mpr ⟨BitVec.and_zero.trans BitVec.and_zero.symm, BitVec.le_def.mpr (Nat.zero_le _)⟩

lemma Scanned.erase_marked (scanned : Scanned addressRange advertise flags pre scan)
    (outside : ∀ a ∈ pre, ¬ a.contains addressRange) :
    (if scan.erased then scan.areaAddressRanges.filter (· ≠ NULL_IPV4ADDRESSRANGE)
      else scan.areaAddressRanges) =
      pre.filter fun curRange => ¬ addressRange.contains curRange := by
  have marked : ∀ curRange ∈ pre, ¬ addressRange.contains curRange →
      (if GivesWay addressRange curRange then NULL_IPV4ADDRESSRANGE else curRange) = curRange :=
    fun curRange _ stays => if_neg fun gives => stays gives.2
  by_cases erased : scan.erased = true
  · rw [if_pos erased, scanned.areaAddressRanges, filter_map]
    have test : ∀ curRange ∈ pre, ((fun range => decide (range ≠ NULL_IPV4ADDRESSRANGE)) ∘
        fun curRange => if GivesWay addressRange curRange then NULL_IPV4ADDRESSRANGE
          else curRange) curRange = decide (¬ addressRange.contains curRange) := by
      intro curRange mem
      rw [Function.comp_apply]
      by_cases inner : addressRange.contains curRange
      · rw [if_pos ⟨outside curRange mem, inner⟩]
        simp [inner]
      · have notNull : curRange ≠ NULL_IPV4ADDRESSRANGE := by
          rintro rfl
          exact outside _ mem NULL_contains
        simp [inner, notNull]
    rw [filter_congr test]
    refine (map_congr_left fun curRange mem => ?_).trans (map_id _)
    obtain ⟨mem, stays⟩ := mem_filter.mp mem
    exact marked curRange mem (of_decide_eq_true stays)
  · have stays : ∀ curRange ∈ pre, ¬ addressRange.contains curRange := fun curRange mem inner =>
      erased (scanned.erased.mpr ⟨curRange, mem, outside curRange mem, inner⟩)
    rw [if_neg erased, scanned.areaAddressRanges,
      filter_eq_self.mpr fun curRange mem => decide_eq_true (stays curRange mem)]
    exact (map_congr_left fun curRange mem => marked curRange mem (stays curRange mem)).trans
      (map_id _)

/-- The new range takes the place of the ranges inside of it. -/
structure TakenIn (addressRange : IPv4AddressRange) (advertise : Bool)
    (ranges ranges' : AddressRanges) : Prop where
  outside : ∀ a ∈ ranges.areaAddressRanges, ¬ a.contains addressRange
  areaAddressRanges : ranges'.areaAddressRanges =
    (ranges.areaAddressRanges.filter fun a => ¬ addressRange.contains a) ++ [addressRange]
  advertiseAddressRanges : ∀ range flag, (range, flag) ∈ ranges'.advertiseAddressRanges ↔
    (range, flag) = (addressRange, advertise) ∨ ((range, flag) ∈ ranges.advertiseAddressRanges ∧
        ¬ (range ∈ ranges.areaAddressRanges ∧ GivesWay addressRange range)) ∧ range ≠ addressRange

lemma addAddressRange_cases (id : AreaID) (advertise : Bool)
    (nodup : ranges.areaAddressRanges.Nodup) (known : ∀ range ∈ ranges.areaAddressRanges,
      ∃ flag, (range, flag) ∈ ranges.advertiseAddressRanges)
    (notBoth : ∀ a ∈ ranges.areaAddressRanges, ∀ b ∈ ranges.areaAddressRanges,
      a.contains addressRange → ¬ GivesWay addressRange b) :
    (∃ curRange, ranges.addAddressRange id addressRange advertise =
        .error (inconsistentAdvertise id addressRange curRange)) ∨
      ∃ ranges', ranges.addAddressRange id addressRange advertise = .ok ranges' ∧
        (∀ a ∈ ranges.areaAddressRanges, a.contains addressRange ∨ addressRange.contains a →
          (a, advertise) ∈ ranges.advertiseAddressRanges) ∧
        ((∃ a ∈ ranges.areaAddressRanges, a.contains addressRange) ∧ ranges' = ranges ∨
          TakenIn addressRange advertise ranges ranges') := by
  have start : Scanned addressRange advertise ranges.advertiseAddressRanges []
      ⟨⟨[], ranges.advertiseAddressRanges⟩, false, false⟩ := by
    constructor <;> simp
  rw [addAddressRange]
  rcases start.foldlM id nodup known with ⟨curRange, error⟩ | ⟨scan, ok, scanned⟩
  · rw [error]
    exact .inl ⟨curRange, rfl⟩
  · rw [ok]
    rw [nil_append] at scanned
    change _ ∨ ∃ ranges', (if (scan.erased && scan.found) = true then _ else _) = _ ∧ _
    by_cases outer : ∃ a ∈ ranges.areaAddressRanges, a.contains addressRange
    · have stays : ∀ b ∈ ranges.areaAddressRanges, ¬ GivesWay addressRange b := by
        obtain ⟨a, mem, contains⟩ := outer
        exact fun b mem' => notBoth a mem b mem' contains
      have notErased : scan.erased = false := by
        rw [Bool.eq_false_iff]
        intro erased
        obtain ⟨b, mem, gives⟩ := scanned.erased.mp erased
        exact stays b mem gives
      have vector : scan.areaAddressRanges = ranges.areaAddressRanges := by
        rw [scanned.areaAddressRanges]
        exact (map_congr_left fun b mem => if_neg (stays b mem)).trans (map_id _)
      have flags : scan.advertiseAddressRanges = ranges.advertiseAddressRanges := by
        refine OrderedMap.ext_mem fun e => (scanned.advertiseAddressRanges _ _).trans ?_
        exact and_iff_left fun gives => stays _ gives.1 gives.2
      refine .inr ⟨ranges, ?_, scanned.same, .inl ⟨outer, rfl⟩⟩
      rw [notErased, scanned.found.mpr outer]
      change Except.ok (AddressRanges.mk scan.areaAddressRanges scan.advertiseAddressRanges) = _
      rw [vector, flags]
    · have outside : ∀ a ∈ ranges.areaAddressRanges, ¬ a.contains addressRange :=
        fun a mem contains => outer ⟨a, mem, contains⟩
      have notFound : scan.found = false := by
        rw [Bool.eq_false_iff]
        exact fun found => outer (scanned.found.mp found)
      rw [notFound, Bool.and_false, if_neg Bool.false_ne_true]
      refine .inr ⟨_, rfl, scanned.same, .inr ⟨outside, ?_, ?_⟩⟩
      · rw [scanned.erase_marked outside]
      · intro range flag
        refine OrderedMap.mem_put.trans (or_congr_right (and_congr_left' ?_))
        exact scanned.advertiseAddressRanges range flag

/-! ## One call, and all calls -/

lemma contains_refl : range.contains range := contains_iff.mpr ⟨rfl, BitVec.le_refl _⟩

lemma contains_of_common (nested : range.mask ≤ range'.mask →
      range.mask &&& range'.mask = range.mask) (le : range.mask ≤ range'.mask)
    (outer : range.contains curRange) (outer' : range'.contains curRange) :
    range.contains range' := by
  obtain ⟨same, -⟩ := contains_iff.mp outer
  obtain ⟨same', -⟩ := contains_iff.mp outer'
  refine contains_iff.mpr ⟨?_, le⟩
  calc range.address &&& range.mask = curRange.address &&& range'.mask &&& range.mask := by
        rw [same, BitVec.and_assoc, BitVec.and_comm range'.mask, nested le]
    _ = range'.address &&& range.mask := by
        rw [← same', BitVec.and_assoc, BitVec.and_comm range'.mask, nested le]

lemma contains_trans (nested : range.mask ≤ range'.mask → range.mask &&& range'.mask = range.mask)
    (outer : range.contains range') (inner : range'.contains curRange) :
    range.contains curRange := by
  obtain ⟨same, le⟩ := contains_iff.mp outer
  obtain ⟨same', le'⟩ := contains_iff.mp inner
  refine contains_iff.mpr ⟨?_, BitVec.le_trans le le'⟩
  calc range.address &&& range.mask = range'.address &&& range'.mask &&& range.mask := by
        rw [same, BitVec.and_assoc, BitVec.and_comm range'.mask, nested le]
    _ = curRange.address &&& range.mask := by
        rw [same', BitVec.and_assoc, BitVec.and_comm range'.mask, nested le]

lemma incomparable_iff {ranges : List IPv4AddressRange}
    (nested : Nested (ranges.map IPv4AddressRange.mask)) :
    Incomparable addresses ranges ↔ ranges.Pairwise fun a b => ¬ a.contains b ∧ ¬ b.contains a := by
  refine List.Pairwise.iff_of_mem ?_
  intro a b aMem bMem
  have aMask : a.mask ∈ ranges.map IPv4AddressRange.mask := mem_map_of_mem aMem
  have bMask : b.mask ∈ ranges.map IPv4AddressRange.mask := mem_map_of_mem bMem
  rw [contains_iff_subset (nested _ aMask _ bMask), contains_iff_subset (nested _ bMask _ aMask)]
  exact and_comm

lemma Nested.mono {masks' : List IPv4Address} (nested : Nested masks') (sub : masks ⊆ masks') :
    Nested masks :=
  fun mask mem mask' mem' => nested mask (sub mem) mask' (sub mem')

namespace TakenIn

variable {ranges' : AddressRanges}

variable (taken : TakenIn addressRange advertise ranges ranges')
include taken

lemma mem_iff :
    range ∈ ranges'.areaAddressRanges ↔
      (range ∈ ranges.areaAddressRanges ∧ ¬ addressRange.contains range) ∨
        range = addressRange := by
  rw [taken.areaAddressRanges, mem_append, mem_filter, mem_singleton, decide_eq_true_iff]

lemma kept {flag : Bool} (stays : ¬ addressRange.contains range)
    (known : (range, flag) ∈ ranges.advertiseAddressRanges) :
    (range, flag) ∈ ranges'.advertiseAddressRanges := by
  refine (taken.advertiseAddressRanges range flag).mpr (.inr ⟨⟨known, ?_⟩, ?_⟩)
  · exact fun gives => stays gives.2.2
  · rintro rfl
    exact stays contains_refl

lemma new : (addressRange, advertise) ∈ ranges'.advertiseAddressRanges :=
  (taken.advertiseAddressRanges _ _).mpr (.inl rfl)

lemma keys (holds : Holds calls ranges) : range ∈ ranges'.areaAddressRanges ↔
      ∃ flag, (range, flag) ∈ ranges'.advertiseAddressRanges := by
  rw [taken.mem_iff]
  constructor
  · rintro (⟨mem, stays⟩ | rfl)
    · obtain ⟨flag, known⟩ := (holds.keys range).mp mem
      exact ⟨flag, taken.kept stays known⟩
    · exact ⟨advertise, taken.new⟩
  · rintro ⟨flag, known⟩
    rcases (taken.advertiseAddressRanges range flag).mp known with new | ⟨⟨old, stays⟩, -⟩
    · exact .inr (congrArg Prod.fst new)
    · have mem := (holds.keys range).mpr ⟨flag, old⟩
      exact .inl ⟨mem, fun inner => stays ⟨mem, taken.outside range mem, inner⟩⟩

lemma flags_of_mem (holds : Holds calls ranges) (nested : ∀ a ∈ ranges.areaAddressRanges,
      (a.mask ≤ addressRange.mask → a.mask &&& addressRange.mask = a.mask) ∧
        (addressRange.mask ≤ a.mask → addressRange.mask &&& a.mask = addressRange.mask))
    (same : ∀ a ∈ ranges.areaAddressRanges, addressRange.contains a →
      (a, advertise) ∈ ranges.advertiseAddressRanges) (call : IPv4AddressRange × Bool)
    (called : call ∈ calls) :
    (∃ range ∈ ranges'.areaAddressRanges, range.contains call.1) ∧
      ∀ range ∈ ranges'.areaAddressRanges, range.contains call.1 →
        (range, call.2) ∈ ranges'.advertiseAddressRanges := by
  obtain ⟨⟨a, aMem, aContains⟩, all⟩ := holds.flags call called
  constructor
  · by_cases inner : addressRange.contains a
    · exact ⟨addressRange, taken.mem_iff.mpr (.inr rfl),
        contains_trans (nested a aMem).2 inner aContains⟩
    · exact ⟨a, taken.mem_iff.mpr (.inl ⟨aMem, inner⟩), aContains⟩
  · intro range rangeMem contains
    rcases taken.mem_iff.mp rangeMem with ⟨before, stays⟩ | rfl
    · exact taken.kept stays (all range before contains)
    · rcases BitVec.le_total a.mask range.mask with le | le
      · exact absurd (contains_of_common (nested a aMem).1 le aContains contains)
          (taken.outside a aMem)
      · have inner := contains_of_common (nested a aMem).2 le contains aContains
        have agree : call.2 = advertise :=
          OrderedMap.eq_of_mem (all a aMem aContains) (same a aMem inner)
        rw [agree]
        exact taken.new

end TakenIn

namespace Holds

lemma ofEmpty : Holds [] empty := by
  constructor <;> simp [empty, OrderedMap.notMem_empty]

lemma masks_subset (holds : Holds calls ranges) :
    ranges.areaAddressRanges.map IPv4AddressRange.mask ⊆ calls.map fun call => call.1.mask := by
  intro mask mem
  obtain ⟨range, here, rfl⟩ := mem_map.mp mem
  obtain ⟨call, called, rfl⟩ := holds.added range here
  exact mem_map_of_mem called

end Holds

lemma Holds.inside (holds : Holds calls ranges)
    (nested : ∀ a ∈ ranges.areaAddressRanges, a.mask ≤ addressRange.mask →
      a.mask &&& addressRange.mask = a.mask)
    (outer : ∃ a ∈ ranges.areaAddressRanges, a.contains addressRange)
    (same : ∀ a ∈ ranges.areaAddressRanges, a.contains addressRange →
      (a, advertise) ∈ ranges.advertiseAddressRanges) :
    Holds (calls ++ [(addressRange, advertise)]) ranges where
  antichain := holds.antichain
  keys := holds.keys
  covers := by
    intro address
    rw [holds.covers]
    constructor
    · rintro ⟨call, mem, inside⟩
      exact ⟨call, mem_append_left _ mem, inside⟩
    · rintro ⟨call, mem, inside⟩
      rcases mem_append.mp mem with old | new
      · exact ⟨call, old, inside⟩
      · obtain rfl := mem_singleton.mp new
        obtain ⟨a, aMem, contains⟩ := outer
        have subset := (contains_iff_subset (nested a aMem)).mp contains
        exact (holds.covers address).mp ⟨a, aMem, subset inside⟩
  flags := by
    intro call mem
    rcases mem_append.mp mem with old | new
    · exact holds.flags call old
    · obtain rfl := mem_singleton.mp new
      exact ⟨outer, same⟩
  added := by
    intro range mem
    obtain ⟨call, called, eq⟩ := holds.added range mem
    exact ⟨call, mem_append_left _ called, eq⟩

lemma Holds.takenIn {ranges' : AddressRanges} (holds : Holds calls ranges)
    (nested : Nested ((addressRange :: ranges.areaAddressRanges).map IPv4AddressRange.mask))
    (same : ∀ a ∈ ranges.areaAddressRanges, addressRange.contains a →
      (a, advertise) ∈ ranges.advertiseAddressRanges)
    (taken : TakenIn addressRange advertise ranges ranges') :
    Holds (calls ++ [(addressRange, advertise)]) ranges' := by
  have both : ∀ a ∈ ranges.areaAddressRanges,
      (a.mask ≤ addressRange.mask → a.mask &&& addressRange.mask = a.mask) ∧
        (addressRange.mask ≤ a.mask → addressRange.mask &&& a.mask = addressRange.mask) := by
    intro a mem
    have old : a.mask ∈ (addressRange :: ranges.areaAddressRanges).map IPv4AddressRange.mask :=
      mem_cons_of_mem _ (mem_map_of_mem mem)
    exact ⟨nested _ old _ mem_cons_self, nested _ mem_cons_self _ old⟩
  have keeps : ∀ a ∈ ranges.areaAddressRanges,
      decide (¬ addressRange.contains a) = true ↔ ¬ addresses a ⊆ addresses addressRange := by
    intro a mem
    rw [decide_eq_true_iff, contains_iff_subset (both a mem).2]
  constructor
  case antichain =>
    have before : Incomparable addresses ranges.areaAddressRanges :=
      (incomparable_iff (nested.mono (subset_cons_self _ _))).mpr holds.antichain
    have after := before.takeIn keeps fun a mem => by
      rw [← contains_iff_subset (both a mem).1]
      exact taken.outside a mem
    rw [← taken.areaAddressRanges] at after
    refine (incomparable_iff (nested.mono ?_)).mp after
    intro mask mem
    obtain ⟨range, here, rfl⟩ := mem_map.mp mem
    rcases taken.mem_iff.mp here with ⟨old, -⟩ | rfl
    · exact mem_cons_of_mem _ (mem_map_of_mem old)
    · exact mem_cons_self
  case keys => exact fun range => taken.keys holds
  case covers =>
    intro address
    have union := Set.ext_iff.mp (covered_takeIn keeps) address
    rw [← taken.areaAddressRanges] at union
    refine union.trans ((or_congr_left (holds.covers address)).trans ?_)
    simp [or_and_right, exists_or, addresses]
  case flags =>
    intro call mem
    rcases mem_append.mp mem with old | new
    · exact taken.flags_of_mem holds both same call old
    · obtain rfl := mem_singleton.mp new
      refine ⟨⟨addressRange, taken.mem_iff.mpr (.inr rfl), contains_refl⟩, ?_⟩
      intro range rangeMem contains
      rcases taken.mem_iff.mp rangeMem with ⟨before, -⟩ | rfl
      · exact absurd contains (taken.outside range before)
      · exact taken.new
  case added =>
    intro range mem
    rcases taken.mem_iff.mp mem with ⟨old, -⟩ | rfl
    · obtain ⟨call, called, eq⟩ := holds.added range old
      exact ⟨call, mem_append_left _ called, eq⟩
    · exact ⟨_, mem_append_right _ (mem_singleton_self _), rfl⟩

/-- A call among nested masks throws the inconsistent advertise error or keeps what holds. -/
lemma Holds.addAddressRange (id : AreaID) (holds : Holds calls ranges)
    (nested : Nested ((addressRange :: ranges.areaAddressRanges).map IPv4AddressRange.mask)) :
    (∃ curRange, ranges.addAddressRange id addressRange advertise =
        .error (inconsistentAdvertise id addressRange curRange)) ∨
      ∃ ranges', ranges.addAddressRange id addressRange advertise = .ok ranges' ∧
        Holds (calls ++ [(addressRange, advertise)]) ranges' := by
  have apart : Incomparable addresses ranges.areaAddressRanges :=
    (incomparable_iff (nested.mono (subset_cons_self _ _))).mpr holds.antichain
  have around : ∀ a ∈ ranges.areaAddressRanges, a.contains addressRange ↔
      addresses addressRange ⊆ addresses a := fun a mem =>
    contains_iff_subset (nested _ (mem_cons_of_mem _ (mem_map_of_mem mem)) _ mem_cons_self)
  have within : ∀ a ∈ ranges.areaAddressRanges, addressRange.contains a ↔
      addresses a ⊆ addresses addressRange := fun a mem =>
    contains_iff_subset (nested _ mem_cons_self _ (mem_cons_of_mem _ (mem_map_of_mem mem)))
  -- of two ranges around each other only one is there
  have notBoth : ∀ a ∈ ranges.areaAddressRanges, ∀ b ∈ ranges.areaAddressRanges,
      a.contains addressRange → ¬ GivesWay addressRange b := by
    rintro a aMem b bMem outer ⟨notOuter, inner⟩
    have subset := ((within b bMem).mp inner).trans ((around a aMem).mp outer)
    obtain rfl := apart.eq_of_subset bMem aMem subset
    exact notOuter outer
  rcases addAddressRange_cases id advertise apart.nodup
      (fun range mem => (holds.keys range).mp mem) notBoth with
    error | ⟨ranges', ok, same, ⟨outer, rfl⟩ | taken⟩
  · exact .inl error
  · refine .inr ⟨_, ok, holds.inside ?_ outer fun a mem contains => same a mem (.inl contains)⟩
    exact fun a mem => nested _ (mem_cons_of_mem _ (mem_map_of_mem mem)) _ mem_cons_self
  · refine .inr ⟨ranges', ok, holds.takenIn nested (fun a mem inner => ?_) taken⟩
    exact same a mem (.inr inner)

/-- Calls whose masks are nested end in the inconsistent advertise error, or in ranges that are an
antichain, are those with a flag, cover what all ranges added cover, and have the flags that those
were added with. -/
theorem addAddressRanges_holds (id : AreaID) (calls : List (IPv4AddressRange × Bool))
    (nested : Nested (calls.map fun call => call.1.mask)) :
    (∃ addressRange curRange, addAddressRanges id calls =
        .error (inconsistentAdvertise id addressRange curRange)) ∨
      ∃ ranges, addAddressRanges id calls = .ok ranges ∧ Holds calls ranges := by
  induction calls using List.reverseRecOn with
  | nil => exact .inr ⟨empty, rfl, .ofEmpty⟩
  | append_singleton calls call ih =>
    rw [map_append] at nested
    rw [addAddressRanges, foldlM_append]
    rcases ih (nested.mono (subset_append_left _ _)) with
      ⟨addressRange, curRange, error⟩ | ⟨ranges, ok, holds⟩
    · rw [addAddressRanges] at error
      rw [error]
      exact .inl ⟨addressRange, curRange, rfl⟩
    · rw [addAddressRanges] at ok
      rw [ok]
      have masks : Nested ((call.1 :: ranges.areaAddressRanges).map IPv4AddressRange.mask) := by
        refine nested.mono (cons_subset.mpr ⟨?_, ?_⟩)
        · exact mem_append_right _ (mem_singleton_self _)
        · exact subset_append_of_subset_left _ holds.masks_subset
      rcases holds.addAddressRange id masks with ⟨curRange, error⟩ | ⟨ranges', ok', holds'⟩
      · left
        refine ⟨call.1, curRange, ?_⟩
        change (ranges.addAddressRange id call.1 call.2 >>= pure) = _
        rw [error]
        rfl
      · right
        refine ⟨ranges', ?_, holds'⟩
        change (ranges.addAddressRange id call.1 call.2 >>= pure) = _
        rw [ok']
        rfl

theorem addAddressRanges_outerLast :
    (∃ addressRange curRange, addAddressRanges 1
        [(⟨0x0A010000, 0xFFFF0000⟩, true), (⟨0x0B000000, 0xFF000000⟩, false),
          (⟨0x0A000000, 0xFF000000⟩, true)] =
        .error (inconsistentAdvertise 1 addressRange curRange)) ∨
      ∃ ranges, addAddressRanges 1
          [(⟨0x0A010000, 0xFFFF0000⟩, true), (⟨0x0B000000, 0xFF000000⟩, false),
            (⟨0x0A000000, 0xFF000000⟩, true)] = .ok ranges ∧
        Holds [(⟨0x0A010000, 0xFFFF0000⟩, true), (⟨0x0B000000, 0xFF000000⟩, false),
          (⟨0x0A000000, 0xFF000000⟩, true)] ranges :=
  addAddressRanges_holds 1 _ (by decide)

/-- 10.0.0.0/255.0.0.255 is taken to contain 10.0.0.0/255.255.0.0, which contains 10.0.0.1, and the
first one does not. -/
theorem addAddressRanges_badContents :
    addAddressRanges 1 [(⟨0x0A000000, 0xFF0000FF⟩, true), (⟨0x0A000001, 0xFFFFFFFF⟩, true),
      (⟨0x0A000000, 0xFFFF0000⟩, true)] = .error badContents := by
  rfl

end AddressRanges

end Inet.Ospf
