import Inet.Ospf.Flooding
import Inet.Ospf.Router

/-!
# Summary LSAs that a router originates

`Area::originateSummaryLSA` and `getUniqueLinkStateID`: a network may take its address from an LSA
in the database; then there are two LSAs, that of the network (`lsaToReoriginate`) and a copy of the
database's under the other ID. A `Pass` is what `notifyAboutRoutingTableChanges` keeps for an area.
For a network in an advertised range the cost of the range is computed, but the LSA gets the mask
and the cost of the entry.
-/

namespace Inet.Ospf

open Ipv4 Flooding List Option

def SUMMARYLSA_NETWORKS_TYPE : ℕ := 3

def SUMMARYLSA_ASBOUNDARYROUTERS_TYPE : ℕ := 4

namespace SummaryLSA

def key (lsa : SummaryLSA) : LSAKeyType := ⟨lsa.header.linkStateID, lsa.header.advertisingRouter⟩

end SummaryLSA

/-- What originating Summary-LSAs into an area depends on. -/
structure SummaryArea where
  areaID : AreaID
  externalRoutingCapability : Bool
  transitCapability : Bool
  summaryLSAs : List SummaryLSA

namespace SummaryArea

variable (area : SummaryArea)

def findSummaryLSA (lsaKey : LSAKeyType) : Option SummaryLSA :=
  area.summaryLSAs.find? fun lsa => lsa.key = lsaKey

def installSummaryLSA (lsa : SummaryLSA) : SummaryArea :=
  { area with
    summaryLSAs :=
      if (area.findSummaryLSA lsa.key).isSome then
        area.summaryLSAs.map fun stored => if stored.key = lsa.key then lsa else stored
      else area.summaryLSAs ++ [lsa] }

end SummaryArea

/-- A router with its routing table, and the interfaces that are not virtual with their areas. -/
structure SummaryRouter extends Router where
  routingTable : List RouterEntry
  nonVirtualInterfaces : List (ℤ × AreaID)

def inconsistentRanges : SimError :=
  .runtimeError ("Model error: inconsistent contents in areaAddressRanges and " ++
    "advertiseAddressRanges variables")

/-- `Area::getContainingAddressRange`, with the flag of the range. -/
def AddressRanges.getContainingAddressRange (ranges : AddressRanges)
    (addressRange : IPv4AddressRange) : Except SimError (IPv4AddressRange × Bool) :=
  match ranges.areaAddressRanges.find? fun range => decide (range.contains addressRange) with
  | none => pure (NULL_IPV4ADDRESSRANGE, false)
  | some range =>
      match ranges.advertiseAddressRanges.get? range with
      | some advertise => pure (range, advertise)
      | none => throw inconsistentRanges

def getContainingAddressRange (addressRange : IPv4AddressRange) :
    List RouterArea → Except SimError (IPv4AddressRange × Bool)
  | [] => pure (NULL_IPV4ADDRESSRANGE, false)
  | area :: areas => do
      let containing ← area.ranges.getContainingAddressRange addressRange
      if containing.1 ≠ NULL_IPV4ADDRESSRANGE then pure containing
      else getContainingAddressRange addressRange areas

namespace SummaryRouter

variable (router : SummaryRouter) (area : SummaryArea) (entry : RouterEntry)

end SummaryRouter

/-- What is kept for an area: its database, and `originatedLSAs`. -/
structure Pass where
  area : SummaryArea
  originatedLSAs : List LSAKeyType

namespace Pass

def install (pass : Pass) (routerID : RouterID) (lsa : SummaryLSA) : Pass where
  area := pass.area.installSummaryLSA lsa
  originatedLSAs := ⟨lsa.header.linkStateID, routerID⟩ :: pass.originatedLSAs

end Pass

namespace SummaryArea

variable {area : SummaryArea} {lsa found : SummaryLSA} {lsaKey : LSAKeyType}

/-- The database has an LSA under the destination's address, and the destination takes the address
from it. -/
def Displaces (area : SummaryArea) (routerID : RouterID) (destination : IPv4AddressRange) : Prop :=
  ∃ found, area.findSummaryLSA ⟨destination.address, routerID⟩ = some found ∧
    destination.mask < found.networkMask

/-- The link state ID of a destination that displaces no LSA. -/
def freeLinkStateID (area : SummaryArea) (routerID : RouterID) (destination : IPv4AddressRange) :
    LinkStateID :=
  if ∃ found, area.findSummaryLSA ⟨destination.address, routerID⟩ = some found ∧
      found.networkMask < destination.mask then
    destination.address.makeBroadcastAddress destination.mask
  else destination.address

variable {routerID : RouterID} {dest : IPv4AddressRange} {cost : ℕ}

end SummaryArea

/-- An intra-area network in the advertised range, which is not ignored because of transit. -/
structure InRange (router : SummaryRouter) (area : SummaryArea) (range : IPv4AddressRange)
    (entry : RouterEntry) : Prop where
  network : entry.destinationType = NETWORK_DESTINATION
  intraArea : entry.pathType = .INTRAAREA
  advertised : getContainingAddressRange ⟨entry.destination, entry.netmask⟩ router.areas =
    .ok (range, true)
  isRange : range ≠ NULL_IPV4ADDRESSRANGE
  notIgnored : ¬ (entry.area = BACKBONE_AREAID ∧ area.transitCapability = true)

/-- A later state of the pass: what has been originated is on record, and the database's LSA under
the address of the range is the same. -/
structure Pass.Precedes (pass : Pass) (routerID : RouterID) (range : IPv4AddressRange)
    (later : Pass) : Prop where
  originated : pass.originatedLSAs ⊆ later.originatedLSAs
  stored : later.area.findSummaryLSA ⟨range.address, routerID⟩ =
    pass.area.findSummaryLSA ⟨range.address, routerID⟩

section

variable {router : SummaryRouter} {range : IPv4AddressRange} {pass later : Pass}
  {area : SummaryArea} {entry : RouterEntry} {originatedLSAs : List LSAKeyType}

/-- The range's link state ID is in `originatedLSAs`. -/
def Recorded (router : SummaryRouter) (range : IPv4AddressRange) (pass : Pass) : Prop :=
  (pass.area.Displaces router.routerID range ∧
      ⟨range.address, router.routerID⟩ ∈ pass.originatedLSAs) ∨
    (¬ pass.area.Displaces router.routerID range ∧
      ⟨pass.area.freeLinkStateID router.routerID range, router.routerID⟩ ∈ pass.originatedLSAs)

lemma Recorded.mono (recorded : Recorded router range pass)
    (precedes : pass.Precedes router.routerID range later) : Recorded router range later := by
  rw [Recorded, SummaryArea.Displaces, SummaryArea.freeLinkStateID] at *
  rw [precedes.stored]
  rcases recorded with ⟨displaces, mem⟩ | ⟨free, mem⟩
  · exact .inl ⟨displaces, precedes.originated mem⟩
  · exact .inr ⟨free, precedes.originated mem⟩

variable {lsa : SummaryLSA}

end

end Inet.Ospf
