import Hiwis.Ospf.PreferredEntry

/-!
# Origination of summary LSAs

`Area::getUniqueLinkStateID` and `Area::originateSummaryLSA`, and how
`Router::notifyAboutRoutingTableChanges` installs the LSAs that they return.
-/

namespace Hiwis

namespace OSPF

open LinkStateUpdate (OSPFOptions SummaryLSABody)

/-- `IPv4Address::makeBroadcastAddress`. -/
def makeBroadcastAddress (addr netmask : IPv4Address) : IPv4Address := addr ||| ~~~netmask

/-- `NULL_IPV4ADDRESSRANGE`. -/
def nullIPv4AddressRange : IPv4AddressRange := ⟨0, 0⟩

namespace SummaryOrigination

/-- `SummaryLSA`, without its tracking information. -/
structure SummaryLSA extends SummaryLSABody where
  header : OSPFLSAHeader
  lsOptions : OSPFOptions
  deriving DecidableEq

/-- `summaryLSAsByID`. -/
abbrev SummaryLSAs : Type := LSAKeyType → Option SummaryLSA

/-- An interface of an area. -/
structure AreaInterface where
  isVirtual : Bool
  ifIndex : ℤ
  deriving DecidableEq

/-- `Area`.  Each address range comes with the flag of `advertiseAddressRanges`. -/
structure Area where
  areaID : AreaID
  externalRoutingCapability : Bool
  transitCapability : Bool
  areaAddressRanges : List (IPv4AddressRange × Bool)
  associatedInterfaces : List AreaInterface
  deriving DecidableEq

/-- `Router`. -/
structure Router where
  routerID : RouterID
  rfc1583Compatibility : Bool
  areas : List Area
  routingTable : List RoutingTableEntry
  deriving DecidableEq

/-- `Area::getContainingAddressRange`. -/
def Area.getContainingAddressRange (area : Area) (addressRange : IPv4AddressRange) :
    IPv4AddressRange × Bool :=
  (area.areaAddressRanges.find? fun range =>
    range.1.containsRange addressRange.address addressRange.mask).getD (nullIPv4AddressRange, false)

namespace Router

variable (router : Router)

/-- `Router::getContainingAddressRange`. -/
def getContainingAddressRange (addressRange : IPv4AddressRange) : IPv4AddressRange × Bool :=
  ((router.areas.map (·.getContainingAddressRange addressRange)).find?
    fun range => range.1 != nullIPv4AddressRange).getD (nullIPv4AddressRange, false)

/-- `getNonVirtualInterface`: the area of the interface. -/
def getNonVirtualInterface (ifIndex : ℤ) : Option AreaID :=
  (router.areas.find? fun area =>
    area.associatedInterfaces.any fun intf => !intf.isVirtual && intf.ifIndex == ifIndex).map
      (·.areaID)

/-- `getPreferredEntry`, for an LSA that is not AS-external. -/
def getPreferredEntry (lsaHeader : OSPFLSAHeader) : Option RoutingTableEntry :=
  OSPF.getPreferredEntry router.routerID router.rfc1583Compatibility
    (router.areas.map fun area => ⟨area.areaID, area.areaAddressRanges.map Prod.fst⟩)
    lsaHeader none false router.routingTable

end Router

/-- `getUniqueLinkStateID`: the link state ID, and `lsaToReoriginate`. -/
def getUniqueLinkStateID (routerID : RouterID) (summaryLSAs : SummaryLSAs)
    (destination : IPv4AddressRange) (destinationCost : Metric) :
    LinkStateID × Option SummaryLSA :=
  match summaryLSAs ⟨destination.address, routerID⟩ with
  | none => (destination.address, none)
  | some foundLSA =>
    let existingMask := foundLSA.networkMask
    if destination.mask = existingMask then (destination.address, none)
    else if existingMask ≤ destination.mask then
      (makeBroadcastAddress destination.address destination.mask, none)
    else
      let sequenceNumber := foundLSA.header.lsSequenceNumber
      (makeBroadcastAddress destination.address existingMask,
        some { foundLSA with
          header := { foundLSA.header with
            lsAge := 0
            lsSequenceNumber := if sequenceNumber = maxSequenceNumber then initialSequenceNumber
              else sequenceNumber + 1 }
          networkMask := destination.mask
          routeCost := destinationCost })

/-- The copy of an LSA that gets another link state ID. -/
def SummaryLSA.moved (summaryLSA : SummaryLSA) (newLinkStateID : LinkStateID) : SummaryLSA :=
  { summaryLSA with
    header := { summaryLSA.header with
      lsAge := 0
      lsSequenceNumber := initialSequenceNumber
      linkStateID := newLinkStateID } }

/-- What `originateSummaryLSA` returns: the new LSA, and `lsaToReoriginate`. -/
abbrev Originated : Type := Option (SummaryLSA × Option SummaryLSA)

section

variable (router : Router) (area : Area) (summaryLSAs : SummaryLSAs) (entry : RoutingTableEntry)
  (originatedLSAs : List LSAKeyType)

/-- A new summary LSA for an entry. -/
def newSummaryLSA (lsType : LSAType) (linkStateID : LinkStateID) : SummaryLSA where
  header :=
    { lsAge := 0
      lsType := lsType
      linkStateID := linkStateID
      advertisingRouter := router.routerID
      lsSequenceNumber := initialSequenceNumber }
  lsOptions := { eExternalRoutingCapability := area.externalRoutingCapability }
  networkMask := entry.netmask
  routeCost := entry.cost
  tosData := []

/-- The entry is neither in this area nor for a destination of another kind, and a path outside of
this area leads to it. -/
def isSummarised : Bool :=
  !(entry.isAreaBorderRouter || entry.pathType == .type1External ||
      entry.pathType == .type2External || entry.area == area.areaID) &&
    !((entry.nextHops.all fun nextHop =>
        (router.getNonVirtualInterface nextHop.ifIndex).all (· == area.areaID)) ||
      decide (lsInfinity ≤ entry.cost))

/-- The entry is the preferred one for the AS boundary router. -/
def isPreferred : Bool :=
  entry.linkStateOrigin.any fun lsaHeader =>
    router.getPreferredEntry lsaHeader == some entry && area.externalRoutingCapability

/-- An intra-area entry for which no address range is considered. -/
def ignoresRanges : Bool :=
  entry.area == backboneAreaID && area.transitCapability ||
    (router.getContainingAddressRange ⟨entry.destination, entry.netmask⟩).1 == nullIPv4AddressRange

/-- `maxRangeCost`. -/
def maxRangeCost (containingAddressRange : IPv4AddressRange) : Metric :=
  router.routingTable.foldl
    (fun maxRangeCost routingEntry =>
      if routingEntry.destinationType = networkDestination ∧ routingEntry.pathType = .intraArea ∧
          containingAddressRange.containsRange routingEntry.destination routingEntry.netmask ∧
          maxRangeCost < routingEntry.cost
      then routingEntry.cost else maxRangeCost) 0

/-- `originateSummaryLSA`, for an entry that no address range stands for. -/
def originateDestination : Originated :=
  match getUniqueLinkStateID router.routerID summaryLSAs ⟨entry.destination, entry.netmask⟩
      entry.cost with
  | (newLinkStateID, some lsaToReoriginate) =>
    (summaryLSAs ⟨entry.destination, router.routerID⟩).map fun summaryLSA =>
      (summaryLSA.moved newLinkStateID, some lsaToReoriginate)
  | (newLinkStateID, none) =>
    some (newSummaryLSA router area entry .summaryLSANetworks newLinkStateID, none)

/-- `originateSummaryLSA`, for an entry in an address range. -/
def originateRange (containingAddressRange : IPv4AddressRange) : Originated :=
  match getUniqueLinkStateID router.routerID summaryLSAs containingAddressRange
      (maxRangeCost router containingAddressRange) with
  | (newLinkStateID, some lsaToReoriginate) =>
    if ⟨lsaToReoriginate.header.linkStateID, router.routerID⟩ ∈ originatedLSAs then none
    else (summaryLSAs ⟨entry.destination, router.routerID⟩).map fun summaryLSA =>
      (summaryLSA.moved newLinkStateID, some lsaToReoriginate)
  | (newLinkStateID, none) =>
    if ⟨newLinkStateID, router.routerID⟩ ∈ originatedLSAs then none
    else some (newSummaryLSA router area entry .summaryLSANetworks newLinkStateID, none)

/-- `originateSummaryLSA`. -/
def originateSummaryLSA : Originated :=
  if isSummarised router area entry = false then none
  else if entry.isASBoundaryRouter then
    if isPreferred router area entry then
      some (newSummaryLSA router area entry .summaryLSAASBoundaryRouters entry.destination, none)
    else none
  else if entry.pathType = .interArea then originateDestination router area summaryLSAs entry
  else if ignoresRanges router area entry then originateDestination router area summaryLSAs entry
  else
    let (containingAddressRange, doAdvertise) :=
      router.getContainingAddressRange ⟨entry.destination, entry.netmask⟩
    if doAdvertise then
      originateRange router area summaryLSAs entry originatedLSAs containingAddressRange
    else none

end

/-- `installSummaryLSA`. -/
def installSummaryLSA (summaryLSAs : SummaryLSAs) (lsa : SummaryLSA) : SummaryLSAs :=
  Function.update summaryLSAs lsa.header.lsaKey (some lsa)

/-- What `notifyAboutRoutingTableChanges` installs. -/
def installOriginated (summaryLSAs : SummaryLSAs) : Originated → SummaryLSAs
  | none => summaryLSAs
  | some (newLSA, none) => installSummaryLSA summaryLSAs newLSA
  | some (newLSA, some lsaToReoriginate) =>
    installSummaryLSA (installSummaryLSA summaryLSAs lsaToReoriginate) newLSA

end SummaryOrigination

end OSPF

end Hiwis
