import Hiwis.Ospf.OriginateSummaryLSA

/-!
# Inter-area routes

`Area::calculateInterAreaRoutes` and `Area::recheckSummaryLSAs` with the functions that they call.
-/

namespace Hiwis

namespace OSPF

/-- `isSameNetwork`. -/
def isSameNetwork (address1 mask1 address2 mask2 : IPv4Address) : Bool :=
  mask1 == mask2 && address1 &&& mask1 == address2 &&& mask2

/-- `containedByRange`. -/
def IPv4AddressRange.containedByRange (range : IPv4AddressRange)
    (otherAddress otherMask : IPv4Address) : Bool :=
  maskedAddrAreEqual otherAddress range.address otherMask && decide (otherMask ≤ range.mask)

namespace RoutingTableEntry

/-- An entry for a router. -/
def isRouter (entry : RoutingTableEntry) : Bool :=
  entry.isAreaBorderRouter || entry.isASBoundaryRouter

/-- `addNextHop`, for each of the next hops. -/
def addNextHops (entry : RoutingTableEntry) (nextHops : List NextHop) : RoutingTableEntry :=
  { entry with nextHops := entry.nextHops ++ nextHops }

/-- `clearNextHops`. -/
def clearNextHops (entry : RoutingTableEntry) : RoutingTableEntry := { entry with nextHops := [] }

end RoutingTableEntry

namespace InterAreaRoutes

open SummaryOrigination (Area SummaryLSA)

/-- `Router::hasAddressRange`. -/
def hasAddressRange (router : SummaryOrigination.Router) (addressRange : IPv4AddressRange) : Bool :=
  router.areas.any fun area => area.areaAddressRanges.any fun range => range.1 == addressRange

/-- The destination of an LSA, as it is stored. -/
def destination (lsa : SummaryLSA) : IPv4AddressRange := ⟨lsa.header.linkStateID, lsa.networkMask⟩

/-- An LSA that the calculations pass over. -/
def isSkipped (router : SummaryOrigination.Router) (lsa : SummaryLSA) : Bool :=
  lsa.routeCost == lsInfinity || lsa.header.lsAge == maxAge ||
    lsa.header.advertisingRouter == router.routerID

/-- An LSA for an address range of the router, for which there is an intra-area route. -/
def isActiveRange (router : SummaryOrigination.Router) (newRoutingTable : List RoutingTableEntry)
    (lsa : SummaryLSA) : Bool :=
  lsa.header.lsType == .summaryLSANetworks && hasAddressRange router (destination lsa) &&
    newRoutingTable.any fun entry =>
      entry.destinationType == networkDestination && entry.pathType == .intraArea &&
        (destination lsa).containedByRange entry.destination entry.netmask

/-- The entry of the area for a border router. -/
def isBorderRouterEntry (areaID : AreaID) (originatingRouter : RouterID)
    (entry : RoutingTableEntry) : Bool :=
  entry.area == areaID && entry.isRouter && entry.destination == originatingRouter

/-- `foundMatching` of `findSameOrWorseCostRoute`. -/
def isMatching (lsa : SummaryLSA) (entry : RoutingTableEntry) : Bool :=
  if lsa.header.lsType = .summaryLSANetworks then
    entry.destinationType == networkDestination &&
      isSameNetwork (destination lsa).address (destination lsa).mask entry.destination entry.netmask
  else
    entry.isRouter && (destination lsa).address == entry.destination &&
      (destination lsa).mask == entry.netmask

/-- A matching entry that is better than the LSA. -/
def isBetter (lsa : SummaryLSA) (currentCost : Metric) (entry : RoutingTableEntry) : Bool :=
  isMatching lsa entry && (entry.pathType == .intraArea ||
    entry.pathType == .interArea && decide (entry.cost < currentCost))

/-- A matching entry in `sameOrWorseCost`. -/
def isSameOrWorse (lsa : SummaryLSA) (currentCost : Metric) (entry : RoutingTableEntry) : Bool :=
  isMatching lsa entry && entry.pathType == .interArea && decide (currentCost ≤ entry.cost)

/-- `createRoutingTableEntryFromSummaryLSA`. -/
def createRoutingTableEntryFromSummaryLSA (areaID : AreaID) (lsa : SummaryLSA)
    (entryCost : Metric) (borderRouterEntry : RoutingTableEntry) : RoutingTableEntry :=
  let isNetwork := lsa.header.lsType = .summaryLSANetworks
  { destination := if isNetwork then (destination lsa).address &&& (destination lsa).mask
      else (destination lsa).address
    netmask := if isNetwork then (destination lsa).mask else IPv4Address.allonesAddress
    destinationType := if isNetwork then networkDestination else asBoundaryRouterDestination
    area := areaID
    pathType := .interArea
    cost := entryCost
    linkStateOrigin := some lsa.header
    nextHops := borderRouterEntry.nextHops }

/-- The last entry that satisfies a condition is changed. -/
def modifyLast (p : RoutingTableEntry → Bool) (f : RoutingTableEntry → RoutingTableEntry) :
    List RoutingTableEntry → List RoutingTableEntry
  | [] => []
  | entry :: entries =>
    if entries.any p then entry :: modifyLast p f entries
    else if p entry then f entry :: entries
    else entry :: entries

/-- The sum of two costs in an `unsigned short`. -/
def shortCost (cost cost' : Metric) : Metric := (cost + cost') % 2 ^ 16

/-- The entries for an LSA to which no matching entry is preferred.  What is more expensive is
erased; an equal entry gets the next hops of the border router. -/
def addRoute (areaID : AreaID) (newRoutingTable : List RoutingTableEntry) (lsa : SummaryLSA)
    (currentCost : Metric) (borderRouterEntry : RoutingTableEntry) : List RoutingTableEntry :=
  let remaining := newRoutingTable.filter fun entry =>
    !(isSameOrWorse lsa currentCost entry && decide (currentCost < entry.cost))
  if remaining.any (isSameOrWorse lsa currentCost) then
    modifyLast (isSameOrWorse lsa currentCost) (·.addNextHops borderRouterEntry.nextHops) remaining
  else
    remaining ++ [createRoutingTableEntryFromSummaryLSA areaID lsa currentCost borderRouterEntry]

variable (router : SummaryOrigination.Router) (area : Area)

/-- `calculateInterAreaRoutes`, for one LSA. -/
def addSummaryLSA (newRoutingTable : List RoutingTableEntry) (lsa : SummaryLSA) :
    List RoutingTableEntry :=
  if isSkipped router lsa then newRoutingTable
  else if isActiveRange router newRoutingTable lsa then newRoutingTable
  else
    match newRoutingTable.find?
      (isBorderRouterEntry area.areaID lsa.header.advertisingRouter) with
    | none => newRoutingTable
    | some borderRouterEntry =>
      let currentCost := shortCost lsa.routeCost borderRouterEntry.cost
      if newRoutingTable.any (isBetter lsa currentCost) then newRoutingTable
      else addRoute area.areaID newRoutingTable lsa currentCost borderRouterEntry

/-- `calculateInterAreaRoutes`. -/
def calculateInterAreaRoutes (summaryLSAs : List SummaryLSA)
    (newRoutingTable : List RoutingTableEntry) : List RoutingTableEntry :=
  summaryLSAs.foldl (addSummaryLSA router area) newRoutingTable

/-- `foundMatching` of `recheckSummaryLSAs`. -/
def isRecheckMatching (lsa : SummaryLSA) (entry : RoutingTableEntry) : Bool :=
  if lsa.header.lsType = .summaryLSANetworks then
    entry.destinationType == networkDestination &&
      (destination lsa).address &&& (destination lsa).mask == entry.destination
  else entry.isRouter && (destination lsa).address == entry.destination

/-- A path of the backbone inside the autonomous system. -/
def isBackbonePath (entry : RoutingTableEntry) : Bool :=
  !(entry.pathType == .type1External || entry.pathType == .type2External ||
    entry.area != backboneAreaID)

/-- The entry after an LSA of a transit area.  When it is the border router's entry itself, there
are no next hops left after they are cleared. -/
def recheckEntry (currentCost : Metric) (nextHops : List NextHop) (isBorderRouter : Bool)
    (entry : RoutingTableEntry) : RoutingTableEntry :=
  if currentCost ≤ entry.cost then
    if currentCost < entry.cost then
      entry.clearNextHops.addNextHops (if isBorderRouter then [] else nextHops)
    else entry.addNextHops nextHops
  else entry

/-- `recheckSummaryLSAs`, for one LSA. -/
def recheckSummaryLSA (newRoutingTable : List RoutingTableEntry) (lsa : SummaryLSA) :
    List RoutingTableEntry :=
  if isSkipped router lsa then newRoutingTable
  else
    match newRoutingTable.findIdx? (isRecheckMatching lsa) with
    | none => newRoutingTable
    | some j =>
      if newRoutingTable[j]?.all isBackbonePath then
        let isBorderRouter := isBorderRouterEntry area.areaID lsa.header.advertisingRouter
        match newRoutingTable.find? isBorderRouter with
        | none => newRoutingTable
        | some borderRouterEntry => newRoutingTable.modify j
            (recheckEntry (shortCost lsa.routeCost borderRouterEntry.cost)
              borderRouterEntry.nextHops (newRoutingTable.findIdx? isBorderRouter == some j))
      else newRoutingTable

/-- `recheckSummaryLSAs`. -/
def recheckSummaryLSAs (summaryLSAs : List SummaryLSA) (newRoutingTable : List RoutingTableEntry) :
    List RoutingTableEntry :=
  summaryLSAs.foldl (recheckSummaryLSA router area) newRoutingTable

/-- The inter-area routes of `rebuildRoutingTable`: those of one area, which the transit areas
check again. -/
def interAreaRoutes (summaryLSAs : List SummaryLSA) (transitAreas : List (Area × List SummaryLSA))
    (newTable : List RoutingTableEntry) : List RoutingTableEntry :=
  transitAreas.foldl
    (fun newTable transit => recheckSummaryLSAs router transit.1 transit.2 newTable)
    (calculateInterAreaRoutes router area summaryLSAs newTable)

end InterAreaRoutes

end OSPF

end Hiwis
