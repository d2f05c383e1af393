import Hiwis.Ospf.LinkStateUpdate
import Hiwis.Ospf.Lookup

/-!
# The preferred routing table entry

`Router::getPreferredEntry` with the functions that it calls: the path to the router that advertises
an LSA, or to the forwarding address of an AS-external LSA.
-/

namespace Hiwis

namespace OSPF

open LinkStateUpdate (ASExternalLSABody)

/-- An entry for an AS boundary router. -/
def RoutingTableEntry.isASBoundaryRouter (entry : RoutingTableEntry) : Bool :=
  entry.destinationType &&& asBoundaryRouterDestination != 0

/-- An entry for an area border router. -/
def RoutingTableEntry.isAreaBorderRouter (entry : RoutingTableEntry) : Bool :=
  entry.destinationType &&& areaBorderRouterDestination != 0

/-- `hasRouteToASBoundaryRouter`. -/
def hasRouteToASBoundaryRouter (inRoutingTable : List RoutingTableEntry) (asbrRouterID : RouterID) :
    Bool :=
  inRoutingTable.any fun entry => entry.isASBoundaryRouter && entry.destination == asbrRouterID

/-- `getRoutesToASBoundaryRouter`. -/
def getRoutesToASBoundaryRouter (fromRoutingTable : List RoutingTableEntry)
    (asbrRouterID : RouterID) : List RoutingTableEntry :=
  fromRoutingTable.filter fun entry => entry.isASBoundaryRouter && entry.destination == asbrRouterID

/-- An intra-area path through an area that is not the backbone. -/
def isNonBackboneIntraArea (entry : RoutingTableEntry) : Bool :=
  entry.pathType == .intraArea && entry.area != backboneAreaID

/-- `pruneASBoundaryRouterEntries`. -/
def pruneASBoundaryRouterEntries (asbrEntries : List RoutingTableEntry) : List RoutingTableEntry :=
  if asbrEntries.any isNonBackboneIntraArea then asbrEntries.filter isNonBackboneIntraArea
  else asbrEntries

/-- An entry that takes the place of the best one so far. -/
def isLessCost (entry leastCostEntry : RoutingTableEntry) : Bool :=
  decide (entry.cost < leastCostEntry.cost) ||
    entry.cost == leastCostEntry.cost && decide (leastCostEntry.area < entry.area)

/-- `selectLeastCostRoutingEntry`. -/
def selectLeastCostRoutingEntry : List RoutingTableEntry → Option RoutingTableEntry
  | [] => none
  | entry :: entries => some (entries.foldl
      (fun leastCostEntry entry =>
        if isLessCost entry leastCostEntry then entry else leastCostEntry) entry)

/-- `getPreferredEntry`, for an LSA with this header and, if it is AS-external, these contents. -/
def getPreferredEntry (routerID : RouterID) (rfc1583Compatibility : Bool)
    (areas : List AreaAddressRanges) (lsaHeader : OSPFLSAHeader)
    (asExternalLSA : Option ASExternalLSABody) (skipSelfOriginated : Bool)
    (fromRoutingTable : List RoutingTableEntry) : Option RoutingTableEntry :=
  let externalCost := asExternalLSA.elim 0 (·.routeCost)
  let forwardingAddress := asExternalLSA.elim 0 (·.forwardingAddress)
  let originatingRouter := lsaHeader.advertisingRouter
  if externalCost = lsInfinity ∨ lsaHeader.lsAge = maxAge ∨
      (skipSelfOriginated = true ∧ originatingRouter = routerID) then none
  else if hasRouteToASBoundaryRouter fromRoutingTable originatingRouter = false then none
  else if forwardingAddress = 0 then
    let asbrEntries := getRoutesToASBoundaryRouter fromRoutingTable originatingRouter
    selectLeastCostRoutingEntry
      (if rfc1583Compatibility then asbrEntries else pruneASBoundaryRouterEntries asbrEntries)
  else
    match lookup areas fromRoutingTable forwardingAddress with
    | none => none
    | some forwardEntry =>
      if forwardEntry.pathType ≠ .intraArea ∧ forwardEntry.pathType ≠ .interArea then none
      else some forwardEntry

/-! ### The entry with the least cost -/

variable {entries : List RoutingTableEntry} {entry e : RoutingTableEntry}

end OSPF

end Hiwis
