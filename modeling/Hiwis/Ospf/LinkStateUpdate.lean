import Hiwis.Ospf.Flooding

/-!
# Link State Update packets

`LinkStateUpdateHandler::processPacket` with the functions that install LSAs, and those that
originate the router's own.  The acknowledgements and the retransmission lists are in `Flooding`;
the routing table is not rebuilt here.  What the code finds out from the request list, from the
routing table and from the neighbours that flooding brings to the full state is given with each LSA.
-/

namespace Hiwis

open Function

namespace OSPF

namespace LinkStateUpdate

/-! ### Contents of an LSA -/

/-- `OSPFOptions`, without the unused bits. -/
structure OSPFOptions where
  eExternalRoutingCapability : Bool := false
  mcMulticastForwarding : Bool := false
  npType7LSA : Bool := false
  eaForwardExternalLSAs : Bool := false
  dcDemandCircuits : Bool := false
  deriving DecidableEq

/-- `TOSData`. -/
structure TOSData where
  tos : ℕ
  tosMetric : ℕ × ℕ × ℕ
  deriving DecidableEq

/-- `LinkType`. -/
inductive LinkType
  | pointToPoint
  | transit
  | stub
  | virtual
  deriving DecidableEq

/-- `Link`. -/
structure Link where
  linkID : IPv4Address
  linkData : ℕ
  type : LinkType
  numberOfTOS : ℕ := 0
  linkCost : Metric
  tosData : List TOSData := []
  deriving DecidableEq

/-- `OSPFRouterLSA`. -/
structure RouterLSABody where
  vVirtualLinkEndpoint : Bool
  eASBoundaryRouter : Bool
  bAreaBorderRouter : Bool
  numberOfLinks : ℕ
  links : List Link
  deriving DecidableEq

/-- `OSPFNetworkLSA`. -/
structure NetworkLSABody where
  networkMask : IPv4Address
  attachedRouters : List RouterID
  deriving DecidableEq

/-- `OSPFSummaryLSA`. -/
structure SummaryLSABody where
  networkMask : IPv4Address
  routeCost : Metric
  tosData : List TOSData
  deriving DecidableEq

/-- `ExternalTOSInfo`. -/
structure ExternalTOSInfo where
  tosData : TOSData
  eExternalMetricType : Bool
  forwardingAddress : IPv4Address
  externalRouteTag : ℤ
  deriving DecidableEq

/-- `OSPFASExternalLSAContents`. -/
structure ASExternalLSABody where
  networkMask : IPv4Address
  eExternalMetricType : Bool
  routeCost : Metric
  forwardingAddress : IPv4Address
  externalRouteTag : ℤ
  externalTOSInfo : List ExternalTOSInfo
  deriving DecidableEq

/-- What an LSA holds after its header. -/
inductive LSABody
  | router (body : RouterLSABody)
  | network (body : NetworkLSABody)
  | summary (body : SummaryLSABody)
  | asExternal (body : ASExternalLSABody)
  deriving DecidableEq

/-- The kind of an LSA with this body. -/
def LSABody.kind : LSABody → LSAKind
  | .router _ => .routerLSA
  | .network _ => .networkLSA
  | .summary _ => .summaryLSA
  | .asExternal _ => .asExternalLSA

/-- The contents of an LSA: its body, and what the header holds besides `OSPFLSAHeader`. -/
structure LSAContents where
  lsOptions : OSPFOptions
  lsaLength : ℕ := 0
  body : LSABody
  deriving DecidableEq

/-- The vector in which LSAs of the type are stored. -/
def lsaKind : LSAType → LSAKind
  | .routerLSA => .routerLSA
  | .networkLSA => .networkLSA
  | .summaryLSANetworks => .summaryLSA
  | .summaryLSAASBoundaryRouters => .summaryLSA
  | .asExternalLSA => .asExternalLSA

/-! ### The database -/

/-- `InstallSource`. -/
inductive InstallSource
  | originated
  | flooded
  deriving DecidableEq

/-- An LSA of the database, with its `LSATrackingInfo`. -/
structure DatabaseLSA extends OSPFLSA LSAContents where
  source : InstallSource := .flooded
  installTime : ℕ := 0
  deriving DecidableEq

/-- The place of an LSA: its vector, and its key there. -/
abbrev Slot : Type := LSAKind × IDKey

/-- The maps of the area, and that of the AS-external LSAs in the router. -/
abbrev Database : Type := Slot → Option DatabaseLSA

/-- Where `findLSA` looks for an LSA. -/
def slot (header : OSPFLSAHeader) : Slot :=
  (lsaKind header.lsType, idKey (lsaKind header.lsType) header)

namespace DatabaseLSA

def setLsAge (lsa : DatabaseLSA) (lsAge : ℕ) : DatabaseLSA :=
  { lsa with header := { lsa.header with lsAge := lsAge } }

def setLsSequenceNumber (lsa : DatabaseLSA) (lsSequenceNumber : ℤ) : DatabaseLSA :=
  { lsa with header := { lsa.header with lsSequenceNumber := lsSequenceNumber } }

def incrementInstallTime (lsa : DatabaseLSA) : DatabaseLSA :=
  { lsa with installTime := lsa.installTime + 1 }

/-- `differsFrom`. -/
def differsFrom (lsa : DatabaseLSA) (newLSA : OSPFLSA LSAContents) : Bool :=
  lsa.contents.lsOptions != newLSA.contents.lsOptions ||
    decide (lsa.header.lsAge = maxAge) != decide (newLSA.header.lsAge = maxAge) ||
    lsa.contents.lsaLength != newLSA.contents.lsaLength ||
    lsa.contents.body != newLSA.contents.body

end DatabaseLSA

/-- `update`, and a copy for the database.  The constructor resets the tracking information. -/
def installed (lsa : OSPFLSA LSAContents) : DatabaseLSA where
  toOSPFLSA := lsa

/-- `installRouterLSA`, `installNetworkLSA`, `installSummaryLSA`, and the second half of
`installASExternalLSA`. -/
def install (db : Database) (lsa : OSPFLSA LSAContents) : Database × Bool :=
  (update db (slot lsa.header) (some (installed lsa)),
    (db (slot lsa.header)).all fun old => old.differsFrom lsa)

/-- The LSA of this router in the database is functionally equivalent to the one of another. -/
def isEquivalent (own : DatabaseLSA) (lsa : OSPFLSA LSAContents) : Bool :=
  match own.contents.body, lsa.contents.body with
  | .asExternal mine, .asExternal other =>
    mine.eExternalMetricType == other.eExternalMetricType && mine.routeCost == other.routeCost &&
      other.forwardingAddress != 0 && mine.forwardingAddress == other.forwardingAddress
  | _, _ => false

/-- `installASExternalLSA`. -/
def installASExternalLSA (routerID : RouterID) (reachable : Bool) (db : Database)
    (lsa : OSPFLSA LSAContents) : Database × Bool :=
  let ownSlot : Slot := (.asExternalLSA, .byLSAKey ⟨lsa.header.linkStateID, routerID⟩)
  match db ownSlot with
  | none => install db lsa
  | some own =>
    if reachable = true ∧ isEquivalent own lsa = true then
      if lsa.header.advertisingRouter < routerID then (db, false)
      else
        let flushed := update db ownSlot (some (own.setLsAge maxAge).incrementInstallTime)
        ((install flushed lsa).1, true)
    else install db lsa

/-- `Router::installLSA`. -/
def installLSA (routerID : RouterID) (reachable : Bool) (db : Database)
    (lsa : OSPFLSA LSAContents) : Database × Bool :=
  match lsaKind lsa.header.lsType with
  | .asExternalLSA => installASExternalLSA routerID reachable db lsa
  | _ => install db lsa

/-! ### Originating -/

/-- `Interface`, with its output cost. -/
structure AreaInterface extends Interface where
  interfaceOutputCost : Metric
  deriving DecidableEq

/-- `Area`, with what it reads of the router. -/
structure Area where
  routerID : RouterID
  areaCount : ℕ
  asBoundaryRouter : Bool
  externalRoutingCapability : Bool
  /-- The backbone has a virtual link with this transit area. -/
  isVirtualLinkEndpoint : Bool
  associatedInterfaces : List AreaInterface
  hostRoutes : List (IPv4Address × Metric)
  deriving DecidableEq

def stubLink (linkID : IPv4Address) (linkData : ℕ) (linkCost : Metric) : Link where
  linkID := linkID
  linkData := linkData
  type := .stub
  linkCost := linkCost

namespace AreaInterface

def address (intf : AreaInterface) : IPv4Address := intf.interfaceAddressRange.address

def mask (intf : AreaInterface) : IPv4Address := intf.interfaceAddressRange.mask

def isFull (neighbor : Neighbor) : Bool := neighbor.state == .full

section

variable (intf : AreaInterface)

/-- `hasAnyNeighborInStates(FULL_STATE)`. -/
def hasFullNeighbor : Bool := intf.neighboringRouters.any isFull

/-- `getNeighborByAddress`. -/
def getNeighborByAddress (address : IPv4Address) : Option Neighbor :=
  intf.neighboringRouters.find? fun neighbor => neighbor.neighborIPAddress == address

/-- The link to the network of the interface. -/
def networkStub : Link :=
  stubLink (intf.address &&& intf.mask) intf.mask.toNat intf.interfaceOutputCost

/-- The links of a point-to-point interface. -/
def pointToPointLinks (neighbor : Neighbor) : List Link :=
  let linkData := if intf.address ≠ 0 then intf.address.toNat else intf.ifIndex.toNat
  (if isFull neighbor then
    [{ linkID := neighbor.neighborID
       linkData := linkData
       type := .pointToPoint
       linkCost := intf.interfaceOutputCost }]
  else []) ++
  if intf.state = .pointToPoint then
    if neighbor.neighborIPAddress ≠ 0 then
      [stubLink neighbor.neighborIPAddress 0xFFFFFFFF intf.interfaceOutputCost]
    else if intf.mask.toNat ≠ 0xFFFFFFFF then [intf.networkStub] else []
  else []

end

/-- The link of an interface to a broadcast or NBMA network. -/
def transitLink (routerID : RouterID) (intf : AreaInterface) : Link :=
  let designatedRouter := intf.designatedRouter
  if intf.state = .waiting then intf.networkStub
  else if (intf.getNeighborByAddress designatedRouter.ipInterfaceAddress).any isFull = true ∨
      designatedRouter.routerID = routerID ∧ intf.hasFullNeighbor = true then
    { linkID := designatedRouter.ipInterfaceAddress
      linkData := intf.address.toNat
      type := .transit
      linkCost := intf.interfaceOutputCost }
  else intf.networkStub

/-- The link of a virtual interface. -/
def virtualLinks (intf : AreaInterface) (neighbor : Neighbor) : List Link :=
  if isFull neighbor then
    [{ linkID := neighbor.neighborID
       linkData := intf.address.toNat
       type := .virtual
       linkCost := intf.interfaceOutputCost }]
  else []

/-- The link to the interface itself. -/
def hostStub (intf : AreaInterface) : Link := stubLink intf.address 0xFFFFFFFF 0

/-- The links of an interface that is up. -/
def upLinks (routerID : RouterID) (intf : AreaInterface) : List Link :=
  match intf.interfaceType with
  | .pointToPoint => intf.neighboringRouters.head?.elim [] intf.pointToPointLinks
  | .broadcast | .nbma => [intf.transitLink routerID]
  | .virtual => intf.neighboringRouters.head?.elim [] intf.virtualLinks
  -- the source stores the stub link once more for every full neighbour
  | .pointToMultipoint =>
    intf.hostStub :: (intf.neighboringRouters.filter isFull).map fun _ => intf.hostStub
  | .unknownType => []

/-- One pass of the loop of `originateRouterLSA`. -/
def links (routerID : RouterID) (intf : AreaInterface) : List Link :=
  match intf.state with
  | .down => []
  | .loopback =>
    if intf.interfaceType ≠ .pointToPoint ∨ intf.address ≠ 0 then [intf.hostStub] else []
  | _ => intf.upLinks routerID

end AreaInterface

/-- `Area::originateRouterLSA`. -/
def originateRouterLSA (area : Area) : OSPFLSA LSAContents :=
  let links := area.associatedInterfaces.flatMap (AreaInterface.links area.routerID) ++
    area.hostRoutes.map fun (address, linkCost) => stubLink address 0xFFFFFFFF linkCost
  { header := ⟨0, .routerLSA, area.routerID, area.routerID, initialSequenceNumber⟩
    contents :=
      { lsOptions := { eExternalRoutingCapability := area.externalRoutingCapability }
        body := .router
          { vVirtualLinkEndpoint := area.isVirtualLinkEndpoint
            eASBoundaryRouter := area.externalRoutingCapability && area.asBoundaryRouter
            bAreaBorderRouter := decide (1 < area.areaCount)
            numberOfLinks := links.length
            links := links } } }

/-- `Area::originateNetworkLSA`. -/
def originateNetworkLSA (area : Area) (intf : AreaInterface) : Option (OSPFLSA LSAContents) :=
  if intf.hasFullNeighbor then
    some
      { header := ⟨0, .networkLSA, intf.address, area.routerID, initialSequenceNumber⟩
        contents :=
          { lsOptions := { eExternalRoutingCapability := area.externalRoutingCapability }
            body := .network
              { networkMask := intf.mask
                attachedRouters := (intf.neighboringRouters.filter AreaInterface.isFull).map
                  (·.neighborID) ++ [area.routerID] } } }
  else none

/-! ### The neighbours -/

/-- A neighbour: the number of the interface, and its number there. -/
abbrev NeighborPtr : Type := Flooding.NeighborPtr

/-- What the handler reads and changes. -/
structure State where
  area : Area
  database : Database
  shouldRebuildRoutingTable : Bool := false

/-- The router LSA of this router. -/
def ownSlot (area : Area) : Slot := (.routerLSA, .byLinkStateID area.routerID)

/-- The network LSA of an interface. -/
def networkSlot (intf : AreaInterface) : Slot := (.networkLSA, .byLinkStateID intf.address)

def AreaInterface.setNeighborState (intf : AreaInterface) (j : ℕ) (state : NeighborStateType) :
    AreaInterface :=
  { intf with
    neighboringRouters := intf.neighboringRouters.modify j fun neighbor =>
      { neighbor with state := state } }

namespace Area

def getNeighbor (area : Area) (p : NeighborPtr) : Option (AreaInterface × Neighbor) :=
  area.associatedInterfaces[p.1]?.bind fun intf => intf.neighboringRouters[p.2]?.map (intf, ·)

def setNeighborState (area : Area) (p : NeighborPtr) (state : NeighborStateType) : Area :=
  { area with
    associatedInterfaces := area.associatedInterfaces.modify p.1 fun intf =>
      intf.setNeighborState p.2 state }

/-- `isLocalAddress`. -/
def isLocalAddress (area : Area) (address : IPv4Address) : Bool :=
  area.associatedInterfaces.any fun intf => intf.address == address

end Area

/-- An LSA of this router is originated again, unless it has the last sequence number or there is
nothing to originate. -/
def reoriginated (lsa : DatabaseLSA) (newLSA : Option (OSPFLSA LSAContents)) : DatabaseLSA :=
  let sequenceNumber := lsa.header.lsSequenceNumber
  match newLSA with
  | some newLSA =>
    if sequenceNumber = maxSequenceNumber then (lsa.setLsAge maxAge).incrementInstallTime
    else (installed newLSA).setLsSequenceNumber (sequenceNumber + 1)
  | none => (lsa.setLsAge maxAge).incrementInstallTime

/-- `NeighborState::changeState` for the LSA in a place, if there is one. -/
def reoriginate (db : Database) (slot : Slot) (newLSA : Option (OSPFLSA LSAContents)) : Database :=
  update db slot ((db slot).map (reoriginated · newLSA))

namespace State

/-- `NeighborState::changeState`. -/
def changeState (s : State) (p : NeighborPtr) (newState : NeighborStateType) : State :=
  match s.area.getNeighbor p with
  | none => s
  | some (intf, neighbor) =>
    let area := s.area.setNeighborState p newState
    let intf := intf.setNeighborState p.2 newState
    if neighbor.state = .full ∨ newState = .full then
      let db := reoriginate s.database (ownSlot area) (some (originateRouterLSA area))
      if intf.state = .designatedRouter then
        { s with
          area := area
          database := reoriginate db (networkSlot intf) (originateNetworkLSA area intf) }
      else { s with area := area, database := db }
    else { s with area := area }

/-- `floodLSA`, which removes the LSA from the request lists: the neighbours that have received all
they requested become full. -/
def floodLSA (s : State) (completed : List NeighborPtr) : State :=
  completed.foldl (fun s p => s.changeState p .full) s

end State

/-! ### The packet -/

/-- An LSA of an update packet, with what the code finds when it comes to it. -/
structure ReceivedLSA where
  lsa : OSPFLSA LSAContents
  /-- The class of the LSA is that of its type, as `check_and_cast` demands. -/
  kind_eq : lsa.contents.body.kind = lsaKind lsa.header.lsType
  anyNeighborInExchangeOrLoadingState : Bool := false
  isLSAOnRequestList : Bool := false
  /-- There is a route to the advertising router. -/
  reachable : Bool := false
  /-- The neighbours that become full when the LSA is flooded. -/
  completed : List NeighborPtr := []
  /-- Those that become full when the copy in the database is flooded. -/
  completedAgain : List NeighborPtr := []
  deriving DecidableEq

/-- Where `findLSA` looks for the LSA. -/
def ReceivedLSA.slot (r : ReceivedLSA) : Slot := LinkStateUpdate.slot r.lsa.header

/-- The LSA counts as originated by this router. -/
def isSelfOriginated (area : Area) (header : OSPFLSAHeader) : Bool :=
  header.advertisingRouter == area.routerID ||
    header.lsType == .networkLSA && area.isLocalAddress header.linkStateID

/-- The LSA was installed from an update packet less than `MIN_LS_ARRIVAL` ago. -/
def isRecent (lsa : DatabaseLSA) : Bool :=
  lsa.source == .flooded && decide (lsa.installTime < minLSArrival)

/-- The copy of a self-originated LSA that has been installed is given the next sequence number, or
is flushed when there is none. -/
def superseded (lsaInDatabase : DatabaseLSA) (sequenceNumber : ℤ) : DatabaseLSA :=
  if sequenceNumber = maxSequenceNumber then lsaInDatabase.setLsAge maxAge
  else lsaInDatabase.setLsSequenceNumber (sequenceNumber + 1)

namespace State

/-- `installLSA`, for a received LSA. -/
def install (s : State) (r : ReceivedLSA) : State :=
  let (database, different) := installLSA s.area.routerID r.reachable s.database r.lsa
  ⟨s.area, database, s.shouldRebuildRoutingTable || different⟩

/-- The copy of the LSA in the database is superseded. -/
def supersede (s : State) (r : ReceivedLSA) : State :=
  { s with
    database := update s.database r.slot
      ((s.database r.slot).map (superseded · r.lsa.header.lsSequenceNumber)) }

/-- A newer LSA is flooded and installed.  If it is one of the router's own, what is in the database
is superseded, or the instance is flooded with the age `MAX_AGE`. -/
def accept (s : State) (r : ReceivedLSA) : State :=
  let noLSAInstanceInDatabase := (s.database r.slot).isNone
  let s := (s.floodLSA r.completed).install r
  if isSelfOriginated s.area r.lsa.header then
    if noLSAInstanceInDatabase then s.floodLSA r.completedAgain
    else (s.supersede r).floodLSA r.completedAgain
  else s

/-- An LSA of the packet, from the neighbour `sender`.  The second result is true when the loop is
left. -/
def processLSA (s : State) (sender : NeighborPtr) (r : ReceivedLSA) : State × Bool :=
  let header := r.lsa.header
  let lsaInDatabase := s.database r.slot
  if header.lsType = .asExternalLSA ∧ s.area.externalRoutingCapability = false then (s, false)
  else if header.lsAge = maxAge ∧ lsaInDatabase = none ∧
      r.anyNeighborInExchangeOrLoadingState = false then (s, false)
  else if lsaInDatabase.all fun lsa => lsa.header.isOlder header then
    if lsaInDatabase.any isRecent then (s, false) else (s.accept r, false)
  else if r.isLSAOnRequestList then (s.changeState sender .exchangeStart, true)
  else (s, false)

/-- The loop over one array of the packet. -/
def processArray (s : State) (sender : NeighborPtr) : List ReceivedLSA → State
  | [] => s
  | r :: rs =>
    if (s.processLSA sender r).2 then (s.processLSA sender r).1
    else (s.processLSA sender r).1.processArray sender rs

end State

/-- `OSPFLinkStateUpdatePacket`. -/
structure OSPFLinkStateUpdatePacket where
  routerLSAs : List ReceivedLSA := []
  networkLSAs : List ReceivedLSA := []
  summaryLSAs : List ReceivedLSA := []
  asExternalLSAs : List ReceivedLSA := []

/-- The arrays, in the order in which they are processed. -/
def OSPFLinkStateUpdatePacket.arrays (packet : OSPFLinkStateUpdatePacket) :
    List (List ReceivedLSA) :=
  [packet.routerLSAs, packet.networkLSAs, packet.summaryLSAs, packet.asExternalLSAs]

/-- `LinkStateUpdateHandler::processPacket`. -/
def State.processPacket (s : State) (sender : NeighborPtr) (packet : OSPFLinkStateUpdatePacket) :
    State :=
  match s.area.getNeighbor sender with
  | none => s
  | some (_, neighbor) =>
    if NeighborStateType.exchange.value ≤ neighbor.state.value then
      packet.arrays.foldl (fun s rs => s.processArray sender rs) s
    else s

end LinkStateUpdate

end OSPF

end Hiwis
