import Hiwis.Ospf.AgeDatabase

/-!
# Flooding

`OSPF::Interface::floodLSA`, the retransmission lists of the neighbours, and the handlers that
change them: `LinkStateUpdateHandler`, `LinkStateAcknowledgementHandler` and `ageDatabase`.  The
packets that are sent and the timers are left out.
-/

namespace Hiwis

namespace OSPF

/-- `MIN_LS_ARRIVAL`. -/
def minLSArrival : ℕ := 1

/-- `OSPFLSA`: what an update packet holds of an LSA. -/
structure OSPFLSA (β : Type*) where
  header : OSPFLSAHeader
  contents : β
  deriving DecidableEq

namespace Flooding

/-- The two headers belong to instances of the same LSA. -/
def SameLSA (h h' : OSPFLSAHeader) : Prop := h.lsType = h'.lsType ∧ h.lsaKey = h'.lsaKey

instance (h h' : OSPFLSAHeader) : Decidable (SameLSA h h') := inferInstanceAs (Decidable (_ ∧ _))

/-! ### Neighbours -/

/-- `Neighbor`, with the lists that flooding reads and changes. -/
structure Neighbor (β : Type*) where
  state : NeighborStateType
  linkStateRequestList : List OSPFLSAHeader := []
  linkStateRetransmissionList : List (OSPFLSA β) := []
  deriving DecidableEq

namespace Neighbor

variable {β : Type*}

/-- The loops of `addToRetransmissionList`. -/
def addTo (lsa : OSPFLSA β) : List (OSPFLSA β) → List (OSPFLSA β)
  | [] => [lsa]
  | x :: xs => if x.header.lsaKey = lsa.header.lsaKey then lsa :: xs else x :: addTo lsa xs

def addToRetransmissionList (n : Neighbor β) (lsa : OSPFLSA β) : Neighbor β :=
  { n with linkStateRetransmissionList := addTo lsa n.linkStateRetransmissionList }

section

variable (n : Neighbor β) (lsaKey : LSAKeyType)

def removeFromRetransmissionList : Neighbor β :=
  { n with linkStateRetransmissionList :=
      n.linkStateRetransmissionList.filter fun x => x.header.lsaKey ≠ lsaKey }

def findOnRetransmissionList : Option (OSPFLSA β) :=
  n.linkStateRetransmissionList.find? fun x => x.header.lsaKey = lsaKey

def findOnRequestList : Option OSPFLSAHeader :=
  n.linkStateRequestList.find? fun h => h.lsaKey = lsaKey

/-- `removeFromRequestList`.  What is originated when the neighbour becomes full is flooded on its
own. -/
def removeFromRequestList : Neighbor β :=
  let requests := n.linkStateRequestList.filter fun h => h.lsaKey ≠ lsaKey
  { n with
    linkStateRequestList := requests
    state := if n.state = .loading ∧ requests = [] then .full else n.state }

end

/-- `reset`, and the state after it. -/
def reset (_n : Neighbor β) (state : NeighborStateType) : Neighbor β where
  state := state

/-- The loop of `Interface::floodLSA` for one neighbour, which has sent the LSA or not. -/
def floodLSA (n : Neighbor β) (lsa : OSPFLSA β) (isSender : Bool) : Neighbor β :=
  if n.state.value < NeighborStateType.exchange.value then n
  else if n.state.value < NeighborStateType.full.value then
    match n.findOnRequestList lsa.header.lsaKey with
    | some requestLSAHeader =>
      if lsa.header.isOlder requestLSAHeader then n
      else if lsa.header.isSameAge requestLSAHeader then
        n.removeFromRequestList lsa.header.lsaKey
      else
        let n := n.removeFromRequestList lsa.header.lsaKey
        if isSender then n else n.addToRetransmissionList lsa
    | none => if isSender then n else n.addToRetransmissionList lsa
  else if isSender then n else n.addToRetransmissionList lsa

/-- Whether flooding puts the LSA on the retransmission list of the neighbour. -/
def gets (n : Neighbor β) (lsa : OSPFLSA β) (isSender : Bool) : Bool :=
  decide (NeighborStateType.exchange.value ≤ n.state.value) && !isSender &&
    (decide (NeighborStateType.full.value ≤ n.state.value) ||
      (n.findOnRequestList lsa.header.lsaKey).all fun requestLSAHeader =>
        !lsa.header.isOlder requestLSAHeader && !lsa.header.isSameAge requestLSAHeader)

end Neighbor

/-! ### Interfaces -/

/-- `Interface`, with what flooding reads of its area. -/
structure Interface (β : Type*) where
  interfaceType : OSPFInterfaceType
  areaID : AreaID
  externalRoutingCapability : Bool
  neighboringRouters : List (Neighbor β)
  deriving DecidableEq

/-- A neighbour: the number of the interface, and its number there. -/
abbrev NeighborPtr : Type := ℕ × ℕ

/-- What happens to the lists.  With a removal it is recorded what it is for: the LSA that is
installed, or the header that is acknowledged. -/
inductive Action (β : Type*)
  | floodLSA (lsa : OSPFLSA β) (areaID : AreaID) (sender : Option NeighborPtr)
  | removeFromAllRetransmissionLists (lsaKey : LSAKeyType) (areaID : Option AreaID)
      (installed : OSPFLSAHeader)
  | removeFromRetransmissionList (neighbor : NeighborPtr) (acknowledged : OSPFLSAHeader)
  | reset (neighbor : NeighborPtr) (state : NeighborStateType)
  | changeState (neighbor : NeighborPtr) (state : NeighborStateType)
  | addToRequestList (neighbor : NeighborPtr) (lsaHeader : OSPFLSAHeader)

section Lists

variable {β : Type*}

/-- Whether an LSA is flooded on the interface: the areas that `Router::floodLSA` chooses, and the
condition of `Interface::floodLSA`. -/
def Interface.floods (intf : Interface β) (lsType : LSAType) (areaID : AreaID) : Bool :=
  if lsType = .asExternalLSA then
    intf.interfaceType ≠ .virtual && intf.externalRoutingCapability
  else intf.areaID = areaID && (intf.interfaceType ≠ .virtual || intf.areaID = backboneAreaID)

/-- Every neighbour changes on its own. -/
def mapNeighbors (f : NeighborPtr → Interface β → Neighbor β → Neighbor β)
    (interfaces : List (Interface β)) : List (Interface β) :=
  interfaces.mapIdx fun i intf =>
    { intf with neighboringRouters := intf.neighboringRouters.mapIdx fun j => f (i, j) intf }

/-- One neighbour changes. -/
def mapNeighbor (neighbor : NeighborPtr) (f : Neighbor β → Neighbor β) :
    List (Interface β) → List (Interface β) :=
  mapNeighbors fun p _ n => if p = neighbor then f n else n

variable (interfaces : List (Interface β))

def perform : Action β → List (Interface β)
  | .floodLSA lsa areaID sender => interfaces |> mapNeighbors fun p intf n =>
      if intf.floods lsa.header.lsType areaID then n.floodLSA lsa (sender == some p) else n
  | .removeFromAllRetransmissionLists lsaKey areaID _ => interfaces |> mapNeighbors fun _ intf n =>
      if areaID.all (· == intf.areaID) then n.removeFromRetransmissionList lsaKey else n
  | .removeFromRetransmissionList neighbor acknowledged => interfaces |> mapNeighbor neighbor
      fun n => n.removeFromRetransmissionList acknowledged.lsaKey
  | .reset neighbor state => interfaces |> mapNeighbor neighbor fun n => n.reset state
  | .changeState neighbor state => interfaces |> mapNeighbor neighbor
      fun n => { n with state := state }
  | .addToRequestList neighbor lsaHeader => interfaces |> mapNeighbor neighbor
      fun n => { n with linkStateRequestList := n.linkStateRequestList ++ [lsaHeader] }

def neighborAt (p : NeighborPtr) : Option (Neighbor β) :=
  interfaces[p.1]?.bind fun intf => intf.neighboringRouters[p.2]?

def hasAnyNeighborInExchangeOrLoading : Bool :=
  interfaces.any fun intf => intf.neighboringRouters.any fun n =>
    n.state == .exchange || n.state == .loading

/-- `isOnAnyRetransmissionList`, of the area or of the router. -/
def isOnAnyRetransmissionList (areaID : Option AreaID) (lsaKey : LSAKeyType) : Bool :=
  interfaces.any fun intf => areaID.all (· == intf.areaID) && intf.neighboringRouters.any fun n =>
    (n.findOnRetransmissionList lsaKey).isSome

/-- The flag of `Interface::floodLSA`, over all interfaces. -/
def lsaAddedToRetransmissionList (lsa : OSPFLSA β) (areaID : AreaID) (sender : Option NeighborPtr) :
    Bool :=
  interfaces.zipIdx.any fun (intf, i) => intf.floods lsa.header.lsType areaID &&
    intf.neighboringRouters.zipIdx.any fun (n, j) => n.gets lsa (sender == some (i, j))

end Lists

/-! ### The router -/

/-- The map that an LSA is stored in, with its key there. -/
inductive DatabaseKey
  | router (areaID : AreaID) (linkStateID : LinkStateID)
  | network (areaID : AreaID) (linkStateID : LinkStateID)
  | summary (areaID : AreaID) (lsaKey : LSAKeyType)
  | asExternal (lsaKey : LSAKeyType)
  deriving DecidableEq

/-- Where `findLSA` and `installLSA` look. -/
def databaseKey (lsType : LSAType) (areaID : AreaID) (lsaKey : LSAKeyType) : DatabaseKey :=
  match lsType with
  | .routerLSA => .router areaID lsaKey.linkStateID
  | .networkLSA => .network areaID lsaKey.linkStateID
  | .summaryLSANetworks => .summary areaID lsaKey
  | .summaryLSAASBoundaryRouters => .summary areaID lsaKey
  | .asExternalLSA => .asExternal lsaKey

namespace DatabaseKey

def kind : DatabaseKey → LSAKind
  | .router _ _ => .routerLSA
  | .network _ _ => .networkLSA
  | .summary _ _ => .summaryLSA
  | .asExternal _ => .asExternalLSA

/-- The area that holds the LSA; none for an AS-external one. -/
def area : DatabaseKey → Option AreaID
  | .router areaID _ => some areaID
  | .network areaID _ => some areaID
  | .summary areaID _ => some areaID
  | .asExternal _ => none

end DatabaseKey

/-- The LSAs in the database, without the vectors. -/
abbrev Database (β : Type*) : Type _ := Finmap fun _ : DatabaseKey => LSA β

/-- `Router`.  The actions on the lists are recorded. -/
structure Router (β : Type*) where
  routerID : RouterID
  localAddresses : List IPv4Address
  interfaces : List (Interface β)
  database : Database β := ∅
  history : List (Action β) := []

/-- What the handler finds out about the LSA that it installs: whether the instance in the database
was flooded, and whether an LSA of this router is equivalent to it. -/
structure InstallContext where
  flooded : Bool
  equivalent : Bool
  deriving DecidableEq

inductive Event (β : Type*)
  /-- An LSA of this router changes and is flooded. -/
  | originate (areaID : AreaID) (lsa : OSPFLSA β)
  /-- An LSA is aged. -/
  | age (key : DatabaseKey) (ctx : AgeContext β)
  /-- An LSA of an update packet is processed. -/
  | receive (neighbor : NeighborPtr) (ctx : InstallContext) (lsa : OSPFLSA β)
  /-- A header of an acknowledgement packet is processed. -/
  | acknowledge (neighbor : NeighborPtr) (lsaHeader : OSPFLSAHeader)
  /-- The adjacency is reset. -/
  | reset (neighbor : NeighborPtr) (state : NeighborStateType)
  /-- The state of a neighbour changes otherwise. -/
  | changeState (neighbor : NeighborPtr) (state : NeighborStateType)
  | addToRequestList (neighbor : NeighborPtr) (lsaHeader : OSPFLSAHeader)

section Handlers

variable {β : Type*}

/-- The LSA of the database as it is flooded. -/
def toOSPFLSA (lsa : LSA β) : OSPFLSA β := ⟨lsa.header, lsa.contents⟩

/-- The copy of a flooded LSA in the database. -/
def toLSA (lsa : OSPFLSA β) : LSA β := ⟨lsa.header, lsa.contents, 0, false⟩

def setLsAge (lsa : OSPFLSA β) (lsAge : ℕ) : OSPFLSA β :=
  { lsa with header := { lsa.header with lsAge := lsAge } }

/-- `installRouterLSA` and its like, and the end of `installASExternalLSA`. -/
def install (database : Database β) (areaID : AreaID) (lsa : OSPFLSA β) :
    Database β × List (Action β) :=
  let key := databaseKey lsa.header.lsType areaID lsa.header.lsaKey
  (database.insert key (toLSA lsa),
    if key ∈ database then
      [.removeFromAllRetransmissionLists lsa.header.lsaKey key.area lsa.header]
    else [])

/-- `installLSA`. -/
def installLSA (routerID : RouterID) (ctx : InstallContext) (database : Database β)
    (areaID : AreaID) (lsa : OSPFLSA β) : Database β × List (Action β) :=
  let ownKey := DatabaseKey.asExternal ⟨lsa.header.linkStateID, routerID⟩
  match database.lookup ownKey with
  | some own =>
    if lsa.header.lsType = .asExternalLSA ∧ ctx.equivalent = true then
      if lsa.header.advertisingRouter.toNat < routerID.toNat then (database, [])
      else
        let own := own.setLsAge maxAge
        let database := database.insert ownKey own.incrementInstallTime
        let (database, actions) := install database areaID lsa
        (database, .floodLSA (toOSPFLSA own) backboneAreaID none :: actions)
    else install database areaID lsa
  | none => install database areaID lsa

/-- The end of the branch for a newer LSA: an LSA of this router is flushed or originated again. -/
def refloodOwn (r : Router β) (isNew : Bool) (database : Database β) (areaID : AreaID)
    (lsa : OSPFLSA β) : Database β × List (Action β) :=
  let key := databaseKey lsa.header.lsType areaID lsa.header.lsaKey
  if lsa.header.advertisingRouter = r.routerID ∨
      lsa.header.lsType = .networkLSA ∧ lsa.header.linkStateID ∈ r.localAddresses then
    if isNew then (database, [.floodLSA (setLsAge lsa maxAge) areaID none])
    else
      match database.lookup key with
      | some lsaInDatabase =>
        let lsaInDatabase :=
          if lsa.header.lsSequenceNumber = maxSequenceNumber then lsaInDatabase.setLsAge maxAge
          else lsaInDatabase.setLsSequenceNumber (lsa.header.lsSequenceNumber + 1)
        (database.insert key lsaInDatabase, [.floodLSA (toOSPFLSA lsaInDatabase) areaID none])
      | none => (database, [])
  else (database, [])

/-- The branch of `LinkStateUpdateHandler::processPacket` for an LSA that is newer than the one in
the database, or that is not there. -/
def processNewer (r : Router β) (neighbor : NeighborPtr) (ctx : InstallContext) (areaID : AreaID)
    (lsa : OSPFLSA β) (lsaInDatabase : Option (LSA β)) : Database β × List (Action β) :=
  let (database, installed) := installLSA r.routerID ctx r.database areaID lsa
  let (database, reflooded) := refloodOwn r lsaInDatabase.isNone database areaID lsa
  (database, .floodLSA lsa areaID (some neighbor) ::
    ((lsaInDatabase.toList.map fun old =>
      .removeFromAllRetransmissionLists old.header.lsaKey none lsa.header) ++
      (installed ++ reflooded)))

/-- Whether the LSA is accepted as newer than the one in the database. -/
def accepts (r : Router β) (ctx : InstallContext) (lsa : OSPFLSA β) :
    Option (LSA β) → Bool
  | none => lsa.header.lsAge ≠ maxAge || hasAnyNeighborInExchangeOrLoading r.interfaces
  | some old => old.header.isOlder lsa.header &&
      !(ctx.flooded && decide (old.installTime < minLSArrival))

/-- The loop of `LinkStateUpdateHandler::processPacket`.  The state of the neighbour is checked
when the packet comes in, before its first LSA. -/
def processLSA (r : Router β) (neighbor : NeighborPtr) (ctx : InstallContext) (intf : Interface β)
    (n : Neighbor β) (lsa : OSPFLSA β) : Database β × List (Action β) :=
  let lsaKey := lsa.header.lsaKey
  let lsaInDatabase := r.database.lookup (databaseKey lsa.header.lsType intf.areaID lsaKey)
  if lsa.header.lsType = .asExternalLSA ∧ intf.externalRoutingCapability = false then
    (r.database, [])
  else if accepts r ctx lsa lsaInDatabase then
    processNewer r neighbor ctx intf.areaID lsa lsaInDatabase
  else
    match lsaInDatabase with
    | none => (r.database, [])
    | some old =>
      if old.header.isOlder lsa.header then (r.database, [])
      else if (n.findOnRequestList lsaKey).isSome then
        (r.database, [.reset neighbor .exchangeStart])
      else if old.header.isSameAge lsa.header && (n.findOnRetransmissionList lsaKey).isSome then
        (r.database, [.removeFromRetransmissionList neighbor lsa.header])
      else (r.database, [])

/-- The loop of `LinkStateAcknowledgementHandler::processPacket`. -/
def processAcknowledgement (neighbor : NeighborPtr) (n : Neighbor β) (lsaHeader : OSPFLSAHeader) :
    List (Action β) :=
  if n.state.value < NeighborStateType.exchange.value then []
  else
    match n.findOnRetransmissionList lsaHeader.lsaKey with
    | some lsaOnRetransmissionList =>
      if lsaHeader.isSameAge lsaOnRetransmissionList.header then
        [.removeFromRetransmissionList neighbor lsaHeader]
      else []
    | none => []

/-- The loops of `ageDatabase`. -/
def processAge (r : Router β) (key : DatabaseKey) (ctx : AgeContext β) :
    Database β × List (Action β) :=
  match r.database.lookup key with
  | none => (r.database, [])
  | some lsa =>
    let ctx := { ctx with
      onAnyRetransmissionList := isOnAnyRetransmissionList r.interfaces key.area lsa.header.lsaKey
      anyNeighborInExchangeOrLoading := hasAnyNeighborInExchangeOrLoading r.interfaces }
    match ageLSA key.kind r.routerID ctx lsa with
    | .kept lsa' flooded => (r.database.insert key lsa',
        if flooded then [.floodLSA (toOSPFLSA lsa') (key.area.getD backboneAreaID) none] else [])
    | .removed => (r.database.erase key, [])
    | .dangling => (r.database.erase key, [])

/-- The new database, and what happens to the lists. -/
def process (r : Router β) : Event β → Database β × List (Action β)
  | .originate areaID lsa =>
    (r.database.insert (databaseKey lsa.header.lsType areaID lsa.header.lsaKey) (toLSA lsa),
      [.floodLSA lsa areaID none])
  | .age key ctx => processAge r key ctx
  | .receive neighbor ctx lsa =>
    match r.interfaces[neighbor.1]?, neighborAt r.interfaces neighbor with
    | some intf, some n => processLSA r neighbor ctx intf n lsa
    | _, _ => (r.database, [])
  | .acknowledge neighbor lsaHeader =>
    (r.database, (neighborAt r.interfaces neighbor).elim [] fun n =>
      processAcknowledgement neighbor n lsaHeader)
  | .reset neighbor state => (r.database, [.reset neighbor state])
  | .changeState neighbor state => (r.database, [.changeState neighbor state])
  | .addToRequestList neighbor lsaHeader => (r.database, [.addToRequestList neighbor lsaHeader])

def step (r : Router β) (e : Event β) : Router β :=
  let (database, actions) := process r e
  { r with
    database := database
    interfaces := actions.foldl perform r.interfaces
    history := r.history ++ actions }

end Handlers

end Flooding

end OSPF

end Hiwis
