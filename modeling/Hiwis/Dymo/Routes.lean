import Hiwis.Ipv4.InterfaceEntry
import Hiwis.Lib.Trace

/-!
# DYMO routes

What the `xDYMO` modules of a network do to their routes: the routing messages that they create,
process and forward, the updates of the routes, broken links and route errors, and the expunge
timer.  A module is known by the router id of its node, its self address.  When a route discovery
starts or is tried again is left to the environment, as are the routes that are not the module's.
The only metric type is `HOP_COUNT`.
-/

namespace Hiwis

namespace Dymo

namespace Routes

open IPv4Address

/-- `LL_MANET_ROUTERS`. -/
def llManetRouters : IPv4Address := 0xE000006D

/-- `isLimitedBroadcastAddress`. -/
def isLimitedBroadcastAddress (addr : IPv4Address) : Bool := addr == allonesAddress

/-! ### Messages -/

/-- `AddressBlock`. -/
structure AddressBlock where
  address : IPv4Address
  validityTime : Option ℤ := none
  hasMetric : Bool := false
  metric : ℕ := 0
  hasSequenceNumber : Bool := false
  /-- `DYMOSequenceNumber`, 32 bits wide. -/
  sequenceNumber : ℕ := 0
  deriving DecidableEq

/-- `RteMsg`. -/
structure RteMsg where
  hopLimit : ℤ
  hopCount : ℤ := 0
  originatorNode : AddressBlock
  targetNode : AddressBlock
  addedNode : List AddressBlock := []
  deriving DecidableEq

/-- `DYMOPacket`. -/
inductive DYMOPacket
  | rreq (rteMsg : RteMsg)
  | rrep (rteMsg : RteMsg)
  | rerr (hopLimit : ℤ) (unreachableNode : List AddressBlock)
  deriving DecidableEq

/-- The routing information that the receiver of a packet uses. -/
def DYMOPacket.blocks : DYMOPacket → List AddressBlock
  | .rreq rteMsg => rteMsg.originatorNode :: rteMsg.addedNode
  | .rrep rteMsg => rteMsg.targetNode :: rteMsg.addedNode
  | .rerr .. => []

/-- A packet with the addresses of its `IPv4ControlInfo`. -/
structure UDPPacket where
  srcAddr : IPv4Address
  destAddr : IPv4Address
  encapsulatedPacket : DYMOPacket
  deriving DecidableEq

/-- The `IPv4ControlInfo` of a received packet. -/
structure IPv4ControlInfo where
  srcAddr : IPv4Address
  interfaceId : ℕ
  timeToLive : ℕ := 254
  deriving DecidableEq

/-! ### Routes -/

/-- `IPv4Route` with its `DYMORouteData`.  An `expirationTime` of `none` is the greatest time. -/
structure Route where
  destination : IPv4Address
  gateway : IPv4Address
  interfaceId : ℕ
  metric : ℕ
  sequenceNumber : ℕ
  broken : Bool := false
  lastUsed : ℤ
  expirationTime : Option ℤ := none
  deriving DecidableEq

/-- `DYMORouteState`. -/
inductive DYMORouteState
  | active
  | idle
  | expired
  | broken
  | timed
  deriving DecidableEq

/-- What `findBestMatchingRoute` finds: a route of the module, or another one. -/
inductive BestRoute
  | own (route : Route)
  | foreign (gateway : IPv4Address) (interfaceId : ℕ)
  deriving DecidableEq

def BestRoute.gateway : BestRoute → IPv4Address
  | .own route => route.gateway
  | .foreign gateway _ => gateway

def BestRoute.interfaceId : BestRoute → ℕ
  | .own route => route.interfaceId
  | .foreign _ interfaceId => interfaceId

/-- The routes of other sources that are the best match for an address. -/
abbrev ForeignRoutes : Type := IPv4Address → Option (IPv4Address × ℕ)

/-- The parameters of a module, and the addresses of its node. -/
structure Parameters where
  isLocalAddress : IPv4Address → Bool
  clientAddresses : List IPv4Address := []
  useMulticastRREP : Bool := false
  appendInformation : Bool := true
  activeInterval : ℤ := 5
  maxIdleTime : ℤ := 200
  maxSequenceNumberLifetime : ℤ := 300
  maxHopCount : ℤ := 20
  discoveryAttemptsMax : ℤ := 3
  minHopLimit : ℤ := 5
  maxHopLimit : ℤ := 10

inductive Fault
  /-- `createRREP` without a route. -/
  | nullRoute
  /-- `check_and_cast<DYMORouteData *>` of the data of another route. -/
  | notDYMORoute
  /-- A timer is scheduled to the past. -/
  | scheduledToThePast
  deriving DecidableEq

/-- The routes of an `xDYMO` module.  `expungeTimer` is the arrival time of the scheduled timer. -/
structure XDYMO where
  sequenceNumber : ℕ
  targetAddressToSequenceNumber : AList fun _ : IPv4Address => ℕ := ∅
  routes : List Route := []
  expungeTimer : Option ℤ := none

namespace XDYMO

variable (c : Parameters) (self : IPv4Address) (now : ℤ) (n : XDYMO)

def isClientAddress (address : IPv4Address) : Bool :=
  c.isLocalAddress address || c.clientAddresses.contains address

/-- `incrementSequenceNumber`. -/
def incrementSequenceNumber : XDYMO :=
  let sequenceNumber := (n.sequenceNumber + 1) % 2 ^ 32
  { n with sequenceNumber := if sequenceNumber = 0 then 1 else sequenceNumber }

/-- `findBestMatchingRoute`.  The routes of the module are host routes. -/
def findBestMatchingRoute (foreign : ForeignRoutes) (address : IPv4Address) : Option BestRoute :=
  match foreign address with
  | some (gateway, interfaceId) => some (.foreign gateway interfaceId)
  | none => (n.routes.find? fun r => r.destination = address).map .own

/-! ### The expunge timer -/

/-- `getRouteState`.  The differences are taken the wrong way round. -/
def getRouteState (route : Route) : DYMORouteState :=
  if route.broken then .broken
  else if route.lastUsed - now ≤ c.activeInterval then .active
  else
    match route.expirationTime with
    | some expirationTime => if expirationTime ≤ now then .expired else .timed
    | none => if route.lastUsed - now ≤ c.maxIdleTime then .idle else .expired

/-- The times at which the route can expire. -/
def expirationTimes (route : Route) : List ℤ :=
  route.expirationTime.toList ++ [route.lastUsed + c.maxSequenceNumberLifetime]

def getNextExpungeTime : Option ℤ := (n.routes.flatMap (expirationTimes c)).min?

def scheduleExpungeTimer : Except Fault XDYMO :=
  match n.getNextExpungeTime c with
  | none => pure { n with expungeTimer := none }
  | some nextExpungeTime =>
    if n.expungeTimer = some nextExpungeTime then pure n
    else if nextExpungeTime < now then throw .scheduledToThePast
    else pure { n with expungeTimer := some nextExpungeTime }

def isExpunged (route : Route) : Bool :=
  getRouteState c now route = .expired || c.maxSequenceNumberLifetime ≤ now - route.lastUsed ||
    route.expirationTime.any fun t => t ≤ now

def expungeRoutes : XDYMO := { n with routes := n.routes.filter fun r => !isExpunged c now r }

/-- A timer that expires is not scheduled any more. -/
def processExpungeTimer : Except Fault XDYMO :=
  ({ n with expungeTimer := none }.expungeRoutes c now).scheduleExpungeTimer c now

/-! ### Updates of routes -/

/-- The route as `updateRoute` leaves it. -/
def routeOf (control : IPv4ControlInfo) (addressBlock : AddressBlock) : Route where
  destination := addressBlock.address
  gateway := control.srcAddr
  interfaceId := control.interfaceId
  metric := addressBlock.metric
  sequenceNumber := addressBlock.sequenceNumber
  lastUsed := now
  expirationTime := addressBlock.validityTime.map fun t => now + t

/-- `updateRoute`, of a route that is not in the routing table at this time, and then `addRoute`. -/
def updateRoute (control : IPv4ControlInfo) (addressBlock : AddressBlock) :
    Except Fault XDYMO := do
  let n : XDYMO := { n with
    targetAddressToSequenceNumber := n.targetAddressToSequenceNumber.insert addressBlock.address
      addressBlock.sequenceNumber }
  let n ← n.scheduleExpungeTimer c now
  pure { n with routes := n.routes ++ [routeOf now control addressBlock] }

/-- `isLoopFree` is not implemented. -/
def isLoopFree : Bool := true

def offersImprovement (addressBlock : AddressBlock) (route : Route) : Bool :=
  route.sequenceNumber < addressBlock.sequenceNumber ||
    (addressBlock.sequenceNumber = route.sequenceNumber && addressBlock.metric < route.metric) ||
    (route.broken && isLoopFree)

def removeRoute (address : IPv4Address) : XDYMO :=
  { n with routes := n.routes.eraseP fun r => r.destination = address }

/-- `updateRoutes`. -/
def updateRoutes (control : IPv4ControlInfo) (addressBlock : AddressBlock) : Except Fault XDYMO :=
  if addressBlock.address = self then pure n
  else
    match n.routes.find? fun r => r.destination = addressBlock.address with
    | none => n.updateRoute c now control addressBlock
    | some route =>
      if offersImprovement addressBlock route then
        (n.removeRoute addressBlock.address).updateRoute c now control addressBlock
      else pure n

/-! ### Routing messages -/

/-- `permissibleRteMsg`.  An `RREQ` has to come with the data of its originator, an `RREP` with the
data of its target. -/
def permissibleRteMsg (timeToLive : ℕ) (rteMsg : RteMsg) (required : AddressBlock) : Bool :=
  let isRoutable (address : IPv4Address) :=
    !(address.isUnspecified || address.isMulticast || isLimitedBroadcastAddress address)
  timeToLive == 254 && rteMsg.hopLimit != 0 && rteMsg.hopCount < c.maxHopCount &&
    (required.hasMetric && required.hasSequenceNumber) &&
    (isRoutable rteMsg.originatorNode.address && isRoutable rteMsg.targetNode.address)

/-- `processRteMsg`, with the blocks that it hands to `updateRoutes`. -/
def processRteMsg (control : IPv4ControlInfo) (rteMsg : RteMsg) (blocks : List AddressBlock) :
    Except Fault (XDYMO × RteMsg) := do
  let n ← blocks.foldlM (fun n b => n.updateRoutes c self now control b) n
  pure (n, { rteMsg with hopLimit := rteMsg.hopLimit - 1, hopCount := rteMsg.hopCount + 1 })

/-- `addSelfNode`. -/
def addSelfNode (rteMsg : RteMsg) : RteMsg :=
  { rteMsg with addedNode := rteMsg.addedNode ++ [{
      address := self
      hasMetric := true
      metric := 0
      hasSequenceNumber := true
      sequenceNumber := n.sequenceNumber }] }

/-- The message as it is forwarded. -/
def forwarded (rteMsg : RteMsg) : RteMsg :=
  if c.appendInformation then n.addSelfNode self rteMsg else rteMsg

/-- `createRREQ`. -/
def createRREQ (target : IPv4Address) (retryCount : ℤ) : XDYMO × RteMsg :=
  let n := n.incrementSequenceNumber
  let known := n.targetAddressToSequenceNumber.lookup target
  let included := known.isSome ∧ retryCount < c.discoveryAttemptsMax - 1
  let rreq : RteMsg :=
    { hopLimit := c.minHopLimit +
        ((c.maxHopLimit - c.minHopLimit) * retryCount).tdiv c.discoveryAttemptsMax
      targetNode :=
        { address := target
          hasSequenceNumber := included
          sequenceNumber := if included then known.getD 0 else 0 }
      originatorNode :=
        { address := self
          hasMetric := true
          metric := 0
          hasSequenceNumber := true
          sequenceNumber := n.sequenceNumber } }
  (n, rreq)

def sendRREQ (rreq : RteMsg) : UDPPacket := ⟨self, llManetRouters, .rreq rreq⟩

/-- `createRREP`.  The metric of the target is that of the route to the originator. -/
def createRREP (rteMsg : RteMsg) (route : Option BestRoute) : Except Fault (XDYMO × RteMsg) :=
  match route with
  | none => throw .nullRoute
  | some (.foreign ..) => throw .notDYMORoute
  | some (.own route) =>
    let n := n.incrementSequenceNumber
    pure (n,
      { hopLimit := rteMsg.hopCount
        originatorNode := { rteMsg.originatorNode with hasSequenceNumber := true }
        targetNode := { rteMsg.targetNode with
          hasSequenceNumber := true
          sequenceNumber := n.sequenceNumber
          hasMetric := true
          metric := route.metric } })

/-- `sendRREP`, to all neighbours or along a route. -/
def sendRREP (rrep : RteMsg) (route : Option BestRoute) : UDPPacket :=
  ⟨self, (route.map BestRoute.gateway).getD llManetRouters, .rrep rrep⟩

/-- `processRREQ`. -/
def processRREQ (foreign : ForeignRoutes) (control : IPv4ControlInfo) (rreqIncoming : RteMsg) :
    Except Fault (XDYMO × List UDPPacket) :=
  if permissibleRteMsg c control.timeToLive rreqIncoming rreqIncoming.originatorNode then do
    let (n, rreqIncoming) ← n.processRteMsg c self now control rreqIncoming
      (DYMOPacket.rreq rreqIncoming).blocks
    if isClientAddress c rreqIncoming.targetNode.address then
      let route :=
        if c.useMulticastRREP then none
        else n.findBestMatchingRoute foreign rreqIncoming.originatorNode.address
      let (n, rrep) ← n.createRREP rreqIncoming route
      pure (n, [sendRREP self rrep route])
    else pure (n, [sendRREQ self (n.forwarded c self rreqIncoming)])
  else pure (n, [])

/-- `processRREP`.  The discovery that it answers is left out. -/
def processRREP (foreign : ForeignRoutes) (control : IPv4ControlInfo) (rrepIncoming : RteMsg) :
    Except Fault (XDYMO × List UDPPacket) :=
  if permissibleRteMsg c control.timeToLive rrepIncoming rrepIncoming.targetNode then do
    let (n, rrepIncoming) ← n.processRteMsg c self now control rrepIncoming
      (DYMOPacket.rrep rrepIncoming).blocks
    let originator := rrepIncoming.originatorNode.address
    if isClientAddress c originator then pure (n, [])
    else
      let rrepOutgoing := n.forwarded c self rrepIncoming
      if c.useMulticastRREP then pure (n, [sendRREP self rrepOutgoing none])
      else
        match n.findBestMatchingRoute foreign originator with
        | some route => pure (n, [sendRREP self rrepOutgoing (some route)])
        | none => pure (n, [])
  else pure (n, [])

/-! ### Route errors -/

/-- `createRERR`, with the hop limit that is set afterwards. -/
def createRERR (hopLimit : ℤ) (unreachableAddresses : List IPv4Address) : DYMOPacket :=
  .rerr hopLimit (unreachableAddresses.map fun address =>
    let known := n.targetAddressToSequenceNumber.lookup address
    { address := address
      hasSequenceNumber := known.isSome
      sequenceNumber := known.getD 0 })

def sendRERR (rerr : DYMOPacket) : UDPPacket := ⟨self, llManetRouters, rerr⟩

/-- Some of the routes become broken; their destinations are reported. -/
def markBroken (marked : Route → Bool) : XDYMO × List IPv4Address :=
  ({ n with routes := n.routes.map fun r => if marked r then { r with broken := true } else r },
    (n.routes.filter marked).map Route.destination)

/-- `sendRERRForBrokenLink`. -/
def sendRERRForBrokenLink (interfaceId : ℕ) (nextHop : IPv4Address) : XDYMO × List UDPPacket :=
  let (n, unreachableAddresses) := n.markBroken fun r =>
    getRouteState c now r ≠ .broken && r.interfaceId = interfaceId && r.gateway = nextHop
  if unreachableAddresses = [] then (n, [])
  else (n, [sendRERR self (n.createRERR c.maxHopLimit unreachableAddresses)])

/-- `receiveChangeNotification` of a broken link: `destination` is that of the lost datagram. -/
def linkBreak (foreign : ForeignRoutes) (destination : IPv4Address) : XDYMO × List UDPPacket :=
  match n.findBestMatchingRoute foreign destination with
  | some route => n.sendRERRForBrokenLink c self now route.interfaceId route.gateway
  | none => (n, [])

/-- The route leads to the unreachable node over the sender of the `RERR`. -/
def isUnreachable (control : IPv4ControlInfo) (addressBlock : AddressBlock) (route : Route) :
    Bool :=
  let unreachableAddress := addressBlock.address
  !unreachableAddress.isMulticast && !isLimitedBroadcastAddress unreachableAddress &&
    unreachableAddress = route.destination && route.gateway = control.srcAddr &&
    route.interfaceId = control.interfaceId &&
    (!addressBlock.hasSequenceNumber || route.sequenceNumber ≤ addressBlock.sequenceNumber)

/-- `processRERR`. -/
def processRERR (control : IPv4ControlInfo) (hopLimit : ℤ) (unreachableNode : List AddressBlock) :
    XDYMO × List UDPPacket :=
  if hopLimit = 0 ∨ unreachableNode = [] then (n, [])
  else
    let (n, unreachableAddresses) :=
      unreachableNode.foldl (fun (acc : XDYMO × List IPv4Address) b =>
        let (n, addresses) := acc.1.markBroken (isUnreachable control b)
        (n, acc.2 ++ addresses)) (n, [])
    if unreachableAddresses = [] then (n, [])
    else (n, [sendRERR self (n.createRERR (hopLimit - 1) unreachableAddresses)])

/-- `processDYMOPacket`. -/
def processDYMOPacket (foreign : ForeignRoutes) (control : IPv4ControlInfo) :
    DYMOPacket → Except Fault (XDYMO × List UDPPacket)
  | .rreq rreq => n.processRREQ c self now foreign control rreq
  | .rrep rrep => n.processRREP c self now foreign control rrep
  | .rerr hopLimit unreachableNode => pure (n.processRERR self control hopLimit unreachableNode)

/-- `ensureRouteForDatagram`, as far as it concerns the routes: a route of the module that is used
is marked so. -/
def ensureRouteForDatagram (foreign : ForeignRoutes) (destination : IPv4Address) : XDYMO :=
  if destination.isMulticast || isLimitedBroadcastAddress destination ||
      c.isLocalAddress destination then n
  else
    match n.findBestMatchingRoute foreign destination with
    | some (.own route) =>
      if !route.gateway.isUnspecified && !route.broken then
        { n with
          routes := n.routes.map fun r => if r = route then { r with lastUsed := now } else r }
      else n
    | _ => n

end XDYMO

/-! ### The network -/

/-- The modules by their self addresses, the packets that were sent so far, and the time.  A packet
that was sent can be received at any later time, by several modules and several times. -/
structure Network where
  modules : IPv4Address → XDYMO
  sent : List UDPPacket := []
  now : ℤ := 0

/-- What happens in the network. -/
inductive Event
  | elapse (time : ℕ)
  /-- `startRouteDiscovery` or `retryRouteDiscovery`. -/
  | discover (self : IPv4Address) (target : IPv4Address) (retryCount : ℤ)
  /-- The packet with the index arrives over the interface. -/
  | receive (self : IPv4Address) (foreign : ForeignRoutes) (packet : ℕ) (interfaceId : ℕ)
      (timeToLive : ℕ)
  | linkBreak (self : IPv4Address) (foreign : ForeignRoutes) (destination : IPv4Address)
  | datagram (self : IPv4Address) (foreign : ForeignRoutes) (destination : IPv4Address)
  | expungeTimer (self : IPv4Address)

namespace Network

variable (c : IPv4Address → Parameters) (s : Network)

/-- The module of a node changes and sends packets. -/
def set (self : IPv4Address) (r : XDYMO × List UDPPacket) : Network :=
  { s with modules := Function.update s.modules self r.1, sent := s.sent ++ r.2 }

/-- A packet reaches the nodes that it is addressed to, but never its sender. -/
def arrives (self : IPv4Address) (packet : UDPPacket) : Bool :=
  packet.srcAddr ≠ self &&
    (packet.destAddr = llManetRouters || packet.destAddr = self ||
      (c self).isLocalAddress packet.destAddr)

def step : Event → Except Fault Network
  | .elapse time => pure { s with now := s.now + time }
  | .discover self target retryCount =>
    let (n, rreq) := (s.modules self).createRREQ (c self) self target retryCount
    pure (s.set self (n, [XDYMO.sendRREQ self rreq]))
  | .receive self foreign packet interfaceId timeToLive =>
    match s.sent[packet]? with
    | none => pure s
    | some p =>
      if arrives c self p then do
        let r ← (s.modules self).processDYMOPacket (c self) self s.now foreign
          ⟨p.srcAddr, interfaceId, timeToLive⟩ p.encapsulatedPacket
        pure (s.set self r)
      else pure s
  | .linkBreak self foreign destination =>
    pure (s.set self ((s.modules self).linkBreak (c self) self s.now foreign destination))
  | .datagram self foreign destination =>
    let n := (s.modules self).ensureRouteForDatagram (c self) s.now foreign destination
    pure (s.set self (n, []))
  | .expungeTimer self =>
    if (s.modules self).expungeTimer = some s.now then do
      let n ← (s.modules self).processExpungeTimer (c self) s.now
      pure (s.set self (n, []))
    else pure s

end Network

end Routes

end Dymo

end Hiwis
