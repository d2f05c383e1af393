import Hiwis.Ipv4.RoutingTable

/-!
# The RIP module

`RIPRouting` keeps a table of RIP routes beside the IPv4 routing table of its node.  A RIP route may
point to an IPv4 route: to one that the module has imported, or to one that it has added itself for
a destination learnt from a neighbour.  The IPv4 routing table tells the module about every change,
also about those that the module itself causes.

A RIP route is named by its index here, an IPv4 route by its identity.  The timers of the module are
left to the environment: an update, a route timeout or the start may come at any time.  A module
that is not running has no routes and no interfaces, so a packet that it receives changes nothing.
-/

namespace Hiwis

open IPv4Address

namespace IPv4Address

/-- `ALL_RIP_ROUTERS_MCAST`. -/
def allRipRoutersMcast : IPv4Address := 0xE0000009

/-- `isUnicast`. -/
def isUnicast (addr : IPv4Address) : Bool := !isMulticast addr && addr != allonesAddress

end IPv4Address

/-- `RIP_INFINITE_METRIC`. -/
def ripInfiniteMetric : ℤ := 16

/-- `RIPRoute::RouteType`. -/
inductive RouteType
  | rte | static | default | redistribute | iface
  deriving DecidableEq

/-- What `getSource` of an IPv4 route returns. -/
inductive RouteSource
  | null
  /-- This RIP module. -/
  | rip
  | iface (ie : ℕ)
  deriving DecidableEq

/-- `RIPRoute`. -/
structure RIPRoute where
  type : RouteType
  /-- The IPv4 route; `none` stands for `NULL`. -/
  route : Option ℕ
  dest : IPv4Address
  prefixLength : ℤ
  nextHop : IPv4Address
  ie : Option ℕ
  fromAddr : IPv4Address := unspecifiedAddress
  metric : ℤ
  tag : UInt16
  changed : Bool := false
  lastUpdateTime : ℤ := 0
  deriving DecidableEq

/-- The constructor of `RIPRoute`. -/
def RIPRoute.ofRoute (route : IPv4Route) (type : RouteType) (metric : ℤ) (routeTag : UInt16) :
    RIPRoute where
  type
  route := some route.id
  dest := route.dest
  prefixLength := route.netmask.getNetmaskLength
  nextHop := route.gateway
  ie := route.interfacePtr
  metric
  tag := routeTag

/-- `invalidateRoute` of a RIP route whose pointer is `NULL`. -/
def RIPRoute.invalid (r : RIPRoute) : RIPRoute :=
  { r with route := none, metric := ripInfiniteMetric, changed := true }

/-- `RIPMode`. -/
inductive RIPMode
  | noRip | noSplitHorizon | splitHorizon | splitHorizonPoisonedReverse
  deriving DecidableEq

/-- What stops the module. -/
inductive RIPFault
  /-- A failed `ASSERT`. -/
  | assertion
  /-- `RIP: invalid metric in <interface> element at %s: %s`. -/
  | invalidMetric (metric : ℤ)
  /-- `RIP: invalid split-horizon-mode attribute in <interface> element at %s: %s`. -/
  | invalidMode (mode : String)
  /-- `RIP: invalid request.` -/
  | invalidRequest
  /-- `RIP: request has invalid addressFamilyId: %d.` -/
  | invalidAddressFamily (addressFamilyId : ℕ)
  /-- `RIP: unknown command (%d)`. -/
  | unknownCommand (command : ℕ)
  /-- `IPv4Address: wrong netmask length %d (not in 0..32)`. -/
  | wrongNetmaskLength (length : ℤ)
  /-- The IPv4 routing table stops. -/
  | routing (fault : RoutingFault)
  /-- A packet has no entry with this index, or its array cannot have this size. -/
  | entryArray (maxEntries : ℤ)
  /-- A field of an IPv4 route that does not exist any more is set. -/
  | danglingRoute
  /-- An iterator has passed the end of the vector. -/
  | invalidIterator
  deriving DecidableEq

/-- The attributes of an `<interface>` element of the configuration. -/
structure InterfaceElement where
  metric : Option ℤ
  mode : Option String
  deriving DecidableEq

/-- `RIPInterfaceEntry`. -/
structure RIPInterfaceEntry where
  ie : ℕ
  metric : ℤ
  mode : RIPMode
  one_le_metric : 1 ≤ metric
  metric_lt : metric < ripInfiniteMetric
  deriving DecidableEq

namespace RIPInterfaceEntry

/-- The `mode` attribute. -/
def parseMode : Option String → Except RIPFault RIPMode
  | none => .ok .splitHorizonPoisonedReverse
  | some "NoRIP" => .ok .noRip
  | some "NoSplitHorizon" => .ok .noSplitHorizon
  | some "SplitHorizon" => .ok .splitHorizon
  | some "SplitHorizonPoisonedReverse" => .ok .splitHorizonPoisonedReverse
  | some mode => .error (.invalidMode mode)

/-- The constructor and `configure`. -/
def configure (ie : ℕ) : Option InterfaceElement → Except RIPFault RIPInterfaceEntry
  | none => .ok ⟨ie, 1, .noRip, by decide, by decide⟩
  | some config => do
    let metric := config.metric.getD 1
    if h : 1 ≤ metric ∧ metric < ripInfiniteMetric then do
      let mode ← parseMode config.mode
      pure ⟨ie, metric, mode, h.1, h.2⟩
    else .error (.invalidMetric metric)

end RIPInterfaceEntry

/-- The `mode` parameter of the module. -/
inductive RIPProtocol
  | ripV2 | ripNg
  deriving DecidableEq

/-- The parameters of the module, and what it reads of the interfaces of its node. -/
structure RIPConfig where
  isLoopback : ℕ → Bool := fun _ => false
  isMulticast : ℕ → Bool := fun _ => true
  mtu : ℕ → ℤ := fun _ => 1500
  /-- The `<interface>` element that the matcher finds for an interface. -/
  interfaceElement : ℕ → Option InterfaceElement
  mode : RIPProtocol := .ripV2
  ripUdpPort : ℕ := 520
  routeExpiryTime : ℤ := 180
  routePurgeTime : ℤ := 120

/-- `RIPEntry`. -/
structure RIPEntry where
  addressFamilyId : ℕ
  routeTag : UInt16 := 0
  address : IPv4Address := unspecifiedAddress
  prefixLength : ℤ := 0
  nextHop : IPv4Address := unspecifiedAddress
  metric : ℕ
  deriving DecidableEq

/-- `RIP_AF_NONE`. -/
def ripAfNone : ℕ := 0

/-- `RIP_AF_INET`. -/
def ripAfInet : ℕ := 2

/-- `RIP_REQUEST`. -/
def ripRequest : ℕ := 1

/-- `RIP_RESPONSE`. -/
def ripResponse : ℕ := 2

/-- `RIPPacket`. -/
structure RIPPacket where
  command : ℕ
  entries : List RIPEntry
  deriving DecidableEq

/-- A packet handed to `sendPacket`; the interface is the one of a multicast destination. -/
structure SentPacket where
  packet : RIPPacket
  destAddr : IPv4Address
  destPort : ℕ
  destInterface : Option ℕ
  deriving DecidableEq

/-- `UDPDataIndication`. -/
structure UDPDataIndication where
  srcAddr : IPv4Address
  srcPort : ℕ
  interfaceId : ℕ
  deriving DecidableEq

/-- What the routing table and the interface table say about an address when a packet is
received. -/
structure AddressView where
  isLocalAddress : IPv4Address → Bool
  isNeighborAddress : IPv4Address → Bool

/-- The module, with the IPv4 routing table of its node. -/
structure RIPRouting where
  rt : RoutingTable
  /-- The source of each IPv4 route. -/
  source : ℕ → RouteSource
  /-- No IPv4 route has this identity or a greater one yet. -/
  nextId : ℕ
  ripInterfaces : List RIPInterfaceEntry
  ripRoutes : List RIPRoute
  /-- The module is subscribed to the notifications. -/
  subscribed : Bool
  simTime : ℤ

namespace RIPRouting

/-- A module that has not been started, in a node without routes. -/
def init : RIPRouting := ⟨.empty, fun _ => .null, 0, [], [], false, 0⟩

/-! ### Lookups -/

section

variable (s : RIPRouting)

/-- `findInterfaceById`. -/
def findInterfaceById (interfaceId : ℕ) : Option RIPInterfaceEntry :=
  s.ripInterfaces.find? (·.ie == interfaceId)

/-- `getInterfaceMetric`. -/
def getInterfaceMetric (ie : ℕ) : ℤ :=
  match s.findInterfaceById ie with
  | some ripIe => ripIe.metric
  | none => 1

/-- `findRoute` of a destination. -/
def findRoute (destination : IPv4Address) (prefixLength : ℤ) : Option ℕ :=
  s.ripRoutes.findIdx? fun r => r.dest == destination && r.prefixLength == prefixLength

/-- `findRoute` of an IPv4 route. -/
def findRouteOf (route : ℕ) : Option ℕ := s.ripRoutes.findIdx? (·.route == some route)

/-- `findRoute` of an interface and a type. -/
def findRouteVia (ie : ℕ) (type : RouteType) : Option ℕ :=
  s.ripRoutes.findIdx? fun r => r.type == type && r.ie == some ie

end

/-- `isLoopbackInterfaceRoute`. -/
def isLoopbackInterfaceRoute (cfg : RIPConfig) (route : IPv4Route) : Bool :=
  route.interfacePtr.any cfg.isLoopback

/-- `isLocalInterfaceRoute`, with the interface that is the source of the route. -/
def localInterface (cfg : RIPConfig) (s : RIPRouting) (route : IPv4Route) : Option ℕ :=
  match s.source route.id with
  | .iface ie => if cfg.isLoopback ie then none else some ie
  | _ => none

/-- `isDefaultRoute`. -/
def isDefaultRoute (route : IPv4Route) : Bool := route.netmask == unspecifiedAddress

/-! ### The IPv4 routing table -/

/-- Change a RIP route. -/
def modifyRoute (s : RIPRouting) (k : ℕ) (f : RIPRoute → RIPRoute) : RIPRouting :=
  { s with ripRoutes := s.ripRoutes.modify k f }

/-- `receiveChangeNotification` of `NF_IPv4_ROUTE_DELETED`. -/
def routeDeleted (s : RIPRouting) (route : ℕ) : RIPRouting :=
  if s.source route = .rip then s
  else
    { s with
      ripRoutes := s.ripRoutes.map fun r => if r.route = some route then r.invalid else r }

/-- The IPv4 routing table becomes `rt`, and reports the routes that are not in it any more. -/
def tableChanged (s : RIPRouting) (rt : RoutingTable) : RIPRouting :=
  ((s.rt.routes.map (·.id)).filter fun i => !rt.routes.any (·.id == i)).foldl routeDeleted
    { s with rt }

/-- `deleteRoute`. -/
def deleteRoute (s : RIPRouting) (route : ℕ) : RIPRouting := s.tableChanged (s.rt.removeRoute route)

/-- `IPv4Address::makeNetmask`. -/
def makeNetmask (length : ℤ) : Except RIPFault IPv4Address :=
  if length < 0 ∨ 32 < length then .error (.wrongNetmaskLength length)
  else .ok (IPv4Address.makeNetmask length.toNat)

section

variable (s : RIPRouting)

/-- The identity of a new IPv4 route is taken. -/
def newRoute (source : RouteSource) : RIPRouting :=
  { s with nextId := s.nextId + 1, source := Function.update s.source s.nextId source }

/-- `addRoute` of an IPv4 route, which is returned. -/
def addIPv4Route (dest : IPv4Address) (prefixLength : ℤ) (ie : ℕ) (nextHop : IPv4Address)
    (metric : ℤ) : Except RIPFault (ℕ × RIPRouting) := do
  let netmask ← makeNetmask prefixLength
  let route : IPv4Route :=
    { id := s.nextId, sourceType := .rip, dest, netmask, interfacePtr := some ie, gateway := nextHop
      metric }
  let rt ← (s.rt.addRoute s.simTime route).mapError .routing
  pure (s.nextId, (s.newRoute .rip).tableChanged rt)

/-- A setter of a RIP route: `f` changes its field, and `g` the one of the IPv4 route that a learnt
route points to. -/
def setField (k : ℕ) (f : RIPRoute → RIPRoute)
    (g : RoutingTable → ℕ → Except RoutingFault RoutingTable) : Except RIPFault RIPRouting :=
  match s.ripRoutes[k]? with
  | none => .ok s
  | some r =>
    match r.route with
    | some route =>
      if r.type = .rte then
        -- the route is the module's own: the notification of the change is ignored
        if s.rt.routes.any (·.id == route) then do
          let rt ← (g s.rt route).mapError .routing
          pure ((s.modifyRoute k f).tableChanged rt)
        else .error .danglingRoute
      else .ok (s.modifyRoute k f)
    | none => .ok (s.modifyRoute k f)

/-- `RIPRoute::setNextHop`. -/
def setNextHop (k : ℕ) (nextHop : IPv4Address) : Except RIPFault RIPRouting :=
  s.setField k (fun r => { r with nextHop }) fun rt i => rt.setGateway s.simTime i nextHop

/-- `RIPRoute::setInterface`. -/
def setInterface (k : ℕ) (ie : ℕ) : Except RIPFault RIPRouting :=
  s.setField k (fun r => { r with ie := some ie }) fun rt i => rt.setInterface s.simTime i (some ie)

/-- `RIPRoute::setMetric`. -/
def setMetric (k : ℕ) (metric : ℤ) : Except RIPFault RIPRouting :=
  s.setField k (fun r => { r with metric }) fun rt i => rt.setMetric s.simTime i metric

end

/-! ### Invalid routes -/

section

variable (s : RIPRouting)

/-- `setRoute(NULL)` and `deleteRoute`, when the RIP route points to an IPv4 route. -/
def dropRoute (k : ℕ) : RIPRouting :=
  match s.ripRoutes[k]? with
  | none => s
  | some r =>
    match r.route with
    | some route => (s.modifyRoute k fun r => { r with route := none }).deleteRoute route
    | none => s

/-- `invalidateRoute`. -/
def invalidateRoute (k : ℕ) : RIPRouting := (s.dropRoute k).modifyRoute k RIPRoute.invalid

/-- `invalidateRoute` of every RIP route with a property. -/
def invalidateWhere (p : RIPRoute → Bool) : RIPRouting :=
  (List.range s.ripRoutes.length).foldl
    (fun s k => if s.ripRoutes[k]?.any p then s.invalidateRoute k else s) s

/-- `invalidateRoutes`. -/
def invalidateRoutes (ie : ℕ) : RIPRouting := s.invalidateWhere fun r => r.ie == some ie

/-- `purgeRoute`. -/
def purgeRoute (k : ℕ) : Except RIPFault RIPRouting :=
  if s.ripRoutes[k]?.all (·.type == .rte) then
    let s := s.dropRoute k
    .ok { s with ripRoutes := s.ripRoutes.eraseIdx k }
  else .error .assertion

end

/-- `checkRouteIsExpired`: whether the RIP route is returned. -/
def checkRouteIsExpired (cfg : RIPConfig) (s : RIPRouting) (k : ℕ) :
    Except RIPFault (Bool × RIPRouting) :=
  match s.ripRoutes[k]? with
  | none => .ok (false, s)
  | some r =>
    if r.type = .rte then
      if r.lastUpdateTime + cfg.routeExpiryTime + cfg.routePurgeTime ≤ s.simTime then do
        let s ← s.purgeRoute k
        pure (false, s)
      else if r.lastUpdateTime + cfg.routeExpiryTime ≤ s.simTime then
        .ok (false, s.invalidateRoute k)
      else .ok (true, s)
    else .ok (true, s)

/-! ### Sending -/

/-- `maxEntries`. -/
def maxEntries (cfg : RIPConfig) (ie : ℕ) : ℤ :=
  match cfg.mode with
  | .ripV2 => 25
  | .ripNg => (cfg.mtu ie - 40 - 8 - 4).tdiv 20

/-- The metric that is sent for a RIP route on an interface; `none` when the route is omitted. -/
def sentMetric (ripInterface : RIPInterfaceEntry) (r : RIPRoute) : Option ℤ :=
  if r.ie = some ripInterface.ie then
    match ripInterface.mode with
    | .splitHorizon => none
    | .splitHorizonPoisonedReverse => some ripInfiniteMetric
    | _ => some r.metric
  else some r.metric

/-- The entry for a RIP route. -/
def entryOf (r : RIPRoute) (metric : ℤ) : RIPEntry where
  addressFamilyId := ripAfInet
  routeTag := r.tag
  address := r.dest
  prefixLength := r.prefixLength
  metric := metric.toNat

/-- The entry that `sendRoutes` makes for the RIP route at an index, if any. -/
def entryAt (s : RIPRouting) (ripInterface : RIPInterfaceEntry) (changedOnly : Bool) (k : ℕ) :
    Option RIPEntry :=
  match s.ripRoutes[k]? with
  | none => none
  | some r =>
    if changedOnly && !r.changed then none
    else (sentMetric ripInterface r).map (entryOf r)

/-- The loop of `sendRoutes` from the iterator `it` on, with the packets that are sent already and
the entries of the one being filled. -/
def sendLoop (cfg : RIPConfig) (ripInterface : RIPInterfaceEntry) (changedOnly : Bool) :
    ℕ → ℕ → RIPRouting → List (List RIPEntry) → List RIPEntry →
      Except RIPFault (RIPRouting × List (List RIPEntry))
  | 0, it, s, packets, entries =>
    if it = s.ripRoutes.length then
      .ok (s, if entries = [] then packets else packets ++ [entries])
    else .error .invalidIterator
  | rounds + 1, it, s, packets, entries =>
    if it = s.ripRoutes.length then
      .ok (s, if entries = [] then packets else packets ++ [entries])
    -- the end has moved in front of the iterator
    else if s.ripRoutes.length < it then .error .invalidIterator
    else do
      let (valid, s) ← s.checkRouteIsExpired cfg it
      if valid then
        match s.entryAt ripInterface changedOnly it with
        | none => sendLoop cfg ripInterface changedOnly rounds (it + 1) s packets entries
        | some entry =>
          let entries := entries ++ [entry]
          if maxEntries cfg ripInterface.ie < entries.length then
            .error (.entryArray (maxEntries cfg ripInterface.ie))
          else if maxEntries cfg ripInterface.ie = entries.length then
            sendLoop cfg ripInterface changedOnly rounds (it + 1) s (packets ++ [entries]) []
          else sendLoop cfg ripInterface changedOnly rounds (it + 1) s packets entries
      else sendLoop cfg ripInterface changedOnly rounds (it + 1) s packets entries

/-- `sendPacket` of a response. -/
def sendPacket (address : IPv4Address) (port : ℕ) (ie : ℕ) (entries : List RIPEntry) :
    SentPacket where
  packet := ⟨ripResponse, entries⟩
  destAddr := address
  destPort := port
  destInterface := if isMulticast address then some ie else none

/-- `sendRoutes`. -/
def sendRoutes (cfg : RIPConfig) (s : RIPRouting) (address : IPv4Address) (port : ℕ)
    (ripInterface : RIPInterfaceEntry) (changedOnly : Bool) :
    Except RIPFault (RIPRouting × List SentPacket) :=
  if maxEntries cfg ripInterface.ie < 0 then .error (.entryArray (maxEntries cfg ripInterface.ie))
  else do
    let (s, packets) ← sendLoop cfg ripInterface changedOnly s.ripRoutes.length 0 s [] []
    pure (s, packets.map (sendPacket address port ripInterface.ie))

/-- `sendRoutes` to all RIP routers, on each interface of the list. -/
def sendRoutesOn (cfg : RIPConfig) (changedOnly : Bool) :
    List RIPInterfaceEntry → RIPRouting → Except RIPFault (RIPRouting × List SentPacket)
  | [], s => .ok (s, [])
  | ripInterface :: rest, s => do
    let (s, sent) ← s.sendRoutes cfg allRipRoutersMcast cfg.ripUdpPort ripInterface changedOnly
    let (s, sent') ← sendRoutesOn cfg changedOnly rest s
    pure (s, sent ++ sent')

/-- The interfaces on which RIP messages are sent. -/
def activeInterfaces (s : RIPRouting) : List RIPInterfaceEntry :=
  s.ripInterfaces.filter fun ripInterface => ripInterface.mode != .noRip

/-- `processUpdate`. -/
def processUpdate (cfg : RIPConfig) (s : RIPRouting) (triggered : Bool) :
    Except RIPFault (RIPRouting × List SentPacket) := do
  let (s, sent) ← sendRoutesOn cfg triggered s.activeInterfaces s
  pure ({ s with ripRoutes := s.ripRoutes.map fun r => { r with changed := false } }, sent)

/-- `sendRIPRequest`. -/
def sendRIPRequest (cfg : RIPConfig) (ripInterface : RIPInterfaceEntry) : SentPacket where
  packet := ⟨ripRequest, [{ addressFamilyId := ripAfNone, metric := ripInfiniteMetric.toNat }]⟩
  destAddr := allRipRoutersMcast
  destPort := cfg.ripUdpPort
  destInterface := some ripInterface.ie

/-! ### Receiving -/

/-- An entry of a request with the metric of the route to its destination. -/
def answer (s : RIPRouting) (entry : RIPEntry) : RIPEntry :=
  { entry with
    metric :=
      match (s.findRoute entry.address entry.prefixLength).bind fun k => s.ripRoutes[k]? with
      | some r => r.metric.toNat
      | none => ripInfiniteMetric.toNat }

/-- The entries of a request from some index on: they are filled in, or they ask for the whole
table. -/
def answers (s : RIPRouting) (numEntries : ℕ) :
    List RIPEntry → Except RIPFault (Option (List RIPEntry))
  | [] => .ok (some [])
  | entry :: rest =>
    if entry.addressFamilyId = ripAfNone then
      if numEntries = 1 ∧ (entry.metric : ℤ) = ripInfiniteMetric then .ok none
      else .error .invalidRequest
    else if entry.addressFamilyId = ripAfInet then do
      let filled ← answers s numEntries rest
      pure (filled.map (s.answer entry :: ·))
    else .error (.invalidAddressFamily entry.addressFamilyId)

/-- `processRequest`. -/
def processRequest (cfg : RIPConfig) (s : RIPRouting) (ind : UDPDataIndication)
    (entries : List RIPEntry) : Except RIPFault (RIPRouting × List SentPacket) :=
  if entries = [] then .ok (s, [])
  else do
    match ← s.answers entries.length entries with
    | some filled =>
      pure (s, [⟨⟨ripResponse, filled⟩, ind.srcAddr, ind.srcPort, none⟩])
    | none =>
      match s.findInterfaceById ind.interfaceId with
      | some ripInterface => s.sendRoutes cfg ind.srcAddr ind.srcPort ripInterface false
      | none => pure (s, [])

/-- An entry passes the checks of `isValidResponse`; those on the length of the prefix are made for
RIPng only, which accepts no response at all. -/
def isValidEntry (entry : RIPEntry) : Bool :=
  decide (1 ≤ entry.metric ∧ (entry.metric : ℤ) ≤ ripInfiniteMetric) && isUnicast entry.address

/-- `isValidResponse`. -/
def isValidResponse (cfg : RIPConfig) (view : AddressView) (ind : UDPDataIndication)
    (entries : List RIPEntry) : Bool :=
  ind.srcPort == cfg.ripUdpPort && !view.isLocalAddress ind.srcAddr && cfg.mode == .ripV2 &&
    view.isNeighborAddress ind.srcAddr && entries.all isValidEntry

/-- `addRoute` of a destination that a neighbour has announced. -/
def addRoute (s : RIPRouting) (dest : IPv4Address) (prefixLength : ℤ) (ie : ℕ)
    (nextHop : IPv4Address) (metric : ℤ) (routeTag : UInt16) (fromAddr : IPv4Address) :
    Except RIPFault RIPRouting := do
  let (route, s) ← s.addIPv4Route dest prefixLength ie nextHop metric
  let ripRoute : RIPRoute :=
    { type := .rte, route := some route, dest
      -- as the constructor reads it back from the netmask
      prefixLength := (IPv4Address.makeNetmask prefixLength.toNat).getNetmaskLength
      nextHop, ie := some ie, fromAddr, metric, tag := routeTag, changed := true
      lastUpdateTime := s.simTime }
  pure { s with ripRoutes := s.ripRoutes ++ [ripRoute] }

section

variable (s : RIPRouting) (k : ℕ) (r : RIPRoute) (ie : ℕ) (nextHop : IPv4Address) (metric : ℤ)

/-- `updateRoute` of an invalid route for which there is a finite metric now. -/
def reviveRoute : Except RIPFault RIPRouting :=
  if s.ripRoutes[k]?.any (·.route.isSome) then .error .assertion
  else do
    let s := s.modifyRoute k fun r => { r with type := .rte }
    let s ← s.setNextHop k nextHop
    let (route, s) ← s.addIPv4Route r.dest r.prefixLength ie nextHop metric
    pure (s.modifyRoute k fun r => { r with route := some route })

/-- `updateRoute` of a valid route: its IPv4 route is replaced, or deleted. -/
def replaceRoute : Except RIPFault RIPRouting :=
  if s.ripRoutes[k]?.any (·.route.isNone) then .error .assertion
  else do
    let s ← (s.dropRoute k).setNextHop k nextHop
    if metric < ripInfiniteMetric then do
      let (route, s) ← s.addIPv4Route r.dest r.prefixLength ie nextHop metric
      pure (s.modifyRoute k fun r => { r with route := some route })
    else pure s

/-- `updateRoute`, as far as it depends on whether the route was valid. -/
def repointRoute : Except RIPFault RIPRouting :=
  if r.metric = ripInfiniteMetric then
    if metric < ripInfiniteMetric then s.reviveRoute k r ie nextHop metric else .ok s
  else s.replaceRoute k r ie nextHop metric

/-- `updateRoute`. -/
def updateRoute (routeTag : UInt16) (fromAddr : IPv4Address) : Except RIPFault RIPRouting := do
  let oldMetric := r.metric
  let s ← s.setInterface k ie
  let s ← s.setMetric k metric
  let s := s.modifyRoute k fun r => { r with fromAddr, tag := routeTag }
  let s ← s.repointRoute k r ie nextHop metric
  let s := s.modifyRoute k fun r => { r with changed := true }
  if metric = ripInfiniteMetric ∧ oldMetric ≠ ripInfiniteMetric then pure (s.invalidateRoute k)
  else pure (s.modifyRoute k fun r => { r with lastUpdateTime := s.simTime })

end

/-- The metric of an entry that is received on an interface. -/
def receivedMetric (incomingIe : RIPInterfaceEntry) (entry : RIPEntry) : ℤ :=
  min (entry.metric + incomingIe.metric) ripInfiniteMetric

/-- The next hop that an entry received from an address stands for. -/
def entryNextHop (srcAddr : IPv4Address) (entry : RIPEntry) : IPv4Address :=
  if isUnspecified entry.nextHop then srcAddr else entry.nextHop

/-- A response does not change a static route that is valid. -/
def isFixed (r : RIPRoute) : Bool :=
  (r.type == .static || r.type == .default) && r.metric != ripInfiniteMetric

/-- The new metric is adopted. -/
def isAdopted (r : RIPRoute) (srcAddr : IPv4Address) (metric : ℤ) : Bool :=
  (r.fromAddr == srcAddr && r.metric != metric) || decide (metric < r.metric)

/-- `processResponse` of one entry. -/
def processEntry (s : RIPRouting) (incomingIe : RIPInterfaceEntry) (srcAddr : IPv4Address)
    (entry : RIPEntry) : Except RIPFault RIPRouting :=
  let metric := receivedMetric incomingIe entry
  let nextHop := entryNextHop srcAddr entry
  match s.findRoute entry.address entry.prefixLength with
  | some k =>
    match s.ripRoutes[k]? with
    | none => .ok s
    | some r =>
      if isFixed r then .ok s
      else
        let s :=
          if r.fromAddr = srcAddr then
            s.modifyRoute k fun r => { r with lastUpdateTime := s.simTime }
          else s
        if isAdopted r srcAddr metric then
          s.updateRoute k r incomingIe.ie nextHop metric entry.routeTag srcAddr
        else .ok s
  | none =>
    if metric ≠ ripInfiniteMetric then
      s.addRoute entry.address entry.prefixLength incomingIe.ie nextHop metric entry.routeTag
        srcAddr
    else .ok s

/-- The entries of a response, one after the other. -/
def processEntries (incomingIe : RIPInterfaceEntry) (srcAddr : IPv4Address) :
    List RIPEntry → RIPRouting → Except RIPFault RIPRouting
  | [], s => .ok s
  | entry :: rest, s => do
    let s ← s.processEntry incomingIe srcAddr entry
    processEntries incomingIe srcAddr rest s

/-- `processResponse`. -/
def processResponse (cfg : RIPConfig) (s : RIPRouting) (view : AddressView)
    (ind : UDPDataIndication) (entries : List RIPEntry) : Except RIPFault RIPRouting :=
  if isValidResponse cfg view ind entries then
    match s.findInterfaceById ind.interfaceId with
    | some incomingIe => processEntries incomingIe ind.srcAddr entries s
    | none => .ok s
  else .ok s

/-! ### Interfaces and imported routes -/

/-- `addInterface`, with the assertions of the constructor of `RIPInterfaceEntry`. -/
def addInterface (cfg : RIPConfig) (s : RIPRouting) (ie : ℕ) (config : Option InterfaceElement) :
    Except RIPFault RIPRouting :=
  if cfg.isLoopback ie || !cfg.isMulticast ie then .error .assertion
  else do
    let ripInterface ← RIPInterfaceEntry.configure ie config
    pure { s with ripInterfaces := s.ripInterfaces ++ [ripInterface] }

/-- `configureInterfaces` of one interface. -/
def configureInterface (cfg : RIPConfig) (s : RIPRouting) (ie : ℕ) : Except RIPFault RIPRouting :=
  if cfg.isMulticast ie && !cfg.isLoopback ie then s.addInterface cfg ie (cfg.interfaceElement ie)
  else .ok s

/-- `configureInterfaces`. -/
def configureInterfaces (cfg : RIPConfig) : List ℕ → RIPRouting → Except RIPFault RIPRouting
  | [], s => .ok s
  | ie :: ift, s => do
    let s ← s.configureInterface cfg ie
    configureInterfaces cfg ift s

/-- `deleteInterface`. -/
def deleteInterface (s : RIPRouting) (ie : ℕ) : RIPRouting :=
  { s with
    ripInterfaces := s.ripInterfaces.filter fun ripInterface => ripInterface.ie != ie
    ripRoutes := s.ripRoutes.filter fun r => r.ie != some ie }

/-- `importRoute` of a RIP route. -/
def importRoute (s : RIPRouting) (ripRoute : RIPRoute) : Except RIPFault RIPRouting :=
  if ripRoute.metric < ripInfiniteMetric then
    .ok { s with ripRoutes := s.ripRoutes ++ [ripRoute] }
  else .error .assertion

/-- The RIP route for the route of a local interface. -/
def interfaceRoute (s : RIPRouting) (route : IPv4Route) (ie : ℕ) : RIPRoute :=
  { RIPRoute.ofRoute route .iface (s.getInterfaceMetric ie) 0 with ie := some ie }

/-- The RIP route as which `configureInitialRoutes` imports a route, if it does. -/
def initialRoute (cfg : RIPConfig) (s : RIPRouting) (route : IPv4Route) : Option RIPRoute :=
  if isLoopbackInterfaceRoute cfg route then none
  else
    match s.localInterface cfg route with
    | some ie => some (s.interfaceRoute route ie)
    | none =>
      if isDefaultRoute route then some (RIPRoute.ofRoute route .default 1 0)
      else if isMulticast route.dest then none
      else some (RIPRoute.ofRoute route .static 1 0)

/-- `configureInitialRoutes` of one route. -/
def importInitialRoute (cfg : RIPConfig) (s : RIPRouting) (route : IPv4Route) :
    Except RIPFault RIPRouting :=
  match s.initialRoute cfg route with
  | some ripRoute => s.importRoute ripRoute
  | none => .ok s

/-- `configureInitialRoutes`. -/
def configureInitialRoutes (cfg : RIPConfig) :
    List IPv4Route → RIPRouting → Except RIPFault RIPRouting
  | [], s => .ok s
  | route :: routes, s => do
    let s ← s.importInitialRoute cfg route
    configureInitialRoutes cfg routes s

/-! ### Notifications -/

/-- `receiveChangeNotification` of `NF_IPv4_ROUTE_ADDED`. -/
def routeAdded (cfg : RIPConfig) (s : RIPRouting) (route : IPv4Route) :
    Except RIPFault RIPRouting :=
  if s.source route.id = .rip then .ok s
  else if isLoopbackInterfaceRoute cfg route then .ok s
  else
    match s.localInterface cfg route with
    | some ie =>
      match s.findRouteVia ie .iface with
      | some k =>
        .ok (s.modifyRoute k fun r =>
          { r with route := some route.id, metric := s.getInterfaceMetric ie, changed := true })
      | none => s.importRoute (s.interfaceRoute route ie)
    | none => .ok s

/-- A RIP route takes over the fields of the IPv4 route that it points to. -/
def RIPRoute.adopt (route : IPv4Route) (changed : Bool) (r : RIPRoute) : RIPRoute :=
  { r with
    dest := route.dest, prefixLength := route.netmask.getNetmaskLength, nextHop := route.gateway
    ie := route.interfacePtr, changed := r.changed || changed }

/-- The fields of an IPv4 route differ from those of the RIP route. -/
def differs (route : IPv4Route) (r : RIPRoute) : Except RIPFault Bool :=
  if route.dest ≠ r.dest then .ok true
  else do
    let netmask ← makeNetmask r.prefixLength
    pure (decide (route.netmask ≠ netmask ∨ route.gateway ≠ r.nextHop ∨ route.interfacePtr ≠ r.ie))

/-- `receiveChangeNotification` of `NF_IPv4_ROUTE_CHANGED`. -/
def routeChanged (s : RIPRouting) (route : IPv4Route) : Except RIPFault RIPRouting :=
  if s.source route.id = .rip then .ok s
  else
    match s.findRouteOf route.id with
    | none => .ok s
    | some k =>
      match s.ripRoutes[k]? with
      | none => .ok s
      | some r => do
        let changed ← differs route r
        pure (s.modifyRoute k (RIPRoute.adopt route changed))

/-- The handler of a notification, when the module is subscribed. -/
def notify (s : RIPRouting) (handler : RIPRouting → Except RIPFault RIPRouting) :
    Except RIPFault RIPRouting :=
  if s.subscribed then handler s else .ok s

/-! ### The module as a machine -/

/-- A change of a field of an IPv4 route. -/
inductive RouteUpdate
  | destination (addr : IPv4Address)
  | netmask (mask : IPv4Address)
  | gateway (addr : IPv4Address)
  | iface (ie : Option ℕ)
  | adminDist (dist : ℕ)
  | metric (cost : ℤ)

/-- The route with the changed field. -/
def RouteUpdate.apply : RouteUpdate → IPv4Route → IPv4Route
  | .destination addr, r => { r with dest := addr }
  | .netmask mask, r => { r with netmask := mask }
  | .gateway addr, r => { r with gateway := addr }
  | .iface ie, r => { r with interfacePtr := ie }
  | .adminDist dist, r => { r with adminDist := dist }
  | .metric cost, r => { r with metric := cost }

/-- The code of the field. -/
def RouteUpdate.fieldCode : RouteUpdate → IPv4Route.FieldCode
  | .destination _ => .destination
  | .netmask _ => .netmask
  | .gateway _ => .gateway
  | .iface _ => .iface
  | .adminDist _ => .adminDist
  | .metric _ => .metric

/-- What happens to the module. -/
inductive RIPAction
  /-- `startRIPRouting`, with the interfaces of the node. -/
  | start (ift : List ℕ)
  /-- `stopRIPRouting`, as in a crash. -/
  | stop
  /-- The routing protocols are shut down. -/
  | shutdown
  /-- Time passes. -/
  | advance (time : ℕ)
  /-- A packet is received. -/
  | receive (view : AddressView) (ind : UDPDataIndication) (packet : RIPPacket)
  /-- The update timer, or the one for triggered updates, expires. -/
  | update (triggered : Bool)
  /-- `NF_INTERFACE_CREATED`. -/
  | interfaceCreated (ie : ℕ)
  /-- `NF_INTERFACE_DELETED`. -/
  | interfaceDeleted (ie : ℕ)
  /-- `NF_INTERFACE_STATE_CHANGED`. -/
  | interfaceStateChanged (ie : ℕ) (up : Bool)
  /-- Another module adds a route, whose source may be an interface. -/
  | routeAdded (route : IPv4Route) (source : Option ℕ)
  /-- The routing table adds the route of an interface. -/
  | netmaskRouteAdded (ie : InterfaceEntry)
  /-- Another module, or the routing table, deletes a route. -/
  | routeDeleted (route : ℕ)
  /-- Another module changes a route that is not one of RIP. -/
  | routeChanged (route : ℕ) (change : RouteUpdate)

/-- The source of a route that another module adds. -/
def sourceOf : Option ℕ → RouteSource
  | some ie => .iface ie
  | none => .null

/-- `startRIPRouting`. -/
def startRIPRouting (cfg : RIPConfig) (s : RIPRouting) (ift : List ℕ) :
    Except RIPFault (RIPRouting × List SentPacket) := do
  let s ← configureInterfaces cfg ift s
  let s ← configureInitialRoutes cfg s.rt.routes s
  pure ({ s with subscribed := true }, s.activeInterfaces.map (sendRIPRequest cfg))

/-- `stopRIPRouting`. -/
def stopRIPRouting (s : RIPRouting) : RIPRouting :=
  { s with ripInterfaces := [], ripRoutes := [], subscribed := false }

section

variable (cfg : RIPConfig) (s : RIPRouting)

/-- `handleOperationStage` of a shutdown. -/
def shutdown : Except RIPFault (RIPRouting × List SentPacket) :=
  do
    let s := s.invalidateWhere fun _ => true
    let (s, sent) ← sendRoutesOn cfg false s.ripInterfaces s
    pure (s.stopRIPRouting, sent)

/-- `handleMessage` of a packet. -/
def receivePacket (view : AddressView) (ind : UDPDataIndication) (packet : RIPPacket) :
    Except RIPFault (RIPRouting × List SentPacket) :=
  if packet.command = ripRequest then s.processRequest cfg ind packet.entries
  else if packet.command = ripResponse then do
    let s ← s.processResponse cfg view ind packet.entries
    pure (s, [])
  else .error (.unknownCommand packet.command)

/-- Another module calls `addRoute` of the routing table. -/
def externalRouteAdded (route : IPv4Route) (source : Option ℕ) : Except RIPFault RIPRouting := do
  let route := { route with id := s.nextId }
  let rt ← (s.rt.addRoute s.simTime route).mapError .routing
  ((s.newRoute (sourceOf source)).tableChanged rt).notify (routeAdded cfg · route)

/-- `updateNetmaskRoutes` adds the route of an interface. -/
def netmaskRouteAdded (ie : InterfaceEntry) :
    Except RIPFault RIPRouting :=
  match RoutingTable.netmaskRoute (s.nextId, ie) with
  | none => .ok s
  | some route =>
    let routes := UpperBound.insert RoutingTable.routeLessThan route s.rt.routes
    { s.newRoute (.iface ie.interfaceId) with
      rt := { s.rt with routes }.invalidateCache }.notify (routeAdded cfg · route)

end

/-- Another module sets a field of a route that is not one of RIP. -/
def externalRouteChanged (s : RIPRouting) (route : ℕ) (change : RouteUpdate) :
    Except RIPFault RIPRouting :=
  match s.rt.routes.find? (·.id == route) with
  | none => .ok s
  | some r =>
    if s.source route = .rip ∨ change.apply r = r then .ok s
    else do
      let rt ← (s.rt.setField s.simTime route change.fieldCode change.apply).mapError .routing
      (s.tableChanged rt).notify (routeChanged · (change.apply r))

/-- The state after an action, with the packets that are sent. -/
def handle (cfg : RIPConfig) (s : RIPRouting) :
    RIPAction → Except RIPFault (RIPRouting × List SentPacket)
  | .start ift => if s.subscribed then .ok (s, []) else s.startRIPRouting cfg ift
  | .stop => .ok (s.stopRIPRouting, [])
  | .shutdown => s.shutdown cfg
  | .advance time => .ok ({ s with simTime := s.simTime + time }, [])
  | .receive view ind packet => s.receivePacket cfg view ind packet
  | .update triggered => s.processUpdate cfg triggered
  | .interfaceCreated ie => do
    let s ← s.notify fun s =>
      if cfg.isMulticast ie && !cfg.isLoopback ie then
        match cfg.interfaceElement ie with
        | some config => s.addInterface cfg ie (some config)
        | none => pure s
      else pure s
    pure (s, [])
  | .interfaceDeleted ie => do
    let s ← s.notify fun s => pure (s.deleteInterface ie)
    pure (s, [])
  | .interfaceStateChanged ie up =>
    if !s.subscribed then .ok (s, [])
    else if up then
      match s.findInterfaceById ie with
      | some ripInterface =>
        .ok (s, if ripInterface.mode = .noRip then [] else [sendRIPRequest cfg ripInterface])
      | none => .ok (s, [])
    else .ok (s.invalidateRoutes ie, [])
  | .routeAdded route source => do
    let s ← s.externalRouteAdded cfg route source
    pure (s, [])
  | .netmaskRouteAdded ie => do
    let s ← s.netmaskRouteAdded cfg ie
    pure (s, [])
  | .routeDeleted route => .ok (s.deleteRoute route, [])
  | .routeChanged route change => do
    let s ← s.externalRouteChanged route change
    pure (s, [])

/-- The state after an action. -/
def step (cfg : RIPConfig) (s : RIPRouting) (a : RIPAction) : Except RIPFault RIPRouting := do
  let (s, _) ← s.handle cfg a
  pure s

end RIPRouting

end Hiwis
