import Hiwis.Arp.ARP
import Hiwis.Ipv6.RoutingTable6

/-!
# IPv6NeighbourDiscovery

The neighbour cache, its timers and the datagrams that wait for an address, in a node with mobile
IPv6 (`WITH_xMIPv6`).  The messages of neighbour discovery are those that have passed the
validation and are not about a tentative address.  Left out are the advertisements that are sent and
what is written to the routing table and to the interfaces.
-/

namespace Hiwis

open Function

/-- `formSolicitedNodeMulticastAddress`. -/
def IPv6Address.formSolicitedNodeMulticastAddress (addr : IPv6Address) : IPv6Address :=
  0xFF0200000000000000000001FF000000 ||| (addr &&& 0xFFFFFF)

namespace Icmpv6

inductive ReachabilityState
  | incomplete
  | reachable
  | stale
  | delay
  | probe
  deriving DecidableEq

/-- The key of a neighbour. -/
structure Key where
  address : IPv6Address
  interfaceID : ℤ
  deriving DecidableEq

/-- `IPv6Datagram`; `id` tells which object it is. -/
structure IPv6Datagram where
  id : ℕ
  srcAddress : IPv6Address
  destAddress : IPv6Address
  deriving DecidableEq

/-- An entry of the cache; `oid` tells which object it is. -/
structure Neighbour where
  oid : ℕ := 0
  macAddress : MACAddress := .unspecifiedAddress
  isRouter : Bool := false
  isHomeAgent : Bool := false
  reachabilityState : ReachabilityState
  reachabilityExpires : ℤ := 0
  numProbesSent : BitVec 16 := 0
  nudTimeoutEvent : Option ℕ := none
  numOfARNSSent : BitVec 32 := 0
  arTimer : Option ℕ := none
  pendingPackets : List IPv6Datagram := []
  nsSrcAddr : IPv6Address := .unspecifiedAddress
  routerExpiryTime : ℤ := 0
  deriving DecidableEq

/-- A pointer to an entry. -/
structure NeighbourPtr where
  key : Key
  oid : ℕ
  deriving DecidableEq

inductive TimerKind
  /-- `MK_AR_TIMEOUT`. -/
  | ar
  /-- `MK_NUD_TIMEOUT`. -/
  | nud
  deriving DecidableEq

/-- A self message that is scheduled. -/
structure Timer where
  kind : TimerKind
  arrivalTime : ℤ
  contextPointer : NeighbourPtr
  deriving DecidableEq

/-- What is read of an interface; no time is negative. -/
structure Interface where
  isPointToPoint : Bool
  addresses : List IPv6Address
  preferredAddress : IPv6Address
  reachableTime : ℕ
  retransTimer : ℕ
  delayFirstProbeTime : ℕ
  maxMulticastSolicit : BitVec 32
  maxUnicastSolicit : BitVec 32
  deriving DecidableEq

/-- `IPv6NeighbourSolicitation`, with its source and the interface on which it arrives. -/
structure IPv6NeighbourSolicitation where
  srcAddr : IPv6Address
  interfaceId : ℤ
  sourceLinkLayerAddress : MACAddress
  deriving DecidableEq

/-- `IPv6NeighbourAdvertisement`, with the interface on which it arrives. -/
structure IPv6NeighbourAdvertisement where
  interfaceId : ℤ
  targetAddress : IPv6Address
  targetLinkLayerAddress : MACAddress
  routerFlag : Bool
  solicitedFlag : Bool
  overrideFlag : Bool
  deriving DecidableEq

/-- `IPv6RouterAdvertisement`, with its source and the interface on which it arrives. -/
structure IPv6RouterAdvertisement where
  srcAddr : IPv6Address
  interfaceId : ℤ
  sourceLinkLayerAddress : MACAddress
  routerLifetime : ℕ
  homeAgentFlag : Bool
  deriving DecidableEq

inductive Fault
  /-- "Unknown Neighbour cache entry state." -/
  | unknownState
  /-- A failed `ASSERT`. -/
  | assertion
  /-- A pointer to an entry that has been deleted. -/
  | danglingPointer
  /-- A loop that does not end. -/
  | endlessLoop
  deriving DecidableEq

inductive Output
  /-- The datagram is handed to IPv6, without having waited. -/
  | sent (msg : IPv6Datagram) (nextHop : Key)
  /-- `NO_ROUTE_TO_DEST`. -/
  | noRoute (msg : IPv6Datagram)
  | queued (msg : IPv6Datagram) (nextHop : Key)
  /-- A datagram that has waited is handed to IPv6. -/
  | dequeued (msg : IPv6Datagram) (nextHop : Key)
  /-- `ADDRESS_UNREACHABLE`. -/
  | unreachable (msg : IPv6Datagram) (nextHop : Key)
  | solicited (targetAddr destAddr srcAddr : IPv6Address) (interfaceId : ℤ)
  deriving DecidableEq

/-- The module.  `defaultRouterList` is the circular list from its head on. -/
structure IPv6NeighbourDiscovery where
  now : ℤ := 0
  neighbourMap : Key → Option Neighbour := fun _ => none
  defaultRouterList : List Key := []
  scheduled : ℕ → Option Timer := fun _ => none
  /-- The numbers of the next message and of the next entry that are created. -/
  nextMsg : ℕ := 0
  nextNeighbour : ℕ := 0
  log : List Output := []

namespace IPv6NeighbourDiscovery

variable (ift : ℤ → Interface) (s : IPv6NeighbourDiscovery)

/-! ### The simulation kernel -/

def emit (outs : List Output) : IPv6NeighbourDiscovery := { s with log := s.log ++ outs }

def scheduleAfter (delay msg : ℕ) (kind : TimerKind) (contextPointer : NeighbourPtr) :
    IPv6NeighbourDiscovery :=
  { s with
    scheduled := update s.scheduled msg (some ⟨kind, s.now + delay, contextPointer⟩)
    nextMsg := max s.nextMsg (msg + 1) }

def cancelAndDelete (msg : Option ℕ) : IPv6NeighbourDiscovery :=
  match msg with
  | none => s
  | some msg => { s with scheduled := update s.scheduled msg none }

/-! ### `IPv6NeighbourCache` -/

def setEntry (key : Key) (nce : Neighbour) : IPv6NeighbourDiscovery :=
  { s with neighbourMap := update s.neighbourMap key (some nce) }

/-- The entry behind a pointer. -/
def deref (p : NeighbourPtr) : Except Fault Neighbour :=
  match s.neighbourMap p.key with
  | none => throw .danglingPointer
  | some nce => if nce.oid = p.oid then pure nce else throw .danglingPointer

section

variable (key : Key)

/-- A new object in the map. -/
def insert (nbor : Neighbour) : Except Fault IPv6NeighbourDiscovery :=
  if (s.neighbourMap key).isSome then throw .assertion
  else
    pure { s.setEntry key { nbor with oid := s.nextNeighbour } with
      nextNeighbour := s.nextNeighbour + 1 }

/-- `addNeighbour`, without an address. -/
def addIncomplete : Except Fault IPv6NeighbourDiscovery :=
  s.insert key { reachabilityState := .incomplete }

/-- `addNeighbour`. -/
def addNeighbour (macAddress : MACAddress) : Except Fault IPv6NeighbourDiscovery :=
  s.insert key { macAddress, reachabilityState := .stale }

/-- `addRouter`; the end of the circular list is in front of its head. -/
def addRouter (macAddress : MACAddress) (routerExpiryTime : ℤ) (isHomeAgent : Bool) :
    Except Fault IPv6NeighbourDiscovery := do
  let s ← s.insert key
    { macAddress, isRouter := true, isHomeAgent, reachabilityState := .stale, routerExpiryTime }
  pure { s with defaultRouterList := s.defaultRouterList ++ [key] }

/-- `remove`. -/
def remove : Except Fault IPv6NeighbourDiscovery :=
  match s.neighbourMap key with
  | none => throw .assertion
  | some nce =>
    pure { s.cancelAndDelete nce.nudTimeoutEvent with
      neighbourMap := update s.neighbourMap key none
      defaultRouterList := s.defaultRouterList.erase key }

/-- The router after the given one in the circular list. -/
def nextDefaultRouter : Option Key :=
  (s.defaultRouterList.rotate (s.defaultRouterList.idxOf key + 1)).head?

/-- `setHead` of the router after the given one. -/
def setHeadBehind : IPv6NeighbourDiscovery :=
  { s with
    defaultRouterList := s.defaultRouterList.rotate (s.defaultRouterList.idxOf key + 1) }

/-- A neighbour that is no router any more leaves the list. -/
def dropFromRouters (isRouter : Bool) : IPv6NeighbourDiscovery :=
  if isRouter then s else { s with defaultRouterList := s.defaultRouterList.erase key }

end

/-! ### Next hops -/

/-- The loop of `selectDefaultRouter`, with the iterator at `it`. -/
def selectLoop (start : Key) :
    ℕ → Option Key → IPv6NeighbourDiscovery → Except Fault (Option Key × IPv6NeighbourDiscovery)
  | _, none, s => pure (none, s)
  | 0, some _, _ => throw .endlessLoop
  | fuel + 1, some key, s =>
    match s.neighbourMap key with
    | none => throw .danglingPointer
    | some nce =>
      let next := s.nextDefaultRouter key
      let it := if next = some start then none else next
      if nce.routerExpiryTime < s.now then do
        let s ← s.remove key
        selectLoop start fuel it s
      else if nce.reachabilityState ≠ .incomplete then
        pure (some key, s.setHeadBehind key)
      else selectLoop start fuel it s

/-- `selectDefaultRouter`. -/
def selectDefaultRouter : Except Fault (Option Key × IPv6NeighbourDiscovery) :=
  match s.defaultRouterList with
  | [] => pure (none, s)
  | start :: rest => do
    let (found, s) ← selectLoop start (rest.length + 2) (some start) s
    match found with
    | some key => pure (some key, s)
    | none =>
      match s.defaultRouterList with
      | [] => pure (none, s)
      | head :: _ => pure (some head, s.setHeadBehind head)

/-- `determineNextHop`, for the route that the routing table finds: its next hop and interface. -/
def determineNextHop (destAddr : IPv6Address) (route : Option (IPv6Address × ℤ)) :
    Except Fault (Option Key × IPv6NeighbourDiscovery) :=
  match route with
  | some (nextHop, interfaceId) =>
    if interfaceId = -1 then pure (none, s)
    else pure (some ⟨if nextHop.isUnspecified then destAddr else nextHop, interfaceId⟩, s)
  | none => s.selectDefaultRouter

/-! ### Neighbour unreachability detection -/

def initiateNeighbourUnreachabilityDetection (key : Key) (nce : Neighbour) :
    Except Fault IPv6NeighbourDiscovery :=
  if nce.reachabilityState ≠ .stale then throw .assertion
  else
    pure ((s.setEntry key { nce with
        reachabilityState := .delay, nudTimeoutEvent := some s.nextMsg }).scheduleAfter
      (ift key.interfaceID).delayFirstProbeTime s.nextMsg .nud ⟨key, nce.oid⟩)

/-- The end of `processNUDTimeout`: a probe is sent, or the entry is removed. -/
def probeOrRemove (msg : ℕ) (key : Key) (nce : Neighbour) : Except Fault IPv6NeighbourDiscovery :=
  let ie := ift key.interfaceID
  if nce.numProbesSent.toInt = ie.maxUnicastSolicit.toInt then s.remove key
  else
    pure (((s.setEntry key { nce with numProbesSent := nce.numProbesSent + 1 }).emit
        [.solicited key.address key.address ie.preferredAddress key.interfaceID]).scheduleAfter
      ie.retransTimer msg .nud ⟨key, nce.oid⟩)

def processNUDTimeout (msg : ℕ) (p : NeighbourPtr) : Except Fault IPv6NeighbourDiscovery := do
  let nce ← s.deref p
  if nce.reachabilityState = .delay then
    let nce := { nce with reachabilityState := .probe, numProbesSent := 0 }
    (s.setEntry p.key nce).probeOrRemove ift msg p.key nce
  else s.probeOrRemove ift msg p.key nce

/-- `resolveNeighbour`; the address that it returns is left out. -/
def resolveNeighbour (key : Key) : Except Fault IPv6NeighbourDiscovery :=
  match s.neighbourMap key with
  | none => pure s
  | some nce =>
    match nce.reachabilityState with
    | .incomplete => pure s
    | .stale => s.initiateNeighbourUnreachabilityDetection ift key nce
    | .reachable =>
      if nce.reachabilityExpires < s.now then
        s.initiateNeighbourUnreachabilityDetection ift key { nce with reachabilityState := .stale }
      else pure s
    | .delay | .probe => pure s

/-! ### Address resolution -/

def initiateAddressResolution (dgSrcAddr : IPv6Address) (key : Key) (nce : Neighbour) :
    IPv6NeighbourDiscovery :=
  let ie := ift key.interfaceID
  let nsSrcAddr := if ie.addresses.contains dgSrcAddr then dgSrcAddr else ie.preferredAddress
  ((s.setEntry key { nce with
      reachabilityState := .incomplete, numOfARNSSent := 1, nsSrcAddr
      arTimer := some s.nextMsg }).emit
    [.solicited key.address key.address.formSolicitedNodeMulticastAddress nsSrcAddr
      key.interfaceID]).scheduleAfter ie.retransTimer s.nextMsg .ar ⟨key, nce.oid⟩

/-- `dropQueuedPacketsAwaitingAR`. -/
def dropQueuedPacketsAwaitingAR (key : Key) (nce : Neighbour) :
    Except Fault IPv6NeighbourDiscovery :=
  (s.emit (nce.pendingPackets.map fun d => .unreachable d key)).remove key

def processARTimeout (msg : ℕ) (p : NeighbourPtr) : Except Fault IPv6NeighbourDiscovery := do
  let nce ← s.deref p
  let ie := ift p.key.interfaceID
  if nce.numOfARNSSent < ie.maxMulticastSolicit then
    pure (((s.setEntry p.key { nce with numOfARNSSent := nce.numOfARNSSent + 1 }).emit
        [.solicited p.key.address p.key.address.formSolicitedNodeMulticastAddress nce.nsSrcAddr
          p.key.interfaceID]).scheduleAfter ie.retransTimer msg .ar p)
  else s.dropQueuedPacketsAwaitingAR p.key nce

/-- The timers in `handleMessage`: a self message arrives. -/
def handleSelfMessage (msg : ℕ) : Except Fault IPv6NeighbourDiscovery :=
  match s.scheduled msg with
  | none => throw .danglingPointer
  | some timer =>
    match timer.kind with
    | .nud => (s.cancelAndDelete (some msg)).processNUDTimeout ift msg timer.contextPointer
    | .ar => (s.cancelAndDelete (some msg)).processARTimeout ift msg timer.contextPointer

/-! ### Datagrams -/

/-- The entry for a next hop that has none. -/
def createEntry (msg : IPv6Datagram) (key : Key) : Except Fault IPv6NeighbourDiscovery :=
  if (ift key.interfaceID).isPointToPoint then s.addNeighbour key .unspecifiedAddress
  else do
    let s ← s.addIncomplete key
    match s.neighbourMap key with
    | none => throw .danglingPointer
    | some nce => pure (s.initiateAddressResolution ift msg.srcAddress key nce)

/-- The end of `processIPv6Datagram`. -/
def forward (msg : IPv6Datagram) (key : Key) : Except Fault IPv6NeighbourDiscovery :=
  match s.neighbourMap key with
  | none => throw .danglingPointer
  | some nce =>
    match nce.reachabilityState with
    | .incomplete =>
      pure ((s.setEntry key { nce with pendingPackets := nce.pendingPackets ++ [msg] }).emit
        [.queued msg key])
    | .stale => (s.emit [.sent msg key]).initiateNeighbourUnreachabilityDetection ift key nce
    | .reachable | .delay => pure (s.emit [.sent msg key])
    | .probe => throw .unknownState

def processIPv6Datagram (msg : IPv6Datagram) (route : Option (IPv6Address × ℤ)) :
    Except Fault IPv6NeighbourDiscovery := do
  let (nextHop, s) ← s.determineNextHop msg.destAddress route
  match nextHop with
  | none => pure (s.emit [.noRoute msg])
  | some key =>
    if (s.neighbourMap key).isNone then do
      let s ← s.createEntry ift msg key
      s.forward ift msg key
    else s.forward ift msg key

/-! ### Messages of neighbour discovery -/

/-- `processNSForNonTentativeAddress`, `processNSWithSpecifiedSrcAddr`. -/
def processNSPacket (ns : IPv6NeighbourSolicitation) : Except Fault IPv6NeighbourDiscovery :=
  let key : Key := ⟨ns.srcAddr, ns.interfaceId⟩
  if ns.srcAddr.isUnspecified then pure s
  else
    match s.neighbourMap key with
    | none => s.addNeighbour key ns.sourceLinkLayerAddress
    | some entry =>
      if entry.macAddress ≠ ns.sourceLinkLayerAddress ∧
          ns.sourceLinkLayerAddress.isUnspecified = false then
        pure (s.setEntry key { entry with
          macAddress := ns.sourceLinkLayerAddress, reachabilityState := .stale })
      else pure s

def processNAForIncompleteNCEState (na : IPv6NeighbourAdvertisement) (key : Key)
    (nce : Neighbour) : IPv6NeighbourDiscovery :=
  if na.targetLinkLayerAddress.isUnspecified then s
  else
    let nce := { nce with
      macAddress := na.targetLinkLayerAddress
      reachabilityState := if na.solicitedFlag then .reachable else .stale
      reachabilityExpires :=
        if na.solicitedFlag then s.now + (ift key.interfaceID).reachableTime
        else nce.reachabilityExpires
      isRouter := na.routerFlag }
    let s := (s.dropFromRouters key na.routerFlag).emit
      (nce.pendingPackets.map fun d => .dequeued d key)
    (s.cancelAndDelete nce.arTimer).setEntry key { nce with pendingPackets := [], arTimer := none }

/-- The Solicited flag is set: the neighbour is reachable. -/
def confirmReachability (key : Key) (nce : Neighbour) : Neighbour :=
  { nce with
    reachabilityState := .reachable
    reachabilityExpires :=
      if nce.nudTimeoutEvent.isSome then s.now + (ift key.interfaceID).reachableTime
      else nce.reachabilityExpires
    nudTimeoutEvent := none }

def processNAForOtherNCEStates (na : IPv6NeighbourAdvertisement) (key : Key) (nce : Neighbour) :
    IPv6NeighbourDiscovery :=
  let naMacAddr := na.targetLinkLayerAddress
  if na.overrideFlag = false ∧ naMacAddr ≠ nce.macAddress ∧ naMacAddr.isUnspecified = false then
    if nce.reachabilityState = .reachable then
      s.setEntry key { nce with reachabilityState := .stale }
    else s
  else
    let nce :=
      if naMacAddr.isUnspecified then nce else { nce with macAddress := naMacAddr }
    let s := s.dropFromRouters key na.routerFlag
    if na.solicitedFlag then
      (s.cancelAndDelete nce.nudTimeoutEvent).setEntry key
        { s.confirmReachability ift key nce with isRouter := na.routerFlag }
    else
      s.setEntry key { nce with
        reachabilityState := if naMacAddr ≠ nce.macAddress then .stale else nce.reachabilityState
        isRouter := na.routerFlag }

def processNAPacket (na : IPv6NeighbourAdvertisement) : IPv6NeighbourDiscovery :=
  let key : Key := ⟨na.targetAddress, na.interfaceId⟩
  match s.neighbourMap key with
  | none => s
  | some nce =>
    if nce.reachabilityState = .incomplete then s.processNAForIncompleteNCEState ift na key nce
    else s.processNAForOtherNCEStates ift na key nce

/-- `routersUnreachabilityDetection`; the order in which the routers are removed does not matter. -/
def routersUnreachabilityDetection (interfaceId : ℤ) : Except Fault IPv6NeighbourDiscovery :=
  (s.defaultRouterList.filter fun key => key.interfaceID = interfaceId).foldlM
    (fun s key => s.remove key) s

/-- `processRAForRouterUpdates`. -/
def processRAPacket (ra : IPv6RouterAdvertisement) : Except Fault IPv6NeighbourDiscovery :=
  let key : Key := ⟨ra.srcAddr, ra.interfaceId⟩
  match s.neighbourMap key with
  | none =>
    if ra.routerLifetime ≠ 0 then do
      let s ← s.routersUnreachabilityDetection ra.interfaceId
      s.addRouter key ra.sourceLinkLayerAddress (s.now + ra.routerLifetime) ra.homeAgentFlag
    else do
      let s ← if ra.sourceLinkLayerAddress.isUnspecified then s.addIncomplete key
        else s.addNeighbour key ra.sourceLinkLayerAddress
      match s.neighbourMap key with
      | none => throw .danglingPointer
      | some neighbour => pure (s.setEntry key { neighbour with isRouter := true })
  | some neighbour =>
    let s := s.setEntry key { neighbour with
      isRouter := true
      macAddress :=
        if ra.sourceLinkLayerAddress.isUnspecified then neighbour.macAddress
        else ra.sourceLinkLayerAddress
      routerExpiryTime := s.now + ra.routerLifetime }
    -- `timeoutDefaultRouter`
    if ra.routerLifetime = 0 then s.remove key else pure s

end IPv6NeighbourDiscovery

/-! ### Runs -/

inductive Event
  /-- A datagram, with what the routing table finds for it. -/
  | datagram (msg : IPv6Datagram) (route : Option (IPv6Address × ℤ))
  | resolveNeighbour (key : Key)
  | neighbourSolicitation (ns : IPv6NeighbourSolicitation)
  | neighbourAdvertisement (na : IPv6NeighbourAdvertisement)
  | routerAdvertisement (ra : IPv6RouterAdvertisement)
  | selfMessage (msg : ℕ)
  deriving DecidableEq

/-- An event, when it happens, and the interfaces at that time. -/
structure Input where
  time : ℤ
  ift : ℤ → Interface
  event : Event

open IPv6NeighbourDiscovery in
/-- `handleMessage`, and the call of `resolveNeighbour`. -/
def step (s : IPv6NeighbourDiscovery) (a : Input) : Except Fault IPv6NeighbourDiscovery :=
  let s := { s with now := a.time }
  match a.event with
  | .datagram msg route => s.processIPv6Datagram a.ift msg route
  | .resolveNeighbour key => s.resolveNeighbour a.ift key
  | .neighbourSolicitation ns => s.processNSPacket ns
  | .neighbourAdvertisement na => pure (s.processNAPacket a.ift na)
  | .routerAdvertisement ra => s.processRAPacket ra
  | .selfMessage msg => s.handleSelfMessage a.ift msg

/-- A self message arrives at its time. -/
def Due (s : IPv6NeighbourDiscovery) (time : ℤ) : Event → Prop
  | .selfMessage msg => ∃ timer ∈ s.scheduled msg, timer.arrivalTime = time
  | _ => True

instance (s : IPv6NeighbourDiscovery) (time : ℤ) (event : Event) : Decidable (Due s time event) :=
  match event with
  | .selfMessage msg =>
    inferInstanceAs (Decidable (∃ timer ∈ s.scheduled msg, timer.arrivalTime = time))
  | .datagram .. | .resolveNeighbour _ | .neighbourSolicitation _ | .neighbourAdvertisement _
  | .routerAdvertisement _ => isTrue trivial

/-- The time does not pass a scheduled message. -/
def CanHappen (s : IPv6NeighbourDiscovery) (a : Input) : Prop :=
  s.now ≤ a.time ∧ (∀ msg < s.nextMsg, ∀ timer ∈ s.scheduled msg, a.time ≤ timer.arrivalTime) ∧
    Due s a.time a.event

instance (s : IPv6NeighbourDiscovery) (a : Input) : Decidable (CanHappen s a) :=
  inferInstanceAs (Decidable (_ ∧ _ ∧ _))

end Icmpv6

end Hiwis
