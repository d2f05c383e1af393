import Hiwis.Ipv4.InterfaceEntry
import Hiwis.Lib.Trace

/-!
# DYMO route discovery

The route discoveries of one `xDYMO` module: the timers of its requests, which are messages known by
a number, the datagrams that it delays, and its handlers.  The routes are those of the routing table
at the time of each call; what the module does to them is left out.  The requests that are sent and
what becomes of the datagrams are collected in `log`.
-/

namespace Hiwis

namespace Dymo

open IPv4Address

/-! ### What the module reads -/

/-- `IPv4Datagram`. -/
structure Datagram where
  id : ℕ
  srcAddr : IPv4Address
  destAddr : IPv4Address
  deriving DecidableEq

/-- A route, with the `broken` flag of its `DYMORouteData` if it has such data. -/
structure Route where
  gateway : IPv4Address
  broken : Option Bool := none
  deriving DecidableEq

/-- What the module asks the routing table. -/
structure IRoutingTable where
  isLocalAddress : IPv4Address → Bool
  findBestMatchingRoute : IPv4Address → Option Route

/-- `AddressBlock`, as far as `permissibleRteMsg` reads it. -/
structure AddressBlock where
  address : IPv4Address
  hasSequenceNumber : Bool := true
  hasMetric : Bool := true
  isHopCount : Bool := true
  deriving DecidableEq

/-- A received `RREP` with the time to live of its datagram. -/
structure RREP where
  timeToLive : ℕ := 254
  hopLimit : ℕ
  hopCount : ℕ
  originatorNode : AddressBlock
  targetNode : AddressBlock
  deriving DecidableEq

/-- The parameters of the module; `computeRREQBackoffTime` is a power of `routeRREQWaitTime`. -/
structure Parameters where
  clientAddresses : List IPv4Address
  routeRREQWaitTime : ℤ
  rreqHolddownTime : ℤ
  computeRREQBackoffTime : ℤ → ℤ
  maxHopCount : ℕ
  discoveryAttemptsMax : ℤ

/-! ### The state of the module -/

/-- The subclasses of `RREQTimer`. -/
inductive TimerKind
  | waitRREP (retryCount : ℤ)
  | backoff (retryCount : ℤ)
  | holddown
  deriving DecidableEq

/-- A message `RREQTimer`. -/
structure RREQTimer where
  id : ℕ
  kind : TimerKind
  target : IPv4Address
  deriving DecidableEq

inductive Observation
  | sentRREQ (target : IPv4Address) (retryCount : ℤ)
  | delayed (datagram : Datagram)
  | reinjected (datagram : Datagram)
  | dropped (datagram : Datagram)
  deriving DecidableEq

inductive Fault
  /-- `Routing protocol is not running`. -/
  | notRunning
  /-- `ASSERT(hasOngoingRouteDiscovery(target))`, or of its negation. -/
  | ongoingRouteDiscovery
  /-- The end of `targetAddressToRREQTimer` is used as an element of it. -/
  | noTimer
  deriving DecidableEq

/-- The discoveries of an `xDYMO` module.  `scheduled` are the timers in the event queue with their
arrival times. -/
structure XDYMO where
  isNodeUp : Bool
  targetAddressToRREQTimer : AList fun _ : IPv4Address => ℕ := ∅
  targetAddressToDelayedPackets : IPv4Address → List Datagram := fun _ => []
  scheduled : List (ℤ × RREQTimer) := []
  nextTimer : ℕ := 0
  log : List Observation := []

namespace XDYMO

variable (c : Parameters) (n : XDYMO) (now : ℤ)

def observe (o : Observation) : XDYMO := { n with log := n.log ++ [o] }

def isClientAddress (rt : IRoutingTable) (address : IPv4Address) : Bool :=
  rt.isLocalAddress address || c.clientAddresses.contains address

def hasOngoingRouteDiscovery (target : IPv4Address) : Bool :=
  (n.targetAddressToRREQTimer.lookup target).isSome

/-! ### Delayed datagrams -/

def delayDatagram (datagram : Datagram) : XDYMO :=
  { n.observe (.delayed datagram) with
    targetAddressToDelayedPackets := Function.update n.targetAddressToDelayedPackets
      datagram.destAddr (n.targetAddressToDelayedPackets datagram.destAddr ++ [datagram]) }

def eraseDelayedDatagrams (target : IPv4Address) : XDYMO :=
  { n with
    targetAddressToDelayedPackets := Function.update n.targetAddressToDelayedPackets target [] }

def hasDelayedDatagrams (target : IPv4Address) : Bool :=
  !(n.targetAddressToDelayedPackets target).isEmpty

/-- `completeRouteDiscovery` and `cancelRouteDiscovery`: all datagrams that wait for the target are
released in the same way. -/
def endRouteDiscovery (release : Datagram → Observation) (target : IPv4Address) :
    Except Fault XDYMO := do
  if !n.hasOngoingRouteDiscovery target then throw .ongoingRouteDiscovery
  let n := (n.targetAddressToDelayedPackets target).foldl (fun n d => n.observe (release d)) n
  pure (n.eraseDelayedDatagrams target)

def completeRouteDiscovery (target : IPv4Address) : Except Fault XDYMO :=
  n.endRouteDiscovery .reinjected target

def cancelRouteDiscovery (target : IPv4Address) : Except Fault XDYMO :=
  n.endRouteDiscovery .dropped target

/-! ### Timers -/

/-- `cancelEvent` for a timer: it is taken out of the event queue. -/
def cancelEvent (id : ℕ) : XDYMO := { n with scheduled := n.scheduled.filter fun e => e.2.id ≠ id }

section

variable (target : IPv4Address)

/-- The number of the timer that is registered for the target. -/
def find : Except Fault ℕ :=
  match n.targetAddressToRREQTimer.lookup target with
  | some id => pure id
  | none => throw .noTimer

def cancelRREQTimer : Except Fault XDYMO := do
  let id ← n.find target
  pure (n.cancelEvent id)

def deleteRREQTimer : Except Fault XDYMO := do
  let _ ← n.find target
  pure n

def eraseRREQTimer : Except Fault XDYMO := do
  let _ ← n.find target
  pure { n with targetAddressToRREQTimer := n.targetAddressToRREQTimer.erase target }

end

/-- A new timer. -/
def createRREQTimer (kind : TimerKind) (target : IPv4Address) : RREQTimer × XDYMO :=
  (⟨n.nextTimer, kind, target⟩, { n with nextTimer := n.nextTimer + 1 })

/-- The timer is registered under its target and scheduled. -/
def scheduleRREQTimer (arrivalTime : ℤ) (message : RREQTimer) : XDYMO :=
  { n with
    targetAddressToRREQTimer := n.targetAddressToRREQTimer.insert message.target message.id
    scheduled := n.scheduled ++ [(arrivalTime, message)] }

def createRREQWaitRREPTimer (target : IPv4Address) (retryCount : ℤ) : RREQTimer × XDYMO :=
  n.createRREQTimer (.waitRREP retryCount) target

def scheduleRREQWaitRREPTimer (message : RREQTimer) : XDYMO :=
  n.scheduleRREQTimer (now + c.routeRREQWaitTime) message

def createRREQBackoffTimer (target : IPv4Address) (retryCount : ℤ) : RREQTimer × XDYMO :=
  n.createRREQTimer (.backoff retryCount) target

def scheduleRREQBackoffTimer (message : RREQTimer) (retryCount : ℤ) : XDYMO :=
  n.scheduleRREQTimer (now + c.computeRREQBackoffTime retryCount) message

def createRREQHolddownTimer (target : IPv4Address) : RREQTimer × XDYMO :=
  n.createRREQTimer .holddown target

def scheduleRREQHolddownTimer (message : RREQTimer) : XDYMO :=
  n.scheduleRREQTimer (now + c.rreqHolddownTime) message

/-! ### Route discovery -/

/-- `sendRREQ` of a new `RREQ`. -/
def sendRREQ (target : IPv4Address) (retryCount : ℤ) : XDYMO :=
  n.observe (.sentRREQ target retryCount)

def startRouteDiscovery (target : IPv4Address) : Except Fault XDYMO := do
  if n.hasOngoingRouteDiscovery target then throw .ongoingRouteDiscovery
  let n := n.sendRREQ target 0
  let (message, n) := n.createRREQWaitRREPTimer target 0
  pure (n.scheduleRREQWaitRREPTimer c now message)

def retryRouteDiscovery (target : IPv4Address) (retryCount : ℤ) : Except Fault XDYMO := do
  if !n.hasOngoingRouteDiscovery target then throw .ongoingRouteDiscovery
  let n := n.sendRREQ target retryCount
  let (message, n) := n.createRREQWaitRREPTimer target retryCount
  pure (n.scheduleRREQWaitRREPTimer c now message)

/-! ### Timers that expire -/

def processRREQWaitRREPTimer (target : IPv4Address) (retryCount : ℤ) : Except Fault XDYMO :=
  if retryCount = c.discoveryAttemptsMax - 1 then do
    let n ← n.cancelRouteDiscovery target
    let n ← n.cancelRREQTimer target
    let n ← n.eraseRREQTimer target
    let (message, n) := n.createRREQHolddownTimer target
    pure (n.scheduleRREQHolddownTimer c now message)
  else
    let (message, n) := n.createRREQBackoffTimer target retryCount
    pure (n.scheduleRREQBackoffTimer c now message retryCount)

def processRREQBackoffTimer (target : IPv4Address) (retryCount : ℤ) : Except Fault XDYMO :=
  n.retryRouteDiscovery c now target (retryCount + 1)

def processRREQHolddownTimer (target : IPv4Address) : Except Fault XDYMO := do
  let n ← n.eraseRREQTimer target
  if n.hasDelayedDatagrams target then n.startRouteDiscovery c now target else pure n

/-- `processSelfMessage`. -/
def processSelfMessage (message : RREQTimer) : Except Fault XDYMO :=
  match message.kind with
  | .waitRREP retryCount => n.processRREQWaitRREPTimer c now message.target retryCount
  | .backoff retryCount => n.processRREQBackoffTimer c now message.target retryCount
  | .holddown => n.processRREQHolddownTimer c now message.target

/-! ### Route replies and datagrams -/

/-- `permissibleRteMsg`, for an `RREP`. -/
def permissibleRteMsg (rteMsg : RREP) : Bool :=
  let isRoutable (address : IPv4Address) :=
    !(address.isUnspecified || address.isMulticast || address == allonesAddress)
  rteMsg.timeToLive == 254 && rteMsg.hopLimit != 0 && rteMsg.hopCount < c.maxHopCount &&
    (rteMsg.targetNode.hasMetric && rteMsg.targetNode.hasSequenceNumber) &&
    (isRoutable rteMsg.originatorNode.address && isRoutable rteMsg.targetNode.address) &&
    (rteMsg.originatorNode.isHopCount && rteMsg.targetNode.isHopCount)

/-- The `RREP` answers a request of the module. -/
def isAnswer (rt : IRoutingTable) (rrep : RREP) : Bool :=
  permissibleRteMsg c rrep && isClientAddress c rt rrep.originatorNode.address

def processRREP (rt : IRoutingTable) (rrepIncoming : RREP) : Except Fault XDYMO := do
  let target := rrepIncoming.targetNode.address
  if isAnswer c rt rrepIncoming && n.hasOngoingRouteDiscovery target then
    let n ← n.completeRouteDiscovery target
    let n ← n.cancelRREQTimer target
    let n ← n.deleteRREQTimer target
    n.eraseRREQTimer target
  else
    -- the message is dropped, forwarded, or of no use any more
    pure n

/-- `ensureRouteForDatagram`. -/
def ensureRouteForDatagram (rt : IRoutingTable) (datagram : Datagram) : Except Fault XDYMO :=
  let destination := datagram.destAddr
  if destination.isMulticast || destination == allonesAddress || rt.isLocalAddress destination then
    pure n
  else
    let route := rt.findBestMatchingRoute destination
    let broken := (route.bind Route.broken).getD false
    if (route.any fun r => !r.gateway.isUnspecified) && !broken then pure n
    else if datagram.srcAddr.isUnspecified || isClientAddress c rt datagram.srcAddr then
      let n := n.delayDatagram datagram
      if !n.hasOngoingRouteDiscovery destination then n.startRouteDiscovery c now destination
      else pure n
    else pure n

/-! ### Lifecycle -/

/-- `NodeShutdownOperation`: the loop over the registered timers, in the order of their targets. -/
def shutdown : Except Fault XDYMO := do
  let targets := n.targetAddressToRREQTimer.keys.mergeSort fun a b => a.toNat ≤ b.toNat
  let n ← targets.foldlM cancelRouteDiscovery n
  pure { n with isNodeUp := false }

/-- `NodeCrashOperation`. -/
def crash : XDYMO :=
  { n with
    isNodeUp := false
    targetAddressToRREQTimer := ∅
    targetAddressToDelayedPackets := fun _ => [] }

/-- What happens to the module. -/
inductive Message
  | datagram (rt : IRoutingTable) (datagram : Datagram)
  | rrep (rt : IRoutingTable) (rrep : RREP)
  | timer (id : ℕ)
  | start
  | shutdown
  | crash

/-- A timer that expires is no longer in the event queue when it is handled. -/
def handleMessage (m : ℤ × Message) : Except Fault XDYMO :=
  match m.2 with
  | .datagram rt datagram => n.ensureRouteForDatagram c m.1 rt datagram
  | .rrep rt rrep => if !n.isNodeUp then throw .notRunning else n.processRREP c rt rrep
  | .timer id =>
    match n.scheduled.find? fun e => e.2.id = id with
    | none => pure n
    | some e =>
      if !n.isNodeUp then throw .notRunning
      else (n.cancelEvent id).processSelfMessage c m.1 e.2
  | .start => pure { n with isNodeUp := true }
  | .shutdown => n.shutdown
  | .crash => pure n.crash

/-- A timer expires when its time has come; datagrams pass through the module of a node that is up;
a node that is down can be started, and one that is up shut down or crash. -/
def CanHappen (m : ℤ × Message) : Prop :=
  match m.2 with
  | .datagram .. | .shutdown | .crash => n.isNodeUp = true
  | .rrep .. => True
  | .timer id => ∃ e ∈ n.scheduled, e.1 = m.1 ∧ e.2.id = id
  | .start => n.isNodeUp = false

instance (m : ℤ × Message) : Decidable (n.CanHappen m) := by
  unfold CanHappen
  split <;> infer_instance

end XDYMO

end Dymo

end Hiwis
