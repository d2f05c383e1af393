import Hiwis.Ipv4.InterfaceEntry
import Hiwis.Lib.Trace

/-!
# AODV

`AODVRouting`: the state of one node, and its handlers.  Each handler takes the time; what the node
sends is collected in `outbox`, and what it does to datagrams and requests in `log`.  The routes are
those that the module has added, which have the longest netmask: another route that matches is
treated as none.  Of the timers only `WaitForRREP` is kept with its time; when the others expire is
left open.
-/

namespace Hiwis

open Function

namespace Aodv

open IPv4Address

/-- An `unsigned int` as an `int`. -/
def toInt (a : ℕ) : ℤ :=
  if a % 2 ^ 32 < 2 ^ 31 then (a % 2 ^ 32 : ℕ) else (a % 2 ^ 32 : ℕ) - 2 ^ 32

/-! ### Packets -/

/-- `AODVRREQ`. -/
structure RREQ where
  gratuitousRREPFlag : Bool
  unknownSeqNumFlag : Bool
  hopCount : ℕ
  rreqId : ℕ
  destAddr : IPv4Address
  destSeqNum : ℕ
  originatorAddr : IPv4Address
  originatorSeqNum : ℕ
  deriving DecidableEq

/-- `AODVRREP`. -/
structure RREP where
  ackRequiredFlag : Bool := false
  hopCount : ℕ
  destAddr : IPv4Address
  destSeqNum : ℕ
  originatorAddr : IPv4Address := unspecifiedAddress
  originatorSeqNum : ℕ := 0
  lifeTime : ℤ
  deriving DecidableEq

/-- `UnreachableNode`. -/
structure UnreachableNode where
  addr : IPv4Address
  seqNum : ℕ
  deriving DecidableEq

/-- `AODVControlPacket`. -/
inductive ControlPacket
  | rreq (rreq : RREQ)
  | rrep (rrep : RREP)
  | rerr (unreachableNodes : List UnreachableNode)
  | rrepAck
  deriving DecidableEq

/-- A control packet with its control information. -/
structure Packet where
  srcAddr : IPv4Address
  destAddr : IPv4Address
  timeToLive : ℕ
  body : ControlPacket
  deriving DecidableEq

/-- `IPv4Datagram`. -/
structure Datagram where
  id : ℕ
  srcAddr : IPv4Address
  destAddr : IPv4Address
  deriving DecidableEq

/-! ### The state of a node -/

/-- An `IPv4Route` with its `AODVRouteData`. -/
structure Route where
  dest : IPv4Address
  gateway : IPv4Address
  metric : ℕ
  precursorList : List IPv4Address
  active : Bool
  validDestNum : Bool
  destSeqNum : ℕ
  lifeTime : ℤ
  deriving DecidableEq

inductive AodvFault
  /-- A failed `ASSERT`. -/
  | assertion
  | nullPointer
  deriving DecidableEq

/-- The parameters. -/
structure AodvConfig where
  rerrRatelimit : ℕ
  askGratuitousRREP : Bool
  activeRouteTimeout : ℤ
  helloInterval : ℤ
  netDiameter : ℕ
  rreqRetries : ℕ
  rreqRatelimit : ℕ
  ttlStart : ℕ
  ttlIncrement : ℕ
  ttlThreshold : ℕ
  allowedHelloLoss : ℕ
  nodeTraversalTime : ℤ
  timeoutBuffer : ℕ
  deletePeriod : ℤ
  myRouteTimeout : ℤ
  blacklistTimeout : ℤ
  netTraversalTime : ℤ
  pathDiscoveryTime : ℤ
  rebootTime : ℤ
  deriving DecidableEq

/-- A timer of a route discovery.  `arrivalTime` is the time that it is scheduled for. -/
structure WaitForRREP where
  lastTTL : ℕ
  arrivalTime : Option ℤ
  deriving DecidableEq

/-- What a node does to datagrams, route discoveries and requests. -/
inductive Observation
  | delayed (datagram : Datagram)
  | started (target : IPv4Address)
  /-- The discovery is completed, and the datagrams are sent. -/
  | completed (target : IPv4Address) (reinjected : List Datagram)
  /-- The discovery is given up, and the datagrams are dropped. -/
  | givenUp (target : IPv4Address) (dropped : List Datagram)
  | originated (time : ℤ) (originatorAddr : IPv4Address) (rreqId : ℕ)
  | accepted (time : ℤ) (originatorAddr : IPv4Address) (rreqId : ℕ)
  | discarded (time : ℤ) (originatorAddr : IPv4Address) (rreqId : ℕ)
  | forwarded (time : ℤ) (originatorAddr : IPv4Address) (rreqId : ℕ)
  deriving DecidableEq

/-- The default values, in milliseconds. -/
def defaultConfig : AodvConfig where
  rerrRatelimit := 10
  askGratuitousRREP := false
  activeRouteTimeout := 3000
  helloInterval := 1000
  netDiameter := 35
  rreqRetries := 2
  rreqRatelimit := 10
  ttlStart := 2
  ttlIncrement := 2
  ttlThreshold := 7
  allowedHelloLoss := 2
  nodeTraversalTime := 40
  timeoutBuffer := 2
  deletePeriod := 15000
  myRouteTimeout := 6000
  blacklistTimeout := 5600
  netTraversalTime := 2800
  pathDiscoveryTime := 5600
  rebootTime := 0

/-- `AODVRouting`.  The identifiers of route requests are compared by their number. -/
structure AODVRouting extends AodvConfig where
  selfIPAddress : IPv4Address
  routes : List Route := []
  rreqId : ℕ := 0
  sequenceNum : ℕ := 0
  waitForRREPTimers : IPv4Address → Option WaitForRREP := fun _ => none
  rreqsArrivalTime : ℕ → Option ℤ := fun _ => none
  failedNextHop : IPv4Address := unspecifiedAddress
  blacklist : IPv4Address → Option ℤ := fun _ => none
  rerrCount : ℕ := 0
  rreqCount : ℕ := 0
  lastBroadcastTime : ℤ := 0
  addressToRreqRetries : IPv4Address → Option ℕ := fun _ => none
  rrepAckTimer : Bool := false
  targetAddressToDelayedPackets : IPv4Address → List Datagram := fun _ => []
  outbox : List Packet := []
  log : List Observation := []

namespace AODVRouting

/-! ### The routing table -/

section

variable (n : AODVRouting)

def findRoute (addr : IPv4Address) : Option Route := n.routes.find? fun route => route.dest == addr

def modifyRoute (addr : IPv4Address) (f : Route → Route) : AODVRouting :=
  { n with routes := n.routes.map fun route => if route.dest = addr then f route else route }

def updateRoutingTable (addr nextHop : IPv4Address) (hopCount : ℕ) (hasValidDestNum : Bool)
    (destSeqNum : ℕ) (isActive : Bool) (lifeTime : ℤ) : AODVRouting :=
  n.modifyRoute addr fun route => { route with
    gateway := nextHop
    metric := hopCount
    lifeTime := lifeTime
    destSeqNum := destSeqNum
    active := isActive
    validDestNum := hasValidDestNum }

/-- The table is sorted by destination. -/
def createRoute (destAddr nextHop : IPv4Address) (hopCount : ℕ) (hasValidDestNum : Bool)
    (destSeqNum : ℕ) (isActive : Bool) (lifeTime : ℤ) : AODVRouting :=
  { n with
    routes := n.routes.orderedInsert (fun a b => a.dest.toNat ≤ b.dest.toNat)
      { dest := destAddr
        gateway := nextHop
        metric := hopCount
        precursorList := []
        active := isActive
        validDestNum := hasValidDestNum
        destSeqNum := destSeqNum
        lifeTime := lifeTime } }

/-- Creates the route, or updates it. -/
def setRoute (destAddr nextHop : IPv4Address) (hopCount : ℕ) (hasValidDestNum : Bool)
    (destSeqNum : ℕ) (isActive : Bool) (lifeTime : ℤ) : AODVRouting :=
  match n.findRoute destAddr with
  | none => n.createRoute destAddr nextHop hopCount hasValidDestNum destSeqNum isActive lifeTime
  | some _ =>
    n.updateRoutingTable destAddr nextHop hopCount hasValidDestNum destSeqNum isActive lifeTime

def addPrecursor (addr precursorAddr : IPv4Address) : AODVRouting :=
  n.modifyRoute addr fun route =>
    { route with precursorList := route.precursorList.insert precursorAddr }

def setLifeTime (addr : IPv4Address) (lifeTime : ℤ) : AODVRouting :=
  n.modifyRoute addr fun route => { route with lifeTime := lifeTime }

def updateValidRouteLifeTime (destAddr : IPv4Address) (lifetime : ℤ) :
    AODVRouting :=
  match n.findRoute destAddr with
  | none => n
  | some route =>
    if route.active then n.setLifeTime destAddr (max route.lifeTime lifetime) else n

def hasOngoingRouteDiscovery (target : IPv4Address) : Bool := (n.waitForRREPTimers target).isSome

/-- The node has not been rebooted, or long ago. -/
def isReady (now : ℤ) : Bool :=
  decide (n.rebootTime + n.deletePeriod < now) || n.rebootTime == 0

def observe (observation : Observation) : AODVRouting := { n with log := n.log ++ [observation] }

end

/-! ### Sending -/

section

variable (n : AODVRouting)

def sendAODVPacket (now : ℤ) (body : ControlPacket) (destAddr : IPv4Address) (timeToLive : ℕ) :
    AODVRouting :=
  { n with
    lastBroadcastTime := if destAddr = allonesAddress then now else n.lastBroadcastTime
    outbox := n.outbox ++ [⟨n.selfIPAddress, destAddr, timeToLive, body⟩] }

/-- The TTL of a request.  A timer that goes on must have expired. -/
def requestTTL (target : IPv4Address) (timeToLive : ℕ) : Except AodvFault ℕ :=
  match n.waitForRREPTimers target with
  | some timer =>
    if timeToLive ≠ 0 then .ok timeToLive
    else if timer.arrivalTime.isSome then .error .assertion
    else if timer.lastTTL + n.ttlIncrement < n.ttlThreshold then
      .ok (timer.lastTTL + n.ttlIncrement)
    else .ok n.netDiameter
  | none => .ok n.ttlStart

/-- The timer waits for the time that a request with this TTL needs. -/
def scheduleWaitForRREP (now : ℤ) (target : IPv4Address) (timeToLive : ℕ) :
    AODVRouting :=
  let ringTraversalTime := 2 * n.nodeTraversalTime * (timeToLive + n.timeoutBuffer)
  { n with
    waitForRREPTimers := update n.waitForRREPTimers target
      (some ⟨timeToLive, some (now + ringTraversalTime)⟩) }

def sendRREQ (now : ℤ) (rreq : RREQ) (destAddr : IPv4Address) (timeToLive : ℕ) :
    Except AodvFault AODVRouting :=
  if n.rreqRatelimit ≤ n.rreqCount then .ok n
  else do
    let ttl ← n.requestTTL rreq.destAddr timeToLive
    if ttl = 0 then .error .assertion
    else
      let n := n.scheduleWaitForRREP now rreq.destAddr ttl
      let n := n.sendAODVPacket now (.rreq rreq) destAddr ttl
      .ok { n with rreqCount := n.rreqCount + 1 }

def sendRREP (now : ℤ) (rrep : RREP) (destAddr : IPv4Address) (timeToLive : ℕ) :
    Except AodvFault AODVRouting :=
  match n.findRoute destAddr with
  | none => .error .nullPointer
  | some destRoute =>
    let nextHop := destRoute.gateway
    let n := n.addPrecursor destAddr nextHop
    if destRoute.metric = 1 then
      let n := { n with failedNextHop := nextHop, rrepAckTimer := true }
      .ok (n.sendAODVPacket now (.rrep { rrep with ackRequiredFlag := true }) nextHop timeToLive)
    else .ok (n.sendAODVPacket now (.rrep rrep) nextHop timeToLive)

def sendGRREP (now : ℤ) (grrep : RREP) (destAddr : IPv4Address) (timeToLive : ℕ) :
    Except AodvFault AODVRouting :=
  match n.findRoute destAddr with
  | none => .error .nullPointer
  | some destRoute => .ok (n.sendAODVPacket now (.rrep grrep) destRoute.gateway timeToLive)

def createRREQ (now : ℤ) (destAddr : IPv4Address) : AODVRouting × RREQ :=
  let lastKnown := (n.findRoute destAddr).filter Route.validDestNum
  let n := { n with
    sequenceNum := (n.sequenceNum + 1) % 2 ^ 32
    rreqId := (n.rreqId + 1) % 2 ^ 32 }
  let n := { n with rreqsArrivalTime := update n.rreqsArrivalTime n.rreqId (some now) }
  (n.observe (.originated now n.selfIPAddress n.rreqId), {
    gratuitousRREPFlag := n.askGratuitousRREP
    unknownSeqNumFlag := lastKnown.isNone
    hopCount := 0
    rreqId := n.rreqId
    destAddr := destAddr
    destSeqNum := (lastKnown.map Route.destSeqNum).getD 0
    originatorAddr := n.selfIPAddress
    originatorSeqNum := n.sequenceNum })

/-- The reply of the destination. -/
def createRREP (rreq : RREQ) : AODVRouting × RREP :=
  let n :=
    if !rreq.unknownSeqNumFlag ∧ (n.sequenceNum + 1) % 2 ^ 32 = rreq.destSeqNum then
      { n with sequenceNum := (n.sequenceNum + 1) % 2 ^ 32 }
    else n
  (n, {
    destAddr := rreq.destAddr
    originatorSeqNum := rreq.originatorSeqNum
    originatorAddr := rreq.originatorAddr
    destSeqNum := n.sequenceNum
    hopCount := 0
    lifeTime := n.myRouteTimeout })

/-- The reply of a node that knows a route. -/
def createIntermediateRREP (now : ℤ) (rreq : RREQ) (destRoute : Route) (lastHopAddr : IPv4Address) :
    AODVRouting × RREP :=
  let n := n.addPrecursor rreq.destAddr lastHopAddr
  let n := n.addPrecursor rreq.originatorAddr destRoute.gateway
  (n, {
    destAddr := rreq.destAddr
    originatorSeqNum := rreq.originatorSeqNum
    originatorAddr := rreq.originatorAddr
    destSeqNum := destRoute.destSeqNum
    hopCount := destRoute.metric
    lifeTime := destRoute.lifeTime - now })

end

def createGratuitousRREP (rreq : RREQ) (originatorRoute : Route) : RREP where
  hopCount := originatorRoute.metric
  destAddr := rreq.originatorAddr
  destSeqNum := rreq.originatorSeqNum
  originatorAddr := rreq.destAddr
  lifeTime := originatorRoute.lifeTime

def createHelloMessage (n : AODVRouting) : RREP where
  destAddr := n.selfIPAddress
  destSeqNum := n.sequenceNum
  hopCount := 0
  lifeTime := n.allowedHelloLoss * n.helloInterval

/-! ### Route discovery -/

section

variable (n : AODVRouting)

def startRouteDiscovery (now : ℤ) (target : IPv4Address) (timeToLive : ℕ) :
    Except AodvFault AODVRouting :=
  if n.hasOngoingRouteDiscovery target then .error .assertion
  else
    let (n, rreq) := (n.observe (.started target)).createRREQ now target
    let n := { n with
      addressToRreqRetries := update n.addressToRreqRetries target (some 0) }
    n.sendRREQ now rreq allonesAddress timeToLive

/-- The datagrams that wait for a route are sent. -/
def completeRouteDiscovery (target : IPv4Address) : AODVRouting :=
  let n := n.observe (.completed target (n.targetAddressToDelayedPackets target))
  { n with
    targetAddressToDelayedPackets := update n.targetAddressToDelayedPackets target []
    waitForRREPTimers := update n.waitForRREPTimers target none }

def delayDatagram (datagram : Datagram) : AODVRouting :=
  let target := datagram.destAddr
  let n := n.observe (.delayed datagram)
  { n with
    targetAddressToDelayedPackets := update n.targetAddressToDelayedPackets target
      (n.targetAddressToDelayedPackets target ++ [datagram]) }

/-- The hook for a datagram that arrives, or that the node sends itself. -/
def ensureRouteForDatagram (now : ℤ) (datagram : Datagram) :
    Except AodvFault AODVRouting :=
  let destAddr := datagram.destAddr
  let sourceAddr := datagram.srcAddr
  if destAddr = allonesAddress ∨ destAddr = n.selfIPAddress ∨ destAddr.isMulticast then .ok n
  else
    let route := n.findRoute destAddr
    match route.filter fun route => route.active && !route.gateway.isUnspecified with
    | some route =>
      let n := n.updateValidRouteLifeTime destAddr (now + n.activeRouteTimeout)
      .ok (n.updateValidRouteLifeTime route.gateway (now + n.activeRouteTimeout))
    | none =>
      if sourceAddr.isUnspecified ∨ sourceAddr = n.selfIPAddress then
        let n := n.delayDatagram datagram
        if n.hasOngoingRouteDiscovery destAddr then .ok n
        else
          match route.filter fun route => !route.active with
          | some route => n.startRouteDiscovery now destAddr (route.metric + n.ttlIncrement)
          | none => n.startRouteDiscovery now destAddr 0
      else .ok n

/-- The attempts at the maximum TTL are counted. -/
def countRetry (destAddr : IPv4Address) (lastTTL retries : ℕ) : AODVRouting :=
  if lastTTL = n.netDiameter then
    { n with
      addressToRreqRetries := update n.addressToRreqRetries destAddr (some (retries + 1)) }
  else n

/-- The timer has expired.  After the last attempt nothing more is sent. -/
def handleWaitForRREP (now : ℤ) (destAddr : IPv4Address) :
    Except AodvFault AODVRouting :=
  match n.addressToRreqRetries destAddr, n.waitForRREPTimers destAddr with
  | some retries, some timer =>
    if retries = n.rreqRetries then .ok (n.observe (.givenUp destAddr []))
    else
      let (n, rreq) := n.createRREQ now destAddr
      (n.countRetry destAddr timer.lastTTL retries).sendRREQ now rreq allonesAddress 0
  | _, _ => .error .assertion

/-- A timer that expires is not scheduled any more. -/
def expireWaitForRREP (target : IPv4Address) : AODVRouting :=
  { n with
    waitForRREPTimers := update n.waitForRREPTimers target
      ((n.waitForRREPTimers target).map fun timer => { timer with arrivalTime := none }) }

end

/-! ### Replies -/

def handleHelloMessage (n : AODVRouting) (now : ℤ) (helloMessage : RREP) : AODVRouting :=
  let newLifeTime := now + n.allowedHelloLoss * n.helloInterval
  let lifeTime := match n.findRoute helloMessage.destAddr with
    | none => newLifeTime
    | some route => max route.lifeTime newLifeTime
  n.setRoute helloMessage.destAddr helloMessage.destAddr 1 true helloMessage.destSeqNum true
    lifeTime

/-- An existing route is replaced by the one that the reply announces. -/
def acceptsRREP (route : Route) (rrep : RREP) : Bool :=
  !route.validDestNum || decide (route.destSeqNum < rrep.destSeqNum) ||
    (rrep.destSeqNum == route.destSeqNum && !route.active) ||
    (rrep.destSeqNum == route.destSeqNum && decide (rrep.hopCount < route.metric))

section

variable (n : AODVRouting) (now : ℤ) (rrep : RREP) (sourceAddr : IPv4Address)

/-- The route that the reply announces, with the hop count incremented. -/
def acceptRREP :
    AODVRouting :=
  n.setRoute rrep.destAddr sourceAddr rrep.hopCount true rrep.destSeqNum true (now + rrep.lifeTime)

/-- The forward route is created or updated. -/
def setForwardRoute :
    AODVRouting :=
  match n.findRoute rrep.destAddr with
  | none => n.acceptRREP now rrep sourceAddr
  | some destRoute =>
    if acceptsRREP destRoute rrep then n.acceptRREP now rrep sourceAddr else n

/-- The node is not the originator: it forwards the reply, if it knows where to. -/
def relayRREP :
    Except AodvFault AODVRouting :=
  match n.findRoute rrep.originatorAddr with
  | none => .ok n
  | some originatorRoute =>
    let n := n.setLifeTime rrep.originatorAddr
      (max (now + n.activeRouteTimeout) originatorRoute.lifeTime)
    if n.isReady now then
      let n := if rrep.ackRequiredFlag then n.sendAODVPacket now .rrepAck sourceAddr 100 else n
      let n := n.addPrecursor rrep.destAddr originatorRoute.gateway
      match n.findRoute rrep.destAddr with
      | none => .error .nullPointer
      | some destRoute =>
        match n.findRoute destRoute.gateway with
        | none => .error .assertion
        | some _ =>
          let n := n.addPrecursor destRoute.gateway originatorRoute.gateway
          .ok (n.sendAODVPacket now (.rrep { rrep with ackRequiredFlag := false })
            originatorRoute.gateway 100)
    else .ok n

def handleRREP :
    Except AodvFault AODVRouting :=
  if rrep.originatorAddr.isUnspecified then .ok (n.handleHelloMessage now rrep)
  else
    let n := n.setRoute sourceAddr sourceAddr 1 false rrep.originatorSeqNum true
      (now + n.activeRouteTimeout)
    let rrep := { rrep with hopCount := (rrep.hopCount + 1) % 2 ^ 32 }
    let n := n.setForwardRoute now rrep sourceAddr
    if n.selfIPAddress ≠ rrep.originatorAddr then n.relayRREP now rrep sourceAddr
    else if n.hasOngoingRouteDiscovery rrep.destAddr then
      .ok ((n.acceptRREP now rrep sourceAddr).completeRouteDiscovery rrep.destAddr)
    else .ok n

end

def handleRREPACK (n : AODVRouting) (neighborAddr : IPv4Address) : Except AodvFault AODVRouting :=
  if !n.rrepAckTimer then .error .assertion
  else
    match n.findRoute neighborAddr with
    | none => .ok n
    | some _ =>
      let n := n.modifyRoute neighborAddr fun route => { route with active := true }
      .ok { n with rrepAckTimer := false }

/-! ### Requests -/

/-- An existing reverse route is replaced by the one that the request announces. -/
def acceptsRREQ (route : Route) (rreq : RREQ) : Bool :=
  decide (toInt route.destSeqNum < toInt rreq.originatorSeqNum) ||
    (toInt rreq.originatorSeqNum == toInt route.destSeqNum &&
      decide (toInt rreq.hopCount < toInt route.metric)) ||
    rreq.unknownSeqNumFlag

/-- The greater sequence number, as signed numbers. -/
def maxSeqNum (a b : ℕ) : ℕ := if toInt a < toInt b then b else a

/-- The reverse route is created or updated. -/
def setReverseRoute (n : AODVRouting) (now : ℤ) (rreq : RREQ) (sourceAddr : IPv4Address) :
    AODVRouting :=
  let minimalLifeTime := now + 2 * n.netTraversalTime - 2 * rreq.hopCount * n.nodeTraversalTime
  let newLifeTime := max now minimalLifeTime
  match n.findRoute rreq.originatorAddr with
  | none => n.setRoute rreq.originatorAddr sourceAddr rreq.hopCount true rreq.originatorSeqNum true
      newLifeTime
  | some reverseRoute =>
    if acceptsRREQ reverseRoute rreq then
      n.setRoute rreq.originatorAddr sourceAddr rreq.hopCount true
        (maxSeqNum reverseRoute.destSeqNum rreq.originatorSeqNum) true newLifeTime
    else n

/-- The node answers from its own routing table. -/
def canReply (destRoute : Route) (rreq : RREQ) : Bool :=
  destRoute.active && destRoute.validDestNum && decide (rreq.destSeqNum ≤ destRoute.destSeqNum)

section

variable (n : AODVRouting) (now : ℤ) (rreq : RREQ)

/-- The node does not know an active route that is fresh enough. -/
def relayRREQ (timeToLive : ℕ) : AODVRouting :=
  if 0 < timeToLive ∧ n.isReady now then
    let rreq := match n.findRoute rreq.destAddr with
      | none => rreq
      | some destRoute => { rreq with destSeqNum := max destRoute.destSeqNum rreq.destSeqNum }
    let n := n.observe (.forwarded now rreq.originatorAddr rreq.rreqId)
    n.sendAODVPacket now (.rreq { rreq with unknownSeqNumFlag := false }) allonesAddress timeToLive
  else n

/-- A request with this number has arrived lately. -/
def isDuplicate : Bool :=
  (n.rreqsArrivalTime rreq.rreqId).any fun time => decide (now - time ≤ n.pathDiscoveryTime)

/-- The request has been accepted, and its hop count incremented. -/
def answerRREQ (sourceAddr : IPv4Address) (timeToLive : ℕ) : Except AodvFault AODVRouting :=
  if rreq.destAddr = n.selfIPAddress then
    let (n, rrep) := n.createRREP rreq
    n.sendRREP now rrep rreq.originatorAddr 255
  else
    match (n.findRoute rreq.destAddr).filter (canReply · rreq) with
    | some destRoute =>
      if destRoute.gateway = sourceAddr then .ok n
      else do
        let (n, rrep) := n.createIntermediateRREP now rreq destRoute sourceAddr
        let n ← n.sendRREP now rrep rreq.originatorAddr 255
        if rreq.gratuitousRREPFlag then
          match n.findRoute rreq.originatorAddr with
          | none => .error .assertion
          | some originatorRoute =>
            n.sendGRREP now (createGratuitousRREP rreq originatorRoute) rreq.destAddr 100
        else .ok n
    | none => .ok (n.relayRREQ now rreq timeToLive)

def handleRREQ (sourceAddr : IPv4Address) (timeToLive : ℕ) : Except AodvFault AODVRouting :=
  if (n.blacklist sourceAddr).isSome then .ok n
  else
    let n := n.setRoute sourceAddr sourceAddr 1 false rreq.originatorSeqNum true
      (now + n.activeRouteTimeout)
    if n.isDuplicate now rreq then
      .ok (n.observe (.discarded now rreq.originatorAddr rreq.rreqId))
    else
      let n := n.observe (.accepted now rreq.originatorAddr rreq.rreqId)
      let n := { n with
        rreqsArrivalTime := update n.rreqsArrivalTime rreq.rreqId (some now) }
      let rreq := { rreq with hopCount := (rreq.hopCount + 1) % 2 ^ 32 }
      (n.setReverseRoute now rreq sourceAddr).answerRREQ now rreq sourceAddr timeToLive

end

/-! ### Errors -/

section

variable (n : AODVRouting) (now : ℤ)

/-- A route whose next hop is lost. -/
def breakRoute (route : Route) : Route :=
  { route with
    destSeqNum := if route.validDestNum then (route.destSeqNum + 1) % 2 ^ 32 else route.destSeqNum
    active := false
    lifeTime := now + n.deletePeriod }

def breakRoutes (unreachableAddr : IPv4Address) : AODVRouting :=
  { n with
    routes := n.routes.map fun route =>
      if route.gateway = unreachableAddr then n.breakRoute now route else route }

def sendRERR (unreachableNodes : List UnreachableNode) : AODVRouting :=
  let n := n.sendAODVPacket now (.rerr unreachableNodes) allonesAddress 1
  { n with rerrCount := n.rerrCount + 1 }

def handleLinkBreakSendRERR (unreachableAddr : IPv4Address) :
    AODVRouting :=
  match n.findRoute unreachableAddr with
  | none => n
  | some unreachableRoute =>
    let broken := n.routes.filter fun route => route.gateway == unreachableAddr
    let unreachableNodes := ⟨unreachableAddr, unreachableRoute.destSeqNum⟩ ::
      broken.map fun route => ⟨route.dest, (n.breakRoute now route).destSeqNum⟩
    let n := n.breakRoutes now unreachableAddr
    if n.rerrRatelimit ≤ n.rerrCount then n else n.sendRERR now unreachableNodes

/-- `receiveChangeNotification`, for a datagram that could not be sent. -/
def handleLinkBreak (unreachableAddr : IPv4Address) : AODVRouting :=
  match n.findRoute unreachableAddr with
  | none => n
  | some route => n.handleLinkBreakSendRERR now route.gateway

section

variable (unreachableNodes : List UnreachableNode)

/-- A route, after an error that its next hop has reported. -/
def reportRoute (route : Route) : Route :=
  (unreachableNodes.filter fun node => node.addr == route.dest).foldl (fun route node =>
    { route with
      destSeqNum := node.seqNum
      active := false
      lifeTime := now + n.deletePeriod }) route

def reportRoutes (sourceAddr : IPv4Address) :
    AODVRouting :=
  { n with
    routes := n.routes.map fun route =>
      if route.gateway = sourceAddr then n.reportRoute now unreachableNodes route else route }

def handleRERR (sourceAddr : IPv4Address) : AODVRouting :=
  let unreachableNeighbors := n.routes.flatMap fun route =>
    if route.gateway = sourceAddr ∧ route.precursorList ≠ [] then
      unreachableNodes.filter fun node => node.addr == route.dest
    else []
  let n := n.reportRoutes now unreachableNodes sourceAddr
  if n.rerrRatelimit ≤ n.rerrCount then n
  else if unreachableNeighbors ≠ [] ∧ n.isReady now then n.sendRERR now unreachableNeighbors
  else n

end

def sendRERRWhenNoRouteToForward (unreachableAddr : IPv4Address) :
    AODVRouting :=
  if n.rerrRatelimit ≤ n.rerrCount then n
  else
    let known := (n.findRoute unreachableAddr).filter Route.validDestNum
    n.sendRERR now [⟨unreachableAddr, (known.map Route.destSeqNum).getD 0⟩]

/-- The hook for a datagram that the node forwards. -/
def datagramForwardHook (sourceAddr destAddr : IPv4Address) :
    AODVRouting :=
  let lifetime := now + n.activeRouteTimeout
  let updateGateway := fun (n : AODVRouting) (route : Option Route) =>
    match route with
    | none => n
    | some route => n.updateValidRouteLifeTime route.gateway lifetime
  if destAddr = allonesAddress ∨ destAddr = n.selfIPAddress ∨ destAddr.isMulticast then
    if destAddr = n.selfIPAddress then updateGateway n (n.findRoute sourceAddr) else n
  else
    let ipSource := n.findRoute sourceAddr
    let routeDest := n.findRoute destAddr
    let n := n.updateValidRouteLifeTime sourceAddr lifetime
    let n := n.updateValidRouteLifeTime destAddr lifetime
    let n := updateGateway (updateGateway n routeDest) ipSource
    match routeDest with
    | none => n.sendRERRWhenNoRouteToForward now destAddr
    | some route =>
      if route.active then n
      else
        let n := n.modifyRoute destAddr fun route => { route with
          destSeqNum :=
            if route.validDestNum then (route.destSeqNum + 1) % 2 ^ 32 else route.destSeqNum
          lifeTime := now + n.deletePeriod }
        n.sendRERRWhenNoRouteToForward now destAddr

end

/-! ### Timers -/

def sendHelloMessagesIfNeeded (n : AODVRouting) (now : ℤ) : AODVRouting :=
  if (n.routes.any Route.active) ∧
      (n.lastBroadcastTime = 0 ∨ n.helloInterval < now - n.lastBroadcastTime) then
    n.sendAODVPacket now (.rrep n.createHelloMessage) allonesAddress 1
  else n

/-- The loop passes over the route that follows a deleted one. -/
def expungeLoop (n : AODVRouting) (now : ℤ) : List Route → List Route
  | [] => []
  | route :: routes =>
    if route.lifeTime ≤ now then
      if route.active then
        { route with active := false, lifeTime := now + n.deletePeriod } :: n.expungeLoop now routes
      else if n.hasOngoingRouteDiscovery route.dest then
        { route with lifeTime := now + 2 * n.netTraversalTime } :: n.expungeLoop now routes
      else
        match routes with
        | [] => []
        | next :: routes => next :: n.expungeLoop now routes
    else route :: n.expungeLoop now routes

def expungeRoutes (n : AODVRouting) (now : ℤ) : AODVRouting :=
  { n with routes := n.expungeLoop now n.routes }

def handleRREPACKTimer (n : AODVRouting) (now : ℤ) : AODVRouting :=
  { n with
    blacklist := update n.blacklist n.failedNextHop (some (now + n.blacklistTimeout))
    rrepAckTimer := false }

/-- Which nodes are removed is left open: the loop reads the entry that follows. -/
def handleBlackListTimer (n : AODVRouting) (removed : IPv4Address → Bool) : AODVRouting :=
  { n with blacklist := fun addr => if removed addr then none else n.blacklist addr }

def handleCounterTimer (n : AODVRouting) : AODVRouting := { n with rreqCount := 0, rerrCount := 0 }

/-! ### Messages -/

/-- The control packet of an arriving packet, whose TTL is the one that is left. -/
def handlePacket (n : AODVRouting) (now : ℤ) (packet : Packet) : Except AodvFault AODVRouting :=
  match packet.body with
  | .rreq rreq => n.handleRREQ now rreq packet.srcAddr packet.timeToLive
  | .rrep rrep => n.handleRREP now rrep packet.srcAddr
  | .rerr unreachableNodes => .ok (n.handleRERR now unreachableNodes packet.srcAddr)
  | .rrepAck => n.handleRREPACK packet.srcAddr

/-- What a node reacts to. -/
inductive Message
  | packet (packet : Packet)
  | datagram (datagram : Datagram)
  | forward (sourceAddr destAddr : IPv4Address)
  | linkBreak (unreachableAddr : IPv4Address)
  | waitForRREP (target : IPv4Address)
  | helloMsgTimer
  | expungeTimer
  | counterTimer
  | rrepAckTimer
  | blacklistTimer (removed : IPv4Address → Bool)

def handleMessage (n : AODVRouting) (m : ℤ × Message) : Except AodvFault AODVRouting :=
  let now := m.1
  match m.2 with
  | .packet packet => n.handlePacket now packet
  | .datagram datagram => n.ensureRouteForDatagram now datagram
  | .forward sourceAddr destAddr => .ok (n.datagramForwardHook now sourceAddr destAddr)
  | .linkBreak unreachableAddr => .ok (n.handleLinkBreak now unreachableAddr)
  | .waitForRREP target => (n.expireWaitForRREP target).handleWaitForRREP now target
  | .helloMsgTimer => .ok (n.sendHelloMessagesIfNeeded now)
  | .expungeTimer => .ok (n.expungeRoutes now)
  | .counterTimer => .ok n.handleCounterTimer
  | .rrepAckTimer => .ok (n.handleRREPACKTimer now)
  | .blacklistTimer removed => .ok (n.handleBlackListTimer removed)

/-- A timer only expires at the time that it is scheduled for. -/
def CanHappen (n : AODVRouting) (m : ℤ × Message) : Prop :=
  match m.2 with
  | .waitForRREP target => (n.waitForRREPTimers target).bind WaitForRREP.arrivalTime = some m.1
  | .rrepAckTimer => n.rrepAckTimer = true
  | _ => True

instance (n : AODVRouting) : (m : ℤ × Message) → Decidable (n.CanHappen m)
  | (now, .waitForRREP target) => inferInstanceAs
      (Decidable ((n.waitForRREPTimers target).bind WaitForRREP.arrivalTime = some now))
  | (_, .rrepAckTimer) => inferInstanceAs (Decidable (n.rrepAckTimer = true))
  | (_, .packet _) | (_, .datagram _) | (_, .forward ..) | (_, .linkBreak _) | (_, .helloMsgTimer)
  | (_, .expungeTimer) | (_, .counterTimer) | (_, .blacklistTimer _) => isTrue trivial

/-- A node that has not done anything. -/
def initial (config : AodvConfig) (selfIPAddress : IPv4Address) : AODVRouting where
  toAodvConfig := config
  selfIPAddress := selfIPAddress

end AODVRouting

end Aodv

end Hiwis
