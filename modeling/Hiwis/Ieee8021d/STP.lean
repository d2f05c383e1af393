import Hiwis.Ieee8021d.InterfaceData

/-!
# The spanning tree protocol

`STP`: the handlers of one bridge.  `Ieee8021d.STP.handleMessage` takes a message and gives the
new state and what the bridge does.
-/

namespace Hiwis

open List

namespace Ieee8021d

/-- What initialization finds: the parameters of the module and the data of the interfaces. -/
structure StpConfig (numPorts : ℕ) where
  bridgePriority : ℕ
  bridgeAddress : MACAddress
  maxAge : ℤ
  helloTime : ℤ
  forwardDelay : ℤ
  port : Fin numPorts → InterfaceData

/-- `STP`, in operation. -/
structure STP (numPorts : ℕ) where
  bridgePriority : ℕ
  bridgeAddress : MACAddress
  maxAge : ℤ
  helloTime : ℤ
  forwardDelay : ℤ
  isRoot : Bool
  rootPort : Fin numPorts
  desPorts : List (Fin numPorts)
  rootPathCost : ℕ
  rootPriority : ℕ
  rootAddress : MACAddress
  currentMaxAge : ℤ
  currentFwdDelay : ℤ
  currentHelloTime : ℤ
  currentBridgePriority : ℕ
  topologyChangeNotification : Bool
  topologyChangeRecvd : Bool
  port : Fin numPorts → InterfaceData

/-- What a bridge does: it sends a BPDU, or it calls the MAC address table. -/
inductive StpAction (numPorts : ℕ)
  | send (port : Fin numPorts) (dest : MACAddress) (bpdu : BPDU)
  | setAgingTime (agingTime : ℤ)
  | resetDefaultAging

/-- The messages of a bridge: a BPDU with its `Ieee802Ctrl`, and `tick`. -/
inductive StpMessage (numPorts : ℕ)
  | bpdu (arrivalGate : Fin numPorts) (src dest : MACAddress) (bpdu : BPDU)
  | tick

namespace STP

/-! ### Comparing -/

/-- A priority decides, and the second part of the identifier when the priorities are equal. -/
def compareIDs (aPriority a bPriority b : ℕ) : ℤ :=
  if aPriority < bPriority then 1
  else if bPriority < aPriority then -1
  else if a < b then 1
  else if b < a then -1
  else 0

def compareBridgeIDs (aPriority : ℕ) (aAddress : MACAddress) (bPriority : ℕ)
    (bAddress : MACAddress) : ℤ :=
  compareIDs aPriority aAddress.toNat bPriority bAddress.toNat

def comparePortIDs (aPriority aNum bPriority bNum : ℕ) : ℤ :=
  compareIDs aPriority aNum bPriority bNum

def comparePorts (portA portB : InterfaceData) : ℤ :=
  let result := compareBridgeIDs portA.rootPriority portA.rootAddress portB.rootPriority
    portB.rootAddress
  if result ≠ 0 then result
  else if portA.rootPathCost < portB.rootPathCost then 1
  else if portB.rootPathCost < portA.rootPathCost then -1
  else
    let result := compareBridgeIDs portA.bridgePriority portA.bridgeAddress portB.bridgePriority
      portB.bridgeAddress
    if result ≠ 0 then result
    else comparePortIDs portA.portPriority portA.portNum portB.portPriority portB.portNum

/-! ### The data of the ports -/

variable {numPorts : ℕ}

/-- Changes the data of one port. -/
def updatePort (s : STP numPorts) (portNum : Fin numPorts)
    (f : InterfaceData → InterfaceData) : STP numPorts :=
  { s with port := Function.update s.port portNum (f (s.port portNum)) }

def initInterfacedata (s : STP numPorts) (portNum : Fin numPorts) : STP numPorts :=
  s.updatePort portNum fun ifd => { ifd with
    role := .notAssigned
    state := .discarding
    rootPriority := s.bridgePriority
    rootAddress := s.bridgeAddress
    rootPathCost := 0
    age := 0
    bridgePriority := s.bridgePriority
    bridgeAddress := s.bridgeAddress
    portPriority := 2 ^ 32 - 1
    portNum := 2 ^ 32 - 1
    lostBPDU := 0 }

def initPortTable (s : STP numPorts) : STP numPorts := (finRange numPorts).foldl initInterfacedata s

/-- The path cost that is announced, and the cost of the port, as an unsigned number. -/
def addCost (a b : ℕ) : ℕ := (a + b) % 2 ^ 32

/-- What a BPDU says, with the cost of the port where it arrives. -/
def withBPDU (port : InterfaceData) (bpdu : BPDU) (portData : InterfaceData) : InterfaceData :=
  { portData with
    rootPriority := bpdu.rootPriority
    rootAddress := bpdu.rootAddress
    rootPathCost := addCost bpdu.rootPathCost port.linkCost
    bridgePriority := bpdu.bridgePriority
    bridgeAddress := bpdu.bridgeAddress
    portPriority := bpdu.portPriority
    portNum := bpdu.portNum }

def setSuperiorBPDU (s : STP numPorts) (portNum : Fin numPorts) (bpdu : BPDU) : STP numPorts :=
  if bpdu.maxAge ≤ bpdu.messageAge then s
  else s.updatePort portNum fun portData => { withBPDU portData bpdu portData with
    maxAge := bpdu.maxAge
    fwdDelay := bpdu.forwardDelay
    helloTime := bpdu.helloTime
    age := 0 }

def isSuperiorBPDU (s : STP numPorts) (portNum : Fin numPorts) (bpdu : BPDU) :
    STP numPorts × Bool :=
  let port := s.port portNum
  let result := comparePorts port (withBPDU port bpdu .initial)
  if 0 < result then (s, false)
  else if result < 0 then
    let s := s.updatePort portNum fun port => { port with fdWhile := 0, state := .discarding }
    (s.setSuperiorBPDU portNum bpdu, true)
  else (s.setSuperiorBPDU portNum bpdu, true)

/-! ### Sending -/

/-- The configuration BPDU of a port. -/
def configBPDU (s : STP numPorts) (port : Fin numPorts) (tcFlag tcaFlag : Bool) : BPDU :=
  let asRoot := s.isRoot || tcFlag
  { bpduType := 0
    tcFlag := s.topologyChangeNotification && asRoot
    tcaFlag := s.topologyChangeNotification && !asRoot && tcaFlag
    bridgeAddress := s.bridgeAddress
    bridgePriority := s.bridgePriority
    rootPathCost := s.rootPathCost
    rootAddress := s.rootAddress
    rootPriority := s.rootPriority
    portNum := port
    portPriority := (s.port port).priority
    messageAge := 0
    maxAge := s.currentMaxAge
    helloTime := s.currentHelloTime
    forwardDelay := s.currentFwdDelay }

def generateBPDU (s : STP numPorts) (port : Fin numPorts)
    (address : MACAddress := MACAddress.stpMulticastAddress) (tcFlag tcaFlag : Bool := false) :
    StpAction numPorts :=
  .send port address (s.configBPDU port tcFlag tcaFlag)

def generateHelloBDPUs (s : STP numPorts) : List (StpAction numPorts) :=
  (finRange numPorts).map fun i => s.generateBPDU i

/-- The topology change notification of the bridge; what it leaves open is 0. -/
def tcnBPDU : BPDU where
  bpduType := 1
  tcaFlag := false
  tcFlag := false
  rootAddress := 0
  rootPriority := 0
  rootPathCost := 0
  bridgeAddress := 0
  bridgePriority := 0
  portNum := 0
  portPriority := 0
  messageAge := 0
  maxAge := 0
  helloTime := 0
  forwardDelay := 0

def generateTCN (s : STP numPorts) : STP numPorts × List (StpAction numPorts) :=
  if (s.topologyChangeNotification || !s.topologyChangeRecvd) &&
      (s.port s.rootPort).role == .root then
    ({ s with topologyChangeNotification := false },
      [.send s.rootPort MACAddress.stpMulticastAddress tcnBPDU])
  else (s, [])

/-! ### Choosing the roles -/

section

variable (s : STP numPorts)

def checkRootEligibility : Bool :=
  (finRange numPorts).all fun i =>
    !decide (0 < compareBridgeIDs (s.port i).rootPriority (s.port i).rootAddress s.bridgePriority
      s.bridgeAddress)

def setAllDesignated : STP numPorts :=
  { s with
    desPorts := (finRange numPorts).filter fun i => (s.port i).role != .disabled
    port := fun i =>
      if (s.port i).role = .disabled then s.port i else { s.port i with role := .designated } }

/-- One round of the search: the port replaces the best one so far. -/
def betterRootPort (best i : Fin numPorts) : Fin numPorts :=
  let result := comparePorts (s.port i) (s.port best)
  if 0 < result then i
  else if result < 0 then best
  else if (s.port i).priority < (s.port best).priority then i
  else best

def selectRootPort [NeZero numPorts] (s : STP numPorts) : STP numPorts :=
  let xRootPort := (finRange numPorts).foldl s.betterRootPort 0
  let best := s.port xRootPort
  { s with
    desPorts := []
    topologyChangeNotification := s.topologyChangeNotification || s.rootPort != xRootPort
    rootPort := xRootPort
    rootPathCost := best.rootPathCost
    rootAddress := best.rootAddress
    rootPriority := best.rootPriority
    currentMaxAge := best.maxAge
    currentFwdDelay := best.fwdDelay
    currentHelloTime := best.helloTime
    port := fun i => { s.port i with role := if i = xRootPort then .root else .notAssigned } }

/-- `bridgeGlobal`: what the bridge would announce on the port, seen from the other end. -/
def bridgeGlobal (i : Fin numPorts) : InterfaceData :=
  { InterfaceData.initial with
    bridgePriority := s.bridgePriority
    bridgeAddress := s.bridgeAddress
    rootAddress := s.rootAddress
    rootPriority := s.rootPriority
    portPriority := (s.port i).priority
    portNum := i
    rootPathCost := addCost s.rootPathCost (s.port i).linkCost }

end

/-- Neither the root port nor disabled. -/
def isCandidate (port : InterfaceData) : Bool := port.role != .root && port.role != .disabled

def selectDesignatedPorts (s : STP numPorts) : STP numPorts :=
  let result := fun i => comparePorts (s.bridgeGlobal i) (s.port i)
  { s with
    desPorts := (finRange numPorts).filter fun i => isCandidate (s.port i) && decide (0 < result i)
    port := fun i =>
      if isCandidate (s.port i) then
        if 0 < result i then { s.port i with role := .designated }
        else if result i < 0 then { s.port i with role := .alternate }
        else s.port i
      else s.port i }

variable [NeZero numPorts]

def tryRoot (s : STP numPorts) : STP numPorts :=
  if s.checkRootEligibility then
    let s := { s with isRoot := true }
    let s := s.setAllDesignated
    { s with
      rootPriority := s.bridgePriority
      rootAddress := s.bridgeAddress
      rootPathCost := 0
      currentHelloTime := s.helloTime
      currentMaxAge := s.maxAge
      currentFwdDelay := s.forwardDelay }
  else
    let s := { s with isRoot := false }
    s.selectRootPort.selectDesignatedPorts

def lostRoot (s : STP numPorts) : STP numPorts :=
  let s := { s with topologyChangeNotification := true }
  s.tryRoot

omit [NeZero numPorts] in
def lostAlternate (s : STP numPorts) : STP numPorts :=
  { s.selectDesignatedPorts with topologyChangeNotification := true }

omit [NeZero numPorts] in
def reset (s : STP numPorts) : STP numPorts :=
  let s := { s with
    isRoot := true
    rootPriority := s.bridgePriority
    rootAddress := s.bridgeAddress
    rootPathCost := 0
    currentHelloTime := s.helloTime
    currentMaxAge := s.maxAge
    currentFwdDelay := s.forwardDelay }
  s.setAllDesignated

/-! ### Messages -/

def handleBPDU (s : STP numPorts) (arrivalGate : Fin numPorts) (bpdu : BPDU) :
    STP numPorts × List (StpAction numPorts) :=
  let s := if bpdu.tcaFlag then
      { s with topologyChangeRecvd := true, topologyChangeNotification := false }
    else s
  let (s, superior) := s.isSuperiorBPDU arrivalGate bpdu
  let role := (s.port arrivalGate).role
  let actions :=
    if !superior then
      if role = .designated then [s.generateBPDU arrivalGate] else []
    else if role = .root then
      if bpdu.tcFlag then
        .setAgingTime s.currentFwdDelay ::
          s.desPorts.map fun i => s.generateBPDU i MACAddress.stpMulticastAddress true false
      else .resetDefaultAging :: s.desPorts.map fun i => s.generateBPDU i
    else []
  (s.tryRoot, actions)

omit [NeZero numPorts] in
def handleTCN (s : STP numPorts) (arrivalGate : Fin numPorts) (src dest : MACAddress)
    (tcn : BPDU) : STP numPorts × List (StpAction numPorts) :=
  let s := { s with topologyChangeNotification := true }
  let ack := s.generateBPDU arrivalGate src false true
  (s, if s.isRoot then [ack] else [ack, .send s.rootPort dest tcn])

omit [NeZero numPorts] in
/-- The timers of a port that count in `handleTick`. -/
def countTimers (port : InterfaceData) : InterfaceData :=
  if port.role = .disabled then port
  else { port with
    age := if port.role = .designated then port.age else port.age + second
    fdWhile := if port.role = .root ∨ port.role = .designated then port.fdWhile + second
      else port.fdWhile }

/-- The information of a port has reached its age. -/
def checkAge (s : STP numPorts) (i : Fin numPorts) : STP numPorts :=
  if s.currentMaxAge ≤ (s.port i).age then
    if (s.port i).role = .root then (s.initInterfacedata i).lostRoot
    else (s.initInterfacedata i).lostAlternate
  else s

/-- The forward timer of a port. -/
def checkFdWhile (currentFwdDelay : ℤ) (port : InterfaceData) : InterfaceData :=
  if port.role = .root ∨ port.role = .designated then
    if currentFwdDelay ≤ port.fdWhile then
      match port.state with
      | .discarding => { port with state := .learning, fdWhile := 0 }
      | .learning => { port with state := .forwarding, fdWhile := 0 }
      | .forwarding => { port with fdWhile := 0 }
    else port
  else { port with fdWhile := 0, state := .discarding }

def checkTimers (s : STP numPorts) : STP numPorts × List (StpAction numPorts) :=
  let hello := decide (s.currentHelloTime ≤ s.helloTime)
  let actions := if hello && s.isRoot then s.generateHelloBDPUs else []
  let s := if hello then { s with helloTime := 0 } else s
  let s := (finRange numPorts).foldl checkAge s
  ({ s with port := fun i => checkFdWhile s.currentFwdDelay (s.port i) }, actions)

omit [NeZero numPorts] in
def checkParametersChange (s : STP numPorts) : STP numPorts :=
  let s := if s.isRoot then { s with
      currentHelloTime := s.helloTime
      currentMaxAge := s.maxAge
      currentFwdDelay := s.forwardDelay }
    else s
  if s.currentBridgePriority ≠ s.bridgePriority then
    let s := { s with currentBridgePriority := s.bridgePriority }
    s.reset
  else s

def handleTick (s : STP numPorts) : STP numPorts × List (StpAction numPorts) :=
  let s := { s with
    helloTime := if s.isRoot then s.helloTime + second else 0
    port := fun i => countTimers (s.port i) }
  let (s, hello) := s.checkTimers
  let (s, tcn) := s.checkParametersChange.generateTCN
  (s, hello ++ tcn)

def handleMessage (s : STP numPorts) :
    StpMessage numPorts → STP numPorts × List (StpAction numPorts)
  | .bpdu arrivalGate src dest bpdu =>
    if bpdu.bpduType = 0 then s.handleBPDU arrivalGate bpdu
    else if bpdu.bpduType = 1 then s.handleTCN arrivalGate src dest bpdu
    else (s, [])
  | .tick => s.handleTick

/-- The variables of the bridge that `initialize` sets. -/
def ofConfig (c : StpConfig numPorts) : STP numPorts where
  bridgePriority := c.bridgePriority
  bridgeAddress := c.bridgeAddress
  maxAge := c.maxAge
  helloTime := c.helloTime
  forwardDelay := c.forwardDelay
  isRoot := true
  rootPort := 0
  desPorts := []
  rootPathCost := 0
  rootPriority := c.bridgePriority
  rootAddress := c.bridgeAddress
  currentMaxAge := c.maxAge
  currentFwdDelay := c.forwardDelay
  currentHelloTime := c.helloTime
  currentBridgePriority := c.bridgePriority
  topologyChangeNotification := false
  topologyChangeRecvd := true
  port := c.port

/-- `initialize` in stage 1. -/
def initializeStage1 (c : StpConfig numPorts) : STP numPorts :=
  let s := (ofConfig c).initPortTable
  let s := { s with helloTime := 0 }
  s.setAllDesignated

end STP

end Ieee8021d

end Hiwis
