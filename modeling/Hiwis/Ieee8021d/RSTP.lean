import Hiwis.Ieee8021d.InterfaceData

/-!
# The rapid spanning tree protocol

`RSTP`: the handlers of one bridge.  `Ieee8021d.RSTP.handleMessage` takes a message and the time,
and gives the new state, which also records what the bridge has done.  When the upgrade timer
expires next is left open.
-/

namespace Hiwis

open List

namespace Ieee8021d

/-- `CompareResult`. -/
inductive CompareResult
  | worsePort
  | worseSrc
  | worseRpc
  | worseRoot
  | similar
  | betterRoot
  | betterRpc
  | betterSrc
  | betterPort
  deriving DecidableEq

namespace CompareResult

/-- Greater than `SIMILAR`. -/
def isBetter : CompareResult → Bool
  | betterRoot | betterRpc | betterSrc | betterPort => true
  | _ => false

/-- Less than `SIMILAR`. -/
def isWorse : CompareResult → Bool
  | worseRoot | worseRpc | worseSrc | worsePort => true
  | _ => false

end CompareResult

/-- The arguments of `compareRSTPData` that belong to one side.  Unsigned numbers are converted. -/
structure RstpData where
  rootPriority : ℤ
  rootAddress : MACAddress
  rootPathCost : ℤ
  bridgePriority : ℤ
  bridgeAddress : MACAddress
  portPriority : ℤ
  portNum : ℤ
  deriving DecidableEq

/-- An `unsigned int` as an `int`. -/
def toInt (a : ℕ) : ℤ :=
  if a % 2 ^ 32 < 2 ^ 31 then (a % 2 ^ 32 : ℕ) else (a % 2 ^ 32 : ℕ) - 2 ^ 32

def InterfaceData.data (port : InterfaceData) : RstpData where
  rootPriority := toInt port.rootPriority
  rootAddress := port.rootAddress
  rootPathCost := toInt port.rootPathCost
  bridgePriority := toInt port.bridgePriority
  bridgeAddress := port.bridgeAddress
  portPriority := toInt port.portPriority
  portNum := toInt port.portNum

/-- A BPDU, with a cost to add. -/
def BPDU.data (frame : BPDU) (linkCost : ℕ) : RstpData where
  rootPriority := toInt frame.rootPriority
  rootAddress := frame.rootAddress
  rootPathCost := toInt (frame.rootPathCost + linkCost)
  bridgePriority := toInt frame.bridgePriority
  bridgeAddress := frame.bridgeAddress
  portPriority := toInt frame.portPriority
  portNum := toInt frame.portNum

def compareRSTPData (a b : RstpData) : CompareResult :=
  if a.rootPriority ≠ b.rootPriority then
    if a.rootPriority < b.rootPriority then .worseRoot else .betterRoot
  else if a.rootAddress.toNat ≠ b.rootAddress.toNat then
    if a.rootAddress.toNat < b.rootAddress.toNat then .worseRoot else .betterRoot
  else if a.rootPathCost ≠ b.rootPathCost then
    if a.rootPathCost < b.rootPathCost then .worseRpc else .betterRpc
  else if a.bridgePriority ≠ b.bridgePriority then
    if a.bridgePriority < b.bridgePriority then .worseSrc else .betterSrc
  else if a.bridgeAddress.toNat ≠ b.bridgeAddress.toNat then
    if a.bridgeAddress.toNat < b.bridgeAddress.toNat then .worseSrc else .betterSrc
  else if a.portPriority ≠ b.portPriority then
    if a.portPriority < b.portPriority then .worsePort else .betterPort
  else if a.portNum ≠ b.portNum then
    if a.portNum < b.portNum then .worsePort else .betterPort
  else .similar

inductive RstpFault
  | noSuchPort
  deriving DecidableEq

/-- What a bridge does: it sends a BPDU, or it calls the MAC address table. -/
inductive RstpAction (numPorts : ℕ)
  | send (port : Fin numPorts) (frame : BPDU)
  | flush (port : Fin numPorts)
  | copyTable (a b : Fin numPorts)

/-- `RSTP`, in operation. -/
structure RSTP (numPorts : ℕ) where
  bridgePriority : ℕ
  bridgeAddress : MACAddress
  maxAge : ℤ
  helloTime : ℤ
  forwardDelay : ℤ
  migrateTime : ℤ
  tcWhileTime : ℤ
  port : Fin numPorts → InterfaceData
  actions : List (RstpAction numPorts) := []

/-- The messages of a bridge: a BPDU with its port and its source, and the timers.  Which ports
have a carrier is known when the upgrade timer expires. -/
inductive RstpMessage (numPorts : ℕ)
  | bpdu (arrivalPortNum : Fin numPorts) (src : MACAddress) (frame : BPDU)
  | helloTime
  | upgrade (hasCarrier : Fin numPorts → Bool)

namespace RSTP

variable {numPorts : ℕ}

def act (s : RSTP numPorts) (a : RstpAction numPorts) : RSTP numPorts :=
  { s with actions := s.actions ++ [a] }

/-- Changes the data of one port. -/
def updatePort (s : RSTP numPorts) (i : Fin numPorts) (f : InterfaceData → InterfaceData) :
    RSTP numPorts :=
  { s with port := Function.update s.port i (f (s.port i)) }

/-! ### The data of the ports -/

section

variable (s : RSTP numPorts)

def initInterfacedata (portNum : Fin numPorts) : RSTP numPorts :=
  s.updatePort portNum fun ifd => { ifd with
    rootPriority := s.bridgePriority
    rootAddress := s.bridgeAddress
    rootPathCost := 0
    age := 0
    bridgePriority := s.bridgePriority
    bridgeAddress := s.bridgeAddress
    portPriority := 2 ^ 32 - 1
    portNum := 2 ^ 32 - 1
    lostBPDU := 0 }

def updateInterfacedata (frame : BPDU) (portNum : Fin numPorts) :
    RSTP numPorts :=
  s.updatePort portNum fun ifd => { ifd with
    rootPriority := frame.rootPriority
    rootAddress := frame.rootAddress
    rootPathCost := (frame.rootPathCost + ifd.linkCost) % 2 ^ 32
    age := frame.messageAge + second
    bridgePriority := frame.bridgePriority
    bridgeAddress := frame.bridgeAddress
    portPriority := frame.portPriority
    portNum := frame.portNum
    lostBPDU := 0 }

def setRole (i : Fin numPorts) (role : PortRole) (state : PortState) :
    RSTP numPorts :=
  s.updatePort i fun port => { port with role := role, state := state }

def resetLostBPDU (i : Fin numPorts) : RSTP numPorts :=
  s.updatePort i fun port => { port with lostBPDU := 0 }

/-- The port becomes `DESIGNATED` and `DISCARDING`, to be upgraded later. -/
def setDesignated (now : ℤ) (i : Fin numPorts) : RSTP numPorts :=
  (s.setRole i .designated .discarding).updatePort i fun port =>
    { port with nextUpgrade := now + s.forwardDelay }

def flush (i : Fin numPorts) : RSTP numPorts := s.act (.flush i)

def copyTable (a b : Fin numPorts) : RSTP numPorts := s.act (.copyTable a b)

def initPort (now : ℤ) (j : Fin numPorts) : RSTP numPorts :=
  let s :=
    if !(s.port j).edge then
      (s.setRole j .notAssigned .discarding).updatePort j fun jPort =>
        { jPort with nextUpgrade := now + s.migrateTime }
    else s.setRole j .designated .forwarding
  (s.initInterfacedata j).flush j

def initPorts (now : ℤ) : RSTP numPorts := (finRange numPorts).foldl (fun s j => s.initPort now j) s

def flushOtherPorts (now : ℤ) (portNum : Fin numPorts) : RSTP numPorts :=
  { s with
    port := fun i => { s.port i with tcWhile := now + s.tcWhileTime }
    actions := s.actions ++ ((finRange numPorts).filter fun i => i != portNum).map .flush }

end

/-! ### Comparing -/

section

variable (s : RSTP numPorts)

def getRootIndex : Option (Fin numPorts) :=
  (finRange numPorts).find? fun i => (s.port i).role == .root

/-- One round of the search for the best alternate port. -/
def betterAlternate (candidate : Option (Fin numPorts)) (j : Fin numPorts) :
    Option (Fin numPorts) :=
  if (s.port j).role = .alternate then
    match candidate with
    | none => some j
    | some c =>
      if (compareRSTPData (s.port j).data (s.port c).data).isWorse then some j else candidate
  else candidate

def getBestAlternate : Option (Fin numPorts) := (finRange numPorts).foldl s.betterAlternate none

def compareInterfacedata (portNum : Fin numPorts) (msg : BPDU) (linkCost : ℕ) : CompareResult :=
  compareRSTPData (s.port portNum).data (msg.data linkCost)

/-- What the bridge would send on the port, with a cost to add. -/
def bridgeData (rootPort : InterfaceData) (portNum : Fin numPorts) (linkCost : ℕ) : RstpData where
  rootPriority := toInt rootPort.rootPriority
  rootAddress := rootPort.rootAddress
  rootPathCost := toInt (rootPort.rootPathCost + linkCost)
  bridgePriority := toInt s.bridgePriority
  bridgeAddress := s.bridgeAddress
  portPriority := toInt (s.port portNum).portPriority
  portNum := toInt portNum

/-- `contestInterfacedata` for the data of a port. -/
def contestInterfacedata (portNum : Fin numPorts) :
    Except RstpFault CompareResult :=
  match s.getRootIndex with
  | none => .error .noSuchPort
  | some r =>
    let ifd := s.port portNum
    .ok (compareRSTPData (s.bridgeData (s.port r) portNum ifd.linkCost) ifd.data)

/-- `contestInterfacedata` for a BPDU. -/
def contestBPDU (msg : BPDU) (portNum : Fin numPorts) :
    Except RstpFault CompareResult :=
  match s.getRootIndex with
  | none => .error .noSuchPort
  | some r => .ok (compareRSTPData (s.bridgeData (s.port r) portNum 0) (msg.data 0))

end

/-! ### Sending -/

/-- The BPDU of a port; the root port is where the bridge takes the root from. -/
def bpduOf (s : RSTP numPorts) (rootPort : Option InterfaceData) (port : Fin numPorts)
    (tcFlag : Bool) : BPDU where
  bpduType := 0
  rootPriority := (rootPort.map InterfaceData.rootPriority).getD s.bridgePriority
  rootAddress := (rootPort.map InterfaceData.rootAddress).getD s.bridgeAddress
  messageAge := (rootPort.map InterfaceData.age).getD 0
  rootPathCost := (rootPort.map InterfaceData.rootPathCost).getD 0
  bridgePriority := s.bridgePriority
  bridgeAddress := s.bridgeAddress
  tcaFlag := false
  tcFlag := tcFlag
  portNum := port
  portPriority := 0
  maxAge := s.maxAge
  helloTime := s.helloTime
  forwardDelay := s.forwardDelay

section

variable (s : RSTP numPorts) (now : ℤ)

def sendBPDU (port : Fin numPorts) : RSTP numPorts :=
  if (s.port port).role ≠ .disabled then
    s.act (.send port
      (s.bpduOf (s.getRootIndex.map s.port) port (decide (now < (s.port port).tcWhile))))
  else s

def sendBPDUs : RSTP numPorts :=
  (finRange numPorts).foldl (fun s i =>
    if (s.port i).role ≠ .root ∧ (s.port i).role ≠ .alternate ∧ (s.port i).role ≠ .disabled ∧
        !(s.port i).edge then s.sendBPDU now i
    else s) s

def sendTCNtoRoot : RSTP numPorts :=
  match s.getRootIndex with
  | none => s
  | some r =>
    if now < (s.port r).tcWhile then s.act (.send r (s.bpduOf (some (s.port r)) r true)) else s

end

/-! ### Timers -/

section

variable (s : RSTP numPorts) (now : ℤ)

def upgradePort (hasCarrier : Fin numPorts → Bool) (i : Fin numPorts) : RSTP numPorts :=
  if hasCarrier i ∧ (s.port i).nextUpgrade = now then
    match (s.port i).role, (s.port i).state with
    | .notAssigned, _ => s.setDesignated now i
    | .designated, .discarding =>
      (s.setRole i .designated .learning).updatePort i fun port =>
        { port with nextUpgrade := now + s.forwardDelay }
    | .designated, .learning => (s.setRole i .designated .forwarding).flushOtherPorts now i
    | _, _ => s
  else s

def handleUpgrade (hasCarrier : Fin numPorts → Bool) :
    RSTP numPorts :=
  (finRange numPorts).foldl (fun s i => s.upgradePort now hasCarrier i) s

/-- Three hello times have passed without the best BPDU. -/
def lostPort (i : Fin numPorts) : RSTP numPorts :=
  let s :=
    if (s.port i).role = .root then
      match s.getBestAlternate with
      | some candidate =>
        let s := (s.setDesignated now i).initInterfacedata i
        let s := (s.setRole candidate .root .forwarding).resetLostBPDU candidate
        (s.flushOtherPorts now candidate).copyTable i candidate
      | none => s.initPorts now
    else (s.setDesignated now i).initInterfacedata i
  s.resetLostBPDU i

def helloPort (i : Fin numPorts) : RSTP numPorts :=
  if !(s.port i).edge ∧ ((s.port i).role = .root ∨ (s.port i).role = .alternate ∨
      (s.port i).role = .backup) then
    let s := s.updatePort i fun port => { port with lostBPDU := port.lostBPDU + 1 }
    if 3 < (s.port i).lostBPDU then s.lostPort now i else s
  else s

def handleHelloTime : RSTP numPorts :=
  let s := (finRange numPorts).foldl (fun s i => s.helloPort now i) s
  (s.sendBPDUs now).sendTCNtoRoot now

end

/-! ### BPDUs -/

def checkTC (s : RSTP numPorts) (now : ℤ) (frame : BPDU) (arrival : Fin numPorts) :
    RSTP numPorts :=
  if frame.tcFlag ∧ (s.port arrival).state = .forwarding then
    { s with
      port := fun i =>
        if i = arrival then s.port i else { s.port i with tcWhile := now + s.tcWhileTime }
      actions := s.actions ++ ((finRange numPorts).filter fun i => i != arrival).map .flush }
  else s

/-- The port with the number of the sender. -/
def senderPort (frame : BPDU) : Except RstpFault (Fin numPorts) :=
  if h : frame.portNum < numPorts then .ok ⟨frame.portNum, h⟩ else .error .noSuchPort

section

variable (s : RSTP numPorts)

def setBackup (i : Fin numPorts) : RSTP numPorts :=
  ((s.flush i).setRole i .backup .discarding).resetLostBPDU i

def handleBackup (frame : BPDU) (arrivalPortNum : Fin numPorts) :
    Except RstpFault (RSTP numPorts) :=
  let port := s.port arrivalPortNum
  if frame.portPriority < port.portPriority ∨
      frame.portPriority = port.portPriority ∧ frame.portNum < arrivalPortNum then
    .ok (s.setBackup arrivalPortNum)
  else if port.portPriority < frame.portPriority ∨
      frame.portPriority = port.portPriority ∧ arrivalPortNum < frame.portNum then
    (senderPort frame).map s.setBackup
  else
    -- the port has received its own message
    (senderPort frame).map fun i => (s.flush i).setRole i .disabled .discarding

/-- The arrival port announces a better root: all other ports start anew. -/
def startAnew (now : ℤ) (arrivalPortNum i : Fin numPorts) : RSTP numPorts :=
  if !(s.port i).edge then
    let s := if (s.port arrivalPortNum).state ≠ .forwarding then
        s.updatePort i fun iPort => { iPort with tcWhile := now + s.tcWhileTime }
      else s
    let s := s.flush i
    if i ≠ arrivalPortNum then
      ((s.setRole i .notAssigned .discarding).updatePort i fun iPort =>
        { iPort with nextUpgrade := now + s.migrateTime }).initInterfacedata i
    else s
  else s

/-- A second link to the port that the root port is connected to: the better local port wins. -/
def doubleLink (now : ℤ) (arrivalPortNum r : Fin numPorts) : RSTP numPorts :=
  let arrivalPort := s.port arrivalPortNum
  let rootPort := s.port r
  if rootPort.portPriority < arrivalPort.portPriority ∨
      rootPort.portPriority = arrivalPort.portPriority ∧ r < arrivalPortNum then
    ((s.flush arrivalPortNum).setRole arrivalPortNum .alternate .discarding).resetLostBPDU
      arrivalPortNum
  else
    let s := if arrivalPort.state ≠ .forwarding then s.flushOtherPorts now arrivalPortNum
      else s.flush r
    let s := s.setRole r .alternate .discarding
    let s := (s.setRole arrivalPortNum .root .forwarding).resetLostBPDU arrivalPortNum
    s.copyTable r arrivalPortNum

def betterRoot (now : ℤ) (arrivalPortNum : Fin numPorts) : RSTP numPorts :=
  let s := (finRange numPorts).foldl (fun s i => s.startAnew now arrivalPortNum i) s
  (s.setRole arrivalPortNum .root .forwarding).resetLostBPDU arrivalPortNum

/-- The arrival port announces a better way to the root. -/
def betterWay (now : ℤ) (arrivalPortNum r : Fin numPorts) :
    Except RstpFault (RSTP numPorts) := do
  let s := if (s.port arrivalPortNum).state ≠ .forwarding then s.flushOtherPorts now arrivalPortNum
    else s
  let s := (s.setRole arrivalPortNum .root .forwarding).resetLostBPDU arrivalPortNum
  -- one port can be root at the contest
  let s := s.setRole r .alternate (s.port r).state
  let s := s.copyTable r arrivalPortNum
  let case3 ← s.contestInterfacedata r
  if !case3.isWorse then pure ((s.setRole r .alternate .discarding).flush r)
  else pure (s.setDesignated now r)

end

section

variable (s : RSTP numPorts) (now : ℤ) (frame : BPDU) (arrivalPortNum : Fin numPorts)

/-- The arrival port announces a worse way to the root. -/
def worseWay :
    Except RstpFault (RSTP numPorts) := do
  let case3 ← s.contestBPDU frame arrivalPortNum
  if case3.isWorse then pure ((s.setDesignated now arrivalPortNum).sendBPDU now arrivalPortNum)
  else
    let s := (s.flush arrivalPortNum).setRole arrivalPortNum .alternate .discarding
    pure (s.resetLostBPDU arrivalPortNum)

/-- The new state, and whether BPDUs are sent at once. -/
def processBetterSource : Except RstpFault (RSTP numPorts × Bool) :=
  let s := s.updateInterfacedata frame arrivalPortNum
  match s.getRootIndex with
  | none =>
    let s := (s.setRole arrivalPortNum .root .forwarding).resetLostBPDU arrivalPortNum
    .ok (s.flushOtherPorts now arrivalPortNum, true)
  | some r =>
    match s.compareInterfacedata r frame (s.port arrivalPortNum).linkCost with
    | .similar => .ok (s.doubleLink now arrivalPortNum r, false)
    | .betterRoot => .ok (s.betterRoot now arrivalPortNum, true)
    | .betterRpc | .betterSrc | .betterPort => (s.betterWay now arrivalPortNum r).map (·, true)
    | .worseRoot => .ok (s.sendBPDU now arrivalPortNum, false)
    | .worseRpc | .worseSrc | .worsePort => (s.worseWay now frame arrivalPortNum).map (·, false)

/-- The source of the root port announces a worse root. -/
def rootWorseRoot :
    RSTP numPorts × Bool :=
  match s.getBestAlternate with
  | some alternative =>
    let s := (s.setDesignated now arrivalPortNum).copyTable arrivalPortNum alternative
    let s := (s.flushOtherPorts now alternative).setRole alternative .root .forwarding
    ((s.updateInterfacedata frame arrivalPortNum).sendBPDU now arrivalPortNum, false)
  | none =>
    let s := s.initPorts now
    let s := (finRange numPorts).foldl flush s
    let case2 := s.compareInterfacedata arrivalPortNum frame (s.port arrivalPortNum).linkCost
    if case2.isBetter then
      ((s.updateInterfacedata frame arrivalPortNum).setRole arrivalPortNum .root .forwarding, true)
    else (s, true)

/-- The best alternate port takes the place of the arrival port if it is better than the BPDU. -/
def changeRoot :
    Except RstpFault (RSTP numPorts) :=
  match s.getBestAlternate with
  | some alternative =>
    let case2 := s.compareInterfacedata alternative frame (s.port arrivalPortNum).linkCost
    if case2.isWorse then do
      let s := s.setRole alternative .root .forwarding
      -- one port can be root at the contest
      let s := s.setRole arrivalPortNum .designated (s.port arrivalPortNum).state
      let case3 ← s.contestBPDU frame arrivalPortNum
      let s := if case3.isWorse then s.setDesignated now arrivalPortNum
        else s.setRole arrivalPortNum .alternate .discarding
      pure ((s.flushOtherPorts now alternative).copyTable arrivalPortNum alternative)
    else .ok s
  | none => .ok s

/-- The source of the root port announces a worse way to the same root. -/
def rootWorseWay :
    Except RstpFault (RSTP numPorts × Bool) := do
  let s ← (s.resetLostBPDU arrivalPortNum).changeRoot now frame arrivalPortNum
  pure (s.updateInterfacedata frame arrivalPortNum, true)

def processSameSource : Except RstpFault (RSTP numPorts × Bool) :=
  let arrivalPort := s.port arrivalPortNum
  match s.compareInterfacedata arrivalPortNum frame arrivalPort.linkCost with
  | .similar => .ok (s.resetLostBPDU arrivalPortNum, false)
  | .worseRoot =>
    if arrivalPort.role = .root then .ok (s.rootWorseRoot now frame arrivalPortNum)
    else if arrivalPort.role = .alternate then
      let s := (s.setDesignated now arrivalPortNum).updateInterfacedata frame arrivalPortNum
      .ok (s.sendBPDU now arrivalPortNum, false)
    else .ok (s, false)
  | .worseRpc | .worseSrc | .worsePort =>
    if arrivalPort.role = .root then s.rootWorseWay now frame arrivalPortNum
    else if arrivalPort.role = .alternate then do
      let case2 ← s.contestBPDU frame arrivalPortNum
      let s := if case2.isWorse then
          (s.setDesignated now arrivalPortNum).sendBPDU now arrivalPortNum
        else s.resetLostBPDU arrivalPortNum
      pure (s.updateInterfacedata frame arrivalPortNum, false)
    else .ok (s.updateInterfacedata frame arrivalPortNum, false)
  | _ => .ok (s, false)

end

section

variable (s : RSTP numPorts) (now : ℤ)

/-- The BPDUs that are sent at once, if any. -/
def expedite (flood : Bool) : RSTP numPorts :=
  if flood then (s.sendBPDUs now).sendTCNtoRoot now else s

def processBPDU (frame : BPDU) (arrivalPortNum : Fin numPorts) :
    Except RstpFault (RSTP numPorts) :=
  let arrivalPort := s.port arrivalPortNum
  let case := s.compareInterfacedata arrivalPortNum frame arrivalPort.linkCost
  if case.isBetter ∧ frame.rootAddress ≠ s.bridgeAddress then
    (s.processBetterSource now frame arrivalPortNum).map fun (s, flood) => s.expedite now flood
  else if frame.bridgeAddress = arrivalPort.bridgeAddress ∧
      frame.rootAddress ≠ s.bridgeAddress then
    (s.processSameSource now frame arrivalPortNum).map fun (s, flood) => s.expedite now flood
  else .ok s

def handleIncomingFrame (arrivalPortNum : Fin numPorts) (src : MACAddress) (frame : BPDU) :
    Except RstpFault (RSTP numPorts) :=
  if frame.messageAge < s.maxAge then
    let s := s.checkTC now frame arrivalPortNum
    if src = s.bridgeAddress then s.handleBackup frame arrivalPortNum
    else s.processBPDU now frame arrivalPortNum
  else .ok s

end

def handleMessage (s : RSTP numPorts) (m : ℤ × RstpMessage numPorts) :
    Except RstpFault (RSTP numPorts) :=
  match m.2 with
  | .bpdu arrivalPortNum src frame => s.handleIncomingFrame m.1 arrivalPortNum src frame
  | .helloTime => .ok (s.handleHelloTime m.1)
  | .upgrade hasCarrier => .ok (s.handleUpgrade m.1 hasCarrier)

end RSTP

end Ieee8021d

end Hiwis
