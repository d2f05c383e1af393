import Mathlib

/-!
# Data of the ports of a bridge

`MACAddress`, `Ieee8021dInterfaceData` and `BPDU`.
-/

namespace Hiwis

/-- `MACAddress`, as the number that is compared. -/
abbrev MACAddress : Type := BitVec 48

namespace MACAddress

/-- `STP_MULTICAST_ADDRESS`. -/
def stpMulticastAddress : MACAddress := 0x0180C2000000

def isBroadcast (address : MACAddress) : Bool := address == BitVec.allOnes 48

end MACAddress

namespace Ieee8021d

/-- A second, in the unit of `simtime_t`. -/
def second : ℤ := 1000000000000

/-- `PortRole`. -/
inductive PortRole
  | alternate
  | notAssigned
  | disabled
  | designated
  | backup
  | root
  deriving DecidableEq

/-- `PortState`. -/
inductive PortState
  | discarding
  | learning
  | forwarding
  deriving DecidableEq

/-- `Ieee8021dInterfaceData`. -/
structure InterfaceData where
  priority : ℕ
  linkCost : ℕ
  edge : Bool
  state : PortState
  role : PortRole
  rootPriority : ℕ
  rootAddress : MACAddress
  rootPathCost : ℕ
  bridgePriority : ℕ
  bridgeAddress : MACAddress
  portPriority : ℕ
  portNum : ℕ
  age : ℤ
  maxAge : ℤ
  fdWhile : ℤ
  fwdDelay : ℤ
  helloTime : ℤ
  tcWhile : ℤ
  lostBPDU : ℕ
  nextUpgrade : ℤ
  deriving DecidableEq

namespace InterfaceData

/-- An interface as it is constructed.  What the constructor leaves open is 0 here. -/
def initial : InterfaceData where
  priority := 0
  linkCost := 0
  edge := false
  state := .forwarding
  role := .notAssigned
  rootPriority := 0
  rootAddress := 0
  rootPathCost := 0
  bridgePriority := 0
  bridgeAddress := 0
  portPriority := 0
  portNum := 0
  age := 0
  maxAge := 0
  fdWhile := 0
  fwdDelay := 0
  helloTime := 0
  tcWhile := 0
  lostBPDU := 0
  nextUpgrade := 0

def isLearning (port : InterfaceData) : Bool := port.state == .learning || port.state == .forwarding

def isForwarding (port : InterfaceData) : Bool := port.state == .forwarding

end InterfaceData

/-- `BPDU`. -/
structure BPDU where
  bpduType : ℕ
  tcaFlag : Bool
  tcFlag : Bool
  rootAddress : MACAddress
  rootPriority : ℕ
  rootPathCost : ℕ
  bridgeAddress : MACAddress
  bridgePriority : ℕ
  portNum : ℕ
  portPriority : ℕ
  messageAge : ℤ
  maxAge : ℤ
  helloTime : ℤ
  forwardDelay : ℤ
  deriving DecidableEq

end Ieee8021d

end Hiwis
