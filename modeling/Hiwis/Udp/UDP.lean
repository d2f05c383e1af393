import Hiwis.Ipv4.InterfaceEntry
import Hiwis.Lib.Trace

/-!
# UDP sockets

`UDP`: the two tables of sockets, and the commands of the applications.  A list of
`socketsByPortMap` holds the identifiers of sockets.
-/

namespace Hiwis

open Function

namespace UDP

def EPHEMERAL_PORTRANGE_START : ℕ := 1024

def EPHEMERAL_PORTRANGE_END : ℕ := 5000

/-- What stops the simulation. -/
inductive UDPFault
  | sockIdNotFilledIn
  | invalidLocalPort
  | alreadyTaken
  | alreadyBound
  | noSuchSocket
  | unspecifiedRemoteAddress
  | invalidRemotePort
  | missingDestination
  | unspecifiedDestination
  | noSuchInterface
  | portsExhausted
  /-- A failed `ASSERT`. -/
  | assertion
  deriving DecidableEq

/-- `SockDesc`. -/
structure SockDesc where
  sockId : ℤ
  appGateIndex : ℤ
  isBound : Bool := false
  onlyLocalPortIsSet : Bool := false
  reuseAddr : Bool := false
  localAddr : IPvXAddress := .unspecified
  remoteAddr : IPvXAddress := .unspecified
  localPort : ℤ := -1
  remotePort : ℤ := -1
  isBroadcast : Bool := false
  multicastOutputInterfaceId : ℤ := -1
  multicastLoop : Bool := true
  ttl : ℤ := -1
  typeOfService : ℕ := 0
  multicastAddrs : IPvXAddress → Option ℤ := fun _ => none

/-- `UDPSetOptionCommand`. -/
inductive SetOption
  | timeToLive (ttl : ℤ)
  | typeOfService (typeOfService : ℕ)
  | broadcast (broadcast : Bool)
  | multicastInterface (interfaceId : ℤ)
  | multicastLoop (loop : Bool)
  | reuseAddress (reuseAddr : Bool)
  | joinMulticastGroups (multicastAddr : List IPvXAddress) (interfaceId : List ℤ)
  | leaveMulticastGroups (multicastAddr : List IPvXAddress)

/-- `UDPSendCommand`. -/
structure SendCommand where
  destAddr : IPvXAddress := .unspecified
  destPort : ℤ := -1
  srcAddr : IPvXAddress := .unspecified
  interfaceId : ℤ := -1

/-- A packet for the network, with its control information. -/
structure Packet where
  srcAddr : IPvXAddress
  sourcePort : ℤ
  destAddr : IPvXAddress
  destinationPort : ℤ
  interfaceId : ℤ
  multicastLoop : Bool
  ttl : ℤ
  typeOfService : ℕ
  deriving DecidableEq

/-- The state of the module. -/
structure State where
  socketsByIdMap : ℤ → Option SockDesc := fun _ => none
  socketsByPortMap : ℤ → Option (List ℤ) := fun _ => none
  lastEphemeralPort : ℕ := EPHEMERAL_PORTRANGE_START
  /-- The interfaces of the interface table. -/
  interfaceIds : List ℤ := []

namespace State

variable (u : State)

/-! ### Ports -/

/-- The next port, with the wrap. -/
def nextPort (port : ℕ) : ℕ :=
  if port + 1 = EPHEMERAL_PORTRANGE_END then EPHEMERAL_PORTRANGE_START else port + 1

/-- The loop of `getEphemeralPort`.  The fuel is the number of ports in the range. -/
def searchPort (searchUntil : ℕ) : ℕ → ℕ → Option ℕ
  | 0, _ => none
  | fuel + 1, port =>
    if (u.socketsByPortMap port).isSome then
      if port = searchUntil then none else searchPort searchUntil fuel (nextPort port)
    else some port

def getEphemeralPort : Except UDPFault (State × ℕ) :=
  match u.searchPort u.lastEphemeralPort (EPHEMERAL_PORTRANGE_END - EPHEMERAL_PORTRANGE_START)
      (nextPort u.lastEphemeralPort) with
  | some port => .ok ({ u with lastEphemeralPort := port }, port)
  | none => .error .portsExhausted

/-- The list of a port; it is empty when there is none. -/
def socketsAt (port : ℤ) : List ℤ := (u.socketsByPortMap port).getD []

/-- The port is passed as an `unsigned short`. -/
def findFirstSocketByLocalAddress (localAddr : IPvXAddress) (localPort : ℤ) : Option SockDesc :=
  ((u.socketsAt (localPort % 2 ^ 16)).filterMap u.socketsByIdMap).find? fun sd =>
    sd.localAddr.isUnspecified || sd.localAddr == localAddr

/-! ### Sockets -/

def setSocket (sd : SockDesc) : State :=
  { u with socketsByIdMap := update u.socketsByIdMap sd.sockId (some sd) }

/-- `push_back` on the list of a port, which is created if it does not exist. -/
def pushBack (port sockId : ℤ) : State :=
  { u with
    socketsByPortMap := update u.socketsByPortMap port (some (u.socketsAt port ++ [sockId])) }

/-- `remove` on the list of a port, which stays in the map. -/
def removeFrom (port sockId : ℤ) : State :=
  { u with
    socketsByPortMap :=
      update u.socketsByPortMap port
        (some ((u.socketsAt port).filter fun id => id != sockId)) }

/-- The local port of a new socket. -/
def choosePort (localPort : ℤ) : Except UDPFault (State × ℤ) :=
  if localPort = -1 then u.getEphemeralPort.map fun (u, port) => (u, (port : ℤ))
  else .ok (u, localPort)

def createSocket (sockId gateIndex : ℤ) (localAddr : IPvXAddress) (localPort : ℤ) :
    Except UDPFault (State × SockDesc) :=
  (u.choosePort localPort).map fun (u, localPort) =>
    let sd : SockDesc := {
      sockId := sockId
      appGateIndex := gateIndex
      localAddr := localAddr
      localPort := localPort
      onlyLocalPortIsSet := localAddr.isUnspecified }
    ((u.setSocket sd).pushBack localPort sockId, sd)

def getOrCreateSocket (sockId gateIndex : ℤ) : Except UDPFault (State × SockDesc) :=
  if sockId = -1 then .error .sockIdNotFilledIn
  else
    match u.socketsByIdMap sockId with
    | some sd => .ok (u, sd)
    | none => u.createSocket sockId gateIndex .unspecified (-1)

/-- A socket that exists and is not bound gets an address, and another port if one is given. -/
def bindSocket (sd : SockDesc) (localAddr : IPvXAddress) (localPort : ℤ) : State :=
  let sd := { sd with isBound := true, localAddr := localAddr }
  if localPort ≠ -1 ∧ sd.localPort ≠ localPort then
    let u := u.removeFrom sd.localPort sd.sockId
    (u.setSocket { sd with localPort := localPort }).pushBack localPort sd.sockId
  else u.setSocket sd

/-- Another socket has the address, and one of the two must not share it. -/
def isTaken (sd : Option SockDesc) (localAddr : IPvXAddress) (localPort : ℤ) : Bool :=
  (u.findFirstSocketByLocalAddress localAddr localPort).any fun existing =>
    !(sd.any SockDesc.reuseAddr && existing.reuseAddr)

def bind (sockId gateIndex : ℤ) (localAddr : IPvXAddress) (localPort : ℤ) : Except UDPFault State :=
  if sockId = -1 then .error .sockIdNotFilledIn
  else if localPort < -1 ∨ 65535 < localPort then .error .invalidLocalPort
  else if u.isTaken (u.socketsByIdMap sockId) localAddr localPort then .error .alreadyTaken
  else
    match u.socketsByIdMap sockId with
    | some sd =>
      if sd.isBound then .error .alreadyBound else .ok (u.bindSocket sd localAddr localPort)
    | none =>
      (u.createSocket sockId gateIndex localAddr localPort).map fun (u, sd) =>
        u.setSocket { sd with isBound := true }

def connect (sockId gateIndex : ℤ) (remoteAddr : IPvXAddress) (remotePort : ℤ) :
    Except UDPFault State :=
  if remoteAddr.isUnspecified then .error .unspecifiedRemoteAddress
  else if remotePort ≤ 0 ∨ 65535 < remotePort then .error .invalidRemotePort
  else
    (u.getOrCreateSocket sockId gateIndex).map fun (u, sd) =>
      u.setSocket { sd with
        remoteAddr := remoteAddr
        remotePort := remotePort
        onlyLocalPortIsSet := false }

/-- The list of a port that gets empty is removed from the map. -/
def close (sockId : ℤ) : Except UDPFault State :=
  match u.socketsByIdMap sockId with
  | none => .error .noSuchSocket
  | some sd =>
    let list := (u.socketsAt sd.localPort).erase sockId
    .ok { u with
      socketsByIdMap := update u.socketsByIdMap sockId none
      socketsByPortMap := update u.socketsByPortMap sd.localPort
        (if list.isEmpty then none else some list) }

/-! ### Options -/

/-- The groups are joined one after the other. -/
def joinMulticastGroups (interfaceIds : List ℤ) : SockDesc → List IPvXAddress → List ℤ →
    Except UDPFault SockDesc
  | sd, [], _ => .ok sd
  | sd, multicastAddr :: multicastAddrs, ids =>
    let interfaceId := ids.headD (-1)
    if !multicastAddr.isMulticast then .error .assertion
    else if interfaceId ≠ -1 ∧ interfaceId ∉ interfaceIds then .error .noSuchInterface
    else
      joinMulticastGroups interfaceIds
        { sd with
          multicastAddrs := update sd.multicastAddrs multicastAddr (some interfaceId) }
        multicastAddrs ids.tail

def leaveMulticastGroups (sd : SockDesc) (multicastAddrs : List IPvXAddress) : SockDesc :=
  { sd with
    multicastAddrs := fun addr => if addr ∈ multicastAddrs then none else sd.multicastAddrs addr }

/-- The socket with the option set. -/
def applyOption (sd : SockDesc) : SetOption → Except UDPFault SockDesc
  | .timeToLive ttl => .ok { sd with ttl := ttl }
  | .typeOfService typeOfService => .ok { sd with typeOfService := typeOfService % 2 ^ 8 }
  | .broadcast broadcast => .ok { sd with isBroadcast := broadcast }
  | .multicastInterface interfaceId => .ok { sd with multicastOutputInterfaceId := interfaceId }
  | .multicastLoop loop => .ok { sd with multicastLoop := loop }
  | .reuseAddress reuseAddr => .ok { sd with reuseAddr := reuseAddr }
  | .joinMulticastGroups multicastAddrs ids =>
    joinMulticastGroups u.interfaceIds sd multicastAddrs ids
  | .leaveMulticastGroups multicastAddrs => .ok (leaveMulticastGroups sd multicastAddrs)

def setOption (sockId gateIndex : ℤ) (option : SetOption) : Except UDPFault State :=
  (u.getOrCreateSocket sockId gateIndex).bind fun (u, sd) =>
    (u.applyOption sd option).map u.setSocket

/-! ### Sending -/

/-- The interface of a packet for a multicast address. -/
def multicastInterface (sd : SockDesc) (destAddr : IPvXAddress) : ℤ :=
  match sd.multicastAddrs destAddr with
  | some interfaceId => if interfaceId ≠ -1 then interfaceId else sd.multicastOutputInterfaceId
  | none => sd.multicastOutputInterfaceId

/-- The packet that a socket sends. -/
def sendDown (sd : SockDesc) (ctrl : SendCommand) : Except UDPFault Packet :=
  let destAddr := if ctrl.destAddr.isUnspecified then sd.remoteAddr else ctrl.destAddr
  let destPort := if ctrl.destPort = -1 then sd.remotePort else ctrl.destPort
  if destAddr.isUnspecified ∨ destPort = -1 then .error .missingDestination
  else if destPort ≤ 0 ∨ 65535 < destPort then .error .invalidRemotePort
  else .ok {
    srcAddr := if ctrl.srcAddr.isUnspecified then sd.localAddr else ctrl.srcAddr
    sourcePort := sd.localPort
    destAddr := destAddr
    destinationPort := destPort
    interfaceId :=
      if ctrl.interfaceId = -1 ∧ destAddr.isMulticast then multicastInterface sd destAddr
      else ctrl.interfaceId
    multicastLoop := sd.multicastLoop
    ttl := sd.ttl
    typeOfService := sd.typeOfService }

def processPacketFromApp (sockId gateIndex : ℤ) (ctrl : SendCommand) :
    Except UDPFault (State × Packet) :=
  (u.getOrCreateSocket sockId gateIndex).bind fun (u, sd) =>
    (sendDown sd ctrl).map fun packet => (u, packet)

end State

/-- What an application asks for. -/
inductive Command
  | bind (sockId gateIndex : ℤ) (localAddr : IPvXAddress) (localPort : ℤ)
  | connect (sockId gateIndex : ℤ) (remoteAddr : IPvXAddress) (remotePort : ℤ)
  | setOption (sockId gateIndex : ℤ) (option : SetOption)
  | send (sockId gateIndex : ℤ) (ctrl : SendCommand)
  | close (sockId : ℤ)

/-- `processCommandFromApp` and `processPacketFromApp`. -/
def State.process (u : State) : Command → Except UDPFault State
  | .bind sockId gateIndex localAddr localPort => u.bind sockId gateIndex localAddr localPort
  | .connect sockId gateIndex remoteAddr remotePort =>
    u.connect sockId gateIndex remoteAddr remotePort
  | .setOption sockId gateIndex option => u.setOption sockId gateIndex option
  | .send sockId gateIndex ctrl => (u.processPacketFromApp sockId gateIndex ctrl).map Prod.fst
  | .close sockId => u.close sockId

end UDP

end Hiwis
