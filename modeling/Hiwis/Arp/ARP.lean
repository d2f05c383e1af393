import Hiwis.Ieee8021d.InterfaceData
import Hiwis.Ipv4.InterfaceEntry
import Hiwis.Lib.Trace

/-!
# Address resolution

The cache of `ARP` with its retry timers, and the queues of `IPv4` for the datagrams that wait for a
resolution, of one node.  What the two modules send and the signals of `ARP` are collected in `log`.
A cache entry is known by its address, under which it stays until it is deleted; a self message is
known by a number.
-/

namespace Hiwis

open Function

namespace MACAddress

def unspecifiedAddress : MACAddress := 0

def broadcastAddress : MACAddress := BitVec.allOnes 48

def isUnspecified (address : MACAddress) : Bool := address == unspecifiedAddress

/-- `makeMulticastAddress`. -/
def makeMulticastAddress (addr : IPv4Address) : MACAddress :=
  0x01005E000000 ||| (addr &&& 0x7FFFFF).setWidth 48

end MACAddress

/-- `makeBroadcastAddress`. -/
def IPv4Address.makeBroadcastAddress (addr netmask : IPv4Address) : IPv4Address :=
  addr ||| ~~~netmask

/-- `getNetworkBroadcastAddress`. -/
def IPv4InterfaceData.getNetworkBroadcastAddress (d : IPv4InterfaceData) : IPv4Address :=
  d.inetAddr.makeBroadcastAddress d.netmask

namespace Arp

/-- The fields of `InterfaceEntry` that address resolution reads besides the addresses. -/
structure NetworkInterface extends InterfaceEntry where
  broadcast : Bool
  macAddr : MACAddress
  deriving DecidableEq

/-- `isIeee802Lan`: address resolution is needed. -/
def NetworkInterface.isIeee802Lan (ie : NetworkInterface) : Bool :=
  ie.broadcast && !ie.macAddr.isUnspecified

/-- `IPv4Datagram`, as far as it is read here. -/
structure Datagram where
  id : ℕ
  destAddress : IPv4Address
  deriving DecidableEq

def ARP_REQUEST : ℤ := 1

def ARP_REPLY : ℤ := 2

/-- `ARPPacket`. -/
structure ARPPacket where
  opcode : ℤ
  srcMACAddress : MACAddress
  destMACAddress : MACAddress := .unspecifiedAddress
  srcIPAddress : IPv4Address
  destIPAddress : IPv4Address
  deriving DecidableEq

/-- What `ARP` asks the routing table. -/
structure IRoutingTable where
  isLocalAddress : IPv4Address → Bool
  getInterfaceForDestAddr : IPv4Address → Option NetworkInterface

/-- The parameters of `ARP`, and `useProxyARP` of `IPv4`. -/
structure Parameters where
  retryTimeout : ℤ
  retryCount : ℤ
  cacheTimeout : ℤ
  respondToProxyARP : Bool
  globalARP : Bool
  globalArpCache : IPv4Address → Option MACAddress
  useProxyARP : Bool

inductive ArpFault
  /-- The queue of an address is not empty although its MAC address is known. -/
  | pendingQueueNotEmpty
  /-- Another failed `ASSERT`. -/
  | assertion
  /-- A pointer that is null, or to an entry that has been deleted. -/
  | nullPointer
  | noNextHop
  | globalARP
  | emptySourceAddress
  | unsupportedOpcode
  | scheduledInPast
  deriving DecidableEq

/-- `ARPCacheEntry`. -/
structure ARPCacheEntry where
  ie : NetworkInterface
  pending : Bool := false
  macAddress : MACAddress := .unspecifiedAddress
  lastUpdate : ℤ := 0
  numRetries : ℤ := 0
  timer : Option ℕ := none
  deriving DecidableEq

/-- A self message that is scheduled. -/
structure Timer where
  arrivalTime : ℤ
  contextPointer : IPv4Address
  deriving DecidableEq

inductive Output
  /-- The datagram is put on a queue. -/
  | queued (datagram : Datagram) (nextHopAddr : IPv4Address) (ie : NetworkInterface) (now : ℤ)
  /-- `sendPacketToIeee802NIC`. -/
  | sent (datagram : Datagram) (ie : NetworkInterface) (macAddress : MACAddress)
  /-- `sendPacketToNIC`. -/
  | sentToNIC (datagram : Datagram) (ie : NetworkInterface)
  | dropped (datagram : Datagram)
  | arpSent (arp : ARPPacket) (ie : NetworkInterface) (macAddress : MACAddress)
  | initiatedARPResolution (addr : IPv4Address) (ie : NetworkInterface)
  | completedARPResolution (addr : IPv4Address) (macAddress : MACAddress) (ie : NetworkInterface)
  | failedARPResolution (addr : IPv4Address) (ie : NetworkInterface)
  deriving DecidableEq

/-- The datagram of an output. -/
def Output.datagram? : Output → Option Datagram
  | .queued datagram .. | .sent datagram .. | .sentToNIC datagram _ | .dropped datagram =>
    some datagram
  | _ => none

structure State where
  now : ℤ := 0
  arpCache : IPv4Address → Option ARPCacheEntry := fun _ => none
  scheduled : ℕ → Option Timer := fun _ => none
  /-- The number of the next message that is created. -/
  nextMsg : ℕ := 0
  pendingPackets : IPv4Address → Option (List Datagram) := fun _ => none
  log : List Output := []

namespace State

variable (p : Parameters) (s : State)

/-! ### The simulation kernel -/

def emit (out : Output) : State := { s with log := s.log ++ [out] }

def scheduleAt (msg : ℕ) (time : ℤ) (contextPointer : IPv4Address) : Except ArpFault State :=
  if time < s.now then .error .scheduledInPast
  else .ok { s with
    scheduled := update s.scheduled msg (some ⟨time, contextPointer⟩)
    nextMsg := max s.nextMsg (msg + 1) }

def cancelEvent (msg : ℕ) : State := { s with scheduled := update s.scheduled msg none }

/-! ### The queues of `IPv4` -/

def arpResolutionCompleted (addr : IPv4Address) (macAddress : MACAddress) (ie : NetworkInterface) :
    State :=
  { s with
    pendingPackets := update s.pendingPackets addr none
    log := s.log ++ ((s.pendingPackets addr).getD []).map fun d => .sent d ie macAddress }

def arpResolutionTimedOut (addr : IPv4Address) : State :=
  { s with
    pendingPackets := update s.pendingPackets addr none
    log := s.log ++ ((s.pendingPackets addr).getD []).map .dropped }

def enqueue (datagram : Datagram) (addr : IPv4Address) (ie : NetworkInterface) : State :=
  { s with
    pendingPackets :=
      update s.pendingPackets addr (some ((s.pendingPackets addr).getD [] ++ [datagram]))
    log := s.log ++ [.queued datagram addr ie s.now] }

/-! ### Resolutions -/

def setEntry (addr : IPv4Address) (entry : ARPCacheEntry) : State :=
  { s with arpCache := update s.arpCache addr (some entry) }

def eraseEntry (addr : IPv4Address) : State := { s with arpCache := update s.arpCache addr none }

def sendARPRequest (ie : NetworkInterface) (ipAddress : IPv4Address) : Except ArpFault State :=
  match ie.ipv4Data with
  | none => .error .nullPointer
  | some d =>
    if ie.macAddr.isUnspecified || d.inetAddr.isUnspecified then .error .assertion
    else
      let arp : ARPPacket := {
        opcode := ARP_REQUEST
        srcMACAddress := ie.macAddr
        srcIPAddress := d.inetAddr
        destIPAddress := ipAddress }
      .ok (s.emit (.arpSent arp ie .broadcastAddress))

def initiateARPResolution (nextHopAddr : IPv4Address) (entry : ARPCacheEntry) :
    Except ArpFault State := do
  let msg := s.nextMsg
  let s := s.setEntry nextHopAddr { entry with
    pending := true, numRetries := 0, lastUpdate := 0, macAddress := .unspecifiedAddress
    timer := some msg }
  let s ← s.sendARPRequest entry.ie nextHopAddr
  let s ← s.scheduleAt msg (s.now + p.retryTimeout) nextHopAddr
  pure (s.emit (.initiatedARPResolution nextHopAddr entry.ie))

def startAddressResolution (addr : IPv4Address) (ie : NetworkInterface) : Except ArpFault State :=
  if p.globalARP then .error .globalARP
  else
    match s.arpCache addr with
    | none => s.initiateARPResolution p addr { ie := ie }
    | some entry =>
      if entry.pending then .ok s else s.initiateARPResolution p addr { entry with ie := ie }

/-- The end of `requestTimedOut`: the entry is thrown out. -/
def resolutionFailed (addr : IPv4Address) (ie : NetworkInterface) : State :=
  ((s.emit (.failedARPResolution addr ie)).arpResolutionTimedOut addr).eraseEntry addr

/-- `requestTimedOut`, for the message `msg` with the context pointer `addr`. -/
def requestTimedOut (msg : ℕ) (addr : IPv4Address) : Except ArpFault State :=
  match s.arpCache addr with
  | none => .error .nullPointer
  | some entry =>
    if entry.numRetries + 1 < p.retryCount then do
      let s := s.setEntry addr { entry with numRetries := entry.numRetries + 1 }
      let s ← s.sendARPRequest entry.ie addr
      s.scheduleAt msg (s.now + p.retryTimeout) addr
    else .ok (s.resolutionFailed addr entry.ie)

/-- A self message arrives. -/
def handleSelfMessage (msg : ℕ) : Except ArpFault State :=
  match s.scheduled msg with
  | none => .error .nullPointer
  | some timer => (s.cancelEvent msg).requestTimedOut p msg timer.contextPointer

/-- The address of the entry is known: the end of `updateARPCache`. -/
def resolved (addr : IPv4Address) (entry : ARPCacheEntry) (macAddress : MACAddress) : State :=
  let s := s.setEntry addr { entry with macAddress := macAddress, lastUpdate := s.now }
  (s.emit (.completedARPResolution addr macAddress entry.ie)).arpResolutionCompleted addr macAddress
    entry.ie

def updateARPCache (addr : IPv4Address) (entry : ARPCacheEntry) (macAddress : MACAddress) :
    Except ArpFault State :=
  if entry.pending then
    match entry.timer with
    | none => .error .nullPointer
    | some msg =>
      .ok ((s.cancelEvent msg).resolved addr
        { entry with pending := false, timer := none, numRetries := 0 } macAddress)
  else .ok (s.resolved addr entry macAddress)

end State

def addressRecognized (p : Parameters) (rt : IRoutingTable) (destAddr : IPv4Address)
    (ie : NetworkInterface) : Bool :=
  rt.isLocalAddress destAddr ||
    (p.respondToProxyARP && (rt.getInterfaceForDestAddr destAddr).any fun rtie => rtie != ie)

namespace State

variable (p : Parameters) (s : State)

section

variable (arp : ARPPacket) (ie : NetworkInterface)

/-- The sender of an ARP packet is entered into the cache. -/
def mergeSender (recognized : Bool) :
    Except ArpFault State :=
  match s.arpCache arp.srcIPAddress with
  | some entry => s.updateARPCache arp.srcIPAddress entry arp.srcMACAddress
  | none =>
    if recognized then s.updateARPCache arp.srcIPAddress { ie := ie } arp.srcMACAddress else .ok s

/-- The answer to a packet that is for an address of the node. -/
def answer : Except ArpFault State :=
  if arp.opcode = ARP_REQUEST then
    if ie.ipv4Data.isNone then .error .nullPointer
    else
      let reply : ARPPacket := {
        opcode := ARP_REPLY
        srcMACAddress := ie.macAddr
        destMACAddress := arp.srcMACAddress
        srcIPAddress := arp.destIPAddress
        destIPAddress := arp.srcIPAddress }
      .ok (s.emit (.arpSent reply ie arp.srcMACAddress))
  else if arp.opcode = ARP_REPLY then .ok s
  else .error .unsupportedOpcode

def processARPPacket (rt : IRoutingTable) :
    Except ArpFault State :=
  if arp.srcMACAddress.isUnspecified || arp.srcIPAddress.isUnspecified then
    .error .emptySourceAddress
  else
    let recognized := addressRecognized p rt arp.destIPAddress ie
    (s.mergeSender arp ie recognized).bind fun s => if recognized then s.answer arp ie else .ok s

end

/-! ### Sending -/

def getMACAddressFor (addr : IPv4Address) : MACAddress :=
  if p.globalARP then (p.globalArpCache addr).getD .unspecifiedAddress
  else
    match s.arpCache addr with
    | some entry =>
      if !entry.pending && s.now ≤ entry.lastUpdate + p.cacheTimeout then entry.macAddress
      else .unspecifiedAddress
    | none => .unspecifiedAddress

end State

/-- The MAC address of a broadcast or multicast address; it is not looked up in the cache. -/
def groupMacAddress (nextHopAddr : IPv4Address) (destIE : NetworkInterface) :
    Except ArpFault (Option MACAddress) :=
  if nextHopAddr = IPv4Address.allonesAddress then .ok (some .broadcastAddress)
  else
    match destIE.ipv4Data with
    | none => .error .nullPointer
    | some d =>
      if nextHopAddr = d.getNetworkBroadcastAddress then .ok (some .broadcastAddress)
      else if nextHopAddr.isMulticast then .ok (some (.makeMulticastAddress nextHopAddr))
      else .ok none

/-- The address that is resolved. -/
def nextHop (p : Parameters) (datagram : Datagram) (nextHopAddr : IPv4Address) :
    Except ArpFault IPv4Address :=
  if !nextHopAddr.isUnspecified then .ok nextHopAddr
  else if p.useProxyARP then .ok datagram.destAddress
  else .error .noNextHop

namespace State

variable (p : Parameters) (s : State)

def resolveNextHopMacAddress (nextHopAddr : IPv4Address) (destIE : NetworkInterface) :
    Except ArpFault MACAddress :=
  (groupMacAddress nextHopAddr destIE).map fun mac => mac.getD (s.getMACAddressFor p nextHopAddr)

/-- The end of `sendDatagramToOutput`, on an IEEE 802 LAN. -/
def sendOrEnqueue (datagram : Datagram) (ie : NetworkInterface) (nextHopAddr : IPv4Address)
    (nextHopMacAddr : MACAddress) : Except ArpFault State :=
  if nextHopMacAddr.isUnspecified then
    (s.enqueue datagram nextHopAddr ie).startAddressResolution p nextHopAddr ie
  else if (s.pendingPackets nextHopAddr).isSome then .error .pendingQueueNotEmpty
  else .ok (s.emit (.sent datagram ie nextHopMacAddr))

def sendDatagramToOutput (datagram : Datagram) (ie : NetworkInterface) (nextHopAddr : IPv4Address) :
    Except ArpFault State :=
  if !ie.isIeee802Lan then .ok (s.emit (.sentToNIC datagram ie))
  else do
    let nextHopAddr ← nextHop p datagram nextHopAddr
    let nextHopMacAddr ← s.resolveNextHopMacAddress p nextHopAddr ie
    s.sendOrEnqueue p datagram ie nextHopAddr nextHopMacAddr

end State

/-! ### Steps -/

inductive Input
  | datagram (datagram : Datagram) (ie : NetworkInterface) (nextHopAddr : IPv4Address)
  | arpPacket (arp : ARPPacket) (ie : NetworkInterface) (rt : IRoutingTable)
  | selfMessage (msg : ℕ)

/-- What happens at a time. -/
def step (p : Parameters) (s : State) (a : ℤ × Input) : Except ArpFault State :=
  let s := { s with now := a.1 }
  match a.2 with
  | .datagram datagram ie nextHopAddr => s.sendDatagramToOutput p datagram ie nextHopAddr
  | .arpPacket arp ie rt => s.processARPPacket p arp ie rt
  | .selfMessage msg => s.handleSelfMessage p msg

/-- The time does not pass a scheduled message, a message arrives at its time, and a datagram is
handed over once. -/
def CanHappen (s : State) (a : ℤ × Input) : Prop :=
  s.now ≤ a.1 ∧ (∀ msg < s.nextMsg, ∀ timer ∈ s.scheduled msg, a.1 ≤ timer.arrivalTime) ∧
    match a.2 with
    | .datagram datagram _ _ => ∀ out ∈ s.log, out.datagram? ≠ some datagram
    | .arpPacket _ _ _ => True
    | .selfMessage msg => ∃ timer ∈ s.scheduled msg, timer.arrivalTime = a.1

instance (s : State) (a : ℤ × Input) : Decidable (CanHappen s a) :=
  match a with
  | (now, .datagram datagram _ _) =>
    inferInstanceAs (Decidable (s.now ≤ now ∧
      (∀ msg < s.nextMsg, ∀ timer ∈ s.scheduled msg, now ≤ timer.arrivalTime) ∧
      ∀ out ∈ s.log, out.datagram? ≠ some datagram))
  | (now, .arpPacket _ _ _) =>
    inferInstanceAs (Decidable (s.now ≤ now ∧
      (∀ msg < s.nextMsg, ∀ timer ∈ s.scheduled msg, now ≤ timer.arrivalTime) ∧ True))
  | (now, .selfMessage msg) =>
    inferInstanceAs (Decidable (s.now ≤ now ∧
      (∀ msg < s.nextMsg, ∀ timer ∈ s.scheduled msg, now ≤ timer.arrivalTime) ∧
      ∃ timer ∈ s.scheduled msg, timer.arrivalTime = now))

end Arp

end Hiwis
