import Hiwis.Ipv4.RoutingTable

/-!
# BGPRouting

The decision process of the `BGPRouting` module: what an UPDATE message does to the BGP table and to
the IPv4 routing table.  Sending updates on and telling OSPF about external routes are left out, as
they change neither table.
-/

namespace Hiwis

namespace Bgp

/-- The types of sessions; an origin is a number, and a lower one is better. -/
inductive SessionType
  | igp
  | egp
  deriving DecidableEq

/-- What the decision process reads of a `BGPSession`. -/
structure Session where
  type : SessionType
  linkIntf : Option ℕ
  deriving DecidableEq

/-- `BGP::RoutingTableEntry`; `sessionID` is the session over which it has been learnt. -/
structure RoutingTableEntry extends IPv4Route where
  pathType : ℕ
  ASList : List ℕ
  sessionID : ℕ
  deriving DecidableEq

/-- `BGPUpdateMessage`, with the session on which it arrives and the time. -/
structure BGPUpdateMessage where
  simTime : ℤ := 0
  sessionID : ℕ
  prefixAddr : IPv4Address
  length : ℕ
  asPath : List ℕ
  origin : ℕ
  nextHop : IPv4Address
  deriving DecidableEq

/-- What stops the module. -/
inductive BGPFault
  /-- `makeNetmask` of a wrong length. -/
  | wrongLength (length : ℕ)
  | routing (fault : RoutingFault)
  deriving DecidableEq

/-- The configuration of the module. -/
structure Config where
  myAS : ℕ
  sessions : ℕ → Session
  prefixListIN : List IPv4Route := []
  ASListIN : List ℕ := []

/-- The module.  `nextId` is the next object; `accepted` records the announcements that have been
accepted for the decision, in their order, and is not read. -/
structure BGPRouting where
  BGPRoutingTable : List RoutingTableEntry := []
  rt : RoutingTable
  nextId : ℕ
  accepted : List RoutingTableEntry := []

/-- The destination of a route without the host bits. -/
def maskedDest (r : IPv4Route) : IPv4Address := r.dest &&& r.netmask

/-- `isInTable`: the first entry of the table with the same masked destination. -/
def isInTable (rtTable : List RoutingTableEntry) (entry : IPv4Route) : Option RoutingTableEntry :=
  rtTable.find? fun entryCur => maskedDest entry == maskedDest entryCur.toIPv4Route

/-- `isInTable`, for a list of prefixes. -/
def isInPrefixList (prefixes : List IPv4Route) (entry : IPv4Route) : Bool :=
  prefixes.any fun entryCur => maskedDest entry == maskedDest entryCur

/-- `isInASList`. -/
def isInASList (ASList : List ℕ) (entry : RoutingTableEntry) : Bool :=
  ASList.any fun as => entry.ASList.contains as

/-- `asLoopDetection`: the loop starts at the second AS of the path. -/
def asLoopDetection (entry : RoutingTableEntry) (myAS : ℕ) : Bool := entry.ASList.tail.contains myAS

/-- `isInRoutingTable`: the first route that covers the address. -/
def isInRoutingTable (rtTable : RoutingTable) (addr : IPv4Address) : Option IPv4Route :=
  rtTable.routes.find? fun entry => IPv4Address.maskedAddrAreEqual addr entry.dest entry.netmask

/-- `tieBreakingProcess`: whether the old entry is kept. -/
def tieBreakingProcess (oldEntry entry : RoutingTableEntry) : Bool :=
  if entry.ASList.length < oldEntry.ASList.length then false
  else if entry.pathType < oldEntry.pathType then false
  else true

/-- The entry for a message. -/
def BGPUpdateMessage.entry (c : Config) (msg : BGPUpdateMessage) (id : ℕ) : RoutingTableEntry where
  id := id
  dest := msg.prefixAddr
  netmask := IPv4Address.makeNetmask msg.length
  gateway := msg.nextHop
  interfacePtr := (c.sessions msg.sessionID).linkIntf
  sourceType := .bgp
  metric := 1
  pathType := msg.origin
  ASList := msg.asPath
  sessionID := msg.sessionID

namespace BGPRouting

variable (c : Config) (n : BGPRouting)

/-- `IRoutingTable::addRoute`. -/
def addRoute (simTime : ℤ) (route : IPv4Route) : Except BGPFault BGPRouting := do
  let rt ← (n.rt.addRoute simTime route).mapError .routing
  pure { n with rt }

/-- `deleteBGPRoutingEntry`. -/
def deleteBGPRoutingEntry (entry : RoutingTableEntry) : BGPRouting :=
  let same (e : RoutingTableEntry) : Bool :=
    maskedDest e.toIPv4Route == maskedDest entry.toIPv4Route
  if n.BGPRoutingTable.any same then
    { n with
      BGPRoutingTable := n.BGPRoutingTable.eraseP same
      rt := n.rt.removeRoute entry.id }
  else n

/-- The route in the IPv4 table that an internal session replaces by one of type BGP. -/
def copyRoute (simTime : ℤ) (route : IPv4Route) : Except BGPFault BGPRouting :=
  { n with rt := n.rt.removeRoute route.id, nextId := n.nextId + 1 }.addRoute simTime
    { id := n.nextId
      dest := route.dest
      netmask := route.netmask
      gateway := route.gateway
      interfacePtr := route.interfacePtr
      sourceType := .bgp }

/-- The end of `decisionProcess`. -/
def newRoute (simTime : ℤ) (entry : RoutingTableEntry) : Except BGPFault BGPRouting :=
  let n := { n with BGPRoutingTable := n.BGPRoutingTable ++ [entry] }
  if (c.sessions entry.sessionID).type = .egp then n.addRoute simTime entry.toIPv4Route
  else pure n

/-- `decisionProcess`. -/
def decisionProcess (simTime : ℤ) (entry : RoutingTableEntry) : Except BGPFault BGPRouting :=
  if isInPrefixList c.prefixListIN entry.toIPv4Route || isInASList c.ASListIN entry then pure n
  else
    match isInTable n.BGPRoutingTable entry.toIPv4Route with
    | some oldEntry =>
      let n := { n with accepted := n.accepted ++ [entry] }
      if tieBreakingProcess oldEntry entry then pure n
      else
        let n := n.deleteBGPRoutingEntry oldEntry
        { n with BGPRoutingTable := n.BGPRoutingTable ++ [entry] }.addRoute simTime
          entry.toIPv4Route
    | none =>
      match isInRoutingTable n.rt entry.dest with
      | some route =>
        if route.sourceType ≠ .bgp then
          if (c.sessions entry.sessionID).type ≠ .igp then pure n
          else do
            let n ← { n with accepted := n.accepted ++ [entry] }.copyRoute simTime route
            n.newRoute c simTime entry
        else { n with accepted := n.accepted ++ [entry] }.newRoute c simTime entry
      | none => { n with accepted := n.accepted ++ [entry] }.newRoute c simTime entry

/-- `processMessage`, for an UPDATE message. -/
def processMessage (msg : BGPUpdateMessage) : Except BGPFault BGPRouting :=
  if 32 < msg.length then throw (.wrongLength msg.length)
  else
    let entry := msg.entry c n.nextId
    let n := { n with nextId := n.nextId + 1 }
    if asLoopDetection entry c.myAS then pure n
    else n.decisionProcess c msg.simTime entry

end BGPRouting

end Bgp

end Hiwis
