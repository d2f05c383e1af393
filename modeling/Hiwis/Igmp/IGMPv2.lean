import Hiwis.Ipv4.InterfaceEntry
import Hiwis.Lib.Trace

/-!
# IGMPv2

The `IGMPv2` module of one node, with the multicast data that `IPv4InterfaceData` keeps for it.
Each of its multicast interfaces has a state of its own, on which the handlers work; what they send
and the notifications that they fire are collected in `log`.  The random delay of a report timer is
an argument.
-/

namespace Hiwis

open Function

/-- `isLinkLocalMulticast`. -/
def IPv4Address.isLinkLocalMulticast (addr : IPv4Address) : Bool :=
  addr &&& 0xFFFFFF00 == 0xE0000000

namespace Igmp

/-- `HostGroupState`. -/
inductive HostGroupState
  | nonMember
  | delayingMember
  | idleMember
  deriving DecidableEq

/-- `RouterState`. -/
inductive RouterState
  | initial
  | querier
  | nonQuerier
  deriving DecidableEq

/-- `RouterGroupState`. -/
inductive RouterGroupState
  | noMembersPresent
  | membersPresent
  | checkingMembership
  deriving DecidableEq

/-- A pointer to a timer message: null, or the time for which the message is scheduled if it is. -/
abbrev Timer := Option (Option ℚ)

/-- `HostGroupData`; the defaults are those of its constructor. -/
structure HostGroupData where
  state : HostGroupState := .nonMember
  flag : Bool := false
  timer : Timer := none
  deriving DecidableEq

/-- `RouterGroupData`. -/
structure RouterGroupData where
  state : RouterGroupState := .noMembersPresent
  timer : Timer := none
  rexmtTimer : Timer := none
  deriving DecidableEq

/-- What the module sends and fires. -/
inductive Observation
  | query (groupAddr : IPv4Address) (maxRespTime : ℤ)
  | report (groupAddr : IPv4Address)
  | leave (groupAddr : IPv4Address)
  | routerOut
  | registered (groupAddr : IPv4Address)
  | unregistered (groupAddr : IPv4Address)
  deriving DecidableEq

inductive Fault
  /-- A failed `ASSERT`. -/
  | assertion
  /-- A null pointer is used. -/
  | nullPointer
  deriving DecidableEq

/-- The parameters of the module. -/
structure Parameters where
  enabled : Bool := true
  multicastForwarding : Bool
  externalRouter : Bool := false
  queryInterval : ℚ := 125
  queryResponseInterval : ℚ := 10
  groupMembershipInterval : ℚ := 260
  otherQuerierPresentInterval : ℚ := 255
  startupQueryInterval : ℚ := 125 / 4
  lastMemberQueryInterval : ℚ := 1
  lastMemberQueryCount : ℤ := 2
  deriving DecidableEq

/-- One interface: its address, the reference counts of the groups joined on it and its listener
list, and the `HostInterfaceData` and `RouterInterfaceData` of the module. -/
structure Interface where
  address : IPv4Address
  refCounts : IPv4Address → ℕ := fun _ => 0
  reportedMulticastGroups : List IPv4Address := []
  hostGroups : AList fun _ : IPv4Address => HostGroupData := ∅
  igmpRouterState : RouterState := .initial
  igmpQueryTimer : Timer := none
  routerGroups : IPv4Address → Option RouterGroupData := fun _ => none
  log : List Observation := []

/-- `cancelEvent`. -/
def cancelEvent : Timer → Except Fault Timer
  | some _ => pure (some none)
  | none => throw .nullPointer

/-- `cancelEvent`, made under a condition. -/
def cancelEventIf (condition : Bool) (timer : Timer) : Except Fault Timer :=
  if condition then cancelEvent timer else pure timer

/-- `startTimer`. -/
def startTimer (timer : Timer) (arrivalTime : ℚ) : Except Fault Timer :=
  match timer with
  | some _ => pure (some (some arrivalTime))
  | none => throw .assertion

namespace Interface

variable (c : Parameters) (now : ℚ) (ie : Interface)

def observe (o : Observation) : Interface := { ie with log := ie.log ++ [o] }

def setHostGroup (groupAddr : IPv4Address) (data : HostGroupData) : Interface :=
  { ie with hostGroups := ie.hostGroups.insert groupAddr data }

def setRouterGroup (groupAddr : IPv4Address) (data : Option RouterGroupData) : Interface :=
  { ie with routerGroups := update ie.routerGroups groupAddr data }

/-! ### Sending -/

def sendQuery (groupAddr : IPv4Address) (maxRespTime : ℚ) : Except Fault Interface :=
  if !(groupAddr.isUnspecified || (groupAddr.isMulticast && !groupAddr.isLinkLocalMulticast)) then
    throw .assertion
  else if ie.igmpRouterState = .querier then
    pure (ie.observe (.query groupAddr (maxRespTime * 10).floor))
  else pure ie

def sendReport (groupAddr : IPv4Address) : Except Fault Interface :=
  if !(groupAddr.isMulticast && !groupAddr.isLinkLocalMulticast) then throw .assertion
  else pure (ie.observe (.report groupAddr))

def sendLeave (groupAddr : IPv4Address) : Except Fault Interface :=
  if !(groupAddr.isMulticast && !groupAddr.isLinkLocalMulticast) then throw .assertion
  else pure (ie.observe (.leave groupAddr))

/-- `configureInterface`. -/
def configureInterface : Except Fault Interface :=
  if c.enabled && c.multicastForwarding && !c.externalRouter then do
    let ie := { ie with igmpRouterState := .querier }
    let ie ← ie.sendQuery IPv4Address.unspecifiedAddress c.queryResponseInterval
    let igmpQueryTimer ← startTimer (some none) (now + c.startupQueryInterval)
    pure { ie with igmpQueryTimer }
  else pure ie

/-! ### Local listeners -/

/-- `startHostTimer`, with the delay that has been drawn. -/
def startHostTimer (group : HostGroupData) (delay : ℚ) : HostGroupData :=
  { group with timer := some (some (now + delay)) }

def multicastGroupJoined (delay : ℚ) (groupAddr : IPv4Address) : Except Fault Interface :=
  if !groupAddr.isMulticast then throw .assertion
  else if c.enabled && !groupAddr.isLinkLocalMulticast then do
    if (ie.hostGroups.lookup groupAddr).isSome then throw .assertion
    let ie ← ie.sendReport groupAddr
    let groupData := startHostTimer now { flag := true } delay
    pure (ie.setHostGroup groupAddr { groupData with state := .delayingMember })
  else pure ie

def multicastGroupLeft (groupAddr : IPv4Address) : Except Fault Interface :=
  if !groupAddr.isMulticast then throw .assertion
  else if c.enabled && !groupAddr.isLinkLocalMulticast then do
    let ie ← match ie.hostGroups.lookup groupAddr with
      | some groupData => do
        let _ ← cancelEventIf (groupData.state = .delayingMember) groupData.timer
        if groupData.flag then ie.sendLeave groupAddr else pure ie
      | none => pure ie
    pure { ie with hostGroups := ie.hostGroups.erase groupAddr }
  else pure ie

/-- `IPv4InterfaceData::joinMulticastGroup`: the module hears of the first listener. -/
def joinMulticastGroup (delay : ℚ) (multicastAddress : IPv4Address) : Except Fault Interface :=
  let joined := ie.refCounts multicastAddress
  let ie := { ie with refCounts := update ie.refCounts multicastAddress (joined + 1) }
  if joined = 0 then ie.multicastGroupJoined c now delay multicastAddress else pure ie

section

variable (multicastAddress : IPv4Address)

/-- `IPv4InterfaceData::leaveMulticastGroup`: the module hears of the last listener. -/
def leaveMulticastGroup : Except Fault Interface :=
  let joined := ie.refCounts multicastAddress
  let ie := { ie with refCounts := update ie.refCounts multicastAddress (joined - 1) }
  if joined = 1 then ie.multicastGroupLeft c multicastAddress else pure ie

def addMulticastListener : Except Fault Interface :=
  if !multicastAddress.isMulticast then throw .assertion
  else if ie.reportedMulticastGroups.contains multicastAddress then pure ie
  else pure { ie with
    reportedMulticastGroups := ie.reportedMulticastGroups ++ [multicastAddress] }

def removeMulticastListener : Interface :=
  { ie with reportedMulticastGroups := ie.reportedMulticastGroups.erase multicastAddress }

end

/-! ### Timers -/

def processQueryTimer : Except Fault Interface :=
  if ie.igmpRouterState = .querier || ie.igmpRouterState = .nonQuerier then do
    let ie := { ie with igmpRouterState := .querier }
    let ie ← ie.sendQuery IPv4Address.unspecifiedAddress c.queryResponseInterval
    let igmpQueryTimer ← startTimer ie.igmpQueryTimer (now + c.queryInterval)
    pure { ie with igmpQueryTimer }
  else pure ie

def processHostGroupTimer (groupAddr : IPv4Address) (hostGroup : HostGroupData) :
    Except Fault Interface := do
  let ie ← ie.sendReport groupAddr
  pure (ie.setHostGroup groupAddr { hostGroup with flag := true, state := .idleMember })

def processLeaveTimer (groupAddr : IPv4Address) (routerGroup : RouterGroupData) :
    Except Fault Interface := do
  let ie := ie.removeMulticastListener groupAddr
  let ie := ie.observe (.unregistered groupAddr)
  let _ ← cancelEventIf (routerGroup.state = .checkingMembership) routerGroup.rexmtTimer
  pure (ie.setRouterGroup groupAddr none)

def processRexmtTimer (groupAddr : IPv4Address) (routerGroup : RouterGroupData) :
    Except Fault Interface := do
  let ie ← ie.sendQuery groupAddr c.lastMemberQueryInterval
  let rexmtTimer ← startTimer routerGroup.rexmtTimer (now + c.lastMemberQueryInterval)
  pure (ie.setRouterGroup groupAddr
    (some { routerGroup with rexmtTimer, state := .checkingMembership }))

/-! ### Messages -/

/-- `processGroupQuery`. -/
def processGroupQuery (group : HostGroupData) (delay : ℚ) (maxRespTime : ℤ) :
    Except Fault HostGroupData :=
  let maxRespTimeSecs : ℚ := maxRespTime / 10
  match group.state with
  | .delayingMember =>
    match group.timer with
    | none => throw .nullPointer
    | some (some arrivalTime) =>
      pure (if now + maxRespTimeSecs < arrivalTime then startHostTimer now group delay else group)
    | some none => pure group
  | .idleMember => pure { startHostTimer now group delay with state := .delayingMember }
  | .nonMember => pure group

/-- The host's part of `processQuery` for one group. -/
def processHostQuery (delay : IPv4Address → ℚ) (maxRespTime : ℤ) (groupAddr : IPv4Address) :
    Except Fault Interface :=
  match ie.hostGroups.lookup groupAddr with
  | some group => do
    let group ← processGroupQuery now group (delay groupAddr) maxRespTime
    pure (ie.setHostGroup groupAddr group)
  | none => pure ie

/-- The host's part of `processQuery`. -/
def processHostQueries (delay : IPv4Address → ℚ) (maxRespTime : ℤ) (groupAddr : IPv4Address) :
    Except Fault Interface :=
  if groupAddr.isUnspecified then
    ie.hostGroups.keys.foldlM (fun ie g => ie.processHostQuery now delay maxRespTime g) ie
  else ie.processHostQuery now delay maxRespTime groupAddr

/-- The router's part of `processQuery` when no external router handles it. -/
def processRouterQuery (sender groupAddr : IPv4Address) (maxRespTime : ℤ) :
    Except Fault Interface := do
  let ie ← if sender < ie.address then do
      let igmpQueryTimer ← startTimer ie.igmpQueryTimer (now + c.otherQuerierPresentInterval)
      pure { ie with igmpQueryTimer, igmpRouterState := .nonQuerier }
    else pure ie
  if !groupAddr.isUnspecified && ie.igmpRouterState = .nonQuerier then
    match ie.routerGroups groupAddr with
    | none => throw .nullPointer
    | some groupData =>
      if groupData.state = .membersPresent then do
        let maxResponseTime : ℚ := maxRespTime / 10
        let timer ← startTimer groupData.timer (now + maxResponseTime * c.lastMemberQueryCount)
        pure (ie.setRouterGroup groupAddr
          (some { groupData with timer, state := .checkingMembership }))
      else pure ie
  else pure ie

/-- `processQuery`. -/
def processQuery (delay : IPv4Address → ℚ) (sender groupAddr : IPv4Address) (maxRespTime : ℤ) :
    Except Fault Interface := do
  let ie ← ie.processHostQueries now delay maxRespTime groupAddr
  if c.multicastForwarding then
    if c.externalRouter then pure (ie.observe .routerOut)
    else ie.processRouterQuery c now sender groupAddr maxRespTime
  else pure ie

variable (groupAddr : IPv4Address)

/-- The host's part of `processV2Report`. -/
def processHostReport : Except Fault Interface :=
  match ie.hostGroups.lookup groupAddr with
  | some hostGroupData =>
    if hostGroupData.state = .delayingMember then do
      let timer ← cancelEvent hostGroupData.timer
      pure (ie.setHostGroup groupAddr { flag := false, timer, state := .idleMember })
    else pure ie
  | none => pure ie

/-- `createRouterGroupData`, if there is no data yet, and the two timers of the data. -/
def routerGroupData : Except Fault RouterGroupData := do
  let data ← match ie.routerGroups groupAddr with
    | some data => pure data
    | none => if !groupAddr.isMulticast then throw .assertion else pure {}
  pure { data with
    timer := some (data.timer.getD none)
    rexmtTimer := some (data.rexmtTimer.getD none) }

/-- The router's part of `processV2Report`. -/
def processRouterReport : Except Fault Interface := do
  let data ← ie.routerGroupData groupAddr
  let ie ← if data.state = .noMembersPresent then do
      let ie ← ie.addMulticastListener groupAddr
      pure (ie.observe (.registered groupAddr))
    else pure ie
  let rexmtTimer ← cancelEventIf (data.state = .checkingMembership) data.rexmtTimer
  let timer ← startTimer data.timer (now + c.groupMembershipInterval)
  pure (ie.setRouterGroup groupAddr (some { timer, rexmtTimer, state := .membersPresent }))

/-- `processV2Report`. -/
def processV2Report : Except Fault Interface := do
  let ie ← ie.processHostReport groupAddr
  if c.multicastForwarding then
    if c.externalRouter then pure (ie.observe .routerOut)
    else ie.processRouterReport c now groupAddr
  else pure ie

/-- The router's part of `processLeave`. -/
def processRouterLeave : Except Fault Interface :=
  match ie.routerGroups groupAddr with
  | some groupData =>
    if groupData.state = .membersPresent && ie.igmpRouterState = .querier then do
      let timer ← startTimer groupData.timer
        (now + c.lastMemberQueryInterval * c.lastMemberQueryCount)
      let rexmtTimer ← startTimer groupData.rexmtTimer (now + c.lastMemberQueryInterval)
      let ie ← ie.sendQuery groupAddr c.lastMemberQueryInterval
      pure (ie.setRouterGroup groupAddr (some { timer, rexmtTimer, state := .checkingMembership }))
    else pure ie
  | none => pure ie

/-- `processLeave`. -/
def processLeave : Except Fault Interface :=
  if c.multicastForwarding then
    if c.externalRouter then pure (ie.observe .routerOut)
    else ie.processRouterLeave c now groupAddr
  else pure ie

end Interface

/-! ### The module -/

/-- What happens on an interface. -/
inductive Event
  | join (groupAddr : IPv4Address)
  | leave (groupAddr : IPv4Address)
  | query (sender groupAddr : IPv4Address) (maxRespTime : ℤ)
  | report (groupAddr : IPv4Address)
  | leaveGroup (groupAddr : IPv4Address)
  | queryTimer
  | hostGroupTimer (groupAddr : IPv4Address)
  | leaveTimer (groupAddr : IPv4Address)
  | rexmtTimer (groupAddr : IPv4Address)
  deriving DecidableEq

/-- An event at a given time, with the delays that would be drawn for the groups. -/
structure Input where
  now : ℚ
  delay : IPv4Address → ℚ := fun _ => 0
  event : Event

namespace Interface

/-- The reaction to an event.  The timer that expires is not scheduled any more; a module that is
not enabled drops its messages. -/
def handle (c : Parameters) (ie : Interface) (x : Input) : Except Fault Interface :=
  match x.event with
  | .join groupAddr => ie.joinMulticastGroup c x.now (x.delay groupAddr) groupAddr
  | .leave groupAddr => ie.leaveMulticastGroup c groupAddr
  | .query sender groupAddr maxRespTime =>
    if c.enabled then ie.processQuery c x.now x.delay sender groupAddr maxRespTime else pure ie
  | .report groupAddr => if c.enabled then ie.processV2Report c x.now groupAddr else pure ie
  | .leaveGroup groupAddr => if c.enabled then ie.processLeave c x.now groupAddr else pure ie
  | .queryTimer => { ie with igmpQueryTimer := some none }.processQueryTimer c x.now
  | .hostGroupTimer groupAddr =>
    match ie.hostGroups.lookup groupAddr with
    | some data => ie.processHostGroupTimer groupAddr { data with timer := some none }
    | none => pure ie
  | .leaveTimer groupAddr =>
    match ie.routerGroups groupAddr with
    | some data => ie.processLeaveTimer groupAddr { data with timer := some none }
    | none => pure ie
  | .rexmtTimer groupAddr =>
    match ie.routerGroups groupAddr with
    | some data => ie.processRexmtTimer c x.now groupAddr { data with rexmtTimer := some none }
    | none => pure ie

/-- Listeners join and leave multicast groups; a timer expires at the time it is scheduled for. -/
def CanHappen (ie : Interface) (x : Input) : Prop :=
  match x.event with
  | .join groupAddr | .leave groupAddr => groupAddr.isMulticast = true
  | .queryTimer => ie.igmpQueryTimer = some (some x.now)
  | .hostGroupTimer groupAddr =>
    (ie.hostGroups.lookup groupAddr).map HostGroupData.timer = some (some (some x.now))
  | .leaveTimer groupAddr =>
    (ie.routerGroups groupAddr).map RouterGroupData.timer = some (some (some x.now))
  | .rexmtTimer groupAddr =>
    (ie.routerGroups groupAddr).map RouterGroupData.rexmtTimer = some (some (some x.now))
  | _ => True

end Interface

/-- The interfaces after `initialize`. -/
def configureInterfaces {ι : Type} (c : Parameters) (address : ι → IPv4Address) :
    ι → Except Fault Interface :=
  fun i => ({ address := address i } : Interface).configureInterface c 0

/-- The module processes an event on one of its interfaces. -/
def handleMessage {ι : Type} [DecidableEq ι] (c : Parameters) (n : ι → Interface)
    (x : ι × Input) : Except Fault (ι → Interface) := do
  let ie ← (n x.1).handle c x.2
  pure (update n x.1 ie)

def CanHappen {ι : Type} (n : ι → Interface) (x : ι × Input) : Prop := (n x.1).CanHappen x.2

end Igmp

end Hiwis
