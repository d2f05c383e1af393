import Hiwis.Lib.Trace
import Hiwis.Tcp.TCPConnection

/-!
# The TCP module

The tables of `TCP` and what commands, segments and timers do to them.  Connections are referred to
by numbers, as the pointers of the source.  What the code computes from sequence numbers, windows
and queues comes with the segment, as `SegmentChecks`.
-/

namespace Hiwis

namespace TCP

/-- The errors that are thrown.  The text of the first two starts with "Address already in use". -/
inductive TCPError
  | alreadyListening (localAddr : IPvXAddress) (localPort : ℤ)
  | alreadyConnected (key : SockPair)
  | runtimeError (text : String)
  | assertion
  | dangling
deriving DecidableEq

/-- A computation that is stopped by "Address already in use". -/
def AddressInUse {α : Type} : Except TCPError α → Prop
  | .error (.alreadyListening _ _) => True
  | .error (.alreadyConnected _) => True
  | _ => False

instance {α : Type} (x : Except TCPError α) : Decidable (AddressInUse x) :=
  match x with
  | .error (.alreadyListening _ _) => inferInstanceAs (Decidable True)
  | .error (.alreadyConnected _) => inferInstanceAs (Decidable True)
  | .error (.runtimeError _) => inferInstanceAs (Decidable False)
  | .error .assertion => inferInstanceAs (Decidable False)
  | .error .dangling => inferInstanceAs (Decidable False)
  | .ok _ => inferInstanceAs (Decidable False)

/-- A `TCPConnection*`. -/
abbrev ConnPtr : Type := ℕ

def ephemeralPortrangeStart : ℕ := 1024

def ephemeralPortrangeEnd : ℕ := 5000

/-- The tables of `TCP`.  `conns` holds the connections that exist; the next one that is created
gets the number `nextConn`. -/
structure Tables where
  conns : Finmap fun _ : ConnPtr => TCPConnection := ∅
  nextConn : ConnPtr := 0
  tcpAppConnMap : Finmap fun _ : AppConnKey => ConnPtr := ∅
  tcpConnMap : Finmap fun _ : SockPair => ConnPtr := ∅
  lastEphemeralPort : BitVec 16 := BitVec.ofNat 16 ephemeralPortrangeStart
  usedEphemeralPorts : Multiset (BitVec 16) := 0
  isOperational : Bool := true

/-- The header fields of a `TCPSegment` that decide where it goes and what it does there. -/
structure SegmentHeader where
  srcPort : BitVec 16
  destPort : BitVec 16
  rstBit : Bool := false
  ackBit : Bool := false
  synBit : Bool := false
  payloadLength : ℕ := 0
deriving DecidableEq

/-- The socket pair of a segment, from the receiver's side. -/
def SegmentHeader.sockPair (tcpseg : SegmentHeader) (srcAddr destAddr : IPvXAddress) : SockPair :=
  ⟨destAddr, srcAddr, tcpseg.destPort.toNat, tcpseg.srcPort.toNat⟩

/-- What the code finds out about a segment from its sequence numbers and the queues. -/
structure SegmentChecks where
  /-- The number of the acknowledgement is acceptable in SYN_SENT. -/
  ackAcceptable : Bool := true
  /-- `seqGreater(snd_una, iss)` after the acknowledgement. -/
  synAcked : Bool := true
  hasEnoughSpace : Bool := true
  /-- PAWS and `isSegmentAcceptable`. -/
  acceptable : Bool := true
  /-- The outcome of the fifth to eighth step of `processSegment1stThru8th`. -/
  event : TCPEventCode := .ignore
deriving DecidableEq

inductive AppCommand
  | openActive (localAddr remoteAddr : IPvXAddress) (localPort remotePort : ℤ)
  | openPassive (localAddr : IPvXAddress) (localPort : ℤ) (fork : Bool)
  | send
  /-- With unsent data or without: in the one case the FIN is deferred. -/
  | close (pending : Bool)
  | abort
  | status
  | queueBytesLimit
deriving DecidableEq

inductive TCPTimer
  | the2MSL
  | connEstab
  | finWait2
  /-- Too many retransmissions of the SYN, or not. -/
  | synRexmit (exceeded : Bool)
  /-- A timer of the `TCPAlgorithm`, which gives the connection up, or not. -/
  | algorithm (abort : Bool)
deriving DecidableEq

inductive TCPEvent
  | appCommand (appGateIndex connId : ℤ) (command : AppCommand)
  /-- `uniqueNumber` is what `getUniqueNumber` returns, if it is called. -/
  | segment (tcpseg : SegmentHeader) (srcAddr destAddr : IPvXAddress) (checks : SegmentChecks)
      (uniqueNumber : ℤ)
  | timer (conn : ConnPtr) (timer : TCPTimer)
  | start
  | shutdown
deriving DecidableEq

namespace Tables

/-! ### The tables -/

def deref (s : Tables) (conn : ConnPtr) : Except TCPError TCPConnection :=
  match s.conns.lookup conn with
  | some c => .ok c
  | none => .error .dangling

def setConn (s : Tables) (conn : ConnPtr) (c : TCPConnection) : Tables :=
  { s with conns := s.conns.insert conn c }

/-- `new TCPConnection`. -/
def newConn (s : Tables) (c : TCPConnection) : Tables × ConnPtr :=
  ({ s with conns := s.conns.insert s.nextConn c, nextConn := s.nextConn + 1 }, s.nextConn)

def findConnForApp (s : Tables) (appGateIndex connId : ℤ) : Option ConnPtr :=
  s.tcpAppConnMap.lookup ⟨appGateIndex, connId⟩

def findConnForSegment (s : Tables) (tcpseg : SegmentHeader) (srcAddr destAddr : IPvXAddress) :
    Option ConnPtr :=
  let key := tcpseg.sockPair srcAddr destAddr
  match s.tcpConnMap.lookup key with
  | some conn => some conn
  | none =>
    match s.tcpConnMap.lookup { key with localAddr := .unspecified } with
    | some conn => some conn
    | none =>
      match s.tcpConnMap.lookup { key with remoteAddr := .unspecified, remotePort := -1 } with
      | some conn => some conn
      | none => s.tcpConnMap.lookup
          { key with localAddr := .unspecified, remoteAddr := .unspecified, remotePort := -1 }

def nextEphemeralPort (port : BitVec 16) : BitVec 16 :=
  let port := port + 1
  if port = BitVec.ofNat 16 ephemeralPortrangeEnd then BitVec.ofNat 16 ephemeralPortrangeStart
  else port

/-- The loop of `getEphemeralPort`: the first port that is not in use.  The number bounds the
passes, the range has no more ports. -/
def searchEphemeralPort (used : Multiset (BitVec 16)) (searchUntil : BitVec 16) :
    ℕ → BitVec 16 → Except TCPError (BitVec 16)
  | 0, _ => .error (.runtimeError "Ephemeral port range 1024..5000 exhausted, all ports occupied")
  | n + 1, port =>
    if port ∈ used then
      if port = searchUntil then
        .error (.runtimeError "Ephemeral port range 1024..5000 exhausted, all ports occupied")
      else searchEphemeralPort used searchUntil n (nextEphemeralPort port)
    else .ok port

/-- `getEphemeralPort`. -/
def getEphemeralPort (s : Tables) : Except TCPError (Tables × BitVec 16) := do
  let port ← searchEphemeralPort s.usedEphemeralPorts s.lastEphemeralPort
    (ephemeralPortrangeEnd - ephemeralPortrangeStart) (nextEphemeralPort s.lastEphemeralPort)
  .ok ({ s with lastEphemeralPort := port }, port)

/-- The local port as an element of `usedEphemeralPorts`, if it is in the range. -/
def ephemeralPort (localPort : ℤ) : Option (BitVec 16) :=
  if ephemeralPortrangeStart ≤ localPort ∧ localPort < ephemeralPortrangeEnd then
    some (BitVec.ofInt 16 localPort)
  else none

def addSockPair (s : Tables) (conn : ConnPtr) (localAddr remoteAddr : IPvXAddress)
    (localPort remotePort : ℤ) : Except TCPError Tables := do
  let c ← s.deref conn
  let c := { c with
    localAddr := localAddr, remoteAddr := remoteAddr
    localPort := localPort, remotePort := remotePort }
  if (s.tcpConnMap.lookup c.sockPair).isSome then
    if remoteAddr.isUnspecified ∧ remotePort = -1 then
      .error (.alreadyListening localAddr localPort)
    else .error (.alreadyConnected c.sockPair)
  else .ok { s.setConn conn c with
    tcpConnMap := s.tcpConnMap.insert c.sockPair conn
    usedEphemeralPorts := (ephemeralPort localPort).toList + s.usedEphemeralPorts }

def updateSockPair (s : Tables) (conn : ConnPtr) (localAddr remoteAddr : IPvXAddress)
    (localPort remotePort : ℤ) : Except TCPError Tables := do
  let c ← s.deref conn
  if s.tcpConnMap.lookup c.sockPair ≠ some conn then .error .assertion
  else if c.localPort ≠ localPort then .error .assertion
  else
    let c' := { c with localAddr := localAddr, remoteAddr := remoteAddr, remotePort := remotePort }
    .ok { s.setConn conn c' with
      tcpConnMap := (s.tcpConnMap.erase c.sockPair).insert c'.sockPair conn }

def addForkedConnection (s : Tables) (conn newConn : ConnPtr) (localAddr remoteAddr : IPvXAddress)
    (localPort remotePort uniqueNumber : ℤ) : Except TCPError Tables := do
  let s ← s.updateSockPair conn localAddr remoteAddr localPort remotePort
  let n ← s.deref newConn
  let s ← s.addSockPair newConn n.localAddr n.remoteAddr n.localPort n.remotePort
  let c ← s.deref conn
  let c' := { c with connId := uniqueNumber }
  let n ← s.deref newConn
  .ok { s.setConn conn c' with
    tcpAppConnMap := ((s.tcpAppConnMap.erase c.appConnKey).insert c'.appConnKey conn).insert
      n.appConnKey newConn }

def removeConnection (s : Tables) (conn : ConnPtr) : Except TCPError Tables := do
  let c ← s.deref conn
  .ok { s with
    conns := s.conns.erase conn
    tcpAppConnMap := s.tcpAppConnMap.erase c.appConnKey
    tcpConnMap := s.tcpConnMap.erase c.sockPair
    usedEphemeralPorts := s.usedEphemeralPorts.erase (BitVec.ofInt 16 c.localPort) }

def reset (s : Tables) : Tables :=
  { s with
    conns := ∅
    tcpAppConnMap := ∅
    tcpConnMap := ∅
    usedEphemeralPorts := 0
    lastEphemeralPort := BitVec.ofNat 16 ephemeralPortrangeStart }

/-! ### Commands of the applications -/

/-- The checks of `sendSyn`. -/
def sendSyn (s : Tables) (conn : ConnPtr) : Except TCPError Tables := do
  let c ← s.deref conn
  if c.remoteAddr.isUnspecified ∨ c.remotePort = -1 then
    .error (.runtimeError "Error processing command OPEN_ACTIVE: foreign socket unspecified")
  else if c.localPort = -1 then
    .error (.runtimeError "Error processing command OPEN_ACTIVE: local port unspecified")
  else .ok s

/-- The local port of an active open. -/
def assignLocalPort (s : Tables) (localPort : ℤ) : Except TCPError (Tables × ℤ) :=
  if localPort = -1 then do
    let (s, port) ← s.getEphemeralPort
    .ok (s, port.toNat)
  else .ok (s, localPort)

section

variable (s : Tables) (conn : ConnPtr)

def process_OPEN_ACTIVE (localAddr remoteAddr : IPvXAddress) (localPort remotePort : ℤ) :
    Except TCPError Tables := do
  let c ← s.deref conn
  if c.fsm ≠ .init then
    .error (.runtimeError "Error processing command OPEN_ACTIVE: connection already exists")
  else if remoteAddr.isUnspecified ∨ remotePort = -1 then
    .error (.runtimeError
      "Error processing command OPEN_ACTIVE: remote address and port must be specified")
  else do
    let (s, localPort) ← (s.setConn conn { c with active := true }).assignLocalPort localPort
    let s ← s.addSockPair conn localAddr remoteAddr localPort remotePort
    s.sendSyn conn

def process_OPEN_PASSIVE (localAddr : IPvXAddress) (localPort : ℤ) (fork : Bool) :
    Except TCPError Tables := do
  let c ← s.deref conn
  if c.fsm ≠ .init then
    .error (.runtimeError "Error processing command OPEN_PASSIVE: connection already exists")
  else if localPort = -1 then
    .error (.runtimeError "Error processing command OPEN_PASSIVE: local port must be specified")
  else
    let s := s.setConn conn { c with active := false, fork := fork }
    s.addSockPair conn localAddr IPvXAddress.unspecified localPort (-1)

def process_SEND : Except TCPError Tables := do
  let c ← s.deref conn
  match c.fsm with
  | .init => .error (.runtimeError "Error processing command SEND: connection not open")
  | .listen => (s.setConn conn { c with active := true }).sendSyn conn
  | .synRcvd | .synSent | .established | .closeWait | .closed => .ok s
  | .lastAck | .finWait1 | .finWait2 | .closing | .timeWait =>
    .error (.runtimeError "Error processing command SEND: connection closing")

/-- `process_CLOSE`.  The event is ignored when the FIN is deferred. -/
def process_CLOSE (pending : Bool) :
    Except TCPError TCPEventCode := do
  let c ← s.deref conn
  match c.fsm with
  | .init => .error (.runtimeError "Error processing command CLOSE: connection not open")
  | .listen | .synSent | .closed => .ok .close
  | .synRcvd | .established | .closeWait => .ok (if pending then .ignore else .close)
  | .finWait1 | .finWait2 | .closing | .lastAck | .timeWait =>
    .error (.runtimeError "Duplicate CLOSE command: connection already closing")

/-- A command that an unopened connection refuses and that has no effect on the tables. -/
def refuseUnopened (text : String) : Except TCPError Tables := do
  let c ← s.deref conn
  if c.fsm = .init then .error (.runtimeError text) else .ok s

def process_ABORT : Except TCPError Tables :=
  s.refuseUnopened conn "Error processing command ABORT: connection not open"

def process_STATUS : Except TCPError Tables :=
  s.refuseUnopened conn "Error processing command STATUS: connection not open"

end

/-- `process_QUEUE_BYTES_LIMIT`.  The state variables are created when a connection is opened. -/
def process_QUEUE_BYTES_LIMIT (s : Tables) (conn : ConnPtr) : Except TCPError Tables :=
  s.refuseUnopened conn "Called process_QUEUE_BYTES_LIMIT on uninitialized TCPConnection!"

/-- What the command does, and the event that it raises. -/
def processCommand (s : Tables) (conn : ConnPtr) :
    AppCommand → Except TCPError (Tables × TCPEventCode)
  | .openActive localAddr remoteAddr localPort remotePort => do
    .ok (← s.process_OPEN_ACTIVE conn localAddr remoteAddr localPort remotePort, .openActive)
  | .openPassive localAddr localPort fork => do
    .ok (← s.process_OPEN_PASSIVE conn localAddr localPort fork, .openPassive)
  | .send => do .ok (← s.process_SEND conn, .send)
  | .close pending => do .ok (s, ← s.process_CLOSE conn pending)
  | .abort => do .ok (← s.process_ABORT conn, .abort)
  | .status => do .ok (← s.process_STATUS conn, .status)
  | .queueBytesLimit => do .ok (← s.process_QUEUE_BYTES_LIMIT conn, .queueBytesLimit)

/-! ### Segments -/

/-- The connection gets the socket pair of the segment; a forking one leaves a clone listening. -/
def fillInForeignSocket (s : Tables) (conn : ConnPtr) (tcpseg : SegmentHeader)
    (srcAddr destAddr : IPvXAddress) (uniqueNumber : ℤ) : Except TCPError Tables := do
  let c ← s.deref conn
  if c.fork then
    let (s, clone) := s.newConn c.cloneListeningConnection
    s.addForkedConnection conn clone destAddr srcAddr tcpseg.destPort.toNat tcpseg.srcPort.toNat
      uniqueNumber
  else s.updateSockPair conn destAddr srcAddr tcpseg.destPort.toNat tcpseg.srcPort.toNat

/-- The payload of a SYN is accepted, or the queue has no room for it. -/
def acceptPayload (tcpseg : SegmentHeader) (checks : SegmentChecks) (event : TCPEventCode) :
    TCPEventCode :=
  if 0 < tcpseg.payloadLength ∧ checks.hasEnoughSpace = false then .ignore else event

def processSegmentInListen (s : Tables) (conn : ConnPtr) (tcpseg : SegmentHeader)
    (srcAddr destAddr : IPvXAddress) (checks : SegmentChecks) (uniqueNumber : ℤ) :
    Except TCPError (Tables × TCPEventCode) :=
  if tcpseg.rstBit then .ok (s, .ignore)
  else if tcpseg.ackBit then .ok (s, .ignore)
  else if tcpseg.synBit then do
    let s ← s.fillInForeignSocket conn tcpseg srcAddr destAddr uniqueNumber
    .ok (s, acceptPayload tcpseg checks .rcvSyn)
  else .ok (s, .ignore)

def processSegmentInSynSent (s : Tables) (conn : ConnPtr) (tcpseg : SegmentHeader)
    (srcAddr destAddr : IPvXAddress) (checks : SegmentChecks) :
    Except TCPError (Tables × TCPEventCode) :=
  if tcpseg.ackBit ∧ checks.ackAcceptable = false then .ok (s, .ignore)
  else if tcpseg.rstBit then .ok (s, if tcpseg.ackBit then .rcvRst else .ignore)
  else if tcpseg.synBit then do
    let s ← s.updateSockPair conn destAddr srcAddr tcpseg.destPort.toNat tcpseg.srcPort.toNat
    .ok (s, acceptPayload tcpseg checks (if checks.synAcked then .rcvSynAck else .rcvSyn))
  else .ok (s, .ignore)

/-- `processSegment1stThru8th` in the state. -/
def processSegment1stThru8th (st : TCPState) (tcpseg : SegmentHeader) (checks : SegmentChecks) :
    Except TCPError TCPEventCode :=
  if checks.acceptable = false then .ok .ignore
  else if tcpseg.rstBit then
    match st with
    | .synRcvd | .established | .finWait1 | .finWait2 | .closeWait | .closing | .lastAck
    | .timeWait => .ok .rcvRst
    | .init | .closed | .listen | .synSent => .error .assertion
  else if tcpseg.synBit then .ok .rcvUnexpSyn
  else if tcpseg.ackBit = false then .ok .ignore
  else .ok checks.event

def process_RCV_SEGMENT (s : Tables) (conn : ConnPtr) (tcpseg : SegmentHeader)
    (srcAddr destAddr : IPvXAddress) (checks : SegmentChecks) (uniqueNumber : ℤ) :
    Except TCPError (Tables × TCPEventCode) := do
  let c ← s.deref conn
  match c.fsm with
  | .listen => s.processSegmentInListen conn tcpseg srcAddr destAddr checks uniqueNumber
  | .synSent => s.processSegmentInSynSent conn tcpseg srcAddr destAddr checks
  | st => do .ok (s, ← processSegment1stThru8th st tcpseg checks)

/-- The assertions of `processTCPSegment`. -/
def assertAddressed (c : TCPConnection) (tcpseg : SegmentHeader) (srcAddr destAddr : IPvXAddress) :
    Bool :=
  (c.localAddr.isUnspecified || (c.localAddr == destAddr && c.localPort == tcpseg.destPort.toNat))
    && (c.remoteAddr.isUnspecified ||
      (c.remoteAddr == srcAddr && c.remotePort == tcpseg.srcPort.toNat))

/-! ### Timers -/

/-- A timer that is only expected in one of the states. -/
def expectState (s : Tables) (conn : ConnPtr) (states : List TCPState) (text : String)
    (event : TCPEventCode) : Except TCPError TCPEventCode := do
  let c ← s.deref conn
  if c.fsm ∈ states then .ok event else .error (.runtimeError text)

/-- The event that the timer raises. -/
def timerEvent (s : Tables) (conn : ConnPtr) : TCPTimer → Except TCPError TCPEventCode
  | .the2MSL =>
    s.expectState conn [.timeWait] "Internal error: received time-wait (2MSL) timeout in state"
      .timeout2MSL
  | .connEstab =>
    s.expectState conn [.synRcvd, .synSent]
      "Internal error: received CONN_ESTAB timeout in state" .timeoutConnEstab
  | .finWait2 =>
    s.expectState conn [.finWait2] "Internal error: received FIN_WAIT_2 timeout in state"
      .timeoutFinWait2
  | .synRexmit exceeded =>
    if exceeded then .ok .abort
    else s.expectState conn [.synSent, .synRcvd]
      "Internal error: SYN-REXMIT timer expired while in state" .ignore
  | .algorithm abort => .ok (if abort then .abort else .ignore)

/-! ### Events -/

variable (s : Tables)

/-- `performStateTransition`, and the removal of the connection when it is closed then. -/
def performStateTransition (conn : ConnPtr) (event : TCPEventCode) :
    Except TCPError Tables := do
  let c ← s.deref conn
  if c.fsm = .closed then .error .assertion
  else
    let st := TCPConnection.nextState c.active c.fsm event
    let s := s.setConn conn { c with fsm := st }
    if st = .closed then s.removeConnection conn else .ok s

/-- The connection of the command, created if there is none. -/
def connForApp (appGateIndex connId : ℤ) : Tables × ConnPtr :=
  match s.findConnForApp appGateIndex connId with
  | some conn => (s, conn)
  | none =>
    let (s, conn) := s.newConn { appGateIndex := appGateIndex, connId := connId }
    ({ s with tcpAppConnMap := s.tcpAppConnMap.insert ⟨appGateIndex, connId⟩ conn }, conn)

def handleAppCommand (appGateIndex connId : ℤ) (command : AppCommand) :
    Except TCPError Tables := do
  let (s, conn) := s.connForApp appGateIndex connId
  let (s, event) ← s.processCommand conn command
  s.performStateTransition conn event

/-- The connection processes the segment. -/
def processTCPSegment (conn : ConnPtr) (tcpseg : SegmentHeader) (srcAddr destAddr : IPvXAddress)
    (checks : SegmentChecks) (uniqueNumber : ℤ) :
    Except TCPError Tables := do
  let c ← s.deref conn
  if assertAddressed c tcpseg srcAddr destAddr = false then .error .assertion
  else do
    let (s, event) ← s.process_RCV_SEGMENT conn tcpseg srcAddr destAddr checks uniqueNumber
    s.performStateTransition conn event

def handleSegment (tcpseg : SegmentHeader) (srcAddr destAddr : IPvXAddress) (checks : SegmentChecks)
    (uniqueNumber : ℤ) : Except TCPError Tables :=
  match s.findConnForSegment tcpseg srcAddr destAddr with
  | some conn => s.processTCPSegment conn tcpseg srcAddr destAddr checks uniqueNumber
  | none => .ok s

def handleTimer (conn : ConnPtr) (timer : TCPTimer) : Except TCPError Tables := do
  let event ← s.timerEvent conn timer
  s.performStateTransition conn event

/-- `handleMessage` and `handleOperationStage`. -/
def step : TCPEvent → Except TCPError Tables
  | .appCommand appGateIndex connId command =>
    if s.isOperational then s.handleAppCommand appGateIndex connId command else .ok s
  | .segment tcpseg srcAddr destAddr checks uniqueNumber =>
    if s.isOperational then s.handleSegment tcpseg srcAddr destAddr checks uniqueNumber else .ok s
  | .timer conn timer =>
    if s.isOperational then s.handleTimer conn timer
    else .error (.runtimeError "Model error: self msg received when isOperational is false")
  | .start => .ok { s with isOperational := true }
  | .shutdown => .ok { s.reset with isOperational := false }

end Tables

end TCP

end Hiwis
