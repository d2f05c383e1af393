import Hiwis.Lib.History

/-!
# The state machine of a BGP session

`BGPFSM` and the timers of `BGPSession`.  A timer is the time at which its message arrives, `none`
while the message is not scheduled; each event comes with the time at which it is processed.  What
the session asks the socket and `BGPRouting` for is collected in `commands`.
-/

namespace Hiwis

namespace Bgp

/-- The substates of `BGPFSM::TopState`. -/
inductive FSMState
  | idle
  | connect
  | active
  | openSent
  | openConfirm
  | established
  deriving DecidableEq

/-- The event protocol of `BGPFSM::TopState`. -/
inductive Event
  | manualStart
  | connectRetryTimerExpires
  | holdTimerExpires
  | keepaliveTimerExpires
  | tcpConnectionConfirmed
  | tcpConnectionFails
  | openMsgEvent
  | keepAliveMsgEvent
  | updateMsgEvent
  deriving DecidableEq

/-- What a session asks for.  The two searches for another session to start and the announcement of
the routes in `Established::entry` are one command. -/
inductive Command
  | listenConnectionFromPeer
  | openTCPConnectionToPeer
  | abort
  | sendOpen
  | sendKeepAlive
  | sendRoutesAndStartNextSession
  deriving DecidableEq

/-- The times that `setTimers` sets. -/
structure Delays where
  connectRetryTime : ℕ
  holdTime : ℕ
  keepAliveTime : ℕ
  deriving DecidableEq

/-- A `BGPSession` with its state machine, as far as `setTimers` and the events read and write it;
the defaults are those of a new session. -/
structure BGPSession where
  state : FSMState := .idle
  sessionEstablished : Bool := false
  connectRetryTimer : Option ℕ := none
  holdTimer : Option ℕ := none
  keepAliveTimer : Option ℕ := none
  connectRetryCounter : ℕ := 0
  openMsgSent : ℕ := 0
  openMsgRcv : ℕ := 0
  keepAliveMsgSent : ℕ := 0
  keepAliveMsgRcv : ℕ := 0
  updateMsgRcv : ℕ := 0
  commands : List Command := []
  deriving DecidableEq

namespace BGPSession

variable (c : Delays) (now : ℕ) (s : BGPSession)

def isEstablished : Bool := s.sessionEstablished

/-! ### The operations of the session -/

def restartsHoldTimer : BGPSession :=
  if c.holdTime ≠ 0 then { s with holdTimer := some (now + c.holdTime) } else s

def restartsKeepAliveTimer : BGPSession := { s with keepAliveTimer := some (now + c.keepAliveTime) }

/-- `restartsConnectRetryTimer`; the argument is `true` where a call leaves it out. -/
def restartsConnectRetryTimer (start : Bool) : BGPSession :=
  -- the message is cancelled, and scheduled again when the timer is not to be started
  { s with connectRetryTimer := if !start then some (now + c.connectRetryTime) else none }

/-- `setState`, without the entry action. -/
def setState (q : FSMState) : BGPSession := { s with state := q }

def command (a : Command) : BGPSession := { s with commands := s.commands ++ [a] }

def sendOpenMessage : BGPSession := { s.command .sendOpen with openMsgSent := s.openMsgSent + 1 }

def sendKeepAliveMessage : BGPSession :=
  { s.command .sendKeepAlive with keepAliveMsgSent := s.keepAliveMsgSent + 1 }

/-- The last lines of the handlers that give the connection up. -/
def dropConnection : BGPSession :=
  { s.command .abort with connectRetryCounter := s.connectRetryCounter + 1 }.setState .idle

/-! What the operations leave alone. -/

@[simp] theorem restartsHoldTimer_keeps :
    (s.restartsHoldTimer c now).state = s.state ∧
      (s.restartsHoldTimer c now).sessionEstablished = s.sessionEstablished ∧
      (s.restartsHoldTimer c now).connectRetryTimer = s.connectRetryTimer ∧
      (s.restartsHoldTimer c now).keepAliveTimer = s.keepAliveTimer := by
  unfold restartsHoldTimer
  split_ifs <;> simp

@[simp] theorem restartsHoldTimer_holdTimer : (s.restartsHoldTimer c now).holdTimer =
    if c.holdTime ≠ 0 then some (now + c.holdTime) else s.holdTimer := by
  unfold restartsHoldTimer
  split_ifs <;> rfl

@[simp] theorem restartsKeepAliveTimer_keeps :
    (s.restartsKeepAliveTimer c now).state = s.state ∧
      (s.restartsKeepAliveTimer c now).sessionEstablished = s.sessionEstablished ∧
      (s.restartsKeepAliveTimer c now).connectRetryTimer = s.connectRetryTimer ∧
      (s.restartsKeepAliveTimer c now).holdTimer = s.holdTimer :=
  ⟨rfl, rfl, rfl, rfl⟩

@[simp] theorem restartsKeepAliveTimer_keepAliveTimer :
    (s.restartsKeepAliveTimer c now).keepAliveTimer = some (now + c.keepAliveTime) := rfl

@[simp] theorem restartsConnectRetryTimer_keeps (start : Bool) :
    (s.restartsConnectRetryTimer c now start).state = s.state ∧
      (s.restartsConnectRetryTimer c now start).sessionEstablished = s.sessionEstablished ∧
      (s.restartsConnectRetryTimer c now start).holdTimer = s.holdTimer ∧
      (s.restartsConnectRetryTimer c now start).keepAliveTimer = s.keepAliveTimer :=
  ⟨rfl, rfl, rfl, rfl⟩

@[simp] theorem restartsConnectRetryTimer_connectRetryTimer (start : Bool) :
    (s.restartsConnectRetryTimer c now start).connectRetryTimer =
      if !start then some (now + c.connectRetryTime) else none := rfl

@[simp] theorem setState_keeps (q : FSMState) :
    (s.setState q).state = q ∧ (s.setState q).sessionEstablished = s.sessionEstablished ∧
      (s.setState q).connectRetryTimer = s.connectRetryTimer ∧
      (s.setState q).holdTimer = s.holdTimer ∧ (s.setState q).keepAliveTimer = s.keepAliveTimer :=
  ⟨rfl, rfl, rfl, rfl, rfl⟩

/-- A command changes neither state nor timers. -/
@[simp] theorem command_keeps (a : Command) :
    (s.command a).state = s.state ∧ (s.command a).sessionEstablished = s.sessionEstablished ∧
      (s.command a).connectRetryTimer = s.connectRetryTimer ∧
      (s.command a).holdTimer = s.holdTimer ∧
      (s.command a).keepAliveTimer = s.keepAliveTimer :=
  ⟨rfl, rfl, rfl, rfl, rfl⟩

@[simp] theorem dropConnection_keeps :
    s.dropConnection.state = .idle ∧
      s.dropConnection.sessionEstablished = s.sessionEstablished ∧
      s.dropConnection.connectRetryTimer = s.connectRetryTimer ∧
      s.dropConnection.holdTimer = s.holdTimer ∧
      s.dropConnection.keepAliveTimer = s.keepAliveTimer :=
  ⟨rfl, rfl, rfl, rfl, rfl⟩

end BGPSession

/-! ### The handlers of each state -/

section

variable (c : Delays) (now : ℕ) (s : BGPSession)

def Idle.manualStart : BGPSession :=
  let s := { s with connectRetryCounter := 0 }
  let s := s.restartsConnectRetryTimer c now true
  let s := s.command .listenConnectionFromPeer
  let s := s.command .openTCPConnectionToPeer
  s.setState .connect

namespace Connect

def connectRetryTimerExpires : BGPSession :=
  let s := s.command .abort
  let s := s.restartsConnectRetryTimer c now true
  let s := s.command .openTCPConnectionToPeer
  s.setState .connect

def holdTimerExpires : BGPSession :=
  let s := if s.connectRetryTimer.isSome then s.restartsConnectRetryTimer c now false else s
  s.dropConnection

def keepaliveTimerExpires : BGPSession := holdTimerExpires c now s

def tcpConnectionConfirmed : BGPSession :=
  let s := s.restartsConnectRetryTimer c now false
  let s := s.sendOpenMessage
  let s := s.restartsHoldTimer c now
  s.setState .openSent

def tcpConnectionFails : BGPSession := s.setState .active

def keepAliveMsgEvent : BGPSession :=
  holdTimerExpires c now { s with keepAliveMsgRcv := s.keepAliveMsgRcv + 1 }

def updateMsgEvent : BGPSession :=
  holdTimerExpires c now { s with updateMsgRcv := s.updateMsgRcv + 1 }

end Connect

namespace Active

def connectRetryTimerExpires : BGPSession :=
  let s := s.restartsConnectRetryTimer c now true
  let s := s.command .openTCPConnectionToPeer
  s.setState .connect

def holdTimerExpires : BGPSession := (s.restartsConnectRetryTimer c now false).dropConnection

def keepaliveTimerExpires : BGPSession := holdTimerExpires c now s

def tcpConnectionConfirmed : BGPSession :=
  let s := s.restartsConnectRetryTimer c now false
  let s := s.sendOpenMessage
  let s := s.restartsHoldTimer c now
  s.setState .openSent

def tcpConnectionFails : BGPSession := s.setState .idle

def openMsgEvent : BGPSession := holdTimerExpires c now { s with openMsgRcv := s.openMsgRcv + 1 }

def keepAliveMsgEvent : BGPSession :=
  holdTimerExpires c now { s with keepAliveMsgRcv := s.keepAliveMsgRcv + 1 }

def updateMsgEvent : BGPSession :=
  holdTimerExpires c now { s with updateMsgRcv := s.updateMsgRcv + 1 }

end Active

namespace OpenSent

def connectRetryTimerExpires : BGPSession :=
  (s.restartsConnectRetryTimer c now false).dropConnection

def holdTimerExpires : BGPSession := (s.restartsConnectRetryTimer c now false).dropConnection

def keepaliveTimerExpires : BGPSession := connectRetryTimerExpires c now s

def tcpConnectionFails : BGPSession :=
  let s := s.command .abort
  let s := s.restartsConnectRetryTimer c now true
  let s := s.command .listenConnectionFromPeer
  s.setState .active

def openMsgEvent : BGPSession :=
  let s := { s with openMsgRcv := s.openMsgRcv + 1 }
  let s := s.restartsConnectRetryTimer c now false
  let s := s.sendKeepAliveMessage
  let s := s.restartsKeepAliveTimer c now
  let s := s.restartsHoldTimer c now
  s.setState .openConfirm

def keepAliveMsgEvent : BGPSession :=
  connectRetryTimerExpires c now { s with keepAliveMsgRcv := s.keepAliveMsgRcv + 1 }

def updateMsgEvent : BGPSession :=
  connectRetryTimerExpires c now { s with updateMsgRcv := s.updateMsgRcv + 1 }

end OpenSent

/-- `Established::entry`. -/
def Established.entry : BGPSession :=
  { s.command .sendRoutesAndStartNextSession with sessionEstablished := true }

namespace OpenConfirm

def connectRetryTimerExpires : BGPSession :=
  (s.restartsConnectRetryTimer c now false).dropConnection

def holdTimerExpires : BGPSession := (s.restartsConnectRetryTimer c now false).dropConnection

def keepaliveTimerExpires : BGPSession := s.sendKeepAliveMessage.restartsKeepAliveTimer c now

def tcpConnectionFails : BGPSession := s.setState .idle

def openMsgEvent : BGPSession :=
  connectRetryTimerExpires c now { s with openMsgRcv := s.openMsgRcv + 1 }

def keepAliveMsgEvent : BGPSession :=
  let s := { s with keepAliveMsgRcv := s.keepAliveMsgRcv + 1 }
  let s := s.restartsHoldTimer c now
  Established.entry (s.setState .established)

def updateMsgEvent : BGPSession :=
  connectRetryTimerExpires c now { s with updateMsgRcv := s.updateMsgRcv + 1 }

end OpenConfirm

namespace Established

def connectRetryTimerExpires : BGPSession :=
  (s.restartsConnectRetryTimer c now false).dropConnection

def holdTimerExpires : BGPSession := (s.restartsConnectRetryTimer c now false).dropConnection

def keepaliveTimerExpires : BGPSession :=
  let s := s.sendKeepAliveMessage
  if c.holdTime ≠ 0 then s.restartsKeepAliveTimer c now else s

def tcpConnectionFails : BGPSession := s

def openMsgEvent : BGPSession := { s with openMsgRcv := s.openMsgRcv + 1 }

def keepAliveMsgEvent : BGPSession :=
  { s with keepAliveMsgRcv := s.keepAliveMsgRcv + 1 }.restartsHoldTimer c now

def updateMsgEvent : BGPSession :=
  { s with updateMsgRcv := s.updateMsgRcv + 1 }.restartsHoldTimer c now

end Established

end

namespace BGPSession

/-- The handler of the current state; `TopState` ignores what the state does not handle. -/
def dispatch (c : Delays) (now : ℕ) (s : BGPSession) (e : Event) : BGPSession :=
  match s.state, e with
  | .idle, .manualStart => Idle.manualStart c now s
  | .connect, .connectRetryTimerExpires => Connect.connectRetryTimerExpires c now s
  | .connect, .holdTimerExpires => Connect.holdTimerExpires c now s
  | .connect, .keepaliveTimerExpires => Connect.keepaliveTimerExpires c now s
  | .connect, .tcpConnectionConfirmed => Connect.tcpConnectionConfirmed c now s
  | .connect, .tcpConnectionFails => Connect.tcpConnectionFails s
  | .connect, .keepAliveMsgEvent => Connect.keepAliveMsgEvent c now s
  | .connect, .updateMsgEvent => Connect.updateMsgEvent c now s
  | .active, .connectRetryTimerExpires => Active.connectRetryTimerExpires c now s
  | .active, .holdTimerExpires => Active.holdTimerExpires c now s
  | .active, .keepaliveTimerExpires => Active.keepaliveTimerExpires c now s
  | .active, .tcpConnectionConfirmed => Active.tcpConnectionConfirmed c now s
  | .active, .tcpConnectionFails => Active.tcpConnectionFails s
  | .active, .openMsgEvent => Active.openMsgEvent c now s
  | .active, .keepAliveMsgEvent => Active.keepAliveMsgEvent c now s
  | .active, .updateMsgEvent => Active.updateMsgEvent c now s
  | .openSent, .connectRetryTimerExpires => OpenSent.connectRetryTimerExpires c now s
  | .openSent, .holdTimerExpires => OpenSent.holdTimerExpires c now s
  | .openSent, .keepaliveTimerExpires => OpenSent.keepaliveTimerExpires c now s
  | .openSent, .tcpConnectionFails => OpenSent.tcpConnectionFails c now s
  | .openSent, .openMsgEvent => OpenSent.openMsgEvent c now s
  | .openSent, .keepAliveMsgEvent => OpenSent.keepAliveMsgEvent c now s
  | .openSent, .updateMsgEvent => OpenSent.updateMsgEvent c now s
  | .openConfirm, .connectRetryTimerExpires => OpenConfirm.connectRetryTimerExpires c now s
  | .openConfirm, .holdTimerExpires => OpenConfirm.holdTimerExpires c now s
  | .openConfirm, .keepaliveTimerExpires => OpenConfirm.keepaliveTimerExpires c now s
  | .openConfirm, .tcpConnectionFails => OpenConfirm.tcpConnectionFails s
  | .openConfirm, .openMsgEvent => OpenConfirm.openMsgEvent c now s
  | .openConfirm, .keepAliveMsgEvent => OpenConfirm.keepAliveMsgEvent c now s
  | .openConfirm, .updateMsgEvent => OpenConfirm.updateMsgEvent c now s
  | .established, .connectRetryTimerExpires => Established.connectRetryTimerExpires c now s
  | .established, .holdTimerExpires => Established.holdTimerExpires c now s
  | .established, .keepaliveTimerExpires => Established.keepaliveTimerExpires c now s
  | .established, .tcpConnectionFails => Established.tcpConnectionFails s
  | .established, .openMsgEvent => Established.openMsgEvent s
  | .established, .keepAliveMsgEvent => Established.keepAliveMsgEvent c now s
  | .established, .updateMsgEvent => Established.updateMsgEvent c now s
  | _, _ => s

/-- The message of a timer that expires is no longer scheduled when it is handled. -/
def take (s : BGPSession) : Event → BGPSession
  | .connectRetryTimerExpires => { s with connectRetryTimer := none }
  | .holdTimerExpires => { s with holdTimer := none }
  | .keepaliveTimerExpires => { s with keepAliveTimer := none }
  | _ => s

/-- The session processes an event at a given time. -/
def act (c : Delays) (s : BGPSession) (e : ℕ × Event) : BGPSession :=
  dispatch c e.1 (s.take e.2) e.2

/-- A timer expires at the time for which it is scheduled; everything else happens at any time. -/
def Enabled (s : BGPSession) (e : ℕ × Event) : Prop :=
  match e.2 with
  | .connectRetryTimerExpires => s.connectRetryTimer = some e.1
  | .holdTimerExpires => s.holdTimer = some e.1
  | .keepaliveTimerExpires => s.keepAliveTimer = some e.1
  | _ => True

instance (s : BGPSession) (e : ℕ × Event) : Decidable (s.Enabled e) := by
  unfold Enabled
  split <;> infer_instance

end BGPSession

end Bgp

end Hiwis
