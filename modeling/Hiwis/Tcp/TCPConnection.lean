import Hiwis.Ipv4.InterfaceEntry

/-!
# TCP connections

The parts of a `TCPConnection` that its place in the tables of `TCP` depends on: the addresses and
ports, the state of its state machine, and the two flags that decide where a reset takes it.
-/

namespace Hiwis

namespace TCP

/-- `TCP_S_…`. -/
inductive TCPState
  | init | closed | listen | synSent | synRcvd | established | closeWait | lastAck | finWait1
  | finWait2 | closing | timeWait
deriving DecidableEq

/-- `TCP_E_…`. -/
inductive TCPEventCode
  | ignore | openActive | openPassive | send | close | abort | status | queueBytesLimit | rcvData
  | rcvAck | rcvSyn | rcvSynAck | rcvFin | rcvFinAck | rcvRst | rcvUnexpSyn | timeout2MSL
  | timeoutConnEstab | timeoutFinWait2
deriving DecidableEq

/-- `SockPair`.  A port of -1 is unspecified. -/
structure SockPair where
  localAddr : IPvXAddress
  remoteAddr : IPvXAddress
  localPort : ℤ
  remotePort : ℤ
deriving DecidableEq

/-- `AppConnKey`. -/
structure AppConnKey where
  appGateIndex : ℤ
  connId : ℤ
deriving DecidableEq

/-- `TCPConnection`, with the flags `active` and `fork` of its state variables. -/
structure TCPConnection where
  appGateIndex : ℤ
  connId : ℤ
  localAddr : IPvXAddress := .unspecified
  remoteAddr : IPvXAddress := .unspecified
  localPort : ℤ := -1
  remotePort : ℤ := -1
  fsm : TCPState := .init
  active : Bool := false
  fork : Bool := false
deriving DecidableEq

namespace TCPConnection

def appConnKey (c : TCPConnection) : AppConnKey := ⟨c.appGateIndex, c.connId⟩

def sockPair (c : TCPConnection) : SockPair :=
  ⟨c.localAddr, c.remoteAddr, c.localPort, c.remotePort⟩

/-- The socket pair of a connection that listens on the local socket. -/
def listenPair (c : TCPConnection) : SockPair := ⟨c.localAddr, .unspecified, c.localPort, -1⟩

/-- `cloneListeningConnection`. -/
def cloneListeningConnection (c : TCPConnection) : TCPConnection where
  appGateIndex := c.appGateIndex
  connId := c.connId
  localAddr := c.localAddr
  localPort := c.localPort
  fsm := .listen
  active := false
  fork := true

/-- The state that the event leads to: the state machine of `performStateTransition`. -/
def nextState (active : Bool) : TCPState → TCPEventCode → TCPState
  | .init, .openPassive => .listen
  | .init, .openActive => .synSent
  | .listen, .openActive => .synSent
  | .listen, .send => .synSent
  | .listen, .close => .closed
  | .listen, .abort => .closed
  | .listen, .rcvSyn => .synRcvd
  | .synRcvd, .close => .finWait1
  | .synRcvd, .abort => .closed
  | .synRcvd, .timeoutConnEstab => if active then .closed else .listen
  | .synRcvd, .rcvRst => if active then .closed else .listen
  | .synRcvd, .rcvAck => .established
  | .synRcvd, .rcvFin => .closeWait
  | .synRcvd, .rcvUnexpSyn => .closed
  | .synSent, .close => .closed
  | .synSent, .abort => .closed
  | .synSent, .timeoutConnEstab => .closed
  | .synSent, .rcvRst => .closed
  | .synSent, .rcvSynAck => .established
  | .synSent, .rcvSyn => .synRcvd
  | .established, .close => .finWait1
  | .established, .abort => .closed
  | .established, .rcvFin => .closeWait
  | .established, .rcvRst => .closed
  | .established, .rcvUnexpSyn => .closed
  | .closeWait, .close => .lastAck
  | .closeWait, .abort => .closed
  | .closeWait, .rcvRst => .closed
  | .closeWait, .rcvUnexpSyn => .closed
  | .lastAck, .abort => .closed
  | .lastAck, .rcvAck => .closed
  | .lastAck, .rcvRst => .closed
  | .lastAck, .rcvUnexpSyn => .closed
  | .finWait1, .abort => .closed
  | .finWait1, .rcvFin => .closing
  | .finWait1, .rcvAck => .finWait2
  | .finWait1, .rcvFinAck => .timeWait
  | .finWait1, .rcvRst => .closed
  | .finWait1, .rcvUnexpSyn => .closed
  | .finWait2, .abort => .closed
  | .finWait2, .rcvFin => .timeWait
  | .finWait2, .timeoutFinWait2 => .closed
  | .finWait2, .rcvRst => .closed
  | .finWait2, .rcvUnexpSyn => .closed
  | .closing, .abort => .closed
  | .closing, .rcvAck => .timeWait
  | .closing, .rcvRst => .closed
  | .closing, .rcvUnexpSyn => .closed
  | .timeWait, .abort => .closed
  | .timeWait, .timeout2MSL => .closed
  | .timeWait, .rcvRst => .closed
  | .timeWait, .rcvUnexpSyn => .closed
  | st, _ => st

/-- Only an OPEN command leaves the initial state, and nothing leads back to it. -/
theorem nextState_eq_init_iff (active : Bool) (st : TCPState) (event : TCPEventCode) :
    nextState active st event = .init ↔
      st = .init ∧ event ≠ .openActive ∧ event ≠ .openPassive := by
  cases active <;> cases st <;> cases event <;> decide

end TCPConnection

end TCP

end Hiwis
