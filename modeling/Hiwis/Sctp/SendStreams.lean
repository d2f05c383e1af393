import Hiwis.Lib.Trace
import Hiwis.Sctp.SerialNumbers

/-!
# The send streams of an SCTP association

Messages of the application wait in the ordered and in the unordered queue of their stream.
A message that is too long for the path is cut up when it is its turn, its fragments take its place
in the queue, and the remaining fragments are to be taken before anything else is.

* `SCTP.Sender.send` : a message of the application;
* `SCTP.Sender.transmit` : a data chunk for the packet that is being filled.
-/

namespace Hiwis

namespace SCTP

def dataChunkLength : ℕ := 16

def commonHeader : ℕ := 12

def ipHeaderLength : ℕ := 20

/-- `ADD_PADDING`. -/
def addPadding (x : ℕ) : ℕ := (x + 3) / 4 * 4

/-- A size that is stored in an `int32`. -/
def toInt32 (n : ℕ) : ℤ := (n : ℤ).bmod (2 ^ 32)

/-- What the sender's functions read of the configuration. -/
structure SendConfig where
  assocPmtu : ℕ
  padding : Bool := false
  header : ℕ := 0
  /-- The stream scheduler leaves its choice in `lastStreamScheduled`, as every one except
  `pathStreamSchedulerMapToPath` does. -/
  storesSid : Bool := true
  outboundStreams : ℕ
  /-- There is room for user data in a packet. -/
  large : ipHeaderLength + commonHeader + dataChunkLength < assocPmtu
  int32 : assocPmtu < 2 ^ 31

namespace SendConfig

/-- The user data of a full-sized fragment. -/
def msgbytes (cfg : SendConfig) : ℕ :=
  cfg.assocPmtu - ipHeaderLength - commonHeader - dataChunkLength

/-- The longest data chunk that is not cut up. -/
def maxChunk (cfg : SendConfig) : ℤ := (cfg.assocPmtu : ℤ) - ipHeaderLength - commonHeader

def booksize (cfg : SendConfig) (byteLength : ℕ) : ℕ :=
  if cfg.padding then addPadding (byteLength + cfg.header) else byteLength + cfg.header

end SendConfig

/-- The length of a data chunk with that much user data. -/
def chunkLength (byteLength : ℕ) : ℤ := toInt32 (addPadding (byteLength + dataChunkLength))

/-- A message of the application, or a fragment of one. -/
structure SCTPDataMsg where
  msgNum : ℕ
  sid : ℕ
  ordered : Bool
  byteLength : ℕ
  booksize : ℕ
  bbit : Bool := false
  ebit : Bool := false
  fragment : Bool := false
  deriving DecidableEq

structure SCTPSendStream where
  nextStreamSeqNum : ℕ := 0
  streamQ : List SCTPDataMsg := []
  uStreamQ : List SCTPDataMsg := []
  deriving DecidableEq

namespace SCTPSendStream

/-- The queue of the ordered or of the unordered messages. -/
def queue (stream : SCTPSendStream) (ordered : Bool) : List SCTPDataMsg :=
  if ordered then stream.streamQ else stream.uStreamQ

def setQueue (stream : SCTPSendStream) (ordered : Bool) (q : List SCTPDataMsg) : SCTPSendStream :=
  if ordered then { stream with streamQ := q } else { stream with uStreamQ := q }

/-- The queue from which the next message is taken: the unordered one, if there is anything in
it. -/
def nextOrdered (stream : SCTPSendStream) : Bool := stream.uStreamQ.isEmpty

variable {stream : SCTPSendStream} {ordered ordered' : Bool} {q : List SCTPDataMsg}

@[simp] theorem queue_setQueue_self : (stream.setQueue ordered q).queue ordered = q := by
  cases ordered <;> rfl

theorem queue_setQueue_of_ne (h : ordered' ≠ ordered) :
    (stream.setQueue ordered q).queue ordered' = stream.queue ordered' := by
  cases ordered <;> cases ordered' <;> first | rfl | exact absurd rfl h

@[simp] theorem nextStreamSeqNum_setQueue :
    (stream.setQueue ordered q).nextStreamSeqNum = stream.nextStreamSeqNum := by
  cases ordered <;> rfl

end SCTPSendStream

/-- What a data chunk says when it is sent for the first time. -/
structure OutboundChunk where
  tsn : TSN
  msgNum : ℕ
  sid : ℕ
  ssn : ℕ
  ordered : Bool
  bbit : Bool
  ebit : Bool
  byteLength : ℕ
  deriving DecidableEq

inductive SendFault
  | streamNotFound
  deriving DecidableEq

/-- The sending side of an association. -/
structure Sender where
  nextTSN : TSN
  msgNum : ℕ := 0
  lastStreamScheduled : ℕ := 0
  lastMsgWasFragment : Bool := false
  sendStreams : ℕ → SCTPSendStream := fun _ => {}

/-! ### Fragmentation -/

/-- The fragment of a message that begins at the offset. -/
def fragmentAt (cfg : SendConfig) (msg : SCTPDataMsg) (offset : ℕ) : SCTPDataMsg :=
  let msgbytes := min cfg.msgbytes (msg.byteLength - offset)
  { msg with
    byteLength := msgbytes
    booksize := cfg.booksize msgbytes
    bbit := decide (offset = 0)
    ebit := decide (offset + msgbytes = msg.byteLength)
    fragment := true }

/-- The rounds of the loop over the fragments, of which there are at most as many as bytes. -/
def fragmentLoop (cfg : SendConfig) (msg : SCTPDataMsg) : ℕ → ℕ → List SCTPDataMsg
  | 0, _ => []
  | rounds + 1, offset =>
    let fragment := fragmentAt cfg msg offset
    if fragment.ebit then [fragment]
    else fragment :: fragmentLoop cfg msg rounds (offset + fragment.byteLength)

def fragments (cfg : SendConfig) (msg : SCTPDataMsg) : List SCTPDataMsg :=
  fragmentLoop cfg msg msg.byteLength 0

/-- The queue after its first message has been cut up, if it is too long, and whether it was. -/
def fragmentFront (cfg : SendConfig) : List SCTPDataMsg → List SCTPDataMsg × Bool
  | [] => ([], false)
  | d :: q =>
    if cfg.maxChunk < chunkLength d.byteLength then (fragments cfg d ++ q, true)
    else (d :: q, false)

/-- Taking the first message of a queue, if it fits: the queue, whether the last message was a
fragment with others to come, and the message. -/
def takeFront (cfg : SendConfig) (q : List SCTPDataMsg) (lastMsgWasFragment : Bool)
    (availableSpace availableCwnd : ℤ) : List SCTPDataMsg × Bool × Option SCTPDataMsg :=
  match fragmentFront cfg q with
  | ([], _) => ([], lastMsgWasFragment, none)
  | (d :: q, wasCutUp) =>
    if chunkLength d.byteLength ≤ availableSpace ∧ toInt32 d.booksize ≤ availableCwnd then
      if d.fragment then (q, !d.ebit, some d)
      else (q, false, some { d with bbit := true, ebit := true })
    else (d :: q, lastMsgWasFragment || wasCutUp, none)

/-! ### Sending -/

namespace Sender

/-- The stream that the next message is taken from: only change stream if we don't have to finish
a fragmented message. -/
def nextStream (cfg : SendConfig) (s : Sender) (nextSid : Option ℕ) : Sender × Option ℕ :=
  if s.lastMsgWasFragment then (s, some s.lastStreamScheduled)
  else
    match nextSid with
    | some sid => (if cfg.storesSid then { s with lastStreamScheduled := sid } else s, some sid)
    | none => (s, none)

/-- `dequeueOutboundDataMsg`, when the stream scheduler chooses `nextSid`. -/
def dequeueOutboundDataMsg (cfg : SendConfig) (s : Sender) (nextSid : Option ℕ)
    (availableSpace availableCwnd : ℤ) : Sender × Option SCTPDataMsg :=
  let (s, nextStream) := s.nextStream cfg nextSid
  match nextStream with
  | none => (s, none)
  | some sid =>
    if sid < cfg.outboundStreams then
      let stream := s.sendStreams sid
      let (q, lastMsgWasFragment, datMsg) := takeFront cfg (stream.queue stream.nextOrdered)
        s.lastMsgWasFragment availableSpace availableCwnd
      ({ s with
          lastMsgWasFragment := lastMsgWasFragment
          sendStreams := Function.update s.sendStreams sid (stream.setQueue stream.nextOrdered q) },
        datMsg)
    else (s, none)

/-- The stream sequence number of a message, and the next one of its stream. -/
def assignSSN (stream : SCTPSendStream) (datMsg : SCTPDataMsg) : SCTPSendStream × ℕ :=
  if datMsg.ordered then
    let ssn := stream.nextStreamSeqNum
    let nextSSN := if datMsg.ebit then ssn + 1 else ssn
    ({ stream with nextStreamSeqNum := if 65535 < nextSSN then 0 else nextSSN }, ssn)
  else (stream, 0)

/-- `makeDataVarFromDataMsg`, and the number that `sendOnPath` gives to the new chunk. -/
def makeDataVarFromDataMsg (s : Sender) (datMsg : SCTPDataMsg) : Sender × OutboundChunk :=
  let (stream, ssn) := assignSSN (s.sendStreams datMsg.sid) datMsg
  ({ s with
      nextTSN := s.nextTSN + 1
      sendStreams := Function.update s.sendStreams datMsg.sid stream },
    { tsn := s.nextTSN
      msgNum := datMsg.msgNum
      sid := datMsg.sid
      ssn := ssn
      ordered := datMsg.ordered
      bbit := datMsg.bbit
      ebit := datMsg.ebit
      byteLength := datMsg.byteLength })

variable (cfg : SendConfig) (s : Sender)

/-- A data chunk that is sent for the first time, if there is one that fits. -/
def transmit (nextSid : Option ℕ) (availableSpace availableCwnd : ℤ) :
    Sender × Option OutboundChunk :=
  match s.dequeueOutboundDataMsg cfg nextSid availableSpace availableCwnd with
  | (s, none) => (s, none)
  | (s, some datMsg) =>
    let (s, chunk) := s.makeDataVarFromDataMsg datMsg
    (s, some chunk)

/-- The message that `process_SEND` queues. -/
def dataMsg (sid : ℕ) (sendUnordered : Bool) (byteLength : ℕ) :
    SCTPDataMsg where
  msgNum := s.msgNum + 1
  sid := sid
  ordered := !sendUnordered
  byteLength := byteLength
  booksize := cfg.booksize byteLength

/-- `process_SEND`. -/
def send (sid : ℕ) (sendUnordered : Bool) (byteLength : ℕ) :
    Except SendFault Sender :=
  if sid < cfg.outboundStreams then
    let stream := s.sendStreams sid
    let q := stream.queue (!sendUnordered) ++ [s.dataMsg cfg sid sendUnordered byteLength]
    .ok { s with
      msgNum := s.msgNum + 1
      sendStreams := Function.update s.sendStreams sid (stream.setQueue (!sendUnordered) q) }
  else .error .streamNotFound

end Sender

end SCTP

end Hiwis
