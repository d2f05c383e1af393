import Hiwis.Lib.Ensures
import Hiwis.Tcp.QueueInit
import Hiwis.Tcp.TCPConnection

/-!
# The receiving side of a connection

The state variables of a `TCPConnection` that its receiving side uses, and the functions of
`TCPConnectionUtil.cc` and `TCPConnectionSackUtil.cc` that work on them: the options of a header,
the receive window, the SACK blocks, and the segments that carry all this.

The send queue, the retransmission queue and the congestion control are not part of the state.
What they do to the receiving side is a list of `Action`s.
-/

namespace Hiwis

open TCP TCPOption

/-- Ways in which the receiving side stops. -/
inductive ReceiverFault
  /-- The receive queue or the truncation of a segment fails. -/
  | queue (f : Fault)
  /-- An option `does not contain the data its getLength() promises`. -/
  | optionData
  /-- `ASSERT(scaled_rcv_wnd == (unsigned short)scaled_rcv_wnd)`. -/
  | scaledRcvWnd
  /-- `ASSERT(seqGE(it->getStart(), state->rcv_nxt))` in `addSacks`. -/
  | sackBelowRcvNxt
  /-- `ASSERT(!it->empty())` and `ASSERT(it->getStart() != it->getEnd())` in `addSacks`. -/
  | sackEmpty
  /-- `ASSERT(options_len <= TCP_OPTIONS_MAX_SIZE)`. -/
  | optionsLen
  /-- `ASSERT(0)`: a RST where no case of the switch is meant for it. -/
  | unexpectedRst
  /-- A loop has not come to its end. -/
  | loop
  deriving DecidableEq

/-- `TCP_MAX_WIN`. -/
def tcpMaxWin : ℕ := 65535

/-- `TCP_OPTIONS_MAX_SIZE`. -/
def tcpOptionsMaxSize : ℕ := 40

/-- `TCP_OPTION_SACK_MIN_SIZE`. -/
def tcpOptionSackMinSize : ℕ := 10

/-- A millisecond, in the unit of `simtime_t`. -/
def simMillisecond : ℤ := 1000000000

/-- `PAWS_IDLE_TIME_THRESH`, 24 days. -/
def pawsIdleTimeThresh : ℤ := 24 * 24 * 3600 * 1000 * simMillisecond

namespace TCPOption

/-- `TCPOPTION_NO_OPERATION`. -/
def nop : TCPOption := ⟨1, 1, []⟩

def maximumSegmentSize : ℕ := 2
def windowScale : ℕ := 3
def sackPermitted : ℕ := 4
def sack : ℕ := 5
def timestamp : ℕ := 8

end TCPOption

/-- `getOptionsArrayLength`. -/
def TCPSegment.getOptionsArrayLength (seg : TCPSegment) : ℕ := (seg.options.map length).sum

/-- `Sack`: the block from `startSeq` up to `endSeq`. -/
structure Sack where
  startSeq : SeqNo
  endSeq : SeqNo
  deriving DecidableEq

namespace Sack

def empty (s : Sack) : Bool := s.startSeq == 0 && s.endSeq == 0

def contains (s other : Sack) : Bool :=
  seqLE s.startSeq other.startSeq && seqLE other.endSeq s.endSeq

end Sack

/-- The state of the receiving side: of `TCPStateVariables` what it reads and writes, the state of
the state machine, and the receive queue. -/
structure TCPReceiver (κ μ : Type) where
  simTime : ℤ := 0
  fsm : TCPState := .init
  active : Bool := false
  /-- Whether the congestion control derives from `TCPBaseAlg`; only `DumbTCP` does not. -/
  baseAlg : Bool := true
  wsSupport : Bool
  sackSupport : Bool
  tsSupport : Bool
  maxRcvBuffer : ℕ
  sndMss : ℕ
  iss : SeqNo := 0
  sndUna : SeqNo := 0
  sndNxt : SeqNo := 0
  sndMax : SeqNo := 0
  afterRto : Bool := false
  sendFin : Bool := false
  sndFinSeq : SeqNo := 0
  finAckRcvd : Bool := false
  synRexmitCount : ℕ := 0
  irs : SeqNo := 0
  rcvNxt : SeqNo := 0
  rcvAdv : SeqNo
  /-- The window, a `uint32`. -/
  rcvWnd : ℕ
  finRcvd : Bool := false
  rcvFinSeq : SeqNo := 0
  ackNow : Bool := false
  usedRcvBuffer : ℕ := 0
  freeRcvBuffer : ℕ := 0
  sndWs : Bool := false
  rcvWs : Bool := false
  wsEnabled : Bool := false
  rcvWndScale : ℕ := 0
  sndSackPerm : Bool := false
  rcvSackPerm : Bool := false
  sackEnabled : Bool := false
  sndSack : Bool := false
  sndDsack : Bool := false
  startSeqno : SeqNo := 0
  endSeqno : SeqNo := 0
  sacksArray : List Sack := []
  sndInitialTs : Bool := false
  rcvInitialTs : Bool := false
  tsEnabled : Bool := false
  tsRecent : SeqNo := 0
  lastAckSent : SeqNo := 0
  timeLastDataSent : ℤ := 0
  receiveQueue : κ
  /-- The segments that have been sent. -/
  sent : List TCPSegment := []
  /-- What has been handed up. -/
  toApp : List μ := []
  /-- The segments whose text has been put into the receive queue. -/
  stored : List TCPSegment := []
  /-- The values that `ts_recent` has had. -/
  tsRecents : List SeqNo := [0]

namespace TCPReceiver

variable {κ μ ρ : Type}

/-- A call of the receive queue. -/
def ask {α : Type} (x : Except Fault α) : Except ReceiverFault α := x.mapError .queue

theorem ask_eq_ok {α : Type} {x : Except Fault α} {a : α} (h : ask x = .ok a) : x = .ok a := by
  cases x with
  | ok b => exact congrArg Except.ok (Except.ok.inj h)
  | error f => cases h

/-- `sendToIP`. -/
def sendToIP (c : TCPReceiver κ μ) (tcpseg : TCPSegment) : TCPReceiver κ μ :=
  { c with sent := c.sent ++ [tcpseg] }

/-- The notification `ackSent` of the congestion control. -/
def ackSent (c : TCPReceiver κ μ) : TCPReceiver κ μ :=
  if c.baseAlg then { c with ackNow := false, lastAckSent := c.rcvNxt } else c

/-- `convertSimtimeToTS`. -/
def convertSimtimeToTS (simtime : ℤ) : SeqNo := BitVec.ofInt 32 (simtime / simMillisecond)

/-- `(simTime() - state->time_last_data_sent) > PAWS_IDLE_TIME_THRESH`. -/
def idle (c : TCPReceiver κ μ) : Bool :=
  decide (pawsIdleTimeThresh < c.simTime - c.timeLastDataSent)

/-! ### Reading the options of a header -/

section

variable (c : TCPReceiver κ μ)

/-- `processMSSOption`. -/
def processMSSOption (option : TCPOption) :
    Except ReceiverFault (TCPReceiver κ μ) :=
  if option.length ≠ 4 then .ok c
  else if c.fsm ≠ .listen ∧ c.fsm ≠ .synSent then .ok c
  else match option.values with
    | [] => .error .optionData
    | mss :: _ =>
      let sndMss := min c.sndMss mss.toNat
      .ok { c with sndMss := if sndMss = 0 then 536 else sndMss }

/-- `processWSOption`.  The scale of the peer's window belongs to the sending side. -/
def processWSOption (option : TCPOption) :
    Except ReceiverFault (TCPReceiver κ μ) :=
  if option.length ≠ 3 then .ok c
  else if c.fsm ≠ .listen ∧ c.fsm ≠ .synSent then .ok c
  else match option.values with
    | [] => .error .optionData
    | _ :: _ => .ok { c with rcvWs := true, wsEnabled := c.wsSupport && c.sndWs }

/-- `processSACKPermittedOption`. -/
def processSACKPermittedOption (option : TCPOption) :
    Except ReceiverFault (TCPReceiver κ μ) :=
  if option.length ≠ 2 then .ok c
  else if c.fsm ≠ .listen ∧ c.fsm ≠ .synSent then .ok c
  else .ok { c with rcvSackPerm := true, sackEnabled := c.sackSupport && c.sndSackPerm }

/-- The test of `processTSOption` on the state of the connection. -/
def tsExpected : Bool :=
  if c.tsEnabled then
    decide (c.fsm ∈ [.synRcvd, .established, .finWait1, .finWait2])
  else decide (c.fsm ∈ [.listen, .synSent])

variable (tcpseg : TCPSegment)

/-- The update of `ts_recent` at the end of `processTSOption`. -/
def updateTsRecent (tsval : SeqNo) : TCPReceiver κ μ :=
  if c.tsEnabled && !seqLess tsval c.tsRecent && seqLE tcpseg.sequenceNo c.lastAckSent then
    { c with tsRecent := tsval, tsRecents := c.tsRecents ++ [tsval] }
  else c

/-- `processTSOption`. -/
def processTSOption (option : TCPOption) :
    Except ReceiverFault (TCPReceiver κ μ) :=
  if option.length ≠ 10 then .ok c
  else if !c.tsExpected then .ok c
  else match option.values with
    | [tsval, _] =>
      if c.tsEnabled then .ok (c.updateTsRecent tcpseg tsval)
      else
        .ok ({ c with
          rcvInitialTs := true
          tsEnabled := c.tsSupport && c.sndInitialTs }.updateTsRecent tcpseg tsval)
    | _ => .error .optionData

/-- The switch of `readHeaderOptions`.  The blocks of a SACK option go to the sending side. -/
def processOption (option : TCPOption) :
    Except ReceiverFault (TCPReceiver κ μ) :=
  if option.kind = maximumSegmentSize then c.processMSSOption option
  else if option.kind = windowScale then c.processWSOption option
  else if option.kind = sackPermitted then c.processSACKPermittedOption option
  else if option.kind = timestamp then c.processTSOption tcpseg option
  else .ok c

/-- `readHeaderOptions`. -/
def readHeaderOptions :
    Except ReceiverFault (TCPReceiver κ μ) :=
  tcpseg.options.foldlM (fun c option => c.processOption tcpseg option) c

end

/-- `getTSval`. -/
def getTSval (tcpseg : TCPSegment) : Except ReceiverFault SeqNo :=
  match tcpseg.options.find? fun option => option.kind = timestamp with
  | some option =>
    match option.values with
    | tsval :: _ => .ok tsval
    | [] => .error .optionData
  | none => .ok 0

/-! ### The receive window -/

section Window

variable [Region ρ] [TCPReceiveQueue κ μ ρ]

section

variable (c : TCPReceiver κ μ)

/-- The member functions that only look at the regions of the receive queue. -/
def regions : TCPVirtualDataRcvQueue ρ := TCPReceiveQueue.queries c.receiveQueue

/-- `updateRcvQueueVars`. -/
def updateRcvQueueVars : TCPReceiver κ μ :=
  let freeRcvBuffer := c.regions.getAmountOfFreeBytes c.maxRcvBuffer
  { c with freeRcvBuffer, usedRcvBuffer := c.maxRcvBuffer - freeRcvBuffer }

/-- The window of `updateRcvWnd`, without the limit of an unscaled one. -/
def openWindow : ℕ :=
  let win := c.regions.getAmountOfFreeBytes c.maxRcvBuffer
  let win := if win < c.maxRcvBuffer / 4 ∧ win < c.sndMss then 0 else win
  max win (c.rcvAdv - c.rcvNxt).toNat

/-- The window that `updateRcvWnd` decides on. -/
def newWindow : ℕ :=
  if tcpMaxWin < c.openWindow ∧ !c.wsEnabled then tcpMaxWin else c.openWindow

end

/-- The loop of the window scale, with the number of rounds that the limit of 14 leaves. -/
def scaleDown : ℕ → ℕ → ℕ → ℕ × ℕ
  | 0, window, scale => (window, scale)
  | rounds + 1, window, scale =>
    if tcpMaxWin < window then scaleDown rounds (window / 2) (scale + 1) else (window, scale)

/-- `updateRcvWnd`. -/
def updateRcvWnd (c : TCPReceiver κ μ) : Except ReceiverFault (ℕ × TCPReceiver κ μ) :=
  let win := c.newWindow
  let rcvAdv :=
    if 0 < win ∧ seqGE (c.rcvNxt + BitVec.ofNat 32 win) c.rcvAdv then
      c.rcvNxt + BitVec.ofNat 32 win
    else c.rcvAdv
  let scaled := if c.wsEnabled then scaleDown 14 win 0 else (win, 0)
  if scaled.1 < 2 ^ 16 then
    .ok (scaled.1, { c.updateRcvQueueVars with rcvAdv, rcvWnd := win, rcvWndScale := scaled.2 })
  else .error .scaledRcvWnd

/-! ### Writing the options of a header -/

/-- The first loop of `addSacks`: the blocks below `rcv_nxt` are deleted. -/
def deleteOldSacks (rcvNxt : SeqNo) : List Sack → Except ReceiverFault (List Sack)
  | [] => .ok []
  | it :: rest =>
    if seqLE it.endSeq rcvNxt || it.empty then deleteOldSacks rcvNxt rest
    else if seqGE it.startSeq rcvNxt then do
      let rest ← deleteOldSacks rcvNxt rest
      .ok (it :: rest)
    else .error .sackBelowRcvNxt

/-- The loop of `addSacks` that deletes the blocks which are contained in an earlier one. -/
def deleteContained : ℕ → List Sack → Except ReceiverFault (List Sack)
  | 0, _ => .error .loop
  | _ + 1, [] => .ok []
  | fuel + 1, it :: rest =>
    if it.empty then .error .sackEmpty
    else do
      let rest ← deleteContained fuel (rest.filter fun it2 => !it.contains it2)
      .ok (it :: rest)

section

variable (c : TCPReceiver κ μ)

/-- The D-SACK block of `addSacks`. -/
def dsackBlock : Sack :=
  if seqLess c.startSeqno c.rcvNxt && seqLess c.rcvNxt c.endSeqno then ⟨c.startSeqno, c.rcvNxt⟩
  else ⟨c.startSeqno, c.endSeqno⟩

/-- The block of `addSacks` for a segment that is not reported as a duplicate. -/
def sackBlock : Sack := ⟨c.regions.getLE c.startSeqno, c.regions.getRE c.endSeqno⟩

/-- The middle of `addSacks`: the block of the newest segment is put in front of the others. -/
def insertSack (sacks : List Sack) : Except ReceiverFault (List Sack) :=
  if c.startSeqno = c.endSeqno then .ok sacks
  else if c.sndDsack then do
    let sacks ← deleteContained (sacks.length + 1) sacks
    .ok (c.dsackBlock :: sacks)
  else deleteContained (sacks.length + 2) (c.sackBlock :: sacks)

/-- The flags at the end of `addSacks`. -/
def resetSackFlags : TCPReceiver κ μ :=
  { c with sndSack := false, sndDsack := false, startSeqno := 0, endSeqno := 0 }

/-- `addSacks`. -/
def addSacks (tcpseg : TCPSegment) :
    Except ReceiverFault (TCPSegment × TCPReceiver κ μ) := do
  let usedOptionsLen := tcpseg.getOptionsArrayLength
  let old ← deleteOldSacks c.rcvNxt c.sacksArray
  if tcpOptionsMaxSize - tcpOptionSackMinSize < usedOptionsLen then
    .ok (tcpseg, { c with sacksArray := old }.resetSackFlags)
  else do
    let sacks ← c.insertSack old
    let dsackInserted := c.startSeqno != c.endSeqno && c.sndDsack
    let sacksArray := if dsackInserted then sacks.tail else sacks
    let n := min sacks.length ((tcpOptionsMaxSize - usedOptionsLen - 2) / 8)
    if n = 0 then .ok (tcpseg, { c with sacksArray }.resetSackFlags)
    else
      let padding := (6 - usedOptionsLen % 4) % 4
      let blocks := sacks.take n
      if ¬ ∀ it ∈ blocks, it.startSeq ≠ it.endSeq then .error .sackEmpty
      else if tcpOptionsMaxSize < usedOptionsLen + padding + (8 * n + 2) then .error .optionsLen
      else
        let option : TCPOption :=
          ⟨sack, 8 * n + 2, blocks.flatMap fun it => [it.startSeq, it.endSeq]⟩
        .ok ({ tcpseg with
            options := tcpseg.options ++ List.replicate padding nop ++ [option] },
          { c with sacksArray }.resetSackFlags)

/-- The TS option. -/
def tsOption (tcpseg : TCPSegment) : TCPOption :=
  ⟨timestamp, 10, [convertSimtimeToTS c.simTime, if tcpseg.ackBit then c.tsRecent else 0]⟩

end

/-- Append header options. -/
def addOptions (tcpseg : TCPSegment) (options : List TCPOption) : TCPSegment :=
  { tcpseg with options := tcpseg.options ++ options }

/-- The connection sends its first SYN, or sends it once more. -/
def firstSyn (c : TCPReceiver κ μ) : Bool :=
  decide (c.fsm = .init) || (decide (c.fsm = .synSent) && decide (0 < c.synRexmitCount))

section

variable (c : TCPReceiver κ μ) (tcpseg : TCPSegment)

/-- The MSS option of a SYN. -/
def writeMSSOption : TCPSegment :=
  if 0 < c.sndMss then
    addOptions tcpseg [⟨maximumSegmentSize, 4, [BitVec.ofNat 32 c.sndMss]⟩]
  else tcpseg

/-- The window scale option of a SYN. -/
def writeWSOption : TCPSegment × TCPReceiver κ μ :=
  if c.wsSupport && (c.rcvWs || c.firstSyn) then
    let window := c.regions.getFirstSeqNo + BitVec.ofNat 32 c.maxRcvBuffer - c.rcvNxt
    let rcvWndScale := (scaleDown 14 window.toNat 0).2
    (addOptions tcpseg [.nop, ⟨windowScale, 3, [BitVec.ofNat 32 rcvWndScale]⟩],
      { c with rcvWndScale, sndWs := true, wsEnabled := c.rcvWs })
  else (tcpseg, c)

/-- The SACK-permitted option of a SYN. -/
def writeSACKPermittedOption :
    TCPSegment × TCPReceiver κ μ :=
  if c.sackSupport && (c.rcvSackPerm || c.firstSyn) then
    (addOptions tcpseg ((if c.tsSupport then [] else [.nop, .nop]) ++
        [⟨sackPermitted, 2, []⟩]),
      { c with sndSackPerm := true, sackEnabled := c.rcvSackPerm })
  else (tcpseg, c)

/-- The TS option of a SYN. -/
def writeTSOption : TCPSegment × TCPReceiver κ μ :=
  if c.tsSupport && (c.rcvInitialTs || c.firstSyn) then
    (addOptions tcpseg ((if c.sackSupport then [] else [.nop, .nop]) ++ [c.tsOption tcpseg]),
      { c with sndInitialTs := true, tsEnabled := c.rcvInitialTs })
  else (tcpseg, c)

/-- The first branch of `writeHeaderOptions`. -/
def writeSynOptions : TCPSegment × TCPReceiver κ μ :=
  let tcpseg := c.writeMSSOption tcpseg
  let (tcpseg, c) := c.writeWSOption tcpseg
  let (tcpseg, c) := c.writeSACKPermittedOption tcpseg
  c.writeTSOption tcpseg

end

/-- The connection reports SACK blocks with the next header. -/
def sacksPending (c : TCPReceiver κ μ) : Bool := c.sackEnabled && (c.sndSack || c.sndDsack)

/-- The second branch of `writeHeaderOptions`. -/
def writeTransferOptions (c : TCPReceiver κ μ) (tcpseg : TCPSegment) :
    Except ReceiverFault (TCPSegment × TCPReceiver κ μ) :=
  let tcpseg :=
    if c.tsEnabled then
      addOptions tcpseg ((if c.sacksPending then [] else [.nop, .nop]) ++ [c.tsOption tcpseg])
    else tcpseg
  if c.sacksPending then c.addSacks tcpseg else .ok (tcpseg, c)

/-- The end of `writeHeaderOptions`: the header length, or no options when they are too long. -/
def setOptionsLength (tcpseg : TCPSegment) : TCPSegment :=
  if tcpseg.options = [] then tcpseg
  else if tcpseg.getOptionsArrayLength ≤ tcpOptionsMaxSize then
    { tcpseg with headerLength := tcpHeaderOctets + tcpseg.getOptionsArrayLength }
  else { tcpseg with headerLength := tcpHeaderOctets, options := [] }

/-- The condition of the first branch of `writeHeaderOptions`. -/
def writesSynOptions (c : TCPReceiver κ μ) (tcpseg : TCPSegment) : Bool :=
  tcpseg.synBit && (decide (c.fsm ∈ [.init, .listen]) ||
    (decide (c.fsm ∈ [.synSent, .synRcvd]) && decide (0 < c.synRexmitCount)))

/-- `writeHeaderOptions`. -/
def writeHeaderOptions (c : TCPReceiver κ μ) (tcpseg : TCPSegment) :
    Except ReceiverFault (TCPSegment × TCPReceiver κ μ) :=
  if c.writesSynOptions tcpseg then
    let (tcpseg, c) := c.writeSynOptions tcpseg
    .ok (setOptionsLength tcpseg, c)
  else if c.fsm ∈ [.synSent, .synRcvd, .established, .finWait1, .finWait2] then do
    let (tcpseg, c) ← c.writeTransferOptions tcpseg
    .ok (setOptionsLength tcpseg, c)
  else .ok (setOptionsLength tcpseg, c)

/-! ### Sending -/

section

variable (c : TCPReceiver κ μ)

/-- `sendSyn`. -/
def sendSyn : Except ReceiverFault (TCPReceiver κ μ) := do
  let (_, c) ← c.updateRcvWnd
  let c := { c with sndMax := c.iss + 1, sndNxt := c.iss + 1 }
  let (tcpseg, c) ← c.writeHeaderOptions
    { synBit := true, sequenceNo := c.iss, window := c.rcvWnd % 2 ^ 16 }
  .ok (c.sendToIP tcpseg)

/-- `sendSynAck`. -/
def sendSynAck : Except ReceiverFault (TCPReceiver κ μ) := do
  let (_, c) ← c.updateRcvWnd
  let c := { c with sndMax := c.iss + 1, sndNxt := c.iss + 1 }
  let (tcpseg, c) ← c.writeHeaderOptions
    { synBit := true, ackBit := true, sequenceNo := c.iss, ackNo := c.rcvNxt
      window := c.rcvWnd % 2 ^ 16 }
  .ok (c.sendToIP tcpseg).ackSent

/-- `sendRst`. -/
def sendRst (seqNo : SeqNo) : TCPReceiver κ μ := c.sendToIP { rstBit := true, sequenceNo := seqNo }

/-- `sendAck`. -/
def sendAck : Except ReceiverFault (TCPReceiver κ μ) := do
  let (window, c) ← c.updateRcvWnd
  let (tcpseg, c) ← c.writeHeaderOptions
    { ackBit := true, sequenceNo := c.sndNxt, ackNo := c.rcvNxt, window }
  .ok (c.sendToIP tcpseg).ackSent

/-- `sendFin`. -/
def sendFinSegment : Except ReceiverFault (TCPReceiver κ μ) := do
  let (window, c) ← c.updateRcvWnd
  .ok (c.sendToIP
    { finBit := true, ackBit := true, sequenceNo := c.sndNxt, ackNo := c.rcvNxt, window }).ackSent

/-- `sendSegment`, for a segment of the send queue. -/
def sendSegment (tcpseg : TCPSegment) :
    Except ReceiverFault (TCPReceiver κ μ) := do
  let (temp, c) ← c.writeHeaderOptions { ackBit := true }
  let (window, c) ← c.updateRcvWnd
  .ok (c.sendToIP { tcpseg with
    ackNo := c.rcvNxt, ackBit := true, window, options := temp.options
    headerLength := temp.headerLength })

end

/-- What the sending side does that the receiving side sees. -/
inductive Action
  | selectInitialSeqNum (iss : SeqNo)
  | sendSyn
  | sendSynAck
  /-- `syn_rexmit_count` is increased. -/
  | synRexmit
  | sendAck
  | sendFin
  | sendSegment (tcpseg : TCPSegment)
  | ackSent
  /-- `snd_nxt`, `snd_max` and `afterRto` are set. -/
  | setSnd (sndNxt sndMax : SeqNo) (afterRto : Bool)
  /-- `time_last_data_sent` is set. -/
  | dataSent
  /-- CLOSE: `send_fin` and `snd_fin_seq` are set. -/
  | close (sndFinSeq : SeqNo)
  | setActive (active : Bool)
  deriving DecidableEq

def act (c : TCPReceiver κ μ) : Action → Except ReceiverFault (TCPReceiver κ μ)
  | .selectInitialSeqNum iss => .ok { c with iss, sndUna := iss, sndNxt := iss, sndMax := iss }
  | .sendSyn => c.sendSyn
  | .sendSynAck => c.sendSynAck
  | .synRexmit => .ok { c with synRexmitCount := c.synRexmitCount + 1 }
  | .sendAck => c.sendAck
  | .sendFin => c.sendFinSegment
  | .sendSegment tcpseg => c.sendSegment tcpseg
  | .ackSent => .ok c.ackSent
  | .setSnd sndNxt sndMax afterRto => .ok { c with sndNxt, sndMax, afterRto }
  | .dataSent => .ok { c with timeLastDataSent := c.simTime }
  | .close sndFinSeq => .ok { c with sendFin := true, sndFinSeq }
  | .setActive active => .ok { c with active }

def acts (c : TCPReceiver κ μ) (as : List Action) : Except ReceiverFault (TCPReceiver κ μ) :=
  as.foldlM act c

end Window

/-! ### What sending leaves alone -/

/-- The variables of a connection that the sending of segments does not change. -/
structure Frame (c c' : TCPReceiver κ μ) : Prop where
  simTime : c'.simTime = c.simTime
  fsm : c'.fsm = c.fsm
  maxRcvBuffer : c'.maxRcvBuffer = c.maxRcvBuffer
  rcvNxt : c'.rcvNxt = c.rcvNxt
  finRcvd : c'.finRcvd = c.finRcvd
  rcvFinSeq : c'.rcvFinSeq = c.rcvFinSeq
  tsRecent : c'.tsRecent = c.tsRecent
  receiveQueue : c'.receiveQueue = c.receiveQueue
  stored : c'.stored = c.stored
  tsRecents : c'.tsRecents = c.tsRecents

variable {c c' c'' : TCPReceiver κ μ}

namespace Frame

theorem refl (c : TCPReceiver κ μ) : Frame c c := ⟨rfl, rfl, rfl, rfl, rfl, rfl, rfl, rfl, rfl, rfl⟩

theorem trans (h : Frame c c') (h' : Frame c' c'') : Frame c c'' where
  simTime := h'.simTime.trans h.simTime
  fsm := h'.fsm.trans h.fsm
  maxRcvBuffer := h'.maxRcvBuffer.trans h.maxRcvBuffer
  rcvNxt := h'.rcvNxt.trans h.rcvNxt
  finRcvd := h'.finRcvd.trans h.finRcvd
  rcvFinSeq := h'.rcvFinSeq.trans h.rcvFinSeq
  tsRecent := h'.tsRecent.trans h.tsRecent
  receiveQueue := h'.receiveQueue.trans h.receiveQueue
  stored := h'.stored.trans h.stored
  tsRecents := h'.tsRecents.trans h.tsRecents

end Frame

/-- The variables of the window are the same; `scales` says whether window scaling may have become
possible. -/
structure SameWindow (scales : Prop) (c c' : TCPReceiver κ μ) : Prop where
  fsm : c'.fsm = c.fsm
  maxRcvBuffer : c'.maxRcvBuffer = c.maxRcvBuffer
  wsSupport : c'.wsSupport = c.wsSupport
  rcvNxt : c'.rcvNxt = c.rcvNxt
  rcvAdv : c'.rcvAdv = c.rcvAdv
  rcvWnd : c'.rcvWnd = c.rcvWnd
  finRcvd : c'.finRcvd = c.finRcvd
  rcvFinSeq : c'.rcvFinSeq = c.rcvFinSeq
  receiveQueue : c'.receiveQueue = c.receiveQueue
  rcvWs : c'.rcvWs → c.rcvWs ∨ scales
  wsEnabled : c'.wsEnabled → c.wsEnabled ∨ c'.wsSupport ∧ c'.rcvWs
  rcvWs_of : c.rcvWs → c'.rcvWs

namespace SameWindow

variable {scales : Prop}

theorem refl (c : TCPReceiver κ μ) : SameWindow scales c c :=
  ⟨rfl, rfl, rfl, rfl, rfl, rfl, rfl, rfl, rfl, .inl, .inl, id⟩

theorem trans (h : SameWindow scales c c') (h' : SameWindow scales c' c'') :
    SameWindow scales c c'' where
  fsm := h'.fsm.trans h.fsm
  maxRcvBuffer := h'.maxRcvBuffer.trans h.maxRcvBuffer
  wsSupport := h'.wsSupport.trans h.wsSupport
  rcvNxt := h'.rcvNxt.trans h.rcvNxt
  rcvAdv := h'.rcvAdv.trans h.rcvAdv
  rcvWnd := h'.rcvWnd.trans h.rcvWnd
  finRcvd := h'.finRcvd.trans h.finRcvd
  rcvFinSeq := h'.rcvFinSeq.trans h.rcvFinSeq
  receiveQueue := h'.receiveQueue.trans h.receiveQueue
  rcvWs hws := (h'.rcvWs hws).elim h.rcvWs .inr
  wsEnabled hws := (h'.wsEnabled hws).elim
    (fun hws => (h.wsEnabled hws).imp id fun ⟨hsup, hrcv⟩ =>
      ⟨h'.wsSupport ▸ hsup, h'.rcvWs_of hrcv⟩) .inr
  rcvWs_of hws := h'.rcvWs_of (h.rcvWs_of hws)

end SameWindow

/-- A change that has to do with sending only. -/
structure Minor (c c' : TCPReceiver κ μ) : Prop extends Frame c c', SameWindow False c c'

namespace Minor

theorem refl (c : TCPReceiver κ μ) : Minor c c := { Frame.refl c, SameWindow.refl c with }

theorem trans (h : Minor c c') (h' : Minor c' c'') : Minor c c'' :=
  { h.toFrame.trans h'.toFrame, h.toSameWindow.trans h'.toSameWindow with }

end Minor

/-- A computation that does not end at the assertion of `updateRcvWnd`. -/
abbrev Returns {α : Type} (P : α → Prop) (x : Except ReceiverFault α) : Prop :=
  Except.Ensures (fun fault => fault ≠ ReceiverFault.scaledRcvWnd) P x

theorem returns_deleteOldSacks (rcvNxt : SeqNo) (sacks : List Sack) :
    Returns (fun _ => True) (deleteOldSacks rcvNxt sacks) := by
  induction sacks with
  | nil => trivial
  | cons it rest ih =>
    rw [deleteOldSacks]
    split_ifs
    · exact ih
    · exact ih.bind fun _ _ => trivial
    · exact fun h => by cases h

theorem returns_deleteContained (fuel : ℕ) (sacks : List Sack) :
    Returns (fun _ => True) (deleteContained fuel sacks) := by
  induction fuel generalizing sacks with
  | zero => exact fun h => by cases h
  | succ fuel ih =>
    cases sacks with
    | nil => trivial
    | cons it rest =>
      rw [deleteContained]
      split_ifs
      · exact fun h => by cases h
      · exact (ih _).bind fun _ _ => trivial

theorem minor_ackSent (c : TCPReceiver κ μ) : Minor c c.ackSent := by
  rw [ackSent]
  split_ifs
  · exact { Minor.refl c with }
  · exact Minor.refl c

variable [Region ρ] [TCPReceiveQueue κ μ ρ]

theorem minor_writeSynOptions (c : TCPReceiver κ μ) (tcpseg : TCPSegment) :
    Minor c (c.writeSynOptions tcpseg).2 := by
  have hscale : ∀ (c : TCPReceiver κ μ) (tcpseg : TCPSegment),
      Minor c (c.writeWSOption tcpseg).2 := by
    intro c tcpseg
    rw [writeWSOption]
    split_ifs with hws
    · rw [Bool.and_eq_true] at hws
      exact { Minor.refl c with wsEnabled := fun hrcv => .inr ⟨hws.1, hrcv⟩ }
    · exact Minor.refl c
  have hsack : ∀ (c : TCPReceiver κ μ) (tcpseg : TCPSegment),
      Minor c (c.writeSACKPermittedOption tcpseg).2 := by
    intro c tcpseg
    rw [writeSACKPermittedOption]
    split_ifs
    all_goals exact { Minor.refl c with }
  have hts : ∀ (c : TCPReceiver κ μ) (tcpseg : TCPSegment),
      Minor c (c.writeTSOption tcpseg).2 := by
    intro c tcpseg
    rw [writeTSOption]
    split_ifs
    all_goals exact { Minor.refl c with }
  exact ((hscale _ _).trans (hsack _ _)).trans (hts _ _)

theorem returns_addSacks (c : TCPReceiver κ μ) (tcpseg : TCPSegment) :
    Returns (fun p => Minor c p.2) (c.addSacks tcpseg) := by
  rw [addSacks]
  refine (returns_deleteOldSacks _ _).bind fun old _ => ?_
  split_ifs
  · exact { Minor.refl c with }
  · have hinsert : Returns (fun _ => True) (c.insertSack old) := by
      rw [insertSack]
      split_ifs
      · trivial
      · exact (returns_deleteContained _ _).bind fun _ _ => trivial
      · exact returns_deleteContained _ _
    refine hinsert.bind fun sacks _ => ?_
    dsimp only
    generalize (if (c.startSeqno != c.endSeqno && c.sndDsack) = true then sacks.tail else sacks) =
      sacksArray
    split_ifs
    · exact { Minor.refl c with }
    · exact fun h => by cases h
    · exact { Minor.refl c with }
    · exact fun h => by cases h

theorem returns_writeHeaderOptions (c : TCPReceiver κ μ) (tcpseg : TCPSegment) :
    Returns (fun p => Minor c p.2) (c.writeHeaderOptions tcpseg) := by
  rw [writeHeaderOptions]
  split_ifs
  · exact minor_writeSynOptions c tcpseg
  · have htransfer : Returns (fun p => Minor c p.2) (c.writeTransferOptions tcpseg) := by
      rw [writeTransferOptions]
      by_cases hsacks : c.sacksPending = true
      · rw [if_pos hsacks]
        exact returns_addSacks c _
      · rw [if_neg hsacks]
        exact Minor.refl c
    exact htransfer.bind fun _ h => h
  · exact Minor.refl c

/-! ### The options of a segment -/

/-- What an option does to the state. -/
inductive OptionEffect (c : TCPReceiver κ μ) (tcpseg : TCPSegment) (option : TCPOption) :
    TCPReceiver κ μ → Prop
  | ignored : OptionEffect c tcpseg option c
  | mss (hopen : c.fsm = .listen ∨ c.fsm = .synSent) (sndMss : ℕ) :
      OptionEffect c tcpseg option { c with sndMss }
  | windowScale (hopen : c.fsm = .listen ∨ c.fsm = .synSent)
      (hkind : option.kind = windowScale) (hlength : option.length = 3) :
      OptionEffect c tcpseg option { c with rcvWs := true, wsEnabled := c.wsSupport && c.sndWs }
  | sackPermitted (hopen : c.fsm = .listen ∨ c.fsm = .synSent) :
      OptionEffect c tcpseg option
        { c with rcvSackPerm := true, sackEnabled := c.sackSupport && c.sndSackPerm }
  | timestamp (tsval : SeqNo) : OptionEffect c tcpseg option (c.updateTsRecent tcpseg tsval)
  | initialTimestamp (hopen : c.fsm = .listen ∨ c.fsm = .synSent) (tsval : SeqNo) :
      OptionEffect c tcpseg option
        ({ c with
          rcvInitialTs := true
          tsEnabled := c.tsSupport && c.sndInitialTs }.updateTsRecent tcpseg tsval)

theorem returns_processOption (c : TCPReceiver κ μ) (tcpseg : TCPSegment) (option : TCPOption) :
    Returns (OptionEffect c tcpseg option) (c.processOption tcpseg option) := by
  rw [processOption]
  split_ifs with hmss hws hsack htimestamp
  · rw [processMSSOption]
    split_ifs with hlen hfsm
    · exact .ignored
    · exact .ignored
    · cases option.values with
      | nil => exact fun h => by cases h
      | cons mss rest => exact .mss (by tauto) _
  · rw [processWSOption]
    split_ifs with hlen hfsm
    · exact .ignored
    · exact .ignored
    · cases option.values with
      | nil => exact fun h => by cases h
      | cons scale rest => exact .windowScale (by tauto) hws (not_not.1 hlen)
  · rw [processSACKPermittedOption]
    split_ifs with hlen hfsm
    · exact .ignored
    · exact .ignored
    · exact .sackPermitted (by tauto)
  · rw [processTSOption]
    by_cases hlen : option.length ≠ 10
    · rw [if_pos hlen]
      exact .ignored
    · rw [if_neg hlen]
      by_cases hexpected : (!c.tsExpected) = true
      · rw [if_pos hexpected]
        exact .ignored
      · rw [if_neg hexpected]
        split
        · rename_i tsval tsecr hvalues
          split_ifs with henabled
          · exact .timestamp tsval
          · refine .initialTimestamp ?_ tsval
            simpa [tsExpected, henabled, or_iff_not_imp_left] using hexpected
        · exact fun h => by cases h
  · exact .ignored

/-! ### Properties that sending keeps -/

/-- A property that minor changes and `updateRcvWnd` keep.  The faults that may occur are in `F`. -/
structure Stable (F : ReceiverFault → Prop) (P : TCPReceiver κ μ → Prop) : Prop where
  fault : ∀ fault, fault ≠ .scaledRcvWnd → F fault
  minor : ∀ {c c' : TCPReceiver κ μ}, P c → Minor c c' → P c'
  updateRcvWnd : ∀ {c : TCPReceiver κ μ}, P c → c.updateRcvWnd.Ensures F fun p => P p.2

namespace Stable

variable {F : ReceiverFault → Prop} {P : TCPReceiver κ μ → Prop}

variable (hP : Stable F P) (h : P c)
include hP h

theorem writeHeaderOptions (tcpseg : TCPSegment) :
    (c.writeHeaderOptions tcpseg).Ensures F fun p => P p.2 :=
  (returns_writeHeaderOptions c tcpseg).imp hP.fault fun _ hp => hP.minor h hp

theorem ackSent : P c.ackSent := hP.minor h (minor_ackSent c)

theorem sendToIP (tcpseg : TCPSegment) : P (c.sendToIP tcpseg) := hP.minor h { Minor.refl c with }

theorem sendSyn : c.sendSyn.Ensures F P := by
  refine (hP.updateRcvWnd h).bind ?_
  rintro ⟨window, c₁⟩ h₁
  have h₂ : P { c₁ with sndMax := c₁.iss + 1, sndNxt := c₁.iss + 1 } :=
    hP.minor h₁ { Minor.refl c₁ with }
  refine (hP.writeHeaderOptions h₂ _).bind ?_
  rintro ⟨tcpseg, c₃⟩ h₃
  exact hP.sendToIP h₃ tcpseg

theorem sendSynAck : c.sendSynAck.Ensures F P := by
  refine (hP.updateRcvWnd h).bind ?_
  rintro ⟨window, c₁⟩ h₁
  have h₂ : P { c₁ with sndMax := c₁.iss + 1, sndNxt := c₁.iss + 1 } :=
    hP.minor h₁ { Minor.refl c₁ with }
  refine (hP.writeHeaderOptions h₂ _).bind ?_
  rintro ⟨tcpseg, c₃⟩ h₃
  exact hP.ackSent (hP.sendToIP h₃ tcpseg)

theorem sendAck : c.sendAck.Ensures F P := by
  refine (hP.updateRcvWnd h).bind ?_
  rintro ⟨window, c₁⟩ h₁
  refine (hP.writeHeaderOptions h₁ _).bind ?_
  rintro ⟨tcpseg, c₂⟩ h₂
  exact hP.ackSent (hP.sendToIP h₂ tcpseg)

theorem sendFinSegment : c.sendFinSegment.Ensures F P := by
  refine (hP.updateRcvWnd h).bind ?_
  rintro ⟨window, c₁⟩ h₁
  exact hP.ackSent (hP.sendToIP h₁ _)

theorem sendSegment (tcpseg : TCPSegment) : (c.sendSegment tcpseg).Ensures F P := by
  refine (hP.writeHeaderOptions h _).bind ?_
  rintro ⟨temp, c₁⟩ h₁
  refine (hP.updateRcvWnd h₁).bind ?_
  rintro ⟨window, c₂⟩ h₂
  exact hP.sendToIP h₂ _

theorem act (action : Action) : (c.act action).Ensures F P := by
  cases action with
  | sendSyn => exact hP.sendSyn h
  | sendSynAck => exact hP.sendSynAck h
  | sendAck => exact hP.sendAck h
  | sendFin => exact hP.sendFinSegment h
  | sendSegment tcpseg => exact hP.sendSegment h tcpseg
  | ackSent => exact hP.ackSent h
  | _ => exact hP.minor h { Minor.refl c with }

theorem acts (as : List Action) : (c.acts as).Ensures F P :=
  Except.Ensures.foldlM (fun _ action _ h => hP.act h action) h

end Stable

theorem ensures_updateRcvWnd (c : TCPReceiver κ μ) :
    c.updateRcvWnd.Ensures (fun _ => True) fun p => Frame c p.2 := by
  rw [updateRcvWnd]
  dsimp only
  split_ifs
  all_goals first
    | trivial
    | exact { Frame.refl c with }

theorem Frame.stable (c : TCPReceiver κ μ) : Stable (fun _ => True) (Frame c) where
  fault _ _ := trivial
  minor h hm := h.trans hm.toFrame
  updateRcvWnd h := (ensures_updateRcvWnd _).mono fun _ hp => h.trans hp

theorem Frame.sendSynAck (h : c.sendSynAck = .ok c') : Frame c c' :=
  ((stable c).sendSynAck (refl c)).of_eq_ok h

theorem Frame.acts {as : List Action} (h : c.acts as = .ok c') : Frame c c' :=
  ((stable c).acts (refl c) as).of_eq_ok h

end TCPReceiver

end Hiwis
