import Hiwis.Tcp.TCPConnectionUtil

/-!
# Arriving segments

The functions of `TCPConnectionRcvSegment.cc`, and the runs of the receiving side of a connection:
from its creation on, segments arrive in any order and the sending side acts at any time.

A segment causes notifications of the congestion control.  Its answers, which the receiving side
sees as `Action`s, come with the event.
-/

namespace Hiwis

open TCP TCPReceiveQueue

namespace TCPReceiver

variable {κ μ ρ : Type}

/-- What the sending side does when it is notified in the course of a segment. -/
structure Responses where
  established : List Action := []
  receivedDuplicateAck : List Action := []
  receivedDataAck : List Action := []
  receivedAckForDataNotYetSent : List Action := []
  receivedOutOfOrderSegment : List Action := []
  receiveSeqChanged : List Action := []
  deriving DecidableEq

/-- How a step of `processSegment1stThru8th` ends: the function returns, or goes on with the event
that it has come to. -/
inductive Flow
  | finish (event : TCPEventCode)
  | goOn (event : TCPEventCode)
  deriving DecidableEq

section

variable (c : TCPReceiver κ μ)

/-- `isSegmentAcceptable`. -/
def isSegmentAcceptable (tcpseg : TCPSegment) : Bool :=
  let rcvWndEnd := c.rcvNxt + BitVec.ofNat 32 c.rcvWnd
  if tcpseg.payloadLength = 0 then
    (if c.rcvWnd = 0 then tcpseg.sequenceNo == c.rcvNxt
      else seqLE c.rcvNxt tcpseg.sequenceNo && seqLE tcpseg.sequenceNo rcvWndEnd) ||
    (seqLess c.sndUna tcpseg.ackNo &&
      seqLE tcpseg.ackNo (if c.afterRto then c.sndMax else c.sndNxt))
  else if c.rcvWnd = 0 then false
  else
    (seqLE c.rcvNxt tcpseg.sequenceNo && seqLess tcpseg.sequenceNo rcvWndEnd) ||
    (seqLess c.rcvNxt tcpseg.endSeq && seqLE tcpseg.endSeq rcvWndEnd)

/-- The first lines of `processSegment1stThru8th`: PAWS drops the segment. -/
def pawsRejects (tcpseg : TCPSegment) : Except ReceiverFault Bool :=
  if tcpHeaderOctets < tcpseg.headerLength ∧ c.tsEnabled then do
    let tsval ← getTSval tcpseg
    .ok (tsval != 0 && seqLess tsval c.tsRecent && c.idle)
  else .ok false

/-- The options are read when the header is long enough for them. -/
def readOptions (tcpseg : TCPSegment) :
    Except ReceiverFault (TCPReceiver κ μ) :=
  if tcpHeaderOctets < tcpseg.headerLength then c.readHeaderOptions tcpseg else .ok c

/-- The event of a FIN. -/
def finEvent : TCPEventCode :=
  if c.fsm = .finWait1 ∧ c.finAckRcvd then .rcvFinAck else .rcvFin

/-- Second step, for a segment with RST. -/
def processRst : Except ReceiverFault (TCPEventCode × TCPReceiver κ μ) :=
  if c.fsm ∈ [.synRcvd, .established, .finWait1, .finWait2, .closeWait, .closing, .lastAck,
      .timeWait] then .ok (.rcvRst, c)
  else .error .unexpectedRst

/-- The variables that an acknowledgment of new data sets. -/
def advanceSndUna (ackNo : SeqNo) : TCPReceiver κ μ :=
  { c with
    sndUna := ackNo
    sndNxt := if seqLess c.sndNxt ackNo then ackNo else c.sndNxt
    finAckRcvd := c.finAckRcvd || (c.sendFin && ackNo == c.sndFinSeq + 1) }

/-- A stored FIN is reached: `rcv_nxt` goes over it. -/
def passStoredFin (event : TCPEventCode) :
    TCPEventCode × TCPReceiver κ μ :=
  if c.finRcvd ∧ c.rcvNxt = c.rcvFinSeq then
    (c.finEvent, { c with ackNow := true, rcvNxt := c.rcvFinSeq + 1 })
  else (event, c)

/-- Eighth step: the FIN bit.  A FIN above sequence is stored. -/
def processFin (tcpseg : TCPSegment) (event : TCPEventCode) :
    TCPEventCode × TCPReceiver κ μ :=
  if tcpseg.finBit then
    if c.rcvNxt = tcpseg.endSeq then (c.finEvent, { c with ackNow := true, rcvNxt := c.rcvNxt + 1 })
    else (event, { c with ackNow := true, finRcvd := true, rcvFinSeq := tcpseg.endSeq })
  else (event, c)

/-- The end of `processSegment1stThru8th`: a CLOSE that has been deferred. -/
def deferredClose (oldSndNxt : SeqNo) (event : TCPEventCode) :
    TCPEventCode :=
  if c.sendFin ∧ c.sndNxt = c.sndFinSeq + 1 ∧
      (c.fsm ∈ [.established, .synRcvd] ∨ c.fsm = .closeWait ∧ oldSndNxt ≠ c.sndNxt) then .close
  else event

end

section Segments

variable [Region ρ] [TCPReceiveQueue κ μ ρ]

/-- `hasEnoughSpaceForSegmentInReceiveQueue`. -/
def hasEnoughSpace (c : TCPReceiver κ μ) (tcpseg : TCPSegment) : Bool :=
  let firstSeq := c.regions.getFirstSeqNo
  seqLE firstSeq tcpseg.sequenceNo &&
    seqLE tcpseg.endSeq (firstSeq + BitVec.ofNat 32 c.maxRcvBuffer)

/-- First step, for a segment that is not acceptable. -/
def rejectSegment (c : TCPReceiver κ μ) (tcpseg : TCPSegment) :
    Except ReceiverFault (TCPEventCode × TCPReceiver κ μ) :=
  if tcpseg.rstBit then .ok (.ignore, c)
  else do
    let c :=
      if !tcpseg.synBit ∧ 0 < tcpseg.payloadLength ∧ c.sackEnabled ∧
          seqLess tcpseg.endSeq c.rcvNxt then
        { c with startSeqno := tcpseg.sequenceNo, endSeqno := tcpseg.endSeq, sndDsack := true }
      else c
    let c ← c.sendAck
    .ok (.ignore, c)

/-! ### The ACK field -/

section

variable (c : TCPReceiver κ μ) (tcpseg : TCPSegment)

/-- `processAckInEstabEtc`; `false` means "drop".  What is acknowledged is discarded by the sending
side. -/
def processAckInEstabEtc (r : Responses) :
    Except ReceiverFault (Bool × TCPReceiver κ μ) :=
  if seqGE c.sndUna tcpseg.ackNo then
    if c.sndUna = tcpseg.ackNo ∧ tcpseg.payloadLength = 0 ∧ c.sndUna ≠ c.sndMax then do
      let c ← c.acts r.receivedDuplicateAck
      .ok (true, c)
    else .ok (true, c)
  else if seqLE tcpseg.ackNo c.sndMax then
    if tcpseg.payloadLength = 0 ∧ c.fsm ≠ .synRcvd then do
      let c ← (c.advanceSndUna tcpseg.ackNo).acts r.receivedDataAck
      .ok (true, c)
    else .ok (true, c.advanceSndUna tcpseg.ackNo)
  else do
    let c ← c.acts r.receivedAckForDataNotYetSent
    .ok (false, c)

/-- The fifth step after `processAckInEstabEtc`: what an acknowledgment of our FIN leads to, and the
answer in TIME_WAIT. -/
def afterAck :
    Except ReceiverFault (Flow × TCPReceiver κ μ) :=
  let event : TCPEventCode :=
    if c.fsm = .synRcvd ∨ c.fsm ∈ [.finWait1, .closing] ∧ c.finAckRcvd then .rcvAck else .ignore
  if c.fsm = .lastAck ∧ c.sendFin ∧ tcpseg.ackNo = c.sndFinSeq + 1 then .ok (.finish .rcvAck, c)
  else if c.fsm = .timeWait then do
    let c ← c.sendAck
    .ok (.goOn event, c)
  else .ok (.goOn event, c)

/-- Fifth step: the ACK field. -/
def processAck (r : Responses) :
    Except ReceiverFault (Flow × TCPReceiver κ μ) :=
  if c.fsm = .synRcvd then
    if seqLE c.sndUna tcpseg.ackNo && seqLE tcpseg.ackNo c.sndNxt then do
      let c ← c.acts r.established
      let (ok, c) ← c.processAckInEstabEtc tcpseg r
      if ok then c.afterAck tcpseg else .ok (.finish .ignore, c)
    else .ok (.finish .ignore, c.sendRst tcpseg.ackNo)
  else if c.fsm ∈ [.established, .finWait1, .finWait2, .closeWait, .closing, .lastAck] then do
    let (ok, c) ← c.processAckInEstabEtc tcpseg r
    if ok then c.afterAck tcpseg else .ok (.finish .ignore, c)
  else c.afterAck tcpseg

end

/-! ### The segment text -/

/-- The text is put into the receive queue. -/
def insertText (c : TCPReceiver κ μ) (tcpseg : TCPSegment) :
    Except ReceiverFault (TCPReceiver κ μ) := do
  let (rcvNxt, receiveQueue) ← ask (insertBytesFromSegment c.receiveQueue tcpseg)
  .ok { c with rcvNxt, receiveQueue, stored := c.stored ++ [tcpseg] }

/-- The loop that hands up what has become contiguous. -/
def deliver : ℕ → TCPReceiver κ μ → Except ReceiverFault (TCPReceiver κ μ)
  | 0, _ => .error .loop
  | rounds + 1, c => do
    let (msg, receiveQueue) ← ask (extractBytesUpTo c.receiveQueue c.rcvNxt)
    match msg with
    | some msg => deliver rounds { c with receiveQueue, toApp := c.toApp ++ [msg] }
    | none => .ok { c with receiveQueue }

section

variable (c : TCPReceiver κ μ)

/-- The SACK variables for a segment out of order.  It is a duplicate when the number of buffered
octets is what it was. -/
def reportOutOfOrder (tcpseg : TCPSegment) (oldUsedRcvBuffer : ℕ) :
    TCPReceiver κ μ :=
  if c.sackEnabled then
    if oldUsedRcvBuffer = c.regions.getAmountOfBufferedBytes then
      { c with startSeqno := tcpseg.sequenceNo, endSeqno := tcpseg.endSeq, sndDsack := true }
    else { c with startSeqno := tcpseg.sequenceNo, endSeqno := tcpseg.endSeq, sndSack := true }
  else c

/-- The congestion control learns of new acknowledged data after the text has been stored. -/
def notifyDataAck (oldSndUna : SeqNo) (r : Responses) :
    Except ReceiverFault (TCPReceiver κ μ) :=
  if seqGreater c.sndUna oldSndUna then c.acts r.receivedDataAck else .ok c

/-- The seventh step after the insertion. -/
def afterText (tcpseg : TCPSegment) (event : TCPEventCode) (oldRcvNxt : SeqNo)
    (oldUsedRcvBuffer : ℕ) (r : Responses) (rounds : ℕ) :
    Except ReceiverFault (TCPEventCode × TCPReceiver κ μ) :=
  if oldRcvNxt = c.rcvNxt then do
    let c ← (c.reportOutOfOrder tcpseg oldUsedRcvBuffer).acts r.receivedOutOfOrderSegment
    .ok (event, c)
  else do
    let c ← deliver rounds c
    .ok (c.passStoredFin event)

/-- A segment of one octet may be a persist probe. -/
def noteProbe (tcpseg : TCPSegment) : TCPReceiver κ μ :=
  if tcpseg.payloadLength = 1 then { c with ackNow := true } else c

end

/-- The states in which text is processed. -/
def textStates : List TCPState := [.synRcvd, .established, .finWait1, .finWait2]

section

variable (c : TCPReceiver κ μ) (tcpseg : TCPSegment)

/-- Seventh step: the segment text.  `none` when there is no room for it; otherwise the segment has
been cut down to the window. -/
def processText (event : TCPEventCode) (oldSndUna : SeqNo) (r : Responses) (rounds : ℕ) :
    Except ReceiverFault (Option (TCPEventCode × TCPSegment) × TCPReceiver κ μ) :=
  if c.fsm ∈ textStates ∧ 0 < tcpseg.payloadLength then do
    let cut ← ask (tcpseg.truncateSegment c.rcvNxt (c.rcvNxt + BitVec.ofNat 32 c.rcvWnd))
    let c₁ := (c.noteProbe tcpseg).updateRcvQueueVars
    if c₁.hasEnoughSpace cut then do
      let c₂ ← c₁.insertText cut
      let c₃ ← c₂.notifyDataAck oldSndUna r
      let (event, c₄) ← c₃.afterText cut event c.rcvNxt c₁.usedRcvBuffer r rounds
      .ok (some (event, cut), c₄)
    else .ok (none, c₁)
  else .ok (some (event, tcpseg), c)

/-- After the eighth step: `rcv_nxt` has changed and an ACK is due. -/
def seqChanged (oldRcvNxt : SeqNo) (r : Responses) :
    Except ReceiverFault (TCPReceiver κ μ) :=
  if oldRcvNxt = c.rcvNxt then .ok c
  else if c.sackEnabled ∧ c.regions.regionList.length ≠ 0 then
    { c with
      startSeqno := tcpseg.sequenceNo
      endSeqno := tcpseg.endSeq
      sndSack := true
      ackNow := true }.acts r.receiveSeqChanged
  else c.acts r.receiveSeqChanged

/-- `processSegment1stThru8th` from the fifth step on. -/
def processAcceptable (r : Responses) (rounds : ℕ) :
    Except ReceiverFault (TCPEventCode × TCPReceiver κ μ) := do
  let (flow, c₁) ← c.processAck tcpseg r
  match flow with
  | .finish event => .ok (event, c₁)
  | .goOn event => do
    let (text, c₂) ← c₁.processText tcpseg event c.sndUna r rounds
    match text with
    | none => .ok (.ignore, c₂)
    | some (event, tcpseg) => do
      let fin := c₂.processFin tcpseg event
      let c₃ ← fin.2.seqChanged tcpseg c₁.rcvNxt r
      .ok (c₃.deferredClose c.sndNxt fin.1, c₃)

/-- `processSegment1stThru8th`. -/
def processSegment1stThru8th (r : Responses) (rounds : ℕ) :
    Except ReceiverFault (TCPEventCode × TCPReceiver κ μ) := do
  let rejected ← c.pawsRejects tcpseg
  let c ← c.readOptions tcpseg
  if rejected || !c.isSegmentAcceptable tcpseg then c.rejectSegment tcpseg
  else if tcpseg.rstBit then c.processRst
  else if tcpseg.synBit then .ok (.rcvUnexpSyn, c)
  else if !tcpseg.ackBit then .ok (.ignore, c)
  else c.processAcceptable tcpseg r rounds

end

/-! ### The first segments -/

/-- The variables that an arriving SYN sets. -/
def acceptSyn (c : TCPReceiver κ μ) (tcpseg : TCPSegment) : TCPReceiver κ μ :=
  { c with
    rcvNxt := tcpseg.sequenceNo + 1
    rcvAdv := tcpseg.sequenceNo + 1 + BitVec.ofNat 32 c.rcvWnd
    irs := tcpseg.sequenceNo
    receiveQueue := init c.receiveQueue (tcpseg.sequenceNo + 1) }

/-- `selectInitialSeqNum`. -/
def selectInitialSeqNum (c : TCPReceiver κ μ) : TCPReceiver κ μ :=
  let iss := BitVec.ofInt 32 (c.simTime * 250000 / (1000 * simMillisecond))
  { c with iss, sndUna := iss, sndNxt := iss, sndMax := iss }

section

variable (c : TCPReceiver κ μ) (tcpseg : TCPSegment)

/-- The text of a SYN segment; `false` when there is no room for it. -/
def synText :
    Except ReceiverFault (Bool × TCPReceiver κ μ) :=
  if 0 < tcpseg.payloadLength then
    if c.updateRcvQueueVars.hasEnoughSpace tcpseg then do
      let (_, receiveQueue) ←
        ask (insertBytesFromSegment c.receiveQueue tcpseg)
      .ok (true, { c.updateRcvQueueVars with receiveQueue, stored := c.stored ++ [tcpseg] })
    else .ok (false, c.updateRcvQueueVars)
  else .ok (true, c)

/-- `processSegmentInListen`. -/
def processSegmentInListen :
    Except ReceiverFault (TCPEventCode × TCPReceiver κ μ) :=
  if tcpseg.rstBit then .ok (.ignore, c)
  else if tcpseg.ackBit then .ok (.ignore, c.sendRst tcpseg.ackNo)
  else if tcpseg.synBit then do
    let c ← (c.acceptSyn tcpseg).selectInitialSeqNum.readOptions tcpseg
    let c ← { c with ackNow := true }.sendSynAck
    let (ok, c) ← c.synText tcpseg
    .ok (if ok then .rcvSyn else .ignore, c)
  else .ok (.ignore, c)

/-- `processSegmentInSynSent` after its tests, for a segment with SYN. -/
def processSynInSynSent (r : Responses) :
    Except ReceiverFault (TCPEventCode × TCPReceiver κ μ) :=
  if seqGreater c.sndUna c.iss then do
    let (ok, c) ← c.synText tcpseg
    if ok then do
      let c ← c.readOptions tcpseg
      let c ← { c with ackNow := true }.acts r.established
      .ok (.rcvSynAck, c)
    else .ok (.ignore, c)
  else do
    let c ← { c with sndMax := c.iss, sndNxt := c.iss }.sendSynAck
    let (ok, c) ← c.synText tcpseg
    .ok (if ok then .rcvSyn else .ignore, c)

/-- `processSegmentInSynSent`. -/
def processSegmentInSynSent (r : Responses) :
    Except ReceiverFault (TCPEventCode × TCPReceiver κ μ) :=
  if tcpseg.ackBit && (seqLE tcpseg.ackNo c.iss || seqGreater tcpseg.ackNo c.sndNxt) then
    .ok (.ignore, if tcpseg.rstBit then c else c.sendRst tcpseg.ackNo)
  else if tcpseg.rstBit then .ok (if tcpseg.ackBit then .rcvRst else .ignore, c)
  else if tcpseg.synBit then
    if tcpseg.ackBit then
      { c.acceptSyn tcpseg with sndUna := tcpseg.ackNo }.processSynInSynSent tcpseg r
    else (c.acceptSyn tcpseg).processSynInSynSent tcpseg r
  else .ok (.ignore, c)

/-- `process_RCV_SEGMENT`. -/
def processRcvSegment (r : Responses) (rounds : ℕ) :
    Except ReceiverFault (TCPEventCode × TCPReceiver κ μ) :=
  if c.fsm = .listen then c.processSegmentInListen tcpseg
  else if c.fsm = .synSent then c.processSegmentInSynSent tcpseg r
  else c.processSegment1stThru8th tcpseg r rounds

end

/-! ### Runs -/

/-- The congestion control classes. -/
inductive TCPAlgorithmClass
  | dumbTCP | tcpNoCongestionControl | tcpTahoe | tcpReno | tcpNewReno
  deriving DecidableEq

/-- The parameters of the `TCP` module that a connection reads. -/
structure Par where
  advertisedWindow : ℤ
  windowScalingSupport : Bool := false
  sackSupport : Bool := false
  timestampSupport : Bool := false
  mss : ℕ := 536
  tcpAlgorithmClass : TCPAlgorithmClass := .tcpReno
  deriving DecidableEq

/-- `configureStateVariables` lets the parameters pass. -/
def Par.Valid (par : Par) : Prop :=
  (par.windowScalingSupport ∨ 0 < par.advertisedWindow ∧ par.advertisedWindow ≤ tcpMaxWin) ∧
    (par.sackSupport → par.tcpAlgorithmClass = .tcpReno)

instance (par : Par) : Decidable par.Valid := inferInstanceAs (Decidable (_ ∧ _))

/-- The state after `initConnection`. -/
def new (par : Par) (receiveQueue : κ) : TCPReceiver κ μ :=
  let rcvWnd :=
    if par.windowScalingSupport ∧ tcpMaxWin < par.advertisedWindow then tcpMaxWin
    else (par.advertisedWindow % 2 ^ 32).toNat
  { baseAlg := par.tcpAlgorithmClass != .dumbTCP
    wsSupport := par.windowScalingSupport
    sackSupport := par.sackSupport
    tsSupport := par.timestampSupport
    maxRcvBuffer := (par.advertisedWindow % 2 ^ 32).toNat
    sndMss := par.mss
    rcvWnd
    rcvAdv := BitVec.ofNat 32 rcvWnd
    receiveQueue }

/-- What happens to a connection: a segment arrives, or a command or a timer lets the sending side
act and has an event of the state machine. -/
inductive Event
  | segment (simTime : ℤ) (tcpseg : TCPSegment) (r : Responses) (rounds : ℕ)
  | actions (simTime : ℤ) (as : List Action) (event : TCPEventCode)
  deriving DecidableEq

/-- `performStateTransition`. -/
def performStateTransition (c : TCPReceiver κ μ) (event : TCPEventCode) : TCPReceiver κ μ :=
  { c with fsm := TCPConnection.nextState c.active c.fsm event }

def step (c : TCPReceiver κ μ) : Event → Except ReceiverFault (TCPReceiver κ μ)
  | .segment simTime tcpseg r rounds => do
    let (event, c) ← { c with simTime }.processRcvSegment tcpseg r rounds
    .ok (c.performStateTransition event)
  | .actions simTime as event => do
    let c ← { c with simTime }.acts as
    .ok (c.performStateTransition event)

/-- The events of commands and timers. -/
def ownEvents : List TCPEventCode :=
  [.ignore, .openActive, .openPassive, .send, .close, .abort, .status, .queueBytesLimit,
    .timeout2MSL, .timeoutConnEstab, .timeoutFinWait2]

/-- Time does not run backwards, and segments arrive at connections that are open. -/
def Admits (c : TCPReceiver κ μ) : Event → Prop
  | .segment simTime _ _ _ => c.simTime ≤ simTime ∧ c.fsm ∉ [TCPState.init, .closed]
  | .actions simTime _ event => c.simTime ≤ simTime ∧ event ∈ ownEvents

instance (c : TCPReceiver κ μ) (e : Event) : Decidable (c.Admits e) := by
  cases e <;> exact inferInstanceAs (Decidable (_ ∧ _))

/-! ### What the steps leave alone -/

variable {c c' : TCPReceiver κ μ} {tcpseg : TCPSegment} {r : Responses} {event : TCPEventCode}
  {flow : Flow} {oldSeqNo : SeqNo}

theorem minor_noteProbe (c : TCPReceiver κ μ) (tcpseg : TCPSegment) :
    Minor c (c.noteProbe tcpseg) := by
  rw [noteProbe]
  split_ifs
  · exact { Minor.refl c with }
  · exact Minor.refl c

theorem minor_reportOutOfOrder (c : TCPReceiver κ μ) (tcpseg : TCPSegment) (old : ℕ) :
    Minor c (c.reportOutOfOrder tcpseg old) := by
  rw [reportOutOfOrder]
  split_ifs
  all_goals exact { Minor.refl c with }

namespace Stable

variable {F : ReceiverFault → Prop} {P : TCPReceiver κ μ → Prop}

variable (hP : Stable F P) (h : P c)
include hP h

theorem rejectSegment (tcpseg : TCPSegment) :
    (c.rejectSegment tcpseg).Ensures F fun p => p.1 = .ignore ∧ P p.2 := by
  rw [TCPReceiver.rejectSegment]
  split_ifs
  · exact ⟨rfl, h⟩
  · have hdup : P { c with
        startSeqno := tcpseg.sequenceNo, endSeqno := tcpseg.endSeq, sndDsack := true } :=
      hP.minor h { Minor.refl c with }
    exact (hP.sendAck hdup).bind fun _ h1 => ⟨rfl, h1⟩
  · exact (hP.sendAck h).bind fun _ h1 => ⟨rfl, h1⟩

theorem processAckInEstabEtc : (c.processAckInEstabEtc tcpseg r).Ensures F fun p => P p.2 := by
  have hadvance : P (c.advanceSndUna tcpseg.ackNo) := hP.minor h { Minor.refl c with }
  rw [TCPReceiver.processAckInEstabEtc]
  split_ifs
  · exact (hP.acts h _).bind fun _ h1 => h1
  · exact h
  · exact (hP.acts hadvance _).bind fun _ h1 => h1
  · exact hadvance
  · exact (hP.acts h _).bind fun _ h1 => h1

theorem afterAck : (c.afterAck tcpseg).Ensures F fun p => P p.2 := by
  rw [TCPReceiver.afterAck]
  by_cases hlast : c.fsm = .lastAck ∧ c.sendFin ∧ tcpseg.ackNo = c.sndFinSeq + 1
  · rw [if_pos hlast]
    exact h
  · rw [if_neg hlast]
    by_cases htime : c.fsm = .timeWait
    · rw [if_pos htime]
      exact (hP.sendAck h).bind fun _ h1 => h1
    · rw [if_neg htime]
      exact h

theorem processAck : (c.processAck tcpseg r).Ensures F fun p => P p.2 := by
  have hgoOn : ∀ p : Bool × TCPReceiver κ μ, P p.2 → Except.Ensures F (fun p => P p.2)
      (if p.1 then p.2.afterAck tcpseg else .ok (.finish .ignore, p.2)) := by
    intro p hp
    split_ifs
    · exact hP.afterAck hp
    · exact hp
  rw [TCPReceiver.processAck]
  split_ifs
  · exact (hP.acts h _).bind fun _ h1 => (hP.processAckInEstabEtc h1).bind hgoOn
  · exact hP.sendToIP h _
  · exact (hP.processAckInEstabEtc h).bind hgoOn
  · exact hP.afterAck h

theorem notifyDataAck : (c.notifyDataAck oldSeqNo r).Ensures F P := by
  rw [TCPReceiver.notifyDataAck]
  split_ifs
  · exact hP.acts h _
  · exact h

theorem seqChanged : (c.seqChanged tcpseg oldSeqNo r).Ensures F P := by
  rw [TCPReceiver.seqChanged]
  split_ifs
  · exact h
  · have hsack : P { c with
        startSeqno := tcpseg.sequenceNo, endSeqno := tcpseg.endSeq, sndSack := true
        ackNow := true } := hP.minor h { Minor.refl c with }
    exact hP.acts hsack _
  · exact hP.acts h _

end Stable

namespace Frame

theorem rejectSegment (h : c.rejectSegment tcpseg = .ok (event, c')) :
    event = .ignore ∧ Frame c c' := ((stable c).rejectSegment (refl c) tcpseg).of_eq_ok h

theorem processRst (h : c.processRst = .ok (event, c')) : event = .rcvRst ∧ c' = c := by
  rw [TCPReceiver.processRst] at h
  split_ifs at h
  cases h
  exact ⟨rfl, rfl⟩

theorem processAckInEstabEtc {ok : Bool} (h : c.processAckInEstabEtc tcpseg r = .ok (ok, c')) :
    Frame c c' := ((stable c).processAckInEstabEtc (refl c)).of_eq_ok h

theorem processAck (h : c.processAck tcpseg r = .ok (flow, c')) : Frame c c' :=
  ((stable c).processAck (refl c)).of_eq_ok h

theorem notifyDataAck (h : c.notifyDataAck oldSeqNo r = .ok c') : Frame c c' :=
  ((stable c).notifyDataAck (refl c)).of_eq_ok h

theorem seqChanged (h : c.seqChanged tcpseg oldSeqNo r = .ok c') : Frame c c' :=
  ((stable c).seqChanged (refl c)).of_eq_ok h

end Frame

end Segments

end TCPReceiver

end Hiwis
