import Hiwis.Tcp.SackQueries

/-!
# Loss recovery with SACK

The functions of `TCPConnectionSackUtil.cc` that a sender uses while it recovers from a loss: which
octets count as lost, how many are in transit, and what is sent next.

* `queries_eq_octets` : what the scoreboard answers, octet by octet, and what is lost.
-/

namespace Hiwis

open List TCPSACKRexmitQueue

/-- `DUPTHRESH`. -/
def dupThresh : ℕ := 3

inductive SackFault
  /-- `ASSERT(state->sack_enabled)`, also with `state->lossRecovery`. -/
  | notEnabled
  /-- `ASSERT(seqGE(seqNum, state->snd_una))`. -/
  | belowHighAck
  /-- An assertion of the retransmission queue. -/
  | queue (f : Fault)
  /-- `ASSERT(options_len < state->snd_mss)`. -/
  | optionsLen
  /-- `ASSERT(seqLE(state->snd_nxt, sentSeqNum + 1))`. -/
  | sentTooFar
  /-- A loop has not come to its end. -/
  | loop
  deriving DecidableEq

/-- The state variables of a connection that its loss recovery reads; `bufferEndSeq` is the end of
its send queue. -/
structure SackSender where
  rexmitQueue : TCPSACKRexmitQueue := {}
  bufferEndSeq : SeqNo := 0
  sackEnabled : Bool := true
  lossRecovery : Bool := true
  afterRto : Bool := false
  sendFin : Bool := false
  sndFinSeq : SeqNo := 0
  sndUna : SeqNo := 0
  sndNxt : SeqNo := 0
  sndMax : SeqNo := 0
  sndWnd : BitVec 32 := 0
  sndMss : BitVec 32 := 536
  highRxt : SeqNo := 0
  pipe : BitVec 32 := 0
  sentBytes : BitVec 32 := 0
  /-- The segments that were sent: first octet and number of octets. -/
  segments : List (SeqNo × BitVec 32) := []
  deriving DecidableEq

namespace SackSender

variable (t : SackSender)

/-- A call of the retransmission queue. -/
def ask {α : Type} (x : Except Fault α) : Except SackFault α := x.mapError .queue

/-- `isLost`. -/
def isLost (seqNum : SeqNo) : Except SackFault Bool :=
  if !t.sackEnabled then .error .notEnabled
  else if !seqGE seqNum t.sndUna then .error .belowHighAck
  else do
    let discontiguous ← ask (t.rexmitQueue.getNumOfDiscontiguousSacks seqNum)
    if dupThresh ≤ discontiguous then .ok true
    else do
      let bytes ← ask (t.rexmitQueue.getAmountOfSackedBytes seqNum)
      .ok (decide (dupThresh * t.sndMss.toNat % 2 ^ 32 ≤ bytes.toNat))

/-! ### The octets in transit -/

/-- The loop of `setPipe`. -/
def pipeFrom (highRxt : SeqNo) : ℕ → SeqNo → Except SackFault (BitVec 32)
  | 0, _ => .error .loop
  | fuel + 1, s1 =>
    if seqLess s1 t.sndMax then do
      let (length, sacked, _) ← ask (t.rexmitQueue.checkSackBlock s1)
      let pipe ← pipeFrom highRxt fuel (s1 + length)
      if !sacked then do
        let lost ← t.isLost s1
        .ok ((if lost then 0 else length) + (if seqLess s1 highRxt then length else 0) + pipe)
      else .ok pipe
    else .ok 0

/-- `setPipe`. -/
def setPipe (fuel : ℕ) : Except SackFault SackSender :=
  if !t.sackEnabled then .error .notEnabled
  else do
    let highRxt := t.rexmitQueue.getHighestRexmittedSeqNum
    let pipe ← t.pipeFrom highRxt fuel t.sndUna
    .ok { t with highRxt, pipe }

/-! ### The next segment -/

/-- The loop of rule (1): the strides go from region to region. -/
def firstLost (highestSackedSeqNum : SeqNo) : ℕ → SeqNo → Except SackFault (Option SeqNo)
  | 0, _ => .error .loop
  | fuel + 1, s2 =>
    if seqLess s2 t.sndMax && seqLess s2 highestSackedSeqNum then do
      let (shift, sacked, _) ← ask (t.rexmitQueue.checkSackBlock s2)
      if !sacked then do
        let lost ← t.isLost s2
        .ok (if lost then some s2 else none)
      else firstLost highestSackedSeqNum fuel (s2 + shift)
    else .ok none

/-- The loop of rule (3). -/
def firstUnsacked (highestSackedSeqNum : SeqNo) : ℕ → SeqNo → Except SackFault (Option SeqNo)
  | 0, _ => .error .loop
  | fuel + 1, s3 =>
    if seqLess s3 t.sndMax && seqLess s3 highestSackedSeqNum then do
      let (shift, sacked, _) ← ask (t.rexmitQueue.checkSackBlock s3)
      if !sacked then .ok (some s3) else firstUnsacked highestSackedSeqNum fuel (s3 + shift)
    else .ok none

/-- `sendQueue->getBytesAvailable`. -/
def bytesAvailable (fromSeq : SeqNo) : BitVec 32 :=
  if seqLess fromSeq t.bufferEndSeq then t.bufferEndSeq - fromSeq else 0

/-- `effectiveWin`, an unsigned difference of 64 bits. -/
def effectiveWin : BitVec 64 := t.sndWnd.setWidth 64 - t.pipe.setWidth 64

/-- `nextSeg`, with a bound for the strides of its loops: the start of the next segment. -/
def nextSeg (fuel : ℕ) : Except SackFault (Option SeqNo × SackSender) :=
  if !t.sackEnabled then .error .notEnabled
  else do
    let t := { t with highRxt := t.rexmitQueue.getHighestRexmittedSeqNum }
    let highestSackedSeqNum := t.rexmitQueue.getHighestSackedSeqNum
    match ← t.firstLost highestSackedSeqNum fuel t.highRxt with
    | some s2 => .ok (some s2, t)
    | none =>
      if 0 < t.bytesAvailable t.sndMax ∧ t.sndMss.setWidth 64 ≤ t.effectiveWin then
        .ok (some t.sndMax, t)
      else do
        let s3 ← t.firstUnsacked highestSackedSeqNum fuel t.highRxt
        .ok (s3, t)

/-! ### Sending during loss recovery -/

/-- `sendSegment`: at most `bytes` octets from `snd_nxt` on, with `options_len` octets of header
options. -/
def sendSegment (bytes optionsLen : BitVec 32) : Except SackFault SackSender := do
  let forward ←
    if t.sackEnabled && t.afterRto then
      ask (t.rexmitQueue.checkRexmitQueueForSackedOrRexmittedSegments t.sndNxt)
    else .ok 0
  let sndNxt := t.sndNxt + forward
  let buffered := t.bytesAvailable sndNxt
  let bytes := if buffered < bytes then buffered else bytes
  if !(optionsLen < t.sndMss) then .error .optionsLen
  else do
    let bytes := if t.sndMss < bytes + optionsLen then t.sndMss - optionsLen else bytes
    let rexmitQueue ←
      if t.sackEnabled then ask (t.rexmitQueue.enqueueSentData sndNxt (sndNxt + bytes))
      else .ok t.rexmitQueue
    let segments := t.segments ++ [(sndNxt, bytes)]
    let sndNxt := sndNxt + bytes
    .ok { t with
      rexmitQueue, segments
      sentBytes := bytes
      afterRto := t.afterRto && !seqGE sndNxt t.sndMax
      sndNxt := if t.sendFin && sndNxt == t.sndFinSeq then t.sndFinSeq + 1 else sndNxt }

/-- `sendSegmentDuringLossRecoveryPhase`. -/
def sendSegmentDuringLossRecoveryPhase (seqNum optionsLen : BitVec 32) :
    Except SackFault SackSender :=
  if !(t.sackEnabled && t.lossRecovery) then .error .notEnabled
  else do
    let t ← { t with sndNxt := seqNum }.sendSegment t.sndMss optionsLen
    let sentSeqNum := seqNum + t.sentBytes
    if !seqLE t.sndNxt (sentSeqNum + 1) then .error .sentTooFar
    else
      .ok { t with
        highRxt :=
          if seqLess seqNum t.sndMax then t.rexmitQueue.getHighestRexmittedSeqNum else t.highRxt
        sndMax := if seqGreater sentSeqNum t.sndMax then sentSeqNum else t.sndMax }

/-- One turn of the loop of `sendDataDuringLossRecoveryPhase`; `none` when the loop ends. -/
def sendDataTurn (congestionWindow : BitVec 32) (optionsLen : BitVec 32) :
    Except SackFault (Option SackSender) :=
  if congestionWindow.toInt - t.pipe.toInt < t.sndMss.toInt then .ok none
  else do
    let (seqNum, t) ← t.nextSeg (t.rexmitQueue.rexmitQueue.length + 1)
    match seqNum with
    | none => .ok none
    | some seqNum => do
      let t ← t.sendSegmentDuringLossRecoveryPhase seqNum optionsLen
      .ok (some { t with pipe := t.pipe + t.sentBytes })

end SackSender

/-! ### What is lost -/

namespace TCPSACKRexmitQueue

/-- The octet counts as lost on the scoreboard. -/
def Scoreboard.lost (B : Scoreboard) (mss : ℕ) (x : SeqNo) : Bool :=
  decide (dupThresh ≤ B.discontiguousAbove x) || decide (dupThresh * mss % 2 ^ 32 ≤ B.sackedAbove x)

variable {q : TCPSACKRexmitQueue} {a c s s' : ℤ}

theorem Spans.countP_lt (h : Spans q a c) (x : SeqNo) (p : Flags → Bool) :
    (q.scoreboard.above x).countP p < 2 ^ 32 := by
  have hlen := h.length_octets
  have hlt := h.lt
  have hdrop : (q.scoreboard.above x).length ≤ q.scoreboard.octets.length := by
    rw [Scoreboard.above, length_drop]
    omega
  have := (q.scoreboard.above x).countP_le_length (p := p)
  omega

/-- From an earlier position on there are more octets. -/
theorem Spans.above_eq (h : Spans q a c) (has : a ≤ s) (hss : s ≤ s') (hsa : s' - a < 2 ^ 32) :
    ∃ l, q.scoreboard.above (pos s) = l ++ q.scoreboard.above (pos s') := by
  have hsplit : (s' - a).toNat = (s - a).toNat + (s' - s).toNat := by omega
  refine ⟨(q.scoreboard.above (pos s)).take (s' - s).toNat, ?_⟩
  have habove : q.scoreboard.above (pos s') =
      (q.scoreboard.above (pos s)).drop (s' - s).toNat := by
    rw [Scoreboard.above, Scoreboard.above, h.index_pos has (by omega),
      h.index_pos (by omega) hsa, drop_drop, hsplit]
  rw [habove, take_append_drop]

theorem Spans.lost_antitone (h : Spans q a c) (mss : ℕ) (has : a ≤ s) (hss : s ≤ s')
    (hsa : s' - a < 2 ^ 32) (hlost : q.scoreboard.lost mss (pos s') = true) :
    q.scoreboard.lost mss (pos s) = true := by
  obtain ⟨l, hl⟩ := h.above_eq has hss hsa
  have hblocks : q.scoreboard.discontiguousAbove (pos s') ≤
      q.scoreboard.discontiguousAbove (pos s) := by
    rw [Scoreboard.discontiguousAbove, Scoreboard.discontiguousAbove, hl]
    exact starts_le_append l _
  have hsacked : q.scoreboard.sackedAbove (pos s') ≤ q.scoreboard.sackedAbove (pos s) := by
    rw [Scoreboard.sackedAbove, Scoreboard.sackedAbove, hl, countP_append]
    omega
  simp only [Scoreboard.lost, Bool.or_eq_true, decide_eq_true_eq] at hlost ⊢
  omega

theorem Spans.isLost (h : Spans q a c) {t : SackSender} (ht : t.rexmitQueue = q)
    (hsack : t.sackEnabled = true) {x : SeqNo} (hx : q.inRange x = true)
    (hge : seqGE x t.sndUna = true) : t.isLost x = .ok (q.scoreboard.lost t.sndMss.toNat x) := by
  obtain ⟨s, rfl, has, hsc, hsa, hcs⟩ := h.exists_of_inRange hx
  have hcount := h.countP_lt (pos s) Flags.sacked
  rw [SackSender.isLost, hsack, hge, ht, h.discontiguous has hsc hsa hcs hx,
    h.sackedAbove has hsc hsa hcs hx, Scoreboard.lost]
  simp only [Bool.not_true, Bool.false_eq_true, if_false, SackSender.ask, Except.mapError,
    Except.ok_bind, BitVec.toNat_ofNat]
  rw [Nat.mod_eq_of_lt (show q.scoreboard.sackedAbove (pos s) < 2 ^ 32 from hcount)]
  by_cases hd : dupThresh ≤ q.scoreboard.discontiguousAbove (pos s) <;> simp [hd]

/-- A result of `isLost` shows that the assertions hold. -/
theorem asserted_of_isLost {t : SackSender} {x : SeqNo} {b : Bool} (h : t.isLost x = .ok b) :
    t.sackEnabled = true ∧ seqGE x t.sndUna = true ∧ t.rexmitQueue.inRange x = true := by
  unfold SackSender.isLost at h
  cases hsack : t.sackEnabled
  · simp [hsack] at h
  cases hge : seqGE x t.sndUna
  · simp [hsack, hge] at h
  cases hr : t.rexmitQueue.inRange x
  · simp [hsack, hge, getNumOfDiscontiguousSacks, hr, SackSender.ask, Except.mapError] at h
  · exact ⟨rfl, rfl, rfl⟩

/-- Every function that looks up or counts octets finds what its definition octet by octet says, and
stops exactly at arguments outside of the queue; and below an octet that is lost all octets of the
queue are lost. -/
theorem queries_eq_octets (hq : q.WellFormed) :
    q.getHighestSackedSeqNum = q.scoreboard.highest Flags.sacked ∧
    q.getHighestRexmittedSeqNum = q.scoreboard.highest Flags.rexmitted ∧
    q.getTotalAmountOfSackedBytes.toNat = q.scoreboard.sackedTotal ∧
    (∀ x, q.inRange x = true →
      (q.checkRexmitQueueForSackedOrRexmittedSegments x).map BitVec.toNat =
          .ok (q.scoreboard.sackedOrRexmitted x) ∧
        (q.getAmountOfSackedBytes x).map BitVec.toNat = .ok (q.scoreboard.sackedAbove x) ∧
        q.getNumOfDiscontiguousSacks x = .ok (q.scoreboard.discontiguousAbove x)) ∧
    (∀ x, q.inRange x = false →
      q.checkRexmitQueueForSackedOrRexmittedSegments x = .error .rexmitRange ∧
        q.getAmountOfSackedBytes x = .error .rexmitRange ∧
        q.getNumOfDiscontiguousSacks x = .error .rexmitRange) ∧
    ∀ (t : SackSender), t.rexmitQueue = q → ∀ x y, t.isLost y = .ok true →
      q.inRange x = true → seqGE x t.sndUna = true → seqLE x y = true → t.isLost x = .ok true := by
  obtain ⟨a, c, h⟩ := hq.exists_spans
  refine ⟨h.getHighest fun _ => rfl, h.getHighest fun _ => rfl, ?_, fun x hx => ?_,
    fun x hx => ?_, fun t ht x y hy hx hge hxy => ?_⟩
  · have hlt := h.lt
    have hlen := h.length_octets
    have := q.scoreboard.octets.countP_le_length (p := Flags.sacked)
    rw [getTotalAmountOfSackedBytes, sackedBytes_eq, BitVec.toNat_ofNat]
    exact Nat.mod_eq_of_lt (show q.scoreboard.octets.countP Flags.sacked < 2 ^ 32 by omega)
  · obtain ⟨s, rfl, has, hsc, hsa, hcs⟩ := h.exists_of_inRange hx
    have hcount := h.countP_lt (pos s) Flags.sacked
    have htake : q.scoreboard.sackedOrRexmitted (pos s) < 2 ^ 32 := by
      have hle := ((q.scoreboard.above (pos s)).takeWhile_sublist
        fun o => o.sacked || o.rexmitted).length_le
      have hall := h.countP_lt (pos s) fun _ => true
      rw [countP_true] at hall
      exact hle.trans_lt hall
    refine ⟨?_, ?_, h.discontiguous has hsc hsa hcs hx⟩
    · rw [h.sackedOrRexmitted has hsc hsa hcs hx, Except.map, BitVec.toNat_ofNat,
        Nat.mod_eq_of_lt htake]
    · rw [h.sackedAbove has hsc hsa hcs hx, Except.map, BitVec.toNat_ofNat]
      rw [Nat.mod_eq_of_lt (show q.scoreboard.sackedAbove (pos s) < 2 ^ 32 from hcount)]
  · simp [checkRexmitQueueForSackedOrRexmittedSegments, getAmountOfSackedBytes,
      getNumOfDiscontiguousSacks, hx]
  · obtain ⟨hsack, hge', hy'⟩ := asserted_of_isLost hy
    rw [ht] at hy'
    rw [h.isLost ht hsack hy' hge', Except.ok.injEq] at hy
    rw [h.isLost ht hsack hx hge]
    obtain ⟨s, rfl, has, hsc, hsa, hcs⟩ := h.exists_of_inRange hx
    obtain ⟨s', rfl, has', hsc', hsa', hcs'⟩ := h.exists_of_inRange hy'
    rw [seqLE_pos (by omega) (by omega), decide_eq_true_eq] at hxy
    rw [h.lost_antitone t.sndMss.toNat has hxy (by omega) hy]

theorem queries_eq_octets_three : ∃ q : TCPSACKRexmitQueue,
    q.rexmitQueue.length = 3 ∧ q.getHighestSackedSeqNum = 2 ∧
      (q.getAmountOfSackedBytes (-1)).map BitVec.toNat = .ok 3 := by
  let q : TCPSACKRexmitQueue :=
    ⟨[⟨-5, -3, false, true⟩, ⟨-3, 2, true, false⟩, ⟨2, 7, false, false⟩], -5, 7⟩
  have hq : q.WellFormed := ⟨by decide, by decide⟩
  obtain ⟨hsacked, -, -, hin, -⟩ := queries_eq_octets hq
  obtain ⟨-, hamount, -⟩ := hin (-1) (by decide)
  exact ⟨q, rfl, hsacked.trans (by decide), hamount.trans (by decide)⟩

end TCPSACKRexmitQueue

end Hiwis
