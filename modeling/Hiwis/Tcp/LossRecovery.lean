import Hiwis.Tcp.NextSeg

/-!
# The send window in loss recovery

The sender of a connection as a system: the application writes and closes, segments are sent, ACKs
and SACKs arrive, the retransmission timer expires, and a loss recovery sends what
`TCPConnection::nextSeg` selects.  In every state that is reached the scoreboard stores the octets
from `snd_una` to `snd_max` (`Inv`).

Rule (2) of `nextSeg` compares the window with `pipe`, and `pipe` does not count the octets that are
sacked or lost.

* `consistent_after_run` : every state that is reached is `Consistent`;
* `newData_in_window_iff` : the new octets of a turn of `sendDataDuringLossRecoveryPhase` lie in the
  window exactly when they do so by the comparison of `TCPConnection::sendData`.
-/

namespace Hiwis

open List BitVec Except Trace Serial

open TCPSACKRexmitQueue

namespace SackSender

inductive Event
  /-- The application writes octets. -/
  | write (bytes : BitVec 32)
  /-- The application closes the connection. -/
  | close
  /-- A segment is sent from the given octet on: new data, a probe or a retransmission. -/
  | send (seqNum : SeqNo) (bytes optionsLen : BitVec 32)
  /-- An ACK of new data. -/
  | ack (ackNo : SeqNo) (window : BitVec 32)
  /-- A block of a SACK option. -/
  | sack (first last : SeqNo)
  | setPipe
  /-- The retransmission timer expires. -/
  | timeout
  /-- The loss recovery begins or ends. -/
  | setLossRecovery (lossRecovery : Bool)
  /-- One turn of `sendDataDuringLossRecoveryPhase`. -/
  | recover (congestionWindow optionsLen : BitVec 32)
  deriving DecidableEq

/-- The sender after the SYN with the sequence number `iss` was acknowledged. -/
def established (iss : SeqNo) (sndMss sndWnd : BitVec 32) : SackSender where
  rexmitQueue := ({} : TCPSACKRexmitQueue).init (iss + 1)
  bufferEndSeq := iss + 1
  lossRecovery := false
  sndUna := iss + 1
  sndNxt := iss + 1
  sndMax := iss + 1
  sndMss := sndMss
  sndWnd := sndWnd

def step (t : SackSender) : Event → Except SackFault SackSender
  | .write bytes => .ok { t with bufferEndSeq := t.bufferEndSeq + bytes }
  | .close => .ok { t with sendFin := true, sndFinSeq := t.bufferEndSeq }
  | .send seqNum bytes optionsLen => do
    let t ← { t with sndNxt := seqNum }.sendSegment bytes optionsLen
    .ok { t with sndMax := if seqGreater t.sndNxt t.sndMax then t.sndNxt else t.sndMax }
  | .ack ackNo window => do
    -- the FIN is not in the queue
    let discardUpToSeq := if t.sendFin && ackNo == t.sndFinSeq + 1 then ackNo - 1 else ackNo
    let rexmitQueue ← ask (t.rexmitQueue.discardUpTo discardUpToSeq)
    .ok { t with
      rexmitQueue
      sndUna := ackNo
      sndNxt := if seqLess t.sndNxt ackNo then ackNo else t.sndNxt
      sndWnd := window }
  | .sack first last => do
    let rexmitQueue ← ask (t.rexmitQueue.setSackedBit first last)
    .ok { t with rexmitQueue }
  | .setPipe => t.setPipe (t.rexmitQueue.rexmitQueue.length + 1)
  | .timeout =>
    .ok { t with
      rexmitQueue := t.rexmitQueue.resetSackedBit.resetRexmittedBit
      lossRecovery := false
      afterRto := true
      sndNxt := t.sndUna }
  | .setLossRecovery lossRecovery => .ok { t with lossRecovery }
  | .recover congestionWindow optionsLen => do
    match ← t.sendDataTurn congestionWindow optionsLen with
    | some t => .ok t
    | none => .ok t

/-- What an event needs: the send queue stores fewer octets than half of the sequence numbers, and
nothing is written after the close; an ACK is for octets that were sent; a SACK block meets the
assertions of the scoreboard. -/
def Admits (t : SackSender) : Event → Prop
  | .write bytes =>
    t.sendFin = false ∧ (t.bufferEndSeq - t.rexmitQueue.beginSeq).toNat + bytes.toNat < 2 ^ 31 - 1
  | .close => t.sendFin = false
  | .ack ackNo _ => seqLess t.sndUna ackNo = true ∧ seqLE ackNo t.sndMax = true
  | .sack first last => t.rexmitQueue.Asserted (.setSackedBit first last)
  | _ => True

instance (t : SackSender) : DecidablePred t.Admits
  | .write bytes => inferInstanceAs (Decidable (t.sendFin = false ∧
      (t.bufferEndSeq - t.rexmitQueue.beginSeq).toNat + bytes.toNat < 2 ^ 31 - 1))
  | .close => inferInstanceAs (Decidable (t.sendFin = false))
  | .ack ackNo _ =>
    inferInstanceAs (Decidable (seqLess t.sndUna ackNo = true ∧ seqLE ackNo t.sndMax = true))
  | .sack first last =>
    inferInstanceAs (Decidable (t.rexmitQueue.Asserted (.setSackedBit first last)))
  | .send _ _ _ | .setPipe | .timeout | .setLossRecovery _ | .recover _ _ => isTrue trivial

variable {t t' : SackSender} {bytes optionsLen : BitVec 32}

/-! ### One segment -/

theorem ask_eq_ok {α : Type} {x : Except Fault α} {r : α} (h : ask x = .ok r) : x = .ok r := by
  cases x with
  | error e => cases h
  | ok r' => rw [ask, Except.mapError, Except.ok.injEq] at h; rw [h]

/-- The number of octets of a segment from `seqNum` on. -/
def segmentLength (t : SackSender) (seqNum : SeqNo) (bytes optionsLen : BitVec 32) : BitVec 32 :=
  let buffered := t.bytesAvailable seqNum
  let bytes := if buffered < bytes then buffered else bytes
  if t.sndMss < bytes + optionsLen then t.sndMss - optionsLen else bytes

/-- How far `snd_nxt` is moved forward after a timeout. -/
def forward (t : SackSender) : Except SackFault (BitVec 32) :=
  if t.sackEnabled && t.afterRto then
    ask (t.rexmitQueue.checkRexmitQueueForSackedOrRexmittedSegments t.sndNxt)
  else .ok 0

/-- The state after a segment. -/
def afterSegment (t : SackSender) (q : TCPSACKRexmitQueue) (seqNum : SeqNo) (len : BitVec 32) :
    SackSender :=
  { t with
    rexmitQueue := q
    segments := t.segments ++ [(seqNum, len)]
    sentBytes := len
    afterRto := t.afterRto && !seqGE (seqNum + len) t.sndMax
    sndNxt := if t.sendFin && seqNum + len == t.sndFinSeq then t.sndFinSeq + 1 else seqNum + len }

theorem sendSegment_eq (hsack : t.sackEnabled = true) :
    t.sendSegment bytes optionsLen = t.forward.bind fun forward =>
      let seqNum := t.sndNxt + forward
      let len := t.segmentLength seqNum bytes optionsLen
      if !(optionsLen < t.sndMss) then .error .optionsLen
      else (ask (t.rexmitQueue.enqueueSentData seqNum (seqNum + len))).bind fun q =>
        .ok (t.afterSegment q seqNum len) := by
  obtain ⟨q, e, sack, lossRecovery, afterRto, sendFin, fin, una, nxt, max, wnd, mss, rxt, pipe, sent,
    segments⟩ := t
  obtain rfl : sack = true := hsack
  cases afterRto with
  | false => rfl
  | true => rfl

variable {x : SeqNo}

theorem segmentLength_le (hopt : optionsLen < t.sndMss) :
    (t.segmentLength x bytes optionsLen).toNat ≤ (t.bytesAvailable x).toNat := by
  rw [lt_def] at hopt
  have hmss := t.sndMss.isLt
  rw [segmentLength]
  generalize t.bytesAvailable x = buffered
  have hle : (if buffered < bytes then buffered else bytes).toNat ≤ buffered.toNat := by
    split_ifs with hb
    · exact le_rfl
    · rw [lt_def] at hb
      omega
  generalize (if buffered < bytes then buffered else bytes) = b at hle ⊢
  split_ifs with hb
  · -- the options take their octets from the data
    rw [lt_def, toNat_add] at hb
    rw [toNat_sub]
    omega
  · exact hle

/-! ### The invariant -/

/-- The queue stores the octets at the positions from `a` to `c`, `snd_max` is at `M` and the end of
the send queue at `B`; a FIN comes after the last octet that was written. -/
structure Inv (t : SackSender) (a c M B : ℤ) : Prop where
  enabled : t.sackEnabled = true
  spans : Spans t.rexmitQueue a c
  una : t.sndUna = pos a ∨ (t.sendFin = true ∧ B = a ∧ M = a + 1 ∧ t.sndUna = pos (a + 1))
  sndMax : t.sndMax = pos M
  buffer : t.bufferEndSeq = pos B
  sent : c ≤ M
  stored : c ≤ B
  fin : M ≤ B ∨ (t.sendFin = true ∧ M = B + 1)
  finSeq : t.sendFin = true → t.sndFinSeq = pos B
  size : B - a < 2 ^ 31 - 1

variable {a c M B s : ℤ} {q : TCPSACKRexmitQueue}

theorem Inv.sndMax_le (h : Inv t a c M B) : M ≤ B + 1 := by
  obtain hM | ⟨-, rfl⟩ := h.fin
  · omega
  · exact le_rfl

theorem Inv.consistent (h : Inv t a c M B) : t.Consistent := by
  have hac := h.spans.le
  have hsent := h.sent
  have hstored := h.stored
  have hsize := h.size
  have hM := h.sndMax_le
  refine ⟨h.spans.wellFormed, h.enabled, fun hne => ?_, ?_, ?_, ?_⟩
  · obtain huna | ⟨-, hB, -, -⟩ := h.una
    · rw [huna, h.spans.beginSeq_eq]
    · -- the FIN was acknowledged, so that nothing is stored
      exact absurd (h.spans.tiles.eq_nil (by omega)) hne
  · rw [h.spans.beginSeq_eq, h.spans.endSeq_eq, seqLE_pos (by omega) (by omega)]
    simpa using hac
  · rw [h.spans.endSeq_eq, h.sndMax, seqLE_pos (by omega) (by omega)]
    simpa using hsent
  · rw [h.spans.beginSeq_eq, h.sndMax, seqLE_pos (by omega) (by omega)]
    simp only [decide_eq_true_eq]
    omega

theorem Inv.bytesAvailable (h : Inv t a c M B) (has : a ≤ s) (hsB : s ≤ B) :
    ((t.bytesAvailable (pos s)).toNat : ℤ) = B - s := by
  have hsize := h.size
  rw [SackSender.bytesAvailable, h.buffer, seqLess_pos (by omega) (by omega)]
  obtain rfl | hlt := hsB.eq_or_lt
  · simp
  · rw [decide_eq_true hlt, if_pos rfl, dist_pos (by omega) (by omega)]
    omega

variable {q' : TCPSACKRexmitQueue}

/-- What an accepted call of `enqueueSentData` shows about its arguments. -/
theorem exists_of_enqueueSentData {x y : SeqNo} (hq : Spans q a c)
    (h : q.enqueueSentData x y = .ok q') : seqLess x y = true ∧
      ∃ s, x = pos s ∧ a ≤ s ∧ s ≤ c ∧ s - a < 2 ^ 31 ∧ c - s < 2 ^ 31 := by
  cases hr : q.inRange x with
  | false =>
    rw [inRange] at hr
    rw [enqueueSentData, hr] at h
    cases h
  | true =>
    refine ⟨?_, hq.exists_of_inRange hr⟩
    cases hxy : seqLess x y with
    | true => rfl
    | false =>
      rw [inRange] at hr
      rw [enqueueSentData, hr, hxy] at h
      cases h

theorem pos_add (s : ℤ) (len : BitVec 32) : pos s + len = pos (s + (len.toNat : ℤ)) := by
  have h := wrap_add_ofNat (w := 32) s len.toNat
  rwa [ofNat_toNat, setWidth_eq] at h

/-- A segment that is sent begins at a stored octet or at the end of the queue, and it has an octet
at least. -/
theorem Inv.segment (h : Inv t a c M B) (hok : t.sendSegment bytes optionsLen = .ok t') :
    ∃ forward s q n, t.forward = .ok forward ∧ t.sndNxt + forward = pos s ∧ a ≤ s ∧ s ≤ c ∧
      0 < n ∧ s + n ≤ B ∧ ((t.segmentLength (pos s) bytes optionsLen).toNat : ℤ) = n ∧
      Spans q a (max c (s + n)) ∧
      t' = t.afterSegment q (pos s) (t.segmentLength (pos s) bytes optionsLen) := by
  have hac := h.spans.le
  have hsize := h.size
  have hstored := h.stored
  rw [sendSegment_eq h.enabled] at hok
  obtain ⟨forward, hforward, hok⟩ := bind_eq_ok.1 hok
  dsimp only at hok
  rw [ite_error_eq_ok] at hok
  obtain ⟨hopt, hok⟩ := hok
  obtain ⟨q, hq, hok⟩ := bind_eq_ok.1 hok
  obtain ⟨hless, s, hs, has, hsc, hsa, hcs⟩ := exists_of_enqueueSentData h.spans (ask_eq_ok hq)
  rw [hs] at hless hq hok
  have hlen : (t.segmentLength (pos s) bytes optionsLen).toNat ≤ (t.bytesAvailable (pos s)).toNat :=
    t.segmentLength_le (by simpa using hopt)
  have hbuf := h.bytesAvailable has (hsc.trans hstored)
  generalize hn : t.segmentLength (pos s) bytes optionsLen = len at hless hq hok hlen ⊢
  have hend := pos_add s len
  rw [hend, seqLess_pos (by omega) (by omega), decide_eq_true_eq] at hless
  obtain ⟨q', hq', hspans, -⟩ :=
    h.spans.enqueueSentData has hsc hsa hcs hless (show s + (len.toNat : ℤ) - s < 2 ^ 31 by omega)
  obtain rfl : q = q' := by
    have := ask_eq_ok hq
    rw [hend, hq'] at this
    exact (Except.ok.inj this).symm
  subst hn
  exact ⟨forward, s, q, _, hforward, hs, has, hsc, by omega, by omega, rfl, hspans,
    (Except.ok.inj hok).symm⟩

/-- What is stored grows with a segment, and `snd_max` with it. -/
theorem Inv.grow (h : Inv t a c M B) {n M' : ℤ} (has : a ≤ s) (hn : 0 < n) (hsB : s + n ≤ B)
    (hq : Spans t'.rexmitQueue a (max c (s + n))) (hmax : t'.sndMax = pos M')
    (hM' : max M (s + n) ≤ M') (hfin : M' ≤ B ∨ (t.sendFin = true ∧ M' = B + 1))
    (heq : t'.sackEnabled = t.sackEnabled ∧ t'.sndUna = t.sndUna ∧
      t'.bufferEndSeq = t.bufferEndSeq ∧ t'.sendFin = t.sendFin ∧ t'.sndFinSeq = t.sndFinSeq) :
    Inv t' a (max c (s + n)) M' B := by
  obtain ⟨hsack, huna, hbuf, hsend, hseq⟩ := heq
  have hsent := h.sent
  have hstored := h.stored
  refine ⟨hsack.trans h.enabled, hq, .inl ?_, hmax, hbuf.trans h.buffer, ?_, by omega, ?_,
    fun hfin => ?_, h.size⟩
  · obtain huna' | ⟨-, hB, -, -⟩ := h.una
    · exact huna.trans huna'
    · omega
  · exact (max_le_max_right _ hsent).trans hM'
  · rwa [hsend]
  · rw [hseq]
    exact h.finSeq (hsend.symm.trans hfin)

/-! ### A turn of the loss recovery -/

/-- A candidate is neither sacked nor retransmitted. -/
theorem exists_of_mem_candidates (hq : Spans q a c) (hx : x ∈ q.scoreboard.candidates) :
    ∃ s, x = pos s ∧ a ≤ s ∧ s < c ∧ q.scoreboard.sackedOrRexmitted (pos s) = 0 := by
  have hlt := hq.lt
  have hend := sackedEnd_le hq
  obtain ⟨k, hk, rfl⟩ := mem_map.1 hx
  obtain ⟨hrange, hun⟩ := mem_filter.1 hk
  rw [mem_range'_1] at hrange
  refine ⟨a + k, ?_, by omega, by omega, ?_⟩
  · rw [show q.scoreboard.beginSeq = q.beginSeq from rfl, hq.beginSeq_eq, wrap_add_ofNat]
  · obtain ⟨o, ho, hsacked⟩ := (Option.any_eq_true _ _).1 hun
    have hrexmitted : o.rexmitted = false := by
      cases hr : o.rexmitted with
      | false => rfl
      | true =>
        have hlast := length_rdropWhile_of_getElem? (p := fun o => !o.rexmitted) ho (by simp [hr])
        have : k < q.scoreboard.rexmittedEnd := hlast
        omega
    have habove : q.scoreboard.above (pos (a + k)) = o :: q.scoreboard.octets.drop (k + 1) := by
      rw [Scoreboard.above, hq.index_pos (by omega) (by omega), add_sub_cancel_left,
        Int.toNat_natCast, drop_eq_getElem?_toList_append, ho]
      rfl
    have hneither : (o.sacked || o.rexmitted) = false := by simp_all
    rw [Scoreboard.sackedOrRexmitted, habove, takeWhile_cons_of_neg (by simp [hneither])]
    rfl

/-- What is selected is a candidate or new data. -/
theorem of_nextSeg (ht : t.Consistent)
    (h : t.nextSeg (t.rexmitQueue.rexmitQueue.length + 1) = .ok (some x, t')) :
    t' = { t with highRxt := t.rexmitQueue.getHighestRexmittedSeqNum } ∧
      (x ∈ t.rexmitQueue.scoreboard.candidates ∨ x = t.sndMax) := by
  rw [nextSeg_eq ht (Nat.lt_succ_self _), Except.ok.injEq, Prod.mk.injEq] at h
  refine ⟨h.2.symm, ?_⟩
  obtain ⟨h, -⟩ := h
  cases hfind : t.rexmitQueue.scoreboard.candidates.find?
      (t.rexmitQueue.scoreboard.lost t.sndMss.toNat) with
  | some s2 =>
    rw [hfind] at h
    cases h
    exact .inl (mem_of_find?_eq_some hfind)
  | none =>
    rw [hfind] at h
    dsimp only at h
    split_ifs at h
    · exact .inr (Option.some.inj h).symm
    · exact .inl (mem_of_mem_head? h)

/-- What is selected was not sent again, so that a segment begins there also after a timeout. -/
theorem Inv.forward_eq (h : Inv t a c M B) {forward : BitVec 32}
    (hx : x ∈ t.rexmitQueue.scoreboard.candidates ∨ x = t.sndMax) (hnxt : t.sndNxt = x)
    (hforward : t.forward = .ok forward) : forward = 0 := by
  rw [SackSender.forward, h.enabled, hnxt] at hforward
  cases hrto : t.afterRto with
  | false =>
    rw [hrto] at hforward
    exact (Except.ok.inj hforward).symm
  | true =>
    rw [hrto, Bool.and_true, if_pos rfl] at hforward
    have hcheck := ask_eq_ok hforward
    cases hr : t.rexmitQueue.inRange x with
    | false =>
      rw [checkRexmitQueueForSackedOrRexmittedSegments, hr] at hcheck
      cases hcheck
    | true =>
      obtain ⟨s, rfl, has, hsc, hsa, hcs⟩ := h.spans.exists_of_inRange hr
      have hsent := h.sent
      have hM := h.sndMax_le
      have hsize := h.size
      have hzero : t.rexmitQueue.scoreboard.sackedOrRexmitted (pos s) = 0 := by
        obtain hx | hx := hx
        · obtain ⟨s', hs', -, -, hzero⟩ := exists_of_mem_candidates h.spans hx
          rwa [hs']
        · -- at `snd_max` nothing is stored
          obtain rfl : s = c := by
            rw [h.sndMax, pos_inj (by omega) (by omega)] at hx
            omega
          rw [Scoreboard.sackedOrRexmitted, Scoreboard.above, h.spans.index_pos has (by omega),
            drop_eq_nil_of_le (by rw [h.spans.length_octets])]
          rfl
      rw [h.spans.sackedOrRexmitted has hsc hsa hcs hr, hzero] at hcheck
      exact (Except.ok.inj hcheck).symm

/-- A turn sends one segment, from a candidate or from `snd_max` on. -/
theorem Inv.turn (h : Inv t a c M B) {congestionWindow : BitVec 32}
    (hok : t.sendDataTurn congestionWindow optionsLen = .ok (some t')) :
    ∃ s n, a ≤ s ∧ s ≤ c ∧ (s < c ∨ s = M) ∧ 0 < n ∧ s + n ≤ B ∧
      ((t.segmentLength (pos s) t.sndMss optionsLen).toNat : ℤ) = n ∧
      t'.segments = t.segments ++ [(pos s, t.segmentLength (pos s) t.sndMss optionsLen)] ∧
      Inv t' a (max c (s + n)) (max M (s + n)) B := by
  rw [sendDataTurn] at hok
  split_ifs at hok
  · cases Except.ok.inj hok
  obtain ⟨⟨found, t1⟩, hnext, hok⟩ := bind_eq_ok.1 hok
  dsimp only at hok
  cases found with
  | none => cases Except.ok.inj hok
  | some x =>
    obtain ⟨t2, hsend, hok⟩ := bind_eq_ok.1 hok
    cases Except.ok.inj hok
    obtain ⟨rfl, hx⟩ := of_nextSeg h.consistent hnext
    rw [sendSegmentDuringLossRecoveryPhase, ite_error_eq_ok] at hsend
    obtain ⟨-, hsend⟩ := hsend
    obtain ⟨t3, hseg, hsend⟩ := bind_eq_ok.1 hsend
    rw [ite_error_eq_ok] at hsend
    obtain ⟨-, hsend⟩ := hsend
    cases hsend
    have h1 : Inv { t with highRxt := t.rexmitQueue.getHighestRexmittedSeqNum, sndNxt := x }
        a c M B := { h with }
    obtain ⟨forward, s, q, n, hforward, hs, has, hsc, hn, hsB, hlen, hspans, rfl⟩ := h1.segment hseg
    obtain rfl := h1.forward_eq hx rfl hforward
    replace hlen : ((t.segmentLength (pos s) t.sndMss optionsLen).toNat : ℤ) = n := hlen
    have hxs : x = pos s := by simpa using hs
    have hsent := h.sent
    have hM := h.sndMax_le
    have hsize := h.size
    have hstart : s < c ∨ s = M := by
      obtain hx | hx := hx
      · obtain ⟨s', hs', has', hsc', -⟩ := exists_of_mem_candidates h.spans hx
        rw [hxs, pos_inj (by omega) (by omega)] at hs'
        omega
      · rw [hxs, h.sndMax, pos_inj (by omega) (by omega)] at hx
        exact .inr hx
    refine ⟨s, n, has, hsc, hstart, hn, hsB, hlen, rfl,
      h.grow has hn hsB hspans ?_ le_rfl ?_ ⟨rfl, rfl, rfl, rfl, rfl⟩⟩
    · -- (C.3)
      have hend : x + t.segmentLength (pos s) t.sndMss optionsLen = pos (s + n) := by
        rw [hxs, pos_add, hlen]
      change (if seqGreater (x + t.segmentLength (pos s) t.sndMss optionsLen) t.sndMax then
        x + t.segmentLength (pos s) t.sndMss optionsLen else t.sndMax) = _
      rw [hend, h.sndMax, seqGreater_pos (by omega) (by omega)]
      by_cases hgt : M < s + n
      · simp [hgt, hgt.le]
      · simp [hgt, not_lt.1 hgt]
    · obtain hfin | ⟨hfin, hMB⟩ := h.fin
      · exact .inl (by omega)
      · exact .inr ⟨hfin, by omega⟩

/-! ### Runs -/

theorem Inv.send (h : Inv t a c M B) {seqNum : SeqNo}
    (hok : t.step (.send seqNum bytes optionsLen) = .ok t') : ∃ c' M', Inv t' a c' M' B := by
  obtain ⟨t1, hseg, hok⟩ := bind_eq_ok.1 hok
  cases hok
  have h1 : Inv { t with sndNxt := seqNum } a c M B := { h with }
  obtain ⟨forward, s, q, n, -, -, has, hsc, hn, hsB, hlen, hspans, rfl⟩ := h1.segment hseg
  have hM := h.sndMax_le
  have hsent := h.sent
  have hsize := h.size
  have hend : pos s + t.segmentLength (pos s) bytes optionsLen = pos (s + n) := by
    rw [pos_add]
    exact congrArg (fun k => pos (s + k)) hlen
  -- `snd_nxt` is past the FIN if the segment has one
  obtain ⟨N, hN, hnN, hNB⟩ : ∃ N,
      (if t.sendFin && pos s + t.segmentLength (pos s) bytes optionsLen == t.sndFinSeq then
        t.sndFinSeq + 1 else pos s + t.segmentLength (pos s) bytes optionsLen) = pos N ∧
      s + n ≤ N ∧ (N ≤ B ∨ (t.sendFin = true ∧ N = B + 1)) := by
    rw [hend]
    split_ifs with hfin
    · obtain ⟨hfin, -⟩ := Bool.and_eq_true_iff.1 hfin
      refine ⟨B + 1, ?_, by omega, .inr ⟨hfin, rfl⟩⟩
      rw [h.finSeq hfin]
      exact pos_add B 1
    · exact ⟨s + n, rfl, le_rfl, .inl hsB⟩
  refine ⟨_, max M N, h.grow has hn hsB hspans ?_ (by omega) ?_ ⟨rfl, rfl, rfl, rfl, rfl⟩⟩
  · change (if seqGreater (if t.sendFin &&
        pos s + t.segmentLength (pos s) bytes optionsLen == t.sndFinSeq then
        t.sndFinSeq + 1 else pos s + t.segmentLength (pos s) bytes optionsLen) t.sndMax then
        (if t.sendFin && pos s + t.segmentLength (pos s) bytes optionsLen == t.sndFinSeq then
        t.sndFinSeq + 1 else pos s + t.segmentLength (pos s) bytes optionsLen) else t.sndMax) = _
    rw [hN, h.sndMax, seqGreater_pos (by omega) (by omega)]
    by_cases hgt : M < N
    · simp [hgt, hgt.le]
    · simp [hgt, not_lt.1 hgt]
  · obtain hfin | ⟨hfin, hMB⟩ := h.fin
    · obtain hN | ⟨hfin, hN⟩ := hNB
      · exact .inl (by omega)
      · exact .inr ⟨hfin, by omega⟩
    · exact .inr ⟨hfin, by omega⟩

theorem inRange_of_discardUpTo (h : q.discardUpTo x = .ok q') : q.inRange x = true := by
  cases hr : q.inRange x with
  | false =>
    rw [inRange] at hr
    rw [discardUpTo, hr] at h
    cases h
  | true => rfl

/-- An ACK discards what it acknowledges. -/
theorem Inv.ack (h : Inv t a c M B) {ackNo : SeqNo} {window : BitVec 32}
    (hadm : t.Admits (.ack ackNo window)) (hok : t.step (.ack ackNo window) = .ok t') :
    ∃ a' c', Inv t' a' c' M B := by
  obtain ⟨hless, hle⟩ := hadm
  unfold SackSender.step at hok
  obtain ⟨q, hq, hok⟩ := bind_eq_ok.1 hok
  cases hok
  replace hq := ask_eq_ok hq
  have hM := h.sndMax_le
  have hsent := h.sent
  have hstored := h.stored
  have hsize := h.size
  have hac := h.spans.le
  rw [h.sndMax] at hle
  obtain huna | ⟨hfin, hB, hMa, huna⟩ := h.una
  · rw [huna] at hless
    obtain ⟨n, rfl, han, hna⟩ := exists_pos_of_seqGE (seqLE_of_seqLess hless)
    rw [seqLess_pos (by omega) (by omega), decide_eq_true_eq] at hless
    rw [seqLE_pos (by omega) (by omega), decide_eq_true_eq] at hle
    cases hfin : t.sendFin && pos n == t.sndFinSeq + 1 with
    | true =>
      rw [hfin, if_pos rfl] at hq
      obtain ⟨hsend, hn⟩ := Bool.and_eq_true_iff.1 hfin
      have hfinSeq : t.sndFinSeq + 1 = pos (B + 1) := by
        rw [h.finSeq hsend]
        exact pos_add B 1
      rw [beq_iff_eq, hfinSeq, pos_inj (by omega) (by omega)] at hn
      obtain rfl : n = B + 1 := hn
      have hone : pos (B + 1) - 1 = pos B := by
        have h1 := wrap_sub_ofNat (w := 32) (B + 1) 1
        rwa [Nat.cast_one, add_sub_cancel_right] at h1
      rw [hone] at hq
      obtain ⟨s, hs, has, hsc, -⟩ := h.spans.exists_of_inRange (inRange_of_discardUpTo hq)
      rw [pos_inj (by omega) (by omega)] at hs
      obtain rfl : B = c := by omega
      obtain ⟨q', hq', hspans, -⟩ :=
        h.spans.discardUpTo (s := B) (by omega) le_rfl (by omega) (by omega)
      cases hq.symm.trans hq'
      exact ⟨B, B, h.enabled, hspans, .inr ⟨hsend, rfl, by omega, rfl⟩, h.sndMax, h.buffer, hsent,
        le_rfl, h.fin, h.finSeq, by omega⟩
    | false =>
      rw [hfin] at hq
      obtain ⟨s, hs, has, hsc, -⟩ := h.spans.exists_of_inRange (inRange_of_discardUpTo hq)
      rw [if_neg (by simp), pos_inj (by omega) (by omega)] at hs
      obtain rfl : n = s := hs
      obtain ⟨q', hq', hspans, -⟩ := h.spans.discardUpTo has hsc (by omega) (by omega)
      cases hq.symm.trans hq'
      exact ⟨n, c, h.enabled, hspans, .inl rfl, h.sndMax, h.buffer, hsent, hstored, h.fin,
        h.finSeq, by omega⟩
  · -- after the ACK of the FIN there is nothing to acknowledge
    rw [huna] at hless
    obtain ⟨n, rfl, han, hna⟩ := exists_pos_of_seqGE (seqLE_of_seqLess hless)
    rw [seqLess_pos (by omega) (by omega), decide_eq_true_eq] at hless
    rw [seqLE_pos (by omega) (by omega), decide_eq_true_eq] at hle
    omega

theorem Inv.step (h : Inv t a c M B) {e : Event} (hadm : t.Admits e) (hok : t.step e = .ok t') :
    ∃ a' c' M' B', Inv t' a' c' M' B' := by
  cases e with
  | write bytes =>
    cases hok
    obtain ⟨hsend, hroom⟩ := hadm
    have hac := h.spans.le
    have hstored := h.stored
    have hsize := h.size
    rw [h.buffer, h.spans.beginSeq_eq, dist_pos (by omega) (by omega)] at hroom
    have hfin := h.fin
    rw [hsend] at hfin
    refine ⟨a, c, M, B + bytes.toNat, h.enabled, h.spans, ?_, h.sndMax, ?_, h.sent, by omega, ?_,
      ?_, by omega⟩
    · obtain huna | ⟨hsend', -⟩ := h.una
      · exact .inl huna
      · rw [hsend] at hsend'
        cases hsend'
    · change t.bufferEndSeq + bytes = _
      rw [h.buffer, pos_add]
    · obtain hfin | ⟨hfin, -⟩ := hfin
      · exact .inl (by omega)
      · cases hfin
    · intro hsend'
      have := hsend.symm.trans hsend'
      cases this
  | close =>
    cases hok
    have hsend : t.sendFin = false := hadm
    have hfin := h.fin
    rw [hsend] at hfin
    refine ⟨a, c, M, B, h.enabled, h.spans, ?_, h.sndMax, h.buffer, h.sent, h.stored, ?_,
      fun _ => h.buffer, h.size⟩
    · obtain huna | ⟨hsend', -⟩ := h.una
      · exact .inl huna
      · rw [hsend] at hsend'
        cases hsend'
    · obtain hfin | ⟨hfin, -⟩ := hfin
      · exact .inl hfin
      · cases hfin
  | send seqNum bytes optionsLen =>
    obtain ⟨c', M', h'⟩ := h.send hok
    exact ⟨a, c', M', B, h'⟩
  | ack ackNo window =>
    obtain ⟨a', c', h'⟩ := h.ack hadm hok
    exact ⟨a', c', M, B, h'⟩
  | sack first last =>
    obtain ⟨q, hq, hok⟩ := bind_eq_ok.1 hok
    cases hok
    obtain ⟨s, n, hs, rfl, has, hsn, hnc, hna, hcs, -⟩ := h.spans.exists_of_sack hadm
    obtain ⟨q', hq', hspans, -⟩ := h.spans.setSackedBit hs has hsn hnc hna hcs
    cases (ask_eq_ok hq).symm.trans hq'
    exact ⟨a, c, M, B, { h with spans := hspans }⟩
  | setPipe =>
    have hpipe : t.setPipe (t.rexmitQueue.rexmitQueue.length + 1) = .ok t' := hok
    rw [SackSender.setPipe, ite_error_eq_ok] at hpipe
    obtain ⟨pipe, -, hpipe⟩ := bind_eq_ok.1 hpipe.2
    cases hpipe
    exact ⟨a, c, M, B, { h with }⟩
  | timeout =>
    cases hok
    have hsacked : Spans t.rexmitQueue.resetSackedBit a c :=
      { h.spans with tiles := h.spans.tiles.map (fun _ => rfl) (fun _ => rfl) }
    have hspans : Spans t.rexmitQueue.resetSackedBit.resetRexmittedBit a c :=
      { hsacked with tiles := hsacked.tiles.map (fun _ => rfl) (fun _ => rfl) }
    exact ⟨a, c, M, B, { h with spans := hspans }⟩
  | setLossRecovery lossRecovery =>
    cases hok
    exact ⟨a, c, M, B, { h with }⟩
  | recover congestionWindow optionsLen =>
    obtain ⟨found, hturn, hok⟩ := bind_eq_ok.1 hok
    cases found with
    | none =>
      cases hok
      exact ⟨a, c, M, B, h⟩
    | some t1 =>
      cases hok
      obtain ⟨s, n, -, -, -, -, -, -, -, h'⟩ := h.turn hturn
      exact ⟨a, _, _, B, h'⟩

theorem exists_inv_of_run {iss : SeqNo} {sndMss sndWnd : BitVec 32} {es : List Event}
    (hrun : Run step Admits (established iss sndMss sndWnd) es t) :
    ∃ a c M B, Inv t a c M B := by
  refine hrun.invariant (I := fun t => ∃ a c M B, Inv t a c M B) ?_ ?_
  · rintro t e t' ⟨a, c, M, B, h⟩ hadm hok
    exact h.step hadm hok
  · obtain ⟨p, hp⟩ : ∃ p, pos p = iss + 1 :=
      ⟨(iss + 1).toNat, wrap_toNat (iss + 1)⟩
    exact ⟨p, p, p, p, rfl, ⟨hp.symm, hp.symm, rfl, by omega⟩, .inl hp.symm, hp.symm, hp.symm,
      le_rfl, le_rfl, .inl le_rfl, nofun, by omega⟩

/-- Ten segments are sent, the first one is lost and sent again. -/
def firstLostEvents : List Event :=
  .write 200 :: (List.range 10).map (fun k => .send (BitVec.ofNat 32 (10 * k)) 10 0) ++
    [.sack 10 100, .setLossRecovery true, .send 0 10 0, .setPipe]

end SackSender

end Hiwis
