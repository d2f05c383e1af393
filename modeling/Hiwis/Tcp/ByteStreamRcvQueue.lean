import Hiwis.Tcp.VirtualDataRcvQueue

/-!
# The byte-stream receive queue

`TCPByteStreamRcvQueue` is the receive queue whose regions carry the bytes that arrived.  It
shares the walk over the region list with `TCPVirtualDataRcvQueue`; the merge of two regions is
code of its own, which copies the bytes of both into a new buffer.

When a region is merged into a new segment that ends inside it, the bytes after the segment are
taken from the head of the stored region instead of from the middle
(`ByteStreamRegion.merge`, last copy).  Where no segment ends strictly inside a stored region the
queue hands up the stream that was sent.

* `ByteStreamRegion.spec` : merging and splitting of regions that carry a stream's octets;
* `Receiver.bytes_eq_octets` : what has been handed up is a prefix of the stream.
-/

namespace Hiwis

open List ByteData

/-- The octets `m`, ..., `n - 1` of a stream. -/
def octets (σ : ℕ → UInt8) (m n : ℕ) : ByteData := (range' m (n - m)).map σ

section Octets

variable (σ : ℕ → UInt8) {m k n : ℕ}

@[simp] theorem length_octets : (octets σ m n).length = n - m := by simp [octets]

theorem octets_append (hm : m ≤ k) (hn : k ≤ n) : octets σ m k ++ octets σ k n = octets σ m n := by
  have h := range'_append_1 (s := m) (m := k - m) (n := n - k)
  rw [show m + (k - m) = k by omega, show k - m + (n - k) = n - m by omega] at h
  rw [octets, octets, octets, ← map_append, h]

theorem take_octets (hm : m ≤ k) (hn : k ≤ n) : (octets σ m n).take (k - m) = octets σ m k := by
  rw [← octets_append σ hm hn, take_left' (length_octets σ)]

theorem drop_octets (hm : m ≤ k) (hn : k ≤ n) : (octets σ m n).drop (k - m) = octets σ k n := by
  rw [← octets_append σ hm hn, drop_left' (length_octets σ)]

end Octets

/-- Copying octets of the stream into the part of a buffer that is not filled yet. -/
theorem copyDataToBuffer_octets (σ : ℕ → UInt8) {m k n ptr len : ℕ} (pre junk : ByteData)
    (hm : m ≤ k) (hn : k ≤ n) (hptr : ptr = pre.length) (hlen : len = k - m) :
    (octets σ m n).copyDataToBuffer (pre ++ junk) ptr len 0 =
      pre ++ octets σ m k ++ junk.drop (k - m) := by
  subst hptr hlen
  simp [copyDataToBuffer, take_octets σ hm hn, drop_append]

/-- `TCPByteStreamRcvQueue::Region`. -/
structure ByteStreamRegion where
  getBegin : SeqNo
  getEnd : SeqNo
  data : ByteData
  deriving DecidableEq

namespace ByteStreamRegion

/-- `TCPByteStreamRcvQueue::Region::merge`. -/
def merge (self other : ByteStreamRegion) : Option ByteStreamRegion :=
  if seqLess self.getEnd other.getBegin || seqLess other.getEnd self.getBegin then none
  else
    let nbegin := seqMin self.getBegin other.getBegin
    let nend := seqMax self.getEnd other.getEnd
    if nbegin ≠ self.getBegin ∨ nend ≠ self.getEnd then
      let buff := replicate (nend - nbegin).toNat 0
      let buff :=
        if nbegin ≠ self.getBegin then
          other.data.copyDataToBuffer buff 0 (self.getBegin - nbegin).toNat 0
        else buff
      let buff := self.data.copyDataToBuffer buff (self.getBegin - nbegin).toNat
        (self.getEnd - self.getBegin).toNat 0
      let buff :=
        if nend ≠ self.getEnd then
          -- the offset into `other` is left at 0
          other.data.copyDataToBuffer buff (self.getEnd - nbegin).toNat
            (nend - self.getEnd).toNat 0
        else buff
      some ⟨nbegin, nend, buff⟩
    else some self

/-- `TCPByteStreamRcvQueue::Region::split`. -/
def split (self : ByteStreamRegion) (seq : SeqNo) :
    Except Fault (ByteStreamRegion × ByteStreamRegion) := do
  if ¬ (seqGreater seq self.getBegin && seqLess seq self.getEnd) then throw .splitRange
  let n := (seq - self.getBegin).toNat
  let head ← setDataFromByteArray self.data 0 n
  let tail ← self.data.truncateData n 0
  pure (⟨self.getBegin, seq, head⟩, ⟨seq, self.getEnd, tail⟩)

/-- `TCPByteStreamRcvQueue::createRegionFromSegment`. -/
def createRegionFromSegment (tcpseg : TCPSegment) : Except Fault ByteStreamRegion :=
  if tcpseg.payloadLength = tcpseg.byteArray.length then
    .ok ⟨tcpseg.sequenceNo, tcpseg.endSeq, tcpseg.byteArray⟩
  else .error .regionLength

instance : Region ByteStreamRegion where
  getBegin := getBegin
  getEnd := getEnd
  merge := merge
  split := split
  createRegionFromSegment := createRegionFromSegment

/-- The region carries the octets of the stream `σ`, whose first octet is at position `p₀`. -/
structure Carries (σ : ℕ → UInt8) (p₀ : ℤ) (r : ByteStreamRegion) (b e : ℤ) : Prop where
  le : p₀ ≤ b
  getBegin_eq : r.getBegin = pos b
  getEnd_eq : r.getEnd = pos e
  data_eq : r.data = octets σ (b - p₀).toNat (e - p₀).toNat

variable {σ : ℕ → UInt8} {p₀ : ℤ} {r r' : ByteStreamRegion} {b e b' e' : ℤ}

/-- The merge of regions that overlap or touch, in terms of the positions. -/
theorem merge_eq (hb : r.getBegin = pos b) (he : r.getEnd = pos e) (hb' : r'.getBegin = pos b')
    (he' : r'.getEnd = pos e') (hlt : b < e) (hlt' : b' < e') (hbe : b ≤ e') (hbe' : b' ≤ e)
    (hs : max e e' - min b b' ≤ 2 ^ 31) : r.merge r' =
      if min b b' ≠ b ∨ max e e' ≠ e then
        let buff := replicate (max e e' - min b b').toNat 0
        let buff := if min b b' ≠ b then
          r'.data.copyDataToBuffer buff 0 (b - min b b').toNat 0 else buff
        let buff := r.data.copyDataToBuffer buff (b - min b b').toNat (e - b).toNat 0
        let buff := if max e e' ≠ e then
          r'.data.copyDataToBuffer buff (e - min b b').toNat (max e e' - e).toNat 0 else buff
        some ⟨pos (min b b'), pos (max e e'), buff⟩
      else some r := by
  have hguard : (seqLess (pos e) (pos b') || seqLess (pos e') (pos b)) = false := by
    rw [seqLess_pos (by omega) (by omega), seqLess_pos (by omega) (by omega)]
    simp [hbe, hbe']
  have hnb : pos (min b b') = pos b ↔ min b b' = b := pos_inj (by omega) (by omega)
  have hne : pos (max e e') = pos e ↔ max e e' = e := pos_inj (by omega) (by omega)
  have hdist : ∀ {p q}, min b b' ≤ q → q ≤ p → p ≤ max e e' →
      (pos p - pos q).toNat = (p - q).toNat := fun _ _ _ => dist_pos (by omega) (by omega)
  rw [merge, hb, he, hb', he', hguard]
  simp only [Bool.false_eq_true, if_false, seqMin_pos (p := b) (q := b') (by omega) (by omega),
    seqMax_pos (p := e) (q := e') (by omega) (by omega), ne_eq, hnb, hne]
  rw [hdist (by omega) (by omega) (by omega), hdist (by omega) (by omega) (by omega),
    hdist (by omega) (by omega) (by omega), hdist (by omega) (by omega) (by omega),
    hdist (by omega) (by omega) (by omega)]

theorem Carries.merge (h : Carries σ p₀ r b e) (h' : Carries σ p₀ r' b' e') (hlt : b < e)
    (hlt' : b' < e') (hbe : b ≤ e') (hbe' : b' ≤ e) (hs : max e e' - min b b' ≤ 2 ^ 31)
    (hfit : e < e' → b' = e) :
    ∃ m, r.merge r' = some m ∧ Carries σ p₀ m (min b b') (max e e') := by
  have hp := h.le
  have hp' := h'.le
  rw [merge_eq h.getBegin_eq h.getEnd_eq h'.getBegin_eq h'.getEnd_eq hlt hlt' hbe hbe' hs, h.data_eq,
    h'.data_eq]
  by_cases hext : e < e'
  · -- the stored region starts where the segment ends
    obtain rfl := hfit hext
    have hmin : min b b' = b := min_eq_left hlt.le
    have hmax : max b' e' = e' := max_eq_right hext.le
    simp only [hmin, hmax, hext.ne', ne_eq, not_true_eq_false, not_false_eq_true, or_true, if_true,
      if_false, sub_self, Int.toNat_zero]
    refine ⟨_, rfl, h.le, rfl, rfl, ?_⟩
    have hself : (octets σ (b - p₀).toNat (b' - p₀).toNat).copyDataToBuffer
        (replicate (e' - b).toNat 0) 0 (b' - b).toNat 0 =
        octets σ (b - p₀).toNat (b' - p₀).toNat ++
          (replicate (e' - b).toNat 0).drop ((b' - p₀).toNat - (b - p₀).toNat) := by
      simpa using copyDataToBuffer_octets σ [] (replicate (e' - b).toNat 0)
        (show (b - p₀).toNat ≤ (b' - p₀).toNat by omega) le_rfl rfl
        (show (b' - b).toNat = _ by omega)
    rw [hself, copyDataToBuffer_octets σ (k := (e' - p₀).toNat) _ _ (by omega) le_rfl
      (by rw [length_octets]; omega) (by omega), octets_append σ (by omega) (by omega)]
    simp only [drop_replicate]
    rw [show (e' - b).toNat - _ - _ = 0 by omega, replicate_zero, append_nil]
  · have hmax : max e e' = e := max_eq_left (not_lt.1 hext)
    by_cases hbb : b' < b
    · have hmin : min b b' = b' := min_eq_right hbb.le
      simp only [hmin, hmax, hbb.ne, ne_eq, not_true_eq_false, not_false_eq_true, true_or, if_true,
        if_false, sub_self, Int.toNat_zero]
      refine ⟨_, rfl, h'.le, rfl, rfl, ?_⟩
      have hother : (octets σ (b' - p₀).toNat (e' - p₀).toNat).copyDataToBuffer
          (replicate (e - b').toNat 0) 0 (b - b').toNat 0 =
          octets σ (b' - p₀).toNat (b - p₀).toNat ++
            (replicate (e - b').toNat 0).drop ((b - p₀).toNat - (b' - p₀).toNat) := by
        simpa using copyDataToBuffer_octets σ [] (replicate (e - b').toNat 0)
          (show (b' - p₀).toNat ≤ (b - p₀).toNat by omega)
          (show (b - p₀).toNat ≤ (e' - p₀).toNat by omega) rfl (show (b - b').toNat = _ by omega)
      rw [hother, copyDataToBuffer_octets σ (k := (e - p₀).toNat) _ _ (by omega) le_rfl
        (by rw [length_octets]; omega) (by omega), octets_append σ (by omega) (by omega)]
      simp only [drop_replicate]
      rw [show (e - b').toNat - _ - _ = 0 by omega, replicate_zero, append_nil]
    · have hmin : min b b' = b := min_eq_left (not_lt.1 hbb)
      simp only [hmin, hmax, ne_eq, not_true_eq_false, or_self, if_false]
      exact ⟨r, rfl, h⟩

theorem Carries.split (h : Carries σ p₀ r b e) {m : ℤ} (hbm : b < m) (hme : m < e)
    (hs : e - b ≤ 2 ^ 31) :
    ∃ r1 r2, r.split (pos m) = .ok (r1, r2) ∧ Carries σ p₀ r1 b m ∧ Carries σ p₀ r2 m e := by
  have hp := h.le
  have hd : (pos m - pos b).toNat = (m - p₀).toNat - (b - p₀).toNat := by
    rw [dist_pos (by omega) (by omega)]
    omega
  have hguard : (seqGreater (pos m) r.getBegin && seqLess (pos m) r.getEnd) = true := by
    rw [h.getBegin_eq, h.getEnd_eq, seqGreater_pos (by omega) (by omega),
      seqLess_pos (by omega) (by omega)]
    simp [hbm, hme]
  have hm : (b - p₀).toNat ≤ (m - p₀).toNat := by omega
  have hn : (m - p₀).toNat ≤ (e - p₀).toNat := by omega
  have hhead : setDataFromByteArray r.data 0 (pos m - pos b).toNat =
      .ok (octets σ (b - p₀).toNat (m - p₀).toNat) := by
    rw [hd, h.data_eq, setDataFromByteArray, if_pos (by rw [length_octets]; omega),
      drop_zero, take_octets σ hm hn]
  have htail : r.data.truncateData (pos m - pos b).toNat 0 =
      .ok (octets σ (m - p₀).toNat (e - p₀).toNat) := by
    rw [hd, h.data_eq, truncateData, if_pos (by rw [length_octets]; omega),
      drop_octets σ hm hn, take_of_length_le (by rw [length_octets, length_octets]; omega)]
  refine ⟨⟨pos b, pos m, octets σ (b - p₀).toNat (m - p₀).toNat⟩,
    ⟨pos m, pos e, octets σ (m - p₀).toNat (e - p₀).toNat⟩, ?_, ⟨h.le, rfl, rfl, rfl⟩,
    ⟨by omega, rfl, rfl, rfl⟩⟩
  rw [h.getBegin_eq, h.getEnd_eq] at hguard
  simp [ByteStreamRegion.split, h.getBegin_eq, h.getEnd_eq, hguard, hhead, htail, -BitVec.toNat_sub]

/-- A region stands for the octets of the stream that it carries.  A new segment may be merged with
a stored region when it does not end strictly inside it. -/
def spec (σ : ℕ → UInt8) (p₀ : ℤ) : RegionSpec ByteStreamRegion where
  Rep := Carries σ p₀
  Fits e b' e' := e < e' → e ≤ b'
  getBegin_eq h := h.getBegin_eq
  getEnd_eq h := h.getEnd_eq
  fits_of_le h h' := absurd h' (not_lt.2 h)
  merge_rep h h' hlt hlt' hbe hbe' hs hfit :=
    h.merge h' hlt hlt' hbe hbe' hs fun hlt => le_antisymm hbe' (hfit hlt)
  split_rep h := h.split

end ByteStreamRegion

/-- The byte-stream receive queue. -/
abbrev TCPByteStreamRcvQueue := TCPVirtualDataRcvQueue ByteStreamRegion

/-- A packet of bytes that is handed up (`ByteArrayMessage`). -/
structure ByteArrayMessage where
  byteLength : ℕ
  byteArray : ByteData
  deriving DecidableEq

namespace TCPByteStreamRcvQueue

/-- `TCPByteStreamRcvQueue::Region::copyTo`. -/
def copyTo (reg : ByteStreamRegion) : Except Fault ByteArrayMessage :=
  if Region.getLength reg = reg.data.length then .ok ⟨Region.getLength reg, reg.data⟩
  else .error .copyLength

/-- `TCPByteStreamRcvQueue::extractBytesUpTo`. -/
def extractBytesUpTo (q : TCPByteStreamRcvQueue) (seq : SeqNo) :
    Except Fault (Option ByteArrayMessage × TCPByteStreamRcvQueue) := do
  let (reg, q) ← q.extractTo seq
  match reg with
  | none => pure (none, q)
  | some reg => do
    let msg ← copyTo reg
    pure (some msg, q)

end TCPByteStreamRcvQueue

/-! ### Receiving a stream -/

/-- A queue and the packets it has handed up, oldest first. -/
structure Receiver where
  queue : TCPByteStreamRcvQueue
  out : List ByteArrayMessage
  deriving DecidableEq

namespace Receiver

/-- A call at the queue. -/
inductive Call
  | insertBytesFromSegment (tcpseg : TCPSegment)
  | extractBytesUpTo (seq : SeqNo)
  deriving DecidableEq

/-- The receiver before anything has arrived. -/
def init (startSeq : SeqNo) : Receiver := ⟨TCPVirtualDataRcvQueue.init startSeq, []⟩

/-- The effect of a call. -/
def call (r : Receiver) : Call → Except Fault Receiver
  | .insertBytesFromSegment tcpseg => do
    let (_, queue) ← r.queue.insertBytesFromSegment tcpseg
    pure { r with queue }
  | .extractBytesUpTo seq => do
    let (msg, queue) ← TCPByteStreamRcvQueue.extractBytesUpTo r.queue seq
    pure ⟨queue, r.out ++ msg.toList⟩

/-- The bytes handed up so far. -/
def bytes (r : Receiver) : ByteData := (r.out.map ByteArrayMessage.byteArray).flatten

/-- The number of octets handed up so far. -/
def handedUp (r : Receiver) : ℕ := (r.out.map ByteArrayMessage.byteLength).sum

/-- The number in the stream of the octet that `rcv_nxt` stands for, where the first octet of the
stream is at position `p₀`. -/
def rcvNxtOffset (r : Receiver) (p₀ : ℤ) : ℕ :=
  r.handedUp + (r.queue.rcvNxt - pos (p₀ + r.handedUp)).toNat

/-- The segment carries the octets of the stream `σ` from number `a` on, within half of the
sequence space of `rcv_nxt`. -/
structure StreamSegment (σ : ℕ → UInt8) (p₀ : ℤ) (r : Receiver) (seg : TCPSegment) (a : ℕ) :
    Prop where
  sequenceNo_eq : seg.sequenceNo = pos (p₀ + a)
  nonempty : 0 < seg.payloadLength
  bytes_eq : seg.byteArray = octets σ a (a + seg.payloadLength)
  left_near : r.rcvNxtOffset p₀ ≤ a + 2 ^ 31
  right_near : a + seg.payloadLength ≤ r.rcvNxtOffset p₀ + 2 ^ 31

/-- Calls that receive the stream `σ`: the segments carry its octets, anything may be extracted. -/
def Receives (σ : ℕ → UInt8) (p₀ : ℤ) (r : Receiver) : Call → Prop
  | .insertBytesFromSegment seg => ∃ a, StreamSegment σ p₀ r seg a
  | .extractBytesUpTo _ => True

/-- Calls on which the queue keeps the bytes in place: a segment starts at or after the first octet
that has not been handed up and does not end strictly inside a stored region; and when the first
region lies beyond `rcv_nxt`, the octets asked for precede it in sequence order. -/
def Fits (r : Receiver) : Call → Prop
  | .insertBytesFromSegment seg => seqLE r.queue.getFirstSeqNo seg.sequenceNo ∧
      ∀ reg ∈ r.queue.regionList, ¬ (seqLess reg.getBegin seg.endSeq ∧ seqLess seg.endSeq reg.getEnd)
  | .extractBytesUpTo seq => ∀ reg ∈ r.queue.regionList.head?,
      seqLess r.queue.rcvNxt reg.getBegin → seqLE seq reg.getBegin

instance (r : Receiver) : DecidablePred (Fits r)
  | .insertBytesFromSegment seg => inferInstanceAs (Decidable (seqLE r.queue.getFirstSeqNo
      seg.sequenceNo = true ∧ ∀ reg ∈ r.queue.regionList,
        ¬ (seqLess reg.getBegin seg.endSeq = true ∧ seqLess seg.endSeq reg.getEnd = true)))
  | .extractBytesUpTo seq => inferInstanceAs (Decidable (∀ reg ∈ r.queue.regionList.head?,
      seqLess r.queue.rcvNxt reg.getBegin = true → seqLE seq reg.getBegin = true))

/-- What has been handed up is the beginning of the stream, and the queue holds octets after it. -/
structure Inv (σ : ℕ → UInt8) (p₀ : ℤ) (r : Receiver) : Prop where
  bytes_eq : r.bytes = octets σ 0 r.handedUp
  queue : ∃ nxt C, RcvInv (ByteStreamRegion.spec σ p₀) r.queue (p₀ + r.handedUp) nxt C

variable {σ : ℕ → UInt8} {p₀ : ℤ} {r r' : Receiver}

theorem Inv.init : Inv σ p₀ (init (pos p₀)) :=
  ⟨rfl, p₀, ∅, by simpa [handedUp, Receiver.init] using RcvInv.init p₀⟩

variable {C : Set ℤ}

theorem Inv.rcvNxtOffset_eq {nxt : ℤ}
    (h : RcvInv (ByteStreamRegion.spec σ p₀) r.queue (p₀ + r.handedUp) nxt C) :
    (r.rcvNxtOffset p₀ : ℤ) = nxt - p₀ := by
  have hle := h.le
  have hspan : nxt - (p₀ + r.handedUp) ≤ 2 ^ 31 := h.rcvNxt_sub_le
  rw [rcvNxtOffset, h.rcvNxt, dist_pos h.le (by omega)]
  omega

variable {seg : TCPSegment} {a : ℕ}

theorem StreamSegment.endSeq_eq (h : StreamSegment σ p₀ r seg a) :
    seg.endSeq = pos (p₀ + a + seg.payloadLength) := by
  rw [TCPSegment.endSeq, h.sequenceNo_eq, Serial.wrap_add_ofNat]

/-- The region made from a segment of the stream. -/
theorem StreamSegment.region (h : StreamSegment σ p₀ r seg a) :
    ∃ region : ByteStreamRegion, Region.createRegionFromSegment seg = .ok region ∧
      ByteStreamRegion.Carries σ p₀ region (p₀ + a) (p₀ + a + seg.payloadLength) := by
  refine ⟨⟨seg.sequenceNo, seg.endSeq, seg.byteArray⟩, ?_, by simp, h.sequenceNo_eq,
    h.endSeq_eq, ?_⟩
  · change ByteStreamRegion.createRegionFromSegment seg = _
    rw [ByteStreamRegion.createRegionFromSegment, if_pos]
    rw [h.bytes_eq, length_octets]
    omega
  · rw [h.bytes_eq, show (p₀ + a - p₀).toNat = a by omega,
      show (p₀ + a + seg.payloadLength - p₀).toNat = a + seg.payloadLength by omega]

theorem Inv.insert (h : Inv σ p₀ r) (hseg : Receives σ p₀ r (.insertBytesFromSegment seg))
    (hfit : Fits r (.insertBytesFromSegment seg))
    (hcall : r.call (.insertBytesFromSegment seg) = .ok r') : Inv σ p₀ r' := by
  obtain ⟨hbytes, nxt, C, hq⟩ := h
  obtain ⟨a, hseg⟩ := hseg
  obtain ⟨hfirst, hin⟩ := hfit
  obtain ⟨region, hcreate, hregion⟩ := hseg.region
  have hoff := Inv.rcvNxtOffset_eq hq
  have hleft := hseg.left_near
  have hright := hseg.right_near
  have hne := hseg.nonempty
  rw [hseg.sequenceNo_eq] at hfirst
  have hH := hq.le_of_firstSeqNo_le (a := p₀ + a) (by omega) hfirst
  have hinside : ∀ L, (ByteStreamRegion.spec σ p₀).Reps r.queue.regionList L → Ranges.Sep L →
      Ranges.cover L = C → ∀ p ∈ L, p₀ + a + seg.payloadLength < p.2 →
      p₀ + a + seg.payloadLength ≤ p.1 := by
    intro L hL hsep hcov p hp hlt
    by_contra hcon
    obtain ⟨reg, hreg, hrep⟩ := hL.exists_of_mem hp
    have hpos := hsep.pos hp
    have hspan := hq.span p.1 (hcov ▸ ⟨p, hp, le_rfl, hpos⟩) (p.2 - 1)
      (hcov ▸ ⟨p, hp, by omega, by omega⟩)
    refine hin reg hreg ?_
    rw [hrep.getBegin_eq, hrep.getEnd_eq, hseg.endSeq_eq, seqLess_pos (by omega) (by omega),
      seqLess_pos (by omega) (by omega)]
    simp only [decide_eq_true_eq]
    omega
  simp only [call] at hcall
  rcases hq.insertBytesFromSegment_spec hcreate hregion (by omega) hH (by omega) hinside with
    herr | ⟨q', nxt', hok, -, hinv⟩
  · rw [herr] at hcall
    cases hcall
  · rw [hok] at hcall
    cases hcall
    exact ⟨hbytes, nxt', _, hinv⟩

/-- A call that fits asks for octets less than half of the sequence space before the first region
that is stored. -/
theorem Fits.sub_lt {H nxt s : ℤ} (hq : RcvInv (ByteStreamRegion.spec σ p₀) r.queue H nxt C)
    (hs : s ≤ nxt) (hs' : nxt - s < 2 ^ 31) (hfit : Fits r (.extractBytesUpTo (pos s))) :
    ∀ x ∈ C, (∀ y ∈ C, x ≤ y) → x - s < 2 ^ 31 := by
  intro x hx hmin
  by_cases hlt : nxt < x
  · obtain ⟨L, hL, hsep, rfl⟩ := hq.regions
    have hne : r.queue.regionList ≠ [] := by
      rintro hnil
      rw [hnil] at hL
      cases hL
      simp at hx
    obtain ⟨front, _, ob, _, hfront, _, hob, _, hobm, _, hall⟩ :=
      RegionSpec.Reps.exists_ends hL hsep hne
    obtain rfl : ob = x := le_antisymm (hall x hx).1 (hmin ob hobm)
    have hb := (hq.bounds hx).2
    have hfits := hfit front hfront
    change front.getBegin = pos ob at hob
    rw [hob, hq.rcvNxt, seqLess_pos (by omega) (by omega), decide_eq_true_eq] at hfits
    have hle := hfits hlt
    rw [seqLE, dist_pos (by omega) (by omega), decide_eq_true_eq] at hle
    omega
  · omega

theorem Inv.extract (h : Inv σ p₀ r) {seq : SeqNo} (hfit : Fits r (.extractBytesUpTo seq))
    (hcall : r.call (.extractBytesUpTo seq) = .ok r') : Inv σ p₀ r' := by
  obtain ⟨hbytes, nxt, C, hq⟩ := h
  simp only [call, TCPByteStreamRcvQueue.extractBytesUpTo, Except.bind_eq_ok, Prod.exists] at hcall
  obtain ⟨msg, queue, ⟨reg, queue', hext, hcopy⟩, hr'⟩ := hcall
  have hasrt := RcvInv.seqLE_of_extractTo hext
  rw [hq.rcvNxt] at hasrt
  obtain ⟨s, rfl, hs, hs'⟩ := exists_pos_of_seqLE hasrt
  rcases hq.extractTo_spec hs hs' (Fits.sub_lt hq hs hs' hfit) with ⟨-, hnone⟩ | ⟨reg', q', hlt, hsome, hrep, hinv⟩
  · rw [hnone] at hext
    cases hext
    cases hcopy
    cases hr'
    exact ⟨by simpa [bytes, handedUp] using hbytes, nxt, C, by simpa [handedUp] using hq⟩
  · rw [hsome] at hext
    cases hext
    have hlen : (s - p₀).toNat = r.handedUp + reg'.data.length := by
      rw [hrep.data_eq, length_octets]
      omega
    simp only [TCPByteStreamRcvQueue.copyTo, Except.bind_eq_ok] at hcopy
    obtain ⟨msg', hmsg', hcopy⟩ := hcopy
    split_ifs at hmsg' with hl
    cases hmsg'
    cases hcopy
    cases hr'
    have hup : handedUp ⟨queue, r.out ++ [⟨Region.getLength reg', reg'.data⟩]⟩ = (s - p₀).toNat := by
      rw [hlen, ← hl]
      simp [handedUp]
    refine ⟨?_, nxt, C \ Set.Ico (p₀ + r.handedUp) s, ?_⟩
    · rw [Option.toList_some, hup]
      have : bytes ⟨queue, r.out ++ [⟨Region.getLength reg', reg'.data⟩]⟩ = r.bytes ++ reg'.data := by
        simp [bytes]
      rw [this, hbytes, hrep.data_eq, show (p₀ + (r.handedUp : ℤ) - p₀).toNat = r.handedUp by omega,
        octets_append σ (Nat.zero_le _) (by omega)]
    · rw [Option.toList_some, hup, show p₀ + ((s - p₀).toNat : ℤ) = s by omega]
      exact hinv

theorem Inv.step {c : Call} (h : Inv σ p₀ r) (hc : Receives σ p₀ r c ∧ Fits r c)
    (hcall : r.call c = .ok r') : Inv σ p₀ r' := by
  cases c with
  | insertBytesFromSegment seg => exact h.insert hc.1 hc.2 hcall
  | extractBytesUpTo seq => exact h.extract hc.2 hcall

/-- The segment with the octets `a`, ..., `a + n - 1` of the stream `0, 1, 2, ...`. -/
def countingSegment (a n : ℕ) : TCPSegment :=
  { sequenceNo := BitVec.ofNat 32 a, payloadLength := n, byteArray := octets UInt8.ofNat a (a + n) }

end Receiver

end Hiwis
