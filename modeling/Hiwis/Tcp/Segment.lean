import Hiwis.Lib.Serial
import Hiwis.Lib.Trace

/-!
# TCP segments

The sequence number comparisons of `TCPSegment.h`, the TCP segment of `TCPSegment.msg`, and the
operations of `TCPSegment.cc` on the text of a segment: its length in sequence space and its
truncation to a window.

Sequence numbers are 32-bit counters; `pos p` is the counter of the absolute stream position `p`,
and the lemmas `seqLess_pos`, `seqLE_pos`, ... turn the comparisons of positions less than half
the sequence space apart into comparisons of integers.
-/

namespace Hiwis

open Serial

/-- A sequence number (`uint32`). -/
abbrev SeqNo := BitVec 32

/-- Ways in which the TCP code stops: a failed `ASSERT` or a `cRuntimeError`. -/
inductive Fault
  /-- `truncateSegment`: the segment has no payload. -/
  | truncateEmpty
  /-- `truncateSegment(%u,%u) called on [%u, %u) segment`. -/
  | truncateDisjoint
  /-- `TCPSegment::truncateData`: more octets are cut off than there are. -/
  | truncateTooMuch
  /-- `ByteArray::setDataFromByteArray` or `ByteArray::truncateData`: out of range. -/
  | byteArrayRange
  /-- `createRegionFromSegment`: payload length and byte array disagree. -/
  | regionLength
  /-- `The new segment is [%u, %u) out of the acceptable range at the queue`. -/
  | rcvQueueRange
  /-- `Model error: merge of region [%u,%u) with [%u,%u) unsuccessful`. -/
  | mergeFailed
  /-- `Region::split` outside of the region. -/
  | splitRange
  /-- `copyTo`: the region and its byte array differ in length. -/
  | copyLength
  /-- `extractTo`: octets that have not arrived are asked for. -/
  | extractBeyond
  /-- `insertBytesFromSegment`: the payload list is not sorted. -/
  | payloadOrder
  /-- `Send queue is full`. -/
  | sendQueueFull
  /-- A send queue: the octets asked for or acknowledged are not stored in it. -/
  | sendQueueRange
  /-- `TCPSACKRexmitQueue`: the arguments of the call are outside of the queue. -/
  | rexmitRange
  /-- `TCPSACKRexmitQueue`: no region of the queue contains the sequence number. -/
  | rexmitNotFound
  /-- `TCPSACKRexmitQueue`: `checkQueue` fails at the end of the call. -/
  | rexmitCheckQueue
  deriving DecidableEq

section Comparisons

section

variable (a b : SeqNo)

/-- `a < b` in sequence order. -/
def seqLess : Bool := a != b && decide ((b - a).toNat < 2 ^ 31)

/-- `a ≤ b` in sequence order. -/
def seqLE : Bool := decide ((b - a).toNat < 2 ^ 31)

/-- `a > b` in sequence order. -/
def seqGreater : Bool := a != b && decide ((a - b).toNat < 2 ^ 31)

/-- `a ≥ b` in sequence order. -/
def seqGE : Bool := decide ((a - b).toNat < 2 ^ 31)

/-- The earlier of `a` and `b`. -/
def seqMin : SeqNo := if (b - a).toNat < 2 ^ 31 then a else b

/-- The later of `a` and `b`. -/
def seqMax : SeqNo := if (a - b).toNat < 2 ^ 31 then a else b

end

/-- The sequence number of the absolute position `p`. -/
abbrev pos (p : ℤ) : SeqNo := wrap 32 p

variable {p q : ℤ}

theorem seqLess_pos (h0 : q - p < 2 ^ 31) (h1 : p - q ≤ 2 ^ 31) :
    seqLess (pos p) (pos q) = decide (p < q) :=
  lt_wrap (w := 32) (by decide) h0 h1

theorem seqLE_pos (h0 : q - p < 2 ^ 31) (h1 : p - q ≤ 2 ^ 31) :
    seqLE (pos p) (pos q) = decide (p ≤ q) :=
  le_wrap (w := 32) (by decide) h0 h1

theorem seqGreater_pos (h0 : p - q < 2 ^ 31) (h1 : q - p ≤ 2 ^ 31) :
    seqGreater (pos p) (pos q) = decide (q < p) := by
  rw [← seqLess_pos (p := q) (q := p) h0 h1, seqGreater, seqLess, bne_comm]

theorem seqGE_pos (h0 : p - q < 2 ^ 31) (h1 : q - p ≤ 2 ^ 31) :
    seqGE (pos p) (pos q) = decide (q ≤ p) :=
  seqLE_pos h0 h1

theorem seqGE_pos_of_lt (h0 : p < q) (h1 : q - p ≤ 2 ^ 32) :
    seqGE (pos p) (pos q) = decide (2 ^ 31 < q - p) :=
  le_wrap_of_lt (w := 32) (by decide) h0 h1

theorem seqMin_pos (h0 : q - p < 2 ^ 31) (h1 : p - q ≤ 2 ^ 31) :
    seqMin (pos p) (pos q) = pos (min p q) := by
  have h := dist_lt_half_iff (w := 32) (by decide) h0 h1
  by_cases hpq : p ≤ q
  · rw [seqMin, if_pos (h.2 hpq), min_eq_left hpq]
  · rw [seqMin, if_neg (fun h' => hpq (h.1 h')), min_eq_right (by omega)]

theorem seqMin_pos_of_eq (h : q - p = 2 ^ 31) : seqMin (pos p) (pos q) = pos q := by
  have hd := dist_wrap (w := 32) (p := q) (q := p) (by omega) (by omega)
  rw [seqMin, if_neg]
  rw [hd, h]
  decide

theorem seqMax_pos (h0 : p - q < 2 ^ 31) (h1 : q - p ≤ 2 ^ 31) :
    seqMax (pos p) (pos q) = pos (max p q) := by
  have h := dist_lt_half_iff (w := 32) (by decide) h0 h1
  by_cases hpq : q ≤ p
  · rw [seqMax, if_pos (h.2 hpq), max_eq_left hpq]
  · rw [seqMax, if_neg (fun h' => hpq (h.1 h')), max_eq_right (by omega)]

theorem pos_inj (h0 : p - q < 2 ^ 32) (h1 : q - p < 2 ^ 32) : pos p = pos q ↔ p = q :=
  wrap_inj h0 h1

theorem dist_pos (h0 : q ≤ p) (h1 : p - q < 2 ^ 32) : (pos p - pos q).toNat = (p - q).toNat :=
  dist_wrap h0 h1

theorem dist_pos_neg (h0 : p < q) (h1 : q - p ≤ 2 ^ 32) :
    ((pos p - pos q).toNat : ℤ) = p - q + 2 ^ 32 :=
  dist_wrap_neg h0 h1

/-- The positions a counter may have when it is at most `q` in sequence order. -/
theorem exists_pos_of_seqLE {x : SeqNo} (h : seqLE x (pos q) = true) :
    ∃ p, pos p = x ∧ p ≤ q ∧ q - p < 2 ^ 31 := by
  obtain ⟨p, rfl, hp, hp'⟩ := exists_wrap x (q - 2 ^ 32 + 1)
  have hd := dist_pos (p := q) (q := p) (by omega) (by omega)
  rw [seqLE, hd, decide_eq_true_eq] at h
  exact ⟨p, rfl, by omega, by omega⟩

/-- The positions a counter may have when it is at least `q` in sequence order. -/
theorem exists_pos_of_seqGE {x : SeqNo} (h : seqLE (pos q) x = true) :
    ∃ p, pos p = x ∧ q ≤ p ∧ p - q < 2 ^ 31 := by
  obtain ⟨p, rfl, hp, hp'⟩ := exists_wrap x q
  rw [seqLE, dist_pos hp (by omega), decide_eq_true_eq] at h
  exact ⟨p, rfl, hp, by omega⟩

/-- A counter between two others in sequence order, which are less than the whole space apart. -/
theorem le_of_seqLE_pos {r : ℤ} (hpq : p ≤ q) (hqp : q - p ≤ 2 ^ 31) (hpr : p ≤ r)
    (hr : r - p < 2 ^ 32) (h : seqLE (pos q) (pos r) = true) : q ≤ r ∧ r - q < 2 ^ 31 := by
  by_cases hle : q ≤ r
  · rw [seqLE, dist_pos hle (by omega), decide_eq_true_eq] at h
    omega
  · rw [seqLE_pos (by omega) (by omega), decide_eq_true_eq] at h
    omega

theorem seqLE_of_seqLess {x y : SeqNo} (h : seqLess x y = true) : seqLE x y = true := by
  rw [seqLess, Bool.and_eq_true] at h
  exact h.2

end Comparisons

/-- A block of bytes (`ByteArray`). -/
abbrev ByteData := List UInt8

namespace ByteData

/-- `copyDataToBuffer`: copy at most `length` bytes of `data` from offset `srcOffs` on into the
buffer `buff` at offset `ptr`. -/
def copyDataToBuffer (data buff : ByteData) (ptr length srcOffs : ℕ) : ByteData :=
  let chunk := (data.drop srcOffs).take length
  buff.take ptr ++ chunk ++ buff.drop (ptr + chunk.length)

/-- `setDataFromByteArray`: the `length` bytes of `other` from offset `srcOffs` on. -/
def setDataFromByteArray (other : ByteData) (srcOffs length : ℕ) : Except Fault ByteData :=
  if srcOffs + length ≤ other.length then .ok ((other.drop srcOffs).take length)
  else .error .byteArrayRange

/-- `truncateData`: cut bytes off on both sides. -/
def truncateData (data : ByteData) (truncleft truncright : ℕ) : Except Fault ByteData :=
  if truncleft + truncright ≤ data.length then
    .ok ((data.drop truncleft).take (data.length - (truncleft + truncright)))
  else .error .byteArrayRange

end ByteData

/-- An application message object. -/
structure CPacket where
  /-- Which message object it is; copies made by `dup` share it. -/
  id : ℕ
  /-- Length in octets. -/
  byteLength : ℕ
  deriving DecidableEq

/-- A message object that travels in a segment, keyed by the sequence number that follows its
last octet. -/
structure TCPPayloadMessage where
  endSequenceNo : SeqNo
  msg : CPacket
  deriving DecidableEq

/-- A TCP header option. -/
structure TCPOption where
  kind : ℕ
  length : ℕ
  values : List SeqNo
  deriving DecidableEq

/-- Header length without options. -/
def tcpHeaderOctets : ℕ := 20

/-- A TCP segment. -/
structure TCPSegment where
  sequenceNo : SeqNo := 0
  ackNo : SeqNo := 0
  headerLength : ℕ := tcpHeaderOctets
  ackBit : Bool := false
  rstBit : Bool := false
  synBit : Bool := false
  finBit : Bool := false
  /-- The 16-bit window field. -/
  window : ℕ := 0
  options : List TCPOption := []
  /-- Payload length in octets. -/
  payloadLength : ℕ := 0
  /-- Message objects travelling in the segment (object transfer mode). -/
  payloadList : List TCPPayloadMessage := []
  /-- The bytes travelling in the segment (byte-stream transfer mode). -/
  byteArray : ByteData := []
  deriving DecidableEq

namespace TCPSegment

/-- The sequence number after the last payload octet. -/
def endSeq (seg : TCPSegment) : SeqNo := seg.sequenceNo + BitVec.ofNat 32 seg.payloadLength

/-- Remove the first message objects whose last octet is among the first `truncleft` ones. -/
def dropPayloadLeft (seq : SeqNo) (truncleft : ℕ) :
    List TCPPayloadMessage → List TCPPayloadMessage :=
  List.dropWhile fun p => decide ((p.endSequenceNo - seq).toNat ≤ truncleft)

/-- Remove the last message objects that end beyond the payload. -/
def dropPayloadRight (seq : SeqNo) (len : ℕ) (l : List TCPPayloadMessage) :
    List TCPPayloadMessage :=
  (l.reverse.dropWhile fun p => decide (len < (p.endSequenceNo - seq).toNat)).reverse

/-- Cut payload octets off on both sides.  The flags of the header are not looked at. -/
def truncateData (seg : TCPSegment) (truncleft truncright : ℕ) : Except Fault TCPSegment := do
  if ¬ (truncleft + truncright) % 2 ^ 32 ≤ seg.payloadLength then throw .truncateTooMuch
  let byteArray ←
    if seg.byteArray.length ≠ 0 then seg.byteArray.truncateData truncleft truncright
    else pure seg.byteArray
  let payloadList := dropPayloadLeft seg.sequenceNo truncleft seg.payloadList
  let sequenceNo := seg.sequenceNo + BitVec.ofNat 32 truncleft
  let payloadLength := seg.payloadLength - (truncleft + truncright) % 2 ^ 32
  pure { seg with
    byteArray, sequenceNo, payloadLength
    payloadList := dropPayloadRight sequenceNo payloadLength payloadList }

/-- Cut the segment down to the octets in `[firstSeqNo, endSeqNo)`. -/
def truncateSegment (seg : TCPSegment) (firstSeqNo endSeqNo : SeqNo) : Except Fault TCPSegment := do
  if seg.payloadLength = 0 then throw .truncateEmpty
  if ¬ (seqLess seg.sequenceNo endSeqNo && seqLess firstSeqNo seg.endSeq) then
    throw .truncateDisjoint
  let truncleft :=
    if seqLess seg.sequenceNo firstSeqNo then (firstSeqNo - seg.sequenceNo).toNat else 0
  let truncright := if seqGreater seg.endSeq endSeqNo then (seg.endSeq - endSeqNo).toNat else 0
  seg.truncateData truncleft truncright

/-- `truncateSegment` to the window `[f, e)` by positions. -/
theorem truncateSegment_eq {seg : TCPSegment} {a f e : ℤ} (hseq : seg.sequenceNo = pos a)
    (hn : 0 < seg.payloadLength) (hfe : f ≤ e) (hea : e - a < 2 ^ 31)
    (hnf : a + seg.payloadLength - f < 2 ^ 31) :
    seg.truncateSegment (pos f) (pos e) =
      if a < e ∧ f < a + seg.payloadLength then
        seg.truncateData (max a f - a).toNat
          (a + seg.payloadLength - min (a + seg.payloadLength) e).toNat
      else .error .truncateDisjoint := by
  have hend : seg.endSeq = pos (a + seg.payloadLength) := by
    rw [endSeq, hseq, wrap_add_ofNat]
  rw [truncateSegment, if_neg hn.ne', hend, hseq, seqLess_pos (by omega) (by omega),
    seqLess_pos (by omega) (by omega), seqLess_pos (by omega) (by omega),
    seqGreater_pos (by omega) (by omega)]
  have hleft : (if decide (a < f) = true then (pos f - pos a).toNat else 0) =
      (max a f - a).toNat := by
    by_cases h : a < f
    · rw [if_pos (by simpa using h), dist_pos h.le (by omega), max_eq_right h.le]
    · rw [if_neg (by simpa using h), max_eq_left (by omega), sub_self, Int.toNat_zero]
  have hright : (if decide (e < a + (seg.payloadLength : ℤ)) = true then
      (pos (a + seg.payloadLength) - pos e).toNat else 0) =
      (a + seg.payloadLength - min (a + seg.payloadLength) e).toNat := by
    by_cases h : e < a + seg.payloadLength
    · rw [if_pos (by simpa using h), dist_pos h.le (by omega), min_eq_right h.le]
    · rw [if_neg (by simpa using h), min_eq_left (by omega), sub_self, Int.toNat_zero]
  rw [hleft, hright]
  by_cases h : a < e ∧ f < a + (seg.payloadLength : ℤ) <;> simp [h]

end TCPSegment

end Hiwis
